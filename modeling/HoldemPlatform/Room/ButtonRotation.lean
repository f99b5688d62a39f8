import HoldemPlatform.Lib.Rotation
import HoldemPlatform.Room.HandLog

/-!
# The Button Goes Around

The button is the seat at the place of the hand number, and the blinds sit at fixed distances from it. The
first deal of a room keeps the hand number and every later one counts it up by one, whatever happens in
between. So over as many deals as there are seats, with the same seats, everybody has the button once and
posts each blind once (`button_and_blinds_rotate`).
-/

namespace HoldemPlatform.Room.ButtonRotation

open HoldemPlatform.Lib.Run HoldemPlatform.Lib.Rotation
open HoldemPlatform.Domain.Money HoldemPlatform.Domain.Game
open HoldemPlatform.Engine.State HoldemPlatform.Engine.Deal HoldemPlatform.Engine.Turn
open HoldemPlatform.Engine.Action HoldemPlatform.Engine.Round HoldemPlatform.Engine.Run
open HoldemPlatform.Room.Actor HoldemPlatform.Room.Effect HoldemPlatform.Room.HandLog

variable {Card : Type}

/-! ### The places of a hand -/

def buttonSeat (st : EngineState Card) : Option SeatId :=
  (sortedSeats st.hand.seatedPlayers)[stateDealerIndex st.snapshot.handNo st.hand.seatedPlayers.card]?

/-- How far from the button the small blind sits: with two seats the button posts it. -/
def smallBlindOffset (seatCount : ℕ) : ℕ := if seatCount = 2 then 0 else 1

/-- Where the blinds sit, counted by the hand number. -/
theorem blindsAndFirstToAct_places {st : EngineState Card} {seats : List SeatId} {sb bb first : SeatId}
    (h : blindsAndFirstToAct st seats = some (sb, bb, first)) :
    seats[(st.snapshot.handNo - 1 + smallBlindOffset seats.length) % seats.length]? = some sb ∧
    seats[(st.snapshot.handNo - 1 + (smallBlindOffset seats.length + 1)) % seats.length]? = some bb ∧
    (seats.length = 2 → first = sb) := by
  unfold blindsAndFirstToAct at h
  dsimp only at h
  split_ifs at h with hfew htwo
  · have hindex : stateDealerIndex st.snapshot.handNo seats.length =
        (st.snapshot.handNo - 1) % seats.length := if_neg (by omega)
    rw [hindex, Nat.mod_add_mod] at h
    simp only [Option.bind_eq_bind, Option.bind_eq_some_iff, Option.some.injEq, Prod.mk.injEq] at h
    obtain ⟨sb', hsb, bb', hbb, rfl, rfl, rfl⟩ := h
    rw [smallBlindOffset, if_pos htwo]
    exact ⟨hsb, hbb, fun _ => rfl⟩
  · have hindex : stateDealerIndex st.snapshot.handNo seats.length =
        (st.snapshot.handNo - 1) % seats.length := if_neg (by omega)
    rw [hindex, Nat.mod_add_mod, Nat.mod_add_mod, Nat.mod_add_mod] at h
    simp only [Option.bind_eq_bind, Option.bind_eq_some_iff, Option.some.injEq, Prod.mk.injEq] at h
    obtain ⟨sb', hsb, bb', hbb, first', -, rfl, rfl, rfl⟩ := h
    rw [smallBlindOffset, if_neg htwo]
    exact ⟨hsb, hbb, fun h2 => absurd h2 htwo⟩

/-- A hand that was just dealt: its number, the bets of its blinds, and who acts first. -/
structure OpensHand (st : EngineState Card) (sb bb first : SeatId) : Prop where
  handNo : 1 ≤ st.snapshot.handNo
  chosen : blindsAndFirstToAct st (sortedSeats st.hand.seatedPlayers) = some (sb, bb, first)
  ne : sb ≠ bb
  bets : st.bettingRound.playerBets = blinds sb bb
  acting : st.snapshot.actingSeatId = some first

def PostsSmallBlind (st : EngineState Card) (seat : SeatId) : Prop :=
  st.bettingRound.playerBets.lookup seat = some DEFAULT_SMALL_BLIND

def PostsBigBlind (st : EngineState Card) (seat : SeatId) : Prop :=
  st.bettingRound.playerBets.lookup seat = some DEFAULT_BIG_BLIND

instance (st : EngineState Card) (seat : SeatId) : Decidable (PostsSmallBlind st seat) :=
  inferInstanceAs (Decidable (_ = _))

instance (st : EngineState Card) (seat : SeatId) : Decidable (PostsBigBlind st seat) :=
  inferInstanceAs (Decidable (_ = _))

namespace OpensHand

variable {st : EngineState Card} {sb bb first : SeatId}

theorem postsBigBlind_iff (h : OpensHand st sb bb first) (seat : SeatId) :
    PostsBigBlind st seat ↔ seat = bb := by
  have hblinds : DEFAULT_SMALL_BLIND ≠ DEFAULT_BIG_BLIND := by decide
  rw [PostsBigBlind, h.bets, blinds]
  by_cases hbb : seat = bb
  · rw [hbb, AList.lookup_insert]
    simp
  rw [AList.lookup_insert_ne hbb]
  refine iff_of_false (fun hlookup => ?_) hbb
  by_cases hsb : seat = sb
  · rw [hsb, AList.lookup_insert] at hlookup
    exact hblinds (Option.some.inj hlookup)
  · rw [AList.lookup_insert_ne hsb] at hlookup
    cases hlookup

theorem postsSmallBlind_iff (h : OpensHand st sb bb first) (seat : SeatId) :
    PostsSmallBlind st seat ↔ seat = sb := by
  have hblinds : DEFAULT_BIG_BLIND ≠ DEFAULT_SMALL_BLIND := by decide
  rw [PostsSmallBlind, h.bets, blinds]
  by_cases hbb : seat = bb
  · rw [hbb, AList.lookup_insert]
    exact iff_of_false (fun heq => hblinds (Option.some.inj heq)) h.ne.symm
  rw [AList.lookup_insert_ne hbb]
  by_cases hsb : seat = sb
  · rw [hsb, AList.lookup_insert]
    simp
  · rw [AList.lookup_insert_ne hsb]
    exact iff_of_false (fun heq => by cases heq) hsb

/-- The seats of the hand, by their distance from the button. -/
theorem places {S : Finset SeatId} (h : OpensHand st sb bb first) (hseats : st.hand.seatedPlayers = S)
    (hcard : 2 ≤ S.card) (seat : SeatId) :
    (buttonSeat st = some seat ↔
      (sortedSeats S)[(st.snapshot.handNo - 1) % (sortedSeats S).length]? = some seat) ∧
    (PostsSmallBlind st seat ↔ (sortedSeats S)[(st.snapshot.handNo - 1 + smallBlindOffset S.card) %
      (sortedSeats S).length]? = some seat) ∧
    (PostsBigBlind st seat ↔ (sortedSeats S)[(st.snapshot.handNo - 1 + (smallBlindOffset S.card + 1)) %
      (sortedSeats S).length]? = some seat) := by
  subst hseats
  have hlen := length_sortedSeats st.hand.seatedPlayers
  obtain ⟨hsb, hbb, -⟩ := blindsAndFirstToAct_places h.chosen
  refine ⟨?_, ?_, ?_⟩
  · rw [buttonSeat, stateDealerIndex, if_neg (by omega), hlen]
  · rw [h.postsSmallBlind_iff, ← hlen, hsb, Option.some.injEq, eq_comm]
  · rw [h.postsBigBlind_iff, ← hlen, hbb, Option.some.injEq, eq_comm]

end OpensHand

theorem opensHand_dealtState [RsPoker Card] {st : EngineState Card} {deck : List Card}
    {dealing : DealingState Card} (newHandId : HandId) {sb bb first : SeatId}
    (h : Dealt st deck dealing sb bb first) (hno : 1 ≤ st.snapshot.handNo) :
    OpensHand (dealtState st dealing newHandId sb bb first) sb bb first := by
  refine ⟨?_, ?_, h.blindSeats.ne, rfl, rfl⟩
  · show 1 ≤ (nextHandNo st).snapshot.handNo
    unfold nextHandNo
    split_ifs
    · exact hno
    · show 1 ≤ saturatingAdd 64 st.snapshot.handNo 1
      unfold saturatingAdd
      omega
  · rw [seatedPlayers_dealtState]
    exact h.blinds

/-! ### The deals of a room -/

section

variable [RsPoker Card]

/-- The command deals the next hand. -/
def Deals (room : RoomState Card) (input : RoomInput Card) : Prop :=
  ∃ seatId, input.2 = .ready seatId ∧ StartsHand input.1 room seatId

instance (room : RoomState Card) (input : RoomInput Card) : Decidable (Deals room input) :=
  match h : input.2 with
  | .ready seatId =>
    decidable_of_iff (StartsHand input.1 room seatId)
      ⟨fun hs => ⟨seatId, h, hs⟩, fun ⟨s, hs, hstarts⟩ => by
        rw [h] at hs
        cases hs
        exact hstarts⟩
  | .join _ | .leave _ | .bindAddress _ _ | .bindSessionKeys _ _ _ _ _ | .getState | .getEngineState
  | .getLegalActions _ | .getPrivateEvents _ _ | .act _ | .queuePendingChainAction _ _
  | .chainTxVerified _ | .completeSettlement _ | .turnTimeoutElapsed _ | .turnReminderElapsed _
  | .schedulerTick => .isFalse fun ⟨s, hs, _⟩ => by rw [h] at hs; cases hs

/-- The engine states right after the successful deals of a run, in their order. -/
def dealtStates (config : RoomActorConfig) : RoomState Card → List (RoomInput Card) → List (EngineState Card)
  | _, [] => []
  | room, input :: rest =>
    if Deals room input then
      (roomRunStep config room input).state :: dealtStates config (roomRunStep config room input) rest
    else dealtStates config (roomRunStep config room input) rest

variable {room : RoomState Card} {input : RoomInput Card}

theorem deals_state (config : RoomActorConfig) (h : Deals room input) : ∃ dealing sb bb first,
    (roomRunStep config room input).state =
      dealtState room.state dealing input.1.newHandId sb bb first ∧
    Dealt room.state input.1.deck dealing sb bb first := by
  obtain ⟨env, cmd⟩ := input
  obtain ⟨seatId, rfl, hstarts⟩ := h
  obtain ⟨-, hstate, -⟩ := explained_start hstarts
  rcases deal_details room.state env.newHandId env.deck with ⟨e, he⟩ | ⟨dealing, sb, bb, first, hd, hdealt⟩
  · have hok := hstarts.dealt
    rw [he] at hok
    cases hok
  · refine ⟨dealing, sb, bb, first, ?_, hdealt⟩
    rw [hd] at hstate
    exact hstate

/-- Any other command keeps the hand number, and a room that has dealt stays one that has. -/
theorem handNo_of_not_deals (config : RoomActorConfig) (hinv : RoomInv room) (h : ¬ Deals room input) :
    (roomRunStep config room input).state.snapshot.handNo = room.state.snapshot.handNo ∧
    (room.state.snapshot.status ≠ .created →
      (roomRunStep config room input).state.snapshot.status ≠ .created) := by
  obtain ⟨env, cmd⟩ := input
  have hexplained : Explained env room cmd (roomStep config env room cmd).1 :=
    roomStep_announced config hinv.engine cmd
  obtain ⟨kinds, hann, -⟩ := hexplained
  show (roomStep config env room cmd).1.state.snapshot.handNo = _ ∧
    (_ → (roomStep config env room cmd).1.state.snapshot.status ≠ .created)
  generalize (roomStep config env room cmd).1.state = next at hann
  cases hann with
  | quiet _ hsnap => exact ⟨by rw [hsnap], by rw [hsnap]; exact id⟩
  | started seatId acting hcmd hstarts => exact absurd ⟨seatId, hcmd, hstarts⟩ h
  | accepted action happl hok _ result happ =>
    obtain ⟨mid, hmid, happ'⟩ := applyAction_accepted hinv.engine.pot hok
    rw [happ] at happ'
    obtain rfl : next = (advanceTurn mid action.seatId).1 := congrArg Prod.fst happ'
    have hturn := turn_cases mid action.seatId
    refine ⟨by rw [hturn.frame.handNo, hmid.snapshot], fun hstatus => ?_⟩
    have hmidStatus : mid.snapshot.status = room.state.snapshot.status := by rw [hmid.snapshot]
    generalize advanceTurn mid action.seatId = r at hturn
    cases hturn with
    | closed => nofun
    | showdown => nofun
    | street => exact hmidStatus ▸ hstatus
    | pass => exact hmidStatus ▸ hstatus
  | closed status _ hstatus =>
    refine ⟨rfl, fun _ => ?_⟩
    rcases hstatus with ⟨rfl, -⟩ | ⟨rfl, -⟩ <;> nofun

/-- The next hand: the number counts up, unless it is the largest there is. -/
def NextHand (st st' : EngineState Card) : Prop :=
  st'.snapshot.handNo = saturatingAdd 64 st.snapshot.handNo 1

theorem isChain_cons_dealtStates (config : RoomActorConfig) (inputs : List (RoomInput Card)) :
    ∀ {room : RoomState Card} {st : EngineState Card}, RoomInv room →
      room.state.snapshot.handNo = st.snapshot.handNo → room.state.snapshot.status ≠ .created →
      (st :: dealtStates config room inputs).IsChain NextHand := by
  induction inputs with
  | nil => intro room st _ _ _; exact .singleton _
  | cons input rest ih =>
    intro room st hinv hno hstatus
    have hnext := roomInv_step config room input hinv
    unfold dealtStates
    split_ifs with hdeals
    · obtain ⟨dealing, sb, bb, first, hstate, -⟩ := deals_state config hdeals
      refine List.isChain_cons_cons.2 ⟨?_, ih hnext rfl ?_⟩
      · rw [NextHand, hstate, ← hno]
        show (nextHandNo room.state).snapshot.handNo = _
        rw [nextHandNo, if_neg hstatus]
      · rw [hstate]
        nofun
    · obtain ⟨hsame, hkeep⟩ := handNo_of_not_deals config hinv hdeals
      exact ih hnext (hsame.trans hno) (hkeep hstatus)

theorem isChain_dealtStates (config : RoomActorConfig) (inputs : List (RoomInput Card)) :
    ∀ {room : RoomState Card}, RoomInv room → (dealtStates config room inputs).IsChain NextHand := by
  induction inputs with
  | nil => intro room _; exact .nil
  | cons input rest ih =>
    intro room hinv
    have hnext := roomInv_step config room input hinv
    unfold dealtStates
    split_ifs with hdeals
    · obtain ⟨dealing, sb, bb, first, hstate, -⟩ := deals_state config hdeals
      refine isChain_cons_dealtStates config rest hnext rfl ?_
      rw [hstate]
      nofun
    · exact ih hnext

theorem opensHand_of_mem_dealtStates (config : RoomActorConfig) (inputs : List (RoomInput Card)) :
    ∀ {room : RoomState Card}, RoomInv room → 1 ≤ room.state.snapshot.handNo →
      ∀ st ∈ dealtStates config room inputs, ∃ sb bb first, OpensHand st sb bb first := by
  induction inputs with
  | nil => intro room _ _ st hst; cases hst
  | cons input rest ih =>
    intro room hinv hno st hst
    have hnext := roomInv_step config room input hinv
    unfold dealtStates at hst
    split_ifs at hst with hdeals
    · obtain ⟨dealing, sb, bb, first, hstate, hdealt⟩ := deals_state config hdeals
      have hopens := opensHand_dealtState input.1.newHandId hdealt hno
      rw [← hstate] at hopens
      rcases List.mem_cons.1 hst with rfl | hst
      · exact ⟨sb, bb, first, hopens⟩
      · exact ih hnext hopens.handNo st hst
    · refine ih hnext ?_ st hst
      rw [(handNo_of_not_deals config hinv hdeals).1]
      exact hno

/-- **Button and blinds go around**: over as many deals in a row as there are seats, with the same seats in
all of them and hand numbers that can still be counted up, the hand number goes up by one with each deal,
every seat has the button once and posts each blind once. In each of the deals the blinds are two seats,
and with two seats the button posts the small blind and acts first. -/
theorem button_and_blinds_rotate (config : RoomActorConfig) (roomId : RoomId) (handId : HandId)
    (inputs : List (RoomInput Card)) (S : Finset SeatId) (hcard : 2 ≤ S.card)
    (deals : List (EngineState Card))
    (hdeals : deals <:+: dealtStates config (RoomState.spawn roomId handId) inputs)
    (hlen : deals.length = S.card) (hseats : ∀ st ∈ deals, st.hand.seatedPlayers = S)
    (hno : ∀ st ∈ deals, st.snapshot.handNo < 2 ^ 64 - 1) :
    deals.IsChain (fun st st' => st'.snapshot.handNo = st.snapshot.handNo + 1) ∧
    (∀ seat ∈ S, (deals.countP fun st => buttonSeat st = some seat) = 1 ∧
      (deals.countP fun st => PostsSmallBlind st seat) = 1 ∧
      (deals.countP fun st => PostsBigBlind st seat) = 1) ∧
    ∀ st ∈ deals, ∃ sb bb, sb ≠ bb ∧ (∀ seat, PostsSmallBlind st seat ↔ seat = sb) ∧
      (∀ seat, PostsBigBlind st seat ↔ seat = bb) ∧
      (S.card = 2 → buttonSeat st = some sb ∧ st.snapshot.actingSeatId = some sb) := by
  have hinv : RoomInv (RoomState.spawn roomId handId : RoomState Card) := roomInv_spawn roomId handId
  have hopens : ∀ st ∈ deals, ∃ sb bb first, OpensHand st sb bb first := fun st hst =>
    opensHand_of_mem_dealtStates config inputs hinv (le_refl 1) st (hdeals.subset hst)
  have hfirst : ∀ st ∈ deals, 1 ≤ st.snapshot.handNo := by
    intro st hst
    obtain ⟨_, _, _, h⟩ := hopens st hst
    exact h.handNo
  have hchain : deals.IsChain (fun st st' => st'.snapshot.handNo = st.snapshot.handNo + 1) := by
    have hall := isChain_dealtStates config inputs hinv
    obtain ⟨earlier, later, heq⟩ := id hdeals
    rw [← heq] at hall
    refine hall.left_of_append.right_of_append.imp_of_mem_imp fun st st' hst _ hnext => ?_
    have hlt := hno st hst
    rw [NextHand, saturatingAdd] at hnext
    omega
  -- a place at a fixed distance from the button goes around with it
  have hround : ∀ (offset : ℕ) (P : EngineState Card → Prop) [DecidablePred P], ∀ seat ∈ S,
      (∀ st ∈ deals, P st ↔ (sortedSeats S)[(st.snapshot.handNo - 1 + offset) %
        (sortedSeats S).length]? = some seat) → deals.countP P = 1 := by
    intro offset P _ seat hseat hplace
    refine (List.countP_congr fun st hst => ?_).trans (countP_around (nodup_sortedSeats S)
      (mem_sortedSeats.2 hseat) (f := fun st => st.snapshot.handNo - 1 + offset) ?_
      (by rw [hlen, length_sortedSeats]))
    · simpa using hplace st hst
    refine hchain.imp_of_mem_imp fun st st' hst _ hnext => ?_
    have hpos := hfirst st hst
    omega
  refine ⟨hchain, fun seat hseat => ⟨hround 0 _ seat hseat fun st hst => ?_,
    hround (smallBlindOffset S.card) _ seat hseat fun st hst => ?_,
    hround (smallBlindOffset S.card + 1) _ seat hseat fun st hst => ?_⟩, fun st hst => ?_⟩
  · obtain ⟨_, _, _, h⟩ := hopens st hst
    exact (h.places (hseats st hst) hcard seat).1
  · obtain ⟨_, _, _, h⟩ := hopens st hst
    exact (h.places (hseats st hst) hcard seat).2.1
  · obtain ⟨_, _, _, h⟩ := hopens st hst
    exact (h.places (hseats st hst) hcard seat).2.2
  · obtain ⟨sb, bb, first, h⟩ := hopens st hst
    refine ⟨sb, bb, h.ne, h.postsSmallBlind_iff, h.postsBigBlind_iff, fun htwo => ?_⟩
    obtain ⟨hbutton, hsmall, -⟩ := h.places (hseats st hst) hcard sb
    have hlen2 : (sortedSeats st.hand.seatedPlayers).length = 2 := by
      rw [length_sortedSeats, hseats st hst, htwo]
    rw [h.acting, (blindsAndFirstToAct_places h.chosen).2.2 hlen2]
    refine ⟨hbutton.2 ?_, rfl⟩
    have hsb := hsmall.1 ((h.postsSmallBlind_iff sb).2 rfl)
    rwa [smallBlindOffset, if_pos htwo, Nat.add_zero] at hsb

end

/-- The first hand of two seats is folded and seat `0` is ready for the next one. -/
def foldedHand : List RoomCommand := openTable ++ [.act (tableAction 1 0 .fold none), .ready 0]

def twoDeals : List (EngineState ByteCard) :=
  dealtStates {} (RoomState.spawn ⟨0⟩ ⟨0⟩) (foldedHand.map fun cmd => (tableEnv, cmd))

theorem two_deals_rotate :
    (twoDeals.countP fun st => buttonSeat st = some 0) = 1 ∧
      (twoDeals.countP fun st => buttonSeat st = some 1) = 1 := by
  have hrotate := button_and_blinds_rotate {} ⟨0⟩ ⟨0⟩ _ {0, 1} (by decide) twoDeals List.infix_rfl
    (by decide +kernel) (by decide +kernel) (by decide +kernel)
  exact ⟨(hrotate.2.1 0 (by decide)).1, (hrotate.2.1 1 (by decide)).1⟩

end HoldemPlatform.Room.ButtonRotation
