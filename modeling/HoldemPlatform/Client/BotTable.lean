import HoldemPlatform.Engine.LegalActions
import HoldemPlatform.Room.Effect

/-!
# A Table of Bots

`local_multi_bot_demo` lets the seats of a room play a hand by one rule: check if that is listed, else
call, else fold. At such a table nobody ever folds or goes all-in, so the trouble with all-in seats does
not come up: the hand takes at most four turns a seat, every action is accepted, and it ends in a
showdown for one big blind of each seat (`bots_reach_showdown`).

`BotInv` is what holds before every turn. The pot is followed through the first street only: there the
chips of the pot are the bets of the street, and when it closes all seats have bet the big blind.
-/

namespace HoldemPlatform.Client.BotTable

open HoldemPlatform.Lib.FiniteMap HoldemPlatform.Lib.Run
open HoldemPlatform.Domain.Money HoldemPlatform.Domain.Game
open HoldemPlatform.Engine.State HoldemPlatform.Engine.Deal HoldemPlatform.Engine.Turn
open HoldemPlatform.Engine.Action HoldemPlatform.Engine.Round HoldemPlatform.Engine.Run
open HoldemPlatform.Engine.Copies HoldemPlatform.Engine.HandEnds HoldemPlatform.Engine.SmallStakes
open HoldemPlatform.Engine.LegalActions HoldemPlatform.Room.Actor

variable {Card : Type}

/-- `choose_action`, without the fields that the loop fills in. -/
def chooseAction (legalActions : List LegalAction) : ActionType :=
  if legalActions.any fun a => a.actionType = .check then .check
  else if legalActions.any fun a => a.actionType = .call then .call
  else .fold

def botAction (st : EngineState Card) (seatId : SeatId) : PlayerAction where
  roomId := st.snapshot.roomId
  handId := st.snapshot.handId
  seatId
  actionSeq := st.snapshot.nextActionSeq
  actionType := chooseAction (legalActions st seatId)
  amount := none

/-- The loop of `run_local_multi_bot_demo`, after `steps` rounds of it. It may wait for ever for a seat to
act, so it is given a number of rounds; `none` is a loop that has not come to an end. -/
def demoLoop [RsPoker Card] (maxSteps : ℕ) :
    (rounds steps : ℕ) → RoomState Card → Option (Except String HandStatus × RoomState Card)
  | 0, _, _ => none
  | rounds + 1, steps, room =>
    let steps := saturatingAdd 32 steps 1
    let snapshot := room.state.snapshot
    if snapshot.status = .settled ∨ snapshot.status = .aborted ∨ snapshot.status = .showdown then
      some (.ok snapshot.status, room)
    else
      match snapshot.actingSeatId with
      | none => demoLoop maxSteps rounds steps room
      | some seatId =>
        match applyAndEmit room (botAction room.state seatId) with
        | (room, .error e) => some (.error e, room)
        | (room, .ok _) =>
          if maxSteps < steps then some (.error "demo exceeded step limit", room)
          else demoLoop maxSteps rounds steps room

/-! ### What a bot does -/

section

variable {st : EngineState Card} {seat : SeatId}

theorem chooseAction_eq (hact : st.snapshot.actingSeatId = some seat) :
    chooseAction (legalActions st seat) = if toCall st seat = 0 then .check else .call := by
  rw [legalActions, if_neg (not_not_intro hact)]
  by_cases hzero : toCall st seat = 0 <;> simp [chooseAction, hzero]

theorem botAction_type (hact : st.snapshot.actingSeatId = some seat) :
    (botAction st seat).actionType = .check ∧ toCall st seat = 0 ∨
      (botAction st seat).actionType = .call ∧ toCall st seat ≠ 0 := by
  have htype : (botAction st seat).actionType = _ := chooseAction_eq hact
  rw [htype]
  split_ifs with hzero
  · exact .inl ⟨rfl, hzero⟩
  · exact .inr ⟨rfl, hzero⟩

theorem botAction_keeps (hact : st.snapshot.actingSeatId = some seat) :
    raises st (botAction st seat) = false ∧ foldedAfter st (botAction st seat) = st.hand.foldedSeats ∧
      allInAfter st (botAction st seat) = st.hand.allInSeats := by
  rcases botAction_type hact with ⟨htype, -⟩ | ⟨htype, -⟩ <;>
    simp [raises, foldedAfter, allInAfter, htype]

theorem botAction_acceptable (h : SmallBets st) (hact : st.snapshot.actingSeatId = some seat) :
    Acceptable st (botAction st seat) := by
  have hplay : Playable st (botAction st seat) := by
    rcases botAction_type hact with ⟨htype, hcall⟩ | ⟨htype, hcall⟩
    · rw [Playable, htype]
      exact hcall
    · rw [Playable, htype]
      exact hcall
  refine (acceptable_iff h.round fun target htarget => ?_).2 ⟨rfl, hact, hplay⟩
  exact target_lt h.round (by simp [SmallAmount, botAction, Chips.asU128_zero]) htarget

end

/-! ### Before every turn -/

/-- The chips of a table where everybody has bet at most the big blind. -/
def Stakes (st : EngineState Card) : Prop :=
  (st.snapshot.street = .preflop ∧ st.bettingRound.currentBet = DEFAULT_BIG_BLIND ∧
      st.pot.mainPot.asU128 = streetBets st ∧ ∀ s ∉ st.hand.seatedPlayers, st.seatBet s = 0) ∨
    (st.snapshot.street ≠ .preflop ∧ st.bettingRound.currentBet = 0 ∧
      st.pot.mainPot.asU128 = st.hand.seatedPlayers.card * DEFAULT_BIG_BLIND.asU128)

/-- What holds before every turn of a bot. -/
structure BotInv (st : EngineState Card) : Prop where
  small : SmallBets st
  copies : TurnCopies st
  order : ∀ seat, st.snapshot.actingSeatId = some seat → TurnOrder st seat
  seats : 2 ≤ st.hand.seatedPlayers.card
  folded : st.hand.foldedSeats = ∅
  allIn : st.hand.allInSeats = ∅
  stakes : Stakes st

/-- What the table shows when the bots are done. -/
structure BotShowdown (st : EngineState Card) (seats : Finset SeatId) : Prop where
  status : st.snapshot.status = .showdown
  folded : st.hand.foldedSeats = ∅
  allIn : st.hand.allInSeats = ∅
  seated : st.hand.seatedPlayers = seats
  pot : st.pot.mainPot.asU128 = seats.card * DEFAULT_BIG_BLIND.asU128

theorem BotInv.noIdle {st : EngineState Card} (h : BotInv st) : NoIdleAllIn st := by
  intro _
  refine .inr fun s _ hs => ?_
  rw [h.allIn] at hs
  exact absurd hs (Finset.notMem_empty s)

section

variable {st mid : EngineState Card} {seat : SeatId}

theorem seatBet_none {action : PlayerAction} (hmid : BeforeTurn st action mid)
    (hseat : action.seatId ∈ st.hand.seatedPlayers)
    (hnone : ∀ s ∉ st.hand.seatedPlayers, st.seatBet s = 0) :
    ∀ s ∉ st.hand.seatedPlayers, mid.seatBet s = 0 := by
  intro s hs
  have hne : s ≠ action.seatId := by
    rintro rfl
    exact hs hseat
  rw [hmid.seatBet, seatBet_placedBets_ne hne]
  exact hnone s hs

theorem stakes_mid (h : BotInv st) (hact : st.snapshot.actingSeatId = some seat)
    (hmid : BeforeTurn st (botAction st seat) mid) : Stakes mid := by
  obtain ⟨hraise, -, -⟩ := botAction_keeps hact
  have hplay := (botAction_acceptable h.small hact).playable
  have hcurrent : mid.bettingRound.currentBet = st.bettingRound.currentBet := by
    rw [hmid.currentBet]
    exact currentBet_of_not_raises hraise
  have hstreet : mid.snapshot.street = st.snapshot.street := by rw [hmid.snapshot]
  have hseats : mid.hand.seatedPlayers = st.hand.seatedPlayers := by rw [hmid.hand]
  have hpaid := hmid.paid
  unfold Stakes
  rw [hcurrent, hstreet, hseats, hpaid]
  rcases h.stakes with ⟨hpre, hbet, hpot, hnone⟩ | ⟨hpost, hbet, hpot⟩
  · refine .inl ⟨hpre, hbet, ?_, seatBet_none hmid (h.order seat hact).seated hnone⟩
    have hbets : streetBets mid = streetBets (placedBets st (botAction st seat)) :=
      Finset.sum_congr rfl fun s _ => by rw [hmid.seatBet]
    rw [hbets, streetBets_placedBets hplay, hpot]
  · refine .inr ⟨hpost, hbet, ?_⟩
    -- nobody has bet anything on this street, so there is nothing to call
    have hzero : toCall st seat = 0 := by
      rw [toCall, hbet]
      exact Chips.eq_zero_iff.2 (by rw [Chips.asU128_subOrZero, Chips.asU128_zero, Nat.zero_sub])
    rcases botAction_type hact with ⟨htype, -⟩ | ⟨-, hne⟩
    · rw [chipsPaid, htype, Nat.add_zero, hpot]
    · exact absurd hzero hne

/-- A round that is over has taken the big blind from every seat. -/
theorem pot_of_complete (hfolded : mid.hand.foldedSeats = ∅) (hallIn : mid.hand.allInSeats = ∅)
    (hstakes : Stakes mid) (hround : RoundComplete mid) :
    mid.pot.mainPot.asU128 = mid.hand.seatedPlayers.card * DEFAULT_BIG_BLIND.asU128 := by
  rcases hstakes with ⟨-, hbet, hpot, hnone⟩ | ⟨-, -, hpot⟩
  · have hdone : ∀ s ∈ mid.hand.seatedPlayers, (mid.seatBet s).asU128 = DEFAULT_BIG_BLIND.asU128 := by
      intro s hs
      have hactive : s ∈ activeSeats mid := mem_activeSeats.2 ⟨hs, by simp [hfolded]⟩
      rcases (hround s hactive).2 with hin | hmatch
      · rw [hallIn] at hin
        exact absurd hin (Finset.notMem_empty s)
      · rw [hmatch, hbet]
    have hsum : streetBets mid = ∑ s ∈ mid.hand.seatedPlayers, (mid.seatBet s).asU128 := by
      refine (Finset.sum_subset (Finset.subset_univ _) fun s _ hs => ?_).symm
      rw [hnone s hs]
      rfl
    rw [hpot, hsum]
    exact Finset.sum_const_nat hdone
  · exact hpot

variable [RsPoker Card]

/-- **One turn of a bot**: either the table is at the showdown, or there is one turn less to take. -/
theorem bot_turn (h : BotInv st) (hact : st.snapshot.actingSeatId = some seat) :
    ∃ result, (applyAction st (botAction st seat)).2 = .ok result ∧
      (BotShowdown (applyAction st (botAction st seat)).1 st.hand.seatedPlayers ∨
        BotInv (applyAction st (botAction st seat)).1 ∧
          (∃ next, (applyAction st (botAction st seat)).1.snapshot.actingSeatId = some next) ∧
          (applyAction st (botAction st seat)).1.hand.seatedPlayers = st.hand.seatedPlayers ∧
          turnsLeft (applyAction st (botAction st seat)).1 + 1 ≤ turnsLeft st) := by
  have hok := botAction_acceptable h.small hact
  have hpot := h.small.engine.pot
  obtain ⟨hraise, hfold, hallIn⟩ := botAction_keeps hact
  have hdrop : turnsLeft (applyAction st (botAction st seat)).1 + 1 ≤ turnsLeft st :=
    turnsLeft_actStep hpot h.noIdle (h.order seat hact) hok hraise
  have horder : ∀ next, (applyAction st (botAction st seat)).1.snapshot.actingSeatId = some next →
      TurnOrder (applyAction st (botAction st seat)).1 next :=
    turnOrder_actStep hpot h.noIdle h.order (botAction st seat)
  have hsmall : SmallBets (applyAction st (botAction st seat)).1 :=
    smallBets_step st (.act (botAction st seat)) (by simp [SmallOp, SmallAmount, botAction, Chips.asU128_zero])
      h.small
  have hcopies : TurnCopies (applyAction st (botAction st seat)).1 := h.copies.applyAction hpot _
  obtain ⟨mid, hmid, happ⟩ := applyAction_accepted hpot hok
  have hstakes := stakes_mid h hact hmid
  have hfolded : mid.hand.foldedSeats = ∅ := by rw [hmid.hand]; exact hfold.trans h.folded
  have hallIn' : mid.hand.allInSeats = ∅ := by rw [hmid.hand]; exact hallIn.trans h.allIn
  have hseats : mid.hand.seatedPlayers = st.hand.seatedPlayers := by rw [hmid.hand]
  have hactive : activeSeats mid = st.hand.seatedPlayers := by
    rw [hmid.activeSeats, hfold, h.folded]
    exact Finset.filter_true_of_mem fun s _ => Finset.notMem_empty s
  have hpaid := pot_of_complete hfolded hallIn' hstakes
  rw [happ] at hdrop horder hsmall hcopies ⊢
  refine ⟨_, rfl, ?_⟩
  have hstep := turn_step mid (botAction st seat).seatId
  generalize advanceTurn mid (botAction st seat).seatId = r at hdrop horder hsmall hcopies hstep ⊢
  have hcard : 2 ≤ (activeSeats mid).card := by rw [hactive]; exact h.seats
  cases hstep with
  | closed hone => omega
  | river _ hround =>
    refine .inl ⟨rfl, hfolded, hallIn', hseats, ?_⟩
    rw [← hseats]
    exact hpaid hround
  | street _ hround street next hnext =>
    refine .inr ⟨⟨hsmall, hcopies, horder, ?_, hfolded, hallIn', .inr ⟨?_, rfl, ?_⟩⟩, ⟨next, rfl⟩, hseats,
      hdrop⟩
    · exact le_of_le_of_eq h.seats (congrArg Finset.card hseats.symm)
    · rintro (rfl : street = .preflop)
      cases hs : mid.snapshot.street <;> rw [hs] at hnext <;> cases hnext
    · exact hpaid hround
  | nobody _ _ hnone =>
    -- everybody can act
    have hmem : seat ∈ actionableSeats mid := by
      refine mem_actionableSeats.2 ⟨?_, by simp [hallIn']⟩
      rw [hactive]
      exact (h.order seat hact).seated
    rw [hnone] at hmem
    exact absurd hmem (Finset.notMem_empty seat)
  | pass _ _ next _ =>
    refine .inr ⟨⟨hsmall, hcopies, horder, ?_, hfolded, hallIn', hstakes⟩, ⟨next, rfl⟩, hseats, hdrop⟩
    exact le_of_le_of_eq h.seats (congrArg Finset.card hseats.symm)

end

/-! ### The loop -/

section

variable [RsPoker Card]

theorem applyAndEmit_ok {room : RoomState Card} {action : PlayerAction} {result : EngineActionResult}
    (h : (applyAction room.state action).2 = .ok result) : (applyAndEmit room action).2 = .ok result := by
  unfold applyAndEmit
  generalize applyAction room.state action = r at h
  obtain ⟨state, outcome⟩ := r
  cases h
  rfl

theorem demoLoop_done {maxSteps rounds steps : ℕ} {room : RoomState Card}
    (h : room.state.snapshot.status = .showdown) :
    demoLoop maxSteps (rounds + 1) steps room = some (.ok .showdown, room) := by
  rw [demoLoop, h]
  exact if_pos (.inr (.inr rfl))

theorem demoLoop_turn {maxSteps rounds steps : ℕ} {room : RoomState Card} {seat : SeatId}
    {result : EngineActionResult} (hrun : room.state.snapshot.status = .running)
    (hact : room.state.snapshot.actingSeatId = some seat) (hsteps : steps + 1 ≤ maxSteps)
    (hmax : maxSteps < 2 ^ 32) (hok : (applyAndEmit room (botAction room.state seat)).2 = .ok result) :
    demoLoop maxSteps (rounds + 1) steps room =
      demoLoop maxSteps rounds (steps + 1) (applyAndEmit room (botAction room.state seat)).1 := by
  have hstep : saturatingAdd 32 steps 1 = steps + 1 := by
    rw [saturatingAdd]
    omega
  rw [demoLoop, hrun, if_neg (by decide), hact, hstep]
  dsimp only
  generalize applyAndEmit room (botAction room.state seat) = r at hok
  obtain ⟨room', outcome⟩ := r
  cases hok
  exact if_neg (by omega)

theorem demoLoop_showdown {maxSteps : ℕ} (hmax : maxSteps < 2 ^ 32) :
    ∀ {rounds steps : ℕ} {room : RoomState Card}, BotInv room.state →
      (∃ seat, room.state.snapshot.actingSeatId = some seat) →
      turnsLeft room.state + 1 ≤ rounds → steps + turnsLeft room.state ≤ maxSteps →
        ∃ room', demoLoop maxSteps rounds steps room = some (.ok .showdown, room') ∧
          BotShowdown room'.state room.state.hand.seatedPlayers
  | 0, _, _, _, _, hrounds, _ => by omega
  | rounds + 1, steps, room, h, ⟨seat, hact⟩, hrounds, hsteps => by
    obtain ⟨result, hresult, hturn⟩ := bot_turn h hact
    rw [← applyAndEmit_state] at hturn
    have hpos : 1 ≤ turnsLeft room.state := by
      rw [turnsLeft, hact]
      exact (Finset.card_pos.2 (Finset.insert_nonempty _ _)).trans_le (Nat.le_add_left _ _)
    rw [demoLoop_turn (h.copies.status_of_acting hact) hact (by omega) hmax
      (applyAndEmit_ok hresult)]
    rcases hturn with hdone | ⟨hinv, hnext, hseats, hdrop⟩
    · obtain ⟨rounds, rfl⟩ : ∃ k, rounds = k + 1 := ⟨rounds - 1, by omega⟩
      exact ⟨_, demoLoop_done hdone.status, hdone⟩
    · rw [← hseats]
      exact demoLoop_showdown hmax hinv hnext (by omega) (by omega)

/-- Right after a deal to seats that have not folded or gone all-in before. -/
theorem botInv_dealt {st dealt : EngineState Card} {newHandId : HandId} {deck : List Card}
    (hdeal : dealNewHandInternalWithDeck st newHandId deck = (dealt, .ok ()))
    (hfolded : st.hand.foldedSeats = ∅) (hallIn : st.hand.allInSeats = ∅) :
    BotInv dealt ∧ (∃ seat, dealt.snapshot.actingSeatId = some seat) ∧
      dealt.hand.seatedPlayers = st.hand.seatedPlayers := by
  obtain ⟨dealing, sb, bb, first, rfl, hbs, -⟩ := deal_ok hdeal
  have hseats := seatedPlayers_dealtState st dealing newHandId sb bb first
  have hpot := potInv_dealtState st dealing newHandId first hbs.ne
  have hfirst : first ∈ st.hand.seatedPlayers := mem_sortedSeats.1 hbs.first_mem
  have hengine : EngineInv (dealtState st dealing newHandId sb bb first) := by
    refine ⟨hpot, fun s hs => ?_⟩
    cases hs
    rw [hseats]
    exact ⟨hfirst, rfl⟩
  refine ⟨⟨⟨hengine, smallRound_dealtState st dealing newHandId first hbs.ne⟩,
    turnCopies_dealtState st dealing newHandId sb bb first, fun seat hseat => ?_, ?_,
    (foldedSeats_dealtState st dealing newHandId sb bb first).trans hfolded,
    (allInSeats_dealtState st dealing newHandId sb bb first).trans hallIn, ?_⟩, ⟨first, rfl⟩, hseats⟩
  · cases hseat
    refine turnOrder_of_fresh ?_ (seatBet_dealtState_le st dealing newHandId sb bb first) rfl
    rw [hseats]
    exact hfirst
  · rw [hseats]
    exact Finset.one_lt_card.2
      ⟨sb, mem_sortedSeats.1 hbs.sb_mem, bb, mem_sortedSeats.1 hbs.bb_mem, hbs.ne⟩
  · refine .inl ⟨rfl, rfl, ?_, fun s hs => ?_⟩
    · have htotal := total_eq_sum Chips.asU128 (blinds sb bb)
      rw [total_blinds hbs.ne] at htotal
      exact htotal.trans (Finset.sum_congr rfl fun s _ => weight_eq_getD Chips.asU128_zero _ s)
    · rw [hseats] at hs
      have hsb : s ≠ sb := fun heq => hs (heq ▸ mem_sortedSeats.1 hbs.sb_mem)
      have hbb : s ≠ bb := fun heq => hs (heq ▸ mem_sortedSeats.1 hbs.bb_mem)
      show ((blinds sb bb).lookup s).getD 0 = 0
      rw [blinds, AList.lookup_insert_ne hbb, AList.lookup_insert_ne hsb]
      rfl

end

/-- **A table of bots comes to the showdown**: when a hand is dealt to any number of seats none of which is
marked as folded or all-in, the loop of the demo ends within four turns a seat, without an error, with all
seats in the hand and one big blind of each in the pot. -/
theorem bots_reach_showdown [RsPoker Card] (st dealt : EngineState Card) (newHandId : HandId)
    (deck : List Card) (hdeal : dealNewHandInternalWithDeck st newHandId deck = (dealt, .ok ()))
    (hfolded : st.hand.foldedSeats = ∅) (hallIn : st.hand.allInSeats = ∅) (room : RoomState Card)
    (hroom : room.state = dealt) (maxSteps : ℕ) (hmax : maxSteps < 2 ^ 32)
    (hturns : 4 * st.hand.seatedPlayers.card ≤ maxSteps) :
    ∃ room', demoLoop maxSteps (4 * st.hand.seatedPlayers.card + 1) 0 room =
        some (.ok .showdown, room') ∧
      BotShowdown room'.state st.hand.seatedPlayers := by
  obtain ⟨hinv, hact, hseats⟩ := botInv_dealt hdeal hfolded hallIn
  subst hroom
  have hleft := turnsLeft_le hinv.order
  rw [← hseats] at hturns ⊢
  exact demoLoop_showdown hmax hinv hact (by omega) (by omega)

/-- The two bots of the demo, with the limit of the demo. -/
theorem two_bots_reach_showdown : ∃ room',
    demoLoop 64 9 0 ({ roomId := ⟨0⟩, state := headsUp } : RoomState ByteCard) =
      some (.ok .showdown, room') ∧
    room'.state.pot.mainPot.asU128 = 2 * DEFAULT_BIG_BLIND.asU128 := by
  have hseats : (run engineStep (EngineState.new ⟨0⟩ 1 ⟨0⟩ : EngineState ByteCard)
      ([0, 1].map .seatPlayer)).hand.seatedPlayers.card = 2 := by
    decide +kernel
  obtain ⟨room', hloop, hdone⟩ := bots_reach_showdown _ headsUp ⟨1⟩ royalDeck deal_headsUp rfl rfl
    { roomId := ⟨0⟩, state := headsUp } rfl 64 (by decide) (by rw [hseats]; decide)
  rw [hseats] at hloop
  refine ⟨room', hloop, ?_⟩
  rw [hdone.pot, hseats]

end HoldemPlatform.Client.BotTable
