import HoldemPlatform.Engine.ContestedLayers
import HoldemPlatform.Engine.DealtCards
import HoldemPlatform.Room.Participants
import HoldemPlatform.Settlement.Awards

/-!
# Can a Showdown Be Settled?

The only thing that can stop the plan of a showdown is a pot layer without a winner: the amounts fit,
the awards go to eligible seats, and every contributor holds cards. A layer has no winner if all its
contributors have folded, and since a fold can come after the call of a bet that the seats still in
the hand could not match, that happens. By `layers_contested_iff` a showdown can be settled exactly
if some seat that has not folded has at most one other seat above it.
-/

namespace HoldemPlatform.Settlement.Settleable

open HoldemPlatform.Lib.FiniteMap HoldemPlatform.Lib.Run
open HoldemPlatform.Domain.Money HoldemPlatform.Domain.Game
open HoldemPlatform.Engine.State HoldemPlatform.Engine.Deal HoldemPlatform.Engine.DealtCards
open HoldemPlatform.Engine.Turn
open HoldemPlatform.Engine.PotLayers HoldemPlatform.Engine.Action HoldemPlatform.Engine.Showdown
open HoldemPlatform.Engine.Run HoldemPlatform.Engine.ContestedLayers
open HoldemPlatform.Room.Participants HoldemPlatform.Settlement.Plan
open HoldemPlatform.Settlement.Conservation HoldemPlatform.Settlement.Awards

variable {Card : Type}

/-! ### Who contributes -/

/-- No seat but `seatId` has another contribution, and that one has not less. -/
def OnlyPays (seatId : SeatId) (c c' : HashMap SeatId Chips) : Prop :=
  ∀ s, weight Chips.asU128 c s ≤ weight Chips.asU128 c' s ∧
    (s ≠ seatId → weight Chips.asU128 c' s = weight Chips.asU128 c s)

theorem OnlyPays.refl (seatId : SeatId) (c : HashMap SeatId Chips) : OnlyPays seatId c c :=
  fun _ => ⟨Nat.le_refl _, fun _ => rfl⟩

theorem onlyPays_addContribution {c c' : HashMap SeatId Chips} {seatId : SeatId} {delta : Chips}
    (h : addContribution c seatId delta = .ok c') : OnlyPays seatId c c' := by
  unfold addContribution at h
  split_ifs at h with hzero
  · cases h
    exact .refl seatId c
  split at h
  · cases h
  rename_i next hnext
  cases h
  rw [Chips.checkedAdd_eq_ok] at hnext
  intro s
  by_cases hs : s = seatId
  · subst hs
    rw [weight_insert_self, hnext, weight_eq_getD Chips.asU128_zero]
    exact ⟨Nat.le_add_right _ _, fun hne => absurd rfl hne⟩
  · rw [weight_insert_ne Chips.asU128 c next hs]
    exact ⟨Nat.le_refl _, fun _ => rfl⟩

theorem onlyPays_payIntoPot {st st' : EngineState Card} {seatId : SeatId} {delta : Chips}
    (h : payIntoPot st seatId delta = (st', .ok ())) :
    OnlyPays seatId st.pot.playerContributions st'.pot.playerContributions := by
  unfold payIntoPot at h
  split at h
  · cases h
  split at h
  · cases h
  rename_i hadd
  cases h
  exact onlyPays_addContribution hadd

theorem onlyPays_placeRaise {st st' : EngineState Card} {action : PlayerAction} {reset : Bool}
    (h : placeRaise st action = (st', .ok reset)) :
    OnlyPays action.seatId st.pot.playerContributions st'.pot.playerContributions := by
  unfold placeRaise at h
  split at h
  · cases h
  rename_i target _
  split at h
  · cases h
  split at h
  · cases h
  split at h
  · cases h
  rename_i mid hpay
  have hpays := onlyPays_payIntoPot hpay
  rw [raiseBet_pot] at hpays
  have hpot : (if action.actionType = .allIn then goAllIn mid action.seatId else mid).pot =
      mid.pot := by
    split_ifs <;> rfl
  dsimp only at h
  generalize (if action.actionType = .allIn then goAllIn mid action.seatId else mid) = out
    at h hpot
  rw [← hpot] at hpays
  split at h
  · cases h
    exact hpays
  · cases h
    exact hpays

theorem onlyPays_placeCall {st st' : EngineState Card} {seatId : SeatId} {reset : Bool}
    (h : placeCall st seatId = (st', .ok reset)) :
    OnlyPays seatId st.pot.playerContributions st'.pot.playerContributions := by
  unfold placeCall at h
  split at h
  · cases h
  split at h
  · cases h
  rename_i mid hpay
  have hpays := onlyPays_payIntoPot hpay
  cases h
  exact hpays

theorem onlyPays_placeAction {st st' : EngineState Card} {action : PlayerAction} {reset : Bool}
    (h : placeAction st action = (st', .ok reset)) :
    OnlyPays action.seatId st.pot.playerContributions st'.pot.playerContributions := by
  unfold placeAction at h
  split at h
  · cases h
    exact .refl action.seatId st.pot.playerContributions
  · split at h
    · cases h
    · cases h
      exact .refl action.seatId st.pot.playerContributions
  · exact onlyPays_placeCall h
  · exact onlyPays_placeRaise h
  · exact onlyPays_placeRaise h

section

variable [RsPoker Card]

/-- **An accepted action adds to the contribution of its seat only.** -/
theorem onlyPays_applyAction {st st' : EngineState Card} {action : PlayerAction}
    {result : EngineActionResult} (h : applyAction st action = (st', .ok result)) :
    OnlyPays action.seatId st.pot.playerContributions st'.pot.playerContributions := by
  unfold applyAction at h
  split_ifs at h
  · cases h
  · cases h
  split at h
  · cases h
  rename_i mid reset hplace
  have hpays := onlyPays_placeAction hplace
  have hpot := (turn_cases (closeAction mid action.seatId reset) action.seatId).frame.pot
  generalize advanceTurn (closeAction mid action.seatId reset) action.seatId = r at h hpot
  cases h
  rw [hpot]
  exact hpays

/-! ### A hand in play -/

theorem board_dealt {st st' : EngineState Card} {newHandId : HandId} {deck : List Card}
    (h : dealNewHandInternalWithDeck st newHandId deck = (st', .ok ())) :
    ∃ dealing, st'.dealing = some dealing ∧ dealing.boardCards.length = 5 := by
  rcases deal_details st newHandId deck with ⟨e, he⟩ | ⟨dealing, sb, bb, first, hd, hdealt⟩
  · rw [he] at h
    cases h
  · rw [hd] at h
    cases h
    exact ⟨dealing, rfl,
      (dealtFrom_dealCards (nodup_sortedSeats _) hdealt.enough hdealt.cards).length_boardCards⟩

/-- What a deal gives a hand and no action takes away. -/
structure Funded (st : EngineState Card) : Prop where
  board : ∃ dealing, st.dealing = some dealing ∧ dealing.boardCards.length = 5
  contributors : ∀ s, 0 < st.contribution s → HoldsCards st s
  seats : st.snapshot.status = .running → ∀ s ∈ st.hand.seatedPlayers, HoldsCards st s
  two : TwoContribute st.pot.playerContributions

/-- Seats are taken between hands only. -/
def SeatsBetweenHands (st : EngineState Card) : EngineOp Card → Prop
  | .seatPlayer _ => st.snapshot.status ≠ .running
  | _ => True

instance (st : EngineState Card) : ∀ op, Decidable (SeatsBetweenHands st op)
  | .seatPlayer _ => inferInstanceAs (Decidable (_ ≠ _))
  | .deal _ _ => inferInstanceAs (Decidable True)
  | .act _ => inferInstanceAs (Decidable True)

theorem funded_deal {st st' : EngineState Card} {newHandId : HandId} {deck : List Card}
    (h : dealNewHandInternalWithDeck st newHandId deck = (st', .ok ())) : Funded st' := by
  have hboard := board_dealt h
  have hcards := holdsCards_dealt h
  obtain ⟨dealing, sb, bb, first, rfl, hbs, -⟩ := deal_ok h
  have hsb : weight Chips.asU128 (blinds sb bb) sb = DEFAULT_SMALL_BLIND.asU128 := by
    rw [blinds, weight_insert_ne Chips.asU128 _ _ hbs.ne, weight_insert_self]
  have hbb : weight Chips.asU128 (blinds sb bb) bb = DEFAULT_BIG_BLIND.asU128 := by
    rw [blinds, weight_insert_self]
  refine ⟨hboard, fun s hs => ?_, fun _ s hs => ?_, sb, bb, hbs.ne, ?_, ?_⟩
  · -- only the blinds have contributed
    rw [(hcards s).2, ← mem_sortedSeats]
    by_cases h1 : s = sb
    · rw [h1]
      exact hbs.sb_mem
    by_cases h2 : s = bb
    · rw [h2]
      exact hbs.bb_mem
    have hzero : weight Chips.asU128 (blinds sb bb) s = 0 := by
      rw [blinds, weight_insert_ne Chips.asU128 _ _ h2, weight_insert_ne Chips.asU128 _ _ h1]
      rfl
    exact absurd hs (by show ¬ 0 < weight Chips.asU128 (blinds sb bb) s; omega)
  · rw [(hcards s).2, ← (hcards s).1]
    exact hs
  · show 0 < weight Chips.asU128 (blinds sb bb) sb
    rw [hsb]
    decide
  · show 0 < weight Chips.asU128 (blinds sb bb) bb
    rw [hbb]
    decide

theorem funded_act {st st' : EngineState Card} {action : PlayerAction} {result : EngineActionResult}
    (hinv : EngineInv st) (h : Funded st) (hok : Acceptable st action)
    (hacc : Accepted st action st') (happ : applyAction st action = (st', .ok result)) :
    Funded st' := by
  have hpays := onlyPays_applyAction happ
  obtain ⟨hseated, hrunning⟩ := hinv.acting _ hok.turn
  have hcards : ∀ s, HoldsCards st s → HoldsCards st' s := by
    intro s hs
    rw [HoldsCards, hacc.dealing]
    exact hs
  refine ⟨?_, fun s hs => ?_, fun _ s hs => ?_, ?_⟩
  · rw [hacc.dealing]
    exact h.board
  · by_cases hseat : s = action.seatId
    · rw [hseat]
      exact hcards _ (h.seats hrunning _ hseated)
    · refine hcards s (h.contributors s ?_)
      have hsame : st'.contribution s = st.contribution s := (hpays s).2 hseat
      omega
  · rw [hacc.seatedPlayers] at hs
    exact hcards s (h.seats hrunning s hs)
  · obtain ⟨s, t, hne, hs, ht⟩ := h.two
    exact ⟨s, t, hne, Nat.lt_of_lt_of_le hs (hpays s).1, Nat.lt_of_lt_of_le ht (hpays t).1⟩

/-- The engine's invariant, with the funds of a hand in play. -/
def FundedInPlay (st : EngineState Card) : Prop := EngineInv st ∧ (InPlay st → Funded st)

theorem fundedInPlay_step (st : EngineState Card) (op : EngineOp Card)
    (hseats : SeatsBetweenHands st op) (h : FundedInPlay st) : FundedInPlay (engineStep st op) := by
  refine ⟨engineInv_step st op h.1, ?_⟩
  cases op with
  | seatPlayer seatId =>
    intro hplay
    have hfunded := h.2 hplay
    exact ⟨hfunded.board, hfunded.contributors, fun hrunning => absurd hrunning hseats,
      hfunded.two⟩
  | deal newHandId deck =>
    rw [engineStep]
    rcases deal_cases st newHandId deck with ⟨e, he⟩ | ⟨dealing, sb, bb, first, hd, -⟩
    · rw [he]
      exact h.2
    · rw [hd]
      exact fun _ => funded_deal hd
  | act action =>
    rw [engineStep]
    rcases applyAction_cases h.1.pot action with ⟨hok, st', result, happ, hacc⟩ | ⟨-, round, e, happ⟩
    · rw [happ]
      exact fun _ => funded_act h.1 (h.2 (.inl (h.1.acting _ hok.turn).2)) hok hacc happ
    · rw [happ]
      intro hplay
      have hfunded := h.2 hplay
      exact ⟨hfunded.board, hfunded.contributors, hfunded.seats, hfunded.two⟩

theorem fundedInPlay_run (roomId : RoomId) (handNo : ℕ) (handId : HandId)
    {ops : List (EngineOp Card)}
    (hseats : AllSteps engineStep SeatsBetweenHands (EngineState.new roomId handNo handId) ops) :
    FundedInPlay (run engineStep (EngineState.new roomId handNo handId) ops) := by
  refine hseats.run_inv FundedInPlay (fun st op hop h => fundedInPlay_step st op hop h) ?_
  exact ⟨engineInv_new roomId handNo handId, fun hplay => by rcases hplay with h | h <;> cases h⟩

end

/-! ### The winners of the layers -/

/-- Some seat that has not folded has at most one other seat above it. -/
def TopLayerContested (st : EngineState Card) : Prop :=
  ∃ s, s ∉ st.hand.foldedSeats ∧ OneContributesMore st.pot.playerContributions s

/-- The showdown of a funded hand has its five board cards and every hand dealt. -/
theorem exists_showdownInput {st : EngineState Card} (h : Funded st) :
    ∃ input, showdownInputFromEngineState st = some input ∧ input.board.length = 5 ∧
      ∀ s, HoldsCards st s → s ∈ input.revealedHoleCards.map Prod.fst := by
  obtain ⟨dealing, hdealing, hlen⟩ := h.board
  refine ⟨{ board := dealing.boardCards, revealedHoleCards :=
    (pairs dealing.holeCards).insertionSort fun a b => a.1 ≤ b.1 }, ?_, hlen, fun s hs => ?_⟩
  · unfold showdownInputFromEngineState
    simp only [hdealing, if_neg (show ¬ dealing.boardCards.length < 5 by omega)]
  · obtain ⟨dealing', hdealing', hmem⟩ := hs
    rw [hdealing] at hdealing'
    cases hdealing'
    obtain ⟨cards, hcards⟩ := exists_lookup_of_mem hmem
    refine List.mem_map.2 ⟨(s, cards), ?_, rfl⟩
    rw [List.mem_insertionSort]
    exact mem_pairs.2 hcards

section

variable [RsPoker Card]

/-- The layers have awards exactly if the showdown finds a winner for each that holds chips. -/
theorem layerAwards_iff {input : ShowdownInput Card} : ∀ {layers : List PotLayer},
    (∃ awards, layerAwards input layers = .ok awards) ↔
      ∀ layer ∈ layers, layer.amount ≠ 0 →
        ∃ result, evaluateShowdownForEligible input (some layer.eligibleSeats) = some result
  | [] => by simp [layerAwards]
  | layer :: layers => by
    rw [List.forall_mem_cons, ← layerAwards_iff, layerAwards]
    by_cases hzero : layer.amount = 0
    · rw [if_pos hzero]
      simp [hzero]
    rw [if_neg hzero]
    cases heval : evaluateShowdownForEligible input (some layer.eligibleSeats) with
    | none => simp [hzero]
    | some result => cases hrest : layerAwards input layers <;> simp

theorem layerAwards_eligible {input : ShowdownInput Card} : ∀ {layers : List PotLayer}
    {awards : List PotAwardInput}, layerAwards input layers = .ok awards →
    ∀ pot ∈ awards, pot.winnerSeats ≠ [] ∧ ∀ s ∈ pot.winnerSeats, s ∈ pot.eligibleSeats
  | [], _, h, pot, hpot => by
    cases h
    exact absurd hpot List.not_mem_nil
  | layer :: layers, awards, h, pot, hpot => by
    rw [layerAwards] at h
    split_ifs at h
    · exact layerAwards_eligible h pot hpot
    split at h
    · cases h
    rename_i showdown hshow
    split at h
    · cases h
    rename_i rest hrest
    cases h
    rcases List.mem_cons.1 hpot with rfl | hpot
    · exact winners_eligible hshow
    · exact layerAwards_eligible hrest pot hpot

/-- The plan of a funded hand fails only for want of a winner. -/
theorem exists_plan_iff {st : EngineState Card} (hpot : PotInv st) (hfunded : Funded st)
    (hlt : st.snapshot.potTotal.asU128 < 2 ^ 64) (input : ShowdownInput Card)
    {policy : RakePolicy} (hrake : policy.rakeBps ≤ 10000) :
    (∃ plan, buildSettlementPlanFromShowdown st input policy = .ok plan) ↔
      ∃ awards, layerAwards input (potLayers st) = .ok awards := by
  have htotal : st.snapshot.potTotal.asU128 = total Chips.asU128 st.pot.playerContributions := by
    rw [hpot.potTotal, hpot.mainPot]
  have hlayers := sum_buildPotLayers (c := st.pot.playerContributions) st.hand.foldedSeats
    (by omega)
  have hne : potLayers st ≠ [] := buildPotLayers_ne_nil hfunded.two st.hand.foldedSeats
  unfold buildSettlementPlanFromShowdown
  rw [if_neg fun h => hne h.1]
  cases hawards : layerAwards input (potLayers st) with
  | error e => simp
  | ok awards =>
    obtain ⟨-, hsum⟩ := layerAwards_ok hawards
    have hwin := layerAwards_eligible hawards
    have hwon : wonSum awards < 2 ^ 128 := by
      rw [wonSum_eq_awardSum fun pot hpot => (hwin pot hpot).1, hsum, potLayers]
      omega
    obtain ⟨plan, hplan⟩ := exists_plan st.snapshot.roomId st.snapshot.handId hrake
      (fun pot hpot _ => (hwin pot hpot).2) hwon
    simp [hplan]

/-- The layers of a funded hand have awards exactly if the highest one is contested. -/
theorem layerAwards_funded_iff {st : EngineState Card} (hpot : PotInv st) (hfunded : Funded st)
    {input : ShowdownInput Card} (hboard : input.board.length = 5)
    (hrevealed : ∀ s, HoldsCards st s → s ∈ input.revealedHoleCards.map Prod.fst) :
    (∃ awards, layerAwards input (potLayers st) = .ok awards) ↔ TopLayerContested st := by
  have hfit : total Chips.asU128 st.pot.playerContributions < 2 ^ 128 := by
    rw [← hpot.mainPot]
    exact st.pot.mainPot.lt
  have hamount := buildPotLayers_amount_ne_zero hfunded.two hfit st.hand.foldedSeats
  rw [layerAwards_iff]
  constructor
  · intro h
    refine exists_oneContributesMore hfunded.two fun layer hlayer => ?_
    obtain ⟨result, hresult⟩ := h layer hlayer (hamount layer hlayer)
    obtain ⟨hne, helig⟩ := winners_eligible hresult
    obtain ⟨s, hs⟩ := List.exists_mem_of_ne_nil _ hne
    exact List.ne_nil_of_mem (helig s hs)
  · rintro ⟨s, hfold, hone⟩ layer hlayer -
    obtain ⟨hpos, helig⟩ := eligible_everywhere hfunded.two hfold hone
    exact exists_winner (by omega) (helig layer hlayer) (hrevealed s (hfunded.contributors s hpos))

/-- **A showdown can be settled exactly if its highest pot layer is contested**: some seat that has
not folded has at most one other seat above it. -/
theorem showdown_settled_iff (roomId : RoomId) (handNo : ℕ) (handId : HandId)
    (ops : List (EngineOp Card))
    (hseats : AllSteps engineStep SeatsBetweenHands (EngineState.new roomId handNo handId) ops)
    (hstatus : (run engineStep (EngineState.new roomId handNo handId) ops).snapshot.status
      = .showdown)
    (hpot : (run engineStep (EngineState.new roomId handNo handId) ops).snapshot.potTotal.asU128
      < 2 ^ 64)
    (policy : RakePolicy) (hrake : policy.rakeBps ≤ 10000) :
    ∃ input,
      showdownInputFromEngineState (run engineStep (EngineState.new roomId handNo handId) ops)
        = some input ∧
      ((∃ plan, buildSettlementPlanFromShowdown
          (run engineStep (EngineState.new roomId handNo handId) ops) input policy = .ok plan) ↔
        TopLayerContested (run engineStep (EngineState.new roomId handNo handId) ops)) := by
  obtain ⟨hinv, hfunded⟩ := fundedInPlay_run roomId handNo handId hseats
  generalize run engineStep (EngineState.new roomId handNo handId) ops = st at *
  obtain ⟨input, hinput, hboard, hrevealed⟩ := exists_showdownInput (hfunded (.inr hstatus))
  refine ⟨input, hinput, ?_⟩
  rw [exists_plan_iff hinv.pot (hfunded (.inr hstatus)) hpot input hrake]
  exact layerAwards_funded_iff hinv.pot (hfunded (.inr hstatus)) hboard hrevealed

end

/-! ### Four seats -/

def fourAct (actionSeq : ℕ) (seatId : SeatId) (actionType : ActionType) (amount : Option ℕ) :
    EngineOp ByteCard :=
  .act { roomId := ⟨0⟩, handId := ⟨1⟩, actionSeq, seatId, actionType,
         amount := amount.map Chips.ofU128 }

/-- Seat `3` raises and the button calls; the blinds go all-in for less. On the flop the small blind,
asked once more, checks, and seat `3` folds; then comes `last`. -/
def coveredBlinds (last : List (EngineOp ByteCard)) : List (EngineOp ByteCard) :=
  [.seatPlayer 0, .seatPlayer 1, .seatPlayer 2, .seatPlayer 3, .deal ⟨1⟩ (royalDeckFor 4),
    fourAct 1 3 .raiseTo (some 1000000000000000), fourAct 2 0 .call none,
    fourAct 3 1 .allIn (some 150000000000000), fourAct 4 2 .allIn (some 300000000000000),
    fourAct 5 1 .check none, fourAct 6 3 .fold none] ++ last

def coveredShowdown (last : List (EngineOp ByteCard)) : EngineState ByteCard :=
  run engineStep (EngineState.new ⟨0⟩ 1 ⟨0⟩) (coveredBlinds last)

def buttonFolds : List (EngineOp ByteCard) := [fourAct 7 0 .fold none]

/-- The button goes all-in; on the turn the small blind is asked again. -/
def buttonAllIn : List (EngineOp ByteCard) := [fourAct 7 0 .allIn (some 1), fourAct 8 1 .check none]

/-- The answer of the settlement to a showdown state with its own cards. -/
def ownAnswer (st : EngineState ByteCard) (policy : RakePolicy) :
    Option (Except String SettlementPlan) :=
  (showdownInputFromEngineState st).map fun input =>
    buildSettlementPlanFromShowdown st input policy

/-- The button folds too: the two seats that paid most are out, and the layer only they paid has no
winner. The blinds are at showdown and the hand cannot be settled. -/
theorem folded_top_layer_not_settled :
    AllSteps engineStep SeatsBetweenHands (EngineState.new ⟨0⟩ 1 ⟨0⟩) (coveredBlinds buttonFolds) ∧
      (coveredShowdown buttonFolds).snapshot.status = .showdown ∧
      (coveredShowdown buttonFolds).snapshot.potTotal.asU128 = 2450000000000000 ∧
      ∃ input, showdownInputFromEngineState (coveredShowdown buttonFolds) = some input ∧
        buildSettlementPlanFromShowdown (coveredShowdown buttonFolds) input ⟨300⟩ =
          .error "unable to evaluate showdown for pot layer" := by
  have heval :
      AllSteps engineStep SeatsBetweenHands (EngineState.new ⟨0⟩ 1 ⟨0⟩)
        (coveredBlinds buttonFolds) ∧
      (coveredShowdown buttonFolds).snapshot.status = .showdown ∧
      (coveredShowdown buttonFolds).snapshot.potTotal.asU128 = 2450000000000000 ∧
      ownAnswer (coveredShowdown buttonFolds) ⟨300⟩ =
        some (.error "unable to evaluate showdown for pot layer") := by
    decide +kernel
  exact ⟨heval.1, heval.2.1, heval.2.2.1, Option.map_eq_some_iff.1 heval.2.2.2⟩

/-- The button goes all-in instead: it is above every other seat and can win every layer. -/
theorem contested_top_layer_settled :
    ∃ input plan,
      showdownInputFromEngineState (coveredShowdown buttonAllIn) = some input ∧
      buildSettlementPlanFromShowdown (coveredShowdown buttonAllIn) input ⟨300⟩ =
        .ok plan := by
  have heval :
      AllSteps engineStep SeatsBetweenHands (EngineState.new ⟨0⟩ 1 ⟨0⟩)
        (coveredBlinds buttonAllIn) ∧
      (coveredShowdown buttonAllIn).snapshot.status = .showdown ∧
      (coveredShowdown buttonAllIn).snapshot.potTotal.asU128 < 2 ^ 64 ∧
      0 ∉ (coveredShowdown buttonAllIn).hand.foldedSeats ∧
      ∀ t, (coveredShowdown buttonAllIn).contribution t ≤
        (coveredShowdown buttonAllIn).contribution 0 := by
    decide +kernel
  obtain ⟨hseats, hstatus, hpot, hfold, htop⟩ := heval
  have hcontested : TopLayerContested (coveredShowdown buttonAllIn) :=
    ⟨0, hfold, fun t _ ht _ => absurd ht (not_lt.2 (htop t))⟩
  unfold coveredShowdown at hstatus hpot hcontested ⊢
  obtain ⟨input, hinput, hiff⟩ :=
    showdown_settled_iff ⟨0⟩ 1 ⟨0⟩ (coveredBlinds buttonAllIn) hseats hstatus hpot ⟨300⟩
      (by decide)
  obtain ⟨plan, hplan⟩ := hiff.2 hcontested
  exact ⟨input, plan, hinput, hplan⟩

end HoldemPlatform.Settlement.Settleable
