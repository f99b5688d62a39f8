import HoldemPlatform.Engine.Run

/-!
# The Seats of a New Hand

A new hand should start with every dealt seat able to act. The deal does not clear the folded and
all-in seats of the hand before, so this holds after a deal exactly if no fold and no all-in was ever
accepted before it: a seat that folds once stays folded for good.
-/

namespace HoldemPlatform.Engine.FreshHand

open HoldemPlatform.Lib.Run HoldemPlatform.Domain.Money HoldemPlatform.Domain.Game
open HoldemPlatform.Engine.State HoldemPlatform.Engine.Deal HoldemPlatform.Engine.Turn
open HoldemPlatform.Engine.Action HoldemPlatform.Engine.Run

variable {Card : Type}

/-- Every seat with hole cards is neither folded nor all-in, and can act. -/
def DealtSeatsCanAct (st : EngineState Card) : Prop :=
  ∀ dealing, st.dealing = some dealing → ∀ s ∈ dealing.holeCards,
    s ∉ st.hand.foldedSeats ∧ s ∉ st.hand.allInSeats ∧ s ∈ actionableSeats st

def FoldsOrAllIn (st : EngineState Card) : EngineOp Card → Prop
  | .seatPlayer _ => False
  | .deal _ _ => False
  | .act action =>
    Acceptable st action ∧ (action.actionType = .fold ∨ action.actionType = .allIn)

/-- The seats that are out of the betting. -/
def markedSeats (st : EngineState Card) : Finset SeatId := st.hand.foldedSeats ∪ st.hand.allInSeats

section

variable [RsPoker Card] {st : EngineState Card}

theorem seated_step (h : EngineInv st) (op : EngineOp Card) {s : SeatId}
    (hs : s ∈ st.hand.seatedPlayers) : s ∈ (engineStep st op).hand.seatedPlayers := by
  cases op with
  | seatPlayer seatId => exact Finset.mem_insert_of_mem hs
  | deal newHandId deck =>
    rw [engineStep]
    rcases deal_cases st newHandId deck with ⟨e, he⟩ | ⟨dealing, sb, bb, first, hd, -, -⟩
    · rwa [he]
    · rwa [hd, seatedPlayers_dealtState]
  | act action =>
    rw [engineStep]
    rcases applyAction_cases h.pot action with ⟨-, st', result, happ, hacc⟩ | ⟨-, round, e, happ⟩
    · rwa [happ, hacc.seatedPlayers]
    · rwa [happ]

/-- A step marks the acting seat of an accepted fold or all-in, and never unmarks one. -/
theorem marked_step (h : EngineInv st) (op : EngineOp Card) :
    (¬ FoldsOrAllIn st op ∧ markedSeats (engineStep st op) = markedSeats st) ∨
    ∃ s, FoldsOrAllIn st op ∧ st.snapshot.actingSeatId = some s ∧
      markedSeats (engineStep st op) = insert s (markedSeats st) := by
  cases op with
  | seatPlayer seatId => exact .inl ⟨id, rfl⟩
  | deal newHandId deck =>
    refine .inl ⟨id, ?_⟩
    rw [engineStep]
    rcases deal_cases st newHandId deck with ⟨e, he⟩ | ⟨dealing, sb, bb, first, hd, -, -⟩
    · rw [he]
    · rw [hd, markedSeats, foldedSeats_dealtState, allInSeats_dealtState]
      rfl
  | act action =>
    rw [engineStep]
    rcases applyAction_cases h.pot action with ⟨hok, st', result, happ, hacc⟩ | ⟨hno, round, e, happ⟩
    · rw [happ, markedSeats, hacc.foldedSeats, hacc.allInSeats, foldedAfter, allInAfter]
      by_cases hfold : action.actionType = .fold
      · refine .inr ⟨action.seatId, ⟨hok, .inl hfold⟩, hok.turn, ?_⟩
        rw [if_pos hfold, if_neg (by simp [hfold]), Finset.insert_union]
        rfl
      · by_cases hall : action.actionType = .allIn
        · refine .inr ⟨action.seatId, ⟨hok, .inr hall⟩, hok.turn, ?_⟩
          rw [if_neg hfold, if_pos hall, Finset.union_insert]
          rfl
        · refine .inl ⟨fun hm => hm.2.elim hfold hall, ?_⟩
          rw [if_neg hfold, if_neg hall]
          rfl
    · rw [happ]
      exact .inl ⟨fun hm => hno hm.1, rfl⟩

/-- Nothing is marked while nobody folds or goes all-in. -/
theorem marked_of_allSteps {ops : List (EngineOp Card)} (h : EngineInv st)
    (hempty : markedSeats st = ∅)
    (hall : AllSteps engineStep (fun st op => ¬ FoldsOrAllIn st op) st ops) :
    markedSeats (run engineStep st ops) = ∅ := by
  refine (hall.run_inv (fun st => EngineInv st ∧ markedSeats st = ∅) ?_ ⟨h, hempty⟩).2
  rintro st op hop ⟨h, hempty⟩
  rcases marked_step h op with ⟨-, heq⟩ | ⟨s, hmark, -, -⟩
  · exact ⟨engineInv_step st op h, heq.trans hempty⟩
  · exact absurd hmark hop

/-- A marked seat at the table stays marked and at the table. -/
theorem marked_seated_run {s : SeatId} (ops : List (EngineOp Card)) (h : EngineInv st)
    (hmark : s ∈ markedSeats st) (hseat : s ∈ st.hand.seatedPlayers) :
    s ∈ markedSeats (run engineStep st ops) ∧
      s ∈ (run engineStep st ops).hand.seatedPlayers := by
  refine (run_inv (fun st => EngineInv st ∧ s ∈ markedSeats st ∧ s ∈ st.hand.seatedPlayers)
    ?_ ops ⟨h, hmark, hseat⟩).2
  rintro st op ⟨h, hmark, hseat⟩
  refine ⟨engineInv_step st op h, ?_, seated_step h op hseat⟩
  rcases marked_step h op with ⟨-, heq⟩ | ⟨t, -, -, heq⟩
  · rwa [heq]
  · rw [heq]
    exact Finset.mem_insert_of_mem hmark

/-- Once a fold or an all-in was accepted, some seat at the table is marked. -/
theorem exists_marked_of_not_allSteps {ops : List (EngineOp Card)} (h : EngineInv st)
    (hnot : ¬ AllSteps engineStep (fun st op => ¬ FoldsOrAllIn st op) st ops) :
    ∃ s ∈ markedSeats (run engineStep st ops),
      s ∈ (run engineStep st ops).hand.seatedPlayers := by
  obtain ⟨before, op, after, rfl, hop⟩ := exists_of_not_allSteps hnot
  have hbefore := engineInv_run h before
  rcases marked_step hbefore op with ⟨hno, -⟩ | ⟨s, -, hact, hmark⟩
  · exact absurd hno hop
  · -- the seat that folded or went all-in had the turn, so it sat at the table
    have hseat := seated_step hbefore op (hbefore.acting s hact).1
    rw [run_append, run_cons]
    exact ⟨s, marked_seated_run after (engineInv_step _ op hbefore)
      (by rw [hmark]; exact Finset.mem_insert_self s _) hseat⟩

theorem dealtSeatsCanAct_iff {newHandId : HandId} {deck : List Card} {st' : EngineState Card}
    (hdeal : dealNewHandInternalWithDeck st newHandId deck = (st', .ok ())) :
    DealtSeatsCanAct st' ↔ ∀ s ∈ st.hand.seatedPlayers, s ∉ markedSeats st := by
  obtain ⟨dealing, sb, bb, first, rfl, -, hmem⟩ := deal_ok hdeal
  constructor
  · intro hfresh s hs hmark
    obtain ⟨hfold, hall, -⟩ := hfresh dealing rfl s ((hmem s).2 hs)
    rw [foldedSeats_dealtState] at hfold
    rw [allInSeats_dealtState] at hall
    rcases Finset.mem_union.1 hmark with hm | hm
    · exact hfold hm
    · exact hall hm
  · intro hfree dealing' hdealing s hs
    cases hdealing
    have hseat := (hmem s).1 hs
    have hfold : s ∉ st.hand.foldedSeats := fun hm => hfree s hseat (Finset.mem_union_left _ hm)
    have hall : s ∉ st.hand.allInSeats := fun hm => hfree s hseat (Finset.mem_union_right _ hm)
    rw [actionableSeats, Finset.mem_filter, foldedSeats_dealtState, allInSeats_dealtState,
      seatedPlayers_dealtState]
    exact ⟨hfold, hall, hseat, hfold, hall⟩

/-- **A deal opens a fresh hand exactly if nobody folded or went all-in before**, over any number of
hands since the room was created. -/
theorem deal_fresh_iff (roomId : RoomId) (handNo : ℕ) (handId : HandId)
    (ops : List (EngineOp Card)) (newHandId : HandId) (deck : List Card) (st' : EngineState Card)
    (hdeal : dealNewHandInternalWithDeck
      (run engineStep (EngineState.new roomId handNo handId) ops) newHandId deck = (st', .ok ())) :
    DealtSeatsCanAct st' ↔
      AllSteps engineStep (fun st op => ¬ FoldsOrAllIn st op)
        (EngineState.new roomId handNo handId) ops := by
  have hnew : EngineInv (EngineState.new roomId handNo handId : EngineState Card) :=
    engineInv_new roomId handNo handId
  rw [dealtSeatsCanAct_iff hdeal]
  constructor
  · intro hfree
    by_contra hnot
    obtain ⟨s, hmark, hseat⟩ := exists_marked_of_not_allSteps hnew hnot
    exact hfree s hseat hmark
  · intro hall s _
    rw [marked_of_allSteps hnew rfl hall]
    exact Finset.notMem_empty s

end

/-- Two seats, a deal, and the small blind folds. -/
def foldedHand : List (EngineOp ByteCard) :=
  [.seatPlayer 0, .seatPlayer 1, .deal ⟨1⟩ royalDeck,
    .act { roomId := ⟨0⟩, handId := ⟨1⟩, actionSeq := 1, seatId := 0, actionType := .fold,
           amount := none }]

/-- The next hand after a fold-out deals cards to a seat that is still folded. -/
theorem folded_seat_dealt_folded :
    ∃ st', dealNewHandInternalWithDeck
        (run engineStep (EngineState.new ⟨0⟩ 1 ⟨0⟩) foldedHand) ⟨2⟩ royalDeck = (st', .ok ()) ∧
      ¬ DealtSeatsCanAct st' := by
  have hok : (dealNewHandInternalWithDeck
      (run engineStep (EngineState.new ⟨0⟩ 1 ⟨0⟩) foldedHand) ⟨2⟩ royalDeck).2 = .ok () := by
    decide +kernel
  refine ⟨_, eq_of_snd_ok hok, fun hfresh => ?_⟩
  exact (dealtSeatsCanAct_iff (eq_of_snd_ok hok)).1 hfresh 0 (by decide +kernel) (by decide +kernel)

/-- Two seats, a deal, and the small blind calls. -/
def calledHand : List (EngineOp ByteCard) :=
  [.seatPlayer 0, .seatPlayer 1, .deal ⟨1⟩ royalDeck,
    .act { roomId := ⟨0⟩, handId := ⟨1⟩, actionSeq := 1, seatId := 0, actionType := .call,
           amount := none }]

/-- A deal after a hand in which nobody folded or went all-in opens a fresh hand. -/
theorem deal_after_call_fresh :
    ∃ st', dealNewHandInternalWithDeck
        (run engineStep (EngineState.new ⟨0⟩ 1 ⟨0⟩) calledHand) ⟨2⟩ royalDeck = (st', .ok ()) ∧
      DealtSeatsCanAct st' := by
  have hok : (dealNewHandInternalWithDeck
      (run engineStep (EngineState.new ⟨0⟩ 1 ⟨0⟩) calledHand) ⟨2⟩ royalDeck).2 = .ok () := by
    decide +kernel
  refine ⟨_, eq_of_snd_ok hok,
    (deal_fresh_iff ⟨0⟩ 1 ⟨0⟩ calledHand ⟨2⟩ royalDeck _ (eq_of_snd_ok hok)).2 ?_⟩
  refine ⟨id, id, id, fun hcall => ?_, trivial⟩
  rcases hcall.2 with h | h <;> cases h

end HoldemPlatform.Engine.FreshHand
