import HoldemPlatform.Engine.HandEnds

/-!
# When a Street Closes

`is_betting_round_complete` asks whether every unfolded seat has acted, and whether every one that is not
all-in has the current bet. The set of seats that have acted starts over with every street and with every
raise, so being in it says something about the history of the street: the seat acted on it, and nobody
has raised since (`sinceStep_of_hasActed`). The only other way to close a street is that no seat can act.
-/

namespace HoldemPlatform.Engine.StreetCloses

open HoldemPlatform.Lib.Run HoldemPlatform.Domain.Money HoldemPlatform.Domain.Game
open HoldemPlatform.Engine.State HoldemPlatform.Engine.Deal HoldemPlatform.Engine.Turn
open HoldemPlatform.Engine.Action HoldemPlatform.Engine.Round HoldemPlatform.Engine.Run
open HoldemPlatform.Engine.HandEnds

variable {Card : Type}

/-- In a running hand the seat counts as having acted, and not because it is all-in. -/
structure HasActed (seat : SeatId) (st : EngineState Card) : Prop where
  running : st.snapshot.actingSeatId.isSome
  acted : seat ∈ st.bettingRound.actedSeats
  notAllIn : seat ∉ st.hand.allInSeats

/-- After an accepted action such a seat has just acted, or it had before and the action was no raise. -/
theorem mem_actedAfter {st : EngineState Card} {action : PlayerAction} {seat : SeatId}
    (hacted : seat ∈ actedAfter st action) (hall : seat ∉ allInAfter st action) :
    seat = action.seatId ∨ (raises st action = false ∧ seat ∈ st.bettingRound.actedSeats ∧
      seat ∉ st.hand.allInSeats) := by
  by_cases hself : seat = action.seatId
  · exact .inl hself
  · right
    unfold actedAfter at hacted
    split_ifs at hacted with hraise
    · exact absurd ((Finset.mem_insert.1 hacted).resolve_left hself) hall
    · exact ⟨by simpa using hraise, (Finset.mem_insert.1 hacted).resolve_left hself,
        (mem_allInAfter_ne hself).not.1 hall⟩

section

variable [RsPoker Card]

/-- An accepted action of the seat, after which the street goes on. -/
def ActsOnStreet (seat : SeatId) (st : EngineState Card) (op : EngineOp Card) : Prop :=
  ∃ action, op = .act action ∧ action.seatId = seat ∧ (applyAction st action).2 = .ok ⟨none⟩

/-- Neither an accepted raise nor the start of a street. -/
def KeepsBet (st : EngineState Card) : EngineOp Card → Prop
  | .seatPlayer _ => True
  | .deal newHandId deck => (dealNewHandInternalWithDeck st newHandId deck).2 ≠ .ok ()
  | .act action => ∀ result, (applyAction st action).2 = .ok result →
      raises st action = false ∧ result.streetChanged = none

/-- One action: who has acted afterwards acted now, or had acted and the bet stands. -/
theorem hasActed_act {st : EngineState Card} {seat : SeatId} (hinv : EngineInv st) (action : PlayerAction)
    (h : HasActed seat (applyAction st action).1) :
    ActsOnStreet seat st (.act action) ∨ (HasActed seat st ∧ KeepsBet st (.act action)) := by
  by_cases hok : Acceptable st action
  · obtain ⟨mid, hmid, happ⟩ := applyAction_accepted hinv.pot hok
    rw [happ] at h
    have hstep := turn_step mid action.seatId
    generalize advanceTurn mid action.seatId = r at h happ hstep
    cases hstep with
    | closed => exact absurd h.running (by simp [closeHand])
    | river => exact absurd h.running (by simp [goToShowdown])
    | street => exact absurd h.acted (by simp [openStreet])
    | nobody => exact absurd h.running (by simp [goToShowdown])
    | pass _ _ next =>
      have hacted : seat ∈ mid.bettingRound.actedSeats := h.acted
      have hall : seat ∉ mid.hand.allInSeats := h.notAllIn
      rw [hmid.round] at hacted
      rw [hmid.hand] at hall
      rcases mem_actedAfter hacted hall with rfl | ⟨hraise, hacted', hall'⟩
      · exact .inl ⟨action, rfl, rfl, by rw [happ]⟩
      · refine .inr ⟨⟨by rw [hok.turn]; rfl, hacted', hall'⟩, ?_⟩
        rw [KeepsBet, happ]
        rintro _ ⟨⟩
        exact ⟨hraise, rfl⟩
  · right
    rcases applyAction_refused hinv.pot hok with ⟨-, e, happ⟩ | ⟨-, e, happ⟩
    · rw [KeepsBet, happ]
      rw [happ] at h
      exact ⟨h, fun _ hres => by cases hres⟩
    · rw [KeepsBet, happ]
      rw [happ, placedBets_eq] at h
      have hacted : seat ∈ (placedBets st action).bettingRound.actedSeats := h.acted
      rw [placedBets_actedSeats] at hacted
      exact ⟨⟨h.running, hacted, h.notAllIn⟩, fun _ hres => by cases hres⟩

theorem hasActed_step {seat : SeatId} (st : EngineState Card) (op : EngineOp Card) (hinv : EngineInv st)
    (h : HasActed seat (engineStep st op)) :
    ActsOnStreet seat st op ∨ (HasActed seat st ∧ KeepsBet st op) := by
  cases op with
  | seatPlayer seatId => exact .inr ⟨⟨h.running, h.acted, h.notAllIn⟩, trivial⟩
  | deal newHandId deck =>
    rw [engineStep] at h
    rcases deal_cases st newHandId deck with ⟨e, he⟩ | ⟨dealing, sb, bb, first, hd, -, -⟩
    · rw [he] at h
      refine .inr ⟨h, ?_⟩
      rw [KeepsBet, he]
      intro hok
      cases hok
    · rw [hd] at h
      exact absurd h.acted (Finset.notMem_empty seat)
  | act action => exact hasActed_act hinv action h

/-- **Who counts as having acted did act on this street, and nobody has raised since.** -/
theorem sinceStep_of_hasActed (roomId : RoomId) (handNo : ℕ) (handId : HandId) (ops : List (EngineOp Card))
    {seat : SeatId} (h : HasActed seat (run engineStep (EngineState.new roomId handNo handId) ops)) :
    SinceStep engineStep (ActsOnStreet seat) KeepsBet (EngineState.new roomId handNo handId) ops := by
  refine sinceStep_of_run EngineInv (HasActed seat) engineInv_step hasActed_step
    (engineInv_new roomId handNo handId) ?_ ops h
  rintro ⟨hrun, -, -⟩
  cases hrun

/-- What a change of street says about the seats that can still act: they have acted, on the current bet. -/
theorem seatDone_of_streetChanged {mid : EngineState Card} {current s : SeatId} {street : Street}
    (h : (advanceTurn mid current).2 = some street) (hs : s ∈ actionableSeats mid) : SeatDone mid s := by
  have hactive := (mem_actionableSeats.1 hs).1
  have hstep := turn_step mid current
  generalize advanceTurn mid current = r at h hstep
  cases hstep with
  | closed => cases h
  | river _ hround => exact hround s hactive
  | street _ hround => exact hround s hactive
  | nobody _ _ hnone =>
    rw [hnone] at hs
    exact absurd hs (Finset.notMem_empty s)
  | pass => cases h

/-- **No street closes early**: when an accepted action changes the street, in the state right after its
bet every seat that is neither folded nor all-in has the current bet, and acted on this street when the
bet was raised for the last time or later. -/
theorem street_never_closes_early (roomId : RoomId) (handNo : ℕ) (handId : HandId)
    (ops : List (EngineOp Card)) (action : PlayerAction) (state : EngineState Card)
    (result : EngineActionResult) :
    let st := run engineStep (EngineState.new roomId handNo handId) ops
    applyAction st action = (state, .ok result) → result.streetChanged ≠ none →
      ∃ placed reset, placeAction st action = (placed, .ok reset) ∧
        advanceTurn (closeAction placed action.seatId reset) action.seatId = (state, result.streetChanged) ∧
        let mid := closeAction placed action.seatId reset
        ∀ s ∈ mid.hand.seatedPlayers, s ∉ mid.hand.foldedSeats → s ∉ mid.hand.allInSeats →
          mid.seatBet s = mid.bettingRound.currentBet ∧
          (s = action.seatId ∨ (raises st action = false ∧ SinceStep engineStep (ActsOnStreet s) KeepsBet
            (EngineState.new roomId handNo handId) ops)) := by
  intro st happ hchanged
  have hinv : EngineInv st := engineInv_run (engineInv_new roomId handNo handId) ops
  have hok : Acceptable st action := (accepts_iff hinv.pot).1 ⟨result, by rw [happ]⟩
  obtain ⟨placed, reset, hplace, hmid, happ'⟩ := applyAction_placed hinv.pot hok
  have hturn : advanceTurn (closeAction placed action.seatId reset) action.seatId =
      (state, result.streetChanged) := by
    rw [happ'] at happ
    cases happ
    rfl
  refine ⟨placed, reset, hplace, hturn, fun s hseated hfolded hall => ?_⟩
  obtain ⟨street, hstreet⟩ := Option.ne_none_iff_exists'.1 hchanged
  have hdone := seatDone_of_streetChanged (by rw [hturn]; exact hstreet)
    (mem_actionableSeats.2 ⟨mem_activeSeats.2 ⟨hseated, hfolded⟩, hall⟩)
  refine ⟨hdone.2.resolve_left hall, ?_⟩
  have hacted := hdone.1
  rw [hmid.round] at hacted
  rw [hmid.hand] at hall
  rcases mem_actedAfter hacted hall with hself | ⟨hraise, hacted', hall'⟩
  · exact .inl hself
  · exact .inr ⟨hraise, sinceStep_of_hasActed roomId handNo handId ops
      ⟨by rw [hok.turn]; rfl, hacted', hall'⟩⟩

end

def calledBlind : List (EngineOp ByteCard) :=
  [.seatPlayer 0, .seatPlayer 1, .deal ⟨1⟩ royalDeck, .act (headsUpAction 1 0 .call none)]

/-- The check of the big blind opens the flop, and seat `0` had called before it. -/
theorem flop_after_call :
    SinceStep engineStep (ActsOnStreet 0) KeepsBet (EngineState.new ⟨0⟩ 1 ⟨0⟩) calledBlind := by
  have happ : (applyAction (run engineStep (EngineState.new ⟨0⟩ 1 ⟨0⟩) calledBlind)
      (headsUpAction 2 1 .check none)).2 = .ok ⟨some .flop⟩ := by decide +kernel
  obtain ⟨placed, reset, hplace, -, hseats⟩ := street_never_closes_early ⟨0⟩ 1 ⟨0⟩ calledBlind
    (headsUpAction 2 1 .check none) _ _ (eq_of_snd_ok happ) nofun
  have hseat : 0 ∈ (placeAction (run engineStep (EngineState.new ⟨0⟩ 1 ⟨0⟩) calledBlind)
        (headsUpAction 2 1 .check none)).1.hand.seatedPlayers ∧
      0 ∉ (placeAction (run engineStep (EngineState.new ⟨0⟩ 1 ⟨0⟩) calledBlind)
        (headsUpAction 2 1 .check none)).1.hand.foldedSeats ∧
      0 ∉ (placeAction (run engineStep (EngineState.new ⟨0⟩ 1 ⟨0⟩) calledBlind)
        (headsUpAction 2 1 .check none)).1.hand.allInSeats := by decide +kernel
  rw [hplace] at hseat
  obtain ⟨-, hself | ⟨-, hsince⟩⟩ := hseats 0 hseat.1 hseat.2.1 hseat.2.2
  · cases hself
  · exact hsince

end HoldemPlatform.Engine.StreetCloses
