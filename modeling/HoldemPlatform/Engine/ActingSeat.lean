import HoldemPlatform.Engine.Copies

/-!
# The Seat That Is Asked to Act

Within one hand the turn should only come to a seat that can act. The deal and the pass from seat to
seat see to it, but the opening of a street does not: it takes the first seat left of the button that
has not folded, all-in or not. So the seat to act can act throughout a hand exactly if, whenever an
action completes a betting round and a street follows, that seat is not all-in.
-/

namespace HoldemPlatform.Engine.ActingSeat

open HoldemPlatform.Lib.Run HoldemPlatform.Domain.Money HoldemPlatform.Domain.Game
open HoldemPlatform.Engine.State HoldemPlatform.Engine.Deal HoldemPlatform.Engine.Turn
open HoldemPlatform.Engine.Action HoldemPlatform.Engine.Round HoldemPlatform.Engine.Run
open HoldemPlatform.Engine.Copies

variable {Card : Type}

/-- In a running hand the seat to act sits at the table and is neither folded nor all-in. -/
def ActingSeatCanAct (st : EngineState Card) : Prop :=
  st.snapshot.status = .running → ∃ seat, st.snapshot.actingSeatId = some seat ∧
    seat ∈ st.hand.seatedPlayers ∧ seat ∉ st.hand.foldedSeats ∧ seat ∉ st.hand.allInSeats

/-- The action completes the betting round, with at least two seats left in the hand. -/
structure ClosesRound (st : EngineState Card) (action : PlayerAction) : Prop where
  two : 2 ≤ (st.hand.seatedPlayers.filter (· ∉ foldedAfter st action)).card
  done : ∀ s ∈ st.hand.seatedPlayers, s ∉ foldedAfter st action → s ∈ actedAfter st action ∧
    (s ∈ allInAfter st action ∨
      (placedBets st action).seatBet s = (placedBets st action).bettingRound.currentBet)

/-- If the action completes the round and a street follows, the first seat left of the button that
has not folded is not all-in. -/
def NextStreetCanOpen (st : EngineState Card) (action : PlayerAction) : Prop :=
  Acceptable st action → ClosesRound st action → nextStreet st.snapshot.street ≠ none →
    ∀ seat, LeftOfButton st.hand.seatedPlayers st.snapshot.handNo (foldedAfter st action) seat →
      seat ∉ allInAfter st action

section

variable {st mid : EngineState Card} {action : PlayerAction}

theorem closesRound_iff (h : BeforeTurn st action mid) :
    ClosesRound st action ↔ 2 ≤ (activeSeats mid).card ∧ RoundComplete mid := by
  rw [RoundComplete, h.activeSeats]
  constructor
  · rintro ⟨htwo, hdone⟩
    refine ⟨htwo, fun s hs => ?_⟩
    rw [SeatDone, h.seatBet, h.currentBet, h.round, h.hand]
    exact hdone s (Finset.mem_filter.1 hs).1 (Finset.mem_filter.1 hs).2
  · rintro ⟨htwo, hdone⟩
    refine ⟨htwo, fun s hs hfold => ?_⟩
    have := hdone s (Finset.mem_filter.2 ⟨hs, hfold⟩)
    rwa [SeatDone, h.seatBet, h.currentBet, h.round, h.hand] at this

theorem LeftOfButton.unique {seated folded : Finset SeatId} {handNo : ℕ} {s t : SeatId}
    (hs : LeftOfButton seated handNo folded s) (ht : LeftOfButton seated handNo folded t) :
    s = t := by
  have hfind : ∀ {x}, LeftOfButton seated handNo folded x →
      ((sortedSeats seated).rotate (stateDealerIndex handNo seated.card + 1)).find? (· ∉ folded) =
        some x := by
    rintro x ⟨pre, post, hsplit, hpre, hx⟩
    refine List.find?_eq_some_iff_append.2 ⟨by simpa using hx, pre, post, hsplit, fun y hy => ?_⟩
    simpa using hpre y hy
  exact Option.some.inj ((hfind hs).symm.trans (hfind ht))

variable [RsPoker Card]

/-- After an accepted action the seat to act can act exactly if a street that opens finds one. -/
theorem canAct_accepted_iff (hcopies : TurnCopies st) (hok : Acceptable st action)
    (hmid : BeforeTurn st action mid) :
    ActingSeatCanAct (advanceTurn mid action.seatId).1 ↔ NextStreetCanOpen st action := by
  have hcloses := closesRound_iff hmid
  have hstep := turn_step mid action.seatId
  generalize advanceTurn mid action.seatId = r at hstep
  cases hstep with
  | closed h =>
    refine ⟨fun _ _ hclose => ?_, fun _ hrun => by cases hrun⟩
    have := hclose.two
    rw [hmid.activeSeats] at h
    omega
  | river h hround hnext =>
    have hstreet : mid.snapshot.street = st.snapshot.street := by rw [hmid.snapshot]
    rw [hstreet] at hnext
    exact ⟨fun _ _ _ hsome => absurd hnext hsome, fun _ hrun => by cases hrun⟩
  | street h hround street seat hnext hseat hleft =>
    have hstreet : mid.snapshot.street = st.snapshot.street := by rw [hmid.snapshot]
    have hno : mid.snapshot.handNo = st.snapshot.handNo := by rw [hmid.snapshot]
    have hrun : mid.snapshot.status = .running := by
      rw [hmid.snapshot]
      exact hcopies.status_of_acting hok.turn
    rw [hstreet] at hnext
    rw [hno, hmid.hand] at hleft
    rw [mem_activeSeats, hmid.hand] at hseat
    constructor
    · intro hcan _ _ _ seat' hleft'
      obtain ⟨s, hs, -, -, hall⟩ := hcan hrun
      cases hs
      rw [LeftOfButton.unique hleft' hleft]
      rwa [show (openStreet mid street (some seat)).hand.allInSeats = mid.hand.allInSeats from rfl,
        hmid.hand] at hall
    · intro hopen _
      have hall := hopen hok (hcloses.2 ⟨h, hround⟩) (by rw [hnext]; simp) seat hleft
      refine ⟨seat, rfl, ?_⟩
      simp only [openStreet]
      rw [hmid.hand]
      exact ⟨hseat.1, hseat.2, hall⟩
  | nobody h hround hnone =>
    exact ⟨fun _ _ hclose => absurd (hcloses.1 hclose).2 hround, fun _ hrun => by cases hrun⟩
  | pass h hround seat hseat =>
    refine ⟨fun _ _ hclose => absurd (hcloses.1 hclose).2 hround, fun _ _ => ?_⟩
    obtain ⟨hactive, hall⟩ := mem_actionableSeats.1 hseat.1
    obtain ⟨hseated, hfold⟩ := mem_activeSeats.1 hactive
    exact ⟨seat, rfl, hseated, hfold, hall⟩

/-- From a state in which the seat to act can act, one action leads to another such state exactly if
a street it opens finds a seat that can act. -/
theorem canAct_step_iff (hpot : PotInv st) (hcopies : TurnCopies st)
    (hcan : ActingSeatCanAct st) :
    ActingSeatCanAct (actStep st action) ↔ NextStreetCanOpen st action := by
  by_cases hok : Acceptable st action
  · obtain ⟨mid, hmid, happ⟩ := applyAction_accepted hpot hok
    rw [actStep, happ]
    exact canAct_accepted_iff hcopies hok hmid
  · have hopen : NextStreetCanOpen st action := fun h => absurd h hok
    refine ⟨fun _ => hopen, fun _ => ?_⟩
    rw [actStep]
    rcases applyAction_refused hpot hok with ⟨-, e, happ⟩ | ⟨-, e, happ⟩
    · rwa [happ]
    · rw [happ, placedBets_eq]
      exact hcan

end

theorem hand_seatPlayers [RsPoker Card] (seats : List SeatId) (st : EngineState Card) :
    (run engineStep st (seats.map .seatPlayer)).hand.foldedSeats = st.hand.foldedSeats ∧
      (run engineStep st (seats.map .seatPlayer)).hand.allInSeats = st.hand.allInSeats := by
  induction seats generalizing st with
  | nil => exact ⟨rfl, rfl⟩
  | cons seat seats ih => exact ih (st.seatPlayer seat)

/-- **The seat to act can act in every state of a hand exactly if every street that opens finds the
first unfolded seat left of the button not all-in.** The hand is the first one of its table. -/
theorem acting_seat_can_act_iff [RsPoker Card] (roomId : RoomId) (handNo : ℕ) (handId : HandId)
    (seats : List SeatId) (newHandId : HandId) (deck : List Card) (dealt : EngineState Card)
    (hdeal : dealNewHandInternalWithDeck
      (run engineStep (EngineState.new roomId handNo handId) (seats.map .seatPlayer)) newHandId deck =
        (dealt, .ok ()))
    (actions : List PlayerAction) :
    (∀ before after, actions = before ++ after → ActingSeatCanAct (run actStep dealt before)) ↔
      AllSteps actStep NextStreetCanOpen dealt actions := by
  have hmarks := hand_seatPlayers seats (EngineState.new roomId handNo handId : EngineState Card)
  generalize run engineStep (EngineState.new roomId handNo handId : EngineState Card)
    (seats.map .seatPlayer) = st at hdeal hmarks
  obtain ⟨dealing, sb, bb, first, rfl, hbs, -⟩ := deal_ok hdeal
  have hpot := potInv_dealtState st dealing newHandId first hbs.ne
  have hcan : ActingSeatCanAct (dealtState st dealing newHandId sb bb first) := by
    intro _
    refine ⟨first, rfl, ?_⟩
    rw [seatedPlayers_dealtState, foldedSeats_dealtState, allInSeats_dealtState, hmarks.1, hmarks.2]
    exact ⟨mem_sortedSeats.1 hbs.first_mem, Finset.notMem_empty _, Finset.notMem_empty _⟩
  refine forall_states_iff_allSteps (fun st => PotInv st ∧ TurnCopies st) ActingSeatCanAct ?_ ?_
    ⟨hpot, turnCopies_dealtState st dealing newHandId sb bb first⟩ hcan
  · rintro st action ⟨hpot, hcopies⟩
    exact ⟨potInv_actStep hpot action, hcopies.applyAction hpot action⟩
  · rintro st action ⟨hpot, hcopies⟩ hcan
    exact canAct_step_iff hpot hcopies hcan

/-- The small blind calls, the big blind goes all-in and is called. -/
def calledAllIn : List PlayerAction :=
  [headsUpAction 1 0 .call none, headsUpAction 2 1 .allIn (some (.ofU128 (10 ^ 15))),
    headsUpAction 3 0 .call none]

/-- The big blind goes all-in and is called: the flop opens with the turn of the all-in seat. -/
theorem called_allIn_asked_to_act :
    ∃ dealt : EngineState ByteCard, dealNewHandInternalWithDeck
        (run engineStep (EngineState.new ⟨0⟩ 1 ⟨0⟩) ([0, 1].map .seatPlayer)) ⟨1⟩ royalDeck =
          (dealt, .ok ()) ∧
      ¬ ActingSeatCanAct (run actStep dealt calledAllIn) := by
  refine ⟨headsUp, deal_headsUp, fun hcan => ?_⟩
  have heval : (run actStep headsUp calledAllIn).snapshot.status = .running ∧
      (run actStep headsUp calledAllIn).snapshot.actingSeatId = some 1 ∧
      1 ∈ (run actStep headsUp calledAllIn).hand.allInSeats := by
    decide +kernel
  obtain ⟨seat, hseat, -, -, hall⟩ := hcan heval.1
  rw [heval.2.1] at hseat
  cases hseat
  exact hall heval.2.2

/-- The blinds are called and checked: the flop opens with the turn of a seat that can act. -/
theorem checked_blinds_can_act :
    ActingSeatCanAct (run actStep headsUp
      [headsUpAction 1 0 .call none, headsUpAction 2 1 .check none]) := by
  refine (acting_seat_can_act_iff ⟨0⟩ 1 ⟨0⟩ [0, 1] ⟨1⟩ royalDeck headsUp deal_headsUp
    [headsUpAction 1 0 .call none, headsUpAction 2 1 .check none]).2 ?_ _ [] rfl
  -- nobody goes all-in
  have hnone : allInAfter headsUp (headsUpAction 1 0 .call none) = ∅ ∧
      allInAfter (actStep headsUp (headsUpAction 1 0 .call none)) (headsUpAction 2 1 .check none) =
        ∅ := by
    decide +kernel
  refine ⟨fun _ _ _ seat _ => ?_, fun _ _ _ seat _ => ?_, trivial⟩
  · rw [hnone.1]
    exact Finset.notMem_empty seat
  · rw [hnone.2]
    exact Finset.notMem_empty seat

end HoldemPlatform.Engine.ActingSeat
