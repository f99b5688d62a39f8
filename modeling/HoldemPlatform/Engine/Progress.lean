import HoldemPlatform.Engine.Run
import HoldemPlatform.Engine.Round

/-!
# Accepted Actions Move the Hand

An accepted action changes the status, the street, the pot, the turn or the action number, with one
exception: a check by the only seat that can still act, in a round that stays open, once the action
number has reached its largest value (`accepted_stands_iff`).
-/

namespace HoldemPlatform.Engine.Progress

open HoldemPlatform.Domain.Money HoldemPlatform.Domain.Game HoldemPlatform.Engine.State
open HoldemPlatform.Engine.Turn HoldemPlatform.Engine.Action HoldemPlatform.Engine.Round
open HoldemPlatform.Engine.Run

variable {Card : Type}

/-- The hand stands where it stood: the same status, street, pot, turn and action number. -/
structure Stands (st st' : EngineState Card) : Prop where
  status : st'.snapshot.status = st.snapshot.status
  street : st'.snapshot.street = st.snapshot.street
  potTotal : st'.snapshot.potTotal = st.snapshot.potTotal
  mainPot : st'.pot.mainPot = st.pot.mainPot
  actingSeatId : st'.snapshot.actingSeatId = st.snapshot.actingSeatId
  nextActionSeq : st'.snapshot.nextActionSeq = st.snapshot.nextActionSeq

theorem Stands.refl (st : EngineState Card) : Stands st st := ⟨rfl, rfl, rfl, rfl, rfl, rfl⟩

/-- The check that leads back to the same turn, with an action number that cannot grow. -/
structure Idle (st : EngineState Card) (action : PlayerAction) : Prop where
  check : action.actionType = .check
  lastSeq : saturatingAdd 32 st.snapshot.nextActionSeq 1 = st.snapshot.nextActionSeq
  two : 2 ≤ (activeSeats st).card
  roundOpen : ¬ RoundComplete (markActed st action.seatId)
  alone : actionableSeats st = {action.seatId}

section

variable {st mid : EngineState Card} {action : PlayerAction}

theorem type_of_chipsPaid_zero (hplay : Playable st action) (hzero : chipsPaid st action = 0) :
    action.actionType = .fold ∨ action.actionType = .check := by
  cases htype : action.actionType with
  | fold => exact .inl rfl
  | check => exact .inr rfl
  | call =>
    simp only [Playable, htype] at hplay
    simp only [chipsPaid, htype] at hzero
    exact absurd (Chips.eq_zero_iff.2 hzero) hplay
  | raiseTo =>
    simp only [Playable, htype] at hplay
    obtain ⟨target, hamount, hlt, -⟩ := hplay
    simp only [chipsPaid, htype, hamount, Option.getD_some] at hzero
    rw [Chips.lt_iff] at hlt
    omega
  | allIn =>
    simp only [Playable, htype] at hplay
    obtain ⟨target, hamount, hlt⟩ := hplay
    simp only [chipsPaid, htype, hamount, Option.getD_some] at hzero
    rw [Chips.lt_iff] at hlt
    omega

theorem seats_of_check (h : BeforeTurn st action mid) (hcheck : action.actionType = .check) :
    activeSeats mid = activeSeats st ∧ actionableSeats mid = actionableSeats st ∧
      (RoundComplete mid ↔ RoundComplete (markActed st action.seatId)) := by
  have hfold : foldedAfter st action = st.hand.foldedSeats := by simp [foldedAfter, hcheck]
  have hallIn : allInAfter st action = st.hand.allInSeats := by simp [allInAfter, hcheck]
  have hacted : actedAfter st action = insert action.seatId st.bettingRound.actedSeats := by
    simp [actedAfter, raises, hcheck]
  have hplaced : placedBets st action = st := placedBets_of_none (by simp only [betTarget, hcheck])
  have hactive : activeSeats mid = activeSeats st := by rw [h.activeSeats, hfold, activeSeats]
  refine ⟨hactive, by rw [actionableSeats, h.hand, hfold, hallIn, actionableSeats], ?_⟩
  unfold RoundComplete SeatDone
  rw [hactive, h.hand, h.round, hallIn, hacted, hplaced]
  have hbets : ∀ s, mid.seatBet s = st.seatBet s := fun s => by rw [h.seatBet, hplaced]
  simp only [hbets]
  exact Iff.rfl

/-- An idle action in the state from which the turn advances. -/
theorem idle_iff (h : BeforeTurn st action mid) : Idle st action ↔
    action.actionType = .check ∧
      saturatingAdd 32 st.snapshot.nextActionSeq 1 = st.snapshot.nextActionSeq ∧
      2 ≤ (activeSeats mid).card ∧ ¬ RoundComplete mid ∧ actionableSeats mid = {action.seatId} := by
  constructor
  · rintro ⟨hcheck, hseq, htwo, hround, halone⟩
    obtain ⟨hactive, haction, hdone⟩ := seats_of_check h hcheck
    rw [hactive, haction, hdone]
    exact ⟨hcheck, hseq, htwo, hround, halone⟩
  · rintro ⟨hcheck, hseq, hmid⟩
    obtain ⟨hactive, haction, hdone⟩ := seats_of_check h hcheck
    rw [hactive, haction, hdone] at hmid
    exact ⟨hcheck, hseq, hmid.1, hmid.2.1, hmid.2.2⟩

theorem nextStreet_ne {street next : Street} (h : nextStreet street = some next) :
    next ≠ street := by
  cases street <;> cases h <;> decide

/-- A passed turn leaves the hand where it was only after a check, and back to the same seat. -/
theorem passed_stands_iff (hinv : EngineInv st) (hok : Acceptable st action)
    (hmid : BeforeTurn st action mid) {seat : SeatId} (hseat : NextToAct mid action.seatId seat) :
    Stands st (mid.setActing (some seat)) ↔ action.actionType = .check ∧
      saturatingAdd 32 st.snapshot.nextActionSeq 1 = st.snapshot.nextActionSeq ∧
      seat = action.seatId := by
  have hpaid := hmid.paid
  constructor
  · intro hst
    have hsame : seat = action.seatId := Option.some.inj (hst.actingSeatId.trans hok.turn)
    have hseq : mid.snapshot.nextActionSeq = st.snapshot.nextActionSeq := hst.nextActionSeq
    have hpot : mid.pot.mainPot = st.pot.mainPot := hst.mainPot
    rw [hmid.snapshot] at hseq
    rw [hpot] at hpaid
    refine ⟨?_, hseq, hsame⟩
    refine (type_of_chipsPaid_zero hok.playable (by omega)).resolve_left fun hfold => ?_
    -- a seat that folded does not get the turn back
    have hactive := (mem_actionableSeats.1 hseat.1).1
    rw [hsame, hmid.activeSeats, foldedAfter, if_pos hfold] at hactive
    exact (Finset.mem_filter.1 hactive).2 (Finset.mem_insert_self _ _)
  · rintro ⟨hcheck, hseq, hsame⟩
    have hpot : mid.pot.mainPot = st.pot.mainPot := by
      refine Chips.ext ?_
      simp only [hpaid, chipsPaid, hcheck, Nat.add_zero]
    constructor
    · show mid.snapshot.status = _
      rw [hmid.snapshot]
    · show mid.snapshot.street = _
      rw [hmid.snapshot]
    · show mid.snapshot.potTotal = _
      rw [hmid.snapshot, hpot, hinv.pot.potTotal]
    · exact hpot
    · rw [hok.turn, ← hsame]
      rfl
    · show mid.snapshot.nextActionSeq = _
      rw [hmid.snapshot]
      exact hseq

/-- **An accepted action moves the hand**, unless it is idle. -/
theorem accepted_stands_iff [RsPoker Card] (hinv : EngineInv st) (hok : Acceptable st action) :
    Stands st (applyAction st action).1 ↔ Idle st action := by
  obtain ⟨mid, hmid, happ⟩ := applyAction_accepted hinv.pot hok
  have hseated := (hinv.acting _ hok.turn).1
  have hacting : ∀ {st' : EngineState Card}, Stands st st' → st'.snapshot.actingSeatId ≠ none := by
    intro st' hst hnone
    rw [hst.actingSeatId, hok.turn] at hnone
    cases hnone
  rw [happ, idle_iff hmid]
  have hturn := turn_step mid action.seatId
  generalize advanceTurn mid action.seatId = r at hturn
  -- the turn comes back to the seat in the last case only
  cases hturn with
  | closed h => exact iff_of_false (fun hst => hacting hst rfl) fun hidle => by omega
  | river h hround =>
    exact iff_of_false (fun hst => hacting hst rfl) fun hidle => hidle.2.2.2.1 hround
  | street h hround street seat hnext =>
    refine iff_of_false (fun hst => ?_) fun hidle => hidle.2.2.2.1 hround
    have hstreet : street = st.snapshot.street := hst.street
    rw [hmid.snapshot] at hnext
    exact nextStreet_ne hnext hstreet
  | nobody h hround hnone =>
    refine iff_of_false (fun hst => hacting hst rfl) fun hidle => ?_
    rw [hidle.2.2.2.2] at hnone
    exact Finset.singleton_ne_empty _ hnone
  | pass h hround seat hseat =>
    have hself := hseat.eq_current_iff (by rwa [hmid.hand])
    rw [passed_stands_iff hinv hok hmid hseat, hself]
    exact and_congr_right fun _ => and_congr_right fun _ =>
      ⟨fun halone => ⟨h, hround, halone⟩, fun hidle => hidle.2.2⟩

theorem refused_stands [RsPoker Card] (hinv : EngineInv st) (hno : ¬ Acceptable st action) :
    Stands st (applyAction st action).1 := by
  rcases applyAction_refused hinv.pot hno with ⟨-, e, happ⟩ | ⟨-, e, happ⟩
  · rw [happ]
    exact Stands.refl st
  · rw [happ, placedBets_eq]
    exact ⟨rfl, rfl, rfl, rfl, rfl, rfl⟩

end

end HoldemPlatform.Engine.Progress
