import HoldemPlatform.Engine.Round
import HoldemPlatform.Engine.Run

/-!
# The Copies of the Turn

The seat to act is stored three times, the street, the sequence number and the hand identifier twice.
`TurnCopies` says that the copies agree, and that there is a seat to act exactly while the hand runs.
Every operation of the engine keeps it, refused actions included.
-/

namespace HoldemPlatform.Engine.Copies

open HoldemPlatform.Lib.Run HoldemPlatform.Domain.Money HoldemPlatform.Domain.Game
open HoldemPlatform.Engine.State HoldemPlatform.Engine.Deal HoldemPlatform.Engine.Turn
open HoldemPlatform.Engine.Action HoldemPlatform.Engine.Round HoldemPlatform.Engine.Run

variable {Card : Type}

/-- The copies of the turn state agree, and somebody has the turn exactly in a running hand. -/
structure TurnCopies (st : EngineState Card) : Prop where
  handActing : st.hand.actingSeatId = st.snapshot.actingSeatId
  roundActing : st.bettingRound.actingSeatId = st.snapshot.actingSeatId
  street : st.hand.street = st.snapshot.street
  nextActionSeq : st.hand.nextActionSeq = st.snapshot.nextActionSeq
  handId : st.hand.handId = st.snapshot.handId
  running : st.snapshot.actingSeatId.isSome = true ↔ st.snapshot.status = .running

theorem turnCopies_new (roomId : RoomId) (handNo : ℕ) (handId : HandId) :
    TurnCopies (EngineState.new roomId handNo handId : EngineState Card) :=
  ⟨rfl, rfl, rfl, rfl, rfl, by simp [EngineState.new]⟩

theorem turnCopies_dealtState (st : EngineState Card) (dealing : DealingState Card)
    (newHandId : HandId) (sb bb first : SeatId) :
    TurnCopies (dealtState st dealing newHandId sb bb first) :=
  ⟨rfl, rfl, rfl, rfl, rfl, by simp [dealtState, openHand]⟩

namespace TurnCopies

variable {st : EngineState Card}

theorem acting_eq_none_iff (h : TurnCopies st) :
    st.snapshot.actingSeatId = none ↔ st.snapshot.status ≠ .running := by
  rw [Ne, ← h.running]
  simp

theorem status_of_acting (h : TurnCopies st) {seat : SeatId}
    (hact : st.snapshot.actingSeatId = some seat) : st.snapshot.status = .running :=
  h.running.1 (by rw [hact]; rfl)

theorem exists_acting (h : TurnCopies st) (hrun : st.snapshot.status = .running) :
    ∃ seat, st.snapshot.actingSeatId = some seat :=
  Option.isSome_iff_exists.1 (h.running.2 hrun)

theorem seatPlayer (h : TurnCopies st) (seatId : SeatId) : TurnCopies (st.seatPlayer seatId) :=
  ⟨h.handActing, h.roundActing, h.street, h.nextActionSeq, h.handId, h.running⟩

theorem deal [RsPoker Card] (h : TurnCopies st) (newHandId : HandId) (deck : List Card) :
    TurnCopies (dealNewHandInternalWithDeck st newHandId deck).1 := by
  rcases deal_cases st newHandId deck with ⟨e, he⟩ | ⟨dealing, sb, bb, first, hd, -, -⟩
  · rwa [he]
  · rw [hd]
    exact turnCopies_dealtState st dealing newHandId sb bb first

theorem placedBets (h : TurnCopies st) (action : PlayerAction) :
    TurnCopies (placedBets st action) := by
  rw [placedBets_eq]
  exact ⟨h.handActing, by rw [placedBets_actingSeatId]; exact h.roundActing, h.street,
    h.nextActionSeq, h.handId, h.running⟩

theorem advanceTurn [RsPoker Card] {action : PlayerAction} {mid : EngineState Card}
    (h : TurnCopies st) (hturn : st.snapshot.actingSeatId = some action.seatId)
    (hmid : BeforeTurn st action mid) :
    TurnCopies (advanceTurn mid action.seatId).1 := by
  have hrun : mid.snapshot.status = .running := by
    rw [hmid.snapshot]
    exact h.status_of_acting hturn
  have hstreet : mid.hand.street = mid.snapshot.street := by
    rw [hmid.snapshot, hmid.hand]
    exact h.street
  have hseq : mid.hand.nextActionSeq = mid.snapshot.nextActionSeq := by
    rw [hmid.snapshot, hmid.hand]
  have hid : mid.hand.handId = mid.snapshot.handId := by
    rw [hmid.snapshot, hmid.hand]
    exact h.handId
  have hstep := turn_step mid action.seatId
  generalize Turn.advanceTurn mid action.seatId = r at hstep
  cases hstep with
  | closed => exact ⟨rfl, rfl, hstreet, hseq, hid, by simp [closeHand]⟩
  | river => exact ⟨rfl, rfl, rfl, hseq, hid, by simp [goToShowdown]⟩
  | street => exact ⟨rfl, rfl, rfl, hseq, hid, by simp [openStreet, hrun]⟩
  | nobody => exact ⟨rfl, rfl, rfl, hseq, hid, by simp [goToShowdown]⟩
  | pass => exact ⟨rfl, rfl, hstreet, hseq, hid, by simp [EngineState.setActing, hrun]⟩

/-- **An action keeps the copies together**, accepted or refused. -/
theorem applyAction [RsPoker Card] (h : TurnCopies st) (hpot : PotInv st) (action : PlayerAction) :
    TurnCopies (applyAction st action).1 := by
  by_cases hok : Acceptable st action
  · obtain ⟨mid, hmid, happ⟩ := applyAction_accepted hpot hok
    rw [happ]
    exact h.advanceTurn hok.turn hmid
  · rcases applyAction_refused hpot hok with ⟨-, e, happ⟩ | ⟨-, e, happ⟩
    · rwa [happ]
    · rw [happ]
      exact h.placedBets action

end TurnCopies

end HoldemPlatform.Engine.Copies
