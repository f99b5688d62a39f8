import HoldemPlatform.Engine.PotLayers
import HoldemPlatform.Engine.Turn

/-!
# Applying an Action

`apply_action` checks the sequence number and the turn, carries out the action, rebuilds the side
pots, and advances the turn. `PotInv` is what ties the pot together: the main pot, the total shown in
the snapshot and the contributions of the seats are the same amount. Under it `applyAction_cases` says
exactly which actions are accepted (`Acceptable`), what an accepted one does (`Accepted`), and that a
refused one changes at most the betting round.
-/

namespace HoldemPlatform.Engine.Action

open HoldemPlatform.Lib.FiniteMap HoldemPlatform.Domain.Money HoldemPlatform.Domain.Game
open HoldemPlatform.Engine.State HoldemPlatform.Engine.Deal HoldemPlatform.Engine.PotLayers
open HoldemPlatform.Engine.Turn

variable {Card : Type}

/-- What a seat has to add to match the current bet. -/
def toCall (st : EngineState Card) (seatId : SeatId) : Chips :=
  st.bettingRound.currentBet.subOrZero (st.seatBet seatId)

def nextMinRaiseTo (currentBet targetBet : Chips) : Chips :=
  let raiseSize := targetBet.subOrZero currentBet
  if raiseSize = 0 then targetBet else targetBet.addOr raiseSize targetBet

def legalActions (st : EngineState Card) (seatId : SeatId) : List LegalAction :=
  if st.snapshot.actingSeatId ≠ some seatId then []
  else
    let currentBet := st.bettingRound.currentBet
    let toCall := toCall st seatId
    let minRaiseTo := st.bettingRound.minRaiseTo.getD (currentBet.addOr (.ofU128 1) currentBet)
    [⟨.fold, none, none⟩,
      if toCall = 0 then ⟨.check, none, none⟩ else ⟨.call, some toCall, some toCall⟩,
      ⟨.raiseTo, some minRaiseTo, none⟩, ⟨.allIn, none, none⟩]

/-! ### The branches of the action -/

def markActed (st : EngineState Card) (seatId : SeatId) : EngineState Card :=
  { st with
    bettingRound :=
      { st.bettingRound with actedSeats := insert seatId st.bettingRound.actedSeats } }

def setBet (st : EngineState Card) (seatId : SeatId) (target : Chips) : EngineState Card :=
  { st with
    bettingRound :=
      { st.bettingRound with playerBets := st.bettingRound.playerBets.insert seatId target } }

/-- A bet above the current one becomes the current bet and sets the next minimal raise. -/
def raiseBet (st : EngineState Card) (target : Chips) : EngineState Card :=
  if st.bettingRound.currentBet < target then
    { st with
      bettingRound :=
        { st.bettingRound with
          currentBet := target
          minRaiseTo := some (nextMinRaiseTo st.bettingRound.currentBet target) } }
  else st

def foldSeat (st : EngineState Card) (seatId : SeatId) : EngineState Card :=
  { st with hand := { st.hand with foldedSeats := insert seatId st.hand.foldedSeats } }

def goAllIn (st : EngineState Card) (seatId : SeatId) : EngineState Card :=
  { st with hand := { st.hand with allInSeats := insert seatId st.hand.allInSeats } }

/-- Chips go to the main pot, then to the seat's contribution, then to the shown total. -/
def payIntoPot (st : EngineState Card) (seatId : SeatId) (delta : Chips) :
    EngineState Card × Except EngineError Unit :=
  match st.pot.mainPot.checkedAdd delta with
  | .error e => (st, .error (.money e))
  | .ok mainPot =>
    match addContribution st.pot.playerContributions seatId delta with
    | .error e => ({ st with pot := { st.pot with mainPot } }, .error e)
    | .ok playerContributions =>
      ({ st with
          pot := { st.pot with mainPot, playerContributions }
          snapshot := { st.snapshot with potTotal := mainPot } }, .ok ())

def placeCall (st : EngineState Card) (seatId : SeatId) :
    EngineState Card × Except EngineError Bool :=
  if toCall st seatId = 0 then (st, .error (.domain .actionIllegal))
  else
    match payIntoPot (setBet st seatId st.bettingRound.currentBet) seatId (toCall st seatId) with
    | (st', .error e) => (st', .error e)
    | (st', .ok ()) => (markActed st' seatId, .ok false)

/-- A `RaiseTo` that does not raise, or by less than the minimal raise. -/
def raiseTooSmall (st : EngineState Card) (target : Chips) : Bool :=
  target ≤ st.bettingRound.currentBet ||
    match st.bettingRound.minRaiseTo with
    | some minRaiseTo => target < minRaiseTo
    | none => false

/-- The `RaiseTo` and `AllIn` branch; the flag says that the round starts over. -/
def placeRaise (st : EngineState Card) (action : PlayerAction) :
    EngineState Card × Except EngineError Bool :=
  match action.amount with
  | none => (st, .error (.domain .actionIllegal))
  | some target =>
    if target ≤ st.seatBet action.seatId then (st, .error (.domain .actionIllegal))
    else if action.actionType = .raiseTo ∧ raiseTooSmall st target then
      (st, .error (.domain .actionIllegal))
    else
      match payIntoPot (raiseBet (setBet st action.seatId target) target) action.seatId
          (target.subOrZero (st.seatBet action.seatId)) with
      | (st', .error e) => (st', .error e)
      | (st', .ok ()) =>
        let st'' := if action.actionType = .allIn then goAllIn st' action.seatId else st'
        if st.bettingRound.currentBet < target then (st'', .ok true)
        else (markActed st'' action.seatId, .ok false)

/-- The branches by action type; the flag is `reset_round_acted`. -/
def placeAction (st : EngineState Card) (action : PlayerAction) :
    EngineState Card × Except EngineError Bool :=
  match action.actionType with
  | .fold => (markActed (foldSeat st action.seatId) action.seatId, .ok false)
  | .check =>
    if toCall st action.seatId ≠ 0 then (st, .error (.domain .actionIllegal))
    else (markActed st action.seatId, .ok false)
  | .call => placeCall st action.seatId
  | .raiseTo => placeRaise st action
  | .allIn => placeRaise st action

/-- Side pots, the round after a raise, and the next sequence number. -/
def closeAction (st : EngineState Card) (seatId : SeatId) (resetRoundActed : Bool) :
    EngineState Card where
  snapshot :=
    { st.snapshot with nextActionSeq := saturatingAdd 32 st.snapshot.nextActionSeq 1 }
  hand := { st.hand with nextActionSeq := saturatingAdd 32 st.snapshot.nextActionSeq 1 }
  bettingRound :=
    { st.bettingRound with
      actedSeats :=
        if resetRoundActed then insert seatId st.hand.allInSeats else st.bettingRound.actedSeats }
  pot :=
    { st.pot with sidePots := buildSidePots st.pot.playerContributions st.hand.foldedSeats }
  dealing := st.dealing

/-- `apply_action`. An error can leave the betting round changed, so the state is always returned. -/
def applyAction [RsPoker Card] (st : EngineState Card) (action : PlayerAction) :
    EngineState Card × Except EngineError EngineActionResult :=
  if action.actionSeq ≠ st.snapshot.nextActionSeq then (st, .error (.domain .actionIllegal))
  else if st.snapshot.actingSeatId ≠ some action.seatId then (st, .error (.domain .notYourTurn))
  else
    match placeAction st action with
    | (st', .error e) => (st', .error e)
    | (st', .ok resetRoundActed) =>
      match advanceTurn (closeAction st' action.seatId resetRoundActed) action.seatId with
      | (st'', streetChanged) => (st'', .ok { streetChanged })

def postActionEventKinds (st : EngineState Card) (action : PlayerAction)
    (result : EngineActionResult) : List HandEventKind :=
  [.actionAccepted action, .potUpdated st.snapshot.potTotal] ++
    (result.streetChanged.map .streetChanged).toList ++
    (if st.snapshot.status = .settled ∨ st.snapshot.status = .aborted then [.handClosed]
      else (st.snapshot.actingSeatId.map .turnStarted).toList)

/-! ### The pot adds up -/

/-- Main pot, shown total and contributions are one amount. -/
structure PotInv (st : EngineState Card) : Prop where
  mainPot : st.pot.mainPot.asU128 = total Chips.asU128 st.pot.playerContributions
  potTotal : st.snapshot.potTotal = st.pot.mainPot

/-- `st'` is `st` after `delta` chips went into the pot; the hand and the round may differ. -/
structure Paid (st st' : EngineState Card) (delta : ℕ) : Prop where
  snapshot : st'.snapshot = { st.snapshot with potTotal := st'.pot.mainPot }
  dealing : st'.dealing = st.dealing
  paid : st'.pot.mainPot.asU128 = st.pot.mainPot.asU128 + delta
  inv : PotInv st'

theorem payIntoPot_cases {st : EngineState Card} (h : PotInv st) (seatId : SeatId)
    (delta : Chips) :
    (st.pot.mainPot.asU128 + delta.asU128 < 2 ^ 128 ∧
      ∃ st', payIntoPot st seatId delta = (st', .ok ()) ∧ Paid st st' delta.asU128 ∧
        st'.hand = st.hand) ∨
    (¬ st.pot.mainPot.asU128 + delta.asU128 < 2 ^ 128 ∧
      payIntoPot st seatId delta = (st, .error (.money .overflow))) := by
  by_cases hfit : st.pot.mainPot.asU128 + delta.asU128 < 2 ^ 128
  · left
    have hmain := h.mainPot
    obtain ⟨c, hc⟩ :=
      addContribution_ok seatId (show total Chips.asU128 st.pot.playerContributions + delta.asU128 <
        2 ^ 128 by omega)
    have htotal := total_addContribution hc
    refine ⟨hfit, ?_⟩
    unfold payIntoPot
    rw [Chips.checkedAdd_of_lt hfit, hc]
    refine ⟨_, rfl, ⟨rfl, rfl, rfl, ?_, rfl⟩, rfl⟩
    simp only
    omega
  · right
    refine ⟨hfit, ?_⟩
    unfold payIntoPot
    rw [Chips.checkedAdd_of_not_lt hfit]

@[simp] theorem raiseBet_hand (st : EngineState Card) (target : Chips) :
    (raiseBet st target).hand = st.hand := by
  unfold raiseBet
  split_ifs <;> rfl

@[simp] theorem raiseBet_snapshot (st : EngineState Card) (target : Chips) :
    (raiseBet st target).snapshot = st.snapshot := by
  unfold raiseBet
  split_ifs <;> rfl

@[simp] theorem raiseBet_pot (st : EngineState Card) (target : Chips) :
    (raiseBet st target).pot = st.pot := by
  unfold raiseBet
  split_ifs <;> rfl

@[simp] theorem raiseBet_dealing (st : EngineState Card) (target : Chips) :
    (raiseBet st target).dealing = st.dealing := by
  unfold raiseBet
  split_ifs <;> rfl

/-! ### Which actions are accepted -/

/-- The chips an action puts into the pot if it is accepted. -/
def chipsPaid (st : EngineState Card) (action : PlayerAction) : ℕ :=
  match action.actionType with
  | .fold => 0
  | .check => 0
  | .call => (toCall st action.seatId).asU128
  | .raiseTo => (action.amount.getD 0).asU128 - (st.seatBet action.seatId).asU128
  | .allIn => (action.amount.getD 0).asU128 - (st.seatBet action.seatId).asU128

/-- The rules of the betting round for one action. -/
def Playable (st : EngineState Card) (action : PlayerAction) : Prop :=
  match action.actionType with
  | .fold => True
  | .check => toCall st action.seatId = 0
  | .call => toCall st action.seatId ≠ 0
  | .raiseTo => ∃ target, action.amount = some target ∧ st.seatBet action.seatId < target ∧
      raiseTooSmall st target = false
  | .allIn => ∃ target, action.amount = some target ∧ st.seatBet action.seatId < target

/-- The actions that `apply_action` accepts. -/
structure Acceptable (st : EngineState Card) (action : PlayerAction) : Prop where
  seq : action.actionSeq = st.snapshot.nextActionSeq
  turn : st.snapshot.actingSeatId = some action.seatId
  playable : Playable st action
  fits : st.pot.mainPot.asU128 + chipsPaid st action < 2 ^ 128

def foldedAfter (st : EngineState Card) (action : PlayerAction) : Finset SeatId :=
  if action.actionType = .fold then insert action.seatId st.hand.foldedSeats
  else st.hand.foldedSeats

def allInAfter (st : EngineState Card) (action : PlayerAction) : Finset SeatId :=
  if action.actionType = .allIn then insert action.seatId st.hand.allInSeats
  else st.hand.allInSeats

/-- What the branch of the action leaves behind when it accepts it. -/
structure Placed (st : EngineState Card) (action : PlayerAction) (st' : EngineState Card) : Prop
    extends Paid st st' (chipsPaid st action) where
  hand : st'.hand =
    { st.hand with foldedSeats := foldedAfter st action, allInSeats := allInAfter st action }

def PlaceOutcome (st : EngineState Card) (action : PlayerAction)
    (r : EngineState Card × Except EngineError Bool) : Prop :=
  (Playable st action ∧ st.pot.mainPot.asU128 + chipsPaid st action < 2 ^ 128 ∧
    ∃ st' reset, r = (st', .ok reset) ∧ Placed st action st') ∨
  (¬ (Playable st action ∧ st.pot.mainPot.asU128 + chipsPaid st action < 2 ^ 128) ∧
    ∃ round e, r = ({ st with bettingRound := round }, .error e))

section

variable {st : EngineState Card} {action : PlayerAction}

theorem PotInv.paid_zero (h : PotInv st) : Paid st st 0 :=
  ⟨by rw [← h.potTotal], rfl, rfl, h⟩

theorem PotInv.congr {st' : EngineState Card} (h : PotInv st) (hpot : st'.pot = st.pot)
    (hsnap : st'.snapshot = st.snapshot) : PotInv st' :=
  ⟨by rw [hpot]; exact h.mainPot, by rw [hpot, hsnap]; exact h.potTotal⟩

theorem PotInv.setBet (h : PotInv st) (seatId : SeatId) (target : Chips) :
    PotInv (setBet st seatId target) :=
  h.congr rfl rfl

theorem PotInv.raiseBet (h : PotInv st) (target : Chips) : PotInv (raiseBet st target) :=
  h.congr (raiseBet_pot st target) (raiseBet_snapshot st target)

theorem Placed.markActed {st' : EngineState Card} (h : Placed st action st') (seatId : SeatId) :
    Placed st action (markActed st' seatId) :=
  ⟨⟨h.snapshot, h.dealing, h.paid, h.inv.congr rfl rfl⟩, h.hand⟩

theorem placeCall_outcome (h : PotInv st) (htype : action.actionType = .call) :
    PlaceOutcome st action (placeCall st action.seatId) := by
  have hchips : chipsPaid st action = (toCall st action.seatId).asU128 := by
    simp only [chipsPaid, htype]
  have hplay : Playable st action ↔ toCall st action.seatId ≠ 0 := by simp only [Playable, htype]
  unfold placeCall PlaceOutcome
  rw [hchips, hplay]
  by_cases hzero : toCall st action.seatId = 0
  · rw [if_pos hzero]
    exact .inr ⟨fun hp => hp.1 hzero, st.bettingRound, _, rfl⟩
  · rw [if_neg hzero]
    rcases payIntoPot_cases (h.setBet action.seatId st.bettingRound.currentBet) action.seatId
        (toCall st action.seatId) with ⟨hfit, st', hpay, hpaid, hhand⟩ | ⟨hfit, hpay⟩
    · left
      rw [hpay]
      have hplaced : Placed st action st' := by
        refine ⟨⟨hpaid.snapshot, hpaid.dealing, ?_, hpaid.inv⟩, ?_⟩
        · rw [hchips]
          exact hpaid.paid
        · simpa [foldedAfter, allInAfter, htype, setBet] using hhand
      exact ⟨hzero, hfit, _, _, rfl, hplaced.markActed action.seatId⟩
    · right
      rw [hpay]
      exact ⟨fun hp => hfit hp.2, _, _, rfl⟩

theorem placeRaise_outcome (h : PotInv st)
    (htype : action.actionType = .raiseTo ∨ action.actionType = .allIn) :
    PlaceOutcome st action (placeRaise st action) := by
  have hfold : action.actionType ≠ .fold := by rcases htype with ht | ht <;> simp [ht]
  have hchips : chipsPaid st action =
      (action.amount.getD 0).asU128 - (st.seatBet action.seatId).asU128 := by
    rcases htype with ht | ht <;> simp only [chipsPaid, ht]
  have hplay : Playable st action ↔ ∃ target, action.amount = some target ∧
      st.seatBet action.seatId < target ∧
      ¬ (action.actionType = .raiseTo ∧ raiseTooSmall st target = true) := by
    rcases htype with ht | ht <;> simp [Playable, ht]
  unfold placeRaise PlaceOutcome
  rw [hchips, hplay]
  cases hamount : action.amount with
  | none => exact .inr ⟨fun ⟨⟨_, hp, _⟩, _⟩ => by simp at hp, st.bettingRound, _, rfl⟩
  | some target =>
    simp only [Option.getD_some, Option.some.injEq, exists_eq_left']
    by_cases hlow : target ≤ st.seatBet action.seatId
    · rw [if_pos hlow]
      exact .inr ⟨fun hp => absurd hp.1.1 (not_lt.2 hlow), st.bettingRound, _, rfl⟩
    rw [if_neg hlow]
    by_cases hsmall : action.actionType = .raiseTo ∧ raiseTooSmall st target = true
    · rw [if_pos hsmall]
      exact .inr ⟨fun hp => hp.1.2 hsmall, st.bettingRound, _, rfl⟩
    rw [if_neg hsmall]
    rcases payIntoPot_cases ((h.setBet action.seatId target).raiseBet target) action.seatId
        (target.subOrZero (st.seatBet action.seatId)) with
        ⟨hfit, st', hpay, hpaid, hhand⟩ | ⟨hfit, hpay⟩
    · left
      rw [raiseBet_pot] at hfit
      rw [hpay]
      have hmid := hpaid.paid
      have hsnap := hpaid.snapshot
      have hdeal := hpaid.dealing
      rw [raiseBet_pot] at hmid
      rw [raiseBet_snapshot] at hsnap
      rw [raiseBet_dealing] at hdeal
      rw [raiseBet_hand] at hhand
      have hplaced : Placed st action
          (if action.actionType = .allIn then goAllIn st' action.seatId else st') := by
        split_ifs with hall
        · refine ⟨⟨hsnap, hdeal, ?_, hpaid.inv.congr rfl rfl⟩, ?_⟩
          · rw [hchips, hamount]
            exact hmid
          · simp [goAllIn, hhand, setBet, foldedAfter, allInAfter, hall]
        · refine ⟨⟨hsnap, hdeal, ?_, hpaid.inv⟩, ?_⟩
          · rw [hchips, hamount]
            exact hmid
          · simp [hhand, setBet, foldedAfter, allInAfter, hall, hfold]
      refine ⟨⟨not_le.1 hlow, hsmall⟩, hfit, ?_⟩
      simp only
      by_cases hraise : st.bettingRound.currentBet < target
      · rw [if_pos hraise]
        exact ⟨_, _, rfl, hplaced⟩
      · rw [if_neg hraise]
        exact ⟨_, _, rfl, hplaced.markActed action.seatId⟩
    · right
      rw [raiseBet_pot] at hfit
      rw [hpay]
      refine ⟨fun hp => hfit hp.2, (raiseBet (setBet st action.seatId target) target).bettingRound,
        .money .overflow, ?_⟩
      unfold raiseBet
      split_ifs <;> rfl

/-- Under `PotInv` every branch of an action has the outcome its rules say. -/
theorem placeAction_outcome (h : PotInv st) (action : PlayerAction) :
    PlaceOutcome st action (placeAction st action) := by
  unfold placeAction
  cases htype : action.actionType with
  | fold =>
    have hc : chipsPaid st action = 0 := by simp only [chipsPaid, htype]
    have hplaced : Placed st action (foldSeat st action.seatId) := by
      refine ⟨⟨h.paid_zero.snapshot, rfl, by rw [hc]; rfl, h.congr rfl rfl⟩, ?_⟩
      simp [foldSeat, foldedAfter, allInAfter, htype]
    left
    exact ⟨by simp only [Playable, htype], by rw [hc]; exact st.pot.mainPot.lt, _, _, rfl,
      hplaced.markActed action.seatId⟩
  | check =>
    have hc : chipsPaid st action = 0 := by simp only [chipsPaid, htype]
    have hplay : Playable st action ↔ toCall st action.seatId = 0 := by
      simp only [Playable, htype]
    by_cases hzero : toCall st action.seatId = 0
    · have hplaced : Placed st action st := by
        refine ⟨by rw [hc]; exact h.paid_zero, ?_⟩
        simp [foldedAfter, allInAfter, htype]
      left
      rw [hplay]
      rw [if_neg (not_not_intro hzero)]
      exact ⟨hzero, by rw [hc]; exact st.pot.mainPot.lt, _, _, rfl, hplaced.markActed action.seatId⟩
    · right
      rw [hplay]
      rw [if_pos hzero]
      exact ⟨fun hp => hzero hp.1, st.bettingRound, _, rfl⟩
  | call => exact placeCall_outcome h htype
  | raiseTo => exact placeRaise_outcome h (.inl htype)
  | allIn => exact placeRaise_outcome h (.inr htype)

structure Accepted [RsPoker Card] (st : EngineState Card) (action : PlayerAction)
    (st' : EngineState Card) : Prop where
  inv : PotInv st'
  paid : st'.snapshot.potTotal.asU128 = st.snapshot.potTotal.asU128 + chipsPaid st action
  nextActionSeq : st'.snapshot.nextActionSeq = saturatingAdd 32 st.snapshot.nextActionSeq 1
  roomId : st'.snapshot.roomId = st.snapshot.roomId
  handId : st'.snapshot.handId = st.snapshot.handId
  handNo : st'.snapshot.handNo = st.snapshot.handNo
  seatedPlayers : st'.hand.seatedPlayers = st.hand.seatedPlayers
  foldedSeats : st'.hand.foldedSeats = foldedAfter st action
  allInSeats : st'.hand.allInSeats = allInAfter st action
  dealing : st'.dealing = st.dealing
  acting : ∀ seat, st'.snapshot.actingSeatId = some seat →
    seat ∈ activeSeats st' ∧ st'.snapshot.status = st.snapshot.status
  status : 2 ≤ (activeSeats st').card →
    st'.snapshot.status = .showdown ∨ st'.snapshot.status = st.snapshot.status

theorem accepted_of_placed [RsPoker Card] {mid : EngineState Card} (hinv : PotInv st)
    (h : Placed st action mid) (reset : Bool) :
    Accepted st action
      (advanceTurn (closeAction mid action.seatId reset) action.seatId).1 := by
  have hturn := turn_cases (closeAction mid action.seatId reset) action.seatId
  generalize advanceTurn (closeAction mid action.seatId reset) action.seatId = r at hturn
  have hframe := hturn.frame
  have hactive : activeSeats r.1 = activeSeats (closeAction mid action.seatId reset) := by
    unfold activeSeats
    rw [hframe.seatedPlayers, hframe.foldedSeats]
  have hsnap := h.snapshot
  refine ⟨⟨?_, ?_⟩, ?_, ?_, ?_, ?_, ?_, ?_, ?_, ?_, ?_, ?_, ?_⟩
  · rw [hframe.pot]
    exact h.inv.mainPot
  · rw [hframe.pot, hframe.potTotal]
    exact h.inv.potTotal
  · rw [hframe.potTotal, hinv.potTotal, ← h.paid]
    exact congrArg Chips.asU128 h.inv.potTotal
  · rw [hframe.nextActionSeq]
    simp [closeAction, hsnap]
  · rw [hframe.roomId]
    simp [closeAction, hsnap]
  · rw [hframe.handId]
    simp [closeAction, hsnap]
  · rw [hframe.handNo]
    simp [closeAction, hsnap]
  · rw [hframe.seatedPlayers]
    simp [closeAction, h.hand]
  · rw [hframe.foldedSeats]
    simp [closeAction, h.hand]
  · rw [hframe.allInSeats]
    simp [closeAction, h.hand]
  · rw [hframe.dealing]
    exact h.dealing
  · intro seat hseat
    rw [hactive]
    have hstatus := hturn.status_of_acting hseat
    exact ⟨hturn.acting_mem hseat, by simpa [closeAction, hsnap] using hstatus⟩
  · intro htwo
    rw [hactive] at htwo
    have hstatus := hturn.status_of_two htwo
    simpa [closeAction, hsnap] using hstatus

/-- **What an action can do**: an acceptable one is carried out, any other one is refused and leaves
the snapshot, the hand, the pot and the cards alone. -/
theorem applyAction_cases [RsPoker Card] (h : PotInv st) (action : PlayerAction) :
    (Acceptable st action ∧ ∃ st' result, applyAction st action = (st', .ok result) ∧
      Accepted st action st') ∨
    (¬ Acceptable st action ∧ ∃ round e,
      applyAction st action = ({ st with bettingRound := round }, .error e)) := by
  unfold applyAction
  by_cases hseq : action.actionSeq = st.snapshot.nextActionSeq
  swap
  · rw [if_pos hseq]
    exact .inr ⟨fun ha => hseq ha.seq, st.bettingRound, _, rfl⟩
  rw [if_neg (not_not_intro hseq)]
  by_cases hturn : st.snapshot.actingSeatId = some action.seatId
  swap
  · rw [if_pos hturn]
    exact .inr ⟨fun ha => hturn ha.turn, st.bettingRound, _, rfl⟩
  rw [if_neg (not_not_intro hturn)]
  rcases placeAction_outcome h action with ⟨hplay, hfit, mid, reset, hplace, hplaced⟩ |
      ⟨hnot, round, e, hplace⟩
  · rw [hplace]
    exact .inl ⟨⟨hseq, hturn, hplay, hfit⟩, _, _, rfl, accepted_of_placed h hplaced reset⟩
  · rw [hplace]
    exact .inr ⟨fun ha => hnot ⟨ha.playable, ha.fits⟩, round, e, rfl⟩

end

end HoldemPlatform.Engine.Action
