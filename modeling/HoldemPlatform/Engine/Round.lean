import HoldemPlatform.Engine.Action

/-!
# The Betting Round Through an Action

`applyAction_cases` leaves open what an action does to the betting round. Here it is said exactly. An
accepted action writes its bet, marks its seat (and after a raise only its seat and the all-in ones)
as having acted, and then the turn advances: `applyAction_accepted`. A refused action leaves the
state alone, unless it passes every rule of the betting round and its chips do not fit into the pot:
then the bets are already written when the addition fails (`applyAction_refused`).
-/

namespace HoldemPlatform.Engine.Round

open HoldemPlatform.Lib.FiniteMap HoldemPlatform.Domain.Money HoldemPlatform.Domain.Game
open HoldemPlatform.Engine.State HoldemPlatform.Engine.Turn HoldemPlatform.Engine.Action

variable {Card : Type}

/-- The bet an action writes for its seat, if it writes one. -/
def betTarget (st : EngineState Card) (action : PlayerAction) : Option Chips :=
  match action.actionType with
  | .fold => none
  | .check => none
  | .call => some st.bettingRound.currentBet
  | .raiseTo => action.amount
  | .allIn => action.amount

/-- The state with the bet of an action written, before its chips go to the pot. -/
def placedBets (st : EngineState Card) (action : PlayerAction) : EngineState Card :=
  match betTarget st action with
  | none => st
  | some target => raiseBet (setBet st action.seatId target) target

/-- A raise: a `RaiseTo`, or an `AllIn` above the current bet. -/
def raises (st : EngineState Card) (action : PlayerAction) : Bool :=
  match action.actionType with
  | .fold => false
  | .check => false
  | .call => false
  | .raiseTo => true
  | .allIn => st.bettingRound.currentBet < action.amount.getD 0

def actedAfter (st : EngineState Card) (action : PlayerAction) : Finset SeatId :=
  if raises st action then insert action.seatId (allInAfter st action)
  else insert action.seatId st.bettingRound.actedSeats

/-! ### The written bets -/

section

variable {st : EngineState Card} {action : PlayerAction}

theorem raiseBet_eq (st : EngineState Card) (target : Chips) :
    raiseBet st target = { st with bettingRound := (raiseBet st target).bettingRound } := by
  unfold raiseBet
  split_ifs <;> rfl

theorem placedBets_eq (st : EngineState Card) (action : PlayerAction) :
    placedBets st action = { st with bettingRound := (placedBets st action).bettingRound } := by
  unfold placedBets
  split
  · rfl
  · exact raiseBet_eq _ _

@[simp] theorem raiseBet_actingSeatId (st : EngineState Card) (target : Chips) :
    (raiseBet st target).bettingRound.actingSeatId = st.bettingRound.actingSeatId := by
  unfold raiseBet
  split_ifs <;> rfl

@[simp] theorem raiseBet_actedSeats (st : EngineState Card) (target : Chips) :
    (raiseBet st target).bettingRound.actedSeats = st.bettingRound.actedSeats := by
  unfold raiseBet
  split_ifs <;> rfl

@[simp] theorem raiseBet_playerBets (st : EngineState Card) (target : Chips) :
    (raiseBet st target).bettingRound.playerBets = st.bettingRound.playerBets := by
  unfold raiseBet
  split_ifs <;> rfl

theorem raiseBet_currentBet (st : EngineState Card) (target : Chips) :
    (raiseBet st target).bettingRound.currentBet = max st.bettingRound.currentBet target := by
  unfold raiseBet
  split_ifs with h
  · exact (max_eq_right h.le).symm
  · exact (max_eq_left (not_lt.1 h)).symm

theorem seatBet_setBet (st : EngineState Card) (seatId s : SeatId) (target : Chips) :
    (setBet st seatId target).seatBet s = if s = seatId then target else st.seatBet s := by
  unfold EngineState.seatBet setBet
  split_ifs with h
  · rw [h, AList.lookup_insert]
    rfl
  · rw [AList.lookup_insert_ne h]

@[simp] theorem placedBets_actingSeatId :
    (placedBets st action).bettingRound.actingSeatId = st.bettingRound.actingSeatId := by
  unfold placedBets
  split
  · rfl
  · exact raiseBet_actingSeatId _ _

@[simp] theorem placedBets_actedSeats :
    (placedBets st action).bettingRound.actedSeats = st.bettingRound.actedSeats := by
  unfold placedBets
  split
  · rfl
  · exact raiseBet_actedSeats _ _

theorem seatBet_placedBets_ne {s : SeatId} (hs : s ≠ action.seatId) :
    (placedBets st action).seatBet s = st.seatBet s := by
  unfold placedBets
  split
  · rfl
  · rw [EngineState.seatBet, raiseBet_playerBets]
    exact (seatBet_setBet st action.seatId s _).trans (if_neg hs)

theorem seatBet_placedBets_self {target : Chips} (h : betTarget st action = some target) :
    (placedBets st action).seatBet action.seatId = target := by
  simp only [placedBets, h]
  rw [EngineState.seatBet, raiseBet_playerBets]
  exact (seatBet_setBet st action.seatId action.seatId target).trans (if_pos rfl)

theorem currentBet_placedBets {target : Chips} (h : betTarget st action = some target) :
    (placedBets st action).bettingRound.currentBet = max st.bettingRound.currentBet target := by
  simp only [placedBets, h]
  exact raiseBet_currentBet _ _

theorem placedBets_of_none (h : betTarget st action = none) : placedBets st action = st := by
  simp only [placedBets, h]

/-! ### The branches of the action -/

theorem markActed_round (st : EngineState Card) (seatId : SeatId) :
    (markActed st seatId).bettingRound =
      { st.bettingRound with actedSeats := insert seatId st.bettingRound.actedSeats } := rfl

@[simp] theorem payIntoPot_round (st : EngineState Card) (seatId : SeatId) (delta : Chips) :
    (payIntoPot st seatId delta).1.bettingRound = st.bettingRound := by
  unfold payIntoPot
  split
  · rfl
  · split <;> rfl

/-- What the branch of an action does to the betting round. -/
def RoundOutcome (st : EngineState Card) (action : PlayerAction) :
    EngineState Card × Except EngineError Bool → Prop
  | (st', .ok reset) => reset = raises st action ∧
      st'.bettingRound =
        { (placedBets st action).bettingRound with
          actedSeats := if reset then st.bettingRound.actedSeats
            else insert action.seatId st.bettingRound.actedSeats }
  | (st', .error _) => (¬ Playable st action ∧ st' = st) ∨
      (Playable st action ∧ st'.bettingRound = (placedBets st action).bettingRound)

theorem placeCall_round (htype : action.actionType = .call) :
    RoundOutcome st action (placeCall st action.seatId) := by
  have hplay : Playable st action ↔ toCall st action.seatId ≠ 0 := by simp only [Playable, htype]
  have hplaced : placedBets st action = setBet st action.seatId st.bettingRound.currentBet := by
    simp only [placedBets, betTarget, htype]
    exact if_neg (lt_irrefl _)
  have hround := payIntoPot_round (setBet st action.seatId st.bettingRound.currentBet)
    action.seatId (toCall st action.seatId)
  unfold placeCall
  by_cases hzero : toCall st action.seatId = 0
  · rw [if_pos hzero]
    exact .inl ⟨fun hp => hplay.1 hp hzero, rfl⟩
  rw [if_neg hzero]
  split
  · rename_i st' e hpay
    rw [hpay] at hround
    exact .inr ⟨hplay.2 hzero, by rw [hplaced]; exact hround⟩
  · rename_i st' hpay
    rw [hpay] at hround
    refine ⟨by simp only [raises, htype], ?_⟩
    have hround' : st'.bettingRound = (placedBets st action).bettingRound := by
      rw [hplaced]
      exact hround
    rw [markActed_round, hround', placedBets_actedSeats]
    rfl

theorem placeRaise_round (htype : action.actionType = .raiseTo ∨ action.actionType = .allIn) :
    RoundOutcome st action (placeRaise st action) := by
  have hplay : Playable st action ↔ ∃ target, action.amount = some target ∧
      st.seatBet action.seatId < target ∧
      ¬ (action.actionType = .raiseTo ∧ raiseTooSmall st target = true) := by
    rcases htype with ht | ht <;> simp [Playable, ht]
  have htarget : betTarget st action = action.amount := by
    rcases htype with ht | ht <;> simp only [betTarget, ht]
  unfold placeRaise
  cases hamount : action.amount with
  | none => exact .inl ⟨fun hp => by simp [hplay, hamount] at hp, rfl⟩
  | some target =>
    dsimp only
    simp only [hamount, Option.some.injEq, exists_eq_left'] at hplay
    have hplaced : placedBets st action = raiseBet (setBet st action.seatId target) target := by
      simp only [placedBets, htarget, hamount]
    have hround := payIntoPot_round (raiseBet (setBet st action.seatId target) target)
      action.seatId (target.subOrZero (st.seatBet action.seatId))
    by_cases hlow : target ≤ st.seatBet action.seatId
    · rw [if_pos hlow]
      exact .inl ⟨fun hp => absurd (hplay.1 hp).1 (not_lt.2 hlow), rfl⟩
    rw [if_neg hlow]
    by_cases hsmall : action.actionType = .raiseTo ∧ raiseTooSmall st target = true
    · rw [if_pos hsmall]
      exact .inl ⟨fun hp => (hplay.1 hp).2 hsmall, rfl⟩
    rw [if_neg hsmall]
    split
    · rename_i st' e hpay
      rw [hpay] at hround
      exact .inr ⟨hplay.2 ⟨not_le.1 hlow, hsmall⟩, by rw [hplaced]; exact hround⟩
    · rename_i st' hpay
      rw [hpay] at hround
      have hround' : (if action.actionType = .allIn then goAllIn st' action.seatId
          else st').bettingRound = (placedBets st action).bettingRound := by
        rw [hplaced, ← hround]
        split_ifs <;> rfl
      -- a `RaiseTo` that is not too small is above the current bet
      have hraises : raises st action = decide (st.bettingRound.currentBet < target) := by
        rcases htype with ht | ht
        · have hbig : ¬ raiseTooSmall st target = true := fun h => hsmall ⟨ht, h⟩
          have habove : st.bettingRound.currentBet < target := by
            by_contra hle
            exact hbig (by simp [raiseTooSmall, not_lt.1 hle])
          simp [raises, ht, habove]
        · simp [raises, ht, hamount]
      by_cases hraise : st.bettingRound.currentBet < target
      · rw [if_pos hraise]
        refine ⟨by simp [hraises, hraise], ?_⟩
        rw [hround', if_pos rfl, ← @placedBets_actedSeats Card st action]
      · rw [if_neg hraise]
        refine ⟨by simp [hraises, hraise], ?_⟩
        rw [markActed_round, hround', placedBets_actedSeats]
        rfl

/-- **The betting round after the branch of an action**, whether it is accepted or not. -/
theorem placeAction_round (st : EngineState Card) (action : PlayerAction) :
    RoundOutcome st action (placeAction st action) := by
  unfold placeAction
  cases htype : action.actionType with
  | fold =>
    have hplaced : placedBets st action = st := placedBets_of_none (by simp only [betTarget, htype])
    refine ⟨by simp only [raises, htype], ?_⟩
    rw [hplaced]
    rfl
  | check =>
    have hplaced : placedBets st action = st := placedBets_of_none (by simp only [betTarget, htype])
    have hplay : Playable st action ↔ toCall st action.seatId = 0 := by
      simp only [Playable, htype]
    by_cases hzero : toCall st action.seatId = 0
    · rw [if_neg (not_not_intro hzero)]
      refine ⟨by simp only [raises, htype], ?_⟩
      rw [hplaced]
      rfl
    · rw [if_pos hzero]
      exact .inl ⟨fun hp => hzero (hplay.1 hp), rfl⟩
  | call => exact placeCall_round htype
  | raiseTo => exact placeRaise_round (.inl htype)
  | allIn => exact placeRaise_round (.inr htype)

/-! ### The outcome of an action -/

/-- An action that follows the rules of the round but whose chips do not fit into the pot. -/
structure Overflows (st : EngineState Card) (action : PlayerAction) : Prop where
  seq : action.actionSeq = st.snapshot.nextActionSeq
  turn : st.snapshot.actingSeatId = some action.seatId
  playable : Playable st action
  overflow : 2 ^ 128 ≤ st.pot.mainPot.asU128 + chipsPaid st action

/-- The state an accepted action leaves before the turn advances. -/
structure BeforeTurn (st : EngineState Card) (action : PlayerAction) (mid : EngineState Card) :
    Prop where
  snapshot : mid.snapshot =
    { st.snapshot with
      nextActionSeq := saturatingAdd 32 st.snapshot.nextActionSeq 1, potTotal := mid.pot.mainPot }
  hand : mid.hand =
    { st.hand with
      nextActionSeq := saturatingAdd 32 st.snapshot.nextActionSeq 1
      foldedSeats := foldedAfter st action, allInSeats := allInAfter st action }
  round : mid.bettingRound =
    { (placedBets st action).bettingRound with actedSeats := actedAfter st action }
  dealing : mid.dealing = st.dealing
  paid : mid.pot.mainPot.asU128 = st.pot.mainPot.asU128 + chipsPaid st action

namespace BeforeTurn

variable {mid : EngineState Card}

theorem activeSeats (h : BeforeTurn st action mid) :
    activeSeats mid = st.hand.seatedPlayers.filter (· ∉ foldedAfter st action) := by
  rw [Turn.activeSeats, h.hand]

theorem seatBet (h : BeforeTurn st action mid) (s : SeatId) :
    mid.seatBet s = (placedBets st action).seatBet s := by
  rw [EngineState.seatBet, h.round]
  rfl

theorem currentBet (h : BeforeTurn st action mid) :
    mid.bettingRound.currentBet = (placedBets st action).bettingRound.currentBet := by
  rw [h.round]

end BeforeTurn

theorem beforeTurn_of_placed {mid : EngineState Card} {reset : Bool}
    (h : Placed st action mid) (hround : RoundOutcome st action (mid, .ok reset)) :
    BeforeTurn st action (closeAction mid action.seatId reset) := by
  obtain ⟨rfl, hround⟩ := hround
  have hsnap := h.snapshot
  refine ⟨?_, ?_, ?_, h.dealing, h.paid⟩
  · simp only [closeAction]
    rw [hsnap]
  · simp only [closeAction]
    rw [hsnap, h.hand]
  · simp only [closeAction]
    rw [hround, h.hand, actedAfter]
    cases raises st action <;> rfl

/-- The two halves of an acceptable action: its branch, and the turn. -/
theorem applyAction_placed [RsPoker Card] (h : PotInv st) (hok : Acceptable st action) :
    ∃ placed reset, placeAction st action = (placed, .ok reset) ∧
      BeforeTurn st action (closeAction placed action.seatId reset) ∧ applyAction st action =
        ((advanceTurn (closeAction placed action.seatId reset) action.seatId).1,
          .ok ⟨(advanceTurn (closeAction placed action.seatId reset) action.seatId).2⟩) := by
  have hround := placeAction_round st action
  rcases placeAction_outcome h action with ⟨-, -, placed, reset, hplace, hplaced⟩ |
      ⟨hnot, -⟩
  · rw [hplace] at hround
    refine ⟨placed, reset, hplace, beforeTurn_of_placed hplaced hround, ?_⟩
    unfold applyAction
    rw [if_neg (not_not_intro hok.seq), if_neg (not_not_intro hok.turn), hplace]
  · exact absurd ⟨hok.playable, hok.fits⟩ hnot

/-- **An acceptable action is carried out and the turn advances.** -/
theorem applyAction_accepted [RsPoker Card] (h : PotInv st) (hok : Acceptable st action) :
    ∃ mid, BeforeTurn st action mid ∧ applyAction st action =
      ((advanceTurn mid action.seatId).1, .ok ⟨(advanceTurn mid action.seatId).2⟩) := by
  obtain ⟨placed, reset, -, hmid, happ⟩ := applyAction_placed h hok
  exact ⟨_, hmid, happ⟩

/-- **A refused action leaves the state alone**, except for the bets of one whose chips do not fit
into the pot. -/
theorem applyAction_refused [RsPoker Card] (h : PotInv st) (hno : ¬ Acceptable st action) :
    (¬ Overflows st action ∧ ∃ e, applyAction st action = (st, .error e)) ∨
    (Overflows st action ∧ ∃ e, applyAction st action = (placedBets st action, .error e)) := by
  unfold applyAction
  by_cases hseq : action.actionSeq = st.snapshot.nextActionSeq
  swap
  · rw [if_pos hseq]
    exact .inl ⟨fun hover => hseq hover.seq, _, rfl⟩
  rw [if_neg (not_not_intro hseq)]
  by_cases hturn : st.snapshot.actingSeatId = some action.seatId
  swap
  · rw [if_pos hturn]
    exact .inl ⟨fun hover => hturn hover.turn, _, rfl⟩
  rw [if_neg (not_not_intro hturn)]
  have hround := placeAction_round st action
  rcases placeAction_outcome h action with ⟨hplay, hfit, -⟩ | ⟨hnot, round, e, hplace⟩
  · exact absurd ⟨hseq, hturn, hplay, hfit⟩ hno
  · rw [hplace] at hround
    rw [hplace]
    rcases hround with ⟨hplay, hsame⟩ | ⟨hplay, hbets⟩
    · exact .inl ⟨fun hover => hplay hover.playable, e, by rw [hsame]⟩
    · refine .inr ⟨⟨hseq, hturn, hplay, ?_⟩, e, ?_⟩
      · exact Nat.le_of_not_lt fun hfit => hnot ⟨hplay, hfit⟩
      · dsimp only at hbets
        rw [placedBets_eq st action, ← hbets]

def actStep [RsPoker Card] (st : EngineState Card) (action : PlayerAction) : EngineState Card :=
  (applyAction st action).1

theorem potInv_actStep [RsPoker Card] (h : PotInv st) (action : PlayerAction) :
    PotInv (actStep st action) := by
  rw [actStep]
  rcases applyAction_cases h action with ⟨-, st', result, happ, hacc⟩ | ⟨-, round, e, happ⟩
  · rw [happ]
    exact hacc.inv
  · rw [happ]
    exact h.congr rfl rfl

def Accepts [RsPoker Card] (st : EngineState Card) (action : PlayerAction) : Prop :=
  ∃ result, (applyAction st action).2 = .ok result

instance [RsPoker Card] (st : EngineState Card) (action : PlayerAction) :
    Decidable (Accepts st action) :=
  match h : (applyAction st action).2 with
  | .ok result => .isTrue ⟨result, h⟩
  | .error _ => .isFalse fun ⟨_, hok⟩ => by rw [h] at hok; cases hok

theorem accepts_iff [RsPoker Card] (h : PotInv st) : Accepts st action ↔ Acceptable st action := by
  constructor
  · rintro ⟨result, hres⟩
    by_contra hno
    rcases applyAction_refused h hno with ⟨-, e, he⟩ | ⟨-, e, he⟩
    · rw [he] at hres
      cases hres
    · rw [he] at hres
      cases hres
  · intro hok
    obtain ⟨mid, -, happ⟩ := applyAction_accepted h hok
    exact ⟨_, by rw [happ]⟩

theorem acceptable_fold (hseq : action.actionSeq = st.snapshot.nextActionSeq)
    (hturn : st.snapshot.actingSeatId = some action.seatId) (htype : action.actionType = .fold) :
    Acceptable st action := by
  refine ⟨hseq, hturn, by simp only [Playable, htype], ?_⟩
  have hzero : chipsPaid st action = 0 := by simp only [chipsPaid, htype]
  rw [hzero]
  exact st.pot.mainPot.lt

end

end HoldemPlatform.Engine.Round
