import HoldemPlatform.Engine.Deal
import HoldemPlatform.Lib.Rotation

/-!
# Advancing the Turn

`advance_turn` runs after every accepted action. With one unfolded seat left it closes the hand; when
the betting round is complete it opens the next street, or the showdown after the river; when nobody
can act any more it goes to the showdown; otherwise the turn passes to the next seat that can act.
`turn_step` says exactly when it does which, and which seat it finds (`LeftOfButton`, `NextToAct`);
`TurnFrame` says what it never touches and `turn_cases` sums up where it can lead.
-/

namespace HoldemPlatform.Engine.Turn

open HoldemPlatform.Lib.FiniteMap HoldemPlatform.Lib.Rotation
open HoldemPlatform.Domain.Money HoldemPlatform.Domain.Game
open HoldemPlatform.Engine.State HoldemPlatform.Engine.Deal

variable {Card : Type}

def activeSeats (st : EngineState Card) : Finset SeatId :=
  st.hand.seatedPlayers.filter (· ∉ st.hand.foldedSeats)

def actionableSeats (st : EngineState Card) : Finset SeatId :=
  st.hand.seatedPlayers.filter fun s => s ∉ st.hand.foldedSeats ∧ s ∉ st.hand.allInSeats

def activeSeatsSorted (st : EngineState Card) : List SeatId := sortedSeats (activeSeats st)

def actionableSeatsSorted (st : EngineState Card) : List SeatId := sortedSeats (actionableSeats st)

def isBettingRoundComplete (st : EngineState Card) (activeSeats : List SeatId) : Bool :=
  !activeSeats.isEmpty && activeSeats.all fun seat =>
    seat ∈ st.bettingRound.actedSeats &&
      (seat ∈ st.hand.allInSeats || st.seatBet seat = st.bettingRound.currentBet)

def nextStreet : Street → Option Street
  | .preflop => some .flop
  | .flop => some .turn
  | .turn => some .river
  | .river => none
  | .showdown => none

def revealCount : Street → ℕ
  | .preflop => 0
  | .flop => 3
  | .turn => 4
  | .river => 5
  | .showdown => 5

/-- The first of `seats`, from the place after `start` on and around the table, that passes `ok`. -/
def nextSeatFrom (seats : List SeatId) (start : ℕ) (ok : SeatId → Bool) : Option SeatId :=
  (List.range' 1 seats.length).findSome? fun step =>
    (seats[(start + step) % seats.length]?).filter ok

def nextActiveSeatLeftOfButton (st : EngineState Card) (activeSeatsSorted : List SeatId) :
    Option SeatId :=
  if activeSeatsSorted.isEmpty then none
  else
    let seatedSorted := sortedSeats st.hand.seatedPlayers
    let dealerIdx := stateDealerIndex st.snapshot.handNo seatedSorted.length
    match seatedSorted[dealerIdx]? with
    | none => none
    | some dealer =>
      nextSeatFrom seatedSorted ((seatedSorted.idxOf? dealer).getD 0) (· ∈ activeSeatsSorted)

def goToShowdown (st : EngineState Card) (boardCards : List ℕ) : EngineState Card where
  snapshot :=
    { st.snapshot with status := .showdown, street := .showdown, boardCards, actingSeatId := none }
  hand := { st.hand with street := .showdown, actingSeatId := none }
  bettingRound := { st.bettingRound with actingSeatId := none }
  pot := st.pot
  dealing := st.dealing

/-- The board cards shown once `count` of them are open. -/
def shownBoard [RsPoker Card] (st : EngineState Card) (count : ℕ) : List ℕ :=
  match st.dealing with
  | some dealing => (dealing.boardCards.take count).map RsPoker.toU8
  | none => st.snapshot.boardCards

/-- A new street: no bets, nobody has acted. -/
def openStreet [RsPoker Card] (st : EngineState Card) (street : Street) (acting : Option SeatId) :
    EngineState Card where
  snapshot :=
    { st.snapshot with
      street, boardCards := shownBoard st (revealCount street), actingSeatId := acting }
  hand := { st.hand with street, actingSeatId := acting }
  bettingRound :=
    { currentBet := 0, minRaiseTo := none, actingSeatId := acting, playerBets := ∅, actedSeats := ∅ }
  pot := st.pot
  dealing := st.dealing

def fullBoard [RsPoker Card] (st : EngineState Card) : List ℕ :=
  match st.dealing with
  | some dealing => dealing.boardCards.map RsPoker.toU8
  | none => st.snapshot.boardCards

/-- `advance_street`; it is called with at least two active seats. -/
def advanceStreet [RsPoker Card] (st : EngineState Card) (activeSeats : List SeatId) :
    EngineState Card × Option Street :=
  match nextStreet st.snapshot.street with
  | none => (goToShowdown st (fullBoard st), some .showdown)
  | some street =>
    (openStreet st street ((nextActiveSeatLeftOfButton st activeSeats).or activeSeats.head?),
      some street)

/-- The fold-out: the hand is closed on the spot. -/
def closeHand (st : EngineState Card) : EngineState Card where
  snapshot := { st.snapshot with status := .settled, actingSeatId := none }
  hand := { st.hand with actingSeatId := none }
  bettingRound := { st.bettingRound with actingSeatId := none }
  pot := st.pot
  dealing := st.dealing

def advanceTurn [RsPoker Card] (st : EngineState Card) (currentSeatId : SeatId) :
    EngineState Card × Option Street :=
  if (activeSeatsSorted st).length ≤ 1 then (closeHand st, none)
  else if isBettingRoundComplete st (activeSeatsSorted st) then
    advanceStreet st (activeSeatsSorted st)
  else
    match actionableSeatsSorted st with
    | [] => (goToShowdown st st.snapshot.boardCards, some .showdown)
    | first :: _ =>
      let seatedSorted := sortedSeats st.hand.seatedPlayers
      let nextSeat := ((seatedSorted.idxOf? currentSeatId).bind fun idx =>
        nextSeatFrom seatedSorted idx fun s => s ∉ st.hand.foldedSeats ∧ s ∉ st.hand.allInSeats)
      (st.setActing (some (nextSeat.getD first)), none)

/-! ### What the turn leaves alone -/

/-- The parts of the state that no advance of the turn changes. -/
structure TurnFrame (st st' : EngineState Card) : Prop where
  roomId : st'.snapshot.roomId = st.snapshot.roomId
  handId : st'.snapshot.handId = st.snapshot.handId
  handNo : st'.snapshot.handNo = st.snapshot.handNo
  nextActionSeq : st'.snapshot.nextActionSeq = st.snapshot.nextActionSeq
  potTotal : st'.snapshot.potTotal = st.snapshot.potTotal
  handHandId : st'.hand.handId = st.hand.handId
  handNextActionSeq : st'.hand.nextActionSeq = st.hand.nextActionSeq
  seatedPlayers : st'.hand.seatedPlayers = st.hand.seatedPlayers
  foldedSeats : st'.hand.foldedSeats = st.hand.foldedSeats
  allInSeats : st'.hand.allInSeats = st.hand.allInSeats
  pot : st'.pot = st.pot
  dealing : st'.dealing = st.dealing

theorem turnFrame_closeHand (st : EngineState Card) : TurnFrame st (closeHand st) := by
  constructor <;> rfl

theorem turnFrame_goToShowdown (st : EngineState Card) (board : List ℕ) :
    TurnFrame st (goToShowdown st board) := by
  constructor <;> rfl

theorem turnFrame_openStreet [RsPoker Card] (st : EngineState Card) (street : Street)
    (acting : Option SeatId) : TurnFrame st (openStreet st street acting) := by
  constructor <;> rfl

theorem turnFrame_setActing (st : EngineState Card) (seat : Option SeatId) :
    TurnFrame st (st.setActing seat) := by
  constructor <;> rfl

/-! ### Who acts next -/

theorem mem_activeSeats {st : EngineState Card} {s : SeatId} :
    s ∈ activeSeats st ↔ s ∈ st.hand.seatedPlayers ∧ s ∉ st.hand.foldedSeats :=
  Finset.mem_filter

theorem mem_actionableSeats {st : EngineState Card} {s : SeatId} :
    s ∈ actionableSeats st ↔ s ∈ activeSeats st ∧ s ∉ st.hand.allInSeats := by
  rw [mem_activeSeats, actionableSeats, Finset.mem_filter, and_assoc]

/-- The seat has acted on the current bet, or cannot add to its own. -/
def SeatDone (st : EngineState Card) (s : SeatId) : Prop :=
  s ∈ st.bettingRound.actedSeats ∧
    (s ∈ st.hand.allInSeats ∨ st.seatBet s = st.bettingRound.currentBet)

instance (st : EngineState Card) (s : SeatId) : Decidable (SeatDone st s) :=
  inferInstanceAs (Decidable (_ ∧ _))

/-- Every seat in the hand is done with the betting round. -/
def RoundComplete (st : EngineState Card) : Prop := ∀ s ∈ activeSeats st, SeatDone st s

theorem isBettingRoundComplete_iff {st : EngineState Card} (h : (activeSeats st).Nonempty) :
    isBettingRoundComplete st (activeSeatsSorted st) = true ↔ RoundComplete st := by
  obtain ⟨s, hs⟩ := h
  have hne : sortedSeats (activeSeats st) ≠ [] := List.ne_nil_of_mem (mem_sortedSeats.2 hs)
  simp [isBettingRoundComplete, hne, RoundComplete, SeatDone, activeSeatsSorted]

/-- The first seat left of the button that is not folded: those before it, from the button on, are. -/
def LeftOfButton (seated : Finset SeatId) (handNo : ℕ) (folded : Finset SeatId) (seat : SeatId) :
    Prop :=
  ∃ pre post,
    (sortedSeats seated).rotate (stateDealerIndex handNo seated.card + 1) = pre ++ seat :: post ∧
      (∀ s ∈ pre, s ∈ folded) ∧ seat ∉ folded

/-- The next seat after `current`, around the table, that can act. -/
def NextToAct (st : EngineState Card) (current seat : SeatId) : Prop :=
  seat ∈ actionableSeats st ∧
    ∀ rest, sortedSeats st.hand.seatedPlayers ~r (current :: rest) →
      (∃ pre post, rest = pre ++ seat :: post ∧ ∀ s ∈ pre, s ∉ actionableSeats st) ∨
      (seat = current ∧ ∀ s ∈ rest, s ∉ actionableSeats st)

theorem nextSeatFrom_eq_find? (seats : List SeatId) (start : ℕ) (ok : SeatId → Bool) :
    nextSeatFrom seats start ok = (seats.rotate (start + 1)).find? ok :=
  findSome?_around seats start ok

/-- The street's first seat is the first one left of the button that is not folded. -/
theorem nextActiveSeat_leftOfButton {st : EngineState Card} (h : (activeSeats st).Nonempty) :
    ∃ seat, nextActiveSeatLeftOfButton st (activeSeatsSorted st) = some seat ∧
      seat ∈ activeSeats st ∧
      LeftOfButton st.hand.seatedPlayers st.snapshot.handNo st.hand.foldedSeats seat := by
  obtain ⟨s, hs⟩ := h
  have hmem : ∀ x, x ∈ activeSeatsSorted st ↔ x ∈ activeSeats st := fun x => mem_sortedSeats
  have hne : activeSeatsSorted st ≠ [] := List.ne_nil_of_mem ((hmem s).2 hs)
  have hseated : s ∈ sortedSeats st.hand.seatedPlayers := mem_sortedSeats.2 (mem_activeSeats.1 hs).1
  have hlen := length_sortedSeats st.hand.seatedPlayers
  have hpos : 0 < (sortedSeats st.hand.seatedPlayers).length := List.length_pos_of_mem hseated
  have hdlt : stateDealerIndex st.snapshot.handNo (sortedSeats st.hand.seatedPlayers).length <
      (sortedSeats st.hand.seatedPlayers).length := by
    rw [stateDealerIndex, if_neg (by omega)]
    exact Nat.mod_lt _ hpos
  have hdealer := List.getElem?_eq_getElem hdlt
  cases hfind : ((sortedSeats st.hand.seatedPlayers).rotate
      (stateDealerIndex st.snapshot.handNo st.hand.seatedPlayers.card + 1)).find?
        (· ∈ activeSeatsSorted st) with
  | none =>
    have := List.find?_eq_none.1 hfind s (List.mem_rotate.2 hseated)
    simp [hmem, hs] at this
  | some seat =>
    obtain ⟨hok, pre, post, hrot, hpre⟩ := List.find?_eq_some_iff_append.1 hfind
    have hseat : seat ∈ activeSeats st := (hmem seat).1 (by simpa using hok)
    refine ⟨seat, ?_, hseat, pre, post, hrot, fun x hx => ?_, (mem_activeSeats.1 hseat).2⟩
    · unfold nextActiveSeatLeftOfButton
      rw [if_neg (by simpa using hne)]
      dsimp only
      rw [hdealer]
      dsimp only
      rw [idxOf?_of_getElem? (nodup_sortedSeats _) hdealer, Option.getD_some, nextSeatFrom_eq_find?,
        hlen, hfind]
    · have hnot : x ∉ activeSeats st := by simpa [hmem] using hpre x hx
      have hx' : x ∈ st.hand.seatedPlayers := by
        rw [← mem_sortedSeats, ← List.mem_rotate, hrot]
        exact List.mem_append_left _ hx
      by_contra hfold
      exact hnot (mem_activeSeats.2 ⟨hx', hfold⟩)

theorem nextToAct_of_find {st : EngineState Card} {current first seat : SeatId}
    (hfirst : first ∈ actionableSeats st)
    (h : (((sortedSeats st.hand.seatedPlayers).idxOf? current).bind fun idx =>
      nextSeatFrom (sortedSeats st.hand.seatedPlayers) idx fun s =>
        s ∉ st.hand.foldedSeats ∧ s ∉ st.hand.allInSeats).getD first = seat) :
    NextToAct st current seat := by
  have hok : ∀ s ∈ sortedSeats st.hand.seatedPlayers,
      (decide (s ∉ st.hand.foldedSeats ∧ s ∉ st.hand.allInSeats) = true ↔
        s ∈ actionableSeats st) := by
    intro s hs
    rw [mem_actionableSeats, mem_activeSeats, decide_eq_true_iff, and_assoc,
      and_iff_right (mem_sortedSeats.1 hs)]
  have hok' : ∀ s ∈ sortedSeats st.hand.seatedPlayers,
      decide (s ∉ st.hand.foldedSeats ∧ s ∉ st.hand.allInSeats) = false →
        s ∉ actionableSeats st := by
    intro s hs hno hact
    rw [(hok s hs).2 hact] at hno
    cases hno
  cases hidx : (sortedSeats st.hand.seatedPlayers).idxOf? current with
  | none =>
    rw [hidx] at h
    have hout : current ∉ sortedSeats st.hand.seatedPlayers := by simpa using hidx
    cases h
    exact ⟨hfirst, fun rest hrot => absurd (hrot.mem_iff.2 List.mem_cons_self) hout⟩
  | some idx =>
    have hat := getElem?_of_idxOf? hidx
    obtain ⟨around, haround⟩ := exists_isRotated (List.mem_of_getElem? hat)
    have hrotate := rotate_of_isRotated (nodup_sortedSeats _) haround hat
    have hsub : ∀ s ∈ around ++ [current], s ∈ sortedSeats st.hand.seatedPlayers := by
      intro s hs
      rw [← rotate_succ_of_rotate hrotate] at hs
      exact List.mem_rotate.1 hs
    rw [hidx, Option.bind_some, nextSeatFrom_eq_find?, rotate_succ_of_rotate hrotate] at h
    cases hfind : (around ++ [current]).find? fun s =>
        decide (s ∉ st.hand.foldedSeats ∧ s ∉ st.hand.allInSeats) with
    | none =>
      -- some seat can act, so the search does not fail
      have hseat : first ∈ around ++ [current] := by
        rw [← rotate_succ_of_rotate hrotate, List.mem_rotate, mem_sortedSeats]
        exact (mem_activeSeats.1 (mem_actionableSeats.1 hfirst).1).1
      exact absurd ((hok first (hsub first hseat)).2 hfirst)
        (List.find?_eq_none.1 hfind first hseat)
    | some found =>
      rw [hfind] at h
      cases h
      have hfound := List.find?_some hfind
      refine ⟨(hok _ (hsub _ (List.mem_of_find?_eq_some hfind))).1 hfound, fun rest hrot => ?_⟩
      have hrest : rest = around := by
        have := rotate_of_isRotated (nodup_sortedSeats _) hrot hat
        rw [hrotate] at this
        exact (List.cons.inj this).2.symm
      subst hrest
      rcases find?_around_cases hfind with ⟨pre, post, hsplit, hpre, -⟩ | ⟨heq, hnone, -⟩
      · refine .inl ⟨pre, post, hsplit, fun s hs => hok' s (hsub s ?_) (hpre s hs)⟩
        rw [hsplit]
        simp [hs]
      · exact .inr ⟨heq, fun s hs =>
          hok' s (hsub s (List.mem_append_left _ hs)) (hnone s hs)⟩

/-- The turn passes back to the same seat exactly if no other one can act. -/
theorem NextToAct.eq_current_iff {st : EngineState Card} {current seat : SeatId}
    (h : NextToAct st current seat) (hcur : current ∈ st.hand.seatedPlayers) :
    seat = current ↔ actionableSeats st = {current} := by
  constructor
  · rintro rfl
    obtain ⟨rest, hrot⟩ := exists_isRotated (mem_sortedSeats.2 hcur)
    have hnd : (seat :: rest).Nodup := hrot.nodup_iff.1 (nodup_sortedSeats _)
    refine Finset.eq_singleton_iff_unique_mem.2 ⟨h.1, fun s hs => ?_⟩
    have hs' : s ∈ seat :: rest :=
      hrot.mem_iff.1 (mem_sortedSeats.2 (mem_activeSeats.1 (mem_actionableSeats.1 hs).1).1)
    rcases List.mem_cons.1 hs' with rfl | hrest
    · rfl
    · rcases h.2 rest hrot with ⟨pre, post, rfl, -⟩ | ⟨-, hnone⟩
      · simp at hnd
      · exact absurd hs (hnone s hrest)
  · intro hone
    exact Finset.mem_singleton.1 (hone ▸ h.1)

/-! ### Where the turn can lead -/

/-- What an advance of the turn does, case by case. -/
inductive TurnStep [RsPoker Card] (st : EngineState Card) (current : SeatId) :
    EngineState Card × Option Street → Prop
  | closed (h : (activeSeats st).card ≤ 1) : TurnStep st current (closeHand st, none)
  | river (h : 2 ≤ (activeSeats st).card) (hround : RoundComplete st)
      (hnext : nextStreet st.snapshot.street = none) :
      TurnStep st current (goToShowdown st (fullBoard st), some .showdown)
  | street (h : 2 ≤ (activeSeats st).card) (hround : RoundComplete st) (street : Street)
      (seat : SeatId) (hnext : nextStreet st.snapshot.street = some street)
      (hseat : seat ∈ activeSeats st)
      (hleft : LeftOfButton st.hand.seatedPlayers st.snapshot.handNo st.hand.foldedSeats seat) :
      TurnStep st current (openStreet st street (some seat), some street)
  | nobody (h : 2 ≤ (activeSeats st).card) (hround : ¬ RoundComplete st)
      (hnone : actionableSeats st = ∅) :
      TurnStep st current (goToShowdown st st.snapshot.boardCards, some .showdown)
  | pass (h : 2 ≤ (activeSeats st).card) (hround : ¬ RoundComplete st) (seat : SeatId)
      (hseat : NextToAct st current seat) : TurnStep st current (st.setActing (some seat), none)

/-- **What an advance of the turn does**, and to whom it gives the turn. -/
theorem turn_step [RsPoker Card] (st : EngineState Card) (current : SeatId) :
    TurnStep st current (advanceTurn st current) := by
  have hlen : (activeSeatsSorted st).length = (activeSeats st).card := length_sortedSeats _
  unfold advanceTurn
  split_ifs with hone hround
  · exact .closed (by omega)
  · have hne : (activeSeats st).Nonempty := Finset.card_pos.1 (by omega)
    have hdone := (isBettingRoundComplete_iff hne).1 hround
    unfold advanceStreet
    cases hstreet : nextStreet st.snapshot.street with
    | none => exact .river (by omega) hdone hstreet
    | some street =>
      obtain ⟨seat, hnext, hmem, hleft⟩ := nextActiveSeat_leftOfButton hne
      simp only [hnext, Option.some_or]
      exact .street (by omega) hdone street seat hstreet hmem hleft
  · have hne : (activeSeats st).Nonempty := Finset.card_pos.1 (by omega)
    have hdone : ¬ RoundComplete st := fun h => hround ((isBettingRoundComplete_iff hne).2 h)
    have hmem : ∀ s, s ∈ actionableSeatsSorted st ↔ s ∈ actionableSeats st :=
      fun s => mem_sortedSeats
    split
    · rename_i hnone
      refine .nobody (by omega) hdone (Finset.eq_empty_iff_forall_notMem.2 fun s hs => ?_)
      rw [← hmem, hnone] at hs
      exact List.not_mem_nil hs
    · rename_i first rest hact
      have hfirst : first ∈ actionableSeats st := by
        rw [← hmem, hact]
        exact List.mem_cons_self
      exact .pass (by omega) hdone _ (nextToAct_of_find hfirst rfl)

/-- Where an advance of the turn can lead. -/
inductive TurnResult [RsPoker Card] (st : EngineState Card) :
    EngineState Card × Option Street → Prop
  | closed (h : (activeSeats st).card ≤ 1) : TurnResult st (closeHand st, none)
  | showdown (h : 2 ≤ (activeSeats st).card) (board : List ℕ) :
      TurnResult st (goToShowdown st board, some .showdown)
  | street (h : 2 ≤ (activeSeats st).card) (street : Street) (seat : SeatId)
      (hnext : nextStreet st.snapshot.street = some street) (hseat : seat ∈ activeSeats st) :
      TurnResult st (openStreet st street (some seat), some street)
  | pass (h : 2 ≤ (activeSeats st).card) (seat : SeatId) (hseat : seat ∈ actionableSeats st) :
      TurnResult st (st.setActing (some seat), none)

/-- **What an advance of the turn can do**, in short. -/
theorem turn_cases [RsPoker Card] (st : EngineState Card) (currentSeatId : SeatId) :
    TurnResult st (advanceTurn st currentSeatId) := by
  have hstep := turn_step st currentSeatId
  generalize advanceTurn st currentSeatId = r at hstep
  cases hstep with
  | closed h => exact .closed h
  | river h => exact .showdown h _
  | street h _ street seat hnext hseat => exact .street h street seat hnext hseat
  | nobody h => exact .showdown h _
  | pass h _ seat hseat => exact .pass h seat hseat.1

namespace TurnResult

variable [RsPoker Card] {st : EngineState Card} {r : EngineState Card × Option Street}

theorem frame (h : TurnResult st r) : TurnFrame st r.1 := by
  cases h with
  | closed => exact turnFrame_closeHand st
  | showdown => exact turnFrame_goToShowdown st _
  | street => exact turnFrame_openStreet st _ _
  | pass => exact turnFrame_setActing st _

theorem acting_mem (h : TurnResult st r) {seat : SeatId}
    (hact : r.1.snapshot.actingSeatId = some seat) : seat ∈ activeSeats st := by
  cases h with
  | closed => cases hact
  | showdown => cases hact
  | street _ _ _ _ hseat => cases hact; exact hseat
  | pass _ _ hseat =>
    cases hact
    exact Finset.mem_filter.2
      ⟨(Finset.mem_filter.1 hseat).1, (Finset.mem_filter.1 hseat).2.1⟩

/-- While there is a seat to act the status stays what it was. -/
theorem status_of_acting (h : TurnResult st r) {seat : SeatId}
    (hact : r.1.snapshot.actingSeatId = some seat) : r.1.snapshot.status = st.snapshot.status := by
  cases h with
  | closed => cases hact
  | showdown => cases hact
  | street => rfl
  | pass => rfl

theorem status_of_two (h : TurnResult st r) (htwo : 2 ≤ (activeSeats st).card) :
    r.1.snapshot.status = .showdown ∨ r.1.snapshot.status = st.snapshot.status := by
  cases h with
  | closed hone => omega
  | showdown => exact .inl rfl
  | street => exact .inr rfl
  | pass => exact .inr rfl

end TurnResult

end HoldemPlatform.Engine.Turn
