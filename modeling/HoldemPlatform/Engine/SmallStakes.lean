import Mathlib.Algebra.Order.BigOperators.Group.Finset
import Mathlib.Data.Fintype.Card
import HoldemPlatform.Engine.HandEnds

/-!
# Runs of Small Stakes

As long as every amount in an action is below `2 ^ 64`, no sum in the engine comes near the width of an
amount: a street adds at most `2 ^ 64` a seat to the pot, and a hand has four streets. In such runs bets
stay within the current bet, the minimal raise stays above it (`SmallRound`), no action is refused for an
overflow, and so a refused one changes nothing.
-/

namespace HoldemPlatform.Engine.SmallStakes

open HoldemPlatform.Lib.FiniteMap HoldemPlatform.Lib.Run
open HoldemPlatform.Domain.Money HoldemPlatform.Domain.Game
open HoldemPlatform.Engine.State HoldemPlatform.Engine.Deal HoldemPlatform.Engine.Turn
open HoldemPlatform.Engine.Action HoldemPlatform.Engine.Round HoldemPlatform.Engine.Run
open HoldemPlatform.Engine.HandEnds

variable {Card : Type}

/-- The amount of the action, if it has one, is below `2 ^ 64`. -/
def SmallAmount (action : PlayerAction) : Prop := (action.amount.getD 0).asU128 < 2 ^ 64

def SmallOp : EngineOp Card → Prop
  | .seatPlayer _ => True
  | .deal _ _ => True
  | .act action => SmallAmount action

instance (action : PlayerAction) : Decidable (SmallAmount action) := Nat.decLt _ _

instance : DecidablePred (SmallOp : EngineOp Card → Prop)
  | .seatPlayer _ => .isTrue trivial
  | .deal _ _ => .isTrue trivial
  | .act action => inferInstanceAs (Decidable (SmallAmount action))

def streetBets (st : EngineState Card) : ℕ := ∑ s : SeatId, (st.seatBet s).asU128

/-- The betting round and the pot of a run of small stakes: the pot holds at most `2 ^ 72` for each street
before this one, and the bets of this one. -/
structure SmallRound (st : EngineState Card) : Prop where
  current : st.bettingRound.currentBet.asU128 < 2 ^ 64
  bets : ∀ s, st.seatBet s ≤ st.bettingRound.currentBet
  minRaise : ∀ m, st.bettingRound.minRaiseTo = some m → st.bettingRound.currentBet < m
  pot : st.pot.mainPot.asU128 ≤ (3 - streetsLeft st.snapshot.street) * 2 ^ 72 + streetBets st

section

variable {st mid : EngineState Card} {action : PlayerAction}

theorem SmallRound.streetBets_le (h : SmallRound st) : streetBets st ≤ 2 ^ 72 := by
  have hcard : (Finset.univ : Finset SeatId).card = 256 := Finset.card_fin 256
  have hbets : ∀ s ∈ (Finset.univ : Finset SeatId), (st.seatBet s).asU128 ≤ 2 ^ 64 := fun s _ =>
    (Chips.le_iff.1 (h.bets s)).trans h.current.le
  have hsum := Finset.sum_le_card_nsmul _ _ _ hbets
  rw [hcard] at hsum
  exact hsum

/-! ### The bet of an action -/

/-- An action by the rules pays the difference between its bet and the one the seat had. -/
theorem chipsPaid_of_target (hplay : Playable st action) {target : Chips}
    (hbet : betTarget st action = some target) :
    st.seatBet action.seatId ≤ target ∧
      (st.seatBet action.seatId).asU128 + chipsPaid st action = target.asU128 := by
  rw [Chips.le_iff]
  unfold betTarget at hbet
  unfold Playable at hplay
  unfold chipsPaid
  cases htype : action.actionType with
  | fold => simp [htype] at hbet
  | check => simp [htype] at hbet
  | call =>
    simp only [htype, Option.some.injEq] at hbet hplay ⊢
    subst hbet
    have hpos : (toCall st action.seatId).asU128 ≠ 0 := fun h => hplay (Chips.eq_zero_iff.2 h)
    rw [toCall, Chips.asU128_subOrZero] at hpos ⊢
    omega
  | raiseTo =>
    simp only [htype] at hbet hplay ⊢
    obtain ⟨t, hamount, hlt, -⟩ := hplay
    rw [hamount] at hbet ⊢
    cases hbet
    rw [Chips.lt_iff] at hlt
    rw [Option.getD_some]
    omega
  | allIn =>
    simp only [htype] at hbet hplay ⊢
    obtain ⟨t, hamount, hlt⟩ := hplay
    rw [hamount] at hbet ⊢
    cases hbet
    rw [Chips.lt_iff] at hlt
    rw [Option.getD_some]
    omega

theorem chipsPaid_of_none (hbet : betTarget st action = none) (hplay : Playable st action) :
    chipsPaid st action = 0 := by
  unfold betTarget at hbet
  unfold Playable at hplay
  unfold chipsPaid
  cases htype : action.actionType <;> simp_all

theorem target_lt (h : SmallRound st) (hsmall : SmallAmount action) {target : Chips}
    (hbet : betTarget st action = some target) : target.asU128 < 2 ^ 64 := by
  unfold betTarget at hbet
  unfold SmallAmount at hsmall
  cases htype : action.actionType with
  | fold => simp [htype] at hbet
  | check => simp [htype] at hbet
  | call =>
    simp only [htype, Option.some.injEq] at hbet
    exact hbet ▸ h.current
  | raiseTo =>
    simp only [htype] at hbet
    rwa [hbet] at hsmall
  | allIn =>
    simp only [htype] at hbet
    rwa [hbet] at hsmall

/-- **The chips of an action are its addition to the bets of the street.** -/
theorem streetBets_placedBets (hplay : Playable st action) :
    streetBets (placedBets st action) = streetBets st + chipsPaid st action := by
  cases hbet : betTarget st action with
  | none => rw [placedBets_of_none hbet, chipsPaid_of_none hbet hplay, Nat.add_zero]
  | some target =>
    have hpaid := (chipsPaid_of_target hplay hbet).2
    have hself := Finset.mem_univ action.seatId
    unfold streetBets
    rw [← Finset.add_sum_erase _ _ hself, ← Finset.add_sum_erase _ _ hself,
      seatBet_placedBets_self hbet, ← hpaid]
    have hrest : ∑ s ∈ Finset.univ.erase action.seatId, ((placedBets st action).seatBet s).asU128 =
        ∑ s ∈ Finset.univ.erase action.seatId, (st.seatBet s).asU128 :=
      Finset.sum_congr rfl fun s hs => by rw [seatBet_placedBets_ne (Finset.ne_of_mem_erase hs)]
    rw [hrest]
    omega

theorem chipsPaid_lt (htarget : ∀ target, betTarget st action = some target → target.asU128 < 2 ^ 64)
    (hplay : Playable st action) : chipsPaid st action < 2 ^ 64 := by
  cases hbet : betTarget st action with
  | none =>
    rw [chipsPaid_of_none hbet hplay]
    norm_num
  | some target =>
    have hpaid := (chipsPaid_of_target hplay hbet).2
    have hlt := htarget target hbet
    omega

theorem SmallRound.mainPot_le (h : SmallRound st) : st.pot.mainPot.asU128 ≤ 2 ^ 74 := by
  have hpot := h.pot
  have hbets := h.streetBets_le
  have hstreets : 3 - streetsLeft st.snapshot.street ≤ 3 := Nat.sub_le ..
  have hmul := Nat.mul_le_mul_right (2 ^ 72) hstreets
  omega

/-- **No small bet overflows the pot.** -/
theorem acceptable_iff (h : SmallRound st)
    (htarget : ∀ target, betTarget st action = some target → target.asU128 < 2 ^ 64) :
    Acceptable st action ↔ action.actionSeq = st.snapshot.nextActionSeq ∧
      st.snapshot.actingSeatId = some action.seatId ∧ Playable st action := by
  constructor
  · intro hok
    exact ⟨hok.seq, hok.turn, hok.playable⟩
  · rintro ⟨hseq, hturn, hplay⟩
    have hpot := h.mainPot_le
    have hchips := chipsPaid_lt htarget hplay
    exact ⟨hseq, hturn, hplay, by omega⟩

theorem refused_same [RsPoker Card] (h : SmallRound st) (hpot : PotInv st) (hsmall : SmallAmount action)
    (hno : ¬ Acceptable st action) : (applyAction st action).1 = st := by
  rcases applyAction_refused hpot hno with ⟨-, e, happ⟩ | ⟨hover, -⟩
  · rw [happ]
  · exact absurd ((acceptable_iff h fun _ => target_lt h hsmall).2 ⟨hover.seq, hover.turn, hover.playable⟩) hno

/-! ### The minimal raise -/

/-- The next raise is at least as large as the last one. -/
theorem asU128_nextMinRaiseTo {current target : Chips} (hraise : current < target)
    (hsmall : target.asU128 < 2 ^ 64) :
    (nextMinRaiseTo current target).asU128 = target.asU128 + (target.asU128 - current.asU128) := by
  rw [Chips.lt_iff] at hraise
  have hne : target.subOrZero current ≠ 0 := fun h => by
    have hzero := Chips.eq_zero_iff.1 h
    rw [Chips.asU128_subOrZero] at hzero
    omega
  have hfit : target.asU128 + (target.subOrZero current).asU128 < 2 ^ 128 := by
    rw [Chips.asU128_subOrZero]
    omega
  unfold nextMinRaiseTo
  simp only [if_neg hne]
  rw [Chips.asU128_addOr _ hfit, Chips.asU128_subOrZero]

theorem minRaiseTo_placedBets {target : Chips} (hbet : betTarget st action = some target) :
    (placedBets st action).bettingRound.minRaiseTo =
      if st.bettingRound.currentBet < target then
        some (nextMinRaiseTo st.bettingRound.currentBet target)
      else st.bettingRound.minRaiseTo := by
  simp only [placedBets, hbet]
  unfold raiseBet
  by_cases hraise : st.bettingRound.currentBet < target
  · rw [if_pos hraise, if_pos (show (setBet st action.seatId target).bettingRound.currentBet < target from hraise)]
    rfl
  · rw [if_neg hraise, if_neg (show ¬ (setBet st action.seatId target).bettingRound.currentBet < target from hraise)]
    rfl

/-! ### The invariant along a run -/

theorem SmallRound.beforeTurn (h : SmallRound st) (hsmall : SmallAmount action)
    (hplay : Playable st action) (hmid : BeforeTurn st action mid) : SmallRound mid := by
  have hstreet : mid.snapshot.street = st.snapshot.street := by rw [hmid.snapshot]
  have hmin : mid.bettingRound.minRaiseTo = (placedBets st action).bettingRound.minRaiseTo := by
    rw [hmid.round]
  refine ⟨?_, fun s => ?_, fun m hm => ?_, ?_⟩
  · rw [hmid.currentBet]
    cases hbet : betTarget st action with
    | none =>
      rw [placedBets_of_none hbet]
      exact h.current
    | some target =>
      rw [currentBet_placedBets hbet]
      rcases max_choice st.bettingRound.currentBet target with hmax | hmax
      · rw [hmax]
        exact h.current
      · rw [hmax]
        exact target_lt h hsmall hbet
  · rw [hmid.seatBet, hmid.currentBet]
    exact seatBet_placedBets_le h.bets s
  · rw [hmin] at hm
    rw [hmid.currentBet]
    cases hbet : betTarget st action with
    | none =>
      rw [placedBets_of_none hbet] at hm ⊢
      exact h.minRaise m hm
    | some target =>
      rw [minRaiseTo_placedBets hbet] at hm
      rw [currentBet_placedBets hbet]
      split_ifs at hm with hraise
      · cases hm
        have hnext := asU128_nextMinRaiseTo hraise (target_lt h hsmall hbet)
        rw [max_eq_right hraise.le, Chips.lt_iff, hnext]
        rw [Chips.lt_iff] at hraise
        omega
      · rw [max_eq_left (not_lt.1 hraise)]
        exact h.minRaise m hm
  · have hbets : streetBets mid = streetBets (placedBets st action) :=
      Finset.sum_congr rfl fun s _ => by rw [hmid.seatBet]
    have hpot := h.pot
    rw [hbets, streetBets_placedBets hplay, hmid.paid, hstreet]
    omega

theorem SmallRound.turn [RsPoker Card] (h : SmallRound st) (current : SeatId) :
    SmallRound (advanceTurn st current).1 := by
  have hstreets : 3 - streetsLeft st.snapshot.street ≤ 3 := Nat.sub_le ..
  have hstep := turn_step st current
  generalize advanceTurn st current = r at hstep
  have hshowdown : ∀ board, SmallRound (goToShowdown st board) := by
    intro board
    refine ⟨h.current, h.bets, h.minRaise, h.pot.trans (Nat.add_le_add_right ?_ _)⟩
    exact Nat.mul_le_mul_right _ hstreets
  cases hstep with
  | closed => exact ⟨h.current, h.bets, h.minRaise, h.pot⟩
  | river => exact hshowdown _
  | street _ _ street seat hnext =>
    have hbets : streetBets (openStreet st street (some seat)) = 0 :=
      Finset.sum_eq_zero fun s _ => rfl
    have hopen : 3 - streetsLeft street = 3 - streetsLeft st.snapshot.street + 1 := by
      cases hs : st.snapshot.street <;> rw [hs] at hnext <;> cases hnext <;> rfl
    refine ⟨by norm_num [openStreet], fun s => le_refl _, nofun, ?_⟩
    calc st.pot.mainPot.asU128
        ≤ (3 - streetsLeft st.snapshot.street) * 2 ^ 72 + streetBets st := h.pot
      _ ≤ (3 - streetsLeft st.snapshot.street) * 2 ^ 72 + 2 ^ 72 := Nat.add_le_add_left h.streetBets_le _
      _ = (3 - streetsLeft street) * 2 ^ 72 := by rw [hopen, Nat.succ_mul]
      _ = (3 - streetsLeft street) * 2 ^ 72 + streetBets (openStreet st street (some seat)) := by
        rw [hbets, Nat.add_zero]
  | nobody => exact hshowdown _
  | pass => exact ⟨h.current, h.bets, h.minRaise, h.pot⟩

theorem smallRound_new (roomId : RoomId) (handNo : ℕ) (handId : HandId) :
    SmallRound (EngineState.new roomId handNo handId : EngineState Card) :=
  ⟨by norm_num [EngineState.new], fun _ => le_refl _, nofun, Nat.zero_le _⟩

theorem smallRound_dealtState (st : EngineState Card) (dealing : DealingState Card) (newHandId : HandId)
    {sb bb : SeatId} (first : SeatId) (hne : sb ≠ bb) :
    SmallRound (dealtState st dealing newHandId sb bb first) := by
  have hblind : DEFAULT_BIG_BLIND.asU128 < 2 ^ 64 := by decide
  have hraise : DEFAULT_BIG_BLIND < DEFAULT_BIG_BLIND.addOr DEFAULT_BIG_BLIND DEFAULT_BIG_BLIND :=
    Chips.lt_iff.2 (by decide)
  refine ⟨hblind, seatBet_dealtState_le st dealing newHandId sb bb first, ?_, ?_⟩
  · rintro m ⟨⟩
    exact hraise
  · have htotal := total_eq_sum Chips.asU128 (blinds sb bb)
    rw [total_blinds hne] at htotal
    refine (htotal.trans (Finset.sum_congr rfl fun s _ => ?_)).le.trans (Nat.le_add_left _ _)
    exact weight_eq_getD Chips.asU128_zero _ s

end

/-- What holds in every state of a run of small stakes. -/
structure SmallBets (st : EngineState Card) : Prop where
  engine : EngineInv st
  round : SmallRound st

section

variable [RsPoker Card]

theorem smallBets_step (st : EngineState Card) (op : EngineOp Card) (hsmall : SmallOp op)
    (h : SmallBets st) : SmallBets (engineStep st op) := by
  refine ⟨engineInv_step st op h.engine, ?_⟩
  cases op with
  | seatPlayer seatId => exact ⟨h.round.current, h.round.bets, h.round.minRaise, h.round.pot⟩
  | deal newHandId deck =>
    rw [engineStep]
    rcases deal_cases st newHandId deck with ⟨e, he⟩ | ⟨dealing, sb, bb, first, hd, hbs, -⟩
    · rw [he]
      exact h.round
    · rw [hd]
      exact smallRound_dealtState st dealing newHandId first hbs.ne
  | act action =>
    rw [engineStep]
    by_cases hok : Acceptable st action
    · obtain ⟨mid, hmid, happ⟩ := applyAction_accepted h.engine.pot hok
      rw [happ]
      exact (h.round.beforeTurn hsmall hok.playable hmid).turn action.seatId
    · rw [refused_same h.round h.engine.pot hsmall hok]
      exact h.round

/-- **The invariant of small stakes.** -/
theorem smallBets_run (roomId : RoomId) (handNo : ℕ) (handId : HandId) {ops : List (EngineOp Card)}
    (hops : ∀ op ∈ ops, SmallOp op) :
    SmallBets (run engineStep (EngineState.new roomId handNo handId) ops) :=
  AllSteps.run_inv (allSteps_of_forall hops) SmallBets smallBets_step
    ⟨engineInv_new roomId handNo handId, smallRound_new roomId handNo handId⟩

end

end HoldemPlatform.Engine.SmallStakes
