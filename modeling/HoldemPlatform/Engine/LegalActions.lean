import HoldemPlatform.Engine.SmallStakes

/-!
# Advertised Actions and the Minimal Raise

`legal_actions` and `apply_action` compute the limits of an action separately. In runs of small stakes
they agree: what is listed for the seat to act is what is accepted from it (`Advertised`). The minimal
raise itself is recomputed from the last change of the bet, and an all-in may change it by less than a
full raise: then the next minimal raise is smaller than the one before.
-/

namespace HoldemPlatform.Engine.LegalActions

open HoldemPlatform.Lib.Run HoldemPlatform.Domain.Money HoldemPlatform.Domain.Game
open HoldemPlatform.Engine.State HoldemPlatform.Engine.Deal HoldemPlatform.Engine.Turn
open HoldemPlatform.Engine.Action HoldemPlatform.Engine.Round HoldemPlatform.Engine.Run
open HoldemPlatform.Engine.Copies HoldemPlatform.Engine.SmallStakes

variable {Card : Type}

/-! ### The list -/

/-- The smallest raise that `legal_actions` offers. -/
def advertisedMin (st : EngineState Card) : Chips :=
  st.bettingRound.minRaiseTo.getD
    (st.bettingRound.currentBet.addOr (.ofU128 1) st.bettingRound.currentBet)

/-- An action of the seat with the sequence number that is due. -/
structure InTurn (st : EngineState Card) (seat : SeatId) (action : PlayerAction) : Prop where
  seat : action.seatId = seat
  seq : action.actionSeq = st.snapshot.nextActionSeq

def Lists (st : EngineState Card) (seat : SeatId) (type : ActionType) : Prop :=
  ∃ entry ∈ legalActions st seat, entry.actionType = type

section

variable {st : EngineState Card} {seat : SeatId} {action : PlayerAction}

theorem mem_legalActions (h : st.snapshot.actingSeatId = some seat) {entry : LegalAction} :
    entry ∈ legalActions st seat ↔ entry = ⟨.fold, none, none⟩ ∨
      (toCall st seat = 0 ∧ entry = ⟨.check, none, none⟩) ∨
      (toCall st seat ≠ 0 ∧ entry = ⟨.call, some (toCall st seat), some (toCall st seat)⟩) ∨
      entry = ⟨.raiseTo, some (advertisedMin st), none⟩ ∨ entry = ⟨.allIn, none, none⟩ := by
  rw [legalActions, if_neg (not_not_intro h)]
  by_cases hzero : toCall st seat = 0 <;> simp [hzero, advertisedMin]

theorem legalActions_of_ne (h : st.snapshot.actingSeatId ≠ some seat) : legalActions st seat = [] :=
  if_pos h

theorem lists_check_iff (h : st.snapshot.actingSeatId = some seat) :
    Lists st seat .check ↔ toCall st seat = 0 := by
  constructor
  · rintro ⟨entry, hentry, htype⟩
    rcases (mem_legalActions h).1 hentry with rfl | ⟨hzero, -⟩ | ⟨-, rfl⟩ | rfl | rfl
    · cases htype
    · exact hzero
    all_goals cases htype
  · intro hzero
    exact ⟨_, (mem_legalActions h).2 (.inr (.inl ⟨hzero, rfl⟩)), rfl⟩

theorem entry_call (h : st.snapshot.actingSeatId = some seat) {entry : LegalAction}
    (hentry : entry ∈ legalActions st seat) (htype : entry.actionType = .call) :
    toCall st seat ≠ 0 ∧ entry = ⟨.call, some (toCall st seat), some (toCall st seat)⟩ := by
  rcases (mem_legalActions h).1 hentry with rfl | ⟨-, rfl⟩ | hcall | rfl | rfl
  · cases htype
  · cases htype
  · exact hcall
  all_goals cases htype

theorem entry_raiseTo (h : st.snapshot.actingSeatId = some seat) {entry : LegalAction}
    (hentry : entry ∈ legalActions st seat) (htype : entry.actionType = .raiseTo) :
    entry = ⟨.raiseTo, some (advertisedMin st), none⟩ := by
  rcases (mem_legalActions h).1 hentry with rfl | ⟨-, rfl⟩ | ⟨-, rfl⟩ | hraise | rfl
  · cases htype
  · cases htype
  · cases htype
  · exact hraise
  · cases htype

theorem lists_call_iff (h : st.snapshot.actingSeatId = some seat) :
    Lists st seat .call ↔ toCall st seat ≠ 0 := by
  constructor
  · rintro ⟨entry, hentry, htype⟩
    exact (entry_call h hentry htype).1
  · intro hne
    exact ⟨_, (mem_legalActions h).2 (.inr (.inr (.inl ⟨hne, rfl⟩))), rfl⟩

/-- The advertised raise is the smallest that is not too small. -/
theorem advertisedMin_le_iff (h : SmallRound st) (target : Chips) :
    advertisedMin st ≤ target ↔ raiseTooSmall st target = false := by
  have hcurrent := h.current
  unfold advertisedMin raiseTooSmall
  cases hmin : st.bettingRound.minRaiseTo with
  | none =>
    have hone : (Chips.ofU128 1).asU128 = 1 := Chips.asU128_ofU128 (by norm_num)
    have hnext : (st.bettingRound.currentBet.addOr (.ofU128 1) st.bettingRound.currentBet).asU128 =
        st.bettingRound.currentBet.asU128 + 1 := by
      rw [Chips.asU128_addOr _ (by omega), hone]
    rw [Option.getD_none, Chips.le_iff, hnext]
    simp only [Bool.or_false, decide_eq_false_iff_not, Chips.le_iff]
    omega
  | some m =>
    have hm := h.minRaise m hmin
    simp only [Option.getD_some, Bool.or_eq_false_iff, decide_eq_false_iff_not, not_le, not_lt]
    exact ⟨fun hle => ⟨hm.trans_le hle, hle⟩, fun hboth => hboth.2⟩

/-! ### What the engine accepts -/

variable [RsPoker Card]

/-- What is listed for the seat to act and what is accepted from it. -/
structure Advertised (st : EngineState Card) (seat : SeatId) : Prop where
  fold : ∀ action, InTurn st seat action → action.actionType = .fold → Accepts st action
  check : ∀ action, InTurn st seat action → action.actionType = .check →
    (Accepts st action ↔ Lists st seat .check)
  call : ∀ action, InTurn st seat action → action.actionType = .call →
    (Accepts st action ↔ Lists st seat .call)
  paid : ∀ action, InTurn st seat action → action.actionType = .call →
    ∀ entry ∈ legalActions st seat, entry.actionType = .call →
      ∃ amount, entry.minAmount = some amount ∧ entry.maxAmount = some amount ∧
        (applyAction st action).1.snapshot.potTotal.asU128 =
          st.snapshot.potTotal.asU128 + amount.asU128
  raiseTo : ∃ minimum, (∃ entry ∈ legalActions st seat, entry.actionType = .raiseTo) ∧
    (∀ entry ∈ legalActions st seat, entry.actionType = .raiseTo → entry.minAmount = some minimum) ∧
    ∀ action target, InTurn st seat action → action.actionType = .raiseTo →
      action.amount = some target → target.asU128 < 2 ^ 64 →
      (Accepts st action ↔ minimum ≤ target)

theorem accepts_iff_playable (h : SmallBets st) (hact : st.snapshot.actingSeatId = some seat)
    (hturn : InTurn st seat action)
    (htarget : ∀ target, betTarget st action = some target → target.asU128 < 2 ^ 64) :
    Accepts st action ↔ Playable st action := by
  rw [accepts_iff h.engine.pot, acceptable_iff h.round htarget, hturn.seat]
  exact ⟨fun hok => hok.2.2, fun hplay => ⟨hturn.seq, hact, hplay⟩⟩

theorem accepts_raiseTo_iff (h : SmallBets st) (hact : st.snapshot.actingSeatId = some seat)
    (hturn : InTurn st seat action) (htype : action.actionType = .raiseTo) {target : Chips}
    (hamount : action.amount = some target) (hsmall : target.asU128 < 2 ^ 64) :
    Accepts st action ↔ advertisedMin st ≤ target := by
  have hbet : ∀ t, betTarget st action = some t → t.asU128 < 2 ^ 64 := by
    intro t ht
    simp only [betTarget, htype, hamount, Option.some.injEq] at ht
    exact ht ▸ hsmall
  have hplay : Playable st action ↔
      st.seatBet action.seatId < target ∧ raiseTooSmall st target = false := by
    simp [Playable, htype, hamount]
  rw [accepts_iff_playable h hact hturn hbet, hplay, advertisedMin_le_iff h.round]
  refine ⟨fun hboth => hboth.2, fun hbig => ⟨(h.round.bets _).trans_lt ?_, hbig⟩⟩
  by_contra hle
  simp [raiseTooSmall, not_lt.1 hle] at hbig

theorem potTotal_of_call (h : SmallBets st) (hok : Acceptable st action)
    (htype : action.actionType = .call) : (applyAction st action).1.snapshot.potTotal.asU128 =
      st.snapshot.potTotal.asU128 + (toCall st action.seatId).asU128 := by
  have hchips : chipsPaid st action = (toCall st action.seatId).asU128 := by
    simp only [chipsPaid, htype]
  rcases applyAction_cases h.engine.pot action with ⟨-, st', result, happ, hacc⟩ | ⟨hno, -⟩
  · rw [happ, ← hchips]
    exact hacc.paid
  · exact absurd hok hno

/-- **What is listed for the seat to act is what is accepted from it.** -/
theorem advertised_of_acting (h : SmallBets st) (hact : st.snapshot.actingSeatId = some seat) :
    Advertised st seat := by
  have hbet : ∀ action : PlayerAction, action.actionType = .fold ∨ action.actionType = .check ∨
      action.actionType = .call →
      ∀ target, betTarget st action = some target → target.asU128 < 2 ^ 64 := by
    intro action htype target hbet
    rcases htype with htype | htype | htype
    · simp [betTarget, htype] at hbet
    · simp [betTarget, htype] at hbet
    · simp only [betTarget, htype, Option.some.injEq] at hbet
      exact hbet ▸ h.round.current
  refine ⟨?_, ?_, ?_, ?_, advertisedMin st, ?_, ?_, ?_⟩
  · intro action hturn htype
    rw [accepts_iff_playable h hact hturn (hbet action (.inl htype))]
    simp only [Playable, htype]
  · intro action hturn htype
    rw [accepts_iff_playable h hact hturn (hbet action (.inr (.inl htype))), lists_check_iff hact,
      ← hturn.seat]
    simp only [Playable, htype]
  · intro action hturn htype
    rw [accepts_iff_playable h hact hturn (hbet action (.inr (.inr htype))), lists_call_iff hact,
      ← hturn.seat]
    simp only [Playable, htype]
  · intro action hturn htype entry hentry hlisted
    obtain ⟨hne, rfl⟩ := entry_call hact hentry hlisted
    have hok : Acceptable st action := by
      rw [← accepts_iff h.engine.pot,
        accepts_iff_playable h hact hturn (hbet action (.inr (.inr htype)))]
      simpa only [Playable, htype, hturn.seat] using hne
    have hpaid := potTotal_of_call h hok htype
    rw [hturn.seat] at hpaid
    exact ⟨toCall st seat, rfl, rfl, hpaid⟩
  · exact ⟨_, (mem_legalActions hact).2 (.inr (.inr (.inr (.inl rfl)))), rfl⟩
  · intro entry hentry hlisted
    rw [entry_raiseTo hact hentry hlisted]
  · intro action target hturn htype hamount hsmall
    exact accepts_raiseTo_iff h hact hturn htype hamount hsmall

end

section

variable [RsPoker Card]

theorem turnCopies_run (roomId : RoomId) (handNo : ℕ) (handId : HandId) (ops : List (EngineOp Card)) :
    TurnCopies (run engineStep (EngineState.new roomId handNo handId) ops) := by
  refine (run_inv (fun st => EngineInv st ∧ TurnCopies st) (fun st op h => ⟨engineInv_step st op h.1, ?_⟩)
    ops ⟨engineInv_new roomId handNo handId, turnCopies_new roomId handNo handId⟩).2
  cases op with
  | seatPlayer seatId => exact h.2.seatPlayer seatId
  | deal newHandId deck => exact h.2.deal newHandId deck
  | act action => exact h.2.applyAction h.1.pot action

/-- **The advertised actions are the accepted ones**, in every running state that deals and actions with
amounts below `2 ^ 64` lead to: for the seat to act as `Advertised` says, and nothing is listed for or
accepted from any other seat. -/
theorem advertised_actions_exact (roomId : RoomId) (handNo : ℕ) (handId : HandId)
    (ops : List (EngineOp Card)) (hops : ∀ op ∈ ops, SmallOp op) :
    let st := run engineStep (EngineState.new roomId handNo handId) ops
    st.snapshot.status = .running →
      ∃ seat, st.snapshot.actingSeatId = some seat ∧ Advertised st seat ∧
        ∀ other, other ≠ seat → legalActions st other = [] ∧
          ∀ action, action.seatId = other → ¬ Accepts st action := by
  intro st hrun
  have hsmall : SmallBets st := smallBets_run roomId handNo handId hops
  obtain ⟨seat, hact⟩ := (turnCopies_run roomId handNo handId ops).exists_acting hrun
  refine ⟨seat, hact, advertised_of_acting hsmall hact, fun other hother => ?_⟩
  have hne : st.snapshot.actingSeatId ≠ some other := by
    rw [show st.snapshot.actingSeatId = some seat from hact]
    exact fun heq => hother (Option.some.inj heq).symm
  refine ⟨legalActions_of_ne hne, fun action hseat hacc => hne ?_⟩
  rw [← hseat]
  exact ((accepts_iff hsmall.engine.pot).1 hacc).turn

end

def dealtHeadsUp : List (EngineOp ByteCard) := [.seatPlayer 0, .seatPlayer 1, .deal ⟨1⟩ royalDeck]

theorem advertised_headsUp : ∃ seat,
    (run engineStep (EngineState.new ⟨0⟩ 1 ⟨0⟩) dealtHeadsUp).snapshot.actingSeatId = some seat ∧
      Advertised (run engineStep (EngineState.new ⟨0⟩ 1 ⟨0⟩) dealtHeadsUp) seat := by
  obtain ⟨seat, hact, hadv, -⟩ := advertised_actions_exact ⟨0⟩ 1 ⟨0⟩ dealtHeadsUp (by decide)
    (by decide +kernel)
  exact ⟨seat, hact, hadv⟩

/-! ### The minimal raise -/

/-- An all-in above the current bet and below the minimal raise. -/
structure ShortAllIn (st : EngineState Card) (action : PlayerAction) (minimum : Chips) : Prop where
  allIn : action.actionType = .allIn
  short : ∃ target, action.amount = some target ∧ st.bettingRound.currentBet < target ∧ target < minimum

/-- The round after the minimal raise was set to at least the same increment. -/
def KeepsIncrement (st st' : EngineState Card) (minimum : Chips) : Prop :=
  ∃ minimum', st'.bettingRound.minRaiseTo = some minimum' ∧
    minimum.asU128 - st.bettingRound.currentBet.asU128 ≤
      minimum'.asU128 - st'.bettingRound.currentBet.asU128

instance (st st' : EngineState Card) (minimum : Chips) : Decidable (KeepsIncrement st st' minimum) :=
  inferInstanceAs (Decidable (∃ minimum' ∈ st'.bettingRound.minRaiseTo,
    minimum.asU128 - st.bettingRound.currentBet.asU128 ≤
      minimum'.asU128 - st'.bettingRound.currentBet.asU128))

/-- The bet of an action by the rules keeps the increment exactly if it is no short all-in. -/
theorem keepsIncrement_placedBets_iff {st : EngineState Card} {action : PlayerAction}
    (h : SmallRound st) (hsmall : SmallAmount action) (hplay : Playable st action) {minimum : Chips}
    (hmin : st.bettingRound.minRaiseTo = some minimum) :
    KeepsIncrement st (placedBets st action) minimum ↔ ¬ ShortAllIn st action minimum := by
  have habove := h.minRaise minimum hmin
  cases hbet : betTarget st action with
  | none =>
    rw [placedBets_of_none hbet]
    refine iff_of_true ⟨minimum, hmin, le_refl _⟩ fun hshort => ?_
    obtain ⟨target, hamount, -, -⟩ := hshort.short
    simp [betTarget, hshort.allIn, hamount] at hbet
  | some target =>
    have hsame : ∀ t, action.actionType = .allIn → action.amount = some t → t = target := by
      intro t htype hamount
      simpa [betTarget, htype, hamount] using hbet
    unfold KeepsIncrement
    rw [minRaiseTo_placedBets hbet, currentBet_placedBets hbet]
    by_cases hraise : st.bettingRound.currentBet < target
    swap
    · -- neither the bet nor the minimal raise changes
      rw [if_neg hraise, max_eq_left (not_lt.1 hraise)]
      refine iff_of_true ⟨minimum, hmin, le_refl _⟩ fun hshort => ?_
      obtain ⟨t, hamount, ht, -⟩ := hshort.short
      exact hraise (hsame t hshort.allIn hamount ▸ ht)
    rw [if_pos hraise, max_eq_right hraise.le]
    have hnext := asU128_nextMinRaiseTo hraise (target_lt h hsmall hbet)
    have hkeeps : (∃ minimum', some (nextMinRaiseTo st.bettingRound.currentBet target) = some minimum' ∧
        minimum.asU128 - st.bettingRound.currentBet.asU128 ≤ minimum'.asU128 - target.asU128) ↔
        minimum ≤ target := by
      rw [Chips.lt_iff] at habove hraise
      simp only [Option.some.injEq, exists_eq_left', hnext, Chips.le_iff]
      omega
    rw [hkeeps]
    constructor
    · intro hfull hshort
      obtain ⟨t, hamount, -, ht⟩ := hshort.short
      exact absurd (hsame t hshort.allIn hamount ▸ hfull) (not_le.2 ht)
    · intro hno
      by_contra hshort
      unfold betTarget at hbet
      unfold Playable at hplay
      cases htype : action.actionType with
      | fold => simp [htype] at hbet
      | check => simp [htype] at hbet
      | call =>
        simp only [htype, Option.some.injEq] at hbet
        exact absurd hbet hraise.ne
      | raiseTo =>
        -- a `RaiseTo` below the minimal raise is refused
        simp only [htype] at hbet hplay
        obtain ⟨t, hamount, -, hbig⟩ := hplay
        obtain rfl : t = target := Option.some.inj (hamount.symm.trans hbet)
        simp [raiseTooSmall, hmin, not_le.1 hshort] at hbig
      | allIn =>
        simp only [htype] at hbet
        exact hno ⟨htype, target, hbet, hraise, not_le.1 hshort⟩

section

variable [RsPoker Card]

/-- **When the minimal raise shrinks**: after an accepted action that ends neither the street nor the
hand, the minimal raise is set and at least as far above the bet as before, exactly if the action is no
all-in that raises by less than the minimal raise. -/
theorem min_raise_kept_iff (roomId : RoomId) (handNo : ℕ) (handId : HandId)
    (ops : List (EngineOp Card)) (hops : ∀ op ∈ ops, SmallOp op) (action : PlayerAction)
    (hsmall : SmallAmount action) (state : EngineState Card) (minimum : Chips) :
    let st := run engineStep (EngineState.new roomId handNo handId) ops
    applyAction st action = (state, .ok ⟨none⟩) → state.snapshot.status = .running →
      st.bettingRound.minRaiseTo = some minimum →
      (KeepsIncrement st state minimum ↔ ¬ ShortAllIn st action minimum) := by
  intro st happ hrun hmin
  have hinv : SmallBets st := smallBets_run roomId handNo handId hops
  have hok : Acceptable st action := (accepts_iff hinv.engine.pot).1 ⟨⟨none⟩, by rw [happ]⟩
  obtain ⟨mid, hmid, happ'⟩ := applyAction_accepted hinv.engine.pot hok
  have hturn : advanceTurn mid action.seatId = (state, none) := by
    obtain ⟨hstate, hresult⟩ := Prod.mk.inj (happ'.symm.trans happ)
    exact Prod.ext hstate (EngineActionResult.mk.inj (Except.ok.inj hresult))
  rw [← keepsIncrement_placedBets_iff hinv.round hsmall hok.playable hmin]
  have hstep := turn_step mid action.seatId
  rw [hturn] at hstep
  cases hstep with
  | closed => cases hrun
  | pass _ _ seat =>
    show KeepsIncrement st (mid.setActing (some seat)) minimum ↔ _
    unfold KeepsIncrement
    simp only [EngineState.setActing, hmid.round]

end

/-- Seat `0` raises to three times the big blind: the increment doubles. -/
theorem full_raise_keeps_increment :
    let st := run engineStep (EngineState.new ⟨0⟩ 1 ⟨0⟩) dealtHeadsUp
    KeepsIncrement st (applyAction st (headsUpAction 1 0 .raiseTo (some (.ofU128 600000000000000)))).1
      (.ofU128 400000000000000) := by
  have happ : (applyAction (run engineStep (EngineState.new ⟨0⟩ 1 ⟨0⟩) dealtHeadsUp)
      (headsUpAction 1 0 .raiseTo (some (.ofU128 600000000000000)))).2 = .ok ⟨none⟩ := by decide +kernel
  refine (min_raise_kept_iff ⟨0⟩ 1 ⟨0⟩ dealtHeadsUp (by decide) _ (by decide) _ _ (eq_of_snd_ok happ)
    (by decide +kernel) (by decide +kernel)).2 fun hshort => ?_
  cases hshort.allIn

/-- Seat `0` goes all-in for one and a half big blinds. The minimal raise was two big blinds, one above the
bet; it still is, half a big blind above the bet. -/
theorem short_all_in_shrinks :
    let st := run engineStep (EngineState.new ⟨0⟩ 1 ⟨0⟩) dealtHeadsUp
    let r := applyAction st (headsUpAction 1 0 .allIn (some (.ofU128 300000000000000)))
    r.2 = .ok ⟨none⟩ ∧ r.1.snapshot.status = .running ∧
      st.bettingRound.currentBet = .ofU128 200000000000000 ∧
      st.bettingRound.minRaiseTo = some (.ofU128 400000000000000) ∧
      r.1.bettingRound.currentBet = .ofU128 300000000000000 ∧
      r.1.bettingRound.minRaiseTo = some (.ofU128 400000000000000) ∧
      ¬ KeepsIncrement st r.1 (.ofU128 400000000000000) := by
  decide +kernel

end HoldemPlatform.Engine.LegalActions
