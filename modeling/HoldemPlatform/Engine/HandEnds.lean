import HoldemPlatform.Engine.Copies

/-!
# How Long a Hand Can Take

Without raises a hand should end: every seat acts at most once on each of the four streets. What
spoils it is the bookkeeping of all-in seats. A new street forgets who has acted, an all-in seat is
never asked again, and a round is complete only when every unfolded seat has acted; so one seat that
can still act may check forever against an all-in one. The bound holds as long as no street starts
with an all-in seat that waits for nothing (`NoIdleAllIn`).

`turnsLeft` is the measure: the table once for every street to come, and the seats that are not done
with the round. `TurnOrder` is what makes it fall: seen from the seat to act, the seats that are not
done come before those that are.
-/

namespace HoldemPlatform.Engine.HandEnds

open HoldemPlatform.Lib.Run HoldemPlatform.Lib.Rotation
open HoldemPlatform.Domain.Money HoldemPlatform.Domain.Game
open HoldemPlatform.Engine.State HoldemPlatform.Engine.Deal HoldemPlatform.Engine.Turn
open HoldemPlatform.Engine.Action HoldemPlatform.Engine.Round HoldemPlatform.Engine.Run
open HoldemPlatform.Engine.Copies

variable {Card : Type}

/-- When nobody has acted on a street yet, the unfolded all-in seats are at most the seat to act,
unless nobody can act at all. -/
def NoIdleAllIn (st : EngineState Card) : Prop :=
  st.bettingRound.actedSeats = ∅ → actionableSeats st = ∅ ∨
    ∀ s ∈ activeSeats st, s ∈ st.hand.allInSeats → st.snapshot.actingSeatId = some s

instance (st : EngineState Card) : Decidable (NoIdleAllIn st) :=
  inferInstanceAs (Decidable (_ → _ ∨ _))

/-- The seats in the hand that are not done with the betting round. -/
def pendingSeats (st : EngineState Card) : Finset SeatId :=
  (activeSeats st).filter fun s => ¬ SeatDone st s

def streetsLeft : Street → ℕ
  | .preflop => 3
  | .flop => 2
  | .turn => 1
  | .river => 0
  | .showdown => 0

/-- How many more turns the hand can take without a raise. -/
def turnsLeft (st : EngineState Card) : ℕ :=
  match st.snapshot.actingSeatId with
  | none => 0
  | some seat =>
    st.hand.seatedPlayers.card * streetsLeft st.snapshot.street +
      (insert seat (pendingSeats st)).card

/-- All unfolded all-in seats have acted or have the turn, unless nobody can act. -/
def AllInCovered (st : EngineState Card) (seat : SeatId) : Prop :=
  actionableSeats st = ∅ ∨ ∀ s ∈ activeSeats st, s ∈ st.hand.allInSeats →
    s ∈ st.bettingRound.actedSeats ∨ s = seat

/-- From the seat on, around the table, those that can act and are not done come first. -/
def PendingFirst (st : EngineState Card) (seat : SeatId) : Prop :=
  ∃ rest, sortedSeats st.hand.seatedPlayers ~r (seat :: rest) ∧
    rest.Pairwise fun s t => s ∈ actionableSeats st → t ∈ actionableSeats st →
      SeatDone st s → SeatDone st t

/-- What holds while `seat` has the turn. -/
structure TurnOrder (st : EngineState Card) (seat : SeatId) : Prop where
  seated : seat ∈ st.hand.seatedPlayers
  bets : ∀ s, st.seatBet s ≤ st.bettingRound.currentBet
  allIn : st.bettingRound.actedSeats.Nonempty → AllInCovered st seat
  pendingFirst : PendingFirst st seat

/-! ### Who is done after an action -/

section

variable {st mid : EngineState Card} {action : PlayerAction}

theorem mem_foldedAfter_ne {s : SeatId} (hs : s ≠ action.seatId) :
    s ∈ foldedAfter st action ↔ s ∈ st.hand.foldedSeats := by
  unfold foldedAfter
  split_ifs <;> simp [hs]

theorem mem_allInAfter_ne {s : SeatId} (hs : s ≠ action.seatId) :
    s ∈ allInAfter st action ↔ s ∈ st.hand.allInSeats := by
  unfold allInAfter
  split_ifs <;> simp [hs]

theorem mem_activeSeats_mid_ne (h : BeforeTurn st action mid) {s : SeatId}
    (hs : s ≠ action.seatId) : s ∈ activeSeats mid ↔ s ∈ activeSeats st := by
  rw [mem_activeSeats, mem_activeSeats, h.hand, mem_foldedAfter_ne hs]

theorem mem_actionableSeats_mid_ne (h : BeforeTurn st action mid) {s : SeatId}
    (hs : s ≠ action.seatId) : s ∈ actionableSeats mid ↔ s ∈ actionableSeats st := by
  rw [mem_actionableSeats, mem_actionableSeats, mem_activeSeats_mid_ne h hs, h.hand,
    mem_allInAfter_ne hs]

theorem mem_actedAfter_self : action.seatId ∈ actedAfter st action := by
  unfold actedAfter
  split_ifs <;> exact Finset.mem_insert_self _ _

theorem seatBet_placedBets_le (h : ∀ s, st.seatBet s ≤ st.bettingRound.currentBet) (s : SeatId) :
    (placedBets st action).seatBet s ≤ (placedBets st action).bettingRound.currentBet := by
  cases hbet : betTarget st action with
  | none =>
    rw [placedBets_of_none hbet]
    exact h s
  | some target =>
    rw [currentBet_placedBets hbet]
    by_cases hs : s = action.seatId
    · rw [hs, seatBet_placedBets_self hbet]
      exact le_max_right _ _
    · rw [seatBet_placedBets_ne hs]
      exact (h s).trans (le_max_left _ _)

theorem currentBet_of_not_raises (hraise : raises st action = false) :
    (placedBets st action).bettingRound.currentBet = st.bettingRound.currentBet := by
  cases hbet : betTarget st action with
  | none => rw [placedBets_of_none hbet]
  | some target =>
    rw [currentBet_placedBets hbet]
    refine max_eq_left ?_
    unfold betTarget at hbet
    unfold raises at hraise
    cases htype : action.actionType with
    | fold => simp [htype] at hbet
    | check => simp [htype] at hbet
    | call =>
      simp only [htype, Option.some.injEq] at hbet
      exact hbet.symm.le
    | raiseTo => simp [htype] at hraise
    | allIn =>
      simp only [htype] at hbet
      simpa [htype, hbet] using hraise

theorem seatDone_self (h : BeforeTurn st action mid) (hplay : Playable st action)
    (hbets : ∀ s, st.seatBet s ≤ st.bettingRound.currentBet)
    (hactive : action.seatId ∈ activeSeats mid) : SeatDone mid action.seatId := by
  rw [SeatDone, h.seatBet, h.currentBet, h.round, h.hand]
  refine ⟨mem_actedAfter_self, ?_⟩
  unfold Playable at hplay
  cases htype : action.actionType with
  | fold =>
    have hfold : action.seatId ∈ foldedAfter st action := by simp [foldedAfter, htype]
    rw [mem_activeSeats, h.hand] at hactive
    exact absurd hfold hactive.2
  | check =>
    simp only [htype] at hplay
    have hbet : betTarget st action = none := by simp only [betTarget, htype]
    rw [placedBets_of_none hbet]
    refine .inr (le_antisymm (hbets _) ?_)
    have hzero := Chips.eq_zero_iff.1 hplay
    rw [toCall, Chips.asU128_subOrZero] at hzero
    rw [Chips.le_iff]
    omega
  | call =>
    have hbet : betTarget st action = some st.bettingRound.currentBet := by
      simp only [betTarget, htype]
    rw [seatBet_placedBets_self hbet, currentBet_placedBets hbet, max_self]
    exact .inr rfl
  | raiseTo =>
    simp only [htype] at hplay
    obtain ⟨target, hamount, -, hbig⟩ := hplay
    have hbet : betTarget st action = some target := by simp only [betTarget, htype, hamount]
    have habove : ¬ target ≤ st.bettingRound.currentBet := fun hle => by
      simp [raiseTooSmall, hle] at hbig
    rw [seatBet_placedBets_self hbet, currentBet_placedBets hbet]
    exact .inr (max_eq_right (not_le.1 habove).le).symm
  | allIn => exact .inl (by simp [allInAfter, htype])

/-- The other seats are as done as before, unless the bet was raised. -/
theorem seatDone_ne_iff (h : BeforeTurn st action mid) (hraise : raises st action = false)
    {s : SeatId} (hs : s ≠ action.seatId) : SeatDone mid s ↔ SeatDone st s := by
  rw [SeatDone, SeatDone, h.seatBet, h.currentBet, h.round, h.hand, seatBet_placedBets_ne hs,
    currentBet_of_not_raises hraise, mem_allInAfter_ne hs]
  simp [actedAfter, hraise, hs]

theorem not_seatDone_of_raises (h : BeforeTurn st action mid) (hraise : raises st action = true)
    {s : SeatId} (hs : s ≠ action.seatId) (hact : s ∈ actionableSeats mid) : ¬ SeatDone mid s := by
  rintro ⟨hacted, -⟩
  have hall := (mem_actionableSeats.1 hact).2
  rw [h.hand] at hall
  rw [h.round] at hacted
  simp only [actedAfter, hraise, if_true, Finset.mem_insert] at hacted
  exact hacted.elim hs hall

/-- An order of the seats in which those not done come first stays one. -/
theorem seatDone_imp_mid (h : BeforeTurn st action mid) {s t : SeatId} (hs : s ≠ action.seatId)
    (ht : t ≠ action.seatId) (hact : s ∈ actionableSeats mid)
    (himp : SeatDone st s → SeatDone st t) : SeatDone mid s → SeatDone mid t := by
  cases hraise : raises st action with
  | false =>
    rw [seatDone_ne_iff h hraise hs, seatDone_ne_iff h hraise ht]
    exact himp
  | true => exact fun hdone => absurd hdone (not_seatDone_of_raises h hraise hs hact)

/-! ### The turn order through an action -/

/-- The turn passes on and the order is kept: the seat that acted is now the last one. -/
theorem pendingFirst_pass (h : BeforeTurn st action mid)
    (hself : action.seatId ∈ activeSeats mid → SeatDone mid action.seatId)
    (hfirst : PendingFirst st action.seatId) {seat : SeatId}
    (hnext : NextToAct mid action.seatId seat) : PendingFirst mid seat := by
  obtain ⟨rest, hrot, hpair⟩ := hfirst
  have hseats : mid.hand.seatedPlayers = st.hand.seatedPlayers := by rw [h.hand]
  have hnd : (action.seatId :: rest).Nodup := hrot.nodup_iff.1 (nodup_sortedSeats _)
  have hne : ∀ s ∈ rest, s ≠ action.seatId := fun s hs heq => (List.nodup_cons.1 hnd).1 (heq ▸ hs)
  have hnone : ∀ {l : List SeatId}, l.Nodup → (∀ s ∈ l, s ∉ actionableSeats mid) →
      l.Pairwise fun s t => s ∈ actionableSeats mid → t ∈ actionableSeats mid →
        SeatDone mid s → SeatDone mid t :=
    fun hl hno => hl.imp_of_mem fun hs _ _ hact => absurd hact (hno _ hs)
  have hsplit := hnext.2 rest (by rw [hseats]; exact hrot)
  unfold PendingFirst
  rw [hseats]
  rcases hsplit with ⟨pre, post, rfl, hpre⟩ | ⟨rfl, hall⟩
  · refine ⟨post ++ action.seatId :: pre, isRotated_pass hrot, ?_⟩
    have hrest := (List.nodup_cons.1 hnd).2
    have hpre_nd : pre.Nodup := hrest.of_append_left
    have hpost : ∀ s ∈ post, s ≠ action.seatId := fun s hs => hne s (by simp [hs])
    refine List.pairwise_append.2 ⟨?_, List.pairwise_cons.2 ⟨?_, hnone hpre_nd hpre⟩, ?_⟩
    · have hsub : List.Sublist post (pre ++ seat :: post) :=
        (List.sublist_cons_self seat post).trans (List.sublist_append_right pre _)
      refine (hpair.sublist hsub).imp_of_mem fun hs ht himp hact hact' => ?_
      rw [mem_actionableSeats_mid_ne h (hpost _ ht)] at hact'
      exact seatDone_imp_mid h (hpost _ hs) (hpost _ ht) hact
        (himp ((mem_actionableSeats_mid_ne h (hpost _ hs)).1 hact) hact')
    · exact fun t ht _ hact => absurd hact (hpre t ht)
    · intro s hs t ht _ hact _
      rcases List.mem_cons.1 ht with rfl | ht
      · exact hself (mem_actionableSeats.1 hact).1
      · exact absurd hact (hpre t ht)
  · exact ⟨rest, hrot, hnone (List.nodup_cons.1 hnd).2 hall⟩

/-- The next seat to act is not done, if some seat that can act is not. -/
theorem pending_of_next (h : BeforeTurn st action mid) (hraise : raises st action = false)
    (hfirst : PendingFirst st action.seatId) {seat p : SeatId}
    (hnext : NextToAct mid action.seatId seat) (hp : p ≠ action.seatId)
    (hact : p ∈ actionableSeats mid) (hpend : ¬ SeatDone mid p) : ¬ SeatDone mid seat := by
  obtain ⟨rest, hrot, hpair⟩ := hfirst
  have hseats : mid.hand.seatedPlayers = st.hand.seatedPlayers := by rw [h.hand]
  have hnd : (action.seatId :: rest).Nodup := hrot.nodup_iff.1 (nodup_sortedSeats _)
  have hseated : p ∈ sortedSeats st.hand.seatedPlayers := by
    rw [mem_sortedSeats, ← hseats]
    exact (mem_activeSeats.1 (mem_actionableSeats.1 hact).1).1
  have hmem : p ∈ rest := (List.mem_cons.1 (hrot.mem_iff.1 hseated)).resolve_left hp
  rcases hnext.2 rest (by rw [hseats]; exact hrot) with ⟨pre, post, rfl, hpre⟩ | ⟨-, hall⟩
  · have hseat : seat ≠ action.seatId := by
      rintro rfl
      simp at hnd
    rcases List.mem_append.1 hmem with hin | hin
    · exact absurd hact (hpre p hin)
    rcases List.mem_cons.1 hin with rfl | hpost
    · exact hpend
    · -- the seat stands before `p`, which is not done
      have himp := (List.pairwise_cons.1 (List.pairwise_append.1 hpair).2.1).1 p hpost
        ((mem_actionableSeats_mid_ne h hseat).1 hnext.1) ((mem_actionableSeats_mid_ne h hp).1 hact)
      rw [seatDone_ne_iff h hraise hseat]
      rw [seatDone_ne_iff h hraise hp] at hpend
      exact fun hdone => hpend (himp hdone)
  · exact absurd hact (hall p hmem)

theorem actionableSeats_mid_subset (h : BeforeTurn st action mid) :
    actionableSeats mid ⊆ actionableSeats st := by
  intro s hs
  have hfold : st.hand.foldedSeats ⊆ foldedAfter st action := by
    unfold foldedAfter
    split_ifs
    · exact Finset.subset_insert _ _
    · exact Finset.Subset.refl _
  have hall : st.hand.allInSeats ⊆ allInAfter st action := by
    unfold allInAfter
    split_ifs
    · exact Finset.subset_insert _ _
    · exact Finset.Subset.refl _
  rw [mem_actionableSeats, mem_activeSeats, h.hand] at hs
  rw [mem_actionableSeats, mem_activeSeats]
  exact ⟨⟨hs.1.1, fun hf => hs.1.2 (hfold hf)⟩, fun ha => hs.2 (hall ha)⟩

/-- All-in seats are covered again after an action, whoever is next. -/
theorem allInCovered_mid (h : BeforeTurn st action mid)
    (hcov : AllInCovered st action.seatId) (seat : SeatId) : AllInCovered mid seat := by
  rcases hcov with hnone | hcov
  · exact .inl (Finset.subset_empty.1 (hnone ▸ actionableSeats_mid_subset h))
  refine .inr fun s hs hall => .inl ?_
  rw [h.hand] at hall
  rw [h.round]
  by_cases hself : s = action.seatId
  · rw [hself]
    exact mem_actedAfter_self
  unfold actedAfter
  split_ifs with hraise
  · exact Finset.mem_insert_of_mem hall
  · have hst := hcov s ((mem_activeSeats_mid_ne h hself).1 hs) ((mem_allInAfter_ne hself).1 hall)
    exact Finset.mem_insert_of_mem (hst.resolve_right hself)

/-- On a fresh street any order is one in which those not done come first. -/
theorem turnOrder_of_fresh {seat : SeatId} (hseat : seat ∈ st.hand.seatedPlayers)
    (hbets : ∀ s, st.seatBet s ≤ st.bettingRound.currentBet)
    (hfresh : st.bettingRound.actedSeats = ∅) : TurnOrder st seat := by
  obtain ⟨rest, hrot⟩ := exists_isRotated (mem_sortedSeats.2 hseat)
  refine ⟨hseat, hbets, fun hne => absurd hfresh hne.ne_empty, rest, hrot, ?_⟩
  refine List.pairwise_of_forall fun s t _ _ hdone => ?_
  have := hdone.1
  rw [hfresh] at this
  exact absurd this (Finset.notMem_empty s)

theorem TurnOrder.covered {seat : SeatId} (h : TurnOrder st seat)
    (hact : st.snapshot.actingSeatId = some seat) (hidle : NoIdleAllIn st) :
    AllInCovered st seat := by
  by_cases hfresh : st.bettingRound.actedSeats = ∅
  · refine (hidle hfresh).imp_right fun hall s hs hin => .inr ?_
    have := hall s hs hin
    rw [hact] at this
    exact (Option.some.inj this).symm
  · exact h.allIn (Finset.nonempty_iff_ne_empty.2 hfresh)

theorem turnOrder_placedBets (h : TurnOrder st action.seatId) :
    TurnOrder (placedBets st action) action.seatId := by
  have hhand : (placedBets st action).hand = st.hand := by rw [placedBets_eq]
  obtain ⟨rest, hrot, hpair⟩ := h.pendingFirst
  have hnd : (action.seatId :: rest).Nodup := hrot.nodup_iff.1 (nodup_sortedSeats _)
  refine ⟨by rw [hhand]; exact h.seated, seatBet_placedBets_le h.bets, ?_, rest,
    by rw [hhand]; exact hrot, ?_⟩
  · unfold AllInCovered actionableSeats activeSeats
    rw [placedBets_actedSeats, hhand]
    exact h.allIn
  have hne : ∀ s ∈ rest, s ≠ action.seatId := fun s hs heq => (List.nodup_cons.1 hnd).1 (heq ▸ hs)
  refine hpair.imp_of_mem fun {s t} hs ht himp hact hact' => ?_
  have hact_eq : actionableSeats (placedBets st action) = actionableSeats st := by
    unfold actionableSeats
    rw [hhand]
  rw [hact_eq] at hact hact'
  unfold SeatDone
  rw [seatBet_placedBets_ne (hne s hs), seatBet_placedBets_ne (hne t ht), placedBets_actedSeats,
    hhand]
  rintro ⟨hacted, hbet⟩
  have hbet := hbet.resolve_left (mem_actionableSeats.1 hact).2
  cases htarget : betTarget st action with
  | none =>
    rw [placedBets_of_none htarget] at hbet ⊢
    exact himp hact hact' ⟨hacted, .inr hbet⟩
  | some target =>
    rw [currentBet_placedBets htarget] at hbet ⊢
    rcases le_total target st.bettingRound.currentBet with hle | hle
    · rw [max_eq_left hle] at hbet ⊢
      exact himp hact hact' ⟨hacted, .inr hbet⟩
    · -- the current bet was raised, so the seat can only be done if it was not
      rw [max_eq_right hle] at hbet ⊢
      have heq : target = st.bettingRound.currentBet := le_antisymm (hbet ▸ h.bets s) hle
      rw [heq] at hbet ⊢
      exact himp hact hact' ⟨hacted, .inr hbet⟩

/-! ### The measure -/

theorem pendingSeats_subset (st : EngineState Card) : pendingSeats st ⊆ st.hand.seatedPlayers :=
  fun _ hs => (mem_activeSeats.1 (Finset.mem_filter.1 hs).1).1

/-- The table acts at most once on each of four streets. -/
theorem turnsLeft_le (h : ∀ seat, st.snapshot.actingSeatId = some seat → TurnOrder st seat) :
    turnsLeft st ≤ 4 * st.hand.seatedPlayers.card := by
  unfold turnsLeft
  split
  · exact Nat.zero_le _
  · rename_i seat hseat
    have hpend := Finset.card_le_card
      (Finset.insert_subset (h seat hseat).seated (pendingSeats_subset st))
    have hstreet : streetsLeft st.snapshot.street ≤ 3 := by
      cases st.snapshot.street <;> simp [streetsLeft]
    have hmul := Nat.mul_le_mul_left st.hand.seatedPlayers.card hstreet
    omega

theorem streetsLeft_next {street next : Street} (h : nextStreet street = some next) :
    streetsLeft street = streetsLeft next + 1 := by
  cases street <;> cases h <;> rfl

/-- When the turn passes on without a raise, the next seat is one of those not done. -/
theorem pending_pass (hmid : BeforeTurn st action mid) (hraise : raises st action = false)
    (hplay : Playable st action) (horder : TurnOrder st action.seatId)
    (hcov : AllInCovered st action.seatId) (hround : ¬ RoundComplete mid) {seat : SeatId}
    (hnext : NextToAct mid action.seatId seat) : seat ∈ pendingSeats mid := by
  refine Finset.mem_filter.2 ⟨(mem_actionableSeats.1 hnext.1).1, ?_⟩
  unfold RoundComplete at hround
  push Not at hround
  obtain ⟨p, hactive, hpend⟩ := hround
  have hself : p ≠ action.seatId := by
    rintro rfl
    exact hpend (seatDone_self hmid hplay horder.bets hactive)
  have hcovered := (allInCovered_mid hmid hcov action.seatId).resolve_left
    (Finset.nonempty_iff_ne_empty.1 ⟨seat, hnext.1⟩) p hactive
  -- a seat that is not done is not all-in: all-in seats have acted
  have hall : p ∉ mid.hand.allInSeats := fun hall =>
    hpend ⟨(hcovered hall).resolve_right hself, .inl hall⟩
  exact pending_of_next hmid hraise horder.pendingFirst hnext hself
    (mem_actionableSeats.2 ⟨hactive, hall⟩) hpend

theorem pendingSeats_mid_subset (hmid : BeforeTurn st action mid)
    (hraise : raises st action = false) (hplay : Playable st action)
    (horder : TurnOrder st action.seatId) :
    pendingSeats mid ⊆ (insert action.seatId (pendingSeats st)).erase action.seatId := by
  intro s hs
  obtain ⟨hactive, hpend⟩ := Finset.mem_filter.1 hs
  have hself : s ≠ action.seatId := by
    rintro rfl
    exact hpend (seatDone_self hmid hplay horder.bets hactive)
  rw [seatDone_ne_iff hmid hraise hself] at hpend
  exact Finset.mem_erase.2 ⟨hself, Finset.mem_insert_of_mem
    (Finset.mem_filter.2 ⟨(mem_activeSeats_mid_ne hmid hself).1 hactive, hpend⟩)⟩

/-! ### One action -/

variable [RsPoker Card]

/-- **The turn order is kept by every action**, accepted or refused. -/
theorem turnOrder_actStep (hpot : PotInv st) (hidle : NoIdleAllIn st)
    (hinv : ∀ seat, st.snapshot.actingSeatId = some seat → TurnOrder st seat)
    (action : PlayerAction) :
    ∀ seat, (actStep st action).snapshot.actingSeatId = some seat →
      TurnOrder (actStep st action) seat := by
  intro seat hseat
  unfold actStep at hseat ⊢
  by_cases hok : Acceptable st action
  · obtain ⟨mid, hmid, happ⟩ := applyAction_accepted hpot hok
    have horder := hinv _ hok.turn
    rw [happ] at hseat ⊢
    have hstep := turn_step mid action.seatId
    generalize advanceTurn mid action.seatId = r at hstep hseat
    cases hstep with
    | closed => cases hseat
    | river => cases hseat
    | street _ _ street first _ hfirst _ =>
      cases hseat
      exact turnOrder_of_fresh (mem_activeSeats.1 hfirst).1 (fun s => le_refl _) rfl
    | nobody => cases hseat
    | pass _ _ next hnext =>
      cases hseat
      refine ⟨(mem_activeSeats.1 (mem_actionableSeats.1 hnext.1).1).1, fun s => ?_,
        fun _ => allInCovered_mid hmid (horder.covered hok.turn hidle) seat,
        pendingFirst_pass hmid (seatDone_self hmid hok.playable horder.bets) horder.pendingFirst
          hnext⟩
      show mid.seatBet s ≤ mid.bettingRound.currentBet
      rw [hmid.seatBet, hmid.currentBet]
      exact seatBet_placedBets_le horder.bets s
  · rcases applyAction_refused hpot hok with ⟨-, e, happ⟩ | ⟨hover, e, happ⟩
    · rw [happ] at hseat ⊢
      exact hinv seat hseat
    · rw [happ] at hseat ⊢
      rw [placedBets_eq] at hseat
      obtain rfl := Option.some.inj (hover.turn.symm.trans hseat)
      exact turnOrder_placedBets (hinv _ hover.turn)

/-- **Every accepted action that is no raise takes a turn off the measure.** -/
theorem turnsLeft_actStep (hpot : PotInv st) (hidle : NoIdleAllIn st)
    (horder : TurnOrder st action.seatId) (hok : Acceptable st action)
    (hraise : raises st action = false) : turnsLeft (actStep st action) + 1 ≤ turnsLeft st := by
  obtain ⟨mid, hmid, happ⟩ := applyAction_accepted hpot hok
  have hnow : turnsLeft st = st.hand.seatedPlayers.card * streetsLeft st.snapshot.street +
      (insert action.seatId (pendingSeats st)).card := by
    unfold turnsLeft
    rw [hok.turn]
  have hpos : 0 < (insert action.seatId (pendingSeats st)).card :=
    Finset.card_pos.2 (Finset.insert_nonempty _ _)
  have hseats : mid.hand.seatedPlayers = st.hand.seatedPlayers := by rw [hmid.hand]
  have hstreet : mid.snapshot.street = st.snapshot.street := by rw [hmid.snapshot]
  rw [actStep, happ, hnow]
  have hstep := turn_step mid action.seatId
  generalize advanceTurn mid action.seatId = r at hstep
  cases hstep with
  | closed => exact Nat.le_add_left_of_le hpos
  | river => exact Nat.le_add_left_of_le hpos
  | street _ _ street first hnext hfirst _ =>
    have hleft := streetsLeft_next hnext
    rw [hstreet] at hleft
    have hfit := Finset.card_le_card (Finset.insert_subset (mem_activeSeats.1 hfirst).1
      (pendingSeats_subset (openStreet mid street (some first))))
    show mid.hand.seatedPlayers.card * streetsLeft street +
      (insert first (pendingSeats (openStreet mid street (some first)))).card + 1 ≤ _
    rw [hleft, Nat.mul_succ, ← hseats]
    have hsame : (openStreet mid street (some first)).hand.seatedPlayers.card =
        mid.hand.seatedPlayers.card := rfl
    omega
  | nobody => exact Nat.le_add_left_of_le hpos
  | pass _ hround next hnext =>
    have hmem := pending_pass hmid hraise hok.playable horder (horder.covered hok.turn hidle)
      hround hnext
    have hfit := Finset.card_le_card (pendingSeats_mid_subset hmid hraise hok.playable horder)
    rw [Finset.card_erase_of_mem (Finset.mem_insert_self _ _)] at hfit
    show mid.hand.seatedPlayers.card * streetsLeft mid.snapshot.street +
      (insert next (pendingSeats mid)).card + 1 ≤ _
    rw [Finset.insert_eq_of_mem hmem, hseats, hstreet]
    omega

/-- A run of accepted actions without a raise is at most as long as the measure. -/
theorem length_le_turnsLeft {actions : List PlayerAction} (hpot : PotInv st)
    (hinv : ∀ seat, st.snapshot.actingSeatId = some seat → TurnOrder st seat)
    (hidle : AllSteps actStep (fun st _ => NoIdleAllIn st) st actions)
    (hacc : AllSteps actStep (fun st action => Accepts st action ∧ raises st action = false) st
      actions) : actions.length ≤ turnsLeft st := by
  induction actions generalizing st with
  | nil => exact Nat.zero_le _
  | cons action actions ih =>
    obtain ⟨⟨hok, hraise⟩, hrest⟩ := hacc
    have hok := (accepts_iff hpot).1 hok
    have hlen := ih (potInv_actStep hpot action) (turnOrder_actStep hpot hidle.1 hinv action)
      hidle.2 hrest
    have hdrop := turnsLeft_actStep hpot hidle.1 (hinv _ hok.turn) hok hraise
    rw [List.length_cons]
    omega

end

/-! ### Whole hands -/

theorem seatBet_dealtState_le (st : EngineState Card) (dealing : DealingState Card)
    (newHandId : HandId) (sb bb first s : SeatId) :
    (dealtState st dealing newHandId sb bb first).seatBet s ≤
      (dealtState st dealing newHandId sb bb first).bettingRound.currentBet := by
  show ((blinds sb bb).lookup s).getD 0 ≤ DEFAULT_BIG_BLIND
  unfold blinds
  by_cases hbb : s = bb
  · rw [hbb, AList.lookup_insert]
    exact le_refl _
  rw [AList.lookup_insert_ne hbb]
  by_cases hsb : s = sb
  · rw [hsb, AList.lookup_insert]
    exact Chips.le_iff.2 (by decide)
  rw [AList.lookup_insert_ne hsb]
  exact Chips.le_iff.2 (Nat.zero_le _)

section

variable [RsPoker Card]

theorem seatedPlayers_run {st : EngineState Card} (actions : List PlayerAction) (hpot : PotInv st) :
    (run actStep st actions).hand.seatedPlayers = st.hand.seatedPlayers := by
  refine (run_inv (fun st' => PotInv st' ∧ st'.hand.seatedPlayers = st.hand.seatedPlayers)
    ?_ actions ⟨hpot, rfl⟩).2
  rintro st' action ⟨hpot', hseats⟩
  refine ⟨potInv_actStep hpot' action, ?_⟩
  rw [actStep]
  rcases applyAction_cases hpot' action with ⟨-, st'', result, happ, hacc⟩ | ⟨-, round, e, happ⟩
  · rw [happ]
    exact hacc.seatedPlayers.trans hseats
  · rw [happ]
    exact hseats

/-- **A hand ends.** From any state of a hand, a sequence of accepted actions without a raise is at
most four times as long as the table has seats, and when none of them can follow any more the hand is
no longer running; provided no street of the hand starts with an idle all-in seat. -/
theorem hand_ends (st : EngineState Card) (newHandId : HandId) (deck : List Card)
    (dealt : EngineState Card)
    (hdeal : dealNewHandInternalWithDeck st newHandId deck = (dealt, .ok ()))
    (history actions : List PlayerAction)
    (hidle : AllSteps actStep (fun st _ => NoIdleAllIn st) dealt (history ++ actions))
    (hacc : AllSteps actStep (fun st action => Accepts st action ∧ raises st action = false)
      (run actStep dealt history) actions) :
    actions.length ≤ 4 * st.hand.seatedPlayers.card ∧
      ((∀ action, ¬ (Accepts (run actStep dealt (history ++ actions)) action ∧
          raises (run actStep dealt (history ++ actions)) action = false)) →
        (run actStep dealt (history ++ actions)).snapshot.status ≠ .running) := by
  obtain ⟨dealing, sb, bb, first, rfl, hbs, -⟩ := deal_ok hdeal
  have hpot := potInv_dealtState st dealing newHandId first hbs.ne
  have hcopies := turnCopies_dealtState st dealing newHandId sb bb first
  have horder : ∀ seat,
      (dealtState st dealing newHandId sb bb first).snapshot.actingSeatId = some seat →
        TurnOrder (dealtState st dealing newHandId sb bb first) seat := by
    intro seat hseat
    cases hseat
    refine turnOrder_of_fresh ?_ (seatBet_dealtState_le st dealing newHandId sb bb first) rfl
    rw [seatedPlayers_dealtState]
    exact mem_sortedSeats.1 hbs.first_mem
  have hseats := seatedPlayers_dealtState st dealing newHandId sb bb first
  clear hdeal
  generalize dealtState st dealing newHandId sb bb first = dealt at *
  obtain ⟨hhistory, hactions⟩ := AllSteps.append.1 hidle
  constructor
  · obtain ⟨hpot', horder'⟩ := hhistory.run_inv
      (fun st => PotInv st ∧ ∀ seat, st.snapshot.actingSeatId = some seat → TurnOrder st seat)
      (fun st action hidle h =>
        ⟨potInv_actStep h.1 action, turnOrder_actStep h.1 hidle h.2 action⟩) ⟨hpot, horder⟩
    have hlen := length_le_turnsLeft hpot' horder' hactions hacc
    have hbound := turnsLeft_le horder'
    rw [seatedPlayers_run history hpot, hseats] at hbound
    exact hlen.trans hbound
  · intro hmax hrun
    obtain ⟨hpot', hcopies'⟩ := run_inv (fun st => PotInv st ∧ TurnCopies st)
      (fun st action h => ⟨potInv_actStep h.1 action, h.2.applyAction h.1 action⟩)
      (history ++ actions) ⟨hpot, hcopies⟩
    obtain ⟨seat, hseat⟩ := hcopies'.exists_acting hrun
    -- the seat to act can always fold
    let fold : PlayerAction :=
      { roomId := ⟨0⟩, handId := newHandId, seatId := seat, actionType := .fold, amount := none
        actionSeq := (run actStep dealt (history ++ actions)).snapshot.nextActionSeq }
    exact hmax fold ⟨(accepts_iff hpot').2 (acceptable_fold rfl hseat rfl), rfl⟩

end

/-- Both seats of the first hand check it down. -/
def checkedDown : List PlayerAction :=
  [headsUpAction 1 0 .call none, headsUpAction 2 1 .check none, headsUpAction 3 1 .check none,
    headsUpAction 4 0 .check none, headsUpAction 5 1 .check none, headsUpAction 6 0 .check none,
    headsUpAction 7 1 .check none, headsUpAction 8 0 .check none]

/-- A hand that is checked down takes eight actions, four for each seat, and then is over. -/
theorem checkedDown_ends :
    checkedDown.length ≤ 4 * 2 ∧
      (run actStep headsUp checkedDown).snapshot.status ≠ .running := by
  have hsteps : AllSteps actStep (fun st _ => NoIdleAllIn st) headsUp checkedDown ∧
      AllSteps actStep (fun st action => Accepts st action ∧ raises st action = false) headsUp
        checkedDown ∧
      (run actStep headsUp checkedDown).snapshot.actingSeatId = none ∧
      (run engineStep (EngineState.new ⟨0⟩ 1 ⟨0⟩ : EngineState ByteCard)
        ([0, 1].map .seatPlayer)).hand.seatedPlayers.card = 2 := by
    decide +kernel
  obtain ⟨hlen, hover⟩ := hand_ends _ ⟨1⟩ royalDeck headsUp deal_headsUp [] checkedDown hsteps.1
    hsteps.2.1
  rw [hsteps.2.2.2] at hlen
  rw [List.nil_append] at hover
  have hpot : PotInv (run actStep headsUp checkedDown) :=
    run_inv PotInv (fun st action h => potInv_actStep h action) checkedDown potInv_headsUp
  refine ⟨hlen, hover ?_⟩
  rintro action ⟨hok, -⟩
  have hturn := ((accepts_iff hpot).1 hok).turn
  rw [hsteps.2.2.1] at hturn
  cases hturn

/-- The small blind goes all-in for the price of a call and the big blind checks, on and on. -/
def endlessChecks : List PlayerAction :=
  [headsUpAction 1 0 .allIn (some DEFAULT_BIG_BLIND), headsUpAction 2 1 .check none,
    headsUpAction 3 1 .check none, headsUpAction 4 1 .check none, headsUpAction 5 1 .check none,
    headsUpAction 6 1 .check none, headsUpAction 7 1 .check none, headsUpAction 8 1 .check none,
    headsUpAction 9 1 .check none]

/-- Nine actions without a raise in a hand of two, and the hand still runs. -/
theorem endless_checks_against_allIn :
    ∃ dealt : EngineState ByteCard, dealNewHandInternalWithDeck
        (run engineStep (EngineState.new ⟨0⟩ 1 ⟨0⟩) ([0, 1].map .seatPlayer)) ⟨1⟩ royalDeck =
          (dealt, .ok ()) ∧
      dealt.hand.seatedPlayers.card = 2 ∧
      AllSteps actStep (fun st action => Accepts st action ∧ raises st action = false) dealt
        endlessChecks ∧
      4 * 2 < endlessChecks.length ∧
      (run actStep dealt endlessChecks).snapshot.status = .running := by
  refine ⟨headsUp, deal_headsUp, ?_⟩
  decide +kernel

end HoldemPlatform.Engine.HandEnds
