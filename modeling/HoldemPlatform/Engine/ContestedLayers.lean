import HoldemPlatform.Engine.Showdown

/-!
# Which Pot Layers Have a Seat Left to Win Them

The contributors of a layer are the seats at or above its level, so the layers above have fewer of
them. The highest layer is the one up to the second highest contribution; beyond it there is only one
contributor and no layer. So every layer has a contributor that has not folded exactly if the highest
one has, that is if such a seat has at most one other seat above it.
-/

namespace HoldemPlatform.Engine.ContestedLayers

open HoldemPlatform.Lib.FiniteMap HoldemPlatform.Domain.Money HoldemPlatform.Domain.Game
open HoldemPlatform.Engine.State HoldemPlatform.Engine.PotLayers HoldemPlatform.Engine.Showdown

/-- At most one of the levels is above `amount`. -/
def OneAbove (amount : ℕ) (levels : List (SeatId × Chips)) : Prop :=
  ∀ l ∈ levels, ∀ m ∈ levels, amount < l.2.asU128 → amount < m.2.asU128 → l.1 = m.1

theorem exists_two_of_not_oneAbove {amount : ℕ} {levels : List (SeatId × Chips)}
    (h : ¬ OneAbove amount levels) : ∃ l ∈ levels, ∃ m ∈ levels,
      l.1 ≠ m.1 ∧ amount < l.2.asU128 ∧ amount < m.2.asU128 := by
  unfold OneAbove at h
  push Not at h
  obtain ⟨l, hl, m, hm, hla, hma, hne⟩ := h
  exact ⟨l, hl, m, hm, hne, hla, hma⟩

theorem OneAbove.mono {amount amount' : ℕ} {levels : List (SeatId × Chips)}
    (h : OneAbove amount levels) (hle : amount ≤ amount') : OneAbove amount' levels :=
  fun l hl m hm hla hma => h l hl m hm (by omega) (by omega)

theorem oneAbove_cons {amount : ℕ} {l : SeatId × Chips} {levels : List (SeatId × Chips)}
    (hle : l.2.asU128 ≤ amount) : OneAbove amount (l :: levels) ↔ OneAbove amount levels := by
  constructor
  · exact fun h a ha b hb => h a (List.mem_cons_of_mem _ ha) b (List.mem_cons_of_mem _ hb)
  · intro h a ha b hb haa hab
    rcases List.mem_cons.1 ha with rfl | ha
    · omega
    rcases List.mem_cons.1 hb with rfl | hb
    · omega
    exact h a ha b hb haa hab

section

variable {foldedSeats : Finset SeatId}

theorem layersFrom_cons {idx : ℕ} {prev amount : Chips} {seat : SeatId}
    {rest : List (SeatId × Chips)} (hlt : prev < amount) (hrest : rest ≠ []) :
    layersFrom foldedSeats idx prev ((seat, amount) :: rest) =
      { amount := Chips.ofU128 ((amount.asU128 - prev.asU128) * (rest.length + 1))
        eligibleSeats :=
          ((seat :: rest.map Prod.fst).filter (· ∉ foldedSeats)).insertionSort (· ≤ ·)
        isMain := idx = 0 } :: layersFrom foldedSeats (idx + 1) amount rest := by
  have hne : amount.subOrZero prev ≠ 0 := by
    rw [Ne, Chips.eq_zero_iff, Chips.asU128_subOrZero]
    rw [Chips.lt_iff] at hlt
    omega
  have hlen : ¬ rest.length + 1 ≤ 1 := by
    have hpos := List.length_pos_iff.2 hrest
    omega
  rw [layersFrom, if_neg (not_le.2 hlt)]
  simp only [if_neg hne, List.length_cons, List.length_map, if_neg hlen, Chips.asU128_subOrZero]

theorem layersFrom_skip {idx : ℕ} {prev amount : Chips} {seat : SeatId}
    {rest : List (SeatId × Chips)} (hle : amount ≤ prev) :
    layersFrom foldedSeats idx prev ((seat, amount) :: rest) =
      layersFrom foldedSeats (idx + 1) prev rest := by
  rw [layersFrom, if_pos hle]

theorem layersFrom_single (idx : ℕ) (prev : Chips) (l : SeatId × Chips) :
    layersFrom foldedSeats idx prev [l] = [] := by
  obtain ⟨seat, amount⟩ := l
  by_cases hle : amount ≤ prev
  · rw [layersFrom_skip hle, layersFrom]
  · simp [layersFrom, hle]

theorem layersFrom_eq_nil : ∀ {levels : List (SeatId × Chips)} {idx : ℕ} {prev : Chips},
    (levels.Pairwise fun a b => a.2.asU128 ≤ b.2.asU128) → (levels.map Prod.fst).Nodup →
    OneAbove prev.asU128 levels → layersFrom foldedSeats idx prev levels = []
  | [], _, _, _, _, _ => by rw [layersFrom]
  | [l], idx, prev, _, _, _ => layersFrom_single idx prev l
  | (seat, amount) :: l' :: rest, idx, prev, hs, hn, hone => by
    obtain ⟨hmin, hs'⟩ := List.pairwise_cons.1 hs
    rw [List.map_cons, List.nodup_cons] at hn
    have hle : amount ≤ prev := by
      by_contra hlt
      rw [Chips.le_iff, not_le] at hlt
      have hl' := hmin l' List.mem_cons_self
      -- both `seat` and the next level would be above `prev`
      have heq : seat = l'.1 := hone (seat, amount) List.mem_cons_self l' (by simp) hlt
        (Nat.lt_of_lt_of_le hlt hl')
      exact hn.1 (by rw [heq]; simp)
    rw [layersFrom_skip hle]
    exact layersFrom_eq_nil hs' hn.2 ((oneAbove_cons (Chips.le_iff.1 hle)).1 hone)

/-- **A seat below at most one other is a contributor of every layer.** -/
theorem eligible_of_oneAbove {l : SeatId × Chips} (hfold : l.1 ∉ foldedSeats) :
    ∀ {levels : List (SeatId × Chips)} {idx : ℕ} {prev : Chips} {layer : PotLayer},
      (levels.Pairwise fun a b => a.2.asU128 ≤ b.2.asU128) → (levels.map Prod.fst).Nodup →
      l ∈ levels → OneAbove l.2.asU128 levels → layer ∈ layersFrom foldedSeats idx prev levels →
      l.1 ∈ layer.eligibleSeats
  | [], _, _, _, _, _, hl, _, _ => absurd hl List.not_mem_nil
  | [m], idx, prev, layer, _, _, _, _, hlayer => by
    rw [layersFrom_single] at hlayer
    exact absurd hlayer List.not_mem_nil
  | (seat, amount) :: l' :: rest, idx, prev, layer, hs, hn, hl, hone, hlayer => by
    obtain ⟨hmin, hs'⟩ := List.pairwise_cons.1 hs
    have hn' : ((l' :: rest).map Prod.fst).Nodup := (List.nodup_cons.1 hn).2
    -- what the walk adds from the next level on, with `base` covered
    have htail : ∀ base : Chips, amount ≤ base →
        layer ∈ layersFrom foldedSeats (idx + 1) base (l' :: rest) → l.1 ∈ layer.eligibleSeats := by
      intro base hbase hmem
      rcases List.mem_cons.1 hl with rfl | hl
      · -- nothing is left above the first level when `l` is the first level
        have hnil := (oneAbove_cons (Nat.le_refl amount.asU128)).1 hone
        rw [layersFrom_eq_nil hs' hn' (hnil.mono (Chips.le_iff.1 hbase))] at hmem
        exact absurd hmem List.not_mem_nil
      · have hone' : OneAbove l.2.asU128 (l' :: rest) := (oneAbove_cons (hmin l hl)).1 hone
        exact eligible_of_oneAbove hfold hs' hn' hl hone' hmem
    by_cases hle : amount ≤ prev
    · rw [layersFrom_skip hle] at hlayer
      exact htail prev hle hlayer
    · rw [layersFrom_cons (not_le.1 hle) (by simp), List.mem_cons] at hlayer
      rcases hlayer with rfl | hlayer
      · have hmem : l.1 ∈ ((seat, amount) :: l' :: rest).map Prod.fst := List.mem_map_of_mem hl
        rw [List.mem_insertionSort, List.mem_filter, decide_eq_true_iff]
        exact ⟨hmem, hfold⟩
      · exact htail amount (le_refl _) hlayer

/-- **The highest layer**: its contributors are below at most one other seat. -/
theorem exists_top_layer : ∀ {levels : List (SeatId × Chips)} {idx : ℕ} {prev : Chips},
    (levels.Pairwise fun a b => a.2.asU128 ≤ b.2.asU128) → ¬ OneAbove prev.asU128 levels →
    ∃ layer ∈ layersFrom foldedSeats idx prev levels, ∀ s ∈ layer.eligibleSeats,
      s ∉ foldedSeats ∧ ∃ l ∈ levels, l.1 = s ∧ OneAbove l.2.asU128 levels
  | [], _, _, _, h => absurd (fun _ hl => absurd hl List.not_mem_nil) h
  | (seat, amount) :: rest, idx, prev, hs, h => by
    obtain ⟨hmin, hs'⟩ := List.pairwise_cons.1 hs
    -- a layer found further up is the highest one of the whole list too
    have hup : ∀ base : Chips, amount ≤ base → ¬ OneAbove base.asU128 rest →
        ∃ layer ∈ layersFrom foldedSeats (idx + 1) base rest, ∀ s ∈ layer.eligibleSeats,
          s ∉ foldedSeats ∧ ∃ l ∈ (seat, amount) :: rest, l.1 = s ∧
            OneAbove l.2.asU128 ((seat, amount) :: rest) := by
      intro base _ hrest
      obtain ⟨layer, hlayer, helig⟩ := exists_top_layer hs' hrest
      refine ⟨layer, hlayer, fun s hsel => ?_⟩
      obtain ⟨hfold, l, hl, hls, hone⟩ := helig s hsel
      exact ⟨hfold, l, List.mem_cons_of_mem _ hl, hls, (oneAbove_cons (hmin l hl)).2 hone⟩
    by_cases hle : amount ≤ prev
    · rw [layersFrom_skip hle]
      exact hup prev hle fun hone => h ((oneAbove_cons (Chips.le_iff.1 hle)).2 hone)
    · have hrest : rest ≠ [] := by
        rintro rfl
        refine h fun a ha b hb _ _ => ?_
        rw [List.mem_singleton.1 ha, List.mem_singleton.1 hb]
      rw [layersFrom_cons (not_le.1 hle) hrest]
      by_cases hone : OneAbove amount.asU128 rest
      · -- this layer is the highest one
        refine ⟨_, List.mem_cons_self, fun s hsel => ?_⟩
        rw [List.mem_insertionSort, List.mem_filter, decide_eq_true_iff] at hsel
        obtain ⟨hcontrib, hfold⟩ := hsel
        have hmem : s ∈ ((seat, amount) :: rest).map Prod.fst := hcontrib
        obtain ⟨l, hl, hls⟩ := List.mem_map.1 hmem
        have hge : amount.asU128 ≤ l.2.asU128 := by
          rcases List.mem_cons.1 hl with rfl | hl
          · exact Nat.le_refl _
          · exact hmin l hl
        refine ⟨hfold, l, hl, hls, ?_⟩
        exact OneAbove.mono ((oneAbove_cons (Nat.le_refl amount.asU128)).2 hone) hge
      · obtain ⟨layer, hlayer, helig⟩ := hup amount (le_refl _) hone
        exact ⟨layer, List.mem_cons_of_mem _ hlayer, helig⟩

theorem layersFrom_amount_ne_zero : ∀ {levels : List (SeatId × Chips)} {idx : ℕ} {prev : Chips},
    LevelsFrom prev.asU128 levels → sumAbove prev.asU128 levels < 2 ^ 128 →
    ∀ layer ∈ layersFrom foldedSeats idx prev levels, layer.amount ≠ 0
  | [], _, _, _, _, _, hlayer => absurd hlayer (by simp [layersFrom])
  | [l], idx, prev, _, _, layer, hlayer => by
    rw [layersFrom_single] at hlayer
    exact absurd hlayer List.not_mem_nil
  | (seat, amount) :: l' :: rest, idx, prev, h, hlt, layer, hlayer => by
    have hab : prev.asU128 ≤ amount.asU128 := h.above (seat, amount) List.mem_cons_self
    have htail : LevelsFrom amount.asU128 (l' :: rest) := h.tail
    have hraise := sumAbove_raise hab htail.above
    have hsum : sumAbove prev.asU128 ((seat, amount) :: l' :: rest) =
        (amount.asU128 - prev.asU128) + sumAbove prev.asU128 (l' :: rest) := by
      simp [sumAbove]
    by_cases hle : amount ≤ prev
    · rw [layersFrom_skip hle] at hlayer
      exact layersFrom_amount_ne_zero (htail.mono hab) (by omega) layer hlayer
    · rw [layersFrom_cons (not_le.1 hle) (by simp), List.mem_cons] at hlayer
      rcases hlayer with rfl | hlayer
      · have hmul : (amount.asU128 - prev.asU128) * ((l' :: rest).length + 1) =
            (amount.asU128 - prev.asU128) * (l' :: rest).length + (amount.asU128 - prev.asU128) :=
          Nat.mul_succ _ _
        rw [Chips.le_iff] at hle
        rw [Ne, Chips.eq_zero_iff, Chips.asU128_ofU128 (by omega)]
        omega
      · exact layersFrom_amount_ne_zero htail (by omega) layer hlayer

end

/-! ### The layers of a contribution map -/

/-- At most one seat contributed more than `s`. -/
def OneContributesMore (c : HashMap SeatId Chips) (s : SeatId) : Prop :=
  ∀ t u, weight Chips.asU128 c s < weight Chips.asU128 c t →
    weight Chips.asU128 c s < weight Chips.asU128 c u → t = u

/-- At least two seats contributed. -/
def TwoContribute (c : HashMap SeatId Chips) : Prop :=
  ∃ s t, s ≠ t ∧ 0 < weight Chips.asU128 c s ∧ 0 < weight Chips.asU128 c t

theorem exists_level {c : HashMap SeatId Chips} {s : SeatId} (h : 0 < weight Chips.asU128 c s) :
    ∃ a, (s, a) ∈ potLevels c ∧ weight Chips.asU128 c s = a.asU128 := by
  cases hs : c.lookup s with
  | none => rw [weight_of_lookup_none hs] at h; omega
  | some a =>
    rw [weight_of_lookup hs] at h
    exact ⟨a, mem_potLevels.2 ⟨hs, Chips.lt_iff.2 h⟩, weight_of_lookup hs⟩

theorem weight_of_level {c : HashMap SeatId Chips} {l : SeatId × Chips} (h : l ∈ potLevels c) :
    weight Chips.asU128 c l.1 = l.2.asU128 :=
  weight_of_lookup (mem_potLevels.1 h).1

/-- The seats above an amount are the levels above it. -/
theorem oneAbove_potLevels {c : HashMap SeatId Chips} {amount : ℕ} :
    OneAbove amount (potLevels c) ↔
      ∀ t u, amount < weight Chips.asU128 c t → amount < weight Chips.asU128 c u → t = u := by
  constructor
  · intro h t u ht hu
    obtain ⟨a, hat, hwa⟩ := exists_level (show 0 < weight Chips.asU128 c t by omega)
    obtain ⟨b, hbu, hwb⟩ := exists_level (show 0 < weight Chips.asU128 c u by omega)
    rw [hwa] at ht
    rw [hwb] at hu
    exact h (t, a) hat (u, b) hbu ht hu
  · intro h l hl m hm hla hma
    rw [← weight_of_level hl] at hla
    rw [← weight_of_level hm] at hma
    exact h l.1 m.1 hla hma

theorem not_oneAbove_zero {c : HashMap SeatId Chips} (h : TwoContribute c) :
    ¬ OneAbove 0 (potLevels c) := by
  obtain ⟨s, t, hne, hs, ht⟩ := h
  rw [oneAbove_potLevels]
  exact fun hone => hne (hone s t hs ht)

theorem buildPotLayers_eq {c : HashMap SeatId Chips} (h : TwoContribute c)
    (foldedSeats : Finset SeatId) :
    buildPotLayers c foldedSeats = layersFrom foldedSeats 0 0 (potLevels c) := by
  unfold buildPotLayers
  rw [if_neg]
  intro hlen
  obtain ⟨l, hl, m, hm, hne, -⟩ := exists_two_of_not_oneAbove (not_oneAbove_zero h)
  match hlevels : potLevels c, hlen with
  | [], _ =>
    rw [hlevels] at hl
    exact absurd hl List.not_mem_nil
  | [a], _ =>
    rw [hlevels, List.mem_singleton] at hl hm
    exact hne (by rw [hl, hm])

theorem buildPotLayers_amount_ne_zero {c : HashMap SeatId Chips} (h : TwoContribute c)
    (hfit : total Chips.asU128 c < 2 ^ 128) (foldedSeats : Finset SeatId) :
    ∀ layer ∈ buildPotLayers c foldedSeats, layer.amount ≠ 0 := by
  rw [buildPotLayers_eq h]
  rw [← sumAbove_potLevels] at hfit
  exact layersFrom_amount_ne_zero ⟨potLevels_sorted c, fun _ _ => Nat.zero_le _⟩ hfit

theorem buildPotLayers_ne_nil {c : HashMap SeatId Chips} (h : TwoContribute c)
    (foldedSeats : Finset SeatId) : buildPotLayers c foldedSeats ≠ [] := by
  rw [buildPotLayers_eq h]
  obtain ⟨layer, hlayer, -⟩ := @exists_top_layer foldedSeats (potLevels c) 0 0
    (potLevels_sorted c) (not_oneAbove_zero h)
  exact List.ne_nil_of_mem hlayer

/-- If every layer has a seat left to win it, some seat that has not folded is below at most one
other: one of the highest layer. -/
theorem exists_oneContributesMore {c : HashMap SeatId Chips} (h : TwoContribute c)
    {foldedSeats : Finset SeatId}
    (hall : ∀ layer ∈ buildPotLayers c foldedSeats, layer.eligibleSeats ≠ []) :
    ∃ s, s ∉ foldedSeats ∧ OneContributesMore c s := by
  rw [buildPotLayers_eq h] at hall
  obtain ⟨layer, hlayer, htop⟩ := @exists_top_layer foldedSeats (potLevels c) 0 0
    (potLevels_sorted c) (not_oneAbove_zero h)
  obtain ⟨s, hs⟩ := List.exists_mem_of_ne_nil _ (hall layer hlayer)
  obtain ⟨hfold, l, hl, rfl, hone⟩ := htop s hs
  refine ⟨l.1, hfold, ?_⟩
  rw [OneContributesMore, weight_of_level hl]
  exact oneAbove_potLevels.1 hone

/-- Conversely such a seat contributed, and it can win every layer. -/
theorem eligible_everywhere {c : HashMap SeatId Chips} (h : TwoContribute c)
    {foldedSeats : Finset SeatId} {s : SeatId} (hfold : s ∉ foldedSeats)
    (hone : OneContributesMore c s) : 0 < weight Chips.asU128 c s ∧
      ∀ layer ∈ buildPotLayers c foldedSeats, s ∈ layer.eligibleSeats := by
  have hpos : 0 < weight Chips.asU128 c s := by
    by_contra hzero
    obtain ⟨t, u, hne, ht, hu⟩ := h
    exact hne (hone t u (by omega) (by omega))
  refine ⟨hpos, fun layer hlayer => ?_⟩
  rw [buildPotLayers_eq h] at hlayer
  obtain ⟨a, ha, hwa⟩ := exists_level hpos
  refine eligible_of_oneAbove (l := (s, a)) hfold (potLevels_sorted c) (potLevels_nodup c) ha ?_
    hlayer
  rw [oneAbove_potLevels]
  intro t u ht hu
  exact hone t u (by rwa [hwa]) (by rwa [hwa])

end HoldemPlatform.Engine.ContestedLayers
