import HoldemPlatform.Engine.ContestedLayers
import HoldemPlatform.Engine.Run
import Mathlib.Algebra.Order.BigOperators.Group.Finset
import Mathlib.Data.Finset.Sort
import Mathlib.Order.Lattice.Nat

/-!
# The Pot Layers in Closed Form

The walk of `build_pot_layers` goes over the contributions in the order of their amounts. What it leaves
behind depends only on how much each seat put in: one layer for each distinct level that two seats reach,
the rise to it from the level below, paid by every seat that reaches it. The side pots kept in the state
are rebuilt after every accepted action, so in every reachable state they are the layers but the first.
-/

namespace HoldemPlatform.Engine.LayerLevels

open HoldemPlatform.Lib.FiniteMap HoldemPlatform.Lib.Run
open HoldemPlatform.Domain.Money HoldemPlatform.Domain.Game
open HoldemPlatform.Engine.State HoldemPlatform.Engine.Deal HoldemPlatform.Engine.PotLayers
open HoldemPlatform.Engine.ContestedLayers HoldemPlatform.Engine.Turn HoldemPlatform.Engine.Action
open HoldemPlatform.Engine.Showdown HoldemPlatform.Engine.Run

/-! ### The layers of what the seats put in -/

section

variable (w : SeatId → ℕ)

def contributorsAt (level : ℕ) : Finset SeatId := Finset.univ.filter fun s => level ≤ w s

/-- The distinct positive contributions, lowest first. -/
def levels : List ℕ := ((Finset.univ.image w).erase 0).sort (· ≤ ·)

/-- Each level together with the one below it. -/
def rises (base : ℕ) (levels : List ℕ) : List (ℕ × ℕ) := (base :: levels).zip levels

/-- Amount and eligible seats of the layer that one rise makes. -/
def layerOf (foldedSeats : Finset SeatId) (p : ℕ × ℕ) : ℕ × List SeatId :=
  ((p.2 - p.1) * (contributorsAt w p.2).card, sortedSeats (contributorsAt w p.2 \ foldedSeats))

/-- One layer for each level that two seats reach. -/
def layersOf (foldedSeats : Finset SeatId) : List (ℕ × List SeatId) :=
  ((rises 0 (levels w)).filter fun p => 2 ≤ (contributorsAt w p.2).card).map (layerOf w foldedSeats)

/-- What a single highest contributor put in above the second highest contribution. -/
def uniqueTopExcess : ℕ :=
  let top := Finset.univ.sup w
  if (Finset.univ.filter fun s => w s = top).card = 1 then
    top - (Finset.univ.filter fun s => w s < top).sup w
  else 0

variable {w}

theorem mem_contributorsAt {level : ℕ} {s : SeatId} : s ∈ contributorsAt w level ↔ level ≤ w s := by
  simp [contributorsAt]

theorem rises_cons (base a : ℕ) (l : List ℕ) : rises base (a :: l) = (base, a) :: rises a l := rfl

theorem uniqueTopExcess_shared {s t : SeatId} (hne : s ≠ t) (hs : ∀ u, w u ≤ w s) (ht : w t = w s) :
    uniqueTopExcess w = 0 := by
  have htop : Finset.univ.sup w = w s :=
    le_antisymm (Finset.sup_le fun u _ => hs u) (Finset.le_sup (f := w) (Finset.mem_univ s))
  have htwo : 1 < (Finset.univ.filter fun u => w u = w s).card :=
    Finset.one_lt_card.2 ⟨s, by simp, t, by simp [ht], hne⟩
  unfold uniqueTopExcess
  simp only [htop]
  rw [if_neg (by omega)]

theorem uniqueTopExcess_single {t u : SeatId} (hne : u ≠ t) (hlt : w u < w t)
    (h : ∀ s, s ≠ t → w s ≤ w u) : uniqueTopExcess w = w t - w u := by
  have hle : ∀ s, w s ≤ w t := by
    intro s
    by_cases hst : s = t
    · rw [hst]
    · have := h s hst
      omega
  have htop : Finset.univ.sup w = w t :=
    le_antisymm (Finset.sup_le fun s _ => hle s) (Finset.le_sup (f := w) (Finset.mem_univ t))
  have hone : (Finset.univ.filter fun s => w s = w t) = {t} := by
    ext s
    simp only [Finset.mem_filter, Finset.mem_univ, true_and, Finset.mem_singleton]
    constructor
    · intro hs
      by_contra hst
      have := h s hst
      omega
    · rintro rfl
      rfl
  have hsecond : (Finset.univ.filter fun s => w s < w t).sup w = w u := by
    refine le_antisymm (Finset.sup_le fun s hs => ?_) (Finset.le_sup (f := w) (by simp [hlt]))
    have hst : w s < w t := (Finset.mem_filter.1 hs).2
    exact h s (by rintro rfl; omega)
  unfold uniqueTopExcess
  simp only [htop, hone, Finset.card_singleton, if_true, hsecond]

theorem uniqueTopExcess_eq {t u : SeatId} (hne : u ≠ t) (hle : w u ≤ w t)
    (h : ∀ s, s ≠ t → w s ≤ w u) : uniqueTopExcess w = w t - w u := by
  rcases Nat.eq_or_lt_of_le hle with heq | hlt
  · rw [uniqueTopExcess_shared hne (fun s => ?_) heq.symm]
    · omega
    · by_cases hs : s = t
      · rw [hs, heq]
      · exact h s hs
  · exact uniqueTopExcess_single hne hlt h

end

/-! ### The walk -/

/-- Where the walk stands: the contributions not yet passed, and nobody above `base` has been passed. -/
structure Walk (w : SeatId → ℕ) (base : ℕ) (rest : List (SeatId × Chips)) : Prop where
  sorted : rest.Pairwise fun a b => a.2.asU128 ≤ b.2.asU128
  nodup : (rest.map Prod.fst).Nodup
  value : ∀ l ∈ rest, w l.1 = l.2.asU128
  covers : ∀ s, base < w s → s ∈ rest.map Prod.fst

namespace Walk

variable {w : SeatId → ℕ} {base : ℕ} {seat : SeatId} {amount : Chips} {rest : List (SeatId × Chips)}

theorem move (h : Walk w base ((seat, amount) :: rest)) {base' : ℕ} (hbase : base ≤ base')
    (hle : amount.asU128 ≤ base') : Walk w base' rest := by
  refine ⟨(List.pairwise_cons.1 h.sorted).2, (List.nodup_cons.1 h.nodup).2,
    fun l hl => h.value l (List.mem_cons_of_mem _ hl), fun s hs => ?_⟩
  have hmem := h.covers s (by omega)
  rw [List.map_cons, List.mem_cons] at hmem
  have hvalue : w seat = amount.asU128 := h.value (seat, amount) List.mem_cons_self
  refine hmem.resolve_left fun heq => ?_
  have hseat : w s = w seat := congrArg w heq
  omega

theorem contributorsAt_eq (h : Walk w base ((seat, amount) :: rest)) (hlt : base < amount.asU128) :
    contributorsAt w amount.asU128 = (seat :: rest.map Prod.fst).toFinset := by
  ext s
  rw [mem_contributorsAt, List.mem_toFinset]
  constructor
  · intro hs
    exact h.covers s (by omega)
  · intro hs
    obtain ⟨l, hl, rfl⟩ := List.mem_map.1 (show s ∈ ((seat, amount) :: rest).map Prod.fst from hs)
    rw [h.value l hl]
    rcases List.mem_cons.1 hl with rfl | hl
    · exact le_rfl
    · exact (List.pairwise_cons.1 h.sorted).1 l hl

theorem card_contributorsAt (h : Walk w base ((seat, amount) :: rest)) (hlt : base < amount.asU128) :
    (contributorsAt w amount.asU128).card = rest.length + 1 := by
  have hnodup : (seat :: rest.map Prod.fst).Nodup := h.nodup
  rw [h.contributorsAt_eq hlt, List.toFinset_card_of_nodup hnodup, List.length_cons, List.length_map]

theorem eligible_eq (h : Walk w base ((seat, amount) :: rest)) (hlt : base < amount.asU128)
    (foldedSeats : Finset SeatId) :
    ((seat :: rest.map Prod.fst).filter (· ∉ foldedSeats)).insertionSort (· ≤ ·) =
      sortedSeats (contributorsAt w amount.asU128 \ foldedSeats) := by
  refine insertionSort_eq_sortedSeats (h.nodup.filter _) fun s => ?_
  rw [Finset.mem_sdiff, h.contributorsAt_eq hlt, List.mem_toFinset, List.mem_filter, decide_eq_true_iff]

end Walk

/-- The levels above `base` in the order of the walk. -/
def levelsAbove : ℕ → List (SeatId × Chips) → List ℕ
  | _, [] => []
  | base, l :: rest =>
    if l.2.asU128 ≤ base then levelsAbove base rest else l.2.asU128 :: levelsAbove l.2.asU128 rest

theorem mem_levelsAbove : ∀ {rest : List (SeatId × Chips)} {base : ℕ},
    (rest.Pairwise fun a b => a.2.asU128 ≤ b.2.asU128) → ∀ {a : ℕ},
    (a ∈ levelsAbove base rest ↔ base < a ∧ ∃ l ∈ rest, l.2.asU128 = a)
  | [], base, _, a => by simp [levelsAbove]
  | l :: rest, base, hs, a => by
    obtain ⟨hmin, hs'⟩ := List.pairwise_cons.1 hs
    rw [levelsAbove]
    split_ifs with hle
    · rw [mem_levelsAbove hs']
      constructor
      · rintro ⟨hlt, m, hm, hma⟩
        exact ⟨hlt, m, List.mem_cons_of_mem _ hm, hma⟩
      · rintro ⟨hlt, m, hm, hma⟩
        rcases List.mem_cons.1 hm with rfl | hm
        · omega
        · exact ⟨hlt, m, hm, hma⟩
    · rw [List.mem_cons, mem_levelsAbove hs']
      constructor
      · rintro (rfl | ⟨hlt, m, hm, hma⟩)
        · exact ⟨by omega, l, List.mem_cons_self, rfl⟩
        · exact ⟨by omega, m, List.mem_cons_of_mem _ hm, hma⟩
      · rintro ⟨hlt, m, hm, hma⟩
        rcases List.mem_cons.1 hm with rfl | hm
        · exact .inl hma.symm
        · have hml := hmin m hm
          by_cases heq : a = l.2.asU128
          · exact .inl heq
          · exact .inr ⟨by omega, m, hm, hma⟩

theorem pairwise_levelsAbove : ∀ {rest : List (SeatId × Chips)} {base : ℕ},
    (rest.Pairwise fun a b => a.2.asU128 ≤ b.2.asU128) → (levelsAbove base rest).Pairwise (· < ·)
  | [], _, _ => List.Pairwise.nil
  | l :: rest, base, hs => by
    have hs' := (List.pairwise_cons.1 hs).2
    rw [levelsAbove]
    split_ifs with hle
    · exact pairwise_levelsAbove hs'
    · exact List.pairwise_cons.2 ⟨fun a ha => ((mem_levelsAbove hs').1 ha).1, pairwise_levelsAbove hs'⟩

/-- What a layer holds and who can win it. -/
def part (layer : PotLayer) : ℕ × List SeatId := (layer.amount.asU128, layer.eligibleSeats)

section

variable {w : SeatId → ℕ} (foldedSeats : Finset SeatId) (hfits : ∑ s, w s < 2 ^ 128)
include hfits

/-- A layer holds no more than its contributors put in. -/
theorem rise_fits (base level : ℕ) : (level - base) * (contributorsAt w level).card < 2 ^ 128 := by
  have hcard : (contributorsAt w level).card • level ≤ ∑ s ∈ contributorsAt w level, w s :=
    Finset.card_nsmul_le_sum _ _ _ fun s hs => mem_contributorsAt.1 hs
  have hsub : ∑ s ∈ contributorsAt w level, w s ≤ ∑ s, w s :=
    Finset.sum_le_sum_of_subset (Finset.subset_univ _)
  have hmul : (level - base) * (contributorsAt w level).card ≤ (contributorsAt w level).card • level := by
    rw [nsmul_eq_mul, Nat.cast_id, Nat.mul_comm]
    exact Nat.mul_le_mul_left _ (Nat.sub_le _ _)
  omega

/-- **The walk makes one layer for each level ahead that two seats reach.** -/
theorem part_layersFrom : ∀ {rest : List (SeatId × Chips)} {idx : ℕ} {base : Chips},
    Walk w base.asU128 rest →
    (layersFrom foldedSeats idx base rest).map part =
      ((rises base.asU128 (levelsAbove base.asU128 rest)).filter
        fun p => 2 ≤ (contributorsAt w p.2).card).map (layerOf w foldedSeats)
  | [], _, _, _ => by
    rw [layersFrom]
    rfl
  | (seat, amount) :: rest, idx, base, h => by
    rw [levelsAbove]
    by_cases hle : amount.asU128 ≤ base.asU128
    · rw [if_pos hle, layersFrom_skip (Chips.le_iff.2 hle)]
      exact part_layersFrom (h.move le_rfl hle)
    have hlt : base.asU128 < amount.asU128 := Nat.lt_of_not_le hle
    have hcard := h.card_contributorsAt hlt
    have hwalk : Walk w amount.asU128 rest := h.move hlt.le le_rfl
    have hkeep : ((rises base.asU128 (amount.asU128 :: levelsAbove amount.asU128 rest)).filter
        fun p => 2 ≤ (contributorsAt w p.2).card) =
        if 2 ≤ rest.length + 1 then (base.asU128, amount.asU128) ::
          (rises amount.asU128 (levelsAbove amount.asU128 rest)).filter
            fun p => 2 ≤ (contributorsAt w p.2).card
        else (rises amount.asU128 (levelsAbove amount.asU128 rest)).filter
            fun p => 2 ≤ (contributorsAt w p.2).card := by
      rw [rises_cons, List.filter_cons, hcard]
      simp only [decide_eq_true_eq]
    rw [if_neg hle, hkeep]
    cases hrest : rest with
    | nil =>
      -- a level that one seat reaches ends the walk
      rw [layersFrom_single]
      rfl
    | cons l rest' =>
      rw [← hrest]
      have hne : rest ≠ [] := by simp [hrest]
      have htwo : 2 ≤ rest.length + 1 := by
        rw [hrest, List.length_cons]
        omega
      have hfit := rise_fits hfits base.asU128 amount.asU128
      have hpart : layerOf w foldedSeats (base.asU128, amount.asU128) =
          ((amount.asU128 - base.asU128) * (rest.length + 1),
            ((seat :: rest.map Prod.fst).filter (· ∉ foldedSeats)).insertionSort (· ≤ ·)) := by
        rw [layerOf, hcard, h.eligible_eq hlt]
      rw [hcard] at hfit
      rw [layersFrom_cons (Chips.lt_iff.2 hlt) hne, if_pos htwo, List.map_cons, part_layersFrom hwalk,
        List.map_cons, hpart, part, Chips.asU128_ofU128 hfit]

end

theorem isMain_layersFrom (foldedSeats : Finset SeatId) : ∀ {rest : List (SeatId × Chips)} {idx : ℕ}
    {base : Chips}, ∀ layer ∈ layersFrom foldedSeats (idx + 1) base rest, layer.isMain = false
  | [], _, _, layer, hl => by
    rw [layersFrom] at hl
    exact absurd hl List.not_mem_nil
  | (seat, amount) :: rest, idx, base, layer, hl => by
    by_cases hle : amount ≤ base
    · rw [layersFrom_skip hle] at hl
      exact isMain_layersFrom foldedSeats layer hl
    cases hrest : rest with
    | nil =>
      rw [hrest, layersFrom_single] at hl
      exact absurd hl List.not_mem_nil
    | cons l rest' =>
      rw [layersFrom_cons (not_le.1 hle) (by simp [hrest]), List.mem_cons] at hl
      rcases hl with rfl | hl
      · simp
      · exact isMain_layersFrom foldedSeats layer hl

/-! ### The layers of a contribution map -/

section

variable (c : HashMap SeatId Chips)

theorem walk_potLevels : Walk (weight Chips.asU128 c) 0 (potLevels c) := by
  refine ⟨potLevels_sorted c, potLevels_nodup c, fun l hl => weight_of_lookup (mem_potLevels.1 hl).1,
    fun s hs => ?_⟩
  cases hc : c.lookup s with
  | none =>
    rw [weight_of_lookup_none hc] at hs
    omega
  | some a =>
    rw [weight_of_lookup hc] at hs
    exact List.mem_map.2 ⟨(s, a), mem_potLevels.2 ⟨hc, Chips.lt_iff.2 hs⟩, rfl⟩

theorem levelsAbove_potLevels : levelsAbove 0 (potLevels c) = levels (weight Chips.asU128 c) := by
  have hwalk := walk_potLevels c
  have hlt : (levelsAbove 0 (potLevels c)).Pairwise (· < ·) := pairwise_levelsAbove hwalk.sorted
  have hnodup : (levelsAbove 0 (potLevels c)).Nodup := hlt.imp fun h => h.ne
  have hperm : (levelsAbove 0 (potLevels c)).Perm (levels (weight Chips.asU128 c)) := by
    refine (List.perm_ext_iff_of_nodup hnodup (Finset.sort_nodup _ _)).2 fun a => ?_
    rw [mem_levelsAbove hwalk.sorted, Finset.mem_sort, Finset.mem_erase, Finset.mem_image]
    constructor
    · rintro ⟨hpos, l, hl, rfl⟩
      exact ⟨by omega, l.1, Finset.mem_univ _, hwalk.value l hl⟩
    · rintro ⟨hne, s, -, rfl⟩
      obtain ⟨l, hl, rfl⟩ := List.mem_map.1 (hwalk.covers s (by omega))
      exact ⟨by omega, l, hl, (hwalk.value l hl).symm⟩
  exact hperm.eq_of_pairwise' (hlt.imp fun h => h.le) (Finset.pairwise_sort _ _)

variable {c} (foldedSeats : Finset SeatId)

/-- **One layer for each level that two seats reach.** -/
theorem part_buildPotLayers (hfits : ∑ s, weight Chips.asU128 c s < 2 ^ 128) :
    (buildPotLayers c foldedSeats).map part = layersOf (weight Chips.asU128 c) foldedSeats := by
  have hwalk := walk_potLevels c
  have hparts : (layersFrom foldedSeats 0 0 (potLevels c)).map part =
      ((rises 0 (levelsAbove 0 (potLevels c))).filter fun p =>
        2 ≤ (contributorsAt (weight Chips.asU128 c) p.2).card).map
          (layerOf (weight Chips.asU128 c) foldedSeats) := part_layersFrom foldedSeats hfits hwalk
  rw [levelsAbove_potLevels] at hparts
  rw [layersOf, ← hparts]
  unfold buildPotLayers
  split_ifs with hlen
  · match hl : potLevels c, hlen with
    | [], _ => rw [layersFrom]
    | [l], _ => rw [layersFrom_single]
  · rfl

theorem isMain_buildPotLayers {i : ℕ} {layer : PotLayer}
    (h : (buildPotLayers c foldedSeats)[i]? = some layer) : layer.isMain = true ↔ i = 0 := by
  unfold buildPotLayers at h
  split_ifs at h with hlen
  · simp at h
  match hl : potLevels c with
  | [] => simp [hl] at hlen
  | [l] => simp [hl] at hlen
  | (seat, amount) :: l :: rest =>
    have hpos : 0 < amount := (mem_potLevels.1 (hl ▸ List.mem_cons_self :
      (seat, amount) ∈ potLevels c)).2
    rw [hl, layersFrom_cons hpos (by simp)] at h
    cases i with
    | zero =>
      rw [List.getElem?_cons_zero, Option.some.injEq] at h
      simp [← h]
    | succ i =>
      rw [List.getElem?_cons_succ] at h
      rw [isMain_layersFrom foldedSeats layer (List.mem_of_getElem? h)]
      simp

end

/-- The order in which a map is listed does not matter. -/
theorem buildPotLayers_congr {c c' : HashMap SeatId Chips} (foldedSeats : Finset SeatId)
    (hfits : ∑ s, weight Chips.asU128 c s < 2 ^ 128) (h : ∀ s, c.lookup s = c'.lookup s) :
    buildPotLayers c foldedSeats = buildPotLayers c' foldedSeats := by
  have hw : weight Chips.asU128 c = weight Chips.asU128 c' := by
    funext s
    unfold weight
    rw [h s]
  have hparts : (buildPotLayers c foldedSeats).map part = (buildPotLayers c' foldedSeats).map part := by
    rw [part_buildPotLayers foldedSeats hfits, part_buildPotLayers foldedSeats (hw ▸ hfits), hw]
  refine List.ext_getElem? fun i => ?_
  have hi : ((buildPotLayers c foldedSeats)[i]?).map part =
      ((buildPotLayers c' foldedSeats)[i]?).map part := by
    rw [← List.getElem?_map, ← List.getElem?_map, hparts]
  cases hl : (buildPotLayers c foldedSeats)[i]? with
  | none =>
    rw [hl, Option.map_none] at hi
    exact (Option.map_eq_none_iff.1 hi.symm).symm
  | some layer =>
    rw [hl, Option.map_some] at hi
    obtain ⟨layer', hl', hpart⟩ := Option.map_eq_some_iff.1 hi.symm
    have hmain : layer'.isMain = layer.isMain := by
      rw [Bool.eq_iff_iff, isMain_buildPotLayers foldedSeats hl, isMain_buildPotLayers foldedSeats hl']
    obtain ⟨hamount, helig⟩ := Prod.mk.inj hpart
    rw [hl']
    obtain ⟨amount, seats, main⟩ := layer
    obtain ⟨amount', seats', main'⟩ := layer'
    simp only at hamount helig hmain
    rw [Chips.ext hamount, helig, hmain]

/-! ### What is in no layer -/

theorem topExcess_cons {base : ℕ} {l : SeatId × Chips} {rest : List (SeatId × Chips)}
    (h : rest ≠ []) : topExcess base (l :: rest) = topExcess (max base l.2.asU128) rest := by
  cases rest with
  | nil => exact absurd rfl h
  | cons l' rest => rw [topExcess]

/-- The top against the level below it. -/
theorem topExcess_append : ∀ {l : List (SeatId × Chips)} {base : ℕ} {x y : SeatId × Chips},
    ((l ++ [x, y]).Pairwise fun a b => a.2.asU128 ≤ b.2.asU128) →
    topExcess base (l ++ [x, y]) = y.2.asU128 - max base x.2.asU128
  | [], _, _, _, _ => rfl
  | a :: l, base, x, y, h => by
    obtain ⟨hmin, h'⟩ := List.pairwise_cons.1 h
    have hax := hmin x (by simp)
    rw [List.cons_append, topExcess_cons (by simp), topExcess_append h']
    omega

theorem Walk.eq_zero {w : SeatId → ℕ} {rest : List (SeatId × Chips)} (h : Walk w 0 rest) {s : SeatId}
    (hs : s ∉ rest.map Prod.fst) : w s = 0 :=
  Nat.eq_zero_of_not_pos fun hpos => hs (h.covers s hpos)

/-- Every seat but the last one listed is at most at the level of the one before it. -/
theorem Walk.le_second {w : SeatId → ℕ} {front : List (SeatId × Chips)} {x y : SeatId × Chips}
    (h : Walk w 0 (front ++ [x, y])) {s : SeatId} (hs : s ≠ y.1) : w s ≤ w x.1 := by
  by_cases hmem : s ∈ (front ++ [x, y]).map Prod.fst
  · obtain ⟨l, hl, rfl⟩ := List.mem_map.1 hmem
    rw [h.value l hl, h.value x (by simp)]
    rcases List.mem_append.1 hl with hl | hl
    · exact (List.pairwise_append.1 h.sorted).2.2 l hl x (by simp)
    · rcases List.mem_cons.1 hl with rfl | hl
      · exact le_rfl
      · exact absurd (congrArg Prod.fst (List.mem_singleton.1 hl)) hs
  · rw [h.eq_zero hmem]
    omega

/-- **The walk leaves out what a single top contributor put in above the second highest level.** -/
theorem topExcess_eq (c : HashMap SeatId Chips) :
    topExcess 0 (potLevels c) = uniqueTopExcess (weight Chips.asU128 c) := by
  have hwalk := walk_potLevels c
  generalize potLevels c = rest at hwalk
  generalize weight Chips.asU128 c = w at hwalk
  rcases List.eq_nil_or_concat rest with rfl | ⟨front, y, rfl⟩
  · have hall : ∀ s, w s = 0 := fun s => hwalk.eq_zero (by simp)
    rw [uniqueTopExcess_eq (t := 0) (u := 1) (by decide) (by rw [hall, hall])
      fun s _ => by rw [hall, hall], hall, hall]
    rfl
  have hy : w y.1 = y.2.asU128 := hwalk.value y (by simp)
  rcases List.eq_nil_or_concat front with rfl | ⟨front, x, rfl⟩
  · -- one contributor: any other seat is second, with nothing
    obtain ⟨u, hu⟩ := exists_ne y.1
    have hother : ∀ s, s ≠ y.1 → w s = 0 := fun s hs => hwalk.eq_zero (by simpa using hs)
    have hzero := hother u hu
    rw [uniqueTopExcess_eq hu (by omega) fun s hs => by rw [hother s hs, hzero], hzero, hy]
    rfl
  have hlist : (front ++ [x]) ++ [y] = front ++ [x, y] := by simp
  rw [List.concat_eq_append, List.concat_eq_append, hlist] at hwalk ⊢
  have hx : w x.1 = x.2.asU128 := hwalk.value x (by simp)
  have hne : x.1 ≠ y.1 := by
    have hnodup := hwalk.nodup
    rw [List.map_append, List.nodup_append] at hnodup
    simpa using hnodup.2.1
  have hxy : x.2.asU128 ≤ y.2.asU128 := by
    have hsorted := (List.pairwise_append.1 hwalk.sorted).2.1
    simpa using hsorted
  have hexcess : uniqueTopExcess w = w y.1 - w x.1 :=
    uniqueTopExcess_eq hne (by omega) fun s hs => hwalk.le_second hs
  rw [topExcess_append hwalk.sorted, hexcess, hx, hy]
  omega

/-! ### The side pots that are kept -/

section

variable {Card : Type}

/-- The side pots of the state are those of its contributions. -/
def SidePotsFresh (st : EngineState Card) : Prop :=
  st.pot.sidePots = buildSidePots st.pot.playerContributions st.hand.foldedSeats

theorem potLevels_blinds {sb bb : SeatId} (hne : sb ≠ bb) :
    potLevels (blinds sb bb) = [(sb, DEFAULT_SMALL_BLIND), (bb, DEFAULT_BIG_BLIND)] := by
  have hfresh : bb ∉ AList.insert sb DEFAULT_SMALL_BLIND (∅ : HashMap SeatId Chips) := by
    rw [AList.mem_insert]
    rintro (h | h)
    · exact hne h.symm
    · exact AList.notMem_empty bb h
  have hpairs : pairs (blinds sb bb) = [(bb, DEFAULT_BIG_BLIND), (sb, DEFAULT_SMALL_BLIND)] := by
    unfold pairs blinds
    rw [AList.entries_insert_of_notMem hfresh, AList.entries_insert_of_notMem (AList.notMem_empty sb)]
    rfl
  have hamounts : 0 < DEFAULT_SMALL_BLIND ∧ 0 < DEFAULT_BIG_BLIND ∧
      ¬ DEFAULT_BIG_BLIND.asU128 ≤ DEFAULT_SMALL_BLIND.asU128 := by
    decide
  unfold potLevels
  rw [hpairs]
  simp [hamounts.1, hamounts.2.1, hamounts.2.2]

theorem buildSidePots_blinds {sb bb : SeatId} (hne : sb ≠ bb) (foldedSeats : Finset SeatId) :
    buildSidePots (blinds sb bb) foldedSeats = [] := by
  have hpos : (0 : Chips) < DEFAULT_SMALL_BLIND := by decide
  unfold buildSidePots buildPotLayers
  rw [potLevels_blinds hne, if_neg (by simp), layersFrom_cons hpos (by simp), layersFrom_single]
  rfl

theorem sidePotsFresh_applyAction [RsPoker Card] {st st' : EngineState Card} {action : PlayerAction}
    {result : EngineActionResult} (h : applyAction st action = (st', .ok result)) :
    SidePotsFresh st' := by
  unfold applyAction at h
  split_ifs at h with hseq hturn
  · cases h
  · cases h
  split at h
  · cases h
  rename_i mid reset hplace
  have hframe := (turn_cases (closeAction mid action.seatId reset) action.seatId).frame
  generalize advanceTurn (closeAction mid action.seatId reset) action.seatId = r at h hframe
  cases h
  unfold SidePotsFresh
  rw [hframe.pot, hframe.foldedSeats]
  rfl

/-- **A step leaves the side pots fresh.** -/
theorem sidePotsFresh_step [RsPoker Card] (st : EngineState Card) (op : EngineOp Card)
    (h : EngineInv st ∧ SidePotsFresh st) :
    EngineInv (engineStep st op) ∧ SidePotsFresh (engineStep st op) := by
  refine ⟨engineInv_step st op h.1, ?_⟩
  cases op with
  | seatPlayer seatId => exact h.2
  | deal newHandId deck =>
    rw [engineStep]
    rcases deal_cases st newHandId deck with ⟨e, he⟩ | ⟨dealing, sb, bb, first, hd, hbs, -⟩
    · rw [he]
      exact h.2
    · rw [hd]
      exact (buildSidePots_blinds hbs.ne _).symm
  | act action =>
    rw [engineStep]
    rcases applyAction_cases h.1.pot action with ⟨-, st', result, happ, -⟩ | ⟨-, round, e, happ⟩
    · rw [happ]
      exact sidePotsFresh_applyAction happ
    · rw [happ]
      exact h.2

theorem sidePotsFresh_of_reachable [RsPoker Card] {st : EngineState Card} (h : Reachable st) :
    SidePotsFresh st := by
  obtain ⟨roomId, handNo, handId, ops, rfl⟩ := h
  have hnew : SidePotsFresh (EngineState.new roomId handNo handId : EngineState Card) := rfl
  exact (run_inv (fun st => EngineInv st ∧ SidePotsFresh st) sidePotsFresh_step ops
    ⟨engineInv_new roomId handNo handId, hnew⟩).2

/-- What the layers of a hand have to be. -/
structure LayersCorrect (w : SeatId → ℕ) (foldedSeats : Finset SeatId) (layers : List PotLayer) :
    Prop where
  parts : layers.map part = layersOf w foldedSeats
  main : ∀ i layer, layers[i]? = some layer → (layer.isMain = true ↔ i = 0)
  sum : (layers.map fun l => l.amount.asU128).sum + uniqueTopExcess w = ∑ s, w s

theorem layersCorrect_buildPotLayers {c : HashMap SeatId Chips} (foldedSeats : Finset SeatId)
    (hfits : ∑ s, weight Chips.asU128 c s < 2 ^ 128) :
    LayersCorrect (weight Chips.asU128 c) foldedSeats (buildPotLayers c foldedSeats) := by
  refine ⟨part_buildPotLayers foldedSeats hfits, fun i layer => isMain_buildPotLayers foldedSeats, ?_⟩
  rw [← total_eq_sum] at hfits ⊢
  rw [← topExcess_eq]
  exact sum_buildPotLayers foldedSeats hfits

/-- **The layers are those of the contributions, however the map is listed, and the side pots kept in a
reachable state are all of them but the main one.** -/
theorem pot_layering (c : HashMap SeatId Chips) (foldedSeats : Finset SeatId)
    (hfits : ∑ s, weight Chips.asU128 c s < 2 ^ 128) [RsPoker Card] (st : EngineState Card)
    (hreach : Reachable st) :
    LayersCorrect (weight Chips.asU128 c) foldedSeats (buildPotLayers c foldedSeats) ∧
      (∀ c' : HashMap SeatId Chips, (∀ s, c.lookup s = c'.lookup s) →
        buildPotLayers c foldedSeats = buildPotLayers c' foldedSeats) ∧
      st.pot.sidePots = ((potLayers st).filter fun layer => !layer.isMain).map
        fun layer => { amount := layer.amount, eligibleSeats := layer.eligibleSeats } :=
  ⟨layersCorrect_buildPotLayers foldedSeats hfits, fun _ => buildPotLayers_congr foldedSeats hfits,
    sidePotsFresh_of_reachable hreach⟩

end

/-- Three seats, all-in for different amounts. -/
def threeAllIn : List (EngineOp ByteCard) :=
  [.seatPlayer 0, .seatPlayer 1, .seatPlayer 2, .deal ⟨1⟩ (royalDeckFor 3),
    .act (headsUpAction 1 0 .allIn (some (.ofU128 1000000000000000))),
    .act (headsUpAction 2 1 .allIn (some (.ofU128 3000000000000000))),
    .act (headsUpAction 3 2 .allIn (some (.ofU128 2000000000000000)))]

/-- Their state: one side pot, of the two seats with more. -/
def threeAllInState : EngineState ByteCard := run engineStep (EngineState.new ⟨0⟩ 1 ⟨0⟩) threeAllIn

theorem threeAllIn_layering :
    LayersCorrect (weight Chips.asU128 threeAllInState.pot.playerContributions) ∅
        (buildPotLayers threeAllInState.pot.playerContributions ∅) ∧
      threeAllInState.pot.sidePots = ((potLayers threeAllInState).filter fun layer => !layer.isMain).map
        (fun layer => { amount := layer.amount, eligibleSeats := layer.eligibleSeats }) ∧
      threeAllInState.pot.sidePots =
        [{ amount := .ofU128 2000000000000000, eligibleSeats := [1, 2] }] := by
  have heval : ∑ s, weight Chips.asU128 threeAllInState.pot.playerContributions s < 2 ^ 128 ∧
      threeAllInState.pot.sidePots =
        [{ amount := .ofU128 2000000000000000, eligibleSeats := [1, 2] }] := by
    decide +kernel
  obtain ⟨hlayers, -, hside⟩ := pot_layering threeAllInState.pot.playerContributions ∅ heval.1
    threeAllInState ⟨⟨0⟩, 1, ⟨0⟩, threeAllIn, rfl⟩
  exact ⟨hlayers, hside, heval.2⟩

end HoldemPlatform.Engine.LayerLevels
