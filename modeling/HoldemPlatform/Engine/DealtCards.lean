import HoldemPlatform.Engine.Deal

/-!
# Which Card Goes Where

The deal takes the cards from the top of the deck: one card a seat, a second card a seat, then burn, flop,
burn, turn, burn and river. A seat's first card fills both places of its pair and the second round writes
the second place. So the cards of the hand are the cards of the deck, each in its place, and a deck
without repetitions is dealt without repetitions.
-/

namespace HoldemPlatform.Engine.DealtCards

open HoldemPlatform.Lib.FiniteMap HoldemPlatform.Domain.Game HoldemPlatform.Engine.State
open HoldemPlatform.Engine.Deal

variable {Card : Type}

/-- **A round gives the next cards to the seats in order.** -/
theorem dealRound_lookup : ∀ {seats : List SeatId} (deck : List Card)
    (holeCards : HashMap SeatId (Card × Card)), seats.Nodup → seats.length ≤ deck.length →
    ∃ holeCards', dealRound seats deck holeCards = .ok (deck.drop seats.length, holeCards') ∧
      (∀ (i : Nat) s card, seats[i]? = some s → deck[i]? = some card →
        holeCards'.lookup s = some (pairAfter (holeCards.lookup s) card)) ∧
      ∀ s ∉ seats, holeCards'.lookup s = holeCards.lookup s
  | [], deck, holeCards, _, _ => ⟨holeCards, rfl, by simp, by simp⟩
  | seat :: seats, [], holeCards, _, hlen => by simp at hlen
  | seat :: seats, top :: deck, holeCards, hnodup, hlen => by
    obtain ⟨hseat, hnodup⟩ := List.nodup_cons.1 hnodup
    obtain ⟨holeCards', hround, hin, hout⟩ := dealRound_lookup deck
      (holeCards.insert seat (pairAfter (holeCards.lookup seat) top)) hnodup (by simpa using hlen)
    refine ⟨holeCards', by rw [dealRound_cons]; exact hround, fun i s card hs hcard => ?_, fun s hs => ?_⟩
    · cases i with
      | zero =>
        cases hs
        cases hcard
        rw [hout seat hseat, AList.lookup_insert]
      | succ i =>
        rw [List.getElem?_cons_succ] at hs hcard
        have hne : s ≠ seat := fun heq => hseat (heq ▸ List.mem_of_getElem? hs)
        rw [hin i s card hs hcard, AList.lookup_insert_ne hne]
    · rw [List.mem_cons, not_or] at hs
      rw [hout s hs.2, AList.lookup_insert_ne hs.1]

/-- **Two rounds**: the first cards of the seats, then their second cards. -/
theorem dealRounds_lookup {seats : List SeatId} (deck : List Card) (hnodup : seats.Nodup)
    (hlen : seats.length * 2 ≤ deck.length) :
    ∃ once twice, dealRound seats deck ∅ = .ok (deck.drop seats.length, once) ∧
      dealRound seats (deck.drop seats.length) once = .ok (deck.drop (2 * seats.length), twice) ∧
      ∀ s cards, twice.lookup s = some cards ↔ ∃ i : Nat, seats[i]? = some s ∧
        deck[i]? = some cards.1 ∧ deck[seats.length + i]? = some cards.2 := by
  obtain ⟨once, hround, hin, hout⟩ := dealRound_lookup deck ∅ hnodup (by omega)
  obtain ⟨twice, hround', hin', hout'⟩ := dealRound_lookup (deck.drop seats.length) once hnodup
    (by rw [List.length_drop]; omega)
  rw [List.drop_drop, ← Nat.two_mul] at hround'
  have hpair : ∀ {i s first second}, seats[i]? = some s → deck[i]? = some first →
      deck[seats.length + i]? = some second → twice.lookup s = some (first, second) := by
    intro i s first second hs hfirst hsecond
    rw [hin' i s second hs (by rw [List.getElem?_drop]; exact hsecond), hin i s first hs hfirst]
    rfl
  refine ⟨once, twice, hround, hround', fun s cards => ⟨fun hlookup => ?_, ?_⟩⟩
  · have hmem : s ∈ seats := by
      by_contra hs
      rw [hout' s hs, hout s hs] at hlookup
      cases hlookup
    obtain ⟨i, hi⟩ := List.mem_iff_getElem?.1 hmem
    have hilt : i < seats.length := (List.getElem?_eq_some_iff.1 hi).1
    obtain ⟨first, hfirst⟩ : ∃ first, deck[i]? = some first :=
      ⟨_, List.getElem?_eq_getElem (show i < deck.length by omega)⟩
    obtain ⟨second, hsecond⟩ : ∃ second, deck[seats.length + i]? = some second :=
      ⟨_, List.getElem?_eq_getElem (show seats.length + i < deck.length by omega)⟩
    rw [hpair hi hfirst hsecond] at hlookup
    cases hlookup
    exact ⟨i, hi, hfirst, hsecond⟩
  · rintro ⟨i, hs, hfirst, hsecond⟩
    exact hpair hs hfirst hsecond

/-! ### All cards -/

/-- All cards of a hand: hole cards, burned cards, the board and the rest of the deck. -/
def allCards (dealing : DealingState Card) : List Card :=
  (pairs dealing.holeCards).flatMap (fun p => [p.2.1, p.2.2]) ++ dealing.burnCards ++
    dealing.boardCards ++ dealing.undealtDeck

/-- The cards of the pairs are those of the two rounds. -/
theorem flatMap_zip_perm {K : Type} : ∀ {keys : List K} {first second : List Card},
    first.length = keys.length → second.length = keys.length →
    ((keys.zip (first.zip second)).flatMap fun p => [p.2.1, p.2.2]).Perm (first ++ second)
  | [], [], [], _, _ => .refl _
  | key :: keys, a :: first, b :: second, hfirst, hsecond => by
    rw [List.zip_cons_cons, List.zip_cons_cons, List.flatMap_cons]
    have ih := flatMap_zip_perm (Nat.succ.inj hfirst) (Nat.succ.inj hsecond)
    exact ((ih.cons b).trans List.perm_middle.symm).cons a

theorem holeCards_perm {seats : List SeatId} {deck : List Card} {holeCards : HashMap SeatId (Card × Card)}
    (hnodup : seats.Nodup) (hlen : seats.length * 2 ≤ deck.length)
    (hlookup : ∀ s cards, holeCards.lookup s = some cards ↔ ∃ i : Nat, seats[i]? = some s ∧
      deck[i]? = some cards.1 ∧ deck[seats.length + i]? = some cards.2) :
    ((pairs holeCards).flatMap fun p => [p.2.1, p.2.2]).Perm (deck.take (2 * seats.length)) := by
  have hfirst : (deck.take seats.length).length = seats.length := by
    rw [List.length_take]
    omega
  have hsecond : ((deck.drop seats.length).take seats.length).length = seats.length := by
    rw [List.length_take, List.length_drop]
    omega
  have hzip : (pairs holeCards).Perm
      (seats.zip ((deck.take seats.length).zip ((deck.drop seats.length).take seats.length))) := by
    refine (List.perm_ext_iff_of_nodup (.of_map Prod.fst (nodup_pairs_fst holeCards)) ?_).2 fun p => ?_
    · refine .of_map Prod.fst ?_
      rw [List.map_fst_zip (by rw [List.length_zip]; omega)]
      exact hnodup
    · obtain ⟨s, cards⟩ := p
      rw [mem_pairs, hlookup, List.mem_iff_getElem?]
      refine exists_congr fun i => ?_
      rw [List.getElem?_zip_eq_some, List.getElem?_zip_eq_some]
      refine and_congr_right fun hs => ?_
      have hi : i < seats.length := (List.getElem?_eq_some_iff.1 hs).1
      rw [List.getElem?_take_of_lt hi, List.getElem?_take_of_lt hi, List.getElem?_drop]
  refine (hzip.flatMap_right _).trans ((flatMap_zip_perm hfirst hsecond).trans ?_)
  rw [Nat.two_mul, List.take_add]

/-- Where the cards of a deck end up, for seats in the order in which they are served. -/
structure DealtFrom (seats : List SeatId) (deck : List Card) (dealing : DealingState Card) : Prop where
  holeCards : ∀ s cards, dealing.holeCards.lookup s = some cards ↔ ∃ i : Nat, seats[i]? = some s ∧
    deck[i]? = some cards.1 ∧ deck[seats.length + i]? = some cards.2
  burnCards : dealing.burnCards.map some =
    [2 * seats.length, 2 * seats.length + 4, 2 * seats.length + 6].map fun i => deck[i]?
  boardCards : dealing.boardCards.map some =
    [2 * seats.length + 1, 2 * seats.length + 2, 2 * seats.length + 3, 2 * seats.length + 5,
      2 * seats.length + 7].map fun i => deck[i]?
  undealtDeck : dealing.undealtDeck = deck.drop (2 * seats.length + 8)
  perm : (allCards dealing).Perm deck

theorem DealtFrom.length_boardCards {seats : List SeatId} {deck : List Card} {dealing : DealingState Card}
    (h : DealtFrom seats deck dealing) : dealing.boardCards.length = 5 := by
  have hlen := congrArg List.length h.boardCards
  rwa [List.length_map, List.length_map] at hlen

/-- **The cards of a deal, place by place.** -/
theorem dealtFrom_dealCards {seats : List SeatId} {deck : List Card} {dealing : DealingState Card}
    (hnodup : seats.Nodup) (hlen : seats.length * 2 + 8 ≤ deck.length)
    (h : dealCards seats deck = .ok dealing) : DealtFrom seats deck dealing := by
  obtain ⟨once, twice, hround, hround', hlookup⟩ := dealRounds_lookup deck hnodup (by omega)
  have hrest : 8 ≤ (deck.drop (2 * seats.length)).length := by
    rw [List.length_drop]
    omega
  have hplace : ∀ i, deck[2 * seats.length + i]? = (deck.drop (2 * seats.length))[i]? :=
    fun i => List.getElem?_drop.symm
  have hplace₀ : deck[2 * seats.length]? = (deck.drop (2 * seats.length))[0]? := hplace 0
  have hdrop : deck.drop (2 * seats.length + 8) = (deck.drop (2 * seats.length)).drop 8 := by
    rw [List.drop_drop]
  have hperm := holeCards_perm hnodup (by omega) hlookup
  have hdeck : deck.take (2 * seats.length) ++ deck.drop (2 * seats.length) = deck :=
    List.take_append_drop _ _
  match hcards : deck.drop (2 * seats.length), hrest with
  | b1 :: f1 :: f2 :: f3 :: b2 :: t :: b3 :: r :: rest, _ =>
    have hdealing : dealCards seats deck = .ok ⟨rest, [b1, b2, b3], [f1, f2, f3, t, r], twice⟩ := by
      simp only [dealCards, hround, hround', hcards, nextCard, Except.bind, bind]
    rw [hdealing] at h
    cases h
    rw [hcards] at hplace hplace₀ hdrop hdeck
    refine ⟨hlookup, ?_, ?_, hdrop.symm, ?_⟩
    · simp [hplace, hplace₀]
    · simp [hplace]
    · -- burned cards and board change places
      have hmoved : ([b1, b2, b3] ++ ([f1, f2, f3, t, r] ++ rest)).Perm
          (b1 :: f1 :: f2 :: f3 :: b2 :: t :: b3 :: r :: rest) := by
        classical
        refine List.perm_iff_count.2 fun c => ?_
        simp only [List.cons_append, List.nil_append, List.count_cons]
        omega
      have hall := hperm.append hmoved
      rw [hdeck] at hall
      simpa [allCards] using hall

section

variable [RsPoker Card]

/-- **A deal is exact and atomic**: it is refused and changes nothing, or the cards of the deck are dealt
to the seats in increasing order, each from its place, and no card twice. -/
theorem deal_exact_atomic (st : EngineState Card) (newHandId : HandId) (deck : List Card) :
    (∃ e, dealNewHandInternalWithDeck st newHandId deck = (st, .error e)) ∨
    ∃ st' dealing, dealNewHandInternalWithDeck st newHandId deck = (st', .ok ()) ∧
      st'.dealing = some dealing ∧ 2 ≤ (sortedSeats st.hand.seatedPlayers).length ∧
      (sortedSeats st.hand.seatedPlayers).Pairwise (· < ·) ∧
      (∀ s, s ∈ sortedSeats st.hand.seatedPlayers ↔ s ∈ st.hand.seatedPlayers) ∧
      DealtFrom (sortedSeats st.hand.seatedPlayers) deck dealing ∧ (allCards dealing).Nodup := by
  rcases deal_details st newHandId deck with herror | ⟨dealing, sb, bb, first, hd, hdealt⟩
  · exact .inl herror
  · have hfrom := dealtFrom_dealCards (nodup_sortedSeats _) hdealt.enough hdealt.cards
    refine .inr ⟨_, dealing, hd, rfl, hdealt.seats, pairwise_sortedSeats _, fun s => mem_sortedSeats,
      hfrom, ?_⟩
    rw [hfrom.perm.nodup_iff]
    exact .of_map RsPoker.toU8 hdealt.unique

end

end HoldemPlatform.Engine.DealtCards
