import HoldemPlatform.Engine.State

/-!
# Dealing a New Hand

`deal_new_hand_internal_with_deck` checks the seats and the deck, deals the cards, and opens the
hand: it resets the snapshot, the betting round and the pot, and posts the blinds. The sets of folded
and all-in seats are not among what it resets. The deck and the fresh hand identifier are arguments.
`deal_details` says everything a deal can do: it refuses and changes nothing, or it ends in `dealtState`.
-/

namespace HoldemPlatform.Engine.Deal

open HoldemPlatform.Lib.FiniteMap HoldemPlatform.Domain.Money HoldemPlatform.Domain.Game
open HoldemPlatform.Engine.State

variable {Card : Type}

def DEFAULT_SMALL_BLIND : Chips := ⟨100000000000000, by norm_num⟩

def DEFAULT_BIG_BLIND : Chips := ⟨200000000000000, by norm_num⟩

/-- `add_contribution`, on the map of contributions, the only part of the state it touches. -/
def addContribution (contributions : HashMap SeatId Chips) (seatId : SeatId) (delta : Chips) :
    Except EngineError (HashMap SeatId Chips) :=
  if delta = 0 then .ok contributions
  else
    match ((contributions.lookup seatId).getD 0).checkedAdd delta with
    | .error e => .error (.money e)
    | .ok next => .ok (contributions.insert seatId next)

def stateDealerIndex (handNo seatCount : ℕ) : ℕ :=
  if seatCount = 0 then 0 else (handNo - 1) % seatCount

/-- `blinds_and_first_to_act`: small blind, big blind, first seat to act. -/
def blindsAndFirstToAct (st : EngineState Card) (seatsSorted : List SeatId) :
    Option (SeatId × SeatId × SeatId) :=
  let n := seatsSorted.length
  if n < 2 then none
  else
    let dealerIdx := stateDealerIndex st.snapshot.handNo n
    if n = 2 then do
      let sb ← seatsSorted[dealerIdx]?
      let bb ← seatsSorted[(dealerIdx + 1) % n]?
      some (sb, bb, sb)
    else do
      let sb ← seatsSorted[(dealerIdx + 1) % n]?
      let bb ← seatsSorted[(dealerIdx + 2) % n]?
      let first ← seatsSorted[(dealerIdx + 3) % n]?
      some (sb, bb, first)

/-! ### The cards -/

/-- `iter.next().ok_or(InsufficientDeck)`. -/
def nextCard : List Card → Except EngineError (Card × List Card)
  | [] => .error .insufficientDeck
  | card :: deck => .ok (card, deck)

/-- One round of the deal: a seat's first card fills both places of its pair. -/
def dealRound : List SeatId → List Card → HashMap SeatId (Card × Card) →
    Except EngineError (List Card × HashMap SeatId (Card × Card))
  | [], deck, holeCards => .ok (deck, holeCards)
  | seat :: seats, deck, holeCards => do
    let (card, deck) ← nextCard deck
    match holeCards.lookup seat with
    | some pair => dealRound seats deck (holeCards.insert seat (pair.1, card))
    | none => dealRound seats deck (holeCards.insert seat (card, card))

/-- Two rounds of hole cards, then burn, flop, burn, turn, burn, river. -/
def dealCards (seats : List SeatId) (deck : List Card) :
    Except EngineError (DealingState Card) := do
  let (deck, holeCards) ← dealRound seats deck ∅
  let (deck, holeCards) ← dealRound seats deck holeCards
  let (burn1, deck) ← nextCard deck
  let (flop1, deck) ← nextCard deck
  let (flop2, deck) ← nextCard deck
  let (flop3, deck) ← nextCard deck
  let (burn2, deck) ← nextCard deck
  let (turn, deck) ← nextCard deck
  let (burn3, deck) ← nextCard deck
  let (river, deck) ← nextCard deck
  .ok { undealtDeck := deck, burnCards := [burn1, burn2, burn3],
        boardCards := [flop1, flop2, flop3, turn, river], holeCards }

/-! ### Opening the hand -/

/-- The resets of a new hand; the folded and all-in seats are left as they are. -/
def openHand (st : EngineState Card) (newHandId : HandId) (firstToAct : SeatId) :
    EngineState Card where
  snapshot :=
    { st.snapshot with
      handId := newHandId, nextActionSeq := 1, status := .running, street := .preflop,
      boardCards := [], actingSeatId := some firstToAct }
  hand :=
    { st.hand with
      handId := newHandId, nextActionSeq := 1, street := .preflop, actingSeatId := some firstToAct }
  bettingRound :=
    { currentBet := DEFAULT_BIG_BLIND
      minRaiseTo := some (DEFAULT_BIG_BLIND.addOr DEFAULT_BIG_BLIND DEFAULT_BIG_BLIND)
      actingSeatId := some firstToAct, playerBets := ∅, actedSeats := ∅ }
  pot := { mainPot := 0, sidePots := [], playerContributions := ∅ }
  dealing := st.dealing

def betBlinds (st : EngineState Card) (smallBlindSeat bigBlindSeat : SeatId) : EngineState Card :=
  { st with
    bettingRound :=
      { st.bettingRound with
        playerBets :=
          (st.bettingRound.playerBets.insert smallBlindSeat DEFAULT_SMALL_BLIND).insert
            bigBlindSeat DEFAULT_BIG_BLIND } }

def postBlinds (st : EngineState Card) (smallBlindSeat bigBlindSeat : SeatId) :
    EngineState Card × Except EngineError Unit :=
  match addContribution st.pot.playerContributions smallBlindSeat DEFAULT_SMALL_BLIND with
  | .error e => (betBlinds st smallBlindSeat bigBlindSeat, .error e)
  | .ok small =>
    match addContribution small bigBlindSeat DEFAULT_BIG_BLIND with
    | .error e =>
      ({ betBlinds st smallBlindSeat bigBlindSeat with
          pot := { st.pot with playerContributions := small } }, .error e)
    | .ok both =>
      match DEFAULT_SMALL_BLIND.checkedAdd DEFAULT_BIG_BLIND with
      | .error e =>
        ({ betBlinds st smallBlindSeat bigBlindSeat with
            pot := { st.pot with playerContributions := both } }, .error (.money e))
      | .ok mainPot =>
        ({ betBlinds st smallBlindSeat bigBlindSeat with
            pot := { st.pot with mainPot, playerContributions := both }
            snapshot := { st.snapshot with potTotal := mainPot } }, .ok ())

/-- The hand number of the next hand: the first deal keeps the initial one. -/
def nextHandNo (st : EngineState Card) : EngineState Card :=
  if st.snapshot.status = .created then st
  else { st with snapshot := { st.snapshot with handNo := saturatingAdd 64 st.snapshot.handNo 1 } }

def dealNewHandInternalWithDeck [RsPoker Card] (st : EngineState Card) (newHandId : HandId)
    (deck : List Card) : EngineState Card × Except EngineError Unit :=
  let seats := sortedSeats st.hand.seatedPlayers
  if seats.length < 2 then (st, .error .notEnoughPlayersToDeal)
  else if (deck.map RsPoker.toU8).dedup.length ≠ deck.length then
    (st, .error .duplicateCardsInDeck)
  else if deck.length < seats.length * 2 + 8 then (st, .error .insufficientDeck)
  else
    let st := nextHandNo st
    match dealCards seats deck with
    | .error e => (st, .error e)
    | .ok dealing =>
      let st := { st with dealing := some dealing }
      match blindsAndFirstToAct st seats with
      | none => (st, .error .notEnoughPlayersToDeal)
      | some (smallBlindSeat, bigBlindSeat, firstToAct) =>
        postBlinds (openHand st newHandId firstToAct) smallBlindSeat bigBlindSeat

/-! ### Contributions -/

theorem total_addContribution {c c' : HashMap SeatId Chips} {seatId : SeatId} {delta : Chips}
    (h : addContribution c seatId delta = .ok c') :
    total Chips.asU128 c' = total Chips.asU128 c + delta.asU128 := by
  unfold addContribution at h
  split_ifs at h with h0
  · cases h
    simp [h0]
  · split at h
    · cases h
    · rename_i next hnext
      cases h
      have hins := total_insert Chips.asU128 c seatId next
      have hw := weight_eq_getD Chips.asU128_zero c seatId
      rw [Chips.checkedAdd_eq_ok] at hnext
      omega

/-- A contribution is refused only if the pot of all seats would not fit the width of an amount. -/
theorem addContribution_ok {c : HashMap SeatId Chips} (seatId : SeatId) {delta : Chips}
    (h : total Chips.asU128 c + delta.asU128 < 2 ^ 128) :
    ∃ c', addContribution c seatId delta = .ok c' := by
  unfold addContribution
  split_ifs with h0
  · exact ⟨c, rfl⟩
  · have hw := weight_le_total Chips.asU128 c seatId
    rw [weight_eq_getD Chips.asU128_zero] at hw
    rw [Chips.checkedAdd_of_lt (by omega)]
    exact ⟨_, rfl⟩

theorem addContribution_fresh {c : HashMap SeatId Chips} {seatId : SeatId} {delta : Chips}
    (h : c.lookup seatId = none) (h0 : delta ≠ 0) :
    addContribution c seatId delta = .ok (c.insert seatId delta) := by
  have hadd : (0 : Chips).checkedAdd delta = .ok delta := by
    rw [Chips.checkedAdd_eq_ok, Chips.asU128_zero, Nat.zero_add]
  simp [addContribution, h, h0, hadd]

/-! ### The cards reach every seat -/

/-- The pair of a seat after a round that gave it `card`. -/
def pairAfter (pair : Option (Card × Card)) (card : Card) : Card × Card :=
  match pair with
  | some pair => (pair.1, card)
  | none => (card, card)

theorem dealRound_cons (seat : SeatId) (seats : List SeatId) (card : Card) (deck : List Card)
    (holeCards : HashMap SeatId (Card × Card)) :
    dealRound (seat :: seats) (card :: deck) holeCards =
      dealRound seats deck (holeCards.insert seat (pairAfter (holeCards.lookup seat) card)) := by
  cases hl : holeCards.lookup seat with
  | some pair => simp [dealRound, nextCard, bind, Except.bind, hl, pairAfter]
  | none => simp [dealRound, nextCard, bind, Except.bind, hl, pairAfter]

/-- A round takes one card a seat, and its seats are those added to the pairs. -/
theorem dealRound_ok : ∀ (seats : List SeatId) (deck : List Card)
    (holeCards : HashMap SeatId (Card × Card)), seats.length ≤ deck.length →
    ∃ holeCards', dealRound seats deck holeCards = .ok (deck.drop seats.length, holeCards') ∧
      ∀ s, s ∈ holeCards' ↔ s ∈ holeCards ∨ s ∈ seats
  | [], deck, holeCards, _ => ⟨holeCards, rfl, by simp⟩
  | seat :: seats, [], holeCards, h => by simp at h
  | seat :: seats, card :: deck, holeCards, h => by
    obtain ⟨hole, hok, hmem⟩ := dealRound_ok seats deck
      (holeCards.insert seat (pairAfter (holeCards.lookup seat) card)) (by simpa using h)
    refine ⟨hole, by rw [dealRound_cons]; exact hok, fun s => ?_⟩
    rw [hmem, AList.mem_insert, List.mem_cons]
    tauto

/-- **A deck of two cards a seat and eight more is enough**, and exactly the seats get hole cards. -/
theorem dealCards_ok {seats : List SeatId} {deck : List Card}
    (h : seats.length * 2 + 8 ≤ deck.length) :
    ∃ dealing, dealCards seats deck = .ok dealing ∧ ∀ s, s ∈ dealing.holeCards ↔ s ∈ seats := by
  obtain ⟨hole, hround, hmem⟩ := dealRound_ok seats deck ∅ (by omega)
  obtain ⟨hole', hround', hmem'⟩ :=
    dealRound_ok seats (deck.drop seats.length) hole (by rw [List.length_drop]; omega)
  have hlen : 8 ≤ ((deck.drop seats.length).drop seats.length).length := by
    simp only [List.length_drop]
    omega
  match hdeck : (deck.drop seats.length).drop seats.length, hlen with
  | b1 :: f1 :: f2 :: f3 :: b2 :: t :: b3 :: r :: rest, _ =>
    refine ⟨⟨rest, [b1, b2, b3], [f1, f2, f3, t, r], hole'⟩, ?_, fun s => ?_⟩
    · simp only [dealCards, hround, hround', hdeck, nextCard, Except.bind, bind]
    · rw [hmem', hmem]
      simp

/-! ### The blinds -/

theorem getElem?_mod_mem {seats : List SeatId} (h : 0 < seats.length) (i : ℕ) :
    ∃ s ∈ seats, seats[i % seats.length]? = some s := by
  have hlt : i % seats.length < seats.length := Nat.mod_lt _ h
  exact ⟨seats[i % seats.length], List.getElem_mem hlt, List.getElem?_eq_getElem hlt⟩

/-- Neighbouring places hold different seats. -/
theorem getElem?_mod_ne {seats : List SeatId} (hn : seats.Nodup) (h : 2 ≤ seats.length) {i : ℕ}
    {s t : SeatId} (hs : seats[i % seats.length]? = some s)
    (ht : seats[(i + 1) % seats.length]? = some t) : s ≠ t := by
  rintro rfl
  have hlt : i % seats.length < seats.length := Nat.mod_lt _ (by omega)
  have heq := (List.getElem?_inj hlt hn).1 (hs.trans ht.symm)
  rw [Nat.add_mod, Nat.mod_eq_of_lt (show 1 < seats.length by omega)] at heq
  rcases Nat.lt_or_ge (i % seats.length + 1) seats.length with hlt' | hge
  · rw [Nat.mod_eq_of_lt hlt'] at heq
    omega
  · rw [show i % seats.length + 1 = seats.length by omega, Nat.mod_self] at heq
    omega

/-- The blinds and the first seat to act are chosen among the seats. -/
structure BlindSeats (seats : List SeatId) (sb bb first : SeatId) : Prop where
  sb_mem : sb ∈ seats
  bb_mem : bb ∈ seats
  first_mem : first ∈ seats
  ne : sb ≠ bb

theorem blindsAndFirstToAct_ok (st : EngineState Card) {seats : List SeatId} (hn : seats.Nodup)
    (h : 2 ≤ seats.length) :
    ∃ sb bb first, blindsAndFirstToAct st seats = some (sb, bb, first) ∧
      BlindSeats seats sb bb first := by
  have hpos : 0 < seats.length := by omega
  unfold blindsAndFirstToAct
  simp only [if_neg (show ¬ seats.length < 2 by omega)]
  generalize hd : stateDealerIndex st.snapshot.handNo seats.length = d
  have hdlt : d % seats.length = d := by
    rw [← hd, stateDealerIndex, if_neg (by omega), Nat.mod_mod]
  obtain ⟨s0, hm0, h0⟩ := getElem?_mod_mem hpos d
  obtain ⟨s1, hm1, h1⟩ := getElem?_mod_mem hpos (d + 1)
  obtain ⟨s2, hm2, h2⟩ := getElem?_mod_mem hpos (d + 2)
  obtain ⟨s3, hm3, h3⟩ := getElem?_mod_mem hpos (d + 3)
  split_ifs with htwo
  · -- heads-up: the button posts the small blind and acts first
    refine ⟨s0, s1, s0, ?_, hm0, hm1, hm0, getElem?_mod_ne hn h h0 h1⟩
    rw [hdlt] at h0
    simp [h0, h1]
  · refine ⟨s1, s2, s3, ?_, hm1, hm2, hm3, getElem?_mod_ne hn h h1 h2⟩
    simp [h1, h2, h3]

/-- The bets of the blinds, which are also the contributions they make. -/
def blinds (sb bb : SeatId) : HashMap SeatId Chips :=
  AList.insert bb DEFAULT_BIG_BLIND (AList.insert sb DEFAULT_SMALL_BLIND ∅)

def blindPot : Chips := ⟨300000000000000, by norm_num⟩

def dealtState (st : EngineState Card) (dealing : DealingState Card) (newHandId : HandId)
    (sb bb first : SeatId) : EngineState Card :=
  let opened := openHand { nextHandNo st with dealing := some dealing } newHandId first
  { opened with
    snapshot := { opened.snapshot with potTotal := blindPot }
    bettingRound := { opened.bettingRound with playerBets := blinds sb bb }
    pot := { mainPot := blindPot, sidePots := [], playerContributions := blinds sb bb } }

theorem postBlinds_ok {st : EngineState Card} {sb bb : SeatId} (hne : sb ≠ bb)
    (hbets : st.bettingRound.playerBets = ∅) (hpot : st.pot.playerContributions = ∅) :
    postBlinds st sb bb =
      ({ st with
          snapshot := { st.snapshot with potTotal := blindPot }
          bettingRound := { st.bettingRound with playerBets := blinds sb bb }
          pot := { st.pot with mainPot := blindPot, playerContributions := blinds sb bb } },
        .ok ()) := by
  have hsb : addContribution (∅ : HashMap SeatId Chips) sb DEFAULT_SMALL_BLIND =
      .ok (AList.insert sb DEFAULT_SMALL_BLIND ∅) :=
    addContribution_fresh rfl (by decide)
  have hbb : addContribution (AList.insert sb DEFAULT_SMALL_BLIND ∅) bb DEFAULT_BIG_BLIND =
      .ok (blinds sb bb) :=
    addContribution_fresh (by rw [AList.lookup_insert_ne hne.symm]; rfl) (by decide)
  have hsum : DEFAULT_SMALL_BLIND.checkedAdd DEFAULT_BIG_BLIND = .ok blindPot :=
    Chips.checkedAdd_eq_ok.2 (by decide)
  unfold postBlinds
  rw [hpot, hsb]
  simp only [hbb, hsum, betBlinds, hbets]
  simp only [blinds]

/-- What a deal found when it goes through: seats, deck, cards and blinds. -/
structure Dealt [RsPoker Card] (st : EngineState Card) (deck : List Card) (dealing : DealingState Card)
    (sb bb first : SeatId) : Prop where
  seats : 2 ≤ (sortedSeats st.hand.seatedPlayers).length
  unique : (deck.map RsPoker.toU8).Nodup
  enough : (sortedSeats st.hand.seatedPlayers).length * 2 + 8 ≤ deck.length
  cards : dealCards (sortedSeats st.hand.seatedPlayers) deck = .ok dealing
  blinds : blindsAndFirstToAct (nextHandNo st) (sortedSeats st.hand.seatedPlayers) = some (sb, bb, first)

theorem Dealt.blindSeats [RsPoker Card] {st : EngineState Card} {deck : List Card}
    {dealing : DealingState Card} {sb bb first : SeatId} (h : Dealt st deck dealing sb bb first) :
    BlindSeats (sortedSeats st.hand.seatedPlayers) sb bb first := by
  obtain ⟨sb', bb', first', hblinds, hbs⟩ :=
    blindsAndFirstToAct_ok (nextHandNo st) (nodup_sortedSeats st.hand.seatedPlayers) h.seats
  rw [h.blinds] at hblinds
  cases hblinds
  exact hbs

theorem Dealt.mem_holeCards [RsPoker Card] {st : EngineState Card} {deck : List Card}
    {dealing : DealingState Card} {sb bb first : SeatId} (h : Dealt st deck dealing sb bb first)
    (s : SeatId) : s ∈ dealing.holeCards ↔ s ∈ st.hand.seatedPlayers := by
  obtain ⟨dealing', hcards, hmem⟩ := dealCards_ok h.enough
  rw [h.cards] at hcards
  cases hcards
  rw [hmem, mem_sortedSeats]

/-- **Everything a deal can do**: refuse and leave the state as it was, or open a hand in `dealtState`.
The steps after the checks cannot fail. -/
theorem deal_details [RsPoker Card] (st : EngineState Card) (newHandId : HandId) (deck : List Card) :
    (∃ e, dealNewHandInternalWithDeck st newHandId deck = (st, .error e)) ∨
    ∃ dealing sb bb first,
      dealNewHandInternalWithDeck st newHandId deck =
        (dealtState st dealing newHandId sb bb first, .ok ()) ∧ Dealt st deck dealing sb bb first := by
  unfold dealNewHandInternalWithDeck
  simp only
  split_ifs with hseats hdup hdeck
  · exact .inl ⟨_, rfl⟩
  · exact .inl ⟨_, rfl⟩
  · exact .inl ⟨_, rfl⟩
  · right
    have hunique : (deck.map RsPoker.toU8).Nodup := by
      refine List.dedup_eq_self.1 ((List.dedup_sublist _).eq_of_length ?_)
      rw [not_ne_iff.1 hdup, List.length_map]
    obtain ⟨dealing, hcards, -⟩ := dealCards_ok (Nat.le_of_not_lt hdeck)
    obtain ⟨sb, bb, first, hblinds, hbs⟩ :=
      blindsAndFirstToAct_ok { nextHandNo st with dealing := some dealing }
        (nodup_sortedSeats st.hand.seatedPlayers) (by omega)
    refine ⟨dealing, sb, bb, first, ?_, by omega, hunique, by omega, hcards, hblinds⟩
    simp only [hcards, hblinds]
    exact postBlinds_ok hbs.ne rfl rfl

/-- **What a deal can do**, in short. -/
theorem deal_cases [RsPoker Card] (st : EngineState Card) (newHandId : HandId) (deck : List Card) :
    (∃ e, dealNewHandInternalWithDeck st newHandId deck = (st, .error e)) ∨
    ∃ dealing sb bb first,
      dealNewHandInternalWithDeck st newHandId deck =
        (dealtState st dealing newHandId sb bb first, .ok ()) ∧
      BlindSeats (sortedSeats st.hand.seatedPlayers) sb bb first ∧
      ∀ s, s ∈ dealing.holeCards ↔ s ∈ st.hand.seatedPlayers := by
  rcases deal_details st newHandId deck with herror | ⟨dealing, sb, bb, first, hd, hdealt⟩
  · exact .inl herror
  · exact .inr ⟨dealing, sb, bb, first, hd, hdealt.blindSeats, hdealt.mem_holeCards⟩

theorem deal_ok [RsPoker Card] {st st' : EngineState Card} {newHandId : HandId} {deck : List Card}
    (h : dealNewHandInternalWithDeck st newHandId deck = (st', .ok ())) :
    ∃ dealing sb bb first, st' = dealtState st dealing newHandId sb bb first ∧
      BlindSeats (sortedSeats st.hand.seatedPlayers) sb bb first ∧
      ∀ s, s ∈ dealing.holeCards ↔ s ∈ st.hand.seatedPlayers := by
  rcases deal_cases st newHandId deck with ⟨e, he⟩ | ⟨dealing, sb, bb, first, hd, hbs, hmem⟩
  · rw [he] at h
    cases h
  · rw [hd] at h
    cases h
    exact ⟨dealing, sb, bb, first, rfl, hbs, hmem⟩

theorem eq_of_snd_ok {α β ε : Type} {r : α × Except ε β} {b : β} (h : r.2 = .ok b) :
    r = (r.1, .ok b) :=
  Prod.ext rfl h

end HoldemPlatform.Engine.Deal
