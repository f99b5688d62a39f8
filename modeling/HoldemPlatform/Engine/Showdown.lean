import HoldemPlatform.Engine.PotLayers
import HoldemPlatform.Lib.Leaders

/-!
# The Showdown

`evaluate_showdown_for_eligible` walks over the revealed hands and keeps the seats of the best rank
seen so far among the eligible ones. So the winners are the leaders among the revealed and eligible
hands (`foldl_considerHand`): exactly the seats that hold a best hand win, and somebody does as soon as
an eligible seat reveals its cards.
-/

namespace HoldemPlatform.Engine.Showdown

open HoldemPlatform.Lib.FiniteMap HoldemPlatform.Lib.Leaders HoldemPlatform.Domain.Game
open HoldemPlatform.Engine.State HoldemPlatform.Engine.PotLayers

variable {Card : Type}

structure ShowdownInput (Card : Type) where
  board : List Card
  revealedHoleCards : List (SeatId × Card × Card)

structure ShowdownResult where
  winnerSeats : List SeatId
deriving DecidableEq

structure Best (Card : Type) [RsPoker Card] where
  bestRank : Option (RsPoker.Rank Card)
  winners : List SeatId

def considerHand [RsPoker Card] (board : List Card) (eligible : Option (List SeatId))
    (best : Best Card) (hand : SeatId × Card × Card) : Best Card :=
  if (match eligible with | some seats => decide (hand.1 ∉ seats) | none => false) then best
  else
    let rank := RsPoker.rank (board ++ [hand.2.1, hand.2.2])
    match best.bestRank with
    | none => { bestRank := some rank, winners := [hand.1] }
    | some currentBest =>
      if currentBest < rank then { bestRank := some rank, winners := [hand.1] }
      else if rank = currentBest then { best with winners := best.winners ++ [hand.1] }
      else best

def evaluateShowdownForEligible [RsPoker Card] (input : ShowdownInput Card)
    (eligibleSeats : Option (List SeatId)) : Option ShowdownResult :=
  if input.revealedHoleCards = [] ∨ input.board.length < 3 then none
  else
    let winners := (input.revealedHoleCards.foldl (considerHand input.board eligibleSeats)
      { bestRank := none, winners := [] }).winners
    if winners = [] then none else some { winnerSeats := winners.insertionSort (· ≤ ·) }

def potLayers (st : EngineState Card) : List PotLayer :=
  buildPotLayers st.pot.playerContributions st.hand.foldedSeats

def showdownInputFromEngineState (st : EngineState Card) : Option (ShowdownInput Card) :=
  match st.dealing with
  | none => none
  | some dealing =>
    if dealing.boardCards.length < 5 then none
    else some
      { board := dealing.boardCards
        revealedHoleCards :=
          (pairs dealing.holeCards).insertionSort fun a b => a.1 ≤ b.1 }

/-- The seat may win: it is on the list, if there is one. -/
def isEligible (eligible : Option (List SeatId)) (seatId : SeatId) : Bool :=
  match eligible with
  | some seats => decide (seatId ∈ seats)
  | none => true

def contenders (input : ShowdownInput Card) (eligible : Option (List SeatId)) :
    List (SeatId × Card × Card) :=
  input.revealedHoleCards.filter fun hand => isEligible eligible hand.1

theorem mem_contenders {input : ShowdownInput Card} {eligible : Option (List SeatId)}
    {hand : SeatId × Card × Card} : hand ∈ contenders input eligible ↔
      hand ∈ input.revealedHoleCards ∧ isEligible eligible hand.1 = true :=
  List.mem_filter

section

variable [RsPoker Card]

def handRank (board : List Card) (hand : SeatId × Card × Card) : RsPoker.Rank Card :=
  RsPoker.rank (board ++ [hand.2.1, hand.2.2])

theorem considerHand_skip {board : List Card} {eligible : Option (List SeatId)} {best : Best Card}
    {hand : SeatId × Card × Card} (h : isEligible eligible hand.1 = false) :
    considerHand board eligible best hand = best := by
  cases eligible with
  | none => cases h
  | some seats => exact if_pos (by simpa [isEligible] using h)

theorem considerHand_eligible {board : List Card} {eligible : Option (List SeatId)} {best : Best Card}
    {hand : SeatId × Card × Card} (h : isEligible eligible hand.1 = true) :
    considerHand board eligible best hand =
      match best.bestRank with
      | none => { bestRank := some (handRank board hand), winners := [hand.1] }
      | some currentBest =>
        if currentBest < handRank board hand then
          { bestRank := some (handRank board hand), winners := [hand.1] }
        else if handRank board hand = currentBest then
          { best with winners := best.winners ++ [hand.1] }
        else best := by
  cases eligible with
  | none => rfl
  | some seats => exact if_neg (by simpa [isEligible] using h)

/-- The loop over the revealed hands is a scan for the leaders among those that count. -/
theorem foldl_considerHand_scan (board : List Card) (eligible : Option (List SeatId)) :
    ∀ (hands : List (SeatId × Card × Card)) {best : Best Card}
      {scan : Option (RsPoker.Rank Card) × List (SeatId × Card × Card)},
      best.bestRank = scan.1 → best.winners = scan.2.map Prod.fst →
      (hands.foldl (considerHand board eligible) best).winners =
        ((hands.filter fun hand => isEligible eligible hand.1).foldl
          (consider (handRank board)) scan).2.map Prod.fst
  | [], _, _, _, hwinners => hwinners
  | hand :: hands, best, scan, hrank, hwinners => by
    rw [List.foldl_cons]
    cases helig : isEligible eligible hand.1 with
    | false =>
      rw [considerHand_skip helig, List.filter_cons_of_neg (by simp [helig])]
      exact foldl_considerHand_scan board eligible hands hrank hwinners
    | true =>
      rw [List.filter_cons_of_pos (by simp [helig]), List.foldl_cons]
      refine foldl_considerHand_scan board eligible hands ?_ ?_
      all_goals
        rw [considerHand_eligible helig, consider, hrank]
        cases hscan : scan.1 with
        | none => rfl
        | some top =>
          dsimp only
          split_ifs <;> simp [hrank, hwinners, hscan]

/-- **The winners are the leaders among the revealed and eligible hands.** -/
theorem foldl_considerHand (input : ShowdownInput Card) (eligible : Option (List SeatId)) :
    (input.revealedHoleCards.foldl (considerHand input.board eligible)
      { bestRank := none, winners := [] }).winners =
      (leaders (handRank input.board) (contenders input eligible)).map Prod.fst := by
  rw [← foldl_consider]
  exact foldl_considerHand_scan input.board eligible input.revealedHoleCards rfl rfl

/-- The seat has a revealed and eligible hand that no other revealed and eligible hand beats. -/
def HoldsBest (input : ShowdownInput Card) (eligible : Option (List SeatId)) (seatId : SeatId) : Prop :=
  ∃ hand ∈ input.revealedHoleCards, hand.1 = seatId ∧ isEligible eligible seatId = true ∧
    ∀ other ∈ input.revealedHoleCards, isEligible eligible other.1 = true →
      handRank input.board other ≤ handRank input.board hand

instance (input : ShowdownInput Card) (eligible : Option (List SeatId)) :
    DecidablePred (HoldsBest input eligible) := fun _ =>
  inferInstanceAs (Decidable (∃ hand ∈ input.revealedHoleCards, _))

def bestSeats (input : ShowdownInput Card) (eligible : Option (List SeatId)) : Finset SeatId :=
  Finset.univ.filter (HoldsBest input eligible)

theorem mem_bestSeats {input : ShowdownInput Card} {eligible : Option (List SeatId)} {s : SeatId} :
    s ∈ bestSeats input eligible ↔ HoldsBest input eligible s := by
  simp [bestSeats]

theorem mem_leaders_iff {input : ShowdownInput Card} {eligible : Option (List SeatId)} {s : SeatId} :
    s ∈ (leaders (handRank input.board) (contenders input eligible)).map Prod.fst ↔
      HoldsBest input eligible s := by
  simp only [List.mem_map, mem_leaders, mem_contenders]
  constructor
  · rintro ⟨hand, ⟨⟨hmem, helig⟩, hmax⟩, rfl⟩
    exact ⟨hand, hmem, rfl, helig, fun other ho helig' => hmax other ⟨ho, helig'⟩⟩
  · rintro ⟨hand, hmem, rfl, helig, hmax⟩
    exact ⟨hand, ⟨⟨hmem, helig⟩, fun other ho => hmax other ho.1 ho.2⟩, rfl⟩

theorem exists_holdsBest_iff {input : ShowdownInput Card} {eligible : Option (List SeatId)} :
    (∃ s, HoldsBest input eligible s) ↔
      ∃ hand ∈ input.revealedHoleCards, isEligible eligible hand.1 = true := by
  constructor
  · rintro ⟨s, hand, hmem, rfl, helig, -⟩
    exact ⟨hand, hmem, helig⟩
  · rintro ⟨hand, hmem, helig⟩
    have hne : contenders input eligible ≠ [] :=
      List.ne_nil_of_mem (mem_contenders.2 ⟨hmem, helig⟩)
    obtain ⟨leader, hleader⟩ :=
      List.exists_mem_of_ne_nil _ (leaders_ne_nil (handRank input.board) hne)
    exact ⟨leader.1, mem_leaders_iff.1 (List.mem_map_of_mem hleader)⟩

theorem evaluateShowdown_some {input : ShowdownInput Card} {eligible : Option (List SeatId)}
    {result : ShowdownResult} (h : evaluateShowdownForEligible input eligible = some result) :
    result.winnerSeats ≠ [] ∧ ∀ s, s ∈ result.winnerSeats ↔ HoldsBest input eligible s := by
  unfold evaluateShowdownForEligible at h
  split_ifs at h
  dsimp only at h
  split_ifs at h with hnone
  cases h
  constructor
  · intro hnil
    have hlen := congrArg List.length hnil
    rw [List.length_insertionSort] at hlen
    exact hnone (List.length_eq_zero_iff.1 hlen)
  · intro s
    rw [List.mem_insertionSort, foldl_considerHand, mem_leaders_iff]

/-- **Only eligible seats win, and somebody does.** -/
theorem winners_eligible {input : ShowdownInput Card} {seats : List SeatId}
    {result : ShowdownResult}
    (h : evaluateShowdownForEligible input (some seats) = some result) :
    result.winnerSeats ≠ [] ∧ ∀ s ∈ result.winnerSeats, s ∈ seats := by
  obtain ⟨hne, hmem⟩ := evaluateShowdown_some h
  refine ⟨hne, fun s hs => ?_⟩
  obtain ⟨-, -, -, helig, -⟩ := (hmem s).1 hs
  simpa [isEligible] using helig

/-- **Only seats that reveal hole cards win.** -/
theorem winners_revealed {input : ShowdownInput Card} {eligible : Option (List SeatId)}
    {result : ShowdownResult} (h : evaluateShowdownForEligible input eligible = some result) :
    ∀ s ∈ result.winnerSeats, s ∈ input.revealedHoleCards.map Prod.fst := by
  intro s hs
  obtain ⟨hand, hhand, rfl, -⟩ := ((evaluateShowdown_some h).2 s).1 hs
  exact List.mem_map_of_mem hhand

/-- **The showdown has a winner as soon as an eligible seat reveals its cards.** -/
theorem exists_winner {input : ShowdownInput Card} {seats : List SeatId}
    (hboard : 3 ≤ input.board.length) {s : SeatId} (hs : s ∈ seats)
    (hrevealed : s ∈ input.revealedHoleCards.map Prod.fst) :
    ∃ result, evaluateShowdownForEligible input (some seats) = some result := by
  obtain ⟨hand, hhand, rfl⟩ := List.mem_map.1 hrevealed
  obtain ⟨best, hbest⟩ := exists_holdsBest_iff.2
    ⟨hand, hhand, show isEligible (some seats) hand.1 = true by simpa [isEligible] using hs⟩
  have hwin : (input.revealedHoleCards.foldl (considerHand input.board (some seats))
      { bestRank := none, winners := [] }).winners ≠ [] := by
    rw [foldl_considerHand]
    exact List.ne_nil_of_mem (mem_leaders_iff.2 hbest)
  unfold evaluateShowdownForEligible
  rw [if_neg (not_or.2 ⟨List.ne_nil_of_mem hhand, not_lt.2 hboard⟩)]
  simp only [if_neg hwin]
  exact ⟨_, rfl⟩

theorem evaluateShowdown_eq_none_iff {input : ShowdownInput Card} {eligible : Option (List SeatId)}
    (hboard : 3 ≤ input.board.length) : evaluateShowdownForEligible input eligible = none ↔
      ¬ ∃ hand ∈ input.revealedHoleCards, isEligible eligible hand.1 = true := by
  constructor
  · intro hnone hexists
    obtain ⟨hand, hhand, helig⟩ := hexists
    obtain ⟨best, hbest⟩ := exists_holdsBest_iff.2 ⟨hand, hhand, helig⟩
    unfold evaluateShowdownForEligible at hnone
    rw [if_neg (not_or.2 ⟨List.ne_nil_of_mem hhand, not_lt.2 hboard⟩)] at hnone
    dsimp only at hnone
    split_ifs at hnone with hnil
    rw [foldl_considerHand] at hnil
    have hmem := mem_leaders_iff.2 hbest
    rw [hnil] at hmem
    exact List.not_mem_nil hmem
  · intro hnot
    cases heval : evaluateShowdownForEligible input eligible with
    | none => rfl
    | some result =>
      obtain ⟨hne, hmem⟩ := evaluateShowdown_some heval
      obtain ⟨s, hs⟩ := List.exists_mem_of_ne_nil _ hne
      exact absurd (exists_holdsBest_iff.1 ⟨s, (hmem s).1 hs⟩) hnot

/-- Revealed hands of different seats make a list of winners without repetitions, in seat order. -/
theorem winnerSeats_eq {input : ShowdownInput Card} {eligible : Option (List SeatId)}
    {result : ShowdownResult} (hseats : (input.revealedHoleCards.map Prod.fst).Nodup)
    (h : evaluateShowdownForEligible input eligible = some result) :
    result.winnerSeats = sortedSeats (bestSeats input eligible) := by
  unfold evaluateShowdownForEligible at h
  split_ifs at h
  dsimp only at h
  split_ifs at h
  cases h
  rw [foldl_considerHand]
  refine insertionSort_eq_sortedSeats ?_ fun s => by rw [mem_leaders_iff, mem_bestSeats]
  exact hseats.sublist ((List.filter_sublist.trans List.filter_sublist).map Prod.fst)

/-- What the answer depends on: which hands are revealed and which seats are eligible. -/
theorem holdsBest_congr {input input' : ShowdownInput Card} {eligible eligible' : Option (List SeatId)}
    (hboard : input.board = input'.board)
    (hrevealed : ∀ hand, hand ∈ input.revealedHoleCards ↔ hand ∈ input'.revealedHoleCards)
    (heligible : ∀ s, isEligible eligible s = isEligible eligible' s) (s : SeatId) :
    HoldsBest input eligible s ↔ HoldsBest input' eligible' s := by
  unfold HoldsBest
  simp only [hboard, hrevealed, heligible]

theorem evaluateShowdown_congr {input input' : ShowdownInput Card}
    {eligible eligible' : Option (List SeatId)} (hboard : 3 ≤ input.board.length)
    (hseats : (input.revealedHoleCards.map Prod.fst).Nodup) (hsame : input.board = input'.board)
    (hrevealed : input.revealedHoleCards.Perm input'.revealedHoleCards)
    (heligible : ∀ s, isEligible eligible s = isEligible eligible' s) :
    evaluateShowdownForEligible input eligible = evaluateShowdownForEligible input' eligible' := by
  have hseats' : (input'.revealedHoleCards.map Prod.fst).Nodup :=
    (hrevealed.map Prod.fst).nodup_iff.1 hseats
  have hboard' : 3 ≤ input'.board.length := hsame ▸ hboard
  have hmem : ∀ hand, hand ∈ input.revealedHoleCards ↔ hand ∈ input'.revealedHoleCards :=
    fun hand => hrevealed.mem_iff
  have hnone : evaluateShowdownForEligible input eligible = none ↔
      evaluateShowdownForEligible input' eligible' = none := by
    rw [evaluateShowdown_eq_none_iff hboard, evaluateShowdown_eq_none_iff hboard']
    simp only [hmem, heligible]
  have hbest : bestSeats input eligible = bestSeats input' eligible' := by
    ext s
    rw [mem_bestSeats, mem_bestSeats]
    exact holdsBest_congr hsame hmem heligible s
  cases heval : evaluateShowdownForEligible input eligible with
  | none => exact (hnone.1 heval).symm
  | some result =>
    cases heval' : evaluateShowdownForEligible input' eligible' with
    | none =>
      rw [hnone.2 heval'] at heval
      cases heval
    | some result' =>
      have hwin := winnerSeats_eq hseats heval
      have hwin' := winnerSeats_eq hseats' heval'
      rw [hbest, ← hwin'] at hwin
      obtain ⟨winners⟩ := result
      obtain ⟨winners'⟩ := result'
      exact congrArg some (congrArg ShowdownResult.mk hwin)

/-- **The showdown picks exactly the best hands**: the sorted set of the revealed eligible seats that no
revealed eligible seat beats, however the hands and the eligible seats are listed. -/
theorem showdown_best_hands (input : ShowdownInput Card)
    (hseats : (input.revealedHoleCards.map Prod.fst).Nodup) (hboard : 3 ≤ input.board.length)
    (eligible : Option (List SeatId)) :
    (evaluateShowdownForEligible input eligible = none ↔
      ¬ ∃ hand ∈ input.revealedHoleCards, isEligible eligible hand.1 = true) ∧
    (∀ result, evaluateShowdownForEligible input eligible = some result →
      result.winnerSeats.Pairwise (· < ·) ∧
        ∀ s, s ∈ result.winnerSeats ↔ HoldsBest input eligible s) ∧
    (∀ revealed, input.revealedHoleCards.Perm revealed →
      evaluateShowdownForEligible { input with revealedHoleCards := revealed } eligible =
        evaluateShowdownForEligible input eligible) ∧
    (∀ seats seats', eligible = some seats → (∀ s, s ∈ seats ↔ s ∈ seats') →
      evaluateShowdownForEligible input (some seats') = evaluateShowdownForEligible input eligible) := by
  refine ⟨evaluateShowdown_eq_none_iff hboard, fun result hresult => ⟨?_, ?_⟩, fun revealed hperm => ?_,
    fun seats seats' heq hsame => ?_⟩
  · rw [winnerSeats_eq hseats hresult]
    exact pairwise_sortedSeats _
  · exact (evaluateShowdown_some hresult).2
  · have hsame : evaluateShowdownForEligible input eligible =
        evaluateShowdownForEligible { input with revealedHoleCards := revealed } eligible :=
      evaluateShowdown_congr hboard hseats rfl hperm fun _ => rfl
    exact hsame.symm
  · refine (evaluateShowdown_congr hboard hseats rfl (List.Perm.refl _) fun s => ?_).symm
    rw [heq]
    simp only [isEligible, hsame]

end

/-- The board is queen, king, nine, seven and four in three suits. Seat `2` has aces, the seats `0` and
`1` a queen and a two each, and seat `3` eights. -/
def tiedHands : ShowdownInput PairCard where
  board := [36, 50, 20, 44, 28].map pairCard
  revealedHoleCards :=
    [(2, pairCard 12, pairCard 25), (0, pairCard 10, pairCard 13), (3, pairCard 6, pairCard 19),
      (1, pairCard 23, pairCard 0)]

/-- Without the aces the two pairs of queens share; the eights lose. -/
theorem tied_hands_share : evaluateShowdownForEligible tiedHands none = some ⟨[2]⟩ ∧
    evaluateShowdownForEligible tiedHands (some [1, 3, 0, 1]) = some ⟨[0, 1]⟩ ∧
    evaluateShowdownForEligible tiedHands (some [0, 1, 3]) = some ⟨[0, 1]⟩ := by
  have heval : evaluateShowdownForEligible tiedHands none = some ⟨[2]⟩ ∧
      evaluateShowdownForEligible tiedHands (some [1, 3, 0, 1]) = some ⟨[0, 1]⟩ := by
    decide +kernel
  have hbest := showdown_best_hands tiedHands (by decide +kernel) (by decide +kernel)
    (some [1, 3, 0, 1])
  have hlists : ∀ s : SeatId, s ∈ [1, 3, 0, 1] ↔ s ∈ [0, 1, 3] := by decide +kernel
  refine ⟨heval.1, heval.2, ?_⟩
  rw [hbest.2.2.2 [1, 3, 0, 1] [0, 1, 3] rfl hlists]
  exact heval.2

theorem revealed_holeCards {st : EngineState Card} {input : ShowdownInput Card}
    (h : showdownInputFromEngineState st = some input) {s : SeatId}
    (hs : s ∈ input.revealedHoleCards.map Prod.fst) :
    ∃ dealing, st.dealing = some dealing ∧ s ∈ dealing.holeCards := by
  unfold showdownInputFromEngineState at h
  split at h
  · cases h
  · rename_i dealing hdealing
    split_ifs at h
    cases h
    obtain ⟨⟨seat, cards⟩, hmem, rfl⟩ := List.mem_map.1 hs
    rw [List.mem_insertionSort] at hmem
    exact ⟨dealing, hdealing, mem_of_lookup_some (mem_pairs.1 hmem)⟩

end HoldemPlatform.Engine.Showdown
