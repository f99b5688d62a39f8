import HoldemPlatform.Lib.FiniteMap
import HoldemPlatform.Domain.Game
import Mathlib.Data.Finset.Card
import Mathlib.Data.List.Sort

/-! # The engine's state

The records of the poker engine. Hash sets of seats are finite sets and every iteration over one is
followed by a sort, which `sortedSeats` models; hash maps are `HashMap`. Cards come from `rs_poker`,
which is not part of the repository: `RsPoker` collects what the engine uses of it. -/

namespace HoldemPlatform.Engine.State

open HoldemPlatform.Lib.FiniteMap HoldemPlatform.Domain.Money HoldemPlatform.Domain.Game

/-- What the engine uses of `rs_poker`: the byte of a card, and the rank of a hand in a total order. -/
class RsPoker (Card : Type) where
  toU8 : Card → ℕ
  Rank : Type
  rankOrder : LinearOrder Rank
  rank : List Card → Rank

attribute [reducible, instance] RsPoker.rankOrder

/-- Cards by their byte, thirteen values a suit. All hands rank alike, as they do when the board is a
royal flush. -/
def ByteCard := Fin 52
deriving DecidableEq

instance : RsPoker ByteCard where
  toU8 := Fin.val
  Rank := Unit
  rankOrder := inferInstance
  rank _ := ()

/-- A deck whose board is the royal flush of the first suit, from the ten at `8` to the ace at `12`. The
hole cards are of the second suit, and a card of the third is burned before each street. -/
def royalDeckFor (seats : ℕ) : List ByteCard :=
  ((List.range (2 * seats)).map (13 + ·) ++ [26, 8, 9, 10, 27, 11, 28, 12]).map
    fun n => (Fin.ofNat 52 n : Fin 52)

def royalDeck : List ByteCard := royalDeckFor 2

/-- Cards by their byte for hands of exactly one pair, neither a straight nor a flush: these rank by the
value of the pair and then by the three highest of the other values. -/
def PairCard := Fin 52
deriving DecidableEq

def pairCard (n : ℕ) : PairCard := (Fin.ofNat 52 n : Fin 52)

def pairRank (cards : List PairCard) : ℕ :=
  let values := cards.map fun c => c.val % 13
  let paired := values.filter fun v => values.count v = 2
  let kickers := (values.filter fun v => values.count v = 1).insertionSort (· ≥ ·)
  (paired.take 1 ++ kickers.take 3).foldl (fun n v => 13 * n + v) 0

instance : RsPoker PairCard where
  toU8 := Fin.val
  Rank := ℕ
  rankOrder := inferInstance
  rank := pairRank

/-- The seats of a set in increasing order: collected into a vector and sorted. -/
def sortedSeats (s : Finset SeatId) : List SeatId := (List.finRange 256).filter (· ∈ s)

@[simp] theorem mem_sortedSeats {s : Finset SeatId} {x : SeatId} : x ∈ sortedSeats s ↔ x ∈ s := by
  simp [sortedSeats]

theorem nodup_sortedSeats (s : Finset SeatId) : (sortedSeats s).Nodup :=
  (List.nodup_finRange 256).filter _

theorem length_sortedSeats (s : Finset SeatId) : (sortedSeats s).length = s.card := by
  rw [← List.toFinset_card_of_nodup (nodup_sortedSeats s)]
  congr 1
  ext x
  simp

theorem pairwise_sortedSeats (s : Finset SeatId) : (sortedSeats s).Pairwise (· < ·) :=
  (List.pairwise_lt_finRange 256).sublist List.filter_sublist

theorem insertionSort_eq_sortedSeats {l : List SeatId} {s : Finset SeatId} (hnodup : l.Nodup)
    (hmem : ∀ x, x ∈ l ↔ x ∈ s) : l.insertionSort (· ≤ ·) = sortedSeats s := by
  have hperm : l.Perm (sortedSeats s) :=
    (List.perm_ext_iff_of_nodup hnodup (nodup_sortedSeats s)).2 fun x => by
      rw [hmem, mem_sortedSeats]
  have hsorted : (sortedSeats s).Pairwise (· ≤ ·) := (pairwise_sortedSeats s).imp fun h => h.le
  exact ((List.perm_insertionSort _ l).trans hperm).eq_of_pairwise'
    (List.pairwise_insertionSort (· ≤ ·) l) hsorted

structure HandState where
  handId : HandId
  street : Street
  nextActionSeq : ActionSeq
  actingSeatId : Option SeatId
  seatedPlayers : Finset SeatId
  foldedSeats : Finset SeatId
  allInSeats : Finset SeatId
deriving DecidableEq

structure BettingRoundState where
  currentBet : Chips
  minRaiseTo : Option Chips
  actingSeatId : Option SeatId
  playerBets : HashMap SeatId Chips
  actedSeats : Finset SeatId

structure SidePot where
  amount : Chips
  eligibleSeats : List SeatId
deriving DecidableEq

structure PotLayer where
  amount : Chips
  eligibleSeats : List SeatId
  isMain : Bool
deriving DecidableEq

structure PotState where
  mainPot : Chips
  sidePots : List SidePot
  playerContributions : HashMap SeatId Chips

structure DealingState (Card : Type) where
  undealtDeck : List Card
  burnCards : List Card
  boardCards : List Card
  holeCards : HashMap SeatId (Card × Card)

structure EngineState (Card : Type) where
  snapshot : HandSnapshot
  hand : HandState
  bettingRound : BettingRoundState
  pot : PotState
  dealing : Option (DealingState Card)

inductive EngineError where
  | domain (e : DomainError)
  | money (e : MoneyError)
  | notEnoughPlayersToDeal
  | insufficientDeck
  | duplicateCardsInDeck
deriving DecidableEq

def EngineError.text : EngineError → String
  | .domain e => e.text
  | .money e => moneyErrorText e
  | .notEnoughPlayersToDeal => "not enough seated players to deal"
  | .insufficientDeck => "deck does not contain enough cards"
  | .duplicateCardsInDeck => "deck contains duplicate cards"

/-- `EngineActionResult::Accepted { street_changed }`. -/
structure EngineActionResult where
  streetChanged : Option Street
deriving DecidableEq

variable {Card : Type}

/-- `EngineState::new`; the hand identifier is the freshly generated one. -/
def EngineState.new (roomId : RoomId) (handNo : ℕ) (handId : HandId) : EngineState Card where
  snapshot :=
    { roomId, handId, handNo, status := .created, street := .preflop, boardCards := [],
      actingSeatId := none, nextActionSeq := 1, potTotal := 0 }
  hand :=
    { handId, street := .preflop, nextActionSeq := 1, actingSeatId := none, seatedPlayers := ∅,
      foldedSeats := ∅, allInSeats := ∅ }
  bettingRound :=
    { currentBet := 0, minRaiseTo := none, actingSeatId := none, playerBets := ∅, actedSeats := ∅ }
  pot := { mainPot := 0, sidePots := [], playerContributions := ∅ }
  dealing := none

def EngineState.start (st : EngineState Card) (actingSeatId : SeatId) : EngineState Card where
  snapshot := { st.snapshot with status := .running, actingSeatId := some actingSeatId }
  hand :=
    { st.hand with
      actingSeatId := some actingSeatId, foldedSeats := ∅, allInSeats := ∅,
      seatedPlayers := insert actingSeatId st.hand.seatedPlayers }
  bettingRound := { st.bettingRound with actingSeatId := some actingSeatId, actedSeats := ∅ }
  pot := st.pot
  dealing := none

def EngineState.seatPlayer (st : EngineState Card) (seatId : SeatId) : EngineState Card :=
  { st with hand := { st.hand with seatedPlayers := insert seatId st.hand.seatedPlayers } }

/-- The three copies of the acting seat are written together. -/
def EngineState.setActing (st : EngineState Card) (seat : Option SeatId) : EngineState Card :=
  { st with
    snapshot := { st.snapshot with actingSeatId := seat }
    hand := { st.hand with actingSeatId := seat }
    bettingRound := { st.bettingRound with actingSeatId := seat } }

def EngineState.seatBet (st : EngineState Card) (seatId : SeatId) : Chips :=
  (st.bettingRound.playerBets.lookup seatId).getD 0

def EngineState.contribution (st : EngineState Card) (seatId : SeatId) : ℕ :=
  weight Chips.asU128 st.pot.playerContributions seatId

end HoldemPlatform.Engine.State
