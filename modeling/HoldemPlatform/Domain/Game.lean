import HoldemPlatform.Domain.Money
import Mathlib.Data.Fintype.Basic

/-! # The vocabulary of the game

Identifiers, streets, statuses, actions and the hand snapshot. Identifiers are UUIDs, kept as the
number of their 128 bits; the trace identifiers and wall-clock stamps of the events are not modelled.
A seat is a `u8`. Sequence numbers (`u32`) and hand numbers (`u64`) are natural numbers whose
increments saturate at the width of the source type. -/

namespace HoldemPlatform.Domain.Game

open HoldemPlatform.Domain.Money

structure RoomId where
  uuid : ℕ
deriving DecidableEq, Repr

structure HandId where
  uuid : ℕ
deriving DecidableEq, Repr

structure RequestId where
  uuid : ℕ
deriving DecidableEq, Repr

structure AgentId where
  uuid : ℕ
deriving DecidableEq, Repr

structure SessionId where
  uuid : ℕ
deriving DecidableEq, Repr

abbrev SeatId := Fin 256

instance seatId_neZero : NeZero 256 := ⟨by decide⟩

instance seatId_lawfulBEq : LawfulBEq SeatId := inferInstance

abbrev ActionSeq := ℕ

/-- `n.saturating_add(k)` at `w` bits. -/
def saturatingAdd (w n k : ℕ) : ℕ := min (n + k) (2 ^ w - 1)

inductive Street where
  | preflop
  | flop
  | turn
  | river
  | showdown
deriving DecidableEq, Repr

inductive HandStatus where
  | created
  | running
  | showdown
  | settling
  | settled
  | aborted
deriving DecidableEq, Repr

inductive ActionType where
  | fold
  | check
  | call
  | raiseTo
  | allIn
deriving DecidableEq, Repr

structure PlayerAction where
  roomId : RoomId
  handId : HandId
  actionSeq : ActionSeq
  seatId : SeatId
  actionType : ActionType
  amount : Option Chips
deriving DecidableEq

structure LegalAction where
  actionType : ActionType
  minAmount : Option Chips
  maxAmount : Option Chips
deriving DecidableEq

structure HandSnapshot where
  roomId : RoomId
  handId : HandId
  handNo : ℕ
  status : HandStatus
  street : Street
  boardCards : List ℕ
  actingSeatId : Option SeatId
  nextActionSeq : ActionSeq
  potTotal : Chips
deriving DecidableEq

inductive HandEventKind where
  | handStarted
  | turnStarted (seatId : SeatId)
  | actionAccepted (action : PlayerAction)
  | streetChanged (street : Street)
  | potUpdated (potTotal : Chips)
  | handClosed
deriving DecidableEq

structure HandEvent where
  roomId : RoomId
  handId : HandId
  eventSeq : ℕ
  kind : HandEventKind
deriving DecidableEq

inductive DomainError where
  | invalidRoomState
  | invalidHandState
  | actionIllegal
  | notYourTurn
deriving DecidableEq, Repr

def DomainError.text : DomainError → String
  | .invalidRoomState => "invalid room state"
  | .invalidHandState => "invalid hand state"
  | .actionIllegal => "action is not legal"
  | .notYourTurn => "not your turn"

def moneyErrorText : MoneyError → String
  | .overflow => "amount overflow"
  | .underflow => "amount underflow"

end HoldemPlatform.Domain.Game
