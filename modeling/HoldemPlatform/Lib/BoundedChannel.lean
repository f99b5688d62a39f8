import Mathlib.Data.List.Basic
import Mathlib.Logic.Function.Iterate

/-!
# Bounded Channels

A channel has a buffer of fixed capacity between its senders and its one receiver. `trySend` never waits:
it fails if the buffer is full or the receiver is gone. What the receiver has taken out is kept as
`received`, so that `sent` is everything the channel has let through so far.
-/

namespace HoldemPlatform.Lib.BoundedChannel

structure Channel (α : Type) where
  capacity : ℕ
  buffer : List α
  received : List α
  closed : Bool
  fits : buffer.length ≤ capacity
deriving DecidableEq

inductive TrySendError where
  | full
  | closed
deriving DecidableEq

variable {α : Type}

namespace Channel

def empty (capacity : ℕ) : Channel α where
  capacity := capacity
  buffer := []
  received := []
  closed := false
  fits := Nat.zero_le _

variable (ch : Channel α)

def trySend (a : α) : Except TrySendError (Channel α) :=
  if ch.closed then .error .closed
  else if h : ch.buffer.length < ch.capacity then
    .ok { ch with
      buffer := ch.buffer ++ [a]
      fits := by rwa [List.length_append, List.length_singleton, Nat.add_one_le_iff] }
  else .error .full

/-- The receiver takes the first element of the buffer, if there is one. -/
def recv : Channel α :=
  { ch with
    buffer := ch.buffer.drop 1
    received := ch.received ++ ch.buffer.take 1
    fits := by
      rw [List.length_drop]
      exact Nat.le_trans (Nat.sub_le ..) ch.fits }

def dropReceiver : Channel α :=
  { ch with buffer := [], closed := true, fits := Nat.zero_le _ }

/-- What was received and what still lies in the buffer. -/
def sent : List α := ch.received ++ ch.buffer

theorem sent_recv : ch.recv.sent = ch.sent := by
  show (ch.received ++ ch.buffer.take 1) ++ ch.buffer.drop 1 = ch.received ++ ch.buffer
  rw [List.append_assoc, List.take_append_drop]

theorem received_prefix_sent : ch.received <+: ch.sent := List.prefix_append ..

theorem sent_dropReceiver_prefix : ch.dropReceiver.sent <+: ch.sent := by
  show ch.received ++ [] <+: ch.sent
  rw [List.append_nil]
  exact ch.received_prefix_sent

/-- A receiver that takes all there is has received all that was sent. -/
theorem received_iterate_recv {n : ℕ} (h : ch.buffer.length ≤ n) :
    (recv^[n] ch).received = ch.sent := by
  induction n generalizing ch with
  | zero =>
    rw [Function.iterate_zero_apply, sent, List.eq_nil_of_length_eq_zero (Nat.le_zero.1 h),
      List.append_nil]
  | succ n ih =>
    have hrecv : ch.recv.buffer.length ≤ n := by
      show (ch.buffer.drop 1).length ≤ n
      rw [List.length_drop]
      omega
    rw [Function.iterate_succ_apply, ih ch.recv hrecv, sent_recv]

variable {ch} {ch' : Channel α} {a : α}

/-- All that an accepted element changes. -/
theorem of_trySend (h : ch.trySend a = .ok ch') :
    ch.closed = false ∧ ch'.closed = false ∧ ch'.capacity = ch.capacity ∧
      ch'.received = ch.received ∧ ch'.buffer = ch.buffer ++ [a] := by
  rw [trySend] at h
  split_ifs at h with hclosed hroom
  cases h
  exact ⟨by simpa using hclosed, by simpa using hclosed, rfl, rfl, rfl⟩

theorem sent_of_trySend (h : ch.trySend a = .ok ch') : ch'.sent = ch.sent ++ [a] := by
  obtain ⟨-, -, -, hreceived, hbuffer⟩ := of_trySend h
  rw [sent, hreceived, hbuffer, ← List.append_assoc, ← sent]

theorem trySend_of_room (hopen : ch.closed = false) (hroom : ch.buffer.length < ch.capacity) (a : α) :
    ∃ ch', ch.trySend a = .ok ch' := by
  rw [trySend, if_neg (by simp [hopen]), dif_pos hroom]
  exact ⟨_, rfl⟩

end Channel

end HoldemPlatform.Lib.BoundedChannel
