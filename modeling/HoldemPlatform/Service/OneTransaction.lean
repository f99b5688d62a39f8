import HoldemPlatform.Service.PaymentLog

/-!
# One Transaction, One Action

The node finds a transaction by its hash whatever the case of the hex digits; the bindings and the
pending actions are kept by the text of the request. If no request spells a bound hash in another
case, no two applied payments name one transaction of the chain.
-/

namespace HoldemPlatform.Service.OneTransaction

open HoldemPlatform.Lib.FiniteMap HoldemPlatform.Lib.Run
open HoldemPlatform.Domain.Money HoldemPlatform.Domain.Game HoldemPlatform.Engine.State
open HoldemPlatform.Room.Actor HoldemPlatform.Room.Effect HoldemPlatform.Gateway.Requests
open HoldemPlatform.Service.RoomService HoldemPlatform.Service.Payments
open HoldemPlatform.Service.PaymentLog

variable {Card : Type}

/-- A hex digit in lower case; other characters stay. -/
def lowerHexDigit (c : Char) : Char := if 'A' ≤ c ∧ c ≤ 'F' then c.toLower else c

/-- What the node looks up: the hash with its hex digits in lower case. -/
def onChain (txHash : String) : List Char := txHash.toList.map lowerHexDigit

/-- No two applied payments name the same transaction of the chain. -/
def DistinctTransactions (log : LoggedService Card) : Prop :=
  (log.appliedHashes.map onChain).Nodup

/-- A request with a transaction names it by the text under which it is bound, if it is bound. -/
def SameSpelling (log : LoggedService Card) : ServiceInput Card → Prop
  | .act _ request => ∀ txHash bound, request.txHash = some txHash →
      bound ∈ log.svc.chainTxRepo.txBindingsByHash → onChain bound = onChain txHash → bound = txHash
  | _ => True

/-- Bound hashes name different transactions of the chain. -/
structure DistinctInv (log : LoggedService Card) : Prop extends AppliedInv log where
  distinct : ∀ a ∈ log.svc.chainTxRepo.txBindingsByHash,
    ∀ b ∈ log.svc.chainTxRepo.txBindingsByHash, onChain a = onChain b → a = b

section

variable [RsPoker Card]

theorem distinctInv_step (config : RoomActorConfig) (log : LoggedService Card)
    (input : ServiceInput Card) (hspell : SameSpelling log input) (hinv : DistinctInv log) :
    DistinctInv (logStep config log input) where
  toAppliedInv := appliedInv_step config log input hinv.toAppliedInv
  distinct a ha b hb heq := by
    rcases binding_origin config ha with ha' | ⟨env, request, rfl, hhash⟩ <;>
      rcases binding_origin config hb with hb' | ⟨env', request', hinput, hhash'⟩
    · exact hinv.distinct a ha' b hb' heq
    · subst hinput
      exact hspell b a hhash' ha' heq
    · exact (hspell a b hhash hb' heq.symm).symm
    · cases hinput
      rw [hhash] at hhash'
      exact Option.some.inj hhash'

/-- **One transaction funds at most one action** in every run whose requests spell a bound hash as it
is bound. -/
theorem one_transaction_one_action (config : RoomActorConfig) (inputs : List (ServiceInput Card))
    (hall : AllSteps (logStep config) SameSpelling {} inputs) :
    DistinctTransactions (run (logStep config) {} inputs) := by
  have hinit : DistinctInv ({} : LoggedService Card) := by
    refine ⟨appliedInv_init, ?_⟩
    intro a ha
    exact absurd ha (AList.notMem_empty a)
  have hinv := hall.run_inv DistinctInv (distinctInv_step config) hinit
  exact hinv.once.map_on fun a ha b hb heq =>
    hinv.distinct a (hinv.bound a ha) b (hinv.bound b hb) heq

end

/-- The small blind calls, and the big blind raises; each pays with the given transaction. -/
def callAndRaise (callHash raiseHash : String) : List (ServiceInput ByteCard) :=
  tableInputs ++
    [.act tableEnv (payRequest 1 0 "call" "100000000000000" callHash), matchedCallback 1 0 callHash,
      .act tableEnv (payRequest 2 1 "raise_to" "400000000000000" raiseHash),
      matchedCallback 2 1 raiseHash]

/-- One transaction in two spellings funds a call and a raise. -/
theorem two_spellings_fund_two_actions :
    (run (logStep {}) {} (callAndRaise "0xAB" "0xab")).appliedHashes = ["0xAB", "0xab"] ∧
      ¬ DistinctTransactions (run (logStep {}) {} (callAndRaise "0xAB" "0xab")) := by
  have happlied : (run (logStep {}) {} (callAndRaise "0xAB" "0xab")).appliedHashes =
      ["0xAB", "0xab"] := by decide +kernel
  refine ⟨happlied, ?_⟩
  rw [DistinctTransactions, happlied]
  decide +kernel

theorem sameSpelling_act {log : LoggedService Card} {env : RoomEnv Card} {request : GameActRequest}
    {txHash : String} (hhash : request.txHash = some txHash)
    (h : ∀ bound ∈ log.svc.chainTxRepo.txBindingsByHash.keys,
      onChain bound = onChain txHash → bound = txHash) :
    SameSpelling log (.act env request) := by
  intro other bound hother hbound heq
  rw [hhash, Option.some.injEq] at hother
  subst hother
  exact h bound (AList.mem_keys.1 hbound) heq

/-- Two transactions fund a call and a raise. -/
theorem two_transactions_fund_two_actions :
    (run (logStep {}) {} (callAndRaise "0xAB" "0xcd")).appliedHashes = ["0xAB", "0xcd"] ∧
      DistinctTransactions (run (logStep {}) {} (callAndRaise "0xAB" "0xcd")) := by
  refine ⟨by decide +kernel, one_transaction_one_action {} _ ?_⟩
  refine ⟨trivial, trivial, trivial, trivial, trivial, trivial, trivial, trivial, trivial,
    sameSpelling_act rfl ?_, trivial, sameSpelling_act rfl ?_, trivial, trivial⟩ <;>
  decide +kernel

end HoldemPlatform.Service.OneTransaction
