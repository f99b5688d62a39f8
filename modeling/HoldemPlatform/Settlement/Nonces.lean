import HoldemPlatform.Settlement.Orchestrator
import HoldemPlatform.Lib.Run

/-!
# The Nonces of Settlement Transactions

The adapter numbers its transactions by the node's pending count or by its own counter, whichever is
further. The count is read before the counter is locked, so concurrent calls reserve with old counts
(`callStep`). The counter saturates at the last `u64`: the nonces increase exactly as long as no count
leaves too few of them for the reservations that follow (`nonces_increase_iff`).

A nonce is reserved before its transaction is sent and is not given back when the node rejects it. The
transactions of sequential calls are accepted in turn exactly if none is accepted after a rejected one
(`accepted_in_turn_iff`).
-/

namespace HoldemPlatform.Settlement.Nonces

open HoldemPlatform.Lib.FiniteMap HoldemPlatform.Lib.Run HoldemPlatform.Domain.Money
open HoldemPlatform.Domain.Game HoldemPlatform.Settlement.Orchestrator

/-! ### Reserving a nonce -/

/-- `parse_hex_u64` of the text of a number. -/
def parseHexU64 (quantity : ℕ) : Except String ℕ :=
  if quantity < 2 ^ 64 then .ok quantity else .error "number too large to fit in target type"

/-- What happens under the lock: the nonce, and the counter from then on. -/
def reserve (nextNonce : Option ℕ) (chainPending : ℕ) : ℕ × Option ℕ :=
  let nonce := match nextNonce with
    | some localNext => max localNext chainPending
    | none => chainPending
  (nonce, some (saturatingAdd 64 nonce 1))

/-- `reserve_nonce` of both adapters, with what the node answers to `eth_getTransactionCount`. -/
def reserveNonce (nextNonce : Option ℕ) (reply : Except String ℕ) : Except String ℕ × Option ℕ :=
  match reply.bind parseHexU64 with
  | .error e => (.error e, nextNonce)
  | .ok chainPending => (.ok (reserve nextNonce chainPending).1, (reserve nextNonce chainPending).2)

def ReqwestEvmSettlementWalletAdapter.reserveNonce := Nonces.reserveNonce

def ReqwestEvmBatchSettlementWalletAdapter.reserveNonce := Nonces.reserveNonce

theorem reserve_fst (nextNonce : Option ℕ) (chainPending : ℕ) :
    (reserve nextNonce chainPending).1 = max (nextNonce.getD 0) chainPending := by
  cases nextNonce with
  | none => exact (Nat.zero_max _).symm
  | some localNext => rfl

theorem reserve_snd (nextNonce : Option ℕ) (chainPending : ℕ) :
    (reserve nextNonce chainPending).2 =
      some (min (max (nextNonce.getD 0) chainPending + 1) (2 ^ 64 - 1)) := by
  rw [← reserve_fst]
  rfl

/-! ### Concurrent calls -/

/-- A call that has its count and not yet the lock, or that has left `reserve_nonce`. -/
inductive CallState where
  | counted (chainPending : ℕ)
  | finished (result : Except String ℕ)

structure Reservation where
  chainPending : ℕ
  nonce : ℕ
deriving DecidableEq

/-- The counter that the clones share, the calls, and the reservations in the order of the lock. -/
structure AdapterState where
  nextNonce : Option ℕ := none
  calls : HashMap ℕ CallState := ∅
  reserved : List Reservation := []

inductive CallStep where
  /-- The node's answer to the count request of a call arrives. -/
  | reply (call : ℕ) (reply : Except String ℕ)
  /-- The call takes the lock. -/
  | lock (call : ℕ)

def callStep (st : AdapterState) : CallStep → AdapterState
  | .reply call reply =>
    match st.calls.lookup call with
    | some _ => st
    | none =>
      match reply.bind parseHexU64 with
      | .error e => { st with calls := st.calls.insert call (.finished (.error e)) }
      | .ok chainPending => { st with calls := st.calls.insert call (.counted chainPending) }
  | .lock call =>
    match st.calls.lookup call with
    | some (.counted chainPending) =>
      { nextNonce := (reserve st.nextNonce chainPending).2
        calls := st.calls.insert call (.finished (.ok (reserve st.nextNonce chainPending).1))
        reserved := st.reserved ++ [⟨chainPending, (reserve st.nextNonce chainPending).1⟩] }
    | _ => st

/-- A call that nothing interrupts is `reserve_nonce`. -/
theorem run_reserveNonce {st : AdapterState} {call : ℕ} (hnew : st.calls.lookup call = none)
    (reply : Except String ℕ) :
    (run callStep st [.reply call reply, .lock call]).calls.lookup call =
        some (.finished (reserveNonce st.nextNonce reply).1) ∧
      (run callStep st [.reply call reply, .lock call]).nextNonce =
        (reserveNonce st.nextNonce reply).2 := by
  simp only [run_cons, run_nil, callStep, hnew, reserveNonce]
  cases reply.bind parseHexU64 with
  | error e => simp only [AList.lookup_insert, and_self]
  | ok chainPending => simp only [AList.lookup_insert, and_self]

/-- The reservations that follow each other with the given counts. -/
def reservations : Option ℕ → List ℕ → List Reservation
  | _, [] => []
  | nextNonce, chainPending :: rest =>
    ⟨chainPending, (reserve nextNonce chainPending).1⟩ ::
      reservations (reserve nextNonce chainPending).2 rest

def counterAfter (nextNonce : Option ℕ) (counts : List ℕ) : Option ℕ :=
  run (fun nextNonce chainPending => (reserve nextNonce chainPending).2) nextNonce counts

theorem reservations_concat (counts : List ℕ) (nextNonce : Option ℕ) (chainPending : ℕ) :
    reservations nextNonce (counts ++ [chainPending]) = reservations nextNonce counts ++
      [⟨chainPending, (reserve (counterAfter nextNonce counts) chainPending).1⟩] := by
  induction counts generalizing nextNonce with
  | nil => rfl
  | cons count counts ih =>
    rw [List.cons_append, reservations, reservations, ih, List.cons_append]
    rfl

/-- The counts are numbers of 64 bits, and what is reserved follows from them. -/
structure Reserving (st : AdapterState) : Prop where
  counted : ∀ call chainPending, st.calls.lookup call = some (.counted chainPending) →
    chainPending < 2 ^ 64
  bounded : ∀ count ∈ st.reserved.map Reservation.chainPending, count < 2 ^ 64
  counter : st.nextNonce = counterAfter none (st.reserved.map Reservation.chainPending)
  reserved : st.reserved = reservations none (st.reserved.map Reservation.chainPending)

theorem lt_of_parseHexU64 {quantity n : ℕ} (h : parseHexU64 quantity = .ok n) : n < 2 ^ 64 := by
  unfold parseHexU64 at h
  split_ifs at h with hlt
  cases h
  exact hlt

theorem lt_of_bind_parseHexU64 {reply : Except String ℕ} {n : ℕ}
    (h : reply.bind parseHexU64 = .ok n) : n < 2 ^ 64 := by
  cases reply with
  | error e => cases h
  | ok quantity => exact lt_of_parseHexU64 h

theorem reserving_step {st : AdapterState} (h : Reserving st) (step : CallStep) :
    Reserving (callStep st step) := by
  cases step with
  | reply call reply =>
    simp only [callStep]
    cases st.calls.lookup call with
    | some state => exact h
    | none =>
      cases hparse : reply.bind parseHexU64 with
      | error e =>
        refine ⟨fun call' chainPending hlookup => ?_, h.bounded, h.counter, h.reserved⟩
        rcases lookup_insert_cases hlookup with ⟨-, heq⟩ | ⟨-, hold⟩
        · cases heq
        · exact h.counted call' chainPending hold
      | ok n =>
        refine ⟨fun call' chainPending hlookup => ?_, h.bounded, h.counter, h.reserved⟩
        rcases lookup_insert_cases hlookup with ⟨-, heq⟩ | ⟨-, hold⟩
        · cases heq
          exact lt_of_bind_parseHexU64 hparse
        · exact h.counted call' chainPending hold
  | lock call =>
    simp only [callStep]
    cases hcall : st.calls.lookup call with
    | none => exact h
    | some state =>
      cases state with
      | finished result => exact h
      | counted chainPending =>
        refine ⟨fun call' chainPending' hlookup => ?_, ?_, ?_, ?_⟩
        · rcases lookup_insert_cases hlookup with ⟨-, heq⟩ | ⟨-, hold⟩
          · cases heq
          · exact h.counted call' chainPending' hold
        · rw [List.map_append, List.forall_mem_append]
          exact ⟨h.bounded, List.forall_mem_singleton.2 (h.counted call chainPending hcall)⟩
        · rw [List.map_append, List.map_singleton, counterAfter, run_concat, ← counterAfter, ← h.counter]
        · rw [List.map_append, List.map_singleton, reservations_concat, ← h.counter, ← h.reserved]

theorem reserving_run (steps : List CallStep) : Reserving (run callStep {} steps) :=
  run_inv Reserving (fun _ step h => reserving_step h step) steps
    ⟨nofun, nofun, rfl, rfl⟩

/-! ### Increasing nonces -/

/-- Every count leaves a nonce of its own for each of the reservations after it. -/
def LeavesRoom : List ℕ → Prop
  | [] => True
  | count :: rest => count + rest.length < 2 ^ 64 ∧ LeavesRoom rest

instance : ∀ counts, Decidable (LeavesRoom counts)
  | [] => .isTrue trivial
  | _ :: rest =>
    have := instDecidableLeavesRoom rest
    inferInstanceAs (Decidable (_ ∧ _))

theorem counter_le_nonce {counts : List ℕ} {localNext : ℕ} (hlt : localNext < 2 ^ 64) :
    ∀ r ∈ reservations (some localNext) counts, localNext ≤ r.nonce := by
  induction counts generalizing localNext with
  | nil => exact List.forall_mem_nil _
  | cons count counts ih =>
    rw [reservations, reserve_fst, reserve_snd]
    refine List.forall_mem_cons.2 ⟨le_max_left _ _, fun r hr => ?_⟩
    have hnext := le_max_left localNext count
    have hle := ih (by omega) r hr
    rw [Option.getD_some] at hle
    omega

/-- The nonces after one are beyond it, unless it was the last there is. -/
theorem lt_reservations_iff {counts : List ℕ} {nonce : ℕ} (hcounts : ∀ count ∈ counts, count < 2 ^ 64) :
    (∀ r ∈ reservations (some (min (nonce + 1) (2 ^ 64 - 1))) counts, nonce < r.nonce) ↔
      counts.length = 0 ∨ nonce + 1 < 2 ^ 64 := by
  constructor
  · intro h
    cases counts with
    | nil => exact .inl rfl
    | cons count counts =>
      have hcount := hcounts count List.mem_cons_self
      have hfirst : nonce < (reserve (some _) count).1 := h _ List.mem_cons_self
      rw [reserve_fst, Option.getD_some] at hfirst
      omega
  · rintro (hnil | hlt) r hr
    · rw [List.eq_nil_of_length_eq_zero hnil] at hr
      exact absurd hr List.not_mem_nil
    · have hle := counter_le_nonce (by omega) r hr
      omega

/-- **One counter**: from where it stands, the nonces increase exactly if it leaves room for all the
reservations, and each count does for those after it. -/
theorem reservations_pairwise_iff {counts : List ℕ} {nextNonce : Option ℕ}
    (hlt : nextNonce.getD 0 < 2 ^ 64) (hcounts : ∀ count ∈ counts, count < 2 ^ 64) :
    (reservations nextNonce counts).Pairwise (fun a b => a.nonce < b.nonce) ↔
      nextNonce.getD 0 + counts.length ≤ 2 ^ 64 ∧ LeavesRoom counts := by
  induction counts generalizing nextNonce with
  | nil => exact iff_of_true .nil ⟨hlt.le, trivial⟩
  | cons count counts ih =>
    obtain ⟨hcount, hcounts⟩ := List.forall_mem_cons.1 hcounts
    rw [reservations, List.pairwise_cons, reserve_fst, reserve_snd, lt_reservations_iff hcounts,
      ih (by rw [Option.getD_some]; omega) hcounts, Option.getD_some, LeavesRoom, List.length_cons]
    generalize nextNonce.getD 0 = localNext at hlt ⊢
    -- both sides say that the larger of the two leaves room
    have harith : (counts.length = 0 ∨ max localNext count + 1 < 2 ^ 64) ∧
        min (max localNext count + 1) (2 ^ 64 - 1) + counts.length ≤ 2 ^ 64 ↔
          localNext + (counts.length + 1) ≤ 2 ^ 64 ∧ count + counts.length < 2 ^ 64 := by
      omega
    rw [← and_assoc, harith, and_assoc]

/-- **Nonces are never reused as long as there are enough of them.** Whatever the interleaving of the
answers of the node and the locks, the nonces increase in the order of the locks exactly if every count
leaves one for each reservation after its own. -/
theorem nonces_increase_iff (steps : List CallStep) :
    (run callStep {} steps).reserved.Pairwise (fun a b => a.nonce < b.nonce) ↔
      LeavesRoom ((run callStep {} steps).reserved.map Reservation.chainPending) := by
  have h := reserving_run steps
  have hroom : ∀ {counts : List ℕ}, LeavesRoom counts → counts.length ≤ 2 ^ 64 := by
    intro counts hcounts
    cases counts with
    | nil => exact Nat.zero_le _
    | cons count counts =>
      have hfirst := hcounts.1
      rw [List.length_cons]
      omega
  have hpairwise := @reservations_pairwise_iff _ none (Nat.two_pow_pos 64) h.bounded
  rw [← h.reserved] at hpairwise
  rw [hpairwise]
  refine ⟨fun hboth => hboth.2, fun hleaves => ⟨?_, hleaves⟩⟩
  rw [Option.getD_none, Nat.zero_add]
  exact hroom hleaves

/-- Three calls; two of them are answered with an old count. -/
def lastNonces : List CallStep :=
  [.reply 0 (.ok (2 ^ 64 - 2)), .reply 1 (.ok 0), .reply 2 (.ok 0), .lock 0, .lock 1, .lock 2]

/-- The last nonce is reserved twice. -/
theorem last_nonce_twice :
    (run callStep {} lastNonces).reserved =
        [⟨2 ^ 64 - 2, 2 ^ 64 - 2⟩, ⟨0, 2 ^ 64 - 1⟩, ⟨0, 2 ^ 64 - 1⟩] ∧
      (∀ r ∈ (run callStep {} lastNonces).reserved, r.chainPending < 2 ^ 64 - 1) ∧
      ¬ (run callStep {} lastNonces).reserved.Pairwise (fun a b => a.nonce < b.nonce) := by
  have hreserved : (run callStep {} lastNonces).reserved =
      [⟨2 ^ 64 - 2, 2 ^ 64 - 2⟩, ⟨0, 2 ^ 64 - 1⟩, ⟨0, 2 ^ 64 - 1⟩] := by decide +kernel
  rw [hreserved]
  decide +kernel

/-! ### Rejected transactions -/

structure EthTransaction where
  fromAddress : String
  toAddress : String
  value : ℕ
  nonce : ℕ
deriving DecidableEq

/-- What the node does in a call: it gives no count, or it does and takes or rejects the transaction. -/
inductive NodeReply where
  | noCount (e : String)
  | sent (reply : Except String String)

/-- The counter of the adapter, and how many transactions of its address the node has accepted. -/
structure Wallet where
  nextNonce : Option ℕ := none
  accepted : ℕ

/-- A transaction that was sent, when that many had been accepted. -/
structure Submission where
  transaction : EthTransaction
  acceptedBefore : ℕ
  accepted : Bool
deriving DecidableEq

structure SubmitOutcome where
  wallet : Wallet
  submission : Option Submission
  result : Except String String

/-- `submit_transfer`, against a node whose pending count is what it has accepted. -/
def submitTransfer (fromAddress : String) (wallet : Wallet) (request : SettlementTransferRequest) :
    NodeReply → SubmitOutcome
  | .noCount e => ⟨wallet, none, .error e⟩
  | .sent reply =>
    match ReqwestEvmSettlementWalletAdapter.reserveNonce wallet.nextNonce (.ok wallet.accepted) with
    | (.error e, nextNonce) => ⟨{ wallet with nextNonce }, none, .error e⟩
    | (.ok nonce, nextNonce) =>
      let transaction : EthTransaction :=
        { fromAddress, toAddress := request.toAddress, value := request.amount.asU128, nonce }
      match reply with
      | .error e => ⟨{ wallet with nextNonce }, some ⟨transaction, wallet.accepted, false⟩, .error e⟩
      | .ok txHash =>
        ⟨{ nextNonce, accepted := wallet.accepted + 1 }, some ⟨transaction, wallet.accepted, true⟩,
          .ok txHash⟩

def submissions (fromAddress : String) :
    Wallet → List (SettlementTransferRequest × NodeReply) → List Submission
  | _, [] => []
  | wallet, (request, reply) :: rest =>
    (submitTransfer fromAddress wallet request reply).submission.toList ++
      submissions fromAddress (submitTransfer fromAddress wallet request reply).wallet rest

/-- The nonce is the number of the transaction. -/
def Submission.InTurn (s : Submission) : Prop := s.accepted = true → s.transaction.nonce = s.acceptedBefore

section

variable {fromAddress : String} {wallet : Wallet} {request : SettlementTransferRequest}

/-- **What a call does**: nothing, or it sends a transaction under the next nonce and counts on, and the
node counts the transaction if it takes it. -/
theorem submitTransfer_cases (reply : NodeReply) :
    ((submitTransfer fromAddress wallet request reply).submission = none ∧
      (submitTransfer fromAddress wallet request reply).wallet = wallet) ∨
    ∃ s, (submitTransfer fromAddress wallet request reply).submission = some s ∧
      wallet.accepted < 2 ^ 64 ∧ s.transaction.nonce = max (wallet.nextNonce.getD 0) wallet.accepted ∧
      s.acceptedBefore = wallet.accepted ∧
      (submitTransfer fromAddress wallet request reply).wallet =
        ⟨some (min (s.transaction.nonce + 1) (2 ^ 64 - 1)),
          wallet.accepted + if s.accepted then 1 else 0⟩ := by
  cases reply with
  | noCount e => exact .inl ⟨rfl, rfl⟩
  | sent reply =>
    simp only [submitTransfer, ReqwestEvmSettlementWalletAdapter.reserveNonce, reserveNonce, Except.bind,
      parseHexU64]
    split_ifs with hlt
    · right
      cases reply with
      | error e => exact ⟨_, rfl, hlt, reserve_fst .., rfl, rfl⟩
      | ok txHash => exact ⟨_, rfl, hlt, reserve_fst .., rfl, rfl⟩
    · exact .inl ⟨rfl, rfl⟩

/-- Once the counter is ahead of the node, a transaction that is accepted is not in turn; and the counter
stays ahead as long as none is. -/
theorem none_accepted_of_gap {calls : List (SettlementTransferRequest × NodeReply)} {localNext : ℕ}
    (hnext : wallet.nextNonce = some localNext) (hlt : localNext < 2 ^ 64)
    (hgap : wallet.accepted < localNext)
    (hturn : ∀ s ∈ submissions fromAddress wallet calls, s.InTurn) :
    ∀ s ∈ submissions fromAddress wallet calls, s.accepted = false := by
  induction calls generalizing wallet localNext with
  | nil => exact List.forall_mem_nil _
  | cons call calls ih =>
    obtain ⟨request, reply⟩ := call
    rw [submissions] at hturn ⊢
    rcases @submitTransfer_cases fromAddress wallet request reply with
      ⟨hnone, hsame⟩ | ⟨s, hs, hcount, hnonce, hbefore, hwallet⟩
    · rw [hnone, hsame] at hturn ⊢
      exact ih hnext hlt hgap hturn
    · rw [hnext, Option.getD_some, max_eq_left hgap.le] at hnonce
      rw [hs, Option.toList_some, List.singleton_append, List.forall_mem_cons] at hturn ⊢
      have hrejected : s.accepted = false := by
        by_contra hnot
        have heq := hturn.1 (by simpa using hnot)
        omega
      have hahead : wallet.accepted < min (localNext + 1) (2 ^ 64 - 1) := by omega
      rw [hwallet, hrejected, hnonce] at hturn
      rw [hwallet, hrejected, hnonce]
      exact ⟨rfl, ih rfl (by omega) hahead hturn.2⟩

/-- As long as the counter is not ahead of the node, the transactions are in turn exactly if none is
accepted after one that was rejected, the last number apart: it is not counted on from. -/
theorem inTurn_iff_of_level {calls : List (SettlementTransferRequest × NodeReply)}
    (hlevel : wallet.nextNonce.getD 0 ≤ wallet.accepted) :
    (∀ s ∈ submissions fromAddress wallet calls, s.InTurn) ↔
      (submissions fromAddress wallet calls).Pairwise fun a b =>
        b.accepted = true → a.accepted = true ∨ a.acceptedBefore = 2 ^ 64 - 1 := by
  induction calls generalizing wallet with
  | nil => exact iff_of_true (List.forall_mem_nil _) .nil
  | cons call calls ih =>
    obtain ⟨request, reply⟩ := call
    rw [submissions]
    rcases @submitTransfer_cases fromAddress wallet request reply with
      ⟨hnone, hsame⟩ | ⟨s, hs, hcount, hnonce, hbefore, hwallet⟩
    · rw [hnone, hsame]
      exact ih hlevel
    · rw [max_eq_right hlevel] at hnonce
      rw [hs, Option.toList_some, List.singleton_append, List.forall_mem_cons, List.pairwise_cons]
      have hfirst : s.InTurn := fun _ => hnonce.trans hbefore.symm
      by_cases hok : s.accepted = true ∨ s.acceptedBefore = 2 ^ 64 - 1
      · have hlevel' : (some (min (s.transaction.nonce + 1) (2 ^ 64 - 1))).getD 0 ≤
            wallet.accepted + if s.accepted then 1 else 0 := by
          rw [Option.getD_some]
          rcases hok with haccepted | hlast
          · rw [if_pos haccepted]
            omega
          · omega
        rw [hwallet, ih hlevel', and_iff_right hfirst, and_iff_right fun _ _ _ => hok]
      · -- the counter is ahead from here on
        have hrejected : s.accepted = false := by simpa using fun haccepted => hok (.inl haccepted)
        have hahead : wallet.accepted + (if s.accepted then 1 else 0) <
            min (s.transaction.nonce + 1) (2 ^ 64 - 1) := by
          have hnotLast : s.acceptedBefore ≠ 2 ^ 64 - 1 := fun hlast => hok (.inr hlast)
          rw [hrejected, if_neg (by decide)]
          omega
        rw [hwallet]
        constructor
        · rintro ⟨-, hturn⟩
          have hnone := none_accepted_of_gap rfl (by omega) hahead hturn
          refine ⟨fun b hb haccepted => ?_, List.pairwise_of_forall_mem_list fun a _ b hb haccepted => ?_⟩
          · exact absurd haccepted (by simp [hnone b hb])
          · exact absurd haccepted (by simp [hnone b hb])
        · rintro ⟨hnone, -⟩
          exact ⟨hfirst, fun b hb haccepted => absurd (hnone b hb haccepted) hok⟩

end

/-- **Transactions are accepted in turn** in sequential calls, each under the number of those accepted
before, exactly if none is accepted after one that was rejected. The one with the last number is the
exception, as the counter does not go beyond it. -/
theorem accepted_in_turn_iff (fromAddress : String) (accepted : ℕ)
    (calls : List (SettlementTransferRequest × NodeReply)) :
    (∀ s ∈ submissions fromAddress { accepted } calls,
      s.accepted = true → s.transaction.nonce = s.acceptedBefore) ↔
      (submissions fromAddress { accepted } calls).Pairwise fun a b =>
        b.accepted = true → a.accepted = true ∨ a.acceptedBefore = 2 ^ 64 - 1 :=
  inTurn_iff_of_level (Nat.zero_le accepted)

def rejectedThenAccepted : List (SettlementTransferRequest × NodeReply) :=
  [(⟨⟨0⟩, ⟨0⟩, 0, "0xb", .ofU128 1⟩, .sent (.error "insufficient funds")),
    (⟨⟨0⟩, ⟨0⟩, 1, "0xc", .ofU128 2⟩, .sent (.ok "0x10"))]

/-- The accepted transaction waits for a nonce that is not used. -/
theorem gap_after_rejection :
    submissions "0xa" { accepted := 0 } rejectedThenAccepted =
        [⟨⟨"0xa", "0xb", 1, 0⟩, 0, false⟩, ⟨⟨"0xa", "0xc", 2, 1⟩, 0, true⟩] ∧
      ¬ ∀ s ∈ submissions "0xa" { accepted := 0 } rejectedThenAccepted,
        s.accepted = true → s.transaction.nonce = s.acceptedBefore := by
  have hsent : submissions "0xa" { accepted := 0 } rejectedThenAccepted =
      [⟨⟨"0xa", "0xb", 1, 0⟩, 0, false⟩, ⟨⟨"0xa", "0xc", 2, 1⟩, 0, true⟩] := by decide +kernel
  rw [hsent]
  decide +kernel

end HoldemPlatform.Settlement.Nonces
