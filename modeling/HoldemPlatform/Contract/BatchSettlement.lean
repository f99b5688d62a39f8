import HoldemPlatform.Lib.Run
import Mathlib.Algebra.BigOperators.Group.List.Basic
import Mathlib.Algebra.Ring.Nat
import Mathlib.Data.BitVec
import Mathlib.Data.Finset.Insert
import Mathlib.Data.Nat.Init

/-!
# The Contract `BatchSettlement`

`settleBatch` pays a list of recipients from the value sent with the call, once for each settlement id. A
recipient runs its own code when it is paid, and that code may call `settleBatch` again. What the code
outside the contract does in one transaction is a `Script`: it calls `settleBatch`, with the scripts of the
recipients that are paid, or other contracts, which may revert while their caller goes on, and it returns
or reverts. A call that runs out of gas is undone like every reverted one, so it is not in the script.

`exec_grows` says once what a script can do to the contract; every reverted call leaves no trace, so the
log of calls and of transfers in a state are those that were not reverted.
-/

namespace HoldemPlatform.Contract.BatchSettlement

open HoldemPlatform.Lib.Run

abbrev Address := BitVec 160

abbrev Uint256 := BitVec 256

abbrev Bytes32 := BitVec 256

inductive BatchError where
  | lengthMismatch
  | emptyBatch
  | zeroRecipient
  | invalidValue
  | alreadySettled (settlementId : Bytes32)
  | transferFailed (recipient : Address) (amount : Uint256)
deriving DecidableEq

structure Message where
  sender : Address
  value : Uint256
  recipients : List Address
  amounts : List Uint256
  settlementId : Bytes32
deriving DecidableEq

structure BatchSettled where
  settlementId : Bytes32
  transferCount : ℕ
  totalAmount : Uint256
deriving DecidableEq

/-- A transfer out of the contract, and the batch it was made for. -/
structure Transfer where
  settlementId : Bytes32
  recipient : Address
  amount : Uint256
deriving DecidableEq

/-- The contract: its storage and balance, the events it has emitted, the transfers it has made, and the
calls that have come to their end. -/
structure World where
  settled : Finset Bytes32 := ∅
  balance : ℕ := 0
  events : List BatchSettled := []
  transfers : List Transfer := []
  calls : List Message := []
deriving DecidableEq

/-! ### The function -/

/-- The first loop; sums wrap around. -/
def checkRecipients : List (Address × Uint256) → Uint256 → Except BatchError Uint256
  | [], total => .ok total
  | (recipient, amount) :: rest, total =>
    if recipient = 0 then .error .zeroRecipient else checkRecipients rest (total + amount)

/-- `to.call{value: amount}("")`; `react` is what the recipient does, `none` if it reverts. The contract
itself takes no plain transfer. -/
def callValue (self : Address) (react : World → Option World) (transfer : Transfer) (w : World) :
    Option World :=
  if w.balance < transfer.amount.toNat then none
  else if transfer.recipient = self then none
  else
    react { w with
      balance := w.balance - transfer.amount.toNat
      transfers := w.transfers ++ [transfer] }

/-- The loop of the payments; the `i`-th recipient reacts with `react i`. -/
def payRecipients (self : Address) (react : ℕ → World → Option World) (settlementId : Bytes32) :
    ℕ → List (Address × Uint256) → World → Except BatchError World
  | _, [], w => .ok w
  | i, (recipient, amount) :: rest, w =>
    match callValue self (react i) { settlementId, recipient, amount } w with
    | none => .error (.transferFailed recipient amount)
    | some w' => payRecipients self react settlementId (i + 1) rest w'

def Message.pairs (msg : Message) : List (Address × Uint256) := msg.recipients.zip msg.amounts

/-- `settleBatch`, from the state before the value of the call has arrived. -/
def settleBatch (self : Address) (react : ℕ → World → Option World) (msg : Message) (w : World) :
    Except BatchError World :=
  if msg.recipients.length = 0 then .error .emptyBatch
  else if msg.recipients.length ≠ msg.amounts.length then .error .lengthMismatch
  else if msg.settlementId ∈ w.settled then .error (.alreadySettled msg.settlementId)
  else
    match checkRecipients msg.pairs 0 with
    | .error e => .error e
    | .ok total =>
      if total ≠ msg.value then .error .invalidValue
      else
        match payRecipients self react msg.settlementId 0 msg.pairs
            { w with
              balance := w.balance + msg.value.toNat
              settled := insert msg.settlementId w.settled } with
        | .error e => .error e
        | .ok w' =>
          .ok { w' with
            events := w'.events ++
              [{ settlementId := msg.settlementId, transferCount := msg.recipients.length,
                 totalAmount := total }]
            calls := w'.calls ++ [msg] }

/-! ### The code outside the contract -/

/-- What some code does. -/
inductive Script where
  | done
  | revert
  | settleBatch (msg : Message) (reactions : ℕ → Script) (next : Script)
  /-- Another contract is called; if it reverts, its caller may go on. -/
  | call (inner next : Script)

/-- The state after the code has run, `none` if it reverts; a call that reverts changes nothing. -/
def exec (self : Address) : Script → World → Option World
  | .done, w => some w
  | .revert, _ => none
  | .settleBatch msg reactions next, w =>
    match settleBatch self (fun i => exec self (reactions i)) msg w with
    | .error _ => exec self next w
    | .ok w' => exec self next w'
  | .call inner next, w => exec self next ((exec self inner w).getD w)

def transact (self : Address) (w : World) (tx : Script) : World := (exec self tx w).getD w

/-- Every call of `settleBatch` in the script, also of a recipient that is paid, meets `P`. -/
def Script.AllCalls (P : Message → Prop) : Script → Prop
  | .done => True
  | .revert => True
  | .settleBatch msg reactions next =>
    P msg ∧ (∀ i < msg.recipients.length, (reactions i).AllCalls P) ∧ next.AllCalls P
  | .call inner next => inner.AllCalls P ∧ next.AllCalls P

/-! ### What a script does to the contract -/

def World.paidUnder (w : World) (settlementId : Bytes32) : List (Address × Uint256) :=
  (w.transfers.filter fun t => t.settlementId = settlementId).map fun t => (t.recipient, t.amount)

/-- Nothing was paid under an id that is not settled. -/
def Clean (w : World) : Prop := ∀ id ∉ w.settled, w.paidUnder id = []

/-- The call has paid what it asks for, under its id nothing else was paid, and the value sent with it is
the sum as the contract computes it. -/
structure PaidOut (w : World) (msg : Message) : Prop where
  settled : msg.settlementId ∈ w.settled
  lengths : msg.recipients.length = msg.amounts.length
  paid : w.paidUnder msg.settlementId = msg.pairs
  value : msg.amounts.sum = msg.value

def Message.event (msg : Message) : BatchSettled :=
  { settlementId := msg.settlementId, transferCount := msg.recipients.length, totalAmount := msg.value }

/-- From `w` to `w'` some calls under fresh ids have come to their end and have paid out, each with its
event; under an id that was settled before, `sent` was paid. -/
structure Grows (P : Message → Prop) (sent : Bytes32 → List (Address × Uint256)) (w w' : World) :
    Prop where
  clean : Clean w'
  kept : ∀ id ∈ w.settled, w'.paidUnder id = w.paidUnder id ++ sent id
  calls : ∃ new, w'.calls = w.calls ++ new ∧ w'.events = w.events ++ new.map Message.event ∧
    (new.map Message.settlementId).Nodup ∧
    (∀ msg ∈ new, P msg ∧ msg.settlementId ∉ w.settled ∧ PaidOut w' msg) ∧
    ∀ id, id ∈ w'.settled ↔ id ∈ w.settled ∨ id ∈ new.map Message.settlementId

theorem Grows.subset {P : Message → Prop} {sent : Bytes32 → List (Address × Uint256)} {w w' : World}
    (h : Grows P sent w w') {id : Bytes32} (hid : id ∈ w.settled) : id ∈ w'.settled := by
  obtain ⟨new, -, -, -, -, hsettled⟩ := h.calls
  exact (hsettled id).2 (.inl hid)

theorem Grows.refl {P : Message → Prop} {w : World} (h : Clean w) : Grows P (fun _ => []) w w := by
  refine ⟨h, fun id _ => (List.append_nil _).symm, [], ?_, ?_, List.nodup_nil, nofun, fun id => ?_⟩
  · exact (List.append_nil _).symm
  · exact (List.append_nil _).symm
  · simp

/-- **One after the other**: what the second part sends was sent for batches that were open before. -/
theorem Grows.trans {P : Message → Prop} {sent sent' : Bytes32 → List (Address × Uint256)}
    {w w' w'' : World} (h : Grows P sent w w') (h' : Grows P sent' w' w'')
    (hopen : ∀ id ∉ w.settled, sent' id = []) :
    Grows P (fun id => sent id ++ sent' id) w w'' := by
  obtain ⟨new, hcalls, hevents, hnodup, hnew, hsettled⟩ := h.calls
  obtain ⟨new', hcalls', hevents', hnodup', hnew', hsettled'⟩ := h'.calls
  refine ⟨h'.clean, fun id hid => ?_, new ++ new', ?_, ?_, ?_, fun msg hmsg => ?_, fun id => ?_⟩
  · rw [h'.kept id (h.subset hid), h.kept id hid, List.append_assoc]
  · rw [hcalls', hcalls, List.append_assoc]
  · rw [hevents', hevents, List.map_append, List.append_assoc]
  · -- the ids of the second part are fresh for the first one
    rw [List.map_append, List.nodup_append]
    refine ⟨hnodup, hnodup', fun id hid id' hid' heq => ?_⟩
    subst heq
    obtain ⟨msg, hmsg, rfl⟩ := List.mem_map.1 hid'
    exact (hnew' msg hmsg).2.1 ((hsettled _).2 (.inr hid))
  · rcases List.mem_append.1 hmsg with hmsg | hmsg
    · obtain ⟨hP, hfresh, hpaid⟩ := hnew msg hmsg
      refine ⟨hP, hfresh, h'.subset hpaid.settled, hpaid.lengths, ?_, hpaid.value⟩
      rw [h'.kept _ hpaid.settled, hpaid.paid, hopen _ hfresh, List.append_nil]
    · obtain ⟨hP, hfresh, hpaid⟩ := hnew' msg hmsg
      exact ⟨hP, fun hid => hfresh (h.subset hid), hpaid⟩
  · rw [hsettled', hsettled, List.map_append, List.mem_append, or_assoc]

theorem Grows.congr {P : Message → Prop} {sent sent' : Bytes32 → List (Address × Uint256)} {w w' : World}
    (h : Grows P sent w w') (heq : ∀ id ∈ w.settled, sent id = sent' id) : Grows P sent' w w' :=
  ⟨h.clean, fun id hid => by rw [h.kept id hid, heq id hid], h.calls⟩

section

variable {P : Message → Prop} {self : Address}

/-- What a piece of code can do, if it is run in a clean state. -/
def Behaves (P : Message → Prop) (react : World → Option World) : Prop :=
  ∀ w w', Clean w → react w = some w' → Grows P (fun _ => []) w w'

theorem paidUnder_append (w : World) (balance : ℕ) (t : Transfer) (id : Bytes32) :
    World.paidUnder { w with balance, transfers := w.transfers ++ [t] } id =
      w.paidUnder id ++ if t.settlementId = id then [(t.recipient, t.amount)] else [] := by
  unfold World.paidUnder
  rw [List.filter_append, List.map_append]
  by_cases h : t.settlementId = id <;> simp [h]

def sentUnder (settlementId : Bytes32) (pairs : List (Address × Uint256)) (id : Bytes32) :
    List (Address × Uint256) :=
  if settlementId = id then pairs else []

theorem callValue_grows {react : World → Option World} (hreact : Behaves P react) {t : Transfer}
    {w w' : World} (hclean : Clean w) (hopen : t.settlementId ∈ w.settled)
    (h : callValue self react t w = some w') :
    Grows P (sentUnder t.settlementId [(t.recipient, t.amount)]) w w' := by
  unfold callValue at h
  split_ifs at h
  have hkept := paidUnder_append w (w.balance - t.amount.toNat) t
  have hclean' : Clean { w with balance := w.balance - t.amount.toNat, transfers := w.transfers ++ [t] } := by
    intro id hid
    have hne : t.settlementId ≠ id := fun heq => hid (heq ▸ hopen)
    rw [hkept, hclean id hid, if_neg hne, List.nil_append]
  have hgrows := hreact _ _ hclean' h
  refine ⟨hgrows.clean, fun id hid => ?_, hgrows.calls⟩
  rw [hgrows.kept id hid, hkept, List.append_nil]
  rfl

theorem payRecipients_grows {react : ℕ → World → Option World} {id : Bytes32} :
    ∀ {pairs : List (Address × Uint256)} {i : ℕ} {w w' : World},
      (∀ j, i ≤ j → j < i + pairs.length → Behaves P (react j)) → Clean w → id ∈ w.settled →
      payRecipients self react id i pairs w = .ok w' → Grows P (sentUnder id pairs) w w'
  | [], i, w, w', _, hclean, _, h => by
    cases h
    refine (Grows.refl hclean).congr fun id' _ => ?_
    unfold sentUnder
    split_ifs <;> rfl
  | (recipient, amount) :: rest, i, w, w', hreact, hclean, hopen, h => by
    rw [payRecipients] at h
    split at h
    · cases h
    rename_i mid hmid
    have hfirst := callValue_grows (hreact i le_rfl (by simp)) hclean hopen hmid
    have hrest := payRecipients_grows
      (fun j hle hlt => hreact j (by omega) (by rw [List.length_cons]; omega)) hfirst.clean
      (hfirst.subset hopen) h
    refine (hfirst.trans hrest fun id' hid' => ?_).congr fun id' _ => ?_
    · have hne : id ≠ id' := fun heq => hid' (heq ▸ hopen)
      rw [sentUnder, if_neg hne]
    · simp only [sentUnder]
      split_ifs <;> rfl

theorem checkRecipients_ok : ∀ {pairs : List (Address × Uint256)} {total total' : Uint256},
    checkRecipients pairs total = .ok total' → total' = total + (pairs.map Prod.snd).sum
  | [], total, _, h => by
    cases h
    simp
  | (recipient, amount) :: rest, total, total', h => by
    rw [checkRecipients] at h
    split_ifs at h
    rw [checkRecipients_ok h, List.map_cons, List.sum_cons, BitVec.add_assoc]

theorem map_snd_pairs {msg : Message} (h : msg.recipients.length = msg.amounts.length) :
    msg.pairs.map Prod.snd = msg.amounts :=
  List.map_snd_zip h.ge

theorem settleBatch_ok {react : ℕ → World → Option World} {msg : Message} {w w' : World}
    (h : settleBatch self react msg w = .ok w') :
    msg.recipients.length = msg.amounts.length ∧ msg.settlementId ∉ w.settled ∧
      msg.amounts.sum = msg.value ∧
      ∃ mid, payRecipients self react msg.settlementId 0 msg.pairs
          { w with
            balance := w.balance + msg.value.toNat
            settled := insert msg.settlementId w.settled } = .ok mid ∧
        w' = { mid with events := mid.events ++ [msg.event], calls := mid.calls ++ [msg] } := by
  unfold settleBatch at h
  split_ifs at h with hempty hlen hsettled
  rw [ne_eq, not_not] at hlen
  split at h
  · cases h
  rename_i total htotal
  split_ifs at h with hvalue
  rw [ne_eq, not_not] at hvalue
  split at h
  · cases h
  rename_i mid hmid
  have hsum := checkRecipients_ok htotal
  rw [map_snd_pairs hlen] at hsum
  have hzero : 0 + msg.amounts.sum = msg.amounts.sum := BitVec.zero_add _
  rw [hzero] at hsum
  cases h
  refine ⟨hlen, hsettled, hsum.symm.trans hvalue, mid, hmid, ?_⟩
  rw [Message.event, hvalue]

/-- **A call that is not reverted** pays out under its id, which was not settled before. -/
theorem settleBatch_grows {react : ℕ → World → Option World} {msg : Message}
    (hreact : ∀ i < msg.recipients.length, Behaves P (react i)) (hP : P msg) {w w' : World}
    (hclean : Clean w) (h : settleBatch self react msg w = .ok w') : Grows P (fun _ => []) w w' := by
  obtain ⟨hlen, hfresh, hsum, mid, hmid, rfl⟩ := settleBatch_ok h
  have hlength : msg.pairs.length = msg.recipients.length := by
    rw [Message.pairs, List.length_zip, hlen, Nat.min_self]
  have hstart : Clean { w with
      balance := w.balance + msg.value.toNat
      settled := insert msg.settlementId w.settled } := by
    intro id hid
    exact hclean id fun hmem => hid (Finset.mem_insert_of_mem hmem)
  have hgrows := payRecipients_grows
    (fun j _ hlt => hreact j (by omega)) hstart (Finset.mem_insert_self _ _) hmid
  obtain ⟨new, hcalls, hevents, hnodup, hnew, hsettled⟩ := hgrows.calls
  have hown : mid.paidUnder msg.settlementId = msg.pairs := by
    rw [hgrows.kept _ (Finset.mem_insert_self _ _), sentUnder, if_pos rfl]
    show w.paidUnder msg.settlementId ++ _ = _
    rw [hclean _ hfresh, List.nil_append]
  refine ⟨hgrows.clean, fun id hid => ?_, new ++ [msg], ?_, ?_, ?_, fun m hm => ?_, fun id => ?_⟩
  · have hne : msg.settlementId ≠ id := fun heq => hfresh (heq ▸ hid)
    have hkept := hgrows.kept id (Finset.mem_insert_of_mem hid)
    rwa [sentUnder, if_neg hne] at hkept
  · show mid.calls ++ [msg] = _
    rw [hcalls, List.append_assoc]
  · show mid.events ++ [msg.event] = _
    rw [hevents, List.map_append, List.append_assoc]
    rfl
  · -- the calls in between found the id settled
    rw [List.map_append, List.nodup_append]
    refine ⟨hnodup, List.nodup_singleton _, fun id hid id' hid' heq => ?_⟩
    obtain rfl := List.mem_singleton.1 hid'
    obtain ⟨m, hm, rfl⟩ := List.mem_map.1 hid
    exact (hnew m hm).2.1 (heq ▸ Finset.mem_insert_self _ _)
  · rcases List.mem_append.1 hm with hm | hm
    · obtain ⟨hPm, hfreshm, hpaid⟩ := hnew m hm
      exact ⟨hPm, fun hid => hfreshm (Finset.mem_insert_of_mem hid), hpaid.settled, hpaid.lengths,
        hpaid.paid, hpaid.value⟩
    · obtain rfl := List.mem_singleton.1 hm
      exact ⟨hP, hfresh, hgrows.subset (Finset.mem_insert_self _ _), hlen, hown, hsum⟩
  · show id ∈ mid.settled ↔ _
    rw [hsettled, Finset.mem_insert, List.map_append, List.mem_append, List.map_singleton,
      List.mem_singleton]
    tauto

/-- **What a script does to the contract.** -/
theorem exec_grows : ∀ (script : Script), script.AllCalls P → Behaves P (exec self script)
  | .done, _, w, w', hclean, h => by
    cases h
    exact Grows.refl hclean
  | .revert, _, w, w', _, h => by cases h
  | .settleBatch msg reactions next, ⟨hP, hreactions, hnext⟩, w, w', hclean, h => by
    rw [exec] at h
    split at h
    · exact exec_grows next hnext w w' hclean h
    · rename_i mid hmid
      have hfirst := settleBatch_grows
        (fun i hi => exec_grows (reactions i) (hreactions i hi)) hP hclean hmid
      have hrest := exec_grows next hnext mid w' hfirst.clean h
      exact (hfirst.trans hrest fun _ _ => rfl).congr fun _ _ => rfl
  | .call inner next, ⟨hinner, hnext⟩, w, w', hclean, h => by
    rw [exec] at h
    cases hcall : exec self inner w with
    | none =>
      rw [hcall] at h
      exact exec_grows next hnext w w' hclean h
    | some mid =>
      rw [hcall] at h
      have hfirst := exec_grows inner hinner w mid hclean hcall
      have hrest := exec_grows next hnext mid w' hfirst.clean h
      exact (hfirst.trans hrest fun _ _ => rfl).congr fun _ _ => rfl

theorem transact_grows {tx : Script} (htx : tx.AllCalls P) {w : World} (hclean : Clean w) :
    Grows P (fun _ => []) w (transact self w tx) := by
  unfold transact
  cases h : exec self tx w with
  | none => exact Grows.refl hclean
  | some w' => exact exec_grows tx htx w w' hclean h

theorem run_grows : ∀ {txs : List Script} {w : World}, (∀ tx ∈ txs, tx.AllCalls P) → Clean w →
    Grows P (fun _ => []) w (run (transact self) w txs)
  | [], _, _, hclean => Grows.refl hclean
  | tx :: txs, w, htxs, hclean => by
    have hfirst := @transact_grows P self tx (htxs tx List.mem_cons_self) w hclean
    have hrest := @run_grows txs (transact self w tx)
      (fun tx' htx' => htxs tx' (List.mem_cons_of_mem _ htx')) hfirst.clean
    exact (hfirst.trans hrest fun _ _ => rfl).congr fun _ _ => rfl

end

/-! ### The balance -/

/-- The exact sum of the amounts is a `uint256`. -/
def SumFits (msg : Message) : Prop := (msg.amounts.map BitVec.toNat).sum < 2 ^ 256

instance (msg : Message) : Decidable (SumFits msg) := inferInstanceAs (Decidable (_ < _))

theorem toNat_sum : ∀ {amounts : List Uint256}, (amounts.map BitVec.toNat).sum < 2 ^ 256 →
    amounts.sum.toNat = (amounts.map BitVec.toNat).sum
  | [], _ => rfl
  | amount :: rest, h => by
    rw [List.map_cons, List.sum_cons] at h
    have ih := @toNat_sum rest (by omega)
    rw [List.sum_cons, BitVec.toNat_add, ih, List.map_cons, List.sum_cons, Nat.mod_eq_of_lt h]

section

variable {self : Address}

/-- What a piece of code leaves of the balance: everything. -/
def KeepsBalance (react : World → Option World) : Prop :=
  ∀ w w', react w = some w' → w'.balance = w.balance

theorem payRecipients_balance {react : ℕ → World → Option World} {id : Bytes32} :
    ∀ {pairs : List (Address × Uint256)} {i : ℕ} {w w' : World},
      (∀ j, i ≤ j → j < i + pairs.length → KeepsBalance (react j)) →
      payRecipients self react id i pairs w = .ok w' →
      w'.balance + (pairs.map fun p => p.2.toNat).sum = w.balance
  | [], i, w, w', _, h => by
    cases h
    rfl
  | (recipient, amount) :: rest, i, w, w', hreact, h => by
    rw [payRecipients] at h
    split at h
    · cases h
    rename_i mid hmid
    unfold callValue at hmid
    split_ifs at hmid with hlow hself
    have hfirst := hreact i le_rfl (by simp) _ _ hmid
    have hrest := payRecipients_balance
      (fun j hle hlt => hreact j (by omega) (by rw [List.length_cons]; omega)) h
    dsimp only at hfirst hlow
    rw [List.map_cons, List.sum_cons]
    dsimp only
    omega

theorem settleBatch_balance {react : ℕ → World → Option World} {msg : Message}
    (hreact : ∀ i < msg.recipients.length, KeepsBalance (react i)) (hfits : SumFits msg) {w w' : World}
    (h : settleBatch self react msg w = .ok w') : w'.balance = w.balance := by
  obtain ⟨hlen, -, hsum, mid, hmid, rfl⟩ := settleBatch_ok h
  have hlength : msg.pairs.length = msg.recipients.length := by
    rw [Message.pairs, List.length_zip, hlen, Nat.min_self]
  have hpaid := payRecipients_balance (fun j _ hlt => hreact j (by omega)) hmid
  have htotal : (msg.pairs.map fun p => p.2.toNat).sum = msg.value.toNat := by
    rw [← hsum, toNat_sum hfits, ← map_snd_pairs hlen, List.map_map]
    rfl
  dsimp only at hpaid ⊢
  omega

theorem exec_balance : ∀ (script : Script), script.AllCalls SumFits → KeepsBalance (exec self script)
  | .done, _, w, w', h => by
    cases h
    rfl
  | .revert, _, w, w', h => by cases h
  | .settleBatch msg reactions next, ⟨hfits, hreactions, hnext⟩, w, w', h => by
    rw [exec] at h
    split at h
    · exact exec_balance next hnext w w' h
    · rename_i mid hmid
      rw [exec_balance next hnext mid w' h]
      exact settleBatch_balance (fun i hi => exec_balance (reactions i) (hreactions i hi)) hfits hmid
  | .call inner next, ⟨hinner, hnext⟩, w, w', h => by
    rw [exec] at h
    cases hcall : exec self inner w with
    | none =>
      rw [hcall] at h
      exact exec_balance next hnext w w' h
    | some mid =>
      rw [hcall] at h
      rw [exec_balance next hnext mid w' h]
      exact exec_balance inner hinner w mid hcall

end

/-- The contract after its deployment, with whatever balance its address had. -/
def deployed (balance : ℕ) : World := { balance }

theorem clean_deployed (balance : ℕ) : Clean (deployed balance) := fun _ _ => rfl

/-- **The contract pays exactly once and keeps nothing**: in every sequence of transactions there is at
most one call under an id that is not reverted; it pays what it asks for, which is the value sent with it,
and nothing else is paid under the id; and no call of `settleBatch` from outside changes the balance. -/
theorem pays_once_keeps_nothing (self : Address) (balance : ℕ) (txs : List Script)
    (hfits : ∀ tx ∈ txs, tx.AllCalls SumFits) :
    ((run (transact self) (deployed balance) txs).calls.map Message.settlementId).Nodup ∧
      (∀ msg ∈ (run (transact self) (deployed balance) txs).calls,
        msg.recipients.length = msg.amounts.length ∧
        (run (transact self) (deployed balance) txs).paidUnder msg.settlementId =
          msg.recipients.zip msg.amounts ∧
        (msg.amounts.map BitVec.toNat).sum = msg.value.toNat) ∧
      ∀ (w : World) (msg : Message) (reactions : ℕ → Script), SumFits msg →
        (∀ i < msg.recipients.length, (reactions i).AllCalls SumFits) →
        (transact self w (.settleBatch msg reactions .done)).balance = w.balance := by
  obtain ⟨new, hcalls, -, hnodup, hnew, -⟩ := (run_grows hfits (clean_deployed balance)).calls
  rw [hcalls]
  refine ⟨hnodup, fun msg hmsg => ?_, fun w msg reactions hmsg hreactions => ?_⟩
  · obtain ⟨hfit, -, hpaid⟩ := hnew msg hmsg
    refine ⟨hpaid.lengths, hpaid.paid, ?_⟩
    rw [← toNat_sum hfit, hpaid.value]
  · unfold transact
    cases h : exec self (.settleBatch msg reactions .done) w with
    | none => rfl
    | some w' =>
      have hcalls : (Script.settleBatch msg reactions .done).AllCalls SumFits :=
        ⟨hmsg, hreactions, trivial⟩
      exact exec_balance _ hcalls w w' h

/-- A batch of one payment. -/
def single (sender recipient : Address) (amount : Uint256) (settlementId : Bytes32) : Message :=
  { sender, value := amount, recipients := [recipient], amounts := [amount], settlementId }

/-- A batch for two recipients. The first one calls the contract when it is paid: under the same id, which
is refused, and under another one. -/
def reentrantTx : Script :=
  .settleBatch
    { sender := 9, value := 12, recipients := [1, 2], amounts := [5, 7], settlementId := 1 }
    (fun
      | 0 => .settleBatch (single 1 1 5 1) (fun _ => .done)
          (.settleBatch (single 1 3 4 2) (fun _ => .done) .done)
      | _ => .done)
    .done

/-- Both batches are paid, the inner one first. -/
theorem reentrant_batches_paid_once :
    (run (transact 100) (deployed 3) [reentrantTx]).calls.map Message.settlementId = [2, 1] ∧
      ((run (transact 100) (deployed 3) [reentrantTx]).calls.map Message.settlementId).Nodup ∧
      (∀ msg ∈ (run (transact 100) (deployed 3) [reentrantTx]).calls,
        msg.recipients.length = msg.amounts.length ∧
        (run (transact 100) (deployed 3) [reentrantTx]).paidUnder msg.settlementId =
          msg.recipients.zip msg.amounts ∧
        (msg.amounts.map BitVec.toNat).sum = msg.value.toNat) ∧
      (run (transact 100) (deployed 3) [reentrantTx]).balance = 3 := by
  have hfits : ∀ tx ∈ [reentrantTx], tx.AllCalls SumFits := by
    intro tx htx
    obtain rfl := List.mem_singleton.1 htx
    refine ⟨by decide, fun i _ => ?_, trivial⟩
    match i with
    | 0 => exact ⟨by decide, fun _ _ => trivial, by decide, fun _ _ => trivial, trivial⟩
    | _ + 1 => trivial
  have heval : (run (transact 100) (deployed 3) [reentrantTx]).calls.map Message.settlementId =
        [2, 1] ∧ (run (transact 100) (deployed 3) [reentrantTx]).balance = 3 := by
    decide +kernel
  obtain ⟨hnodup, hpaid, -⟩ := pays_once_keeps_nothing 100 3 [reentrantTx] hfits
  exact ⟨heval.1, hnodup, hpaid, heval.2⟩

end HoldemPlatform.Contract.BatchSettlement
