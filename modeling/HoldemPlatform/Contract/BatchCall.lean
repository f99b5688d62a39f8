import HoldemPlatform.Contract.RawTransaction

/-!
# From a Plan to the Transfers of the Contract

The room sends a batch as a raw transaction to the contract, with the call in its data. How `ethabi` writes
the call and how the contract finds the arguments in it is not part of the repository (`ContractAbi`); that
the one reads what the other has written is the assumption `ReadsCalls`. `submitted_batch_read` shows that
what comes out is the call that `submitBatchTransfer` stands for, so that what is known about this call is
known about the bytes on the wire. If all recipients are plain accounts, the call goes through exactly if
its id is new and no recipient is the zero address or the contract, and it pays the plan and nothing else
(`room_batch_settles_iff`).
-/

namespace HoldemPlatform.Contract.BatchCall

open HoldemPlatform.Domain.Money HoldemPlatform.Domain.Game
open HoldemPlatform.Settlement.Plan HoldemPlatform.Settlement.Orchestrator
open HoldemPlatform.Settlement.BatchPayouts (BatchSettlementTransferRequest)
open HoldemPlatform.Contract.BatchSettlement HoldemPlatform.Contract.UsedIds
open HoldemPlatform.Contract.RawTransaction

/-! ### The call -/

structure CallArgs where
  recipients : List Address
  amounts : List Uint256
  settlementId : Bytes32
deriving DecidableEq

/-- How `ethabi` encodes a call of `settleBatch`, and how the contract reads the data of a transaction. -/
structure ContractAbi where
  encodeInput : CallArgs → Except String (List Byte)
  readCall : List Byte → Option CallArgs

/-- **The contract reads what was encoded.** -/
def ReadsCalls (abi : ContractAbi) : Prop :=
  ∀ args data, abi.encodeInput args = .ok data → abi.readCall data = some args

def encodeBatchSettlementCall (abi : ContractAbi) (codec : ChainCodec)
    (request : BatchSettlementTransferRequest) : Except String (List Byte) :=
  match parseRecipients codec request.transfers with
  | .error e => .error e
  | .ok recipients =>
    match abi.encodeInput
        { recipients
          amounts := request.transfers.map fun t => uint256 t.amount
          settlementId := buildSettlementBatchId codec request.roomId request.handId } with
    | .error e => .error ("abi encode failed: " ++ e)
    | .ok data => .ok data

/-- `submit_batch_transfer`: the text that goes to `eth_sendRawTransaction`. -/
def submitRawBatchTransfer (net : Network) (abi : ContractAbi) (contractAddress : String)
    (signerForRoom : Except String RoomSigner) (replies : NodeReplies)
    (request : BatchSettlementTransferRequest) : Except String String :=
  if request.transfers = [] then .error "batch transfer list cannot be empty"
  else
    match transfersTotal 0 request.transfers with
    | .error e => .error ("batch payout total overflow: " ++ moneyErrorText e)
    | .ok totalValue =>
      match signerForRoom with
      | .error e => .error e
      | .ok signer =>
        match replies.parse with
        | .error e => .error e
        | .ok (chainId, nonce, gasPrice) =>
          match encodeBatchSettlementCall abi net.toChainCodec request with
          | .error e => .error e
          | .ok data =>
            buildLegacyRawTx net chainId nonce gasPrice contractAddress totalValue.asU128 data signer

/-! ### The contract reads what the room has written -/

/-- The message that a transaction with these arguments is for the contract. -/
def CallArgs.message (args : CallArgs) (sender : Address) (value : ℕ) : Message where
  sender
  value := BitVec.ofNat 256 value
  recipients := args.recipients
  amounts := args.amounts
  settlementId := args.settlementId

/-- **The contract is called with the plan**: what `submit_batch_transfer` hands to the node is read there
as a transaction of the account of the room to the contract, whose data the contract reads as the call
that `submitBatchTransfer` stands for. -/
theorem submitted_batch_read (net : Network) (hreads : ReadsLegacy net) (abi : ContractAbi)
    (hcalls : ReadsCalls abi) (contractAddress : String) (signer : RoomSigner) (hsigns : Signs net signer)
    (replies : NodeReplies) (chainId nonce gasPrice : ℕ)
    (hreplies : replies.parse = .ok (chainId, nonce, gasPrice)) (hchain : 2 * chainId + 36 < 2 ^ 64)
    (request : BatchSettlementTransferRequest)
    (hlength : ∀ data, encodeBatchSettlementCall abi net.toChainCodec request = .ok data →
      data.length ≤ net.maxDataLength) (raw : String)
    (hsubmit : submitRawBatchTransfer net abi contractAddress (.ok signer) replies request = .ok raw) :
    ∃ msg recipient tx args, submitBatchTransfer net.toChainCodec signer.address request = .ok msg ∧
      parseEvmAddress20Bytes net contractAddress = .ok recipient ∧
      net.readRawTx raw = some { sender := signer.address, chainId, tx } ∧
      tx.recipient = recipient ∧ tx.nonce = nonce ∧
      abi.readCall tx.data = some args ∧ args.message signer.address tx.value = msg := by
  unfold submitRawBatchTransfer at hsubmit
  split_ifs at hsubmit with hempty
  split at hsubmit
  · cases hsubmit
  rename_i totalValue htotal
  rw [hreplies] at hsubmit
  dsimp only at hsubmit
  split at hsubmit
  · cases hsubmit
  rename_i data hdata
  obtain ⟨hnonce, hprice⟩ := parse_replies hreplies
  obtain ⟨recipient, hrecipient, hread⟩ :=
    readRawTx_build hreads hsigns hchain hnonce hprice totalValue.lt (hlength data hdata) hsubmit
  -- the data are the arguments of the call
  unfold encodeBatchSettlementCall at hdata
  split at hdata
  · cases hdata
  rename_i recipients hrecipients
  split at hdata
  · cases hdata
  rename_i data' hencode
  obtain rfl := Except.ok.inj hdata
  refine ⟨_, recipient, _, _, ?_, hrecipient, hread, rfl, rfl, hcalls _ _ hencode, rfl⟩
  rw [submitBatchTransfer, if_neg hempty, htotal]
  dsimp only
  rw [hrecipients]
  rfl

/-- Calls that are written as one number. -/
def numberAbi : ContractAbi where
  encodeInput args := .ok (natBytes (Encodable.encode
    (args.recipients.map BitVec.toNat, args.amounts.map BitVec.toNat, args.settlementId.toNat)))
  readCall data :=
    (Encodable.decode (α := List ℕ × List ℕ × ℕ) (Nat.ofDigits 256 (data.map Fin.val))).map fun args =>
      { recipients := args.1.map (BitVec.ofNat 160), amounts := args.2.1.map (BitVec.ofNat 256),
        settlementId := BitVec.ofNat 256 args.2.2 }

theorem map_ofNat_toNat {w : ℕ} (words : List (BitVec w)) :
    (words.map BitVec.toNat).map (BitVec.ofNat w) = words := by
  rw [List.map_map]
  exact (List.map_congr_left fun x _ => by simp).trans (List.map_id _)

theorem numberAbi_readsCalls : ReadsCalls numberAbi := by
  rintro ⟨recipients, amounts, settlementId⟩ data hencode
  cases hencode
  show Option.map _ (Encodable.decode (Nat.ofDigits 256 ((natBytes _).map Fin.val))) = _
  rw [ofDigits_natBytes, Encodable.encodek, Option.map_some, map_ofNat_toNat, map_ofNat_toNat]
  simp

/-- The batch of two winners, sent to a contract at an address of its own. -/
theorem twoWinners_read : ∃ net raw tx args,
    submitRawBatchTransfer net numberAbi "0x0000000000000000000000000000000000000064" (.ok accountFive)
      fourthReply twoWinners = .ok raw ∧
    net.readRawTx raw = some { sender := 5, chainId := 1, tx } ∧
    numberAbi.readCall tx.data = some args ∧ args.message 5 tx.value = twoWinnersCall := by
  obtain ⟨data, hdata⟩ : ∃ data, encodeBatchSettlementCall numberAbi tinyCodec twoWinners = .ok data :=
    ⟨_, rfl⟩
  obtain ⟨readRawTx, hreads⟩ := exists_readsLegacy { oneAccount with maxDataLength := data.length }
    oneAccount_rlpInjective
  obtain ⟨raw, hraw⟩ : ∃ raw, submitRawBatchTransfer
      { oneAccount with maxDataLength := data.length, readRawTx } numberAbi
      "0x0000000000000000000000000000000000000064" (.ok accountFive) fourthReply twoWinners = .ok raw :=
    ⟨_, rfl⟩
  have hlength : ∀ data', encodeBatchSettlementCall numberAbi tinyCodec twoWinners = .ok data' →
      data'.length ≤ data.length := by
    intro data' hdata'
    rw [Except.ok.inj (hdata.symm.trans hdata')]
  have hmsg : submitBatchTransfer tinyCodec 5 twoWinners = .ok twoWinnersCall := by decide +kernel
  obtain ⟨msg, recipient, tx, args, hsubmit, -, hread, -, -, hargs, rfl⟩ := submitted_batch_read _ hreads
    numberAbi numberAbi_readsCalls "0x0000000000000000000000000000000000000064" accountFive
    (accountFive_signs rfl) fourthReply 1 3 1000000000 (by decide +kernel) (by decide) twoWinners hlength raw hraw
  exact ⟨_, raw, tx, args, hraw, hread, hargs, Except.ok.inj (hsubmit.symm.trans hmsg)⟩

/-! ### The contract pays what it has read -/

/-- Recipients that are plain accounts take what they are sent. -/
def plainAccounts (_ : ℕ) (w : World) : Option World := some w

theorem length_parseRecipients {codec : ChainCodec} : ∀ {transfers : List SettlementTransferRequest}
    {recipients : List Address}, parseRecipients codec transfers = .ok recipients →
      recipients.length = transfers.length
  | [], _, h => by
    cases h
    rfl
  | t :: rest, recipients, h => by
    rw [parseRecipients] at h
    split at h
    · cases h
    split at h
    · cases h
    rename_i tail htail
    cases h
    rw [List.length_cons, List.length_cons, length_parseRecipients htail]

theorem toNat_uint256 (amount : Chips) : (uint256 amount).toNat = amount.asU128 := by
  rw [uint256, BitVec.toNat_ofNat]
  exact Nat.mod_eq_of_lt (amount.lt.trans (by norm_num))

theorem transfersTotal_ok : ∀ {transfers : List SettlementTransferRequest} {acc total : Chips},
    transfersTotal acc transfers = .ok total →
      total.asU128 = acc.asU128 + (transfers.map fun t => t.amount.asU128).sum
  | [], acc, total, h => by
    cases h
    rfl
  | t :: rest, acc, total, h => by
    rw [transfersTotal] at h
    split at h
    · cases h
    rename_i acc' hacc
    rw [transfersTotal_ok h, List.map_cons, List.sum_cons, Chips.checkedAdd_eq_ok.1 hacc]
    omega

/-- The sum of words that does not wrap around. -/
theorem sum_uint256 {transfers : List SettlementTransferRequest}
    (h : (transfers.map fun t => t.amount.asU128).sum < 2 ^ 256) :
    (transfers.map fun t => uint256 t.amount).sum =
      BitVec.ofNat 256 (transfers.map fun t => t.amount.asU128).sum := by
  induction transfers with
  | nil => rfl
  | cons t rest ih =>
    rw [List.map_cons, List.sum_cons] at h
    rw [List.map_cons, List.sum_cons, List.map_cons, List.sum_cons, ih (by omega), uint256,
      BitVec.ofNat_add]

section

variable {self : Address} {settlementId : Bytes32}

theorem checkRecipients_of_ne_zero : ∀ {pairs : List (Address × Uint256)} {total : Uint256},
    (∀ p ∈ pairs, p.1 ≠ 0) → checkRecipients pairs total = .ok (total + (pairs.map Prod.snd).sum)
  | [], total, _ => by simp [checkRecipients]
  | (recipient, amount) :: rest, total, h => by
    rw [checkRecipients, if_neg (h _ List.mem_cons_self),
      checkRecipients_of_ne_zero fun p hp => h p (List.mem_cons_of_mem _ hp), List.map_cons, List.sum_cons,
      BitVec.add_assoc]

theorem ne_zero_of_checkRecipients : ∀ {pairs : List (Address × Uint256)} {total total' : Uint256},
    checkRecipients pairs total = .ok total' → ∀ p ∈ pairs, p.1 ≠ 0
  | [], _, _, _ => by simp
  | (recipient, amount) :: rest, total, total', h => by
    rw [checkRecipients] at h
    split_ifs at h with hzero
    intro p hp
    rcases List.mem_cons.1 hp with rfl | hp
    · exact hzero
    · exact ne_zero_of_checkRecipients h p hp

def transfersOf (settlementId : Bytes32) (pairs : List (Address × Uint256)) : List Transfer :=
  pairs.map fun p => { settlementId, recipient := p.1, amount := p.2 }

theorem payRecipients_plain : ∀ {pairs : List (Address × Uint256)} {i : ℕ} {w : World},
    (∀ p ∈ pairs, p.1 ≠ self) → (pairs.map fun p => p.2.toNat).sum ≤ w.balance →
      payRecipients self plainAccounts settlementId i pairs w = .ok
        { w with
          balance := w.balance - (pairs.map fun p => p.2.toNat).sum
          transfers := w.transfers ++ transfersOf settlementId pairs }
  | [], _, w, _, _ => by simp [payRecipients, transfersOf]
  | (recipient, amount) :: rest, i, w, hself, hsum => by
    rw [List.map_cons, List.sum_cons] at hsum
    have hcall : callValue self (plainAccounts i) { settlementId, recipient, amount } w =
        some { w with
          balance := w.balance - amount.toNat
          transfers := w.transfers ++ [{ settlementId, recipient, amount }] } := by
      unfold callValue
      rw [if_neg (by dsimp only at hsum ⊢; omega), if_neg (hself _ List.mem_cons_self)]
      rfl
    rw [payRecipients, hcall]
    dsimp only
    rw [payRecipients_plain (fun p hp => hself p (List.mem_cons_of_mem _ hp))
      (by dsimp only at hsum ⊢; omega)]
    simp only [List.map_cons, List.sum_cons, transfersOf, List.append_assoc, List.cons_append,
      List.nil_append, Nat.sub_sub]

theorem ne_self_of_payRecipients : ∀ {pairs : List (Address × Uint256)} {i : ℕ} {w w' : World},
    payRecipients self plainAccounts settlementId i pairs w = .ok w' → ∀ p ∈ pairs, p.1 ≠ self
  | [], _, _, _, _ => by simp
  | (recipient, amount) :: rest, i, w, w', h => by
    rw [payRecipients] at h
    split at h
    · cases h
    rename_i mid hmid
    unfold callValue at hmid
    split_ifs at hmid with hbalance hself
    intro p hp
    rcases List.mem_cons.1 hp with rfl | hp
    · exact hself
    · exact ne_self_of_payRecipients h p hp

end

theorem ne_zero_of_settleBatch {self : Address} {react : ℕ → World → Option World} {msg : Message}
    {w w' : World} (h : settleBatch self react msg w = .ok w') : ∀ p ∈ msg.pairs, p.1 ≠ 0 := by
  unfold settleBatch at h
  split_ifs at h
  split at h
  · cases h
  rename_i total htotal
  exact ne_zero_of_checkRecipients htotal

/-- The call of a room has as many amounts as recipients, and the value sent with it is their sum. -/
theorem submitBatchTransfer_value {codec : ChainCodec} {fromAddress : Address}
    {request : BatchSettlementTransferRequest} {msg : Message}
    (h : submitBatchTransfer codec fromAddress request = .ok msg) :
    msg.recipients.length ≠ 0 ∧ msg.recipients.length = msg.amounts.length ∧
      msg.amounts.sum = msg.value ∧ (msg.amounts.map BitVec.toNat).sum = msg.value.toNat := by
  unfold submitBatchTransfer at h
  split_ifs at h with hempty
  split at h
  · cases h
  rename_i total htotal
  split at h
  · cases h
  rename_i recipients hrecipients
  cases h
  have hlength := length_parseRecipients hrecipients
  have hsum : total.asU128 = (request.transfers.map fun t => t.amount.asU128).sum := by
    rw [transfersTotal_ok htotal]
    exact Nat.zero_add _
  have hlt : (request.transfers.map fun t => t.amount.asU128).sum < 2 ^ 256 := by
    rw [← hsum]
    exact total.lt.trans (by norm_num)
  refine ⟨?_, ?_, ?_, ?_⟩
  · rw [hlength]
    exact fun hzero => hempty (List.length_eq_zero_iff.1 hzero)
  · rw [hlength, List.length_map]
  · rw [sum_uint256 hlt, ← hsum]
    rfl
  · rw [toNat_uint256, hsum, List.map_map]
    exact congrArg List.sum (List.map_congr_left fun t _ => toNat_uint256 t.amount)

/-- **The batch of a room goes through exactly if** its id is new, and no winner gave the zero address or
that of the contract; it then pays the plan under the id, to the last unit, and keeps nothing. -/
theorem room_batch_settles_iff (codec : ChainCodec) (self fromAddress : Address)
    (request : BatchSettlementTransferRequest) (msg : Message)
    (hsubmit : submitBatchTransfer codec fromAddress request = .ok msg) (w : World) :
    let id := buildSettlementBatchId codec request.roomId request.handId
    ((∃ w', settleBatch self plainAccounts msg w = .ok w') ↔
      id ∉ w.settled ∧ ∀ p ∈ planPairs codec request, p.1 ≠ 0 ∧ p.1 ≠ self) ∧
    ∀ w', settleBatch self plainAccounts msg w = .ok w' →
      w'.transfers = w.transfers ++ transfersOf id (planPairs codec request) ∧ w'.balance = w.balance ∧
        w'.settled = insert id w.settled := by
  obtain ⟨hpairs, hid⟩ := submitBatchTransfer_ok hsubmit
  obtain ⟨hne, hlen, hsum, hvalue⟩ := submitBatchTransfer_value hsubmit
  rw [← hid, ← hpairs]
  have hamounts : msg.pairs.map Prod.snd = msg.amounts := map_snd_pairs hlen
  have hnat : (msg.pairs.map fun p => p.2.toNat).sum = msg.value.toNat := by
    rw [← hvalue, ← hamounts, List.map_map]
    rfl
  -- what a call that went through has passed
  have hcond : ∀ w', settleBatch self plainAccounts msg w = .ok w' →
      msg.settlementId ∉ w.settled ∧ ∀ p ∈ msg.pairs, p.1 ≠ 0 ∧ p.1 ≠ self := by
    intro w' h
    obtain ⟨-, hfresh, -, mid, hmid, -⟩ := settleBatch_ok h
    exact ⟨hfresh, fun p hp => ⟨ne_zero_of_settleBatch h p hp, ne_self_of_payRecipients hmid p hp⟩⟩
  have hok : msg.settlementId ∉ w.settled ∧ (∀ p ∈ msg.pairs, p.1 ≠ 0 ∧ p.1 ≠ self) →
      settleBatch self plainAccounts msg w = .ok
        { settled := insert msg.settlementId w.settled
          balance := w.balance + msg.value.toNat - msg.value.toNat
          events := w.events ++ [{ settlementId := msg.settlementId, transferCount := msg.recipients.length,
                                   totalAmount := 0 + msg.amounts.sum }]
          transfers := w.transfers ++ transfersOf msg.settlementId msg.pairs
          calls := w.calls ++ [msg] } := by
    rintro ⟨hfresh, hrecipients⟩
    have hzero : (0 : Uint256) + msg.amounts.sum = msg.value := (BitVec.zero_add _).trans hsum
    rw [settleBatch, if_neg hne, if_neg (not_not_intro hlen), if_neg hfresh,
      checkRecipients_of_ne_zero fun p hp => (hrecipients p hp).1, hamounts]
    dsimp only
    rw [if_neg (not_not_intro hzero),
      payRecipients_plain (fun p hp => (hrecipients p hp).2) (by rw [hnat]; exact Nat.le_add_left _ _), hnat]
  refine ⟨⟨fun ⟨w', h⟩ => hcond w' h, fun h => ⟨_, hok h⟩⟩, fun w' h => ?_⟩
  rw [hok (hcond w' h)] at h
  cases h
  exact ⟨rfl, Nat.add_sub_cancel _ _, rfl⟩

theorem twoWinners_settle : ∃ w', settleBatch 100 plainAccounts twoWinnersCall (deployed 0) = .ok w' ∧
    w'.transfers = transfersOf (buildSettlementBatchId tinyCodec ⟨1⟩ ⟨2⟩) [(10, 70), (11, 30)] ∧
      w'.balance = 0 := by
  have heval : submitBatchTransfer tinyCodec 5 twoWinners = .ok twoWinnersCall ∧
      planPairs tinyCodec twoWinners = [(10, 70), (11, 30)] := by
    decide +kernel
  have hiff := room_batch_settles_iff tinyCodec 100 5 twoWinners twoWinnersCall heval.1 (deployed 0)
  obtain ⟨w', hw'⟩ := hiff.1.2 ⟨by simp [deployed], by rw [heval.2]; simp⟩
  obtain ⟨htransfers, hbalance, -⟩ := hiff.2 w' hw'
  rw [heval.2] at htransfers
  exact ⟨w', hw', htransfers, hbalance⟩

end HoldemPlatform.Contract.BatchCall
