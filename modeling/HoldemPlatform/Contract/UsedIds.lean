import HoldemPlatform.Contract.BatchSettlement
import HoldemPlatform.Settlement.BatchPayouts
import Mathlib.Data.List.Perm.Subperm

/-!
# Does a Used Settlement Id Mean That the Winners Were Paid?

The room submits the payouts of a hand as one batch, under an id that is the hash of room and hand. The
contract asks nobody who they are: everybody who knows room and hand can settle the id first, with a batch
of their own, and the batch of the room is then refused for ever. If the calls of the others leave the id
alone, or carry the room's own transfers, a settled id means that the winners were paid.
-/

namespace HoldemPlatform.Contract.UsedIds

open HoldemPlatform.Lib.Run HoldemPlatform.Domain.Money HoldemPlatform.Domain.Game
open HoldemPlatform.Settlement.Plan HoldemPlatform.Settlement.Orchestrator
open HoldemPlatform.Settlement.BatchPayouts HoldemPlatform.Contract.BatchSettlement

/-- How addresses are read, identifiers written, and bytes hashed. -/
structure ChainCodec where
  parseAddress : String → Except String Address
  uuidBytes : ℕ → List (Fin 256)
  keccak256 : List (Fin 256) → Bytes32

variable (codec : ChainCodec)

def buildSettlementBatchId (roomId : RoomId) (handId : HandId) : Bytes32 :=
  codec.keccak256 (codec.uuidBytes roomId.uuid ++ codec.uuidBytes handId.uuid)

def parseRecipients : List SettlementTransferRequest → Except String (List Address)
  | [] => .ok []
  | t :: rest =>
    match codec.parseAddress t.toAddress with
    | .error e => .error ("invalid recipient address " ++ t.toAddress ++ ": " ++ e)
    | .ok recipient =>
      match parseRecipients rest with
      | .error e => .error e
      | .ok recipients => .ok (recipient :: recipients)

def transfersTotal : Chips → List SettlementTransferRequest → Except MoneyError Chips
  | acc, [] => .ok acc
  | acc, t :: rest =>
    match acc.checkedAdd t.amount with
    | .error e => .error e
    | .ok acc' => transfersTotal acc' rest

/-- `U256::from` on a `u128`. -/
def uint256 (amount : Chips) : Uint256 := BitVec.ofNat 256 amount.asU128

/-- `submit_batch_transfer`: the call that is sent. Signing it and talking to the node is left out; a
transaction that is not sent is not in a run. -/
def submitBatchTransfer (fromAddress : Address) (request : BatchSettlementTransferRequest) :
    Except String Message :=
  if request.transfers = [] then .error "batch transfer list cannot be empty"
  else
    match transfersTotal 0 request.transfers with
    | .error e => .error ("batch payout total overflow: " ++ moneyErrorText e)
    | .ok totalValue =>
      match parseRecipients codec request.transfers with
      | .error e => .error e
      | .ok recipients =>
        .ok { sender := fromAddress
              value := uint256 totalValue
              recipients
              amounts := request.transfers.map fun t => uint256 t.amount
              settlementId := buildSettlementBatchId codec request.roomId request.handId }

/-! ### The transfers of the plan -/

def planPairs (request : BatchSettlementTransferRequest) : List (Address × Uint256) :=
  request.transfers.filterMap fun t =>
    match codec.parseAddress t.toAddress with
    | .error _ => none
    | .ok recipient => some (recipient, uint256 t.amount)

variable {codec}

theorem zip_parseRecipients : ∀ {transfers : List SettlementTransferRequest}
    {recipients : List Address}, parseRecipients codec transfers = .ok recipients →
    recipients.zip (transfers.map fun t => uint256 t.amount) =
      transfers.filterMap fun t =>
        match codec.parseAddress t.toAddress with
        | .error _ => none
        | .ok recipient => some (recipient, uint256 t.amount)
  | [], _, h => by
    cases h
    rfl
  | t :: rest, recipients, h => by
    rw [parseRecipients] at h
    split at h
    · cases h
    rename_i recipient hparse
    split at h
    · cases h
    rename_i tail htail
    cases h
    rw [List.map_cons, List.zip_cons_cons, zip_parseRecipients htail, List.filterMap_cons, hparse]

theorem submitBatchTransfer_ok {fromAddress : Address} {request : BatchSettlementTransferRequest}
    {msg : Message} (h : submitBatchTransfer codec fromAddress request = .ok msg) :
    msg.pairs = planPairs codec request ∧
      msg.settlementId = buildSettlementBatchId codec request.roomId request.handId := by
  unfold submitBatchTransfer at h
  split_ifs at h
  split at h
  · cases h
  split at h
  · cases h
  rename_i recipients hrecipients
  cases h
  exact ⟨zip_parseRecipients hrecipients, rfl⟩

/-! ### The room among others -/

/-- A transaction: the room submits its batch, and the recipients react; or somebody else does anything. -/
inductive Tx where
  | room (reactions : ℕ → Script)
  | other (script : Script)

def Tx.script (msg : Message) : Tx → Script
  | .room reactions => .settleBatch msg reactions .done
  | .other script => script

def chainStep (self : Address) (msg : Message) (w : World) (tx : Tx) : World :=
  transact self w (tx.script msg)

/-- A call under the id makes the transfers of the plan. -/
def Carries (id : Bytes32) (pairs : List (Address × Uint256)) (call : Message) : Prop :=
  call.settlementId = id → pairs.Subperm call.pairs

/-- Nobody but the room calls under the id, unless with the transfers of the plan. -/
def OthersCarry (id : Bytes32) (pairs : List (Address × Uint256)) (msg : Message) : Tx → Prop
  | .room reactions => ∀ i < msg.recipients.length, (reactions i).AllCalls (Carries id pairs)
  | .other script => script.AllCalls (Carries id pairs)

theorem run_chainStep (self : Address) (msg : Message) : ∀ (w : World) (txs : List Tx),
    run (chainStep self msg) w txs = run (transact self) w (txs.map (Tx.script msg))
  | _, [] => rfl
  | w, tx :: txs => run_chainStep self msg (chainStep self msg w tx) txs

/-- **If the others leave the id alone or carry the plan, a settled id means that the winners were paid.** -/
theorem settled_id_paid (self fromAddress : Address) (request : BatchSettlementTransferRequest)
    (msg : Message) (hsubmit : submitBatchTransfer codec fromAddress request = .ok msg) (balance : ℕ)
    (txs : List Tx)
    (hothers : ∀ tx ∈ txs, OthersCarry (buildSettlementBatchId codec request.roomId request.handId)
      (planPairs codec request) msg tx)
    (hsettled : buildSettlementBatchId codec request.roomId request.handId ∈
      (run (chainStep self msg) (deployed balance) txs).settled) :
    ∃ call ∈ (run (chainStep self msg) (deployed balance) txs).calls,
      call.settlementId = buildSettlementBatchId codec request.roomId request.handId ∧
      (planPairs codec request).Subperm call.pairs ∧
      (run (chainStep self msg) (deployed balance) txs).paidUnder call.settlementId = call.pairs := by
  obtain ⟨hpairs, hid⟩ := submitBatchTransfer_ok hsubmit
  generalize buildSettlementBatchId codec request.roomId request.handId = id at *
  generalize planPairs codec request = pairs at *
  have hown : Carries id pairs msg := fun _ => hpairs ▸ List.Subperm.refl _
  have hcalls : ∀ script ∈ txs.map (Tx.script msg), script.AllCalls (Carries id pairs) := by
    intro script hscript
    obtain ⟨tx, htx, rfl⟩ := List.mem_map.1 hscript
    cases tx with
    | room reactions => exact ⟨hown, hothers _ htx, trivial⟩
    | other script => exact hothers _ htx
  rw [run_chainStep] at hsettled ⊢
  obtain ⟨new, hnewCalls, -, -, hnew, hids⟩ := (run_grows hcalls (clean_deployed balance)).calls
  -- the id was not settled at the deployment
  obtain ⟨call, hcall, hcallId⟩ := List.mem_map.1 (((hids id).1 hsettled).resolve_left (by
    simp [deployed]))
  obtain ⟨hcarries, -, hpaid⟩ := hnew call hcall
  refine ⟨call, ?_, hcallId, hcarries hcallId, hpaid.paid⟩
  rw [hnewCalls]
  exact List.mem_append_right _ hcall

/-! ### Somebody is faster -/

/-- Two addresses, and a hash that tells hands apart. -/
def tinyCodec : ChainCodec where
  parseAddress text :=
    if text = "0x000000000000000000000000000000000000000a" then .ok 10
    else if text = "0x000000000000000000000000000000000000000b" then .ok 11
    else .error "Invalid input length"
  uuidBytes n := [Fin.ofNat 256 n]
  keccak256 bytes := BitVec.ofNat 256 (bytes.foldl (fun acc b => 256 * acc + b.val + 1) 0)

def twoWinners : BatchSettlementTransferRequest where
  roomId := ⟨1⟩
  handId := ⟨2⟩
  transfers :=
    [{ roomId := ⟨1⟩, handId := ⟨2⟩, toSeatId := 0
       toAddress := "0x000000000000000000000000000000000000000a", amount := .ofU128 70 },
      { roomId := ⟨1⟩, handId := ⟨2⟩, toSeatId := 1
        toAddress := "0x000000000000000000000000000000000000000b", amount := .ofU128 30 }]

/-- The call the room sends for the two winners. -/
def twoWinnersCall : Message where
  sender := 5
  value := 100
  recipients := [10, 11]
  amounts := [70, 30]
  settlementId := buildSettlementBatchId tinyCodec ⟨1⟩ ⟨2⟩

/-- Somebody settles the id with a payment of nothing to themselves. -/
def frontRun : List Tx :=
  [.other (.settleBatch (single 6 6 0 (buildSettlementBatchId tinyCodec ⟨1⟩ ⟨2⟩)) (fun _ => .done) .done),
    .room fun _ => .done]

/-- The id is settled and the winners get nothing. -/
theorem front_run_unpaid :
    submitBatchTransfer tinyCodec 5 twoWinners = .ok twoWinnersCall ∧
      buildSettlementBatchId tinyCodec ⟨1⟩ ⟨2⟩ ∈
        (run (chainStep 100 twoWinnersCall) (deployed 0) frontRun).settled ∧
      (run (chainStep 100 twoWinnersCall) (deployed 0) frontRun).transfers =
        [{ settlementId := buildSettlementBatchId tinyCodec ⟨1⟩ ⟨2⟩, recipient := 6, amount := 0 }] ∧
      (10, 70) ∈ planPairs tinyCodec twoWinners ∧ (11, 30) ∈ planPairs tinyCodec twoWinners := by
  decide +kernel

/-- The others use an id of their own; the winner that is paid first calls the contract as well. -/
def undisturbed : List Tx :=
  [.other (.settleBatch (single 6 6 0 4) (fun _ => .done) .done),
    .room fun _ => .settleBatch (single 10 3 1 5) (fun _ => .done) .done]

theorem undisturbed_paid :
    ∃ call ∈ (run (chainStep 100 twoWinnersCall) (deployed 0) undisturbed).calls,
      call.settlementId = buildSettlementBatchId tinyCodec twoWinners.roomId twoWinners.handId ∧
      (planPairs tinyCodec twoWinners).Subperm call.pairs ∧
      (run (chainStep 100 twoWinnersCall) (deployed 0) undisturbed).paidUnder call.settlementId =
        call.pairs := by
  have heval : submitBatchTransfer tinyCodec 5 twoWinners = .ok twoWinnersCall ∧
      buildSettlementBatchId tinyCodec twoWinners.roomId twoWinners.handId ∈
        (run (chainStep 100 twoWinnersCall) (deployed 0) undisturbed).settled ∧
      buildSettlementBatchId tinyCodec twoWinners.roomId twoWinners.handId ≠ 4 ∧
      buildSettlementBatchId tinyCodec twoWinners.roomId twoWinners.handId ≠ 5 := by
    decide +kernel
  obtain ⟨hsubmit, hsettled, hfour, hfive⟩ := heval
  refine settled_id_paid 100 5 twoWinners twoWinnersCall hsubmit 0 undisturbed ?_ hsettled
  intro tx htx
  simp only [undisturbed, List.mem_cons, List.not_mem_nil, or_false] at htx
  rcases htx with rfl | rfl
  · exact ⟨fun h => absurd h.symm hfour, fun _ _ => trivial, trivial⟩
  · exact fun _ _ => ⟨fun h => absurd h.symm hfive, fun _ _ => trivial, trivial⟩

end HoldemPlatform.Contract.UsedIds
