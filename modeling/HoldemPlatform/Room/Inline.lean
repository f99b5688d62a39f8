import HoldemPlatform.Room.Effect

/-!
# Verification Inside the Room

A `SchedulerTick` asks the node for the transaction of every pending action and classifies the answer
by success and confirmations alone. The chain watcher also compares hash, recipient, sender and value.
The two agree on a match exactly where these agree by themselves.
-/

namespace HoldemPlatform.Room.Inline

open HoldemPlatform.Lib.FiniteMap HoldemPlatform.Domain.Money HoldemPlatform.Domain.Game
open HoldemPlatform.Engine.State HoldemPlatform.Chain.Watcher
open HoldemPlatform.Room.Actor HoldemPlatform.Room.Effect

variable {Card : Type}

/-- What the watcher is asked about a pending action of the room at `roomAddress`. -/
def watcherInput (config : RoomActorConfig) (st : RoomState Card) (roomAddress txHash : String)
    (action : PlayerAction) : TxVerificationInput where
  roomId := st.roomId
  handId := some action.handId
  seatId := some action.seatId
  actionSeq := some action.actionSeq
  txHash := txHash
  expectedTo := roomAddress
  expectedFrom := st.boundAddresses.lookup action.seatId
  expectedAmount := action.amount
  minConfirmations := config.chainVerifyMinConfirmations

def TickMatches [RsPoker Card] (config : RoomActorConfig) (env : RoomEnv Card)
    (st : RoomState Card) (txHash : String) : Prop :=
  ∃ callback ∈ (roomStep config env st .schedulerTick).2.callbacks,
    callback.txHash = txHash ∧ callback.status = "matched"

theorem inlineVerdict_matched_iff (config : RoomActorConfig) (observed : ObservedTx) :
    (inlineVerdict config observed).1 = "matched" ↔
      observed.success = true ∧ config.chainVerifyMinConfirmations ≤ observed.confirmations := by
  unfold inlineVerdict
  split_ifs with hsuccess hconf
  · simp [hsuccess]
  · simpa using fun _ => hconf
  · simpa [hsuccess] using hconf

theorem tickCallback_matched_iff {config : RoomActorConfig} {env : RoomEnv Card} {txHash : String}
    {action : PlayerAction} {observed : ObservedTx} (hobs : env.getTx txHash = .ok (some observed)) :
    (∃ callback, tickCallback config env txHash action = some callback ∧
      callback.status = "matched") ↔ (inlineVerdict config observed).1 = "matched" := by
  unfold tickCallback
  rw [hobs]
  dsimp only
  split_ifs with hpending
  · simp [hpending]
  · simp

theorem tickCallback_txHash {config : RoomActorConfig} {env : RoomEnv Card} {txHash : String}
    {action : PlayerAction} {callback : ChainTxVerifiedCallback}
    (h : tickCallback config env txHash action = some callback) : callback.txHash = txHash := by
  unfold tickCallback at h
  split at h
  · cases h
  · cases h
  · split_ifs at h
    cases h
    rfl

/-- A tick looks at success and confirmations only. -/
theorem tickMatches_iff [RsPoker Card] {config : RoomActorConfig} {env : RoomEnv Card}
    {st : RoomState Card} {txHash : String} {action : PlayerAction} {observed : ObservedTx}
    (hpend : st.pendingChainActions.lookup txHash = some action)
    (hobs : env.getTx txHash = .ok (some observed)) :
    TickMatches config env st txHash ↔ config.chainVerifyRpcEndpoint ≠ none ∧
      observed.success = true ∧ config.chainVerifyMinConfirmations ≤ observed.confirmations := by
  rw [← inlineVerdict_matched_iff, ← tickCallback_matched_iff hobs]
  show (∃ callback ∈ tickCallbacks config env st, _) ↔ _
  unfold tickCallbacks
  split_ifs with hendpoint
  · simp [hendpoint]
  · constructor
    · rintro ⟨callback, hmem, rfl, hstatus⟩
      obtain ⟨⟨key, other⟩, hpair, hcallback⟩ := List.mem_filterMap.1 hmem
      have hkey : callback.txHash = key := tickCallback_txHash hcallback
      subst hkey
      rw [mem_pairs, hpend, Option.some.injEq] at hpair
      subst hpair
      exact ⟨hendpoint, callback, hcallback, hstatus⟩
    · rintro ⟨-, callback, hcallback, hstatus⟩
      exact ⟨callback, List.mem_filterMap.2 ⟨(txHash, action), mem_pairs.2 hpend, hcallback⟩,
        tickCallback_txHash hcallback, hstatus⟩

/-- The transaction pays what the action owes from the seat's address to the room. -/
structure PaysForAction (st : RoomState Card) (roomAddress txHash : String) (action : PlayerAction)
    (observed : ObservedTx) : Prop where
  txHash : observed.txHash = txHash
  recipient : observed.recipient = roomAddress
  sender : ∀ sender, st.boundAddresses.lookup action.seatId = some sender → observed.sender = sender
  value : ∀ amount, action.amount = some amount → observed.value = amount

theorem classify_watcherInput_iff (config : RoomActorConfig) (st : RoomState Card)
    (roomAddress txHash : String) (action : PlayerAction) (observed : ObservedTx) :
    (classifyTxVerification (watcherInput config st roomAddress txHash action) observed).status
        = .matched ↔
      observed.success = true ∧ config.chainVerifyMinConfirmations ≤ observed.confirmations ∧
        PaysForAction st roomAddress txHash action observed := by
  rw [classify_matched_iff]
  constructor
  · rintro ⟨hhash, hsuccess, hconf, hto, hfrom, hvalue, -, -⟩
    exact ⟨hsuccess, hconf, hhash, hto, hfrom, hvalue⟩
  · rintro ⟨hsuccess, hconf, hhash, hto, hfrom, hvalue⟩
    exact ⟨hhash, hsuccess, hconf, hto, hfrom, hvalue, nofun, nofun⟩

/-- **The tick is as strict as the watcher** about a pending action exactly if it has no node to ask,
the transaction failed or is not yet confirmed, or it pays for the action. -/
theorem inline_strict_iff [RsPoker Card] (config : RoomActorConfig) (env : RoomEnv Card)
    (st : RoomState Card) (roomAddress txHash : String) (action : PlayerAction)
    (observed : ObservedTx) (hpend : st.pendingChainActions.lookup txHash = some action)
    (hobs : env.getTx txHash = .ok (some observed)) :
    (TickMatches config env st txHash →
      (classifyTxVerification (watcherInput config st roomAddress txHash action) observed).status
        = .matched) ↔
    config.chainVerifyRpcEndpoint = none ∨ observed.success = false ∨
      observed.confirmations < config.chainVerifyMinConfirmations ∨
      PaysForAction st roomAddress txHash action observed := by
  rw [tickMatches_iff hpend hobs, classify_watcherInput_iff]
  constructor
  · intro h
    by_cases hendpoint : config.chainVerifyRpcEndpoint = none
    · exact .inl hendpoint
    by_cases hsuccess : observed.success = true
    swap
    · exact .inr (.inl (Bool.eq_false_of_not_eq_true hsuccess))
    by_cases hconf : observed.confirmations < config.chainVerifyMinConfirmations
    · exact .inr (.inr (.inl hconf))
    exact .inr (.inr (.inr (h ⟨hendpoint, hsuccess, by omega⟩).2.2))
  · rintro h ⟨hendpoint, hsuccess, hconf⟩
    rcases h with h | h | h | h
    · exact absurd h hendpoint
    · rw [hsuccess] at h
      cases h
    · omega
    · exact ⟨hsuccess, hconf, h⟩

/-- A room that verifies against a node. -/
def nodeConfig : RoomActorConfig where
  chainVerifyRpcEndpoint := some "node"

/-- The seat to act has paid for its call with the transaction `0x1`. -/
def callPending : RoomState ByteCard :=
  queuePendingChainAction tableRoom "0x1"
    (tableAction 1 0 .call (some (.ofU128 100000000000000)))

theorem callPending_lookup : callPending.pendingChainActions.lookup "0x1" =
    some (tableAction 1 0 .call (some (.ofU128 100000000000000))) := by
  decide +kernel

/-- The node knows one transaction. -/
def nodeEnv (observed : ObservedTx) : RoomEnv ByteCard :=
  { tableEnv with
    getTx := fun txHash => .ok (if txHash = observed.txHash then some observed else none) }

/-- A confirmed transfer of one unit to a stranger. -/
def strangerTx : ObservedTx :=
  ⟨"0x1", "0xdead", "0xbeef", .ofU128 1, true, 6⟩

/-- The tick takes a transfer to a stranger for the call's payment, the watcher does not. -/
theorem stranger_tx_matched_inline :
    callPending.pendingChainActions.lookup "0x1" =
        some (tableAction 1 0 .call (some (.ofU128 100000000000000))) ∧
      TickMatches nodeConfig (nodeEnv strangerTx) callPending "0x1" ∧
      (classifyTxVerification (watcherInput nodeConfig callPending "0x100" "0x1"
        (tableAction 1 0 .call (some (.ofU128 100000000000000)))) strangerTx).status
          = .unmatched := by
  exact ⟨callPending_lookup, (tickMatches_iff callPending_lookup rfl).2 (by decide),
    by decide +kernel⟩

/-- The call's payment from the seat's address to the room. -/
def callTx : ObservedTx :=
  ⟨"0x1", "0xa", "0x100", .ofU128 100000000000000, true, 6⟩

/-- A transaction that pays for the call is matched by both. -/
theorem call_tx_matched_by_both :
    TickMatches nodeConfig (nodeEnv callTx) callPending "0x1" ∧
      (classifyTxVerification (watcherInput nodeConfig callPending "0x100" "0x1"
        (tableAction 1 0 .call (some (.ofU128 100000000000000)))) callTx).status = .matched := by
  have htick : TickMatches nodeConfig (nodeEnv callTx) callPending "0x1" :=
    (tickMatches_iff callPending_lookup rfl).2 (by decide)
  have hpays : PaysForAction callPending "0x100" "0x1"
      (tableAction 1 0 .call (some (.ofU128 100000000000000))) callTx := by
    refine ⟨rfl, rfl, fun sender h => ?_, fun amount h => ?_⟩
    · have hbound : callPending.boundAddresses.lookup 0 = some "0xa" := by decide +kernel
      exact Option.some.inj (hbound.symm.trans h)
    · exact Option.some.inj h
  exact ⟨htick, (inline_strict_iff nodeConfig (nodeEnv callTx) callPending "0x100" "0x1" _ callTx
    callPending_lookup rfl).2 (.inr (.inr (.inr hpays))) htick⟩

end HoldemPlatform.Room.Inline
