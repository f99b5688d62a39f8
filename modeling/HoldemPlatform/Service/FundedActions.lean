import HoldemPlatform.Service.Payments

/-!
# Which Actions Are Funded

The gateway and the service each decide whether a `game.act` request comes with a transaction. The
gateway looks at the text and takes a blank one for none; the service only asks whether there is a
text. For an action that pays they agree, since a blank transaction is refused there. A `fold` or a
`check` with a blank transaction is let through by the gateway, and the service binds the blank text
and keeps the action pending.
-/

namespace HoldemPlatform.Service.FundedActions

open HoldemPlatform.Lib.FiniteMap HoldemPlatform.Lib.Run
open HoldemPlatform.Domain.Money HoldemPlatform.Domain.Game HoldemPlatform.Engine.State
open HoldemPlatform.Chain.TxRepo HoldemPlatform.Room.Actor HoldemPlatform.Room.Effect
open HoldemPlatform.Gateway.Requests HoldemPlatform.Service.RoomService
open HoldemPlatform.Service.Payments

variable {Card : Type}

/-- The binding of a payment of `amount`. -/
def paymentBinding (request : GameActRequest) (txHash : String) (amount : Chips) :
    TxBindingInsert where
  txHash := txHash
  roomId := request.roomId
  handId := request.handId
  seatId := request.seatId
  actionSeq := request.actionSeq
  expectedAmount := some amount
  bindingStatus := "submitted"

/-- The pending-chain path: the payment is bound and the room keeps the action until the payment is
verified; if the repository refuses the binding nothing changes. -/
inductive PendingPath (svc : AppRoomService Card) (room : RoomState Card) (request : GameActRequest)
    (action : PlayerAction) (txHash : String) (amount : Chips) :
    AppRoomService Card × Except RpcGatewayError Unit → Prop
  | refused (e : LedgerStoreError)
      (refused : svc.chainTxRepo.insertTxBinding (paymentBinding request txHash amount) = .error e) :
      PendingPath svc room request action txHash amount (svc, .error (.upstream e.text))
  | queued (svc' : AppRoomService Card) (room' : RoomState Card)
      (bound : svc.chainTxRepo.insertTxBinding (paymentBinding request txHash amount) =
        .ok svc'.chainTxRepo)
      (told : svc'.rooms.lookup request.roomId = some room')
      (pending : room'.pendingChainActions = room.pendingChainActions.insert txHash action)
      (notApplied : room'.state = room.state) :
      PendingPath svc room request action txHash amount (svc', .ok ())

/-- The direct path: the room applies the action and answers, and nothing is bound or pending. -/
structure DirectPath [RsPoker Card] (svc : AppRoomService Card) (room : RoomState Card)
    (request : GameActRequest) (action : PlayerAction)
    (r : AppRoomService Card × Except RpcGatewayError Unit) : Prop where
  unbound : r.1.chainTxRepo = svc.chainTxRepo
  applied : r.1.rooms.lookup request.roomId = some (applyAndEmit room action).1
  notPending : (applyAndEmit room action).1.pendingChainActions = room.pendingChainActions
  answer : r.2 = match (applyAndEmit room action).2 with
    | .error e => .error (.upstream e)
    | .ok _ => .ok ()

/-- The service sends the request where the gateway's reading of it belongs; without a room it is
refused. -/
structure RoutedByFunding [RsPoker Card] (config : RoomActorConfig) (env : RoomEnv Card)
    (svc : AppRoomService Card) (request : GameActRequest) : Prop where
  noRoom : svc.rooms.lookup request.roomId = none →
    svc.act config env request = (svc, .error .roomNotFound)
  funded : ∀ room action, svc.rooms.lookup request.roomId = some room →
    toPlayerAction request = .ok action → monetary action.actionType = true →
    ∃ txHash amount, request.txHash = some txHash ∧
      parseAmountU128 request.amount = .ok (some amount) ∧
      PendingPath svc room request action txHash amount (svc.act config env request)
  free : ∀ room action, svc.rooms.lookup request.roomId = some room →
    toPlayerAction request = .ok action → monetary action.actionType = false →
    DirectPath svc room request action (svc.act config env request)

/-- The request names an action that pays, or it has no transaction field. -/
def HashOnlyIfFunded (request : GameActRequest) : Prop :=
  (∃ actionType, parseActionType request.actionType = .ok actionType ∧
    monetary actionType = true) ∨ request.txHash = none

/-! ### The request -/

section

variable {request : GameActRequest} {action : PlayerAction}

theorem toPlayerAction_parsed (h : toPlayerAction request = .ok action) :
    parseActionType request.actionType = .ok action.actionType ∧
      parseAmountU128 request.amount = .ok action.amount := by
  unfold toPlayerAction at h
  split at h
  · cases h
  rename_i htype
  split at h
  · cases h
  rename_i hamount
  cases h
  exact ⟨htype, hamount⟩

theorem funding_fields (hvalid : validateGameActFundingFields request = .ok ())
    (haction : toPlayerAction request = .ok action) (hpays : monetary action.actionType = true) :
    ∃ txHash amount, request.txHash = some txHash ∧ action.amount = some amount := by
  obtain ⟨action', haction', hfields⟩ := validateGameActFundingFields_ok hvalid
  rw [haction] at haction'
  cases haction'
  obtain ⟨hamount, hhash⟩ := hfields hpays
  obtain ⟨txHash, htx⟩ := Option.ne_none_iff_exists'.1 hhash
  obtain ⟨amount, ham⟩ := Option.ne_none_iff_exists'.1 hamount
  exact ⟨txHash, amount, htx, ham⟩

theorem hashOnlyIfFunded_iff (haction : toPlayerAction request = .ok action) :
    HashOnlyIfFunded request ↔ monetary action.actionType = true ∨ request.txHash = none := by
  have hparsed := (toPlayerAction_parsed haction).1
  simp [HashOnlyIfFunded, hparsed]

end

/-! ### The two paths -/

section

variable [RsPoker Card] {config : RoomActorConfig} {env : RoomEnv Card} {svc : AppRoomService Card}
  {room : RoomState Card} {request : GameActRequest} {action : PlayerAction}

theorem act_pendingPath {txHash : String} {amount : Chips}
    (hroom : svc.rooms.lookup request.roomId = some room)
    (haction : toPlayerAction request = .ok action) (hhash : request.txHash = some txHash)
    (hamount : action.amount = some amount) :
    PendingPath svc room request action txHash amount (svc.act config env request) := by
  have hbinding : actBinding request txHash action = paymentBinding request txHash amount := by
    rw [actBinding, paymentBinding, hamount]
  unfold AppRoomService.act
  rw [hroom, hhash]
  simp only [haction, hbinding]
  cases hinsert : svc.chainTxRepo.insertTxBinding (paymentBinding request txHash amount) with
  | error e => exact .refused e hinsert
  | ok repo => exact .queued _ _ hinsert (AList.lookup_insert _) rfl rfl

theorem act_directPath (hroom : svc.rooms.lookup request.roomId = some room)
    (haction : toPlayerAction request = .ok action) (hhash : request.txHash = none) :
    DirectPath svc room request action (svc.act config env request) := by
  have hpending : (applyAndEmit room action).1.pendingChainActions = room.pendingChainActions :=
    congrArg Books.pendingChainActions (applyAndEmit_books room action)
  unfold AppRoomService.act
  rw [hroom, hhash]
  simp only [haction]
  exact ⟨rfl, AList.lookup_insert _, hpending, rfl⟩

theorem applyAndEmit_error_ne {e : String} (h : (applyAndEmit room action).2 = .error e) :
    e ≠ LedgerStoreError.duplicateTxBinding.text ∧
      e ≠ LedgerStoreError.duplicateTxHashBinding.text := by
  unfold applyAndEmit at h
  split at h
  · rename_i err _
    cases h
    cases err with
    | domain d => cases d <;> decide
    | money m => cases m <;> decide
    | notEnoughPlayersToDeal => decide
    | insufficientDeck => decide
    | duplicateCardsInDeck => decide
  · cases h

theorem not_directPath {txHash : String} (hroom : svc.rooms.lookup request.roomId = some room)
    (haction : toPlayerAction request = .ok action) (hhash : request.txHash = some txHash) :
    ¬ DirectPath svc room request action (svc.act config env request) := by
  intro h
  unfold AppRoomService.act at h
  rw [hroom, hhash] at h
  simp only [haction] at h
  cases hinsert : svc.chainTxRepo.insertTxBinding (actBinding request txHash action) with
  | error e =>
    -- the refusal of the repository is not an answer of the room
    rw [hinsert] at h
    have hanswer := h.answer
    dsimp only at hanswer
    cases happ : (applyAndEmit room action).2 with
    | ok result => simp [happ] at hanswer
    | error e' =>
      obtain ⟨hne, hne'⟩ := applyAndEmit_error_ne happ
      simp only [happ, Except.error.injEq, RpcGatewayError.upstream.injEq] at hanswer
      unfold ChainTxRepo.insertTxBinding at hinsert
      split_ifs at hinsert
      · cases hinsert
        exact hne hanswer.symm
      · cases hinsert
        exact hne' hanswer.symm
  | ok repo =>
    -- the hash is bound now and was not before
    rw [hinsert] at h
    have hsame := h.unbound
    dsimp only at hsame
    obtain ⟨-, hnew, hrepo⟩ := insertTxBinding_eq_ok.1 hinsert
    rw [← hsame, hrepo] at hnew
    exact hnew (AList.mem_insert _ |>.2 (.inl rfl))

/-- **Gateway and service agree on a validated request exactly if only an action that pays carries a
transaction field**, blank or not; without a room both refuse it. -/
theorem routed_by_funding_iff (config : RoomActorConfig) (env : RoomEnv Card)
    (svc : AppRoomService Card) (request : GameActRequest)
    (hvalid : validateGameActFundingFields request = .ok ()) :
    RoutedByFunding config env svc request ↔
      request.roomId ∉ svc.rooms ∨ HashOnlyIfFunded request := by
  obtain ⟨action, haction, -⟩ := validateGameActFundingFields_ok hvalid
  have hunique : ∀ action', toPlayerAction request = .ok action' → action' = action := by
    intro action' h
    rw [haction] at h
    cases h
    rfl
  rw [hashOnlyIfFunded_iff haction]
  constructor
  · intro hrouted
    by_contra hcon
    rw [not_or, not_not, not_or, Bool.not_eq_true] at hcon
    obtain ⟨hmem, hfree, hsome⟩ := hcon
    obtain ⟨room, hroom⟩ := exists_lookup_of_mem hmem
    obtain ⟨txHash, hhash⟩ := Option.ne_none_iff_exists'.1 hsome
    exact not_directPath hroom haction hhash (hrouted.free room action hroom haction hfree)
  · intro hcond
    refine ⟨fun hnone => ?_, fun room action' hroom haction' hpays => ?_,
      fun room action' hroom haction' hfree => ?_⟩
    · unfold AppRoomService.act
      rw [hnone]
    · obtain ⟨txHash, amount, hhash, hamount⟩ := funding_fields hvalid haction' hpays
      refine ⟨txHash, amount, hhash, ?_, act_pendingPath hroom haction' hhash hamount⟩
      rw [(toPlayerAction_parsed haction').2, hamount]
    · have hmem : request.roomId ∈ svc.rooms := mem_of_lookup_some hroom
      rw [hunique action' haction'] at hfree
      have hhash : request.txHash = none := by
        rcases hcond with hno | hpays | hhash
        · exact absurd hmem hno
        · rw [hfree] at hpays
          cases hpays
        · exact hhash
      exact act_directPath hroom haction' hhash

end

/-- A fold of the seat to act, with the given transaction field. -/
def foldRequest (txHash : Option String) : GameActRequest :=
  { roomId := ⟨0⟩, handId := ⟨1⟩, actionSeq := 1, seatId := 0, actionType := "fold", amount := none,
    txHash, requestMeta := tableMeta }

/-- A fold with an empty transaction is validated. The service binds the empty text without an
amount, keeps the fold pending and leaves the seat to act. -/
theorem blank_hash_fold_bound :
    let svc := run (serviceStep {}) {} tableInputs
    let r := svc.act {} tableEnv (foldRequest (some ""))
    validateGameActFundingFields (foldRequest (some "")) = .ok () ∧ r.2 = .ok () ∧
      (r.1.chainTxRepo.txBindingsByHash.lookup "").map TxBindingInsert.expectedAmount = some none ∧
      (r.1.rooms.lookup ⟨0⟩).map (fun room =>
          (room.pendingChainActions.lookup "", room.state.snapshot.actingSeatId)) =
        some (some (tableAction 1 0 .fold none), some 0) ∧
      ¬ RoutedByFunding {} tableEnv svc (foldRequest (some "")) := by
  intro svc r
  have heval : validateGameActFundingFields (foldRequest (some "")) = .ok () ∧ r.2 = .ok () ∧
      (r.1.chainTxRepo.txBindingsByHash.lookup "").map TxBindingInsert.expectedAmount = some none ∧
      (r.1.rooms.lookup ⟨0⟩).map (fun room =>
          (room.pendingChainActions.lookup "", room.state.snapshot.actingSeatId)) =
        some (some (tableAction 1 0 .fold none), some 0) ∧
      ⟨0⟩ ∈ svc.rooms := by
    decide +kernel
  obtain ⟨hvalid, hok, hbound, hpending, hmem⟩ := heval
  obtain ⟨room, hroom⟩ := exists_lookup_of_mem hmem
  refine ⟨hvalid, hok, hbound, hpending, fun hrouted => ?_⟩
  exact not_directPath hroom rfl rfl
    (hrouted.free room (tableAction 1 0 .fold none) hroom rfl rfl)

/-- A fold without the field and a call with its transaction go where they belong. -/
theorem fold_and_call_routed :
    let svc := run (serviceStep {}) {} tableInputs
    RoutedByFunding {} tableEnv svc (foldRequest none) ∧
      RoutedByFunding {} tableEnv svc (payRequest 1 0 "call" "100000000000000" "0x1") := by
  intro svc
  exact ⟨(routed_by_funding_iff {} tableEnv svc (foldRequest none) (by decide +kernel)).2
      (.inr (.inr rfl)),
    (routed_by_funding_iff {} tableEnv svc (payRequest 1 0 "call" "100000000000000" "0x1")
      (by decide +kernel)).2 (.inr (.inl ⟨.call, rfl, rfl⟩))⟩

end HoldemPlatform.Service.FundedActions
