import HoldemPlatform.Service.RoomService

/-!
# Payments and Their Bindings

A payment is a pending action with the hash of its transaction. This module says what one step of the
service can do to the rooms and to the bindings, which payment a callback finds, and what every run
keeps: a pending action has a binding of its own room and amount, and the engine's invariants hold in
every room.
-/

namespace HoldemPlatform.Service.Payments

open HoldemPlatform.Lib.FiniteMap HoldemPlatform.Lib.Run
open HoldemPlatform.Domain.Money HoldemPlatform.Domain.Game
open HoldemPlatform.Engine.State HoldemPlatform.Engine.Action HoldemPlatform.Engine.Run
open HoldemPlatform.Chain.Watcher HoldemPlatform.Chain.TxRepo
open HoldemPlatform.Room.Actor HoldemPlatform.Room.Effect
open HoldemPlatform.Gateway.Requests HoldemPlatform.Service.RoomService

variable {Card : Type}

/-- The callback a step delivers, and the room it goes to. -/
def deliveredCallback : ServiceInput Card → Option (RoomId × ChainTxVerifiedCallback)
  | .callback _ _ callback => some (callback.roomId, roomCallback callback)
  | .internal _ roomId (.chainTxVerified callback) => some (roomId, callback)
  | _ => none

/-- The callback an input brings to a room that exists. -/
def callbackAt (svc : AppRoomService Card) (input : ServiceInput Card) :
    Option (RoomId × RoomState Card × ChainTxVerifiedCallback) :=
  match deliveredCallback input with
  | none => none
  | some (roomId, callback) =>
    (svc.rooms.lookup roomId).map fun room => (roomId, room, callback)

/-- A pending action and its transaction. -/
structure Payment where
  roomId : RoomId
  txHash : String
  action : PlayerAction
deriving DecidableEq

/-- The pending payment a matched callback names. -/
def processedBy (svc : AppRoomService Card) (input : ServiceInput Card) : Option Payment :=
  match callbackAt svc input with
  | none => none
  | some (roomId, room, callback) =>
    if callback.status = "matched" then
      (room.pendingChainActions.lookup callback.txHash).map fun action =>
        ⟨roomId, callback.txHash, action⟩
    else none

/-- The payment whose action the step applies to the game. -/
def appliedBy [RsPoker Card] (svc : AppRoomService Card) (input : ServiceInput Card) :
    Option Payment :=
  match callbackAt svc input with
  | none => none
  | some (roomId, room, callback) =>
    if callback.status = "matched" ∧ callback.handId = some room.state.snapshot.handId then
      match room.pendingChainActions.lookup callback.txHash with
      | none => none
      | some action =>
        match (applyAction room.state action).2 with
        | .error _ => none
        | .ok _ => some ⟨roomId, callback.txHash, action⟩
    else none

def potTotal (svc : AppRoomService Card) (roomId : RoomId) : ℕ :=
  ((svc.rooms.lookup roomId).map fun room => room.state.snapshot.potTotal.asU128).getD 0

/-! ### What a step can do -/

/-- The bindings of two repositories agree. -/
structure SameBindings (repo repo' : ChainTxRepo) : Prop where
  byHash : repo'.txBindingsByHash = repo.txBindingsByHash
  byAction : repo'.txBindingsByAction = repo.txBindingsByAction

/-- The ways a step can change the rooms and the bindings. -/
inductive ServiceEffect [RsPoker Card] (config : RoomActorConfig) (svc : AppRoomService Card)
    (input : ServiceInput Card) (svc' : AppRoomService Card) : Prop
  | idle (hrooms : svc'.rooms = svc.rooms)
      (hbind : SameBindings svc.chainTxRepo svc'.chainTxRepo) (hcallback : callbackAt svc input = none)
  | opened (roomId : RoomId) (room : RoomState Card) (hnew : roomId ∉ svc.rooms)
      (hpending : room.pendingChainActions = ∅) (hengine : EngineInv room.state)
      (hrooms : svc'.rooms = svc.rooms.insert roomId room)
      (hbind : SameBindings svc.chainTxRepo svc'.chainTxRepo) (hcallback : callbackAt svc input = none)
  | told (env : RoomEnv Card) (roomId : RoomId) (room : RoomState Card) (cmd : RoomCommand)
      (hroom : svc.rooms.lookup roomId = some room)
      (htouch : touchesPending cmd = false)
      (hrooms : svc'.rooms = svc.rooms.insert roomId (roomStep config env room cmd).1)
      (hbind : SameBindings svc.chainTxRepo svc'.chainTxRepo) (hcallback : callbackAt svc input = none)
  | verified (env : RoomEnv Card) (roomId : RoomId) (room : RoomState Card)
      (callback : ChainTxVerifiedCallback)
      (hcallback : callbackAt svc input = some (roomId, room, callback))
      (hrooms : svc'.rooms = svc.rooms.insert roomId (chainTxVerified room callback))
      (hbind : SameBindings svc.chainTxRepo svc'.chainTxRepo)
  | queued (env : RoomEnv Card) (request : GameActRequest) (room : RoomState Card) (txHash : String)
      (action : PlayerAction) (hinput : input = .act env request)
      (hroom : svc.rooms.lookup request.roomId = some room)
      (hhash : request.txHash = some txHash) (haction : toPlayerAction request = .ok action)
      (hnew : txHash ∉ svc.chainTxRepo.txBindingsByHash)
      (hrooms : svc'.rooms =
        svc.rooms.insert request.roomId (queuePendingChainAction room txHash action))
      (hbind : svc'.chainTxRepo.txBindingsByHash =
        svc.chainTxRepo.txBindingsByHash.insert txHash (actBinding request txHash action))

theorem SameBindings.refl (repo : ChainTxRepo) : SameBindings repo repo := ⟨rfl, rfl⟩

theorem recordCallback_bindings (repo : ChainTxRepo) (callback : TxVerificationCallback) :
    SameBindings repo (recordCallback repo callback) := by
  unfold recordCallback
  dsimp only
  split_ifs <;> exact ⟨rfl, rfl⟩

theorem callbackAt_of_delivered {svc : AppRoomService Card} {input : ServiceInput Card}
    {roomId : RoomId} {callback : ChainTxVerifiedCallback}
    (h : deliveredCallback input = some (roomId, callback)) :
    callbackAt svc input = (svc.rooms.lookup roomId).map fun room => (roomId, room, callback) := by
  unfold callbackAt
  rw [h]

theorem callbackAt_none {svc : AppRoomService Card} {input : ServiceInput Card}
    (h : deliveredCallback input = none) :
    callbackAt svc input = none := by
  unfold callbackAt
  rw [h]

theorem lookup_of_callbackAt {svc : AppRoomService Card} {input : ServiceInput Card}
    {roomId : RoomId} {room : RoomState Card}
    {callback : ChainTxVerifiedCallback}
    (h : callbackAt svc input = some (roomId, room, callback)) :
    svc.rooms.lookup roomId = some room := by
  unfold callbackAt at h
  split at h
  · cases h
  · obtain ⟨found, hfound, heq⟩ := Option.map_eq_some_iff.1 h
    cases heq
    exact hfound

theorem processedBy_eq_some {svc : AppRoomService Card} {input : ServiceInput Card} {p : Payment} :
    processedBy svc input = some p ↔ ∃ room callback,
      callbackAt svc input = some (p.roomId, room, callback) ∧ callback.status = "matched" ∧
      callback.txHash = p.txHash ∧ room.pendingChainActions.lookup p.txHash = some p.action := by
  unfold processedBy
  cases hcallback : callbackAt svc input with
  | none => simp
  | some found =>
    obtain ⟨roomId, room, callback⟩ := found
    obtain ⟨pRoom, pHash, pAction⟩ := p
    dsimp only
    split_ifs with hmatched
    · simp only [Option.map_eq_some_iff, Payment.mk.injEq, Option.some.injEq, Prod.mk.injEq]
      constructor
      · rintro ⟨action, hpend, rfl, rfl, rfl⟩
        exact ⟨room, callback, ⟨rfl, rfl, rfl⟩, hmatched, rfl, hpend⟩
      · rintro ⟨_, _, ⟨rfl, rfl, rfl⟩, -, rfl, hpend⟩
        exact ⟨pAction, hpend, rfl, rfl, rfl⟩
    · simp only [false_iff, not_exists, not_and]
      rintro _ _ heq hm
      cases heq
      exact absurd hm hmatched

section

variable [RsPoker Card] {config : RoomActorConfig} {svc : AppRoomService Card}

/-- A command that leaves the pending actions and the bindings alone. -/
theorem told_effect {input : ServiceInput Card} {svc' : AppRoomService Card} {env : RoomEnv Card}
    {roomId : RoomId} {room : RoomState Card} (cmd : RoomCommand)
    (hroom : svc.rooms.lookup roomId = some room) (htouch : touchesPending cmd = false)
    (hrooms : svc'.rooms = (tellRoom config env svc roomId room cmd).rooms)
    (hrepo : svc'.chainTxRepo = svc.chainTxRepo) (hcallback : deliveredCallback input = none) :
    ServiceEffect config svc input svc' :=
  .told env roomId room cmd hroom htouch hrooms (hrepo ▸ .refl _) (callbackAt_none hcallback)

theorem ensureRoom_effect (roomId : RoomId) (handId : HandId) :
    ServiceEffect config svc (.createRoom roomId handId) (ensureRoom svc roomId handId) := by
  unfold ensureRoom
  split_ifs with hmem
  · exact .idle rfl (.refl _) rfl
  · exact .opened roomId (RoomState.spawn roomId handId) hmem rfl (engineInv_spawn roomId handId) rfl
      (.refl _) rfl

theorem act_effect (env : RoomEnv Card) (request : GameActRequest) :
    ServiceEffect config svc (.act env request) (svc.act config env request).1 := by
  unfold AppRoomService.act
  split
  · exact .idle rfl (.refl _) rfl
  rename_i room hroom
  split
  · exact .idle rfl (.refl _) rfl
  rename_i action haction
  split
  · rename_i txHash hhash
    split
    · exact .idle rfl (.refl _) rfl
    · rename_i repo hinsert
      obtain ⟨-, hnew, hrepo⟩ := insertTxBinding_eq_ok.1 hinsert
      exact .queued env request room txHash action rfl hroom hhash haction hnew rfl (by rw [hrepo]; rfl)
  · exact told_effect (.act action) hroom rfl rfl rfl rfl

theorem chainTxVerified_spawn (env : RoomEnv Card) (roomId : RoomId) (handId : HandId)
    (callback : ChainTxVerifiedCallback) :
    (chainTxVerified (RoomState.spawn roomId handId : RoomState Card) callback).pendingChainActions
        = ∅ ∧
      EngineInv (chainTxVerified (RoomState.spawn roomId handId : RoomState Card) callback).state := by
  constructor
  · rw [chainTxVerified_pending]
    split_ifs <;> rfl
  · have heffect : HandEffect env (RoomState.spawn roomId handId) (.chainTxVerified callback) _ :=
      chainTxVerified_effect callback
    exact heffect.engineInv (engineInv_spawn roomId handId)

theorem onVerificationResult_effect (env : RoomEnv Card) (handId : HandId)
    (callback : TxVerificationCallback) :
    ServiceEffect config svc (.callback env handId callback)
      (onVerificationResult config env svc handId callback) := by
  unfold onVerificationResult ensureRoom
  dsimp only
  split_ifs with hmem
  · obtain ⟨room, hroom⟩ := exists_lookup_of_mem hmem
    dsimp only
    rw [hroom]
    refine .verified env callback.roomId room (roomCallback callback) ?_ rfl
      (recordCallback_bindings _ callback)
    simp [callbackAt, deliveredCallback, hroom]
  · dsimp only
    rw [AList.lookup_insert]
    obtain ⟨hpending, hengine⟩ :=
      chainTxVerified_spawn env callback.roomId handId (roomCallback callback)
    refine .opened callback.roomId _ hmem hpending hengine ?_ (recordCallback_bindings _ callback) ?_
    · exact AList.insert_insert _
    · simp [callbackAt, deliveredCallback, AList.lookup_eq_none.2 hmem]

theorem internal_effect (env : RoomEnv Card) (roomId : RoomId) (cmd : RoomCommand) :
    ServiceEffect config svc (.internal env roomId cmd)
      (serviceStep config svc (.internal env roomId cmd)) := by
  rw [serviceStep]
  cases hroom : svc.rooms.lookup roomId with
  | none =>
    refine .idle rfl (.refl _) ?_
    cases cmd <;> simp [callbackAt, deliveredCallback, hroom]
  | some room =>
    dsimp only
    split_ifs with hint
    · cases cmd with
      | chainTxVerified callback =>
        refine .verified env roomId room callback ?_ rfl (.refl _)
        simp [callbackAt, deliveredCallback, hroom]
      | queuePendingChainAction txHash action => cases hint
      | _ => exact told_effect _ hroom rfl rfl rfl rfl
    · refine .idle rfl (.refl _) ?_
      cases cmd <;> first | rfl | exact absurd rfl hint

/-- **What a step can do**: nothing, open a room, pass on a command or a callback, or bind and queue
a payment. -/
theorem serviceStep_effect (config : RoomActorConfig) (svc : AppRoomService Card)
    (input : ServiceInput Card) : ServiceEffect config svc input (serviceStep config svc input) := by
  cases input with
  | createRoom roomId handId => exact ensureRoom_effect roomId handId
  | join env request =>
    rw [serviceStep, AppRoomService.join]
    split
    · exact .idle rfl (.refl _) rfl
    · rename_i room hroom
      exact told_effect (.join request.seatId) hroom rfl rfl rfl rfl
  | ready env request =>
    rw [serviceStep, AppRoomService.ready]
    split
    · exact .idle rfl (.refl _) rfl
    split
    · exact .idle rfl (.refl _) rfl
    · rename_i room hroom
      exact told_effect (.ready request.seatId) hroom rfl rfl rfl rfl
  | bindAddress env request =>
    rw [serviceStep, AppRoomService.bindAddress]
    split
    · exact .idle rfl (.refl _) rfl
    split
    · exact .idle rfl (.refl _) rfl
    · rename_i room hroom
      exact told_effect (.bindAddress request.seatId request.seatAddress) hroom rfl rfl rfl rfl
  | bindSessionKeys env request =>
    rw [serviceStep, AppRoomService.bindSessionKeys]
    split
    · exact .idle rfl (.refl _) rfl
    split
    · exact .idle rfl (.refl _) rfl
    · rename_i room hroom
      exact told_effect (.bindSessionKeys request.seatId _ _ _ _) hroom rfl rfl rfl rfl
  | act env request => exact act_effect env request
  | callback env handId callback => exact onVerificationResult_effect env handId callback
  | internal env roomId cmd => exact internal_effect env roomId cmd

/-! ### Callbacks and payments -/

theorem rooms_of_callbackAt {input : ServiceInput Card} {roomId : RoomId} {room : RoomState Card}
    {callback : ChainTxVerifiedCallback}
    (h : callbackAt svc input = some (roomId, room, callback)) :
    (serviceStep config svc input).rooms =
      svc.rooms.insert roomId (chainTxVerified room callback) := by
  cases serviceStep_effect config svc input with
  | idle _ _ hcallback => rw [h] at hcallback; cases hcallback
  | opened _ _ _ _ _ _ _ hcallback => rw [h] at hcallback; cases hcallback
  | told _ _ _ _ _ _ _ _ hcallback => rw [h] at hcallback; cases hcallback
  | verified _ _ _ _ hcallback hrooms =>
    rw [h] at hcallback
    cases hcallback
    exact hrooms
  | queued _ _ _ _ _ hinput =>
    subst hinput
    cases h

theorem appliedBy_eq_none {input : ServiceInput Card} (h : deliveredCallback input = none) :
    appliedBy svc input = none := by
  rw [appliedBy, callbackAt_none h]

/-- What it takes to apply a payment: it is found, in its hand, and the engine accepts it. -/
theorem appliedBy_eq_some {input : ServiceInput Card} {p : Payment} :
    appliedBy svc input = some p ↔ ∃ room callback,
      callbackAt svc input = some (p.roomId, room, callback) ∧
      (callback.status = "matched" ∧ callback.handId = some room.state.snapshot.handId) ∧
      callback.txHash = p.txHash ∧ room.pendingChainActions.lookup p.txHash = some p.action ∧
      ∃ result, (applyAction room.state p.action).2 = .ok result := by
  unfold appliedBy
  cases hcallback : callbackAt svc input with
  | none => simp
  | some found =>
    obtain ⟨roomId, room, callback⟩ := found
    obtain ⟨pRoom, pHash, pAction⟩ := p
    dsimp only
    split_ifs with hmatched
    · constructor
      · intro h
        split at h
        · cases h
        rename_i action hpend
        split at h
        · cases h
        rename_i result hresult
        cases h
        exact ⟨room, callback, rfl, hmatched, rfl, hpend, result, hresult⟩
      · rintro ⟨_, _, heq, -, rfl, hpend, result, hresult⟩
        cases heq
        rw [hpend]
        dsimp only
        rw [hresult]
    · simp only [false_iff, not_exists, not_and]
      rintro _ _ heq hm
      cases heq
      exact absurd hm hmatched

end

/-! ### What every run keeps -/

/-- The engine's invariants hold in every room, and every pending action has its binding. -/
structure BindingInv (svc : AppRoomService Card) : Prop where
  engine : ∀ roomId room, svc.rooms.lookup roomId = some room → EngineInv room.state
  bound : ∀ roomId room txHash action, svc.rooms.lookup roomId = some room →
    room.pendingChainActions.lookup txHash = some action →
    ∃ binding, svc.chainTxRepo.txBindingsByHash.lookup txHash = some binding ∧
      binding.roomId = roomId ∧ binding.expectedAmount = action.amount

theorem bindingInv_init : BindingInv ({} : AppRoomService Card) := by
  constructor
  · intro roomId room h
    cases h
  · intro roomId room txHash action h
    cases h

section

variable [RsPoker Card]

/-- The callback takes the pending action of `txHash` out of the room. -/
def Takes (room : RoomState Card) (callback : ChainTxVerifiedCallback) (txHash : String) : Prop :=
  callback.status = "matched" ∧ callback.handId = some room.state.snapshot.handId ∧
    callback.txHash = txHash

theorem lookup_chainTxVerified_pending {room : RoomState Card} {callback : ChainTxVerifiedCallback}
    {txHash : String} {action : PlayerAction} :
    (chainTxVerified room callback).pendingChainActions.lookup txHash = some action ↔
      room.pendingChainActions.lookup txHash = some action ∧ ¬ Takes room callback txHash := by
  rw [chainTxVerified_pending]
  split_ifs with hmatch
  · constructor
    · intro h
      obtain ⟨hne, h⟩ := lookup_erase_some h
      exact ⟨h, fun htakes => hne htakes.2.2.symm⟩
    · rintro ⟨h, hkeep⟩
      rw [AList.lookup_erase_ne fun heq => hkeep ⟨hmatch.1, hmatch.2, heq.symm⟩, h]
  · constructor
    · exact fun h => ⟨h, fun htakes => hmatch ⟨htakes.1, htakes.2.1⟩⟩
    · exact fun h => h.1

/-- The step binds the transaction and queues the action for it. -/
def Queues (svc : AppRoomService Card) (input : ServiceInput Card) (roomId : RoomId)
    (txHash : String) (action : PlayerAction) (svc' : AppRoomService Card) : Prop :=
  ∃ env request, input = .act env request ∧ request.roomId = roomId ∧
    request.txHash = some txHash ∧ toPlayerAction request = .ok action ∧
    txHash ∉ svc.chainTxRepo.txBindingsByHash ∧
    svc'.chainTxRepo.txBindingsByHash =
      svc.chainTxRepo.txBindingsByHash.insert txHash (actBinding request txHash action)

/-- **Where a pending action comes from**: it was pending before and no callback took it, or the step
queued it. -/
theorem pending_origin (config : RoomActorConfig) {svc : AppRoomService Card}
    {input : ServiceInput Card} {roomId : RoomId} {room : RoomState Card} {txHash : String}
    {action : PlayerAction} (hroom : (serviceStep config svc input).rooms.lookup roomId = some room)
    (hpend : room.pendingChainActions.lookup txHash = some action) :
    (∃ room₀, svc.rooms.lookup roomId = some room₀ ∧
      room₀.pendingChainActions.lookup txHash = some action ∧
      ∀ callback, callbackAt svc input = some (roomId, room₀, callback) →
        ¬ Takes room₀ callback txHash) ∨
    Queues svc input roomId txHash action (serviceStep config svc input) := by
  -- a step without a callback takes nothing
  have hfree : callbackAt svc input = none → ∀ room₀ callback,
      callbackAt svc input = some (roomId, room₀, callback) → ¬ Takes room₀ callback txHash := by
    intro hnone room₀ callback h
    rw [hnone] at h
    cases h
  cases serviceStep_effect config svc input with
  | idle hrooms hbind hcallback =>
    rw [hrooms] at hroom
    exact .inl ⟨room, hroom, hpend, hfree hcallback room⟩
  | opened newId newRoom hnew hpending hengine hrooms hbind hcallback =>
    rw [hrooms] at hroom
    rcases lookup_insert_cases hroom with ⟨rfl, rfl⟩ | ⟨-, hroom⟩
    · rw [hpending] at hpend
      cases hpend
    · exact .inl ⟨room, hroom, hpend, hfree hcallback room⟩
  | told env toldId toldRoom cmd htold htouch hrooms hbind hcallback =>
    rw [hrooms] at hroom
    rcases lookup_insert_cases hroom with ⟨rfl, rfl⟩ | ⟨-, hroom⟩
    · rw [roomStep_pending config htouch] at hpend
      exact .inl ⟨toldRoom, htold, hpend, hfree hcallback toldRoom⟩
    · exact .inl ⟨room, hroom, hpend, hfree hcallback room⟩
  | verified env verId verRoom callback hcallback hrooms hbind =>
    rw [hrooms] at hroom
    rcases lookup_insert_cases hroom with ⟨rfl, rfl⟩ | ⟨hne, hroom⟩
    · obtain ⟨hbefore, hkeep⟩ := lookup_chainTxVerified_pending.1 hpend
      refine .inl ⟨verRoom, lookup_of_callbackAt hcallback, hbefore, fun other hother => ?_⟩
      rw [hcallback] at hother
      cases hother
      exact hkeep
    · refine .inl ⟨room, hroom, hpend, fun other hother => ?_⟩
      rw [hcallback] at hother
      cases hother
      exact absurd rfl hne
  | queued env request queuedRoom newHash newAction hinput hqueued hhash haction hnew hrooms hbind =>
    rw [hrooms] at hroom
    have hnone : callbackAt svc input = none := by rw [hinput]; rfl
    rcases lookup_insert_cases hroom with ⟨rfl, rfl⟩ | ⟨-, hroom⟩
    · rcases lookup_insert_cases hpend with ⟨rfl, rfl⟩ | ⟨-, hpend⟩
      · exact .inr ⟨env, request, hinput, rfl, hhash, haction, hnew, hbind⟩
      · exact .inl ⟨queuedRoom, hqueued, hpend, hfree hnone queuedRoom⟩
    · exact .inl ⟨room, hroom, hpend, hfree hnone room⟩

/-- **What becomes of a pending action**: it stays pending unless a callback takes it. -/
theorem pending_kept (config : RoomActorConfig) {svc : AppRoomService Card}
    (input : ServiceInput Card) {roomId : RoomId} {room : RoomState Card} {txHash : String}
    {action : PlayerAction} (hbound : txHash ∈ svc.chainTxRepo.txBindingsByHash)
    (hroom : svc.rooms.lookup roomId = some room)
    (hpend : room.pendingChainActions.lookup txHash = some action) :
    (∃ room', (serviceStep config svc input).rooms.lookup roomId = some room' ∧
      room'.pendingChainActions.lookup txHash = some action) ∨
    ∃ callback, callbackAt svc input = some (roomId, room, callback) ∧
      Takes room callback txHash := by
  -- the room of the step is this one, or it is another and this one is untouched
  have hother : ∀ {otherId : RoomId} {newRoom : RoomState Card},
      (serviceStep config svc input).rooms = svc.rooms.insert otherId newRoom →
      (otherId = roomId → newRoom.pendingChainActions.lookup txHash = some action) →
      ∃ room', (serviceStep config svc input).rooms.lookup roomId = some room' ∧
        room'.pendingChainActions.lookup txHash = some action := by
    intro otherId newRoom hrooms hsame
    rw [hrooms]
    by_cases hid : roomId = otherId
    · subst hid
      exact ⟨newRoom, AList.lookup_insert _, hsame rfl⟩
    · exact ⟨room, by rw [AList.lookup_insert_ne hid, hroom], hpend⟩
  cases serviceStep_effect config svc input with
  | idle hrooms =>
    left
    rw [hrooms]
    exact ⟨room, hroom, hpend⟩
  | opened newId newRoom hnew hpending hengine hrooms =>
    left
    rw [hrooms]
    exact ⟨room, lookup_insert_of_some hnew hroom, hpend⟩
  | told env toldId toldRoom cmd htold htouch hrooms =>
    refine .inl (hother hrooms ?_)
    rintro rfl
    rw [hroom, Option.some.injEq] at htold
    rw [roomStep_pending config htouch, ← htold, hpend]
  | verified env verId verRoom callback hcallback hrooms =>
    have hver := lookup_of_callbackAt hcallback
    by_cases htakes : verId = roomId ∧ Takes verRoom callback txHash
    · obtain ⟨rfl, htakes⟩ := htakes
      rw [hroom, Option.some.injEq] at hver
      subst hver
      exact .inr ⟨callback, hcallback, htakes⟩
    · refine .inl (hother hrooms ?_)
      rintro rfl
      rw [hroom, Option.some.injEq] at hver
      subst hver
      exact lookup_chainTxVerified_pending.2 ⟨hpend, fun h => htakes ⟨rfl, h⟩⟩
  | queued env request queuedRoom newHash newAction hinput hqueued hhash haction hnew hrooms =>
    refine .inl (hother hrooms ?_)
    rintro rfl
    rw [hroom, Option.some.injEq] at hqueued
    subst hqueued
    have hne : txHash ≠ newHash := by
      rintro rfl
      exact hnew hbound
    exact (AList.lookup_insert_ne hne).trans hpend

/-- A bound hash was bound before, or the step is a request with it. -/
theorem binding_origin (config : RoomActorConfig) {svc : AppRoomService Card}
    {input : ServiceInput Card} {txHash : String}
    (h : txHash ∈ (serviceStep config svc input).chainTxRepo.txBindingsByHash) :
    txHash ∈ svc.chainTxRepo.txBindingsByHash ∨
      ∃ env request, input = .act env request ∧ request.txHash = some txHash := by
  cases serviceStep_effect config svc input with
  | idle _ hbind => exact .inl (hbind.byHash ▸ h)
  | opened _ _ _ _ _ _ hbind => exact .inl (hbind.byHash ▸ h)
  | told _ _ _ _ _ _ _ hbind => exact .inl (hbind.byHash ▸ h)
  | verified _ _ _ _ _ _ hbind => exact .inl (hbind.byHash ▸ h)
  | queued env request _ newHash _ hinput _ hhash _ _ _ hbind =>
    rw [hbind, AList.mem_insert] at h
    rcases h with rfl | h
    · exact .inr ⟨env, request, hinput, hhash⟩
    · exact .inl h

theorem lookup_binding_step (config : RoomActorConfig) {svc : AppRoomService Card}
    (input : ServiceInput Card) {txHash : String} {binding : TxBindingInsert}
    (h : svc.chainTxRepo.txBindingsByHash.lookup txHash = some binding) :
    (serviceStep config svc input).chainTxRepo.txBindingsByHash.lookup txHash = some binding := by
  cases serviceStep_effect config svc input with
  | idle _ hbind => rw [hbind.byHash, h]
  | opened _ _ _ _ _ _ hbind => rw [hbind.byHash, h]
  | told _ _ _ _ _ _ _ hbind => rw [hbind.byHash, h]
  | verified _ _ _ _ _ _ hbind => rw [hbind.byHash, h]
  | queued _ _ _ _ _ _ _ _ _ hnew _ hbind =>
    rw [hbind]
    exact lookup_insert_of_some hnew h

theorem engineInv_serviceStep (config : RoomActorConfig) {svc : AppRoomService Card}
    (input : ServiceInput Card)
    (h : ∀ roomId room, svc.rooms.lookup roomId = some room → EngineInv room.state) :
    ∀ roomId room, (serviceStep config svc input).rooms.lookup roomId = some room →
      EngineInv room.state := by
  intro roomId room hroom
  cases serviceStep_effect config svc input with
  | idle hrooms =>
    rw [hrooms] at hroom
    exact h roomId room hroom
  | opened _ _ _ _ hengine hrooms =>
    rw [hrooms] at hroom
    rcases lookup_insert_cases hroom with ⟨rfl, rfl⟩ | ⟨-, hroom⟩
    · exact hengine
    · exact h roomId room hroom
  | told env toldId toldRoom cmd htold _ hrooms =>
    rw [hrooms] at hroom
    rcases lookup_insert_cases hroom with ⟨rfl, rfl⟩ | ⟨-, hroom⟩
    · exact engineInv_roomStep config cmd (h roomId toldRoom htold)
    · exact h roomId room hroom
  | verified env verId verRoom callback hcallback hrooms =>
    rw [hrooms] at hroom
    rcases lookup_insert_cases hroom with ⟨rfl, rfl⟩ | ⟨-, hroom⟩
    · have heffect : HandEffect env verRoom (.chainTxVerified callback) _ :=
        chainTxVerified_effect callback
      exact heffect.engineInv (h roomId verRoom (lookup_of_callbackAt hcallback))
    · exact h roomId room hroom
  | queued _ request queuedRoom _ _ _ hqueued _ _ _ hrooms =>
    rw [hrooms] at hroom
    rcases lookup_insert_cases hroom with ⟨rfl, rfl⟩ | ⟨-, hroom⟩
    · exact h _ queuedRoom hqueued
    · exact h roomId room hroom

/-- **Every step keeps the bindings of the pending actions.** -/
theorem bindingInv_step (config : RoomActorConfig) (svc : AppRoomService Card)
    (input : ServiceInput Card) (h : BindingInv svc) :
    BindingInv (serviceStep config svc input) where
  engine := engineInv_serviceStep config input h.engine
  bound roomId room txHash action hroom hpend := by
    rcases pending_origin config hroom hpend with ⟨room₀, hroom₀, hpend₀, -⟩ |
        ⟨env, request, -, rfl, -, -, -, hbind⟩
    · obtain ⟨binding, hlookup, hfields⟩ := h.bound roomId room₀ txHash action hroom₀ hpend₀
      exact ⟨binding, lookup_binding_step config input hlookup, hfields⟩
    · rw [hbind]
      exact ⟨_, AList.lookup_insert _, rfl, rfl⟩

end

/-! ### A table of two behind the service -/

def tableMeta : SignedRequestMeta where
  requestId := ⟨0⟩
  requestNonce := "n"
  requestTs := 0
  requestExpiryMs := 30000
  signaturePubkeyId := "k"
  signature := "s"

/-- The requests of two seats up to the deal of `tableRoom`. -/
def tableInputs : List (ServiceInput ByteCard) :=
  [.createRoom ⟨0⟩ ⟨0⟩, .join tableEnv ⟨⟨0⟩, 0, tableMeta⟩, .join tableEnv ⟨⟨0⟩, 1, tableMeta⟩,
    .bindAddress tableEnv ⟨⟨0⟩, 0, "0xa", tableMeta⟩, .bindAddress tableEnv ⟨⟨0⟩, 1, "0xb", tableMeta⟩,
    .bindSessionKeys tableEnv ⟨⟨0⟩, 0, "0xa", "c0", "r0", "x25519+evm", "p0", tableMeta⟩,
    .bindSessionKeys tableEnv ⟨⟨0⟩, 1, "0xb", "c1", "r1", "x25519+evm", "p1", tableMeta⟩,
    .ready tableEnv ⟨⟨0⟩, 0, tableMeta⟩, .ready tableEnv ⟨⟨0⟩, 1, tableMeta⟩]

/-- An action of that hand paid with a transaction. -/
def payRequest (actionSeq : ActionSeq) (seatId : SeatId) (actionType amount txHash : String) :
    GameActRequest :=
  { roomId := ⟨0⟩, handId := ⟨1⟩, actionSeq, seatId, actionType, amount := some amount,
    txHash := some txHash, requestMeta := tableMeta }

theorem tableInputs_no_callback : ∀ input ∈ tableInputs, deliveredCallback input = none := by
  simp [tableInputs, deliveredCallback]

/-- The watcher reports the transaction of an action of that hand as matched. -/
def matchedCallback (actionSeq : ActionSeq) (seatId : SeatId) (txHash : String) :
    ServiceInput ByteCard :=
  .callback tableEnv ⟨0⟩
    { roomId := ⟨0⟩, handId := some ⟨1⟩, seatId := some seatId, actionSeq := some actionSeq, txHash,
      status := .matched, confirmations := 1, failureReason := none }

end HoldemPlatform.Service.Payments
