import HoldemPlatform.Lib.Interleaving
import HoldemPlatform.Service.Payments

/-!
# The Service with Mailboxes

In `RoomService` a request is handled at once. In the program it is a task of its own: it checks that
the seat has joined, takes the handle of the room, writes what the service keeps, puts a command into
the room's mailbox and goes on, and between any two of these points other tasks and the rooms may run. A
mailbox is served in order and has room for 128 commands; who sends to a full one waits.

A request counts as handled when the room takes its command out of the mailbox. `Handled` says what it
leaves behind if the service of `RoomService` handles it at that point (`handled_inputOf`).
-/

namespace HoldemPlatform.Service.Concurrent

open HoldemPlatform.Lib.FiniteMap HoldemPlatform.Lib.Run HoldemPlatform.Lib.Interleaving
open HoldemPlatform.Domain.Game HoldemPlatform.Engine.State HoldemPlatform.Chain.Watcher
open HoldemPlatform.Chain.TxRepo HoldemPlatform.Room.Actor HoldemPlatform.Room.Effect
open HoldemPlatform.Gateway.Requests HoldemPlatform.Service.RoomService
open HoldemPlatform.Service.Payments

variable {Card : Type}

/-- The requests that end in a command to a room; `handId` is the one `ensure_room` would give a new
room. -/
inductive ServiceRequest where
  | join (request : RoomReadyRequest)
  | ready (request : RoomReadyRequest)
  | bindAddress (request : RoomBindAddressRequest)
  | bindSessionKeys (request : RoomBindSessionKeysRequest)
  | act (request : GameActRequest)
  | callback (handId : HandId) (callback : TxVerificationCallback)

namespace ServiceRequest

def roomId : ServiceRequest → RoomId
  | .join request | .ready request => request.roomId
  | .bindAddress request => request.roomId
  | .bindSessionKeys request => request.roomId
  | .act request => request.roomId
  | .callback _ result => result.roomId

def joinedSeat : ServiceRequest → Option SeatId
  | .ready request => some request.seatId
  | .bindAddress request => some request.seatId
  | .bindSessionKeys request => some request.seatId
  | .join _ | .act _ | .callback _ _ => none

def command : ServiceRequest → Except RpcGatewayError RoomCommand
  | .join request => .ok (.join request.seatId)
  | .ready request => .ok (.ready request.seatId)
  | .bindAddress request => .ok (.bindAddress request.seatId request.seatAddress)
  | .bindSessionKeys request =>
    .ok (.bindSessionKeys request.seatId request.cardEncryptPubkey request.requestVerifyPubkey
      request.keyAlgo request.proofSignature)
  | .act request =>
    match toPlayerAction request with
    | .error e => .error e
    | .ok action =>
      match request.txHash with
      | some txHash => .ok (.queuePendingChainAction txHash action)
      | none => .ok (.act action)
  | .callback _ result => .ok (.chainTxVerified (roomCallback result))

/-- The binding an `act` with a transaction records. -/
def binding : ServiceRequest → Option TxBindingInsert
  | .act request =>
    match toPlayerAction request, request.txHash with
    | .ok action, some txHash => some (actBinding request txHash action)
    | _, _ => none
  | _ => none

/-- The room that a callback opens if it is not there. -/
def openedRooms : ServiceRequest → List (RoomId × HandId)
  | .callback handId result => [(result.roomId, handId)]
  | _ => []

/-- The task waits for the answer of the room. -/
def awaitsReply : ServiceRequest → Bool
  | .act _ => true
  | _ => false

end ServiceRequest

/-- How far a task has come. -/
inductive Stage where
  | called
  | checked
  | found
  | written
  | sent
  | answered (result : Except RpcGatewayError Unit)

structure Task where
  request : ServiceRequest
  stage : Stage := .called

/-- A command in a mailbox, with the task that sent it if it was one of these tasks. -/
structure Envelope where
  sender : Option ℕ
  cmd : RoomCommand

structure ServiceState (Card : Type) where
  service : AppRoomService Card := {}
  mailboxes : RoomId → List Envelope := fun _ => []
  tasks : List Task := []

/-- The capacity `ensure_room` gives a mailbox. -/
def MAILBOX_CAPACITY : ℕ := 128

/-! ### The points of a task -/

/-- A callback is recorded; the requests of a seat check that it has joined. -/
def check (svc : AppRoomService Card) (request : ServiceRequest) :
    AppRoomService Card × Except RpcGatewayError Unit :=
  match request with
  | .callback _ callback =>
    ({ svc with chainTxRepo := recordCallback svc.chainTxRepo callback }, .ok ())
  | _ =>
    (svc, match request.joinedSeat with
      | none => .ok ()
      | some seatId => ensureJoined svc request.roomId seatId)

/-- `get_room`, or `ensure_room` for a callback. -/
def find (svc : AppRoomService Card) (request : ServiceRequest) :
    AppRoomService Card × Except RpcGatewayError Unit :=
  match request with
  | .callback handId callback => (ensureRoom svc callback.roomId handId, .ok ())
  | _ => (svc, if request.roomId ∈ svc.rooms then .ok () else .error .roomNotFound)

/-- What is written before the command is sent: the address of a seat, the binding of a payment. -/
def write (svc : AppRoomService Card) (request : ServiceRequest) :
    AppRoomService Card × Except RpcGatewayError Unit :=
  match request with
  | .bindAddress request =>
    ({ svc with
        boundAddresses := svc.boundAddresses.insert request.roomId
          (((svc.boundAddresses.lookup request.roomId).getD ∅).insert request.seatId
            request.seatAddress) }, .ok ())
  | .act request =>
    match toPlayerAction request with
    | .error e => (svc, .error e)
    | .ok action =>
      match request.txHash with
      | none => (svc, .ok ())
      | some txHash =>
        match svc.chainTxRepo.insertTxBinding (actBinding request txHash action) with
        | .error e => (svc, .error (.upstream e.text))
        | .ok chainTxRepo => ({ svc with chainTxRepo }, .ok ())
  | _ => (svc, .ok ())

/-- What is written after it: a join is recorded. -/
def record (svc : AppRoomService Card) : ServiceRequest → AppRoomService Card
  | .join request =>
    { svc with
      joinedSeats := svc.joinedSeats.insert request.roomId
        (insert request.seatId ((svc.joinedSeats.lookup request.roomId).getD ∅)) }
  | _ => svc

/-- The stage after a point that may fail. -/
def nextStage (next : Stage) : Except RpcGatewayError Unit → Stage
  | .ok () => next
  | .error e => .answered (.error e)

/-- A task comes to its next point; `r` is what the service and the task make of it. -/
def moveTask (st : ServiceState Card) (i : ℕ) (request : ServiceRequest) (next : Stage)
    (r : AppRoomService Card × Except RpcGatewayError Unit) : ServiceState Card :=
  { st with service := r.1, tasks := st.tasks.set i ⟨request, nextStage next r.2⟩ }

def put (st : ServiceState Card) (roomId : RoomId) (envelope : Envelope) : ServiceState Card :=
  { st with
    mailboxes := Function.update st.mailboxes roomId (st.mailboxes roomId ++ [envelope]) }

/-- A task runs up to its next point, if it does not have to wait. -/
def resume (st : ServiceState Card) (i : ℕ) : ServiceState Card :=
  match st.tasks[i]? with
  | none => st
  | some ⟨request, stage⟩ =>
    match stage with
    | .called => moveTask st i request .checked (check st.service request)
    | .checked => moveTask st i request .found (find st.service request)
    | .found => moveTask st i request .written (write st.service request)
    | .written =>
      match request.command with
      | .error _ => st
      | .ok cmd =>
        if (st.mailboxes request.roomId).length < MAILBOX_CAPACITY then
          moveTask (put st request.roomId ⟨some i, cmd⟩) i request .sent (st.service, .ok ())
        else st
    | .sent =>
      if request.awaitsReply then st
      else moveTask st i request (.answered (.ok ())) (record st.service request, .ok ())
    | .answered _ => st

/-- The commands that are sent to a room by others: its timers, its own verification, the settlement,
and those who read. Nobody sends a `Leave`. -/
def ownCommand : RoomCommand → Bool
  | .leave _ => false
  | cmd => isInternal cmd

def reply [RsPoker Card] (room : RoomState Card) : RoomCommand → Except RpcGatewayError Unit
  | .act action =>
    match (applyAndEmit room action).2 with
    | .error e => .error (.upstream e)
    | .ok _ => .ok ()
  | _ => .ok ()

/-- The task that waits for the answer gets it. -/
def answer (tasks : List Task) (sender : Option ℕ) (result : Except RpcGatewayError Unit) :
    List Task :=
  match sender with
  | none => tasks
  | some i =>
    match tasks[i]? with
    | some ⟨request, .sent⟩ =>
      if request.awaitsReply then tasks.set i ⟨request, .answered result⟩ else tasks
    | _ => tasks

/-- A room takes the next command out of its mailbox. -/
def deliver [RsPoker Card] (config : RoomActorConfig) (st : ServiceState Card) (env : RoomEnv Card)
    (roomId : RoomId) : ServiceState Card :=
  match st.mailboxes roomId, st.service.rooms.lookup roomId with
  | envelope :: rest, some room =>
    { service := tellRoom config env st.service roomId room envelope.cmd
      mailboxes := Function.update st.mailboxes roomId rest
      tasks := answer st.tasks envelope.sender (reply room envelope.cmd) }
  | _, _ => st

inductive Move (Card : Type) where
  | createRoom (roomId : RoomId) (handId : HandId)
  | call (request : ServiceRequest)
  | resume (task : ℕ)
  | post (roomId : RoomId) (cmd : RoomCommand)
  | deliver (env : RoomEnv Card) (roomId : RoomId)

/-- One move of a task, of a room, or of somebody else who sends to a room. -/
def moveStep [RsPoker Card] (config : RoomActorConfig) (st : ServiceState Card) :
    Move Card → ServiceState Card
  | .createRoom roomId handId => { st with service := ensureRoom st.service roomId handId }
  | .call request => { st with tasks := st.tasks ++ [⟨request, .called⟩] }
  | .resume i => resume st i
  | .post roomId cmd =>
    if ownCommand cmd = true ∧ roomId ∈ st.service.rooms ∧
        (st.mailboxes roomId).length < MAILBOX_CAPACITY then put st roomId ⟨none, cmd⟩
    else st
  | .deliver env roomId => deliver config st env roomId

/-! ### The service that handles requests at once -/

/-- The request as a step of the service that handles it at once. -/
def inputOf (env : RoomEnv Card) : ServiceRequest → ServiceInput Card
  | .join request => .join env request
  | .ready request => .ready env request
  | .bindAddress request => .bindAddress env request
  | .bindSessionKeys request => .bindSessionKeys env request
  | .act request => .act env request
  | .callback handId callback => .callback env handId callback

def joinedIn (svc : AppRoomService Card) (roomId : RoomId) : Finset SeatId :=
  (svc.joinedSeats.lookup roomId).getD ∅

def Free (repo : ChainTxRepo) (b : TxBindingInsert) : Prop :=
  (b.handId, b.actionSeq) ∉ repo.txBindingsByAction ∧ b.txHash ∉ repo.txBindingsByHash

def Taken (repo : ChainTxRepo) (b : TxBindingInsert) : Prop :=
  (b.handId, b.actionSeq) ∈ repo.txBindingsByAction ∧ b.txHash ∈ repo.txBindingsByHash

/-- Every key of the one repository is a key of the other. -/
structure KeysLe (repo repo' : ChainTxRepo) : Prop where
  byAction : ∀ key ∈ repo.txBindingsByAction, key ∈ repo'.txBindingsByAction
  byHash : ∀ txHash ∈ repo.txBindingsByHash, txHash ∈ repo'.txBindingsByHash

/-- The two bindings have no key in common. -/
def Apart (b b' : TxBindingInsert) : Prop :=
  (b.handId, b.actionSeq) ≠ (b'.handId, b'.actionSeq) ∧ b.txHash ≠ b'.txHash

/-- What a request that is handled at once leaves behind. -/
structure Handled [RsPoker Card] (config : RoomActorConfig) (env : RoomEnv Card)
    (svc : AppRoomService Card) (request : ServiceRequest) (room : RoomState Card) (cmd : RoomCommand)
    (svc' : AppRoomService Card) : Prop where
  rooms : svc'.rooms = (tellRoom config env svc request.roomId room cmd).rooms
  joined : ∀ r s, s ∈ joinedIn svc' r ↔ s ∈ joinedIn svc r ∨ (r = request.roomId ∧ cmd = .join s)
  free : ∀ b, Free svc.chainTxRepo b → (∀ b', request.binding = some b' → Apart b b') →
    Free svc'.chainTxRepo b
  keysLe : ∀ repo, KeysLe svc.chainTxRepo repo → (∀ b, request.binding = some b → Taken repo b) →
    KeysLe svc'.chainTxRepo repo

theorem ensureJoined_eq_ok {svc : AppRoomService Card} {roomId : RoomId} {seatId : SeatId} :
    ensureJoined svc roomId seatId = .ok () ↔ seatId ∈ joinedIn svc roomId := by
  unfold ensureJoined joinedIn
  split_ifs with h <;> simp [h]

theorem mem_joinedIn_insert {svc svc' : AppRoomService Card} {roomId : RoomId} {seatId : SeatId}
    (h : svc'.joinedSeats = svc.joinedSeats.insert roomId (insert seatId (joinedIn svc roomId)))
    (r : RoomId) (s : SeatId) :
    s ∈ joinedIn svc' r ↔ s ∈ joinedIn svc r ∨ (r = roomId ∧ s = seatId) := by
  rw [joinedIn, h]
  by_cases hr : r = roomId
  · subst hr
    rw [AList.lookup_insert, Option.getD_some, Finset.mem_insert]
    tauto
  · rw [AList.lookup_insert_ne hr]
    simp [joinedIn, hr]

theorem handled_told [RsPoker Card] {config : RoomActorConfig} {env : RoomEnv Card}
    {svc svc' : AppRoomService Card} {request : ServiceRequest} {room : RoomState Card}
    {cmd : RoomCommand} (hcmd : ∀ s, cmd ≠ .join s)
    (hrooms : svc'.rooms = (tellRoom config env svc request.roomId room cmd).rooms)
    (hjoined : svc'.joinedSeats = svc.joinedSeats)
    (hrepo : SameBindings svc.chainTxRepo svc'.chainTxRepo) :
    Handled config env svc request room cmd svc' := by
  refine ⟨hrooms, fun r s => ?_, fun b hb _ => ?_, fun repo hle _ => ?_⟩
  · rw [joinedIn, hjoined]
    simp [joinedIn, hcmd s]
  · rwa [Free, hrepo.byAction, hrepo.byHash]
  · exact ⟨hrepo.byAction ▸ hle.byAction, hrepo.byHash ▸ hle.byHash⟩

theorem handled_bound [RsPoker Card] {config : RoomActorConfig} {env : RoomEnv Card}
    {svc svc' : AppRoomService Card} {request : ServiceRequest} {room : RoomState Card}
    {cmd : RoomCommand} {b : TxBindingInsert} (hcmd : ∀ s, cmd ≠ .join s)
    (hrooms : svc'.rooms = (tellRoom config env svc request.roomId room cmd).rooms)
    (hjoined : svc'.joinedSeats = svc.joinedSeats) (hb : request.binding = some b)
    (hpair : svc'.chainTxRepo.txBindingsByAction =
      svc.chainTxRepo.txBindingsByAction.insert (b.handId, b.actionSeq) b.txHash)
    (hhash : svc'.chainTxRepo.txBindingsByHash = svc.chainTxRepo.txBindingsByHash.insert b.txHash b) :
    Handled config env svc request room cmd svc' := by
  refine ⟨hrooms, fun r s => ?_, fun b' hfree hapart => ?_, fun repo hle htaken => ?_⟩
  · rw [joinedIn, hjoined]
    simp [joinedIn, hcmd s]
  · obtain ⟨hne, hne'⟩ := hapart b hb
    rw [Free, hpair, hhash, AList.mem_insert, AList.mem_insert]
    exact ⟨fun h => h.elim hne hfree.1, fun h => h.elim hne' hfree.2⟩
  · obtain ⟨htaken, htaken'⟩ := htaken b hb
    refine ⟨fun key hkey => ?_, fun txHash hkey => ?_⟩
    · rw [hpair, AList.mem_insert] at hkey
      rcases hkey with rfl | hkey
      · exact htaken
      · exact hle.byAction key hkey
    · rw [hhash, AList.mem_insert] at hkey
      rcases hkey with rfl | hkey
      · exact htaken'
      · exact hle.byHash txHash hkey

/-- **A request is handled at once** where its seat has joined and the keys of its binding are free. -/
theorem handled_inputOf [RsPoker Card] (config : RoomActorConfig) (env : RoomEnv Card)
    {svc : AppRoomService Card} {request : ServiceRequest} {room : RoomState Card} {cmd : RoomCommand}
    (hroom : svc.rooms.lookup request.roomId = some room) (hcmd : request.command = .ok cmd)
    (hjoined : ∀ s, request.joinedSeat = some s → s ∈ joinedIn svc request.roomId)
    (hfree : ∀ b, request.binding = some b → Free svc.chainTxRepo b) :
    Handled config env svc request room cmd (serviceStep config svc (inputOf env request)) := by
  cases request with
  | join request =>
    cases hcmd
    have hroom : svc.rooms.lookup request.roomId = some room := hroom
    have hstep : serviceStep config svc (inputOf env (.join request)) =
        { tellRoom config env svc request.roomId room (.join request.seatId) with
          joinedSeats := svc.joinedSeats.insert request.roomId
            (insert request.seatId (joinedIn svc request.roomId)) } := by
      simp only [inputOf, serviceStep, AppRoomService.join, hroom]
      rfl
    rw [hstep]
    refine ⟨rfl, fun r s => ?_, fun b hb _ => hb, fun repo hle _ => hle⟩
    rw [mem_joinedIn_insert rfl, RoomCommand.join.injEq, eq_comm (a := s)]
    rfl
  | ready request =>
    cases hcmd
    have hok : ensureJoined svc request.roomId request.seatId = .ok () :=
      ensureJoined_eq_ok.2 (hjoined request.seatId rfl)
    have hstep : serviceStep config svc (inputOf env (.ready request)) =
        tellRoom config env svc request.roomId room (.ready request.seatId) := by
      rw [inputOf, serviceStep, AppRoomService.ready, hok]
      dsimp only
      rw [show svc.rooms.lookup request.roomId = some room from hroom]
    rw [hstep]
    exact handled_told (by simp) rfl rfl (.refl _)
  | bindAddress request =>
    cases hcmd
    have hok : ensureJoined svc request.roomId request.seatId = .ok () :=
      ensureJoined_eq_ok.2 (hjoined request.seatId rfl)
    rw [inputOf, serviceStep, AppRoomService.bindAddress, hok]
    dsimp only
    rw [show svc.rooms.lookup request.roomId = some room from hroom]
    exact handled_told (by simp) rfl rfl (.refl _)
  | bindSessionKeys request =>
    cases hcmd
    have hok : ensureJoined svc request.roomId request.seatId = .ok () :=
      ensureJoined_eq_ok.2 (hjoined request.seatId rfl)
    rw [inputOf, serviceStep, AppRoomService.bindSessionKeys, hok]
    dsimp only
    rw [show svc.rooms.lookup request.roomId = some room from hroom]
    exact handled_told (by simp) rfl rfl (.refl _)
  | act request =>
    rw [inputOf, serviceStep, AppRoomService.act,
      show svc.rooms.lookup request.roomId = some room from hroom]
    dsimp only
    rw [ServiceRequest.command] at hcmd
    cases haction : toPlayerAction request with
    | error e => rw [haction] at hcmd; cases hcmd
    | ok action =>
      rw [haction] at hcmd
      cases hhash : request.txHash with
      | none =>
        rw [hhash] at hcmd
        cases hcmd
        exact handled_told (by simp) rfl rfl (.refl _)
      | some txHash =>
        rw [hhash] at hcmd
        cases hcmd
        have hbinding : (ServiceRequest.act request).binding =
            some (actBinding request txHash action) := by
          rw [ServiceRequest.binding, haction, hhash]
        obtain ⟨hpair, hnew⟩ := hfree _ hbinding
        dsimp only
        rw [insertTxBinding_eq_ok.2 ⟨hpair, hnew, rfl⟩]
        exact handled_bound (by simp) rfl rfl hbinding rfl rfl
  | callback handId result =>
    cases hcmd
    have hmem : result.roomId ∈ svc.rooms := mem_of_lookup_some hroom
    have hensure : ensureRoom { svc with chainTxRepo := recordCallback svc.chainTxRepo result }
        result.roomId handId = { svc with chainTxRepo := recordCallback svc.chainTxRepo result } :=
      if_pos hmem
    rw [inputOf, serviceStep, onVerificationResult, hensure]
    dsimp only
    rw [show svc.rooms.lookup result.roomId = some room from hroom]
    exact handled_told (by simp) rfl rfl (recordCallback_bindings _ result)

end HoldemPlatform.Service.Concurrent
