import HoldemPlatform.Room.Actor

/-!
# The Audit Sink and the Outbox

What becomes of the events a room hands to its sink. Every call of the sink spawns a detached task that
makes its calls to the repository one after another; between two calls any other task may run. The
schedule is a list of steps: the calls of the rooms, the tasks that are run, and the passes of the
publisher. A pass fetches its records first and afterwards only marks those, so tasks that run during a
pass do not change what it publishes, and a pass is one step.

The in-memory repository refuses a call only if its lock is poisoned, which needs a panic under the lock;
its operations have none, so they always succeed. `serde_json` is the argument `Serde`.
-/

namespace HoldemPlatform.Audit.EventSink

open HoldemPlatform.Domain.Game HoldemPlatform.Room.Actor

/-- How the events are written as JSON and read back. -/
structure Serde (Json : Type) where
  uuidText : ℕ → String
  handToValue : HandEvent → Except String Json
  handFromValue : Json → Except String HandEvent
  seatToValue : SeatPrivateEvent → Json
  seatFromValue : Json → Except String SeatPrivateEvent
  seatPayload : SeatPrivateEvent → Json
  behaviorToValue : AuditBehaviorEventKind → Except String Json

/-! ### The in-memory repository -/

inductive OutboxStatus where
  | pending
  | delivered
deriving DecidableEq

variable {Json : Type}

structure OutboxEventRecord (Json : Type) where
  outboxEventId : String
  topic : String
  partitionKey : String
  payloadJson : Json
  status : OutboxStatus
deriving DecidableEq

structure BehaviorEventRecord (Json : Type) where
  eventKind : String
  eventSource : String
  roomId : Option RoomId
  seatId : Option SeatId
  actionSeq : Option ActionSeq
  relatedTxHash : Option String
  severity : String
  payloadJson : Json
deriving DecidableEq

structure InMemoryAuditRepository (Json : Type) where
  behaviorEvents : List (BehaviorEventRecord Json) := []
  handEvents : List HandEvent := []
  outboxEvents : List (OutboxEventRecord Json) := []
deriving DecidableEq

namespace InMemoryAuditRepository

variable (repo : InMemoryAuditRepository Json)

def insertBehaviorEvent (record : BehaviorEventRecord Json) : InMemoryAuditRepository Json :=
  { repo with behaviorEvents := repo.behaviorEvents ++ [record] }

def appendHandEvents (events : List HandEvent) : InMemoryAuditRepository Json :=
  { repo with handEvents := repo.handEvents ++ events }

def insertOutboxEvent (record : OutboxEventRecord Json) : InMemoryAuditRepository Json :=
  { repo with outboxEvents := repo.outboxEvents ++ [record] }

def fetchPendingOutboxEvents (limit : ℕ) : List (OutboxEventRecord Json) :=
  (repo.outboxEvents.filter fun rec => rec.status = .pending).take limit

def markDelivered (outboxEventId : String) :
    List (OutboxEventRecord Json) → List (OutboxEventRecord Json)
  | [] => []
  | rec :: rest =>
    if rec.outboxEventId = outboxEventId then { rec with status := .delivered } :: rest
    else rec :: markDelivered outboxEventId rest

def markOutboxEventDelivered (outboxEventId : String) : InMemoryAuditRepository Json :=
  { repo with outboxEvents := markDelivered outboxEventId repo.outboxEvents }

end InMemoryAuditRepository

/-! ### The tasks -/

/-- One call to the repository that a task still has to make. The identifier and the time of an outbox
record are taken when the call is made. -/
inductive RepoCall (Json : Type) where
  | appendHandEvents (events : List HandEvent)
  | insertOutboxEvent (topic partitionKey : String) (payloadJson : Json)
  | insertBehaviorEvent (record : BehaviorEventRecord Json)
deriving DecidableEq

def RepoCall.exec (repo : InMemoryAuditRepository Json) (newId : String) :
    RepoCall Json → InMemoryAuditRepository Json
  | .appendHandEvents events => repo.appendHandEvents events
  | .insertOutboxEvent topic partitionKey payloadJson =>
    repo.insertOutboxEvent
      { outboxEventId := newId, topic, partitionKey, payloadJson, status := .pending }
  | .insertBehaviorEvent record => repo.insertBehaviorEvent record

variable (serde : Serde Json)

/-- The insertion of one hand event; an event that cannot be written as JSON is left out. -/
def insertHandEvent (event : HandEvent) : Option (RepoCall Json) :=
  match serde.handToValue event with
  | .error _ => none
  | .ok payloadJson =>
    some (.insertOutboxEvent "hand.events" (serde.uuidText event.roomId.uuid) payloadJson)

def handEventsTask (events : List HandEvent) : List (RepoCall Json) :=
  .appendHandEvents events :: events.filterMap (insertHandEvent serde)

def insertSeatEvent (event : SeatPrivateEvent) : RepoCall Json :=
  .insertOutboxEvent "seat.events"
    (serde.uuidText event.roomId.uuid ++ ":" ++ toString event.seatId.val) (serde.seatToValue event)

def privateEventsTask (events : List SeatPrivateEvent) : List (RepoCall Json) :=
  events.map (insertSeatEvent serde)

/-- The kind of a behaviour event, its seat, its action and its transaction. -/
def behaviorFields :
    AuditBehaviorEventKind → String × Option SeatId × Option ActionSeq × Option String
  | .seatJoined seatId => ("seat_joined", some seatId, none, none)
  | .seatLeft seatId => ("seat_left", some seatId, none, none)
  | .seatAddressBound seatId => ("seat_address_bound", some seatId, none, none)
  | .seatSessionKeysBound seatId _ => ("seat_session_keys_bound", some seatId, none, none)
  | .turnTimeoutAutoFold seatId actionSeq =>
    ("turn_timeout_auto_fold", some seatId, some actionSeq, none)
  | .chainTxVerificationCallback seatId actionSeq txHash _ _ _ =>
    ("chain_tx_verification_callback", seatId, actionSeq, some txHash)

def behaviorEventTask (roomId : RoomId) (kind : AuditBehaviorEventKind) : List (RepoCall Json) :=
  match serde.behaviorToValue kind with
  | .error _ => []
  | .ok payloadJson =>
    let fields := behaviorFields kind
    [.insertBehaviorEvent
      { eventKind := fields.1, eventSource := "table_service", roomId := some roomId,
        seatId := fields.2.1, actionSeq := fields.2.2.1, relatedTxHash := fields.2.2.2,
        severity := "info", payloadJson }]

/-! ### The publisher -/

inductive EventTopic where
  | publicRoomEvents
  | seatEvents
  | handEvents
deriving DecidableEq

structure EventEnvelope (Json : Type) where
  topic : EventTopic
  roomId : RoomId
  handId : Option HandId
  seatId : Option SeatId
  eventName : String
  payload : Json
deriving DecidableEq

def handEventName : HandEventKind → String
  | .handStarted => "hand_started"
  | .turnStarted _ => "turn_started"
  | .actionAccepted _ => "action_accepted"
  | .streetChanged _ => "street_changed"
  | .potUpdated _ => "pot_updated"
  | .handClosed => "hand_closed"

def handEventSeatId : HandEventKind → Option SeatId
  | .turnStarted seatId => some seatId
  | .actionAccepted action => some action.seatId
  | _ => none

/-- `to_event_envelope`: a topic that is not known has no envelope. -/
def toEventEnvelope (topic : String) (payloadJson : Json) :
    Except String (Option (EventEnvelope Json)) :=
  if topic = "hand.events" then
    match serde.handFromValue payloadJson with
    | .error e => .error e
    | .ok event =>
      .ok (some
        { topic := .handEvents, roomId := event.roomId, handId := some event.handId,
          seatId := handEventSeatId event.kind, eventName := handEventName event.kind,
          payload := payloadJson })
  else if topic = "seat.events" then
    match serde.seatFromValue payloadJson with
    | .error e => .error e
    | .ok event =>
      .ok (some
        { topic := .seatEvents, roomId := event.roomId, handId := some event.handId,
          seatId := some event.seatId, eventName := event.eventName,
          payload := serde.seatPayload event })
  else .ok none

/-- The repository, what the spawned tasks still have to do in the order they were spawned, and what was
published. -/
structure SinkState (Json : Type) where
  repo : InMemoryAuditRepository Json := {}
  tasks : List (List (RepoCall Json)) := []
  published : List (EventEnvelope Json) := []
deriving DecidableEq

/-- The loop over the fetched records; it ends at the first one that cannot be read. -/
def publishRecords : SinkState Json → ℕ → List (OutboxEventRecord Json) →
    SinkState Json × Except String ℕ
  | st, published, [] => (st, .ok published)
  | st, published, rec :: rest =>
    match toEventEnvelope serde rec.topic rec.payloadJson with
    | .error e => (st, .error e)
    | .ok none => publishRecords st published rest
    | .ok (some envelope) =>
      publishRecords
        { st with
          published := st.published ++ [envelope]
          repo := st.repo.markOutboxEventDelivered rec.outboxEventId }
        (published + 1) rest

def publishPendingOutboxOnce (st : SinkState Json) (limit : ℕ) : SinkState Json × Except String ℕ :=
  publishRecords serde st 0 (st.repo.fetchPendingOutboxEvents limit)

/-! ### The schedule -/

inductive SinkStep where
  | appendHandEvents (events : List HandEvent)
  | appendPrivateEvents (events : List SeatPrivateEvent)
  | recordBehaviorEvent (roomId : RoomId) (kind : AuditBehaviorEventKind)
  /-- The `i`-th spawned task makes its next call; a record it inserts gets the identifier. -/
  | runTask (i : ℕ) (newId : String)
  | publish (limit : ℕ)

def spawn (st : SinkState Json) (task : List (RepoCall Json)) : SinkState Json :=
  { st with tasks := st.tasks ++ [task] }

/-- The calls a task still has to make. -/
def taskCalls (st : SinkState Json) (i : ℕ) : List (RepoCall Json) := (st.tasks[i]?).getD []

def runTask (st : SinkState Json) (i : ℕ) (newId : String) : SinkState Json :=
  match taskCalls st i with
  | [] => st
  | call :: rest => { st with repo := call.exec st.repo newId, tasks := st.tasks.set i rest }

def sinkStep (st : SinkState Json) : SinkStep → SinkState Json
  | .appendHandEvents events => spawn st (handEventsTask serde events)
  | .appendPrivateEvents events => spawn st (privateEventsTask serde events)
  | .recordBehaviorEvent roomId kind => spawn st (behaviorEventTask serde roomId kind)
  | .runTask i newId => runTask st i newId
  | .publish limit => (publishPendingOutboxOnce serde st limit).1

end HoldemPlatform.Audit.EventSink
