import HoldemPlatform.Lib.BoundedChannel
import HoldemPlatform.Audit.EventSink
import HoldemPlatform.Lib.Run

/-!
# The Event Bus

The in-memory bus of the gateway. A live subscriber is a request and the sender of a channel whose
receiver went to the subscriber; the channels stand in one list, in the order they were opened, and a
sender is a place in it. The identifiers of the subscriptions are random, here arguments. The locks are
poisoned only by a panic, so no operation fails; the count of disconnects has 64 bits and is not
followed beyond them.

`publish_live` says what publishing does to one subscriber, whatever the order they are visited in.
-/

namespace HoldemPlatform.Gateway.EventBus

open HoldemPlatform.Lib.FiniteMap HoldemPlatform.Lib.Run HoldemPlatform.Lib.BoundedChannel
open HoldemPlatform.Domain.Game HoldemPlatform.Audit.EventSink

variable {Json : Type}

/-! ### Subscriptions and events -/

structure SubscribeRequest where
  topic : EventTopic
  roomId : RoomId
  handId : Option HandId
  seatId : Option SeatId
deriving DecidableEq

def eventMatches (sub : SubscribeRequest) (event : EventEnvelope Json) : Bool :=
  if sub.topic ≠ event.topic ∨ sub.roomId ≠ event.roomId then false
  else if sub.handId.isSome ∧ event.handId ≠ sub.handId then false
  else if sub.seatId.isSome ∧ event.seatId ≠ sub.seatId then false
  else true

structure InMemoryEventBus (Json : Type) where
  subscriptions : HashMap String SubscribeRequest := ∅
  liveSubscribers : HashMap String (SubscribeRequest × ℕ) := ∅
  publishedEvents : List (EventEnvelope Json) := []
  streamBufferCapacity : ℕ := 64
  slowSubscriberDisconnects : ℕ := 0
  channels : List (Channel (EventEnvelope Json)) := []

namespace InMemoryEventBus

variable (bus : InMemoryEventBus Json)

def withStreamBufferCapacity (capacity : ℕ) : InMemoryEventBus Json :=
  { bus with streamBufferCapacity := max capacity 1 }

def subscribe (subscriptionId : String) (request : SubscribeRequest) : InMemoryEventBus Json :=
  { bus with subscriptions := bus.subscriptions.insert subscriptionId request }

def unsubscribe (subscriptionId : String) : InMemoryEventBus Json :=
  { bus with subscriptions := bus.subscriptions.erase subscriptionId }

/-- The channel opened here is number `bus.channels.length`. -/
def subscribeStream (subscriptionId : String) (request : SubscribeRequest) : InMemoryEventBus Json :=
  { bus with
    liveSubscribers := bus.liveSubscribers.insert subscriptionId (request, bus.channels.length)
    channels := bus.channels ++ [Channel.empty bus.streamBufferCapacity] }

def unsubscribeStream (subscriptionId : String) : InMemoryEventBus Json :=
  { bus with liveSubscribers := bus.liveSubscribers.erase subscriptionId }

/-- What the loop of `publish` works on. -/
structure Delivery (Json : Type) where
  channels : List (Channel (EventEnvelope Json))
  toRemove : List String := []
  delivered : ℕ := 0

/-- One live subscriber in the loop of `publish`. -/
def deliverTo (event : EventEnvelope Json) (d : Delivery Json)
    (entry : String × SubscribeRequest × ℕ) : Delivery Json :=
  if eventMatches entry.2.1 event then
    match d.channels[entry.2.2]? with
    | none => d
    | some ch =>
      match ch.trySend event with
      | .ok ch' => { d with channels := d.channels.set entry.2.2 ch', delivered := d.delivered + 1 }
      | .error .full => { d with toRemove := d.toRemove ++ [entry.1] }
      | .error .closed => { d with toRemove := d.toRemove ++ [entry.1] }
  else d

def deliver (event : EventEnvelope Json) : Delivery Json :=
  run (deliverTo event) { channels := bus.channels } (pairs bus.liveSubscribers)

def publish (event : EventEnvelope Json) : InMemoryEventBus Json × ℕ :=
  let matchedControl := (pairs bus.subscriptions).countP fun sub => eventMatches sub.2 event
  let d := bus.deliver event
  ({ bus with
      channels := d.channels
      liveSubscribers := eraseAll bus.liveSubscribers d.toRemove
      slowSubscriberDisconnects := bus.slowSubscriberDisconnects + d.toRemove.length
      publishedEvents := bus.publishedEvents ++ [event] },
    matchedControl + d.delivered)

end InMemoryEventBus

/-! ### The operations -/

inductive BusOp (Json : Type) where
  | subscribe (subscriptionId : String) (request : SubscribeRequest)
  | unsubscribe (subscriptionId : String)
  | subscribeStream (subscriptionId : String) (request : SubscribeRequest)
  | unsubscribeStream (subscriptionId : String)
  | publish (event : EventEnvelope Json)
  /-- The receiver of a channel takes its next event. -/
  | recv (c : ℕ)
  | dropReceiver (c : ℕ)

def busStep (bus : InMemoryEventBus Json) : BusOp Json → InMemoryEventBus Json
  | .subscribe subscriptionId request => bus.subscribe subscriptionId request
  | .unsubscribe subscriptionId => bus.unsubscribe subscriptionId
  | .subscribeStream subscriptionId request => bus.subscribeStream subscriptionId request
  | .unsubscribeStream subscriptionId => bus.unsubscribeStream subscriptionId
  | .publish event => (bus.publish event).1
  | .recv c => { bus with channels := bus.channels.modify c Channel.recv }
  | .dropReceiver c => { bus with channels := bus.channels.modify c Channel.dropReceiver }

/-! ### Every channel has one sender at most -/

structure WellFormed (bus : InMemoryEventBus Json) : Prop where
  bound : ∀ id request c, bus.liveSubscribers.lookup id = some (request, c) → c < bus.channels.length
  once : ∀ id id' request request' c, bus.liveSubscribers.lookup id = some (request, c) →
    bus.liveSubscribers.lookup id' = some (request', c) → id = id'

/-- No live subscriber sends to the channel. -/
def Detached (bus : InMemoryEventBus Json) (c : ℕ) : Prop :=
  ∀ id request, bus.liveSubscribers.lookup id ≠ some (request, c)

/-- What becomes of the channel of a subscriber when an event is published. -/
def offer (request : SubscribeRequest) (event : EventEnvelope Json)
    (ch : Channel (EventEnvelope Json)) : Except TrySendError (Channel (EventEnvelope Json)) :=
  if eventMatches request event then ch.trySend event else .ok ch

namespace InMemoryEventBus

section

variable {event : EventEnvelope Json} {d : Delivery Json} {entry : String × SubscribeRequest × ℕ} {c : ℕ}

/-- The loop leaves things as they are, writes to the channel of the subscriber or notes its identifier. -/
theorem deliverTo_cases (event : EventEnvelope Json) (d : Delivery Json)
    (entry : String × SubscribeRequest × ℕ) :
    deliverTo event d entry = d ∨
      (∃ ch', deliverTo event d entry =
        { d with channels := d.channels.set entry.2.2 ch', delivered := d.delivered + 1 }) ∨
      deliverTo event d entry = { d with toRemove := d.toRemove ++ [entry.1] } := by
  unfold deliverTo
  split_ifs
  · split
    · exact .inl rfl
    · split
      · exact .inr (.inl ⟨_, rfl⟩)
      · exact .inr (.inr rfl)
      · exact .inr (.inr rfl)
  · exact .inl rfl

theorem deliverTo_length : (deliverTo event d entry).channels.length = d.channels.length := by
  obtain h | ⟨ch', h⟩ | h := deliverTo_cases event d entry <;> rw [h]
  exact List.length_set

theorem deliverTo_ne (hne : entry.2.2 ≠ c) :
    (deliverTo event d entry).channels[c]? = d.channels[c]? := by
  obtain h | ⟨ch', h⟩ | h := deliverTo_cases event d entry <;> rw [h]
  exact List.getElem?_set_ne hne

theorem mem_toRemove_deliverTo_ne {id : String} (hne : entry.1 ≠ id) :
    id ∈ (deliverTo event d entry).toRemove ↔ id ∈ d.toRemove := by
  obtain h | ⟨ch', h⟩ | h := deliverTo_cases event d entry <;> rw [h]
  simp [hne.symm]

theorem deliverTo_self {id : String} {request : SubscribeRequest} {ch : Channel (EventEnvelope Json)}
    (hc : d.channels[c]? = some ch) (hid : id ∉ d.toRemove) :
    match offer request event ch with
    | .ok ch' =>
      (deliverTo event d (id, request, c)).channels[c]? = some ch' ∧
        id ∉ (deliverTo event d (id, request, c)).toRemove
    | .error _ =>
      (deliverTo event d (id, request, c)).channels[c]? = some ch ∧
        id ∈ (deliverTo event d (id, request, c)).toRemove := by
  have hlt : c < d.channels.length := (List.getElem?_eq_some_iff.1 hc).1
  by_cases hmatch : eventMatches request event
  · simp only [offer, deliverTo, if_pos hmatch, hc]
    cases ch.trySend event with
    | ok ch' => exact ⟨List.getElem?_set_self hlt, hid⟩
    | error e => cases e <;> exact ⟨hc, List.mem_append_right _ List.mem_cons_self⟩
  · simp only [offer, deliverTo, if_neg hmatch]
    exact ⟨hc, hid⟩

theorem run_deliverTo_ne : ∀ {entries : List (String × SubscribeRequest × ℕ)} {d : Delivery Json},
    (∀ entry ∈ entries, entry.2.2 ≠ c) →
    (run (deliverTo event) d entries).channels[c]? = d.channels[c]?
  | [], _, _ => rfl
  | entry :: entries, d, h => by
    rw [run_cons, run_deliverTo_ne fun e he => h e (List.mem_cons_of_mem entry he),
      deliverTo_ne (h entry List.mem_cons_self)]

theorem mem_toRemove_run_ne {id : String} :
    ∀ {entries : List (String × SubscribeRequest × ℕ)} {d : Delivery Json},
    (∀ entry ∈ entries, entry.1 ≠ id) →
    (id ∈ (run (deliverTo event) d entries).toRemove ↔ id ∈ d.toRemove)
  | [], _, _ => Iff.rfl
  | entry :: entries, d, h => by
    rw [run_cons, mem_toRemove_run_ne fun e he => h e (List.mem_cons_of_mem entry he),
      mem_toRemove_deliverTo_ne (h entry List.mem_cons_self)]

end

variable {bus : InMemoryEventBus Json} {event : EventEnvelope Json} {c : ℕ}

theorem deliver_length : (bus.deliver event).channels.length = bus.channels.length :=
  run_inv (fun d : Delivery Json => d.channels.length = bus.channels.length)
    (fun _ _ h => deliverTo_length.trans h) _ rfl

/-- The entries before and after that of a subscriber have other identifiers and other channels. -/
theorem split_subscriber (hwf : WellFormed bus) {id : String} {request : SubscribeRequest}
    (hlive : bus.liveSubscribers.lookup id = some (request, c)) :
    ∃ front back, pairs bus.liveSubscribers = front ++ (id, request, c) :: back ∧
      ∀ entry ∈ front ++ back, entry.1 ≠ id ∧ entry.2.2 ≠ c := by
  obtain ⟨front, back, hsplit⟩ := List.append_of_mem (mem_pairs.2 hlive)
  refine ⟨front, back, hsplit, fun entry hentry => ?_⟩
  have hid : entry.1 ≠ id := by
    have hnodup := nodup_pairs_fst bus.liveSubscribers
    rw [hsplit, List.map_append, List.map_cons, List.nodup_middle, List.nodup_cons,
      ← List.map_append] at hnodup
    have hmem : entry.1 ∈ (front ++ back).map Prod.fst := List.mem_map_of_mem hentry
    intro heq
    rw [heq] at hmem
    exact hnodup.1 hmem
  refine ⟨hid, fun hc => hid ?_⟩
  have hmem : (entry.1, entry.2) ∈ pairs bus.liveSubscribers := by
    rw [hsplit, List.mem_append, List.mem_cons]
    rcases List.mem_append.1 hentry with h | h
    · exact .inl h
    · exact .inr (.inr h)
  exact hwf.once _ _ entry.2.1 request c (by rw [← hc]; exact mem_pairs.1 hmem) hlive

theorem deliver_live (hwf : WellFormed bus) {id : String} {request : SubscribeRequest}
    {ch : Channel (EventEnvelope Json)}
    (hlive : bus.liveSubscribers.lookup id = some (request, c)) (hc : bus.channels[c]? = some ch) :
    match offer request event ch with
    | .ok ch' => (bus.deliver event).channels[c]? = some ch' ∧ id ∉ (bus.deliver event).toRemove
    | .error _ => (bus.deliver event).channels[c]? = some ch ∧ id ∈ (bus.deliver event).toRemove := by
  obtain ⟨front, back, hsplit, hother⟩ := split_subscriber hwf hlive
  have hfront : (run (deliverTo event) { channels := bus.channels } front).channels[c]? = some ch := by
    rw [run_deliverTo_ne fun e he => (hother e (List.mem_append_left back he)).2]
    exact hc
  have hkept : id ∉ (run (deliverTo event) { channels := bus.channels } front).toRemove := by
    rw [mem_toRemove_run_ne fun e he => (hother e (List.mem_append_left back he)).1]
    exact List.not_mem_nil
  rw [deliver, hsplit, run_append, run_cons,
    run_deliverTo_ne fun e he => (hother e (List.mem_append_right front he)).2,
    mem_toRemove_run_ne fun e he => (hother e (List.mem_append_right front he)).1]
  exact deliverTo_self hfront hkept

/-- **What publishing does to a subscriber**: its channel takes the event and it stays, or it goes. -/
theorem publish_live (hwf : WellFormed bus) {id : String} {request : SubscribeRequest}
    {ch : Channel (EventEnvelope Json)}
    (hlive : bus.liveSubscribers.lookup id = some (request, c)) (hc : bus.channels[c]? = some ch) :
    match offer request event ch with
    | .ok ch' =>
      (bus.publish event).1.channels[c]? = some ch' ∧
        (bus.publish event).1.liveSubscribers.lookup id = some (request, c)
    | .error _ =>
      (bus.publish event).1.channels[c]? = some ch ∧ Detached (bus.publish event).1 c := by
  have hdeliver := @deliver_live _ bus event c hwf id request ch hlive hc
  cases hoffer : offer request event ch with
  | ok ch' =>
    rw [hoffer] at hdeliver
    refine ⟨hdeliver.1, ?_⟩
    show (eraseAll bus.liveSubscribers (bus.deliver event).toRemove).lookup id = _
    rw [lookup_eraseAll, if_neg hdeliver.2, hlive]
  | error e =>
    rw [hoffer] at hdeliver
    refine ⟨hdeliver.1, fun id' request' hlookup => ?_⟩
    have hlookup' : (eraseAll bus.liveSubscribers (bus.deliver event).toRemove).lookup id' =
        some (request', c) := hlookup
    rw [lookup_eraseAll] at hlookup'
    split_ifs at hlookup' with hmem
    exact hmem (hwf.once _ _ _ _ _ hlookup' hlive ▸ hdeliver.2)

section

variable (hwf : WellFormed bus) {id : String} {request : SubscribeRequest}
  {ch ch' : Channel (EventEnvelope Json)}
  (hlive : bus.liveSubscribers.lookup id = some (request, c)) (hc : bus.channels[c]? = some ch)
include hwf hlive hc

theorem publish_taken (hmatch : eventMatches request event) (hsend : ch.trySend event = .ok ch') :
    (bus.publish event).1.channels[c]? = some ch' ∧
      (bus.publish event).1.liveSubscribers.lookup id = some (request, c) := by
  have hpublish := @publish_live _ bus event c hwf id request ch hlive hc
  rwa [offer, if_pos hmatch, hsend] at hpublish

theorem publish_refused (hmatch : eventMatches request event) {e : TrySendError}
    (hsend : ch.trySend event = .error e) :
    (bus.publish event).1.channels[c]? = some ch ∧ Detached (bus.publish event).1 c := by
  have hpublish := @publish_live _ bus event c hwf id request ch hlive hc
  rwa [offer, if_pos hmatch, hsend] at hpublish

theorem publish_unmatched (hmatch : ¬ eventMatches request event) :
    (bus.publish event).1.channels[c]? = some ch ∧
      (bus.publish event).1.liveSubscribers.lookup id = some (request, c) := by
  have hpublish := @publish_live _ bus event c hwf id request ch hlive hc
  rwa [offer, if_neg hmatch] at hpublish

end

theorem lookup_publish {id : String} {entry : SubscribeRequest × ℕ}
    (h : (bus.publish event).1.liveSubscribers.lookup id = some entry) :
    bus.liveSubscribers.lookup id = some entry := by
  have hlookup : (eraseAll bus.liveSubscribers (bus.deliver event).toRemove).lookup id = some entry := h
  rw [lookup_eraseAll] at hlookup
  split_ifs at hlookup
  exact hlookup

theorem publish_detached (hdetached : Detached bus c) :
    (bus.publish event).1.channels[c]? = bus.channels[c]? ∧ Detached (bus.publish event).1 c := by
  refine ⟨run_deliverTo_ne fun entry hentry hc => ?_, fun id request hlookup => ?_⟩
  · exact hdetached entry.1 entry.2.1 (by rw [← hc]; exact mem_pairs.1 hentry)
  · exact hdetached id request (lookup_publish hlookup)

end InMemoryEventBus

open InMemoryEventBus

theorem wellFormed_step {bus : InMemoryEventBus Json} (h : WellFormed bus) (op : BusOp Json) :
    WellFormed (busStep bus op) := by
  cases op with
  | subscribe id request => exact ⟨h.bound, h.once⟩
  | unsubscribe id => exact ⟨h.bound, h.once⟩
  | subscribeStream id request =>
    have hlen : (busStep bus (.subscribeStream id request)).channels.length =
        bus.channels.length + 1 := by
      show (bus.channels ++ [_]).length = _
      rw [List.length_append, List.length_singleton]
    constructor
    · intro id' request' c hlookup
      rw [hlen]
      rcases lookup_insert_cases hlookup with ⟨-, heq⟩ | ⟨-, hold⟩
      · cases heq
        exact Nat.lt_succ_self _
      · exact Nat.lt_succ_of_lt (h.bound _ _ _ hold)
    · intro id₁ id₂ request₁ request₂ c h₁ h₂
      rcases lookup_insert_cases h₁ with ⟨rfl, heq₁⟩ | ⟨-, hold₁⟩
      · rcases lookup_insert_cases h₂ with ⟨rfl, -⟩ | ⟨-, hold₂⟩
        · rfl
        · cases heq₁
          exact absurd (h.bound _ _ _ hold₂) (lt_irrefl _)
      · rcases lookup_insert_cases h₂ with ⟨-, heq₂⟩ | ⟨-, hold₂⟩
        · cases heq₂
          exact absurd (h.bound _ _ _ hold₁) (lt_irrefl _)
        · exact h.once _ _ _ _ _ hold₁ hold₂
  | unsubscribeStream id =>
    constructor
    · intro id' request c hlookup
      exact h.bound _ _ _ (lookup_erase_some hlookup).2
    · intro id₁ id₂ request₁ request₂ c h₁ h₂
      exact h.once _ _ _ _ _ (lookup_erase_some h₁).2 (lookup_erase_some h₂).2
  | publish event =>
    constructor
    · intro id request c hlookup
      show c < (bus.deliver event).channels.length
      rw [deliver_length]
      exact h.bound _ _ _ (lookup_publish hlookup)
    · intro id₁ id₂ request₁ request₂ c h₁ h₂
      exact h.once _ _ _ _ _ (lookup_publish h₁) (lookup_publish h₂)
  | recv c =>
    refine ⟨fun id request c' hlookup => ?_, h.once⟩
    show c' < (bus.channels.modify c _).length
    rw [List.length_modify]
    exact h.bound _ _ _ hlookup
  | dropReceiver c =>
    refine ⟨fun id request c' hlookup => ?_, h.once⟩
    show c' < (bus.channels.modify c _).length
    rw [List.length_modify]
    exact h.bound _ _ _ hlookup

/-- **What the operations do to an open channel when nothing is published**: its receiver may take events
out or go, and its sender may go. -/
theorem quiet_step {bus : InMemoryEventBus Json} {c : ℕ} {ch : Channel (EventEnvelope Json)}
    (hchannel : bus.channels[c]? = some ch) {op : BusOp Json} (hop : ¬ ∃ event, op = .publish event) :
    ∃ ch', (busStep bus op).channels[c]? = some ch' ∧
      (∀ id request, (busStep bus op).liveSubscribers.lookup id = some (request, c) →
        bus.liveSubscribers.lookup id = some (request, c)) ∧
      ch'.sent <+: ch.sent ∧ (ch'.closed = false → ch.closed = false ∧ ch'.sent = ch.sent) := by
  have hlt : c < bus.channels.length := (List.getElem?_eq_some_iff.1 hchannel).1
  have hmodify : ∀ (c' : ℕ) (f : Channel (EventEnvelope Json) → Channel (EventEnvelope Json)),
      (bus.channels.modify c' f)[c]? = some (if c' = c then f ch else ch) := by
    intro c' f
    rw [List.getElem?_modify, hchannel]
    split_ifs <;> rfl
  cases op with
  | publish event => exact absurd ⟨event, rfl⟩ hop
  | subscribe id request =>
    exact ⟨ch, hchannel, fun _ _ h => h, List.prefix_refl _, fun hopen => ⟨hopen, rfl⟩⟩
  | unsubscribe id =>
    exact ⟨ch, hchannel, fun _ _ h => h, List.prefix_refl _, fun hopen => ⟨hopen, rfl⟩⟩
  | subscribeStream id request =>
    refine ⟨ch, (List.getElem?_append_left hlt).trans hchannel, fun id' request' hlookup => ?_,
      List.prefix_refl _, fun hopen => ⟨hopen, rfl⟩⟩
    rcases lookup_insert_cases hlookup with ⟨-, heq⟩ | ⟨-, hold⟩
    · cases heq
      exact absurd hlt (lt_irrefl _)
    · exact hold
  | unsubscribeStream id =>
    exact ⟨ch, hchannel, fun _ _ h => (lookup_erase_some h).2, List.prefix_refl _,
      fun hopen => ⟨hopen, rfl⟩⟩
  | recv c' =>
    refine ⟨_, hmodify c' Channel.recv, fun _ _ h => h, ?_⟩
    split_ifs
    · exact ⟨ch.sent_recv ▸ List.prefix_refl ch.recv.sent, fun hopen => ⟨hopen, ch.sent_recv⟩⟩
    · exact ⟨List.prefix_refl _, fun hopen => ⟨hopen, rfl⟩⟩
  | dropReceiver c' =>
    refine ⟨_, hmodify c' Channel.dropReceiver, fun _ _ h => h, ?_⟩
    split_ifs
    · exact ⟨ch.sent_dropReceiver_prefix, nofun⟩
    · exact ⟨List.prefix_refl _, fun hopen => ⟨hopen, rfl⟩⟩

theorem wellFormed_run (capacity : ℕ) (ops : List (BusOp Json)) :
    WellFormed (run busStep (withStreamBufferCapacity {} capacity) ops) :=
  run_inv WellFormed (fun _ op h => wellFormed_step h op) ops ⟨nofun, nofun⟩

end HoldemPlatform.Gateway.EventBus
