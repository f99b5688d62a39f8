import HoldemPlatform.Gateway.EventBus

/-!
# What a Live Subscriber Receives

A stream follows the events that match its request: what was sent to it is a prefix of them, and all of
them as long as the subscriber is live (`Following`). A subscriber whose channel did not take an event is
removed, and a channel without a sender gets nothing more, so there are no gaps
(`live_stream_has_no_gaps`).

Which events match is decided by the request alone. One for the events of the seats that names no seat
gets those of all seats of the room: the events of a seat are kept from those who did not ask for it
exactly for the other requests (`seat_events_isolated_iff`).
-/

namespace HoldemPlatform.Gateway.LiveStreams

open HoldemPlatform.Lib.FiniteMap HoldemPlatform.Lib.Run HoldemPlatform.Lib.BoundedChannel
open HoldemPlatform.Domain.Game HoldemPlatform.Audit.EventSink
open HoldemPlatform.Gateway.EventBus HoldemPlatform.Gateway.EventBus.InMemoryEventBus

variable {Json : Type}

/-! ### Streams -/

/-- What the receiver of a channel has taken out. -/
def streamReceived (bus : InMemoryEventBus Json) (c : ℕ) : List (EventEnvelope Json) :=
  ((bus.channels[c]?).map Channel.received).getD []

/-- What the receiver has taken out and what it will find in the buffer. -/
def streamSent (bus : InMemoryEventBus Json) (c : ℕ) : List (EventEnvelope Json) :=
  ((bus.channels[c]?).map Channel.sent).getD []

def publishedBy (ops : List (BusOp Json)) : List (EventEnvelope Json) :=
  ops.filterMap fun
    | .publish event => some event
    | _ => none

/-- The channel was opened for the request, after which `expected` was published for it. -/
structure Following (bus : InMemoryEventBus Json) (c : ℕ) (request : SubscribeRequest)
    (expected : List (EventEnvelope Json)) (ch : Channel (EventEnvelope Json)) : Prop where
  wellFormed : WellFormed bus
  channel : bus.channels[c]? = some ch
  sender : ∀ id request', bus.liveSubscribers.lookup id = some (request', c) → request' = request
  sent : ch.sent <+: expected
  complete : ¬ Detached bus c → ch.closed = false → ch.sent = expected

theorem not_detached_iff {bus : InMemoryEventBus Json} {c : ℕ} :
    ¬ Detached bus c ↔ ∃ id request, bus.liveSubscribers.lookup id = some (request, c) := by
  simp only [Detached, ne_eq, not_forall, not_not]

section

variable {bus : InMemoryEventBus Json} {c : ℕ} {request : SubscribeRequest}
  {expected : List (EventEnvelope Json)} {ch : Channel (EventEnvelope Json)}

theorem Following.of_same (h : Following bus c request expected ch) {bus' : InMemoryEventBus Json}
    {ch' : Channel (EventEnvelope Json)} (hwf : WellFormed bus') (hchannel : bus'.channels[c]? = some ch')
    (hlive : ∀ id request', bus'.liveSubscribers.lookup id = some (request', c) →
      bus.liveSubscribers.lookup id = some (request', c))
    (hsent : ch'.sent <+: ch.sent)
    (hcomplete : ch'.closed = false → ch.closed = false ∧ ch'.sent = ch.sent) :
    Following bus' c request expected ch' where
  wellFormed := hwf
  channel := hchannel
  sender id request' hlookup := h.sender id request' (hlive id request' hlookup)
  sent := hsent.trans h.sent
  complete hattached hopen := by
    obtain ⟨id, request', hlookup⟩ := not_detached_iff.1 hattached
    have hold : ¬ Detached bus c := not_detached_iff.2 ⟨id, request', hlive id request' hlookup⟩
    rw [(hcomplete hopen).2, h.complete hold (hcomplete hopen).1]

theorem Following.publish (h : Following bus c request expected ch) (event : EventEnvelope Json) :
    ∃ ch', Following (bus.publish event).1 c request
      (expected ++ [event].filter (eventMatches request)) ch' := by
  have hwf : WellFormed (bus.publish event).1 := wellFormed_step h.wellFormed (.publish event)
  have hsender : ∀ id request', (bus.publish event).1.liveSubscribers.lookup id = some (request', c) →
      request' = request := fun id request' hlookup => h.sender id request' (lookup_publish hlookup)
  have hlonger : ch.sent <+: expected ++ [event].filter (eventMatches request) :=
    h.sent.trans (List.prefix_append ..)
  by_cases hdetached : Detached bus c
  · obtain ⟨hchannel, hstill⟩ := publish_detached hdetached
    exact ⟨ch, hwf, hchannel.trans h.channel, hsender, hlonger, fun hnot => absurd hstill hnot⟩
  · obtain ⟨id, request', hlive⟩ := not_detached_iff.1 hdetached
    obtain rfl := h.sender id request' hlive
    by_cases hmatch : eventMatches request' event
    · rw [List.filter_cons_of_pos hmatch, List.filter_nil] at hlonger ⊢
      cases hsend : ch.trySend event with
      | error e =>
        obtain ⟨hchannel, hgone⟩ := publish_refused h.wellFormed hlive h.channel hmatch hsend
        exact ⟨ch, hwf, hchannel, hsender, hlonger, fun hnot => absurd hgone hnot⟩
      | ok ch' =>
        obtain ⟨hchannel, -⟩ := publish_taken h.wellFormed hlive h.channel hmatch hsend
        have hsent : ch'.sent = expected ++ [event] := by
          rw [Channel.sent_of_trySend hsend, h.complete hdetached (Channel.of_trySend hsend).1]
        exact ⟨ch', hwf, hchannel, hsender, hsent ▸ List.prefix_refl _, fun _ _ => hsent⟩
    · obtain ⟨hchannel, -⟩ := publish_unmatched h.wellFormed hlive h.channel hmatch
      rw [List.filter_cons_of_neg hmatch, List.filter_nil, List.append_nil]
      exact ⟨ch, h.of_same hwf hchannel (fun _ _ => lookup_publish) (List.prefix_refl _)
        fun hopen => ⟨hopen, rfl⟩⟩

theorem Following.step (h : Following bus c request expected ch) (op : BusOp Json) :
    ∃ ch', Following (busStep bus op) c request
      (expected ++ (publishedBy [op]).filter (eventMatches request)) ch' := by
  by_cases hop : ∃ event, op = .publish event
  · obtain ⟨event, rfl⟩ := hop
    exact h.publish event
  · have hnone : publishedBy [op] = [] := by
      cases op with
      | publish event => exact absurd ⟨event, rfl⟩ hop
      | _ => rfl
    obtain ⟨ch', hchannel, hlive, hsent, hcomplete⟩ := quiet_step h.channel hop
    rw [hnone, List.filter_nil, List.append_nil]
    exact ⟨ch', h.of_same (wellFormed_step h.wellFormed op) hchannel hlive hsent hcomplete⟩

/-- **A stream follows the events of its request.** -/
theorem Following.after (h : Following bus c request expected ch) (ops : List (BusOp Json)) :
    ∃ ch', Following (run busStep bus ops) c request
      (expected ++ (publishedBy ops).filter (eventMatches request)) ch' := by
  induction ops generalizing bus expected ch with
  | nil =>
    refine ⟨ch, ?_⟩
    simpa [publishedBy] using h
  | cons op ops ih =>
    obtain ⟨ch', h'⟩ := h.step op
    obtain ⟨ch'', h''⟩ := ih h'
    refine ⟨ch'', ?_⟩
    have hcons : publishedBy (op :: ops) = publishedBy [op] ++ publishedBy ops := by
      rw [publishedBy, ← List.singleton_append, List.filterMap_append]
      rfl
    rwa [hcons, List.filter_append, ← List.append_assoc]

theorem following_subscribeStream (hwf : WellFormed bus) (id : String) (request : SubscribeRequest) :
    Following (bus.subscribeStream id request) bus.channels.length request []
      (Channel.empty bus.streamBufferCapacity) where
  wellFormed := wellFormed_step hwf (.subscribeStream id request)
  channel := by
    show (bus.channels ++ [_])[bus.channels.length]? = _
    rw [List.getElem?_append_right le_rfl, Nat.sub_self]
    rfl
  sender := by
    intro id' request' hlookup
    rcases lookup_insert_cases hlookup with ⟨-, heq⟩ | ⟨-, hold⟩
    · cases heq
      rfl
    · exact absurd (hwf.bound _ _ _ hold) (lt_irrefl _)
  sent := List.prefix_refl _
  complete := fun _ _ => rfl

/-! ### Channels without a sender -/

theorem streamSent_of_channel (hchannel : bus.channels[c]? = some ch) : streamSent bus c = ch.sent := by
  rw [streamSent, hchannel]
  rfl

/-- A channel without a sender stays so and gets nothing more. -/
theorem detached_step (hchannel : bus.channels[c]? = some ch) (hdetached : Detached bus c)
    (op : BusOp Json) :
    ∃ ch', (busStep bus op).channels[c]? = some ch' ∧ Detached (busStep bus op) c ∧
      ch'.sent <+: ch.sent := by
  by_cases hop : ∃ event, op = .publish event
  · obtain ⟨event, rfl⟩ := hop
    obtain ⟨hchannel', hdetached'⟩ := @publish_detached _ bus event c hdetached
    exact ⟨ch, hchannel'.trans hchannel, hdetached', List.prefix_refl _⟩
  · obtain ⟨ch', hchannel', hlive, hsent, -⟩ := quiet_step hchannel hop
    exact ⟨ch', hchannel', fun id request hlookup => hdetached id request (hlive id request hlookup), hsent⟩

theorem detached_run (ops : List (BusOp Json)) (hchannel : bus.channels[c]? = some ch)
    (hdetached : Detached bus c) :
    ∃ ch', (run busStep bus ops).channels[c]? = some ch' ∧ ch'.sent <+: ch.sent := by
  induction ops generalizing bus ch with
  | nil => exact ⟨ch, hchannel, List.prefix_refl _⟩
  | cons op ops ih =>
    obtain ⟨ch', hchannel', hdetached', hsent⟩ := detached_step hchannel hdetached op
    obtain ⟨ch'', hchannel'', hsent'⟩ := ih hchannel' hdetached'
    exact ⟨ch'', hchannel'', hsent'.trans hsent⟩

/-- A subscriber whose channel did not take an event it asked for is not live any more. -/
theorem Following.detached_of_refused (h : Following bus c request expected ch)
    {event : EventEnvelope Json} (hmatch : eventMatches request event)
    (hrefused : streamSent (bus.publish event).1 c = ch.sent) : Detached (bus.publish event).1 c := by
  by_cases hdetached : Detached bus c
  · exact (publish_detached hdetached).2
  · obtain ⟨id, request', hlive⟩ := not_detached_iff.1 hdetached
    obtain rfl := h.sender id request' hlive
    cases hsend : ch.trySend event with
    | error e => exact (publish_refused h.wellFormed hlive h.channel hmatch hsend).2
    | ok ch' =>
      obtain ⟨hchannel, -⟩ := publish_taken h.wellFormed hlive h.channel hmatch hsend
      rw [streamSent_of_channel hchannel, Channel.sent_of_trySend hsend] at hrefused
      exact absurd hrefused (by simp)

/-- After an event that was not sent, the receiver gets what was sent before at most. -/
theorem Following.nothing_after_refused (h : Following bus c request expected ch)
    {event : EventEnvelope Json} (hmatch : eventMatches request event)
    (hrefused : streamSent (busStep bus (.publish event)) c = streamSent bus c)
    (later : List (BusOp Json)) :
    streamReceived (run busStep bus (.publish event :: later)) c <+: streamSent bus c := by
  have hsame : streamSent (bus.publish event).1 c = ch.sent :=
    hrefused.trans (streamSent_of_channel h.channel)
  have hdetached := h.detached_of_refused hmatch hsame
  obtain ⟨ch', h'⟩ := h.publish event
  rw [streamSent_of_channel h'.channel] at hsame
  obtain ⟨ch'', hchannel, hsent⟩ := detached_run later h'.channel hdetached
  rw [streamSent_of_channel h.channel, ← hsame]
  show ((run busStep (bus.publish event).1 later).channels[c]?.map Channel.received).getD [] <+: _
  rw [hchannel]
  exact ch''.received_prefix_sent.trans hsent

end

/-- **Live subscribers see no gaps.** The channel is the one the subscription opens, `after` whatever
happens on the bus from then on. What its receiver gets is a prefix of what is published for the request;
and if an event for it is not sent to it, it gets nothing beyond what was sent before. -/
theorem live_stream_has_no_gaps (capacity : ℕ) (before after : List (BusOp Json)) (id : String)
    (request : SubscribeRequest) :
    let c := (run busStep (withStreamBufferCapacity {} capacity) before).channels.length
    let bus := run busStep (withStreamBufferCapacity {} capacity) (before ++ [.subscribeStream id request])
    streamReceived (run busStep bus after) c <+: (publishedBy after).filter (eventMatches request) ∧
      ∀ mid event later, after = mid ++ .publish event :: later → eventMatches request event →
        streamSent (run busStep bus (mid ++ [.publish event])) c = streamSent (run busStep bus mid) c →
        streamReceived (run busStep bus after) c <+: streamSent (run busStep bus mid) c := by
  intro c bus
  have hbus : bus =
      (run busStep (withStreamBufferCapacity {} capacity) before).subscribeStream id request :=
    run_concat ..
  have hopened := following_subscribeStream (wellFormed_run capacity before) id request
  rw [← hbus] at hopened
  constructor
  · obtain ⟨ch, h⟩ := hopened.after after
    rw [streamReceived, h.channel]
    exact ch.received_prefix_sent.trans h.sent
  · rintro mid event later rfl hmatch hrefused
    obtain ⟨ch, h⟩ := hopened.after mid
    rw [run_concat] at hrefused
    rw [run_append]
    exact h.nothing_after_refused hmatch hrefused later

/-! ### The private events of the seats -/

section

variable {bus : InMemoryEventBus Json} {c : ℕ} {request : SubscribeRequest}
  {ch : Channel (EventEnvelope Json)}

/-- A private event for one of the seats. -/
def addressedTo (seats : List SeatId) (event : EventEnvelope Json) : Bool :=
  event.topic = .seatEvents ∧ ∃ seat ∈ seats, event.seatId = some seat

/-- What a subscriber receives that takes out what there is after the events are published. -/
def receives (bus : InMemoryEventBus Json) (c : ℕ) (capacity : ℕ) (events : List (EventEnvelope Json)) :
    List (EventEnvelope Json) :=
  streamReceived (run busStep bus (events.map .publish ++ List.replicate capacity (.recv c))) c

theorem eventMatches_iff {event : EventEnvelope Json} :
    eventMatches request event ↔ request.topic = event.topic ∧ request.roomId = event.roomId ∧
      (request.handId = none ∨ event.handId = request.handId) ∧
      (request.seatId = none ∨ event.seatId = request.seatId) := by
  unfold eventMatches
  cases request.handId <;> cases request.seatId <;> simp <;> tauto

theorem publish_fitting : ∀ (events : List (EventEnvelope Json)) {bus : InMemoryEventBus Json}
    {ch : Channel (EventEnvelope Json)} {id : String}, WellFormed bus →
    bus.liveSubscribers.lookup id = some (request, c) → bus.channels[c]? = some ch → ch.closed = false →
    ch.buffer.length + (events.filter (eventMatches request)).length ≤ ch.capacity →
    ∃ ch', (run busStep bus (events.map .publish)).channels[c]? = some ch' ∧
      ch'.capacity = ch.capacity ∧ ch'.sent = ch.sent ++ events.filter (eventMatches request)
  | [], bus, ch, id, _, _, hchannel, _, _ => ⟨ch, hchannel, rfl, (List.append_nil _).symm⟩
  | event :: events, bus, ch, id, hwf, hlive, hchannel, hopen, hfits => by
    have hwf' := wellFormed_step hwf (.publish event)
    rw [List.map_cons, run_cons]
    by_cases hmatch : eventMatches request event
    · rw [List.filter_cons_of_pos hmatch] at hfits ⊢
      rw [List.length_cons] at hfits
      obtain ⟨ch₁, hsend⟩ := Channel.trySend_of_room hopen (by omega) event
      obtain ⟨-, hopen₁, hcapacity, -, hbuffer⟩ := Channel.of_trySend hsend
      obtain ⟨hchannel₁, hlive₁⟩ := publish_taken hwf hlive hchannel hmatch hsend
      have hfits₁ : ch₁.buffer.length + (events.filter (eventMatches request)).length ≤ ch₁.capacity := by
        rw [hbuffer, hcapacity, List.length_append, List.length_singleton]
        omega
      obtain ⟨ch', hchannel', hcapacity', hsent⟩ :=
        publish_fitting events hwf' hlive₁ hchannel₁ hopen₁ hfits₁
      refine ⟨ch', hchannel', hcapacity'.trans hcapacity, ?_⟩
      rw [hsent, Channel.sent_of_trySend hsend, List.append_assoc]
      rfl
    · rw [List.filter_cons_of_neg hmatch] at hfits ⊢
      obtain ⟨hchannel', hlive'⟩ := publish_unmatched hwf hlive hchannel hmatch
      exact publish_fitting events hwf' hlive' hchannel' hopen hfits

theorem run_recv (n : ℕ) {bus : InMemoryEventBus Json} {ch : Channel (EventEnvelope Json)}
    (hchannel : bus.channels[c]? = some ch) :
    (run busStep bus (List.replicate n (.recv c))).channels[c]? = some (Channel.recv^[n] ch) := by
  induction n generalizing bus ch with
  | zero => exact hchannel
  | succ n ih =>
    rw [List.replicate_succ, run_cons, Function.iterate_succ_apply]
    refine ih ?_
    show (bus.channels.modify c Channel.recv)[c]? = _
    rw [List.getElem?_modify_eq, hchannel]
    rfl

theorem receives_fitting {id : String} (hwf : WellFormed bus)
    (hlive : bus.liveSubscribers.lookup id = some (request, c)) (hchannel : bus.channels[c]? = some ch)
    (hopen : ch.closed = false) {events : List (EventEnvelope Json)}
    (hfits : ch.buffer.length + (events.filter (eventMatches request)).length ≤ ch.capacity) :
    receives bus c ch.capacity events = ch.sent ++ events.filter (eventMatches request) := by
  obtain ⟨ch', hchannel', hcapacity, hsent⟩ :=
    publish_fitting events hwf hlive hchannel hopen hfits
  rw [receives, run_append, streamReceived, run_recv _ hchannel', ← hsent]
  exact ch'.received_iterate_recv (hcapacity ▸ ch'.fits)

/-- A request that asks for a seat, or for another topic, does not match the events of the other seats. -/
theorem not_matches_addressedTo {others : List SeatId} (hname : ∀ seat ∈ others, request.seatId ≠ some seat)
    (hseat : ¬ (request.topic = .seatEvents ∧ request.seatId = none ∧ others ≠ []))
    {event : EventEnvelope Json} (hmatch : eventMatches request event) : ¬ addressedTo others event := by
  intro haddressed
  simp only [addressedTo, decide_eq_true_eq] at haddressed
  obtain ⟨htopic, seat, hmem, hevent⟩ := haddressed
  obtain ⟨htopic', -, -, hnone | hsame⟩ := eventMatches_iff.1 hmatch
  · exact hseat ⟨htopic'.trans htopic, hnone, List.ne_nil_of_mem hmem⟩
  · exact hname seat hmem (hsame.symm.trans hevent)

/-- **The events of other seats are kept from a subscriber** that did not name one of them, exactly if it
did not ask for the events of the seats without naming a seat. Two runs are compared whose events differ
only in the private events of the other seats; the buffer takes the events of both. -/
theorem seat_events_isolated_iff [Inhabited Json] (capacity : ℕ) (ops : List (BusOp Json)) {id : String}
    (hlive : (run busStep (withStreamBufferCapacity {} capacity) ops).liveSubscribers.lookup id =
      some (request, c))
    (hchannel : (run busStep (withStreamBufferCapacity {} capacity) ops).channels[c]? = some ch)
    (hopen : ch.closed = false) (hroom : ch.buffer.length < ch.capacity) (others : List SeatId)
    (hname : ∀ seat ∈ others, request.seatId ≠ some seat) :
    (∀ events events' : List (EventEnvelope Json),
      events.filter (fun e => !addressedTo others e) = events'.filter (fun e => !addressedTo others e) →
      ch.buffer.length + (events.filter (eventMatches request)).length ≤ ch.capacity →
      ch.buffer.length + (events'.filter (eventMatches request)).length ≤ ch.capacity →
      receives (run busStep (withStreamBufferCapacity {} capacity) ops) c ch.capacity events =
        receives (run busStep (withStreamBufferCapacity {} capacity) ops) c ch.capacity events') ↔
      ¬ (request.topic = .seatEvents ∧ request.seatId = none ∧ others ≠ []) := by
  have hwf := wellFormed_run capacity ops
  constructor
  · rintro h ⟨htopic, hnone, hothers⟩
    obtain ⟨seat, hseat⟩ := List.exists_mem_of_ne_nil others hothers
    let event : EventEnvelope Json :=
      { topic := .seatEvents, roomId := request.roomId, handId := request.handId, seatId := some seat,
        eventName := "", payload := default }
    have hmatch : eventMatches request event :=
      eventMatches_iff.2 ⟨htopic, rfl, .inr rfl, .inl hnone⟩
    have haddressed : addressedTo others event := decide_eq_true ⟨rfl, seat, hseat, rfl⟩
    have hfits : ch.buffer.length + ([event].filter (eventMatches request)).length ≤ ch.capacity := by
      rw [List.filter_cons_of_pos hmatch]
      exact hroom
    have hnone : ch.buffer.length +
        (([] : List (EventEnvelope Json)).filter (eventMatches request)).length ≤ ch.capacity := ch.fits
    have hsame := h [event] [] (by simp [haddressed]) hfits hnone
    rw [receives_fitting hwf hlive hchannel hopen hfits,
      receives_fitting hwf hlive hchannel hopen hnone, List.filter_cons_of_pos hmatch] at hsame
    simp at hsame
  · intro hseat events events' hagree hfits hfits'
    -- the events of the request are among those the runs agree on
    have hfilter : ∀ events : List (EventEnvelope Json), events.filter (eventMatches request) =
        (events.filter fun e => !addressedTo others e).filter (eventMatches request) := by
      intro events
      rw [List.filter_filter]
      refine List.filter_congr fun event _ => ?_
      by_cases hmatch : eventMatches request event
      · simp [hmatch, not_matches_addressedTo hname hseat hmatch]
      · simp [hmatch]
    rw [receives_fitting hwf hlive hchannel hopen hfits,
      receives_fitting hwf hlive hchannel hopen hfits', hfilter events, hfilter events', hagree]

end

/-- A request for private events of the room. -/
def seatRequest (seatId : Option SeatId) : SubscribeRequest where
  topic := .seatEvents
  roomId := ⟨0⟩
  handId := none
  seatId := seatId

def subscribed (request : SubscribeRequest) : List (BusOp Unit) := [.subscribeStream "a" request]

def holeCards (seat : SeatId) : EventEnvelope Unit where
  topic := .seatEvents
  roomId := ⟨0⟩
  handId := some ⟨0⟩
  seatId := some seat
  eventName := "hole_cards_dealt"
  payload := ()

theorem seat_zero_isolated :
    receives (run busStep (withStreamBufferCapacity {} 1) (subscribed (seatRequest (some 0)))) 0 1
        [holeCards 1, holeCards 0] = [holeCards 0] ∧
      ∀ events events' : List (EventEnvelope Unit),
        events.filter (fun e => !addressedTo [1] e) = events'.filter (fun e => !addressedTo [1] e) →
        (events.filter (eventMatches (seatRequest (some 0)))).length ≤ 1 →
        (events'.filter (eventMatches (seatRequest (some 0)))).length ≤ 1 →
        receives (run busStep (withStreamBufferCapacity {} 1) (subscribed (seatRequest (some 0)))) 0 1
            events =
          receives (run busStep (withStreamBufferCapacity {} 1) (subscribed (seatRequest (some 0)))) 0 1
            events' := by
  refine ⟨by decide +kernel, fun events events' hagree hfits hfits' => ?_⟩
  have hlive : (run busStep (withStreamBufferCapacity {} 1)
      (subscribed (seatRequest (some 0)))).liveSubscribers.lookup "a" =
        some (seatRequest (some 0), 0) := rfl
  have hchannel : (run busStep (withStreamBufferCapacity {} 1)
      (subscribed (seatRequest (some 0)))).channels[0]? = some (Channel.empty 1) := rfl
  refine (seat_events_isolated_iff 1 _ hlive hchannel rfl Nat.zero_lt_one [1] (by decide +kernel)).2
    (by decide) events events' hagree ?_ ?_
  · exact (Nat.zero_add _).trans_le hfits
  · exact (Nat.zero_add _).trans_le hfits'

/-- A subscriber of the whole room, which names no seat, receives the hole cards of seat 1. -/
theorem room_subscriber_sees_seat :
    (∀ seat : SeatId, (seatRequest none).seatId ≠ some seat) ∧
      [holeCards 1].filter (fun e => !addressedTo [1] e) =
        ([] : List (EventEnvelope Unit)).filter (fun e => !addressedTo [1] e) ∧
      receives (run busStep (withStreamBufferCapacity {} 64) (subscribed (seatRequest none))) 0 64
        [holeCards 1] = [holeCards 1] ∧
      receives (run busStep (withStreamBufferCapacity {} 64) (subscribed (seatRequest none))) 0 64 [] =
        [] :=
  ⟨nofun, by decide +kernel, by decide +kernel, by decide +kernel⟩

end HoldemPlatform.Gateway.LiveStreams
