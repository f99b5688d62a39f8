import HoldemPlatform.Service.Concurrent

/-!
# The Tasks of the Service

The service with mailboxes is compared with one that handles a request at once, when the room takes its
command (`Sim`). Here every point of a task is shown to keep the two together: what a task has checked
stays true, what it has written is its own, and its command is not in a mailbox before it is sent.
-/

namespace HoldemPlatform.Service.Concurrent

open HoldemPlatform.Lib.FiniteMap HoldemPlatform.Lib.Run HoldemPlatform.Lib.Interleaving
open HoldemPlatform.Domain.Game HoldemPlatform.Engine.State HoldemPlatform.Chain.Watcher
open HoldemPlatform.Chain.TxRepo HoldemPlatform.Room.Actor HoldemPlatform.Room.Effect
open HoldemPlatform.Gateway.Requests HoldemPlatform.Service.RoomService
open HoldemPlatform.Service.Payments

variable {Card : Type}

/-! ### How the two services stand to each other -/

/-- The points a task has behind it; what it did counts no more once it is answered. -/
def Stage.rank : Stage → ℕ
  | .called => 0
  | .checked => 1
  | .found => 2
  | .written => 3
  | .sent => 4
  | .answered _ => 0

/-- The seat without which a room drops the command. -/
def commandSeat : RoomCommand → Option SeatId
  | .ready seatId => some seatId
  | .bindAddress seatId _ => some seatId
  | .bindSessionKeys seatId _ _ _ _ => some seatId
  | _ => none

def Opens (e : Envelope) (seatId : SeatId) : Prop := e.cmd = .join seatId

def Needs (e : Envelope) (seatId : SeatId) : Prop := commandSeat e.cmd = some seatId

/-- What a task has found and written is still there. -/
structure TaskOk (svc : AppRoomService Card) (t : Task) : Prop where
  joined : 1 ≤ t.stage.rank → ∀ s, t.request.joinedSeat = some s → s ∈ joinedIn svc t.request.roomId
  found : 2 ≤ t.stage.rank → t.request.roomId ∈ svc.rooms
  taken : 3 ≤ t.stage.rank → ∀ b, t.request.binding = some b → Taken svc.chainTxRepo b

/-- A task that has only begun, or is done, has nothing to find again. -/
theorem taskOk_of_rank {svc : AppRoomService Card} {t : Task} (h : t.stage.rank = 0) : TaskOk svc t := by
  refine ⟨fun hr => ?_, fun hr => ?_, fun hr => ?_⟩ <;> omega

/-- The second service has everything the first one has. -/
structure Grows (svc svc' : AppRoomService Card) : Prop where
  joined : ∀ r s, s ∈ joinedIn svc r → s ∈ joinedIn svc' r
  rooms : ∀ r ∈ svc.rooms, r ∈ svc'.rooms
  keys : KeysLe svc.chainTxRepo svc'.chainTxRepo

/-- Where a command in a mailbox comes from: from others, or from a task that has sent it. -/
structure EnvelopeOk (st : ServiceState Card) (roomId : RoomId) (e : Envelope) : Prop where
  room : roomId ∈ st.service.rooms
  own : e.sender = none → ownCommand e.cmd = true
  sent : ∀ i, e.sender = some i → ∃ t, st.tasks[i]? = some t ∧ t.request.roomId = roomId ∧
    t.request.command = .ok e.cmd ∧ (t.request.awaitsReply = true → t.stage = .sent) ∧
    (t.stage = .sent ∨ ∃ result, t.stage = .answered result)

/-- The seat has joined as far as the rooms are concerned, or its join is on the way. -/
def Promised (st : ServiceState Card) (svc : AppRoomService Card) (roomId : RoomId) (seatId : SeatId) :
    Prop :=
  seatId ∈ joinedIn svc roomId ∨ ∃ e ∈ st.mailboxes roomId, Opens e seatId

/-- The service with mailboxes and the service that has handled exactly the commands taken out of
them. -/
structure Sim (st : ServiceState Card) (svc : AppRoomService Card) : Prop where
  rooms : svc.rooms = st.service.rooms
  keysLe : KeysLe svc.chainTxRepo st.service.chainTxRepo
  tasks : ∀ (i : ℕ) t, st.tasks[i]? = some t → TaskOk st.service t
  free : ∀ (i : ℕ) t, st.tasks[i]? = some t → 3 ≤ t.stage.rank → ∀ b, t.request.binding = some b →
    Free svc.chainTxRepo b
  apart : ∀ (i j : ℕ) t t', st.tasks[i]? = some t → st.tasks[j]? = some t' → i ≠ j → 3 ≤ t.stage.rank →
    3 ≤ t'.stage.rank → ∀ b b', t.request.binding = some b → t'.request.binding = some b' → Apart b b'
  envelopes : ∀ r e, e ∈ st.mailboxes r → EnvelopeOk st r e
  senders : ∀ r, ((st.mailboxes r).filterMap Envelope.sender).Nodup
  covered : ∀ r, Covered Opens Needs (fun s => s ∈ joinedIn svc r) (st.mailboxes r)
  promised : ∀ r s, s ∈ joinedIn st.service r → Promised st svc r s
  joining : ∀ (i : ℕ) request, st.tasks[i]? = some ⟨.join request, .sent⟩ →
    Promised st svc request.roomId request.seatId

theorem sim_init : Sim ({} : ServiceState Card) {} where
  rooms := rfl
  keysLe := ⟨fun _ h => h, fun _ h => h⟩
  tasks := by simp
  free := by simp
  apart := by simp
  envelopes := by simp
  senders _ := List.nodup_nil
  covered _ := trivial
  promised _ _ h := by simp [joinedIn] at h
  joining := by simp

theorem KeysLe.trans {repo repo' repo'' : ChainTxRepo} (h : KeysLe repo repo')
    (h' : KeysLe repo' repo'') : KeysLe repo repo'' :=
  ⟨fun key hkey => h'.byAction key (h.byAction key hkey),
    fun txHash hkey => h'.byHash txHash (h.byHash txHash hkey)⟩

theorem keysLe_of_same {repo repo' : ChainTxRepo} (h : SameBindings repo repo') : KeysLe repo repo' :=
  ⟨fun _ hkey => h.byAction ▸ hkey, fun _ hkey => h.byHash ▸ hkey⟩

theorem Taken.mono {repo repo' : ChainTxRepo} {b : TxBindingInsert} (h : Taken repo b)
    (hle : KeysLe repo repo') : Taken repo' b :=
  ⟨hle.byAction _ h.1, hle.byHash _ h.2⟩

theorem TaskOk.mono {svc svc' : AppRoomService Card} {t : Task} (h : TaskOk svc t)
    (hgrow : Grows svc svc') : TaskOk svc' t :=
  ⟨fun hr s hs => hgrow.joined _ s (h.joined hr s hs), fun hr => hgrow.rooms _ (h.found hr),
    fun hr b hb => (h.taken hr b hb).mono hgrow.keys⟩

theorem EnvelopeOk.mono {st : ServiceState Card} {roomId : RoomId} {e : Envelope}
    {service : AppRoomService Card} (h : EnvelopeOk st roomId e) (hgrow : Grows st.service service) :
    EnvelopeOk { st with service } roomId e :=
  ⟨hgrow.rooms _ h.room, h.own, h.sent⟩

theorem Apart.symm {b b' : TxBindingInsert} (h : Apart b b') : Apart b' b := ⟨h.1.symm, h.2.symm⟩

theorem getElem?_set_cases {tasks : List Task} {i j : ℕ} {t t' : Task}
    (h : (tasks.set i t')[j]? = some t) : (j = i ∧ t = t') ∨ (j ≠ i ∧ tasks[j]? = some t) := by
  by_cases hj : j = i
  · subst hj
    rw [List.getElem?_set_self'] at h
    obtain ⟨_, -, rfl⟩ := Option.map_eq_some_iff.1 h
    exact .inl ⟨rfl, rfl⟩
  · rw [List.getElem?_set_ne (Ne.symm hj)] at h
    exact .inr ⟨hj, h⟩

theorem getElem?_set_of {tasks : List Task} {i : ℕ} {t t' : Task} (h : tasks[i]? = some t) :
    (tasks.set i t')[i]? = some t' := by
  rw [List.getElem?_set_self', h]
  rfl

namespace Sim

variable {st : ServiceState Card} {svc : AppRoomService Card}

/-- Both services grow, but no seat joins that was not promised. -/
theorem grow (h : Sim st svc) {service svc' : AppRoomService Card} (hgrow : Grows st.service service)
    (hpromised : ∀ r s, s ∈ joinedIn service r → Promised st svc r s)
    (hrooms : svc'.rooms = service.rooms) (hrepo : svc'.chainTxRepo = svc.chainTxRepo)
    (hjoined : svc'.joinedSeats = svc.joinedSeats) : Sim { st with service } svc' := by
  have hin : ∀ r, joinedIn svc' r = joinedIn svc r := fun r => by rw [joinedIn, hjoined, joinedIn]
  have hsame : ∀ r s, Promised st svc r s → Promised { st with service } svc' r s :=
    fun r s hs => by rwa [Promised, hin]
  exact
    { rooms := hrooms
      keysLe := hrepo ▸ h.keysLe.trans hgrow.keys
      tasks := fun i t ht => (h.tasks i t ht).mono hgrow
      free := hrepo ▸ h.free
      apart := h.apart
      envelopes := fun r e he => (h.envelopes r e he).mono hgrow
      senders := h.senders
      covered := fun r => by rw [hin]; exact h.covered r
      promised := fun r s hs => hsame r s (hpromised r s hs)
      joining := fun i request ht => hsame _ _ (h.joining i request ht) }

theorem sender_ne (h : Sim st svc) {i : ℕ} {t : Task} (hi : st.tasks[i]? = some t)
    (hsent : t.stage ≠ .sent) (hans : ∀ result, t.stage ≠ .answered result) {r : RoomId} {e : Envelope}
    (he : e ∈ st.mailboxes r) : e.sender ≠ some i := by
  intro hsender
  obtain ⟨t', ht', -, -, -, hstage⟩ := (h.envelopes r e he).sent i hsender
  obtain rfl := Option.some.inj (hi.symm.trans ht')
  rcases hstage with hstage | ⟨result, hstage⟩
  · exact hsent hstage
  · exact hans result hstage

/-- A task moves on: what it has written is apart from what the others have, and its command, if it is
still in a mailbox, does not lose it. -/
theorem setTask (h : Sim st svc) {i : ℕ} {t t' : Task} (hi : st.tasks[i]? = some t)
    (hreq : t'.request = t.request) (hok : TaskOk st.service t')
    (hfree : 3 ≤ t'.stage.rank → ∀ b, t'.request.binding = some b → Free svc.chainTxRepo b)
    (hapart : 3 ≤ t'.stage.rank → ∀ b, t'.request.binding = some b → ∀ (j : ℕ) t'',
      st.tasks[j]? = some t'' → j ≠ i → 3 ≤ t''.stage.rank → ∀ b', t''.request.binding = some b' →
        Apart b b')
    (hsent : ∀ r e, e ∈ st.mailboxes r → e.sender = some i →
      (t'.request.awaitsReply = true → t'.stage = .sent) ∧
      (t'.stage = .sent ∨ ∃ result, t'.stage = .answered result))
    (hjoin : ∀ request, t' = ⟨.join request, .sent⟩ →
      Promised st svc request.roomId request.seatId) :
    Sim { st with tasks := st.tasks.set i t' } svc where
  rooms := h.rooms
  keysLe := h.keysLe
  tasks j u hu := by
    rcases getElem?_set_cases hu with ⟨-, rfl⟩ | ⟨-, hu⟩
    · exact hok
    · exact h.tasks j u hu
  free j u hu := by
    rcases getElem?_set_cases hu with ⟨-, rfl⟩ | ⟨-, hu⟩
    · exact hfree
    · exact h.free j u hu
  apart j k u v hu hv hjk hru hrv b b' hb hb' := by
    rcases getElem?_set_cases hu with ⟨rfl, rfl⟩ | ⟨hj, hold⟩
    · rcases getElem?_set_cases hv with ⟨rfl, rfl⟩ | ⟨hk, hold⟩
      · exact absurd rfl hjk
      · exact hapart hru b hb k v hold hk hrv b' hb'
    · rcases getElem?_set_cases hv with ⟨rfl, rfl⟩ | ⟨-, hold'⟩
      · exact (hapart hrv b' hb' j u hold hj hru b hb).symm
      · exact h.apart j k u v hold hold' hjk hru hrv b b' hb hb'
  envelopes r e he := by
    obtain ⟨hroom, hown, hfrom⟩ := h.envelopes r e he
    refine ⟨hroom, hown, fun j hj => ?_⟩
    obtain ⟨u, hu, hr, hcmd, hreply, hstage⟩ := hfrom j hj
    by_cases hji : j = i
    · subst hji
      obtain rfl := Option.some.inj (hi.symm.trans hu)
      exact ⟨t', getElem?_set_of hi, hreq ▸ hr, hreq ▸ hcmd, hsent r e he hj⟩
    · exact ⟨u, by rw [List.getElem?_set_ne (Ne.symm hji)]; exact hu, hr, hcmd, hreply, hstage⟩
  senders := h.senders
  covered := h.covered
  promised := h.promised
  joining j request hu := by
    rcases getElem?_set_cases hu with ⟨-, heq⟩ | ⟨-, hu⟩
    · exact hjoin request heq.symm
    · exact h.joining j request hu

/-- A task that has nothing in a mailbox moves to a point before its binding counts. -/
theorem setEarly (h : Sim st svc) {i : ℕ} {t : Task} (hi : st.tasks[i]? = some t) {stage : Stage}
    (hsent : t.stage ≠ .sent) (hans : ∀ result, t.stage ≠ .answered result)
    (hrank : stage.rank < 3) (hok : TaskOk st.service ⟨t.request, stage⟩) :
    Sim { st with tasks := st.tasks.set i ⟨t.request, stage⟩ } svc := by
  refine h.setTask hi rfl hok (fun hr => ?_) (fun hr => ?_) (fun r e he hsender => ?_) ?_
  · exact absurd hr (not_le.2 hrank)
  · exact absurd hr (not_le.2 hrank)
  · exact absurd hsender (h.sender_ne hi hsent hans he)
  · rintro request heq
    obtain ⟨-, rfl⟩ := Task.mk.inj heq
    exact absurd hrank (by decide)

end Sim

/-! ### The points of a task keep the relation -/

theorem check_spec (svc : AppRoomService Card) (request : ServiceRequest) :
    (check svc request).1.rooms = svc.rooms ∧
      (check svc request).1.joinedSeats = svc.joinedSeats ∧
      SameBindings svc.chainTxRepo (check svc request).1.chainTxRepo ∧
      ((check svc request).2 = .ok () → ∀ s, request.joinedSeat = some s →
        s ∈ joinedIn svc request.roomId) := by
  cases request with
  | callback handId result => exact ⟨rfl, rfl, recordCallback_bindings _ result, by simp [ServiceRequest.joinedSeat]⟩
  | join request => exact ⟨rfl, rfl, .refl _, by simp [ServiceRequest.joinedSeat]⟩
  | act request => exact ⟨rfl, rfl, .refl _, by simp [ServiceRequest.joinedSeat]⟩
  | ready request =>
    refine ⟨rfl, rfl, .refl _, ?_⟩
    rintro hok _ ⟨⟩
    exact ensureJoined_eq_ok.1 hok
  | bindAddress request =>
    refine ⟨rfl, rfl, .refl _, ?_⟩
    rintro hok _ ⟨⟩
    exact ensureJoined_eq_ok.1 hok
  | bindSessionKeys request =>
    refine ⟨rfl, rfl, .refl _, ?_⟩
    rintro hok _ ⟨⟩
    exact ensureJoined_eq_ok.1 hok

/-- What is written is free before and taken afterwards. -/
theorem write_spec (svc : AppRoomService Card) (request : ServiceRequest) :
    (write svc request).1.rooms = svc.rooms ∧
      (write svc request).1.joinedSeats = svc.joinedSeats ∧
      KeysLe svc.chainTxRepo (write svc request).1.chainTxRepo ∧
      ((write svc request).2 = .ok () → ∀ b, request.binding = some b →
        Free svc.chainTxRepo b ∧ Taken (write svc request).1.chainTxRepo b) := by
  have hrefl : KeysLe svc.chainTxRepo svc.chainTxRepo := ⟨fun _ h => h, fun _ h => h⟩
  cases request with
  | join request => exact ⟨rfl, rfl, hrefl, by simp [ServiceRequest.binding]⟩
  | ready request => exact ⟨rfl, rfl, hrefl, by simp [ServiceRequest.binding]⟩
  | bindAddress request => exact ⟨rfl, rfl, hrefl, by simp [ServiceRequest.binding]⟩
  | bindSessionKeys request => exact ⟨rfl, rfl, hrefl, by simp [ServiceRequest.binding]⟩
  | callback handId result => exact ⟨rfl, rfl, hrefl, by simp [ServiceRequest.binding]⟩
  | act request =>
    rw [write, ServiceRequest.binding]
    cases haction : toPlayerAction request with
    | error e => exact ⟨rfl, rfl, hrefl, by simp⟩
    | ok action =>
      cases hhash : request.txHash with
      | none => exact ⟨rfl, rfl, hrefl, by simp⟩
      | some txHash =>
        dsimp only
        cases hinsert : svc.chainTxRepo.insertTxBinding (actBinding request txHash action) with
        | error e => exact ⟨rfl, rfl, hrefl, by simp⟩
        | ok repo =>
          obtain ⟨hpair, hnew, rfl⟩ := insertTxBinding_eq_ok.1 hinsert
          refine ⟨rfl, rfl, ⟨fun key hkey => ?_, fun hash hkey => ?_⟩, ?_⟩
          · exact (AList.mem_insert _).2 (.inr hkey)
          · exact (AList.mem_insert _).2 (.inr hkey)
          · rintro - _ ⟨⟩
            exact ⟨⟨hpair, hnew⟩, (AList.mem_insert _).2 (.inl rfl), (AList.mem_insert _).2 (.inl rfl)⟩

theorem apart_of_taken {repo : ChainTxRepo} {b b' : TxBindingInsert} (hfree : Free repo b)
    (htaken : Taken repo b') : Apart b b' :=
  ⟨fun heq => hfree.1 (heq ▸ htaken.1), fun heq => hfree.2 (heq ▸ htaken.2)⟩

theorem grows_of_eq {svc svc' : AppRoomService Card} (hrooms : svc'.rooms = svc.rooms)
    (hjoined : svc'.joinedSeats = svc.joinedSeats) (hkeys : KeysLe svc.chainTxRepo svc'.chainTxRepo) :
    Grows svc svc' :=
  ⟨fun r s hs => by rwa [joinedIn, hjoined], fun r hr => by rwa [hrooms], hkeys⟩

namespace Sim

variable {st : ServiceState Card} {svc : AppRoomService Card} {i : ℕ} {request : ServiceRequest}

theorem same (h : Sim st svc) {service : AppRoomService Card} (hrooms : service.rooms = st.service.rooms)
    (hjoined : service.joinedSeats = st.service.joinedSeats)
    (hkeys : KeysLe st.service.chainTxRepo service.chainTxRepo) : Sim { st with service } svc := by
  refine h.grow (grows_of_eq hrooms hjoined hkeys) (fun r s hs => ?_) (h.rooms.trans hrooms.symm) rfl rfl
  rw [joinedIn, hjoined] at hs
  exact h.promised r s hs

theorem moveCheck (h : Sim st svc) (hi : st.tasks[i]? = some ⟨request, .called⟩) :
    Sim (moveTask st i request .checked (check st.service request)) svc := by
  obtain ⟨hrooms, hjoined, hbind, hok⟩ := check_spec st.service request
  rw [moveTask]
  generalize check st.service request = r at hrooms hjoined hbind hok
  obtain ⟨service, result⟩ := r
  refine (h.same hrooms hjoined (keysLe_of_same hbind)).setEarly hi (by simp) (by simp) ?_ ?_
  · cases result <;> simp [nextStage, Stage.rank]
  · cases result with
    | error e => exact taskOk_of_rank rfl
    | ok u =>
      refine ⟨fun _ s hs => ?_, fun hr => ?_, fun hr => ?_⟩
      all_goals try simp [nextStage, Stage.rank] at hr
      show s ∈ joinedIn service request.roomId
      rw [joinedIn, hjoined]
      exact hok rfl s hs

theorem moveWrite (h : Sim st svc) (hi : st.tasks[i]? = some ⟨request, .found⟩) :
    Sim (moveTask st i request .written (write st.service request)) svc := by
  obtain ⟨hrooms, hjoined, hkeys, hok⟩ := write_spec st.service request
  have htask := h.tasks i _ hi
  rw [moveTask]
  generalize write st.service request = r at hrooms hjoined hkeys hok
  obtain ⟨service, result⟩ := r
  have hsame : Sim { st with service } svc := h.same hrooms hjoined hkeys
  cases result with
  | error e =>
    exact hsame.setEarly hi (by simp) (by simp) (by simp [nextStage, Stage.rank])
      (taskOk_of_rank rfl)
  | ok u =>
    refine hsame.setTask hi rfl ?_ ?_ ?_ ?_ (by simp [nextStage])
    · have hgrow : Grows st.service service := grows_of_eq hrooms hjoined hkeys
      exact ⟨fun _ => (htask.mono hgrow).joined (by simp [Stage.rank]),
        fun _ => (htask.mono hgrow).found (by simp [Stage.rank]), fun _ b hb => (hok rfl b hb).2⟩
    · intro _ b hb
      obtain ⟨hpair, hhash⟩ := (hok rfl b hb).1
      exact ⟨fun hmem => hpair (h.keysLe.byAction _ hmem), fun hmem => hhash (h.keysLe.byHash _ hmem)⟩
    · intro _ b hb j t hj _ hr b' hb'
      exact apart_of_taken (hok rfl b hb).1 ((h.tasks j t hj).taken hr b' hb')
    · exact fun r e he hsender => absurd hsender (h.sender_ne hi (by simp) (by simp) he)

theorem ensureRoom_rooms {svc svc' : AppRoomService Card} (h : svc'.rooms = svc.rooms) (roomId : RoomId)
    (handId : HandId) : (ensureRoom svc' roomId handId).rooms = (ensureRoom svc roomId handId).rooms := by
  unfold ensureRoom
  rw [h]
  split_ifs
  · exact h
  · rfl

theorem ensureRoom_joinedSeats (svc : AppRoomService Card) (roomId : RoomId) (handId : HandId) :
    (ensureRoom svc roomId handId).joinedSeats = svc.joinedSeats := by
  unfold ensureRoom
  split_ifs <;> rfl

theorem ensureRoom_chainTxRepo (svc : AppRoomService Card) (roomId : RoomId) (handId : HandId) :
    (ensureRoom svc roomId handId).chainTxRepo = svc.chainTxRepo := by
  unfold ensureRoom
  split_ifs <;> rfl

theorem mem_ensureRoom (svc : AppRoomService Card) (roomId : RoomId) (handId : HandId) (r : RoomId) :
    r ∈ (ensureRoom svc roomId handId).rooms ↔ r = roomId ∨ r ∈ svc.rooms := by
  unfold ensureRoom
  split_ifs with hmem
  · exact ⟨.inr, fun h => h.elim (fun h => h ▸ hmem) id⟩
  · exact AList.mem_insert _

theorem createRoom (h : Sim st svc) (roomId : RoomId) (handId : HandId) :
    Sim { st with service := ensureRoom st.service roomId handId } (ensureRoom svc roomId handId) := by
  refine h.grow ⟨fun r s hs => ?_, fun r hr => ?_, ?_⟩ (fun r s hs => ?_) (ensureRoom_rooms h.rooms _ _)
    (ensureRoom_chainTxRepo _ _ _) (ensureRoom_joinedSeats _ _ _)
  · rwa [joinedIn, ensureRoom_joinedSeats]
  · exact (mem_ensureRoom _ _ _ _).2 (.inr hr)
  · rw [ensureRoom_chainTxRepo]
    exact ⟨fun _ h => h, fun _ h => h⟩
  · rw [joinedIn, ensureRoom_joinedSeats] at hs
    exact h.promised r s hs

/-- The handle of a room that is there, or of one that is opened for a callback. -/
theorem moveFind [RsPoker Card] (config : RoomActorConfig) (h : Sim st svc)
    (hi : st.tasks[i]? = some ⟨request, .checked⟩) :
    Sim (moveTask st i request .found (find st.service request))
      (run (serviceStep config) svc (request.openedRooms.map fun room => .createRoom room.1 room.2)) := by
  have htask := h.tasks i _ hi
  by_cases hcallback : ∃ handId result, request = .callback handId result
  · obtain ⟨handId, result, rfl⟩ := hcallback
    refine (h.createRoom result.roomId handId).setEarly hi (by simp) (by simp)
      (by simp [find, nextStage, Stage.rank]) ⟨by simp [ServiceRequest.joinedSeat], fun _ => ?_, fun hr => ?_⟩
    · exact (mem_ensureRoom _ _ _ _).2 (.inl rfl)
    · simp [find, nextStage, Stage.rank] at hr
  · have hfind : find st.service request =
        (st.service, if request.roomId ∈ st.service.rooms then .ok () else .error .roomNotFound) ∧
          request.openedRooms = [] := by
      cases request with
      | callback handId result => exact absurd ⟨handId, result, rfl⟩ hcallback
      | _ => exact ⟨rfl, rfl⟩
    rw [hfind.1, hfind.2, List.map_nil, run_nil]
    split_ifs with hmem
    · refine h.setEarly hi (by simp) (by simp) (by simp [nextStage, Stage.rank])
        ⟨fun _ => ?_, fun _ => hmem, ?_⟩
      · exact htask.joined (by simp [Stage.rank])
      · simp [nextStage, Stage.rank]
    · exact h.setEarly hi (by simp) (by simp) (by simp [nextStage, Stage.rank]) (taskOk_of_rank rfl)

theorem moveRecord (h : Sim st svc) (hi : st.tasks[i]? = some ⟨request, .sent⟩)
    (hreply : request.awaitsReply = false) :
    Sim (moveTask st i request (.answered (.ok ())) (record st.service request, .ok ())) svc := by
  have hgrow : Sim { st with service := record st.service request } svc := by
    by_cases hjoin : ∃ r, request = .join r
    · obtain ⟨r, rfl⟩ := hjoin
      have hmem : ∀ r' s, s ∈ joinedIn (record st.service (.join r)) r' ↔
          s ∈ joinedIn st.service r' ∨ (r' = r.roomId ∧ s = r.seatId) := mem_joinedIn_insert rfl
      refine h.grow ⟨fun r' s hs => (hmem r' s).2 (.inl hs), fun _ hr => hr, ⟨fun _ h => h, fun _ h => h⟩⟩
        (fun r' s hs => ?_) h.rooms rfl rfl
      rcases (hmem r' s).1 hs with hs | ⟨rfl, rfl⟩
      · exact h.promised r' s hs
      · exact h.joining i r hi
    · have hsame : record st.service request = st.service := by
        cases request with
        | join r => exact absurd ⟨r, rfl⟩ hjoin
        | _ => rfl
      rw [hsame]
      exact h
  refine hgrow.setTask hi rfl (taskOk_of_rank rfl) (by simp [nextStage, Stage.rank])
    (by simp [nextStage, Stage.rank]) (fun r e _ _ => ⟨fun hr => ?_, ?_⟩) (by simp [nextStage])
  · rw [hreply] at hr
    cases hr
  · exact .inr ⟨_, rfl⟩

end Sim

end HoldemPlatform.Service.Concurrent
