import HoldemPlatform.Service.Concurrent.Points

/-!
# Mailboxes and Runs

A command that enters a mailbox stands behind the join of its seat, and a command that leaves it can be
handled at once. So the rooms of a service with mailboxes are in the states to which the service that
handles requests at once comes when it takes the commands in the order in which they were delivered
(`rooms_handle_deliveries`). What is delivered has been sent before, in the same order, and no task sends
twice.
-/

namespace HoldemPlatform.Service.Concurrent

open HoldemPlatform.Lib.FiniteMap HoldemPlatform.Lib.Run HoldemPlatform.Lib.Interleaving
open HoldemPlatform.Domain.Game HoldemPlatform.Engine.State HoldemPlatform.Chain.Watcher
open HoldemPlatform.Chain.TxRepo HoldemPlatform.Room.Actor HoldemPlatform.Room.Effect
open HoldemPlatform.Gateway.Requests HoldemPlatform.Service.RoomService
open HoldemPlatform.Service.Payments

variable {Card : Type}

/-! ### What is sent, delivered and handled -/

/-- A command that a room has taken out of its mailbox, and where the room was then. -/
structure Delivery (Card : Type) where
  env : RoomEnv Card
  roomId : RoomId
  envelope : Envelope

def Delivery.letter (d : Delivery Card) : RoomId × Envelope := (d.roomId, d.envelope)

/-- The requests that are called, in the order of their tasks. -/
def called (moves : List (Move Card)) : List ServiceRequest :=
  moves.filterMap fun
    | .call request => some request
    | _ => none

/-- What a move puts into a mailbox. -/
def sentBy (st : ServiceState Card) : Move Card → List (RoomId × Envelope)
  | .post roomId cmd =>
    if ownCommand cmd = true ∧ roomId ∈ st.service.rooms ∧
        (st.mailboxes roomId).length < MAILBOX_CAPACITY then [(roomId, ⟨none, cmd⟩)]
    else []
  | .resume i =>
    match st.tasks[i]? with
    | some ⟨request, .written⟩ =>
      match request.command with
      | .error _ => []
      | .ok cmd =>
        if (st.mailboxes request.roomId).length < MAILBOX_CAPACITY then
          [(request.roomId, ⟨some i, cmd⟩)]
        else []
    | _ => []
  | .createRoom _ _ | .call _ | .deliver _ _ => []

/-- What a move takes out of a mailbox. -/
def deliveredBy (st : ServiceState Card) : Move Card → List (Delivery Card)
  | .deliver env roomId =>
    match st.mailboxes roomId, st.service.rooms.lookup roomId with
    | envelope :: _, some _ => [⟨env, roomId, envelope⟩]
    | _, _ => []
  | .createRoom _ _ | .call _ | .resume _ | .post _ _ => []

/-- The rooms that a move opens if they are not there. -/
def openedBy (st : ServiceState Card) : Move Card → List (RoomId × HandId)
  | .createRoom roomId handId => [(roomId, handId)]
  | .resume i =>
    match st.tasks[i]? with
    | some ⟨request, .checked⟩ => request.openedRooms
    | _ => []
  | .call _ | .post _ _ | .deliver _ _ => []

/-- A delivered command as an input of the service that handles requests at once: the request that was
called as the task which has sent it, or the command of somebody else. -/
def handledInput (requests : List ServiceRequest) (d : Delivery Card) : ServiceInput Card :=
  match d.envelope.sender with
  | none => .internal d.env d.roomId d.envelope.cmd
  | some i =>
    match requests[i]? with
    | some request => inputOf d.env request
    | none => .internal d.env d.roomId d.envelope.cmd

/-- What a move is for the service that handles requests at once. -/
def handledBy (st : ServiceState Card) (move : Move Card) : List (ServiceInput Card) :=
  ((openedBy st move).map fun room => .createRoom room.1 room.2) ++
    (deliveredBy st move).map (handledInput (st.tasks.map Task.request))

/-- The input opens a room, if it is not there. -/
def opensRoom : ServiceInput Card → Bool
  | .createRoom _ _ => true
  | .join _ _ | .ready _ _ | .bindAddress _ _ | .bindSessionKeys _ _ | .act _ _ | .callback _ _ _
  | .internal _ _ _ => false

def lettersTo (r : RoomId) (letters : List (RoomId × Envelope)) : List Envelope :=
  (letters.filter fun letter => letter.1 = r).map Prod.snd

namespace Sim

variable {st : ServiceState Card} {svc : AppRoomService Card} {i : ℕ} {request : ServiceRequest}

/-! ### Commands enter a mailbox -/

theorem put_mailboxes_self (st : ServiceState Card) (r : RoomId) (e : Envelope) :
    (put st r e).mailboxes r = st.mailboxes r ++ [e] :=
  Function.update_self ..

theorem put_mailboxes_ne (st : ServiceState Card) {r r' : RoomId} (hr : r' ≠ r) (e : Envelope) :
    (put st r e).mailboxes r' = st.mailboxes r' :=
  Function.update_of_ne hr ..

theorem mem_put {r r' : RoomId} {e e' : Envelope} :
    e' ∈ (put st r e).mailboxes r' ↔ e' ∈ st.mailboxes r' ∨ (r' = r ∧ e' = e) := by
  by_cases hr : r' = r
  · subst hr
    rw [put_mailboxes_self, List.mem_append, List.mem_singleton]
    tauto
  · rw [put_mailboxes_ne st hr]
    tauto

theorem promised_put {r r' : RoomId} {s : SeatId} (e : Envelope) (h : Promised st svc r' s) :
    Promised (put st r e) svc r' s :=
  h.imp_right fun ⟨e', he', hopens⟩ => ⟨e', mem_put.2 (.inl he'), hopens⟩

theorem covered_put (h : Sim st svc) {r : RoomId} {e : Envelope}
    (hneeds : ∀ s, Needs e s → Promised st svc r s) (r' : RoomId) :
    Covered Opens Needs (fun s => s ∈ joinedIn svc r') ((put st r e).mailboxes r') := by
  by_cases hr : r' = r
  · subst hr
    rw [put_mailboxes_self]
    exact (h.covered r').concat hneeds
  · rw [put_mailboxes_ne st hr]
    exact h.covered r'

theorem senders_put (h : Sim st svc) {r : RoomId} {e : Envelope}
    (hnew : ∀ i, e.sender = some i → ∀ e' ∈ st.mailboxes r, e'.sender ≠ some i) (r' : RoomId) :
    (((put st r e).mailboxes r').filterMap Envelope.sender).Nodup := by
  by_cases hr : r' = r
  · subst hr
    rw [put_mailboxes_self, List.filterMap_append, List.nodup_append]
    refine ⟨h.senders r', ?_, fun i hi j hj => ?_⟩
    · cases hsender : e.sender <;> simp [hsender]
    · obtain ⟨e', he', hsender'⟩ := List.mem_filterMap.1 hi
      obtain ⟨e'', he'', hsender⟩ := List.mem_filterMap.1 hj
      rw [List.mem_singleton.1 he''] at hsender
      rintro rfl
      exact hnew i hsender e' he' hsender'
  · rw [put_mailboxes_ne st hr]
    exact h.senders r'

/-- The commands of others need no seat and seat nobody, and the rooms take them at once. -/
theorem own_spec {cmd : RoomCommand} (h : ownCommand cmd = true) :
    commandSeat cmd = none ∧ (∀ s, cmd ≠ .join s) ∧ isInternal cmd = true := by
  cases cmd <;> simp_all [ownCommand, isInternal, commandSeat]

theorem post (h : Sim st svc) {r : RoomId} {cmd : RoomCommand} (hown : ownCommand cmd = true)
    (hroom : r ∈ st.service.rooms) : Sim (put st r ⟨none, cmd⟩) svc where
  rooms := h.rooms
  keysLe := h.keysLe
  tasks := h.tasks
  free := h.free
  apart := h.apart
  envelopes r' e he := by
    rcases mem_put.1 he with he | ⟨rfl, rfl⟩
    · exact ⟨(h.envelopes r' e he).room, (h.envelopes r' e he).own, (h.envelopes r' e he).sent⟩
    · exact ⟨hroom, fun _ => hown, (by simp)⟩
  senders := h.senders_put (by simp)
  covered := h.covered_put fun s hs => by
    rw [Needs, (own_spec hown).1] at hs
    cases hs
  promised r' s hs := promised_put _ (h.promised r' s hs)
  joining j r' hj := promised_put _ (h.joining j r' hj)

theorem commandSeat_of_command {cmd : RoomCommand} (hcmd : request.command = .ok cmd) :
    commandSeat cmd = request.joinedSeat := by
  cases request with
  | act r =>
    rw [ServiceRequest.command] at hcmd
    split at hcmd
    · cases hcmd
    · split at hcmd <;> cases hcmd <;> rfl
  | _ => cases hcmd; rfl

/-- A task sends its command: it stands behind the join of its seat. -/
theorem moveSend (h : Sim st svc) (hi : st.tasks[i]? = some ⟨request, .written⟩) {cmd : RoomCommand}
    (hcmd : request.command = .ok cmd) :
    Sim (moveTask (put st request.roomId ⟨some i, cmd⟩) i request .sent (st.service, .ok ())) svc := by
  have htask := h.tasks i _ hi
  have hput : ∀ {r s}, Promised st svc r s →
      Promised (moveTask (put st request.roomId ⟨some i, cmd⟩) i request .sent (st.service, .ok ()))
        svc r s := fun hs => promised_put _ hs
  have hnone : ∀ r e, e ∈ st.mailboxes r → e.sender ≠ some i :=
    fun r e he => h.sender_ne hi (by simp) (by simp) he
  have hset : ∀ (j : ℕ) u, (moveTask (put st request.roomId ⟨some i, cmd⟩) i request .sent
      (st.service, .ok ())).tasks[j]? = some u →
        (j = i ∧ u = ⟨request, .sent⟩) ∨ (j ≠ i ∧ st.tasks[j]? = some u) := fun j u => getElem?_set_cases
  exact
    { rooms := h.rooms
      keysLe := h.keysLe
      tasks := fun j u hu => by
        rcases hset j u hu with ⟨-, rfl⟩ | ⟨-, hu⟩
        · exact ⟨fun _ => htask.joined (by simp [Stage.rank]),
            fun _ => htask.found (by simp [Stage.rank]), fun _ => htask.taken (by simp [Stage.rank])⟩
        · exact h.tasks j u hu
      free := fun j u hu hr b hb => by
        rcases hset j u hu with ⟨-, rfl⟩ | ⟨-, hu⟩
        · exact h.free i _ hi (by simp [Stage.rank]) b hb
        · exact h.free j u hu hr b hb
      apart := fun j k u v hu hv hjk hru hrv b b' hb hb' => by
        rcases hset j u hu with ⟨rfl, rfl⟩ | ⟨hj, hold⟩
        · rcases hset k v hv with ⟨rfl, rfl⟩ | ⟨hk, hold⟩
          · exact absurd rfl hjk
          · exact h.apart j k _ v hi hold hjk (by simp [Stage.rank]) hrv b b' hb hb'
        · rcases hset k v hv with ⟨rfl, rfl⟩ | ⟨-, hold'⟩
          · exact h.apart j k u _ hold hi hjk hru (by simp [Stage.rank]) b b' hb hb'
          · exact h.apart j k u v hold hold' hjk hru hrv b b' hb hb'
      envelopes := fun r e he => by
        rcases mem_put.1 he with he | ⟨rfl, rfl⟩
        · obtain ⟨hroom, hown, hfrom⟩ := h.envelopes r e he
          refine ⟨hroom, hown, fun j hj => ?_⟩
          obtain ⟨u, hu, hrest⟩ := hfrom j hj
          have hji : i ≠ j := fun heq => hnone r e he (heq ▸ hj)
          exact ⟨u, (List.getElem?_set_ne hji).trans hu, hrest⟩
        · refine ⟨htask.found (by simp [Stage.rank]), (by simp), ?_⟩
          rintro _ ⟨⟩
          exact ⟨_, getElem?_set_of hi, rfl, hcmd, fun _ => rfl, .inl rfl⟩
      senders := h.senders_put fun j hj e he => by
        cases hj
        exact hnone _ e he
      covered := h.covered_put fun s hs => by
        rw [Needs, commandSeat_of_command hcmd] at hs
        exact h.promised _ s (htask.joined (by simp [Stage.rank]) s hs)
      promised := fun r s hs => hput (h.promised r s hs)
      joining := fun j r hu => by
        rcases hset j _ hu with ⟨-, heq⟩ | ⟨-, hu⟩
        · obtain ⟨rfl, -⟩ := Task.mk.inj heq
          cases hcmd
          exact .inr ⟨_, mem_put.2 (.inr ⟨rfl, rfl⟩), rfl⟩
        · exact hput (h.joining j r hu) }

/-! ### Commands leave a mailbox -/

theorem grows_tellRoom [RsPoker Card] (config : RoomActorConfig) (env : RoomEnv Card)
    (svc : AppRoomService Card) (r : RoomId) (room : RoomState Card) (cmd : RoomCommand) :
    Grows svc (tellRoom config env svc r room cmd) :=
  ⟨fun _ _ hs => hs, fun _ hr => (AList.mem_insert _).2 (.inr hr), ⟨fun _ h => h, fun _ h => h⟩⟩

/-- A room takes a command, and the other service handles it at once. -/
theorem deliver [RsPoker Card] {config : RoomActorConfig} {env : RoomEnv Card} (h : Sim st svc)
    {r : RoomId} {e : Envelope} {rest : List Envelope} {room : RoomState Card}
    (hbox : st.mailboxes r = e :: rest) {svc' : AppRoomService Card} {tasks' : List Task}
    (hrooms : svc'.rooms = (tellRoom config env svc r room e.cmd).rooms)
    (hjoined : ∀ r' s, s ∈ joinedIn svc' r' ↔ s ∈ joinedIn svc r' ∨ (r' = r ∧ e.cmd = .join s))
    (hkeys : KeysLe svc'.chainTxRepo st.service.chainTxRepo)
    (hfree : ∀ (j : ℕ) u, tasks'[j]? = some u → 3 ≤ u.stage.rank → ∀ b, u.request.binding = some b →
      Free svc'.chainTxRepo b)
    (htasks : ∀ (j : ℕ) u, tasks'[j]? = some u →
      st.tasks[j]? = some u ∨ ∃ result, u.stage = .answered result)
    (hkeep : ∀ r' e', e' ∈ Function.update st.mailboxes r rest r' → ∀ j, e'.sender = some j →
      tasks'[j]? = st.tasks[j]?) :
    Sim { service := tellRoom config env st.service r room e.cmd
          mailboxes := Function.update st.mailboxes r rest, tasks := tasks' } svc' := by
  have hmem : ∀ {r' e'}, e' ∈ Function.update st.mailboxes r rest r' → e' ∈ st.mailboxes r' := by
    intro r' e' he'
    by_cases hr : r' = r
    · subst hr
      rw [Function.update_self] at he'
      rw [hbox]
      exact List.mem_cons_of_mem e he'
    · rwa [Function.update_of_ne hr] at he'
  have hpromised : ∀ {r' s}, Promised st svc r' s → Promised
      { service := tellRoom config env st.service r room e.cmd
        mailboxes := Function.update st.mailboxes r rest, tasks := tasks' } svc' r' s := by
    rintro r' s (hs | ⟨e', he', hopens⟩)
    · exact .inl ((hjoined r' s).2 (.inl hs))
    · by_cases hr : r' = r
      · subst hr
        rw [hbox] at he'
        rcases List.mem_cons.1 he' with rfl | he'
        · exact .inl ((hjoined r' s).2 (.inr ⟨rfl, hopens⟩))
        · refine .inr ⟨e', ?_, hopens⟩
          show e' ∈ Function.update st.mailboxes r' rest r'
          rwa [Function.update_self]
      · refine .inr ⟨e', ?_, hopens⟩
        show e' ∈ Function.update st.mailboxes r rest r'
        rwa [Function.update_of_ne hr]
  have hgrow := grows_tellRoom config env st.service r room e.cmd
  exact
    { rooms := by rw [hrooms, tellRoom, tellRoom, h.rooms]
      keysLe := hkeys
      tasks := fun j u hu => by
        rcases htasks j u hu with hu | ⟨result, hans⟩
        · exact (h.tasks j u hu).mono hgrow
        · exact taskOk_of_rank (by rw [hans]; rfl)
      free := hfree
      apart := fun j k u v hu hv hjk hru hrv => by
        have hold : ∀ {j : ℕ} {u}, tasks'[j]? = some u → 3 ≤ u.stage.rank → st.tasks[j]? = some u := by
          intro j u hu hr
          refine (htasks j u hu).resolve_right fun ⟨result, hans⟩ => ?_
          rw [hans] at hr
          exact absurd hr (by simp [Stage.rank])
        exact h.apart j k u v (hold hu hru) (hold hv hrv) hjk hru hrv
      envelopes := fun r' e' he' => by
        obtain ⟨hroom, hown, hfrom⟩ := h.envelopes r' e' (hmem he')
        refine ⟨hgrow.rooms _ hroom, hown, fun j hj => ?_⟩
        obtain ⟨u, hu, hrest⟩ := hfrom j hj
        exact ⟨u, (hkeep r' e' he' j hj).trans hu, hrest⟩
      senders := fun r' => by
        have hold := h.senders r'
        by_cases hr : r' = r
        · subst hr
          rw [hbox] at hold
          show ((Function.update st.mailboxes r' rest r').filterMap Envelope.sender).Nodup
          rw [Function.update_self]
          exact hold.sublist ((List.sublist_cons_self e rest).filterMap _)
        · show ((Function.update st.mailboxes r rest r').filterMap Envelope.sender).Nodup
          rwa [Function.update_of_ne hr]
      covered := fun r' => by
        have hold := h.covered r'
        by_cases hr : r' = r
        · subst hr
          rw [hbox] at hold
          show Covered Opens Needs _ (Function.update st.mailboxes r' rest r')
          rw [Function.update_self]
          exact hold.2.mono fun s hs => (hjoined r' s).2 (hs.imp_right fun hs => ⟨rfl, hs⟩)
        · show Covered Opens Needs _ (Function.update st.mailboxes r rest r')
          rw [Function.update_of_ne hr]
          exact hold.mono fun s hs => (hjoined r' s).2 (.inl hs)
      promised := fun r' s hs => hpromised (h.promised r' s hs)
      joining := fun j request hu => by
        refine hpromised (h.joining j request ((htasks j _ hu).resolve_right ?_))
        rintro ⟨result, hans⟩
        cases hans }

theorem awaitsReply_of_binding {b : TxBindingInsert} (hb : request.binding = some b) :
    request.awaitsReply = true := by
  cases request with
  | act r => rfl
  | _ => cases hb

theorem sender_unique (h : Sim st svc) {r : RoomId} {e : Envelope} {rest : List Envelope}
    (hbox : st.mailboxes r = e :: rest) {t : Task} (hsender : e.sender = some i)
    (ht : st.tasks[i]? = some t) (hroom : t.request.roomId = r) {r' : RoomId} {e' : Envelope}
    (he' : e' ∈ Function.update st.mailboxes r rest r') : e'.sender ≠ some i := by
  intro hsender'
  by_cases hr : r' = r
  · subst hr
    rw [Function.update_self] at he'
    have hnodup := h.senders r'
    rw [hbox, List.filterMap_cons_some hsender, List.nodup_cons] at hnodup
    exact hnodup.1 (List.mem_filterMap.2 ⟨e', he', hsender'⟩)
  · rw [Function.update_of_ne hr] at he'
    obtain ⟨t', ht', hroom', -⟩ := (h.envelopes r' e' he').sent i hsender'
    obtain rfl := Option.some.inj (ht.symm.trans ht')
    exact hr (hroom'.symm.trans hroom)

/-- An answer ends the task that waits for it and leaves the others as they are. -/
theorem answer_cases {tasks : List Task} {t : Task} (ht : tasks[i]? = some t)
    (hreply : t.request.awaitsReply = true → t.stage = .sent) (result : Except RpcGatewayError Unit) :
    (t.request.awaitsReply = false ∧ answer tasks (some i) result = tasks) ∨
      (t.request.awaitsReply = true ∧
        answer tasks (some i) result = tasks.set i ⟨t.request, .answered result⟩) := by
  obtain ⟨request, stage⟩ := t
  unfold answer
  dsimp only
  rw [ht]
  cases hawaits : request.awaitsReply with
  | false =>
    refine .inl ⟨rfl, ?_⟩
    cases stage with
    | sent => exact if_neg (by rw [hawaits]; decide)
    | _ => rfl
  | true =>
    obtain rfl : stage = .sent := hreply hawaits
    exact .inr ⟨rfl, if_pos hawaits⟩

/-- The command of a task is handled at once by the other service. -/
theorem deliverTask [RsPoker Card] (config : RoomActorConfig) (env : RoomEnv Card) (h : Sim st svc)
    {r : RoomId} {e : Envelope} {rest : List Envelope} {room : RoomState Card}
    (hbox : st.mailboxes r = e :: rest) (hroom : st.service.rooms.lookup r = some room)
    (hsender : e.sender = some i) :
    ∃ t, st.tasks[i]? = some t ∧
      Sim { service := tellRoom config env st.service r room e.cmd
            mailboxes := Function.update st.mailboxes r rest
            tasks := answer st.tasks e.sender (reply room e.cmd) }
        (serviceStep config svc (inputOf env t.request)) := by
  have hmem : e ∈ st.mailboxes r := by rw [hbox]; exact List.mem_cons_self
  obtain ⟨t, ht, rfl, hcmd, hreply, -⟩ := (h.envelopes r e hmem).sent i hsender
  have hsent : ∀ b, t.request.binding = some b → 3 ≤ t.stage.rank := by
    intro b hb
    rw [hreply (awaitsReply_of_binding hb)]
    decide
  have hcovered := h.covered t.request.roomId
  rw [hbox] at hcovered
  have hhandled : Handled config env svc t.request room e.cmd
      (serviceStep config svc (inputOf env t.request)) := by
    refine handled_inputOf config env (by rwa [h.rooms]) hcmd (fun s hs => hcovered.1 s ?_)
      fun b hb => h.free i t ht (hsent b hb) b hb
    rw [Needs, commandSeat_of_command hcmd, hs]
  refine ⟨t, ht, h.deliver hbox hhandled.rooms hhandled.joined
    (hhandled.keysLe _ h.keysLe fun b hb => (h.tasks i t ht).taken (hsent b hb) b hb) ?_ ?_ ?_⟩
  all_goals
    rw [hsender]
    rcases answer_cases ht hreply (reply room e.cmd) with ⟨hawaits, heq⟩ | ⟨-, heq⟩
    all_goals rw [heq]
  · intro j u hu hr b hb
    refine hhandled.free b (h.free j u hu hr b hb) fun b' hb' => ?_
    rw [awaitsReply_of_binding hb'] at hawaits
    cases hawaits
  · intro j u hu hr b hb
    rcases getElem?_set_cases hu with ⟨-, rfl⟩ | ⟨hji, hu⟩
    · exact absurd hr (by simp [Stage.rank])
    · exact hhandled.free b (h.free j u hu hr b hb) fun b' hb' =>
        h.apart j i u t hu ht hji hr (hsent b' hb') b b' hb hb'
  · exact fun j u hu => .inl hu
  · intro j u hu
    rcases getElem?_set_cases hu with ⟨-, rfl⟩ | ⟨-, hu⟩
    · exact .inr ⟨_, rfl⟩
    · exact .inl hu
  · exact fun r' e' _ j _ => rfl
  · intro r' e' he' j hj
    have hji : i ≠ j := by
      rintro rfl
      exact h.sender_unique hbox hsender ht rfl he' hj
    exact List.getElem?_set_ne hji

/-- Every command that is taken out of a mailbox is handled at once by the other service. -/
theorem deliverStep [RsPoker Card] (config : RoomActorConfig) (env : RoomEnv Card) (h : Sim st svc)
    (r : RoomId) : Sim (Concurrent.deliver config st env r) (run (serviceStep config) svc
      ((deliveredBy st (.deliver env r)).map (handledInput (st.tasks.map Task.request)))) := by
  unfold Concurrent.deliver deliveredBy
  dsimp only
  cases hbox : st.mailboxes r with
  | nil => exact h
  | cons e rest =>
    cases hroom : st.service.rooms.lookup r with
    | none => exact h
    | some room =>
      dsimp only
      rw [List.map_singleton, run_cons, run_nil, handledInput]
      cases hsender : e.sender with
      | none =>
        have hmem : e ∈ st.mailboxes r := by rw [hbox]; exact List.mem_cons_self
        obtain ⟨-, hjoin, hint⟩ := own_spec ((h.envelopes r e hmem).own hsender)
        have hstep : serviceStep config svc (.internal env r e.cmd) =
            tellRoom config env svc r room e.cmd := by
          rw [serviceStep, h.rooms, hroom]
          exact if_pos hint
        dsimp only
        rw [hstep]
        refine h.deliver hbox rfl (fun r' s => ?_) h.keysLe h.free (fun j u hu => .inl hu)
          fun _ _ _ _ _ => rfl
        simp [joinedIn, tellRoom, hjoin s]
      | some i =>
        obtain ⟨t, ht, hsim⟩ := h.deliverTask config env hbox hroom hsender
        rw [hsender] at hsim
        dsimp only
        rw [List.getElem?_map, ht]
        exact hsim

/-- A task that is resumed moves on or waits; only a callback opens a room. -/
theorem resumeStep [RsPoker Card] (config : RoomActorConfig) (h : Sim st svc) (i : ℕ) :
    Sim (resume st i) (run (serviceStep config) svc
      ((openedBy st (.resume i)).map fun room => .createRoom room.1 room.2)) := by
  unfold resume openedBy
  dsimp only
  cases hi : st.tasks[i]? with
  | none => exact h
  | some t =>
    obtain ⟨request, stage⟩ := t
    cases stage with
    | called => exact h.moveCheck hi
    | checked => exact h.moveFind config hi
    | found => exact h.moveWrite hi
    | written =>
      dsimp only
      split
      · exact h
      · rename_i hcmd
        split_ifs
        · exact h.moveSend hi hcmd
        · exact h
    | sent =>
      dsimp only
      split_ifs with hreply
      · exact h
      · exact h.moveRecord hi (Bool.eq_false_iff.2 hreply)
    | answered result => exact h

theorem call (h : Sim st svc) (request : ServiceRequest) :
    Sim { st with tasks := st.tasks ++ [⟨request, .called⟩] } svc := by
  have hcases : ∀ {j : ℕ} {u}, (st.tasks ++ [⟨request, .called⟩])[j]? = some u →
      st.tasks[j]? = some u ∨ u = ⟨request, .called⟩ := by
    intro j u hu
    rw [List.getElem?_append] at hu
    split_ifs at hu
    · exact .inl hu
    · exact .inr (List.mem_singleton.1 (List.mem_of_getElem? hu))
  have hold : ∀ {j : ℕ} {u}, (st.tasks ++ [⟨request, .called⟩])[j]? = some u → 3 ≤ u.stage.rank →
      st.tasks[j]? = some u := by
    intro j u hu hr
    refine (hcases hu).resolve_right ?_
    rintro rfl
    exact absurd hr (by simp [Stage.rank])
  exact
    { rooms := h.rooms
      keysLe := h.keysLe
      tasks := fun j u hu => by
        rcases hcases hu with hu | rfl
        · exact h.tasks j u hu
        · exact taskOk_of_rank rfl
      free := fun j u hu hr => h.free j u (hold hu hr) hr
      apart := fun j k u v hu hv hjk hru hrv =>
        h.apart j k u v (hold hu hru) (hold hv hrv) hjk hru hrv
      envelopes := fun r e he => by
        obtain ⟨hroom, hown, hfrom⟩ := h.envelopes r e he
        refine ⟨hroom, hown, fun j hj => ?_⟩
        obtain ⟨u, hu, hrest⟩ := hfrom j hj
        have hlt : j < st.tasks.length := (List.getElem?_eq_some_iff.1 hu).1
        exact ⟨u, (List.getElem?_append_left hlt).trans hu, hrest⟩
      senders := h.senders
      covered := h.covered
      promised := h.promised
      joining := fun j r hu => by
        rcases hcases hu with hu | heq
        · exact h.joining j r hu
        · cases heq }

end Sim

/-! ### Requests and tasks -/

theorem map_request_set {tasks : List Task} {i : ℕ} {request : ServiceRequest} {stage stage' : Stage}
    (h : tasks[i]? = some ⟨request, stage⟩) :
    (tasks.set i ⟨request, stage'⟩).map Task.request = tasks.map Task.request := by
  refine List.ext_getElem? fun j => ?_
  rw [List.getElem?_map, List.getElem?_map]
  by_cases hj : i = j
  · subst hj
    rw [getElem?_set_of h, h]
    rfl
  · rw [List.getElem?_set_ne hj]

theorem resume_requests (st : ServiceState Card) (i : ℕ) :
    (resume st i).tasks.map Task.request = st.tasks.map Task.request := by
  unfold resume
  split
  · rfl
  · rename_i hi
    split
    · exact map_request_set hi
    · exact map_request_set hi
    · exact map_request_set hi
    · split
      · rfl
      · split_ifs
        · exact map_request_set hi
        · rfl
    · split_ifs
      · rfl
      · exact map_request_set hi
    · rfl

theorem answer_requests (tasks : List Task) (sender : Option ℕ) (result : Except RpcGatewayError Unit) :
    (answer tasks sender result).map Task.request = tasks.map Task.request := by
  unfold answer
  split
  · rfl
  · split
    · rename_i hi
      split_ifs
      · exact map_request_set hi
      · rfl
    · rfl

theorem lettersTo_append (r : RoomId) (letters more : List (RoomId × Envelope)) :
    lettersTo r (letters ++ more) = lettersTo r letters ++ lettersTo r more := by
  rw [lettersTo, lettersTo, lettersTo, List.filter_append, List.map_append]

theorem mem_lettersTo {r : RoomId} {e : Envelope} {letters : List (RoomId × Envelope)} :
    e ∈ lettersTo r letters ↔ (r, e) ∈ letters := by
  simp [lettersTo]

theorem mailboxes_put (st : ServiceState Card) (r r' : RoomId) (e : Envelope) :
    (put st r' e).mailboxes r = st.mailboxes r ++ lettersTo r [(r', e)] := by
  by_cases hr : r' = r
  · subst hr
    rw [Sim.put_mailboxes_self, lettersTo, List.filter_cons_of_pos (by simp)]
    rfl
  · rw [Sim.put_mailboxes_ne st (Ne.symm hr), lettersTo, List.filter_cons_of_neg (by simpa using hr)]
    exact (List.append_nil _).symm

/-- The command was posted by somebody, or is that of a request which was called. -/
def Posted (moves : List (Move Card)) (letter : RoomId × Envelope) : Prop :=
  match letter.2.sender with
  | none => .post letter.1 letter.2.cmd ∈ moves
  | some i => ∃ request, (called moves)[i]? = some request ∧ request.roomId = letter.1 ∧
      request.command = .ok letter.2.cmd

theorem called_concat (moves : List (Move Card)) (move : Move Card) :
    called (moves ++ [move]) = called moves ++ called [move] :=
  List.filterMap_append

theorem Posted.mono {moves : List (Move Card)} {letter : RoomId × Envelope} (h : Posted moves letter)
    (move : Move Card) : Posted (moves ++ [move]) letter := by
  unfold Posted at h ⊢
  split at h
  · exact List.mem_append_left _ h
  · obtain ⟨request, hi, hrest⟩ := h
    refine ⟨request, ?_, hrest⟩
    have hlt := (List.getElem?_eq_some_iff.1 hi).1
    rw [called_concat]
    exact (List.getElem?_append_left hlt).trans hi

theorem opensRoom_handledInput (requests : List ServiceRequest) (d : Delivery Card) :
    opensRoom (handledInput requests d) = false := by
  unfold handledInput
  split
  · rfl
  split
  · rename_i request _
    cases request <;> rfl
  · rfl

/-- Later calls do not change what a delivered command stands for. -/
theorem handledInput_concat {moves : List (Move Card)} {d : Delivery Card} (h : Posted moves d.letter)
    (move : Move Card) : handledInput (called (moves ++ [move])) d = handledInput (called moves) d := by
  unfold Posted at h
  unfold handledInput
  cases hsender : d.envelope.sender with
  | none => rfl
  | some i =>
    simp only [Delivery.letter, hsender] at h
    obtain ⟨request, hi, -⟩ := h
    have hlt := (List.getElem?_eq_some_iff.1 hi).1
    dsimp only
    rw [called_concat, List.getElem?_append_left hlt]

/-- A move delivers or calls, and not both. -/
theorem deliveredBy_eq_nil_or (st : ServiceState Card) (move : Move Card) :
    deliveredBy st move = [] ∨ called [move] = [] := by
  cases move with
  | deliver env r => exact .inr rfl
  | createRoom r handId => exact .inl rfl
  | call request => exact .inl rfl
  | resume i => exact .inl rfl
  | post r cmd => exact .inl rfl

theorem filter_handledBy (st : ServiceState Card) (move : Move Card) :
    (handledBy st move).filter (fun input => !opensRoom input) =
      (deliveredBy st move).map (handledInput (st.tasks.map Task.request)) := by
  have hopens : ((openedBy st move).map fun room => (.createRoom room.1 room.2 : ServiceInput Card)).filter
      (fun input => !opensRoom input) = [] := by
    rw [List.filter_eq_nil_iff, List.forall_mem_map]
    intro room _
    simp [opensRoom]
  have hdelivers : ((deliveredBy st move).map (handledInput (st.tasks.map Task.request))).filter
      (fun input => !opensRoom input) =
        (deliveredBy st move).map (handledInput (st.tasks.map Task.request)) := by
    rw [List.filter_eq_self, List.forall_mem_map]
    intro d _
    rw [opensRoom_handledInput]
    rfl
  rw [handledBy, List.filter_append, hopens, hdelivers, List.nil_append]

/-- The task has its command behind it. -/
def HasSent (tasks : List Task) (i : ℕ) : Prop :=
  ∃ t, tasks[i]? = some t ∧ (t.stage = .sent ∨ ∃ result, t.stage = .answered result)

theorem HasSent.set {tasks : List Task} {i j : ℕ} {t : Task} (h : HasSent tasks i)
    (ht : j = i → t.stage = .sent ∨ ∃ result, t.stage = .answered result) :
    HasSent (tasks.set j t) i := by
  obtain ⟨u, hu, hstage⟩ := h
  by_cases hj : j = i
  · subst hj
    exact ⟨t, getElem?_set_of hu, ht rfl⟩
  · exact ⟨u, (List.getElem?_set_ne hj).trans hu, hstage⟩

theorem HasSent.resume {st : ServiceState Card} {i : ℕ} (h : HasSent st.tasks i) (j : ℕ) :
    HasSent (resume st j).tasks i := by
  have hearly : ∀ {request stage}, st.tasks[j]? = some ⟨request, stage⟩ → stage ≠ .sent →
      (∀ result, stage ≠ .answered result) → j ≠ i := by
    rintro request stage hj hsent hans rfl
    obtain ⟨t, ht, hstage⟩ := h
    obtain rfl := Option.some.inj (hj.symm.trans ht)
    rcases hstage with hstage | ⟨result, hstage⟩
    · exact hsent hstage
    · exact hans result hstage
  unfold Concurrent.resume
  split
  · exact h
  rename_i request stage hj
  split
  · exact h.set fun heq => absurd heq (hearly hj (by simp) (by simp))
  · exact h.set fun heq => absurd heq (hearly hj (by simp) (by simp))
  · exact h.set fun heq => absurd heq (hearly hj (by simp) (by simp))
  · split
    · exact h
    · split_ifs
      · exact h.set fun _ => .inl rfl
      · exact h
  · split_ifs
    · exact h
    · exact h.set fun _ => .inr ⟨_, rfl⟩
  · exact h

theorem HasSent.answer {tasks : List Task} {i : ℕ} (h : HasSent tasks i) (sender : Option ℕ)
    (result : Except RpcGatewayError Unit) : HasSent (answer tasks sender result) i := by
  unfold Concurrent.answer
  split
  · exact h
  split
  · split_ifs
    · exact h.set fun _ => .inr ⟨_, rfl⟩
    · exact h
  · exact h

section

variable [RsPoker Card]

/-- Every move is some steps of the service that handles requests at once. -/
theorem sim_moveStep (config : RoomActorConfig) (st : ServiceState Card) (svc : AppRoomService Card)
    (move : Move Card) (h : Sim st svc) :
    Sim (moveStep config st move) (run (serviceStep config) svc (handledBy st move)) := by
  cases move with
  | createRoom r handId => exact h.createRoom r handId
  | call request => exact h.call request
  | resume i =>
    rw [handledBy, deliveredBy, List.map_nil, List.append_nil]
    exact h.resumeStep config i
  | post r cmd =>
    rw [moveStep]
    split_ifs with hpost
    · exact h.post hpost.1 hpost.2.1
    · exact h
  | deliver env r => exact h.deliverStep config env r

theorem requests_moveStep (config : RoomActorConfig) (st : ServiceState Card) (move : Move Card) :
    (moveStep config st move).tasks.map Task.request = st.tasks.map Task.request ++ called [move] := by
  cases move with
  | createRoom r handId => exact (List.append_nil _).symm
  | call request => exact List.map_append
  | resume i => exact (resume_requests st i).trans (List.append_nil _).symm
  | post r cmd =>
    refine Eq.trans ?_ (List.append_nil _).symm
    rw [moveStep]
    split_ifs <;> rfl
  | deliver env r =>
    refine Eq.trans ?_ (List.append_nil _).symm
    rw [moveStep, deliver]
    split
    · exact answer_requests ..
    · rfl

theorem requests_run (config : RoomActorConfig) (moves : List (Move Card)) :
    (run (moveStep config) {} moves).tasks.map Task.request = called moves := by
  induction moves using List.reverseRecOn with
  | nil => rfl
  | append_singleton moves move ih =>
    rw [run_concat, requests_moveStep, ih, called_concat]

theorem HasSent.moveStep {config : RoomActorConfig} {st : ServiceState Card} {i : ℕ}
    (h : HasSent st.tasks i) (move : Move Card) : HasSent (moveStep config st move).tasks i := by
  cases move with
  | createRoom r handId => exact h
  | call request =>
    obtain ⟨t, ht, hstage⟩ := h
    have hlt : i < st.tasks.length := (List.getElem?_eq_some_iff.1 ht).1
    exact ⟨t, (List.getElem?_append_left hlt).trans ht, hstage⟩
  | resume j => exact h.resume j
  | post r cmd =>
    rw [Concurrent.moveStep]
    split_ifs <;> exact h
  | deliver env r =>
    rw [Concurrent.moveStep, deliver]
    split
    · exact h.answer ..
    · exact h

/-! ### Runs -/

/-- **A mailbox is a queue**: what a move takes out of it and what is in it afterwards are what was in it
before and what the move puts into it. -/
theorem mailboxes_moveStep (config : RoomActorConfig) (st : ServiceState Card) (move : Move Card)
    (r : RoomId) :
    lettersTo r ((deliveredBy st move).map Delivery.letter) ++ (moveStep config st move).mailboxes r =
      st.mailboxes r ++ lettersTo r (sentBy st move) := by
  cases move with
  | createRoom r' handId => exact (List.append_nil _).symm
  | call request => exact (List.append_nil _).symm
  | post r' cmd =>
    show (moveStep config st (.post r' cmd)).mailboxes r = _
    rw [moveStep, sentBy]
    split_ifs
    · exact mailboxes_put ..
    · exact (List.append_nil _).symm
  | resume i =>
    show (resume st i).mailboxes r = _
    unfold resume sentBy
    dsimp only
    cases hi : st.tasks[i]? with
    | none => exact (List.append_nil _).symm
    | some t =>
      obtain ⟨request, stage⟩ := t
      cases stage with
      | written =>
        dsimp only
        cases request.command with
        | error e => exact (List.append_nil _).symm
        | ok cmd =>
          dsimp only
          split_ifs
          · exact mailboxes_put ..
          · exact (List.append_nil _).symm
      | sent =>
        dsimp only
        split_ifs <;> exact (List.append_nil _).symm
      | _ => exact (List.append_nil _).symm
  | deliver env r' =>
    rw [moveStep, deliver, deliveredBy, sentBy]
    cases hbox : st.mailboxes r' with
    | nil => exact (List.append_nil _).symm
    | cons e rest =>
      cases hroom : st.service.rooms.lookup r' with
      | none => exact (List.append_nil _).symm
      | some room =>
        refine Eq.trans ?_ (List.append_nil _).symm
        show lettersTo r [(r', e)] ++ Function.update st.mailboxes r' rest r = _
        by_cases hr : r' = r
        · subst hr
          rw [Function.update_self, hbox, lettersTo, List.filter_cons_of_pos (by simp)]
          rfl
        · rw [Function.update_of_ne (Ne.symm hr), lettersTo,
            List.filter_cons_of_neg (by simpa using hr)]
          rfl

theorem mailboxes_run (config : RoomActorConfig) (moves : List (Move Card)) (r : RoomId) :
    lettersTo r (outputs (moveStep config) sentBy {} moves) =
      lettersTo r ((outputs (moveStep config) deliveredBy {} moves).map Delivery.letter) ++
        (run (moveStep config) {} moves).mailboxes r := by
  induction moves using List.reverseRecOn with
  | nil => rfl
  | append_singleton moves move ih =>
    rw [outputs_concat, lettersTo_append, ih, outputs_concat, List.map_append, lettersTo_append,
      run_concat, List.append_assoc, List.append_assoc, mailboxes_moveStep]

/-- What a move puts into a mailbox is posted, or comes from a task that has not sent anything before. -/
theorem sentBy_cases (config : RoomActorConfig) {st : ServiceState Card} {move : Move Card}
    {letter : RoomId × Envelope} (h : letter ∈ sentBy st move) :
    (letter.2.sender = none ∧ move = .post letter.1 letter.2.cmd) ∨
      ∃ i request, letter = (request.roomId, ⟨some i, letter.2.cmd⟩) ∧
        sentBy st move = [letter] ∧ st.tasks[i]? = some ⟨request, .written⟩ ∧
        request.command = .ok letter.2.cmd ∧ HasSent (moveStep config st move).tasks i := by
  cases move with
  | post r cmd =>
    rw [sentBy] at h
    split_ifs at h
    · obtain rfl := List.mem_singleton.1 h
      exact .inl ⟨rfl, rfl⟩
    · cases h
  | resume i =>
    rw [sentBy] at h ⊢
    split at h
    · rename_i request hi
      split at h
      · cases h
      · rename_i cmd hcmd
        split_ifs at h with hroom
        · obtain rfl := List.mem_singleton.1 h
          refine .inr ⟨i, request, rfl, ?_, hi, hcmd, ⟨request, .sent⟩, ?_, .inl rfl⟩
          · exact if_pos hroom
          · rw [moveStep, resume, hi]
            dsimp only
            rw [hcmd]
            dsimp only
            rw [if_pos hroom]
            exact getElem?_set_of hi
        · cases h
    · cases h
  | createRoom r handId => cases h
  | call request => cases h
  | deliver env r => cases h

theorem senders_run (config : RoomActorConfig) (moves : List (Move Card)) :
    ((outputs (moveStep config) sentBy {} moves).filterMap fun letter => letter.2.sender).Nodup ∧
      ∀ i ∈ (outputs (moveStep config) sentBy {} moves).filterMap fun letter => letter.2.sender,
        HasSent (run (moveStep config) {} moves).tasks i := by
  induction moves using List.reverseRecOn with
  | nil => exact ⟨.nil, fun _ h => absurd h List.not_mem_nil⟩
  | append_singleton moves move ih =>
    obtain ⟨hnodup, hsent⟩ := ih
    rw [outputs_concat, List.filterMap_append, run_concat]
    generalize run (moveStep config) {} moves = st at hsent ⊢
    have hkept : ∀ i ∈ (outputs (moveStep config) sentBy {} moves).filterMap
        fun letter => letter.2.sender, HasSent (moveStep config st move).tasks i :=
      fun i hi => (hsent i hi).moveStep move
    by_cases hnew : ∃ i request cmd, sentBy st move = [(request.roomId, ⟨some i, cmd⟩)] ∧
        st.tasks[i]? = some ⟨request, .written⟩ ∧ HasSent (moveStep config st move).tasks i
    · obtain ⟨i, request, cmd, heq, hi, hdone⟩ := hnew
      have hfresh : i ∉ (outputs (moveStep config) sentBy {} moves).filterMap
          fun letter => letter.2.sender := by
        intro hmem
        obtain ⟨t, ht, hstage⟩ := hsent i hmem
        obtain rfl := Option.some.inj (hi.symm.trans ht)
        rcases hstage with hstage | ⟨result, hstage⟩ <;> cases hstage
      rw [heq]
      refine ⟨List.nodup_append.2 ⟨hnodup, List.nodup_singleton _, ?_⟩, fun j hj => ?_⟩
      · intro a ha b hb hab
        rw [hab, List.mem_singleton.1 hb] at ha
        exact hfresh ha
      · rcases List.mem_append.1 hj with hj | hj
        · exact hkept j hj
        · rw [List.mem_singleton.1 hj]
          exact hdone
    · have hnone : (sentBy st move).filterMap (fun letter => letter.2.sender) = [] := by
        refine List.filterMap_eq_nil_iff.2 fun letter hletter => ?_
        rcases sentBy_cases config hletter with ⟨hsender, -⟩ | ⟨i, request, heq, hall, hi, -, hdone⟩
        · exact hsender
        · exact absurd ⟨i, request, letter.2.cmd, hall.trans (by rw [← heq]), hi, hdone⟩ hnew
      rw [hnone, List.append_nil]
      exact ⟨hnodup, hkept⟩

theorem posted_run (config : RoomActorConfig) (moves : List (Move Card)) :
    ∀ letter ∈ outputs (moveStep config) sentBy {} moves, Posted moves letter := by
  induction moves using List.reverseRecOn with
  | nil => exact List.forall_mem_nil _
  | append_singleton moves move ih =>
    intro letter hletter
    rw [outputs_concat] at hletter
    rcases List.mem_append.1 hletter with hold | hnew
    · exact (ih letter hold).mono move
    · rcases sentBy_cases config hnew with ⟨hsender, rfl⟩ | ⟨i, request, heq, -, hi, hcmd, -⟩
      · rw [Posted, hsender]
        exact List.mem_append_right _ List.mem_cons_self
      · have hposted : Posted moves letter := by
          rw [Posted, heq]
          refine ⟨request, ?_, rfl, hcmd⟩
          rw [← requests_run config, List.getElem?_map, hi]
          rfl
        exact hposted.mono move

theorem posted_delivered (config : RoomActorConfig) (moves : List (Move Card)) :
    ∀ d ∈ outputs (moveStep config) deliveredBy {} moves, Posted moves d.letter := by
  intro d hd
  have hdelivered : d.envelope ∈ lettersTo d.roomId
      ((outputs (moveStep config) deliveredBy {} moves).map Delivery.letter) :=
    mem_lettersTo.2 (List.mem_map_of_mem hd)
  have hsent := List.mem_append_left ((run (moveStep config) {} moves).mailboxes d.roomId) hdelivered
  rw [← mailboxes_run] at hsent
  exact posted_run config moves _ (mem_lettersTo.1 hsent)

/-- **What is handled is what is delivered**: apart from the rooms that are opened, the inputs are the
delivered commands in their order. -/
theorem handled_run (config : RoomActorConfig) (moves : List (Move Card)) :
    (outputs (moveStep config) handledBy {} moves).filter (fun input => !opensRoom input) =
      (outputs (moveStep config) deliveredBy {} moves).map (handledInput (called moves)) := by
  induction moves using List.reverseRecOn with
  | nil => rfl
  | append_singleton moves move ih =>
    have hearlier : (outputs (moveStep config) deliveredBy {} moves).map (handledInput (called moves)) =
        (outputs (moveStep config) deliveredBy {} moves).map (handledInput (called (moves ++ [move]))) :=
      List.map_congr_left fun d hd => (handledInput_concat (posted_delivered config moves d hd) move).symm
    rw [outputs_concat, List.filter_append, ih, hearlier, filter_handledBy, requests_run, outputs_concat,
      List.map_append]
    rcases deliveredBy_eq_nil_or (run (moveStep config) {} moves) move with hnone | hnone
    · rw [hnone]
      rfl
    · rw [called_concat, hnone, List.append_nil]

/-- **The rooms do not notice the mailboxes**: for every interleaving of requests, callbacks, timers and
rooms, the rooms are in the states to which the service that handles requests at once comes if it opens the
rooms when they are opened and else takes exactly the delivered commands, in the order of the deliveries.
What is delivered to a room, and then what waits in its mailbox, is what was sent to it, in this order; it
was posted by somebody or is the command of a request that was called, and no request is sent twice. -/
theorem rooms_handle_deliveries (config : RoomActorConfig) (moves : List (Move Card)) :
    let st := run (moveStep config) {} moves
    let sent := outputs (moveStep config) sentBy {} moves
    let delivered := outputs (moveStep config) deliveredBy {} moves
    let handled := outputs (moveStep config) handledBy {} moves
    (run (serviceStep config) {} handled).rooms = st.service.rooms ∧
      handled.filter (fun input => !opensRoom input) = delivered.map (handledInput (called moves)) ∧
      (∀ r, lettersTo r sent = lettersTo r (delivered.map Delivery.letter) ++ st.mailboxes r) ∧
      (sent.filterMap fun letter => letter.2.sender).Nodup ∧
      ∀ letter ∈ sent, Posted moves letter :=
  ⟨(run_simulates Sim handledBy (fun st svc move h => sim_moveStep config st svc move h) moves
      sim_init).rooms,
    handled_run config moves, mailboxes_run config moves, (senders_run config moves).1, posted_run config moves⟩

end

end HoldemPlatform.Service.Concurrent
