import HoldemPlatform.Service.Concurrent.Deliveries

/-!
# The Commands of a Seat

A room drops the address, the keys and the `Ready` of a seat that is not seated. The service answers
these requests when the command is in the mailbox, so the answer would be worth nothing if the room
could drop it later. It cannot: the join of the seat stands in front of it (`seat_command_takes_effect`).

The service keeps the address of a seat a second time, and writes it before the command is sent. Two
requests of one seat that overlap there can leave the service with one address and the room with the
other (`overlap_splits_addresses`). Without such an overlap the two agree as soon as nothing is on the
way (`addresses_agree`).
-/

namespace HoldemPlatform.Service.SeatCommands

open HoldemPlatform.Lib.FiniteMap HoldemPlatform.Lib.Run HoldemPlatform.Lib.Interleaving
open HoldemPlatform.Domain.Game HoldemPlatform.Engine.State HoldemPlatform.Chain.TxRepo
open HoldemPlatform.Room.Actor HoldemPlatform.Room.Effect HoldemPlatform.Gateway.Requests
open HoldemPlatform.Service.RoomService HoldemPlatform.Service.Payments
open HoldemPlatform.Service.Concurrent

variable {Card : Type}

/-! ### Nobody sends a `Leave` -/

theorem not_leave {st : ServiceState Card} {r : RoomId} {e : Envelope} (h : EnvelopeOk st r e) (s : SeatId) :
    e.cmd ≠ .leave s := by
  intro heq
  cases hsender : e.sender with
  | none =>
    have hown := h.own hsender
    rw [heq] at hown
    cases hown
  | some i =>
    obtain ⟨t, -, -, hcmd, -⟩ := h.sent i hsender
    rw [heq] at hcmd
    cases hreq : t.request with
    | act act =>
      rw [hreq, ServiceRequest.command] at hcmd
      split at hcmd
      · cases hcmd
      · split at hcmd <;> cases hcmd
    | _ => rw [hreq] at hcmd; cases hcmd

theorem handledBy_ne_leave {st : ServiceState Card} {svc : AppRoomService Card} (h : Sim st svc)
    {move : Move Card} {input : ServiceInput Card} (hmem : input ∈ handledBy st move) (env : RoomEnv Card)
    (r : RoomId) (s : SeatId) : input ≠ .internal env r (.leave s) := by
  rintro rfl
  rcases List.mem_append.1 hmem with hopen | hdeliver
  · obtain ⟨room, -, heq⟩ := List.mem_map.1 hopen
    cases heq
  · obtain ⟨d, hd, heq⟩ := List.mem_map.1 hdeliver
    cases move with
    | deliver env' r' =>
      rw [deliveredBy] at hd
      split at hd
      · rename_i e rest room hbox hroom
        obtain rfl := List.mem_singleton.1 hd
        have hok : EnvelopeOk st r' e := h.envelopes r' e (by rw [hbox]; exact List.mem_cons_self)
        rw [handledInput] at heq
        cases hsender : e.sender with
        | none =>
          rw [hsender] at heq
          exact not_leave hok s (ServiceInput.internal.inj heq).2.2
        | some i =>
          obtain ⟨t, ht, -⟩ := hok.sent i hsender
          rw [hsender] at heq
          dsimp only at heq
          rw [List.getElem?_map, ht] at heq
          obtain ⟨request, stage⟩ := t
          cases request <;> cases heq
      · cases hd
    | createRoom r' handId => cases hd
    | call request => cases hd
    | resume i => cases hd
    | post r' cmd => cases hd

/-! ### Who has joined is seated -/

/-- The seats that have joined are seated. -/
def SeatInv (svc : AppRoomService Card) : Prop :=
  ∀ r s, s ∈ joinedIn svc r → ∃ room, svc.rooms.lookup r = some room ∧ s ∈ room.seated

/-- The rooms of the second service have the seats of the first. -/
def SeatsKept (svc svc' : AppRoomService Card) : Prop :=
  ∀ r room s, svc.rooms.lookup r = some room → s ∈ room.seated →
    ∃ room', svc'.rooms.lookup r = some room' ∧ s ∈ room'.seated

theorem SeatInv.kept {svc svc' : AppRoomService Card} (h : SeatInv svc) (hkept : SeatsKept svc svc')
    (hjoined : svc'.joinedSeats = svc.joinedSeats) : SeatInv svc' := by
  intro r s hs
  rw [joinedIn, hjoined] at hs
  obtain ⟨room, hroom, hmem⟩ := h r s hs
  exact hkept r room s hroom hmem

theorem seatsKept_of_rooms {svc svc' : AppRoomService Card} (h : svc'.rooms = svc.rooms) :
    SeatsKept svc svc' :=
  fun _ room _ hroom hs => ⟨room, by rwa [h], hs⟩

theorem seatsKept_ensureRoom (svc : AppRoomService Card) (r : RoomId) (handId : HandId) :
    SeatsKept svc (ensureRoom svc r handId) := by
  intro r' room s hroom hs
  unfold ensureRoom
  split_ifs with hmem
  · exact ⟨room, hroom, hs⟩
  · exact ⟨room, lookup_insert_of_some hmem hroom, hs⟩

/-- The service is one that some service which handles requests at once stands behind. -/
def Sound (st : ServiceState Card) : Prop := ∃ svc, Sim st svc ∧ SeatInv svc

theorem sound_init : Sound ({} : ServiceState Card) :=
  ⟨{}, sim_init, fun r s hs => by simp [joinedIn] at hs⟩

theorem Sound.seated {st : ServiceState Card} (h : Sound st) {r : RoomId} {e : Envelope}
    {rest : List Envelope} {room : RoomState Card} (hbox : st.mailboxes r = e :: rest)
    (hroom : st.service.rooms.lookup r = some room) {s : SeatId} (hs : commandSeat e.cmd = some s) :
    s ∈ room.seated := by
  obtain ⟨svc, hsim, hseat⟩ := h
  have hcovered := hsim.covered r
  rw [hbox] at hcovered
  obtain ⟨room', hroom', hmem⟩ := hseat r s (hcovered.1 s hs)
  rw [hsim.rooms, hroom] at hroom'
  cases hroom'
  exact hmem

/-- What the command of a seat asks for is in the registers. -/
def Took (registers : Registers) : RoomCommand → Prop
  | .ready s => s ∈ registers.ready
  | .bindAddress s address => registers.boundAddresses.lookup s = some address
  | .bindSessionKeys s cardEncryptPubkey requestVerifyPubkey _ _ =>
    registers.cardPubkeys.lookup s = some cardEncryptPubkey ∧
      registers.requestPubkeys.lookup s = some requestVerifyPubkey
  | _ => True

theorem took_registerStep {registers : Registers} {cmd : RoomCommand}
    (h : ∀ s, commandSeat cmd = some s → s ∈ registers.seated) :
    Took (registerStep registers cmd) cmd := by
  cases cmd with
  | ready s =>
    rw [registerStep, if_pos (h s rfl)]
    exact Finset.mem_insert_self s _
  | bindAddress s address =>
    rw [registerStep, if_pos (h s rfl)]
    exact AList.lookup_insert _
  | bindSessionKeys s card request algo proof =>
    rw [registerStep, if_pos (h s rfl)]
    exact ⟨AList.lookup_insert _, AList.lookup_insert _⟩
  | _ => trivial

section

variable [RsPoker Card] {config : RoomActorConfig} {env : RoomEnv Card}

theorem seated_roomStep {room : RoomState Card} {cmd : RoomCommand} (hcmd : ∀ s, cmd ≠ .leave s) :
    room.seated ⊆ (roomStep config env room cmd).1.seated := by
  have hreg : (roomStep config env room cmd).1.seated = (registerStep room.registers cmd).seated :=
    congrArg Registers.seated (roomStep_registers config cmd)
  rw [hreg]
  cases cmd with
  | join s => exact Finset.subset_insert s room.seated
  | leave s => exact absurd rfl (hcmd s)
  | bindAddress s a =>
    rw [registerStep]
    split_ifs <;> exact Finset.Subset.refl _
  | bindSessionKeys s c q k p =>
    rw [registerStep]
    split_ifs <;> exact Finset.Subset.refl _
  | ready s =>
    rw [registerStep]
    split_ifs <;> exact Finset.Subset.refl _
  | _ => exact Finset.Subset.refl _

theorem seatsKept_tellRoom {svc : AppRoomService Card} {r : RoomId} {room : RoomState Card}
    (hroom : svc.rooms.lookup r = some room) {cmd : RoomCommand} (hcmd : ∀ s, cmd ≠ .leave s) :
    SeatsKept svc (tellRoom config env svc r room cmd) := by
  intro r' room' s hroom' hs
  by_cases hr : r' = r
  · subst hr
    obtain rfl := Option.some.inj (hroom.symm.trans hroom')
    exact ⟨_, AList.lookup_insert _, seated_roomStep hcmd hs⟩
  · exact ⟨room', by rw [tellRoom, AList.lookup_insert_ne hr]; exact hroom', hs⟩

/-- No step but the `Leave` of a room, which nobody sends, takes a seat from who has joined. -/
theorem seatInv_step (svc : AppRoomService Card) (input : ServiceInput Card)
    (hno : ∀ env r s, input ≠ .internal env r (.leave s)) (h : SeatInv svc) :
    SeatInv (serviceStep config svc input) := by
  cases input with
  | createRoom r handId =>
    refine h.kept (seatsKept_ensureRoom svc r handId) ?_
    show (ensureRoom svc r handId).joinedSeats = _
    unfold ensureRoom
    split_ifs <;> rfl
  | join env request =>
    rw [serviceStep, AppRoomService.join]
    split
    · exact h
    · rename_i room hroom
      have hkept : SeatsKept svc (tellRoom config env svc request.roomId room (.join request.seatId)) :=
        seatsKept_tellRoom hroom (by simp)
      intro r s hs
      rcases (mem_joinedIn_insert rfl r s).1 hs with hs | ⟨rfl, rfl⟩
      · obtain ⟨room', hroom', hmem⟩ := h r s hs
        exact hkept r room' s hroom' hmem
      · exact ⟨_, AList.lookup_insert _, Finset.mem_insert_self _ _⟩
  | ready env request =>
    rw [serviceStep, AppRoomService.ready]
    split
    · exact h
    split
    · exact h
    · rename_i hroom
      exact h.kept (seatsKept_tellRoom hroom (by simp)) rfl
  | bindAddress env request =>
    rw [serviceStep, AppRoomService.bindAddress]
    split
    · exact h
    split
    · exact h
    · rename_i room hroom
      have htell : SeatInv (tellRoom config env svc request.roomId room
          (.bindAddress request.seatId request.seatAddress)) :=
        h.kept (seatsKept_tellRoom hroom (by simp)) rfl
      exact htell.kept (seatsKept_of_rooms rfl) rfl
  | bindSessionKeys env request =>
    rw [serviceStep, AppRoomService.bindSessionKeys]
    split
    · exact h
    split
    · exact h
    · rename_i hroom
      exact h.kept (seatsKept_tellRoom hroom (by simp)) rfl
  | act env request =>
    rw [serviceStep, AppRoomService.act]
    split
    · exact h
    rename_i room hroom
    split
    · exact h
    rename_i action haction
    split
    · rename_i txHash hhash
      split
      · exact h
      · have htell : SeatInv (tellRoom config env svc request.roomId room
            (.queuePendingChainAction txHash action)) := h.kept (seatsKept_tellRoom hroom (by simp)) rfl
        exact htell.kept (seatsKept_of_rooms rfl) rfl
    · exact h.kept (seatsKept_tellRoom hroom (by simp)) rfl
  | callback env handId callback =>
    show SeatInv (onVerificationResult config env svc handId callback)
    have hensured : SeatInv (ensureRoom
        { svc with chainTxRepo := recordCallback svc.chainTxRepo callback } callback.roomId handId) := by
      have hrepo : SeatInv { svc with chainTxRepo := recordCallback svc.chainTxRepo callback } :=
        h.kept (seatsKept_of_rooms rfl) rfl
      refine hrepo.kept (seatsKept_ensureRoom _ _ _) ?_
      unfold ensureRoom
      split_ifs <;> rfl
    unfold onVerificationResult
    dsimp only
    split
    · exact hensured
    · rename_i hroom
      exact hensured.kept (seatsKept_tellRoom hroom (by simp)) rfl
  | internal env r cmd =>
    rw [serviceStep]
    split
    · exact h
    · rename_i room hroom
      split_ifs
      · refine h.kept (seatsKept_tellRoom hroom ?_) rfl
        rintro s rfl
        exact hno env r s rfl
      · exact h

theorem sound_step (config : RoomActorConfig) (st : ServiceState Card) (move : Move Card)
    (h : Sound st) : Sound (moveStep config st move) := by
  obtain ⟨svc, hsim, hseat⟩ := h
  have hall : AllSteps (serviceStep config)
      (fun _ input => ∀ env r s, input ≠ .internal env r (.leave s)) svc (handledBy st move) :=
    allSteps_of_forall fun input hmem => handledBy_ne_leave hsim hmem
  exact ⟨_, sim_moveStep config st svc move hsim,
    hall.run_inv SeatInv (fun svc input hno => seatInv_step svc input hno) hseat⟩

end

/-- **No command of a seat is dropped**: in every interleaving, when a room takes the address, the keys
or the `Ready` of a seat out of its mailbox, the seat is seated and the command takes effect. -/
theorem seat_command_takes_effect [RsPoker Card] (config : RoomActorConfig) (moves : List (Move Card))
    (env : RoomEnv Card) (r : RoomId) (e : Envelope) (rest : List Envelope) (room : RoomState Card)
    (hbox : (run (moveStep config) {} moves).mailboxes r = e :: rest)
    (hroom : (run (moveStep config) {} moves).service.rooms.lookup r = some room) :
    ∃ room', (run (moveStep config) {} (moves ++ [.deliver env r])).service.rooms.lookup r = some room' ∧
      Took room'.registers e.cmd := by
  have hsound : Sound (run (moveStep config) ({} : ServiceState Card) moves) :=
    run_inv Sound (sound_step config) moves sound_init
  refine ⟨(roomStep config env room e.cmd).1, ?_, ?_⟩
  · rw [run_concat, moveStep, deliver, hbox, hroom]
    exact AList.lookup_insert _
  · rw [roomStep_registers]
    exact took_registerStep fun s hs => hsound.seated hbox hroom hs

/-- A seat joins and binds its address; the room has handled the join. -/
def joinAndBind : List (Move ByteCard) :=
  [.createRoom ⟨0⟩ ⟨0⟩, .call (.join ⟨⟨0⟩, 0, tableMeta⟩), .resume 0, .resume 0, .resume 0, .resume 0,
    .resume 0, .call (.bindAddress ⟨⟨0⟩, 0, "0xa", tableMeta⟩), .resume 1, .resume 1, .resume 1,
    .resume 1, .deliver tableEnv ⟨0⟩]

/-- The address is bound when the room takes the command. -/
theorem bind_command_takes_effect :
    ∃ room', (run (moveStep {}) {} (joinAndBind ++ [.deliver tableEnv ⟨0⟩])).service.rooms.lookup ⟨0⟩ =
        some room' ∧ room'.boundAddresses.lookup 0 = some "0xa" :=
  seat_command_takes_effect {} joinAndBind tableEnv ⟨0⟩ ⟨some 1, .bindAddress 0 "0xa"⟩ [] _ rfl rfl

/-! ### The two copies of an address -/

/-- The address the command binds for the seat. -/
def addressFor (s : SeatId) : RoomCommand → Option String
  | .bindAddress s' address => if s' = s then some address else none
  | _ => none

/-- The address of the seat after the commands of a mailbox. -/
def lastAddress (s : SeatId) (address : Option String) (mailbox : List Envelope) : Option String :=
  mailbox.foldl (fun address e => (addressFor s e.cmd).or address) address

/-- The address the room has for the seat. -/
def roomAddress (svc : AppRoomService Card) (r : RoomId) (s : SeatId) : Option String :=
  (svc.rooms.lookup r).bind fun room => room.boundAddresses.lookup s

/-- The address the room will have when its mailbox is empty. -/
def dueAddress (st : ServiceState Card) (r : RoomId) (s : SeatId) : Option String :=
  lastAddress s (roomAddress st.service r s) (st.mailboxes r)

/-- The task has written the address of the seat and not sent it yet. -/
def Writing (r : RoomId) (s : SeatId) : Task → Prop
  | ⟨.bindAddress request, .written⟩ => request.roomId = r ∧ request.seatId = s
  | _ => False

instance (r : RoomId) (s : SeatId) : DecidablePred (Writing r s)
  | ⟨.bindAddress _, .written⟩ => inferInstanceAs (Decidable (_ ∧ _))
  | ⟨.bindAddress _, .called⟩ | ⟨.bindAddress _, .checked⟩ | ⟨.bindAddress _, .found⟩
  | ⟨.bindAddress _, .sent⟩ | ⟨.bindAddress _, .answered _⟩ | ⟨.join _, _⟩ | ⟨.ready _, _⟩
  | ⟨.bindSessionKeys _, _⟩ | ⟨.act _, _⟩ | ⟨.callback _ _, _⟩ => .isFalse id

/-- The move does not write an address of the seat while another task is between writing and sending
one. -/
def NoOverlap (r : RoomId) (s : SeatId) (st : ServiceState Card) : Move Card → Prop
  | .resume i =>
    match st.tasks[i]? with
    | some ⟨.bindAddress request, .found⟩ =>
      request.roomId = r → request.seatId = s → ∀ t ∈ st.tasks, ¬ Writing r s t
    | _ => True
  | _ => True

instance (r : RoomId) (s : SeatId) (st : ServiceState Card) (move : Move Card) :
    Decidable (NoOverlap r s st move) := by
  unfold NoOverlap
  split
  · split <;> infer_instance
  · infer_instance

theorem writing_iff {r : RoomId} {s : SeatId} {t : Task} : Writing r s t ↔
    ∃ request, t = ⟨.bindAddress request, .written⟩ ∧ request.roomId = r ∧ request.seatId = s := by
  constructor
  · intro h
    unfold Writing at h
    split at h
    · exact ⟨_, rfl, h⟩
    · exact h.elim
  · rintro ⟨request, rfl, h⟩
    exact h

/-- The service is ahead of the room by the address that is being written. -/
structure AddressInv (r : RoomId) (s : SeatId) (st : ServiceState Card) : Prop where
  one : ∀ (i j : ℕ) t t', st.tasks[i]? = some t → st.tasks[j]? = some t' → Writing r s t →
    Writing r s t' → i = j
  written : ∀ (i : ℕ) request, st.tasks[i]? = some ⟨.bindAddress request, .written⟩ →
    request.roomId = r → request.seatId = s →
      boundSeatAddress st.service r s = some request.seatAddress
  settled : (∀ (i : ℕ) t, st.tasks[i]? = some t → ¬ Writing r s t) →
    boundSeatAddress st.service r s = dueAddress st r s

/-- What does not touch the addresses of the seat or the tasks that write one. -/
theorem AddressInv.frame {r : RoomId} {s : SeatId} {st st' : ServiceState Card} (h : AddressInv r s st)
    (hbound : boundSeatAddress st'.service r s = boundSeatAddress st.service r s)
    (hdue : dueAddress st' r s = dueAddress st r s)
    (htasks : ∀ (i : ℕ) t, Writing r s t → (st'.tasks[i]? = some t ↔ st.tasks[i]? = some t)) :
    AddressInv r s st' := by
  refine ⟨fun i j t t' hi hj ht ht' => ?_, fun i request hi hr hs => ?_, fun hnone => ?_⟩
  · exact h.one i j t t' ((htasks i t ht).1 hi) ((htasks j t' ht').1 hj) ht ht'
  · rw [hbound]
    exact h.written i request ((htasks i ⟨.bindAddress request, .written⟩ ⟨hr, hs⟩).1 hi) hr hs
  · rw [hbound, hdue]
    exact h.settled fun i t hi ht => hnone i t ((htasks i t ht).2 hi) ht

theorem addressInv_init (r : RoomId) (s : SeatId) : AddressInv r s ({} : ServiceState Card) :=
  ⟨by simp, by simp, fun _ => rfl⟩

/-- A task that is set from one stage to another, neither of which writes an address of the seat. -/
theorem writing_set {r : RoomId} {s : SeatId} {tasks : List Task} {i : ℕ} {t t' : Task}
    (hi : tasks[i]? = some t) (ht : ¬ Writing r s t) (ht' : ¬ Writing r s t') (j : ℕ) (u : Task)
    (hu : Writing r s u) : (tasks.set i t')[j]? = some u ↔ tasks[j]? = some u := by
  by_cases hj : i = j
  · subst hj
    rw [getElem?_set_of hi, hi]
    refine iff_of_false ?_ ?_
    · rintro ⟨⟩
      exact ht' hu
    · rintro ⟨⟩
      exact ht hu
  · rw [List.getElem?_set_ne hj]

theorem not_writing {r : RoomId} {s : SeatId} {request : ServiceRequest} {stage : Stage}
    (h : stage ≠ .written) : ¬ Writing r s ⟨request, stage⟩ := by
  intro hwriting
  obtain ⟨_, heq, -⟩ := writing_iff.1 hwriting
  exact h (Task.mk.inj heq).2

theorem nextStage_ne_written {next : Stage} (h : next ≠ .written) (result : Except RpcGatewayError Unit) :
    nextStage next result ≠ .written := by
  cases result with
  | error e => simp [nextStage]
  | ok u => exact h

section

variable {r : RoomId} {s : SeatId} {st : ServiceState Card} {i : ℕ} {request : ServiceRequest}

/-- A task moves between two stages that are not the one in question, and the service keeps its
addresses and rooms. -/
theorem addressInv_move (h : AddressInv r s st) {stage : Stage} (next : Stage)
    (hi : st.tasks[i]? = some ⟨request, stage⟩) (hstage : stage ≠ .written) (hnext : next ≠ .written)
    (result : Except RpcGatewayError Unit) {service : AppRoomService Card}
    (hbound : service.boundAddresses = st.service.boundAddresses)
    (hrooms : roomAddress service r s = roomAddress st.service r s) :
    AddressInv r s (moveTask st i request next (service, result)) := by
  refine h.frame ?_ ?_ (writing_set hi (not_writing hstage) (not_writing (nextStage_ne_written hnext result)))
  · rw [boundSeatAddress, boundSeatAddress]
    exact congrArg (fun b => (AList.lookup r b).bind fun a => a.lookup s) hbound
  · exact congrArg (fun a => lastAddress s a (st.mailboxes r)) hrooms

theorem roomAddress_ensureRoom (svc : AppRoomService Card) (r r' : RoomId) (s : SeatId)
    (handId : HandId) : roomAddress (ensureRoom svc r' handId) r s = roomAddress svc r s := by
  unfold ensureRoom roomAddress
  split_ifs with hmem
  · rfl
  · by_cases hr : r = r'
    · subst hr
      rw [AList.lookup_insert, AList.lookup_eq_none.2 hmem]
      rfl
    · rw [AList.lookup_insert_ne hr]

theorem boundSeatAddress_insert (svc : AppRoomService Card) (request : RoomBindAddressRequest) (r : RoomId)
    (s : SeatId) : boundSeatAddress (write svc (.bindAddress request)).1 r s =
      if request.roomId = r ∧ request.seatId = s then some request.seatAddress
      else boundSeatAddress svc r s := by
  unfold write boundSeatAddress
  dsimp only
  by_cases hr : request.roomId = r
  · subst hr
    rw [AList.lookup_insert]
    by_cases hs : request.seatId = s
    · subst hs
      rw [if_pos ⟨rfl, rfl⟩]
      exact AList.lookup_insert _
    · rw [if_neg fun h => hs h.2]
      show ((svc.boundAddresses.lookup request.roomId).getD ∅ |>.insert _ _).lookup s = _
      rw [AList.lookup_insert_ne (Ne.symm hs)]
      cases svc.boundAddresses.lookup request.roomId <;> rfl
  · rw [AList.lookup_insert_ne (Ne.symm hr), if_neg fun h => hr h.1]

/-- The address is written where no other task is writing one. -/
theorem addressInv_write (h : AddressInv r s st) (hi : st.tasks[i]? = some ⟨request, .found⟩)
    (hno : NoOverlap r s st (.resume i : Move Card)) :
    AddressInv r s (moveTask st i request .written (write st.service request)) := by
  by_cases hmine : ∃ bind, request = .bindAddress bind ∧ bind.roomId = r ∧ bind.seatId = s
  · obtain ⟨bind, rfl, hr, hs⟩ := hmine
    have hnone : ∀ t ∈ st.tasks, ¬ Writing r s t := by
      rw [NoOverlap, hi] at hno
      exact hno hr hs
    have hbound : boundSeatAddress (write st.service (.bindAddress bind)).1 r s = some bind.seatAddress := by
      rw [boundSeatAddress_insert, if_pos ⟨hr, hs⟩]
    have honly : ∀ (j : ℕ) t, (moveTask st i (.bindAddress bind) .written
        (write st.service (.bindAddress bind))).tasks[j]? = some t → Writing r s t →
          j = i ∧ t = ⟨.bindAddress bind, .written⟩ := by
      intro j t hj ht
      rcases getElem?_set_cases hj with hj | ⟨-, hj⟩
      · exact hj
      · exact absurd ht (hnone t (List.mem_of_getElem? hj))
    refine ⟨fun j k t t' hj hk ht ht' => ?_, fun j bind' hj hr' hs' => ?_, fun hnone' => ?_⟩
    · exact (honly j t hj ht).1.trans (honly k t' hk ht').1.symm
    · obtain ⟨-, heq⟩ := honly j ⟨_, .written⟩ hj ⟨hr', hs'⟩
      cases heq
      exact hbound
    · exact absurd ⟨hr, hs⟩ (hnone' i ⟨.bindAddress bind, .written⟩ (getElem?_set_of hi))
  · have hwrite := write_spec st.service request
    have hbound : boundSeatAddress (write st.service request).1 r s = boundSeatAddress st.service r s := by
      cases request with
      | bindAddress bind =>
        rw [boundSeatAddress_insert, if_neg fun h => hmine ⟨bind, rfl, h.1, h.2⟩]
      | act act =>
        unfold write
        dsimp only
        split
        · rfl
        · split
          · rfl
          · split <;> rfl
      | _ => rfl
    refine h.frame hbound ?_ (writing_set hi (not_writing (by simp)) ?_)
    · show lastAddress s (roomAddress (write st.service request).1 r s) (st.mailboxes r) = _
      rw [roomAddress, hwrite.1]
      rfl
    · intro hwriting
      obtain ⟨bind, heq, hr, hs⟩ := writing_iff.1 hwriting
      exact hmine ⟨bind, (Task.mk.inj heq).1, hr, hs⟩

theorem dueAddress_put (st : ServiceState Card) (r r' : RoomId) (s : SeatId) (e : Envelope) :
    dueAddress (put st r' e) r s =
      if r' = r then (addressFor s e.cmd).or (dueAddress st r s) else dueAddress st r s := by
  rw [dueAddress, dueAddress]
  split_ifs with hr
  · subst hr
    rw [Sim.put_mailboxes_self, lastAddress, List.foldl_append]
    rfl
  · rw [Sim.put_mailboxes_ne st (Ne.symm hr)]
    rfl

theorem addressFor_of_command {cmd : RoomCommand} (hcmd : request.command = .ok cmd) {address : String}
    (h : addressFor s cmd = some address) :
    ∃ bind, request = .bindAddress bind ∧ bind.seatId = s ∧ bind.seatAddress = address := by
  cases request with
  | bindAddress bind =>
    cases hcmd
    rw [addressFor] at h
    split_ifs at h with hs
    cases h
    exact ⟨bind, rfl, hs, rfl⟩
  | act act =>
    rw [ServiceRequest.command] at hcmd
    split at hcmd
    · cases hcmd
    · split at hcmd <;> cases hcmd <;> cases h
  | _ => cases hcmd; cases h

/-- The address that was written is sent: the room will have it. -/
theorem addressInv_send (h : AddressInv r s st) (hi : st.tasks[i]? = some ⟨request, .written⟩)
    {cmd : RoomCommand} (hcmd : request.command = .ok cmd) :
    AddressInv r s
      (moveTask (put st request.roomId ⟨some i, cmd⟩) i request .sent (st.service, .ok ())) := by
  by_cases hmine : ∃ bind, request = .bindAddress bind ∧ bind.roomId = r ∧ bind.seatId = s
  · obtain ⟨bind, rfl, rfl, rfl⟩ := hmine
    cases hcmd
    have hwriting : Writing bind.roomId bind.seatId ⟨.bindAddress bind, .written⟩ := ⟨rfl, rfl⟩
    have hnone : ∀ (j : ℕ) t, (st.tasks.set i ⟨.bindAddress bind, .sent⟩)[j]? = some t →
        ¬ Writing bind.roomId bind.seatId t := by
      intro j t hj ht
      rcases getElem?_set_cases hj with ⟨-, rfl⟩ | ⟨hji, hj⟩
      · exact absurd ht (not_writing (by simp))
      · exact hji (h.one j i t _ hj hi ht hwriting)
    refine ⟨fun j k t t' hj _ ht => absurd ht (hnone j t hj), fun j bind' hj hr hs => ?_, fun _ => ?_⟩
    · exact absurd ⟨hr, hs⟩ (hnone j ⟨.bindAddress bind', .written⟩ hj)
    · refine (h.written i bind hi rfl rfl).trans ?_
      show _ = dueAddress (put st bind.roomId ⟨some i, _⟩) bind.roomId bind.seatId
      rw [dueAddress_put, if_pos rfl, addressFor, if_pos rfl]
      rfl
  · refine h.frame rfl ?_ (writing_set hi ?_ (not_writing (by simp [nextStage])))
    · show dueAddress (put st request.roomId ⟨some i, cmd⟩) r s = _
      rw [dueAddress_put]
      split_ifs with hr
      · have hnone : addressFor s cmd = none := by
          refine Option.eq_none_iff_forall_ne_some.2 fun address hsome => ?_
          obtain ⟨bind, rfl, hs, -⟩ := addressFor_of_command hcmd hsome
          exact hmine ⟨bind, rfl, hr, hs⟩
        rw [hnone, Option.none_or]
      · rfl
    · intro hwriting
      obtain ⟨bind, heq, hr, hs⟩ := writing_iff.1 hwriting
      exact hmine ⟨bind, (Task.mk.inj heq).1, hr, hs⟩

theorem addressInv_resume (h : AddressInv r s st) (i : ℕ)
    (hno : NoOverlap r s st (.resume i : Move Card)) : AddressInv r s (resume st i) := by
  unfold resume
  cases hi : st.tasks[i]? with
  | none => exact h
  | some t =>
    obtain ⟨request, stage⟩ := t
    cases stage with
    | called =>
      show AddressInv r s (moveTask st i request .checked (check st.service request))
      refine addressInv_move h .checked hi (by simp) (by simp) _ ?_ ?_ <;> cases request <;> rfl
    | checked =>
      show AddressInv r s (moveTask st i request .found (find st.service request))
      refine addressInv_move h .found hi (by simp) (by simp) _ ?_ ?_
      · cases request with
        | callback handId result =>
          show (ensureRoom st.service result.roomId handId).boundAddresses = _
          unfold ensureRoom
          split_ifs <;> rfl
        | _ => rfl
      · cases request with
        | callback handId result => exact roomAddress_ensureRoom _ _ _ _ _
        | _ => rfl
    | found => exact addressInv_write h hi hno
    | written =>
      dsimp only
      split
      · exact h
      · rename_i hcmd
        split_ifs
        · exact addressInv_send h hi hcmd
        · exact h
    | sent =>
      dsimp only
      split_ifs
      · exact h
      · refine addressInv_move h (.answered (.ok ())) hi (by simp) (by simp) _ ?_ ?_ <;> cases request <;> rfl
    | answered result => exact h

end

section

variable [RsPoker Card] {config : RoomActorConfig} {r : RoomId} {s : SeatId} {st : ServiceState Card}

/-- A room that takes a command of a seated seat keeps or binds the address. -/
theorem boundAddresses_roomStep {env : RoomEnv Card} {room : RoomState Card} {cmd : RoomCommand}
    (hleave : ∀ s, cmd ≠ .leave s) (hseat : ∀ s, commandSeat cmd = some s → s ∈ room.seated) :
    (roomStep config env room cmd).1.boundAddresses.lookup s =
      (addressFor s cmd).or (room.boundAddresses.lookup s) := by
  have hreg : (roomStep config env room cmd).1.boundAddresses =
      (registerStep room.registers cmd).boundAddresses :=
    congrArg Registers.boundAddresses (roomStep_registers config cmd)
  rw [hreg]
  cases cmd with
  | leave s => exact absurd rfl (hleave s)
  | bindAddress s' address =>
    have hmem : s' ∈ room.registers.seated := hseat s' rfl
    rw [registerStep, if_pos hmem, addressFor]
    split_ifs with hs
    · subst hs
      exact AList.lookup_insert _
    · exact AList.lookup_insert_ne (Ne.symm hs)
  | bindSessionKeys s' c q k p =>
    rw [registerStep]
    split_ifs <;> rfl
  | ready s' =>
    rw [registerStep]
    split_ifs <;> rfl
  | _ => rfl

/-- The address of a command moves from the mailbox into the room. -/
theorem dueAddress_deliver (hsound : Sound st) (env : RoomEnv Card) (r' : RoomId) :
    dueAddress (deliver config st env r') r s = dueAddress st r s := by
  unfold deliver
  split
  swap
  · rfl
  rename_i e rest room hbox hroom
  show lastAddress s (roomAddress (tellRoom config env st.service r' room e.cmd) r s)
    (Function.update st.mailboxes r' rest r) = lastAddress s (roomAddress st.service r s) (st.mailboxes r)
  by_cases hr : r = r'
  · subst hr
    have hok : EnvelopeOk st r e := by
      obtain ⟨svc, hsim, -⟩ := hsound
      exact hsim.envelopes r e (by rw [hbox]; exact List.mem_cons_self)
    have hroom' : roomAddress (tellRoom config env st.service r room e.cmd) r s =
        (addressFor s e.cmd).or (roomAddress st.service r s) := by
      rw [roomAddress, tellRoom, AList.lookup_insert, roomAddress, hroom]
      exact boundAddresses_roomStep (not_leave hok) fun s' hs' => hsound.seated hbox hroom hs'
    rw [hroom', Function.update_self, hbox]
    rfl
  · rw [Function.update_of_ne hr, roomAddress, tellRoom, AList.lookup_insert_ne hr]
    rfl

theorem boundSeatAddress_deliver (env : RoomEnv Card) (r' : RoomId) :
    boundSeatAddress (deliver config st env r').service r s = boundSeatAddress st.service r s := by
  unfold deliver
  split <;> rfl

theorem addressInv_deliver (hsound : Sound st) (h : AddressInv r s st) (env : RoomEnv Card)
    (r' : RoomId) : AddressInv r s (deliver config st env r') := by
  refine h.frame (boundSeatAddress_deliver env r') (dueAddress_deliver hsound env r') ?_
  intro j t ht
  unfold deliver
  split
  swap
  · rfl
  rename_i e rest room hbox hroom
  show (answer st.tasks e.sender (reply room e.cmd))[j]? = some t ↔ _
  unfold answer
  split
  · rfl
  · split
    · rename_i i _ hi
      split_ifs
      · refine writing_set hi (not_writing (by simp)) ?_ j t ht
        exact not_writing (by simp)
      · rfl
    · rfl

theorem addressInv_step (hsound : Sound st) (h : AddressInv r s st) (move : Move Card)
    (hno : NoOverlap r s st move) : AddressInv r s (moveStep config st move) := by
  cases move with
  | createRoom r' handId =>
    refine h.frame ?_ ?_ fun _ _ _ => Iff.rfl
    · show boundSeatAddress (ensureRoom st.service r' handId) r s = _
      unfold ensureRoom
      split_ifs <;> rfl
    · exact congrArg (fun a => lastAddress s a (st.mailboxes r)) (roomAddress_ensureRoom _ _ _ _ _)
  | call request =>
    refine h.frame rfl rfl fun j t ht => ?_
    show (st.tasks ++ [⟨request, .called⟩])[j]? = some t ↔ st.tasks[j]? = some t
    rw [List.getElem?_append]
    split_ifs with hj
    · rfl
    · refine iff_of_false (fun hnew => ?_) fun hold => hj (List.getElem?_eq_some_iff.1 hold).1
      rw [List.mem_singleton.1 (List.mem_of_getElem? hnew)] at ht
      exact absurd ht (not_writing (by simp))
  | resume i => exact addressInv_resume h i hno
  | post r' cmd =>
    rw [moveStep]
    split_ifs with hpost
    · refine h.frame rfl ?_ fun _ _ _ => Iff.rfl
      have hnone : addressFor s cmd = none := by
        cases cmd <;> first | rfl | cases hpost.1
      rw [dueAddress_put, hnone, Option.none_or, ite_self]
    · exact h
  | deliver env r' => exact addressInv_deliver hsound h env r'

end

/-- Two requests for the address of a seat that overlap: the first one writes first and sends last. -/
def overlapping (n : ℕ) (first second : RoomBindAddressRequest) : List (Move Card) :=
  [.call (.bindAddress first), .call (.bindAddress second), .resume n, .resume n, .resume n,
    .resume (n + 1), .resume (n + 1), .resume (n + 1), .resume (n + 1), .resume n]

/-- The service after a task with this address has come to the point where it is written. -/
def withAddress (svc : AppRoomService Card) (request : RoomBindAddressRequest) : AppRoomService Card :=
  (write svc (.bindAddress request)).1

section

variable [RsPoker Card] (config : RoomActorConfig) (st : ServiceState Card)
  {request first second : RoomBindAddressRequest}

/-- A request for an address comes to the point where the address is written. -/
theorem run_to_written {i : ℕ} (hi : st.tasks[i]? = some ⟨.bindAddress request, .called⟩)
    (hroom : request.roomId ∈ st.service.rooms)
    (hjoined : request.seatId ∈ joinedIn st.service request.roomId) :
    run (moveStep config) st [.resume i, .resume i, .resume i] =
      { st with
        service := withAddress st.service request
        tasks := st.tasks.set i ⟨.bindAddress request, .written⟩ } := by
  have hok : check st.service (.bindAddress request) = (st.service, .ok ()) :=
    congrArg (Prod.mk st.service) (ensureJoined_eq_ok.2 hjoined)
  have hfind : find st.service (.bindAddress request) = (st.service, .ok ()) :=
    congrArg (Prod.mk st.service) (if_pos hroom)
  have hchecked : moveStep config st (.resume i) =
      { st with tasks := st.tasks.set i ⟨.bindAddress request, .checked⟩ } := by
    rw [moveStep, resume, hi]
    dsimp only
    rw [moveTask, hok]
    rfl
  have hfound : moveStep config { st with tasks := st.tasks.set i ⟨.bindAddress request, .checked⟩ }
      (.resume i) = { st with tasks := st.tasks.set i ⟨.bindAddress request, .found⟩ } := by
    rw [moveStep, resume, getElem?_set_of hi]
    dsimp only
    rw [moveTask, hfind, List.set_set]
    rfl
  rw [run_cons, run_cons, run_cons, run_nil, hchecked, hfound, moveStep, resume, getElem?_set_of hi]
  dsimp only
  rw [moveTask, List.set_set]
  rfl

theorem resume_written {i : ℕ} (hi : st.tasks[i]? = some ⟨.bindAddress request, .written⟩)
    (hcap : (st.mailboxes request.roomId).length < MAILBOX_CAPACITY) :
    moveStep config st (.resume i) =
      moveTask (put st request.roomId ⟨some i, .bindAddress request.seatId request.seatAddress⟩) i
        (.bindAddress request) .sent (st.service, .ok ()) := by
  rw [moveStep, resume, hi]
  exact if_pos hcap

/-- The tasks with two more requests, at these stages. -/
def withTwo (tasks : List Task) (first second : RoomBindAddressRequest) (stage stage' : Stage) :
    List Task :=
  tasks ++ [⟨.bindAddress first, stage⟩, ⟨.bindAddress second, stage'⟩]

section

variable {tasks : List Task} {stage stage' next : Stage}

@[simp] theorem withTwo_first :
    (withTwo tasks first second stage stage')[tasks.length]? = some ⟨.bindAddress first, stage⟩ := by
  simp [withTwo]

@[simp] theorem withTwo_second :
    (withTwo tasks first second stage stage')[tasks.length + 1]? =
      some ⟨.bindAddress second, stage'⟩ := by
  simp [withTwo]

@[simp] theorem withTwo_set_first :
    (withTwo tasks first second stage stage').set tasks.length ⟨.bindAddress first, next⟩ =
      withTwo tasks first second next stage' := by
  simp [withTwo]

@[simp] theorem withTwo_set_second :
    (withTwo tasks first second stage stage').set (tasks.length + 1) ⟨.bindAddress second, next⟩ =
      withTwo tasks first second stage next := by
  simp [withTwo]

end

/-- The service has the address of the second request, and the mailbox that of the first one last. -/
theorem run_overlapping (hroom : first.roomId ∈ st.service.rooms)
    (hroom' : second.roomId = first.roomId)
    (hjoined : first.seatId ∈ joinedIn st.service first.roomId) (hseat : second.seatId = first.seatId)
    (hbox : st.mailboxes first.roomId = []) :
    run (moveStep config) st (overlapping st.tasks.length first second) =
      { service := withAddress (withAddress st.service first) second
        mailboxes := Function.update st.mailboxes first.roomId
          [⟨some (st.tasks.length + 1), .bindAddress second.seatId second.seatAddress⟩,
            ⟨some st.tasks.length, .bindAddress first.seatId first.seatAddress⟩]
        tasks := withTwo st.tasks first second .sent .sent } := by
  have hsplit : (overlapping st.tasks.length first second : List (Move Card)) =
      [.call (.bindAddress first), .call (.bindAddress second)] ++
        ([.resume st.tasks.length, .resume st.tasks.length, .resume st.tasks.length] ++
          ([.resume (st.tasks.length + 1), .resume (st.tasks.length + 1), .resume (st.tasks.length + 1)] ++
            [.resume (st.tasks.length + 1), .resume st.tasks.length])) := rfl
  have hcalled : run (moveStep config) st [.call (.bindAddress first), .call (.bindAddress second)] =
      { st with tasks := withTwo st.tasks first second .called .called } := by
    simp [moveStep, withTwo]
  have hjoined' : second.seatId ∈ joinedIn (withAddress st.service first) second.roomId := by
    rw [hroom', hseat]
    exact hjoined
  have hroom'' : second.roomId ∈ (withAddress st.service first).rooms := by
    rw [hroom']
    exact hroom
  have hfirst := run_to_written config
    { st with tasks := withTwo st.tasks first second .called .called } withTwo_first hroom hjoined
  have hsecond := run_to_written config
    { st with
      service := withAddress st.service first
      tasks := withTwo st.tasks first second .written .called } withTwo_second hroom'' hjoined'
  have hsend := resume_written config
    { st with
      service := withAddress (withAddress st.service first) second
      tasks := withTwo st.tasks first second .written .written } withTwo_second
    (by simp [hroom', hbox, MAILBOX_CAPACITY])
  have hsend' := resume_written config
    { service := withAddress (withAddress st.service first) second
      mailboxes := Function.update st.mailboxes first.roomId
        [⟨some (st.tasks.length + 1), .bindAddress second.seatId second.seatAddress⟩]
      tasks := withTwo st.tasks first second .written .sent } withTwo_first
    (by simp [MAILBOX_CAPACITY])
  rw [withTwo_set_first] at hfirst
  rw [withTwo_set_second] at hsecond
  rw [moveTask, put, hroom'] at hsend
  dsimp only [nextStage] at hsend
  rw [withTwo_set_second, hbox, List.nil_append] at hsend
  rw [moveTask, put] at hsend'
  dsimp only [nextStage] at hsend'
  rw [withTwo_set_first, Function.update_self, Function.update_idem] at hsend'
  rw [hsplit, run_append, hcalled, run_append, hfirst, run_append, hsecond, run_cons, run_cons, run_nil,
    hsend, hsend']
  rfl

theorem deliver_mailbox (env : RoomEnv Card) {r : RoomId} {e : Envelope} {rest : List Envelope}
    (hbox : st.mailboxes r = e :: rest) (hroom : r ∈ st.service.rooms) :
    (deliver config st env r).mailboxes r = rest ∧ r ∈ (deliver config st env r).service.rooms := by
  obtain ⟨room, hlookup⟩ := Option.isSome_iff_exists.1 (AList.lookup_isSome.2 hroom)
  rw [deliver, hbox, hlookup]
  exact ⟨Function.update_self .., AList.mem_insert _ |>.2 (Or.inl rfl)⟩

end

/-- **Requests that overlap split the addresses**: from every state in which the seat has joined and the
mailbox of its room is empty, two requests for its address can be answered in such an order that the
service has the address of the second one and the room that of the first. -/
theorem overlap_splits_addresses [RsPoker Card] (config : RoomActorConfig) (moves : List (Move Card))
    (env : RoomEnv Card) (first second : RoomBindAddressRequest) (hroom : second.roomId = first.roomId)
    (hseat : second.seatId = first.seatId)
    (hjoined : first.seatId ∈ joinedIn (run (moveStep config) {} moves).service first.roomId)
    (hbox : (run (moveStep config) {} moves).mailboxes first.roomId = []) :
    let later := run (moveStep config) {} (moves ++
      overlapping (run (moveStep config) {} moves).tasks.length first second ++
      [.deliver env first.roomId, .deliver env first.roomId])
    later.mailboxes first.roomId = [] ∧
      boundSeatAddress later.service first.roomId first.seatId = some second.seatAddress ∧
      roomAddress later.service first.roomId first.seatId = some first.seatAddress := by
  have hsound : Sound (run (moveStep config) ({} : ServiceState Card) moves) :=
    run_inv Sound (sound_step config) moves sound_init
  rw [List.append_assoc, run_append, run_append, run_cons, run_cons, run_nil]
  generalize run (moveStep config) ({} : ServiceState Card) moves = st at *
  have hmem : first.roomId ∈ st.service.rooms := by
    obtain ⟨svc, hsim, hinv⟩ := hsound
    rcases hsim.promised _ _ hjoined with hs | ⟨e, he, -⟩
    · obtain ⟨room, hroom', -⟩ := hinv _ _ hs
      rw [hsim.rooms] at hroom'
      exact mem_of_lookup_some hroom'
    · rw [hbox] at he
      cases he
  have hsent : Sound (run (moveStep config) st (overlapping st.tasks.length first second)) :=
    run_inv Sound (sound_step config) _ hsound
  rw [run_overlapping config st hmem hroom hjoined hseat hbox] at hsent ⊢
  generalize hst : (ServiceState.mk _ _ _ : ServiceState Card) = sent at hsent ⊢
  have hbound : boundSeatAddress sent.service first.roomId first.seatId = some second.seatAddress := by
    rw [← hst, ← hroom, ← hseat]
    exact (boundSeatAddress_insert _ second _ _).trans (if_pos ⟨rfl, rfl⟩)
  have hdue : dueAddress sent first.roomId first.seatId = some first.seatAddress := by
    rw [← hst, dueAddress]
    dsimp only
    rw [Function.update_self, lastAddress, List.foldl_cons, List.foldl_cons,
      List.foldl_nil]
    simp only [addressFor, if_pos, Option.some_or]
  have hone := deliver_mailbox config sent env (r := first.roomId)
    (by rw [← hst]; exact Function.update_self ..) (by rw [← hst]; exact hmem)
  have htwo := deliver_mailbox config _ env hone.1 hone.2
  have hsound' : Sound (deliver config sent env first.roomId) :=
    sound_step config sent (.deliver env first.roomId) hsent
  refine ⟨htwo.1, ?_, ?_⟩
  · exact (boundSeatAddress_deliver env _).trans ((boundSeatAddress_deliver env _).trans hbound)
  · have hlast : dueAddress (deliver config (deliver config sent env first.roomId) env first.roomId)
        first.roomId first.seatId = some first.seatAddress :=
      (dueAddress_deliver hsound' env _).trans ((dueAddress_deliver hsent env _).trans hdue)
    rw [dueAddress, htwo.1] at hlast
    exact hlast

/-- The seat that has bound one address binds two others at once. -/
theorem overlap_splits_seat_zero :
    let later := run (moveStep {}) {} (joinAndBind ++ [.deliver tableEnv ⟨0⟩] ++
      overlapping 2 ⟨⟨0⟩, 0, "0xb", tableMeta⟩ ⟨⟨0⟩, 0, "0xc", tableMeta⟩ ++
      [.deliver tableEnv ⟨0⟩, .deliver tableEnv ⟨0⟩])
    later.mailboxes ⟨0⟩ = [] ∧ boundSeatAddress later.service ⟨0⟩ 0 = some "0xc" ∧
      roomAddress later.service ⟨0⟩ 0 = some "0xb" :=
  overlap_splits_addresses {} (joinAndBind ++ [.deliver tableEnv ⟨0⟩]) tableEnv
    ⟨⟨0⟩, 0, "0xb", tableMeta⟩ ⟨⟨0⟩, 0, "0xc", tableMeta⟩ rfl rfl (by decide +kernel) rfl

end HoldemPlatform.Service.SeatCommands
