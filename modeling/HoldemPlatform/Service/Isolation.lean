import HoldemPlatform.Lib.Interleaving
import HoldemPlatform.Service.RoomService

/-!
# Rooms Side by Side

One service runs many rooms. What it keeps of a room (`view`) is changed by the inputs for that room only,
and its reaction to such an input depends on this view and on nothing else but the two keys of a payment:
the transaction repository is shared, and it refuses a transaction hash, or a hand with an action number,
that any room has used before. So a room that shares no key with the others behaves as if it were alone
(`room_isolated`).

The keys of the repository do not name the room. That is why the condition is needed: a request of one room
may name the hand of another one.
-/

namespace HoldemPlatform.Service.Isolation

open HoldemPlatform.Lib.FiniteMap HoldemPlatform.Lib.Run HoldemPlatform.Lib.Interleaving
open HoldemPlatform.Domain.Game HoldemPlatform.Engine.State HoldemPlatform.Chain.Watcher
open HoldemPlatform.Chain.TxRepo HoldemPlatform.Room.Actor HoldemPlatform.Gateway.Requests
open HoldemPlatform.Room.Effect HoldemPlatform.Service.RoomService

variable {Card : Type}

def inputRoom : ServiceInput Card → RoomId
  | .createRoom roomId _ => roomId
  | .join _ request => request.roomId
  | .ready _ request => request.roomId
  | .bindAddress _ request => request.roomId
  | .bindSessionKeys _ request => request.roomId
  | .act _ request => request.roomId
  | .callback _ _ callback => callback.roomId
  | .internal _ roomId _ => roomId

/-- What a payment is known by. -/
structure PaymentKeys where
  txHash : String
  turn : HandId × ActionSeq
deriving DecidableEq

def inputPayment : ServiceInput Card → Option PaymentKeys
  | .act _ request => request.txHash.map fun txHash => ⟨txHash, (request.handId, request.actionSeq)⟩
  | _ => none

/-- Two payments have a key in common. -/
def Clash (p q : PaymentKeys) : Prop := p.txHash = q.txHash ∨ p.turn = q.turn

instance (p q : PaymentKeys) : Decidable (Clash p q) := inferInstanceAs (Decidable (_ ∨ _))

/-- The answer to a request; nobody waits for one to a callback or to what a room does by itself. -/
def answer [RsPoker Card] (config : RoomActorConfig) (svc : AppRoomService Card) :
    ServiceInput Card → Option (Except RpcGatewayError Unit)
  | .join env request => some (svc.join config env request).2
  | .ready env request => some (svc.ready config env request).2
  | .bindAddress env request => some (svc.bindAddress config env request).2
  | .bindSessionKeys env request => some (svc.bindSessionKeys config env request).2
  | .act env request => some (svc.act config env request).2
  | .createRoom _ _ => none
  | .callback _ _ _ => none
  | .internal _ _ _ => none

/-- What the service keeps of a room. -/
structure RoomView (Card : Type) where
  room : Option (RoomState Card)
  joinedSeats : Option (Finset SeatId)
  boundAddresses : Option (HashMap SeatId String)

def view (svc : AppRoomService Card) (roomId : RoomId) : RoomView Card where
  room := svc.rooms.lookup roomId
  joinedSeats := svc.joinedSeats.lookup roomId
  boundAddresses := svc.boundAddresses.lookup roomId

/-- Two repositories treat a payment alike. -/
structure SameKeys (repo repo' : ChainTxRepo) (p : PaymentKeys) : Prop where
  turn : p.turn ∈ repo.txBindingsByAction ↔ p.turn ∈ repo'.txBindingsByAction
  txHash : p.txHash ∈ repo.txBindingsByHash ↔ p.txHash ∈ repo'.txBindingsByHash

section

variable {svc svc' : AppRoomService Card} {r q : RoomId}

theorem view_eq_iff : view svc r = view svc' r ↔ svc.rooms.lookup r = svc'.rooms.lookup r ∧
    svc.joinedSeats.lookup r = svc'.joinedSeats.lookup r ∧
    svc.boundAddresses.lookup r = svc'.boundAddresses.lookup r := by
  simp [view]

theorem ensureJoined_of_view (h : view svc r = view svc' r) (seatId : SeatId) :
    ensureJoined svc r seatId = ensureJoined svc' r seatId := by
  unfold ensureJoined
  rw [(view_eq_iff.1 h).2.1]

theorem view_insert_ne (hne : r ≠ q) (room : RoomState Card) :
    view { svc with rooms := svc.rooms.insert q room } r = view svc r := by
  simp [view, AList.lookup_insert_ne hne]

theorem view_ensureRoom_ne (hne : r ≠ q) (handId : HandId) :
    view (ensureRoom svc q handId) r = view svc r := by
  unfold ensureRoom
  split_ifs
  · rfl
  · exact view_insert_ne hne _

theorem lookup_ensureRoom (handId : HandId) : (ensureRoom svc q handId).rooms.lookup q =
    some ((svc.rooms.lookup q).getD (RoomState.spawn q handId)) := by
  unfold ensureRoom
  split_ifs with hmem
  · obtain ⟨room, hroom⟩ := exists_lookup_of_mem hmem
    rw [hroom, Option.getD_some]
  · rw [AList.lookup_insert, AList.lookup_eq_none.2 hmem, Option.getD_none]

theorem view_ensureRoom (handId : HandId) : view (ensureRoom svc q handId) q =
    { view svc q with room := some ((svc.rooms.lookup q).getD (RoomState.spawn q handId)) } := by
  rw [← lookup_ensureRoom handId]
  unfold ensureRoom
  split_ifs <;> rfl

theorem repo_ensureRoom (handId : HandId) : (ensureRoom svc q handId).chainTxRepo = svc.chainTxRepo := by
  unfold ensureRoom
  split_ifs <;> rfl

/-- The requests that a seat may make once it has joined: nothing happens unless it has, and its room is
there. -/
def forJoined (svc : AppRoomService Card) (roomId : RoomId) (seatId : SeatId)
    (next : RoomState Card → AppRoomService Card) : AppRoomService Card × Except RpcGatewayError Unit :=
  match ensureJoined svc roomId seatId with
  | .error e => (svc, .error e)
  | .ok () =>
    match svc.rooms.lookup roomId with
    | none => (svc, .error .roomNotFound)
    | some room => (next room, .ok ())

/-- What holds of the service now and of every next one holds after the request. -/
theorem forJoined_inv {P : AppRoomService Card → Prop} {seatId : SeatId}
    {next : RoomState Card → AppRoomService Card} (hsvc : P svc) (hnext : ∀ room, P (next room)) :
    P (forJoined svc q seatId next).1 := by
  unfold forJoined
  split
  · exact hsvc
  split
  · exact hsvc
  · exact hnext _

theorem forJoined_alike {seatId : SeatId} {next next' : RoomState Card → AppRoomService Card}
    (h : view svc q = view svc' q) (hnext : ∀ room, view (next room) q = view (next' room) q) :
    view (forJoined svc q seatId next).1 q = view (forJoined svc' q seatId next').1 q ∧
      (forJoined svc q seatId next).2 = (forJoined svc' q seatId next').2 := by
  unfold forJoined
  rw [ensureJoined_of_view h, (view_eq_iff.1 h).1]
  cases ensureJoined svc' q seatId with
  | error e => exact ⟨h, rfl⟩
  | ok _ =>
    cases svc'.rooms.lookup q with
    | none => exact ⟨h, rfl⟩
    | some room => exact ⟨hnext room, rfl⟩

end

section

variable [RsPoker Card] {config : RoomActorConfig} {svc svc' : AppRoomService Card} {r : RoomId}

theorem ready_eq (env : RoomEnv Card) (request : RoomReadyRequest) : svc.ready config env request =
    forJoined svc request.roomId request.seatId fun room =>
      tellRoom config env svc request.roomId room (.ready request.seatId) :=
  rfl

theorem bindAddress_eq (env : RoomEnv Card) (request : RoomBindAddressRequest) :
    svc.bindAddress config env request = forJoined svc request.roomId request.seatId fun room =>
      { tellRoom config env svc request.roomId room (.bindAddress request.seatId request.seatAddress) with
        boundAddresses := svc.boundAddresses.insert request.roomId
          (((svc.boundAddresses.lookup request.roomId).getD ∅).insert request.seatId
            request.seatAddress) } :=
  rfl

theorem bindSessionKeys_eq (env : RoomEnv Card) (request : RoomBindSessionKeysRequest) :
    svc.bindSessionKeys config env request = forJoined svc request.roomId request.seatId fun room =>
      tellRoom config env svc request.roomId room
        (.bindSessionKeys request.seatId request.cardEncryptPubkey request.requestVerifyPubkey
          request.keyAlgo request.proofSignature) :=
  rfl

/-- **An input is seen by its own room only.** -/
theorem view_step_ne {input : ServiceInput Card} (hne : r ≠ inputRoom input) :
    view (serviceStep config svc input) r = view svc r := by
  cases input with
  | createRoom roomId handId => exact view_ensureRoom_ne hne handId
  | join env request =>
    replace hne : r ≠ request.roomId := hne
    simp only [serviceStep, AppRoomService.join]
    split
    · rfl
    · simp [view, tellRoom, AList.lookup_insert_ne hne]
  | ready env request =>
    rw [serviceStep, ready_eq]
    exact forJoined_inv (P := fun s => view s r = view svc r) rfl fun room => view_insert_ne hne _
  | bindAddress env request =>
    replace hne : r ≠ request.roomId := hne
    rw [serviceStep, bindAddress_eq]
    refine forJoined_inv (P := fun s => view s r = view svc r) rfl fun room => ?_
    simp [view, tellRoom, AList.lookup_insert_ne hne]
  | bindSessionKeys env request =>
    rw [serviceStep, bindSessionKeys_eq]
    exact forJoined_inv (P := fun s => view s r = view svc r) rfl fun room => view_insert_ne hne _
  | act env request =>
    replace hne : r ≠ request.roomId := hne
    simp only [serviceStep, AppRoomService.act]
    split
    · rfl
    split
    · rfl
    split
    · split
      · rfl
      · simp [view, tellRoom, AList.lookup_insert_ne hne]
    · exact view_insert_ne hne _
  | callback env handId callback =>
    simp only [serviceStep, onVerificationResult]
    split
    · exact view_ensureRoom_ne hne handId
    · exact (view_insert_ne hne _).trans (view_ensureRoom_ne hne handId)
  | internal env roomId cmd =>
    simp only [serviceStep]
    split
    · rfl
    split
    · exact view_insert_ne hne _
    · rfl

theorem keys_step (config : RoomActorConfig) (svc : AppRoomService Card) (input : ServiceInput Card) :
    ((serviceStep config svc input).chainTxRepo.txBindingsByAction = svc.chainTxRepo.txBindingsByAction ∧
      (serviceStep config svc input).chainTxRepo.txBindingsByHash = svc.chainTxRepo.txBindingsByHash) ∨
    ∃ p binding, inputPayment input = some p ∧
      (serviceStep config svc input).chainTxRepo.txBindingsByAction =
        svc.chainTxRepo.txBindingsByAction.insert p.turn p.txHash ∧
      (serviceStep config svc input).chainTxRepo.txBindingsByHash =
        svc.chainTxRepo.txBindingsByHash.insert p.txHash binding := by
  have kept {s : AppRoomService Card} (h : s.chainTxRepo = svc.chainTxRepo) :
      s.chainTxRepo.txBindingsByAction = svc.chainTxRepo.txBindingsByAction ∧
        s.chainTxRepo.txBindingsByHash = svc.chainTxRepo.txBindingsByHash := by
    rw [h]
    exact ⟨rfl, rfl⟩
  cases input with
  | createRoom roomId handId => exact .inl (kept (repo_ensureRoom handId))
  | join env request =>
    simp only [serviceStep, AppRoomService.join]
    split <;> exact .inl ⟨rfl, rfl⟩
  | ready env request =>
    rw [serviceStep, ready_eq]
    exact .inl (kept (forJoined_inv (P := fun s => s.chainTxRepo = svc.chainTxRepo) rfl fun _ => rfl))
  | bindAddress env request =>
    rw [serviceStep, bindAddress_eq]
    exact .inl (kept (forJoined_inv (P := fun s => s.chainTxRepo = svc.chainTxRepo) rfl fun _ => rfl))
  | bindSessionKeys env request =>
    rw [serviceStep, bindSessionKeys_eq]
    exact .inl (kept (forJoined_inv (P := fun s => s.chainTxRepo = svc.chainTxRepo) rfl fun _ => rfl))
  | act env request =>
    simp only [serviceStep, AppRoomService.act]
    split
    · exact .inl ⟨rfl, rfl⟩
    split
    · exact .inl ⟨rfl, rfl⟩
    split
    · rename_i txHash hhash
      split
      · exact .inl ⟨rfl, rfl⟩
      · rename_i repo hinsert
        obtain ⟨-, -, rfl⟩ := insertTxBinding_eq_ok.1 hinsert
        exact .inr ⟨⟨txHash, (request.handId, request.actionSeq)⟩, _, by rw [inputPayment, hhash]; rfl,
          rfl, rfl⟩
    · exact .inl ⟨rfl, rfl⟩
  | callback env handId callback =>
    have hrecord : (recordCallback svc.chainTxRepo callback).txBindingsByAction =
        svc.chainTxRepo.txBindingsByAction ∧ (recordCallback svc.chainTxRepo callback).txBindingsByHash =
        svc.chainTxRepo.txBindingsByHash := by
      unfold recordCallback
      dsimp only
      split_ifs <;> exact ⟨rfl, rfl⟩
    simp only [serviceStep, onVerificationResult]
    split
    · rw [repo_ensureRoom]
      exact .inl hrecord
    · simp only [tellRoom, repo_ensureRoom]
      exact .inl hrecord
  | internal env roomId cmd =>
    simp only [serviceStep]
    split
    · exact .inl ⟨rfl, rfl⟩
    split <;> exact .inl ⟨rfl, rfl⟩

/-- The two services react alike, and keep the same of the room. -/
def ReactsAlike (config : RoomActorConfig) (svc svc' : AppRoomService Card) (input : ServiceInput Card) :
    Prop :=
  view (serviceStep config svc input) (inputRoom input) =
      view (serviceStep config svc' input) (inputRoom input) ∧
    answer config svc input = answer config svc' input

theorem view_tellRoom (env : RoomEnv Card) (q : RoomId) (room : RoomState Card) (cmd : RoomCommand) :
    view (tellRoom config env svc q room cmd) q =
      { view svc q with room := some (roomStep config env room cmd).1 } := by
  simp [view, tellRoom]

theorem join_alike (env : RoomEnv Card) (request : RoomReadyRequest)
    (h : view svc request.roomId = view svc' request.roomId) :
    ReactsAlike config svc svc' (.join env request) := by
  obtain ⟨hr, hj, hb⟩ := view_eq_iff.1 h
  simp only [ReactsAlike, serviceStep, answer, AppRoomService.join, inputRoom]
  rw [hr]
  cases svc'.rooms.lookup request.roomId with
  | none => exact ⟨h, rfl⟩
  | some room => simp [view, tellRoom, hj, hb]

theorem ready_alike (env : RoomEnv Card) (request : RoomReadyRequest)
    (h : view svc request.roomId = view svc' request.roomId) :
    ReactsAlike config svc svc' (.ready env request) := by
  obtain ⟨hr, hj, hb⟩ := view_eq_iff.1 h
  simp only [ReactsAlike, serviceStep, answer, ready_eq, inputRoom, Option.some_inj]
  refine forJoined_alike h fun room => ?_
  simp [view, tellRoom, hj, hb]

theorem bindAddress_alike (env : RoomEnv Card) (request : RoomBindAddressRequest)
    (h : view svc request.roomId = view svc' request.roomId) :
    ReactsAlike config svc svc' (.bindAddress env request) := by
  obtain ⟨hr, hj, hb⟩ := view_eq_iff.1 h
  simp only [ReactsAlike, serviceStep, answer, bindAddress_eq, inputRoom, Option.some_inj]
  refine forJoined_alike h fun room => ?_
  simp [view, tellRoom, hj, hb]

theorem bindSessionKeys_alike (env : RoomEnv Card) (request : RoomBindSessionKeysRequest)
    (h : view svc request.roomId = view svc' request.roomId) :
    ReactsAlike config svc svc' (.bindSessionKeys env request) := by
  obtain ⟨hr, hj, hb⟩ := view_eq_iff.1 h
  simp only [ReactsAlike, serviceStep, answer, bindSessionKeys_eq, inputRoom, Option.some_inj]
  refine forJoined_alike h fun room => ?_
  simp [view, tellRoom, hj, hb]

theorem callback_alike (env : RoomEnv Card) (handId : HandId) (callback : TxVerificationCallback)
    (h : view svc callback.roomId = view svc' callback.roomId) :
    ReactsAlike config svc svc' (.callback env handId callback) := by
  obtain ⟨hr, hj, hb⟩ := view_eq_iff.1 h
  refine ⟨?_, rfl⟩
  simp only [serviceStep, onVerificationResult, inputRoom]
  rw [lookup_ensureRoom, lookup_ensureRoom]
  dsimp only
  rw [view_tellRoom, view_tellRoom, view_ensureRoom, view_ensureRoom]
  dsimp only [view]
  rw [hr, hj, hb]

theorem internal_alike (env : RoomEnv Card) (roomId : RoomId) (cmd : RoomCommand)
    (h : view svc roomId = view svc' roomId) :
    ReactsAlike config svc svc' (.internal env roomId cmd) := by
  obtain ⟨hr, hj, hb⟩ := view_eq_iff.1 h
  refine ⟨?_, rfl⟩
  simp only [serviceStep, inputRoom]
  rw [hr]
  cases svc'.rooms.lookup roomId with
  | none => exact h
  | some room =>
    dsimp only
    split_ifs
    · simp [view, tellRoom, hj, hb]
    · exact h

theorem insertTxBinding_alike {repo repo' : ChainTxRepo} {record : TxBindingInsert}
    (h : SameKeys repo repo' ⟨record.txHash, (record.handId, record.actionSeq)⟩) :
    (∃ e, repo.insertTxBinding record = .error e ∧ repo'.insertTxBinding record = .error e) ∨
    ∃ next next', repo.insertTxBinding record = .ok next ∧ repo'.insertTxBinding record = .ok next' ∧
      ∀ p, SameKeys repo repo' p → SameKeys next next' p := by
  unfold ChainTxRepo.insertTxBinding
  by_cases hturn : (record.handId, record.actionSeq) ∈ repo'.txBindingsByAction
  · rw [if_pos hturn, if_pos (h.turn.2 hturn)]
    exact .inl ⟨_, rfl, rfl⟩
  rw [if_neg hturn, if_neg fun hmem => hturn (h.turn.1 hmem)]
  by_cases hhash : record.txHash ∈ repo'.txBindingsByHash
  · rw [if_pos hhash, if_pos (h.txHash.2 hhash)]
    exact .inl ⟨_, rfl, rfl⟩
  rw [if_neg hhash, if_neg fun hmem => hhash (h.txHash.1 hmem)]
  refine .inr ⟨_, _, rfl, rfl, fun p hp => ⟨?_, ?_⟩⟩
  · rw [AList.mem_insert, AList.mem_insert, hp.turn]
  · rw [AList.mem_insert, AList.mem_insert, hp.txHash]

theorem act_alike (env : RoomEnv Card) (request : GameActRequest)
    (h : view svc request.roomId = view svc' request.roomId)
    (hkeys : ∀ p, inputPayment (.act env request) = some p → SameKeys svc.chainTxRepo svc'.chainTxRepo p) :
    ReactsAlike config svc svc' (.act env request) ∧
      ∀ p, SameKeys svc.chainTxRepo svc'.chainTxRepo p →
        SameKeys (serviceStep config svc (.act env request)).chainTxRepo
          (serviceStep config svc' (.act env request)).chainTxRepo p := by
  obtain ⟨hr, hj, hb⟩ := view_eq_iff.1 h
  simp only [ReactsAlike, serviceStep, answer, AppRoomService.act, inputRoom]
  rw [hr]
  cases svc'.rooms.lookup request.roomId with
  | none => exact ⟨⟨h, rfl⟩, fun _ hp => hp⟩
  | some room =>
    cases toPlayerAction request with
    | error e => exact ⟨⟨h, rfl⟩, fun _ hp => hp⟩
    | ok action =>
      cases hhash : request.txHash with
      | none =>
        refine ⟨⟨?_, rfl⟩, fun _ hp => hp⟩
        simp [view, tellRoom, hj, hb]
      | some txHash =>
        have hsame := hkeys ⟨txHash, (request.handId, request.actionSeq)⟩ (by
          rw [inputPayment, hhash]; rfl)
        dsimp only
        have hinsert := @insertTxBinding_alike _ _ (actBinding request txHash action) hsame
        rcases hinsert with ⟨e, he, he'⟩ | ⟨next, next', hnext, hnext', hafter⟩
        · rw [he, he']
          exact ⟨⟨h, rfl⟩, fun _ hp => hp⟩
        · rw [hnext, hnext']
          refine ⟨⟨?_, rfl⟩, hafter⟩
          simp [view, tellRoom, hj, hb]

theorem SameKeys.step_none {p : PaymentKeys} (h : SameKeys svc.chainTxRepo svc'.chainTxRepo p)
    {input : ServiceInput Card} (hnone : inputPayment input = none) :
    SameKeys (serviceStep config svc input).chainTxRepo (serviceStep config svc' input).chainTxRepo p := by
  have hkept : ∀ svc : AppRoomService Card,
      (serviceStep config svc input).chainTxRepo.txBindingsByAction = svc.chainTxRepo.txBindingsByAction ∧
      (serviceStep config svc input).chainTxRepo.txBindingsByHash = svc.chainTxRepo.txBindingsByHash := by
    intro svc
    rcases keys_step config svc input with hsame | ⟨q, -, hq, -⟩
    · exact hsame
    · rw [hnone] at hq
      cases hq
  constructor
  · rw [(hkept svc).1, (hkept svc').1]
    exact h.turn
  · rw [(hkept svc).2, (hkept svc').2]
    exact h.txHash

/-- Another payment does not count for this one, if they have no key in common. -/
theorem SameKeys.step_other {p : PaymentKeys} (h : SameKeys svc.chainTxRepo svc'.chainTxRepo p)
    {input : ServiceInput Card} (hapart : ∀ q, inputPayment input = some q → ¬ Clash p q) :
    SameKeys (serviceStep config svc input).chainTxRepo svc'.chainTxRepo p := by
  rcases keys_step config svc input with ⟨hturn, hhash⟩ | ⟨q, binding, hq, hturn, hhash⟩
  · constructor
    · rw [hturn]
      exact h.turn
    · rw [hhash]
      exact h.txHash
  · obtain ⟨hne, hne'⟩ := not_or.1 (hapart q hq)
    constructor
    · rw [hturn, AList.mem_insert, or_iff_right hne']
      exact h.turn
    · rw [hhash, AList.mem_insert, or_iff_right hne]
      exact h.txHash

/-- **The reaction to an input depends on its room and on the keys of its payment.** -/
theorem step_alike {input : ServiceInput Card}
    (h : view svc (inputRoom input) = view svc' (inputRoom input))
    (hkeys : ∀ p, inputPayment input = some p → SameKeys svc.chainTxRepo svc'.chainTxRepo p) :
    ReactsAlike config svc svc' input ∧ ∀ p, SameKeys svc.chainTxRepo svc'.chainTxRepo p →
      SameKeys (serviceStep config svc input).chainTxRepo (serviceStep config svc' input).chainTxRepo p := by
  cases input with
  | createRoom roomId handId =>
    refine ⟨⟨?_, rfl⟩, fun _ hp => hp.step_none rfl⟩
    obtain ⟨hr, hj, hb⟩ := view_eq_iff.1 h
    simp only [serviceStep, inputRoom] at hr hj hb ⊢
    rw [view_ensureRoom, view_ensureRoom]
    dsimp only [view]
    rw [hr, hj, hb]
  | join env request => exact ⟨join_alike env request h, fun _ hp => hp.step_none rfl⟩
  | ready env request => exact ⟨ready_alike env request h, fun _ hp => hp.step_none rfl⟩
  | bindAddress env request => exact ⟨bindAddress_alike env request h, fun _ hp => hp.step_none rfl⟩
  | bindSessionKeys env request =>
    exact ⟨bindSessionKeys_alike env request h, fun _ hp => hp.step_none rfl⟩
  | act env request => exact act_alike env request h hkeys
  | callback env handId callback =>
    exact ⟨callback_alike env handId callback h, fun _ hp => hp.step_none rfl⟩
  | internal env roomId cmd => exact ⟨internal_alike env roomId cmd h, fun _ hp => hp.step_none rfl⟩

end

/-! ### Runs -/

def isFor (r : RoomId) (input : ServiceInput Card) : Bool := inputRoom input = r

def payments (inputs : List (ServiceInput Card)) : List PaymentKeys := inputs.filterMap inputPayment

/-- The payments of a room have no key in common with those of the other rooms. -/
def PaysApart (r : RoomId) (inputs : List (ServiceInput Card)) : Prop :=
  ∀ p ∈ payments (inputs.filter (isFor r)), ∀ q ∈ payments (inputs.filter fun i => !isFor r i), ¬ Clash p q

instance (r : RoomId) (inputs : List (ServiceInput Card)) : Decidable (PaysApart r inputs) :=
  inferInstanceAs (Decidable (∀ p ∈ payments _, ∀ q ∈ payments _, ¬ Clash p q))

theorem mem_payments {inputs : List (ServiceInput Card)} {keep : ServiceInput Card → Bool}
    {input : ServiceInput Card} (hmem : input ∈ inputs) (hkeep : keep input = true) {p : PaymentKeys}
    (hp : inputPayment input = some p) : p ∈ payments (inputs.filter keep) :=
  List.mem_filterMap.2 ⟨input, List.mem_filter.2 ⟨hmem, hkeep⟩, hp⟩

/-- The two services agree on a room and on these payments. -/
structure Agree (r : RoomId) (Own : PaymentKeys → Prop) (svc svc' : AppRoomService Card) : Prop where
  view : view svc r = view svc' r
  keys : ∀ p, Own p → SameKeys svc.chainTxRepo svc'.chainTxRepo p

section

variable [RsPoker Card]

/-- Along a part of the inputs the service agrees with one that takes only the inputs for the room. -/
theorem agree_run (config : RoomActorConfig) {r : RoomId} {inputs : List (ServiceInput Card)}
    (hapart : PaysApart r inputs) {part : List (ServiceInput Card)} (hpart : ∀ input ∈ part, input ∈ inputs)
    (svc : AppRoomService Card) :
    Agree r (fun p => p ∈ payments (inputs.filter (isFor r)))
      (run (serviceStep config) svc part) (run (serviceStep config) svc (part.filter (isFor r))) := by
  refine run_filter (Agree r _) (isFor r) part ?_ ?_ ⟨rfl, fun p _ => ⟨Iff.rfl, Iff.rfl⟩⟩
  · intro input hinput hfor s t hagree
    obtain rfl : inputRoom input = r := of_decide_eq_true hfor
    obtain ⟨halike, hkeys⟩ : ReactsAlike config s t input ∧ _ := step_alike hagree.view fun p hp =>
      hagree.keys p (mem_payments (hpart input hinput) hfor hp)
    exact ⟨halike.1, fun p hp => hkeys p (hagree.keys p hp)⟩
  · intro input hinput hfor s t hagree
    have hne : inputRoom input ≠ r := of_decide_eq_false hfor
    have hother : (!isFor r input) = true := by rw [hfor]; rfl
    refine ⟨(view_step_ne hne.symm).trans hagree.view, fun p hp => (hagree.keys p hp).step_other ?_⟩
    exact fun q hq => hapart p hp q (mem_payments (hpart input hinput) hother hq)

/-- **A room does not notice the other ones**: if its payments share no key with theirs, then from any state
of the service, along any inputs, the service keeps of the room what it would keep if there were no inputs
for the others, and gives every request for the room the same answer. -/
theorem room_isolated (config : RoomActorConfig) (svc : AppRoomService Card) (r : RoomId)
    (inputs : List (ServiceInput Card)) (hapart : PaysApart r inputs) :
    view (run (serviceStep config) svc inputs) r =
        view (run (serviceStep config) svc (inputs.filter (isFor r))) r ∧
      ∀ before input after, inputs = before ++ input :: after → inputRoom input = r →
        answer config (run (serviceStep config) svc before) input =
          answer config (run (serviceStep config) svc (before.filter (isFor r))) input := by
  refine ⟨(agree_run config hapart (fun _ h => h) svc).view, ?_⟩
  rintro before input after rfl rfl
  have hagree := agree_run config hapart (fun _ h => List.mem_append_left _ h) svc
  refine (step_alike hagree.view fun p hp => ?_).1.2
  have hmem : input ∈ before ++ input :: after := List.mem_append_right _ List.mem_cons_self
  exact hagree.keys p (mem_payments hmem (decide_eq_true rfl) hp)

end

/-- A paid call of seat `0`, for the first action of a hand. -/
def paidCall (roomId : RoomId) (handId : HandId) (txHash : String) : ServiceInput ByteCard :=
  .act tableEnv
    { roomId, handId, actionSeq := 1, seatId := 0, actionType := "call", amount := some "100",
      txHash := some txHash,
      requestMeta :=
        { requestId := ⟨1⟩, requestNonce := "n", requestTs := 0, requestExpiryMs := 30000,
          signaturePubkeyId := "0xa", signature := "0xs" } }

/-- Two rooms, and a paid call in the second one that names the given hand. -/
def neighbours (handId : HandId) : List (ServiceInput ByteCard) :=
  [.createRoom ⟨0⟩ ⟨5⟩, .createRoom ⟨1⟩ ⟨6⟩, paidCall ⟨1⟩ handId "0xb"]

/-- The call in the first room is answered, and queued, as if there were no second one. -/
theorem neighbours_undisturbed :
    let inputs := neighbours ⟨6⟩ ++ [paidCall ⟨0⟩ ⟨5⟩ "0xa"]
    PaysApart ⟨0⟩ inputs ∧
      view (run (serviceStep {}) {} inputs) ⟨0⟩ =
        view (run (serviceStep {}) {} (inputs.filter (isFor ⟨0⟩))) ⟨0⟩ := by
  intro inputs
  have hapart : PaysApart ⟨0⟩ inputs := by decide
  exact ⟨hapart, (room_isolated {} {} ⟨0⟩ inputs hapart).1⟩

/-- A neighbour that names the hand of the first room has its call refused. -/
example : answer {} (run (serviceStep {}) {} (neighbours ⟨5⟩)) (paidCall ⟨0⟩ ⟨5⟩ "0xa") =
    some (.error (.upstream "duplicate tx binding for hand/action")) := by
  decide +kernel

end HoldemPlatform.Service.Isolation
