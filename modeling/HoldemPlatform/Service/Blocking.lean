import HoldemPlatform.Service.Payments

/-!
# Who Can Block a Seat

`act` binds a transaction to the hand and sequence number the request names before anybody asks whose
turn it is, and a pair of hand and sequence number is bound once. A request of another seat changes
the answer to the acting seat exactly if it takes the pair first.
-/

namespace HoldemPlatform.Service.Blocking

open HoldemPlatform.Lib.FiniteMap HoldemPlatform.Lib.Run
open HoldemPlatform.Domain.Money HoldemPlatform.Domain.Game HoldemPlatform.Engine.State
open HoldemPlatform.Chain.TxRepo HoldemPlatform.Room.Actor HoldemPlatform.Room.Effect
open HoldemPlatform.Gateway.Requests HoldemPlatform.Service.RoomService
open HoldemPlatform.Service.Payments

variable {Card : Type}

def actStep [RsPoker Card] (config : RoomActorConfig) (svc : AppRoomService Card)
    (input : RoomEnv Card × GameActRequest) : AppRoomService Card :=
  (svc.act config input.1 input.2).1

/-- The request takes the pair of hand and sequence number: it names it, its room exists, it is well
formed, and its transaction is not bound yet. -/
def TakesPair (key : HandId × ActionSeq) (svc : AppRoomService Card) (request : GameActRequest) :
    Prop :=
  (request.handId, request.actionSeq) = key ∧ request.roomId ∈ svc.rooms ∧
    (∃ action, toPlayerAction request = .ok action) ∧
    ∃ txHash, request.txHash = some txHash ∧ txHash ∉ svc.chainTxRepo.txBindingsByHash

section

variable [RsPoker Card] {config : RoomActorConfig} {svc : AppRoomService Card} {env : RoomEnv Card}
  {request : GameActRequest}

theorem act_answer {room : RoomState Card} {txHash : String}
    (hroom : svc.rooms.lookup request.roomId = some room) (hhash : request.txHash = some txHash) :
    (svc.act config env request).2 =
      match toPlayerAction request with
      | .error e => .error e
      | .ok _ =>
        if (request.handId, request.actionSeq) ∈ svc.chainTxRepo.txBindingsByAction then
          .error (.upstream LedgerStoreError.duplicateTxBinding.text)
        else if txHash ∈ svc.chainTxRepo.txBindingsByHash then
          .error (.upstream LedgerStoreError.duplicateTxHashBinding.text)
        else .ok () := by
  unfold AppRoomService.act
  rw [hroom, hhash]
  cases haction : toPlayerAction request with
  | error e => rfl
  | ok action =>
    dsimp only
    unfold ChainTxRepo.insertTxBinding
    by_cases hpair : (request.handId, request.actionSeq) ∈ svc.chainTxRepo.txBindingsByAction
    · simp [actBinding, hpair]
    · by_cases hbound : txHash ∈ svc.chainTxRepo.txBindingsByHash
      · simp [actBinding, hpair, hbound]
      · simp [actBinding, hpair, hbound]

theorem mem_byAction_act (key : HandId × ActionSeq) :
    key ∈ (svc.act config env request).1.chainTxRepo.txBindingsByAction ↔
      key ∈ svc.chainTxRepo.txBindingsByAction ∨ TakesPair key svc request := by
  unfold AppRoomService.act TakesPair
  cases hroom : svc.rooms.lookup request.roomId with
  | none =>
    have hmem : request.roomId ∉ svc.rooms := AList.lookup_eq_none.1 hroom
    simp [hmem]
  | some room =>
    have hmem : request.roomId ∈ svc.rooms := mem_of_lookup_some hroom
    cases haction : toPlayerAction request with
    | error e => simp
    | ok action =>
      cases hhash : request.txHash with
      | none => simp [tellRoom]
      | some txHash =>
        dsimp only
        cases hinsert : svc.chainTxRepo.insertTxBinding (actBinding request txHash action) with
        | error e =>
          -- a refused binding: the pair was bound, or the hash was
          unfold ChainTxRepo.insertTxBinding at hinsert
          split_ifs at hinsert with hpair hbound
          · refine ⟨.inl, ?_⟩
            rintro (hkey | ⟨rfl, -⟩)
            · exact hkey
            · exact hpair
          · have hbound' : txHash ∈ svc.chainTxRepo.txBindingsByHash := hbound
            simp [hbound']
        | ok repo =>
          obtain ⟨hpair, hnew, rfl⟩ := insertTxBinding_eq_ok.1 hinsert
          have hnew' : txHash ∉ svc.chainTxRepo.txBindingsByHash := hnew
          dsimp only
          simp [AList.mem_insert, hmem, hnew', actBinding, or_comm, eq_comm]

theorem act_keeps (txHash : String) (hother : request.txHash ≠ some txHash) :
    (∀ roomId, roomId ∈ svc.rooms → roomId ∈ (svc.act config env request).1.rooms) ∧
      (txHash ∉ svc.chainTxRepo.txBindingsByHash →
        txHash ∉ (svc.act config env request).1.chainTxRepo.txBindingsByHash) := by
  constructor
  · intro roomId hmem
    cases (show ServiceEffect config svc (.act env request) _ from act_effect env request) with
    | idle hrooms => rw [hrooms]; exact hmem
    | opened _ _ _ _ _ hrooms => rw [hrooms, AList.mem_insert]; exact .inr hmem
    | told _ _ _ _ _ _ hrooms => rw [hrooms, AList.mem_insert]; exact .inr hmem
    | verified _ _ _ _ _ hrooms => rw [hrooms, AList.mem_insert]; exact .inr hmem
    | queued _ _ _ _ _ _ _ _ _ _ hrooms => rw [hrooms, AList.mem_insert]; exact .inr hmem
  · intro hnew hmem
    have hstep : txHash ∈
        (serviceStep config svc (.act env request)).chainTxRepo.txBindingsByHash := hmem
    rcases binding_origin config hstep with hold | ⟨_, _, hinput, hhash⟩
    · exact hnew hold
    · cases hinput
      exact hother hhash

/-- After requests of others the pair is bound if it was before, or if one of them took it. -/
theorem mem_byAction_run (key : HandId × ActionSeq) :
    ∀ (others : List (RoomEnv Card × GameActRequest)) {svc : AppRoomService Card},
      key ∈ (run (actStep config) svc others).chainTxRepo.txBindingsByAction ↔
        key ∈ svc.chainTxRepo.txBindingsByAction ∨
          ¬ AllSteps (actStep config) (fun svc input => ¬ TakesPair key svc input.2) svc others
  | [], svc => by simp [AllSteps]
  | input :: rest, svc => by
    have hstep : key ∈ (actStep config svc input).chainTxRepo.txBindingsByAction ↔ _ :=
      mem_byAction_act key
    rw [run_cons, mem_byAction_run key rest, hstep, AllSteps, not_and_or, not_not, or_assoc]

/-- After requests of others the room is there and the transaction is not bound. -/
theorem run_keeps {txHash : String} {roomId : RoomId} :
    ∀ (others : List (RoomEnv Card × GameActRequest)) {svc : AppRoomService Card},
      (∀ input ∈ others, input.2.txHash ≠ some txHash) → roomId ∈ svc.rooms →
      txHash ∉ svc.chainTxRepo.txBindingsByHash →
      roomId ∈ (run (actStep config) svc others).rooms ∧
        txHash ∉ (run (actStep config) svc others).chainTxRepo.txBindingsByHash
  | [], _, _, hroom, hnew => ⟨hroom, hnew⟩
  | input :: rest, svc, hothers, hroom, hnew => by
    obtain ⟨hrooms, hbound⟩ : (∀ roomId, roomId ∈ svc.rooms →
        roomId ∈ (actStep config svc input).rooms) ∧ _ :=
      act_keeps txHash (hothers input List.mem_cons_self)
    exact run_keeps rest (fun other hmem => hothers other (List.mem_cons_of_mem input hmem))
      (hrooms roomId hroom) (hbound hnew)

theorem act_engine {txHash : String} (hhash : request.txHash = some txHash) (roomId : RoomId) :
    ((svc.act config env request).1.rooms.lookup roomId).map (fun room => room.state) =
      (svc.rooms.lookup roomId).map fun room => room.state := by
  unfold AppRoomService.act
  rw [hhash]
  split
  · rfl
  rename_i room hroom
  split
  · rfl
  dsimp only
  split
  · rfl
  · by_cases hid : roomId = request.roomId
    · subst hid
      rw [hroom]
      simp [tellRoom, roomStep, queuePendingChainAction, recordBehaviorEvent]
    · simp [tellRoom, AList.lookup_insert_ne hid]

/-- **Others change the answer to a seat's request exactly by taking its pair**: the answer is the
same if the request is malformed, if the pair was bound already, or if none of the other requests
takes the pair; otherwise it is not. -/
theorem same_answer_iff (config : RoomActorConfig) (svc : AppRoomService Card)
    (others : List (RoomEnv Card × GameActRequest)) (env : RoomEnv Card) (request : GameActRequest)
    (txHash : String) (hroom : request.roomId ∈ svc.rooms) (hhash : request.txHash = some txHash)
    (hnew : txHash ∉ svc.chainTxRepo.txBindingsByHash)
    (hothers : ∀ input ∈ others, input.2.txHash ≠ some txHash) :
    ((run (actStep config) svc others).act config env request).2 = (svc.act config env request).2 ↔
      (∃ e, toPlayerAction request = .error e) ∨
      (request.handId, request.actionSeq) ∈ svc.chainTxRepo.txBindingsByAction ∨
      AllSteps (actStep config)
        (fun svc input => ¬ TakesPair (request.handId, request.actionSeq) svc input.2) svc others := by
  obtain ⟨hroom', hnew'⟩ : request.roomId ∈ (run (actStep config) svc others).rooms ∧ _ :=
    run_keeps others hothers hroom hnew
  obtain ⟨room, hlookup⟩ := exists_lookup_of_mem hroom
  obtain ⟨room', hlookup'⟩ := exists_lookup_of_mem hroom'
  have hpair : (request.handId, request.actionSeq) ∈
      (run (actStep config) svc others).chainTxRepo.txBindingsByAction ↔ _ :=
    mem_byAction_run (request.handId, request.actionSeq) others
  rw [act_answer hlookup hhash, act_answer hlookup' hhash]
  cases haction : toPlayerAction request with
  | error e => simp
  | ok action =>
    by_cases hbefore : (request.handId, request.actionSeq) ∈ svc.chainTxRepo.txBindingsByAction
    · have hafter := hpair.2 (.inl hbefore)
      simp [hbefore, hafter]
    · rw [or_iff_right hbefore] at hpair
      simp [hbefore, hnew, hnew', hpair]

end

/-- Seat 0 is to act with action 1 of hand 1. A call of seat 1 that names the same hand and action is
accepted and leaves the engine as it is, and the call of seat 0 is refused from then on. -/
theorem acting_seat_blocked :
    let svc := run (serviceStep {}) {} tableInputs
    let other := payRequest 1 1 "call" "100000000000000" "0xbad"
    let request := payRequest 1 0 "call" "100000000000000" "0x1"
    (svc.rooms.lookup ⟨0⟩).map (fun room =>
        (room.state.snapshot.actingSeatId, room.state.snapshot.handId,
          room.state.snapshot.nextActionSeq)) = some (some 0, ⟨1⟩, 1) ∧
      ((actStep {} svc (tableEnv, other)).rooms.lookup ⟨0⟩).map (fun room => room.state) =
        (svc.rooms.lookup ⟨0⟩).map (fun room => room.state) ∧
      (svc.act {} tableEnv request).2 = .ok () ∧
      ((actStep {} svc (tableEnv, other)).act {} tableEnv request).2 =
        .error (.upstream "duplicate tx binding for hand/action") := by
  exact ⟨by decide +kernel, act_engine rfl ⟨0⟩, by decide +kernel, by decide +kernel⟩

/-- A call of seat 1 that names the action after the current one does not change the answer. -/
theorem acting_seat_unaffected :
    ((run (actStep {}) (run (serviceStep {}) {} tableInputs)
        [(tableEnv, payRequest 2 1 "call" "100000000000000" "0x2")]).act {} tableEnv
          (payRequest 1 0 "call" "100000000000000" "0x1")).2 =
      ((run (serviceStep {}) {} tableInputs).act {} tableEnv
        (payRequest 1 0 "call" "100000000000000" "0x1")).2 := by
  refine (same_answer_iff {} _ _ _ _ "0x1" (by decide +kernel) rfl (by decide +kernel) ?_).2
    (.inr (.inr ⟨?_, trivial⟩))
  · simp [payRequest]
  · rintro ⟨hkey, -⟩
    exact absurd hkey (by decide)

end HoldemPlatform.Service.Blocking
