import HoldemPlatform.Service.Payments

/-!
# The Log of Payments

The service together with what matched callbacks did: the pending payments they named, and the
payments they applied with the pot before and after. A transaction hash is bound once and for one
room, and a payment that was applied is pending nowhere, so it is never applied again.
-/

namespace HoldemPlatform.Service.PaymentLog

open HoldemPlatform.Lib.FiniteMap HoldemPlatform.Lib.Run
open HoldemPlatform.Domain.Money HoldemPlatform.Domain.Game HoldemPlatform.Engine.State
open HoldemPlatform.Room.Actor HoldemPlatform.Service.RoomService HoldemPlatform.Service.Payments

variable {Card : Type}

/-- A payment applied to the game, and the pot around it. -/
structure AppliedPayment extends Payment where
  potBefore : ℕ
  potAfter : ℕ
deriving DecidableEq

structure LoggedService (Card : Type) where
  svc : AppRoomService Card := {}
  processed : List Payment := []
  applied : List AppliedPayment := []

section

variable [RsPoker Card]

/-- The entry a step adds to the applied payments. -/
def appliedEntry (config : RoomActorConfig) (svc : AppRoomService Card)
    (input : ServiceInput Card) : Option AppliedPayment :=
  (appliedBy svc input).map fun p =>
    ⟨p, potTotal svc p.roomId, potTotal (serviceStep config svc input) p.roomId⟩

def logStep (config : RoomActorConfig) (log : LoggedService Card) (input : ServiceInput Card) :
    LoggedService Card where
  svc := serviceStep config log.svc input
  processed := log.processed ++ (processedBy log.svc input).toList
  applied := log.applied ++ (appliedEntry config log.svc input).toList

end

def LoggedService.appliedHashes (log : LoggedService Card) : List String :=
  log.applied.map fun p => p.txHash

/-- Applied payments are bound, pending nowhere, and applied once. -/
structure AppliedInv (log : LoggedService Card) : Prop where
  binding : BindingInv log.svc
  bound : ∀ txHash ∈ log.appliedHashes, txHash ∈ log.svc.chainTxRepo.txBindingsByHash
  taken : ∀ txHash ∈ log.appliedHashes, ∀ roomId room,
    log.svc.rooms.lookup roomId = some room → room.pendingChainActions.lookup txHash = none
  once : log.appliedHashes.Nodup

theorem appliedInv_init : AppliedInv ({} : LoggedService Card) :=
  ⟨bindingInv_init, nofun, nofun, .nil⟩

section

variable [RsPoker Card] {config : RoomActorConfig} {log : LoggedService Card}
  {input : ServiceInput Card}

/-- An applied payment was pending in its room, and the callback takes it. -/
theorem taken_of_appliedBy {svc : AppRoomService Card} {p : Payment}
    (h : appliedBy svc input = some p) : ∃ room callback,
      svc.rooms.lookup p.roomId = some room ∧
      room.pendingChainActions.lookup p.txHash = some p.action ∧
      callbackAt svc input = some (p.roomId, room, callback) ∧ Takes room callback p.txHash := by
  obtain ⟨room, callback, hcallback, hmatch, hhash, hpend, -⟩ := appliedBy_eq_some.1 h
  exact ⟨room, callback, lookup_of_callbackAt hcallback, hpend, hcallback,
    hmatch.1, hmatch.2, hhash⟩

theorem mem_appliedHashes_logStep {txHash : String}
    (h : txHash ∈ (logStep config log input).appliedHashes) :
    txHash ∈ log.appliedHashes ∨ ∃ p, appliedBy log.svc input = some p ∧ p.txHash = txHash := by
  simp only [LoggedService.appliedHashes, logStep, List.map_append, List.mem_append] at h
  refine h.imp id fun h => ?_
  obtain ⟨entry, hentry, rfl⟩ := List.mem_map.1 h
  obtain ⟨p, hp, rfl⟩ := Option.map_eq_some_iff.1 (Option.mem_toList.1 hentry)
  exact ⟨p, hp, rfl⟩

/-- A payment applied now is bound and was not applied before. -/
theorem fresh_of_appliedBy (hinv : AppliedInv log) {p : Payment}
    (h : appliedBy log.svc input = some p) :
    p.txHash ∈ log.svc.chainTxRepo.txBindingsByHash ∧ p.txHash ∉ log.appliedHashes := by
  obtain ⟨room, callback, hroom, hpend, -⟩ := taken_of_appliedBy h
  obtain ⟨binding, hbinding, -⟩ := hinv.binding.bound p.roomId room p.txHash p.action hroom hpend
  refine ⟨mem_of_lookup_some hbinding, fun hmem => ?_⟩
  rw [hinv.taken p.txHash hmem p.roomId room hroom] at hpend
  cases hpend

/-- After the step nothing is pending for an applied hash: it was pending in one room only, and the
callback took it out there. -/
theorem taken_logStep (hinv : AppliedInv log) {txHash : String}
    (h : txHash ∈ (logStep config log input).appliedHashes) (roomId : RoomId)
    (room : RoomState Card)
    (hroom : (serviceStep config log.svc input).rooms.lookup roomId = some room) :
    room.pendingChainActions.lookup txHash = none := by
  have hbound : txHash ∈ log.svc.chainTxRepo.txBindingsByHash := by
    rcases mem_appliedHashes_logStep h with hold | ⟨p, hp, rfl⟩
    · exact hinv.bound txHash hold
    · exact (fresh_of_appliedBy hinv hp).1
  refine Option.eq_none_iff_forall_ne_some.2 fun action hpend => ?_
  rcases pending_origin config hroom hpend with ⟨room₀, hroom₀, hpend₀, hkeep⟩ |
      ⟨env, request, -, -, -, -, hnew, -⟩
  · rcases mem_appliedHashes_logStep h with hold | ⟨p, hp, rfl⟩
    · rw [hinv.taken txHash hold roomId room₀ hroom₀] at hpend₀
      cases hpend₀
    · obtain ⟨room₁, callback, hroom₁, hpend₁, hcallback, htakes⟩ := taken_of_appliedBy hp
      obtain ⟨b, hb, hbroom, -⟩ := hinv.binding.bound roomId room₀ p.txHash action hroom₀ hpend₀
      obtain ⟨b', hb', hbroom', -⟩ :=
        hinv.binding.bound p.roomId room₁ p.txHash p.action hroom₁ hpend₁
      rw [hb, Option.some.injEq] at hb'
      obtain rfl : roomId = p.roomId := by rw [← hbroom, ← hbroom', hb']
      rw [hroom₀, Option.some.injEq] at hroom₁
      subst hroom₁
      exact hkeep callback hcallback htakes
  · exact hnew hbound

theorem appliedInv_step (config : RoomActorConfig) (log : LoggedService Card)
    (input : ServiceInput Card) (hinv : AppliedInv log) : AppliedInv (logStep config log input) where
  binding := bindingInv_step config log.svc input hinv.binding
  bound txHash hmem := by
    have hold : txHash ∈ log.svc.chainTxRepo.txBindingsByHash := by
      rcases mem_appliedHashes_logStep hmem with hold | ⟨p, hp, rfl⟩
      · exact hinv.bound txHash hold
      · exact (fresh_of_appliedBy hinv hp).1
    obtain ⟨binding, hbinding⟩ := exists_lookup_of_mem hold
    exact mem_of_lookup_some (lookup_binding_step config input hbinding)
  taken txHash hmem roomId room hroom := taken_logStep hinv hmem roomId room hroom
  once := by
    have hhashes : (logStep config log input).appliedHashes =
        log.appliedHashes ++ ((appliedBy log.svc input).map fun p => p.txHash).toList := by
      cases happ : appliedBy log.svc input <;>
        simp [LoggedService.appliedHashes, logStep, appliedEntry, happ]
    rw [hhashes]
    cases happ : appliedBy log.svc input with
    | none => simpa using hinv.once
    | some p =>
      refine hinv.once.append (List.nodup_singleton _) ?_
      intro txHash hold hnew
      cases List.mem_singleton.1 hnew
      exact (fresh_of_appliedBy hinv happ).2 hold

end

end HoldemPlatform.Service.PaymentLog
