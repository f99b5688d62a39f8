import HoldemPlatform.Engine.Progress
import HoldemPlatform.Room.Effect

/-!
# Callbacks of Other Turns

A callback names the hand, the seat and the action number of the payment it is about. The room only
compares the hand. A failed callback of the current hand aborts it, whatever turn it is about, and a
matched one applies the pending action stored under its transaction, whose own seat and number decide
whether it is accepted. So a callback that is not about the current turn leaves the hand where it is
exactly if it is neither of the two (`stray_callback_stands_iff`).
-/

namespace HoldemPlatform.Room.StrayCallbacks

open HoldemPlatform.Lib.Run HoldemPlatform.Domain.Money HoldemPlatform.Domain.Game
open HoldemPlatform.Engine.State HoldemPlatform.Engine.Action HoldemPlatform.Engine.Progress
open HoldemPlatform.Engine.Run HoldemPlatform.Room.Actor HoldemPlatform.Room.Effect

variable {Card : Type}

/-- The callback is about the payment of the current turn. -/
structure OfCurrentTurn (st : RoomState Card) (callback : ChainTxVerifiedCallback) : Prop where
  hand : callback.handId = some st.state.snapshot.handId
  seat : ∃ seatId, st.state.snapshot.actingSeatId = some seatId ∧ callback.seatId = some seatId
  seq : callback.actionSeq = some st.state.snapshot.nextActionSeq

/-- The callback reports a failed payment of the current hand, which is under way. -/
structure Aborts (st : RoomState Card) (callback : ChainTxVerifiedCallback) : Prop where
  failed : callback.status = "failed" ∨ callback.status = "unmatched"
  hand : callback.handId = some st.state.snapshot.handId
  underWay : st.state.snapshot.status = .running ∨ st.state.snapshot.status = .showdown ∨
    st.state.snapshot.status = .settling

/-- The callback reports a payment of the current hand, and the pending action stored under it is
acceptable now and moves the hand. -/
structure Releases (st : RoomState Card) (callback : ChainTxVerifiedCallback)
    (action : PlayerAction) : Prop where
  matched : callback.status = "matched"
  hand : callback.handId = some st.state.snapshot.handId
  pending : st.pendingChainActions.lookup callback.txHash = some action
  acceptable : Acceptable st.state action
  moves : ¬ Idle st.state action

section

variable {st : RoomState Card} {callback : ChainTxVerifiedCallback}

/-- A callback that applies no action leaves the hand where it is, unless it aborts it. -/
theorem abort_stands_iff :
    Stands st.state (abortOnFailure st callback).state ↔ ¬ Aborts st callback := by
  unfold abortOnFailure
  split_ifs with hfail
  · refine iff_of_false (fun hst => ?_) (not_not_intro ⟨hfail.1, hfail.2.1, hfail.2.2⟩)
    have hstatus := hst.status
    rw [closeRoomHand_state] at hstatus
    rcases hfail.2.2 with h | h | h <;> rw [h] at hstatus <;> cases hstatus
  · exact iff_of_true (Stands.refl _) fun h => hfail ⟨h.failed, h.hand, h.underWay⟩

/-- **When a callback leaves the hand where it is.** -/
theorem chainTxVerified_stands_iff [RsPoker Card] (env : RoomEnv Card) (hinv : EngineInv st.state) :
    Stands st.state (chainTxVerified st callback).state ↔
      ¬ Aborts st callback ∧ ∀ action, ¬ Releases st callback action := by
  cases happl : appliedAction env st (.chainTxVerified callback) with
  | none =>
    rw [chainTxVerified_state_of_none happl, abort_stands_iff]
    refine (and_iff_left fun action h => ?_).symm
    rw [appliedAction, if_pos ⟨h.matched, h.hand⟩, h.pending] at happl
    cases happl
  | some action =>
    rw [appliedAction] at happl
    split_ifs at happl with hmatch
    rw [chainTxVerified_state hmatch happl]
    have habort : ¬ Aborts st callback := fun h => by
      rcases h.failed with h | h <;> simp [hmatch.1] at h
    rw [and_iff_right habort]
    by_cases hok : Acceptable st.state action
    · rw [accepted_stands_iff hinv hok]
      constructor
      · intro hidle action' h
        cases happl.symm.trans h.pending
        exact h.moves hidle
      · intro h
        by_contra hmoves
        exact h action ⟨hmatch.1, hmatch.2, happl, hok, hmoves⟩
    · refine iff_of_true (refused_stands hinv hok) fun action' h => ?_
      cases happl.symm.trans h.pending
      exact hok h.acceptable

end

def roomAfter [RsPoker Card] (config : RoomActorConfig) (roomId : RoomId) (handId : HandId)
    (inputs : List (RoomInput Card)) : RoomState Card :=
  run (roomRunStep config) (RoomState.spawn roomId handId) inputs

/-- **A callback that is not about the current turn leaves the hand where it is exactly if it neither
aborts it nor releases a pending action**, in every state a room can reach. -/
theorem stray_callback_stands_iff [RsPoker Card] (config : RoomActorConfig) (roomId : RoomId)
    (handId : HandId) (inputs : List (RoomInput Card)) (env : RoomEnv Card)
    (callback : ChainTxVerifiedCallback) :
    (¬ OfCurrentTurn (roomAfter config roomId handId inputs) callback →
        Stands (roomAfter config roomId handId inputs).state
          (roomAfter config roomId handId (inputs ++ [(env, .chainTxVerified callback)])).state) ↔
      (¬ OfCurrentTurn (roomAfter config roomId handId inputs) callback →
        ¬ Aborts (roomAfter config roomId handId inputs) callback ∧
          ∀ action, ¬ Releases (roomAfter config roomId handId inputs) callback action) := by
  have hinv := roomInv_run config (roomInv_spawn roomId handId) inputs
  have hstep : roomAfter config roomId handId (inputs ++ [(env, .chainTxVerified callback)]) =
      chainTxVerified (roomAfter config roomId handId inputs) callback :=
    run_concat _ inputs _
  rw [hstep]
  exact imp_congr_right fun _ => chainTxVerified_stands_iff env hinv.engine

/-- A failed payment of a seat that does not have the turn. -/
def failedOf (handId : HandId) : ChainTxVerifiedCallback :=
  ⟨"0x1", "failed", 0, some handId, some 1, some 9, none⟩

/-- The failed payment of another seat and another action number aborts the hand. -/
theorem failed_payment_of_other_seat_aborts :
    ¬ OfCurrentTurn (roomAfter {} ⟨0⟩ ⟨0⟩ (openTable.map fun cmd => (tableEnv, cmd))) (failedOf ⟨1⟩) ∧
      ¬ Stands (roomAfter {} ⟨0⟩ ⟨0⟩ (openTable.map fun cmd => (tableEnv, cmd))).state
        (roomAfter {} ⟨0⟩ ⟨0⟩ (openTable.map (fun cmd => (tableEnv, cmd)) ++
          [(tableEnv, .chainTxVerified (failedOf ⟨1⟩))])).state := by
  have heval : (roomAfter {} ⟨0⟩ ⟨0⟩
        (openTable.map fun cmd => (tableEnv, cmd))).state.snapshot.actingSeatId = some 0 ∧
      (roomAfter {} ⟨0⟩ ⟨0⟩
        (openTable.map fun cmd => (tableEnv, cmd))).state.snapshot.status = .running ∧
      (roomAfter {} ⟨0⟩ ⟨0⟩ (openTable.map (fun cmd => (tableEnv, cmd)) ++
        [(tableEnv, .chainTxVerified (failedOf ⟨1⟩))])).state.snapshot.status = .aborted := by
    decide +kernel
  constructor
  · rintro ⟨-, ⟨seatId, hacting, hseat⟩, -⟩
    rw [heval.1] at hacting
    cases hacting
    cases hseat
  · intro hst
    have hstatus := hst.status
    rw [heval.2.1, heval.2.2] at hstatus
    cases hstatus

/-- The same payment of an earlier hand leaves the hand alone. -/
theorem failed_payment_of_other_hand_stands :
    Stands (roomAfter {} ⟨0⟩ ⟨0⟩ (openTable.map fun cmd => (tableEnv, cmd))).state
      (roomAfter {} ⟨0⟩ ⟨0⟩ (openTable.map (fun cmd => (tableEnv, cmd)) ++
        [(tableEnv, .chainTxVerified (failedOf ⟨0⟩))])).state := by
  have hother : (failedOf ⟨0⟩).handId ≠ some (roomAfter {} ⟨0⟩ ⟨0⟩
      (openTable.map fun cmd => (tableEnv, cmd))).state.snapshot.handId := by
    decide +kernel
  refine (stray_callback_stands_iff {} ⟨0⟩ ⟨0⟩ _ tableEnv (failedOf ⟨0⟩)).2 (fun _ => ?_)
    fun h => hother h.hand
  exact ⟨fun h => hother h.hand, fun _ h => hother h.hand⟩

end HoldemPlatform.Room.StrayCallbacks
