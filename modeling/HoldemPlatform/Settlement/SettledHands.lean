import HoldemPlatform.Room.Effect
import HoldemPlatform.Settlement.DoublePayout

/-!
# Settled Hands and Their Plans

Commands of the room interleave with polls of the settlement loop. A hand is settled in two places:
by `CompleteSettlement`, which only the orchestrator sends after it has recorded a plan, and by the
engine itself when one seat is left in the hand, where nobody records a plan. In a run without the
second, every settled hand has a recorded plan.
-/

namespace HoldemPlatform.Settlement.SettledHands

open HoldemPlatform.Lib.FiniteMap HoldemPlatform.Lib.Run HoldemPlatform.Domain.Money
open HoldemPlatform.Domain.Game HoldemPlatform.Engine.State HoldemPlatform.Engine.Deal
open HoldemPlatform.Engine.Turn HoldemPlatform.Engine.Action HoldemPlatform.Engine.Run
open HoldemPlatform.Room.Actor HoldemPlatform.Room.Effect
open HoldemPlatform.Settlement.Orchestrator HoldemPlatform.Settlement.DoublePayout

variable {Card : Type}

/-- A room with its settlement loop: polls that have read an engine state and not yet run on it, and
`CompleteSettlement` commands on their way to the room. -/
structure SettlingRoom (Card : Type) where
  room : RoomState Card
  stores : SettlementStores := {}
  polls : List (EngineState Card) := []
  mailbox : List HandId := []

inductive SettlingInput (Card : Type) where
  | command (env : RoomEnv Card) (cmd : RoomCommand)
  | pollRead
  | pollRun (i : ℕ) (env : PollEnv Card)
  | deliver (i : ℕ)

/-- One step. `CompleteSettlement` reaches the room by `deliver` only. -/
def settlingStep [RsPoker Card] (config : RoomActorConfig) (sys : SettlingRoom Card) :
    SettlingInput Card → SettlingRoom Card
  | .command _ (.completeSettlement _) => sys
  | .command env cmd => { sys with room := (roomStep config env sys.room cmd).1 }
  | .pollRead => { sys with polls := sys.polls ++ [sys.room.state] }
  | .pollRun i env =>
    match sys.polls[i]? with
    | none => sys
    | some st =>
      let r := tryAutoSettleShowdownRoom env sys.stores (.ok (some st))
      { sys with
        stores := r.stores, polls := sys.polls.eraseIdx i,
        mailbox := sys.mailbox ++ r.completed.toList }
  | .deliver i =>
    match sys.mailbox[i]? with
    | none => sys
    | some handId =>
      { sys with room := completeSettlement sys.room handId, mailbox := sys.mailbox.eraseIdx i }

def Planned (stores : SettlementStores) (handId : HandId) : Prop :=
  ∃ record ∈ stores.settlementPlans, record.handId = handId

/-- If the room's hand is settled and has a pot, its plan is recorded. -/
def SettledWasPlanned (sys : SettlingRoom Card) : Prop :=
  sys.room.state.snapshot.status = .settled → 0 < sys.room.state.snapshot.potTotal.asU128 →
    Planned sys.stores sys.room.state.snapshot.handId

/-- An accepted action leaves at least two seats in the hand. -/
def LeavesTwo (sys : SettlingRoom Card) : SettlingInput Card → Prop
  | .command env cmd => ∀ action, appliedAction env sys.room cmd = some action →
      Acceptable sys.room.state action →
      2 ≤ (sys.room.state.hand.seatedPlayers.filter
        (· ∉ foldedAfter sys.room.state action)).card
  | _ => True

/-- Settled hands, and hands about to be settled, have their plans. -/
structure PlannedInv (sys : SettlingRoom Card) : Prop where
  engine : EngineInv sys.room.state
  settled : sys.room.state.snapshot.status = .settled →
    Planned sys.stores sys.room.state.snapshot.handId
  mailbox : ∀ handId ∈ sys.mailbox, Planned sys.stores handId

section

variable [RsPoker Card] {env : RoomEnv Card} {sys : SettlingRoom Card}

theorem applyAction_not_settled {st : EngineState Card} {action : PlayerAction}
    (hinv : EngineInv st)
    (htwo : Acceptable st action →
      2 ≤ (st.hand.seatedPlayers.filter (· ∉ foldedAfter st action)).card)
    (hsettled : (applyAction st action).1.snapshot.status = .settled) :
    (applyAction st action).1.snapshot = st.snapshot := by
  rcases applyAction_cases hinv.pot action with ⟨hok, st', result, happ, hacc⟩ | ⟨-, round, e, happ⟩
  · rw [happ] at hsettled
    have hrunning := (hinv.acting _ hok.turn).2
    have hactive : 2 ≤ (activeSeats st').card := by
      unfold activeSeats
      rw [hacc.seatedPlayers, hacc.foldedSeats]
      exact htwo hok
    rcases hacc.status hactive with hs | hs <;> simp [hs, hrunning] at hsettled
  · rw [happ]

/-- A command other than `CompleteSettlement` that leaves two seats settles no hand. -/
theorem effect_not_settled {cmd : RoomCommand} {st' : EngineState Card}
    (h : HandEffect env sys.room cmd st') (hinv : EngineInv sys.room.state)
    (hcmd : ∀ handId, cmd ≠ .completeSettlement handId)
    (htwo : LeavesTwo sys (.command env cmd)) (hsettled : st'.snapshot.status = .settled) :
    sys.room.state.snapshot.status = .settled ∧
      st'.snapshot.handId = sys.room.state.snapshot.handId := by
  cases h with
  | same => exact ⟨hsettled, rfl⟩
  | seat seatId => exact ⟨hsettled, rfl⟩
  | deal seatId =>
    rcases deal_cases sys.room.state env.newHandId env.deck with ⟨e, he⟩ | ⟨_, _, _, _, hd, -⟩
    · rw [he] at hsettled ⊢
      exact ⟨hsettled, rfl⟩
    · rw [hd] at hsettled
      cases hsettled
  | applied action happ =>
    have hsame := applyAction_not_settled hinv (htwo action happ) hsettled
    rw [hsame] at hsettled ⊢
    exact ⟨hsettled, rfl⟩
  | aborted => cases hsettled
  | completed h => exact absurd h (hcmd _)

theorem plannedInv_command (config : RoomActorConfig) {cmd : RoomCommand}
    (hcmd : ∀ handId, cmd ≠ .completeSettlement handId)
    (htwo : LeavesTwo sys (.command env cmd)) (h : PlannedInv sys) :
    PlannedInv { sys with room := (roomStep config env sys.room cmd).1 } where
  engine := engineInv_roomStep config cmd h.engine
  settled hsettled := by
    obtain ⟨hbefore, hhand⟩ :=
      effect_not_settled (roomStep_effect config cmd) h.engine hcmd htwo hsettled
    show Planned sys.stores _
    rw [hhand]
    exact h.settled hbefore
  mailbox := h.mailbox

/-- A poll only adds plans, and one for the hand it completes. -/
theorem planned_poll (env : PollEnv Card) (stores : SettlementStores) (st : EngineState Card) :
    let r := tryAutoSettleShowdownRoom env stores (.ok (some st))
    (∀ handId, Planned stores handId → Planned r.stores handId) ∧
      ∀ handId ∈ r.completed, Planned r.stores handId := by
  rcases poll_cases env stores (.ok (some st)) with
    ⟨hstores, -, hcompleted⟩ | ⟨_, plan, hst, -, -, hattempt⟩
  · refine ⟨fun _ h => ?_, fun _ h => ?_⟩
    · rw [hstores]
      exact h
    · rw [hcompleted] at h
      cases h
  · cases hst
    obtain ⟨record, hrecord, hplans⟩ := hattempt.plans
    refine ⟨fun handId ⟨old, hold, heq⟩ => ⟨old, ?_, heq⟩, fun handId hmem => ⟨record, ?_, ?_⟩⟩
    · rw [hplans]
      exact List.mem_append_left _ hold
    · rw [hplans]
      exact List.mem_append_right _ (List.mem_singleton_self _)
    · rcases hattempt.completed with hc | hc <;> rw [hc] at hmem <;> cases hmem
      exact hrecord

theorem plannedInv_step (config : RoomActorConfig) (sys : SettlingRoom Card)
    (input : SettlingInput Card) (htwo : LeavesTwo sys input) (h : PlannedInv sys) :
    PlannedInv (settlingStep config sys input) := by
  cases input with
  | command env cmd =>
    by_cases hcmd : ∃ handId, cmd = .completeSettlement handId
    · obtain ⟨handId, rfl⟩ := hcmd
      exact h
    · have hne : ∀ handId, cmd ≠ .completeSettlement handId := fun handId heq =>
        hcmd ⟨handId, heq⟩
      have hstep : settlingStep config sys (.command env cmd) =
          { sys with room := (roomStep config env sys.room cmd).1 } := by
        rw [settlingStep]
        exact fun handId heq => hne handId heq
      rw [hstep]
      exact plannedInv_command config hne htwo h
  | pollRead => exact ⟨h.engine, h.settled, h.mailbox⟩
  | pollRun i env =>
    rw [settlingStep]
    split
    · exact h
    · rename_i st _
      obtain ⟨hkeep, hdone⟩ := planned_poll env sys.stores st
      refine ⟨h.engine, fun hs => hkeep _ (h.settled hs), fun handId hmem => ?_⟩
      rcases List.mem_append.1 hmem with hold | hnew
      · exact hkeep _ (h.mailbox handId hold)
      · exact hdone handId (Option.mem_toList.1 hnew)
  | deliver i =>
    rw [settlingStep]
    split
    · exact h
    · rename_i handId hget
      have hrest : ∀ other ∈ sys.mailbox.eraseIdx i, Planned sys.stores other := fun other hmem =>
        h.mailbox other (List.mem_of_mem_eraseIdx hmem)
      unfold completeSettlement
      split_ifs with hopen
      · refine ⟨?_, fun _ => ?_, hrest⟩
        · rw [closeRoomHand_state]
          exact engineInv_endHand h.engine .settled
        · show Planned sys.stores (closeRoomHand sys.room .settled).state.snapshot.handId
          rw [closeRoomHand_state]
          exact hopen.1 ▸ h.mailbox handId (List.mem_of_getElem? hget)
      · exact ⟨h.engine, h.settled, hrest⟩

/-- **Every settled hand was planned**, in a run in which every accepted action leaves two seats in
the hand. -/
theorem settled_hands_planned (config : RoomActorConfig) (roomId : RoomId) (handId : HandId)
    (inputs : List (SettlingInput Card))
    (hall : AllSteps (settlingStep config) LeavesTwo { room := RoomState.spawn roomId handId }
      inputs) :
    SettledWasPlanned
      (run (settlingStep config) { room := RoomState.spawn roomId handId } inputs) := by
  have hinit : PlannedInv ({ room := RoomState.spawn roomId handId } : SettlingRoom Card) :=
    ⟨engineInv_spawn roomId handId, nofun, nofun⟩
  exact fun hsettled _ => (hall.run_inv PlannedInv (plannedInv_step config) hinit).settled hsettled

end

def emptyTable : SettlingRoom ByteCard where
  room := RoomState.spawn ⟨0⟩ ⟨0⟩

/-- A hand is dealt to two seats, and they act. -/
def playHand (actions : List PlayerAction) : List (SettlingInput ByteCard) :=
  (openTable ++ actions.map RoomCommand.act).map (SettlingInput.command tableEnv)

/-- One seat folds: the engine settles the hand with the blinds in the pot and no plan. -/
theorem fold_settled_unplanned :
    (run (settlingStep {}) emptyTable (playHand [tableAction 1 0 .fold none])
        ).room.state.snapshot.status = .settled ∧
      (run (settlingStep {}) emptyTable (playHand [tableAction 1 0 .fold none])
        ).room.state.snapshot.potTotal.asU128 = 300000000000000 ∧
      ¬ SettledWasPlanned
        (run (settlingStep {}) emptyTable (playHand [tableAction 1 0 .fold none])) := by
  have heval : (run (settlingStep {}) emptyTable (playHand [tableAction 1 0 .fold none])
        ).room.state.snapshot.status = .settled ∧
      (run (settlingStep {}) emptyTable (playHand [tableAction 1 0 .fold none])
        ).room.state.snapshot.potTotal.asU128 = 300000000000000 ∧
      (run (settlingStep {}) emptyTable (playHand [tableAction 1 0 .fold none])
        ).stores.settlementPlans = [] := by
    decide +kernel
  obtain ⟨hsettled, hpot, hplans⟩ := heval
  refine ⟨hsettled, hpot, fun h => ?_⟩
  obtain ⟨record, hmem, -⟩ := h hsettled (by omega)
  rw [hplans] at hmem
  cases hmem

/-- Both seats go all in, and a poll settles the showdown. -/
def settledShowdown : List (SettlingInput ByteCard) :=
  playHand [tableAction 1 0 .allIn (some (.ofU128 1000000000000000)),
      tableAction 2 1 .allIn (some (.ofU128 1000000000000000)), tableAction 3 1 .check none] ++
    [.pollRead, .pollRun 0 (allInCall .confirmed).env, .deliver 0]

theorem leavesTwo_of_none {sys : SettlingRoom Card} {env : RoomEnv Card} {cmd : RoomCommand}
    (h : appliedAction env sys.room cmd = none) : LeavesTwo sys (.command env cmd) := by
  intro action haction
  rw [h] at haction
  cases haction

theorem leavesTwo_act {sys : SettlingRoom Card} {env : RoomEnv Card} {action : PlayerAction}
    (h : 2 ≤ (sys.room.state.hand.seatedPlayers.filter
      (· ∉ foldedAfter sys.room.state action)).card) :
    LeavesTwo sys (.command env (.act action)) := by
  intro other hother _
  cases hother
  exact h

/-- The showdown of two all-ins is settled with its plan recorded. -/
theorem showdown_settled_planned :
    (run (settlingStep {}) emptyTable settledShowdown).room.state.snapshot.status = .settled ∧
      (run (settlingStep {}) emptyTable settledShowdown).room.state.snapshot.potTotal.asU128
        = 2000000000000000 ∧
      SettledWasPlanned (run (settlingStep {}) emptyTable settledShowdown) := by
  have heval : (run (settlingStep {}) emptyTable settledShowdown).room.state.snapshot.status
        = .settled ∧
      (run (settlingStep {}) emptyTable settledShowdown).room.state.snapshot.potTotal.asU128
        = 2000000000000000 := by
    decide +kernel
  refine ⟨heval.1, heval.2, settled_hands_planned {} ⟨0⟩ ⟨0⟩ settledShowdown ?_⟩
  refine ⟨leavesTwo_of_none rfl, leavesTwo_of_none rfl, leavesTwo_of_none rfl, leavesTwo_of_none rfl,
    leavesTwo_of_none rfl, leavesTwo_of_none rfl, leavesTwo_of_none rfl, leavesTwo_of_none rfl,
    leavesTwo_act ?_, leavesTwo_act ?_, leavesTwo_act ?_, trivial, trivial, trivial, trivial⟩ <;>
  decide +kernel

end HoldemPlatform.Settlement.SettledHands
