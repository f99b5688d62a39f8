import HoldemPlatform.Lib.Marks
import HoldemPlatform.Room.Effect

/-!
# The Hand Events of a Room

What a command adds to the hand events the room has emitted. A command is quiet (at most it repeats
whose turn it is), or it starts a hand, announces an accepted action, or closes the hand;
`roomStep_announced` ties the events to what happened to the engine. The hands of a log are its
pieces between one start and the next.
-/

namespace HoldemPlatform.Room.HandLog

open HoldemPlatform.Lib.Marks HoldemPlatform.Lib.Run HoldemPlatform.Domain.Money HoldemPlatform.Domain.Game
open HoldemPlatform.Engine.State HoldemPlatform.Engine.Deal HoldemPlatform.Engine.Turn
open HoldemPlatform.Engine.Action HoldemPlatform.Engine.Round HoldemPlatform.Engine.Run
open HoldemPlatform.Room.Actor HoldemPlatform.Room.Effect

variable {Card : Type}

def IsStart (e : HandEvent) : Prop := e.kind = .handStarted

/-- The log grew by events of these kinds, all about the hand that is now the current one. -/
structure Logged (st st' : RoomState Card) (kinds : List HandEventKind) : Prop where
  roomId : st'.roomId = st.roomId
  events : ∃ new, st'.sink.handEvents = st.sink.handEvents ++ new ∧ new.map HandEvent.kind = kinds ∧
    ∀ e ∈ new, e.roomId = st.roomId ∧ e.handId = st'.state.snapshot.handId

theorem logged_nil {st st' : RoomState Card} (hroom : st'.roomId = st.roomId)
    (hevents : st'.sink.handEvents = st.sink.handEvents) : Logged st st' [] :=
  ⟨hroom, [], by rw [hevents, List.append_nil], rfl, fun _ h => absurd h List.not_mem_nil⟩

theorem logged_append (st : RoomState Card) (kinds : List HandEventKind) :
    Logged st (appendHandEvents st kinds) kinds := by
  induction kinds generalizing st with
  | nil => exact logged_nil rfl rfl
  | cons kind kinds ih =>
    obtain ⟨hroom, new, hnew, hkinds, hids⟩ := ih (appendHandEvent st kind)
    refine ⟨hroom, ⟨st.roomId, st.state.snapshot.handId, st.nextHandEventSeq, kind⟩ :: new, ?_,
      by rw [List.map_cons, hkinds], ?_⟩
    · refine hnew.trans ?_
      simp [appendHandEvent]
    · intro e he
      rcases List.mem_cons.1 he with rfl | he
      · exact ⟨rfl, by rw [appendHandEvents_state]⟩
      · exact hids e he

theorem logged_emit (st : RoomState Card) (action : PlayerAction) (result : EngineActionResult) :
    Logged st (emitPostActionHandEvents st action result)
      (emittedKinds st.state action result) := by
  have hlog := logged_append st (emittedKinds st.state action result)
  unfold emitPostActionHandEvents
  dsimp only
  split_ifs
  · exact ⟨hlog.roomId, hlog.events⟩
  · exact hlog

/-- The `Ready` of a seat deals the next hand. -/
structure StartsHand [RsPoker Card] (env : RoomEnv Card) (st : RoomState Card) (seatId : SeatId) :
    Prop where
  seated : seatId ∈ st.seated
  noTurn : st.state.snapshot.actingSeatId = none
  quorum : 2 ≤ (eligibleReady { st with ready := insert seatId st.ready }).card
  dealt : (dealNewHandInternalWithDeck st.state env.newHandId env.deck).2 = .ok ()

instance [RsPoker Card] (env : RoomEnv Card) (st : RoomState Card) (seatId : SeatId) :
    Decidable (StartsHand env st seatId) :=
  decidable_of_iff
    (seatId ∈ st.seated ∧ st.state.snapshot.actingSeatId = none ∧
      2 ≤ (eligibleReady { st with ready := insert seatId st.ready }).card ∧
      (dealNewHandInternalWithDeck st.state env.newHandId env.deck).2 = .ok ())
    ⟨fun ⟨h1, h2, h3, h4⟩ => ⟨h1, h2, h3, h4⟩, fun h => ⟨h.seated, h.noTurn, h.quorum, h.dealt⟩⟩

/-- What a command does to the engine state, with the kinds of the events it emits. -/
inductive Announced [RsPoker Card] (env : RoomEnv Card) (st : RoomState Card) (cmd : RoomCommand) :
    EngineState Card → List HandEventKind → Prop
  | quiet (state : EngineState Card) (hsnap : state.snapshot = st.state.snapshot)
      (kinds : List HandEventKind) (hkinds : ∀ k ∈ kinds, ∃ s, k = .turnStarted s)
      (hno : ∀ action, appliedAction env st cmd = some action → ¬ Acceptable st.state action) :
      Announced env st cmd state kinds
  | started (seatId acting : SeatId) (h : cmd = .ready seatId) (hstarts : StartsHand env st seatId) :
      Announced env st cmd (dealNewHandInternalWithDeck st.state env.newHandId env.deck).1
        [.handStarted, .turnStarted acting]
  | accepted (action : PlayerAction) (h : appliedAction env st cmd = some action)
      (hok : Acceptable st.state action) (state : EngineState Card) (result : EngineActionResult)
      (happ : applyAction st.state action = (state, .ok result)) :
      Announced env st cmd state (emittedKinds state action result)
  | closed (status : HandStatus) (hnone : appliedAction env st cmd = none)
      (hstatus : (status = .aborted ∧ (st.state.snapshot.status = .running ∨
          st.state.snapshot.status = .showdown ∨ st.state.snapshot.status = .settling)) ∨
        (status = .settled ∧ (st.state.snapshot.status = .showdown ∨
          st.state.snapshot.status = .settling))) :
      Announced env st cmd (endHand st.state status) [.handClosed]

section

variable [RsPoker Card] {env : RoomEnv Card} {st : RoomState Card} {cmd : RoomCommand}

/-- The new state and log of a command. -/
def Explained (env : RoomEnv Card) (st : RoomState Card) (cmd : RoomCommand)
    (st' : RoomState Card) : Prop :=
  ∃ kinds, Announced env st cmd st'.state kinds ∧ Logged st st' kinds

theorem explained_silent {st' : RoomState Card} (hsnap : st'.state.snapshot = st.state.snapshot)
    (hroom : st'.roomId = st.roomId) (hevents : st'.sink.handEvents = st.sink.handEvents)
    (hno : appliedAction env st cmd = none) : Explained env st cmd st' :=
  ⟨[], .quiet _ hsnap [] (fun _ h => absurd h List.not_mem_nil)
    (fun action h => by rw [hno] at h; cases h), logged_nil hroom hevents⟩

theorem explained_reminder (st₀ : RoomState Card) (hstate : st₀.state = st.state)
    (hroom : st₀.roomId = st.roomId) (hevents : st₀.sink.handEvents = st.sink.handEvents)
    (seatId : SeatId) (hno : appliedAction env st cmd = none) :
    Explained env st cmd (appendHandEvents st₀ [.turnStarted seatId]) := by
  obtain ⟨hroom', new, hnew, hkinds, hids⟩ := logged_append st₀ [.turnStarted seatId]
  refine ⟨[.turnStarted seatId], .quiet _ (by rw [appendHandEvents_state, hstate]) _ ?_ ?_,
    hroom'.trans hroom, new, by rw [hnew, hevents], hkinds, by rwa [hroom] at hids⟩
  · exact fun k hk => ⟨seatId, List.mem_singleton.1 hk⟩
  · intro action h
    rw [hno] at h
    cases h

/-- An applied action is refused quietly, or accepted and announced. -/
theorem explained_apply (hinv : EngineInv st.state) (st₀ : RoomState Card)
    (hstate : st₀.state = st.state) (hroom : st₀.roomId = st.roomId)
    (hevents : st₀.sink.handEvents = st.sink.handEvents) {action : PlayerAction}
    (happl : appliedAction env st cmd = some action) :
    Explained env st cmd (applyAndEmit st₀ action).1 := by
  have hpot := hinv.pot
  rw [← hstate] at hpot
  by_cases hok : Acceptable st₀.state action
  · obtain ⟨mid, -, happ⟩ := applyAction_accepted hpot hok
    generalize (advanceTurn mid action.seatId).1 = state at happ
    generalize (⟨(advanceTurn mid action.seatId).2⟩ : EngineActionResult) = result at happ
    obtain ⟨hroom', new, hnew, hkinds, hids⟩ :=
      logged_emit (upsertHandSnapshot { st₀ with state }) action result
    have hstep : (applyAndEmit st₀ action).1 = clearScheduler (emitPostActionHandEvents
        (upsertHandSnapshot { st₀ with state }) action result) := by
      rw [applyAndEmit, happ]
    have hstate' : (applyAndEmit st₀ action).1.state = state := by rw [applyAndEmit_state, happ]
    refine ⟨emittedKinds state action result, ?_, ?_⟩
    · rw [hstate']
      rw [hstate] at happ hok
      exact .accepted action happl hok state result happ
    · rw [hstep]
      exact ⟨hroom'.trans hroom, new, by rw [← hevents]; exact hnew, hkinds, by
        rw [← hroom]; exact hids⟩
  · have hrefused : ∃ state e, applyAction st₀.state action = (state, .error e) ∧
        state.snapshot = st₀.state.snapshot := by
      rcases applyAction_refused hpot hok with ⟨-, e, happ⟩ | ⟨-, e, happ⟩
      · exact ⟨_, e, happ, rfl⟩
      · exact ⟨_, e, happ, by rw [placedBets_eq]⟩
    obtain ⟨state, e, happ, hsnap⟩ := hrefused
    have hstep : (applyAndEmit st₀ action).1 = { st₀ with state } := by rw [applyAndEmit, happ]
    rw [hstep]
    refine ⟨[], .quiet _ (by rw [← hstate]; exact hsnap) []
      (fun _ h => absurd h List.not_mem_nil) ?_, logged_nil hroom hevents⟩
    intro action' h
    obtain rfl := Option.some.inj (happl.symm.trans h)
    rwa [← hstate]

theorem explained_autoFold (hinv : EngineInv st.state) (seatId : SeatId)
    (happl : appliedAction env st cmd = some (autoFoldAction st seatId)) :
    Explained env st cmd (autoFold st seatId) := by
  have happly := explained_apply hinv st rfl rfl rfl happl
  unfold autoFold
  dsimp only
  generalize applyAndEmit st (autoFoldAction st seatId) = r at happly
  obtain ⟨st', result⟩ := r
  obtain ⟨kinds, hann, hlog⟩ := happly
  cases result with
  | ok _ => exact ⟨kinds, hann, hlog.roomId, hlog.events⟩
  | error _ => exact ⟨kinds, hann, hlog.roomId, hlog.events⟩

theorem explained_start {seatId : SeatId} (h : StartsHand env st seatId) :
    ∃ acting, (markReady env st seatId).state =
        (dealNewHandInternalWithDeck st.state env.newHandId env.deck).1 ∧
      Logged st (markReady env st seatId) [.handStarted, .turnStarted acting] := by
  have hdeal := eq_of_snd_ok h.dealt
  generalize (dealNewHandInternalWithDeck st.state env.newHandId env.deck).1 = state at hdeal
  have hready : markReady env st seatId =
      startHand env { st with ready := insert seatId st.ready, state } seatId := by
    unfold markReady
    rw [if_pos h.seated]
    dsimp only
    rw [if_pos ⟨h.noTurn, h.quorum⟩, hdeal]
  have hlog := logged_append
    { upsertHandSnapshot { st with ready := insert seatId st.ready, state } with
      privateEvents := st.privateEvents ++
        buildHoleCardsPrivateEvents env state st.cardPubkeys st.nextHandEventSeq
      sink := { (upsertHandSnapshot { st with ready := insert seatId st.ready, state }).sink with
        privateEvents := st.sink.privateEvents ++
          buildHoleCardsPrivateEvents env state st.cardPubkeys st.nextHandEventSeq } }
    [.handStarted, .turnStarted (state.snapshot.actingSeatId.getD seatId)]
  rw [hready]
  exact ⟨_, startHand_state env _ seatId, hlog.roomId, hlog.events⟩

theorem markReady_silent {seatId : SeatId} (h : ¬ StartsHand env st seatId) :
    (markReady env st seatId).state = st.state ∧ (markReady env st seatId).roomId = st.roomId ∧
      (markReady env st seatId).sink.handEvents = st.sink.handEvents := by
  unfold markReady
  split_ifs with hseat
  swap
  · exact ⟨rfl, rfl, rfl⟩
  dsimp only
  split_ifs with hdeal
  swap
  · exact ⟨rfl, rfl, rfl⟩
  rcases deal_cases st.state env.newHandId env.deck with ⟨e, he⟩ | ⟨_, _, _, _, hd, -, -⟩
  · rw [he]
    exact ⟨rfl, rfl, rfl⟩
  · exact absurd ⟨hseat, hdeal.1, hdeal.2, by rw [hd]⟩ h

theorem explained_markReady (seatId : SeatId) :
    Explained env st (.ready seatId) (markReady env st seatId) := by
  by_cases hstarts : StartsHand env st seatId
  · obtain ⟨acting, hstate, hlog⟩ := explained_start hstarts
    refine ⟨_, ?_, hlog⟩
    rw [hstate]
    exact .started seatId acting rfl hstarts
  · obtain ⟨hstate, hroom, hevents⟩ := markReady_silent hstarts
    exact explained_silent (by rw [hstate]) hroom hevents rfl

theorem explained_close {status : HandStatus} (hnone : appliedAction env st cmd = none)
    (hstatus : (status = .aborted ∧ (st.state.snapshot.status = .running ∨
        st.state.snapshot.status = .showdown ∨ st.state.snapshot.status = .settling)) ∨
      (status = .settled ∧ (st.state.snapshot.status = .showdown ∨
        st.state.snapshot.status = .settling))) :
    Explained env st cmd (closeRoomHand st status) := by
  have hlog := logged_append { st with state := endHand st.state status } [.handClosed]
  refine ⟨[.handClosed], ?_, hlog.roomId, hlog.events⟩
  rw [closeRoomHand_state]
  exact .closed status hnone hstatus

theorem explained_chainTxVerified (hinv : EngineInv st.state)
    (callback : ChainTxVerifiedCallback) :
    Explained env st (.chainTxVerified callback) (chainTxVerified st callback) := by
  suffices h : Explained env st (.chainTxVerified callback)
      (abortOnFailure (applyMatched st callback) callback) by
    obtain ⟨kinds, hann, hlog⟩ := h
    exact ⟨kinds, hann, hlog.roomId, hlog.events⟩
  by_cases hmatch : callback.status = "matched" ∧ callback.handId = some st.state.snapshot.handId
  · have habort : abortOnFailure (applyMatched st callback) callback = applyMatched st callback :=
      if_neg fun h => by rcases h.1 with h | h <;> simp [hmatch.1] at h
    rw [habort, applyMatched, if_pos hmatch]
    cases hpend : st.pendingChainActions.lookup callback.txHash with
    | none => exact explained_silent rfl rfl rfl (by simp [appliedAction, hmatch, hpend])
    | some action =>
      have happl : appliedAction env st (.chainTxVerified callback) = some action := by
        simp [appliedAction, hmatch, hpend]
      refine explained_apply hinv _ ?_ ?_ ?_ happl <;> rfl
  · rw [applyMatched, if_neg hmatch, abortOnFailure]
    have hnone : appliedAction env st (.chainTxVerified callback) = none := if_neg hmatch
    split_ifs with hfail
    · exact explained_close hnone (.inl ⟨rfl, hfail.2.2⟩)
    · exact explained_silent rfl rfl rfl hnone

theorem explained_clock (hinv : EngineInv st.state) {st' : RoomState Card}
    (h : ClockResult env st cmd st') : Explained env st cmd st' := by
  cases h with
  | waits _ hnone => exact explained_silent rfl rfl rfl hnone
  | reminds _ seatId hnone => refine explained_reminder _ ?_ ?_ ?_ seatId hnone <;> rfl
  | folds seatId happl => exact explained_autoFold hinv seatId happl

/-- **Every command is quiet, starts a hand, announces an accepted action or closes the hand**, and
its events say which. -/
theorem roomStep_announced (config : RoomActorConfig) (hinv : EngineInv st.state)
    (cmd : RoomCommand) : Explained env st cmd (roomStep config env st cmd).1 := by
  cases cmd with
  | join seatId => exact explained_silent rfl rfl rfl rfl
  | leave seatId => exact explained_silent rfl rfl rfl rfl
  | bindAddress seatId address =>
    show Explained env st _ (bindAddress st seatId address)
    unfold bindAddress
    split_ifs <;> exact explained_silent rfl rfl rfl rfl
  | bindSessionKeys seatId card request algo proof =>
    show Explained env st _ (bindSessionKeys st seatId card request algo)
    unfold bindSessionKeys
    split_ifs <;> exact explained_silent rfl rfl rfl rfl
  | ready seatId => exact explained_markReady seatId
  | getState => exact explained_silent rfl rfl rfl rfl
  | getEngineState => exact explained_silent rfl rfl rfl rfl
  | getLegalActions seatId => exact explained_silent rfl rfl rfl rfl
  | getPrivateEvents seatId handId => exact explained_silent rfl rfl rfl rfl
  | act action => exact explained_apply hinv st rfl rfl rfl rfl
  | queuePendingChainAction txHash action => exact explained_silent rfl rfl rfl rfl
  | chainTxVerified callback => exact explained_chainTxVerified hinv callback
  | completeSettlement handId =>
    show Explained env st _ (completeSettlement st handId)
    unfold completeSettlement
    split_ifs with h
    · exact explained_close rfl (.inr ⟨rfl, h.2⟩)
    · exact explained_silent rfl rfl rfl rfl
  | turnTimeoutElapsed generation => exact explained_clock hinv (turnTimeoutElapsed_clock generation)
  | turnReminderElapsed generation =>
    exact explained_clock hinv (turnReminderElapsed_clock generation)
  | schedulerTick => exact explained_clock hinv tickTurn_clock

end

/-! ### The room and the engine announce the same events -/

/-- The two lists look at status and acting seat in opposite order. A seat has the turn only while the
hand runs, so no hand is closed with a seat to act. -/
theorem emittedKinds_eq {state : EngineState Card} (hinv : EngineInv state) (action : PlayerAction)
    (result : EngineActionResult) :
    emittedKinds state action result = postActionEventKinds state action result := by
  unfold emittedKinds postActionEventKinds
  cases hact : state.snapshot.actingSeatId with
  | none => rfl
  | some seat =>
    have hrun : state.snapshot.status = .running := (hinv.acting seat hact).2
    simp [hrun]

/-- **The room emits what the engine lists**: after an accepted action in any state a room can reach,
the room appends the events that the engine's own list has, in its order, and so does every command
that applies the action. -/
theorem post_action_events_agree [RsPoker Card] (config : RoomActorConfig) (roomId : RoomId)
    (handId : HandId) (inputs : List (RoomInput Card)) (action : PlayerAction)
    (state : EngineState Card) (result : EngineActionResult) :
    let room := run (roomRunStep config) (RoomState.spawn roomId handId) inputs
    applyAction room.state action = (state, .ok result) →
      (∀ after : RoomState Card, after.state = state →
        ∃ new, (emitPostActionHandEvents after action result).sink.handEvents =
            after.sink.handEvents ++ new ∧
          new.map HandEvent.kind = postActionEventKinds state action result) ∧
      ∀ env cmd, appliedAction env room cmd = some action →
        ∃ new, (roomRunStep config room (env, cmd)).sink.handEvents = room.sink.handEvents ++ new ∧
          new.map HandEvent.kind = postActionEventKinds state action result := by
  intro room happ
  have hinv : EngineInv room.state := (roomInv_run config (roomInv_spawn roomId handId) inputs).engine
  have hnext : EngineInv state := by
    have h := engineInv_step room.state (.act action) hinv
    rwa [engineStep, happ] at h
  constructor
  · rintro after rfl
    obtain ⟨-, new, hnew, hkinds, -⟩ := logged_emit after action result
    exact ⟨new, hnew, by rw [hkinds, emittedKinds_eq hnext]⟩
  · intro env cmd happl
    have hexplained : Explained env room cmd (roomStep config env room cmd).1 :=
      roomStep_announced config hinv cmd
    obtain ⟨kinds, hann, -, new, hnew, hkinds, -⟩ := hexplained
    refine ⟨new, hnew, ?_⟩
    rw [hkinds]
    generalize (roomStep config env room cmd).1.state = next at hann
    cases hann with
    | quiet _ hsnap _ hturns hno =>
      exact absurd ((accepts_iff hinv.pot).1 ⟨result, by rw [happ]⟩) (hno action happl)
    | started seatId acting h => rw [h] at happl; cases happl
    | accepted action' happl' hok state' result' happ' =>
      obtain rfl := Option.some.inj (happl.symm.trans happl')
      rw [happ] at happ'
      cases happ'
      exact emittedKinds_eq hnext action result
    | closed status hnone => rw [hnone] at happl; cases happl

def tableCall : PlayerAction := tableAction 1 0 .call none

/-- The call of the small blind announces itself, the pot and the turn of the big blind. -/
theorem table_call_announced : ∃ new,
    (roomRunStep {} tableRoom (tableEnv, .act tableCall)).sink.handEvents =
        tableRoom.sink.handEvents ++ new ∧
      new.map HandEvent.kind = [.actionAccepted tableCall, .potUpdated (.ofU128 400000000000000),
        .turnStarted 1] := by
  obtain ⟨result, happ, hkinds⟩ : ∃ result,
      (applyAction tableRoom.state tableCall).2 = .ok result ∧
        postActionEventKinds (applyAction tableRoom.state tableCall).1 tableCall result =
          [.actionAccepted tableCall, .potUpdated (.ofU128 400000000000000), .turnStarted 1] := by
    refine ⟨⟨none⟩, ?_, ?_⟩ <;> decide +kernel
  rw [← hkinds]
  exact (post_action_events_agree {} ⟨0⟩ ⟨0⟩ (openTable.map fun cmd => (tableEnv, cmd)) tableCall _ result
    (eq_of_snd_ok happ)).2 tableEnv (.act tableCall) rfl

end HoldemPlatform.Room.HandLog
