import HoldemPlatform.Room.TimerGeneration

/-!
# The Moves of a Room

Everything a command can do to the table at once: to the hand, to the clock of the turn and to the
events the clients see (`tableMove`). A command leaves the table alone, deals, has an action accepted,
or closes the hand, and the last three stop the clock. The clock itself moves at a tick only: it is
stopped, started for a new turn, or it reminds the acting seat.
-/

namespace HoldemPlatform.Room.Moves

open HoldemPlatform.Domain.Game
open HoldemPlatform.Engine.State HoldemPlatform.Engine.Deal HoldemPlatform.Engine.Turn
open HoldemPlatform.Engine.Action HoldemPlatform.Engine.Round HoldemPlatform.Engine.Run
open HoldemPlatform.Room.Actor HoldemPlatform.Room.Effect HoldemPlatform.Room.HandLog
open HoldemPlatform.Room.TimerGeneration

variable {Card : Type}

def clockTurn (s : TurnSchedulerState) : Turn := ⟨s.handId, s.actionSeq, s.seatId⟩

def startedClock (turn : Turn) (now : Instant) : TurnSchedulerState where
  handId := turn.handId
  actionSeq := turn.actionSeq
  seatId := turn.seatId
  startedAt := now
  lastReminderAt := none

theorem of_currentTurn {st : RoomState Card} {turn : Turn} (h : currentTurn st = some turn) :
    st.state.snapshot.actingSeatId = some turn.seatId ∧
      st.state.snapshot.nextActionSeq = turn.actionSeq := by
  obtain ⟨seatId, hact, rfl⟩ := Option.map_eq_some_iff.1 h
  exact ⟨hact, rfl⟩

/-- What a command does to the hand, the clock of the turn and the hand events. -/
inductive TableMove [RsPoker Card] (env : RoomEnv Card) (st : RoomState Card) (cmd : RoomCommand)
    (st' : RoomState Card) : Prop
  | idle (hcmd : cmd ≠ .schedulerTick) (hsnap : st'.state.snapshot = st.state.snapshot)
      (hclock : st'.turnScheduler = st.turnScheduler) (hlog : Logged st st' [])
  | dealt (acting : SeatId) (hact : st.state.snapshot.actingSeatId = none)
      (hdeal : dealNewHandInternalWithDeck st.state env.newHandId env.deck = (st'.state, .ok ()))
      (hacting : st'.state.snapshot.actingSeatId = some acting)
      (hclock : st'.turnScheduler = none) (hlog : Logged st st' [.handStarted, .turnStarted acting])
  | accepted (action : PlayerAction) (mid : EngineState Card) (hok : Acceptable st.state action)
      (hmid : BeforeTurn st.state action mid)
      (hstate : st'.state = (advanceTurn mid action.seatId).1) (hclock : st'.turnScheduler = none)
      (hlog : Logged st st'
        (emittedKinds st'.state action ⟨(advanceTurn mid action.seatId).2⟩))
  | closed (status : HandStatus) (hstatus : status = .settled ∨ status = .aborted)
      (hdealt : st.state.snapshot.status ≠ .created) (hstate : st'.state = endHand st.state status)
      (hclock : st'.turnScheduler = none) (hlog : Logged st st' [.handClosed])
  | called (generation : ℕ) (hcmd : cmd = .turnReminderElapsed generation) (seatId : SeatId)
      (hact : st.state.snapshot.actingSeatId = some seatId)
      (hsnap : st'.state.snapshot = st.state.snapshot)
      (hclock : st'.turnScheduler = st.turnScheduler) (hlog : Logged st st' [.turnStarted seatId])
  | stopped (hcmd : cmd = .schedulerTick) (hact : st.state.snapshot.actingSeatId = none)
      (hsnap : st'.state.snapshot = st.state.snapshot) (hclock : st'.turnScheduler = none)
      (hlog : Logged st st' [])
  | started (turn : Turn) (hcmd : cmd = .schedulerTick) (hturn : currentTurn st = some turn)
      (hnew : ∀ s, st.turnScheduler = some s → clockTurn s ≠ turn)
      (hsnap : st'.state.snapshot = st.state.snapshot)
      (hclock : st'.turnScheduler = some (startedClock turn env.now)) (hlog : Logged st st' [])
  | reminded (s : TurnSchedulerState) (hcmd : cmd = .schedulerTick) (hs : st.turnScheduler = some s)
      (hturn : currentTurn st = some (clockTurn s))
      (htime : env.now - s.startedAt < DEFAULT_STEP_TIMEOUT) (hdue : remindDue env.now s)
      (hsnap : st'.state.snapshot = st.state.snapshot)
      (hclock : st'.turnScheduler = some { s with lastReminderAt := some env.now })
      (hlog : Logged st st' [.turnStarted s.seatId])
  | waited (s : TurnSchedulerState) (hcmd : cmd = .schedulerTick) (hs : st.turnScheduler = some s)
      (hturn : currentTurn st = some (clockTurn s))
      (htime : env.now - s.startedAt < DEFAULT_STEP_TIMEOUT)
      (hsnap : st'.state.snapshot = st.state.snapshot) (hclock : st'.turnScheduler = some s)
      (hlog : Logged st st' [])

@[simp] theorem appendHandEvents_turnScheduler (st : RoomState Card) :
    ∀ kinds : List HandEventKind, (appendHandEvents st kinds).turnScheduler = st.turnScheduler := by
  intro kinds
  induction kinds generalizing st with
  | nil => rfl
  | cons kind kinds ih => exact ih (appendHandEvent st kind)

section

variable [RsPoker Card] {env : RoomEnv Card} {st : RoomState Card} {cmd : RoomCommand}

/-- An action that is accepted stops the clock; one that is refused leaves the table alone. -/
theorem tableMove_apply (hinv : EngineInv st.state) (st₀ : RoomState Card)
    (hstate : st₀.state = st.state) (hroom : st₀.roomId = st.roomId)
    (hclock : st₀.turnScheduler = st.turnScheduler)
    (hevents : st₀.sink.handEvents = st.sink.handEvents) (action : PlayerAction)
    (hcmd : cmd = .schedulerTick → Acceptable st.state action) :
    TableMove env st cmd (applyAndEmit st₀ action).1 := by
  have hpot := hinv.pot
  by_cases hok : Acceptable st.state action
  · obtain ⟨mid, hmid, happ⟩ := applyAction_accepted hpot hok
    obtain ⟨hroom', new, hnew, hkinds, hids⟩ := logged_emit
      (upsertHandSnapshot { st₀ with state := (advanceTurn mid action.seatId).1 }) action
      ⟨(advanceTurn mid action.seatId).2⟩
    have hstep : (applyAndEmit st₀ action).1 = clearScheduler (emitPostActionHandEvents
        (upsertHandSnapshot { st₀ with state := (advanceTurn mid action.seatId).1 }) action
        ⟨(advanceTurn mid action.seatId).2⟩) := by
      rw [applyAndEmit, hstate, happ]
    have hstate' : (applyAndEmit st₀ action).1.state = (advanceTurn mid action.seatId).1 := by
      rw [applyAndEmit_state, hstate, happ]
    refine .accepted action mid hok hmid hstate' (by rw [hstep]; rfl) ?_
    rw [hstate', hstep]
    exact ⟨hroom'.trans hroom, new, by rw [← hevents]; exact hnew, hkinds, by
      rw [← hroom]; exact hids⟩
  · have hrefused : ∃ state e, applyAction st₀.state action = (state, .error e) ∧
        state.snapshot = st.state.snapshot := by
      rw [hstate]
      rcases applyAction_refused hpot hok with ⟨-, e, happ⟩ | ⟨-, e, happ⟩
      · exact ⟨_, e, happ, rfl⟩
      · exact ⟨_, e, happ, by rw [placedBets_eq]⟩
    obtain ⟨state, e, happ, hsnap⟩ := hrefused
    have hstep : (applyAndEmit st₀ action).1 = { st₀ with state } := by rw [applyAndEmit, happ]
    rw [hstep]
    exact .idle (fun h => hok (hcmd h)) hsnap hclock (logged_nil hroom hevents)

/-- The behaviour log is not part of the table. -/
theorem TableMove.recorded {st' : RoomState Card} (h : TableMove env st cmd st')
    (kind : AuditBehaviorEventKind) : TableMove env st cmd (recordBehaviorEvent st' kind) := by
  have hkeep : ∀ {kinds}, Logged st st' kinds → Logged st (recordBehaviorEvent st' kind) kinds :=
    fun hlog => ⟨hlog.roomId, hlog.events⟩
  cases h with
  | idle hcmd hsnap hclock hlog => exact .idle hcmd hsnap hclock (hkeep hlog)
  | dealt acting hact hdeal hacting hclock hlog =>
    exact .dealt acting hact hdeal hacting hclock (hkeep hlog)
  | accepted action mid hok hmid hstate hclock hlog =>
    exact .accepted action mid hok hmid hstate hclock (hkeep hlog)
  | closed status hstatus hdealt hstate hclock hlog =>
    exact .closed status hstatus hdealt hstate hclock (hkeep hlog)
  | called generation hcmd seatId hact hsnap hclock hlog =>
    exact .called generation hcmd seatId hact hsnap hclock (hkeep hlog)
  | stopped hcmd hact hsnap hclock hlog => exact .stopped hcmd hact hsnap hclock (hkeep hlog)
  | started turn hcmd hturn hnew hsnap hclock hlog =>
    exact .started turn hcmd hturn hnew hsnap hclock (hkeep hlog)
  | reminded s hcmd hs hturn htime hdue hsnap hclock hlog =>
    exact .reminded s hcmd hs hturn htime hdue hsnap hclock (hkeep hlog)
  | waited s hcmd hs hturn htime hsnap hclock hlog =>
    exact .waited s hcmd hs hturn htime hsnap hclock (hkeep hlog)

theorem tableMove_autoFold (hinv : EngineInv st.state) {seatId : SeatId}
    (hact : st.state.snapshot.actingSeatId = some seatId) :
    TableMove env st cmd (autoFold st seatId) := by
  have hok : Acceptable st.state (autoFoldAction st seatId) := acceptable_fold rfl hact rfl
  obtain ⟨mid, -, happ⟩ := applyAction_accepted hinv.pot hok
  have hfold : autoFold st seatId = recordBehaviorEvent (applyAndEmit st (autoFoldAction st seatId)).1
      (.turnTimeoutAutoFold seatId
        ((applyAndEmit st (autoFoldAction st seatId)).1.state.snapshot.nextActionSeq - 1)) := by
    rw [autoFold, applyAndEmit, happ]
  rw [hfold]
  exact (tableMove_apply hinv st rfl rfl rfl rfl _ fun _ => hok).recorded _

theorem tableMove_close {status : HandStatus} (hstatus : status = .settled ∨ status = .aborted)
    (hdealt : st.state.snapshot.status ≠ .created) :
    TableMove env st cmd (closeRoomHand st status) := by
  have hlog := logged_append { st with state := endHand st.state status } [.handClosed]
  exact .closed status hstatus hdealt (closeRoomHand_state st status) rfl ⟨hlog.roomId, hlog.events⟩

theorem logged_startHand (env : RoomEnv Card) (st : RoomState Card) (seatId : SeatId) :
    Logged st (startHand env st seatId)
      [.handStarted, .turnStarted (st.state.snapshot.actingSeatId.getD seatId)] := by
  unfold startHand
  dsimp only
  generalize buildHoleCardsPrivateEvents env st.state st.cardPubkeys st.nextHandEventSeq = sealed
  have hlog := logged_append
    { upsertHandSnapshot st with
      privateEvents := st.privateEvents ++ sealed
      sink := { (upsertHandSnapshot st).sink with
        privateEvents := st.sink.privateEvents ++ sealed } }
    [.handStarted, .turnStarted (st.state.snapshot.actingSeatId.getD seatId)]
  exact ⟨hlog.roomId, hlog.events⟩

theorem tableMove_markReady (seatId : SeatId) :
    TableMove env st (.ready seatId) (markReady env st seatId) := by
  unfold markReady
  split_ifs with hseat
  swap
  · exact .idle (by simp) rfl rfl (logged_nil rfl rfl)
  dsimp only
  split_ifs with hquorum
  swap
  · exact .idle (by simp) rfl rfl (logged_nil rfl rfl)
  rcases deal_cases st.state env.newHandId env.deck with ⟨e, he⟩ | ⟨dealing, sb, bb, first, hd, -, -⟩
  · rw [he]
    exact .idle (by simp) rfl rfl (logged_nil rfl rfl)
  · rw [hd]
    refine .dealt first hquorum.1 (hd.trans ?_) ?_ rfl ?_
    · rw [startHand_state]
    · rw [startHand_state]
      rfl
    · have hlog := logged_startHand env
        { st with
          ready := insert seatId st.ready
          state := dealtState st.state dealing env.newHandId sb bb first } seatId
      exact ⟨hlog.roomId, hlog.events⟩

theorem tableMove_chainTxVerified (hinv : EngineInv st.state) (callback : ChainTxVerifiedCallback) :
    TableMove env st (.chainTxVerified callback) (chainTxVerified st callback) := by
  refine TableMove.recorded ?_ _
  by_cases hmatch : callback.status = "matched" ∧ callback.handId = some st.state.snapshot.handId
  · have habort : abortOnFailure (applyMatched st callback) callback = applyMatched st callback :=
      if_neg fun h => by rcases h.1 with h | h <;> simp [hmatch.1] at h
    rw [habort, applyMatched, if_pos hmatch]
    split
    · exact .idle (by simp) rfl rfl (logged_nil rfl rfl)
    · refine tableMove_apply hinv _ ?_ ?_ ?_ ?_ _ (by simp) <;> rfl
  · rw [applyMatched, if_neg hmatch, abortOnFailure]
    split_ifs with hfail
    · refine tableMove_close (.inr rfl) ?_
      rcases hfail.2.2 with hs | hs | hs <;> rw [hs] <;> decide
    · exact .idle (by simp) rfl rfl (logged_nil rfl rfl)

theorem tableMove_tickTurn (hroom : RoomInv st) :
    TableMove env st .schedulerTick (tickTurn env st) := by
  unfold tickTurn
  cases hact : st.state.snapshot.actingSeatId with
  | none => exact .stopped rfl hact rfl rfl (logged_nil rfl rfl)
  | some seatId =>
    dsimp only
    rw [if_neg (not_not_intro (hroom.copies.status_of_acting hact))]
    have hturn : currentTurn st =
        some ⟨st.state.snapshot.handId, st.state.snapshot.nextActionSeq, seatId⟩ := by
      rw [currentTurn, hact]
      rfl
    cases hs : st.turnScheduler with
    | none => exact .started _ rfl hturn (by simp [hs]) rfl rfl (logged_nil rfl rfl)
    | some s =>
      dsimp only
      split_ifs with hstale htime hdue
      · refine .started _ rfl hturn ?_ rfl rfl (logged_nil rfl rfl)
        intro s' hs' heq
        obtain rfl := Option.some.inj (hs.symm.trans hs')
        obtain ⟨hid, hseq, hseat⟩ := Turn.mk.inj heq
        exact hstale.elim (· hid) (·.elim (· hseq) (· hseat))
      · exact tableMove_autoFold hroom.engine hact
      -- the clock is of this turn
      all_goals
        push Not at hstale htime
        have hclock : currentTurn st = some (clockTurn s) := by
          rw [hturn, clockTurn, hstale.1, hstale.2.1, hstale.2.2]
      · have hlog := logged_append
          { st with turnScheduler := some { s with lastReminderAt := some env.now } }
          [.turnStarted seatId]
        refine .reminded s rfl hs hclock htime hdue ?_ ?_ ?_
        · rw [appendHandEvents_state]
        · rw [appendHandEvents_turnScheduler]
        · rw [hstale.2.2]
          exact ⟨hlog.roomId, hlog.events⟩
      · exact .waited s rfl hs hclock htime rfl hs (logged_nil rfl rfl)

/-- **Every command makes one of the moves.** -/
theorem tableMove (config : RoomActorConfig) (hroom : RoomInv st) (cmd : RoomCommand) :
    TableMove env st cmd (roomStep config env st cmd).1 := by
  cases cmd with
  | join seatId => exact .idle (by simp) rfl rfl (logged_nil rfl rfl)
  | leave seatId => exact .idle (by simp) rfl rfl (logged_nil rfl rfl)
  | bindAddress seatId address =>
    show TableMove env st _ (bindAddress st seatId address)
    unfold bindAddress
    split_ifs <;> exact .idle (by simp) rfl rfl (logged_nil rfl rfl)
  | bindSessionKeys seatId card request algo proof =>
    show TableMove env st _ (bindSessionKeys st seatId card request algo)
    unfold bindSessionKeys
    split_ifs <;> exact .idle (by simp) rfl rfl (logged_nil rfl rfl)
  | ready seatId => exact tableMove_markReady seatId
  | getState => exact .idle (by simp) rfl rfl (logged_nil rfl rfl)
  | getEngineState => exact .idle (by simp) rfl rfl (logged_nil rfl rfl)
  | getLegalActions seatId => exact .idle (by simp) rfl rfl (logged_nil rfl rfl)
  | getPrivateEvents seatId handId => exact .idle (by simp) rfl rfl (logged_nil rfl rfl)
  | act action => exact tableMove_apply hroom.engine st rfl rfl rfl rfl action (by simp)
  | queuePendingChainAction txHash action => exact .idle (by simp) rfl rfl (logged_nil rfl rfl)
  | chainTxVerified callback => exact tableMove_chainTxVerified hroom.engine callback
  | completeSettlement handId =>
    show TableMove env st _ (completeSettlement st handId)
    unfold completeSettlement
    split_ifs with hcomplete
    · refine tableMove_close (.inl rfl) ?_
      rcases hcomplete.2 with hs | hs <;> rw [hs] <;> decide
    · exact .idle (by simp) rfl rfl (logged_nil rfl rfl)
  | turnTimeoutElapsed generation =>
    show TableMove env st _ (turnTimeoutElapsed st generation)
    unfold turnTimeoutElapsed
    split_ifs
    · exact .idle (by simp) rfl rfl (logged_nil rfl rfl)
    · split
      · exact .idle (by simp) rfl rfl (logged_nil rfl rfl)
      · rename_i hact
        exact tableMove_autoFold hroom.engine hact
  | turnReminderElapsed generation =>
    show TableMove env st _ (turnReminderElapsed st generation)
    unfold turnReminderElapsed
    split_ifs
    · exact .idle (by simp) rfl rfl (logged_nil rfl rfl)
    · split
      · exact .idle (by simp) rfl rfl (logged_nil rfl rfl)
      · rename_i seatId hact
        refine .called generation rfl seatId hact ?_ ?_ (logged_append st _)
        · rw [appendHandEvents_state]
        · rw [appendHandEvents_turnScheduler]
  | schedulerTick => exact tableMove_tickTurn hroom

end

end HoldemPlatform.Room.Moves
