import HoldemPlatform.Engine.Refusal
import HoldemPlatform.Room.Alternation

/-!
# Actions Belong to a Hand

Every action names a room, a hand and its place in the hand. The engine checks the place and the
seat, but neither the hand nor the room. So the accepted actions of a hand are numbered from one, and
they name their own hand and room exactly if no action that is due by its number and its seat, and
allowed by the rules of the round, names another one. The same condition decides whether an action
for another hand can change the engine: one whose chips do not fit into the pot leaves its bet.
-/

namespace HoldemPlatform.Room.ActionBinding

open HoldemPlatform.Lib.Marks HoldemPlatform.Lib.Run
open HoldemPlatform.Domain.Money HoldemPlatform.Domain.Game
open HoldemPlatform.Engine.State HoldemPlatform.Engine.Deal HoldemPlatform.Engine.Action
open HoldemPlatform.Engine.Round HoldemPlatform.Engine.Refusal HoldemPlatform.Engine.Run
open HoldemPlatform.Room.Actor HoldemPlatform.Room.Effect HoldemPlatform.Room.HandLog
open HoldemPlatform.Room.Alternation

variable {Card : Type}

/-- The action a hand event announces as accepted. -/
def acceptedAction (e : HandEvent) : Option PlayerAction :=
  match e.kind with
  | .actionAccepted action => some action
  | _ => none

def acceptedActions (events : List HandEvent) : List PlayerAction := events.filterMap acceptedAction

/-- The `k`-th accepted action of the hand that `start` began has the number `k`, and names the hand
and its room. -/
def Numbered (start : HandEvent) (events : List HandEvent) : Prop :=
  ∀ k action, (acceptedActions events)[k]? = some action →
    action.actionSeq = k + 1 ∧ action.handId = start.handId ∧ action.roomId = start.roomId

/-- The accepted actions of all hands of the log belong to their hands. -/
structure ActionsBound (log : List HandEvent) : Prop where
  past : ∀ a mid b, Between IsStart log a mid b → Numbered a mid
  current : ∀ a mid, LastMark IsStart log a mid → Numbered a mid

/-- The current hand has fewer than `2 ^ 32 - 1` accepted actions. -/
def ShortHand (st : RoomState Card) : Prop :=
  ∀ a mid, LastMark IsStart st.sink.handEvents a mid → (acceptedActions mid).length < 2 ^ 32 - 1

/-- What one command has to do: the accepted actions stay with their hands, and an action that names
another hand than the current one leaves the engine state as it was. -/
def StepBinds [RsPoker Card] (config : RoomActorConfig) (st : RoomState Card)
    (input : RoomInput Card) : Prop :=
  ActionsBound (roomRunStep config st input).sink.handEvents ∧
    ∀ action, appliedAction input.1 st input.2 = some action →
      action.handId ≠ st.state.snapshot.handId → (roomRunStep config st input).state = st.state

/-- An applied action that is due and follows the rules of the round names the current hand, and if
its chips fit into the pot also the room. -/
def NamesItsHand (st : RoomState Card) (input : RoomInput Card) : Prop :=
  ∀ action, appliedAction input.1 st input.2 = some action →
    action.actionSeq = st.state.snapshot.nextActionSeq →
    st.state.snapshot.actingSeatId = some action.seatId → Playable st.state action →
    action.handId = st.state.snapshot.handId ∧
      (st.state.pot.mainPot.asU128 + chipsPaid st.state action < 2 ^ 128 →
        action.roomId = st.roomId)

/-- The start of the current hand names it, and the next number counts its accepted actions. -/
structure Counted (st : RoomState Card) (a : HandEvent) (mid : List HandEvent) : Prop where
  handId : a.handId = st.state.snapshot.handId
  roomId : a.roomId = st.roomId
  nextActionSeq : st.state.snapshot.nextActionSeq =
    saturatingAdd 32 (acceptedActions mid).length 1

/-- What holds of the log in every room. -/
structure LogInv (st : RoomState Card) : Prop where
  room : RoomInv st
  phase : LogPhase st.sink.handEvents st.state.snapshot
  counted : ∀ a mid, LastMark IsStart st.sink.handEvents a mid → Counted st a mid

theorem saturatingAdd_saturatingAdd (n : ℕ) :
    saturatingAdd 32 (saturatingAdd 32 n 1) 1 = saturatingAdd 32 (n + 1) 1 := by
  unfold saturatingAdd
  omega

theorem saturatingAdd_of_lt {n : ℕ} (h : n < 2 ^ 32 - 1) : saturatingAdd 32 n 1 = n + 1 :=
  min_eq_left h

/-! ### Appending to the log -/

theorem acceptedActions_append (before after : List HandEvent) :
    acceptedActions (before ++ after) = acceptedActions before ++ acceptedActions after :=
  List.filterMap_append

theorem acceptedActions_eq (events : List HandEvent) :
    acceptedActions events = (events.map HandEvent.kind).filterMap fun kind =>
      match kind with
      | .actionAccepted action => some action
      | _ => none := by
  rw [acceptedActions, List.filterMap_map]
  rfl

theorem acceptedActions_turns {events : List HandEvent} {kinds : List HandEventKind}
    (hkinds : events.map HandEvent.kind = kinds) (h : ∀ k ∈ kinds, ∃ s, k = .turnStarted s) :
    acceptedActions events = [] := by
  rw [acceptedActions_eq, hkinds]
  refine List.filterMap_eq_nil_iff.2 fun kind hk => ?_
  obtain ⟨s, rfl⟩ := h kind hk
  rfl

/-- Only the announcement of an accepted action announces one, and it announces that action. -/
theorem acceptedActions_emitted {st : EngineState Card} {action : PlayerAction}
    {result : EngineActionResult} {events : List HandEvent}
    (hkinds : events.map HandEvent.kind = emittedKinds st action result) :
    acceptedActions events = [action] := by
  rw [acceptedActions_eq, hkinds]
  unfold emittedKinds
  cases result.streetChanged <;> cases st.snapshot.actingSeatId <;> simp

theorem actionsBound_append {log new : List HandEvent} (h : ActionsBound log)
    (hstart : ∀ e ∈ new, ¬ IsStart e)
    (hnew : ∀ a mid, LastMark IsStart log a mid → Numbered a (mid ++ new)) :
    ActionsBound (log ++ new) := by
  refine ⟨fun a mid b hb => h.past a mid b (between_of_append hstart hb), fun a mid hlast => ?_⟩
  obtain ⟨old, rfl, hold⟩ := lastMark_of_append hstart hlast
  exact hnew a old hold

theorem actionsBound_start {log new : List HandEvent} {a : HandEvent} (h : ActionsBound log)
    (ha : IsStart a) (hstart : ∀ e ∈ new, ¬ IsStart e) (hnone : acceptedActions new = []) :
    ActionsBound (log ++ a :: new) := by
  constructor
  · intro a' mid b hb
    rcases between_of_append_mark hstart hb with hb | ⟨-, hlast⟩
    · exact h.past a' mid b hb
    · exact h.current a' mid hlast
  · intro a' mid hlast
    obtain ⟨rfl, rfl⟩ := (lastMark_append_mark ha hstart).unique hlast
    intro k action hk
    rw [hnone] at hk
    cases hk

/-- One more accepted action is numbered if it has the next number and names the hand. -/
theorem numbered_concat_iff {a : HandEvent} {mid new : List HandEvent} {action : PlayerAction}
    (h : Numbered a mid) (hnew : acceptedActions new = [action]) :
    Numbered a (mid ++ new) ↔ action.actionSeq = (acceptedActions mid).length + 1 ∧
      action.handId = a.handId ∧ action.roomId = a.roomId := by
  unfold Numbered
  rw [acceptedActions_append, hnew]
  constructor
  · intro hall
    exact hall (acceptedActions mid).length action (by simp)
  · intro hact k action' hk
    rw [List.getElem?_append] at hk
    split_ifs at hk with hlt
    · exact h k action' hk
    · rw [List.getElem?_singleton] at hk
      split_ifs at hk with hzero
      obtain rfl := Option.some.inj hk
      rwa [show k = (acceptedActions mid).length by omega]

theorem numbered_append {a : HandEvent} {mid new : List HandEvent} (h : Numbered a mid)
    (hnew : acceptedActions new = []) : Numbered a (mid ++ new) := by
  unfold Numbered
  rw [acceptedActions_append, hnew, List.append_nil]
  exact h

/-- The hand is under way when an action is accepted. -/
theorem exists_lastMark {st : RoomState Card} (h : LogInv st) (hrun : st.state.snapshot.status = .running) :
    ∃ a mid, LastMark IsStart st.sink.handEvents a mid := by
  cases h.phase with
  | fresh hstatus => simp [hrun] at hstatus
  | underWay a mid hlast => exact ⟨a, mid, hlast⟩
  | ended a _ mid hlast => exact ⟨a, mid, hlast⟩

/-! ### One command -/

section

variable [RsPoker Card] {env : RoomEnv Card} {st st' : RoomState Card} {cmd : RoomCommand}

theorem state_of_applied (config : RoomActorConfig) {action : PlayerAction}
    (happl : appliedAction env st cmd = some action) :
    (roomStep config env st cmd).1.state = (applyAction st.state action).1 := by
  have heffect : HandEffect env st cmd (roomStep config env st cmd).1.state :=
    roomStep_effect config cmd
  generalize (roomStep config env st cmd).1.state = state at heffect
  cases heffect with
  | same h => rw [h] at happl; cases happl
  | seat seatId h => subst h; cases happl
  | deal seatId h => subst h; cases happl
  | applied action' h =>
    rw [h] at happl
    cases happl
    rfl
  | aborted callback h hstatus =>
    subst h
    have hnot : ¬ (callback.status = "matched" ∧
        callback.handId = some st.state.snapshot.handId) := by
      rintro ⟨hmatched, -⟩
      rcases hstatus with h | h <;> simp [hmatched] at h
    rw [show appliedAction env st (.chainTxVerified callback) = none from if_neg hnot] at happl
    cases happl
  | completed h => subst h; cases happl

/-- **The numbers are counted along by every command.** -/
theorem counted_step (h : LogInv st) (hexp : Explained env st cmd st') :
    ∀ a mid, LastMark IsStart st'.sink.handEvents a mid → Counted st' a mid := by
  obtain ⟨kinds, hann, hroom, new, hnew, hkinds, hids⟩ := hexp
  intro a mid hlast
  rw [hnew] at hlast
  have hquiet : ∀ (hstart : ∀ e ∈ new, ¬ IsStart e) (hnone : acceptedActions new = [])
      (hsnap : st'.state.snapshot.handId = st.state.snapshot.handId ∧
        st'.state.snapshot.nextActionSeq = st.state.snapshot.nextActionSeq), Counted st' a mid := by
    intro hstart hnone hsnap
    obtain ⟨old, rfl, hold⟩ := lastMark_of_append hstart hlast
    have hc := h.counted a old hold
    refine ⟨hc.handId.trans hsnap.1.symm, hc.roomId.trans hroom.symm, ?_⟩
    rw [acceptedActions_append, hnone, List.append_nil, hsnap.2]
    exact hc.nextActionSeq
  generalize hstate' : st'.state = state' at hann hids hquiet
  cases hann with
  | quiet _ hsnap _ hturns =>
    exact hquiet (noStart_of_kinds hkinds (noMark_of_turns hturns).1)
      (acceptedActions_turns hkinds hturns) (by rw [hsnap]; simp)
  | started seatId acting _ hstarts =>
    obtain ⟨start, rest, rfl, hstart, hrest⟩ := List.map_eq_cons_iff.1 hkinds
    have hmark : LastMark IsStart (st.sink.handEvents ++ start :: rest) start rest :=
      lastMark_append_mark hstart (noStart_of_kinds hrest (by simp))
    obtain ⟨rfl, rfl⟩ := hmark.unique hlast
    obtain ⟨hr, hid⟩ := hids _ List.mem_cons_self
    refine ⟨by rw [hstate']; exact hid, hr.trans hroom.symm, ?_⟩
    obtain ⟨_, _, _, _, hd, -, -⟩ := deal_ok (eq_of_snd_ok hstarts.dealt)
    rw [hstate', hd, acceptedActions_eq, hrest]
    rfl
  | accepted action _ hok _ result happ =>
    have hstart := noStart_of_kinds hkinds (noStart_emittedKinds state' action result)
    obtain ⟨old, rfl, hold⟩ := lastMark_of_append hstart hlast
    have hc := h.counted a old hold
    rcases applyAction_cases h.room.engine.pot action with ⟨-, _, _, happ', hacc⟩ | ⟨hno, -⟩
    · rw [happ] at happ'
      cases happ'
      refine ⟨?_, hc.roomId.trans hroom.symm, ?_⟩
      · rw [hstate', hacc.handId]
        exact hc.handId
      · rw [hstate', hacc.nextActionSeq, hc.nextActionSeq, acceptedActions_append,
          acceptedActions_emitted hkinds, List.length_append, List.length_singleton]
        exact saturatingAdd_saturatingAdd _
    · exact absurd hok hno
  | closed status =>
    refine hquiet (noStart_of_kinds hkinds (by simp)) ?_ ⟨rfl, rfl⟩
    rw [acceptedActions_eq, hkinds]
    rfl

theorem logInv_step (config : RoomActorConfig) (st : RoomState Card) (input : RoomInput Card)
    (h : LogInv st) : LogInv (roomRunStep config st input) := by
  have hexp : Explained input.1 st input.2 (roomRunStep config st input) :=
    roomStep_announced config h.room.engine input.2
  exact ⟨roomInv_step config st input h.room, logPhase_step h.room h.phase hexp,
    counted_step h hexp⟩

theorem actionsBound_of_none (hbound : ActionsBound st.sink.handEvents)
    (hexp : Explained env st cmd st')
    (hno : ∀ action, appliedAction env st cmd = some action → ¬ Acceptable st.state action) :
    ActionsBound st'.sink.handEvents := by
  obtain ⟨kinds, hann, -, new, hnew, hkinds, -⟩ := hexp
  rw [hnew]
  generalize st'.state = state' at hann
  cases hann with
  | quiet _ _ _ hturns =>
    refine actionsBound_append hbound (noStart_of_kinds hkinds (noMark_of_turns hturns).1) ?_
    intro a mid hlast
    exact numbered_append (hbound.current a mid hlast) (acceptedActions_turns hkinds hturns)
  | started seatId acting =>
    obtain ⟨start, rest, rfl, hstart, hrest⟩ := List.map_eq_cons_iff.1 hkinds
    refine actionsBound_start hbound hstart (noStart_of_kinds hrest (by simp)) ?_
    rw [acceptedActions_eq, hrest]
    rfl
  | accepted action happl hok => exact absurd hok (hno action happl)
  | closed =>
    refine actionsBound_append hbound (noStart_of_kinds hkinds (by simp)) fun a mid hlast =>
      numbered_append (hbound.current a mid hlast) ?_
    rw [acceptedActions_eq, hkinds]
    rfl

theorem actionsBound_accepted_iff (h : LogInv st) (hbound : ActionsBound st.sink.handEvents)
    (hexp : Explained env st cmd st') (hshort : ShortHand st') {action : PlayerAction}
    (happl : appliedAction env st cmd = some action) (hok : Acceptable st.state action) :
    ActionsBound st'.sink.handEvents ↔
      action.handId = st.state.snapshot.handId ∧ action.roomId = st.roomId := by
  obtain ⟨kinds, hann, -, new, hnew, hkinds, -⟩ := hexp
  have hkinds' : ∃ (state : EngineState Card) (result : EngineActionResult),
      kinds = emittedKinds state action result := by
    generalize st'.state = state' at hann
    cases hann with
    | quiet _ _ _ _ hno => exact absurd hok (hno action happl)
    | started seatId acting hcmd => subst hcmd; cases happl
    | accepted action' happl' _ _ result =>
      obtain rfl := Option.some.inj (happl.symm.trans happl')
      exact ⟨_, result, rfl⟩
    | closed status hnone => rw [hnone] at happl; cases happl
  obtain ⟨state, result, rfl⟩ := hkinds'
  have hstart := noStart_of_kinds hkinds (noStart_emittedKinds state action result)
  have hone := acceptedActions_emitted hkinds
  obtain ⟨a, mid, hlast⟩ := exists_lastMark h (h.room.copies.status_of_acting hok.turn)
  have hc := h.counted a mid hlast
  have hseq : action.actionSeq = (acceptedActions mid).length + 1 := by
    have hlen := hshort a (mid ++ new) (by rw [hnew]; exact hlast.append hstart)
    rw [acceptedActions_append, hone, List.length_append, List.length_singleton] at hlen
    rw [hok.seq, hc.nextActionSeq]
    exact saturatingAdd_of_lt (by omega)
  have hnumbered := numbered_concat_iff (hbound.current a mid hlast) hone
  rw [hseq, hc.handId, hc.roomId] at hnumbered
  rw [hnew]
  constructor
  · intro hnext
    exact (hnumbered.1 (hnext.current a _ (hlast.append hstart))).2
  · intro hids
    refine actionsBound_append hbound hstart fun a' mid' hlast' => ?_
    obtain ⟨rfl, rfl⟩ := hlast.unique hlast'
    exact hnumbered.2 ⟨rfl, hids⟩

/-- **One command binds its action exactly if the action names its hand.** -/
theorem stepBinds_iff (config : RoomActorConfig) (input : RoomInput Card) (h : LogInv st)
    (hbound : ActionsBound st.sink.handEvents) (hshort : ShortHand (roomRunStep config st input)) :
    StepBinds config st input ↔ NamesItsHand st input := by
  obtain ⟨env, cmd⟩ := input
  have hexp : Explained env st cmd (roomRunStep config st (env, cmd)) :=
    roomStep_announced config h.room.engine cmd
  have hpot := h.room.engine.pot
  have hstate : ∀ {action}, appliedAction env st cmd = some action →
      (roomRunStep config st (env, cmd)).state = (applyAction st.state action).1 :=
    fun happl => state_of_applied config happl
  constructor
  · rintro ⟨hnext, hother⟩ action happl hseq hturn hplay
    by_cases hfit : st.state.pot.mainPot.asU128 + chipsPaid st.state action < 2 ^ 128
    · have hids := (actionsBound_accepted_iff h hbound hexp hshort happl
        ⟨hseq, hturn, hplay, hfit⟩).1 hnext
      exact ⟨hids.1, fun _ => hids.2⟩
    · -- the bet stays behind, so the action is not one for another hand
      refine ⟨?_, fun hlt => absurd hlt hfit⟩
      by_contra hhand
      have hover : Overflows st.state action := ⟨hseq, hturn, hplay, Nat.le_of_not_lt hfit⟩
      have hno : ¬ Acceptable st.state action := fun hok => hfit hok.fits
      have hsame := hother action happl hhand
      rcases applyAction_refused hpot hno with ⟨hnot, -⟩ | ⟨-, e, happ⟩
      · exact hnot hover
      · rw [hstate happl, happ] at hsame
        exact placedBets_ne_of_overflows hover hsame
  · intro hnames
    constructor
    · by_cases hacc : ∃ action, appliedAction env st cmd = some action ∧ Acceptable st.state action
      · obtain ⟨action, happl, hok⟩ := hacc
        have hids := hnames action happl hok.seq hok.turn hok.playable
        exact (actionsBound_accepted_iff h hbound hexp hshort happl hok).2
          ⟨hids.1, hids.2 hok.fits⟩
      · exact actionsBound_of_none hbound hexp fun action happl hok => hacc ⟨action, happl, hok⟩
    · intro action happl hhand
      have hdue : ¬ (action.actionSeq = st.state.snapshot.nextActionSeq ∧
          st.state.snapshot.actingSeatId = some action.seatId ∧ Playable st.state action) :=
        fun hdue => hhand (hnames action happl hdue.1 hdue.2.1 hdue.2.2).1
      have hno : ¬ Acceptable st.state action := fun hok => hdue ⟨hok.seq, hok.turn, hok.playable⟩
      rcases applyAction_refused hpot hno with ⟨-, e, happ⟩ | ⟨hover, -⟩
      · rw [hstate happl, happ]
      · exact absurd ⟨hover.seq, hover.turn, hover.playable⟩ hdue

end

/-- **Accepted actions are numbered and name their hand and room, and actions for other hands change
nothing, exactly if no action that is due and by the rules names another hand or room**; in every run
of a room with fewer than `2 ^ 32 - 1` actions in a hand. -/
theorem actions_bound_iff [RsPoker Card] (config : RoomActorConfig) (roomId : RoomId)
    (handId : HandId) (inputs : List (RoomInput Card))
    (hshort : AllSteps (roomRunStep config)
      (fun st input => ShortHand (roomRunStep config st input)) (RoomState.spawn roomId handId)
      inputs) :
    AllSteps (roomRunStep config) (StepBinds config) (RoomState.spawn roomId handId) inputs ↔
      AllSteps (roomRunStep config) NamesItsHand (RoomState.spawn roomId handId) inputs := by
  have hempty : ∀ a mid, ¬ LastMark IsStart
      (RoomState.spawn roomId handId : RoomState Card).sink.handEvents a mid := by
    rintro a mid hlast
    obtain ⟨pre, h⟩ := hlast.split
    simp [RoomState.spawn] at h
  refine hshort.iff_of_good LogInv (fun st => ActionsBound st.sink.handEvents)
    (fun st input _ h => logInv_step config st input h) (fun _ _ _ _ _ h => h.1)
    (fun st input hshort h hbound => stepBinds_iff config input h hbound hshort) ?_ ?_
  · exact ⟨roomInv_spawn roomId handId, .fresh rfl fun e he => absurd he List.not_mem_nil,
      fun a mid h => absurd h (hempty a mid)⟩
  · refine ⟨fun a mid b hb => ?_, fun a mid h => absurd h (hempty a mid)⟩
    obtain ⟨pre, post, h⟩ := hb.split
    simp [RoomState.spawn] at h

/-- The table of two is opened and one action of its first hand follows. -/
def actedAtTable (action : PlayerAction) : List (RoomInput ByteCard) :=
  openTable.map (fun cmd => (tableEnv, cmd)) ++ [(tableEnv, .act action)]

/-- A call of the small blind that names another hand and another room. -/
def foreignCall : PlayerAction :=
  { tableAction 1 0 .call none with handId := ⟨7⟩, roomId := ⟨7⟩ }

/-- A call that names another hand and another room is accepted. -/
theorem foreign_call_accepted :
    ¬ AllSteps (roomRunStep {}) (StepBinds {}) (RoomState.spawn ⟨0⟩ ⟨0⟩)
      (actedAtTable foreignCall) := by
  intro hall
  have hbound : ActionsBound
      (roomRunStep {} tableRoom (tableEnv, .act foreignCall)).sink.handEvents :=
    (AllSteps.at hall).1
  generalize hlog : (roomRunStep {} tableRoom (tableEnv, .act foreignCall)).sink.handEvents = log
    at hbound
  have heval : log = [] ++ ⟨⟨0⟩, ⟨1⟩, 1, .handStarted⟩ :: log.drop 1 ∧
      (∀ e ∈ log.drop 1, ¬ e.kind = .handStarted) ∧
      (acceptedActions (log.drop 1))[0]? = some foreignCall := by
    subst hlog
    decide +kernel
  have hids := hbound.current _ _ ⟨⟨[], heval.1⟩, rfl, heval.2.1⟩ 0 _ heval.2.2
  exact absurd hids.2.1 (by decide)

theorem shortHand_of_length {st : RoomState Card}
    (h : st.sink.handEvents.length < 2 ^ 32 - 1) : ShortHand st := by
  intro a mid hlast
  obtain ⟨pre, hpre⟩ := hlast.split
  have hle : (acceptedActions mid).length ≤ mid.length := List.length_filterMap_le _ _
  rw [hpre, List.length_append, List.length_cons] at h
  omega

/-- A call that names its hand and room keeps the log bound. -/
theorem own_call_bound :
    AllSteps (roomRunStep {}) (StepBinds {}) (RoomState.spawn ⟨0⟩ ⟨0⟩)
      (actedAtTable (tableAction 1 0 .call none)) := by
  have hlength : AllSteps (roomRunStep {})
      (fun st input => (roomRunStep {} st input).sink.handEvents.length < 2 ^ 32 - 1)
      (RoomState.spawn ⟨0⟩ ⟨0⟩) (actedAtTable (tableAction 1 0 .call none)) := by
    decide +kernel
  refine (actions_bound_iff {} ⟨0⟩ ⟨0⟩ _ (hlength.mono fun _ _ => shortHand_of_length)).2 ?_
  have hids : tableRoom.state.snapshot.handId = ⟨1⟩ ∧ tableRoom.roomId = ⟨0⟩ := by decide +kernel
  refine AllSteps.append.2 ⟨?_, fun action happl _ _ _ => ?_, trivial⟩
  · -- nothing is played while the table opens
    refine (allSteps_of_forall (P := fun input => input.2 ∈ openTable) fun input hin => ?_).mono ?_
    · obtain ⟨cmd, hcmd, rfl⟩ := List.mem_map.1 hin
      exact hcmd
    · rintro st ⟨env, cmd⟩ hcmd action happl
      simp only [openTable, List.mem_cons, List.not_mem_nil, or_false] at hcmd
      rcases hcmd with rfl | rfl | rfl | rfl | rfl | rfl | rfl | rfl <;> cases happl
  · obtain rfl := Option.some.inj happl
    exact ⟨hids.1.symm, fun _ => hids.2.symm⟩

end HoldemPlatform.Room.ActionBinding
