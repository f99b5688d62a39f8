import HoldemPlatform.Room.HandLog

/-!
# Hands Do Not Overlap

Between the start of one hand and the start of the next the room should close the first, once. The
`Ready` command deals as soon as nobody has the turn, and in a showdown nobody has; so the hands of a
room alternate with their closings exactly if no hand is dealt while the one before is in its
showdown, with the pot still to be settled.
-/

namespace HoldemPlatform.Room.Alternation

open HoldemPlatform.Lib.Marks HoldemPlatform.Lib.Run
open HoldemPlatform.Domain.Money HoldemPlatform.Domain.Game
open HoldemPlatform.Engine.State HoldemPlatform.Engine.Deal HoldemPlatform.Engine.Turn
open HoldemPlatform.Engine.Action HoldemPlatform.Engine.Round HoldemPlatform.Engine.Run
open HoldemPlatform.Engine.Copies
open HoldemPlatform.Room.Actor HoldemPlatform.Room.Effect HoldemPlatform.Room.HandLog

variable {Card : Type}

def closings (events : List HandEvent) : List HandEvent :=
  events.filter fun e => e.kind = .handClosed

/-- Between two consecutive starts there is exactly one closing, of the first hand. -/
def HandsAlternate (log : List HandEvent) : Prop :=
  ∀ a mid b, Between IsStart log a mid b → ∃ c, closings mid = [c] ∧ c.handId = a.handId

/-- A `Ready` that deals a hand does not find the one before in its showdown or being settled. -/
def NoDealInShowdown [RsPoker Card] (env : RoomEnv Card) (st : RoomState Card) : RoomCommand → Prop
  | .ready seatId => StartsHand env st seatId →
      st.state.snapshot.status ≠ .showdown ∧ st.state.snapshot.status ≠ .settling
  | _ => True

/-- Where the log stands, by the status of the hand. -/
inductive LogPhase (log : List HandEvent) (snapshot : HandSnapshot) : Prop
  | fresh (hstatus : snapshot.status = .created) (hnone : ∀ e ∈ log, ¬ IsStart e)
  | underWay (a : HandEvent) (mid : List HandEvent) (hlast : LastMark IsStart log a mid)
      (hid : a.handId = snapshot.handId)
      (hstatus : snapshot.status = .running ∨ snapshot.status = .showdown)
      (hclosed : closings mid = [])
  | ended (a c : HandEvent) (mid : List HandEvent) (hlast : LastMark IsStart log a mid)
      (hid : a.handId = snapshot.handId)
      (hstatus : snapshot.status = .settled ∨ snapshot.status = .aborted)
      (hclosed : closings mid = [c]) (hc : c.handId = a.handId)

/-! ### The events of an accepted action -/

theorem closings_append (before after : List HandEvent) :
    closings (before ++ after) = closings before ++ closings after :=
  List.filter_append ..

theorem closings_eq_nil {events : List HandEvent} {kinds : List HandEventKind}
    (hkinds : events.map HandEvent.kind = kinds) (hno : .handClosed ∉ kinds) :
    closings events = [] := by
  refine List.filter_eq_nil_iff.2 fun e he hk => hno ?_
  rw [← hkinds, ← of_decide_eq_true hk]
  exact List.mem_map_of_mem he

theorem noStart_of_kinds {events : List HandEvent} {kinds : List HandEventKind}
    (hkinds : events.map HandEvent.kind = kinds) (hno : .handStarted ∉ kinds) :
    ∀ e ∈ events, ¬ IsStart e := by
  intro e he hstart
  refine hno ?_
  rw [← hkinds, ← show e.kind = .handStarted from hstart]
  exact List.mem_map_of_mem he

theorem noMark_of_turns {kinds : List HandEventKind} (h : ∀ k ∈ kinds, ∃ s, k = .turnStarted s) :
    .handStarted ∉ kinds ∧ .handClosed ∉ kinds := by
  constructor
  · intro hk
    obtain ⟨s, hs⟩ := h _ hk
    cases hs
  · intro hk
    obtain ⟨s, hs⟩ := h _ hk
    cases hs

theorem noStart_emittedKinds (st : EngineState Card) (action : PlayerAction)
    (result : EngineActionResult) : .handStarted ∉ emittedKinds st action result := by
  unfold emittedKinds
  cases result.streetChanged <;> cases st.snapshot.actingSeatId <;> simp

/-- After an accepted action the hand goes on, is in its showdown, or was folded out and closed. -/
theorem accepted_outcome [RsPoker Card] {st state : EngineState Card} {action : PlayerAction}
    {result : EngineActionResult} (hpot : PotInv st) (hcopies : TurnCopies st)
    (hok : Acceptable st action) (happ : applyAction st action = (state, .ok result)) :
    (state.snapshot.status = .running ∨ state.snapshot.status = .showdown) ∨
    (state.snapshot.status = .settled ∧ state.snapshot.actingSeatId = none) := by
  obtain ⟨mid, hmid, hturn⟩ := applyAction_accepted hpot hok
  have hrun : mid.snapshot.status = .running := by
    rw [hmid.snapshot]
    exact hcopies.status_of_acting hok.turn
  rw [happ] at hturn
  obtain rfl := (Prod.mk.inj hturn).1
  have hstep := turn_step mid action.seatId
  generalize advanceTurn mid action.seatId = r at hstep
  cases hstep with
  | closed => exact .inr ⟨rfl, rfl⟩
  | river => exact .inl (.inr rfl)
  | street => exact .inl (.inl hrun)
  | nobody => exact .inl (.inr rfl)
  | pass => exact .inl (.inl hrun)

/-- The announcement closes the hand if it was folded out, and not otherwise. -/
theorem closings_accepted {st : EngineState Card} {action : PlayerAction}
    {result : EngineActionResult} {events : List HandEvent}
    (hkinds : events.map HandEvent.kind = emittedKinds st action result) :
    (st.snapshot.status ≠ .settled → st.snapshot.status ≠ .aborted → closings events = []) ∧
    (st.snapshot.status = .settled → st.snapshot.actingSeatId = none →
      ∃ c ∈ events, closings events = [c]) := by
  constructor
  · intro hsettled haborted
    refine closings_eq_nil hkinds ?_
    unfold emittedKinds
    cases result.streetChanged <;> cases st.snapshot.actingSeatId <;> simp [hsettled, haborted]
  · intro hsettled hnone
    have hlast : emittedKinds st action result =
        ([.actionAccepted action, .potUpdated st.snapshot.potTotal] ++
          (result.streetChanged.map .streetChanged).toList) ++ [.handClosed] := by
      simp [emittedKinds, hnone, hsettled]
    rw [hlast] at hkinds
    obtain ⟨before, last, rfl, hbefore, hlast⟩ := List.map_eq_append_iff.1 hkinds
    obtain ⟨c, rest, rfl, hc, hrest⟩ := List.map_eq_cons_iff.1 hlast
    obtain rfl := List.map_eq_nil_iff.1 hrest
    refine ⟨c, by simp, ?_⟩
    rw [closings_append, closings_eq_nil hbefore (by cases result.streetChanged <;> simp)]
    simp [closings, hc]

/-! ### The log of a room -/

section

variable [RsPoker Card] {env : RoomEnv Card} {st st' : RoomState Card} {cmd : RoomCommand}

theorem LogPhase.append {log new : List HandEvent} {snapshot : HandSnapshot}
    (h : LogPhase log snapshot) (hstart : ∀ e ∈ new, ¬ IsStart e) (hclose : closings new = []) :
    LogPhase (log ++ new) snapshot := by
  cases h with
  | fresh hstatus hnone =>
    refine .fresh hstatus fun e he => ?_
    rcases List.mem_append.1 he with he | he
    · exact hnone e he
    · exact hstart e he
  | underWay a mid hlast hid hstatus hclosed =>
    exact .underWay a _ (hlast.append hstart) hid hstatus
      (by rw [closings_append, hclosed, hclose, List.append_nil])
  | ended a c mid hlast hid hstatus hclosed hc =>
    exact .ended a c _ (hlast.append hstart) hid hstatus
      (by rw [closings_append, hclosed, hclose, List.append_nil]) hc

theorem LogPhase.close {log new : List HandEvent} {snapshot snapshot' : HandSnapshot}
    (h : LogPhase log snapshot) (hopen : snapshot.status = .running ∨
      snapshot.status = .showdown ∨ snapshot.status = .settling)
    (hstart : ∀ e ∈ new, ¬ IsStart e) (hid' : snapshot'.handId = snapshot.handId)
    (hids : ∀ e ∈ new, e.handId = snapshot'.handId)
    (hclose : ∃ c ∈ new, closings new = [c])
    (hstatus' : snapshot'.status = .settled ∨ snapshot'.status = .aborted) :
    LogPhase (log ++ new) snapshot' := by
  obtain ⟨c, hc, hclose⟩ := hclose
  cases h with
  | fresh hstatus hnone => simp [hstatus] at hopen
  | underWay a mid hlast hid hstatus hclosed =>
    refine .ended a c _ (hlast.append hstart) (hid.trans hid'.symm) hstatus'
      (by rw [closings_append, hclosed, hclose, List.nil_append]) ?_
    rw [hids c hc, hid, hid']
  | ended a c mid hlast hid hstatus hclosed hc =>
    rcases hstatus with hstatus | hstatus <;> simp [hstatus] at hopen

/-- **The phase of the log is kept by every command.** -/
theorem logPhase_step (hinv : RoomInv st)
    (hphase : LogPhase st.sink.handEvents st.state.snapshot) (h : Explained env st cmd st') :
    LogPhase st'.sink.handEvents st'.state.snapshot := by
  obtain ⟨kinds, hann, -, new, hnew, hkinds, hids⟩ := h
  rw [hnew]
  generalize hstate' : st'.state = state' at hann hids
  cases hann with
  | quiet _ hsnap _ hquiet =>
    rw [hsnap]
    obtain ⟨hstart, hclose⟩ := noMark_of_turns hquiet
    exact hphase.append (noStart_of_kinds hkinds hstart) (closings_eq_nil hkinds hclose)
  | started seatId acting _ hstarts =>
    obtain ⟨start, rest, rfl, hstart, hrest⟩ := List.map_eq_cons_iff.1 hkinds
    obtain ⟨_, _, _, _, hd, -, -⟩ := deal_ok (eq_of_snd_ok hstarts.dealt)
    refine .underWay start rest (lastMark_append_mark hstart (noStart_of_kinds hrest (by simp)))
      (hids start List.mem_cons_self).2 (.inl ?_) (closings_eq_nil hrest (by simp))
    rw [hd]
    rfl
  | accepted action _ hok _ result happ =>
    have hstart := noStart_of_kinds hkinds (noStart_emittedKinds state' action result)
    have hrun := hinv.copies.status_of_acting hok.turn
    have hid : state'.snapshot.handId = st.state.snapshot.handId := by
      rcases applyAction_cases hinv.engine.pot action with ⟨-, _, _, happ', hacc⟩ | ⟨hno, -⟩
      · rw [happ] at happ'
        cases happ'
        exact hacc.handId
      · exact absurd hok hno
    have hclosings := closings_accepted hkinds
    rcases accepted_outcome hinv.engine.pot hinv.copies hok happ with hstatus | ⟨hstatus, hnone⟩
    · have hopen : state'.snapshot.status ≠ .settled ∧ state'.snapshot.status ≠ .aborted := by
        rcases hstatus with h | h <;> simp [h]
      cases hphase.append hstart (hclosings.1 hopen.1 hopen.2) with
      | fresh hcreated => simp [hrun] at hcreated
      | underWay a mid hlast hid' _ hclosed =>
        exact .underWay a mid hlast (hid'.trans hid.symm) hstatus hclosed
      | ended _ _ _ _ _ hended => rcases hended with h | h <;> simp [hrun] at h
    · exact hphase.close (.inl hrun) hstart hid (fun e he => (hids e he).2)
        (hclosings.2 hstatus hnone) (.inl hstatus)
  | closed status _ hstatus =>
    have hopen : st.state.snapshot.status = .running ∨ st.state.snapshot.status = .showdown ∨
        st.state.snapshot.status = .settling := by
      rcases hstatus with h | h
      · exact h.2
      · exact .inr h.2
    obtain ⟨c, rest, rfl, hc, hrest⟩ := List.map_eq_cons_iff.1 hkinds
    obtain rfl := List.map_eq_nil_iff.1 hrest
    refine hphase.close hopen (noStart_of_kinds hkinds (by simp)) rfl (fun e he => (hids e he).2)
      ⟨c, by simp, by simp [closings, hc]⟩ ?_
    rcases hstatus with h | h
    · exact .inr h.1
    · exact .inl h.1

/-- A command that starts no hand cannot make two hands overlap. -/
theorem handsAlternate_of_noStart (halt : HandsAlternate st.sink.handEvents)
    (h : Explained env st cmd st') (hno : ∀ seatId, cmd = .ready seatId → ¬ StartsHand env st seatId) :
    HandsAlternate st'.sink.handEvents := by
  obtain ⟨kinds, hann, -, new, hnew, hkinds, -⟩ := h
  have hstart : .handStarted ∉ kinds := by
    generalize st'.state = state' at hann
    cases hann with
    | quiet _ _ _ hquiet => exact (noMark_of_turns hquiet).1
    | started seatId _ hcmd hstarts => exact absurd hstarts (hno seatId hcmd)
    | accepted action _ _ _ result => exact noStart_emittedKinds _ action result
    | closed => simp
  rw [hnew]
  exact fun a mid b hb => halt a mid b (between_of_append (noStart_of_kinds hkinds hstart) hb)

/-- A hand that starts does not overlap the one before exactly if that is not in its showdown. -/
theorem handsAlternate_start_iff {seatId : SeatId} (hinv : RoomInv st)
    (hphase : LogPhase st.sink.handEvents st.state.snapshot)
    (halt : HandsAlternate st.sink.handEvents) (hstarts : StartsHand env st seatId) :
    HandsAlternate (markReady env st seatId).sink.handEvents ↔
      st.state.snapshot.status ≠ .showdown ∧ st.state.snapshot.status ≠ .settling := by
  obtain ⟨acting, -, -, new, hnew, hkinds, -⟩ := explained_start hstarts
  obtain ⟨start, rest, rfl, hstart, hrest⟩ := List.map_eq_cons_iff.1 hkinds
  have hnone := noStart_of_kinds hrest (by simp)
  have hidle := hinv.copies.acting_eq_none_iff.1 hstarts.noTurn
  rw [hnew]
  cases hphase with
  | fresh hstatus hfresh =>
    refine ⟨fun _ => by simp [hstatus], fun _ a mid b hb => ?_⟩
    rcases between_of_append_mark hnone hb with hb | ⟨-, hlast⟩
    · exact halt a mid b hb
    · obtain ⟨pre, hpre⟩ := hlast.split
      exact absurd hlast.isMark (hfresh a (by rw [hpre]; simp))
  | underWay a mid hlast hid hstatus hclosed =>
    have hshow := hstatus.resolve_left hidle
    refine ⟨fun hnext => ?_, fun h => absurd hshow h.1⟩
    obtain ⟨c, hc, -⟩ := hnext a mid start (hlast.between hstart)
    rw [hclosed] at hc
    cases hc
  | ended a c mid hlast hid hstatus hclosed hc =>
    refine ⟨fun _ => by rcases hstatus with h | h <;> simp [h], fun _ a' mid' b hb => ?_⟩
    rcases between_of_append_mark hnone hb with hb | ⟨-, hlast'⟩
    · exact halt a' mid' b hb
    · obtain ⟨rfl, rfl⟩ := hlast.unique hlast'
      exact ⟨c, hclosed, hc⟩

end

/-- **The hands of a room alternate with their closings exactly if no hand is dealt during the
showdown of the one before**, in every run of the room. -/
theorem hands_alternate_iff [RsPoker Card] (config : RoomActorConfig) (roomId : RoomId)
    (handId : HandId) (inputs : List (RoomInput Card)) :
    (∀ before after, inputs = before ++ after → HandsAlternate
        (run (roomRunStep config) (RoomState.spawn roomId handId) before).sink.handEvents) ↔
      AllSteps (roomRunStep config) (fun st input => NoDealInShowdown input.1 st input.2)
        (RoomState.spawn roomId handId) inputs := by
  refine forall_states_iff_allSteps
    (fun st => RoomInv st ∧ LogPhase st.sink.handEvents st.state.snapshot)
    (fun st => HandsAlternate st.sink.handEvents) ?_ ?_ ⟨roomInv_spawn roomId handId,
      .fresh rfl fun e he => absurd he List.not_mem_nil⟩ ?_
  · rintro st input ⟨hinv, hphase⟩
    exact ⟨roomInv_step config st input hinv,
      logPhase_step hinv hphase (roomStep_announced config hinv.engine input.2)⟩
  · rintro st ⟨env, cmd⟩ ⟨hinv, hphase⟩ halt
    have hstep : Explained env st cmd (roomStep config env st cmd).1 :=
      roomStep_announced config hinv.engine cmd
    by_cases hstarts : ∃ seatId, cmd = .ready seatId ∧ StartsHand env st seatId
    · obtain ⟨seatId, rfl, hstarts⟩ := hstarts
      refine (handsAlternate_start_iff hinv hphase halt hstarts).trans ?_
      exact ⟨fun h _ => h, fun h => h hstarts⟩
    · have hno : ∀ seatId, cmd = .ready seatId → ¬ StartsHand env st seatId :=
        fun seatId hcmd h => hstarts ⟨seatId, hcmd, h⟩
      have hcond : NoDealInShowdown env st cmd := by
        unfold NoDealInShowdown
        split
        · rename_i seatId
          exact fun h => absurd h (hno seatId rfl)
        · trivial
      exact ⟨fun _ => hcond, fun _ => handsAlternate_of_noStart halt hstep hno⟩
  · rintro a mid b hb
    obtain ⟨pre, post, h⟩ := hb.split
    simp [RoomState.spawn] at h

/-- The surroundings of the second hand of the table. -/
def secondEnv : RoomEnv ByteCard := { tableEnv with newHandId := ⟨2⟩ }

/-- The table of two with the actions of its first hand; then seat `0` is ready again. -/
def twoHands (actions : List PlayerAction) : List (RoomInput ByteCard) :=
  (openTable ++ actions.map RoomCommand.act).map (fun cmd => (tableEnv, cmd)) ++ [(secondEnv, .ready 0)]

def tableLog (inputs : List (RoomInput ByteCard)) : List HandEvent :=
  (run (roomRunStep {}) (RoomState.spawn ⟨0⟩ ⟨0⟩) inputs).sink.handEvents

/-- Both seats go all-in and the hand is in its showdown. -/
def allInHand : List PlayerAction :=
  [tableAction 1 0 .allIn (some (.ofU128 (10 ^ 15))),
    tableAction 2 1 .allIn (some (.ofU128 (5 * 10 ^ 14))), tableAction 3 1 .check none]

/-- A hand is dealt while the one before is in its showdown and never closed. -/
theorem ready_in_showdown_overlaps : ¬ HandsAlternate (tableLog (twoHands allInHand)) := by
  have heval : tableLog (twoHands allInHand) =
        [] ++ ⟨⟨0⟩, ⟨1⟩, 1, .handStarted⟩ :: ((tableLog (twoHands allInHand)).drop 1).take 11 ++
          ⟨⟨0⟩, ⟨2⟩, 13, .handStarted⟩ :: (tableLog (twoHands allInHand)).drop 13 ∧
      (∀ e ∈ ((tableLog (twoHands allInHand)).drop 1).take 11, ¬ e.kind = .handStarted) ∧
      closings (((tableLog (twoHands allInHand)).drop 1).take 11) = [] := by
    decide +kernel
  intro halt
  obtain ⟨c, hc, -⟩ := halt _ _ _ ⟨⟨_, _, heval.1⟩, rfl, rfl, heval.2.1⟩
  rw [heval.2.2] at hc
  cases hc

instance [RsPoker Card] (env : RoomEnv Card) (st : RoomState Card) :
    ∀ cmd, Decidable (NoDealInShowdown env st cmd) := by
  intro cmd
  unfold NoDealInShowdown
  split <;> infer_instance

/-- A hand that was folded out is closed before the next one starts. -/
theorem ready_after_fold_alternates :
    HandsAlternate (tableLog (twoHands [tableAction 1 0 .fold none])) := by
  have hsteps : AllSteps (roomRunStep {})
      (fun st input => NoDealInShowdown input.1 st input.2) (RoomState.spawn ⟨0⟩ ⟨0⟩)
      (twoHands [tableAction 1 0 .fold none]) := by
    decide +kernel
  exact (hands_alternate_iff {} ⟨0⟩ ⟨0⟩ (twoHands [tableAction 1 0 .fold none])).2 hsteps _ []
    (List.append_nil _).symm

end HoldemPlatform.Room.Alternation
