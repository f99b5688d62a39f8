import HoldemPlatform.Room.Moves

/-!
# Replaying the Hand Events

A client of a room sees its hand events, not its state. `observe` is what one event tells such a
client, and `replay` folds it over the events so far. The events are enough: in every state a room can
reach, the client knows the hand, the street, the seat to act, the number of the next action, the pot
and whether the hand is over (`replay_shows_table`). The blinds are not announced, but they are fixed,
so the pot is known from the start of the hand on.
-/

namespace HoldemPlatform.Room.Replay

open HoldemPlatform.Lib.Run HoldemPlatform.Domain.Money HoldemPlatform.Domain.Game
open HoldemPlatform.Engine.State HoldemPlatform.Engine.Deal HoldemPlatform.Engine.Turn
open HoldemPlatform.Engine.Action HoldemPlatform.Engine.Round HoldemPlatform.Engine.Run
open HoldemPlatform.Engine.Copies
open HoldemPlatform.Room.Actor HoldemPlatform.Room.Effect HoldemPlatform.Room.HandLog
open HoldemPlatform.Room.TimerGeneration HoldemPlatform.Room.Moves

variable {Card : Type}

/-- What a client knows about the hand at a table. -/
structure TableView where
  handId : HandId
  street : Street
  actingSeatId : Option SeatId
  nextActionSeq : ActionSeq
  potTotal : Chips
  closed : Bool
deriving DecidableEq

/-- What an event of a hand tells the client. Before the first hand there is nothing to know. -/
def observe (handId : HandId) (view : Option TableView) : HandEventKind → Option TableView
  | .handStarted =>
    some { handId, street := .preflop, actingSeatId := none, nextActionSeq := 1,
           potTotal := blindPot, closed := false }
  | .turnStarted seatId => view.map fun v => { v with actingSeatId := some seatId }
  | .actionAccepted _ =>
    view.map fun v =>
      { v with actingSeatId := none, nextActionSeq := saturatingAdd 32 v.nextActionSeq 1 }
  | .streetChanged street => view.map fun v => { v with street }
  | .potUpdated potTotal => view.map fun v => { v with potTotal }
  | .handClosed => view.map fun v => { v with actingSeatId := none, closed := true }

/-- The view of a client who has read these events from the first one on. -/
def replay (events : List HandEvent) : Option TableView :=
  events.foldl (fun view e => observe e.handId view e.kind) none

def isClosed (status : HandStatus) : Bool := status = .settled || status = .aborted

def viewOf (snapshot : HandSnapshot) : TableView where
  handId := snapshot.handId
  street := snapshot.street
  actingSeatId := snapshot.actingSeatId
  nextActionSeq := snapshot.nextActionSeq
  potTotal := snapshot.potTotal
  closed := isClosed snapshot.status

/-- What the table shows; before the first deal there is no hand. -/
def tableView (snapshot : HandSnapshot) : Option TableView :=
  if snapshot.status = .created then none else some (viewOf snapshot)

/-- A client who has read all events of the room knows what its table shows. -/
def Replayed (st : RoomState Card) : Prop :=
  replay st.sink.handEvents = tableView st.state.snapshot

theorem tableView_of_ne {snapshot : HandSnapshot} (h : snapshot.status ≠ .created) :
    tableView snapshot = some (viewOf snapshot) :=
  if_neg h

theorem replay_append {handId : HandId} (events : List HandEvent) :
    ∀ new : List HandEvent, (∀ e ∈ new, e.handId = handId) →
      replay (events ++ new) = (new.map HandEvent.kind).foldl (observe handId) (replay events) := by
  intro new hids
  induction new generalizing events with
  | nil => rw [List.append_nil, List.map_nil, List.foldl_nil]
  | cons e new ih =>
    have hone : replay (events ++ [e]) = observe handId (replay events) e.kind := by
      rw [← hids e List.mem_cons_self]
      exact List.foldl_append
    rw [List.append_cons, ih _ fun e' he' => hids e' (List.mem_cons_of_mem e he'), hone]
    rfl

theorem replay_logged {st st' : RoomState Card} {kinds : List HandEventKind}
    (hlog : Logged st st' kinds) : replay st'.sink.handEvents =
      kinds.foldl (observe st'.state.snapshot.handId) (replay st.sink.handEvents) := by
  obtain ⟨-, new, hnew, rfl, hids⟩ := hlog
  rw [hnew]
  exact replay_append _ new fun e he => (hids e he).2

/-- A table that shows the same is known to a client who has read nothing new. -/
theorem replayed_silent {st st' : RoomState Card} (h : Replayed st)
    (hsnap : st'.state.snapshot = st.state.snapshot) (hlog : Logged st st' []) : Replayed st' := by
  rw [Replayed, replay_logged hlog, List.foldl_nil, h, hsnap]

/-- A reminder repeats what the client knows. -/
theorem replayed_remind {st st' : RoomState Card} (h : Replayed st) {seatId : SeatId}
    (hact : st.state.snapshot.actingSeatId = some seatId)
    (hsnap : st'.state.snapshot = st.state.snapshot)
    (hlog : Logged st st' [.turnStarted seatId]) : Replayed st' := by
  rw [Replayed, replay_logged hlog, List.foldl_cons, List.foldl_nil, h, hsnap, tableView]
  split_ifs
  · rfl
  · rw [observe, Option.map_some, ← hact]
    rfl

theorem tableView_endHand {state : EngineState Card} {status : HandStatus}
    (hstatus : status = .settled ∨ status = .aborted) :
    tableView (endHand state status).snapshot =
      some { viewOf state.snapshot with actingSeatId := none, closed := true } := by
  rcases hstatus with rfl | rfl <;> rfl

section

variable [RsPoker Card] {env : RoomEnv Card} {st : RoomState Card}

/-- The events of an accepted action tell what it did: the turn passes on, a street opens, the
showdown comes, or the hand is won. -/
theorem observe_accepted {action : PlayerAction} {mid : EngineState Card}
    (hmid : BeforeTurn st.state action mid) (hrun : st.state.snapshot.status = .running) :
    (emittedKinds (advanceTurn mid action.seatId).1 action ⟨(advanceTurn mid action.seatId).2⟩).foldl
        (observe st.state.snapshot.handId) (some (viewOf st.state.snapshot)) =
      tableView (advanceTurn mid action.seatId).1.snapshot := by
  have hturn := turn_step mid action.seatId
  generalize advanceTurn mid action.seatId = r at hturn
  cases hturn with
  | closed => simp [emittedKinds, closeHand, observe, tableView, viewOf, isClosed, hmid.snapshot, hrun]
  | river =>
    simp [emittedKinds, goToShowdown, observe, tableView, viewOf, isClosed, hmid.snapshot, hrun]
  | street =>
    simp [emittedKinds, openStreet, observe, tableView, viewOf, isClosed, hmid.snapshot, hrun]
  | nobody =>
    simp [emittedKinds, goToShowdown, observe, tableView, viewOf, isClosed, hmid.snapshot, hrun]
  | pass =>
    simp [emittedKinds, EngineState.setActing, observe, tableView, viewOf, isClosed, hmid.snapshot,
      hrun]

/-- **Every command keeps the client up to date.** -/
theorem replayed_step (config : RoomActorConfig) (hroom : RoomInv st) (h : Replayed st)
    (cmd : RoomCommand) : Replayed (roomStep config env st cmd).1 := by
  have hmove : TableMove env st cmd (roomStep config env st cmd).1 := tableMove config hroom cmd
  generalize (roomStep config env st cmd).1 = st' at hmove
  cases hmove with
  | idle _ hsnap _ hlog => exact replayed_silent h hsnap hlog
  | dealt acting _ hdeal hacting _ hlog =>
    obtain ⟨dealing, sb, bb, first, hdealt, -⟩ := deal_ok hdeal
    rw [Replayed, replay_logged hlog]
    rw [hdealt] at hacting ⊢
    cases hacting
    rfl
  | accepted action mid hok hmid hstate _ hlog =>
    have hrun := hroom.copies.status_of_acting hok.turn
    have hid : st'.state.snapshot.handId = st.state.snapshot.handId := by
      rw [hstate, (turn_cases mid action.seatId).frame.handId, hmid.snapshot]
    rw [Replayed, replay_logged hlog, hid, h, tableView_of_ne (by rw [hrun]; decide), hstate]
    exact observe_accepted hmid hrun
  | closed status hstatus hdealt hstate _ hlog =>
    rw [Replayed, replay_logged hlog, h, tableView_of_ne hdealt, hstate, tableView_endHand hstatus]
    rfl
  | called _ _ seatId hact hsnap _ hlog => exact replayed_remind h hact hsnap hlog
  | stopped _ _ hsnap _ hlog => exact replayed_silent h hsnap hlog
  | started _ _ _ _ hsnap _ hlog => exact replayed_silent h hsnap hlog
  | reminded s _ _ hturn _ _ hsnap _ hlog =>
    exact replayed_remind h (of_currentTurn hturn).1 hsnap hlog
  | waited _ _ _ _ _ hsnap _ hlog => exact replayed_silent h hsnap hlog

end

/-- **The events of a room tell what its table shows**: in every run, a client who replays all hand
events knows the hand, its street, the seat to act, the number of the next action, the pot and whether
the hand is over. -/
theorem replay_shows_table [RsPoker Card] (config : RoomActorConfig) (roomId : RoomId)
    (handId : HandId) (inputs : List (RoomInput Card)) :
    let room := run (roomRunStep config) (RoomState.spawn roomId handId) inputs
    replay room.sink.handEvents = tableView room.state.snapshot := by
  have hinv : ∀ (st : RoomState Card) (input : RoomInput Card), RoomInv st ∧ Replayed st →
      RoomInv (roomRunStep config st input) ∧ Replayed (roomRunStep config st input) :=
    fun st input h => ⟨roomInv_step config st input h.1, replayed_step config h.1 h.2 input.2⟩
  exact (run_inv (fun st => RoomInv st ∧ Replayed st) hinv inputs
    ⟨roomInv_spawn roomId handId, rfl⟩).2

end HoldemPlatform.Room.Replay
