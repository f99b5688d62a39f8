import HoldemPlatform.Client.Runtime

/-!
# The Single Seat Client

The client of one seat takes its turn whenever an event or its ticker tells it to look, and polls the
state of the hand in between. It remembers the last turn it attempted, so as not to attempt it twice,
and the last state it observed.
-/

namespace HoldemPlatform.Client.SingleSeat

open HoldemPlatform.Domain.Game HoldemPlatform.Client.Runtime

inductive PolicyMode where
  | rule
  | codexCli
deriving DecidableEq

structure ObservedHandState where
  handId : HandId
  status : HandStatus
  actingSeatId : Option SeatId
  actionSeq : ActionSeq
deriving DecidableEq

structure ClientState where
  lastAttemptedTurn : Option TurnKey := none
  lastObserved : Option ObservedHandState := none
deriving DecidableEq

/-! ### Taking a turn -/

/-- What is answered from outside while `maybe_execute_turn` runs. -/
structure TurnAnswers where
  collect : CollectAnswers
  /-- The other policy, a program of its own. -/
  codexPolicy : PolicyDecisionInput → Except String (Option PolicyDecision)
  collectLatest : CollectAnswers
  execute : ExecuteAnswers

/-- The decision of the policy; the rules step in where the program has none. -/
def decideAction (mode : PolicyMode) (answers : TurnAnswers) (input : PolicyDecisionInput) :
    Option PolicyDecision :=
  match mode with
  | .rule => rulePolicy input
  | .codexCli =>
    match answers.codexPolicy input with
    | .ok (some decision) => some decision
    | _ => rulePolicy input

/-- The errors after which a turn is tried again. -/
def isTransient : RuntimeError → Bool
  | .http _ => true
  | .wallet _ => true
  | _ => false

/-- `maybe_execute_turn`: the turn it remembers afterwards, and what it did. -/
def maybeExecuteTurn (ctx : RuntimeContext) (cfg : SingleActionRunnerConfig) (mode : PolicyMode)
    (answers : TurnAnswers) (lastAttemptedTurn : Option TurnKey) :
    Option TurnKey × List ClientEffect × Except RuntimeError Unit :=
  match collectTurnDecisionInput ctx cfg answers.collect with
  | .error e => (lastAttemptedTurn, [], .error e)
  | .ok none => (lastAttemptedTurn, [], .ok ())
  | .ok (some turn) =>
    if lastAttemptedTurn = some turn.key then (lastAttemptedTurn, [], .ok ())
    else
      match decideAction mode answers turn.policyInput with
      | none => (lastAttemptedTurn, [], .ok ())
      | some decision =>
        match collectTurnDecisionInput ctx cfg answers.collectLatest with
        | .error _ => (lastAttemptedTurn, [], .ok ())
        | .ok none => (lastAttemptedTurn, [], .ok ())
        | .ok (some latestTurn) =>
          if latestTurn.handId ≠ turn.handId ∨ latestTurn.actionSeq ≠ turn.actionSeq then
            (lastAttemptedTurn, [], .ok ())
          else
            match executeTurnDecision ctx.ext cfg answers.execute turn decision with
            | (effects, .ok _) => (some turn.key, effects, .ok ())
            | (effects, .error e) =>
              (if isTransient e then none else some turn.key, effects, .ok ())

/-! ### Polling -/

/-- The state in the answer to `game.get_state`, or the text of the failure. -/
def polledState : RpcAnswer (Option HandSnapshot) → Except String (Option HandSnapshot)
  | .unsent _ => .error "json-rpc game.get_state request failed"
  | .notJson _ => .error "json-rpc game.get_state decode failed"
  | .rpcError e => .error ("json-rpc game.get_state returned error: " ++ e.whole)
  | .missingResult => .error "json-rpc game.get_state missing result"
  | .undecodable _ => .error "json-rpc game.get_state result decode failed"
  | .result envelope =>
    if envelope.ok = false then
      .error ("game.get_state failed: " ++ envelope.error.getD "unknown app error")
    else
      match envelope.data with
      | none => .error "game.get_state missing data payload"
      | some state => .ok state

def isClosed : HandStatus → Bool
  | .settled => true
  | .aborted => true
  | _ => false

def pollRoomHandState (answer : RpcAnswer (Option HandSnapshot)) (client : ClientState) :
    ClientState × List ClientEffect × Except String Unit :=
  match polledState answer with
  | .error e => (client, [], .error e)
  | .ok none => (client, [], .ok ())
  | .ok (some state) =>
    let observed : ObservedHandState :=
      { handId := state.handId, status := state.status, actingSeatId := state.actingSeatId,
        actionSeq := state.nextActionSeq }
    let newHand := client.lastObserved.any fun prev => prev.handId ≠ observed.handId
    let wasClosed := client.lastObserved.any fun prev => isClosed prev.status
    ({ lastAttemptedTurn := if newHand then none else client.lastAttemptedTurn,
       lastObserved := some observed },
      if isClosed observed.status ∧ ¬ wasClosed then [.preparedSeat] else [], .ok ())

/-! ### Runs -/

inductive ClientInput where
  | turn (answers : TurnAnswers)
  | poll (state : RpcAnswer (Option HandSnapshot))

/-- The turn of the room that an answer to `game.get_state` tells. -/
def toldTurn (answer : RpcAnswer (Option HandSnapshot)) : Option TurnKey :=
  match callOk "game.get_state" answer with
  | .ok (some state) => some ⟨state.handId, state.nextActionSeq⟩
  | _ => none

/-- The turn that an input tells the client when it first looks. -/
def ClientInput.told : ClientInput → Option TurnKey
  | .turn answers => toldTurn answers.collect.state
  | .poll state => toldTurn state

/-- The client, with the turns it was told of, the latest first, and all that it has done. -/
structure ClientRun where
  client : ClientState
  told : List TurnKey := []
  effects : List ClientEffect := []

def clientStep (ctx : RuntimeContext) (cfg : SingleActionRunnerConfig) (mode : PolicyMode)
    (s : ClientRun) (input : ClientInput) : ClientRun :=
  let told := input.told.toList ++ s.told
  match input with
  | .turn answers =>
    let result := maybeExecuteTurn ctx cfg mode answers s.client.lastAttemptedTurn
    { client := { s.client with lastAttemptedTurn := result.1 }, told,
      effects := s.effects ++ result.2.1 }
  | .poll state =>
    let result := pollRoomHandState state s.client
    { client := result.1, told, effects := s.effects ++ result.2.1 }

/-- The turns for which a transfer went through, one for each transfer. -/
def paidTurns (effects : List ClientEffect) : List TurnKey :=
  effects.filterMap fun
    | .transferred turn _ _ => some turn
    | _ => none

end HoldemPlatform.Client.SingleSeat
