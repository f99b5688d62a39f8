import HoldemPlatform.Client.SingleSeat
import HoldemPlatform.Lib.Run

/-!
# One Payment for a Turn

A client pays before it acts. If the wallet then does not sign, or the answer to the action is lost, the
client forgets that it attempted the turn and pays for it again. It also forgets the turn when a poll
first notices the hand the turn is of. Where neither happens, and the room never goes back to a turn it
has left, no turn is paid for twice.
-/

namespace HoldemPlatform.Client.PaysOnce

open HoldemPlatform.Lib.Run HoldemPlatform.Domain.Money HoldemPlatform.Domain.Game
open HoldemPlatform.Gateway.Requests HoldemPlatform.Client.Skill HoldemPlatform.Client.Runtime
open HoldemPlatform.Client.SingleSeat

/-! ### What a step pays -/

theorem paidTurns_append (before after : List ClientEffect) :
    paidTurns (before ++ after) = paidTurns before ++ paidTurns after :=
  List.filterMap_append

theorem paidTurns_acted (request : GameActRequest) : paidTurns [.acted request] = [] := rfl

/-- Once a transfer went through, the wallet signs and `game.act` gets an answer. -/
def PaymentArrives (answers : ExecuteAnswers) : Prop :=
  (∃ txHash, answers.transferToRoom = .ok txHash) →
    (∀ address message, ∃ signature, answers.signPersonalMessage address message = .ok signature) ∧
      ∀ e, httpRpcCall "game.act" answers.gameAct ≠ .error (.http e)

section

variable {cfg : SingleActionRunnerConfig}

theorem payAmount_cases (cfg : SingleActionRunnerConfig) (answers : ExecuteAnswers) (turn : TurnKey)
    (amount : Option Chips) :
    paidTurns (payAmount cfg answers turn amount).1 = [] ∨
      ∃ txHash, answers.transferToRoom = .ok txHash ∧
        paidTurns (payAmount cfg answers turn amount).1 = [turn] ∧
        (payAmount cfg answers turn amount).2 = .ok (some txHash) := by
  unfold payAmount
  split
  · exact .inl rfl
  split
  · exact .inl rfl
  · rename_i txHash htransfer
    exact .inr ⟨txHash, htransfer, rfl, rfl⟩

theorem callOkUnit_not_transient {answer : RpcAnswer Unit}
    (harrives : ∀ e, httpRpcCall "game.act" answer ≠ .error (.http e)) {e : RuntimeError}
    (h : callOkUnit "game.act" answer = .error e) : isTransient e = false := by
  unfold callOkUnit at h
  cases answer with
  | unsent e' => exact absurd rfl (harrives e')
  | notJson e' => exact absurd rfl (harrives e')
  | undecodable e' => exact absurd rfl (harrives e')
  | rpcError e' => cases h; rfl
  | missingResult => cases h; rfl
  | result envelope =>
    dsimp only [httpRpcCall, envelopeOkUnit] at h
    split at h
    · cases h; rfl
    · cases h

/-- A decision pays for its turn once or not at all; if the payment arrives, it does not end in an error
after which the turn is tried again. -/
theorem executeTurnDecision_cases (cfg : SingleActionRunnerConfig) (ext : Auth.Signing.Externals)
    (answers : ExecuteAnswers) (turn : TurnDecisionInput) (decision : PolicyDecision) :
    let result := executeTurnDecision ext cfg answers turn decision
    paidTurns result.1 = [] ∨ (paidTurns result.1 = [turn.key] ∧
      (PaymentArrives answers → ∀ e, result.2 = .error e → isTransient e = false)) := by
  obtain ⟨skill, hskill, seatCtx, hjoined⟩ := connectSkill_joined cfg
  unfold executeTurnDecision
  rw [hskill]
  dsimp only
  split
  · exact .inl rfl
  rename_i resolvedAmount _
  have hpay := payAmount_cases cfg answers turn.key resolvedAmount
  split
  · rename_i paid e hpaid
    rw [hpaid] at hpay
    refine .inl (hpay.resolve_right ?_)
    rintro ⟨txHash, -, -, hok⟩
    cases hok
  rename_i paid txHash hpaid
  rw [hpaid] at hpay
  -- the transfer is behind: only the signature and the answer to the action can still fail
  split
  · rename_i e hrefused
    refine hpay.imp_right ?_
    rintro ⟨txHash', htransfer, hpaid', -⟩
    refine ⟨hpaid', fun harrives => ?_⟩
    obtain ⟨requestMeta, hrequest⟩ := buildSignedGameActRequest_ok hjoined
      (harrives ⟨txHash', htransfer⟩).1 ext turn.key decision.actionType
      (resolvedAmount.map fun v => toString v.asU128) txHash
    cases hrefused.symm.trans hrequest
  · rename_i request hrequest
    rw [paidTurns_append, paidTurns_acted, List.append_nil]
    refine hpay.imp_right ?_
    rintro ⟨txHash', htransfer, hpaid', -⟩
    refine ⟨hpaid', fun harrives e he => ?_⟩
    have hact := (harrives ⟨txHash', htransfer⟩).2
    split at he
    · rename_i e' hfailed
      cases he
      exact callOkUnit_not_transient hact hfailed
    · cases he

/-! ### What a step remembers -/

theorem collect_told {ctx : RuntimeContext} {answers : CollectAnswers} {turn : TurnDecisionInput}
    (h : collectTurnDecisionInput ctx cfg answers = .ok (some turn)) :
    toldTurn answers.state = some turn.key := by
  obtain ⟨skill, hskill, seatCtx, hjoined⟩ := connectSkill_joined cfg
  unfold collectTurnDecisionInput at h
  rw [hskill] at h
  dsimp only at h
  rw [seatContext_of_seat hjoined.seat] at h
  dsimp only at h
  unfold toldTurn
  split at h
  · cases h
  · cases h
  rename_i state hstate
  rw [hstate]
  split at h
  · cases h
  split at h
  · cases h
  split at h
  · cases h
  split at h
  · cases h
  · cases h
    rfl

/-- What `maybe_execute_turn` can do: nothing; or it attempts the turn it was told of, which is not the
one it remembers. If it pays for that turn and the payment arrives, it remembers the turn. -/
theorem maybeExecuteTurn_cases (ctx : RuntimeContext) (cfg : SingleActionRunnerConfig)
    (mode : PolicyMode) (answers : TurnAnswers) (last : Option TurnKey) :
    let result := maybeExecuteTurn ctx cfg mode answers last
    (result.1 = last ∧ paidTurns result.2.1 = []) ∨
      ∃ turn, toldTurn answers.collect.state = some turn ∧ last ≠ some turn ∧
        (paidTurns result.2.1 = [] ∨
          (paidTurns result.2.1 = [turn] ∧
            (PaymentArrives answers.execute → result.1 = some turn))) := by
  unfold maybeExecuteTurn
  dsimp only
  split
  · exact .inl ⟨rfl, rfl⟩
  · exact .inl ⟨rfl, rfl⟩
  rename_i turn hcollect
  split
  · exact .inl ⟨rfl, rfl⟩
  rename_i hother
  split
  · exact .inl ⟨rfl, rfl⟩
  rename_i decision _
  split
  · exact .inl ⟨rfl, rfl⟩
  · exact .inl ⟨rfl, rfl⟩
  split
  · exact .inl ⟨rfl, rfl⟩
  refine .inr ⟨turn.key, collect_told hcollect, hother, ?_⟩
  have hexecute := executeTurnDecision_cases cfg ctx.ext answers.execute turn decision
  split
  · rename_i effects outcome heq
    rw [heq] at hexecute
    exact hexecute.imp_right fun ⟨hpaid, _⟩ => ⟨hpaid, fun _ => rfl⟩
  · rename_i effects e heq
    rw [heq] at hexecute
    refine hexecute.imp_right fun ⟨hpaid, hsteady⟩ => ⟨hpaid, fun harrives => ?_⟩
    rw [hsteady harrives e rfl]
    rfl

theorem toldTurn_of_polled {answer : RpcAnswer (Option HandSnapshot)} {state : HandSnapshot}
    (h : polledState answer = .ok (some state)) :
    toldTurn answer = some ⟨state.handId, state.nextActionSeq⟩ := by
  cases answer with
  | result envelope =>
    dsimp only [polledState] at h
    unfold toldTurn callOk httpRpcCall envelopeOk
    dsimp only
    split at h
    · cases h
    rename_i hok
    rw [if_neg hok]
    split at h
    · cases h
    · rename_i data hdata
      cases h
      rw [hdata]
  | unsent e => cases h
  | notJson e => cases h
  | rpcError e => cases h
  | missingResult => cases h
  | undecodable e => cases h

/-- A poll pays nothing, and forgets a turn only when it notices a new hand. -/
theorem pollRoomHandState_cases (answer : RpcAnswer (Option HandSnapshot)) (client : ClientState) :
    let result := pollRoomHandState answer client
    paidTurns result.2.1 = [] ∧ (result.1.lastAttemptedTurn = client.lastAttemptedTurn ∨
      ∃ turn, toldTurn answer = some turn ∧
        ∃ prev, client.lastObserved = some prev ∧ prev.handId ≠ turn.handId) := by
  unfold pollRoomHandState
  split
  · exact ⟨rfl, .inl rfl⟩
  · exact ⟨rfl, .inl rfl⟩
  rename_i state hstate
  dsimp only
  refine ⟨?_, ?_⟩
  · split_ifs <;> rfl
  · split_ifs with hnew
    · cases hobserved : client.lastObserved with
      | none =>
        rw [hobserved] at hnew
        cases hnew
      | some prev =>
        rw [hobserved] at hnew
        exact .inr ⟨_, toldTurn_of_polled hstate, prev, rfl, of_decide_eq_true hnew⟩
    · exact .inl rfl

end

/-! ### Runs -/

/-- The room does not go back: a turn that was told before is the one told last. -/
def MovesForward (told : List TurnKey) (turn : Option TurnKey) : Prop :=
  ∀ k ∈ turn, k ∈ told → told.head? = some k

instance (told : List TurnKey) (turn : Option TurnKey) : Decidable (MovesForward told turn) :=
  inferInstanceAs (Decidable (∀ k ∈ turn, k ∈ told → told.head? = some k))

/-- The poll that notices a hand does not find that the client has attempted its turn already. -/
def NoticedInTime (client : ClientState) (turn : Option TurnKey) : Prop :=
  ∀ k ∈ turn, client.lastAttemptedTurn = some k → ∀ prev ∈ client.lastObserved,
    prev.handId = k.handId

instance (client : ClientState) (turn : Option TurnKey) : Decidable (NoticedInTime client turn) :=
  inferInstanceAs (Decidable (∀ k ∈ turn, client.lastAttemptedTurn = some k →
    ∀ prev ∈ client.lastObserved, prev.handId = k.handId))

/-- The answers that make a client pay only once. -/
def Steady (s : ClientRun) (input : ClientInput) : Prop :=
  MovesForward s.told input.told ∧
    match input with
    | .turn answers => PaymentArrives answers.execute
    | .poll _ => NoticedInTime s.client input.told

/-- Every turn is paid for once, was told, and is remembered as long as it is the last one told. -/
structure PaidOnce (s : ClientRun) : Prop where
  nodup : (paidTurns s.effects).Nodup
  told : ∀ k ∈ paidTurns s.effects, k ∈ s.told
  remembered : ∀ k ∈ paidTurns s.effects, s.told.head? = some k →
    s.client.lastAttemptedTurn = some k

section

variable {ctx : RuntimeContext} {cfg : SingleActionRunnerConfig} {mode : PolicyMode} {s : ClientRun}

/-- A paid turn that is told again is still remembered. -/
theorem PaidOnce.remembered_of_told (h : PaidOnce s) {turn : Option TurnKey}
    (hforward : MovesForward s.told turn) {k : TurnKey} (hpaid : k ∈ paidTurns s.effects)
    (hhead : (turn.toList ++ s.told).head? = some k) : s.client.lastAttemptedTurn = some k := by
  cases turn with
  | none => exact h.remembered k hpaid hhead
  | some k' =>
    obtain rfl : k' = k := Option.some.inj hhead
    exact h.remembered k' hpaid (hforward k' rfl (h.told k' hpaid))

theorem PaidOnce.unpaid (h : PaidOnce s) {s' : ClientRun} {turn : Option TurnKey}
    (hpaid : paidTurns s'.effects = paidTurns s.effects) (htold : s'.told = turn.toList ++ s.told)
    (hremembered : ∀ k ∈ paidTurns s.effects, (turn.toList ++ s.told).head? = some k →
      s'.client.lastAttemptedTurn = some k) : PaidOnce s' := by
  constructor
  · rw [hpaid]
    exact h.nodup
  · intro k hk
    rw [hpaid] at hk
    rw [htold]
    exact List.mem_append_right _ (h.told k hk)
  · intro k hk hhead
    rw [hpaid] at hk
    rw [htold] at hhead
    exact hremembered k hk hhead

/-- A step that pays for the turn it was told of, which was not paid for, and remembers it. -/
theorem PaidOnce.paid (h : PaidOnce s) {s' : ClientRun} {turn : TurnKey}
    (hpaid : paidTurns s'.effects = paidTurns s.effects ++ [turn]) (htold : s'.told = turn :: s.told)
    (hnew : turn ∉ paidTurns s.effects) (hremembered : s'.client.lastAttemptedTurn = some turn) :
    PaidOnce s' := by
  constructor
  · rw [hpaid, ← List.concat_eq_append]
    exact h.nodup.concat hnew
  · intro k hk
    rw [htold]
    rw [hpaid, List.mem_append, List.mem_singleton] at hk
    rcases hk with hk | rfl
    · exact List.mem_cons_of_mem turn (h.told k hk)
    · exact List.mem_cons_self
  · intro k _ hhead
    rw [htold, List.head?_cons] at hhead
    rw [hremembered, hhead]

theorem paidOnce_turn (h : PaidOnce s) {answers : TurnAnswers}
    (hsteady : Steady s (.turn answers)) :
    PaidOnce (clientStep ctx cfg mode s (.turn answers)) := by
  obtain ⟨hforward, harrives⟩ := hsteady
  have hforward : MovesForward s.told (toldTurn answers.collect.state) := hforward
  rcases maybeExecuteTurn_cases ctx cfg mode answers s.client.lastAttemptedTurn with
    ⟨hlast, hpaid⟩ | ⟨turn, hturn, hother, hpaid⟩
  · refine h.unpaid ?_ rfl fun k hk hhead => ?_
    · dsimp only [clientStep]
      rw [paidTurns_append, hpaid, List.append_nil]
    · exact hlast.trans (h.remembered_of_told hforward hk hhead)
  -- the turn is not the one remembered, so it was not paid for
  have hnew : turn ∉ paidTurns s.effects := by
    intro hmem
    refine hother (h.remembered_of_told hforward hmem ?_)
    rw [hturn]
    rfl
  have htold : (clientStep ctx cfg mode s (.turn answers)).told = turn :: s.told := by
    dsimp only [clientStep, ClientInput.told]
    rw [hturn]
    rfl
  rcases hpaid with hpaid | ⟨hpaid, hremembered⟩
  · refine h.unpaid ?_ rfl fun k hk hhead => ?_
    · dsimp only [clientStep]
      rw [paidTurns_append, hpaid, List.append_nil]
    · dsimp only [ClientInput.told] at hhead
      rw [hturn] at hhead
      obtain rfl : turn = k := Option.some.inj hhead
      exact absurd hk hnew
  · refine h.paid ?_ htold hnew (hremembered harrives)
    dsimp only [clientStep]
    rw [paidTurns_append, hpaid]

theorem paidOnce_poll (h : PaidOnce s) {state : RpcAnswer (Option HandSnapshot)}
    (hsteady : Steady s (.poll state)) : PaidOnce (clientStep ctx cfg mode s (.poll state)) := by
  obtain ⟨hforward, hnoticed⟩ := hsteady
  obtain ⟨hpaid, hlast⟩ := pollRoomHandState_cases state s.client
  refine h.unpaid ?_ rfl fun k hk hhead => ?_
  · dsimp only [clientStep]
    rw [paidTurns_append, hpaid, List.append_nil]
  have hremembered := h.remembered_of_told hforward hk hhead
  rcases hlast with hlast | ⟨turn, hturn, prev, hprev, hhand⟩
  · exact hlast.trans hremembered
  · have hturn : (ClientInput.poll state).told = some turn := hturn
    rw [hturn] at hhead hnoticed
    obtain rfl : turn = k := Option.some.inj hhead
    exact absurd (hnoticed turn rfl hremembered prev hprev) hhand

/-- **The bot pays at most once for a turn** in every run in which a payment that went through is
followed by a signature and an answer to the action, the room does not go back to a turn it has left,
and the poll that notices a hand does not come after the attempt at its turn. -/
theorem pays_once_per_turn (ctx : RuntimeContext) (cfg : SingleActionRunnerConfig) (mode : PolicyMode)
    (start : ClientState) (inputs : List ClientInput)
    (hall : AllSteps (clientStep ctx cfg mode) Steady { client := start } inputs) :
    ∀ turn, (paidTurns (run (clientStep ctx cfg mode) { client := start } inputs).effects).count
      turn ≤ 1 := by
  have hstart : PaidOnce { client := start } := ⟨List.nodup_nil, nofun, nofun⟩
  have hrun := hall.run_inv PaidOnce (fun s input hsteady h => ?_) hstart
  · exact List.nodup_iff_count_le_one.1 hrun.nodup
  · cases input with
    | turn answers => exact paidOnce_turn h hsteady
    | poll state => exact paidOnce_poll h hsteady

end

/-! ### A bot that calls -/

def bot : SingleActionRunnerConfig where
  rpcEndpoint := "http://localhost"
  roomId := ⟨0⟩
  seatId := 0
  seatAddress := "0xa"
  roomChainAddress := "0xf"
  chainId := 1
  cardEncryptSecretHex := none

def botContext : RuntimeContext where
  ext := Auth.Signing.decimalFormats
  buildPrivateStateJson _ _ := .ok none

/-- The server tells that seat 0 is to act. -/
def stateAnswer (handId : HandId) (actionSeq : ActionSeq) : RpcAnswer (Option HandSnapshot) :=
  .result
    { ok := true, error := none, data := some (some
        { roomId := ⟨0⟩, handId, handNo := 1, status := .running, street := .preflop,
          boardCards := [], actingSeatId := some 0, nextActionSeq := actionSeq, potTotal := 0 }) }

/-- In hand 1 seat 0 may fold, or call with 100. -/
def callAnswers (actionSeq : ActionSeq) : CollectAnswers where
  state := stateAnswer ⟨1⟩ actionSeq
  legalActions := .result
    { ok := true, error := none,
      data := some [⟨.fold, none, none⟩, ⟨.call, some ⟨100, by decide⟩, none⟩] }
  privatePayloads := .result { ok := true, error := none, data := some [] }

/-- The bot looks, the wallet accepts the transfer and signs, and `game.act` ends as given. -/
def callTurn (actionSeq : ActionSeq) (txHash : String) (gameAct : RpcAnswer Unit) : TurnAnswers where
  collect := callAnswers actionSeq
  codexPolicy _ := .error "policy backend unavailable"
  collectLatest := callAnswers actionSeq
  execute :=
    { transferToRoom := .ok txHash, signPersonalMessage := fun _ _ => .ok "0x", gameAct,
      stamp := ⟨⟨0⟩, txHash, 0⟩ }

def accepted : RpcAnswer Unit := .result { ok := true, data := some (), error := none }

def refused : RpcAnswer Unit :=
  .result { ok := false, data := none, error := some "GameActFailed: action is not legal" }

/-- The answer to the action is lost after the transfer, and the bot transfers the amount again. -/
theorem lost_answer_paid_twice :
    let s := run (clientStep botContext bot .rule) { client := {} }
      [.turn (callTurn 3 "0x1" (.unsent "operation timed out")), .turn (callTurn 3 "0x2" accepted)]
    paidTurns s.effects = [⟨⟨1⟩, 3⟩, ⟨⟨1⟩, 3⟩] ∧
      ¬ ∀ turn, (paidTurns s.effects).count turn ≤ 1 := by
  intro s
  have hpaid : paidTurns s.effects = [⟨⟨1⟩, 3⟩, ⟨⟨1⟩, 3⟩] := by decide +kernel
  refine ⟨hpaid, fun honce => ?_⟩
  have hcount := honce ⟨⟨1⟩, 3⟩
  rw [hpaid] at hcount
  revert hcount
  decide

/-- The action is accepted and waits for its transaction. The poll that now notices hand 1 makes the bot
forget that it paid. -/
example : paidTurns (run (clientStep botContext bot .rule) { client := {} }
    [.poll (stateAnswer ⟨0⟩ 7), .turn (callTurn 3 "0x1" accepted), .poll (stateAnswer ⟨1⟩ 3),
      .turn (callTurn 3 "0x2" accepted)]).effects = [⟨⟨1⟩, 3⟩, ⟨⟨1⟩, 3⟩] := by
  decide +kernel

/-- The action is refused after the transfer; the turn is told again and left alone, and the next turn is
paid for. -/
def refusedRun : List ClientInput :=
  [.poll (stateAnswer ⟨1⟩ 3), .turn (callTurn 3 "0x1" refused), .poll (stateAnswer ⟨1⟩ 3),
    .turn (callTurn 3 "0x2" accepted), .turn (callTurn 5 "0x3" accepted)]

theorem refused_action_paid_once :
    let s := run (clientStep botContext bot .rule) { client := {} } refusedRun
    paidTurns s.effects = [⟨⟨1⟩, 3⟩, ⟨⟨1⟩, 5⟩] ∧
      ∀ turn, (paidTurns s.effects).count turn ≤ 1 := by
  intro s
  have harrives (actionSeq : ActionSeq) (txHash : String) {gameAct : RpcAnswer Unit}
      (h : ∀ e, httpRpcCall "game.act" gameAct ≠ .error (.http e)) :
      PaymentArrives (callTurn actionSeq txHash gameAct).execute :=
    fun _ => ⟨fun _ _ => ⟨_, rfl⟩, h⟩
  refine ⟨by decide +kernel, pays_once_per_turn botContext bot .rule {} refusedRun ?_⟩
  have hpoll (s : ClientRun) (h : MovesForward s.told (toldTurn (stateAnswer ⟨1⟩ 3)) ∧
      NoticedInTime s.client (toldTurn (stateAnswer ⟨1⟩ 3))) :
      Steady s (.poll (stateAnswer ⟨1⟩ 3)) := h
  refine ⟨hpoll _ ?_, ⟨?_, harrives 3 "0x1" nofun⟩, hpoll _ ?_, ⟨?_, harrives 3 "0x2" nofun⟩,
    ⟨?_, harrives 5 "0x3" nofun⟩, trivial⟩
  all_goals decide +kernel

end HoldemPlatform.Client.PaysOnce
