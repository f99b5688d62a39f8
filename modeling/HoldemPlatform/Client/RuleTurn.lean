import HoldemPlatform.Engine.LegalActions
import HoldemPlatform.Client.DecodedActions
import HoldemPlatform.Client.PrivateState

/-!
# A Turn of the Rule Policy

A client with the rule policy asks for the turn, decides, pays and sends its action; the gateway checks the
request and reads it, and the engine carries the action out. Nothing on this way changes what was meant:
in every state with small stakes the request of the client passes the gateway, the engine accepts it, and
the pot grows by what the client has transferred (`rule_turn_accepted`). The two spellings of raises and
all-ins that the client and the gateway do not share are out of reach, because this policy only checks and
calls.
-/

namespace HoldemPlatform.Client.RuleTurn

open HoldemPlatform.Lib.Run HoldemPlatform.Domain.Money HoldemPlatform.Domain.Game
open HoldemPlatform.Engine.State HoldemPlatform.Engine.Turn HoldemPlatform.Engine.Action
open HoldemPlatform.Engine.Round HoldemPlatform.Engine.Run HoldemPlatform.Engine.SmallStakes
open HoldemPlatform.Engine.LegalActions HoldemPlatform.Gateway.Requests
open HoldemPlatform.Client.Skill HoldemPlatform.Client.Runtime HoldemPlatform.Client.DecodedActions
open HoldemPlatform.Client.PrivateState

variable {Card : Type}

/-! ### What the server and the wallet answer -/

/-- The server shows the client the table, and what it sends to the seat alone can be read. -/
structure Told (ctx : RuntimeContext) (cfg : SingleActionRunnerConfig) (st : EngineState Card)
    (answers : CollectAnswers) : Prop where
  state : callOk "game.get_state" answers.state = .ok (some st.snapshot)
  listed : callOk "game.get_legal_actions" answers.legalActions = .ok (legalActions st cfg.seatId)
  payloads : ∃ events privateStateJson,
    callOk "game.get_private_payloads" answers.privatePayloads = .ok events ∧
      ctx.buildPrivateStateJson events cfg.cardEncryptSecretHex = .ok privateStateJson

/-- The wallet transfers and signs. -/
structure Funded (answers : ExecuteAnswers) : Prop where
  pays : ∃ txHash, answers.transferToRoom = .ok txHash ∧ notBlank txHash = true
  signs : ∀ address message, ∃ signature, answers.signPersonalMessage address message = .ok signature

def transferredBy : ClientEffect → ℕ
  | .transferred _ request _ => request.value.asU128
  | .acted _ => 0
  | .preparedSeat => 0

/-! ### From the table to the client -/

section

variable {st : EngineState Card} {cfg : SingleActionRunnerConfig} {ctx : RuntimeContext}

/-- What the rule policy does, and with which amount. -/
def ruleAction (st : EngineState Card) (seat : SeatId) : ActionType × Option Chips :=
  if toCall st seat = 0 then (.check, none) else (.call, some (toCall st seat))

theorem collect_told_turn (hact : st.snapshot.actingSeatId = some cfg.seatId) {answers : CollectAnswers}
    (htold : Told ctx cfg st answers) : ∃ turn,
      collectTurnDecisionInput ctx cfg answers = .ok (some turn) ∧
      turn.policyInput.legalActions =
        (legalActions st cfg.seatId).map (fun a => debugLowercase a.actionType) ∧
      turn.key = ⟨st.snapshot.handId, st.snapshot.nextActionSeq⟩ ∧
      turn.legalActionsRaw = legalActions st cfg.seatId := by
  obtain ⟨events, privateStateJson, hevents, hjson⟩ := htold.payloads
  obtain ⟨skill, hskill, seatCtx, hjoined⟩ := connectSkill_joined cfg
  unfold collectTurnDecisionInput
  rw [hskill]
  dsimp only
  rw [seatContext_of_seat hjoined.seat]
  dsimp only
  rw [htold.state]
  dsimp only
  rw [if_neg (not_not_intro hact), htold.listed]
  dsimp only
  rw [hevents]
  dsimp only
  rw [hjson]
  exact ⟨_, rfl, rfl, rfl, rfl⟩

theorem rulePolicy_listed {seat : SeatId} (hact : st.snapshot.actingSeatId = some seat)
    {input : PolicyDecisionInput} (hlist : input.legalActions =
      (legalActions st seat).map fun a => debugLowercase a.actionType) :
    rulePolicy input = some ⟨(ruleAction st seat).1, none⟩ := by
  rw [rulePolicy, hlist, legalActions, if_neg (not_not_intro hact), ruleAction]
  by_cases hzero : toCall st seat = 0 <;> simp [debugLowercase, hzero]

theorem resolve_listed {seat : SeatId} (hact : st.snapshot.actingSeatId = some seat) :
    resolveActionAmountFromLegalActions ⟨(ruleAction st seat).1, none⟩ (legalActions st seat) =
      .ok (ruleAction st seat).2 := by
  rw [legalActions, if_neg (not_not_intro hact), ruleAction]
  by_cases hzero : toCall st seat = 0 <;> simp [resolveActionAmountFromLegalActions, hzero]

/-! ### From the client to the gateway -/

theorem execute_sends (ext : Auth.Signing.Externals) {answers : ExecuteAnswers} (hfunded : Funded answers)
    {turn : TurnDecisionInput} {decision : PolicyDecision} {amount : Option Chips}
    (hamount : resolveActionAmountFromLegalActions decision turn.legalActionsRaw = .ok amount)
    {paid : List ClientEffect} {txHash : Option String}
    (hpaid : payAmount cfg answers turn.key amount = (paid, .ok txHash)) :
    ∃ requestMeta, (executeTurnDecision ext cfg answers turn decision).1 =
      paid ++ [.acted (requestOf cfg turn.key decision.actionType (amount.map fun v => toString v.asU128)
        txHash requestMeta)] := by
  obtain ⟨skill, hskill, seatCtx, hjoined⟩ := connectSkill_joined cfg
  obtain ⟨requestMeta, hrequest⟩ := buildSignedGameActRequest_ok hjoined hfunded.signs ext turn.key
    decision.actionType (amount.map fun v => toString v.asU128) txHash
  refine ⟨requestMeta, ?_⟩
  unfold executeTurnDecision
  rw [hskill]
  dsimp only
  rw [hamount]
  dsimp only
  rw [hpaid]
  dsimp only
  rw [hrequest]

/-- What the gateway reads is what the client meant. -/
theorem decoded_request {turn : TurnKey} {actionType : ActionType} (hname : ¬ Misnamed actionType)
    (amount : Option Chips) (txHash : Option String) (requestMeta : SignedRequestMeta) :
    toPlayerAction (requestOf cfg turn actionType (amount.map fun v => toString v.asU128) txHash
        requestMeta) =
      .ok { roomId := cfg.roomId, handId := turn.handId, actionSeq := turn.actionSeq,
            seatId := cfg.seatId, actionType, amount } := by
  unfold toPlayerAction requestOf
  rw [parseActionType_debugLowercase, if_neg hname, parseAmountU128_toString]

/-- The gateway asks for an amount and a transaction exactly where the client has sent them. -/
theorem funding_passes {turn : TurnKey} {actionType : ActionType} (hname : ¬ Misnamed actionType)
    {amount : Option Chips} {txHash : Option String} (hamount : amount.isSome = monetary actionType)
    (hhash : txHash.any notBlank = monetary actionType) (requestMeta : SignedRequestMeta) :
    validateGameActFundingFields (requestOf cfg turn actionType (amount.map fun v => toString v.asU128)
      txHash requestMeta) = .ok () := by
  unfold validateGameActFundingFields requestOf
  rw [parseActionType_debugLowercase, if_neg hname, parseAmountU128_toString]
  dsimp only
  rw [hhash]
  cases hmoney : monetary actionType with
  | true =>
    rw [hmoney, Option.isSome_iff_ne_none] at hamount
    rw [if_pos rfl, if_neg hamount, if_neg (not_not_intro rfl)]
  | false =>
    rw [hmoney, Option.isSome_eq_false_iff, Option.isNone_iff_eq_none] at hamount
    simp [hamount]

end

/-! ### From the gateway to the engine -/

section

variable [RsPoker Card] {st : EngineState Card} {seat : SeatId} {action : PlayerAction}

theorem ruleAction_accepted (h : SmallBets st) (hact : st.snapshot.actingSeatId = some seat)
    (hturn : InTurn st seat action) (htype : action.actionType = (ruleAction st seat).1) :
    Accepts st action ∧ (applyAction st action).1.snapshot.potTotal.asU128 =
      st.snapshot.potTotal.asU128 + (((ruleAction st seat).2.map Chips.asU128).getD 0) := by
  have hadv : Advertised st seat := advertised_of_acting h hact
  have hpaid (hacc : Accepts st action) : (applyAction st action).1.snapshot.potTotal.asU128 =
      st.snapshot.potTotal.asU128 + chipsPaid st action := by
    rcases applyAction_cases h.engine.pot action with ⟨-, st', result, happ, haccepted⟩ | ⟨hno, -⟩
    · rw [happ]
      exact haccepted.paid
    · exact absurd ((accepts_iff h.engine.pot).1 hacc) hno
  unfold ruleAction at htype ⊢
  by_cases hzero : toCall st seat = 0
  · rw [if_pos hzero] at htype ⊢
    have hacc := (hadv.check action hturn htype).2 ((lists_check_iff hact).2 hzero)
    refine ⟨hacc, (hpaid hacc).trans ?_⟩
    simp only [chipsPaid, htype]
    rfl
  · rw [if_neg hzero] at htype ⊢
    have hacc := (hadv.call action hturn htype).2 ((lists_call_iff hact).2 hzero)
    refine ⟨hacc, (hpaid hacc).trans ?_⟩
    simp only [chipsPaid, htype, hturn.seat]
    rfl

end

/-! ### The whole turn -/

/-- The wallet is asked for what the policy bets. -/
theorem payAmount_rule {answers : ExecuteAnswers} (hfunded : Funded answers)
    (cfg : SingleActionRunnerConfig) (turn : TurnKey) (st : EngineState Card) (seat : SeatId) :
    ∃ paid txHash,
      payAmount cfg answers turn (ruleAction st seat).2 = (paid, .ok txHash) ∧
      txHash.any notBlank = monetary (ruleAction st seat).1 ∧
      (paid.map transferredBy).sum = ((ruleAction st seat).2.map Chips.asU128).getD 0 := by
  obtain ⟨txHash, htransfer, hhash⟩ := hfunded.pays
  unfold ruleAction
  by_cases hzero : toCall st seat = 0
  · rw [if_pos hzero]
    exact ⟨[], none, rfl, rfl, rfl⟩
  · rw [if_neg hzero]
    unfold payAmount
    dsimp only
    rw [htransfer]
    exact ⟨_, _, rfl, hhash, rfl⟩

theorem ruleAction_named (st : EngineState Card) (seat : SeatId) :
    ¬ Misnamed (ruleAction st seat).1 ∧
      (ruleAction st seat).2.isSome = monetary (ruleAction st seat).1 := by
  unfold ruleAction
  by_cases hzero : toCall st seat = 0
  · rw [if_pos hzero]
    exact ⟨by decide, rfl⟩
  · rw [if_neg hzero]
    have hcall : ¬ Misnamed .call := by decide
    exact ⟨hcall, rfl⟩

/-- **What the rule policy plays counts**: in every state that deals and actions with amounts below
`2 ^ 64` lead to, a client at its turn that is shown the table and has a wallet decides, pays and sends a
request. The gateway takes it and reads the action of this turn, the engine accepts it, and the pot grows by
what the client has transferred. -/
theorem rule_turn_accepted [RsPoker Card] (roomId : RoomId) (handNo : ℕ) (handId : HandId)
    (ops : List (EngineOp Card)) (hops : ∀ op ∈ ops, SmallOp op) (ctx : RuntimeContext)
    (cfg : SingleActionRunnerConfig) (collect : CollectAnswers) (execute : ExecuteAnswers) :
    let st := run engineStep (EngineState.new roomId handNo handId) ops
    st.snapshot.actingSeatId = some cfg.seatId → Told ctx cfg st collect → Funded execute →
      ∃ turn decision paid request action,
        collectTurnDecisionInput ctx cfg collect = .ok (some turn) ∧
        rulePolicy turn.policyInput = some decision ∧
        (executeTurnDecision ctx.ext cfg execute turn decision).1 = paid ++ [.acted request] ∧
        validateGameActFundingFields request = .ok () ∧ toPlayerAction request = .ok action ∧
        action.roomId = cfg.roomId ∧ action.handId = st.snapshot.handId ∧
        InTurn st cfg.seatId action ∧ Accepts st action ∧
        (applyAction st action).1.snapshot.potTotal.asU128 =
          st.snapshot.potTotal.asU128 + (paid.map transferredBy).sum := by
  intro st hact htold hfunded
  have hsmall : SmallBets st := smallBets_run roomId handNo handId hops
  obtain ⟨turn, hcollect, hlist, hkey, hraw⟩ := collect_told_turn hact htold
  obtain ⟨paid, txHash, hpay, hhash, hsum⟩ := payAmount_rule hfunded cfg turn.key st cfg.seatId
  obtain ⟨hname, hmoney⟩ := ruleAction_named st cfg.seatId
  have hresolve : resolveActionAmountFromLegalActions ⟨(ruleAction st cfg.seatId).1, none⟩
      turn.legalActionsRaw = .ok (ruleAction st cfg.seatId).2 := by
    rw [hraw]
    exact resolve_listed hact
  obtain ⟨requestMeta, hsent⟩ := execute_sends ctx.ext hfunded hresolve hpay
  have hturn : InTurn st cfg.seatId
      { roomId := cfg.roomId, handId := st.snapshot.handId, actionSeq := st.snapshot.nextActionSeq,
        seatId := cfg.seatId, actionType := (ruleAction st cfg.seatId).1,
        amount := (ruleAction st cfg.seatId).2 } := ⟨rfl, rfl⟩
  obtain ⟨hacc, hpot⟩ := ruleAction_accepted hsmall hact hturn rfl
  refine ⟨turn, _, paid, _, _, hcollect, rulePolicy_listed hact hlist, hsent,
    funding_passes hname hmoney hhash requestMeta, ?_, rfl, rfl, hturn, hacc, ?_⟩
  · rw [hkey]
    exact decoded_request hname _ txHash requestMeta
  · rw [hpot, hsum]

def buttonClient : SingleActionRunnerConfig where
  rpcEndpoint := "http://127.0.0.1"
  roomId := ⟨0⟩
  seatId := 0
  seatAddress := "0x01"
  roomChainAddress := "0x02"
  chainId := 1
  cardEncryptSecretHex := none

def willingWallet : ExecuteAnswers where
  transferToRoom := .ok "0xab"
  signPersonalMessage _ message := .ok message
  gameAct := .result { ok := true, data := some (), error := none }
  stamp := someStamp

/-- The first turn of two seats: the small blind is completed. -/
theorem button_turn_accepted :
    let st := run engineStep (EngineState.new ⟨0⟩ 1 ⟨0⟩) dealtHeadsUp
    ∃ paid request action, toPlayerAction request = .ok action ∧ Accepts st action ∧
      (applyAction st action).1.snapshot.potTotal.asU128 =
        st.snapshot.potTotal.asU128 + (List.map transferredBy paid).sum := by
  intro st
  have hfunded : Funded willingWallet := ⟨⟨"0xab", rfl, by decide⟩, fun _ message => ⟨message, rfl⟩⟩
  obtain ⟨turn, decision, paid, request, action, -, -, -, -, hdecoded, -, -, -, hacc, hpot⟩ :=
    rule_turn_accepted ⟨0⟩ 1 ⟨0⟩ dealtHeadsUp (by decide)
      (runtimeContext Auth.Signing.decimalFormats Crypto.SeatCrypto.freePrimitives) buttonClient
      { state := .result { ok := true, data := some (some st.snapshot), error := none }
        legalActions := .result { ok := true, data := some (legalActions st 0), error := none }
        privatePayloads := .result { ok := true, data := some [], error := none } }
      willingWallet (by decide +kernel) ⟨rfl, rfl, [], none, rfl, rfl⟩ hfunded
  exact ⟨paid, request, action, hdecoded, hacc, hpot⟩

end HoldemPlatform.Client.RuleTurn
