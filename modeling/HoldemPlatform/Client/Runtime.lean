import HoldemPlatform.Client.Skill
import HoldemPlatform.Gateway.Handlers

/-!
# The Runtime of a Seat

A bot asks the server for the turn, decides, pays the amount of its action to the room and then sends
the action. Every call to the server or to the wallet can fail; what they answered is an input here. A
skill is made anew for every call, so that its store of attempts is always empty.
-/

namespace HoldemPlatform.Client.Runtime

open HoldemPlatform.Domain.Money HoldemPlatform.Domain.Game HoldemPlatform.Gateway.Requests
open HoldemPlatform.Gateway.Handlers HoldemPlatform.Auth.Json HoldemPlatform.Auth.Signing
open HoldemPlatform.Client.Skill

inductive RuntimeError where
  | agentSkill (e : String)
  | http (e : String)
  | rpcMissingResult
  | rpcApp (e : String)
  | wallet (e : String)
  | notOurTurn
  | stateUnavailable
  | policy (e : String)
  | crypto (e : String)
deriving DecidableEq

/-! ### Calls to the server -/

/-- The error is given as its text. -/
structure ResponseEnvelope (α : Type) where
  ok : Bool
  data : Option α
  error : Option String
deriving DecidableEq

/-- The error in a payload, printed as a whole and in its parts. -/
structure JsonRpcError where
  whole : String
  code : String
  message : String
  data : String
deriving DecidableEq

inductive RpcAnswer (α : Type) where
  /-- The request cannot be sent. -/
  | unsent (e : String)
  /-- What comes back is no JSON. -/
  | notJson (e : String)
  | rpcError (e : JsonRpcError)
  | missingResult
  /-- The result is of another shape. -/
  | undecodable (e : String)
  | result (envelope : ResponseEnvelope α)
deriving DecidableEq

def httpRpcCall {α : Type} (method : String) :
    RpcAnswer α → Except RuntimeError (ResponseEnvelope α)
  | .unsent e => .error (.http e)
  | .notJson e => .error (.http e)
  | .rpcError e =>
    .error (.rpcApp ("jsonrpc " ++ method ++ " failed: code=" ++ e.code ++ " message=" ++ e.message ++
      " data=" ++ e.data))
  | .missingResult => .error .rpcMissingResult
  | .undecodable e => .error (.http e)
  | .result envelope => .ok envelope

def envelopeOk {α : Type} (envelope : ResponseEnvelope α) : Except RuntimeError α :=
  if envelope.ok = false then .error (.rpcApp (envelope.error.getD "unknown rpc app error"))
  else
    match envelope.data with
    | none => .error .rpcMissingResult
    | some data => .ok data

/-- `envelope_ok_unit`: no data is asked for. -/
def envelopeOkUnit (envelope : ResponseEnvelope Unit) : Except RuntimeError Unit :=
  if envelope.ok = false then .error (.rpcApp (envelope.error.getD "unknown rpc app error"))
  else .ok ()

/-- A call whose envelope must carry data. -/
def callOk {α : Type} (method : String) (answer : RpcAnswer α) : Except RuntimeError α :=
  match httpRpcCall method answer with
  | .error e => .error e
  | .ok envelope => envelopeOk envelope

def callOkUnit (method : String) (answer : RpcAnswer Unit) : Except RuntimeError Unit :=
  match httpRpcCall method answer with
  | .error e => .error e
  | .ok envelope => envelopeOkUnit envelope

/-! ### The turn -/

structure SingleActionRunnerConfig where
  rpcEndpoint : String
  roomId : RoomId
  seatId : SeatId
  seatAddress : String
  roomChainAddress : String
  chainId : ℕ
  cardEncryptSecretHex : Option String

structure PrivatePayloadEvent where
  roomId : RoomId
  handId : HandId
  seatId : SeatId
  eventName : String
  payload : Value

structure PolicyDecisionInput where
  roomId : RoomId
  handId : HandId
  seatId : SeatId
  legalActions : List String
  privateStateJson : Option Value

structure PolicyDecision where
  actionType : ActionType
  amount : Option Chips

structure TurnDecisionInput where
  policyInput : PolicyDecisionInput
  handId : HandId
  actionSeq : ActionSeq
  legalActionsRaw : List LegalAction

/-- The libraries behind the runtime: the texts and the curve, and what is read from the private
payloads with the secret of the seat. -/
structure RuntimeContext where
  ext : Externals
  buildPrivateStateJson :
    List PrivatePayloadEvent → Option String → Except RuntimeError (Option Value)

/-- `connect_skill`: a new skill, joined to the seat. -/
def connectSkill (cfg : SingleActionRunnerConfig) : Except RuntimeError LocalAgentSkill :=
  let skill := connect {}
    { endpointHttp := cfg.rpcEndpoint, endpointWs := none, sessionId := none }
  match joinRoom skill cfg.roomId cfg.seatId with
  | .error e => .error (.agentSkill e.text)
  | .ok skill => .ok skill

/-- A skill at the seat of the client that has attempted nothing. -/
structure Joined (cfg : SingleActionRunnerConfig) (skill : LocalAgentSkill) (seatCtx : SeatContext) :
    Prop where
  seat : skill.seatCtx = some seatCtx
  fresh : skill.actionAttempts = ∅
  roomId : seatCtx.roomId = cfg.roomId
  seatId : seatCtx.seatId = cfg.seatId

theorem connectSkill_joined (cfg : SingleActionRunnerConfig) :
    ∃ skill, connectSkill cfg = .ok skill ∧ ∃ seatCtx, Joined cfg skill seatCtx :=
  ⟨_, rfl, _, rfl, rfl, rfl, rfl⟩

/-- What the server answers to the three questions about a turn. -/
structure CollectAnswers where
  state : RpcAnswer (Option HandSnapshot)
  legalActions : RpcAnswer (List LegalAction)
  privatePayloads : RpcAnswer (List PrivatePayloadEvent)

/-- `collect_turn_decision_input`: nothing if another seat is to act. -/
def collectTurnDecisionInput (ctx : RuntimeContext) (cfg : SingleActionRunnerConfig)
    (answers : CollectAnswers) : Except RuntimeError (Option TurnDecisionInput) :=
  match connectSkill cfg with
  | .error e => .error e
  | .ok skill =>
    match seatContext skill with
    | .error e => .error (.agentSkill e.text)
    | .ok _ =>
      match callOk "game.get_state" answers.state with
      | .error e => .error e
      | .ok none => .error .stateUnavailable
      | .ok (some state) =>
        if state.actingSeatId ≠ some cfg.seatId then .ok none
        else
          match callOk "game.get_legal_actions" answers.legalActions with
          | .error e => .error e
          | .ok legalActionsRaw =>
            match callOk "game.get_private_payloads" answers.privatePayloads with
            | .error e => .error e
            | .ok events =>
              match ctx.buildPrivateStateJson events cfg.cardEncryptSecretHex with
              | .error e => .error e
              | .ok privateStateJson =>
                .ok (some
                  { policyInput :=
                      { roomId := cfg.roomId, handId := state.handId, seatId := cfg.seatId,
                        legalActions := legalActionsRaw.map fun a => debugLowercase a.actionType,
                        privateStateJson },
                    handId := state.handId, actionSeq := state.nextActionSeq, legalActionsRaw })

/-- `decide_action` of the rule policy: check, else call, else fold. -/
def rulePolicy (input : PolicyDecisionInput) : Option PolicyDecision :=
  if "check" ∈ input.legalActions then some ⟨.check, none⟩
  else if "call" ∈ input.legalActions then some ⟨.call, none⟩
  else if "fold" ∈ input.legalActions then some ⟨.fold, none⟩
  else none

def resolveActionAmountFromLegalActions (decision : PolicyDecision)
    (legalActionsRaw : List LegalAction) : Except RuntimeError (Option Chips) :=
  match decision.actionType with
  | .fold => .ok none
  | .check => .ok none
  | .call =>
    match legalActionsRaw.find? fun a => a.actionType = .call with
    | none => .error (.policy "call not present in legal actions")
    | some call => .ok (call.minAmount.or decision.amount)
  | .raiseTo | .allIn =>
    match decision.amount with
    | none => .error (.policy "raise_to/all_in requires explicit amount")
    | some amount => .ok (some amount)

/-! ### Paying and acting -/

structure EvmTransferRequest where
  roomId : RoomId
  sender : String
  receiver : String
  value : Chips
  chainId : ℕ
deriving DecidableEq

/-- A turn, as the client tells turns apart. -/
structure TurnKey where
  handId : HandId
  actionSeq : ActionSeq
deriving DecidableEq

def TurnDecisionInput.key (turn : TurnDecisionInput) : TurnKey := ⟨turn.handId, turn.actionSeq⟩

inductive ClientEffect where
  /-- `transfer_to_room` returned with a transaction; the key is that of the turn it is for. -/
  | transferred (turn : TurnKey) (request : EvmTransferRequest) (txHash : String)
  /-- The request of `game.act` was sent. -/
  | acted (request : GameActRequest)
  /-- The seat was prepared again. -/
  | preparedSeat
deriving DecidableEq

/-- What the wallet and the server answer while a decision is executed. -/
structure ExecuteAnswers where
  transferToRoom : Except String String
  /-- For the address and the message. -/
  signPersonalMessage : String → String → Except String String
  gameAct : RpcAnswer Unit
  stamp : RequestStamp

structure SingleActionRunOutcome where
  handId : HandId
  actionSeq : ActionSeq
  submittedAmount : Option Chips
  txHash : Option String

/-- The amount, if there is one, is transferred to the room. -/
def payAmount (cfg : SingleActionRunnerConfig) (answers : ExecuteAnswers) (turn : TurnKey) :
    Option Chips → List ClientEffect × Except RuntimeError (Option String)
  | none => ([], .ok none)
  | some value =>
    match answers.transferToRoom with
    | .error e => ([], .error (.wallet e))
    | .ok txHash =>
      ([.transferred turn
          { roomId := cfg.roomId, sender := cfg.seatAddress, receiver := cfg.roomChainAddress, value,
            chainId := cfg.chainId } txHash], .ok (some txHash))

def signRequestMetaWithWallet (ext : Externals) (cfg : SingleActionRunnerConfig)
    (answers : ExecuteAnswers) (method : String) (handId : Option String)
    (actionSeq : Option ActionSeq) (params : Value) (requestMeta : SignedRequestMeta) :
    Except RuntimeError SignedRequestMeta :=
  let requestMeta := { requestMeta with signaturePubkeyId := cfg.seatAddress }
  let message := buildSigningMessage ext
    { method, sessionId := nilSession, roomId := some cfg.roomId, handId, actionSeq, params,
      requestMeta }
  match answers.signPersonalMessage cfg.seatAddress message with
  | .error e => .error (.wallet e)
  | .ok signature => .ok { requestMeta with signature }

def buildSignedGameActRequest (ext : Externals) (skill : LocalAgentSkill)
    (cfg : SingleActionRunnerConfig) (answers : ExecuteAnswers) (turn : TurnKey)
    (actionType : ActionType) (amount txHash : Option String) : Except RuntimeError GameActRequest :=
  match buildGameActRequest skill answers.stamp turn.handId turn.actionSeq actionType amount
      txHash with
  | .error e => .error (.agentSkill e.text)
  | .ok (_, request) =>
    let params : Value := .object
      [("seat_id", .number request.seatId.val), ("action_type", .string request.actionType),
        ("amount", optionalText request.amount), ("tx_hash", optionalText request.txHash)]
    match signRequestMetaWithWallet ext cfg answers "game.act"
        (some (ext.uuidText request.handId.uuid)) (some request.actionSeq) params
        request.requestMeta with
    | .error e => .error e
    | .ok requestMeta => .ok { request with requestMeta }

/-- The request of a client, with whatever it is signed with. -/
def requestOf (cfg : SingleActionRunnerConfig) (turn : TurnKey) (actionType : ActionType)
    (amount txHash : Option String) (requestMeta : SignedRequestMeta) : GameActRequest where
  roomId := cfg.roomId
  handId := turn.handId
  actionSeq := turn.actionSeq
  seatId := cfg.seatId
  actionType := debugLowercase actionType
  amount
  txHash
  requestMeta

/-- A signature is all that a request can lack. -/
theorem buildSignedGameActRequest_ok {cfg : SingleActionRunnerConfig} {skill : LocalAgentSkill}
    {seatCtx : SeatContext} (hjoined : Joined cfg skill seatCtx) {answers : ExecuteAnswers}
    (hsigns : ∀ address message, ∃ signature, answers.signPersonalMessage address message = .ok signature)
    (ext : Externals) (turn : TurnKey) (actionType : ActionType) (amount txHash : Option String) :
    ∃ requestMeta, buildSignedGameActRequest ext skill cfg answers turn actionType amount txHash =
      .ok (requestOf cfg turn actionType amount txHash requestMeta) := by
  obtain ⟨⟨skill', request⟩, hbuilt⟩ := buildGameActRequest_fresh hjoined.seat hjoined.fresh answers.stamp
    turn.handId turn.actionSeq actionType amount txHash
  obtain ⟨requestMeta, rfl⟩ := buildGameActRequest_ok hjoined.seat hbuilt
  unfold buildSignedGameActRequest
  rw [hbuilt]
  unfold signRequestMetaWithWallet
  dsimp only
  obtain ⟨signature, hsignature⟩ := hsigns cfg.seatAddress _
  rw [hsignature, hjoined.roomId, hjoined.seatId]
  exact ⟨_, rfl⟩

/-- `execute_turn_decision`: first the payment, then the action. -/
def executeTurnDecision (ext : Externals) (cfg : SingleActionRunnerConfig)
    (answers : ExecuteAnswers) (turn : TurnDecisionInput) (decision : PolicyDecision) :
    List ClientEffect × Except RuntimeError SingleActionRunOutcome :=
  match connectSkill cfg with
  | .error e => ([], .error e)
  | .ok skill =>
    match resolveActionAmountFromLegalActions decision turn.legalActionsRaw with
    | .error e => ([], .error e)
    | .ok resolvedAmount =>
      match payAmount cfg answers turn.key resolvedAmount with
      | (paid, .error e) => (paid, .error e)
      | (paid, .ok txHash) =>
        match buildSignedGameActRequest ext skill cfg answers turn.key decision.actionType
            (resolvedAmount.map fun v => toString v.asU128) txHash with
        | .error e => (paid, .error e)
        | .ok request =>
          (paid ++ [.acted request],
            match callOkUnit "game.act" answers.gameAct with
            | .error e => .error e
            | .ok () =>
              .ok { handId := turn.handId, actionSeq := turn.actionSeq,
                    submittedAmount := resolvedAmount, txHash })

end HoldemPlatform.Client.Runtime
