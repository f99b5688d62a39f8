import HoldemPlatform.Gateway.Requests
import Mathlib.Data.Finset.Insert

/-!
# The Agent Skill

What an agent builds its requests with. A skill knows the seat it has joined and which action attempts
it has made; an attempt at the same action is refused the second time.
-/

namespace HoldemPlatform.Client.Skill

open HoldemPlatform.Domain.Game HoldemPlatform.Gateway.Requests

inductive AgentSkillError where
  | notConnected
  | missingSeatContext
  | duplicateActionAttempt
deriving DecidableEq

def AgentSkillError.text : AgentSkillError → String
  | .notConnected => "not connected"
  | .missingSeatContext => "seat context missing"
  | .duplicateActionAttempt => "duplicate action attempt detected"

structure AgentSkillConfig where
  endpointHttp : String
  endpointWs : Option String
  sessionId : Option SessionId

structure SeatContext where
  roomId : RoomId
  seatId : SeatId
  seatAddress : Option String
  requestSignaturePubkeyId : Option String

structure ActionAttemptKey where
  roomId : RoomId
  handId : HandId
  seatId : SeatId
  actionSeq : ActionSeq
deriving DecidableEq

structure LocalAgentSkill where
  config : Option AgentSkillConfig := none
  seatCtx : Option SeatContext := none
  sessionId : Option SessionId := none
  actionAttempts : Finset ActionAttemptKey := ∅

/-- What a new request takes from the clock and from the generator of identifiers. -/
structure RequestStamp where
  requestId : RequestId
  requestNonce : String
  requestTs : ℤ

def connect (skill : LocalAgentSkill) (config : AgentSkillConfig) : LocalAgentSkill :=
  { skill with sessionId := config.sessionId, config := some config }

def joinRoom (skill : LocalAgentSkill) (roomId : RoomId) (seatId : SeatId) :
    Except AgentSkillError LocalAgentSkill :=
  match skill.config with
  | none => .error .notConnected
  | some _ =>
    .ok { skill with
      seatCtx := some { roomId, seatId, seatAddress := none, requestSignaturePubkeyId := none } }

/-- The seat every request of a skill is for. -/
def seatContext (skill : LocalAgentSkill) : Except AgentSkillError SeatContext :=
  match skill.seatCtx with
  | none => .error .missingSeatContext
  | some seatCtx => .ok seatCtx

def signedMeta (skill : LocalAgentSkill) (stamp : RequestStamp) :
    Except AgentSkillError SignedRequestMeta :=
  match seatContext skill with
  | .error e => .error e
  | .ok seatCtx =>
    .ok { requestId := stamp.requestId, requestNonce := stamp.requestNonce,
          requestTs := stamp.requestTs, requestExpiryMs := 30000,
          signaturePubkeyId := seatCtx.requestSignaturePubkeyId.getD "unset", signature := "" }

/-- `reserve` of the store of attempts. -/
def reserve (seen : Finset ActionAttemptKey) (key : ActionAttemptKey) :
    Except AgentSkillError (Finset ActionAttemptKey) :=
  if key ∈ seen then .error .duplicateActionAttempt else .ok (insert key seen)

def reserveActionAttempt (skill : LocalAgentSkill) (handId : HandId) (actionSeq : ActionSeq) :
    Except AgentSkillError LocalAgentSkill :=
  match seatContext skill with
  | .error e => .error e
  | .ok seatCtx =>
    match reserve skill.actionAttempts
        { roomId := seatCtx.roomId, handId, seatId := seatCtx.seatId, actionSeq } with
    | .error e => .error e
    | .ok actionAttempts => .ok { skill with actionAttempts }

/-- The name of an action as Rust prints it, in lower case. -/
def debugLowercase : ActionType → String
  | .fold => "fold"
  | .check => "check"
  | .call => "call"
  | .raiseTo => "raiseto"
  | .allIn => "allin"

def buildGameActRequest (skill : LocalAgentSkill) (stamp : RequestStamp) (handId : HandId)
    (actionSeq : ActionSeq) (actionType : ActionType) (amount txHash : Option String) :
    Except AgentSkillError (LocalAgentSkill × GameActRequest) :=
  match seatContext skill with
  | .error e => .error e
  | .ok seatCtx =>
    match reserveActionAttempt skill handId actionSeq with
    | .error e => .error e
    | .ok skill' =>
      match signedMeta skill' stamp with
      | .error e => .error e
      | .ok requestMeta =>
        .ok (skill',
          { roomId := seatCtx.roomId, handId, actionSeq, seatId := seatCtx.seatId,
            actionType := debugLowercase actionType, amount, txHash, requestMeta })

section

variable {skill : LocalAgentSkill} {seatCtx : SeatContext}

theorem seatContext_of_seat (hseat : skill.seatCtx = some seatCtx) :
    seatContext skill = .ok seatCtx := by
  unfold seatContext
  rw [hseat]

theorem signedMeta_of_seat (hseat : skill.seatCtx = some seatCtx) (stamp : RequestStamp) :
    ∃ requestMeta, signedMeta skill stamp = .ok requestMeta := by
  unfold signedMeta
  rw [seatContext_of_seat hseat]
  exact ⟨_, rfl⟩

theorem reserveActionAttempt_fresh (hseat : skill.seatCtx = some seatCtx)
    (hfresh : skill.actionAttempts = ∅) (handId : HandId) (actionSeq : ActionSeq) :
    ∃ skill', reserveActionAttempt skill handId actionSeq = .ok skill' ∧
      skill'.seatCtx = some seatCtx := by
  unfold reserveActionAttempt reserve
  rw [seatContext_of_seat hseat, hfresh]
  exact ⟨_, rfl, hseat⟩

/-- What a request the skill has built says. -/
theorem buildGameActRequest_ok {skill' : LocalAgentSkill} {stamp : RequestStamp} {handId : HandId}
    {actionSeq : ActionSeq} {actionType : ActionType} {amount txHash : Option String}
    {request : GameActRequest} (hseat : skill.seatCtx = some seatCtx)
    (hbuild : buildGameActRequest skill stamp handId actionSeq actionType amount txHash =
      .ok (skill', request)) :
    ∃ requestMeta, request =
      { roomId := seatCtx.roomId, handId, actionSeq, seatId := seatCtx.seatId,
        actionType := debugLowercase actionType, amount, txHash, requestMeta } := by
  unfold buildGameActRequest at hbuild
  rw [seatContext_of_seat hseat] at hbuild
  dsimp only at hbuild
  split at hbuild
  · cases hbuild
  split at hbuild
  · cases hbuild
  rename_i requestMeta _
  cases hbuild
  exact ⟨requestMeta, rfl⟩

/-- A seated skill that has made no attempt yet builds a request for any action: the store of attempts
refuses nothing. -/
theorem buildGameActRequest_fresh (hseat : skill.seatCtx = some seatCtx)
    (hfresh : skill.actionAttempts = ∅) (stamp : RequestStamp) (handId : HandId)
    (actionSeq : ActionSeq) (actionType : ActionType) (amount txHash : Option String) :
    ∃ built, buildGameActRequest skill stamp handId actionSeq actionType amount txHash =
      .ok built := by
  obtain ⟨skill', hreserve, hseat'⟩ := reserveActionAttempt_fresh hseat hfresh handId actionSeq
  obtain ⟨requestMeta, hmeta⟩ := signedMeta_of_seat hseat' stamp
  unfold buildGameActRequest
  rw [seatContext_of_seat hseat, hreserve]
  dsimp only
  rw [hmeta]
  exact ⟨_, rfl⟩

end

end HoldemPlatform.Client.Skill
