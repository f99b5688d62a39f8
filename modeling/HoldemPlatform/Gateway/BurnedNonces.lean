import HoldemPlatform.Gateway.SeatAuthority

/-!
# Nonces of Requests That Are Refused

Every handler uses up the nonce of a request before it asks whether the request is authentic. A request
that anybody sent under the identifier and the nonce of another one is refused, but its nonce is gone,
and the other request is refused as a replay.
-/

namespace HoldemPlatform.Gateway.BurnedNonces

open HoldemPlatform.Lib.Run HoldemPlatform.Domain.Game HoldemPlatform.Engine.State
open HoldemPlatform.Room.Actor HoldemPlatform.Room.Effect
open HoldemPlatform.Gateway.Requests HoldemPlatform.Gateway.Handlers
open HoldemPlatform.Gateway.SeatAuthority HoldemPlatform.Auth.Signing
open HoldemPlatform.Service.RoomService

variable {Card : Type}

/-! ### Requests and their checks -/

/-- What the stages of the handler read of a request. -/
def scope : SeatRequest → RequestScope
  | .join request => joinScope request
  | .bindAddress request => bindAddressScope request
  | .bindSessionKeys request => bindSessionKeysScope request
  | .ready request => readyScope request
  | .act request => actScope request

def nonceKey (requestMeta : SignedRequestMeta) : ReplayNonceKey where
  agentId := ⟨requestMeta.requestId.uuid⟩
  requestId := requestMeta.requestId
  requestNonce := requestMeta.requestNonce

/-- The funding fields of an action; other requests have none. -/
def funding : SeatRequest → Except RpcGatewayError Unit
  | .act request => validateGameActFundingFields request
  | _ => .ok ()

/-- The proof of a key binding; other requests have none. -/
def bindingProof (ext : Externals) : SeatRequest → Except RpcGatewayError Unit
  | .bindSessionKeys request => validateBindSessionKeysProof ext request
  | _ => .ok ()

/-- The request passes what is checked up to its nonce. -/
structure Admitted (utcNow : ℤ) (seen : Finset ReplayNonceKey) (request : SeatRequest) : Prop where
  funded : funding request = .ok ()
  inWindow : validateRequestWindow utcNow (scope request).requestMeta.requestTs
    (scope request).requestMeta.requestExpiryMs 5000 = .ok ()
  fresh : nonceKey (scope request).requestMeta ∉ seen

/-- The proof and the signature of the request verify. -/
structure Authentic (ext : Externals) (svc : AppRoomService Card) (request : SeatRequest) : Prop where
  proved : bindingProof ext request = .ok ()
  signed : request.verdict ext svc = .ok ()

/-- The answer to a request whose signature or proof does not verify. -/
def Unauthenticated (body : ErrorBody) : Prop :=
  body.code = .forbidden ∨ body.code = .keyBindingProofInvalid ∨
    body = ⟨.requestInvalid, RpcGatewayError.forbidden.text⟩

instance (body : ErrorBody) : Decidable (Unauthenticated body) :=
  inferInstanceAs (Decidable (_ ∨ _ ∨ _))

theorem not_unauthenticated {e : RpcGatewayError} (h : e ≠ .forbidden) :
    ¬ Unauthenticated ⟨.requestInvalid, e.text⟩ := by
  rintro (hcode | hcode | hbody)
  · cases hcode
  · cases hcode
  · exact text_ne_forbidden h (congrArg ErrorBody.message hbody)

theorem funding_ne_forbidden {request : SeatRequest} {e : RpcGatewayError}
    (h : funding request = .error e) : e ≠ .forbidden := by
  cases request with
  | act request =>
    dsimp only [funding, validateGameActFundingFields] at h
    split at h
    · rename_i haction
      rw [← Except.error.inj h, parseActionType_error haction]
      exact nofun
    split at h
    · rename_i hamount
      rw [← Except.error.inj h, parseAmountU128_error hamount]
      exact nofun
    -- the three refusals of the fields themselves are texts of the upstream
    · split_ifs at h <;> exact (Except.error.inj h) ▸ nofun
  | join request => cases h
  | bindAddress request => cases h
  | bindSessionKeys request => cases h
  | ready request => cases h

/-! ### The stages -/

section

variable {ctx : RpcContext} {utcNow : ℤ} {gw : RpcGateway Card} {seen : Finset ReplayNonceKey}

/-- The stages of a handler up to the nonce. -/
def admission (utcNow : ℤ) (request : SeatRequest) : Stage Card :=
  match request with
  | .act act => (checkFundingFields act).andThen (validateRequestMetaWithAudit utcNow (scope request))
  | _ => validateRequestMetaWithAudit utcNow (scope request)

/-- The stages of a handler between the nonce and the service. -/
def authentication (ctx : RpcContext) (request : SeatRequest) : Stage Card :=
  let verdict := fun svc => request.verdict ctx.ext svc
  match request with
  | .join _ => fun gw => (gw, .ok ())
  | .bindSessionKeys bind => (checkKeyBindingProof ctx (scope request) bind).andThen
      (verifySignatureWithAudit ctx (scope request) verdict .forbidden)
  | .bindAddress _ => verifySignatureWithAudit ctx (scope request) verdict .requestInvalid
  | _ => verifySignatureWithAudit ctx (scope request) verdict .forbidden

def failureCode : SeatRequest → ErrorCode
  | .join _ => .roomReadyFailed
  | .bindAddress _ => .roomBindAddressFailed
  | .bindSessionKeys _ => .roomBindKeysFailed
  | .ready _ => .roomReadyFailed
  | .act _ => .gameActFailed

theorem handle_eq [RsPoker Card] (ctx : RpcContext) (utcNow : ℤ) (env : RoomEnv Card)
    (request : SeatRequest) :
    request.handle ctx utcNow env = (admission utcNow request).andThen
      ((authentication ctx request).andThen
        (callService (fun svc => request.call ctx.room env svc) (failureCode request))) := by
  cases request with
  | join request => rfl
  | bindAddress request => exact Stage.andThen_assoc _ _ _
  | bindSessionKeys request =>
    dsimp only [SeatRequest.handle, handleBindSessionKeysWithAudit]
    rw [Stage.andThen_assoc, Stage.andThen_assoc, ← Stage.andThen_assoc (checkKeyBindingProof _ _ _)]
    rfl
  | ready request => exact Stage.andThen_assoc _ _ _
  | act request =>
    dsimp only [SeatRequest.handle, handleGameActWithAudit]
    rw [Stage.andThen_assoc]
    rfl

/-- What the handler answers before it asks whether the request is authentic. -/
def RefusedUnasked (answer : RpcGateway Card × Except ErrorBody Unit) : Prop :=
  ∃ body, answer.2 = .error body ∧ ¬ Unauthenticated body

theorem validateRequestMeta_cases (hstore : gw.replayNonceStore = some seen)
    (utcNow : ℤ) (scope : RequestScope) :
    let passes := validateRequestWindow utcNow scope.requestMeta.requestTs
      scope.requestMeta.requestExpiryMs 5000 = .ok () ∧ nonceKey scope.requestMeta ∉ seen
    (passes ∧ validateRequestMetaWithAudit utcNow scope gw =
        ({ gw with replayNonceStore := some (insert (nonceKey scope.requestMeta) seen) }, .ok ())) ∨
      (¬ passes ∧ RefusedUnasked (validateRequestMetaWithAudit utcNow scope gw)) := by
  intro passes
  unfold validateRequestMetaWithAudit
  rw [hstore]
  cases hwindow : validateRequestWindow utcNow scope.requestMeta.requestTs
      scope.requestMeta.requestExpiryMs 5000 with
  | error e =>
    refine .inr ⟨fun h => ?_, _, rfl, not_unauthenticated nofun⟩
    have hok := h.1
    rw [hwindow] at hok
    cases hok
  | ok u =>
    by_cases hfresh : nonceKey scope.requestMeta ∈ seen
    · have hconsume : consumeOnce seen (nonceKey scope.requestMeta) = (seen, .error .replayDetected) :=
        if_pos hfresh
      unfold nonceKey at hconsume
      dsimp only
      rw [hconsume]
      exact .inr ⟨fun h => h.2 hfresh, _, rfl, not_unauthenticated nofun⟩
    · have hconsume : consumeOnce seen (nonceKey scope.requestMeta) =
          (insert (nonceKey scope.requestMeta) seen, .ok ()) := if_neg hfresh
      unfold nonceKey at hconsume
      dsimp only
      rw [hconsume]
      exact .inl ⟨⟨hwindow, hfresh⟩, rfl⟩

/-- An admitted request has used up its nonce; any other is refused for another reason than its
signature or its proof. -/
theorem admission_cases (hstore : gw.replayNonceStore = some seen) (utcNow : ℤ)
    (request : SeatRequest) :
    (Admitted utcNow seen request ∧ admission utcNow request gw =
        ({ gw with replayNonceStore := some (insert (nonceKey (scope request).requestMeta) seen) },
          .ok ())) ∨
      (¬ Admitted utcNow seen request ∧ RefusedUnasked (admission utcNow request gw)) := by
  have hmeta (hfunding : funding request = .ok ()) :
      (Admitted utcNow seen request ∧ validateRequestMetaWithAudit utcNow (scope request) gw =
          ({ gw with replayNonceStore := some (insert (nonceKey (scope request).requestMeta) seen) },
            .ok ())) ∨
        (¬ Admitted utcNow seen request ∧
          RefusedUnasked (validateRequestMetaWithAudit utcNow (scope request) gw)) := by
    refine (validateRequestMeta_cases hstore utcNow (scope request)).imp ?_ ?_
    · rintro ⟨⟨hwindow, hfresh⟩, heq⟩
      exact ⟨⟨hfunding, hwindow, hfresh⟩, heq⟩
    · rintro ⟨hpasses, hrefused⟩
      exact ⟨fun h => hpasses ⟨h.inWindow, h.fresh⟩, hrefused⟩
  cases request with
  | act act =>
    dsimp only [admission, Stage.andThen, checkFundingFields]
    cases hfunding : validateGameActFundingFields act with
    | error e =>
      have herror : funding (.act act) = .error e := hfunding
      refine .inr ⟨fun h => ?_, _, rfl, not_unauthenticated (funding_ne_forbidden herror)⟩
      cases herror.symm.trans h.funded
    | ok u => exact hmeta hfunding
  | join request => exact hmeta rfl
  | bindAddress request => exact hmeta rfl
  | bindSessionKeys request => exact hmeta rfl
  | ready request => exact hmeta rfl

/-- The request is refused because its signature or its proof does not verify, and the replay store is
not touched. -/
def RefusedAsked (gw : RpcGateway Card) (answer : RpcGateway Card × Except ErrorBody Unit) : Prop :=
  answer.1.replayNonceStore = gw.replayNonceStore ∧
    ∃ body, answer.2 = .error body ∧ Unauthenticated body

theorem verifySignature_cases (henabled : ctx.signatureVerifier = true) (scope : RequestScope)
    (verdict : AppRoomService Card → Except String Unit) {code : ErrorCode}
    (hcode : Unauthenticated ⟨code, RpcGatewayError.forbidden.text⟩) (gw : RpcGateway Card) :
    (verdict gw.service = .ok () ∧
        verifySignatureWithAudit ctx scope verdict code gw = (gw, .ok ())) ∨
      (verdict gw.service ≠ .ok () ∧
        RefusedAsked gw (verifySignatureWithAudit ctx scope verdict code gw)) := by
  unfold verifySignatureWithAudit
  rw [if_pos henabled]
  cases hverdict : verdict gw.service with
  | error e => exact .inr ⟨nofun, rfl, _, rfl, hcode⟩
  | ok u => exact .inl ⟨rfl, rfl⟩

/-- An authentic request passes; any other is refused as unauthenticated. -/
theorem authentication_cases (henabled : ctx.signatureVerifier = true) (request : SeatRequest)
    (gw : RpcGateway Card) :
    (Authentic ctx.ext gw.service request ∧ authentication ctx request gw = (gw, .ok ())) ∨
      (¬ Authentic ctx.ext gw.service request ∧
        RefusedAsked gw (authentication ctx request gw)) := by
  have hsigned (hproof : bindingProof ctx.ext request = .ok ()) {code : ErrorCode}
      (hcode : Unauthenticated ⟨code, RpcGatewayError.forbidden.text⟩) :
      let verdict := fun svc => request.verdict ctx.ext svc
      let verify := verifySignatureWithAudit ctx (scope request) verdict code
      (Authentic ctx.ext gw.service request ∧ verify gw = (gw, .ok ())) ∨
        (¬ Authentic ctx.ext gw.service request ∧ RefusedAsked gw (verify gw)) := by
    intro verdict verify
    refine (verifySignature_cases henabled (scope request) verdict hcode gw).imp ?_ ?_
    · rintro ⟨hverdict, heq⟩
      exact ⟨⟨hproof, hverdict⟩, heq⟩
    · rintro ⟨hverdict, hrefused⟩
      exact ⟨fun h => hverdict h.signed, hrefused⟩
  cases request with
  | join request => exact .inl ⟨⟨rfl, rfl⟩, rfl⟩
  | bindAddress request => exact hsigned rfl (.inr (.inr rfl))
  | bindSessionKeys bind =>
    dsimp only [authentication, Stage.andThen, checkKeyBindingProof]
    cases hproof : validateBindSessionKeysProof ctx.ext bind with
    | error e =>
      have herror : bindingProof ctx.ext (.bindSessionKeys bind) = .error e := hproof
      refine .inr ⟨fun h => ?_, rfl, _, rfl, .inr (.inl rfl)⟩
      cases herror.symm.trans h.proved
    | ok u => exact hsigned hproof (.inl rfl)
  | ready request => exact hsigned rfl (.inl rfl)
  | act request => exact hsigned rfl (.inl rfl)

theorem callService_not_unauthenticated {call : AppRoomService Card →
    AppRoomService Card × Except RpcGatewayError Unit} {request : SeatRequest} {body : ErrorBody}
    (h : (callService call (failureCode request) gw).2 = .error body) : ¬ Unauthenticated body := by
  have hcode : body.code = failureCode request := by
    unfold callService at h
    dsimp only at h
    split at h
    · exact (congrArg ErrorBody.code (Except.error.inj h)).symm
    · cases h
  rintro (hforbidden | hproof | rfl)
  · rw [hcode] at hforbidden
    cases request <;> cases hforbidden
  · rw [hcode] at hproof
    cases request <;> cases hproof
  · cases request <;> cases hcode

end

/-! ### Who burns a nonce -/

section

variable [RsPoker Card] {utcNow : ℤ} {gw : RpcGateway Card} {seen : Finset ReplayNonceKey}
  {request : SeatRequest}

/-- The used nonces are as before: a request with the same identifier and nonce passes the replay check
afterwards if it did before. -/
structure NoncesKept (gw' : RpcGateway Card) (seen : Finset ReplayNonceKey)
    (requestMeta : SignedRequestMeta) : Prop where
  unchanged : gw'.replayNonceStore = some seen
  acceptedLater : ∀ later : SignedRequestMeta, later.requestId = requestMeta.requestId →
    later.requestNonce = requestMeta.requestNonce → nonceKey requestMeta ∉ seen →
      gw'.replayNonceStore.map (fun used => (consumeOnce used (nonceKey later)).2) = some (.ok ())

/-- If the handler refuses the request because its signature or its proof does not verify, the nonces
are kept. -/
def RefusalKeepsNonces (ctx : RpcContext) (utcNow : ℤ) (env : RoomEnv Card) (gw : RpcGateway Card)
    (seen : Finset ReplayNonceKey) (request : SeatRequest) : Prop :=
  ∀ body, (request.handle ctx utcNow env gw).2 = .error body → Unauthenticated body →
    NoncesKept (request.handle ctx utcNow env gw).1 seen (scope request).requestMeta

theorem handle_of_not_admitted (ctx : RpcContext) (env : RoomEnv Card)
    (hstore : gw.replayNonceStore = some seen)
    (hnot : ¬ Admitted utcNow seen request) :
    RefusedUnasked (request.handle ctx utcNow env gw) := by
  rcases admission_cases hstore utcNow request with ⟨h, -⟩ | ⟨-, body, hbody, hun⟩
  · exact absurd h hnot
  refine ⟨body, ?_, hun⟩
  rw [handle_eq, Stage.andThen_of_error hbody]

theorem handle_of_admitted (ctx : RpcContext) (env : RoomEnv Card)
    (hstore : gw.replayNonceStore = some seen)
    (hadmitted : Admitted utcNow seen request) :
    request.handle ctx utcNow env gw = (authentication ctx request).andThen
      (callService (fun svc => request.call ctx.room env svc) (failureCode request))
      { gw with
        replayNonceStore := some (insert (nonceKey (scope request).requestMeta) seen) } := by
  rcases admission_cases hstore utcNow request with ⟨-, heq⟩ | ⟨hnot, -⟩
  · rw [handle_eq, Stage.andThen_of_ok heq]
  · exact absurd hadmitted hnot

theorem handle_of_not_authentic {ctx : RpcContext} (henabled : ctx.signatureVerifier = true)
    (env : RoomEnv Card) (hstore : gw.replayNonceStore = some seen)
    (hadmitted : Admitted utcNow seen request) (hnot : ¬ Authentic ctx.ext gw.service request) :
    (∃ body, (request.handle ctx utcNow env gw).2 = .error body ∧ Unauthenticated body) ∧
      (request.handle ctx utcNow env gw).1.replayNonceStore =
        some (insert (nonceKey (scope request).requestMeta) seen) := by
  rw [handle_of_admitted ctx env hstore hadmitted]
  set burned : RpcGateway Card :=
    { gw with replayNonceStore := some (insert (nonceKey (scope request).requestMeta) seen) }
  rcases authentication_cases henabled request burned with ⟨h, -⟩ | ⟨-, hsame, body, hbody, hun⟩
  · exact absurd h hnot
  rw [Stage.andThen_of_error hbody]
  exact ⟨⟨body, rfl, hun⟩, hsame⟩

/-- An admitted request that is authentic is not refused as unauthenticated, whatever the service
says. -/
theorem handle_of_authentic {ctx : RpcContext} (henabled : ctx.signatureVerifier = true)
    (env : RoomEnv Card) (hstore : gw.replayNonceStore = some seen)
    (hadmitted : Admitted utcNow seen request) (hauthentic : Authentic ctx.ext gw.service request)
    {body : ErrorBody} (hbody : (request.handle ctx utcNow env gw).2 = .error body) :
    ¬ Unauthenticated body := by
  rw [handle_of_admitted ctx env hstore hadmitted] at hbody
  set burned : RpcGateway Card :=
    { gw with replayNonceStore := some (insert (nonceKey (scope request).requestMeta) seen) }
  rcases authentication_cases henabled request burned with ⟨-, heq⟩ | ⟨hnot, -⟩
  · rw [Stage.andThen_of_ok heq] at hbody
    exact callService_not_unauthenticated hbody
  · exact absurd hauthentic hnot

/-- **A refusal for the signature or the proof keeps the nonces** only where there is none: the request
falls at the funding fields, the window or the replay check, which come before, or its proof and its
signature verify. Every other request burns the nonce it names. -/
theorem nonces_kept_iff (ctx : RpcContext) (henabled : ctx.signatureVerifier = true) (utcNow : ℤ)
    (env : RoomEnv Card) (gw : RpcGateway Card) (seen : Finset ReplayNonceKey)
    (hstore : gw.replayNonceStore = some seen) (request : SeatRequest) :
    RefusalKeepsNonces ctx utcNow env gw seen request ↔
      (Admitted utcNow seen request → Authentic ctx.ext gw.service request) := by
  constructor
  · intro hkeeps hadmitted
    by_contra hnot
    obtain ⟨⟨body, hbody, hun⟩, hburned⟩ :=
      handle_of_not_authentic henabled env hstore hadmitted hnot
    have hunchanged := (hkeeps body hbody hun).unchanged
    rw [hburned, Option.some_inj, Finset.insert_eq_self] at hunchanged
    exact hadmitted.fresh hunchanged
  · intro hauthentic body hbody hun
    by_cases hadmitted : Admitted utcNow seen request
    · exact absurd hun (handle_of_authentic henabled env hstore hadmitted (hauthentic hadmitted) hbody)
    · obtain ⟨body', hbody', hun'⟩ := handle_of_not_admitted ctx env hstore hadmitted
      cases hbody.symm.trans hbody'
      exact absurd hun hun'

end

/-- Only the signatures of `0xa` verify. -/
def holderOnly : RpcContext where
  ext := { decimalFormats with
    recoverFromPersonalSign := fun _ sig _ => if sig.head? = some 0xaa then some "0xa" else none }

/-- Somebody who holds no key sends the request in which the holder of `0xa` binds seat 0. -/
def forgedBind : RoomBindAddressRequest :=
  { holderBind with requestMeta := { holderBind.requestMeta with signature := "0x" } }

def joinedGateway : RpcGateway ByteCard := run (gatewayStep holderOnly) {} (holderInputs.take 2)

/-- The nonce used up by the join. -/
def joinNonces : Finset ReplayNonceKey := {nonceKey (accountMeta "0" 'a')}

/-- The holder could bind the seat, but a forged request with the same identifier and nonce comes first.
It is forbidden, and then the holder's own request is taken for a replay. -/
theorem forged_bind_burns_nonce :
    let forged := SeatRequest.handle holderOnly 0 tableEnv (.bindAddress forgedBind) joinedGateway
    (SeatRequest.handle holderOnly 0 tableEnv (.bindAddress holderBind) joinedGateway).2 = .ok () ∧
      forged.2 = .error ⟨.requestInvalid, "forbidden"⟩ ∧
      (SeatRequest.handle holderOnly 0 tableEnv (.bindAddress holderBind) forged.1).2 =
        .error ⟨.requestInvalid, "upstream error: replay request detected"⟩ ∧
      joinedGateway.replayNonceStore = some joinNonces ∧
      ¬ RefusalKeepsNonces holderOnly 0 tableEnv joinedGateway joinNonces
        (.bindAddress forgedBind) := by
  intro forged
  have heval :
      (SeatRequest.handle holderOnly 0 tableEnv (.bindAddress holderBind) joinedGateway).2 = .ok () ∧
      forged.2 = .error ⟨.requestInvalid, "forbidden"⟩ ∧
      (SeatRequest.handle holderOnly 0 tableEnv (.bindAddress holderBind) forged.1).2 =
        .error ⟨.requestInvalid, "upstream error: replay request detected"⟩ ∧
      joinedGateway.replayNonceStore = some joinNonces ∧
      forged.1.replayNonceStore ≠ some joinNonces := by
    decide +kernel
  obtain ⟨hgenuine, hforbidden, hreplay, hstore, hburned⟩ := heval
  refine ⟨hgenuine, hforbidden, hreplay, hstore, fun hkeeps => ?_⟩
  have hkept : NoncesKept forged.1 joinNonces (scope (.bindAddress forgedBind)).requestMeta :=
    hkeeps ⟨.requestInvalid, "forbidden"⟩ hforbidden (.inr (.inr rfl))
  exact hburned hkept.unchanged

/-- The holder's own request has a signature that verifies; and where its nonce is used up already, the
forged one finds nothing to burn. -/
theorem late_forgery_burns_nothing :
    let used := insert (nonceKey holderBind.requestMeta) joinNonces
    RefusalKeepsNonces holderOnly 0 tableEnv joinedGateway joinNonces (.bindAddress holderBind) ∧
      RefusalKeepsNonces holderOnly 0 tableEnv { joinedGateway with replayNonceStore := some used }
        used (.bindAddress forgedBind) := by
  intro used
  have heval : joinedGateway.replayNonceStore = some joinNonces ∧
      verifyBindAddress holderOnly.ext holderBind = .ok () := by
    decide +kernel
  obtain ⟨hstore, hverdict⟩ := heval
  constructor
  · have hauthentic : Authentic holderOnly.ext joinedGateway.service (.bindAddress holderBind) :=
      ⟨rfl, hverdict⟩
    exact (nonces_kept_iff holderOnly rfl 0 tableEnv joinedGateway joinNonces hstore _).2
      fun _ => hauthentic
  · refine (nonces_kept_iff holderOnly rfl 0 tableEnv _ used rfl _).2 fun hadmitted => ?_
    have hsame : nonceKey (scope (.bindAddress forgedBind)).requestMeta =
        nonceKey holderBind.requestMeta := by decide
    have hfresh := hadmitted.fresh
    rw [hsame] at hfresh
    exact absurd (Finset.mem_insert_self (nonceKey holderBind.requestMeta) joinNonces) hfresh

end HoldemPlatform.Gateway.BurnedNonces
