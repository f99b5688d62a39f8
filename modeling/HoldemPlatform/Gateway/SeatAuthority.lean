import HoldemPlatform.Gateway.Handlers
import HoldemPlatform.Lib.Run

/-!
# Who Speaks for a Seat

A seat belongs to the address it is bound to. `room.ready` and `game.act` are verified against that
address, but the two requests that bind are verified against the address they bring along. If a seat
that is bound is never bound to another address, only the holder of its address speaks for it.
-/

namespace HoldemPlatform.Gateway.SeatAuthority

open HoldemPlatform.Lib.FiniteMap HoldemPlatform.Lib.Run
open HoldemPlatform.Domain.Game HoldemPlatform.Engine.State
open HoldemPlatform.Chain.Watcher HoldemPlatform.Room.Actor HoldemPlatform.Room.Effect
open HoldemPlatform.Gateway.Requests HoldemPlatform.Gateway.Handlers
open HoldemPlatform.Auth.Signing HoldemPlatform.Service.RoomService

variable {Card : Type}

/-! ### Requests of a seat -/

inductive SeatRequest where
  | join (request : RoomReadyRequest)
  | bindAddress (request : RoomBindAddressRequest)
  | bindSessionKeys (request : RoomBindSessionKeysRequest)
  | ready (request : RoomReadyRequest)
  | act (request : GameActRequest)

def SeatRequest.seat : SeatRequest → RoomId × SeatId
  | .join request => (request.roomId, request.seatId)
  | .bindAddress request => (request.roomId, request.seatId)
  | .bindSessionKeys request => (request.roomId, request.seatId)
  | .ready request => (request.roomId, request.seatId)
  | .act request => (request.roomId, request.seatId)

def SeatRequest.signedMessage (ext : Externals) : SeatRequest → Option String
  | .join _ => none
  | .bindAddress request => some (bindAddressMessage ext request)
  | .bindSessionKeys request => some (bindSessionKeysMessage ext request)
  | .ready request => some (roomReadyMessage ext request)
  | .act request => some (gameActMessage ext request)

/-- What the verifier says of a request. -/
def SeatRequest.verdict (ext : Externals) (svc : AppRoomService Card) :
    SeatRequest → Except String Unit
  | .join _ => .ok ()
  | .bindAddress request => verifyBindAddress ext request
  | .bindSessionKeys request => verifyBindSessionKeys ext request
  | .ready request => verifyRoomReady ext svc request
  | .act request => verifyGameAct ext svc request

/-- What belongs to a seat: the address the service has stored, the one its room has, and the key its
cards are encrypted for. -/
def seatData (svc : AppRoomService Card) (roomId : RoomId) (seatId : SeatId) :
    Option String × Option String × Option String :=
  (boundSeatAddress svc roomId seatId,
    (svc.rooms.lookup roomId).bind fun room => room.boundAddresses.lookup seatId,
    (svc.rooms.lookup roomId).bind fun room => room.cardPubkeys.lookup seatId)

theorem seatData_told {svc svc' : AppRoomService Card} {told roomId : RoomId} {seatId : SeatId}
    {room room' : RoomState Card} (hroom : svc.rooms.lookup told = some room)
    (hrooms : svc'.rooms = svc.rooms.insert told room')
    (hbound : boundSeatAddress svc' roomId seatId = boundSeatAddress svc roomId seatId)
    (hkeep : roomId = told → room'.boundAddresses.lookup seatId = room.boundAddresses.lookup seatId ∧
      room'.cardPubkeys.lookup seatId = room.cardPubkeys.lookup seatId) :
    seatData svc' roomId seatId = seatData svc roomId seatId := by
  unfold seatData
  rw [hbound, hrooms]
  by_cases htold : roomId = told
  · obtain ⟨haddress, hkey⟩ := hkeep htold
    rw [htold, AList.lookup_insert, hroom, Option.bind_some, Option.bind_some, Option.bind_some,
      Option.bind_some, haddress, hkey]
  · rw [AList.lookup_insert_ne htold]

theorem boundSeatAddress_congr {svc svc' : AppRoomService Card} {roomId : RoomId} {seatId : SeatId}
    (h : svc'.boundAddresses = svc.boundAddresses) :
    boundSeatAddress svc' roomId seatId = boundSeatAddress svc roomId seatId := by
  unfold boundSeatAddress
  rw [h]

theorem boundAddresses_ensureRoom (svc : AppRoomService Card) (roomId : RoomId) (handId : HandId) :
    (ensureRoom svc roomId handId).boundAddresses = svc.boundAddresses := by
  unfold ensureRoom
  split_ifs <;> rfl

theorem bindAddress_other_seat (room : RoomState Card) {bound seatId : SeatId} (hne : seatId ≠ bound)
    (seatAddress : String) :
    (bindAddress room bound seatAddress).boundAddresses.lookup seatId =
        room.boundAddresses.lookup seatId ∧
      (bindAddress room bound seatAddress).cardPubkeys.lookup seatId =
        room.cardPubkeys.lookup seatId := by
  unfold bindAddress
  split_ifs
  · exact ⟨AList.lookup_insert_ne hne, rfl⟩
  · exact ⟨rfl, rfl⟩

theorem bindSessionKeys_other_seat (room : RoomState Card) {bound seatId : SeatId}
    (hne : seatId ≠ bound) (cardEncryptPubkey requestVerifyPubkey keyAlgo : String) :
    (bindSessionKeys room bound cardEncryptPubkey requestVerifyPubkey keyAlgo).boundAddresses.lookup
        seatId = room.boundAddresses.lookup seatId ∧
      (bindSessionKeys room bound cardEncryptPubkey requestVerifyPubkey keyAlgo).cardPubkeys.lookup
        seatId = room.cardPubkeys.lookup seatId := by
  unfold bindSessionKeys
  split_ifs
  · exact ⟨rfl, AList.lookup_insert_ne hne⟩
  · exact ⟨rfl, rfl⟩

/-! ### Bound seats -/

/-- The inputs of a run: requests of the seats, and what the service does besides. -/
inductive GatewayInput (Card : Type) where
  | request (utcNow : ℤ) (env : RoomEnv Card) (request : SeatRequest)
  | createRoom (roomId : RoomId) (handId : HandId)
  | callback (env : RoomEnv Card) (handId : HandId) (callback : TxVerificationCallback)
  | internal (env : RoomEnv Card) (roomId : RoomId) (cmd : RoomCommand)

/-- A request that binds a bound seat, and whose signature is that of the address it carries, carries
the address the seat is bound to. -/
def CarriesBoundAddress (ctx : RpcContext) (gw : RpcGateway Card) : GatewayInput Card → Prop
  | .request _ _ (.bindAddress request) => verifyBindAddress ctx.ext request = .ok () →
      ∀ bound, boundSeatAddress gw.service request.roomId request.seatId = some bound →
        normalizeEvmAddress request.seatAddress = normalizeEvmAddress bound
  | .request _ _ (.bindSessionKeys request) => verifyBindSessionKeys ctx.ext request = .ok () →
      ∀ bound, boundSeatAddress gw.service request.roomId request.seatId = some bound →
        normalizeEvmAddress request.seatAddress = normalizeEvmAddress bound
  | _ => True

/-- The seat is bound to the address, however it is written. -/
def BoundTo (address : String) (roomId : RoomId) (seatId : SeatId) (gw : RpcGateway Card) : Prop :=
  ∃ bound, boundSeatAddress gw.service roomId seatId = some bound ∧
    normalizeEvmAddress bound = normalizeEvmAddress address

section

variable {ctx : RpcContext} {gw : RpcGateway Card} {roomId : RoomId} {seatId : SeatId}
  {address : String}

theorem signed_of_verifyAgainst {ext : Externals} {Signed : String → String → Prop}
    (hunforgeable : ∀ expected message signature,
      verifyEvmPersonalSignature ext expected message signature = .ok () →
        Signed (normalizeEvmAddress expected) message)
    {expected message signature : String}
    (hverdict : verifyAgainst ext expected message signature = .ok ()) :
    Signed (normalizeEvmAddress expected) message := by
  unfold verifyAgainst at hverdict
  split at hverdict
  · cases hverdict
  · exact hunforgeable _ _ signature (by assumption)

/-- A request for a bound seat that has the verdict of the verifier was signed by the address. -/
theorem signed_of_verdict {Signed : String → String → Prop}
    (hunforgeable : ∀ expected message signature,
      verifyEvmPersonalSignature ctx.ext expected message signature = .ok () →
        Signed (normalizeEvmAddress expected) message)
    {utcNow : ℤ} {env : RoomEnv Card} {request : SeatRequest}
    (hcarries : CarriesBoundAddress ctx gw (.request utcNow env request))
    (hbound : BoundTo address roomId seatId gw)
    (hverdict : request.verdict ctx.ext gw.service = .ok ())
    (hseat : request.seat = (roomId, seatId)) {message : String}
    (hmessage : request.signedMessage ctx.ext = some message) :
    Signed (normalizeEvmAddress address) message := by
  obtain ⟨bound, hlookup, haddress⟩ := hbound
  rw [← haddress]
  cases request with
  | join request => cases hmessage
  | bindAddress request =>
    cases hseat
    obtain rfl := Option.some.inj hmessage
    rw [← hcarries hverdict bound hlookup]
    exact signed_of_verifyAgainst hunforgeable hverdict
  | bindSessionKeys request =>
    cases hseat
    obtain rfl := Option.some.inj hmessage
    rw [← hcarries hverdict bound hlookup]
    exact signed_of_verifyAgainst hunforgeable hverdict
  | ready request =>
    cases hseat
    obtain rfl := Option.some.inj hmessage
    dsimp only [SeatRequest.verdict, verifyRoomReady, verifyAgainstStored] at hverdict
    rw [hlookup] at hverdict
    exact signed_of_verifyAgainst hunforgeable hverdict
  | act request =>
    cases hseat
    obtain rfl := Option.some.inj hmessage
    dsimp only [SeatRequest.verdict, verifyGameAct, verifyAgainstStored] at hverdict
    rw [hlookup] at hverdict
    exact signed_of_verifyAgainst hunforgeable hverdict

end

section

variable [RsPoker Card]

theorem boundAddresses_onVerificationResult {config : RoomActorConfig} (env : RoomEnv Card)
    (svc : AppRoomService Card) (handId : HandId) (callback : TxVerificationCallback) :
    (onVerificationResult config env svc handId callback).boundAddresses = svc.boundAddresses := by
  have hensure := boundAddresses_ensureRoom
    { svc with chainTxRepo := recordCallback svc.chainTxRepo callback } callback.roomId handId
  unfold onVerificationResult
  dsimp only
  split
  · exact hensure
  · exact hensure

def SeatRequest.call (config : RoomActorConfig) (env : RoomEnv Card) (svc : AppRoomService Card) :
    SeatRequest → AppRoomService Card × Except RpcGatewayError Unit
  | .join request => svc.join config env request
  | .bindAddress request => svc.bindAddress config env request
  | .bindSessionKeys request => svc.bindSessionKeys config env request
  | .ready request => svc.ready config env request
  | .act request => svc.act config env request

def SeatRequest.handle (ctx : RpcContext) (utcNow : ℤ) (env : RoomEnv Card) : SeatRequest → Stage Card
  | .join request => handleRoomJoinWithAudit ctx utcNow env request
  | .bindAddress request => handleBindAddressWithAudit ctx utcNow env request
  | .bindSessionKeys request => handleBindSessionKeysWithAudit ctx utcNow env request
  | .ready request => handleRoomReadyWithAudit ctx utcNow env request
  | .act request => handleGameActWithAudit ctx utcNow env request

/-- A request is handled, or the service moves by itself. -/
def gatewayStep (ctx : RpcContext) (gw : RpcGateway Card) : GatewayInput Card → RpcGateway Card
  | .request utcNow env request => (request.handle ctx utcNow env gw).1
  | .createRoom roomId handId =>
    { gw with service := serviceStep ctx.room gw.service (.createRoom roomId handId) }
  | .callback env handId callback =>
    { gw with service := serviceStep ctx.room gw.service (.callback env handId callback) }
  | .internal env roomId cmd =>
    { gw with service := serviceStep ctx.room gw.service (.internal env roomId cmd) }

/-- Either the checks refuse a request and the service is as it was, or the verifier has agreed and the
service has answered. -/
theorem SeatRequest.handle_cases {ctx : RpcContext} (henabled : ctx.signatureVerifier = true)
    (utcNow : ℤ) (env : RoomEnv Card) (gw : RpcGateway Card) (request : SeatRequest) :
    ((request.handle ctx utcNow env gw).1.service = gw.service ∧
        (request.handle ctx utcNow env gw).2 ≠ .ok ()) ∨
      (request.verdict ctx.ext gw.service = .ok () ∧
        (request.handle ctx utcNow env gw).1.service =
          (request.call ctx.room env gw.service).1) := by
  cases request with
  | join request =>
    refine ((keepsService_validateRequestMeta utcNow _).callService_cases _ _ gw).imp_right ?_
    rintro ⟨-, hservice⟩
    exact ⟨rfl, hservice⟩
  | bindAddress request =>
    exact (keepsService_validateRequestMeta utcNow _).signed_cases henabled _ _ _ _ _ gw
  | bindSessionKeys request =>
    exact ((keepsService_validateRequestMeta utcNow _).andThen
      (keepsService_checkKeyBindingProof ctx _ request)).signed_cases henabled _ _ _ _ _ gw
  | ready request =>
    exact (keepsService_validateRequestMeta utcNow _).signed_cases henabled _ _ _ _ _ gw
  | act request =>
    exact ((keepsService_checkFundingFields request).andThen
      (keepsService_validateRequestMeta utcNow _)).signed_cases henabled _ _ _ _ _ gw

/-! ### Addresses and keys -/

theorem seatData_tell {config : RoomActorConfig} {env : RoomEnv Card} {svc : AppRoomService Card}
    {told : RoomId} {room : RoomState Card} {cmd : RoomCommand}
    (hroom : svc.rooms.lookup told = some room)
    (hseats : SameSeats room (roomStep config env room cmd).1) (roomId : RoomId) (seatId : SeatId) :
    seatData (tellRoom config env svc told room cmd) roomId seatId = seatData svc roomId seatId := by
  refine seatData_told hroom rfl rfl fun _ => ?_
  rw [hseats.boundAddresses, hseats.cardPubkeys]
  exact ⟨rfl, rfl⟩

/-- The addresses of the service after a request: only a request that binds the seat moves it. -/
theorem boundSeatAddress_call (config : RoomActorConfig) (env : RoomEnv Card)
    (svc : AppRoomService Card) (request : SeatRequest) (roomId : RoomId) (seatId : SeatId) :
    boundSeatAddress (request.call config env svc).1 roomId seatId =
        boundSeatAddress svc roomId seatId ∨
      ∃ bind, request = .bindAddress bind ∧ request.seat = (roomId, seatId) ∧
        boundSeatAddress (request.call config env svc).1 roomId seatId = some bind.seatAddress := by
  cases request with
  | join request =>
    refine .inl ?_
    dsimp only [SeatRequest.call, AppRoomService.join]
    split <;> rfl
  | bindSessionKeys request =>
    refine .inl ?_
    dsimp only [SeatRequest.call, AppRoomService.bindSessionKeys]
    split
    · rfl
    split <;> rfl
  | ready request =>
    refine .inl ?_
    dsimp only [SeatRequest.call, AppRoomService.ready]
    split
    · rfl
    split <;> rfl
  | act request =>
    refine .inl ?_
    dsimp only [SeatRequest.call, AppRoomService.act]
    split
    · rfl
    split
    · rfl
    split
    · split <;> rfl
    · rfl
  | bindAddress request =>
    dsimp only [SeatRequest.call, AppRoomService.bindAddress]
    split
    · exact .inl rfl
    split
    · exact .inl rfl
    unfold boundSeatAddress
    by_cases hroomId : roomId = request.roomId
    · subst hroomId
      by_cases hseatId : seatId = request.seatId
      · subst hseatId
        refine .inr ⟨request, rfl, rfl, ?_⟩
        simp
      · refine .inl ?_
        rw [AList.lookup_insert, Option.bind_some, AList.lookup_insert_ne hseatId]
        cases svc.boundAddresses.lookup request.roomId <;> rfl
    · rw [AList.lookup_insert_ne hroomId]
      exact .inl rfl

/-- A request changes nothing but its own seat, and `room.join` not even that. -/
theorem seatData_call (ext : Externals) {config : RoomActorConfig} {env : RoomEnv Card}
    {svc : AppRoomService Card} {request : SeatRequest} {roomId : RoomId} {seatId : SeatId}
    (hchange : seatData (request.call config env svc).1 roomId seatId ≠ seatData svc roomId seatId) :
    request.seat = (roomId, seatId) ∧ ∃ message, request.signedMessage ext = some message := by
  cases request with
  | join request =>
    refine absurd ?_ hchange
    dsimp only [SeatRequest.call, AppRoomService.join]
    split
    · rfl
    · rename_i room hroom
      exact seatData_told hroom rfl rfl fun _ => ⟨rfl, rfl⟩
  | bindAddress request =>
    refine ⟨?_, _, rfl⟩
    by_contra hseat
    refine hchange ?_
    have hbound := (boundSeatAddress_call config env svc (.bindAddress request) roomId
      seatId).resolve_right fun ⟨_, _, h, _⟩ => hseat h
    revert hbound
    dsimp only [SeatRequest.call, AppRoomService.bindAddress]
    split
    · intro; rfl
    split
    · intro; rfl
    · rename_i room hroom
      intro hbound
      refine seatData_told hroom rfl hbound ?_
      rintro rfl
      exact bindAddress_other_seat room (fun h => hseat (by rw [h]; rfl)) request.seatAddress
  | bindSessionKeys request =>
    refine ⟨?_, _, rfl⟩
    by_contra hseat
    refine hchange ?_
    dsimp only [SeatRequest.call, AppRoomService.bindSessionKeys]
    split
    · rfl
    split
    · rfl
    · rename_i room hroom
      refine seatData_told hroom rfl rfl ?_
      rintro rfl
      exact bindSessionKeys_other_seat room (fun h => hseat (by rw [h]; rfl)) _ _ _
  | ready request =>
    refine absurd ?_ hchange
    dsimp only [SeatRequest.call, AppRoomService.ready]
    split
    · rfl
    split
    · rfl
    · exact seatData_tell (by assumption) (markReady_seats request.seatId) roomId seatId
  | act request =>
    refine absurd ?_ hchange
    dsimp only [SeatRequest.call, AppRoomService.act]
    split
    · rfl
    rename_i room hroom
    split
    · rfl
    split
    · split
      · rfl
      · exact seatData_told hroom rfl rfl fun _ => ⟨rfl, rfl⟩
    · exact seatData_tell hroom (applyAndEmit_seats _) roomId seatId

/-! ### Authority -/

/-- Who may have sent a request, once the seat is bound to the address: an accepted request for the seat
was signed by the holder of the address, and so was every request that changes the seat's addresses or
its key. -/
structure Authorised (ctx : RpcContext) (Signed : String → String → Prop) (gw : RpcGateway Card)
    (utcNow : ℤ) (env : RoomEnv Card) (request : SeatRequest) (roomId : RoomId) (seatId : SeatId)
    (address : String) : Prop where
  accepted : (request.handle ctx utcNow env gw).2 = .ok () → request.seat = (roomId, seatId) →
    ∀ message, request.signedMessage ctx.ext = some message →
      Signed (normalizeEvmAddress address) message
  changed : seatData (request.handle ctx utcNow env gw).1.service roomId seatId ≠
      seatData gw.service roomId seatId →
    ∃ message, request.signedMessage ctx.ext = some message ∧
      Signed (normalizeEvmAddress address) message

section

variable {ctx : RpcContext} {gw : RpcGateway Card} {roomId : RoomId} {seatId : SeatId}
  {address : String}

theorem boundTo_step (henabled : ctx.signatureVerifier = true) (input : GatewayInput Card)
    (hcarries : CarriesBoundAddress ctx gw input) (hbound : BoundTo address roomId seatId gw) :
    BoundTo address roomId seatId (gatewayStep ctx gw input) := by
  obtain ⟨bound, hlookup, haddress⟩ := hbound
  cases input with
  | request utcNow env request =>
    rcases request.handle_cases henabled utcNow env gw with ⟨hsame, -⟩ | ⟨hverdict, hcall⟩
    · exact ⟨bound, (congrArg (boundSeatAddress · roomId seatId) hsame).trans hlookup, haddress⟩
    have hservice : (gatewayStep ctx gw (.request utcNow env request)).service = _ := hcall
    unfold BoundTo
    rw [hservice]
    rcases boundSeatAddress_call ctx.room env gw.service request roomId seatId with
      hkept | ⟨bind, rfl, hseat, hnew⟩
    · exact ⟨bound, hkept.trans hlookup, haddress⟩
    · cases hseat
      exact ⟨bind.seatAddress, hnew, (hcarries hverdict bound hlookup).trans haddress⟩
  | createRoom newRoom handId =>
    refine ⟨bound, Eq.trans ?_ hlookup, haddress⟩
    exact boundSeatAddress_congr (boundAddresses_ensureRoom gw.service newRoom handId)
  | callback env handId callback =>
    refine ⟨bound, Eq.trans ?_ hlookup, haddress⟩
    exact boundSeatAddress_congr (boundAddresses_onVerificationResult env gw.service handId callback)
  | internal env told cmd =>
    refine ⟨bound, Eq.trans ?_ hlookup, haddress⟩
    refine boundSeatAddress_congr ?_
    dsimp only [gatewayStep, serviceStep]
    split
    · rfl
    · split_ifs <;> rfl

/-- **Only the holder of a seat's address speaks for the seat** in every run in which no bound seat is
bound to another address: after any prefix of the run that leaves the seat bound to the address, every
later request is authorised by it. -/
theorem seat_authority (ctx : RpcContext) (henabled : ctx.signatureVerifier = true)
    (Signed : String → String → Prop)
    (hunforgeable : ∀ expected message signature,
      verifyEvmPersonalSignature ctx.ext expected message signature = .ok () →
        Signed (normalizeEvmAddress expected) message)
    (start : RpcGateway Card) (before between after : List (GatewayInput Card)) (utcNow : ℤ)
    (env : RoomEnv Card) (request : SeatRequest)
    (hall : AllSteps (gatewayStep ctx) (CarriesBoundAddress ctx) start
      (before ++ (between ++ .request utcNow env request :: after)))
    (roomId : RoomId) (seatId : SeatId) (address : String)
    (hbound : boundSeatAddress (run (gatewayStep ctx) start before).service roomId seatId =
      some address) :
    Authorised ctx Signed (run (gatewayStep ctx) start (before ++ between)) utcNow env request
      roomId seatId address := by
  have hlater := (AllSteps.append.1 hall).2
  have hinv : BoundTo address roomId seatId (run (gatewayStep ctx) start (before ++ between)) := by
    rw [run_append]
    exact (AllSteps.append.1 hlater).1.run_inv (BoundTo address roomId seatId)
      (fun _ input => boundTo_step henabled input) ⟨address, hbound, rfl⟩
  have hcarries := hlater.at
  rw [← run_append] at hcarries
  have hsigned : request.verdict ctx.ext
      (run (gatewayStep ctx) start (before ++ between)).service = .ok () → _ :=
    fun hverdict => signed_of_verdict hunforgeable hcarries hinv hverdict
  refine ⟨fun hok hseat message hmessage => ?_, fun hchange => ?_⟩
  · rcases request.handle_cases henabled utcNow env _ with ⟨-, hrefused⟩ | ⟨hverdict, -⟩
    · exact absurd hok hrefused
    · exact hsigned hverdict hseat hmessage
  · rcases request.handle_cases henabled utcNow env _ with ⟨hsame, -⟩ | ⟨hverdict, hcall⟩
    · exact absurd (by rw [hsame]) hchange
    · rw [hcall] at hchange
      obtain ⟨hseat, message, hmessage⟩ := seatData_call ctx.ext hchange
      exact ⟨message, hmessage, hsigned hverdict hseat hmessage⟩

end

end

/-! ### Two accounts -/

/-- A signature of 65 bytes whose digits name the account. -/
def accountSignature (digit : Char) : String :=
  String.ofList (List.replicate 128 digit ++ ['0', '0'])

def accountMeta (nonce : String) (digit : Char) : SignedRequestMeta where
  requestId := ⟨0⟩
  requestNonce := nonce
  requestTs := 0
  requestExpiryMs := 30000
  signaturePubkeyId := "k"
  signature := accountSignature digit

/-- Seat 0 is bound to `0xa` by its holder. -/
def holderBind : RoomBindAddressRequest := ⟨⟨0⟩, 0, "0xa", accountMeta "1" 'a'⟩

def holderReady : RoomReadyRequest := ⟨⟨0⟩, 0, accountMeta "2" 'a'⟩

/-- The holder of `0xe` binds seat 0 to `0xe`. -/
def strangerBind : RoomBindAddressRequest := ⟨⟨0⟩, 0, "0xe", accountMeta "3" 'e'⟩

/-- What the two holders signed. -/
def issued : List (String × String) :=
  [("0xa", bindAddressMessage decimalFormats holderBind),
    ("0xa", roomReadyMessage decimalFormats holderReady),
    ("0xe", bindAddressMessage decimalFormats strangerBind)]

/-- The account of a signature, for the messages its holder signed. -/
def recoverIssued (message : String) : List (Fin 256) → Option String
  | 0xaa :: _ => if ("0xa", message) ∈ issued then some "0xa" else none
  | 0xee :: _ => if ("0xe", message) ∈ issued then some "0xe" else none
  | _ => none

def accounts : RpcContext where
  ext := { decimalFormats with recoverFromPersonalSign := fun message sig _ => recoverIssued message sig }

abbrev SignedBy (address message : String) : Prop := (address, message) ∈ issued

theorem recoverIssued_some {message account : String} {sig : List (Fin 256)}
    (h : recoverIssued message sig = some account) :
    SignedBy (normalizeEvmAddress account) message := by
  have ha : normalizeEvmAddress "0xa" = "0xa" := by decide +kernel
  have he : normalizeEvmAddress "0xe" = "0xe" := by decide +kernel
  unfold recoverIssued at h
  split at h
  · split_ifs at h with hmem
    cases h
    rw [ha]
    exact hmem
  · split_ifs at h with hmem
    cases h
    rw [he]
    exact hmem
  · cases h

theorem accounts_unforgeable (expected message signature : String)
    (h : verifyEvmPersonalSignature accounts.ext expected message signature = .ok ()) :
    SignedBy (normalizeEvmAddress expected) message := by
  obtain ⟨recovered, hrecovered, haddress⟩ := verifyEvmPersonalSignature_eq_ok.1 h
  obtain ⟨sig, v, hsome⟩ := recoverAddress_eq_ok hrecovered
  rw [← haddress]
  exact recoverIssued_some hsome

/-- Seat 0 is joined and bound to `0xa`. -/
def holderInputs : List (GatewayInput ByteCard) :=
  [.createRoom ⟨0⟩ ⟨0⟩, .request 0 tableEnv (.join ⟨⟨0⟩, 0, accountMeta "0" 'a'⟩),
    .request 0 tableEnv (.bindAddress holderBind)]

/-- The holder of `0xe` takes over a seat that is bound to `0xa`, without any signature of `0xa`. -/
theorem seat_taken_over :
    let gw := run (gatewayStep accounts) {} holderInputs
    let taken := SeatRequest.handle accounts 0 tableEnv (.bindAddress strangerBind) gw
    (∀ expected message signature,
      verifyEvmPersonalSignature accounts.ext expected message signature = .ok () →
        SignedBy (normalizeEvmAddress expected) message) ∧
      boundSeatAddress gw.service ⟨0⟩ 0 = some "0xa" ∧ taken.2 = .ok () ∧
      boundSeatAddress taken.1.service ⟨0⟩ 0 = some "0xe" ∧
      ¬ Authorised accounts SignedBy gw 0 tableEnv (.bindAddress strangerBind) ⟨0⟩ 0 "0xa" := by
  intro gw taken
  have hrun : boundSeatAddress gw.service ⟨0⟩ 0 = some "0xa" ∧ taken.2 = .ok () ∧
      boundSeatAddress taken.1.service ⟨0⟩ 0 = some "0xe" := by decide +kernel
  refine ⟨accounts_unforgeable, hrun.1, hrun.2.1, hrun.2.2, fun hauth => ?_⟩
  have hsigned := hauth.accepted hrun.2.1 rfl _ rfl
  exact absurd hsigned (by decide +kernel)

/-- Another room is opened, and then the holder of `0xa` is ready: nobody else could have said so. -/
theorem holder_authorised :
    let gw := run (gatewayStep accounts) {} (holderInputs ++ [.createRoom ⟨1⟩ ⟨1⟩])
    (SeatRequest.handle accounts 0 tableEnv (.ready holderReady) gw).2 = .ok () ∧
      Authorised accounts SignedBy gw 0 tableEnv (.ready holderReady) ⟨0⟩ 0 "0xa" := by
  intro gw
  have hrun : (SeatRequest.handle accounts 0 tableEnv (.ready holderReady) gw).2 = .ok () ∧
      boundSeatAddress (run (gatewayStep accounts) {} holderInputs).service ⟨0⟩ 0 = some "0xa" ∧
      boundSeatAddress (run (gatewayStep accounts) {} (holderInputs.take 2)).service ⟨0⟩ 0 =
        none := by
    decide +kernel
  refine ⟨hrun.1, seat_authority accounts rfl SignedBy accounts_unforgeable {} holderInputs
    [.createRoom ⟨1⟩ ⟨1⟩] [] 0 tableEnv (.ready holderReady) ?_ ⟨0⟩ 0 "0xa" hrun.2.1⟩
  refine ⟨trivial, trivial, fun _ bound hbound => ?_, trivial, trivial, trivial⟩
  cases hbound.symm.trans hrun.2.2

end HoldemPlatform.Gateway.SeatAuthority
