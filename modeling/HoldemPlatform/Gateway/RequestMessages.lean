import HoldemPlatform.Auth.CanonicalJson
import HoldemPlatform.Gateway.SeatAuthority

/-!
# Signed Requests Are Unambiguous

The message of a signed request is read from the left up to its parameters, which are JSON and end
where the value ends; then comes the request's identifier. The nonce is free-form and not escaped,
but only the time and the expiry follow it, and they are read from the right. So the message
determines the method and everything that was signed.
-/

namespace HoldemPlatform.Gateway.RequestMessages

open HoldemPlatform.Lib.Joined HoldemPlatform.Domain.Game HoldemPlatform.Gateway.Requests
open HoldemPlatform.Gateway.Handlers HoldemPlatform.Gateway.SeatAuthority
open HoldemPlatform.Auth.Json HoldemPlatform.Auth.Signing HoldemPlatform.Auth.Texts
open HoldemPlatform.Auth.CanonicalJson

/-! ### The message -/

variable (ext : Externals)

/-- The fields before the parameters. -/
def firstFields (input : SigningMessageInput) : List (List Char) :=
  [field "session_id=" (ext.uuidText input.sessionId.uuid),
    field "room_id=" ((input.roomId.map fun v => ext.uuidText v.uuid).getD ""),
    field "hand_id=" (input.handId.getD ""),
    field "action_seq=" ((input.actionSeq.map toString).getD "")]

/-- The fields after the nonce. -/
def lastFields (requestMeta : SignedRequestMeta) : List (List Char) :=
  [field "request_ts=" (ext.toRfc3339 requestMeta.requestTs),
    field "request_expiry_ms=" (toString requestMeta.requestExpiryMs)]

theorem toList_signingMessage (input : SigningMessageInput) :
    (buildSigningMessage ext input).toList =
      field "method=" input.method ++ (barred '|' (firstFields ext input) ++
        '|' :: ("params=".toList ++ (text (canonicalizeJson input.params) ++
          '|' :: (field "request_id=" (ext.uuidText input.requestMeta.requestId.uuid) ++
            '|' :: ("request_nonce=".toList ++ (input.requestMeta.requestNonce.toList ++
              barred '|' (lastFields ext input.requestMeta))))))) := by
  have h1 : "|session_id=".toList = '|' :: "session_id=".toList := rfl
  have h2 : "|room_id=".toList = '|' :: "room_id=".toList := rfl
  have h3 : "|hand_id=".toList = '|' :: "hand_id=".toList := rfl
  have h4 : "|action_seq=".toList = '|' :: "action_seq=".toList := rfl
  have h5 : "|params=".toList = '|' :: "params=".toList := rfl
  have h6 : "|request_id=".toList = '|' :: "request_id=".toList := rfl
  have h7 : "|request_nonce=".toList = '|' :: "request_nonce=".toList := rfl
  have h8 : "|request_ts=".toList = '|' :: "request_ts=".toList := rfl
  have h9 : "|request_expiry_ms=".toList = '|' :: "request_expiry_ms=".toList := rfl
  unfold buildSigningMessage firstFields lastFields canonicalParamsJson
  simp only [String.toList_append]
  simp only [h1, h2, h3, h4, h5, h6, h7, h8, h9]
  simp only [field, barred, text, List.flatMap_cons, List.flatMap_nil]
  simp only [List.append_assoc, List.cons_append, List.append_nil]

variable {ext}

/-- Texts without a bar before the parameters: the method and the hand. -/
structure PlainHead (input : SigningMessageInput) : Prop where
  method : '|' ∉ input.method.toList
  handId : '|' ∉ (input.handId.getD "").toList

theorem plain_firstFields (hext : TextFormats ext) {input : SigningMessageInput}
    (h : PlainHead input) : Plain '|' (field "method=" input.method :: firstFields ext input) := by
  intro f hf
  simp only [firstFields, List.mem_cons, List.not_mem_nil, or_false] at hf
  rcases hf with rfl | rfl | rfl | rfl | rfl
  · exact no_bar_field (by decide) h.method
  · exact no_bar_field (by decide) (hext.uuid_no_bar _)
  · exact no_bar_field (by decide)
      (no_bar_getD_map (fun v : RoomId => hext.uuid_no_bar v.uuid) input.roomId)
  · exact no_bar_field (by decide) h.handId
  · exact no_bar_field (by decide) (no_bar_getD_map no_bar_nat _)

theorem plain_lastFields (hext : TextFormats ext) (requestMeta : SignedRequestMeta) :
    Plain '|' (lastFields ext requestMeta) := by
  intro f hf
  simp only [lastFields, List.mem_cons, List.not_mem_nil, or_false] at hf
  rcases hf with rfl | rfl
  · exact no_bar_field (by decide) (hext.time_no_bar _)
  · exact no_bar_field (by decide) (no_bar_int _)

/-- The parts of the request data that are signed. -/
structure SameMeta (requestMeta other : SignedRequestMeta) : Prop where
  requestId : requestMeta.requestId = other.requestId
  requestNonce : requestMeta.requestNonce = other.requestNonce
  requestTs : requestMeta.requestTs = other.requestTs
  requestExpiryMs : requestMeta.requestExpiryMs = other.requestExpiryMs

/-- What the message says. -/
structure SameInput (ext : Externals) (input other : SigningMessageInput) : Prop where
  method : input.method = other.method
  roomId : (input.roomId.map fun v => ext.uuidText v.uuid).getD "" =
    (other.roomId.map fun v => ext.uuidText v.uuid).getD ""
  handId : input.handId.getD "" = other.handId.getD ""
  actionSeq : input.actionSeq = other.actionSeq
  params : canonicalizeJson input.params = canonicalizeJson other.params
  requestMeta : SameMeta input.requestMeta other.requestMeta

theorem uuid_ext {α : Type} {uuid : α → ℕ} (huuid : Function.Injective uuid) (hext : TextFormats ext)
    {a b : α} (h : ext.uuidText (uuid a) = ext.uuidText (uuid b)) : a = b :=
  huuid (hext.uuid_injective h)

theorem roomId_uuid_injective : Function.Injective RoomId.uuid := by
  rintro ⟨a⟩ ⟨b⟩ h
  exact congrArg RoomId.mk h

theorem handId_uuid_injective : Function.Injective HandId.uuid := by
  rintro ⟨a⟩ ⟨b⟩ h
  exact congrArg HandId.mk h

theorem requestId_uuid_injective : Function.Injective RequestId.uuid := by
  rintro ⟨a⟩ ⟨b⟩ h
  exact congrArg RequestId.mk h

/-- **The message determines what was signed**, whatever stands in the parameters and the nonce. -/
theorem same_input_of_message (hext : TextFormats ext) {input other : SigningMessageInput}
    (hinput : PlainHead input) (hother : PlainHead other)
    (h : buildSigningMessage ext input = buildSigningMessage ext other) :
    SameInput ext input other := by
  have hlist := congrArg String.toList h
  rw [toList_signingMessage, toList_signingMessage] at hlist
  -- from the left: method, room, hand and sequence number
  obtain ⟨hmethod, hfirst, hrest⟩ := barred_inj_left (plain_firstFields hext hinput)
    (plain_firstFields hext hother) rfl hlist
  -- the parameters end where their value ends
  have hbar : ∀ y : List Char, Stops NumberChar ('|' :: y) :=
    fun y => stops_cons (not_numberChar (by decide) (by decide))
  obtain ⟨hparams, hrest⟩ := readable_value numberTexts_int _ _ _ _ (hbar _) (hbar _)
    (List.append_cancel_left hrest)
  obtain ⟨hid, hrest⟩ := append_cons_inj_left (no_bar_field (by decide) (hext.uuid_no_bar _))
    (no_bar_field (by decide) (hext.uuid_no_bar _)) (List.cons.inj hrest).2
  -- from the right: expiry and time; the nonce is what is left
  obtain ⟨hnonce, hlast⟩ := barred_inj_right (plain_lastFields hext input.requestMeta)
    (plain_lastFields hext other.requestMeta) rfl (List.append_cancel_left hrest)
  simp only [firstFields, lastFields, List.cons.injEq, and_true] at hfirst hlast
  obtain ⟨-, hroom, hhand, hseq⟩ := hfirst
  obtain ⟨hts, hexpiry⟩ := hlast
  refine ⟨field_inj hmethod, field_inj hroom, field_inj hhand, ?_, hparams, ⟨?_, ?_, ?_, ?_⟩⟩
  · exact getD_map_injective toString_nat_injective toString_nat_ne_empty (field_inj hseq)
  · exact uuid_ext requestId_uuid_injective hext (field_inj hid)
  · exact String.toList_inj.1 hnonce
  · exact hext.time_injective (field_inj hts)
  · exact toString_int_injective (field_inj hexpiry)

/-! ### The parameters -/

/-- Entries under the same distinct keys are the same if each of the first is among the second. -/
theorem entries_eq : ∀ {map map' : List (String × Value)}, map.map Prod.fst = map'.map Prod.fst →
    (map.map Prod.fst).Nodup → (∀ e ∈ map, e ∈ map') → map = map'
  | [], [], _, _, _ => rfl
  | [], _ :: _, hkeys, _, _ => by simp at hkeys
  | _ :: _, [], hkeys, _, _ => by simp at hkeys
  | (k, v) :: rest, (k', v') :: rest', hkeys, hnodup, hmem => by
    simp only [List.map_cons, List.cons.injEq] at hkeys
    obtain ⟨rfl, hkeys⟩ := hkeys
    obtain ⟨hfresh, hnodup⟩ := List.nodup_cons.1 (by simpa only [List.map_cons] using hnodup)
    have hrest : rest = rest' := by
      refine entries_eq hkeys hnodup fun e he => ?_
      rcases List.mem_cons.1 (hmem e (List.mem_cons_of_mem _ he)) with rfl | hin
      · exact absurd (List.mem_map_of_mem he) hfresh
      · exact hin
    rcases List.mem_cons.1 (hmem (k, v) List.mem_cons_self) with heq | hin
    · rw [heq, hrest]
    · rw [hkeys] at hfresh
      exact absurd (List.mem_map_of_mem hin) hfresh

theorem keys_canonicalizeEntries (map : List (String × Value)) :
    (canonicalizeEntries map).map Prod.fst = map.map Prod.fst := by
  rw [canonicalizeEntries_eq_map, map_fst_canonicalEntry]

/-- Canonical objects over the same distinct keys are equal only with equal values. -/
theorem entries_eq_of_canonical {map map' : List (String × Value)}
    (h : canonicalizeJson (.object map) = canonicalizeJson (.object map'))
    (hkeys : map.map Prod.fst = map'.map Prod.fst) (hnodup : (map.map Prod.fst).Nodup) :
    canonicalizeEntries map = canonicalizeEntries map' := by
  rw [canonicalizeJson, canonicalizeJson, Value.object.injEq] at h
  refine entries_eq ?_ ?_ fun e he => ?_
  · rw [keys_canonicalizeEntries, keys_canonicalizeEntries, hkeys]
  · rwa [keys_canonicalizeEntries]
  · have hmem : e ∈ (canonicalizeEntries map).insertionSort fun a b => a.1 ≤ b.1 := by
      rw [List.mem_insertionSort]
      exact he
    rw [h, List.mem_insertionSort] at hmem
    exact hmem

theorem canonicalizeJson_optionalText (o : Option String) :
    canonicalizeJson (optionalText o) = optionalText o := by
  cases o <;> simp [optionalText, canonicalizeJson]

theorem optionalText_injective : Function.Injective optionalText := by
  intro o o' h
  cases o <;> cases o' <;> simp_all [optionalText]

/-! ### The four methods -/

/-- The two requests are of one method and agree on everything that is signed. -/
def SameSigned : SeatRequest → SeatRequest → Prop
  | .bindAddress r, .bindAddress r' =>
    r.roomId = r'.roomId ∧ r.seatId = r'.seatId ∧ r.seatAddress = r'.seatAddress ∧
      SameMeta r.requestMeta r'.requestMeta
  | .bindSessionKeys r, .bindSessionKeys r' =>
    r.roomId = r'.roomId ∧ r.seatId = r'.seatId ∧ r.seatAddress = r'.seatAddress ∧
      r.cardEncryptPubkey = r'.cardEncryptPubkey ∧
      r.requestVerifyPubkey = r'.requestVerifyPubkey ∧ r.keyAlgo = r'.keyAlgo ∧
      r.proofSignature = r'.proofSignature ∧ SameMeta r.requestMeta r'.requestMeta
  | .ready r, .ready r' =>
    r.roomId = r'.roomId ∧ r.seatId = r'.seatId ∧ SameMeta r.requestMeta r'.requestMeta
  | .act r, .act r' =>
    r.roomId = r'.roomId ∧ r.handId = r'.handId ∧ r.actionSeq = r'.actionSeq ∧
      r.seatId = r'.seatId ∧ r.actionType = r'.actionType ∧ r.amount = r'.amount ∧
      r.txHash = r'.txHash ∧ SameMeta r.requestMeta r'.requestMeta
  | _, _ => False

def methodOf : SeatRequest → String
  | .join _ => "room.join"
  | .bindAddress _ => "room.bind_address"
  | .bindSessionKeys _ => "room.bind_session_keys"
  | .ready _ => "room.ready"
  | .act _ => "game.act"

theorem no_bar_methodOf (request : SeatRequest) : '|' ∉ (methodOf request).toList := by
  cases request <;> (dsimp only [methodOf]; decide)

theorem signingMessage_start (input : SigningMessageInput) : ∃ t,
    (buildSigningMessage ext input).toList = field "method=" input.method ++ '|' :: t := by
  rw [toList_signingMessage, firstFields, barred_cons, List.cons_append]
  exact ⟨_, rfl⟩

theorem signedMessage_method {request : SeatRequest} {message : String}
    (h : request.signedMessage ext = some message) :
    ∃ t, message.toList = field "method=" (methodOf request) ++ '|' :: t := by
  cases request with
  | join r => cases h
  | bindAddress r =>
    rw [← Option.some.inj h, bindAddressMessage]
    exact signingMessage_start _
  | bindSessionKeys r =>
    rw [← Option.some.inj h, bindSessionKeysMessage]
    exact signingMessage_start _
  | ready r =>
    rw [← Option.some.inj h, roomReadyMessage]
    exact signingMessage_start _
  | act r =>
    rw [← Option.some.inj h, gameActMessage]
    exact signingMessage_start _

theorem methodOf_eq {request other : SeatRequest} {message : String}
    (h : request.signedMessage ext = some message) (h' : other.signedMessage ext = some message) :
    methodOf request = methodOf other := by
  obtain ⟨t, ht⟩ := signedMessage_method h
  obtain ⟨t', ht'⟩ := signedMessage_method h'
  have hfield := (append_cons_inj_left (no_bar_field (by decide) (no_bar_methodOf request))
    (no_bar_field (by decide) (no_bar_methodOf other)) (ht.symm.trans ht')).1
  exact field_inj hfield

theorem plainHead_of {input : SigningMessageInput} {method handId : String}
    (hmethod : input.method = method) (hhand : input.handId.getD "" = handId)
    (hbar : '|' ∉ method.toList) (hbar' : '|' ∉ handId.toList) : PlainHead input :=
  ⟨by rwa [hmethod], by rwa [hhand]⟩

theorem bindAddressMessage_inj (hext : TextFormats ext) {r r' : RoomBindAddressRequest}
    (h : bindAddressMessage ext r = bindAddressMessage ext r') :
    SameSigned (.bindAddress r) (.bindAddress r') := by
  have hplain := fun input hmethod hhand => @plainHead_of input "room.bind_address" "" hmethod hhand
    (by decide) (by decide)
  unfold bindAddressMessage at h
  obtain ⟨-, hroom, -, -, hparams, hmeta⟩ := same_input_of_message hext
    (hplain _ rfl rfl) (hplain _ rfl rfl) h
  have hentries := entries_eq_of_canonical hparams rfl (by simp)
  simp only [canonicalizeEntries, canonicalizeJson, List.cons.injEq, Prod.mk.injEq, true_and,
    and_true, Value.number.injEq, Value.string.injEq, Nat.cast_inj] at hentries
  obtain ⟨hseat, haddress⟩ := hentries
  exact ⟨uuid_ext roomId_uuid_injective hext hroom, Fin.val_injective hseat, haddress, hmeta⟩

theorem bindSessionKeysMessage_inj (hext : TextFormats ext) {r r' : RoomBindSessionKeysRequest}
    (h : bindSessionKeysMessage ext r = bindSessionKeysMessage ext r') :
    SameSigned (.bindSessionKeys r) (.bindSessionKeys r') := by
  have hplain := fun input hmethod hhand => @plainHead_of input "room.bind_session_keys" "" hmethod hhand
    (by decide) (by decide)
  unfold bindSessionKeysMessage at h
  obtain ⟨-, hroom, -, -, hparams, hmeta⟩ := same_input_of_message hext
    (hplain _ rfl rfl) (hplain _ rfl rfl) h
  have hentries := entries_eq_of_canonical hparams rfl (by simp)
  simp only [canonicalizeEntries, canonicalizeJson, List.cons.injEq, Prod.mk.injEq, true_and,
    and_true, Value.number.injEq, Value.string.injEq, Nat.cast_inj] at hentries
  obtain ⟨hseat, haddress, hcard, hverify, halgo, hproof⟩ := hentries
  exact ⟨uuid_ext roomId_uuid_injective hext hroom, Fin.val_injective hseat, haddress, hcard, hverify, halgo, hproof,
    hmeta⟩

theorem roomReadyMessage_inj (hext : TextFormats ext) {r r' : RoomReadyRequest}
    (h : roomReadyMessage ext r = roomReadyMessage ext r') : SameSigned (.ready r) (.ready r') := by
  have hplain := fun input hmethod hhand => @plainHead_of input "room.ready" "" hmethod hhand
    (by decide) (by decide)
  unfold roomReadyMessage at h
  obtain ⟨-, hroom, -, -, hparams, hmeta⟩ := same_input_of_message hext
    (hplain _ rfl rfl) (hplain _ rfl rfl) h
  have hentries := entries_eq_of_canonical hparams rfl (by simp)
  simp only [canonicalizeEntries, canonicalizeJson, List.cons.injEq, Prod.mk.injEq, true_and,
    and_true, Value.number.injEq, Nat.cast_inj] at hentries
  exact ⟨uuid_ext roomId_uuid_injective hext hroom, Fin.val_injective hentries, hmeta⟩

theorem gameActMessage_inj (hext : TextFormats ext) {r r' : GameActRequest}
    (h : gameActMessage ext r = gameActMessage ext r') : SameSigned (.act r) (.act r') := by
  have hplain := fun input handId hmethod hhand => @plainHead_of input "game.act"
    (ext.uuidText handId) hmethod hhand (by decide) (hext.uuid_no_bar handId)
  unfold gameActMessage at h
  obtain ⟨-, hroom, hhand, hseq, hparams, hmeta⟩ := same_input_of_message hext
    (hplain _ r.handId.uuid rfl rfl) (hplain _ r'.handId.uuid rfl rfl) h
  have hentries := entries_eq_of_canonical hparams rfl (by simp)
  simp only [canonicalizeEntries, canonicalizeJson, canonicalizeJson_optionalText, List.cons.injEq,
    Prod.mk.injEq, true_and, and_true, Value.number.injEq, Value.string.injEq, Nat.cast_inj]
    at hentries
  obtain ⟨hseat, htype, hamount, hhash⟩ := hentries
  exact ⟨uuid_ext roomId_uuid_injective hext hroom, uuid_ext handId_uuid_injective hext hhand, Option.some.inj hseq,
    Fin.val_injective hseat, htype, optionalText_injective hamount, optionalText_injective hhash,
    hmeta⟩

/-- **A signed message stands for one request**: two requests with one message are of the same method
and agree on everything that is signed. -/
theorem same_signed_of_message (ext : Externals) (hext : TextFormats ext)
    (request other : SeatRequest) (message : String)
    (h : request.signedMessage ext = some message)
    (h' : other.signedMessage ext = some message) : SameSigned request other := by
  have hmethod := methodOf_eq h h'
  cases request with
  | join r => cases h
  | bindAddress r =>
    cases other with
    | bindAddress r' =>
      exact bindAddressMessage_inj hext ((Option.some.inj h).trans (Option.some.inj h').symm)
    | join r' => cases h'
    | _ => simp [methodOf] at hmethod
  | bindSessionKeys r =>
    cases other with
    | bindSessionKeys r' =>
      exact bindSessionKeysMessage_inj hext ((Option.some.inj h).trans (Option.some.inj h').symm)
    | join r' => cases h'
    | _ => simp [methodOf] at hmethod
  | ready r =>
    cases other with
    | ready r' =>
      exact roomReadyMessage_inj hext ((Option.some.inj h).trans (Option.some.inj h').symm)
    | join r' => cases h'
    | _ => simp [methodOf] at hmethod
  | act r =>
    cases other with
    | act r' =>
      exact gameActMessage_inj hext ((Option.some.inj h).trans (Option.some.inj h').symm)
    | join r' => cases h'
    | _ => simp [methodOf] at hmethod

/-- An action whose nonce looks like the end of a message, under the given signature. -/
def trickyAct (signature : String) : SeatRequest :=
  .act { roomId := ⟨0⟩, handId := ⟨1⟩, actionSeq := 1, seatId := 0, actionType := "call",
         amount := some "1|tx_hash=0x2", txHash := some "0x1",
         requestMeta := { requestId := ⟨1⟩, requestNonce := "n|request_ts=0|request_expiry_ms=1",
                          requestTs := 0, requestExpiryMs := 1000, signaturePubkeyId := "k",
                          signature } }

/-- Only the signature can differ under one message, whatever the nonce looks like. -/
theorem trickyAct_same_signed :
    ∃ message, (trickyAct "0xaa").signedMessage decimalFormats = some message ∧
      (trickyAct "0xbb").signedMessage decimalFormats = some message ∧
      SameSigned (trickyAct "0xaa") (trickyAct "0xbb") :=
  ⟨_, rfl, rfl, same_signed_of_message decimalFormats nonemptyFormats_decimal.toTextFormats (trickyAct "0xaa")
    (trickyAct "0xbb") _ rfl rfl⟩

end HoldemPlatform.Gateway.RequestMessages
