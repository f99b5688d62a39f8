import HoldemPlatform.Auth.Texts
import HoldemPlatform.Room.Actor
import Mathlib.Data.Vector.Basic
import Mathlib.Logic.Equiv.List

/-!
# Sealed Payloads of a Seat

A payload for a seat is sealed with a key that both the sender and the seat can derive: the sender from an
ephemeral secret and the public key of the seat, the seat from its secret and the ephemeral public key.
What the payload is about is authenticated with it as associated data. The curve, the key derivation, the
cipher, base64 and the reading of JSON and of identifiers are the argument `Primitives`.

`asBytes_injective` shows that the associated data determines room, hand, seat and event, and
`decrypt_encrypt` that the seat reads what was sealed for it.
-/

namespace HoldemPlatform.Crypto.SeatCrypto

open HoldemPlatform.Lib.Joined HoldemPlatform.Domain.Game HoldemPlatform.Auth.Json
open HoldemPlatform.Auth.Signing HoldemPlatform.Auth.Texts HoldemPlatform.Room.Actor

abbrev Bytes := List (Fin 256)

/-- `[u8; n]`. -/
abbrev ByteArr (n : ℕ) := List.Vector (Fin 256) n

inductive SeatCryptoError where
  | invalidBase64
  | invalidEphemeralPublicKeyLength
  | invalidNonceLength
  | aead
  | hkdf
deriving DecidableEq

/-- The libraries behind the sealing. -/
structure Primitives where
  base64Encode : Bytes → String
  base64Decode : String → Option Bytes
  publicKey : ByteArr 32 → ByteArr 32
  diffieHellman : ByteArr 32 → ByteArr 32 → ByteArr 32
  /-- The key of the given length from a salt, the input key and the purpose. -/
  hkdfExpand : Bytes → Bytes → Bytes → (len : ℕ) → Option (ByteArr len)
  /-- Key, nonce, associated data and message. -/
  aeadEncrypt : ByteArr 32 → ByteArr 12 → Bytes → Bytes → Option Bytes
  aeadDecrypt : ByteArr 32 → ByteArr 12 → Bytes → Bytes → Option Bytes
  parseUuid : String → Option ℕ
  jsonFromSlice : Bytes → Option Value
  /-- What is said of a text that is no hex. -/
  hexErrorText : String → String

/-! ### Bytes -/

def utf8 (s : String) : Bytes := s.toUTF8.data.toList.map UInt8.toFin

theorem utf8_injective : Function.Injective utf8 := by
  intro s t h
  have hlist : s.toUTF8.data.toList = t.toUTF8.data.toList :=
    List.map_injective_iff.2 (fun _ _ => UInt8.toFin_inj.1) h
  have hdata : s.toUTF8.data = t.toUTF8.data := Array.toList_inj.1 hlist
  exact String.toByteArray_inj.1 (by
    cases hs : s.toByteArray
    cases ht : t.toByteArray
    rw [String.toUTF8, String.toUTF8, hs, ht] at hdata
    exact congrArg ByteArray.mk hdata)

/-- `try_into` an array. -/
def toArr (n : ℕ) (bytes : Bytes) : Option (ByteArr n) :=
  if h : bytes.length = n then some ⟨bytes, h⟩ else none

theorem toArr_toList {n : ℕ} (v : ByteArr n) : toArr n v.toList = some v := by
  obtain ⟨bytes, rfl⟩ := v
  exact dif_pos rfl

theorem toList_of_toArr {n : ℕ} {bytes : Bytes} {v : ByteArr n} (h : toArr n bytes = some v) :
    v.toList = bytes := by
  unfold toArr at h
  split_ifs at h
  cases h
  rfl

/-! ### Envelopes -/

def algX25519Chacha20Poly1305 : String := "x25519+hkdf-sha256+chacha20poly1305"

structure CipherEnvelope where
  keyId : String
  algorithm : String
  ephemeralPubkeyB64 : Option String
  nonceB64 : String
  ciphertextB64 : String
deriving DecidableEq

structure HoleCardsDealtCipherPayload where
  aad : SeatEventAad
  envelope : CipherEnvelope
deriving DecidableEq

variable (ext : Externals) (prim : Primitives)

def aadText (aad : SeatEventAad) : String :=
  "room_id=" ++ ext.uuidText aad.roomId.uuid ++ "|hand_id=" ++ ext.uuidText aad.handId.uuid ++
    "|seat_id=" ++ toString aad.seatId.val ++ "|event_seq=" ++ toString aad.eventSeq

def asBytes (aad : SeatEventAad) : Bytes := utf8 (aadText ext aad)

def deriveAeadKey (sharedSecret : ByteArr 32) (aad : Bytes) : Except SeatCryptoError (ByteArr 32) :=
  match prim.hkdfExpand (utf8 "seat-crypto-v1") sharedSecret.toList (utf8 "aead-key" ++ aad) 32 with
  | none => .error .hkdf
  | some key => .ok key

def deriveNonce (sharedSecret : ByteArr 32) (aad : Bytes) : Except SeatCryptoError (ByteArr 12) :=
  match prim.hkdfExpand (utf8 "seat-crypto-v1") sharedSecret.toList (utf8 "aead-nonce" ++ aad) 12 with
  | none => .error .hkdf
  | some nonce => .ok nonce

def encryptForRecipientX25519WithEphemeral (keyId : String) (recipientPublic : ByteArr 32)
    (aad : SeatEventAad) (plaintext : Bytes) (ephemeralSecret : ByteArr 32) :
    Except SeatCryptoError CipherEnvelope :=
  let shared := prim.diffieHellman ephemeralSecret recipientPublic
  match deriveAeadKey prim shared (asBytes ext aad) with
  | .error e => .error e
  | .ok aeadKey =>
    match deriveNonce prim shared (asBytes ext aad) with
    | .error e => .error e
    | .ok nonce =>
      match prim.aeadEncrypt aeadKey nonce (asBytes ext aad) plaintext with
      | none => .error .aead
      | some ciphertext =>
        .ok { keyId
              algorithm := algX25519Chacha20Poly1305
              ephemeralPubkeyB64 := some (prim.base64Encode (prim.publicKey ephemeralSecret).toList)
              nonceB64 := prim.base64Encode nonce.toList
              ciphertextB64 := prim.base64Encode ciphertext }

def decodeBase64 (text : String) : Except SeatCryptoError Bytes :=
  match prim.base64Decode text with
  | none => .error .invalidBase64
  | some bytes => .ok bytes

/-- The part of an envelope that is sealed with a shared key is opened. -/
def openSealed (envelope : CipherEnvelope) (recipientSecret : ByteArr 32) (aad : SeatEventAad) :
    Except SeatCryptoError Bytes :=
  match envelope.ephemeralPubkeyB64 with
  | none => .error .invalidEphemeralPublicKeyLength
  | some ephB64 =>
    match decodeBase64 prim ephB64 with
    | .error e => .error e
    | .ok ephPubkeyBytes =>
      match toArr 32 ephPubkeyBytes with
      | none => .error .invalidEphemeralPublicKeyLength
      | some ephPubkey =>
        match decodeBase64 prim envelope.nonceB64 with
        | .error e => .error e
        | .ok nonceBytes =>
          match toArr 12 nonceBytes with
          | none => .error .invalidNonceLength
          | some nonce =>
            match decodeBase64 prim envelope.ciphertextB64 with
            | .error e => .error e
            | .ok ciphertext =>
              let shared := prim.diffieHellman recipientSecret ephPubkey
              match deriveAeadKey prim shared (asBytes ext aad) with
              | .error e => .error e
              | .ok symKey =>
                match prim.aeadDecrypt symKey nonce (asBytes ext aad) ciphertext with
                | none => .error .aead
                | some plaintext => .ok plaintext

/-- `decrypt_with_x25519_secret`: an envelope with another algorithm is not sealed at all. -/
def decryptWithX25519Secret (envelope : CipherEnvelope) (recipientSecret : ByteArr 32)
    (aad : SeatEventAad) : Except SeatCryptoError Bytes :=
  if envelope.algorithm ≠ algX25519Chacha20Poly1305 then decodeBase64 prim envelope.ciphertextB64
  else openSealed ext prim envelope recipientSecret aad

/-! ### The associated data -/

/-- The fields of the text after the room. -/
def aadFields (aad : SeatEventAad) : List (List Char) :=
  [field "hand_id=" (ext.uuidText aad.handId.uuid), field "seat_id=" (toString aad.seatId.val),
    field "event_seq=" (toString aad.eventSeq)]

theorem toList_aadText (aad : SeatEventAad) :
    (aadText ext aad).toList =
      field "room_id=" (ext.uuidText aad.roomId.uuid) ++ barred '|' (aadFields ext aad) := by
  have h1 : "|hand_id=".toList = '|' :: "hand_id=".toList := rfl
  have h2 : "|seat_id=".toList = '|' :: "seat_id=".toList := rfl
  have h3 : "|event_seq=".toList = '|' :: "event_seq=".toList := rfl
  unfold aadText aadFields
  simp only [String.toList_append]
  simp only [h1, h2, h3]
  simp only [field, barred, List.flatMap_cons, List.flatMap_nil]
  simp only [List.append_assoc, List.cons_append, List.append_nil]

variable {ext}

theorem plain_aadFields (hext : TextFormats ext) (aad : SeatEventAad) :
    Plain '|' (aadFields ext aad) := by
  intro f hf
  simp only [aadFields, List.mem_cons, List.not_mem_nil, or_false] at hf
  rcases hf with rfl | rfl | rfl
  · exact no_bar_field (by decide) (hext.uuid_no_bar _)
  · exact no_bar_field (by decide) (no_bar_nat _)
  · exact no_bar_field (by decide) (no_bar_nat _)

/-- **The associated data names one room, hand, seat and event.** -/
theorem asBytes_injective (hext : TextFormats ext) : Function.Injective (asBytes ext) := by
  intro a b h
  have hlist := congrArg String.toList (utf8_injective h)
  rw [toList_aadText, toList_aadText] at hlist
  obtain ⟨hroom, hrest⟩ := barred_inj_right (plain_aadFields hext a) (plain_aadFields hext b) rfl hlist
  simp only [aadFields, List.cons.injEq, and_true] at hrest
  obtain ⟨hhand, hseat, hseq⟩ := hrest
  have hroom' := hext.uuid_injective (field_inj hroom)
  have hhand' := hext.uuid_injective (field_inj hhand)
  have hseat' := toString_nat_injective (field_inj hseat)
  have hseq' := toString_nat_injective (field_inj hseq)
  obtain ⟨⟨room⟩, ⟨hand⟩, seat, seq⟩ := a
  obtain ⟨⟨room'⟩, ⟨hand'⟩, seat', seq'⟩ := b
  simp only at hroom' hhand' hseat' hseq'
  rw [hroom', hhand', Fin.ext hseat', hseq']

variable {prim}

/-! ### What a seat reads -/

theorem encrypt_ok {keyId : String} {recipientPublic ephemeralSecret : ByteArr 32}
    {aad : SeatEventAad} {plaintext : Bytes} {envelope : CipherEnvelope}
    (h : encryptForRecipientX25519WithEphemeral ext prim keyId recipientPublic aad plaintext
      ephemeralSecret = .ok envelope) :
    ∃ key nonce ciphertext,
      deriveAeadKey prim (prim.diffieHellman ephemeralSecret recipientPublic) (asBytes ext aad) =
          .ok key ∧
        deriveNonce prim (prim.diffieHellman ephemeralSecret recipientPublic) (asBytes ext aad) =
          .ok nonce ∧
        prim.aeadEncrypt key nonce (asBytes ext aad) plaintext = some ciphertext ∧
        envelope =
          { keyId
            algorithm := algX25519Chacha20Poly1305
            ephemeralPubkeyB64 := some (prim.base64Encode (prim.publicKey ephemeralSecret).toList)
            nonceB64 := prim.base64Encode nonce.toList
            ciphertextB64 := prim.base64Encode ciphertext } := by
  unfold encryptForRecipientX25519WithEphemeral at h
  dsimp only at h
  split at h
  · cases h
  rename_i key hkey
  split at h
  · cases h
  rename_i nonce hnonce
  split at h
  · cases h
  rename_i ciphertext hcipher
  cases h
  exact ⟨key, nonce, ciphertext, hkey, hnonce, hcipher, rfl⟩

theorem decodeBase64_ok {text : String} {bytes : Bytes} (h : decodeBase64 prim text = .ok bytes) :
    prim.base64Decode text = some bytes := by
  unfold decodeBase64 at h
  split at h
  · cases h
  · rename_i hsome
    cases h
    exact hsome

theorem openSealed_ok {envelope : CipherEnvelope} {recipientSecret : ByteArr 32} {aad : SeatEventAad}
    {plaintext : Bytes} (h : openSealed ext prim envelope recipientSecret aad = .ok plaintext) :
    ∃ ephB64 ephPubkey nonce ciphertext key,
      envelope.ephemeralPubkeyB64 = some ephB64 ∧
        prim.base64Decode ephB64 = some (List.Vector.toList ephPubkey) ∧
        prim.base64Decode envelope.nonceB64 = some (List.Vector.toList nonce) ∧
        prim.base64Decode envelope.ciphertextB64 = some ciphertext ∧
        deriveAeadKey prim (prim.diffieHellman recipientSecret ephPubkey) (asBytes ext aad) = .ok key ∧
        prim.aeadDecrypt key nonce (asBytes ext aad) ciphertext = some plaintext := by
  unfold openSealed at h
  split at h
  · cases h
  rename_i ephB64 heph
  split at h
  · cases h
  rename_i ephBytes hephBytes
  split at h
  · cases h
  rename_i ephPubkey hephArr
  split at h
  · cases h
  rename_i nonceBytes hnonceBytes
  split at h
  · cases h
  rename_i nonce hnonceArr
  split at h
  · cases h
  rename_i ciphertext hcipher
  dsimp only at h
  split at h
  · cases h
  rename_i key hkey
  split at h
  · cases h
  rename_i plaintext' hplain
  cases h
  refine ⟨ephB64, ephPubkey, nonce, ciphertext, key, heph, ?_, ?_, decodeBase64_ok hcipher, hkey,
    hplain⟩
  · rw [toList_of_toArr hephArr]
    exact decodeBase64_ok hephBytes
  · rw [toList_of_toArr hnonceArr]
    exact decodeBase64_ok hnonceBytes

/-- What is assumed of libraries that work. -/
structure Correct (prim : Primitives) : Prop where
  base64 : ∀ bytes, prim.base64Decode (prim.base64Encode bytes) = some bytes
  agreement : ∀ secret secret', prim.diffieHellman secret (prim.publicKey secret') =
    prim.diffieHellman secret' (prim.publicKey secret)
  hkdf : ∀ salt ikm info, (∃ key, prim.hkdfExpand salt ikm info 32 = some key) ∧
    ∃ nonce, prim.hkdfExpand salt ikm info 12 = some nonce
  aead : ∀ key nonce aad plaintext, ∃ ciphertext,
    prim.aeadEncrypt key nonce aad plaintext = some ciphertext ∧
      prim.aeadDecrypt key nonce aad ciphertext = some plaintext

/-- Libraries that in addition accept nothing else: base64 has one text for each list of bytes, and a
message is opened only with the key, the nonce and the associated data it was sealed with. -/
structure Ideal (prim : Primitives) : Prop extends Correct prim where
  canonical : ∀ text bytes, prim.base64Decode text = some bytes → prim.base64Encode bytes = text
  opened : ∀ key nonce aad ciphertext plaintext,
    prim.aeadDecrypt key nonce aad ciphertext = some plaintext →
      prim.aeadEncrypt key nonce aad plaintext = some ciphertext
  bound : ∀ key nonce aad plaintext ciphertext key' nonce' aad' plaintext',
    prim.aeadEncrypt key nonce aad plaintext = some ciphertext →
      prim.aeadDecrypt key' nonce' aad' ciphertext = some plaintext' →
      key' = key ∧ nonce' = nonce ∧ aad' = aad

section

variable (hprim : Correct prim)
include hprim

theorem exists_derived (shared : ByteArr 32) (aad : Bytes) :
    (∃ key, deriveAeadKey prim shared aad = .ok key) ∧
      ∃ nonce, deriveNonce prim shared aad = .ok nonce := by
  obtain ⟨key, hkey⟩ :=
    (hprim.hkdf (utf8 "seat-crypto-v1") shared.toList (utf8 "aead-key" ++ aad)).1
  obtain ⟨nonce, hnonce⟩ :=
    (hprim.hkdf (utf8 "seat-crypto-v1") shared.toList (utf8 "aead-nonce" ++ aad)).2
  refine ⟨⟨key, ?_⟩, nonce, ?_⟩
  · unfold deriveAeadKey
    rw [hkey]
  · unfold deriveNonce
    rw [hnonce]

theorem exists_encrypted (keyId : String) (recipientPublic : ByteArr 32) (aad : SeatEventAad)
    (plaintext : Bytes) (ephemeralSecret : ByteArr 32) :
    ∃ envelope, encryptForRecipientX25519WithEphemeral ext prim keyId recipientPublic aad plaintext
      ephemeralSecret = .ok envelope := by
  obtain ⟨⟨key, hkey⟩, nonce, hnonce⟩ :=
    exists_derived hprim (prim.diffieHellman ephemeralSecret recipientPublic) (asBytes ext aad)
  obtain ⟨ciphertext, hcipher, -⟩ := hprim.aead key nonce (asBytes ext aad) plaintext
  unfold encryptForRecipientX25519WithEphemeral
  dsimp only
  rw [hkey]
  dsimp only
  rw [hnonce]
  dsimp only
  rw [hcipher]
  exact ⟨_, rfl⟩

/-- **The seat reads what was sealed for it.** -/
theorem decrypt_encrypt {keyId : String} {secret ephemeralSecret : ByteArr 32} {aad : SeatEventAad}
    {plaintext : Bytes} {envelope : CipherEnvelope}
    (h : encryptForRecipientX25519WithEphemeral ext prim keyId (prim.publicKey secret) aad plaintext
      ephemeralSecret = .ok envelope) :
    decryptWithX25519Secret ext prim envelope secret aad = .ok plaintext := by
  obtain ⟨key, nonce, ciphertext, hkey, -, hcipher, rfl⟩ := encrypt_ok h
  rw [hprim.agreement] at hkey
  obtain ⟨ciphertext', hcipher', hplain⟩ := hprim.aead key nonce (asBytes ext aad) plaintext
  rw [hcipher] at hcipher'
  cases hcipher'
  have hdecode : ∀ bytes, decodeBase64 prim (prim.base64Encode bytes) = .ok bytes := by
    intro bytes
    unfold decodeBase64
    rw [hprim.base64]
  unfold decryptWithX25519Secret
  rw [if_neg (by simp)]
  simp only [openSealed, hdecode, toArr_toList, hkey, hplain]

end

variable (ext prim)

/-! ### Payloads as JSON -/

/-- A member of a record: by its key, or by its place if the record is written as an array. -/
def member (key : String) (idx len : ℕ) : Value → Option Value
  | .object map => (map.find? fun e => e.1 = key).map Prod.snd
  | .array items => if items.length = len then items[idx]? else none
  | _ => none

def asStr : Value → Option String
  | .string s => some s
  | _ => none

/-- A number below a bound. -/
def asNat (bound : ℕ) : Value → Option ℕ
  | .number n => if 0 ≤ n ∧ n < bound then some n.toNat else none
  | _ => none

/-- `Option<String>`: a member that is missing or null is none. -/
def asOptionalStr : Option Value → Option (Option String)
  | none => some none
  | some .null => some none
  | some (.string s) => some (some s)
  | some _ => none

def aadToValue (aad : SeatEventAad) : Value :=
  .object [("event_seq", .number aad.eventSeq), ("hand_id", .string (ext.uuidText aad.handId.uuid)),
    ("room_id", .string (ext.uuidText aad.roomId.uuid)), ("seat_id", .number aad.seatId.val)]

def optionalStrToValue : Option String → Value
  | none => .null
  | some s => .string s

def envelopeToValue (envelope : CipherEnvelope) : Value :=
  .object [("algorithm", .string envelope.algorithm),
    ("ciphertext_b64", .string envelope.ciphertextB64),
    ("ephemeral_pubkey_b64", optionalStrToValue envelope.ephemeralPubkeyB64),
    ("key_id", .string envelope.keyId), ("nonce_b64", .string envelope.nonceB64)]

/-- `serde_json::to_value`; the keys of an object are in order. -/
def payloadToValue (payload : HoleCardsDealtCipherPayload) : Value :=
  .object [("aad", aadToValue ext payload.aad), ("envelope", envelopeToValue payload.envelope)]

def aadFromValue (v : Value) : Option SeatEventAad := do
  let roomId ← ((member "room_id" 0 4 v).bind asStr).bind prim.parseUuid
  let handId ← ((member "hand_id" 1 4 v).bind asStr).bind prim.parseUuid
  let seatId ← (member "seat_id" 2 4 v).bind (asNat 256)
  let eventSeq ← (member "event_seq" 3 4 v).bind (asNat (2 ^ 32))
  some { roomId := ⟨roomId⟩, handId := ⟨handId⟩, seatId := Fin.ofNat 256 seatId, eventSeq }

def envelopeFromValue (v : Value) : Option CipherEnvelope := do
  let keyId ← (member "key_id" 0 5 v).bind asStr
  let algorithm ← (member "algorithm" 1 5 v).bind asStr
  let ephemeralPubkeyB64 ← asOptionalStr (member "ephemeral_pubkey_b64" 2 5 v)
  let nonceB64 ← (member "nonce_b64" 3 5 v).bind asStr
  let ciphertextB64 ← (member "ciphertext_b64" 4 5 v).bind asStr
  some { keyId, algorithm, ephemeralPubkeyB64, nonceB64, ciphertextB64 }

/-- `serde_json::from_value`. -/
def payloadFromValue (v : Value) : Option HoleCardsDealtCipherPayload := do
  let aad ← (member "aad" 0 2 v).bind (aadFromValue prim)
  let envelope ← (member "envelope" 1 2 v).bind envelopeFromValue
  some { aad, envelope }

variable {ext prim}

theorem envelopeFromValue_toValue (envelope : CipherEnvelope) :
    envelopeFromValue (envelopeToValue envelope) = some envelope := by
  obtain ⟨keyId, algorithm, ephemeralPubkeyB64, nonceB64, ciphertextB64⟩ := envelope
  cases ephemeralPubkeyB64 <;> rfl

theorem asNat_number {n bound : ℕ} (h : n < bound) : asNat bound (.number n) = some n := by
  show (if _ then _ else _) = _
  rw [if_pos ⟨Int.natCast_nonneg n, Int.ofNat_lt.2 h⟩, Int.toNat_natCast]

theorem aadFromValue_toValue (huuid : ∀ n, prim.parseUuid (ext.uuidText n) = some n)
    {aad : SeatEventAad} (hseq : aad.eventSeq < 2 ^ 32) :
    aadFromValue prim (aadToValue ext aad) = some aad := by
  have hroom : member "room_id" 0 4 (aadToValue ext aad) =
      some (.string (ext.uuidText aad.roomId.uuid)) := rfl
  have hhand : member "hand_id" 1 4 (aadToValue ext aad) =
      some (.string (ext.uuidText aad.handId.uuid)) := rfl
  have hseat : member "seat_id" 2 4 (aadToValue ext aad) = some (.number aad.seatId.val) := rfl
  have hevent : member "event_seq" 3 4 (aadToValue ext aad) = some (.number aad.eventSeq) := rfl
  have hseatNat : asNat 256 (.number aad.seatId.val) = some aad.seatId.val :=
    asNat_number aad.seatId.isLt
  have hseqNat : asNat (2 ^ 32) (.number aad.eventSeq) = some aad.eventSeq := asNat_number hseq
  have hfin : Fin.ofNat 256 aad.seatId.val = aad.seatId := Fin.ofNat_val_eq_self _
  unfold aadFromValue
  rw [hroom, hhand, hseat, hevent]
  rw [Option.bind_some, Option.bind_some, Option.bind_some, Option.bind_some]
  rw [asStr, asStr, Option.bind_some, Option.bind_some, huuid, huuid, hseatNat, hseqNat]
  show some (SeatEventAad.mk ⟨aad.roomId.uuid⟩ ⟨aad.handId.uuid⟩ (Fin.ofNat 256 aad.seatId.val)
    aad.eventSeq) = some aad
  rw [hfin]

/-- **A payload is read back from its JSON.** -/
theorem payloadFromValue_toValue (huuid : ∀ n, prim.parseUuid (ext.uuidText n) = some n)
    {payload : HoleCardsDealtCipherPayload} (hseq : payload.aad.eventSeq < 2 ^ 32) :
    payloadFromValue prim (payloadToValue ext payload) = some payload := by
  have haad : member "aad" 0 2 (payloadToValue ext payload) = some (aadToValue ext payload.aad) := rfl
  have henvelope : member "envelope" 1 2 (payloadToValue ext payload) =
      some (envelopeToValue payload.envelope) := rfl
  unfold payloadFromValue
  simp only [haad, henvelope, Option.bind_some, Option.bind_eq_bind, envelopeFromValue_toValue,
    aadFromValue_toValue huuid hseq]

/-! ### Libraries that meet the assumptions -/

/-- What a sealed message consists of. -/
abbrev SealParts := ByteArr 32 × ByteArr 12 × Bytes × Bytes

/-- A sealed message as a free term, written in unary. -/
def sealCode (parts : SealParts) : Bytes :=
  List.replicate (Encodable.encode (parts.1.toList, parts.2.1.toList, parts.2.2.1, parts.2.2.2)) 0

theorem sealCode_injective : Function.Injective sealCode := by
  rintro ⟨key, nonce, aad, plaintext⟩ ⟨key', nonce', aad', plaintext'⟩ h
  have hlength := congrArg List.length h
  rw [sealCode, sealCode, List.length_replicate, List.length_replicate] at hlength
  have hparts := Encodable.encode_injective hlength
  simp only [Prod.mk.injEq] at hparts
  obtain ⟨hkey, hnonce, rfl, rfl⟩ := hparts
  rw [List.Vector.toList_injective hkey, List.Vector.toList_injective hnonce]

/-- Bytes as a text, written in unary. -/
def unaryText (bytes : Bytes) : String := String.ofList (List.replicate (Encodable.encode bytes) 'A')

theorem unaryText_injective : Function.Injective unaryText := by
  intro bytes bytes' h
  have hlength := congrArg (fun s => s.toList.length) h
  simp only [unaryText, String.toList_ofList, List.length_replicate] at hlength
  exact Encodable.encode_injective hlength

/-- Libraries in which everything that is sealed or written is read back, and nothing else. -/
noncomputable def freePrimitives : Primitives where
  base64Encode := unaryText
  base64Decode := Function.partialInv unaryText
  publicKey := id
  diffieHellman a b := .ofFn fun i => a.get i + b.get i
  hkdfExpand _ _ _ len := some (List.Vector.replicate len 0)
  aeadEncrypt key nonce aad plaintext := some (sealCode (key, nonce, aad, plaintext))
  aeadDecrypt key nonce aad ciphertext :=
    (Function.partialInv sealCode ciphertext).bind fun parts =>
      if parts.1 = key ∧ parts.2.1 = nonce ∧ parts.2.2.1 = aad then some parts.2.2.2 else none
  parseUuid := Function.partialInv decimalFormats.uuidText
  jsonFromSlice := Function.partialInv fun v => utf8 (render v)
  hexErrorText _ := "invalid hex"

theorem correct_freePrimitives : Correct freePrimitives where
  base64 := Function.partialInv_left unaryText_injective
  agreement a b := by
    have hsum : (fun i => a.get i + b.get i) = fun i => b.get i + a.get i :=
      funext fun i => Fin.ext (congrArg (· % 256) (Nat.add_comm (a.get i).val (b.get i).val))
    exact congrArg List.Vector.ofFn hsum
  hkdf _ _ _ := ⟨⟨_, rfl⟩, _, rfl⟩
  aead key nonce aad plaintext := by
    refine ⟨_, rfl, ?_⟩
    show (Function.partialInv sealCode (sealCode _)).bind _ = _
    rw [Function.partialInv_left sealCode_injective, Option.bind_some, if_pos ⟨rfl, rfl, rfl⟩]

theorem ideal_freePrimitives : Ideal freePrimitives where
  toCorrect := correct_freePrimitives
  canonical text bytes h := (unaryText_injective.isPartialInv bytes text).1 h
  opened key nonce aad ciphertext plaintext h := by
    obtain ⟨⟨key', nonce', aad', plaintext'⟩, hparts, hopen⟩ := Option.bind_eq_some_iff.1 h
    split_ifs at hopen with hsame
    obtain ⟨rfl, rfl, rfl⟩ := hsame
    cases hopen
    exact congrArg some ((sealCode_injective.isPartialInv _ _).1 hparts)
  bound key nonce aad plaintext ciphertext key' nonce' aad' plaintext' henc h := by
    obtain ⟨parts, hparts, hopen⟩ := Option.bind_eq_some_iff.1 h
    have hcode : sealCode parts = sealCode (key, nonce, aad, plaintext) :=
      ((sealCode_injective.isPartialInv _ _).1 hparts).trans (Option.some.inj henc).symm
    obtain rfl := sealCode_injective hcode
    split_ifs at hopen with hsame
    exact ⟨hsame.1.symm, hsame.2.1.symm, hsame.2.2.symm⟩

theorem parseUuid_freePrimitives (n : ℕ) :
    freePrimitives.parseUuid (decimalFormats.uuidText n) = some n :=
  Function.partialInv_left nonemptyFormats_decimal.uuid_injective n

theorem jsonFromSlice_freePrimitives (v : Value) :
    freePrimitives.jsonFromSlice (utf8 (render v)) = some v :=
  Function.partialInv_left (utf8_injective.comp (render_injective numberTexts_int)) v

end HoldemPlatform.Crypto.SeatCrypto
