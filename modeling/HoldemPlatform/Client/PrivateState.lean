import HoldemPlatform.Client.Runtime
import HoldemPlatform.Crypto.HoleCards

/-!
# Does a Seat Accept Only Its Own Authentic Cards?

The client opens the sealed payloads of the private events with the secret of its seat and shows what is
inside as its hole cards. An entry should be what somebody sealed for this seat, about the room, the hand
and the seat of the event. But a payload whose algorithm is another one is not opened at all, its text is
taken as it is; and the associated data that is authenticated is the one in the payload, which is not
compared with the event. `authentic_iff` finds what has to be right about an event that adds an entry.
-/

namespace HoldemPlatform.Client.PrivateState

open HoldemPlatform.Domain.Game HoldemPlatform.Auth.Json HoldemPlatform.Auth.Signing
open HoldemPlatform.Auth.Texts HoldemPlatform.Room.Actor HoldemPlatform.Crypto.SeatCrypto
open HoldemPlatform.Crypto.HoleCards HoldemPlatform.Client.Runtime

variable (ext : Externals) (prim : Primitives)

def parseX25519SecretHex (secretHex : String) : Except RuntimeError (ByteArr 32) :=
  match fromHex secretHex.toList with
  | none => .error (.crypto (prim.hexErrorText secretHex))
  | some bytes =>
    match toArr 32 bytes with
    | none => .error (.crypto "x25519 secret hex must decode to 32 bytes")
    | some secret => .ok secret

/-! ### Cards as they are written -/

def rankNames : List String := ["2", "3", "4", "5", "6", "7", "8", "9", "T", "J", "Q", "K", "A"]

def suitNames : List String := ["s", "c", "h", "d"]

def cardIndexToNotation (index : ℕ) : Option String :=
  if 52 ≤ index then none
  else do
    let value ← rankNames[index % 13]?
    let suit ← suitNames[index / 13]?
    some (value ++ suit)

/-- `Value::get` with a key. -/
def getField (key : String) : Value → Option Value
  | .object map => (map.find? fun e => e.1 = key).map Prod.snd
  | _ => none

def asArray : Value → Option (List Value)
  | .array items => some items
  | _ => none

def prettyHoleCards (decryptedHoleCards : List Value) : List (List String) :=
  ((decryptedHoleCards.filterMap fun entry => (getField "cards" entry).bind asArray).map fun cards =>
    (cards.filterMap (asNat (2 ^ 64))).filterMap cardIndexToNotation).filter fun cards => cards ≠ []

/-! ### The private state -/

/-- What the loop over the events has found so far. -/
structure FoundCards where
  decryptedHoleCards : List Value := []
  decryptFailures : ℕ := 0

def readEvent (secret : Option (ByteArr 32)) (found : FoundCards) (event : PrivatePayloadEvent) :
    FoundCards :=
  if event.eventName ≠ "hole_cards_dealt" then found
  else
    match payloadFromValue prim event.payload with
    | none => found
    | some payload =>
      match secret with
      | none => found
      | some secret =>
        match decryptWithX25519Secret ext prim payload.envelope secret payload.aad with
        | .ok plaintext =>
          match prim.jsonFromSlice plaintext with
          | none => found
          | some v => { found with decryptedHoleCards := found.decryptedHoleCards ++ [v] }
        | .error _ => { found with decryptFailures := saturatingAdd 32 found.decryptFailures 1 }

def eventToValue (event : PrivatePayloadEvent) : Value :=
  .object [("event_name", .string event.eventName),
    ("hand_id", .string (ext.uuidText event.handId.uuid)), ("payload", event.payload),
    ("room_id", .string (ext.uuidText event.roomId.uuid)), ("seat_id", .number event.seatId.val)]

def texts (l : List String) : Value := .array (l.map .string)

def cardIndexEncoding : Value :=
  .object [("description",
      .string "Card index to notation mapping for decrypted_hole_cards[*].cards[*]"),
    ("formula", .string "index = suit_bucket * 13 + rank_offset"),
    ("rank_offset_map", texts rankNames), ("suit_bucket_map", texts suitNames)]

def privateState (events : List PrivatePayloadEvent) (found : FoundCards) : Value :=
  .object [("card_index_encoding", cardIndexEncoding),
    ("decrypt_failures", .number found.decryptFailures),
    ("decrypted_hole_cards", .array found.decryptedHoleCards),
    ("decrypted_hole_cards_pretty",
      .array ((prettyHoleCards found.decryptedHoleCards).map texts)),
    ("events", .array (events.map (eventToValue ext)))]

def buildPrivateStateJson (events : List PrivatePayloadEvent) (cardEncryptSecretHex : Option String) :
    Except RuntimeError (Option Value) :=
  match events with
  | [] => .ok none
  | events =>
    match cardEncryptSecretHex with
    | none => .ok (some (privateState ext events (events.foldl (readEvent ext prim none) {})))
    | some secretHex =>
      match parseX25519SecretHex prim secretHex with
      | .error e => .error e
      | .ok secret =>
        .ok (some (privateState ext events (events.foldl (readEvent ext prim (some secret)) {})))

/-- The runtime with these libraries. -/
def runtimeContext : RuntimeContext where
  ext := ext
  buildPrivateStateJson := buildPrivateStateJson ext prim

/-! ### Which event an entry comes from -/

/-- The entries of `decrypted_hole_cards` of a private state. -/
def decryptedEntries (json : Value) : Option (List Value) :=
  (getField "decrypted_hole_cards" json).bind asArray

def entryOf (secret : ByteArr 32) (event : PrivatePayloadEvent) : Option Value :=
  if event.eventName = "hole_cards_dealt" then
    (payloadFromValue prim event.payload).bind fun payload =>
      match decryptWithX25519Secret ext prim payload.envelope secret payload.aad with
      | .ok plaintext => prim.jsonFromSlice plaintext
      | .error _ => none
  else none

/-- The entries, each with the event that carries it. -/
def carriedEntries (secret : ByteArr 32) (events : List PrivatePayloadEvent) :
    List (PrivatePayloadEvent × Value) :=
  events.filterMap fun event => (entryOf ext prim secret event).map (event, ·)

theorem mem_carriedEntries {secret : ByteArr 32} {events : List PrivatePayloadEvent}
    {p : PrivatePayloadEvent × Value} :
    p ∈ carriedEntries ext prim secret events ↔
      p.1 ∈ events ∧ entryOf ext prim secret p.1 = some p.2 := by
  obtain ⟨event, v⟩ := p
  simp only [carriedEntries, List.mem_filterMap, Option.map_eq_some_iff, Prod.mk.injEq]
  constructor
  · rintro ⟨event', hmem, v', hentry, rfl, rfl⟩
    exact ⟨hmem, hentry⟩
  · rintro ⟨hmem, hentry⟩
    exact ⟨event, hmem, v, hentry, rfl, rfl⟩

theorem readEvent_entries (secret : ByteArr 32) (found : FoundCards) (event : PrivatePayloadEvent) :
    (readEvent ext prim (some secret) found event).decryptedHoleCards =
      found.decryptedHoleCards ++ (entryOf ext prim secret event).toList := by
  unfold readEvent entryOf
  by_cases hname : event.eventName = "hole_cards_dealt"
  · rw [if_neg (not_not_intro hname), if_pos hname]
    cases payloadFromValue prim event.payload with
    | none => exact (List.append_nil _).symm
    | some payload =>
      rw [Option.bind_some]
      dsimp only
      cases decryptWithX25519Secret ext prim payload.envelope secret payload.aad with
      | error _ => exact (List.append_nil _).symm
      | ok plaintext =>
        dsimp only
        cases prim.jsonFromSlice plaintext with
        | none => exact (List.append_nil _).symm
        | some v => rfl
  · rw [if_pos hname, if_neg hname]
    exact (List.append_nil _).symm

theorem foldl_readEvent_entries (secret : ByteArr 32) : ∀ (events : List PrivatePayloadEvent)
    (found : FoundCards),
    (events.foldl (readEvent ext prim (some secret)) found).decryptedHoleCards =
      found.decryptedHoleCards ++ (carriedEntries ext prim secret events).map Prod.snd
  | [], _ => (List.append_nil _).symm
  | event :: events, found => by
    have hcons : (carriedEntries ext prim secret (event :: events)).map Prod.snd =
        (entryOf ext prim secret event).toList ++
          (carriedEntries ext prim secret events).map Prod.snd := by
      unfold carriedEntries
      rw [List.filterMap_cons]
      cases entryOf ext prim secret event <;> rfl
    rw [List.foldl_cons, foldl_readEvent_entries secret events, readEvent_entries, hcons,
      List.append_assoc]

theorem decryptedEntries_eq {events : List PrivatePayloadEvent} {secretHex : String}
    {secret : ByteArr 32} (hsecret : parseX25519SecretHex prim secretHex = .ok secret) {json : Value}
    (h : buildPrivateStateJson ext prim events (some secretHex) = .ok (some json)) :
    decryptedEntries json = some ((carriedEntries ext prim secret events).map Prod.snd) := by
  unfold buildPrivateStateJson at h
  split at h
  · cases h
  · dsimp only at h
    rw [hsecret] at h
    cases h
    show some (events.foldl (readEvent ext prim (some secret)) {}).decryptedHoleCards = _
    rw [foldl_readEvent_entries]
    rfl

/-! ### What is authentic -/

/-- The associated data names the room, the hand and the seat of the event. -/
def NamesEvent (aad : SeatEventAad) (event : PrivatePayloadEvent) : Prop :=
  aad.roomId = event.roomId ∧ aad.handId = event.handId ∧ aad.seatId = event.seatId

/-- The entry is what somebody sealed for the owner of the secret, about the event that carries it. -/
def Authentic (secret : ByteArr 32) (event : PrivatePayloadEvent) (entry : Value) : Prop :=
  ∃ payload keyId aad plaintext ephemeralSecret,
    payloadFromValue prim event.payload = some payload ∧ NamesEvent aad event ∧
      encryptForRecipientX25519WithEphemeral ext prim keyId (prim.publicKey secret) aad plaintext
        ephemeralSecret = .ok payload.envelope ∧
      prim.jsonFromSlice plaintext = some entry

/-- The envelope has the ephemeral key of a secret and the nonce that goes with it. -/
def DerivedParts (secret : ByteArr 32) (payload : HoleCardsDealtCipherPayload) : Prop :=
  ∃ ephemeralSecret nonce,
    payload.envelope.ephemeralPubkeyB64 =
        some (prim.base64Encode (prim.publicKey ephemeralSecret).toList) ∧
      deriveNonce prim (prim.diffieHellman ephemeralSecret (prim.publicKey secret))
        (asBytes ext payload.aad) = .ok nonce ∧
      payload.envelope.nonceB64 = prim.base64Encode nonce.toList

/-- If the event adds an entry, its payload is sealed, is about the event, and has its parts derived. -/
def Genuine (secret : ByteArr 32) (event : PrivatePayloadEvent) : Prop :=
  ∀ payload, payloadFromValue prim event.payload = some payload →
    entryOf ext prim secret event ≠ none →
    payload.envelope.algorithm = algX25519Chacha20Poly1305 ∧ NamesEvent payload.aad event ∧
      DerivedParts ext prim secret payload

variable {ext prim}

theorem entryOf_some {secret : ByteArr 32} {event : PrivatePayloadEvent} {entry : Value}
    (h : entryOf ext prim secret event = some entry) :
    ∃ payload plaintext, payloadFromValue prim event.payload = some payload ∧
      decryptWithX25519Secret ext prim payload.envelope secret payload.aad = .ok plaintext ∧
      prim.jsonFromSlice plaintext = some entry := by
  unfold entryOf at h
  split_ifs at h with hname
  obtain ⟨payload, hpayload, hentry⟩ := Option.bind_eq_some_iff.1 h
  split at hentry
  · rename_i plaintext hdecrypt
    exact ⟨payload, plaintext, hpayload, hdecrypt, hentry⟩
  · cases hentry

/-- A sealed envelope that opens under some associated data was sealed under it. -/
theorem aad_of_opened (hprim : Ideal prim) (hext : TextFormats ext) {keyId : String}
    {secret ephemeralSecret : ByteArr 32} {aad aad' : SeatEventAad} {plaintext plaintext' : Bytes}
    {envelope : CipherEnvelope}
    (henc : encryptForRecipientX25519WithEphemeral ext prim keyId (prim.publicKey secret) aad plaintext
      ephemeralSecret = .ok envelope)
    (hdec : decryptWithX25519Secret ext prim envelope secret aad' = .ok plaintext') : aad' = aad := by
  obtain ⟨key, nonce, ciphertext, -, -, hcipher, rfl⟩ := encrypt_ok henc
  unfold decryptWithX25519Secret at hdec
  rw [if_neg (by simp)] at hdec
  obtain ⟨_, _, nonce', ciphertext', key', -, -, -, hciphertext', -, hplain⟩ := openSealed_ok hdec
  simp only [hprim.base64, Option.some.injEq] at hciphertext'
  subst hciphertext'
  obtain ⟨-, -, haad⟩ := hprim.bound _ _ _ _ _ _ _ _ _ hcipher hplain
  exact asBytes_injective hext haad

/-- **An envelope with derived parts that opens is one that sealing makes.** -/
theorem encrypt_of_opened (hprim : Ideal prim) {secret : ByteArr 32}
    {payload : HoleCardsDealtCipherPayload} {plaintext : Bytes}
    (halg : payload.envelope.algorithm = algX25519Chacha20Poly1305)
    (hparts : DerivedParts ext prim secret payload)
    (hdec : decryptWithX25519Secret ext prim payload.envelope secret payload.aad = .ok plaintext) :
    ∃ ephemeralSecret, encryptForRecipientX25519WithEphemeral ext prim payload.envelope.keyId
      (prim.publicKey secret) payload.aad plaintext ephemeralSecret = .ok payload.envelope := by
  obtain ⟨aad, keyId, algorithm, ephemeralPubkeyB64, nonceB64, ciphertextB64⟩ := payload
  obtain ⟨ephemeralSecret, nonce, heph, hnonce, hnonceB64⟩ := hparts
  dsimp only at halg heph hnonce hnonceB64 hdec ⊢
  subst halg heph hnonceB64
  unfold decryptWithX25519Secret at hdec
  rw [if_neg (by simp)] at hdec
  obtain ⟨ephB64, ephPubkey, nonce', ciphertext, key, hephB64, hephKey, hnonce', hciphertext, hkey,
    hplain⟩ := openSealed_ok hdec
  dsimp only at hephB64 hnonce' hciphertext
  cases hephB64
  rw [hprim.base64, Option.some.injEq] at hephKey hnonce'
  obtain rfl := List.Vector.toList_injective hephKey
  obtain rfl := List.Vector.toList_injective hnonce'
  rw [hprim.agreement] at hkey
  refine ⟨ephemeralSecret, ?_⟩
  unfold encryptForRecipientX25519WithEphemeral
  simp only [hkey, hnonce, hprim.opened _ _ _ _ _ hplain, hprim.canonical _ _ hciphertext]

/-- An event that adds an entry adds an authentic one exactly if it is genuine. -/
theorem authentic_iff (hprim : Ideal prim) (hext : TextFormats ext) {secret : ByteArr 32}
    {event : PrivatePayloadEvent} {entry : Value}
    (hentry : entryOf ext prim secret event = some entry) :
    Authentic ext prim secret event entry ↔ Genuine ext prim secret event := by
  obtain ⟨payload, plaintext, hpayload, hdec, hjson⟩ := entryOf_some hentry
  constructor
  · rintro ⟨payload', keyId, aad, plaintext', ephemeralSecret, hpayload', hnames, henc, -⟩
    rw [hpayload] at hpayload'
    cases hpayload'
    obtain rfl := aad_of_opened hprim hext henc hdec
    obtain ⟨key, nonce, ciphertext, -, hnonce, -, henvelope⟩ := encrypt_ok henc
    intro payload' hpayload' _
    rw [hpayload] at hpayload'
    cases hpayload'
    refine ⟨by rw [henvelope], hnames, ephemeralSecret, nonce, by rw [henvelope], hnonce,
      by rw [henvelope]⟩
  · intro hgenuine
    obtain ⟨halg, hnames, hparts⟩ := hgenuine payload hpayload (by rw [hentry]; exact nofun)
    obtain ⟨ephemeralSecret, henc⟩ := encrypt_of_opened hprim halg hparts hdec
    exact ⟨payload, _, payload.aad, plaintext, ephemeralSecret, hpayload, hnames, henc, hjson⟩

variable (ext prim)

/-- **All entries of a private state are authentic exactly if all events that add one are genuine.** -/
theorem private_state_authentic_iff (hprim : Ideal prim) (hext : TextFormats ext)
    (events : List PrivatePayloadEvent) (secretHex : String) (secret : ByteArr 32)
    (hsecret : parseX25519SecretHex prim secretHex = .ok secret) (json : Value)
    (hbuild : buildPrivateStateJson ext prim events (some secretHex) = .ok (some json)) :
    decryptedEntries json = some ((carriedEntries ext prim secret events).map Prod.snd) ∧
      ((∀ p ∈ carriedEntries ext prim secret events, Authentic ext prim secret p.1 p.2) ↔
        ∀ event ∈ events, Genuine ext prim secret event) := by
  refine ⟨decryptedEntries_eq ext prim hsecret hbuild, ?_, ?_⟩
  · intro hall event hevent
    cases hentry : entryOf ext prim secret event with
    | none => exact fun _ _ hne => absurd hentry hne
    | some entry =>
      exact (authentic_iff hprim hext hentry).1
        (hall (event, entry) ((mem_carriedEntries ext prim).2 ⟨hevent, hentry⟩))
  · intro hall p hp
    obtain ⟨hevent, hentry⟩ := (mem_carriedEntries ext prim).1 hp
    exact (authentic_iff hprim hext hentry).2 (hall p.1 hevent)

/-! ### A forged and a genuine event -/

def zeroSecretHex : String := "0000000000000000000000000000000000000000000000000000000000000000"

theorem parse_zeroSecretHex :
    parseX25519SecretHex freePrimitives zeroSecretHex = .ok (.replicate 32 0) := by
  have heval : (fromHex zeroSecretHex.toList).bind (toArr 32) = some (.replicate 32 0) := by
    decide +kernel
  obtain ⟨bytes, hbytes, harr⟩ := Option.bind_eq_some_iff.1 heval
  unfold parseX25519SecretHex
  simp only [hbytes, harr]

/-- An event of room 1, hand 2 and seat 3 with an envelope. -/
def eventWith (envelope : CipherEnvelope) : PrivatePayloadEvent where
  roomId := ⟨1⟩
  handId := ⟨2⟩
  seatId := 3
  eventName := "hole_cards_dealt"
  payload := payloadToValue decimalFormats { aad := ⟨⟨1⟩, ⟨2⟩, 3, 1⟩, envelope }

/-- An event whose envelope opens to two cards, alone. -/
theorem privateState_eventWith {envelope : CipherEnvelope}
    (hdec : decryptWithX25519Secret decimalFormats freePrimitives envelope (.replicate 32 0)
      ⟨⟨1⟩, ⟨2⟩, 3, 1⟩ = .ok (cardsPlaintext (51, 50))) :
    payloadFromValue freePrimitives (eventWith envelope).payload =
        some { aad := ⟨⟨1⟩, ⟨2⟩, 3, 1⟩, envelope } ∧
      entryOf decimalFormats freePrimitives (.replicate 32 0) (eventWith envelope) =
        some (cardsValue (51, 50)) ∧
      ∃ json, buildPrivateStateJson decimalFormats freePrimitives [eventWith envelope]
          (some zeroSecretHex) = .ok (some json) ∧
        decryptedEntries json = some [cardsValue (51, 50)] := by
  have hpayload : payloadFromValue freePrimitives (eventWith envelope).payload =
      some { aad := ⟨⟨1⟩, ⟨2⟩, 3, 1⟩, envelope } :=
    payloadFromValue_toValue parseUuid_freePrimitives (by norm_num)
  have hentry : entryOf decimalFormats freePrimitives (.replicate 32 0) (eventWith envelope) =
      some (cardsValue (51, 50)) := by
    have hname : (eventWith envelope).eventName = "hole_cards_dealt" := rfl
    rw [entryOf, if_pos hname, hpayload, Option.bind_some]
    dsimp only
    rw [hdec]
    exact jsonFromSlice_freePrimitives _
  have hbuild : ∃ json, buildPrivateStateJson decimalFormats freePrimitives [eventWith envelope]
      (some zeroSecretHex) = .ok (some json) := by
    unfold buildPrivateStateJson
    simp only [parse_zeroSecretHex]
    exact ⟨_, rfl⟩
  obtain ⟨json, hjson⟩ := hbuild
  refine ⟨hpayload, hentry, json, hjson, ?_⟩
  rw [decryptedEntries_eq _ _ parse_zeroSecretHex hjson]
  simp only [carriedEntries, List.filterMap_cons, hentry, Option.map_some, List.filterMap_nil,
    List.map_cons, List.map_nil]

/-- Two cards that nobody sealed, under another algorithm. -/
def placeholderEnvelope : CipherEnvelope where
  keyId := "k1"
  algorithm := "placeholder"
  ephemeralPubkeyB64 := none
  nonceB64 := ""
  ciphertextB64 := unaryText (cardsPlaintext (51, 50))

/-- Anybody can make the client show two cards of their choice. -/
theorem placeholder_cards_accepted : Ideal freePrimitives ∧ TextFormats decimalFormats ∧
    (∃ json, buildPrivateStateJson decimalFormats freePrimitives [eventWith placeholderEnvelope]
        (some zeroSecretHex) = .ok (some json) ∧
      decryptedEntries json = some [cardsValue (51, 50)]) ∧
    ¬ Authentic decimalFormats freePrimitives (.replicate 32 0) (eventWith placeholderEnvelope)
      (cardsValue (51, 50)) := by
  have hdec : decryptWithX25519Secret decimalFormats freePrimitives placeholderEnvelope
      (.replicate 32 0) ⟨⟨1⟩, ⟨2⟩, 3, 1⟩ = .ok (cardsPlaintext (51, 50)) := by
    unfold decryptWithX25519Secret decodeBase64
    rw [if_pos (by decide)]
    have hcards : freePrimitives.base64Decode placeholderEnvelope.ciphertextB64 =
        some (cardsPlaintext (51, 50)) := correct_freePrimitives.base64 _
    rw [hcards]
  obtain ⟨hpayload, -, hstate⟩ := privateState_eventWith hdec
  refine ⟨ideal_freePrimitives, nonemptyFormats_decimal.toTextFormats, hstate, ?_⟩
  rintro ⟨payload, keyId, aad, plaintext, ephemeralSecret, hpayload', -, henc, -⟩
  rw [hpayload] at hpayload'
  cases hpayload'
  obtain ⟨_, _, _, -, -, -, henvelope⟩ := encrypt_ok henc
  have halg : placeholderEnvelope.algorithm = algX25519Chacha20Poly1305 :=
    congrArg CipherEnvelope.algorithm henvelope
  exact absurd halg (by decide)

/-- Two cards that were sealed for the seat. -/
theorem sealed_cards_authentic : ∃ envelope json,
    buildPrivateStateJson decimalFormats freePrimitives [eventWith envelope] (some zeroSecretHex) =
        .ok (some json) ∧
      decryptedEntries json = some [cardsValue (51, 50)] ∧
      Authentic decimalFormats freePrimitives (.replicate 32 0) (eventWith envelope)
        (cardsValue (51, 50)) := by
  obtain ⟨envelope, henc⟩ : ∃ envelope, encryptForRecipientX25519WithEphemeral decimalFormats
      freePrimitives "seat-card-key-3" (freePrimitives.publicKey (.replicate 32 0)) ⟨⟨1⟩, ⟨2⟩, 3, 1⟩
      (cardsPlaintext (51, 50)) (.replicate 32 7) = .ok envelope :=
    exists_encrypted correct_freePrimitives _ _ _ _ _
  obtain ⟨hpayload, hentry, json, hjson, hentries⟩ :=
    privateState_eventWith (decrypt_encrypt correct_freePrimitives henc)
  obtain ⟨_, nonce, _, -, hnonce, -, henvelope⟩ := encrypt_ok henc
  refine ⟨envelope, json, hjson, hentries, ?_⟩
  have hiff := (private_state_authentic_iff decimalFormats freePrimitives ideal_freePrimitives
    nonemptyFormats_decimal.toTextFormats [eventWith envelope] zeroSecretHex _ parse_zeroSecretHex json
    hjson).2
  refine hiff.2 (fun event hevent => ?_) (_, _)
    ((mem_carriedEntries _ _).2 ⟨List.mem_singleton_self _, hentry⟩)
  obtain rfl := List.mem_singleton.1 hevent
  intro payload hpayload' _
  rw [hpayload] at hpayload'
  cases hpayload'
  refine ⟨by rw [henvelope], ⟨rfl, rfl, rfl⟩, .replicate 32 7, nonce, by rw [henvelope], hnonce,
    by rw [henvelope]⟩

end HoldemPlatform.Client.PrivateState
