import HoldemPlatform.Crypto.SeatCrypto
import HoldemPlatform.Room.Effect

/-!
# Do Hole Cards Reach Exactly Their Owners?

When a hand is dealt the room seals the two cards of every seat for the card key that the seat has
registered. `sealHoleCards` is the sealing the room model leaves open; with libraries that work there is
one event for every dealt seat with a well-formed key and none for another seat, and the secret of that
key reads the two cards of the seat from it.
-/

namespace HoldemPlatform.Crypto.HoleCards

open HoldemPlatform.Lib.FiniteMap HoldemPlatform.Lib.Run HoldemPlatform.Domain.Game
open HoldemPlatform.Engine.State HoldemPlatform.Auth.Json HoldemPlatform.Auth.Signing
open HoldemPlatform.Auth.Texts HoldemPlatform.Room.Actor HoldemPlatform.Room.Effect
open HoldemPlatform.Crypto.SeatCrypto

/-- `<[u8; 32]>::from_hex`. -/
def fromHex32 (hex : String) : Option (ByteArr 32) := (fromHex hex.toList).bind (toArr 32)

def cardsValue (cards : ℕ × ℕ) : Value :=
  .object [("cards", .array [.number cards.1, .number cards.2])]

def cardsPlaintext (cards : ℕ × ℕ) : Bytes := utf8 (render (cardsValue cards))

section

variable (ext : Externals) (prim : Primitives)

def encryptHoleCardsDealtPayload (keyId : String) (recipientPublic : ByteArr 32) (aad : SeatEventAad)
    (plaintextPayload : Bytes) (ephemeralSecret : ByteArr 32) :
    Except SeatCryptoError HoleCardsDealtCipherPayload :=
  match encryptForRecipientX25519WithEphemeral ext prim keyId recipientPublic aad plaintextPayload
      ephemeralSecret with
  | .error e => .error e
  | .ok envelope => .ok { aad, envelope }

/-- The sealing of the cards of one seat; `ephemeral` gives the random secret of each sealing. The payload
is given as its text. -/
def sealHoleCards (ephemeral : SeatEventAad → ByteArr 32) (pubkeyHex : String) (aad : SeatEventAad)
    (cards : ℕ × ℕ) : Option String :=
  match fromHex32 pubkeyHex with
  | none => none
  | some recipientPublic =>
    match encryptHoleCardsDealtPayload ext prim ("seat-card-key-" ++ toString aad.seatId.val)
        recipientPublic aad (cardsPlaintext cards) (ephemeral aad) with
    | .error _ => none
    | .ok payload => some (render (payloadToValue ext payload))

/-- Payloads are read back from their texts. -/
structure JsonRoundTrip : Prop where
  uuid : ∀ n, prim.parseUuid (ext.uuidText n) = some n
  payload : ∀ payload, prim.jsonFromSlice (utf8 (render (payloadToValue ext payload))) =
    some (payloadToValue ext payload)

/-- The payload a private event carries. -/
def payloadOf (event : SeatPrivateEvent) : Option HoleCardsDealtCipherPayload :=
  (prim.jsonFromSlice (utf8 event.payload)).bind (payloadFromValue prim)

/-! ### One seat -/

variable {ext prim}

theorem sealHoleCards_isSome_iff (hprim : Correct prim) {ephemeral : SeatEventAad → ByteArr 32}
    {pubkeyHex : String} {aad : SeatEventAad} {cards : ℕ × ℕ} :
    (∃ payload, sealHoleCards ext prim ephemeral pubkeyHex aad cards = some payload) ↔
      ∃ key, fromHex32 pubkeyHex = some key := by
  unfold sealHoleCards
  cases hkey : fromHex32 pubkeyHex with
  | none => simp
  | some key =>
    obtain ⟨envelope, henvelope⟩ : ∃ envelope, encryptForRecipientX25519WithEphemeral ext prim
        ("seat-card-key-" ++ toString aad.seatId.val) key aad (cardsPlaintext cards) (ephemeral aad) =
          .ok envelope :=
      exists_encrypted hprim _ _ _ _ _
    refine iff_of_true ?_ ⟨key, rfl⟩
    simp only [encryptHoleCardsDealtPayload, henvelope]
    exact ⟨_, rfl⟩

/-- What a sealed payload says: it can be read, and with the secret of the key it was sealed for it gives
the cards. -/
theorem sealHoleCards_ok (hprim : Correct prim) (hjson : JsonRoundTrip ext prim)
    {ephemeral : SeatEventAad → ByteArr 32} {pubkeyHex text : String} {aad : SeatEventAad}
    {cards : ℕ × ℕ} (hseq : aad.eventSeq < 2 ^ 32)
    (h : sealHoleCards ext prim ephemeral pubkeyHex aad cards = some text) :
    ∃ payload, (prim.jsonFromSlice (utf8 text)).bind (payloadFromValue prim) = some payload ∧
      payload.aad = aad ∧ ∀ secret, fromHex32 pubkeyHex = some (prim.publicKey secret) →
        decryptWithX25519Secret ext prim payload.envelope secret payload.aad =
          .ok (cardsPlaintext cards) := by
  unfold sealHoleCards at h
  split at h
  · cases h
  rename_i key hkey
  split at h
  · cases h
  rename_i payload hpayload
  cases h
  unfold encryptHoleCardsDealtPayload at hpayload
  split at hpayload
  · cases hpayload
  rename_i envelope henvelope
  cases hpayload
  refine ⟨⟨aad, envelope⟩, ?_, rfl, fun secret hsecret => ?_⟩
  · rw [hjson.payload, Option.bind_some]
    exact payloadFromValue_toValue hjson.uuid hseq
  · rw [hkey] at hsecret
    cases hsecret
    exact decrypt_encrypt hprim henvelope

end

/-! ### All seats -/

section

variable {Card : Type} [RsPoker Card] {env : RoomEnv Card} {st : EngineState Card}

/-- The associated data of the cards of a seat. -/
def seatAad (st : EngineState Card) (seatId : SeatId) (eventSeq : ℕ) : SeatEventAad :=
  { roomId := st.snapshot.roomId, handId := st.snapshot.handId, seatId, eventSeq }

def cardBytes (cards : Card × Card) : ℕ × ℕ := (RsPoker.toU8 cards.1, RsPoker.toU8 cards.2)

theorem mem_buildHoleCardsPrivateEvents {dealing : DealingState Card}
    (hdealt : st.dealing = some dealing) {cardPubkeys : HashMap SeatId String} {eventSeq : ℕ}
    {event : SeatPrivateEvent} :
    event ∈ buildHoleCardsPrivateEvents env st cardPubkeys eventSeq ↔
      ∃ seatId cards pubkeyHex payload, dealing.holeCards.lookup seatId = some cards ∧
        cardPubkeys.lookup seatId = some pubkeyHex ∧
        env.sealHoleCards pubkeyHex (seatAad st seatId eventSeq) (cardBytes cards) = some payload ∧
        event = { roomId := st.snapshot.roomId, handId := st.snapshot.handId, seatId,
                  eventName := "hole_cards_dealt", payload } := by
  unfold buildHoleCardsPrivateEvents
  rw [hdealt]
  rw [List.mem_filterMap]
  constructor
  · rintro ⟨⟨seatId, cards⟩, hmem, hmake⟩
    simp only [Option.bind_eq_bind, Option.bind_eq_some_iff, Option.some.injEq] at hmake
    obtain ⟨pubkeyHex, hkey, payload, hsealed, rfl⟩ := hmake
    exact ⟨seatId, cards, pubkeyHex, payload, mem_pairs.1 hmem, hkey, hsealed, rfl⟩
  · rintro ⟨seatId, cards, pubkeyHex, payload, hcards, hkey, hsealed, rfl⟩
    refine ⟨(seatId, cards), mem_pairs.2 hcards, ?_⟩
    simp only [Option.bind_eq_bind, Option.bind_eq_some_iff, Option.some.injEq]
    exact ⟨pubkeyHex, hkey, payload, hsealed, rfl⟩

theorem nodup_seatId_privateEvents (cardPubkeys : HashMap SeatId String) (eventSeq : ℕ) :
    ((buildHoleCardsPrivateEvents env st cardPubkeys eventSeq).map SeatPrivateEvent.seatId).Nodup := by
  unfold buildHoleCardsPrivateEvents
  split
  · exact List.nodup_nil
  rename_i dealing _
  refine nodup_filterMap_key (fun p e h => ?_) (nodup_pairs_fst dealing.holeCards)
  simp only [Option.bind_eq_bind, Option.bind_eq_some_iff, Option.some.injEq] at h
  obtain ⟨_, -, _, -, rfl⟩ := h
  rfl

/-- **Hole cards reach exactly their owners**: what `build_hole_cards_private_events` makes of a deal. -/
structure ReachOwners (ext : Externals) (prim : Primitives) (st : EngineState Card)
    (dealing : DealingState Card) (cardPubkeys : HashMap SeatId String) (eventSeq : ℕ)
    (events : List SeatPrivateEvent) : Prop where
  once : (events.map SeatPrivateEvent.seatId).Nodup
  seats : ∀ seatId, seatId ∈ events.map SeatPrivateEvent.seatId ↔
    (∃ cards, dealing.holeCards.lookup seatId = some cards) ∧
      ∃ pubkeyHex key, cardPubkeys.lookup seatId = some pubkeyHex ∧ fromHex32 pubkeyHex = some key
  hand : ∀ event ∈ events, event.roomId = st.snapshot.roomId ∧ event.handId = st.snapshot.handId ∧
    event.eventName = "hole_cards_dealt"
  cards : ∀ event ∈ events, ∃ cards pubkeyHex payload,
    dealing.holeCards.lookup event.seatId = some cards ∧
      cardPubkeys.lookup event.seatId = some pubkeyHex ∧ payloadOf prim event = some payload ∧
      payload.aad = seatAad st event.seatId eventSeq ∧
      ∀ secret, fromHex32 pubkeyHex = some (prim.publicKey secret) →
        decryptWithX25519Secret ext prim payload.envelope secret payload.aad =
          .ok (cardsPlaintext (cardBytes cards))

theorem hole_cards_reach_owners (ext : Externals) (prim : Primitives) (hprim : Correct prim)
    (hjson : JsonRoundTrip ext prim) (ephemeral : SeatEventAad → ByteArr 32) (env : RoomEnv Card)
    (hseal : env.sealHoleCards = sealHoleCards ext prim ephemeral) (st : EngineState Card)
    (dealing : DealingState Card) (hdealt : st.dealing = some dealing)
    (cardPubkeys : HashMap SeatId String) (eventSeq : ℕ) (hseq : eventSeq < 2 ^ 32) :
    ReachOwners ext prim st dealing cardPubkeys eventSeq
      (buildHoleCardsPrivateEvents env st cardPubkeys eventSeq) := by
  refine ⟨nodup_seatId_privateEvents cardPubkeys eventSeq, fun seatId => ?_, fun event hevent => ?_,
    fun event hevent => ?_⟩
  · simp only [List.mem_map, mem_buildHoleCardsPrivateEvents hdealt, hseal]
    constructor
    · rintro ⟨_, ⟨seatId, cards, pubkeyHex, payload, hcards, hkey, hsealed, rfl⟩, rfl⟩
      obtain ⟨key, hwell⟩ := (sealHoleCards_isSome_iff hprim).1 ⟨payload, hsealed⟩
      exact ⟨⟨cards, hcards⟩, pubkeyHex, key, hkey, hwell⟩
    · rintro ⟨⟨cards, hcards⟩, pubkeyHex, key, hkey, hwell⟩
      obtain ⟨payload, hsealed⟩ :=
        (@sealHoleCards_isSome_iff ext prim hprim ephemeral pubkeyHex (seatAad st seatId eventSeq)
          (cardBytes cards)).2 ⟨key, hwell⟩
      exact ⟨_, ⟨seatId, cards, pubkeyHex, payload, hcards, hkey, hsealed, rfl⟩, rfl⟩
  · obtain ⟨seatId, cards, pubkeyHex, payload, -, -, -, rfl⟩ :=
      (mem_buildHoleCardsPrivateEvents hdealt).1 hevent
    exact ⟨rfl, rfl, rfl⟩
  · obtain ⟨seatId, cards, pubkeyHex, text, hcards, hkey, hsealed, rfl⟩ :=
      (mem_buildHoleCardsPrivateEvents hdealt).1 hevent
    rw [hseal] at hsealed
    obtain ⟨payload, hread, haad, hdecrypt⟩ := sealHoleCards_ok hprim hjson hseq hsealed
    exact ⟨cards, pubkeyHex, payload, hcards, hkey, hread, haad, hdecrypt⟩

end

theorem jsonRoundTrip_freePrimitives : JsonRoundTrip decimalFormats freePrimitives where
  uuid := parseUuid_freePrimitives
  payload _ := jsonFromSlice_freePrimitives _

/-- The surroundings of the table of two, with cards that are sealed. -/
noncomputable def sealingEnv : RoomEnv ByteCard :=
  { tableEnv with
    sealHoleCards := sealHoleCards decimalFormats freePrimitives fun _ => .replicate 32 7 }

/-- One seat has registered a key of 32 bytes, the other one a text that is none. -/
def tableKeys : HashMap SeatId String :=
  (AList.insert 0 "0123456789abcdef0123456789ABCDEF0123456789abcdef0123456789abcdef" ∅).insert 1 "c1"

/-- At the table of two the seat with the key gets its cards, and it alone. -/
theorem table_cards_reach_owner : ∃ dealing, tableRoom.state.dealing = some dealing ∧
    ReachOwners decimalFormats freePrimitives tableRoom.state dealing tableKeys 1
      (buildHoleCardsPrivateEvents sealingEnv tableRoom.state tableKeys 1) ∧
    ∀ seatId, seatId ∈ (buildHoleCardsPrivateEvents sealingEnv tableRoom.state tableKeys 1).map
      SeatPrivateEvent.seatId ↔ seatId = 0 := by
  have heval : (tableRoom.state.dealing.any fun dealing => (dealing.holeCards.lookup 0).isSome) ∧
      (tableKeys.lookup 0).any (fun hex => (fromHex32 hex).isSome) ∧ fromHex32 "c1" = none := by
    decide +kernel
  obtain ⟨hdealt, hkey, hnokey⟩ := heval
  obtain ⟨dealing, hdealing, hcards⟩ := (Option.any_eq_true _ _).1 hdealt
  have hreach := hole_cards_reach_owners decimalFormats freePrimitives correct_freePrimitives
    jsonRoundTrip_freePrimitives (fun _ => .replicate 32 7) sealingEnv rfl tableRoom.state dealing
    hdealing tableKeys 1 (by norm_num)
  refine ⟨dealing, hdealing, hreach, fun seatId => ?_⟩
  rw [hreach.seats]
  constructor
  · rintro ⟨-, pubkeyHex, key, hlookup, hwell⟩
    by_contra hne
    by_cases hone : seatId = 1
    · subst hone
      rw [tableKeys, AList.lookup_insert] at hlookup
      cases hlookup
      rw [hnokey] at hwell
      cases hwell
    · rw [tableKeys, AList.lookup_insert_ne hone, AList.lookup_insert_ne hne] at hlookup
      cases hlookup
  · rintro rfl
    obtain ⟨hex, hlookup, hwell⟩ := (Option.any_eq_true _ _).1 hkey
    exact ⟨Option.isSome_iff_exists.1 hcards, hex, _, hlookup, (Option.some_get hwell).symm⟩

end HoldemPlatform.Crypto.HoleCards
