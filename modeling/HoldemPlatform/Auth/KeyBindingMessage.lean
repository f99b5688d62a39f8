import HoldemPlatform.Auth.Texts

/-!
# Is a Key-Binding Message Unambiguous?

The message of a key binding joins four free-form texts, the seat address, the two keys and the
algorithm, by words such as `|key_algo=`. The identifiers, the seat and the times around them are read
off from the two ends. What is left between them has one reading exactly if none of the three words
in it occurs in one of the texts next to it; the bar alone does no harm.
-/

namespace HoldemPlatform.Auth.KeyBindingMessage

open HoldemPlatform.Lib.Joined HoldemPlatform.Domain.Game HoldemPlatform.Auth.Signing
open HoldemPlatform.Auth.Texts

def Contains (s word : String) : Prop := word.toList <:+: s.toList

instance (s word : String) : Decidable (Contains s word) :=
  inferInstanceAs (Decidable (_ <:+: _))

/-- None of the three words stands in one of the two texts next to it. -/
structure WordsKeptOut (claim : SeatKeyBindingClaim) : Prop where
  seatAddress : ¬ Contains claim.seatAddress "|card_encrypt_pubkey="
  cardEncryptPubkey : ¬ Contains claim.cardEncryptPubkey "|card_encrypt_pubkey=" ∧
    ¬ Contains claim.cardEncryptPubkey "|request_verify_pubkey="
  requestVerifyPubkey : ¬ Contains claim.requestVerifyPubkey "|request_verify_pubkey=" ∧
    ¬ Contains claim.requestVerifyPubkey "|key_algo="
  keyAlgo : ¬ Contains claim.keyAlgo "|key_algo="

/-! ### The parts of a message -/

/-- The three words with the texts after them. -/
def keyFields (claim : SeatKeyBindingClaim) : List (List Char × List Char) :=
  [("|card_encrypt_pubkey=".toList, claim.cardEncryptPubkey.toList),
    ("|request_verify_pubkey=".toList, claim.requestVerifyPubkey.toList),
    ("|key_algo=".toList, claim.keyAlgo.toList)]

theorem words_keyFields (claim : SeatKeyBindingClaim) :
    Words '|' ((keyFields claim).map Prod.fst) := by
  refine ⟨marked_cons (by decide), clash_of_ne (by decide), marked_cons (by decide),
    clash_of_ne (by decide), marked_cons (by decide)⟩

theorem separated_keyFields {claim : SeatKeyBindingClaim} :
    Separated claim.seatAddress.toList (keyFields claim) ↔ WordsKeptOut claim := by
  constructor
  · rintro ⟨h1, h2, h3, h4, h5, h6, -⟩
    exact ⟨h1, ⟨h2, h3⟩, ⟨h4, h5⟩, h6⟩
  · rintro ⟨h1, ⟨h2, h3⟩, ⟨h4, h5⟩, h6⟩
    exact ⟨h1, h2, h3, h4, h5, h6, trivial⟩

variable (ext : Externals)

def lastFields (claim : SeatKeyBindingClaim) : List (List Char) :=
  [field "issued_at=" (ext.toRfc3339 claim.issuedAt),
    field "expires_at=" ((claim.expiresAt.map ext.toRfc3339).getD ""),
    field "agent_id=" ((claim.agentId.map fun v => ext.uuidText v.uuid).getD ""),
    field "session_id=" ((claim.sessionId.map fun v => ext.uuidText v.uuid).getD "")]

/-- A message from its ends: room and seat on the left, times and identifiers on the right, and the
four texts with their words in between. -/
theorem toList_message (claim : SeatKeyBindingClaim) :
    (buildSeatKeyBindingMessage ext claim).toList =
      field "room_id=" (ext.uuidText claim.roomId.uuid) ++
        (barred '|' [field "seat_id=" (toString claim.seatId.val)] ++
          '|' :: ("seat_address=".toList ++
            (joined claim.seatAddress.toList (keyFields claim) ++
              barred '|' (lastFields ext claim)))) := by
  have h1 : "|seat_id=".toList = '|' :: "seat_id=".toList := rfl
  have h2 : "|seat_address=".toList = '|' :: "seat_address=".toList := rfl
  have h3 : "|issued_at=".toList = '|' :: "issued_at=".toList := rfl
  have h4 : "|expires_at=".toList = '|' :: "expires_at=".toList := rfl
  have h5 : "|agent_id=".toList = '|' :: "agent_id=".toList := rfl
  have h6 : "|session_id=".toList = '|' :: "session_id=".toList := rfl
  unfold buildSeatKeyBindingMessage lastFields keyFields
  simp only [String.toList_append]
  simp only [h1, h2, h3, h4, h5, h6]
  simp only [field, barred, joined, List.flatMap_cons, List.flatMap_nil]
  simp only [List.append_assoc, List.cons_append, List.append_nil]

variable {ext}

theorem plain_lastFields (hext : TextFormats ext) (claim : SeatKeyBindingClaim) :
    Plain '|' (lastFields ext claim) := by
  have hid := fun {α : Type} (uuid : α → ℕ) (o : Option α) =>
    no_bar_getD_map (fun v => hext.uuid_no_bar (uuid v)) o
  intro f hf
  simp only [lastFields, List.mem_cons, List.not_mem_nil, or_false] at hf
  rcases hf with rfl | rfl | rfl | rfl
  · exact no_bar_field (by decide) (hext.time_no_bar _)
  · exact no_bar_field (by decide) (no_bar_getD_map hext.time_no_bar _)
  · exact no_bar_field (by decide) (hid AgentId.uuid claim.agentId)
  · exact no_bar_field (by decide) (hid SessionId.uuid claim.sessionId)

theorem plain_firstFields (hext : TextFormats ext) (claim : SeatKeyBindingClaim) :
    Plain '|' [field "room_id=" (ext.uuidText claim.roomId.uuid),
      field "seat_id=" (toString claim.seatId.val)] := by
  intro f hf
  simp only [List.mem_cons, List.not_mem_nil, or_false] at hf
  rcases hf with rfl | rfl
  · exact no_bar_field (by decide) (hext.uuid_no_bar _)
  · exact no_bar_field (by decide) (no_bar_nat _)

/-- What two claims with one message agree on in any case, and what is left between the ends. -/
structure SameEnds (claim other : SeatKeyBindingClaim) : Prop where
  agentId : claim.agentId = other.agentId
  sessionId : claim.sessionId = other.sessionId
  roomId : claim.roomId = other.roomId
  seatId : claim.seatId = other.seatId
  issuedAt : claim.issuedAt = other.issuedAt
  expiresAt : claim.expiresAt = other.expiresAt
  between : joined claim.seatAddress.toList (keyFields claim) =
    joined other.seatAddress.toList (keyFields other)

/-- **The ends of a message are unambiguous.** -/
theorem same_message_iff (hext : NonemptyFormats ext) (claim other : SeatKeyBindingClaim) :
    buildSeatKeyBindingMessage ext claim = buildSeatKeyBindingMessage ext other ↔
      SameEnds claim other := by
  constructor
  · intro h
    have hlist := congrArg String.toList h
    rw [toList_message, toList_message] at hlist
    obtain ⟨hroom, hseat, hrest⟩ := barred_inj_left (plain_firstFields hext.toTextFormats claim)
      (plain_firstFields hext.toTextFormats other) rfl hlist
    obtain ⟨hbetween, hlast⟩ := barred_inj_right (plain_lastFields hext.toTextFormats claim)
      (plain_lastFields hext.toTextFormats other) rfl (List.append_cancel_left hrest)
    simp only [lastFields, List.cons.injEq, and_true] at hlast hseat
    obtain ⟨hissued, hexpires, hagent, hsession⟩ := hlast
    have hid := fun {α : Type} {uuid : α → ℕ} (huuid : Function.Injective uuid) =>
      @getD_map_injective α (fun v => ext.uuidText (uuid v)) (hext.uuid_injective.comp huuid)
        (fun v => hext.uuid_ne_empty (uuid v))
    refine ⟨hid ?_ (field_inj hagent), hid ?_ (field_inj hsession), ?_, ?_,
      hext.time_injective (field_inj hissued),
      getD_map_injective hext.time_injective hext.time_ne_empty (field_inj hexpires), hbetween⟩
    · exact fun a b hab => by cases a; cases b; exact congrArg _ hab
    · exact fun a b hab => by cases a; cases b; exact congrArg _ hab
    · have huuid := hext.uuid_injective (field_inj hroom)
      cases hc : claim.roomId
      cases ho : other.roomId
      rw [hc, ho] at huuid
      exact congrArg RoomId.mk huuid
    · exact Fin.val_injective (toString_nat_injective (field_inj hseat))
  · intro h
    refine String.toList_inj.1 ?_
    rw [toList_message, toList_message, lastFields, lastFields, h.agentId, h.sessionId, h.roomId,
      h.seatId, h.issuedAt, h.expiresAt, h.between]

/-- The claim with other texts between the ends. -/
def withTexts (claim : SeatKeyBindingClaim) (address card verify algo : List Char) :
    SeatKeyBindingClaim :=
  { claim with
    seatAddress := String.ofList address, cardEncryptPubkey := String.ofList card
    requestVerifyPubkey := String.ofList verify, keyAlgo := String.ofList algo }

/-- The texts of a claim are unambiguous among claims as they are among all lists of texts. -/
theorem unique_texts_iff (claim : SeatKeyBindingClaim) :
    (∀ other, SameEnds claim other → claim = other) ↔
      ∀ f rest, rest.map Prod.fst = (keyFields claim).map Prod.fst →
        joined claim.seatAddress.toList (keyFields claim) = joined f rest →
        claim.seatAddress.toList = f ∧ keyFields claim = rest := by
  constructor
  · intro h f rest hwords hjoin
    match rest, hwords with
    | [(w1, card), (w2, verify), (w3, algo)], hwords =>
      simp only [keyFields, List.map_cons, List.map_nil, List.cons.injEq, and_true] at hwords
      obtain ⟨rfl, rfl, rfl⟩ := hwords
      have hother : claim = withTexts claim f card verify algo := by
        refine h _ ⟨rfl, rfl, rfl, rfl, rfl, rfl, ?_⟩
        rw [hjoin]
        simp only [withTexts, keyFields, String.toList_ofList]
      rw [hother]
      simp only [withTexts, keyFields, String.toList_ofList, and_self]
  · intro h other hends
    obtain ⟨haddress, hfields⟩ := h other.seatAddress.toList (keyFields other) rfl hends.between
    simp only [keyFields, List.cons.injEq, Prod.mk.injEq, true_and, and_true, String.toList_inj]
      at hfields haddress
    obtain ⟨hcard, hverify, halgo⟩ := hfields
    have hagent := hends.agentId
    have hsession := hends.sessionId
    have hroom := hends.roomId
    have hseat := hends.seatId
    have hissued := hends.issuedAt
    have hexpires := hends.expiresAt
    cases claim
    cases other
    simp only at haddress hcard hverify halgo hagent hsession hroom hseat hissued hexpires
    rw [haddress, hcard, hverify, halgo, hagent, hsession, hroom, hseat, hissued, hexpires]

/-- **The message of a key binding stands for one claim exactly if its words are kept out of the texts
next to them.** -/
theorem binding_message_unique_iff (ext : Externals) (hext : NonemptyFormats ext)
    (claim : SeatKeyBindingClaim) :
    (∀ other, buildSeatKeyBindingMessage ext claim = buildSeatKeyBindingMessage ext other →
      claim = other) ↔ WordsKeptOut claim := by
  rw [← separated_keyFields, ← joined_unique_iff (words_keyFields claim), ← unique_texts_iff]
  exact forall_congr' fun other => by rw [same_message_iff hext claim other]

/-- A claim of seat 0 for the given texts. -/
def seatClaim (seatAddress cardEncryptPubkey : String) : SeatKeyBindingClaim where
  agentId := none
  sessionId := none
  roomId := ⟨1⟩
  seatId := 0
  seatAddress := seatAddress
  cardEncryptPubkey := cardEncryptPubkey
  requestVerifyPubkey := "0xb"
  keyAlgo := "x25519+evm"
  issuedAt := 0
  expiresAt := none

/-- One message, two addresses and two keys: the word for the card key may be the one in the address
or the one after it. -/
theorem shifted_word_same_message :
    NonemptyFormats decimalFormats ∧
      buildSeatKeyBindingMessage decimalFormats
          (seatClaim "0xa|card_encrypt_pubkey=0xc" "0xd") =
        buildSeatKeyBindingMessage decimalFormats
          (seatClaim "0xa" "0xc|card_encrypt_pubkey=0xd") ∧
      seatClaim "0xa|card_encrypt_pubkey=0xc" "0xd" ≠
        seatClaim "0xa" "0xc|card_encrypt_pubkey=0xd" := by
  have heval : buildSeatKeyBindingMessage decimalFormats
          (seatClaim "0xa|card_encrypt_pubkey=0xc" "0xd") =
        buildSeatKeyBindingMessage decimalFormats
          (seatClaim "0xa" "0xc|card_encrypt_pubkey=0xd") ∧
      seatClaim "0xa|card_encrypt_pubkey=0xc" "0xd" ≠
        seatClaim "0xa" "0xc|card_encrypt_pubkey=0xd" := by
    decide +kernel
  exact ⟨nonemptyFormats_decimal, heval⟩

/-- Bars in the texts do no harm by themselves: no other claim has this message. -/
theorem barred_address_own_message :
    WordsKeptOut (seatClaim "0xa|b" "0xc") ∧
      buildSeatKeyBindingMessage decimalFormats (seatClaim "0xa|b" "0xc") ≠
        buildSeatKeyBindingMessage decimalFormats (seatClaim "0xa" "b|0xc") := by
  have hkept : WordsKeptOut (seatClaim "0xa|b" "0xc") :=
    ⟨by decide +kernel, by decide +kernel, by decide +kernel, by decide +kernel⟩
  refine ⟨hkept, fun hsame => ?_⟩
  have heq := (binding_message_unique_iff decimalFormats nonemptyFormats_decimal
    (seatClaim "0xa|b" "0xc")).2 hkept (seatClaim "0xa" "b|0xc") hsame
  exact absurd heq (by decide +kernel)

end HoldemPlatform.Auth.KeyBindingMessage
