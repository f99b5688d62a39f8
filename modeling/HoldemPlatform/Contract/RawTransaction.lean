import HoldemPlatform.Auth.Signing
import HoldemPlatform.Contract.UsedIds
import Mathlib.Data.Nat.Digits.Lemmas
import Mathlib.Data.Vector.Basic
import Mathlib.Logic.Encodable.Basic
import Mathlib.Logic.Equiv.List

/-!
# Raw Transactions of a Room

A room signs its payouts itself: `build_legacy_raw_tx` writes the fields of a transaction as a list, signs
the hash of the list, and writes the fields once more together with the signature. The chain is bound into
the signed bytes and into the number `v` of the signature.

The list format, the hash, the curve and the node are not part of the repository. They are the argument
`Network`, and what is used of them are named assumptions: the bytes of a list tell its items
(`RlpInjective`), a signature recovers to the account of its key (`Signs`), and a node reads a transaction
with replay protection (`ReadsLegacy`). Then the node reads what the room was asked to pay
(`submitted_transfer_read`), and the signed bytes of a transaction are those of no other one, on this chain
or another (`signed_bytes_determine`).
-/

namespace HoldemPlatform.Contract.RawTransaction

open HoldemPlatform.Domain.Money HoldemPlatform.Auth.Signing
open HoldemPlatform.Settlement.Orchestrator
open HoldemPlatform.Contract.BatchSettlement HoldemPlatform.Contract.UsedIds

abbrev Byte := Fin 256

structure Signature where
  r : Uint256
  s : Uint256
  recid : Fin 4
deriving DecidableEq

/-- What is appended to a list: a number of any width, or bytes. -/
inductive RlpItem where
  | uint (n : ℕ)
  | bytes (b : List Byte)
deriving DecidableEq

structure LegacyTx where
  nonce : ℕ
  gasPrice : ℕ
  gasLimit : ℕ
  recipient : List.Vector Byte 20
  value : ℕ
  data : List Byte
deriving DecidableEq

/-- A transaction and who has sent it on which chain. -/
structure SignedTx where
  sender : Address
  chainId : ℕ
  tx : LegacyTx
deriving DecidableEq

/-- What is not part of the repository: hashes, the bytes `RlpStream` writes for a list, the account that
a signature of a hash recovers to, how the hex reader words its errors, how long the data of a transaction
may be, and how a node reads the text of one. -/
structure Network extends ChainCodec where
  rlpList : List RlpItem → List Byte
  recover : Bytes32 → Uint256 → Uint256 → ℕ → Option Address
  hexErrorText : String → String
  maxDataLength : ℕ
  readRawTx : String → Option SignedTx

structure RoomSigner where
  address : Address
  signPrehashRecoverable : Bytes32 → Except String Signature

/-! ### Texts -/

/-- `hex::encode`. -/
def hexEncode (bytes : List Byte) : List Char :=
  bytes.flatMap fun b => [Nat.digitChar (b.val / 16), Nat.digitChar (b.val % 16)]

/-- `strip_prefix("0x")`. -/
def stripPrefix0x (chars : List Char) : Option (List Char) :=
  if chars.take 2 = ['0', 'x'] then some (chars.drop 2) else none

def parseEvmAddress20Bytes (net : Network) (address : String) : Except String (List.Vector Byte 20) :=
  let normalized := trim address.toList
  let raw := (stripPrefix0x normalized).getD normalized
  if (String.ofList raw).utf8ByteSize ≠ 40 then .error ("invalid address length: " ++ address)
  else
    match fromHex raw with
    | none => .error ("invalid address hex: " ++ net.hexErrorText (String.ofList raw))
    | some bytes =>
      if h : bytes.length = 20 then .ok ⟨bytes, h⟩ else .error "invalid address byte length"

/-- The digits of `from_str_radix(_, 16)`, after those that make up `n`. -/
def parseHexDigits (bits : ℕ) : ℕ → List Char → Except String ℕ
  | n, [] => .ok n
  | n, c :: rest =>
    match hexValue c with
    | none => .error "invalid digit found in string"
    | some d =>
      if 2 ^ bits ≤ 16 * n + d then .error "number too large to fit in target type"
      else parseHexDigits bits (16 * n + d) rest

/-- `parse_hex_u64` and `parse_hex_u128`. -/
def parseHexUint (bits : ℕ) (input : String) : Except String ℕ :=
  match (stripPrefix0x (trim input.toList)).getD (trim input.toList) with
  | [] => .ok 0
  | ['+'] => .error "invalid digit found in string"
  | '+' :: digits => parseHexDigits bits 0 digits
  | digits => parseHexDigits bits 0 digits

/-! ### Building -/

/-- The fields that stand in front in both lists. -/
def LegacyTx.items (tx : LegacyTx) : List RlpItem :=
  [.uint tx.nonce, .uint tx.gasPrice, .uint tx.gasLimit, .bytes tx.recipient.toList, .uint tx.value,
    .bytes tx.data]

def LegacyTx.signingPayload (net : Network) (tx : LegacyTx) (chainId : ℕ) : List Byte :=
  net.rlpList (tx.items ++ [.uint chainId, .uint 0, .uint 0])

/-- `u64` arithmetic wraps around. -/
def signatureV (recid : Fin 4) (chainId : ℕ) : ℕ := (recid.val + 35 + chainId * 2) % 2 ^ 64

def LegacyTx.raw (net : Network) (tx : LegacyTx) (v : ℕ) (r s : Uint256) : String :=
  "0x" ++ String.ofList (hexEncode (net.rlpList (tx.items ++ [.uint v, .uint r.toNat, .uint s.toNat])))

/-- The gas a plain transfer needs, or a call. -/
def gasLimit (data : List Byte) : ℕ := if data = [] then 21000 else 250000

/-- The fields that `build_legacy_raw_tx` signs. -/
def legacyTx (net : Network) (nonce gasPrice : ℕ) (toAddress : String) (value : ℕ) (data : List Byte) :
    Except String LegacyTx :=
  match parseEvmAddress20Bytes net toAddress with
  | .error e => .error e
  | .ok recipient => .ok { nonce, gasPrice, gasLimit := gasLimit data, recipient, value, data }

def buildLegacyRawTx (net : Network) (chainId nonce gasPrice : ℕ) (toAddress : String) (value : ℕ)
    (data : List Byte) (signer : RoomSigner) : Except String String :=
  match legacyTx net nonce gasPrice toAddress value data with
  | .error e => .error e
  | .ok tx =>
    match signer.signPrehashRecoverable (net.keccak256 (tx.signingPayload net chainId)) with
    | .error e => .error ("sign tx failed: " ++ e)
    | .ok sig => .ok (tx.raw net (signatureV sig.recid chainId) sig.r sig.s)

/-- What the node answers before the transaction is built. -/
structure NodeReplies where
  chainId : Except String String
  transactionCount : Except String String
  gasPrice : Except String String

def parseReply (bits : ℕ) (reply : Except String String) : Except String ℕ :=
  match reply with
  | .error e => .error e
  | .ok text => parseHexUint bits text

/-- The three replies in the order of the calls: chain, nonce and gas price. -/
def NodeReplies.parse (replies : NodeReplies) : Except String (ℕ × ℕ × ℕ) :=
  match parseReply 64 replies.chainId with
  | .error e => .error e
  | .ok chainId =>
    match parseReply 64 replies.transactionCount with
    | .error e => .error e
    | .ok nonce =>
      match parseReply 128 replies.gasPrice with
      | .error e => .error e
      | .ok gasPrice => .ok (chainId, nonce, gasPrice)

/-- `submit_transfer`: the text that goes to `eth_sendRawTransaction`. -/
def submitTransfer (net : Network) (signerForRoom : Except String RoomSigner) (replies : NodeReplies)
    (request : SettlementTransferRequest) : Except String String :=
  match signerForRoom with
  | .error e => .error e
  | .ok signer =>
    match replies.parse with
    | .error e => .error e
    | .ok (chainId, nonce, gasPrice) =>
      buildLegacyRawTx net chainId nonce gasPrice request.toAddress request.amount.asU128 [] signer

/-! ### What is assumed of the network -/

/-- The key signs for its account: the signature recovers to it, with the parity in `recid`. A larger
`recid` belongs to a point of the curve that no signer has ever met. -/
def Signs (net : Network) (signer : RoomSigner) : Prop :=
  ∀ digest sig, signer.signPrehashRecoverable digest = .ok sig →
    sig.recid.val < 2 ∧ net.recover digest sig.r sig.s sig.recid.val = some signer.address

/-- The fields of a transaction have the widths a node accepts. -/
structure LegacyTx.Fits (net : Network) (tx : LegacyTx) : Prop where
  nonce : tx.nonce < 2 ^ 64
  gasPrice : tx.gasPrice < 2 ^ 256
  gasLimit : tx.gasLimit < 2 ^ 64
  value : tx.value < 2 ^ 256
  data : tx.data.length ≤ net.maxDataLength

/-- **The node reads transactions with replay protection**: where `v` is twice the chain, plus 35 and the
parity, and the signature is of the bytes of the transaction for this chain, the node reads the transaction
for the chain, from the account that the signature recovers to. -/
def ReadsLegacy (net : Network) : Prop :=
  ∀ (tx : LegacyTx) (chainId parity : ℕ) (r s : Uint256) (sender : Address), tx.Fits net → parity < 2 →
    net.recover (net.keccak256 (tx.signingPayload net chainId)) r s parity = some sender →
    net.readRawTx (tx.raw net (chainId * 2 + 35 + parity) r s) = some { sender, chainId, tx }

def RlpItem.isUint : RlpItem → Bool
  | .uint _ => true
  | .bytes _ => false

/-- **The bytes of a list tell its items**, once it is known which of them are numbers. -/
def RlpInjective (net : Network) : Prop :=
  ∀ items items' : List RlpItem, items.map RlpItem.isUint = items'.map RlpItem.isUint →
    net.rlpList items = net.rlpList items' → items = items'

/-! ### Hex -/

theorem hexValue_digitChar : ∀ n < 16, hexValue (Nat.digitChar n) = some n := by decide

theorem fromHex_hexEncode : ∀ bytes : List Byte, fromHex (hexEncode bytes) = some bytes
  | [] => rfl
  | b :: bytes => by
    have hb := b.isLt
    have hhigh := hexValue_digitChar (b.val / 16) (by omega)
    have hlow := hexValue_digitChar (b.val % 16) (by omega)
    have hval : Fin.ofNat 256 (16 * (b.val / 16) + b.val % 16) = b := by
      ext
      rw [Nat.div_add_mod]
      exact Nat.mod_eq_of_lt hb
    rw [hexEncode, List.flatMap_cons]
    show fromHex (Nat.digitChar (b.val / 16) :: Nat.digitChar (b.val % 16) :: hexEncode bytes) = _
    rw [fromHex, hhigh, hlow, fromHex_hexEncode bytes]
    show some (Fin.ofNat 256 (16 * (b.val / 16) + b.val % 16) :: bytes) = _
    rw [hval]

theorem parseHexDigits_lt {bits : ℕ} : ∀ {chars : List Char} {n m : ℕ}, n < 2 ^ bits →
    parseHexDigits bits n chars = .ok m → m < 2 ^ bits
  | [], n, m, hn, h => by
    cases h
    exact hn
  | c :: rest, n, m, hn, h => by
    rw [parseHexDigits] at h
    split at h
    · cases h
    split_ifs at h with hlt
    exact parseHexDigits_lt (by omega) h

theorem parseHexUint_lt {bits : ℕ} {input : String} {n : ℕ} (h : parseHexUint bits input = .ok n) :
    n < 2 ^ bits := by
  have hpos : 0 < 2 ^ bits := Nat.two_pow_pos bits
  unfold parseHexUint at h
  split at h
  · cases h
    exact hpos
  · cases h
  · exact parseHexDigits_lt hpos h
  · exact parseHexDigits_lt hpos h

theorem parseReply_lt {bits : ℕ} {reply : Except String String} {n : ℕ}
    (h : parseReply bits reply = .ok n) : n < 2 ^ bits := by
  unfold parseReply at h
  split at h
  · cases h
  · exact parseHexUint_lt h

/-! ### Transactions on the wire -/

/-- The bytes of a transaction with three numbers behind it. -/
theorem LegacyTx.rlpList_inj {net : Network} (hrlp : RlpInjective net) {tx tx' : LegacyTx}
    {a b c a' b' c' : ℕ} (h : net.rlpList (tx.items ++ [.uint a, .uint b, .uint c]) =
      net.rlpList (tx'.items ++ [.uint a', .uint b', .uint c'])) :
    tx = tx' ∧ a = a' ∧ b = b' ∧ c = c' := by
  have hitems : tx.items ++ [.uint a, .uint b, .uint c] = tx'.items ++ [.uint a', .uint b', .uint c'] :=
    hrlp _ _ rfl h
  obtain ⟨nonce, gasPrice, gasLimit, recipient, value, data⟩ := tx
  obtain ⟨nonce', gasPrice', gasLimit', recipient', value', data'⟩ := tx'
  simp only [items, List.cons_append, List.nil_append, List.cons.injEq, RlpItem.uint.injEq,
    RlpItem.bytes.injEq, and_true] at hitems
  obtain ⟨rfl, rfl, rfl, hrecipient, rfl, rfl, hrest⟩ := hitems
  obtain rfl := List.Vector.eq recipient recipient' hrecipient
  exact ⟨rfl, hrest⟩

theorem hexEncode_inj {bytes bytes' : List Byte} (h : hexEncode bytes = hexEncode bytes') :
    bytes = bytes' := by
  have hread := fromHex_hexEncode bytes
  rw [h, fromHex_hexEncode] at hread
  exact (Option.some.inj hread).symm

theorem LegacyTx.raw_inj {net : Network} (hrlp : RlpInjective net) {tx tx' : LegacyTx} {v v' : ℕ}
    {r r' s s' : Uint256} (h : tx.raw net v r s = tx'.raw net v' r' s') :
    tx = tx' ∧ v = v' ∧ r = r' ∧ s = s' := by
  have hchars := congrArg String.toList h
  simp only [raw, String.toList_append, String.toList_ofList] at hchars
  obtain ⟨rfl, rfl, hr, hs⟩ := rlpList_inj hrlp (hexEncode_inj (List.append_cancel_left hchars))
  exact ⟨rfl, rfl, BitVec.eq_of_toNat_eq hr, BitVec.eq_of_toNat_eq hs⟩

theorem legacyTx_ok {net : Network} {nonce gasPrice value : ℕ} {toAddress : String} {data : List Byte}
    {tx : LegacyTx} (h : legacyTx net nonce gasPrice toAddress value data = .ok tx) :
    ∃ recipient, parseEvmAddress20Bytes net toAddress = .ok recipient ∧
      tx = { nonce, gasPrice, gasLimit := gasLimit data, recipient, value, data } := by
  unfold legacyTx at h
  split at h
  · cases h
  · rename_i recipient hrecipient
    cases h
    exact ⟨recipient, hrecipient, rfl⟩

/-- **The node reads what the room has written**: the text is a transaction of the account of the room,
on the chain and with the fields it was built from. -/
theorem readRawTx_build {net : Network} (hreads : ReadsLegacy net) {signer : RoomSigner}
    (hsigns : Signs net signer) {chainId nonce gasPrice value : ℕ} {toAddress : String}
    {data : List Byte} {raw : String} (hchain : 2 * chainId + 36 < 2 ^ 64) (hnonce : nonce < 2 ^ 64)
    (hprice : gasPrice < 2 ^ 128) (hvalue : value < 2 ^ 128) (hdata : data.length ≤ net.maxDataLength)
    (hbuild : buildLegacyRawTx net chainId nonce gasPrice toAddress value data signer = .ok raw) :
    ∃ recipient, parseEvmAddress20Bytes net toAddress = .ok recipient ∧
      net.readRawTx raw = some
        { sender := signer.address, chainId
          tx := { nonce, gasPrice, gasLimit := gasLimit data, recipient, value, data } } := by
  unfold buildLegacyRawTx at hbuild
  split at hbuild
  · cases hbuild
  rename_i tx htx
  split at hbuild
  · cases hbuild
  rename_i sig hsig
  cases hbuild
  obtain ⟨recipient, hrecipient, rfl⟩ := legacyTx_ok htx
  refine ⟨recipient, hrecipient, ?_⟩
  obtain ⟨hrecid, hrecover⟩ := hsigns _ sig hsig
  -- no `u64` wraps around, so `v` names the chain
  have hv : signatureV sig.recid chainId = chainId * 2 + 35 + sig.recid.val := by
    rw [signatureV, Nat.mod_eq_of_lt (by omega)]
    omega
  rw [hv]
  refine hreads _ chainId sig.recid.val sig.r sig.s signer.address ⟨hnonce, ?_, ?_, ?_, hdata⟩ hrecid
    hrecover
  · exact hprice.trans (by norm_num)
  · show gasLimit data < 2 ^ 64
    unfold gasLimit
    split_ifs <;> norm_num
  · exact hvalue.trans (by norm_num)

theorem parse_replies {replies : NodeReplies} {chainId nonce gasPrice : ℕ}
    (h : replies.parse = .ok (chainId, nonce, gasPrice)) : nonce < 2 ^ 64 ∧ gasPrice < 2 ^ 128 := by
  unfold NodeReplies.parse at h
  split at h
  · cases h
  split at h
  · cases h
  rename_i nonce' hnonce
  split at h
  · cases h
  rename_i gasPrice' hprice
  obtain ⟨-, rfl, rfl⟩ := Prod.mk.inj (Except.ok.inj h) |>.imp id Prod.mk.inj
  exact ⟨parseReply_lt hnonce, parseReply_lt hprice⟩

/-- **A payout is sent as it was asked for**: what `submit_transfer` hands to the node is read there as a
plain transfer of the amount to the address of the request, from the account of the room, on the chain and
with the nonce the node has named. -/
theorem submitted_transfer_read (net : Network) (hreads : ReadsLegacy net) (signer : RoomSigner)
    (hsigns : Signs net signer) (replies : NodeReplies) (chainId nonce gasPrice : ℕ)
    (hreplies : replies.parse = .ok (chainId, nonce, gasPrice)) (hchain : 2 * chainId + 36 < 2 ^ 64)
    (request : SettlementTransferRequest) (raw : String)
    (hsubmit : submitTransfer net (.ok signer) replies request = .ok raw) :
    ∃ recipient, parseEvmAddress20Bytes net request.toAddress = .ok recipient ∧
      net.readRawTx raw = some
        { sender := signer.address, chainId
          tx := { nonce, gasPrice, gasLimit := 21000, recipient, value := request.amount.asU128,
                  data := [] } } := by
  rw [submitTransfer, hreplies] at hsubmit
  obtain ⟨hnonce, hprice⟩ := parse_replies hreplies
  exact readRawTx_build hreads hsigns hchain hnonce hprice request.amount.lt (Nat.zero_le _) hsubmit

/-- Where the bytes of a list tell its items, some node reads all transactions. -/
theorem exists_readsLegacy (net : Network) (hrlp : RlpInjective net) :
    ∃ readRawTx, ReadsLegacy { net with readRawTx } := by
  classical
  -- the node finds the only transaction with this text
  let Reads : String → SignedTx → Prop := fun raw signed => ∃ parity r s, parity < 2 ∧
    net.recover (net.keccak256 (signed.tx.signingPayload net signed.chainId)) r s parity =
      some signed.sender ∧ raw = signed.tx.raw net (signed.chainId * 2 + 35 + parity) r s
  have hunique : ∀ {raw signed signed'}, Reads raw signed → Reads raw signed' → signed' = signed := by
    rintro _ ⟨sender, chainId, tx⟩ ⟨sender', chainId', tx'⟩ ⟨parity, r, s, hparity, hrecover, rfl⟩
      ⟨parity', r', s', hparity', hrecover', hraw⟩
    dsimp only at hraw hrecover hrecover'
    obtain ⟨rfl, hv, rfl, rfl⟩ := LegacyTx.raw_inj hrlp hraw
    obtain ⟨rfl, rfl⟩ : chainId = chainId' ∧ parity = parity' := by omega
    rw [Option.some.inj (hrecover.symm.trans hrecover')]
  refine ⟨fun raw => if h : ∃ signed, Reads raw signed then some h.choose else none, ?_⟩
  intro tx chainId parity r s sender _ hparity hrecover
  have hread : Reads (tx.raw net (chainId * 2 + 35 + parity) r s) ⟨sender, chainId, tx⟩ :=
    ⟨parity, r, s, hparity, hrecover, rfl⟩
  have hreads : ∃ signed, Reads (tx.raw net (chainId * 2 + 35 + parity) r s) signed := ⟨_, hread⟩
  exact (dif_pos hreads).trans (congrArg some (hunique hread hreads.choose_spec))

/-! ### A network of one account -/

/-- A number as bytes, the last one first. -/
def natBytes (n : ℕ) : List Byte := (Nat.digits 256 n).map (Fin.ofNat 256)

theorem ofDigits_natBytes (n : ℕ) : Nat.ofDigits 256 ((natBytes n).map Fin.val) = n := by
  have hdigits : (natBytes n).map Fin.val = Nat.digits 256 n := by
    rw [natBytes, List.map_map]
    refine (List.map_congr_left fun d hd => ?_).trans (List.map_id _)
    exact Nat.mod_eq_of_lt (Nat.digits_lt_base (by decide) hd)
  rw [hdigits, Nat.ofDigits_digits]

theorem natBytes_inj {m n : ℕ} (h : natBytes m = natBytes n) : m = n := by
  rw [← ofDigits_natBytes m, h, ofDigits_natBytes]

def RlpItem.toSum : RlpItem → ℕ ⊕ List Byte
  | .uint n => .inl n
  | .bytes b => .inr b

theorem RlpItem.toSum_injective : Function.Injective RlpItem.toSum := by
  rintro (m | b) (n | c) h <;> cases h <;> rfl

/-- A network with one account, whose signatures name the hash they are of. Lists are written as one
number each. -/
def oneAccount : Network where
  toChainCodec := tinyCodec
  rlpList items := natBytes (Encodable.encode (items.map RlpItem.toSum))
  recover digest r s parity := if r = digest ∧ s = 1 ∧ parity = 0 then some 5 else none
  hexErrorText _ := "Invalid character"
  maxDataLength := 131072
  readRawTx _ := none

theorem oneAccount_rlpInjective : RlpInjective oneAccount := fun _ _ _ h =>
  List.map_injective_iff.2 RlpItem.toSum_injective (Encodable.encode_injective (natBytes_inj h))

def accountFive : RoomSigner where
  address := 5
  signPrehashRecoverable digest := .ok ⟨digest, 1, 0⟩

theorem accountFive_signs {net : Network} (hnet : net.recover = oneAccount.recover) :
    Signs net accountFive := by
  rintro digest sig ⟨⟩
  rw [hnet]
  exact ⟨Nat.zero_lt_two, if_pos ⟨rfl, rfl, rfl⟩⟩

/-- The fourth transaction on chain 1. -/
def fourthReply : NodeReplies where
  chainId := .ok "0x1"
  transactionCount := .ok "0x3"
  gasPrice := .ok "0x3b9aca00"

def seatPayout : SettlementTransferRequest where
  roomId := ⟨1⟩
  handId := ⟨2⟩
  toSeatId := 0
  toAddress := "0x00000000000000000000000000000000000000aB"
  amount := .ofU128 1000

theorem seatPayout_read : ∃ net raw recipient,
    submitTransfer net (.ok accountFive) fourthReply seatPayout = .ok raw ∧
    parseEvmAddress20Bytes net seatPayout.toAddress = .ok recipient ∧
    net.readRawTx raw = some
      { sender := 5, chainId := 1
        tx := { nonce := 3, gasPrice := 1000000000, gasLimit := 21000, recipient,
                value := seatPayout.amount.asU128, data := [] } } := by
  obtain ⟨readRawTx, hreads⟩ := exists_readsLegacy oneAccount oneAccount_rlpInjective
  obtain ⟨raw, hraw⟩ : ∃ raw, submitTransfer { oneAccount with readRawTx } (.ok accountFive) fourthReply
      seatPayout = .ok raw := ⟨_, rfl⟩
  obtain ⟨recipient, hrecipient, hread⟩ := submitted_transfer_read _ hreads accountFive
    (accountFive_signs rfl) fourthReply 1 3 1000000000 (by decide +kernel) (by decide) seatPayout raw hraw
  exact ⟨_, raw, recipient, hraw, hrecipient, hread⟩

/-- **A signature is of one call on one chain**: two calls of `build_legacy_raw_tx` sign the same bytes
exactly if they are for the same chain and agree in all their arguments, up to the spelling of the
address. -/
theorem signed_bytes_determine (net : Network) (hrlp : RlpInjective net) (chainId chainId' nonce nonce'
    gasPrice gasPrice' value value' : ℕ) (toAddress toAddress' : String) (data data' : List Byte)
    (tx tx' : LegacyTx) (htx : legacyTx net nonce gasPrice toAddress value data = .ok tx)
    (htx' : legacyTx net nonce' gasPrice' toAddress' value' data' = .ok tx') :
    tx.signingPayload net chainId = tx'.signingPayload net chainId' ↔
      chainId = chainId' ∧ nonce = nonce' ∧ gasPrice = gasPrice' ∧
        parseEvmAddress20Bytes net toAddress = parseEvmAddress20Bytes net toAddress' ∧
        value = value' ∧ data = data' := by
  obtain ⟨recipient, hrecipient, rfl⟩ := legacyTx_ok htx
  obtain ⟨recipient', hrecipient', rfl⟩ := legacyTx_ok htx'
  rw [hrecipient, hrecipient', Except.ok.injEq]
  constructor
  · intro heq
    obtain ⟨hfields, hchain, -⟩ := LegacyTx.rlpList_inj hrlp heq
    obtain ⟨hnonce, hprice, -, haddress, hvalue, hdata⟩ := LegacyTx.mk.inj hfields
    exact ⟨hchain, hnonce, hprice, haddress, hvalue, hdata⟩
  · rintro ⟨rfl, rfl, rfl, rfl, rfl, rfl⟩
    rfl

/-- The payout is signed once for every chain, however its address is spelled. -/
theorem seatPayout_per_chain : ∃ tx tx',
    legacyTx oneAccount 3 1 "0x00000000000000000000000000000000000000aB" 1000 [] = .ok tx ∧
    legacyTx oneAccount 3 1 "00000000000000000000000000000000000000AB" 1000 [] = .ok tx' ∧
    tx.signingPayload oneAccount 1 = tx'.signingPayload oneAccount 1 ∧
    tx.signingPayload oneAccount 1 ≠ tx'.signingPayload oneAccount 5 := by
  obtain ⟨tx, htx⟩ : ∃ tx, legacyTx oneAccount 3 1 "0x00000000000000000000000000000000000000aB" 1000 [] =
      .ok tx := ⟨_, rfl⟩
  obtain ⟨tx', htx'⟩ : ∃ tx, legacyTx oneAccount 3 1 "00000000000000000000000000000000000000AB" 1000 [] =
      .ok tx := ⟨_, rfl⟩
  have hiff := fun chainId chainId' => signed_bytes_determine oneAccount oneAccount_rlpInjective chainId
    chainId' 3 3 1 1 1000 1000 _ _ [] [] tx tx' htx htx'
  have hspelled : parseEvmAddress20Bytes oneAccount "0x00000000000000000000000000000000000000aB" =
      parseEvmAddress20Bytes oneAccount "00000000000000000000000000000000000000AB" := by
    decide +kernel
  refine ⟨tx, tx', htx, htx', (hiff 1 1).2 ⟨rfl, rfl, rfl, hspelled, rfl, rfl⟩, fun heq => ?_⟩
  exact absurd ((hiff 1 5).1 heq).1 (by decide)

end HoldemPlatform.Contract.RawTransaction
