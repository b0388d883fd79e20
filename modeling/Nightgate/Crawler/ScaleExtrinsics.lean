import Nightgate.Library.ByteGrammar
import Nightgate.Submission.LandedRows
import Nightgate.Submission.PublicClaims

/-!
# SCALE extrinsics

The pallet and the call of an extrinsic are read from its bytes, past a length, a version and, when
it is signed, its signer, signature, era, nonce and tip. What these look like is a grammar; the
parser finds an extrinsic exactly when the bytes start with one.
-/

namespace Nightgate.Crawler

open Library Nightgate.Submission

/-- `Number.MAX_SAFE_INTEGER`. -/
def MAX_SAFE_INTEGER : Nat := 2 ^ 53 - 1

/-- The value of a compact integer and the bytes read, or nothing if the buffer is too short. -/
def decodeCompactBigInt (buf : List UInt8) (offset : Nat) : Parse (Nat × Nat) := do
  require (offset < buf.length)
  let first ← byteAt buf offset
  match first.toNat % 4 with
  | 0 => pure (first.toNat / 4, 1)
  | 1 => do
      require (offset + 1 < buf.length)
      let word ← readUIntLE buf offset 2
      pure (word / 4, 2)
  | 2 => do
      require (offset + 3 < buf.length)
      let word ← readUIntLE buf offset 4
      pure (word / 4, 4)
  | _ => do
      -- Big-integer mode: the next (first byte / 4) + 4 bytes, little-endian.
      let byteLength := first.toNat / 4 + 4
      require (offset + 1 + byteLength ≤ buf.length)
      let value ← readUIntLE buf (offset + 1) byteLength
      pure (value, 1 + byteLength)

/-- Values too large for a number become 0. -/
def asNumber (value : Nat) : Nat := if MAX_SAFE_INTEGER < value then 0 else value

def decodeCompact (buf : List UInt8) (offset : Nat) : Parse (Nat × Nat) := do
  let decoded ← decodeCompactBigInt buf offset
  pure (asNumber decoded.1, decoded.2)

/-- A compact integer at the offset, which moves behind it. -/
def nextCompactBigInt : Parser Nat := fun buf offset => do
  let decoded ← decodeCompactBigInt buf offset
  pure (decoded.1, offset + decoded.2)

def nextCompact : Parser Nat := fun buf offset => do
  let decoded ← decodeCompact buf offset
  pure (decoded.1, offset + decoded.2)

def hexAddress (bytes : List UInt8) : String := "0x" ++ bytesToHex bytes

def parseAddress : Parser String := do
  let type ← nextByte
  if type = 0x00 ∨ type = 0xff ∨ type = 0x03 then do
    let bytes ← nextBytes 32
    pure (hexAddress bytes)
  else if type = 0x04 then do
    let bytes ← nextBytes 20
    pure (hexAddress bytes)
  else if type = 0x01 then do
    let index ← nextCompactBigInt
    pure ("index:" ++ toString index)
  else if type = 0x02 then do
    let len ← nextCompactBigInt
    if MAX_SAFE_INTEGER < len then unparsed
    else do
      let bytes ← nextBytes len
      pure (hexAddress bytes)
  else unparsed

/-- Ed25519 and Sr25519 signatures are 64 bytes, ECDSA 65. -/
def skipSignature : Parser (UInt8 × List UInt8) := do
  let sigType ← nextByte
  if sigType ≠ 0x00 ∧ sigType ≠ 0x01 ∧ sigType ≠ 0x02 then unparsed
  else do
    let signature ← nextBytes (if sigType = 0x02 then 65 else 64)
    pure (sigType, signature)

/-- One byte for an immortal era, two for a mortal one. -/
def skipEra : Parser (List UInt8) := do
  let first ← nextByte
  if first = 0x00 then pure [first]
  else do
    let second ← nextByte
    pure [first, second]

/-- What a signed extrinsic has before its call; only the signer is kept. -/
def parseSigner : Parser String := do
  let signer ← parseAddress
  let _signature ← skipSignature
  let _era ← skipEra
  let _nonce ← nextCompact
  let _tip ← nextCompact
  pure signer

structure ParsedExtrinsicCore where
  buf : List UInt8
  isSigned : Bool
  palletIndex : UInt8
  callIndex : UInt8
  argsOffset : Nat
  senderAddress : Option String

/-- The fields before the call arguments: version, signer, pallet and call. -/
structure ExtrinsicHead where
  isSigned : Bool
  senderAddress : Option String
  palletIndex : UInt8
  callIndex : UInt8

/-- `(version & 0x80) !== 0`. -/
def isSignedVersion (version : UInt8) : Bool := 0x80 ≤ version.toNat

/-- An unsigned extrinsic has no signer. -/
def parseSender (version : UInt8) : Parser (Option String) :=
  if isSignedVersion version then do
    let signer ← parseSigner
    pure (some signer)
  else pure none

def parseHead : Parser ExtrinsicHead := do
  let _length ← nextCompact
  let version ← nextByte
  let senderAddress ← parseSender version
  let palletIndex ← nextByte
  let callIndex ← nextByte
  pure ⟨isSignedVersion version, senderAddress, palletIndex, callIndex⟩

/-- The call arguments start behind the head. -/
def ExtrinsicHead.core (head : ExtrinsicHead) (buf : List UInt8) (argsOffset : Nat) :
    ParsedExtrinsicCore where
  buf := buf
  isSigned := head.isSigned
  palletIndex := head.palletIndex
  callIndex := head.callIndex
  argsOffset := argsOffset
  senderAddress := head.senderAddress

/-- `parseExtrinsicCore`, from the bytes on. -/
def parseExtrinsicBytes (buf : List UInt8) : Parse ParsedExtrinsicCore := do
  require (4 ≤ buf.length)
  let head ← parseHead buf 0
  pure (head.1.core buf head.2)

def parseExtrinsicCore (hex : String) : Parse ParsedExtrinsicCore := do
  require (8 ≤ utf16Length hex)
  let cleanHex := bareHex hex
  require (8 ≤ utf16Length cleanHex)
  parseExtrinsicBytes (hexBytes cleanHex.toList)

/-! ## The grammar -/

/-- A compact integer in one of its four modes. -/
inductive CompactCode where
  | one (value : Nat) (small : value < 2 ^ 6)
  | two (value : Nat) (small : value < 2 ^ 14)
  | four (value : Nat) (small : value < 2 ^ 30)
  | big (digits : List UInt8) (least : 4 ≤ digits.length) (most : digits.length ≤ 67)

namespace CompactCode

def value : CompactCode → Nat
  | one value _ | two value _ | four value _ => value
  | big digits _ _ => ofBytesLE digits

def bytes : CompactCode → List UInt8
  | one value _ => [UInt8.ofNat (4 * value)]
  | two value _ => toBytesLE 2 (4 * value + 1)
  | four value _ => toBytesLE 4 (4 * value + 2)
  | big digits _ _ => UInt8.ofNat (4 * (digits.length - 4) + 3) :: digits

/-- The bytes a large value needs. -/
def byteCount (value : Nat) : Nat := Nat.log 256 value + 1

/-- The shortest code of a value. -/
def ofValue (value : Nat) (bounded : value < 256 ^ 67) : CompactCode :=
  if one : value < 2 ^ 6 then .one value one
  else if two : value < 2 ^ 14 then .two value two
  else if four : value < 2 ^ 30 then .four value four
  else .big (toBytesLE (byteCount value) value) (by
      have least : 3 ≤ Nat.log 256 value := Nat.le_log_of_pow_le (by decide) (by omega)
      rw [toBytesLE_length, byteCount]
      omega)
    (by
      have most : Nat.log 256 value < 67 := by
        apply Nat.log_lt_of_lt_pow (by omega)
        exact bounded
      rw [toBytesLE_length, byteCount]
      omega)

theorem value_ofValue {value : Nat} (bounded : value < 256 ^ 67) :
    (ofValue value bounded).value = value := by
  rw [ofValue]
  split
  · rfl
  · split
    · rfl
    · split
      · rfl
      · exact ofBytesLE_toBytesLE (Nat.lt_pow_succ_log_self (by decide) value)

end CompactCode

/-- A signer in one of the listed forms. -/
inductive AddressCode where
  /-- `MultiAddress::Id`, `Address32` and a variant of the runtime. -/
  | account (type : UInt8) (listed : type = 0x00 ∨ type = 0xff ∨ type = 0x03)
      (bytes : List UInt8) (size : bytes.length = 32)
  | address20 (bytes : List UInt8) (size : bytes.length = 20)
  | index (code : CompactCode)
  | raw (length : CompactCode) (safe : length.value ≤ MAX_SAFE_INTEGER) (bytes : List UInt8)
      (size : bytes.length = length.value)

namespace AddressCode

def bytes : AddressCode → List UInt8
  | .account type _ bytes _ => type :: bytes
  | .address20 bytes _ => 0x04 :: bytes
  | .index code => 0x01 :: code.bytes
  | .raw length _ bytes _ => 0x02 :: (length.bytes ++ bytes)

/-- How the signer is written in the index. -/
def text : AddressCode → String
  | .account _ _ bytes _ | .address20 bytes _ | .raw _ _ bytes _ => hexAddress bytes
  | .index code => "index:" ++ toString code.value

end AddressCode

inductive SignatureCode where
  | ed25519 (bytes : List UInt8) (size : bytes.length = 64)
  | sr25519 (bytes : List UInt8) (size : bytes.length = 64)
  | ecdsa (bytes : List UInt8) (size : bytes.length = 65)

def SignatureCode.bytes : SignatureCode → List UInt8
  | ed25519 bytes _ => 0x00 :: bytes
  | sr25519 bytes _ => 0x01 :: bytes
  | ecdsa bytes _ => 0x02 :: bytes

/-- The type byte, and the signature. -/
def SignatureCode.parts : SignatureCode → UInt8 × List UInt8
  | ed25519 bytes _ => (0x00, bytes)
  | sr25519 bytes _ => (0x01, bytes)
  | ecdsa bytes _ => (0x02, bytes)

inductive EraCode where
  | immortal
  | mortal (first second : UInt8) (given : first ≠ 0x00)

def EraCode.bytes : EraCode → List UInt8
  | immortal => [0x00]
  | mortal first second _ => [first, second]

/-- What a signed extrinsic has between its version and its call. -/
structure SignedCode where
  signer : AddressCode
  signature : SignatureCode
  era : EraCode
  nonce : CompactCode
  tip : CompactCode

def SignedCode.bytes (signed : SignedCode) : List UInt8 :=
  signed.signer.bytes ++ (signed.signature.bytes ++ (signed.era.bytes ++
    (signed.nonce.bytes ++ signed.tip.bytes)))

/-- An extrinsic up to its call; the version tells whether it is signed. -/
structure ExtrinsicCode where
  length : CompactCode
  version : UInt8
  signed : Option SignedCode
  marked : signed.isSome = isSignedVersion version
  palletIndex : UInt8
  callIndex : UInt8

namespace ExtrinsicCode

def bytes (extrinsic : ExtrinsicCode) : List UInt8 :=
  extrinsic.length.bytes ++ (extrinsic.version ::
    ((extrinsic.signed.map SignedCode.bytes).getD [] ++
      [extrinsic.palletIndex, extrinsic.callIndex]))

def head (extrinsic : ExtrinsicCode) : ExtrinsicHead where
  isSigned := isSignedVersion extrinsic.version
  senderAddress := extrinsic.signed.map fun signed => signed.signer.text
  palletIndex := extrinsic.palletIndex
  callIndex := extrinsic.callIndex

/-- What the parser is to find in bytes that start with the extrinsic. -/
def core (extrinsic : ExtrinsicCode) (buf : List UInt8) : ParsedExtrinsicCore where
  buf := buf
  isSigned := extrinsic.signed.isSome
  palletIndex := extrinsic.palletIndex
  callIndex := extrinsic.callIndex
  argsOffset := extrinsic.bytes.length
  senderAddress := extrinsic.signed.map fun signed => signed.signer.text

theorem core_eq (extrinsic : ExtrinsicCode) (buf : List UInt8) :
    extrinsic.core buf = extrinsic.head.core buf extrinsic.bytes.length := by
  rw [core, extrinsic.marked]
  rfl

end ExtrinsicCode

/-! ## Compact integers -/

section Compact

variable {buf : List UInt8} {offset : Nat}

theorem head_of_stands {first : UInt8} {rest : List UInt8}
    (stands : first :: rest <+: buf.drop offset) : buf[offset]? = some first := by
  obtain ⟨after, isAfter⟩ := stands
  rw [← List.head?_drop, ← isAfter]
  rfl

theorem tail_of_stands {first : UInt8} {rest : List UInt8}
    (stands : first :: rest <+: buf.drop offset) : rest <+: buf.drop (offset + 1) := by
  rw [← List.singleton_append, append_prefix_drop] at stands
  exact stands.2

theorem length_of_code {code : List UInt8} (some : code ≠ []) (stands : code <+: buf.drop offset) :
    offset + code.length ≤ buf.length := by
  have fits := stands.length_le
  rw [List.length_drop] at fits
  have positive := List.length_pos_iff.mpr some
  omega

/-- The reads of a compact integer whose first byte has a mode. -/
theorem decodeCompactBigInt_run {first : UInt8} {rest : List UInt8}
    (stands : first :: rest <+: buf.drop offset) :
    (decodeCompactBigInt buf offset).run = (match first.toNat % 4 with
      | 0 => pure (first.toNat / 4, 1)
      | 1 => do
          require (offset + 1 < buf.length)
          let word ← readUIntLE buf offset 2
          pure (word / 4, 2)
      | 2 => do
          require (offset + 3 < buf.length)
          let word ← readUIntLE buf offset 4
          pure (word / 4, 4)
      | _ => do
          let byteLength := first.toNat / 4 + 4
          require (offset + 1 + byteLength ≤ buf.length)
          let value ← readUIntLE buf (offset + 1) byteLength
          pure (value, 1 + byteLength) : Parse (Nat × Nat)).run := by
  have within := length_of_code (List.cons_ne_nil first rest) stands
  rw [List.length_cons] at within
  rw [decodeCompactBigInt, run_bind_some (run_require (by omega)),
    run_bind_some (run_byteAt (head_of_stands stands))]

theorem decodeCompactBigInt_complete (compact : CompactCode)
    (stands : compact.bytes <+: buf.drop offset) :
    (decodeCompactBigInt buf offset).run = .ok (some (compact.value, compact.bytes.length)) := by
  cases compact with
  | one value small =>
    have isFirst : (UInt8.ofNat (4 * value)).toNat = 4 * value := by
      rw [UInt8.toNat_ofNat']
      omega
    have mode : 4 * value % 4 = 0 := Nat.mul_mod_right 4 value
    have isValue : 4 * value / 4 = value := Nat.mul_div_cancel_left value (by decide)
    rw [decodeCompactBigInt_run stands, isFirst, mode, isValue]
    rfl
  | two value small =>
    have within := length_of_code (by simp [CompactCode.bytes, toBytesLE]) stands
    have word := run_readUIntLE stands
    simp only [CompactCode.bytes, toBytesLE_length] at within word
    rw [ofBytesLE_toBytesLE (by omega)] at word
    have isValue : (4 * value + 1) / 4 = value := by omega
    have mode : (UInt8.ofNat ((4 * value + 1) % 256)).toNat % 4 = 1 := by
      rw [UInt8.toNat_ofNat']
      omega
    have enough : offset + 1 < buf.length := by omega
    rw [decodeCompactBigInt_run stands, mode]
    refine (run_bind_some (run_require enough)).trans ((run_bind_some word).trans ?_)
    rw [isValue]
    rfl
  | four value small =>
    have within := length_of_code (by simp [CompactCode.bytes, toBytesLE]) stands
    have word := run_readUIntLE stands
    simp only [CompactCode.bytes, toBytesLE_length] at within word
    rw [ofBytesLE_toBytesLE (by omega)] at word
    have isValue : (4 * value + 2) / 4 = value := by omega
    have mode : (UInt8.ofNat ((4 * value + 2) % 256)).toNat % 4 = 2 := by
      rw [UInt8.toNat_ofNat']
      omega
    have enough : offset + 3 < buf.length := by omega
    rw [decodeCompactBigInt_run stands, mode]
    refine (run_bind_some (run_require enough)).trans ((run_bind_some word).trans ?_)
    rw [isValue]
    rfl
  | big digits least most =>
    have within := length_of_code (by simp [CompactCode.bytes]) stands
    have value := run_readUIntLE (tail_of_stands stands)
    simp only [CompactCode.bytes, List.length_cons] at within
    have isFirst : (UInt8.ofNat (4 * (digits.length - 4) + 3)).toNat =
        4 * (digits.length - 4) + 3 := by
      rw [UInt8.toNat_ofNat']
      omega
    have mode : (4 * (digits.length - 4) + 3) % 4 = 3 := by omega
    have isLength : (4 * (digits.length - 4) + 3) / 4 + 4 = digits.length := by omega
    have enough : offset + 1 + digits.length ≤ buf.length := by omega
    rw [← isLength] at enough value
    rw [decodeCompactBigInt_run stands, isFirst, mode]
    refine (run_bind_some (run_require enough)).trans ((run_bind_some value).trans ?_)
    rw [isLength, Nat.add_comm]
    rfl

/-- Enough bytes behind the first. -/
theorem exists_stands {first : UInt8} (count : Nat) (here : buf[offset]? = some first)
    (within : offset + 1 + count ≤ buf.length) :
    ∃ rest, first :: rest <+: buf.drop offset ∧ rest.length = count := by
  obtain ⟨inside, isFirst⟩ := List.getElem?_eq_some_iff.mp here
  refine ⟨(buf.drop (offset + 1)).take count, ?_, ?_⟩
  · rw [List.drop_eq_getElem_cons inside, isFirst, List.cons_prefix_cons]
    exact ⟨rfl, List.take_prefix _ _⟩
  · rw [List.length_take, List.length_drop]
    omega

/-- What is decoded stands there as the code of a compact integer. -/
theorem decodeCompactBigInt_sound (buf : List UInt8) (offset : Nat) :
    (decodeCompactBigInt buf offset).run = .ok none ∨
      ∃ compact : CompactCode, compact.bytes <+: buf.drop offset := by
  by_cases inside : offset < buf.length
  case neg =>
    apply Or.inl
    rw [decodeCompactBigInt]
    exact run_bind_none (run_require_not inside)
  case pos =>
    have here : buf[offset]? = some buf[offset] := List.getElem?_eq_getElem inside
    set first := buf[offset]
    obtain ⟨_, stands, isNil⟩ := exists_stands 0 here (by omega)
    rw [List.length_eq_zero_iff] at isNil
    subst isNil
    have small := first.toNat_lt
    have modes : first.toNat % 4 = 0 ∨ first.toNat % 4 = 1 ∨ first.toNat % 4 = 2 ∨
        first.toNat % 4 = 3 := by omega
    rcases modes with mode | mode | mode | mode
    · refine Or.inr ⟨.one (first.toNat / 4) (by omega), ?_⟩
      have isFirst : 4 * (first.toNat / 4) = first.toNat := by omega
      rw [CompactCode.bytes, isFirst, UInt8.ofNat_toNat]
      exact stands
    · by_cases enough : offset + 1 < buf.length
      case neg =>
        apply Or.inl
        rw [decodeCompactBigInt_run stands, mode]
        exact run_bind_none (run_require_not enough)
      case pos =>
        obtain ⟨rest, standsAll, isRest⟩ := exists_stands 1 here (by omega)
        have bound := ofBytesLE_lt (first :: rest)
        have restored := toBytesLE_ofBytesLE (first :: rest)
        rw [List.length_cons, isRest] at bound restored
        have isWord : 4 * (ofBytesLE (first :: rest) / 4) + 1 = ofBytesLE (first :: rest) := by
          rw [ofBytesLE_cons]
          omega
        refine Or.inr ⟨.two (ofBytesLE (first :: rest) / 4) (by omega), ?_⟩
        rw [CompactCode.bytes, isWord, restored]
        exact standsAll
    · by_cases enough : offset + 3 < buf.length
      case neg =>
        apply Or.inl
        rw [decodeCompactBigInt_run stands, mode]
        exact run_bind_none (run_require_not enough)
      case pos =>
        obtain ⟨rest, standsAll, isRest⟩ := exists_stands 3 here (by omega)
        have bound := ofBytesLE_lt (first :: rest)
        have restored := toBytesLE_ofBytesLE (first :: rest)
        rw [List.length_cons, isRest] at bound restored
        have isWord : 4 * (ofBytesLE (first :: rest) / 4) + 2 = ofBytesLE (first :: rest) := by
          rw [ofBytesLE_cons]
          omega
        refine Or.inr ⟨.four (ofBytesLE (first :: rest) / 4) (by omega), ?_⟩
        rw [CompactCode.bytes, isWord, restored]
        exact standsAll
    · by_cases enough : offset + 1 + (first.toNat / 4 + 4) ≤ buf.length
      case neg =>
        apply Or.inl
        rw [decodeCompactBigInt_run stands, mode]
        exact run_bind_none (run_require_not enough)
      case pos =>
        obtain ⟨rest, standsAll, isRest⟩ := exists_stands _ here enough
        refine Or.inr ⟨.big rest (by omega) (by omega), ?_⟩
        have isFirst : 4 * (rest.length - 4) + 3 = first.toNat := by omega
        rw [CompactCode.bytes, isFirst, UInt8.ofNat_toNat]
        exact standsAll

/-- A compact integer is decoded exactly where one stands. -/
theorem decodeCompactBigInt_finds (buf : List UInt8) (offset : Nat) :
    ∃ found, (decodeCompactBigInt buf offset).run = .ok found ∧
      ∀ value consumed, found = some (value, consumed) ↔ ∃ compact : CompactCode,
        compact.bytes <+: buf.drop offset ∧ value = compact.value ∧
          consumed = compact.bytes.length := by
  rcases decodeCompactBigInt_sound buf offset with isNone | ⟨compact, stands⟩
  · refine ⟨none, isNone, fun value consumed => ?_⟩
    constructor
    · nofun
    · rintro ⟨compact, stands, _⟩
      have found := (decodeCompactBigInt_complete compact stands).symm.trans isNone
      cases found
  · refine ⟨_, decodeCompactBigInt_complete compact stands, fun value consumed => ?_⟩
    constructor
    · intro same
      cases same
      exact ⟨compact, stands, rfl, rfl⟩
    · rintro ⟨other, standsOther, rfl, rfl⟩
      have same := (decodeCompactBigInt_complete compact stands).symm.trans
        (decodeCompactBigInt_complete other standsOther)
      rw [Except.ok.injEq] at same
      exact same

theorem nextCompactBigInt_recognizes :
    Recognizes nextCompactBigInt (Coded CompactCode.bytes CompactCode.value) := by
  intro buf offset inside
  obtain ⟨found, decoded, finds⟩ := decodeCompactBigInt_finds buf offset
  cases found with
  | none =>
    refine ⟨none, run_bind_none decoded, fun value next => ?_⟩
    constructor
    · nofun
    · rintro ⟨_, ⟨compact, rfl, _⟩, stands, _⟩
      have impossible := (finds _ _).mpr ⟨compact, stands, rfl, rfl⟩
      cases impossible
  | some pair =>
    refine ⟨some (pair.1, offset + pair.2), run_bind_some decoded, fun value next => ?_⟩
    constructor
    · intro same
      cases same
      obtain ⟨compact, stands, isValue, isLength⟩ := (finds pair.1 pair.2).mp rfl
      exact ⟨compact.bytes, ⟨compact, rfl, isValue.symm⟩, stands, by rw [isLength]⟩
    · rintro ⟨_, ⟨compact, rfl, rfl⟩, stands, rfl⟩
      have same := (finds _ _).mpr ⟨compact, stands, rfl, rfl⟩
      rw [Option.some.injEq] at same
      rw [same]

theorem nextCompact_recognizes :
    Recognizes nextCompact (Coded CompactCode.bytes fun compact => asNumber compact.value) := by
  have isMap : nextCompact = nextCompactBigInt >>= fun value => pure (asNumber value) := by
    funext buf offset
    show (decodeCompact buf offset >>= fun _ => _ : Parse (Nat × Nat)) = _
    rw [decodeCompact, bind_assoc]
    show _ = (nextCompactBigInt buf offset >>= fun _ => _ : Parse (Nat × Nat))
    rw [nextCompactBigInt, bind_assoc]
    rfl
  rw [isMap]
  apply (nextCompactBigInt_recognizes.map asNumber).congr
  intro code value
  constructor
  · rintro ⟨_, ⟨compact, isCode, rfl⟩, rfl⟩
    exact ⟨compact, isCode, rfl⟩
  · rintro ⟨compact, isCode, rfl⟩
    exact ⟨_, ⟨compact, isCode, rfl⟩, rfl⟩

end Compact

theorem parseAddress_recognizes :
    Recognizes parseAddress (Coded AddressCode.bytes AddressCode.text) := by
  have account := (nextBytes_recognizes 32).map hexAddress
  have address20 := (nextBytes_recognizes 20).map hexAddress
  have index := nextCompactBigInt_recognizes.map fun index => "index:" ++ toString index
  have raw := nextCompactBigInt_recognizes.bind fun len =>
    Recognizes.of_unparsed.ite (MAX_SAFE_INTEGER < len) ((nextBytes_recognizes len).map hexAddress)
  apply (nextByte_recognizes.bind fun type =>
    account.ite _ (address20.ite _ (index.ite _ (raw.ite _ Recognizes.of_unparsed)))).congr
  intro code address
  constructor
  · rintro ⟨type, before, after, rfl, found, rfl⟩
    rcases found with ⟨listed, _, ⟨rfl, size⟩, rfl⟩ | ⟨_, found⟩
    · exact ⟨.account type listed after size, rfl, rfl⟩
    rcases found with ⟨rfl, _, ⟨rfl, size⟩, rfl⟩ | ⟨_, found⟩
    · exact ⟨.address20 after size, rfl, rfl⟩
    rcases found with ⟨rfl, _, ⟨compact, rfl, rfl⟩, rfl⟩ | ⟨_, found⟩
    · exact ⟨.index compact, rfl, rfl⟩
    rcases found with ⟨rfl, _, _, rest, ⟨compact, rfl, rfl⟩, found, rfl⟩ | ⟨_, impossible⟩
    · rcases found with ⟨_, impossible⟩ | ⟨safe, _, ⟨rfl, size⟩, rfl⟩
      · exact impossible.elim
      · exact ⟨.raw compact (Nat.not_lt.mp safe) rest size, rfl, rfl⟩
    · exact impossible.elim
  · rintro ⟨object, rfl, rfl⟩
    cases object with
    | account type listed bytes size =>
      exact ⟨type, [type], bytes, rfl, .inl ⟨listed, bytes, ⟨rfl, size⟩, rfl⟩, rfl⟩
    | address20 bytes size =>
      exact ⟨0x04, [0x04], bytes, rfl, .inr ⟨by decide, .inl ⟨rfl, bytes, ⟨rfl, size⟩, rfl⟩⟩,
        rfl⟩
    | index compact =>
      exact ⟨0x01, [0x01], compact.bytes, rfl, .inr ⟨by decide, .inr ⟨by decide, .inl ⟨rfl,
        compact.value, ⟨compact, rfl, rfl⟩, rfl⟩⟩⟩, rfl⟩
    | raw length safe bytes size =>
      exact ⟨0x02, [0x02], length.bytes ++ bytes, rfl, .inr ⟨by decide, .inr ⟨by decide,
        .inr ⟨by decide, .inl ⟨rfl, length.value, length.bytes, bytes, ⟨length, rfl, rfl⟩,
          .inr ⟨Nat.not_lt.mpr safe, bytes, ⟨rfl, size⟩, rfl⟩, rfl⟩⟩⟩⟩, rfl⟩

theorem skipSignature_recognizes :
    Recognizes skipSignature (Coded SignatureCode.bytes SignatureCode.parts) := by
  have signature (sigType : UInt8) :=
    (nextBytes_recognizes (if sigType = 0x02 then 65 else 64)).map fun bytes => (sigType, bytes)
  apply (nextByte_recognizes.bind fun sigType =>
    Recognizes.of_unparsed.ite (sigType ≠ 0x00 ∧ sigType ≠ 0x01 ∧ sigType ≠ 0x02)
      (signature sigType)).congr
  intro code parts
  constructor
  · rintro ⟨sigType, before, after, rfl, found, rfl⟩
    rcases found with ⟨_, impossible⟩ | ⟨listed, _, ⟨rfl, size⟩, rfl⟩
    · exact impossible.elim
    by_cases isEcdsa : sigType = 0x02
    case pos =>
      subst isEcdsa
      exact ⟨.ecdsa after size, rfl, rfl⟩
    case neg =>
      rw [if_neg isEcdsa] at size
      by_cases isEd25519 : sigType = 0x00
      case pos =>
        subst isEd25519
        exact ⟨.ed25519 after size, rfl, rfl⟩
      case neg =>
        have isSr25519 : sigType = 0x01 := by
          by_contra isOther
          exact listed ⟨isEd25519, isOther, isEcdsa⟩
        subst isSr25519
        exact ⟨.sr25519 after size, rfl, rfl⟩
  · rintro ⟨object, rfl, rfl⟩
    cases object with
    | ed25519 bytes size =>
      exact ⟨0x00, [0x00], bytes, rfl, .inr ⟨by decide, bytes, ⟨rfl, size⟩, rfl⟩, rfl⟩
    | sr25519 bytes size =>
      exact ⟨0x01, [0x01], bytes, rfl, .inr ⟨by decide, bytes, ⟨rfl, size⟩, rfl⟩, rfl⟩
    | ecdsa bytes size =>
      exact ⟨0x02, [0x02], bytes, rfl, .inr ⟨by decide, bytes, ⟨rfl, size⟩, rfl⟩, rfl⟩

theorem skipEra_recognizes : Recognizes skipEra (Coded EraCode.bytes EraCode.bytes) := by
  have mortal (first : UInt8) := nextByte_recognizes.map fun second => [first, second]
  apply (nextByte_recognizes.bind fun first =>
    (Recognizes.of_pure [first]).ite (first = 0x00) (mortal first)).congr
  intro code era
  constructor
  · rintro ⟨first, before, after, rfl, found, rfl⟩
    rcases found with ⟨rfl, rfl, rfl⟩ | ⟨given, second, rfl, rfl⟩
    · exact ⟨.immortal, rfl, rfl⟩
    · exact ⟨.mortal first second given, rfl, rfl⟩
  · rintro ⟨object, rfl, rfl⟩
    cases object with
    | immortal => exact ⟨0x00, [0x00], [], rfl, .inl ⟨rfl, rfl, rfl⟩, rfl⟩
    | mortal first second given =>
      exact ⟨first, [first], [second], rfl, .inr ⟨given, second, rfl, rfl⟩, rfl⟩

theorem parseSigner_recognizes :
    Recognizes parseSigner (Coded SignedCode.bytes fun signed => signed.signer.text) := by
  apply (parseAddress_recognizes.bind fun signer => skipSignature_recognizes.bind fun _ =>
    skipEra_recognizes.bind fun _ => nextCompact_recognizes.bind fun _ =>
      nextCompact_recognizes.map fun _ => signer).congr
  intro code text
  constructor
  · rintro ⟨_, _, _, ⟨signer, rfl, rfl⟩, ⟨_, _, _, ⟨signature, rfl, rfl⟩, ⟨_, _, _, ⟨era, rfl, rfl⟩,
      ⟨_, _, _, ⟨nonce, rfl, rfl⟩, ⟨_, ⟨tip, rfl, rfl⟩, rfl⟩, rfl⟩, rfl⟩, rfl⟩, rfl⟩
    exact ⟨⟨signer, signature, era, nonce, tip⟩, rfl, rfl⟩
  · rintro ⟨signed, rfl, rfl⟩
    exact ⟨_, _, _, ⟨signed.signer, rfl, rfl⟩, ⟨_, _, _, ⟨signed.signature, rfl, rfl⟩,
      ⟨_, _, _, ⟨signed.era, rfl, rfl⟩, ⟨_, _, _, ⟨signed.nonce, rfl, rfl⟩,
        ⟨_, ⟨signed.tip, rfl, rfl⟩, rfl⟩, rfl⟩, rfl⟩, rfl⟩, rfl⟩

theorem parseHead_recognizes :
    Recognizes parseHead (Coded ExtrinsicCode.bytes ExtrinsicCode.head) := by
  have sender (version : UInt8) : Recognizes (parseSender version) _ :=
    (parseSigner_recognizes.map some).ite (isSignedVersion version) (Recognizes.of_pure none)
  apply (nextCompact_recognizes.bind fun _ => nextByte_recognizes.bind fun version =>
    (sender version).bind fun senderAddress => nextByte_recognizes.bind fun palletIndex =>
      nextByte_recognizes.map fun callIndex =>
        ExtrinsicHead.mk (isSignedVersion version) senderAddress palletIndex callIndex).congr
  intro code head
  constructor
  · rintro ⟨_, _, _, ⟨length, rfl, rfl⟩, ⟨version, _, _, rfl, ⟨senderAddress, _, _, found,
      ⟨palletIndex, _, _, rfl, ⟨callIndex, rfl, rfl⟩, rfl⟩, rfl⟩, rfl⟩, rfl⟩
    rcases found with ⟨isSigned, _, ⟨signed, rfl, rfl⟩, rfl⟩ | ⟨isUnsigned, rfl, rfl⟩
    · exact ⟨⟨length, version, some signed, isSigned.symm, palletIndex, callIndex⟩, rfl, rfl⟩
    · rw [Bool.not_eq_true] at isUnsigned
      exact ⟨⟨length, version, none, isUnsigned.symm, palletIndex, callIndex⟩, rfl, rfl⟩
  · rintro ⟨⟨length, version, signed, marked, palletIndex, callIndex⟩, rfl, rfl⟩
    refine ⟨_, _, _, ⟨length, rfl, rfl⟩, ⟨version, _, _, rfl,
      ⟨signed.map fun signed => signed.signer.text, (signed.map SignedCode.bytes).getD [], _, ?_,
        ⟨palletIndex, _, _, rfl, ⟨callIndex, rfl, rfl⟩, rfl⟩, rfl⟩, rfl⟩, ?_⟩
    · cases signed with
      | none => exact .inr ⟨by rw [← marked]; decide, rfl, rfl⟩
      | some signed => exact .inl ⟨by rw [← marked]; rfl, _, ⟨signed, rfl, rfl⟩, rfl⟩
    · rfl

/-! ## Extrinsics -/

theorem CompactCode.length_pos (compact : CompactCode) : 0 < compact.bytes.length := by
  cases compact with
  | one => exact Nat.one_pos
  | two => exact Nat.two_pos
  | four => exact Nat.zero_lt_succ 3
  | big => exact Nat.zero_lt_succ _

theorem ExtrinsicCode.length_least (extrinsic : ExtrinsicCode) : 4 ≤ extrinsic.bytes.length := by
  have positive := extrinsic.length.length_pos
  simp only [ExtrinsicCode.bytes, List.length_append, List.length_cons, List.length_nil]
  omega

/-- An extrinsic is found exactly when the bytes start with one. -/
theorem parseExtrinsicBytes_finds (buf : List UInt8) :
    ∃ found, (parseExtrinsicBytes buf).run = .ok found ∧ ∀ core, found = some core ↔
      ∃ extrinsic : ExtrinsicCode, extrinsic.bytes <+: buf ∧ core = extrinsic.core buf := by
  by_cases enough : 4 ≤ buf.length
  case neg =>
    refine ⟨none, run_bind_none (run_require_not enough), fun core => ?_⟩
    constructor
    · nofun
    · rintro ⟨extrinsic, stands, _⟩
      exact absurd (extrinsic.length_least.trans stands.length_le) enough
  case pos =>
    have started : (parseExtrinsicBytes buf).run = _ := run_bind_some (run_require enough)
    obtain ⟨found, ran, finds⟩ := parseHead_recognizes buf 0 (Nat.zero_le _)
    cases found with
    | none =>
      refine ⟨none, started.trans (run_bind_none ran), fun core => ?_⟩
      constructor
      · nofun
      · rintro ⟨extrinsic, stands, _⟩
        have impossible :=
          (finds extrinsic.head _).mpr ⟨_, ⟨extrinsic, rfl, rfl⟩, stands, rfl⟩
        cases impossible
    | some pair =>
      obtain ⟨_, ⟨extrinsic, rfl, isHead⟩, stands, isNext⟩ := (finds pair.1 pair.2).mp rfl
      refine ⟨some (pair.1.core buf pair.2), started.trans (run_bind_some ran), fun core => ?_⟩
      constructor
      · intro same
        cases same
        rw [Nat.zero_add] at isNext
        rw [← isHead, isNext]
        exact ⟨extrinsic, stands, (extrinsic.core_eq buf).symm⟩
      · rintro ⟨other, standsOther, rfl⟩
        have same := (finds other.head _).mpr ⟨_, ⟨other, rfl, rfl⟩, standsOther, rfl⟩
        rw [Nat.zero_add, Option.some.injEq] at same
        rw [other.core_eq, same]

theorem hexBytes_length (text : List Char) : 2 * (hexBytes text).length ≤ text.length := by
  induction text using hexBytes.induct with
  | case1 high low rest h l isHigh isLow ih =>
    rw [hexBytes, isHigh, isLow, List.length_cons, List.length_cons, List.length_cons]
    omega
  | case2 high low rest invalid =>
    rw [hexBytes]
    split
    next h l isHigh isLow => exact absurd isLow (invalid h l isHigh)
    · exact Nat.zero_le _
  | case3 text short =>
    rw [hexBytes]
    · exact Nat.zero_le _
    · exact short

theorem length_le_utf16Length (text : String) : text.toList.length ≤ utf16Length text := by
  rw [utf16Length]
  induction text.toList with
  | nil => exact le_refl 0
  | cons c rest ih =>
    rw [List.map_cons, List.sum_cons, List.length_cons]
    split <;> omega

theorem trim_length (text : List Char) : (trim text).length ≤ text.length := by
  rw [trim, List.length_reverse]
  calc ((text.dropWhile isSpace).reverse.dropWhile isSpace).length
      ≤ (text.dropWhile isSpace).reverse.length := (List.dropWhile_sublist _).length_le
    _ = (text.dropWhile isSpace).length := List.length_reverse
    _ ≤ text.length := (List.dropWhile_sublist _).length_le

theorem dropHexPrefix_length (text : List Char) : (dropHexPrefix text).length ≤ text.length := by
  rw [dropHexPrefix.eq_def]
  split
  · simp only [List.length_cons]; omega
  · simp only [List.length_cons]; omega
  · exact le_refl _

theorem bareHex_length (hex : String) : (bareHex hex).toList.length ≤ hex.toList.length := by
  rw [bareHex, lowerText, String.toList_ofList, String.toList_ofList, List.length_map]
  exact (dropHexPrefix_length _).trans (trim_length _)

/-- Too short a text has too few bytes. -/
theorem parseExtrinsicCore_run (hex : String) :
    (parseExtrinsicCore hex).run = (parseExtrinsicBytes (hexBytes (bareHex hex).toList)).run := by
  have bytes := hexBytes_length (bareHex hex).toList
  have bare := bareHex_length hex
  have long := length_le_utf16Length hex
  have longBare := length_le_utf16Length (bareHex hex)
  by_cases enough : 4 ≤ (hexBytes (bareHex hex).toList).length
  case pos =>
    have first : 8 ≤ utf16Length hex := by omega
    have second : 8 ≤ utf16Length (bareHex hex) := by omega
    exact (run_bind_some (run_require first)).trans (run_bind_some (run_require second))
  case neg =>
    have short : (parseExtrinsicBytes (hexBytes (bareHex hex).toList)).run = .ok none :=
      run_bind_none (run_require_not enough)
    rw [short]
    by_cases first : 8 ≤ utf16Length hex
    case neg => exact run_bind_none (run_require_not first)
    case pos =>
      refine (run_bind_some (run_require first)).trans ?_
      by_cases second : 8 ≤ utf16Length (bareHex hex)
      case neg => exact run_bind_none (run_require_not second)
      case pos => exact (run_bind_some (run_require second)).trans short

/-- A digit is read back, is no space and is in lower case. -/
theorem hexDigit_spec {value : Nat} (small : value < 16) :
    hexValue (hexDigit value) = some value ∧ isSpace (hexDigit value) = false ∧
      toLowerCase (hexDigit value) = hexDigit value := by
  revert value
  decide

@[simp] theorem hexBytes_bytesToHex (bytes : List UInt8) :
    hexBytes (bytesToHex bytes).toList = bytes := by
  rw [bytesToHex, String.toList_ofList]
  induction bytes with
  | nil => rfl
  | cons byte rest ih =>
    have small := byte.toNat_lt
    have high : hexValue (hexDigit (byte.toNat / 16)) = some (byte.toNat / 16) :=
      (hexDigit_spec (by omega)).1
    have low : hexValue (hexDigit (byte.toNat % 16)) = some (byte.toNat % 16) :=
      (hexDigit_spec (by omega)).1
    rw [List.flatMap_cons, List.cons_append, List.cons_append, List.nil_append, hexBytes, high, low]
    dsimp only
    rw [ih, Nat.div_add_mod', UInt8.ofNat_toNat]

theorem mem_bytesToHex {bytes : List UInt8} {c : Char} (listed : c ∈ (bytesToHex bytes).toList) :
    isSpace c = false ∧ toLowerCase c = c := by
  rw [bytesToHex, String.toList_ofList, List.mem_flatMap] at listed
  obtain ⟨byte, _, isDigit⟩ := listed
  have small := byte.toNat_lt
  simp only [List.mem_cons, List.not_mem_nil, or_false] at isDigit
  rcases isDigit with rfl | rfl
  · exact (hexDigit_spec (by omega)).2
  · exact (hexDigit_spec (by omega)).2

/-- The text of some bytes, with its prefix, is bared to the digits. -/
@[simp] theorem bareHex_hexAddress (bytes : List UInt8) :
    bareHex (hexAddress bytes) = bytesToHex bytes := by
  have noSpace : ∀ c ∈ (hexAddress bytes).toList, isSpace c = false := by
    intro c listed
    rw [hexAddress, String.toList_append, List.mem_append] at listed
    rcases listed with isPrefix | isDigit
    · have isMark : c = '0' ∨ c = 'x' := by
        rw [String.toList_ofList] at isPrefix
        simpa using isPrefix
      rcases isMark with rfl | rfl
      · rfl
      · rfl
    · exact (mem_bytesToHex isDigit).1
  have dropped : dropHexPrefix (hexAddress bytes).toList = (bytesToHex bytes).toList := by
    rw [hexAddress, String.toList_append]
    rfl
  have lowered : (bytesToHex bytes).toList.map toLowerCase = (bytesToHex bytes).toList :=
    (List.map_congr_left fun c listed => (mem_bytesToHex listed).2).trans (List.map_id _)
  rw [bareHex, trim_of_none noSpace, dropped, lowerText, String.toList_ofList, lowered,
    String.ofList_toList]

/-- Whatever the text, an extrinsic is found exactly when its bytes start with one, and no byte
outside is read; every byte string has a text. A compact integer is decoded exactly where one
stands, and every value that has a code is decoded from it, wherever it stands. -/
theorem scale_parsing :
    (∀ hex : String, ∃ found, (parseExtrinsicCore hex).run = .ok found ∧
      ∀ core, found = some core ↔ ∃ extrinsic : ExtrinsicCode,
        extrinsic.bytes <+: hexBytes (bareHex hex).toList ∧
          core = extrinsic.core (hexBytes (bareHex hex).toList)) ∧
    (∀ buf : List UInt8, hexBytes (bareHex (hexAddress buf)).toList = buf) ∧
    (∀ (buf : List UInt8) (offset : Nat), ∃ found,
      (decodeCompactBigInt buf offset).run = .ok found ∧
      ∀ value consumed, found = some (value, consumed) ↔ ∃ compact : CompactCode,
        compact.bytes <+: buf.drop offset ∧ value = compact.value ∧
          consumed = compact.bytes.length) ∧
    ∀ (value : Nat) (bounded : value < 256 ^ 67) (before after : List UInt8),
      let code := (CompactCode.ofValue value bounded).bytes
      (decodeCompactBigInt (before ++ (code ++ after)) before.length).run =
        .ok (some (value, code.length)) := by
  refine ⟨fun hex => ?_, fun buf => ?_, decodeCompactBigInt_finds, fun value bounded before after =>
    ?_⟩
  · rw [parseExtrinsicCore_run]
    exact parseExtrinsicBytes_finds _
  · rw [bareHex_hexAddress, hexBytes_bytesToHex]
  · have stands : (CompactCode.ofValue value bounded).bytes <+:
        (before ++ ((CompactCode.ofValue value bounded).bytes ++ after)).drop before.length := by
      rw [List.drop_left]
      exact List.prefix_append _ _
    have decoded := decodeCompactBigInt_complete _ stands
    rwa [CompactCode.value_ofValue] at decoded

/-- The length says that 100 bytes follow and five do: the extrinsic is cut off, and is parsed. -/
theorem truncated_extrinsic_parsed :
    let buf : List UInt8 := [0x91, 0x01, 0x04, 0x00, 0x01, 0x02, 0x03]
    (decodeCompact buf 0).run = .ok (some (100, 2)) ∧ buf.length - 2 = 5 ∧
      (parseExtrinsicCore (hexAddress buf)).run = .ok (some ⟨buf, false, 0x00, 0x01, 5, none⟩) := by
  refine ⟨rfl, rfl, ?_⟩
  rw [parseExtrinsicCore_run, bareHex_hexAddress, hexBytes_bytesToHex]
  rfl

end Nightgate.Crawler
