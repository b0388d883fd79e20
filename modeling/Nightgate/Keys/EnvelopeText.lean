import Mathlib.Algebra.Group.Nat.Defs
import Nightgate.Keys.Envelope
import Nightgate.Library.Utf16
import Nightgate.Submission.OfferFile

/-!
# Envelopes as text

A stored secret is a text: the version, the key id, the wrapped payload key, and the payload as the
cipher gives it, in base64 and separated by colons. The oldest version has the payload alone. What
the cipher authenticates beside the data differs between the versions and names the key id, and in
the current version the column and row too.
-/

namespace Nightgate.Keys.EnvelopeText

open Library Nightgate.Submission

abbrev Bytes := List UInt8

def base64Char (value : Nat) : Char :=
  if value < 26 then Char.ofNat (65 + value)
  else if value < 52 then Char.ofNat (71 + value)
  else if value < 62 then Char.ofNat (value - 4)
  else if value = 62 then '+'
  else '/'

/-- The six-bit values of some bytes. -/
def sextetsOf : Bytes → List Nat
  | a :: b :: c :: rest =>
    a.toNat / 4 :: (a.toNat % 4 * 16 + b.toNat / 16) :: (b.toNat % 16 * 4 + c.toNat / 64) ::
      c.toNat % 64 :: sextetsOf rest
  | [a, b] => [a.toNat / 4, a.toNat % 4 * 16 + b.toNat / 16, b.toNat % 16 * 4]
  | [a] => [a.toNat / 4, a.toNat % 4 * 16]
  | [] => []

/-- `buffer.toString('base64')`. -/
def toBase64 (bytes : Bytes) : List Char :=
  (sextetsOf bytes).map base64Char ++ List.replicate ((3 - bytes.length % 3) % 3) '='

/-- `Buffer.from(text, 'base64')`: characters outside both alphabets are ignored. -/
def ofBase64 (text : List Char) : Bytes :=
  bytesOfSextets ((text.takeWhile (· ≠ '=')).filterMap base64Value)

theorem sextetsOf_lt (bytes : Bytes) : ∀ value ∈ sextetsOf bytes, value < 64 := by
  induction bytes using sextetsOf.induct with
  | case1 a b c rest ih =>
    intro value listed
    have aSmall := a.toNat_lt
    have bSmall := b.toNat_lt
    have cSmall := c.toNat_lt
    simp only [sextetsOf, List.mem_cons] at listed
    rcases listed with rfl | rfl | rfl | rfl | listed
    · omega
    · omega
    · omega
    · omega
    · exact ih value listed
  | case2 a b =>
    intro value listed
    have aSmall := a.toNat_lt
    have bSmall := b.toNat_lt
    simp only [sextetsOf, List.mem_cons, List.not_mem_nil, or_false] at listed
    omega
  | case3 a =>
    intro value listed
    have aSmall := a.toNat_lt
    simp only [sextetsOf, List.mem_cons, List.not_mem_nil, or_false] at listed
    omega
  | case4 =>
    intro value listed
    cases listed

@[simp] theorem bytesOfSextets_sextetsOf (bytes : Bytes) :
    bytesOfSextets (sextetsOf bytes) = bytes := by
  have byte : ∀ (b : UInt8) (n : Nat), n = b.toNat → UInt8.ofNat n = b := by
    intro b n same
    rw [same, UInt8.ofNat_toNat]
  induction bytes using sextetsOf.induct with
  | case1 a b c rest ih =>
    have aSmall := a.toNat_lt
    have bSmall := b.toNat_lt
    have cSmall := c.toNat_lt
    rw [sextetsOf, bytesOfSextets, ih, byte a _ (by omega), byte b _ (by omega),
      byte c _ (by omega)]
  | case2 a b =>
    have aSmall := a.toNat_lt
    have bSmall := b.toNat_lt
    rw [sextetsOf, bytesOfSextets, byte a _ (by omega), byte b _ (by omega)]
  | case3 a =>
    have aSmall := a.toNat_lt
    rw [sextetsOf, bytesOfSextets, byte a _ (by omega)]
  | case4 => rfl

/-- The alphabet: each value has its character, neither padding nor a separator. -/
theorem base64Char_spec : ∀ value < 64, base64Value (base64Char value) = some value ∧
    base64Char value ≠ '=' ∧ base64Char value ≠ ':' := by
  decide

@[simp] theorem ofBase64_toBase64 (bytes : Bytes) : ofBase64 (toBase64 bytes) = bytes := by
  have small := sextetsOf_lt bytes
  have body : (toBase64 bytes).takeWhile (· ≠ '=') = (sextetsOf bytes).map base64Char := by
    rw [toBase64, List.takeWhile_append_of_pos]
    · cases (3 - bytes.length % 3) % 3 with
      | zero => simp
      | succ count => simp [List.replicate_succ]
    · intro c listed
      obtain ⟨value, isValue, rfl⟩ := List.mem_map.mp listed
      exact decide_eq_true (base64Char_spec value (small value isValue)).2.1
  have values : ((sextetsOf bytes).map base64Char).filterMap base64Value = sextetsOf bytes := by
    rw [List.filterMap_map]
    calc (sextetsOf bytes).filterMap (base64Value ∘ base64Char)
        = (sextetsOf bytes).filterMap some := by
          apply List.filterMap_congr
          intro value isValue
          exact (base64Char_spec value (small value isValue)).1
      _ = sextetsOf bytes := List.filterMap_some
  rw [ofBase64, body, values, bytesOfSextets_sextetsOf]

theorem colon_not_mem_toBase64 (bytes : Bytes) : ':' ∉ toBase64 bytes := by
  rw [toBase64, List.mem_append, not_or]
  constructor
  · intro listed
    obtain ⟨value, isValue, isColon⟩ := List.mem_map.mp listed
    exact (base64Char_spec value (sextetsOf_lt bytes value isValue)).2.2 isColon
  · intro listed
    have := List.eq_of_mem_replicate listed
    simp at this

/-- What a v3 value belongs to, as strings of the runtime. -/
structure UnitBinding where
  purpose : CodeUnits
  subject : CodeUnits
  deriving DecidableEq

def unitsOf (binding : EnvelopeBinding) : UnitBinding where
  purpose := .ofString binding.purpose
  subject := .ofString binding.subject

inductive CryptoError where
  /-- `UnknownEncryptionKeyError`. -/
  | unknownKey (keyId : KeyId)
  /-- `UnboundEnvelopeError`. -/
  | unbound (purpose : CodeUnits)
  | badFormat
  | badKeyId (keyId : KeyId)
  | ivLength (length : Nat)
  | tagLength (length : Nat)
  | wrappedLength (length : Nat)
  | unauthentic
  | bindingMissing
  | bindingEmpty
  | bindingNul
  deriving DecidableEq

def IV_LENGTH : Nat := 12

def AUTH_TAG_LENGTH : Nat := 16

def DEK_LENGTH : Nat := 32

def WRAPPED_DEK_LENGTH : Nat := IV_LENGTH + AUTH_TAG_LENGTH + DEK_LENGTH

def ENVELOPE_VERSION : String := "v2"

def BOUND_ENVELOPE_VERSION : String := "v3"

/-- `KEY_ID_PATTERN`. -/
def isKeyId (id : List Char) : Bool :=
  1 ≤ id.length && id.length ≤ 16 && id.all fun c =>
    decide ('A' ≤ c ∧ c ≤ 'Z' ∨ 'a' ≤ c ∧ c ≤ 'z' ∨ '0' ≤ c ∧ c ≤ '9' ∨ c = '_' ∨ c = '-')

/-- The constructor of a ring checks every id. -/
structure NamedRing extends KeyRing where
  named : ∀ id, (kek id).isSome = true → isKeyId id.toList = true

/-- The bytes of a server key. -/
def kekBytes (kek : Kek) : Bytes :=
  (List.range 32).map fun place => UInt8.ofNat (kek.toNat / 256 ^ (31 - place) % 256)

/-- The associated data of the v2 format. -/
def aad (keyId : KeyId) : Bytes :=
  CodeUnits.utf8 (CodeUnits.ofString (ENVELOPE_VERSION ++ ":" ++ keyId))

/-- The fields are separated by NUL, so one field cannot spill into the next. -/
def boundAad (keyId : KeyId) (binding : UnitBinding) : Bytes :=
  CodeUnits.utf8 ([0].intercalate [CodeUnits.ofString BOUND_ENVELOPE_VERSION,
    CodeUnits.ofString keyId, binding.purpose, binding.subject])

def assertBinding (binding : UnitBinding) : Except CryptoError Unit :=
  if binding.purpose = [] ∨ binding.subject = [] then .error .bindingEmpty
  else if (0 : UInt16) ∈ binding.purpose ∨ (0 : UInt16) ∈ binding.subject then .error .bindingNul
  else .ok ()

/-! ## Encryption -/

/-- What is drawn for one encryption, and what the cipher puts out for it. -/
structure Draws where
  dek : Bytes
  payloadIv : Bytes
  payloadTag : Bytes
  payloadData : Bytes
  wrapIv : Bytes
  wrapTag : Bytes
  wrapData : Bytes
  dekLength : dek.length = DEK_LENGTH
  payloadIvLength : payloadIv.length = IV_LENGTH
  payloadTagLength : payloadTag.length = AUTH_TAG_LENGTH
  wrapIvLength : wrapIv.length = IV_LENGTH
  wrapTagLength : wrapTag.length = AUTH_TAG_LENGTH
  wrapDataLength : wrapData.length = DEK_LENGTH

/-- The version of a new value, and what it is authenticated with. -/
def versionFor (keyId : KeyId) (binding : Option UnitBinding) :
    Except CryptoError (String × Bytes) :=
  match binding with
  | none => .ok (ENVELOPE_VERSION, aad keyId)
  | some binding => do
      assertBinding binding
      pure (BOUND_ENVELOPE_VERSION, boundAad keyId binding)

/-- The fields of an envelope. -/
def envelopeFields (version : String) (keyId : KeyId) (draws : Draws) : List (List Char) :=
  [version.toList, keyId.toList, toBase64 (draws.wrapIv ++ draws.wrapTag ++ draws.wrapData),
    toBase64 draws.payloadIv, toBase64 draws.payloadTag, toBase64 draws.payloadData]

/-- Encrypts with the active key; beside the text, what the cipher sealed for it. -/
def encrypt (ring : NamedRing) (plaintext : CodeUnits) (binding : Option UnitBinding)
    (draws : Draws) : Except CryptoError (String × List (Sealing Bytes)) := do
  let keyId := ring.activeId
  let (version, associated) ← versionFor keyId binding
  let payload : Sealing Bytes := ⟨draws.dek, draws.payloadIv, associated,
    CodeUnits.utf8 plaintext, draws.payloadTag, draws.payloadData⟩
  let wrap : Sealing Bytes := ⟨kekBytes ring.activeKey, draws.wrapIv, associated, draws.dek,
    draws.wrapTag, draws.wrapData⟩
  pure (String.ofList ([':'].intercalate (envelopeFields version keyId draws)), [payload, wrap])

/-- Version and key id of a stored text. -/
def inspectCiphertext (combined : String) : Except CryptoError (Nat × KeyId) :=
  match combined.toList.splitOn ':' with
  | [_, _, _] => .ok (1, LEGACY_KEY_ID)
  | [version, keyId, _, _, _, _] =>
    if version = ENVELOPE_VERSION.toList ∨ version = BOUND_ENVELOPE_VERSION.toList then
      if !isKeyId keyId then .error (.badKeyId (String.ofList keyId))
      else .ok (if version = BOUND_ENVELOPE_VERSION.toList then 3 else 2, String.ofList keyId)
    else .error .badFormat
  | _ => .error .badFormat

/-- Initialization vector, tag and data of a wrapped payload key. -/
def wrapBox (wrapped : Bytes) : Bytes × Bytes × Bytes :=
  (wrapped.take IV_LENGTH, (wrapped.drop IV_LENGTH).take AUTH_TAG_LENGTH,
    wrapped.drop (IV_LENGTH + AUTH_TAG_LENGTH))

/-- The ciphertexts that a text carries. -/
def boxesOf (combined : String) : List (Bytes × Bytes × Bytes) :=
  match combined.toList.splitOn ':' with
  | [iv, tag, data] => [(ofBase64 iv, ofBase64 tag, ofBase64 data)]
  | [_, _, wrapped, iv, tag, data] =>
    [wrapBox (ofBase64 wrapped), (ofBase64 iv, ofBase64 tag, ofBase64 data)]
  | _ => []

section Decryption

variable (repaired : Bytes → CodeUnits) (world : SealLog Bytes)

def gcmDecrypt (key : Bytes) (box : Bytes × Bytes × Bytes) (associated : Bytes) :
    Except CryptoError Bytes :=
  if box.1.length ≠ IV_LENGTH then .error (.ivLength box.1.length)
  else if box.2.1.length ≠ AUTH_TAG_LENGTH then .error (.tagLength box.2.1.length)
  else
    match world.openWith key box associated with
    | some plain => .ok plain
    | none => .error .unauthentic

/-- What a value of a version is authenticated with. -/
def associatedFor (version : Nat) (keyId : KeyId) (binding : Option UnitBinding) :
    Except CryptoError Bytes :=
  if version = 3 then
    match binding with
    | none => .error .bindingMissing
    | some binding => do
        assertBinding binding
        pure (boundAad keyId binding)
  else .ok (aad keyId)

/-- Decrypts any format. -/
def decrypt (ring : NamedRing) (combined : String) (binding : Option UnitBinding)
    (acceptUnbound : Bool) : Except CryptoError CodeUnits := do
  let (version, keyId) ← inspectCiphertext combined
  if let some refused := binding.filter fun _ => version < 3 && !acceptUnbound then
    .error (.unbound refused.purpose)
  else
    match combined.toList.splitOn ':' with
    | [iv, tag, data] =>
      match ring.legacyKey keyId with
      | none => .error (.unknownKey keyId)
      | some legacy => do
          let plain ← gcmDecrypt world (kekBytes legacy)
            (ofBase64 iv, ofBase64 tag, ofBase64 data) []
          pure (CodeUnits.ofUtf8 repaired plain)
    | [_, _, wrappedB64, iv, tag, data] =>
      let wrapped := ofBase64 wrappedB64
      if wrapped.length ≠ WRAPPED_DEK_LENGTH then .error (.wrappedLength wrapped.length)
      else do
        let associated ← associatedFor version keyId binding
        match ring.kek keyId with
        | none => .error (.unknownKey keyId)
        | some kek => do
            let dek ← gcmDecrypt world (kekBytes kek) (wrapBox wrapped) associated
            let plain ← gcmDecrypt world dek (ofBase64 iv, ofBase64 tag, ofBase64 data) associated
            pure (CodeUnits.ofUtf8 repaired plain)
    | _ => .error .badFormat

end Decryption

end Nightgate.Keys.EnvelopeText
