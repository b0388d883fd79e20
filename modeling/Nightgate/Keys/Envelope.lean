import Nightgate.Library.IdealCipher
import Mathlib.Data.Option.Basic

/-!
# Envelopes

A stored secret is sealed under a key of the ring and names the key. The current version
also binds it to its column and row; the older ones do not.
-/

namespace Nightgate.Keys

open Library

abbrev KeyId := String

/-- A server key, 32 bytes. -/
abbrev Kek := BitVec 256

def LEGACY_KEY_ID : KeyId := "1"

/-- What a v3 value belongs to. -/
structure EnvelopeBinding where
  purpose : String
  subject : String
  deriving DecidableEq

def accountDekBinding (accountId : String) : EnvelopeBinding :=
  ⟨"account-key/ring-seal", accountId⟩

def accountDekViewingKeySealBinding (accountId : String) : EnvelopeBinding :=
  ⟨"account-key/viewing-key-seal", accountId⟩

/-- The data a ciphertext is authenticated with. -/
inductive Associated where
  | legacy
  /-- `aad`. -/
  | unbound (keyId : KeyId)
  /-- `boundAad`. -/
  | bound (keyId : KeyId) (binding : EnvelopeBinding)
  deriving DecidableEq

/-- A stored value by its format. The payload key inside an envelope is left out: it opens
just when the server key opens its wrap. -/
inductive Envelope (Plain : Type) where
  | v1 (box : Sealed Kek Associated Plain)
  | v2 (keyId : KeyId) (box : Sealed Kek Associated Plain)
  | v3 (keyId : KeyId) (box : Sealed Kek Associated Plain)
  /-- A text of no known format. -/
  | malformed (text : String)
  deriving DecidableEq

/-- The server keys by id, and the keys of the v1 format. -/
structure KeyRing where
  activeId : KeyId
  kek : KeyId → Option Kek
  legacyKey : KeyId → Option Kek
  active : (kek activeId).isSome

inductive DecryptError where
  /-- `UnknownEncryptionKeyError`. -/
  | unknownKey (keyId : KeyId)
  /-- `UnboundEnvelopeError`. -/
  | unbound
  | invalid

section Envelopes

variable {Plain : Type}

/-- Version and key id of a stored value. -/
def inspectCiphertext (value : Envelope Plain) : Except DecryptError (Nat × KeyId) :=
  match value with
  | .v1 _ => .ok (1, LEGACY_KEY_ID)
  | .v2 keyId _ => .ok (2, keyId)
  | .v3 keyId _ => .ok (3, keyId)
  | .malformed _ => .error .invalid

/-- Opens a box under a key that may be missing. -/
def openBox (key : Option Kek) (keyId : KeyId) (associated : Associated)
    (box : Sealed Kek Associated Plain) : Except DecryptError Plain :=
  match key with
  | none => .error (.unknownKey keyId)
  | some key =>
    match box.openWith key associated with
    | some plain => .ok plain
    | none => .error .invalid

/-- Decrypts a value with its binding. Unbound values are refused unless allowed. -/
def decrypt (ring : KeyRing) (allowUnbound : Bool) (binding : EnvelopeBinding)
    (value : Envelope Plain) : Except DecryptError Plain :=
  match value with
  | .v1 box =>
    if allowUnbound then openBox (ring.legacyKey LEGACY_KEY_ID) LEGACY_KEY_ID .legacy box
    else .error .unbound
  | .v2 keyId box =>
    if allowUnbound then openBox (ring.kek keyId) keyId (.unbound keyId) box
    else .error .unbound
  | .v3 keyId box => openBox (ring.kek keyId) keyId (.bound keyId binding) box
  | .malformed _ => .error .invalid

def KeyRing.activeKey (ring : KeyRing) : Kek :=
  (ring.kek ring.activeId).get ring.active

/-- Encrypts with the active key. -/
def encrypt (ring : KeyRing) (binding : EnvelopeBinding) (plain : Plain) (nonce : Nat) :
    Envelope Plain :=
  .v3 ring.activeId ⟨ring.activeKey, .bound ring.activeId binding, plain, nonce⟩

@[simp] theorem KeyRing.kek_activeId (ring : KeyRing) :
    ring.kek ring.activeId = some ring.activeKey :=
  (Option.some_get ring.active).symm

/-- What was encrypted decrypts. -/
@[simp] theorem decrypt_encrypt (ring : KeyRing) (allowUnbound : Bool) (binding : EnvelopeBinding)
    (plain : Plain) (nonce : Nat) :
    decrypt ring allowUnbound binding (encrypt ring binding plain nonce) = .ok plain := by
  simp [decrypt, encrypt, openBox]

end Envelopes

end Nightgate.Keys
