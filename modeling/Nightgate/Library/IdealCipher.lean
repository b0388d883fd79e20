import Mathlib.Logic.Basic

/-!
# An ideal authenticated cipher

A sealed value opens under the key and the associated data it was sealed with, and under
no others. Two seals of one value differ in what was drawn for them.
-/

namespace Nightgate.Library

/-- A ciphertext, as what it was made from. -/
structure Sealed (Key Associated Plain : Type) where
  key : Key
  associated : Associated
  plain : Plain
  nonce : Nat
  deriving DecidableEq

namespace Sealed

variable {Key Associated Plain : Type} [DecidableEq Key] [DecidableEq Associated]

/-- Opens a ciphertext. -/
def openWith (box : Sealed Key Associated Plain) (key : Key) (associated : Associated) :
    Option Plain :=
  if key = box.key ∧ associated = box.associated then some box.plain else none

theorem openWith_eq_some {box : Sealed Key Associated Plain} {key : Key} {associated : Associated}
    {plain : Plain} :
    box.openWith key associated = some plain ↔
      key = box.key ∧ associated = box.associated ∧ plain = box.plain := by
  simp only [openWith]
  constructor
  · intro opened
    split at opened
    next matching => exact ⟨matching.1, matching.2, (Option.some.inj opened).symm⟩
    · cases opened
  · rintro ⟨isKey, isAssociated, rfl⟩
    rw [if_pos ⟨isKey, isAssociated⟩]

@[simp] theorem openWith_self (key : Key) (associated : Associated) (plain : Plain) (nonce : Nat) :
    (Sealed.mk key associated plain nonce).openWith key associated = some plain :=
  openWith_eq_some.mpr ⟨rfl, rfl, rfl⟩

end Sealed

/-- One sealing: what went in, and the tag and data that came out. -/
structure Sealing (Bytes : Type) where
  key : Bytes
  iv : Bytes
  associated : Bytes
  plain : Bytes
  tag : Bytes
  data : Bytes

/-- The ciphertext as it is stored. -/
def Sealing.box {Bytes : Type} (sealing : Sealing Bytes) : Bytes × Bytes × Bytes :=
  (sealing.iv, sealing.tag, sealing.data)

/-- All that was ever sealed. No two sealings give the same ciphertext. -/
structure SealLog (Bytes : Type) where
  sealings : List (Sealing Bytes)
  distinct : ∀ first ∈ sealings, ∀ second ∈ sealings, first.box = second.box → first = second

namespace SealLog

variable {Bytes : Type} [DecidableEq Bytes]

/-- Only what was sealed opens, under its key and its associated data. -/
def openWith (log : SealLog Bytes) (key : Bytes) (box : Bytes × Bytes × Bytes)
    (associated : Bytes) : Option Bytes :=
  (log.sealings.find? fun sealing =>
    sealing.box = box ∧ sealing.key = key ∧ sealing.associated = associated).map Sealing.plain

theorem exists_of_openWith {log : SealLog Bytes} {key associated plain : Bytes}
    {box : Bytes × Bytes × Bytes} (opened : log.openWith key box associated = some plain) :
    ∃ sealing ∈ log.sealings, sealing.box = box ∧ sealing.key = key ∧
      sealing.associated = associated ∧ sealing.plain = plain := by
  obtain ⟨sealing, found, isPlain⟩ := Option.map_eq_some_iff.mp opened
  have fits := List.find?_some found
  rw [decide_eq_true_eq] at fits
  exact ⟨sealing, List.mem_of_find?_eq_some found, fits.1, fits.2.1, fits.2.2, isPlain⟩

theorem openWith_sealing {log : SealLog Bytes} {sealing : Sealing Bytes}
    (isSealed : sealing ∈ log.sealings) :
    log.openWith sealing.key sealing.box sealing.associated = some sealing.plain := by
  cases opened : log.openWith sealing.key sealing.box sealing.associated with
  | none =>
    have absent := List.find?_eq_none.mp (Option.map_eq_none_iff.mp opened) sealing isSealed
    simp at absent
  | some plain =>
    obtain ⟨other, isOther, sameBox, _, _, isPlain⟩ := exists_of_openWith opened
    rw [← isPlain, log.distinct other isOther sealing isSealed sameBox]

/-- A ciphertext that opens was sealed with the associated data it opens under. -/
theorem associated_of_openWith {log : SealLog Bytes} {sealing : Sealing Bytes}
    {key associated plain : Bytes} (isSealed : sealing ∈ log.sealings)
    (opened : log.openWith key sealing.box associated = some plain) :
    sealing.associated = associated := by
  obtain ⟨other, isOther, sameBox, _, isAssociated, _⟩ := exists_of_openWith opened
  rw [← log.distinct other isOther sealing isSealed sameBox]
  exact isAssociated

end SealLog

end Nightgate.Library
