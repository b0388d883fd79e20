import Mathlib.Data.List.Basic

/-!
# Strings of UTF-16 code units

A string of the runtime is a list of code units. Written as UTF-8 it becomes its characters, where
a surrogate without its other half is replaced. A text that has none comes back from its bytes.
-/

namespace Nightgate.Library

abbrev CodeUnits := List UInt16

namespace CodeUnits

def isHigh (unit : UInt16) : Bool := 0xD800 ≤ unit.toNat && unit.toNat < 0xDC00

def isLow (unit : UInt16) : Bool := 0xDC00 ≤ unit.toNat && unit.toNat < 0xE000

/-- The character of a unit on its own. -/
def single (unit : UInt16) : Char :=
  if isHigh unit || isLow unit then '\uFFFD' else Char.ofNat unit.toNat

def pair (high low : UInt16) : Char :=
  Char.ofNat (0x10000 + (high.toNat - 0xD800) * 0x400 + (low.toNat - 0xDC00))

/-- The characters of a string. -/
def scalars : CodeUnits → List Char
  | [] => []
  | [unit] => [single unit]
  | high :: low :: rest =>
    if isHigh high && isLow low then pair high low :: scalars rest
    else single high :: scalars (low :: rest)

def ofChar (c : Char) : CodeUnits :=
  if c.toNat < 0x10000 then [UInt16.ofNat c.toNat]
  else
    [UInt16.ofNat (0xD800 + (c.toNat - 0x10000) / 0x400),
      UInt16.ofNat (0xDC00 + (c.toNat - 0x10000) % 0x400)]

/-- The code units of a text. -/
def ofString (text : String) : CodeUnits := text.toList.flatMap ofChar

/-- The bytes of a string, `Buffer.from(string, 'utf8')`. -/
def utf8 (units : CodeUnits) : List UInt8 :=
  (String.ofList (scalars units)).toByteArray.data.toList

/-- The string of some bytes; bytes that are no UTF-8 are read as `repaired` says. -/
def ofUtf8 (repaired : List UInt8 → CodeUnits) (bytes : List UInt8) : CodeUnits :=
  match String.fromUTF8? ⟨bytes.toArray⟩ with
  | some text => ofString text
  | none => repaired bytes

theorem scalars_ofChar_append (c : Char) (rest : CodeUnits) :
    scalars (ofChar c ++ rest) = c :: scalars rest := by
  have valid := c.valid
  have isValid : c.toNat < 0xD800 ∨ 0xDFFF < c.toNat ∧ c.toNat < 0x110000 := valid
  rw [ofChar]
  split
  next basic =>
    have unit : (UInt16.ofNat c.toNat).toNat = c.toNat := by
      rw [UInt16.toNat_ofNat']
      omega
    have notHigh : isHigh (UInt16.ofNat c.toNat) = false := by
      simp only [isHigh, unit, Bool.and_eq_false_iff, decide_eq_false_iff_not]
      omega
    have notLow : isLow (UInt16.ofNat c.toNat) = false := by
      simp only [isLow, unit, Bool.and_eq_false_iff, decide_eq_false_iff_not]
      omega
    have isSingle : single (UInt16.ofNat c.toNat) = c := by
      rw [single, notHigh, notLow, unit]
      exact Char.ofNat_toNat c
    cases rest with
    | nil => simp only [List.append_nil, scalars, isSingle]
    | cons next rest =>
      simp only [List.cons_append, List.nil_append, scalars, notHigh, isSingle, Bool.false_and,
        Bool.false_eq_true, if_false]
  next supplementary =>
    have high : (UInt16.ofNat (0xD800 + (c.toNat - 0x10000) / 0x400)).toNat =
        0xD800 + (c.toNat - 0x10000) / 0x400 := by
      rw [UInt16.toNat_ofNat']
      omega
    have low : (UInt16.ofNat (0xDC00 + (c.toNat - 0x10000) % 0x400)).toNat =
        0xDC00 + (c.toNat - 0x10000) % 0x400 := by
      rw [UInt16.toNat_ofNat']
      omega
    have surrogates : (isHigh (UInt16.ofNat (0xD800 + (c.toNat - 0x10000) / 0x400)) &&
        isLow (UInt16.ofNat (0xDC00 + (c.toNat - 0x10000) % 0x400))) = true := by
      simp only [isHigh, isLow, high, low, Bool.and_eq_true, decide_eq_true_eq]
      omega
    have whole : 0x10000 + (0xD800 + (c.toNat - 0x10000) / 0x400 - 0xD800) * 0x400 +
        (0xDC00 + (c.toNat - 0x10000) % 0x400 - 0xDC00) = c.toNat := by
      omega
    simp only [List.cons_append, List.nil_append, scalars, surrogates, if_true, pair, high, low,
      whole, Char.ofNat_toNat]

/-- The characters of a text come back from its code units. -/
@[simp] theorem scalars_ofString (text : String) : scalars (ofString text) = text.toList := by
  rw [ofString]
  induction text.toList with
  | nil => rfl
  | cons c rest ih => rw [List.flatMap_cons, scalars_ofChar_append, ih]

theorem utf8_ofString (text : String) : utf8 (ofString text) = text.toByteArray.data.toList := by
  rw [utf8, scalars_ofString, String.ofList_toList]

/-- Texts with the same bytes are the same. -/
theorem utf8_injective {first second : String}
    (same : utf8 (ofString first) = utf8 (ofString second)) : first = second := by
  rw [utf8_ofString, utf8_ofString, Array.toList_inj] at same
  exact String.toByteArray_inj.mp (ByteArray.ext same)

/-- A text comes back from its bytes. -/
@[simp] theorem ofUtf8_utf8 (repaired : List UInt8 → CodeUnits) (text : String) :
    ofUtf8 repaired (utf8 (ofString text)) = ofString text := by
  have isText : String.fromUTF8? ⟨(utf8 (ofString text)).toArray⟩ = some text := by
    rw [utf8_ofString, Array.toArray_toList, String.fromUTF8?, dif_pos text.isValidUTF8]
    rfl
  rw [ofUtf8, isText]

theorem zero_mem_ofChar (c : Char) : (0 : UInt16) ∈ ofChar c ↔ c = '\x00' := by
  have units : ∀ n : Nat, n < 0x10000 → (UInt16.ofNat n = 0 ↔ n = 0) := by
    intro n small
    rw [← UInt16.toNat_inj, UInt16.toNat_ofNat']
    show n % 65536 = 0 ↔ n = 0
    omega
  have isZero : c = '\x00' ↔ c.toNat = 0 := by
    rw [← Char.toNat_inj]
    rfl
  have valid : c.toNat < 0xD800 ∨ 0xDFFF < c.toNat ∧ c.toNat < 0x110000 := c.valid
  rw [isZero, ofChar]
  split
  next basic =>
    rw [List.mem_singleton, eq_comm]
    exact units _ basic
  next supplementary =>
    have high := units (0xD800 + (c.toNat - 0x10000) / 0x400) (by omega)
    have low := units (0xDC00 + (c.toNat - 0x10000) % 0x400) (by omega)
    rw [List.mem_cons, List.mem_singleton, @eq_comm _ 0, @eq_comm _ 0, high, low]
    omega

/-- NUL is written as the unit zero, and nothing else is. -/
@[simp] theorem zero_mem_ofString (text : String) :
    (0 : UInt16) ∈ ofString text ↔ '\x00' ∈ text.toList := by
  rw [ofString, List.mem_flatMap]
  constructor
  · rintro ⟨c, listed, isZero⟩
    exact (zero_mem_ofChar c).mp isZero ▸ listed
  · intro listed
    exact ⟨_, listed, (zero_mem_ofChar _).mpr rfl⟩

@[simp] theorem ofString_eq_nil (text : String) : ofString text = [] ↔ text = "" := by
  constructor
  · intro empty
    rw [← String.ofList_toList (s := text), ← scalars_ofString, empty]
    rfl
  · rintro rfl
    rfl

end CodeUnits

end Nightgate.Library
