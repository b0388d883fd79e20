import Mathlib.Data.List.Basic

/-!
# Bech32m texts

A human-readable part, the separator `1`, words of five bits and a checksum of six words. A text
is valid when it is in one case and its lower case is what encoding gives for its parts; decoding
takes a text apart and encodes it again. Bytes are regrouped to words, the last padded with zeros.
-/

namespace Nightgate.Library.Bech32

def charset : List Char := "qpzry9x8gf2tvdw0s3jn54khce6mua7l".toList

def letter (word : Nat) : Char := (charset[word]?).getD 'q'

def generator : List Nat := [0x3b6a57b2, 0x26508e6d, 0x1ea119fa, 0x3d4233dd, 0x2a1462b3]

/-- One step of the polynomial remainder. -/
def polymodStep (checksum value : Nat) : Nat :=
  let top := checksum >>> 25
  (generator.zipIdx).foldl
    (fun sum entry => if (top >>> entry.2) % 2 = 1 then sum ^^^ entry.1 else sum)
    (((checksum % 0x2000000) <<< 5) ^^^ value)

def polymod (values : List Nat) : Nat := values.foldl polymodStep 1

def expand (hrp : List Char) : List Nat :=
  hrp.map (fun c => c.toNat / 32) ++ 0 :: hrp.map fun c => c.toNat % 32

/-- The six words of the checksum. -/
def checksum (hrp : List Char) (words : List Nat) : List Nat :=
  let sum := polymod (expand hrp ++ words ++ [0, 0, 0, 0, 0, 0]) ^^^ 0x2bc830a3
  [sum >>> 25 % 32, sum >>> 20 % 32, sum >>> 15 % 32, sum >>> 10 % 32, sum >>> 5 % 32, sum % 32]

def encode (hrp : List Char) (words : List Nat) : List Char :=
  hrp ++ '1' :: (words ++ checksum hrp words).map letter

/-- A valid text of a human-readable part and words. -/
structure Valid (text hrp : List Char) (words : List Nat) : Prop where
  given : hrp ≠ []
  printable : ∀ c ∈ hrp, 33 ≤ c.toNat ∧ c.toNat ≤ 126
  fiveBits : ∀ word ∈ words, word < 32
  oneCase : text = text.map Char.toLower ∨ text = text.map Char.toUpper
  encodes : text.map Char.toLower = encode hrp words

variable {words : List Nat}

theorem valid_iff {text hrp : List Char} :
    (hrp ≠ [] ∧ (hrp.all fun c => 33 ≤ c.toNat ∧ c.toNat ≤ 126) = true ∧
      (words.all fun word => word < 32) = true ∧
      (text = text.map Char.toLower ∨ text = text.map Char.toUpper) ∧
        text.map Char.toLower = encode hrp words) ↔ Valid text hrp words := by
  simp only [List.all_eq_true, decide_eq_true_eq]
  constructor
  · rintro ⟨given, printable, fiveBits, oneCase, encodes⟩
    exact ⟨given, printable, fiveBits, oneCase, encodes⟩
  · rintro ⟨given, printable, fiveBits, oneCase, encodes⟩
    exact ⟨given, printable, fiveBits, oneCase, encodes⟩

instance (text hrp : List Char) (words : List Nat) : Decidable (Valid text hrp words) :=
  decidable_of_iff _ valid_iff

/-- The parts a text has when it is valid: what is before and after the last `1`, without the
checksum. -/
def parts (text : List Char) : List Char × List Nat :=
  let lower := text.map Char.toLower
  let data := (lower.reverse.takeWhile (· ≠ '1')).reverse
  (lower.take (lower.length - data.length - 1),
    (data.take (data.length - 6)).map fun c => charset.idxOf c)

def decode (text : List Char) : Option (List Char × List Nat) :=
  if Valid text (parts text).1 (parts text).2 then some (parts text) else none

theorem letter_ne_one (word : Nat) : letter word ≠ '1' := by
  rw [letter]
  by_cases small : word < 32
  · have each : ∀ word < 32, (charset[word]?).getD 'q' ≠ '1' := by decide
    exact each word small
  · have beyond : charset[word]? = none := List.getElem?_eq_none (Nat.le_of_not_lt small)
    rw [beyond]
    decide

theorem idxOf_letter {word : Nat} (small : word < 32) : charset.idxOf (letter word) = word := by
  have each : ∀ word < 32, charset.idxOf (letter word) = word := by decide
  exact each word small

@[simp] theorem length_checksum (hrp : List Char) (words : List Nat) :
    (checksum hrp words).length = 6 :=
  rfl

/-- The parts of an encoded text are those it was encoded from. -/
theorem parts_of_encodes {text hrp : List Char} (fiveBits : ∀ word ∈ words, word < 32)
    (encodes : text.map Char.toLower = encode hrp words) : parts text = (hrp, words) := by
  have isData : ((encode hrp words).reverse.takeWhile (· ≠ '1')).reverse =
      (words ++ checksum hrp words).map letter := by
    have letters : ∀ c ∈ ((words ++ checksum hrp words).map letter).reverse,
        decide (c ≠ '1') = true := by
      intro c listed
      rcases List.mem_map.mp (List.mem_reverse.mp listed) with ⟨word, -, rfl⟩
      exact decide_eq_true (letter_ne_one word)
    rw [encode, List.reverse_append, List.reverse_cons, List.append_assoc,
      List.takeWhile_append_of_pos letters]
    simp
  have letters : (words.map letter).map (fun c => charset.idxOf c) = words := by
    rw [List.map_map]
    refine (List.map_congr_left ?_).trans (List.map_id words)
    intro word listed
    exact idxOf_letter (fiveBits word listed)
  simp only [parts, encodes, isData]
  have shorter : ((words ++ checksum hrp words).map letter).length - 6 =
      (words.map letter).length := by
    rw [List.length_map, List.length_append, length_checksum, List.length_map, Nat.add_sub_cancel]
  have head : (encode hrp words).length - ((words ++ checksum hrp words).map letter).length - 1 =
      hrp.length := by
    rw [encode, List.length_append, List.length_cons]
    omega
  rw [shorter, head, List.map_append, List.take_left, letters, encode, List.take_left]

theorem decode_eq_some_iff {text hrp : List Char} :
    decode text = some (hrp, words) ↔ Valid text hrp words := by
  rw [decode]
  constructor
  · intro decoded
    split at decoded
    next valid =>
      cases decoded
      exact valid
    · cases decoded
  · intro valid
    rw [parts_of_encodes valid.fiveBits valid.encodes, if_pos valid]

/-! ## Regrouping -/

/-- Bytes as words of five bits, the last filled up with zeros. -/
def toWords : List UInt8 → List Nat
  | a :: b :: c :: d :: e :: rest =>
    a.toNat / 8 :: (a.toNat % 8 * 4 + b.toNat / 64) :: b.toNat / 2 % 32 ::
      (b.toNat % 2 * 16 + c.toNat / 16) :: (c.toNat % 16 * 2 + d.toNat / 128) ::
        d.toNat / 4 % 32 :: (d.toNat % 4 * 8 + e.toNat / 32) :: e.toNat % 32 :: toWords rest
  | [a, b, c, d] =>
    [a.toNat / 8, a.toNat % 8 * 4 + b.toNat / 64, b.toNat / 2 % 32,
      b.toNat % 2 * 16 + c.toNat / 16, c.toNat % 16 * 2 + d.toNat / 128, d.toNat / 4 % 32,
      d.toNat % 4 * 8]
  | [a, b, c] =>
    [a.toNat / 8, a.toNat % 8 * 4 + b.toNat / 64, b.toNat / 2 % 32,
      b.toNat % 2 * 16 + c.toNat / 16, c.toNat % 16 * 2]
  | [a, b] =>
    [a.toNat / 8, a.toNat % 8 * 4 + b.toNat / 64, b.toNat / 2 % 32, b.toNat % 2 * 16]
  | [a] => [a.toNat / 8, a.toNat % 8 * 4]
  | [] => []

/-- The bytes of words; bits that fill no byte are dropped. -/
def bytesOf : List Nat → List UInt8
  | a :: b :: c :: d :: e :: f :: g :: h :: rest =>
    UInt8.ofNat (a * 8 + b / 4) :: UInt8.ofNat (b % 4 * 64 + c * 2 + d / 16) ::
      UInt8.ofNat (d % 16 * 16 + e / 2) :: UInt8.ofNat (e % 2 * 128 + f * 4 + g / 8) ::
        UInt8.ofNat (g % 8 * 32 + h) :: bytesOf rest
  | [a, b, c, d, e, f, g] =>
    [UInt8.ofNat (a * 8 + b / 4), UInt8.ofNat (b % 4 * 64 + c * 2 + d / 16),
      UInt8.ofNat (d % 16 * 16 + e / 2), UInt8.ofNat (e % 2 * 128 + f * 4 + g / 8)]
  | a :: b :: c :: d :: e :: _ =>
    [UInt8.ofNat (a * 8 + b / 4), UInt8.ofNat (b % 4 * 64 + c * 2 + d / 16),
      UInt8.ofNat (d % 16 * 16 + e / 2)]
  | a :: b :: c :: d :: _ =>
    [UInt8.ofNat (a * 8 + b / 4), UInt8.ofNat (b % 4 * 64 + c * 2 + d / 16)]
  | a :: b :: _ => [UInt8.ofNat (a * 8 + b / 4)]
  | _ => []

theorem byte_of_toNat {byte : UInt8} {value : Nat} (same : value = byte.toNat) :
    UInt8.ofNat value = byte := by
  rw [same, UInt8.ofNat_toNat]

@[simp] theorem bytesOf_toWords (bytes : List UInt8) : bytesOf (toWords bytes) = bytes := by
  induction bytes using toWords.induct with
  | case1 a b c d e rest ih =>
    have := a.toNat_lt
    have := b.toNat_lt
    have := c.toNat_lt
    have := d.toNat_lt
    have := e.toNat_lt
    simp only [toWords, bytesOf, ih, List.cons.injEq, and_true]
    exact ⟨byte_of_toNat (by omega), byte_of_toNat (by omega), byte_of_toNat (by omega),
      byte_of_toNat (by omega), byte_of_toNat (by omega)⟩
  | case2 a b c d =>
    have := b.toNat_lt
    have := c.toNat_lt
    have := d.toNat_lt
    simp only [toWords, bytesOf, List.cons.injEq, and_true]
    exact ⟨byte_of_toNat (by omega), byte_of_toNat (by omega), byte_of_toNat (by omega),
      byte_of_toNat (by omega)⟩
  | case3 a b c =>
    have := b.toNat_lt
    have := c.toNat_lt
    simp only [toWords, bytesOf, List.cons.injEq, and_true]
    exact ⟨byte_of_toNat (by omega), byte_of_toNat (by omega), byte_of_toNat (by omega)⟩
  | case4 a b =>
    have := b.toNat_lt
    simp only [toWords, bytesOf, List.cons.injEq, and_true]
    exact ⟨byte_of_toNat (by omega), byte_of_toNat (by omega)⟩
  | case5 a =>
    simp only [toWords, bytesOf, List.cons.injEq, and_true]
    exact byte_of_toNat (by omega)
  | case6 => rfl

theorem toWords_lt (bytes : List UInt8) : ∀ word ∈ toWords bytes, word < 32 := by
  induction bytes using toWords.induct with
  | case1 a b c d e rest ih =>
    have := a.toNat_lt
    have := b.toNat_lt
    have := c.toNat_lt
    have := d.toNat_lt
    have := e.toNat_lt
    simp only [toWords, List.forall_mem_cons]
    exact ⟨by omega, by omega, by omega, by omega, by omega, by omega, by omega, by omega, ih⟩
  | case2 a b c d =>
    have := a.toNat_lt
    have := b.toNat_lt
    have := c.toNat_lt
    have := d.toNat_lt
    simp only [toWords, List.forall_mem_cons]
    exact ⟨by omega, by omega, by omega, by omega, by omega, by omega, by omega, nofun⟩
  | case3 a b c =>
    have := a.toNat_lt
    have := b.toNat_lt
    have := c.toNat_lt
    simp only [toWords, List.forall_mem_cons]
    exact ⟨by omega, by omega, by omega, by omega, by omega, nofun⟩
  | case4 a b =>
    have := a.toNat_lt
    have := b.toNat_lt
    simp only [toWords, List.forall_mem_cons]
    exact ⟨by omega, by omega, by omega, by omega, nofun⟩
  | case5 a =>
    have := a.toNat_lt
    simp only [toWords, List.forall_mem_cons]
    exact ⟨by omega, by omega, nofun⟩
  | case6 => exact nofun

/-- The bytes of words, when regrouping the bytes gives the words again. -/
def fromWords (words : List Nat) : Option (List UInt8) :=
  if toWords (bytesOf words) = words then some (bytesOf words) else none

theorem fromWords_eq_some_iff {bytes : List UInt8} :
    fromWords words = some bytes ↔ toWords bytes = words := by
  rw [fromWords]
  constructor
  · intro read
    split at read
    next same =>
      cases read
      exact same
    · cases read
  · rintro rfl
    rw [bytesOf_toWords, if_pos rfl]

example : decode "A1LQFN3A".toList = some (['a'], []) := by decide +kernel

end Nightgate.Library.Bech32
