import Mathlib.Data.Nat.Digits.Lemmas

/-!
# Parsers over a buffer

A parser reads a buffer from an offset. It gives a value and the next offset, gives up, or reads
outside the buffer. It recognizes a form when it never reads outside, finds every value whose code
stands at the offset, and finds nothing else; parsers that recognize forms compose as the forms
do.
-/

namespace Nightgate.Library

/-- A read outside the buffer. -/
structure OutOfRange where
  offset : Nat

/-- A parse that may give up, or read outside the buffer. -/
abbrev Parse := OptionT (Except OutOfRange)

def byteAt (buf : List UInt8) (offset : Nat) : Parse UInt8 :=
  match buf[offset]? with
  | some byte => pure byte
  | none => OptionT.lift (.error ⟨offset⟩)

/-- Gives up unless the condition holds. -/
def require (condition : Prop) [Decidable condition] : Parse Unit :=
  if condition then pure () else failure

/-- The bytes from an offset up to another. -/
def slice (buf : List UInt8) (start stop : Nat) : List UInt8 :=
  (buf.drop start).take (stop - start)

/-- A number of `count` bytes, the lowest first. -/
def readUIntLE (buf : List UInt8) : Nat → Nat → Parse Nat
  | _, 0 => pure 0
  | offset, count + 1 => do
      let low ← byteAt buf offset
      let high ← readUIntLE buf (offset + 1) count
      pure (low.toNat + 256 * high)

/-- The number some bytes stand for, the lowest first. -/
def ofBytesLE (bytes : List UInt8) : Nat :=
  Nat.ofDigits 256 (bytes.map UInt8.toNat)

/-- The lowest `count` bytes of a number. -/
def toBytesLE : Nat → Nat → List UInt8
  | 0, _ => []
  | count + 1, value => UInt8.ofNat (value % 256) :: toBytesLE count (value / 256)

@[simp] theorem ofBytesLE_nil : ofBytesLE [] = 0 := rfl

@[simp] theorem ofBytesLE_cons (low : UInt8) (rest : List UInt8) :
    ofBytesLE (low :: rest) = low.toNat + 256 * ofBytesLE rest := by
  rw [ofBytesLE, List.map_cons, Nat.ofDigits_cons, ofBytesLE]

@[simp] theorem toBytesLE_length (count value : Nat) : (toBytesLE count value).length = count := by
  induction count generalizing value with
  | zero => rfl
  | succ count ih => rw [toBytesLE, List.length_cons, ih]

theorem ofBytesLE_toBytesLE {count value : Nat} (small : value < 256 ^ count) :
    ofBytesLE (toBytesLE count value) = value := by
  induction count generalizing value with
  | zero =>
    rw [Nat.pow_zero, Nat.lt_one_iff] at small
    exact small.symm
  | succ count ih =>
    have lower : value / 256 < 256 ^ count := by
      rw [Nat.div_lt_iff_lt_mul (by decide)]
      rwa [Nat.pow_succ] at small
    rw [toBytesLE, ofBytesLE_cons, ih lower, UInt8.toNat_ofNat']
    omega

@[simp] theorem toBytesLE_ofBytesLE (bytes : List UInt8) :
    toBytesLE bytes.length (ofBytesLE bytes) = bytes := by
  induction bytes with
  | nil => rfl
  | cons low rest ih =>
    have small := low.toNat_lt
    have lowest : (low.toNat + 256 * ofBytesLE rest) % 256 = low.toNat := by omega
    have higher : (low.toNat + 256 * ofBytesLE rest) / 256 = ofBytesLE rest := by omega
    rw [List.length_cons, ofBytesLE_cons, toBytesLE, lowest, higher, ih, UInt8.ofNat_toNat]

theorem ofBytesLE_lt (bytes : List UInt8) : ofBytesLE bytes < 256 ^ bytes.length := by
  induction bytes with
  | nil => simp
  | cons low rest ih =>
    have small := low.toNat_lt
    rw [ofBytesLE_cons, List.length_cons, Nat.pow_succ]
    omega

section Reads

variable {α β : Type} {buf : List UInt8} {offset : Nat}

theorem run_bind_some {first : Parse α} {next : α → Parse β} {value : α}
    (ran : first.run = .ok (some value)) : (first >>= next).run = (next value).run := by
  rw [OptionT.run_bind, ran]
  rfl

theorem run_bind_none {first : Parse α} {next : α → Parse β} (ran : first.run = .ok none) :
    (first >>= next).run = .ok none := by
  rw [OptionT.run_bind, ran]
  rfl

@[simp] theorem run_require {condition : Prop} [Decidable condition] (holds : condition) :
    (require condition).run = .ok (some ()) := by
  rw [require, if_pos holds]
  rfl

theorem run_require_not {condition : Prop} [Decidable condition] (fails : ¬ condition) :
    (require condition).run = .ok none := by
  rw [require, if_neg fails]
  rfl

theorem run_byteAt {byte : UInt8} (isByte : buf[offset]? = some byte) :
    (byteAt buf offset).run = .ok (some byte) := by
  rw [byteAt, isByte]
  rfl

theorem run_readUIntLE {code : List UInt8} (stands : code <+: buf.drop offset) :
    (readUIntLE buf offset code.length).run = .ok (some (ofBytesLE code)) := by
  induction code generalizing offset with
  | nil => rfl
  | cons low rest ih =>
    obtain ⟨after, isAfter⟩ := stands
    have here : buf[offset]? = some low := by
      rw [← List.head?_drop, ← isAfter]
      rfl
    have later : rest <+: buf.drop (offset + 1) := by
      rw [← List.drop_drop, ← isAfter]
      exact List.prefix_append rest after
    rw [List.length_cons, readUIntLE, run_bind_some (run_byteAt here), run_bind_some (ih later),
      ofBytesLE_cons]
    rfl

end Reads

/-! ## Parsers -/

/-- A parser has the buffer, and an offset that moves. -/
abbrev Parser := ReaderT (List UInt8) (StateT Nat Parse)

/-- What a parser finds at an offset: a value and the next offset. -/
def Parser.at {α : Type} (parser : Parser α) (buf : List UInt8) (offset : Nat) :
    Except OutOfRange (Option (α × Nat)) :=
  ((parser.run buf).run offset).run

/-- The next byte, if there is one. -/
def nextByte : Parser UInt8 := fun buf offset => do
  require (offset < buf.length)
  let byte ← byteAt buf offset
  pure (byte, offset + 1)

/-- The next bytes, if there are that many. -/
def nextBytes (count : Nat) : Parser (List UInt8) := fun buf offset => do
  require (offset + count ≤ buf.length)
  pure (slice buf offset (offset + count), offset + count)

/-- Nothing can be parsed. -/
def unparsed {α : Type} : Parser α := fun _ _ => failure

section Parsers

variable {α β : Type} {buf : List UInt8} {offset : Nat}

theorem Parser.at_bind (first : Parser α) (second : α → Parser β) :
    (first >>= second).at buf offset = (first.at buf offset).bind fun found =>
        match found with
        | some pair => (second pair.1).at buf pair.2
        | none => .ok none := by
  show (OptionT.run (_ >>= _) : Except OutOfRange _) = _
  rw [OptionT.run_bind, Parser.at]
  show Option.elimM (OptionT.run (first buf offset)) _ _ = (OptionT.run (first buf offset)).bind _
  cases OptionT.run (first buf offset) with
  | error outside => rfl
  | ok found =>
    cases found with
    | none | some => rfl

/-- From no offset in the buffer does the parser read outside, and it finds just the values whose
code stands there. -/
def Recognizes (parser : Parser α) (form : List UInt8 → α → Prop) : Prop :=
  ∀ buf offset, offset ≤ buf.length → ∃ found, parser.at buf offset = .ok found ∧
    ∀ value next, found = some (value, next) ↔
      ∃ code, form code value ∧ code <+: buf.drop offset ∧ next = offset + code.length

/-- The code and the value of some object. -/
def Coded {γ : Type} (bytes : γ → List UInt8) (value : γ → α) (code : List UInt8)
    (found : α) : Prop :=
  ∃ object, bytes object = code ∧ value object = found

/-- Two codes stand one behind the other. -/
theorem append_prefix_drop {first second : List UInt8} :
    first ++ second <+: buf.drop offset ↔
      first <+: buf.drop offset ∧ second <+: buf.drop (offset + first.length) := by
  constructor
  · rintro ⟨rest, isRest⟩
    refine ⟨⟨second ++ rest, by rw [← isRest, List.append_assoc]⟩, rest, ?_⟩
    rw [← List.drop_drop, ← isRest, List.append_assoc, List.drop_left]
  · rintro ⟨⟨after, isAfter⟩, rest, isRest⟩
    refine ⟨rest, ?_⟩
    rw [← List.drop_drop, ← isAfter, List.drop_left] at isRest
    rw [List.append_assoc, isRest, isAfter]

/-- What stands at an offset is not longer than what is left. -/
theorem length_of_stands {code : List UInt8} (inside : offset ≤ buf.length)
    (stands : code <+: buf.drop offset) : offset + code.length ≤ buf.length := by
  have fits := stands.length_le
  rw [List.length_drop] at fits
  omega

namespace Recognizes

theorem congr {parser : Parser α} {form other : List UInt8 → α → Prop}
    (recognizes : Recognizes parser form)
    (same : ∀ code value, form code value ↔ other code value) : Recognizes parser other := by
  intro buf offset inside
  obtain ⟨found, ran, finds⟩ := recognizes buf offset inside
  refine ⟨found, ran, fun value next => ?_⟩
  simp only [finds, same]

theorem of_pure (value : α) :
    Recognizes (pure value) fun code found => code = [] ∧ found = value := by
  intro buf offset inside
  refine ⟨some (value, offset), rfl, fun found next => ?_⟩
  constructor
  · intro same
    cases same
    exact ⟨[], ⟨rfl, rfl⟩, List.nil_prefix, rfl⟩
  · rintro ⟨code, ⟨rfl, rfl⟩, _, rfl⟩
    rfl

theorem of_unparsed : Recognizes (unparsed : Parser α) fun _ _ => False := by
  intro buf offset inside
  refine ⟨none, rfl, fun value next => ?_⟩
  simp

/-- What follows a recognized part is recognized behind it. -/
theorem bind {first : Parser α} {second : α → Parser β} {form : List UInt8 → α → Prop}
    {later : α → List UInt8 → β → Prop} (recognizes : Recognizes first form)
    (follows : ∀ value, Recognizes (second value) (later value)) :
    Recognizes (first >>= second) fun code result =>
      ∃ value before after, form before value ∧ later value after result ∧
        code = before ++ after := by
  intro buf offset inside
  obtain ⟨found, ran, finds⟩ := recognizes buf offset inside
  rw [Parser.at_bind, ran]
  cases found with
  | none =>
    refine ⟨none, rfl, fun result next => ?_⟩
    constructor
    · nofun
    · rintro ⟨_, ⟨value, before, after, isForm, _, rfl⟩, stands, _⟩
      have impossible :=
        (finds value _).mpr ⟨before, isForm, (append_prefix_drop.mp stands).1, rfl⟩
      cases impossible
  | some pair =>
    obtain ⟨value, middle⟩ := pair
    obtain ⟨before, isForm, standsFirst, rfl⟩ := (finds value middle).mp rfl
    obtain ⟨result, ranLater, findsLater⟩ := follows value buf
      (offset + before.length) (length_of_stands inside standsFirst)
    refine ⟨result, ranLater, fun final next => ?_⟩
    rw [findsLater]
    constructor
    · rintro ⟨after, isLater, standsLater, rfl⟩
      refine ⟨before ++ after, ⟨value, before, after, isForm, isLater, rfl⟩,
        append_prefix_drop.mpr ⟨standsFirst, standsLater⟩, ?_⟩
      rw [List.length_append, Nat.add_assoc]
    · rintro ⟨_, ⟨other, start, after, otherForm, isLater, rfl⟩, stands, rfl⟩
      obtain ⟨standsStart, standsAfter⟩ := append_prefix_drop.mp stands
      have same := (finds other _).mpr ⟨start, otherForm, standsStart, rfl⟩
      simp only [Option.some.injEq, Prod.mk.injEq, Nat.add_left_cancel_iff] at same
      obtain ⟨rfl, sameLength⟩ := same
      rw [← sameLength] at standsAfter
      refine ⟨after, isLater, standsAfter, ?_⟩
      rw [List.length_append, sameLength, Nat.add_assoc]

/-- A recognized part whose value is changed. -/
theorem map {parser : Parser α} {form : List UInt8 → α → Prop} (recognizes : Recognizes parser form)
    (change : α → β) :
    Recognizes (parser >>= fun value => pure (change value)) fun code result =>
      ∃ value, form code value ∧ result = change value := by
  apply (recognizes.bind fun value => of_pure (change value)).congr
  intro code result
  constructor
  · rintro ⟨value, before, after, isForm, ⟨rfl, rfl⟩, rfl⟩
    exact ⟨value, by rwa [List.append_nil], rfl⟩
  · rintro ⟨value, isForm, rfl⟩
    exact ⟨value, code, [], isForm, ⟨rfl, rfl⟩, (List.append_nil code).symm⟩

theorem ite {yes no : Parser α} {form other : List UInt8 → α → Prop} (ifTrue : Recognizes yes form)
    (condition : Prop) [Decidable condition] (ifFalse : Recognizes no other) :
    Recognizes (if condition then yes else no) fun code value =>
      (condition ∧ form code value) ∨ (¬ condition ∧ other code value) := by
  by_cases holds : condition
  case pos =>
    rw [if_pos holds]
    exact ifTrue.congr fun code value => by simp [holds]
  case neg =>
    rw [if_neg holds]
    exact ifFalse.congr fun code value => by simp [holds]

end Recognizes

theorem nextByte_recognizes : Recognizes nextByte fun code byte => code = [byte] := by
  intro buf offset inside
  by_cases within : offset < buf.length
  case pos =>
    have here : buf[offset]? = some buf[offset] := List.getElem?_eq_getElem within
    have isHead : buf.drop offset = buf[offset] :: buf.drop (offset + 1) :=
      List.drop_eq_getElem_cons within
    refine ⟨some (buf[offset], offset + 1), ?_, fun byte next => ?_⟩
    · exact (run_bind_some (run_require within)).trans (run_bind_some (run_byteAt here))
    · constructor
      · intro same
        cases same
        refine ⟨_, rfl, ?_, rfl⟩
        rw [isHead]
        exact ⟨_, rfl⟩
      · rintro ⟨code, rfl, stands, rfl⟩
        rw [isHead, List.cons_prefix_cons] at stands
        rw [stands.1]
        rfl
  case neg =>
    refine ⟨none, run_bind_none (run_require_not within), fun byte next => ?_⟩
    constructor
    · nofun
    · rintro ⟨code, rfl, stands, _⟩
      have fits := length_of_stands inside stands
      rw [List.length_singleton] at fits
      omega

theorem nextBytes_recognizes (count : Nat) :
    Recognizes (nextBytes count) fun code bytes => code = bytes ∧ bytes.length = count := by
  intro buf offset inside
  have isSlice : slice buf offset (offset + count) = (buf.drop offset).take count := by
    rw [slice, Nat.add_sub_cancel_left]
  by_cases within : offset + count ≤ buf.length
  case pos =>
    have isLength : ((buf.drop offset).take count).length = count := by
      rw [List.length_take, List.length_drop]
      omega
    refine ⟨some (slice buf offset (offset + count), offset + count),
      run_bind_some (run_require within), fun bytes next => ?_⟩
    constructor
    · intro same
      cases same
      rw [isSlice]
      exact ⟨_, ⟨rfl, isLength⟩, List.take_prefix _ _, by rw [isLength]⟩
    · rintro ⟨code, ⟨rfl, isCount⟩, stands, rfl⟩
      rw [isSlice, ← isCount, ← List.prefix_iff_eq_take.mp stands]
  case neg =>
    refine ⟨none, run_bind_none (run_require_not within), fun bytes next => ?_⟩
    constructor
    · nofun
    · rintro ⟨code, ⟨rfl, isCount⟩, stands, _⟩
      have fits := length_of_stands inside stands
      omega

end Parsers

end Nightgate.Library
