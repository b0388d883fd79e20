import Nightgate.Submission.ActionRequests
import Nightgate.Submission.LandedRows

/-!
# Circuit arguments

The JSON arguments of a call become the byte arrays and integers that a circuit expects. A `$bytes`
or `$uint` tag decides first, at any depth; what is not tagged takes the declared type and keeps
its value.
-/

namespace Nightgate.Submission

open Library

/-- A number of the runtime: its value unless it is infinite, and its text. -/
structure JsNumber where
  value : Option Rat
  text : String

/-- A raw argument: a parsed JSON value, or a byte array or bigint passed in by code. An object is
the list of its own properties. -/
inductive RawArg where
  | null
  | bool (value : Bool)
  | number (value : JsNumber)
  | bigint (value : Int)
  | str (value : String)
  | bytes (value : List UInt8)
  | arr (values : List RawArg)
  | obj (fields : List (String × RawArg))

/-- The type of a circuit parameter or of a struct field. -/
inductive CircuitArgType where
  | bytes (name : String) (length : Option Nat)
  | uint (name : String) (maxval : Option Nat)
  | boolean (name : String)
  | struct (name : String) (elements : List CircuitArgType)
  | other (name : String)

def CircuitArgType.name : CircuitArgType → String
  | bytes name _ | uint name _ | boolean name | struct name _ | other name => name

/-- What a circuit is given. -/
inductive ArgValue where
  | bytes (value : List UInt8)
  | uint (value : Int)
  | bool (value : Bool)
  | struct (fields : List (String × ArgValue))
  | raw (value : RawArg)

structure CoercionError where
  index : Nat
  reason : String

namespace RawArg

def typeof : RawArg → String
  | null | bytes _ | arr _ | obj _ => "object"
  | bool _ => "boolean"
  | number _ => "number"
  | bigint _ => "bigint"
  | str _ => "string"

/-- An own property. -/
def ownField (name : String) (fields : List (String × RawArg)) : Option RawArg :=
  (fields.find? fun field => field.1 = name).map Prod.snd

end RawArg

/-- The integer a number is. -/
def JsNumber.integer? (number : JsNumber) : Option Int :=
  number.value.bind fun value => if value.den = 1 then some value.num else none

theorem radixDigit_lt {radix : Nat} {c : Char} {value : Nat}
    (isDigit : radixDigit radix c = some value) : value < radix := by
  simp only [radixDigit, Option.ite_none_right_eq_some, Option.some.injEq] at isDigit
  obtain ⟨below, rfl⟩ := isDigit
  exact below

def isHexDigit (c : Char) : Bool := (radixDigit 16 c).isSome

def hexPairs : List Char → List UInt8
  | high :: low :: rest =>
    UInt8.ofNat ((radixDigit 16 high).getD 0 * 16 + (radixDigit 16 low).getD 0) :: hexPairs rest
  | _ => []

/-- Bytes of the declared length, where one is declared. -/
def checkLength (bytes : List UInt8) (index : Nat) (expectedLen : Option Nat) :
    Except CoercionError (List UInt8) :=
  match expectedLen with
  | none => .ok bytes
  | some expected =>
    if bytes.length ≠ expected then
      .error ⟨index, "expected " ++ toString expected ++ " bytes (Bytes<" ++
        toString expected ++ ">), got " ++ toString bytes.length⟩
    else .ok bytes

def decodeHex (hex : String) (index : Nat) (expectedLen : Option Nat) :
    Except CoercionError (List UInt8) :=
  let clean := dropHexPrefix hex.toList
  if utf16Length (String.ofList clean) % 2 ≠ 0 then
    .error ⟨index, "hex string must have an even number of characters (got " ++
      toString (utf16Length (String.ofList clean)) ++ ")"⟩
  else if !clean.all isHexDigit then .error ⟨index, "value contains non-hex characters"⟩
  else checkLength (hexPairs clean) index expectedLen

/-- The byte a raw element is. -/
def byteOf : RawArg → Option UInt8
  | .number number =>
    number.integer?.bind fun n => if n < 0 ∨ 255 < n then none else some (UInt8.ofNat n.toNat)
  | _ => none

def numberArrayToBytes (elements : List RawArg) (index : Nat) (expectedLen : Option Nat) :
    Except CoercionError (List UInt8) :=
  match elements.mapM byteOf with
  | none => .error ⟨index, "byte array elements must be integers in [0, 255]"⟩
  | some bytes => checkLength bytes index expectedLen

/-- The integer of a text that `/^-?\d+$/` matches. -/
def decimalInteger : List Char → Option Int
  | '-' :: digits => (radixValue 10 digits).map fun value => -value
  | digits => radixValue 10 digits

def MAX_SAFE_INTEGER : Nat := 2 ^ 53 - 1

/-- The integer a raw value stands for. -/
def readInteger (value : RawArg) (index : Nat) : Except CoercionError Int :=
  match value with
  | .bigint v => .ok v
  | .number number =>
    match number.integer? with
    | some v => .ok v
    | none =>
      .error ⟨index, "Uint value must be an integer (got " ++ number.text ++ ")"⟩
  | .str text =>
    match decimalInteger (trim text.toList) with
    | some v => .ok v
    | none =>
      .error ⟨index, "Uint value must be a decimal integer string (got \"" ++ text ++ "\")"⟩
  | value => .error ⟨index, "cannot coerce " ++ value.typeof ++ " to Uint"⟩

/-- Larger limits lose precision in `JSON.parse`; the circuit checks the exact limit. -/
def exceedsMax (v : Int) (maxval : Option Nat) : Bool :=
  maxval.any fun max => max ≤ MAX_SAFE_INTEGER ∧ (max : Int) < v

def toBigInt (value : RawArg) (index : Nat) (maxval : Option Nat) : Except CoercionError Int := do
  let v ← readInteger value index
  if v < 0 then
    .error ⟨index, "Uint value must be non-negative (got " ++ toString v ++ ")"⟩
  else if exceedsMax v maxval then
    .error ⟨index, "Uint value " ++ toString v ++ " exceeds maximum " ++ toString (maxval.getD 0)⟩
  else pure v

/-! ## The coercion -/

def declaredLength : Option CircuitArgType → Option Nat
  | some (.bytes _ length) => length
  | _ => none

def declaredMax : Option CircuitArgType → Option Nat
  | some (.uint _ maxval) => maxval
  | _ => none

/-- What a tag decides. -/
def coerceTagged (raw : RawArg) (argType : Option CircuitArgType) (index : Nat) :
    Option (Except CoercionError ArgValue) :=
  match raw with
  | .obj fields =>
    match RawArg.ownField "$bytes" fields with
    | some (.str hex) => some ((decodeHex hex index (declaredLength argType)).map .bytes)
    | some _ => some (.error ⟨index, "$bytes must be a hex string"⟩)
    | none =>
      (RawArg.ownField "$uint" fields).map fun value =>
        (toBigInt value index (declaredMax argType)).map .uint
  | _ => none

/-- `out[name] = value` on a plain object. The name `__proto__` sets no property of its own. -/
def assignField (out : List (String × ArgValue)) (name : String) (value : ArgValue) :
    List (String × ArgValue) :=
  if name = "__proto__" then out
  else if name ∈ out.map Prod.fst then
    out.map fun field => if field.1 = name then (name, value) else field
  else out ++ [(name, value)]

def coerceBytes (raw : RawArg) (length : Option Nat) (index : Nat) :
    Except CoercionError (List UInt8) :=
  match raw with
  | .bytes bytes => checkLength bytes index length
  | .str text => decodeHex text index length
  | .arr elements => numberArrayToBytes elements index length
  | raw =>
    .error ⟨index, "expected hex string or byte array for Bytes<" ++
      (length.map toString).getD "?" ++ ">, got " ++ raw.typeof⟩

mutual

/-- An argument of a declared type. -/
def coerceOne (raw : RawArg) (index : Nat) (argType : CircuitArgType) :
    Except CoercionError ArgValue :=
  match coerceTagged raw (some argType) index with
  | some decided => decided
  | none =>
    match argType with
    | .bytes _ length => (coerceBytes raw length index).map .bytes
    | .uint _ maxval => (toBigInt raw index maxval).map .uint
    | .boolean _ =>
      match raw with
      | .bool value => .ok (.bool value)
      | raw => .error ⟨index, "expected boolean, got " ++ raw.typeof⟩
    | .struct name elements =>
      match raw with
      | .obj fields => (coerceFields fields index elements []).map .struct
      | raw =>
        .error ⟨index, "expected an object for struct " ++ name ++ ", got " ++ raw.typeof⟩
    | .other _ => .ok (.raw raw)

def coerceFields (fields : List (String × RawArg)) (index : Nat) (elements : List CircuitArgType)
    (out : List (String × ArgValue)) : Except CoercionError (List (String × ArgValue)) :=
  match elements with
  | [] => .ok out
  | element :: rest =>
    match RawArg.ownField element.name fields with
    | none => .error ⟨index, "struct field \"" ++ element.name ++ "\" is missing"⟩
    | some raw => do
        let value ← coerceOne raw index element
        coerceFields fields index rest (assignField out element.name value)

end

/-- An argument whose type may be unknown. -/
def coerceArg (raw : RawArg) (argType : Option CircuitArgType) (index : Nat) :
    Except CoercionError ArgValue :=
  match argType with
  | some argType => coerceOne raw index argType
  | none =>
    (coerceTagged raw none index).getD
      (.error ⟨index, "could not determine the circuit parameter type (the contract's " ++
        "contract-info.json was not found - check the registered artifact path). " ++
        "Pass a tagged value instead: \x7b\"$bytes\":\"<hex>\"\x7d or \x7b\"$uint\":<n>\x7d."⟩)

def coerceFrom (argTypes : List CircuitArgType) (index : Nat) :
    List RawArg → Except CoercionError (List ArgValue)
  | [] => .ok []
  | raw :: rest => do
      let value ← coerceArg raw argTypes[index]? index
      let values ← coerceFrom argTypes (index + 1) rest
      pure (value :: values)

def coerceCircuitArgs (rawArgs : List RawArg) (argTypes : Option (List CircuitArgType)) :
    Except CoercionError (List ArgValue) :=
  coerceFrom (argTypes.getD []) 0 rawArgs

/-- The multiple of a unit nearest to a number, the even one in the middle of two. -/
def nearestMultiple (unit n : Nat) : Nat :=
  if 2 * (n % unit) < unit ∨ 2 * (n % unit) = unit ∧ n / unit % 2 = 0 then n / unit * unit
  else (n / unit + 1) * unit

/-- The double nearest to an integer, below the overflow: 53 bits are kept. -/
def nearestDouble (n : Int) : Int :=
  n.sign * nearestMultiple (2 ^ (Nat.log2 n.natAbs - 52)) n.natAbs

/-- What `JSON.parse` makes of an integer literal. -/
def integerLiteral (n : Int) : RawArg :=
  .number ⟨some (nearestDouble n), toString (nearestDouble n)⟩

/-- Integers of at most 53 bits are doubles. -/
theorem nearestDouble_of_small {n : Int} (small : n.natAbs ≤ 2 ^ 53) : nearestDouble n = n := by
  have exact : nearestMultiple (2 ^ (Nat.log2 n.natAbs - 52)) n.natAbs = n.natAbs := by
    rcases Nat.lt_or_eq_of_le small with below | boundary
    · have bits : Nat.log2 n.natAbs - 52 = 0 := by
        by_cases zero : n.natAbs = 0
        · rw [zero]
          rfl
        · have := (Nat.log2_lt zero).mpr below
          omega
      rw [bits, nearestMultiple, if_pos (Or.inl (by omega)), Nat.pow_zero, Nat.div_one, Nat.mul_one]
    · rw [boundary]
      decide
  rw [nearestDouble, exact]
  exact Int.sign_mul_natAbs n

/-- Each byte is two hex digits. -/
inductive HexText : List Char → List UInt8 → Prop
  | nil : HexText [] []
  | cons {high low : Char} {h l : Nat} {byte : UInt8} {rest : List Char} {bytes : List UInt8}
      (isHigh : radixDigit 16 high = some h) (isLow : radixDigit 16 low = some l)
      (isByte : byte.toNat = 16 * h + l) (later : HexText rest bytes) :
      HexText (high :: low :: rest) (byte :: bytes)

/-- The bytes a raw value writes. -/
inductive SpellsBytes : RawArg → List UInt8 → Prop
  | text {text : String} {bytes : List UInt8} (hex : HexText (dropHexPrefix text.toList) bytes) :
      SpellsBytes (.str text) bytes
  | array (bytes : List UInt8) : SpellsBytes (.bytes bytes) bytes
  | list {elements : List RawArg} {bytes : List UInt8}
      (each : List.Forall₂ (fun element byte => ∃ text : String,
        element = .number ⟨some (byte.toNat : Int), text⟩) elements bytes) :
      SpellsBytes (.arr elements) bytes

/-- The integer a raw value writes. -/
inductive SpellsInteger : RawArg → Int → Prop
  | bigint (v : Int) : SpellsInteger (.bigint v) v
  | number (v : Int) (text : String) : SpellsInteger (.number ⟨some (v : Rat), text⟩) v
  | text {text : String} {v : Int} (decimal : decimalInteger (trim text.toList) = some v) :
      SpellsInteger (.str text) v

/-- No negative integer, and none above a limit that is exact. -/
def InRange (maxval : Option Nat) (v : Int) : Prop :=
  0 ≤ v ∧ ∀ max, maxval = some max → max ≤ MAX_SAFE_INTEGER → v ≤ max

/-- The declared length, where one is declared. -/
def OfLength (length : Option Nat) (bytes : List UInt8) : Prop :=
  ∀ expected, length = some expected → bytes.length = expected

def RawArg.Tagged : RawArg → Prop
  | .obj fields => ownField "$bytes" fields ≠ none ∨ ownField "$uint" fields ≠ none
  | _ => False

mutual

/-- A value that follows its raw argument and, where that is not tagged, its declared type. -/
inductive Coerced : Option CircuitArgType → RawArg → ArgValue → Prop
  | taggedBytes {argType : Option CircuitArgType} {fields : List (String × RawArg)} {hex : String}
      {bytes : List UInt8} (tag : RawArg.ownField "$bytes" fields = some (.str hex))
      (spells : HexText (dropHexPrefix hex.toList) bytes)
      (sized : OfLength (declaredLength argType) bytes) :
      Coerced argType (.obj fields) (.bytes bytes)
  | taggedUint {argType : Option CircuitArgType} {fields : List (String × RawArg)} {raw : RawArg}
      {v : Int} (noBytes : RawArg.ownField "$bytes" fields = none)
      (tag : RawArg.ownField "$uint" fields = some raw) (spells : SpellsInteger raw v)
      (inRange : InRange (declaredMax argType) v) :
      Coerced argType (.obj fields) (.uint v)
  | bytes {name : String} {length : Option Nat} {raw : RawArg} {bytes : List UInt8}
      (untagged : ¬raw.Tagged) (spells : SpellsBytes raw bytes) (sized : OfLength length bytes) :
      Coerced (some (.bytes name length)) raw (.bytes bytes)
  | uint {name : String} {maxval : Option Nat} {raw : RawArg} {v : Int}
      (untagged : ¬raw.Tagged) (spells : SpellsInteger raw v) (inRange : InRange maxval v) :
      Coerced (some (.uint name maxval)) raw (.uint v)
  | boolean (name : String) (value : Bool) :
      Coerced (some (.boolean name)) (.bool value) (.bool value)
  | struct {name : String} {elements : List CircuitArgType} {fields : List (String × RawArg)}
      {values : List (String × ArgValue)} (untagged : ¬(RawArg.obj fields).Tagged)
      (each : CoercedFields elements fields values) :
      Coerced (some (.struct name elements)) (.obj fields) (.struct values)
  | other {name : String} {raw : RawArg} (untagged : ¬raw.Tagged) :
      Coerced (some (.other name)) raw (.raw raw)

/-- The values of a struct, one for each declared field. -/
inductive CoercedFields :
    List CircuitArgType → List (String × RawArg) → List (String × ArgValue) → Prop
  | nil (fields : List (String × RawArg)) : CoercedFields [] fields []
  | cons {element : CircuitArgType} {rest : List CircuitArgType} {fields : List (String × RawArg)}
      {raw : RawArg} {value : ArgValue} {values : List (String × ArgValue)}
      (own : RawArg.ownField element.name fields = some raw)
      (first : Coerced (some element) raw value) (later : CoercedFields rest fields values) :
      CoercedFields (element :: rest) fields ((element.name, value) :: values)

end

/-- The fields of every struct have names of their own, and none is `__proto__`. -/
inductive CircuitArgType.WellNamed : CircuitArgType → Prop
  | bytes (name : String) (length : Option Nat) : WellNamed (.bytes name length)
  | uint (name : String) (maxval : Option Nat) : WellNamed (.uint name maxval)
  | boolean (name : String) : WellNamed (.boolean name)
  | other (name : String) : WellNamed (.other name)
  | struct {name : String} {elements : List CircuitArgType}
      (distinct : (elements.map CircuitArgType.name).Nodup)
      (assignable : "__proto__" ∉ elements.map CircuitArgType.name)
      (each : ∀ element ∈ elements, WellNamed element) : WellNamed (.struct name elements)

/-! ## One argument -/

theorem hexPairs_spells {text : List Char} (digits : text.all isHexDigit = true)
    (even : text.length % 2 = 0) : HexText text (hexPairs text) := by
  induction text using hexPairs.induct with
  | case1 high low rest ih =>
    rw [List.all_cons, List.all_cons, Bool.and_eq_true, Bool.and_eq_true] at digits
    obtain ⟨h, isHigh⟩ := Option.isSome_iff_exists.mp digits.1
    obtain ⟨l, isLow⟩ := Option.isSome_iff_exists.mp digits.2.1
    have highSmall := radixDigit_lt isHigh
    have lowSmall := radixDigit_lt isLow
    rw [hexPairs, isHigh, isLow]
    refine .cons isHigh isLow ?_ (ih digits.2.2 ?_)
    · rw [Option.getD_some, Option.getD_some, UInt8.toNat_ofNat']
      omega
    · simp only [List.length_cons] at even
      omega
  | case2 text short =>
    cases text with
    | nil => exact .nil
    | cons c rest =>
      cases rest with
      | nil => simp at even
      | cons d rest => exact absurd rfl (short c d rest)

theorem isHexDigit_small {c : Char} (isDigit : isHexDigit c = true) : c.toNat < 0x10000 := by
  have below : ∀ last : Char, last.toNat < 0x10000 → c ≤ last → c.toNat < 0x10000 := by
    intro last small within
    exact Nat.lt_of_le_of_lt (UInt32.le_iff_toNat_le.mp (Char.le_def.mp within)) small
  obtain ⟨value, isValue⟩ := Option.isSome_iff_exists.mp isDigit
  simp only [radixDigit, Option.ite_none_right_eq_some, Option.some.injEq] at isValue
  have within := isValue.1
  split at within
  next decimal => exact below '9' (by decide) decimal.2
  · split at within
    next lower => exact below 'f' (by decide) lower.2
    · split at within
      next upper => exact below 'F' (by decide) upper.2
      · omega

theorem utf16Length_of_hex {text : List Char} (digits : text.all isHexDigit = true) :
    utf16Length (String.ofList text) = text.length := by
  rw [utf16Length, String.toList_ofList]
  induction text with
  | nil => rfl
  | cons c rest ih =>
    rw [List.all_cons, Bool.and_eq_true] at digits
    have small := isHexDigit_small digits.1
    rw [List.map_cons, List.sum_cons, ih digits.2, List.length_cons, if_pos small]
    omega

variable {index : Nat} {expectedLen : Option Nat}

theorem checkLength_ok {bytes result : List UInt8}
    (checked : checkLength bytes index expectedLen = .ok result) :
    result = bytes ∧ OfLength expectedLen bytes := by
  cases expectedLen with
  | none =>
    cases checked
    refine ⟨rfl, ?_⟩
    intro expected isExpected
    cases isExpected
  | some expected =>
    rw [checkLength] at checked
    split at checked
    · cases checked
    next same =>
      cases checked
      refine ⟨rfl, ?_⟩
      intro other isOther
      cases isOther
      exact not_not.mp same

theorem decodeHex_ok {hex : String} {bytes : List UInt8}
    (decoded : decodeHex hex index expectedLen = .ok bytes) :
    HexText (dropHexPrefix hex.toList) bytes ∧ OfLength expectedLen bytes := by
  rw [decodeHex] at decoded
  split at decoded
  · cases decoded
  next even =>
    split at decoded
    · cases decoded
    next digits =>
      obtain ⟨rfl, sized⟩ := checkLength_ok decoded
      have allDigits : (dropHexPrefix hex.toList).all isHexDigit = true := by simpa using digits
      rw [utf16Length_of_hex allDigits] at even
      exact ⟨hexPairs_spells allDigits (not_not.mp even), sized⟩

theorem integer?_some {number : JsNumber} {v : Int} (isInteger : number.integer? = some v) :
    number.value = some (v : Rat) := by
  rw [JsNumber.integer?, Option.bind_eq_some_iff] at isInteger
  obtain ⟨value, isValue, whole⟩ := isInteger
  split at whole
  next denominator =>
    cases whole
    rw [isValue, Rat.coe_int_num_of_den_eq_one denominator]
  · cases whole

theorem byteOf_some {element : RawArg} {byte : UInt8} (isByte : byteOf element = some byte) :
    ∃ text : String, element = .number ⟨some (byte.toNat : Int), text⟩ := by
  cases element with
  | number number =>
    rw [byteOf, Option.bind_eq_some_iff] at isByte
    obtain ⟨n, isInteger, small⟩ := isByte
    split at small
    · cases small
    next inRange =>
      cases small
      obtain ⟨value, text⟩ := number
      refine ⟨text, ?_⟩
      have isValue := integer?_some isInteger
      dsimp only at isValue
      have whole : ((UInt8.ofNat n.toNat).toNat : Int) = n := by
        rw [UInt8.toNat_ofNat']
        omega
      rw [isValue, whole]
  | null | bool value | bigint value | str value | bytes value | arr values | obj fields =>
    cases isByte

theorem numberArrayToBytes_ok {elements : List RawArg}
    {bytes : List UInt8} (decoded : numberArrayToBytes elements index expectedLen = .ok bytes) :
    SpellsBytes (.arr elements) bytes ∧ OfLength expectedLen bytes := by
  rw [numberArrayToBytes] at decoded
  split at decoded
  · cases decoded
  next read isRead =>
    obtain ⟨rfl, sized⟩ := checkLength_ok decoded
    refine ⟨.list ?_, sized⟩
    exact (forall₂_of_mapM_some isRead).imp fun _ _ => byteOf_some

variable {raw : RawArg}

theorem coerceBytes_ok {length : Option Nat} {bytes : List UInt8}
    (coerced : coerceBytes raw length index = .ok bytes) :
    SpellsBytes raw bytes ∧ OfLength length bytes := by
  cases raw with
  | bytes value =>
    obtain ⟨rfl, sized⟩ := checkLength_ok coerced
    exact ⟨.array _, sized⟩
  | str text =>
    obtain ⟨spells, sized⟩ := decodeHex_ok coerced
    exact ⟨.text spells, sized⟩
  | arr elements => exact numberArrayToBytes_ok coerced
  | null | bool value | number value | bigint value | obj fields => cases coerced

theorem readInteger_ok {v : Int} (read : readInteger raw index = .ok v) : SpellsInteger raw v := by
  cases raw with
  | bigint value =>
    cases read
    exact .bigint v
  | number number =>
    rw [readInteger] at read
    split at read
    next isInteger =>
      cases read
      obtain ⟨value, text⟩ := number
      have isValue := integer?_some isInteger
      dsimp only at isValue
      rw [isValue]
      exact .number v text
    · cases read
  | str text =>
    rw [readInteger] at read
    split at read
    next decimal =>
      cases read
      exact .text decimal
    · cases read
  | null | bool value | bytes value | arr values | obj fields => cases read

theorem toBigInt_ok {maxval : Option Nat} {v : Int}
    (read : toBigInt raw index maxval = .ok v) : SpellsInteger raw v ∧ InRange maxval v := by
  obtain ⟨value, isValue, checked⟩ := of_bind_ok read
  split at checked
  · cases checked
  next nonneg =>
    split at checked
    · cases checked
    next within =>
      cases checked
      refine ⟨readInteger_ok isValue, Int.not_lt.mp nonneg, ?_⟩
      intro max isMax exact
      rw [isMax, exceedsMax, Option.any_some, decide_eq_true_eq] at within
      exact Int.not_lt.mp fun above => within ⟨exact, above⟩

theorem coerceTagged_none {argType : Option CircuitArgType}
    (undecided : coerceTagged raw argType index = none) : ¬raw.Tagged := by
  cases raw with
  | obj fields =>
    rw [coerceTagged] at undecided
    split at undecided
    · cases undecided
    · cases undecided
    next noBytes =>
      have noUint := Option.map_eq_none_iff.mp undecided
      rintro (bytes | uint)
      · exact bytes noBytes
      · exact uint noUint
  | null | bool value | number value | bigint value | str value | bytes value | arr values =>
    exact id

theorem coerceTagged_ok {argType : Option CircuitArgType}
    {value : ArgValue} (decided : coerceTagged raw argType index = some (.ok value)) :
    Coerced argType raw value := by
  cases raw with
  | obj fields =>
    rw [coerceTagged] at decided
    split at decided
    next hex tag =>
      obtain ⟨bytes, decoded, rfl⟩ := of_map_ok (Option.some.inj decided)
      obtain ⟨spells, sized⟩ := decodeHex_ok decoded
      exact .taggedBytes tag spells sized
    · cases decided
    next noBytes =>
      obtain ⟨raw, tag, decided⟩ := Option.map_eq_some_iff.mp decided
      obtain ⟨v, read, rfl⟩ := of_map_ok decided
      obtain ⟨spells, inRange⟩ := toBigInt_ok read
      exact .taggedUint noBytes tag spells inRange
  | null | bool value | number value | bigint value | str value | bytes value | arr values =>
    cases decided

theorem assignField_fresh {out : List (String × ArgValue)} {name : String} {value : ArgValue}
    (assignable : name ≠ "__proto__") (fresh : name ∉ out.map Prod.fst) :
    assignField out name value = out ++ [(name, value)] := by
  rw [assignField, if_neg assignable, if_neg fresh]

mutual

/-- By recursion on the type, as the code goes. -/
theorem coerceOne_ok {raw : RawArg} {index : Nat} {value : ArgValue} :
    (argType : CircuitArgType) → argType.WellNamed →
      coerceOne raw index argType = .ok value → Coerced (some argType) raw value
  | .bytes name length, _, coerced => by
      rw [coerceOne.eq_def] at coerced
      split at coerced
      next decided => exact coerceTagged_ok (decided.trans (congrArg some coerced))
      next undecided =>
        obtain ⟨bytes, read, rfl⟩ := of_map_ok coerced
        obtain ⟨spells, sized⟩ := coerceBytes_ok read
        exact .bytes (coerceTagged_none undecided) spells sized
  | .uint name maxval, _, coerced => by
      rw [coerceOne.eq_def] at coerced
      split at coerced
      next decided => exact coerceTagged_ok (decided.trans (congrArg some coerced))
      next undecided =>
        obtain ⟨v, read, rfl⟩ := of_map_ok coerced
        obtain ⟨spells, inRange⟩ := toBigInt_ok read
        exact .uint (coerceTagged_none undecided) spells inRange
  | .boolean name, _, coerced => by
      rw [coerceOne.eq_def] at coerced
      split at coerced
      next decided => exact coerceTagged_ok (decided.trans (congrArg some coerced))
      next undecided =>
        dsimp only at coerced
        split at coerced
        next b =>
          cases coerced
          exact .boolean name b
        · cases coerced
  | .other name, _, coerced => by
      rw [coerceOne.eq_def] at coerced
      split at coerced
      next decided => exact coerceTagged_ok (decided.trans (congrArg some coerced))
      next undecided =>
        cases coerced
        exact .other (coerceTagged_none undecided)
  | .struct name elements, named, coerced => by
      rw [coerceOne.eq_def] at coerced
      split at coerced
      next decided => exact coerceTagged_ok (decided.trans (congrArg some coerced))
      next undecided =>
        dsimp only at coerced
        split at coerced
        next fields =>
          obtain ⟨out, read, rfl⟩ := of_map_ok coerced
          cases named with
          | struct distinct assignable each =>
            obtain ⟨values, isOut, all⟩ :=
              coerceFields_ok elements each distinct assignable (by simp) read
            rw [List.nil_append] at isOut
            exact isOut ▸ .struct (coerceTagged_none undecided) all
        · cases coerced

theorem coerceFields_ok {fields : List (String × RawArg)} {index : Nat}
    {out result : List (String × ArgValue)} :
    (elements : List CircuitArgType) → (∀ element ∈ elements, element.WellNamed) →
      (elements.map CircuitArgType.name).Nodup →
      "__proto__" ∉ elements.map CircuitArgType.name →
      (∀ name ∈ elements.map CircuitArgType.name, name ∉ out.map Prod.fst) →
      coerceFields fields index elements out = .ok result →
        ∃ values, result = out ++ values ∧ CoercedFields elements fields values
  | [], _, _, _, _, coerced => by
      rw [coerceFields] at coerced
      cases coerced
      exact ⟨[], (List.append_nil out).symm, .nil fields⟩
  | element :: rest, each, distinct, assignable, fresh, coerced => by
      rw [coerceFields] at coerced
      split at coerced
      · cases coerced
      next raw own =>
        obtain ⟨value, isValue, coerced⟩ := of_bind_ok coerced
        rw [List.map_cons, List.nodup_cons] at distinct
        rw [List.map_cons, List.mem_cons, not_or] at assignable
        have isFresh := fresh element.name List.mem_cons_self
        rw [assignField_fresh (Ne.symm assignable.1) isFresh] at coerced
        have first := coerceOne_ok element (each element List.mem_cons_self) isValue
        obtain ⟨values, isResult, later⟩ := coerceFields_ok rest
          (fun other listed => each other (List.mem_cons_of_mem _ listed)) distinct.2 assignable.2
          (by
            intro name listed stored
            rw [List.map_append, List.mem_append] at stored
            rcases stored with stored | isNew
            · exact fresh name (List.mem_cons_of_mem _ listed) stored
            · simp only [List.map_singleton, List.mem_singleton] at isNew
              subst isNew
              exact distinct.1 listed) coerced
        refine ⟨(element.name, value) :: values, ?_, .cons own first later⟩
        rw [isResult, List.append_assoc, List.singleton_append]

end

theorem coerceArg_ok {argType : Option CircuitArgType}
    {value : ArgValue} (named : ∀ declared, argType = some declared → declared.WellNamed)
    (coerced : coerceArg raw argType index = .ok value) : Coerced argType raw value := by
  cases argType with
  | some declared => exact coerceOne_ok declared (named declared rfl) coerced
  | none =>
    rw [coerceArg] at coerced
    cases decided : coerceTagged raw none index with
    | none =>
      rw [decided, Option.getD_none] at coerced
      cases coerced
    | some result =>
      rw [decided, Option.getD_some] at coerced
      exact coerceTagged_ok (decided.trans (congrArg some coerced))

theorem coerceFrom_ok {argTypes : List CircuitArgType}
    (named : ∀ declared ∈ argTypes, declared.WellNamed) {raws : List RawArg}
    {values : List ArgValue} (coerced : coerceFrom argTypes index raws = .ok values) :
    values.length = raws.length ∧ ∀ place raw, raws[place]? = some raw →
      ∃ value, values[place]? = some value ∧ Coerced argTypes[index + place]? raw value := by
  induction raws generalizing index values with
  | nil =>
    cases coerced
    refine ⟨rfl, ?_⟩
    intro place raw isRaw
    cases isRaw
  | cons first rest ih =>
    obtain ⟨value, isValue, coerced⟩ := of_bind_ok coerced
    obtain ⟨later, isLater, coerced⟩ := of_bind_ok coerced
    cases coerced
    obtain ⟨sameLength, each⟩ := ih isLater
    refine ⟨congrArg (· + 1) sameLength, ?_⟩
    intro place raw isRaw
    cases place with
    | zero =>
      cases isRaw
      refine ⟨value, rfl, coerceArg_ok ?_ isValue⟩
      intro declared isDeclared
      exact named declared (List.mem_of_getElem? isDeclared)
    | succ place =>
      obtain ⟨found, isFound, follows⟩ := each place raw isRaw
      refine ⟨found, isFound, ?_⟩
      rw [Nat.add_assoc, Nat.add_comm 1 place] at follows
      exact follows

/-! ## Untagged arguments -/

mutual

/-- A value of exactly the declared type; the range of an integer as far as its limit is exact. -/
inductive OfType : CircuitArgType → ArgValue → Prop
  | bytes {name : String} {length : Option Nat} {bytes : List UInt8}
      (sized : OfLength length bytes) : OfType (.bytes name length) (.bytes bytes)
  | uint {name : String} {maxval : Option Nat} {v : Int} (inRange : InRange maxval v) :
      OfType (.uint name maxval) (.uint v)
  | boolean (name : String) (value : Bool) : OfType (.boolean name) (.bool value)
  | struct {name : String} {elements : List CircuitArgType} {values : List (String × ArgValue)}
      (each : OfTypes elements values) : OfType (.struct name elements) (.struct values)
  | other (name : String) (value : RawArg) : OfType (.other name) (.raw value)

/-- The declared fields and no others. -/
inductive OfTypes : List CircuitArgType → List (String × ArgValue) → Prop
  | nil : OfTypes [] []
  | cons {element : CircuitArgType} {rest : List CircuitArgType} {value : ArgValue}
      {values : List (String × ArgValue)} (first : OfType element value)
      (later : OfTypes rest values) :
      OfTypes (element :: rest) ((element.name, value) :: values)

end

theorem RawArg.tagged_of_bytes {fields : List (String × RawArg)} {tag : RawArg}
    (own : ownField "$bytes" fields = some tag) : (RawArg.obj fields).Tagged := by
  left
  rw [own]
  exact Option.some_ne_none tag

theorem RawArg.tagged_of_uint {fields : List (String × RawArg)} {tag : RawArg}
    (own : ownField "$uint" fields = some tag) : (RawArg.obj fields).Tagged := by
  right
  rw [own]
  exact Option.some_ne_none tag

/-- A tagged object, or an object with such a field at any depth. -/
inductive HasTag : RawArg → Prop
  | here {raw : RawArg} (tagged : raw.Tagged) : HasTag raw
  | within {fields : List (String × RawArg)} {name : String} {raw : RawArg}
      (own : RawArg.ownField name fields = some raw) (tagged : HasTag raw) : HasTag (.obj fields)

mutual

theorem Coerced.ofType {argType : CircuitArgType} {raw : RawArg} {value : ArgValue} :
    Coerced (some argType) raw value → ¬HasTag raw → OfType argType value
  | .taggedBytes tag _ _, untagged => absurd (.here (RawArg.tagged_of_bytes tag)) untagged
  | .taggedUint _ tag _ _, untagged => absurd (.here (RawArg.tagged_of_uint tag)) untagged
  | .bytes _ _ sized, _ => .bytes sized
  | .uint _ _ inRange, _ => .uint inRange
  | .boolean name value, _ => .boolean name value
  | .struct _ each, untagged => .struct (each.ofTypes untagged)
  | .other _, _ => .other _ _

theorem CoercedFields.ofTypes {elements : List CircuitArgType} {fields : List (String × RawArg)}
    {values : List (String × ArgValue)} :
    CoercedFields elements fields values → ¬HasTag (.obj fields) → OfTypes elements values
  | .nil _, _ => .nil
  | .cons own first later, untagged =>
    .cons (first.ofType fun tagged => untagged (.within own tagged)) (later.ofTypes untagged)

end

/-- Every argument that is accepted follows its tag or its declared type at every depth, spells
the value that was passed, and has exactly its declared type when nothing in it is tagged. Number
literals of at most 53 bits are passed as they are written. -/
theorem coerceCircuitArgs_respects (argTypes : Option (List CircuitArgType))
    (named : ∀ declared ∈ argTypes.getD [], declared.WellNamed) (raws : List RawArg)
    (values : List ArgValue) (accepted : coerceCircuitArgs raws argTypes = .ok values) :
    values.length = raws.length ∧ (∀ (index : Nat) (raw : RawArg), raws[index]? = some raw →
        ∃ value, values[index]? = some value ∧
        Coerced (argTypes.getD [])[index]? raw value ∧
        ∀ declared, (argTypes.getD [])[index]? = some declared → ¬HasTag raw →
          OfType declared value) ∧
      ∀ n v : Int, n.natAbs ≤ 2 ^ 53 → SpellsInteger (integerLiteral n) v → v = n := by
  obtain ⟨sameLength, each⟩ := coerceFrom_ok named accepted
  refine ⟨sameLength, ?_, ?_⟩
  · intro index raw isRaw
    obtain ⟨value, isValue, follows⟩ := each index raw isRaw
    rw [Nat.zero_add] at follows
    refine ⟨value, isValue, follows, ?_⟩
    intro declared isDeclared untagged
    rw [isDeclared] at follows
    exact follows.ofType untagged
  · intro n v small spells
    rw [integerLiteral, nearestDouble_of_small small] at spells
    generalize isLiteral : RawArg.number ⟨some (n : Rat), toString n⟩ = literal at spells
    cases spells with
    | bigint | text => cases isLiteral
    | number v text =>
      simp only [RawArg.number.injEq, JsNumber.mk.injEq, Option.some.injEq, Rat.intCast_inj]
        at isLiteral
      exact isLiteral.1.symm

/-- A coin with a tagged field, and a flag. -/
theorem coerceCircuitArgs_respects_coin :
    let coin := CircuitArgType.struct "coin" [.bytes "nonce" (some 2), .uint "value" (some 255)]
    let raw := RawArg.obj [("value", .obj [("$uint", .str "12")]), ("nonce", .str "0xaB01")]
    Coerced (some coin) raw (.struct [("nonce", .bytes [0xab, 0x01]), ("value", .uint 12)]) := by
  obtain ⟨_, each, _⟩ := coerceCircuitArgs_respects
    (some [.struct "coin" [.bytes "nonce" (some 2), .uint "value" (some 255)], .boolean "flag"])
    (by
      intro declared listed
      rcases List.mem_cons.mp listed with rfl | listed
      · refine .struct (by decide) (by decide) ?_
        intro element isElement
        rcases List.mem_cons.mp isElement with rfl | isElement
        · exact .bytes _ _
        · rcases List.mem_singleton.mp isElement with rfl
          exact .uint _ _
      · rcases List.mem_singleton.mp listed with rfl
        exact .boolean _)
    [.obj [("value", .obj [("$uint", .str "12")]), ("nonce", .str "0xaB01")], .bool true]
    [.struct [("nonce", .bytes [0xab, 0x01]), ("value", .uint 12)], .bool true] rfl
  obtain ⟨value, isValue, follows, _⟩ := each 0 _ rfl
  cases isValue
  exact follows

/-- A tag decides before the type does: a flag becomes an integer. And a number above 53 bits is
not the one that was written. -/
theorem tagged_flag_is_integer :
    (¬ ∀ (argType : CircuitArgType) (raw : RawArg) (value : ArgValue),
      coerceCircuitArgs [raw] (some [argType]) = .ok [value] → OfType argType value) ∧
    coerceCircuitArgs [integerLiteral 9007199254740993] (some [.uint "value" none]) =
      .ok [.uint 9007199254740992] := by
  constructor
  · intro respects
    have accepted : coerceCircuitArgs [.obj [("$uint", .str "7")]] (some [.boolean "flag"]) =
        .ok [.uint 7] := rfl
    cases respects _ _ _ accepted
  · rfl

end Nightgate.Submission
