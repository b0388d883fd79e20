import Nightgate.Library.Json
import Mathlib.Tactic.IntervalCases

/-!
# The text of a JSON value

`JSON.stringify`, for values with integers only. A text determines the value it was written
for: no value is written as another one, and none as the beginning of another one, as long as
a number is followed by something else than a digit.
-/

namespace Nightgate.Library.Json

def quotationMark : Char := Char.ofNat 34

def reverseSolidus : Char := Char.ofNat 92

def leftBrace : Char := Char.ofNat 123

def rightBrace : Char := Char.ofNat 125

/-- How a character is written in a string. -/
def escape (c : Char) : List Char :=
  match c.toNat with
  | 8 => [reverseSolidus, 'b']
  | 9 => [reverseSolidus, 't']
  | 10 => [reverseSolidus, 'n']
  | 12 => [reverseSolidus, 'f']
  | 13 => [reverseSolidus, 'r']
  | 34 => [reverseSolidus, quotationMark]
  | 92 => [reverseSolidus, reverseSolidus]
  | code =>
    if code < 32 then
      [reverseSolidus, 'u', '0', '0', Nat.digitChar (code / 16), Nat.digitChar (code % 16)]
    else [c]

def hexDigitValue (c : Char) : Nat :=
  if c.isDigit then c.toNat - 48 else c.toNat - 87

/-- The first character that a string text stands for. -/
def unescape : List Char → Option (Char × List Char)
  | [] => none
  | c :: rest =>
    if c = reverseSolidus then
      match rest with
      | 'b' :: rest => some (Char.ofNat 8, rest)
      | 't' :: rest => some (Char.ofNat 9, rest)
      | 'n' :: rest => some (Char.ofNat 10, rest)
      | 'f' :: rest => some (Char.ofNat 12, rest)
      | 'r' :: rest => some (Char.ofNat 13, rest)
      | 'u' :: '0' :: '0' :: high :: low :: rest =>
        some (Char.ofNat (16 * hexDigitValue high + hexDigitValue low), rest)
      | other :: rest => some (other, rest)
      | [] => none
    else some (c, rest)

theorem unescape_escape (c : Char) (rest : List Char) :
    unescape (escape c ++ rest) = some (c, rest) := by
  have isCode : Char.ofNat c.toNat = c := Char.ofNat_toNat c
  generalize hcode : c.toNat = code at isCode
  by_cases control : code < 32
  · unfold escape
    rw [hcode]
    interval_cases code <;> subst isCode <;> rfl
  · unfold escape
    rw [hcode]
    split
    all_goals first | omega | skip
    · subst isCode
      rfl
    · subst isCode
      rfl
    next notQuote notSolidus =>
      simp only [control, if_false, List.singleton_append, unescape]
      have plain : c ≠ reverseSolidus := by
        intro same
        apply notSolidus
        rw [← hcode, same]
        rfl
      simp [plain]

/-- A closing quotation mark is not the beginning of a character. -/
theorem escape_ne_quote (c : Char) (rest tail : List Char) :
    escape c ++ rest ≠ quotationMark :: tail := by
  intro same
  have read := unescape_escape c rest
  rw [same] at read
  have isQuote : unescape (quotationMark :: tail) = some (quotationMark, tail) := rfl
  rw [isQuote] at read
  cases read
  cases same

/-- A string in quotation marks. -/
def quoted (text : String) : List Char :=
  quotationMark :: (text.toList.flatMap escape ++ [quotationMark])

theorem escaped_cancel (first second rest other : List Char)
    (same : first.flatMap escape ++ quotationMark :: rest =
      second.flatMap escape ++ quotationMark :: other) : first = second ∧ rest = other := by
  induction first generalizing second with
  | nil =>
    cases second with
    | nil => exact ⟨rfl, (List.cons.inj same).2⟩
    | cons d ds =>
      rw [List.flatMap_cons, List.append_assoc] at same
      exact absurd same.symm (escape_ne_quote d _ rest)
  | cons c cs ih =>
    cases second with
    | nil =>
      rw [List.flatMap_cons, List.append_assoc] at same
      exact absurd same (escape_ne_quote c _ other)
    | cons d ds =>
      rw [List.flatMap_cons, List.flatMap_cons, List.append_assoc, List.append_assoc] at same
      have read := unescape_escape c (cs.flatMap escape ++ quotationMark :: rest)
      rw [same, unescape_escape] at read
      rcases Prod.mk.inj (Option.some.inj read) with ⟨sameChar, sameRest⟩
      rcases ih ds sameRest.symm with ⟨sameTail, sameEnd⟩
      rw [sameChar, sameTail]
      exact ⟨rfl, sameEnd⟩

variable {rest other : List Char}

theorem quoted_cancel {first second : String}
    (same : quoted first ++ rest = quoted second ++ other) : first = second ∧ rest = other := by
  unfold quoted at same
  simp only [List.cons_append, List.append_assoc, List.nil_append, List.cons.injEq,
    true_and] at same
  rcases escaped_cancel _ _ _ _ same with ⟨sameText, sameRest⟩
  exact ⟨String.toList_inj.mp sameText, sameRest⟩

/-- The decimal digits of an integer. -/
def decimal : Int → List Char
  | .ofNat n => Nat.toDigits 10 n
  | .negSucc n => '-' :: Nat.toDigits 10 (n + 1)

/-- What follows a value: no digit. -/
def Ends (rest : List Char) : Prop := ∀ c ∈ rest.head?, c.isDigit = false

theorem digits_cancel {first second rest other : List Char}
    (firstDigits : ∀ c ∈ first, c.isDigit = true) (secondDigits : ∀ c ∈ second, c.isDigit = true)
    (ends : Ends rest) (otherEnds : Ends other) (same : first ++ rest = second ++ other) :
    first = second ∧ rest = other := by
  induction first generalizing second with
  | nil =>
    cases second with
    | nil => exact ⟨rfl, same⟩
    | cons d ds =>
      rw [List.nil_append] at same
      have notDigit := ends d (by rw [same]; rfl)
      rw [secondDigits d (List.mem_cons_self ..)] at notDigit
      cases notDigit
  | cons c cs ih =>
    cases second with
    | nil =>
      rw [List.nil_append] at same
      have notDigit := otherEnds c (by rw [← same]; rfl)
      rw [firstDigits c (List.mem_cons_self ..)] at notDigit
      cases notDigit
    | cons d ds =>
      rcases List.cons.inj same with ⟨sameChar, sameTail⟩
      have tails : cs = ds ∧ rest = other :=
        ih (fun c isMem => firstDigits c (List.mem_cons_of_mem _ isMem))
          (fun c isMem => secondDigits c (List.mem_cons_of_mem _ isMem)) sameTail
      rw [sameChar, tails.1]
      exact ⟨rfl, tails.2⟩

theorem toDigits_cancel {n m : Nat} (ends : Ends rest)
    (otherEnds : Ends other) (same : Nat.toDigits 10 n ++ rest = Nat.toDigits 10 m ++ other) :
    n = m ∧ rest = other := by
  have areDigits (n : Nat) : ∀ c ∈ Nat.toDigits 10 n, c.isDigit = true :=
    fun c isMem => Nat.isDigit_of_mem_toDigits (by decide) (by decide) isMem
  rcases digits_cancel (areDigits n) (areDigits m) ends otherEnds same with ⟨digits, sameRest⟩
  have value := congrArg (fun digits => Nat.ofDigitChars 10 digits 0) digits
  simp only [Nat.ofDigitChars_ten_toDigits] at value
  exact ⟨value, sameRest⟩

/-- The first character of a number. -/
theorem decimal_head (n : Int) :
    ∃ c tail, decimal n = c :: tail ∧ (c.isDigit = true ∨ c = '-') := by
  cases n with
  | ofNat n =>
    cases digits : Nat.toDigits 10 n with
    | nil => exact absurd digits Nat.toDigits_ne_nil
    | cons c tail =>
      refine ⟨c, tail, digits, .inl ?_⟩
      apply Nat.isDigit_of_mem_toDigits (b := 10) (n := n) (by decide) (by decide)
      rw [digits]
      exact List.mem_cons_self ..
  | negSucc n => exact ⟨'-', _, rfl, .inr rfl⟩

theorem decimal_cancel {n m : Int} (ends : Ends rest)
    (otherEnds : Ends other) (same : decimal n ++ rest = decimal m ++ other) :
    n = m ∧ rest = other := by
  have notMinus (n : Nat) (rest tail : List Char) :
      Nat.toDigits 10 n ++ rest ≠ '-' :: tail := by
    intro same
    cases digits : Nat.toDigits 10 n with
    | nil => exact Nat.toDigits_ne_nil digits
    | cons c cs =>
      rw [digits] at same
      have isDigit : c.isDigit = true := by
        apply Nat.isDigit_of_mem_toDigits (b := 10) (n := n) (by decide) (by decide)
        rw [digits]
        exact List.mem_cons_self ..
      rw [(List.cons.inj same).1] at isDigit
      cases isDigit
  cases n with
  | ofNat n =>
    cases m with
    | ofNat m =>
      rcases toDigits_cancel ends otherEnds same with ⟨sameNumber, sameRest⟩
      exact ⟨congrArg Int.ofNat sameNumber, sameRest⟩
    | negSucc m => exact absurd same (notMinus n rest _)
  | negSucc n =>
    cases m with
    | ofNat m => exact absurd same.symm (notMinus m other _)
    | negSucc m =>
      rcases toDigits_cancel ends otherEnds (List.cons.inj same).2 with
        ⟨sameNumber, sameRest⟩
      exact ⟨congrArg Int.negSucc (Nat.succ.inj sameNumber), sameRest⟩

/-! ## Values -/

mutual

def chars : Json → List Char
  | .null => "null".toList
  | .bool true => "true".toList
  | .bool false => "false".toList
  | .num value => decimal value
  | .str value => quoted value
  | .arr values => '[' :: elements true values
  | .obj fields => leftBrace :: members true fields

/-- The elements of an array, the first of them without a comma, and the closing bracket. -/
def elements (first : Bool) : List Json → List Char
  | [] => [']']
  | value :: rest => (if first then [] else [',']) ++ (chars value ++ elements false rest)

def members (first : Bool) : List (String × Json) → List Char
  | [] => [rightBrace]
  | field :: rest => (if first then [] else [',']) ++ (member field ++ members false rest)

def member : String × Json → List Char
  | (name, value) => quoted name ++ (':' :: chars value)

end

/-- What a value is written as is told by its first character. -/
def kindOf (c : Char) : Nat :=
  if c = 'n' then 0
  else if c = 't' then 1
  else if c = 'f' then 2
  else if c = quotationMark then 3
  else if c = '[' then 4
  else if c = leftBrace then 5
  else if c.isDigit ∨ c = '-' then 6
  else 7

def kind : Json → Nat
  | .null => 0
  | .bool true => 1
  | .bool false => 2
  | .str _ => 3
  | .arr _ => 4
  | .obj _ => 5
  | .num _ => 6

theorem kindOf_number {c : Char} (isNumber : c.isDigit = true ∨ c = '-') : kindOf c = 6 := by
  have other (d : Char) (notNumber : ¬ (d.isDigit = true ∨ d = '-')) : c ≠ d := by
    intro same
    rw [same] at isNumber
    exact notNumber isNumber
  unfold kindOf
  rw [if_neg (other _ (by decide)), if_neg (other _ (by decide)), if_neg (other _ (by decide)),
    if_neg (other _ (by decide)), if_neg (other _ (by decide)), if_neg (other _ (by decide)),
    if_pos isNumber]

theorem chars_head (value : Json) :
    ∃ c tail, chars value = c :: tail ∧ kindOf c = kind value := by
  cases value with
  | null => exact ⟨'n', _, rfl, rfl⟩
  | bool value =>
    cases value with
    | true => exact ⟨'t', _, rfl, rfl⟩
    | false => exact ⟨'f', _, rfl, rfl⟩
  | num value =>
    rcases decimal_head value with ⟨c, tail, isHead, isNumber⟩
    refine ⟨c, tail, ?_, kindOf_number isNumber⟩
    rw [chars, isHead]
  | str value => exact ⟨quotationMark, _, by rw [chars, quoted], rfl⟩
  | arr values => exact ⟨'[', _, by rw [chars], rfl⟩
  | obj fields => exact ⟨leftBrace, _, by rw [chars], rfl⟩

/-- A value begins with none of the characters that end one. -/
theorem chars_ne_close (value : Json) {close : Char} (closes : kindOf close = 7)
    (rest tail : List Char) : chars value ++ rest ≠ close :: tail := by
  intro same
  rcases chars_head value with ⟨c, others, isHead, isKind⟩
  rw [isHead] at same
  rw [(List.cons.inj same).1, closes] at isKind
  cases value with
  | bool value => cases value <;> cases isKind
  | _ => cases isKind

theorem elements_ends (values : List Json) (rest : List Char) :
    Ends (elements false values ++ rest) := by
  intro c isHead
  cases values with
  | nil | cons =>
    cases isHead
    rfl

theorem members_ends (fields : List (String × Json)) (rest : List Char) :
    Ends (members false fields ++ rest) := by
  intro c isHead
  cases fields with
  | nil | cons =>
    cases isHead
    rfl

theorem elements_cons_ne (leads : Bool) (value : Json) (values : List Json)
    (rest tail : List Char) : elements leads (value :: values) ++ rest ≠ ']' :: tail := by
  intro same
  rw [elements, List.append_assoc, List.append_assoc] at same
  cases leads with
  | true => exact chars_ne_close value (by decide) _ tail same
  | false => cases (List.cons.inj same).1

theorem members_cons_ne (leads : Bool) (field : String × Json) (fields : List (String × Json))
    (rest tail : List Char) : members leads (field :: fields) ++ rest ≠ rightBrace :: tail := by
  intro same
  rw [members, List.append_assoc, List.append_assoc] at same
  cases leads with
  | true =>
    rw [member, quoted] at same
    cases (List.cons.inj same).1
  | false => cases (List.cons.inj same).1

theorem kind_eq {first second : Json}
    (same : chars first ++ rest = chars second ++ other) : kind first = kind second := by
  rcases chars_head first with ⟨c, tail, isHead, isKind⟩
  rcases chars_head second with ⟨d, others, isOtherHead, isOtherKind⟩
  rw [isHead, isOtherHead] at same
  rw [← isKind, ← isOtherKind, (List.cons.inj same).1]

mutual

/-- The text of a value is not the beginning of the text of another one. -/
theorem chars_cancel (first second : Json) {rest other : List Char} (ends : Ends rest)
    (otherEnds : Ends other) (same : chars first ++ rest = chars second ++ other) :
    first = second ∧ rest = other := by
  have kinds := kind_eq same
  match first, second with
  | .null, .null => exact ⟨rfl, List.append_cancel_left same⟩
  | .bool true, .bool true => exact ⟨rfl, List.append_cancel_left same⟩
  | .bool false, .bool false => exact ⟨rfl, List.append_cancel_left same⟩
  | .num n, .num m =>
    rw [chars, chars] at same
    rcases decimal_cancel ends otherEnds same with ⟨sameNumber, sameRest⟩
    exact ⟨congrArg Json.num sameNumber, sameRest⟩
  | .str text, .str text' =>
    rw [chars, chars] at same
    rcases quoted_cancel same with ⟨sameText, sameRest⟩
    exact ⟨congrArg Json.str sameText, sameRest⟩
  | .arr values, .arr values' =>
    rw [chars, chars, List.cons_append, List.cons_append] at same
    rcases elements_cancel true values values' (List.cons.inj same).2 with
      ⟨sameValues, sameRest⟩
    exact ⟨congrArg Json.arr sameValues, sameRest⟩
  | .obj fields, .obj fields' =>
    rw [chars, chars, List.cons_append, List.cons_append] at same
    rcases members_cancel true fields fields' (List.cons.inj same).2 with
      ⟨sameFields, sameRest⟩
    exact ⟨congrArg Json.obj sameFields, sameRest⟩

theorem elements_cancel (leads : Bool) (first second : List Json) {rest other : List Char}
    (same : elements leads first ++ rest = elements leads second ++ other) :
    first = second ∧ rest = other := by
  match first, second with
  | [], [] => exact ⟨rfl, List.append_cancel_left same⟩
  | [], value :: values => exact absurd same.symm (elements_cons_ne leads value values other rest)
  | value :: values, [] => exact absurd same (elements_cons_ne leads value values rest other)
  | value :: values, value' :: values' =>
    rw [elements, elements, List.append_assoc, List.append_assoc, List.append_assoc,
      List.append_assoc] at same
    rcases chars_cancel value value' (elements_ends values rest) (elements_ends values' other)
      (List.append_cancel_left same) with ⟨sameValue, sameTail⟩
    rcases elements_cancel false values values' sameTail with ⟨sameValues, sameRest⟩
    rw [sameValue, sameValues]
    exact ⟨rfl, sameRest⟩

theorem members_cancel (leads : Bool) (first second : List (String × Json))
    {rest other : List Char} (same : members leads first ++ rest = members leads second ++ other) :
    first = second ∧ rest = other := by
  match first, second with
  | [], [] => exact ⟨rfl, List.append_cancel_left same⟩
  | [], field :: fields => exact absurd same.symm (members_cons_ne leads field fields other rest)
  | field :: fields, [] => exact absurd same (members_cons_ne leads field fields rest other)
  | field :: fields, field' :: fields' =>
    rw [members, members, List.append_assoc, List.append_assoc, List.append_assoc,
      List.append_assoc] at same
    rcases member_cancel field field' (members_ends fields rest) (members_ends fields' other)
      (List.append_cancel_left same) with ⟨sameField, sameTail⟩
    rcases members_cancel false fields fields' sameTail with ⟨sameFields, sameRest⟩
    rw [sameField, sameFields]
    exact ⟨rfl, sameRest⟩

theorem member_cancel (first second : String × Json) {rest other : List Char} (ends : Ends rest)
    (otherEnds : Ends other) (same : member first ++ rest = member second ++ other) :
    first = second ∧ rest = other := by
  match first, second with
  | (name, value), (name', value') =>
    rw [member, member, List.append_assoc, List.append_assoc] at same
    rcases quoted_cancel same with ⟨sameName, sameTail⟩
    rw [List.cons_append, List.cons_append] at sameTail
    rcases chars_cancel value value' ends otherEnds (List.cons.inj sameTail).2 with
      ⟨sameValue, sameRest⟩
    rw [sameName, sameValue]
    exact ⟨rfl, sameRest⟩

end

/-- `JSON.stringify`. -/
def stringify (value : Json) : String := String.ofList (chars value)

theorem stringify_injective {first second : Json} (same : stringify first = stringify second) :
    first = second := by
  have sameChars : chars first = chars second := String.ofList_inj.mp same
  have ends : Ends [] := by
    intro c isHead
    cases isHead
  exact (chars_cancel first second ends ends (by rw [sameChars])).1

/-- An object literal: a field whose value is undefined is left out. -/
def object (fields : List (String × Option Json)) : Json :=
  .obj (fields.filterMap fun field => field.2.map fun value => (field.1, value))

theorem name_of_mem_object {fields : List (String × Option Json)} {written : String × Json}
    (isMem : written ∈ fields.filterMap fun field => field.2.map fun value => (field.1, value)) :
    written.1 ∈ fields.map Prod.fst := by
  rcases List.mem_filterMap.mp isMem with ⟨field, listed, isWritten⟩
  rcases Option.map_eq_some_iff.mp isWritten with ⟨value, _, rfl⟩
  exact List.mem_map_of_mem listed

/-- Two literals with the same distinct names are the same if their objects are. -/
theorem object_inj {first second : List (String × Option Json)}
    (same : object first = object second) (names : first.map Prod.fst = second.map Prod.fst)
    (distinct : (first.map Prod.fst).Nodup) : first = second := by
  simp only [object, Json.obj.injEq] at same
  induction first generalizing second with
  | nil => exact (List.map_eq_nil_iff.mp names.symm).symm
  | cons field rest ih =>
    cases second with
    | nil => cases names
    | cons other others =>
      rcases field with ⟨name, value⟩
      rcases other with ⟨name', value'⟩
      rcases List.cons.inj names with ⟨sameName, sameNames⟩
      rcases List.nodup_cons.mp distinct with ⟨isNew, distinctRest⟩
      subst sameName
      -- A value on one side only would be a field of the rest, under a name of its own.
      cases value with
      | none =>
        cases value' with
        | none => rw [ih sameNames distinctRest same]
        | some value' =>
          simp only [List.filterMap_cons, Option.map_none, Option.map_some] at same
          have written : (name, value') ∈ rest.filterMap fun field =>
              field.2.map fun value => (field.1, value) := by
            rw [same]
            exact List.mem_cons_self ..
          exact absurd (name_of_mem_object written) isNew
      | some value =>
        cases value' with
        | none =>
          simp only [List.filterMap_cons, Option.map_none, Option.map_some] at same
          have written : (name, value) ∈ others.filterMap fun field =>
              field.2.map fun value => (field.1, value) := by
            rw [← same]
            exact List.mem_cons_self ..
          have listed := name_of_mem_object written
          rw [← sameNames] at listed
          exact absurd listed isNew
        | some value' =>
          simp only [List.filterMap_cons, Option.map_some, List.cons.injEq, Prod.mk.injEq,
            true_and] at same
          rw [same.1, ih sameNames distinctRest same.2]

/-- Objects of the same three groups of fields agree group by group. -/
theorem object_append_inj {first first' middle middle' last last' : List (String × Option Json)}
    (same : object (first ++ middle ++ last) = object (first' ++ middle' ++ last'))
    (firstNames : first.map Prod.fst = first'.map Prod.fst)
    (middleNames : middle.map Prod.fst = middle'.map Prod.fst)
    (lastNames : last.map Prod.fst = last'.map Prod.fst)
    (distinct : ((first ++ middle ++ last).map Prod.fst).Nodup) :
    first = first' ∧ middle = middle' ∧ last = last' := by
  have length {fields fields' : List (String × Option Json)}
      (names : fields.map Prod.fst = fields'.map Prod.fst) : fields.length = fields'.length := by
    simpa using congrArg List.length names
  have fields := object_inj same
    (by simp only [List.map_append, firstNames, middleNames, lastNames]) distinct
  rw [List.append_assoc, List.append_assoc] at fields
  rcases List.append_inj fields (length firstNames) with ⟨sameFirst, rest⟩
  exact ⟨sameFirst, List.append_inj rest (length middleNames)⟩

theorem arr_map_inj {Value : Type} {write : Value → Json} (injective : Function.Injective write)
    {first second : List Value} (same : Json.arr (first.map write) = .arr (second.map write)) :
    first = second :=
  List.map_injective_iff.mpr injective (Json.arr.inj same)

theorem str_injective : Function.Injective Json.str := fun _ _ => Json.str.inj

theorem num_injective : Function.Injective Json.num := fun _ _ => Json.num.inj

theorem bool_injective : Function.Injective Json.bool := fun _ _ => Json.bool.inj

theorem strings_injective : Function.Injective strings := fun _ _ => arr_map_inj str_injective

/-- A list of truth values. -/
def bools (values : List Bool) : Json := .arr (values.map .bool)

theorem bools_injective : Function.Injective bools := fun _ _ => arr_map_inj bool_injective

end Nightgate.Library.Json
