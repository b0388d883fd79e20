import Mathlib.Data.List.Basic

/-!
# Regular expressions that search a text

Matching backtracks: the ways a pattern can match at a place come in the order in which they are
tried, and the first one counts. Repetition is over one class of characters.
-/

namespace Nightgate.Library

inductive Regex where
  | empty
  | one (accepts : Char → Bool)
  /-- `class*`, the longest first. -/
  | many (accepts : Char → Bool)
  | seq (first second : Regex)
  | either (first second : Regex)
  | wordBoundary
  /-- `^` and `$` of a line. -/
  | lineStart
  | lineEnd

namespace Regex

/-- A place in a text: the character before it, and the rest. -/
structure Place where
  before : Option Char
  rest : List Char

def isWord (c : Char) : Bool := c.isAlphanum || c = '_'

/-- `\d`. -/
def isDigit (c : Char) : Bool := '0' ≤ c ∧ c ≤ '9'

/-- The characters that end a line. -/
def endsLine (c : Char) : Bool :=
  c = '\n' || c = '\r' || c.toNat = 0x2028 || c.toNat = 0x2029

/-- `\s`. -/
def isSpace (c : Char) : Bool :=
  endsLine c || c = ' ' || c = '\t' || c.toNat = 0x0b || c.toNat = 0x0c || c.toNat = 0xa0 ||
    c.toNat = 0x1680 || (0x2000 ≤ c.toNat && c.toNat ≤ 0x200a) || c.toNat = 0x202f ||
    c.toNat = 0x205f || c.toNat = 0x3000 || c.toNat = 0xfeff

/-- `.`. -/
def anyChar (c : Char) : Bool := !endsLine c

/-- A text as it stands. -/
def text (literal : String) : Regex :=
  literal.toList.foldr (fun c rest => .seq (.one fun other => other = c) rest) .empty

/-- A text in any case. -/
def textAnyCase (literal : String) : Regex :=
  literal.toList.foldr (fun c rest => .seq (.one fun other => other.toLower = c.toLower) rest)
    .empty

def optional (pattern : Regex) : Regex := .either pattern .empty

/-- `class+`. -/
def some (accepts : Char → Bool) : Regex := .seq (.one accepts) (.many accepts)

def oneOf : List Regex → Regex
  | [] => .one fun _ => false
  | [pattern] => pattern
  | pattern :: rest => .either pattern (oneOf rest)

def inOrder (patterns : List Regex) : Regex := patterns.foldr .seq .empty

def manyEnds (accepts : Char → Bool) (before : Option Char) : List Char → List Place
  | [] => [⟨before, []⟩]
  | c :: rest =>
    (if accepts c then manyEnds accepts (.some c) rest else []) ++ [⟨before, c :: rest⟩]

/-- Where the pattern can end, in the order of trial. -/
def ends : Regex → Place → List Place
  | .empty, place => [place]
  | .one accepts, place =>
    match place.rest with
    | [] => []
    | c :: rest => if accepts c then [⟨.some c, rest⟩] else []
  | .many accepts, place => manyEnds accepts place.before place.rest
  | .seq first second, place => (first.ends place).flatMap second.ends
  | .either first second, place => first.ends place ++ second.ends place
  | .wordBoundary, place =>
    if place.before.any isWord = place.rest.head?.any isWord then [] else [place]
  | .lineStart, place => if place.before.all endsLine then [place] else []
  | .lineEnd, place => if place.rest.head?.all endsLine then [place] else []

/-- Every place of a text. -/
def places (before : Option Char) : List Char → List Place
  | [] => [⟨before, []⟩]
  | c :: rest => ⟨before, c :: rest⟩ :: places (.some c) rest

/-- `pattern.test(text)`. -/
def test (pattern : Regex) (subject : String) : Bool :=
  (places none subject.toList).any fun place => !(pattern.ends place).isEmpty

/-- The text the pattern matches first. -/
def exec (pattern : Regex) (subject : String) : Option String :=
  (places none subject.toList).findSome? fun place =>
    (pattern.ends place).head?.map fun place' =>
      String.ofList (place.rest.take (place.rest.length - place'.rest.length))

/-- What the group of `pattern(class+)` captures. -/
def capture (pattern : Regex) (accepts : Char → Bool) (subject : String) : Option String :=
  (places none subject.toList).findSome? fun place =>
    (pattern.ends place).findSome? fun place =>
      match place.rest.takeWhile accepts with
      | [] => none
      | c :: rest => .some (String.ofList (c :: rest))

/-- `replace` with the flag `g`; the fuel is the length of the rest. -/
def replaceFrom (pattern : Regex) (replacement : List Char) : Nat → Place → List Char
  | 0, place => place.rest
  | fuel + 1, place =>
    match place.rest with
    | [] => if (pattern.ends place).isEmpty then [] else replacement
    | c :: rest =>
      match (pattern.ends place).head? with
      | none => c :: replaceFrom pattern replacement fuel ⟨.some c, rest⟩
      | .some place' =>
        if place'.rest = c :: rest then
          replacement ++ c :: replaceFrom pattern replacement fuel ⟨.some c, rest⟩
        else replacement ++ replaceFrom pattern replacement fuel place'

def replaceAll (pattern : Regex) (replacement subject : String) : String :=
  String.ofList (replaceFrom pattern replacement.toList (subject.toList.length + 1)
    ⟨none, subject.toList⟩)

example : (inOrder [wordBoundary, text "1010", many isSpace, text ":"]).test "code 1010 : x" := by
  decide

example : replaceAll (inOrder [text ":", some isDigit]) ":L" "a:10:x:7" = "a:L:x:L" := by
  decide

end Regex

end Nightgate.Library
