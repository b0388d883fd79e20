import Mathlib.Data.List.Basic

/-!
# Transaction bytes in texts

A caller hands over transaction bytes as an offer file, which is bech32m text under the prefix
`swapoffer`, or as base64. The bech32m codec is a library of its own.
-/

namespace Nightgate.Submission

/-- White space, as `trim` and `\s` know it. -/
def isSpace (c : Char) : Bool :=
  let code := c.toNat
  (9 ≤ code && code ≤ 13) || code = 0x20 || code = 0xA0 || code = 0x1680 ||
    (0x2000 ≤ code && code ≤ 0x200A) || code = 0x2028 || code = 0x2029 || code = 0x202F ||
    code = 0x205F || code = 0x3000 || code = 0xFEFF

def trim (text : List Char) : List Char :=
  ((text.dropWhile isSpace).reverse.dropWhile isSpace).reverse

theorem dropWhile_of_none {text : List Char} (noSpace : ∀ c ∈ text, isSpace c = false) :
    text.dropWhile isSpace = text := by
  cases text with
  | nil => rfl
  | cons c rest => simp [noSpace c (List.mem_cons_self ..)]

theorem trim_of_none {text : List Char} (noSpace : ∀ c ∈ text, isSpace c = false) :
    trim text = text := by
  unfold trim
  rw [dropWhile_of_none noSpace,
    dropWhile_of_none fun c isMem => noSpace c (List.mem_reverse.mp isMem), List.reverse_reverse]

/-- The lower case of a character, as far as it is an ASCII character: the Kelvin sign is the
only other character with one. -/
def toLowerCase (c : Char) : Char :=
  if 'A' ≤ c ∧ c ≤ 'Z' then Char.ofNat (c.toNat + 32)
  else if c = Char.ofNat 0x212A then 'k'
  else c

def toUpperCase (c : Char) : Char :=
  if 'a' ≤ c ∧ c ≤ 'z' then Char.ofNat (c.toNat - 32) else c

def isDigit (c : Char) : Bool := '0' ≤ c && c ≤ '9'

/-- The value of a character of either base64 alphabet. -/
def base64Value (c : Char) : Option Nat :=
  if 'A' ≤ c ∧ c ≤ 'Z' then some (c.toNat - 'A'.toNat)
  else if 'a' ≤ c ∧ c ≤ 'z' then some (c.toNat - 'a'.toNat + 26)
  else if isDigit c then some (c.toNat - '0'.toNat + 52)
  else if c = '+' ∨ c = '-' then some 62
  else if c = '/' ∨ c = '_' then some 63
  else none

/-- The bytes of six-bit values; bits that fill no byte are dropped. -/
def bytesOfSextets : List Nat → List UInt8
  | a :: b :: c :: d :: rest =>
    UInt8.ofNat (a * 4 + b / 16) :: UInt8.ofNat (b % 16 * 16 + c / 4) ::
      UInt8.ofNat (c % 4 * 64 + d) :: bytesOfSextets rest
  | [a, b, c] => [UInt8.ofNat (a * 4 + b / 16), UInt8.ofNat (b % 16 * 16 + c / 4)]
  | [a, b] => [UInt8.ofNat (a * 4 + b / 16)]
  | _ => []

/-- `/^[A-Za-z0-9+/_-]+={0,2}$/`, and then `Buffer.from(compact, 'base64')`. -/
def base64Bytes (compact : List Char) : Option (List UInt8) :=
  let body := compact.takeWhile fun c => (base64Value c).isSome
  let padding := compact.drop body.length
  if body ≠ [] ∧ padding.all (· = '=') ∧ padding.length ≤ 2 then
    some (bytesOfSextets (body.filterMap base64Value))
  else none

def OFFER_FILE_HRP : String := "swapoffer"

/-- The `bech32m` codec, without a length limit; a failure has the message of its error. -/
structure Bech32m where
  decode : String → Except String (String × List Nat)
  fromWords : List Nat → Except String (List UInt8)

/-- `OfferFileError`, with its message. -/
structure OfferFileError where
  message : String

def bech32Charset : List Char := "qpzry9x8gf2tvdw0s3jn54khce6mua7l".toList

/-- `/^[a-z0-9_-]{1,83}1[qpzry9x8gf2tvdw0s3jn54khce6mua7l]{6,}$/`. The data has no `1`, so the
last one is the separator. -/
def hasBech32Shape (lower : List Char) : Bool :=
  let data := lower.reverse.takeWhile (· ≠ '1')
  match lower.reverse.drop data.length with
  | [] => false
  | _ :: head =>
    1 ≤ head.length && head.length ≤ 83 &&
      head.all (fun c => ('a' ≤ c && c ≤ 'z') || isDigit c || c = '_' || c = '-') &&
      6 ≤ data.length && data.all (· ∈ bech32Charset)

def looksLikeOfferFile (text : String) : Bool :=
  let s := trim text.toList
  let lower := s.map toLowerCase
  if (OFFER_FILE_HRP.toList ++ ['1']).isPrefixOf lower then true
  else if s ≠ lower ∧ s ≠ s.map toUpperCase then false
  else hasBech32Shape lower

/-- The text before the first `:`, quotation mark or ` in `. -/
def firstPart : List Char → List Char
  | [] => []
  | c :: rest =>
    if c = ':' ∨ c = Char.ofNat 34 ∨ " in ".toList.isPrefixOf (c :: rest) then []
    else c :: firstPart rest

/-- `reason`: the library repeats the whole input in its message. -/
def reasonOf (message : String) : String :=
  String.ofList ((trim (firstPart message.toList)).take 120)

def decodeOfferFile (bech32m : Bech32m) (text : String) :
    Except OfferFileError (List UInt8) :=
  match bech32m.decode (String.ofList (trim text.toList)) with
  | .error message => .error ⟨"not a valid offer file: " ++ reasonOf message⟩
  | .ok (hrp, words) =>
    if hrp ≠ OFFER_FILE_HRP then
      .error ⟨"offer file prefix is '" ++ String.ofList (hrp.toList.take 20) ++
        "', expected '" ++ OFFER_FILE_HRP ++ "'"⟩
    else
      match bech32m.fromWords words with
      | .error message => .error ⟨"not a valid offer file: " ++ reasonOf message⟩
      | .ok bytes => .ok bytes

/-- Transaction bytes as an offer file or as base64. -/
def transactionBytesOf (bech32m : Bech32m) (input : String) :
    Except OfferFileError (List UInt8) :=
  if looksLikeOfferFile input then decodeOfferFile bech32m input
  else
    match base64Bytes (input.toList.filter (!isSpace ·)) with
    | none => .error ⟨"neither an offer file nor base64"⟩
    | some bytes => .ok bytes

end Nightgate.Submission
