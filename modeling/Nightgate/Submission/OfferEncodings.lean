import Nightgate.Library.Bech32
import Nightgate.Submission.OfferFile
import Mathlib.Data.String.Basic

/-!
# Encodings of transaction bytes

Transaction bytes come back from their offer file. They come back from their base64 text unless
that text looks like an offer file: letters of one case and digits may be both, and a text that
looks like an offer file is read as one or refused.
-/

namespace Nightgate.Submission

open Library

/-- The `bech32m` library, with what `encodeOfferFile` uses of it. -/
structure Bech32mCodec extends Bech32m where
  encode : String → List Nat → String
  toWords : List UInt8 → List Nat

/-- The library encodes as specified, and decodes exactly the valid texts. -/
structure Bech32mCodec.Exact (codec : Bech32mCodec) : Prop where
  encodes : ∀ words, (∀ word ∈ words, word < 32) →
    codec.encode OFFER_FILE_HRP words = String.ofList (Bech32.encode OFFER_FILE_HRP.toList words)
  decodes : ∀ text hrp words, codec.decode text = .ok (hrp, words) ↔
    Bech32.Valid text.toList hrp.toList words
  regroups : ∀ bytes, codec.toWords bytes = Bech32.toWords bytes
  reads : ∀ words bytes, codec.fromWords words = .ok bytes ↔ Bech32.toWords bytes = words

def encodeOfferFile (codec : Bech32mCodec) (bytes : List UInt8) : String :=
  codec.encode OFFER_FILE_HRP (codec.toWords bytes)

/-- Bytes as six-bit values, the last filled up with zeros. -/
def sextetsOf : List UInt8 → List Nat
  | a :: b :: c :: rest =>
    a.toNat / 4 :: (a.toNat % 4 * 16 + b.toNat / 16) :: (b.toNat % 16 * 4 + c.toNat / 64) ::
      c.toNat % 64 :: sextetsOf rest
  | [a, b] => [a.toNat / 4, a.toNat % 4 * 16 + b.toNat / 16, b.toNat % 16 * 4]
  | [a] => [a.toNat / 4, a.toNat % 4 * 16]
  | [] => []

inductive Base64Alphabet where
  | standard
  | urlSafe
  deriving DecidableEq

def Base64Alphabet.letter (alphabet : Base64Alphabet) (value : Nat) : Char :=
  if value < 26 then Char.ofNat ('A'.toNat + value)
  else if value < 52 then Char.ofNat ('a'.toNat + (value - 26))
  else if value < 62 then Char.ofNat ('0'.toNat + (value - 52))
  else
    match alphabet with
    | .standard => if value = 62 then '+' else '/'
    | .urlSafe => if value = 62 then '-' else '_'

/-- The padding of a text: none, or what completes its last four characters. -/
def paddingOf (padded : Bool) (bytes : List UInt8) : List Char :=
  if padded then List.replicate ((3 - bytes.length % 3) % 3) '=' else []

/-- `toString('base64')` is padded, `toString('base64url')` is not. -/
def base64Text (alphabet : Base64Alphabet) (padded : Bool) (bytes : List UInt8) : List Char :=
  (sextetsOf bytes).map alphabet.letter ++ paddingOf padded bytes

/-- A text with or without white space around it. -/
def Wrapped (text : String) (core : List Char) : Prop :=
  ∃ before after, (∀ c ∈ before, isSpace c = true) ∧ (∀ c ∈ after, isSpace c = true) ∧
    text.toList = before ++ core ++ after

theorem dropWhile_space {before rest : List Char} (spaces : ∀ c ∈ before, isSpace c = true)
    (letters : ∀ c ∈ rest, isSpace c = false) : (before ++ rest).dropWhile isSpace = rest := by
  rw [List.dropWhile_append_of_pos spaces]
  cases rest with
  | nil => rfl
  | cons c rest => rw [List.dropWhile_cons_of_neg (by simp [letters c (List.mem_cons_self ..)])]

theorem Wrapped.trim {text : String} {core : List Char} (wrapped : Wrapped text core)
    (letters : ∀ c ∈ core, isSpace c = false) : trim text.toList = core := by
  rcases wrapped with ⟨before, after, spaces, spaces', isText⟩
  have tail : (after.reverse ++ core.reverse).dropWhile isSpace = core.reverse :=
    dropWhile_space (fun c listed => spaces' c (List.mem_reverse.mp listed))
      fun c listed => letters c (List.mem_reverse.mp listed)
  rw [Submission.trim, isText, List.append_assoc, List.dropWhile_append_of_pos spaces]
  cases core with
  | nil =>
    rw [List.nil_append, ← List.append_nil after, dropWhile_space spaces' (List.forall_mem_nil _)]
    rfl
  | cons c rest =>
    have stays : ((c :: rest) ++ after).dropWhile isSpace = (c :: rest) ++ after :=
      List.dropWhile_cons_of_neg (by simp [letters c (List.mem_cons_self ..)])
    rw [stays, List.reverse_append, tail, List.reverse_reverse]

theorem Wrapped.compact {text : String} {core : List Char} (wrapped : Wrapped text core)
    (letters : ∀ c ∈ core, isSpace c = false) :
    text.toList.filter (fun c => !isSpace c) = core := by
  rcases wrapped with ⟨before, after, spaces, spaces', isText⟩
  have nothing : ∀ space : List Char, (∀ c ∈ space, isSpace c = true) →
      space.filter (fun c => !isSpace c) = [] := by
    intro space each
    rw [List.filter_eq_nil_iff]
    intro c listed
    rw [each c listed]
    decide
  have all : core.filter (fun c => !isSpace c) = core := by
    rw [List.filter_eq_self]
    intro c listed
    rw [letters c listed]
    rfl
  rw [isText, List.filter_append, List.filter_append, nothing before spaces, nothing after spaces',
    all, List.nil_append, List.append_nil]

/-! ## Base64 -/

theorem base64Value_letter (alphabet : Base64Alphabet) {value : Nat} (small : value < 64) :
    base64Value (alphabet.letter value) = some value := by
  have each : ∀ value < 64, base64Value (alphabet.letter value) = some value := by
    cases alphabet with
    | standard | urlSafe => decide
  exact each value small

theorem letter_not_space (alphabet : Base64Alphabet) {value : Nat} (small : value < 64) :
    isSpace (alphabet.letter value) = false := by
  have each : ∀ value < 64, isSpace (alphabet.letter value) = false := by
    cases alphabet with
    | standard | urlSafe => decide
  exact each value small

theorem sextetsOf_lt (bytes : List UInt8) : ∀ value ∈ sextetsOf bytes, value < 64 := by
  induction bytes using sextetsOf.induct with
  | case1 a b c rest ih =>
    have := a.toNat_lt
    have := b.toNat_lt
    have := c.toNat_lt
    simp only [sextetsOf, List.forall_mem_cons]
    exact ⟨by omega, by omega, by omega, by omega, ih⟩
  | case2 a b =>
    have := a.toNat_lt
    have := b.toNat_lt
    simp only [sextetsOf, List.forall_mem_cons]
    exact ⟨by omega, by omega, by omega, nofun⟩
  | case3 a =>
    have := a.toNat_lt
    simp only [sextetsOf, List.forall_mem_cons]
    exact ⟨by omega, by omega, nofun⟩
  | case4 => exact nofun

@[simp] theorem bytesOfSextets_sextetsOf (bytes : List UInt8) :
    bytesOfSextets (sextetsOf bytes) = bytes := by
  induction bytes using sextetsOf.induct with
  | case1 a b c rest ih =>
    have := b.toNat_lt
    have := c.toNat_lt
    simp only [sextetsOf, bytesOfSextets, ih, List.cons.injEq, and_true]
    exact ⟨Bech32.byte_of_toNat (by omega), Bech32.byte_of_toNat (by omega),
      Bech32.byte_of_toNat (by omega)⟩
  | case2 a b =>
    have := b.toNat_lt
    simp only [sextetsOf, bytesOfSextets, List.cons.injEq, and_true]
    exact ⟨Bech32.byte_of_toNat (by omega), Bech32.byte_of_toNat (by omega)⟩
  | case3 a =>
    simp only [sextetsOf, bytesOfSextets, List.cons.injEq, and_true]
    exact Bech32.byte_of_toNat (by omega)
  | case4 => rfl

variable {bytes : List UInt8}

theorem sextetsOf_ne_nil (given : bytes ≠ []) : sextetsOf bytes ≠ [] :=
  match bytes with
  | [] => absurd rfl given
  | [_] | [_, _] | _ :: _ :: _ :: _ => List.cons_ne_nil _ _

theorem mem_paddingOf {padded : Bool} {c : Char}
    (listed : c ∈ paddingOf padded bytes) : c = '=' := by
  rw [paddingOf] at listed
  split at listed
  · exact List.eq_of_mem_replicate listed
  · cases listed

theorem length_paddingOf (padded : Bool) (bytes : List UInt8) :
    (paddingOf padded bytes).length ≤ 2 := by
  rw [paddingOf]
  split
  · rw [List.length_replicate]
    omega
  · exact Nat.zero_le 2

theorem base64Text_not_space (alphabet : Base64Alphabet) (padded : Bool) (bytes : List UInt8) :
    ∀ c ∈ base64Text alphabet padded bytes, isSpace c = false := by
  intro c listed
  cases List.mem_append.mp listed with
  | inl isLetter =>
    rcases List.mem_map.mp isLetter with ⟨value, isSextet, rfl⟩
    exact letter_not_space alphabet (sextetsOf_lt bytes value isSextet)
  | inr isPadding =>
    rw [mem_paddingOf isPadding]
    decide

theorem base64Bytes_base64Text (alphabet : Base64Alphabet) (padded : Bool)
    (given : bytes ≠ []) : base64Bytes (base64Text alphabet padded bytes) = some bytes := by
  have letters : ∀ c ∈ (sextetsOf bytes).map alphabet.letter, (base64Value c).isSome = true := by
    intro c listed
    rcases List.mem_map.mp listed with ⟨value, isSextet, rfl⟩
    rw [base64Value_letter alphabet (sextetsOf_lt bytes value isSextet)]
    rfl
  have stops : (paddingOf padded bytes).takeWhile (fun c => (base64Value c).isSome) = [] := by
    cases isPadding : paddingOf padded bytes with
    | nil => rfl
    | cons c rest =>
      have isEquals : c = '=' := mem_paddingOf (isPadding ▸ List.mem_cons_self ..)
      subst isEquals
      rfl
  have body : (base64Text alphabet padded bytes).takeWhile (fun c => (base64Value c).isSome) =
      (sextetsOf bytes).map alphabet.letter := by
    rw [base64Text, List.takeWhile_append_of_pos letters]
    rw [stops, List.append_nil]
  have values : ((sextetsOf bytes).map alphabet.letter).filterMap base64Value =
      sextetsOf bytes := by
    rw [List.filterMap_map]
    refine (List.filterMap_congr ?_).trans List.filterMap_some
    intro value isSextet
    exact base64Value_letter alphabet (sextetsOf_lt bytes value isSextet)
  have rest : (base64Text alphabet padded bytes).drop
      ((sextetsOf bytes).map alphabet.letter).length = paddingOf padded bytes :=
    List.drop_left
  have passes : (sextetsOf bytes).map alphabet.letter ≠ [] ∧
      (paddingOf padded bytes).all (fun c => decide (c = '=')) = true ∧
        (paddingOf padded bytes).length ≤ 2 := by
    refine ⟨?_, List.all_eq_true.mpr ?_, length_paddingOf padded bytes⟩
    · intro isEmpty
      exact sextetsOf_ne_nil given (List.map_eq_nil_iff.mp isEmpty)
    · intro c listed
      exact decide_eq_true (mem_paddingOf listed)
  simp only [base64Bytes, body, rest]
  rw [if_pos passes, values, bytesOfSextets_sextetsOf]

/-- No text leaves a single character after its groups of four. -/
theorem length_sextetsOf (bytes : List UInt8) : (sextetsOf bytes).length % 4 ≠ 1 := by
  induction bytes using sextetsOf.induct with
  | case1 a b c rest ih =>
    simp only [sextetsOf, List.length_cons]
    omega
  | case2 | case3 | case4 => exact nofun

/-- Letters with at most two `=` behind them: what the code takes for base64. -/
def Base64Shaped (compact : List Char) : Prop :=
  ∃ body padding, compact = body ++ padding ∧ body ≠ [] ∧
    (∀ c ∈ body, (base64Value c).isSome = true) ∧ (∀ c ∈ padding, c = '=') ∧ padding.length ≤ 2

theorem base64Shaped_of_base64Bytes {compact : List Char}
    (read : base64Bytes compact = some bytes) : Base64Shaped compact := by
  simp only [base64Bytes] at read
  split at read
  next passes =>
    rcases passes with ⟨given, padding, few⟩
    refine ⟨_, _, ?_, given, ?_, ?_, few⟩
    · exact (List.prefix_iff_eq_append.mp (List.takeWhile_prefix _)).symm
    · exact List.all_eq_true.mp List.all_takeWhile
    · intro c listed
      exact of_decide_eq_true (List.all_eq_true.mp padding c listed)
  · cases read

/-! ## Offer files -/

section Codec

variable {codec : Bech32mCodec}

theorem offerFile_eq (exact' : codec.Exact) (bytes : List UInt8) :
    (encodeOfferFile codec bytes).toList =
      Bech32.encode OFFER_FILE_HRP.toList (Bech32.toWords bytes) := by
  rw [encodeOfferFile, exact'.regroups, exact'.encodes _ (Bech32.toWords_lt bytes),
    String.toList_ofList]

theorem letter_plain (word : Nat) : isSpace (Bech32.letter word) = false ∧
    (Bech32.letter word).toLower = Bech32.letter word := by
  by_cases small : word < 32
  · have each : ∀ word < 32, isSpace (Bech32.letter word) = false ∧
        (Bech32.letter word).toLower = Bech32.letter word := by decide
    exact each word small
  · have beyond : Bech32.charset[word]? = none := List.getElem?_eq_none (Nat.le_of_not_lt small)
    rw [Bech32.letter, beyond]
    decide

theorem mem_offerFile {words : List Nat} {c : Char}
    (listed : c ∈ Bech32.encode OFFER_FILE_HRP.toList words) :
    c ∈ "swapoffer1".toList ∨ ∃ word, c = Bech32.letter word := by
  rw [Bech32.encode, List.mem_append, List.mem_cons] at listed
  rcases listed with isHrp | rfl | isData
  · have separated : "swapoffer1".toList = OFFER_FILE_HRP.toList ++ ['1'] := by decide
    exact Or.inl (separated ▸ List.mem_append_left _ isHrp)
  · exact Or.inl (by decide)
  · rcases List.mem_map.mp isData with ⟨word, -, rfl⟩
    exact Or.inr ⟨word, rfl⟩

theorem offerFile_not_space (words : List Nat) :
    ∀ c ∈ Bech32.encode OFFER_FILE_HRP.toList words, isSpace c = false := by
  intro c listed
  rcases mem_offerFile listed with fixed | ⟨word, rfl⟩
  · have each : ("swapoffer1".toList.all fun c => isSpace c = false) = true := by decide
    exact of_decide_eq_true (List.all_eq_true.mp each c fixed)
  · exact (letter_plain word).1

theorem valid_offerFile (bytes : List UInt8) :
    Bech32.Valid (Bech32.encode OFFER_FILE_HRP.toList (Bech32.toWords bytes))
      OFFER_FILE_HRP.toList (Bech32.toWords bytes) := by
  have lower : (Bech32.encode OFFER_FILE_HRP.toList (Bech32.toWords bytes)).map Char.toLower =
      Bech32.encode OFFER_FILE_HRP.toList (Bech32.toWords bytes) := by
    refine (List.map_congr_left ?_).trans (List.map_id _)
    intro c listed
    rcases mem_offerFile listed with fixed | ⟨word, rfl⟩
    · have each : ("swapoffer1".toList.all fun c => c.toLower = c) = true := by decide
      exact of_decide_eq_true (List.all_eq_true.mp each c fixed)
    · exact (letter_plain word).2
  have printable : (OFFER_FILE_HRP.toList.all fun c =>
      33 ≤ c.toNat ∧ c.toNat ≤ 126) = true := by decide
  exact {
    given := by decide
    printable := fun c listed => of_decide_eq_true (List.all_eq_true.mp printable c listed)
    fiveBits := Bech32.toWords_lt bytes
    oneCase := Or.inl lower.symm
    encodes := lower }

/-- Whatever is read as an offer file is the text of what it is read as. -/
theorem decodeOfferFile_eq_ok_iff (exact' : codec.Exact) (text : String) (bytes : List UInt8) :
    decodeOfferFile codec.toBech32m text = .ok bytes ↔
      Bech32.Valid (trim text.toList) OFFER_FILE_HRP.toList (Bech32.toWords bytes) := by
  have decodes := exact'.decodes (String.ofList (trim text.toList))
  rw [String.toList_ofList] at decodes
  rw [decodeOfferFile]
  constructor
  · intro read
    split at read
    · cases read
    next hrp words decoded =>
      split at read
      · cases read
      next isOffer =>
        rw [ne_eq, Decidable.not_not] at isOffer
        split at read
        · cases read
        next found isBytes =>
          cases read
          rw [(exact'.reads words bytes).mp isBytes, ← isOffer]
          exact (decodes hrp words).mp decoded
  · intro valid
    rw [(decodes OFFER_FILE_HRP (Bech32.toWords bytes)).mpr valid]
    simp only [ne_eq, not_true_eq_false, if_false, (exact'.reads _ bytes).mpr rfl]

theorem looksLikeOfferFile_wrapped {text : String} {words : List Nat}
    (wrapped : Wrapped text (Bech32.encode OFFER_FILE_HRP.toList words)) :
    looksLikeOfferFile text = true := by
  have starts : (OFFER_FILE_HRP.toList ++ ['1']).isPrefixOf
      ((Bech32.encode OFFER_FILE_HRP.toList words).map toLowerCase) = true := by
    rw [List.isPrefixOf_iff_prefix, Bech32.encode, List.append_cons, List.map_append]
    exact List.prefix_append (OFFER_FILE_HRP.toList ++ ['1']) _
  rw [looksLikeOfferFile, wrapped.trim (offerFile_not_space words)]
  exact if_pos starts

/-- What `transactionBytesOf` makes of encodings, and what it refuses. -/
structure ReadsEncodings (codec : Bech32mCodec) : Prop where
  /-- An offer file gives its bytes. -/
  offerFiles : ∀ bytes text, Wrapped text (encodeOfferFile codec bytes).toList →
    transactionBytesOf codec.toBech32m text = .ok bytes
  /-- A base64 text that does not look like an offer file gives its bytes. -/
  base64 : ∀ alphabet padded bytes text, bytes ≠ [] →
    Wrapped text (base64Text alphabet padded bytes) → looksLikeOfferFile text = false →
      transactionBytesOf codec.toBech32m text = .ok bytes
  /-- What looks like an offer file is read as the offer file it is, or refused. -/
  damaged : ∀ text bytes, looksLikeOfferFile text = true →
    (transactionBytesOf codec.toBech32m text = .ok bytes ↔
      Bech32.Valid (trim text.toList) OFFER_FILE_HRP.toList (Bech32.toWords bytes))
  /-- Anything else than base64 characters with at most two `=` behind them is refused. -/
  neither : ∀ text, looksLikeOfferFile text = false →
    ¬ Base64Shaped (text.toList.filter fun c => !isSpace c) →
      transactionBytesOf codec.toBech32m text = .error ⟨"neither an offer file nor base64"⟩

theorem transactionBytesOf_reads (codec : Bech32mCodec) (exact' : codec.Exact) :
    ReadsEncodings codec where
  offerFiles := fun bytes text wrapped => by
    rw [offerFile_eq exact'] at wrapped
    rw [transactionBytesOf, if_pos (looksLikeOfferFile_wrapped wrapped),
      decodeOfferFile_eq_ok_iff exact', wrapped.trim (offerFile_not_space _)]
    exact valid_offerFile bytes
  base64 := fun alphabet padded bytes text given wrapped other => by
    have compact := wrapped.compact (base64Text_not_space alphabet padded bytes)
    rw [transactionBytesOf, if_neg (by rw [other]; exact Bool.false_ne_true), compact,
      base64Bytes_base64Text alphabet padded given]
  damaged := fun text bytes looks => by
    rw [transactionBytesOf, if_pos looks]
    exact decodeOfferFile_eq_ok_iff exact' text bytes
  neither := fun text other shapeless => by
    rw [transactionBytesOf, if_neg (by rw [other]; exact Bool.false_ne_true)]
    cases read : base64Bytes (text.toList.filter fun c => !isSpace c) with
    | none => rfl
    | some bytes => exact absurd (base64Shaped_of_base64Bytes read) shapeless

end Codec

/-- The library as specified. -/
def referenceCodec : Bech32mCodec where
  decode text :=
    match Bech32.decode text.toList with
    | some (hrp, words) => .ok (String.ofList hrp, words)
    | none => .error "Invalid checksum"
  fromWords words :=
    match Bech32.fromWords words with
    | some bytes => .ok bytes
    | none => .error "Excess padding"
  encode hrp words := String.ofList (Bech32.encode hrp.toList words)
  toWords := Bech32.toWords

theorem referenceCodec_exact : referenceCodec.Exact where
  encodes := fun _ _ => rfl
  decodes := fun text hrp words => by
    rw [← Bech32.decode_eq_some_iff]
    simp only [referenceCodec]
    cases decoded : Bech32.decode text.toList with
    | none => simp
    | some parts =>
      simp only [Except.ok.injEq, Option.some.injEq, Prod.ext_iff]
      exact and_congr_left fun _ => String.ofList_eq
  regroups := fun _ => rfl
  reads := fun words bytes => by
    rw [← Bech32.fromWords_eq_some_iff]
    simp only [referenceCodec]
    cases Bech32.fromWords words <;> simp

/-- With white space around it. -/
theorem transactionBytesOf_reads_reference :
    transactionBytesOf referenceCodec.toBech32m " swapoffer1qypqxxvjdxs\n" = .ok [1, 2, 3] :=
  (transactionBytesOf_reads referenceCodec referenceCodec_exact).offerFiles [1, 2, 3] _
    ⟨[' '], ['\n'], List.forall_mem_singleton.mpr rfl, List.forall_mem_singleton.mpr rfl,
      by decide +kernel⟩

/-- Nine bytes whose base64 text looks like an offer file and is refused, and a text that encodes
nothing, since its last group is cut short, and is read. -/
theorem transactionBytesOf_misreads :
    base64Text .standard true [107, 90, 170, 170, 170, 170, 170, 170, 170] = "a1qqqqqqqqqq".toList ∧
      (∀ codec : Bech32mCodec, codec.Exact → ∀ bytes,
        transactionBytesOf codec.toBech32m "a1qqqqqqqqqq" ≠ .ok bytes) ∧
      (∀ alphabet padded bytes, base64Text alphabet padded bytes ≠ "AAAAA".toList) ∧
      ∀ codec : Bech32mCodec, transactionBytesOf codec.toBech32m "AAAAA" = .ok [0, 0, 0] := by
  refine ⟨by decide, ?_, ?_, ?_⟩
  · intro codec exact' bytes read
    rw [transactionBytesOf, if_pos (by decide), decodeOfferFile_eq_ok_iff exact'] at read
    have letters := congrArg List.head? read.encodes
    exact absurd letters (by simp [Bech32.encode, OFFER_FILE_HRP, trim, isSpace])
  · intro alphabet padded bytes same
    have unpadded : paddingOf padded bytes = [] := by
      rw [List.eq_nil_iff_forall_not_mem]
      intro c listed
      have isText : c ∈ "AAAAA".toList := by
        rw [← same]
        exact List.mem_append_right _ listed
      rw [mem_paddingOf listed] at isText
      exact absurd isText (by decide)
    have count := congrArg List.length same
    rw [base64Text, unpadded, List.append_nil, List.length_map] at count
    refine length_sextetsOf bytes ?_
    rw [count]
    rfl
  · intro codec
    rfl

end Nightgate.Submission
