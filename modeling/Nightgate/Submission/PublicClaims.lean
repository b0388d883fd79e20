import Nightgate.Submission.ClaimLookups

/-!
# Public claims

What a claim says, apart from how it is written down: as the arguments of a circuit, as the columns
of a row, or as the arguments of a verification. Each of the three is shown to stand for the same
tuple.
-/

namespace Nightgate.Submission

open Library

theorem hexToBytes_of_digits {digits : List Char}
    (areDigits : ∀ c ∈ digits, (radixDigit 16 c).isSome) :
    (digits.mapM (radixDigit 16)).isSome := by
  induction digits with
  | nil => rfl
  | cons c rest ih =>
    rcases Option.isSome_iff_exists.mp (areDigits c (List.mem_cons_self ..)) with ⟨digit, isDigit⟩
    rcases Option.isSome_iff_exists.mp
      (ih fun c isMem => areDigits c (List.mem_cons_of_mem _ isMem)) with ⟨others, areOthers⟩
    simp [List.mapM_cons, isDigit, areOthers]

theorem hexToBytes_isSome {text : String} (hex : isHex64 text = true) :
    ∃ digits, hexToBytes text = some digits := by
  simp only [isHex64, Bool.and_eq_true, List.all_eq_true] at hex
  exact Option.isSome_iff_exists.mp (hexToBytes_of_digits hex.2)

theorem ne_empty_of_hex {text : String} (hex : isHex64 text = true) : text ≠ "" := by
  intro empty
  subst empty
  cases hex

@[simp] theorem truthy_none : truthy none = none := rfl

theorem truthy_some {text : String} (nonempty : text ≠ "") : truthy (some text) = some text := by
  simp [truthy, nonempty]

theorem bounds_of_digit {c : Char} (digit : c.isDigit = true) : '0' ≤ c ∧ c ≤ '9' := by
  simp only [Char.isDigit, Bool.and_eq_true, decide_eq_true_eq] at digit
  exact digit

theorem radixDigit_ten {c : Char} (digit : c.isDigit = true) :
    radixDigit 10 c = some (c.toNat - '0'.toNat) := by
  have bounds := bounds_of_digit digit
  have upper : c.toNat ≤ '9'.toNat := bounds.2
  have small : c.toNat - '0'.toNat < 10 := by
    have nine : '9'.toNat = 57 := rfl
    have zero : '0'.toNat = 48 := rfl
    omega
  simp only [radixDigit, bounds, and_self, if_true, small]

theorem mapM_radixDigit_ten {digits : List Char} (areDigits : ∀ c ∈ digits, c.isDigit = true) :
    digits.mapM (radixDigit 10) = some (digits.map fun c => c.toNat - '0'.toNat) := by
  induction digits with
  | nil => rfl
  | cons c rest ih =>
    rw [List.mapM_cons, radixDigit_ten (areDigits c (List.mem_cons_self ..)),
      ih fun c isMem => areDigits c (List.mem_cons_of_mem _ isMem)]
    rfl

theorem foldl_digits (digits : List Char) (start : Nat) :
    List.foldl (fun (total value : Int) => total * (10 : Nat) + value) start
        ((digits.map fun c => c.toNat - '0'.toNat).map Int.ofNat) =
      (Nat.ofDigitChars 10 digits start : Nat) := by
  induction digits generalizing start with
  | nil => simp
  | cons c rest ih =>
    rw [List.map_cons, List.map_cons, List.foldl_cons, Nat.ofDigitChars_cons, ← ih]
    congr 1
    simp only [Int.ofNat_eq_natCast]
    omega

theorem toDigits_digits (n : Nat) : ∀ c ∈ Nat.toDigits 10 n, c.isDigit = true :=
  fun _ isMem => Nat.isDigit_of_mem_toDigits (by decide) (by decide) isMem

theorem radixValue_toDigits (n : Nat) : radixValue 10 (Nat.toDigits 10 n) = some (n : Int) := by
  have value := foldl_digits (Nat.toDigits 10 n) 0
  rw [Nat.ofDigitChars_ten_toDigits] at value
  simp only [radixValue, Nat.toDigits_ne_nil, if_false, mapM_radixDigit_ten (toDigits_digits n),
    Option.map_some, bind_pure_comp]
  exact congrArg some value

theorem isSpace_of_digit {c : Char} (digit : c.isDigit = true) : isSpace c = false := by
  have bounds := bounds_of_digit digit
  have lower : '0'.toNat ≤ c.toNat := bounds.1
  have upper : c.toNat ≤ '9'.toNat := bounds.2
  have nine : '9'.toNat = 57 := rfl
  have zero : '0'.toNat = 48 := rfl
  simp only [isSpace, Bool.or_eq_false_iff, Bool.and_eq_false_iff, decide_eq_false_iff_not]
  omega

theorem decimal_noSpace (n : Int) : ∀ c ∈ Json.decimal n, isSpace c = false := by
  intro c isMem
  cases n with
  | ofNat n => exact isSpace_of_digit (toDigits_digits n c isMem)
  | negSucc n =>
    cases isMem with
    | head => decide
    | tail _ isMem => exact isSpace_of_digit (toDigits_digits (n + 1) c isMem)

/-- `BigInt(String(n))`. -/
@[simp] theorem parseBigInt_numText (n : Int) : parseBigInt (numText n) = some n := by
  unfold parseBigInt numText
  rw [String.toList_ofList, trim_of_none (decimal_noSpace n)]
  cases n with
  | negSucc n => simp [Json.decimal, radixValue_toDigits, Int.negSucc_eq]
  | ofNat n =>
    have digits := toDigits_digits n
    have value := radixValue_toDigits n
    simp only [Json.decimal]
    revert digits value
    cases Nat.toDigits 10 n with
    | nil =>
      intro _ value
      cases value
    | cons c rest =>
      intro digits value
      split
      next same => cases same
      next same =>
        cases same
        cases digits 'x' (by simp)
      next same =>
        cases same
        cases digits 'X' (by simp)
      next same =>
        cases same
        cases digits 'o' (by simp)
      next same =>
        cases same
        cases digits 'O' (by simp)
      next same =>
        cases same
        cases digits 'b' (by simp)
      next same =>
        cases same
        cases digits 'B' (by simp)
      next same =>
        cases same
        cases digits '-' (by simp)
      next same =>
        cases same
        cases digits '+' (by simp)
      · exact value

/-! ## Claims -/

/-- The documents a claim is about: the first one's record, and the width of the contract. -/
structure ClaimSubject where
  attesterId : String
  payloadHash : String
  width : Nat

inductive PublicClaim where
  | field (fieldKey : String) (threshold : Int) (op : Nat)
  | equality (fieldKey expectedDigest : String)
  | membership (fieldKey setRoot : String)
  | integrity (payloadHashB attesterIdB : String) (allowedMask : Int)
  | diff (payloadHashB attesterIdB : String) (k : Int)

def ClaimSubject.Hex (subject : ClaimSubject) : Prop :=
  isHex64 subject.attesterId ∧ isHex64 subject.payloadHash

def PublicClaim.Hex : PublicClaim → Prop
  | .field fieldKey _ _ => isHex64 fieldKey
  | .equality fieldKey operand | .membership fieldKey operand =>
    isHex64 fieldKey ∧ isHex64 operand
  | .integrity payloadHashB attesterIdB _ | .diff payloadHashB attesterIdB _ =>
    isHex64 attesterIdB ∧ isHex64 payloadHashB

section Tuples

variable {Mask : Type} (persistentHash : List Nat → List Nat → String)
  (expandAllowedMask : Int → Nat → Mask)

/-- The key of a record whose ids are hex texts. -/
def recordKeyOf (attesterId payloadHash : String) : String :=
  persistentHash (attesterId.toList.filterMap (radixDigit 16))
    (payloadHash.toList.filterMap (radixDigit 16))

def ClaimSubject.recordKey (subject : ClaimSubject) : String :=
  recordKeyOf persistentHash subject.attesterId subject.payloadHash

/-- What the claim stands for. -/
def PublicClaim.tuple (subject : ClaimSubject) : PublicClaim → ClaimTuple String Mask
  | .field fieldKey threshold op =>
    .field (subject.recordKey persistentHash) fieldKey threshold op
  | .equality fieldKey expectedDigest =>
    .equality (subject.recordKey persistentHash) fieldKey expectedDigest
  | .membership fieldKey setRoot =>
    .membership (subject.recordKey persistentHash) fieldKey setRoot
  | .integrity payloadHashB attesterIdB allowedMask =>
    .integrity (subject.recordKey persistentHash)
      (recordKeyOf persistentHash attesterIdB payloadHashB)
      (expandAllowedMask allowedMask subject.width)
  | .diff payloadHashB attesterIdB k =>
    .diff (subject.recordKey persistentHash) (recordKeyOf persistentHash attesterIdB payloadHashB) k

theorem computeRecordKey_of_hex {attesterId payloadHash : String} (attester : isHex64 attesterId)
    (payload : isHex64 payloadHash) :
    computeRecordKey persistentHash attesterId payloadHash =
      some (recordKeyOf persistentHash attesterId payloadHash) := by
  unfold computeRecordKey recordKeyOf
  rw [attester, payload]
  rfl

/-- The hash of the circuit runtime is written in 64 hex digits. -/
def HashesToHex : Prop := ∀ first second, isHex64 (persistentHash first second)

end Tuples

namespace PublicClaim

def circuit : PublicClaim → String
  | .field .. => "proveFieldPredicate"
  | .equality .. => "proveFieldEquality"
  | .membership .. => "proveFieldMembership"
  | .integrity .. | .diff .. => "proveDocumentComparison"

section Calls

variable {Mask : Type} (persistentHash : List Nat → List Nat → String)
  (expandAllowedMask : Int → Nat → Mask)

/-- The arguments of the call that proves the claim. -/
def args (subject : ClaimSubject) (validUntil : Int) : PublicClaim → List (Option String)
  | .field fieldKey threshold op =>
    [some (subject.recordKey persistentHash), some fieldKey, some (numText threshold),
      some (numText op), some (numText validUntil)]
  | .equality fieldKey operand | .membership fieldKey operand =>
    [some (subject.recordKey persistentHash), some fieldKey, some operand,
      some (numText validUntil)]
  | .integrity payloadHashB attesterIdB allowedMask =>
    [some (subject.recordKey persistentHash),
      some (recordKeyOf persistentHash attesterIdB payloadHashB), some "0",
      some (numText allowedMask), some "1", some (numText validUntil)]
  | .diff payloadHashB attesterIdB k =>
    [some (subject.recordKey persistentHash),
      some (recordKeyOf persistentHash attesterIdB payloadHashB), some "1", some "0",
      some (numText k), some (numText validUntil)]

variable {persistentHash}

theorem parseBigInt_zero : parseBigInt "0" = some 0 := by decide

theorem parseBigInt_one : parseBigInt "1" = some 1 := by decide

/-- The circuit of a claim proves the claim of its converted arguments. -/
theorem claimOfCall_args (hashes : HashesToHex persistentHash) (subject : ClaimSubject)
    {claim : PublicClaim} (hex : claim.Hex) (validUntil : Int) :
    ∃ coerced passed, coerceArgs (typesOfCircuit expandAllowedMask subject.width claim.circuit)
          (claim.args persistentHash subject validUntil) = some coerced ∧
        claimOfCall claim.circuit coerced = some passed ∧
          (claim.tuple persistentHash expandAllowedMask subject).bytes = some passed := by
  rcases hexToBytes_isSome (hashes (subject.attesterId.toList.filterMap (radixDigit 16))
    (subject.payloadHash.toList.filterMap (radixDigit 16))) with ⟨key, isKey⟩
  cases claim with
  | field fieldKey threshold op =>
    rcases hexToBytes_isSome hex with ⟨field, isField⟩
    simp [PublicClaim.tuple, ClaimTuple.bytes, ClaimSubject.recordKey, recordKeyOf, isKey, isField,
      args, circuit, typesOfCircuit, fieldPredicateTypes, coerceArgs, bytesArg, intArg, claimOfCall]
  | equality fieldKey operand | membership fieldKey operand =>
    rcases hexToBytes_isSome hex.1 with ⟨field, isField⟩
    rcases hexToBytes_isSome hex.2 with ⟨digest, isDigest⟩
    simp [PublicClaim.tuple, ClaimTuple.bytes, ClaimSubject.recordKey, recordKeyOf, isKey, isField,
      isDigest, args, circuit, typesOfCircuit, fieldBytesTypes, coerceArgs, bytesArg, intArg,
      claimOfCall]
  | integrity payloadHashB attesterIdB _ | diff payloadHashB attesterIdB _ =>
    rcases hexToBytes_isSome (hashes (attesterIdB.toList.filterMap (radixDigit 16))
      (payloadHashB.toList.filterMap (radixDigit 16))) with ⟨keyB, isKeyB⟩
    simp [PublicClaim.tuple, ClaimTuple.bytes, ClaimSubject.recordKey, recordKeyOf, isKey, isKeyB,
      args, circuit, typesOfCircuit, documentComparisonTypes, coerceArgs, bytesArg, intArg, maskArg,
      parseBigInt_zero, parseBigInt_one, claimOfCall]

end Calls

end PublicClaim

/-! ## Claims as lookups -/

/-- The reader looks the tuple up as soon as the documents are anchored. -/
def LooksUp {Mask : Type} (persistentHash : List Nat → List Nat → String)
    (expandAllowedMask : Int → Nat → Mask) (args : ReadPredicateStateArgs)
    (tuple : ClaimTuple String Mask) : Prop :=
  ∀ anchorOf, readPredicateStateForContract persistentHash expandAllowedMask anchorOf args =
    some (tuple.lookup anchorOf)

/-- What the reader is given of the claim itself. -/
def PublicClaim.GivenIn (args : ReadPredicateStateArgs) : PublicClaim → Prop
  | .field fieldKey threshold op =>
    args.payloadHashB = none ∧ args.expectedDigest = none ∧ args.setRoot = none ∧
      args.fieldKey = some fieldKey ∧ args.threshold = some threshold ∧ args.op = some (op : Int)
  | .equality fieldKey expectedDigest =>
    args.payloadHashB = none ∧ args.fieldKey = some fieldKey ∧
      args.expectedDigest = some expectedDigest
  | .membership fieldKey setRoot =>
    args.payloadHashB = none ∧ args.expectedDigest = none ∧ args.fieldKey = some fieldKey ∧
      args.setRoot = some setRoot
  | .integrity payloadHashB attesterIdB allowedMask =>
    args.payloadHashB = some payloadHashB ∧ args.attesterIdB.getD args.attesterId = attesterIdB ∧
      args.allowedMask = some allowedMask
  | .diff payloadHashB attesterIdB k =>
    args.payloadHashB = some payloadHashB ∧ args.attesterIdB.getD args.attesterId = attesterIdB ∧
      args.allowedMask = none ∧ args.k = some k

/-- The reader is given the claim about these documents. -/
structure PublicClaim.ReadBy (claim : PublicClaim) (subject : ClaimSubject)
    (args : ReadPredicateStateArgs) : Prop where
  attesterId : args.attesterId = subject.attesterId
  payloadHash : args.payloadHash = subject.payloadHash
  slotWidth : args.slotWidth = subject.width
  given : claim.GivenIn args

section Readers

variable {Mask : Type} {persistentHash : List Nat → List Nat → String}
  {expandAllowedMask : Int → Nat → Mask} {subject : ClaimSubject} {claim : PublicClaim}
  {args : ReadPredicateStateArgs}

theorem looksUp_of_fieldClaim {tuple : ClaimTuple String Mask} {recordKey : String}
    (key : computeRecordKey persistentHash args.attesterId args.payloadHash = some recordKey)
    (single : args.payloadHashB = none) (isClaim : args.fieldClaim recordKey = some tuple)
    (anchored : ∀ anchorOf, tuple.anchored anchorOf = (anchorOf recordKey).isSome) :
    LooksUp persistentHash expandAllowedMask args tuple := by
  intro anchorOf
  unfold readPredicateStateForContract ClaimTuple.lookup
  rw [key, single, anchored anchorOf]
  cases isAnchor : anchorOf recordKey with
  | none => simp [isAnchor]
  | some anchor => simp [isAnchor, isClaim]

theorem looksUp_of_documentClaim {tuple : ClaimTuple String Mask}
    {recordKeyA recordKeyB payloadHashB : String}
    (keyA : computeRecordKey persistentHash args.attesterId args.payloadHash = some recordKeyA)
    (pair : truthy args.payloadHashB = some payloadHashB)
    (keyB : computeRecordKey persistentHash (args.attesterIdB.getD args.attesterId) payloadHashB =
      some recordKeyB)
    (isClaim : args.documentClaim expandAllowedMask recordKeyA recordKeyB = some tuple)
    (anchored : ∀ anchorOf, tuple.anchored anchorOf =
      match anchorOf recordKeyA, anchorOf recordKeyB with
      | some anchorA, some anchorB => decide (anchorA.schema = anchorB.schema)
      | _, _ => false) :
    LooksUp persistentHash expandAllowedMask args tuple := by
  intro anchorOf
  unfold readPredicateStateForContract ClaimTuple.lookup
  rw [keyA, pair, anchored anchorOf]
  cases isAnchorA : anchorOf recordKeyA with
  | none => simp [isAnchorA]
  | some anchorA =>
    cases isAnchorB : anchorOf recordKeyB with
    | none => simp [isAnchorA, keyB, isAnchorB]
    | some anchorB =>
      by_cases sameSchema : anchorA.schema = anchorB.schema
      · simp [isAnchorA, keyB, isAnchorB, sameSchema, isClaim]
      · simp [isAnchorA, keyB, isAnchorB, sameSchema]

/-- The reader of a claim looks its tuple up. -/
theorem PublicClaim.ReadBy.looksUp (read : claim.ReadBy subject args) (subjectHex : subject.Hex)
    (hex : claim.Hex) :
    LooksUp persistentHash expandAllowedMask args
      (claim.tuple persistentHash expandAllowedMask subject) := by
  have key : computeRecordKey persistentHash args.attesterId args.payloadHash =
      some (subject.recordKey persistentHash) := by
    rw [read.attesterId, read.payloadHash]
    exact computeRecordKey_of_hex persistentHash subjectHex.1 subjectHex.2
  have given := read.given
  have keyB {attesterIdB payloadHashB : String} (attester : isHex64 attesterIdB)
      (payload : isHex64 payloadHashB)
      (same : args.attesterIdB.getD args.attesterId = attesterIdB) :
      computeRecordKey persistentHash (args.attesterIdB.getD args.attesterId) payloadHashB =
        some (recordKeyOf persistentHash attesterIdB payloadHashB) := by
    rw [same]
    exact computeRecordKey_of_hex persistentHash attester payload
  cases claim with
  | field fieldKey threshold op =>
    rcases given with ⟨single, noDigest, noRoot, isField, isThreshold, isOp⟩
    apply looksUp_of_fieldClaim key single ?_ fun _ => rfl
    simp [ReadPredicateStateArgs.fieldClaim, isField, truthy_some (ne_empty_of_hex hex), noDigest,
      noRoot, isThreshold, isOp, tuple]
  | equality fieldKey expectedDigest =>
    rcases given with ⟨single, isField, isDigest⟩
    apply looksUp_of_fieldClaim key single ?_ fun _ => rfl
    simp [ReadPredicateStateArgs.fieldClaim, isField, truthy_some (ne_empty_of_hex hex.1),
      isDigest, truthy_some (ne_empty_of_hex hex.2), tuple]
  | membership fieldKey setRoot =>
    rcases given with ⟨single, noDigest, isField, isRoot⟩
    apply looksUp_of_fieldClaim key single ?_ fun _ => rfl
    simp [ReadPredicateStateArgs.fieldClaim, isField, truthy_some (ne_empty_of_hex hex.1),
      noDigest, isRoot, truthy_some (ne_empty_of_hex hex.2), tuple]
  | integrity payloadHashB attesterIdB allowedMask =>
    rcases given with ⟨isHashB, isAttesterB, isMask⟩
    have pair : truthy args.payloadHashB = some payloadHashB := by
      rw [isHashB, truthy_some (ne_empty_of_hex hex.2)]
    apply looksUp_of_documentClaim key pair (keyB hex.1 hex.2 isAttesterB) ?_ fun _ => rfl
    simp [ReadPredicateStateArgs.documentClaim, isMask, read.slotWidth, tuple]
  | diff payloadHashB attesterIdB k =>
    rcases given with ⟨isHashB, isAttesterB, noMask, isK⟩
    have pair : truthy args.payloadHashB = some payloadHashB := by
      rw [isHashB, truthy_some (ne_empty_of_hex hex.2)]
    apply looksUp_of_documentClaim key pair (keyB hex.1 hex.2 isAttesterB) ?_ fun _ => rfl
    simp [ReadPredicateStateArgs.documentClaim, noMask, isK, tuple]

end Readers

/-- What the row has of the claim itself. -/
def PublicClaim.StoredIn (row : PredicateAttestation) : PublicClaim → Prop
  | .field fieldKey threshold op =>
    row.bytesKind = false ∧ row.docKind = false ∧ row.fieldKey = some fieldKey ∧
      row.threshold.bind parseBigInt = some threshold ∧ row.op = some op
  | .equality fieldKey expectedDigest =>
    row.predicate = "bytesEquality" ∧ row.fieldKey = some fieldKey ∧
      row.expectedDigest = some expectedDigest
  | .membership fieldKey setRoot =>
    row.predicate = "setMembership" ∧ row.fieldKey = some fieldKey ∧ row.setRoot = some setRoot
  | .integrity payloadHashB attesterIdB allowedMask =>
    row.predicate = "documentIntegrity" ∧ row.payloadHashB = some payloadHashB ∧
      row.attesterIdB.getD row.attesterId = attesterIdB ∧ row.allowedMask = some allowedMask
  | .diff payloadHashB attesterIdB k =>
    row.predicate = "documentDiff" ∧ row.payloadHashB = some payloadHashB ∧
      row.attesterIdB.getD row.attesterId = attesterIdB ∧ row.threshold.bind parseBigInt = some k

/-- The row records the claim about these documents. -/
structure PublicClaim.RecordedBy (services : SubmissionServices) (claim : PublicClaim)
    (subject : ClaimSubject) (row : PredicateAttestation) : Prop where
  attesterId : row.attesterId = subject.attesterId
  payloadHash : row.payloadHash = subject.payloadHash
  width : services.slotWidthOf (vaultRef (.value row.compiledArtifactRef)) = subject.width
  stored : claim.StoredIn row

section Rows

variable {services : SubmissionServices} {subject : ClaimSubject} {claim : PublicClaim}
  {row : PredicateAttestation}

/-- The attester of B, where an empty one counts as none. -/
theorem truthy_attesterIdB {attesterId attesterIdB : String}
    (same : row.attesterIdB.getD attesterId = attesterIdB) (hex : isHex64 attesterIdB) :
    (truthy row.attesterIdB).getD attesterId = attesterIdB := by
  cases isAttester : row.attesterIdB with
  | none =>
    rw [isAttester] at same
    exact same
  | some other =>
    rw [isAttester, Option.getD_some] at same
    subst same
    rw [truthy_some (ne_empty_of_hex hex)]
    rfl

/-- A verification of the row reads the claim. -/
theorem PublicClaim.RecordedBy.read (recorded : claim.RecordedBy services subject row)
    (subjectHex : subject.Hex) (hex : claim.Hex) :
    ∃ args, verifyPredicateViaState services row = some args ∧ claim.ReadBy subject args := by
  have attester : row.attesterId ≠ "" := by
    rw [recorded.attesterId]
    exact ne_empty_of_hex subjectHex.1
  have stored := recorded.stored
  unfold verifyPredicateViaState
  rw [if_neg attester]
  cases claim with
  | field fieldKey threshold op =>
    rcases stored with ⟨notBytes, notDoc, isField, isThreshold, isOp⟩
    have predicates := notBytes
    have docPredicates := notDoc
    simp only [PredicateAttestation.bytesKind, PredicateAttestation.docKind, Bool.or_eq_false_iff,
      decide_eq_false_iff_not] at predicates docPredicates
    simp only [notBytes, notDoc, isThreshold, predicates, docPredicates]
    refine ⟨_, rfl, recorded.attesterId, recorded.payloadHash, recorded.width, ?_⟩
    simp [GivenIn, isField, truthy_some (ne_empty_of_hex hex), isOp]
  | equality fieldKey expectedDigest =>
    rcases stored with ⟨isPredicate, isField, isDigest⟩
    simp only [PredicateAttestation.bytesKind, PredicateAttestation.docKind, isPredicate]
    refine ⟨_, rfl, recorded.attesterId, recorded.payloadHash, recorded.width, ?_⟩
    simp [GivenIn, isField, truthy_some (ne_empty_of_hex hex.1), isDigest,
      truthy_some (ne_empty_of_hex hex.2)]
  | membership fieldKey setRoot =>
    rcases stored with ⟨isPredicate, isField, isRoot⟩
    simp only [PredicateAttestation.bytesKind, PredicateAttestation.docKind, isPredicate]
    refine ⟨_, rfl, recorded.attesterId, recorded.payloadHash, recorded.width, ?_⟩
    simp [GivenIn, isField, truthy_some (ne_empty_of_hex hex.1), isRoot,
      truthy_some (ne_empty_of_hex hex.2)]
  | integrity payloadHashB attesterIdB allowedMask =>
    rcases stored with ⟨isPredicate, isHashB, isAttesterB, isMask⟩
    simp only [PredicateAttestation.bytesKind, PredicateAttestation.docKind, isPredicate]
    refine ⟨_, rfl, recorded.attesterId, recorded.payloadHash, recorded.width, ?_⟩
    simp [GivenIn, isHashB, truthy_some (ne_empty_of_hex hex.2),
      truthy_attesterIdB isAttesterB hex.1, isMask]
  | diff payloadHashB attesterIdB k =>
    rcases stored with ⟨isPredicate, isHashB, isAttesterB, isK⟩
    simp only [PredicateAttestation.bytesKind, PredicateAttestation.docKind, isPredicate]
    refine ⟨_, rfl, recorded.attesterId, recorded.payloadHash, recorded.width, ?_⟩
    simp [GivenIn, isHashB, truthy_some (ne_empty_of_hex hex.2),
      truthy_attesterIdB isAttesterB hex.1, isK]

end Rows

/-- An argument that is given, in lower case. -/
def LowersTo (services : SubmissionServices) (arg : Arg String) (text : String) : Prop :=
  arg.given = true ∧ services.toLowerCase arg.text = text

/-- The predicate is of this kind. -/
def VerifyPredicateArgs.IsOf (data : VerifyPredicateArgs) (kind : PredicateKind)
    (opCode : Option Nat) : Prop :=
  data.predicate.get?.bind parsePredicate = some ⟨kind, opCode⟩

/-- What the arguments say of the claim itself. -/
def PublicClaim.NamedIn (services : SubmissionServices) (subject : ClaimSubject)
    (data : VerifyPredicateArgs) : PublicClaim → Prop
  | .field fieldKey threshold op =>
    data.IsOf .numeric (some op) ∧ LowersTo services data.fieldKey fieldKey ∧
      data.threshold.get?.isSome ∧ parseBigInt data.threshold.text = some threshold ∧
        0 ≤ threshold ∧ threshold ≤ UINT64_MAX
  | .equality fieldKey expectedDigest =>
    data.IsOf .equality none ∧ LowersTo services data.fieldKey fieldKey ∧
      LowersTo services data.expectedDigest expectedDigest
  | .membership fieldKey setRoot =>
    data.IsOf .membership none ∧ LowersTo services data.fieldKey fieldKey ∧
      LowersTo services data.setRoot setRoot
  | .integrity payloadHashB attesterIdB allowedMask =>
    data.IsOf .integrity none ∧ LowersTo services data.payloadHashB payloadHashB ∧
      (VerifyPredicateArgs.lowerGiven services data.attesterIdB).getD subject.attesterId =
        attesterIdB ∧ data.allowedMask.get? = some allowedMask ∧ 0 ≤ allowedMask ∧
          allowedMask ≤ maxMaskOf subject.width
  | .diff payloadHashB attesterIdB k =>
    data.IsOf .diff none ∧ LowersTo services data.payloadHashB payloadHashB ∧
      (VerifyPredicateArgs.lowerGiven services data.attesterIdB).getD subject.attesterId =
        attesterIdB ∧ data.k.get? = some k ∧ 1 ≤ k ∧ k ≤ subject.width

/-- The arguments name the claim about these documents. -/
structure PublicClaim.NamedBy (services : SubmissionServices) (claim : PublicClaim)
    (subject : ClaimSubject) (data : VerifyPredicateArgs) : Prop where
  contractAddress : data.contractAddress.given = true
  attesterId : LowersTo services data.attesterId subject.attesterId
  payloadHash : LowersTo services data.payloadHash subject.payloadHash
  width : services.slotWidthOf (vaultRef data.compiledArtifactRef) = subject.width
  named : claim.NamedIn services subject data

section Verifications

variable {services : SubmissionServices} {subject : ClaimSubject} {claim : PublicClaim}
  {data : VerifyPredicateArgs}

@[simp] theorem check_true (message : String) : check true message = .ok () := rfl

theorem vaultRef_ne_empty (compiledRef : Arg String) : vaultRef compiledRef ≠ "" := by
  unfold vaultRef
  split
  next given =>
    intro empty
    cases compiledRef with
    | undefined | null => cases given
    | value text =>
      have isEmpty : text = "" := empty
      subst isEmpty
      cases given
  · decide

@[simp] theorem vaultRef_vaultRef (compiledRef : Arg String) :
    vaultRef (.value (vaultRef compiledRef)) = vaultRef compiledRef := by
  have given : (Arg.value (vaultRef compiledRef)).given = true := by
    simp [Arg.given, Arg.get?, vaultRef_ne_empty]
  show (if _ then _ else _) = _
  rw [if_pos given]
  rfl

theorem lowerGiven_of_given {arg : Arg String} {text : String}
    (lowers : LowersTo services arg text) :
    VerifyPredicateArgs.lowerGiven services arg = some text := by
  unfold VerifyPredicateArgs.lowerGiven
  rw [if_pos lowers.1, lowers.2]

theorem PublicClaim.NamedBy.base (named : claim.NamedBy services subject data) :
    (data.base services).attesterId = subject.attesterId ∧
      (data.base services).payloadHash = subject.payloadHash ∧
        (data.base services).slotWidth = subject.width := by
  refine ⟨named.attesterId.2, named.payloadHash.2, ?_⟩
  rw [← named.width]
  unfold VerifyPredicateArgs.base
  rw [vaultRef_vaultRef]

/-- The function that the claim is named to reads it. -/
theorem PublicClaim.NamedBy.read (named : claim.NamedBy services subject data) :
    ∃ args, verifyPredicateState services data = .ok args ∧ claim.ReadBy subject args := by
  rcases named.base with ⟨attesterId, payloadHash, slotWidth⟩
  have isNamed := named.named
  have width : data.width services = subject.width := named.width
  unfold verifyPredicateState
  rw [named.contractAddress, named.attesterId.1, named.payloadHash.1]
  simp only [check_true, bind, Except.bind]
  cases claim with
  | field fieldKey threshold op =>
    rcases isNamed with ⟨isOf, isField, isGiven, isThreshold, nonneg, bounded⟩
    rw [isOf]
    simp only [VerifyPredicateArgs.checkNumeric, VerifyPredicateArgs.checkFieldKey, isField.1,
      isGiven, isThreshold, nonneg, bounded, decide_true, check_true]
    refine ⟨_, rfl, attesterId, payloadHash, slotWidth, ?_⟩
    simp [GivenIn, VerifyPredicateArgs.base, lowerGiven_of_given isField]
  | equality fieldKey expectedDigest =>
    rcases isNamed with ⟨isOf, isField, isDigest⟩
    rw [isOf]
    simp only [VerifyPredicateArgs.equality, VerifyPredicateArgs.checkFieldKey, isField.1,
      isDigest.1, check_true]
    refine ⟨_, rfl, attesterId, payloadHash, slotWidth, ?_⟩
    simp [GivenIn, VerifyPredicateArgs.base, lowerGiven_of_given isField, isDigest.2]
  | membership fieldKey setRoot =>
    rcases isNamed with ⟨isOf, isField, isRoot⟩
    rw [isOf]
    simp only [VerifyPredicateArgs.membership, VerifyPredicateArgs.checkFieldKey, isField.1,
      isRoot.1, check_true]
    refine ⟨_, rfl, attesterId, payloadHash, slotWidth, ?_⟩
    simp [GivenIn, VerifyPredicateArgs.base, lowerGiven_of_given isField, isRoot.2]
  | integrity payloadHashB attesterIdB allowedMask =>
    rcases isNamed with ⟨isOf, isHashB, isAttesterB, isMask, nonneg, bounded⟩
    rw [isOf]
    simp only [VerifyPredicateArgs.integrity, isHashB.1, isMask, Option.getD_some, width, nonneg,
      bounded, decide_true, Bool.and_self, check_true]
    refine ⟨_, rfl, attesterId, payloadHash, slotWidth, isHashB.2 ▸ rfl, ?_, rfl⟩
    rw [attesterId]
    exact isAttesterB
  | diff payloadHashB attesterIdB k =>
    rcases isNamed with ⟨isOf, isHashB, isAttesterB, isK, positive, bounded⟩
    rw [isOf]
    simp only [VerifyPredicateArgs.diff, isHashB.1, isK, Option.getD_some, width, positive,
      bounded, decide_true, Bool.and_self, check_true]
    refine ⟨_, rfl, attesterId, payloadHash, slotWidth, isHashB.2 ▸ rfl, ?_, rfl, rfl⟩
    rw [attesterId]
    exact isAttesterB

end Verifications

end Nightgate.Submission
