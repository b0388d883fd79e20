import Nightgate.Submission.ClaimAgreement

/-!
# Claims of a batch

A batch proves its claims in one transaction and records a row for each; a claim that is asked for
again is dropped. With it, every request for claims agrees with both verifications.
-/

namespace Nightgate.Submission

open Library

theorem forall₂_of_mapIndexed_ok {Value Result : Type} {values : List Value}
    {read : Nat → Value → Except String Result} {results : List Result}
    (ran : mapIndexed values read = .ok results) :
    List.Forall₂ (fun value result => ∃ i, read i value = .ok result) values results := by
  unfold mapIndexed at ran
  generalize 0 = start at ran
  induction values generalizing start results with
  | nil =>
    cases ran
    exact .nil
  | cons value rest ih =>
    rw [List.zipIdx_cons, List.mapM_cons] at ran
    simp only [bind_eq_ok] at ran
    obtain ⟨first, isFirst, others, areOthers, ran⟩ := ran
    cases ran
    exact .cons ⟨start, isFirst⟩ (ih (start + 1) areOthers)

/-- Two readings of a list one after the other. -/
theorem forall₂_through {First Second Third : Type} {relates : First → Second → Prop}
    {continues : Second → Third → Prop} {firsts : List First} {seconds : List Second}
    {thirds : List Third} (before : List.Forall₂ relates firsts seconds)
    (after : List.Forall₂ continues seconds thirds) :
    List.Forall₂ (fun first third => ∃ second, relates first second ∧ continues second third)
      firsts thirds := by
  induction before generalizing thirds with
  | nil =>
    cases after
    exact .nil
  | cons related _ ih =>
    cases after with
    | cons continued rest => exact .cons ⟨_, related, continued⟩ (ih rest)

/-- What lies between the elements of two lists, as a list of its own. -/
theorem exists_between {First Second Third : Type} {relates : First → Second → Prop}
    {continues : Second → Third → Prop} {firsts : List First} {thirds : List Third}
    (related : List.Forall₂ (fun first third => ∃ second, relates first second ∧
      continues second third) firsts thirds) :
    ∃ seconds, List.Forall₂ relates firsts seconds ∧ List.Forall₂ continues seconds thirds := by
  induction related with
  | nil => exact ⟨[], .nil, .nil⟩
  | cons relatedHead _ ih =>
    rcases relatedHead with ⟨second, before, after⟩
    rcases ih with ⟨seconds, befores, afters⟩
    exact ⟨second :: seconds, .cons before befores, .cons after afters⟩

/-! ## Claims of a command -/

/-- The claim as a command of a batch carries it. -/
def PublicClaim.CarriedBy (attesterId : String) (claim : BatchClaimCommand) : PublicClaim → Prop
  | .field fieldKey threshold op =>
    (claim.predicate = "lessOrEqual" ∨ claim.predicate = "greaterOrEqual") ∧
      claim.fieldKey = some fieldKey ∧ claim.threshold = some (numText threshold) ∧
        claim.opCode = some op
  | .equality fieldKey expectedDigest =>
    claim.predicate = "bytesEquality" ∧ claim.fieldKey = some fieldKey ∧
      claim.expectedDigest = some expectedDigest
  | .membership fieldKey setRoot =>
    claim.predicate = "setMembership" ∧ claim.fieldKey = some fieldKey ∧
      claim.setRoot = some setRoot
  | .integrity payloadHashB attesterIdB allowedMask =>
    claim.predicate = "documentIntegrity" ∧ claim.payloadHashB = some payloadHashB ∧
      claim.attesterIdB.getD attesterId = attesterIdB ∧ claim.allowedMask = some allowedMask
  | .diff payloadHashB attesterIdB k =>
    claim.predicate = "documentDiff" ∧ claim.payloadHashB = some payloadHashB ∧
      claim.attesterIdB.getD attesterId = attesterIdB ∧ claim.k = some k

namespace BatchArgs

abbrev subject (services : SubmissionServices) (data : BatchArgs) : ClaimSubject :=
  subjectOf services data.sessionId data.attesterId data.payloadHash data.compiledArtifactRef

end BatchArgs

section Carried

variable {services : SubmissionServices} {data : BatchArgs} {claim : PublicClaim}
  {carrier : BatchClaimCommand}

/-- The row of a claim records it. -/
theorem PublicClaim.CarriedBy.recordedBy
    (carried : claim.CarriedBy (data.subject services).attesterId carrier) :
    claim.RecordedBy services (data.subject services) (data.row services carrier) := by
  refine recordedBy_subjectOf rfl rfl rfl ?_
  cases claim with
  | field fieldKey threshold op =>
    rcases carried with ⟨numeric, isField, isThreshold, isOp⟩
    have numericRow : (data.row services carrier).predicate = "lessOrEqual" ∨
        (data.row services carrier).predicate = "greaterOrEqual" := numeric
    rcases notBytes_of_numeric numericRow with ⟨notBytes, notDoc⟩
    have notDiff : carrier.predicate ≠ "documentDiff" := by
      cases numeric with
      | inl isLess =>
        rw [isLess]
        decide
      | inr isGreater =>
        rw [isGreater]
        decide
    refine ⟨notBytes, notDoc, isField, ?_, isOp⟩
    unfold BatchArgs.row
    rw [if_neg notDiff, isThreshold]
    exact parseBigInt_numText threshold
  | equality fieldKey operand | membership fieldKey operand | integrity payloadHashB _ _ =>
    exact carried
  | diff payloadHashB attesterIdB k =>
    rcases carried with ⟨isPredicate, isHashB, isAttesterB, isK⟩
    refine ⟨isPredicate, isHashB, isAttesterB, ?_⟩
    unfold BatchArgs.row
    rw [if_pos isPredicate, isK]
    exact parseBigInt_numText k

/-- The call of a claim has its circuit and its arguments. -/
theorem PublicClaim.CarriedBy.call {persistentHash : List Nat → List Nat → String}
    {subject : ClaimSubject} (carried : claim.CarriedBy subject.attesterId carrier)
    (hex : claim.Hex) (validUntil : Int) :
    ∃ call, carrier.call persistentHash subject.attesterId (subject.recordKey persistentHash)
        validUntil = some call ∧
      call.circuit = claim.circuit ∧ call.args = claim.args persistentHash subject validUntil := by
  unfold BatchClaimCommand.call
  cases claim with
  | field fieldKey threshold op =>
    rcases carried with ⟨isLess | isGreater, isField, isThreshold, isOp⟩
    · simp [isLess, isField, isThreshold, isOp, circuit, args, numTextOf]
    · simp [isGreater, isField, isThreshold, isOp, circuit, args, numTextOf]
  | equality fieldKey operand | membership fieldKey operand =>
    rcases carried with ⟨isPredicate, isField, isOperand⟩
    simp [isPredicate, isField, isOperand, circuit, args]
  | integrity payloadHashB attesterIdB value | diff payloadHashB attesterIdB value =>
    rcases carried with ⟨isPredicate, isHashB, isAttesterB, isValue⟩
    have keyB := computeRecordKey_of_hex persistentHash hex.1 hex.2
    simp [isPredicate, BatchClaimCommand.recordKeyB, isHashB, isAttesterB, keyB, isValue, circuit,
      args, numTextOf]

theorem numText_ne {n : Int} {text : String} (notNumber : parseBigInt text = none) :
    numText n ≠ text := by
  intro same
  rw [← same, parseBigInt_numText] at notNumber
  cases notNumber

theorem toString_eq_numText (n : Int) : toString n = numText n := by
  cases n with
  | ofNat n => exact Nat.toString_eq_ofList_toDigits
  | negSucc n =>
    apply String.toList_inj.mp
    show ("-" ++ toString (n + 1)).toList = _
    rw [Nat.toString_eq_ofList_toDigits]
    simp [numText, Json.decimal]

theorem toString_int_injective {first second : Int} (same : toString first = toString second) :
    first = second := by
  rw [toString_eq_numText, toString_eq_numText] at same
  exact numText_injective same

theorem toString_nat_injective {first second : Nat} (same : toString first = toString second) :
    first = second := by
  have sameInt : toString (first : Int) = toString (second : Int) := same
  exact Int.ofNat_inj.mp (toString_int_injective sameInt)

/-- The fields that tell a claim apart from the others of its batch. -/
theorem PublicClaim.CarriedBy.claimTuple_eq {attesterId : String}
    (carried : claim.CarriedBy attesterId carrier) :
    claimTuple carrier =
      match claim with
      | .field fieldKey threshold op =>
        [some fieldKey, some (numText threshold), some (toString op)]
      | .equality fieldKey expectedDigest => [some fieldKey, some "eq", some expectedDigest]
      | .membership fieldKey setRoot => [some fieldKey, some "set", some setRoot]
      | .integrity payloadHashB _ allowedMask =>
        [some (carrier.attesterIdB.getD ""), some payloadHashB, some "integ",
          some (toString allowedMask)]
      | .diff payloadHashB _ k =>
        [some (carrier.attesterIdB.getD ""), some payloadHashB, some "diff",
          some (toString k)] := by
  unfold claimTuple
  cases claim with
  | field fieldKey threshold op =>
    rcases carried with ⟨isLess | isGreater, isField, isThreshold, isOp⟩
    · simp [isLess, isField, isThreshold, isOp]
    · simp [isGreater, isField, isThreshold, isOp]
  | equality fieldKey operand | membership fieldKey operand =>
    rcases carried with ⟨isPredicate, isField, isOperand⟩
    simp [isPredicate, isField, isOperand]
  | integrity payloadHashB attesterIdB value | diff payloadHashB attesterIdB value =>
    rcases carried with ⟨isPredicate, isHashB, isAttesterB, isValue⟩
    simp [isPredicate, isHashB, isValue]

/-- An attester that is left out is not mistaken for one that is given. -/
theorem attesterIdB_eq {attesterId first second : String} {given given' : Option String}
    (isFirst : given.getD attesterId = first) (isSecond : given'.getD attesterId = second)
    (firstHex : isHex64 first) (secondHex : isHex64 second)
    (same : given.getD "" = given'.getD "") : first = second := by
  subst isFirst isSecond
  cases given with
  | none =>
    cases given' with
    | none => rfl
    | some text => exact absurd same.symm (ne_empty_of_hex secondHex)
  | some text =>
    cases given' with
    | none => exact absurd same (ne_empty_of_hex firstHex)
    | some text' => exact same

/-- Commands with the same tuple carry the same claim. -/
theorem PublicClaim.CarriedBy.eq_of_tuple {attesterId : String} {other : PublicClaim}
    {otherCarrier : BatchClaimCommand} (carried : claim.CarriedBy attesterId carrier)
    (otherCarried : other.CarriedBy attesterId otherCarrier) (hex : claim.Hex)
    (otherHex : other.Hex) (same : claimTuple carrier = claimTuple otherCarrier) :
    claim = other := by
  rw [carried.claimTuple_eq, otherCarried.claimTuple_eq] at same
  have notEq (n : Int) : numText n ≠ "eq" := numText_ne (by decide)
  have notSet (n : Int) : numText n ≠ "set" := numText_ne (by decide)
  cases claim <;> cases other <;>
    simp only [List.cons.injEq, Option.some.injEq, and_true, reduceCtorEq, and_false, notEq,
      notSet, (notEq _).symm, (notSet _).symm, String.reduceEq, false_and] at same
  case field.field =>
      rcases same with ⟨rfl, sameThreshold, sameOp⟩
      rw [numText_injective sameThreshold, toString_nat_injective sameOp]
  case equality.equality =>
      rw [same.1, same.2.2]
  case membership.membership =>
      rw [same.1, same.2.2]
  case integrity.integrity =>
      rw [same.2.1, toString_int_injective same.2.2.2,
        attesterIdB_eq carried.2.2.1 otherCarried.2.2.1 hex.1 otherHex.1 same.1]
  case diff.diff =>
      rw [same.2.1, toString_int_injective same.2.2.2,
        attesterIdB_eq carried.2.2.1 otherCarried.2.2.1 hex.1 otherHex.1 same.1]

end Carried

/-! ## Entries of a batch -/

theorem of_check {holds : Bool} {message : String} {value : Unit}
    (passed : check holds message = .ok value) : holds = true := by
  unfold check at passed
  split at passed
  next isTrue => exact isTrue
  · cases passed

section Entries

variable {services : SubmissionServices} {data : BatchArgs} {entry : BatchClaimArg}

theorem hex64Arg_ok (lawful : services.Lawful) {arg : Arg String} {name text : String}
    (read : hex64Arg services arg name = .ok text) :
    services.LowerHex text ∧ LowersTo services arg text := by
  unfold hex64Arg at read
  split at read
  next given =>
    split at read
    next hex =>
      cases read
      refine ⟨lawful.toLowerCase given hex, ?_, rfl⟩
      simp [Arg.given, Arg.get?, ne_empty_of_hex hex]
    · cases read
  · cases read

/-- The attester of B is that of the batch where it is left out. -/
theorem optionalHex64Arg_ok (lawful : services.Lawful) {arg : Arg String} {name : String}
    {given : Option String} {attesterId : String} (attesterHex : isHex64 attesterId)
    (read : optionalHex64Arg services arg name = .ok given) :
    isHex64 (given.getD attesterId) ∧
      (VerifyPredicateArgs.lowerGiven services arg).getD attesterId = given.getD attesterId := by
  unfold optionalHex64Arg at read
  split at read
  · cases read
    exact ⟨attesterHex, rfl⟩
  · rcases of_map_ok read with ⟨text, isText, rfl⟩
    rcases hex64Arg_ok lawful isText with ⟨hex, lowers⟩
    rw [lowerGiven_of_given lowers]
    exact ⟨hex.1, rfl⟩

/-- An entry whose claim is carried by this command, under the name that verifies it. -/
def CarriesEntry (services : SubmissionServices) (data : BatchArgs) (entry : BatchClaimArg)
    (claim : PublicClaim) (carrier : BatchClaimCommand) : Prop :=
  claim.Hex ∧ claim.CarriedBy (data.subject services).attesterId carrier ∧
    claim.NamedIn services (data.subject services) (data.verification services entry)

theorem parseDocumentClaim_carries (lawful : services.Lawful)
    (subjectHex : (data.subject services).Hex) {name : String} {kind : PredicateKind}
    {carrier : BatchClaimCommand} (isKind : kind = .integrity ∨ kind = .diff)
    (isOf : (data.verification services entry).IsOf kind none)
    (ran : parseDocumentClaim services name data entry kind = .ok carrier) :
    ∃ claim, CarriesEntry services data entry claim carrier := by
  unfold parseDocumentClaim at ran
  simp only [bind_eq_ok] at ran
  obtain ⟨payloadHashB, isHashB, attesterIdB, isAttesterB, _, _, pair, _, ran⟩ := ran
  rcases hex64Arg_ok lawful isHashB with ⟨hashHex, hashLowers⟩
  rcases optionalHex64Arg_ok lawful subjectHex.1 isAttesterB with ⟨attesterHex, attesterNamed⟩
  split at ran
  next isIntegrity =>
    rw [isIntegrity] at isOf
    simp only [bind_eq_ok] at ran
    obtain ⟨_, bounds, _, _, _, _, ran⟩ := ran
    cases ran
    have bounds := of_check bounds
    simp only [Bool.and_eq_true, decide_eq_true_eq] at bounds
    have given : entry.allowedMask.get? = some (entry.allowedMask.get?.getD (-1)) := by
      cases isMask : entry.allowedMask.get? with
      | none =>
        rw [isMask] at bounds
        exact absurd bounds.1 (by decide)
      | some allowedMask => rfl
    exact ⟨.integrity payloadHashB _ (entry.allowedMask.get?.getD (-1)),
      ⟨attesterHex, hashHex.1⟩, ⟨rfl, rfl, rfl, rfl⟩,
      ⟨isOf, hashLowers, attesterNamed, given, bounds.1, bounds.2⟩⟩
  next notIntegrity =>
    rcases of_bind_ok ran with ⟨_, bounds, ran⟩
    cases ran
    have isDiff : kind = .diff := isKind.resolve_left notIntegrity
    rw [isDiff] at isOf
    have bounds := of_check bounds
    simp only [Bool.and_eq_true, decide_eq_true_eq] at bounds
    have given : entry.k.get? = some (entry.k.get?.getD 0) := by
      cases isK : entry.k.get? with
      | none =>
        rw [isK] at bounds
        exact absurd bounds.1 (by decide)
      | some k => rfl
    exact ⟨.diff payloadHashB _ (entry.k.get?.getD 0), ⟨attesterHex, hashHex.1⟩,
      ⟨rfl, rfl, rfl, rfl⟩, ⟨isOf, hashLowers, attesterNamed, given, bounds.1, bounds.2⟩⟩

/-- The field that a claim about one field names. -/
theorem parseFieldBase_carries (lawful : services.Lawful) {name : String}
    {base : BatchClaimCommand} (ran : parseFieldBase services name data entry = .ok base) :
    base.predicate = entry.predicate.text ∧ ∃ fieldKey, base.fieldKey = some fieldKey ∧
      isHex64 fieldKey ∧ LowersTo services entry.fieldKey fieldKey := by
  unfold parseFieldBase at ran
  simp only [bind_eq_ok] at ran
  obtain ⟨fieldKey, isField, path, _, salt, _, ran⟩ := ran
  cases ran
  rcases hex64Arg_ok lawful isField with ⟨hex, lowers⟩
  exact ⟨rfl, fieldKey, rfl, hex.1, lowers⟩

theorem claimDigest_ok (lawful : services.Lawful) {name digestName pair digest : String}
    {given text : Arg String}
    (read : claimDigest services name digestName pair given text = .ok digest) :
    isHex64 digest ∧ digest = digestOf services given text ∧
      LowersTo services (namedDigest services given text) digest := by
  rcases of_bind_ok read with ⟨_, _, read⟩
  unfold digestOf namedDigest
  split at read
  next isGiven =>
    rcases hex64Arg_ok lawful read with ⟨hex, lowers⟩
    rw [if_pos isGiven, if_pos isGiven]
    exact ⟨hex.1, lowers.2.symm, lowers⟩
  next notGiven =>
    cases read
    rw [if_neg notGiven, if_neg notGiven]
    have hex := lawful.blake2b256Hex text.text
    exact ⟨hex.1, rfl, lowersTo_value hex⟩

variable {name fieldKey : String}

theorem parseEqualityClaim_carries (lawful : services.Lawful) {base carrier : BatchClaimCommand}
    (isOf : (data.verification services entry).IsOf .equality none)
    (predicate : base.predicate = "bytesEquality") (isField : base.fieldKey = some fieldKey)
    (fieldHex : isHex64 fieldKey) (fieldLowers : LowersTo services entry.fieldKey fieldKey)
    (ran : parseEqualityClaim services name entry base = .ok carrier) :
    ∃ claim, CarriesEntry services data entry claim carrier := by
  rcases of_bind_ok ran with ⟨digest, isDigest, ran⟩
  cases ran
  rcases claimDigest_ok lawful isDigest with ⟨digestHex, _, digestLowers⟩
  exact ⟨.equality fieldKey digest, ⟨fieldHex, digestHex⟩, ⟨predicate, isField, rfl⟩,
    ⟨isOf, fieldLowers, digestLowers⟩⟩

theorem parseNumericClaim_carries {op : Nat} {base carrier : BatchClaimCommand}
    (isOf : (data.verification services entry).IsOf .numeric (some op))
    (predicate : base.predicate = "lessOrEqual" ∨ base.predicate = "greaterOrEqual")
    (isField : base.fieldKey = some fieldKey) (fieldHex : isHex64 fieldKey)
    (fieldLowers : LowersTo services entry.fieldKey fieldKey)
    (ran : parseNumericClaim name entry (some op) base = .ok carrier) :
    ∃ claim, CarriesEntry services data entry claim carrier := by
  unfold parseNumericClaim at ran
  simp only [bind_eq_ok] at ran
  obtain ⟨value, _, threshold, isThreshold, ran⟩ := ran
  cases ran
  rcases readUnsignedArg_ok isThreshold with ⟨given, isNumber, nonneg, bounded⟩
  have bound : threshold ≤ UINT64_MAX := bounded.trans (by decide)
  exact ⟨.field fieldKey threshold op, fieldHex, ⟨predicate, isField, rfl, rfl⟩,
    ⟨isOf, fieldLowers, isSome_of_given given, isNumber, nonneg, bound⟩⟩

/-- The set comes with the claim, or it is built of the allowed values of the claim. -/
theorem parseMembershipClaim_carries (lawful : services.Lawful)
    {base built : BatchClaimCommand} {carrier : BatchClaimCommand × Option (List String)} {i : Nat}
    (isOf : (data.verification services entry).IsOf .membership none)
    (predicate : base.predicate = "setMembership") (isField : base.fieldKey = some fieldKey)
    (fieldHex : isHex64 fieldKey) (fieldLowers : LowersTo services entry.fieldKey fieldKey)
    (ran : parseMembershipClaim services name entry base = .ok carrier)
    (isBuilt : buildSet services data i carrier = .ok built) :
    ∃ claim, CarriesEntry services data entry claim built := by
  rcases of_bind_ok ran with ⟨digest, isDigest, ran⟩
  rcases claimDigest_ok lawful isDigest with ⟨_, sameDigest, _⟩
  split at ran
  next allowed isAllowed =>
    rcases of_bind_ok ran with ⟨_, isChecked, ran⟩
    cases ran
    rcases of_bind_ok isChecked with ⟨_, noPath, _⟩
    have noRoot : entry.setRoot.given = false := by
      have noPath := of_check noPath
      simp only [Bool.not_eq_true', Bool.or_eq_false_iff] at noPath
      exact noPath.1.1
    have setRoot : (data.verification services entry).setRoot =
        .value (data.builtRoot services entry) := by
      unfold BatchArgs.verification
      rw [noRoot]
      rfl
    unfold buildSet at isBuilt
    dsimp only at isBuilt
    rw [Option.getD_some, sameDigest] at isBuilt
    split at isBuilt
    · cases isBuilt
    · cases isBuilt
    next member isMember =>
      cases isBuilt
      have lower := lawful.membershipPathFor _ _ _ _ isMember
      have isRoot : data.builtRoot services entry = member.1 := by
        unfold BatchArgs.builtRoot
        rw [isAllowed, Arg.get?, Option.getD_some]
        dsimp only
        rw [isMember]
      refine ⟨.membership fieldKey member.1, ⟨fieldHex, lower.1⟩, ⟨predicate, isField, rfl⟩,
        ⟨isOf, fieldLowers, ?_⟩⟩
      rw [setRoot, isRoot]
      exact lowersTo_value lower
  · rcases of_bind_ok ran with ⟨withPath, isPath, ran⟩
    cases ran
    cases isBuilt
    unfold parseSetPath at isPath
    simp only [bind_eq_ok] at isPath
    obtain ⟨_, _, root, isRoot, set, _, isPath⟩ := isPath
    cases isPath
    rcases hex64Arg_ok lawful isRoot with ⟨rootHex, rootLowers⟩
    refine ⟨.membership fieldKey root, ⟨fieldHex, rootHex.1⟩, ⟨predicate, isField, rfl⟩,
      ⟨isOf, fieldLowers, ?_⟩⟩
    unfold BatchArgs.verification
    rw [if_pos rootLowers.1]
    exact rootLowers

/-- The predicates by their kinds. -/
theorem literal_of_kind {literal : String} {parsed : ParsedPredicate}
    (isParsed : parsePredicate literal = some parsed) :
    (parsed.kind = .equality → literal = "bytesEquality") ∧
      (parsed.kind = .membership → literal = "setMembership") := by
  unfold parsePredicate at isParsed
  repeat' split at isParsed
  all_goals cases isParsed
  all_goals simp_all

theorem parseClaim_carries (lawful : services.Lawful) (subjectHex : (data.subject services).Hex)
    {i j : Nat} {parsedClaim : BatchClaimCommand × Option (List String)}
    {built : BatchClaimCommand} (ran : parseClaim services data i entry = .ok parsedClaim)
    (isBuilt : buildSet services data j parsedClaim = .ok built) :
    ∃ claim, CarriesEntry services data entry claim built := by
  unfold parseClaim at ran
  split at ran
  · cases ran
  next parsed isParsed =>
    rcases Option.bind_eq_some_iff.mp isParsed with ⟨literal, isLiteral, parses⟩
    have isOf {kind : PredicateKind} {opCode : Option Nat} (isKind : parsed.kind = kind)
        (isOp : parsed.opCode = opCode) :
        (data.verification services entry).IsOf kind opCode := by
      subst isKind isOp
      exact isParsed
    have notNumeric {kind : PredicateKind} (isKind : parsed.kind = kind)
        (other : kind ≠ .numeric) : (data.verification services entry).IsOf kind none :=
      isOf isKind (opCode_of_not_numeric parses (by rw [isKind]; exact other))
    have text : entry.predicate.text = literal := text_of_get? isLiteral
    split at ran
    next kind =>
      rcases of_map_ok ran with ⟨document, isDocument, rfl⟩
      cases isBuilt
      rw [kind] at isDocument
      exact parseDocumentClaim_carries lawful subjectHex (.inl rfl)
        (notNumeric kind (by decide)) isDocument
    next kind =>
      rcases of_map_ok ran with ⟨document, isDocument, rfl⟩
      cases isBuilt
      rw [kind] at isDocument
      exact parseDocumentClaim_carries lawful subjectHex (.inr rfl)
        (notNumeric kind (by decide)) isDocument
    next kind =>
      rcases of_bind_ok ran with ⟨base, isBase, ran⟩
      rcases of_map_ok ran with ⟨equality, isEquality, rfl⟩
      cases isBuilt
      rcases parseFieldBase_carries lawful isBase with
        ⟨predicate, fieldKey, isField, fieldHex, fieldLowers⟩
      rw [text, (literal_of_kind parses).1 kind] at predicate
      exact parseEqualityClaim_carries lawful (notNumeric kind (by decide)) predicate isField
        fieldHex fieldLowers isEquality
    next kind =>
      rcases of_bind_ok ran with ⟨base, isBase, ran⟩
      rcases parseFieldBase_carries lawful isBase with
        ⟨predicate, fieldKey, isField, fieldHex, fieldLowers⟩
      rw [text, (literal_of_kind parses).2 kind] at predicate
      exact parseMembershipClaim_carries lawful (notNumeric kind (by decide)) predicate isField
        fieldHex fieldLowers ran isBuilt
    next kind =>
      rcases of_bind_ok ran with ⟨base, isBase, ran⟩
      rcases of_map_ok ran with ⟨numeric, isNumeric, rfl⟩
      cases isBuilt
      rcases parseFieldBase_carries lawful isBase with
        ⟨predicate, fieldKey, isField, fieldHex, fieldLowers⟩
      rcases numeric_literal parses kind with ⟨isLiteral, op, isOp⟩
      rw [← text, ← predicate] at isLiteral
      rw [isOp] at isNumeric
      exact parseNumericClaim_carries (isOf kind isOp) isLiteral isField fieldHex fieldLowers
        isNumeric

end Entries

/-! ## Batches -/

/-- A command that carries a claim of hex texts. -/
def CarriesHex (attesterId : String) (carrier : BatchClaimCommand) (claim : PublicClaim) : Prop :=
  claim.Hex ∧ claim.CarriedBy attesterId carrier

variable {claims : List PublicClaim} {carriers : List BatchClaimCommand}

/-- Only claims that are listed already are dropped. -/
theorem dropDuplicates_carries {attesterId : String}
    (carried : List.Forall₂ (CarriesHex attesterId) carriers claims)
    (seen : List (List (Option String))) :
    ∃ kept, List.Forall₂ (CarriesHex attesterId) (dropDuplicates seen carriers) kept ∧
      kept.Sublist claims ∧ ∀ claim ∈ claims, claim ∈ kept ∨
          ∃ carrier, CarriesHex attesterId carrier claim ∧ claimTuple carrier ∈ seen := by
  induction carried generalizing seen with
  | nil => exact ⟨[], .nil, .slnil, by simp⟩
  | @cons carrier claim carriers claims carries rest ih =>
    unfold dropDuplicates
    split
    next repeated =>
      rcases ih seen with ⟨kept, carriedKept, sublist, each⟩
      refine ⟨kept, carriedKept, sublist.cons claim, ?_⟩
      intro other isMem
      cases isMem with
      | head => exact .inr ⟨carrier, carries, repeated⟩
      | tail _ isMem => exact each other isMem
    · rcases ih (claimTuple carrier :: seen) with ⟨kept, carriedKept, sublist, each⟩
      refine ⟨claim :: kept, .cons carries carriedKept, sublist.cons_cons claim, ?_⟩
      intro other isMem
      cases isMem with
      | head => exact .inl (List.mem_cons_self ..)
      | tail _ isMem =>
        rcases each other isMem with isKept | ⟨otherCarrier, otherCarried, isSeen⟩
        · exact .inl (List.mem_cons_of_mem _ isKept)
        · rcases List.mem_cons.mp isSeen with same | isSeen
          · -- The claim is the one that was just kept.
            have equal := otherCarried.2.eq_of_tuple carries.2 otherCarried.1 carries.1 same
            exact .inl (equal ▸ List.mem_cons_self ..)
          · exact .inr ⟨otherCarrier, otherCarried, isSeen⟩

/-- The ids of the rows do not matter to the claims. -/
theorem rowClaims_carries {attesterId : String}
    (carried : List.Forall₂ (CarriesHex attesterId) carriers claims) (rowId : Nat → String) :
    List.Forall₂ (CarriesHex attesterId) (rowClaims rowId carriers) claims := by
  unfold rowClaims
  generalize 0 = start
  induction carried generalizing start with
  | nil => exact .nil
  | @cons carrier claim carriers claims carries rest ih =>
    rw [List.zipIdx_cons, List.map_cons]
    refine .cons ⟨carries.1, ?_⟩ (ih (start + 1))
    have carriedBy := carries.2
    cases claim <;> exact carriedBy

section Calls

variable {Mask : Type} {persistentHash : List Nat → List Nat → String} {subject : ClaimSubject}

/-- The call of this claim. -/
def IsCallOf (persistentHash : List Nat → List Nat → String) (subject : ClaimSubject)
    (call : CircuitCall) (claim : PublicClaim) : Prop :=
  claim.Hex ∧ call.circuit = claim.circuit ∧
    ∃ validUntil, call.args = claim.args persistentHash subject validUntil

theorem claimCalls_carries {command : BatchWorkflow} (configured : Option Nat)
    (sameAttester : command.attesterId = subject.attesterId)
    (carried : List.Forall₂ (CarriesHex subject.attesterId) carriers claims)
    (readings : Nat → Nat) :
    ∃ calls, command.claimCalls persistentHash configured (subject.recordKey persistentHash)
        carriers readings = some calls ∧
      List.Forall₂ (IsCallOf persistentHash subject) calls claims := by
  induction carried generalizing readings with
  | nil => exact ⟨[], rfl, .nil⟩
  | @cons carrier claim carriers claims carries rest ih =>
    rcases ih fun i => readings (i + 1) with ⟨calls, areCalls, related⟩
    rcases carries.2.call carries.1 (claimValidUntil configured (readings 0)
      (carrier.validUntil.or command.validUntil)) with ⟨call, isCall, circuit, args⟩
    refine ⟨call :: calls, ?_, .cons ⟨carries.1, circuit, _, args⟩ related⟩
    unfold BatchWorkflow.claimCalls
    rw [sameAttester, isCall, areCalls]
    rfl

/-- How the calls of a batch are converted. -/
def coerceCall (expandAllowedMask : Int → Nat → Mask) (width : Nat) (call : CircuitCall) :
    Option (String × List (CircuitArg Mask)) := do
  some (call.circuit, ← coerceArgs (typesOfCircuit expandAllowedMask width call.circuit) call.args)

theorem coerceCalls_pass (hashes : HashesToHex persistentHash)
    (expandAllowedMask : Int → Nat → Mask) {calls : List CircuitCall}
    (related : List.Forall₂ (IsCallOf persistentHash subject) calls claims) :
    ∃ coerced, calls.mapM (coerceCall expandAllowedMask subject.width) = some coerced ∧
      (claims.map (PublicClaim.tuple persistentHash expandAllowedMask subject)).mapM
        ClaimTuple.bytes = some (coerced.filterMap fun call => claimOfCall call.1 call.2) := by
  induction related with
  | nil => exact ⟨[], rfl, rfl⟩
  | @cons call claim calls claims isCall rest ih =>
    rcases ih with ⟨coerced, areCoerced, passes⟩
    rcases isCall with ⟨hex, circuit, validUntil, args⟩
    rcases claim.claimOfCall_args expandAllowedMask hashes subject hex validUntil with
      ⟨converted, passed, isConverted, isClaim, isBytes⟩
    refine ⟨(call.circuit, converted) :: coerced, ?_, ?_⟩
    · simp [coerceCall, circuit, args, isConverted, areCoerced]
    · simp [isBytes, passes, circuit, isClaim]

/-- The anchor of a content root, where there is one, is converted and claims nothing. -/
theorem coerceAnchors_pass (expandAllowedMask : Int → Nat → Mask) (width : Nat)
    {command : BatchWorkflow} (payloadHex : isHex64 command.payloadHash)
    (rootHex : ∀ contentRoot ∈ truthy command.contentRoot, isHex64 contentRoot ∧
      ∃ schemaId, command.schemaId = some schemaId ∧ isHex64 schemaId) :
    ∃ coerced, command.anchorCalls.mapM (coerceCall expandAllowedMask width) = some coerced ∧
      coerced.filterMap (fun call => claimOfCall call.1 call.2) = [] := by
  unfold BatchWorkflow.anchorCalls
  cases isRoot : truthy command.contentRoot with
  | none => exact ⟨[], rfl, rfl⟩
  | some contentRoot =>
    rcases rootHex contentRoot isRoot with ⟨hex, schemaId, isSchema, schemaHex⟩
    rcases hexToBytes_isSome payloadHex with ⟨payload, isPayload⟩
    rcases hexToBytes_isSome hex with ⟨root, isRootBytes⟩
    rcases hexToBytes_isSome schemaHex with ⟨schema, isSchemaBytes⟩
    refine ⟨[("anchorContentRoot", [.bytes payload, .bytes root, .bytes schema])], ?_, rfl⟩
    simp [coerceCall, typesOfCircuit, anchorRootTypes, anchorArgs, coerceArgs, bytesArg,
      isSchema, isPayload, isRootBytes, isSchemaBytes]

end Calls

section Requests

variable {Mask : Type} {services : SubmissionServices}
  {persistentHash : List Nat → List Nat → String} {now : Int} {job : ActionJob}

/-- The content root of a batch and its schema are hex texts. -/
theorem rootHex_of_batch (lawful : services.Lawful) {data : BatchArgs}
    (rootTyped : data.contentRoot.Hex)
    (schemaTyped : data.schemaId.Hex)
    (needed : (!data.contentRoot.given || data.schemaId.given) = true) :
    ∀ contentRoot ∈ truthy (lowerArg services data.contentRoot), isHex64 contentRoot ∧
      ∃ schemaId, lowerArg services data.schemaId = some schemaId ∧ isHex64 schemaId := by
  intro contentRoot isRoot
  rcases Option.filter_eq_some_iff.mp isRoot with ⟨isLower, _⟩
  cases root : data.contentRoot with
  | undefined | null =>
    rw [root] at isLower
    cases isLower
  | value text =>
    rw [root] at rootTyped isLower needed
    cases isLower
    have given : (Arg.value text).given = true := by
      simp [Arg.given, Arg.get?, ne_empty_of_hex rootTyped]
    rw [given, Bool.not_true, Bool.false_or] at needed
    refine ⟨(lawful.toLowerCase text rootTyped).1, ?_⟩
    cases schema : data.schemaId with
    | undefined | null =>
      rw [schema] at needed
      cases needed
    | value schemaId =>
      rw [schema] at schemaTyped
      exact ⟨_, rfl, (lawful.toLowerCase schemaId schemaTyped).1⟩

/-- The claims of the entries of a batch, and those that are left without duplicates. -/
theorem uniqueClaims_carry (lawful : services.Lawful) {data : BatchArgs}
    (subjectHex : (data.subject services).Hex)
    (isUnique : uniqueClaims services data = .ok carriers) :
    ∃ claims kept : List PublicClaim, List.Forall₂ (fun entry claim => PublicClaim.Hex claim ∧
          claim.NamedIn services (data.subject services) (data.verification services entry))
        (data.claims.get?.getD []) claims ∧
      List.Forall₂ (CarriesHex (data.subject services).attesterId) carriers kept ∧
        kept.Sublist claims ∧ ∀ claim ∈ claims, claim ∈ kept := by
  unfold uniqueClaims at isUnique
  simp only [bind_eq_ok] at isUnique
  obtain ⟨parsed, areParsed, built, areBuilt, isUnique⟩ := isUnique
  cases isUnique
  have entries := forall₂_through (forall₂_of_mapIndexed_ok areParsed)
    (forall₂_of_mapIndexed_ok areBuilt)
  have carried : List.Forall₂ (fun entry carrier => ∃ claim, (PublicClaim.Hex claim ∧
        claim.NamedIn services (data.subject services) (data.verification services entry)) ∧
          CarriesHex (data.subject services).attesterId carrier claim)
      (data.claims.get?.getD []) built := by
    refine entries.imp fun entry carrier isRead => ?_
    rcases isRead with ⟨parsedClaim, ⟨i, isParsed⟩, ⟨j, isBuilt⟩⟩
    rcases parseClaim_carries lawful subjectHex isParsed isBuilt with ⟨claim, hex, carries, named⟩
    exact ⟨claim, ⟨hex, named⟩, hex, carries⟩
  rcases exists_between carried with ⟨claims, named, carries⟩
  rcases dropDuplicates_carries carries.flip [] with ⟨kept, keptCarries, sublist, each⟩
  refine ⟨claims, kept, named, keptCarries, sublist, ?_⟩
  intro claim isMem
  rcases each claim isMem with isKept | ⟨_, _, isSeen⟩
  · exact isKept
  · cases isSeen

/-- The transaction of a batch passes its claims, one call each. -/
theorem batch_passes (hashes : HashesToHex persistentHash) (expandAllowedMask : Int → Nat → Mask)
    {command : BatchWorkflow} {subject : ClaimSubject}
    (attesterId : command.attesterId = subject.attesterId)
    (payloadHash : command.payloadHash = subject.payloadHash) (subjectHex : subject.Hex)
    (width : services.slotWidthOf (vaultRef (.value command.compiledArtifactRef)) = subject.width)
    (rootHex : ∀ contentRoot ∈ truthy command.contentRoot, isHex64 contentRoot ∧
      ∃ schemaId, command.schemaId = some schemaId ∧ isHex64 schemaId)
    (carried : List.Forall₂ (CarriesHex subject.attesterId) command.claims claims)
    (configured : Option Nat) (readings : Nat → Nat) :
    Passes services persistentHash expandAllowedMask configured readings
      (.fieldPredicateBatchWorkflow command)
      (claims.map (PublicClaim.tuple persistentHash expandAllowedMask subject)) := by
  have key : computeRecordKey persistentHash command.attesterId command.payloadHash =
      some (subject.recordKey persistentHash) := by
    rw [attesterId, payloadHash]
    exact computeRecordKey_of_hex persistentHash subjectHex.1 subjectHex.2
  have payloadHex : isHex64 command.payloadHash := by
    rw [payloadHash]
    exact subjectHex.2
  rcases claimCalls_carries configured attesterId carried readings with ⟨calls, areCalls, related⟩
  rcases coerceCalls_pass hashes expandAllowedMask related with ⟨coerced, areCoerced, passes⟩
  rcases coerceAnchors_pass expandAllowedMask subject.width payloadHex rootHex with
    ⟨anchors, areAnchors, noClaims⟩
  have isProof : ContractCommandV1.proofCommand persistentHash configured readings
      (.fieldPredicateBatchWorkflow command) = some (.callBatch command.contractAddress
        (command.anchorCalls ++ calls) command.compiledArtifactRef command.sponsorSessionId true
        (if (command.anchorCalls ++ calls).head?.any fun call =>
          call.circuit = "anchorContentRoot" then 1 else 0)) := by
    show BatchWorkflow.proofCommand _ _ _ _ = _
    unfold BatchWorkflow.proofCommand
    rw [key]
    show (command.claimCalls _ _ _ _ _).bind _ = _
    rw [areCalls]
    rfl
  refine ⟨_, _, isProof, ?_, passes⟩
  show ((command.anchorCalls ++ calls).mapM (coerceCall expandAllowedMask
    (services.slotWidthOf (vaultRef (.value command.compiledArtifactRef))))).bind _ = _
  rw [width, List.mapM_append, areAnchors, areCoerced]
  show some ((anchors ++ coerced).filterMap _) = _
  rw [List.filterMap_append, noClaims]
  rfl

theorem batch_agrees (lawful : services.Lawful) (hashes : HashesToHex persistentHash)
    (expandAllowedMask : Int → Nat → Mask) {data : BatchArgs}
    (typed : (ClaimRequest.batch data).Typed)
    (issued : issueFieldPredicateAttestationBatch services now data = .ok job)
    (rowId : Nat → String) (configured : Option Nat) (readings : Nat → Nat) :
    ∃ asked tuples, Agrees services persistentHash expandAllowedMask configured readings
      (job.command rowId) (data.rows services rowId)
      ((data.claims.get?.getD []).map (data.verification services)) asked tuples := by
  rcases of_accept_ok issued with ⟨checks, rfl⟩
  simp only [List.forall_mem_cons, List.not_mem_nil] at checks
  rcases checks with ⟨_, payload, schema, _, contract, _, _, isUnique, _, _⟩
  rcases of_rejectionOf isUnique with ⟨carriers, isUnique⟩
  rcases typed with ⟨payloadTyped, attesterTyped, rootTyped, schemaTyped⟩
  have payload := of_need payload
  have subjectHex : (data.subject services).Hex :=
    subjectOf_hex lawful attesterTyped payloadTyped payload
  have isClaims : claimsOf (uniqueClaims services data) = carriers := by
    rw [isUnique]
    rfl
  rcases uniqueClaims_carry lawful subjectHex isUnique with
    ⟨claims, kept, named, carries, sublist, each⟩
  have rowCarries := rowClaims_carries carries rowId
  refine ⟨claims.map (PublicClaim.tuple persistentHash expandAllowedMask (data.subject services)),
    kept.map (PublicClaim.tuple persistentHash expandAllowedMask (data.subject services)),
    ?_, ?_, ?_, sublist.map _, ?_⟩
  · exact batch_passes hashes expandAllowedMask rfl rfl subjectHex
      (congrArg services.slotWidthOf (vaultRef_vaultRef data.compiledArtifactRef))
      (rootHex_of_batch lawful rootTyped schemaTyped (of_need schema)) (isClaims ▸ rowCarries)
      configured readings
  · rw [BatchArgs.rows, isClaims]
    refine List.forall₂_map_left_iff.mpr (List.forall₂_map_right_iff.mpr ?_)
    exact rowCarries.imp fun carrier claim carried =>
      carried.2.recordedBy.looksUp subjectHex carried.1
  · refine List.forall₂_map_left_iff.mpr (List.forall₂_map_right_iff.mpr ?_)
    refine named.imp fun entry claim isNamed => ?_
    have namedBy : claim.NamedBy services (data.subject services)
        (data.verification services entry) :=
      namedBy_subjectOf lawful (of_need contract) payload rfl rfl rfl isNamed.2
    exact namedBy.looksUp subjectHex isNamed.1
  · intro tuple isMem
    rcases List.mem_map.mp isMem with ⟨claim, isClaim, rfl⟩
    exact List.mem_map_of_mem (each claim isClaim)

/-- Every request for claims that is accepted, single or in a batch, agrees with both
verifications. -/
theorem issued_claims_agree (services : SubmissionServices) (lawful : services.Lawful)
    (persistentHash : List Nat → List Nat → String) (hashes : HashesToHex persistentHash)
    {Mask : Type} (expandAllowedMask : Int → Nat → Mask) (request : ClaimRequest)
    (typed : request.Typed) (now : Int) (job : ActionJob)
    (issued : request.issue services now = .ok job) (rowId : Nat → String)
    (configured : Option Nat) (readings : Nat → Nat) :
    ∃ asked tuples, Agrees services persistentHash expandAllowedMask configured readings
      (job.command rowId) (request.rows services rowId) (request.verifications services) asked
      tuples := by
  cases request with
  | fieldPredicate data =>
    exact fieldPredicate_agrees lawful hashes expandAllowedMask rowId configured readings typed
      issued
  | fieldEquality data =>
    exact fieldEquality_agrees lawful hashes expandAllowedMask rowId configured readings typed.1
      typed.2 issued
  | fieldMembership data =>
    exact fieldMembership_agrees lawful hashes expandAllowedMask rowId configured readings typed.1
      typed.2 issued
  | documentIntegrity data =>
    exact documentIntegrity_agrees lawful hashes expandAllowedMask rowId configured readings typed
      issued
  | documentDiff data =>
    exact documentDiff_agrees lawful hashes expandAllowedMask rowId configured readings typed issued
  | batch data =>
    exact batch_agrees lawful hashes expandAllowedMask typed issued rowId configured readings

/-- Services for a request that is in lower case already. -/
def lowerCaseServices : SubmissionServices where
  toLowerCase := id
  blake2b256Hex := fun _ => zeroId
  sha256Hex := fun _ => zeroId
  attesterIdForSession := fun _ => zeroId
  slotWidthOf := fun _ => 16
  membershipPathFor := fun _ _ _ => .ok none

theorem zeroId_hex : isHex64 zeroId := by decide +kernel

theorem lowerCaseServices_lawful : lowerCaseServices.Lawful where
  toLowerCase := fun _ hex => ⟨hex, rfl⟩
  attesterIdForSession := fun _ => ⟨zeroId_hex, rfl⟩
  blake2b256Hex := fun _ => ⟨zeroId_hex, rfl⟩
  membershipPathFor := nofun

/-- A claim that a field is at most 18. -/
def atMostEntry : BatchClaimArg where
  predicate := .value "lessOrEqual"
  fieldKey := .value zeroId
  salt := .value zeroId
  siblings := .value (List.replicate 4 zeroId)
  dirs := .value [false, true, false, true]
  unit := .undefined
  value := .value "17"
  threshold := .value "18"
  expectedValue := .undefined
  expectedDigest := .undefined
  valueDigest := .undefined
  allowedValues := .undefined
  setRoot := .undefined
  setSiblings := .undefined
  setDirs := .undefined
  payloadHashB := .undefined
  attesterIdB := .undefined
  allowedMask := .undefined
  k := .undefined
  schema := .undefined
  openingA := .undefined
  openingB := .undefined

/-- The claim is asked for twice. -/
def repeatedBatch : BatchArgs where
  sessionId := .value "s0"
  contractAddress := .value "0c"
  compiledArtifactRef := .undefined
  idempotencyKey := .value "key"
  sponsorSessionId := .undefined
  payloadHash := .value zeroId
  attesterId := .undefined
  contentRoot := .undefined
  schemaId := .undefined
  claims := .value [atMostEntry, atMostEntry]
  validUntil := .undefined

/-- A batch that asks for one claim twice. -/
theorem issued_claims_agree_batch :
    ∃ job, (ClaimRequest.batch repeatedBatch).issue lowerCaseServices 0 = .ok job ∧
      ∃ asked tuples, Agrees lowerCaseServices (fun _ _ => zeroId)
        (fun allowedMask width => (List.range width).map allowedMask.toNat.testBit) none
        (fun _ => 0) (job.command toString)
        ((ClaimRequest.batch repeatedBatch).rows lowerCaseServices toString)
        ((ClaimRequest.batch repeatedBatch).verifications lowerCaseServices) asked tuples := by
  have payload : (Arg.value zeroId).Hex := by
    simp only [Arg.Hex, Arg.get?, Option.all_some, zeroId_hex]
  have typed : (ClaimRequest.batch repeatedBatch).Typed := ⟨payload, rfl, rfl, rfl⟩
  have accepted : ((ClaimRequest.batch repeatedBatch).issue lowerCaseServices 0).isOk := by
    decide +kernel
  cases isIssued : (ClaimRequest.batch repeatedBatch).issue lowerCaseServices 0 with
  | error message =>
    rw [isIssued] at accepted
    cases accepted
  | ok job =>
    refine ⟨job, rfl, ?_⟩
    exact issued_claims_agree lowerCaseServices lowerCaseServices_lawful (fun _ _ => zeroId)
      (fun _ _ => zeroId_hex) _ (.batch repeatedBatch) typed 0 job isIssued toString none
      fun _ => 0

end Requests

end Nightgate.Submission
