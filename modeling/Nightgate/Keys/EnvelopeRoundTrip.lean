import Nightgate.Keys.EnvelopeText

/-!
# Round trips and bindings of envelopes

An envelope splits back into its fields, since none of them has a colon, so what was encrypted
decrypts. What an accepted text is authenticated with names its version, its key id and its
binding, and the cipher opens no ciphertext under anything but what it was sealed with. A text that
carries a ciphertext of an envelope is then accepted under the envelope's own label only.
-/

namespace Nightgate.Keys.EnvelopeText

open Library

theorem colon_not_mem_of_isKeyId {id : List Char} (isId : isKeyId id = true) : ':' ∉ id := by
  intro listed
  rw [isKeyId, Bool.and_eq_true, List.all_eq_true] at isId
  have allowed := isId.2 ':' listed
  revert allowed
  decide

theorem nul_not_mem_of_isKeyId {id : List Char} (isId : isKeyId id = true) : '\x00' ∉ id := by
  intro listed
  rw [isKeyId, Bool.and_eq_true, List.all_eq_true] at isId
  have allowed := isId.2 '\x00' listed
  revert allowed
  decide

theorem NamedRing.isKeyId_activeId (ring : NamedRing) : isKeyId ring.activeId.toList = true :=
  ring.named _ ring.active

variable {keyId : KeyId} {version : String}

/-- The text of an envelope splits into its fields. -/
theorem splitOn_envelopeFields (draws : Draws)
    (plain : ':' ∉ version.toList) (isId : isKeyId keyId.toList = true) :
    (String.ofList ([':'].intercalate (envelopeFields version keyId draws))).toList.splitOn ':' =
      envelopeFields version keyId draws := by
  rw [String.toList_ofList]
  apply List.splitOn_intercalate
  · intro field listed
    simp only [envelopeFields, List.mem_cons, List.not_mem_nil, or_false] at listed
    rcases listed with rfl | rfl | rfl | rfl | rfl | rfl
    · exact plain
    · exact colon_not_mem_of_isKeyId isId
    · exact colon_not_mem_toBase64 _
    · exact colon_not_mem_toBase64 _
    · exact colon_not_mem_toBase64 _
    · exact colon_not_mem_toBase64 _
  · simp only [envelopeFields, ne_eq, List.cons_ne_nil, not_false_eq_true]

/-- The number in a version's name. -/
def versionNumber (version : String) : Nat :=
  if version = BOUND_ENVELOPE_VERSION then 3 else 2

variable {associated : Bytes} {binding : Option UnitBinding}

theorem versionFor_cases (isVersion : versionFor keyId binding = .ok (version, associated)) :
    (binding = none ∧ version = ENVELOPE_VERSION ∧ associated = aad keyId) ∨
      ∃ bound, binding = some bound ∧ assertBinding bound = .ok () ∧
        version = BOUND_ENVELOPE_VERSION ∧ associated = boundAad keyId bound := by
  cases binding with
  | none =>
    cases isVersion
    exact .inl ⟨rfl, rfl, rfl⟩
  | some bound =>
    rw [versionFor] at isVersion
    cases checked : assertBinding bound with
    | error e =>
      rw [checked] at isVersion
      cases isVersion
    | ok _ =>
      rw [checked] at isVersion
      cases isVersion
      exact .inr ⟨bound, rfl, checked, rfl, rfl⟩

theorem version_of_versionFor (isVersion : versionFor keyId binding = .ok (version, associated)) :
    version = ENVELOPE_VERSION ∨ version = BOUND_ENVELOPE_VERSION := by
  obtain ⟨_, isUnbound, _⟩ | ⟨_, _, _, isBound, _⟩ := versionFor_cases isVersion
  · exact .inl isUnbound
  · exact .inr isBound

theorem versionNumber_ne_one (version : String) : versionNumber version ≠ 1 := by
  rw [versionNumber]
  split <;> nofun

/-- A new value is read with what it was written with. -/
theorem associatedFor_versionNumber
    (isVersion : versionFor keyId binding = .ok (version, associated)) :
    associatedFor (versionNumber version) keyId binding = .ok associated := by
  obtain ⟨rfl, rfl, rfl⟩ | ⟨bound, rfl, checked, rfl, rfl⟩ := versionFor_cases isVersion
  · rfl
  · simp only [associatedFor, versionNumber, if_true, checked]
    rfl

section Encrypted

variable {ring : NamedRing} {plaintext : CodeUnits} {binding : Option UnitBinding} {draws : Draws}

/-- What the cipher seals for an envelope: the payload and its key. -/
def sealingsFor (ring : NamedRing) (plaintext : CodeUnits) (draws : Draws) (associated : Bytes) :
    List (Sealing Bytes) :=
  [⟨draws.dek, draws.payloadIv, associated, CodeUnits.utf8 plaintext, draws.payloadTag,
      draws.payloadData⟩,
    ⟨kekBytes ring.activeKey, draws.wrapIv, associated, draws.dek, draws.wrapTag, draws.wrapData⟩]

variable {sealings : List (Sealing Bytes)}

theorem encrypt_eq_ok {text : String} :
    encrypt ring plaintext binding draws = .ok (text, sealings) ↔
      ∃ version associated, versionFor ring.activeId binding = .ok (version, associated) ∧
        text = String.ofList ([':'].intercalate (envelopeFields version ring.activeId draws)) ∧
        sealings = sealingsFor ring plaintext draws associated := by
  rw [encrypt]
  cases isVersion : versionFor ring.activeId binding with
  | error e =>
    constructor
    · nofun
    · rintro ⟨version, associated, found, _⟩
      cases found
  | ok found =>
    obtain ⟨version, associated⟩ := found
    constructor
    · intro encrypted
      cases encrypted
      exact ⟨version, associated, rfl, rfl, rfl⟩
    · rintro ⟨_, _, found, rfl, rfl⟩
      cases found
      rfl

/-- The text of an envelope and its fields. -/
theorem fields_of_encrypt {text version : String}
    {associated : Bytes} (isVersion : versionFor ring.activeId binding = .ok (version, associated))
    (encrypted : encrypt ring plaintext binding draws = .ok (text, sealings)) :
    text.toList.splitOn ':' = envelopeFields version ring.activeId draws := by
  obtain ⟨version', associated', isVersion', rfl, _⟩ := encrypt_eq_ok.mp encrypted
  rw [isVersion] at isVersion'
  cases isVersion'
  apply splitOn_envelopeFields draws _ ring.isKeyId_activeId
  obtain rfl | rfl := version_of_versionFor isVersion
  · decide
  · decide

theorem inspectCiphertext_of_fields {text version : String} {keyId : KeyId}
    (isFields : text.toList.splitOn ':' = envelopeFields version keyId draws)
    (known : version = ENVELOPE_VERSION ∨ version = BOUND_ENVELOPE_VERSION)
    (isId : isKeyId keyId.toList = true) :
    inspectCiphertext text = .ok (versionNumber version, keyId) := by
  rw [inspectCiphertext, isFields, envelopeFields]
  simp only [String.toList_inj, known, if_true, isId, Bool.not_true, Bool.false_eq_true, if_false,
    String.ofList_toList, versionNumber]

theorem boxesOf_of_fields {text version : String} {keyId : KeyId}
    (isFields : text.toList.splitOn ':' = envelopeFields version keyId draws) :
    boxesOf text = [(draws.wrapIv, draws.wrapTag, draws.wrapData),
      (draws.payloadIv, draws.payloadTag, draws.payloadData)] := by
  have ivLength := draws.wrapIvLength
  have tagLength := draws.wrapTagLength
  rw [boxesOf, isFields, envelopeFields]
  simp only [ofBase64_toBase64, wrapBox]
  rw [← ivLength, ← tagLength, ← List.length_append, List.drop_left, List.append_assoc,
    List.take_left, List.drop_left, List.take_left]

/-- Every ciphertext of an envelope was sealed for it. -/
theorem sealing_of_box {text version : String}
    {associated : Bytes} (isVersion : versionFor ring.activeId binding = .ok (version, associated))
    (encrypted : encrypt ring plaintext binding draws = .ok (text, sealings))
    {box : Bytes × Bytes × Bytes} (carried : box ∈ boxesOf text) :
    ∃ sealing ∈ sealings, sealing.box = box ∧ sealing.associated = associated := by
  rw [boxesOf_of_fields (fields_of_encrypt isVersion encrypted)] at carried
  obtain ⟨version', associated', isVersion', _, rfl⟩ := encrypt_eq_ok.mp encrypted
  rw [isVersion] at isVersion'
  cases isVersion'
  rw [List.mem_cons, List.mem_singleton] at carried
  cases carried with
  | inl isWrap => exact ⟨_, List.mem_cons_of_mem _ (List.mem_singleton_self _), isWrap.symm, rfl⟩
  | inr isPayload => exact ⟨_, List.mem_cons_self, isPayload.symm, rfl⟩

end Encrypted

/-! ## The round trip -/

section RoundTrip

variable {repaired : Bytes → CodeUnits} {world : SealLog Bytes}

theorem gcmDecrypt_sealing {sealing : Sealing Bytes} (isSealed : sealing ∈ world.sealings)
    (ivLength : sealing.iv.length = IV_LENGTH) (tagLength : sealing.tag.length = AUTH_TAG_LENGTH) :
    gcmDecrypt world sealing.key (sealing.iv, sealing.tag, sealing.data) sealing.associated =
      .ok sealing.plain := by
  have opened := SealLog.openWith_sealing isSealed
  rw [Sealing.box] at opened
  rw [gcmDecrypt, if_neg (not_not.mpr ivLength), if_neg (not_not.mpr tagLength), opened]

theorem openWith_of_gcmDecrypt {key associated plain : Bytes} {box : Bytes × Bytes × Bytes}
    (opened : gcmDecrypt world key box associated = .ok plain) :
    world.openWith key box associated = some plain := by
  rw [gcmDecrypt] at opened
  split at opened
  · cases opened
  · split at opened
    · cases opened
    · split at opened
      next plain found =>
        cases opened
        exact found
      · cases opened

/-- The key of the envelope opens its wrap, and the payload key the payload. -/
theorem decrypt_of_fields {ring : NamedRing} {version : String} {keyId : KeyId} {draws : Draws}
    {text : String} {acceptUnbound : Bool} {kek : Kek}
    {associated plain : Bytes}
    (isFields : text.toList.splitOn ':' = envelopeFields version keyId draws)
    (known : version = ENVELOPE_VERSION ∨ version = BOUND_ENVELOPE_VERSION)
    (isId : isKeyId keyId.toList = true)
    (bound : ∀ b ∈ binding, version = BOUND_ENVELOPE_VERSION)
    (isAssociated : associatedFor (versionNumber version) keyId binding = .ok associated)
    (isKek : ring.kek keyId = some kek)
    (unwrapped : gcmDecrypt world (kekBytes kek) (draws.wrapIv, draws.wrapTag, draws.wrapData)
      associated = .ok draws.dek)
    (opened : gcmDecrypt world draws.dek (draws.payloadIv, draws.payloadTag, draws.payloadData)
      associated = .ok plain) :
    decrypt repaired world ring text binding acceptUnbound =
      .ok (CodeUnits.ofUtf8 repaired plain) := by
  have notRefused : (binding.filter fun _ =>
      decide (versionNumber version < 3) && !acceptUnbound) = none := by
    rw [Option.filter_eq_none_iff]
    intro b isBinding
    rw [bound b isBinding]
    simp [versionNumber]
  have boxes := boxesOf_of_fields isFields
  rw [boxesOf, isFields, envelopeFields] at boxes
  simp only [ofBase64_toBase64, List.cons.injEq] at boxes
  have wrappedLength : (draws.wrapIv ++ draws.wrapTag ++ draws.wrapData).length =
      WRAPPED_DEK_LENGTH := by
    rw [List.length_append, List.length_append, draws.wrapIvLength, draws.wrapTagLength,
      draws.wrapDataLength]
    rfl
  rw [decrypt, inspectCiphertext_of_fields isFields known isId, isFields, envelopeFields]
  simp only [bind, Except.bind, notRefused, ofBase64_toBase64, wrappedLength, ne_eq,
    not_true_eq_false, if_false, isAssociated, isKek, boxes.1, unwrapped, opened]
  rfl

/-- What was encrypted decrypts wherever the key is known. -/
theorem decrypt_of_encrypt {ring ring' : NamedRing} {plaintext : CodeUnits} {draws : Draws}
    {text : String} {sealings : List (Sealing Bytes)} {acceptUnbound : Bool}
    (encrypted : encrypt ring plaintext binding draws = .ok (text, sealings))
    (known : ring'.kek ring.activeId = ring.kek ring.activeId)
    (isSealed : ∀ sealing ∈ sealings, sealing ∈ world.sealings) :
    decrypt repaired world ring' text binding acceptUnbound =
      .ok (CodeUnits.ofUtf8 repaired (CodeUnits.utf8 plaintext)) := by
  obtain ⟨version, associated, isVersion, _, rfl⟩ := encrypt_eq_ok.mp encrypted
  have isFields := fields_of_encrypt isVersion encrypted
  have isKek : ring'.kek ring.activeId = some ring.activeKey :=
    known.trans ring.kek_activeId
  have payload := gcmDecrypt_sealing (isSealed _ List.mem_cons_self) draws.payloadIvLength
    draws.payloadTagLength
  have wrap := gcmDecrypt_sealing
    (isSealed _ (List.mem_cons_of_mem _ (List.mem_singleton_self _))) draws.wrapIvLength
    draws.wrapTagLength
  apply decrypt_of_fields isFields (version_of_versionFor isVersion) ring.isKeyId_activeId _
    (associatedFor_versionNumber isVersion) isKek wrap payload
  intro b isBinding
  obtain ⟨rfl, _⟩ | ⟨_, _, _, isBound, _⟩ := versionFor_cases isVersion
  · cases isBinding
  · exact isBound

end RoundTrip

/-- A binding that may be written: neither part is empty or has a NUL. -/
structure Bindable (binding : EnvelopeBinding) : Prop where
  purpose : binding.purpose ≠ ""
  subject : binding.subject ≠ ""
  purposeNul : '\x00' ∉ binding.purpose.toList
  subjectNul : '\x00' ∉ binding.subject.toList

theorem assertBinding_unitsOf {binding : EnvelopeBinding} :
    assertBinding (unitsOf binding) = .ok () ↔ Bindable binding := by
  simp only [assertBinding, unitsOf, CodeUnits.ofString_eq_nil, CodeUnits.zero_mem_ofString]
  constructor
  · intro checked
    split at checked
    · cases checked
    next nonempty =>
      split at checked
      · cases checked
      next noNul =>
        rw [not_or] at nonempty noNul
        exact ⟨nonempty.1, nonempty.2, noNul.1, noNul.2⟩
  · intro bindable
    rw [if_neg (not_or.mpr ⟨bindable.purpose, bindable.subject⟩),
      if_neg (not_or.mpr ⟨bindable.purposeNul, bindable.subjectNul⟩)]

/-- The text that is authenticated with a bound value. -/
def boundText (keyId : KeyId) (binding : EnvelopeBinding) : String :=
  String.ofList (['\x00'].intercalate [BOUND_ENVELOPE_VERSION.toList, keyId.toList,
    binding.purpose.toList, binding.subject.toList])

theorem boundAad_unitsOf (keyId : KeyId) (binding : EnvelopeBinding) :
    boundAad keyId (unitsOf binding) =
      CodeUnits.utf8 (CodeUnits.ofString (boundText keyId binding)) := by
  have nul : CodeUnits.ofChar '\x00' = [0] := by decide
  rw [boundAad, boundText]
  simp only [CodeUnits.ofString, String.toList_ofList, List.intercalate_cons_cons,
    List.intercalate_singleton, List.flatMap_append, List.flatMap_cons, List.flatMap_nil,
    List.append_nil, nul, unitsOf]

/-- The authenticated text names the key id, the purpose and the subject. -/
theorem boundAad_injective {keyId keyId' : KeyId} {binding binding' : EnvelopeBinding}
    (isId : isKeyId keyId.toList = true) (isId' : isKeyId keyId'.toList = true)
    (bindable : Bindable binding) (bindable' : Bindable binding')
    (same : boundAad keyId (unitsOf binding) = boundAad keyId' (unitsOf binding')) :
    keyId = keyId' ∧ binding = binding' := by
  have fields : ∀ {keyId : KeyId} {binding : EnvelopeBinding}, isKeyId keyId.toList = true →
      Bindable binding → (boundText keyId binding).toList.splitOn '\x00' =
        [BOUND_ENVELOPE_VERSION.toList, keyId.toList, binding.purpose.toList,
          binding.subject.toList] := by
    intro keyId binding isId bindable
    rw [boundText, String.toList_ofList]
    apply List.splitOn_intercalate
    · intro field listed
      simp only [List.mem_cons, List.not_mem_nil, or_false] at listed
      rcases listed with rfl | rfl | rfl | rfl
      · decide
      · exact nul_not_mem_of_isKeyId isId
      · exact bindable.purposeNul
      · exact bindable.subjectNul
    · exact List.cons_ne_nil _ _
  rw [boundAad_unitsOf, boundAad_unitsOf] at same
  have sameFields := fields isId bindable
  rw [CodeUnits.utf8_injective same, fields isId' bindable'] at sameFields
  simp only [List.cons.injEq, String.toList_inj, true_and, and_true] at sameFields
  obtain ⟨sameKey, samePurpose, sameSubject⟩ := sameFields
  refine ⟨sameKey.symm, ?_⟩
  cases binding
  cases binding'
  cases samePurpose
  cases sameSubject
  rfl

theorem aad_injective {keyId keyId' : KeyId} (same : aad keyId = aad keyId') : keyId = keyId' := by
  have sameText := congrArg String.toList (CodeUnits.utf8_injective same)
  simp only [String.toList_append] at sameText
  exact String.toList_inj.mp (List.append_cancel_left sameText)

/-- The versions authenticate different data. -/
theorem aad_ne_boundAad (keyId keyId' : KeyId) (binding : EnvelopeBinding) :
    aad keyId ≠ boundAad keyId' (unitsOf binding) := by
  intro same
  rw [boundAad_unitsOf] at same
  have sameText := congrArg (fun text => text.toList[1]?) (CodeUnits.utf8_injective same)
  simp [ENVELOPE_VERSION, boundText, BOUND_ENVELOPE_VERSION, List.intercalate_cons_cons] at sameText

theorem utf8_ne_nil {text : String} (nonempty : text ≠ "") :
    CodeUnits.utf8 (CodeUnits.ofString text) ≠ [] := by
  intro empty
  exact nonempty (CodeUnits.utf8_injective empty)

theorem aad_ne_nil (keyId : KeyId) : aad keyId ≠ [] := by
  apply utf8_ne_nil
  intro empty
  have := congrArg String.toList empty
  simp [ENVELOPE_VERSION] at this

theorem boundAad_ne_nil (keyId : KeyId) (binding : EnvelopeBinding) :
    boundAad keyId (unitsOf binding) ≠ [] := by
  rw [boundAad_unitsOf]
  apply utf8_ne_nil
  intro empty
  have := congrArg String.toList empty
  simp [boundText, BOUND_ENVELOPE_VERSION, List.intercalate_cons_cons] at this

/-! ## Accepted texts -/

/-- What a value of any version is authenticated with. -/
def authenticatedWith (version : Nat) (keyId : KeyId) (binding : Option UnitBinding) :
    Except CryptoError Bytes :=
  if version = 1 then .ok [] else associatedFor version keyId binding

/-- A version and a key id that a text can carry. -/
def IsLabel (version : Nat) (keyId : KeyId) : Prop :=
  version = 1 ∧ keyId = LEGACY_KEY_ID ∨ (version = 2 ∨ version = 3) ∧ isKeyId keyId.toList = true

theorem isLabel_of_inspectCiphertext {text : String} {version : Nat}
    (isLabel : inspectCiphertext text = .ok (version, keyId)) : IsLabel version keyId := by
  rw [inspectCiphertext] at isLabel
  split at isLabel
  · cases isLabel
    exact .inl ⟨rfl, rfl⟩
  · split at isLabel
    · split at isLabel
      · cases isLabel
      next isId =>
        cases isLabel
        rw [Bool.not_eq_true, Bool.not_eq_false'] at isId
        refine .inr ⟨?_, by rwa [String.toList_ofList]⟩
        split
        · exact .inr rfl
        · exact .inl rfl
    · cases isLabel
  · cases isLabel

/-- The authenticated data tell the label, and in the current version the binding. -/
theorem label_of_authenticatedWith {version version' : Nat} {keyId keyId' : KeyId}
    {binding binding' : Option EnvelopeBinding}
    (isLabel : IsLabel version keyId) (isLabel' : IsLabel version' keyId')
    (isAssociated : authenticatedWith version keyId (binding.map unitsOf) = .ok associated)
    (isAssociated' : authenticatedWith version' keyId' (binding'.map unitsOf) = .ok associated) :
    version = version' ∧ keyId = keyId' ∧ (version = 3 → binding = binding') := by
  -- each version has data of its own shape
  have shape : ∀ {version : Nat} {keyId : KeyId} {binding : Option EnvelopeBinding},
      IsLabel version keyId →
      authenticatedWith version keyId (binding.map unitsOf) = .ok associated →
      version = 1 ∧ keyId = LEGACY_KEY_ID ∧ associated = [] ∨ version = 2 ∧ associated = aad keyId ∨
        version = 3 ∧ isKeyId keyId.toList = true ∧ ∃ bound, binding = some bound ∧ Bindable bound ∧
          associated = boundAad keyId (unitsOf bound) := by
    intro version keyId binding isLabel isAssociated
    obtain ⟨rfl, isLegacy⟩ | ⟨rfl | rfl, isId⟩ := isLabel
    · cases isAssociated
      exact .inl ⟨rfl, isLegacy, rfl⟩
    · cases isAssociated
      exact .inr (.inl ⟨rfl, rfl⟩)
    · cases binding with
      | none => cases isAssociated
      | some bound =>
        simp only [authenticatedWith, associatedFor, Option.map_some] at isAssociated
        cases checked : assertBinding (unitsOf bound) with
        | error e =>
          rw [checked] at isAssociated
          cases isAssociated
        | ok _ =>
          rw [checked] at isAssociated
          cases isAssociated
          exact .inr (.inr ⟨rfl, isId, bound, rfl, assertBinding_unitsOf.mp checked, rfl⟩)
  obtain ⟨rfl, rfl, isEmpty⟩ | ⟨rfl, isUnbound⟩ | ⟨rfl, isId, bound, rfl, bindable, isBound⟩ :=
    shape isLabel isAssociated
  · obtain ⟨rfl, rfl, _⟩ | ⟨rfl, isUnbound'⟩ | ⟨rfl, _, bound', rfl, _, isBound'⟩ :=
      shape isLabel' isAssociated'
    · exact ⟨rfl, rfl, nofun⟩
    · exact absurd (isUnbound'.symm.trans isEmpty) (aad_ne_nil _)
    · exact absurd (isBound'.symm.trans isEmpty) (boundAad_ne_nil _ _)
  · obtain ⟨rfl, rfl, isEmpty'⟩ | ⟨rfl, isUnbound'⟩ | ⟨rfl, _, bound', rfl, _, isBound'⟩ :=
      shape isLabel' isAssociated'
    · exact absurd (isUnbound.symm.trans isEmpty') (aad_ne_nil _)
    · exact ⟨rfl, aad_injective (isUnbound.symm.trans isUnbound'), nofun⟩
    · exact absurd (isUnbound.symm.trans isBound') (aad_ne_boundAad _ _ _)
  · obtain ⟨rfl, rfl, isEmpty'⟩ | ⟨rfl, isUnbound'⟩ |
        ⟨rfl, isId', bound', rfl, bindable', isBound'⟩ := shape isLabel' isAssociated'
    · exact absurd (isBound.symm.trans isEmpty') (boundAad_ne_nil _ _)
    · exact absurd (isUnbound'.symm.trans isBound) (aad_ne_boundAad _ _ _)
    · obtain ⟨sameKey, rfl⟩ :=
        boundAad_injective isId isId' bindable bindable' (isBound.symm.trans isBound')
      exact ⟨rfl, sameKey, fun _ => rfl⟩

/-- Three fields are the oldest version, and six are not. -/
theorem version_of_fields {text : String} {version : Nat}
    (isLabel : inspectCiphertext text = .ok (version, keyId)) :
    version = 1 ↔ (text.toList.splitOn ':').length = 3 := by
  rw [inspectCiphertext] at isLabel
  split at isLabel
  next parts =>
    cases isLabel
    rw [parts]
    exact iff_of_true rfl rfl
  next parts =>
    rw [parts]
    split at isLabel
    · split at isLabel
      · cases isLabel
      · cases isLabel
        refine iff_of_false ?_ nofun
        split <;> nofun
    · cases isLabel
  · cases isLabel

section Accepted

variable {repaired : Bytes → CodeUnits} {world : SealLog Bytes} {ring : NamedRing} {text : String}
  {binding : Option UnitBinding} {acceptUnbound : Bool} {plain : CodeUnits}

/-- An accepted text opens each of its ciphertexts under what its label says. -/
theorem opened_of_decrypt
    (accepted : decrypt repaired world ring text binding acceptUnbound = .ok plain) :
    ∃ version keyId associated, inspectCiphertext text = .ok (version, keyId) ∧
      authenticatedWith version keyId binding = .ok associated ∧
      (binding.isSome = true → version = 3 ∨ acceptUnbound = true) ∧
      ∀ box ∈ boxesOf text, ∃ key bytes, world.openWith key box associated = some bytes := by
  rw [decrypt] at accepted
  cases isLabel : inspectCiphertext text with
  | error e =>
    rw [isLabel] at accepted
    cases accepted
  | ok label =>
    obtain ⟨version, keyId⟩ := label
    rw [isLabel] at accepted
    simp only [bind, Except.bind] at accepted
    split at accepted
    · cases accepted
    next notRefused =>
      have allowed : binding.isSome = true → version = 3 ∨ acceptUnbound = true := by
        intro isBound
        obtain ⟨bound, rfl⟩ := Option.isSome_iff_exists.mp isBound
        have kept : ¬(decide (version < 3) && !acceptUnbound) = true :=
          fun fits => notRefused bound (Option.filter_some_pos fits)
        obtain ⟨rfl, _⟩ | ⟨rfl | rfl, _⟩ := isLabel_of_inspectCiphertext isLabel
        · simpa using kept
        · simpa using kept
        · exact .inl rfl
      split at accepted
      next iv tag data parts =>
        have isFirst : version = 1 := (version_of_fields isLabel).mpr (by rw [parts]; rfl)
        refine ⟨version, keyId, [], rfl, if_pos isFirst, allowed, ?_⟩
        split at accepted
        · cases accepted
        next legacy _ =>
          split at accepted
          · cases accepted
          next bytes opened =>
            intro box carried
            rw [boxesOf, parts, List.mem_singleton] at carried
            subst carried
            exact ⟨_, _, openWith_of_gcmDecrypt opened⟩
      next first second wrapped iv tag data parts =>
        have notFirst : version ≠ 1 := by
          rw [ne_eq, version_of_fields isLabel, parts]
          nofun
        split at accepted
        · cases accepted
        · split at accepted
          · cases accepted
          next associated isAssociated =>
            refine ⟨version, keyId, associated, rfl,
              (if_neg notFirst).trans isAssociated, allowed, ?_⟩
            split at accepted
            · cases accepted
            next kek _ =>
              split at accepted
              · cases accepted
              next dek unwrapped =>
                split at accepted
                · cases accepted
                next bytes opened =>
                  intro box carried
                  rw [boxesOf, parts, List.mem_cons, List.mem_singleton] at carried
                  obtain rfl | rfl := carried
                  · exact ⟨_, _, openWith_of_gcmDecrypt unwrapped⟩
                  · exact ⟨_, _, openWith_of_gcmDecrypt opened⟩
      · cases accepted

/-- A text that carries a ciphertext of an envelope is accepted under the envelope's label only. -/
theorem label_of_decrypt {ring' : NamedRing} {text' : String} {acceptUnbound : Bool}
    {plaintext plain : CodeUnits} {binding binding' : Option EnvelopeBinding} {draws : Draws}
    {sealings : List (Sealing Bytes)}
    (encrypted : encrypt ring plaintext (binding.map unitsOf) draws = .ok (text, sealings))
    (isSealed : ∀ sealing ∈ sealings, sealing ∈ world.sealings)
    (carries : ∃ box ∈ boxesOf text, box ∈ boxesOf text')
    (accepted : decrypt repaired world ring' text' (binding'.map unitsOf) acceptUnbound = .ok plain)
    :
    inspectCiphertext text' = inspectCiphertext text ∧
      (binding.isSome = true → binding' = binding) := by
  obtain ⟨version, associated, isVersion, _, _⟩ := encrypt_eq_ok.mp encrypted
  obtain ⟨version', keyId', associated', isLabel', isAssociated', _, opens⟩ :=
    opened_of_decrypt accepted
  obtain ⟨box, carried, carried'⟩ := carries
  -- the ciphertext was sealed once, with the associated data of the envelope
  obtain ⟨sealing, listed, rfl, rfl⟩ := sealing_of_box isVersion encrypted carried
  obtain ⟨key, bytes, opened⟩ := opens _ carried'
  obtain rfl := SealLog.associated_of_openWith (isSealed _ listed) opened
  have isLabel := inspectCiphertext_of_fields (fields_of_encrypt isVersion encrypted)
    (version_of_versionFor isVersion) ring.isKeyId_activeId
  have isAssociated : authenticatedWith (versionNumber version) ring.activeId
      (binding.map unitsOf) = .ok sealing.associated :=
    (if_neg (versionNumber_ne_one version)).trans (associatedFor_versionNumber isVersion)
  obtain ⟨sameVersion, sameKey, sameBinding⟩ := label_of_authenticatedWith
    (isLabel_of_inspectCiphertext isLabel) (isLabel_of_inspectCiphertext isLabel') isAssociated
    isAssociated'
  rw [isLabel, isLabel', sameVersion, sameKey]
  refine ⟨rfl, fun isBound => ?_⟩
  obtain ⟨bound, rfl⟩ := Option.isSome_iff_exists.mp isBound
  obtain ⟨unbound, _⟩ | ⟨_, _, _, isCurrent, _⟩ := versionFor_cases isVersion
  · cases unbound
  · exact (sameBinding (by rw [isCurrent]; rfl)).symm

end Accepted

/-! ## The laws of envelopes -/

theorem encrypt_of_bindable (ring : NamedRing) (plaintext : CodeUnits)
    {binding : Option EnvelopeBinding} (bindable : ∀ b ∈ binding, Bindable b) (draws : Draws) :
    ∃ text sealings, encrypt ring plaintext (binding.map unitsOf) draws = .ok (text, sealings) := by
  cases binding with
  | none => exact ⟨_, _, rfl⟩
  | some bound =>
    have isVersion : versionFor ring.activeId (some (unitsOf bound)) =
        .ok (BOUND_ENVELOPE_VERSION, boundAad ring.activeId (unitsOf bound)) := by
      rw [versionFor, assertBinding_unitsOf.mpr (bindable bound rfl)]
      rfl
    exact ⟨_, _, encrypt_eq_ok.mpr ⟨_, _, isVersion, rfl, rfl⟩⟩

/-- What is encrypted under a binding that may be written, or under none, decrypts. The associated
data tell the key id and the binding. No text with a ciphertext of the envelope is accepted under
another version, key id or binding. -/
theorem envelope_roundTrip_binds :
    (∀ ring plaintext (binding : Option EnvelopeBinding) draws, (∀ b ∈ binding, Bindable b) →
      ∃ text sealings, encrypt ring (CodeUnits.ofString plaintext) (binding.map unitsOf) draws =
          .ok (text, sealings) ∧
        ∀ repaired (world : SealLog Bytes), (∀ sealing ∈ sealings, sealing ∈ world.sealings) →
          (∀ ring' : NamedRing, ring'.kek ring.activeId = ring.kek ring.activeId →
            ∀ acceptUnbound, decrypt repaired world ring' text (binding.map unitsOf) acceptUnbound =
              .ok (CodeUnits.ofString plaintext)) ∧
          ∀ (ring' : NamedRing) text' (binding' : Option EnvelopeBinding) acceptUnbound plain,
            (∃ box ∈ boxesOf text, box ∈ boxesOf text') →
            decrypt repaired world ring' text' (binding'.map unitsOf) acceptUnbound = .ok plain →
              inspectCiphertext text' = inspectCiphertext text ∧
                (binding.isSome = true → binding' = binding)) ∧
      ∀ keyId keyId' binding binding', isKeyId keyId.toList = true → isKeyId keyId'.toList = true →
        Bindable binding → Bindable binding' →
        boundAad keyId (unitsOf binding) = boundAad keyId' (unitsOf binding') →
          keyId = keyId' ∧ binding = binding' := by
  constructor
  · intro ring plaintext binding draws bindable
    obtain ⟨text, sealings, encrypted⟩ :=
      encrypt_of_bindable ring (CodeUnits.ofString plaintext) bindable draws
    refine ⟨text, sealings, encrypted, fun repaired world isSealed => ⟨?_, ?_⟩⟩
    · intro ring' known acceptUnbound
      rw [decrypt_of_encrypt encrypted known isSealed, CodeUnits.ofUtf8_utf8]
    · intro ring' text' binding' acceptUnbound plain carries accepted
      exact label_of_decrypt encrypted isSealed carries accepted
  · intro keyId keyId' binding binding' isId isId' bindable bindable' same
    exact boundAad_injective isId isId' bindable bindable' same

/-- The log of one encryption, whose two initialization vectors differ. -/
def logOf (ring : NamedRing) (plaintext : CodeUnits) (draws : Draws) (associated : Bytes)
    (differ : draws.payloadIv ≠ draws.wrapIv) : SealLog Bytes where
  sealings := sealingsFor ring plaintext draws associated
  distinct := by
    intro first isFirst second isSecond same
    simp only [sealingsFor, List.mem_cons, List.not_mem_nil, or_false] at isFirst isSecond
    obtain rfl | rfl := isFirst
    · obtain rfl | rfl := isSecond
      · rfl
      · exact absurd (congrArg Prod.fst same) differ
    · obtain rfl | rfl := isSecond
      · exact absurd (congrArg Prod.fst same).symm differ
      · rfl

def sampleRing : NamedRing where
  activeId := "k1"
  kek id := if id = "k1" then some 7 else none
  legacyKey _ := none
  active := rfl
  named id isKnown := by
    split at isKnown
    next isId =>
      subst isId
      decide
    · cases isKnown

def sampleDraws : Draws where
  dek := List.replicate 32 1
  payloadIv := List.replicate 12 2
  payloadTag := List.replicate 16 3
  payloadData := [4, 5, 6, 7]
  wrapIv := List.replicate 12 8
  wrapTag := List.replicate 16 9
  wrapData := List.replicate 32 10
  dekLength := rfl
  payloadIvLength := rfl
  payloadTagLength := rfl
  wrapIvLength := rfl
  wrapTagLength := rfl
  wrapDataLength := rfl

def sampleBinding : EnvelopeBinding := ⟨"account-key/ring-seal", "a1"⟩

theorem envelope_roundTrip_binds_sample :
    ∃ text, ∃ world : SealLog Bytes,
      decrypt (fun _ => []) world sampleRing text (some (unitsOf sampleBinding)) false =
        .ok (CodeUnits.ofString "seed") ∧
      ∀ binding' acceptUnbound plain,
        decrypt (fun _ => []) world sampleRing text (binding'.map unitsOf) acceptUnbound =
          .ok plain → binding' = some sampleBinding := by
  have bindable : ∀ b ∈ some sampleBinding, Bindable b := by
    rintro _ ⟨⟩
    exact assertBinding_unitsOf.mp (by decide)
  obtain ⟨text, sealings, encrypted, holds⟩ :=
    envelope_roundTrip_binds.1 sampleRing "seed" (some sampleBinding) sampleDraws bindable
  obtain ⟨version, associated, isVersion, _, isSealings⟩ := encrypt_eq_ok.mp encrypted
  let world := logOf sampleRing (CodeUnits.ofString "seed") sampleDraws associated (by decide)
  obtain ⟨opens, binds⟩ := holds (fun _ => []) world (isSealings ▸ fun _ listed => listed)
  refine ⟨text, world, opens sampleRing rfl false, fun binding' acceptUnbound plain accepted => ?_⟩
  have boxes := boxesOf_of_fields (fields_of_encrypt isVersion encrypted)
  refine (binds sampleRing text binding' acceptUnbound plain ?_ accepted).2 rfl
  rw [boxes]
  exact ⟨_, List.mem_cons_self, List.mem_cons_self⟩

/-- An empty purpose is refused. A surrogate without its other half is written as U+FFFD, in the
plaintext and in the associated data alike. -/
theorem unpaired_surrogate_not_kept :
    (¬ ∀ ring plaintext binding draws, ∃ text sealings,
      encrypt ring plaintext (some binding) draws = .ok (text, sealings)) ∧
    (¬ ∀ repaired (world : SealLog Bytes) ring plaintext draws text sealings,
      encrypt ring plaintext none draws = .ok (text, sealings) →
      (∀ sealing ∈ sealings, sealing ∈ world.sealings) →
        decrypt repaired world ring text none false = .ok plaintext) ∧
    ¬ ∀ keyId binding binding', assertBinding binding = .ok () → assertBinding binding' = .ok () →
      boundAad keyId binding = boundAad keyId binding' → binding = binding' := by
  refine ⟨?_, ?_, ?_⟩
  · intro encrypts
    obtain ⟨text, sealings, encrypted⟩ := encrypts sampleRing [] ⟨[], []⟩ sampleDraws
    cases encrypted
  · intro decrypts
    obtain ⟨text, sealings, encrypted⟩ : ∃ text sealings,
        encrypt sampleRing [0xD800] none sampleDraws = .ok (text, sealings) := ⟨_, _, rfl⟩
    obtain ⟨version, associated, _, _, rfl⟩ := encrypt_eq_ok.mp encrypted
    have roundTrip := decrypts (fun _ => [])
      (logOf sampleRing [0xD800] sampleDraws associated (by decide)) sampleRing [0xD800]
      sampleDraws text _ encrypted (fun _ listed => listed)
    rw [decrypt_of_encrypt encrypted rfl (fun _ listed => listed)] at roundTrip
    have replaced : CodeUnits.utf8 [0xD800] = CodeUnits.utf8 (CodeUnits.ofString "\uFFFD") := by
      decide
    rw [replaced, CodeUnits.ofUtf8_utf8] at roundTrip
    revert roundTrip
    decide
  · intro injective
    have same := injective "k1" ⟨[99], [0xD800]⟩ ⟨[99], [0xFFFD]⟩ rfl rfl (by decide)
    revert same
    decide

end Nightgate.Keys.EnvelopeText
