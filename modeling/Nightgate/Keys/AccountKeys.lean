import Nightgate.Keys.Envelope

/-!
# Account keys

Each account has a random data key. It is stored twice: sealed by the server keys alone,
and sealed with the storage password of the account inside a server seal. A call that gives
a password gets the data key only if the password opens the second copy.
-/

namespace Nightgate.Keys

open Library

/-- The data key of an account, 32 bytes. -/
abbrev Dek := BitVec 256

/-- The data key sealed with a storage password. -/
abbrev PasswordSeal := Sealed String Unit Dek

/-- The stored second copy. -/
inductive ViewingKeySeal where
  /-- An older value that no server key wraps yet. -/
  | bare (sealed : PasswordSeal)
  | wrapped (envelope : Envelope PasswordSeal)
  deriving DecidableEq

/-- A row of `AccountKeys`. -/
structure AccountKeyRow where
  wrappedDek : Envelope Dek
  wrappedDekByViewingKey : Option ViewingKeySeal

/-- What the functions below read: the ring, whether unbound values are accepted, and the
account. -/
structure KeyContext where
  ring : KeyRing
  acceptUnbound : Bool
  accountId : String

/-- How a lookup ends without a key. -/
inductive DekFailure where
  /-- `AccountDekUnavailableError`. -/
  | unavailable
  /-- Any other error. -/
  | error
  deriving DecidableEq

def unwrapDek (context : KeyContext) (wrapped : Envelope Dek) : Except DecryptError Dek :=
  decrypt context.ring context.acceptUnbound (accountDekBinding context.accountId) wrapped

def wrapDek (context : KeyContext) (dek : Dek) (nonce : Nat) : Envelope Dek :=
  encrypt context.ring (accountDekBinding context.accountId) dek nonce

/-- Removes the server-key layer, if present. -/
def innerSeal (context : KeyContext) (stored : ViewingKeySeal) :
    Except DecryptError PasswordSeal :=
  match stored with
  | .bare sealed => .ok sealed
  | .wrapped envelope =>
    decrypt context.ring context.acceptUnbound
      (accountDekViewingKeySealBinding context.accountId) envelope

def openDekByStoragePassword (sealed : PasswordSeal) (storagePassword : String) :
    Except DecryptError Dek :=
  match sealed.openWith storagePassword () with
  | some dek => .ok dek
  | none => .error .invalid

def openDekByViewingKey (context : KeyContext) (stored : ViewingKeySeal)
    (storagePassword : String) : Except DecryptError Dek :=
  match innerSeal context stored with
  | .ok sealed => openDekByStoragePassword sealed storagePassword
  | .error error => .error error

def sealDekByViewingKey (context : KeyContext) (dek : Dek) (storagePassword : String)
    (nonce : Nat) : ViewingKeySeal :=
  .wrapped (encrypt context.ring (accountDekViewingKeySealBinding context.accountId)
    ⟨storagePassword, (), dek, nonce⟩ nonce)

/-- What the second copy says: `opens` is unset when it was not or could not be tried. -/
structure SealCheck where
  opens : Option Bool
  dek : Option Dek
  unknownKey : Bool

/-- Tries the second copy with the password, given the key of the first. -/
def checkSeal (context : KeyContext) (stored : Option ViewingKeySeal)
    (storagePassword : Option String) (dek : Option Dek) : Except DekFailure SealCheck :=
  match storagePassword, stored with
  | some storagePassword, some stored =>
    match openDekByViewingKey context stored storagePassword with
    | .ok viaVk => .ok ⟨some (dek.all (· = viaVk)), dek.or (some viaVk), false⟩
    | .error .unbound => .error .error
    -- A missing server key does not mean the viewing key is wrong.
    | .error (.unknownKey _) => .ok ⟨none, dek, true⟩
    | .error .invalid => .ok ⟨some false, dek, false⟩
  | _, _ => .ok ⟨none, dek, false⟩

/-- A row that was opened. -/
structure OpenedRow where
  dek : Dek
  /-- The server keys did not open the first copy. -/
  ringFailed : Bool
  unknownKey : Bool

/-- The checks on a stored row. -/
def openRow (context : KeyContext) (row : AccountKeyRow) (storagePassword : Option String) :
    Except DekFailure OpenedRow :=
  match unwrapDek context row.wrappedDek with
  | .error .unbound => .error .error
  | viaRing =>
    match checkSeal context row.wrappedDekByViewingKey storagePassword viaRing.toOption with
    | .error failure => .error failure
    | .ok check =>
      match check.dek with
      | none => .error .unavailable
      | some dek =>
        if check.opens = some false then .error .unavailable
        else .ok ⟨dek, viaRing.toOption.isNone, check.unknownKey⟩

/-- The columns an update sets. -/
structure RowPatch where
  wrappedDek : Option (Envelope Dek)
  wrappedDekByViewingKey : Option ViewingKeySeal
  deriving DecidableEq

def RowPatch.isEmpty (patch : RowPatch) : Bool :=
  patch.wrappedDek.isNone && patch.wrappedDekByViewingKey.isNone

def RowPatch.apply (patch : RowPatch) (row : AccountKeyRow) : AccountKeyRow where
  wrappedDek := patch.wrappedDek.getD row.wrappedDek
  wrappedDekByViewingKey := patch.wrappedDekByViewingKey.or row.wrappedDekByViewingKey

/-- The first copy, if it is under another key or format. -/
def rewrapDek (context : KeyContext) (row : AccountKeyRow) (opened : OpenedRow) (nonce : Nat) :
    Except DekFailure (Option (Envelope Dek)) :=
  match inspectCiphertext row.wrappedDek with
  | .error _ => .error .error
  | .ok (version, keyId) =>
    if keyId ≠ context.ring.activeId ∨ version ≠ 3 ∨ opened.ringFailed then
      .ok (some (wrapDek context opened.dek nonce))
    else .ok none

/-- The second copy: sealed if missing, wrapped if bare, moved to the active key if under
another. Its password layer stays. -/
def rewrapSeal (context : KeyContext) (row : AccountKeyRow) (opened : OpenedRow)
    (storagePassword : Option String) (nonce : Nat) :
    Except DekFailure (Option ViewingKeySeal) :=
  let wrap := fun sealed => ViewingKeySeal.wrapped (encrypt context.ring
    (accountDekViewingKeySealBinding context.accountId) sealed nonce)
  match row.wrappedDekByViewingKey with
  | none =>
    .ok (storagePassword.map fun password =>
      sealDekByViewingKey context opened.dek password nonce)
  | some (.bare sealed) => .ok (some (wrap sealed))
  | some (.wrapped envelope) =>
    if opened.unknownKey then .ok none
    else
      match inspectCiphertext envelope with
      | .error _ => .error .error
      | .ok (_, keyId) =>
        if keyId = context.ring.activeId then .ok none
        else
          match innerSeal context (.wrapped envelope) with
          | .ok sealed => .ok (some (wrap sealed))
          | .error _ => .error .error

/-- The update a lookup makes on the row it opened. -/
def rewrapRow (context : KeyContext) (row : AccountKeyRow) (opened : OpenedRow)
    (storagePassword : Option String) (nonce : Nat) : Except DekFailure RowPatch :=
  match rewrapDek context row opened nonce with
  | .error failure => .error failure
  | .ok wrappedDek =>
    match rewrapSeal context row opened storagePassword nonce with
    | .error failure => .error failure
    | .ok sealed => .ok ⟨wrappedDek, sealed⟩

/-- A row for an account that has no key yet. -/
def newRow (context : KeyContext) (dek : Dek) (storagePassword : String) (nonce : Nat) :
    AccountKeyRow where
  wrappedDek := wrapDek context dek nonce
  wrappedDekByViewingKey := some (sealDekByViewingKey context dek storagePassword nonce)

/-! ## What a row says about a password -/

/-- How a call ends. -/
inductive DekOutcome where
  | dek (dek : Dek)
  /-- The account has no key, and none may be created. -/
  | absent
  | refused
  | failed
  deriving DecidableEq

def DekOutcome.ofFailure : DekFailure → DekOutcome
  | .unavailable => .refused
  | .error => .failed

/-- The outcome of the checks on a row. -/
def rowOutcome (context : KeyContext) (row : AccountKeyRow) (storagePassword : Option String) :
    DekOutcome :=
  match openRow context row storagePassword with
  | .ok opened => .dek opened.dek
  | .error failure => .ofFailure failure

/-- The password opens every second copy of the row, to the given key. -/
def OpensSeal (context : KeyContext) (row : AccountKeyRow) (storagePassword : String) (dek : Dek) :
    Prop :=
  ∀ stored ∈ row.wrappedDekByViewingKey,
    (openDekByViewingKey context stored storagePassword).toOption = some dek

instance (context : KeyContext) (row : AccountKeyRow) (storagePassword : String) (dek : Dek) :
    Decidable (OpensSeal context row storagePassword dek) :=
  inferInstanceAs (Decidable (∀ stored ∈ row.wrappedDekByViewingKey, _ = _))

/-- The key the server keys or else the second copy hold for the row. -/
inductive Holds (context : KeyContext) (row : AccountKeyRow) (dek : Dek) : Prop where
  | ring (opened : unwrapDek context row.wrappedDek = .ok dek)
  | inner {error : DecryptError} {stored : ViewingKeySeal} {sealed : PasswordSeal}
      (failed : unwrapDek context row.wrappedDek = .error error) (bound : error ≠ .unbound)
      (isSeal : row.wrappedDekByViewingKey = some stored)
      (opened : innerSeal context stored = .ok sealed) (isDek : sealed.plain = dek)

/-- A second copy with the same password layer. -/
def SameInner (context : KeyContext) (stored next : ViewingKeySeal) : Prop :=
  ∃ sealed, innerSeal context stored = .ok sealed ∧ innerSeal context next = .ok sealed

/-- The update keeps the key of the row and its password layer. -/
structure PatchFits (context : KeyContext) (row : AccountKeyRow) (patch : RowPatch) : Prop where
  dek : ∀ wrapped ∈ patch.wrappedDek, ∃ dek, unwrapDek context wrapped = .ok dek ∧
    Holds context row dek
  sealed : ∀ next ∈ patch.wrappedDekByViewingKey, ∃ stored,
    row.wrappedDekByViewingKey = some stored ∧ SameInner context stored next

section Rows

variable {context : KeyContext} {row : AccountKeyRow} {patch : RowPatch} {opened : OpenedRow}
  {storagePassword : Option String} {password : String} {dek : Dek} {nonce : Nat}

@[simp] theorem unwrapDek_wrapDek (context : KeyContext) (dek : Dek) (nonce : Nat) :
    unwrapDek context (wrapDek context dek nonce) = .ok dek :=
  decrypt_encrypt _ _ _ _ _

variable {stored : ViewingKeySeal}

theorem openDekByViewingKey_of_inner {sealed : PasswordSeal}
    (inner : innerSeal context stored = .ok sealed) (password : String) :
    openDekByViewingKey context stored password =
      if password = sealed.key then .ok sealed.plain else .error .invalid := by
  simp only [openDekByViewingKey, inner, openDekByStoragePassword, Sealed.openWith, and_true]
  split <;> simp_all

/-- The password layer alone decides what a password opens. -/
theorem SameInner.opens {stored next : ViewingKeySeal} (same : SameInner context stored next)
    (password : String) :
    openDekByViewingKey context next password = openDekByViewingKey context stored password := by
  obtain ⟨sealed, inner, innerNext⟩ := same
  rw [openDekByViewingKey_of_inner inner, openDekByViewingKey_of_inner innerNext]

/-- The outcome depends on the second copy by what the password opens. -/
theorem rowOutcome_congr {next : AccountKeyRow}
    (wrapped : unwrapDek context next.wrappedDek = unwrapDek context row.wrappedDek)
    (checked : ∀ dek, checkSeal context next.wrappedDekByViewingKey storagePassword dek =
      checkSeal context row.wrappedDekByViewingKey storagePassword dek) :
    rowOutcome context next storagePassword = rowOutcome context row storagePassword := by
  simp only [rowOutcome, openRow, wrapped, checked]

theorem SameInner.checkSeal {stored next : ViewingKeySeal} (same : SameInner context stored next)
    (storagePassword : Option String) (dek : Option Dek) :
    checkSeal context (some next) storagePassword dek =
      checkSeal context (some stored) storagePassword dek := by
  cases storagePassword with
  | none => rfl
  | some password => simp only [Keys.checkSeal, same.opens password]

/-- What a row holds does not depend on the copy it is read from. -/
theorem Holds.unique {other : Dek} (first : Holds context row dek)
    (second : Holds context row other) : dek = other := by
  cases first with
  | ring opened =>
    cases second with
    | ring openedOther =>
      rw [opened] at openedOther
      exact Except.ok.inj openedOther
    | inner failed =>
      rw [opened] at failed
      cases failed
  | inner failed _ isSeal opened isDek =>
    cases second with
    | ring openedOther =>
      rw [failed] at openedOther
      cases openedOther
    | inner _ _ isSealOther openedOther isDekOther =>
      rw [isSeal, Option.some.injEq] at isSealOther
      subst isSealOther
      rw [opened] at openedOther
      cases openedOther
      exact isDek.symm.trans isDekOther

/-- A key wrapped anew leaves the outcome of every password. -/
theorem rowOutcome_rewrapped {wrapped : Envelope Dek} (holds : Holds context row dek)
    (isWrapped : unwrapDek context wrapped = .ok dek) (password : String) :
    rowOutcome context { row with wrappedDek := wrapped } (some password) =
      rowOutcome context row (some password) := by
  cases holds with
  | ring opened =>
    apply rowOutcome_congr
    · rw [isWrapped, opened]
    · exact fun _ => rfl
  | @inner error stored sealed failed bound isSeal opened isDek =>
    have opens := openDekByViewingKey_of_inner opened password
    have before : openRow context row (some password) =
        if password = sealed.key then .ok ⟨dek, true, false⟩ else .error .unavailable := by
      simp only [openRow, failed]
      split
      next isUnbound => exact absurd (Except.error.inj isUnbound) bound
      · simp only [Keys.checkSeal, isSeal, opens]
        by_cases isKey : password = sealed.key
        · simp [isKey, isDek, Except.toOption]
        · simp [isKey, Except.toOption]
    have after : openRow context { row with wrappedDek := wrapped } (some password) =
        if password = sealed.key then .ok ⟨dek, false, false⟩ else .error .unavailable := by
      simp only [openRow, isWrapped, Keys.checkSeal, isSeal, opens]
      by_cases isKey : password = sealed.key
      · simp [isKey, isDek, Except.toOption]
      · simp [isKey, Except.toOption]
    simp only [rowOutcome, before, after]
    by_cases isKey : password = sealed.key <;> simp [isKey]

section Fits

variable (fits : PatchFits context row patch)

include fits

/-- An update that fits leaves the outcome of every password. -/
theorem PatchFits.rowOutcome (password : String) :
    Keys.rowOutcome context (patch.apply row) (some password) =
      Keys.rowOutcome context row (some password) := by
  have sealedSame : ∀ dek, Keys.checkSeal context (patch.apply row).wrappedDekByViewingKey
      (some password) dek =
        Keys.checkSeal context row.wrappedDekByViewingKey (some password) dek := by
    intro dek
    cases isNext : patch.wrappedDekByViewingKey with
    | none => simp [RowPatch.apply, isNext]
    | some next =>
      obtain ⟨stored, isStored, same⟩ := fits.sealed next isNext
      simp only [RowPatch.apply, isNext, Option.some_or, isStored]
      exact same.checkSeal (some password) dek
  have resealed : Keys.rowOutcome context (patch.apply row) (some password) =
      Keys.rowOutcome context { row with wrappedDek := (patch.apply row).wrappedDek }
        (some password) :=
    rowOutcome_congr rfl sealedSame
  rw [resealed]
  cases isWrapped : patch.wrappedDek with
  | none => simp [RowPatch.apply, isWrapped]
  | some wrapped =>
    obtain ⟨dek, opened, holds⟩ := fits.dek wrapped isWrapped
    simp only [RowPatch.apply, isWrapped, Option.getD_some]
    exact rowOutcome_rewrapped holds opened password

theorem PatchFits.opensSeal (opens : OpensSeal context row password dek) :
    OpensSeal context (patch.apply row) password dek := by
  intro next isNext
  cases isPatch : patch.wrappedDekByViewingKey with
  | none =>
    simp only [RowPatch.apply, isPatch, Option.none_or] at isNext
    exact opens next isNext
  | some resealed =>
    simp only [RowPatch.apply, isPatch, Option.some_or, Option.mem_def, Option.some.injEq] at isNext
    subst isNext
    obtain ⟨stored, isStored, same⟩ := fits.sealed resealed isPatch
    rw [same.opens]
    exact opens stored isStored

/-- The second copy after an update that fits. -/
theorem PatchFits.inner {sealed : PasswordSeal} (isSeal : row.wrappedDekByViewingKey = some stored)
    (opened : innerSeal context stored = .ok sealed) :
    ∃ next, (patch.apply row).wrappedDekByViewingKey = some next ∧
      innerSeal context next = .ok sealed := by
  cases isPatch : patch.wrappedDekByViewingKey with
  | none => exact ⟨stored, by simp [RowPatch.apply, isPatch, isSeal], opened⟩
  | some next =>
    obtain ⟨before, isBefore, same⟩ := fits.sealed next isPatch
    rw [isSeal, Option.some.injEq] at isBefore
    subst isBefore
    obtain ⟨inner, opens, opensNext⟩ := same
    rw [opened] at opens
    cases opens
    exact ⟨next, by simp [RowPatch.apply, isPatch], opensNext⟩

theorem PatchFits.holds (holds : Holds context row dek) :
    Holds context (patch.apply row) dek := by
  cases isWrapped : patch.wrappedDek with
  | some wrapped =>
    obtain ⟨other, opened, holdsOther⟩ := fits.dek wrapped isWrapped
    rw [holds.unique holdsOther]
    refine .ring ?_
    simpa [RowPatch.apply, isWrapped] using opened
  | none =>
    cases holds with
    | ring opened =>
      refine .ring ?_
      simpa [RowPatch.apply, isWrapped] using opened
    | inner failed bound isSeal opened isDek =>
      obtain ⟨next, isNext, openedNext⟩ := fits.inner isSeal opened
      refine .inner ?_ bound isNext openedNext isDek
      simpa [RowPatch.apply, isWrapped] using failed

/-- Two updates of one row may come in any order. -/
theorem PatchFits.later {other : RowPatch}
    (first : PatchFits context row other) : PatchFits context (other.apply row) patch where
  dek := by
    intro wrapped isWrapped
    obtain ⟨dek, opened, holds⟩ := fits.dek wrapped isWrapped
    exact ⟨dek, opened, first.holds holds⟩
  sealed := by
    intro next isNext
    obtain ⟨stored, isStored, sealed, inner, innerNext⟩ := fits.sealed next isNext
    obtain ⟨later, isLater, innerLater⟩ := first.inner isStored inner
    exact ⟨later, isLater, sealed, innerLater, innerNext⟩

end Fits

/-! ## What a lookup finds -/

/-- The server keys can remove their layer of the second copy, if there is one. -/
def Sealable (context : KeyContext) (row : AccountKeyRow) : Prop :=
  match row.wrappedDekByViewingKey with
  | none => False
  | some stored =>
    match innerSeal context stored with
    | .error (.unknownKey _) => False
    | _ => True

instance (context : KeyContext) (row : AccountKeyRow) : Decidable (Sealable context row) := by
  unfold Sealable
  split
  · infer_instance
  · split <;> infer_instance

/-- A second copy that the password cannot open yields no key. -/
theorem openRow_unopened {error : DecryptError} (isSeal : row.wrappedDekByViewingKey = some stored)
    (failed : openDekByViewingKey context stored password = .error error)
    (known : ∀ keyId, error ≠ .unknownKey keyId) :
    ∀ opened, openRow context row (some password) ≠ .ok opened := by
  intro opened isOpened
  simp only [openRow, isSeal, Keys.checkSeal, failed] at isOpened
  cases error with
  | unknownKey keyId => exact absurd rfl (known keyId)
  | unbound => split at isOpened <;> cases isOpened
  | invalid =>
    split at isOpened
    · cases isOpened
    · dsimp only at isOpened
      split at isOpened <;> simp at isOpened

/-- The row has a second copy, and the password opens it to the key of the row. -/
structure Accepts (context : KeyContext) (row : AccountKeyRow) (password : String) (dek : Dek) :
    Prop where
  opens : OpensSeal context row password dek
  outcome : rowOutcome context row (some password) = .dek dek
  isSealed : row.wrappedDekByViewingKey.isSome

/-- A password opened a row: it opens the second copy, and the row holds the key. -/
theorem openRow_password (sealable : Sealable context row)
    (isOpened : openRow context row (some password) = .ok opened) :
    OpensSeal context row password opened.dek ∧ Holds context row opened.dek := by
  simp only [Sealable] at sealable
  cases isSeal : row.wrappedDekByViewingKey with
  | none => simp [isSeal] at sealable
  | some stored =>
    simp only [isSeal] at sealable
    cases isInner : innerSeal context stored with
    | error error =>
      have failed : openDekByViewingKey context stored password = .error error := by
        simp [openDekByViewingKey, isInner]
      refine absurd isOpened (openRow_unopened isSeal failed ?_ opened)
      rintro keyId rfl
      simp [isInner] at sealable
    | ok sealed =>
      have opens := openDekByViewingKey_of_inner isInner password
      by_cases isKey : password = sealed.key
      · rw [if_pos isKey] at opens
        have opensSeal (isDek : sealed.plain = opened.dek) :
            OpensSeal context row password opened.dek := by
          intro other isOther
          rw [isSeal, Option.mem_def, Option.some.injEq] at isOther
          subst isOther
          rw [opens, isDek]
          rfl
        simp only [openRow, isSeal, Keys.checkSeal, opens] at isOpened
        cases viaRing : unwrapDek context row.wrappedDek with
        | ok dek =>
          simp only [viaRing, Except.toOption, Option.all_some, Option.some_or,
            Option.some.injEq, decide_eq_false_iff_not] at isOpened
          by_cases same : dek = sealed.plain
          · simp only [same, not_true_eq_false, if_false] at isOpened
            cases isOpened
            exact ⟨opensSeal rfl, .ring (same ▸ viaRing)⟩
          · simp [same] at isOpened
        | error error =>
          simp only [viaRing, Except.toOption] at isOpened
          split at isOpened
          · cases isOpened
          next notUnbound =>
            simp only [Option.all_none, Option.none_or, Option.some.injEq, Bool.true_eq_false,
              if_false] at isOpened
            cases isOpened
            refine ⟨opensSeal rfl, .inner viaRing ?_ isSeal isInner rfl⟩
            rintro rfl
            exact notUnbound rfl
      · rw [if_neg isKey] at opens
        exact absurd isOpened (openRow_unopened isSeal opens (by simp) opened)

theorem Accepts.of_opened (sealable : Sealable context row)
    (isOpened : openRow context row (some password) = .ok opened) :
    Accepts context row password opened.dek where
  opens := (openRow_password sealable isOpened).1
  outcome := by simp [Keys.rowOutcome, isOpened]
  isSealed := by
    simp only [Sealable] at sealable
    cases isSeal : row.wrappedDekByViewingKey with
    | none => simp [isSeal] at sealable
    | some stored => rfl

theorem PatchFits.accepts (fits : PatchFits context row patch)
    (accepts : Accepts context row password dek) :
    Accepts context (patch.apply row) password dek where
  opens := fits.opensSeal accepts.opens
  outcome := (fits.rowOutcome password).trans accepts.outcome
  isSealed := by
    have isSealed := accepts.isSealed
    cases isPatch : patch.wrappedDekByViewingKey <;> simp [RowPatch.apply, isPatch, isSealed]

/-- A row accepts one password and refuses the others. -/
theorem Accepts.refuses {other : String} (accepts : Accepts context row password dek)
    (different : other ≠ password) : rowOutcome context row (some other) = .refused := by
  obtain ⟨stored, isSeal⟩ := Option.isSome_iff_exists.mp accepts.isSealed
  have opens := accepts.opens stored isSeal
  have outcome := accepts.outcome
  cases isInner : innerSeal context stored with
  | error error => simp [openDekByViewingKey, isInner, Except.toOption] at opens
  | ok sealed =>
    rw [openDekByViewingKey_of_inner isInner] at opens
    have isKey : password = sealed.key := by
      by_contra notKey
      simp [notKey, Except.toOption] at opens
    have fails : openDekByViewingKey context stored other = .error .invalid := by
      rw [openDekByViewingKey_of_inner isInner, if_neg (isKey ▸ different)]
    simp only [Keys.rowOutcome, openRow] at outcome ⊢
    cases viaRing : unwrapDek context row.wrappedDek with
    | ok own => simp [Keys.checkSeal, isSeal, fails, Except.toOption, DekOutcome.ofFailure]
    | error error =>
      cases error with
      | unbound => simp [viaRing, DekOutcome.ofFailure] at outcome
      | unknownKey | invalid =>
        simp [Keys.checkSeal, isSeal, fails, Except.toOption, DekOutcome.ofFailure]

/-- A new row accepts the password it was made with. -/
theorem Accepts.newRow (context : KeyContext) (dek : Dek) (password : String) (nonce : Nat) :
    Accepts context (newRow context dek password nonce) password dek where
  opens := by
    intro stored isSeal
    cases isSeal
    simp [openDekByViewingKey, innerSeal, sealDekByViewingKey, openDekByStoragePassword,
      Except.toOption]
  outcome := by
    simp [Keys.rowOutcome, openRow, Keys.newRow, Keys.checkSeal, openDekByViewingKey, innerSeal,
      sealDekByViewingKey, openDekByStoragePassword, Except.toOption]
  isSealed := rfl

/-- Without a password the server keys open the row. -/
theorem openRow_ring (isOpened : openRow context row none = .ok opened) :
    unwrapDek context row.wrappedDek = .ok opened.dek := by
  simp only [openRow, Keys.checkSeal] at isOpened
  split at isOpened
  · cases isOpened
  · cases viaRing : unwrapDek context row.wrappedDek with
    | error error => simp [viaRing, Except.toOption] at isOpened
    | ok dek =>
      simp only [viaRing, Except.toOption] at isOpened
      cases isOpened
      rfl

/-- An update that cannot be made is no verdict on the password. -/
theorem rewrapRow_failure {failure : DekFailure}
    (failed : rewrapRow context row opened storagePassword nonce = .error failure) :
    failure = .error := by
  cases failure with
  | error => rfl
  | unavailable =>
    simp only [rewrapRow] at failed
    split at failed
    next failedDek =>
      cases failed
      simp only [rewrapDek] at failedDek
      split at failedDek
      · cases failedDek
      · split at failedDek <;> cases failedDek
    · split at failed
      next failedSeal =>
        cases failed
        simp only [rewrapSeal] at failedSeal
        repeat' split at failedSeal
        all_goals cases failedSeal
      · cases failed

theorem rewrapRow_fits (holds : Holds context row opened.dek)
    (isSealed : storagePassword.isSome → row.wrappedDekByViewingKey.isSome)
    (isPatch : rewrapRow context row opened storagePassword nonce = .ok patch) :
    PatchFits context row patch := by
  simp only [rewrapRow] at isPatch
  cases isDek : rewrapDek context row opened nonce with
  | error failure => simp [isDek] at isPatch
  | ok wrapped =>
  cases isResealed : rewrapSeal context row opened storagePassword nonce with
  | error failure => simp [isDek, isResealed] at isPatch
  | ok resealed =>
  simp only [isDek, isResealed, Except.ok.injEq] at isPatch
  subst isPatch
  refine ⟨?_, ?_⟩
  · intro next isNext
    simp only [rewrapDek] at isDek
    split at isDek
    · cases isDek
    · split at isDek
      · cases isDek
        cases isNext
        exact ⟨opened.dek, unwrapDek_wrapDek context opened.dek nonce, holds⟩
      · cases isDek
        cases isNext
  · intro next isNext
    simp only [rewrapSeal] at isResealed
    split at isResealed
    next missing =>
      cases storagePassword with
      | none =>
        cases isResealed
        cases isNext
      | some password => simp [missing] at isSealed
    next sealed isStored =>
      cases isResealed
      cases isNext
      exact ⟨_, isStored, sealed, rfl, decrypt_encrypt _ context.acceptUnbound _ _ _⟩
    next envelope isStored =>
      split at isResealed
      · cases isResealed
        cases isNext
      · split at isResealed
        · cases isResealed
        · split at isResealed
          · cases isResealed
            cases isNext
          · split at isResealed
            next sealed inner =>
              cases isResealed
              cases isNext
              exact ⟨_, isStored, sealed, inner, decrypt_encrypt _ context.acceptUnbound _ _ _⟩
            · cases isResealed

end Rows

end Nightgate.Keys
