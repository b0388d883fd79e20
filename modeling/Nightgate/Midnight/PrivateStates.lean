import Nightgate.Library.JsObjects
import Nightgate.Library.Programs
import Nightgate.Library.Utf16
import Mathlib.Data.List.AList

/-!
# The store of private states

A contract's private state is a database row, encrypted with the password of its account, and so
is the signing key of a contract. A row of an earlier password is read with that password and
saved again with the current one, so a reader writes too. Every call runs its statements one at a
time, between those of other providers: the row a reader saves again may have been written since
it read it, and the row a set updates may be gone.
-/

namespace Nightgate.Midnight

open Library

namespace PrivateStates

/-- `privateStateStableSalt`, or another salt. -/
inductive Salt where
  | stable (accountId password : String)
  | random (serial : Nat)
  deriving DecidableEq

/-- An encrypted state: the salt written beside it, the password it was encrypted with, and the
JSON text. A signing key is encrypted as it is. -/
structure Ciphertext where
  salt : Salt
  password : String
  json : String

/-- The rows that are listed together. -/
inductive Shelf where
  /-- Of `midnight.PrivateStates`. -/
  | privateStates (accountId contractAddress : String)
  /-- Of `midnight.ContractSigningKeys`. -/
  | signingKeys (accountId : String)
  deriving DecidableEq

/-- The key of a row. Its name is the `privateStateId`, or the `contractAddress` of a signing
key. -/
structure StateKey where
  shelf : Shelf
  name : String
  deriving DecidableEq

/-- `midnight.PrivateStates` and `midnight.ContractSigningKeys`. -/
abbrev Rows := AList fun _ : StateKey => Ciphertext

/-- The least length of a password, in code units. -/
def minPasswordLength : Nat := 16

def tooShort (password : String) : Bool :=
  (CodeUnits.ofString password).length < minPasswordLength

/-- A provider that has a contract address and a password that `getStoragePassword` accepts. -/
structure Provider where
  accountId : String
  /-- `currentContractAddress`. -/
  contractAddress : String
  /-- `privateStoragePasswordProvider`. -/
  password : String
  /-- `privateStoragePasswordFallbacks`. -/
  fallbacks : List String
  longEnough : tooShort password = false

namespace Provider

def privateStates (provider : Provider) : Shelf :=
  .privateStates provider.accountId provider.contractAddress

def signingKeys (provider : Provider) : Shelf :=
  .signingKeys provider.accountId

def key (provider : Provider) (privateStateId : String) : StateKey :=
  ⟨provider.privateStates, privateStateId⟩

def deriveStableSalt (provider : Provider) (password : String) : Salt :=
  .stable provider.accountId password

/-- `StorageEncryption.encrypt`, under the current password. -/
def encrypt (provider : Provider) (json : String) : Ciphertext :=
  ⟨provider.deriveStableSalt provider.password, provider.password, json⟩

/-- `decryptWithPassword`. -/
def decryptWithPassword (ciphertext : Ciphertext) (password : String) : Option String :=
  if ciphertext.password = password then some ciphertext.json else none

/-- `StorageEncryption.decrypt`: the salt must be the current one. -/
def decrypt (provider : Provider) (ciphertext : Ciphertext) : Option String :=
  if ciphertext.salt = provider.deriveStableSalt provider.password then
    decryptWithPassword ciphertext provider.password
  else none

end Provider

/-! ## Statements -/

/-- On whose behalf a row is written: a set or an import stores a state, a reader saves again
the one it read. -/
inductive Purpose where
  | store
  | rewrite
  deriving DecidableEq

inductive Statement where
  /-- The `SELECT` of a get. -/
  | read (key : StateKey)
  /-- The `SELECT` of an export. -/
  | readAll (shelf : Shelf)
  /-- The `SELECT` of an upsert. -/
  | lookUp (key : StateKey)
  | update (key : StateKey) (ciphertext : Ciphertext) (purpose : Purpose)
  /-- An `INSERT`, answered by whether the key was free. -/
  | insert (key : StateKey) (ciphertext : Ciphertext) (purpose : Purpose)
  | delete (key : StateKey)
  /-- The `DELETE` of a clear. -/
  | deleteAll (shelf : Shelf)

abbrev Statement.Reply : Statement → Type
  | read _ => Option Ciphertext
  | readAll _ => List (String × Ciphertext)
  | lookUp _ => Bool
  | update _ _ _ => Unit
  | insert _ _ _ => Bool
  | delete _ => Unit
  | deleteAll _ => Unit

/-- The key is one of the shelf's. -/
def StateKey.isOf (shelf : Shelf) (key : StateKey) : Bool :=
  key.shelf = shelf

def Rows.filter (keep : StateKey → Bool) (rows : Rows) : Rows where
  entries := rows.entries.filter fun row => keep row.1
  nodupKeys := rows.nodupKeys.sublist List.filter_sublist

def execute (rows : Rows) : (statement : Statement) → Rows × statement.Reply
  | .read key => (rows, rows.lookup key)
  | .readAll shelf =>
    (rows, (rows.filter (StateKey.isOf shelf)).entries.map fun row => (row.1.name, row.2))
  | .lookUp key => (rows, (rows.lookup key).isSome)
  | .update key ciphertext _ =>
    (if (rows.lookup key).isSome then rows.insert key ciphertext else rows, ())
  | .insert key ciphertext _ =>
    if (rows.lookup key).isSome then (rows, false) else (rows.insert key ciphertext, true)
  | .delete key => (rows.erase key, ())
  | .deleteAll shelf => (rows.filter fun key => !key.isOf shelf, ())

/-- What an export holds: `states` and `stateCount`, or `keys` and `keyCount`. -/
structure ExportPayload where
  version : Nat
  count : Nat
  entries : JsObject String
  deriving DecidableEq

/-- `SALT_LENGTH` bytes in hexadecimal digits. -/
def isSaltHex (salt : String) : Bool :=
  salt.length = 64 && salt.toList.all fun c =>
    ('0' ≤ c && c ≤ '9') || ('a' ≤ c && c ≤ 'f') || ('A' ≤ c && c ≤ 'F')

/-- The salt of a new `StorageEncryption`, written in hexadecimal digits. -/
structure RandomSalt where
  hex : String
  isHex : isSaltHex hex = true

/-- `PrivateStateExport` or `SigningKeyExport`. -/
structure SealedExport where
  format : String
  /-- The password that opens `encryptedPayload`, and what it opens to; none if the text is empty.
  A text that opens to nothing of this form is as one under another password. -/
  encryptedPayload : Option (String × ExportPayload)
  salt : String
  deriving DecidableEq

structure ExportOptions where
  password : Option String
  /-- `maxStates` or `maxKeys`. -/
  maxEntries : Option Nat

inductive ConflictStrategy where
  | skip
  | overwrite
  | error
  deriving DecidableEq

structure ImportOptions where
  password : Option String
  conflictStrategy : Option ConflictStrategy
  /-- `maxStates` or `maxKeys`. -/
  maxEntries : Option Nat

/-- `ImportPrivateStatesResult` or `ImportSigningKeysResult`. -/
structure ImportResult where
  imported : Nat
  skipped : Nat
  overwritten : Nat

inductive ProviderError where
  /-- The error of `StorageEncryption.decrypt`. -/
  | unreadable
  | duplicateKey
  /-- The error of `validateExportPassword`. -/
  | exportPassword
  /-- `ExportDecryptionError`. -/
  | exportDecryption
  /-- `InvalidExportFormatError`. -/
  | invalidExportFormat (message : String)
  /-- `ImportConflictError`. -/
  | importConflict (conflictCount : Nat)
  deriving DecidableEq

/-- `MAX_EXPORT_STATES` and `MAX_EXPORT_SIGNING_KEYS`. -/
def maxExportEntries : Nat := 10000

/-- `CURRENT_EXPORT_VERSION`. -/
def currentExportVersion : Nat := 1

/-- `SUPPORTED_EXPORT_VERSIONS`. -/
def supportedExportVersions : List Nat := [1]

namespace Shelf

/-- `PRIVATE_STATE_EXPORT_FORMAT` or `SIGNING_KEY_EXPORT_FORMAT`. -/
def exportFormat : Shelf → String
  | privateStates _ _ => "midnight-private-state-export"
  | signingKeys _ => "midnight-signing-key-export"

/-- How an export names its entries in an error. -/
def exportNoun : Shelf → String
  | privateStates _ _ => "states"
  | signingKeys _ => "signing keys"

/-- How an import names its entries in an error. -/
def importNoun : Shelf → String
  | privateStates _ _ => "states"
  | signingKeys _ => "keys"

/-- The count that an export states: `stateCount` is that of the rows, `keyCount` that of the
keys of the object. -/
def statedCount (rows : List (String × Ciphertext)) (entries : JsObject String) : Shelf → Nat
  | privateStates _ _ => rows.length
  | signingKeys _ => entries.size

/-- `existing !== null`: a stored state may be JSON's null. -/
def isConflict (existing : Option String) : Shelf → Bool
  | privateStates _ _ => existing.any fun json => json ≠ "null"
  | signingKeys _ => existing.isSome

end Shelf

/-- `sealExport`. -/
def sealExport (format : String) (payload : ExportPayload) (password : String) (salt : RandomSalt) :
    Except ProviderError SealedExport :=
  if tooShort password then .error .exportPassword
  else .ok ⟨format, some (password, payload), salt.hex⟩

/-! ## Calls -/

abbrev Steps := Program Statement Statement.Reply ProviderError

/-- `db.run`. -/
abbrev perform (statement : Statement) : Steps statement.Reply :=
  Program.perform statement

/-- `upsertPrivateState` and `upsertSigningKey`. -/
def upsert (key : StateKey) (ciphertext : Ciphertext) (purpose : Purpose) : Steps Unit := do
  let existing ← perform (.lookUp key)
  if existing then perform (.update key ciphertext purpose)
  else
    let accepted ← perform (.insert key ciphertext purpose)
    if accepted then pure () else .fail .duplicateKey

namespace Provider

variable (provider : Provider)

def decryptStored (ciphertext : Ciphertext) (rewrite : Ciphertext → Steps Unit) : Steps String :=
  match provider.decrypt ciphertext with
  | some json => pure json
  | none =>
    match provider.fallbacks.find? fun password =>
        provider.deriveStableSalt password = ciphertext.salt with
    | none => .fail .unreadable
    | some password =>
      match decryptWithPassword ciphertext password with
      | none => .fail .unreadable
      | some json => do
          -- an error of the rewrite is swallowed: the next read rewrites
          Program.attempt (rewrite (provider.encrypt json))
          pure json

def storeEntry (key : StateKey) (json : String) : Steps Unit :=
  upsert key (provider.encrypt json) .store

def readEntry (key : StateKey) : Steps (Option String) := do
  let row ← perform (.read key)
  match row with
  | none => pure none
  | some ciphertext =>
    let json ← provider.decryptStored ciphertext fun fresh => upsert key fresh .rewrite
    pure (some json)

def set (privateStateId json : String) : Steps Unit :=
  provider.storeEntry (provider.key privateStateId) json

def get (privateStateId : String) : Steps (Option String) :=
  provider.readEntry (provider.key privateStateId)

def remove (privateStateId : String) : Steps Unit :=
  perform (.delete (provider.key privateStateId))

def clear : Steps Unit :=
  perform (.deleteAll provider.privateStates)

def setSigningKey (address signingKey : String) : Steps Unit :=
  provider.storeEntry ⟨provider.signingKeys, address⟩ signingKey

def getSigningKey (address : String) : Steps (Option String) :=
  provider.readEntry ⟨provider.signingKeys, address⟩

def removeSigningKey (address : String) : Steps Unit :=
  perform (.delete ⟨provider.signingKeys, address⟩)

def clearSigningKeys : Steps Unit :=
  perform (.deleteAll provider.signingKeys)

/-- The read of one row of an export. -/
def exportRow (shelf : Shelf) (entries : JsObject String) (row : String × Ciphertext) :
    Steps (JsObject String) := do
  let json ← provider.decryptStored row.2 fun fresh => upsert ⟨shelf, row.1⟩ fresh .rewrite
  pure (entries.assign row.1 json)

def exportEntries (shelf : Shelf) (options : ExportOptions) (salt : RandomSalt) :
    Steps SealedExport := do
  let maxEntries := options.maxEntries.getD maxExportEntries
  let rows ← perform (.readAll shelf)
  if maxEntries < rows.length then
    .fail (.invalidExportFormat
      s!"Too many {shelf.exportNoun} to export ({rows.length}). Maximum allowed: {maxEntries}")
  else
    let entries ← rows.foldlM (provider.exportRow shelf) .empty
    let payload := ⟨currentExportVersion, shelf.statedCount rows entries, entries⟩
    match sealExport shelf.exportFormat payload (options.password.getD provider.password) salt with
    | .ok exportData => pure exportData
    | .error error => .fail error

def exportPrivateStates (options : ExportOptions) (salt : RandomSalt) : Steps SealedExport :=
  provider.exportEntries provider.privateStates options salt

def exportSigningKeys (options : ExportOptions) (salt : RandomSalt) : Steps SealedExport :=
  provider.exportEntries provider.signingKeys options salt

/-- The checks of an import, before it reads the store. -/
def openExport (shelf : Shelf) (exportData : SealedExport) (options : ImportOptions) :
    Except ProviderError (List (String × String)) :=
  let maxEntries := options.maxEntries.getD maxExportEntries
  if exportData.format ≠ shelf.exportFormat then
    .error (.invalidExportFormat "Unrecognized export format")
  else
    match exportData.encryptedPayload with
    | none => .error (.invalidExportFormat "Missing required fields")
    | some (sealedWith, payload) =>
      if exportData.salt = "" then .error (.invalidExportFormat "Missing required fields")
      else if !isSaltHex exportData.salt then .error (.invalidExportFormat "Invalid salt format")
      else if options.password.any tooShort then .error .exportPassword
      else if sealedWith ≠ options.password.getD provider.password then .error .exportDecryption
      else if payload.version ∉ supportedExportVersions then
        .error (.invalidExportFormat (s!"Export version {payload.version} is not supported. " ++
          "Supported versions: " ++ ", ".intercalate (supportedExportVersions.map toString)))
      else if payload.entries.size ≠ payload.count then .error .exportDecryption
      else if maxEntries < payload.entries.size then
        .error (.invalidExportFormat (s!"Too many {shelf.importNoun} in export " ++
          s!"({payload.entries.size}). Maximum allowed: {maxEntries}"))
      else .ok payload.entries.ownEntries

/-- The count of an entry that is there already. -/
def countConflict (shelf : Shelf) (conflictCount : Nat) (entry : String × String) : Steps Nat := do
  let existing ← provider.readEntry ⟨shelf, entry.1⟩
  pure (if shelf.isConflict existing then conflictCount + 1 else conflictCount)

def importEntry (shelf : Shelf) (conflictStrategy : ConflictStrategy) (counts : ImportResult)
    (entry : String × String) : Steps ImportResult := do
  let existing ← provider.readEntry ⟨shelf, entry.1⟩
  if shelf.isConflict existing && conflictStrategy = .skip then
    pure { counts with skipped := counts.skipped + 1 }
  else
    provider.storeEntry ⟨shelf, entry.1⟩ entry.2
    if shelf.isConflict existing then pure { counts with overwritten := counts.overwritten + 1 }
    else pure { counts with imported := counts.imported + 1 }

/-- The check that the strategy `error` makes before the import. -/
def refuseConflicts (shelf : Shelf) (conflictStrategy : ConflictStrategy)
    (entries : List (String × String)) : Steps Unit :=
  if conflictStrategy = .error then do
    let conflictCount ← entries.foldlM (provider.countConflict shelf) 0
    if 0 < conflictCount then .fail (.importConflict conflictCount) else pure ()
  else pure ()

def importEntries (shelf : Shelf) (exportData : SealedExport) (options : ImportOptions) :
    Steps ImportResult :=
  let conflictStrategy := options.conflictStrategy.getD .error
  match provider.openExport shelf exportData options with
  | .error error => .fail error
  | .ok entries => do
      provider.refuseConflicts shelf conflictStrategy entries
      entries.foldlM (provider.importEntry shelf conflictStrategy) ⟨0, 0, 0⟩

def importPrivateStates (exportData : SealedExport) (options : ImportOptions) :
    Steps ImportResult :=
  provider.importEntries provider.privateStates exportData options

def importSigningKeys (exportData : SealedExport) (options : ImportOptions) :
    Steps ImportResult :=
  provider.importEntries provider.signingKeys exportData options

end Provider

inductive ProviderCall where
  | set (privateStateId json : String)
  | get (privateStateId : String)
  | remove (privateStateId : String)
  | clear
  | setSigningKey (address signingKey : String)
  | getSigningKey (address : String)
  | removeSigningKey (address : String)
  | clearSigningKeys
  | exportPrivateStates (options : ExportOptions) (salt : RandomSalt)
  | importPrivateStates (exportData : SealedExport) (options : ImportOptions)
  | exportSigningKeys (options : ExportOptions) (salt : RandomSalt)
  | importSigningKeys (exportData : SealedExport) (options : ImportOptions)

inductive Answer where
  | done
  | entry (json : Option String)
  | exported (exportData : SealedExport)
  | imported (counts : ImportResult)

/-- A call on a provider. -/
structure Request where
  provider : Provider
  call : ProviderCall

def Request.program (request : Request) : Steps Answer :=
  match request.call with
  | .set privateStateId json => do
      request.provider.set privateStateId json
      pure .done
  | .get privateStateId => do
      let json ← request.provider.get privateStateId
      pure (.entry json)
  | .remove privateStateId => do
      request.provider.remove privateStateId
      pure .done
  | .clear => do
      request.provider.clear
      pure .done
  | .setSigningKey address signingKey => do
      request.provider.setSigningKey address signingKey
      pure .done
  | .getSigningKey address => do
      let signingKey ← request.provider.getSigningKey address
      pure (.entry signingKey)
  | .removeSigningKey address => do
      request.provider.removeSigningKey address
      pure .done
  | .clearSigningKeys => do
      request.provider.clearSigningKeys
      pure .done
  | .exportPrivateStates options salt => do
      let exportData ← request.provider.exportPrivateStates options salt
      pure (.exported exportData)
  | .importPrivateStates exportData options => do
      let counts ← request.provider.importPrivateStates exportData options
      pure (.imported counts)
  | .exportSigningKeys options salt => do
      let exportData ← request.provider.exportSigningKeys options salt
      pure (.exported exportData)
  | .importSigningKeys exportData options => do
      let counts ← request.provider.importSigningKeys exportData options
      pure (.imported counts)

abbrev Store := Calls Rows Statement Statement.Reply ProviderError Answer

abbrev History := List (Executed Statement Statement.Reply)

def Store.step (s : Store) (event : CallEvent Request) : Store :=
  Calls.step execute Request.program s event

/-- The stored state of a key. -/
def stored (rows : Rows) (key : StateKey) : Option String :=
  (rows.lookup key).map Ciphertext.json

/-- What a statement of a set, an import, a remove or a clear makes of the state of a key. A
rewrite makes nothing of it, and neither does an `INSERT` that was refused. -/
def Statement.writes : (statement : Statement) → statement.Reply → StateKey → Option (Option String)
  | .update key ciphertext .store, _, other =>
    if other = key then some (some ciphertext.json) else none
  | .insert key ciphertext .store, accepted, other =>
    if accepted ∧ other = key then some (some ciphertext.json) else none
  | .delete key, _, other => if other = key then some none else none
  | .deleteAll shelf, _, other => if other.isOf shelf then some none else none
  | _, _, _ => none

/-- The statement reads the row of the key for a get or an export. -/
def Statement.reads (key : StateKey) : Statement → Bool
  | .read other => key = other
  | .readAll shelf => key.isOf shelf
  | _ => false

/-- What the last completed set, import, remove or clear made of a key, if there was one. -/
def lastWrite (history : History) (key : StateKey) : Option (Option String) :=
  history.findSome? fun entry => entry.statement.writes entry.reply key

/-- The same, since the caller last read the row. -/
def lastWriteSinceRead (caller : Nat) (history : History) (key : StateKey) :
    Option (Option String) :=
  lastWrite (history.takeWhile fun entry =>
    !(entry.caller = caller && entry.statement.reads key)) key

/-- The stored states are those of the last completed writes, over those there were first. -/
def Linearised (initial rows : Rows) (history : History) : Prop :=
  ∀ key, stored rows key = (lastWrite history key).getD (stored initial key)

/-- The `UPDATE` of a set or an import finds the row that was looked up. A row that a reader
saves again still holds the state that was read: since then, no other was written. -/
def Undisturbed (caller : Nat) : Statement → Rows → History → Prop
  | .update key _ .store, rows, _ => (rows.lookup key).isSome
  | .update key ciphertext .rewrite, rows, history =>
    (rows.lookup key).isSome →
      (lastWriteSinceRead caller history key).getD (some ciphertext.json) = some ciphertext.json
  | .insert key ciphertext .rewrite, rows, history =>
    (rows.lookup key).isNone →
      (lastWriteSinceRead caller history key).getD (some ciphertext.json) = some ciphertext.json
  | _, _, _ => True

instance (caller : Nat) (statement : Statement) (rows : Rows) (history : History) :
    Decidable (Undisturbed caller statement rows history) := by
  cases statement with
  | update key ciphertext purpose => cases purpose <;> unfold Undisturbed <;> infer_instance
  | insert key ciphertext purpose => cases purpose <;> unfold Undisturbed <;> infer_instance
  | _ => exact isTrue trivial

/-! ## What one statement does -/

section Statements

variable {initial rows : Rows} {history : History} {caller : Nat} {key : StateKey}

theorem lookup_filter {keep : StateKey → Bool} :
    (rows.filter keep).lookup key = if keep key then rows.lookup key else none := by
  apply Option.ext
  intro ciphertext
  rw [← Option.mem_def, AList.mem_lookup_iff]
  simp only [Rows.filter, List.mem_filter]
  split
  next kept => simp only [kept, and_true, ← AList.mem_lookup_iff, Option.mem_def]
  next dropped => simp [dropped]

theorem stored_insert {ciphertext : Ciphertext} {other : StateKey} :
    stored (rows.insert key ciphertext) other =
      if other = key then some ciphertext.json else stored rows other := by
  unfold stored
  split
  next same =>
    subst same
    rw [AList.lookup_insert, Option.map_some]
  next different => rw [AList.lookup_insert_ne different]

theorem stored_eq_none : stored rows key = none ↔ (rows.lookup key).isSome = false := by
  simp [stored]

/-- Saving the state again changes nothing exactly if it is the state that is stored. -/
theorem same_after_rewrite {json : String} {last : Option (Option String)}
    (seen : stored rows key = last.getD (some json)) :
    (∀ other, (if other = key then some json else stored rows other) = stored rows other) ↔
      last.getD (some json) = some json := by
  constructor
  · intro same
    have here := same key
    rw [if_pos rfl] at here
    rw [← seen, here]
  · intro current other
    split
    next own => rw [own, seen, current]
    · rfl

/-- Under a reader that has read the row as it was then, the statements that leave every stored
state alone, but for those of completed writes, are the undisturbed ones. -/
theorem stored_execute {statement : Statement}
    (reread : ∀ key ciphertext,
      statement = .update key ciphertext .rewrite ∨ statement = .insert key ciphertext .rewrite →
        stored rows key = (lastWriteSinceRead caller history key).getD (some ciphertext.json)) :
    (∀ key, stored (execute rows statement).1 key =
      (statement.writes (execute rows statement).2 key).getD (stored rows key)) ↔
        Undisturbed caller statement rows history := by
  cases statement with
  | read | readAll | lookUp => exact ⟨fun _ => True.intro, fun _ _ => rfl⟩
  | update key ciphertext purpose =>
    cases purpose with
    | store =>
      simp only [execute, Statement.writes, Undisturbed]
      constructor
      · intro same
        have here := same key
        by_contra gone
        rw [if_neg gone, if_pos rfl, Option.getD_some] at here
        rw [stored_eq_none.mpr (Bool.eq_false_iff.mpr gone)] at here
        cases here
      · intro found other
        rw [if_pos found, stored_insert]
        split <;> rfl
    | rewrite =>
      have seen := reread key ciphertext (.inl rfl)
      simp only [execute, Statement.writes, Undisturbed, Option.getD_none]
      split
      next found =>
        simp only [stored_insert, found, true_implies]
        exact same_after_rewrite seen
      next gone => exact ⟨fun _ found => absurd found gone, fun _ _ => rfl⟩
  | insert key ciphertext purpose =>
    cases purpose with
    | store =>
      simp only [execute, Statement.writes, Undisturbed, iff_true]
      intro other
      split
      next found => simp
      next free =>
        rw [stored_insert]
        simp only [true_and]
        split <;> rfl
    | rewrite =>
      have seen := reread key ciphertext (.inr rfl)
      simp only [execute, Statement.writes, Undisturbed, Option.getD_none]
      split
      next found =>
        refine ⟨fun _ free => ?_, fun _ _ => rfl⟩
        rw [Option.isNone_iff_eq_none] at free
        simp [free] at found
      next free =>
        rw [Option.not_isSome_iff_eq_none] at free
        simp only [stored_insert, free, Option.isNone_none, true_implies]
        exact same_after_rewrite seen
  | delete key =>
    simp only [execute, Statement.writes, Undisturbed, iff_true]
    intro other
    unfold stored
    split
    next own => rw [own, AList.lookup_erase, Option.map_none, Option.getD_some]
    next different => rw [AList.lookup_erase_ne different, Option.getD_none]
  | deleteAll shelf =>
    simp only [execute, Statement.writes, Undisturbed, iff_true]
    intro other
    unfold stored
    rw [lookup_filter]
    cases other.isOf shelf with
    | true | false => rfl

end Statements

/-- The states that a caller last read of a row. -/
abbrev Readings := StateKey → String → Prop

/-- Only a state that was read is saved again. -/
def Permits (readings : Readings) : Statement → Prop
  | .update key ciphertext .rewrite => readings key ciphertext.json
  | .insert key ciphertext .rewrite => readings key ciphertext.json
  | _ => True

def learn (readings : Readings) : (statement : Statement) → statement.Reply → Readings
  | .read key, row => fun other json =>
    if other = key then ∃ ciphertext ∈ row, ciphertext.json = json else readings other json
  | .readAll shelf, rows => fun other json =>
    if other.isOf shelf then
      ∃ row ∈ rows, row.1 = other.name ∧ row.2.json = json
    else readings other json
  | _, _ => readings

/-- A state that was read is the stored one, or it was written since. -/
def Fits (initial : Rows) (caller : Nat) (readings : Readings) (_ : Rows) (history : History) :
    Prop :=
  ∀ key json, readings key json → (lastWrite history key).getD (stored initial key) =
      (lastWriteSinceRead caller history key).getD (some json)

section Calls

variable {provider : Provider} {readings : Readings} {ciphertext : Ciphertext}

theorem upsert_keeps {key : StateKey} {purpose : Purpose}
    (permitted : purpose = .rewrite → readings key ciphertext.json) :
    (upsert key ciphertext purpose).Keeps Permits learn
      (fun later _ => later = readings) readings := by
  refine ⟨True.intro, ?_⟩
  intro existing
  cases existing with
  | true =>
    refine ⟨?_, fun _ => rfl⟩
    cases purpose with
    | store => exact True.intro
    | rewrite => exact permitted rfl
  | false =>
    refine ⟨?_, ?_⟩
    · cases purpose with
      | store => exact True.intro
      | rewrite => exact permitted rfl
    · intro accepted
      cases accepted <;> rfl

theorem json_of_decrypt {password json : String}
    (opened : Provider.decryptWithPassword ciphertext password = some json) :
    ciphertext.json = json := by
  unfold Provider.decryptWithPassword at opened
  split at opened
  · exact Option.some.inj opened
  · cases opened

/-- What is saved again is what was read. -/
theorem decryptStored_keeps {key : StateKey} (read : readings key ciphertext.json) :
    (provider.decryptStored ciphertext fun fresh =>
      upsert key fresh .rewrite).Keeps Permits learn
        (fun later _ => later = readings) readings := by
  unfold Provider.decryptStored
  split
  · rfl
  · split
    · rfl
    · split
      · rfl
      next json opened =>
        apply Program.Keeps.bind
        apply Program.Keeps.attempt
        apply (upsert_keeps _).imp
        · intro later result same
          exact same
        · intro _
          have same : (provider.encrypt json).json = ciphertext.json :=
            (json_of_decrypt opened).symm
          rw [same]
          exact read

theorem readEntry_keeps (key : StateKey) :
    (provider.readEntry key).Keeps Permits learn (fun _ _ => True) readings := by
  apply Program.Keeps.statement True.intro
  intro row
  cases row with
  | none => exact True.intro
  | some ciphertext =>
    apply (decryptStored_keeps _).then
    · intro json later
      exact True.intro
    · simp [learn]

/-- A row that an export has read may be saved again. -/
theorem learn_readAll {shelf : Shelf} {rows : List (String × Ciphertext)}
    {row : String × Ciphertext} (listed : row ∈ rows) :
    learn readings (.readAll shelf) rows ⟨shelf, row.1⟩ row.2.json := by
  have own : StateKey.isOf shelf ⟨shelf, row.1⟩ = true := by simp [StateKey.isOf]
  simp only [learn, own, if_true]
  exact ⟨row, listed, rfl, rfl⟩

theorem exportEntries_keeps (shelf : Shelf) (options : ExportOptions) (salt : RandomSalt) :
    (provider.exportEntries shelf options salt).Keeps Permits learn (fun _ _ => True)
      readings := by
  apply Program.Keeps.statement True.intro
  intro rows
  split
  · exact True.intro
  · apply (Program.Keeps.foldlM (fun later => later = learn readings (.readAll shelf) rows) _ _
        rfl).then
    · intro entries later
      dsimp only
      split <;> exact True.intro
    · intro entries row listed later same
      subst same
      apply Program.Keeps.bind
      apply (decryptStored_keeps (learn_readAll listed)).imp
      intro later result same
      cases result <;> exact same

theorem storeEntry_keeps {key : StateKey} {json : String} :
    (provider.storeEntry key json).Keeps Permits learn (fun _ _ => True) readings := by
  apply (upsert_keeps _).trivial
  intro impossible
  cases impossible

theorem refuseConflicts_keeps (shelf : Shelf) (conflictStrategy : ConflictStrategy)
    (entries : List (String × String)) :
    (provider.refuseConflicts shelf conflictStrategy entries).Keeps Permits learn
      (fun _ _ => True) readings := by
  unfold Provider.refuseConflicts
  split
  · apply (Program.Keeps.foldlM (fun _ => True) _ 0 True.intro).then
    · intro conflictCount later
      split <;> exact True.intro
    · intro conflictCount entry _ later _
      apply (readEntry_keeps _).then
      intro existing later
      exact True.intro
  · exact True.intro

theorem importEntry_keeps (shelf : Shelf) (conflictStrategy : ConflictStrategy)
    (counts : ImportResult) (entry : String × String) :
    (provider.importEntry shelf conflictStrategy counts entry).Keeps Permits learn
      (fun _ _ => True) readings := by
  apply (readEntry_keeps _).then
  intro existing later
  split
  · exact True.intro
  · apply storeEntry_keeps.then
    intro _ later
    split <;> exact True.intro

theorem importEntries_keeps (shelf : Shelf) (exportData : SealedExport) (options : ImportOptions) :
    (provider.importEntries shelf exportData options).Keeps Permits learn (fun _ _ => True)
      readings := by
  simp only [Provider.importEntries]
  split
  · exact True.intro
  next entries _ =>
    apply (refuseConflicts_keeps shelf _ entries).then
    intro _ later
    apply Program.Keeps.foldlM (fun _ => True) _ _ True.intro
    intro counts entry _ later _
    exact importEntry_keeps shelf _ counts entry

/-- No call saves a state again that it has not read. -/
theorem program_keeps (request : Request) :
    request.program.Keeps Permits learn (fun _ _ => True) readings := by
  have finished : ∀ {Value : Type} (answer : Value → Answer) (value : Value) (later : Readings),
      (pure (answer value) : Steps Answer).Keeps Permits learn (fun _ _ => True) later :=
    fun _ _ _ => True.intro
  rcases request with ⟨provider, call⟩
  cases call with
  | set | setSigningKey =>
    exact storeEntry_keeps.then fun value later => finished (fun _ => .done) value later
  | get | getSigningKey => exact (readEntry_keeps _).then (finished .entry)
  | remove | clear => exact Program.Keeps.statement True.intro fun _ => True.intro
  | removeSigningKey | clearSigningKeys =>
    exact Program.Keeps.statement True.intro fun _ => True.intro
  | exportPrivateStates options salt =>
    exact (exportEntries_keeps _ options salt).then (finished .exported)
  | importPrivateStates exportData options =>
    exact (importEntries_keeps _ exportData options).then (finished .imported)
  | exportSigningKeys options salt =>
    exact (exportEntries_keeps _ options salt).then (finished .exported)
  | importSigningKeys exportData options =>
    exact (importEntries_keeps _ exportData options).then (finished .imported)

end Calls

/-! ## Every interleaving -/

section Runs

variable {initial rows : Rows} {history : History} {caller : Nat} {readings : Readings}

theorem lastWrite_cons (entry : Executed Statement Statement.Reply) (key : StateKey) :
    lastWrite (entry :: history) key =
      (entry.statement.writes entry.reply key).or (lastWrite history key) := by
  unfold lastWrite
  rw [List.findSome?_cons]
  cases entry.statement.writes entry.reply key <;> rfl

variable {entry : Executed Statement Statement.Reply} {key : StateKey}

/-- Unless the caller reads the row now, its readings grow old by what is written. -/
theorem lastWriteSinceRead_cons (notRead : ¬ (entry.caller = caller ∧ entry.statement.reads key)) :
    lastWriteSinceRead caller (entry :: history) key =
      (entry.statement.writes entry.reply key).or (lastWriteSinceRead caller history key) := by
  have kept : (!(entry.caller = caller && entry.statement.reads key)) = true := by
    rw [Bool.not_eq_true', Bool.eq_false_iff]
    simpa using notRead
  unfold lastWriteSinceRead
  rw [List.takeWhile_cons, if_pos kept, lastWrite_cons]

theorem lastWriteSinceRead_read (read : entry.caller = caller ∧ entry.statement.reads key) :
    lastWriteSinceRead caller (entry :: history) key = none := by
  unfold lastWriteSinceRead
  rw [List.takeWhile_cons, if_neg (by simp [read])]
  rfl

/-- A reading stays fitting under every statement that is not its own next one. -/
theorem fits_cons {json : String} (fit : (lastWrite history key).getD (stored initial key) =
      (lastWriteSinceRead caller history key).getD (some json))
    (notRead : ¬ (entry.caller = caller ∧ entry.statement.reads key)) :
    (lastWrite (entry :: history) key).getD (stored initial key) =
      (lastWriteSinceRead caller (entry :: history) key).getD (some json) := by
  rw [lastWrite_cons, lastWriteSinceRead_cons notRead]
  cases entry.statement.writes entry.reply key with
  | none => exact fit
  | some write => rfl

/-- A row that is read now is the stored one. -/
theorem fits_read {json : String} (linearised : Linearised initial rows history)
    (read : entry.caller = caller ∧ entry.statement.reads key)
    (writesNothing : entry.statement.writes entry.reply key = none)
    (isStored : stored rows key = some json) :
    (lastWrite (entry :: history) key).getD (stored initial key) =
      (lastWriteSinceRead caller (entry :: history) key).getD (some json) := by
  rw [lastWrite_cons, writesNothing, Option.none_or, ← linearised key, isStored,
    lastWriteSinceRead_read read, Option.getD_none]

theorem mem_readAll {shelf : Shelf} {row : String × Ciphertext}
    (own : key.isOf shelf) (listed : row ∈ (execute rows (.readAll shelf)).2)
    (same : row.1 = key.name) : rows.lookup key = some row.2 := by
  simp only [execute, List.mem_map] at listed
  rcases listed with ⟨entry, listed, rfl⟩
  rw [Rows.filter] at listed
  rcases List.mem_filter.mp listed with ⟨isEntry, isOwn⟩
  have sameKey : entry.1 = key := by
    simp only [StateKey.isOf, decide_eq_true_eq] at own isOwn
    rcases key with ⟨keyShelf, name⟩
    rcases entry with ⟨⟨entryShelf, entryName⟩, ciphertext⟩
    simp_all
  subst sameKey
  exact AList.mem_lookup_iff.mpr isEntry

theorem learn_fits (statement : Statement) (linearised : Linearised initial rows history)
    (fit : Fits initial caller readings rows history) :
    Fits initial caller (learn readings statement (execute rows statement).2)
      (execute rows statement).1 (⟨caller, statement, (execute rows statement).2⟩ :: history) := by
  intro key json read
  cases statement with
  | read other =>
    simp only [learn] at read
    split at read
    next same =>
      subst same
      rcases read with ⟨ciphertext, isRow, rfl⟩
      apply fits_read linearised ⟨rfl, by simp [Statement.reads]⟩ rfl
      have found : rows.lookup key = some ciphertext := isRow
      rw [stored, found, Option.map_some]
    next different =>
      exact fits_cons (fit key json read) fun isRead => different (by
        simpa [Statement.reads] using isRead.2)
  | readAll shelf =>
    simp only [learn] at read
    split at read
    next own =>
      rcases read with ⟨row, listed, same, rfl⟩
      have isRead : (Statement.readAll shelf).reads key := own
      apply fits_read linearised ⟨rfl, isRead⟩ rfl
      rw [stored, mem_readAll own listed same, Option.map_some]
    next other => exact fits_cons (fit key json read) fun isRead => other isRead.2
  | lookUp | delete => exact fits_cons (fit key json read) (by simp [Statement.reads])
  | update | insert | deleteAll =>
    exact fits_cons (fit key json read) (by simp [Statement.reads])

/-- A caller that is about to save a state again holds what was stored when it read it. -/
theorem reread_of_fits {statement : Statement} (linearised : Linearised initial rows history)
    (fit : Fits initial caller readings rows history) (permitted : Permits readings statement)
    (key : StateKey) (ciphertext : Ciphertext)
    (rewrites : statement = .update key ciphertext .rewrite ∨
      statement = .insert key ciphertext .rewrite) :
    stored rows key = (lastWriteSinceRead caller history key).getD (some ciphertext.json) := by
  have read : readings key ciphertext.json := by
    rcases rewrites with rfl | rfl
    · exact permitted
    · exact permitted
  rw [linearised key]
  exact fit key ciphertext.json read

/-- The law survives exactly the undisturbed statements. -/
theorem linearised_execute {statement : Statement} (linearised : Linearised initial rows history)
    (fit : Fits initial caller readings rows history) (permitted : Permits readings statement) :
    Linearised initial (execute rows statement).1
        (⟨caller, statement, (execute rows statement).2⟩ :: history) ↔
      Undisturbed caller statement rows history := by
  rw [← stored_execute (reread_of_fits linearised fit permitted)]
  apply forall_congr'
  intro key
  rw [lastWrite_cons, linearised key]
  cases statement.writes (execute rows statement).2 key <;> rfl

theorem careful (initial : Rows) :
    Calls.Careful execute Permits learn (Linearised initial) (Fits initial) Undisturbed where
  keeps caller statement rows history readings linearised fit permitted undisturbed :=
    (linearised_execute linearised fit permitted).mpr undisturbed
  learnt caller statement rows history readings linearised fit _ _ :=
    learn_fits statement linearised fit
  others caller statement rows history other readings _ different fit := by
    intro key json read
    exact fits_cons (fit key json read) fun isRead => different isRead.1.symm

theorem starts (initial : Rows) (caller : Nat) (request : Request) (rows : Rows)
    (history : History) :
    ∃ readings : Readings, request.program.Keeps Permits learn (fun _ _ => True) readings ∧
      Fits initial caller readings rows history := by
  refine ⟨fun _ _ => False, program_keeps request, ?_⟩
  intro key json impossible
  cases impossible

/-- Whatever rows there are first, and in every interleaving of calls of any providers: the
stored states are those of the last completed writes all along the way exactly if every
`UPDATE` of a set or an import finds its row, and no reader saves a state again that another
one was written over since it was read. -/
theorem stored_is_last_write (initial : Rows) (events : List (CallEvent Request)) :
    Along Store.step (Calls.Admits Undisturbed) (Calls.start initial) events ↔
      ∀ earlier, earlier <+: events →
        Linearised initial (run Store.step (Calls.start initial) earlier).store
          (run Store.step (Calls.start initial) earlier).history := by
  have initially : Linearised initial initial [] := fun key => rfl
  exact Calls.along_iff_law (careful initial)
    (fun caller statement rows history readings linearised fit permitted =>
      (linearised_execute linearised fit permitted).mp)
    (starts initial) initially events

/-- A provider of one account, whose password was another one before. -/
def rotated : Provider :=
  ⟨"account", "contract", "password of today", ["password of before"], by decide⟩

/-- The state that was stored under the password of before. -/
def rowOfBefore : Rows :=
  AList.singleton (rotated.key "state") ⟨.stable "account" "password of before",
    "password of before", "1"⟩

/-- A get reads the row, a set stores another state, and the get saves again what it read. -/
theorem get_undoes_set :
    ¬ ∀ (initial : Rows) (events : List (CallEvent Request)),
      Linearised initial (run Store.step (Calls.start initial) events).store
        (run Store.step (Calls.start initial) events).history := by
  intro always
  have law := always rowOfBefore [
    .start 1 ⟨rotated, .get "state"⟩, .proceed 1,
    .start 2 ⟨rotated, .set "state" "2"⟩, .proceed 2, .proceed 2,
    .proceed 1, .proceed 1] (rotated.key "state")
  revert law
  decide +kernel

end Runs

end PrivateStates

end Nightgate.Midnight
