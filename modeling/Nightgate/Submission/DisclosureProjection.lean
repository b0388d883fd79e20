import Nightgate.Library.Machine
import Nightgate.Library.Table

/-!
# The disclosure projection

A row of the grants table says what the chain has granted, and carries the height of the block of
its last applied change. Four writers keep it: the executor and the reconciliation confirm a
change, a reindex copies the state of the contract at a height, or the latest state the indexer
has if no height is known, and a request keeps the level it asks for. All but the request compare
heights, or match on the height they have read; a reindex without a height has none to compare.
-/

namespace Nightgate.Submission

open Library

/-- What a grant is found by. -/
structure GrantRef where
  contractAddress : String
  attesterId : String
  payloadHash : String
  grantee : String
  deriving DecidableEq

/-- `midnight.DisclosureGrants`. -/
structure DisclosureGrant where
  ID : Nat
  grant : GrantRef
  level : Nat
  pendingLevel : Option Nat
  grantedTxHash : Option String
  revokedTxHash : Option String
  active : Bool
  /-- Block of the last applied change. -/
  changedAtHeight : Option Nat
  modifiedAt : Nat

instance : Keyed DisclosureGrant where
  key := DisclosureGrant.ID

abbrev DisclosureGrants := Table DisclosureGrant

structure DisclosureGrantRecord where
  attesterId : String
  payloadHash : String
  grantee : String
  level : Nat

/-- The grant that a record of a contract's state is about. -/
def DisclosureGrantRecord.ref (record : DisclosureGrantRecord) (contractAddress : String) :
    GrantRef :=
  ⟨contractAddress, record.attesterId, record.payloadHash, record.grantee⟩

/-- The grants of a contract at a block height, none where it has no state. -/
abbrev Chain := String → Nat → Option (List DisclosureGrantRecord)

/-- A change that the chain has taken. -/
inductive LandedChange where
  | grantDisclosure (disclosureGrantId level : Nat)
  | revokeDisclosure (grant : GrantRef)
  /-- Mode 0, which removes the grants of the attestation. -/
  | retract (contractAddress attesterId key : String)

/-- The rows an update at `height` may touch. -/
def notNewerThan (height : Option Nat) (row : DisclosureGrant) : Bool :=
  match height, row.changedAtHeight with
  | some height, some changedAtHeight => changedAtHeight < height
  | some _, none => true
  | none, changedAtHeight => changedAtHeight.isNone

/-- `confirmedDisclosureLevel`. -/
def confirmedDisclosureLevel (level : Nat) (txHash : String) (changedAt : Nat)
    (landedHeight : Option Nat) : Patch DisclosureGrant where
  set := fun row => { row with
    level, pendingLevel := none, grantedTxHash := some txHash, revokedTxHash := none,
    modifiedAt := changedAt, changedAtHeight := landedHeight.or row.changedAtHeight }

/-- What a landed revoke or retract sets. -/
def confirmedRemoval (txHash : String) (changedAt : Nat) (landedHeight : Option Nat) :
    Patch DisclosureGrant where
  set := fun row => { row with
    revokedTxHash := some txHash, active := false, modifiedAt := changedAt,
    changedAtHeight := landedHeight.or row.changedAtHeight }

/-- The write for a landed change, the same in the executor and in the reconciliation. -/
def confirm (rows : DisclosureGrants) (change : LandedChange) (txHash : String)
    (changedAt : Nat) (landed : Option Nat) : DisclosureGrants :=
  match change with
  | .grantDisclosure disclosureGrantId level =>
    rows.updateWhere (fun row => row.ID = disclosureGrantId && notNewerThan landed row)
      (confirmedDisclosureLevel level txHash changedAt landed)
  | .revokeDisclosure grant =>
    rows.updateWhere (fun row => row.grant = grant && notNewerThan landed row)
      (confirmedRemoval txHash changedAt landed)
  | .retract contractAddress attesterId key =>
    rows.updateWhere (fun row => row.grant.contractAddress = contractAddress &&
        row.grant.attesterId = attesterId && row.grant.payloadHash = key && row.active &&
        notNewerThan landed row)
      (confirmedRemoval txHash changedAt landed)

/-- A contract state that a reindex has read. -/
structure View where
  contractAddress : String
  /-- The height it asked for: that of the change, else the tip, unless that query failed. -/
  height : Option Nat
  /-- The height of the state it got. -/
  asOf : Nat
  onChain : List DisclosureGrantRecord
  now : Nat
  /-- A state that is asked for by height is the state at that height. -/
  read_at_height : ∀ known, height = some known → asOf = known

/-- Rows without a height that changed within this window stay active. -/
def DEFAULT_SWEEP_GRACE_MS : Nat := 10 * 60 * 1000

namespace View

variable (view : View)

/-- Whether a row found for a grant on chain is written. -/
def overwrites (existing : DisclosureGrant) : Bool :=
  match view.height, existing.changedAtHeight with
  | some height, some rowHeight => rowHeight ≤ height
  | none, some _ => !existing.revokedTxHash.any (· ≠ "")
  | _, none => true

/-- `seen`. -/
def seen (row : DisclosureGrant) : Bool :=
  view.onChain.any fun record => record.ref view.contractAddress = row.grant

/-- Whether an active row that was found is set inactive. -/
def sweeps (cutoff : Int) (row : DisclosureGrant) : Bool :=
  !view.seen row &&
    match view.height, row.changedAtHeight with
    | some height, some rowHeight => rowHeight ≤ height
    -- A row without a height, or no height to compare it with: the grace window decides.
    | _, _ => (row.modifiedAt : Int) ≤ cutoff

def overwrite (record : DisclosureGrantRecord) : Patch DisclosureGrant where
  set := fun row => { row with
    level := record.level, active := true, revokedTxHash := none, modifiedAt := view.now,
    changedAtHeight := view.height.or row.changedAtHeight }

def deactivate : Patch DisclosureGrant where
  set := fun row => { row with
    active := false, modifiedAt := view.now,
    changedAtHeight := view.height.or row.changedAtHeight }

/-- The row for a grant that has none. -/
def inserted (record : DisclosureGrantRecord) (ID : Nat) : DisclosureGrant where
  ID := ID
  grant := record.ref view.contractAddress
  level := record.level
  pendingLevel := none
  grantedTxHash := none
  revokedTxHash := none
  active := true
  changedAtHeight := view.height
  modifiedAt := view.now

end View

/-- The height of a row has not changed since it was read. -/
def sameHeight (existing row : DisclosureGrant) : Bool :=
  row.changedAtHeight = existing.changedAtHeight

/-- How far the reindex of a contract is. Each of its reads and writes is a step of its own. -/
inductive Reindex where
  | idle
  | listing (view : View) (rest : List DisclosureGrantRecord)
  /-- The row of a grant has been read. -/
  | chosen (view : View) (record : DisclosureGrantRecord) (existing : Option DisclosureGrant)
      (rest : List DisclosureGrantRecord)
  | sweeping (view : View) (cutoff : Int) (activeRows : List DisclosureGrant)

/-- The height of the chain state that the next write of a reindex speaks of. -/
def Reindex.asOf : Reindex → Option Nat
  | .chosen view _ _ _ => some view.asOf
  | .sweeping view _ _ => some view.asOf
  | _ => none

/-! ## The table and its writers -/

/-- A grant request that has looked for the row. -/
structure GrantRequest where
  grant : GrantRef
  level : Nat
  existingGrant : Option Nat

/-- The row of a grant nobody has requested before: inactive until the indexer sees it. -/
def GrantRequest.row (request : GrantRequest) (ID clock : Nat) : DisclosureGrant where
  ID := ID
  grant := request.grant
  level := request.level
  pendingLevel := none
  grantedTxHash := none
  revokedTxHash := none
  active := false
  changedAtHeight := none
  modifiedAt := clock

structure DisclosureProjection where
  rows : DisclosureGrants
  /-- The next generated row ID. -/
  nextId : Nat
  requests : Nat → Option GrantRequest
  /-- One reindex per contract at a time. -/
  reindexes : String → Reindex
  clock : Nat

def DisclosureProjection.start : DisclosureProjection where
  rows := Table.empty
  nextId := 0
  requests := fun _ => none
  reindexes := fun _ => .idle
  clock := 0

inductive ProjectionEvent where
  | tick (ms : Nat)
  /-- `grantDisclosure` looks for the row. -/
  | requestGrant (request : Nat) (grant : GrantRef) (level : Nat)
  /-- It stores the requested level, or a new inactive row. -/
  | writeRequest (request : Nat)
  /-- The chain or the job store has refused the request: `clearPendingDisclosureLevel`. -/
  | clearPending (disclosureGrantId level : Nat)
  /-- The request was a repeated one. -/
  | restorePending (disclosureGrantId level : Nat) (earlier : Option Nat)
  /-- A change landed in `block`; the height may be missing from the outcome. -/
  | confirm (change : LandedChange) (txHash : String) (changedAt block : Nat)
      (heightKnown : Bool)
  /-- A reindex reads the state. `tip` is the answer of the tip query, `latest` the height of the
  latest state that the indexer has. -/
  | startReindex (contractAddress : String) (atHeight tip : Option Nat) (latest : Nat)
  | continueReindex (contractAddress : String)
  | failReindex (contractAddress : String)

namespace DisclosureProjection

def requestGrant (s : DisclosureProjection) (request : Nat) (grant : GrantRef) (level : Nat) :
    DisclosureProjection :=
  { s with
    requests := Function.update s.requests request (some
      ⟨grant, level, (s.rows.rows.find? fun row => row.grant = grant).map (·.ID)⟩) }

def pending (level : Option Nat) (clock : Nat) : Patch DisclosureGrant where
  set := fun row => { row with pendingLevel := level, modifiedAt := clock }

def restored (level : Option Nat) : Patch DisclosureGrant where
  set := fun row => { row with pendingLevel := level }

def insert (s : DisclosureProjection) (row : DisclosureGrant) : DisclosureProjection :=
  { s with rows := s.rows.insert row, nextId := s.nextId + 1 }

def writeRequest (s : DisclosureProjection) (number : Nat) : DisclosureProjection :=
  match s.requests number with
  | none => s
  | some request =>
    let s := { s with requests := Function.update s.requests number none }
    match request.existingGrant with
    | some disclosureGrantId =>
      { s with
        rows := s.rows.updateWhere (fun row => row.ID = disclosureGrantId)
          (pending (some request.level) s.clock) }
    | none => s.insert (request.row s.nextId s.clock)

/-- The read of `reindexOnce`. A contract without a state is left alone. -/
def startReindex (chain : Chain) (s : DisclosureProjection) (contractAddress : String)
    (atHeight tip : Option Nat) (latest : Nat) : DisclosureProjection :=
  match s.reindexes contractAddress with
  | .idle =>
    match chain contractAddress ((atHeight.or tip).getD latest) with
    | none => s
    | some onChain =>
      { s with
        reindexes := Function.update s.reindexes contractAddress (.listing
          { contractAddress
            height := atHeight.or tip
            asOf := (atHeight.or tip).getD latest
            onChain
            now := s.clock
            read_at_height := by
              intro known isKnown
              rw [isKnown]
              rfl } onChain) }
  | _ => s

/-- Writes the row of a grant on chain. -/
def writeGrant (s : DisclosureProjection) (view : View) (record : DisclosureGrantRecord)
    (existing : Option DisclosureGrant) : DisclosureProjection :=
  match existing with
  | some existing =>
    if view.overwrites existing then
      { s with rows := s.rows.update existing.ID (sameHeight existing) (view.overwrite record) }
    else s
  | none => s.insert (view.inserted record s.nextId)

/-- Sets a row inactive that is gone on chain. -/
def sweep (s : DisclosureProjection) (view : View) (cutoff : Int) (row : DisclosureGrant) :
    DisclosureProjection :=
  if view.sweeps cutoff row then
    { s with rows := s.rows.update row.ID (sameHeight row) view.deactivate }
  else s

def advance (s : DisclosureProjection) (contractAddress : String) (reindex : Reindex) :
    DisclosureProjection :=
  { s with reindexes := Function.update s.reindexes contractAddress reindex }

/-- The next read or write of the reindex of a contract. -/
def continueReindex (s : DisclosureProjection) (contractAddress : String) :
    DisclosureProjection :=
  match s.reindexes contractAddress with
  | .idle => s
  | .listing view (record :: rest) =>
    s.advance contractAddress (.chosen view record
      (s.rows.rows.find? fun row => row.grant = record.ref view.contractAddress) rest)
  | .chosen view record existing rest =>
    (s.writeGrant view record existing).advance contractAddress (.listing view rest)
  | .listing view [] =>
    s.advance contractAddress (.sweeping view (s.clock - DEFAULT_SWEEP_GRACE_MS)
      (s.rows.rows.filter fun row =>
        row.grant.contractAddress = view.contractAddress && row.active))
  | .sweeping view cutoff (row :: rest) =>
    (s.sweep view cutoff row).advance contractAddress (.sweeping view cutoff rest)
  | .sweeping _ _ [] => s.advance contractAddress .idle

def step (chain : Chain) (s : DisclosureProjection) : ProjectionEvent → DisclosureProjection
  | .tick ms => { s with clock := s.clock + ms }
  | .requestGrant request grant level => s.requestGrant request grant level
  | .writeRequest request => s.writeRequest request
  | .clearPending disclosureGrantId level =>
    { s with
      rows := s.rows.updateWhere
        (fun row => row.ID = disclosureGrantId && row.pendingLevel = some level)
        (pending none s.clock) }
  | .restorePending disclosureGrantId level earlier =>
    { s with
      rows := s.rows.updateWhere
        (fun row => row.ID = disclosureGrantId && row.pendingLevel = some level)
        (restored earlier) }
  | .confirm change txHash changedAt block heightKnown =>
    { s with
      rows := confirm s.rows change txHash changedAt (if heightKnown then some block else none) }
  | .startReindex contractAddress atHeight tip latest =>
    startReindex chain s contractAddress atHeight tip latest
  | .continueReindex contractAddress => s.continueReindex contractAddress
  | .failReindex contractAddress => s.advance contractAddress .idle

/-! ## The order of the changes -/

/-- The height of the chain state that a read or a confirmation speaks of. -/
def knowledge (s : DisclosureProjection) : ProjectionEvent → Option Nat
  | .confirm _ _ _ block _ => some block
  | .continueReindex contractAddress => (s.reindexes contractAddress).asOf
  | _ => none

/-- The event knows no state as new as `height`. -/
def OlderThan (height : Nat) (s : DisclosureProjection) (event : ProjectionEvent) : Prop :=
  ∀ asOf ∈ s.knowledge event, asOf < height

instance (height : Nat) (s : DisclosureProjection) (event : ProjectionEvent) :
    Decidable (OlderThan height s event) := by
  unfold OlderThan
  infer_instance

/-- If no height was asked for, the row was not changed after the state that was read. -/
def NewestFor (s : DisclosureProjection) (view : View) (existing : DisclosureGrant) : Prop :=
  view.height = none → ∀ height ∈ existing.changedAtHeight,
    s.rows.affects existing.ID (sameHeight existing) = true → height ≤ view.asOf

instance (s : DisclosureProjection) (view : View) (existing : DisclosureGrant) :
    Decidable (NewestFor s view existing) := by
  unfold NewestFor
  infer_instance

/-- The next write of a reindex without a height is to a row that was not changed after the
state it has read. -/
def NewestForNext (s : DisclosureProjection) : Reindex → Prop
  | .chosen view _ (some existing) _ => view.overwrites existing = true → NewestFor s view existing
  | .sweeping view cutoff (row :: _) => view.sweeps cutoff row = true → NewestFor s view row
  | _ => True

/-- A reindex without a height writes no row that was changed after the state it has read. -/
def ReadsNewest (s : DisclosureProjection) : ProjectionEvent → Prop
  | .continueReindex contractAddress => NewestForNext s (s.reindexes contractAddress)
  | _ => True

instance (s : DisclosureProjection) (reindex : Reindex) : Decidable (NewestForNext s reindex) := by
  unfold NewestForNext
  split <;> infer_instance

instance (s : DisclosureProjection) (event : ProjectionEvent) :
    Decidable (ReadsNewest s event) := by
  cases event <;> unfold ReadsNewest <;> infer_instance

/-- A row that is inserted is the first one for its grant. -/
def InsertsFirst (s : DisclosureProjection) : ProjectionEvent → Prop
  | .writeRequest number =>
    ∀ request ∈ s.requests number, request.existingGrant = none →
      ∀ row ∈ s.rows.rows, row.grant ≠ request.grant
  | .continueReindex contractAddress =>
    match s.reindexes contractAddress with
    | .chosen view record none _ =>
      ∀ row ∈ s.rows.rows, row.grant ≠ record.ref view.contractAddress
    | _ => True
  | _ => True

instance (s : DisclosureProjection) (event : ProjectionEvent) :
    Decidable (InsertsFirst s event) := by
  cases event <;> unfold InsertsFirst <;> try infer_instance
  dsimp only
  split <;> infer_instance

end DisclosureProjection

namespace DisclosureGrant

/-- The height never decreases. -/
def NotBefore (row next : DisclosureGrant) : Prop :=
  ∀ height, row.changedAtHeight = some height →
    ∃ later, next.changedAtHeight = some later ∧ height ≤ later

/-- The same but for the requested level and the time of the last write. -/
def SameConfirmed (row next : DisclosureGrant) : Prop :=
  next = { row with pendingLevel := next.pendingLevel, modifiedAt := next.modifiedAt }

/-- What a write may do to a row that speaks of the chain state at `asOf`, if of any. -/
structure Ordered (asOf : Option Nat) (row next : DisclosureGrant) : Prop where
  grant : next.grant = row.grant
  notBefore : row.NotBefore next
  newer : ∀ height, row.changedAtHeight = some height → (∀ known ∈ asOf, known < height) →
    row.SameConfirmed next

theorem NotBefore.refl (row : DisclosureGrant) : row.NotBefore row := by
  intro height isHeight
  exact ⟨height, isHeight, Nat.le_refl height⟩

theorem NotBefore.trans {first second third : DisclosureGrant} (toSecond : first.NotBefore second)
    (toThird : second.NotBefore third) : first.NotBefore third := by
  intro height isHeight
  rcases toSecond height isHeight with ⟨later, isLater, notBefore⟩
  rcases toThird later isLater with ⟨latest, isLatest, notBeforeLater⟩
  exact ⟨latest, isLatest, Nat.le_trans notBefore notBeforeLater⟩

theorem SameConfirmed.refl (row : DisclosureGrant) : row.SameConfirmed row := rfl

theorem SameConfirmed.trans {first second third : DisclosureGrant}
    (toSecond : first.SameConfirmed second) (toThird : second.SameConfirmed third) :
    first.SameConfirmed third := by
  unfold SameConfirmed at toSecond toThird ⊢
  rw [toThird, toSecond]

variable {row next : DisclosureGrant}

theorem SameConfirmed.changedAtHeight
    (same : row.SameConfirmed next) : next.changedAtHeight = row.changedAtHeight := by
  rw [same]

theorem Ordered.refl (asOf : Option Nat) (row : DisclosureGrant) : row.Ordered asOf row where
  grant := rfl
  notBefore := .refl row
  newer := fun _ _ _ => .refl row

/-- A write that leaves the confirmed columns alone. -/
theorem Ordered.of_same {asOf : Option Nat}
    (same : row.SameConfirmed next) : row.Ordered asOf next where
  grant := by rw [same]
  notBefore := by
    intro height isHeight
    exact ⟨height, same.changedAtHeight.trans isHeight, Nat.le_refl height⟩
  newer := fun _ _ _ => same

/-- A write under a height no older than that of the row. -/
theorem Ordered.of_notOlder {asOf : Nat} {landed : Option Nat} (grant : next.grant = row.grant)
    (stamp : next.changedAtHeight = landed.or row.changedAtHeight)
    (known : ∀ height, landed = some height → height = asOf)
    (notOlder : ∀ height, row.changedAtHeight = some height → height ≤ asOf) :
    row.Ordered (some asOf) next where
  grant := grant
  notBefore := by
    intro height isHeight
    cases landed with
    | none => exact ⟨height, stamp.trans isHeight, Nat.le_refl height⟩
    | some landed =>
      refine ⟨landed, stamp, ?_⟩
      rw [known landed rfl]
      exact notOlder height isHeight
  newer := by
    intro height isHeight older
    exact absurd (notOlder height isHeight) (Nat.not_le.mpr (older asOf rfl))

end DisclosureGrant

namespace DisclosureProjection

open DisclosureGrant

variable {chain : Chain} {s : DisclosureProjection}

theorem notNewerThan_le {landed : Option Nat} {asOf height : Nat} {row : DisclosureGrant}
    (allowed : notNewerThan landed row = true)
    (known : ∀ height, landed = some height → height = asOf)
    (isHeight : row.changedAtHeight = some height) : height ≤ asOf := by
  unfold notNewerThan at allowed
  rw [isHeight] at allowed
  cases landed with
  | none => cases allowed
  | some landed =>
    rw [← known landed rfl]
    exact Nat.le_of_lt (of_decide_eq_true allowed)

theorem confirm_ordered (rows : DisclosureGrants) (change : LandedChange) (txHash : String)
    (changedAt block : Nat) (landed : Option Nat)
    (known : ∀ height, landed = some height → height = block) :
    rows.Evolves (Ordered (some block)) (confirm rows change txHash changedAt landed) := by
  cases change with
  | grantDisclosure | revokeDisclosure | retract =>
    apply Table.evolves_updateWhere (Ordered.refl _)
    intro row isMatch
    simp only [Bool.and_eq_true] at isMatch
    exact .of_notOlder rfl rfl known fun height => notNewerThan_le isMatch.2 known

theorem View.overwrites_le {view : View} {existing : DisclosureGrant} {known rowHeight : Nat}
    (overwrites : view.overwrites existing = true) (isKnown : view.height = some known)
    (isHeight : existing.changedAtHeight = some rowHeight) : rowHeight ≤ known := by
  unfold View.overwrites at overwrites
  rw [isKnown, isHeight] at overwrites
  exact of_decide_eq_true overwrites

theorem View.sweeps_le {view : View} {cutoff : Int} {row : DisclosureGrant}
    {known rowHeight : Nat} (sweeps : view.sweeps cutoff row = true)
    (isKnown : view.height = some known) (isHeight : row.changedAtHeight = some rowHeight) :
    rowHeight ≤ known := by
  unfold View.sweeps at sweeps
  rw [isKnown, isHeight] at sweeps
  simp only [Bool.and_eq_true] at sweeps
  exact of_decide_eq_true sweeps.2

/-- The update of a reindex: it compares with the height it has read, so the comparison holds of
the row it writes. -/
theorem update_ordered {view : View} {existing : DisclosureGrant} {patch : Patch DisclosureGrant}
    (compared : ∀ known rowHeight, view.height = some known →
      existing.changedAtHeight = some rowHeight → rowHeight ≤ known)
    (newest : NewestFor s view existing)
    (grant : ∀ row, (patch.set row).grant = row.grant)
    (stamp : ∀ row, (patch.set row).changedAtHeight = view.height.or row.changedAtHeight) :
    s.rows.Evolves (Ordered (some view.asOf))
      (s.rows.update existing.ID (sameHeight existing) patch) := by
  apply Table.evolves_update (Ordered.refl _)
  intro row found isMatch
  have same : row.changedAtHeight = existing.changedAtHeight := of_decide_eq_true isMatch
  apply Ordered.of_notOlder (grant row) (stamp row)
  · intro height isKnown
    exact (view.read_at_height height isKnown).symm
  · intro height isHeight
    cases isKnown : view.height with
    | some known =>
      rw [view.read_at_height known isKnown]
      exact compared known height isKnown (same.symm.trans isHeight)
    | none =>
      apply newest isKnown height (same.symm.trans isHeight)
      rw [Table.affects, found]
      exact isMatch

theorem insert_ordered (asOf : Option Nat) (row : DisclosureGrant) :
    s.rows.Evolves (Ordered asOf) (s.insert row).rows :=
  Table.evolves_insert (Ordered.refl asOf) row

theorem writeRequest_ordered (number : Nat) :
    s.rows.Evolves (Ordered none) (s.writeRequest number).rows := by
  unfold writeRequest
  split
  · exact Table.Evolves.refl (Ordered.refl none) s.rows
  next request _ =>
    split
    · apply Table.evolves_updateWhere (Ordered.refl none)
      intro row _
      exact .of_same rfl
    · exact Table.evolves_insert (Ordered.refl none) _

theorem continueReindex_ordered (contractAddress : String)
    (newest : NewestForNext s (s.reindexes contractAddress)) :
    s.rows.Evolves (Ordered (s.reindexes contractAddress).asOf)
      (s.continueReindex contractAddress).rows := by
  have unchanged (asOf : Option Nat) : s.rows.Evolves (Ordered asOf) s.rows :=
    Table.Evolves.refl (Ordered.refl asOf) s.rows
  unfold continueReindex
  cases isReindex : s.reindexes contractAddress with
  | idle => exact unchanged none
  | listing view rest =>
    cases rest with
    | nil | cons => exact unchanged none
  | chosen view record existing rest =>
    rw [isReindex] at newest
    cases existing with
    | none => exact insert_ordered (some view.asOf) _
    | some existing =>
      show s.rows.Evolves (Ordered (some view.asOf)) (s.writeGrant view record (some existing)).rows
      simp only [writeGrant]
      split
      next overwrites =>
        exact update_ordered (fun known rowHeight => View.overwrites_le overwrites)
          (newest overwrites) (fun _ => rfl) (fun _ => rfl)
      · exact unchanged (some view.asOf)
  | sweeping view cutoff activeRows =>
    rw [isReindex] at newest
    cases activeRows with
    | nil => exact unchanged (some view.asOf)
    | cons row rest =>
      show s.rows.Evolves (Ordered (some view.asOf)) (s.sweep view cutoff row).rows
      unfold sweep
      split
      next sweeps =>
        exact update_ordered (fun known rowHeight => View.sweeps_le sweeps)
          (newest sweeps) (fun _ => rfl) (fun _ => rfl)
      · exact unchanged (some view.asOf)

/-- One step of any writer. -/
theorem step_ordered (event : ProjectionEvent) (newest : ReadsNewest s event) :
    s.rows.Evolves (Ordered (s.knowledge event)) (step chain s event).rows := by
  cases event with
  | tick | requestGrant | failReindex => exact Table.Evolves.refl (Ordered.refl none) s.rows
  | writeRequest request => exact writeRequest_ordered request
  | clearPending | restorePending =>
    apply Table.evolves_updateWhere (Ordered.refl none)
    intro row _
    exact .of_same rfl
  | confirm change txHash changedAt block heightKnown =>
    apply confirm_ordered
    intro height isHeight
    cases heightKnown <;> cases isHeight
    rfl
  | startReindex contractAddress atHeight tip latest =>
    show s.rows.Evolves _ (startReindex chain s contractAddress atHeight tip latest).rows
    have unchanged : (startReindex chain s contractAddress atHeight tip latest).rows = s.rows := by
      unfold startReindex
      split
      · split <;> rfl
      · rfl
    rw [unchanged]
    exact Table.Evolves.refl (Ordered.refl none) s.rows
  | continueReindex contractAddress => exact continueReindex_ordered contractAddress newest

theorem grants_updateWhere (rows : DisclosureGrants) (matching : DisclosureGrant → Bool)
    (patch : Patch DisclosureGrant) (grant : ∀ row, (patch.set row).grant = row.grant) :
    (rows.updateWhere matching patch).rows.map (·.grant) = rows.rows.map (·.grant) := by
  simp only [Table.updateWhere, List.map_map]
  apply List.map_congr_left
  intro row _
  simp only [Function.comp_apply]
  split
  · exact grant row
  · rfl

theorem confirm_grants (rows : DisclosureGrants) (change : LandedChange) (txHash : String)
    (changedAt : Nat) (landed : Option Nat) :
    (confirm rows change txHash changedAt landed).rows.map (·.grant) = rows.rows.map (·.grant) := by
  cases change with
  | grantDisclosure | revokeDisclosure | retract => exact grants_updateWhere rows _ _ fun _ => rfl

/-- The rows have distinct grants. -/
def OneRowPerGrant (s : DisclosureProjection) : Prop :=
  (s.rows.rows.map (·.grant)).Nodup

theorem oneRowPerGrant_start : start.OneRowPerGrant := List.nodup_nil

theorem OneRowPerGrant.of_grants {after : DisclosureProjection} (one : s.OneRowPerGrant)
    (grants : after.rows.rows.map (·.grant) = s.rows.rows.map (·.grant)) :
    after.OneRowPerGrant := by
  unfold OneRowPerGrant
  rw [grants]
  exact one

theorem OneRowPerGrant.insert (one : s.OneRowPerGrant) {new : DisclosureGrant}
    (first : ∀ row ∈ s.rows.rows, row.grant ≠ new.grant) : (s.insert new).OneRowPerGrant := by
  simp only [OneRowPerGrant, DisclosureProjection.insert, Table.insert]
  split
  · simp only [List.map_append, List.map_cons, List.map_nil]
    rw [List.nodup_append]
    refine ⟨one, List.nodup_singleton _, ?_⟩
    intro grant isGrant other isOther
    rw [List.mem_singleton.mp isOther]
    rcases List.mem_map.mp isGrant with ⟨row, stored, rfl⟩
    exact first row stored
  · exact one

theorem step_oneRowPerGrant (event : ProjectionEvent) (one : s.OneRowPerGrant)
    (first : InsertsFirst s event) : (step chain s event).OneRowPerGrant := by
  cases event with
  | tick | requestGrant | failReindex => exact one
  | clearPending | restorePending =>
    exact one.of_grants (grants_updateWhere s.rows _ _ fun _ => rfl)
  | confirm change txHash changedAt block heightKnown =>
    exact one.of_grants (confirm_grants s.rows change txHash changedAt _)
  | startReindex contractAddress atHeight tip latest =>
    show (startReindex chain s contractAddress atHeight tip latest).OneRowPerGrant
    unfold startReindex
    split
    · split <;> exact one
    · exact one
  | writeRequest number =>
    show (s.writeRequest number).OneRowPerGrant
    unfold writeRequest
    cases isRequest : s.requests number with
    | none => exact one
    | some request =>
      dsimp only
      cases existing : request.existingGrant with
      | some disclosureGrantId =>
        exact one.of_grants (grants_updateWhere s.rows _ _ fun _ => rfl)
      | none =>
        have isFirst := first request isRequest existing
        exact one.insert isFirst
  | continueReindex contractAddress =>
    show (s.continueReindex contractAddress).OneRowPerGrant
    unfold InsertsFirst at first
    unfold continueReindex
    cases isReindex : s.reindexes contractAddress with
    | idle => exact one
    | listing view rest => cases rest <;> exact one
    | chosen view record existing rest =>
      cases existing with
      | none =>
        simp only [isReindex] at first
        exact one.insert first
      | some existing =>
        simp only [writeGrant]
        split
        · exact one.of_grants (grants_updateWhere s.rows _ _ fun _ => rfl)
        · exact one
    | sweeping view cutoff activeRows =>
      cases activeRows with
      | nil => exact one
      | cons row rest =>
        show (s.sweep view cutoff row).OneRowPerGrant
        unfold sweep
        split
        · exact one.of_grants (grants_updateWhere s.rows _ _ fun _ => rfl)
        · exact one

/-! ## Runs -/

/-- The rows stay, and their heights never decrease. -/
def HeightsGrow (s after : DisclosureProjection) : Prop :=
  s.rows.Evolves NotBefore after.rows

/-- What a run does to the rows there are when it starts. -/
structure ChangesInOrder (chain : Chain) (s : DisclosureProjection)
    (later : List ProjectionEvent) : Prop where
  heights : s.HeightsGrow (run (step chain) s later)
  /-- A row changed at `height` stays as it is as long as all reads and confirmations are of
  older states. -/
  newer : ∀ ID row height, s.rows.find? ID = some row → row.changedAtHeight = some height →
    Along (step chain) (OlderThan height) s later →
      ∃ next, (run (step chain) s later).rows.find? ID = some next ∧ row.SameConfirmed next

/-- So it is with a grant: no other row comes to speak of it. -/
def GrantsInOrder (chain : Chain) (s : DisclosureProjection) (later : List ProjectionEvent) :
    Prop :=
  ∀ row ∈ s.rows.rows, ∀ height, row.changedAtHeight = some height →
    Along (step chain) (OlderThan height) s later →
      ∀ next ∈ (run (step chain) s later).rows.rows, next.grant = row.grant → row.SameConfirmed next

variable {later : List ProjectionEvent}

theorem run_newer {ID height : Nat} {row : DisclosureGrant}
    (newest : Along (step chain) ReadsNewest s later) (found : s.rows.find? ID = some row)
    (isHeight : row.changedAtHeight = some height)
    (older : Along (step chain) (OlderThan height) s later) :
    ∃ next, (run (step chain) s later).rows.find? ID = some next ∧ row.SameConfirmed next := by
  induction later generalizing s row with
  | nil => exact ⟨row, found, .refl row⟩
  | cons event rest ih =>
    rcases newest with ⟨now, afterwards⟩
    rcases older with ⟨olderNow, olderAfterwards⟩
    have steps : s.rows.Evolves (Ordered (s.knowledge event)) (step chain s event).rows :=
      step_ordered event now
    rcases steps ID row found with ⟨next, foundNext, ordered⟩
    have same := ordered.newer height isHeight olderNow
    rcases ih afterwards foundNext (same.changedAtHeight.trans isHeight) olderAfterwards with
      ⟨last, foundLast, sameLast⟩
    exact ⟨last, foundLast, same.trans sameLast⟩

theorem run_inOrder
    (newest : Along (step chain) ReadsNewest s later) : ChangesInOrder chain s later where
  heights := by
    refine run_relates ?_ ?_ ?_ later newest
    · intro s
      exact Table.Evolves.refl NotBefore.refl s.rows
    · intro first second third toSecond toThird
      exact Table.Evolves.trans (fun _ _ _ => NotBefore.trans) toSecond toThird
    · intro s event newestNow ID row found
      have steps : s.rows.Evolves (Ordered (s.knowledge event)) (step chain s event).rows :=
        step_ordered event newestNow
      rcases steps ID row found with ⟨next, foundNext, ordered⟩
      exact ⟨next, foundNext, ordered.notBefore⟩
  newer := fun _ _ _ => run_newer newest

theorem run_grantsInOrder (newest : Along (step chain) ReadsNewest s later) (one : s.OneRowPerGrant)
    (first : Along (step chain) InsertsFirst s later) : GrantsInOrder chain s later := by
  intro row stored height isHeight older next isNext sameGrant
  rcases run_newer newest (Table.find?_of_mem stored) isHeight older with ⟨last, foundLast, same⟩
  have oneAfter : (run (step chain) s later).OneRowPerGrant :=
    run_invariant (fun s event => step_oneRowPerGrant event) one later first
  have isLast : next = last := by
    apply List.inj_on_of_nodup_map oneAfter isNext (Table.mem_of_find? foundLast)
    rw [sameGrant, same]
  rw [isLast]
  exact same

/-- In a run in which a reindex without a height never writes a row that was changed after the
state it has read, the height of a row never decreases, and no read or confirmation of an older
state undoes a newer change; nor does an inserted row, if it is the first for its grant. -/
theorem newer_changes_stay (chain : Chain) (events : List ProjectionEvent)
    (newest : Along (step chain) ReadsNewest start events)
    (earlier later : List ProjectionEvent) (parts : events = earlier ++ later) :
    ChangesInOrder chain (run (step chain) start earlier) later ∧
      (Along (step chain) InsertsFirst start events →
        GrantsInOrder chain (run (step chain) start earlier) later) := by
  subst parts
  rcases (along_append earlier later).mp newest with ⟨_, newestLater⟩
  refine ⟨run_inOrder newestLater, ?_⟩
  intro first
  rcases (along_append earlier later).mp first with ⟨firstEarlier, firstLater⟩
  have one : (run (step chain) start earlier).OneRowPerGrant :=
    run_invariant (fun s event => step_oneRowPerGrant event) oneRowPerGrant_start earlier
      firstEarlier
  exact run_grantsInOrder newestLater one firstLater

/-- The vault of the examples: a grant of level 2 at height 5, lowered to 1 at height 10. -/
def loweredChain : Chain := fun contractAddress height =>
  if contractAddress = "0c" then
    if height < 5 then some []
    else some [⟨"a1", "d0", "9e", if height < 10 then 2 else 1⟩]
  else none

def loweredGrant : GrantRef := ⟨"0c", "a1", "d0", "9e"⟩

/-- Both levels are confirmed at their heights, the old state is read by height without effect,
and a reindex without a height reads the newest state. -/
def loweredRun : List ProjectionEvent :=
  [.requestGrant 0 loweredGrant 2, .writeRequest 0, .confirm (.grantDisclosure 0 2) "f1" 0 5 true,
    .startReindex "0c" (some 5) none 5, .continueReindex "0c",
    .confirm (.grantDisclosure 0 1) "f2" 0 10 true,
    .continueReindex "0c", .continueReindex "0c", .continueReindex "0c",
    .startReindex "0c" none none 12, .continueReindex "0c", .continueReindex "0c",
    .continueReindex "0c", .continueReindex "0c"]

theorem newer_changes_stay_lowered :
    Along (step loweredChain) ReadsNewest start loweredRun ∧
      ChangesInOrder loweredChain (run (step loweredChain) start (loweredRun.take 6))
        (loweredRun.drop 6) :=
  have newest : Along (step loweredChain) ReadsNewest start loweredRun := by decide
  ⟨newest, (newer_changes_stay loweredChain loweredRun newest (loweredRun.take 6)
    (loweredRun.drop 6) (by rfl)).1⟩

/-- The tip query of a reindex fails, and the indexer is still at height 8: the level that was
lowered at height 10 is set back. -/
theorem heightless_reindex_restores_level :
    let confirmed := run (step loweredChain) start [.requestGrant 0 loweredGrant 2, .writeRequest 0,
        .confirm (.grantDisclosure 0 2) "f1" 0 5 true,
        .confirm (.grantDisclosure 0 1) "f2" 0 10 true]
    let later : List ProjectionEvent :=
      [.startReindex "0c" none none 8, .continueReindex "0c", .continueReindex "0c"]
    Along (step loweredChain) (OlderThan 10) confirmed later ∧
      (confirmed.rows.find? 0).map (fun row => (row.level, row.changedAtHeight)) =
        some (1, some 10) ∧
      ((run (step loweredChain) confirmed later).rows.find? 0).map
          (fun row => (row.level, row.changedAtHeight)) = some (2, some 10) ∧
      ¬ ChangesInOrder loweredChain confirmed later := by
  intro confirmed later
  have older : Along (step loweredChain) (OlderThan 10) confirmed later := by decide
  have before : (confirmed.rows.find? 0).map (fun row => (row.level, row.changedAtHeight)) =
      some (1, some 10) := by decide
  have after : ((run (step loweredChain) confirmed later).rows.find? 0).map
      (fun row => (row.level, row.changedAtHeight)) = some (2, some 10) := by decide
  refine ⟨older, before, after, ?_⟩
  intro inOrder
  rcases Option.map_eq_some_iff.mp before with ⟨row, found, isRow⟩
  rcases Option.map_eq_some_iff.mp after with ⟨last, foundLast, isLast⟩
  rcases Prod.mk.inj isRow with ⟨level, height⟩
  rcases Prod.mk.inj isLast with ⟨lastLevel, _⟩
  rcases inOrder.newer 0 row 10 found height older with ⟨next, foundNext, same⟩
  have isNext : next = last := Option.some.inj (foundNext.symm.trans foundLast)
  have kept : next.level = row.level := by rw [same]
  rw [isNext, level, lastLevel] at kept
  cases kept

end DisclosureProjection

end Nightgate.Submission
