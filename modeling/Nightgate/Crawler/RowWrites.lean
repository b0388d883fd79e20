import Nightgate.Crawler.PassWrites

/-!
# Writes for one transaction

Every write below a transaction concerns that transaction's rows only: a deletion of its rows
absorbs the write, and it commutes with the deletion of other transactions' rows. A write for a
stored transaction leaves no row without the row it refers to.
-/

namespace Nightgate.Crawler

open Library

/-! ## Writes and deletions -/

namespace DerivedRows

/-- The rows of the transactions that stay. -/
def cut (gone : List Nat) (rows : DerivedRows) : DerivedRows where
  columns := deleteOf TransactionColumns.transactionID gone rows.columns
  results := deleteOf TransactionResult.transactionID gone rows.results
  segments := deleteOf TransactionSegment.transactionResultID gone rows.segments
  fees := deleteOf TransactionFee.transactionID gone rows.fees
  identifiers := deleteOf TransactionIdentifier.transactionID gone rows.identifiers
  actions := deleteOf ContractAction.transactionID gone rows.actions
  balances := deleteOf (fun balance => balance.contractActionID.1) gone rows.balances
  zswapEvents := deleteOf ZswapLedgerEvent.transactionID gone rows.zswapEvents
  dustEvents := deleteOf DustLedgerEvent.transactionID gone rows.dustEvents

section Tables

def columnsTable : ChildTable cut TransactionColumns where
  owner := TransactionColumns.transactionID
  rows := DerivedRows.columns
  put listed rows := { rows with columns := listed }

def segmentsTable : ChildTable cut TransactionSegment where
  owner := TransactionSegment.transactionResultID
  rows := DerivedRows.segments
  put listed rows := { rows with segments := listed }

def feesTable : ChildTable cut TransactionFee where
  owner := TransactionFee.transactionID
  rows := DerivedRows.fees
  put listed rows := { rows with fees := listed }

def identifiersTable : ChildTable cut TransactionIdentifier where
  owner := TransactionIdentifier.transactionID
  rows := DerivedRows.identifiers
  put listed rows := { rows with identifiers := listed }

def actionsTable : ChildTable cut ContractAction where
  owner := ContractAction.transactionID
  rows := DerivedRows.actions
  put listed rows := { rows with actions := listed }

def balancesTable : ChildTable cut ContractBalance where
  owner balance := balance.contractActionID.1
  rows := DerivedRows.balances
  put listed rows := { rows with balances := listed }

def zswapEventsTable : ChildTable cut ZswapLedgerEvent where
  owner := ZswapLedgerEvent.transactionID
  rows := DerivedRows.zswapEvents
  put listed rows := { rows with zswapEvents := listed }

def dustEventsTable : ChildTable cut DustLedgerEvent where
  owner := DustLedgerEvent.transactionID
  rows := DerivedRows.dustEvents
  put listed rows := { rows with dustEvents := listed }

end Tables

end DerivedRows

/-- A write that concerns the rows of one transaction only. -/
abbrev WritesFor (txID : Nat) (write : DerivedRows → DerivedRows) : Prop :=
  ActsOn DerivedRows.cut txID write

section Writes

variable {txID : Nat}

variable {gone : List Nat}

theorem find_deleteOf {Row : Type*} {owner : Row → Nat} (kept : txID ∉ gone) (rows : List Row) :
    ((deleteOf owner gone rows).find? fun row => owner row = txID) =
      rows.find? fun row => owner row = txID := by
  rw [deleteOf, List.find?_filter]
  congr 1
  funext row
  by_cases same : owner row = txID
  · simp [same, kept]
  · simp [same]

theorem applyFee_writesFor (fee : Option Nat) : WritesFor txID (applyFee txID fee) := by
  cases fee with
  | none => exact .id
  | some paidFees =>
    refine (ActsOn.updateOf ?_).onTable DerivedRows.feesTable
    exact fun _ => rfl

theorem applySegments_writesFor (segments : List SupplementSegment) :
    WritesFor txID (applySegments txID segments) := by
  unfold applySegments
  by_cases empty : segments = []
  · simp only [empty, if_true]
    exact .id
  simp only [empty, if_false]
  have reads : ∀ (rows : DerivedRows) (gone : List Nat), txID ∉ gone →
      ((rows.cut gone).results.find? fun result => result.transactionID = txID) =
        rows.results.find? fun result => result.transactionID = txID :=
    fun rows _ kept => find_deleteOf kept rows.results
  refine ActsOn.choosing (fun rows : DerivedRows => rows.results.find? fun result =>
    result.transactionID = txID) reads ?_
  intro rows
  cases found : rows.results.find? fun result => result.transactionID = txID with
  | none => exact ⟨id, .id, fun _ same => by simp only [same, id]⟩
  | some result =>
    have named : result.transactionID = txID := by simpa using List.find?_some found
    refine ⟨_, ?_, fun _ same => by simp only [same]; rfl⟩
    rw [← named]
    refine (ActsOn.replaceOf ?_ fun _ => id).onTable DerivedRows.segmentsTable
    exact List.forall_mem_map.mpr fun _ _ => rfl

@[simp] theorem actionsOf_cut (rows : DerivedRows) (kept : txID ∉ gone) :
    actionsOf (rows.cut gone) txID = actionsOf rows txID := by
  unfold actionsOf
  congr 1
  show (deleteOf ContractAction.transactionID gone rows.actions).filter _ = _
  rw [deleteOf, List.filter_filter]
  apply List.filter_congr
  intro action _
  by_cases same : action.transactionID = txID
  · simp [same, kept]
  · simp [same]

variable {action : ContractAction}

theorem mem_actionsOf {rows : DerivedRows} :
    action ∈ actionsOf rows txID ↔ action ∈ rows.actions ∧ action.transactionID = txID := by
  rw [actionsOf, List.mem_insertionSort, List.mem_filter, decide_eq_true_eq]

/-- A change of one action that keeps what names it. -/
theorem updateAction_acts {change : ContractAction → ContractAction}
    (own : action.transactionID = txID)
    (keeps : ∀ stored, (change stored).transactionID = stored.transactionID) :
    ActsOn (deleteOf ContractAction.transactionID) txID
      (updateOf ContractAction.ID action.ID change) := by
  apply ActsOn.map
  · intro stored
    split
    · exact keeps stored
    · rfl
  · intro stored other
    refine if_neg fun same => other ?_
    exact (congrArg Prod.fst same).trans own

theorem setActionState_writesFor (config : SupplementConfig)
    (reported : SupplementContractAction) (own : action.transactionID = txID) :
    WritesFor txID (setActionState config action reported) := by
  refine (updateAction_acts own ?_).onTable DerivedRows.actionsTable
  exact fun _ => rfl

theorem replaceBalances_writesFor {actionID : ActionID} (balances : List SupplementBalance)
    (own : actionID.1 = txID) : WritesFor txID (replaceBalances actionID balances) := by
  refine (ActsOn.replaceOf ?_ ?_).onTable DerivedRows.balancesTable
  · intro row listed
    rcases List.mem_map.mp listed with ⟨balance, _, rfl⟩
    exact own
  · intro row same
    exact (congrArg Prod.fst same).trans own

variable {pair : ContractAction × SupplementContractAction}

theorem assignRows_writesFor (config : SupplementConfig) (own : pair.1.transactionID = txID) :
    WritesFor txID fun rows => assignRows config rows pair :=
  (setActionState_writesFor config pair.2 own).comp (replaceBalances_writesFor pair.2.balances own)

/-- The stored actions that pairing updates are actions of the list. -/
theorem mem_pairedActions {mine : List ContractAction} {theirs : List SupplementContractAction}
    (paired : pair ∈ pairedActions mine theirs) :
    pair.1 ∈ mine ∧ pair.2 ∈ theirs ∧ pair.1.key = pair.2.key := by
  rcases List.mem_flatMap.mp paired with ⟨key, _, listed⟩
  dsimp only at listed
  split at listed
  · rcases List.of_mem_zip listed with ⟨ours, matched⟩
    rcases List.mem_filter.mp ours with ⟨stored, mineKey⟩
    rcases List.mem_filter.mp matched with ⟨reported, theirKey⟩
    exact ⟨stored, reported, (of_decide_eq_true mineKey).trans (of_decide_eq_true theirKey).symm⟩
  · cases listed

/-- The rows `applyContractState` writes, without the current states. -/
def assignAll (config : SupplementConfig) (txID : Nat)
    (reported : List SupplementContractAction) (rows : DerivedRows) : DerivedRows :=
  (pairedActions (actionsOf rows txID) reported).foldl (assignRows config) rows

theorem assignAll_writesFor (config : SupplementConfig)
    (reported : List SupplementContractAction) :
    WritesFor txID (assignAll config txID reported) := by
  have reads : ∀ (rows : DerivedRows) (gone : List Nat), txID ∉ gone →
      pairedActions (actionsOf (rows.cut gone) txID) reported =
        pairedActions (actionsOf rows txID) reported :=
    fun rows _ kept => congrArg (pairedActions · reported) (actionsOf_cut rows kept)
  refine ActsOn.reading (fun rows => pairedActions (actionsOf rows txID) reported)
    (fun pairs rows => pairs.foldl (assignRows config) rows) reads ?_
  intro rows
  apply ActsOn.foldl
  intro pair paired
  exact assignRows_writesFor config (mem_actionsOf.mp (mem_pairedActions paired).1).2

theorem replaceZswapEvents_writesFor (events : List SupplementLedgerEvent) :
    WritesFor txID (replaceZswapEvents txID events) := by
  refine (ActsOn.replaceOf ?_ fun _ => id).onTable DerivedRows.zswapEventsTable
  exact List.forall_mem_map.mpr fun _ _ => rfl

theorem replaceDustEvents_writesFor (events : List SupplementDustEvent) :
    WritesFor txID (replaceDustEvents txID events) := by
  refine (ActsOn.replaceOf ?_ fun _ => id).onTable DerivedRows.dustEventsTable
  exact List.forall_mem_map.mpr fun _ _ => rfl

/-- The rows `supplementTransaction` writes. -/
def supplementRows (config : SupplementConfig) (txID : Nat) (answer : SupplementTransaction)
    (rows : DerivedRows) : DerivedRows :=
  replaceDustEvents txID answer.dustEvents (replaceZswapEvents txID answer.zswapEvents
    (assignAll config txID answer.contractActions
      (applySegments txID answer.segments (applyFee txID answer.fee rows))))

theorem fee_segments_actions (answer : SupplementTransaction) (rows : DerivedRows) :
    (applySegments txID answer.segments (applyFee txID answer.fee rows)).actions =
      rows.actions := by
  have fee : (applyFee txID answer.fee rows).actions = rows.actions := by
    unfold applyFee
    split <;> rfl
  rw [← fee]
  unfold applySegments
  split
  · rfl
  split <;> rfl

/-- The writes of `supplementTransaction`, table by table. -/
theorem supplementTransaction_eq (config : SupplementConfig) (height : Nat)
    (answer : SupplementTransaction) (tables : IndexTables) :
    supplementTransaction config txID height answer tables = {
      db := applyDustFlags tables.db answer.dustRegisteredOutputs
      derived := supplementRows config txID answer tables.derived
      contractStates := (pairedActions (actionsOf tables.derived txID)
        answer.contractActions).foldl (assignCurrentState config height)
          tables.contractStates } := by
  have folded : ∀ (pairs : List (ContractAction × SupplementContractAction))
      (acc : IndexTables), pairs.foldl (fun acc pair => { acc with
        derived := assignRows config acc.derived pair
        contractStates := assignCurrentState config height acc.contractStates pair }) acc =
      { acc with
        derived := pairs.foldl (assignRows config) acc.derived
        contractStates := pairs.foldl (assignCurrentState config height) acc.contractStates } := by
    intro pairs
    induction pairs with
    | nil => exact fun _ => rfl
    | cons pair rest ih => exact fun acc => ih _
  have paired : actionsOf (applySegments txID answer.segments
      (applyFee txID answer.fee tables.derived)) txID = actionsOf tables.derived txID := by
    rw [actionsOf, fee_segments_actions, actionsOf]
  simp only [supplementTransaction, applyContractState, IndexTables.onRows, folded, paired,
    supplementRows, assignAll]

/-- What names the actions stays. -/
theorem supplementRows_actionIDs (config : SupplementConfig) (answer : SupplementTransaction)
    (rows : DerivedRows) :
    (supplementRows config txID answer rows).actions.map ContractAction.ID =
      rows.actions.map ContractAction.ID := by
  have folded : ∀ (pairs : List (ContractAction × SupplementContractAction)) (rows : DerivedRows),
      (pairs.foldl (assignRows config) rows).actions.map ContractAction.ID =
        rows.actions.map ContractAction.ID := by
    intro pairs
    induction pairs with
    | nil => exact fun _ => rfl
    | cons pair rest ih => exact fun rows => (ih _).trans (map_updateOf fun _ => rfl)
  refine (folded _ _).trans (congrArg (List.map ContractAction.ID) ?_)
  exact fee_segments_actions answer rows

theorem supplementRows_writesFor (config : SupplementConfig) (answer : SupplementTransaction) :
    WritesFor txID (supplementRows config txID answer) :=
  ((((applyFee_writesFor answer.fee).comp (applySegments_writesFor answer.segments)).comp
    (assignAll_writesFor config answer.contractActions)).comp
    (replaceZswapEvents_writesFor answer.zswapEvents)).comp
    (replaceDustEvents_writesFor answer.dustEvents)

theorem setColumns_writesFor {change : TransactionColumns → TransactionColumns}
    (keeps : ∀ row, (change row).transactionID = row.transactionID) :
    WritesFor txID (setColumns txID change) :=
  (ActsOn.updateOf keeps).onTable DerivedRows.columnsTable

theorem replaceTransactionIdentifiers_writesFor (identifiers : List Hash) :
    WritesFor txID (replaceTransactionIdentifiers txID identifiers) := by
  refine (ActsOn.replaceOf ?_ fun _ => id).onTable DerivedRows.identifiersTable
  intro row listed
  rcases List.mem_map.mp listed with ⟨identifier, _, rfl⟩
  rfl

theorem mem_namedCalls {calls : List ContractAction} {declared : List DeclaredContractAction}
    {call : ContractAction × String} (named : call ∈ namedCalls calls declared) :
    call.1 ∈ calls := by
  rcases List.mem_flatMap.mp named with ⟨address, _, listed⟩
  dsimp only at listed
  split at listed
  · exact (List.mem_filter.mp (List.of_mem_zip listed).1).1
  · cases listed

theorem nameCalls_actionIDs (declared : List DeclaredContractAction) (rows : DerivedRows) :
    (nameCalls txID declared rows).actions.map ContractAction.ID =
      rows.actions.map ContractAction.ID := by
  unfold nameCalls
  generalize namedCalls (callsOf rows txID) declared = calls
  induction calls generalizing rows with
  | nil => rfl
  | cons call rest ih => exact (ih _).trans (map_updateOf fun _ => rfl)

theorem nameCalls_writesFor (declared : List DeclaredContractAction) :
    WritesFor txID (nameCalls txID declared) := by
  have reads : ∀ (rows : DerivedRows) (gone : List Nat), txID ∉ gone →
      namedCalls (callsOf (rows.cut gone) txID) declared =
        namedCalls (callsOf rows txID) declared := by
    intro rows gone kept
    rw [callsOf, actionsOf_cut rows kept, callsOf]
  refine ActsOn.reading (fun rows => namedCalls (callsOf rows txID) declared)
    (fun calls rows => calls.foldl setEntryPoint rows) reads ?_
  intro rows
  apply ActsOn.foldl
  intro call named
  have own : call.1.transactionID = txID :=
    (mem_actionsOf.mp (List.mem_filter.mp (mem_namedCalls named)).1).2
  refine (updateAction_acts own ?_).onTable DerivedRows.actionsTable
  exact fun _ => rfl

theorem applyFacts_writesFor {update : DecodeUpdate} (own : update.id = txID) :
    WritesFor txID (applyFacts update) := by
  subst own
  unfold applyFacts
  cases update.facts with
  | none => exact setColumns_writesFor fun _ => rfl
  | some facts =>
    have columns : WritesFor update.id
        (setColumns update.id (·.decoded facts update.state update.txType)) :=
      setColumns_writesFor fun _ => rfl
    exact (columns.comp (replaceTransactionIdentifiers_writesFor facts.identifiers)).comp
      (nameCalls_writesFor facts.contractActions)

@[simp] theorem columnsOf_cut (rows : DerivedRows) (kept : txID ∉ gone) :
    columnsOf (rows.cut gone) txID = columnsOf rows txID :=
  find_deleteOf kept rows.columns

theorem columnsOf_id {rows : DerivedRows} {row : TransactionColumns}
    (found : columnsOf rows txID = some row) : row.transactionID = txID := by
  simpa using List.find?_some found

@[simp] theorem decodeUpdate_id (row : TransactionColumns) (payload : LedgerPayload) :
    (decodeUpdate row payload).id = row.transactionID := by
  simp only [decodeUpdate]
  split
  · rfl
  · cases payload <;> rfl

theorem applyFacts_actionIDs (update : DecodeUpdate) (rows : DerivedRows) :
    (applyFacts update rows).actions.map ContractAction.ID =
      rows.actions.map ContractAction.ID := by
  unfold applyFacts
  split
  · rfl
  · exact nameCalls_actionIDs _ _

theorem decodeTransaction_actionIDs (payload : LedgerPayload) (rows : DerivedRows) :
    (decodeTransaction txID payload rows).actions.map ContractAction.ID =
      rows.actions.map ContractAction.ID := by
  unfold decodeTransaction
  split
  · rfl
  · exact applyFacts_actionIDs _ _

theorem decodeTransaction_writesFor (payload : LedgerPayload) :
    WritesFor txID (decodeTransaction txID payload) := by
  refine ActsOn.choosing (fun rows => columnsOf rows txID)
    (fun rows _ kept => columnsOf_cut rows kept) ?_
  intro rows
  cases found : columnsOf rows txID with
  | none => exact ⟨id, .id, fun _ same => by simp only [decodeTransaction, same, id]⟩
  | some row =>
    exact ⟨_, applyFacts_writesFor ((decodeUpdate_id row payload).trans (columnsOf_id found)),
      fun _ same => by simp only [decodeTransaction, same]⟩

theorem any_deleteOf {Row : Type*} {owner : Row → Nat} (kept : txID ∉ gone) (rows : List Row) :
    ((deleteOf owner gone rows).any fun row => owner row = txID) =
      rows.any fun row => owner row = txID := by
  rw [Bool.eq_iff_iff, List.any_eq_true, List.any_eq_true]
  refine exists_congr fun row => ?_
  rw [mem_deleteOf, decide_eq_true_eq]
  constructor
  · exact fun found => ⟨found.1.1, found.2⟩
  · exact fun found => ⟨⟨found.1, found.2 ▸ kept⟩, found.2⟩

@[simp] theorem backfillIdentifiers_actions (rows : DerivedRows) :
    (backfillIdentifiers txID rows).actions = rows.actions := by
  unfold backfillIdentifiers
  split
  · rfl
  split
  · rfl
  split <;> rfl

theorem backfillIdentifiers_writesFor : WritesFor txID (backfillIdentifiers txID) := by
  refine ActsOn.choosing (fun rows : DerivedRows => ((columnsOf rows txID).bind
    TransactionColumns.identifiers, rows.identifiers.any fun row => row.transactionID = txID)) ?_ ?_
  · intro rows gone kept
    exact Prod.ext (congrArg (·.bind TransactionColumns.identifiers) (columnsOf_cut rows kept))
      (any_deleteOf kept rows.identifiers)
  · intro rows
    cases isList : (columnsOf rows txID).bind TransactionColumns.identifiers with
    | none =>
      exact ⟨id, .id, fun _ same => by simp only [backfillIdentifiers, (Prod.mk.inj same).1, id]⟩
    | some list =>
      by_cases done : (rows.identifiers.any fun row => row.transactionID = txID) ∨ list = []
      · refine ⟨id, .id, fun _ same => ?_⟩
        simp only [backfillIdentifiers, (Prod.mk.inj same).1, (Prod.mk.inj same).2]
        rcases done with done | done <;> simp [done]
      · rw [not_or] at done
        refine ⟨_, replaceTransactionIdentifiers_writesFor list, fun _ same => ?_⟩
        simp only [backfillIdentifiers, (Prod.mk.inj same).1, (Prod.mk.inj same).2]
        rw [if_neg done.1, if_neg done.2]

end Writes

/-! ## Current states -/

/-- A state of the height is stored over what the table has of the contract. -/
def admits (states : List ContractState) (address : Hash) (height : Nat) : Bool :=
  (states.find? fun state => state.address = address).all fun existing => existing.height ≤ height

variable {states : List ContractState}

theorem upsertCurrentState_of_not_admits {row : ContractState}
    (refused : admits states row.address row.height = false) :
    upsertCurrentState states row = states := by
  unfold admits at refused
  unfold upsertCurrentState
  split
  next none => simp [none] at refused
  next existing found =>
    rw [found] at refused
    exact if_pos (by simpa using refused)

/-- The row of a contract after an upsert. -/
theorem find_upsertCurrentState (states : List ContractState) (row : ContractState)
    (address : Hash) :
    ((upsertCurrentState states row).find? fun state => state.address = address) =
      if row.address = address ∧ admits states row.address row.height then some row
      else states.find? fun state => state.address = address := by
  cases admitted : admits states row.address row.height with
  | false =>
    rw [upsertCurrentState_of_not_admits admitted]
    simp
  | true =>
    unfold admits at admitted
    unfold upsertCurrentState
    split
    next none =>
      rw [List.find?_append]
      by_cases same : row.address = address
      · rw [← same, none]
        simp
      · simp [same]
    next existing found =>
      rw [found] at admitted
      have notBelow : ¬ row.height < existing.height := by simpa using admitted
      have keeps : ∀ state : ContractState, decide ((if state.address = row.address then row
          else state).address = address) = decide (state.address = address) := by
        intro state
        split
        next same => rw [same]
        · rfl
      rw [if_neg notBelow, updateOf, List.find?_map]
      simp only [Function.comp_def, keeps]
      by_cases same : row.address = address
      · rw [← same, found]
        have owned : existing.address = row.address := by simpa using List.find?_some found
        simp [owned]
      · rw [if_neg fun both => same both.1]
        cases other : states.find? fun state => state.address = address with
        | none => rfl
        | some state =>
          have named : state.address = address := by simpa using List.find?_some other
          have different : state.address ≠ row.address := fun equal => same (equal ▸ named)
          simp [different]

/-- A current state after an upsert is the row or was stored. -/
theorem mem_upsertCurrentState {row state : ContractState}
    (stored : state ∈ upsertCurrentState states row) : state = row ∨ state ∈ states := by
  unfold upsertCurrentState at stored
  split at stored
  · rcases List.mem_append.mp stored with old | new
    · exact .inr old
    · exact .inl (List.mem_singleton.mp new)
  split at stored
  · exact .inr stored
  · rcases List.mem_map.mp stored with ⟨old, listed, rfl⟩
    split
    · exact .inl rfl
    · exact .inr listed

theorem givenState_spec {config : SupplementConfig} {height : Nat}
    {pair : ContractAction × SupplementContractAction} {row : ContractState}
    (given : givenState config height pair = some row) :
    row.height = height ∧ row.contractActionID = pair.1.ID := by
  unfold givenState at given
  split at given
  · cases given
    exact ⟨rfl, rfl⟩
  · cases given

/-- Whether the current state of a contract becomes that of a paired action. -/
def recordsState (states : List ContractState) (height : Nat)
    (pairs : List (ContractAction × SupplementContractAction)) : Bool :=
  pairs.any fun pair => pair.2.state.isSome &&
    pair.1.address.any fun address => admits states address height

theorem recordsState_iff (config : SupplementConfig) {height : Nat}
    {pairs : List (ContractAction × SupplementContractAction)} :
    recordsState states height pairs ↔ ∃ pair ∈ pairs, ∃ row,
      givenState config height pair = some row ∧ admits states row.address height := by
  rw [recordsState, List.any_eq_true]
  refine exists_congr fun pair => and_congr_right fun _ => ?_
  unfold givenState
  cases pair.2.state <;> cases pair.1.address <;> simp

/-- One paired action is recorded, or changes nothing. -/
theorem assignCurrentState_cases (config : SupplementConfig) (height : Nat)
    (states : List ContractState) (pair : ContractAction × SupplementContractAction) :
    (∃ row, givenState config height pair = some row ∧ admits states row.address height ∧
      assignCurrentState config height states pair = upsertCurrentState states row) ∨
    ((∀ row, givenState config height pair = some row → admits states row.address height = false) ∧
      assignCurrentState config height states pair = states) := by
  unfold assignCurrentState
  cases given : givenState config height pair with
  | none =>
    refine .inr ⟨?_, rfl⟩
    intro row none
    cases none
  | some row =>
    have atHeight := (givenState_spec given).1
    cases admitted : admits states row.address height with
    | true => exact .inl ⟨row, rfl, admitted, rfl⟩
    | false =>
      refine .inr ⟨?_, upsertCurrentState_of_not_admits (by rw [atHeight, admitted])⟩
      rintro _ ⟨⟩
      exact admitted

section CurrentStates

variable {config : SupplementConfig} {height : Nat}
variable {pairs : List (ContractAction × SupplementContractAction)} {states : List ContractState}

/-- A new current state belongs to one of the paired actions, and one was recorded. -/
theorem mem_assignCurrentStates {state : ContractState}
    (stored : state ∈ pairs.foldl (assignCurrentState config height) states) :
    state ∈ states ∨ state.height = height ∧
      (∃ pair ∈ pairs, state.contractActionID = pair.1.ID) ∧ recordsState states height pairs := by
  induction pairs generalizing states with
  | nil => exact .inl stored
  | cons pair rest ih =>
    rw [List.foldl_cons] at stored
    rcases assignCurrentState_cases config height states pair with
      ⟨row, given, admitted, step⟩ | ⟨_, step⟩ <;> rw [step] at stored
    · have recorded : recordsState states height (pair :: rest) :=
        (recordsState_iff config).mpr ⟨pair, List.mem_cons_self, row, given, admitted⟩
      rcases givenState_spec given with ⟨atHeight, named⟩
      rcases ih stored with now | ⟨same, ⟨other, listed, called⟩, _⟩
      · rcases mem_upsertCurrentState now with rfl | old
        · exact .inr ⟨atHeight, ⟨pair, List.mem_cons_self, named⟩, recorded⟩
        · exact .inl old
      · exact .inr ⟨same, ⟨other, List.mem_cons_of_mem _ listed, called⟩, recorded⟩
    · rcases ih stored with old | ⟨same, ⟨other, listed, named⟩, recorded⟩
      · exact .inl old
      · rw [recordsState] at recorded ⊢
        rw [List.any_cons, recorded, Bool.or_true]
        exact .inr ⟨same, ⟨other, List.mem_cons_of_mem _ listed, named⟩, rfl⟩

/-- Once a state of the height is stored for a contract, the rest of the pairs leave one. -/
theorem find_assignCurrentStates {address : Hash} {actionIDs : List ActionID}
    (named : ∀ pair ∈ pairs, pair.1.ID ∈ actionIDs)
    (found : ∃ state, (states.find? fun state => state.address = address) = some state ∧
      state.height = height ∧ state.contractActionID ∈ actionIDs) :
    ∃ state, ((pairs.foldl (assignCurrentState config height) states).find?
        fun state => state.address = address) = some state ∧
      state.height = height ∧ state.contractActionID ∈ actionIDs := by
  induction pairs generalizing states with
  | nil => exact found
  | cons pair rest ih =>
    rcases List.forall_mem_cons.mp named with ⟨now, later⟩
    rw [List.foldl_cons]
    apply ih later
    rcases assignCurrentState_cases config height states pair with
      ⟨row, given, _, step⟩ | ⟨_, step⟩ <;> rw [step]
    · rw [find_upsertCurrentState]
      split
      · rcases givenState_spec given with ⟨atHeight, called⟩
        exact ⟨row, rfl, atHeight, called ▸ now⟩
      · exact found
    · exact found

/-- A recorded state is there after all pairs. -/
theorem exists_recorded {actionIDs : List ActionID} (named : ∀ pair ∈ pairs, pair.1.ID ∈ actionIDs)
    (recorded : recordsState states height pairs) :
    ∃ state ∈ pairs.foldl (assignCurrentState config height) states,
      state.height = height ∧ state.contractActionID ∈ actionIDs := by
  suffices found : ∃ address state, ((pairs.foldl (assignCurrentState config height) states).find?
        fun state => state.address = address) = some state ∧
      state.height = height ∧ state.contractActionID ∈ actionIDs by
    rcases found with ⟨address, state, found, atHeight, called⟩
    exact ⟨state, List.mem_of_find?_eq_some found, atHeight, called⟩
  induction pairs generalizing states with
  | nil => cases recorded
  | cons pair rest ih =>
    rcases List.forall_mem_cons.mp named with ⟨now, later⟩
    rw [List.foldl_cons]
    rcases assignCurrentState_cases config height states pair with
      ⟨row, given, admitted, step⟩ | ⟨refused, step⟩ <;> rw [step]
    · rcases givenState_spec given with ⟨atHeight, called⟩
      refine ⟨row.address, find_assignCurrentStates later ⟨row, ?_, atHeight, called ▸ now⟩⟩
      rw [find_upsertCurrentState]
      exact if_pos ⟨rfl, atHeight ▸ admitted⟩
    · apply ih later
      rcases (recordsState_iff config).mp recorded with ⟨first, listed, row, given, admitted⟩
      rcases List.mem_cons.mp listed with rfl | inRest
      · rw [refused row given] at admitted
        cases admitted
      · exact (recordsState_iff config).mpr ⟨first, inRest, row, given, admitted⟩

end CurrentStates

/-! ## References -/

/-- Every row refers to a transaction of the list, to a stored result or to a stored action. -/
structure DerivedRows.Intact (txIDs : List Nat) (rows : DerivedRows) : Prop where
  columns : RefersTo TransactionColumns.transactionID txIDs rows.columns
  results : RefersTo TransactionResult.transactionID txIDs rows.results
  segments : RefersTo TransactionSegment.transactionResultID
    (rows.results.map TransactionResult.ID) rows.segments
  fees : RefersTo TransactionFee.transactionID txIDs rows.fees
  identifiers : RefersTo TransactionIdentifier.transactionID txIDs rows.identifiers
  actions : RefersTo ContractAction.transactionID txIDs rows.actions
  balances : RefersTo ContractBalance.contractActionID (rows.actions.map ContractAction.ID)
    rows.balances
  zswapEvents : RefersTo ZswapLedgerEvent.transactionID txIDs rows.zswapEvents
  dustEvents : RefersTo DustLedgerEvent.transactionID txIDs rows.dustEvents

namespace DerivedRows.Intact

variable {txIDs : List Nat} {rows : DerivedRows} {txID : Nat}

variable (intact : rows.Intact txIDs)

include intact

theorem applyFee (fee : Option Nat) :
    (applyFee txID fee rows).Intact txIDs := by
  cases fee with
  | none => exact intact
  | some paidFees => exact { intact with
      fees := intact.fees.map (owner_updateOf fun _ => rfl) }

theorem applySegments (segments : List SupplementSegment) :
    (applySegments txID segments rows).Intact txIDs := by
  unfold Crawler.applySegments
  split
  · exact intact
  split
  · exact intact
  next result found =>
    have known : result.ID ∈ rows.results.map TransactionResult.ID :=
      List.mem_map_of_mem (List.mem_of_find?_eq_some found)
    exact { intact with
      segments := intact.segments.replaceOf (refersTo_map (fun _ => rfl) fun _ => known) }

theorem segmentOwners :
    RefersTo TransactionSegment.transactionResultID txIDs rows.segments :=
  intact.segments.trans _ id (fun _ => rfl) intact.results

theorem balanceOwners :
    RefersTo (fun balance : ContractBalance => balance.contractActionID.1) txIDs rows.balances :=
  intact.balances.trans _ Prod.fst (fun _ => rfl) intact.actions

/-- The rows of new transactions beside those stored. -/
theorem insert {fresh : List Nat} {new : DerivedRows}
    (added : new.Intact fresh) : (rows.insert new).Intact (txIDs ++ fresh) where
  columns := intact.columns.insert added.columns
  results := intact.results.insert added.results
  segments := by
    rw [DerivedRows.insert, List.map_append]
    exact intact.segments.insert added.segments
  fees := intact.fees.insert added.fees
  identifiers := intact.identifiers.insert added.identifiers
  actions := intact.actions.insert added.actions
  balances := by
    rw [DerivedRows.insert, List.map_append]
    exact intact.balances.insert added.balances
  zswapEvents := intact.zswapEvents.insert added.zswapEvents
  dustEvents := intact.dustEvents.insert added.dustEvents

/-- A deletion of new transactions too undoes the insertion of their rows. -/
theorem cut_insert {gone fresh : List Nat} {new : DerivedRows}
    (added : new.Intact fresh) (disjoint : ∀ txID ∈ txIDs, txID ∉ fresh) :
    (rows.insert new).cut (gone ++ fresh) = rows.cut gone := by
  unfold DerivedRows.cut DerivedRows.insert
  congr 1
  · exact deleteOf_new intact.columns added.columns disjoint
  · exact deleteOf_new intact.results added.results disjoint
  · exact deleteOf_new intact.segmentOwners added.segmentOwners disjoint
  · exact deleteOf_new intact.fees added.fees disjoint
  · exact deleteOf_new intact.identifiers added.identifiers disjoint
  · exact deleteOf_new intact.actions added.actions disjoint
  · exact deleteOf_new intact.balanceOwners added.balanceOwners disjoint
  · exact deleteOf_new intact.zswapEvents added.zswapEvents disjoint
  · exact deleteOf_new intact.dustEvents added.dustEvents disjoint

/-- The deletions of a rollback, made through the results and actions, are those of the
transactions' rows. -/
theorem without_eq_cut (gone : List Nat) :
    rows.without gone = rows.cut gone := by
  simp only [DerivedRows.without, DerivedRows.cut]
  congr 1
  · apply deleteOf_congr
    intro segment stored
    exact mem_map_removed _ id (fun _ => rfl) (intact.segments segment stored)
  · apply List.filter_congr
    intro balance stored
    simp only [mem_map_removed ContractAction.transactionID Prod.fst (fun _ => rfl)
      (intact.balances balance stored)]

/-- The rows left refer to the transactions left. -/
theorem cut {gone left : List Nat}
    (stays : ∀ txID ∈ txIDs, txID ∉ gone → txID ∈ left) : (rows.cut gone).Intact left where
  columns := intact.columns.deleteOf stays
  results := intact.results.deleteOf stays
  segments := by
    apply intact.segments.deleteOf
    intro resultID known kept
    rcases List.mem_map.mp known with ⟨result, stored, rfl⟩
    exact List.mem_map_of_mem (mem_deleteOf.mpr ⟨stored, kept⟩)
  fees := intact.fees.deleteOf stays
  identifiers := intact.identifiers.deleteOf stays
  actions := intact.actions.deleteOf stays
  balances := by
    intro balance listed
    rcases mem_deleteOf.mp listed with ⟨stored, kept⟩
    rcases List.mem_map.mp (intact.balances balance stored) with ⟨action, known, same⟩
    rw [← same] at kept ⊢
    exact List.mem_map_of_mem (mem_deleteOf.mpr ⟨known, kept⟩)
  zswapEvents := intact.zswapEvents.deleteOf stays
  dustEvents := intact.dustEvents.deleteOf stays

/-- One action changes, but not what names it. -/
theorem updateAction {actionID : ActionID}
    {change : ContractAction → ContractAction} (keeps : ∀ stored, (change stored).ID = stored.ID) :
    Intact txIDs { rows with
      actions := updateOf ContractAction.ID actionID change rows.actions } where
  columns := intact.columns
  results := intact.results
  segments := intact.segments
  fees := intact.fees
  identifiers := intact.identifiers
  actions := intact.actions.map fun stored =>
    congrArg Prod.fst (owner_updateOf keeps stored)
  balances := by
    rw [map_updateOf keeps]
    exact intact.balances
  zswapEvents := intact.zswapEvents
  dustEvents := intact.dustEvents

theorem assignRows (config : SupplementConfig) {pair : ContractAction × SupplementContractAction}
    (known : pair.1.ID ∈ rows.actions.map ContractAction.ID) :
    (assignRows config rows pair).Intact txIDs := by
  have set : (setActionState config pair.1 pair.2 rows).Intact txIDs :=
    intact.updateAction fun _ => rfl
  have same : (setActionState config pair.1 pair.2 rows).actions.map ContractAction.ID =
      rows.actions.map ContractAction.ID := map_updateOf fun _ => rfl
  exact { set with
    balances := set.balances.replaceOf (refersTo_map (fun _ => rfl) fun _ => same ▸ known) }

theorem assignAll (config : SupplementConfig) (reported : List SupplementContractAction) :
    (assignAll config txID reported rows).Intact txIDs := by
  suffices all : ∀ pairs : List (ContractAction × SupplementContractAction),
      (∀ pair ∈ pairs, pair.1.ID ∈ rows.actions.map ContractAction.ID) →
      (pairs.foldl (Crawler.assignRows config) rows).Intact txIDs by
    apply all
    intro pair paired
    exact List.mem_map_of_mem (mem_actionsOf.mp (mem_pairedActions paired).1).1
  intro pairs
  induction pairs generalizing rows with
  | nil => exact fun _ => intact
  | cons pair rest ih =>
    intro known
    rcases List.forall_mem_cons.mp known with ⟨now, later⟩
    have same : (Crawler.assignRows config rows pair).actions.map ContractAction.ID =
        rows.actions.map ContractAction.ID := map_updateOf fun _ => rfl
    exact ih (intact.assignRows config now) (same ▸ later)

theorem replaceZswapEvents {events : List SupplementLedgerEvent}
    (known : events ≠ [] → txID ∈ txIDs) :
    (replaceZswapEvents txID events rows).Intact txIDs :=
  { intact with
    zswapEvents := intact.zswapEvents.replaceOf (refersTo_map (fun _ => rfl) known) }

theorem replaceDustEvents {events : List SupplementDustEvent} (known : events ≠ [] → txID ∈ txIDs) :
    (replaceDustEvents txID events rows).Intact txIDs :=
  { intact with
    dustEvents := intact.dustEvents.replaceOf (refersTo_map (fun _ => rfl) known) }

/-- The supplement's writes: rows without a transaction appear only when it reports events for a
transaction that is not stored. -/
theorem supplementRows (config : SupplementConfig) {answer : SupplementTransaction}
    (zswap : answer.zswapEvents ≠ [] → txID ∈ txIDs) (dust : answer.dustEvents ≠ [] → txID ∈ txIDs)
    :
    (supplementRows config txID answer rows).Intact txIDs :=
  ((((intact.applyFee answer.fee).applySegments answer.segments).assignAll config
    answer.contractActions).replaceZswapEvents zswap).replaceDustEvents dust

theorem setColumns {change : TransactionColumns → TransactionColumns}
    (keeps : ∀ row, (change row).transactionID = row.transactionID) :
    (setColumns txID change rows).Intact txIDs :=
  { intact with columns := intact.columns.map (owner_updateOf keeps) }

theorem replaceTransactionIdentifiers {identifiers : List Hash}
    (known : identifiers ≠ [] → txID ∈ txIDs) :
    (replaceTransactionIdentifiers txID identifiers rows).Intact txIDs := by
  refine { intact with identifiers := intact.identifiers.replaceOf ?_ }
  intro row listed
  rcases List.mem_map.mp listed with ⟨identifier, decoded, rfl⟩
  exact known (List.ne_nil_of_mem (List.mem_eraseDups.mp decoded))

theorem nameCalls (declared : List DeclaredContractAction) :
    (nameCalls txID declared rows).Intact txIDs := by
  unfold Crawler.nameCalls
  generalize namedCalls (callsOf rows txID) declared = calls
  induction calls generalizing rows with
  | nil => exact intact
  | cons call rest ih => exact ih (intact.updateAction fun _ => rfl)

theorem applyFacts {update : DecodeUpdate}
    (known : ∀ facts, update.facts = some facts → facts.identifiers ≠ [] → update.id ∈ txIDs) :
    (applyFacts update rows).Intact txIDs := by
  unfold Crawler.applyFacts
  split
  · exact intact.setColumns fun _ => rfl
  next facts decoded =>
    have columns : (Crawler.setColumns update.id
        (·.decoded facts update.state update.txType) rows).Intact txIDs :=
      intact.setColumns fun _ => rfl
    exact (columns.replaceTransactionIdentifiers (known facts decoded)).nameCalls
      facts.contractActions

theorem decodeTransaction (payload : LedgerPayload) :
    (decodeTransaction txID payload rows).Intact txIDs := by
  unfold Crawler.decodeTransaction
  split
  · exact intact
  next row found =>
    have listed : row.transactionID ∈ txIDs :=
      intact.columns row (List.mem_of_find?_eq_some found)
    exact intact.applyFacts fun _ _ _ => decodeUpdate_id row payload ▸ listed

theorem backfillIdentifiers :
    (backfillIdentifiers txID rows).Intact txIDs := by
  unfold Crawler.backfillIdentifiers
  split
  · exact intact
  next list stored =>
    split
    · exact intact
    split
    · exact intact
    rcases Option.bind_eq_some_iff.mp stored with ⟨row, found, _⟩
    have listed := intact.columns row (List.mem_of_find?_eq_some found)
    exact intact.replaceTransactionIdentifiers fun _ => columnsOf_id found ▸ listed

end DerivedRows.Intact

/-- The rows of new transactions refer to them. -/
theorem derivedRows_intact (txIDs : List Nat) (extrinsics : List IndexedExtrinsic) :
    (derivedRows txIDs extrinsics).Intact txIDs where
  columns := by
    intro row listed
    rcases List.mem_mapIdx.mp listed with ⟨position, inside, rfl⟩
    exact (List.of_mem_zip (List.getElem_mem inside)).1
  results := by
    intro row listed
    rcases List.mem_flatMap.mp listed with ⟨entry, paired, inEntry⟩
    rcases List.mem_map.mp inEntry with ⟨status, _, rfl⟩
    exact (List.of_mem_zip paired).1
  segments := nofun
  fees := by
    intro row listed
    rcases List.mem_map.mp listed with ⟨entry, paired, rfl⟩
    exact (List.of_mem_zip paired).1
  identifiers := nofun
  actions := by
    intro row listed
    rcases List.mem_flatMap.mp listed with ⟨entry, paired, inEntry⟩
    rcases List.mem_mapIdx.mp inEntry with ⟨index, _, rfl⟩
    exact (List.of_mem_zip paired).1
  balances := nofun
  zswapEvents := nofun
  dustEvents := nofun

end Nightgate.Crawler
