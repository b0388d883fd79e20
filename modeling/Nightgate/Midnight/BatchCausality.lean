import Nightgate.Library.StageOrder
import Nightgate.Midnight.BatchSegments

/-!
# The ledger's causality constraint on a batch

The ledger applies every guaranteed stage before any fallible stage. A batch in which a
call with a fallible part stands before one with a guaranteed part is refused before it
is proved.
-/

namespace Nightgate.Midnight

open Nightgate.Library

variable {Intent : Type}

structure OrderedCall where
  name : String
  segId : Nat
  guaranteed : Bool
  fallible : Bool

def OrderedCall.notBehind (a b : OrderedCall) : Prop :=
  a.segId ≤ b.segId

instance : DecidableRel OrderedCall.notBehind :=
  fun a b => inferInstanceAs (Decidable (a.segId ≤ b.segId))

def orderedCall (reader : IntentReader Intent) (entry : Segment Intent) : OrderedCall where
  name := reader.callName entry.2
  segId := entry.1
  guaranteed := reader.guaranteed entry.2
  fallible := reader.fallible entry.2

/-- The calls under their segment ids. Parts without a circuit name are skipped. -/
def namedCalls (reader : IntentReader Intent) (entries : List (Segment Intent)) :
    List OrderedCall :=
  (entries.filter fun entry => reader.callName entry.2 ≠ "").map (orderedCall reader)

/-- Contract calls in apply order. -/
def orderedCalls (reader : IntentReader Intent) (tx : BatchTransaction Intent) :
    List OrderedCall :=
  match tx.intents with
  | none => []
  | some intents => (namedCalls reader intents.entries).insertionSort OrderedCall.notBehind

theorem orderedCalls_some (reader : IntentReader Intent) (intents : InsertionMap Nat Intent) :
    orderedCalls reader ⟨some intents⟩ =
      (namedCalls reader intents.entries).insertionSort OrderedCall.notBehind :=
  rfl

/-- The first call with a fallible part that has a guaranteed part behind it. -/
def violatingPair : List OrderedCall → Option (OrderedCall × OrderedCall)
  | [] => none
  | call :: behind =>
    if call.fallible then
      match behind.find? (·.guaranteed) with
      | some later => some (call, later)
      | none => violatingPair behind
    else violatingPair behind

def violationText (call later : OrderedCall) : String :=
  "'" ++ call.name ++ "' (segment " ++ toString call.segId ++
    ") carries a FALLIBLE transcript while " ++
    "'" ++ later.name ++ "' (segment " ++ toString later.segId ++
    ") behind it carries a GUARANTEED one. The ledger " ++
    "applies every guaranteed stage before any fallible stage, so the later call would run " ++
    "against state the earlier one has not written yet, and the node rejects the transaction " ++
    "as 1010/188. Which stage a call lands in is decided by its gas cost and therefore MOVES " ++
    "as the contract state grows. Submit the fallible call as its own transaction and batch " ++
    "the rest"

/-- Why the ledger would reject the order. -/
def findCausalityViolation (reader : IntentReader Intent) (tx : BatchTransaction Intent) :
    Option String :=
  (violatingPair (orderedCalls reader tx)).map fun pair => violationText pair.1 pair.2

def transcriptStages (reader : IntentReader Intent) (intent : Intent) : String :=
  match reader.gas intent with
  | none => "?"
  | some (guaranteedGas, fallibleGas) =>
    let g := if reader.guaranteed intent then "g" ++ guaranteedGas else ""
    let f := if reader.fallible intent then "f" ++ fallibleGas else ""
    let stages := g ++ (if reader.guaranteed intent && reader.fallible intent then "+" else "") ++ f
    if stages = "" then "-" else stages

/-- One call of a batch with its apply position and execution stages, for a structured error. -/
structure BatchCallStage where
  name : String
  segId : Nat
  /-- `g`, `f` or `g+f`, with gas figures when known. `-` when the SDK shows no parts. -/
  stages : String

/-- The batch's contract calls in apply order with their stages. -/
def batchCallStages (reader : IntentReader Intent) (tx : BatchTransaction Intent) :
    List BatchCallStage :=
  (orderedCalls reader tx).map fun call =>
    { name := call.name
      segId := call.segId
      stages := ((tx.intents.bind (·.get? call.segId)).map (transcriptStages reader)).getD "-" }

/-- Why a batch is not handed to the prover: the transaction does not match the call list,
the ledger would reject the order, or the preflight stops the build. -/
inductive BatchOrderError where
  | unmatched (circuits : List CircuitName)
  | causalityViolation (circuits : List CircuitName) (violation : String)
      (calls : List BatchCallStage)
  | preflight (message : String)

/-- The transaction the wrapped provider proves, or the error it throws. The preflight runs
on the ordered transaction; without a message it lets the build go on. -/
def orderedForProof [DecidableEq Intent] (reader : IntentReader Intent)
    (tx : BatchTransaction Intent) (circuits : List CircuitName) (opts : BatchOrderOptions)
    (preflight : BatchTransaction Intent → Option String) :
    Except BatchOrderError (BatchTransaction Intent) :=
  if circuits.length < 2 then .ok tx
  else
    match orderBatchSegments reader tx circuits opts with
    | (false, _) => .error (.unmatched circuits)
    | (true, ordered) =>
      match findCausalityViolation reader ordered with
      | some violation =>
        .error (.causalityViolation circuits violation (batchCallStages reader ordered))
      | none =>
        match preflight ordered with
        | some message => .error (.preflight message)
        | none => .ok ordered

section Violations

/-- A list of calls has no violating pair when it is causal. -/
theorem violatingPair_eq_none {calls : List OrderedCall} :
    violatingPair calls = none ↔ Causal OrderedCall.guaranteed OrderedCall.fallible calls := by
  induction calls with
  | nil => simp [violatingPair, Causal]
  | cons call behind ih =>
    rw [Causal, List.pairwise_cons, ← Causal, ← ih]
    cases starts : call.fallible with
    | false => simp [violatingPair, starts]
    | true =>
      simp only [violatingPair, starts, if_true, forall_const]
      cases found : behind.find? (·.guaranteed) with
      | some later =>
        have isGuaranteed : later.guaranteed = true := List.find?_some found
        have isBehind := List.mem_of_find?_eq_some found
        simp only [reduceCtorEq, false_iff, not_and]
        intro plain
        rw [plain later isBehind] at isGuaranteed
        cases isGuaranteed
      | none =>
        have plain : ∀ later ∈ behind, later.guaranteed = false := by
          simpa using List.find?_eq_none.mp found
        exact (and_iff_right plain).symm

theorem findCausalityViolation_eq_none {reader : IntentReader Intent}
    {tx : BatchTransaction Intent} :
    findCausalityViolation reader tx = none ↔
      Causal OrderedCall.guaranteed OrderedCall.fallible (orderedCalls reader tx) := by
  rw [findCausalityViolation, Option.map_eq_none_iff, violatingPair_eq_none]

/-- The report of a violation names the batch's calls, each with the stages of its own intent. -/
theorem mem_batchCallStages {reader : IntentReader Intent} {intents : InsertionMap Nat Intent}
    {stage : BatchCallStage} :
    stage ∈ batchCallStages reader ⟨some intents⟩ ↔
      ∃ entry ∈ intents.entries, reader.callName entry.2 ≠ "" ∧
        stage = ⟨reader.callName entry.2, entry.1, transcriptStages reader entry.2⟩ := by
  have found {entry : Segment Intent} (isStored : entry ∈ intents.entries) :
      intents.get? entry.1 = some entry.2 := InsertionMap.get?_eq_some_iff.mpr isStored
  simp only [batchCallStages, orderedCalls_some, List.mem_map,
    (List.perm_insertionSort OrderedCall.notBehind _).mem_iff, namedCalls, List.mem_filter]
  constructor
  · rintro ⟨_, ⟨entry, ⟨isStored, isCall⟩, rfl⟩, rfl⟩
    exact ⟨entry, isStored, by simpa using isCall, by simp [orderedCall, found isStored]⟩
  · rintro ⟨entry, isStored, isCall, rfl⟩
    exact ⟨_, ⟨entry, ⟨isStored, by simpa using isCall⟩, rfl⟩,
      by simp [orderedCall, found isStored]⟩

/-- A single call is proved as it is. Of several calls, the prover gets the batch's own intents
under its own ids, in an order the ledger accepts and the preflight passes, or nothing. -/
theorem orderedForProof_sound [DecidableEq Intent] (reader : IntentReader Intent)
    (tx : BatchTransaction Intent) (circuits : List CircuitName) (opts : BatchOrderOptions)
    (preflight : BatchTransaction Intent → Option String) :
    match orderedForProof reader tx circuits opts preflight with
    | .ok ordered => (circuits.length < 2 ∧ ordered = tx) ∨
        ∃ before after, tx.intents = some before ∧ ordered.intents = some after ∧
          (after.entries.map Prod.snd).Perm (before.entries.map Prod.snd) ∧
          (after.entries.map Prod.fst).Perm (before.entries.map Prod.fst) ∧
          Causal OrderedCall.guaranteed OrderedCall.fallible (orderedCalls reader ordered) ∧
          preflight ordered = none
    | .error _ => 2 ≤ circuits.length := by
  rw [orderedForProof]
  by_cases single : circuits.length < 2
  · rw [if_pos single]
    exact Or.inl ⟨single, rfl⟩
  · rw [if_neg single]
    have several := Nat.le_of_not_lt single
    rcases orderBatchSegments_cases reader tx circuits opts with
      unchanged | ⟨intents, picked, isMap, isPick, sameSize, isOrdered⟩
    · rw [unchanged]
      exact several
    · rw [isOrdered]
      dsimp only
      cases holds : findCausalityViolation reader _ with
      | some violation => exact several
      | none =>
        cases passes : preflight _ with
        | some message => exact several
        | none =>
          obtain ⟨stored, distinct, _⟩ :=
            (pickCalls_sound isPick).of_perm (chosenOrder_perm reader opts picked)
          exact Or.inr ⟨intents, _, isMap, rfl, renumber_intents_perm stored distinct sameSize,
            renumber_ids_perm stored distinct sameSize,
            findCausalityViolation_eq_none.mp holds, passes⟩

end Violations

section Grouping

variable {reader : IntentReader Intent} {intents : InsertionMap Nat Intent}
  {circuits : List CircuitName} {picked order : List (Segment Intent)}

/-- The call list names every call the transaction carries. -/
def ListsEveryCall (reader : IntentReader Intent) (tx : BatchTransaction Intent)
    (circuits : List CircuitName) : Prop :=
  (orderedCalls reader tx).length = circuits.length

instance (reader : IntentReader Intent) (tx : BatchTransaction Intent)
    (circuits : List CircuitName) : Decidable (ListsEveryCall reader tx circuits) :=
  inferInstanceAs (Decidable ((orderedCalls reader tx).length = circuits.length))

/-- When the call list is complete, every call of the transaction is picked. -/
theorem PickedFrom.complete (chosen : PickedFrom reader intents circuits picked)
    (every : ListsEveryCall reader ⟨some intents⟩ circuits) {entry : Segment Intent}
    (isStored : entry ∈ intents.entries) (isCall : reader.callName entry.2 ≠ "") :
    entry ∈ picked := by
  have part : picked.Subperm
      (intents.entries.filter fun entry => reader.callName entry.2 ≠ "") := by
    refine List.subperm_of_subset (chosen.distinct.of_map Prod.fst) ?_
    intro call isPicked
    exact List.mem_filter.mpr ⟨chosen.stored call isPicked, by simpa using chosen.named isPicked⟩
  have sameLength : picked.length = circuits.length := by
    simpa using congrArg List.length chosen.names
  have calls : (intents.entries.filter fun entry => reader.callName entry.2 ≠ "").length =
      circuits.length := by
    simpa [ListsEveryCall, orderedCalls, namedCalls] using every
  have same := part.perm_of_length_le (by rw [calls, sameLength])
  exact same.mem_iff.mpr (List.mem_filter.mpr ⟨isStored, by simpa using isCall⟩)

/-- The calls that keep their place, and the calls that may be grouped. -/
def fixedCalls (opts : BatchOrderOptions) (picked : List (Segment Intent)) :
    List (Segment Intent) :=
  picked.take (fixedPrefix opts picked.length)

def freeCalls (opts : BatchOrderOptions) (picked : List (Segment Intent)) :
    List (Segment Intent) :=
  picked.drop (fixedPrefix opts picked.length)

/-- A remaining call has both effects, no other has, a fallible-only call stands before it,
and no call of the fixed prefix has a fallible effect. -/
def GroupingClash (reader : IntentReader Intent) (opts : BatchOrderOptions)
    (picked : List (Segment Intent)) : Prop :=
  StageClash (fun entry => reader.guaranteed entry.2) (fun entry => reader.fallible entry.2)
    (fixedCalls opts picked) (freeCalls opts picked)

theorem chosenOrder_independent {opts : BatchOrderOptions} (independent : opts.independentCalls) :
    chosenOrder reader opts picked = fixedCalls opts picked ++
      groupedStages (fun entry => reader.fallible entry.2) (freeCalls opts picked) := by
  rw [chosenOrder, if_pos independent, groupByStage_eq, stageGroups, List.append_assoc]
  rfl

variable [DecidableEq Intent]

/-- The calls of a renumbered batch apply in the order their ids were given out. -/
theorem orderedCalls_renumber (stored : ∀ entry ∈ order, entry ∈ intents.entries)
    (distinct : (order.map Prod.fst).Nodup) (named : ∀ entry ∈ order, reader.callName entry.2 ≠ "")
    (complete : ∀ entry ∈ intents.entries, reader.callName entry.2 ≠ "" → entry ∈ order) :
    orderedCalls reader ⟨some (renumber intents order)⟩ =
      (renumbered order).map (orderedCall reader) := by
  have noneKept : (keptSegments intents order).filter
      (fun entry => reader.callName entry.2 ≠ "") = [] := by
    rw [List.filter_eq_nil_iff]
    intro entry isKept isCall
    obtain ⟨isStored, notPicked⟩ := List.mem_filter.mp isKept
    have isPicked := complete entry isStored (by simpa using isCall)
    exact of_decide_eq_true notPicked (List.mem_map_of_mem isPicked)
  have allCalls : (renumbered order).filter (fun entry => reader.callName entry.2 ≠ "") =
      renumbered order := by
    rw [List.filter_eq_self]
    intro entry isGiven
    have isIntent : entry.2 ∈ order.map Prod.snd :=
      renumbered_intents order ▸ List.mem_map_of_mem (f := Prod.snd) isGiven
    rcases List.mem_map.mp isIntent with ⟨call, isCall, same⟩
    simpa [← same] using named call isCall
  have ascending : ((renumbered order).map (orderedCall reader)).Pairwise
      OrderedCall.notBehind := by
    have ids := sortedIds_ascending distinct
    rw [← renumbered_ids, List.pairwise_map] at ids
    exact List.pairwise_map.mpr (ids.imp fun lower => lower.le)
  rw [orderedCalls_some, namedCalls, renumber_entries stored distinct, List.filter_append, noneKept,
    allCalls, List.nil_append]
  exact ascending.insertionSort_eq

/-- The constraint on the renumbered transaction is the constraint on the order of its calls. -/
theorem renumber_violation_eq_none (stored : ∀ entry ∈ order, entry ∈ intents.entries)
    (distinct : (order.map Prod.fst).Nodup) (named : ∀ entry ∈ order, reader.callName entry.2 ≠ "")
    (complete : ∀ entry ∈ intents.entries, reader.callName entry.2 ≠ "" → entry ∈ order) :
    findCausalityViolation reader ⟨some (renumber intents order)⟩ = none ↔
      Causal (fun entry => reader.guaranteed entry.2) (fun entry => reader.fallible entry.2)
        order := by
  have calls (entries : List (Segment Intent)) :
      Causal (fun entry => reader.guaranteed entry.2) (fun entry => reader.fallible entry.2)
        entries ↔ Causal reader.guaranteed reader.fallible (entries.map Prod.snd) := by
    rw [Causal, Causal, List.pairwise_map]
  rw [findCausalityViolation_eq_none, orderedCalls_renumber stored distinct named complete, calls,
    ← renumbered_intents, ← calls]
  exact List.pairwise_map

/-- Stage grouping finds a causal order wherever some order of the remaining calls is
causal, exactly when the calls do not clash. -/
theorem stage_grouping_finds_order_iff {tx ordered : BatchTransaction Intent}
    {opts : BatchOrderOptions} (isMap : tx.intents = some intents)
    (isPick : pickCalls reader intents circuits opts = some picked)
    (independent : opts.independentCalls = true) (every : ListsEveryCall reader tx circuits)
    (isOrdered : orderBatchSegments reader tx circuits opts = (true, ordered)) :
    ((∃ order, order.Perm (freeCalls opts picked) ∧ findCausalityViolation reader
          ⟨some (renumber intents (fixedCalls opts picked ++ order))⟩ = none) →
      findCausalityViolation reader ordered = none) ↔ ¬ GroupingClash reader opts picked := by
  have chosen := pickCalls_sound isPick
  have isTx : tx = ⟨some intents⟩ := by
    cases tx
    exact congrArg BatchTransaction.mk isMap
  rw [isTx] at every
  have causality {order : List (Segment Intent)} (same : order.Perm picked) :
      findCausalityViolation reader ⟨some (renumber intents order)⟩ = none ↔
        Causal (fun entry => reader.guaranteed entry.2) (fun entry => reader.fallible entry.2)
          order := by
    obtain ⟨stored, distinct, named⟩ := chosen.of_perm same
    exact renumber_violation_eq_none stored distinct named fun entry isStored isCall =>
      same.mem_iff.mpr (chosen.complete every isStored isCall)
  have isResult : ordered = ⟨some (renumber intents (chosenOrder reader opts picked))⟩ := by
    rcases orderBatchSegments_cases reader tx circuits opts with
      unchanged | ⟨intents', picked', isMap', isPick', _, result⟩
    · rw [unchanged] at isOrdered
      cases isOrdered
    · rw [isMap] at isMap'
      cases isMap'
      rw [isPick] at isPick'
      cases isPick'
      rw [result] at isOrdered
      exact (congrArg Prod.snd isOrdered).symm
  have whole {order : List (Segment Intent)} (same : order.Perm (freeCalls opts picked)) :
      (fixedCalls opts picked ++ order).Perm picked := by
    have parts := same.append_left (fixedCalls opts picked)
    rwa [fixedCalls, freeCalls, List.take_append_drop] at parts
  rw [isResult, causality (chosenOrder_perm reader opts picked),
    chosenOrder_independent independent, GroupingClash, ← groupedStages_causal_iff]
  constructor
  · rintro finds ⟨order, same, causal⟩
    exact finds ⟨order, same, (causality (whole same)).mpr causal⟩
  · rintro finds ⟨order, same, holds⟩
    exact finds ⟨order, same, (causality (whole same)).mp holds⟩

end Grouping

section Cart

/-- Intents that are read as the lists of their actions. -/
def plainReader : IntentReader (List SegmentAction) where
  actions := id
  decode := fun _ => ""
  gas := fun _ => some ("", "")

/-- The predicate proof of a cart, with a fallible part only. -/
def predicateProof : List SegmentAction :=
  [⟨.text "proveFieldPredicate", false, true⟩]

/-- The membership proof of a cart. -/
def membershipProof (fallible : Bool) : List SegmentAction :=
  [⟨.text "proveFieldMembership", true, fallible⟩]

def cartIntents (fallible : Bool) : InsertionMap Nat (List SegmentAction) where
  entries := [(20, membershipProof fallible), (10, predicateProof)]
  distinct := by simp

def cartCircuits : List CircuitName :=
  [⟨"proveFieldPredicate", by decide⟩, ⟨"proveFieldMembership", by decide⟩]

def cartOptions : BatchOrderOptions where
  independentCalls := true
  orderedPrefix := none
  segmentIds := none

/-- The calls of the cart in call order. -/
def cartCalls (fallible : Bool) : List (Segment (List SegmentAction)) :=
  [(10, predicateProof), (20, membershipProof fallible)]

/-- The cart with its segment ids given out anew. -/
def orderedCart (fallible : Bool) : BatchTransaction (List SegmentAction) where
  intents := some (renumber (cartIntents fallible)
    (chosenOrder plainReader cartOptions (cartCalls fallible)))

theorem cart_picked (fallible : Bool) :
    pickCalls plainReader (cartIntents fallible) cartCircuits cartOptions =
      some (cartCalls fallible) := by
  cases fallible <;> decide +kernel

theorem cart_listed (fallible : Bool) :
    ListsEveryCall plainReader ⟨some (cartIntents fallible)⟩ cartCircuits := by
  cases fallible <;> decide +kernel

theorem cart_ordered (fallible : Bool) :
    orderBatchSegments plainReader ⟨some (cartIntents fallible)⟩ cartCircuits cartOptions =
      (true, orderedCart fallible) := by
  cases fallible <;> rfl

/-- A guaranteed membership proof moves before the predicate proof. -/
theorem stage_grouping_finds_order_guaranteed :
    ((∃ order, order.Perm (freeCalls cartOptions (cartCalls false)) ∧
        findCausalityViolation plainReader ⟨some (renumber (cartIntents false)
            (fixedCalls cartOptions (cartCalls false) ++ order))⟩ = none) →
      findCausalityViolation plainReader (orderedCart false) = none) ↔
      ¬ GroupingClash plainReader cartOptions (cartCalls false) :=
  stage_grouping_finds_order_iff rfl (cart_picked false) rfl (cart_listed false)
    (cart_ordered false)

/-- With both parts on the membership proof, the predicate proof stays before it, although
the other order is causal. -/
theorem stage_grouping_misses_order :
    ListsEveryCall plainReader ⟨some (cartIntents true)⟩ cartCircuits ∧
      orderBatchSegments plainReader ⟨some (cartIntents true)⟩ cartCircuits cartOptions =
        (true, orderedCart true) ∧
      ¬ ((∃ order, order.Perm (freeCalls cartOptions (cartCalls true)) ∧
          findCausalityViolation plainReader ⟨some (renumber (cartIntents true)
              (fixedCalls cartOptions (cartCalls true) ++ order))⟩ = none) →
        findCausalityViolation plainReader (orderedCart true) = none) := by
  refine ⟨cart_listed true, cart_ordered true, ?_⟩
  intro finds
  have chosen := finds ⟨[(20, membershipProof true), (10, predicateProof)],
    by decide +kernel, by decide +kernel⟩
  have violated : findCausalityViolation plainReader (orderedCart true) ≠ none := by
    decide +kernel
  exact violated chosen

end Cart

end Nightgate.Midnight
