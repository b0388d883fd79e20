import Mathlib.Data.List.Sort
import Mathlib.Data.Rat.Floor
import Nightgate.Library.InsertionMap

/-!
# Segment ids of a batch

Every call of a batch got a random segment id when it was built, and the ledger
applies calls by ascending id. Before proving, the ids are given out anew among
the calls, in call order.
-/

namespace Nightgate.Midnight

open Nightgate.Library

/-- The entry point of an action, as text, as bytes, or not there at all. -/
inductive EntryPoint where
  | text (name : String)
  | bytes (utf8 : List UInt8)
  | absent
  deriving DecidableEq

structure SegmentAction where
  entryPoint : EntryPoint
  guaranteedTranscript : Bool
  fallibleTranscript : Bool
  deriving DecidableEq

/-- How the objects of the SDK are read. Two intents are equal when they are one object. -/
structure IntentReader (Intent : Type) where
  actions : Intent → List SegmentAction
  decode : List UInt8 → String
  /-- The gas figures of the call's guaranteed and fallible parts; none when reading them throws. -/
  gas : Intent → Option (String × String)

/-- The name of a circuit of a contract. -/
structure CircuitName where
  name : String
  named : name ≠ ""

structure BatchTransaction (Intent : Type) where
  intents : Option (InsertionMap Nat Intent)

structure BatchOrderOptions where
  /-- Calls behind the ordered prefix do not depend on each other. -/
  independentCalls : Bool
  orderedPrefix : Option ℚ
  /-- The id each call got when it was built; none where there was not exactly one. -/
  segmentIds : Option (List (Option Nat))

/-- An intent under its segment id. -/
abbrev Segment (Intent : Type) := Nat × Intent

namespace IntentReader

variable {Intent : Type} (reader : IntentReader Intent)

def entryPointName : EntryPoint → String
  | .text name => name
  | .bytes utf8 => reader.decode utf8
  | .absent => ""

/-- The name of the call an intent carries, empty when it carries none. -/
def callName (intent : Intent) : String :=
  match (reader.actions intent).head? with
  | some action => reader.entryPointName action.entryPoint
  | none => ""

def guaranteed (intent : Intent) : Bool :=
  (reader.actions intent).head?.any (·.guaranteedTranscript)

def fallible (intent : Intent) : Bool :=
  (reader.actions intent).head?.any (·.fallibleTranscript)

end IntentReader

variable {Intent : Type}

section Picking

variable (reader : IntentReader Intent)

/-- The intent a build-time id leads to, when it carries the call of that place. -/
def pickById (intents : InsertionMap Nat Intent) (segmentId : Option Nat)
    (circuit : CircuitName) : Option (Segment Intent) :=
  match segmentId with
  | none => none
  | some segId =>
    match intents.get? segId with
    | none => none
    | some intent =>
      if reader.callName intent = circuit.name then some (segId, intent) else none

/-- The intents in call order, matched by build-time segment id. -/
def pickBySegmentIds (intents : InsertionMap Nat Intent) (circuits : List CircuitName)
    (segmentIds : Option (List (Option Nat))) : Option (List (Segment Intent)) :=
  match segmentIds with
  | none => none
  | some ids =>
    if ids.length ≠ circuits.length then none
    else if ¬ ids.Nodup then none
    else (ids.zip circuits).mapM fun place => pickById reader intents place.1 place.2

/-- The intents of each circuit, in the order of the map. -/
def poolsOf (entries : List (Segment Intent)) (name : String) : List (Segment Intent) :=
  entries.filter fun entry => reader.callName entry.2 = name

/-- Takes the next intent of its pool for each circuit. -/
def pickFromPools (pools : String → List (Segment Intent)) :
    List CircuitName → Option (List (Segment Intent))
  | [] => some []
  | circuit :: rest =>
    match pools circuit.name with
    | [] => none
    | entry :: left =>
      (pickFromPools (Function.update pools circuit.name left) rest).map (entry :: ·)

/-- The intents of the calls in the given call order. -/
def pickCalls (intents : InsertionMap Nat Intent) (circuits : List CircuitName)
    (opts : BatchOrderOptions) : Option (List (Segment Intent)) :=
  match pickBySegmentIds reader intents circuits opts.segmentIds with
  | some picked => some picked
  | none => pickFromPools (poolsOf reader intents.entries) circuits

end Picking

section Grouping

variable (reader : IntentReader Intent)

/-- A call with its place and its stage. -/
structure RankedCall (Intent : Type) where
  entry : Segment Intent
  i : Nat
  rank : Nat

def RankedCall.before (a b : RankedCall Intent) : Prop :=
  a.rank < b.rank ∨ a.rank = b.rank ∧ a.i ≤ b.i

instance : DecidableRel (@RankedCall.before Intent) :=
  fun a b => inferInstanceAs (Decidable (a.rank < b.rank ∨ a.rank = b.rank ∧ a.i ≤ b.i))

/-- How many leading calls keep their place. -/
def fixedPrefix (opts : BatchOrderOptions) (count : Nat) : Nat :=
  (max 0 (min ⌊opts.orderedPrefix.getD 0⌋ (count : Int))).toNat

def stageRank (fixed i : Nat) (entry : Segment Intent) : Nat :=
  if i < fixed then 0 else if reader.fallible entry.2 then 2 else 1

/-- The picked calls with their ranks. -/
def rankedCalls (picked : List (Segment Intent)) (fixed : Nat) : List (RankedCall Intent) :=
  picked.zipIdx.map fun place => ⟨place.1, place.2, stageRank reader fixed place.2 place.1⟩

def groupByStage (picked : List (Segment Intent)) (fixed : Nat) : List (Segment Intent) :=
  ((rankedCalls reader picked fixed).insertionSort RankedCall.before).map RankedCall.entry

/-- The order the calls are to be applied in. -/
def chosenOrder (opts : BatchOrderOptions) (picked : List (Segment Intent)) :
    List (Segment Intent) :=
  if opts.independentCalls then groupByStage reader picked (fixedPrefix opts picked.length)
  else picked

end Grouping

section Renumbering

variable [DecidableEq Intent]

/-- What stays where it is: the intents that were not picked. -/
def keptSegments (intents : InsertionMap Nat Intent) (order : List (Segment Intent)) :
    List (Segment Intent) :=
  intents.entries.filter fun entry => entry.2 ∉ order.map Prod.snd

def sortedIds (order : List (Segment Intent)) : List Nat :=
  (order.map Prod.fst).insertionSort (· ≤ ·)

/-- The ids of the picked calls, ascending, given out in the order of the calls. -/
def renumber (intents : InsertionMap Nat Intent) (order : List (Segment Intent)) :
    InsertionMap Nat Intent :=
  (InsertionMap.empty.setAll (keptSegments intents order)).setAll
    ((sortedIds order).zip (order.map Prod.snd))

/-- Gives the calls the existing segment ids in call order. The answer is false, and the
transaction as it was, on a mismatch. -/
def orderBatchSegments (reader : IntentReader Intent) (tx : BatchTransaction Intent)
    (circuits : List CircuitName) (opts : BatchOrderOptions) : Bool × BatchTransaction Intent :=
  match tx.intents with
  | none => (false, tx)
  | some intents =>
    if circuits.length < 2 ∨ intents.size < 2 then (false, tx)
    else
      match pickCalls reader intents circuits opts with
      | none => (false, tx)
      | some picked =>
        let next := renumber intents (chosenOrder reader opts picked)
        if next.size ≠ intents.size then (false, tx) else (true, ⟨some next⟩)

end Renumbering

/-! ## Picking -/

section Picked

variable {reader : IntentReader Intent} {intents : InsertionMap Nat Intent}
  {circuits : List CircuitName}

/-- The picked intents stand for the circuits, one after the other. -/
structure PickedFrom (reader : IntentReader Intent) (intents : InsertionMap Nat Intent)
    (circuits : List CircuitName) (picked : List (Segment Intent)) : Prop where
  stored : ∀ entry ∈ picked, entry ∈ intents.entries
  distinct : (picked.map Prod.fst).Nodup
  names : picked.map (fun entry => reader.callName entry.2) = circuits.map CircuitName.name

variable {picked : List (Segment Intent)} {entry : Segment Intent}

theorem PickedFrom.named (chosen : PickedFrom reader intents circuits picked)
    (isPicked : entry ∈ picked) : reader.callName entry.2 ≠ "" := by
  have isName : reader.callName entry.2 ∈ circuits.map CircuitName.name := by
    rw [← chosen.names]
    exact List.mem_map.mpr ⟨entry, isPicked, rfl⟩
  rcases List.mem_map.mp isName with ⟨circuit, _, same⟩
  rw [← same]
  exact circuit.named

theorem PickedFrom.of_perm {picked order : List (Segment Intent)}
    (chosen : PickedFrom reader intents circuits picked) (same : order.Perm picked) :
    (∀ entry ∈ order, entry ∈ intents.entries) ∧ (order.map Prod.fst).Nodup ∧
      ∀ entry ∈ order, reader.callName entry.2 ≠ "" :=
  ⟨fun entry isIn => chosen.stored entry (same.mem_iff.mp isIn),
    (same.map Prod.fst).nodup_iff.mpr chosen.distinct,
    fun _ isIn => chosen.named (same.mem_iff.mp isIn)⟩

theorem pickById_eq_some {segmentId : Option Nat} {circuit : CircuitName}
    (isPick : pickById reader intents segmentId circuit = some entry) :
    segmentId = some entry.1 ∧ entry ∈ intents.entries ∧
      reader.callName entry.2 = circuit.name := by
  cases segmentId with
  | none => simp [pickById] at isPick
  | some segId =>
    simp only [pickById] at isPick
    split at isPick
    · simp at isPick
    next intent found =>
      split at isPick
      next named =>
        cases isPick
        exact ⟨rfl, InsertionMap.get?_eq_some_iff.mp found, named⟩
      · simp at isPick

theorem pickById_list : ∀ {ids : List (Option Nat)} {circuits : List CircuitName}
    {picked : List (Segment Intent)}, ids.length = circuits.length →
    ((ids.zip circuits).mapM fun place => pickById reader intents place.1 place.2) = some picked →
    ids = picked.map (fun entry => some entry.1) ∧ (∀ entry ∈ picked, entry ∈ intents.entries) ∧
      picked.map (fun entry => reader.callName entry.2) = circuits.map CircuitName.name
  | [], [], picked, _, isPick => by
      cases isPick
      simp
  | id :: ids, circuit :: circuits, picked, sameLength, isPick => by
      simp only [List.zip_cons_cons, List.mapM_cons, Option.bind_eq_bind,
        Option.bind_eq_some_iff] at isPick
      rcases isPick with ⟨entry, first, rest, later, isCons⟩
      cases isCons
      have head := pickById_eq_some first
      have tail := pickById_list (by simpa using sameLength) later
      refine ⟨?_, ?_, ?_⟩
      · rw [List.map_cons, ← tail.1, head.1]
      · intro other isOther
        rcases List.mem_cons.mp isOther with rfl | isOther
        · exact head.2.1
        · exact tail.2.1 other isOther
      · rw [List.map_cons, List.map_cons, head.2.2, tail.2.2]

theorem pickBySegmentIds_sound {segmentIds : Option (List (Option Nat))}
    (isPick : pickBySegmentIds reader intents circuits segmentIds = some picked) :
    PickedFrom reader intents circuits picked ∧
      segmentIds = some (picked.map fun entry => some entry.1) := by
  cases segmentIds with
  | none => simp [pickBySegmentIds] at isPick
  | some ids =>
    simp only [pickBySegmentIds] at isPick
    split at isPick
    · simp at isPick
    next sameLength =>
      split at isPick
      · simp at isPick
      next distinct =>
        have found := pickById_list (not_not.mp sameLength) isPick
        have distinctIds : (picked.map fun entry => some entry.1).Nodup := by
          rw [← found.1]
          exact not_not.mp distinct
        refine ⟨⟨found.2.1, ?_, found.2.2⟩, by rw [← found.1]⟩
        have composed : (picked.map fun entry => some entry.1) =
            (picked.map Prod.fst).map some := by simp
        rw [composed] at distinctIds
        exact distinctIds.of_map some

/-- What the pools hold while calls are taken out of them. -/
structure Pools (reader : IntentReader Intent) (intents : InsertionMap Nat Intent)
    (pools : String → List (Segment Intent)) : Prop where
  stored : ∀ name, ∀ entry ∈ pools name, entry ∈ intents.entries
  named : ∀ name, ∀ entry ∈ pools name, reader.callName entry.2 = name
  distinct : ∀ name, (pools name).Nodup

theorem poolsOf_pools : Pools reader intents (poolsOf reader intents.entries) where
  stored := fun _ _ isIn => (List.mem_filter.mp isIn).1
  named := fun _ _ isIn => by simpa using (List.mem_filter.mp isIn).2
  distinct := fun _ => intents.entries_nodup.filter _

theorem Pools.take {pools : String → List (Segment Intent)} (kept : Pools reader intents pools)
    {name : String} {left : List (Segment Intent)} (isPool : pools name = entry :: left) :
    Pools reader intents (Function.update pools name left) where
  stored := by
    intro other found isIn
    by_cases same : other = name
    · subst same
      rw [Function.update_self] at isIn
      exact kept.stored other found (isPool ▸ List.mem_cons_of_mem _ isIn)
    · rw [Function.update_of_ne same] at isIn
      exact kept.stored other found isIn
  named := by
    intro other found isIn
    by_cases same : other = name
    · subst same
      rw [Function.update_self] at isIn
      exact kept.named other found (isPool ▸ List.mem_cons_of_mem _ isIn)
    · rw [Function.update_of_ne same] at isIn
      exact kept.named other found isIn
  distinct := by
    intro other
    by_cases same : other = name
    · subst same
      rw [Function.update_self]
      exact (List.nodup_cons.mp (isPool ▸ kept.distinct other)).2
    · rw [Function.update_of_ne same]
      exact kept.distinct other

/-- Every picked intent comes out of the pool of its own name. -/
theorem pickFromPools_sound {pools : String → List (Segment Intent)}
    (kept : Pools reader intents pools) (isPick : pickFromPools pools circuits = some picked) :
    PickedFrom reader intents circuits picked ∧
      ∀ entry ∈ picked, entry ∈ pools (reader.callName entry.2) := by
  induction circuits generalizing pools picked with
  | nil =>
    cases isPick
    exact ⟨⟨by simp, by simp, rfl⟩, by simp⟩
  | cons circuit rest ih =>
    simp only [pickFromPools] at isPick
    split at isPick
    · simp at isPick
    next entry left isPool =>
      rcases Option.map_eq_some_iff.mp isPick with ⟨later, found, rfl⟩
      have isHead : entry ∈ pools circuit.name := by simp [isPool]
      have isNamed := kept.named _ entry isHead
      obtain ⟨chosen, fromPools⟩ := ih (kept.take isPool) found
      have fresh : entry ∉ left := (List.nodup_cons.mp (isPool ▸ kept.distinct _)).1
      refine ⟨⟨?_, ?_, ?_⟩, ?_⟩
      · intro other isOther
        rcases List.mem_cons.mp isOther with rfl | isOther
        · exact kept.stored _ other isHead
        · exact chosen.stored other isOther
      · rw [List.map_cons, List.nodup_cons]
        refine ⟨?_, chosen.distinct⟩
        intro again
        rcases List.mem_map.mp again with ⟨other, isOther, sameId⟩
        have same : other = entry := List.inj_on_of_nodup_map intents.distinct
          (chosen.stored other isOther) (kept.stored _ entry isHead) sameId
        have isLeft := fromPools other isOther
        rw [same, isNamed, Function.update_self] at isLeft
        exact fresh isLeft
      · rw [List.map_cons, List.map_cons, isNamed, chosen.names]
      · intro other isOther
        rcases List.mem_cons.mp isOther with rfl | isOther
        · rw [isNamed]
          exact isHead
        · have isLeft := fromPools other isOther
          by_cases same : reader.callName other.2 = circuit.name
          · rw [same, Function.update_self] at isLeft
            rw [same, isPool]
            exact List.mem_cons_of_mem _ isLeft
          · rwa [Function.update_of_ne same] at isLeft

theorem pickCalls_sound {opts : BatchOrderOptions}
    (isPick : pickCalls reader intents circuits opts = some picked) :
    PickedFrom reader intents circuits picked := by
  simp only [pickCalls] at isPick
  split at isPick
  next byIds =>
    cases isPick
    exact (pickBySegmentIds_sound byIds).1
  · exact (pickFromPools_sound poolsOf_pools isPick).1

end Picked

/-! ## Grouping -/

section Grouped

variable {reader : IntentReader Intent}

/-- The calls grouped by stage: the prefix as given, then the calls without a fallible
part, then the others, each group in call order. -/
def stageGroups (reader : IntentReader Intent) (picked : List (Segment Intent)) (fixed : Nat) :
    List (Segment Intent) :=
  picked.take fixed ++ (picked.drop fixed).filter (fun entry => !reader.fallible entry.2) ++
    (picked.drop fixed).filter (fun entry => reader.fallible entry.2)

theorem rankedCalls_entries (reader : IntentReader Intent) (picked : List (Segment Intent))
    (fixed : Nat) :
    (rankedCalls reader picked fixed).map RankedCall.entry = picked := by
  simp [rankedCalls, Function.comp_def]

theorem rankedCalls_ascending (reader : IntentReader Intent) (picked : List (Segment Intent))
    (fixed : Nat) :
    (rankedCalls reader picked fixed).Pairwise fun a b => a.i < b.i := by
  have places : ((rankedCalls reader picked fixed).map RankedCall.i).Pairwise (· < ·) := by
    simpa [rankedCalls, Function.comp_def, List.range_eq_range'] using
      List.pairwise_lt_range (n := picked.length)
  exact List.pairwise_map.mp places

variable {call : RankedCall Intent}

theorem rankedCalls_rank {picked : List (Segment Intent)} {fixed : Nat}
    (isCall : call ∈ rankedCalls reader picked fixed) :
    call.rank = stageRank reader fixed call.i call.entry := by
  rcases List.mem_map.mp isCall with ⟨place, _, rfl⟩
  rfl

theorem RankedCall.total (a b : RankedCall Intent) : a.before b ∨ b.before a := by
  simp only [RankedCall.before]
  omega

theorem RankedCall.trans (a b c : RankedCall Intent) (first : a.before b) (second : b.before c) :
    a.before c := by
  simp only [RankedCall.before] at first second ⊢
  omega

instance : Std.Total (@RankedCall.before Intent) :=
  ⟨RankedCall.total⟩

instance : IsTrans (RankedCall Intent) RankedCall.before :=
  ⟨RankedCall.trans⟩

theorem rankedCalls_places (reader : IntentReader Intent) (picked : List (Segment Intent))
    (fixed : Nat) :
    (rankedCalls reader picked fixed).map RankedCall.i = List.range picked.length := by
  simp [rankedCalls, Function.comp_def, List.range_eq_range']

theorem rank_of_earlier {picked : List (Segment Intent)} {fixed : Nat}
    (isCall : call ∈ (rankedCalls reader picked fixed).take fixed) : call.rank = 0 := by
  have place : call.i ∈ (List.range picked.length).take fixed := by
    rw [← rankedCalls_places reader picked fixed, ← List.map_take]
    exact List.mem_map_of_mem isCall
  rw [List.take_range, List.mem_range] at place
  rw [rankedCalls_rank (List.mem_of_mem_take isCall), stageRank, if_pos (by omega)]

theorem rank_of_rest {picked : List (Segment Intent)} {fixed : Nat}
    (isCall : call ∈ (rankedCalls reader picked fixed).drop fixed) :
    call.rank = if reader.fallible call.entry.2 then 2 else 1 := by
  have place : call.i ∈ (List.range picked.length).drop fixed := by
    rw [← rankedCalls_places reader picked fixed, ← List.map_drop]
    exact List.mem_map_of_mem isCall
  rw [List.range_eq_range', List.drop_range', List.mem_range'_1] at place
  rw [rankedCalls_rank (List.mem_of_mem_drop isCall), stageRank, if_neg (by omega)]

/-- The ranked calls, group by group. -/
def rankedGroups (reader : IntentReader Intent) (picked : List (Segment Intent)) (fixed : Nat) :
    List (RankedCall Intent) :=
  let rows := rankedCalls reader picked fixed
  rows.take fixed ++ (rows.drop fixed).filter (fun call => !reader.fallible call.entry.2) ++
    (rows.drop fixed).filter (fun call => reader.fallible call.entry.2)

section Picked

variable (picked : List (Segment Intent))

theorem rankedGroups_entries (fixed : Nat) :
    (rankedGroups reader picked fixed).map RankedCall.entry = stageGroups reader picked fixed := by
  have rest (keep : Segment Intent → Bool) :
      ((rankedCalls reader picked fixed).drop fixed |>.filter fun call => keep call.entry).map
        RankedCall.entry = (picked.drop fixed).filter keep := by
    conv_rhs => rw [← rankedCalls_entries reader picked fixed]
    rw [← List.map_drop, List.filter_map]
    rfl
  have first : ((rankedCalls reader picked fixed).take fixed).map RankedCall.entry =
      picked.take fixed := by
    rw [List.map_take, rankedCalls_entries]
  simp only [rankedGroups, stageGroups, List.map_append, first,
    rest fun entry => !reader.fallible entry.2, rest fun entry => reader.fallible entry.2]

theorem rankedGroups_perm (fixed : Nat) :
    (rankedGroups reader picked fixed).Perm (rankedCalls reader picked fixed) := by
  have groups : (((rankedCalls reader picked fixed).drop fixed).filter
      (fun call => !reader.fallible call.entry.2) ++
      ((rankedCalls reader picked fixed).drop fixed).filter
        (fun call => reader.fallible call.entry.2)).Perm
      ((rankedCalls reader picked fixed).drop fixed) :=
    List.perm_append_comm.trans (List.filter_append_perm _ _)
  have whole := groups.append_left ((rankedCalls reader picked fixed).take fixed)
  rwa [List.take_append_drop, ← List.append_assoc] at whole

theorem rankedGroups_sorted (fixed : Nat) :
    (rankedGroups reader picked fixed).Pairwise RankedCall.before := by
  have ascending := rankedCalls_ascending reader picked fixed
  have sameRank {group : List (RankedCall Intent)} {rank : Nat}
      (part : group.Sublist (rankedCalls reader picked fixed))
      (ranked : ∀ call ∈ group, call.rank = rank) : group.Pairwise RankedCall.before := by
    refine (ascending.sublist part).imp_of_mem ?_
    intro a b isA isB lower
    exact Or.inr ⟨(ranked a isA).trans (ranked b isB).symm, lower.le⟩
  have plain : ∀ call ∈ ((rankedCalls reader picked fixed).drop fixed).filter
      (fun call => !reader.fallible call.entry.2), call.rank = 1 := by
    intro call isCall
    obtain ⟨isRest, stage⟩ := List.mem_filter.mp isCall
    rw [rank_of_rest isRest, if_neg (by simpa using stage)]
  have late : ∀ call ∈ ((rankedCalls reader picked fixed).drop fixed).filter
      (fun call => reader.fallible call.entry.2), call.rank = 2 := by
    intro call isCall
    obtain ⟨isRest, stage⟩ := List.mem_filter.mp isCall
    rw [rank_of_rest isRest, if_pos stage]
  have part : ((rankedCalls reader picked fixed).drop fixed).Sublist
      (rankedCalls reader picked fixed) := List.drop_sublist _ _
  rw [rankedGroups, List.pairwise_append, List.pairwise_append]
  refine ⟨⟨sameRank (List.take_sublist _ _) fun call => rank_of_earlier,
    sameRank (List.filter_sublist.trans part) plain, ?_⟩,
    sameRank (List.filter_sublist.trans part) late, ?_⟩
  · intro a isA b isB
    left
    rw [rank_of_earlier isA, plain b isB]
    exact Nat.zero_lt_one
  · intro a isA b isB
    left
    rw [late b isB]
    rcases List.mem_append.mp isA with isA | isA
    · rw [rank_of_earlier isA]
      exact Nat.zero_lt_two
    · rw [plain a isA]
      exact Nat.one_lt_two

/-- Sorting by stage keeps the prefix and groups the rest stably. -/
theorem groupByStage_eq (fixed : Nat) :
    groupByStage reader picked fixed = stageGroups reader picked fixed := by
  have sorted : (rankedCalls reader picked fixed).insertionSort RankedCall.before =
      rankedGroups reader picked fixed := by
    refine List.Perm.eq_of_pairwise ?_ (List.pairwise_insertionSort _ _)
      (rankedGroups_sorted picked fixed)
      ((List.perm_insertionSort _ _).trans (rankedGroups_perm picked fixed).symm)
    intro a b isA isB first second
    have samePlace : a.i = b.i := by
      simp only [RankedCall.before] at first second
      omega
    refine List.inj_on_of_nodup_map (f := RankedCall.i) ?_
      ((List.mem_insertionSort _).mp isA) ((rankedGroups_perm picked fixed).mem_iff.mp isB)
      samePlace
    rw [rankedCalls_places]
    exact List.nodup_range
  rw [groupByStage, sorted, rankedGroups_entries]

end Picked

theorem chosenOrder_perm (reader : IntentReader Intent) (opts : BatchOrderOptions)
    (picked : List (Segment Intent)) :
    (chosenOrder reader opts picked).Perm picked := by
  rw [chosenOrder]
  split
  · have calls := ((List.perm_insertionSort RankedCall.before
      (rankedCalls reader picked (fixedPrefix opts picked.length))).map RankedCall.entry)
    rwa [rankedCalls_entries reader] at calls
  · exact List.Perm.refl picked

/-- The order the calls of a batch apply in: as given, or with the fixed prefix as given
and the rest grouped stably by stage. -/
def callOrder (reader : IntentReader Intent) (opts : BatchOrderOptions)
    (picked : List (Segment Intent)) : List (Segment Intent) :=
  if opts.independentCalls then stageGroups reader picked (fixedPrefix opts picked.length)
  else picked

theorem chosenOrder_eq (opts : BatchOrderOptions) (picked : List (Segment Intent)) :
    chosenOrder reader opts picked = callOrder reader opts picked := by
  simp only [chosenOrder, callOrder, groupByStage_eq]

end Grouped

/-! ## Renumbering -/

section Renumbered

theorem sortedIds_perm (order : List (Segment Intent)) :
    (sortedIds order).Perm (order.map Prod.fst) :=
  List.perm_insertionSort _ _

theorem sortedIds_length (order : List (Segment Intent)) :
    (sortedIds order).length = (order.map Prod.snd).length := by
  rw [sortedIds, List.length_insertionSort, List.length_map, List.length_map]

theorem sortedIds_ascending {order : List (Segment Intent)}
    (distinct : (order.map Prod.fst).Nodup) : (sortedIds order).Pairwise (· < ·) := by
  have sorted : (sortedIds order).Pairwise (· ≤ ·) := List.pairwise_insertionSort _ _
  have apart : (sortedIds order).Nodup := (sortedIds_perm order).nodup_iff.mpr distinct
  exact (sorted.and apart).imp fun both => lt_of_le_of_ne both.1 both.2

/-- The renumbered calls, each under its new id. -/
def renumbered (order : List (Segment Intent)) : List (Segment Intent) :=
  (sortedIds order).zip (order.map Prod.snd)

@[simp] theorem renumbered_ids (order : List (Segment Intent)) :
    (renumbered order).map Prod.fst = sortedIds order :=
  List.map_fst_zip (sortedIds_length order).le

@[simp] theorem renumbered_intents (order : List (Segment Intent)) :
    (renumbered order).map Prod.snd = order.map Prod.snd :=
  List.map_snd_zip (sortedIds_length order).ge

variable [DecidableEq Intent] {intents : InsertionMap Nat Intent} {order : List (Segment Intent)}

/-- The ids of picked intents and of kept ones are apart, so nothing is written over. -/
theorem renumber_entries (stored : ∀ entry ∈ order, entry ∈ intents.entries)
    (distinct : (order.map Prod.fst).Nodup) :
    (renumber intents order).entries = keptSegments intents order ++ renumbered order := by
  have keptDistinct : ((keptSegments intents order).map Prod.fst).Nodup :=
    intents.distinct.sublist (List.filter_sublist.map Prod.fst)
  have keptOnly : (InsertionMap.empty.setAll (keptSegments intents order)).entries =
      keptSegments intents order := InsertionMap.setAll_empty_entries keptDistinct
  rw [renumber, InsertionMap.setAll_entries_of_fresh, keptOnly]
  · rfl
  · exact (renumbered_ids order).symm ▸ (sortedIds_perm order).nodup_iff.mpr distinct
  · intro id isId isKept
    have isPicked : id ∈ order.map Prod.fst :=
      (sortedIds_perm order).mem_iff.mp (renumbered_ids order ▸ isId)
    rw [keptOnly] at isKept
    rcases List.mem_map.mp isPicked with ⟨entry, isEntry, rfl⟩
    rcases List.mem_map.mp isKept with ⟨other, isOther, sameId⟩
    obtain ⟨isStored, notPicked⟩ := List.mem_filter.mp isOther
    have same : other = entry :=
      List.inj_on_of_nodup_map intents.distinct isStored (stored entry isEntry) sameId
    subst same
    simp only [decide_eq_true_eq] at notPicked
    exact notPicked (List.mem_map_of_mem isEntry)

/-- The entries whose intent was picked. -/
def takenSegments (intents : InsertionMap Nat Intent) (order : List (Segment Intent)) :
    List (Segment Intent) :=
  intents.entries.filter fun entry => entry.2 ∈ order.map Prod.snd

theorem takenSegments_append_kept (intents : InsertionMap Nat Intent)
    (order : List (Segment Intent)) :
    (takenSegments intents order ++ keptSegments intents order).Perm intents.entries := by
  simp only [takenSegments, keptSegments, decide_not]
  exact List.filter_append_perm _ _

/-- With no entry lost, the intents are the kept ones and the picked ones. -/
theorem entries_perm_of_size (stored : ∀ entry ∈ order, entry ∈ intents.entries)
    (distinct : (order.map Prod.fst).Nodup)
    (sameSize : (renumber intents order).size = intents.size) :
    intents.entries.Perm (keptSegments intents order ++ order) := by
  have part : order.Subperm (takenSegments intents order) := by
    refine List.subperm_of_subset (distinct.of_map Prod.fst) ?_
    intro entry isEntry
    refine List.mem_filter.mpr ⟨stored entry isEntry, ?_⟩
    simpa using ⟨entry.1, isEntry⟩
  have split := takenSegments_append_kept intents order
  have sizes : (renumber intents order).size =
      (keptSegments intents order).length + order.length := by
    rw [InsertionMap.size, renumber_entries stored distinct, List.length_append, renumbered,
      List.length_zip, sortedIds_length, List.length_map, Nat.min_self]
  have whole := split.length_eq
  rw [List.length_append] at whole
  rw [sizes, InsertionMap.size] at sameSize
  have same := part.perm_of_length_le (by omega)
  exact (split.symm.trans List.perm_append_comm).trans (List.Perm.append_left _ same.symm)

end Renumbered

section Renaming

variable [DecidableEq Intent] (reader : IntentReader Intent)

/-- What `orderBatchSegments` can do. -/
theorem orderBatchSegments_cases (tx : BatchTransaction Intent) (circuits : List CircuitName)
    (opts : BatchOrderOptions) :
    orderBatchSegments reader tx circuits opts = (false, tx) ∨
      ∃ intents picked, tx.intents = some intents ∧
        pickCalls reader intents circuits opts = some picked ∧
        (renumber intents (chosenOrder reader opts picked)).size = intents.size ∧
        orderBatchSegments reader tx circuits opts =
          (true, ⟨some (renumber intents (chosenOrder reader opts picked))⟩) := by
  simp only [orderBatchSegments]
  split
  · exact Or.inl rfl
  next intents isMap =>
    split
    · exact Or.inl rfl
    · split
      · exact Or.inl rfl
      next picked isPick =>
        split
        · exact Or.inl rfl
        next sameSize =>
          exact Or.inr ⟨intents, picked, isMap, isPick, not_not.mp sameSize, rfl⟩

/-- A segment id that leads to a call. -/
def CallAt (store : InsertionMap Nat Intent) (segId : Nat) : Prop :=
  ∃ intent, (segId, intent) ∈ store.entries ∧ reader.callName intent ≠ ""

/-- The segment ids of a batch given out anew. -/
structure RenamedSegments (circuits : List CircuitName) (opts : BatchOrderOptions)
    (before after : InsertionMap Nat Intent) : Prop where
  intents : (after.entries.map Prod.snd).Perm (before.entries.map Prod.snd)
  ids : (after.entries.map Prod.fst).Perm (before.entries.map Prod.fst)
  others : ∀ segId intent, reader.callName intent = "" →
    ((segId, intent) ∈ after.entries ↔ (segId, intent) ∈ before.entries)
  callIds : ∀ segId, CallAt reader after segId ↔ CallAt reader before segId
  calls : ∃ picked, pickCalls reader before circuits opts = some picked ∧
    PickedFrom reader before circuits picked ∧
    ∃ ids : List Nat, ids.Pairwise (· < ·) ∧ ids.Perm (picked.map Prod.fst) ∧
      ids.zip ((callOrder reader opts picked).map Prod.snd) ⊆ after.entries

variable {reader}

section Exchange

variable {intents : InsertionMap Nat Intent} {order : List (Segment Intent)}
  (stored : ∀ entry ∈ order, entry ∈ intents.entries)
  (distinct : (order.map Prod.fst).Nodup)
  (sameSize : (renumber intents order).size = intents.size)

include stored distinct

/-- Under an id stands a renumbered call, or what stood there before. -/
theorem mem_renumber {entry : Segment Intent} :
    entry ∈ (renumber intents order).entries ↔
      entry ∈ keptSegments intents order ∨ entry ∈ renumbered order := by
  rw [renumber_entries stored distinct, List.mem_append]

include sameSize

theorem renumber_intents_perm :
    ((renumber intents order).entries.map Prod.snd).Perm (intents.entries.map Prod.snd) := by
  rw [renumber_entries stored distinct, List.map_append, renumbered_intents, ← List.map_append]
  exact ((entries_perm_of_size stored distinct sameSize).map Prod.snd).symm

theorem renumber_ids_perm :
    ((renumber intents order).entries.map Prod.fst).Perm (intents.entries.map Prod.fst) := by
  have before := (entries_perm_of_size stored distinct sameSize).map Prod.fst
  rw [List.map_append] at before
  rw [renumber_entries stored distinct, List.map_append, renumbered_ids]
  exact ((sortedIds_perm order).append_left _).trans before.symm

/-- An intent without a call is not touched. -/
theorem mem_renumber_of_unnamed (named : ∀ entry ∈ order, reader.callName entry.2 ≠ "")
    {segId : Nat} {intent : Intent} (unnamed : reader.callName intent = "") :
    (segId, intent) ∈ (renumber intents order).entries ↔ (segId, intent) ∈ intents.entries := by
  rw [mem_renumber stored distinct,
    (entries_perm_of_size stored distinct sameSize).mem_iff, List.mem_append]
  have notGiven : (segId, intent) ∉ renumbered order := by
    intro isGiven
    have isPicked : intent ∈ order.map Prod.snd :=
      renumbered_intents order ▸ List.mem_map_of_mem (f := Prod.snd) isGiven
    rcases List.mem_map.mp isPicked with ⟨entry, isEntry, rfl⟩
    exact named entry isEntry unnamed
  have notPicked : (segId, intent) ∉ order := fun isPicked => named _ isPicked unnamed
  simp only [notGiven, notPicked]

theorem callAt_renumber (named : ∀ entry ∈ order, reader.callName entry.2 ≠ "") (segId : Nat) :
    CallAt reader (renumber intents order) segId ↔ CallAt reader intents segId := by
  have givenIds : segId ∈ (renumbered order).map Prod.fst ↔ segId ∈ order.map Prod.fst := by
    rw [renumbered_ids, (sortedIds_perm order).mem_iff]
  constructor
  · rintro ⟨intent, isIn, isNamed⟩
    rcases (mem_renumber stored distinct).mp isIn with isKept | isGiven
    · exact ⟨intent, (List.mem_filter.mp isKept).1, isNamed⟩
    · rcases List.mem_map.mp (givenIds.mp (List.mem_map_of_mem isGiven)) with
        ⟨entry, isEntry, sameId⟩
      exact ⟨entry.2, sameId ▸ stored entry isEntry, named entry isEntry⟩
  · rintro ⟨intent, isIn, isNamed⟩
    rcases List.mem_append.mp ((entries_perm_of_size stored distinct sameSize).mem_iff.mp isIn)
      with isKept | isPicked
    · exact ⟨intent, (mem_renumber stored distinct).mpr (Or.inl isKept), isNamed⟩
    · rcases List.mem_map.mp (givenIds.mpr (List.mem_map_of_mem (f := Prod.fst) isPicked)) with
        ⟨entry, isGiven, sameId⟩
      have isCall : entry.2 ∈ order.map Prod.snd :=
        renumbered_intents order ▸ List.mem_map_of_mem (f := Prod.snd) isGiven
      rcases List.mem_map.mp isCall with ⟨call, isOrdered, sameIntent⟩
      refine ⟨entry.2, (mem_renumber stored distinct).mpr (Or.inr ?_),
        sameIntent ▸ named call isOrdered⟩
      rwa [← sameId]

end Exchange

/-- Ordering the segments of a batch renames ids among the calls, or changes nothing. -/
theorem orderBatchSegments_renames (reader : IntentReader Intent) (tx : BatchTransaction Intent)
    (circuits : List CircuitName) (opts : BatchOrderOptions) :
    match orderBatchSegments reader tx circuits opts with
    | (true, ordered) => ∃ before after, tx.intents = some before ∧
        ordered.intents = some after ∧ RenamedSegments reader circuits opts before after
    | (false, ordered) => ordered = tx := by
  rcases orderBatchSegments_cases reader tx circuits opts with
    unchanged | ⟨intents, picked, isMap, isPick, sameSize, isOrdered⟩
  · rw [unchanged]
  · rw [isOrdered]
    have chosen := pickCalls_sound isPick
    have samePicks := chosenOrder_perm reader opts picked
    obtain ⟨stored, distinct, named⟩ := chosen.of_perm samePicks
    refine ⟨intents, _, isMap, rfl, ?_⟩
    exact {
      intents := renumber_intents_perm stored distinct sameSize
      ids := renumber_ids_perm stored distinct sameSize
      others := fun segId intent => mem_renumber_of_unnamed stored distinct sameSize named
      callIds := callAt_renumber stored distinct sameSize named
      calls := by
        refine ⟨picked, isPick, chosen, sortedIds (chosenOrder reader opts picked),
          sortedIds_ascending distinct, (sortedIds_perm _).trans (samePicks.map Prod.fst), ?_⟩
        intro entry isGiven
        rw [← chosenOrder_eq] at isGiven
        exact (mem_renumber stored distinct).mpr (Or.inr isGiven) }

end Renaming

end Nightgate.Midnight
