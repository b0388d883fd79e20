import Nightgate.Midnight.PrivateStates
import Mathlib.Data.List.TakeWhile

/-!
# Exports of private states

What a call of a provider makes of the store when no other call runs beside it. Reading leaves
every entry as it is, although it may save a row again. An export lists the entries under their
names in an object of the runtime, and an import writes the listed entries one after the other.
-/

namespace Nightgate.Midnight.PrivateStates

open Library

/-- What a provider finds under a key, and whether it can read it. -/
structure Found where
  json : String
  readable : Bool

/-- What a read gives. -/
def reading : Option Found → Except ProviderError (Option String)
  | none => .ok none
  | some found => if found.readable then .ok (some found.json) else .error .unreadable

namespace Provider

variable (provider : Provider)

/-- The text of a row, under the password of today or the one that its salt tells. -/
def opened (ciphertext : Ciphertext) : Option String :=
  (provider.decrypt ciphertext).or ((provider.fallbacks.find? fun password =>
      provider.deriveStableSalt password = ciphertext.salt).bind (decryptWithPassword ciphertext))

def finds (rows : Rows) (key : StateKey) : Option Found :=
  (rows.lookup key).map fun ciphertext => ⟨ciphertext.json, (provider.opened ciphertext).isSome⟩

end Provider

section Entries

variable {provider : Provider} {rows : Rows} {key : StateKey}

theorem stored_eq_finds (provider : Provider) (rows : Rows) (key : StateKey) :
    stored rows key = (provider.finds rows key).map Found.json := by
  rw [stored, Provider.finds, Option.map_map]
  rfl

theorem json_of_opened {ciphertext : Ciphertext} {json : String}
    (opens : provider.opened ciphertext = some json) : ciphertext.json = json := by
  rw [Provider.opened, Option.or_eq_some_iff] at opens
  rcases opens with current | ⟨_, earlier⟩
  · rw [Provider.decrypt] at current
    split at current
    · exact json_of_decrypt current
    · cases current
  · obtain ⟨password, _, opens⟩ := Option.bind_eq_some_iff.mp earlier
    exact json_of_decrypt opens

@[simp] theorem opened_encrypt (json : String) :
    provider.opened (provider.encrypt json) = some json := by
  simp [Provider.opened, Provider.decrypt, Provider.encrypt, Provider.decryptWithPassword]

theorem finds_insert (json : String) (other : StateKey) :
    provider.finds (rows.insert key (provider.encrypt json)) other =
      if other = key then some ⟨json, true⟩ else provider.finds rows other := by
  rw [Provider.finds]
  split
  next same =>
    subst same
    rw [AList.lookup_insert, Option.map_some, opened_encrypt]
    rfl
  next different => rw [AList.lookup_insert_ne different, Provider.finds]

theorem upsert_alone (ciphertext : Ciphertext) (purpose : Purpose) :
    (upsert key ciphertext purpose).alone execute rows = (rows.insert key ciphertext, .ok ()) := by
  cases found : (rows.lookup key).isSome with
  | true =>
    rw [upsert, Program.alone_bind]
    simp [perform, Program.perform, Program.alone, execute, found]
  | false =>
    rw [upsert, Program.alone_bind]
    simp [perform, Program.perform, Program.alone, execute, found, Program.alone_bind]
    rfl

theorem storeEntry_alone (json : String) :
    (provider.storeEntry key json).alone execute rows =
      (rows.insert key (provider.encrypt json), .ok ()) :=
  upsert_alone _ _

/-- A reader leaves every entry as it is, and the rows of the other keys too. -/
theorem decryptStored_alone (provider : Provider) {ciphertext : Ciphertext}
    (row : rows.lookup key = some ciphertext) :
    ∃ left, (provider.decryptStored ciphertext fun fresh => upsert key fresh .rewrite).alone
        execute rows = (left, (provider.opened ciphertext).elim (.error .unreadable) .ok) ∧
      (∀ other, provider.finds left other = provider.finds rows other) ∧
      ∀ other ≠ key, left.lookup other = rows.lookup other := by
  rw [Provider.decryptStored, Provider.opened]
  cases current : provider.decrypt ciphertext with
  | some json => exact ⟨rows, rfl, fun _ => rfl, fun _ _ => rfl⟩
  | none =>
    cases earlier : provider.fallbacks.find? fun password =>
        provider.deriveStableSalt password = ciphertext.salt with
    | none => exact ⟨rows, rfl, fun _ => rfl, fun _ _ => rfl⟩
    | some password =>
      cases opens : Provider.decryptWithPassword ciphertext password with
      | none =>
        refine ⟨rows, ?_, fun _ => rfl, fun _ _ => rfl⟩
        simp [Program.alone, opens]
      | some json =>
        refine ⟨rows.insert key (provider.encrypt json), ?_, ?_, ?_⟩
        · simp only [Option.none_or, Option.bind_some, opens, Option.elim]
          rw [Program.alone_bind, Program.alone_attempt, upsert_alone]
          rfl
        · intro other
          rw [finds_insert]
          split
          next same =>
            have readable : (provider.opened ciphertext).isSome := by
              simp [Provider.opened, current, earlier, opens]
            rw [same, Provider.finds, row, Option.map_some, readable, json_of_decrypt opens]
          · rfl
        · intro other different
          exact AList.lookup_insert_ne different

theorem readEntry_alone (provider : Provider) (rows : Rows) (key : StateKey) :
    ∃ left, (provider.readEntry key).alone execute rows =
        (left, reading (provider.finds rows key)) ∧
      ∀ other, provider.finds left other = provider.finds rows other := by
  rw [Provider.readEntry, Program.alone_bind]
  cases row : rows.lookup key with
  | none =>
    refine ⟨rows, ?_, fun _ => rfl⟩
    simp only [perform, Program.perform, Program.alone, execute, row, Provider.finds]
    rfl
  | some ciphertext =>
    obtain ⟨left, read, same, _⟩ := decryptStored_alone provider row
    refine ⟨left, ?_, same⟩
    simp only [perform, Program.perform, Program.alone, execute, row, Provider.finds,
      Program.alone_bind, read, Option.map_some]
    cases opens : provider.opened ciphertext with
    | none => rfl
    | some json =>
      have isJson := json_of_opened opens
      subst isJson
      rfl

end Entries

/-! ## Imports -/

namespace Provider

variable (provider : Provider) (rows : Rows) (shelf : Shelf)

/-- The read of an entry that is there does not fail. -/
def passes (entry : String × String) : Bool :=
  (provider.finds rows ⟨shelf, entry.1⟩).all Found.readable

/-- An entry of this name is there, and counts as one. -/
def conflicts (entry : String × String) : Bool :=
  shelf.isConflict (stored rows ⟨shelf, entry.1⟩)

/-- The entries that the loop of an import writes: up to the first one that cannot be read, and
without those that it skips. -/
def accepted (conflictStrategy : ConflictStrategy) (entries : List (String × String)) :
    List (String × String) :=
  (entries.takeWhile (provider.passes rows shelf)).filter fun entry =>
    !(conflicts rows shelf entry && conflictStrategy = .skip)

/-- The entries are refused under the strategy `error`: one of them cannot be read, or is there. -/
def refuses (entries : List (String × String)) : Bool :=
  entries.any fun entry => !provider.passes rows shelf entry || conflicts rows shelf entry

/-- The entries that an import writes. -/
def writes (conflictStrategy : ConflictStrategy) (entries : List (String × String)) :
    List (String × String) :=
  if conflictStrategy = .error ∧ provider.refuses rows shelf entries then []
  else provider.accepted rows shelf conflictStrategy entries

end Provider

/-- The entries are written to the shelf, and nothing else is changed. -/
structure Written (provider : Provider) (shelf : Shelf) (entries : List (String × String))
    (rows left : Rows) : Prop where
  entered : ∀ entry ∈ entries, provider.finds left ⟨shelf, entry.1⟩ = some ⟨entry.2, true⟩
  others : ∀ key, (∀ entry ∈ entries, key ≠ ⟨shelf, entry.1⟩) →
    provider.finds left key = provider.finds rows key

section Imports

variable {provider : Provider} {shelf : Shelf} {rows left : Rows}
  {conflictStrategy : ConflictStrategy}

theorem Written.nothing (same : ∀ key, provider.finds left key = provider.finds rows key) :
    Written provider shelf [] rows left :=
  ⟨nofun, fun key _ => same key⟩

variable {entries : List (String × String)} {entry : String × String}

theorem Written.cons (fresh : entry.1 ∉ entries.map Prod.fst)
    (written : Written provider shelf entries
      (rows.insert ⟨shelf, entry.1⟩ (provider.encrypt entry.2)) left) :
    Written provider shelf (entry :: entries) rows left where
  entered other listed := by
    rcases List.mem_cons.mp listed with rfl | listed
    · rw [written.others _ ?_, finds_insert, if_pos rfl]
      intro later isLater same
      cases StateKey.mk.inj same with
      | intro _ sameName => exact fresh (List.mem_map.mpr ⟨later, isLater, sameName.symm⟩)
    · exact written.entered other listed
  others key different := by
    rw [written.others key fun other listed => different other (List.mem_cons_of_mem _ listed),
      finds_insert, if_neg (different entry List.mem_cons_self)]

variable {mid : Rows}

theorem Written.of_same (same : ∀ key, provider.finds mid key = provider.finds rows key)
    (written : Written provider shelf entries mid left) :
    Written provider shelf entries rows left where
  entered := written.entered
  others key different := (written.others key different).trans (same key)

theorem passes_congr
    (same : provider.finds mid ⟨shelf, entry.1⟩ = provider.finds rows ⟨shelf, entry.1⟩) :
    provider.passes mid shelf entry = provider.passes rows shelf entry := by
  rw [Provider.passes, Provider.passes, same]

theorem conflicts_congr
    (same : provider.finds mid ⟨shelf, entry.1⟩ = provider.finds rows ⟨shelf, entry.1⟩) :
    Provider.conflicts mid shelf entry = Provider.conflicts rows shelf entry := by
  rw [Provider.conflicts, Provider.conflicts, stored_eq_finds provider, stored_eq_finds provider,
    same]

/-- What a loop writes depends on what is found under the names of its entries. -/
theorem accepted_congr (entries : List (String × String)) (same : ∀ entry ∈ entries,
      provider.finds mid ⟨shelf, entry.1⟩ = provider.finds rows ⟨shelf, entry.1⟩) :
    provider.accepted mid shelf conflictStrategy entries =
      provider.accepted rows shelf conflictStrategy entries := by
  have samePasses : entries.takeWhile (provider.passes mid shelf) =
      entries.takeWhile (provider.passes rows shelf) := by
    induction entries with
    | nil => rfl
    | cons entry rest ih =>
      rw [List.takeWhile_cons, List.takeWhile_cons, passes_congr (same entry List.mem_cons_self),
        ih fun other listed => same other (List.mem_cons_of_mem _ listed)]
  rw [Provider.accepted, Provider.accepted, samePasses]
  apply List.filter_congr
  intro entry listed
  rw [conflicts_congr (same entry (List.takeWhile_sublist _ |>.subset listed))]

theorem reading_of_passes (passes : provider.passes rows shelf entry) :
    reading (provider.finds rows ⟨shelf, entry.1⟩) = .ok (stored rows ⟨shelf, entry.1⟩) := by
  rw [stored_eq_finds provider]
  rw [Provider.passes] at passes
  cases found : provider.finds rows ⟨shelf, entry.1⟩ with
  | none => rfl
  | some found' =>
    rw [found, Option.all_some] at passes
    rw [reading, if_pos passes, Option.map_some]

theorem reading_of_not_passes (fails : ¬provider.passes rows shelf entry) :
    reading (provider.finds rows ⟨shelf, entry.1⟩) = .error .unreadable := by
  rw [Provider.passes] at fails
  cases found : provider.finds rows ⟨shelf, entry.1⟩ with
  | none =>
    rw [found] at fails
    exact absurd rfl fails
  | some found' =>
    rw [found, Option.all_some] at fails
    rw [reading, if_neg fails]

def ImportResult.total (counts : ImportResult) : Nat :=
  counts.imported + counts.skipped + counts.overwritten

/-- One round of the loop of an import. -/
theorem importEntry_alone (provider : Provider) (rows : Rows) (shelf : Shelf)
    (conflictStrategy : ConflictStrategy) (counts : ImportResult) (entry : String × String) :
    ∃ mid, (∀ key, provider.finds mid key = provider.finds rows key) ∧
      if provider.passes rows shelf entry then
        ∃ next : ImportResult, next.total = counts.total + 1 ∧
          (provider.importEntry shelf conflictStrategy counts entry).alone execute rows =
            (if Provider.conflicts rows shelf entry && conflictStrategy = .skip then mid
              else mid.insert ⟨shelf, entry.1⟩ (provider.encrypt entry.2), .ok next)
      else (provider.importEntry shelf conflictStrategy counts entry).alone execute rows =
        (mid, .error .unreadable) := by
  obtain ⟨mid, read, same⟩ := readEntry_alone provider rows ⟨shelf, entry.1⟩
  refine ⟨mid, same, ?_⟩
  rw [Provider.importEntry, Program.alone_bind, read]
  split
  next passes =>
    rw [reading_of_passes passes]
    dsimp only
    rw [Provider.conflicts]
    split
    next skipped =>
      refine ⟨{ counts with skipped := counts.skipped + 1 }, ?_, rfl⟩
      simp only [ImportResult.total]
      omega
    · rw [Program.alone_bind, storeEntry_alone]
      dsimp only
      split
      · refine ⟨{ counts with overwritten := counts.overwritten + 1 }, ?_, rfl⟩
        simp only [ImportResult.total]
        omega
      · refine ⟨{ counts with imported := counts.imported + 1 }, ?_, rfl⟩
        simp only [ImportResult.total]
        omega
  next fails => rw [reading_of_not_passes fails]

/-- The loop of an import, over entries with distinct names. -/
theorem importLoop_alone
    (distinct : (entries.map Prod.fst).Nodup) (rows : Rows) (counts : ImportResult) :
    ∃ left result,
      (entries.foldlM (provider.importEntry shelf conflictStrategy) counts).alone execute rows =
        (left, result) ∧
      Written provider shelf (provider.accepted rows shelf conflictStrategy entries) rows left ∧
      (entries.all (provider.passes rows shelf) → ∃ final, result = .ok final) ∧
      ∀ final, result = .ok final → final.total = counts.total + entries.length := by
  induction entries generalizing rows counts with
  | nil =>
    refine ⟨rows, .ok counts, rfl, .nothing fun _ => rfl, fun _ => ⟨counts, rfl⟩, ?_⟩
    rintro _ ⟨⟩
    rfl
  | cons entry rest ih =>
    rw [List.map_cons, List.nodup_cons] at distinct
    obtain ⟨mid, same, round⟩ :=
      importEntry_alone provider rows shelf conflictStrategy counts entry
    rw [List.foldlM_cons, Program.alone_bind]
    by_cases passes : provider.passes rows shelf entry
    · rw [if_pos passes] at round
      obtain ⟨next, total, round⟩ := round
      rw [round]
      by_cases skipped : Provider.conflicts rows shelf entry && conflictStrategy = .skip
      · rw [if_pos skipped]
        obtain ⟨left, result, loop, written, succeeds, adds⟩ := ih distinct.2 mid next
        rw [accepted_congr rest fun other _ => same _] at written
        refine ⟨left, result, loop, ?_, ?_, ?_⟩
        · rw [Provider.accepted, List.takeWhile_cons_of_pos passes,
            List.filter_cons_of_neg (by simpa using skipped)]
          exact written.of_same same
        · intro all
          apply succeeds
          rw [List.all_cons, Bool.and_eq_true] at all
          rw [← all.2]
          exact List.all_congr rfl fun other => passes_congr (same _)
        · intro final isFinal
          rw [adds final isFinal, total, List.length_cons]
          omega
      · rw [if_neg skipped]
        obtain ⟨left, result, loop, written, succeeds, adds⟩ :=
          ih distinct.2 (mid.insert ⟨shelf, entry.1⟩ (provider.encrypt entry.2)) next
        have elsewhere : ∀ other ∈ rest,
            provider.finds (mid.insert ⟨shelf, entry.1⟩ (provider.encrypt entry.2))
              ⟨shelf, other.1⟩ = provider.finds rows ⟨shelf, other.1⟩ := by
          intro other listed
          rw [finds_insert, if_neg, same]
          intro isEntry
          cases StateKey.mk.inj isEntry with
          | intro _ sameName =>
            exact distinct.1 (List.mem_map.mpr ⟨other, listed, sameName⟩)
        rw [accepted_congr rest elsewhere] at written
        refine ⟨left, result, loop, ?_, ?_, ?_⟩
        · rw [Provider.accepted, List.takeWhile_cons_of_pos passes,
            List.filter_cons_of_pos (by rw [Bool.eq_false_of_not_eq_true skipped]; rfl)]
          apply Written.of_same same
          apply Written.cons _ written
          intro listed
          obtain ⟨other, isOther, sameName⟩ := List.mem_map.mp listed
          have among : other ∈ rest :=
            (List.takeWhile_sublist _).subset (List.mem_filter.mp isOther).1
          exact distinct.1 (List.mem_map.mpr ⟨other, among, sameName⟩)
        · intro all
          apply succeeds
          rw [List.all_cons, Bool.and_eq_true] at all
          rw [List.all_eq_true] at *
          intro other listed
          rw [passes_congr (elsewhere other listed)]
          exact all.2 other listed
        · intro final isFinal
          rw [adds final isFinal, total, List.length_cons]
          omega
    · rw [if_neg passes] at round
      rw [round]
      refine ⟨mid, .error .unreadable, rfl, ?_, ?_, nofun⟩
      · rw [Provider.accepted, List.takeWhile_cons_of_neg passes]
        exact .nothing same
      · intro all
        rw [List.all_cons, Bool.and_eq_true] at all
        exact absurd all.1 passes

/-- The count of the conflicts, with the reads that it takes. -/
theorem countLoop_alone (provider : Provider) (shelf : Shelf) (entries : List (String × String))
    (rows : Rows) (conflictCount : Nat) :
    ∃ left, (entries.foldlM (provider.countConflict shelf) conflictCount).alone execute rows =
        (left, if entries.all (provider.passes rows shelf) then
            .ok (conflictCount + entries.countP (Provider.conflicts rows shelf))
          else .error .unreadable) ∧
      ∀ key, provider.finds left key = provider.finds rows key := by
  induction entries generalizing rows conflictCount with
  | nil => exact ⟨rows, rfl, fun _ => rfl⟩
  | cons entry rest ih =>
    obtain ⟨mid, read, same⟩ := readEntry_alone provider rows ⟨shelf, entry.1⟩
    have round : (provider.countConflict shelf conflictCount entry).alone execute rows =
        (mid, if provider.passes rows shelf entry then
            .ok (if Provider.conflicts rows shelf entry then conflictCount + 1 else conflictCount)
          else .error .unreadable) := by
      rw [Provider.countConflict, Program.alone_bind, read]
      by_cases passes : provider.passes rows shelf entry
      · rw [reading_of_passes passes, if_pos passes]
        rfl
      · rw [reading_of_not_passes passes, if_neg passes]
    rw [List.foldlM_cons, Program.alone_bind, round, List.all_cons]
    by_cases passes : provider.passes rows shelf entry
    · rw [if_pos passes]
      dsimp only
      obtain ⟨left, loop, sameLater⟩ := ih mid
        (if Provider.conflicts rows shelf entry then conflictCount + 1 else conflictCount)
      refine ⟨left, ?_, fun key => (sameLater key).trans (same key)⟩
      have samePasses : provider.passes mid shelf = provider.passes rows shelf := by
        funext other
        exact passes_congr (same _)
      have sameConflicts : Provider.conflicts mid shelf = Provider.conflicts rows shelf := by
        funext other
        exact conflicts_congr (same _)
      rw [loop, samePasses, sameConflicts, passes, Bool.true_and, List.countP_cons]
      split
      · split
        · rw [Nat.add_assoc, Nat.add_comm 1]
        · rfl
      · rfl
    · rw [if_neg passes, Bool.eq_false_of_not_eq_true passes]
      exact ⟨mid, rfl, same⟩

theorem refuseConflicts_alone (provider : Provider) (rows : Rows) (shelf : Shelf)
    (conflictStrategy : ConflictStrategy) (entries : List (String × String)) :
    ∃ left result, (provider.refuseConflicts shelf conflictStrategy entries).alone execute rows =
        (left, result) ∧
      (result = .ok () ↔ ¬(conflictStrategy = .error ∧ provider.refuses rows shelf entries)) ∧
      ∀ key, provider.finds left key = provider.finds rows key := by
  rw [Provider.refuseConflicts]
  split
  next isError =>
    obtain ⟨left, loop, same⟩ := countLoop_alone provider shelf entries rows 0
    rw [Program.alone_bind, loop]
    by_cases passes : entries.all (provider.passes rows shelf)
    · rw [if_pos passes, Nat.zero_add]
      dsimp only
      have refused : provider.refuses rows shelf entries ↔
          0 < entries.countP (Provider.conflicts rows shelf) := by
        rw [Provider.refuses, List.countP_pos_iff, List.any_eq_true]
        rw [List.all_eq_true] at passes
        constructor
        · rintro ⟨entry, listed, refused⟩
          rw [passes entry listed] at refused
          exact ⟨entry, listed, refused⟩
        · rintro ⟨entry, listed, conflict⟩
          exact ⟨entry, listed, by rw [conflict, Bool.or_true]⟩
      split
      next some => exact ⟨left, _, rfl, by simp [isError, refused.mpr some], same⟩
      next none => exact ⟨left, _, rfl, by simp [isError, refused, none], same⟩
    · rw [if_neg passes]
      refine ⟨left, _, rfl, ?_, same⟩
      have refused : provider.refuses rows shelf entries := by
        rw [List.all_eq_true] at passes
        push Not at passes
        obtain ⟨entry, listed, fails⟩ := passes
        rw [Provider.refuses, List.any_eq_true]
        exact ⟨entry, listed, by rw [Bool.eq_false_of_not_eq_true fails]; rfl⟩
      simp [isError, refused]
  next notError => exact ⟨rows, .ok (), rfl, by simp [notError], fun _ => rfl⟩

variable {exportData : SealedExport} {options : ImportOptions}

theorem openExport_ok (opened : provider.openExport shelf exportData options = .ok entries) :
    ∃ sealedWith payload, exportData.encryptedPayload = some (sealedWith, payload) ∧
      entries = payload.entries.ownEntries := by
  rw [Provider.openExport] at opened
  split at opened
  · cases opened
  · split at opened
    · cases opened
    next sealedWith payload isPayload =>
      split_ifs at opened
      cases opened
      exact ⟨sealedWith, payload, isPayload, rfl⟩

theorem openExport_distinct (opened : provider.openExport shelf exportData options = .ok entries) :
    (entries.map Prod.fst).Nodup := by
  obtain ⟨_, payload, _, rfl⟩ := openExport_ok opened
  exact payload.entries.ownEntries_distinct

theorem importEntries_refused {error : ProviderError}
    (refused : provider.openExport shelf exportData options = .error error) :
    (provider.importEntries shelf exportData options).alone execute rows =
      (rows, .error error) := by
  rw [Provider.importEntries, refused]
  rfl

/-- An import of an export that opens. -/
theorem importEntries_alone (rows : Rows)
    (opened : provider.openExport shelf exportData options = .ok entries) :
    ∃ left result,
      (provider.importEntries shelf exportData options).alone execute rows = (left, result) ∧
      Written provider shelf
        (provider.writes rows shelf (options.conflictStrategy.getD .error) entries) rows left ∧
      (entries.all (provider.passes rows shelf) →
        ¬(options.conflictStrategy.getD .error = .error ∧ provider.refuses rows shelf entries) →
        ∃ final, result = .ok final) ∧
      ∀ final, result = .ok final → final.total = entries.length := by
  obtain ⟨mid, checked, check, passed, same⟩ := refuseConflicts_alone provider rows shelf
    (options.conflictStrategy.getD .error) entries
  rw [Provider.importEntries, opened]
  rw [Program.alone_bind, check, Provider.writes]
  by_cases refused : options.conflictStrategy.getD .error = .error ∧
      provider.refuses rows shelf entries
  · rw [if_pos refused]
    cases checked with
    | ok _ => exact absurd refused (passed.mp rfl)
    | error error =>
      refine ⟨mid, .error error, rfl, .nothing same, fun _ kept => absurd refused kept, ?_⟩
      rintro _ ⟨⟩
  · rw [if_neg refused, passed.mpr refused]
    obtain ⟨left, result, loop, written, succeeds, adds⟩ :=
      @importLoop_alone provider shelf (options.conflictStrategy.getD .error) entries
        (openExport_distinct opened) mid ⟨0, 0, 0⟩
    rw [accepted_congr entries fun entry _ => same _] at written
    refine ⟨left, result, loop, written.of_same same, ?_, ?_⟩
    · intro all _
      apply succeeds
      rw [← all]
      exact List.all_congr rfl fun entry => passes_congr (same _)
    · intro final isFinal
      simpa [ImportResult.total] using adds final isFinal

end Imports

/-! ## Exports -/

section Exports

variable {provider : Provider} {shelf : Shelf}

/-- The rows of a shelf, as an export lists them. -/
def listed (rows : Rows) (shelf : Shelf) : List (String × Ciphertext) :=
  (rows.filter (StateKey.isOf shelf)).entries.map fun row => (row.1.name, row.2)

theorem mem_listed {rows : Rows} {name : String} {ciphertext : Ciphertext} :
    (name, ciphertext) ∈ listed rows shelf ↔ rows.lookup ⟨shelf, name⟩ = some ciphertext := by
  constructor
  · intro isListed
    exact @mem_readAll rows ⟨shelf, name⟩ shelf (name, ciphertext) (by simp [StateKey.isOf])
      isListed rfl
  · intro row
    rw [← Option.mem_def, AList.mem_lookup_iff] at row
    rw [listed, List.mem_map]
    refine ⟨⟨⟨shelf, name⟩, ciphertext⟩, ?_, rfl⟩
    rw [Rows.filter, List.mem_filter]
    exact ⟨row, by simp [StateKey.isOf]⟩

theorem listed_distinct (rows : Rows) (shelf : Shelf) :
    ((listed rows shelf).map Prod.fst).Nodup := by
  rw [listed, List.map_map]
  apply List.Nodup.map_on
  · rintro ⟨⟨firstShelf, name⟩, first⟩ isFirst ⟨⟨secondShelf, other⟩, second⟩ isSecond same
    have own : firstShelf = shelf := by
      simpa [StateKey.isOf] using (List.mem_filter.mp isFirst).2
    have ownSecond : secondShelf = shelf := by
      simpa [StateKey.isOf] using (List.mem_filter.mp isSecond).2
    have sameName : name = other := same
    exact (rows.filter (StateKey.isOf shelf)).nodupKeys.eq_of_fst_eq isFirst isSecond
      (by rw [own, ownSecond, sameName])
  · exact (rows.filter (StateKey.isOf shelf)).nodupKeys.nodup

/-- The entries of some rows, in an object. -/
def gathered (rows : List (String × Ciphertext)) (object : JsObject String) : JsObject String :=
  rows.foldl (fun object row => object.assign row.1 row.2.json) object

/-- The loop of an export reads the rows, and leaves every entry as it is. -/
theorem exportLoop_alone (provider : Provider) {rows : List (String × Ciphertext)}
    (distinct : (rows.map Prod.fst).Nodup) (store : Rows) (object : JsObject String)
    (there : ∀ row ∈ rows, store.lookup ⟨shelf, row.1⟩ = some row.2) :
    ∃ left, (rows.foldlM (provider.exportRow shelf) object).alone execute store =
        (left, if rows.all fun row => (provider.opened row.2).isSome then
            .ok (gathered rows object)
          else .error .unreadable) ∧
      ∀ key, provider.finds left key = provider.finds store key := by
  induction rows generalizing store object with
  | nil => exact ⟨store, rfl, fun _ => rfl⟩
  | cons row rest ih =>
    rw [List.map_cons, List.nodup_cons] at distinct
    obtain ⟨mid, read, same, others⟩ :=
      decryptStored_alone provider (there row List.mem_cons_self)
    rw [List.foldlM_cons, Program.alone_bind, Provider.exportRow, Program.alone_bind, read,
      List.all_cons]
    cases opens : provider.opened row.2 with
    | none => exact ⟨mid, rfl, same⟩
    | some json =>
      have isJson := json_of_opened opens
      subst isJson
      have stillThere : ∀ other ∈ rest, mid.lookup ⟨shelf, other.1⟩ = some other.2 := by
        intro other listed
        rw [others, there other (List.mem_cons_of_mem _ listed)]
        intro isRow
        cases StateKey.mk.inj isRow with
        | intro _ sameName =>
          exact distinct.1 (List.mem_map.mpr ⟨other, listed, sameName⟩)
      obtain ⟨left, loop, sameLater⟩ :=
        ih distinct.2 mid (object.assign row.1 row.2.json) stillThere
      exact ⟨left, loop, fun key => (sameLater key).trans (same key)⟩

/-- An export that is given: what it holds, and that it leaves every entry as it is. -/
structure Exported (provider : Provider) (shelf : Shelf) (options : ExportOptions)
    (salt : RandomSalt) (rows : Rows) (exportData : SealedExport) : Prop where
  few : (listed rows shelf).length ≤ options.maxEntries.getD maxExportEntries
  longEnough : tooShort (options.password.getD provider.password) = false
  holds : exportData = ⟨shelf.exportFormat, some (options.password.getD provider.password,
      ⟨currentExportVersion,
        shelf.statedCount (listed rows shelf) (gathered (listed rows shelf) .empty),
        gathered (listed rows shelf) .empty⟩),
    salt.hex⟩

theorem exportEntries_alone (provider : Provider) (shelf : Shelf) (options : ExportOptions)
    (salt : RandomSalt) (rows : Rows) :
    ∃ left result, (provider.exportEntries shelf options salt).alone execute rows = (left, result) ∧
      (∀ key, provider.finds left key = provider.finds rows key) ∧
      (∀ exportData, result = .ok exportData →
        Exported provider shelf options salt rows exportData) ∧
      ((∀ row ∈ listed rows shelf, (provider.opened row.2).isSome) →
        (listed rows shelf).length ≤ options.maxEntries.getD maxExportEntries →
        tooShort (options.password.getD provider.password) = false →
          ∃ exportData, result = .ok exportData) := by
  have replied : (execute rows (.readAll shelf)).2 = listed rows shelf := rfl
  rw [Provider.exportEntries, perform, Program.alone_bind, Program.perform, Program.alone, replied]
  dsimp only [Program.alone, execute]
  by_cases many : options.maxEntries.getD maxExportEntries < (listed rows shelf).length
  · rw [if_pos many]
    exact ⟨rows, _, rfl, fun _ => rfl, nofun, fun _ few => absurd many (Nat.not_lt.mpr few)⟩
  · rw [if_neg many]
    obtain ⟨left, loop, same⟩ := exportLoop_alone provider (listed_distinct rows shelf) rows .empty
      fun row isListed => mem_listed.mp isListed
    rw [Program.alone_bind, loop]
    by_cases opens : (listed rows shelf).all fun row => (provider.opened row.2).isSome
    · rw [if_pos opens]
      dsimp only
      cases short : tooShort (options.password.getD provider.password) with
      | true =>
        rw [sealExport, if_pos short]
        exact ⟨left, _, rfl, same, nofun, fun _ _ longEnough => nomatch longEnough⟩
      | false =>
        rw [sealExport, if_neg (by rw [short]; exact Bool.false_ne_true)]
        refine ⟨left, _, rfl, same, ?_, fun _ _ _ => ⟨_, rfl⟩⟩
        rintro exportData ⟨⟩
        exact ⟨Nat.not_lt.mp many, short, rfl⟩
    · rw [if_neg opens]
      refine ⟨left, _, rfl, same, nofun, fun all => ?_⟩
      exact absurd (List.all_eq_true.mpr all) opens

theorem gathered_entries (rows : Rows) (shelf : Shelf) :
    (gathered (listed rows shelf) .empty).entries =
      ((listed rows shelf).map fun row => (row.1, row.2.json)).filter fun entry =>
        entry.1 ≠ JsObject.prototypeName := by
  have distinct :
      (((listed rows shelf).map fun row => (row.1, row.2.json)).map Prod.fst).Nodup := by
    rw [List.map_map]
    exact listed_distinct rows shelf
  have assigned := JsObject.assignAll_entries
    ((listed rows shelf).map fun row => (row.1, row.2.json)) .empty distinct (by simp)
  rw [List.foldl_map, InsertionMap.empty_entries, List.nil_append] at assigned
  exact assigned

theorem mem_gathered {rows : Rows} {name json : String} :
    (name, json) ∈ (gathered (listed rows shelf) .empty).ownEntries ↔
      stored rows ⟨shelf, name⟩ = some json ∧ name ≠ JsObject.prototypeName := by
  rw [(JsObject.ownEntries_perm _).mem_iff, gathered_entries, List.mem_filter, List.mem_map, stored,
    Option.map_eq_some_iff, decide_eq_true_eq]
  apply and_congr_left
  intro _
  constructor
  · rintro ⟨⟨_, ciphertext⟩, isListed, ⟨⟩⟩
    exact ⟨ciphertext, mem_listed.mp isListed, rfl⟩
  · rintro ⟨ciphertext, row, rfl⟩
    exact ⟨(name, ciphertext), mem_listed.mpr row, rfl⟩

/-- The object of an export has the stated size, if nothing is stored under the name of the
prototype. -/
theorem size_gathered {rows : Rows} (plain : stored rows ⟨shelf, JsObject.prototypeName⟩ = none) :
    (gathered (listed rows shelf) .empty).size = (listed rows shelf).length := by
  rw [InsertionMap.size, gathered_entries, List.filter_eq_self.mpr, List.length_map]
  intro entry isEntry
  obtain ⟨⟨name, ciphertext⟩, isListed, rfl⟩ := List.mem_map.mp isEntry
  rw [decide_eq_true_eq]
  rintro rfl
  rw [stored, mem_listed.mp isListed] at plain
  cases plain

theorem size_gathered_le (rows : Rows) (shelf : Shelf) :
    (gathered (listed rows shelf) .empty).size ≤ (listed rows shelf).length := by
  rw [InsertionMap.size, gathered_entries]
  exact (List.length_filter_le _ _).trans (Nat.le_of_eq (List.length_map _))

end Exports

/-! ## What an import restores, keeps and counts -/

section Laws

variable {provider source target : Provider} {shelf other : Shelf} {rows left targetRows : Rows}

variable {entries : List (String × String)}

theorem Written.stored_of_mem
    (written : Written provider shelf entries rows left) {entry : String × String}
    (isEntry : entry ∈ entries) : stored left ⟨shelf, entry.1⟩ = some entry.2 := by
  rw [stored_eq_finds provider, written.entered entry isEntry, Option.map_some]

theorem Written.stored_of_notMem
    (written : Written provider shelf entries rows left) {key : StateKey}
    (different : ∀ entry ∈ entries, key ≠ ⟨shelf, entry.1⟩) :
    stored left key = stored rows key := by
  rw [stored_eq_finds provider, stored_eq_finds provider, written.others key different]

/-- The import ends well, and its shelf has the entries of the other one. -/
def Restores (target : Provider) (other : Shelf) (exportData : SealedExport)
    (options : ImportOptions) (targetRows : Rows) (shelf : Shelf) (rows : Rows) : Prop :=
  (∃ counts, ((target.importEntries other exportData options).alone execute targetRows).2 =
    .ok counts) ∧
  ∀ name, stored ((target.importEntries other exportData options).alone execute targetRows).1
    ⟨other, name⟩ = stored rows ⟨shelf, name⟩

/-- An empty shelf of the same kind, the same password, and a limit that is no smaller. -/
structure SameTerms (source target : Provider) (shelf other : Shelf)
    (exportOptions : ExportOptions) (importOptions : ImportOptions) (targetRows : Rows) : Prop where
  kind : other.exportFormat = shelf.exportFormat
  password : importOptions.password.getD target.password =
    exportOptions.password.getD source.password
  limit : exportOptions.maxEntries.getD maxExportEntries ≤
    importOptions.maxEntries.getD maxExportEntries
  empty : ∀ name, stored targetRows ⟨other, name⟩ = none

theorem salt_ne_empty (salt : RandomSalt) : salt.hex ≠ "" := by
  intro isEmpty
  have isHex := salt.isHex
  rw [isEmpty] at isHex
  revert isHex
  decide

variable {exportData : SealedExport}

/-- An export opens if its object has the size that it states. -/
theorem openExport_exported {exportOptions : ExportOptions} {importOptions : ImportOptions}
    {salt : RandomSalt}
    (terms : SameTerms source target shelf other exportOptions importOptions targetRows)
    (exported : Exported source shelf exportOptions salt rows exportData) :
    target.openExport other exportData importOptions =
      if (gathered (listed rows shelf) .empty).size =
          shelf.statedCount (listed rows shelf) (gathered (listed rows shelf) .empty) then
        .ok (gathered (listed rows shelf) .empty).ownEntries
      else .error .exportDecryption := by
  have longEnough : importOptions.password.any tooShort = false := by
    have isLong := exported.longEnough
    rw [← terms.password] at isLong
    cases isPassword : importOptions.password with
    | none => rfl
    | some password =>
      rw [isPassword] at isLong
      exact isLong
  have fits : ¬ importOptions.maxEntries.getD maxExportEntries <
      (gathered (listed rows shelf) .empty).size :=
    Nat.not_lt.mpr ((size_gathered_le rows shelf).trans (exported.few.trans terms.limit))
  have supported : ¬ currentExportVersion ∉ supportedExportVersions := by decide
  have sameKind : ¬ shelf.exportFormat ≠ other.exportFormat := not_not.mpr terms.kind.symm
  have opensWith : ¬ exportOptions.password.getD source.password ≠
      importOptions.password.getD target.password := not_not.mpr terms.password.symm
  rw [exported.holds, Provider.openExport]
  dsimp only
  rw [if_neg sameKind, if_neg (salt_ne_empty salt), salt.isHex, Bool.not_true,
    if_neg Bool.false_ne_true, longEnough, if_neg Bool.false_ne_true, if_neg opensWith,
    if_neg supported, if_neg fits]
  exact ite_not _ _ _

theorem statedCount_of_plain (plain : stored rows ⟨shelf, JsObject.prototypeName⟩ = none) :
    (gathered (listed rows shelf) .empty).size =
      shelf.statedCount (listed rows shelf) (gathered (listed rows shelf) .empty) := by
  cases shelf with
  | privateStates accountId contractAddress => exact size_gathered plain
  | signingKeys accountId => rfl

/-- An import into an empty shelf writes every entry. -/
theorem writes_empty (target : Provider) (empty : ∀ name, stored targetRows ⟨other, name⟩ = none)
    (conflictStrategy : ConflictStrategy) (entries : List (String × String)) :
    target.writes targetRows other conflictStrategy entries = entries ∧
      target.refuses targetRows other entries = false ∧
      entries.all (target.passes targetRows other) = true := by
  have passes : ∀ entry, target.passes targetRows other entry = true := by
    intro entry
    have absent := empty entry.1
    rw [stored_eq_finds target, Option.map_eq_none_iff] at absent
    rw [Provider.passes, absent]
    rfl
  have free : ∀ entry, Provider.conflicts targetRows other entry = false := by
    intro entry
    rw [Provider.conflicts, empty]
    cases other <;> rfl
  have unrefused : target.refuses targetRows other entries = false := by
    simp [Provider.refuses, passes, free]
  refine ⟨?_, unrefused, by simp [passes]⟩
  rw [Provider.writes, if_neg (by simp [unrefused]), Provider.accepted,
    List.takeWhile_eq_self_iff.mpr fun entry _ => passes entry]
  simp [free]

/-- An export that is imported into an empty shelf restores the entries, if and only if none of
them has the name of the prototype. -/
theorem restores_iff {exportOptions : ExportOptions} {importOptions : ImportOptions}
    {salt : RandomSalt}
    (terms : SameTerms source target shelf other exportOptions importOptions targetRows)
    (exported : Exported source shelf exportOptions salt rows exportData) :
    Restores target other exportData importOptions targetRows shelf rows ↔
      stored rows ⟨shelf, JsObject.prototypeName⟩ = none := by
  have opens := openExport_exported terms exported
  constructor
  · rintro ⟨⟨counts, succeeds⟩, restored⟩
    rw [← restored JsObject.prototypeName]
    split at opens
    · obtain ⟨left, result, imported, written, _⟩ := importEntries_alone targetRows opens
      rw [imported]
      rw [(writes_empty target terms.empty _ _).1] at written
      rw [written.stored_of_notMem, terms.empty]
      intro entry isEntry same
      cases StateKey.mk.inj same with
      | intro _ sameName => exact (mem_gathered.mp isEntry).2 sameName.symm
    · rw [importEntries_refused opens] at succeeds
      cases succeeds
  · intro plain
    rw [if_pos (statedCount_of_plain plain)] at opens
    obtain ⟨left, result, imported, written, succeeds, _⟩ := importEntries_alone targetRows opens
    obtain ⟨writesAll, unrefused, passes⟩ := writes_empty target terms.empty
      (importOptions.conflictStrategy.getD .error)
      (gathered (listed rows shelf) .empty).ownEntries
    rw [writesAll] at written
    rw [Restores, imported]
    refine ⟨succeeds passes (by simp [unrefused]), ?_⟩
    intro name
    cases isStored : stored rows ⟨shelf, name⟩ with
    | none =>
      rw [written.stored_of_notMem, terms.empty]
      intro entry isEntry same
      cases StateKey.mk.inj same with
      | intro _ sameName =>
        subst sameName
        rw [(mem_gathered.mp isEntry).1] at isStored
        cases isStored
    | some json =>
      have different : name ≠ JsObject.prototypeName := by
        rintro rfl
        rw [plain] at isStored
        cases isStored
      exact written.stored_of_mem (mem_gathered.mpr ⟨isStored, different⟩)

/-- Under `skip`, an import leaves what there was as it was, if and only if no entry that it gets
to replaces a state that does not count as one. -/
theorem skip_keeps_iff {options : ImportOptions} (isSkip : options.conflictStrategy = some .skip)
    (opened : provider.openExport shelf exportData options = .ok entries) :
    (∀ key json, stored rows key = some json →
      stored ((provider.importEntries shelf exportData options).alone execute rows).1 key =
        some json) ↔
    ∀ entry ∈ entries.takeWhile (provider.passes rows shelf), ∀ json,
      stored rows ⟨shelf, entry.1⟩ = some json → shelf.isConflict (some json) = false →
        entry.2 = json := by
  obtain ⟨left, result, imported, written, _⟩ := importEntries_alone rows opened
  have isWrites : provider.writes rows shelf (options.conflictStrategy.getD .error) entries =
      (entries.takeWhile (provider.passes rows shelf)).filter fun entry =>
        !Provider.conflicts rows shelf entry := by
    rw [isSkip, Option.getD_some, Provider.writes, if_neg nofun, Provider.accepted]
    simp
  rw [isWrites] at written
  rw [imported]
  constructor
  · intro kept entry reached json isStored unnoticed
    have isWritten : entry ∈ (entries.takeWhile (provider.passes rows shelf)).filter fun entry =>
        !Provider.conflicts rows shelf entry := by
      rw [List.mem_filter, Provider.conflicts, isStored, unnoticed]
      exact ⟨reached, rfl⟩
    have after := kept ⟨shelf, entry.1⟩ json isStored
    rw [written.stored_of_mem isWritten] at after
    exact Option.some.inj after
  · intro equal key json isStored
    by_cases isWritten : ∃ entry ∈ (entries.takeWhile (provider.passes rows shelf)).filter
        (fun entry => !Provider.conflicts rows shelf entry), key = ⟨shelf, entry.1⟩
    · obtain ⟨entry, isEntry, rfl⟩ := isWritten
      rw [written.stored_of_mem isEntry]
      obtain ⟨reached, free⟩ := List.mem_filter.mp isEntry
      rw [Provider.conflicts, isStored, Bool.not_eq_true'] at free
      rw [equal entry reached json isStored free]
    · rw [written.stored_of_notMem fun entry isEntry same => isWritten ⟨entry, isEntry, same⟩,
        isStored]

/-- Under `error`, an import of which an entry is there already leaves the store as it is, if and
only if it is refused, or writes what there is. -/
theorem error_keeps_iff {options : ImportOptions}
    (isError : options.conflictStrategy.getD .error = .error)
    (opened : provider.openExport shelf exportData options = .ok entries) :
    (∀ key, stored ((provider.importEntries shelf exportData options).alone execute rows).1 key =
      stored rows key) ↔
    provider.refuses rows shelf entries = true ∨
      ∀ entry ∈ entries, stored rows ⟨shelf, entry.1⟩ = some entry.2 := by
  obtain ⟨left, result, imported, written, _⟩ := importEntries_alone rows opened
  rw [imported]
  cases refused : provider.refuses rows shelf entries with
  | true =>
    rw [Provider.writes, if_pos ⟨isError, refused⟩] at written
    simp only [true_or, iff_true]
    exact fun key => written.stored_of_notMem nofun
  | false =>
    have isWrites : provider.writes rows shelf (options.conflictStrategy.getD .error) entries =
        entries := by
      have unrefused := refused
      rw [Provider.refuses, List.any_eq_false] at refused
      have passes : ∀ entry ∈ entries, provider.passes rows shelf entry = true := by
        intro entry isEntry
        have free := refused entry isEntry
        simp only [Bool.or_eq_true, Bool.not_eq_true', not_or] at free
        exact Bool.eq_true_of_not_eq_false free.1
      rw [Provider.writes, if_neg (by rw [unrefused]; simp), Provider.accepted,
        List.takeWhile_eq_self_iff.mpr passes, isError]
      simp
    rw [isWrites] at written
    simp only [Bool.false_eq_true, false_or]
    constructor
    · intro kept entry isEntry
      rw [← kept, written.stored_of_mem isEntry]
    · intro equal key
      by_cases isWritten : ∃ entry ∈ entries, key = ⟨shelf, entry.1⟩
      · obtain ⟨entry, isEntry, rfl⟩ := isWritten
        rw [written.stored_of_mem isEntry, equal entry isEntry]
      · exact written.stored_of_notMem fun entry isEntry same => isWritten ⟨entry, isEntry, same⟩

/-- What a provider can read is exported, within the limit. Imported into an empty shelf on the
same terms, an export restores the entries, if and only if none of them has the name of the
prototype. Under `skip`, an import leaves what there was as it was, if and only if no entry that it
gets to replaces a null by another state. Under `error`, an import of which an entry is there
already leaves the store as it is, if and only if one of its entries cannot be read, or is there and
not null, or all of them are stored as they are. The counts of an import add up. -/
theorem exports_roundTrip_iff (provider target : Provider) (shelf other : Shelf)
    (rows targetRows : Rows) :
    (∀ (options : ExportOptions) (salt : RandomSalt),
      (∀ name, (provider.finds rows ⟨shelf, name⟩).all Found.readable) →
      (listed rows shelf).length ≤ options.maxEntries.getD maxExportEntries →
      tooShort (options.password.getD provider.password) = false → ∃ exportData,
          ((provider.exportEntries shelf options salt).alone execute rows).2 = .ok exportData) ∧
    (∀ (exportOptions : ExportOptions) (importOptions : ImportOptions) (salt : RandomSalt)
        exportData, SameTerms provider target shelf other exportOptions importOptions targetRows →
      ((provider.exportEntries shelf exportOptions salt).alone execute rows).2 = .ok exportData →
        (Restores target other exportData importOptions targetRows shelf rows ↔
          stored rows ⟨shelf, JsObject.prototypeName⟩ = none)) ∧
    (∀ exportData (options : ImportOptions) entries, options.conflictStrategy = some .skip →
      provider.openExport shelf exportData options = .ok entries →
        ((∀ key json, stored rows key = some json →
          stored ((provider.importEntries shelf exportData options).alone execute rows).1 key =
            some json) ↔
        ∀ entry ∈ entries.takeWhile (provider.passes rows shelf), ∀ json,
          stored rows ⟨shelf, entry.1⟩ = some json → shelf.isConflict (some json) = false →
            entry.2 = json)) ∧
    (∀ exportData (options : ImportOptions) entries, options.conflictStrategy.getD .error = .error →
      provider.openExport shelf exportData options = .ok entries →
      (∃ entry ∈ entries, (stored rows ⟨shelf, entry.1⟩).isSome) → ((∀ key,
          stored ((provider.importEntries shelf exportData options).alone execute rows).1 key =
            stored rows key) ↔
        (∃ entry ∈ entries, provider.passes rows shelf entry = false ∨
          shelf.isConflict (stored rows ⟨shelf, entry.1⟩) = true) ∨
        ∀ entry ∈ entries, stored rows ⟨shelf, entry.1⟩ = some entry.2)) ∧
    ∀ exportData (options : ImportOptions) counts,
      ((provider.importEntries shelf exportData options).alone execute rows).2 = .ok counts →
      ∃ sealedWith payload, exportData.encryptedPayload = some (sealedWith, payload) ∧
        counts.imported + counts.skipped + counts.overwritten = payload.entries.size := by
  refine ⟨?_, ?_, ?_, ?_, ?_⟩
  · intro options salt readable few longEnough
    obtain ⟨left, result, exports, _, _, given⟩ :=
      exportEntries_alone provider shelf options salt rows
    rw [exports]
    refine given ?_ few longEnough
    rintro ⟨name, ciphertext⟩ isListed
    have opens := readable name
    rw [Provider.finds, mem_listed.mp isListed] at opens
    exact opens
  · intro exportOptions importOptions salt exportData terms isExport
    obtain ⟨left, result, exports, _, exported, _⟩ :=
      exportEntries_alone provider shelf exportOptions salt rows
    rw [exports] at isExport
    exact restores_iff terms (exported exportData isExport)
  · intro exportData options entries isSkip opened
    exact skip_keeps_iff isSkip opened
  · intro exportData options entries isError opened _
    rw [error_keeps_iff isError opened]
    simp only [Provider.refuses, Provider.conflicts, List.any_eq_true, Bool.or_eq_true,
      Bool.not_eq_true']
  · intro exportData options counts imports
    cases opened : provider.openExport shelf exportData options with
    | error error =>
      rw [importEntries_refused opened] at imports
      cases imports
    | ok entries =>
      obtain ⟨left, result, imported, _, _, adds⟩ := importEntries_alone rows opened
      obtain ⟨sealedWith, payload, isPayload, rfl⟩ := openExport_ok opened
      rw [imported] at imports
      refine ⟨sealedWith, payload, isPayload, ?_⟩
      rw [← payload.entries.length_ownEntries]
      exact adds counts imports

def sampleSalt : RandomSalt :=
  ⟨"00112233445566778899aabbccddeeff00112233445566778899AABBCCDDEEFF", by decide⟩

/-- An export of one private state, under the password of `rotated`. -/
def exportOf (privateStateId json : String) : SealedExport :=
  ⟨"midnight-private-state-export",
    some (rotated.password, ⟨1, 1, InsertionMap.empty.set privateStateId json⟩), sampleSalt.hex⟩

/-- A state of an earlier password is restored; it stays under `skip`, and is refused under
`error`. -/
theorem exports_roundTrip_iff_rotated :
    Restores rotated rotated.privateStates (exportOf "state" "1") ⟨none, none, none⟩ ∅
      rotated.privateStates rowOfBefore ∧
    (∀ key json, stored rowOfBefore key = some json →
      stored ((rotated.importEntries rotated.privateStates (exportOf "state" "2")
        ⟨none, some .skip, none⟩).alone execute rowOfBefore).1 key = some json) ∧
    ∀ key, stored ((rotated.importEntries rotated.privateStates (exportOf "state" "2")
        ⟨none, none, none⟩).alone execute rowOfBefore).1 key = stored rowOfBefore key := by
  have laws := exports_roundTrip_iff rotated rotated rotated.privateStates rotated.privateStates
    rowOfBefore ∅
  refine ⟨?_, ?_, ?_⟩
  · refine (laws.2.1 ⟨none, none⟩ ⟨none, none, none⟩ sampleSalt _
      ⟨rfl, rfl, Nat.le_refl _, fun _ => rfl⟩ ?_).mpr ?_
    · decide +kernel
    · decide +kernel
  · refine (laws.2.2.1 _ ⟨none, some .skip, none⟩ [("state", "2")] rfl ?_).mpr ?_
    · decide +kernel
    · intro entry isEntry json isStored unnoticed
      have isOnly : entry = ("state", "2") := by
        simpa using (List.takeWhile_sublist _).subset isEntry
      subst isOnly
      have isOne : stored rowOfBefore ⟨rotated.privateStates, "state"⟩ = some "1" := by
        decide +kernel
      rw [isOne] at isStored
      cases isStored
      revert unnoticed
      decide
  · refine (laws.2.2.2.1 _ ⟨none, none, none⟩ [("state", "2")] rfl ?_ ?_).mpr (.inl ?_)
    · decide +kernel
    · decide +kernel
    · decide +kernel

/-- A state under the name of the prototype is not restored. A null state is overwritten under
`skip` and under `error`. -/
theorem prototype_and_null_lost :
    (¬ ∀ (source target : Provider) (shelf other : Shelf) (exportOptions : ExportOptions)
        (importOptions : ImportOptions) (salt : RandomSalt) (rows targetRows : Rows) exportData,
      SameTerms source target shelf other exportOptions importOptions targetRows →
      ((source.exportEntries shelf exportOptions salt).alone execute rows).2 = .ok exportData →
        Restores target other exportData importOptions targetRows shelf rows) ∧
    (¬ ∀ (provider : Provider) (shelf : Shelf) exportData (options : ImportOptions) (rows : Rows),
      options.conflictStrategy = some .skip → ∀ key json, stored rows key = some json →
        stored ((provider.importEntries shelf exportData options).alone execute rows).1 key =
          some json) ∧
    ¬ ∀ (provider : Provider) (shelf : Shelf) exportData (options : ImportOptions) entries
        (rows : Rows), options.conflictStrategy.getD .error = .error →
      provider.openExport shelf exportData options = .ok entries →
      (∃ entry ∈ entries, (stored rows ⟨shelf, entry.1⟩).isSome) → ∀ key,
        stored ((provider.importEntries shelf exportData options).alone execute rows).1 key =
          stored rows key := by
  refine ⟨?_, ?_, ?_⟩
  · intro always
    have restored :=
      (always rotated rotated rotated.privateStates rotated.privateStates ⟨none, none⟩
      ⟨none, none, none⟩ sampleSalt
      (AList.singleton (rotated.key "__proto__") (rotated.encrypt "1")) ∅ ⟨"midnight-private-state-export", some (rotated.password, ⟨1, 1, .empty⟩), sampleSalt.hex⟩
      ⟨rfl, rfl, Nat.le_refl _, fun _ => rfl⟩ (by decide +kernel)).2 "__proto__"
    revert restored
    decide +kernel
  · intro always
    have kept := always rotated rotated.privateStates (exportOf "state" "1")
      ⟨none, some .skip, none⟩
      (AList.singleton (rotated.key "state") (rotated.encrypt "null")) rfl (rotated.key "state")
      "null" (by decide +kernel)
    revert kept
    decide +kernel
  · intro always
    have kept := always rotated rotated.privateStates (exportOf "state" "1")
      ⟨none, none, none⟩ [("state", "1")]
      (AList.singleton (rotated.key "state") (rotated.encrypt "null")) rfl (by decide +kernel)
      (by decide +kernel) (rotated.key "state")
    revert kept
    decide +kernel

end Laws

end Nightgate.Midnight.PrivateStates
