import Mathlib.Data.List.Nodup

/-!
# Maps that remember the order of insertion

Writing under a key that is there keeps its place; a new key goes to the end.
-/

namespace Nightgate.Library

structure InsertionMap (κ ν : Type*) where
  entries : List (κ × ν)
  distinct : (entries.map Prod.fst).Nodup
  deriving DecidableEq

namespace InsertionMap

variable {κ ν : Type*}

def empty : InsertionMap κ ν where
  entries := []
  distinct := List.nodup_nil

@[simp] theorem empty_entries : (empty : InsertionMap κ ν).entries = [] :=
  rfl

def size (store : InsertionMap κ ν) : Nat :=
  store.entries.length

theorem entries_nodup (store : InsertionMap κ ν) : store.entries.Nodup :=
  store.distinct.of_map Prod.fst

variable [DecidableEq κ]

def get? (store : InsertionMap κ ν) (key : κ) : Option ν :=
  (store.entries.find? fun entry => entry.1 = key).map Prod.snd

theorem keys_overwrite (entries : List (κ × ν)) (key : κ) (value : ν) :
    (entries.map fun entry => if entry.1 = key then (key, value) else entry).map Prod.fst =
      entries.map Prod.fst := by
  have same : Prod.fst ∘ (fun entry : κ × ν => if entry.1 = key then (key, value) else entry) =
      Prod.fst := by
    funext entry
    simp only [Function.comp_apply]
    split
    next found => exact found.symm
    · rfl
  rw [List.map_map, same]

/-- Writing an entry: in place when the key is there, else at the end. -/
def set (store : InsertionMap κ ν) (key : κ) (value : ν) : InsertionMap κ ν :=
  if known : key ∈ store.entries.map Prod.fst then
    { entries := store.entries.map fun entry => if entry.1 = key then (key, value) else entry
      distinct := by
        rw [keys_overwrite]
        exact store.distinct }
  else
    { entries := store.entries ++ [(key, value)]
      distinct := by
        rw [List.map_append, List.nodup_append]
        refine ⟨store.distinct, by simp, ?_⟩
        intro other isOther new isNew same
        simp only [List.map_cons, List.map_nil, List.mem_singleton] at isNew
        subst isNew same
        exact known isOther }

def erase (store : InsertionMap κ ν) (key : κ) : InsertionMap κ ν where
  entries := store.entries.filter fun entry => entry.1 ≠ key
  distinct := (List.filter_sublist.map Prod.fst).nodup store.distinct

/-- Writing entries one after the other. -/
def setAll (store : InsertionMap κ ν) (entries : List (κ × ν)) : InsertionMap κ ν :=
  entries.foldl (fun store entry => store.set entry.1 entry.2) store

variable {store : InsertionMap κ ν} {value : ν} {key : κ}

theorem get?_eq_some_iff :
    store.get? key = some value ↔ (key, value) ∈ store.entries := by
  simp only [get?, Option.map_eq_some_iff]
  constructor
  · rintro ⟨⟨found, content⟩, isFound, rfl⟩
    have isKey : found = key := by simpa using List.find?_some isFound
    subst isKey
    exact List.mem_of_find?_eq_some isFound
  · intro stored
    obtain ⟨entry, isFound⟩ : ∃ entry,
        store.entries.find? (fun entry => entry.1 = key) = some entry := by
      cases found : store.entries.find? fun entry => entry.1 = key with
      | some entry => exact ⟨entry, rfl⟩
      | none =>
        have := List.find?_eq_none.mp found (key, value) stored
        simp at this
    refine ⟨entry, isFound, ?_⟩
    have isKey : entry.1 = key := by simpa using List.find?_some isFound
    have same : entry = (key, value) :=
      List.inj_on_of_nodup_map store.distinct (List.mem_of_find?_eq_some isFound) stored isKey
    rw [same]

theorem set_entries_of_fresh (fresh : key ∉ store.entries.map Prod.fst) :
    (store.set key value).entries = store.entries ++ [(key, value)] := by
  rw [set, dif_neg fresh]

/-- Writing adds no entry but its own. -/
theorem mem_set {entry : κ × ν} (isEntry : entry ∈ (store.set key value).entries) :
    entry = (key, value) ∨ entry ∈ store.entries := by
  rw [set] at isEntry
  split at isEntry
  · obtain ⟨old, isOld, rfl⟩ := List.mem_map.mp isEntry
    split
    · exact Or.inl rfl
    · exact Or.inr isOld
  · exact (List.mem_append.mp isEntry).symm.imp List.mem_singleton.mp id

theorem keys_set (store : InsertionMap κ ν) (key : κ) (value : ν) {other : κ} :
    other ∈ (store.set key value).entries.map Prod.fst ↔
      other = key ∨ other ∈ store.entries.map Prod.fst := by
  rw [set]
  split
  next known =>
    rw [keys_overwrite]
    constructor
    · intro stored
      exact Or.inr stored
    · rintro (rfl | stored)
      · exact known
      · exact stored
  · rw [List.map_append, List.mem_append]
    simp [or_comm]

@[simp] theorem get?_set_self (store : InsertionMap κ ν) (key : κ) (value : ν) :
    (store.set key value).get? key = some value := by
  rw [get?_eq_some_iff, set]
  split
  next known =>
    obtain ⟨entry, stored, isKey⟩ := List.mem_map.mp known
    exact List.mem_map.mpr ⟨entry, stored, if_pos isKey⟩
  · exact List.mem_append_right _ (List.mem_singleton_self _)

theorem get?_set_of_ne {key other : κ}
    (distinct : other ≠ key) : (store.set key value).get? other = store.get? other := by
  apply Option.ext
  intro content
  rw [get?_eq_some_iff, get?_eq_some_iff]
  constructor
  · intro stored
    cases mem_set stored with
    | inl written => exact absurd (congrArg Prod.fst written) distinct
    | inr stored => exact stored
  · intro stored
    rw [set]
    split
    · exact List.mem_map.mpr ⟨_, stored, if_neg distinct⟩
    · exact List.mem_append_left _ stored

theorem keys_erase (store : InsertionMap κ ν) (key : κ) :
    (store.erase key).entries.map Prod.fst = (store.entries.map Prod.fst).erase key := by
  rw [store.distinct.erase_eq_filter, List.filter_map]
  congr 1
  apply List.filter_congr
  intro entry _
  by_cases same : entry.1 = key
  · simp [same]
  · simp [same]

theorem get?_eq_none_iff :
    store.get? key = none ↔ key ∉ store.entries.map Prod.fst := by
  rw [List.mem_map, Option.eq_none_iff_forall_ne_some]
  constructor
  · rintro missing ⟨⟨found, value⟩, stored, rfl⟩
    exact missing value (get?_eq_some_iff.mpr stored)
  · intro absent value found
    exact absent ⟨_, get?_eq_some_iff.mp found, rfl⟩

@[simp] theorem get?_erase_self (store : InsertionMap κ ν) (key : κ) :
    (store.erase key).get? key = none := by
  rw [get?_eq_none_iff, keys_erase]
  exact store.distinct.not_mem_erase

theorem get?_erase_of_ne {key other : κ} (distinct : other ≠ key) :
    (store.erase key).get? other = store.get? other := by
  apply Option.ext
  intro content
  rw [get?_eq_some_iff, get?_eq_some_iff, erase, List.mem_filter]
  simp [distinct]

/-- Entries under distinct new keys go to the end as they are. -/
theorem setAll_entries_of_fresh (entries : List (κ × ν)) (store : InsertionMap κ ν)
    (distinct : (entries.map Prod.fst).Nodup)
    (fresh : ∀ key ∈ entries.map Prod.fst, key ∉ store.entries.map Prod.fst) :
    (store.setAll entries).entries = store.entries ++ entries := by
  induction entries generalizing store with
  | nil => simp [setAll]
  | cons entry rest ih =>
    rw [List.map_cons, List.nodup_cons] at distinct
    have first : (store.set entry.1 entry.2).entries = store.entries ++ [entry] :=
      set_entries_of_fresh (fresh entry.1 (by simp))
    have later := ih (store.set entry.1 entry.2) distinct.2 (by
      intro key isKey stored
      rw [first, List.map_append, List.mem_append] at stored
      rcases stored with stored | isEntry
      · exact fresh key (by simp [isKey]) stored
      · simp only [List.map_cons, List.map_nil, List.mem_singleton] at isEntry
        exact distinct.1 (isEntry ▸ isKey))
    rw [first, List.append_assoc] at later
    exact later

theorem setAll_empty_entries {entries : List (κ × ν)} (distinct : (entries.map Prod.fst).Nodup) :
    ((empty : InsertionMap κ ν).setAll entries).entries = entries := by
  rw [setAll_entries_of_fresh entries empty distinct (by simp), empty_entries, List.nil_append]

end InsertionMap

end Nightgate.Library
