import Mathlib.Data.List.Nodup

/-! Insertion-ordered dictionaries, whose keys are distinct by construction. -/

namespace Absm

variable {κ ν : Type} [DecidableEq κ]

/-- Read the value stored under a key in a list of entries. -/
def lookupEntry (key : κ) : List (κ × ν) → Option ν
  -- Keys differ, so the first entry that fits is the only one.
  | [] => none
  | (other, value) :: rest => if other = key then some value else lookupEntry key rest

/-- Overwrite the value of a key in place, or append the key when it is new. -/
def setEntry (key : κ) (value : ν) : List (κ × ν) → List (κ × ν)
  | [] => [(key, value)]
  | (other, previous) :: rest =>
    -- An existing key keeps its position, as a dictionary assignment does.
    if other = key then (key, value) :: rest else (other, previous) :: setEntry key value rest

/-- Setting a key leaves the key list alone, or puts one new key at its end. -/
theorem setEntry_keys (key : κ) (value : ν) (entries : List (κ × ν)) :
    (setEntry key value entries).map Prod.fst =
      if key ∈ entries.map Prod.fst then entries.map Prod.fst
      else entries.map Prod.fst ++ [key] := by
  -- The walk stops at the key or runs off the end, where the new entry goes.
  induction entries with
  | nil => simp [setEntry]
  | cons entry rest ih =>
    rcases entry with ⟨other, previous⟩
    by_cases same : other = key
    · simp [setEntry, same]
    · have differs : ¬ key = other := fun equal => same equal.symm
      by_cases later : key ∈ rest.map Prod.fst
      · simp only [setEntry, if_neg same, List.map_cons, ih, List.mem_cons, later, or_true,
          if_true]
      · simp only [setEntry, if_neg same, List.map_cons, ih, List.mem_cons, differs, later,
          or_self, if_false, List.cons_append]

/-- Setting a key preserves distinctness of the keys. -/
theorem setEntry_nodup {key : κ} {value : ν} {entries : List (κ × ν)}
    (distinct : (entries.map Prod.fst).Nodup) :
    ((setEntry key value entries).map Prod.fst).Nodup := by
  -- Only a key that is not yet present is ever appended.
  rw [setEntry_keys]
  split
  · exact distinct
  · rename_i fresh
    exact List.nodup_append.mpr ⟨distinct, List.nodup_singleton key,
      fun first member second last => by
        rcases List.mem_singleton.mp last with rfl
        exact fun equal => fresh (equal ▸ member)⟩

/-- Reading after a write sees the new value under its key and the old one elsewhere. -/
theorem lookupEntry_setEntry (key other : κ) (value : ν) (entries : List (κ × ν)) :
    lookupEntry other (setEntry key value entries) =
      if other = key then some value else lookupEntry other entries := by
  -- The first entry under the written key is the one that reading finds.
  induction entries with
  | nil => simp [setEntry, lookupEntry, eq_comm]
  | cons entry rest ih =>
    rcases entry with ⟨head, previous⟩
    by_cases same : head = key
    · subst head
      by_cases read : other = key
      · simp [setEntry, lookupEntry, read]
      · simp [setEntry, lookupEntry, read, Ne.symm read]
    · by_cases read : head = other
      · subst head
        simp [setEntry, lookupEntry, same]
      · simp [setEntry, lookupEntry, same, read, ih]

/-- A value that is read back was stored under that key. -/
theorem mem_of_lookupEntry {key : κ} {value : ν} {entries : List (κ × ν)}
    (found : lookupEntry key entries = some value) : (key, value) ∈ entries := by
  -- Reading skips only entries under other keys.
  induction entries with
  | nil => simp [lookupEntry] at found
  | cons entry rest ih =>
    rcases entry with ⟨other, previous⟩
    by_cases same : other = key
    · simp only [lookupEntry, if_pos same, Option.some.injEq] at found
      simp [same, found]
    · simp only [lookupEntry, if_neg same] at found
      exact List.mem_cons_of_mem _ (ih found)

/-- With distinct keys, every stored entry is the one read under its key. -/
theorem lookupEntry_of_mem {key : κ} {value : ν} {entries : List (κ × ν)}
    (distinct : (entries.map Prod.fst).Nodup) (member : (key, value) ∈ entries) :
    lookupEntry key entries = some value := by
  -- An earlier entry under the same key would repeat that key.
  induction entries with
  | nil => simp at member
  | cons entry rest ih =>
    rcases entry with ⟨other, previous⟩
    simp only [List.map_cons, List.nodup_cons] at distinct
    rcases List.mem_cons.mp member with same | later
    · cases same
      simp [lookupEntry]
    · have differs : other ≠ key := by
        rintro rfl
        exact distinct.1 (List.mem_map.mpr ⟨(other, value), later, rfl⟩)
      simpa [lookupEntry, differs] using ih distinct.2 later

/-- A key that no entry carries reads as absent. -/
theorem lookupEntry_eq_none {key : κ} {entries : List (κ × ν)} :
    lookupEntry key entries = none ↔ key ∉ entries.map Prod.fst := by
  -- Each entry is compared once, and the list ends without a hit.
  induction entries with
  | nil => simp [lookupEntry]
  | cons entry rest ih =>
    rcases entry with ⟨other, value⟩
    by_cases same : other = key
    · simp [lookupEntry, same]
    · simp [lookupEntry, same, ih, Ne.symm same]

/-- Setting a key that is absent appends its entry. -/
theorem setEntry_of_fresh {key : κ} {value : ν} {entries : List (κ × ν)}
    (fresh : key ∉ entries.map Prod.fst) : setEntry key value entries = entries ++ [(key, value)] := by
  -- The walk passes every entry, since none of them carries the key.
  induction entries with
  | nil => rfl
  | cons entry rest ih =>
    rcases entry with ⟨other, previous⟩
    simp only [List.map_cons, List.mem_cons, not_or] at fresh
    simp [setEntry, Ne.symm fresh.1, ih fresh.2]

/-- Setting a key to the value it already has changes nothing. -/
theorem setEntry_of_lookupEntry {key : κ} {value : ν} {entries : List (κ × ν)}
    (found : lookupEntry key entries = some value) : setEntry key value entries = entries := by
  -- The entry that reading finds is the one that writing replaces.
  induction entries with
  | nil => simp [lookupEntry] at found
  | cons entry rest ih =>
    rcases entry with ⟨other, previous⟩
    by_cases same : other = key
    · simp only [lookupEntry, if_pos same, Option.some.injEq] at found
      simp [setEntry, same, found]
    · simp only [lookupEntry, if_neg same] at found
      simp [setEntry, same, ih found]

/-- A dictionary: entries in insertion order, with no key twice. -/
structure Dict (κ ν : Type) where
  /-- The entries, oldest key first. -/
  entries : List (κ × ν)
  /-- No two entries share a key. -/
  distinct : (entries.map Prod.fst).Nodup

namespace Dict

omit [DecidableEq κ] in
/-- Dictionaries with the same entries are equal. -/
@[ext] theorem ext {left right : Dict κ ν} (same : left.entries = right.entries) : left = right := by
  -- Distinctness is a proposition, so the entries are all there is to compare.
  cases left
  cases right
  cases same
  rfl

instance [DecidableEq ν] : DecidableEq (Dict κ ν) := fun left right =>
  -- The proof that keys differ is no data.
  decidable_of_iff (left.entries = right.entries) ⟨ext, fun same => same ▸ rfl⟩

/-- The dictionary without entries. -/
def empty : Dict κ ν := ⟨[], List.nodup_nil⟩

/-- The value under a key, if any. -/
def get? (dict : Dict κ ν) (key : κ) : Option ν := lookupEntry key dict.entries

/-- The value under a key, or a fallback. -/
def getD (dict : Dict κ ν) (key : κ) (fallback : ν) : ν := (dict.get? key).getD fallback

/-- The keys, oldest first. -/
def keys (dict : Dict κ ν) : List κ := dict.entries.map Prod.fst

/-- Assign a value to a key. -/
def set (dict : Dict κ ν) (key : κ) (value : ν) : Dict κ ν :=
  ⟨setEntry key value dict.entries, setEntry_nodup dict.distinct⟩

/-- Build a dictionary by assigning entries one after another. -/
def ofList (entries : List (κ × ν)) : Dict κ ν :=
  -- A key that comes again keeps its place and takes the later value.
  entries.foldl (fun dict entry => dict.set entry.1 entry.2) empty

/-- The entries whose values pass a test. -/
def filterValues (keep : ν → Bool) (dict : Dict κ ν) : Dict κ ν :=
  -- The entries that are left have different keys as well.
  ⟨dict.entries.filter fun entry => keep entry.2,
    dict.distinct.sublist (List.filter_sublist.map Prod.fst)⟩

@[simp] theorem get?_empty (key : κ) : (empty : Dict κ ν).get? key = none := rfl

/-- Assignment changes exactly one reading. -/
theorem get?_set (dict : Dict κ ν) (key other : κ) (value : ν) :
    (dict.set key value).get? other = if other = key then some value else dict.get? other :=
  -- The entries behave in this way.
  lookupEntry_setEntry key other value dict.entries

@[simp] theorem get?_set_self (dict : Dict κ ν) (key : κ) (value : ν) :
    (dict.set key value).get? key = some value := by
  -- This is the case of the same key.
  simp [get?_set]

theorem get?_set_of_ne (dict : Dict κ ν) {key other : κ} (differs : other ≠ key) (value : ν) :
    (dict.set key value).get? other = dict.get? other := by
  -- This is the case of another key.
  simp [get?_set, differs]

/-- An entry is stored exactly when its key reads as its value. -/
theorem mem_entries_iff {dict : Dict κ ν} {key : κ} {value : ν} :
    (key, value) ∈ dict.entries ↔ dict.get? key = some value :=
  -- Where keys differ, what is listed is what is found.
  ⟨lookupEntry_of_mem dict.distinct, mem_of_lookupEntry⟩

/-- A key is absent exactly when it is not among the keys. -/
theorem get?_eq_none_iff {dict : Dict κ ν} {key : κ} : dict.get? key = none ↔ key ∉ dict.keys :=
  -- A key is found when it is listed.
  lookupEntry_eq_none

/-- Reading does not depend on the order of the entries. -/
theorem get?_of_perm {left right : Dict κ ν} (perm : left.entries.Perm right.entries) (key : κ) :
    left.get? key = right.get? key := by
  -- The entry that reading finds in the one is there in the other.
  apply Option.ext
  intro value
  rw [← mem_entries_iff, ← mem_entries_iff, perm.mem_iff]

/-- A value is read from the entries that pass a test when it passes. -/
theorem get?_filterValues (keep : ν → Bool) (dict : Dict κ ν) (key : κ) :
    (dict.filterValues keep).get? key = (dict.get? key).filter keep := by
  -- The one entry of the key is kept, or left out.
  apply Option.ext
  intro value
  rw [← mem_entries_iff, filterValues, List.mem_filter, mem_entries_iff, Option.filter_eq_some_iff]

/-- Assigning the value a key already has changes nothing. -/
theorem set_of_get? {dict : Dict κ ν} {key : κ} {value : ν} (found : dict.get? key = some value) :
    dict.set key value = dict :=
  -- Putting back what is there changes no entry.
  ext (setEntry_of_lookupEntry found)

/-- Assigning entries under fresh, distinct keys appends exactly those entries. -/
theorem foldl_set_entries (added : List (κ × ν)) (dict : Dict κ ν)
    (distinct : (dict.entries ++ added |>.map Prod.fst).Nodup) :
    (added.foldl (fun dict entry => dict.set entry.1 entry.2) dict).entries =
      dict.entries ++ added := by
  -- Each assignment meets a key that no earlier entry carries.
  induction added generalizing dict with
  | nil => simp
  | cons entry rest ih =>
    have fresh : entry.1 ∉ dict.entries.map Prod.fst := by
      intro member
      simp only [List.map_append, List.map_cons] at distinct
      exact (List.nodup_append.mp distinct).2.2 _ member _ (by simp) rfl
    have extended : (dict.set entry.1 entry.2).entries = dict.entries ++ [entry] :=
      setEntry_of_fresh fresh
    rw [List.foldl_cons, ih _ (by simpa [extended] using distinct), extended]
    simp

/-- Assigning distinct keys to an empty dictionary stores exactly the given entries. -/
theorem ofList_entries {entries : List (κ × ν)} (distinct : (entries.map Prod.fst).Nodup) :
    (ofList entries).entries = entries := by
  -- Each entry is added behind the ones before.
  simpa [ofList, empty] using foldl_set_entries entries (empty : Dict κ ν) (by simpa [empty] using distinct)

/-- Assigning the entries of one dictionary to another overwrites exactly the keys that it has. -/
theorem get?_update (dict added : Dict κ ν) (key : κ) :
    (added.entries.foldl (fun dict entry => dict.set entry.1 entry.2) dict).get? key =
      (added.get? key).or (dict.get? key) := by
  -- A key occurs once among the entries, so its first assignment is its last one.
  obtain ⟨entries, distinct⟩ := added
  simp only [get?]
  induction entries generalizing dict with
  | nil => rfl
  | cons entry entries ih =>
    rcases entry with ⟨other, value⟩
    simp only [List.map_cons, List.nodup_cons] at distinct
    rw [List.foldl_cons, ih _ distinct.2]
    by_cases same : other = key
    · subst same
      rw [lookupEntry_eq_none.mpr distinct.1, lookupEntry, if_pos rfl]
      exact get?_set_self dict other value
    · rw [lookupEntry, if_neg same]
      congr 1
      exact get?_set_of_ne dict (Ne.symm same) value

/-- Assignment adds at most the key itself. -/
theorem mem_keys_set {dict : Dict κ ν} {key other : κ} {value : ν} :
    other ∈ (dict.set key value).keys ↔ other = key ∨ other ∈ dict.keys := by
  -- Being absent is being absent before and not being the new key.
  rw [← not_iff_not, ← get?_eq_none_iff, get?_set, not_or, ← get?_eq_none_iff]
  by_cases same : other = key <;> simp [same]

/-- The keys of a dictionary are those that have been assigned to. -/
theorem mem_keys_ofList {entries : List (κ × ν)} {key : κ} :
    key ∈ (ofList entries).keys ↔ key ∈ entries.map Prod.fst := by
  have assigned (dict : Dict κ ν) :
      key ∈ (entries.foldl (fun dict entry => dict.set entry.1 entry.2) dict).keys ↔
        key ∈ entries.map Prod.fst ∨ key ∈ dict.keys := by
    -- Each entry is assigned on top of what those before it have left.
    induction entries generalizing dict with
    | nil => simp
    | cons entry entries ih =>
      rw [List.foldl_cons, ih, mem_keys_set, List.map_cons, List.mem_cons]
      tauto
  simpa [ofList, empty, keys] using assigned empty

/-- Rebuilding a dictionary from its own entries gives it back. -/
@[simp] theorem ofList_self (dict : Dict κ ν) : ofList dict.entries = dict :=
  -- The keys of a dictionary differ.
  ext (ofList_entries dict.distinct)

end Dict
end Absm
