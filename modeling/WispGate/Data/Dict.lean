import Mathlib.Data.List.Nodup
import Mathlib.Data.List.Perm.Basic
import Mathlib.Tactic.SplitIfs

/-! # Insertion-ordered dictionaries

Mathlib's `AList` moves a replaced key to the front, so it cannot stand for a dictionary whose
iteration order is the order of first insertion. `Dict` keeps that order: replacing a value leaves
its key where it was, a new key goes to the end, and the uniqueness of keys is a field. Lookup is
the observation every other lemma is stated through; the entry list is only used where the order
or a sum over all values matters.
-/

namespace WispGate.Data

variable {κ α β : Type*}

/-- An association list in insertion order, with at most one entry for a key. -/
structure Dict (κ α : Type*) where
  entries : List (κ × α)
  nodup : (entries.map Prod.fst).Nodup

namespace Dict

@[ext] theorem ext {d e : Dict κ α} (same : d.entries = e.entries) : d = e := by
  cases d
  cases e
  simpa using same

instance [DecidableEq κ] [DecidableEq α] : DecidableEq (Dict κ α) := fun d e =>
  decidable_of_iff (d.entries = e.entries) ⟨ext, fun same => same ▸ rfl⟩

def empty : Dict κ α := ⟨[], List.nodup_nil⟩

instance : Inhabited (Dict κ α) := ⟨empty⟩

def keys (d : Dict κ α) : List κ := d.entries.map Prod.fst

def values (d : Dict κ α) : List α := d.entries.map Prod.snd

def size (d : Dict κ α) : ℕ := d.entries.length

/-- Keep the entries a predicate accepts, in their order. -/
def filter (d : Dict κ α) (keep : κ → α → Bool) : Dict κ α where
  entries := d.entries.filter fun entry => keep entry.1 entry.2
  nodup := d.nodup.sublist (List.filter_sublist.map _)

/-- Rewrite every value. -/
def mapValues (d : Dict κ α) (change : α → β) : Dict κ β where
  entries := d.entries.map fun entry => (entry.1, change entry.2)
  nodup := by simpa [Function.comp_def] using d.nodup

variable [DecidableEq κ]

/-- The value of the first entry for a key. -/
def find (key : κ) : List (κ × α) → Option α
  | [] => none
  | (other, value) :: rest => if other = key then some value else find key rest

/-- Replace the value of a key in place, or append a new entry. -/
def put (key : κ) (value : α) : List (κ × α) → List (κ × α)
  | [] => [(key, value)]
  | (other, old) :: rest =>
    if other = key then (key, value) :: rest else (other, old) :: put key value rest

theorem put_keys (key : κ) (value : α) (entries : List (κ × α)) :
    (put key value entries).map Prod.fst =
      if key ∈ entries.map Prod.fst then entries.map Prod.fst else entries.map Prod.fst ++ [key] := by
  induction entries with
  | nil => simp [put]
  | cons head rest ih =>
    obtain ⟨other, old⟩ := head
    by_cases same : other = key
    · simp [put, same]
    · simp only [put, if_neg same, List.map_cons, ih, List.mem_cons, Ne.symm same, false_or]
      split_ifs <;> rfl

theorem find_put (key other : κ) (value : α) (entries : List (κ × α)) :
    find other (put key value entries) = if key = other then some value else find other entries := by
  induction entries with
  | nil => simp [put, find]
  | cons head rest ih =>
    obtain ⟨first, old⟩ := head
    by_cases same : first = key
    · subst same
      simp only [put, if_pos, find]
      split_ifs <;> rfl
    · simp only [put, if_neg same, find, ih]
      by_cases hit : first = other
      · subst hit
        simp [Ne.symm same]
      · simp [hit]

theorem find_eq_some_iff {entries : List (κ × α)} (nodup : (entries.map Prod.fst).Nodup)
    (key : κ) (value : α) : find key entries = some value ↔ (key, value) ∈ entries := by
  induction entries with
  | nil => simp [find]
  | cons head rest ih =>
    obtain ⟨other, old⟩ := head
    rw [List.map_cons, List.nodup_cons] at nodup
    obtain ⟨fresh, nodup⟩ := nodup
    by_cases same : other = key
    · subst same
      have absent : (other, value) ∉ rest := fun member => fresh (List.mem_map.mpr ⟨_, member, rfl⟩)
      simp [find, absent, eq_comm]
    · simp [find, same, Ne.symm same, ih nodup]

theorem find_eq_none_iff (entries : List (κ × α)) (key : κ) :
    find key entries = none ↔ key ∉ entries.map Prod.fst := by
  induction entries with
  | nil => simp [find]
  | cons head rest ih =>
    obtain ⟨other, old⟩ := head
    by_cases same : other = key
    · simp [find, same]
    · simp only [find, if_neg same, ih, List.map_cons, List.mem_cons, Ne.symm same, false_or]

def get? (d : Dict κ α) (key : κ) : Option α := find key d.entries

def contains (d : Dict κ α) (key : κ) : Bool := (d.get? key).isSome

/-- Assignment to a key: in place when the key is there, at the end when it is new. -/
def insert (d : Dict κ α) (key : κ) (value : α) : Dict κ α where
  entries := put key value d.entries
  nodup := by
    rw [put_keys]
    split_ifs with present
    · exact d.nodup
    · exact d.nodup.append (List.nodup_singleton key) (by simpa [List.disjoint_singleton] using present)

/-- Removal of a key, present or not. -/
def erase (d : Dict κ α) (key : κ) : Dict κ α := d.filter fun other _ => decide (other ≠ key)

/-- Rewrite the value of a key that is there. -/
def modify (d : Dict κ α) (key : κ) (change : α → α) : Dict κ α :=
  match d.get? key with
  | some value => d.insert key (change value)
  | none => d

@[simp] theorem get?_empty (key : κ) : (empty : Dict κ α).get? key = none := rfl

theorem get?_eq_some_iff (d : Dict κ α) (key : κ) (value : α) :
    d.get? key = some value ↔ (key, value) ∈ d.entries := find_eq_some_iff d.nodup key value

theorem get?_eq_none_iff (d : Dict κ α) (key : κ) : d.get? key = none ↔ key ∉ d.keys :=
  find_eq_none_iff d.entries key

theorem get?_insert (d : Dict κ α) (key other : κ) (value : α) :
    (d.insert key value).get? other = if key = other then some value else d.get? other :=
  find_put key other value d.entries

@[simp] theorem get?_insert_self (d : Dict κ α) (key : κ) (value : α) :
    (d.insert key value).get? key = some value := by simp [get?_insert]

theorem get?_insert_of_ne (d : Dict κ α) {key other : κ} (value : α) (ne : key ≠ other) :
    (d.insert key value).get? other = d.get? other := by simp [get?_insert, ne]

theorem get?_filter (d : Dict κ α) (keep : κ → α → Bool) (key : κ) :
    (d.filter keep).get? key = (d.get? key).filter (keep key) := by
  cases found : d.get? key with
  | none =>
    rw [Option.filter_none, get?_eq_none_iff]
    rw [get?_eq_none_iff] at found
    exact fun member => found ((List.filter_sublist.map Prod.fst).subset member)
  | some value =>
    rw [get?_eq_some_iff] at found
    by_cases kept : keep key value
    · rw [Option.filter_some, if_pos kept, get?_eq_some_iff]
      exact List.mem_filter.mpr ⟨found, kept⟩
    · rw [Option.filter_some, if_neg kept, get?_eq_none_iff]
      rintro member
      obtain ⟨⟨other, old⟩, inside, rfl⟩ := List.mem_map.mp member
      obtain ⟨inside, accepted⟩ := List.mem_filter.mp inside
      have same : old = value := Option.some.inj
        (((get?_eq_some_iff d _ _).mpr inside).symm.trans ((get?_eq_some_iff d _ _).mpr found))
      exact kept (same ▸ accepted)

theorem get?_erase (d : Dict κ α) (key other : κ) :
    (d.erase key).get? other = if key = other then none else d.get? other := by
  rw [erase, get?_filter]
  by_cases same : key = other
  · simp [same]
  · rw [if_neg same]
    cases d.get? other with
    | none => rfl
    | some value => simp [Ne.symm same]

@[simp] theorem get?_erase_self (d : Dict κ α) (key : κ) : (d.erase key).get? key = none := by
  simp [get?_erase]

theorem get?_erase_of_ne (d : Dict κ α) {key other : κ} (ne : key ≠ other) :
    (d.erase key).get? other = d.get? other := by simp [get?_erase, ne]

theorem get?_modify (d : Dict κ α) (key other : κ) (change : α → α) :
    (d.modify key change).get? other =
      if key = other then (d.get? other).map change else d.get? other := by
  unfold modify
  cases found : d.get? key with
  | none =>
    by_cases same : key = other
    · subst same
      simp [found]
    · simp [same]
  | some value =>
    rw [get?_insert]
    by_cases same : key = other
    · subst same
      simp [found]
    · simp [same]

theorem get?_mapValues (d : Dict κ α) (change : α → β) (key : κ) :
    (d.mapValues change).get? key = (d.get? key).map change := by
  obtain ⟨entries, nodup⟩ := d
  simp only [get?, mapValues]
  clear nodup
  induction entries with
  | nil => rfl
  | cons head rest ih =>
    obtain ⟨other, value⟩ := head
    simp only [List.map_cons, find]
    split_ifs
    · rfl
    · exact ih

@[simp] theorem contains_iff (d : Dict κ α) (key : κ) :
    d.contains key = true ↔ ∃ value, d.get? key = some value := by
  simp [contains, Option.isSome_iff_exists]

theorem contains_eq_false_iff (d : Dict κ α) (key : κ) :
    d.contains key = false ↔ d.get? key = none := by
  simp [contains]

theorem put_of_notMem {key : κ} {entries : List (κ × α)} (absent : key ∉ entries.map Prod.fst) (value : α) :
    put key value entries = entries ++ [(key, value)] := by
  induction entries with
  | nil => rfl
  | cons head rest ih =>
    obtain ⟨other, old⟩ := head
    rw [List.map_cons, List.mem_cons, not_or] at absent
    rw [put, if_neg (Ne.symm absent.1), ih absent.2, List.cons_append]

/-- A new key goes to the end. -/
theorem values_insert_of_get?_eq_none {d : Dict κ α} {key : κ} (absent : d.get? key = none) (value : α) :
    (d.insert key value).values = d.values ++ [value] := by
  rw [get?_eq_none_iff] at absent
  simp only [values, insert, put_of_notMem absent, List.map_append, List.map_cons, List.map_nil]

omit [DecidableEq κ] in
theorem size_filter_le (d : Dict κ α) (keep : κ → α → Bool) : (d.filter keep).size ≤ d.size :=
  List.length_filter_le ..

/-- An assignment adds one entry at most. -/
theorem size_insert_le (d : Dict κ α) (key : κ) (value : α) : (d.insert key value).size ≤ d.size + 1 := by
  have keys := congrArg List.length (put_keys key value d.entries)
  rw [List.length_map] at keys
  rw [size, insert, size, keys]
  split_ifs
  · simp
  · simp

theorem size_erase_lt {d : Dict κ α} {key : κ} {value : α} (found : d.get? key = some value) :
    (d.erase key).size < d.size := by
  rw [get?_eq_some_iff] at found
  exact List.length_filter_lt_length_iff_exists.mpr ⟨_, found, by simp⟩

/-- Taking an entry out and putting it back does not make room. -/
theorem size_erase_insert_le {d : Dict κ α} {key : κ} {value : α} (found : d.get? key = some value) (again : α) :
    ((d.erase key).insert key again).size ≤ d.size := by
  have grown := size_insert_le (d.erase key) key again
  have shrunk := size_erase_lt found
  omega

theorem get?_erase_insert {d : Dict κ α} {key : κ} {value : α} (found : d.get? key = some value) (other : κ) :
    ((d.erase key).insert key value).get? other = d.get? other := by
  rw [get?_insert]
  split_ifs with same
  · rw [← same, found]
  · exact get?_erase_of_ne d same

theorem mem_values_iff (d : Dict κ α) (value : α) :
    value ∈ d.values ↔ ∃ key, d.get? key = some value := by
  simp only [values, List.mem_map, get?_eq_some_iff, Prod.exists, exists_eq_right]

theorem mem_keys_iff (d : Dict κ α) (key : κ) : key ∈ d.keys ↔ d.get? key ≠ none := by
  rw [ne_eq, get?_eq_none_iff, not_not]

theorem mem_keys_insert (d : Dict κ α) (key other : κ) (value : α) :
    other ∈ (d.insert key value).keys ↔ other = key ∨ other ∈ d.keys := by
  rw [mem_keys_iff, mem_keys_iff, get?_insert]
  by_cases same : key = other
  · simp [same]
  · simp [same, Ne.symm same]

theorem mem_keys_erase (d : Dict κ α) (key other : κ) :
    other ∈ (d.erase key).keys ↔ other ≠ key ∧ other ∈ d.keys := by
  rw [mem_keys_iff, mem_keys_iff, get?_erase]
  by_cases same : key = other
  · simp [same]
  · simp [same, Ne.symm same]

theorem mem_values_of_insert {d : Dict κ α} {key : κ} {value other : α} (mem : other ∈ (d.insert key value).values) :
    other = value ∨ other ∈ d.values := by
  obtain ⟨at_key, found⟩ := (mem_values_iff _ _).mp mem
  rw [get?_insert] at found
  split_ifs at found
  · exact .inl (Option.some.inj found).symm
  · exact .inr ((mem_values_iff _ _).mpr ⟨at_key, found⟩)

theorem mem_values_of_filter {d : Dict κ α} {keep : κ → α → Bool} {value : α}
    (mem : value ∈ (d.filter keep).values) : value ∈ d.values := by
  obtain ⟨at_key, found⟩ := (mem_values_iff _ _).mp mem
  rw [get?_filter] at found
  exact (mem_values_iff _ _).mpr ⟨at_key, (Option.filter_eq_some_iff.mp found).1⟩

end Dict

end WispGate.Data
