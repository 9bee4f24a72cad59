import WispGate.Data.Dict
import Mathlib.Logic.Function.Basic

/-! # Tables whose entries are held

A table in which every entry is kept for one holder, and every holder has its entry there. It stays so
when an entry is taken out together with its holder's claim, and no longer does when the claim goes
alone.
-/

namespace WispGate.Data

variable {κ ι α β : Type*}

/-- The keys of a table are what the holders hold, each held by one. -/
structure Held (table : Dict κ α) (holding : ι → Option κ) : Prop where
  entries : ∀ key, key ∈ table.keys ↔ ∃ holder, holding holder = some key
  apart : ∀ holder other key, holding holder = some key → holding other = some key → holder = other

namespace Held

variable [DecidableEq κ] [DecidableEq ι] {table : Dict κ α} {holding : ι → Option κ} {key : κ} {holder : ι}

theorem empty : Held (Dict.empty : Dict κ α) fun _ : ι => none where
  entries key := by simp [Dict.empty, Dict.keys]
  apart _ _ _ holds := by cases holds

/-- A holder of nothing takes a new key. -/
theorem insert (held : Held table holding) (absent : key ∉ table.keys) (idle : holding holder = none) (value : α) :
    Held (table.insert key value) (Function.update holding holder (some key)) := by
  have free : ∀ other, holding other ≠ some key := fun other holds => absent ((held.entries key).mpr ⟨other, holds⟩)
  constructor
  · intro other
    rw [Dict.mem_keys_insert, held.entries]
    constructor
    · rintro (rfl | ⟨i, holds⟩)
      · exact ⟨holder, Function.update_self ..⟩
      · have elsewhere : i ≠ holder := by
          rintro rfl
          rw [idle] at holds
          cases holds
        exact ⟨i, by rwa [Function.update_of_ne elsewhere]⟩
    · rintro ⟨i, holds⟩
      by_cases same : i = holder
      · rw [same, Function.update_self] at holds
        exact .inl (Option.some.inj holds).symm
      · rw [Function.update_of_ne same] at holds
        exact .inr ⟨i, holds⟩
  · intro i j other first second
    by_cases here : i = holder <;> by_cases there : j = holder
    · rw [here, there]
    · rw [here, Function.update_self] at first
      rw [Function.update_of_ne there, ← first] at second
      exact absurd second (free j)
    · rw [there, Function.update_self] at second
      rw [Function.update_of_ne here, ← second] at first
      exact absurd first (free i)
    · rw [Function.update_of_ne here] at first
      rw [Function.update_of_ne there] at second
      exact held.apart i j other first second

/-- A holder gives its key back. -/
theorem erase (held : Held table holding) (holds : holding holder = some key) :
    Held (table.erase key) (Function.update holding holder none) := by
  constructor
  · intro other
    rw [Dict.mem_keys_erase, held.entries]
    constructor
    · rintro ⟨different, i, found⟩
      have elsewhere : i ≠ holder := by
        rintro rfl
        exact different (Option.some.inj (found.symm.trans holds))
      exact ⟨i, by rwa [Function.update_of_ne elsewhere]⟩
    · rintro ⟨i, found⟩
      have elsewhere : i ≠ holder := by
        rintro rfl
        rw [Function.update_self] at found
        cases found
      rw [Function.update_of_ne elsewhere] at found
      refine ⟨?_, i, found⟩
      rintro rfl
      exact elsewhere (held.apart i holder other found holds)
  · intro i j other first second
    have kept : ∀ k, Function.update holding holder none k = some other → holding k = some other := by
      intro k found
      by_cases same : k = holder
      · rw [same, Function.update_self] at found
        cases found
      · rwa [Function.update_of_ne same] at found
    exact held.apart i j other (kept i first) (kept j second)

/-- When a holder leaves without its key, nobody holds that. -/
theorem orphan (held : Held table holding) (holds : holding holder = some key) :
    key ∈ table.keys ∧ ∀ other, Function.update holding holder none other ≠ some key := by
  refine ⟨(held.entries key).mpr ⟨holder, holds⟩, fun other found => ?_⟩
  by_cases same : other = holder
  · rw [same, Function.update_self] at found
    cases found
  · rw [Function.update_of_ne same] at found
    exact same (held.apart other holder key found holds)

/-- What the values of a dictionary hold, as a list, is a listing of the table's keys. -/
theorem perm {owners : Dict ι β} {holds : β → Option κ} (held : Held table fun i => (owners.get? i).bind holds) :
    table.keys.Perm (owners.values.filterMap holds) := by
  have listed : ∀ {i value key}, (i, value) ∈ owners.entries → holds value = some key →
      (owners.get? i).bind holds = some key := by
    intro i value key mem holding
    rw [(Dict.get?_eq_some_iff owners i value).mpr mem]
    exact holding
  refine (List.perm_ext_iff_of_nodup table.nodup ?_).mpr fun key => ?_
  · rw [Dict.values, List.filterMap_map, List.Nodup, List.pairwise_filterMap]
    have distinct := List.pairwise_map.mp owners.nodup
    refine distinct.imp_of_mem fun {a b} first second different key holdsKey other holdsOther same => ?_
    subst same
    exact different (held.apart a.1 b.1 key (listed first holdsKey) (listed second holdsOther))
  · rw [List.mem_filterMap]
    refine (held.entries key).trans ?_
    constructor
    · rintro ⟨i, found⟩
      obtain ⟨value, here, holding⟩ := Option.bind_eq_some_iff.mp found
      exact ⟨value, (Dict.mem_values_iff ..).mpr ⟨i, here⟩, holding⟩
    · rintro ⟨value, mem, holding⟩
      obtain ⟨i, here⟩ := (Dict.mem_values_iff ..).mp mem
      exact ⟨i, by rw [here]; exact holding⟩

end Held

end WispGate.Data
