import WispGate.Data.Dict
import Mathlib.Algebra.GroupWithZero.Nat
import Mathlib.Algebra.Order.BigOperators.Group.List
import Mathlib.Algebra.Order.Group.Nat

/-! # Totals over dictionaries

Sums over the values of a dictionary and counts of its keys, compared with those of a dictionary that
has at least the same entries, as far as the weights can tell.
-/

namespace WispGate.Data.Dict

variable {κ α β : Type*}

/-- The values of a dictionary under some weight. -/
def total (d : Dict κ α) (weight : α → ℕ) : ℕ := (d.values.map weight).sum

@[simp] theorem total_empty (weight : α → ℕ) : (empty : Dict κ α).total weight = 0 := rfl

variable [DecidableEq κ]

/-- A dictionary whose entries are in another, with the same weights, weighs no more. -/
theorem total_le {d e : Dict κ α} {weight : α → ℕ} (embeds : ∀ key value, d.get? key = some value →
    ∃ other, e.get? key = some other ∧ weight value = weight other) : d.total weight ≤ e.total weight := by
  let weighed : Dict κ α → List (κ × ℕ) := fun f => f.entries.map fun entry => (entry.1, weight entry.2)
  have nodup : (weighed d).Nodup := by
    refine List.Nodup.of_map Prod.fst ?_
    simpa [weighed, Function.comp_def] using d.nodup
  have subset : weighed d ⊆ weighed e := by
    intro pair mem
    obtain ⟨⟨key, value⟩, inside, rfl⟩ := List.mem_map.mp mem
    obtain ⟨other, found, same⟩ := embeds key value ((get?_eq_some_iff _ _ _).mpr inside)
    exact List.mem_map.mpr ⟨(key, other), (get?_eq_some_iff _ _ _).mp found, by rw [same]⟩
  have sums : ∀ f : Dict κ α, f.total weight = ((weighed f).map Prod.snd).sum := by
    intro f
    simp [weighed, total, values, Function.comp_def]
  obtain ⟨middle, perm, sublist⟩ := List.subperm_of_subset nodup subset
  rw [sums, sums, ← (perm.map Prod.snd).sum_eq]
  exact (sublist.map Prod.snd).sum_le_sum fun _ _ => Nat.zero_le _

/-- A new entry adds its weight. -/
theorem total_insert {d : Dict κ α} {key : κ} (absent : d.get? key = none) (value : α) (weight : α → ℕ) :
    (d.insert key value).total weight = d.total weight + weight value := by
  simp [total, values_insert_of_get?_eq_none absent]

theorem keys_insert_of_get?_eq_none {d : Dict κ α} {key : κ} (absent : d.get? key = none) (value : α) :
    (d.insert key value).keys = d.keys ++ [key] := by
  rw [get?_eq_none_iff] at absent
  exact (put_keys key value d.entries).trans (if_neg absent)

/-- A dictionary whose keys are in another has no more of them that meet a condition. -/
theorem count_keys_le {d : Dict κ α} {e : Dict κ β} (embeds : ∀ key value, d.get? key = some value →
    ∃ other, e.get? key = some other) (meets : κ → Bool) :
    (d.keys.filter meets).length ≤ (e.keys.filter meets).length := by
  have subset : d.keys ⊆ e.keys := by
    intro key mem
    obtain ⟨⟨key, value⟩, inside, rfl⟩ := List.mem_map.mp mem
    obtain ⟨other, found⟩ := embeds key value ((get?_eq_some_iff _ _ _).mpr inside)
    exact List.mem_map.mpr ⟨_, (get?_eq_some_iff _ _ _).mp found, rfl⟩
  refine (List.subperm_of_subset (d.nodup.filter _) fun key mem => ?_).length_le
  rw [List.mem_filter] at mem ⊢
  exact ⟨subset mem.1, mem.2⟩

/-- Replacing a value makes room for no other. -/
theorem size_insert_of_get?_eq_some {d : Dict κ α} {key : κ} {old : α} (found : d.get? key = some old) (value : α) :
    (d.insert key value).size = d.size := by
  have inside : key ∈ d.keys := List.mem_map.mpr ⟨_, (get?_eq_some_iff _ _ _).mp found, rfl⟩
  have keys := congrArg List.length ((put_keys key value d.entries).trans (if_pos inside))
  simpa [size, insert] using keys

end WispGate.Data.Dict
