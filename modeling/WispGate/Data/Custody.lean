import WispGate.Data.Dict

/-! # Elements that change places

What a dictionary loses with an entry, and what a list loses and gains when the element at a position is
replaced, as permutations. A count of the elements of several places together is then kept by moving one of
them from its place to another.
-/

namespace WispGate.Data

variable {κ α β : Type*}

namespace Dict

variable [DecidableEq κ] {d : Dict κ α} {key : κ} {value : α}

theorem entries_perm (found : d.get? key = some value) : d.entries.Perm ((key, value) :: (d.erase key).entries) := by
  refine (List.perm_ext_iff_of_nodup (List.Nodup.of_map _ d.nodup) ?_).mpr fun entry => ?_
  · refine List.nodup_cons.mpr ⟨fun mem => ?_, List.Nodup.of_map _ (d.erase key).nodup⟩
    rw [← get?_eq_some_iff, get?_erase_self] at mem
    cases mem
  · obtain ⟨other, old⟩ := entry
    rw [List.mem_cons, ← get?_eq_some_iff, ← get?_eq_some_iff, get?_erase, Prod.mk.injEq]
    by_cases same : key = other
    · subst same
      simp [found, eq_comm]
    · simp [same, Ne.symm same]

theorem keys_perm (found : d.get? key = some value) : d.keys.Perm (key :: (d.erase key).keys) :=
  (entries_perm found).map Prod.fst

theorem values_perm (found : d.get? key = some value) : d.values.Perm (value :: (d.erase key).values) :=
  (entries_perm found).map Prod.snd

/-- The first key goes out of the front. -/
theorem keys_erase_head {rest : List κ} (keys : d.keys = key :: rest) : (d.erase key).keys = rest := by
  obtain ⟨entries, nodup⟩ := d
  cases entries with
  | nil => cases keys
  | cons head tail =>
    obtain ⟨rfl, rfl⟩ := List.cons_eq_cons.mp keys
    obtain ⟨fresh, -⟩ := List.nodup_cons.mp nodup
    have others : ∀ entry ∈ tail, entry.1 ≠ head.1 := fun entry mem same => fresh (List.mem_map.mpr ⟨entry, mem, same⟩)
    have kept : tail.filter (fun entry => decide (entry.1 ≠ head.1)) = tail :=
      List.filter_eq_self.mpr fun entry mem => decide_eq_true (others entry mem)
    simp only [Dict.keys, erase, filter]
    rw [List.filter_cons_of_neg (by simp), kept]

theorem keys_insert_of_mem (found : d.get? key = some value) (again : α) : (d.insert key again).keys = d.keys := by
  have mem : key ∈ d.keys := (mem_keys_iff d key).mpr (by simp [found])
  exact (put_keys key again d.entries).trans (if_pos mem)

/-- A new key that is taken out again leaves what was there. -/
theorem erase_insert_of_get?_eq_none (absent : d.get? key = none) (value : α) : (d.insert key value).erase key = d := by
  rw [get?_eq_none_iff] at absent
  have others : ∀ entry ∈ d.entries, decide (entry.1 ≠ key) = true := fun entry mem =>
    decide_eq_true fun same => absent (List.mem_map.mpr ⟨entry, mem, same⟩)
  refine Dict.ext ?_
  change (put key value d.entries).filter (fun entry => decide (entry.1 ≠ key)) = d.entries
  rw [put_of_notMem absent, List.filter_append, List.filter_eq_self.mpr others, List.filter_cons_of_neg (by simp),
    List.filter_nil, List.append_nil]

end Dict

/-- The position of an element cuts a list, and a replacement goes in between. -/
theorem set_split {l : List α} {index : ℕ} {a : α} (here : l[index]? = some a) :
    ∃ before after, l = before ++ a :: after ∧ ∀ b, l.set index b = before ++ b :: after := by
  obtain ⟨inside, rfl⟩ := List.getElem?_eq_some_iff.mp here
  refine ⟨l.take index, l.drop (index + 1), ?_, fun b => List.set_eq_take_append_cons_drop.trans (if_pos inside)⟩
  rw [← List.drop_eq_getElem_cons inside, List.take_append_drop]

theorem mem_swap {before after : List α} {a b x : α} (mem : x ∈ before ++ a :: after) :
    x = a ∨ x ∈ before ++ b :: after := by
  rcases List.mem_append.mp mem with mem | mem
  · exact .inr (List.mem_append_left _ mem)
  · rcases List.mem_cons.mp mem with same | mem
    · exact .inl same
    · exact .inr (List.mem_append_right _ (List.mem_cons_of_mem _ mem))

/-- The elements that meet a condition, when a certain one does. -/
theorem filter_perm {before after : List α} {a : α} {p : α → Bool} (meets : p a = true) :
    ((before ++ a :: after).filter p).Perm (a :: (before ++ after).filter p) := by
  rw [List.filter_append, List.filter_append, List.filter_cons_of_pos meets]
  exact List.perm_middle

theorem filter_drop {before after : List α} {a : α} {p : α → Bool} (fails : p a = false) :
    (before ++ a :: after).filter p = (before ++ after).filter p := by
  rw [List.filter_append, List.filter_append, List.filter_cons_of_neg (by simp [fails])]

/-- An element passes a list. -/
theorem perm_past {a : α} {l m : List α} (perm : (a :: l).Perm m) (k : List α) : (a :: (k ++ l)).Perm (k ++ m) :=
  List.perm_middle.symm.trans (perm.append_left k)

/-- An element that is erased leaves the others. -/
theorem perm_erase [DecidableEq α] {l rest : List α} {a : α} (perm : l.Perm (a :: rest)) : (l.erase a).Perm rest := by
  simpa using perm.erase a

end WispGate.Data
