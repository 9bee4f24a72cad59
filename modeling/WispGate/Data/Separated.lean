import Mathlib.Algebra.GroupWithZero.Nat
import Mathlib.Data.List.Basic

/-! # Joined lists

Lists joined by a separator. A join of parts without the separator determines its parts, among all
joins of equally many parts: a part of another join that held the separator would show in the count.
-/

namespace WispGate.Data

variable {α : Type*} {sep : α}

/-- What stands before the first separator. -/
theorem append_cons_injective {a b x y : List α} (first : sep ∉ a) (second : sep ∉ b)
    (same : a ++ sep :: x = b ++ sep :: y) : a = b ∧ x = y := by
  induction a generalizing b with
  | nil =>
    cases b with
    | nil => exact ⟨rfl, (List.cons.inj same).2⟩
    | cons c rest => exact absurd (List.mem_cons.mpr (.inl (List.cons.inj same).1)) second
  | cons c rest ih =>
    cases b with
    | nil => exact absurd (List.mem_cons.mpr (.inl (List.cons.inj same).1.symm)) first
    | cons d more =>
      obtain ⟨rfl, tails⟩ := List.cons.inj same
      rw [List.mem_cons, not_or] at first second
      obtain ⟨rfl, rfl⟩ := ih first.2 second.2 tails
      exact ⟨rfl, rfl⟩

/-- What stands behind the last separator. -/
theorem append_cons_injective_right {a b x y : List α} (first : sep ∉ x) (second : sep ∉ y)
    (same : a ++ sep :: x = b ++ sep :: y) : a = b ∧ x = y := by
  have reversed := congrArg List.reverse same
  rw [List.reverse_append, List.reverse_append, List.reverse_cons, List.reverse_cons, List.append_assoc,
    List.append_assoc, List.singleton_append, List.singleton_append] at reversed
  obtain ⟨last, front⟩ := append_cons_injective (by rwa [List.mem_reverse]) (by rwa [List.mem_reverse]) reversed
  exact ⟨List.reverse_inj.mp front, List.reverse_inj.mp last⟩

variable [DecidableEq α]

/-- The separators in a join: those between the parts and those in them. -/
theorem count_intercalate (part : List α) (parts : List (List α)) :
    ([sep].intercalate (part :: parts)).count sep = ((part :: parts).map (List.count sep)).sum + parts.length := by
  induction parts generalizing part with
  | nil => simp
  | cons next rest ih =>
    rw [List.intercalate_cons_cons, List.count_append, List.count_append, ih]
    simp only [List.count_singleton_self, List.map_cons, List.sum_cons, List.length_cons]
    omega

theorem sum_count_eq_zero_iff (parts : List (List α)) :
    (parts.map (List.count sep)).sum = 0 ↔ ∀ part ∈ parts, sep ∉ part := by
  induction parts with
  | nil => simp
  | cons part rest ih => simp [List.count_eq_zero, ih]

/-- Parts without the separator are determined by their join and their number. -/
theorem intercalate_injective {parts others : List (List α)} (clean : ∀ part ∈ parts, sep ∉ part)
    (lengths : parts.length = others.length) (same : [sep].intercalate parts = [sep].intercalate others) :
    parts = others := by
  cases parts with
  | nil => exact (List.length_eq_zero_iff.mp lengths.symm).symm
  | cons part parts =>
    cases others with
    | nil => cases lengths
    | cons other others =>
      have counts := congrArg (List.count sep) same
      rw [count_intercalate, count_intercalate, (sum_count_eq_zero_iff _).mpr clean] at counts
      have clean' : ∀ part ∈ other :: others, sep ∉ part := by
        apply (sum_count_eq_zero_iff _).mp
        rw [List.length_cons, List.length_cons] at lengths
        omega
      have split := congrArg (List.splitOn sep) same
      rwa [List.splitOn_intercalate sep clean (List.cons_ne_nil _ _),
        List.splitOn_intercalate sep clean' (List.cons_ne_nil _ _)] at split

/-- A part at either end may have the separator as its outermost element, as long as such parts are never
empty: it then cannot be where the part is split. -/
theorem intercalate_injective_of_head {a b : α} {first second : List α} {parts others : List (List α)}
    (clean : ∀ part ∈ first :: parts, sep ∉ part) (lengths : parts.length = others.length)
    (same : [sep].intercalate ((a :: first) :: parts) = [sep].intercalate ((b :: second) :: others)) :
    (a :: first) :: parts = (b :: second) :: others := by
  rw [List.intercalate_cons_cons_left, List.intercalate_cons_cons_left] at same
  obtain ⟨heads, rest⟩ := List.cons.inj same
  have joined := intercalate_injective clean (congrArg (· + 1) lengths) rest
  rw [heads, (List.cons.inj joined).1, (List.cons.inj joined).2]

omit [DecidableEq α] in
theorem intercalate_concat_concat (parts : List (List α)) (last : List α) (z : α) :
    [sep].intercalate (parts ++ [last ++ [z]]) = [sep].intercalate (parts ++ [last]) ++ [z] := by
  induction parts with
  | nil => simp
  | cons part rest ih =>
    have someRest : ∀ tail : List α, rest ++ [tail] ≠ [] := fun _ => List.append_ne_nil_of_right_ne_nil _ (List.cons_ne_nil _ _)
    rw [List.cons_append, List.cons_append, List.intercalate_cons_of_ne_nil (someRest _),
      List.intercalate_cons_of_ne_nil (someRest _), ih, List.append_assoc _ _ [z]]

theorem intercalate_injective_of_ends {a b y z : α} {first second last final : List α} {parts others : List (List α)}
    (clean : ∀ part ∈ first :: parts ++ [last], sep ∉ part) (lengths : parts.length = others.length)
    (same : [sep].intercalate ((a :: first) :: parts ++ [last ++ [z]]) =
      [sep].intercalate ((b :: second) :: others ++ [final ++ [y]])) :
    (a :: first) :: parts ++ [last ++ [z]] = (b :: second) :: others ++ [final ++ [y]] := by
  rw [intercalate_concat_concat, intercalate_concat_concat] at same
  obtain ⟨inner, ends⟩ := List.append_inj' same rfl
  have joined : (a :: first) :: parts ++ [last] = (b :: second) :: others ++ [final] :=
    intercalate_injective_of_head clean (by simp [lengths]) inner
  obtain ⟨front, back⟩ := List.append_inj' joined rfl
  rw [front, (List.cons.inj back).1, (List.cons.inj ends).1]

/-- A part that is nothing but a separator, behind a clean one: no part is empty that it could be split into. -/
theorem injective_of_lone {x y h rest other : List α} (clean : sep ∉ x) (once : rest.count sep = 1) (nonempty : h ≠ [])
    (more : sep ∈ other) (same : x ++ sep :: sep :: sep :: rest = y ++ sep :: (h ++ sep :: other)) :
    y = x ∧ h = [sep] ∧ other = rest := by
  have counts := congrArg (List.count sep) same
  have some_more := List.count_pos_iff.mpr more
  simp only [List.count_append, List.count_cons_self, List.count_eq_zero.mpr clean, once] at counts
  by_cases mem : sep ∈ y
  · -- `y` takes the separator behind `x`, and nothing is left for `h`
    obtain ⟨front, back, rfl, first⟩ := List.eq_append_cons_of_mem mem
    simp only [List.count_append, List.count_cons_self] at counts
    rw [List.append_assoc, List.cons_append] at same
    obtain ⟨-, behind⟩ := append_cons_injective clean first same
    have back_clean : sep ∉ back := List.count_eq_zero.mp (by omega)
    obtain ⟨-, behind⟩ := append_cons_injective (a := []) List.not_mem_nil back_clean behind
    have h_clean : sep ∉ h := List.count_eq_zero.mp (by omega)
    exact absurd (append_cons_injective (a := []) List.not_mem_nil h_clean behind).1.symm nonempty
  · obtain ⟨heads, behind⟩ := append_cons_injective clean mem same
    cases h with
    | nil => exact absurd rfl nonempty
    | cons c h =>
      rw [List.cons_append] at behind
      obtain ⟨lone, tails⟩ := List.cons.inj behind
      rw [← lone, List.count_cons_self] at counts
      have h_clean : sep ∉ h := List.count_eq_zero.mp (by omega)
      obtain ⟨none, rests⟩ := append_cons_injective (a := []) List.not_mem_nil h_clean tails
      exact ⟨heads.symm, by rw [lone, ← none], rests.symm⟩

/-! ## Joined texts -/

namespace JoinedText

section Reading

variable {mark : String} {sep : Char} (spelled : mark.toList = [sep])
include spelled

theorem toList_eq {parts others : List String} (same : mark.intercalate parts = mark.intercalate others) :
    [sep].intercalate (parts.map String.toList) = [sep].intercalate (others.map String.toList) := by
  rw [← spelled, ← String.toList_intercalate, same, String.toList_intercalate]

/-- Clean first components are read alike. -/
theorem first_eq {p q : String} {parts others : List String} (first : sep ∉ p.toList) (second : sep ∉ q.toList)
    (more : parts ≠ []) (others_more : others ≠ [])
    (same : mark.intercalate (p :: parts) = mark.intercalate (q :: others)) :
    p = q ∧ mark.intercalate parts = mark.intercalate others := by
  rw [String.intercalate_cons_of_ne_nil more, String.intercalate_cons_of_ne_nil others_more] at same
  have lists := congrArg String.toList same
  simp only [String.toList_append, spelled, List.append_assoc, List.singleton_append] at lists
  obtain ⟨heads, rest⟩ := append_cons_injective first second lists
  exact ⟨String.toList_inj.mp heads, String.toList_inj.mp rest⟩

theorem last_eq {p q : String} {parts others : List String} (first : sep ∉ p.toList) (second : sep ∉ q.toList)
    (more : parts ≠ []) (others_more : others ≠ [])
    (same : mark.intercalate (parts ++ [p]) = mark.intercalate (others ++ [q])) :
    mark.intercalate parts = mark.intercalate others ∧ p = q := by
  rw [String.intercalate_append_of_ne_nil more (List.cons_ne_nil _ _),
    String.intercalate_append_of_ne_nil others_more (List.cons_ne_nil _ _), String.intercalate_singleton,
    String.intercalate_singleton] at same
  have lists := congrArg String.toList same
  simp only [String.toList_append, spelled, List.append_assoc, List.singleton_append] at lists
  obtain ⟨front, lasts⟩ := append_cons_injective_right first second lists
  exact ⟨String.toList_inj.mp front, String.toList_inj.mp lasts⟩

theorem injective_of_head {first second : String} {parts others : List String} (nonempty : first ≠ "")
    (second_nonempty : second ≠ "") (head : sep ∉ first.toList.tail) (clean : ∀ part ∈ parts, sep ∉ part.toList)
    (lengths : parts.length = others.length)
    (same : mark.intercalate (first :: parts) = mark.intercalate (second :: others)) :
    first :: parts = second :: others := by
  have lists := toList_eq spelled same
  rw [List.map_cons, List.map_cons] at lists
  obtain ⟨a, rest, first_eq⟩ := List.exists_cons_of_ne_nil (mt String.toList_eq_nil_iff.mp nonempty)
  obtain ⟨b, more, second_eq⟩ := List.exists_cons_of_ne_nil (mt String.toList_eq_nil_iff.mp second_nonempty)
  rw [first_eq, second_eq] at lists
  rw [first_eq, List.tail_cons] at head
  have joined := intercalate_injective_of_head (List.forall_mem_cons.mpr ⟨head, List.forall_mem_map.mpr clean⟩)
    (by simpa using lengths) lists
  rw [← first_eq, ← second_eq] at joined
  exact List.map_injective_iff.mpr (fun _ _ => String.toList_inj.mp) joined

theorem injective_of_ends {first second last final : String} {parts others : List String} (nonempty : first ≠ "")
    (second_nonempty : second ≠ "") (last_nonempty : last ≠ "") (final_nonempty : final ≠ "")
    (head : sep ∉ first.toList.tail) (clean : ∀ part ∈ parts, sep ∉ part.toList) (back : sep ∉ last.toList.dropLast)
    (lengths : parts.length = others.length)
    (same : mark.intercalate (first :: parts ++ [last]) = mark.intercalate (second :: others ++ [final])) :
    first :: parts ++ [last] = second :: others ++ [final] := by
  have lists := toList_eq spelled same
  obtain ⟨a, rest, first_eq⟩ := List.exists_cons_of_ne_nil (mt String.toList_eq_nil_iff.mp nonempty)
  obtain ⟨b, more, second_eq⟩ := List.exists_cons_of_ne_nil (mt String.toList_eq_nil_iff.mp second_nonempty)
  have last_split := List.dropLast_concat_getLast (mt String.toList_eq_nil_iff.mp last_nonempty)
  have final_split := List.dropLast_concat_getLast (mt String.toList_eq_nil_iff.mp final_nonempty)
  simp only [List.map_append, List.map_cons, List.map_nil] at lists
  rw [first_eq, second_eq, ← last_split, ← final_split] at lists
  rw [first_eq, List.tail_cons] at head
  have middle : ∀ part ∈ rest :: parts.map String.toList ++ [last.toList.dropLast], sep ∉ part := by
    rw [List.forall_mem_append]
    exact ⟨List.forall_mem_cons.mpr ⟨head, List.forall_mem_map.mpr clean⟩, List.forall_mem_singleton.mpr back⟩
  have joined := intercalate_injective_of_ends middle (by simpa using lengths) lists
  rw [← first_eq, ← second_eq, last_split, final_split] at joined
  apply List.map_injective_iff.mpr fun _ _ => String.toList_inj.mp
  simpa only [List.map_append, List.map_cons, List.map_nil] using joined

end Reading

section Splitting

variable {mark value : String} {sep : Char} (spelled : mark.toList = [sep])
include spelled

/-- A text with a delimiter in it. -/
theorem exists_split (mem : sep ∈ value.toList) : ∃ a b, value = a ++ mark ++ b := by
  obtain ⟨x, y, split⟩ := List.append_of_mem mem
  refine ⟨String.ofList x, String.ofList y, String.toList_inj.mp ?_⟩
  rw [split, String.toList_append, String.toList_append, String.toList_ofList, String.toList_ofList, spelled,
    List.append_assoc, List.singleton_append]

theorem exists_split_tail (mem : sep ∈ value.toList.tail) : ∃ a b, a ≠ "" ∧ value = a ++ mark ++ b := by
  obtain ⟨x, y, split⟩ := List.append_of_mem mem
  cases whole : value.toList with
  | nil =>
    rw [whole] at mem
    cases mem
  | cons c rest =>
    rw [whole, List.tail_cons] at split
    refine ⟨String.ofList (c :: x), String.ofList y, ?_, String.toList_inj.mp ?_⟩
    · intro none
      have chars := String.toList_eq_nil_iff.mpr none
      rw [String.toList_ofList] at chars
      cases chars
    · rw [whole, split, String.toList_append, String.toList_append, String.toList_ofList, String.toList_ofList, spelled,
        List.append_assoc, List.singleton_append, List.cons_append]

theorem exists_split_dropLast (mem : sep ∈ value.toList.dropLast) : ∃ a b, b ≠ "" ∧ value = a ++ mark ++ b := by
  obtain ⟨x, y, split⟩ := List.append_of_mem mem
  have some_chars : value.toList ≠ [] := by
    intro none
    rw [none] at mem
    cases mem
  have whole := List.dropLast_concat_getLast some_chars
  rw [split, List.append_assoc, List.cons_append] at whole
  refine ⟨String.ofList x, String.ofList (y ++ [value.toList.getLast some_chars]), ?_, String.toList_inj.mp ?_⟩
  · intro none
    have chars := String.toList_eq_nil_iff.mpr none
    rw [String.toList_ofList] at chars
    exact List.append_ne_nil_of_right_ne_nil _ (List.cons_ne_nil _ _) chars
  · refine whole.symm.trans ?_
    rw [String.toList_append, String.toList_append, String.toList_ofList, String.toList_ofList, spelled,
      List.append_assoc, List.singleton_append]

/-- A split leaves less of either side. -/
theorem ne_left (a b : String) : a ≠ a ++ mark ++ b := by
  intro same
  have lengths := congrArg (fun text => text.toList.length) same
  simp only [String.toList_append, List.length_append, spelled, List.length_singleton] at lengths
  omega

theorem ne_right (a b : String) : b ≠ a ++ mark ++ b := by
  intro same
  have lengths := congrArg (fun text => text.toList.length) same
  simp only [String.toList_append, List.length_append, spelled, List.length_singleton] at lengths
  omega

end Splitting

end JoinedText

end WispGate.Data
