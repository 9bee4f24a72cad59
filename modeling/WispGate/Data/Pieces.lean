import Mathlib.Data.List.Basic

/-! # Streams in pieces

A stream arrives as a list of pieces that somebody else has cut. `takeExactly` reads a number of its
items and `readBlocks` a number of them in blocks, and neither depends on the cuts. `feed` is a
transformation that is given its input in pieces.
-/

namespace WispGate.Data

variable {α σ : Type*}

/-- The next items of a stream, if it has as many. -/
def takeExactly : ℕ → List (List α) → Option (List α × List (List α))
  | 0, pieces => some ([], pieces)
  | _ + 1, [] => none
  | n + 1, piece :: rest =>
    if piece.length ≤ n + 1 then (takeExactly (n + 1 - piece.length) rest).map fun read => (piece ++ read.1, read.2)
    else some (piece.take (n + 1), piece.drop (n + 1) :: rest)

section TakeExactly

variable {n : ℕ} {pieces : List (List α)}

theorem takeExactly_of_le (enough : n ≤ pieces.flatten.length) :
    ∃ rest, takeExactly n pieces = some (pieces.flatten.take n, rest) ∧ rest.flatten = pieces.flatten.drop n := by
  induction pieces generalizing n with
  | nil =>
    obtain rfl : n = 0 := by simpa using enough
    exact ⟨[], rfl, rfl⟩
  | cons piece rest ih =>
    cases n with
    | zero => exact ⟨piece :: rest, rfl, rfl⟩
    | succ n =>
      rw [List.flatten_cons, List.length_append] at enough
      rw [takeExactly, List.flatten_cons]
      by_cases whole : piece.length ≤ n + 1
      · obtain ⟨left, taken, dropped⟩ := ih (n := n + 1 - piece.length) (by omega)
        refine ⟨left, ?_, ?_⟩
        · rw [if_pos whole, taken, List.take_append, List.take_of_length_le whole]
          rfl
        · rw [dropped, List.drop_append, List.drop_eq_nil_of_le whole, List.nil_append]
      · refine ⟨piece.drop (n + 1) :: rest, ?_, ?_⟩
        · rw [if_neg whole, List.take_append_of_le_length (by omega)]
        · rw [List.flatten_cons, List.drop_append_of_le_length (by omega)]

theorem takeExactly_of_lt (short : pieces.flatten.length < n) : takeExactly n pieces = none := by
  induction pieces generalizing n with
  | nil =>
    cases n with
    | zero => cases short
    | succ n => rfl
  | cons piece rest ih =>
    rw [List.flatten_cons, List.length_append] at short
    cases n with
    | zero => cases short
    | succ n =>
      rw [takeExactly, if_pos (by omega), ih (by omega)]
      rfl

end TakeExactly

/-- The first item of a concatenation is that of the first list that has one. -/
theorem flatMap_eq_cons {β : Type*} {l : List β} {f : β → List α} {a : α} {rest : List α} (listed : l.flatMap f = a :: rest) :
    ∃ before x after more, l = before ++ x :: after ∧ (∀ y ∈ before, f y = []) ∧ f x = a :: more ∧
      rest = more ++ after.flatMap f := by
  induction l with
  | nil => cases listed
  | cons x after ih =>
    rw [List.flatMap_cons] at listed
    cases here : f x with
    | nil =>
      rw [here, List.nil_append] at listed
      obtain ⟨before, y, later, more, rfl, empty, first, rfl⟩ := ih listed
      refine ⟨x :: before, y, later, more, rfl, fun z mem => ?_, first, rfl⟩
      rcases List.mem_cons.mp mem with rfl | mem
      · exact here
      · exact empty z mem
    | cons b more =>
      rw [here, List.cons_append, List.cons_eq_cons] at listed
      obtain ⟨rfl, rfl⟩ := listed
      exact ⟨[], x, after, more, rfl, by simp, here, rfl⟩

/-! ## Blocks -/

/-- Read a number of items in blocks: the blocks, and what follows if the stream did not end before. -/
def readBlocks (size : ℕ) (positive : 0 < size) (remaining : ℕ) (pieces : List (List α)) :
    List (List α) × Option (List (List α)) :=
  if _zero : remaining = 0 then ([], some pieces)
  else match takeExactly (min size remaining) pieces with
    | none => ([], none)
    | some (block, rest) =>
      let (blocks, left) := readBlocks size positive (remaining - min size remaining) rest
      (block :: blocks, left)
termination_by remaining
decreasing_by omega

section ReadBlocks

variable (size : ℕ) (positive : 0 < size) {remaining : ℕ} {pieces : List (List α)}

theorem readBlocks_of_le (enough : remaining ≤ pieces.flatten.length) :
    ∃ blocks rest, readBlocks size positive remaining pieces = (blocks, some rest) ∧
      blocks.flatten = pieces.flatten.take remaining ∧ rest.flatten = pieces.flatten.drop remaining ∧
      ∀ block ∈ blocks, block.length ≤ size := by
  induction remaining using Nat.strongRecOn generalizing pieces with
  | ind remaining ih =>
    rw [readBlocks]
    by_cases zero : remaining = 0
    · subst zero
      exact ⟨[], pieces, rfl, rfl, rfl, by simp⟩
    · have first : min size remaining ≤ pieces.flatten.length := by omega
      obtain ⟨left, taken, dropped⟩ := takeExactly_of_le first
      have others : remaining - min size remaining ≤ left.flatten.length := by
        rw [dropped, List.length_drop]
        omega
      obtain ⟨blocks, rest, read, flat, after, small⟩ := ih (remaining - min size remaining) (by omega) others
      refine ⟨pieces.flatten.take (min size remaining) :: blocks, rest, ?_, ?_, ?_, ?_⟩
      · rw [dif_neg zero, taken]
        dsimp only
        rw [read]
      · rw [List.flatten_cons, flat, dropped, ← List.take_add]
        congr 1
        omega
      · rw [after, dropped, List.drop_drop]
        congr 1
        omega
      · rw [List.forall_mem_cons, List.length_take]
        exact ⟨by omega, small⟩

theorem readBlocks_of_lt (short : pieces.flatten.length < remaining) :
    ∃ blocks, readBlocks size positive remaining pieces = (blocks, none) ∧ blocks.flatten <+: pieces.flatten := by
  induction remaining using Nat.strongRecOn generalizing pieces with
  | ind remaining ih =>
    rw [readBlocks]
    have some_left : ¬ remaining = 0 := by omega
    by_cases enough : min size remaining ≤ pieces.flatten.length
    · obtain ⟨left, taken, dropped⟩ := takeExactly_of_le enough
      have others : left.flatten.length < remaining - min size remaining := by
        rw [dropped, List.length_drop]
        omega
      obtain ⟨blocks, read, start⟩ := ih (remaining - min size remaining) (by omega) others
      refine ⟨pieces.flatten.take (min size remaining) :: blocks, ?_, ?_⟩
      · rw [dif_neg some_left, taken]
        dsimp only
        rw [read]
      · rw [List.flatten_cons]
        rw [dropped] at start
        obtain ⟨more, same⟩ := start
        refine ⟨more, ?_⟩
        rw [List.append_assoc, same, List.take_append_drop]
    · refine ⟨[], ?_, List.nil_prefix⟩
      rw [dif_neg some_left, takeExactly_of_lt (by omega)]

end ReadBlocks

/-! ## Transformations -/

/-- What a transformation returns for the pieces of its input, and the state it is left in. -/
def feed (update : σ → List α → List α × σ) : σ → List (List α) → List α × σ
  | state, [] => ([], state)
  | state, piece :: rest =>
    let (output, state) := update state piece
    let (more, state) := feed update state rest
    (output ++ more, state)

theorem feed_cons (update : σ → List α → List α × σ) (state : σ) (piece : List α) (rest : List (List α)) :
    feed update state (piece :: rest) = ((update state piece).1 ++ (feed update (update state piece).2 rest).1,
      (feed update (update state piece).2 rest).2) := rfl

end WispGate.Data
