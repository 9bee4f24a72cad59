import Mathlib.Data.List.Basic

/-! # Reading markup

What a reader makes of a page: the tags, with the values in their quotes, and the characters shown
between them. The five characters that markup gives a meaning are only read as such where they delimit
a tag or a value; anywhere else they have to be written as a reference. A page that breaks this is
not read at all, so reading one shows that nothing was taken for markup that was not meant to be.
-/

namespace WispGate.Data.Markup

inductive Symbol where
  | plain (c : Char)
  | reference (c : Char)
deriving DecidableEq, Repr

inductive Event where
  | shown (c : Char)
  | tag (head : List Char) (values : List (List Char))
deriving DecidableEq, Repr

/-- The characters that are written as references. -/
def special (c : Char) : Bool := c = '&' || c = '<' || c = '>' || c = '"' || c = '\''

/-- The character a reference stands for. -/
def named (name : List Char) : Option Char :=
  if name = ['a', 'm', 'p'] then some '&'
  else if name = ['l', 't'] then some '<'
  else if name = ['g', 't'] then some '>'
  else if name = ['q', 'u', 'o', 't'] then some '"'
  else if name = ['#', 'x', '2', '7'] then some '\''
  else none

/-- Read the symbols of a text, with the name of a reference that has begun. -/
def symbolsFrom : Option (List Char) → List Char → Option (List Symbol)
  | none, [] => some []
  | some _, [] => none
  | none, c :: rest =>
    if c = '&' then symbolsFrom (some []) rest else (symbolsFrom none rest).map (.plain c :: ·)
  | some name, c :: rest =>
    if c = ';' then
      match named name with
      | some d => (symbolsFrom none rest).map (.reference d :: ·)
      | none => none
    else symbolsFrom (some (name ++ [c])) rest

inductive Mode where
  | text
  | tag (head : List Char) (values : List (List Char))
  | quoted (head : List Char) (values : List (List Char)) (value : List Char)

def eventsFrom : Mode → List Symbol → Option (List Event)
  | .text, [] => some []
  | .tag _ _, [] => none
  | .quoted _ _ _, [] => none
  | .text, .reference c :: rest => (eventsFrom .text rest).map (.shown c :: ·)
  | .text, .plain c :: rest =>
    if c = '<' then eventsFrom (.tag [] []) rest
    else if special c then none
    else (eventsFrom .text rest).map (.shown c :: ·)
  | .tag _ _, .reference _ :: _ => none
  | .tag head values, .plain c :: rest =>
    if c = '>' then (eventsFrom .text rest).map (.tag head values :: ·)
    else if c = '"' then eventsFrom (.quoted head values []) rest
    else if special c then none
    else eventsFrom (.tag (head ++ [c]) values) rest
  | .quoted head values value, .reference c :: rest => eventsFrom (.quoted head values (value ++ [c])) rest
  | .quoted head values value, .plain c :: rest =>
    if c = '"' then eventsFrom (.tag head (values ++ [value])) rest
    else if special c then none
    else eventsFrom (.quoted head values (value ++ [c])) rest

def read (text : List Char) : Option (List Event) := (symbolsFrom none text).bind (eventsFrom .text)

/-! ## Joining texts -/

variable {a b : List Char}

theorem symbolsFrom_append {pending : Option (List Char)} {symbols : List Symbol}
    (first : symbolsFrom pending a = some symbols) :
    symbolsFrom pending (a ++ b) = (symbolsFrom none b).map (symbols ++ ·) := by
  induction a generalizing pending symbols with
  | nil =>
    cases pending with
    | none =>
      obtain rfl := Option.some.inj first
      simp
    | some name => cases first
  | cons c rest ih =>
    cases pending with
    | none =>
      rw [List.cons_append]
      simp only [symbolsFrom] at first ⊢
      split_ifs at first ⊢ with opens
      · exact ih first
      · obtain ⟨more, read, rfl⟩ := Option.map_eq_some_iff.mp first
        rw [ih read, Option.map_map]
        rfl
    | some name =>
      rw [List.cons_append]
      simp only [symbolsFrom] at first ⊢
      split_ifs at first ⊢ with closes
      · cases found : named name with
        | none =>
          rw [found] at first
          cases first
        | some d =>
          rw [found] at first
          obtain ⟨more, read, rfl⟩ := Option.map_eq_some_iff.mp first
          simp only [ih read, Option.map_map]
          rfl
      · exact ih first

theorem eventsFrom_append {mode : Mode} {x y : List Symbol} {events : List Event}
    (first : eventsFrom mode x = some events) :
    eventsFrom mode (x ++ y) = (eventsFrom .text y).map (events ++ ·) := by
  induction x generalizing mode events with
  | nil =>
    cases mode with
    | text =>
      obtain rfl := Option.some.inj first
      simp
    | tag head values => cases first
    | quoted head values value => cases first
  | cons symbol rest ih =>
    rw [List.cons_append]
    cases mode with
    | text =>
      cases symbol with
      | reference c =>
        simp only [eventsFrom] at first ⊢
        obtain ⟨more, read, rfl⟩ := Option.map_eq_some_iff.mp first
        rw [ih read, Option.map_map]
        rfl
      | plain c =>
        simp only [eventsFrom] at first ⊢
        split_ifs at first ⊢ with opens refused
        · exact ih first
        · obtain ⟨more, read, rfl⟩ := Option.map_eq_some_iff.mp first
          rw [ih read, Option.map_map]
          rfl
    | tag head values =>
      cases symbol with
      | reference c => cases first
      | plain c =>
        simp only [eventsFrom] at first ⊢
        split_ifs at first ⊢ with closes opens refused
        · obtain ⟨more, read, rfl⟩ := Option.map_eq_some_iff.mp first
          rw [ih read, Option.map_map]
          rfl
        · exact ih first
        · exact ih first
    | quoted head values value =>
      cases symbol with
      | reference c => exact ih first
      | plain c =>
        simp only [eventsFrom] at first ⊢
        split_ifs at first ⊢ with closes refused
        · exact ih first
        · exact ih first

theorem symbolsFrom_join {x y : List Symbol} (first : symbolsFrom none a = some x) (second : symbolsFrom none b = some y) :
    symbolsFrom none (a ++ b) = some (x ++ y) := by
  rw [symbolsFrom_append first, second, Option.map_some]

theorem eventsFrom_join {x y : List Symbol} {events more : List Event} (first : eventsFrom .text x = some events)
    (second : eventsFrom .text y = some more) : eventsFrom .text (x ++ y) = some (events ++ more) := by
  rw [eventsFrom_append first, second, Option.map_some]

section Pieces

variable {ι : Type*} {pieces : List ι}

/-- A page is read piece by piece. -/
theorem symbolsFrom_flatMap {text : ι → List Char} {symbols : ι → List Symbol}
    (all : ∀ piece ∈ pieces, symbolsFrom none (text piece) = some (symbols piece)) :
    symbolsFrom none (pieces.flatMap text) = some (pieces.flatMap symbols) := by
  induction pieces with
  | nil => rfl
  | cons piece rest ih =>
    rw [List.forall_mem_cons] at all
    exact symbolsFrom_join all.1 (ih all.2)

theorem eventsFrom_flatMap {symbols : ι → List Symbol} {events : ι → List Event}
    (all : ∀ piece ∈ pieces, eventsFrom .text (symbols piece) = some (events piece)) :
    eventsFrom .text (pieces.flatMap symbols) = some (pieces.flatMap events) := by
  induction pieces with
  | nil => rfl
  | cons piece rest ih =>
    rw [List.forall_mem_cons] at all
    exact eventsFrom_join all.1 (ih all.2)

end Pieces

/-- A text without references. -/
theorem symbolsFrom_plain (bare : '&' ∉ a) : symbolsFrom none a = some (a.map .plain) := by
  induction a with
  | nil => rfl
  | cons c rest ih =>
    rw [List.mem_cons, not_or] at bare
    rw [symbolsFrom, if_neg (Ne.symm bare.1), ih bare.2]
    rfl

/-! ## Data -/

/-- How a character of data is to be written. -/
def symbolOf (c : Char) : Symbol := if special c then .reference c else .plain c

/-- Data is shown character by character. -/
theorem eventsFrom_data (value : List Char) : eventsFrom .text (value.map symbolOf) = some (value.map .shown) := by
  induction value with
  | nil => rfl
  | cons c rest ih =>
    rw [List.map_cons, symbolOf]
    cases plain : special c with
    | true =>
      simp only [if_true, eventsFrom, ih]
      rfl
    | false =>
      have other : c ≠ '<' := by
        rintro rfl
        cases plain
      simp only [Bool.false_eq_true, if_false, eventsFrom, if_neg other, plain, ih]
      rfl

/-- Data in quotes becomes part of the value. -/
theorem eventsFrom_quoted (head : List Char) (values : List (List Char)) (value more : List Char) (rest : List Symbol) :
    eventsFrom (.quoted head values value) (more.map symbolOf ++ rest) =
      eventsFrom (.quoted head values (value ++ more)) rest := by
  induction more generalizing value with
  | nil => simp
  | cons c more ih =>
    rw [List.map_cons, List.cons_append, symbolOf]
    cases plain : special c with
    | true =>
      simp only [if_true, eventsFrom]
      rw [ih, List.append_assoc, List.singleton_append]
    | false =>
      have other : c ≠ '"' := by
        rintro rfl
        cases plain
      simp only [Bool.false_eq_true, if_false, eventsFrom, if_neg other, plain]
      rw [ih, List.append_assoc, List.singleton_append]

end WispGate.Data.Markup
