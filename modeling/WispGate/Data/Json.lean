import Mathlib.Algebra.GroupWithZero.Nat
import Mathlib.Data.Int.Notation
import Mathlib.Data.List.Basic
import Mathlib.Logic.Basic

/-! # JSON values as a dynamically typed program sees them

The value model behind every frame and record: null, booleans, integers, strings, arrays and
objects. Fractional numbers are left out. Lookup follows a dictionary built from pairs (a repeated
member counts by its last occurrence, a missing one reads as null), truth follows emptiness, and
equality identifies the booleans with zero and one, as the programs that compare these values do.
-/

namespace WispGate.Data

inductive Json where
  | null
  | bool (value : Bool)
  | int (value : ℤ)
  | str (value : String)
  | arr (items : List Json)
  | obj (fields : List (String × Json))
deriving Repr, Inhabited

namespace Json

/-! ## Decidable equality -/

mutual

def decideEq : (a b : Json) → Decidable (a = b)
  | .null, b => match b with
    | .null => isTrue rfl
    | .bool _ | .int _ | .str _ | .arr _ | .obj _ => isFalse Json.noConfusion
  | .bool p, b => match b with
    | .bool q => decidable_of_iff (p = q) (by simp)
    | .null | .int _ | .str _ | .arr _ | .obj _ => isFalse Json.noConfusion
  | .int m, b => match b with
    | .int n => decidable_of_iff (m = n) (by simp)
    | .null | .bool _ | .str _ | .arr _ | .obj _ => isFalse Json.noConfusion
  | .str s, b => match b with
    | .str t => decidable_of_iff (s = t) (by simp)
    | .null | .bool _ | .int _ | .arr _ | .obj _ => isFalse Json.noConfusion
  | .arr xs, b => match b with
    | .arr ys => @decidable_of_iff _ (xs = ys) (by simp) (decideEqItems xs ys)
    | .null | .bool _ | .int _ | .str _ | .obj _ => isFalse Json.noConfusion
  | .obj xs, b => match b with
    | .obj ys => @decidable_of_iff _ (xs = ys) (by simp) (decideEqFields xs ys)
    | .null | .bool _ | .int _ | .str _ | .arr _ => isFalse Json.noConfusion

def decideEqItems : (xs ys : List Json) → Decidable (xs = ys)
  | [], [] => isTrue rfl
  | [], _ :: _ => isFalse (by simp)
  | _ :: _, [] => isFalse (by simp)
  | x :: xs, y :: ys =>
    @decidable_of_iff _ (x = y ∧ xs = ys) (by simp)
      (@instDecidableAnd _ _ (decideEq x y) (decideEqItems xs ys))

def decideEqFields : (xs ys : List (String × Json)) → Decidable (xs = ys)
  | [], [] => isTrue rfl
  | [], _ :: _ => isFalse (by simp)
  | _ :: _, [] => isFalse (by simp)
  | (k, x) :: xs, (l, y) :: ys =>
    @decidable_of_iff _ (k = l ∧ x = y ∧ xs = ys) (by simp [and_assoc])
      (@instDecidableAnd _ _ inferInstance
        (@instDecidableAnd _ _ (decideEq x y) (decideEqFields xs ys)))

end

instance : DecidableEq Json := decideEq

/-! ## Reading values -/

/-- The last value listed for a key. -/
def lookup (key : String) : List (String × Json) → Option Json
  | [] => none
  | (other, value) :: rest =>
    match lookup key rest with
    | some later => some later
    | none => if other = key then some value else none

theorem lookup_append (name : String) (fields more : List (String × Json)) :
    lookup name (fields ++ more) = (lookup name more).or (lookup name fields) := by
  induction fields with
  | nil => simp [lookup]
  | cons field rest ih =>
    obtain ⟨other, value⟩ := field
    rw [List.cons_append, lookup, ih, lookup]
    cases lookup name more with
    | some found => rfl
    | none => rfl

theorem lookup_eq_none {name : String} {fields : List (String × Json)} (apart : ∀ field ∈ fields, field.1 ≠ name) :
    lookup name fields = none := by
  induction fields with
  | nil => rfl
  | cons field rest ih =>
    obtain ⟨other, value⟩ := field
    rw [List.forall_mem_cons] at apart
    rw [lookup, ih apart.2]
    exact if_neg apart.1

/-- The member of an object, null when it is missing or the value is no object. -/
def get (value : Json) (key : String) : Json :=
  match value with
  | .obj fields => (lookup key fields).getD .null
  | _ => .null

/-- The member of an object with a default for a missing key. -/
def getD (value : Json) (key : String) (default : Json) : Json :=
  match value with
  | .obj fields => (lookup key fields).getD default
  | _ => default

def has (value : Json) (key : String) : Bool :=
  match value with
  | .obj fields => (lookup key fields).isSome
  | _ => false

def isObj : Json → Bool
  | .obj _ => true
  | _ => false

def isStr : Json → Bool
  | .str _ => true
  | _ => false

def asStr? : Json → Option String
  | .str value => some value
  | _ => none

/-- An integer that is not a boolean. -/
def asInt? : Json → Option ℤ
  | .int value => some value
  | _ => none

def asArr? : Json → Option (List Json)
  | .arr items => some items
  | _ => none

/-- Truth of a value: everything but null, false, zero and the empty containers. -/
def truthy : Json → Bool
  | .null => false
  | .bool value => value
  | .int value => value ≠ 0
  | .str value => value ≠ ""
  | .arr items => !items.isEmpty
  | .obj fields => !fields.isEmpty

/-- The integer a boolean or an integer compares as. -/
def number? : Json → Option ℤ
  | .bool value => some (if value then 1 else 0)
  | .int value => some value
  | _ => none

/-- Equality with booleans read as numbers; containers here compare by structure. -/
def pyEq (a b : Json) : Bool :=
  match a.number?, b.number? with
  | some m, some n => decide (m = n)
  | none, none => decide (a = b)
  | _, _ => false

/-- The key a value stands for in a dictionary: containers are not hashable, and the booleans
are the keys zero and one. -/
def hashKey? : Json → Option Json
  | .bool value => some (.int (if value then 1 else 0))
  | .arr _ | .obj _ => none
  | value => some value

/-- The keys a dictionary lists, in the order of their first occurrence. -/
def keys : Json → List String
  | .obj fields => (fields.map Prod.fst).eraseDups
  | _ => []

/-- What a loop over a value visits: elements, characters or keys; other values do not iterate. -/
def iterate? : Json → Option (List Json)
  | .arr items => some items
  | .str value => some (value.toList.map fun c => .str (String.singleton c))
  | .obj fields => some ((fields.map Prod.fst).eraseDups.map .str)
  | _ => none

/-- A sequence whose elements can be compared pairwise with `<`: texts only or numbers only. -/
def sortable (items : List Json) : Bool :=
  items.length ≤ 1 || items.all isStr || items.all fun item => item.number?.isSome

/-! ## Display

The text a value formats as. A text formats as itself at the top and as a quoted literal inside
containers; which characters stay unescaped there is the interpreter's Unicode table, a parameter.
-/

/-- The last hexadecimal digits of a number, padded to a width. -/
def hexDigits (width n : ℕ) : List Char :=
  (List.range width).reverse.map fun place => Nat.digitChar (n / 16 ^ place % 16)

def showChar (printable : Char → Bool) (mark c : Char) : List Char :=
  if c = mark ∨ c = '\\' then ['\\', c]
  else if c = '\n' then ['\\', 'n']
  else if c = '\r' then ['\\', 'r']
  else if c = '\t' then ['\\', 't']
  else if printable c then [c]
  else if c.toNat < 0x100 then '\\' :: 'x' :: hexDigits 2 c.toNat
  else if c.toNat < 0x10000 then '\\' :: 'u' :: hexDigits 4 c.toNat
  else '\\' :: 'U' :: hexDigits 8 c.toNat

/-- A string literal, in double quotes only when that avoids escaping single ones. -/
def showString (printable : Char → Bool) (value : String) : String :=
  let mark := if value.toList.contains '\'' && !value.toList.contains '"' then '"' else '\''
  String.ofList (mark :: (value.toList.flatMap (showChar printable mark) ++ [mark]))

mutual

/-- The literal of a value inside a container. -/
def literal (printable : Char → Bool) : Json → String
  | .null => "None"
  | .bool value => if value then "True" else "False"
  | .int value => toString value
  | .str value => showString printable value
  | .arr items => "[" ++ ", ".intercalate (literalItems printable items) ++ "]"
  | .obj fields => "\x7b" ++ ", ".intercalate (literalFields printable fields) ++ "\x7d"

def literalItems (printable : Char → Bool) : List Json → List String
  | [] => []
  | item :: rest => literal printable item :: literalItems printable rest

def literalFields (printable : Char → Bool) : List (String × Json) → List String
  | [] => []
  | (key, value) :: rest =>
    (showString printable key ++ ": " ++ literal printable value) :: literalFields printable rest

end

/-- The text of a value on its own. -/
def display (printable : Char → Bool) : Json → String
  | .str value => value
  | value => literal printable value

/-! ## Lemmas -/

@[simp] theorem get_obj (fields : List (String × Json)) (key : String) :
    (Json.obj fields).get key = (lookup key fields).getD .null := rfl

@[simp] theorem pyEq_str (a : Json) (s : String) : a.pyEq (.str s) = decide (a = .str s) := by
  cases a <;> simp [pyEq, number?]

theorem pyEq_str_iff (a : Json) (s : String) : a.pyEq (.str s) = true ↔ a = .str s := by simp

theorem asStr?_eq_some_iff (a : Json) (s : String) : a.asStr? = some s ↔ a = .str s := by
  cases a <;> simp [asStr?]

end Json

end WispGate.Data
