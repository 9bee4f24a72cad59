import Mathlib.Data.List.Basic
import Mathlib.Tactic.IntervalCases

/-! # URL-safe base64 without padding

`encode` writes three bytes as four digits and drops the padding. `decode` reads as the lenient
decoder does that programs commonly call: characters outside the alphabet are skipped, both
alphabets are digits, and a complete padding ends the text. `decode_encode` is the round trip.
-/

namespace WispGate.Data

abbrev Bytes := List UInt8

namespace Base64

/-- The digit of a value below 64. -/
def digit (n : ℕ) : Char :=
  if n < 26 then Char.ofNat (65 + n)
  else if n < 52 then Char.ofNat (71 + n)
  else if n < 62 then Char.ofNat (n - 4)
  else if n = 62 then '-' else '_'

/-- The value of a digit of either alphabet. -/
def value? (c : Char) : Option ℕ :=
  if 'A' ≤ c ∧ c ≤ 'Z' then some (c.toNat - 65)
  else if 'a' ≤ c ∧ c ≤ 'z' then some (c.toNat - 71)
  else if '0' ≤ c ∧ c ≤ '9' then some (c.toNat + 4)
  else if c = '-' ∨ c = '+' then some 62
  else if c = '_' ∨ c = '/' then some 63
  else none

def encode : Bytes → List Char
  | a :: b :: c :: rest =>
    digit (a.toNat / 4) :: digit (a.toNat % 4 * 16 + b.toNat / 16) ::
      digit (b.toNat % 16 * 4 + c.toNat / 64) :: digit (c.toNat % 64) :: encode rest
  | [a, b] =>
    [digit (a.toNat / 4), digit (a.toNat % 4 * 16 + b.toNat / 16), digit (b.toNat % 16 * 4)]
  | [a] => [digit (a.toNat / 4), digit (a.toNat % 4 * 16)]
  | [] => []

/-- Read from a position in a group of four digits, with the bits left over from the last digit
and the number of padding characters behind it. -/
def decodeFrom (position left pads : ℕ) : List Char → Option Bytes
  | [] => if position = 0 then some [] else none
  | c :: rest =>
    if c = '=' then
      if 2 ≤ position then
        if 4 ≤ position + (pads + 1) then some [] else decodeFrom position left (pads + 1) rest
      else decodeFrom position left pads rest
    else match value? c with
      | none => decodeFrom position left pads rest
      | some n =>
        match position with
        | 0 => decodeFrom 1 n 0 rest
        | 1 => (decodeFrom 2 (n % 16) 0 rest).map (UInt8.ofNat (left * 4 + n / 16) :: ·)
        | 2 => (decodeFrom 3 (n % 4) 0 rest).map (UInt8.ofNat (left * 16 + n / 4) :: ·)
        | _ => (decodeFrom 0 0 0 rest).map (UInt8.ofNat (left * 64 + n) :: ·)

/-- The padding a text lacks. -/
def padding (length : ℕ) : List Char := List.replicate ((4 - length % 4) % 4) '='

/-- The bytes of a text, completed by its padding. A text outside ASCII is refused. -/
def decode (text : String) : Option Bytes :=
  if text.toList.all fun c => c.toNat < 128 then
    decodeFrom 0 0 0 (text.toList ++ padding text.toList.length)
  else none

/-! ## The round trip -/

theorem value?_digit {n : ℕ} (bound : n < 64) : value? (digit n) = some n := by
  interval_cases n <;> rfl

theorem digit_ne_pad {n : ℕ} (bound : n < 64) : digit n ≠ '=' := by
  interval_cases n <;> decide

theorem digit_ascii {n : ℕ} (bound : n < 64) : (digit n).toNat < 128 := by
  interval_cases n <;> decide

section Digits

variable {n : ℕ} (bound : n < 64) (left pads : ℕ) (rest : List Char)
include bound

attribute [local simp] decodeFrom

theorem decodeFrom_first : decodeFrom 0 left pads (digit n :: rest) = decodeFrom 1 n 0 rest := by
  simp [digit_ne_pad bound, value?_digit bound]

theorem decodeFrom_second : decodeFrom 1 left pads (digit n :: rest) =
    (decodeFrom 2 (n % 16) 0 rest).map (UInt8.ofNat (left * 4 + n / 16) :: ·) := by
  simp [digit_ne_pad bound, value?_digit bound]

theorem decodeFrom_third : decodeFrom 2 left pads (digit n :: rest) =
    (decodeFrom 3 (n % 4) 0 rest).map (UInt8.ofNat (left * 16 + n / 4) :: ·) := by
  simp [digit_ne_pad bound, value?_digit bound]

theorem decodeFrom_fourth : decodeFrom 3 left pads (digit n :: rest) =
    (decodeFrom 0 0 0 rest).map (UInt8.ofNat (left * 64 + n) :: ·) := by
  simp [digit_ne_pad bound, value?_digit bound]

end Digits

/-- Bytes are encoded three at a time. -/
theorem triples {motive : Bytes → Prop} (three : ∀ a b c rest, motive rest → motive (a :: b :: c :: rest))
    (two : ∀ a b, motive [a, b]) (one : ∀ a, motive [a]) (empty : motive []) (bytes : Bytes) : motive bytes := by
  induction bytes using encode.induct with
  | case1 a b c rest ih => exact three a b c rest ih
  | case2 a b => exact two a b
  | case3 a => exact one a
  | case4 => exact empty

theorem ofNat_parts {a : UInt8} {n : ℕ} (same : n = a.toNat) : UInt8.ofNat n = a := by
  rw [same, UInt8.ofNat_toNat]

/-- The digits of some bytes and their padding read back. -/
theorem decodeFrom_encode (bytes : Bytes) :
    decodeFrom 0 0 0 (encode bytes ++ padding (encode bytes).length) = some bytes := by
  induction bytes using triples with
  | three a b c rest ih =>
    have la := a.toNat_lt
    have lb := b.toNat_lt
    have lc := c.toNat_lt
    have same : padding (encode (a :: b :: c :: rest)).length = padding (encode rest).length := by
      simp only [padding, encode, List.length_cons]
      congr 1
      omega
    rw [same, encode]
    simp only [List.cons_append]
    rw [decodeFrom_first (by omega), decodeFrom_second (by omega), decodeFrom_third (by omega),
      decodeFrom_fourth (by omega), ih]
    simp only [Option.map_some, Option.some.injEq, List.cons.injEq, and_true]
    exact ⟨ofNat_parts (by omega), ofNat_parts (by omega), ofNat_parts (by omega)⟩
  | two a b =>
    have la := a.toNat_lt
    have lb := b.toNat_lt
    have pads : padding (encode [a, b]).length = ['='] := rfl
    have ends : ∀ left, decodeFrom 3 left 0 ['='] = some [] := fun _ => rfl
    rw [pads, encode]
    simp only [List.cons_append, List.nil_append]
    rw [decodeFrom_first (by omega), decodeFrom_second (by omega), decodeFrom_third (by omega), ends]
    simp only [Option.map_some, Option.some.injEq, List.cons.injEq, and_true]
    exact ⟨ofNat_parts (by omega), ofNat_parts (by omega)⟩
  | one a =>
    have la := a.toNat_lt
    have pads : padding (encode [a]).length = ['=', '='] := rfl
    have ends : ∀ left, decodeFrom 2 left 0 ['=', '='] = some [] := fun _ => rfl
    rw [pads, encode]
    simp only [List.cons_append, List.nil_append]
    rw [decodeFrom_first (by omega), decodeFrom_second (by omega), ends]
    simp only [Option.map_some, Option.some.injEq, List.cons.injEq, and_true]
    exact ofNat_parts (by omega)
  | empty => rfl

theorem exists_digit {bytes : Bytes} {d : Char} (member : d ∈ encode bytes) : ∃ n < 64, digit n = d := by
  induction bytes using triples with
  | three a b c rest ih =>
    have la := a.toNat_lt
    have lb := b.toNat_lt
    have lc := c.toNat_lt
    simp only [encode, List.mem_cons] at member
    rcases member with rfl | rfl | rfl | rfl | member
    · exact ⟨_, by omega, rfl⟩
    · exact ⟨_, by omega, rfl⟩
    · exact ⟨_, by omega, rfl⟩
    · exact ⟨_, by omega, rfl⟩
    · exact ih member
  | two a b =>
    have la := a.toNat_lt
    have lb := b.toNat_lt
    simp only [encode, List.mem_cons, List.not_mem_nil, or_false] at member
    rcases member with rfl | rfl | rfl
    · exact ⟨_, by omega, rfl⟩
    · exact ⟨_, by omega, rfl⟩
    · exact ⟨_, by omega, rfl⟩
  | one a =>
    have la := a.toNat_lt
    simp only [encode, List.mem_cons, List.not_mem_nil, or_false] at member
    rcases member with rfl | rfl
    · exact ⟨_, by omega, rfl⟩
    · exact ⟨_, by omega, rfl⟩
  | empty => cases member

theorem encode_ascii (bytes : Bytes) : ∀ c ∈ encode bytes, c.toNat < 128 := by
  intro c member
  obtain ⟨n, bound, rfl⟩ := exists_digit member
  exact digit_ascii bound

/-- A character that is no digit does not occur. -/
theorem encode_avoids {other : Char} (undigit : ∀ n < 64, digit n ≠ other) (bytes : Bytes) :
    ∀ c ∈ encode bytes, c ≠ other := by
  intro c member
  obtain ⟨n, bound, rfl⟩ := exists_digit member
  exact undigit n bound

/-- What is encoded reads back unchanged. -/
theorem decode_encode (bytes : Bytes) : decode (String.ofList (encode bytes)) = some bytes := by
  unfold decode
  rw [String.toList_ofList, if_pos, decodeFrom_encode]
  rw [List.all_eq_true]
  exact fun c member => decide_eq_true (encode_ascii bytes c member)

end Base64

end WispGate.Data
