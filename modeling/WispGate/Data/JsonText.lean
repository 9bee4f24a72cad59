import WispGate.Data.Json
import Mathlib.Tactic.SplitIfs
import Mathlib.Tactic.FinCases
import Mathlib.Data.List.TakeWhile

/-! # The ASCII text of JSON values

`dumps` writes the compact text with every character outside the printable ASCII range escaped,
characters beyond the basic plane as surrogate pairs. `loads` reads the standard grammar, with
insignificant whitespace and all escapes; fractional literals and unpaired surrogates, which have
no value here, are refused. `loads_dumps` is the round trip: what is written reads back unchanged.
The reader runs on fuel, and the length of its text is always enough.
-/

namespace WispGate.Data.Json

/-! ## Writing -/

def hex4 (n : ℕ) : List Char :=
  [Nat.digitChar (n / 4096 % 16), Nat.digitChar (n / 256 % 16), Nat.digitChar (n / 16 % 16),
    Nat.digitChar (n % 16)]

/-- The halves of the surrogate pair of a code point beyond the basic plane. -/
def highHalf (n : ℕ) : ℕ := (n - 0x10000) / 0x400 + 0xd800

def lowHalf (n : ℕ) : ℕ := (n - 0x10000) % 0x400 + 0xdc00

/-- One character of a string literal. -/
def escape (c : Char) : List Char :=
  if c = '"' then ['\\', '"']
  else if c = '\\' then ['\\', '\\']
  else if 32 ≤ c.toNat ∧ c.toNat ≤ 126 then [c]
  else if c = '\n' then ['\\', 'n']
  else if c = '\r' then ['\\', 'r']
  else if c = '\t' then ['\\', 't']
  else if c.toNat = 8 then ['\\', 'b']
  else if c.toNat = 12 then ['\\', 'f']
  else if c.toNat < 0x10000 then '\\' :: 'u' :: hex4 c.toNat
  else '\\' :: 'u' :: (hex4 (highHalf c.toNat) ++ '\\' :: 'u' :: hex4 (lowHalf c.toNat))

def quote (s : String) : List Char := '"' :: (s.toList.flatMap escape ++ ['"'])

def dumpInt (n : ℤ) : List Char :=
  if n < 0 then '-' :: Nat.toDigits 10 n.natAbs else Nat.toDigits 10 n.natAbs

mutual

def dump : Json → List Char
  | .null => ['n', 'u', 'l', 'l']
  | .bool true => ['t', 'r', 'u', 'e']
  | .bool false => ['f', 'a', 'l', 's', 'e']
  | .int n => dumpInt n
  | .str s => quote s
  | .arr [] => ['[', ']']
  | .arr (x :: xs) => '[' :: (dump x ++ dumpItems xs ++ [']'])
  | .obj [] => ['\x7b', '\x7d']
  | .obj ((k, x) :: xs) => '\x7b' :: (quote k ++ ':' :: (dump x ++ dumpFields xs ++ ['\x7d']))

/-- The elements after the first, each behind its comma. -/
def dumpItems : List Json → List Char
  | [] => []
  | x :: xs => ',' :: (dump x ++ dumpItems xs)

/-- The members after the first, each behind its comma. -/
def dumpFields : List (String × Json) → List Char
  | [] => []
  | (k, x) :: xs => ',' :: (quote k ++ ':' :: (dump x ++ dumpFields xs))

end

/-- The compact text of a value. -/
def dumps (value : Json) : String := String.ofList value.dump

/-! ## Reading -/

def isSpace (c : Char) : Bool := c = ' ' || c = '\n' || c = '\r' || c = '\t'

def skipSpace (text : List Char) : List Char := text.dropWhile isSpace

def hexValue (c : Char) : Option ℕ :=
  if 48 ≤ c.toNat ∧ c.toNat ≤ 57 then some (c.toNat - 48)
  else if 97 ≤ c.toNat ∧ c.toNat ≤ 102 then some (c.toNat - 87)
  else if 65 ≤ c.toNat ∧ c.toNat ≤ 70 then some (c.toNat - 55)
  else none

/-- Four hexadecimal digits at the head of a text. -/
def readHex4 : List Char → Option (ℕ × List Char)
  | a :: b :: c :: d :: rest =>
    match hexValue a, hexValue b, hexValue c, hexValue d with
    | some a, some b, some c, some d => some (4096 * a + 256 * b + 16 * c + d, rest)
    | _, _, _, _ => none
  | _ => none

/-- The low half of a surrogate pair, behind its own escape. -/
def readLow (high : ℕ) : List Char → Option (Char × List Char)
  | '\\' :: 'u' :: text =>
    match readHex4 text with
    | some (low, rest) =>
      if 0xdc00 ≤ low ∧ low < 0xe000 then
        some (Char.ofNat (0x10000 + (high - 0xd800) * 0x400 + (low - 0xdc00)), rest)
      else none
    | none => none
  | _ => none

/-- The character after `\u`, with both halves of a surrogate pair. -/
def readUnicode (text : List Char) : Option (Char × List Char) :=
  match readHex4 text with
  | some (code, rest) =>
    if 0xd800 ≤ code ∧ code < 0xdc00 then readLow code rest
    else if 0xdc00 ≤ code ∧ code < 0xe000 then none
    else some (Char.ofNat code, rest)
  | none => none

/-- The character after a backslash. -/
def readEscape : List Char → Option (Char × List Char)
  | [] => none
  | c :: rest =>
    if c = 'u' then readUnicode rest
    else if c = '"' then some ('"', rest)
    else if c = '\\' then some ('\\', rest)
    else if c = '/' then some ('/', rest)
    else if c = 'n' then some ('\n', rest)
    else if c = 'r' then some ('\r', rest)
    else if c = 't' then some ('\t', rest)
    else if c = 'b' then some (Char.ofNat 8, rest)
    else if c = 'f' then some (Char.ofNat 12, rest)
    else none

/-- The rest of a string literal after its opening quote. -/
def readString : ℕ → List Char → Option (List Char × List Char)
  | 0, _ => none
  | _ + 1, [] => none
  | fuel + 1, c :: rest =>
    if c = '"' then some ([], rest)
    else if c = '\\' then
      match readEscape rest with
      | some (char, rest) => (readString fuel rest).map fun (chars, rest) => (char :: chars, rest)
      | none => none
    else if c.toNat < 32 then none
    else (readString fuel rest).map fun (chars, rest) => (c :: chars, rest)

/-- A run of decimal digits without a leading zero, and no fraction or exponent behind it. -/
def readNat (text : List Char) : Option (ℕ × List Char) :=
  let digits := text.takeWhile Char.isDigit
  let rest := text.dropWhile Char.isDigit
  if digits = [] ∨ (digits.head? = some '0' ∧ digits ≠ ['0']) then none
  else if rest.head? = some '.' ∨ rest.head? = some 'e' ∨ rest.head? = some 'E' then none
  else some (Nat.ofDigitChars 10 digits 0, rest)

def readInt : List Char → Option (ℤ × List Char)
  | [] => none
  | c :: rest =>
    if c = '-' then (readNat rest).map fun (n, rest) => (-(n : ℤ), rest)
    else (readNat (c :: rest)).map fun (n, rest) => ((n : ℤ), rest)

/-- The rest of a literal name. -/
def readName (name : List Char) (value : Json) (text : List Char) : Option (Json × List Char) :=
  if text.take name.length = name then some (value, text.drop name.length) else none

mutual

def readValue : ℕ → List Char → Option (Json × List Char)
  | 0, _ => none
  | fuel + 1, text =>
    match skipSpace text with
    | [] => none
    | c :: rest =>
      if c = '"' then (readString (rest.length + 1) rest).map fun (s, rest) => (.str (String.ofList s), rest)
      else if c = '[' then
        if (skipSpace rest).head? = some ']' then some (.arr [], (skipSpace rest).tail)
        else (readItems fuel rest).map fun (items, rest) => (.arr items, rest)
      else if c = '\x7b' then
        if (skipSpace rest).head? = some '\x7d' then some (.obj [], (skipSpace rest).tail)
        else (readFields fuel rest).map fun (fields, rest) => (.obj fields, rest)
      else if c = 'n' then readName ['u', 'l', 'l'] .null rest
      else if c = 't' then readName ['r', 'u', 'e'] (.bool true) rest
      else if c = 'f' then readName ['a', 'l', 's', 'e'] (.bool false) rest
      else (readInt (c :: rest)).map fun (n, rest) => (.int n, rest)

/-- The elements of an array up to its closing bracket. -/
def readItems : ℕ → List Char → Option (List Json × List Char)
  | 0, _ => none
  | fuel + 1, text =>
    match readValue fuel text with
    | none => none
    | some (item, rest) =>
      match skipSpace rest with
      | [] => none
      | c :: rest =>
        if c = ']' then some ([item], rest)
        else if c = ',' then (readItems fuel rest).map fun (items, rest) => (item :: items, rest)
        else none

/-- The members of an object up to its closing brace. -/
def readFields : ℕ → List Char → Option (List (String × Json) × List Char)
  | 0, _ => none
  | fuel + 1, text =>
    match skipSpace text with
    | [] => none
    | c :: rest =>
      if c ≠ '"' then none
      else match readString (rest.length + 1) rest with
        | none => none
        | some (key, rest) =>
          match skipSpace rest with
          | [] => none
          | c :: rest =>
            if c ≠ ':' then none
            else match readValue fuel rest with
              | none => none
              | some (value, rest) =>
                match skipSpace rest with
                | [] => none
                | c :: rest =>
                  if c = '\x7d' then some ([(String.ofList key, value)], rest)
                  else if c = ',' then
                    (readFields fuel rest).map fun (fields, rest) => ((String.ofList key, value) :: fields, rest)
                  else none

end

/-- The value of a whole text. -/
def loads (text : String) : Option Json :=
  match readValue (text.toList.length + 1) text.toList with
  | some (value, rest) => if skipSpace rest = [] then some value else none
  | none => none

/-! ## Round trip -/

theorem hexValue_digitChar {n : ℕ} (bound : n < 16) : hexValue (Nat.digitChar n) = some n := by
  have all : ∀ m : Fin 16, hexValue (Nat.digitChar m.val) = some m.val := by decide
  exact all ⟨n, bound⟩

theorem readHex4_hex4 {n : ℕ} (bound : n < 0x10000) (rest : List Char) :
    readHex4 (hex4 n ++ rest) = some (n, rest) := by
  simp only [hex4, List.cons_append, List.nil_append, readHex4,
    hexValue_digitChar (Nat.mod_lt _ (by decide : 0 < 16))]
  have value : 4096 * (n / 4096 % 16) + 256 * (n / 256 % 16) + 16 * (n / 16 % 16) + n % 16 = n := by omega
  rw [value]

/-- A character is a code point outside the surrogate range. -/
theorem char_bounds (c : Char) : c.toNat < 0xd800 ∨ (0xdfff < c.toNat ∧ c.toNat < 0x110000) := c.valid

theorem readUnicode_basic {c : Char} (basic : c.toNat < 0x10000) (rest : List Char) :
    readUnicode (hex4 c.toNat ++ rest) = some (c, rest) := by
  have bounds := char_bounds c
  have notHigh : ¬ (0xd800 ≤ c.toNat ∧ c.toNat < 0xdc00) := by omega
  have notLow : ¬ (0xdc00 ≤ c.toNat ∧ c.toNat < 0xe000) := by omega
  simp only [readUnicode, readHex4_hex4 basic, if_neg notHigh, if_neg notLow, Char.ofNat_toNat]

/-- Both halves of a surrogate pair name the code point they were split from. -/
theorem readLow_hex4 {c : Char} {high low : ℕ} (lowRange : 0xdc00 ≤ low ∧ low < 0xe000)
    (value : 0x10000 + (high - 0xd800) * 0x400 + (low - 0xdc00) = c.toNat) (rest : List Char) :
    readLow high ('\\' :: 'u' :: (hex4 low ++ rest)) = some (c, rest) := by
  have bound : low < 0x10000 := by omega
  simp only [readLow, readHex4_hex4 bound, if_pos lowRange, value, Char.ofNat_toNat]

theorem readUnicode_pair {c : Char} {high low : ℕ} (highRange : 0xd800 ≤ high ∧ high < 0xdc00)
    (lowRange : 0xdc00 ≤ low ∧ low < 0xe000)
    (value : 0x10000 + (high - 0xd800) * 0x400 + (low - 0xdc00) = c.toNat) (rest : List Char) :
    readUnicode (hex4 high ++ '\\' :: 'u' :: (hex4 low ++ rest)) = some (c, rest) := by
  have bound : high < 0x10000 := by omega
  simp only [readUnicode, readHex4_hex4 bound, if_pos highRange, readLow_hex4 lowRange value]

theorem halves_value {n : ℕ} (beyond : ¬ n < 0x10000) (valid : n < 0x110000) :
    (0xd800 ≤ highHalf n ∧ highHalf n < 0xdc00) ∧ (0xdc00 ≤ lowHalf n ∧ lowHalf n < 0xe000) ∧
      0x10000 + (highHalf n - 0xd800) * 0x400 + (lowHalf n - 0xdc00) = n := by
  unfold highHalf lowHalf
  omega

theorem readUnicode_beyond {c : Char} (beyond : ¬ c.toNat < 0x10000) (rest : List Char) :
    readUnicode (hex4 (highHalf c.toNat) ++ '\\' :: 'u' :: (hex4 (lowHalf c.toNat) ++ rest)) =
      some (c, rest) := by
  have bounds := char_bounds c
  obtain ⟨highRange, lowRange, value⟩ := halves_value beyond (by omega)
  exact readUnicode_pair highRange lowRange value rest

theorem readString_unicode {c : Char} {text rest : List Char} (read : readUnicode text = some (c, rest))
    (fuel : ℕ) : readString (fuel + 1) ('\\' :: 'u' :: text) =
      (readString fuel rest).map fun (chars, rest) => (c :: chars, rest) := by
  simp [readString, readEscape, read]

/-- How a character is escaped. -/
theorem escape_cases (c : Char) :
    (c = '"' ∧ escape c = ['\\', '"']) ∨ (c = '\\' ∧ escape c = ['\\', '\\']) ∨
    (c ≠ '"' ∧ c ≠ '\\' ∧ (32 ≤ c.toNat ∧ c.toNat ≤ 126) ∧ escape c = [c]) ∨
    (c = '\n' ∧ escape c = ['\\', 'n']) ∨ (c = '\r' ∧ escape c = ['\\', 'r']) ∨
    (c = '\t' ∧ escape c = ['\\', 't']) ∨ (c.toNat = 8 ∧ escape c = ['\\', 'b']) ∨
    (c.toNat = 12 ∧ escape c = ['\\', 'f']) ∨ (c.toNat < 0x10000 ∧ escape c = '\\' :: 'u' :: hex4 c.toNat) ∨
    (¬ c.toNat < 0x10000 ∧
      escape c = '\\' :: 'u' :: (hex4 (highHalf c.toNat) ++ '\\' :: 'u' :: hex4 (lowHalf c.toNat))) := by
  unfold escape
  by_cases quote : c = '"'
  · exact .inl ⟨quote, if_pos quote⟩
  rw [if_neg quote]
  refine .inr ?_
  by_cases backslash : c = '\\'
  · exact .inl ⟨backslash, if_pos backslash⟩
  rw [if_neg backslash]
  refine .inr ?_
  by_cases plain : 32 ≤ c.toNat ∧ c.toNat ≤ 126
  · exact .inl ⟨quote, backslash, plain, if_pos plain⟩
  rw [if_neg plain]
  refine .inr ?_
  by_cases newline : c = '\n'
  · exact .inl ⟨newline, if_pos newline⟩
  rw [if_neg newline]
  refine .inr ?_
  by_cases ret : c = '\r'
  · exact .inl ⟨ret, if_pos ret⟩
  rw [if_neg ret]
  refine .inr ?_
  by_cases tab : c = '\t'
  · exact .inl ⟨tab, if_pos tab⟩
  rw [if_neg tab]
  refine .inr ?_
  by_cases backspace : c.toNat = 8
  · exact .inl ⟨backspace, if_pos backspace⟩
  rw [if_neg backspace]
  refine .inr ?_
  by_cases feed : c.toNat = 12
  · exact .inl ⟨feed, if_pos feed⟩
  rw [if_neg feed]
  refine .inr ?_
  by_cases basic : c.toNat < 0x10000
  · exact .inl ⟨basic, if_pos basic⟩
  · exact .inr ⟨basic, if_neg basic⟩

/-- One written character reads back, whatever follows it. -/
theorem readString_escape (c : Char) (fuel : ℕ) (rest : List Char) :
    readString (fuel + 1) (escape c ++ rest) =
      (readString fuel rest).map fun (chars, rest) => (c :: chars, rest) := by
  rcases escape_cases c with ⟨quote, text⟩ | ⟨backslash, text⟩ | ⟨quote, backslash, plain, text⟩ | ⟨newline, text⟩ |
    ⟨ret, text⟩ | ⟨tab, text⟩ | ⟨backspace, text⟩ | ⟨feed, text⟩ | ⟨basic, text⟩ | ⟨basic, text⟩ <;> rw [text]
  · subst quote
    simp [readString, readEscape]
  · subst backslash
    simp [readString, readEscape]
  · simp only [List.cons_append, List.nil_append, readString, if_neg quote, if_neg backslash]
    rw [if_neg (by omega)]
  · subst newline
    simp [readString, readEscape]
  · subst ret
    simp [readString, readEscape]
  · subst tab
    simp [readString, readEscape]
  · have same : c = Char.ofNat 8 := by rw [← backspace, Char.ofNat_toNat]
    simp [readString, readEscape, same]
  · have same : c = Char.ofNat 12 := by rw [← feed, Char.ofNat_toNat]
    simp [readString, readEscape, same]
  · exact readString_unicode (readUnicode_basic basic rest) fuel
  · have read := readString_unicode (readUnicode_beyond basic rest) fuel
    simpa only [List.cons_append, List.append_assoc] using read

theorem escape_ne_nil (c : Char) : 0 < (escape c).length := by
  rcases escape_cases c with ⟨-, text⟩ | ⟨-, text⟩ | ⟨-, -, -, text⟩ | ⟨-, text⟩ | ⟨-, text⟩ | ⟨-, text⟩ | ⟨-, text⟩ |
    ⟨-, text⟩ | ⟨-, text⟩ | ⟨-, text⟩ <;> rw [text] <;> exact Nat.succ_pos _

theorem readString_quoted (chars : List Char) (fuel : ℕ) (rest : List Char)
    (enough : (chars.flatMap escape).length < fuel) :
    readString fuel (chars.flatMap escape ++ '"' :: rest) = some (chars, rest) := by
  induction chars generalizing fuel with
  | nil =>
    obtain ⟨fuel, rfl⟩ := Nat.exists_eq_add_of_lt enough
    simp [readString]
  | cons c chars ih =>
    have nonempty := escape_ne_nil c
    simp only [List.flatMap_cons, List.length_append] at enough
    obtain ⟨fuel, rfl⟩ : ∃ less, fuel = less + 1 := ⟨fuel - 1, by omega⟩
    rw [List.flatMap_cons, List.append_assoc, readString_escape, ih fuel (by omega)]
    rfl

/-- What may follow a number: nothing that would extend it. -/
def Stops (rest : List Char) : Prop :=
  ∀ c, rest.head? = some c → c.isDigit = false ∧ c ≠ '.' ∧ c ≠ 'e' ∧ c ≠ 'E'

theorem stops_cons {c : Char} (rest : List Char)
    (other : c.isDigit = false ∧ c ≠ '.' ∧ c ≠ 'e' ∧ c ≠ 'E') : Stops (c :: rest) := by
  intro d head
  cases head
  exact other

theorem toDigits_head (n : ℕ) : (Nat.toDigits 10 n).head? = some '0' → n = 0 := by
  induction n using Nat.strong_induction_on with
  | _ n ih =>
    intro head
    by_cases small : n < 10
    · rw [Nat.toDigits_of_lt_base small] at head
      have all : ∀ m : Fin 10, [Nat.digitChar m.val].head? = some '0' → m.val = 0 := by decide
      exact all ⟨n, small⟩ head
    · rw [Nat.toDigits_of_base_le (by decide) (by omega)] at head
      rw [List.head?_append_of_ne_nil _ Nat.toDigits_ne_nil] at head
      have zero := ih (n / 10) (by omega) head
      omega

theorem takeWhile_digits (n : ℕ) {rest : List Char} (stops : Stops rest) :
    (Nat.toDigits 10 n ++ rest).takeWhile Char.isDigit = Nat.toDigits 10 n ∧
      (Nat.toDigits 10 n ++ rest).dropWhile Char.isDigit = rest := by
  have digits : ∀ c ∈ Nat.toDigits 10 n, c.isDigit = true := fun c member =>
    Nat.isDigit_of_mem_toDigits (by decide) (by decide) member
  rw [List.takeWhile_append_of_pos digits, List.dropWhile_append_of_pos digits]
  cases rest with
  | nil => simp
  | cons c rest =>
    have other := (stops c rfl).1
    simp [other]

theorem readNat_toDigits (n : ℕ) {rest : List Char} (stops : Stops rest) :
    readNat (Nat.toDigits 10 n ++ rest) = some (n, rest) := by
  obtain ⟨taken, dropped⟩ := takeWhile_digits n stops
  unfold readNat
  simp only [taken, dropped, Nat.ofDigitChars_ten_toDigits]
  rw [if_neg, if_neg]
  · rintro (head | head | head)
    · exact (stops _ head).2.1 rfl
    · exact (stops _ head).2.2.1 rfl
    · exact (stops _ head).2.2.2 rfl
  · rintro (empty | ⟨head, long⟩)
    · exact Nat.toDigits_ne_nil empty
    · rw [toDigits_head n head] at long
      exact long (by decide)

theorem readInt_dumpInt (n : ℤ) {rest : List Char} (stops : Stops rest) :
    readInt (dumpInt n ++ rest) = some (n, rest) := by
  unfold dumpInt
  split_ifs with negative
  · simp only [List.cons_append, readInt, readNat_toDigits n.natAbs stops, if_true, Option.map_some]
    congr
    omega
  · cases shape : Nat.toDigits 10 n.natAbs ++ rest with
    | nil => exact absurd (List.append_eq_nil_iff.mp shape).1 Nat.toDigits_ne_nil
    | cons c tail =>
      have digit : c.isDigit = true := by
        cases digits : Nat.toDigits 10 n.natAbs with
        | nil => exact absurd digits Nat.toDigits_ne_nil
        | cons d ds =>
          rw [digits] at shape
          cases shape
          exact Nat.isDigit_of_mem_toDigits (b := 10) (n := n.natAbs) (by decide) (by decide)
            (by rw [digits]; exact List.mem_cons_self ..)
      have notMinus : c ≠ '-' := by
        rintro rfl
        exact absurd digit (by decide)
      have read := readNat_toDigits n.natAbs stops
      rw [shape] at read
      simp only [readInt, if_neg notMinus, read, Option.map_some]
      congr
      omega

theorem dumpInt_cons (n : ℤ) : ∃ c rest, dumpInt n = c :: rest ∧ (c = '-' ∨ c.isDigit = true) := by
  unfold dumpInt
  split_ifs
  · exact ⟨_, _, rfl, .inl rfl⟩
  · cases digits : Nat.toDigits 10 n.natAbs with
    | nil => exact absurd digits Nat.toDigits_ne_nil
    | cons d ds =>
      refine ⟨d, ds, rfl, .inr ?_⟩
      exact Nat.isDigit_of_mem_toDigits (b := 10) (n := n.natAbs) (by decide) (by decide)
        (by rw [digits]; exact List.mem_cons_self ..)

/-- The first character of a text is no space and closes nothing. -/
theorem dump_cons (j : Json) :
    ∃ c rest, j.dump = c :: rest ∧ isSpace c = false ∧ c ≠ ']' ∧ c ≠ '\x7d' := by
  cases j with
  | null => exact ⟨_, _, rfl, by decide⟩
  | bool value => cases value <;> exact ⟨_, _, rfl, by decide⟩
  | int n =>
    obtain ⟨c, rest, shape, kind⟩ := dumpInt_cons n
    refine ⟨c, rest, by rw [dump, shape], ?_⟩
    rcases kind with rfl | digit
    · decide
    · refine ⟨?_, ?_, ?_⟩
      · rw [Bool.eq_false_iff]
        intro space
        simp only [isSpace, Bool.or_eq_true, decide_eq_true_eq] at space
        rcases space with ((rfl | rfl) | rfl) | rfl <;> exact absurd digit (by decide)
      · rintro rfl
        exact absurd digit (by decide)
      · rintro rfl
        exact absurd digit (by decide)
  | str s => exact ⟨_, _, rfl, by decide⟩
  | arr items => cases items <;> exact ⟨_, _, rfl, by decide⟩
  | obj fields =>
    cases fields with
    | nil => exact ⟨_, _, rfl, by decide⟩
    | cons => exact ⟨_, _, rfl, by decide⟩

theorem skipSpace_cons {c : Char} (solid : isSpace c = false) (rest : List Char) :
    skipSpace (c :: rest) = c :: rest := by simp [skipSpace, solid]

/-- A numeral is no other kind of value. -/
theorem numeral_head {c : Char} (kind : c = '-' ∨ c.isDigit = true) :
    isSpace c = false ∧ c ≠ '"' ∧ c ≠ '[' ∧ c ≠ '\x7b' ∧ c ≠ 'n' ∧ c ≠ 't' ∧ c ≠ 'f' := by
  rcases kind with rfl | digit
  · decide
  · refine ⟨?_, ?_, ?_, ?_, ?_, ?_, ?_⟩
    · rw [Bool.eq_false_iff]
      intro space
      simp only [isSpace, Bool.or_eq_true, decide_eq_true_eq] at space
      rcases space with ((rfl | rfl) | rfl) | rfl <;> exact absurd digit (by decide)
    all_goals
      rintro rfl
      exact absurd digit (by decide)

theorem readValue_int (n : ℤ) (fuel : ℕ) {rest : List Char} (stops : Stops rest) :
    readValue (fuel + 1) (dumpInt n ++ rest) = some (.int n, rest) := by
  have read := readInt_dumpInt n stops
  obtain ⟨c, tail, shape, kind⟩ := dumpInt_cons n
  obtain ⟨solid, notQuote, notArray, notObject, notNull, notTrue, notFalse⟩ := numeral_head kind
  rw [shape, List.cons_append] at read ⊢
  rw [readValue, skipSpace_cons solid]
  simp only [if_neg notQuote, if_neg notArray, if_neg notObject, if_neg notNull, if_neg notTrue,
    if_neg notFalse, read, Option.map_some]

theorem readString_quote (s : String) (rest : List Char) :
    readString (s.toList.flatMap escape ++ '"' :: rest).length.succ (s.toList.flatMap escape ++ '"' :: rest) =
      some (s.toList, rest) := by
  apply readString_quoted
  simp only [List.length_append, List.length_cons]
  omega

theorem readValue_quote (s : String) (fuel : ℕ) (rest : List Char) :
    readValue (fuel + 1) (quote s ++ rest) = some (.str s, rest) := by
  have read := readString_quote s rest
  rw [quote, List.cons_append, List.append_assoc, List.singleton_append, readValue,
    skipSpace_cons (by decide)]
  simp only [if_true, read, Option.map_some, String.ofList_toList]

/-- With this much fuel, whatever fits in it is read back: a value, the elements of an array after
its bracket, and the members of an object after its brace. -/
structure ReadsBack (fuel : ℕ) : Prop where
  value : ∀ (j : Json) (rest : List Char), j.dump.length ≤ fuel → Stops rest →
    readValue fuel (j.dump ++ rest) = some (j, rest)
  items : ∀ (x : Json) (xs : List Json) (rest : List Char),
    x.dump.length + (dumpItems xs).length + 1 ≤ fuel →
    readItems fuel (x.dump ++ (dumpItems xs ++ ']' :: rest)) = some (x :: xs, rest)
  fields : ∀ (k : String) (x : Json) (xs : List (String × Json)) (rest : List Char),
    (quote k).length + x.dump.length + (dumpFields xs).length + 1 ≤ fuel →
    readFields fuel (quote k ++ ':' :: (x.dump ++ (dumpFields xs ++ '\x7d' :: rest))) =
      some ((k, x) :: xs, rest)

theorem ReadsBack.value_succ {fuel : ℕ} (ih : ReadsBack fuel) (j : Json) (rest : List Char)
    (enough : j.dump.length ≤ fuel + 1) (stops : Stops rest) :
    readValue (fuel + 1) (j.dump ++ rest) = some (j, rest) := by
  cases j with
  | null => simp [dump, readValue, skipSpace_cons, isSpace, readName]
  | bool b => cases b <;> simp [dump, readValue, skipSpace_cons, isSpace, readName]
  | int n => exact readValue_int n fuel stops
  | str s => exact readValue_quote s fuel rest
  | arr items =>
    cases items with
    | nil => simp [dump, readValue, skipSpace_cons, isSpace]
    | cons x xs =>
      simp only [dump, List.length_cons, List.length_append, List.length_nil] at enough
      have items := ih.items x xs rest (by omega)
      obtain ⟨first, after, head, solid, noBracket, _⟩ := dump_cons x
      simp only [dump, List.cons_append, List.append_assoc, List.nil_append] at items ⊢
      rw [readValue, skipSpace_cons (by decide)]
      simp only [if_true]
      rw [if_neg (by decide), if_neg, items]
      · rfl
      · rw [head, List.cons_append, skipSpace_cons solid]
        simpa using noBracket
  | obj fields =>
    cases fields with
    | nil => simp [dump, readValue, skipSpace_cons, isSpace]
    | cons field xs =>
      obtain ⟨k, x⟩ := field
      simp only [dump, List.length_cons, List.length_append, List.length_nil] at enough
      have fields := ih.fields k x xs rest (by omega)
      simp only [dump, List.cons_append, List.append_assoc, List.nil_append] at fields ⊢
      rw [readValue, skipSpace_cons (by decide)]
      simp only []
      rw [if_neg (by decide), if_neg (by decide), if_pos trivial, if_neg, fields]
      · rfl
      · rw [quote, List.cons_append, skipSpace_cons (by decide)]
        simp

theorem ReadsBack.items_succ {fuel : ℕ} (ih : ReadsBack fuel) (x : Json) (xs : List Json)
    (rest : List Char) (enough : x.dump.length + (dumpItems xs).length + 1 ≤ fuel + 1) :
    readItems (fuel + 1) (x.dump ++ (dumpItems xs ++ ']' :: rest)) = some (x :: xs, rest) := by
  cases xs with
  | nil =>
    have value := ih.value x (']' :: rest) (by omega) (stops_cons _ (by decide))
    simp only [dumpItems, List.nil_append]
    rw [readItems, value]
    simp [skipSpace_cons, isSpace]
  | cons y ys =>
    simp only [dumpItems, List.length_cons, List.length_append] at enough
    have value := ih.value x (',' :: (y.dump ++ dumpItems ys) ++ ']' :: rest) (by omega)
      (stops_cons _ (by decide))
    have items := ih.items y ys rest (by omega)
    simp only [dumpItems, List.cons_append, List.append_assoc] at value ⊢
    rw [readItems, value]
    simp only [skipSpace_cons (show isSpace ',' = false by decide)]
    rw [if_neg (by decide), if_pos trivial, items]
    rfl

theorem ReadsBack.fields_succ {fuel : ℕ} (ih : ReadsBack fuel) (k : String) (x : Json)
    (xs : List (String × Json)) (rest : List Char)
    (enough : (quote k).length + x.dump.length + (dumpFields xs).length + 1 ≤ fuel + 1) :
    readFields (fuel + 1) (quote k ++ ':' :: (x.dump ++ (dumpFields xs ++ '\x7d' :: rest))) =
      some ((k, x) :: xs, rest) := by
  have key := readString_quote k (':' :: (x.dump ++ (dumpFields xs ++ '\x7d' :: rest)))
  have quoted : 2 ≤ (quote k).length := by
    simp only [quote, List.length_cons, List.length_append, List.length_nil]
    omega
  rw [readFields, quote, List.cons_append, skipSpace_cons (by decide)]
  simp only [List.append_assoc, List.singleton_append, ne_eq, not_true_eq_false, if_false, key]
  rw [skipSpace_cons (by decide)]
  simp only [not_true_eq_false, if_false, String.ofList_toList]
  cases xs with
  | nil =>
    have value := ih.value x ('\x7d' :: rest) (by omega) (stops_cons _ (by decide))
    simp only [dumpFields, List.nil_append]
    rw [value]
    simp [skipSpace_cons, isSpace]
  | cons field ys =>
    obtain ⟨l, y⟩ := field
    simp only [dumpFields, List.length_cons, List.length_append] at enough
    have value := ih.value x (',' :: (quote l ++ ':' :: (y.dump ++ dumpFields ys)) ++ '\x7d' :: rest)
      (by omega) (stops_cons _ (by decide))
    have fields := ih.fields l y ys rest (by omega)
    simp only [dumpFields, List.cons_append, List.append_assoc] at value ⊢
    rw [value]
    simp only [skipSpace_cons (show isSpace ',' = false by decide)]
    rw [if_neg (by decide), if_pos trivial, fields]
    rfl

theorem reads_back (fuel : ℕ) : ReadsBack fuel := by
  induction fuel with
  | zero =>
    refine ⟨fun j rest enough _ => ?_, fun _ _ _ enough => by omega, fun _ _ _ _ enough => by omega⟩
    obtain ⟨c, tail, shape, _⟩ := dump_cons j
    simp [shape] at enough
  | succ fuel ih => exact ⟨ih.value_succ, ih.items_succ, ih.fields_succ⟩

/-- Every value reads back from its own text. -/
theorem loads_dumps (j : Json) : loads j.dumps = some j := by
  have stops : Stops [] := by
    intro c head
    cases head
  have read := (reads_back (j.dump.length + 1)).value j [] (by omega) stops
  rw [List.append_nil] at read
  simp only [loads, dumps, String.toList_ofList, read]
  rfl

/-- Distinct values have distinct texts. -/
theorem dumps_injective : Function.Injective dumps := fun a b same =>
  Option.some.inj ((loads_dumps a).symm.trans ((congrArg loads same).trans (loads_dumps b)))

/-! ## Characters -/

/-- From the space to the tilde. -/
def Printed (c : Char) : Prop := 32 ≤ c.toNat ∧ c.toNat ≤ 126

instance (c : Char) : Decidable (Printed c) := inferInstanceAs (Decidable (_ ∧ _))

theorem digitChar_printed {n : ℕ} (bound : n < 16) : Printed (Nat.digitChar n) := by
  have all : ∀ m : Fin 16, Printed (Nat.digitChar m.val) := by decide
  exact all ⟨n, bound⟩

theorem hex4_printed (n : ℕ) : ∀ c ∈ hex4 n, Printed c := by
  intro c mem
  simp only [hex4, List.mem_cons, List.not_mem_nil, or_false] at mem
  rcases mem with rfl | rfl | rfl | rfl
  · exact digitChar_printed (Nat.mod_lt _ (by decide))
  · exact digitChar_printed (Nat.mod_lt _ (by decide))
  · exact digitChar_printed (Nat.mod_lt _ (by decide))
  · exact digitChar_printed (Nat.mod_lt _ (by decide))

theorem printed_of_all {text : List Char} (printed : (text.all fun c => decide (Printed c)) = true) :
    ∀ c ∈ text, Printed c := by
  simpa using printed

theorem escape_printed (c : Char) : ∀ d ∈ escape c, Printed d := by
  rcases escape_cases c with ⟨-, text⟩ | ⟨-, text⟩ | ⟨-, -, plain, text⟩ | ⟨-, text⟩ | ⟨-, text⟩ | ⟨-, text⟩ |
    ⟨-, text⟩ | ⟨-, text⟩ | ⟨-, text⟩ | ⟨-, text⟩ <;> rw [text]
  · exact printed_of_all rfl
  · exact printed_of_all rfl
  · intro d mem
    rw [List.mem_singleton] at mem
    subst mem
    exact plain
  · exact printed_of_all rfl
  · exact printed_of_all rfl
  · exact printed_of_all rfl
  · exact printed_of_all rfl
  · exact printed_of_all rfl
  · rw [List.forall_mem_cons, List.forall_mem_cons]
    exact ⟨by decide, by decide, hex4_printed _⟩
  · rw [List.forall_mem_cons, List.forall_mem_cons, List.forall_mem_append, List.forall_mem_cons, List.forall_mem_cons]
    exact ⟨by decide, by decide, hex4_printed _, by decide, by decide, hex4_printed _⟩

theorem quote_printed (s : String) : ∀ c ∈ quote s, Printed c := by
  intro c mem
  simp only [quote, List.mem_cons, List.mem_append, List.mem_flatMap, List.not_mem_nil, or_false] at mem
  rcases mem with rfl | ⟨d, -, mem⟩ | rfl
  · decide
  · exact escape_printed d c mem
  · decide

theorem dumpInt_printed (n : ℤ) : ∀ c ∈ dumpInt n, Printed c := by
  have digits : ∀ c ∈ Nat.toDigits 10 n.natAbs, Printed c := by
    intro c mem
    have digit := Nat.isDigit_of_mem_toDigits (by decide) (by decide) mem
    simp only [Char.isDigit, Bool.and_eq_true, decide_eq_true_eq, ge_iff_le, UInt32.le_iff_toNat_le] at digit
    have same : c.val.toNat = c.toNat := rfl
    have bounds : 48 ≤ c.toNat ∧ c.toNat ≤ 57 := digit
    unfold Printed
    omega
  intro c mem
  unfold dumpInt at mem
  split_ifs at mem
  · rcases List.mem_cons.mp mem with rfl | mem
    · decide
    · exact digits c mem
  · exact digits c mem

mutual

/-- The text of a value is printed characters. -/
theorem dump_printed : (value : Json) → ∀ c ∈ value.dump, Printed c
  | .null => printed_of_all rfl
  | .bool true => printed_of_all rfl
  | .bool false => printed_of_all rfl
  | .int n => dumpInt_printed n
  | .str s => quote_printed s
  | .arr [] => printed_of_all rfl
  | .arr (x :: xs) => by
    intro c mem
    simp only [dump, List.mem_cons, List.mem_append, List.not_mem_nil, or_false] at mem
    rcases mem with rfl | (mem | mem) | rfl
    · decide
    · exact dump_printed x c mem
    · exact dumpItems_printed xs c mem
    · decide
  | .obj [] => printed_of_all rfl
  | .obj ((k, x) :: xs) => by
    intro c mem
    simp only [dump, List.mem_cons, List.mem_append, List.not_mem_nil, or_false] at mem
    rcases mem with rfl | mem | rfl | (mem | mem) | rfl
    · decide
    · exact quote_printed k c mem
    · decide
    · exact dump_printed x c mem
    · exact dumpFields_printed xs c mem
    · decide

theorem dumpItems_printed : (items : List Json) → ∀ c ∈ dumpItems items, Printed c
  | [] => by simp [dumpItems]
  | x :: xs => by
    intro c mem
    simp only [dumpItems, List.mem_cons, List.mem_append] at mem
    rcases mem with rfl | mem | mem
    · decide
    · exact dump_printed x c mem
    · exact dumpItems_printed xs c mem

theorem dumpFields_printed : (fields : List (String × Json)) → ∀ c ∈ dumpFields fields, Printed c
  | [] => by simp [dumpFields]
  | (k, x) :: xs => by
    intro c mem
    simp only [dumpFields, List.mem_cons, List.mem_append] at mem
    rcases mem with rfl | mem | rfl | mem | mem
    · decide
    · exact quote_printed k c mem
    · decide
    · exact dump_printed x c mem
    · exact dumpFields_printed xs c mem

end

end WispGate.Data.Json
