import WispGate.Model.Android.Encoding
import WispGate.Soundness.Agreement

/-! # The two base64 codecs

The loop of Android's encoder writes the digits Python writes, and its decoder reads them although its
buffer has long overflowed. What can go wrong is a capacity: from half a gigabyte on its product leaves
the `Int`s, and comes back negative.
-/

namespace WispGate.Soundness.Encoding

open Data Model Model.Android E2EEnvelope

/-! ## Digits -/

theorem alphabet_toList : alphabet.toList = (List.range 64).map Base64.digit := by
  decide

theorem letter_of_lt {n : ℕ} (bound : n < 64) : letter n = some (Base64.digit n) := by
  rw [letter, alphabet_toList, List.getElem?_map, List.getElem?_range bound]
  rfl

theorem and_three (n : ℕ) : n &&& 3 = n % 4 := Nat.and_two_pow_sub_one_eq_mod n 2

theorem and_fifteen (n : ℕ) : n &&& 15 = n % 16 := Nat.and_two_pow_sub_one_eq_mod n 4

theorem and_sixtyThree (n : ℕ) : n &&& 63 = n % 64 := Nat.and_two_pow_sub_one_eq_mod n 6

/-- Bits moved past those of the other operand. -/
theorem shiftLeft_or {high low width : ℕ} (bound : low < 2 ^ width) :
    high <<< width ||| low = high * 2 ^ width + low := by
  rw [← Nat.shiftLeft_add_eq_or_of_lt bound, Nat.shiftLeft_eq]

section Rounds

variable {a b c : ℕ}

theorem values_three (first : a < 256) (second : b < 256) (third : c < 256) :
    (values a (some b) (some c)).mapM letter =
      some [Base64.digit (a / 4), Base64.digit (a % 4 * 16 + b / 16), Base64.digit (b % 16 * 4 + c / 64),
        Base64.digit (c % 64)] := by
  have shape : values a (some b) (some c) = [a / 4, a % 4 * 16 + b / 16, b % 16 * 4 + c / 64, c % 64] := by
    simp only [values, Option.map_some, Option.getD_some, Nat.shiftRight_eq_div_pow, and_three, and_fifteen,
      and_sixtyThree, List.cons_append, List.nil_append]
    rw [shiftLeft_or (by omega), shiftLeft_or (by omega)]
    rfl
  rw [shape]
  simp only [List.mapM_cons, List.mapM_nil, letter_of_lt (show a / 4 < 64 by omega),
    letter_of_lt (show a % 4 * 16 + b / 16 < 64 by omega), letter_of_lt (show b % 16 * 4 + c / 64 < 64 by omega),
    letter_of_lt (show c % 64 < 64 by omega)]
  rfl

theorem values_two (first : a < 256) (second : b < 256) :
    (values a (some b) none).mapM letter =
      some [Base64.digit (a / 4), Base64.digit (a % 4 * 16 + b / 16), Base64.digit (b % 16 * 4)] := by
  have shape : values a (some b) none = [a / 4, a % 4 * 16 + b / 16, b % 16 * 4] := by
    simp only [values, Option.map_some, Option.map_none, Option.getD_some, Option.getD_none,
      Nat.shiftRight_eq_div_pow, and_three, and_fifteen, List.cons_append, List.nil_append, List.append_nil]
    rw [shiftLeft_or (by omega), shiftLeft_or (by omega)]
    rfl
  rw [shape]
  simp only [List.mapM_cons, List.mapM_nil, letter_of_lt (show a / 4 < 64 by omega),
    letter_of_lt (show a % 4 * 16 + b / 16 < 64 by omega), letter_of_lt (show b % 16 * 4 < 64 by omega)]
  rfl

theorem values_one (first : a < 256) :
    (values a none none).mapM letter = some [Base64.digit (a / 4), Base64.digit (a % 4 * 16)] := by
  have shape : values a none none = [a / 4, a % 4 * 16] := by
    simp only [values, Option.map_none, Option.getD_none, Nat.shiftRight_eq_div_pow, and_three,
      List.append_nil]
    rw [shiftLeft_or (by omega)]
    rfl
  rw [shape]
  simp only [List.mapM_cons, List.mapM_nil, letter_of_lt (show a / 4 < 64 by omega),
    letter_of_lt (show a % 4 * 16 < 64 by omega)]
  rfl

end Rounds

/-- A character that has an index is the digit of it. -/
theorem digit_of_alphabetIndex {c : Char} {n : ℕ} (found : alphabetIndex c = some n) : n < 64 ∧ Base64.digit n = c := by
  have code {low high : Char} (range : low ≤ c ∧ c ≤ high) : low.toNat ≤ c.toNat ∧ c.toNat ≤ high.toNat := range
  unfold alphabetIndex at found
  split_ifs at found with standard
  unfold Base64.value? at found
  split_ifs at found with upper lower decimal dash underscore
  · obtain rfl := Option.some.inj found
    have bounds : 65 ≤ c.toNat ∧ c.toNat ≤ 90 := code upper
    refine ⟨by omega, ?_⟩
    rw [Base64.digit, if_pos (by omega), show 65 + (c.toNat - 65) = c.toNat by omega, Char.ofNat_toNat]
  · obtain rfl := Option.some.inj found
    have bounds : 97 ≤ c.toNat ∧ c.toNat ≤ 122 := code lower
    refine ⟨by omega, ?_⟩
    rw [Base64.digit, if_neg (by omega), if_pos (by omega), show 71 + (c.toNat - 71) = c.toNat by omega,
      Char.ofNat_toNat]
  · obtain rfl := Option.some.inj found
    have bounds : 48 ≤ c.toNat ∧ c.toNat ≤ 57 := code decimal
    refine ⟨by omega, ?_⟩
    rw [Base64.digit, if_neg (by omega), if_neg (by omega), if_pos (by omega), Nat.add_sub_cancel, Char.ofNat_toNat]
  · obtain rfl := Option.some.inj found
    obtain rfl | rfl := dash
    · exact ⟨by decide, by decide⟩
    · exact absurd (Or.inl rfl) standard
  · obtain rfl := Option.some.inj found
    obtain rfl | rfl := underscore
    · exact ⟨by decide, by decide⟩
    · exact absurd (Or.inr rfl) standard

/-- `alphabetIndex` is the position in the alphabet. -/
theorem alphabetIndex_eq (c : Char) : alphabetIndex c = alphabet.toList.idxOf? c := by
  rw [alphabet_toList]
  by_cases listed : c ∈ (List.range 64).map Base64.digit
  · obtain ⟨n, bound, rfl⟩ := List.mem_map.mp listed
    rw [List.mem_range] at bound
    rw [Agreement.alphabetIndex_digit bound, eq_comm, List.idxOf?, List.findIdx?_eq_some_iff_getElem]
    refine ⟨by simpa using bound, by simp, fun j before => ?_⟩
    simp only [List.getElem_map, List.getElem_range, beq_iff_eq]
    intro same
    have index := (Agreement.alphabetIndex_digit (before.trans bound)).symm.trans (same ▸ Agreement.alphabetIndex_digit bound)
    exact before.ne (Option.some.inj index)
  · rw [List.idxOf?_eq_none_iff.mpr listed, Option.eq_none_iff_forall_ne_some]
    intro n found
    obtain ⟨bound, same⟩ := digit_of_alphabetIndex found
    exact listed (List.mem_map.mpr ⟨n, List.mem_range.mpr bound, same⟩)

/-! ## The loop -/

theorem next_of_lt {data : Bytes} {index : ℕ} (inside : index < data.length) :
    next data index = (some data[index].toNat, index + 1) := by
  simp only [next, List.getElem?_eq_getElem inside]

theorem next_of_le {data : Bytes} {index : ℕ} (outside : data.length ≤ index) : next data index = (none, index) := by
  simp only [next, List.getElem?_eq_none outside]

theorem encodeFrom_end {data : Bytes} {index : ℕ} (outside : data.length ≤ index) : encodeFrom data index = some [] := by
  unfold encodeFrom
  rw [dif_neg (by omega)]

/-- The loop has appended the digits of what is left behind its index. -/
theorem encodeFrom_eq (data : Bytes) (index : ℕ) : encodeFrom data index = some (Base64.encode (data.drop index)) := by
  induction index using encodeFrom.induct data with
  | case1 index inside second third ih =>
    rw [encodeFrom, dif_pos inside]
    have la := data[index].toNat_lt
    rw [List.drop_eq_getElem_cons inside]
    by_cases more : index + 1 < data.length
    · have lb := data[index + 1].toNat_lt
      rw [List.drop_eq_getElem_cons more]
      by_cases full : index + 1 + 1 < data.length
      · have lc := data[index + 1 + 1].toNat_lt
        have behind : third.2 = index + 1 + 1 + 1 := by
          simp only [third, second, next_of_lt more, next_of_lt full]
        rw [behind] at ih
        rw [List.drop_eq_getElem_cons full]
        simp only [next_of_lt more, next_of_lt full, values_three la lb lc, ih]
        rfl
      · have ends : data.length ≤ index + 1 + 1 := by omega
        simp only [next_of_lt more, next_of_le ends, values_two la lb, encodeFrom_end ends, List.drop_eq_nil_of_le ends]
        rfl
    · have ends : data.length ≤ index + 1 := by omega
      simp only [next_of_le ends, values_one la, encodeFrom_end ends, List.drop_eq_nil_of_le ends]
      rfl
  | case2 index outside =>
    have ends : data.length ≤ index := by omega
    rw [encodeFrom_end ends, List.drop_eq_nil_of_le ends]
    rfl

theorem encode_length (data : Bytes) : (Base64.encode data).length = (data.length * 4 + 2) / 3 := by
  induction data using Base64.triples with
  | three a b c rest ih =>
    simp only [Base64.encode, List.length_cons, ih]
    omega
  | two a b => simp only [Base64.encode, List.length_cons, List.length_nil]
  | one a => simp only [Base64.encode, List.length_cons, List.length_nil]
  | empty => rfl

/-! ## Capacities -/

theorem tdiv_neg_iff {n : ℤ} {d : ℕ} (positive : 0 < d) : n.tdiv d < 0 ↔ n ≤ -d := by
  obtain nonneg | negative := Int.le_total 0 n
  · have quotient := Int.tdiv_nonneg nonneg (Int.natCast_nonneg d)
    omega
  · obtain ⟨m, rfl⟩ := Int.exists_eq_neg_ofNat negative
    have quotient : (m : ℤ).tdiv d = ((m / d : ℕ) : ℤ) := (Int.ofNat_tdiv m d).symm
    rw [Int.neg_tdiv, quotient, neg_lt_zero, Int.natCast_pos, Nat.div_pos_iff]
    omega

section Ranges

variable {n : ℕ}

theorem text_fits_iff (size : n < 2 ^ 31) : ¬wrapInt (n * 4 + 2) ≤ -3 ↔
    n < 2 ^ 29 ∨ n + 1 = 2 ^ 30 ∨ 2 ^ 30 ≤ n ∧ n < 2 ^ 30 + 2 ^ 29 ∨ n + 1 = 2 ^ 31 := by
  unfold wrapInt
  omega

/-- The decoder multiplies by three what the encoder had divided by it. -/
theorem bytes_fit (range : n < 2 ^ 29 ∨ 2 ^ 30 ≤ n ∧ n < 2 ^ 30 + 2 ^ 29) :
    ¬wrapInt (((n * 4 + 2) / 3 : ℕ) * 3) ≤ -4 := by
  have low : n * 4 ≤ (n * 4 + 2) / 3 * 3 := by omega
  have high : (n * 4 + 2) / 3 * 3 ≤ n * 4 + 2 := Nat.div_mul_le_self _ _
  unfold wrapInt
  generalize (n * 4 + 2) / 3 = digits at low high
  obtain small | large := range
  · have below : digits * 3 < 2 ^ 31 := by omega
    have same : ((digits : ℤ) * 3 + 2 ^ 31) % 2 ^ 32 = digits * 3 + 2 ^ 31 := by omega
    omega
  · have above : 2 ^ 32 ≤ digits * 3 := by omega
    have below : digits * 3 < 2 ^ 32 + 2 ^ 31 := by omega
    have same : ((digits : ℤ) * 3 + 2 ^ 31) % 2 ^ 32 = digits * 3 + 2 ^ 31 - 2 ^ 32 := by omega
    omega

end Ranges

theorem textCapacity_neg_iff {data : Bytes} :
    textCapacity data < 0 ↔ wrapInt (data.length * 4 + 2) ≤ -3 := tdiv_neg_iff (by omega : 0 < 3)

theorem bytesCapacity_neg_iff {value : String} :
    bytesCapacity value < 0 ↔ wrapInt (value.length * 3) ≤ -4 := tdiv_neg_iff (by omega : 0 < 4)

theorem b64_length (data : Bytes) : (b64 data).length = (data.length * 4 + 2) / 3 := by
  rw [b64, String.length_ofList, encode_length]

theorem encode64_eq (data : Bytes) : encode64 data =
    if wrapInt (data.length * 4 + 2) ≤ -3 ∨ 2 ^ 31 ≤ (data.length * 4 + 2) / 3 then none else some (b64 data) := by
  have written : encodeFrom data 0 = some (Base64.encode data) := encodeFrom_eq data 0
  unfold encode64
  rw [written]
  simp only [textCapacity_neg_iff, Option.bind_eq_bind, Option.bind_some, encode_length]
  by_cases refused : wrapInt (data.length * 4 + 2) ≤ -3
  · rw [if_pos refused, if_pos (Or.inl refused)]
  · rw [if_neg refused]
    by_cases fits : (data.length * 4 + 2) / 3 < 2 ^ 31
    · rw [if_pos fits, if_neg (by omega)]
      rfl
    · rw [if_neg fits, if_pos (by omega)]

/-! ## Round trips -/

/-- The encoder writes what Python writes, and either decoder reads the array back. -/
def RoundTrips (data : Bytes) : Prop :=
  encode64 data = some (b64 data) ∧ (encode64 data).bind E2EEnvelope.decode64 = some data ∧
    (encode64 data).map unb64 = some (.ok data)

/-- An array makes both round trips exactly where its capacities are computed nonnegative and its text
is a string. -/
theorem roundTrips_iff (data : Bytes) (size : data.length < 2 ^ 31) :
    RoundTrips data ↔ data.length < 2 ^ 29 ∨ 2 ^ 30 ≤ data.length ∧ data.length < 2 ^ 30 + 2 ^ 29 := by
  constructor
  · rintro ⟨written, read, -⟩
    have allocates : ¬(wrapInt (data.length * 4 + 2) ≤ -3 ∨ 2 ^ 31 ≤ (data.length * 4 + 2) / 3) := by
      intro refused
      rw [encode64_eq, if_pos refused] at written
      cases written
    obtain ⟨starts, fits⟩ := not_or.mp allocates
    obtain small | odd | large | last := (text_fits_iff size).mp starts
    · exact Or.inl small
    · -- the text of this one array can be written, but not read
      have refused : bytesCapacity (b64 data) < 0 := by
        rw [bytesCapacity_neg_iff, b64_length, show data.length = 2 ^ 30 - 1 by omega]
        decide
      rw [written, Option.bind_some, E2EEnvelope.decode64, if_pos refused] at read
      cases read
    · exact Or.inr large
    · omega
  · intro range
    have starts : ¬wrapInt (data.length * 4 + 2) ≤ -3 := (text_fits_iff size).mpr (by omega)
    have fits : ¬2 ^ 31 ≤ (data.length * 4 + 2) / 3 := by omega
    have written : encode64 data = some (b64 data) := by
      rw [encode64_eq, if_neg (not_or.mpr ⟨starts, fits⟩)]
    have reads : ¬bytesCapacity (b64 data) < 0 := by
      rw [bytesCapacity_neg_iff, b64_length]
      exact bytes_fit range
    refine ⟨written, ?_, ?_⟩
    · rw [written, Option.bind_some, E2EEnvelope.decode64, if_neg reads]
      exact Agreement.decode64_b64 data
    · rw [written, Option.map_some, unb64_b64]

/-- Four bytes leave two digits over. -/
theorem roundTrips_four : RoundTrips [0, 255, 128, 7] :=
  (roundTrips_iff [0, 255, 128, 7] (by decide)).mpr (by decide)

theorem not_roundTrips_of_length {data : Bytes} (length : data.length = 2 ^ 29) : ¬RoundTrips data := by
  rintro ⟨written, -, -⟩
  have refused : wrapInt (data.length * 4 + 2) ≤ -3 := by
    rw [length]
    decide
  rw [encode64_eq, if_pos (Or.inl refused)] at written
  cases written

/-- Half a gigabyte of zeros is refused: the product is the least `Int`. -/
theorem zeros_refused : ¬∀ data : Bytes, data.length < 2 ^ 31 → RoundTrips data := by
  intro all
  have length : (List.replicate (2 ^ 29) (0 : UInt8)).length = 2 ^ 29 := List.length_replicate
  exact not_roundTrips_of_length length (all _ (by rw [length]; decide))

end WispGate.Soundness.Encoding
