import WispGate.Model.Android.Handshake

/-! # The base64 codec of Android

`encode64` and `decode64` of `E2EEnvelope`, with the capacities they ask for. Capacities are computed
in `Int`s, and a negative one is refused by the constructor it is given to. Lengths of arrays and
strings are `Int`s as well.
-/

namespace WispGate.Model.Android

open Data

/-- The value of an `Int` computation. -/
def wrapInt (n : ℤ) : ℤ := (n + 2 ^ 31) % 2 ^ 32 - 2 ^ 31

namespace E2EEnvelope

def alphabet : String := "ABCDEFGHIJKLMNOPQRSTUVWXYZabcdefghijklmnopqrstuvwxyz0123456789-_"

/-- `alphabet[value]`. -/
def letter (value : ℕ) : Option Char := alphabet.toList[value]?

/-- `if (index < data.size) data[index++].toInt() and 255 else -1`, and the index behind it. -/
def next (data : Bytes) (index : ℕ) : Option ℕ × ℕ :=
  match data[index]? with
  | some byte => (some byte.toNat, index + 1)
  | none => (none, index)

/-- What one round of the loop looks up. -/
def values (first : ℕ) (second third : Option ℕ) : List ℕ :=
  [first >>> 2, (first &&& 3) <<< 4 ||| (second.map (· >>> 4)).getD 0] ++
    (match second with
      | some second => [(second &&& 15) <<< 2 ||| (third.map (· >>> 6)).getD 0]
      | none => []) ++
    match third with
      | some third => [third &&& 63]
      | none => []

theorem next_le (data : Bytes) (index : ℕ) : index ≤ (next data index).2 := by
  unfold next
  split <;> simp

/-- The loop of `encode64` from an index on. -/
def encodeFrom (data : Bytes) (index : ℕ) : Option (List Char) :=
  if _h : index < data.length then
    let first := data[index].toNat
    let second := next data (index + 1)
    let third := next data second.2
    do
      let digits ← (values first second.1 third.1).mapM letter
      let rest ← encodeFrom data third.2
      return digits ++ rest
  else some []
termination_by data.length - index
decreasing_by
  have second := next_le data (index + 1)
  have third := next_le data (next data (index + 1)).2
  omega

/-- `StringBuilder((data.size * 4 + 2) / 3)`. -/
def textCapacity (data : Bytes) : ℤ := (wrapInt (data.length * 4 + 2)).tdiv 3

/-- A builder holds as many characters as an `Int` counts. -/
def encode64 (data : Bytes) : Option String := do
  if textCapacity data < 0 then none
  else
    let digits ← encodeFrom data 0
    if digits.length < 2 ^ 31 then some (String.ofList digits) else none

/-- `ByteArrayOutputStream(value.length * 3 / 4)`. -/
def bytesCapacity (value : String) : ℤ := (wrapInt (value.length * 3)).tdiv 4

def decode64 (value : String) : Option Bytes :=
  if bytesCapacity value < 0 then none else Android.decode64 value

end E2EEnvelope

end WispGate.Model.Android
