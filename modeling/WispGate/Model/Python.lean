import WispGate.Data.Base64
import WispGate.Data.JsonText

/-! # What the programs take from their language

Exception classes, as far as some handler tells them apart, and the few conversions of JSON values
to texts and bytes that all modules share.
-/

namespace WispGate.Model

open Data

/-- The exception classes the handlers tell apart. JSON, base64 and encoding errors are values. -/
inductive PyError where
  | attribute
  | type
  | key
  | value
  | timeout
  | connection
  | crypto
deriving DecidableEq, Repr

def isAscii (text : String) : Bool := text.toList.all fun c => c.toNat < 128

/-- `value.encode("ascii")` on a JSON value. -/
def asciiText (value : Json) : Except PyError String :=
  match value.asStr? with
  | none => .error .attribute
  | some text => if isAscii text then .ok text else .error .value

/-- `mapping[key]`. -/
def member (value : Json) (key : String) : Except PyError Json :=
  if value.has key then .ok (value.get key) else .error .key

/-- `_b64`. -/
def b64 (data : Bytes) : String := String.ofList (Base64.encode data)

/-- `_unb64`. -/
def unb64 (value : String) : Except PyError Bytes :=
  match Base64.decode value with
  | some data => .ok data
  | none => .error .value

@[simp] theorem unb64_b64 (data : Bytes) : unb64 (b64 data) = .ok data := by
  simp [unb64, b64, Base64.decode_encode]

/-- `text.encode("utf-8")`. -/
def utf8 (text : String) : Bytes := text.toByteArray.data.toList

/-- `json.loads` on bytes. Texts in the other encodings it detects are refused here. -/
def loadsBytes (data : Bytes) : Except PyError Json :=
  match (String.fromUTF8? ⟨data.toArray⟩).bind Json.loads with
  | some value => .ok value
  | none => .error .value

theorem fromUTF8?_utf8 (text : String) : String.fromUTF8? ⟨(utf8 text).toArray⟩ = some text := by
  have valid : (ByteArray.mk text.toByteArray.data).IsValidUTF8 := text.isValidUTF8
  simp only [utf8, Array.toArray_toList]
  exact (dif_pos valid).trans rfl

theorem utf8_injective : Function.Injective utf8 := fun a b same => by
  have read := fromUTF8?_utf8 b
  rw [← same, fromUTF8?_utf8] at read
  exact Option.some.inj read

theorem utf8_flatMap (text : String) : utf8 text = text.toList.flatMap String.utf8EncodeChar := by
  unfold utf8
  rw [← String.utf8Encode_toList, List.utf8Encode]
  simp

/-- Only the character NUL is encoded with a zero byte. -/
theorem zero_notMem_utf8EncodeChar {c : Char} (solid : c.toNat ≠ 0) : (0 : UInt8) ∉ String.utf8EncodeChar c := by
  have nonzero : ∀ n, n % 256 ≠ 0 → (0 : UInt8) ≠ UInt8.ofNat n := by
    intro n rest same
    have values := congrArg UInt8.toNat same
    rw [UInt8.toNat_ofNat'] at values
    exact rest values.symm
  have value : c.val.toNat ≠ 0 := solid
  intro mem
  unfold String.utf8EncodeChar at mem
  dsimp only at mem
  split_ifs at mem
  · simp only [List.mem_cons, List.not_mem_nil, or_false] at mem
    exact nonzero _ (by omega) mem
  · simp only [List.mem_cons, List.not_mem_nil, or_false] at mem
    rcases mem with mem | mem
    · exact nonzero _ (by omega) mem
    · exact nonzero _ (by omega) mem
  · simp only [List.mem_cons, List.not_mem_nil, or_false] at mem
    rcases mem with mem | mem | mem
    · exact nonzero _ (by omega) mem
    · exact nonzero _ (by omega) mem
    · exact nonzero _ (by omega) mem
  · simp only [List.mem_cons, List.not_mem_nil, or_false] at mem
    rcases mem with mem | mem | mem | mem
    · exact nonzero _ (by omega) mem
    · exact nonzero _ (by omega) mem
    · exact nonzero _ (by omega) mem
    · exact nonzero _ (by omega) mem

/-- A text without NUL has no zero byte. -/
theorem zero_notMem_utf8 {text : String} (solid : ∀ c ∈ text.toList, c.toNat ≠ 0) : (0 : UInt8) ∉ utf8 text := by
  rw [utf8_flatMap, List.mem_flatMap]
  rintro ⟨c, mem, zero⟩
  exact zero_notMem_utf8EncodeChar (solid c mem) zero

theorem zero_notMem_dumps (value : Json) : (0 : UInt8) ∉ utf8 value.dumps := by
  apply zero_notMem_utf8
  rw [Json.dumps, String.toList_ofList]
  intro c mem
  have printed := (value.dump_printed c mem).1
  omega

/-- Characters of seven bits are bytes. -/
theorem utf8_ascii {text : String} (ascii : ∀ c ∈ text.toList, c.toNat < 128) :
    utf8 text = text.toList.map fun c => UInt8.ofNat c.toNat := by
  rw [utf8_flatMap]
  generalize text.toList = chars at ascii
  induction chars with
  | nil => rfl
  | cons c rest ih =>
    rw [List.forall_mem_cons] at ascii
    have single : String.utf8EncodeChar c = [UInt8.ofNat c.toNat] := by
      have small : c.val.toNat ≤ 127 := by
        have bound : c.val.toNat < 128 := ascii.1
        omega
      unfold String.utf8EncodeChar
      dsimp only
      rw [if_pos small]
      rfl
    rw [List.flatMap_cons, single, ih ascii.2]
    rfl

/-- A body takes as many bytes as it has characters. -/
theorem utf8_dumps_length (value : Json) : (utf8 value.dumps).length = value.dump.length := by
  have ascii : ∀ c ∈ value.dumps.toList, c.toNat < 128 := by
    rw [Json.dumps, String.toList_ofList]
    intro c mem
    have printed := (value.dump_printed c mem).2
    omega
  rw [utf8_ascii ascii, List.length_map, Json.dumps, String.toList_ofList]

/-- A body that is written out reads back unchanged. -/
@[simp] theorem loadsBytes_dumps (value : Json) : loadsBytes (utf8 value.dumps) = .ok value := by
  simp [loadsBytes, fromUTF8?_utf8, Json.loads_dumps]

end WispGate.Model
