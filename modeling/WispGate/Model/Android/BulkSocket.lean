import WispGate.Model.Android.FileAction
import WispGate.Model.Android.InboundAssets

/-! # Receiving an asset on Android

`BulkSocketTransport.receive` on the bytes a socket delivers. How the socket splits them is part of
the input: a read takes at most one segment. JSON, base64 and the cipher of the platform come from
outside, and an exception is `none`. The destination is a fresh file, and deleting it succeeds.
-/

namespace WispGate.Model.Android

open Data

/-- What the platform gives a receiver: `optBoolean` on other values, `JSONObject` on a text, the
decoder of URL-safe base64, and a cipher that works in pieces and may return null for output. -/
structure Receiver extends Platform where
  boolean : Json → Bool
  parse : Bytes → Option Json
  decodeUrl : String → Option Bytes
  Cipher : Type
  start : Bytes → Bytes → Bytes → Option Cipher
  update : Cipher → Bytes → Option Bytes × Cipher
  doFinal : Cipher → Option (Option Bytes)

structure ReceivedAsset where
  id : String
  name : String
  contentType : String
  size : ℤ
deriving DecidableEq

/-- What is left of a reception: the header it sent, what it returned, and the destination's content. -/
structure Reception where
  sent : List Json := []
  asset : Option ReceivedAsset := none
  file : Option Bytes := none
deriving DecidableEq

/-! ## The socket -/

/-- What a socket has yet to deliver, in the segments its reads will see. -/
abbrev Segments := List Bytes

namespace Segments

/-- `read`: at least one byte and at most `count`, or the end of the stream. -/
def read (count : ℕ) : Segments → Option (Bytes × Segments)
  | [] => none
  | [] :: rest => read count rest
  | (b :: segment) :: rest => some ((b :: segment).take count, (b :: segment).drop count :: rest)

theorem read_length {count : ℕ} {input rest : Segments} {chunk : Bytes} (positive : 0 < count)
    (success : input.read count = some (chunk, rest)) : 0 < chunk.length ∧ chunk.length ≤ count := by
  induction input with
  | nil => cases success
  | cons segment more ih =>
    cases segment with
    | nil => exact ih success
    | cons b segment =>
      obtain ⟨rfl, -⟩ := Prod.mk.inj (Option.some.inj success)
      rw [List.length_take, List.length_cons]
      omega

/-- The loop of `readJson`, with the room that is left in its buffer. -/
def readText : ℕ → Segments → Option (Bytes × Segments)
  | room, input =>
    match input.read 1 with
    | some ([next], rest) =>
      if next = 10 then some ([], rest)
      else match room with
        | 0 => none
        | room + 1 => (readText room rest).map fun more => (next :: more.1, more.2)
    | _ => none

end Segments

/-! ## The transfer -/

namespace Receiver

variable (r : Receiver)

def optBoolean (value : Json) (name : String) : Bool :=
  match value.get name with
  | .bool flag => flag
  | other => r.boolean other

/-- A JSON answer of the relay that is positive and of the given type. -/
def confirms (type : String) (text : Bytes) : Bool :=
  (r.parse text).any fun value => r.optBoolean value "ok" && r.optString value "type" "" == type

/-- `requireReady` and `requireComplete`. -/
def requireAnswer (type : String) (input : Segments) : Option Segments :=
  match input.readText (64 * 1024) with
  | none => none
  | some (text, rest) => if r.confirms type text then some rest else none

/-- The loop over the ciphertext: the file so far, the bytes it counts, the cipher and the rest of
the input. -/
def copy (remaining : ℕ) (cipher : r.Cipher) (file : Bytes) (written : ℕ) (input : Segments) :
    Option (Bytes × ℕ × r.Cipher × Segments) :=
  if zero : remaining = 0 then some (file, written, cipher, input)
  else match success : input.read (min (256 * 1024) remaining) with
    | none => none
    | some (chunk, rest) =>
      match r.update cipher chunk with
      | (none, _) => none
      | (some output, cipher) => copy (remaining - chunk.length) cipher (file ++ output) (written + chunk.length) rest
termination_by remaining
decreasing_by
  have progress := (Segments.read_length (by omega) success).1
  omega

/-- What `receive` does on a connected socket. -/
def transfer (sender recipient sessionId : String) (sessionKey : Bytes) (offer : InboundAssetOffer)
    (input : Segments) : Option (ReceivedAsset × Bytes) := do
  let input ← r.requireAnswer "bulk_ready" input
  let nonce ← r.decodeUrl offer.nonce
  let cipher ← r.start sessionKey nonce (offer.aad sessionId sender recipient)
  let (file, written, cipher, input) ← r.copy offer.ciphertextSize.toNat cipher [] 0 input
  let final ← r.doFinal cipher
  let last := final.getD []
  if ((written + last.length : ℕ) : ℤ) = offer.size then
    let _ ← r.requireAnswer "bulk_complete" input
    return (⟨offer.id, offer.name, offer.contentType, offer.size⟩, file ++ last)
  else none

/-- `BulkSocketTransport.receive`, with the directory that can be had or not and the connection that
succeeds or not. -/
def receive (directory : Bool) (socket : Option Segments) (sender recipient sessionId : String) (sessionKey : Bytes)
    (offer : InboundAssetOffer) : Reception :=
  if ¬ directory then {}
  else match socket with
    | none => {}
    | some input =>
      let sent := [writeConnect "receiver" sessionId offer.transferId recipient sender (.int offer.ciphertextSize)]
      match r.transfer sender recipient sessionId sessionKey offer input with
      | none => { sent := sent }
      | some (asset, file) => { sent := sent, asset := some asset, file := some file }

end Receiver

end WispGate.Model.Android
