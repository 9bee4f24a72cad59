import WispGate.Data.Pieces
import WispGate.Model.Android.BulkSocket
import WispGate.Model.Upload

/-! # The byte loops of an upload

`encryptTo` on the reads of a file, `_copy_bulk_ciphertext` on what arrives at the relay, and
`_receive_bulk_file` from the readiness of its connection on. Who cuts the streams into pieces is the
environment. AES-GCM in pieces comes from outside; where `Cipher.update` returns null it returns nothing.
-/

namespace WispGate.Model.BulkStreams

open Data Android Wisp Upload

/-- The encrypting half: `finish` gives what is left of the ciphertext, and the tag. -/
structure Encryptor where
  State : Type
  start : Bytes → Bytes → Bytes → Except PyError State
  update : State → Bytes → Bytes × State
  finish : State → Bytes

/-- The decrypting half, which is given the tag at the end. -/
structure Decryptor where
  State : Type
  start : Bytes → Bytes → Bytes → Except PyError State
  update : State → Bytes → Bytes × State
  finalizeWithTag : State → Bytes → Except PyError Bytes

def blockSize : ℕ := 256 * 1024

theorem blockSize_pos : 0 < blockSize := by decide

/-- `encryptTo` on the reads of its file, as long as each has returned something: the bytes written to the
socket, and the length it returns. -/
def encryptTo (e : Encryptor) (upload : PreparedBulkUpload) (reads : List Bytes) : Bytes × Except PyError ℕ :=
  match unb64 upload.nonce with
  | .error cause => ([], .error cause)
  | .ok nonce =>
    match e.start upload.contentKey nonce upload.aad with
    | .error cause => ([], .error cause)
    | .ok state =>
      let (output, state) := feed e.update state reads
      let written := output ++ e.finish state
      (written, if written.length = upload.ciphertextSize then .ok written.length else .error .value)

/-- `_copy_bulk_ciphertext`: the chunks written to the receiver, and what the sender's stream still holds
unless it ended early. -/
def copyBulkCiphertext (length : ℕ) (arrived : Segments) : List Bytes × Option Segments :=
  readBlocks blockSize blockSize_pos length arrived

/-- The loop of `_receive_bulk_file` over the ciphertext before the tag. -/
def receiveChunks (d : Decryptor) (remaining : ℕ) (state : d.State) (written : Bytes) (arrived : Segments) :
    Option (Bytes × d.State × Segments) :=
  if _zero : remaining = 0 then some (written, state, arrived)
  else match takeExactly (min blockSize remaining) arrived with
    | none => none
    | some (chunk, rest) =>
      let (plaintext, state) := d.update state chunk
      receiveChunks d (remaining - min blockSize remaining) state (written ++ plaintext) rest
termination_by remaining
decreasing_by
  have positive := blockSize_pos
  omega

variable (job : Job) (d : Decryptor) (hkdf : Hkdf)

/-- `_receive_bulk_file` on the stream behind its readiness line: the content of the file. -/
def receiveBulkFile (incoming : IncomingFile) (arrived : Segments) : Except PyError Bytes :=
  match receiveNonce incoming, job.session.bulkKey hkdf job.transferId false with
  | .ok nonce, .ok fileKey =>
    match d.start fileKey nonce (bulkAad job.session.sessionId job.transfer.sender job.clientId job.transferId
        incoming.id incoming.size) with
    | .error e => .error e
    | .ok state =>
      match receiveChunks d (ciphertextSize incoming - 16) state [] arrived with
      | none => .error .connection
      | some (written, state, rest) =>
        match takeExactly 16 rest with
        | none => .error .connection
        | some (tag, _) =>
          match d.finalizeWithTag state tag with
          | .error e => .error e
          | .ok final =>
            if (written ++ final).length = incoming.size then .ok (written ++ final) else .error .value
  | .error e, _ => .error e
  | _, .error e => .error e

/-- The files of a transfer one after the other, each on a stream of its own. -/
def receiveFiles : List IncomingFile → List Segments → Except PyError (List Bytes)
  | incoming :: files, arrived :: streams =>
    match receiveBulkFile job d hkdf incoming arrived with
    | .error e => .error e
    | .ok content => (receiveFiles files streams).map (content :: ·)
  | [], _ => .ok []
  | _ :: _, [] => .error .connection

/-- The first half of `_receive_bulk_transfer`: what the action callback is run with. -/
def receiveBulkTransfer (streams : List Segments) : Except PyError (Dict String (List UploadedFile)) :=
  (receiveFiles job d hkdf (State.incoming job) streams).map fun stored => grouped (exposed (State.incoming job) stored)

end WispGate.Model.BulkStreams
