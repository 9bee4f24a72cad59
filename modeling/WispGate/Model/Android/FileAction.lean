import WispGate.Model.Session

/-! # File actions on Android

A staged file action, the uploads that are prepared from it, the body that announces them, and the
header that opens a bulk connection. A staged file is complete: its size is the length of its
content.
-/

namespace WispGate.Model.Android

open Data

structure StagedUpload where
  id : String
  field : String
  name : String
  contentType : String
  content : Bytes
deriving DecidableEq

def StagedUpload.size (file : StagedUpload) : ℕ := file.content.length

structure StagedFileAction where
  transferId : String
  actionData : Json
  files : List StagedUpload
deriving DecidableEq

structure PreparedBulkUpload where
  file : StagedUpload
  sender : String
  recipient : String
  sessionId : String
  transferId : String
  nonce : String
  contentKey : Bytes
deriving DecidableEq

namespace PreparedBulkUpload

def ciphertextSize (upload : PreparedBulkUpload) : ℕ := upload.file.size + 16

def aad (upload : PreparedBulkUpload) : Bytes :=
  bulkAad upload.sessionId upload.sender upload.recipient upload.transferId upload.file.id upload.file.size

/-- `encryptTo`: what is written to the socket. -/
def encryptTo (upload : PreparedBulkUpload) (aead : Aead) : Except PyError Bytes :=
  match unb64 upload.nonce with
  | .error e => .error e
  | .ok nonce =>
    match aead.encrypt upload.contentKey nonce upload.file.content upload.aad with
    | .error e => .error e
    | .ok ciphertext => if ciphertext.length = upload.ciphertextSize then .ok ciphertext else .error .value

end PreparedBulkUpload

/-- `BulkFileCrypto.prepare`, with the nonces it draws. -/
def prepare (sender recipient sessionId : String) (sessionKey : Bytes) (transferId : String)
    (files : List StagedUpload) (nonces : List Bytes) : List PreparedBulkUpload :=
  List.zipWith (fun file nonce => ⟨file, sender, recipient, sessionId, transferId, b64 nonce, sessionKey⟩) files nonces

/-- The manifest of an upload in `FileActionProtocol.begin`. -/
def manifestOf (upload : PreparedBulkUpload) : Json :=
  .obj [("id", .str upload.file.id), ("field", .str upload.file.field), ("name", .str upload.file.name),
    ("content_type", .str upload.file.contentType), ("size", .int upload.file.size),
    ("bulk", .obj [("algorithm", .str "SESSION-A256GCM-v2"), ("nonce", .str upload.nonce),
      ("ciphertext_size", .int upload.ciphertextSize)])]

/-- `FileActionProtocol.begin`. -/
def beginBody (wispId : String) (action : StagedFileAction) (prepared : List PreparedBulkUpload) : Json :=
  .obj [("wisp_id", .str wispId), ("action", .str "file_begin"), ("operation_id", .str action.transferId),
    ("transfer_id", .str action.transferId), ("action_data", action.actionData),
    ("files", .arr (prepared.map manifestOf))]

/-- The header of a bulk connection, as both kinds of endpoint write it. -/
def writeConnect (role sessionId transferId sender recipient : String) (length : Json) : Json :=
  .obj [("type", .str "bulk_connect"), ("role", .str role), ("session_id", .str sessionId),
    ("transfer_id", .str transferId), ("sender", .str sender), ("recipient", .str recipient), ("length", length)]

end WispGate.Model.Android
