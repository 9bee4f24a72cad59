import WispGate.Data.Dict
import WispGate.Model.Session

/-! # Operations of a Wisp

What a Wisp remembers about mutating operations: the file transfers under way, the inline actions
under way, and the answers of completed ones. The checks of a file action and the choice that the
dispatcher makes about a body are functions of these tables; the tasks that act on the choice are
in the runtime.
-/

namespace WispGate.Model.Wisp

open Data

def maxFilesPerAction : ℕ := 32

def maxFileActionBytes : ℕ := 256 * 1024 * 1024

def maxActiveTransfersPerSender : ℕ := 4

def fileTransferTimeoutSeconds : ℕ := 10 * 60

def completedOperationTtlSeconds : ℕ := 15 * 60

/-- A peer and the operation id it chose. -/
abbrev Key := String × String

instance : LawfulBEq Key := inferInstance

/-! ## Transfers -/

structure IncomingFile where
  id : String
  field : String
  name : String
  contentType : String
  size : ℕ
  path : String
  received : ℕ := 0
  bulk : Json
deriving DecidableEq

/-- Where the task of a transfer is suspended. -/
inductive Phase where
  /-- Scheduled, nothing run yet. -/
  | created
  /-- In `_receive_bulk_file` for the file at an index. -/
  | receiving (index : ℕ)
  /-- In the thread of the action callback. -/
  | calling
  /-- In the delivery of the outcome. -/
  | reporting (body : Option Json)
deriving DecidableEq

structure Task where
  phase : Phase := .created
  cancelled : Bool := false
deriving DecidableEq

structure Transfer where
  sender : String
  wisp : String
  actionData : Json
  files : Dict String IncomingFile
  createdAt : ℕ
  task : Option Task := none
deriving DecidableEq

/-- The bytes a transfer reserves. -/
def Transfer.bytes (transfer : Transfer) : ℕ := (transfer.files.values.map (·.size)).sum

/-- What a Wisp remembers about operations. -/
structure Tables where
  transfers : Dict Key Transfer := .empty
  completed : Dict Key (ℕ × Json) := .empty
  active : List Key := []
deriving DecidableEq

/-! ## Bodies -/

def transferResponse (wisp : String) (transfer : List (String × Json)) : Json :=
  .obj [("wisp_id", .str wisp), ("transfer", .obj transfer)]

def operationStatusBody (wisp status operationId : String) (error : Option String := none) : Json :=
  .obj [("wisp_id", .str wisp), ("operation", .obj ([("type", .str status), ("operation_id", .str operationId)] ++
    (error.map fun text => ("error", Json.str text)).toList))]

def responseBody (wisp : String) (payload : Json) : Json :=
  .obj [("wisp_id", .str wisp), ("response", payload)]

/-- `dict(completed[1])` with `setdefault("operation", …)`. -/
def resumedBody (retained : Json) (operationId : String) : Json :=
  match retained with
  | .obj fields =>
    if retained.has "operation" then retained
    else .obj (fields ++ [("operation", .obj [("type", .str "completed"), ("operation_id", .str operationId)])])
  | other => other

/-! ## Results of callbacks -/

structure Asset where
  id : String
  name : String
  contentType : String
  size : ℤ
deriving DecidableEq

/-- How a callback of a Wisp ends. -/
inductive Result where
  | dict (payload : Json)
  | response (html contentType : String) (assets : List Asset)
  | raised (error : PyError) (cause : String)
deriving DecidableEq

namespace Result

/-- The payload of a result without assets. -/
def payload : Result → Json
  | .dict payload => payload
  | .response html contentType _ => .obj [("content_type", .str contentType), ("html", .str html)]
  | .raised _ _ => .null

def assets : Result → List Asset
  | .response _ _ assets => assets
  | _ => []

end Result

/-- `_retained_response_body`. -/
def retainedResponseBody (wisp : String) (state : Result) : Option Json :=
  if state.assets = [] then some (responseBody wisp state.payload) else none

def assetIdChar (c : Char) : Bool := c.isAlphanum || c == '.' || c == '_' || c == '~' || c == '-'

/-- A well-formed asset, by itself. -/
def Asset.valid (asset : Asset) : Bool :=
  asset.id ≠ "" && asset.id.toList.all assetIdChar && asset.id ≠ "." && asset.id ≠ ".." && asset.id.length ≤ 128 &&
    asset.name ≠ "" && asset.name.length ≤ 512 && asset.contentType ≠ "" && asset.contentType.length ≤ 128 &&
    0 ≤ asset.size

/-- How `_send_wisp_response` ends for a response with assets: the checks raise a value error, and
what passes them is prepared as items that lack the `ticket` the manifest asks for. -/
def sendAssetsError (assets : List Asset) (hasSession : Bool) : PyError :=
  if ¬ (1 ≤ assets.length ∧ assets.length ≤ maxFilesPerAction) then .value
  else if (maxFileActionBytes : ℤ) < (assets.map (·.size)).sum then .value
  else if ¬ (assets.all Asset.valid ∧ (assets.map (·.id)).Nodup) then .value
  else if ¬ hasSession then .value
  else .attribute

/-- An element of a sequence that a dictionary is built from. -/
def pairError (item : Json) : Option PyError :=
  match item.iterate? with
  | some [key, _] => if key.hashKey?.isNone then some .type else none
  | some _ => some .value
  | none => some .type

/-- What `dict(value)` raises, if it raises: a `WispAction` is built this way from its data. -/
def dictError : Json → Option PyError
  | .obj _ => none
  | value =>
    match value.iterate? with
    | some items => items.findSome? pairError
    | none => some .type

/-! ## Remembering -/

namespace Tables

/-- `_remember_completed_operation`. -/
def remember (t : Tables) (sender operationId : String) (body : Json) (now : ℕ) : Tables :=
  if operationId = "" then t
  else { t with completed := t.completed.insert (sender, operationId) (now, body) }

/-- `_expire_completed_operations`. -/
def expireCompleted (t : Tables) (now : ℕ) : Tables :=
  { t with completed := t.completed.filter fun _ value => decide (now ≤ value.1 + completedOperationTtlSeconds) }

/-- The transfers that `_expire_file_transfers` finds overdue, in the order of the table. -/
def overdue (t : Tables) (now : ℕ) : List (Key × Transfer) :=
  t.transfers.entries.filter fun entry => decide (entry.2.createdAt + fileTransferTimeoutSeconds < now)

/-- The first loop of `_expire_file_transfers`: remember what happened to the operation and cancel
its task. -/
def expire (t : Tables) (entry : Key × Transfer) (now : ℕ) : Tables :=
  let remembered := t.remember entry.1.1 entry.1.2 (operationStatusBody entry.2.wisp "indeterminate" entry.1.2) now
  { remembered with transfers := remembered.transfers.modify entry.1 fun transfer =>
      { transfer with task := transfer.task.map fun task => { task with cancelled := true } } }

/-- The last loop of `_expire_file_transfers`. -/
def drop (t : Tables) (keys : List Key) : Tables :=
  { t with transfers := keys.foldl Dict.erase t.transfers }

end Tables

/-! ## File actions -/

section FileAction

variable (printable : Char → Bool)

/-- One manifest of a file action: the file it announces, when the bytes before it and the ids
taken so far allow it. -/
def acceptManifest (reserved total : ℕ) (files : Dict String IncomingFile) (index : ℕ) (manifest : Json) :
    Except String IncomingFile :=
  let fileId := (manifest.getD "id" (.str "")).display printable
  let field := (manifest.getD "field" (.str "")).display printable
  let name := (manifest.getD "name" (.str "")).display printable
  let contentType := (manifest.getD "content_type" (.str "application/octet-stream")).display printable
  if ¬ manifest.isObj then .error "invalid file manifest"
  else if fileId = "" ∨ 128 < fileId.length ∨ files.contains fileId = true ∨ field = "" ∨ 128 < field.length ∨
      name = "" ∨ 512 < name.length ∨ 128 < contentType.length then .error "invalid file manifest"
  else match (manifest.get "size").asInt? with
    | some (.ofNat size) =>
      if maxFileActionBytes < reserved + (total + size) then .error "file action exceeds the configured size limit"
      else if ¬ (manifest.get "bulk").isObj then .error "file manifest requires bulk transport metadata"
      else if ((manifest.get "bulk").get "algorithm").pyEq (.str "SESSION-A256GCM-v2") = false ∨
          ((manifest.get "bulk").get "nonce").isStr = false ∨ ((manifest.get "bulk").get "nonce").truthy = false ∨
          ((manifest.get "bulk").get "ciphertext_size").pyEq (.int (size + 16)) = false then
        .error "invalid bulk transport metadata"
      else .ok ⟨fileId, field, name, contentType, size, toString index ++ ".upload", 0, manifest.get "bulk"⟩
    | _ => .error "invalid file manifest"

/-- The loop over the manifests of a file action. -/
def acceptManifests (reserved : ℕ) :
    ℕ → Dict String IncomingFile → ℕ → List Json → Except String (Dict String IncomingFile)
  | _, files, _, [] => .ok files
  | total, files, index, manifest :: rest =>
    match acceptManifest printable reserved total files index manifest with
    | .error text => .error text
    | .ok file => acceptManifests reserved (total + file.size) (files.insert file.id file) (index + 1) rest

/-- `str(body.get("transfer_id", ""))`. -/
def transferIdOf (body : Json) : String := (body.getD "transfer_id" (.str "")).display printable

/-- `_begin_file_action`: the tables with the new transfer and the answer, or the text of the value
error. -/
def beginFileAction (t : Tables) (sender wisp : String) (body : Json) (now : ℕ) : Except String (Tables × Json) :=
  let transferId := transferIdOf printable body
  let actionData := body.getD "action_data" (.obj [])
  match (body.get "files").asArr? with
  | none => .error "file action requires a transfer id and at least one file"
  | some manifests =>
    if transferId = "" ∨ manifests = [] then .error "file action requires a transfer id and at least one file"
    else if ¬ actionData.isObj then .error "file action data must be an object"
    else if maxFilesPerAction < manifests.length then .error "too many files in one action"
    else if t.transfers.contains (sender, transferId) then .error "transfer id is already active"
    else if maxActiveTransfersPerSender ≤ (t.transfers.keys.filter fun key => key.1 = sender).length then
      .error "too many active file transfers"
    else match acceptManifests printable (t.transfers.values.map Transfer.bytes).sum 0 .empty 0 manifests with
      | .error text => .error text
      | .ok files =>
        .ok ({ t with transfers := t.transfers.insert (sender, transferId) ⟨sender, wisp, actionData, files, now, none⟩ },
          transferResponse wisp [("type", .str "ready"), ("transfer_id", .str transferId)])

end FileAction

/-! ## Dispatch -/

/-- What the dispatcher does about a body once the sweep is over. -/
inductive Choice where
  /-- No Wisp of that id: nothing is sent. -/
  | ignored
  /-- The Wisp id is no dictionary key. -/
  | unhashable
  /-- The body of the answer. -/
  | answer (body : Json)
  /-- Run the state callback of a Wisp. -/
  | state (wisp : String)
  /-- Run the action callback of a Wisp on data, for an operation. -/
  | action (wisp operationId : String) (actionData : Json)
  /-- Answer a file action; its transfer, if it was accepted, is in the tables. -/
  | fileBegin (transferId : String) (body : Json)
deriving DecidableEq

section Dispatch

variable (printable : Char → Bool) (wisps : List String)

/-- The branch for `operation_resume`. -/
def resume (t : Tables) (sender wisp : String) (body : Json) : Choice :=
  let operationId := (body.getD "operation_id" (.str "")).display printable
  match t.completed.get? (sender, operationId) with
  | some (_, retained) => .answer (resumedBody retained operationId)
  | none =>
    if t.transfers.contains (sender, operationId) = true ∨ (sender, operationId) ∈ t.active then
      .answer (operationStatusBody wisp "running" operationId)
    else .answer (operationStatusBody wisp "expired" operationId)

/-- The branch for `file_begin`. -/
def fileBegin (t : Tables) (sender wisp : String) (body : Json) (now : ℕ) : Tables × Choice :=
  let transferId := transferIdOf printable body
  match t.completed.get? (sender, transferId) with
  | some (_, retained) => (t, .answer retained)
  | none =>
    if t.transfers.contains (sender, transferId) then (t, .answer (operationStatusBody wisp "running" transferId))
    else match beginFileAction printable t sender wisp body now with
      | .ok (t', response) => (t', .fileBegin transferId response)
      | .error text => (t, .fileBegin transferId (transferResponse wisp
          [("type", .str "error"), ("transfer_id", .str transferId), ("error", .str text)]))

/-- The branch for every other action. It does not look at the transfers. -/
def inlineAction (t : Tables) (sender wisp : String) (body : Json) : Tables × Choice :=
  match (body.get "operation_id").asStr? with
  | none => (t, .answer (operationStatusBody wisp "invalid" "" (some "mutating action requires a stable operation_id")))
  | some operationId =>
    if operationId = "" ∨ 128 < operationId.length then
      (t, .answer (operationStatusBody wisp "invalid" "" (some "mutating action requires a stable operation_id")))
    else match t.completed.get? (sender, operationId) with
      | some (_, retained) => (t, .answer retained)
      | none =>
        if (sender, operationId) ∈ t.active then (t, .answer (operationStatusBody wisp "running" operationId))
        else ({ t with active := (sender, operationId) :: t.active },
          .action wisp operationId (body.getD "action_data" (.obj [])))

/-- `_dispatch_session_body` from the end of the sweep to its first suspension. -/
def choose (t : Tables) (sender : String) (body : Json) (now : ℕ) : Tables × Choice :=
  let t := t.expireCompleted now
  match (body.get "wisp_id").hashKey? with
  | none => (t, .unhashable)
  | some (.str wisp) =>
    if wisp ∉ wisps then (t, .ignored)
    else if (body.get "action").pyEq (.str "operation_resume") then (t, resume printable t sender wisp body)
    else if (body.get "action").pyEq (.str "state_request") then (t, .state wisp)
    else if (body.get "action").pyEq (.str "file_begin") then fileBegin printable t sender wisp body now
    else inlineAction t sender wisp body
  | some _ => (t, .ignored)

end Dispatch

end WispGate.Model.Wisp
