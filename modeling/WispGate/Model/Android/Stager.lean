import WispGate.Data.Dict
import WispGate.Model.Android.FileAction
import WispGate.Model.Android.InboundAssets

/-! # Staging files on Android

`FileTransferStager` copies the files of an action, chunk by chunk, into a directory of the cache, and
hands a complete action over. The bytes of a file's path stand in its record. What `org.json` and
`Base64` make of a text, the id that `UUID` draws and whether an operation on the disk succeeds come from
outside; `deleteRecursively` succeeds.
-/

namespace WispGate.Model.Android

open Data

def maxStagedFiles : ℕ := 32

def maxStagedTransfers : ℕ := 4

def maxStagedBytes : ℤ := 256 * 1024 * 1024

def maxStagingChunkBytes : ℕ := 256 * 1024

/-- `JSONObject`, `JSONArray` and `Base64Url.decode` on texts, where exceptions are `none`. -/
structure Texts where
  platform : Platform
  object : String → Option Json
  array : String → Option (List Json)
  decode : String → Option Bytes
  object_isObj : ∀ text value, object text = some value → value.isObj = true

structure StagingUpload where
  id : String
  field : String
  name : String
  contentType : String
  size : ℤ
  received : ℤ := 0
  /-- The bytes at the path of the file. -/
  bytes : Bytes := []
  /-- The chunks that were accepted, in order. -/
  chunks : List Bytes := []
deriving DecidableEq

structure StagingAction where
  transferId : String
  actionData : Json
  files : List StagingUpload
deriving DecidableEq

/-- `sumOf`, on `Long`s. -/
def sumOf (numbers : List ℤ) : ℤ := numbers.foldl (fun sum n => wrapLong (sum + n)) 0

/-- `RandomAccessFile.write` after a seek. -/
def overwrite (bytes : Bytes) (offset : ℕ) (chunk : Bytes) : Bytes :=
  bytes.take offset ++ List.replicate (offset - bytes.length) 0 ++ chunk ++ bytes.drop (offset + chunk.length)

/-- What the disk makes of a `begin`. -/
structure BeginDisk where
  /-- `mkdirs` creates the directory of the transfer. -/
  mkdirs : Bool
  /-- The staging directory is there after `mkdirs`, which may have created it without the other. -/
  root : Bool
  /-- `createNewFile` creates the file at an index. -/
  created : ℕ → Bool

inductive StagerError where
  /-- A check failed, in the stager or in what reads a text. -/
  | refused
  /-- The write of a chunk failed. -/
  | write
  /-- `onComplete` threw. -/
  | callback
deriving DecidableEq

structure Stager where
  transfers : Dict String StagingAction := .empty
  /-- The staging directory of the cache exists. -/
  root : Bool := false
  /-- The directories of transfers in it. -/
  directories : List String := []
  /-- The ids drawn so far. -/
  drawn : List String := []
  /-- The actions that `onComplete` was called with, newest first. -/
  completed : List StagingAction := []

section Manifests

variable (texts : Texts)

/-- One manifest of a file action, when the bytes reserved by others and counted so far allow it. -/
def stageManifest (reserved total : ℤ) (files : List StagingUpload) (created : Bool) (manifest : Json) :
    Option StagingUpload :=
  if ¬ manifest.isObj then none
  else do
    let id ← texts.platform.getString manifest "id"
    let field ← texts.platform.getString manifest "field"
    let name ← texts.platform.getString manifest "name"
    let contentType := texts.platform.optString manifest "content_type" "application/octet-stream"
    let size ← texts.platform.getLong manifest "size"
    if ¬ (texts.platform.isNotBlank id ∧ units id ≤ 128 ∧ texts.platform.isNotBlank field ∧ units field ≤ 128 ∧
        texts.platform.isNotBlank name ∧ units name ≤ 512 ∧ units contentType ≤ 128 ∧ 0 ≤ size) then none
    else if ∃ file ∈ files, file.id = id then none
    else if ¬ size ≤ wrapLong (wrapLong (maxStagedBytes - reserved) - total) then none
    else if created then some { id := id, field := field, name := name, contentType := contentType, size := size }
    else none

/-- The loop over the manifests. -/
def stageManifests (reserved : ℤ) (created : ℕ → Bool) :
    ℤ → List StagingUpload → ℕ → List Json → Option (List StagingUpload)
  | _, files, _, [] => some files
  | total, files, index, manifest :: rest =>
    match stageManifest texts reserved total files (created index) manifest with
    | none => none
    | some file => stageManifests reserved created (wrapLong (total + file.size)) (files ++ [file]) (index + 1) rest

end Manifests

namespace Stager

variable (texts : Texts)

/-- The bytes that the transfers reserve. -/
def reserved (s : Stager) : ℤ := sumOf (s.transfers.values.map fun action => sumOf (action.files.map (·.size)))

def begin (s : Stager) (uuid : String) (disk : BeginDisk) (actionJson manifestJson : String) :
    Stager × Except StagerError String :=
  if ¬ s.transfers.size < maxStagedTransfers then (s, .error .refused)
  else match texts.object actionJson, texts.array manifestJson with
  | some actionData, some manifests =>
    if ¬ (1 ≤ manifests.length ∧ manifests.length ≤ maxStagedFiles) then (s, .error .refused)
    else
      let s := { s with drawn := uuid :: s.drawn, root := s.root || disk.root || disk.mkdirs }
      if ¬ disk.mkdirs then (s, .error .refused)
      else
        let made := { s with directories := uuid :: s.directories }
        match stageManifests texts s.reserved disk.created 0 [] 0 manifests with
        | none => ({ made with directories := made.directories.erase uuid }, .error .refused)
        | some files => ({ made with transfers := made.transfers.insert uuid ⟨uuid, actionData, files⟩ }, .ok uuid)
  | _, _ => (s, .error .refused)

/-- A staged file, whose id no other file of its action has, is replaced. -/
def setFile (s : Stager) (action : StagingAction) (file : StagingUpload) : Stager :=
  let files := action.files.map fun other => if other.id = file.id then file else other
  { s with transfers := s.transfers.insert action.transferId { action with files := files } }

/-- `append`, where the write of the chunk either succeeds or fails after a number of bytes. -/
def append (s : Stager) (transferId fileId : String) (offset : ℤ) (encoded : String) (failed : Option ℕ) :
    Stager × Except StagerError ℤ :=
  match s.transfers.get? transferId with
  | none => (s, .error .refused)
  | some action =>
    match action.files.find? fun file => decide (file.id = fileId) with
    | none => (s, .error .refused)
    | some file =>
      if offset ≠ file.received then (s, .error .refused)
      else match texts.decode encoded with
      | none => (s, .error .refused)
      | some chunk =>
        if ¬ (chunk.length ≤ maxStagingChunkBytes ∧ wrapLong (file.received + chunk.length) ≤ file.size) then
          (s, .error .refused)
        else match failed with
        | some stored =>
          let bytes := overwrite file.bytes file.received.toNat (chunk.take stored)
          (s.setFile action { file with bytes := bytes }, .error .write)
        | none =>
          let bytes := overwrite file.bytes file.received.toNat chunk
          let received := wrapLong (file.received + chunk.length)
          let chunks := file.chunks ++ [chunk]
          (s.setFile action { file with bytes := bytes, received := received, chunks := chunks }, .ok received)

def finish (s : Stager) (transferId : String) (throws : Bool) : Stager × Except StagerError Unit :=
  match s.transfers.get? transferId with
  | none => (s, .error .refused)
  | some action =>
    if ¬ action.files.all fun file => decide (file.received = file.size) then (s, .error .refused)
    else
      let s := { s with transfers := s.transfers.erase transferId, completed := action :: s.completed }
      if throws then ({ s with directories := s.directories.erase action.transferId }, .error .callback) else (s, .ok ())

def cancel (s : Stager) (transferId : String) : Stager :=
  match s.transfers.get? transferId with
  | none => s
  | some action =>
    { s with transfers := s.transfers.erase transferId, directories := s.directories.erase action.transferId }

def cancelAll (s : Stager) : Stager :=
  { s with
    transfers := .empty
    directories := s.directories.filter fun directory =>
      decide (directory ∉ s.transfers.values.map (·.transferId)) }

end Stager

inductive StagerCall where
  | begin (uuid : String) (disk : BeginDisk) (actionJson manifestJson : String)
  | append (transferId fileId : String) (offset : ℤ) (encoded : String) (failed : Option ℕ)
  | finish (transferId : String) (throws : Bool)
  | cancel (transferId : String)
  | cancelAll

namespace Stager

/-- A call from outside. `UUID.randomUUID` draws a new id, of 36 characters. -/
def step (texts : Texts) (s : Stager) : StagerCall → Option Stager
  | .begin uuid disk actionJson manifestJson =>
    if uuid ∉ s.drawn ∧ uuid.length = 36 then some (s.begin texts uuid disk actionJson manifestJson).1 else none
  | .append transferId fileId offset encoded failed => some (s.append texts transferId fileId offset encoded failed).1
  | .finish transferId throws => some (s.finish transferId throws).1
  | .cancel transferId => some (s.cancel transferId)
  | .cancelAll => some s.cancelAll

/-- A new stager, over a cache that may have a staging directory. -/
def Initial (s : Stager) : Prop :=
  s.transfers = .empty ∧ s.directories = [] ∧ s.drawn = [] ∧ s.completed = []

end Stager

/-- A complete action as its receiver reads it: its files with the bytes at their paths. -/
def StagingAction.handedOver (action : StagingAction) : StagedFileAction where
  transferId := action.transferId
  actionData := action.actionData
  files := action.files.map fun file => ⟨file.id, file.field, file.name, file.contentType, file.bytes⟩

end WispGate.Model.Android
