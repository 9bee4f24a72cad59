import Mathlib.Data.List.DropRight
import WispGate.Data.Transition
import WispGate.Model.Android.Stager

/-! # Submitting a form with files

`submitForm` of the script that `WispHtmlRuntime` puts into the page of a wisp. It reads the entries of a form,
stages the files through the native stager in chunks, waits for the bytes of each, and cancels the transfer
when something throws. Several submissions and other calls of the page interleave. `JSON.stringify` comes from
outside, and so does whether the bytes of a chunk can be read. An array that the page passes with its action is
not shared with it, no field is named `__proto__`, and the events of progress are left out.
-/

namespace WispGate.Model.Android

open Data

namespace WispHtmlRuntime

/-! ## Chunks -/

/-- The digits of `btoa`. -/
def digit (n : ℕ) : Char :=
  if n < 26 then Char.ofNat (65 + n)
  else if n < 52 then Char.ofNat (71 + n)
  else if n < 62 then Char.ofNat (n - 4)
  else if n = 62 then '+' else '/'

/-- `btoa`, on a text of one character for each byte. -/
def btoa : Bytes → List Char
  | a :: b :: c :: rest =>
    digit (a.toNat / 4) :: digit (a.toNat % 4 * 16 + b.toNat / 16) ::
      digit (b.toNat % 16 * 4 + c.toNat / 64) :: digit (c.toNat % 64) :: btoa rest
  | [a, b] => [digit (a.toNat / 4), digit (a.toNat % 4 * 16 + b.toNat / 16), digit (b.toNat % 16 * 4), '=']
  | [a] => [digit (a.toNat / 4), digit (a.toNat % 4 * 16), '=', '=']
  | [] => []

def block : ℕ := 8192

/-- The loop that makes a text of the bytes. -/
def binary (bytes : Bytes) (i : ℕ) : Bytes :=
  if i < bytes.length then (bytes.drop i).take block ++ binary bytes (i + block) else []
termination_by bytes.length - i
decreasing_by
  have size : block = 8192 := rfl
  omega

def encode (bytes : Bytes) : String :=
  let text := (btoa (binary bytes 0)).map fun c => if c = '+' then '-' else c
  let text := text.map fun c => if c = '/' then '_' else c
  String.ofList (text.rdropWhile (· == '='))

/-! ## Entries -/

/-- A `File`, whose size is a safe integer. -/
structure FormFile where
  name : String
  type : String
  content : Bytes
  safe : content.length ≤ 9007199254740991
deriving DecidableEq

/-- An entry of a `FormData`. -/
inductive FormValue where
  | text (value : String)
  | file (file : FormFile)
deriving DecidableEq

/-- What a value is in JSON, where a `File` has no properties. -/
def FormValue.json : FormValue → Json
  | .text value => .str value
  | .file _ => .obj []

/-- The functions that every object inherits, which are null in an array. -/
def inherited : List String :=
  ["constructor", "__defineGetter__", "__defineSetter__", "hasOwnProperty", "__lookupGetter__", "__lookupSetter__",
    "isPrototypeOf", "propertyIsEnumerable", "toString", "valueOf", "toLocaleString"]

def addValue (target : Dict String Json) (name : String) (value : Json) : Dict String Json :=
  match target.get? name with
  | some (.arr values) => target.insert name (.arr (values ++ [value]))
  | some old => target.insert name (.arr [old, value])
  | none => target.insert name (if name ∈ inherited then .arr [.null, value] else value)

structure SelectedFile where
  id : String
  field : String
  file : FormFile
deriving DecidableEq

/-- The loop over the entries. -/
def collect : List (String × FormValue) → Dict String Json → List SelectedFile → Dict String Json × List SelectedFile
  | [], values, files => (values, files)
  | (field, .text value) :: rest, values, files => collect rest (addValue values field (.str value)) files
  | (field, .file file) :: rest, values, files =>
    if file.name ≠ "" then collect rest values (files ++ [⟨"file-" ++ toString files.length, field, file⟩])
    else collect rest (addValue values field (FormValue.file file).json) files

namespace SelectedFile

def size (selected : SelectedFile) : ℕ := selected.file.content.length

def contentType (selected : SelectedFile) : String :=
  if selected.file.type = "" then "application/octet-stream" else selected.file.type

def manifest (selected : SelectedFile) : Json :=
  .obj [("id", .str selected.id), ("field", .str selected.field), ("name", .str selected.file.name),
    ("content_type", .str selected.contentType), ("size", .int selected.size)]

end SelectedFile

/-! ## Calls -/

inductive NativeCall where
  | append (fileId : String) (offset : ℕ) (encoded : String)
  | finish
deriving DecidableEq

def chunkSize : ℕ := 256 * 1024

/-- The calls for a file, from an offset on. -/
def chunkCalls (selected : SelectedFile) (offset : ℕ) : List NativeCall :=
  if offset < selected.size then
    .append selected.id offset (encode ((selected.file.content.drop offset).take chunkSize)) ::
      chunkCalls selected (offset + chunkSize)
  else []
termination_by selected.size - offset
decreasing_by
  have size : chunkSize = 262144 := rfl
  omega

inductive SubmissionStage where
  | sending (calls : List NativeCall)
  | resolved
  | rejected
deriving DecidableEq

/-- A call of `submitForm` whose transfer was begun. -/
structure Submission where
  transferId : String
  action : Dict String Json
  entries : List (String × FormValue)
  stage : SubmissionStage

namespace Submission

def values (submission : Submission) : Dict String Json := (collect submission.entries submission.action []).1

def files (submission : Submission) : List SelectedFile := (collect submission.entries submission.action []).2

end Submission

/-- A page with the stager of its screen. -/
structure Page where
  stager : Stager
  submissions : List Submission := []
  /-- What went to `native.submit`, newest first. -/
  submitted : List Json := []

end WispHtmlRuntime

/-- A call is about a transfer. -/
def StagerCall.concerns (transferId : String) : StagerCall → Bool
  | .append other _ _ _ _ | .finish other _ | .cancel other => decide (other = transferId)
  | .begin _ _ _ _ | .cancelAll => false

namespace WispHtmlRuntime

inductive PageEvent where
  /-- A form is submitted. -/
  | submit (action : Dict String Json) (entries : List (String × FormValue)) (uuid : String) (disk : BeginDisk)
  /-- A submission gets the bytes of its next chunk, or not, and makes its next call. -/
  | next (index : ℕ) (readable : Bool) (failed : Option ℕ)
  /-- Something else calls the stager, about other transfers. -/
  | other (call : StagerCall)

namespace Page

variable (texts : Texts) (stringify : Json → String)

/-- `submitForm` up to its first wait. -/
def submit (s : Page) (action : Dict String Json) (entries : List (String × FormValue)) (uuid : String) (disk : BeginDisk) :
    Page :=
  let (values, files) := collect entries action []
  if files = [] then { s with submitted := .obj values.entries :: s.submitted }
  else match s.stager.begin texts uuid disk (stringify (.obj values.entries)) (stringify (.arr (files.map (·.manifest)))) with
  | (stager, .ok transferId) =>
    let calls := files.flatMap (fun selected => chunkCalls selected 0) ++ [.finish]
    { s with stager := stager, submissions := s.submissions ++ [⟨transferId, action, entries, .sending calls⟩] }
  | (stager, .error _) => { s with stager := stager }

def setStage (s : Page) (index : ℕ) (submission : Submission) (stage : SubmissionStage) : Page :=
  { s with submissions := s.submissions.set index { submission with stage := stage } }

/-- The `catch` clause. -/
def reject (s : Page) (index : ℕ) (submission : Submission) : Page :=
  { s with stager := s.stager.cancel submission.transferId }.setStage index submission .rejected

def next (s : Page) (index : ℕ) (submission : Submission) (readable : Bool) (failed : Option ℕ) : List NativeCall → Page
  | [] => s
  | .append fileId offset encoded :: rest =>
    if readable then
      match s.stager.append texts submission.transferId fileId offset encoded failed with
      | (stager, .ok _) => { s with stager := stager }.setStage index submission (.sending rest)
      | (stager, .error _) => { s with stager := stager }.reject index submission
    else s.reject index submission
  | .finish :: _ =>
    match s.stager.finish submission.transferId false with
    | (stager, .ok ()) => { s with stager := stager }.setStage index submission .resolved
    | (stager, .error _) => { s with stager := stager }.reject index submission

def step (s : Page) : PageEvent → Option Page
  | .submit action entries uuid disk =>
    if uuid ∉ s.stager.drawn ∧ uuid.length = 36 then some (s.submit texts stringify action entries uuid disk) else none
  | .next index readable failed =>
    match s.submissions[index]? with
    | some submission =>
      match submission.stage with
      | .sending calls => some (s.next texts index submission readable failed calls)
      | .resolved | .rejected => none
    | none => none
  | .other call =>
    if s.submissions.any fun submission => call.concerns submission.transferId then none
    else (s.stager.step texts call).map fun stager => { s with stager := stager }

/-- A new page, with a stager that is new. -/
def Initial (s : Page) : Prop := Stager.Initial s.stager ∧ s.submissions = [] ∧ s.submitted = []

end Page

end WispHtmlRuntime

end WispGate.Model.Android
