import WispGate.Data.Transition
import WispGate.Model.Android.FileAction
import WispGate.Model.Relay.Bulk
import WispGate.Model.Wisp.Operations

/-! # The upload of an accepted file action

Three loops: Android uploads its prepared files one after the other, the worker of the Wisp receives
its announced files one after the other, and the relay pairs their connections and copies between
the paired ones. Connections do not fail here and no timeout expires, but time passes. Every
suspension of a loop separates two events.
-/

namespace WispGate.Model.Upload

open Data Android Relay Wisp

inductive Side where
  | android
  | wisp
deriving DecidableEq, Repr

def Side.other : Side → Side
  | .android => .wisp
  | .wisp => .android

/-- A connection is named by the endpoint that opened it and the place of its file. -/
abbrev Label := Side × ℕ

/-- Where a loop is with its current file. -/
inductive Stage where
  | connecting
  /-- The header is on its way. -/
  | opened
  /-- The relay has the header, the readiness was not read. -/
  | waiting
  | ready
  | failed
deriving DecidableEq, Repr

/-- A loop, with its current connection: the lines of the relay it has not read, and the file bytes
in transit (from Android, those the relay has not read; to the Wisp, those it has not read). The
completion line of the Wisp's connection follows the file bytes and is never read. -/
structure Endpoint where
  index : ℕ := 0
  stage : Stage := .connecting
  lines : List Json := []
  data : Bytes := []
deriving DecidableEq

structure Pipe where
  sender : Label
  receiver : Label
  length : ℕ
  stage : PipeStage := .readySender
deriving DecidableEq

/-- A file as the action callback sees it. -/
structure UploadedFile where
  field : String
  name : String
  contentType : String
  size : ℕ
  content : Bytes
deriving DecidableEq

/-- What the loops run on: Android's prepared uploads, and the Wisp's transfer and session. -/
structure Job where
  prepared : List PreparedBulkUpload
  /-- The client id of the Wisp. -/
  clientId : String
  transferId : String
  transfer : Transfer
  session : PeerSession

structure State where
  now : ℕ
  tables : BulkTables Label
  endpoint : Side → Endpoint := fun _ => {}
  pipes : List Pipe := []
  /-- The contents the worker has written. -/
  stored : List Bytes := []
  /-- The connections the relay turned away, with its verdicts. -/
  refusals : List (Label × Verdict Label) := []
  /-- The files the action callback was run with, under their fields. -/
  callback : Option (Dict String (List UploadedFile)) := none

inductive Event where
  | tick (seconds : ℕ)
  | connect (side : Side)
  | handle (side : Side)
  | pipe (place : ℕ)
  | read (side : Side)
  | invoke
deriving DecidableEq

/-- Everything but the passing of time is a move of some party. -/
def Event.isMove : Event → Bool
  | .tick _ => false
  | _ => true

/-! ## The Wisp's half -/

/-- The nonce that `_receive_bulk_file` accepts. -/
def receiveNonce (incoming : IncomingFile) : Except PyError Bytes :=
  match (incoming.bulk.get "nonce").asStr? with
  | none => .error .type
  | some text =>
    match unb64 text with
    | .error e => .error e
    | .ok nonce => if nonce.length = 12 then .ok nonce else .error .value

/-- The plaintext of a received file, if it is authentic and as long as announced. -/
def receiveContent (job : Job) (aead : Aead) (hkdf : Hkdf) (incoming : IncomingFile) (ciphertext : Bytes) :
    Except PyError Bytes :=
  match receiveNonce incoming, job.session.bulkKey hkdf job.transferId false with
  | .ok nonce, .ok fileKey =>
    match aead.decrypt fileKey nonce ciphertext
        (bulkAad job.session.sessionId job.transfer.sender job.clientId job.transferId incoming.id incoming.size) with
    | .ok plaintext => if plaintext.length = incoming.size then .ok plaintext else .error .value
    | .error e => .error e
  | .error e, _ => .error e
  | _, .error e => .error e

/-- `bulk["ciphertext_size"]`, as a length. -/
def ciphertextSize (incoming : IncomingFile) : ℕ := ((incoming.bulk.get "ciphertext_size").number?.getD 0).toNat

/-- Files under their fields, in their order. -/
def grouped (files : List UploadedFile) : Dict String (List UploadedFile) :=
  files.foldl (fun groups file => groups.insert file.field ((groups.get? file.field).getD [] ++ [file])) .empty

def exposed (incoming : List IncomingFile) (stored : List Bytes) : List UploadedFile :=
  List.zipWith (fun file content => ⟨file.field, file.name, file.contentType, file.size, content⟩) incoming stored

/-! ## The machine -/

namespace State

def set (s : State) (side : Side) (e : Endpoint) : State := { s with endpoint := Function.update s.endpoint side e }

def readyLine : Json := .obj [("ok", .bool true), ("type", .str "bulk_ready")]

def completeLine : Json := .obj [("ok", .bool true), ("type", .str "bulk_complete")]

def errorLine (error : String) : Json := .obj [("ok", .bool false), ("error", .str error)]

/-- The check of both endpoints on a line of the relay. -/
def grants (line : Json) (type : String) : Bool := (line.get "ok").truthy && (line.get "type").pyEq (.str type)

/-- Whether a connection is still the current one of its loop. -/
def openNow (s : State) (label : Label) : Bool :=
  (s.endpoint label.1).index = label.2 &&
    ((s.endpoint label.1).stage = .waiting || (s.endpoint label.1).stage = .ready)

/-- The relay writes a line to a connection. What is written to a closed one is lost. -/
def write (s : State) (label : Label) (line : Json) : State :=
  if s.openNow label then s.set label.1 { s.endpoint label.1 with lines := (s.endpoint label.1).lines ++ [line] }
  else s

variable (job : Job)

/-- The files of the transfer, in the order of its table. -/
def incoming : List IncomingFile := job.transfer.files.values

/-- The header of a loop's connection for a file. -/
def header : Label → Option Json
  | (.android, index) => job.prepared[index]?.map fun upload =>
    writeConnect "sender" upload.sessionId upload.transferId upload.sender upload.recipient (.int upload.ciphertextSize)
  | (.wisp, index) => (incoming job)[index]?.map fun file =>
    writeConnect "receiver" job.session.sessionId job.transferId job.clientId job.transfer.sender
      (file.bulk.get "ciphertext_size")

/-- A loop opens the connection for its current file. The Wisp has checked the nonce by then. -/
def connect (s : State) (side : Side) : Option State :=
  let e := s.endpoint side
  if e.stage ≠ .connecting then none
  else match side with
    | .android => if e.index < job.prepared.length then some (s.set side { e with stage := .opened }) else none
    | .wisp =>
      match (incoming job)[e.index]? with
      | none => none
      | some file =>
        match receiveNonce file with
        | .ok _ => some (s.set side { e with stage := .opened })
        | .error _ => some (s.set side { e with stage := .failed })

/-- The relay reads a header and runs its locked section. -/
def handle (s : State) (side : Side) : Option State :=
  let e := s.endpoint side
  if e.stage ≠ .opened then none
  else match header job (side, e.index) with
    | none => none
    | some header =>
      let (tables, verdict) := s.tables.handleBulk s.now (side, e.index) header
      let s := { s with tables := tables }
      match verdict with
      | .waiting => some (s.set side { e with stage := .waiting })
      | .paired sender receiver =>
        some { s.set side { e with stage := .waiting } with
          pipes := s.pipes ++ [⟨sender.label, receiver.label, sender.length.toNat, .readySender⟩] }
      | .refused error =>
        some { s.set side { e with stage := .waiting, lines := e.lines ++ [errorLine error] } with
          refusals := s.refusals ++ [((side, e.index), verdict)] }
      | .raised _ =>
        some { s.set side { e with stage := .failed } with refusals := s.refusals ++ [((side, e.index), verdict)] }

/-- One step of a pipe: the state it leaves and its next stage. -/
def pipeStep (s : State) (pipe : Pipe) : Option (State × PipeStage) :=
  match pipe.stage with
  | .readySender => some (s.write pipe.sender readyLine, .readyReceiver)
  | .readyReceiver => some (s.write pipe.receiver readyLine, .copying pipe.length)
  | .copying 0 => some (s, .completeSender)
  | .copying remaining =>
    let chunk := min (256 * 1024) remaining
    let source := s.endpoint pipe.sender.1
    if s.openNow pipe.sender ∧ chunk ≤ source.data.length then
      let s' := s.set pipe.sender.1 { source with data := source.data.drop chunk }
      let target := s'.endpoint pipe.receiver.1
      some (if s'.openNow pipe.receiver then
          s'.set pipe.receiver.1 { target with data := target.data ++ source.data.take chunk }
        else s', .copying (remaining - chunk))
    else none
  | .completeSender => some (s.write pipe.sender completeLine, .completeReceiver)
  | .completeReceiver => some (s.write pipe.receiver completeLine, .closed)
  | .closed => none

def movePipe (s : State) (place : ℕ) : Option State :=
  match s.pipes[place]? with
  | none => none
  | some pipe =>
    match s.pipeStep pipe with
    | none => none
    | some (s', stage) => some { s' with pipes := s'.pipes.set place { pipe with stage := stage } }

variable (aead : Aead) (hkdf : Hkdf)

/-- `BulkSocketTransport.send`, from one line of the relay to the next. -/
def readAndroid (s : State) : Option State :=
  let e := s.endpoint .android
  match e.stage, e.lines, job.prepared[e.index]? with
  | .waiting, line :: rest, some upload =>
    match grants line "bulk_ready", upload.encryptTo aead with
    | true, .ok ciphertext => some (s.set .android { e with stage := .ready, lines := rest, data := e.data ++ ciphertext })
    | _, _ => some (s.set .android { e with stage := .failed })
  | .ready, line :: _, some _ =>
    if grants line "bulk_complete" then some (s.set .android { index := e.index + 1 })
    else some (s.set .android { e with stage := .failed })
  | _, _, _ => none

/-- `_receive_bulk_file`, from its readiness line to the end of the file. -/
def readWisp (s : State) : Option State :=
  let e := s.endpoint .wisp
  match e.stage, (incoming job)[e.index]? with
  | .waiting, some _ =>
    match e.lines with
    | [] => none
    | line :: rest =>
      some (s.set .wisp (if grants line "bulk_ready" then { e with stage := .ready, lines := rest }
        else { e with stage := .failed }))
  | .ready, some file =>
    if e.data.length < ciphertextSize file then none
    else match receiveContent job aead hkdf file (e.data.take (ciphertextSize file)) with
      | .ok content => some { s.set .wisp { index := e.index + 1 } with stored := s.stored ++ [content] }
      | .error _ => some (s.set .wisp { e with stage := .failed })
  | _, _ => none

/-- The worker runs the callback when every file is there. -/
def invoke (s : State) : Option State :=
  if s.endpoint .wisp = { index := (incoming job).length } ∧ s.callback.isNone then
    some { s with callback := some (grouped (exposed (incoming job) s.stored)) }
  else none

def step (s : State) : Event → Option State
  | .tick seconds => some { s with now := s.now + seconds }
  | .connect side => s.connect job side
  | .handle side => s.handle job side
  | .pipe place => s.movePipe place
  | .read .android => s.readAndroid job aead
  | .read .wisp => s.readWisp job aead hkdf
  | .invoke => s.invoke job

end State

end WispGate.Model.Upload
