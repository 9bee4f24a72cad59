import WispGate.Data.Transition
import WispGate.Model.Relay.Bulk
import WispGate.Model.Relay.Management

/-! # The handlers of the bulk lane

`RelayRuntime.handle_bulk` with any number of connections: every suspension of a handler separates
two events, and so does every suspension of a pipe. The lock is held while a refusal leaves, and
whoever waits for it may come next. The event and the task of a `_BulkConnection` are kept with its
handler.
-/

namespace WispGate.Model.Relay

open Data

/-- The awaits of `handle_bulk`. -/
inductive BulkPc where
  | header (since : ℕ)
  | refusing
  /-- The lock, before the tables are read. -/
  | locking
  /-- A refusal leaves under the lock. -/
  | refusingLocked
  | waiting (since : ℕ)
  /-- The task of the pipe. -/
  | joined
  /-- The lock, in the `finally` block. -/
  | cleaning
  | closing
  | done
deriving DecidableEq

/-- A handler, with the key and the connection it has read. -/
structure BulkHandler where
  pc : BulkPc
  connection : Option (String × BulkConnection ConnId) := none
  paired : Bool := false
  task : Option ℕ := none
deriving DecidableEq

/-- A run of `_pipe_bulk`, created at some time for a key. -/
structure BulkPipe where
  key : String
  sender : BulkConnection ConnId
  receiver : BulkConnection ConnId
  since : ℕ
  stage : PipeStage := .readySender
deriving DecidableEq

/-- What happened, newest first: lines that were written, and assertions that failed. -/
inductive BulkEntry where
  | wrote (conn : ConnId) (line : Json)
  | unset (conn : ConnId)
deriving DecidableEq

structure BulkMachine where
  tables : BulkTables ConnId := {}
  handlers : Dict ConnId BulkHandler := .empty
  lock : Option ConnId := none
  pipes : List BulkPipe := []
  now : ℕ := 0
  log : List BulkEntry := []

inductive BulkEvent where
  | connect (conn : ConnId)
  /-- A line of JSON, or one that is none. -/
  | header (conn : ConnId) (line : Option Json)
  | expire (conn : ConnId)
  | lost (conn : ConnId)
  | sent (conn : ConnId)
  | acquire (conn : ConnId)
  | wake (conn : ConnId)
  | ended (conn : ConnId)
  | closed (conn : ConnId)
  | pipe (place : ℕ)
  | pipeFails (place : ℕ)
  | tick (seconds : ℕ)
deriving DecidableEq

namespace BulkMachine

def set (m : BulkMachine) (conn : ConnId) (h : BulkHandler) : BulkMachine :=
  { m with handlers := m.handlers.insert conn h }

def record (m : BulkMachine) (entry : BulkEntry) : BulkMachine := { m with log := entry :: m.log }

def write (m : BulkMachine) (conn : ConnId) (line : Json) : BulkMachine := m.record (.wrote conn line)

def bulkReady : Json := RelayRuntime.answer [("type", .str "bulk_ready")]

def bulkComplete : Json := RelayRuntime.answer [("type", .str "bulk_complete")]

/-- The header of a connection, read within fifteen seconds. -/
def onHeader (m : BulkMachine) (conn : ConnId) (h : BulkHandler) (line : Json) : BulkMachine :=
  match BulkTables.readHeader conn line with
  | .ok connection => m.set conn { h with pc := .locking, connection := some connection }
  | .error (.refused error) => (m.write conn (RelayRuntime.refusal error)).set conn { h with pc := .refusing }
  | .error _ => m.set conn { h with pc := .closing }

/-- `connection.task = task`. -/
def join (m : BulkMachine) (conn : ConnId) (place : ℕ) : BulkMachine :=
  { m with handlers := m.handlers.modify conn fun h => { h with task := some place } }

/-- The section under the lock, until the lock is released or a refusal has to leave. -/
def admission (m : BulkMachine) (conn : ConnId) (h : BulkHandler) (key : String)
    (connection : BulkConnection ConnId) : BulkMachine :=
  let (tables, verdict) := m.tables.admission m.now key connection
  match verdict with
  | .refused error =>
    { (m.write conn (RelayRuntime.refusal error)).set conn { h with pc := .refusingLocked } with
      tables := tables, lock := some conn }
  | .waiting => { m.set conn { h with pc := .waiting m.now } with tables := tables }
  | .paired sender receiver =>
    let joined := ((m.set conn { h with pc := .joined }).join sender.label m.pipes.length).join receiver.label
      m.pipes.length
    { joined with tables := tables, pipes := m.pipes ++ [⟨key, sender, receiver, m.now, .readySender⟩] }
  | .raised _ => m

/-- Forget a connection wherever it is pending. -/
def forget (m : BulkMachine) (conn : ConnId) : BulkMachine :=
  { m with tables := { m.tables with
      pending := m.tables.pending.filter fun _ waiting => decide (waiting.label ≠ conn) } }

/-- Whoever waits for the lock gets it. -/
def acquire (m : BulkMachine) (conn : ConnId) (h : BulkHandler) : Option BulkMachine :=
  if m.lock ≠ none then none
  else match h.pc, h.connection with
    | .locking, some (key, connection) => some (m.admission conn h key connection)
    | .cleaning, some _ => some ((m.forget conn).set conn { h with pc := .closing })
    | _, _ => none

/-- A read or a write fails: the body of the handler ends. -/
def lose (m : BulkMachine) (conn : ConnId) (h : BulkHandler) : Option BulkMachine :=
  match h.pc with
  | .header _ | .refusing => some (m.set conn { h with pc := .closing })
  | .refusingLocked => some { m.set conn { h with pc := .cleaning } with lock := none }
  | _ => none

/-- An await with a timeout runs out. -/
def expire (m : BulkMachine) (conn : ConnId) (h : BulkHandler) : Option BulkMachine :=
  match h.pc with
  | .header since => if since + 15 ≤ m.now then some (m.set conn { h with pc := .closing }) else none
  | .waiting since => if since + 30 ≤ m.now then some (m.set conn { h with pc := .cleaning }) else none
  | _ => none

/-- A refusal has left. -/
def sent (m : BulkMachine) (conn : ConnId) (h : BulkHandler) : Option BulkMachine :=
  match h.pc with
  | .refusing => some (m.set conn { h with pc := .closing })
  | .refusingLocked => some { m.set conn { h with pc := .cleaning } with lock := none }
  | _ => none

/-- The event of a waiting connection is set. The task is asserted to be there. -/
def wake (m : BulkMachine) (conn : ConnId) (h : BulkHandler) : Option BulkMachine :=
  match h.pc, h.paired with
  | .waiting _, true =>
    if h.task.isSome then some (m.set conn { h with pc := .joined })
    else some ((m.record (.unset conn)).set conn { h with pc := .cleaning })
  | _, _ => none

/-- The awaited pipe has ended, one way or the other. -/
def ended (m : BulkMachine) (conn : ConnId) (h : BulkHandler) : Option BulkMachine :=
  match h.pc, h.task.bind fun place => m.pipes[place]? with
  | .joined, some pipe => if pipe.stage = .closed then some (m.set conn { h with pc := .cleaning }) else none
  | _, _ => none

/-- `connection.paired.set()`. -/
def signal (m : BulkMachine) (conn : ConnId) : BulkMachine :=
  { m with handlers := m.handlers.modify conn fun h => { h with paired := true } }

def setStage (m : BulkMachine) (place : ℕ) (pipe : BulkPipe) (stage : PipeStage) : BulkMachine :=
  { m with pipes := m.pipes.set place { pipe with stage := stage } }

/-- `_pipe_bulk`, from one suspension to the next. -/
def pipeStep (m : BulkMachine) (place : ℕ) (pipe : BulkPipe) : Option BulkMachine :=
  match pipe.stage with
  | .readySender =>
    let m := (m.signal pipe.sender.label).signal pipe.receiver.label
    some ((m.write pipe.sender.label bulkReady).setStage place pipe .readyReceiver)
  | .readyReceiver =>
    some ((m.write pipe.receiver.label bulkReady).setStage place pipe (.copying pipe.sender.length.toNat))
  | .copying 0 => some (m.setStage place pipe .completeSender)
  | .copying remaining => some (m.setStage place pipe (.copying (remaining - min (256 * 1024) remaining)))
  | .completeSender => some ((m.write pipe.sender.label bulkComplete).setStage place pipe .completeReceiver)
  | .completeReceiver => some ((m.write pipe.receiver.label bulkComplete).setStage place pipe .closed)
  | .closed => none

/-- A read, a write or the time limit of a pipe that has begun fails. -/
def pipeFails (m : BulkMachine) (place : ℕ) (pipe : BulkPipe) : Option BulkMachine :=
  match pipe.stage with
  | .readySender | .closed => none
  | _ => some (m.setStage place pipe .closed)

/-- The handler of a connection takes a step. -/
def resume (m : BulkMachine) (conn : ConnId) (move : BulkHandler → Option BulkMachine) : Option BulkMachine :=
  match m.handlers.get? conn with
  | none => none
  | some h => move h

def step (m : BulkMachine) : BulkEvent → Option BulkMachine
  | .connect conn =>
    if m.handlers.contains conn then none else some (m.set conn { pc := .header m.now })
  | .header conn line => m.resume conn fun h =>
    match h.pc, line with
    | .header _, some line => some (m.onHeader conn h line)
    | .header _, none => some (m.set conn { h with pc := .closing })
    | _, _ => none
  | .expire conn => m.resume conn (m.expire conn)
  | .lost conn => m.resume conn (m.lose conn)
  | .sent conn => m.resume conn (m.sent conn)
  | .acquire conn => m.resume conn (m.acquire conn)
  | .wake conn => m.resume conn (m.wake conn)
  | .ended conn => m.resume conn (m.ended conn)
  | .closed conn => m.resume conn fun h =>
    if h.pc = .closing then some (m.set conn { h with pc := .done }) else none
  | .pipe place => m.pipes[place]?.bind (m.pipeStep place)
  | .pipeFails place => m.pipes[place]?.bind (m.pipeFails place)
  | .tick seconds => some { m with now := m.now + seconds }

/-- A bulk lane nobody has connected to. -/
def Initial (m : BulkMachine) : Prop :=
  m.tables.pending = .empty ∧ m.tables.consumed = .empty ∧ m.handlers = .empty ∧ m.lock = none ∧ m.pipes = [] ∧
    m.log = []

end BulkMachine

end WispGate.Model.Relay
