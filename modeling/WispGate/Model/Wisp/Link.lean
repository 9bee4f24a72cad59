import WispGate.Data.Dict
import WispGate.Model.Session

/-! # The connection of the Wisp

The loop of `serve`, with `_serve_once`, `_close_connection` and `close`, and the parties that send on its one
connection: the event loop, the heartbeat and any number of workers. Every suspension separates two events. What
the relay answers, what fails and when, what the parties send, and the cipher come from outside. A wait for the
connection to drain may be over at once. The reset that `_send_session_reset` writes outside of the lock is part of
reading, since it is no session frame.
-/

namespace WispGate.Model.Wisp

open Data

inductive Port where
  | control
  | relay
deriving DecidableEq

structure Connection where
  port : Port
  authenticated : Bool := false
  /-- The frame that says that the relay is ready was read. -/
  ready : Bool := false
deriving DecidableEq

/-- Where `serve` is suspended. -/
inductive ServeAt where
  | openControl
  | authenticateControl
  | join
  | register
  | openRelay
  | authenticateRelay
  | awaitReady
  /-- In the event loop, for a line. -/
  | read
  /-- In the event loop, in a send of its own. -/
  | dispatch
  /-- At the end of `_serve_once`, after an exception or a cancellation. -/
  | stopHeartbeat (cancelled : Bool)
  | sleep
  /-- In `close`. -/
  | closeWriter
  | gatherTasks
  | done
deriving DecidableEq

/-- Between the start and the end of the control connection. -/
def ServeAt.onControl : ServeAt → Bool
  | .authenticateControl | .join | .register => true
  | _ => false

inductive Party where
  | serve
  | heartbeat
  | worker (id : ℕ)
deriving DecidableEq

/-- What is sent under the lock. -/
inductive Message where
  | session (recipient : String) (body : Json)
  | ping
  | pong
  /-- The acceptance of a handshake. -/
  | envelope
deriving DecidableEq

/-- Whether a sender first waits for the relay to be ready. -/
def Message.waits : Message → Bool
  | .session .. | .ping => true
  | _ => false

/-- Where a sender is suspended. A wait for an event is over once the event was set, even if it was cleared since. -/
inductive SendStage where
  | awaitReady (woken : Bool)
  | awaitLock
  | drain
deriving DecidableEq

structure Sending where
  message : Message
  stage : SendStage
deriving DecidableEq

/-- A session frame: its connection, the number of its session, and its sequence. -/
structure SentFrame where
  connection : ℕ
  session : ℕ
  sequence : ℕ
deriving DecidableEq

structure Link where
  serve : ServeAt := .openControl
  /-- The connections so far; `_writer` is one of them. -/
  connections : List Connection := []
  writer : Option ℕ := none
  relayReady : Bool := false
  /-- The heartbeat runs. -/
  heartbeat : Bool := false
  workers : List ℕ := []
  sending : Dict Party Sending := .empty
  /-- The send lock. -/
  holder : Option Party := none
  waiters : List Party := []
  /-- The sessions of the peers, numbered as they were made. -/
  peerSessions : Dict String (ℕ × PeerSession) := .empty
  established : ℕ := 0
  /-- The session frames that were written, in order. -/
  frames : List SentFrame := []
  /-- The loop of some `_send_session` went round without a wait. -/
  repeated : Bool := false

inductive LinkEvent where
  /-- What `serve` waits for happens, an exception is raised there, or its task is cancelled. -/
  | advance
  | fail
  | cancel
  /-- The event loop makes a worker, or a worker ends. -/
  | spawn (id : ℕ)
  | leave (id : ℕ)
  /-- A party begins to send. -/
  | send (party : Party) (message : Message) (now : ℕ)
  | wake (party : Party) (now : ℕ)
  /-- The lock is free, and who waits for it longest gets it. -/
  | grant (now : ℕ)
  | drained (party : Party)
  | broken (party : Party)
  | cancelParty (party : Party)
  /-- The event loop reads a handshake, a session frame or a session reset. -/
  | establish (sender sessionId : String) (androidToWisp wispToAndroid : Bytes) (now : ℕ)
  | receive (sender : String) (frame : Json) (now : ℕ)
  | reset (sender : String)

namespace Link

/-! ## Sending -/

/-- A send is over, with an exception that its party does not catch or without. -/
def finish (s : Link) (party : Party) (raised : Bool) : Link :=
  let s := { s with sending := s.sending.erase party, holder := none }
  match party, s.serve with
  | .serve, .dispatch => { s with serve := if raised then .stopHeartbeat false else .read }
  | .heartbeat, _ => { s with heartbeat := s.heartbeat && !raised }
  | _, _ => s

section Sending

variable (aead : Aead)

/-- `_send_session` with the lock, once. A value error is caught by every caller. -/
def sendSession (s : Link) (party : Party) (recipient : String) (body : Json) (now : ℕ) : Link :=
  match s.writer with
  | none =>
    { s with
      holder := none
      sending := s.sending.insert party ⟨.session recipient body, .awaitReady false⟩
      repeated := s.repeated || s.relayReady }
  | some connection =>
    match s.peerSessions.get? recipient with
    | none => s.finish party false
    | some (number, session) =>
      match session.encrypt aead body now with
      | (_, .error e) => s.finish party (decide (e ≠ .value))
      | (session', .ok _) =>
        { s with
          peerSessions := s.peerSessions.insert recipient (number, session')
          frames := s.frames ++ [⟨connection, number, session.sendSequence⟩]
          sending := s.sending.insert party ⟨.session recipient body, .drain⟩ }

/-- What a party does with the lock, up to its next suspension. -/
def critical (s : Link) (party : Party) (message : Message) (now : ℕ) : Link :=
  let s := { s with holder := some party }
  match message, s.writer with
  | .session recipient body, _ => s.sendSession aead party recipient body now
  | _, some _ => { s with sending := s.sending.insert party ⟨message, .drain⟩ }
  | .envelope, none => s.finish party true
  | _, none => s.finish party false

/-- `acquire`: at once when the lock is free and nobody waits. -/
def acquire (s : Link) (party : Party) (message : Message) (now : ℕ) : Link :=
  if s.holder = none ∧ s.waiters = [] then s.critical aead party message now
  else { s with waiters := s.waiters ++ [party], sending := s.sending.insert party ⟨message, .awaitLock⟩ }

/-- What a party may send now. -/
def maySend (s : Link) : Party → Message → Bool
  | .serve, .ping => false
  | .serve, _ => decide (s.serve = .read)
  | .heartbeat, .ping => s.heartbeat
  | .worker id, .session .. => decide (id ∈ s.workers)
  | _, _ => false

def send (s : Link) (party : Party) (message : Message) (now : ℕ) : Option Link :=
  if s.sending.contains party ∨ ¬ s.maySend party message then none
  else
    let s := if party = .serve then { s with serve := .dispatch } else s
    if message.waits && !s.relayReady then
      some { s with sending := s.sending.insert party ⟨message, .awaitReady false⟩ }
    else some (s.acquire aead party message now)

def wake (s : Link) (party : Party) (now : ℕ) : Option Link :=
  match s.sending.get? party with
  | some ⟨message, .awaitReady true⟩ => some (s.acquire aead party message now)
  | _ => none

def grant (s : Link) (now : ℕ) : Option Link :=
  match s.holder, s.waiters with
  | none, party :: rest =>
    match s.sending.get? party with
    | some sending => some ({ s with waiters := rest }.critical aead party sending.message now)
    | none => none
  | _, _ => none

end Sending

/-- The end of a wait for the connection to drain. -/
def settle (s : Link) (party : Party) (raised : Bool) : Option Link :=
  match s.sending.get? party with
  | some ⟨_, .drain⟩ => some (s.finish party raised)
  | _ => none

/-- A cancellation reaches a party, wherever it is in its send. -/
def drop (s : Link) (party : Party) : Link :=
  { s with
    sending := s.sending.erase party
    waiters := s.waiters.filter fun other => decide (other ≠ party)
    holder := if s.holder = some party then none else s.holder }

def cancelParty (s : Link) : Party → Option Link
  | .serve => none
  | .heartbeat =>
    match s.serve with
    | .read | .dispatch => none
    | _ => if s.heartbeat then some { s.drop .heartbeat with heartbeat := false } else none
  | .worker id => if id ∈ s.workers then some { s.drop (.worker id) with workers := s.workers.erase id } else none

/-! ## Serving -/

/-- `_relay_ready.set()`, which ends the waits for it. -/
def setReady (s : Link) : Link :=
  { s with
    relayReady := true
    sending := s.sending.mapValues fun sending =>
      match sending.stage with
      | .awaitReady _ => { sending with stage := .awaitReady true }
      | _ => sending }

def closeConnection (s : Link) : Link := { s with relayReady := false, writer := none }

/-- A new connection becomes the writer. -/
def connect (s : Link) (port : Port) : Link :=
  { s with connections := s.connections ++ [⟨port, false, false⟩], writer := some s.connections.length }

/-- The writer has come further. -/
def progress (s : Link) (change : Connection → Connection) : Link :=
  match s.writer with
  | none => s
  | some connection => { s with connections := s.connections.modify connection change }

/-- After an exception in `_serve_once`. -/
def retry (s : Link) : Link := { s.closeConnection with serve := .sleep }

/-- `close` from the end of its wait for the writer. -/
def cancelTasks (s : Link) : Link := { s with serve := if s.workers = [] then .done else .gatherTasks }

/-- `close`, to its first suspension. -/
def close (s : Link) : Link :=
  let closed := { s.closeConnection with peerSessions := .empty }
  match s.writer with
  | none => closed.cancelTasks
  | some _ => { closed with serve := .closeWriter }

def advance (s : Link) : Option Link :=
  match s.serve with
  | .openControl => some { s.connect .control with serve := .authenticateControl }
  | .authenticateControl =>
    some { s.progress (fun connection => { connection with authenticated := true }) with serve := .join }
  | .join => some { s with serve := .register }
  | .register => some { s with writer := none, serve := .openRelay }
  | .openRelay => some { s.connect .relay with serve := .authenticateRelay }
  | .authenticateRelay =>
    some { s.progress (fun connection => { connection with authenticated := true }) with serve := .awaitReady }
  | .awaitReady =>
    some { (s.progress fun connection => { connection with ready := true }).setReady with
      heartbeat := true
      serve := .read }
  | .read => some { s with serve := .stopHeartbeat false }
  | .dispatch => none
  | .stopHeartbeat cancelled => if s.heartbeat then none else some (if cancelled then s.close else s.retry)
  | .sleep => some { s with serve := .openControl }
  | .closeWriter => some s.cancelTasks
  | .gatherTasks => if s.workers = [] then some { s with serve := .done } else none
  | .done => none

def fail (s : Link) : Option Link :=
  match s.serve with
  | .openControl | .authenticateControl | .join | .register | .openRelay | .authenticateRelay | .awaitReady =>
    some s.retry
  | .read => some { s with serve := .stopHeartbeat false }
  | .closeWriter => some s.cancelTasks
  | .dispatch | .stopHeartbeat _ | .sleep | .gatherTasks | .done => none

def cancel (s : Link) : Option Link :=
  match s.serve with
  | .openControl | .authenticateControl | .join | .register | .openRelay | .authenticateRelay | .awaitReady | .sleep |
    .stopHeartbeat _ => some s.close
  | .read => some { s with serve := .stopHeartbeat true }
  | .dispatch => some { s.drop .serve with serve := .stopHeartbeat true }
  | .closeWriter | .gatherTasks => some { s with serve := .done }
  | .done => none

/-! ## Steps -/

section Step

variable (aead : Aead) (clientId : String)

/-- The event loop between two reads. -/
def reading (s : Link) (t : Link) : Option Link := if s.serve = .read then some t else none

/-- `_handle_session_envelope`, up to what it dispatches. -/
def receive (s : Link) (sender : String) (frame : Json) (now : ℕ) : Link :=
  match s.peerSessions.get? sender with
  | none => s
  | some (number, session) =>
    match session.decrypt aead frame now with
    | (session', .ok _) => { s with peerSessions := s.peerSessions.insert sender (number, session') }
    | (_, .error _) => { s with peerSessions := s.peerSessions.erase sender }

def step (s : Link) : LinkEvent → Option Link
  | .advance => s.advance
  | .fail => s.fail
  | .cancel => s.cancel
  | .spawn id => s.reading { s with workers := if id ∈ s.workers then s.workers else id :: s.workers }
  | .leave id => if s.sending.contains (.worker id) then none else some { s with workers := s.workers.erase id }
  | .send party message now => s.send aead party message now
  | .wake party now => s.wake aead party now
  | .grant now => s.grant aead now
  | .drained party => s.settle party false
  | .broken party => s.settle party true
  | .cancelParty party => s.cancelParty party
  | .establish sender sessionId androidToWisp wispToAndroid now =>
    s.reading { s with
      peerSessions := s.peerSessions.insert sender
        (s.established, .create sessionId clientId sender androidToWisp wispToAndroid now false)
      established := s.established + 1 }
  | .receive sender frame now => s.reading (s.receive aead sender frame now)
  | .reset sender => s.reading { s with peerSessions := s.peerSessions.erase sender }

end Step

/-- After `__init__`. -/
def Initial (s : Link) : Prop := s = {}

/-- The party that gets the lock at a step. -/
def taker (s : Link) : LinkEvent → Option Party
  | .send party message _ =>
    if ¬ (message.waits && !s.relayReady) ∧ s.holder = none ∧ s.waiters = [] then some party else none
  | .wake party _ => if s.holder = none ∧ s.waiters = [] then some party else none
  | .grant _ => if s.holder = none then s.waiters.head? else none
  | _ => none

end Link

end WispGate.Model.Wisp
