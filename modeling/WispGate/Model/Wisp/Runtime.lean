import WispGate.Data.Transition
import WispGate.Model.Wisp.Handshake
import WispGate.Model.Wisp.Operations

/-! # The Wisp runtime

The event loop of `AppserveClient` with the dispatcher it runs, and the workers of its file
transfers. The loop serves one frame after the other and stands at one await; a worker's await is
the phase of its task. An event resumes one of them with what its await ended in. Frames come from
anyone who can write to the relay connection. Encryption and write of a session frame happen at
once, when the send lock is given; locks of other tasks only delay this. The sessions survive a lost
connection, and the threads of callbacks survive the cancellation of their tasks.
-/

namespace WispGate.Model.Wisp

open Data

structure Env where
  clientId : String
  wisps : List String
  printable : Char → Bool
  aead : Aead
  hkdf : Hkdf
  hmac : Hmac
  rsa : Rsa

/-- What the loop does after a session frame has left. -/
inductive After where
  | done
  /-- Start the worker of a transfer, if there is one. -/
  | transfer (key : Key)
deriving DecidableEq

/-- The awaits of the event loop. -/
inductive Pc where
  /-- Between two relay connections. -/
  | offline
  | reading
  /-- A frame that nothing depends on leaves. -/
  | draining
  /-- The cancelled workers of overdue transfers end. -/
  | sweeping (sender : String) (body : Json) (due : List Key)
  | state (sender wisp : String)
  | action (sender wisp operationId : String)
  /-- The lock, before a session frame is encrypted. -/
  | sending (sender : String) (body : Json) (after : After)
  | replied (after : After)
deriving DecidableEq

/-- What happened, newest first. -/
inductive Entry where
  /-- A body was encrypted for a peer, under a key and a nonce. -/
  | sealed (peer : String) (key nonce : Bytes) (body : Json)
  /-- A session was accepted. -/
  | accepted (peer : String) (session : PeerSession)
  /-- The action callback was started for an operation, or ended. -/
  | started (key : Key) (now : ℕ)
  | finished (key : Key) (now : ℕ)
  /-- An exception left the event loop. -/
  | raised (error : PyError)
deriving DecidableEq

structure Runtime where
  now : ℕ := 0
  peers : Peers := {}
  tables : Tables := {}
  pc : Pc := .offline
  /-- The operations whose callback still runs although its task was cancelled. -/
  orphans : List Key := []
  log : List Entry := []

/-- How a worker goes on. -/
inductive WorkerMove where
  | begin
  | received
  | failed (cause : String)
  | returns (result : Result)
  | send
  | drained
  | cancelled
deriving DecidableEq

inductive Event where
  | tick (seconds : ℕ)
  | frame (message : Json)
  | eof
  | reconnect
  | swept
  | returns (result : Result)
  | send
  | drained (written : Bool)
  | worker (key : Key) (move : WorkerMove)
  | orphanEnds (key : Key)
deriving DecidableEq

namespace Runtime

variable (env : Env)

/-! ## Small moves -/

def goto (m : Runtime) (pc : Pc) : Runtime := { m with pc := pc }

def record (m : Runtime) (entry : Entry) : Runtime := { m with log := entry :: m.log }

def withTables (m : Runtime) (tables : Tables) : Runtime := { m with tables := tables }

/-- An exception that nothing in the loop catches: the connection is closed. -/
def tear (m : Runtime) (e : PyError) : Runtime := (m.record (.raised e)).goto .offline

/-- An exception while a session frame is served. The loop goes on after a value error. -/
def raises (m : Runtime) (e : PyError) : Runtime := if e = .value then m.goto .reading else m.tear e

/-! ## Dispatch -/

/-- `_send_wisp_response`, for the result of a callback that did not raise. -/
def respond (m : Runtime) (sender wisp : String) (result : Result) : Runtime :=
  if result.assets = [] then m.goto (.sending sender (responseBody wisp result.payload) .done)
  else m.raises (sendAssetsError result.assets (m.peers.sessions.get? sender).isSome)

/-- Remember that the outcome of an operation is unknown, and re-raise. -/
def abandon (m : Runtime) (sender wisp operationId : String) (e : PyError) : Runtime :=
  let tables := m.tables.remember sender operationId (operationStatusBody wisp "indeterminate" operationId) m.now
  (m.withTables { tables with active := tables.active.erase (sender, operationId) }).raises e

/-- Act on the choice of the dispatcher. -/
def act (m : Runtime) (sender : String) : Choice → Runtime
  | .ignored => m.goto .reading
  | .unhashable => m.raises .type
  | .answer body => m.goto (.sending sender body .done)
  | .state wisp => m.goto (.state sender wisp)
  | .action wisp operationId actionData =>
    match dictError actionData with
    | some e => m.abandon sender wisp operationId e
    | none => (m.record (.started (sender, operationId) m.now)).goto (.action sender wisp operationId)
  | .fileBegin transferId body => m.goto (.sending sender body (.transfer (sender, transferId)))

/-- `_dispatch_session_body` after the cancelled workers have ended. -/
def afterSweep (m : Runtime) (sender : String) (body : Json) (due : List Key) : Runtime :=
  let (tables, choice) := choose env.printable env.wisps (m.tables.drop due) sender body m.now
  (m.withTables tables).act sender choice

/-- `_dispatch_session_body`. -/
def dispatch (m : Runtime) (sender : String) (body : Json) : Runtime :=
  let due := m.tables.overdue m.now
  let tables := due.foldl (fun tables entry => tables.expire entry m.now) m.tables
  let m := m.withTables tables
  if due.any fun entry => entry.2.task.isSome then m.goto (.sweeping sender body (due.map Prod.fst))
  else m.afterSweep env sender body (due.map Prod.fst)

/-- A callback of the loop ends. -/
def returned (m : Runtime) (result : Result) : Option Runtime :=
  match m.pc with
  | .state sender wisp =>
    match result with
    | .raised e _ => some (m.raises e)
    | result => some (m.respond sender wisp result)
  | .action sender wisp operationId =>
    let m := m.record (.finished (sender, operationId) m.now)
    match result with
    | .raised e _ => some (m.abandon sender wisp operationId e)
    | result =>
      let tables := { m.tables with active := m.tables.active.erase (sender, operationId) }
      let tables := match retainedResponseBody wisp result with
        | some retained => tables.remember sender operationId retained m.now
        | none => tables
      some ((m.withTables tables).respond sender wisp result)
  | _ => none

/-! ## Frames -/

def setSessions (m : Runtime) (sessions : Dict String PeerSession) : Runtime :=
  { m with peers := { m.peers with sessions := sessions } }

/-- `_handle_session_envelope`. -/
def onSessionEnvelope (m : Runtime) (message : Json) : Runtime :=
  match message.get "sender" with
  | .str sender =>
    match m.peers.sessions.get? sender with
    | none => m.goto .draining
    | some session =>
      match session.decrypt env.aead message m.now with
      | (_, .error _) => (m.setSessions (m.peers.sessions.erase sender)).goto .reading
      | (session, .ok body) => (m.setSessions (m.peers.sessions.insert sender session)).dispatch env sender body
  | sender => if sender.hashKey?.isNone then m.raises .type else m.goto .draining

/-- A message of type `session_reset`. -/
def onSessionReset (m : Runtime) (message : Json) : Runtime :=
  if (message.get "recipient").pyEq (.str env.clientId) = false then m.goto .reading
  else match message.get "sender" with
    | .str sender => (m.setSessions (m.peers.sessions.erase sender)).goto .reading
    | sender => if sender.hashKey?.isNone then m.tear .type else m.goto .reading

/-- A message of type `envelope`. -/
def onEnvelope (m : Runtime) (message : Json) : Runtime :=
  match m.peers.handleEnvelope env.rsa env.aead env.hkdf env.hmac env.clientId message m.now with
  | (peers, .error e) => { m with peers := peers }.tear e
  | (peers, .ok (sender, _)) =>
    match peers.sessions.get? sender, peers.keys.get? sender with
    | some session, some key =>
      let m := { m with peers := peers }.record (.accepted sender session)
      -- `_send_envelope`.
      match env.rsa.wraps key with
      | .error e => m.tear e
      | .ok _ => m.goto .draining
    | _, _ => { m with peers := peers }.goto .draining

/-- A line of the relay. Acknowledgements and other messages are only logged. -/
def onFrame (m : Runtime) (message : Json) : Runtime :=
  if ¬ message.isObj then m.tear .attribute
  else if message.get "type" = .str "ping" then
    match message.get "nonce" with
    | .str nonce => if nonce = "" then m.goto .reading else m.goto .draining
    | _ => m.goto .reading
  else if message.get "type" = .str "envelope" then m.onEnvelope env message
  else if message.get "type" = .str "session_envelope" then m.onSessionEnvelope env message
  else if message.get "type" = .str "session_reset" then m.onSessionReset env message
  else m.goto .reading

/-! ## Sending -/

/-- `_send_session` once the lock is given: the session that is left, or the exception. -/
def encryptFor (m : Runtime) (peer : String) (body : Json) : Except PyError Runtime :=
  match m.peers.sessions.get? peer with
  | none => .error .value
  | some session =>
    match session.encrypt env.aead body m.now, session.sealed env.aead body with
    | (session', .ok _), .ok (nonce, _) =>
      .ok ((m.setSessions (m.peers.sessions.insert peer session')).record (.sealed peer session.sendKey nonce body))
    | (_, .error e), _ => .error e
    | _, .error e => .error e

/-- Create the worker of a transfer. -/
def startWorker (m : Runtime) (key : Key) : Runtime :=
  m.withTables { m.tables with
    transfers := m.tables.transfers.modify key fun transfer => { transfer with task := some {} } }

/-- A session frame has left. -/
def continueAfter (m : Runtime) : After → Runtime
  | .done => m.goto .reading
  | .transfer key => (m.startWorker key).goto .reading

/-- The loop sends what it has to. -/
def loopSend (m : Runtime) : Option Runtime :=
  match m.pc with
  | .sending sender body after =>
    match m.encryptFor env sender body with
    | .ok m => some (m.goto (.replied after))
    | .error e => some (m.raises e)
  | _ => none

/-- A write of the loop is complete, or the connection is lost. -/
def loopDrained (m : Runtime) (written : Bool) : Option Runtime :=
  match m.pc with
  | .draining => some (m.goto (if written then .reading else .offline))
  | .replied after => some (if written then m.continueAfter after else m.goto .offline)
  | _ => none

/-! ## Workers -/

def setPhase (m : Runtime) (key : Key) (transfer : Transfer) (phase : Phase) : Runtime :=
  m.withTables { m.tables with
    transfers := m.tables.transfers.insert key { transfer with task := some { phase := phase } } }

/-- The `finally` block of a worker. -/
def endWorker (m : Runtime) (key : Key) : Runtime :=
  m.withTables { m.tables with transfers := m.tables.transfers.erase key }

/-- A file or the callback of a worker failed. -/
def workerFails (m : Runtime) (key : Key) (transfer : Transfer) (cause : String) : Runtime :=
  let response := transferResponse transfer.wisp
    [("type", .str "error"), ("transfer_id", .str key.2), ("error", .str cause)]
  (m.withTables (m.tables.remember key.1 key.2 response m.now)).setPhase key transfer (.reporting (some response))

/-- The callback of a worker returned. With assets the worker ends where it prepares them. -/
def workerReturns (m : Runtime) (key : Key) (transfer : Transfer) : Result → Runtime
  | .raised _ cause => m.workerFails key transfer cause
  | result =>
    let retained := (retainedResponseBody transfer.wisp result).getD
      (operationStatusBody transfer.wisp "indeterminate" key.2)
    let m := m.withTables (m.tables.remember key.1 key.2 retained m.now)
    if result.assets = [] then
      m.setPhase key transfer (.reporting (some (responseBody transfer.wisp result.payload)))
    else m.endWorker key

/-- The next file of a worker, or its callback. -/
def workerProceeds (m : Runtime) (key : Key) (transfer : Transfer) (next : ℕ) : Runtime :=
  if next < transfer.files.size then m.setPhase key transfer (.receiving next)
  else (m.record (.started key m.now)).setPhase key transfer .calling

/-- A worker goes on. One that was cancelled only ends. -/
def workerStep (m : Runtime) (key : Key) (transfer : Transfer) (task : Task) (move : WorkerMove) : Option Runtime :=
  match task.cancelled, task.phase, move with
  -- A task that never ran has no `finally` block to run either.
  | true, .created, .cancelled => some (m.withTables { m.tables with
      transfers := m.tables.transfers.insert key { transfer with task := none } })
  | true, .calling, .cancelled => some { m.endWorker key with orphans := key :: m.orphans }
  | true, _, .cancelled => some (m.endWorker key)
  | true, _, _ => none
  | false, .created, .begin => some (m.workerProceeds key transfer 0)
  | false, .receiving index, .received => some (m.workerProceeds key transfer (index + 1))
  | false, .receiving _, .failed cause => some (m.workerFails key transfer cause)
  | false, .calling, .returns result =>
    some ((m.record (.finished key m.now)).workerReturns key transfer result)
  | false, .reporting (some body), .send =>
    -- The relay connection is awaited before the lock.
    if m.pc = .offline then none
    else match m.encryptFor env key.1 body with
      | .ok m => some (m.setPhase key transfer (.reporting none))
      | .error _ => some (m.endWorker key)
  | false, .reporting none, .drained => some (m.endWorker key)
  | false, _, _ => none

def onWorker (m : Runtime) (key : Key) (move : WorkerMove) : Option Runtime :=
  match m.tables.transfers.get? key with
  | none => none
  | some transfer =>
    match transfer.task with
    | none => none
    | some task => m.workerStep env key transfer task move

/-! ## The machine -/

/-- The cancelled workers that a sweep waits for have ended. -/
def workersEnded (m : Runtime) (due : List Key) : Bool :=
  due.all fun key => ((m.tables.transfers.get? key).bind (·.task)).isNone

def step (m : Runtime) : Event → Option Runtime
  | .tick seconds => some { m with now := m.now + seconds }
  | .frame message => if m.pc = .reading then some (m.onFrame env message) else none
  | .eof => if m.pc = .reading then some (m.goto .offline) else none
  | .reconnect => if m.pc = .offline then some (m.goto .reading) else none
  | .swept =>
    match m.pc with
    | .sweeping sender body due => if m.workersEnded due then some (m.afterSweep env sender body due) else none
    | _ => none
  | .returns result => m.returned result
  | .send => m.loopSend env
  | .drained written => m.loopDrained written
  | .worker key move => m.onWorker env key move
  | .orphanEnds key =>
    if key ∈ m.orphans then
      some ({ m with orphans := m.orphans.erase key }.record (.finished key m.now))
    else none

/-- A runtime that has pinned keys at most. -/
def Initial (m : Runtime) : Prop :=
  m.peers.sessions = .empty ∧ m.tables = {} ∧ m.pc = .offline ∧ m.orphans = [] ∧ m.log = []

end Runtime

end WispGate.Model.Wisp
