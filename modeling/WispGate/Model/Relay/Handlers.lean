import WispGate.Model.Relay.Sections
import WispGate.Data.Transition

/-! # The relay's connection handlers

The control and the relay port as one machine. A connection stands at the await its handler is
suspended in; an event resumes it with what the await ended in, and it runs to its next await.
Lines that reached the process wait in the connection's buffer, also after its writer was closed,
and end of stream is read behind them. A send may suspend, complete or fail; whatever was written
is recorded in the log together with what the handshakes established and what was forwarded.
-/

namespace WispGate.Model.Relay

open Data

/-- What follows a broadcast. -/
inductive After where
  | reading
  | subscribed
  | closing
  | drop (destination : ConnId)
deriving DecidableEq

/-- The awaits of the two handlers. Those that read lines are `reads`; the others wait for a writer. -/
inductive Pc where
  | hello
  | bootstrapAnswer
  | authHello
  | challenge (pending : Pending)
  | proof (pending : Pending)
  | authenticated (clientId : String)
  | answered
  | request
  | joined
  | registration
  | registered
  | subscribed
  | subscribedAnswer
  | ready
  | queued (rest : List Json)
  | broadcasting (current : String) (rest : List (String × ConnId)) (stale : List String) (after : After)
  | reading
  | heartbeat
  | accepting (recipient : String) (destination : ConnId) (frame : Json)
  | delivering (recipient : String) (destination : ConnId)
  | dropping (destination : ConnId)
  | closing
  | done
deriving DecidableEq

/-- A line of input: a JSON value, or text that is none. -/
abbrev Line := Option Json

structure Connection where
  port : Port
  clientId : Option String := none
  buffer : List Line := []
  ended : Bool := false
  pc : Pc := .hello
deriving DecidableEq

/-- What happened, newest first in the machine's log. -/
inductive Entry where
  | wrote (conn : ConnId) (frame : Json)
  | challenged (conn : ConnId) (challenge : String)
  | proved (conn : ConnId) (proof : Proof)
  | authenticated (conn : ConnId) (clientId : String)
  | forwarded (conn : ConnId) (sender : String) (destination : ConnId) (frame : Json)
deriving DecidableEq

structure Machine where
  runtime : RelayRuntime := {}
  connections : Dict ConnId Connection := .empty
  now : ℕ := 0
  wallClock : ℕ := 0
  drawn : List String := []
  log : List Entry := []
deriving DecidableEq

/-- How an await ends. -/
inductive Outcome where
  | read
  | sent
  | lost
  | timeout
  | overrun
deriving DecidableEq

inductive Event where
  | connect (conn : ConnId) (port : Port)
  | receive (conn : ConnId) (line : Line)
  | hangup (conn : ConnId)
  | resume (conn : ConnId) (outcome : Outcome) (draw : Draw)
  | tick (seconds : ℕ)
deriving DecidableEq

namespace Machine

variable (env : Env)

/-! ## Small moves -/

def goto (m : Machine) (conn : ConnId) (pc : Pc) : Machine :=
  { m with connections := m.connections.modify conn fun c => { c with pc := pc } }

def setClient (m : Machine) (conn : ConnId) (clientId : String) : Machine :=
  { m with connections := m.connections.modify conn fun c => { c with clientId := some clientId } }

def record (m : Machine) (entry : Entry) : Machine := { m with log := entry :: m.log }

def write (m : Machine) (conn : ConnId) (frame : Json) : Machine := m.record (.wrote conn frame)

def withRuntime (m : Machine) (rt : RelayRuntime) : Machine := { m with runtime := rt }

def closeWriter (m : Machine) (conn : ConnId) : Machine :=
  m.withRuntime { m.runtime with closed := conn :: m.runtime.closed }

/-- Answer on the handler's own writer and wait there. -/
def send (m : Machine) (conn : ConnId) (frame : Json) (pc : Pc) : Machine := (m.write conn frame).goto conn pc

/-- `writer.close()` and the wait for it, the end of every handler. -/
def close (m : Machine) (conn : ConnId) : Machine := (m.closeWriter conn).goto conn .closing

/-- Forget a client's relay session and its liveness. -/
def dropSession (m : Machine) (clientId : String) : Machine :=
  m.withRuntime { m.runtime with
    sessions := m.runtime.sessions.erase clientId
    relayLiveness := m.runtime.relayLiveness.erase clientId }

def dropControl (m : Machine) (clientId : String) : Machine :=
  m.withRuntime { m.runtime with controlSessions := m.runtime.controlSessions.erase clientId }

/-! ## Broadcasts -/

def continueAfter (m : Machine) (conn : ConnId) : After → Machine
  | .reading => m.goto conn .reading
  | .subscribed => m.goto conn .subscribed
  | .closing => m.close conn
  | .drop destination => (m.closeWriter destination).goto conn (.dropping destination)

/-- The next turn of the broadcast loop, or its end. -/
def broadcastNext (m : Machine) (conn : ConnId) (rest : List (String × ConnId)) (stale : List String)
    (after : After) : Except PyError Machine :=
  match rest with
  | [] => .ok ((stale.foldl dropControl m).continueAfter conn after)
  | (clientId, writer) :: rest =>
    match m.runtime.catalogItems env m.now (some clientId) with
    | .error e => .error e
    | .ok items =>
      .ok ((m.write writer (RelayRuntime.answer [("type", .str "catalog_update"), ("items", .arr items)])).goto
        conn (.broadcasting clientId rest stale after))

def startBroadcast (m : Machine) (conn : ConnId) (after : After) : Except PyError Machine :=
  match m.runtime.catalogItems env m.now none with
  | .error e => .error e
  | .ok _ => m.broadcastNext env conn m.runtime.controlSessions.entries [] after

/-! ## Leaving a handler -/

/-- The `finally` block. An exception in it ends the handler where it stands. -/
def finish (m : Machine) (conn : ConnId) (c : Connection) : Machine :=
  match c.port, c.clientId with
  | .relay, some clientId =>
    if m.runtime.sessions.get? clientId = some conn then
      match (m.dropSession clientId).startBroadcast env conn .closing with
      | .ok m => m
      | .error _ => (m.dropSession clientId).goto conn .done
    else m.close conn
  | .control, some clientId =>
    if m.runtime.controlSessions.get? clientId = some conn then (m.dropControl clientId).close conn
    else m.close conn
  | _, none => m.close conn

/-- The exceptions the control handler answers. -/
def caught : PyError → Bool
  | .key | .value | .timeout => true
  | _ => false

/-- An exception in the body of a handler. -/
def raises (m : Machine) (conn : ConnId) (c : Connection) (e : PyError) : Machine :=
  if c.port = .control ∧ caught e then m.send conn (RelayRuntime.refusal "invalid_bootstrap") .answered
  else m.finish env conn c

/-- Broadcast from the body of a handler. -/
def broadcast (m : Machine) (conn : ConnId) (c : Connection) (after : After) : Machine :=
  match m.startBroadcast env conn after with
  | .ok m => m
  | .error e => m.raises env conn c e

/-- Go on with a broadcast from the body or from the `finally` block. -/
def broadcastOn (m : Machine) (conn : ConnId) (c : Connection) (rest : List (String × ConnId))
    (stale : List String) (after : After) : Machine :=
  match m.broadcastNext env conn rest stale after with
  | .ok m => m
  | .error e => if after = .closing then m.goto conn .done else m.raises env conn c e

/-! ## Forwarding -/

/-- Write a frame to its destination. -/
def deliver (m : Machine) (conn : ConnId) (sender recipient : String) (destination : ConnId)
    (frame : Json) : Machine :=
  ((m.write destination frame).record (.forwarded conn sender destination frame)).goto conn
    (.delivering recipient destination)

/-- Answer a sender on the connection registered for it, if any. -/
def answerSender (m : Machine) (conn : ConnId) (sender : String) (frame : Json) : Machine :=
  match m.runtime.sessions.get? sender with
  | some writer => (m.write writer frame).goto conn .heartbeat
  | none => m.goto conn .reading

def forward (m : Machine) (conn : ConnId) (c : Connection) (sender : String) (envelope : Json) : Machine :=
  if ¬ forwardable sender envelope then
    m.answerSender conn sender (RelayRuntime.refusal "invalid_envelope")
  else match (envelope.get "recipient").hashKey? with
    | none => m.raises env conn c .type
    | some _ =>
      match (envelope.get "recipient").asStr?.bind fun id => (m.runtime.sessions.get? id).map (id, ·) with
      | none => m.answerSender conn sender (RelayRuntime.refusal "recipient_offline")
      | some (recipient, destination) =>
        match m.runtime.sessions.get? sender with
        | some source =>
          (m.write source (acceptance envelope)).goto conn (.accepting recipient destination envelope)
        | none => m.deliver conn sender recipient destination envelope

/-- A failed write to a destination: forget it unless it was replaced, tell the catalog, close it. -/
def destinationLost (m : Machine) (conn : ConnId) (c : Connection) (recipient : String)
    (destination : ConnId) : Machine :=
  if m.runtime.sessions.get? recipient = some destination then
    (m.dropSession recipient).broadcast env conn c (.drop destination)
  else m.continueAfter conn (.drop destination)

/-! ## Handling lines -/

/-- A reply of a synchronous section: wait for the answer to leave, then return or go on. -/
def reply (m : Machine) (conn : ConnId) (next : Pc) : Reply → Machine
  | .returns frame => m.send conn frame .answered
  | .continues frame => m.send conn frame next

/-- A heartbeat nonce the relay echoes. -/
def validNonce (message : Json) : Bool := textWithin (message.get "nonce") 1 128

def pong (message : Json) : Json := .obj [("type", .str "pong"), ("nonce", message.get "nonce")]

/-- The hello of a handshake, up to its challenge. -/
def onAuthHello (m : Machine) (conn : ConnId) (c : Connection) (hello : Json) (draw : Draw) : Machine :=
  match m.runtime.beginAuthentication env m.now c.port hello draw with
  | .error e => m.raises env conn c e
  | .ok (.refused frame) => m.send conn frame .answered
  | .ok (.challenged rt pending frame) =>
    (({ m.withRuntime rt with drawn := draw.challenge :: draw.slot :: m.drawn }.record
      (.challenged conn draw.challenge)).send conn frame (.challenge pending))

/-- The first line of a connection. -/
def onHello (m : Machine) (conn : ConnId) (c : Connection) (hello : Json) (draw : Draw) : Machine :=
  if c.port = .control ∧ hello.get "type" = .str "bootstrap_request" then
    if ¬ env.certificate then m.send conn (RelayRuntime.refusal "bootstrap_unavailable") .answered
    else match (member hello "payload").bind asciiText |>.bind (decryptBootstrapRequest env) with
      | .error e => m.raises env conn c e
      | .ok request =>
        -- The handler's client id is now the requested one, whatever the outcome.
        let c := { c with clientId := some request.clientId }
        let m := m.setClient conn request.clientId
        match m.runtime.bootstrap env m.wallClock request with
        | (rt, .error e) => (m.withRuntime rt).raises env conn c e
        | (rt, .ok outcome) => (m.withRuntime rt).reply conn .bootstrapAnswer outcome
  else m.onAuthHello env conn c hello draw

/-- The proof of a handshake. -/
def onProof (m : Machine) (conn : ConnId) (c : Connection) (pending : Pending) (line : Json) : Machine :=
  match m.runtime.concludeAuthentication env m.now c.port pending line with
  | (rt, .error e) => (m.withRuntime rt).raises env conn c e
  | (rt, .ok (.refused frame)) => (m.withRuntime rt).send conn frame .answered
  | (rt, .ok (.authenticated proof)) =>
    ((m.withRuntime rt).record (.proved conn proof)).send conn
      (RelayRuntime.answer [("type", .str "authenticated"), ("client_id", .str proof.clientId)])
      (.authenticated proof.clientId)

/-- The answer to a management request, under the frame type every port gives it. -/
def managementResponse (response : Json) : Json :=
  match response with
  | .obj fields => .obj (("type", .str "management_response") :: fields)
  | other => other

/-- Serve the management request in a message, then wait at `next`. -/
def onManagement (m : Machine) (conn : ConnId) (c : Connection) (clientId : String) (message : Json)
    (next : Pc) : Machine :=
  match m.runtime.managementRequest env m.now clientId (message.getD "request" (.obj [])) with
  | (rt, .error e) => (m.withRuntime rt).raises env conn c e
  | (rt, .ok response) => (m.withRuntime rt).send conn (managementResponse response) next

/-- The first request of an authenticated control connection. -/
def onRequest (m : Machine) (conn : ConnId) (c : Connection) (clientId : String) (request : Json) : Machine :=
  if ¬ request.isObj then m.raises env conn c .attribute
  else if request.get "type" = .str "management_request" then
    m.onManagement env conn c clientId request .answered
  else if request.get "type" ≠ .str "join" then
    m.send conn (RelayRuntime.refusal "invalid_bootstrap") .answered
  else match checkJoin env m.wallClock clientId request with
    | .error e => m.raises env conn c e
    | .ok _ =>
      let m := m.withRuntime { m.runtime with state := m.runtime.state.save }
      match m.runtime.catalogItems env m.now (some clientId) with
      | .error e => m.raises env conn c e
      | .ok items =>
        let queued := ((m.runtime.state.queues.get? clientId).getD []).length
        m.send conn (RelayRuntime.answer [("type", .str "joined"), ("client_id", .str clientId),
          ("queued", .int queued), ("wisps", .arr items)]) .joined

/-- The message after a join. -/
def onRegistration (m : Machine) (conn : ConnId) (c : Connection) (clientId : String) (message : Json) :
    Machine :=
  if ¬ message.isObj then m.raises env conn c .attribute
  else if message.get "type" = .str "management_request" then
    m.onManagement env conn c clientId message .answered
  else if message.get "type" = .str "wisps" then
    match m.runtime.registerWisps env m.now clientId message with
    | (rt, .error e) => (m.withRuntime rt).raises env conn c e
    | (rt, .ok response) => (m.withRuntime rt).send conn response .registered
  else m.finish env conn c

/-- A message of a subscribed control client. -/
def onSubscribed (m : Machine) (conn : ConnId) (c : Connection) (clientId : String) (message : Json) :
    Machine :=
  if ¬ message.isObj then m.raises env conn c .attribute
  else if message.get "type" = .str "ping" then
    if validNonce message then m.send conn (pong message) .subscribedAnswer else m.goto conn .subscribed
  else if message.get "type" = .str "management_request" then
    m.onManagement env conn c clientId message .subscribedAnswer
  else m.goto conn .subscribed

def applicationTypes : List Json := [.str "envelope", .str "session_envelope", .str "session_reset"]

/-- A message of an established relay connection. -/
def onMessage (m : Machine) (conn : ConnId) (c : Connection) (clientId : String) (message : Json) : Machine :=
  if ¬ message.isObj then m.raises env conn c .attribute
  else if message.get "type" = .str "ping" then
    m.send conn (if validNonce message then pong message else RelayRuntime.refusal "invalid_heartbeat")
      .heartbeat
  else if message.get "type" = .str "pong" then m.goto conn .reading
  else if (message.get "type").hashKey? = none then m.raises env conn c .type
  else if message.get "type" ∉ applicationTypes then
    m.send conn (RelayRuntime.refusal "invalid_envelope") .heartbeat
  else m.forward env conn c clientId message

/-! ## Resuming -/

inductive Input where
  | json (value : Json)
  | garbage
  | eof

/-- The next line of the buffer, end of stream behind it once either side closed. -/
def nextInput (c : Connection) (closed : Bool) : Option (Input × List Line) :=
  match c.buffer with
  | some value :: rest => some (.json value, rest)
  | none :: rest => some (.garbage, rest)
  | [] => if closed || c.ended then some (.eof, []) else none

/-- A line read where the handler parses it before anything else. -/
def onLine (m : Machine) (conn : ConnId) (c : Connection) (input : Input) (handle : Json → Machine) : Machine :=
  match input with
  | .json value => handle value
  | .garbage | .eof => m.raises env conn c .value

/-- A line read where end of stream leaves the handler. -/
def onLoopLine (m : Machine) (conn : ConnId) (c : Connection) (input : Input) (handle : Json → Machine) :
    Machine :=
  match input with
  | .json value => handle value
  | .garbage => m.raises env conn c .value
  | .eof => m.finish env conn c

/-- The relay heard from a client. -/
def touch (m : Machine) (clientId : String) : Machine :=
  m.withRuntime { m.runtime with relayLiveness := m.runtime.relayLiveness.insert clientId m.now }

/-- The handler continues with what it read. -/
def onRead (m : Machine) (conn : ConnId) (c : Connection) (input : Input) (draw : Draw) : Option Machine :=
  match c.pc with
  | .hello => some (m.onLine env conn c input fun hello => m.onHello env conn c hello draw)
  | .authHello => some (m.onLine env conn c input fun hello => m.onAuthHello env conn c hello draw)
  | .proof pending => some (m.onLine env conn c input fun line => m.onProof env conn c pending line)
  | .request => some (m.onLine env conn c input fun line => m.onRequest env conn c (c.clientId.getD "") line)
  | .registration => some (m.onLoopLine env conn c input fun line =>
      m.onRegistration env conn c (c.clientId.getD "") line)
  | .subscribed => some (m.onLoopLine env conn c input fun line =>
      m.onSubscribed env conn c (c.clientId.getD "") line)
  | .reading =>
    match input with
    | .eof => some (m.finish env conn c)
    | .garbage => some ((m.touch (c.clientId.getD "")).raises env conn c .value)
    | .json line =>
      some ((m.touch (c.clientId.getD "")).onMessage env conn c (c.clientId.getD "") line)
  | _ => none

/-- Register a relay connection for its client, in place of an older one. -/
def registerSession (m : Machine) (conn : ConnId) (clientId : String) : Machine :=
  m.withRuntime { m.runtime with
    sessions := m.runtime.sessions.insert clientId conn
    relayLiveness := m.runtime.relayLiveness.insert clientId m.now }

/-- Note in a client's record when it connected. -/
def markSeen (m : Machine) (clientId : String) : Machine :=
  let clients := m.runtime.state.clients.modify clientId fun client => { client with lastSeen := some m.now }
  m.withRuntime { m.runtime with state := { m.runtime.state with clients := clients } }

def readyFrame (clientId : String) : Json :=
  RelayRuntime.answer [("type", .str "ready"), ("client_id", .str clientId)]

/-- Both handlers after a successful handshake. The relay's registers the connection and greets it. -/
def onAuthenticated (m : Machine) (conn : ConnId) (c : Connection) (clientId : String) : Machine :=
  let c := { c with clientId := some clientId }
  let m := (m.setClient conn clientId).record (.authenticated conn clientId)
  match c.port with
  | .control => m.goto conn .request
  | .relay =>
    let m := m.registerSession conn clientId
    if m.runtime.state.clients.contains clientId then
      (m.markSeen clientId).send conn (readyFrame clientId) .ready
    else m.raises env conn c .key

/-- The next queued frame of a fresh relay connection, or the end of the queue. -/
def sendQueued (m : Machine) (conn : ConnId) (c : Connection) : List Json → Machine
  | frame :: rest => m.send conn frame (.queued rest)
  | [] =>
    (m.withRuntime { m.runtime with state := m.runtime.state.save }).broadcast env conn c .reading

/-- The handler continues after a completed write. -/
def onSent (m : Machine) (conn : ConnId) (c : Connection) : Option Machine :=
  match c.pc with
  | .bootstrapAnswer => some (m.goto conn .authHello)
  | .challenge pending => some (m.goto conn (.proof pending))
  | .authenticated clientId => some (m.onAuthenticated env conn c clientId)
  | .answered => some (m.finish env conn c)
  | .joined => some (m.goto conn .registration)
  | .registered =>
    let rt := { m.runtime with
      controlSessions := m.runtime.controlSessions.insert (c.clientId.getD "") conn }
    some ((m.withRuntime rt).broadcast env conn c .subscribed)
  | .subscribedAnswer => some (m.goto conn .subscribed)
  | .ready =>
    let (state, queue) := m.runtime.state.drain (c.clientId.getD "")
    some ((m.withRuntime { m.runtime with state := state }).sendQueued env conn c queue)
  | .queued rest => some (m.sendQueued env conn c rest)
  | .broadcasting _ rest stale after => some (m.broadcastOn env conn c rest stale after)
  | .heartbeat => some (m.goto conn .reading)
  | .accepting recipient destination frame =>
    some (m.deliver conn (c.clientId.getD "") recipient destination frame)
  | .delivering _ _ => some (m.goto conn .reading)
  | .dropping _ => some (m.goto conn .reading)
  | .closing => some (m.goto conn .done)
  | _ => none

/-- The handler continues after a failed write. -/
def onLost (m : Machine) (conn : ConnId) (c : Connection) : Option Machine :=
  match c.pc with
  | .answered => some (m.finish env conn c)
  | .broadcasting current rest stale after =>
    some (m.broadcastOn env conn c rest (stale ++ [current]) after)
  | .delivering recipient destination => some (m.destinationLost env conn c recipient destination)
  | .dropping _ => some (m.goto conn .reading)
  | .closing => some (m.goto conn .done)
  | .done => none
  | _ => some (m.raises env conn c .connection)

/-- Awaits of a line, and among them those with a timeout. -/
def readsLine : Pc → Bool
  | .hello | .authHello | .proof _ | .request | .registration | .subscribed | .reading => true
  | _ => false

def timed : Pc → Bool
  | .subscribed => false
  | pc => readsLine pc

def setBuffer (m : Machine) (conn : ConnId) (buffer : List Line) : Machine :=
  { m with connections := m.connections.modify conn fun c => { c with buffer := buffer } }

/-- Resume the handler of a connection. Values once drawn are not drawn again. -/
def resume (m : Machine) (conn : ConnId) (c : Connection) (outcome : Outcome) (draw : Draw) :
    Option Machine :=
  match outcome with
  | .read =>
    if draw.challenge ∈ m.drawn ∨ draw.slot ∈ m.drawn then none
    else match nextInput c (m.runtime.closed.contains conn) with
      | none => none
      | some (input, buffer) =>
        (m.setBuffer conn buffer).onRead env conn { c with buffer := buffer } input draw
  | .sent => m.onSent env conn c
  | .lost => m.onLost env conn c
  | .timeout => if timed c.pc then some (m.raises env conn c .timeout) else none
  | .overrun => if readsLine c.pc then some (m.raises env conn c .value) else none

def step (m : Machine) : Event → Option Machine
  | .connect conn port =>
    if m.connections.contains conn then none
    else some { m with connections := m.connections.insert conn { port } }
  | .receive conn line =>
    match m.connections.get? conn with
    | none => none
    | some c =>
      if m.runtime.closed.contains conn ∨ c.ended then none
      else some (m.setBuffer conn (c.buffer ++ [line]))
  | .hangup conn =>
    match m.connections.get? conn with
    | none => none
    | some c => some { m with connections := m.connections.insert conn { c with ended := true } }
  | .resume conn outcome draw =>
    match m.connections.get? conn with
    | none => none
    | some c => m.resume env conn c outcome draw
  | .tick seconds => some { m with now := m.now + seconds, wallClock := m.wallClock + seconds }

/-- A relay that just started with the given durable state. -/
def Initial (m : Machine) : Prop :=
  m.runtime.sessions = .empty ∧ m.runtime.relayLiveness = .empty ∧ m.runtime.controlSessions = .empty ∧
    m.runtime.authChallenges = .empty ∧ m.connections = .empty ∧ m.log = []

end Machine

end WispGate.Model.Relay
