import WispGate.Data.Effects
import WispGate.Model.Android.BulkSocket

/-! # Requests of the Android client

`RelayClient.sendAction` and `sendFileAction`, with `recoverMutationOnce`, the cache of peer sessions, and
the frames of a session. A `World` says what happens at each step that leaves the phone's own code: the step
stops the call, with an exception of some kind or for good, or it succeeds with some value. Counters and keys
of a session are not followed, since whether a frame can be sealed or opened is a step. Times are whole
seconds.
-/

namespace WispGate.Model.Android

open Data

def managementWispId : String := "management"

/-- What `catch` clauses tell apart. -/
inductive Kind where
  /-- A `RecoverableSessionFailure`. -/
  | session
  /-- An `IOException`. -/
  | io
  /-- Another `Exception`. -/
  | other
  /-- A `Throwable` that is no `Exception`. -/
  | error
deriving DecidableEq

/-- Why a call does not return: it threw, or it waits for good. -/
inductive Stop where
  | thrown (kind : Kind) (text : String)
  | waiting
deriving DecidableEq

/-- What a call leaves outside of itself, in order. Of what a write sends, all or a part may have left. -/
inductive ClientEvent where
  /-- The sessions of an owner were removed from the cache. -/
  | invalidated (owner : String)
  /-- A handshake ended in a session, which is in the cache. -/
  | established (session : PeerSession)
  /-- A body was sent in a session. -/
  | frame (session : PeerSession) (body : Json)
  /-- The header of a bulk connection was sent. -/
  | bulkConnect (role sessionId transferId : String)
  | managementRequest (request : Json)
deriving DecidableEq

structure ClientState where
  peerSessions : Dict String PeerSession := .empty
  /-- The flag of the file action. -/
  reconnecting : Bool := false
  events : List ClientEvent := []
  /-- The steps so far. -/
  time : ℕ := 0

abbrev Client := EStateM Stop ClientState

structure ClientWisp where
  id : String
  owner : String
  publicKey : String
deriving DecidableEq

structure WispState where
  wispId : String
  html : String
  assets : List String := []
deriving DecidableEq

/-- What the outside does at each step, and what the platform makes of texts and values. -/
structure World extends Platform where
  clientId : String
  hkdf : Hkdf
  boolean : Json → Bool
  object : String → Option Json
  fingerprint : String → String
  /-- Whether a step stops the call. -/
  stop : ℕ → Option Stop
  /-- The frame that a read returns. -/
  read : ℕ → Json
  /-- The body that a frame opens to. -/
  body : ℕ → Json
  /-- The key that is trusted for a peer. -/
  peerKey : ℕ → String
  now : ℕ → ℕ
  /-- The session that a handshake ends in. -/
  session : ℕ → PeerSession
  nonce : ℕ → ℕ → Bytes
  uuid : ℕ → String
  /-- The message of an exception of the platform. -/
  message : ℕ → String
  /-- The frames that the loop for an acceptance reads before it waits for good. -/
  patience : ℕ

/-! ## Operations -/

namespace OperationProtocol

inductive Status where
  | running
  | completed
deriving DecidableEq

def userAction (wispId : String) (actionData : Json) (operationId : String) : Json :=
  .obj [("wisp_id", .str wispId), ("action", .str "user_action"), ("operation_id", .str operationId),
    ("action_data", actionData)]

def resume (wispId operationId : String) : Json :=
  .obj [("wisp_id", .str wispId), ("action", .str "operation_resume"), ("operation_id", .str operationId)]

/-- `recoveryStatus`, or the text of its exception. -/
def recoveryStatus (status : Option String) (operationId : String) : Except String Status :=
  if status = some "running" then .ok .running
  else if status = some "completed" then .ok .completed
  else .error ("Operation " ++ operationId ++ " is " ++ status.getD "unknown" ++ "; retry explicitly")

end OperationProtocol

/-! ## Failures -/

/-- `error`, and what else throws an exception that is not retried. -/
def fail {α : Type} (text : String) : Client α := throw (.thrown .other text)

/-- A block whose exceptions become session failures. -/
def asSessionFailure {α : Type} (text : String) (block : Client α) : Client α :=
  tryCatch block fun stop =>
    match stop with
    | .waiting => throw stop
    | .thrown kind _ => if kind = .error then throw stop else throw (.thrown .session text)

/-- `recoverMutationOnce`. -/
def recoverMutationOnce {α : Type} (operationId : String) (invalidate : Client Unit) (start resume : String → Client α) :
    Client α :=
  tryCatch (start operationId) fun stop =>
    match stop with
    | .waiting => throw stop
    | .thrown kind text =>
      if kind ≠ .session ∧ kind ≠ .io then throw stop
      else do
        invalidate
        tryCatch (resume operationId) fun resumeStop =>
          match resumeStop with
          | .waiting => throw resumeStop
          | .thrown resumeKind resumeText =>
            if resumeKind = .error then throw resumeStop
            else fail ("Initial operation failed: " ++ text ++ "; resume failed: " ++ resumeText)

/-- Whether a key of the cache belongs to an owner. -/
def ownedBy (owner key : String) : Bool := (owner ++ ":").toList.isPrefixOf key.toList

/-- `peerSessions.keys.removeAll`, for the sessions of an owner. -/
def ClientState.forget (s : ClientState) (owner : String) : ClientState :=
  { s with peerSessions := s.peerSessions.filter fun key _ => !ownedBy owner key }

def record (event : ClientEvent) : Client Unit := modify fun s => { s with events := s.events ++ [event] }

def invalidatePeerSession (owner : String) : Client Unit := do
  modify fun s => s.forget owner
  record (.invalidated owner)

/-! ## The connection -/

namespace World

variable (world : World)

/-- A step that succeeds with a value, if it does. -/
def ask {α : Type} (answer : ℕ → α) : Client α := fun s =>
  match world.stop s.time with
  | none => .ok (answer s.time) { s with time := s.time + 1 }
  | some stop => .error stop { s with time := s.time + 1 }

def step : Client Unit := world.ask fun _ => ()

/-- An exception of the platform that is not retried. -/
def refuse {α : Type} : Client α := do
  let text ← world.ask world.message
  fail text

def optBoolean (value : Json) (name : String) : Bool :=
  match value.get name with
  | .bool flag => flag
  | other => world.boolean other

def readJson : Client Json := world.ask world.read

/-- `requirePeerApplicationFrame`. -/
def requirePeerApplicationFrame (frame : Json) (expectedPeer expectedLocalId : String) : Client Json :=
  if world.optString frame "type" "" ≠ "session_reset" then pure frame
  else if world.optString frame "sender" "" ≠ expectedPeer ∨ world.optString frame "recipient" "" ≠ expectedLocalId ∨
      world.optString frame "reason" "" ≠ "unknown_session" then fail "Invalid session reset"
  else throw (.thrown .session "Peer requested session reset: unknown_session")

def readSessionResponse (session : PeerSession) (stage : String) : Client Json :=
  asSessionFailure ("Peer session failed while waiting for " ++ stage) do
    let raw ← world.readJson
    let _ ← world.requirePeerApplicationFrame raw session.peerId world.clientId
    -- `decrypt`
    world.ask world.body

def exchangeSessionFrame (session : PeerSession) (body : Json) (rejectionMessage responseStage : String) : Client Json := do
  asSessionFailure "Could not send peer-session frame" do
    -- `encrypt`
    world.step
    record (.frame session body)
    world.step
  let accepted ← asSessionFailure "Relay closed while accepting peer-session frame" world.readJson
  if world.optBoolean accepted "ok" then world.readSessionResponse session responseStage
  else fail (world.optString accepted "error" rejectionMessage)

/-- The loop of `readSessionAcceptance`. -/
def readSessionAcceptance : ℕ → Client Json
  | 0 => throw .waiting
  | patience + 1 => do
    let frame ← world.readJson
    if world.optString frame "type" "" = "accepted" then
      if world.optBoolean frame "ok" then readSessionAcceptance patience
      else fail (world.optString frame "error" "Session handshake rejected")
    else return frame

/-- The handshake of `sessionFor`. -/
def handshake (cacheKey : String) : Client PeerSession := do
  -- `SessionHandshake.begin` and the write of its envelope
  world.step
  world.step
  let accepted ← world.readJson
  if world.optBoolean accepted "ok" then do
    let _ ← world.readSessionAcceptance world.patience
    let session ← world.ask world.session
    modify fun s => { s with peerSessions := s.peerSessions.insert cacheKey session }
    record (.established session)
    return session
  else fail (world.optString accepted "error" "Session handshake rejected")

def sessionFor (owner peerPublicKey : String) : Client PeerSession := do
  -- `decode64` may throw
  world.step
  let cacheKey := owner ++ ":" ++ world.fingerprint peerPublicKey
  let now ← world.ask world.now
  let s ← get
  match (s.peerSessions.get? cacheKey).filter (·.live now) with
  | some session => return session
  | none => do
    modify fun s => s.forget owner
    world.handshake cacheKey

/-- What both kinds of attempts do around their exchange: the switch to the dispatcher and back, the
connection and its end, the authentication and the session. -/
def inSession {α : Type} (wisp : ClientWisp) (block : PeerSession → Client α) : Client α := do
  world.step
  -- `relaySocket` and `authenticateEndpoint`
  world.step
  world.step
  let peerKey ← world.ask world.peerKey
  let session ← world.sessionFor wisp.owner peerKey
  let value ← block session
  -- a failure of the block wins over one of the close
  world.step
  world.step
  return value

/-! ## Answers -/

/-- The assets of a response, one after the other: their ids. -/
def receiveAssets (session : PeerSession) : List InboundAssetOffer → Client (List String)
  | [] => pure []
  | offer :: rest => do
    world.step
    record (.bulkConnect "receiver" session.sessionId offer.transferId)
    world.step
    let received ← receiveAssets session rest
    return offer.id :: received

def receiveWispState (wisp : ClientWisp) (session : PeerSession) (body : Json) : Client WispState :=
  match getObject body "assets" with
  | none =>
    pure ⟨wisp.id, ((getObject body "response").map fun response => world.optString response "html" "").getD "", []⟩
  | some _ =>
    match parseAssets world.toPlatform body with
    | none => world.refuse
    | some parsed =>
      if parsed.wispId ≠ wisp.id then fail "Wisp asset response used the wrong Wisp id"
      else do
        let received ← world.receiveAssets session parsed.offers
        let response ← world.readSessionResponse session "Wisp asset completion"
        match getObject response "assets" with
        | none => world.refuse
        | some completion =>
          if world.getString completion "type" = some "complete" ∧
              world.getString completion "transfer_id" = some parsed.transferId then
            return ⟨parsed.wispId, parsed.html, received⟩
          else fail "Unexpected Wisp asset completion"

/-- What becomes of the answer to a resumption. -/
def recovered (session : PeerSession) (resumed : Json) (operationId stage : String) : Client Json :=
  match OperationProtocol.recoveryStatus
      ((getObject resumed "operation").map fun operation => world.optString operation "type" "") operationId with
  | .ok .completed => pure resumed
  | .ok .running => world.readSessionResponse session stage
  | .error text => fail text

/-! ## Actions -/

/-- The connections to the control port that `managementRequest` makes. -/
def managementRequest (request : Json) : Client Json := do
  world.step
  world.step
  let joined ← world.readJson
  if world.optBoolean joined "ok" then do
    record (.managementRequest request)
    world.step
    world.readJson
  else fail (world.optString joined "error" "Join failed")

def requestManagementState (actionError : Option String) : Client WispState := do
  let state ← world.managementRequest (.obj [("action", .str "state")])
  if world.optBoolean state "ok" then return ⟨managementWispId, world.optString state "html" "", []⟩
  else fail (actionError.getD (world.optString state "error" "Management state unavailable"))

def performActionAttempt (wisp : ClientWisp) (body : Json) (operationId : String) (recovering : Bool) : Client WispState :=
  world.inSession wisp fun session => do
    let response ← world.exchangeSessionFrame session body
      (if recovering then "Operation resume rejected" else "Action rejected")
      (if recovering then "Wisp operation status" else "Wisp action response")
    let response ← (if recovering then world.recovered session response operationId "Wisp operation completion"
      else pure response)
    world.receiveWispState wisp session response

/-- `sendAction` for the management wisp. -/
def sendManagementAction (action : String) : Client WispState :=
  match world.object action with
  | none => world.requestManagementState (some "Invalid management action")
  | some request => do
    let result ← world.managementRequest request
    if world.optBoolean result "ok" && result.has "html" then
      return ⟨managementWispId, world.optString result "html" "", []⟩
    else do
      let actionError := if world.optBoolean result "ok" then none else some (world.optString result "error" "")
      world.requestManagementState actionError

def sendAction (wisp : ClientWisp) (action : String) : Client WispState := do
  -- the lock of the coordinator
  world.step
  if wisp.id = managementWispId then world.sendManagementAction action
  else do
    let operationId ← world.ask world.uuid
    match world.object action with
    | none => world.refuse
    | some actionData =>
      recoverMutationOnce operationId (invalidatePeerSession wisp.owner)
        (fun id => world.performActionAttempt wisp (OperationProtocol.userAction wisp.id actionData operationId) id false)
        (fun id => world.performActionAttempt wisp (OperationProtocol.resume wisp.id id) id true)

/-! ## File actions -/

/-- The uploads, one after the other. -/
def sendUploads : List PreparedBulkUpload → Client Unit
  | [] => pure ()
  | upload :: rest => do
    world.step
    record (.bulkConnect "sender" upload.sessionId upload.transferId)
    world.step
    sendUploads rest

/-- The first exchange of a file action, up to its completion. -/
def beginFiles (wisp : ClientWisp) (action : StagedFileAction) (session : PeerSession) : Client Json :=
  match session.bulkKey world.hkdf action.transferId true with
  | .error _ => fail "Failed requirement."
  | .ok key => do
    let nonces ← world.ask fun time => (List.range action.files.length).map (world.nonce time)
    let prepared := prepare world.clientId wisp.owner session.sessionId key action.transferId action.files nonces
    if prepared.map (·.file.id) ≠ action.files.map (·.id) then fail "Prepared files do not match staged files"
    else do
      let begun ← world.exchangeSessionFrame session (beginBody wisp.id action prepared) "File action rejected"
        "encrypted Wisp response"
      match getObject begun "transfer" with
      | none => fail "Wisp did not accept the file action"
      | some ready =>
        if world.optString ready "type" "" = "error" then fail (world.optString ready "error" "File action rejected")
        else if world.optString ready "type" "" ≠ "ready" ∨ world.optString ready "transfer_id" "" ≠ action.transferId then
          fail "Unexpected file-transfer response"
        else do
          world.sendUploads prepared
          world.readSessionResponse session "encrypted Wisp completion"

/-- The attempt of a file action, which the flag steers. -/
def fileAttempt (wisp : ClientWisp) (action : StagedFileAction) (operationId : String) : Client WispState :=
  world.inSession wisp fun session => do
    let s ← get
    let completed ← (if s.reconnecting then do
        let resumed ← world.exchangeSessionFrame session (OperationProtocol.resume wisp.id operationId)
          "Operation resume rejected" "Wisp operation status"
        let completed ← world.recovered session resumed operationId "encrypted Wisp completion"
        pure (some completed)
      else pure none)
    let completed ← (match completed with
      | some completed => pure completed
      | none => world.beginFiles wisp action session)
    match getObject completed "transfer" with
    | none => world.receiveWispState wisp session completed
    | some transfer =>
      if world.optString transfer "type" "" = "error" then fail (world.optString transfer "error" "File action failed")
      else world.receiveWispState wisp session completed

def sendFileAction (wisp : ClientWisp) (action : StagedFileAction) : Client WispState := do
  world.step
  modify fun s => { s with reconnecting := false }
  recoverMutationOnce action.transferId (invalidatePeerSession wisp.owner)
    (fun id => do
      modify fun s => { s with reconnecting := false }
      world.fileAttempt wisp action id)
    (fun id => do
      modify fun s => { s with reconnecting := true }
      world.fileAttempt wisp action id)

end World

end WispGate.Model.Android
