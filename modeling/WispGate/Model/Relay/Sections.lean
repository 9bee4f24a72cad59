import WispGate.Model.Relay.Management

/-! # Synchronous sections of the connection handlers

Between two awaits a handler runs undisturbed. Here are the longer of these stretches as functions
of the tables: opening a sealed bootstrap request, the two halves of `_authenticate_endpoint`
around the await for the proof, the join, and the frame checks of `forward`.
-/

namespace WispGate.Model.Relay

open Data

/-! ## Bootstrap -/

structure BootstrapRequest where
  clientId : String
  clientKind : String
  clientKey : LoadedKey
  nonce : Bytes

/-- `_unb64` of a member of the payload. -/
def decodedMember (payload : Json) (key : String) : Except PyError Bytes := do
  unb64 (← asciiText (← member payload key))

def decryptBootstrapRequest (env : Env) (message : String) : Except PyError BootstrapRequest := do
  let payload ← env.openSealed message
  if ¬ payload.isObj then throw .attribute
  let kind := payload.getD "client_kind" (.str "unknown")
  match (payload.get "version").pyEq (.int 1), (payload.get "client_id").asStr?, kind.asStr? with
  | true, some clientId, some clientKind =>
    let keyText ← asciiText (← member payload "client_public_key")
    match env.loadKey keyText with
    | none => throw .value
    | some clientKey =>
      let nonce ← decodedMember payload "nonce"
      if ¬ clientKey.rsa ∨ nonce.length < 16 then throw .value
      return { clientId, clientKind, clientKey, nonce }
  | _, _, _ => throw .value

/-- How a section that answers on its connection goes on. -/
inductive Reply where
  | returns (frame : Json)
  | continues (frame : Json)

namespace RelayRuntime

/-- The bootstrap branch once its request is opened: enrol an unknown endpoint, or check its key. -/
def bootstrap (rt : RelayRuntime) (env : Env) (now : ℕ) (request : BootstrapRequest) :
    RelayRuntime × Except PyError Reply :=
  let response : Json := answer [("type", .str "bootstrap_response"),
    ("payload", .str (env.sealResponse request.clientKey.encoded request.nonce))]
  let access := rt.state.clientAccess request.clientId request.clientKey.encoded
  if access = "unknown_endpoint" ∧ env.enrollmentEnabled then
    match rt.state.enrollClient request.clientId request.clientKey.encoded (.str request.clientKind) now with
    | .error e => (rt, .error e)
    | .ok (state, _) => ({ rt with state := state }, .ok (.continues response))
  else if access ∉ ["approved", "admin", "pending"] then
    (rt, .ok (.returns (refusal ("endpoint_" ++ access))))
  else (rt, .ok (.continues response))

end RelayRuntime

/-! ## Authentication -/

inductive Port where
  | control
  | relay
deriving DecidableEq, Repr

/-- The one role each port allows. -/
def Port.role : Port → String
  | .control => "control"
  | .relay => "relay"

/-- `allow_pending_control` as each handler passes it. -/
def Port.allowPending : Port → Bool
  | .control => true
  | .relay => false

/-- What `_authenticate_endpoint` keeps in local variables across the await for the proof. -/
structure Pending where
  clientId : String
  publicKey : String
  clientKind : Json
  ticket : Json
  peer : Json
  length : Json
  known : Bool
  slot : String
deriving DecidableEq

/-- The two values drawn for a challenge: the challenge and its slot in the table. -/
structure Draw where
  challenge : String
  slot : String
deriving DecidableEq

inductive AuthStart where
  | refused (frame : Json)
  | challenged (rt : RelayRuntime) (pending : Pending) (frame : Json)

namespace RelayRuntime

/-- From the hello to the challenge. -/
def beginAuthentication (rt : RelayRuntime) (env : Env) (now : ℕ) (port : Port) (hello : Json)
    (draw : Draw) : Except PyError AuthStart :=
  if ¬ hello.isObj then .error .attribute
  else if (hello.get "role").hashKey? = none then .error .type
  else match (hello.get "client_id").asStr?, (hello.get "public_key").asStr? with
    | some clientId, some publicKey =>
      if hello.get "role" ≠ .str port.role ∨ clientId = "" ∨ 128 < clientId.length ∨
          ¬ validEndpointPublicKey env (.str publicKey) then
        .ok (.refused (refusal "invalid_auth_hello"))
      else
        let known := rt.state.clients.get? clientId
        if known = none ∧ ¬ env.enrollmentEnabled then .ok (.refused (refusal "unknown_endpoint"))
        else if known.any fun record => !record.hasKey publicKey then
          .ok (.refused (refusal "endpoint_key_changed"))
        else
          let kind := hello.getD "client_kind" (.str "unknown")
          let challenge : Challenge :=
            { clientId, publicKey, challenge := draw.challenge, clientKind := kind, expires := now + 60 }
          let pending : Pending :=
            { clientId, publicKey, clientKind := kind, ticket := hello.getD "ticket" (.str ""),
              peer := hello.getD "peer" (.str ""), length := hello.getD "length" (.str ""),
              known := known.isSome, slot := draw.slot }
          .ok (.challenged { rt with authChallenges := rt.authChallenges.insert draw.slot challenge }
            pending (.obj [("type", .str "auth_challenge"), ("challenge", .str draw.challenge)]))
    | _, _ => .ok (.refused (refusal "invalid_auth_hello"))

end RelayRuntime

/-- The text an endpoint signs. -/
def authTranscript (env : Env) (role clientId challenge : String) (ticket peer length : Json) : String :=
  "wisp-relay-auth-v1\n" ++ role ++ "\n" ++ clientId ++ "\n" ++ challenge ++ "\n" ++
    ticket.display env.printable ++ "\n" ++ peer.display env.printable ++ "\n" ++
    length.display env.printable

/-- What the check of a proof established. -/
structure Proof where
  role : String
  clientId : String
  publicKey : String
  challenge : String
  ticket : Json
  peer : Json
  length : Json
  signature : String
  access : String
deriving DecidableEq

inductive AuthEnd where
  | refused (frame : Json)
  | authenticated (proof : Proof)

namespace RelayRuntime

/-- Accesses that end a handshake successfully. -/
def accessAllowed (port : Port) (access : String) : Bool :=
  access == "approved" || access == "admin" || (access == "pending" && port.allowPending)

def accessRefusal (access : String) : Json :=
  refusal (if access ∈ ["pending", "rejected", "revoked"] then "endpoint_" ++ access else access)

/-- The access of the client whose signature verified: a new one is enrolled, a known one re-checked. -/
def checkAccess (rt : RelayRuntime) (now : ℕ) (pending : Pending) (record : Challenge) :
    Except PyError (RelayState × String) :=
  if pending.known then .ok (rt.state, rt.state.clientAccess record.clientId record.publicKey)
  else rt.state.enrollClient record.clientId record.publicKey record.clientKind now

/-- Act on the access: refuse, or register the key and the kind of the client. -/
def completeAdmission (rt : RelayRuntime) (now : ℕ) (port : Port) (pending : Pending)
    (record : Challenge) (signature access : String) : RelayRuntime × Except PyError AuthEnd :=
  if accessAllowed port access then
    match rt.state.registerClient record.clientId (.str record.publicKey) false now with
    | .error e => (rt, .error e)
    | .ok state =>
      let clients := state.clients.modify record.clientId fun client =>
        { client with clientKind := some record.clientKind }
      let proof : Proof :=
        { role := port.role, clientId := record.clientId, publicKey := record.publicKey,
          challenge := record.challenge, ticket := pending.ticket, peer := pending.peer,
          length := pending.length, signature, access }
      ({ rt with state := RelayState.save { state with clients := clients } },
        .ok (.authenticated proof))
  else (rt, .ok (.refused (accessRefusal access)))

def admission (rt : RelayRuntime) (now : ℕ) (port : Port) (pending : Pending) (record : Challenge)
    (signature : String) : RelayRuntime × Except PyError AuthEnd :=
  match rt.checkAccess now pending record with
  | .error e => (rt, .error e)
  | .ok (state, access) =>
    completeAdmission { rt with state := state } now port pending record signature access

/-- Check a proof against the challenge it answers. -/
def checkProof (rt : RelayRuntime) (env : Env) (now : ℕ) (port : Port) (pending : Pending)
    (record : Challenge) (proof : Json) (signature : String) : RelayRuntime × Except PyError AuthEnd :=
  let transcript := authTranscript env port.role pending.clientId record.challenge
    pending.ticket pending.peer pending.length
  if proof.get "type" ≠ .str "auth_proof" then (rt, .ok (.refused (refusal "invalid_auth_proof")))
  else if ¬ isAscii transcript then (rt, .error .value)
  else if record.expires < now ∨ ¬ env.verify record.publicKey transcript signature then
    (rt, .ok (.refused (refusal "invalid_auth_proof")))
  else rt.admission now port pending record signature

/-- From the proof line to the end of the handshake. The challenge is used up in any case. -/
def concludeAuthentication (rt : RelayRuntime) (env : Env) (now : ℕ) (port : Port) (pending : Pending)
    (proof : Json) : RelayRuntime × Except PyError AuthEnd :=
  let found := rt.authChallenges.get? pending.slot
  let rt := { rt with authChallenges := rt.authChallenges.erase pending.slot }
  if ¬ proof.isObj then (rt, .error .attribute)
  else match found, (proof.get "signature").asStr? with
    | some record, some signature => rt.checkProof env now port pending record proof signature
    | _, _ => (rt, .ok (.refused (refusal "invalid_auth_proof")))

end RelayRuntime

/-! ## Joining -/

/-- `int(value)`. -/
def toInt (env : Env) : Json → Except PyError ℤ
  | .int value => .ok value
  | .bool value => .ok (if value then 1 else 0)
  | .str value =>
    match env.parseInt value with
    | some n => .ok n
    | none => .error .value
  | _ => .error .type

def parseBootstrap (env : Env) (wallClock : ℕ) (message : String) : Except PyError Json := do
  let payload ← env.openJoin message
  if ¬ payload.isObj then throw .attribute
  if payload.get "deployment_id" ≠ .str env.deploymentId then throw .value
  let timestamp ← toInt env (← member payload "timestamp")
  if env.maxBootstrapAge < ((wallClock : ℤ) - timestamp).natAbs then throw .value
  return payload

/-- The identity check of a join: a sealed payload or a plain id, naming the authenticated client. -/
def checkJoin (env : Env) (wallClock : ℕ) (clientId : String) (request : Json) : Except PyError Unit := do
  if (request.get "payload").truthy then
    let payload ← parseBootstrap env wallClock (← asciiText (request.get "payload"))
    if (← member payload "client_id") ≠ .str clientId then throw .value
  else if request.get "client_id" ≠ .str clientId then throw .value

/-! ## Frames -/

/-- An integer member that is no boolean. -/
def validSequence (value : Json) : Bool :=
  match value.asInt? with
  | some n => decide (0 ≤ n) && decide (n < 2 ^ 64)
  | none => false

def textWithin (value : Json) (least most : ℕ) : Bool :=
  match value.asStr? with
  | some text => decide (least ≤ text.length) && decide (text.length ≤ most)
  | none => false

/-- The members a frame of each type requires, and those it allows. -/
def frameMembers (envelope : Json) : List String × List String :=
  if envelope.get "type" = .str "session_envelope" then
    let required := ["version", "type", "session_id", "sender", "recipient", "sequence", "ciphertext"]
    (required, required)
  else if envelope.get "type" = .str "session_reset" then
    let required := ["type", "sender", "recipient", "reason"]
    (required, required)
  else
    let required := ["version", "type", "sender", "recipient", "message_id", "algorithm",
      "encrypted_key", "nonce", "ciphertext", "signature"]
    (required, "sender_public_key" :: required)

def validShape (envelope : Json) : Bool :=
  if envelope.get "type" = .str "session_envelope" then
    (envelope.get "version").pyEq (.int 1) &&
      (match (envelope.get "session_id").asStr? with
        | some sessionId => decide (sessionId ≠ "")
        | none => false) &&
      validSequence (envelope.get "sequence") && textWithin (envelope.get "ciphertext") 1 (1024 * 1024)
  else if envelope.get "type" = .str "session_reset" then textWithin (envelope.get "reason") 1 128
  else decide (envelope.get "type" = .str "envelope")

/-- The condition under which `forward` passes a frame of a sender on. -/
def forwardable (sender : String) (envelope : Json) : Bool :=
  let (required, allowed) := frameMembers envelope
  (envelope.get "recipient").truthy && decide (envelope.get "sender" = .str sender) &&
    validShape envelope && envelope.keys.all (allowed.contains ·) && required.all envelope.has

/-- The relay's acceptance of a frame. -/
def acceptance (envelope : Json) : Json :=
  if envelope.get "type" = .str "session_envelope" then
    RelayRuntime.answer [("type", .str "accepted"), ("session_id", envelope.get "session_id"),
      ("sequence", envelope.get "sequence")]
  else if envelope.get "type" = .str "session_reset" then
    RelayRuntime.answer [("type", .str "accepted"), ("message_type", .str "session_reset")]
  else RelayRuntime.answer [("type", .str "accepted"), ("message_id", envelope.get "message_id")]

end WispGate.Model.Relay
