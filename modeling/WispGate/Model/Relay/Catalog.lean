import WispGate.Model.Relay.State

/-! # The relay's tables and its catalog

`RelayRuntime` is the object every connection handler shares: the durable state, the registered
connections of both ports, the liveness times and the outstanding challenges. A writer is named by
the number of its connection, and `closed` holds those `close` was called on. What the code takes
from libraries and from its host (keys, signatures, sealed requests, the update command, the
journal) is an `Env`.
-/

namespace WispGate.Model.Relay

open Data

/-- A key as the serialization library loads it. -/
structure LoadedKey where
  encoded : String
  rsa : Bool
  keySize : ℕ

inductive UpdateCommand where
  | unconfigured
  | launches
  | fails
deriving DecidableEq

/-- Configuration, libraries and host of a relay process. -/
structure Env where
  enrollmentEnabled : Bool
  certificate : Bool
  publicKeyText : String
  deploymentId : String
  maxBootstrapAge : ℕ
  serverVersion : String
  update : UpdateCommand
  logsHtml : String
  /-- The interpreter's table of printable characters. -/
  printable : Char → Bool
  /-- Decode a base64 text and load the DER key in it. -/
  loadKey : String → Option LoadedKey
  /-- Verify a signature, as a text, over a transcript under an encoded key. -/
  verify : String → String → String → Bool
  /-- Open a sealed bootstrap payload with the relay's key and parse it. -/
  openSealed : String → Except PyError Json
  /-- Open the payload of a join with the relay's key and parse it. -/
  openJoin : String → Except PyError Json
  /-- `int` on a text. -/
  parseInt : String → Option ℤ
  sealResponse : String → Bytes → String

/-- A host whose keys are their own texts and whose signatures name key and transcript, for
concrete runs. -/
def sampleEnv : Env where
  enrollmentEnabled := true
  certificate := true
  publicKeyText := "relay"
  deploymentId := "private"
  maxBootstrapAge := 300
  serverVersion := "1"
  update := .unconfigured
  logsHtml := ""
  printable _ := true
  loadKey text := some ⟨text, true, 2048⟩
  verify key transcript signature := signature == key ++ transcript
  openSealed _ := .error .crypto
  openJoin _ := .error .crypto
  parseInt _ := none
  sealResponse key _ := key

abbrev ConnId := ℕ

/-- A challenge waiting for its proof. -/
structure Challenge where
  clientId : String
  publicKey : String
  challenge : String
  clientKind : Json
  expires : ℕ
deriving DecidableEq

structure RelayRuntime where
  state : RelayState := {}
  sessions : Dict String ConnId := .empty
  relayLiveness : Dict String ℕ := .empty
  controlSessions : Dict String ConnId := .empty
  authChallenges : Dict String Challenge := .empty
  closed : List ConnId := []
deriving DecidableEq

def heartbeatTimeoutSeconds : ℕ := 75

/-- RSA keys of at least 2048 bits; a value that is no text loads as none. -/
def validEndpointPublicKey (env : Env) (value : Json) : Bool :=
  match value.asStr? with
  | none => false
  | some text =>
    match env.loadKey text with
    | none => false
    | some key => key.rsa && decide (2048 ≤ key.keySize)

namespace RelayRuntime

def endpointUsable (rt : RelayRuntime) (clientId : String) (includePending : Bool) : Bool :=
  let status := ((rt.state.clients.get? clientId).bind (·.status)).getD "approved"
  status == "approved" || (includePending && status == "pending")

/-- `_endpoint_usable` on a manifest's owner, which may be no text and then has no record. -/
def ownerUsable (rt : RelayRuntime) (owner : Json) : Bool :=
  match owner.asStr? with
  | some clientId => rt.endpointUsable clientId false
  | none => true

/-- `_relay_online` on a value: containers cannot be looked up, other non-texts are absent. -/
def relayOnline (rt : RelayRuntime) (now : ℕ) (clientId : Json) : Except PyError Bool :=
  match clientId with
  | .arr _ | .obj _ => .error .type
  | .str clientId =>
    match rt.relayLiveness.get? clientId with
    | some lastSeen => .ok (decide (now - lastSeen ≤ heartbeatTimeoutSeconds))
    | none => .ok false
  | _ => .ok false

def isAdmin (rt : RelayRuntime) (clientId : String) : Bool :=
  ((rt.state.clients.get? clientId).map (·.isAdmin)).getD false && rt.endpointUsable clientId false

/-- The public key recorded for an owner, null without a record or a key. -/
def ownerKey (rt : RelayRuntime) (owner : Json) : Json :=
  ((owner.asStr?.bind rt.state.clients.get?).bind (·.publicKey)).getD .null

def managementItem (env : Env) : Json :=
  .obj [("id", .str "management"), ("name", .str "Management"),
    ("description", .str "Claim administrator access and manage server Wisps"),
    ("owner", .str "__server__"), ("public_key", .str env.publicKeyText)]

/-- One turn of the catalog's loop: the item a manifest contributes, if any. -/
def catalogItem (rt : RelayRuntime) (env : Env) (now : ℕ) (clientId : Option String)
    (manifest : Manifest) : Except PyError (Option Json) :=
  if ¬ manifest.owner.truthy then .ok none
  else match rt.relayOnline now manifest.owner with
    | .error e => .error e
    | .ok online =>
      if ¬ online then .ok none
      else if clientId.any fun id => id ≠ "" && !rt.endpointUsable id false then .ok none
      else if ¬ rt.ownerUsable manifest.owner then .ok none
      else
        let publicKey := rt.ownerKey manifest.owner
        if ¬ publicKey.truthy ∨ ¬ validEndpointPublicKey env publicKey then .ok none
        else .ok (some (.obj (manifest.fields ++ [("public_key", publicKey)])))

def catalogLoop (rt : RelayRuntime) (env : Env) (now : ℕ) (clientId : Option String) :
    List Manifest → Except PyError (List Json)
  | [] => .ok []
  | manifest :: rest =>
    match rt.catalogItem env now clientId manifest with
    | .error e => .error e
    | .ok item =>
      match rt.catalogLoop env now clientId rest with
      | .error e => .error e
      | .ok items => .ok (item.toList ++ items)

/-- What `catalog_items` lists for a client, or for nobody in particular. -/
def catalogItems (rt : RelayRuntime) (env : Env) (now : ℕ) (clientId : Option String) :
    Except PyError (List Json) :=
  let own := match clientId with
    | some id =>
      if id ≠ "" ∧ (rt.state.clients.get? id).any (fun record => !record.fields.isEmpty) ∧
          rt.endpointUsable id true then [managementItem env] else []
    | none => []
  match rt.catalogLoop env now clientId (rt.state.wisps.values.map (·.manifest)) with
  | .error e => .error e
  | .ok items => .ok (own ++ items)

end RelayRuntime

end WispGate.Model.Relay
