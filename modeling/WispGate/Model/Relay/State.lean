import WispGate.Data.Dict
import WispGate.Model.Python

/-! # The relay's durable state

`RelayState` holds the client records, the queued frames and the Wisp registrations, with the
content of the state file beside them: `save` writes the file and `load` reads it back, so what
survives a restart is part of the state. A record keeps every field optional, as a dictionary that
may lack it. Operations that raise leave what they had changed by then.
-/

namespace WispGate.Model.Relay

open Data

/-- A client record as the state file stores it. -/
structure ClientRecord where
  publicKey : Option Json := none
  clientKind : Option Json := none
  status : Option String := none
  admin : Option Bool := none
  lastSeen : Option ℕ := none
deriving DecidableEq

namespace ClientRecord

/-- The members of the record as a JSON object spreads them. -/
def fields (record : ClientRecord) : List (String × Json) :=
  (record.publicKey.map fun value => ("public_key", value)).toList ++
    (record.clientKind.map fun value => ("client_kind", value)).toList ++
    (record.status.map fun value => ("status", Json.str value)).toList ++
    (record.admin.map fun value => ("admin", Json.bool value)).toList ++
    (record.lastSeen.map fun value => ("last_seen", Json.int value)).toList

/-- `record.get("admin")` as a condition. -/
def isAdmin (record : ClientRecord) : Bool := record.admin.getD false

/-- The condition both halves of the administrator check test. -/
def approvedAdmin (record : ClientRecord) : Bool := record.isAdmin && record.status == some "approved"

/-- `record.get("public_key") == public_key` for a key that is a text. -/
def hasKey (record : ClientRecord) (publicKey : String) : Bool :=
  (record.publicKey.getD .null).pyEq (.str publicKey)

end ClientRecord

/-- The registration of a Wisp. -/
structure Manifest where
  id : Json
  name : Json
  description : Json
  owner : Json
deriving DecidableEq

def Manifest.fields (manifest : Manifest) : List (String × Json) :=
  [("id", manifest.id), ("name", manifest.name), ("description", manifest.description),
    ("owner", manifest.owner)]

/-- An entry of the Wisp table: the key object it was first stored under, and its manifest. -/
structure WispEntry where
  key : Json
  manifest : Manifest
deriving DecidableEq

/-- The content of the state file. Object keys are texts there. -/
structure StateFile where
  clients : Dict String ClientRecord
  queues : Dict String (List Json)
  wisps : List (String × Manifest)
deriving DecidableEq

structure RelayState where
  clients : Dict String ClientRecord := .empty
  queues : Dict String (List Json) := .empty
  wisps : Dict Json WispEntry := .empty
  file : Option StateFile := none
deriving DecidableEq

namespace RelayState

/-- The text a key becomes in a JSON object. -/
def keyText : Json → String
  | .str value => value
  | .bool value => if value then "true" else "false"
  | .int value => toString value
  | _ => "null"

/-- Assignment into the Wisp table. A key that is already there stays the object it was. -/
def putWisp (wisps : Dict Json WispEntry) (key hash : Json) (manifest : Manifest) :
    Dict Json WispEntry :=
  wisps.insert hash ⟨((wisps.get? hash).map (·.key)).getD key, manifest⟩

/-- What `save` writes of the tables in memory. -/
def snapshot (s : RelayState) : StateFile where
  clients := s.clients
  queues := s.queues
  wisps := s.wisps.values.map fun entry => (keyText entry.key, entry.manifest)

def save (s : RelayState) : RelayState := { s with file := some s.snapshot }

/-- The defaults a loaded record is completed with. -/
def loadedRecord (record : ClientRecord) : ClientRecord :=
  { record with
    status := some (record.status.getD "approved")
    admin := some (record.admin.getD false) }

def load (s : RelayState) : RelayState :=
  match s.file with
  | none => s
  | some data =>
    { s with
      clients := data.clients.mapValues loadedRecord
      queues := data.queues
      wisps := data.wisps.foldl (fun wisps entry => putWisp wisps (.str entry.1) (.str entry.1) entry.2)
        .empty }

def registerClient (s : RelayState) (clientId : String) (publicKey : Json) (replace : Bool) (now : ℕ) :
    Except PyError RelayState :=
  let record := (s.clients.get? clientId).getD {}
  let known := record.publicKey.getD .null
  if known ≠ .null ∧ ¬ known.pyEq publicKey then .error .value
  else
    let record := if replace ∨ known = .null then { record with publicKey := some publicKey } else record
    .ok { s with clients := s.clients.insert clientId { record with lastSeen := some now } }

/-- Persist a newly bootstrapped endpoint as pending, or report the access of a known one. -/
def enrollClient (s : RelayState) (clientId publicKey : String) (clientKind : Json) (now : ℕ) :
    Except PyError (RelayState × String) :=
  match s.clients.get? clientId with
  | some record =>
    if ¬ record.hasKey publicKey then .error .value
    else .ok (s, if record.isAdmin then "admin" else record.status.getD "pending")
  | none =>
    let record : ClientRecord :=
      { publicKey := some (.str publicKey), clientKind := some clientKind, status := some "pending",
        admin := some false, lastSeen := some now }
    .ok (save { s with clients := s.clients.insert clientId record }, "pending")

/-- The one-time administrator claim. -/
def claimAdmin (s : RelayState) (clientId : String) : RelayState × String :=
  match s.clients.get? clientId with
  | none => (s, "unknown_endpoint")
  | some record =>
    if record.approvedAdmin then (s, "already_admin")
    else if s.clients.values.any ClientRecord.approvedAdmin then (s, "admin_already_claimed")
    else
      let record := { record with status := some "approved", admin := some true }
      (save { s with clients := s.clients.insert clientId record }, "claimed")

def clientAccess (s : RelayState) (clientId publicKey : String) : String :=
  match s.clients.get? clientId with
  | none => "unknown_endpoint"
  | some record =>
    if ¬ record.hasKey publicKey then "endpoint_key_changed" else record.status.getD "approved"

def setClientStatus (s : RelayState) (clientId status : String) : Except PyError RelayState :=
  if status ∉ ["approved", "rejected", "revoked", "pending"] then .error .value
  else match s.clients.get? clientId with
    | none => .error .key
    | some record =>
      let record := { record with status := some status }
      let record := if status ≠ "approved" then { record with admin := some false } else record
      .ok (save { s with clients := s.clients.insert clientId record })

/-- Take the queued frames of a client out of the table. -/
def drain (s : RelayState) (clientId : String) : RelayState × List Json :=
  ({ s with queues := s.queues.erase clientId }, (s.queues.get? clientId).getD [])

def removeWispsForOwner (s : RelayState) (owner : String) : RelayState :=
  { s with wisps := s.wisps.filter fun _ entry => !entry.manifest.owner.pyEq (.str owner) }

end RelayState

end WispGate.Model.Relay
