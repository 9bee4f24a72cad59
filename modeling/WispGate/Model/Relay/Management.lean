import WispGate.Model.Relay.Catalog
import WispGate.Data.JsonText

/-! # Management requests and Wisp registrations

Two synchronous sections of the relay: what `management_request` does for a client, and what the
control handler does with a `wisps` message. Both answer with a JSON object or raise. A section
that raises has done whatever came before, so each returns the tables next to its outcome.
-/

namespace WispGate.Model.Relay

open Data

/-! ## The management page -/

namespace Page

/-- `html.escape`, quotes included. -/
def escapeChar (c : Char) : List Char :=
  if c = '&' then "&amp;".toList
  else if c = '<' then "&lt;".toList
  else if c = '>' then "&gt;".toList
  else if c = '"' then "&quot;".toList
  else if c = '\'' then "&#x27;".toList
  else [c]

def esc (text : String) : String := String.ofList (text.toList.flatMap escapeChar)

def button (action : List (String × Json)) (label : String) : String :=
  let value := esc (Json.str (Json.obj action).dumps).dumps
  "<button onclick=\"_WispGateNative.submit(" ++ value ++ ")\">" ++ esc label ++ "</button>"

/-- The list entry of an endpoint, with the buttons its status leaves open. -/
def endpointItem (self : String) (clientId : String) (record : ClientRecord) : String :=
  let action (name : String) := [("action", Json.str name), ("client_id", .str clientId)]
  let head := "<li><code>" ++ esc clientId ++ "</code>: " ++ esc (record.status.getD "unknown")
  let buttons :=
    if clientId = self then ""
    else
      (if record.status ≠ some "approved" then button (action "approve") "Approve" else "") ++
      (if record.status ≠ some "rejected" then button (action "reject") "Reject" else "") ++
      (if record.status ≠ some "revoked" then button (action "revoke") "Revoke" else "")
  head ++ buttons ++ "</li>"

def wispItem (env : Env) (manifest : Manifest) : String :=
  let wispId := manifest.id.display env.printable
  "<li><strong>" ++ esc (manifest.name.display env.printable) ++ "</strong> <code>" ++ esc wispId ++
    "</code> " ++ button [("action", .str "remove_wisp"), ("id", .str wispId)] "Remove" ++ "</li>"

/-- The order of manifests by an id of one sortable kind. -/
def idLe (a b : Manifest) : Bool :=
  match a.id, b.id with
  | .str s, .str t => decide (s ≤ t)
  | s, t => decide (s.number?.getD 0 ≤ t.number?.getD 0)

end Page

open Page in
/-- `_management_html`: sorting manifests whose ids do not compare raises. -/
def managementHtml (env : Env) (clientId : String) (record : ClientRecord)
    (endpoints : List (String × ClientRecord)) (wisps : List Manifest) (admin : Bool) :
    Except PyError String :=
  let head := "<main><h1>Management</h1><p>Status: <strong>" ++
    esc (record.status.getD "unknown") ++ "</strong>"
  if admin then
    if ¬ Json.sortable (wisps.map (·.id)) then .error .type
    else
      let order := endpoints.mergeSort fun a b => decide (a.1 ≤ b.1)
      .ok (head ++ " · Administrator</p><h2>Server administration</h2><p>Server version: <code>" ++
        esc env.serverVersion ++ "</code></p><p>" ++
        button [("action", .str "current_server_version")] "Current server version" ++ " " ++
        button [("action", .str "update_server")] "Update server" ++ " " ++
        button [("action", .str "download_logs")] "Download server logs" ++ "</p>" ++
        "<h2>Endpoints</h2><ul>" ++
        String.join (order.map fun entry => endpointItem clientId entry.1 entry.2) ++
        "</ul><h2>Active Wisps</h2><ul>" ++
        String.join ((wisps.mergeSort idLe).map (wispItem env)) ++ "</ul></main>")
  else if record.status = some "pending" ∧ ¬ record.isAdmin then
    .ok (head ++ "</p>" ++ button [("action", .str "claim_admin")] "Claim Administrator" ++ "</main>")
  else .ok (head ++ "</p><p>Administrator access is not available for this endpoint.</p></main>")

/-! ## Requests -/

namespace RelayRuntime

def answer (fields : List (String × Json)) : Json := .obj (("ok", .bool true) :: fields)

def refusal (error : String) : Json := .obj [("ok", .bool false), ("error", .str error)]

def endpointFields (clientId : String) (record : ClientRecord) : List (String × Json) :=
  ("client_id", .str clientId) :: record.fields

/-- The manifests whose owners are online. -/
def onlineManifests (rt : RelayRuntime) (now : ℕ) : List Manifest → Except PyError (List Manifest)
  | [] => .ok []
  | manifest :: rest =>
    match rt.relayOnline now manifest.owner with
    | .error e => .error e
    | .ok online =>
      match rt.onlineManifests now rest with
      | .error e => .error e
      | .ok manifests => .ok (if online then manifest :: manifests else manifests)

def stateAnswer (rt : RelayRuntime) (env : Env) (now : ℕ) (clientId : String)
    (record : ClientRecord) : Except PyError Json :=
  let admin := rt.isAdmin clientId
  let endpoints := if admin then rt.state.clients.entries else []
  match if admin then rt.onlineManifests now (rt.state.wisps.values.map (·.manifest)) else .ok [] with
  | .error e => .error e
  | .ok wisps =>
    match managementHtml env clientId record endpoints wisps admin with
    | .error e => .error e
    | .ok html => .ok (answer (endpointFields clientId record ++ [("html", .str html)]))

/-- Close the registered writers of a client and forget them. -/
def evict (rt : RelayRuntime) (target : String) : RelayRuntime :=
  { rt with
    sessions := rt.sessions.erase target
    controlSessions := rt.controlSessions.erase target
    closed := (rt.sessions.get? target).toList ++ (rt.controlSessions.get? target).toList ++ rt.closed }

/-- The status an administrator's action gives its target. -/
def actionStatus (action : String) : String :=
  if action = "approve" then "approved" else if action = "reject" then "rejected" else "revoked"

/-- `approve`, `reject` and `revoke`, with the target as it stands in the request. -/
def setStatusRequest (rt : RelayRuntime) (clientId action : String) (target : Json) :
    RelayRuntime × Except PyError Json :=
  match target.asStr? with
  | none => (rt, .ok (refusal "invalid_endpoint"))
  | some target =>
    if target = clientId then (rt, .ok (refusal "invalid_endpoint"))
    else match rt.state.setClientStatus target (actionStatus action) with
      | .error .key => (rt, .ok (refusal "unknown_endpoint"))
      | .error e => (rt, .error e)
      | .ok state =>
        let rt := { rt with state := state }
        let rt := if action ≠ "approve" then
            evict { rt with state := rt.state.removeWispsForOwner target } target
          else rt
        let status := ((rt.state.clients.get? target).bind (·.status)).getD ""
        (rt, .ok (answer [("client_id", .str target), ("status", .str status)]))

def inspectRequest (rt : RelayRuntime) (target : Json) : Except PyError Json :=
  match target.hashKey? with
  | none => .error .type
  | some _ =>
    match target.asStr?.bind fun id => (rt.state.clients.get? id).map fun record => (id, record) with
    | some (id, record) =>
      if record.fields.isEmpty then .ok (refusal "unknown_endpoint")
      else .ok (answer (endpointFields id record))
    | none => .ok (refusal "unknown_endpoint")

def registerWispRequest (rt : RelayRuntime) (clientId : String) (request : Json) :
    RelayRuntime × Except PyError Json :=
  let wispId := request.get "id"
  if ¬ wispId.isStr ∨ wispId = .str "" ∨ wispId = .str "management" ∨ rt.state.wisps.contains wispId then
    (rt, .ok (refusal "invalid_wisp"))
  else
    let manifest : Manifest :=
      { id := wispId, name := request.getD "name" wispId, description := request.getD "description" (.str ""),
        owner := request.getD "owner" (.str clientId) }
    let state := { rt.state with wisps := RelayState.putWisp rt.state.wisps wispId wispId manifest }
    ({ rt with state := state.save }, .ok (answer [("wisp", .obj manifest.fields)]))

def removeWispRequest (rt : RelayRuntime) (wispId : Json) : RelayRuntime × Except PyError Json :=
  match wispId.hashKey? with
  | none => (rt, .error .type)
  | some key =>
    if ¬ rt.state.wisps.contains key then (rt, .ok (refusal "unknown_wisp"))
    else
      let state := { rt.state with wisps := rt.state.wisps.erase key }
      ({ rt with state := state.save }, .ok (answer [("id", wispId)]))

def updateAnswer : UpdateCommand → Json
  | .unconfigured => refusal "update_unconfigured"
  | .launches => answer [("type", .str "update_started")]
  | .fails => refusal "update_launch_failed"

/-- The actions only an approved administrator reaches. -/
def adminRequest (rt : RelayRuntime) (env : Env) (clientId action : String) (request : Json) :
    RelayRuntime × Except PyError Json :=
  if action = "current_server_version" then
    (rt, .ok (answer [("type", .str "server_version"), ("version", .str env.serverVersion)]))
  else if action = "download_logs" then
    (rt, .ok (answer [("type", .str "server_logs"), ("html", .str env.logsHtml)]))
  else if action = "update_server" then (rt, .ok (updateAnswer env.update))
  else if action = "list_endpoints" then
    (rt, .ok (answer [("endpoints", .arr (rt.state.clients.entries.map fun entry =>
      .obj (endpointFields entry.1 entry.2)))]))
  else if action = "approve" ∨ action = "reject" ∨ action = "revoke" then
    rt.setStatusRequest clientId action (request.get "client_id")
  else if action = "inspect_endpoint" then (rt, rt.inspectRequest (request.get "client_id"))
  else if action = "list_wisps" then
    (rt, .ok (answer [("wisps", .arr (rt.state.wisps.values.map fun entry => .obj entry.manifest.fields))]))
  else if action = "register_wisp" then rt.registerWispRequest clientId request
  else if action = "remove_wisp" then rt.removeWispRequest (request.get "id")
  else (rt, .ok (refusal "unknown_management_action"))

/-- An action that changes no table, a change of a status, or one that stores or removes a manifest. -/
theorem adminRequest_cases {motive : RelayRuntime × Except PyError Json → Prop} {rt : RelayRuntime}
    {env : Env} {clientId action : String} {request : Json} (keeps : ∀ response, motive (rt, response))
    (sets : action = "approve" ∨ action = "reject" ∨ action = "revoke" →
      motive (rt.setStatusRequest clientId action (request.get "client_id")))
    (registers : action = "register_wisp" → motive (rt.registerWispRequest clientId request))
    (removes : motive (rt.removeWispRequest (request.get "id"))) :
    motive (rt.adminRequest env clientId action request) := by
  unfold adminRequest
  by_cases version : action = "current_server_version"
  · rw [if_pos version]
    exact keeps _
  rw [if_neg version]
  by_cases logs : action = "download_logs"
  · rw [if_pos logs]
    exact keeps _
  rw [if_neg logs]
  by_cases update : action = "update_server"
  · rw [if_pos update]
    exact keeps _
  rw [if_neg update]
  by_cases list : action = "list_endpoints"
  · rw [if_pos list]
    exact keeps _
  rw [if_neg list]
  by_cases status : action = "approve" ∨ action = "reject" ∨ action = "revoke"
  · rw [if_pos status]
    exact sets status
  rw [if_neg status]
  by_cases inspect : action = "inspect_endpoint"
  · rw [if_pos inspect]
    exact keeps _
  rw [if_neg inspect]
  by_cases wisps : action = "list_wisps"
  · rw [if_pos wisps]
    exact keeps _
  rw [if_neg wisps]
  by_cases register : action = "register_wisp"
  · rw [if_pos register]
    exact registers register
  rw [if_neg register]
  by_cases remove : action = "remove_wisp"
  · rw [if_pos remove]
    exact removes
  · rw [if_neg remove]
    exact keeps _

def claimAnswer (result : String) : Json :=
  if result = "claimed" then answer [("status", .str "approved"), ("admin", .bool true)]
  else if result = "already_admin" then
    answer [("status", .str "approved"), ("admin", .bool true), ("error", .str "already_admin")]
  else if result = "admin_already_claimed" then refusal "admin_already_claimed"
  else refusal result

/-- `state` and `status`, which any endpoint with a record may ask for. -/
def ownRequest (rt : RelayRuntime) (env : Env) (now : ℕ) (clientId : String) (action : Option String) :
    Except PyError Json :=
  match rt.state.clients.get? clientId with
  | none => .ok (refusal "unknown_endpoint")
  | some record =>
    if action = some "status" then .ok (answer (endpointFields clientId record))
    else rt.stateAnswer env now clientId record

/-- `management_request`. An action that is no text compares unequal to every name. -/
def managementRequest (rt : RelayRuntime) (env : Env) (now : ℕ) (clientId : String) (request : Json) :
    RelayRuntime × Except PyError Json :=
  if ¬ request.isObj then (rt, .error .attribute)
  else match (request.get "action").hashKey? with
    | none => (rt, .error .type)
    | some _ =>
      let action := (request.get "action").asStr?
      if action = some "state" ∨ action = some "status" then
        (rt, rt.ownRequest env now clientId action)
      else if action = some "claim_admin" then
        let (state, result) := rt.state.claimAdmin clientId
        ({ rt with state := state }, .ok (claimAnswer result))
      else if ¬ rt.isAdmin clientId then (rt, .ok (refusal "management_unauthorized"))
      else rt.adminRequest env clientId (action.getD "") request

/-! ## Registrations -/

/-- One turn of the registration's loop: an item with an id is stored under it. -/
def registerItem (wisps : Dict Json WispEntry) (clientId : String) (item : Json) :
    Except PyError (Dict Json WispEntry) :=
  if ¬ item.isObj then .error .attribute
  else if ¬ (item.get "id").truthy then .ok wisps
  else match (item.get "id").hashKey? with
    | none => .error .type
    | some hash =>
      .ok (RelayState.putWisp wisps (item.get "id") hash
        { id := item.get "id", name := item.getD "name" (item.get "id"),
          description := item.getD "description" (.str ""), owner := .str clientId })

/-- The loop over the items. It stops at the first that raises, keeping the ones before. -/
def registerItems (wisps : Dict Json WispEntry) (clientId : String) :
    List Json → Dict Json WispEntry × Option PyError
  | [] => (wisps, none)
  | item :: rest =>
    match registerItem wisps clientId item with
    | .error e => (wisps, some e)
    | .ok wisps => registerItems wisps clientId rest

/-- The keys of the Wisp table, which the log lines sort. -/
def wispKeys (state : RelayState) : List Json := state.wisps.values.map (·.key)

/-- From the removal of the sender's old manifests to the catalog it is answered with. -/
def replaceWisps (rt : RelayRuntime) (env : Env) (now : ℕ) (clientId : String) (items : List Json) :
    RelayRuntime × Except PyError Json :=
  let state := rt.state.removeWispsForOwner clientId
  match registerItems state.wisps clientId items with
  | (wisps, some e) => ({ rt with state := { state with wisps := wisps } }, .error e)
  | (wisps, none) =>
    let rt := { rt with state := { state with wisps := wisps }.save }
    match rt.catalogItems env now (some clientId) with
    | .error e => (rt, .error e)
    | .ok catalog =>
      if ¬ Json.sortable (wispKeys rt.state) then (rt, .error .type)
      else (rt, .ok (answer [("type", .str "wisps_registered"), ("items", .arr catalog)]))

/-- The control handler's treatment of a `wisps` message. -/
def registerWisps (rt : RelayRuntime) (env : Env) (now : ℕ) (clientId : String) (message : Json) :
    RelayRuntime × Except PyError Json :=
  match (message.getD "items" (.arr [])).iterate? with
  | none => (rt, .error .type)
  | some items =>
    if ¬ Json.sortable (wispKeys rt.state) then (rt, .error .type)
    else if (message.get "client_public_key").truthy then
      match rt.state.registerClient clientId (message.get "client_public_key") true now with
      | .error e => (rt, .error e)
      | .ok state => replaceWisps { rt with state := state } env now clientId items
    else rt.replaceWisps env now clientId items

end RelayRuntime

end WispGate.Model.Relay
