import WispGate.Soundness.Revocation

/-! # The registration tables of the relay

Sessions, liveness times and subscriptions are changed by every handler. A stretch of a handler makes
at most one change of these tables that is its own (it hears from its client, registers, subscribes,
loses a destination, ends a broadcast or obeys an administrator) and then settles: it waits, or it
leaves and forgets its own registration.
-/

namespace WispGate.Soundness.Registry

open Data Model Model.Relay Machine Revocation

/-! ## The tables -/

/-- Who is connected, when a client was last heard, and who is subscribed. -/
structure Tables where
  sessions : Dict String ConnId
  liveness : Dict String ℕ
  control : Dict String ConnId

def tables (rt : RelayRuntime) : Tables := ⟨rt.sessions, rt.relayLiveness, rt.controlSessions⟩

namespace Tables

variable (t : Tables)

def dropSession (clientId : String) : Tables :=
  { t with sessions := t.sessions.erase clientId, liveness := t.liveness.erase clientId }

def dropControl (clientId : String) : Tables := { t with control := t.control.erase clientId }

/-- Forget the subscriptions a broadcast found stale. -/
def strike (stale : List String) : Tables := stale.foldl dropControl t

def hear (clientId : String) (now : ℕ) : Tables := { t with liveness := t.liveness.insert clientId now }

def register (clientId : String) (conn : ConnId) (now : ℕ) : Tables :=
  { t with sessions := t.sessions.insert clientId conn, liveness := t.liveness.insert clientId now }

def subscribe (clientId : String) (conn : ConnId) : Tables :=
  { t with control := t.control.insert clientId conn }

/-- What a rejection or revocation forgets. -/
def evict (target : String) : Tables :=
  { t with sessions := t.sessions.erase target, control := t.control.erase target }

@[simp] theorem strike_sessions (stale : List String) : (t.strike stale).sessions = t.sessions := by
  induction stale generalizing t with
  | nil => rfl
  | cons clientId rest ih => exact ih (t.dropControl clientId)

@[simp] theorem strike_liveness (stale : List String) : (t.strike stale).liveness = t.liveness := by
  induction stale generalizing t with
  | nil => rfl
  | cons clientId rest ih => exact ih (t.dropControl clientId)

theorem strike_control (stale : List String) (id : String) :
    (t.strike stale).control.get? id = if id ∈ stale then none else t.control.get? id := by
  induction stale generalizing t with
  | nil => rfl
  | cons clientId rest ih =>
    have first : (t.strike (clientId :: rest)) = (t.dropControl clientId).strike rest := rfl
    rw [first, ih]
    by_cases later : id ∈ rest
    · simp [later]
    · by_cases same : clientId = id
      · simp [dropControl, same]
      · simp [dropControl, later, Dict.get?_erase, same, Ne.symm same]

end Tables

/-! ## Settling -/

/-- A handler at its end, or in the broadcast before it. -/
def leaving : Pc → Bool
  | .closing | .done => true
  | .broadcasting _ _ _ after => decide (after = .closing)
  | _ => false

def Ended (m : Machine) (conn : ConnId) : Prop :=
  ∃ c, m.connections.get? conn = some c ∧ leaving c.pc = true

/-- The tables stay, or the handler leaves and forgets what they hold of its own connection. -/
inductive Settles (conn : ConnId) (t : Tables) (m : Machine) : Prop
  | keeps (same : tables m.runtime = t)
  | leaves (id : String) (own : t.sessions.get? id = some conn) (gone : tables m.runtime = t.dropSession id)
      (ended : Ended m conn)
  | parts (id : String) (own : t.control.get? id = some conn) (gone : tables m.runtime = t.dropControl id)
      (ended : Ended m conn)

section Settling

variable {env : Env} {m m' : Machine} {conn : ConnId} {c c' : Connection}

theorem goto_ended {pc : Pc} (here : m.connections.get? conn = some c') (last : leaving pc = true) :
    Ended (m.goto conn pc) conn :=
  ⟨{ c' with pc := pc }, by simp [goto, Dict.get?_modify, here], last⟩

theorem dropStale_tables (stale : List String) (m : Machine) :
    tables (stale.foldl Machine.dropControl m).runtime = (tables m.runtime).strike stale := by
  induction stale generalizing m with
  | nil => rfl
  | cons clientId rest ih => exact ih (m.dropControl clientId)

theorem continueAfter_tables (after : After) : tables (m.continueAfter conn after).runtime = tables m.runtime := by
  cases after <;> rfl

/-- A turn of a broadcast keeps the tables; its end forgets the stale subscriptions. -/
theorem broadcastNext_tables {rest : List (String × ConnId)} {stale : List String} {after : After}
    (success : m.broadcastNext env conn rest stale after = .ok m') :
    tables m'.runtime = if rest = [] then (tables m.runtime).strike stale else tables m.runtime := by
  unfold broadcastNext at success
  split at success
  · cases success
    rw [if_pos rfl, continueAfter_tables, dropStale_tables]
  · rw [if_neg (List.cons_ne_nil _ _)]
    split at success
    · cases success
    · cases success
      rfl

theorem startBroadcast_tables {after : After} (success : m.startBroadcast env conn after = .ok m') :
    tables m'.runtime = tables m.runtime := by
  unfold startBroadcast at success
  split at success
  · cases success
  · rw [broadcastNext_tables success]
    split_ifs <;> rfl

/-- The broadcast in a `finally` block leads to the end of its handler. -/
theorem startBroadcast_ended (here : m.connections.get? conn = some c')
    (success : m.startBroadcast env conn .closing = .ok m') : Ended m' conn := by
  unfold startBroadcast at success
  split at success
  · cases success
  · unfold broadcastNext at success
    split at success
    · cases success
      exact goto_ended (m := (List.foldl Machine.dropControl m []).closeWriter conn) here rfl
    · split at success
      · cases success
      · cases success
        exact goto_ended (m := m.write _ _) here rfl

theorem finish_settles (here : m.connections.get? conn = some c') :
    Settles conn (tables m.runtime) (m.finish env conn c) := by
  unfold finish
  split
  · rename_i clientId _ _
    split_ifs with own
    · split
      · rename_i started
        exact .leaves clientId own (startBroadcast_tables started)
          (startBroadcast_ended (m := m.dropSession clientId) here started)
      · exact .leaves clientId own rfl (goto_ended (m := m.dropSession clientId) here rfl)
    · exact .keeps rfl
  · rename_i clientId _ _
    split_ifs with own
    · exact .parts clientId own rfl (goto_ended (m := (m.dropControl clientId).closeWriter conn) here rfl)
    · exact .keeps rfl
  · exact .keeps rfl

theorem raises_settles {e : PyError} (here : m.connections.get? conn = some c') :
    Settles conn (tables m.runtime) (m.raises env conn c e) := by
  unfold raises
  split_ifs
  · exact .keeps rfl
  · exact finish_settles here

theorem broadcast_settles {after : After} (here : m.connections.get? conn = some c') :
    Settles conn (tables m.runtime) (m.broadcast env conn c after) := by
  unfold broadcast
  split
  · rename_i started
    exact .keeps (startBroadcast_tables started)
  · exact raises_settles here

theorem broadcastOn_settles {rest : List (String × ConnId)} {stale : List String} {after : After}
    (here : m.connections.get? conn = some c') :
    Settles conn (tables m.runtime) (m.broadcastOn env conn c rest stale after) ∨
      (rest = [] ∧ tables (m.broadcastOn env conn c rest stale after).runtime = (tables m.runtime).strike stale) := by
  unfold broadcastOn
  split
  · rename_i turned
    have same := broadcastNext_tables turned
    split_ifs at same with last
    · exact .inr ⟨last, same⟩
    · exact .inl (.keeps same)
  · split_ifs
    · exact .inl (.keeps rfl)
    · exact .inl (raises_settles here)

theorem answerSender_tables {sender : String} {frame : Json} :
    tables (m.answerSender conn sender frame).runtime = tables m.runtime := by
  unfold answerSender
  split <;> rfl

theorem forward_settles {sender : String} {message : Json} (here : m.connections.get? conn = some c') :
    Settles conn (tables m.runtime) (m.forward env conn c sender message) := by
  unfold forward
  split_ifs
  · split
    · exact raises_settles here
    · split
      · exact .keeps answerSender_tables
      · split <;> exact .keeps rfl
  · exact .keeps answerSender_tables

theorem onMessage_settles {sender : String} {message : Json} (here : m.connections.get? conn = some c') :
    Settles conn (tables m.runtime) (m.onMessage env conn c sender message) := by
  unfold onMessage
  split_ifs
  · exact .keeps rfl
  · exact .keeps rfl
  · exact .keeps rfl
  · exact raises_settles here
  · exact forward_settles here
  · exact .keeps rfl
  · exact raises_settles here

end Settling

/-! ## Orders -/

section Orders

variable {env : Env} {rt : RelayRuntime} {now : ℕ} {clientId : String}

theorem setStatusRequest_effect {action : String} {target : Json} :
    tables (rt.setStatusRequest clientId action target).1 = tables rt ∨
      ∃ name, action ≠ "approve" ∧ target = .str name ∧ name ≠ clientId ∧
        tables (rt.setStatusRequest clientId action target).1 = (tables rt).evict name ∧
        (rt.setStatusRequest clientId action target).2.isOk = true := by
  unfold RelayRuntime.setStatusRequest
  split
  · exact .inl rfl
  · rename_i name text
    split_ifs with own approves
    · exact .inl rfl
    · split
      · exact .inl rfl
      · exact .inl rfl
      · rename_i state success
        exact .inr ⟨name, approves, (Json.asStr?_eq_some_iff ..).mp text, own, rfl, rfl⟩
    · split <;> exact .inl rfl

theorem adminRequest_effect {action : String} {request : Json} :
    tables (rt.adminRequest env clientId action request).1 = tables rt ∨
      ∃ target, (action = "reject" ∨ action = "revoke") ∧ request.get "client_id" = .str target ∧ target ≠ clientId ∧
        tables (rt.adminRequest env clientId action request).1 = (tables rt).evict target ∧
        (rt.adminRequest env clientId action request).2.isOk = true := by
  refine RelayRuntime.adminRequest_cases (motive := fun result => tables result.1 = tables rt ∨
      ∃ target, (action = "reject" ∨ action = "revoke") ∧ request.get "client_id" = .str target ∧ target ≠ clientId ∧
        tables result.1 = (tables rt).evict target ∧ result.2.isOk = true)
    (fun _ => .inl rfl) (fun status => ?_) (fun _ => ?_) ?_
  · rcases @setStatusRequest_effect rt clientId action (request.get "client_id") with
      same | ⟨target, disapproves, named, other, gone, ok⟩
    · exact .inl same
    · exact .inr ⟨target, status.resolve_left disapproves, named, other, gone, ok⟩
  · unfold RelayRuntime.registerWispRequest
    dsimp only
    split_ifs <;> exact .inl rfl
  · unfold RelayRuntime.removeWispRequest
    split
    · exact .inl rfl
    · dsimp only
      split_ifs <;> exact .inl rfl

/-- A management request leaves the tables alone, or it evicts the client it rejects or revokes. -/
theorem manage_effect (request : Json) :
    tables (rt.managementRequest env now clientId request).1 = tables rt ∨
      ∃ target, barredBy rt clientId request = some target ∧
        tables (rt.managementRequest env now clientId request).1 = (tables rt).evict target ∧
        (rt.managementRequest env now clientId request).2.isOk = true := by
  unfold RelayRuntime.managementRequest
  split
  · exact .inl rfl
  · split
    · exact .inl rfl
    · dsimp only
      split_ifs with own claims admin
      · exact .inl rfl
      · exact .inl rfl
      · rcases @adminRequest_effect env rt clientId ((request.get "action").asStr?.getD "") request with
          same | ⟨target, named, rest⟩
        · exact .inl same
        · refine .inr ⟨target, ?_, rest.2.2⟩
          have asked : request.get "action" = .str "reject" ∨ request.get "action" = .str "revoke" := by
            cases text : (request.get "action").asStr? with
            | none => simp [text] at named
            | some action =>
              rw [text, Option.getD_some] at named
              rw [(Json.asStr?_eq_some_iff ..).mp text]
              simpa using named
          have administers : rt.isAdmin clientId = true := by simpa using admin
          simp [barredBy, asked, administers, rest.1, rest.2.1, Json.asStr?]
      · exact .inl rfl

end Orders

/-! ## Stretches -/

/-- What the stretch of a handler that took a line, or none, does to the tables. -/
inductive Stretch (rt : RelayRuntime) (now : ℕ) (conn : ConnId) (c : Connection) (taken : Option Line)
    (outcome : Outcome) (m : Machine) : Prop
  | settles (rest : Settles conn (tables rt) m)
  | hears (here : c.pc = .reading) (line : taken.isSome = true)
      (rest : Settles conn ((tables rt).hear (c.clientId.getD "") now) m)
  | registers (id : String) (here : c.pc = .authenticated id) (port : c.port = .relay)
      (rest : Settles conn ((tables rt).register id conn now) m)
  | subscribes (here : c.pc = .registered) (rest : Settles conn ((tables rt).subscribe (c.clientId.getD "") conn) m)
  | strikes (current : String) (stale : List String) (after : After) (here : c.pc = .broadcasting current [] stale after)
      (names : List String) (ends : (outcome = .sent ∧ names = stale) ∨ (outcome = .lost ∧ names = stale ++ [current]))
      (gone : tables m.runtime = (tables rt).strike names)
  | loses (id : String) (destination : ConnId) (here : c.pc = .delivering id destination) (lost : outcome = .lost)
      (own : rt.sessions.get? id = some destination) (rest : Settles conn ((tables rt).dropSession id) m)
  | evicts (message : Json) (target : String) (here : managing c.pc = true) (read : taken = some (some message))
      (kind : message.get "type" = .str "management_request")
      (orders : barredBy rt (c.clientId.getD "") (message.getD "request" (.obj [])) = some target)
      (gone : tables m.runtime = (tables rt).evict target)

section Stretches

variable {env : Env} {m m' : Machine} {conn : ConnId} {c c' : Connection} {line : Json} {draw : Draw}
  {outcome : Outcome}

theorem onManagement_stretch {next : Pc} (here : m.connections.get? conn = some c') (place : managing c.pc = true)
    (kind : line.get "type" = .str "management_request") :
    Stretch m.runtime m.now conn c (some (some line)) outcome
      (m.onManagement env conn c (c.clientId.getD "") line next) := by
  have effect := @manage_effect env m.runtime m.now (c.clientId.getD "") (line.getD "request" (.obj []))
  unfold onManagement
  split
  · rename_i rt e result
    rw [result] at effect
    rcases effect with same | ⟨target, -, -, ok⟩
    · exact .settles (same ▸ raises_settles (m := m.withRuntime rt) here)
    · cases ok
  · rename_i rt response result
    rw [result] at effect
    rcases effect with same | ⟨target, orders, gone, -⟩
    · exact .settles (.keeps same)
    · exact .evicts line target place rfl kind orders gone

theorem onAuthHello_settles {hello : Json} (here : m.connections.get? conn = some c') :
    Settles conn (tables m.runtime) (m.onAuthHello env conn c hello draw) := by
  unfold onAuthHello
  split
  · exact raises_settles here
  · exact .keeps rfl
  · rename_i rt pending frame begun
    obtain ⟨challenge, rfl, -⟩ := begin_spec begun
    exact .keeps rfl

theorem bootstrap_same (request : BootstrapRequest) (wallClock : ℕ) :
    tables (m.runtime.bootstrap env wallClock request).1 = tables m.runtime := by
  unfold RelayRuntime.bootstrap
  dsimp only
  split_ifs
  · split <;> rfl
  · rfl
  · rfl

theorem onHello_settles (here : m.connections.get? conn = some c') :
    Settles conn (tables m.runtime) (m.onHello env conn c line draw) := by
  unfold onHello
  split_ifs
  · split
    · exact raises_settles here
    · rename_i request opened
      have same := @bootstrap_same env m request m.wallClock
      have there : (m.setClient conn request.clientId).connections.get? conn =
          some { c' with clientId := some request.clientId } := by
        simp [setClient, Dict.get?_modify, here]
      dsimp only
      split
      · rename_i rt e result
        rw [show m.runtime.bootstrap env m.wallClock request = (rt, .error e) from result] at same
        exact same ▸ raises_settles (m := (m.setClient conn request.clientId).withRuntime rt) there
      · rename_i rt reply result
        rw [show m.runtime.bootstrap env m.wallClock request = (rt, .ok reply) from result] at same
        cases reply <;> exact .keeps same
  · exact .keeps rfl
  · exact onAuthHello_settles here

theorem admission_same (rt : RelayRuntime) (now : ℕ) (port : Port) (pending : Pending) (record : Challenge)
    (signature : String) : tables (rt.admission now port pending record signature).1 = tables rt := by
  unfold RelayRuntime.admission
  split
  · rfl
  · unfold RelayRuntime.completeAdmission
    split_ifs
    · split <;> rfl
    · rfl

theorem conclude_same (pending : Pending) (proof : Json) (port : Port) :
    tables (m.runtime.concludeAuthentication env m.now port pending proof).1 = tables m.runtime := by
  unfold RelayRuntime.concludeAuthentication
  dsimp only
  split_ifs
  · split
    · unfold RelayRuntime.checkProof
      dsimp only
      split_ifs
      · rfl
      · rfl
      · exact admission_same ..
      · rfl
    · rfl
  · rfl

theorem onProof_settles {pending : Pending} (here : m.connections.get? conn = some c') :
    Settles conn (tables m.runtime) (m.onProof env conn c pending line) := by
  have same := @conclude_same env m pending line c.port
  unfold onProof
  split
  · rename_i rt e result
    rw [result] at same
    exact same ▸ raises_settles (m := m.withRuntime rt) here
  · rename_i rt frame result
    rw [result] at same
    exact .keeps same
  · rename_i rt proof result
    rw [result] at same
    exact .keeps same

theorem onRequest_stretch (here : m.connections.get? conn = some c') (place : managing c.pc = true) :
    Stretch m.runtime m.now conn c (some (some line)) outcome (m.onRequest env conn c (c.clientId.getD "") line) := by
  unfold onRequest
  split_ifs with object kind join
  · exact onManagement_stretch here place kind
  · exact .settles (.keeps rfl)
  · split
    · exact .settles (raises_settles here)
    · dsimp only
      split
      · exact .settles (raises_settles (m := m.withRuntime { m.runtime with state := m.runtime.state.save }) here)
      · exact .settles (.keeps rfl)
  · exact .settles (raises_settles here)

theorem replaceWisps_same (rt : RelayRuntime) (now : ℕ) (clientId : String) (items : List Json) :
    tables (rt.replaceWisps env now clientId items).1 = tables rt := by
  unfold RelayRuntime.replaceWisps
  dsimp only
  split
  · rfl
  · split
    · rfl
    · split_ifs <;> rfl

theorem registerWisps_same (clientId : String) (message : Json) :
    tables (m.runtime.registerWisps env m.now clientId message).1 = tables m.runtime := by
  unfold RelayRuntime.registerWisps
  split
  · rfl
  · split_ifs
    · split
      · rfl
      · exact replaceWisps_same ..
    · exact replaceWisps_same ..
    · rfl

theorem onRegistration_stretch (here : m.connections.get? conn = some c') (place : managing c.pc = true) :
    Stretch m.runtime m.now conn c (some (some line)) outcome
      (m.onRegistration env conn c (c.clientId.getD "") line) := by
  unfold onRegistration
  split_ifs with object kind wisps
  · exact onManagement_stretch here place kind
  · have same := @registerWisps_same env m (c.clientId.getD "") line
    split
    · rename_i rt e result
      rw [result] at same
      exact .settles (same ▸ raises_settles (m := m.withRuntime rt) here)
    · rename_i rt response result
      rw [result] at same
      exact .settles (.keeps same)
  · exact .settles (finish_settles here)
  · exact .settles (raises_settles here)

theorem onSubscribed_stretch (here : m.connections.get? conn = some c') (place : managing c.pc = true) :
    Stretch m.runtime m.now conn c (some (some line)) outcome
      (m.onSubscribed env conn c (c.clientId.getD "") line) := by
  unfold onSubscribed
  split_ifs with object ping valid kind
  · exact .settles (.keeps rfl)
  · exact .settles (.keeps rfl)
  · exact onManagement_stretch here place kind
  · exact .settles (.keeps rfl)
  · exact .settles (raises_settles here)

theorem onRead_stretch {input : Input} {taken : Option Line} (here : m.connections.get? conn = some c')
    (json : ∀ value, input = .json value → taken = some (some value)) (took : input ≠ .eof → taken.isSome = true)
    (success : m.onRead env conn c input draw = some m') : Stretch m.runtime m.now conn c taken outcome m' := by
  have parsed : ∀ {handle : Json → Machine}, (∀ line, input = .json line →
      Stretch m.runtime m.now conn c taken outcome (handle line)) →
      Stretch m.runtime m.now conn c taken outcome (m.onLine env conn c input handle) := by
    intro handle stretch
    unfold onLine
    split
    · exact stretch _ rfl
    · exact .settles (raises_settles here)
    · exact .settles (raises_settles here)
  have looped : ∀ {handle : Json → Machine}, (∀ line, input = .json line →
      Stretch m.runtime m.now conn c taken outcome (handle line)) →
      Stretch m.runtime m.now conn c taken outcome (m.onLoopLine env conn c input handle) := by
    intro handle stretch
    unfold onLoopLine
    split
    · exact stretch _ rfl
    · exact .settles (raises_settles here)
    · exact .settles (finish_settles here)
  unfold onRead at success
  split at success
  all_goals first | (cases success; done) | (rename_i start; try simp only [Option.some.injEq] at success)
  · exact success ▸ parsed fun line _ => .settles (onHello_settles here)
  · exact success ▸ parsed fun line _ => .settles (onAuthHello_settles here)
  · exact success ▸ parsed fun line _ => .settles (onProof_settles here)
  · exact success ▸ parsed fun line read => json line read ▸ onRequest_stretch here (by rw [start]; rfl)
  · exact success ▸ looped fun line read => json line read ▸ onRegistration_stretch here (by rw [start]; rfl)
  · exact success ▸ looped fun line read => json line read ▸ onSubscribed_stretch here (by rw [start]; rfl)
  · split at success <;> cases success
    · exact .settles (finish_settles here)
    · exact .hears start (took (by simp)) (raises_settles (m := m.touch (c.clientId.getD "")) here)
    · exact .hears start (took (by simp)) (onMessage_settles (m := m.touch (c.clientId.getD "")) here)

theorem onAuthenticated_stretch {clientId : String} {taken : Option Line} (here : m.connections.get? conn = some c')
    (start : c.pc = .authenticated clientId) :
    Stretch m.runtime m.now conn c taken outcome (m.onAuthenticated env conn c clientId) := by
  unfold onAuthenticated
  dsimp only
  split
  · exact .settles (.keeps rfl)
  · rename_i port
    refine .registers clientId start port ?_
    have there : (((m.setClient conn clientId).record (.authenticated conn clientId)).registerSession conn
        clientId).connections.get? conn = some { c' with clientId := some clientId } := by
      simp [registerSession, withRuntime, record, setClient, Dict.get?_modify, here]
    split_ifs
    · exact .keeps rfl
    · exact raises_settles there

theorem sendQueued_settles {queue : List Json} (here : m.connections.get? conn = some c') :
    Settles conn (tables m.runtime) (m.sendQueued env conn c queue) := by
  cases queue with
  | nil => exact broadcast_settles (m := m.withRuntime { m.runtime with state := m.runtime.state.save }) here
  | cons frame rest => exact .keeps rfl

theorem rebroadcast_stretch {current : String} {rest : List (String × ConnId)} {stale names : List String} {after : After}
    {taken : Option Line} (here : m.connections.get? conn = some c')
    (start : c.pc = .broadcasting current rest stale after)
    (ends : (outcome = .sent ∧ names = stale) ∨ (outcome = .lost ∧ names = stale ++ [current])) :
    Stretch m.runtime m.now conn c taken outcome (m.broadcastOn env conn c rest names after) := by
  rcases @broadcastOn_settles env m conn c c' rest names after here with settles | ⟨rfl, gone⟩
  · exact .settles settles
  · exact .strikes current stale after start names ends gone

theorem onSent_stretch {taken : Option Line} (here : m.connections.get? conn = some c')
    (success : m.onSent env conn c = some m') : Stretch m.runtime m.now conn c taken .sent m' := by
  unfold onSent at success
  split at success
  all_goals first | (cases success; done) | (rename_i start; simp only [Option.some.injEq] at success; subst success)
  · exact .settles (.keeps rfl)
  · exact .settles (.keeps rfl)
  · exact onAuthenticated_stretch here start
  · exact .settles (finish_settles here)
  · exact .settles (.keeps rfl)
  · exact .subscribes start (broadcast_settles (m := m.withRuntime { m.runtime with
      controlSessions := m.runtime.controlSessions.insert (c.clientId.getD "") conn }) here)
  · exact .settles (.keeps rfl)
  · exact .settles (sendQueued_settles (m := m.withRuntime { m.runtime with
      state := (m.runtime.state.drain (c.clientId.getD "")).1 }) here)
  · exact .settles (sendQueued_settles here)
  · exact rebroadcast_stretch here start (.inl ⟨rfl, rfl⟩)
  · exact .settles (.keeps rfl)
  · exact .settles (.keeps rfl)
  · exact .settles (.keeps rfl)
  · exact .settles (.keeps rfl)
  · exact .settles (.keeps rfl)

theorem onLost_stretch {taken : Option Line} (here : m.connections.get? conn = some c')
    (success : m.onLost env conn c = some m') : Stretch m.runtime m.now conn c taken .lost m' := by
  unfold onLost at success
  split at success
  all_goals first | (cases success; done) | (rename_i start; simp only [Option.some.injEq] at success; subst success)
  · exact .settles (finish_settles here)
  · exact rebroadcast_stretch here start (.inr ⟨rfl, rfl⟩)
  · rename_i recipient destination
    unfold destinationLost
    split_ifs with own
    · exact .loses recipient destination start rfl own (broadcast_settles (m := m.dropSession recipient) here)
    · exact .settles (.keeps (continueAfter_tables _))
  · exact .settles (.keeps rfl)
  · exact .settles (.keeps rfl)
  · exact .settles (raises_settles here)

/-- What resuming a handler does to the tables. -/
theorem resume_stretch (here : m.connections.get? conn = some c) (success : m.resume env conn c outcome draw = some m') :
    ∃ c₀ taken, c₀.pc = c.pc ∧ c₀.port = c.port ∧ c₀.clientId = c.clientId ∧
      (∀ head, taken = some head → outcome = .read ∧ ∃ rest, c.buffer = head :: rest) ∧
      Stretch m.runtime m.now conn c₀ taken outcome m' := by
  cases outcome with
  | read =>
    simp only [resume] at success
    split_ifs at success
    split at success
    · cases success
    · rename_i input buffer next
      refine ⟨{ c with buffer := buffer }, c.buffer.head?, rfl, rfl, rfl, ?_, ?_⟩
      · intro head found
        obtain ⟨rest, buffer⟩ := List.head?_eq_some_iff.mp found
        exact ⟨rfl, rest, buffer⟩
      · refine onRead_stretch (m := m.setBuffer conn buffer) (setBuffer_here here) ?_ ?_ success
        · rintro value rfl
          unfold nextInput at next
          split at next
          · rename_i found
            cases next
            rw [found, List.head?_cons]
          · cases next
          · split_ifs at next
            cases next
        · intro more
          unfold nextInput at next
          split at next
          · rename_i found
            rw [found]
            rfl
          · rename_i found
            rw [found]
            rfl
          · split_ifs at next
            cases next
            exact absurd rfl more
  | sent => exact ⟨c, none, rfl, rfl, rfl, by simp, onSent_stretch here success⟩
  | lost => exact ⟨c, none, rfl, rfl, rfl, by simp, onLost_stretch here success⟩
  | timeout =>
    simp only [resume] at success
    split_ifs at success
    cases success
    exact ⟨c, none, rfl, rfl, rfl, by simp, .settles (raises_settles here)⟩
  | overrun =>
    simp only [resume] at success
    split_ifs at success
    cases success
    exact ⟨c, none, rfl, rfl, rfl, by simp, .settles (raises_settles here)⟩

end Stretches

end WispGate.Soundness.Registry
