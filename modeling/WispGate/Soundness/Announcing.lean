import WispGate.Soundness.Catalogs
import WispGate.Soundness.Presence

/-! # What announces a change of the catalog

A stretch of a handler leaves alone what catalogs depend on, or it ends in the broadcast that tells of
the change, or in an await before that broadcast.
-/

namespace WispGate.Soundness.Announcing

open Data Model Model.Relay Machine Revocation Registry Catalogs

/-! ## Conditions -/

/-- The tables are as they were, the state file apart. -/
def Steady (rt rt' : RelayRuntime) : Prop :=
  rt'.state.wisps = rt.state.wisps ∧ rt'.state.clients = rt.state.clients ∧ rt'.sessions = rt.sessions ∧
    rt'.relayLiveness = rt.relayLiveness ∧ rt'.controlSessions = rt.controlSessions

/-- A management request that leaves the tables as they are, or a registration that completes or does. -/
def Harmless (env : Env) (m : Machine) (c : Connection) (message : Json) : Prop :=
  (managing c.pc = true → message.get "type" = .str "management_request" →
    Steady m.runtime (m.runtime.managementRequest env m.now (c.clientId.getD "") (message.getD "request" (.obj []))).1) ∧
  (c.pc = .registration → message.get "type" = .str "wisps" →
    (m.runtime.registerWisps env m.now (c.clientId.getD "") message).2.isOk = true ∨
      Steady m.runtime (m.runtime.registerWisps env m.now (c.clientId.getD "") message).1)

instance (rt rt' : RelayRuntime) : Decidable (Steady rt rt') := inferInstanceAs (Decidable (_ ∧ _))

instance (env : Env) (m : Machine) (c : Connection) (message : Json) : Decidable (Harmless env m c message) :=
  inferInstanceAs (Decidable (_ ∧ _))

/-! ## Silence -/

/-- The handler is in the middle of a broadcast. -/
def broadcasts : Pc → Bool
  | .broadcasting _ _ _ _ => true
  | _ => false

/-- A handler that starts no broadcast and goes on with none. -/
def Stays (conn : ConnId) (m m' : Machine) : Prop := ∀ c', m'.connections.get? conn = some c' →
  broadcasts c'.pc = false ∨ ∃ c, m.connections.get? conn = some c ∧ c'.pc = c.pc

theorem Stays.trans {conn : ConnId} {m m' m'' : Machine} (first : Stays conn m m') (second : Stays conn m' m'') :
    Stays conn m m'' := by
  intro c'' here''
  rcases second c'' here'' with quiet | ⟨c', here', same⟩
  · exact .inl quiet
  · rw [same]
    exact first c' here'

/-- A stretch that changes nothing a catalog depends on. It may bring a catalog only where a client's
queue holds one. -/
structure Silent (conn : ConnId) (start : Pc) (m m' : Machine) : Prop where
  now : m'.now = m.now
  wisps : m'.runtime.state.wisps = m.runtime.state.wisps
  live : ∀ id, m'.runtime.relayLiveness.contains id = m.runtime.relayLiveness.contains id
  sessions : m'.runtime.sessions = m.runtime.sessions
  control : ∀ id d, m'.runtime.controlSessions.get? id = some d → m.runtime.controlSessions.get? id = some d
  log : ∃ new, m'.log = new ++ m.log ∧ ∀ d frame, .wrote d frame ∈ new → brings frame = true →
    d = conn ∧ living start = some .relay
  stays : Stays conn m m'

section Silence

variable {conn d : ConnId} {start : Pc} {m m' m'' : Machine} {frame : Json} {rt : RelayRuntime}

theorem Silent.refl (conn : ConnId) (start : Pc) (m : Machine) : Silent conn start m m where
  now := rfl
  wisps := rfl
  live _ := rfl
  sessions := rfl
  control _ _ found := found
  log := ⟨[], rfl, by simp⟩
  stays c here := .inr ⟨c, here, rfl⟩

theorem Silent.trans (first : Silent conn start m m') (second : Silent conn start m' m'') : Silent conn start m m'' where
  now := second.now.trans first.now
  wisps := second.wisps.trans first.wisps
  live id := (second.live id).trans (first.live id)
  sessions := second.sessions.trans first.sessions
  control id d found := first.control id d (second.control id d found)
  log := by
    obtain ⟨new, log, quiet⟩ := first.log
    obtain ⟨new', log', quiet'⟩ := second.log
    refine ⟨new' ++ new, by rw [log', log, List.append_assoc], fun d frame member => ?_⟩
    rcases List.mem_append.mp member with later | earlier
    · exact quiet' d frame later
    · exact quiet d frame earlier
  stays := first.stays.trans second.stays

theorem goto_silent {pc : Pc} (still : broadcasts pc = false) : Silent conn start m (m.goto conn pc) :=
  { Silent.refl conn start m with
    stays := fun c' here => by
      simp only [goto, Dict.get?_modify, if_pos, Option.map_eq_some_iff] at here
      obtain ⟨c, -, rfl⟩ := here
      exact .inl still }

theorem setClient_silent (clientId : String) : Silent conn start m (m.setClient conn clientId) :=
  { Silent.refl conn start m with
    stays := fun c' here => by
      simp only [setClient, Dict.get?_modify, if_pos, Option.map_eq_some_iff] at here
      obtain ⟨c, here, rfl⟩ := here
      exact .inr ⟨c, here, rfl⟩ }

theorem write_silent (quiet : brings frame = false) : Silent conn start m (m.write d frame) :=
  { Silent.refl conn start m with
    log := ⟨[.wrote d frame], rfl, fun other written member brought => by
      simp only [List.mem_singleton, Entry.wrote.injEq] at member
      rw [member.2, quiet] at brought
      cases brought⟩ }

theorem record_silent {entry : Entry} (other : ∀ d frame, entry ≠ .wrote d frame) :
    Silent conn start m (m.record entry) :=
  { Silent.refl conn start m with
    log := ⟨[entry], rfl, fun d frame member => absurd (List.mem_singleton.mp member).symm (other d frame)⟩ }

theorem send_silent {pc : Pc} (quiet : brings frame = false) (still : broadcasts pc = false) :
    Silent conn start m (m.send conn frame pc) := (write_silent quiet).trans (goto_silent still)

/-- New tables that agree on what catalogs depend on. -/
theorem runtime_silent (wisps : rt.state.wisps = m.runtime.state.wisps) (same : tables rt = tables m.runtime) :
    Silent conn start m (m.withRuntime rt) :=
  { Silent.refl conn start m with
    wisps := wisps
    live := fun id => congrArg (fun t : Tables => t.liveness.contains id) same
    sessions := congrArg Tables.sessions same
    control := fun id _ found => (congrArg (fun t : Tables => t.control.get? id) same).symm.trans found }

theorem closeWriter_silent : Silent conn start m (m.closeWriter d) := { Silent.refl conn start m with }

theorem close_silent : Silent conn start m (m.close conn) := closeWriter_silent.trans (goto_silent rfl)

theorem dropControl_silent (clientId : String) : Silent conn start m (m.dropControl clientId) :=
  { Silent.refl conn start m with
    control := fun id d found => by
      have found : (m.runtime.controlSessions.erase clientId).get? id = some d := found
      rw [Dict.get?_erase] at found
      split_ifs at found
      exact found }

theorem dropStale_silent (stale : List String) (m : Machine) : Silent conn start m (stale.foldl dropControl m) := by
  induction stale generalizing m with
  | nil => exact .refl conn start m
  | cons clientId rest ih => exact (dropControl_silent clientId).trans (ih (m.dropControl clientId))

theorem continueAfter_silent (after : After) : Silent conn start m (m.continueAfter conn after) := by
  cases after with
  | reading => exact goto_silent rfl
  | subscribed => exact goto_silent rfl
  | closing => exact close_silent
  | drop destination => exact closeWriter_silent.trans (goto_silent rfl)

end Silence

/-! ## Broadcasts -/

/-- The current catalog was written to the first of some clients, and the handler goes on with the others. -/
def Turned (env : Env) (conn : ConnId) (entries : List (String × ConnId)) (m : Machine) : Prop :=
  ∃ id d rest, entries = (id, d) :: rest ∧ Informed env m id d ∧
    ∃ c stale after, m.connections.get? conn = some c ∧ c.pc = .broadcasting id rest stale after

/-- Every subscriber has the current catalog or is on the list of the handler. -/
def Covered (env : Env) (conn : ConnId) (m m' : Machine) : Prop :=
  (m'.runtime.controlSessions.entries = [] ∧ Stays conn m m') ∨ Turned env conn m'.runtime.controlSessions.entries m'

theorem Covered.after {env : Env} {conn : ConnId} {m m' m'' : Machine} (covered : Covered env conn m' m'')
    (first : Stays conn m m') : Covered env conn m m'' :=
  covered.imp_left fun nobody => ⟨nobody.1, first.trans nobody.2⟩

/-- There are catalogs, or nobody waits for one. -/
def Listable (m : Machine) : Prop := Clear m.runtime.state.wisps ∨ m.runtime.controlSessions.entries = []

theorem Silent.nobody {conn : ConnId} {start : Pc} {m m' : Machine} (same : Silent conn start m m')
    (nobody : m.runtime.controlSessions.entries = []) : m'.runtime.controlSessions.entries = [] := by
  rw [List.eq_nil_iff_forall_not_mem]
  rintro ⟨id, d⟩ member
  have found := same.control id d ((Dict.get?_eq_some_iff ..).mpr member)
  have member := (Dict.get?_eq_some_iff ..).mp found
  rw [nobody] at member
  cases member

theorem Silent.listable {conn : ConnId} {start : Pc} {m m' : Machine} (same : Silent conn start m m')
    (listable : Listable m) : Listable m' :=
  listable.imp (fun clear => same.wisps ▸ clear) same.nobody

/-- A stretch that tells nothing, or has told everyone of what it changed. -/
inductive Tells (env : Env) (conn : ConnId) (start : Pc) (m m' : Machine) : Prop
  | silent (same : Silent conn start m m')
  | covers (now : m'.now = m.now) (wisps : m'.runtime.state.wisps = m.runtime.state.wisps)
    (covered : Covered env conn m m')

section Broadcasts

variable {env : Env} {m m' : Machine} {conn d : ConnId} {c c' : Connection} {start : Pc} {id : String}
  {rest : List (String × ConnId)} {stale : List String} {after : After}

theorem broadcastNext_turned (here : m.connections.get? conn = some c)
    (turned : m.broadcastNext env conn ((id, d) :: rest) stale after = .ok m') :
    m'.runtime = m.runtime ∧ m'.now = m.now ∧ (∃ frame, m'.log = .wrote d frame :: m.log) ∧
      Turned env conn ((id, d) :: rest) m' := by
  unfold broadcastNext at turned
  dsimp only at turned
  split at turned
  · cases turned
  rename_i items listed
  cases turned
  refine ⟨rfl, rfl, ⟨_, rfl⟩, id, d, rest, rfl, ⟨items, listed, lastCatalog_update m.log d items⟩,
    { c with pc := .broadcasting id rest stale after }, stale, after, ?_, rfl⟩
  simp [goto, write, record, Dict.get?_modify, here]

theorem broadcastNext_defined (clear : Clear m.runtime.state.wisps) :
    ∃ m', m.broadcastNext env conn rest stale after = .ok m' := by
  unfold broadcastNext
  split
  · exact ⟨_, rfl⟩
  · rename_i clientId _ _
    obtain ⟨items, listed⟩ := (@catalogItems_defined env m.runtime m.now (some clientId)).mpr clear
    rw [listed]
    exact ⟨_, rfl⟩

theorem startBroadcast_defined (clear : Clear m.runtime.state.wisps) :
    ∃ m', m.startBroadcast env conn after = .ok m' := by
  obtain ⟨items, listed⟩ := (@catalogItems_defined env m.runtime m.now none).mpr clear
  unfold startBroadcast
  rw [listed]
  exact broadcastNext_defined clear

/-- A broadcast that starts covers every subscriber. -/
theorem startBroadcast_covers (here : m.connections.get? conn = some c)
    (started : m.startBroadcast env conn after = .ok m') :
    m'.now = m.now ∧ m'.runtime.state.wisps = m.runtime.state.wisps ∧ Covered env conn m m' := by
  unfold startBroadcast at started
  split at started
  · cases started
  cases entries : m.runtime.controlSessions.entries with
  | nil =>
    rw [entries] at started
    cases started
    have same := @continueAfter_silent conn .done m after
    have nobody : m.runtime.controlSessions = .empty := Dict.ext entries
    refine ⟨same.now, same.wisps, .inl ⟨?_, same.stays⟩⟩
    have kept : (m.continueAfter conn after).runtime.controlSessions = m.runtime.controlSessions := by
      cases after <;> rfl
    exact (congrArg Dict.entries kept).trans entries
  | cons entry rest =>
    rw [entries] at started
    obtain ⟨runtime, now, -, turned⟩ := broadcastNext_turned here started
    refine ⟨now, by rw [runtime], .inr ?_⟩
    rwa [runtime, entries]

/-- A handler that ends tells everyone that its client is gone, or nothing. -/
theorem finish_tells (listable : Listable m) (here : m.connections.get? conn = some c') :
    Tells env conn start m (m.finish env conn c) := by
  unfold finish
  split
  · rename_i clientId _ _
    split_ifs with own
    · split
      · rename_i started
        obtain ⟨now, wisps, covered⟩ := startBroadcast_covers (m := m.dropSession clientId) here started
        exact .covers now wisps covered
      · rename_i raised
        have ended : Silent conn start (m.dropSession clientId)
          ((m.dropSession clientId).goto conn .done) := goto_silent rfl
        refine .covers rfl rfl (.inl ⟨listable.resolve_left fun clear => ?_, ended.stays⟩)
        obtain ⟨m', started⟩ := @startBroadcast_defined env (m.dropSession clientId) conn .closing clear
        rw [raised] at started
        cases started
    · exact .silent close_silent
  · split_ifs
    · exact .silent ((dropControl_silent _).trans close_silent)
    · exact .silent close_silent
  · exact .silent close_silent

theorem raises_tells {e : PyError} (listable : Listable m) (here : m.connections.get? conn = some c') :
    Tells env conn start m (m.raises env conn c e) := by
  unfold raises
  split_ifs
  · exact .silent (send_silent (refusal_quiet _) rfl)
  · exact finish_tells listable here

/-- The handler of a registered connection tells everyone when it ends. -/
theorem raises_owned {e : PyError} (listable : Listable m) (here : m.connections.get? conn = some c')
    (port : c.port = .relay) (client : c.clientId = some id) (own : m.runtime.sessions.get? id = some conn) :
    (m.raises env conn c e).now = m.now ∧ (m.raises env conn c e).runtime.state.wisps = m.runtime.state.wisps ∧
      Covered env conn m (m.raises env conn c e) := by
  have leaves : m.raises env conn c e = m.finish env conn c := if_neg (by simp [port])
  rw [leaves]
  unfold finish
  rw [port, client]
  dsimp only
  rw [if_pos own]
  split
  · rename_i started
    exact startBroadcast_covers (m := m.dropSession id) here started
  · rename_i raised
    have ended : Silent conn .done (m.dropSession id) ((m.dropSession id).goto conn .done) := goto_silent rfl
    refine ⟨rfl, rfl, .inl ⟨listable.resolve_left fun clear => ?_, ended.stays⟩⟩
    obtain ⟨m', started⟩ := @startBroadcast_defined env (m.dropSession id) conn .closing clear
    rw [raised] at started
    cases started

/-- A broadcast from the body of a handler covers every subscriber. -/
theorem broadcast_covers (listable : Listable m) (here : m.connections.get? conn = some c') :
    (m.broadcast env conn c after).now = m.now ∧
      (m.broadcast env conn c after).runtime.state.wisps = m.runtime.state.wisps ∧
      Covered env conn m (m.broadcast env conn c after) := by
  unfold broadcast
  split
  · rename_i started
    exact startBroadcast_covers here started
  · rename_i e raised
    have nobody : m.runtime.controlSessions.entries = [] := listable.resolve_left fun clear => by
      obtain ⟨m', started⟩ := @startBroadcast_defined env m conn after clear
      rw [raised] at started
      cases started
    cases @raises_tells env m conn c c' .done e listable here with
    | silent same => exact ⟨same.now, same.wisps, .inl ⟨same.nobody nobody, same.stays⟩⟩
    | covers now wisps covered => exact ⟨now, wisps, covered⟩

end Broadcasts

/-! ## Handlers -/

section Handlers

variable {env : Env} {m m' m'' : Machine} {conn : ConnId} {c c' : Connection} {start : Pc} {line : Json} {draw : Draw}
  {sender : String}

theorem Silent.tells (same : Silent conn start m m') (tells : Tells env conn start m' m'') :
    Tells env conn start m m'' := by
  cases tells with
  | silent same' => exact .silent (same.trans same')
  | covers now wisps covered => exact .covers (now.trans same.now) (wisps.trans same.wisps) (covered.after same.stays)

theorem answerSender_silent {frame : Json} (quiet : brings frame = false) :
    Silent conn start m (m.answerSender conn sender frame) := by
  unfold answerSender
  split
  · exact (write_silent quiet).trans (goto_silent rfl)
  · exact goto_silent rfl

theorem deliver_silent {recipient : String} {destination : ConnId} {frame : Json} (quiet : brings frame = false) :
    Silent conn start m (m.deliver conn sender recipient destination frame) :=
  ((write_silent quiet).trans (record_silent (by simp))).trans (goto_silent rfl)

theorem forward_tells {envelope : Json} (listable : Listable m) (here : m.connections.get? conn = some c') :
    Tells env conn start m (m.forward env conn c sender envelope) := by
  unfold forward
  split_ifs with valid
  · split
    · exact raises_tells listable here
    · split
      · exact .silent (answerSender_silent (refusal_quiet _))
      · split
        · exact .silent ((write_silent (acceptance_quiet _)).trans (goto_silent rfl))
        · exact .silent (deliver_silent (application_quiet (Forwarding.forwardable_application valid).2))
  · exact .silent (answerSender_silent (refusal_quiet _))

theorem onMessage_tells {message : Json} (listable : Listable m) (here : m.connections.get? conn = some c') :
    Tells env conn start m (m.onMessage env conn c sender message) := by
  unfold onMessage
  split_ifs
  · exact .silent (send_silent (pong_quiet _) rfl)
  · exact .silent (send_silent (refusal_quiet _) rfl)
  · exact .silent (goto_silent rfl)
  · exact raises_tells listable here
  · exact forward_tells listable here
  · exact .silent (send_silent (refusal_quiet _) rfl)
  · exact raises_tells listable here

theorem destinationLost_tells {recipient : String} {destination : ConnId} (listable : Listable m)
    (here : m.connections.get? conn = some c') :
    Tells env conn start m (m.destinationLost env conn c recipient destination) := by
  unfold destinationLost
  split_ifs
  · obtain ⟨now, wisps, covered⟩ := @broadcast_covers env (m.dropSession recipient) conn c c'
      (.drop destination) listable here
    exact .covers now wisps covered
  · exact .silent (continueAfter_silent _)

theorem onAuthHello_tells {hello : Json} (listable : Listable m) (here : m.connections.get? conn = some c') :
    Tells env conn start m (m.onAuthHello env conn c hello draw) := by
  unfold onAuthHello
  split
  · exact raises_tells listable here
  · rename_i refused
    exact .silent (send_silent (begin_quiet refused) rfl)
  · rename_i rt pending frame begun
    obtain ⟨challenge, rfl, -⟩ := begin_spec begun
    have told : Silent conn start m (m.send conn frame (.challenge pending)) :=
      send_silent (begin_challenge_quiet begun) rfl
    refine .silent { told with
      log := ⟨[.wrote conn frame, .challenged conn draw.challenge], rfl, fun d written member brought => ?_⟩ }
    simp only [List.mem_cons, Entry.wrote.injEq, reduceCtorEq, List.not_mem_nil, or_false] at member
    rw [member.2, begin_challenge_quiet begun] at brought
    cases brought

theorem onHello_tells (listable : Listable m) (here : m.connections.get? conn = some c') :
    Tells env conn start m (m.onHello env conn c line draw) := by
  unfold onHello
  split_ifs
  · split
    · exact raises_tells listable here
    · rename_i request opened
      have wisps := @bootstrap_wisps env m.runtime m.wallClock request
      have same := @bootstrap_same env m request m.wallClock
      have there : (m.setClient conn request.clientId).connections.get? conn =
          some { c' with clientId := some request.clientId } := by
        simp [setClient, Dict.get?_modify, here]
      dsimp only
      split
      · rename_i rt e result
        rw [show m.runtime.bootstrap env m.wallClock request = (rt, .error e) from result] at wisps same
        have later : Silent conn start m ((m.setClient conn request.clientId).withRuntime rt) :=
          (setClient_silent request.clientId).trans (runtime_silent wisps same)
        exact later.tells (raises_tells (later.listable listable) there)
      · rename_i rt reply result
        have quiet := @bootstrap_quiet env m.runtime m.wallClock request reply
          (congrArg Prod.snd (show m.runtime.bootstrap env m.wallClock request = (rt, .ok reply) from result))
        rw [show m.runtime.bootstrap env m.wallClock request = (rt, .ok reply) from result] at wisps same
        have later : Silent conn start m ((m.setClient conn request.clientId).withRuntime rt) :=
          (setClient_silent request.clientId).trans (runtime_silent wisps same)
        cases reply with
        | returns frame => exact .silent (later.trans (send_silent (quiet.1 frame rfl) rfl))
        | continues frame => exact .silent (later.trans (send_silent (quiet.2 frame rfl) rfl))
  · exact .silent (send_silent (refusal_quiet _) rfl)
  · exact onAuthHello_tells listable here

theorem onProof_tells {pending : Pending} (listable : Listable m) (here : m.connections.get? conn = some c') :
    Tells env conn start m (m.onProof env conn c pending line) := by
  have wisps := @conclude_wisps env m.runtime m.now c.port pending line
  have same := @conclude_same env m pending line c.port
  unfold onProof
  split
  · rename_i rt e result
    rw [result] at wisps same
    have later : Silent conn start m (m.withRuntime rt) := runtime_silent wisps same
    exact later.tells (raises_tells (later.listable listable) here)
  · rename_i rt frame result
    have quiet := conclude_quiet (congrArg Prod.snd result)
    rw [result] at wisps same
    exact .silent ((runtime_silent wisps same).trans (send_silent quiet rfl))
  · rename_i rt proof result
    rw [result] at wisps same
    have proved : Silent conn start m ((m.withRuntime rt).record (.proved conn proof)) :=
      (runtime_silent wisps same).trans (record_silent (by simp))
    exact .silent (proved.trans (send_silent (quiet_of_type "authenticated" rfl (by decide)) rfl))

theorem Steady.silent {rt : RelayRuntime} (steady : Steady m.runtime rt) : Silent conn start m (m.withRuntime rt) := by
  obtain ⟨wisps, -, sessions, liveness, control⟩ := steady
  exact runtime_silent wisps (by simp only [tables, sessions, liveness, control])

theorem onManagement_tells {next : Pc} (still : broadcasts next = false) (listable : Listable m)
    (here : m.connections.get? conn = some c')
    (steady : Steady m.runtime (m.runtime.managementRequest env m.now sender (line.getD "request" (.obj []))).1) :
    Tells env conn start m (m.onManagement env conn c sender line next) := by
  unfold onManagement
  split
  · rename_i rt e result
    rw [result] at steady
    have later : Silent conn start m (m.withRuntime rt) := steady.silent
    exact later.tells (raises_tells (later.listable listable) here)
  · rename_i rt response result
    have quiet := managementResponse_quiet (managementRequest_quiet (congrArg Prod.snd result))
    rw [result] at steady
    exact .silent (steady.silent.trans (send_silent quiet still))

theorem onRequest_tells (listable : Listable m) (here : m.connections.get? conn = some c')
    (harmless : Harmless env m c line) (place : managing c.pc = true) :
    Tells env conn start m (m.onRequest env conn c (c.clientId.getD "") line) := by
  unfold onRequest
  split_ifs with object kind join
  · exact onManagement_tells rfl listable here (harmless.1 place kind)
  · exact .silent (send_silent (refusal_quiet _) rfl)
  · split
    · exact raises_tells listable here
    · have saved : Silent conn start m (m.withRuntime { m.runtime with state := m.runtime.state.save }) :=
        { Silent.refl conn start m with }
      dsimp only
      split
      · exact saved.tells (raises_tells (saved.listable listable) here)
      · exact .silent (saved.trans (send_silent (quiet_of_type "joined" rfl (by decide)) rfl))
  · exact raises_tells listable here

theorem onSubscribed_tells (listable : Listable m) (here : m.connections.get? conn = some c')
    (harmless : Harmless env m c line) (place : managing c.pc = true) :
    Tells env conn start m (m.onSubscribed env conn c (c.clientId.getD "") line) := by
  unfold onSubscribed
  split_ifs with object ping valid kind
  · exact .silent (send_silent (pong_quiet _) rfl)
  · exact .silent (goto_silent rfl)
  · exact onManagement_tells rfl listable here (harmless.1 place kind)
  · exact .silent (goto_silent rfl)
  · exact raises_tells listable here

end Handlers

/-! ## Effects -/

/-- Awaits between the registration of a relay connection and the broadcast that tells of it. -/
def greeting : Pc → Bool
  | .ready | .queued _ => true
  | _ => false

/-- The handler is on the way to a broadcast: a registration is being answered, or the registered
connection of a client greeted. -/
def Pledged (m : Machine) (conn : ConnId) (c : Connection) : Prop := c.pc = .registered ∨
  (greeting c.pc = true ∧ ∃ own, c.clientId = some own ∧ m.runtime.sessions.get? own = some conn)

/-- The handler is going to write the then current catalog to a client's connection. -/
def Promises (m : Machine) (conn : ConnId) (c : Connection) (id : String) (d : ConnId) : Prop := Pledged m conn c ∨
  ∃ current rest stale after, c.pc = .broadcasting current rest stale after ∧ (id, d) ∈ rest

/-- What the stretch of a handler means for the subscribers. -/
inductive Effect (env : Env) (m : Machine) (conn : ConnId) (c : Connection) (m' : Machine) : Prop
  | silent (same : Silent conn c.pc m m') (idle : ∀ id d, ¬ Promises m conn c id d)
  | covers (now : m'.now = m.now) (wisps : m'.runtime.state.wisps = m.runtime.state.wisps)
    (covered : Covered env conn m m')
  | promises (now : m'.now = m.now) (clear : Clear m.runtime.state.wisps → Clear m'.runtime.state.wisps)
      (control : m'.runtime.controlSessions = m.runtime.controlSessions)
      (pledge : ∃ c', m'.connections.get? conn = some c' ∧ Pledged m' conn c')
  | turns (current id : String) (d : ConnId) (rest : List (String × ConnId)) (stale : List String) (after : After)
      (here : c.pc = .broadcasting current ((id, d) :: rest) stale after) (now : m'.now = m.now)
      (runtime : m'.runtime = m.runtime) (log : ∃ frame, m'.log = .wrote d frame :: m.log)
      (turned : Turned env conn ((id, d) :: rest) m')

section Effects

variable {env : Env} {m m' m'' : Machine} {conn : ConnId} {c c' : Connection} {line : Json} {draw : Draw}

theorem Tells.effect (tells : Tells env conn c.pc m m') (idle : ∀ id d, ¬ Promises m conn c id d) :
    Effect env m conn c m' := by
  cases tells with
  | silent same => exact .silent same idle
  | covers now wisps covered => exact .covers now wisps covered

/-- A handler promises nothing at any other await. -/
theorem idle_of_pc (unregistered : c.pc ≠ .registered) (settled : greeting c.pc = false)
    (quiet : ∀ current rest stale after, c.pc ≠ .broadcasting current rest stale after) (id : String) (d : ConnId) :
    ¬ Promises m conn c id d := by
  rintro ((registered | ⟨greets, -⟩) | ⟨current, rest, stale, after, here, -⟩)
  · exact unregistered registered
  · rw [settled] at greets
    cases greets
  · exact quiet _ _ _ _ here

/-! ### Turns of a broadcast -/

theorem broadcastOn_effect {current : String} {rest : List (String × ConnId)} {stale names : List String} {after : After}
    (listable : Listable m) (here : m.connections.get? conn = some c')
    (start : c.pc = .broadcasting current rest stale after) :
    Effect env m conn c (m.broadcastOn env conn c rest names after) := by
  unfold broadcastOn
  cases rest with
  | nil =>
    refine .silent ((dropStale_silent names m).trans (continueAfter_silent after)) fun id d promise => ?_
    simp [Promises, Pledged, start, greeting] at promise
  | cons entry rest =>
    obtain ⟨id, d⟩ := entry
    split
    · rename_i turned
      obtain ⟨runtime, now, log, turned⟩ := broadcastNext_turned here turned
      exact .turns current id d rest stale after start now runtime log turned
    · rename_i e raised
      have nobody : m.runtime.controlSessions.entries = [] := listable.resolve_left fun clear => by
        obtain ⟨m', turned⟩ := @broadcastNext_defined env m conn ((id, d) :: rest) names after clear
        rw [raised] at turned
        cases turned
      split_ifs
      · have ended : Silent conn .done m (m.goto conn .done) := goto_silent rfl
        exact .covers rfl rfl (.inl ⟨nobody, ended.stays⟩)
      · cases @raises_tells env m conn c c' .done e listable here with
        | silent same => exact .covers same.now same.wisps (.inl ⟨same.nobody nobody, same.stays⟩)
        | covers now wisps covered => exact .covers now wisps covered

/-! ### Registrations -/

theorem registerWisps_clear {rt rt' : RelayRuntime} {now : ℕ} {clientId : String} {message response : Json}
    (registered : rt.registerWisps env now clientId message = (rt', .ok response)) : Clear rt'.state.wisps := by
  have replaced : ∀ {r : RelayRuntime} {items : List Json},
      r.replaceWisps env now clientId items = (rt', .ok response) → Clear rt'.state.wisps := by
    intro r items replaced
    unfold RelayRuntime.replaceWisps at replaced
    dsimp only at replaced
    split at replaced
    · simp at replaced
    split at replaced
    · simp at replaced
    rename_i listed
    split_ifs at replaced
    · obtain ⟨rfl, -⟩ := Prod.mk.inj replaced
      exact catalogItems_defined.mp ⟨_, listed⟩
    · simp at replaced
  unfold RelayRuntime.registerWisps at registered
  split at registered
  · simp at registered
  split_ifs at registered
  · split at registered
    · simp at registered
    · exact replaced registered
  · exact replaced registered
  · simp at registered

theorem onRegistration_effect (listable : Listable m) (here : m.connections.get? conn = some c')
    (harmless : Harmless env m c line) (start : c.pc = .registration) :
    Effect env m conn c (m.onRegistration env conn c (c.clientId.getD "") line) := by
  have idle : ∀ id d, ¬ Promises m conn c id d := idle_of_pc
    (by simp [start]) (by simp [start, greeting]) (by simp [start])
  unfold onRegistration
  split_ifs with object kind wisps
  · exact (onManagement_tells rfl listable here (harmless.1 (by rw [start]; rfl) kind)).effect idle
  · have whole := harmless.2 start wisps
    have same := @registerWisps_same env m (c.clientId.getD "") line
    split
    · rename_i rt e result
      rw [result] at whole
      have later : Silent conn c.pc m (m.withRuntime rt) :=
        (whole.resolve_left (by simp [Except.isOk, Except.toBool])).silent
      exact (later.tells (raises_tells (later.listable listable) here)).effect idle
    · rename_i rt response result
      have clear := registerWisps_clear result
      rw [result] at same
      refine .promises rfl (fun _ => clear) (congrArg Tables.control same) ⟨{ c' with pc := .registered }, ?_, .inl rfl⟩
      simp [send, goto, write, record, withRuntime, Dict.get?_modify, here]
  · exact (finish_tells listable here).effect idle
  · exact (raises_tells listable here).effect idle

/-! ### Subscriptions -/

theorem startBroadcast_raises {after : After} {e : PyError}
    (raised : m.startBroadcast env conn after = .error e) : e = .type := by
  unfold startBroadcast at raised
  split at raised
  · rename_i listed
    cases raised
    exact catalogItems_raises listed
  unfold broadcastNext at raised
  split at raised
  · cases raised
  split at raised
  · rename_i listed
    cases raised
    exact catalogItems_raises listed
  · cases raised

/-- A new subscriber and all others are covered, or there is no catalog and the new one leaves. -/
theorem subscribe_covers {id : String} (listable : Listable m) (here : m.connections.get? conn = some c')
    (port : c.port = .control) (client : c.clientId = some id) :
    Effect env m conn c ((m.withRuntime { m.runtime with
      controlSessions := m.runtime.controlSessions.insert (c.clientId.getD "") conn }).broadcast env
        conn c .subscribed) := by
  rw [client, Option.getD_some]
  have fresh : ∀ other d, ((m.runtime.controlSessions.insert id conn).erase id).get? other = some d →
      m.runtime.controlSessions.get? other = some d := by
    intro other d found
    rw [Dict.get?_erase] at found
    split_ifs at found with same
    rwa [Dict.get?_insert_of_ne _ _ same] at found
  generalize subscribed : m.withRuntime { m.runtime with controlSessions := m.runtime.controlSessions.insert id conn } = n
  have there : n.connections.get? conn = some c' := by rw [← subscribed]; exact here
  have now : n.now = m.now := by rw [← subscribed]; rfl
  have wisps : n.runtime.state.wisps = m.runtime.state.wisps := by rw [← subscribed]; rfl
  have stays : Stays conn m n := by
    rw [← subscribed]
    exact fun c here => .inr ⟨c, here, rfl⟩
  by_cases clear : Clear m.runtime.state.wisps
  · obtain ⟨now', wisps', covered⟩ := @broadcast_covers env n conn c c' .subscribed (.inl (wisps ▸ clear)) there
    exact .covers (now'.trans now) (wisps'.trans wisps) (covered.after stays)
  · unfold broadcast
    split
    · rename_i started
      obtain ⟨now', wisps', covered⟩ := startBroadcast_covers there started
      exact .covers (now'.trans now) (wisps'.trans wisps) (covered.after stays)
    · rename_i raised
      obtain rfl := startBroadcast_raises raised
      have own : n.runtime.controlSessions.get? id = some conn := by
        rw [← subscribed]
        exact Dict.get?_insert_self ..
      have leaves : n.raises env conn c .type = (n.dropControl id).close conn := by
        have uncaught : ¬ (c.port = .control ∧ caught .type = true) := by simp [caught]
        rw [raises, if_neg uncaught, finish, port, client]
        exact if_pos own
      rw [leaves]
      have closed : Silent conn .done n ((n.dropControl id).close conn) := (dropControl_silent id).trans close_silent
      refine .covers now wisps (.inl ⟨?_, stays.trans closed.stays⟩)
      have control : ((n.dropControl id).close conn).runtime.controlSessions =
          (m.runtime.controlSessions.insert id conn).erase id := by
        rw [← subscribed]
        rfl
      rw [control, List.eq_nil_iff_forall_not_mem]
      rintro ⟨other, d⟩ member
      have member := (Dict.get?_eq_some_iff ..).mp (fresh other d ((Dict.get?_eq_some_iff ..).mpr member))
      rw [listable.resolve_left clear] at member
      cases member

/-! ### Relay connections -/

theorem touch_silent {start : Pc} {clientId : String} (present : m.runtime.relayLiveness.contains clientId = true) :
    Silent conn start m (m.touch clientId) :=
  { Silent.refl conn start m with
    live := fun id => by
      have heard : (m.touch clientId).runtime.relayLiveness = m.runtime.relayLiveness.insert clientId m.now := rfl
      rw [heard, Dict.contains, Dict.get?_insert]
      split_ifs with same
      · rw [← same, present]
        rfl
      · rfl }

theorem onAuthenticated_effect {id : String} (listable : Listable m) (here : m.connections.get? conn = some c')
    (start : c.pc = .authenticated id) : Effect env m conn c (m.onAuthenticated env conn c id) := by
  have idle : ∀ id d, ¬ Promises m conn c id d := idle_of_pc
    (by simp [start]) (by simp [start, greeting]) (by simp [start])
  have returned : Silent conn c.pc m ((m.setClient conn id).record (.authenticated conn id)) :=
    (setClient_silent id).trans (record_silent (by simp))
  unfold onAuthenticated
  dsimp only
  split
  · exact .silent (returned.trans (goto_silent rfl)) idle
  · rename_i port
    have there : (((m.setClient conn id).record (.authenticated conn id)).registerSession conn id).connections.get? conn =
        some { c' with clientId := some id } := by
      simp [registerSession, withRuntime, record, setClient, Dict.get?_modify, here]
    split_ifs
    · refine .promises rfl (fun clear => clear) rfl ⟨{ c' with clientId := some id, pc := .ready }, ?_,
        .inr ⟨rfl, id, rfl, Dict.get?_insert_self ..⟩⟩
      simp [markSeen, registerSession, send, goto, write, record, withRuntime, setClient, Dict.get?_modify, here]
    · obtain ⟨now, wisps, covered⟩ := @raises_owned env
        (((m.setClient conn id).record (.authenticated conn id)).registerSession
        conn id) conn { c with clientId := some id } { c' with clientId := some id } id .key listable there port rfl
        (Dict.get?_insert_self ..)
      exact .covers now wisps (covered.after returned.stays)

theorem greeting_living {pc : Pc} (greets : greeting pc = true) : living pc = some .relay := by
  cases pc <;> first | rfl | cases greets

/-- The next queued frame keeps the promise of a registered connection, and the end of the queue fulfils it. -/
theorem sendQueued_effect {queue : List Json} {n : Machine} (before : Silent conn c.pc m n) (listable : Listable m)
    (control : n.runtime.controlSessions = m.runtime.controlSessions) (here : n.connections.get? conn = some c)
    (greets : greeting c.pc = true) : Effect env m conn c (n.sendQueued env conn c queue) := by
  have alive : living c.pc = some .relay := greeting_living greets
  cases queue with
  | nil =>
    have saved : Silent conn c.pc m (n.withRuntime { n.runtime with state := n.runtime.state.save }) :=
      before.trans { Silent.refl conn c.pc n with }
    obtain ⟨now, wisps, covered⟩ := @broadcast_covers env (n.withRuntime { n.runtime with state := n.runtime.state.save })
      conn c c .reading (saved.listable listable) here
    exact .covers (now.trans saved.now) (wisps.trans saved.wisps) (covered.after saved.stays)
  | cons frame rest =>
    have sent : Silent conn c.pc m (n.send conn frame (.queued rest)) := by
      have queued : Silent conn c.pc n (n.goto conn (.queued rest)) := goto_silent rfl
      refine before.trans { queued with log := ⟨[.wrote conn frame], rfl, fun d written member _ => ?_⟩ }
      simp only [List.mem_singleton, Entry.wrote.injEq] at member
      exact ⟨member.1, alive⟩
    by_cases owned : ∃ own, c.clientId = some own ∧ m.runtime.sessions.get? own = some conn
    · obtain ⟨own, client, session⟩ := owned
      refine .promises sent.now (fun clear => sent.wisps ▸ clear) control ⟨{ c with pc := .queued rest }, ?_,
        .inr ⟨rfl, own, client, ?_⟩⟩
      · simp [sendQueued, send, goto, write, record, Dict.get?_modify, here]
      · exact (congrArg (fun sessions : Dict String ConnId => sessions.get? own) sent.sessions).trans session
    · refine .silent sent fun id d promise => ?_
      rcases promise with (registered | ⟨-, own⟩) | ⟨current, rest, stale, after, broadcasts, -⟩
      · rw [registered] at greets
        cases greets
      · exact owned own
      · rw [broadcasts] at greets
        cases greets

/-! ### Awaits -/

theorem onRead_effect {input : Input} (listable : Listable m) (here : m.connections.get? conn = some c')
    (harmless : ∀ value, input = .json value → Harmless env m c value)
    (heard : c.pc = .reading → input ≠ .eof → m.runtime.relayLiveness.contains (c.clientId.getD "") = true)
    (success : m.onRead env conn c input draw = some m') : Effect env m conn c m' := by
  have parsed : ∀ {handle : Json → Machine}, (∀ line, input = .json line → Tells env conn c.pc m (handle line)) →
      Tells env conn c.pc m (m.onLine env conn c input handle) := by
    intro handle tells
    unfold onLine
    split
    · exact tells _ rfl
    · exact raises_tells listable here
    · exact raises_tells listable here
  have looped : ∀ {handle : Json → Machine}, (∀ line, input = .json line → Tells env conn c.pc m (handle line)) →
      Tells env conn c.pc m (m.onLoopLine env conn c input handle) := by
    intro handle tells
    unfold onLoopLine
    split
    · exact tells _ rfl
    · exact raises_tells listable here
    · exact finish_tells listable here
  unfold onRead at success
  split at success
  all_goals first | (cases success; done) | (rename_i start; try simp only [Option.some.injEq] at success)
  all_goals
    have idle : ∀ id d, ¬ Promises m conn c id d := idle_of_pc
      (by simp [start]) (by simp [start, greeting]) (by simp [start])
  · exact success ▸ (parsed fun _ _ => onHello_tells listable here).effect idle
  · exact success ▸ (parsed fun _ _ => onAuthHello_tells listable here).effect idle
  · exact success ▸ (parsed fun _ _ => onProof_tells listable here).effect idle
  · exact success ▸ (parsed fun line read => onRequest_tells listable here (harmless line read)
      (by rw [start]; rfl)).effect idle
  · subst success
    unfold onLoopLine
    split
    · exact onRegistration_effect listable here (harmless _ rfl) start
    · exact (raises_tells listable here).effect idle
    · exact (finish_tells listable here).effect idle
  · exact success ▸ (looped fun line read => onSubscribed_tells listable here (harmless line read)
      (by rw [start]; rfl)).effect idle
  · split at success <;> cases success
    · exact (finish_tells listable here).effect idle
    · have later : Silent conn c.pc m (m.touch (c.clientId.getD "")) := touch_silent (heard start (by simp))
      exact (later.tells (raises_tells (later.listable listable) here)).effect idle
    · have later : Silent conn c.pc m (m.touch (c.clientId.getD "")) := touch_silent (heard start (by simp))
      exact (later.tells (onMessage_tells (later.listable listable) here)).effect idle

theorem onSent_effect (listable : Listable m) (here : m.connections.get? conn = some c)
    (named : session c.pc = true → ∃ id, c.clientId = some id) (ports : ∀ port, living c.pc = some port → c.port = port)
    (carried : ∀ recipient destination frame, c.pc = .accepting recipient destination frame → brings frame = false)
    (success : m.onSent env conn c = some m') : Effect env m conn c m' := by
  unfold onSent at success
  split at success
  all_goals first | (cases success; done) | (rename_i start; simp only [Option.some.injEq] at success; subst success)
  · exact .silent (goto_silent rfl) (idle_of_pc (by simp [start]) (by simp [start, greeting]) (by simp [start]))
  · exact .silent (goto_silent rfl) (idle_of_pc (by simp [start]) (by simp [start, greeting]) (by simp [start]))
  · exact onAuthenticated_effect listable here start
  · exact (finish_tells listable here).effect (idle_of_pc (by simp [start]) (by simp [start, greeting]) (by simp [start]))
  · exact .silent (goto_silent rfl) (idle_of_pc (by simp [start]) (by simp [start, greeting]) (by simp [start]))
  · obtain ⟨id, client⟩ := named (by rw [start]; rfl)
    exact subscribe_covers listable here (ports .control (by rw [start]; rfl)) client
  · exact .silent (goto_silent rfl) (idle_of_pc (by simp [start]) (by simp [start, greeting]) (by simp [start]))
  · exact sendQueued_effect (n := m.withRuntime { m.runtime with state :=
      (m.runtime.state.drain (c.clientId.getD "")).1 })
      { Silent.refl conn c.pc m with } listable rfl here (by rw [start]; rfl)
  · exact sendQueued_effect (.refl conn c.pc m) listable rfl here (by rw [start]; rfl)
  · exact broadcastOn_effect listable here start
  · exact .silent (goto_silent rfl) (idle_of_pc (by simp [start]) (by simp [start, greeting]) (by simp [start]))
  · rename_i recipient destination frame
    exact .silent (deliver_silent (carried recipient destination frame start))
      (idle_of_pc (by simp [start]) (by simp [start, greeting]) (by simp [start]))
  · exact .silent (goto_silent rfl) (idle_of_pc (by simp [start]) (by simp [start, greeting]) (by simp [start]))
  · exact .silent (goto_silent rfl) (idle_of_pc (by simp [start]) (by simp [start, greeting]) (by simp [start]))
  · exact .silent (goto_silent rfl) (idle_of_pc (by simp [start]) (by simp [start, greeting]) (by simp [start]))

theorem onLost_effect (listable : Listable m) (here : m.connections.get? conn = some c)
    (ports : ∀ port, living c.pc = some port → c.port = port) (kept : c.pc ≠ .registered)
    (success : m.onLost env conn c = some m') : Effect env m conn c m' := by
  unfold onLost at success
  split at success
  all_goals first | (cases success; done) |
    (rename_i start; try simp only [Option.some.injEq] at success; try subst success)
  · exact (finish_tells listable here).effect (idle_of_pc (by simp [start]) (by simp [start, greeting]) (by simp [start]))
  · exact broadcastOn_effect listable here start
  · exact (destinationLost_tells listable here).effect
      (idle_of_pc (by simp [start]) (by simp [start, greeting]) (by simp [start]))
  · exact .silent (goto_silent rfl) (idle_of_pc (by simp [start]) (by simp [start, greeting]) (by simp [start]))
  · exact .silent (goto_silent rfl) (idle_of_pc (by simp [start]) (by simp [start, greeting]) (by simp [start]))
  · rename_i broadcasts _ _ _
    by_cases owned : greeting c.pc = true ∧ ∃ own, c.clientId = some own ∧ m.runtime.sessions.get? own = some conn
    · obtain ⟨greets, own, client, session⟩ := owned
      obtain ⟨now, wisps, covered⟩ := @raises_owned env m conn c c own .connection listable here
        (ports .relay (greeting_living greets)) client session
      exact .covers now wisps covered
    · refine (raises_tells listable here).effect fun id d promise => ?_
      rcases promise with (registered | own) | ⟨current, rest, stale, after, start, -⟩
      · exact kept registered
      · exact owned own
      · exact broadcasts _ _ _ _ start

theorem Effect.reads {buffer : List Line}
    (effect : Effect env (m.setBuffer conn buffer) conn { c with buffer := buffer } m') : Effect env m conn c m' := by
  have stays : Stays conn m (m.setBuffer conn buffer) := by
    intro c' here
    simp only [setBuffer, Dict.get?_modify, if_pos, Option.map_eq_some_iff] at here
    obtain ⟨c, here, rfl⟩ := here
    exact .inr ⟨c, here, rfl⟩
  cases effect with
  | silent same idle => exact .silent { same with stays := stays.trans same.stays } idle
  | covers now wisps covered => exact .covers now wisps (covered.after stays)
  | promises now clear control pledge => exact .promises now clear control pledge
  | turns current id d rest stale after here now runtime log turned =>
    exact .turns current id d rest stale after here now runtime log turned

/-- What resuming a handler means for the subscribers. -/
theorem resume_effect {outcome : Outcome} (listable : Listable m) (here : m.connections.get? conn = some c)
    (named : session c.pc = true → ∃ id, c.clientId = some id) (ports : ∀ port, living c.pc = some port → c.port = port)
    (carried : ∀ recipient destination frame, c.pc = .accepting recipient destination frame → brings frame = false)
    (harmless : ∀ value rest, outcome = .read → c.buffer = some value :: rest → Harmless env m c value)
    (heard : outcome = .read → c.pc = .reading → c.buffer ≠ [] →
      m.runtime.relayLiveness.contains (c.clientId.getD "") = true)
    (kept : outcome = .lost → c.pc ≠ .registered) (success : m.resume env conn c outcome draw = some m') :
    Effect env m conn c m' := by
  have raised : ∀ e, readsLine c.pc = true → Effect env m conn c (m.raises env conn c e) := by
    intro e reads
    refine (raises_tells listable here).effect (idle_of_pc ?_ ?_ ?_)
    · intro start
      rw [start] at reads
      cases reads
    · cases start : c.pc <;> rw [start] at reads <;> first | rfl | cases reads
    · intro current rest stale after start
      rw [start] at reads
      cases reads
  cases outcome with
  | read =>
    simp only [resume] at success
    split_ifs at success
    split at success
    · cases success
    · rename_i input buffer next
      refine Effect.reads (onRead_effect (m := m.setBuffer conn buffer) listable (setBuffer_here here) ?_ ?_ success)
      · rintro value rfl
        unfold nextInput at next
        split at next
        · rename_i found
          cases next
          exact harmless value _ rfl found
        · cases next
        · split_ifs at next
          cases next
      · intro start more
        refine heard rfl start fun empty => more ?_
        unfold nextInput at next
        rw [empty] at next
        simp only at next
        split_ifs at next
        cases next
        rfl
  | sent => exact onSent_effect listable here named ports carried success
  | lost => exact onLost_effect listable here ports (kept rfl) success
  | timeout =>
    simp only [resume] at success
    split_ifs at success with timed
    cases success
    refine raised .timeout ?_
    cases start : c.pc <;> rw [start] at timed <;> first | rfl | cases timed
  | overrun =>
    simp only [resume] at success
    split_ifs at success with reads
    cases success
    exact raised .value reads

end Effects

end WispGate.Soundness.Announcing