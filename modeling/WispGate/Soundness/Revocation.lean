import WispGate.Soundness.Authentication

/-! # Revoked clients and the relay port

A status is read once, while a handshake is concluded; the session is registered an await later,
and forwarding reads no status at all. A request that rejects or revokes a client therefore keeps
it out as far as nothing of the client is in flight when the request is served. `Quiesced` says so
of the state the request finds; `Shut` is the invariant that follows for as long as the status stays.
-/

namespace WispGate.Soundness.Revocation

open Data Model Model.Relay Machine RelayState Administration Authentication

/-! ## Conditions -/

/-- The client is rejected or revoked. -/
def Barred (s : RelayState) (target : String) : Prop :=
  ∃ st, s.standing target = some st ∧ (st.status = some "rejected" ∨ st.status = some "revoked")

/-- A relay connection of the client that has not left its handler. -/
def Serving (target : String) (c : Connection) : Prop :=
  c.port = .relay ∧ c.clientId = some target ∧ living c.pc = some .relay

/-- A frame was accepted and is not yet written to its destination. -/
def holding : Pc → Bool
  | .accepting _ _ _ => true
  | _ => false

/-- Nothing of the client is in flight on a connection: no concluded handshake that waits for its
registration, and no frame, held or unread, that would be forwarded. -/
def Idle (target : String) (c : Connection) : Prop :=
  ¬ (c.port = .relay ∧ c.pc = .authenticated target) ∧
  (Serving target c → holding c.pc = false ∧
    ∀ line ∈ c.buffer, ∀ frame ∈ line, forwardable target frame = false)

/-- Nothing of the client is in flight, and its only open connection is the registered one. -/
def Quiesced (m : Machine) (target : String) : Prop :=
  ∀ entry ∈ m.connections.entries, Idle target entry.2 ∧
    (Serving target entry.2 → entry.1 ∈ m.runtime.closed ∨ m.runtime.sessions.get? target = some entry.1)

/-- The client that a request of an administrator rejects or revokes. -/
def barredBy (rt : RelayRuntime) (sender : String) (request : Json) : Option String :=
  if (request.get "action" = .str "reject" ∨ request.get "action" = .str "revoke") ∧ rt.isAdmin sender then
    (request.get "client_id").asStr?.filter fun target => decide (target ≠ sender)
  else none

/-- The client that an event, serving the next line of a connection, rejects or revokes. -/
def barring (m : Machine) : Event → Option String
  | .resume conn .read _ =>
    match m.connections.get? conn with
    | none => none
    | some c =>
      match c.buffer with
      | some message :: _ =>
        if managing c.pc = true ∧ message.get "type" = .str "management_request" then
          barredBy m.runtime (c.clientId.getD "") (message.getD "request" (.obj []))
        else none
      | _ => none
  | _ => none

/-- A rejection or revocation finds nothing of its target in flight. -/
def Clean (m : Machine) (e : Event) : Prop := ∀ target ∈ barring m e, Quiesced m target

instance (target : String) (c : Connection) : Decidable (Serving target c) :=
  inferInstanceAs (Decidable (c.port = .relay ∧ c.clientId = some target ∧ living c.pc = some .relay))

instance (target : String) (c : Connection) : Decidable (Idle target c) :=
  inferInstanceAs (Decidable (¬ (c.port = .relay ∧ c.pc = .authenticated target) ∧
    (Serving target c → holding c.pc = false ∧
      ∀ line ∈ c.buffer, ∀ frame ∈ line, forwardable target frame = false)))

instance (m : Machine) (target : String) : Decidable (Quiesced m target) :=
  inferInstanceAs (Decidable (∀ entry ∈ m.connections.entries, Idle target entry.2 ∧
    (Serving target entry.2 → entry.1 ∈ m.runtime.closed ∨ m.runtime.sessions.get? target = some entry.1)))

instance (m : Machine) (e : Event) : Decidable (Clean m e) :=
  inferInstanceAs (Decidable (∀ target ∈ barring m e, Quiesced m target))

/-- What stays true of a client as long as it is rejected or revoked. -/
structure Shut (m : Machine) (target : String) : Prop where
  absent : m.runtime.sessions.get? target = none
  idle : ∀ conn c, m.connections.get? conn = some c →
    Idle target c ∧ (Serving target c → conn ∈ m.runtime.closed)

/-! ## Where connections stand -/

/-- Awaits behind the handshake. -/
def settled : Pc → Bool
  | .hello | .bootstrapAnswer | .authHello | .challenge _ | .proof _ | .authenticated _ => false
  | _ => true

/-- Handlers stay on their port, and an authenticated connection keeps its client. -/
structure Placed (m : Machine) : Prop where
  ports : ∀ conn c port, m.connections.get? conn = some c → living c.pc = some port → c.port = port
  named : ∀ conn id, .authenticated conn id ∈ m.log →
    ∃ c, m.connections.get? conn = some c ∧ c.clientId = some id ∧ settled c.pc = true

section Steps

variable {env : Env} {m m' : Machine} {conn : ConnId} {c c' : Connection} {target : String} {line : Option Json}

theorem enters_settled {pc : Pc} (before : settled c.pc = true) (enters : Enters c pc) : settled pc = true := by
  have still := enters.still
  have late := enters.beginning
  cases pc <;> first | rfl | (cases still; done) | skip
  all_goals
    have beginning := late rfl
    cases here : c.pc <;> simp_all [early, settled]

theorem next_settled (before : settled c.pc = true) (next : Next env m m' c line c') :
    c'.clientId = c.clientId ∧ settled c'.pc = true := by
  cases next with
  | enters client on =>
    refine ⟨client, ?_⟩
    rcases on with same | enters
    · rw [same, before]
    · exact enters_settled before enters
  | bootstraps port here => simp [here, settled] at before
  | challenges here => rcases here with here | here <;> simp [here, settled] at before
  | proves pending here => simp [here, settled] at before
  | proved pending here => simp [here, settled] at before
  | returns clientId here => simp [here, settled] at before
  | holds recipient d frame here read valid client on => exact ⟨client, by rw [on]; rfl⟩
  | passes here client recipient d on => exact ⟨client, by rw [on]; rfl⟩

theorem next_port (before : ∀ port, living c.pc = some port → c.port = port)
    (next : Next env m m' c line c') : ∀ port, living c'.pc = some port → c.port = port := by
  intro port alive
  cases next with
  | enters client on =>
    rcases on with same | enters
    · exact before port (same ▸ alive)
    · exact before port (enters.living port alive)
  | bootstraps _ here clientId client on =>
    rcases on with same | enters
    · exact before port (same ▸ alive)
    · exact before port (enters.living port alive)
  | challenges here client pending on =>
    rw [on] at alive
    cases alive
  | proves pending here client on =>
    rw [on] at alive
    cases alive
  | proved pending here client message proof on =>
    rw [on] at alive
    cases alive
  | returns clientId here client on =>
    rcases on with ⟨request, control⟩ | ⟨ready, relay⟩ | same | enters
    · rw [request] at alive
      cases alive
      exact control
    · rw [ready] at alive
      cases alive
      exact relay
    · exact before port (same ▸ alive)
    · exact before port (enters.living port alive)
  | holds recipient d frame here read valid client on =>
    rw [on] at alive
    cases alive
    exact before .relay (by rw [here]; rfl)
  | passes here client recipient d on =>
    rw [on] at alive
    cases alive
    exact before .relay here

/-- An authentication that is new in the log is that of the connection that moved. -/
theorem move_returned {d : ConnId} {id : String} (secure : Secure env m) (here : m.connections.get? conn = some c)
    (move : Move env m conn c line m') (member : .authenticated d id ∈ m'.log) :
    .authenticated d id ∈ m.log ∨ (d = conn ∧
      ∃ c', m'.connections.get? conn = some c' ∧ c'.clientId = some id ∧ settled c'.pc = true) := by
  have calmly : ∀ {n : Machine}, Calm conn n m' → n.log = m.log → .authenticated d id ∈ m.log :=
    fun calm same => same ▸ calm_entry calm member (by simp)
  cases move with
  | calm rest => exact .inl (calmly rest rfl)
  | bootstrapped request port start rest => exact .inl (calmly rest rfl)
  | challenged hello draw rt pending frame start fresh begun result =>
    rw [result] at member
    exact .inl (by simpa [send, Machine.goto, Machine.write, record, withRuntime] using member)
  | proving pending start result =>
    rw [result] at member
    exact .inl member
  | refused pending message start read other rest => exact .inl (calmly rest rfl)
  | proved pending message proof start read success result =>
    rw [result] at member
    exact .inl (by simpa [send, Machine.goto, Machine.write, record, withRuntime] using member)
  | authenticatedControl other port start result =>
    rw [result] at member ⊢
    rcases List.mem_cons.mp member with same | member
    · cases same
      exact .inr ⟨rfl, _, by simp [Machine.goto, record, setClient, Dict.get?_modify, here]; rfl, rfl, rfl⟩
    · exact .inl member
  | authenticatedRelay other port start result =>
    have either : .authenticated d id ∈ (Entry.authenticated conn other :: m.log) := by
      rcases result with rfl | ⟨_, rest⟩
      · exact (List.mem_cons.mp member).resolve_left (by simp)
      · exact calm_entry rest member (by simp)
    rcases List.mem_cons.mp either with same | member
    · cases same
      rcases result with rfl | ⟨missing, _⟩
      · refine .inr ⟨rfl, { c with clientId := some id, pc := .ready }, ?_, rfl, rfl⟩
        simp [send, Machine.goto, Machine.write, markSeen, registerSession, withRuntime, record, setClient,
          Dict.get?_modify, here]
      · -- The record that the proof was checked against is still there.
        obtain ⟨proof, proved, rfl⟩ := secure.accepted conn c id here start
        obtain ⟨st, known, _⟩ := secure.proofs conn proof proved
        obtain ⟨record, found, _⟩ := exists_record known
        simp [Dict.contains, found] at missing
    · exact .inl member
  | managed id message start own read kind rest => exact .inl (calmly rest rfl)
  | registered id message start own read rest => exact .inl (calmly rest rfl)
  | accepting recipient destination frame start read valid m₁ first result =>
    rw [result] at member
    exact .inl (calm_entry first member (by simp))
  | delivered recipient destination frame start m₁ first result =>
    rw [result] at member
    refine .inl (calm_entry first ?_ (by simp))
    simpa [Machine.deliver, Machine.goto, Machine.write, record] using member

theorem Placed.step (placed : Placed m) (secure : Secure env m) {e : Event} (stepped : m.step env e = some m') :
    Placed m' := by
  rcases step_cases stepped with ⟨conn, c, _, _, m₀, c₀, line, _, here, reads, _, move⟩ |
    ⟨runtime, _, log, connections, kept⟩
  · have secure₀ := secure.reads here reads
    obtain ⟨here₀, _, _, log₀, _, others₀, buffer, rfl⟩ := reads_here here reads
    obtain ⟨others, c', own, port, _, next⟩ := move_own here₀ move
    have before : ∀ port, living c.pc = some port → c.port = port := fun port => placed.ports conn c port here
    constructor
    · intro d e port' found alive
      by_cases mine : d = conn
      · subst mine
        obtain rfl : c' = e := Option.some.inj (own.symm.trans found)
        rw [port]
        exact next_port (c := { c with buffer := buffer }) before next port' alive
      · exact placed.ports d e port' ((others₀ d mine).symm.trans ((others d mine).symm.trans found)) alive
    · intro d id member
      rcases move_returned secure₀ here₀ move member with old | ⟨rfl, found⟩
      · obtain ⟨e, found, named, behind⟩ := placed.named d id (log₀ ▸ old)
        by_cases mine : d = conn
        · subst mine
          obtain rfl : c = e := Option.some.inj (here.symm.trans found)
          obtain ⟨client, behind'⟩ := next_settled (c := { c with buffer := buffer }) behind next
          exact ⟨c', own, client.trans named, behind'⟩
        · exact ⟨e, (others d mine).trans ((others₀ d mine).trans found), named, behind⟩
      · exact found
  · constructor
    · intro d c' port found alive
      rcases connections d c' found with ⟨c, here, same, _, pc, _⟩ | ⟨_, other, rfl⟩
      · rw [same]
        exact placed.ports d c port here (pc ▸ alive)
      · cases alive
    · intro d id member
      obtain ⟨c, here, named, behind⟩ := placed.named d id (log ▸ member)
      obtain ⟨c', found⟩ := Option.isSome_iff_exists.mp (kept d (by simp [here]))
      rcases connections d c' found with ⟨c₀, here₀, _, client, pc, _⟩ | ⟨none, _⟩
      · obtain rfl : c = c₀ := Option.some.inj (here.symm.trans here₀)
        exact ⟨c', found, client.trans named, pc ▸ behind⟩
      · rw [none] at here
        cases here

/-! ## What a rejection or revocation does -/

/-- A client is newly barred only by a request of an administrator about another client. -/
theorem barred_change {s t : RelayState} {op : Operation} (change : Change s op t) (barred : Barred t target) :
    Barred s target ∨ ∃ now admin action request, op.served = some (now, admin, request) ∧
      s.IsAdministrator admin ∧ target ≠ admin ∧ (s.standing target).isSome ∧
      request.get "action" = .str action ∧ request.get "client_id" = .str target ∧
      (action = "reject" ∨ action = "revoke") := by
  obtain ⟨st, known, status⟩ := barred
  have usable : ∀ {other : Option String}, other = st.status → other = some "approved" ∨ other = some "pending" →
      False := by
    rintro _ rfl (same | same) <;> rcases status with status | status <;> simp [same] at status
  cases change with
  | keeps same file => exact .inl ⟨st, same ▸ known, status⟩
  | enrols other key fresh now saved actor =>
    rcases (updated_iff now).mp known with ⟨_, rfl⟩ | ⟨_, old⟩
    · exact (usable rfl (.inr rfl)).elim
    · exact .inl ⟨st, old, status⟩
  | claims other old found vacant actor now saved =>
    rcases (updated_iff now).mp known with ⟨_, rfl⟩ | ⟨_, old⟩
    · exact (usable rfl (.inl rfl)).elim
    · exact .inl ⟨st, old, status⟩
  | sets admin other action old found authority distinct actor now saved =>
    rcases (updated_iff now).mp known with ⟨rfl, rfl⟩ | ⟨_, old⟩
    · obtain ⟨time, request, rfl, asked, named, kind⟩ := actor
      refine .inr ⟨time, admin, action, request, rfl, authority, distinct, by simp [found], asked, named, ?_⟩
      rcases kind with rfl | kind
      · exact (usable rfl (.inl rfl)).elim
      · exact kind
    · exact .inl ⟨st, old, status⟩

theorem administrator_isAdmin {rt : RelayRuntime} {id : String} (governed : Governed rt.state)
    (admin : rt.state.IsAdministrator id) : rt.isAdmin id = true := by
  obtain ⟨st, known, flag⟩ := admin
  have approved := governed.approved id st known flag
  obtain ⟨record, found, rfl⟩ := exists_record known
  have flagged : record.admin = some true := flag
  have stands : record.status = some "approved" := approved
  simp [RelayRuntime.isAdmin, RelayRuntime.endpointUsable, ClientRecord.isAdmin, found, flagged, stands]

/-- A rejection or revocation forgets the session of its target and closes the writer under it. -/
theorem manage_evicts (env : Env) (rt : RelayRuntime) (now : ℕ) {id action : String} {request : Json}
    (admin : rt.isAdmin id = true) (other : target ≠ id) (known : (rt.state.standing target).isSome)
    (asked : request.get "action" = .str action) (named : request.get "client_id" = .str target)
    (kind : action = "reject" ∨ action = "revoke") :
    (rt.managementRequest env now id request).1.sessions = rt.sessions.erase target ∧
    (rt.managementRequest env now id request).1.closed =
      (rt.sessions.get? target).toList ++ (rt.controlSessions.get? target).toList ++ rt.closed := by
  have object : request.isObj = true := by
    cases request <;> first | rfl | (simp [Json.get] at asked)
  obtain ⟨st, found⟩ := Option.isSome_iff_exists.mp known
  obtain ⟨record, found, _⟩ := exists_record found
  unfold RelayRuntime.managementRequest
  rcases kind with rfl | rfl <;>
    simp [object, asked, named, admin, other, Json.hashKey?, Json.asStr?, RelayRuntime.adminRequest,
      RelayRuntime.setStatusRequest, RelayRuntime.actionStatus, setClientStatus, found, RelayRuntime.evict,
      removeWispsForOwner, RelayState.save]

/-- What the moved connection keeps to while its client is shut out. -/
theorem next_idle (governed : Governed m.runtime.state) (barred : Barred m'.runtime.state target)
    (idle : Idle target c) (next : Next env m m' c line c') (port : c'.port = c.port)
    (buffer : c'.buffer = c.buffer)
    (unsendable : ∀ frame, line = some frame → Serving target c → forwardable target frame = false) :
    Idle target c' ∧ (Serving target c' → Serving target c) := by
  obtain ⟨unreturned, serving⟩ := idle
  -- Where the await is not that of a returned handshake, the frames are those of before.
  have settles : (c'.port = .relay → c'.pc ≠ .authenticated target) → (Serving target c' → Serving target c) →
      (Serving target c → holding c'.pc = false) →
      Idle target c' ∧ (Serving target c' → Serving target c) := by
    intro returned serves holds
    refine ⟨⟨fun both => returned both.1 both.2, fun now => ⟨holds (serves now), ?_⟩⟩, serves⟩
    rw [buffer]
    exact (serving (serves now)).2
  have entering : ∀ {d : Connection}, d.port = c.port → d.pc = c.pc → c'.pc = c.pc ∨ Enters d c'.pc →
      (c'.clientId = some target → c'.port = .relay → living c'.pc = some .relay → c.clientId = some target) →
      Idle target c' ∧ (Serving target c' → Serving target c) := by
    intro d samePort samePc on client
    refine settles ?_ ?_ ?_
    · intro relay there
      rcases on with same | enters
      · exact unreturned ⟨port ▸ relay, same ▸ there⟩
      · exact absurd enters.still (by simp [there, quiet])
    · rintro ⟨relay, named, alive⟩
      refine ⟨port ▸ relay, client named relay alive, ?_⟩
      rcases on with same | enters
      · exact same ▸ alive
      · exact samePc ▸ enters.living _ alive
    · intro now
      rcases on with same | enters
      · rw [same]
        exact (serving now).1
      · have still := enters.still
        cases here : c'.pc <;> first | rfl | (rw [here] at still; cases still)
  cases next with
  | enters client on => exact entering rfl rfl on fun named _ _ => client ▸ named
  | bootstraps control here clientId client on =>
    exact entering (d := { c with clientId := some clientId }) rfl rfl on fun _ relay _ => by
      rw [port, control] at relay
      cases relay
  | challenges here client pending on =>
    exact settles (by simp [on]) (fun now => by simp [Serving, on, living] at now) (by simp [on, holding])
  | proves pending here client on =>
    exact settles (by simp [on]) (fun now => by simp [Serving, on, living] at now) (by simp [on, holding])
  | proved pending here client message proof on success =>
    refine settles ?_ (fun now => by simp [Serving, on, living] at now) (by simp [on, holding])
    -- The relay port asks for an approved record, which a barred client has not.
    intro relay there
    obtain rfl : proof.clientId = target := by
      rw [on] at there
      exact Pc.authenticated.inj there
    obtain ⟨_, st, _, _, _, _, _, _, standing, _, usable⟩ := conclude_spec governed success
    obtain ⟨st', known, status⟩ := barred
    obtain rfl : st = st' := Option.some.inj (standing.symm.trans known)
    rw [← port, relay] at usable
    rcases usable with approved | ⟨_, pending⟩
    · rcases status with status | status <;> simp [approved] at status
    · cases pending
  | returns clientId here client on =>
    have other : c'.port = .relay → clientId ≠ target := by
      rintro relay rfl
      exact unreturned ⟨port ▸ relay, here⟩
    have unserved : ¬ Serving target c' := by
      rintro ⟨relay, named, _⟩
      exact other relay (Option.some.inj (client.symm.trans named))
    refine ⟨⟨?_, fun now => absurd now unserved⟩, fun now => absurd now unserved⟩
    rintro ⟨relay, there⟩
    rcases on with ⟨request, _⟩ | ⟨ready, _⟩ | same | enters
    · rw [request] at there
      cases there
    · rw [ready] at there
      cases there
    · rw [same, here] at there
      exact other relay (Pc.authenticated.inj there)
    · exact absurd enters.still (by simp [there, quiet])
  | holds recipient d frame here read valid client on =>
    -- A frame that is accepted was the line that was read.
    have unserved : ¬ Serving target c := by
      intro now
      have refused := unsendable frame read now
      rw [now.2.1, Option.getD_some] at valid
      rw [valid] at refused
      cases refused
    refine settles (by simp [on]) ?_ (fun now => absurd now unserved)
    rintro ⟨relay, named, alive⟩
    exact ⟨port ▸ relay, client ▸ named, by rw [here]; rfl⟩
  | passes here client recipient d on =>
    refine settles (by simp [on]) ?_ (by simp [on, holding])
    rintro ⟨relay, named, _⟩
    exact ⟨port ▸ relay, client ▸ named, here⟩

/-- Taking a line from the buffer leaves less of it. -/
theorem reads_buffer {m₀ : Machine} {c₀ : Connection} (reads : Reads m conn c m₀ c₀ line) :
    (∀ l ∈ c₀.buffer, l ∈ c.buffer) ∧ ∀ frame, line = some frame → some frame ∈ c.buffer := by
  cases reads with
  | stays => exact ⟨fun _ member => member, by simp⟩
  | pops head rest buffer =>
    rw [buffer]
    refine ⟨fun l member => List.mem_cons_of_mem _ member, ?_⟩
    rintro frame rfl
    exact List.mem_cons_self
  | ends buffer => exact ⟨fun _ member => absurd member List.not_mem_nil, by simp⟩

/-- A client that was shut out before a step stays so while it is barred. -/
theorem shut_persists (secure : Secure env m) {e : Event} (stepped : m.step env e = some m')
    (shut : Shut m target) (barred : Barred m'.runtime.state target) : Shut m' target := by
  rcases step_cases stepped with ⟨conn, c, _, _, m₀, c₀, line, _, here, reads, _, move⟩ |
    ⟨runtime, _, _, connections, _⟩
  · have secure₀ := secure.reads here reads
    obtain ⟨less, taken⟩ := reads_buffer reads
    obtain ⟨here₀, runtime₀, _, _, _, others₀, buffer, rfl⟩ := reads_here here reads
    obtain ⟨others, c', own, port, same, next⟩ := move_own here₀ move
    obtain ⟨sessions, closed⟩ := move_sessions move
    obtain ⟨⟨unreturned, serving⟩, writer⟩ := shut.idle conn c here
    rw [runtime₀] at sessions closed
    constructor
    · cases found : m'.runtime.sessions.get? target with
      | none => rfl
      | some d =>
        rcases sessions target d found with old | ⟨_, relay, returned⟩
        · rw [shut.absent] at old
          cases old
        · exact absurd ⟨relay, returned⟩ unreturned
    · intro d e found
      by_cases mine : d = conn
      · subst mine
        obtain rfl : c' = e := Option.some.inj (own.symm.trans found)
        obtain ⟨idle, serves⟩ := next_idle secure₀.governed barred (c := { c with buffer := buffer })
          ⟨unreturned, fun now => ⟨(serving now).1, fun l member => (serving now).2 l (less l member)⟩⟩
          next port same fun frame read now => (serving now).2 _ (taken frame read) frame rfl
        exact ⟨idle, fun now => closed d (writer (serves now))⟩
      · have old := (others₀ d mine).symm.trans ((others d mine).symm.trans found)
        obtain ⟨idle, writer⟩ := shut.idle d e old
        exact ⟨idle, fun now => closed d (writer now)⟩
  · constructor
    · rw [runtime]
      exact shut.absent
    · intro d c' found
      rw [runtime]
      rcases connections d c' found with ⟨c, here, port, client, pc, buffer⟩ | ⟨_, port, rfl⟩
      · obtain ⟨⟨unreturned, serving⟩, writer⟩ := shut.idle d c here
        have serves : Serving target c' → Serving target c :=
          fun now => ⟨port ▸ now.1, client ▸ now.2.1, pc ▸ now.2.2⟩
        refine ⟨⟨?_, fun now => ⟨?_, ?_⟩⟩, fun now => writer (serves now)⟩
        · rw [port, pc]
          exact unreturned
        · rw [pc]
          exact (serving (serves now)).1
        · -- Nothing arrives behind a writer that was closed.
          rcases buffer with same | opened
          · rw [same]
            exact (serving (serves now)).2
          · exact absurd (List.contains_iff_mem.mpr (writer (serves now))) opened
      · refine ⟨⟨?_, fun now => ?_⟩, fun now => ?_⟩
        · rintro ⟨_, there⟩
          cases there
        · cases now.2.1
        · cases now.2.1

/-- A clean rejection or revocation shuts its target out. -/
theorem shut_bars (secure : Secure env m) (placed : Placed m) {e : Event} (stepped : m.step env e = some m')
    (clean : Clean m e) (barred : Barred m'.runtime.state target) :
    Barred m.runtime.state target ∨ Shut m' target := by
  rcases step_cases stepped with ⟨conn, c, outcome, draw, m₀, c₀, line, rfl, here, reads, taken, move⟩ |
    ⟨runtime, _⟩
  · have secure₀ := secure.reads here reads
    have presented := @reads_line m conn c m₀ c₀
    obtain ⟨here₀, runtime₀, _, _, _, others₀, buffer, rfl⟩ := reads_here here reads
    obtain ⟨op, change, _, serves⟩ := move_change secure₀ here₀ move
    rw [runtime₀] at change
    rcases barred_change change barred with old | ⟨now, admin, action, request, served, authority, other, known,
      asked, named, kind⟩
    · exact .inl old
    · right
      obtain ⟨managing, own, ⟨message, read, type, rfl⟩, rest⟩ := serves _ served
      subst read
      obtain rfl : outcome = .read := taken (by simp)
      obtain ⟨later, first⟩ := presented reads
      dsimp only at own managing rest
      subst own
      have admin := administrator_isAdmin secure.governed authority
      have target_barred : barring m (.resume conn .read draw) = some target := by
        have action_named : (message.getD "request" (.obj [])).get "action" = .str "reject" ∨
            (message.getD "request" (.obj [])).get "action" = .str "revoke" := by
          rcases kind with rfl | rfl
          · exact .inl asked
          · exact .inr asked
        simp [barring, here, first, managing, type, barredBy, action_named, admin, named, Json.asStr?, other]
      have quiesced := clean target target_barred
      obtain ⟨sessions, closed⟩ := manage_evicts env m.runtime m₀.now admin other known
        asked named kind
      rw [runtime₀] at rest
      obtain ⟨pc, own, _⟩ := rest.own _ here₀
      have control : c.port = .control := by
        refine placed.ports conn c .control here ?_
        cases start : c.pc <;> first | rfl | (simp [start, Soundness.managing] at managing)
      constructor
      · cases found : m'.runtime.sessions.get? target with
        | none => rfl
        | some d =>
          have old := rest.sessions target d found
          simp [Machine.withRuntime, sessions] at old
      · intro d e found
        by_cases mine : d = conn
        · subst mine
          obtain rfl := Option.some.inj (own.symm.trans found)
          refine ⟨⟨fun both => ?_, fun now => ?_⟩, fun now => ?_⟩
          · simp [control] at both
          · simp [Serving, control] at now
          · simp [Serving, control] at now
        · have old : m.connections.get? d = some e :=
            (others₀ d mine).symm.trans ((rest.others d mine).symm.trans found)
          obtain ⟨idle, writer⟩ := quiesced (d, e) ((Dict.get?_eq_some_iff _ _ _).mp old)
          refine ⟨idle, fun now => rest.closed d ?_⟩
          simp only [Machine.withRuntime, closed, List.mem_append]
          rcases writer now with shut | registered
          · exact .inr shut
          · exact .inl (.inl (by simp [registered]))
  · exact .inl (runtime ▸ barred)

/-- No frame of a client that is shut out is forwarded. -/
theorem shut_unforwarded (placed : Placed m) {e : Event} (stepped : m.step env e = some m') (shut : Shut m target)
    (returned : .authenticated conn target ∈ m.log) {new : List Entry} (grown : m'.log = new ++ m.log)
    (sender : String) (d : ConnId) (frame : Json) : .forwarded conn sender d frame ∉ new := by
  intro member
  rcases step_cases stepped with ⟨conn', c, _, _, m₀, c₀, line, _, here, reads, _, move⟩ | ⟨_, _, log, _⟩
  · obtain ⟨_, taken⟩ := reads_buffer reads
    obtain ⟨_, _, _, log₀, _, _, buffer, rfl⟩ := reads_here here reads
    obtain ⟨entries, log, logs⟩ := move_entries move
    obtain rfl : new = entries := by
      rw [log, log₀] at grown
      exact (List.append_cancel_right grown).symm
    have logged := logs _ member
    obtain ⟨c', found, named, _⟩ := placed.named conn target returned
    cases logged with
    | forwarded recipient _ _ start =>
      obtain rfl : c = c' := Option.some.inj (here.symm.trans found)
      have alive : living c.pc = some .relay := by
        rcases start with ⟨start, _⟩ | start
        · dsimp only at start
          rw [start]
          rfl
        · dsimp only at start
          rw [start]
          rfl
      have serving : Serving target c := ⟨placed.ports conn c .relay here alive, named, alive⟩
      obtain ⟨unheld, unsendable⟩ := (shut.idle conn c here).1.2 serving
      rcases start with ⟨_, read, valid⟩ | start
      · have refused := unsendable _ (taken frame read) frame rfl
        simp [named, refused] at valid
      · dsimp only at start
        simp [start, holding] at unheld
  · rw [log, List.self_eq_append_left] at grown
    subst grown
    cases member

end Steps

/-! ## The result -/

/-- The invariant of runs whose rejections and revocations are clean. -/
structure Guarded (m : Machine) : Prop where
  placed : Placed m
  shut : ∀ target, Barred m.runtime.state target → Shut m target

/-- A client has no session, and no step forwards a frame of a connection that authenticated as it. -/
def Excluded (env : Env) (m : Machine) (target : String) : Prop :=
  m.runtime.sessions.get? target = none ∧
  ∀ (e : Event) (m' : Machine) (conn : ConnId) (new : List Entry), m.step env e = some m' →
    .authenticated conn target ∈ m.log → m'.log = new ++ m.log →
    ∀ sender d frame, .forwarded conn sender d frame ∉ new

/-- In every run whose rejections and revocations find nothing of their target in flight, a client
is excluded as long as it is rejected or revoked. -/
theorem revocation (env : Env) {m : Machine}
    (reach : Reach (Machine.step env) Clean (Machine.Started env) m) {target : String}
    (barred : Barred m.runtime.state target) : Excluded env m target := by
  have guarded : Guarded m := by
    refine reach.invariant Guarded ?_ ?_
    · rintro s ⟨⟨sessions, _, _, _, connections, log⟩, _⟩
      refine ⟨⟨by simp [connections], by simp [log]⟩, fun other _ => ⟨by simp [sessions], by simp [connections]⟩⟩
    · intro s e t before guarded clean stepped
      have secure := reach_secure before
      refine ⟨guarded.placed.step secure stepped, fun other barred => ?_⟩
      rcases shut_bars secure guarded.placed stepped clean barred with old | shut
      · exact shut_persists secure stepped (guarded.shut other old) barred
      · exact shut
  have shut := guarded.shut target barred
  exact ⟨shut.absent, fun e m' conn new stepped returned grown =>
    shut_unforwarded guarded.placed stepped shut returned grown⟩

/-- An administrator `alice` and an approved endpoint `bob`. -/
def enrolments : List Operation :=
  [.bootstrap 0 ⟨"alice", "phone", ⟨"alice-key", true, 2048⟩, []⟩,
    .bootstrap 0 ⟨"bob", "wisp", ⟨"bob-key", true, 2048⟩, []⟩,
    .manage 0 "alice" (.obj [("action", .str "claim_admin")]),
    .manage 0 "alice" (.obj [("action", .str "approve"), ("client_id", .str "bob")])]

def durable : RelayRuntime := (replay (Operation.apply sampleEnv) {} enrolments).getD {}

def startedMachine : Machine := { runtime := { state := durable.state } }

theorem startedMachine_started : Machine.Started sampleEnv startedMachine := by
  have started : Empty ({} : RelayRuntime) := rfl
  exact ⟨⟨rfl, rfl, rfl, rfl, rfl, rfl⟩, durable,
    Reach.of_defined started (by decide), rfl⟩

/-- A handshake up to the answer that reports its success. -/
def handshakeOf (conn : ConnId) (port : Port) (clientId key : String) : List Event :=
  [.connect conn port,
    .receive conn (some (.obj [("role", .str port.role), ("client_id", .str clientId), ("public_key", .str key)])),
    .resume conn .read ⟨"challenge of " ++ clientId, "slot of " ++ clientId⟩, .resume conn .sent ⟨"", ""⟩,
    .receive conn (some (.obj [("type", .str "auth_proof"), ("signature", .str (key ++ authTranscript sampleEnv
      port.role clientId ("challenge of " ++ clientId) (.str "") (.str "") (.str "")))])),
    .resume conn .read ⟨"unused", "unused"⟩]

/-- `alice` revokes `bob` on her authenticated control connection. -/
def revokeBob : List Event :=
  [.resume 0 .sent ⟨"", ""⟩,
    .receive 0 (some (.obj [("type", .str "management_request"), ("request",
      .obj [("action", .str "revoke"), ("client_id", .str "bob")])])),
    .resume 0 .read ⟨"unused", "unused"⟩]

/-- `bob` is registered and idle when the request is served. -/
def cleanRun : List Event :=
  handshakeOf 0 .control "alice" "alice-key" ++ handshakeOf 1 .relay "bob" "bob-key" ++
    .resume 1 .sent ⟨"", ""⟩ :: revokeBob

def revokedMachine : Machine := (replay (guarded (Machine.step sampleEnv) Clean) startedMachine cleanRun).getD {}

theorem revocation_registered : Barred revokedMachine.runtime.state "bob" ∧
    Excluded sampleEnv revokedMachine "bob" := by
  have reach : Reach (Machine.step sampleEnv) Clean (Machine.Started sampleEnv) revokedMachine :=
    Reach.of_guarded_defined startedMachine_started (by decide +kernel)
  have barred : Barred revokedMachine.runtime.state "bob" :=
    ⟨⟨some (.str "bob-key"), some "revoked", some false⟩, by decide +kernel, .inr rfl⟩
  exact ⟨barred, revocation sampleEnv reach barred⟩

/-- `bob` has proved its key, and its session is registered after the request is served. -/
def racingRun : List Event :=
  handshakeOf 0 .control "alice" "alice-key" ++ handshakeOf 1 .relay "bob" "bob-key" ++
    revokeBob ++ [.resume 1 .sent ⟨"", ""⟩]

def racedMachine : Machine := (replay (Machine.step sampleEnv) startedMachine racingRun).getD {}

/-- Without a condition on the requests a revoked client comes back into the table. -/
theorem revocation_races : ¬ ∀ (env : Env) (m : Machine) (target : String),
    Reach (Machine.step env) anyStep (Machine.Started env) m → Barred m.runtime.state target →
    Excluded env m target := by
  intro claim
  have reach : Reach (Machine.step sampleEnv) anyStep (Machine.Started sampleEnv) racedMachine :=
    Reach.of_defined startedMachine_started (by decide +kernel)
  have barred : Barred racedMachine.runtime.state "bob" :=
    ⟨⟨some (.str "bob-key"), some "revoked", some false⟩, by decide +kernel, .inr rfl⟩
  have session : racedMachine.runtime.sessions.get? "bob" = some 1 := by decide +kernel
  have absent := (claim sampleEnv racedMachine "bob" reach barred).1
  rw [session] at absent
  cases absent

end WispGate.Soundness.Revocation
