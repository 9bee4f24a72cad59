import WispGate.Soundness.Registry

/-! # Who loses a registration

Handlers forget registrations by client id, some of them after an await in which another connection
may have registered for the same id. What makes a removal legitimate is an event of the connection
that is removed, so a run is watched with the writes of every handler beside it.
-/

namespace WispGate.Soundness.Removal

open Data Model Model.Relay Machine Revocation Registry

/-! ## Watching a run -/

/-- The connection of a handler's last frame, and the writes of its broadcast that failed. -/
structure Writes where
  target : Option ConnId := none
  failed : List (String × ConnId) := []

structure Watch where
  machine : Machine
  writes : ConnId → Writes := fun _ => {}

/-- The connection the newest frame of a log was written to. -/
def newest (log : List Entry) : Option ConnId :=
  log.findSome? fun
    | .wrote conn _ => some conn
    | _ => none

/-- The await of a connection's handler. -/
def standing (m : Machine) (conn : ConnId) : Pc :=
  match m.connections.get? conn with
  | some c => c.pc
  | none => .done

namespace Watch

/-- The clients and connections of the failed writes that the resumed handler acts on. -/
def failures (w : Watch) : Event → List (String × ConnId)
  | .resume conn outcome _ =>
    match standing w.machine conn, outcome with
    | .broadcasting current _ _ _, .lost =>
      (w.writes conn).failed ++ (w.writes conn).target.toList.map fun target => (current, target)
    | .broadcasting _ _ _ _, _ => (w.writes conn).failed
    | .delivering recipient destination, .lost => [(recipient, destination)]
    | _, _ => []
  | _ => []

/-- The machine's step, noting the writes of the handler it resumes. -/
def step (env : Env) (w : Watch) (e : Event) : Option Watch :=
  (w.machine.step env e).map fun m =>
    { machine := m
      writes := match e with
        | .resume conn _ _ => Function.update w.writes conn ⟨newest m.log, w.failures e⟩
        | _ => w.writes }

end Watch

/-! ## Causes -/

/-- The client that the handler of a connection registers on a port when it is resumed. -/
def registering (m : Machine) (port : Port) (conn : ConnId) : Option String :=
  match port, standing m conn with
  | .relay, .authenticated clientId => some clientId
  | .control, .registered => some (((m.connections.get? conn).bind (·.clientId)).getD "")
  | _, _ => none

/-- Why a client's connection may leave the table of a port: its handler ends, a write to it failed,
the client is rejected or revoked, or a newer connection of the client takes its place. -/
inductive Cause (w : Watch) (m : Machine) (port : Port) : Event → String → ConnId → Prop
  | ends {id : String} {conn : ConnId} {outcome : Outcome} {draw : Draw} (ended : Ended m conn) :
      Cause w m port (.resume conn outcome draw) id conn
  | fails {id : String} {conn : ConnId} {e : Event} (failed : (id, conn) ∈ w.failures e) : Cause w m port e id conn
  | ordered {id : String} {conn : ConnId} {e : Event} (barred : barring w.machine e = some id) : Cause w m port e id conn
  | replaced {id : String} {conn newer : ConnId} {outcome : Outcome} {draw : Draw}
      (registers : registering w.machine port newer = some id) : Cause w m port (.resume newer outcome draw) id conn

/-- Whatever a step removes, it removes for a cause. -/
structure Caused (w : Watch) (e : Event) (m : Machine) : Prop where
  sessions : ∀ id conn, w.machine.runtime.sessions.get? id = some conn → m.runtime.sessions.get? id ≠ some conn →
    Cause w m .relay e id conn
  control : ∀ id conn, w.machine.runtime.controlSessions.get? id = some conn →
    m.runtime.controlSessions.get? id ≠ some conn → Cause w m .control e id conn

/-- The clients whose subscriptions a step forgets as stale. -/
def striking (m : Machine) : Event → List String
  | .resume conn outcome _ =>
    match standing m conn, outcome with
    | .broadcasting _ [] stale _, .sent => stale
    | .broadcasting current [] stale _, .lost => stale ++ [current]
    | _, _ => []
  | _ => []

/-- When a broadcast ends, no client it found stale is subscribed on another connection than the one
its write failed on. -/
def Timely (w : Watch) (e : Event) : Prop :=
  ∀ id ∈ striking w.machine e, ∀ conn ∈ w.machine.runtime.controlSessions.get? id, (id, conn) ∈ w.failures e

instance (w : Watch) (e : Event) : Decidable (Timely w e) :=
  inferInstanceAs (Decidable (∀ id ∈ striking w.machine e,
    ∀ conn ∈ w.machine.runtime.controlSessions.get? id, (id, conn) ∈ w.failures e))

section Steps

variable {env : Env} {w w' : Watch} {e : Event} {conn : ConnId} {c : Connection} {outcome : Outcome} {draw : Draw}
  {t : Tables} {m : Machine}

/-- A handler that settles removes nothing but the registration of its own connection. -/
theorem settles_removes (settles : Settles conn t m) (id : String) (d : ConnId) :
    (t.sessions.get? id = some d → m.runtime.sessions.get? id ≠ some d → d = conn ∧ Ended m conn) ∧
      (t.control.get? id = some d → m.runtime.controlSessions.get? id ≠ some d → d = conn ∧ Ended m conn) := by
  have kept : tables m.runtime = t →
      m.runtime.sessions = t.sessions ∧ m.runtime.controlSessions = t.control := by
    rintro rfl
    exact ⟨rfl, rfl⟩
  cases settles with
  | keeps same =>
    obtain ⟨sessions, control⟩ := kept same
    rw [sessions, control]
    exact ⟨fun found gone => absurd found gone, fun found gone => absurd found gone⟩
  | leaves own_id own gone ended =>
    have sessions : m.runtime.sessions = t.sessions.erase own_id := congrArg Tables.sessions gone
    have control : m.runtime.controlSessions = t.control := congrArg Tables.control gone
    rw [sessions, control, Dict.get?_erase]
    refine ⟨fun found gone => ?_, fun found gone => absurd found gone⟩
    split_ifs at gone with same
    · subst same
      exact ⟨Option.some.inj (found.symm.trans own), ended⟩
    · exact absurd found gone
  | parts own_id own gone ended =>
    have sessions : m.runtime.sessions = t.sessions := congrArg Tables.sessions gone
    have control : m.runtime.controlSessions = t.control.erase own_id := congrArg Tables.control gone
    rw [sessions, control, Dict.get?_erase]
    refine ⟨fun found gone => absurd found gone, fun found gone => ?_⟩
    split_ifs at gone with same
    · subst same
      exact ⟨Option.some.inj (found.symm.trans own), ended⟩
    · exact absurd found gone

theorem standing_of (here : m.connections.get? conn = some c) : standing m conn = c.pc := by
  simp [standing, here]

/-- A handler that settles removes for a cause, if that is so of what was removed before it settled. -/
theorem settles_causes (settles : Settles conn t m)
    (sessions : ∀ id d, w.machine.runtime.sessions.get? id = some d →
      t.sessions.get? id = some d ∨ Cause w m .relay (.resume conn outcome draw) id d)
    (control : ∀ id d, w.machine.runtime.controlSessions.get? id = some d →
      t.control.get? id = some d ∨ Cause w m .control (.resume conn outcome draw) id d) :
    Caused w (.resume conn outcome draw) m := by
  constructor
  · intro id d found gone
    rcases sessions id d found with left | cause
    · obtain ⟨rfl, ended⟩ := (settles_removes settles id d).1 left gone
      exact .ends ended
    · exact cause
  · intro id d found gone
    rcases control id d found with left | cause
    · obtain ⟨rfl, ended⟩ := (settles_removes settles id d).2 left gone
      exact .ends ended
    · exact cause

/-- A handler that is resumed. -/
theorem resume_causes (timely : Timely w (.resume conn outcome draw)) (here : w.machine.connections.get? conn = some c)
    (success : w.machine.resume env conn c outcome draw = some m) : Caused w (.resume conn outcome draw) m := by
  have place := standing_of here
  obtain ⟨c₀, taken, pc, port, client, took, stretch⟩ := resume_stretch here success
  cases stretch with
  | settles rest => exact settles_causes rest (fun _ _ => .inl) fun _ _ => .inl
  | hears start line rest => exact settles_causes rest (fun _ _ => .inl) fun _ _ => .inl
  | registers client start port rest =>
    refine settles_causes rest (fun id d found => ?_) fun _ _ => .inl
    by_cases same : client = id
    · exact .inr (.replaced (by simp [registering, place, ← pc, start, same]))
    · exact .inl (by rwa [Tables.register, Dict.get?_insert_of_ne _ _ same])
  | subscribes start rest =>
    refine settles_causes rest (fun _ _ => .inl) fun id d found => ?_
    by_cases same : c.clientId.getD "" = id
    · exact .inr (.replaced (by simp [registering, place, ← pc, start, here, same]))
    · exact .inl (by rwa [Tables.subscribe, client, Dict.get?_insert_of_ne _ _ same])
  | strikes current stale after start names ends gone =>
    have sessions : m.runtime.sessions = w.machine.runtime.sessions :=
      (congrArg Tables.sessions gone).trans (Tables.strike_sessions ..)
    have control : ∀ id, m.runtime.controlSessions.get? id =
        if id ∈ names then none else w.machine.runtime.controlSessions.get? id :=
      fun id => (congrArg (fun t => t.control.get? id) gone).trans (Tables.strike_control ..)
    have struck : striking w.machine (.resume conn outcome draw) = names := by
      rcases ends with ⟨rfl, rfl⟩ | ⟨rfl, rfl⟩
      · simp [striking, place, ← pc, start]
      · simp [striking, place, ← pc, start]
    constructor
    · intro id d found gone
      exact absurd (sessions ▸ found) gone
    · intro id d found gone
      rw [control] at gone
      split_ifs at gone with stale
      · exact .fails (timely id (struck ▸ stale) d found)
      · exact absurd found gone
  | loses client destination start lost own rest =>
    refine settles_causes rest (fun id d found => ?_) fun _ _ => .inl
    by_cases same : client = id
    · subst same
      obtain rfl := Option.some.inj (found.symm.trans own)
      exact .inr (.fails (by simp [Watch.failures, place, ← pc, start, lost]))
    · exact .inl (by rwa [Tables.dropSession, Dict.get?_erase, if_neg same])
  | evicts message target start read kind orders gone =>
    obtain ⟨rfl, others, buffer⟩ := took _ read
    have barred : barring w.machine (.resume conn .read draw) = some target := by
      simp only [barring, here, buffer]
      rw [if_pos ⟨pc ▸ start, kind⟩, ← client, orders]
    have sessions : m.runtime.sessions = w.machine.runtime.sessions.erase target := congrArg Tables.sessions gone
    have control : m.runtime.controlSessions = w.machine.runtime.controlSessions.erase target :=
      congrArg Tables.control gone
    constructor
    · intro id d found gone
      rw [sessions, Dict.get?_erase] at gone
      split_ifs at gone with same
      · exact .ordered (same ▸ barred)
      · exact absurd found gone
    · intro id d found gone
      rw [control, Dict.get?_erase] at gone
      split_ifs at gone with same
      · exact .ordered (same ▸ barred)
      · exact absurd found gone

/-- A timely step removes what it removes for a cause. -/
theorem step_causes (timely : Timely w e) (stepped : w.machine.step env e = some m) : Caused w e m := by
  rcases Authentication.step_cases stepped with ⟨conn, c, outcome, draw, -, -, -, rfl, here, -⟩ | ⟨same, -⟩
  · simp only [Machine.step, here] at stepped
    exact resume_causes timely here stepped
  · constructor
    · intro id d found gone
      exact absurd (same ▸ found) gone
    · intro id d found gone
      exact absurd (same ▸ found) gone

end Steps

/-- In every run whose steps are all timely, whatever is removed from the tables of sessions and
subscriptions is removed for a cause. -/
theorem removal (env : Env) {start w : Watch} {taken : List (Watch × Event)}
    (run : Trail (Watch.step env) start taken w) (timely : ∀ at_step ∈ taken, Timely at_step.1 at_step.2) :
    ∀ at_step ∈ taken, ∃ next, at_step.1.step env at_step.2 = some next ∧
      Caused at_step.1 at_step.2 next.machine := by
  intro at_step member
  obtain ⟨next, stepped⟩ := run.stepped member
  obtain ⟨m, moved, rfl⟩ := Option.map_eq_some_iff.mp stepped
  exact ⟨_, stepped, step_causes (timely at_step member) moved⟩

/-! ## Runs -/

/-- A control connection up to its subscription. -/
def subscribing (conn : ConnId) (clientId key : String) : List Event :=
  [.connect conn .control,
    .receive conn (some (.obj [("role", .str "control"), ("client_id", .str clientId), ("public_key", .str key)])),
    .resume conn .read ⟨toString conn, toString conn⟩, .resume conn .sent ⟨"", ""⟩,
    .receive conn (some (.obj [("type", .str "auth_proof"), ("signature", .str (key ++ authTranscript sampleEnv
      "control" clientId (toString conn) (.str "") (.str "") (.str "")))])),
    .resume conn .read ⟨"unused", "unused"⟩, .resume conn .sent ⟨"", ""⟩,
    .receive conn (some (.obj [("type", .str "join"), ("client_id", .str clientId)])),
    .resume conn .read ⟨"unused", "unused"⟩, .resume conn .sent ⟨"", ""⟩,
    .receive conn (some (.obj [("type", .str "wisps")])), .resume conn .read ⟨"unused", "unused"⟩,
    .resume conn .sent ⟨"", ""⟩]

/-- `alice` and `bob` subscribe, `bob` connects to the relay port, and the write of the broadcast that
follows fails on the connection of `alice`. -/
def failingEvents : List Event :=
  subscribing 0 "alice" "alice-key" ++ .resume 0 .sent ⟨"", ""⟩ :: subscribing 1 "bob" "bob-key" ++
    [.resume 1 .sent ⟨"", ""⟩, .resume 1 .sent ⟨"", ""⟩] ++ handshakeOf 2 .relay "bob" "bob-key" ++
    [.resume 2 .sent ⟨"", ""⟩, .resume 2 .sent ⟨"", ""⟩, .resume 2 .lost ⟨"", ""⟩]

/-- `alice` subscribes again while that broadcast waits for `bob`. -/
def resubscribedEvents : List Event := failingEvents ++ subscribing 3 "alice" "alice-key"

def watched (events : List Event) : Watch :=
  (replay (Watch.step sampleEnv) ⟨startedMachine, fun _ => {}⟩ events).getD ⟨startedMachine, fun _ => {}⟩

theorem watched_run {events : List Event}
    (ran : (replay (Watch.step sampleEnv) ⟨startedMachine, fun _ => {}⟩ events).isSome = true) :
    ∃ taken, Trail (Watch.step sampleEnv) ⟨startedMachine, fun _ => {}⟩ taken (watched events) := by
  obtain ⟨w, ends⟩ := Option.isSome_iff_exists.mp ran
  rw [watched, ends, Option.getD_some]
  exact Trail.of_replay ends

/-- The write to `bob` completes, and the broadcast ends. -/
def lastWrite : Event := .resume 2 .sent ⟨"", ""⟩

theorem failing_facts :
    ((watched failingEvents).step sampleEnv lastWrite).map (·.machine.runtime.controlSessions.get? "alice") =
      some none ∧ Timely (watched failingEvents) lastWrite := by
  decide +kernel

theorem removal_failed : ∃ next, (watched failingEvents).step sampleEnv lastWrite = some next ∧
    next.machine.runtime.controlSessions.get? "alice" = none ∧
    Caused (watched failingEvents) lastWrite next.machine := by
  obtain ⟨forgotten, timely⟩ := failing_facts
  generalize watched failingEvents = before at *
  obtain ⟨next, stepped, absent⟩ := Option.map_eq_some_iff.mp forgotten
  have run : Trail (Watch.step sampleEnv) before [(before, lastWrite)] next := .next .nil stepped
  obtain ⟨other, stepped', caused⟩ :=
    removal sampleEnv run (List.forall_mem_singleton.mpr timely) _ (List.mem_singleton.mpr rfl)
  obtain rfl := Option.some.inj (stepped.symm.trans stepped')
  exact ⟨next, stepped, absent, caused⟩

theorem resubscribed_facts :
    (watched resubscribedEvents).machine.runtime.controlSessions.get? "alice" = some 3 ∧
      ((watched resubscribedEvents).step sampleEnv lastWrite).map
        (·.machine.runtime.controlSessions.get? "alice") = some none ∧
      (watched resubscribedEvents).failures lastWrite = [("alice", 0)] ∧
      barring (watched resubscribedEvents).machine lastWrite = none ∧
      registering (watched resubscribedEvents).machine .control 2 = none := by
  decide +kernel

/-- The end of the broadcast forgets the newer subscription of `alice`, to which nothing happened. -/
theorem removal_resubscribed : ¬ ∀ (env : Env) (start w : Watch) (taken : List (Watch × Event)),
    Machine.Started env start.machine → Trail (Watch.step env) start taken w →
    ∀ at_step ∈ taken, ∃ next, at_step.1.step env at_step.2 = some next ∧
      Caused at_step.1 at_step.2 next.machine := by
  intro claim
  obtain ⟨taken, run⟩ := @watched_run resubscribedEvents (by decide +kernel)
  obtain ⟨held, forgotten, failures, unbarred, waiting⟩ := resubscribed_facts
  generalize watched resubscribedEvents = before at *
  obtain ⟨next, stepped, absent⟩ := Option.map_eq_some_iff.mp forgotten
  have longer : Trail (Watch.step sampleEnv) _ ((before, lastWrite) :: taken) next := .next run stepped
  obtain ⟨other, stepped', caused⟩ := claim sampleEnv _ next _ startedMachine_started longer _ (List.mem_cons_self ..)
  obtain rfl := Option.some.inj (stepped.symm.trans stepped')
  have gone : next.machine.runtime.controlSessions.get? "alice" ≠ some 3 := by
    rw [absent]
    simp
  cases caused.control "alice" 3 held gone with
  | fails failed =>
    rw [failures] at failed
    simp at failed
  | ordered barred =>
    rw [unbarred] at barred
    cases barred
  | replaced registers =>
    rw [waiting] at registers
    cases registers

end WispGate.Soundness.Removal
