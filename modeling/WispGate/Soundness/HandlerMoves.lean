import WispGate.Model.Relay.Handlers
import WispGate.Model.Relay.Operations

/-! # What a resumed handler can do

Most of what the handlers do on the way to their next await is routine: frames are written,
sessions are forgotten, writers are closed. `Calm` is the frame condition of such stretches, and it
composes. `Move` then lists, once, the stretches that matter for authentication and revocation,
each as a named change of the machine followed by a calm rest.
-/

namespace WispGate.Soundness

open Data Model Model.Relay Machine

/-- Awaits only an authenticated connection reaches. -/
def session : Pc → Bool
  | .request | .joined | .registration | .registered | .subscribed | .subscribedAnswer | .ready
  | .queued _ | .broadcasting _ _ _ _ | .reading | .heartbeat | .accepting _ _ _ | .delivering _ _
  | .dropping _ => true
  | _ => false

/-- The handler a broadcast returns to. -/
def afterwards : After → Option Port
  | .reading => some .relay
  | .drop _ => some .relay
  | .subscribed => some .control
  | .closing => none

/-- The port whose handler an authenticated connection is in, as long as it is not leaving. -/
def living : Pc → Option Port
  | .request | .joined | .registration | .registered | .subscribed | .subscribedAnswer => some .control
  | .ready | .queued _ | .reading | .heartbeat | .accepting _ _ _ | .delivering _ _ | .dropping _ => some .relay
  | .broadcasting _ _ _ after => afterwards after
  | _ => none

/-- Awaits before the hello of a handshake. -/
def early : Pc → Bool
  | .hello | .bootstrapAnswer | .authHello => true
  | _ => false

/-- Awaits that hold neither a handshake nor a frame. -/
def quiet : Pc → Bool
  | .challenge _ | .proof _ | .authenticated _ | .accepting _ _ _ | .ready => false
  | _ => true

/-- A connection that may enter the awaits of authenticated ones. -/
def Permitted (c : Connection) : Prop := session c.pc = true ∨ (c.port = .relay ∧ c.clientId.isSome = true)

/-- A connection may go on to a quiet await: sessions, life and hellos only continue. -/
structure Enters (c : Connection) (pc : Pc) : Prop where
  still : quiet pc = true
  permit : session pc = true → Permitted c
  living : ∀ port, living pc = some port → living c.pc = some port
  beginning : early pc = true → early c.pc = true

/-- The routine part of a handler's run: no standing, challenge or draw changes, sessions are only
forgotten and writers only closed, other connections stay, and this one ends in a quiet await. -/
structure Calm (conn : ConnId) (m m' : Machine) : Prop where
  standing : m'.runtime.state.standing = m.runtime.state.standing
  file : m.runtime.state.FileKept m'.runtime.state
  challenges : m'.runtime.authChallenges = m.runtime.authChallenges
  sessions : ∀ id d, m'.runtime.sessions.get? id = some d → m.runtime.sessions.get? id = some d
  closed : ∀ d ∈ m.runtime.closed, d ∈ m'.runtime.closed
  drawn : m'.drawn = m.drawn
  others : ∀ d, d ≠ conn → m'.connections.get? d = m.connections.get? d
  own : ∀ c, m.connections.get? conn = some c → ∃ pc, m'.connections.get? conn = some { c with pc := pc } ∧
    (pc = c.pc ∨ Enters c pc)
  log : ∃ frames : List (ConnId × Json), m'.log = frames.map (fun f => .wrote f.1 f.2) ++ m.log

section Calm

variable {env : Env} {m m' m'' : Machine} {conn : ConnId} {c : Connection}

theorem Calm.refl (conn : ConnId) (m : Machine) : Calm conn m m where
  standing := rfl
  file := .inl rfl
  challenges := rfl
  sessions _ _ found := found
  closed _ member := member
  drawn := rfl
  others _ _ := rfl
  own c here := ⟨c.pc, here, .inl rfl⟩
  log := ⟨[], rfl⟩

theorem Calm.trans (first : Calm conn m m') (second : Calm conn m' m'') : Calm conn m m'' where
  standing := second.standing.trans first.standing
  file := first.file.trans second.file second.standing
  challenges := second.challenges.trans first.challenges
  sessions id d found := first.sessions id d (second.sessions id d found)
  closed d member := second.closed d (first.closed d member)
  drawn := second.drawn.trans first.drawn
  others d other := (second.others d other).trans (first.others d other)
  own c here := by
    obtain ⟨pc, here', kind⟩ := first.own c here
    obtain ⟨pc', here'', kind'⟩ := second.own _ here'
    refine ⟨pc', here'', ?_⟩
    rcases kind' with rfl | enters'
    · exact kind
    · rcases kind with rfl | enters
      · exact .inr enters'
      · refine .inr ⟨enters'.still, fun now => ?_, fun port alive => enters.living port (enters'.living port alive),
          enters.beginning ∘ enters'.beginning⟩
        rcases enters'.permit now with before | relay
        · exact enters.permit before
        · exact .inr relay
  log := by
    obtain ⟨frames, log⟩ := first.log
    obtain ⟨frames', log'⟩ := second.log
    exact ⟨frames' ++ frames, by rw [log', log, List.map_append, List.append_assoc]⟩

/-- Changes of the shared tables that are calm on their own. -/
theorem Calm.runtime {rt : RelayRuntime} (standing : rt.state.standing = m.runtime.state.standing)
    (file : m.runtime.state.FileKept rt.state) (challenges : rt.authChallenges = m.runtime.authChallenges)
    (sessions : ∀ id d, rt.sessions.get? id = some d → m.runtime.sessions.get? id = some d)
    (closed : ∀ d ∈ m.runtime.closed, d ∈ rt.closed) : Calm conn m (m.withRuntime rt) where
  standing := standing
  file := file
  challenges := challenges
  sessions := sessions
  closed := closed
  drawn := rfl
  others _ _ := rfl
  own c here := ⟨c.pc, here, .inl rfl⟩
  log := ⟨[], rfl⟩

theorem goto_calm {pc : Pc} (enters : ∀ c, m.connections.get? conn = some c → Enters c pc) :
    Calm conn m (m.goto conn pc) where
  standing := rfl
  file := .inl rfl
  challenges := rfl
  sessions _ _ found := found
  closed _ member := member
  drawn := rfl
  others d other := by
    simp only [goto, Dict.get?_modify]
    rw [if_neg (Ne.symm other)]
  own c here := by
    refine ⟨pc, ?_, .inr (enters c here)⟩
    simp [goto, Dict.get?_modify, here]
  log := ⟨[], rfl⟩

/-- What a calm stretch logs besides the frames it writes was logged before. -/
theorem calm_entry (calm : Calm conn m m') {entry : Entry} (member : entry ∈ m'.log)
    (other : ∀ d frame, entry ≠ .wrote d frame) : entry ∈ m.log := by
  obtain ⟨frames, log⟩ := calm.log
  rw [log] at member
  rcases List.mem_append.mp member with frame | old
  · obtain ⟨f, _, rfl⟩ := List.mem_map.mp frame
    exact absurd rfl (other f.1 f.2)
  · exact old

theorem write_calm (d : ConnId) (frame : Json) : Calm conn m (m.write d frame) where
  standing := rfl
  file := .inl rfl
  challenges := rfl
  sessions _ _ found := found
  closed _ member := member
  drawn := rfl
  others _ _ := rfl
  own c here := ⟨c.pc, here, .inl rfl⟩
  log := ⟨[(d, frame)], rfl⟩

theorem touch_calm (clientId : String) : Calm conn m (m.touch clientId) :=
  Calm.runtime rfl (.inl rfl) rfl (fun _ _ found => found) fun _ member => member

theorem closeWriter_calm (d : ConnId) : Calm conn m (m.closeWriter d) :=
  Calm.runtime rfl (.inl rfl) rfl (fun _ _ found => found) fun _ member => List.mem_cons_of_mem _ member

theorem dropControl_calm (clientId : String) : Calm conn m (m.dropControl clientId) :=
  Calm.runtime rfl (.inl rfl) rfl (fun _ _ found => found) fun _ member => member

theorem dropSession_calm (clientId : String) : Calm conn m (m.dropSession clientId) := by
  refine Calm.runtime rfl (.inl rfl) rfl ?_ fun _ member => member
  intro id d found
  simp only [Dict.get?_erase] at found
  split_ifs at found with same
  exact found

theorem dropStale_calm (stale : List String) (m : Machine) : Calm conn m (stale.foldl dropControl m) := by
  induction stale generalizing m with
  | nil => exact .refl conn m
  | cons clientId rest ih => exact (dropControl_calm clientId).trans (ih _)

theorem living_session {pc : Pc} {port : Port} (alive : living pc = some port) : session pc = true := by
  cases pc <;> first | rfl | cases alive

theorem living_late {pc : Pc} {port : Port} (alive : living pc = some port) : early pc = false := by
  cases pc <;> first | rfl | cases alive

/-- An await of a handler that answers or leaves. -/
theorem leave_calm {pc : Pc} (still : quiet pc = true) (outside : session pc = false)
    (late : early pc = false) : Calm conn m (m.goto conn pc) := by
  refine goto_calm fun c _ => ⟨still, ?_, ?_, ?_⟩
  · intro inside
    simp [outside] at inside
  · intro port alive
    simp [living_session alive] at outside
  · intro beginning
    simp [late] at beginning

/-- An await of a connection that may be in one. -/
theorem stay_calm {pc : Pc} {port : Port} (still : quiet pc = true) (there : living pc = some port)
    (here : m.connections.get? conn = some c) (alive : living c.pc = some port) :
    Calm conn m (m.goto conn pc) := by
  refine goto_calm fun c' here' => ?_
  obtain rfl : c = c' := Option.some.inj (here.symm.trans here')
  refine ⟨still, fun _ => .inl (living_session alive), fun other there' => ?_, fun beginning => ?_⟩
  · rw [alive, ← there, there']
  · simp [living_late there] at beginning

/-- An await before the hello. -/
theorem begin_calm {pc : Pc} (still : quiet pc = true) (outside : session pc = false)
    (here : m.connections.get? conn = some c) (beginning : early c.pc = true) :
    Calm conn m (m.goto conn pc) := by
  refine goto_calm fun c' here' => ?_
  obtain rfl : c = c' := Option.some.inj (here.symm.trans here')
  refine ⟨still, ?_, ?_, fun _ => beginning⟩
  · intro inside
    simp [outside] at inside
  · intro port alive
    simp [living_session alive] at outside

/-- The await of a broadcast, or of what follows it. -/
theorem broadcasting_calm {current : String} {rest : List (String × ConnId)} {stale : List String}
    {after : After} (here : m.connections.get? conn = some c) (permit : Permitted c)
    (alive : ∀ port, afterwards after = some port → living c.pc = some port) :
    Calm conn m (m.goto conn (.broadcasting current rest stale after)) := by
  refine goto_calm fun c' here' => ?_
  obtain rfl : c = c' := Option.some.inj (here.symm.trans here')
  refine ⟨rfl, fun _ => permit, alive, ?_⟩
  intro beginning
  simp [early] at beginning

theorem close_calm : Calm conn m (m.close conn) := (closeWriter_calm conn).trans (leave_calm rfl rfl rfl)

theorem send_calm {frame : Json} {pc : Pc} (still : quiet pc = true) (outside : session pc = false)
    (late : early pc = false) : Calm conn m (m.send conn frame pc) :=
  (write_calm conn frame).trans (leave_calm still outside late)

theorem send_stay_calm {frame : Json} {pc : Pc} {port : Port} (still : quiet pc = true)
    (there : living pc = some port) (here : m.connections.get? conn = some c) (alive : living c.pc = some port) :
    Calm conn m (m.send conn frame pc) :=
  (write_calm conn frame).trans (stay_calm (m := m.write conn frame) still there here alive)

theorem continueAfter_calm {after : After} (here : m.connections.get? conn = some c)
    (alive : ∀ port, afterwards after = some port → living c.pc = some port) :
    Calm conn m (m.continueAfter conn after) := by
  cases after with
  | reading => exact stay_calm rfl rfl here (alive _ rfl)
  | subscribed => exact stay_calm rfl rfl here (alive _ rfl)
  | closing => exact close_calm
  | drop d =>
    exact (closeWriter_calm d).trans (stay_calm (m := m.closeWriter d) rfl rfl here (alive _ rfl))

theorem dropStale_connections (stale : List String) (m : Machine) :
    (stale.foldl dropControl m).connections = m.connections := by
  induction stale generalizing m with
  | nil => rfl
  | cons clientId rest ih => exact ih (m.dropControl clientId)

theorem broadcastNext_calm {rest : List (String × ConnId)} {stale : List String} {after : After}
    (here : m.connections.get? conn = some c) (permit : Permitted c)
    (alive : ∀ port, afterwards after = some port → living c.pc = some port)
    (success : m.broadcastNext env conn rest stale after = .ok m') : Calm conn m m' := by
  unfold broadcastNext at success
  split at success
  · cases success
    refine (dropStale_calm stale m).trans (continueAfter_calm (c := c) ?_ alive)
    rw [dropStale_connections]
    exact here
  · rename_i clientId writer rest
    split at success
    · cases success
    · rename_i items _
      cases success
      exact (write_calm writer _).trans (broadcasting_calm (m := m.write writer _) here permit alive)

theorem startBroadcast_calm {after : After} (here : m.connections.get? conn = some c) (permit : Permitted c)
    (alive : ∀ port, afterwards after = some port → living c.pc = some port)
    (success : m.startBroadcast env conn after = .ok m') :
    Calm conn m m' := by
  unfold startBroadcast at success
  split at success
  · cases success
  · exact broadcastNext_calm here permit alive success

theorem finish_calm (here : m.connections.get? conn = some c) : Calm conn m (m.finish env conn c) := by
  unfold finish
  split
  · rename_i clientId port named
    have permit : Permitted c := .inr ⟨port, by simp [named]⟩
    split_ifs
    · split
      · rename_i m' success
        exact (dropSession_calm clientId).trans
          (startBroadcast_calm (m := m.dropSession clientId) here permit (by simp [afterwards]) success)
      · exact (dropSession_calm clientId).trans (leave_calm rfl rfl rfl)
    · exact close_calm
  · split_ifs
    · exact (dropControl_calm _).trans close_calm
    · exact close_calm
  · exact close_calm

theorem raises_calm {e : PyError} (here : m.connections.get? conn = some c) :
    Calm conn m (m.raises env conn c e) := by
  unfold raises
  split_ifs
  · exact send_calm rfl rfl rfl
  · exact finish_calm here

theorem broadcast_calm {after : After} {port : Port} (here : m.connections.get? conn = some c)
    (alive : living c.pc = some port) (there : afterwards after = some port) :
    Calm conn m (m.broadcast env conn c after) := by
  unfold broadcast
  split
  · rename_i m' success
    exact startBroadcast_calm here (.inl (living_session alive)) (fun _ after => by rw [alive, ← there, after]) success
  · exact raises_calm here

theorem broadcastOn_calm {rest : List (String × ConnId)} {stale : List String} {after : After}
    (here : m.connections.get? conn = some c) (permit : Permitted c)
    (alive : ∀ port, afterwards after = some port → living c.pc = some port) :
    Calm conn m (m.broadcastOn env conn c rest stale after) := by
  unfold broadcastOn
  split
  · rename_i m' success
    exact broadcastNext_calm here permit alive success
  · split_ifs
    · exact leave_calm rfl rfl rfl
    · exact raises_calm here

theorem answerSender_calm {sender : String} {frame : Json} (here : m.connections.get? conn = some c)
    (alive : living c.pc = some .relay) : Calm conn m (m.answerSender conn sender frame) := by
  unfold answerSender
  split
  · rename_i writer _
    exact (write_calm writer frame).trans (stay_calm (m := m.write writer frame) rfl rfl here alive)
  · exact stay_calm rfl rfl here alive

theorem destinationLost_calm {recipient : String} {d : ConnId} (here : m.connections.get? conn = some c)
    (alive : living c.pc = some .relay) : Calm conn m (m.destinationLost env conn c recipient d) := by
  unfold destinationLost
  split_ifs
  · exact (dropSession_calm recipient).trans (broadcast_calm (m := m.dropSession recipient) here alive rfl)
  · exact continueAfter_calm here fun _ after => alive.trans after

/-- A broadcast goes on from the await it stands in. -/
theorem rebroadcast_calm {current : String} {rest : List (String × ConnId)} {stale stale' : List String}
    {after : After} (here : m.connections.get? conn = some c) (start : c.pc = .broadcasting current rest stale after) :
    Calm conn m (m.broadcastOn env conn c rest stale' after) := by
  refine broadcastOn_calm here (.inl (by simp [start, session])) fun port there => ?_
  rw [start]
  exact there

theorem onLine_calm (env : Env) (input : Input) (handle : Json → Machine) (here : m.connections.get? conn = some c) :
    (∃ line, input = .json line ∧ m.onLine env conn c input handle = handle line) ∨
      Calm conn m (m.onLine env conn c input handle) := by
  cases input with
  | json line => exact .inl ⟨line, rfl, rfl⟩
  | garbage => exact .inr (raises_calm here)
  | eof => exact .inr (raises_calm here)

theorem onLoopLine_calm (env : Env) (input : Input) (handle : Json → Machine) (here : m.connections.get? conn = some c) :
    (∃ line, input = .json line ∧ m.onLoopLine env conn c input handle = handle line) ∨
      Calm conn m (m.onLoopLine env conn c input handle) := by
  cases input with
  | json line => exact .inl ⟨line, rfl, rfl⟩
  | garbage => exact .inr (raises_calm here)
  | eof => exact .inr (finish_calm here)

end Calm

/-! ## The tables under the synchronous sections -/

/-- Sessions, closed writers and challenges as they were. -/
structure SameTables (rt rt' : RelayRuntime) : Prop where
  sessions : rt'.sessions = rt.sessions
  closed : rt'.closed = rt.closed
  challenges : rt'.authChallenges = rt.authChallenges

/-- No new session or challenge, and no writer reopened. -/
structure Shrinks (rt rt' : RelayRuntime) : Prop where
  challenges : rt'.authChallenges = rt.authChallenges
  sessions : ∀ id d, rt'.sessions.get? id = some d → rt.sessions.get? id = some d
  closed : ∀ d ∈ rt.closed, d ∈ rt'.closed

section Tables

variable (env : Env) (rt : RelayRuntime) (now : ℕ)

theorem bootstrap_tables (request : BootstrapRequest) : SameTables rt (rt.bootstrap env now request).1 := by
  unfold RelayRuntime.bootstrap
  dsimp only
  split_ifs
  · split <;> exact ⟨rfl, rfl, rfl⟩
  · exact ⟨rfl, rfl, rfl⟩
  · exact ⟨rfl, rfl, rfl⟩

theorem admit_tables (port : Port) (pending : Pending) (record : Challenge) (signature : String) :
    SameTables rt (rt.admission now port pending record signature).1 := by
  unfold RelayRuntime.admission
  split
  · exact ⟨rfl, rfl, rfl⟩
  · unfold RelayRuntime.completeAdmission
    split_ifs
    · split <;> exact ⟨rfl, rfl, rfl⟩
    · exact ⟨rfl, rfl, rfl⟩

/-- The end of a handshake uses up its challenge. -/
theorem conclude_tables (port : Port) (pending : Pending) (message : Json) :
    (rt.concludeAuthentication env now port pending message).1.sessions = rt.sessions ∧
    (rt.concludeAuthentication env now port pending message).1.closed = rt.closed ∧
    (rt.concludeAuthentication env now port pending message).1.authChallenges =
      rt.authChallenges.erase pending.slot := by
  unfold RelayRuntime.concludeAuthentication
  dsimp only
  split_ifs
  · split
    · rename_i challenge signature _ _
      unfold RelayRuntime.checkProof
      dsimp only
      split_ifs
      · exact ⟨rfl, rfl, rfl⟩
      · exact ⟨rfl, rfl, rfl⟩
      · obtain ⟨sessions, closed, challenges⟩ := admit_tables
          { rt with authChallenges := rt.authChallenges.erase pending.slot } now port pending challenge signature
        exact ⟨sessions, closed, challenges⟩
      · exact ⟨rfl, rfl, rfl⟩
    · exact ⟨rfl, rfl, rfl⟩
  · exact ⟨rfl, rfl, rfl⟩

/-- What a challenge is issued for. -/
theorem begin_spec {env : Env} {rt rt' : RelayRuntime} {now : ℕ} {port : Port} {pending : Pending}
    {hello frame : Json} {draw : Draw}
    (begun : rt.beginAuthentication env now port hello draw = .ok (.challenged rt' pending frame)) :
    ∃ challenge, rt' = { rt with authChallenges := rt.authChallenges.insert draw.slot challenge } ∧
      challenge.clientId = pending.clientId ∧ challenge.challenge = draw.challenge ∧
      pending.slot = draw.slot ∧ (pending.known = false → env.enrollmentEnabled = true) := by
  unfold RelayRuntime.beginAuthentication at begun
  split at begun
  · cases begun
  · split at begun
    · cases begun
    · split at begun
      · split at begun
        · simp at begun
        · dsimp only at begun
          split_ifs at begun with unknown changed
          · simp at begun
          · simp at begun
          · simp only [Except.ok.injEq, AuthStart.challenged.injEq] at begun
            obtain ⟨rfl, rfl, rfl⟩ := begun
            refine ⟨_, rfl, rfl, rfl, rfl, fun fresh => ?_⟩
            by_contra disabled
            exact unknown ⟨by simpa using fresh, by simpa using disabled⟩
      · simp at begun

theorem begin_tables {env : Env} {rt rt' : RelayRuntime} {now : ℕ} {port : Port} {hello frame : Json}
    {draw : Draw} {pending : Pending}
    (begun : rt.beginAuthentication env now port hello draw = .ok (.challenged rt' pending frame)) :
    rt'.sessions = rt.sessions ∧ rt'.closed = rt.closed := by
  obtain ⟨challenge, rfl, _⟩ := begin_spec begun
  exact ⟨rfl, rfl⟩

theorem replaceWisps_tables (clientId : String) (items : List Json) :
    SameTables rt (rt.replaceWisps env now clientId items).1 := by
  unfold RelayRuntime.replaceWisps
  dsimp only
  split
  · exact ⟨rfl, rfl, rfl⟩
  · split
    · exact ⟨rfl, rfl, rfl⟩
    · split_ifs <;> exact ⟨rfl, rfl, rfl⟩

theorem register_tables (clientId : String) (message : Json) :
    SameTables rt (rt.registerWisps env now clientId message).1 := by
  unfold RelayRuntime.registerWisps
  split
  · exact ⟨rfl, rfl, rfl⟩
  · split_ifs
    · split
      · exact ⟨rfl, rfl, rfl⟩
      · rename_i state _
        obtain ⟨sessions, closed, challenges⟩ :=
          replaceWisps_tables env { rt with state := state } now clientId _
        exact ⟨sessions, closed, challenges⟩
    · exact replaceWisps_tables env rt now clientId _
    · exact ⟨rfl, rfl, rfl⟩

theorem Shrinks.refl : Shrinks rt rt := ⟨rfl, fun _ _ found => found, fun _ member => member⟩

theorem setStatusRequest_tables (clientId action : String) (target : Json) :
    Shrinks rt (rt.setStatusRequest clientId action target).1 := by
  unfold RelayRuntime.setStatusRequest
  split
  · exact .refl rt
  · split
    · exact .refl rt
    · split
      · exact .refl rt
      · exact .refl rt
      · dsimp only
        split_ifs
        · refine ⟨rfl, ?_, fun d member => List.mem_append_right _ member⟩
          intro id d found
          simp only [RelayRuntime.evict, Dict.get?_erase] at found
          split_ifs at found
          exact found
        · exact ⟨rfl, fun _ _ found => found, fun _ member => member⟩

theorem wispRequest_tables (clientId : String) (request : Json) :
    Shrinks rt (rt.registerWispRequest clientId request).1 ∧ Shrinks rt (rt.removeWispRequest request).1 := by
  constructor
  · unfold RelayRuntime.registerWispRequest
    dsimp only
    split_ifs
    · exact .refl rt
    · exact ⟨rfl, fun _ _ found => found, fun _ member => member⟩
  · unfold RelayRuntime.removeWispRequest
    split
    · exact .refl rt
    · dsimp only
      split_ifs
      · exact ⟨rfl, fun _ _ found => found, fun _ member => member⟩
      · exact .refl rt

theorem adminRequest_tables (clientId action : String) (request : Json) :
    Shrinks rt (rt.adminRequest env clientId action request).1 := by
  have wisps := wispRequest_tables rt
  refine RelayRuntime.adminRequest_cases (motive := fun result => Shrinks rt result.1) (fun _ => .refl rt)
    (fun _ => ?_) (fun _ => ?_) ?_
  · exact setStatusRequest_tables rt clientId action _
  · exact (wisps clientId request).1
  · exact (wisps clientId _).2

theorem manage_tables (clientId : String) (request : Json) :
    Shrinks rt (rt.managementRequest env now clientId request).1 := by
  unfold RelayRuntime.managementRequest
  split
  · exact .refl rt
  · split
    · exact .refl rt
    · dsimp only
      split_ifs
      · exact .refl rt
      · exact ⟨rfl, fun _ _ found => found, fun _ member => member⟩
      · exact adminRequest_tables env rt clientId _ request
      · exact .refl rt

end Tables

/-! ## Moves -/

/-- What resuming a connection takes from its buffer before the handler goes on: nothing, a line
(a JSON value or not), or the end of the stream. -/
inductive Reads (m : Machine) (conn : ConnId) (c : Connection) : Machine → Connection → Option Json → Prop
  | stays : Reads m conn c m c none
  | pops (head : Line) (rest : List Line) (buffer : c.buffer = head :: rest) :
      Reads m conn c (m.setBuffer conn rest) { c with buffer := rest } head
  | ends (buffer : c.buffer = []) : Reads m conn c (m.setBuffer conn []) { c with buffer := [] } none

/-- Awaits of a control connection at which a management request may arrive. -/
def managing : Pc → Bool
  | .request | .registration | .subscribed => true
  | _ => false

/-- The stretch of a handler from one await to the next. -/
inductive Move (env : Env) (m : Machine) (conn : ConnId) (c : Connection) (line : Option Json)
    (m' : Machine) : Prop
  | calm (rest : Calm conn m m')
  | bootstrapped (request : BootstrapRequest) (port : c.port = .control) (here : c.pc = .hello)
      (rest : Calm conn ((m.setClient conn request.clientId).withRuntime
        (m.runtime.bootstrap env m.wallClock request).1) m')
  | challenged (hello : Json) (draw : Draw) (rt : RelayRuntime) (pending : Pending) (frame : Json)
      (here : c.pc = .hello ∨ c.pc = .authHello)
      (fresh : draw.challenge ∉ m.drawn ∧ draw.slot ∉ m.drawn)
      (begun : m.runtime.beginAuthentication env m.now c.port hello draw =
        .ok (.challenged rt pending frame))
      (result : m' = ({ m.withRuntime rt with drawn := draw.challenge :: draw.slot :: m.drawn }.record
        (.challenged conn draw.challenge)).send conn frame (.challenge pending))
  | proving (pending : Pending) (here : c.pc = .challenge pending)
      (result : m' = m.goto conn (.proof pending))
  | refused (pending : Pending) (proof : Json) (here : c.pc = .proof pending) (read : line = some proof)
      (other : ∀ p, (m.runtime.concludeAuthentication env m.now c.port pending proof).2 ≠
        .ok (.authenticated p))
      (rest : Calm conn (m.withRuntime (m.runtime.concludeAuthentication env m.now c.port pending proof).1) m')
  | proved (pending : Pending) (message : Json) (proof : Proof) (here : c.pc = .proof pending)
      (read : line = some message)
      (success : (m.runtime.concludeAuthentication env m.now c.port pending message).2 =
        .ok (.authenticated proof))
      (result : m' = ((m.withRuntime
          (m.runtime.concludeAuthentication env m.now c.port pending message).1).record
        (.proved conn proof)).send conn
          (RelayRuntime.answer [("type", .str "authenticated"), ("client_id", .str proof.clientId)])
          (.authenticated proof.clientId))
  | authenticatedControl (clientId : String) (port : c.port = .control) (here : c.pc = .authenticated clientId)
      (result : m' = ((m.setClient conn clientId).record (.authenticated conn clientId)).goto conn .request)
  | authenticatedRelay (clientId : String) (port : c.port = .relay) (here : c.pc = .authenticated clientId)
      (result : m' = ((((m.setClient conn clientId).record (.authenticated conn clientId)).registerSession
          conn clientId).markSeen clientId).send conn (readyFrame clientId) .ready ∨
        (m.runtime.state.clients.contains clientId = false ∧
          Calm conn (((m.setClient conn clientId).record (.authenticated conn clientId)).registerSession
            conn clientId) m'))
  | managed (clientId : String) (message : Json) (here : managing c.pc = true)
      (own : c.clientId.getD "" = clientId) (read : line = some message)
      (kind : message.get "type" = .str "management_request")
      (rest : Calm conn (m.withRuntime (m.runtime.managementRequest env m.now clientId
        (message.getD "request" (.obj []))).1) m')
  | registered (clientId : String) (message : Json) (here : c.pc = .registration)
      (own : c.clientId.getD "" = clientId) (read : line = some message)
      (rest : Calm conn (m.withRuntime (m.runtime.registerWisps env m.now clientId message).1) m')
  | accepting (recipient : String) (destination : ConnId) (frame : Json) (here : c.pc = .reading)
      (read : line = some frame) (valid : forwardable (c.clientId.getD "") frame = true)
      (m₁ : Machine) (first : Calm conn m m₁)
      (result : m' = m₁.goto conn (.accepting recipient destination frame))
  | delivered (recipient : String) (destination : ConnId) (frame : Json)
      (here : (c.pc = .reading ∧ line = some frame ∧ forwardable (c.clientId.getD "") frame = true) ∨
        c.pc = .accepting recipient destination frame)
      (m₁ : Machine) (first : Calm conn m m₁)
      (result : m' = m₁.deliver conn (c.clientId.getD "") recipient destination frame)

section Moves

variable {env : Env} {m m' : Machine} {conn : ConnId} {c : Connection} {draw : Draw} {line : Json}

/-- The change of a machine that keeps its connections is calm up to the new tables. -/
theorem onManagement_calm {clientId : String} {next : Pc} (still : quiet next = true)
    (there : next = .answered ∨ living next = some .control) (here : m.connections.get? conn = some c)
    (alive : living c.pc = some .control) :
    Calm conn (m.withRuntime (m.runtime.managementRequest env m.now clientId
      (line.getD "request" (.obj []))).1) (m.onManagement env conn c clientId line next) := by
  unfold onManagement
  split
  · rename_i rt e result
    rw [result]
    exact raises_calm here
  · rename_i rt response result
    rw [result]
    rcases there with rfl | there
    · exact send_calm rfl rfl rfl
    · exact send_stay_calm (m := m.withRuntime rt) still there here alive

theorem onAuthHello_move {some_line : Option Json} (here : m.connections.get? conn = some c)
    (start : c.pc = .hello ∨ c.pc = .authHello) (fresh : draw.challenge ∉ m.drawn ∧ draw.slot ∉ m.drawn) :
    Move env m conn c some_line (m.onAuthHello env conn c line draw) := by
  unfold onAuthHello
  split
  · exact .calm (raises_calm here)
  · exact .calm (send_calm rfl rfl rfl)
  · rename_i rt pending frame begun
    exact .challenged line draw rt pending frame start fresh begun rfl

theorem onHello_move (here : m.connections.get? conn = some c) (start : c.pc = .hello)
    (fresh : draw.challenge ∉ m.drawn ∧ draw.slot ∉ m.drawn) :
    Move env m conn c (some line) (m.onHello env conn c line draw) := by
  unfold onHello
  split_ifs with port
  · split
    · exact .calm (raises_calm here)
    · rename_i request opened
      refine .bootstrapped request port.1 start ?_
      have named : (m.setClient conn request.clientId).connections.get? conn =
          some { c with clientId := some request.clientId } := by
        simp [setClient, Dict.get?_modify, here]
      dsimp only
      split
      · rename_i rt e result
        rw [show (m.setClient conn request.clientId).runtime = m.runtime from rfl] at result
        rw [show (m.runtime.bootstrap env m.wallClock request) = (rt, .error e) from result]
        exact raises_calm named
      · rename_i rt outcome result
        rw [show (m.runtime.bootstrap env m.wallClock request) = (rt, .ok outcome) from result]
        cases outcome with
        | returns frame => exact send_calm rfl rfl rfl
        | continues frame =>
          exact (write_calm conn frame).trans (begin_calm (m := (Machine.withRuntime _ rt).write conn frame)
            rfl rfl named (by rw [start]; rfl))
  · exact .calm (send_calm rfl rfl rfl)
  · exact onAuthHello_move here (.inl start) fresh

theorem onProof_move {pending : Pending} (here : m.connections.get? conn = some c)
    (start : c.pc = .proof pending) :
    Move env m conn c (some line) (m.onProof env conn c pending line) := by
  unfold onProof
  split
  · rename_i rt e result
    refine .refused pending line start rfl (by simp [result]) ?_
    rw [result]
    exact raises_calm here
  · rename_i rt frame result
    refine .refused pending line start rfl (by simp [result]) ?_
    rw [result]
    exact send_calm rfl rfl rfl
  · rename_i rt proof result
    refine .proved pending line proof start rfl (by simp [result]) ?_
    rw [result]

theorem onRequest_move (here : m.connections.get? conn = some c) (start : c.pc = .request) :
    Move env m conn c (some line) (m.onRequest env conn c (c.clientId.getD "") line) := by
  have alive : living c.pc = some .control := by rw [start]; rfl
  unfold onRequest
  split_ifs with object kind join
  · exact .managed _ line (by simp [start, managing]) rfl rfl kind (onManagement_calm rfl (.inl rfl) here alive)
  · exact .calm (send_calm rfl rfl rfl)
  · split
    · exact .calm (raises_calm here)
    · have saved : Calm conn m (m.withRuntime { m.runtime with state := m.runtime.state.save }) :=
        Calm.runtime rfl (RelayState.fileKept_save _ _) rfl (fun _ _ found => found) fun _ member => member
      dsimp only
      split
      · exact .calm (saved.trans (raises_calm here))
      · exact .calm (saved.trans (send_stay_calm
          (m := m.withRuntime { m.runtime with state := m.runtime.state.save }) rfl rfl here alive))
  · exact .calm (raises_calm here)

theorem onRegistration_move (here : m.connections.get? conn = some c) (start : c.pc = .registration) :
    Move env m conn c (some line) (m.onRegistration env conn c (c.clientId.getD "") line) := by
  have alive : living c.pc = some .control := by rw [start]; rfl
  unfold onRegistration
  split_ifs with object kind wisps
  · exact .managed _ line (by simp [start, managing]) rfl rfl kind (onManagement_calm rfl (.inl rfl) here alive)
  · split
    · rename_i rt e result
      refine .registered _ line start rfl rfl ?_
      rw [result]
      exact raises_calm here
    · rename_i rt response result
      refine .registered _ line start rfl rfl ?_
      rw [result]
      exact send_stay_calm (m := m.withRuntime rt) rfl rfl here alive
  · exact .calm (finish_calm here)
  · exact .calm (raises_calm here)

theorem onSubscribed_move (here : m.connections.get? conn = some c) (start : c.pc = .subscribed) :
    Move env m conn c (some line) (m.onSubscribed env conn c (c.clientId.getD "") line) := by
  have alive : living c.pc = some .control := by rw [start]; rfl
  unfold onSubscribed
  split_ifs with object ping valid kind
  · exact .calm (send_stay_calm rfl rfl here alive)
  · exact .calm (stay_calm rfl rfl here alive)
  · exact .managed _ line (by simp [start, managing]) rfl rfl kind (onManagement_calm rfl (.inr rfl) here alive)
  · exact .calm (stay_calm rfl rfl here alive)
  · exact .calm (raises_calm here)

theorem forward_move {m₀ : Machine} (before : Calm conn m₀ m) (here : m.connections.get? conn = some c)
    (start : c.pc = .reading) :
    Move env m₀ conn c (some line) (m.forward env conn c (c.clientId.getD "") line) := by
  have alive : living c.pc = some .relay := by rw [start]; rfl
  unfold forward
  split_ifs with valid
  · split
    · exact .calm (before.trans (raises_calm here))
    · split
      · exact .calm (before.trans (answerSender_calm here alive))
      · rename_i recipient destination _
        split
        · rename_i source _
          exact .accepting recipient destination line start rfl valid _ (before.trans (write_calm _ _)) rfl
        · exact .delivered recipient destination line (.inl ⟨start, rfl, valid⟩) m before rfl
  · exact .calm (before.trans (answerSender_calm here alive))

theorem onMessage_move {m₀ : Machine} (before : Calm conn m₀ m) (here : m.connections.get? conn = some c)
    (start : c.pc = .reading) :
    Move env m₀ conn c (some line) (m.onMessage env conn c (c.clientId.getD "") line) := by
  have alive : living c.pc = some .relay := by rw [start]; rfl
  unfold onMessage
  split_ifs
  · exact .calm (before.trans (send_stay_calm rfl rfl here alive))
  · exact .calm (before.trans (send_stay_calm rfl rfl here alive))
  · exact .calm (before.trans (stay_calm rfl rfl here alive))
  · exact .calm (before.trans (raises_calm here))
  · exact forward_move before here start
  · exact .calm (before.trans (send_stay_calm rfl rfl here alive))
  · exact .calm (before.trans (raises_calm here))

theorem onRead_move {input : Input} {read : Option Json} (here : m.connections.get? conn = some c)
    (fresh : draw.challenge ∉ m.drawn ∧ draw.slot ∉ m.drawn) (same : ∀ value, input = .json value → read = some value)
    (success : m.onRead env conn c input draw = some m') : Move env m conn c read m' := by
  unfold onRead at success
  split at success
  all_goals first | (cases success; done) | (rename_i start; try simp only [Option.some.injEq] at success)
  · rcases onLine_calm env input (fun hello => m.onHello env conn c hello draw) here
      with ⟨line, rfl, result⟩ | calm
    · rw [← success, result, same line rfl]
      exact onHello_move here start fresh
    · exact success ▸ .calm calm
  · rcases onLine_calm env input
        (fun hello => m.onAuthHello env conn c hello draw) here with ⟨line, rfl, result⟩ | calm
    · rw [← success, result]
      exact onAuthHello_move here (.inr start) fresh
    · exact success ▸ .calm calm
  · rename_i pending
    rcases onLine_calm env input
        (fun line => m.onProof env conn c pending line) here with ⟨line, rfl, result⟩ | calm
    · rw [← success, result, same line rfl]
      exact onProof_move here start
    · exact success ▸ .calm calm
  · rcases onLine_calm env input
        (fun line => m.onRequest env conn c (c.clientId.getD "") line) here with ⟨line, rfl, result⟩ | calm
    · rw [← success, result, same line rfl]
      exact onRequest_move here start
    · exact success ▸ .calm calm
  · rcases onLoopLine_calm env input
        (fun line => m.onRegistration env conn c (c.clientId.getD "") line) here
      with ⟨line, rfl, result⟩ | calm
    · rw [← success, result, same line rfl]
      exact onRegistration_move here start
    · exact success ▸ .calm calm
  · rcases onLoopLine_calm env input
        (fun line => m.onSubscribed env conn c (c.clientId.getD "") line) here
      with ⟨line, rfl, result⟩ | calm
    · rw [← success, result, same line rfl]
      exact onSubscribed_move here start
    · exact success ▸ .calm calm
  · have touched : Calm conn m (m.touch (c.clientId.getD "")) := touch_calm _
    split at success <;> cases success
    · exact .calm (finish_calm here)
    · exact .calm (touched.trans (raises_calm (m := m.touch _) here))
    · rename_i line
      rw [same line rfl]
      exact onMessage_move touched here start

theorem onAuthenticated_move {clientId : String} {read : Option Json} (here : m.connections.get? conn = some c)
    (start : c.pc = .authenticated clientId) :
    Move env m conn c read (m.onAuthenticated env conn c clientId) := by
  unfold onAuthenticated
  dsimp only
  split
  · rename_i port
    exact .authenticatedControl clientId port start rfl
  · rename_i port
    refine .authenticatedRelay clientId port start ?_
    split_ifs with present
    · exact .inl rfl
    · refine .inr ⟨Bool.eq_false_iff.mpr present, raises_calm ?_⟩
      simp [registerSession, withRuntime, record, setClient, Dict.get?_modify, here]

theorem sendQueued_calm {queue : List Json} (here : m.connections.get? conn = some c)
    (alive : living c.pc = some .relay) :
    Calm conn m (m.sendQueued env conn c queue) := by
  cases queue with
  | nil =>
    have saved : Calm conn m (m.withRuntime { m.runtime with state := m.runtime.state.save }) :=
      Calm.runtime rfl (RelayState.fileKept_save _ _) rfl (fun _ _ found => found) fun _ member => member
    exact saved.trans (broadcast_calm (m := m.withRuntime { m.runtime with state := m.runtime.state.save })
      here alive rfl)
  | cons frame rest => exact send_stay_calm rfl rfl here alive

theorem onSent_move {read : Option Json} (here : m.connections.get? conn = some c)
    (success : m.onSent env conn c = some m') : Move env m conn c read m' := by
  unfold onSent at success
  split at success
  all_goals first | (cases success; done) | (rename_i start; simp only [Option.some.injEq] at success; subst success)
  · exact .calm (begin_calm rfl rfl here (by rw [start]; rfl))
  · rename_i pending
    exact .proving pending start rfl
  · exact onAuthenticated_move here start
  · exact .calm (finish_calm here)
  · exact .calm (stay_calm rfl rfl here (by rw [start]; rfl))
  · have subscribed : Calm conn m (m.withRuntime { m.runtime with
        controlSessions := m.runtime.controlSessions.insert (c.clientId.getD "") conn }) :=
      Calm.runtime rfl (.inl rfl) rfl (fun _ _ found => found) fun _ member => member
    exact .calm (subscribed.trans (broadcast_calm (m := m.withRuntime _) here
      (by rw [start]; rfl) rfl))
  · exact .calm (stay_calm rfl rfl here (by rw [start]; rfl))
  · have drained : Calm conn m (m.withRuntime { m.runtime with
        state := (m.runtime.state.drain (c.clientId.getD "")).1 }) :=
      Calm.runtime rfl (.inl rfl) rfl (fun _ _ found => found) fun _ member => member
    exact .calm (drained.trans (sendQueued_calm (m := m.withRuntime _) here (by rw [start]; rfl)))
  · exact .calm (sendQueued_calm here (by rw [start]; rfl))
  · exact .calm (rebroadcast_calm here start)
  · exact .calm (stay_calm rfl rfl here (by rw [start]; rfl))
  · rename_i recipient destination frame
    exact .delivered recipient destination frame (.inr start) m (.refl conn m) rfl
  · exact .calm (stay_calm rfl rfl here (by rw [start]; rfl))
  · exact .calm (stay_calm rfl rfl here (by rw [start]; rfl))
  · exact .calm (leave_calm rfl rfl rfl)

theorem onLost_move {read : Option Json} (here : m.connections.get? conn = some c)
    (success : m.onLost env conn c = some m') : Move env m conn c read m' := by
  unfold onLost at success
  split at success
  all_goals first | (cases success; done) | (rename_i start; simp only [Option.some.injEq] at success; subst success)
  · exact .calm (finish_calm here)
  · exact .calm (rebroadcast_calm here start)
  · exact .calm (destinationLost_calm here (by rw [start]; rfl))
  · exact .calm (stay_calm rfl rfl here (by rw [start]; rfl))
  · exact .calm (leave_calm rfl rfl rfl)
  · exact .calm (raises_calm here)

theorem setBuffer_here {buffer : List Line} (here : m.connections.get? conn = some c) :
    (m.setBuffer conn buffer).connections.get? conn = some { c with buffer := buffer } := by
  simp [setBuffer, Dict.get?_modify, here]

/-- A JSON line that was read stood at the head of the buffer. -/
theorem reads_line {m₀ : Machine} {c₀ : Connection} {value : Json}
    (reads : Reads m conn c m₀ c₀ (some value)) : ∃ rest, c.buffer = some value :: rest := by
  cases reads with
  | pops head rest buffer => exact ⟨rest, buffer⟩

/-- Resuming a handler takes something from its buffer and makes one move. -/
theorem resume_move {outcome : Outcome} (here : m.connections.get? conn = some c)
    (success : m.resume env conn c outcome draw = some m') :
    ∃ m₀ c₀ line, Reads m conn c m₀ c₀ line ∧ (line ≠ none → outcome = .read) ∧
      Move env m₀ conn c₀ line m' := by
  cases outcome with
  | read =>
    simp only [resume] at success
    split_ifs at success with used
    obtain ⟨unused, unused'⟩ := not_or.mp used
    have fresh : ∀ {buffer}, draw.challenge ∉ (m.setBuffer conn buffer).drawn ∧
        draw.slot ∉ (m.setBuffer conn buffer).drawn := ⟨unused, unused'⟩
    split at success
    · cases success
    · rename_i input buffer next
      unfold nextInput at next
      split at next
      · rename_i value rest found
        cases next
        exact ⟨_, _, _, .pops _ _ found, fun _ => rfl, onRead_move (setBuffer_here here) fresh (by simp) success⟩
      · rename_i rest found
        cases next
        exact ⟨_, _, _, .pops _ _ found, fun _ => rfl, onRead_move (setBuffer_here here) fresh (by simp) success⟩
      · rename_i found
        split_ifs at next
        cases next
        exact ⟨_, _, _, .ends found, fun _ => rfl, onRead_move (setBuffer_here here) fresh (by simp) success⟩
  | sent => exact ⟨m, c, none, .stays, fun some => absurd rfl some, onSent_move here success⟩
  | lost => exact ⟨m, c, none, .stays, fun some => absurd rfl some, onLost_move here success⟩
  | timeout =>
    simp only [resume] at success
    split_ifs at success
    cases success
    exact ⟨m, c, none, .stays, fun some => absurd rfl some, .calm (raises_calm here)⟩
  | overrun =>
    simp only [resume] at success
    split_ifs at success
    cases success
    exact ⟨m, c, none, .stays, fun some => absurd rfl some, .calm (raises_calm here)⟩

/-! ### Footprints -/

/-- How a move takes its own connection from one await to the next. -/
inductive Next (env : Env) (m m' : Machine) (c : Connection) (line : Option Json) (c' : Connection) : Prop
  | enters (client : c'.clientId = c.clientId) (on : c'.pc = c.pc ∨ Enters c c'.pc)
  | bootstraps (port : c.port = .control) (here : c.pc = .hello) (clientId : String)
      (client : c'.clientId = some clientId)
      (on : c'.pc = c.pc ∨ Enters { c with clientId := some clientId } c'.pc)
  | challenges (here : c.pc = .hello ∨ c.pc = .authHello) (client : c'.clientId = c.clientId)
      (pending : Pending) (on : c'.pc = .challenge pending)
  | proves (pending : Pending) (here : c.pc = .challenge pending) (client : c'.clientId = c.clientId)
      (on : c'.pc = .proof pending)
  | proved (pending : Pending) (here : c.pc = .proof pending) (client : c'.clientId = c.clientId)
      (message : Json) (proof : Proof) (on : c'.pc = .authenticated proof.clientId)
      (success : m.runtime.concludeAuthentication env m.now c.port pending message =
        (m'.runtime, .ok (.authenticated proof)))
  | returns (clientId : String) (here : c.pc = .authenticated clientId) (client : c'.clientId = some clientId)
      (on : (c'.pc = .request ∧ c.port = .control) ∨ (c'.pc = .ready ∧ c.port = .relay) ∨ c'.pc = c.pc ∨
        Enters { c with clientId := some clientId } c'.pc)
  | holds (recipient : String) (destination : ConnId) (frame : Json) (here : c.pc = .reading)
      (read : line = some frame) (valid : forwardable (c.clientId.getD "") frame = true)
      (client : c'.clientId = c.clientId) (on : c'.pc = .accepting recipient destination frame)
  | passes (here : living c.pc = some .relay) (client : c'.clientId = c.clientId)
      (recipient : String) (destination : ConnId) (on : c'.pc = .delivering recipient destination)

/-- A move leaves the other connections alone, and what its own has read. -/
theorem move_own {read : Option Json} (here : m.connections.get? conn = some c)
    (move : Move env m conn c read m') :
    (∀ d, d ≠ conn → m'.connections.get? d = m.connections.get? d) ∧
    ∃ c', m'.connections.get? conn = some c' ∧ c'.port = c.port ∧ c'.buffer = c.buffer ∧
      Next env m m' c read c' := by
  have calmly : ∀ {n : Machine} {c₀ : Connection}, Calm conn n m' →
      (∀ d, d ≠ conn → n.connections.get? d = m.connections.get? d) → n.connections.get? conn = some c₀ →
      (∀ d, d ≠ conn → m'.connections.get? d = m.connections.get? d) ∧
      ∃ pc, m'.connections.get? conn = some { c₀ with pc := pc } ∧ (pc = c₀.pc ∨ Enters c₀ pc) := by
    intro n c₀ calm others own
    obtain ⟨pc, own', on⟩ := calm.own c₀ own
    exact ⟨fun d other => (calm.others d other).trans (others d other), pc, own', on⟩
  have calmly' : ∀ {n : Machine}, Calm conn m n →
      (∀ d, d ≠ conn → n.connections.get? d = m.connections.get? d) ∧
      ∃ pc, n.connections.get? conn = some { c with pc := pc } ∧ (pc = c.pc ∨ Enters c pc) :=
    fun calm => ⟨calm.others, calm.own c here⟩
  have renamed : ∀ {id : String}, (∀ d, d ≠ conn → (m.setClient conn id).connections.get? d =
      m.connections.get? d) ∧ (m.setClient conn id).connections.get? conn = some { c with clientId := some id } := by
    intro id
    refine ⟨fun d other => ?_, ?_⟩
    · simp [setClient, Dict.get?_modify, Ne.symm other]
    · simp [setClient, Dict.get?_modify, here]
  have moved : ∀ {n : Machine} {c₀ : Connection} (pc : Pc), n.connections.get? conn = some c₀ →
      (∀ d, d ≠ conn → (n.goto conn pc).connections.get? d = n.connections.get? d) ∧
      (n.goto conn pc).connections.get? conn = some { c₀ with pc := pc } := by
    intro n c₀ pc own
    refine ⟨fun d other => ?_, ?_⟩
    · simp [goto, Dict.get?_modify, Ne.symm other]
    · simp [goto, Dict.get?_modify, own]
  cases move with
  | calm rest =>
    obtain ⟨others, pc, own, on⟩ := calmly rest (fun _ _ => rfl) here
    exact ⟨others, _, own, rfl, rfl, .enters rfl on⟩
  | bootstrapped request port start rest =>
    obtain ⟨others, pc, own, on⟩ := calmly rest renamed.1 renamed.2
    exact ⟨others, _, own, rfl, rfl, .bootstraps port start request.clientId rfl on⟩
  | challenged hello draw rt pending frame start fresh begun result =>
    rw [result]
    obtain ⟨others, own⟩ := moved (n := ({ m.withRuntime rt with
      drawn := draw.challenge :: draw.slot :: m.drawn }.record (.challenged conn draw.challenge)).write conn frame)
      (.challenge pending) here
    exact ⟨others, _, own, rfl, rfl, .challenges start rfl pending rfl⟩
  | proving pending start result =>
    rw [result]
    obtain ⟨others, own⟩ := moved (.proof pending) here
    exact ⟨others, _, own, rfl, rfl, .proves pending start rfl rfl⟩
  | refused pending message start read other rest =>
    obtain ⟨others, pc, own, on⟩ := calmly rest (fun _ _ => rfl) here
    exact ⟨others, _, own, rfl, rfl, .enters rfl on⟩
  | proved pending message proof start read success result =>
    rw [result]
    obtain ⟨others, own⟩ := moved (n := ((m.withRuntime (m.runtime.concludeAuthentication env m.now c.port pending
      message).1).record (.proved conn proof)).write conn (RelayRuntime.answer [("type", .str "authenticated"),
      ("client_id", .str proof.clientId)])) (.authenticated proof.clientId) here
    exact ⟨others, _, own, rfl, rfl, .proved pending start rfl message proof rfl (Prod.ext rfl success)⟩
  | authenticatedControl id port start result =>
    rw [result]
    obtain ⟨others, own⟩ := moved (n := (m.setClient conn id).record (.authenticated conn id))
      .request renamed.2
    exact ⟨fun d other => (others d other).trans (renamed.1 d other), _, own, rfl, rfl,
      .returns id start rfl (.inl ⟨rfl, port⟩)⟩
  | authenticatedRelay id port start result =>
    rcases result with rfl | ⟨_, rest⟩
    · obtain ⟨others, own⟩ := moved (n := ((((m.setClient conn id).record (.authenticated conn id)).registerSession
        conn id).markSeen id).write conn (readyFrame id)) .ready renamed.2
      exact ⟨fun d other => (others d other).trans (renamed.1 d other), _, own, rfl, rfl,
        .returns id start rfl (.inr (.inl ⟨rfl, port⟩))⟩
    · obtain ⟨others, pc, own, on⟩ := calmly rest renamed.1 renamed.2
      exact ⟨others, _, own, rfl, rfl, .returns id start rfl (.inr (.inr on))⟩
  | managed id message start own' read kind rest =>
    obtain ⟨others, pc, own, on⟩ := calmly rest (fun _ _ => rfl) here
    exact ⟨others, _, own, rfl, rfl, .enters rfl on⟩
  | registered id message start own' read rest =>
    obtain ⟨others, pc, own, on⟩ := calmly rest (fun _ _ => rfl) here
    exact ⟨others, _, own, rfl, rfl, .enters rfl on⟩
  | accepting recipient destination frame start read valid m₁ first result =>
    obtain ⟨others, pc, own, _⟩ := calmly' first
    rw [result]
    obtain ⟨others', own'⟩ := moved (.accepting recipient destination frame) own
    exact ⟨fun d other => (others' d other).trans (others d other), _, own', rfl, rfl,
      .holds recipient destination frame start read valid rfl rfl⟩
  | delivered recipient destination frame start m₁ first result =>
    obtain ⟨others, pc, own, _⟩ := calmly' first
    rw [result]
    obtain ⟨others', own'⟩ := moved (n := (m₁.write destination frame).record (.forwarded conn
      (c.clientId.getD "") destination frame)) (.delivering recipient destination) own
    have alive : living c.pc = some .relay := by
      rcases start with ⟨start, _⟩ | start
      · rw [start]
        rfl
      · rw [start]
        rfl
    exact ⟨fun d other => (others' d other).trans (others d other), _, own', rfl, rfl,
      .passes alive rfl recipient destination rfl⟩

/-- A session that a move adds is that of its own connection, whose handshake succeeded. -/
theorem move_sessions {read : Option Json} (move : Move env m conn c read m') :
    (∀ id d, m'.runtime.sessions.get? id = some d → m.runtime.sessions.get? id = some d ∨
      (d = conn ∧ c.port = .relay ∧ c.pc = .authenticated id)) ∧
    ∀ d ∈ m.runtime.closed, d ∈ m'.runtime.closed := by
  have calmly : ∀ {rt : RelayRuntime} {n : Machine}, n.runtime = rt → Calm conn n m' →
      (∀ id d, rt.sessions.get? id = some d → m.runtime.sessions.get? id = some d) →
      (∀ d ∈ m.runtime.closed, d ∈ rt.closed) →
      (∀ id d, m'.runtime.sessions.get? id = some d → m.runtime.sessions.get? id = some d ∨
        (d = conn ∧ c.port = .relay ∧ c.pc = .authenticated id)) ∧
      ∀ d ∈ m.runtime.closed, d ∈ m'.runtime.closed := by
    rintro rt n rfl calm sessions closed
    exact ⟨fun id d found => .inl (sessions id d (calm.sessions id d found)),
      fun d member => calm.closed d (closed d member)⟩
  have kept : (∀ id d, m.runtime.sessions.get? id = some d → m.runtime.sessions.get? id = some d ∨
        (d = conn ∧ c.port = .relay ∧ c.pc = .authenticated id)) ∧
      ∀ d ∈ m.runtime.closed, d ∈ m.runtime.closed := ⟨fun _ _ found => .inl found, fun _ member => member⟩
  cases move with
  | calm rest => exact calmly rfl rest (fun _ _ found => found) fun _ member => member
  | bootstrapped request port start rest =>
    have tables := bootstrap_tables env m.runtime m.wallClock request
    exact calmly rfl rest (fun _ _ found => tables.sessions ▸ found) fun _ member => tables.closed ▸ member
  | challenged hello draw rt pending frame start fresh begun result =>
    obtain ⟨sessions, closed⟩ := begin_tables begun
    rw [result]
    exact ⟨fun id d found => .inl (sessions ▸ found), fun d member => closed ▸ member⟩
  | proving pending start result =>
    rw [result]
    exact kept
  | refused pending message start read other rest =>
    obtain ⟨sessions, closed, _⟩ := conclude_tables env m.runtime m.now c.port pending message
    exact calmly rfl rest (fun _ _ found => sessions ▸ found) fun _ member => closed ▸ member
  | proved pending message proof start read success result =>
    obtain ⟨sessions, closed, _⟩ := conclude_tables env m.runtime m.now c.port pending message
    rw [result]
    exact ⟨fun id d found => .inl (sessions ▸ found), fun d member => closed ▸ member⟩
  | authenticatedControl id port start result =>
    rw [result]
    exact kept
  | authenticatedRelay id port start result =>
    have registered : ∀ other d, (m.runtime.sessions.insert id conn).get? other = some d →
        m.runtime.sessions.get? other = some d ∨ (d = conn ∧ c.port = .relay ∧ c.pc = .authenticated other) := by
      intro other d found
      rw [Dict.get?_insert] at found
      split_ifs at found with same
      · cases found
        exact .inr ⟨rfl, port, same ▸ start⟩
      · exact .inl found
    rcases result with rfl | ⟨_, rest⟩
    · exact ⟨registered, fun _ member => member⟩
    · exact ⟨fun other d found => registered other d (rest.sessions other d found),
        fun d member => rest.closed d member⟩
  | managed id message start own read kind rest =>
    have tables := manage_tables env m.runtime m.now id (message.getD "request" (.obj []))
    exact calmly rfl rest tables.sessions tables.closed
  | registered id message start own read rest =>
    have tables := register_tables env m.runtime m.now id message
    exact calmly rfl rest (fun _ _ found => tables.sessions ▸ found) fun _ member => tables.closed ▸ member
  | accepting recipient destination frame start read valid m₁ first result =>
    rw [result]
    exact ⟨fun id d found => .inl (first.sessions id d found), first.closed⟩
  | delivered recipient destination frame start m₁ first result =>
    rw [result]
    exact ⟨fun id d found => .inl (first.sessions id d found), first.closed⟩

/-- What a move may log besides the frames it writes. -/
inductive Logs (conn : ConnId) (c : Connection) (line : Option Json) : Entry → Prop
  | wrote (d : ConnId) (frame : Json) : Logs conn c line (.wrote d frame)
  | challenged (challenge : String) : Logs conn c line (.challenged conn challenge)
  | proved (pending : Pending) (proof : Proof) (here : c.pc = .proof pending) : Logs conn c line (.proved conn proof)
  | authenticated (clientId : String) (here : c.pc = .authenticated clientId) :
      Logs conn c line (.authenticated conn clientId)
  | forwarded (recipient : String) (d : ConnId) (frame : Json)
      (here : (c.pc = .reading ∧ line = some frame ∧ forwardable (c.clientId.getD "") frame = true) ∨
        c.pc = .accepting recipient d frame) :
      Logs conn c line (.forwarded conn (c.clientId.getD "") d frame)

theorem move_entries {read : Option Json} (move : Move env m conn c read m') :
    ∃ new, m'.log = new ++ m.log ∧ ∀ entry ∈ new, Logs conn c read entry := by
  have calmly : ∀ {n n' : Machine}, Calm conn n n' → ∀ new, n.log = new ++ m.log →
      (∀ entry ∈ new, Logs conn c read entry) →
      ∃ new, n'.log = new ++ m.log ∧ ∀ entry ∈ new, Logs conn c read entry := by
    intro n n' calm new grown logs
    obtain ⟨frames, log⟩ := calm.log
    refine ⟨frames.map (fun f => .wrote f.1 f.2) ++ new, by rw [log, grown, List.append_assoc], ?_⟩
    intro entry member
    rcases List.mem_append.mp member with frame | old
    · obtain ⟨f, _, rfl⟩ := List.mem_map.mp frame
      exact .wrote f.1 f.2
    · exact logs entry old
  cases move with
  | calm rest => exact calmly rest [] rfl (by simp)
  | bootstrapped request port start rest => exact calmly rest [] rfl (by simp)
  | challenged hello draw rt pending frame start fresh begun result =>
    rw [result]
    refine ⟨[.wrote conn frame, .challenged conn draw.challenge], rfl, ?_⟩
    intro entry member
    rcases List.mem_cons.mp member with rfl | member
    · exact .wrote conn frame
    · obtain rfl := List.mem_singleton.mp member
      exact .challenged draw.challenge
  | proving pending start result =>
    rw [result]
    exact ⟨[], rfl, by simp⟩
  | refused pending message start read other rest => exact calmly rest [] rfl (by simp)
  | proved pending message proof start read success result =>
    rw [result]
    refine ⟨[.wrote conn _, .proved conn proof], rfl, ?_⟩
    intro entry member
    rcases List.mem_cons.mp member with rfl | member
    · exact .wrote conn _
    · obtain rfl := List.mem_singleton.mp member
      exact .proved pending proof start
  | authenticatedControl id port start result =>
    rw [result]
    refine ⟨[.authenticated conn id], rfl, ?_⟩
    intro entry member
    obtain rfl := List.mem_singleton.mp member
    exact .authenticated id start
  | authenticatedRelay id port start result =>
    have returned : ∀ entry ∈ [Entry.authenticated conn id], Logs conn c read entry := by
      intro entry member
      obtain rfl := List.mem_singleton.mp member
      exact .authenticated id start
    rcases result with rfl | ⟨_, rest⟩
    · refine ⟨[.wrote conn (readyFrame id), .authenticated conn id], rfl, ?_⟩
      intro entry member
      rcases List.mem_cons.mp member with rfl | member
      · exact .wrote conn _
      · exact returned entry member
    · exact calmly rest _ rfl returned
  | managed id message start own read kind rest => exact calmly rest [] rfl (by simp)
  | registered id message start own read rest => exact calmly rest [] rfl (by simp)
  | accepting recipient destination frame start read valid m₁ first result =>
    obtain ⟨new, log, logs⟩ := calmly first [] rfl (by simp)
    rw [result]
    exact ⟨new, log, logs⟩
  | delivered recipient destination frame start m₁ first result =>
    obtain ⟨new, log, logs⟩ := calmly first [] rfl (by simp)
    rw [result]
    refine ⟨.forwarded conn (c.clientId.getD "") destination frame :: .wrote destination frame :: new, ?_, ?_⟩
    · simp only [Machine.deliver, Machine.goto, Machine.record, Machine.write, log, List.cons_append]
    · intro entry member
      rcases List.mem_cons.mp member with rfl | member
      · exact .forwarded recipient destination frame start
      · rcases List.mem_cons.mp member with rfl | member
        · exact .wrote destination frame
        · exact logs entry member

end Moves

end WispGate.Soundness
