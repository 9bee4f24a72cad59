import WispGate.Data.Holders
import WispGate.Soundness.Registry

/-! # The table of challenges

A handshake puts its challenge into a table before it waits for the proof, and takes it out when a line
was read. A handshake that ends otherwise, in a timeout, at the end of the stream, at a line that is no
JSON or with its connection, leaves the challenge behind. In the runs in which none does, the table
lists the handshakes that wait.
-/

namespace WispGate.Soundness.Challenges

open Data Model Model.Relay Model.Relay.Machine Authentication

/-! ## Waiting handshakes -/

/-- The slot in which a handshake's challenge is kept while the handshake waits. -/
def slot? (c : Connection) : Option String := (handshake c.pc).map (·.slot)

/-- The table of challenges has one entry for each handshake that waits, and no other. -/
def Exact (m : Machine) : Prop := m.runtime.authChallenges.keys.Perm (m.connections.values.filterMap slot?)

/-- The await of a handshake ends in what the client is asked for: the challenge goes out, or a line is
read that is JSON. -/
def answers (c : Connection) : Outcome → Bool
  | .sent => true
  | .read => (c.buffer.head?.getD none).isSome
  | _ => false

/-- No waiting handshake ends without its proof. -/
def Orderly (m : Machine) : Event → Prop
  | .resume conn outcome _ => ∀ c ∈ m.connections.get? conn, (handshake c.pc).isSome = true → answers c outcome = true
  | _ => True

instance (m : Machine) : (e : Event) → Decidable (Orderly m e)
  | .resume conn outcome _ => inferInstanceAs (Decidable (∀ c ∈ m.connections.get? conn,
      (handshake c.pc).isSome = true → answers c outcome = true))
  | .connect _ _ | .receive _ _ | .hangup _ | .tick _ => inferInstanceAs (Decidable True)

/-- What a connection holds of the table. -/
def holding (m : Machine) (conn : ConnId) : Option String := (m.connections.get? conn).bind slot?

def Matched (m : Machine) : Prop := Held m.runtime.authChallenges (holding m)

section Steps

variable {env : Env} {m m' n : Machine} {conn : ConnId} {c c' : Connection}

theorem Matched.exact (matched : Matched m) : Exact m := matched.perm

theorem holding_here (here : m.connections.get? conn = some c) : holding m conn = slot? c := by
  rw [holding, here, Option.bind_some]

theorem slot?_idle (idle : handshake c.pc = none) : slot? c = none := by
  rw [slot?, idle, Option.map_none]

theorem holding_update (others : ∀ d, d ≠ conn → m'.connections.get? d = m.connections.get? d)
    (own : m'.connections.get? conn = some c') : holding m' = Function.update (holding m) conn (slot? c') := by
  funext d
  by_cases same : d = conn
  · rw [same, Function.update_self, holding_here own]
  · rw [Function.update_of_ne same, holding, holding, others d same]

/-! ### Handlers outside a handshake -/

theorem enters_idle {pc : Pc} (idle : handshake c.pc = none) (on : pc = c.pc ∨ Enters c pc) : handshake pc = none := by
  rcases on with rfl | enters
  · exact idle
  · have still := enters.still
    cases pc <;> first | rfl | cases still

theorem calm_idle (calm : Calm conn n m') (own : n.connections.get? conn = some c) (idle : handshake c.pc = none) :
    m'.runtime.authChallenges = n.runtime.authChallenges ∧
      ∃ c', m'.connections.get? conn = some c' ∧ handshake c'.pc = none := by
  obtain ⟨pc, own', on⟩ := calm.own c own
  exact ⟨calm.challenges, _, own', enters_idle idle on⟩

/-- A handler outside a handshake stays outside and leaves the table alone, or issues a challenge. -/
theorem move_idle {line : Option Json} (here : m.connections.get? conn = some c) (idle : handshake c.pc = none)
    (move : Move env m conn c line m') : (m'.runtime.authChallenges = m.runtime.authChallenges ∧
      ∃ c', m'.connections.get? conn = some c' ∧ handshake c'.pc = none) ∨
    ∃ (draw : Draw) (challenge : Challenge) (c' : Connection), draw.slot ∉ m.drawn ∧
      m'.runtime.authChallenges = m.runtime.authChallenges.insert draw.slot challenge ∧
      m'.connections.get? conn = some c' ∧ slot? c' = some draw.slot := by
  have renamed : ∀ id, (m.setClient conn id).connections.get? conn = some { c with clientId := some id } := by
    intro id
    simp [setClient, Dict.get?_modify, here]
  have moved : ∀ {n : Machine} {c₀ : Connection} (pc : Pc), n.connections.get? conn = some c₀ →
      (n.goto conn pc).connections.get? conn = some { c₀ with pc := pc } := by
    intro n c₀ pc own
    simp [goto, Dict.get?_modify, own]
  cases move with
  | calm rest => exact .inl (calm_idle rest here idle)
  | bootstrapped request port start rest =>
    obtain ⟨same, own⟩ := calm_idle rest (renamed request.clientId) idle
    exact .inl ⟨same.trans (bootstrap_tables env m.runtime m.wallClock request).challenges, own⟩
  | challenged hello draw rt pending frame start fresh begun result =>
    obtain ⟨challenge, rfl, -, -, slot, -⟩ := begin_spec begun
    rw [result]
    refine .inr ⟨draw, challenge, { c with pc := .challenge pending }, fresh.2, rfl, ?_, ?_⟩
    · simp [send, goto, write, Machine.record, withRuntime, Dict.get?_modify, here]
    · rw [← slot]
      rfl
  | proving pending start result => simp [start, handshake] at idle
  | refused pending message start read other rest => simp [start, handshake] at idle
  | proved pending message proof start read success result => simp [start, handshake] at idle
  | authenticatedControl id port start result =>
    rw [result]
    exact .inl ⟨rfl, _, moved (n := (m.setClient conn id).record (.authenticated conn id)) .request (renamed id), rfl⟩
  | authenticatedRelay id port start result =>
    rcases result with rfl | ⟨-, rest⟩
    · exact .inl ⟨rfl, _, moved (n := ((((m.setClient conn id).record (.authenticated conn id)).registerSession
        conn id).markSeen id).write conn (readyFrame id)) .ready (renamed id), rfl⟩
    · obtain ⟨same, own⟩ := calm_idle rest (renamed id) idle
      exact .inl ⟨same, own⟩
  | managed id message start own read kind rest =>
    obtain ⟨same, own⟩ := calm_idle rest here idle
    exact .inl ⟨same.trans (manage_tables env m.runtime m.now id _).challenges, own⟩
  | registered id message start own read rest =>
    obtain ⟨same, own⟩ := calm_idle rest here idle
    exact .inl ⟨same.trans (register_tables env m.runtime m.now id message).challenges, own⟩
  | accepting recipient destination frame start read valid m₁ first result =>
    obtain ⟨pc, own, -⟩ := first.own c here
    rw [result]
    exact .inl ⟨first.challenges, _, moved _ own, rfl⟩
  | delivered recipient destination frame start m₁ first result =>
    obtain ⟨pc, own, -⟩ := first.own c here
    rw [result]
    exact .inl ⟨first.challenges, _, moved (n := (m₁.write destination frame).record (.forwarded conn
      (c.clientId.getD "") destination frame)) (.delivering recipient destination) own, rfl⟩

/-! ### Handlers that wait for a proof -/

theorem finish_ended (here : m.connections.get? conn = some c') : Registry.Ended (m.finish env conn c) conn := by
  unfold finish
  split
  · rename_i clientId _ _
    split_ifs
    · split
      · rename_i started
        exact Registry.startBroadcast_ended (m := m.dropSession clientId) here started
      · exact Registry.goto_ended (m := m.dropSession clientId) here rfl
    · exact Registry.goto_ended (m := m.closeWriter conn) here rfl
  · rename_i clientId _ _
    split_ifs
    · exact Registry.goto_ended (m := (m.dropControl clientId).closeWriter conn) here rfl
    · exact Registry.goto_ended (m := m.closeWriter conn) here rfl
  · exact Registry.goto_ended (m := m.closeWriter conn) here rfl

/-- An exception ends a handshake and leaves the table as it is. -/
theorem raises_leaves (e : PyError) (here : m.connections.get? conn = some c) :
    (m.raises env conn c e).runtime.authChallenges = m.runtime.authChallenges ∧
      ∃ c', (m.raises env conn c e).connections.get? conn = some c' ∧ slot? c' = none := by
  refine ⟨(raises_calm here).challenges, ?_⟩
  unfold raises
  split_ifs
  · exact ⟨{ c with pc := .answered }, by simp [send, goto, write, Machine.record, Dict.get?_modify, here], rfl⟩
  · obtain ⟨c', own, last⟩ := @finish_ended env m conn c c here
    refine ⟨c', own, slot?_idle ?_⟩
    cases on : c'.pc <;> first | rfl | simp [on, Registry.leaving] at last

/-- A line that was read takes the challenge out of the table and ends the handshake. -/
theorem onProof_leaves {pending : Pending} (line : Json) (here : m.connections.get? conn = some c) :
    (m.onProof env conn c pending line).runtime.authChallenges = m.runtime.authChallenges.erase pending.slot ∧
      ∃ c', (m.onProof env conn c pending line).connections.get? conn = some c' ∧ slot? c' = none := by
  have used := (conclude_tables env m.runtime m.now c.port pending line).2.2
  have answered : ∀ (rt : RelayRuntime) (frame : Json), ∃ c',
      ((m.withRuntime rt).send conn frame .answered).connections.get? conn = some c' ∧ slot? c' = none := fun rt frame =>
    ⟨{ c with pc := .answered },
      by simp [send, goto, write, Machine.record, withRuntime, Dict.get?_modify, here], rfl⟩
  unfold onProof
  split
  · rename_i rt e result
    rw [result] at used
    obtain ⟨same, own⟩ := @raises_leaves env (m.withRuntime rt) conn c e here
    exact ⟨same.trans used, own⟩
  · rename_i rt frame result
    rw [result] at used
    exact ⟨used, answered rt frame⟩
  · rename_i rt proof result
    rw [result] at used
    refine ⟨used, { c with pc := .authenticated proof.clientId }, ?_, rfl⟩
    simp [send, goto, write, Machine.record, withRuntime, Dict.get?_modify, here]

/-- A handshake goes on, or ends and takes its challenge out, if it is answered; otherwise it ends. -/
theorem resume_waiting {pending : Pending} {outcome : Outcome} {draw : Draw} (here : m.connections.get? conn = some c)
    (waiting : handshake c.pc = some pending) (resumed : m.resume env conn c outcome draw = some m') :
    ∃ c', m'.connections.get? conn = some c' ∧
      (answers c outcome = true ∧ m'.runtime.authChallenges = m.runtime.authChallenges ∧ slot? c' = some pending.slot ∨
        answers c outcome = true ∧ m'.runtime.authChallenges = m.runtime.authChallenges.erase pending.slot ∧
          slot? c' = none ∨
        answers c outcome = false ∧ m'.runtime.authChallenges = m.runtime.authChallenges ∧ slot? c' = none) := by
  have leaves : ∀ e, answers c outcome = false → m' = m.raises env conn c e → ∃ c',
      m'.connections.get? conn = some c' ∧ answers c outcome = false ∧
        m'.runtime.authChallenges = m.runtime.authChallenges ∧ slot? c' = none := by
    rintro e unanswered rfl
    obtain ⟨same, c', own, idle⟩ := @raises_leaves env m conn c e here
    exact ⟨c', own, unanswered, same, idle⟩
  have stands : c.pc = .challenge pending ∨ c.pc = .proof pending := by
    cases on : c.pc <;> simp_all [handshake]
  cases outcome with
  | read =>
    simp only [resume] at resumed
    split_ifs at resumed
    split at resumed
    · cases resumed
    · rename_i input buffer next
      rcases stands with start | start
      · simp [onRead, start] at resumed
      · simp only [onRead, start, Option.some.injEq] at resumed
        have there : (m.setBuffer conn buffer).connections.get? conn = some { c with buffer := buffer } :=
          setBuffer_here here
        obtain ⟨same, c', own, idle⟩ := @raises_leaves env _ conn _ .value there
        unfold nextInput at next
        split at next
        · rename_i value rest found
          cases next
          obtain ⟨used, c', own, idle⟩ := @onProof_leaves env _ conn _ pending value there
          exact ⟨c', resumed ▸ own, .inr (.inl ⟨by simp [answers, found], resumed ▸ used, idle⟩)⟩
        · rename_i rest found
          cases next
          exact ⟨c', resumed ▸ own, .inr (.inr ⟨by simp [answers, found], resumed ▸ same, idle⟩)⟩
        · rename_i found
          split_ifs at next
          cases next
          exact ⟨c', resumed ▸ own, .inr (.inr ⟨by simp [answers, found], resumed ▸ same, idle⟩)⟩
  | sent =>
    rcases stands with start | start
    · simp only [resume, onSent, start, Option.some.injEq] at resumed
      refine ⟨{ c with pc := .proof pending }, ?_, .inl ⟨rfl, ?_, rfl⟩⟩
      · rw [← resumed]
        simp [goto, Dict.get?_modify, here]
      · rw [← resumed]
        rfl
    · simp [resume, onSent, start] at resumed
  | lost =>
    have raised : m' = m.raises env conn c .connection := by
      rcases stands with start | start <;> simpa [resume, onLost, start, eq_comm] using resumed
    obtain ⟨c', own, ended⟩ := leaves .connection rfl raised
    exact ⟨c', own, .inr (.inr ended)⟩
  | timeout =>
    simp only [resume] at resumed
    split_ifs at resumed
    obtain ⟨c', own, ended⟩ := leaves .timeout rfl (Option.some.inj resumed).symm
    exact ⟨c', own, .inr (.inr ended)⟩
  | overrun =>
    simp only [resume] at resumed
    split_ifs at resumed
    obtain ⟨c', own, ended⟩ := leaves .value rfl (Option.some.inj resumed).symm
    exact ⟨c', own, .inr (.inr ended)⟩

/-! ### Steps -/

/-- A step without a move leaves every handler where it is. -/
theorem holding_still (connections : ∀ d c', m'.connections.get? d = some c' → (∃ c, m.connections.get? d = some c ∧
      c'.port = c.port ∧ c'.clientId = c.clientId ∧ c'.pc = c.pc ∧
      (c'.buffer = c.buffer ∨ ¬ m.runtime.closed.contains d = true)) ∨
      (m.connections.get? d = none ∧ ∃ port, c' = { port }))
    (known : ∀ d, (m.connections.get? d).isSome → (m'.connections.get? d).isSome) : holding m' = holding m := by
  funext d
  unfold holding
  cases found : m'.connections.get? d with
  | none =>
    have absent : m.connections.get? d = none := by
      by_contra present
      have still := known d (Option.isSome_iff_ne_none.mpr present)
      simp [found] at still
    rw [absent]
  | some c' =>
    rcases connections d c' found with ⟨c, here, -, -, pc, -⟩ | ⟨absent, port, rfl⟩
    · rw [here, Option.bind_some, Option.bind_some, slot?, slot?, pc]
    · rw [absent]
      rfl

/-- Resuming a handler keeps the table in step with the waiting handshakes if and only if it ends none
without its proof. -/
theorem Matched.resume (secure : Secure env m) (matched : Matched m) {outcome : Outcome} {draw : Draw}
    (here : m.connections.get? conn = some c) (resumed : m.resume env conn c outcome draw = some m') :
    (Orderly m (.resume conn outcome draw) → Matched m') ∧ (¬ Orderly m (.resume conn outcome draw) → ¬ Exact m') := by
  obtain ⟨m₀, c₀, line, reads, -, move⟩ := resume_move here resumed
  obtain ⟨here₀, runtime, drawn, -, -, others₀, buffer, rfl⟩ := reads_here here reads
  have others : ∀ d, d ≠ conn → m'.connections.get? d = m.connections.get? d := fun d other =>
    ((move_own here₀ move).1 d other).trans (others₀ d other)
  cases waiting : handshake c.pc with
  | none =>
    have orderly : Orderly m (.resume conn outcome draw) := by
      intro c' found wait
      obtain rfl : c = c' := Option.some.inj (here.symm.trans found)
      rw [waiting] at wait
      cases wait
    have nothing : holding m conn = none := (holding_here here).trans (slot?_idle waiting)
    refine ⟨fun _ => ?_, fun loses => absurd orderly loses⟩
    rcases move_idle here₀ waiting move with ⟨same, c', own, idle⟩ | ⟨draw, challenge, c', fresh, issued, own, slot⟩
    · have kept : holding m' = holding m := by
        rw [holding_update others own, slot?_idle idle, ← nothing, Function.update_eq_self]
      rw [Matched, same, runtime, kept]
      exact matched
    · rw [Matched, issued, runtime, holding_update others own, slot]
      refine Held.insert matched (fun mem => ?_) nothing challenge
      obtain ⟨d, held⟩ := (matched.entries draw.slot).mp mem
      obtain ⟨other, found, holds⟩ := Option.bind_eq_some_iff.mp held
      obtain ⟨pending, stands, slot⟩ := Option.map_eq_some_iff.mp holds
      exact fresh (drawn ▸ slot ▸ (secure.pendings d other pending found stands).drawn)
  | some pending =>
    have holds : holding m conn = some pending.slot := by
      rw [holding_here here, slot?, waiting, Option.map_some]
    have orderly_iff : Orderly m (.resume conn outcome draw) ↔ answers c outcome = true := by
      simp [Orderly, here, waiting]
    rw [orderly_iff]
    obtain ⟨c', own, ⟨answered, same, slot⟩ | ⟨answered, used, idle⟩ | ⟨unanswered, same, idle⟩⟩ :=
      resume_waiting here waiting resumed
    · refine ⟨fun _ => ?_, fun loses => absurd answered loses⟩
      rw [Matched, same, holding_update others own, slot, ← holds, Function.update_eq_self]
      exact matched
    · refine ⟨fun _ => ?_, fun loses => absurd answered loses⟩
      rw [Matched, used, holding_update others own, idle]
      exact matched.erase holds
    · refine ⟨fun answered => absurd answered (by simp [unanswered]), fun _ exact => ?_⟩
      obtain ⟨left, unheld⟩ := matched.orphan holds
      rw [← same] at left
      obtain ⟨other, mem, slot⟩ := List.mem_filterMap.mp (exact.mem_iff.mp left)
      obtain ⟨d, found⟩ := (Dict.mem_values_iff ..).mp mem
      refine unheld d ?_
      rw [← idle, ← holding_update others own, holding_here found, slot]

theorem Matched.step (secure : Secure env m) (matched : Matched m) {e : Event} (stepped : m.step env e = some m') :
    (Orderly m e → Matched m') ∧ (¬ Orderly m e → ¬ Exact m') := by
  cases e with
  | resume conn outcome draw =>
    simp only [Machine.step] at stepped
    split at stepped
    · cases stepped
    · rename_i c here
      exact matched.resume secure here stepped
  | _ =>
    rcases step_cases stepped with ⟨_, _, _, _, _, _, _, resumes, -⟩ | ⟨runtime, -, -, connections, known⟩
    · cases resumes
    · refine ⟨fun _ => ?_, fun loses => absurd trivial loses⟩
      rw [Matched, runtime, holding_still connections known]
      exact matched

end Steps

/-! ## Runs -/

theorem started_matched {env : Env} {m : Machine} (started : m.Started env) : Matched m := by
  obtain ⟨⟨-, -, -, challenges, connections, -⟩, -⟩ := started
  have nobody : holding m = fun _ => none := by
    funext d
    rw [holding, connections, Dict.get?_empty, Option.bind_none]
  rw [Matched, challenges, nobody]
  exact Held.empty

theorem reach_matched {env : Env} {m : Machine} (reach : Reach (Machine.step env) Orderly (Machine.Started env) m) :
    Matched m := by
  refine reach.invariant Matched (fun _ => started_matched) ?_
  intro m e m' before matched orderly stepped
  exact (matched.step (reach_secure before) stepped).1 orderly

/-- In every run in which no handshake ends without its proof, the table of challenges has one entry for
each handshake that waits and no other; and the first step that ends one so breaks that. -/
theorem challenges_exact (env : Env) {m : Machine} (reach : Reach (Machine.step env) Orderly (Machine.Started env) m) :
    Exact m ∧ ∀ e m', m.step env e = some m' → (Exact m' ↔ Orderly m e) := by
  have matched := reach_matched reach
  refine ⟨matched.exact, fun e m' stepped => ?_⟩
  obtain ⟨keeps, breaks⟩ := matched.step (reach_secure reach) stepped
  exact ⟨fun exact => by_contra fun loses => breaks loses exact, fun orderly => (keeps orderly).exact⟩

/-- `alice` is authenticated, and `bob` has not answered yet. -/
def waitingRun : List Event :=
  Revocation.handshakeOf 0 .control "alice" "alice-key" ++ (Revocation.handshakeOf 1 .relay "bob" "bob-key").take 4

def waitingMachine : Machine :=
  (replay (guarded (Machine.step sampleEnv) Orderly) Revocation.startedMachine waitingRun).getD {}

theorem challenges_exact_waiting : Exact waitingMachine ∧
    waitingMachine.runtime.authChallenges.keys = ["slot of bob"] := by
  have reach : Reach (Machine.step sampleEnv) Orderly (Machine.Started sampleEnv) waitingMachine :=
    Reach.of_guarded_defined Revocation.startedMachine_started (by decide)
  exact ⟨(challenges_exact sampleEnv reach).1, by decide⟩

/-- `bob` never answers, and the relay stops waiting. -/
def abandonedMachine : Machine :=
  (replay (Machine.step sampleEnv) Revocation.startedMachine (waitingRun ++ [.resume 1 .timeout ⟨"", ""⟩])).getD {}

/-- After the timeout nobody waits, and the challenge is still there. -/
theorem challenges_left : ¬ ∀ (env : Env) (m : Machine),
    Reach (Machine.step env) anyStep (Machine.Started env) m → Exact m := by
  intro claim
  have reach : Reach (Machine.step sampleEnv) anyStep (Machine.Started sampleEnv) abandonedMachine :=
    Reach.of_defined Revocation.startedMachine_started (by decide)
  have fewer : (abandonedMachine.connections.values.filterMap slot?).length ≠
      abandonedMachine.runtime.authChallenges.keys.length := by decide
  exact fewer (claim sampleEnv abandonedMachine reach).length_eq.symm

end WispGate.Soundness.Challenges
