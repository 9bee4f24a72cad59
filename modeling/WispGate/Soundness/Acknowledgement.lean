import WispGate.Soundness.Forwarding

/-! # Acknowledgements

A call of `forward` begins with the line its handler reads and is over when the handler reads
again. In between, the handler writes at most the answer, the frame and catalog updates, so what
decides is the stretch that reads the line: it answers on the connection registered for the sender
at that moment. This is the connection served only as long as no newer one of the same client took
its place.
-/

namespace WispGate.Soundness.Acknowledgement

open Data Model Model.Relay Machine Authentication Revocation Forwarding

/-! ## Calls and their answers -/

/-- The acknowledgement of a frame and the errors that answer one. -/
def answers (message : Json) : List Json :=
  [acceptance message, RelayRuntime.refusal "invalid_envelope", RelayRuntime.refusal "recipient_offline"]

/-- The frames among log entries, oldest first, with the connections they were written to. -/
def frames (entries : List Entry) : List (ConnId × Json) :=
  entries.reverse.filterMap fun
    | .wrote conn frame => some (conn, frame)
    | _ => none

/-- What a handler has logged between reading a line and reading the next, in any interleaving. -/
inductive Call (env : Env) (conn : ConnId) (start : Machine) : Machine → List Entry → Prop
  | reads {draw : Draw} {m : Machine} {new : List Entry}
      (stepped : start.step env (.resume conn .read draw) = some m) (log : m.log = new ++ start.log) :
      Call env conn start m new
  | waits {m m' : Machine} {entries : List Entry} {e : Event} (before : Call env conn start m entries)
      (other : ∀ outcome draw, e ≠ .resume conn outcome draw) (stepped : m.step env e = some m') :
      Call env conn start m' entries
  | resumes {m m' : Machine} {entries new : List Entry} {c : Connection} {outcome : Outcome} {draw : Draw}
      (before : Call env conn start m entries) (here : m.connections.get? conn = some c)
      (within : c.pc ≠ .reading) (stepped : m.step env (.resume conn outcome draw) = some m')
      (log : m'.log = new ++ m.log) : Call env conn start m' (new ++ entries)

/-- The first frame is an answer on the connection itself, and it is the only one. -/
def Acknowledged (conn : ConnId) (message : Json) (entries : List Entry) : Prop :=
  ∃ answer rest, frames entries = (conn, answer) :: rest ∧ answer ∈ answers message ∧
    ∀ f ∈ rest, f.2 ∉ answers message

/-- The sender is registered on the connection itself, and the recipient can be looked up. -/
def Answerable (m : Machine) (conn : ConnId) (sender : String) (message : Json) : Prop :=
  m.runtime.sessions.get? sender = some conn ∧
    (forwardable sender message = true → (message.get "recipient").hashKey? ≠ none)

theorem frames_append (new entries : List Entry) : frames (new ++ entries) = frames entries ++ frames new := by
  simp [frames]

theorem Acknowledged.append {conn : ConnId} {message : Json} {new entries : List Entry}
    (acknowledged : Acknowledged conn message entries) (silent : ∀ f ∈ frames new, f.2 ∉ answers message) :
    Acknowledged conn message (new ++ entries) := by
  obtain ⟨answer, rest, first, member, others⟩ := acknowledged
  refine ⟨answer, rest ++ frames new, by rw [frames_append, first, List.cons_append], member, fun f found => ?_⟩
  rcases List.mem_append.mp found with old | new
  · exact others f old
  · exact silent f new

/-! ## Frames beside the answers -/

section Aside

variable {env : Env} {m m' m'' : Machine} {conn : ConnId} {c : Connection} {message : Json}

/-- Frames that answer no application message. -/
def Silent (frame : Json) : Prop := ∀ message, frame ∉ answers message

theorem acceptance_type (message : Json) : (acceptance message).get "type" = .str "accepted" := by
  unfold acceptance
  split_ifs <;> rfl

theorem refusal_type (error : String) : (RelayRuntime.refusal error).get "type" = .null := rfl

/-- A frame of another type is no answer. -/
theorem silent_of_type {frame : Json} (type : String) (typed : frame.get "type" = .str type)
    (other : type ≠ "accepted") : Silent frame := by
  intro message member
  simp only [answers, List.mem_cons, List.not_mem_nil, or_false] at member
  rcases member with same | same | same
  · rw [same, acceptance_type] at typed
    exact other (Json.str.inj typed).symm
  · rw [same, refusal_type] at typed
    cases typed
  · rw [same, refusal_type] at typed
    cases typed

theorem catalog_silent (items : List Json) :
    Silent (RelayRuntime.answer [("type", .str "catalog_update"), ("items", .arr items)]) :=
  silent_of_type "catalog_update" rfl (by decide)

theorem bootstrap_silent : Silent (RelayRuntime.refusal "invalid_bootstrap") := by
  intro message member
  simp only [answers, List.mem_cons, List.not_mem_nil, or_false] at member
  rcases member with same | same | same
  · have typed := acceptance_type message
    rw [← same, refusal_type] at typed
    cases typed
  · simp [RelayRuntime.refusal] at same
  · simp [RelayRuntime.refusal] at same

theorem application_silent (application : message.get "type" ∈ applicationTypes) : Silent message := by
  simp only [applicationTypes, List.mem_cons, List.not_mem_nil, or_false] at application
  rcases application with type | type | type
  · exact silent_of_type _ type (by decide)
  · exact silent_of_type _ type (by decide)
  · exact silent_of_type _ type (by decide)

/-- Awaits at which a handler has an answer behind it, or is leaving. -/
def ending : Pc → Bool
  | .broadcasting _ _ _ after => decide (after ≠ .subscribed)
  | .reading | .heartbeat | .delivering _ _ | .dropping _ | .answered | .closing | .done => true
  | _ => false

/-- A stretch of a handler that writes no answer and stays where it is or is on its way out. -/
structure Aside (conn : ConnId) (m m' : Machine) : Prop where
  log : ∃ new, m'.log = new ++ m.log ∧ ∀ f ∈ frames new, Silent f.2
  own : ∀ c, m.connections.get? conn = some c →
    ∃ c', m'.connections.get? conn = some c' ∧ (c'.pc = c.pc ∨ ending c'.pc = true)

theorem Aside.refl (conn : ConnId) (m : Machine) : Aside conn m m :=
  ⟨⟨[], rfl, by simp [frames]⟩, fun c here => ⟨c, here, .inl rfl⟩⟩

theorem Aside.trans (first : Aside conn m m') (second : Aside conn m' m'') : Aside conn m m'' := by
  obtain ⟨⟨new, log, silent⟩, own⟩ := first
  obtain ⟨⟨new', log', silent'⟩, own'⟩ := second
  refine ⟨⟨new' ++ new, by rw [log', log, List.append_assoc], fun f member => ?_⟩, fun c here => ?_⟩
  · rw [frames_append] at member
    rcases List.mem_append.mp member with old | late
    · exact silent f old
    · exact silent' f late
  · obtain ⟨c', here', pc⟩ := own c here
    obtain ⟨c'', here'', pc'⟩ := own' c' here'
    refine ⟨c'', here'', ?_⟩
    rcases pc' with same | out
    · rw [same]
      exact pc
    · exact .inr out

theorem runtime_aside (rt : RelayRuntime) : Aside conn m (m.withRuntime rt) :=
  ⟨⟨[], rfl, by simp [frames]⟩, fun c here => ⟨c, here, .inl rfl⟩⟩

theorem write_aside {frame : Json} (silent : Silent frame) (d : ConnId) : Aside conn m (m.write d frame) :=
  ⟨⟨[.wrote d frame], rfl, by simpa [frames] using silent⟩, fun c here => ⟨c, here, .inl rfl⟩⟩

theorem goto_aside {pc : Pc} (out : ending pc = true) : Aside conn m (m.goto conn pc) :=
  ⟨⟨[], rfl, by simp [frames]⟩, fun c here => ⟨{ c with pc := pc }, by simp [goto, Dict.get?_modify, here], .inr out⟩⟩

theorem dropStale_aside (stale : List String) (m : Machine) : Aside conn m (stale.foldl dropControl m) := by
  induction stale generalizing m with
  | nil => exact .refl conn m
  | cons clientId rest ih => exact (runtime_aside _).trans (ih (m.dropControl clientId))

theorem close_aside : Aside conn m (m.close conn) := (runtime_aside _).trans (goto_aside rfl)

theorem continueAfter_aside {after : After} (apart : after ≠ .subscribed) :
    Aside conn m (m.continueAfter conn after) := by
  cases after with
  | reading => exact goto_aside rfl
  | subscribed => exact absurd rfl apart
  | closing => exact close_aside
  | drop d => exact (runtime_aside _).trans (goto_aside rfl)

theorem broadcastNext_aside {rest : List (String × ConnId)} {stale : List String} {after : After}
    (apart : after ≠ .subscribed) (success : m.broadcastNext env conn rest stale after = .ok m') :
    Aside conn m m' := by
  unfold broadcastNext at success
  split at success
  · cases success
    exact (dropStale_aside stale m).trans (continueAfter_aside apart)
  · split at success
    · cases success
    · cases success
      exact (write_aside (catalog_silent _) _).trans (goto_aside (by simp [ending, apart]))

theorem startBroadcast_aside {after : After} (apart : after ≠ .subscribed)
    (success : m.startBroadcast env conn after = .ok m') : Aside conn m m' := by
  unfold startBroadcast at success
  split at success
  · cases success
  · exact broadcastNext_aside apart success

theorem finish_aside : Aside conn m (m.finish env conn c) := by
  unfold finish
  split
  · split_ifs
    · split
      · rename_i success
        exact (runtime_aside _).trans (startBroadcast_aside (by decide) success)
      · exact (runtime_aside _).trans (goto_aside rfl)
    · exact close_aside
  · split_ifs
    · exact (runtime_aside _).trans close_aside
    · exact close_aside
  · exact close_aside

theorem raises_aside (e : PyError) : Aside conn m (m.raises env conn c e) := by
  unfold raises
  split_ifs
  · exact (write_aside bootstrap_silent conn).trans (goto_aside rfl)
  · exact finish_aside

theorem broadcast_aside {after : After} (apart : after ≠ .subscribed) :
    Aside conn m (m.broadcast env conn c after) := by
  unfold broadcast
  split
  · rename_i success
    exact startBroadcast_aside apart success
  · exact raises_aside _

theorem broadcastOn_aside {rest : List (String × ConnId)} {stale : List String} {after : After}
    (apart : after ≠ .subscribed) : Aside conn m (m.broadcastOn env conn c rest stale after) := by
  unfold broadcastOn
  split
  · rename_i success
    exact broadcastNext_aside apart success
  · split_ifs
    · exact goto_aside rfl
    · exact raises_aside _

theorem destinationLost_aside {recipient : String} {d : ConnId} :
    Aside conn m (m.destinationLost env conn c recipient d) := by
  unfold destinationLost
  split_ifs
  · exact (runtime_aside _).trans (broadcast_aside (by simp))
  · exact continueAfter_aside (by simp)

theorem deliver_aside (sender recipient : String) (d : ConnId) (silent : Silent message) :
    Aside conn m (m.deliver conn sender recipient d message) := by
  have written : Aside conn m ((m.write d message).record (.forwarded conn sender d message)) :=
    ⟨⟨[.forwarded conn sender d message, .wrote d message], rfl, by simpa [frames] using silent⟩,
      fun c here => ⟨c, here, .inl rfl⟩⟩
  exact written.trans (goto_aside rfl)

/-- A handler that has its answer behind it writes none. -/
theorem ending_aside {outcome : Outcome} {draw : Draw} (out : ending c.pc = true) (within : c.pc ≠ .reading)
    (success : m.resume env conn c outcome draw = some m') : Aside conn m m' := by
  have unread : readsLine c.pc = false := by
    cases pc : c.pc <;> simp_all [ending, readsLine]
  cases outcome with
  | read =>
    simp only [resume] at success
    split_ifs at success
    split at success
    · cases success
    · unfold onRead at success
      cases pc : c.pc <;> simp_all [readsLine]
  | sent =>
    simp only [resume, onSent] at success
    split at success
    all_goals rename_i pc
    all_goals first
      | (rw [pc] at out; cases out; done)
      | (cases success; first | exact goto_aside rfl | exact finish_aside)
      | skip
    · cases success
      rw [pc] at out
      exact broadcastOn_aside (of_decide_eq_true out)
    · cases success
  | lost =>
    simp only [resume, onLost] at success
    split at success
    all_goals rename_i pc
    · cases success
      exact finish_aside
    · cases success
      rw [pc] at out
      exact broadcastOn_aside (of_decide_eq_true out)
    · cases success
      exact destinationLost_aside
    · cases success
      exact goto_aside rfl
    · cases success
      exact goto_aside rfl
    · cases success
    · cases success
      exact raises_aside _
  | timeout =>
    have untimed : timed c.pc = false := by
      unfold timed
      split
      · rfl
      · exact unread
    simp [resume, untimed] at success
  | overrun => simp [resume, unread] at success

/-- Neither does one that holds an acknowledged frame. -/
theorem accepting_aside {outcome : Outcome} {draw : Draw} {recipient : String} {d : ConnId}
    (on : c.pc = .accepting recipient d message) (silent : Silent message)
    (success : m.resume env conn c outcome draw = some m') : Aside conn m m' := by
  cases outcome with
  | read =>
    simp only [resume] at success
    split_ifs at success
    split at success
    · cases success
    · simp [onRead, on] at success
  | sent =>
    simp only [resume, onSent, on, Option.some.injEq] at success
    subst success
    exact deliver_aside _ _ _ silent
  | lost =>
    simp only [resume, onLost, on, Option.some.injEq] at success
    subst success
    exact raises_aside _
  | timeout => simp [resume, on, timed, readsLine] at success
  | overrun => simp [resume, on, readsLine] at success

end Aside

/-! ## Calls -/

section Calls

variable {env : Env} {m m' start : Machine} {conn : ConnId} {c : Connection} {message : Json} {draw : Draw}
  {rest : List Line} {sender : String}

/-- Other events leave a handler where it is. -/
theorem other_pc {e : Event} (here : m.connections.get? conn = some c)
    (other : ∀ outcome draw, e ≠ .resume conn outcome draw) (stepped : m.step env e = some m') :
    ∃ c', m'.connections.get? conn = some c' ∧ c'.pc = c.pc := by
  rcases step_cases stepped with ⟨d, c', outcome, draw, m₀, c₀, line, rfl, here', reads, -, move⟩ |
    ⟨-, -, -, connections, present⟩
  · have apart : conn ≠ d := fun same => other outcome draw (same ▸ rfl)
    simp only [Machine.step, here'] at stepped
    have unchanged := ((resume_frames here' stepped).1 conn apart).1
    exact ⟨c, unchanged.trans here, rfl⟩
  · obtain ⟨c', here'⟩ := Option.isSome_iff_exists.mp (present conn (by simp [here]))
    rcases connections conn c' here' with ⟨b, known, -, -, pc, -⟩ | ⟨absent, -⟩
    · obtain rfl := Option.some.inj (here.symm.trans known)
      exact ⟨c', here', pc⟩
    · rw [here] at absent
      cases absent

/-- Where a handler may stand in a call. -/
def During (message : Json) (pc : Pc) : Prop :=
  ending pc = true ∨ ∃ recipient destination, pc = .accepting recipient destination message

/-- Once a call has answered on its connection it stays answered, whatever follows. -/
theorem call_acknowledged (silent : Silent message)
    (first : ∀ {draw m new}, start.step env (.resume conn .read draw) = some m → m.log = new ++ start.log →
      Acknowledged conn message new ∧ ∃ c, m.connections.get? conn = some c ∧ During message c.pc)
    {entries : List Entry} (call : Call env conn start m entries) :
    Acknowledged conn message entries ∧ ∃ c, m.connections.get? conn = some c ∧ During message c.pc := by
  induction call with
  | reads stepped log => exact first stepped log
  | waits before other stepped ih =>
    obtain ⟨acknowledged, c, here, during⟩ := ih
    obtain ⟨c', here', pc⟩ := other_pc here other stepped
    exact ⟨acknowledged, c', here', pc ▸ during⟩
  | resumes before here within stepped log ih =>
    rename_i m m' entries new c outcome draw
    obtain ⟨acknowledged, b, known, during⟩ := ih
    obtain rfl := Option.some.inj (known.symm.trans here)
    simp only [Machine.step, here] at stepped
    have aside : Aside conn m m' := by
      rcases during with out | ⟨recipient, destination, on⟩
      · exact ending_aside out within stepped
      · exact accepting_aside on silent stepped
    obtain ⟨⟨late, log', quietly⟩, own⟩ := aside
    obtain rfl := List.append_cancel_right (log.symm.trans log')
    refine ⟨acknowledged.append fun f member => quietly f member message, ?_⟩
    obtain ⟨c', here', pc⟩ := own b here
    refine ⟨c', here', ?_⟩
    rcases pc with same | out
    · exact same ▸ during
    · exact .inl out

theorem acknowledged_single {d : ConnId} {answer : Json} {new : List Entry} (only : frames new = [(d, answer)])
    (member : answer ∈ answers message) : Acknowledged conn message new ↔ d = conn := by
  constructor
  · rintro ⟨_, _, first, -⟩
    rw [only] at first
    exact congrArg (fun f => (f.head?.map Prod.fst).getD conn) first
  · rintro rfl
    exact ⟨answer, [], only, member, by simp⟩

theorem unacknowledged {new : List Entry} (silent : ∀ f ∈ frames new, Silent f.2) :
    ¬ Acknowledged conn message new := by
  rintro ⟨answer, rest, first, member, -⟩
  exact silent (conn, answer) (by simp [first]) message member

/-- What a stretch that reads a frame writes first. -/
structure Answers (m : Machine) (conn : ConnId) (sender : String) (message : Json) (m' : Machine)
    (new : List Entry) : Prop where
  decides : Acknowledged conn message new ↔ Answerable m conn sender message
  during : ∀ c, m.connections.get? conn = some c → c.pc = .reading →
    ∃ c', m'.connections.get? conn = some c' ∧ During message c'.pc

theorem answerSender_answers {answer : Json} {new : List Entry} (member : answer ∈ answers message)
    (hashable : forwardable sender message = true → (message.get "recipient").hashKey? ≠ none)
    (log : (m.answerSender conn sender answer).log = new ++ m.log) :
    Answers m conn sender message (m.answerSender conn sender answer) new := by
  unfold answerSender at log ⊢
  split at log
  · rename_i writer found
    have only : new = [.wrote writer answer] := List.append_cancel_right log.symm
    refine ⟨?_, fun c here _ => ?_⟩
    · rw [acknowledged_single (by rw [only]; rfl) member, Answerable, found, Option.some.injEq]
      exact (and_iff_left hashable).symm
    · exact ⟨{ c with pc := .heartbeat }, by simp [goto, write, record, Dict.get?_modify, here], .inl rfl⟩
  · rename_i absent
    have none : new = [] := List.append_cancel_right (log.symm : new ++ m.log = [] ++ m.log)
    refine ⟨⟨fun acknowledged => absurd acknowledged (unacknowledged (by simp [none, frames])), fun able => ?_⟩,
      fun c here _ => ?_⟩
    · rw [able.1] at absent
      cases absent
    · exact ⟨{ c with pc := .reading }, by simp [goto, Dict.get?_modify, here], .inl rfl⟩

/-- The answer of `forward` reaches its own connection just when that is registered for the sender. -/
theorem forward_answers (application : message.get "type" ∈ applicationTypes) {new : List Entry}
    (log : (m.forward env conn c sender message).log = new ++ m.log) :
    Answers m conn sender message (m.forward env conn c sender message) new := by
  have silent := application_silent application
  rcases forward_cases env m conn c sender message with
    ⟨invalid, result⟩ | ⟨valid, unhashable, result⟩ | ⟨-, hashable, result⟩ |
    ⟨recipient, destination, valid, named, -, ⟨source, registered, result⟩ | ⟨absent, result⟩⟩
  · rw [result] at log ⊢
    exact answerSender_answers (by simp [answers]) (by simp [invalid]) log
  · rw [result] at log ⊢
    obtain ⟨⟨late, log', quietly⟩, own⟩ := raises_aside (m := m) (c := c) .type
    obtain rfl := List.append_cancel_right (log.symm.trans log')
    refine ⟨⟨fun acknowledged => absurd acknowledged (unacknowledged quietly), fun able => ?_⟩, fun b here on => ?_⟩
    · exact absurd unhashable (able.2 valid)
    · obtain ⟨c', here', pc⟩ := own b here
      exact ⟨c', here', .inl (pc.elim (fun same => by rw [same, on]; rfl) id)⟩
  · rw [result] at log ⊢
    exact answerSender_answers (by simp [answers]) (fun _ => hashable) log
  · rw [result] at log ⊢
    have only : new = [.wrote source (acceptance message)] := List.append_cancel_right log.symm
    refine ⟨?_, fun b here _ => ?_⟩
    · rw [acknowledged_single (by rw [only]; rfl) (by simp [answers]), Answerable, registered]
      simp [named, Json.hashKey?]
    · exact ⟨{ b with pc := .accepting recipient destination message },
        by simp [goto, write, record, Dict.get?_modify, here], .inr ⟨recipient, destination, rfl⟩⟩
  · rw [result] at log ⊢
    obtain ⟨⟨late, log', quietly⟩, own⟩ := deliver_aside sender recipient destination silent
    obtain rfl := List.append_cancel_right (log.symm.trans log')
    refine ⟨⟨fun acknowledged => absurd acknowledged (unacknowledged quietly), fun able => ?_⟩, fun b here on => ?_⟩
    · rw [able.1] at absent
      cases absent
    · obtain ⟨c', here', pc⟩ := own b here
      exact ⟨c', here', .inl (pc.elim (fun same => by rw [same, on]; rfl) id)⟩

/-- In every run and for every application frame read in it: the handler answers the frame once, on
the frame's own connection and before it writes anything else, just when the sender is registered
there and the recipient of a frame that passes the checks can be looked up. -/
theorem acknowledgement (env : Env) (reach : Reach (Machine.step env) anyStep (Machine.Started env) m)
    (here : m.connections.get? conn = some c) (reading : c.pc = .reading)
    (buffer : c.buffer = some message :: rest)
    (application : message.isObj = true ∧ message.get "type" ∈ applicationTypes)
    (stepped : m.step env (.resume conn .read draw) = some m') :
    ∃ sender, c.clientId = some sender ∧
      ((∀ t entries, Call env conn m t entries → Acknowledged conn message entries) ↔
        Answerable m conn sender message) := by
  obtain ⟨sender, client, -⟩ := ((reach_secure reach).owners conn c here).1 (by rw [reading]; rfl)
  refine ⟨sender, client, ?_⟩
  have first : ∀ {draw t new}, m.step env (.resume conn .read draw) = some t → t.log = new ++ m.log →
      Answers ((m.setBuffer conn rest).touch sender) conn sender message t new := by
    intro draw t new stepped log
    have result := step_reading here reading buffer stepped
    rw [onMessage_forward application, client, Option.getD_some] at result
    rw [result] at log ⊢
    exact forward_answers application.2 log
  have same : Answerable ((m.setBuffer conn rest).touch sender) conn sender message ↔
      Answerable m conn sender message := Iff.rfl
  constructor
  · intro always
    obtain ⟨new, log⟩ := step_log stepped
    exact same.mp ((first stepped log.symm).decides.mp (always m' new (.reads stepped log.symm)))
  · intro able t entries call
    refine (call_acknowledged (application_silent application.2) (fun stepped log => ?_) call).1
    have answers := first stepped log
    exact ⟨answers.decides.mpr (same.mpr able), answers.during _ (setBuffer_here here) reading⟩

end Calls

/-! ## A frame that is answered and one that is not -/

/-- `alice` has sent a frame on her only connection. -/
def answeredMachine : Machine :=
  (replay (Machine.step sampleEnv) startedMachine (establishedEvents ++ [.receive 0 (some sampleFrame)])).getD {}

theorem acknowledgement_registered :
    (answeredMachine.connections.get? 0).map (·.buffer) = some [some sampleFrame] ∧
      ∀ t entries, Call sampleEnv 0 answeredMachine t entries → Acknowledged 0 sampleFrame entries := by
  have reach : Reach (Machine.step sampleEnv) anyStep (Machine.Started sampleEnv) answeredMachine :=
    Reach.of_defined startedMachine_started (by decide +kernel)
  have here : answeredMachine.connections.get? 0 =
      some ⟨.relay, some "alice", [some sampleFrame], false, .reading⟩ := by decide +kernel
  have defined : (answeredMachine.step sampleEnv (.resume 0 .read ⟨"first", "first"⟩)).isSome = true := by
    decide +kernel
  obtain ⟨m', stepped⟩ := Option.isSome_iff_exists.mp defined
  obtain ⟨sender, client, answered⟩ := acknowledgement sampleEnv reach here rfl rfl (by decide) stepped
  obtain rfl := Option.some.inj client
  exact ⟨congrArg (Option.map Connection.buffer) here, answered.mpr ⟨by decide +kernel, fun _ => by decide⟩⟩

/-- `alice` has connected again before the relay reads the frame of her first connection. -/
def supersededEvents : List Event :=
  establishedEvents ++
    [.connect 2 .relay,
      .receive 2 (some (.obj [("role", .str "relay"), ("client_id", .str "alice"), ("public_key", .str "alice-key")])),
      .resume 2 .read ⟨"second challenge", "second slot"⟩, .resume 2 .sent ⟨"", ""⟩,
      .receive 2 (some (.obj [("type", .str "auth_proof"), ("signature", .str ("alice-key" ++ authTranscript sampleEnv
        "relay" "alice" "second challenge" (.str "") (.str "") (.str "")))])),
      .resume 2 .read ⟨"unused", "unused"⟩, .resume 2 .sent ⟨"", ""⟩, .receive 0 (some sampleFrame)]

def supersededMachine : Machine := (replay (Machine.step sampleEnv) startedMachine supersededEvents).getD {}

/-- The acknowledgement of that frame is written to the second connection. -/
theorem acknowledgement_superseded : ¬ ∀ (env : Env) (m m' : Machine) (conn : ConnId) (c : Connection)
    (message : Json) (rest : List Line) (draw : Draw), Reach (Machine.step env) anyStep (Machine.Started env) m →
    m.connections.get? conn = some c → c.pc = .reading → c.buffer = some message :: rest →
    message.isObj = true ∧ message.get "type" ∈ applicationTypes →
    m.step env (.resume conn .read draw) = some m' →
    ∀ t entries, Call env conn m t entries → Acknowledged conn message entries := by
  intro claim
  have reach : Reach (Machine.step sampleEnv) anyStep (Machine.Started sampleEnv) supersededMachine :=
    Reach.of_defined startedMachine_started (by decide +kernel)
  have here : supersededMachine.connections.get? 0 =
      some ⟨.relay, some "alice", [some sampleFrame], false, .reading⟩ := by decide +kernel
  have defined : (supersededMachine.step sampleEnv (.resume 0 .read ⟨"first", "first"⟩)).isSome = true := by
    decide +kernel
  obtain ⟨m', stepped⟩ := Option.isSome_iff_exists.mp defined
  have log : m'.log = [.wrote 2 (acceptance sampleFrame)] ++ supersededMachine.log := by
    have read : (supersededMachine.step sampleEnv (.resume 0 .read ⟨"first", "first"⟩)).map (·.log) =
        some ([.wrote 2 (acceptance sampleFrame)] ++ supersededMachine.log) := by decide +kernel
    rw [stepped] at read
    exact Option.some.inj read
  obtain ⟨answer, others, first, -⟩ := claim sampleEnv supersededMachine m' 0 _ sampleFrame [] _ reach here rfl rfl
    (by decide) stepped m' _ (.reads stepped log)
  have elsewhere : (2 : ConnId) = 0 := congrArg Prod.fst (List.cons.inj first).1
  cases elsewhere

end WispGate.Soundness.Acknowledgement
