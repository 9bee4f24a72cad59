import Mathlib.Data.List.Induction
import WispGate.Soundness.Revocation

/-! # Frames through the relay

A frame is looked up, acknowledged and delivered in separate stretches of its handler, while other
handlers replace and forget sessions. What a connection has forwarded, the frame it holds and the
lines it has not read are, in this order, a part of what it received; that gives order and
uniqueness at once. The acknowledgement goes to the connection registered for the sender, which is
the connection served as long as nothing replaced it.
-/

namespace WispGate.Soundness.Forwarding

open Data Model Model.Relay Machine Authentication Revocation

/-! ## What a connection received and what it forwarded -/

/-- The JSON lines that reached the relay on a connection. -/
def received (conn : ConnId) (events : List Event) : List Json :=
  events.filterMap fun
    | .receive d (some line) => if d = conn then some line else none
    | _ => none

/-- A frame that was forwarded, with its sender and the connection it was written to. -/
structure Forwarded where
  sender : String
  destination : ConnId
  frame : Json
deriving DecidableEq

/-- What was forwarded for a connection, oldest first. -/
def forwardedOn (conn : ConnId) (log : List Entry) : List Forwarded :=
  log.reverse.filterMap fun
    | .forwarded d sender destination frame => if d = conn then some ⟨sender, destination, frame⟩ else none
    | _ => none

/-- The frames among them that went to one destination. -/
def forwardedTo (conn destination : ConnId) (log : List Entry) : List Json :=
  ((forwardedOn conn log).filter fun entry => decide (entry.destination = destination)).map (·.frame)

/-- The frame of an await that waits for its acknowledgement to leave. -/
def held : Pc → List Json
  | .accepting _ _ frame => [frame]
  | _ => []

/-- What of a connection's lines may still be forwarded. -/
def outstanding (m : Machine) (conn : ConnId) : List Json :=
  match m.connections.get? conn with
  | none => []
  | some c => held c.pc ++ c.buffer.filterMap id

/-- The moment of a run at which the frame of a connection after so many was read and its recipient
looked up. -/
def LookedUp (env : Env) (start : Machine) (events : List Event) (conn : ConnId) (earlier : ℕ)
    (entry : Forwarded) : Prop :=
  ∃ before draw after m c rest recipient, events = before ++ .resume conn .read draw :: after ∧
    replay (Machine.step env) start before = some m ∧ m.connections.get? conn = some c ∧ c.pc = .reading ∧
    c.clientId = some entry.sender ∧ c.buffer = some entry.frame :: rest ∧
    forwardable entry.sender entry.frame = true ∧ entry.frame.get "recipient" = .str recipient ∧
    m.runtime.sessions.get? recipient = some entry.destination ∧ (forwardedOn conn m.log).length = earlier

section Log

variable {conn d : ConnId} {log : List Entry}

theorem forwardedOn_append (new : List Entry) :
    forwardedOn conn (new ++ log) = forwardedOn conn log ++ forwardedOn conn new := by
  simp [forwardedOn]

theorem forwardedOn_frames (frames : List (ConnId × Json)) :
    forwardedOn conn (frames.map fun f => .wrote f.1 f.2) = [] := by
  simp [forwardedOn]

theorem calm_forwardedOn {m m' : Machine} (calm : Calm d m m') :
    forwardedOn conn m'.log = forwardedOn conn m.log := by
  obtain ⟨frames, log⟩ := calm.log
  rw [log, forwardedOn_append, forwardedOn_frames, List.append_nil]

theorem mem_forwardedOn {entry : Forwarded} :
    entry ∈ forwardedOn conn log ↔ .forwarded conn entry.sender entry.destination entry.frame ∈ log := by
  simp only [forwardedOn, List.mem_filterMap, List.mem_reverse]
  constructor
  · rintro ⟨logged, member, found⟩
    split at found
    · simp only [Option.ite_none_right_eq_some, Option.some.injEq] at found
      obtain ⟨rfl, rfl⟩ := found
      exact member
    · cases found
  · intro member
    exact ⟨_, member, by simp⟩

theorem received_append (events later : List Event) :
    received conn (events ++ later) = received conn events ++ received conn later := List.filterMap_append ..

end Log

/-! ## The step that reads a frame -/

section Reading

variable {env : Env} {m m' : Machine} {conn : ConnId} {c : Connection} {draw : Draw} {sender : String}
  {message : Json} {rest : List Line}

variable (env m conn c sender message) in
/-- What `forward` does with a frame. -/
theorem forward_cases :
    (forwardable sender message = false ∧
      m.forward env conn c sender message = m.answerSender conn sender (RelayRuntime.refusal "invalid_envelope")) ∨
    (forwardable sender message = true ∧ (message.get "recipient").hashKey? = none ∧
      m.forward env conn c sender message = m.raises env conn c .type) ∨
    (forwardable sender message = true ∧ (message.get "recipient").hashKey? ≠ none ∧
      m.forward env conn c sender message = m.answerSender conn sender (RelayRuntime.refusal "recipient_offline")) ∨
    ∃ recipient destination, forwardable sender message = true ∧ message.get "recipient" = .str recipient ∧
      m.runtime.sessions.get? recipient = some destination ∧
      ((∃ source, m.runtime.sessions.get? sender = some source ∧ m.forward env conn c sender message =
          (m.write source (acceptance message)).goto conn (.accepting recipient destination message)) ∨
        (m.runtime.sessions.get? sender = none ∧
          m.forward env conn c sender message = m.deliver conn sender recipient destination message)) := by
  unfold forward
  cases valid : forwardable sender message with
  | false => exact .inl ⟨rfl, by simp⟩
  | true =>
    refine .inr ?_
    simp only [not_true_eq_false, if_false]
    split
    · rename_i unhashable
      exact .inl ⟨trivial, unhashable, rfl⟩
    · rename_i hash hashable
      refine .inr ?_
      split
      · exact .inl ⟨trivial, by simp [hashable], rfl⟩
      · rename_i recipient destination found
        obtain ⟨name, named, found⟩ := Option.bind_eq_some_iff.mp found
        obtain ⟨_, found, same⟩ := Option.map_eq_some_iff.mp found
        cases same
        rw [Json.asStr?_eq_some_iff] at named
        refine .inr ⟨recipient, destination, trivial, named, found, ?_⟩
        split
        · rename_i source present
          exact .inl ⟨source, present, rfl⟩
        · rename_i absent
          exact .inr ⟨absent, rfl⟩

/-- A frame that is passed on has one of the application types. -/
theorem onMessage_forward (valid : message.isObj = true ∧ message.get "type" ∈ applicationTypes) :
    m.onMessage env conn c sender message = m.forward env conn c sender message := by
  obtain ⟨isObj, application⟩ := valid
  unfold onMessage
  have kinds : message.get "type" = .str "envelope" ∨ message.get "type" = .str "session_envelope" ∨
      message.get "type" = .str "session_reset" := by simpa [applicationTypes] using application
  rcases kinds with kind | kind | kind <;> simp [isObj, kind, Json.hashKey?, applicationTypes]

theorem forwardable_application (valid : forwardable sender message = true) :
    message.isObj = true ∧ message.get "type" ∈ applicationTypes := by
  simp only [forwardable, Bool.and_eq_true] at valid
  obtain ⟨⟨⟨⟨recipient, -⟩, shape⟩, -⟩, -⟩ := valid
  constructor
  · cases message with
    | obj fields => rfl
    | _ => cases recipient
  · unfold validShape at shape
    split_ifs at shape with session reset
    · simp [session, applicationTypes]
    · simp [reset, applicationTypes]
    · simp [of_decide_eq_true shape, applicationTypes]

/-- The step in which an established relay connection reads a JSON line. -/
theorem step_reading (here : m.connections.get? conn = some c) (start : c.pc = .reading)
    (buffer : c.buffer = some message :: rest) (stepped : m.step env (.resume conn .read draw) = some m') :
    m' = ((m.setBuffer conn rest).touch (c.clientId.getD "")).onMessage env conn { c with buffer := rest }
      (c.clientId.getD "") message := by
  simp only [Machine.step, here, resume] at stepped
  split_ifs at stepped
  simp only [nextInput, buffer, onRead, start, Option.some.injEq] at stepped
  exact stepped.symm

end Reading

/-! ## One step -/

/-- What becomes of the frames of a connection: it keeps them, it takes one up, or it forwards one. -/
inductive Frames (conn : ConnId) (before : List Entry) (pc : Pc) (client : Option String) (line : Option Json)
    (after : List Entry) (c' : Connection) : Prop
  | keeps (same : forwardedOn conn after = forwardedOn conn before)
    (still : held c'.pc = [] ∨ c'.pc = pc ∧ c'.clientId = client)
  | takes (recipient : String) (destination : ConnId) (frame : Json) (start : pc = .reading) (read : line = some frame)
    (valid : forwardable (client.getD "") frame = true) (now : c'.pc = .accepting recipient destination frame)
    (own : c'.clientId = client) (same : forwardedOn conn after = forwardedOn conn before)
  | forwards (recipient : String) (destination : ConnId) (frame : Json)
    (source : (pc = .reading ∧ line = some frame ∧ forwardable (client.getD "") frame = true) ∨
      pc = .accepting recipient destination frame)
    (empty : held c'.pc = [])
    (grown : forwardedOn conn after = forwardedOn conn before ++ [⟨client.getD "", destination, frame⟩])

section Steps

variable {env : Env} {m m' : Machine} {conn d : ConnId} {c : Connection} {line : Option Json}

/-- What a move does to the frames of its connection. -/
theorem move_frames (here : m.connections.get? conn = some c) (move : Move env m conn c line m') :
    ∃ c', m'.connections.get? conn = some c' ∧ c'.buffer = c.buffer ∧
      Frames conn m.log c.pc c.clientId line m'.log c' := by
  obtain ⟨-, c', here', -, buffer, next⟩ := move_own here move
  refine ⟨c', here', buffer, ?_⟩
  have unheld : held c'.pc = [] ∨ c'.pc = c.pc ∧ c'.clientId = c.clientId ∨
      ∃ recipient destination frame, c.pc = .reading ∧ line = some frame ∧
        forwardable (c.clientId.getD "") frame = true ∧ c'.pc = .accepting recipient destination frame ∧
        c'.clientId = c.clientId := by
    have entered : ∀ {b : Connection} {pc : Pc}, Enters b pc → held pc = [] := by
      intro b pc enters
      have still := enters.still
      cases pc <;> first | rfl | cases still
    cases next with
    | enters client on =>
      rcases on with same | enters
      · exact .inr (.inl ⟨same, client⟩)
      · exact .inl (entered enters)
    | bootstraps port start id client on =>
      rcases on with same | enters
      · exact .inl (by rw [same, start]; rfl)
      · exact .inl (entered enters)
    | challenges start client pending on => exact .inl (by rw [on]; rfl)
    | proves pending start client on => exact .inl (by rw [on]; rfl)
    | proved pending start client message proof on => exact .inl (by rw [on]; rfl)
    | returns id start client on =>
      rcases on with ⟨on, -⟩ | ⟨on, -⟩ | same | enters
      · exact .inl (by rw [on]; rfl)
      · exact .inl (by rw [on]; rfl)
      · exact .inl (by rw [same, start]; rfl)
      · exact .inl (entered enters)
    | holds recipient destination frame start read valid client on =>
      exact .inr (.inr ⟨recipient, destination, frame, start, read, valid, on, client⟩)
    | passes start client recipient destination on => exact .inl (by rw [on]; rfl)
  have still : forwardedOn conn m'.log = forwardedOn conn m.log → Frames conn m.log c.pc c.clientId line m'.log c' := by
    intro same
    rcases unheld with empty | stays | ⟨recipient, destination, frame, start, read, valid, on, client⟩
    · exact .keeps same (.inl empty)
    · exact .keeps same (.inr stays)
    · exact .takes recipient destination frame start read valid on client same
  have silent : ∀ new : List Entry, m'.log = new ++ m.log → forwardedOn conn new = [] →
      forwardedOn conn m'.log = forwardedOn conn m.log := by
    intro new log none
    rw [log, forwardedOn_append, none, List.append_nil]
  cases move with
  | calm rest => exact still (calm_forwardedOn rest)
  | bootstrapped request port start rest =>
    exact still ((calm_forwardedOn rest).trans rfl)
  | challenged hello draw rt pending frame start fresh begun result =>
    subst result
    exact still (silent [.wrote conn frame, .challenged conn draw.challenge] rfl rfl)
  | proving pending start result =>
    subst result
    exact still rfl
  | refused pending message start read other rest =>
    exact still ((calm_forwardedOn rest).trans rfl)
  | proved pending message proof start read success result =>
    subst result
    exact still (silent [.wrote conn _, .proved conn proof] rfl rfl)
  | authenticatedControl id port start result =>
    subst result
    exact still (silent [.authenticated conn id] rfl rfl)
  | authenticatedRelay id port start result =>
    rcases result with rfl | ⟨-, rest⟩
    · exact still (silent [.wrote conn (readyFrame id), .authenticated conn id] rfl rfl)
    · have before : forwardedOn conn (Entry.authenticated conn id :: m.log) = forwardedOn conn m.log := by
        simp [forwardedOn]
      exact still ((calm_forwardedOn rest).trans before)
  | managed id message start own read kind rest =>
    exact still ((calm_forwardedOn rest).trans rfl)
  | registered id message start own read rest =>
    exact still ((calm_forwardedOn rest).trans rfl)
  | accepting recipient destination frame start read valid m₁ first result =>
    subst result
    have same : forwardedOn conn m₁.log = forwardedOn conn m.log := calm_forwardedOn first
    exact still same
  | delivered recipient destination frame start m₁ first result =>
    refine .forwards recipient destination frame start ?_ ?_
    · obtain ⟨pc, own, -⟩ := first.own c here
      have now : m'.connections.get? conn = some { c with pc := .delivering recipient destination } := by
        rw [result]
        simp [Machine.deliver, Machine.goto, Machine.record, Machine.write, Dict.get?_modify, own]
      obtain rfl := Option.some.inj (here'.symm.trans now)
      rfl
    · rw [result]
      have log : (m₁.deliver conn (c.clientId.getD "") recipient destination frame).log =
          [.forwarded conn (c.clientId.getD "") destination frame, .wrote destination frame] ++ m₁.log := rfl
      rw [log, forwardedOn_append, calm_forwardedOn first]
      simp [forwardedOn]

theorem move_frames_other (other : d ≠ conn) (move : Move env m conn c line m') :
    forwardedOn d m'.log = forwardedOn d m.log := by
  obtain ⟨new, log, logs⟩ := move_entries move
  have none : forwardedOn d new = [] := by
    rw [forwardedOn, List.filterMap_eq_nil_iff]
    intro entry member
    cases logs entry (List.mem_reverse.mp member) with
    | forwarded recipient destination frame start => exact if_neg (Ne.symm other)
    | _ => rfl
  rw [log, forwardedOn_append, none, List.append_nil]

theorem outstanding_some (here : m.connections.get? d = some c) :
    outstanding m d = held c.pc ++ c.buffer.filterMap id := by
  simp [outstanding, here]

theorem outstanding_congr (same : m'.connections.get? d = m.connections.get? d) :
    outstanding m' d = outstanding m d := by
  simp [outstanding, same]

/-- What a resumed handler took from its buffer, and what became of its frames. -/
theorem resume_frames {outcome : Outcome} {draw : Draw} (here : m.connections.get? conn = some c)
    (success : m.resume env conn c outcome draw = some m') :
    (∀ d, d ≠ conn → m'.connections.get? d = m.connections.get? d ∧ forwardedOn d m'.log = forwardedOn d m.log) ∧
    ∃ c' line, m'.connections.get? conn = some c' ∧ (line ≠ none → outcome = .read) ∧
      (c'.buffer = c.buffer ∧ line = none ∨ c.buffer = line :: c'.buffer ∨
        c.buffer = [] ∧ c'.buffer = [] ∧ line = none) ∧
      Frames conn m.log c.pc c.clientId line m'.log c' := by
  obtain ⟨m₀, c₀, line, reads, outcomes, move⟩ := resume_move here success
  have read : m₀.log = m.log ∧ m₀.connections.get? conn = some c₀ ∧ c₀.pc = c.pc ∧ c₀.clientId = c.clientId ∧
      (∀ other, other ≠ conn → m₀.connections.get? other = m.connections.get? other) ∧
      (c₀.buffer = c.buffer ∧ line = none ∨ c.buffer = line :: c₀.buffer ∨
        c.buffer = [] ∧ c₀.buffer = [] ∧ line = none) := by
    have apart : ∀ buffer other, other ≠ conn →
        (m.setBuffer conn buffer).connections.get? other = m.connections.get? other := by
      intro buffer other ne
      simp [setBuffer, Dict.get?_modify, Ne.symm ne]
    cases reads with
    | stays => exact ⟨rfl, here, rfl, rfl, fun _ _ => rfl, .inl ⟨rfl, rfl⟩⟩
    | pops head rest buffer => exact ⟨rfl, setBuffer_here here, rfl, rfl, apart _, .inr (.inl buffer)⟩
    | ends buffer => exact ⟨rfl, setBuffer_here here, rfl, rfl, apart _, .inr (.inr ⟨buffer, rfl, rfl⟩)⟩
  obtain ⟨log, here₀, pc, client, others, taken⟩ := read
  obtain ⟨c', here', buffer, frames⟩ := move_frames here₀ move
  rw [pc, client, log] at frames
  refine ⟨fun d other => ⟨((move_own here₀ move).1 d other).trans (others d other), ?_⟩, c', line, here', outcomes,
    buffer ▸ taken, frames⟩
  rw [move_frames_other other move, log]

/-- A resumed handler keeps the order of its frames. -/
theorem resume_outstanding {outcome : Outcome} {draw : Draw} (here : m.connections.get? conn = some c)
    (success : m.resume env conn c outcome draw = some m') :
    ((forwardedOn d m'.log).map (·.frame) ++ outstanding m' d).Sublist
      ((forwardedOn d m.log).map (·.frame) ++ outstanding m d) := by
  obtain ⟨others, c', line, here', -, taken, frames⟩ := resume_frames here success
  by_cases same : d = conn
  · subst same
    rw [outstanding_some here', outstanding_some here]
    have popped : (line.toList ++ c'.buffer.filterMap id).Sublist (c.buffer.filterMap id) := by
      rcases taken with ⟨same, rfl⟩ | was | ⟨was, now, rfl⟩
      · rw [same]
        exact List.Sublist.refl _
      · rw [was]
        cases line <;> exact List.Sublist.refl _
      · rw [was, now]
        exact List.Sublist.refl _
    have rest : (c'.buffer.filterMap id).Sublist (c.buffer.filterMap id) :=
      (List.sublist_append_right ..).trans popped
    rcases frames with ⟨same, empty | ⟨stays, -⟩⟩ | ⟨recipient, destination, frame, start, read, -, on, -, same⟩ |
      ⟨recipient, destination, frame, source, empty, same⟩
    · rw [same, empty, List.nil_append]
      exact (List.Sublist.refl _).append (rest.trans (List.sublist_append_right ..))
    · rw [same, stays]
      exact (List.Sublist.refl _).append ((List.Sublist.refl _).append rest)
    · rw [same, on, start]
      subst read
      exact (List.Sublist.refl _).append popped
    · rw [same, empty, List.nil_append, List.map_append, List.append_assoc]
      refine (List.Sublist.refl _).append ?_
      rcases source with ⟨start, read, -⟩ | held
      · rw [start]
        subst read
        exact popped
      · rw [held]
        exact (List.Sublist.refl _).append rest
  · obtain ⟨connection, forwarded⟩ := others d same
    rw [forwarded, outstanding_congr connection]

/-- One step keeps the order of a connection's frames, and adds what was received. -/
theorem step_outstanding {e : Event} (stepped : m.step env e = some m') :
    ((forwardedOn d m'.log).map (·.frame) ++ outstanding m' d).Sublist
      ((forwardedOn d m.log).map (·.frame) ++ outstanding m d ++ received d [e]) := by
  cases e with
  | connect conn port =>
    simp only [Machine.step] at stepped
    split_ifs at stepped with present
    cases stepped
    refine List.Sublist.trans ?_ (List.sublist_append_left ..)
    refine (List.Sublist.refl _).append ?_
    by_cases same : conn = d
    · subst same
      simp [outstanding, held]
    · rw [outstanding_congr (Dict.get?_insert_of_ne _ _ same)]
  | receive conn line =>
    simp only [Machine.step] at stepped
    split at stepped
    · cases stepped
    rename_i c here
    split_ifs at stepped
    cases stepped
    rw [List.append_assoc]
    refine (List.Sublist.refl _).append ?_
    by_cases same : d = conn
    · subst same
      rw [outstanding_some (setBuffer_here here), outstanding_some here, List.filterMap_append, ← List.append_assoc]
      refine (List.Sublist.refl _).append ?_
      cases line with
      | none => simp [received]
      | some value => simp [received]
    · refine List.Sublist.trans ?_ (List.sublist_append_left ..)
      rw [outstanding_congr]
      simp [setBuffer, Dict.get?_modify, Ne.symm same]
  | hangup conn =>
    simp only [Machine.step] at stepped
    split at stepped
    · cases stepped
    rename_i c here
    cases stepped
    refine List.Sublist.trans ?_ (List.sublist_append_left ..)
    refine (List.Sublist.refl _).append ?_
    by_cases same : conn = d
    · subst same
      rw [outstanding_some (Dict.get?_insert_self ..), outstanding_some here]
    · rw [outstanding_congr (Dict.get?_insert_of_ne _ _ same)]
  | resume conn outcome draw =>
    simp only [Machine.step] at stepped
    split at stepped
    · cases stepped
    rename_i c here
    exact (resume_outstanding here stepped).trans (List.sublist_append_left ..)
  | tick seconds =>
    cases stepped
    exact List.sublist_append_left ..

/-- Whoever takes up or forwards the frame it reads has found the destination under the recipient. -/
theorem reading_lookup {draw : Draw} {rest : List Line} {destination : ConnId} {frame : Json} (new : Forwarded)
    (here : m.connections.get? conn = some c) (start : c.pc = .reading) (buffer : c.buffer = some frame :: rest)
    (valid : forwardable (c.clientId.getD "") frame = true)
    (stepped : m.step env (.resume conn .read draw) = some m')
    (taken : (∃ c' recipient, m'.connections.get? conn = some c' ∧ c'.pc = .accepting recipient destination frame) ∨
      forwardedOn conn m'.log = forwardedOn conn m.log ++ [new] ∧ new.destination = destination) :
    ∃ name, frame.get "recipient" = .str name ∧ m.runtime.sessions.get? name = some destination := by
  have result := step_reading here start buffer stepped
  rw [onMessage_forward (forwardable_application valid)] at result
  have here₀ : ((m.setBuffer conn rest).touch (c.clientId.getD "")).connections.get? conn =
      some { c with buffer := rest } := setBuffer_here here
  have alive : living c.pc = some .relay := by rw [start]; rfl
  have calmly : Calm conn ((m.setBuffer conn rest).touch (c.clientId.getD "")) m' → False := by
    intro calm
    rcases taken with ⟨c', recipient, own, on⟩ | ⟨grown, -⟩
    · obtain ⟨pc, own', kind⟩ := calm.own _ here₀
      obtain rfl := Option.some.inj (own.symm.trans own')
      rcases kind with same | enters
      · rw [same, start] at on
        cases on
      · have still := enters.still
        replace on : pc = .accepting recipient destination frame := on
        rw [on] at still
        cases still
    · have same : forwardedOn conn m'.log = forwardedOn conn m.log := (calm_forwardedOn calm).trans rfl
      rw [same] at grown
      simp at grown
  rcases forward_cases env ((m.setBuffer conn rest).touch (c.clientId.getD "")) conn { c with buffer := rest }
      (c.clientId.getD "") frame with
    ⟨invalid, -⟩ | ⟨-, -, raised⟩ | ⟨-, -, offline⟩ | ⟨name, found, -, named, session,
      ⟨source, -, accepted⟩ | ⟨-, delivered⟩⟩
  · rw [valid] at invalid
    cases invalid
  · exact (calmly (by rw [result, raised]; exact raises_calm here₀)).elim
  · exact (calmly (by rw [result, offline]; exact answerSender_calm here₀ alive)).elim
  · rw [accepted] at result
    rcases taken with ⟨c', recipient, own, on⟩ | ⟨grown, -⟩
    · have now : m'.connections.get? conn = some { c with buffer := rest, pc := .accepting name found frame } := by
        rw [result]
        simp [Machine.goto, Machine.write, Machine.record, Dict.get?_modify, here₀]
      obtain rfl := Option.some.inj (own.symm.trans now)
      cases on
      exact ⟨_, named, session⟩
    · have log : m'.log = [.wrote source (acceptance frame)] ++ m.log := by
        rw [result]
        rfl
      have same : forwardedOn conn m'.log = forwardedOn conn m.log := by
        rw [log, forwardedOn_append]
        simp [forwardedOn]
      rw [same] at grown
      simp at grown
  · rw [delivered] at result
    rcases taken with ⟨c', recipient, own, on⟩ | ⟨grown, to_⟩
    · have now : m'.connections.get? conn = some { c with buffer := rest, pc := .delivering name found } := by
        rw [result]
        simp [Machine.deliver, Machine.goto, Machine.write, Machine.record, Dict.get?_modify, here₀]
      obtain rfl := Option.some.inj (own.symm.trans now)
      cases on
    · have log : m'.log = [.forwarded conn (c.clientId.getD "") found frame, .wrote found frame] ++ m.log := by
        rw [result]
        rfl
      have last : forwardedOn conn [.forwarded conn (c.clientId.getD "") found frame, .wrote found frame] =
          [⟨c.clientId.getD "", found, frame⟩] := by
        simp [forwardedOn]
      rw [log, forwardedOn_append, last] at grown
      obtain rfl := List.singleton_inj.mp (List.append_cancel_left grown)
      exact ⟨name, named, to_ ▸ session⟩

end Steps

/-! ## Runs -/

section Runs

variable {env : Env} {start m m' : Machine} {events : List Event} {conn : ConnId}

theorem replay_snoc (e : Event) : replay (Machine.step env) start (events ++ [e]) =
    (replay (Machine.step env) start events).bind fun m => m.step env e := by
  simp [replay, List.foldlM_append]

theorem replay_log (ran : replay (Machine.step env) m events = some m') : m.log <:+ m'.log := by
  induction events generalizing m with
  | nil =>
    cases ran
    exact List.suffix_rfl
  | cons e rest ih =>
    rw [replay_cons] at ran
    obtain ⟨middle, stepped, ran⟩ := Option.bind_eq_some_iff.mp ran
    exact (step_log stepped).trans (ih ran)

theorem LookedUp.extend {earlier : ℕ} {entry : Forwarded} (found : LookedUp env start events conn earlier entry)
    (later : List Event) : LookedUp env start (events ++ later) conn earlier entry := by
  obtain ⟨before, draw, after, m, c, rest, recipient, rfl, facts⟩ := found
  exact ⟨before, draw, after ++ later, m, c, rest, recipient, by simp, facts⟩

/-- The invariant of a run: order, and a lookup for every frame that was forwarded or is held. -/
structure Ordered (env : Env) (start : Machine) (events : List Event) (m : Machine) : Prop where
  frames : ∀ conn, ((forwardedOn conn m.log).map (·.frame) ++ outstanding m conn).Sublist (received conn events)
  lookups : ∀ conn earlier entry, (forwardedOn conn m.log)[earlier]? = some entry →
    LookedUp env start events conn earlier entry
  holding : ∀ conn c recipient destination frame, m.connections.get? conn = some c →
    c.pc = .accepting recipient destination frame →
    LookedUp env start events conn (forwardedOn conn m.log).length ⟨c.clientId.getD "", destination, frame⟩

theorem started_ordered (started : start.Started env) : Ordered env start [] start := by
  obtain ⟨⟨-, -, -, -, connections, log⟩, -⟩ := started
  refine ⟨fun conn => ?_, fun conn earlier entry found => ?_, fun conn c recipient destination frame found => ?_⟩
  · simp [log, connections, forwardedOn, outstanding, received]
  · simp [log, forwardedOn] at found
  · simp [connections] at found

/-- The lookup behind a frame that a resumed handler takes up or forwards. -/
theorem resumed_lookup (started : start.Started env) (ran : replay (Machine.step env) start events = some m)
    {c : Connection} {outcome : Outcome} {draw : Draw} (here : m.connections.get? conn = some c)
    (success : m.resume env conn c outcome draw = some m') {destination : ConnId} {frame : Json}
    (start' : c.pc = .reading) (read : outcome = .read) (buffer : ∃ rest, c.buffer = some frame :: rest)
    (valid : forwardable (c.clientId.getD "") frame = true)
    (taken : (∃ c' recipient, m'.connections.get? conn = some c' ∧ c'.pc = .accepting recipient destination frame) ∨
      ∃ new : Forwarded, forwardedOn conn m'.log = forwardedOn conn m.log ++ [new] ∧ new.destination = destination) :
    LookedUp env start (events ++ [.resume conn outcome draw]) conn (forwardedOn conn m.log).length
      ⟨c.clientId.getD "", destination, frame⟩ := by
  subst read
  obtain ⟨rest, buffer⟩ := buffer
  have stepped : m.step env (.resume conn .read draw) = some m' := by simp [Machine.step, here, success]
  have secure := reach_secure (Reach.of_replay started _ ran)
  obtain ⟨id, named, -⟩ := (secure.owners conn c here).1 (by rw [start']; rfl)
  have known : c.clientId = some (c.clientId.getD "") := by simp [named]
  obtain ⟨name, addressed, session⟩ : ∃ name, frame.get "recipient" = .str name ∧
      m.runtime.sessions.get? name = some destination := by
    rcases taken with held | ⟨new, grown⟩
    · exact reading_lookup ⟨"", destination, frame⟩ here start' buffer valid stepped (.inl held)
    · exact reading_lookup _ here start' buffer valid stepped (.inr grown)
  exact ⟨events, draw, [], m, c, rest, name, rfl, ran, here, start', known, buffer, valid, addressed, session, rfl⟩

/-- A step leaves the order of every connection's frames. -/
theorem Ordered.frames_step (ordered : Ordered env start events m) {e : Event} (stepped : m.step env e = some m') (d : ConnId) :
    ((forwardedOn d m'.log).map (·.frame) ++ outstanding m' d).Sublist (received d (events ++ [e])) := by
  rw [received_append]
  exact (step_outstanding stepped).trans ((ordered.frames d).append (List.Sublist.refl _))

theorem Ordered.resume (started : start.Started env) (ran : replay (Machine.step env) start events = some m)
    (ordered : Ordered env start events m) {outcome : Outcome} {draw : Draw} (here : m.connections.get? conn = some c)
    (stepped : m.resume env conn c outcome draw = some m') :
    Ordered env start (events ++ [.resume conn outcome draw]) m' := by
  have ran' : m.step env (.resume conn outcome draw) = some m' := by
    simp only [Machine.step, here]
    exact stepped
  obtain ⟨others, c', line, here', outcomes, taken, moved⟩ := resume_frames here stepped
  have buffered : ∀ {frame}, line = some frame → ∃ rest, c.buffer = some frame :: rest := by
    rintro frame rfl
    rcases taken with ⟨-, none⟩ | was | ⟨-, -, none⟩
    · cases none
    · exact ⟨_, was⟩
    · cases none
  refine ⟨ordered.frames_step ran', fun d earlier entry found => ?_, fun d b recipient destination frame found on => ?_⟩
  · by_cases same : d = conn
    · subst same
      have old : (forwardedOn d m.log)[earlier]? = some entry →
          LookedUp env start (events ++ [.resume d outcome draw]) d earlier entry :=
        fun found => (ordered.lookups d earlier entry found).extend _
      cases moved with
      | keeps unchanged still => exact old (unchanged ▸ found)
      | takes recipient destination frame start read valid now own unchanged => exact old (unchanged ▸ found)
      | forwards recipient destination frame source empty grown =>
        have place := grown ▸ found
        rw [List.getElem?_append] at place
        split_ifs at place with inside
        · exact old place
        · have last : earlier = (forwardedOn d m.log).length := by
            have bound := (List.getElem?_eq_some_iff.mp place).1
            simp only [List.length_singleton] at bound
            omega
          subst last
          rw [Nat.sub_self] at place
          obtain rfl := Option.some.inj place
          rcases source with ⟨reading, read, valid⟩ | holds
          · exact resumed_lookup started ran here stepped reading (outcomes (read ▸ (by simp))) (buffered read) valid
              (.inr ⟨_, grown, rfl⟩)
          · exact (ordered.holding d c recipient destination frame here holds).extend _
    · rw [(others d same).2] at found
      exact (ordered.lookups d earlier entry found).extend _
  · by_cases same : d = conn
    · subst same
      obtain rfl := Option.some.inj (here'.symm.trans found)
      cases moved with
      | keeps unchanged still =>
        rcases still with empty | ⟨stays, client⟩
        · rw [on] at empty
          cases empty
        · rw [unchanged, client]
          exact (ordered.holding d c recipient destination frame here (stays ▸ on)).extend _
      | takes recipient' destination' frame' reading read valid now client unchanged =>
        rw [unchanged, client]
        obtain ⟨rfl, rfl, rfl⟩ := Pc.accepting.inj (now.symm.trans on)
        exact resumed_lookup started ran here stepped reading (outcomes (read ▸ (by simp))) (buffered read) valid
          (.inl ⟨c', recipient', here', now⟩)
      | forwards _ _ _ source empty grown =>
        rw [on] at empty
        cases empty
    · obtain ⟨connection, unchanged⟩ := others d same
      rw [unchanged]
      exact (ordered.holding d b recipient destination frame (connection ▸ found) on).extend _

/-- A step keeps the frames in order. -/
theorem Ordered.step (started : start.Started env) (ran : replay (Machine.step env) start events = some m)
    (ordered : Ordered env start events m) {e : Event} (stepped : m.step env e = some m') :
    Ordered env start (events ++ [e]) m' := by
  rcases step_cases stepped with ⟨conn, c, outcome, draw, -, -, -, rfl, here, -⟩ | ⟨-, -, log, connections, -⟩
  · simp only [Machine.step, here] at stepped
    exact ordered.resume started ran here stepped
  · refine ⟨ordered.frames_step stepped, ?_, ?_⟩
    · rw [log]
      exact fun d earlier entry found => (ordered.lookups d earlier entry found).extend [e]
    · rw [log]
      intro d c' recipient destination frame found on
      rcases connections d c' found with ⟨c, here, -, client, pc, -⟩ | ⟨-, port, rfl⟩
      · exact client ▸ (ordered.holding d c recipient destination frame here (pc ▸ on)).extend [e]
      · cases on

theorem run_ordered (started : start.Started env) (ran : replay (Machine.step env) start events = some m) :
    Ordered env start events m := by
  induction events using List.reverseRecOn generalizing m with
  | nil =>
    cases ran
    exact started_ordered started
  | append_singleton before e ih =>
    rw [replay_snoc] at ran
    obtain ⟨middle, ran, stepped⟩ := Option.bind_eq_some_iff.mp ran
    exact (ih ran).step started ran stepped

/-- What a lookup says about its frame: where it came from and what it may contain. -/
theorem LookedUp.facts (started : start.Started env) (ran : replay (Machine.step env) start events = some m)
    {earlier : ℕ} {entry : Forwarded} (found : LookedUp env start events conn earlier entry) :
    entry.frame ∈ received conn events ∧ .authenticated conn entry.sender ∈ m.log ∧
      entry.frame.get "sender" = .str entry.sender ∧ ∀ key ∈ entry.frame.keys, key ∈ (frameMembers entry.frame).2 := by
  obtain ⟨before, draw, after, m₀, c, rest, recipient, rfl, ran₀, here, start', client, buffer, valid, -⟩ := found
  have later : replay (Machine.step env) m₀ (.resume conn .read draw :: after) = some m := by
    rw [replay, List.foldlM_append] at ran
    obtain ⟨middle, first, rest⟩ := Option.bind_eq_some_iff.mp ran
    obtain rfl := Option.some.inj (ran₀.symm.trans first)
    exact rest
  refine ⟨?_, ?_, ?_, ?_⟩
  · have waiting : entry.frame ∈ outstanding m₀ conn := by
      rw [outstanding_some here, buffer]
      simp
    rw [received_append]
    exact List.mem_append_left _
      (((run_ordered started ran₀).frames conn).subset (List.mem_append_right _ waiting))
  · obtain ⟨id, named, returned⟩ :=
      ((reach_secure (Reach.of_replay started _ ran₀)).owners conn c here).1 (by rw [start']; rfl)
    obtain rfl := Option.some.inj (client.symm.trans named)
    exact (replay_log later).subset returned
  · simp only [forwardable, Bool.and_eq_true, decide_eq_true_eq] at valid
    exact valid.1.1.1.2
  · simp only [forwardable, Bool.and_eq_true, List.all_eq_true, List.contains_iff_mem] at valid
    exact valid.1.2

end Runs

/-! ## A run in which a frame is forwarded -/

/-- A session envelope from `alice` to `bob`. -/
def sampleFrame : Json :=
  .obj [("version", .int 1), ("type", .str "session_envelope"), ("session_id", .str "id"), ("sender", .str "alice"),
    ("recipient", .str "bob"), ("sequence", .int 0), ("ciphertext", .str "text")]

/-- Both clients are approved, connected and wait for lines. -/
def establishedEvents : List Event :=
  handshakeOf 0 .relay "alice" "alice-key" ++ handshakeOf 1 .relay "bob" "bob-key" ++
    [.resume 0 .sent ⟨"", ""⟩, .resume 0 .sent ⟨"", ""⟩, .resume 1 .sent ⟨"", ""⟩, .resume 1 .sent ⟨"", ""⟩]

def forwardingEvents : List Event :=
  establishedEvents ++
    [.receive 0 (some sampleFrame), .resume 0 .read ⟨"first", "first"⟩, .resume 0 .sent ⟨"", ""⟩]

def forwardingMachine : Machine := (replay (Machine.step sampleEnv) startedMachine forwardingEvents).getD {}

end WispGate.Soundness.Forwarding
