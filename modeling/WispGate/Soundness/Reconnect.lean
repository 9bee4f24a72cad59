import WispGate.Model.Wisp.Link
import WispGate.Soundness.SessionOrder

/-! # The writer, the event and the counters

While the relay is ready the writer is the relay's connection, whatever the parties do, so nobody goes round
without a wait. Writing follows sealing at once and both happen under the lock, so a session's frames leave
in the order of its counter. But the lock may come long after the wait: who gets it while `serve` registers
writes to the control connection.
-/

namespace WispGate.Soundness.Reconnect

open Data Model Model.Wisp

/-! ## What sending leaves alone -/

/-- `serve` is between the start and the end of the event loop. -/
def InLoop : ServeAt → Prop
  | .read | .dispatch | .stopHeartbeat _ => True
  | _ => False

/-- No change but in the senders, the lock and the place in the event loop. -/
structure Quiet (s t : Link) : Prop where
  serve : t.serve = s.serve ∨ InLoop s.serve ∧ InLoop t.serve
  connections : t.connections = s.connections
  writer : t.writer = s.writer
  relayReady : t.relayReady = s.relayReady
  peerSessions : t.peerSessions = s.peerSessions
  established : t.established = s.established
  frames : t.frames = s.frames
  repeated : t.repeated = s.repeated

/-- What a sender does with the lock: nothing to the sessions, a round without a writer, or a frame. -/
inductive Sends (s t : Link) : Prop
  | quiet (same : Quiet s t)
  | again (lost : s.writer = none) (same : Quiet { s with repeated := s.repeated || s.relayReady } t)
  | wrote (connection : ℕ) (recipient : String) (number : ℕ) (session session' : PeerSession)
    (writer : s.writer = some connection) (found : s.peerSessions.get? recipient = some (number, session))
    (next : session'.sendSequence = session.sendSequence + 1)
    (same : Quiet { s with
      peerSessions := s.peerSessions.insert recipient (number, session')
      frames := s.frames ++ [⟨connection, number, session.sendSequence⟩] } t)

section Sending

variable {aead : Aead} {s s' t : Link} {party : Party}

theorem Quiet.refl (s : Link) : Quiet s s := ⟨.inl rfl, rfl, rfl, rfl, rfl, rfl, rfl, rfl⟩

theorem Quiet.trans {u : Link} (first : Quiet s t) (second : Quiet t u) : Quiet s u := by
  refine ⟨?_, second.connections.trans first.connections, second.writer.trans first.writer,
    second.relayReady.trans first.relayReady, second.peerSessions.trans first.peerSessions,
    second.established.trans first.established, second.frames.trans first.frames, second.repeated.trans first.repeated⟩
  rcases second.serve with same | ⟨before, after⟩
  · rw [same]
    exact first.serve
  · rcases first.serve with same | ⟨start, -⟩
    · exact .inr ⟨same ▸ before, after⟩
    · exact .inr ⟨start, after⟩

/-- A sender may take the lock first. -/
theorem Quiet.sends (quiet : Quiet s s') (sends : Sends s' t) : Sends s t := by
  cases sends with
  | quiet same => exact .quiet (quiet.trans same)
  | again lost same =>
    have middle : Quiet { s with repeated := s.repeated || s.relayReady }
        { s' with repeated := s'.repeated || s'.relayReady } :=
      ⟨quiet.serve, quiet.connections, quiet.writer, quiet.relayReady, quiet.peerSessions,
        quiet.established, quiet.frames,
        by simp only [quiet.repeated, quiet.relayReady]⟩
    exact .again (quiet.writer ▸ lost) (middle.trans same)
  | wrote connection recipient number session session' writer found next same =>
    have middle : Quiet
        { s with
          peerSessions := s.peerSessions.insert recipient (number, session')
          frames := s.frames ++ [⟨connection, number, session.sendSequence⟩] }
        { s' with
          peerSessions := s'.peerSessions.insert recipient (number, session')
          frames := s'.frames ++ [⟨connection, number, session.sendSequence⟩] } :=
      ⟨quiet.serve, quiet.connections, quiet.writer, quiet.relayReady,
        by simp only [quiet.peerSessions], quiet.established, by simp only [quiet.frames], quiet.repeated⟩
    exact .wrote connection recipient number session session' (quiet.writer ▸ writer) (quiet.peerSessions ▸ found) next
      (middle.trans same)

theorem finish_quiet (s : Link) (party : Party) (raised : Bool) : Quiet s (s.finish party raised) := by
  unfold Link.finish
  dsimp only
  cases raised
  all_goals
    split
    · rename_i loop
      exact ⟨.inr ⟨by rw [loop]; trivial, trivial⟩, rfl, rfl, rfl, rfl, rfl, rfl, rfl⟩
    · exact ⟨.inl rfl, rfl, rfl, rfl, rfl, rfl, rfl, rfl⟩
    · exact ⟨.inl rfl, rfl, rfl, rfl, rfl, rfl, rfl, rfl⟩

theorem sendSession_sends (s : Link) (party : Party) (recipient : String) (body : Json) (now : ℕ) :
    Sends s (s.sendSession aead party recipient body now) := by
  unfold Link.sendSession
  split
  · rename_i lost
    exact .again lost ⟨.inl rfl, rfl, rfl, rfl, rfl, rfl, rfl, rfl⟩
  · rename_i connection writer
    split
    · exact .quiet (finish_quiet s party false)
    · rename_i number session found
      rcases SessionOrder.encrypt_cases aead session body now with ⟨e, sealed⟩ | ⟨nonce, ciphertext, -, sealed⟩
      · rw [sealed]
        exact .quiet (finish_quiet s party _)
      · rw [sealed]
        exact .wrote connection recipient number session _ writer found rfl ⟨.inl rfl, rfl, rfl, rfl, rfl, rfl, rfl, rfl⟩

theorem critical_sends (s : Link) (party : Party) (message : Message) (now : ℕ) :
    Sends s (s.critical aead party message now) := by
  have held : Quiet s { s with holder := some party } := ⟨.inl rfl, rfl, rfl, rfl, rfl, rfl, rfl, rfl⟩
  unfold Link.critical
  dsimp only
  split
  · exact held.sends (sendSession_sends _ party _ _ now)
  · exact .quiet ⟨.inl rfl, rfl, rfl, rfl, rfl, rfl, rfl, rfl⟩
  · exact .quiet (held.trans (finish_quiet _ party true))
  · exact .quiet (held.trans (finish_quiet _ party false))

theorem acquire_sends (s : Link) (party : Party) (message : Message) (now : ℕ) :
    Sends s (s.acquire aead party message now) := by
  unfold Link.acquire
  split
  · exact critical_sends s party message now
  · exact .quiet ⟨.inl rfl, rfl, rfl, rfl, rfl, rfl, rfl, rfl⟩

theorem send_sends {message : Message} {now : ℕ} (sent : s.send aead party message now = some t) : Sends s t := by
  unfold Link.send at sent
  split at sent
  · cases sent
  · rename_i free
    have begun : Quiet s (if party = .serve then { s with serve := .dispatch } else s) := by
      split
      · rename_i serving
        subst serving
        have reads : s.serve = .read := by
          by_contra elsewhere
          refine free (.inr ?_)
          cases message <;> simp [Link.maySend, elsewhere]
        exact ⟨.inr ⟨by rw [reads]; trivial, trivial⟩, rfl, rfl, rfl, rfl, rfl, rfl, rfl⟩
      · exact .refl s
    dsimp only at sent
    generalize (if party = .serve then { s with serve := .dispatch } else s) = u at begun sent
    split at sent
    · cases sent
      exact .quiet (begun.trans ⟨.inl rfl, rfl, rfl, rfl, rfl, rfl, rfl, rfl⟩)
    · cases sent
      exact begun.sends (acquire_sends u party message now)

theorem wake_sends {now : ℕ} (woken : s.wake aead party now = some t) : Sends s t := by
  unfold Link.wake at woken
  split at woken
  · cases woken
    exact acquire_sends s party _ now
  · cases woken

theorem grant_sends {now : ℕ} (granted : s.grant aead now = some t) : Sends s t := by
  unfold Link.grant at granted
  split at granted
  · rename_i party rest free waiting
    split at granted
    · rename_i sending found
      cases granted
      have passed : Quiet s { s with waiters := rest } := ⟨.inl rfl, rfl, rfl, rfl, rfl, rfl, rfl, rfl⟩
      exact passed.sends (critical_sends _ party _ now)
    · cases granted
  · cases granted

theorem settle_quiet {raised : Bool} (settled : s.settle party raised = some t) : Quiet s t := by
  unfold Link.settle at settled
  split at settled
  · cases settled
    exact finish_quiet s party raised
  · cases settled

theorem cancelParty_quiet (cancelled : s.cancelParty party = some t) : Quiet s t := by
  cases party with
  | serve => cases cancelled
  | heartbeat =>
    simp only [Link.cancelParty] at cancelled
    split at cancelled
    · cases cancelled
    · cases cancelled
    · split at cancelled
      · cases cancelled
        exact ⟨.inl rfl, rfl, rfl, rfl, rfl, rfl, rfl, rfl⟩
      · cases cancelled
  | worker id =>
    simp only [Link.cancelParty] at cancelled
    split at cancelled
    · cases cancelled
      exact ⟨.inl rfl, rfl, rfl, rfl, rfl, rfl, rfl, rfl⟩
    · cases cancelled

end Sending

/-! ## The writer -/

/-- The writer is a connection, of some kind. -/
def WriterIs (s : Link) (kind : Connection → Prop) : Prop :=
  ∃ index connection, s.writer = some index ∧ s.connections[index]? = some connection ∧ kind connection

/-- The relay connection when its ready frame was read. -/
structure Ready (connection : Connection) : Prop where
  port : connection.port = .relay
  authenticated : connection.authenticated = true
  ready : connection.ready = true

/-- Where `serve` is says what the writer is, and whether the relay is ready. -/
def Placed (s : Link) : Prop :=
  match s.serve with
  | .openControl | .openRelay | .sleep | .closeWriter | .gatherTasks | .done => s.relayReady = false ∧ s.writer = none
  | .authenticateControl | .join | .register => s.relayReady = false ∧ WriterIs s fun _ => True
  | .authenticateRelay => s.relayReady = false ∧ WriterIs s fun connection => connection.port = .relay
  | .awaitReady =>
    s.relayReady = false ∧ WriterIs s fun connection => connection.port = .relay ∧ connection.authenticated = true
  | .read | .dispatch | .stopHeartbeat _ => s.relayReady = true ∧ WriterIs s Ready

/-- The ports of connections stay. -/
def PortsStay (s t : Link) : Prop := ∀ (index : ℕ) (connection : Connection), s.connections[index]? = some connection →
  ∃ later : Connection, t.connections[index]? = some later ∧ later.port = connection.port

section Writer

variable {s t : Link}

theorem WriterIs.mono {kind kind' : Connection → Prop} (writer : WriterIs s kind)
    (weaker : ∀ connection, kind connection → kind' connection) : WriterIs s kind' := by
  obtain ⟨index, connection, at_, found, met⟩ := writer
  exact ⟨index, connection, at_, found, weaker connection met⟩

theorem connect_writer (s : Link) (port : Port) : WriterIs (s.connect port) fun connection => connection.port = port :=
  ⟨s.connections.length, ⟨port, false, false⟩, rfl, by simp [Link.connect], rfl⟩

theorem progress_writer {kind kind' : Connection → Prop} {change : Connection → Connection} (writer : WriterIs s kind)
    (changed : ∀ connection, kind connection → kind' (change connection)) : WriterIs (s.progress change) kind' := by
  obtain ⟨index, connection, at_, found, met⟩ := writer
  refine ⟨index, change connection, ?_, ?_, changed connection met⟩
  · rw [Link.progress, at_]
  · rw [Link.progress, at_]
    simp [found]

theorem PortsStay.refl (s : Link) : PortsStay s s := fun _ connection found => ⟨connection, found, rfl⟩

theorem connect_ports (s : Link) (port : Port) : PortsStay s (s.connect port) := by
  intro index connection found
  have inside : index < s.connections.length := (List.getElem?_eq_some_iff.mp found).1
  exact ⟨connection, by rw [Link.connect, List.getElem?_append_left inside, found], rfl⟩

theorem progress_ports (s : Link) {change : Connection → Connection}
    (same : ∀ connection, (change connection).port = connection.port) : PortsStay s (s.progress change) := by
  intro index connection found
  unfold Link.progress
  split
  · exact ⟨connection, found, rfl⟩
  · simp only [List.getElem?_modify, found]
    split
    · exact ⟨_, rfl, same connection⟩
    · exact ⟨_, rfl, rfl⟩

/-- The relay is ready exactly in the event loop. -/
theorem Placed.ready (placed : Placed s) (ready : s.relayReady = true) : WriterIs s Ready := by
  unfold Placed at placed
  split at placed
  all_goals first
    | exact placed.2
    | cases ready.symm.trans placed.1

/-- Away from the control connection the writer is on the relay's port. -/
theorem Placed.relay (placed : Placed s) (off : s.serve.onControl = false) {index : ℕ} (writer : s.writer = some index) :
    ∃ connection, s.connections[index]? = some connection ∧ connection.port = .relay := by
  have named : ∀ {kind : Connection → Prop}, (∀ connection, kind connection → connection.port = .relay) →
      WriterIs s kind → ∃ connection, s.connections[index]? = some connection ∧ connection.port = .relay := by
    rintro kind port ⟨at_, connection, same, found, met⟩
    cases writer.symm.trans same
    exact ⟨connection, found, port connection met⟩
  unfold Placed at placed
  split at placed
  all_goals first
    | cases writer.symm.trans placed.2
    | (rename_i at_; exact absurd off (by rw [at_]; decide))
    | exact named (fun _ met => met) placed.2
    | exact named (fun _ met => met.1) placed.2

/-- Sending keeps what is known of the writer. -/
theorem Quiet.placed (quiet : Quiet s t) (placed : Placed s) : Placed t := by
  have writer : ∀ {kind : Connection → Prop}, WriterIs s kind → WriterIs t kind := by
    rintro kind ⟨index, connection, at_, found, met⟩
    exact ⟨index, connection, quiet.writer.trans at_, quiet.connections ▸ found, met⟩
  rcases quiet.serve with same | ⟨before, after⟩
  · unfold Placed at placed ⊢
    rw [same, quiet.relayReady, quiet.writer]
    split at placed
    all_goals first
      | exact placed
      | exact ⟨placed.1, writer placed.2⟩
  · have ready : s.relayReady = true ∧ WriterIs s Ready := by
      unfold Placed at placed
      split at placed
      all_goals first
        | exact placed
        | (rename_i at_; rw [at_] at before; cases before)
    unfold Placed
    split
    all_goals first
      | exact ⟨quiet.relayReady.trans ready.1, writer ready.2⟩
      | (rename_i at_; rw [at_] at after; cases after)

theorem Sends.placed (sends : Sends s t) (placed : Placed s) : Placed t := by
  cases sends with
  | quiet same => exact same.placed placed
  | again lost same => exact same.placed placed
  | wrote connection recipient number session session' writer found next same => exact same.placed placed

end Writer

/-! ## What serving does -/

/-- Every session that is left was there, with the same counter. -/
def Kept (s t : Link) : Prop := ∀ recipient number session, t.peerSessions.get? recipient = some (number, session) →
  ∃ before : PeerSession, s.peerSessions.get? recipient = some (number, before) ∧
    session.sendSequence = before.sendSequence

/-- A step that writes no session frame and makes no session. -/
structure Serves (s t : Link) : Prop where
  ports : PortsStay s t
  kept : Kept s t
  established : t.established = s.established
  frames : t.frames = s.frames
  repeated : t.repeated = s.repeated
  placed : Placed s → Placed t

/-- What a step does, as far as the writer and the counters are concerned. -/
inductive Moves (s t : Link) : Prop
  | sends (sent : Sends s t)
  | serves (served : Serves s t)
  | establishes (sender : String) (session : PeerSession) (fresh : session.sendSequence = 0)
    (same : t = { s with
      peerSessions := s.peerSessions.insert sender (s.established, session)
      established := s.established + 1 })

section Serving

variable {aead : Aead} {clientId : String} {s t : Link}

theorem Kept.refl (s : Link) : Kept s s := fun _ _ session found => ⟨session, found, rfl⟩

/-- A step that leaves the sessions alone. -/
theorem serves_of_placed (ports : PortsStay s t) (sessions : t.peerSessions = s.peerSessions)
    (established : t.established = s.established) (frames : t.frames = s.frames) (repeated : t.repeated = s.repeated)
    (placed : Placed s → Placed t) : Serves s t := by
  refine ⟨ports, ?_, established, frames, repeated, placed⟩
  intro recipient number session found
  exact ⟨session, sessions ▸ found, rfl⟩

/-- A step of `serve` from one place to another. -/
theorem moved_serves {place : ServeAt} (placed : Placed s → Placed { s with serve := place }) :
    Serves s { s with serve := place } := serves_of_placed (.refl s) rfl rfl rfl rfl placed

theorem retry_serves (s : Link) : Serves s s.retry :=
  serves_of_placed (.refl s) rfl rfl rfl rfl fun _ => ⟨rfl, rfl⟩

theorem cancelTasks_serves (lost : Placed s → s.relayReady = false ∧ s.writer = none) : Serves s s.cancelTasks := by
  refine serves_of_placed (.refl s) rfl rfl rfl rfl fun placed => ?_
  unfold Placed Link.cancelTasks
  dsimp only
  split_ifs
  · exact lost placed
  · exact lost placed

/-- `close` forgets the sessions. -/
theorem close_serves (s : Link) : Serves s s.close := by
  have closed : s.close.relayReady = false ∧ s.close.writer = none ∧ s.close.peerSessions = .empty ∧
      s.close.connections = s.connections ∧ s.close.established = s.established ∧ s.close.frames = s.frames ∧
      s.close.repeated = s.repeated ∧
      (s.close.serve = .closeWriter ∨ s.close.serve = .gatherTasks ∨ s.close.serve = .done) := by
    unfold Link.close Link.cancelTasks
    cases s.writer with
    | none =>
      dsimp only
      split_ifs
      · exact ⟨rfl, rfl, rfl, rfl, rfl, rfl, rfl, .inr (.inr rfl)⟩
      · exact ⟨rfl, rfl, rfl, rfl, rfl, rfl, rfl, .inr (.inl rfl)⟩
    | some writer => exact ⟨rfl, rfl, rfl, rfl, rfl, rfl, rfl, .inl rfl⟩
  obtain ⟨ready, writer, sessions, connections, established, frames, repeated, place⟩ := closed
  refine ⟨?_, ?_, established, frames, repeated, fun _ => ?_⟩
  · intro index connection found
    exact ⟨connection, connections ▸ found, rfl⟩
  · intro recipient number session found
    rw [sessions] at found
    cases found
  · unfold Placed
    rcases place with at_ | at_ | at_
    all_goals
      rw [at_]
      exact ⟨ready, writer⟩

/-- A connection that comes further changes nothing else. -/
theorem progress_same (s : Link) (change : Connection → Connection) :
    (s.progress change).relayReady = s.relayReady ∧ (s.progress change).peerSessions = s.peerSessions ∧
      (s.progress change).established = s.established ∧ (s.progress change).frames = s.frames ∧
      (s.progress change).repeated = s.repeated := by
  unfold Link.progress
  split <;> exact ⟨rfl, rfl, rfl, rfl, rfl⟩

theorem advance_serves (stepped : s.advance = some t) : Serves s t := by
  unfold Link.advance at stepped
  split at stepped
  case h_1 at_ =>
    cases stepped
    refine serves_of_placed (connect_ports s .control) rfl rfl rfl rfl fun placed => ?_
    simp only [Placed, at_] at placed ⊢
    exact ⟨placed.1, (connect_writer s .control).mono fun _ _ => trivial⟩
  case h_2 at_ =>
    cases stepped
    obtain ⟨ready, sessions, established, frames, repeated⟩ :=
      progress_same s fun connection => { connection with authenticated := true }
    refine serves_of_placed (progress_ports s fun _ => rfl) sessions established frames repeated fun placed => ?_
    simp only [Placed, at_] at placed ⊢
    exact ⟨ready.trans placed.1, progress_writer placed.2 fun _ _ => trivial⟩
  case h_3 at_ =>
    cases stepped
    refine moved_serves fun placed => ?_
    simp only [Placed, at_] at placed ⊢
    exact placed
  case h_4 at_ =>
    cases stepped
    refine serves_of_placed (.refl s) rfl rfl rfl rfl fun placed => ?_
    simp only [Placed, at_] at placed ⊢
    exact ⟨placed.1, trivial⟩
  case h_5 at_ =>
    cases stepped
    refine serves_of_placed (connect_ports s .relay) rfl rfl rfl rfl fun placed => ?_
    simp only [Placed, at_] at placed ⊢
    exact ⟨placed.1, connect_writer s .relay⟩
  case h_6 at_ =>
    cases stepped
    obtain ⟨ready, sessions, established, frames, repeated⟩ :=
      progress_same s fun connection => { connection with authenticated := true }
    refine serves_of_placed (progress_ports s fun _ => rfl) sessions established frames repeated fun placed => ?_
    simp only [Placed, at_] at placed ⊢
    exact ⟨ready.trans placed.1, progress_writer placed.2 fun _ port => ⟨port, rfl⟩⟩
  case h_7 at_ =>
    cases stepped
    obtain ⟨-, sessions, established, frames, repeated⟩ :=
      progress_same s fun connection => { connection with ready := true }
    refine serves_of_placed (progress_ports s fun _ => rfl) sessions established frames repeated fun placed => ?_
    simp only [Placed, at_] at placed ⊢
    exact ⟨rfl, progress_writer placed.2 fun _ met => ⟨met.1, met.2, rfl⟩⟩
  case h_8 at_ =>
    cases stepped
    refine moved_serves fun placed => ?_
    simp only [Placed, at_] at placed ⊢
    exact placed
  case h_9 => cases stepped
  case h_10 =>
    split at stepped
    · cases stepped
    · cases stepped
      split
      · exact close_serves s
      · exact retry_serves s
  case h_11 at_ =>
    cases stepped
    refine moved_serves fun placed => ?_
    simp only [Placed, at_] at placed ⊢
    exact placed
  case h_12 at_ =>
    cases stepped
    exact cancelTasks_serves fun placed => by simpa only [Placed, at_] using placed
  case h_13 at_ =>
    split at stepped
    · cases stepped
      refine moved_serves fun placed => ?_
      simp only [Placed, at_] at placed ⊢
      exact placed
    · cases stepped
  case h_14 => cases stepped

theorem fail_serves (stepped : s.fail = some t) : Serves s t := by
  unfold Link.fail at stepped
  split at stepped
  case h_8 at_ =>
    cases stepped
    refine moved_serves fun placed => ?_
    simp only [Placed, at_] at placed ⊢
    exact placed
  case h_9 at_ =>
    cases stepped
    exact cancelTasks_serves fun placed => by simpa only [Placed, at_] using placed
  all_goals
    cases stepped
    try exact retry_serves s

theorem cancel_serves (stepped : s.cancel = some t) : Serves s t := by
  unfold Link.cancel at stepped
  split at stepped
  case h_10 at_ =>
    cases stepped
    refine moved_serves fun placed => ?_
    simp only [Placed, at_] at placed ⊢
    exact placed
  case h_11 at_ =>
    cases stepped
    refine serves_of_placed (.refl s) rfl rfl rfl rfl fun placed => ?_
    simp only [Placed, at_] at placed ⊢
    exact placed
  case h_12 at_ =>
    cases stepped
    exact moved_serves fun placed => by simpa only [Placed, at_] using placed
  case h_13 at_ =>
    cases stepped
    exact moved_serves fun placed => by simpa only [Placed, at_] using placed
  all_goals
    cases stepped
    try exact close_serves s

/-- What an event between two reads does. -/
theorem reading_cases {u : Link} (stepped : s.reading u = some t) : s.serve = .read ∧ t = u := by
  unfold Link.reading at stepped
  split at stepped
  · rename_i at_
    exact ⟨at_, (Option.some.inj stepped).symm⟩
  · cases stepped

/-- A step that only touches the sessions, and none of their counters. -/
theorem sessions_serves {sessions : Dict String (ℕ × PeerSession)} (kept : Kept s { s with peerSessions := sessions }) :
    Serves s { s with peerSessions := sessions } := ⟨.refl s, kept, rfl, rfl, rfl, id⟩

theorem erase_serves (s : Link) (sender : String) : Serves s { s with peerSessions := s.peerSessions.erase sender } := by
  refine sessions_serves fun recipient number session found => ?_
  rw [Dict.get?_erase] at found
  split_ifs at found
  exact ⟨session, found, rfl⟩

/-- A frame that is read moves a counter of its session, not that of sending, or ends the session. -/
theorem receive_serves (sender : String) (frame : Json) (now : ℕ) (s : Link) :
    Serves s (s.receive aead sender frame now) := by
  unfold Link.receive
  split
  · exact moved_serves id
  · rename_i number session found
    rcases SessionOrder.decrypt_cases aead session frame now with ⟨e, opened⟩ | ⟨body, -, -, opened⟩
    · rw [opened]
      exact erase_serves s sender
    · rw [opened]
      refine sessions_serves fun recipient other later found' => ?_
      rw [Dict.get?_insert] at found'
      split_ifs at found' with same
      · subst same
        cases found'
        exact ⟨session, found, rfl⟩
      · exact ⟨later, found', rfl⟩

variable (aead clientId) in
/-- What a step does. -/
theorem step_moves {e : LinkEvent} (stepped : s.step aead clientId e = some t) : Moves s t := by
  cases e with
  | advance => exact .serves (advance_serves stepped)
  | fail => exact .serves (fail_serves stepped)
  | cancel => exact .serves (cancel_serves stepped)
  | spawn id =>
    obtain ⟨-, rfl⟩ := reading_cases stepped
    exact .sends (.quiet ⟨.inl rfl, rfl, rfl, rfl, rfl, rfl, rfl, rfl⟩)
  | leave id =>
    simp only [Link.step] at stepped
    split at stepped
    · cases stepped
    · cases stepped
      exact .sends (.quiet ⟨.inl rfl, rfl, rfl, rfl, rfl, rfl, rfl, rfl⟩)
  | send party message now => exact .sends (send_sends stepped)
  | wake party now => exact .sends (wake_sends stepped)
  | grant now => exact .sends (grant_sends stepped)
  | drained party => exact .sends (.quiet (settle_quiet stepped))
  | broken party => exact .sends (.quiet (settle_quiet stepped))
  | cancelParty party => exact .sends (.quiet (cancelParty_quiet stepped))
  | establish sender sessionId androidToWisp wispToAndroid now =>
    obtain ⟨-, rfl⟩ := reading_cases stepped
    exact .establishes sender _ rfl rfl
  | receive sender frame now =>
    obtain ⟨-, rfl⟩ := reading_cases stepped
    exact .serves (receive_serves sender frame now s)
  | reset sender =>
    obtain ⟨-, rfl⟩ := reading_cases stepped
    exact .serves (erase_serves s sender)

end Serving

/-! ## The counters -/

/-- The sequences of the frames of a session, in the order they were written. -/
def sequencesOf (number : ℕ) (frames : List SentFrame) : List ℕ :=
  (frames.filter fun frame => decide (frame.session = number)).map (·.sequence)

/-- The counter of a session counts its frames. -/
structure Sequenced (s : Link) : Prop where
  known : ∀ recipient number session, s.peerSessions.get? recipient = some (number, session) →
    number < s.established ∧ sequencesOf number s.frames = List.range session.sendSequence
  apart : ∀ recipient other number session session', s.peerSessions.get? recipient = some (number, session) →
    s.peerSessions.get? other = some (number, session') → recipient = other
  consecutive : ∀ number, ∃ count, sequencesOf number s.frames = List.range count
  unused : ∀ number, s.established ≤ number → sequencesOf number s.frames = []

section Counters

variable {s t : Link}

theorem sequencesOf_append (number : ℕ) (frames : List SentFrame) (frame : SentFrame) :
    sequencesOf number (frames ++ [frame]) =
      if frame.session = number then sequencesOf number frames ++ [frame.sequence] else sequencesOf number frames := by
  unfold sequencesOf
  rw [List.filter_append, List.map_append, List.filter_cons]
  split_ifs with same <;> simp_all

/-- Sessions that stay keep their counters. -/
theorem Sequenced.kept (sequenced : Sequenced s) (kept : Kept s t) (established : t.established = s.established)
    (frames : t.frames = s.frames) : Sequenced t := by
  constructor
  · intro recipient number session found
    obtain ⟨before, found', counter⟩ := kept recipient number session found
    rw [established, frames, counter]
    exact sequenced.known recipient number before found'
  · intro recipient other number session session' found found'
    obtain ⟨before, known, -⟩ := kept recipient number session found
    obtain ⟨before', known', -⟩ := kept other number session' found'
    exact sequenced.apart recipient other number before before' known known'
  · exact frames ▸ sequenced.consecutive
  · exact frames ▸ established ▸ sequenced.unused

theorem Quiet.sequenced (quiet : Quiet s t) (sequenced : Sequenced s) : Sequenced t :=
  sequenced.kept (fun _ _ session found => ⟨session, quiet.peerSessions ▸ found, rfl⟩) quiet.established quiet.frames

/-- The frame that is written is the next one of its session. -/
theorem Sequenced.wrote (sequenced : Sequenced s) {recipient : String} {connection number : ℕ}
    {session session' : PeerSession} (found : s.peerSessions.get? recipient = some (number, session))
    (next : session'.sendSequence = session.sendSequence + 1) :
    Sequenced { s with
      peerSessions := s.peerSessions.insert recipient (number, session')
      frames := s.frames ++ [⟨connection, number, session.sendSequence⟩] } := by
  obtain ⟨small, counted⟩ := sequenced.known recipient number session found
  have written : sequencesOf number (s.frames ++ [⟨connection, number, session.sendSequence⟩]) =
      List.range session'.sendSequence := by
    rw [sequencesOf_append, if_pos rfl, counted, next, List.range_succ]
  have others : ∀ other, other ≠ number →
      sequencesOf other (s.frames ++ [⟨connection, number, session.sendSequence⟩]) = sequencesOf other s.frames :=
    fun other ne => by rw [sequencesOf_append, if_neg (Ne.symm ne)]
  have before : ∀ other n later, (s.peerSessions.insert recipient (number, session')).get? other = some (n, later) →
      ∃ earlier, s.peerSessions.get? other = some (n, earlier) ∧
        (other = recipient ∧ later = session' ∨ other ≠ recipient ∧ later = earlier) := by
    intro other n later there
    rw [Dict.get?_insert] at there
    split_ifs at there with same
    · cases there
      exact ⟨session, same ▸ found, .inl ⟨same.symm, rfl⟩⟩
    · exact ⟨later, there, .inr ⟨Ne.symm same, rfl⟩⟩
  constructor
  · intro other n later there
    obtain ⟨earlier, known, ⟨rfl, rfl⟩ | ⟨ne, rfl⟩⟩ := before other n later there
    · obtain ⟨rfl, -⟩ := Prod.mk.inj (Option.some.inj (found.symm.trans known))
      exact ⟨small, written⟩
    · have distinct : n ≠ number := by
        rintro rfl
        exact ne (sequenced.apart other recipient n _ _ known found)
      dsimp only
      rw [others n distinct]
      exact sequenced.known other n later known
  · intro one other n session₁ session₂ there there'
    obtain ⟨earlier, known, -⟩ := before one n session₁ there
    obtain ⟨earlier', known', -⟩ := before other n session₂ there'
    exact sequenced.apart one other n earlier earlier' known known'
  · intro n
    by_cases same : n = number
    · exact ⟨session'.sendSequence, same ▸ written⟩
    · dsimp only
      rw [others n same]
      exact sequenced.consecutive n
  · intro n fresh
    dsimp only at fresh ⊢
    rw [others n (by omega)]
    exact sequenced.unused n fresh

/-- A new session has no frames yet. -/
theorem Sequenced.establishes (sequenced : Sequenced s) {sender : String} {session : PeerSession}
    (fresh : session.sendSequence = 0) :
    Sequenced { s with
      peerSessions := s.peerSessions.insert sender (s.established, session)
      established := s.established + 1 } := by
  have new : ∀ {recipient number session'}, s.peerSessions.get? recipient = some (number, session') →
      number ≠ s.established := fun found => (sequenced.known _ _ _ found).1.ne
  constructor
  · intro recipient number session' found
    dsimp only at found ⊢
    rw [Dict.get?_insert] at found
    split_ifs at found
    · cases found
      exact ⟨Nat.lt_succ_self _, by rw [fresh, sequenced.unused _ le_rfl, List.range_zero]⟩
    · obtain ⟨small, counted⟩ := sequenced.known recipient number session' found
      exact ⟨small.trans (Nat.lt_succ_self _), counted⟩
  · intro recipient other number session₁ session₂ found found'
    dsimp only at found found'
    rw [Dict.get?_insert] at found found'
    split_ifs at found found' with same same' same'
    · exact same.symm.trans same'
    · cases found
      exact absurd rfl (new found')
    · cases found'
      exact absurd rfl (new found)
    · exact sequenced.apart recipient other number session₁ session₂ found found'
  · exact sequenced.consecutive
  · exact fun number above => sequenced.unused number ((Nat.le_succ _).trans above)

end Counters

/-! ## The result -/

/-- What holds in every run. -/
structure Inv (s : Link) : Prop where
  placed : Placed s
  sequenced : Sequenced s
  waits : s.repeated = false

/-- Every session frame was written to a connection on the relay's port. -/
def Relayed (s : Link) : Prop := ∀ frame ∈ s.frames, ∃ connection : Connection,
  s.connections[frame.connection]? = some connection ∧ connection.port = .relay

/-- Nobody gets the lock between the start and the end of a control connection. -/
def OffControl (s : Link) (e : LinkEvent) : Prop := (s.taker e).isSome = true → s.serve.onControl = false

instance (s : Link) (e : LinkEvent) : Decidable (OffControl s e) := inferInstanceAs (Decidable (_ → _))

/-- While the relay is ready the writer is its connection, authenticated and ready; nobody goes round without a wait;
session frames go to the relay's port, and those of a session are numbered without gaps. -/
structure Sound (s : Link) : Prop where
  ready : s.relayReady = true → WriterIs s Ready
  waits : s.repeated = false
  relayed : Relayed s
  consecutive : ∀ number, ∃ count, sequencesOf number s.frames = List.range count

section Result

variable {aead : Aead} {clientId : String} {s t : Link} {e : LinkEvent}

theorem initial_inv (initial : Link.Initial s) : Inv s := by
  obtain rfl := initial
  exact ⟨⟨rfl, rfl⟩, ⟨by simp, by simp, fun _ => ⟨0, rfl⟩, fun _ _ => rfl⟩, rfl⟩

/-- A step keeps the invariant. -/
theorem step_inv (inv : Inv s) (stepped : s.step aead clientId e = some t) : Inv t := by
  rcases step_moves aead clientId stepped with sends | served | ⟨sender, session, fresh, rfl⟩
  · refine ⟨sends.placed inv.placed, ?_, ?_⟩
    · cases sends with
      | quiet same => exact same.sequenced inv.sequenced
      | again lost same => exact same.sequenced (inv.sequenced.kept (.refl s) rfl rfl)
      | wrote connection recipient number session session' writer found next same =>
        exact same.sequenced (inv.sequenced.wrote found next)
    · cases sends with
      | quiet same => exact same.repeated.trans inv.waits
      | again lost same =>
        have unready : s.relayReady = false := by
          by_contra ready
          obtain ⟨index, -, writer, -⟩ := inv.placed.ready (Bool.eq_true_of_not_eq_false ready)
          cases lost.symm.trans writer
        rw [same.repeated]
        simp [inv.waits, unready]
      | wrote connection recipient number session session' writer found next same => exact same.repeated.trans inv.waits
  · exact ⟨served.placed inv.placed, inv.sequenced.kept served.kept served.established served.frames,
      served.repeated.trans inv.waits⟩
  · exact ⟨inv.placed, inv.sequenced.establishes fresh, inv.waits⟩

theorem reach_inv {meets : Link → LinkEvent → Prop} (reach : Reach (Link.step aead clientId) meets Link.Initial s) :
    Inv s :=
  reach.invariant Inv (fun _ => initial_inv) fun _ _ _ _ inv _ => step_inv inv

/-- A frame is written by who gets the lock. -/
theorem writes_taker (stepped : s.step aead clientId e = some t) (wrote : t.frames ≠ s.frames) :
    (s.taker e).isSome = true := by
  have acquired : ∀ {u : Link} {party : Party} {message : Message} {now : ℕ}, u.frames = s.frames →
      (u.acquire aead party message now).frames ≠ s.frames → u.holder = none ∧ u.waiters = [] := by
    intro u party message now same changed
    by_contra busy
    rw [Link.acquire, if_neg busy] at changed
    exact changed same
  cases e with
  | advance => exact absurd (advance_serves stepped).frames wrote
  | fail => exact absurd (fail_serves stepped).frames wrote
  | cancel => exact absurd (cancel_serves stepped).frames wrote
  | spawn id =>
    obtain ⟨-, rfl⟩ := reading_cases stepped
    exact absurd rfl wrote
  | leave id =>
    simp only [Link.step] at stepped
    split at stepped
    · cases stepped
    · cases stepped
      exact absurd rfl wrote
  | send party message now =>
    simp only [Link.step, Link.send] at stepped
    split at stepped
    · cases stepped
    · generalize begun : (if party = .serve then { s with serve := .dispatch } else s) = u at stepped
      have same : u.frames = s.frames ∧ u.relayReady = s.relayReady ∧ u.holder = s.holder ∧ u.waiters = s.waiters := by
        rw [← begun]
        split <;> exact ⟨rfl, rfl, rfl, rfl⟩
      obtain ⟨frames, ready, holder, waiters⟩ := same
      split at stepped
      · cases stepped
        exact absurd frames wrote
      · rename_i passes
        cases stepped
        have free := acquired frames wrote
        rw [holder, waiters] at free
        rw [ready] at passes
        rw [Link.taker, if_pos ⟨passes, free.1, free.2⟩]
        rfl
  | wake party now =>
    simp only [Link.step, Link.wake] at stepped
    split at stepped
    · cases stepped
      have free := acquired rfl wrote
      rw [Link.taker, if_pos free]
      rfl
    · cases stepped
  | grant now =>
    simp only [Link.step, Link.grant] at stepped
    split at stepped
    · rename_i party rest free waiting
      rw [Link.taker, if_pos free, waiting]
      rfl
    · cases stepped
  | drained party => exact absurd (settle_quiet stepped).frames wrote
  | broken party => exact absurd (settle_quiet stepped).frames wrote
  | cancelParty party => exact absurd (cancelParty_quiet stepped).frames wrote
  | establish sender sessionId androidToWisp wispToAndroid now =>
    obtain ⟨-, rfl⟩ := reading_cases stepped
    exact absurd rfl wrote
  | receive sender frame now =>
    obtain ⟨-, rfl⟩ := reading_cases stepped
    exact absurd (receive_serves sender frame now s).frames wrote
  | reset sender =>
    obtain ⟨-, rfl⟩ := reading_cases stepped
    exact absurd rfl wrote

/-- A step that meets the condition writes to the relay's port. -/
theorem step_relayed (inv : Inv s) (relayed : Relayed s) (off : OffControl s e)
    (stepped : s.step aead clientId e = some t) : Relayed t := by
  have stays : PortsStay s t → t.frames = s.frames → Relayed t := by
    intro ports frames frame mem
    obtain ⟨connection, found, port⟩ := relayed frame (frames ▸ mem)
    obtain ⟨later, found', same⟩ := ports _ connection found
    exact ⟨later, found', same.trans port⟩
  have still : t.connections = s.connections → PortsStay s t := fun same _ connection found =>
    ⟨connection, same ▸ found, rfl⟩
  rcases step_moves aead clientId stepped with sends | served | ⟨sender, session, fresh, rfl⟩
  · cases sends with
    | quiet same => exact stays (still same.connections) same.frames
    | again lost same => exact stays (still same.connections) same.frames
    | wrote connection recipient number session session' writer found next same =>
      have gets : (s.taker e).isSome = true := by
        refine writes_taker stepped fun frames => ?_
        have longer := congrArg List.length (same.frames.symm.trans frames)
        simp at longer
      intro frame mem
      rw [same.frames] at mem
      rw [same.connections]
      rcases List.mem_append.mp mem with before | new
      · exact relayed frame before
      · rw [List.mem_singleton.mp new]
        exact inv.placed.relay (off gets) writer
  · exact stays served.ports served.frames
  · exact stays (.refl s) rfl

/-- In every run in which nobody gets the lock while `serve` is on a control connection. -/
theorem reconnects (aead : Aead) (clientId : String) {s : Link}
    (reach : Reach (Link.step aead clientId) OffControl Link.Initial s) : Sound s := by
  have relayed : Relayed s := by
    refine reach.invariant Relayed ?_ fun s e t before relayed off stepped => ?_
    · rintro _ rfl frame mem
      cases mem
    · exact step_relayed (reach_inv before) relayed off stepped
  have inv := reach_inv reach
  exact ⟨inv.placed.ready, inv.waits, relayed, inv.sequenced.consecutive⟩

end Result

section Samples

/-- The first connection to the relay, with a session and two workers. -/
def servingRun : List LinkEvent :=
  List.replicate 7 .advance ++ [.establish "phone" "session" [] [] 0, .spawn 0, .spawn 1]

/-- The connection is lost and made again, up to the next control connection. -/
def lostRun : List LinkEvent := [.fail, .cancelParty .heartbeat, .advance, .advance, .advance]

/-- A worker sends after the reconnection, another one before the connection was lost. -/
def reconnectedRun : List LinkEvent :=
  servingRun ++ [.send (.worker 0) (.session "phone" .null) 0, .drained (.worker 0)] ++ lostRun ++
    [.send (.worker 1) (.session "phone" .null) 0] ++ List.replicate 6 .advance ++ [.wake (.worker 1) 0]

theorem reconnects_twice : ∃ s : Link, s.frames = [⟨1, 0, 0⟩, ⟨3, 0, 1⟩] ∧ Sound s := by
  have ran : (replay (guarded (Link.step paddedAead "laptop") OffControl) {} reconnectedRun).isSome = true := by
    decide
  have initial : Link.Initial {} := rfl
  exact ⟨(replay (guarded (Link.step paddedAead "laptop") OffControl) {} reconnectedRun).getD {}, by decide,
    reconnects paddedAead "laptop" (Reach.of_guarded_defined initial ran)⟩

/-- A worker waits for the lock while another one's frame drains, and gets it when `serve` registers anew. -/
def crossedRun : List LinkEvent :=
  servingRun ++ [.send (.worker 0) (.session "phone" .null) 0, .send (.worker 1) (.session "phone" .null) 0] ++ lostRun ++
    [.drained (.worker 0), .grant 0]

/-- The second frame goes to the control connection. -/
theorem control_frame : ¬ ∀ (aead : Aead) (clientId : String) (s : Link),
    Reach (Link.step aead clientId) anyStep Link.Initial s → Sound s := by
  intro sound
  have ran : (replay (Link.step paddedAead "laptop") {} crossedRun).isSome = true := by decide
  have initial : Link.Initial {} := rfl
  have reach : Reach (Link.step paddedAead "laptop") anyStep Link.Initial
      ((replay (Link.step paddedAead "laptop") {} crossedRun).getD {}) := Reach.of_defined initial ran
  have written : (⟨2, 0, 1⟩ : SentFrame) ∈ ((replay (Link.step paddedAead "laptop") {} crossedRun).getD {}).frames := by
    decide
  obtain ⟨connection, found, port⟩ := (sound _ _ _ reach).relayed _ written
  have control : ((replay (Link.step paddedAead "laptop") {} crossedRun).getD {}).connections[2]? =
      some ⟨.control, false, false⟩ := by decide
  cases control.symm.trans found
  cases port

end Samples

end WispGate.Soundness.Reconnect
