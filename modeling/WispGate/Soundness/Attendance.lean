import WispGate.Soundness.Transfers

/-! # Who attends to a transfer

A `file_begin` is registered before its ready reply is sent, and its worker is created after that.
The steps between are awaits of the loop: as long as every ready reply of a registered transfer is
encrypted and written, no dispatch ends with a transfer that nobody works on. A reply that fails leaves
one behind.
-/

namespace WispGate.Soundness.Attendance

open Data Model Model.Wisp Runtime RuntimeMoves Execution Transfers

/-- No session frame is being dispatched. -/
def Idle (m : Runtime) : Prop := m.pc = .offline ∨ m.pc = .reading ∨ m.pc = .draining

/-- Every transfer of the table has its worker. -/
def Attended (m : Runtime) : Prop :=
  ∀ key transfer, m.tables.transfers.get? key = some transfer → ∃ task, transfer.task = some task

/-- The ready reply of a registered transfer finds a live session that can seal it, and its write ends. -/
def Replied (env : Env) (m : Runtime) : Event → Prop
  | .send => ∀ sender body key, m.pc = .sending sender body (.transfer key) → m.tables.transfers.contains key = true →
      ∃ session sealed, m.peers.sessions.get? sender = some session ∧ session.live m.now = true ∧
        session.sealed env.aead body = .ok sealed
  | .drained written => ∀ key, m.pc = .replied (.transfer key) → m.tables.transfers.contains key = true → written = true
  | _ => True

/-! ## The invariant -/

/-- A worker that was not cancelled. -/
def Busy (transfer : Transfer) : Prop := ∃ task, transfer.task = some task ∧ task.cancelled = false

/-- Whoever is not worked on is about to be dropped or started. -/
def Watched (m : Runtime) : Prop := ∀ key transfer, m.tables.transfers.get? key = some transfer →
  Busy transfer ∨ Sweeping key m.pc ∨ Beginning key m.pc

section Steps

variable {env : Env} {m m' : Runtime} {e : Event} {key : Key} {transfer : Transfer}

/-- A worker that was not cancelled stays so, until it ends. -/
theorem worked_busy {task : Task} (alive : task.cancelled = false) (worked : Worked env m key transfer task m')
    {later : Transfer} (left : m'.tables.transfers.get? key = some later) : Busy later := by
  have set : ∀ (n : Runtime) phase, (n.setPhase key transfer phase).tables.transfers.get? key =
    some later → Busy later := by
    intro n phase left
    obtain rfl := Option.some.inj ((Dict.get?_insert_self _ _ _).symm.trans left)
    exact ⟨_, rfl, rfl⟩
  have ends : ∀ n : Runtime, (n.endWorker key).tables.transfers.get? key = some later → Busy later := by
    intro n left
    cases (Dict.get?_erase_self _ _).symm.trans left
  cases worked with
  | unborn cancelled on =>
    rw [alive] at cancelled
    cases cancelled
  | orphaned cancelled on => exact ends m left
  | stops cancelled idle => exact ends m left
  | proceeds alive next on =>
    unfold workerProceeds at left
    split_ifs at left
    · exact set m _ left
    · exact set (m.record _) _ left
  | fails alive index cause on => exact set _ _ left
  | returns alive on result =>
    unfold workerReturns at left
    split at left
    · exact set _ _ left
    · dsimp only at left
      split_ifs at left
      · exact set _ _ left
      · exact ends _ left
  | sends alive body sealed on encrypted => exact set sealed _ left
  | ends alive body on => exact ends m left

/-- A reply that can be sealed is encrypted. -/
theorem encryptFor_replied {sender : String} {body : Json} {error : PyError} {session : PeerSession}
    {sealed : Bytes × Bytes}
    (held : m.peers.sessions.get? sender = some session) (live : session.live m.now = true)
    (seals : session.sealed env.aead body = .ok sealed) : m.encryptFor env sender body ≠ .error error := by
  obtain ⟨nonce, ciphertext⟩ := sealed
  have encrypted := SessionOrder.encrypt_ok m.now live seals
  unfold encryptFor
  simp only [held, encrypted, seals]
  rintro ⟨⟩

theorem step_watched (watched : Watched m) (replied : Replied env m e)
    (stepped : m.step env e = some m') : Watched m' := by
  intro key later found
  cases before : m.tables.transfers.get? key with
  | none =>
    rcases step_absent before stepped with none | beginning
    · rw [none] at found
      cases found
    · exact .inr (.inr beginning)
  | some transfer =>
    have known : m.tables.transfers.contains key = true := (Dict.contains_iff _ _).mpr ⟨transfer, before⟩
    cases step_treats before stepped with
    | kept left sweeping beginning =>
      obtain rfl := Option.some.inj (left.symm.trans found)
      rcases watched key transfer before with busy | swept | begins
      · exact .inl busy
      · exact .inr (.inl (sweeping swept ▸ swept))
      · exact .inr (.inr (beginning begins))
    | cut message event delivered overdue left sweeping => exact .inr (.inl sweeping)
    | dropped untasked swept left =>
      rw [left] at found
      cases found
    | renewed untasked swept beginning fresh => exact .inr (.inr beginning)
    | unanswered on left lost =>
      rcases lost with ⟨sender, body, error, rfl, on, broken⟩ | rfl
      · obtain ⟨session, sealed, held, live, seals⟩ := replied sender body key on known
        exact absurd broken (encryptFor_replied held live seals)
      · rcases on with ⟨sender, body, on⟩ | on
        · simp [Runtime.step, loopDrained, on] at stepped
        · cases replied key on known
    | started on event resumed left =>
      obtain rfl := Option.some.inj (left.symm.trans found)
      exact .inl ⟨_, rfl, rfl⟩
    | worked move event task running worked =>
      have pc := worked_pc worked
      rcases watched key transfer before with ⟨busy, running', alive⟩ | other
      · rw [running] at running'
        cases running'
        exact .inl (worked_busy alive worked found)
      · exact .inr (pc ▸ other)

end Steps

theorem initial_watched {m : Runtime} (initial : Initial m) : Watched m := by
  intro key transfer found
  rw [initial.2.1] at found
  cases found

theorem idle_awake {m : Runtime} (idle : Idle m) (key : Key) : ¬ Sweeping key m.pc ∧ ¬ Beginning key m.pc := by
  rcases idle with on | on | on
  all_goals
    rw [on]
    exact ⟨not_sweeping (by rintro _ _ _ ⟨⟩), not_beginning rfl⟩

/-- While every ready reply is sent, no dispatch ends with a transfer that nobody works on. -/
theorem attended (env : Env) {m : Runtime} (reach : Reach (Runtime.step env) (Replied env) Initial m) (idle : Idle m) :
    Attended m := by
  have watched := reach.invariant Watched (fun _ => initial_watched) fun _ _ _ _ watched replied =>
    step_watched watched replied
  intro key transfer found
  obtain ⟨awake, resting⟩ := idle_awake idle key
  rcases watched key transfer found with ⟨task, running, -⟩ | swept | begins
  · exact ⟨task, running⟩
  · exact absurd swept awake
  · exact absurd begins resting

/-! ## An upload whose ready reply is lost -/

section Samples

open Provenance NonceReuse Retention

def readyReply : Json := transferResponse "notes" [("type", .str "ready"), ("transfer_id", .str "op1")]

/-- The upload of the phone waits for its ready reply. -/
structure Asked (m : Runtime) : Prop where
  sending : m.pc = .sending "phone" readyReply (.transfer saveKey)
  now : m.now = 0
  tables : m.tables = { transfers := upload none }
  session : m.peers.sessions.get? "phone" = some (wispAt 1)

theorem upload_asked (meets : Runtime → Event → Prop) (met : ∀ m e, (e = .reconnect ∨ (∃ message, e = .frame message) ∨
    e = .drained true) → meets m e) : ∃ m, Reach (Runtime.step handshakeEnv) meets Initial m ∧ Asked m := by
  obtain ⟨m, reach, ready, -⟩ := introduced_ready meets fun m e quiet =>
    met m e (quiet.imp_right (Or.imp_left fun same => ⟨_, same⟩))
  have live : (wispAt 0).live 0 = true := (by decide : (sampleSession 0).live 0 = true)
  obtain ⟨ciphertext, opens⟩ : ∃ ciphertext, (wispAt 0).decrypt handshakeEnv.aead ((phoneAt 0).envelope ciphertext) 0 =
    (wispAt 1, .ok uploadRequest) := phone_opens ⟨rfl, rfl, rfl, rfl, rfl⟩ rfl live (by decide)
  have asked := step_frame handshakeEnv ((phoneAt 0).envelope ciphertext) ready.reading
  rw [onFrame_phone ready.now ready.session opens,
    dispatch_upload (m := m.setSessions (m.peers.sessions.insert "phone" (wispAt 1))) ready.now ready.tables] at asked
  exact ⟨_, reach.next (met _ _ (.inr (.inl ⟨_, rfl⟩))) asked, rfl, ready.now, rfl, Dict.get?_insert_self _ _ _⟩

/-- The ready reply can be sealed, and then its write ends or the connection is lost. -/
theorem Asked.replied {m : Runtime} (asked : Asked m) : Replied handshakeEnv m .send ∧ ∃ sealed,
    m.step handshakeEnv .send = some sealed ∧ sealed.pc = .replied (.transfer saveKey) ∧
    sealed.tables = { transfers := upload none } := by
  have live : (wispAt 1).live m.now = true := asked.now ▸ (by decide : (sampleSession 0).live 0 = true)
  obtain ⟨nonce, ciphertext, seals, -⟩ := SessionOrder.sampleAead_seals (s := wispAt 1) readyReply (by decide)
  constructor
  · intro sender body key on known
    rw [asked.sending] at on
    cases on
    exact ⟨_, _, asked.session, live, seals⟩
  · obtain ⟨nonce, answered⟩ := answer_sent asked.sending asked.session live (by decide)
    exact ⟨_, answered, rfl, asked.tables⟩

theorem attended_upload : ∃ m : Runtime, m.tables.transfers.get? saveKey ≠ none ∧ Attended m := by
  obtain ⟨m, reach, asked⟩ := upload_asked (Replied handshakeEnv) (by
    rintro m e (rfl | ⟨message, rfl⟩ | rfl)
    · trivial
    · trivial
    · exact fun _ _ _ => rfl)
  obtain ⟨replied, sealed, sent, on, tables⟩ := asked.replied
  have reach := reach.next replied sent
  have started : sealed.step handshakeEnv (.drained true) = some ((sealed.startWorker saveKey).goto .reading) := by
    simp only [Runtime.step, loopDrained, on, if_true, continueAfter]
  have written : Replied handshakeEnv sealed (.drained true) := fun _ _ _ => rfl
  have reach := reach.next written started
  refine ⟨_, ?_, attended handshakeEnv reach (.inr (.inl rfl))⟩
  show (sealed.startWorker saveKey).tables.transfers.get? saveKey ≠ none
  rw [startWorker_get?, tables]
  decide

/-- The connection is lost while the ready reply of an upload is written. -/
theorem upload_unattended : ¬ ∀ m, Reach (Runtime.step handshakeEnv) anyStep Initial m → Idle m → Attended m := by
  intro attends
  obtain ⟨m, reach, asked⟩ := upload_asked anyStep fun _ _ _ => trivial
  obtain ⟨-, sealed, sent, on, tables⟩ := asked.replied
  have lost : sealed.step handshakeEnv (.drained false) = some (sealed.goto .offline) := by
    simp only [Runtime.step, loopDrained, on]
    rfl
  have attended := attends _ ((reach.next trivial sent).next trivial lost) (.inl rfl)
  obtain ⟨task, running⟩ := attended saveKey _ ((congrArg (·.transfers.get? saveKey) tables).trans rfl)
  cases running

end Samples

end WispGate.Soundness.Attendance
