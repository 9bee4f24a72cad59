import WispGate.Soundness.Budget

/-! # Callbacks and the files they read

A worker removes the directory of its transfer when it ends. What a callback returned to be awaited ends
with it, but the thread of a callback goes on when the worker is cancelled: the sweep and `close` take the
files from a thread that still reads them. They do not as long as no transfer is cancelled while its
callback is in a thread.
-/

namespace WispGate.Soundness.Callbacks

open Data Model Model.Wisp RuntimeMoves Replies Isolation Execution Transfers Attendance Budget

/-- The callbacks that still run have their files. -/
def Kept (s : Service) : Prop := ∀ call ∈ s.calls, call.directory ∈ s.disk.present

/-- No worker is cancelled while the callback of its transfer is in a thread. -/
def Patient (env : Env) (s : Service) : ServiceEvent → Prop
  | .runtime (.frame message) => (Retention.delivered env s.runtime message).isSome = true → ∀ call ∈ s.calls,
      s.directories.get? call.key = some call.directory → call.key ∈ dueKeys s.runtime → call.awaited = true
  | .cancel => ∀ call ∈ s.calls, call.awaited = true
  | _ => True

/-! ## The invariant -/

/-- The worker of a callback waits for it, and if it was cancelled, the callback is its own. -/
def Waited (s : Service) (call : Call) : Prop :=
  s.directories.get? call.key = some call.directory ∧ ∃ transfer task,
    s.runtime.tables.transfers.get? call.key = some transfer ∧ transfer.task = some task ∧ task.phase = .calling ∧
    (task.cancelled = true → call.awaited = true)

structure Attached (s : Service) : Prop where
  housed : Housed s
  unstarted : Unstarted s.runtime
  waited : ∀ call ∈ s.calls, Waited s call

section Steps

variable {env : Env} {s s' : Service} {m m' : Runtime} {event : Event} {e : ServiceEvent} {key : Key}
  {transfer : Transfer} {task : Task}

theorem Attached.kept (attached : Attached s) : Kept s := fun call mem =>
  (attached.housed.present _).mpr ⟨call.key, (attached.waited call mem).1⟩

theorem calling_iff (m : Runtime) (key : Key) : Service.calling m key = true ↔
    ∃ transfer task, m.tables.transfers.get? key = some transfer ∧ transfer.task = some task ∧ task.phase = .calling := by
  unfold Service.calling
  cases m.tables.transfers.get? key with
  | none => simp
  | some transfer =>
    cases running : transfer.task with
    | none => simp [running]
    | some task => simp [running]

/-- A worker that waits for its callback goes on when that has returned, or ends when it was cancelled. -/
theorem worker_calling {move : WorkerMove} (found : m.tables.transfers.get? key = some transfer)
    (running : transfer.task = some task) (calls : task.phase = .calling)
    (stepped : m.step env (.worker key move) = some m') :
    task.cancelled = true ∧ move = .cancelled ∨ ∃ result, move = .returns result := by
  obtain ⟨phase, cancelled⟩ := task
  dsimp only at calls
  subst calls
  simp only [Runtime.step, Runtime.onWorker, found, running] at stepped
  cases cancelled with
  | true =>
    cases move with
    | cancelled => exact .inl ⟨rfl, rfl⟩
    | _ => simp [Runtime.workerStep] at stepped
  | false =>
    cases move with
    | returns result => exact .inr ⟨result, rfl⟩
    | _ => simp [Runtime.workerStep] at stepped

/-- A worker that is still there after a step of its own was not cancelled. -/
theorem worked_uncancelled (worked : Worked env m key transfer task m') {later : Transfer} {task' : Task}
    (left : m'.tables.transfers.get? key = some later) (running : later.task = some task') : task'.cancelled = false := by
  cases alive : task.cancelled with
  | false =>
    obtain ⟨task'', running', alive'⟩ := worked_busy alive worked left
    cases running.symm.trans running'
    exact alive'
  | true =>
    cases worked with
    | unborn cancelled on =>
      cases (Dict.get?_insert_self _ _ _).symm.trans left
      cases running
    | orphaned cancelled on => cases (Dict.get?_erase_self _ _).symm.trans left
    | stops cancelled idle => cases (Dict.get?_erase_self _ _).symm.trans left
    | proceeds alive' next on => cases alive.symm.trans alive'
    | fails alive' index cause on => cases alive.symm.trans alive'
    | returns alive' on result => cases alive.symm.trans alive'
    | sends alive' body sealed on encrypted => cases alive.symm.trans alive'
    | ends alive' body on => cases alive.symm.trans alive'

/-- A transfer with a worker is not one that a step has just registered. -/
theorem registered_untasked (unstarted : Unstarted m) (found : m.tables.transfers.get? key = some transfer)
    (running : transfer.task = some task) : Service.registered event m ≠ some key := by
  intro registered
  have begins : Beginning key m.pc := by
    unfold Service.registered at registered
    split at registered
    · rename_i on
      split_ifs at registered
      cases registered
      exact .inl ⟨_, _, on⟩
    · rename_i on
      split_ifs at registered
      cases registered
      exact .inl ⟨_, _, on⟩
    · cases registered
  rw [unstarted key begins transfer found] at running
  cases running

/-- What a step of the runtime leaves of a callback that is waited for. -/
theorem Waited.follow {call : Call} (waited : Waited s call) (mem : call ∈ s.calls) (unstarted : Unstarted s.runtime)
    (patient : Patient env s (.runtime event)) (unblocked : s.waiting event = false)
    (stepped : s.runtime.step env event = some m) : Waited (s.follow event m) call := by
  obtain ⟨held, transfer, task, found, running, calls, own⟩ := waited
  have later : ∃ transfer' task', m.tables.transfers.get? call.key = some transfer' ∧ transfer'.task = some task' ∧
      task'.phase = .calling ∧ (task'.cancelled = true → call.awaited = true) := by
    cases step_treats found stepped with
    | kept left sweeping beginning => exact ⟨transfer, task, left, running, calls, own⟩
    | cut message event delivered overdue left sweeping =>
      subst event
      have awaited := patient delivered call mem held ((mem_dueKeys found).mpr overdue)
      exact ⟨_, { task with cancelled := true }, left, by simp [cut, running], calls, fun _ => awaited⟩
    | dropped untasked swept left =>
      rw [untasked] at running
      cases running
    | renewed untasked swept beginning fresh =>
      rw [untasked] at running
      cases running
    | unanswered on left lost => exact ⟨transfer, task, left, running, calls, own⟩
    | started on event resumed left =>
      rw [unstarted call.key (.inr on) transfer found] at running
      cases running
    | worked move event task' running' worked =>
      subst event
      have waits : s.calls.any (fun call' => decide (s.directories.get? call.key = some call'.directory)) = true :=
        List.any_eq_true.mpr ⟨call, mem, decide_eq_true held⟩
      rcases worker_calling found running calls stepped with ⟨cancelled, rfl⟩ | ⟨result, rfl⟩
      · have blocked : s.waiting (.worker call.key .cancelled) = true :=
          List.any_eq_true.mpr ⟨call, mem, by simp [own cancelled, held]⟩
        rw [blocked] at unblocked
        cases unblocked
      · exact absurd (waits.symm.trans unblocked) (by simp)
  obtain ⟨transfer', task', found', running', calls', own'⟩ := later
  refine ⟨?_, transfer', task', by rw [follow_runtime]; exact found', running', calls', own'⟩
  have known : m.tables.transfers.contains call.key = true := (Dict.contains_iff _ _).mpr ⟨transfer', found'⟩
  rw [follow_directories, if_neg (registered_untasked (step_unstarted unstarted stepped) found' running'), if_pos known]
  exact held

/-- What was said of a callback only looks at the tables and the directories. -/
theorem Waited.same {call : Call} (waited : Waited s call) (runtime : s'.runtime = s.runtime)
    (directories : s'.directories = s.directories) : Waited s' call := by
  unfold Waited at *
  rw [runtime, directories]
  exact waited

/-- A callback that starts is waited for. -/
theorem starts_waited (env : Env) (waited : ∀ call ∈ s.calls, Waited s call)
    (stepped : m.step env event = some s.runtime) :
    ∀ call ∈ (s.starts m event).calls, Waited (s.starts m event) call := by
  obtain ⟨runtime, directories, -⟩ := starts_frame s m event
  intro call mem
  refine .same ?_ runtime directories
  unfold Service.starts at mem
  split at mem
  · rename_i key move
    split_ifs at mem with began
    · split at mem
      · rename_i directory held
        rcases List.mem_cons.mp mem with rfl | mem
        · obtain ⟨transfer, task, found, running, calls⟩ := (calling_iff _ _).mp began.2
          obtain ⟨before, task', found', running', worked⟩ := worker_worked stepped
          refine ⟨held, transfer, task, found, running, calls, fun cancelled => ?_⟩
          cases (worked_uncancelled worked found running).symm.trans cancelled
        · exact waited call mem
      · exact waited call mem
    · exact waited call mem
  · exact waited call mem

theorem step_attached (attached : Attached s) (patient : Patient env s e) (stepped : s.step env e = some s') :
    Attached s' := by
  have housed := step_housed attached.housed stepped
  obtain ⟨before, unstarted, waited⟩ := attached
  cases e with
  | runtime event =>
    simp only [Service.step] at stepped
    split_ifs at stepped with blocked
    obtain ⟨m, ran, rfl⟩ := Option.map_eq_some_iff.mp stepped
    rw [Bool.not_eq_true, Bool.or_eq_false_iff] at blocked
    refine ⟨housed, ?_, ?_⟩
    · rw [(starts_frame _ _ _).1, follow_runtime]
      exact step_unstarted unstarted ran
    · refine starts_waited env ?_ ?_
      · intro call mem
        rw [(follow_frame s event m).1] at mem
        exact (waited call mem).follow mem unstarted patient blocked.2 ran
      · rw [follow_runtime]
        exact ran
  | awaits directory =>
    simp only [Service.step] at stepped
    split_ifs at stepped
    cases stepped
    refine ⟨housed, unstarted, fun call mem => ?_⟩
    obtain ⟨original, listed, rfl⟩ := List.mem_map.mp mem
    obtain ⟨held, transfer, task, found, running, calls, own⟩ := waited original listed
    split_ifs
    · exact ⟨held, transfer, task, found, running, calls, fun _ => rfl⟩
    · exact ⟨held, transfer, task, found, running, calls, own⟩
  | ends directory =>
    cases stepped
    exact ⟨housed, unstarted, fun call mem => waited call (List.mem_filter.mp mem).1⟩
  | close =>
    simp only [Service.step] at stepped
    split_ifs at stepped
    cases stepped
    exact ⟨housed, fun key begins => absurd begins (not_beginning rfl), waited⟩
  | cancel =>
    simp only [Service.step] at stepped
    split_ifs at stepped
    cases stepped
    refine ⟨housed, fun key begins transfer found => ?_, fun call mem => ?_⟩
    · obtain ⟨original, held, rfl⟩ := Option.map_eq_some_iff.mp ((cancelAll_get? s.runtime key).symm.trans found)
      simp [cut, unstarted key begins original held]
    · obtain ⟨held, transfer, task, found, running, calls, own⟩ := waited call mem
      refine ⟨held, cut transfer, { task with cancelled := true }, ?_,
        by simp [cut, running], calls, fun _ => patient call mem⟩
      exact (cancelAll_get? s.runtime call.key).trans (by rw [found]; rfl)
  | closed =>
    simp only [Service.step] at stepped
    split_ifs at stepped with ended
    cases stepped
    refine ⟨housed, by rintro _ _ _ ⟨⟩, fun call mem => ?_⟩
    obtain ⟨held, transfer, task, found, running, calls, own⟩ := waited call mem
    have untasked := List.all_eq_true.mp ended.2 transfer ((Dict.mem_values_iff _ _).mpr ⟨call.key, found⟩)
    rw [running] at untasked
    cases untasked

theorem initial_attached (initial : Service.Initial s) : Attached s := by
  refine ⟨initial_housed initial, fun key begins transfer found => ?_, fun call mem => ?_⟩
  · rw [initial.1.2.1] at found
    cases found
  · rw [initial.2.2.2.1] at mem
    cases mem

end Steps

section Samples

open Provenance NonceReuse Retention

variable {env : Env} {s : Service} {m : Runtime} {event : Event}

/-- A step of the runtime in which no callback starts. -/
theorem service_goes (opened : s.closing = false) (unblocked : s.waiting event = false)
    (stepped : s.runtime.step env event = some m)
    (quiet : ∀ key move, event = .worker key move → Service.calling m key = false ∨
      Service.calling s.runtime key = true) :
    ∃ s', s.step env (.runtime event) = some s' ∧ s'.runtime = m ∧ s'.closing = false ∧ s'.calls = s.calls := by
  have moved := step_runtime opened unblocked stepped
  obtain ⟨calls, closing⟩ := follow_frame s event m
  have same : (s.follow event m).starts s.runtime event = s.follow event m := by
    unfold Service.starts
    split
    · rename_i key move
      rw [follow_runtime, if_neg]
      rintro ⟨before, after⟩
      rcases quiet key move rfl with idle | busy
      · cases idle.symm.trans after
      · cases before.symm.trans busy
    · rfl
  rw [same] at moved
  exact ⟨_, moved, follow_runtime s event m, closing.trans opened, calls⟩

/-- The step in which the worker of a transfer starts its callback. -/
theorem service_calls {key : Key} {move : WorkerMove} (housed : Housed s) (opened : s.closing = false)
    (unblocked : s.waiting (.worker key move) = false) (stepped : s.runtime.step env (.worker key move) = some m)
    (before : Service.calling s.runtime key = false) (after : Service.calling m key = true) :
    ∃ s' directory, s.step env (.runtime (.worker key move)) = some s' ∧ s'.runtime = m ∧ s'.closing = false ∧
      s'.calls = { key := key, directory := directory } :: s.calls := by
  have moved := step_runtime opened unblocked stepped
  have runtime := follow_runtime s (.worker key move) m
  obtain ⟨calls, closing⟩ := follow_frame s (.worker key move) m
  obtain ⟨transfer, task, found, -⟩ := (calling_iff _ _).mp after
  obtain ⟨directory, held⟩ := ((follow_housed housed stepped).keys key).mpr ⟨transfer, runtime.symm ▸ found⟩
  simp only [Service.starts, runtime, before, after, and_self, if_true, held] at moved
  exact ⟨_, directory, moved, runtime, closing.trans opened, congrArg _ calls⟩

/-- The worker of the phone's upload, at some phase. -/
structure Working (task : Task) (now : ℕ) (m : Runtime) : Prop where
  reading : m.pc = .reading
  now : m.now = now
  tables : m.tables = { transfers := upload (some task) }
  session : m.peers.sessions.get? "phone" = some answeredSession

theorem upload_started : ∃ m, Reach (Runtime.step handshakeEnv) (fun _ e => ∀ key move, e ≠ .worker key move)
    Runtime.Initial m ∧ Working {} 0 m := by
  obtain ⟨m, reach, asked⟩ := upload_asked (fun _ e => ∀ key move, e ≠ .worker key move) (by
    rintro m e (rfl | ⟨message, rfl⟩ | rfl) key move
    all_goals simp)
  have live : (wispAt 1).live m.now = true := asked.now ▸ (by decide : (sampleSession 0).live 0 = true)
  obtain ⟨nonce, answered⟩ := answer_sent asked.sending asked.session live (by decide)
  obtain ⟨sealed, sent, on, now, tables, session⟩ : ∃ sealed : Runtime, m.step handshakeEnv .send = some sealed ∧
      sealed.pc = .replied (.transfer saveKey) ∧ sealed.now = 0 ∧ sealed.tables = { transfers := upload none } ∧
      sealed.peers.sessions.get? "phone" = some answeredSession :=
    ⟨_, answered, rfl, asked.now, asked.tables, Dict.get?_insert_self _ _ _⟩
  have started : sealed.step handshakeEnv (.drained true) = some ((sealed.startWorker saveKey).goto .reading) := by
    simp only [Runtime.step, Runtime.loopDrained, on, if_true, Runtime.continueAfter]
  refine ⟨_, (reach.next ?_ sent).next ?_ started, rfl, now, ?_, session⟩
  · intro key move same
    cases same
  · intro key move same
    cases same
  · obtain ⟨now, peers, tables', pc, orphans, log⟩ := sealed
    obtain rfl := tables
    rfl

theorem Working.step {task : Task} {now : ℕ} (working : Working task now m) (move : WorkerMove) (task' : Task)
    (moves : ∀ peers orphans log, ∃ log', (⟨now, peers, { transfers := upload (some task) }, .reading, orphans, log⟩ :
      Runtime).step handshakeEnv (.worker saveKey move) =
        some ⟨now, peers, { transfers := upload (some task') }, .reading, orphans, log'⟩) :
    ∃ m', m.step handshakeEnv (.worker saveKey move) = some m' ∧ Working task' now m' := by
  obtain ⟨now', peers, tables, pc, orphans, log⟩ := m
  obtain ⟨rfl, rfl, rfl, session⟩ := working
  obtain ⟨log', moved⟩ := moves peers orphans log
  exact ⟨_, moved, rfl, rfl, rfl, session⟩

theorem Working.calling {task : Task} {now : ℕ} (working : Working task now m) :
    Service.calling m saveKey = decide (task.phase = .calling) := by
  unfold Service.calling
  rw [working.tables]
  rfl

/-- The callback of the upload runs in its thread. -/
theorem upload_called (meets : Service → ServiceEvent → Prop) (met : ∀ s e, s.calls = [] → meets s e) :
    ∃ s directory, Reach (Service.step handshakeEnv) meets Service.Initial s ∧ s.closing = false ∧
      s.calls = [{ key := saveKey, directory := directory }] ∧ Working { phase := .calling } 0 s.runtime := by
  obtain ⟨m, started, working⟩ := upload_started
  obtain ⟨s, reach, rfl, idle, opened⟩ := loop_service handshakeEnv met started
  have unblocked : ∀ (s : Service) move, s.calls = [] → s.waiting (.worker saveKey move) = false := by
    intro s move none
    cases move <;> simp [Service.waiting, none]
  obtain ⟨m', begun, working'⟩ := working.step .begin { phase := .receiving 0 }
    fun peers orphans log => ⟨log, rfl⟩
  obtain ⟨s', moved, rfl, opened', calls⟩ := service_goes opened (unblocked s _ idle) begun (by
    rintro key move same
    cases same
    exact .inl working'.calling)
  have reach := reach.next (met _ _ idle) moved
  have idle' := calls.trans idle
  obtain ⟨m'', received, working''⟩ := working'.step .received { phase := .calling }
    fun peers orphans log => ⟨_, rfl⟩
  obtain ⟨housed, -⟩ := (budget handshakeEnv reach.any).2
  obtain ⟨s'', directory, moved', rfl, opened'', calls'⟩ := service_calls housed opened' (unblocked s' _ idle') received
    working'.calling working''.calling
  exact ⟨s'', directory, reach.next (met _ _ idle') moved', opened'', idle' ▸ calls', working''⟩

/-- The tables while a sweep waits for the cancelled worker. -/
def cutTables : Tables where
  transfers := upload (some { phase := .calling, cancelled := true })
  completed := Dict.empty.insert saveKey (601, operationStatusBody "notes" "indeterminate" "op1")

theorem dispatch_overdue (now : m.now = 601) (tables : m.tables = { transfers := upload (some { phase := .calling }) }) :
    m.dispatch handshakeEnv "phone" resumeRequest = (m.withTables cutTables).goto
      (.sweeping "phone" resumeRequest [saveKey]) := by
  obtain ⟨now', peers, tables', pc, orphans, log⟩ := m
  dsimp only at now tables
  subst now tables
  rfl

/-- Ten minutes into the callback, the phone's next frame finds the transfer overdue. -/
theorem overdue_asked (working : Working { phase := .calling } 601 m) : ∃ ciphertext m',
    m.step handshakeEnv (.frame ((phoneAt 1).envelope ciphertext)) = some m' ∧
    m'.pc = .sweeping "phone" resumeRequest [saveKey] ∧ m'.tables = cutTables := by
  have live : answeredSession.live 601 = true := (by decide : (sampleSession 0).live 601 = true)
  obtain ⟨ciphertext, opens⟩ : ∃ ciphertext, answeredSession.decrypt handshakeEnv.aead ((phoneAt 1).envelope ciphertext)
    601 = ({ answeredSession with receiveSequence := 2 }, .ok resumeRequest) :=
    phone_opens ⟨rfl, rfl, rfl, rfl, rfl⟩ rfl live (by decide)
  have asked := step_frame handshakeEnv ((phoneAt 1).envelope ciphertext) working.reading
  rw [onFrame_phone working.now working.session opens, dispatch_overdue
    (m := m.setSessions (m.peers.sessions.insert "phone"
    { answeredSession with receiveSequence := 2 })) working.now working.tables] at asked
  exact ⟨ciphertext, _, asked, rfl, rfl⟩

theorem overdue_cancelled (on : m.pc = .sweeping "phone" resumeRequest [saveKey]) (tables : m.tables = cutTables) :
    ∃ m', m.step handshakeEnv (.worker saveKey .cancelled) = some m' ∧ m'.tables.transfers = .empty := by
  obtain ⟨now, peers, tables', pc, orphans, log⟩ := m
  obtain rfl := on
  obtain rfl := tables
  exact ⟨_, rfl, rfl⟩

end Samples

end WispGate.Soundness.Callbacks
