import WispGate.Soundness.Execution

/-! # What is retained of an operation

A result that is retained answers every later request for its operation. Nothing checks that before
another result is retained under the same key: the sweep does it for a transfer whose worker still
delivers, and so does a callback of the other kind that was started under the same id.
-/

namespace WispGate.Soundness.Retention

open Data Model Model.Wisp Runtime Handshakes RuntimeMoves Dispatching

/-! ## Requests and answers -/

/-- The operation that a body asks about, and whether it only resumes it. -/
def asks (env : Env) (body : Json) : Option (String × Bool) :=
  match body.get "wisp_id" with
  | .str wisp =>
    if wisp ∉ env.wisps then none
    else if (body.get "action").pyEq (.str "operation_resume") then
      some ((body.getD "operation_id" (.str "")).display env.printable, true)
    else if (body.get "action").pyEq (.str "state_request") then none
    else if (body.get "action").pyEq (.str "file_begin") then some (transferIdOf env.printable body, false)
    else ((body.get "operation_id").asStr?.filter fun id => decide (id ≠ "" ∧ id.length ≤ 128)).map fun id => (id, false)
  | _ => none

/-- The retained body, with the marker of a completed operation on a resume. -/
def answerTo (retained : Json) (operationId : String) (resumes : Bool) : Json :=
  if resumes then resumedBody retained operationId else retained

/-- The peer and the body of a session frame that reaches the dispatcher. -/
def delivered (env : Env) (m : Runtime) (message : Json) : Option (String × Json) :=
  if message.isObj ∧ message.get "type" = .str "session_envelope" then
    match message.get "sender" with
    | .str sender =>
      (m.peers.sessions.get? sender).bind fun session =>
        match session.decrypt env.aead message m.now with
        | (_, .ok body) => some (sender, body)
        | _ => none
    | _ => none
  else none

/-- A step that retains no other result for an operation: no sweep expires its transfer, and no
callback or worker of it ends. -/
def Spares (env : Env) (key : Key) (m : Runtime) : Event → Prop
  | .frame message => (delivered env m message).isSome = true → key ∉ (m.tables.overdue m.now).map Prod.fst
  | .returns _ => ∀ wisp, m.pc ≠ .action key.1 wisp key.2
  | .worker other move => other = key → match move with
    | .failed _ | .returns _ => False
    | _ => True
  | _ => True

/-- A request for an operation is answered with what is retained, at once or when the sweep ends. -/
structure Answers (env : Env) (key : Key) (retained : Json) (m : Runtime) (e : Event) (m' : Runtime) : Prop where
  frame : ∀ message body resumes, e = .frame message → delivered env m message = some (key.1, body) →
    asks env body = some (key.2, resumes) → m'.pc = .sending key.1 (answerTo retained key.2 resumes) .done ∨
      ∃ due, m'.pc = .sweeping key.1 body due
  swept : ∀ body due resumes, e = .swept → m.pc = .sweeping key.1 body due → asks env body = some (key.2, resumes) →
    m'.pc = .sending key.1 (answerTo retained key.2 resumes) .done

/-! ## The tables -/

section Tables

variable {t : Tables} {now since : ℕ} {key : Key} {retained : Json} {printable : Char → Bool} {wisps : List String}
  {sender : String} {body : Json}

theorem remember_other {operationId : String} (other : (sender, operationId) ≠ key) :
    (t.remember sender operationId body now).completed.get? key = t.completed.get? key := by
  unfold Tables.remember
  split_ifs
  · rfl
  · exact Dict.get?_insert_of_ne _ _ other

theorem expire_other {entry : Key × Transfer} (other : entry.1 ≠ key) :
    (t.expire entry now).completed.get? key = t.completed.get? key := remember_other other

theorem foldl_expire_other {due : List (Key × Transfer)} (other : key ∉ due.map Prod.fst) :
    (due.foldl (fun tables entry => tables.expire entry now) t).completed.get? key = t.completed.get? key := by
  induction due generalizing t with
  | nil => rfl
  | cons entry rest ih =>
    rw [List.map_cons, List.mem_cons, not_or] at other
    exact (ih other.2).trans (expire_other (Ne.symm other.1))

theorem expireCompleted_current (found : t.completed.get? key = some (since, retained))
    (current : now ≤ since + completedOperationTtlSeconds) :
    (t.expireCompleted now).completed.get? key = some (since, retained) := by
  rw [Tables.expireCompleted, Dict.get?_filter, found]
  simp [Option.filter, current]

theorem chosen_completed {t' : Tables} {choice : Choice} (chosen : Chosen printable wisps t sender body now t' choice) :
    t'.completed = t.completed := by
  cases chosen <;> rfl

/-- A request for a retained operation is answered with its result. -/
theorem choose_retained {env : Env} {operationId : String} {resumes : Bool}
    (asked : asks env body = some (operationId, resumes))
    (found : t.completed.get? (sender, operationId) = some (since, retained))
    (current : now ≤ since + completedOperationTtlSeconds) :
    (choose env.printable env.wisps t sender body now).2 = .answer (answerTo retained operationId resumes) := by
  have still := expireCompleted_current found current
  unfold asks at asked
  unfold choose
  dsimp only
  cases named : body.get "wisp_id" with
  | str wisp =>
    rw [named] at asked
    simp only [Json.hashKey?] at asked ⊢
    split_ifs at asked ⊢ with known resumed state file
    · cases asked
      simp [resume, still, answerTo]
    · cases asked
      simp [fileBegin, still, answerTo]
    · obtain ⟨id, read, same⟩ := Option.map_eq_some_iff.mp asked
      cases same
      obtain ⟨read, wellFormed⟩ := Option.filter_eq_some_iff.mp read
      obtain ⟨nonempty, short⟩ := of_decide_eq_true wellFormed
      unfold inlineAction
      simp only [read]
      rw [if_neg (not_or.mpr ⟨nonempty, Nat.not_lt.mpr short⟩), still]
      rfl
  | _ => simp [named] at asked

end Tables

/-! ## Steps -/

section Steps

variable {env : Env} {m m' : Runtime} {key : Key} {since : ℕ} {retained body : Json} {sender : String} {due : List Key}

/-- What is retained for a key. -/
def Holds (key : Key) (since : ℕ) (retained : Json) (m : Runtime) : Prop :=
  m.tables.completed.get? key = some (since, retained)

theorem Holds.keep (holds : Holds key since retained m) (same : m'.tables.completed = m.tables.completed) :
    Holds key since retained m' := by
  unfold Holds
  rw [same]
  exact holds

theorem afterSweep_holds (holds : Holds key since retained m) (current : m.now ≤ since + completedOperationTtlSeconds) :
    Holds key since retained (m.afterSweep env sender body due) := by
  have dropped : (m.tables.drop due).completed.get? key = some (since, retained) := holds
  have still := expireCompleted_current dropped current
  have chosen := choose_chosen env.printable env.wisps sender body m.now (m.tables.drop due)
  have kept : (choose env.printable env.wisps (m.tables.drop due) sender body m.now).1.completed.get? key =
      some (since, retained) := by
    rw [chosen_completed chosen]
    exact still
  unfold Holds afterSweep
  generalize choose env.printable env.wisps (m.tables.drop due) sender body m.now = chose at chosen kept
  obtain ⟨tables, choice⟩ := chose
  dsimp only at chosen kept ⊢
  cases choice with
  | unhashable => exact (raises_tables (m.withTables tables) .type) ▸ kept
  | action wisp operationId actionData =>
    cases chosen with
    | acts _ _ known named kind read nonempty short uncompleted inactive =>
      have other : (sender, operationId) ≠ key := by
        rintro rfl
        rw [still] at uncompleted
        cases uncompleted
      simp only [act]
      split
      · unfold abandon
        rw [raises_tables]
        exact (remember_other other).trans kept
      · exact kept
  | _ => exact kept

theorem dispatch_holds (holds : Holds key since retained m) (current : m.now ≤ since + completedOperationTtlSeconds)
    (spared : key ∉ (m.tables.overdue m.now).map Prod.fst) : Holds key since retained (m.dispatch env sender body) := by
  have swept : Holds key since retained (m.withTables ((m.tables.overdue m.now).foldl
      (fun tables entry => tables.expire entry m.now) m.tables)) := (foldl_expire_other spared).trans holds
  unfold dispatch
  dsimp only
  split_ifs
  · exact swept
  · exact afterSweep_holds swept current

theorem returned_holds {result : Result} (holds : Holds key since retained m)
    (spared : ∀ wisp, m.pc ≠ .action key.1 wisp key.2) (stepped : m.returned result = some m') :
    Holds key since retained m' := by
  unfold returned at stepped
  split at stepped
  · split at stepped
    · cases stepped
      exact holds.keep (congrArg Tables.completed (raises_tables ..))
    · cases stepped
      exact holds.keep (congrArg Tables.completed (respond_tables ..))
  · rename_i sender wisp operationId on
    have other : (sender, operationId) ≠ key := by
      rintro rfl
      exact spared wisp on
    dsimp only at stepped
    split at stepped
    · cases stepped
      unfold Holds abandon
      rw [raises_tables]
      exact (remember_other other).trans holds
    · cases stepped
      unfold Holds
      rw [respond_tables]
      dsimp only [Runtime.withTables]
      split
      · exact (remember_other other).trans holds
      · exact holds
  · cases stepped

theorem encryptFor_tables {peer : String} (encrypted : m.encryptFor env peer body = .ok m') : m'.tables = m.tables := by
  obtain ⟨session, frame, nonce, ciphertext, -, -, -, rfl⟩ := encryptFor_ok encrypted
  rfl

/-- The moves of a worker other than the end of a file or of its callback retain nothing. -/
theorem workerStep_completed {transfer : Transfer} {task : Task} {move : WorkerMove}
    (spared : match move with | .failed _ | .returns _ => False | _ => True)
    (stepped : m.workerStep env key transfer task move = some m') : m'.tables.completed = m.tables.completed := by
  have proceeds : ∀ next, (m.workerProceeds key transfer next).tables.completed = m.tables.completed := by
    intro next
    unfold workerProceeds
    split_ifs <;> rfl
  unfold workerStep at stepped
  split at stepped
  · cases stepped
    rfl
  · cases stepped
    rfl
  · cases stepped
    rfl
  · cases stepped
  · cases stepped
    exact proceeds _
  · cases stepped
    exact proceeds _
  · exact spared.elim
  · exact spared.elim
  · split_ifs at stepped
    split at stepped
    · rename_i sealed encrypted
      cases stepped
      have same := encryptFor_tables encrypted
      show sealed.tables.completed = m.tables.completed
      rw [same]
    · cases stepped
      rfl
  · cases stepped
    rfl
  · cases stepped

theorem worked_holds {other : Key} {transfer : Transfer} {task : Task} (holds : Holds key since retained m)
    (apart : other ≠ key) (worked : Worked env m other transfer task m') : Holds key since retained m' := by
  have fails : ∀ (m : Runtime) (cause : String), Holds key since retained m →
      Holds key since retained (m.workerFails other transfer cause) :=
    fun m cause holds => (remember_other apart).trans holds
  cases worked with
  | proceeds alive next on =>
    unfold workerProceeds
    split_ifs <;> exact holds
  | fails alive index cause on => exact fails m cause holds
  | returns alive on result =>
    unfold workerReturns
    split
    · exact fails _ _ holds
    · dsimp only
      split_ifs <;> exact (remember_other apart).trans holds
  | sends alive body sealed on encrypted =>
    have same := encryptFor_tables encrypted
    show sealed.tables.completed.get? key = _
    rw [same]
    exact holds
  | _ => exact holds

/-- A session frame reaches the dispatcher, or leaves the tables alone. -/
theorem onSessionEnvelope_delivered {message : Json} (line : message.isObj = true)
    (kind : message.get "type" = .str "session_envelope") :
    (∃ sender body session, delivered env m message = some (sender, body) ∧
      m.onSessionEnvelope env message = (m.setSessions (m.peers.sessions.insert sender
        session)).dispatch env sender body) ∨
    (delivered env m message = none ∧ (m.onSessionEnvelope env message).tables = m.tables) := by
  unfold delivered onSessionEnvelope
  rw [if_pos ⟨line, kind⟩]
  cases named : message.get "sender" with
  | str sender =>
    cases found : m.peers.sessions.get? sender with
    | none => exact .inr ⟨by simp [found], by simp [found, Runtime.goto]⟩
    | some session =>
      rcases opened : session.decrypt env.aead message m.now with ⟨session', e | body⟩
      · exact .inr ⟨by simp [found, opened], by simp [found, opened, Runtime.goto, Runtime.setSessions]⟩
      · exact .inl ⟨sender, body, session', by simp [found, opened], by simp [found, opened]⟩
  | _ =>
    refine .inr ⟨rfl, ?_⟩
    dsimp only
    split_ifs
    · exact raises_tables _ _
    · rfl

/-- A frame reaches the dispatcher, or leaves the tables alone. -/
theorem onFrame_delivered (env : Env) (m : Runtime) (message : Json) :
    (∃ sender body session, delivered env m message = some (sender, body) ∧
      m.onFrame env message = (m.setSessions (m.peers.sessions.insert sender session)).dispatch env sender body) ∨
    (delivered env m message = none ∧ (m.onFrame env message).tables = m.tables) := by
  have other : message.get "type" ≠ .str "session_envelope" → delivered env m message = none :=
    fun kind => if_neg fun both => kind both.2
  unfold onFrame
  split_ifs with line ping envelope session reset
  · refine .inr ⟨other (by simp [ping]), ?_⟩
    split
    · split_ifs <;> rfl
    · rfl
  · refine .inr ⟨other (by simp [envelope]), ?_⟩
    unfold onEnvelope
    split
    · rfl
    · split
      · dsimp only
        split <;> rfl
      · rfl
  · exact onSessionEnvelope_delivered (by simpa using line) session
  · refine .inr ⟨other session, ?_⟩
    unfold onSessionReset
    split_ifs
    · rfl
    · split
      · rfl
      · split_ifs <;> rfl
  · exact .inr ⟨other session, rfl⟩
  · exact .inr ⟨if_neg fun both => line (by simp [both.1]), rfl⟩

theorem step_holds {e : Event} (holds : Holds key since retained m)
    (current : m.now ≤ since + completedOperationTtlSeconds) (spared : Spares env key m e)
    (stepped : m.step env e = some m') : Holds key since retained m' := by
  cases e with
  | tick seconds =>
    cases stepped
    exact holds
  | frame message =>
    simp only [Runtime.step] at stepped
    split_ifs at stepped
    cases stepped
    rcases onFrame_delivered env m message with ⟨sender, body, session, reached, served⟩ | ⟨-, same⟩
    · rw [served]
      exact dispatch_holds (m := m.setSessions _) holds current (spared (by rw [reached]; rfl))
    · exact holds.keep (congrArg Tables.completed same)
  | eof =>
    simp only [Runtime.step] at stepped
    split_ifs at stepped
    cases stepped
    exact holds
  | reconnect =>
    simp only [Runtime.step] at stepped
    split_ifs at stepped
    cases stepped
    exact holds
  | swept =>
    simp only [Runtime.step] at stepped
    split at stepped
    · split_ifs at stepped
      cases stepped
      exact afterSweep_holds holds current
    · cases stepped
  | returns result => exact returned_holds holds spared stepped
  | send =>
    simp only [Runtime.step, loopSend] at stepped
    split at stepped
    · split at stepped
      · rename_i sealed encrypted
        cases stepped
        have same := encryptFor_tables encrypted
        show sealed.tables.completed.get? key = _
        rw [same]
        exact holds
      · cases stepped
        exact holds.keep (congrArg Tables.completed (raises_tables ..))
    · cases stepped
  | drained written =>
    simp only [Runtime.step, loopDrained] at stepped
    split at stepped
    · cases stepped
      exact holds
    · rename_i after on
      cases stepped
      cases written with
      | false => exact holds
      | true => cases after <;> exact holds
    · cases stepped
  | worker other move =>
    by_cases same : other = key
    · subst same
      simp only [Runtime.step, onWorker] at stepped
      split at stepped
      · cases stepped
      · split at stepped
        · cases stepped
        · exact holds.keep (workerStep_completed (spared rfl) stepped)
    · obtain ⟨transfer, task, -, -, worked⟩ := worker_worked stepped
      exact worked_holds holds same worked
  | orphanEnds other =>
    simp only [Runtime.step] at stepped
    split_ifs at stepped
    cases stepped
    exact holds

theorem afterSweep_answers {resumes : Bool} (holds : Holds key since retained m)
    (current : m.now ≤ since + completedOperationTtlSeconds) (asked : asks env body = some (key.2, resumes)) :
    (m.afterSweep env key.1 body due).pc = .sending key.1 (answerTo retained key.2 resumes) .done := by
  have dropped : (m.tables.drop due).completed.get? (key.1, key.2) = some (since, retained) := holds
  have answer := choose_retained asked dropped current
  unfold afterSweep
  generalize choose env.printable env.wisps (m.tables.drop due) key.1 body m.now = chose at answer
  obtain ⟨tables, choice⟩ := chose
  subst answer
  rfl

theorem step_answers {e : Event} (holds : Holds key since retained m)
    (current : m.now ≤ since + completedOperationTtlSeconds) (spared : Spares env key m e)
    (stepped : m.step env e = some m') : Answers env key retained m e m' := by
  constructor
  · rintro message body resumes rfl reached asked
    simp only [Runtime.step] at stepped
    split_ifs at stepped
    cases stepped
    rcases onFrame_delivered env m message with ⟨sender, body', session, reached', served⟩ | ⟨none, -⟩
    · obtain ⟨rfl, rfl⟩ := Prod.mk.inj (Option.some.inj (reached.symm.trans reached'))
      rw [served]
      have swept : Holds key since retained ((m.setSessions (m.peers.sessions.insert key.1 session)).withTables
          ((m.tables.overdue m.now).foldl (fun tables entry => tables.expire entry m.now) m.tables)) :=
        (foldl_expire_other (spared (by rw [reached]; rfl))).trans holds
      unfold dispatch
      dsimp only
      split_ifs
      · exact .inr ⟨_, rfl⟩
      · exact .inl (afterSweep_answers swept current asked)
    · rw [reached] at none
      cases none
  · rintro body due resumes rfl on asked
    simp only [Runtime.step, on] at stepped
    split_ifs at stepped
    cases stepped
    exact afterSweep_answers holds current asked

theorem encryptFor_now {peer : String} (encrypted : m.encryptFor env peer body = .ok m') : m'.now = m.now := by
  obtain ⟨session, frame, nonce, ciphertext, -, -, -, rfl⟩ := encryptFor_ok encrypted
  rfl

theorem onFrame_now (message : Json) : (m.onFrame env message).now = m.now := by
  unfold onFrame
  split_ifs
  · split
    · split_ifs <;> rfl
    · rfl
  · unfold onEnvelope
    split
    · rfl
    · split
      · dsimp only
        split <;> rfl
      · rfl
  · unfold onSessionEnvelope
    split
    · split
      · rfl
      · split
        · rfl
        · exact dispatch_unsent.now
    · split_ifs
      · exact (raises_unsent m .type).now
      · rfl
  · unfold onSessionReset
    split_ifs
    · rfl
    · split
      · rfl
      · split_ifs <;> rfl
  · rfl
  · rfl

theorem worked_now {transfer : Transfer} {task : Task} (worked : Worked env m key transfer task m') : m'.now = m.now := by
  cases worked with
  | proceeds alive next on => exact (workerProceeds_unsent m key transfer next).now
  | fails alive index cause on => exact (workerFails_unsent m key transfer cause).now
  | returns alive on result => exact (workerReturns_unsent _ key transfer result).now
  | sends alive body sealed on encrypted =>
    show sealed.now = m.now
    exact encryptFor_now encrypted
  | _ => rfl

theorem step_now {e : Event} (stepped : m.step env e = some m') : m.now ≤ m'.now := by
  cases e with
  | tick seconds =>
    cases stepped
    exact Nat.le_add_right _ _
  | frame message =>
    simp only [Runtime.step] at stepped
    split_ifs at stepped
    cases stepped
    exact (onFrame_now message).ge
  | eof =>
    simp only [Runtime.step] at stepped
    split_ifs at stepped
    cases stepped
    exact le_rfl
  | reconnect =>
    simp only [Runtime.step] at stepped
    split_ifs at stepped
    cases stepped
    exact le_rfl
  | swept =>
    simp only [Runtime.step] at stepped
    split at stepped
    · split_ifs at stepped
      cases stepped
      exact afterSweep_unsent.now.ge
    · cases stepped
  | returns result => exact (returned_unsent stepped).now.ge
  | send =>
    simp only [Runtime.step, loopSend] at stepped
    split at stepped
    · split at stepped
      · rename_i encrypted
        cases stepped
        exact (encryptFor_now encrypted).ge
      · cases stepped
        exact (raises_unsent m _).now.ge
    · cases stepped
  | drained written => exact (loopDrained_unsent stepped).now.ge
  | worker key move =>
    obtain ⟨transfer, task, -, -, worked⟩ := worker_worked stepped
    exact (worked_now worked).ge
  | orphanEnds key =>
    simp only [Runtime.step] at stepped
    split_ifs at stepped
    cases stepped
    exact le_rfl

end Steps

section Samples

open Provenance NonceReuse Execution

def uploadRequest : Json :=
  .obj [("wisp_id", .str "notes"), ("action", .str "file_begin"), ("transfer_id", .str "op1"),
    ("files", .arr [.obj [("id", .str "a"), ("field", .str "file"), ("name", .str "a.txt"), ("size", .int 0),
      ("bulk", .obj [("algorithm", .str "SESSION-A256GCM-v2"), ("nonce", .str "n"), ("ciphertext_size", .int 16)])]])]

def resumeRequest : Json :=
  .obj [("wisp_id", .str "notes"), ("action", .str "operation_resume"), ("operation_id", .str "op1")]

/-- What the callback of the upload returned. -/
def savedBody : Json := responseBody "notes" (.obj [("saved", .bool true)])

/-- The transfer of the phone, at a phase of its worker. -/
def upload (task : Option Task) : Dict Key Transfer :=
  Dict.empty.insert saveKey ⟨"phone", "notes", .obj [], Dict.empty.insert "a"
    ⟨"a", "file", "a.txt", "application/octet-stream", 0, "0.upload", 0,
      .obj [("algorithm", .str "SESSION-A256GCM-v2"), ("nonce", .str "n"), ("ciphertext_size", .int 16)]⟩, 0, task⟩

variable {m : Runtime} {n : ℕ}

theorem dispatch_upload (now : m.now = 0) (tables : m.tables = {}) :
    m.dispatch handshakeEnv "phone" uploadRequest = (m.withTables { transfers := upload none }).goto
      (.sending "phone" (transferResponse "notes" [("type", .str "ready"), ("transfer_id", .str "op1")])
        (.transfer saveKey)) := by
  obtain ⟨now', peers, tables', pc, orphans, log⟩ := m
  dsimp only at now tables
  subst now tables
  rfl

/-- The loop encrypts an answer for the phone. -/
theorem answer_sent {session : PeerSession} {body : Json} {after : After} (on : m.pc = .sending "phone" body after)
    (found : m.peers.sessions.get? "phone" = some session) (live : session.live m.now = true)
    (small : session.sendSequence < 2 ^ 64) : ∃ nonce, m.step handshakeEnv .send =
      some (((m.setSessions (m.peers.sessions.insert "phone"
        { session with sendSequence := session.sendSequence + 1 })).record
        (.sealed "phone" session.sendKey nonce body)).goto (.replied after)) := by
  obtain ⟨nonce, ciphertext, sealed, -⟩ := SessionOrder.sampleAead_seals (s := session) body small
  have encrypted := SessionOrder.encrypt_ok m.now live sealed
  refine ⟨nonce, step_send on ?_⟩
  unfold encryptFor
  rw [found, show handshakeEnv.aead = sampleAead from rfl]
  simp only [encrypted, sealed]

/-- The Wisp's end of the session after one answer. -/
def answeredSession : PeerSession := { wispAt 1 with sendSequence := 1 }

def savedTables : Tables where
  transfers := upload (some { phase := .reporting (some savedBody) })
  completed := Dict.empty.insert saveKey (0, savedBody)

/-- The worker of the upload delivers the result of the callback, which is retained. -/
structure Saved (now : ℕ) (m : Runtime) : Prop where
  reading : m.pc = .reading
  now : m.now = now
  tables : m.tables = savedTables
  session : m.peers.sessions.get? "phone" = some answeredSession
  finished : .finished saveKey 0 ∈ m.log

theorem saved_reachable : ∃ m, Reach (Runtime.step handshakeEnv) anyStep Initial m ∧ Saved 0 m := by
  obtain ⟨m, reach, ready, -⟩ := introduced_ready anyStep fun _ _ _ => trivial
  have live : (wispAt 0).live 0 = true := (by decide : (sampleSession 0).live 0 = true)
  obtain ⟨ciphertext, opens⟩ : ∃ ciphertext, (wispAt 0).decrypt handshakeEnv.aead ((phoneAt 0).envelope ciphertext) 0 =
    (wispAt 1, .ok uploadRequest) := phone_opens ⟨rfl, rfl, rfl, rfl, rfl⟩ rfl live (by decide)
  have asked := step_frame handshakeEnv ((phoneAt 0).envelope ciphertext) ready.reading
  rw [onFrame_phone ready.now ready.session opens] at asked
  obtain ⟨now, peers, tables, pc, orphans, log⟩ := m
  obtain ⟨rfl, rfl, rfl, -⟩ := ready
  rw [dispatch_upload rfl rfl] at asked
  have found : (peers.sessions.insert "phone" (wispAt 1)).get? "phone" = some (wispAt 1) := Dict.get?_insert_self _ _ _
  unfold setSessions at asked
  generalize peers.sessions.insert "phone" (wispAt 1) = sessions at asked found
  have reach := reach.next trivial asked
  obtain ⟨nonce, answered⟩ := answer_sent (m := ⟨0, ⟨peers.keys, sessions⟩, { transfers := upload none },
    .sending "phone" (transferResponse "notes" [("type", .str "ready"), ("transfer_id", .str "op1")]) (.transfer saveKey),
    orphans, log⟩) rfl found live (by decide)
  have known : (sessions.insert "phone" answeredSession).get? "phone" = some answeredSession :=
    Dict.get?_insert_self _ _ _
  change _ = some (((setSessions _ (sessions.insert "phone" answeredSession)).record _).goto _) at answered
  unfold setSessions at answered
  generalize sessions.insert "phone" answeredSession = later at answered known
  have reach := reach.next trivial answered
  have reach := reach.next (e := .drained true) trivial rfl
  have reach := reach.next (e := .worker saveKey .begin) trivial rfl
  have reach := reach.next (e := .worker saveKey .received) trivial rfl
  have reach := reach.next (e := .worker saveKey (.returns (.dict (.obj [("saved", .bool true)])))) trivial rfl
  exact ⟨_, reach, ⟨rfl, rfl, rfl, known, List.mem_cons_self⟩⟩

theorem Saved.tick (saved : Saved 0 m) (seconds : ℕ) :
    ∃ m', Saved seconds m' ∧ m.step handshakeEnv (.tick seconds) = some m' :=
  ⟨{ m with now := seconds }, ⟨saved.reading, rfl, saved.tables, saved.session, saved.finished⟩,
    by simp [Runtime.step, saved.now]⟩

theorem Saved.holds {now : ℕ} (saved : Saved now m) : Holds saveKey 0 savedBody m := by
  unfold Holds
  rw [saved.tables]
  rfl

/-- The phone asks what became of its upload. -/
theorem resume_asked {now : ℕ} (saved : Saved now m) (live : answeredSession.live now = true) : ∃ ciphertext session,
    delivered handshakeEnv m ((phoneAt 1).envelope ciphertext) = some ("phone", resumeRequest) ∧
    m.step handshakeEnv (.frame ((phoneAt 1).envelope ciphertext)) =
      some ((m.setSessions (m.peers.sessions.insert "phone" session)).dispatch handshakeEnv "phone" resumeRequest) := by
  obtain ⟨ciphertext, opens⟩ : ∃ ciphertext, answeredSession.decrypt handshakeEnv.aead ((phoneAt 1).envelope ciphertext)
    now = ({ answeredSession with receiveSequence := 2 }, .ok resumeRequest) :=
    phone_opens ⟨rfl, rfl, rfl, rfl, rfl⟩ rfl live (by decide)
  have line : ((phoneAt 1).envelope ciphertext).isObj = true := rfl
  have kind : ((phoneAt 1).envelope ciphertext).get "type" = .str "session_envelope" := rfl
  have from_sender : ((phoneAt 1).envelope ciphertext).get "sender" = .str "phone" := rfl
  refine ⟨ciphertext, { answeredSession with receiveSequence := 2 }, ?_, ?_⟩
  · unfold delivered
    rw [if_pos ⟨line, kind⟩, from_sender]
    simp only [saved.session, Option.bind_some, saved.now, opens]
  · rw [step_frame _ _ saved.reading, onFrame_phone saved.now saved.session opens]

/-- The tables after the sweep. -/
def sweptTables : Tables where
  transfers := upload (some { phase := .reporting (some savedBody), cancelled := true })
  completed := Dict.empty.insert saveKey (601, operationStatusBody "notes" "indeterminate" "op1")

theorem dispatch_resume (now : m.now = 601) (tables : m.tables = savedTables) :
    m.dispatch handshakeEnv "phone" resumeRequest = (m.withTables sweptTables).goto
      (.sweeping "phone" resumeRequest [saveKey]) := by
  obtain ⟨now', peers, tables', pc, orphans, log⟩ := m
  dsimp only at now tables
  subst now tables
  rfl

end Samples

end WispGate.Soundness.Retention
