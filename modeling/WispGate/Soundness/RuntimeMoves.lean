import WispGate.Soundness.Handshakes

/-! # What a step of the Wisp runtime can do

The moves of a worker, the encryption of a session frame, and what a step does to the sessions and
the log of what was encrypted, each said once as a named change of the runtime.
-/

namespace WispGate.Soundness.RuntimeMoves

open Data Model Model.Wisp Runtime Handshakes

section Moves

variable {env : Env} {m m' : Runtime} {key : Key} {transfer : Transfer} {task : Task} {peer : String} {body : Json}

/-- What a step of a worker does. -/
inductive Worked (env : Env) (m : Runtime) (key : Key) (transfer : Transfer) (task : Task) : Runtime → Prop
  | unborn (cancelled : task.cancelled = true) (on : task.phase = .created) :
      Worked env m key transfer task (m.withTables { m.tables with
        transfers := m.tables.transfers.insert key { transfer with task := none } })
  | orphaned (cancelled : task.cancelled = true) (on : task.phase = .calling) :
      Worked env m key transfer task { m.endWorker key with orphans := key :: m.orphans }
  | stops (cancelled : task.cancelled = true) (idle : task.phase ≠ .calling) :
      Worked env m key transfer task (m.endWorker key)
  | proceeds (alive : task.cancelled = false) (next : ℕ)
      (on : task.phase = .created ∨ ∃ index, task.phase = .receiving index) :
      Worked env m key transfer task (m.workerProceeds key transfer next)
  | fails (alive : task.cancelled = false) (index : ℕ) (cause : String) (on : task.phase = .receiving index) :
      Worked env m key transfer task (m.workerFails key transfer cause)
  | returns (alive : task.cancelled = false) (on : task.phase = .calling) (result : Result) :
      Worked env m key transfer task ((m.record (.finished key m.now)).workerReturns key transfer result)
  | sends (alive : task.cancelled = false) (body : Json) (sealed : Runtime) (on : task.phase = .reporting (some body))
      (encrypted : m.encryptFor env key.1 body = .ok sealed) :
      Worked env m key transfer task (sealed.setPhase key transfer (.reporting none))
  | ends (alive : task.cancelled = false) (body : Option Json) (on : task.phase = .reporting body) :
      Worked env m key transfer task (m.endWorker key)

theorem workerStep_worked {move : WorkerMove} (stepped : m.workerStep env key transfer task move = some m') :
    Worked env m key transfer task m' := by
  unfold workerStep at stepped
  split at stepped
  · rename_i cancelled on
    cases stepped
    exact .unborn cancelled on
  · rename_i cancelled on
    cases stepped
    exact .orphaned cancelled on
  · rename_i cancelled uncreated idle
    cases stepped
    exact .stops cancelled idle
  · cases stepped
  · rename_i alive on
    cases stepped
    exact .proceeds alive 0 (.inl on)
  · rename_i index alive on
    cases stepped
    exact .proceeds alive (index + 1) (.inr ⟨index, on⟩)
  · rename_i index cause alive on
    cases stepped
    exact .fails alive index cause on
  · rename_i result alive on
    cases stepped
    exact .returns alive on result
  · rename_i body alive on
    split_ifs at stepped
    split at stepped
    · rename_i sealed encrypted
      cases stepped
      exact .sends alive body sealed on encrypted
    · cases stepped
      exact .ends alive (some body) on
  · rename_i alive on
    cases stepped
    exact .ends alive none on
  · cases stepped

/-- A worker's event is a step of a task that is there. -/
theorem worker_worked {move : WorkerMove} (stepped : m.step env (.worker key move) = some m') :
    ∃ transfer task, m.tables.transfers.get? key = some transfer ∧ transfer.task = some task ∧
      Worked env m key transfer task m' := by
  simp only [Runtime.step, onWorker] at stepped
  split at stepped
  · cases stepped
  · rename_i transfer found
    split at stepped
    · cases stepped
    · rename_i task running
      exact ⟨transfer, task, found, running, workerStep_worked stepped⟩

/-- What the encryption of a body for a peer leaves. -/
theorem encryptFor_ok (encrypted : m.encryptFor env peer body = .ok m') :
    ∃ session frame nonce ciphertext, m.peers.sessions.get? peer = some session ∧
      session.encrypt env.aead body m.now = ({ session with sendSequence := session.sendSequence + 1 }, .ok frame) ∧
      session.sealed env.aead body = .ok (nonce, ciphertext) ∧
      m' = (m.setSessions (m.peers.sessions.insert peer
        { session with sendSequence := session.sendSequence + 1 })).record
          (.sealed peer session.sendKey nonce body) := by
  unfold encryptFor at encrypted
  split at encrypted
  · cases encrypted
  · rename_i session found
    split at encrypted
    · rename_i session' frame nonce ciphertext success sealed
      cases encrypted
      have moved : session' = { session with sendSequence := session.sendSequence + 1 } := by
        unfold PeerSession.encrypt at success
        split_ifs at success
        · rw [sealed] at success
          exact (congrArg Prod.fst success).symm
        · cases success
      subst moved
      exact ⟨session, frame, nonce, ciphertext, found, success, sealed, rfl⟩
    · cases encrypted
    · cases encrypted

theorem worked_pc (worked : Worked env m key transfer task m') : m'.pc = m.pc := by
  cases worked with
  | proceeds alive next on =>
    unfold workerProceeds
    split_ifs
    · rfl
    · rfl
  | returns alive on result =>
    unfold workerReturns
    split
    · rfl
    · dsimp only
      split_ifs
      · rfl
      · rfl
  | sends alive body sealed on encrypted =>
    obtain ⟨session, frame, nonce, ciphertext, -, -, -, rfl⟩ := encryptFor_ok encrypted
    rfl
  | _ => rfl

theorem step_frame (env : Env) (message : Json) (reading : m.pc = .reading) :
    m.step env (.frame message) = some (m.onFrame env message) := by
  simp only [Runtime.step, reading, if_true]

theorem step_send {sealed : Runtime} {after : After} (on : m.pc = .sending peer body after)
    (encrypted : m.encryptFor env peer body = .ok sealed) : m.step env .send = some (sealed.goto (.replied after)) := by
  simp only [Runtime.step, loopSend, on, encrypted]

/-- An envelope that decrypts to a `session_init` installs its session. -/
theorem onFrame_accepts {message : Json} {sender pinned : String} {init : SessionInit} (line : message.isObj = true)
    (kind : message.get "type" = .str "envelope") (from_sender : message.get "sender" = .str sender)
    (to_self : message.get "recipient" = .str env.clientId)
    (decrypted : decryptEnvelope env.rsa env.aead message (m.peers.keys.get? sender) = .ok (body, pinned))
    (carries : sessionInit body = .ok init) (wraps : env.rsa.wraps pinned = .ok ()) :
    m.onFrame env message = (({ m with peers := { Peers.pin m.peers sender pinned with
      sessions := m.peers.sessions.insert sender (init.session env.hkdf env.clientId sender m.now) } }).record
        (.accepted sender (init.session env.hkdf env.clientId sender m.now))).goto .draining := by
  unfold onFrame
  rw [if_neg (not_not.mpr line), kind, if_neg (by simp), if_pos rfl]
  simp only [onEnvelope, handleEnvelope_accepts from_sender to_self decrypted carries, Dict.get?_insert_self,
    pin_get? decrypted, wraps]

/-! ## Sessions and encryptions -/

/-- What was encrypted, newest first. -/
def seals (m : Runtime) : List (String × Bytes × Bytes × Json) :=
  m.log.filterMap fun
    | .sealed peer key nonce body => some (peer, key, nonce, body)
    | _ => none

/-- Nothing happened to the peers, and nothing was encrypted. -/
structure Unsent (m m' : Runtime) : Prop where
  now : m'.now = m.now
  peers : m'.peers = m.peers
  seals : seals m' = seals m

theorem Unsent.refl (m : Runtime) : Unsent m m := ⟨rfl, rfl, rfl⟩

theorem Unsent.trans {first second third : Runtime} (before : Unsent first second) (after : Unsent second third) :
    Unsent first third :=
  ⟨after.now.trans before.now, after.peers.trans before.peers, after.seals.trans before.seals⟩

section Unsent

variable {result : Result} {sender wisp operationId : String} {due : List Key}

theorem goto_unsent (m : Runtime) (pc : Pc) : Unsent m (m.goto pc) := ⟨rfl, rfl, rfl⟩

theorem withTables_unsent (m : Runtime) (tables : Tables) : Unsent m (m.withTables tables) := ⟨rfl, rfl, rfl⟩

theorem finished_unsent (m : Runtime) (key : Key) (now : ℕ) : Unsent m (m.record (.finished key now)) := ⟨rfl, rfl, rfl⟩

/-- The loop goes on with the next frame, or between connections. -/
theorem raises_pc (m : Runtime) (e : PyError) : (m.raises e).pc = .reading ∨ (m.raises e).pc = .offline := by
  unfold Runtime.raises
  split_ifs
  · exact .inl rfl
  · exact .inr rfl

theorem raises_tables (m : Runtime) (e : PyError) : (m.raises e).tables = m.tables := by
  unfold Runtime.raises
  split_ifs
  · rfl
  · rfl

theorem respond_tables : (m.respond sender wisp result).tables = m.tables := by
  unfold respond
  split_ifs
  · rfl
  · exact raises_tables _ _

theorem raises_unsent (m : Runtime) (e : PyError) : Unsent m (m.raises e) := by
  unfold Runtime.raises
  split_ifs
  · exact ⟨rfl, rfl, rfl⟩
  · exact ⟨rfl, rfl, rfl⟩

theorem respond_unsent : Unsent m (m.respond sender wisp result) := by
  unfold respond
  split_ifs
  · exact goto_unsent _ _
  · exact raises_unsent _ _

theorem abandon_unsent (e : PyError) : Unsent m (m.abandon sender wisp operationId e) :=
  (withTables_unsent m _).trans (raises_unsent _ _)

theorem act_unsent (choice : Choice) : Unsent m (m.act sender choice) := by
  cases choice with
  | unhashable => exact raises_unsent _ _
  | action wisp operationId actionData =>
    simp only [act]
    split
    · exact abandon_unsent _
    · exact ⟨rfl, rfl, rfl⟩
  | _ => exact goto_unsent _ _

theorem afterSweep_unsent : Unsent m (m.afterSweep env sender body due) :=
  (withTables_unsent m _).trans (act_unsent _)

theorem dispatch_unsent : Unsent m (m.dispatch env sender body) := by
  unfold dispatch
  dsimp only
  split_ifs
  · exact ⟨rfl, rfl, rfl⟩
  · exact (withTables_unsent m _).trans afterSweep_unsent

theorem returned_unsent (stepped : m.returned result = some m') : Unsent m m' := by
  unfold returned at stepped
  split at stepped
  · split at stepped
    · cases stepped
      exact raises_unsent _ _
    · cases stepped
      exact respond_unsent
  · dsimp only at stepped
    split at stepped
    · cases stepped
      exact (finished_unsent m _ m.now).trans (abandon_unsent _)
    · cases stepped
      exact ((finished_unsent m _ m.now).trans (withTables_unsent _ _)).trans respond_unsent
  · cases stepped

theorem loopDrained_unsent {written : Bool} (stepped : m.loopDrained written = some m') : Unsent m m' := by
  unfold loopDrained at stepped
  split at stepped
  · cases stepped
    exact goto_unsent _ _
  · rename_i after on
    cases stepped
    cases written with
    | false => exact goto_unsent _ _
    | true =>
      cases after with
      | done => exact goto_unsent _ _
      | transfer key => exact ⟨rfl, rfl, rfl⟩
  · cases stepped

theorem workerFails_unsent (m : Runtime) (key : Key) (transfer : Transfer) (cause : String) :
    Unsent m (m.workerFails key transfer cause) := ⟨rfl, rfl, rfl⟩

theorem workerReturns_unsent (m : Runtime) (key : Key) (transfer : Transfer) (result : Result) :
    Unsent m (m.workerReturns key transfer result) := by
  unfold workerReturns
  split
  · exact workerFails_unsent _ _ _ _
  · dsimp only
    split_ifs
    · exact ⟨rfl, rfl, rfl⟩
    · exact ⟨rfl, rfl, rfl⟩

theorem workerProceeds_unsent (m : Runtime) (key : Key) (transfer : Transfer) (next : ℕ) :
    Unsent m (m.workerProceeds key transfer next) := by
  unfold workerProceeds
  split_ifs
  · exact ⟨rfl, rfl, rfl⟩
  · exact ⟨rfl, rfl, rfl⟩

end Unsent

/-- What a step does to the peers and the log of encryptions, apart from the time. -/
inductive Traffic (env : Env) (m : Runtime) (event : Event) (m' : Runtime) : Prop
  | silent (peers : m'.peers = m.peers) (same : seals m' = seals m)
  | handshake (message : Json) (outcome : Except PyError (String × Json)) (delivered : event = .frame message)
      (handled : Handled env m.peers message m.now m'.peers outcome) (same : seals m' = seals m)
  | forgets (peer : String) (peers : m'.peers = { m.peers with sessions := m.peers.sessions.erase peer })
      (same : seals m' = seals m)
  | opens (peer : String) (session session' : PeerSession) (frame body : Json)
      (found : m.peers.sessions.get? peer = some session)
      (decrypted : session.decrypt env.aead frame m.now = (session', .ok body))
      (peers : m'.peers = { m.peers with sessions := m.peers.sessions.insert peer session' })
      (same : seals m' = seals m)
  | encrypts (peer : String) (session : PeerSession) (body : Json) (nonce ciphertext : Bytes)
      (found : m.peers.sessions.get? peer = some session)
      (sealed : session.sealed env.aead body = .ok (nonce, ciphertext))
      (peers : m'.peers = ⟨m.peers.keys,
        m.peers.sessions.insert peer { session with sendSequence := session.sendSequence + 1 }⟩)
      (more : seals m' = (peer, session.sendKey, nonce, body) :: seals m)

variable {event : Event}

theorem Unsent.traffic (unsent : Unsent m m') : Traffic env m event m' := .silent unsent.peers unsent.seals

theorem encryptFor_traffic (encrypted : m.encryptFor env peer body = .ok m') : Traffic env m event m' := by
  obtain ⟨session, frame, nonce, ciphertext, found, -, sealed, rfl⟩ := encryptFor_ok encrypted
  exact .encrypts peer session body nonce ciphertext found sealed rfl rfl

/-- Quiet moves after a step leave what it did. -/
theorem Traffic.then {middle : Runtime} (traffic : Traffic env m event middle) (after : Unsent middle m') :
    Traffic env m event m' := by
  have peers := after.peers
  have same := after.seals
  cases traffic with
  | silent before kept => exact .silent (peers.trans before) (same.trans kept)
  | handshake message outcome delivered handled kept =>
    exact .handshake message outcome delivered (peers ▸ handled) (same.trans kept)
  | forgets peer before kept => exact .forgets peer (peers.trans before) (same.trans kept)
  | opens peer session session' frame body found decrypted before kept =>
    exact .opens peer session session' frame body found decrypted (peers.trans before) (same.trans kept)
  | encrypts peer session body nonce ciphertext found sealed before more =>
    exact .encrypts peer session body nonce ciphertext found sealed (peers.trans before) (same.trans more)

theorem worked_traffic (worked : Worked env m key transfer task m') : Traffic env m event m' := by
  cases worked with
  | proceeds alive next on => exact (workerProceeds_unsent m key transfer next).traffic
  | fails alive index cause on => exact (workerFails_unsent m key transfer cause).traffic
  | returns alive on result => exact ((finished_unsent m key m.now).trans
    (workerReturns_unsent _ key transfer result)).traffic
  | sends alive body sealed on encrypted => exact (encryptFor_traffic encrypted).then ⟨rfl, rfl, rfl⟩
  | _ => exact .silent rfl rfl

theorem onSessionEnvelope_traffic (message : Json) : Traffic env m event (m.onSessionEnvelope env message) := by
  unfold onSessionEnvelope
  split
  · rename_i sender from_sender
    split
    · exact .silent rfl rfl
    · rename_i session found
      split
      · exact .forgets sender rfl rfl
      · rename_i session' body decrypted
        have received : Traffic env m event (m.setSessions (m.peers.sessions.insert sender session')) :=
          .opens sender session session' message body found decrypted rfl rfl
        exact received.then dispatch_unsent
  · split_ifs
    · exact (raises_unsent _ _).traffic
    · exact .silent rfl rfl

theorem onEnvelope_traffic (message : Json) : Traffic env m (.frame message) (m.onEnvelope env message) := by
  unfold onEnvelope
  split
  · rename_i peers e handled
    exact .handshake message _ rfl (handleEnvelope_handled handled) rfl
  · rename_i peers sender answer handled
    have outcome := handleEnvelope_handled handled
    split
    · split
      · exact .handshake message _ rfl outcome rfl
      · exact .handshake message _ rfl outcome rfl
    · exact .handshake message _ rfl outcome rfl

theorem onFrame_traffic (message : Json) : Traffic env m (.frame message) (m.onFrame env message) := by
  unfold onFrame
  split_ifs
  · split
    · split_ifs
      · exact .silent rfl rfl
      · exact .silent rfl rfl
    · exact .silent rfl rfl
  · exact onEnvelope_traffic message
  · exact onSessionEnvelope_traffic message
  · unfold onSessionReset
    split_ifs
    · exact .silent rfl rfl
    · split
      · rename_i sender from_sender
        exact .forgets sender rfl rfl
      · split_ifs
        · exact .silent rfl rfl
        · exact .silent rfl rfl
  · exact .silent rfl rfl
  · exact .silent rfl rfl

theorem step_traffic {e : Event} (stepped : m.step env e = some m') : Traffic env m e m' := by
  cases e with
  | tick seconds =>
    cases stepped
    exact .silent rfl rfl
  | frame message =>
    simp only [Runtime.step] at stepped
    split_ifs at stepped
    cases stepped
    exact onFrame_traffic message
  | eof =>
    simp only [Runtime.step] at stepped
    split_ifs at stepped
    cases stepped
    exact .silent rfl rfl
  | reconnect =>
    simp only [Runtime.step] at stepped
    split_ifs at stepped
    cases stepped
    exact .silent rfl rfl
  | swept =>
    simp only [Runtime.step] at stepped
    split at stepped
    · split_ifs at stepped
      cases stepped
      exact afterSweep_unsent.traffic
    · cases stepped
  | returns result => exact (returned_unsent stepped).traffic
  | send =>
    simp only [Runtime.step, loopSend] at stepped
    split at stepped
    · split at stepped
      · rename_i sealed encrypted
        cases stepped
        exact (encryptFor_traffic encrypted).then (goto_unsent _ _)
      · cases stepped
        exact (raises_unsent _ _).traffic
    · cases stepped
  | drained written => exact (loopDrained_unsent stepped).traffic
  | worker key move =>
    obtain ⟨transfer, task, -, -, worked⟩ := worker_worked stepped
    exact worked_traffic worked
  | orphanEnds key =>
    simp only [Runtime.step] at stepped
    split_ifs at stepped
    cases stepped
    exact .silent rfl rfl

end Moves

end WispGate.Soundness.RuntimeMoves
