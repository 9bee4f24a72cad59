import WispGate.Soundness.Provenance

/-! # Nonces of session frames

A counter keeps the nonces of one session apart. Sessions are created from handshakes, and nothing
stops the same handshake from being accepted again: the counter then starts over under the same key.
Unless that happens, no key encrypts twice under one nonce.
-/

namespace WispGate.Soundness.NonceReuse

open Data Model Model.Wisp Runtime RuntimeMoves Handshakes

/-- The keys and nonces that were used, newest first. -/
def used (m : Runtime) : List (Bytes × Bytes) := (seals m).map fun entry => (entry.2.1, entry.2.2.1)

/-- The send key of an accepted handshake has not encrypted anything, and no session of another peer
has it. -/
def NewKey (env : Env) (m : Runtime) : Event → Prop
  | .frame message => ∀ sender key body init, message.get "sender" = .str sender →
      message.get "recipient" = .str env.clientId →
      decryptEnvelope env.rsa env.aead message (m.peers.keys.get? sender) = .ok (body, key) →
      sessionInit body = .ok init →
      (∀ nonce, ((deriveSessionKeys env.hkdf init.master init.sessionId).2, nonce) ∉ used m) ∧
      ∀ peer session, m.peers.sessions.get? peer = some session → peer ≠ sender →
        session.sendKey ≠ (deriveSessionKeys env.hkdf init.master init.sessionId).2
  | _ => True

/-- No nonce was used twice, every session is ahead of what its key encrypted, and no two sessions
share a key. -/
structure Unique (m : Runtime) : Prop where
  once : (used m).Nodup
  ahead : ∀ peer session, m.peers.sessions.get? peer = some session → ∀ nonce, (session.sendKey, nonce) ∈ used m →
    ∃ n < session.sendSequence, sessionNonce (.int n) = .ok nonce
  apart : ∀ peer other session session', m.peers.sessions.get? peer = some session →
    m.peers.sessions.get? other = some session' → session.sendKey = session'.sendKey → peer = other

section Steps

variable {env : Env} {m m' : Runtime} {peer : String} {session session' : PeerSession}

/-- Nothing was encrypted, and every session is an older one that is not behind it. -/
theorem Unique.silent (unique : Unique m) (same : seals m' = seals m)
    (kept : ∀ peer session, m'.peers.sessions.get? peer = some session → ∃ earlier,
      m.peers.sessions.get? peer = some earlier ∧ session.sendKey = earlier.sendKey ∧
        session.sendSequence = earlier.sendSequence) : Unique m' := by
  have same_used : used m' = used m := congrArg (List.map _) same
  constructor
  · rw [same_used]
    exact unique.once
  · intro peer session found nonce mem
    obtain ⟨earlier, before, key, sequence⟩ := kept peer session found
    rw [same_used, key] at mem
    rw [sequence]
    exact unique.ahead peer earlier before nonce mem
  · intro peer other session session' found found' keys
    obtain ⟨earlier, before, key, -⟩ := kept peer session found
    obtain ⟨earlier', before', key', -⟩ := kept other session' found'
    exact unique.apart peer other earlier earlier' before before' (key.symm.trans (keys.trans key'))

/-- A session whose key is new can be installed. -/
theorem Unique.installed (unique : Unique m) (same : seals m' = seals m)
    (installed : m'.peers.sessions = m.peers.sessions.insert peer session)
    (unused : ∀ nonce, (session.sendKey, nonce) ∉ used m)
    (others : ∀ other session', m.peers.sessions.get? other = some session' → other ≠ peer →
      session'.sendKey ≠ session.sendKey) : Unique m' := by
  have same_used : used m' = used m := congrArg (List.map _) same
  have cases : ∀ {other found}, m'.peers.sessions.get? other = some found →
      other = peer ∧ found = session ∨ other ≠ peer ∧ m.peers.sessions.get? other = some found := by
    intro other found read
    rw [installed, Dict.get?_insert] at read
    split_ifs at read with here
    · exact .inl ⟨here.symm, (Option.some.inj read).symm⟩
    · exact .inr ⟨fun there => here there.symm, read⟩
  constructor
  · rw [same_used]
    exact unique.once
  · intro other found read nonce mem
    rw [same_used] at mem
    rcases cases read with ⟨rfl, rfl⟩ | ⟨-, before⟩
    · exact absurd mem (unused nonce)
    · exact unique.ahead other found before nonce mem
  · intro first second found found' read read' keys
    rcases cases read with ⟨rfl, rfl⟩ | ⟨away, before⟩
    · rcases cases read' with ⟨rfl, rfl⟩ | ⟨away', before'⟩
      · rfl
      · exact absurd keys.symm (others second found' before' away')
    · rcases cases read' with ⟨rfl, rfl⟩ | ⟨away', before'⟩
      · exact absurd keys (others first found before away)
      · exact unique.apart first second found found' before before' keys

/-- The next frame of a session takes a nonce its key has not seen. -/
theorem Unique.sealed (unique : Unique m) (found : m.peers.sessions.get? peer = some session) {body : Json}
    {nonce ciphertext : Bytes} (sealed : session.sealed env.aead body = .ok (nonce, ciphertext))
    (peers : m'.peers = ⟨m.peers.keys,
      m.peers.sessions.insert peer { session with sendSequence := session.sendSequence + 1 }⟩)
    (more : seals m' = (peer, session.sendKey, nonce, body) :: seals m) : Unique m' := by
  have drawn := SessionOrder.sealed_nonce sealed
  have more_used : used m' = (session.sendKey, nonce) :: used m := congrArg (List.map _) more
  have fresh : (session.sendKey, nonce) ∉ used m := by
    intro mem
    obtain ⟨n, before, same⟩ := unique.ahead peer session found nonce mem
    exact absurd (sessionNonce_injective same drawn) (Nat.ne_of_lt before)
  constructor
  · rw [more_used]
    exact List.nodup_cons.mpr ⟨fresh, unique.once⟩
  · intro other later read nonce' mem
    rw [peers, Dict.get?_insert] at read
    rw [more_used, List.mem_cons] at mem
    split_ifs at read with here
    · cases read
      rcases mem with same | mem
      · obtain rfl := (Prod.mk.inj same).2
        exact ⟨session.sendSequence, Nat.lt_succ_self _, drawn⟩
      · obtain ⟨n, before, same⟩ := unique.ahead peer session found nonce' mem
        exact ⟨n, Nat.lt_succ_of_lt before, same⟩
    · rcases mem with same | mem
      · exact absurd (unique.apart peer other session later found read (Prod.mk.inj same).1.symm) here
      · exact unique.ahead other later read nonce' mem
  · intro first second found₁ found₂ read₁ read₂ keys
    have earlier : ∀ {other later}, m'.peers.sessions.get? other = some later → ∃ before,
        m.peers.sessions.get? other = some before ∧ later.sendKey = before.sendKey := by
      intro other later read
      rw [peers, Dict.get?_insert] at read
      split_ifs at read with here
      · cases read
        exact ⟨session, here ▸ found, rfl⟩
      · exact ⟨later, read, rfl⟩
    obtain ⟨before₁, known₁, key₁⟩ := earlier read₁
    obtain ⟨before₂, known₂, key₂⟩ := earlier read₂
    exact unique.apart first second before₁ before₂ known₁ known₂ (key₁.symm.trans (keys.trans key₂))

theorem handled_sessions {peers' : Peers} {message : Json} {now : ℕ} {outcome : Except PyError (String × Json)}
    (handled : Handled env m.peers message now peers' outcome) : peers'.sessions = m.peers.sessions ∨
      ∃ sender key body init, message.get "sender" = .str sender ∧ message.get "recipient" = .str env.clientId ∧
        decryptEnvelope env.rsa env.aead message (m.peers.keys.get? sender) = .ok (body, key) ∧
        sessionInit body = .ok init ∧
        peers'.sessions = m.peers.sessions.insert sender (init.session env.hkdf env.clientId sender now) := by
  cases handled with
  | refused e => exact .inl rfl
  | pinned e sender key body from_sender decrypted other => exact .inl pin_sessions
  | accepted sender key body init from_sender to_self decrypted carries =>
    exact .inr ⟨sender, key, body, init, from_sender, to_self, decrypted, carries, rfl⟩

theorem step_unique {event : Event} (unique : Unique m) (new : NewKey env m event)
    (stepped : m.step env event = some m') : Unique m' := by
  cases step_traffic stepped with
  | silent peers same =>
    refine unique.silent same fun peer session found => ⟨session, ?_, rfl, rfl⟩
    rw [← peers]
    exact found
  | handshake message outcome delivered handled same =>
    subst delivered
    rcases handled_sessions handled with kept | ⟨sender, key, body, init, from_sender, to_self,
      decrypted, carries, installed⟩
    · refine unique.silent same fun peer session found => ⟨session, ?_, rfl, rfl⟩
      rw [← kept]
      exact found
    · obtain ⟨unused, others⟩ := new sender key body init from_sender to_self decrypted carries
      exact unique.installed same installed unused others
  | forgets peer peers same =>
    refine unique.silent same fun other session found => ⟨session, ?_, rfl, rfl⟩
    rw [peers, Dict.get?_erase] at found
    split_ifs at found
    exact found
  | opens peer session session' frame body found decrypted peers same =>
    refine unique.silent same fun other later read => ?_
    rw [peers, Dict.get?_insert] at read
    split_ifs at read with here
    · cases read
      subst here
      rcases SessionOrder.decrypt_cases env.aead session frame m.now with
        ⟨e, failed⟩ | ⟨body, -, -, opened⟩
      · rw [failed] at decrypted
        cases decrypted
      · rw [opened] at decrypted
        cases decrypted
        exact ⟨session, found, rfl, rfl⟩
    · exact ⟨later, read, rfl, rfl⟩
  | encrypts peer session body nonce ciphertext found sealed peers more => exact unique.sealed found sealed peers more

/-- As long as every handshake that is accepted brings a key that has not encrypted anything and is no
other peer's, no pair of a key and a nonce is used twice. -/
theorem nonce_once (env : Env) (reach : Reach (Runtime.step env) (NewKey env) Initial m) : (used m).Nodup := by
  have unique : Unique m := by
    refine reach.invariant _ ?_ fun s e t _ inv new stepped => step_unique inv new stepped
    rintro start ⟨no_sessions, -, -, -, no_log⟩
    have unused : used start = [] := by simp [used, seals, no_log]
    have none : ∀ peer, start.peers.sessions.get? peer = none := by
      intro peer
      rw [no_sessions]
      rfl
    constructor
    · rw [unused]
      exact List.nodup_nil
    · intro peer session found
      rw [none] at found
      cases found
    · intro peer other session session' found
      rw [none] at found
      cases found
  exact unique.once

end Steps

/-! ## A handshake accepted twice -/

open Provenance Replies

/-- The phone's side of the sample session. -/
def phoneSession : PeerSession :=
  let keys := deriveSessionKeys handshakeEnv.hkdf sampleMaster "s1"
  .create "s1" "phone" "wisp" keys.1 keys.2 0 true

/-- The Wisp waits for a frame, with nothing remembered and no other key of the phone. -/
structure Idle (m : Runtime) : Prop where
  reading : m.pc = .reading
  now : m.now = 0
  tables : m.tables = {}
  pinned : m.peers.keys.get? "phone" = none ∨ m.peers.keys.get? "phone" = some "phone key"

section Round

variable {m : Runtime} {ciphertext : Bytes}

theorem dispatch_state (now : m.now = 0) (tables : m.tables = {}) :
    m.dispatch handshakeEnv "phone" (sampleRequest "state_request") = m.goto (.state "phone" "notes") := by
  obtain ⟨now', peers, tables', pc, orphans, log⟩ := m
  dsimp only at now tables
  subst now tables
  rfl

/-- The frame of the phone runs the state callback. -/
theorem onFrame_request (now : m.now = 0) (tables : m.tables = {})
    (session : m.peers.sessions.get? "phone" = some (sampleSession 0))
    (decrypts : (sampleSession 0).decrypt handshakeEnv.aead (phoneSession.envelope ciphertext) 0 =
      ({ sampleSession 0 with receiveSequence := 1 }, .ok (sampleRequest "state_request"))) :
    m.onFrame handshakeEnv (phoneSession.envelope ciphertext) =
      (m.setSessions (m.peers.sessions.insert "phone" { sampleSession 0 with receiveSequence := 1 })).goto
        (.state "phone" "notes") := by
  have kind : (phoneSession.envelope ciphertext).get "type" = .str "session_envelope" := rfl
  have from_sender : (phoneSession.envelope ciphertext).get "sender" = .str "phone" := rfl
  have line : (phoneSession.envelope ciphertext).isObj = true := rfl
  have served : m.onFrame handshakeEnv (phoneSession.envelope ciphertext) =
      m.onSessionEnvelope handshakeEnv (phoneSession.envelope ciphertext) := by
    simp [onFrame, line, kind]
  rw [served]
  simp only [onSessionEnvelope, from_sender, session, now, decrypts]
  exact dispatch_state now tables

/-- A session that was just derived encrypts under the first nonce. -/
theorem encryptFor_first (payload : Json) (now : m.now = 0)
    (session : m.peers.sessions.get? "phone" = some { sampleSession 0 with receiveSequence := 1 }) :
    m.encryptFor handshakeEnv "phone" (responseBody "notes" payload) = .ok ((m.setSessions (m.peers.sessions.insert
      "phone" { sampleSession 0 with receiveSequence := 1, sendSequence := 1 })).record
        (.sealed "phone" (sampleSession 0).sendKey (sessionNoncePrefix ++ bigEndian 0)
          (responseBody "notes" payload))) := by
  obtain ⟨nonce, ciphertext, sealed, -⟩ := SessionOrder.sampleAead_seals
    (s := { sampleSession 0 with receiveSequence := 1 }) (responseBody "notes" payload) (by decide)
  have drawn := SessionOrder.sealed_nonce sealed
  obtain rfl : sessionNoncePrefix ++ bigEndian 0 = nonce := Except.ok.inj drawn
  have encrypted := SessionOrder.encrypt_ok 0 rfl sealed
  unfold encryptFor
  rw [session, now]
  simp only [show handshakeEnv.aead = sampleAead from rfl, encrypted, sealed]
  rfl

/-- A session frame is no handshake. -/
theorem request_newKey (m : Runtime) : NewKey handshakeEnv m (.frame (phoneSession.envelope ciphertext)) := by
  intro sender key body init from_sender to_self decrypted
  have kind : (phoneSession.envelope ciphertext).get "type" = .str "session_envelope" := rfl
  obtain ⟨-, other, -⟩ := decryptEnvelope_ok decrypted
  rw [kind] at other
  simp at other

/-- The envelope of the phone, its first frame and the answer to it: each time the Wisp is idle, the
answer is encrypted under the same key and the same nonce. -/
theorem idle_round (payload : Json) (idle : Idle m)
    (decrypts : (sampleSession 0).decrypt handshakeEnv.aead (phoneSession.envelope ciphertext) 0 =
      ({ sampleSession 0 with receiveSequence := 1 }, .ok (sampleRequest "state_request"))) :
    ∃ taken m', Trail (Runtime.step handshakeEnv) m taken m' ∧ Idle m' ∧ seals m' =
      ("phone", (sampleSession 0).sendKey, sessionNoncePrefix ++ bigEndian 0, responseBody "notes" payload) :: seals m ∧
      (NewKey handshakeEnv m (.frame sampleEnvelope) → ∀ at_step ∈ taken, NewKey handshakeEnv at_step.1 at_step.2) := by
  obtain ⟨now, peers, tables, pc, orphans, log⟩ := m
  obtain ⟨rfl, rfl, rfl, pinned⟩ := idle
  have introduced := step_frame (m := ⟨0, peers, {}, .reading, orphans, log⟩) handshakeEnv
    sampleEnvelope rfl
  rw [sampleEnvelope_accepted pinned] at introduced
  have known := pin_get? (sampleEnvelope_decrypts pinned)
  have installed : (peers.sessions.insert "phone" (sampleSession 0)).get? "phone" = some (sampleSession 0) :=
    Dict.get?_insert_self _ _ _
  generalize peers.sessions.insert "phone" (sampleSession 0) = sessions at introduced installed
  generalize Peers.pin peers "phone" "phone key" = pinnedPeers at introduced known
  obtain ⟨keys, old⟩ := pinnedPeers
  have requested := step_frame (m := ⟨0, ⟨keys, sessions⟩, {}, .reading, orphans,
    .accepted "phone" (sampleSession 0) :: log⟩) handshakeEnv (phoneSession.envelope ciphertext) rfl
  rw [onFrame_request rfl rfl installed decrypts] at requested
  have opened : (sessions.insert "phone" { sampleSession 0 with receiveSequence := 1 }).get? "phone" =
      some { sampleSession 0 with receiveSequence := 1 } := Dict.get?_insert_self _ _ _
  generalize sessions.insert "phone" { sampleSession 0 with receiveSequence := 1 } = later at requested opened
  have answers := encryptFor_first (m := ⟨0, ⟨keys, later⟩, {}, .sending "phone" (responseBody "notes" payload) .done,
    orphans, .accepted "phone" (sampleSession 0) :: log⟩) payload rfl opened
  have sent := step_send rfl answers
  refine ⟨_, _, .next (.next (.next (.next (.next (.next .nil introduced) (e := .drained true) rfl) requested)
    (e := .returns (.dict payload)) rfl) (e := .send) sent) (e := .drained true) rfl,
    ⟨rfl, rfl, rfl, .inr known⟩, rfl, ?_⟩
  intro new
  simp only [List.forall_mem_cons, List.not_mem_nil, false_imp_iff, implies_true, and_true]
  exact ⟨trivial, trivial, trivial, request_newKey _, trivial, new⟩

/-- The frame in which the phone asks for the state, and how it opens. -/
theorem request_decrypts : ∃ ciphertext,
    (sampleSession 0).decrypt handshakeEnv.aead (phoneSession.envelope ciphertext) 0 =
      ({ sampleSession 0 with receiveSequence := 1 }, .ok (sampleRequest "state_request")) := by
  obtain ⟨nonce, ciphertext, sealed, encrypted⟩ :=
    SessionOrder.sampleAead_seals (s := phoneSession) (sampleRequest "state_request") (by decide)
  have mirrors : SessionOrder.Mirrors (sampleSession 0) phoneSession := ⟨rfl, rfl, rfl, rfl, rfl⟩
  have object : (sampleRequest "state_request").isObj = true := rfl
  have live : (sampleSession 0).live 0 = true := by decide
  have opens := (sampleAead_decrypt_iff _ _ _ _ _).mpr encrypted
  exact ⟨ciphertext, SessionOrder.decrypt_encrypt mirrors sealed object opens live⟩

end Round

theorem firstFrame_idle : Idle firstFrame := ⟨rfl, rfl, rfl, .inl rfl⟩

theorem firstFrame_reach {meets : Runtime → Event → Prop} (met : meets {} .reconnect) :
    Reach (Runtime.step handshakeEnv) meets Initial firstFrame := by
  have started : Initial {} := ⟨rfl, rfl, rfl, rfl, rfl⟩
  exact .next (.start started) met rfl

theorem nonce_once_answer : ∃ m, (used m).length = 1 ∧ (used m).Nodup := by
  obtain ⟨ciphertext, decrypts⟩ := request_decrypts
  obtain ⟨taken, m, run, -, sent, new⟩ := idle_round (.str "one") firstFrame_idle decrypts
  have first : NewKey handshakeEnv firstFrame (.frame sampleEnvelope) := by
    refine fun sender key body init _ _ _ _ => ⟨fun nonce => ?_, fun peer session found => ?_⟩
    · simp [used, seals, firstFrame]
    · cases found
  refine ⟨m, ?_, nonce_once handshakeEnv (run.reach (firstFrame_reach trivial) (new first))⟩
  unfold used
  rw [sent]
  rfl

/-- The relay repeats the handshake and the first frame, and two answers are encrypted under one key
and nonce. -/
theorem nonce_twice : ¬ ∀ m, Reach (Runtime.step handshakeEnv) anyStep Initial m → ∀ first ∈ seals m, ∀ second ∈ seals m,
    first.2.1 = second.2.1 → first.2.2.1 = second.2.2.1 → first.2.2.2 = second.2.2.2 := by
  intro distinct
  obtain ⟨ciphertext, decrypts⟩ := request_decrypts
  obtain ⟨taken, m, run, idle, sent, -⟩ := idle_round (.str "one") firstFrame_idle decrypts
  obtain ⟨taken', m', run', -, sent', -⟩ := idle_round (.str "two") idle decrypts
  have reach : Reach (Runtime.step handshakeEnv) anyStep Initial m' :=
    (run.append run').reach (firstFrame_reach trivial) fun _ _ => trivial
  have distinct' := distinct m' reach
  rw [sent] at sent'
  rw [sent'] at distinct'
  have same := distinct' _ List.mem_cons_self _ (List.mem_cons_of_mem _ List.mem_cons_self) rfl rfl
  simp [responseBody] at same

end WispGate.Soundness.NonceReuse
