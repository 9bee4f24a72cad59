import WispGate.Model.Wisp.ControlFrames
import WispGate.Soundness.Execution

/-! # Requests for a fresh session

A frame that names no session a Wisp holds for its sender should make the sender begin again. The loop
asks for that where it holds no session at all; a session under another id or past its lifetime is
dropped in silence, and the sender waits.
-/

namespace WispGate.Soundness.SessionResets

open Data Model Model.Wisp Runtime RuntimeMoves

/-- The frame names an unexpired session that is held for a peer. -/
def Held (m : Runtime) (message : Json) (peer : String) : Prop :=
  ∃ session, m.peers.sessions.get? peer = some session ∧ session.live m.now = true ∧
    (message.get "session_id").pyEq (.str session.sessionId) = true

/-! ## Where the loop stands -/

section Standing

variable {env : Env} {m : Runtime} {sender : String} {body message : Json}

theorem raises_undrained (e : PyError) : (m.raises e).pc ≠ .draining := by
  rcases raises_pc m e with pc | pc <;> simp [pc]

theorem act_undrained (choice : Choice) : (m.act sender choice).pc ≠ .draining := by
  cases choice with
  | unhashable => exact raises_undrained _
  | action wisp operationId actionData =>
    simp only [act]
    split
    · exact raises_undrained _
    · rintro ⟨⟩
  | _ => rintro ⟨⟩

theorem dispatch_undrained : (m.dispatch env sender body).pc ≠ .draining := by
  unfold dispatch
  dsimp only
  split_ifs
  · rintro ⟨⟩
  · exact act_undrained _

/-- The loop waits for a frame to leave if and only if there is one. -/
theorem onFrame_controls (known : message.get "type" ≠ .str "envelope") :
    (m.onFrame env message).pc = .draining ↔ m.controls env message ≠ [] := by
  unfold onFrame controls
  split_ifs with object ping session reset
  · cases message.get "nonce" with
    | str nonce =>
      dsimp only
      split_ifs <;> simp [goto]
    | _ => simp [goto]
  · unfold onSessionEnvelope sessionControls
    cases message.get "sender" with
    | str sender =>
      dsimp only
      cases m.peers.sessions.get? sender with
      | none => simp [goto]
      | some held =>
        dsimp only
        split
        · simp [goto]
        · simp [dispatch_undrained]
    | arr items => simp [Json.hashKey?, raises_undrained]
    | obj fields => simp [Json.hashKey?, raises_undrained]
    | _ => simp [Json.hashKey?, goto]
  · unfold onSessionReset
    split_ifs
    · simp [goto]
    · split
      · simp [goto]
      · split_ifs <;> simp [tear, goto]
  · simp [goto]
  · simp [tear, goto]

end Standing

/-! ## The result -/

/-- A frame that names no unexpired session held for its sender makes the loop write exactly one request
for a fresh session, to the sender, if and only if no session is held for the sender at all. -/
theorem reset_iff (env : Env) (m : Runtime) (message : Json) (peer : String)
    (kind : message.get "type" = .str "session_envelope") (sender : message.get "sender" = .str peer) :
    (¬ Held m message peer →
      m.controls env message = [sessionReset env.clientId (.str peer) "unknown_session"]) ↔
      Held m message peer ∨ m.peers.sessions.get? peer = none := by
  have object : message.isObj = true := by
    cases message <;> first | rfl | cases kind
  have served : m.controls env message = m.sessionControls env message := by
    simp [controls, object, kind]
  rw [served, sessionControls, sender]
  by_cases held : Held m message peer
  · simp [held]
  · cases found : m.peers.sessions.get? peer with
    | none => simp [found]
    | some session => simp [found, held]

/-- A frame under a session id. -/
def frameOf (sessionId : String) : Json :=
  .obj [("version", .int 1), ("type", .str "session_envelope"), ("session_id", .str sessionId), ("sender", .str "phone"),
    ("recipient", .str "wisp"), ("sequence", .int 3), ("ciphertext", .str "AAAA")]

theorem reset_unknown : Runtime.controls Provenance.handshakeEnv Provenance.firstFrame (frameOf "s0") =
    [sessionReset "wisp" (.str "phone") "unknown_session"] :=
  have nobody : ¬ Held Provenance.firstFrame (frameOf "s0") "phone" := by
    rintro ⟨session, held, -⟩
    cases held
  (reset_iff Provenance.handshakeEnv Provenance.firstFrame (frameOf "s0") "phone" rfl rfl).mpr (.inr rfl) nobody

/-- The phone has a session with the Wisp, and a frame of an older one arrives. -/
theorem reset_missing : ¬ ∀ (env : Env) (m : Runtime), Reach (Runtime.step env) anyStep Initial m → m.pc = .reading →
    ∀ message peer, message.get "type" = .str "session_envelope" → message.get "sender" = .str peer →
      ¬ Held m message peer →
      m.controls env message = [sessionReset env.clientId (.str peer) "unknown_session"] := by
  intro claim
  obtain ⟨m, reach, ready, -⟩ := Execution.introduced_ready anyStep fun _ _ _ => trivial
  have other : ¬ Held m (frameOf "s0") "phone" := by
    rintro ⟨session, held, -, named⟩
    obtain rfl := Option.some.inj (ready.session.symm.trans held)
    exact absurd named (by decide)
  have asked := claim _ m reach ready.reading (frameOf "s0") "phone" rfl rfl other
  have silent : m.controls Provenance.handshakeEnv (frameOf "s0") = [] := by
    have served : m.controls Provenance.handshakeEnv (frameOf "s0") =
      m.sessionControls Provenance.handshakeEnv (frameOf "s0") := rfl
    have from_phone : (frameOf "s0").get "sender" = .str "phone" := rfl
    rw [served, sessionControls, from_phone]
    simp only [ready.session]
  rw [silent] at asked
  cases asked

end WispGate.Soundness.SessionResets
