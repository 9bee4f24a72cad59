import WispGate.Model.Session
import WispGate.Data.Transition

/-! # Two sessions across a hostile network

Two ends encrypt bodies as they like, and the network hands either of them any frame at any time:
it may drop, repeat, delay, reorder, reflect and alter what was sent, or make frames up. The one
thing it cannot do is to seal: a ciphertext that opens was sealed in the run under that key, nonce
and associated data (`Unforged`). `Joint` ties both counters, the sealed messages and the bodies
of both ends together.
-/

namespace WispGate.Soundness.SessionOrder

open Data Model

/-! ## The machine -/

/-- The two ends of a session. -/
inductive End where
  | android
  | wisp
deriving DecidableEq

def End.other : End → End
  | .android => .wisp
  | .wisp => .android

@[simp] theorem End.other_other (side : End) : side.other.other = side := by cases side <;> rfl

/-- One end: its session, the bodies its `encrypt` took and those its `decrypt` returned. -/
structure Party where
  session : PeerSession
  encrypted : List Json := []
  decrypted : List Json := []

/-- What the cipher sealed. -/
structure Sealed where
  key : Bytes
  nonce : Bytes
  aad : Bytes
  plaintext : Bytes
  ciphertext : Bytes

structure Channel where
  party : End → Party
  sealed : List Sealed := []

inductive Event where
  | encrypt (side : End) (body : Json) (now : ℕ)
  | decrypt (side : End) (frame : Json) (now : ℕ)

namespace Channel

variable (aead : Aead)

/-- The message that an `encrypt` which returns has sealed. -/
def sealing (s : PeerSession) (body : Json) : List Sealed :=
  match s.sealed aead body with
  | .ok (nonce, ciphertext) => [⟨s.sendKey, nonce, s.sendAad, utf8 body.dumps, ciphertext⟩]
  | .error _ => []

def step (c : Channel) : Event → Option Channel
  | .encrypt side body now =>
    let p := c.party side
    match p.session.encrypt aead body now with
    | (s, .error _) => some { c with party := Function.update c.party side { p with session := s } }
    | (s, .ok _) =>
      some { party := Function.update c.party side { p with session := s, encrypted := p.encrypted ++ [body] }
             sealed := sealing aead p.session body ++ c.sealed }
  | .decrypt side frame now =>
    let p := c.party side
    match p.session.decrypt aead frame now with
    | (s, .error _) => some { c with party := Function.update c.party side { p with session := s } }
    | (s, .ok body) =>
      some { c with party := Function.update c.party side { p with session := s, decrypted := p.decrypted ++ [body] } }

/-- Two sessions of one id with the same directional keys, mirrored ids and opposite sides. -/
def Paired (c : Channel) : Prop :=
  ∃ sessionId localId peerId androidToWispKey wispToAndroidKey createdAt createdAt',
    androidToWispKey ≠ wispToAndroidKey ∧
    c = { party := fun
          | .android => ⟨.create sessionId localId peerId androidToWispKey wispToAndroidKey createdAt true, [], []⟩
          | .wisp => ⟨.create sessionId peerId localId androidToWispKey wispToAndroidKey createdAt' false, [], []⟩ }

/-- A ciphertext that opens under a key of the session was sealed under it, with the nonce and the
associated data it opens under. -/
def Unforged (c : Channel) : Event → Prop
  | .encrypt _ _ _ => True
  | .decrypt _ frame _ => ∀ ciphertext, PeerSession.ciphertextOf frame = .ok ciphertext →
    ∀ side nonce aad plaintext,
      aead.decrypt (c.party side).session.receiveKey nonce ciphertext aad = .ok plaintext →
      ⟨(c.party side).session.receiveKey, nonce, aad, plaintext, ciphertext⟩ ∈ c.sealed

end Channel

/-! ## What the operations do -/

section Operations

variable {aead : Aead} {s s' : PeerSession} {body frame : Json} {now : ℕ}

/-- A message is sealed under the nonce of the next sequence. -/
theorem sealed_nonce {nonce ciphertext : Bytes} (success : s.sealed aead body = .ok (nonce, ciphertext)) :
    sessionNonce (.int s.sendSequence) = .ok nonce := by
  unfold PeerSession.sealed at success
  split at success
  · cases success
  · rename_i drawn
    split at success
    · cases success
    · cases success
      exact drawn

variable (aead s body now) in
theorem encrypt_cases :
    (∃ e, s.encrypt aead body now = (s, .error e)) ∨ ∃ nonce ciphertext,
      s.sealed aead body = .ok (nonce, ciphertext) ∧
      s.encrypt aead body now = ({ s with sendSequence := s.sendSequence + 1 }, .ok (s.envelope ciphertext)) := by
  unfold PeerSession.encrypt
  split_ifs
  · split
    · exact .inl ⟨_, rfl⟩
    · rename_i nonce ciphertext sealed
      exact .inr ⟨nonce, ciphertext, sealed, rfl⟩
  · exact .inl ⟨_, rfl⟩

variable (now) in
theorem encrypt_ok {nonce ciphertext : Bytes} (live : s.live now = true)
    (success : s.sealed aead body = .ok (nonce, ciphertext)) : s.encrypt aead body now =
      ({ s with sendSequence := s.sendSequence + 1 }, .ok (s.envelope ciphertext)) := by
  simp [PeerSession.encrypt, live, success]

/-- A body that is returned was opened under the nonce of the exact next sequence. -/
theorem opened_spec {sequence : Json} (success : s.opened aead frame sequence = .ok body) :
    ∃ nonce ciphertext plaintext, sessionNonce sequence = .ok nonce ∧
      PeerSession.ciphertextOf frame = .ok ciphertext ∧
      aead.decrypt s.receiveKey nonce ciphertext (sessionAad s.sessionId s.peerId s.localId sequence) =
        .ok plaintext ∧ loadsBytes plaintext = .ok body := by
  unfold PeerSession.opened at success
  split at success
  · cases success
  · rename_i nonce drawn
    split at success
    · cases success
    · rename_i ciphertext found
      split at success
      · cases success
      · rename_i plaintext opens
        split at success
        · cases success
        · rename_i value read
          split_ifs at success
          cases success
          exact ⟨nonce, ciphertext, plaintext, drawn, found, opens, read⟩

variable (aead s frame now) in
theorem decrypt_cases :
    (∃ e, s.decrypt aead frame now = (s, .error e)) ∨ ∃ body,
      (frame.get "sequence").pyEq (.int s.receiveSequence) = true ∧
      s.opened aead frame (frame.get "sequence") = .ok body ∧
      s.decrypt aead frame now = ({ s with receiveSequence := s.receiveSequence + 1 }, .ok body) := by
  unfold PeerSession.decrypt
  split_ifs with live object routed next
  · split
    · exact .inl ⟨_, rfl⟩
    · rename_i body opens
      exact .inr ⟨body, next, opens, rfl⟩
  · exact .inl ⟨_, rfl⟩
  · exact .inl ⟨_, rfl⟩
  · exact .inl ⟨_, rfl⟩
  · exact .inl ⟨_, rfl⟩

/-- A value that a nonce is made from and that equals a number is that number. -/
theorem sequence_int {sequence : Json} {n : ℕ} {nonce : Bytes} (equal : sequence.pyEq (.int n) = true)
    (drawn : sessionNonce sequence = .ok nonce) : sequence = .int n := by
  cases sequence with
  | int m => simpa [Json.pyEq, Json.number?] using equal
  | null => cases drawn
  | bool b => cases drawn
  | str t => cases drawn
  | arr xs => cases drawn
  | obj xs => cases drawn

/-- A session that receives what another one sends, up to its next frame. -/
structure Mirrors (r s : PeerSession) : Prop where
  sessionId : r.sessionId = s.sessionId
  sender : r.peerId = s.localId
  recipient : r.localId = s.peerId
  key : r.receiveKey = s.sendKey
  next : r.receiveSequence = s.sendSequence

/-- The next frame of the other end, delivered unchanged, is accepted. -/
theorem decrypt_encrypt {r : PeerSession} {nonce ciphertext : Bytes} {later : ℕ} (mirrors : Mirrors r s)
    (success : s.sealed aead body = .ok (nonce, ciphertext)) (object : body.isObj = true)
    (opens : aead.decrypt s.sendKey nonce ciphertext s.sendAad = .ok (utf8 body.dumps)) (live : r.live later = true) :
    r.decrypt aead (s.envelope ciphertext) later = ({ r with receiveSequence := r.receiveSequence + 1 }, .ok body) := by
  obtain ⟨sessionId, sender, recipient, key, next⟩ := mirrors
  have routed : r.routed (s.envelope ciphertext) = true := by
    simp [PeerSession.routed, PeerSession.envelope, Json.get, Json.lookup, Json.pyEq, Json.number?, sessionId,
      sender, recipient]
  have sequence : (s.envelope ciphertext).get "sequence" = .int s.sendSequence := rfl
  have opened : r.opened aead (s.envelope ciphertext) (.int s.sendSequence) = .ok body := by
    unfold PeerSession.opened
    rw [sealed_nonce success, PeerSession.ciphertextOf_envelope, key, sessionId, sender, recipient]
    dsimp only
    rw [show sessionAad s.sessionId s.localId s.peerId (.int s.sendSequence) = s.sendAad from rfl, opens]
    simp [object]
  unfold PeerSession.decrypt
  rw [sequence, next, opened]
  simp [live, routed, show (s.envelope ciphertext).isObj = true from rfl, Json.pyEq, Json.number?]

end Operations

/-! ## The joint invariant -/

/-- The keys of a side, and counters that count its bodies. -/
structure Own (key : End → Bytes) (side : End) (p : Party) : Prop where
  sendKey : p.session.sendKey = key side
  receiveKey : p.session.receiveKey = key side.other
  sends : p.session.sendSequence = p.encrypted.length
  receives : p.session.receiveSequence = p.decrypted.length

/-- A sealed message carries a body of its side under the nonce of that body's place. -/
def Carries (key : End → Bytes) (side : End) (encrypted : List Json) (message : Sealed) : Prop :=
  ∃ (i : ℕ) (body : Json), message.key = key side ∧ sessionNonce (.int i) = .ok message.nonce ∧
    encrypted[i]? = some body ∧ message.plaintext = utf8 body.dumps

/-- Both counters, the sealed messages and the bodies at both ends. -/
structure Joint (key : End → Bytes) (c : Channel) : Prop where
  own : ∀ side, Own key side (c.party side)
  seals : ∀ message ∈ c.sealed, ∃ side, Carries key side (c.party side).encrypted message
  delivered : ∀ side, (c.party side).decrypted <+: (c.party side.other).encrypted

section Invariant

variable {aead : Aead} {key : End → Bytes} {c c' : Channel} {side : End}

theorem End.other_of_ne {d : End} (ne : d ≠ side) : d = side.other := by
  cases d <;> cases side <;> first | rfl | exact absurd rfl ne

theorem Carries.grow {encrypted encrypted' : List Json} {message : Sealed}
    (carries : Carries key side encrypted message) (grown : encrypted <+: encrypted') :
    Carries key side encrypted' message := by
  obtain ⟨i, body, own, drawn, found, text⟩ := carries
  obtain ⟨more, rfl⟩ := grown
  obtain ⟨inside, _⟩ := List.getElem?_eq_some_iff.mp found
  exact ⟨i, body, own, drawn, by rw [List.getElem?_append_left inside, found], text⟩

/-- One end may be replaced by one that agrees with the other and with what it sealed. -/
theorem Joint.replace (joint : Joint key c) {p : Party} {new : List Sealed} (own : Own key side p)
    (grown : (c.party side).encrypted <+: p.encrypted) (delivered : p.decrypted <+: (c.party side.other).encrypted)
    (seals : ∀ message ∈ new, Carries key side p.encrypted message) :
    Joint key { party := Function.update c.party side p, sealed := new ++ c.sealed } := by
  have apart : side.other ≠ side := by cases side <;> decide
  constructor
  · intro d
    by_cases mine : d = side
    · subst mine
      simpa using own
    · simpa [Function.update_of_ne mine] using joint.own d
  · intro message member
    rcases List.mem_append.mp member with fresh | old
    · exact ⟨side, by simpa using seals message fresh⟩
    · obtain ⟨d, carries⟩ := joint.seals message old
      refine ⟨d, ?_⟩
      by_cases mine : d = side
      · subst mine
        simpa using carries.grow grown
      · simpa [Function.update_of_ne mine] using carries
  · intro d
    by_cases mine : d = side
    · subst mine
      simpa [Function.update_of_ne apart] using delivered
    · obtain rfl := End.other_of_ne mine
      have before := joint.delivered side.other
      rw [End.other_other] at before
      simpa [Function.update_of_ne mine] using before.trans grown

/-- The message that the other end sealed in the exact next place carries the exact next body. -/
theorem next_body (joint : Joint key c) (distinct : key .android ≠ key .wisp) {message : Sealed}
    (member : message ∈ c.sealed) (own : message.key = key side.other)
    (drawn : sessionNonce (.int (c.party side).decrypted.length) = .ok message.nonce) {body : Json}
    (read : loadsBytes message.plaintext = .ok body) :
    (c.party side).decrypted ++ [body] <+: (c.party side.other).encrypted := by
  obtain ⟨d, i, sent, own', drawn', found, text⟩ := joint.seals message member
  have same : d = side.other := by
    rw [own] at own'
    cases side <;> cases d <;> first | rfl | exact absurd own' distinct | exact absurd own'.symm distinct
  subst same
  obtain rfl : (c.party side).decrypted.length = i := sessionNonce_injective drawn drawn'
  obtain rfl : sent = body := by
    rw [text, loadsBytes_dumps] at read
    exact Except.ok.inj read
  obtain ⟨rest, all⟩ := joint.delivered side
  rw [← all, List.getElem?_append_right (Nat.le_refl _), Nat.sub_self] at found
  obtain ⟨tail, rfl⟩ : ∃ tail, rest = sent :: tail := by
    cases rest with
    | nil => cases found
    | cons first tail => exact ⟨tail, by simpa using found⟩
  exact ⟨tail, by rw [List.append_assoc, ← all]; rfl⟩

theorem Joint.step (joint : Joint key c) (distinct : key .android ≠ key .wisp) {e : Event}
    (ideal : Channel.Unforged aead c e) (stepped : c.step aead e = some c') : Joint key c' := by
  cases e with
  | encrypt side body now =>
    have own := joint.own side
    simp only [Channel.step] at stepped
    rcases encrypt_cases aead (c.party side).session body now
      with ⟨e, raised⟩ | ⟨nonce, ciphertext, sealed, returned⟩
    · simp only [raised, Option.some.injEq] at stepped
      subst stepped
      exact joint.replace own (List.prefix_refl _) (joint.delivered side) ((by simp) : ∀ _ ∈ [], _)
    · simp only [returned, Option.some.injEq] at stepped
      subst stepped
      have counted : (c.party side).session.sendSequence + 1 = ((c.party side).encrypted ++ [body]).length := by
        rw [own.sends, List.length_append, List.length_singleton]
      refine joint.replace ⟨own.sendKey, own.receiveKey, counted, own.receives⟩
        (List.prefix_append _ _) (joint.delivered side) ?_
      intro message member
      simp only [Channel.sealing, sealed, List.mem_singleton] at member
      have drawn := sealed_nonce sealed
      have place : ((c.party side).encrypted ++ [body])[(c.party side).encrypted.length]? = some body := by simp
      rw [own.sends] at drawn
      rw [member]
      exact ⟨_, body, own.sendKey, drawn, place, rfl⟩
  | decrypt side frame now =>
    have own := joint.own side
    simp only [Channel.step] at stepped
    rcases decrypt_cases aead (c.party side).session frame now
      with ⟨e, raised⟩ | ⟨body, equal, opens, returned⟩
    · simp only [raised, Option.some.injEq] at stepped
      subst stepped
      exact joint.replace own (List.prefix_refl _) (joint.delivered side) ((by simp) : ∀ _ ∈ [], _)
    · simp only [returned, Option.some.injEq] at stepped
      subst stepped
      obtain ⟨nonce, ciphertext, plaintext, drawn, found, opened, read⟩ := opened_spec opens
      have sealed := ideal ciphertext found side nonce _ plaintext opened
      rw [sequence_int equal drawn, own.receives] at drawn
      have counted : (c.party side).session.receiveSequence + 1 = ((c.party side).decrypted ++ [body]).length := by
        rw [own.receives, List.length_append, List.length_singleton]
      have moved : Own key side { c.party side with
          session := { (c.party side).session with receiveSequence := (c.party side).session.receiveSequence + 1 }
          decrypted := (c.party side).decrypted ++ [body] } :=
        ⟨own.sendKey, own.receiveKey, own.sends, counted⟩
      have arrived := next_body joint distinct sealed own.receiveKey drawn read
      exact joint.replace moved (List.prefix_refl _) arrived ((by simp) : ∀ _ ∈ [], _)

end Invariant

/-! ## The result -/

/-- In every run of two paired sessions over a network that does anything but forge: the bodies
that either end decrypted are a prefix of the bodies the other end encrypted, and a frame that is
rejected leaves the session as it was. -/
theorem session_in_order (aead : Aead) {c : Channel}
    (reach : Reach (Channel.step aead) (Channel.Unforged aead) Channel.Paired c) (side : End) :
    (c.party side).decrypted <+: (c.party side.other).encrypted ∧
    ∀ frame now e, ((c.party side).session.decrypt aead frame now).2 = .error e →
      ((c.party side).session.decrypt aead frame now).1 = (c.party side).session := by
  have joint : ∃ key : End → Bytes, key .android ≠ key .wisp ∧ Joint key c := by
    induction reach with
    | start started =>
      obtain ⟨sessionId, localId, peerId, androidToWispKey, wispToAndroidKey, createdAt, createdAt', distinct, rfl⟩ :=
        started
      refine ⟨fun | .android => androidToWispKey | .wisp => wispToAndroidKey, distinct, ?_, by simp, ?_⟩
      · intro side
        cases side <;> exact ⟨rfl, rfl, rfl, rfl⟩
      · intro side
        cases side <;> exact List.prefix_refl _
    | next before ideal stepped ih =>
      obtain ⟨key, distinct, joint⟩ := ih
      exact ⟨key, distinct, joint.step distinct ideal stepped⟩
  obtain ⟨key, _, joint⟩ := joint
  refine ⟨joint.delivered side, fun frame now e failed => ?_⟩
  rcases decrypt_cases aead (c.party side).session frame now
    with ⟨e, raised⟩ | ⟨body, _, _, returned⟩
  · rw [raised]
  · rw [returned] at failed
    cases failed

/-- Both operations always return or raise. -/
theorem step_defined (aead : Aead) (c : Channel) (e : Event) : ∃ c', c.step aead e = some c' := by
  cases e <;> simp only [Channel.step] <;> split <;> exact ⟨_, rfl⟩

/-- A frame that carries a sealed message is not forged. -/
theorem sample_unforged {c : Channel} {side : End} {frame : Json} {now : ℕ} {message : Sealed}
    (carried : PeerSession.ciphertextOf frame = .ok message.ciphertext) (member : message ∈ c.sealed)
    (sealed : sampleAead.encrypt message.key message.nonce message.plaintext message.aad = .ok message.ciphertext) :
    Channel.Unforged sampleAead c (.decrypt side frame now) := by
  intro ciphertext found other nonce aad plaintext opened
  obtain rfl := Except.ok.inj (carried.symm.trans found)
  rw [sampleAead_decrypt_iff] at opened
  have same := Except.ok.inj (sealed.trans opened.symm)
  obtain ⟨key, same⟩ := delimit_append_inj same
  obtain ⟨nonce', same⟩ := delimit_append_inj same
  obtain ⟨aad', text⟩ := delimit_append_inj same
  rw [← key, ← nonce', ← aad', ← text]
  exact member

/-- A fresh pair of sessions. -/
def sampleChannel : Channel where
  party
    | .android => ⟨.create "session" "phone" "wisp" [1] [2] 0 true, [], []⟩
    | .wisp => ⟨.create "session" "wisp" "phone" [1] [2] 0 false, [], []⟩

def sampleBody : Json := .obj [("action", .str "state_request")]

theorem sampleAead_seals {s : PeerSession} (body : Json) (small : s.sendSequence < 2 ^ 64) :
    ∃ nonce ciphertext, s.sealed sampleAead body = .ok (nonce, ciphertext) ∧
      sampleAead.encrypt s.sendKey nonce (utf8 body.dumps) s.sendAad = .ok ciphertext := by
  refine ⟨sessionNoncePrefix ++ bigEndian s.sendSequence, _, ?_, rfl⟩
  unfold PeerSession.sealed
  rw [sessionNonce_nat, if_pos small]
  rfl

theorem session_in_order_delivered : ∃ c : Channel, (c.party .wisp).decrypted = [sampleBody] ∧
    (c.party .wisp).decrypted <+: (c.party .android).encrypted := by
  have paired : sampleChannel.Paired := ⟨"session", "phone", "wisp", [1], [2], 0, 0, by decide, rfl⟩
  obtain ⟨nonce, ciphertext, success, sealed⟩ :=
    sampleAead_seals (s := (sampleChannel.party .android).session) sampleBody (by decide)
  have encrypted := encrypt_ok 1 (by decide) success
  obtain ⟨c, sent⟩ := step_defined sampleAead sampleChannel (.encrypt .android sampleBody 1)
  have state := sent
  simp only [Channel.step, encrypted, Option.some.injEq, Channel.sealing, success] at state
  have mirrors : Mirrors (c.party .wisp).session (sampleChannel.party .android).session := by
    subst state
    exact ⟨rfl, rfl, rfl, rfl, rfl⟩
  have live : (c.party .wisp).session.live 2 = true := by
    subst state
    rfl
  have member : ⟨(sampleChannel.party .android).session.sendKey, nonce,
      (sampleChannel.party .android).session.sendAad, utf8 sampleBody.dumps, ciphertext⟩ ∈ c.sealed := by
    subst state
    exact List.mem_cons_self
  have decrypted := decrypt_encrypt mirrors success rfl ((sampleAead_decrypt_iff _ _ _ _ _).mpr sealed) live
  obtain ⟨c', delivered⟩ := step_defined sampleAead c
    (.decrypt .wisp ((sampleChannel.party .android).session.envelope ciphertext) 2)
  have state' := delivered
  simp only [Channel.step, decrypted, Option.some.injEq] at state'
  have reach : Reach (Channel.step sampleAead) (Channel.Unforged sampleAead) Channel.Paired c' :=
    .next (.next (e := .encrypt .android sampleBody 1) (.start paired) trivial sent)
      (sample_unforged (PeerSession.ciphertextOf_envelope _ ciphertext) member sealed) delivered
  refine ⟨c', ?_, (session_in_order sampleAead reach .wisp).1⟩
  subst state' state
  rfl

end WispGate.Soundness.SessionOrder
