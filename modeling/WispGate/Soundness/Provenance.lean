import WispGate.Data.Separated
import WispGate.Soundness.Replies
import WispGate.Soundness.SessionOrder

/-! # Where sessions come from

The signed bytes of an envelope name its sender and its recipient, since the associated data is the
text before the first NUL. So a session a Wisp holds for a peer goes back to bytes that the holder of
the pinned key signed for this sender and this Wisp. Signatures are ideal: what verifies under a key
was signed by its holder.
-/

namespace WispGate.Soundness.Provenance

open Data Model Model.Wisp Runtime RuntimeMoves Handshakes

/-! ## What a signature covers -/

/-- The encoded members hold no NUL, as base64 does not. -/
def Unbroken (envelope : Json) : Prop :=
  ∀ name ∈ ["encrypted_key", "nonce", "ciphertext"], ∀ text, envelope.get name = .str text →
    ∀ c ∈ text.toList, c.toNat ≠ 0

section Signed

variable {rsa : Rsa} {aead : Aead} {envelope other body : Json} {bytes aad : Bytes} {name : String}

theorem sorted_str {value : Json} {text : String} (same : sorted value = .str text) : value = .str text := by
  cases value with
  | str other => exact same
  | _ => cases same

theorem member_ok {value found : Json} (read : member value name = .ok found) : found = value.get name := by
  unfold member at read
  split_ifs at read
  exact (Except.ok.inj read).symm

theorem envelopeAad_ok (covered : envelopeAad envelope = .ok aad) :
    aad = utf8 (Json.dumps (.obj [("algorithm", sorted (envelope.get "algorithm")),
      ("message_id", sorted (envelope.get "message_id")), ("recipient", sorted (envelope.get "recipient")),
      ("sender", sorted (envelope.get "sender")), ("type", sorted (envelope.get "type")),
      ("version", sorted (envelope.get "version"))])) := by
  unfold envelopeAad at covered
  cases version : member envelope "version" with
  | error e => simp [version, bind, Except.bind] at covered
  | ok version' =>
    cases type : member envelope "type" with
    | error e => simp [version, type, bind, Except.bind] at covered
    | ok type' =>
      cases sender : member envelope "sender" with
      | error e => simp [version, type, sender, bind, Except.bind] at covered
      | ok sender' =>
        cases recipient : member envelope "recipient" with
        | error e => simp [version, type, sender, recipient, bind, Except.bind] at covered
        | ok recipient' =>
          cases messageId : member envelope "message_id" with
          | error e => simp [version, type, sender, recipient, messageId, bind, Except.bind] at covered
          | ok messageId' =>
            cases algorithm : member envelope "algorithm" with
            | error e => simp [version, type, sender, recipient, messageId, algorithm, bind, Except.bind] at covered
            | ok algorithm' =>
              simp only [version, type, sender, recipient, messageId, algorithm, bind, Except.bind, pure,
                Except.pure, Except.ok.injEq] at covered
              rw [← member_ok version, ← member_ok type, ← member_ok sender, ← member_ok recipient,
                ← member_ok messageId, ← member_ok algorithm]
              exact covered.symm

/-- A member that is signed is a text, and stands for itself. -/
theorem asciiMember_ok (read : asciiMember envelope name = .ok bytes) :
    ∃ text, envelope.get name = .str text ∧ bytes = utf8 text ∧ unb64Member envelope name = unb64 text := by
  unfold asciiMember at read
  cases found : member envelope name with
  | error e => simp [found, bind, Except.bind] at read
  | ok value =>
    cases text : asciiText value with
    | error e => simp [found, text, bind, Except.bind] at read
    | ok chars =>
      simp only [found, text, bind, Except.bind, pure, Except.pure, Except.ok.injEq] at read
      unfold asciiText at text
      split at text
      · cases text
      · rename_i text' is_text
        split_ifs at text
        cases text
        refine ⟨chars, ?_, read.symm, ?_⟩
        · rw [← member_ok found]
          exact (Json.asStr?_eq_some_iff _ _).mp is_text
        · simp only [unb64Member, found, is_text, bind, Except.bind]

theorem signedBytes_ok (signed : signedBytes envelope = .ok bytes) :
    ∃ aad key nonce ciphertext, envelopeAad envelope = .ok aad ∧ asciiMember envelope "encrypted_key" = .ok key ∧
      asciiMember envelope "nonce" = .ok nonce ∧ asciiMember envelope "ciphertext" = .ok ciphertext ∧
      bytes = [0].intercalate [aad, key, nonce, ciphertext] := by
  unfold signedBytes at signed
  cases covered : envelopeAad envelope with
  | error e => simp [covered, bind, Except.bind] at signed
  | ok aad =>
    cases key : asciiMember envelope "encrypted_key" with
    | error e => simp [covered, key, bind, Except.bind] at signed
    | ok key' =>
      cases nonce : asciiMember envelope "nonce" with
      | error e => simp [covered, key, nonce, bind, Except.bind] at signed
      | ok nonce' =>
        cases ciphertext : asciiMember envelope "ciphertext" with
        | error e => simp [covered, key, nonce, ciphertext, bind, Except.bind] at signed
        | ok ciphertext' =>
          simp only [covered, key, nonce, ciphertext, bind, Except.bind, pure, Except.pure, Except.ok.injEq] at signed
          exact ⟨aad, key', nonce', ciphertext', rfl, rfl, rfl, rfl, signed.symm⟩

theorem zero_notMem_aad (covered : envelopeAad envelope = .ok aad) : (0 : UInt8) ∉ aad := by
  rw [envelopeAad_ok covered]
  exact zero_notMem_dumps _

/-- Envelopes with the same signed bytes have the same associated data. -/
theorem aad_of_signed (signed : signedBytes envelope = .ok bytes) (signed' : signedBytes other = .ok bytes) :
    ∃ aad, envelopeAad envelope = .ok aad ∧ envelopeAad other = .ok aad := by
  obtain ⟨aad, key, nonce, ciphertext, covered, -, -, -, rfl⟩ := signedBytes_ok signed
  obtain ⟨aad', key', nonce', ciphertext', covered', -, -, -, same⟩ := signedBytes_ok signed'
  have split := append_cons_injective (x := [0].intercalate [key, nonce, ciphertext])
    (y := [0].intercalate [key', nonce', ciphertext']) (zero_notMem_aad covered) (zero_notMem_aad covered') same
  exact ⟨aad, covered, split.1 ▸ covered'⟩

theorem route_of_aad (covered : envelopeAad envelope = .ok aad) (covered' : envelopeAad other = .ok aad) :
    sorted (envelope.get "sender") = sorted (other.get "sender") ∧
      sorted (envelope.get "recipient") = sorted (other.get "recipient") := by
  have texts := utf8_injective ((envelopeAad_ok covered).symm.trans (envelopeAad_ok covered'))
  have values := Json.dumps_injective texts
  simp only [Json.obj.injEq, List.cons.injEq, Prod.mk.injEq, true_and] at values
  exact ⟨values.2.2.2.1, values.2.2.1⟩

/-- The signed bytes determine the sender and the recipient. -/
theorem route_of_signed {sender recipient : String} (signed : signedBytes envelope = .ok bytes)
    (signed' : signedBytes other = .ok bytes) (from_sender : envelope.get "sender" = .str sender)
    (to_recipient : envelope.get "recipient" = .str recipient) :
    other.get "sender" = .str sender ∧ other.get "recipient" = .str recipient := by
  obtain ⟨aad, covered, covered'⟩ := aad_of_signed signed signed'
  obtain ⟨senders, recipients⟩ := route_of_aad covered covered'
  rw [from_sender] at senders
  rw [to_recipient] at recipients
  exact ⟨sorted_str senders.symm, sorted_str recipients.symm⟩

/-- The signed bytes determine the content, for an envelope that was encoded as usual. -/
theorem content_of_signed (signed : signedBytes envelope = .ok bytes) (signed' : signedBytes other = .ok bytes)
    (unbroken : Unbroken other) : openEnvelope rsa aead other = openEnvelope rsa aead envelope := by
  obtain ⟨aad, covered, covered'⟩ := aad_of_signed signed signed'
  obtain ⟨aad₁, key₁, nonce₁, ciphertext₁, covered₁, key, nonce, ciphertext, rfl⟩ := signedBytes_ok signed
  obtain ⟨aad₂, key₂, nonce₂, ciphertext₂, covered₂, key', nonce', ciphertext', same⟩ := signedBytes_ok signed'
  obtain ⟨keyText, -, rfl, keyRead⟩ := asciiMember_ok key
  obtain ⟨nonceText, -, rfl, nonceRead⟩ := asciiMember_ok nonce
  obtain ⟨cipherText, -, rfl, cipherRead⟩ := asciiMember_ok ciphertext
  obtain ⟨keyText', keyIs, rfl, keyRead'⟩ := asciiMember_ok key'
  obtain ⟨nonceText', nonceIs, rfl, nonceRead'⟩ := asciiMember_ok nonce'
  obtain ⟨cipherText', cipherIs, rfl, cipherRead'⟩ := asciiMember_ok ciphertext'
  have clean : ∀ part ∈ [aad₂, utf8 keyText', utf8 nonceText', utf8 cipherText'], (0 : UInt8) ∉ part := by
    simp only [List.forall_mem_cons, List.not_mem_nil, false_imp_iff, implies_true, and_true]
    exact ⟨zero_notMem_aad covered₂, zero_notMem_utf8 (unbroken _ (by simp) _ keyIs),
      zero_notMem_utf8 (unbroken _ (by simp) _ nonceIs), zero_notMem_utf8 (unbroken _ (by simp) _ cipherIs)⟩
  have parts := intercalate_injective clean (by rfl) same.symm
  simp only [List.cons.injEq, and_true] at parts
  obtain ⟨-, keys, nonces, ciphers⟩ := parts
  obtain rfl := utf8_injective keys
  obtain rfl := utf8_injective nonces
  obtain rfl := utf8_injective ciphers
  unfold openEnvelope
  rw [keyRead, keyRead', nonceRead, nonceRead', cipherRead, cipherRead', covered, covered']

end Signed

/-! ## Sessions -/

/-- The session that a Wisp derives from an init, whatever its counters. -/
structure Derived (env : Env) (peer : String) (session : PeerSession) (init : SessionInit) : Prop where
  sessionId : session.sessionId = init.sessionId
  localId : session.localId = env.clientId
  peerId : session.peerId = peer
  keys : (session.receiveKey, session.sendKey) = deriveSessionKeys env.hkdf init.master init.sessionId

/-- The holder of a key signed an envelope with this sender and this Wisp as its recipient, which
carries the init; and the bytes it signed leave no doubt about that. -/
def Attests (env : Env) (Signed : String → Bytes → Prop) (key sender : String) (init : SessionInit) : Prop :=
  ∃ envelope bytes body, Signed key bytes ∧ signedBytes envelope = .ok bytes ∧
    envelope.get "sender" = .str sender ∧ envelope.get "recipient" = .str env.clientId ∧
    openEnvelope env.rsa env.aead envelope = .ok body ∧ sessionInit body = .ok init ∧
    ∀ other, signedBytes other = .ok bytes → other.get "sender" = .str sender ∧
      other.get "recipient" = .str env.clientId ∧ (Unbroken other → openEnvelope env.rsa env.aead other = .ok body)

/-- Every session goes back to what the holder of the pinned key signed. -/
def Attested (env : Env) (Signed : String → Bytes → Prop) (peers : Peers) : Prop :=
  ∀ peer session, peers.sessions.get? peer = some session → ∃ key init, peers.keys.get? peer = some key ∧ key ≠ "" ∧
    Derived env peer session init ∧ Attests env Signed key peer init

section Steps

variable {env : Env} {Signed : String → Bytes → Prop} {peers peers' : Peers} {message body : Json} {now : ℕ}
  {sender peer key known : String} {outcome : Except PyError (String × Json)} {init : SessionInit} {m m' : Runtime}

theorem decrypted_attests (ideal : ∀ key signature bytes, env.rsa.verify key signature bytes = true → Signed key bytes)
    {pinned : Option String} (from_sender : message.get "sender" = .str sender)
    (to_self : message.get "recipient" = .str env.clientId)
    (decrypted : decryptEnvelope env.rsa env.aead message pinned = .ok (body, key))
    (carries : sessionInit body = .ok init) : Attests env Signed key sender init := by
  obtain ⟨-, -, -, -, ⟨signature, bytes, -, signed, valid⟩, opened⟩ := decryptEnvelope_ok decrypted
  refine ⟨message, bytes, body, ideal key signature bytes valid, signed, from_sender, to_self, opened, carries, ?_⟩
  intro other signed'
  obtain ⟨same_sender, same_recipient⟩ := route_of_signed signed signed' from_sender to_self
  exact ⟨same_sender, same_recipient, fun unbroken => (content_of_signed signed signed' unbroken).trans opened⟩

/-- A key that is known is never replaced. -/
theorem pin_keeps (pinned : peers.keys.get? peer = some known) (nonempty : known ≠ "") :
    (Peers.pin peers sender key).keys.get? peer = some known := by
  unfold Peers.pin
  split_ifs with unpinned
  · refine (Dict.get?_insert_of_ne _ _ ?_).trans pinned
    rintro rfl
    rw [pinned] at unpinned
    simp [pinnedKey, nonempty] at unpinned
  · exact pinned

theorem handled_keeps (handled : Handled env peers message now peers' outcome)
    (pinned : peers.keys.get? peer = some known)
    (nonempty : known ≠ "") : peers'.keys.get? peer = some known := by
  cases handled with
  | refused e => exact pinned
  | pinned e sender key body from_sender decrypted other => exact pin_keeps pinned nonempty
  | accepted sender key body init from_sender to_self decrypted carries => exact pin_keeps pinned nonempty

/-- The key an envelope was verified with is not empty. -/
theorem decrypted_nonempty {pinned : Option String}
    (decrypted : decryptEnvelope env.rsa env.aead message pinned = .ok (body, key)) : key ≠ "" := by
  obtain ⟨-, -, chosen, -⟩ := decryptEnvelope_ok decrypted
  rcases senderKey_ok chosen with known | ⟨-, nonempty⟩
  · exact of_decide_eq_true (Option.filter_eq_some_iff.mp known).2
  · exact nonempty

theorem pin_empty (nonempty : key ≠ "") (empty : (Peers.pin peers sender key).keys.get? peer = some "") :
    peers.keys.get? peer = some "" := by
  unfold Peers.pin at empty
  split_ifs at empty
  · rw [Dict.get?_insert] at empty
    split_ifs at empty
    · exact absurd (Option.some.inj empty) nonempty
    · exact empty
  · exact empty

theorem handled_empty (handled : Handled env peers message now peers' outcome) (empty : peers'.keys.get? peer = some "") :
    peers.keys.get? peer = some "" := by
  cases handled with
  | refused e => exact empty
  | pinned e sender key body from_sender decrypted other => exact pin_empty (decrypted_nonempty decrypted) empty
  | accepted sender key body init from_sender to_self decrypted carries =>
    exact pin_empty (decrypted_nonempty decrypted) empty

/-- Sessions are attested as long as the keys stay. -/
theorem Attested.keys (attested : Attested env Signed peers) (sessions : peers'.sessions = peers.sessions)
    (kept : ∀ peer key, peers.keys.get? peer = some key → key ≠ "" → peers'.keys.get? peer = some key) :
    Attested env Signed peers' := by
  intro peer session found
  rw [sessions] at found
  obtain ⟨key, init, pinned, nonempty, derived, attests⟩ := attested peer session found
  exact ⟨key, init, kept peer key pinned nonempty, nonempty, derived, attests⟩

theorem handled_attested (ideal : ∀ key signature bytes, env.rsa.verify key signature bytes = true → Signed key bytes)
    (attested : Attested env Signed peers) (handled : Handled env peers message now peers' outcome) :
    Attested env Signed peers' := by
  have kept : ∀ peer key, peers.keys.get? peer = some key → key ≠ "" → peers'.keys.get? peer = some key :=
    fun peer key pinned nonempty => handled_keeps handled pinned nonempty
  cases handled with
  | refused e => exact attested
  | pinned e sender key body from_sender decrypted other => exact attested.keys pin_sessions kept
  | accepted sender key body init from_sender to_self decrypted carries =>
    intro peer session found
    rw [Dict.get?_insert] at found
    split_ifs at found with same
    · cases found
      subst same
      exact ⟨key, init, pin_get? decrypted, decrypted_nonempty decrypted, ⟨rfl, rfl, rfl, rfl⟩,
        decrypted_attests ideal from_sender to_self decrypted carries⟩
    · obtain ⟨key', init', pinned, nonempty, derived, attests⟩ := attested peer session found
      exact ⟨key', init', kept peer key' pinned nonempty, nonempty, derived, attests⟩

/-- Counters do not matter. -/
theorem Attested.update (attested : Attested env Signed peers) {session session' : PeerSession}
    (found : peers.sessions.get? sender = some session) (sessionId : session'.sessionId = session.sessionId)
    (localId : session'.localId = session.localId) (peerId : session'.peerId = session.peerId)
    (receive : session'.receiveKey = session.receiveKey) (send : session'.sendKey = session.sendKey) :
    Attested env Signed { peers with sessions := peers.sessions.insert sender session' } := by
  intro peer later read
  rw [Dict.get?_insert] at read
  split_ifs at read with same
  · cases read
    subst same
    obtain ⟨key, init, pinned, nonempty, derived, attests⟩ := attested sender session found
    refine ⟨key, init, pinned, nonempty, ⟨sessionId.trans derived.sessionId, localId.trans derived.localId,
      peerId.trans derived.peerId, ?_⟩, attests⟩
    rw [receive, send]
    exact derived.keys
  · exact attested peer later read

theorem step_attested (ideal : ∀ key signature bytes, env.rsa.verify key signature bytes = true → Signed key bytes)
    (attested : Attested env Signed m.peers) {event : Event} (traffic : Traffic env m event m') :
    Attested env Signed m'.peers := by
  cases traffic with
  | silent peers same =>
    rw [peers]
    exact attested
  | handshake message outcome delivered handled same => exact handled_attested ideal attested handled
  | forgets peer peers same =>
    rw [peers]
    intro other session found
    rw [Dict.get?_erase] at found
    split_ifs at found
    exact attested other session found
  | opens peer session session' frame body found decrypted peers same =>
    rw [peers]
    rcases SessionOrder.decrypt_cases env.aead session frame m.now with
      ⟨e, failed⟩ | ⟨body, -, -, opened⟩
    · rw [failed] at decrypted
      cases decrypted
    · rw [opened] at decrypted
      cases decrypted
      exact attested.update found rfl rfl rfl rfl rfl
  | encrypts peer session body nonce ciphertext found sealed peers more =>
    rw [peers]
    exact attested.update found rfl rfl rfl rfl rfl

/-- The keys a step leaves. -/
theorem traffic_keys {event : Event} (traffic : Traffic env m event m') :
    m'.peers.keys = m.peers.keys ∨ ∃ message outcome, Handled env m.peers message m.now m'.peers outcome := by
  cases traffic with
  | silent peers same => exact .inl (by rw [peers])
  | handshake message outcome delivered handled same => exact .inr ⟨message, outcome, handled⟩
  | forgets peer peers same => exact .inl (by rw [peers])
  | opens peer session session' frame body found decrypted peers same => exact .inl (by rw [peers])
  | encrypts peer session body nonce ciphertext found sealed peers more => exact .inl (by rw [peers])

theorem trail_keeps {later : List (Runtime × Event)} (run : Trail (Runtime.step env) m later m')
    (pinned : m.peers.keys.get? peer = some known) (nonempty : known ≠ "") :
    m'.peers.keys.get? peer = some known := by
  induction run with
  | nil => exact pinned
  | next before stepped ih =>
    rcases traffic_keys (step_traffic stepped) with same | ⟨message, outcome, handled⟩
    · rw [same]
      exact ih
    · exact handled_keeps handled ih nonempty

theorem trail_empty {later : List (Runtime × Event)} (run : Trail (Runtime.step env) m later m')
    (empty : m'.peers.keys.get? peer = some "") : m.peers.keys.get? peer = some "" := by
  induction run with
  | nil => exact empty
  | next before stepped ih =>
    rcases traffic_keys (step_traffic stepped) with same | ⟨message, outcome, handled⟩
    · rw [same] at empty
      exact ih empty
    · exact ih (handled_empty handled empty)

/-- In every run, a pinned key stays; no empty key is ever stored; and a session for a peer is derived
from an init that the holder of the peer's pinned key signed, in its name and for this Wisp. -/
theorem provenance (env : Env) (Signed : String → Bytes → Prop)
    (ideal : ∀ key signature bytes, env.rsa.verify key signature bytes = true → Signed key bytes) {start : Runtime}
    (initial : Initial start) {taken : List (Runtime × Event)} (run : Trail (Runtime.step env) start taken m) :
    (∀ peer key later m', m.peers.keys.get? peer = some key → key ≠ "" → Trail (Runtime.step env) m later m' →
      m'.peers.keys.get? peer = some key) ∧
    (∀ peer, m.peers.keys.get? peer = some "" → start.peers.keys.get? peer = some "") ∧
    Attested env Signed m.peers := by
  refine ⟨fun peer key later m' pinned nonempty continued => trail_keeps continued pinned nonempty,
    fun peer empty => trail_empty run empty, ?_⟩
  induction run with
  | nil =>
    intro peer session found
    rw [initial.1] at found
    cases found
  | next before stepped ih => exact step_attested ideal ih (step_traffic stepped)

end Steps

/-! ## A handshake -/

/-- One signer, whose signature of a text is the text. -/
def handshakeEnv : Env := { Replies.sampleEnv with
  rsa := ⟨fun _ => .ok (), fun key signature bytes =>
    decide (key = "phone key" ∧ signature = bytes), fun _ => .ok (), .ok⟩ }

def sampleMaster : Bytes := List.replicate 32 7

def sampleInit : Json :=
  .obj [("type", .str "session_init"), ("session_id", .str "s1"), ("challenge", .str "c1"),
    ("master_secret", .str (b64 sampleMaster))]

theorem sampleInit_read : sessionInit sampleInit = .ok ⟨"s1", "c1", sampleMaster⟩ := by
  have nonempty : b64 sampleMaster ≠ "" := by decide
  have long : sampleMaster.length = 32 := rfl
  simp [sessionInit, sampleInit, Json.get, Json.lookup, Json.asStr?, nonempty, long]

/-- The associated data of what the phone sends to introduce itself. -/
def sampleAad : Bytes := aadOf (.obj (envelopeHeader "phone" "wisp" "m1"))

def sampleCiphertext (aad : Bytes) : Bytes := delimit [1] ++ (delimit [2] ++ (delimit aad ++ utf8 sampleInit.dumps))

theorem sampleCiphertext_opens (aad : Bytes) :
    handshakeEnv.aead.decrypt [1] [2] (sampleCiphertext aad) aad = .ok (utf8 sampleInit.dumps) :=
  (sampleAead_decrypt_iff _ _ _ _ _).mpr rfl

theorem signer_verifies (bytes : Bytes) : handshakeEnv.rsa.verify "phone key" bytes bytes = true :=
  decide_eq_true ⟨rfl, rfl⟩

/-- What the phone sends to introduce itself. -/
def sampleEnvelope : Json :=
  .obj (signedFields "phone" "wisp" "m1" [1] [2] (sampleCiphertext sampleAad) ++
    unsignedFields (some "phone key") (some (toSign "phone" "wisp" "m1" [1] [2] (sampleCiphertext sampleAad))))

theorem sampleEnvelope_decrypts {known : Option String} (pinned : known = none ∨ known = some "phone key") :
    decryptEnvelope handshakeEnv.rsa handshakeEnv.aead sampleEnvelope known = .ok (sampleInit, "phone key") := by
  have nonempty : "phone key" ≠ "" := by decide
  have object : sampleInit.isObj = true := rfl
  have unwraps : handshakeEnv.rsa.unwrap [1] = .ok [1] := rfl
  have loads : handshakeEnv.rsa.load "phone key" = .ok () := rfl
  have opens := sampleCiphertext_opens sampleAad
  have valid := signer_verifies (toSign "phone" "wisp" "m1" [1] [2] (sampleCiphertext sampleAad))
  unfold sampleEnvelope
  generalize handshakeEnv.rsa = rsa at *
  generalize handshakeEnv.aead = aead at *
  unfold sampleAad at opens
  refine decryptEnvelope_sealed nonempty ?_ loads valid unwraps opens object
  rcases pinned with rfl | rfl
  · exact .inr ⟨rfl, rfl⟩
  · exact .inl ⟨rfl, .inr rfl⟩

theorem sampleEnvelope_reads : Handshakes.Reads "phone" "wisp" [1] [2] (sampleCiphertext sampleAad) (some "phone key")
    sampleEnvelope (toSign "phone" "wisp" "m1" [1] [2] (sampleCiphertext sampleAad)) :=
  sealed_reads "phone" "wisp" "m1" [1] [2] (sampleCiphertext sampleAad) (some "phone key") _

/-- The session the envelope introduces. -/
def sampleSession (now : ℕ) : PeerSession :=
  SessionInit.session ⟨"s1", "c1", sampleMaster⟩ handshakeEnv.hkdf "wisp" "phone" now

/-- A Wisp that knows no other key of the phone accepts its envelope. -/
theorem sampleEnvelope_accepted {m : Runtime}
    (pinned : m.peers.keys.get? "phone" = none ∨ m.peers.keys.get? "phone" = some "phone key") :
    m.onFrame handshakeEnv sampleEnvelope = (({ m with peers := { Peers.pin m.peers "phone" "phone key" with
      sessions := m.peers.sessions.insert "phone" (sampleSession m.now) } }).record
        (.accepted "phone" (sampleSession m.now))).goto .draining := by
  have to_self : sampleEnvelope.get "recipient" = .str handshakeEnv.clientId := sampleEnvelope_reads.recipient
  exact onFrame_accepts rfl sampleEnvelope_reads.type sampleEnvelope_reads.sender to_self
    (sampleEnvelope_decrypts pinned) sampleInit_read rfl

/-- The runtime of a Wisp that reads its first frame. -/
def firstFrame : Runtime := { pc := .reading }

theorem provenance_handshake : ∃ m : Runtime, (m.peers.sessions.get? "phone").isSome = true ∧
    Attested handshakeEnv (fun key _ => key = "phone key") m.peers := by
  have connected : Runtime.step handshakeEnv {} .reconnect = some firstFrame := rfl
  have delivered : Runtime.step handshakeEnv firstFrame (.frame sampleEnvelope) =
      some (firstFrame.onFrame handshakeEnv sampleEnvelope) := step_frame _ _ rfl
  refine ⟨_, ?_, (provenance handshakeEnv _ ?_ ⟨rfl, rfl, rfl, rfl, rfl⟩ (.next (.next .nil connected) delivered)).2.2⟩
  · rw [sampleEnvelope_accepted (.inl rfl)]
    exact Option.isSome_iff_exists.mpr ⟨_, Dict.get?_insert_self _ _ _⟩
  · intro key signature bytes valid
    exact (of_decide_eq_true valid).1

end WispGate.Soundness.Provenance
