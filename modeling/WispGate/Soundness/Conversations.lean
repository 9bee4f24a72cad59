import WispGate.Data.Lane
import WispGate.Soundness.AssetSizes
import WispGate.Soundness.Establishment
import WispGate.Soundness.SessionOrder

/-! # A conversation over one session

Android and a Wisp hold the two ends of a session, and the relay's connections carry the frames of
each direction in order. Both send as they like, and neither waits for the other. As long as the
session lives and both libraries read what is written, no operation fails and nothing is lost.
-/

namespace WispGate.Soundness.Conversations

open Data Model Model.Wisp Model.Android Interoperation Establishment

/-! ## The machine -/

/-- The two ends with what each has sent and got, and the frames on the way. -/
structure Conversation where
  android : PeerSession
  wisp : PeerSession
  toWisp : List Json := []
  toAndroid : List Json := []
  androidSent : List Json := []
  wispSent : List Json := []
  androidGot : List Json := []
  wispGot : List Json := []
  failures : ℕ := 0

/-- Who acts next. A frame is received as the library of the receiver has read it. -/
inductive Event where
  | androidSends (body : Json) (now : ℕ)
  | wispSends (body : Json) (now : ℕ)
  | androidReceives (frame : Json) (now : ℕ)
  | wispReceives (frame : Json) (now : ℕ)

namespace Conversation

variable (phone : Handset) (aead : Aead)

def step (c : Conversation) : Event → Option Conversation
  | .androidSends body now =>
    match phone.sessionEncrypt aead c.android body now with
    | (android, none) => some { c with android, failures := c.failures + 1 }
    | (android, some frame) =>
      some { c with android, toWisp := c.toWisp ++ [frame], androidSent := c.androidSent ++ [body] }
  | .wispSends body now =>
    match c.wisp.encrypt aead body now with
    | (wisp, .error _) => some { c with wisp, failures := c.failures + 1 }
    | (wisp, .ok frame) => some { c with wisp, toAndroid := c.toAndroid ++ [frame], wispSent := c.wispSent ++ [body] }
  | .androidReceives frame now =>
    match c.toAndroid with
    | [] => none
    | _ :: toAndroid =>
      match phone.sessionDecrypt aead c.android frame now with
      | (android, none) => some { c with android, toAndroid, failures := c.failures + 1 }
      | (android, some body) => some { c with android, toAndroid, androidGot := c.androidGot ++ [body] }
  | .wispReceives frame now =>
    match c.toWisp with
    | [] => none
    | _ :: toWisp =>
      match c.wisp.decrypt aead frame now with
      | (wisp, .error _) => some { c with wisp, toWisp, failures := c.failures + 1 }
      | (wisp, .ok body) => some { c with wisp, toWisp, wispGot := c.wispGot ++ [body] }

/-- The Wisp reads this of what Android writes. -/
def WispReads (body read : Json) : Prop := loadsBytes (phone.write body) = .ok read ∧ read.isObj = true

/-- Android reads this of what the Wisp writes. -/
def AndroidReads (body read : Json) : Prop := phone.parse (utf8 body.dumps) = some read

/-- Bodies are readable, frames arrive as the first of their queue, and the session has not expired. -/
def Fair (c : Conversation) : Event → Prop
  | .androidSends body now =>
    c.android.live now = true ∧ c.android.sendSequence < 2 ^ 63 ∧ ∃ read, WispReads phone body read
  | .wispSends body now =>
    c.wisp.live now = true ∧ c.wisp.sendSequence < 2 ^ 63 ∧ ∃ read, AndroidReads phone body read
  | .androidReceives frame now => c.android.live now = true ∧ ∀ first ∈ c.toAndroid.head?, SameMembers first frame
  | .wispReceives frame now => c.wisp.live now = true ∧ ∀ first ∈ c.toWisp.head?, SameMembers first frame

end Conversation

/-! ## Directions -/

/-- What the frames of one direction are sealed with. -/
structure Direction where
  key : Bytes
  sessionId : String
  sender : String
  recipient : String

def outgoing (s : PeerSession) : Direction := ⟨s.sendKey, s.sessionId, s.localId, s.peerId⟩

def incoming (s : PeerSession) : Direction := ⟨s.receiveKey, s.sessionId, s.peerId, s.localId⟩

def Direction.frame (d : Direction) (n : ℕ) (ciphertext : Bytes) : Json :=
  .obj [("version", .int 1), ("type", .str "session_envelope"), ("session_id", .str d.sessionId),
    ("sender", .str d.sender), ("recipient", .str d.recipient), ("sequence", .int n),
    ("ciphertext", .str (b64 ciphertext))]

/-- A frame holds a plaintext under a sequence. -/
def Direction.Holds (d : Direction) (aead : Aead) (n : ℕ) (frame : Json) (plaintext : Bytes) : Prop :=
  n < 2 ^ 63 ∧ ∃ ciphertext, aead.encrypt d.key (sessionNoncePrefix ++ bigEndian n) plaintext
    (sessionAad d.sessionId d.sender d.recipient (.int n)) = .ok ciphertext ∧ frame = d.frame n ciphertext

section Frames

variable {phone : Handset} {library : JsonLibrary} {aead : Aead} {s : PeerSession} {body frame arrived : Json}
  {plaintext : Bytes} {now : ℕ}

/-- Identifiers that both ends quote alike. -/
def Plain (library : JsonLibrary) (s : PeerSession) : Prop :=
  Alike library s.sessionId ∧ Alike library s.localId ∧ Alike library s.peerId

variable (body) in
/-- Android's `encrypt` counts and seals under its next sequence. -/
theorem android_seals (quotes : phone.quote = JSONObject.quote library) (plain : Plain library s) (gcm : aead.Gcm)
    (key : s.sendKey.length = 32) (live : s.live now = true) (small : s.sendSequence < 2 ^ 63) :
    ∃ frame, phone.sessionEncrypt aead s body now = ({ s with sendSequence := s.sendSequence + 1 }, some frame) ∧
      (outgoing s).Holds aead s.sendSequence frame (phone.write body) := by
  obtain ⟨sessions, senders, recipients⟩ := plain
  have aads := (sessionAad_iff library s.sendSequence ⟨recipients.1, senders.1, sessions.1⟩).mpr
    ⟨recipients.2, senders.2, sessions.2⟩
  have nonce := (nonces_agree small).1
  obtain ⟨ciphertext, sealed, -⟩ := gcm.seals s.sendKey (sessionNoncePrefix ++ bigEndian s.sendSequence)
    (phone.write body) (sessionAad s.sessionId s.localId s.peerId (.int s.sendSequence)) key (by simp [sessionNoncePrefix,
      bigEndian])
  refine ⟨_, ?_, small, ciphertext, sealed, rfl⟩
  unfold Handset.sessionEncrypt
  dsimp only
  rw [if_neg (not_not.mpr live), AssetSizes.wrapLong_of_range (by omega) (by omega), nonce, quotes, aads]
  dsimp only
  rw [sealed]
  rfl

variable (body) in
/-- The Wisp's `encrypt` does so, too. -/
theorem wisp_seals (gcm : aead.Gcm) (key : s.sendKey.length = 32) (live : s.live now = true)
    (small : s.sendSequence < 2 ^ 63) :
    ∃ frame, s.encrypt aead body now = ({ s with sendSequence := s.sendSequence + 1 }, .ok frame) ∧
      (outgoing s).Holds aead s.sendSequence frame (utf8 body.dumps) := by
  have nonce := (nonces_agree small).2
  obtain ⟨ciphertext, sealed, -⟩ := gcm.seals s.sendKey (sessionNoncePrefix ++ bigEndian s.sendSequence)
    (utf8 body.dumps) s.sendAad key (by simp [sessionNoncePrefix, bigEndian])
  have success : s.sealed aead body = .ok (sessionNoncePrefix ++ bigEndian s.sendSequence, ciphertext) := by
    unfold PeerSession.sealed
    rw [nonce]
    dsimp only
    rw [sealed]
  exact ⟨_, SessionOrder.encrypt_ok now live success, small, ciphertext, sealed, rfl⟩

theorem sameMembers_decrypt (same : SameMembers frame arrived) :
    s.decrypt aead frame now = s.decrypt aead arrived now := by
  have routed : s.routed frame = s.routed arrived := by
    unfold PeerSession.routed
    simp only [same.get]
  have opened : ∀ sequence, s.opened aead frame sequence = s.opened aead arrived sequence := fun sequence => by
    unfold PeerSession.opened PeerSession.ciphertextOf
    rw [same.member]
  unfold PeerSession.decrypt
  rw [same.objects.1, same.objects.2, routed, same.get, opened]

theorem sameMembers_sessionDecrypt (same : SameMembers frame arrived) :
    phone.sessionDecrypt aead s frame now = phone.sessionDecrypt aead s arrived now := by
  have texts : ∀ name, phone.getString frame name = phone.getString arrived name := fun name => by
    unfold Platform.getString
    rw [same.has, same.get]
  have optional : ∀ name, phone.optString frame name "" = phone.optString arrived name "" := fun name => by
    unfold Platform.optString
    rw [texts]
  have version : phone.getInt frame "version" = phone.getInt arrived "version" := by
    unfold Phone.getInt
    rw [same.has, same.get]
  have sequence : phone.getLong frame "sequence" = phone.getLong arrived "sequence" := by
    unfold Platform.getLong
    rw [same.has, same.get]
  have routed : phone.routed s frame = phone.routed s arrived := by
    unfold Handset.routed
    simp only [version, optional]
  have opened : ∀ n, phone.opened aead s frame n = phone.opened aead s arrived n := fun n => by
    unfold Handset.opened
    rw [texts]
  unfold Handset.sessionDecrypt
  rw [routed, sequence]
  simp only [opened]

/-- The Wisp's `decrypt` returns what a frame of its next sequence holds. -/
theorem wisp_opens (gcm : aead.Gcm) (holds : (incoming s).Holds aead s.receiveSequence frame plaintext)
    (same : SameMembers frame arrived) (live : s.live now = true) (read : loadsBytes plaintext = .ok body)
    (object : body.isObj = true) :
    s.decrypt aead arrived now = ({ s with receiveSequence := s.receiveSequence + 1 }, .ok body) := by
  obtain ⟨small, ciphertext, sealed, rfl⟩ := holds
  rw [← sameMembers_decrypt same]
  have nonce := (nonces_agree small).2
  have opens : aead.decrypt s.receiveKey (sessionNoncePrefix ++ bigEndian s.receiveSequence) ciphertext
      (sessionAad s.sessionId s.peerId s.localId (.int s.receiveSequence)) = .ok plaintext := gcm.opens sealed
  have line : ((incoming s).frame s.receiveSequence ciphertext).isObj = true := rfl
  have routed : s.routed ((incoming s).frame s.receiveSequence ciphertext) = true := by
    simp [PeerSession.routed, Direction.frame, incoming, Json.get, Json.lookup, Json.pyEq, Json.number?]
  have found : PeerSession.ciphertextOf ((incoming s).frame s.receiveSequence ciphertext) = .ok ciphertext := by
    simp [PeerSession.ciphertextOf, Direction.frame, member, Json.has, Json.get, Json.lookup, Json.asStr?]
  have sequence : ((incoming s).frame s.receiveSequence ciphertext).get "sequence" = .int s.receiveSequence := rfl
  generalize (incoming s).frame s.receiveSequence ciphertext = frame at line routed found sequence ⊢
  have opened : s.opened aead frame (.int s.receiveSequence) = .ok body := by
    unfold PeerSession.opened
    rw [nonce, found]
    dsimp only
    rw [opens]
    dsimp only
    rw [read]
    exact if_pos object
  unfold PeerSession.decrypt
  rw [sequence, opened, if_neg (not_not.mpr live), if_neg (not_not.mpr line), if_neg (not_not.mpr routed),
    if_neg (by simp [Json.pyEq, Json.number?])]

/-- Android's `decrypt` does so, too. -/
theorem android_opens (quotes : phone.quote = JSONObject.quote library) (plain : Plain library s)
    (decodes : ∀ bytes, phone.decodeUrl (b64 bytes) = some bytes) (gcm : aead.Gcm)
    (holds : (incoming s).Holds aead s.receiveSequence frame plaintext) (same : SameMembers frame arrived)
    (live : s.live now = true) (parsed : phone.parse plaintext = some body) :
    phone.sessionDecrypt aead s arrived now = ({ s with receiveSequence := s.receiveSequence + 1 }, some body) := by
  obtain ⟨small, ciphertext, sealed, rfl⟩ := holds
  rw [← sameMembers_sessionDecrypt same]
  obtain ⟨sessions, recipients, senders⟩ := plain
  have aads := (sessionAad_iff library s.receiveSequence ⟨recipients.1, senders.1, sessions.1⟩).mpr
    ⟨recipients.2, senders.2, sessions.2⟩
  have nonce := (nonces_agree small).1
  have wrapped : wrapLong s.receiveSequence = s.receiveSequence :=
    AssetSizes.wrapLong_of_range (by omega) (by omega)
  have opens : aead.decrypt s.receiveKey (sessionNoncePrefix ++ bigEndian s.receiveSequence) ciphertext
      (sessionAad s.sessionId s.peerId s.localId (.int s.receiveSequence)) = .ok plaintext := gcm.opens sealed
  have routed : phone.routed s ((incoming s).frame s.receiveSequence ciphertext) = true := by
    simp [Handset.routed, Direction.frame, incoming, Phone.getInt, Platform.optString, Platform.getString, Json.has,
      Json.get, Json.lookup]
  have sequence : phone.getLong ((incoming s).frame s.receiveSequence ciphertext) "sequence" =
      some (s.receiveSequence : ℤ) := by
    simp [Platform.getLong, Direction.frame, Json.has, Json.get, Json.lookup, wrapped]
  have found : phone.getString ((incoming s).frame s.receiveSequence ciphertext) "ciphertext" =
      some (b64 ciphertext) := by
    simp [Platform.getString, Direction.frame, Json.has, Json.get, Json.lookup]
  generalize (incoming s).frame s.receiveSequence ciphertext = frame at routed sequence found ⊢
  have opened : phone.opened aead s frame s.receiveSequence = some plaintext := by
    unfold Handset.opened
    rw [nonce, found, quotes, aads]
    simp only [Option.bind_eq_bind, Option.bind_some]
    rw [decodes]
    simp only [Option.bind_some]
    rw [opens]
    rfl
  unfold Handset.sessionDecrypt
  rw [sequence, if_neg (not_not.mpr live), if_neg (not_not.mpr routed)]
  simp only [Option.getD_some]
  rw [wrapped, if_neg (not_not.mpr rfl), opened]
  dsimp only
  rw [parsed]

end Frames

/-! ## Runs -/

/-- The two ends of a session that no frame has used. -/
def Conversation.Begun (library : JsonLibrary) (c : Conversation) : Prop :=
  ∃ android wisp hkdf hkdf', Agreement.Mirrored hkdf hkdf' android wisp ∧ Plain library android ∧
    (android.sendKey.length = 32 ∧ android.receiveKey.length = 32) ∧
    (android.sendSequence = 0 ∧ android.receiveSequence = 0) ∧ (wisp.sendSequence = 0 ∧ wisp.receiveSequence = 0) ∧
    c = { android := android, wisp := wisp }

/-- Neither end has failed, they expect each other's frames, and nothing is missing in either direction. -/
structure InStep (phone : Handset) (library : JsonLibrary) (aead : Aead) (c : Conversation) : Prop where
  plain : Plain library c.android
  keys : c.android.sendKey.length = 32 ∧ c.wisp.sendKey.length = 32
  onward : outgoing c.android = incoming c.wisp
  back : outgoing c.wisp = incoming c.android
  toWisp : Lane (fun n frame body => (incoming c.wisp).Holds aead n frame (phone.write body) ∧
      ∃ read, Conversation.WispReads phone body read) (Conversation.WispReads phone) c.wisp.receiveSequence
    c.android.sendSequence c.toWisp c.androidSent c.wispGot
  toAndroid : Lane (fun n frame body => (incoming c.android).Holds aead n frame (utf8 body.dumps) ∧
      ∃ read, Conversation.AndroidReads phone body read) (Conversation.AndroidReads phone) c.android.receiveSequence
    c.wisp.sendSequence c.toAndroid c.wispSent c.androidGot
  succeeded : c.failures = 0

section Runs

variable {phone : Handset} {library : JsonLibrary} {aead : Aead} {c c' : Conversation}

theorem InStep.start (begun : c.Begun library) : InStep phone library aead c := by
  obtain ⟨android, wisp, hkdf, hkdf', mirrored, plain, keys, own, other, rfl⟩ := begun
  refine ⟨plain, ⟨keys.1, mirrored.receiveKey ▸ keys.2⟩, ?_, ?_, ?_, ?_, rfl⟩
  · unfold outgoing incoming
    rw [mirrored.sendKey, mirrored.sessionId, mirrored.localId, mirrored.peerId]
  · unfold outgoing incoming
    rw [mirrored.receiveKey, mirrored.sessionId, mirrored.localId, mirrored.peerId]
  · dsimp only
    rw [own.1, other.2]
    exact Lane.start 0
  · dsimp only
    rw [own.2, other.1]
    exact Lane.start 0

theorem InStep.step (quotes : phone.quote = JSONObject.quote library)
    (decodes : ∀ bytes, phone.decodeUrl (b64 bytes) = some bytes) (gcm : aead.Gcm) (settled : InStep phone library aead c)
    {e : Event} (fair : c.Fair phone e) (stepped : c.step phone aead e = some c') : InStep phone library aead c' := by
  obtain ⟨plain, keys, onward, back, toWisp, toAndroid, succeeded⟩ := settled
  cases e with
  | androidSends body now =>
    obtain ⟨live, small, reads⟩ := fair
    obtain ⟨frame, sent, holds⟩ := android_seals body quotes plain gcm keys.1 live small
    rw [onward] at holds
    simp only [Conversation.step, sent, Option.some.injEq] at stepped
    subst stepped
    exact ⟨plain, keys, onward, back, toWisp.push ⟨holds, reads⟩, toAndroid, succeeded⟩
  | wispSends body now =>
    obtain ⟨live, small, reads⟩ := fair
    obtain ⟨frame, sent, holds⟩ := wisp_seals body gcm keys.2 live small
    rw [back] at holds
    simp only [Conversation.step, sent, Option.some.injEq] at stepped
    subst stepped
    exact ⟨plain, keys, onward, back, toWisp, toAndroid.push ⟨holds, reads⟩, succeeded⟩
  | androidReceives arrived now =>
    obtain ⟨live, same⟩ := fair
    simp only [Conversation.step] at stepped
    cases queue : c.toAndroid with
    | nil => simp [queue] at stepped
    | cons frame rest =>
      rw [queue] at toAndroid same
      obtain ⟨body, ⟨holds, read, reads⟩, popped⟩ := toAndroid.pop
      have opened := android_opens quotes plain decodes gcm holds (same frame rfl) live reads
      simp only [queue, opened, Option.some.injEq] at stepped
      subst stepped
      exact ⟨plain, keys, onward, back, toWisp, popped read reads, succeeded⟩
  | wispReceives arrived now =>
    obtain ⟨live, same⟩ := fair
    simp only [Conversation.step] at stepped
    cases queue : c.toWisp with
    | nil => simp [queue] at stepped
    | cons frame rest =>
      rw [queue] at toWisp same
      obtain ⟨body, ⟨holds, read, reads⟩, popped⟩ := toWisp.pop
      have opened := wisp_opens gcm holds (same frame rfl) live reads.1 reads.2
      simp only [queue, opened, Option.some.injEq] at stepped
      subst stepped
      exact ⟨plain, keys, onward, back, popped read reads, toAndroid, succeeded⟩

/-- In every run of the two ends of a session, however their operations interleave: no operation has
failed, and in each direction what was got is, body by body, what the other library reads of the beginning
of what was sent, with the rest on the way. -/
theorem conversation_complete (quotes : phone.quote = JSONObject.quote library)
    (decodes : ∀ bytes, phone.decodeUrl (b64 bytes) = some bytes) (gcm : aead.Gcm)
    (reach : Reach (Conversation.step phone aead) (Conversation.Fair phone) (Conversation.Begun library) c) :
    c.failures = 0 ∧
      (List.Forall₂ (Conversation.WispReads phone) (c.androidSent.take c.wispGot.length) c.wispGot ∧
        c.androidSent.length = c.wispGot.length + c.toWisp.length) ∧
      List.Forall₂ (Conversation.AndroidReads phone) (c.wispSent.take c.androidGot.length) c.androidGot ∧
        c.wispSent.length = c.androidGot.length + c.toAndroid.length := by
  have settled : InStep phone library aead c := by
    induction reach with
    | start begun => exact .start begun
    | next _ fair stepped ih => exact ih.step quotes decodes gcm fair stepped
  exact ⟨settled.succeeded, settled.toWisp.arrives, settled.toAndroid.arrives⟩

end Runs

/-! ## One exchange -/

def sampleKey : Bytes := List.replicate 32 0

def sampleConversation : Conversation where
  android := .create "session" "phone" "wisp" sampleKey sampleKey 0 true
  wisp := .create "session" "wisp" "phone" sampleKey sampleKey 0 false

theorem sampleConversation_begun : sampleConversation.Begun .android := by
  refine ⟨sampleConversation.android, sampleConversation.wisp, constantHkdf, constantHkdf,
    ⟨rfl, rfl, rfl, rfl, rfl, ?_⟩, ⟨⟨by decide, by decide⟩, ⟨by decide, by decide⟩, by decide, by decide⟩,
    ⟨by decide, by decide⟩, ⟨rfl, rfl⟩, ⟨rfl, rfl⟩, rfl⟩
  intro transferId sending
  cases sending
  · rfl
  · rfl

theorem establishedPhone_decodes (bytes : Bytes) : establishedPhone.decodeUrl (b64 bytes) = some bytes := by
  unfold establishedPhone
  dsimp only
  rw [unb64_b64]
  rfl

theorem establishedPhone_reads {body : Json} (object : body.isObj = true) :
    Conversation.WispReads establishedPhone body body ∧ Conversation.AndroidReads establishedPhone body body := by
  refine ⟨⟨loadsBytes_dumps body, object⟩, ?_⟩
  unfold Conversation.AndroidReads establishedPhone samplePhone
  dsimp only
  rw [loadsBytes_dumps]
  rfl

theorem conversation_complete_arrives :
    ∃ c : Conversation, c.wispGot = [SessionOrder.sampleBody] ∧ c.failures = 0 := by
  let body := SessionOrder.sampleBody
  have begun := sampleConversation_begun
  have settled : InStep establishedPhone .android paddedAead sampleConversation := .start begun
  have reads := (establishedPhone_reads (show body.isObj = true from rfl)).1
  have live : sampleConversation.android.live 1 = true ∧ sampleConversation.wisp.live 1 = true := by decide
  obtain ⟨frame, sent, holds⟩ :=
    @android_seals establishedPhone .android paddedAead sampleConversation.android body 1 rfl
    settled.plain paddedAead_gcm settled.keys.1 live.1 (Nat.two_pow_pos 63)
  rw [settled.onward] at holds
  have line : frame.isObj = true := by
    obtain ⟨-, ciphertext, -, rfl⟩ := holds
    rfl
  have opened := wisp_opens paddedAead_gcm holds (.refl line) live.2 reads.1 reads.2
  have first : Conversation.step establishedPhone paddedAead sampleConversation (.androidSends body 1) = some
      { sampleConversation with
        android := { sampleConversation.android with sendSequence := 1 }
        toWisp := [frame], androidSent := [body] } := by
    simp only [Conversation.step, sent]
    rfl
  have second : Conversation.step establishedPhone paddedAead
      { sampleConversation with
        android := { sampleConversation.android with sendSequence := 1 }
        toWisp := [frame], androidSent := [body] } (.wispReceives frame 1) = some
      { sampleConversation with
        android := { sampleConversation.android with sendSequence := 1 }
        wisp := { sampleConversation.wisp with receiveSequence := 1 }
        androidSent := [body], wispGot := [body] } := by
    simp only [Conversation.step, opened]
    rfl
  have allowed : sampleConversation.Fair establishedPhone (.androidSends body 1) :=
    ⟨live.1, Nat.two_pow_pos 63, body, reads⟩
  have arrives : Conversation.Fair establishedPhone
      { sampleConversation with
        android := { sampleConversation.android with sendSequence := 1 }
        toWisp := [frame], androidSent := [body] } (.wispReceives frame 1) := by
    refine ⟨live.2, fun other head => ?_⟩
    cases head
    exact .refl line
  exact ⟨_, rfl, (conversation_complete rfl establishedPhone_decodes paddedAead_gcm
    (.next (.next (.start begun) allowed first) arrives second)).1⟩

end WispGate.Soundness.Conversations
