import WispGate.Model.Python

/-! # Peer sessions

`PeerSession` as both directions of the Python endpoints use it: a counter and a key for what is
sent, a counter and a key for what is received, and a lifetime. The authenticated cipher is a
parameter. Every operation returns the session it leaves, also when it raises.
-/

namespace WispGate.Model

open Data

/-- `AESGCM(key).encrypt` and `.decrypt`, on key, nonce, data and associated data. -/
structure Aead where
  encrypt : Bytes → Bytes → Bytes → Bytes → Except PyError Bytes
  decrypt : Bytes → Bytes → Bytes → Bytes → Except PyError Bytes

/-- Bytes in a form that ends itself. -/
def delimit : Bytes → Bytes
  | [] => [0]
  | b :: rest => 1 :: b :: delimit rest

/-- What follows bytes in their delimited form. -/
def strip : Bytes → Bytes → Option Bytes
  | [], 0 :: rest => some rest
  | b :: more, 1 :: c :: rest => if b = c then strip more rest else none
  | _, _ => none

theorem strip_eq_some_iff (bytes text rest : Bytes) : strip bytes text = some rest ↔ text = delimit bytes ++ rest := by
  induction bytes generalizing text with
  | nil =>
    unfold strip
    split <;> simp_all [delimit, eq_comm]
  | cons b more ih =>
    unfold strip
    split
    · simp_all
    · rename_i b' more' c rest' _
      split_ifs with same
      · simp_all [delimit]
      · have apart : ¬ c = b' := fun equal => same equal.symm
        simp_all [delimit]
    · rename_i other
      constructor
      · intro none
        cases none
      · rintro rfl
        exact absurd rfl (other b more b _ rfl)

/-- A cipher that hides nothing and whose ciphertexts open under what they were sealed with and
nothing else, for concrete runs. -/
def sampleAead : Aead where
  encrypt key nonce data aad := .ok (delimit key ++ (delimit nonce ++ (delimit aad ++ data)))
  decrypt key nonce data aad :=
    match ((strip key data).bind (strip nonce)).bind (strip aad) with
    | some plaintext => .ok plaintext
    | none => .error .crypto

theorem sampleAead_decrypt_iff (key nonce data aad plaintext : Bytes) :
    sampleAead.decrypt key nonce data aad = .ok plaintext ↔
      sampleAead.encrypt key nonce plaintext aad = .ok data := by
  simp only [sampleAead, Except.ok.injEq]
  constructor
  · intro opened
    split at opened
    · rename_i rest stripped
      obtain rfl := Except.ok.inj opened
      obtain ⟨second, stripped, third⟩ := Option.bind_eq_some_iff.mp stripped
      obtain ⟨first, stripped, second'⟩ := Option.bind_eq_some_iff.mp stripped
      rw [strip_eq_some_iff] at stripped second' third
      rw [stripped, second', third]
    · cases opened
  · rintro rfl
    simp [(strip_eq_some_iff _ _ _).mpr]

/-- The parts of a delimited text are determined by it. -/
theorem delimit_append_inj {a b x y : Bytes} (same : delimit a ++ x = delimit b ++ y) : a = b ∧ x = y := by
  induction a generalizing b with
  | nil =>
    cases b with
    | nil => simpa [delimit] using same
    | cons c rest => simp [delimit] at same
  | cons c rest ih =>
    cases b with
    | nil => simp [delimit] at same
    | cons d more =>
      simp only [delimit, List.cons_append, List.cons.injEq, true_and] at same
      obtain ⟨rfl, same⟩ := same
      obtain ⟨rfl, rfl⟩ := ih same
      exact ⟨rfl, rfl⟩

/-- `HKDF(SHA256, 32, salt, info).derive(material)`, on material, salt and info. -/
abbrev Hkdf := Bytes → Bytes → Bytes → Bytes

/-- Thirty-two bytes come out of a key derivation. -/
def Hkdf.Sized (hkdf : Hkdf) : Prop := ∀ material salt info, (hkdf material salt info).length = 32

/-- AES-GCM as its users see it: it takes keys of 32 bytes and nonces of 12, adds a tag of 16 bytes,
and what was sealed opens. -/
structure Aead.Gcm (aead : Aead) : Prop where
  seals : ∀ key nonce data aad, key.length = 32 → nonce.length = 12 →
    ∃ ciphertext, aead.encrypt key nonce data aad = .ok ciphertext ∧ ciphertext.length = data.length + 16
  opens : ∀ {key nonce data aad ciphertext}, aead.encrypt key nonce data aad = .ok ciphertext →
    aead.decrypt key nonce ciphertext aad = .ok data

/-- A cipher that hides nothing, with a tag of the right length. -/
def paddedAead : Aead where
  encrypt _ _ data _ := .ok (data ++ List.replicate 16 0)
  decrypt _ _ data _ := if data.length < 16 then .error .crypto else .ok (data.take (data.length - 16))

theorem paddedAead_gcm : paddedAead.Gcm where
  seals _ _ data _ _ _ := ⟨_, rfl, by simp⟩
  opens := by
    intro _ _ data _ ciphertext sealed
    obtain rfl := Except.ok.inj sealed
    simp [paddedAead]

def constantHkdf : Hkdf := fun _ _ _ => List.replicate 32 0

theorem constantHkdf_sized : constantHkdf.Sized := fun _ _ _ => rfl

def sessionLifetimeSeconds : ℕ := 30 * 60

def sessionNoncePrefix : Bytes := [0x57, 0x47, 0x01, 0x00]

/-- `n.to_bytes(8, "big")`. -/
def bigEndian (n : ℕ) : Bytes :=
  [7, 6, 5, 4, 3, 2, 1, 0].map fun i => UInt8.ofNat (n / 256 ^ i % 256)

/-- `session_nonce`: neither a negative number nor a boolean is a sequence. -/
def sessionNonce (sequence : Json) : Except PyError Bytes :=
  match sequence with
  | .int (.ofNat n) => if n < 2 ^ 64 then .ok (sessionNoncePrefix ++ bigEndian n) else .error .value
  | _ => .error .value

theorem sessionNonce_nat (n : ℕ) : sessionNonce (.int n) =
    if n < 2 ^ 64 then .ok (sessionNoncePrefix ++ bigEndian n) else .error .value := rfl

def sessionAad (sessionId sender recipient : String) (sequence : Json) : Bytes :=
  utf8 (Json.dumps (.obj [("recipient", .str recipient), ("sender", .str sender), ("sequence", sequence),
    ("session_id", .str sessionId), ("type", .str "session_envelope"), ("version", .int 1)]))

/-- The associated data of a file in a transfer. -/
def bulkAad (sessionId sender recipient transferId fileId : String) (size : ℕ) : Bytes :=
  [0].intercalate [utf8 "wispgate-bulk-v2", utf8 sessionId, utf8 sender, utf8 recipient, utf8 transferId,
    utf8 fileId, utf8 (toString size)]

structure PeerSession where
  sessionId : String
  localId : String
  peerId : String
  createdAt : ℕ
  sendSequence : ℕ := 0
  receiveSequence : ℕ := 0
  sendKey : Bytes
  receiveKey : Bytes
deriving DecidableEq

namespace PeerSession

/-- A fresh session of one side. -/
def create (sessionId localId peerId : String) (androidToWispKey wispToAndroidKey : Bytes) (createdAt : ℕ)
    (androidSide : Bool) : PeerSession where
  sessionId := sessionId
  localId := localId
  peerId := peerId
  createdAt := createdAt
  sendKey := if androidSide then androidToWispKey else wispToAndroidKey
  receiveKey := if androidSide then wispToAndroidKey else androidToWispKey

def live (s : PeerSession) (now : ℕ) : Bool := decide (now < s.createdAt + sessionLifetimeSeconds)

/-- The key for the files of a transfer. -/
def bulkKey (s : PeerSession) (hkdf : Hkdf) (transferId : String) (sending : Bool) : Except PyError Bytes :=
  if transferId = "" then .error .value
  else .ok (hkdf (if sending then s.sendKey else s.receiveKey) (utf8 transferId) (utf8 "wispgate-bulk-v2"))

def envelope (s : PeerSession) (ciphertext : Bytes) : Json :=
  .obj [("version", .int 1), ("type", .str "session_envelope"), ("session_id", .str s.sessionId),
    ("sender", .str s.localId), ("recipient", .str s.peerId), ("sequence", .int s.sendSequence),
    ("ciphertext", .str (b64 ciphertext))]

/-- The associated data of the next frame. -/
def sendAad (s : PeerSession) : Bytes := sessionAad s.sessionId s.localId s.peerId (.int s.sendSequence)

/-- A body sealed for the next frame, with the nonce it is sealed under. -/
def sealed (s : PeerSession) (aead : Aead) (body : Json) : Except PyError (Bytes × Bytes) :=
  match sessionNonce (.int s.sendSequence) with
  | .error e => .error e
  | .ok nonce =>
    match aead.encrypt s.sendKey nonce (utf8 body.dumps) s.sendAad with
    | .error e => .error e
    | .ok ciphertext => .ok (nonce, ciphertext)

def encrypt (s : PeerSession) (aead : Aead) (body : Json) (now : ℕ) : PeerSession × Except PyError Json :=
  if ¬ s.live now then (s, .error .value)
  else match s.sealed aead body with
    | .error e => (s, .error e)
    | .ok (_, ciphertext) => ({ s with sendSequence := s.sendSequence + 1 }, .ok (s.envelope ciphertext))

/-- The members of a frame that name its session and its direction. -/
def routed (s : PeerSession) (frame : Json) : Bool :=
  (frame.get "version").pyEq (.int 1) && (frame.get "type").pyEq (.str "session_envelope") &&
    (frame.get "session_id").pyEq (.str s.sessionId) && (frame.get "sender").pyEq (.str s.peerId) &&
    (frame.get "recipient").pyEq (.str s.localId)

/-- `_unb64(envelope["ciphertext"])`. -/
def ciphertextOf (frame : Json) : Except PyError Bytes :=
  match member frame "ciphertext" with
  | .error e => .error e
  | .ok value =>
    match value.asStr? with
    | none => .error .type
    | some text => unb64 text

/-- The body of a frame under the nonce and associated data of a sequence. -/
def opened (s : PeerSession) (aead : Aead) (frame sequence : Json) : Except PyError Json :=
  match sessionNonce sequence with
  | .error e => .error e
  | .ok nonce =>
    match ciphertextOf frame with
    | .error e => .error e
    | .ok ciphertext =>
      match aead.decrypt s.receiveKey nonce ciphertext (sessionAad s.sessionId s.peerId s.localId sequence) with
      | .error e => .error e
      | .ok plaintext =>
        match loadsBytes plaintext with
        | .error e => .error e
        | .ok body => if body.isObj then .ok body else .error .value

def decrypt (s : PeerSession) (aead : Aead) (frame : Json) (now : ℕ) : PeerSession × Except PyError Json :=
  if ¬ s.live now then (s, .error .value)
  else if ¬ frame.isObj then (s, .error .attribute)
  else if ¬ s.routed frame then (s, .error .value)
  else if ¬ (frame.get "sequence").pyEq (.int s.receiveSequence) then (s, .error .value)
  else match s.opened aead frame (frame.get "sequence") with
    | .error e => (s, .error e)
    | .ok body => ({ s with receiveSequence := s.receiveSequence + 1 }, .ok body)

@[simp] theorem ciphertextOf_envelope (s : PeerSession) (ciphertext : Bytes) :
    ciphertextOf (s.envelope ciphertext) = .ok ciphertext := by
  simp only [ciphertextOf, member, show (s.envelope ciphertext).has "ciphertext" = true from rfl,
    show (s.envelope ciphertext).get "ciphertext" = .str (b64 ciphertext) from rfl, if_true, Json.asStr?, unb64_b64]

end PeerSession

/-! ## Nonces -/

theorem bigEndian_injective {m n : ℕ} (smallM : m < 2 ^ 64) (smallN : n < 2 ^ 64)
    (same : bigEndian m = bigEndian n) : m = n := by
  simp only [bigEndian, List.map_cons, List.map_nil, List.cons.injEq, and_true] at same
  have digit : ∀ {a b : ℕ}, UInt8.ofNat (a % 256) = UInt8.ofNat (b % 256) → a % 256 = b % 256 := by
    intro a b equal
    have values := congrArg UInt8.toNat equal
    simpa using values
  have lower : ∀ k, m / 256 ^ (k + 1) = n / 256 ^ (k + 1) → m / 256 ^ k % 256 = n / 256 ^ k % 256 →
      m / 256 ^ k = n / 256 ^ k := by
    intro k high low
    rw [Nat.pow_succ, ← Nat.div_div_eq_div_mul, ← Nat.div_div_eq_div_mul] at high
    omega
  have range : 2 ^ 64 = 256 ^ 8 := by norm_num
  have top : m / 256 ^ 8 = n / 256 ^ 8 := by
    rw [Nat.div_eq_of_lt (range ▸ smallM), Nat.div_eq_of_lt (range ▸ smallN)]
  obtain ⟨h7, h6, h5, h4, h3, h2, h1, h0⟩ := same
  have all := lower 0 (lower 1 (lower 2 (lower 3 (lower 4 (lower 5 (lower 6 (lower 7 top (digit h7)) (digit h6))
    (digit h5)) (digit h4)) (digit h3)) (digit h2)) (digit h1)) (digit h0)
  rwa [Nat.pow_zero, Nat.div_one, Nat.div_one] at all

/-- A nonce determines its sequence. -/
theorem sessionNonce_injective {m n : ℕ} {nonce : Bytes} (first : sessionNonce (.int m) = .ok nonce)
    (second : sessionNonce (.int n) = .ok nonce) : m = n := by
  rw [sessionNonce_nat] at first second
  split_ifs at first second with small small'
  have same := Except.ok.inj (first.trans second.symm)
  exact bigEndian_injective small small' (List.append_cancel_left same)

end WispGate.Model
