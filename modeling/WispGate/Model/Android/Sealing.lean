import WispGate.Model.Android.Encoding
import WispGate.Model.Android.Quoting

/-! # Sealing on Android

`E2EEnvelope.encrypt`, `SessionHandshake.begin`, and what Android's own `PeerSession` does with its
counters. The text of a `JSONObject`, the URL-safe decoder, fresh random values and the RSA operations
come from outside. An exception is `none`, beside the session it leaves. Times are whole seconds.
-/

namespace WispGate.Model.Android

open Data

/-- An endpoint that also writes: the text of an object, and `Base64.getUrlDecoder`. -/
structure Handset extends Phone where
  write : Json → Bytes
  decodeUrl : String → Option Bytes

namespace Handset

variable (phone : Handset) (aead : Aead)

/-- `E2EEnvelope.encrypt`, for a fresh content key and nonce: the content key encrypted for the
recipient is given, and so is the signature of the sender. -/
def encrypt (sign : Bytes → Bytes) (sender recipient messageId : String) (body : Json)
    (contentKey nonce wrappedKey : Bytes) (advertised : Option String) : Option Json := do
  let encryptedKey ← E2EEnvelope.encode64 wrappedKey
  let encodedNonce ← E2EEnvelope.encode64 nonce
  let keyed := Wisp.envelopeHeader sender recipient messageId ++
    [("encrypted_key", .str encryptedKey), ("nonce", .str encodedNonce)]
  let aad ← phone.aad (.obj keyed)
  let ciphertext ← (aead.encrypt contentKey nonce (phone.write body) aad).toOption
  let encodedCiphertext ← E2EEnvelope.encode64 ciphertext
  let unsigned := keyed ++ [("ciphertext", .str encodedCiphertext)] ++
    (advertised.map fun key => ("sender_public_key", Json.str key)).toList
  let signed ← phone.signedBytes (.obj unsigned)
  let signature ← E2EEnvelope.encode64 (sign signed)
  return .obj (unsigned ++ [("signature", .str signature)])

/-! ## Sessions -/

/-- `PeerSession.encrypt`. -/
def sessionEncrypt (s : PeerSession) (body : Json) (now : ℕ) : PeerSession × Option Json :=
  if ¬ s.live now then (s, none)
  else
    let sequence := wrapLong s.sendSequence
    match SessionCrypto.nonce sequence with
    | none => (s, none)
    | some nonce =>
      match aead.encrypt s.sendKey nonce (phone.write body)
          (SessionCrypto.aad phone.quote s.sessionId s.localId s.peerId sequence) with
      | .error _ => (s, none)
      | .ok ciphertext =>
        ({ s with sendSequence := s.sendSequence + 1 },
          some (.obj [("version", .int 1), ("type", .str "session_envelope"), ("session_id", .str s.sessionId),
            ("sender", .str s.localId), ("recipient", .str s.peerId), ("sequence", .int sequence),
            ("ciphertext", .str (b64 ciphertext))]))

/-- The members of a frame that name its session and its direction. -/
def routed (s : PeerSession) (frame : Json) : Bool :=
  (phone.getInt frame "version").getD 0 == 1 && phone.optString frame "type" "" == "session_envelope" &&
    phone.optString frame "session_id" "" == s.sessionId && phone.optString frame "sender" "" == s.peerId &&
    phone.optString frame "recipient" "" == s.localId

/-- The plaintext of a frame under the nonce and associated data of a sequence. -/
def opened (s : PeerSession) (frame : Json) (sequence : ℤ) : Option Bytes := do
  let nonce ← SessionCrypto.nonce sequence
  let ciphertext ← (phone.getString frame "ciphertext").bind phone.decodeUrl
  (aead.decrypt s.receiveKey nonce ciphertext
    (SessionCrypto.aad phone.quote s.sessionId s.peerId s.localId sequence)).toOption

/-- `PeerSession.decrypt`. The sequence is taken before the plaintext is parsed. -/
def sessionDecrypt (s : PeerSession) (frame : Json) (now : ℕ) : PeerSession × Option Json :=
  if ¬ s.live now then (s, none)
  else if ¬ phone.routed s frame then (s, none)
  else
    let sequence := (phone.getLong frame "sequence").getD (-1)
    if sequence ≠ wrapLong s.receiveSequence then (s, none)
    else match phone.opened aead s frame sequence with
      | none => (s, none)
      | some plaintext => ({ s with receiveSequence := s.receiveSequence + 1 }, phone.parse plaintext)

end Handset

namespace SessionHandshake

/-- The body of a `session_init`. -/
def initBody (master : Bytes) (sessionId challenge : String) : Json :=
  .obj [("type", .str "session_init"), ("session_id", .str sessionId), ("master_secret", .str (b64 master)),
    ("challenge", .str challenge)]

/-- `SessionHandshake.begin`, for drawn values: the pending handshake and its envelope. -/
def begin (phone : Handset) (aead : Aead) (sign : Bytes → Bytes) (localId owner peerPublicKey ownKey : String)
    (now : ℕ) (master : Bytes) (sessionId challenge messageId : String) (contentKey nonce wrappedKey : Bytes) :
    Option (Pending × Json) :=
  if master.length ≠ 32 then none
  else
    (phone.encrypt aead sign localId owner messageId (initBody master sessionId challenge) contentKey nonce wrappedKey
      (some ownKey)).map (⟨localId, owner, peerPublicKey, master, sessionId, challenge, now⟩, ·)

end SessionHandshake

end WispGate.Model.Android
