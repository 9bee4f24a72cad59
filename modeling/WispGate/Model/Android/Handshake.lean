import WispGate.Model.Android.InboundAssets
import WispGate.Model.Wisp.Handshake

/-! # Handshakes on Android

`E2EEnvelope.decrypt`, the key schedule of `SessionCrypto`, and `SessionHandshake.finish` on the
handshake that is pending. What `org.json` reads and writes, and the RSA operations of the platform
come from outside; AES-GCM and HMAC-SHA256 are those of the other endpoint. Times are whole
seconds. The envelope of a pending handshake, which `finish` does not read, is left out.
-/

namespace WispGate.Model.Android

open Data

/-- An endpoint on Android: its JSON, the verification of a signature under a key, and the decryption
with its own key. -/
structure Phone extends Platform where
  int : Json → Option ℤ
  quote : String → String
  parse : Bytes → Option Json
  verify : String → Bytes → Bytes → Bool
  unwrap : Bytes → Option Bytes

/-! ## Texts -/

/-- `toByteArray(Charsets.US_ASCII)`. -/
def usAscii (text : String) : Bytes := text.toList.map fun c => if c.toNat < 128 then UInt8.ofNat c.toNat else 63

/-- `alphabet.indexOf`. -/
def alphabetIndex (c : Char) : Option ℕ := if c = '+' ∨ c = '/' then none else Base64.value? c

/-- The loop of `decode64`, on its buffer and the number of bits in it. -/
def decodeBits : ℕ → ℕ → List Char → Option Bytes
  | _, _, [] => some []
  | buffer, bits, c :: rest =>
    match alphabetIndex c with
    | none => none
    | some decoded =>
      let buffer := (buffer * 64 + decoded) % 2 ^ 32
      if 8 ≤ bits + 6 then
        (decodeBits buffer (bits + 6 - 8) rest).map (UInt8.ofNat (buffer / 2 ^ (bits + 6 - 8)) :: ·)
      else decodeBits buffer (bits + 6) rest

def decode64 (value : String) : Option Bytes := decodeBits 0 0 value.toList

/-! ## Envelopes -/

namespace Phone

variable (phone : Phone)

def getInt (value : Json) (name : String) : Option ℤ :=
  if value.has name then
    match value.get name with
    | .int n => if -2 ^ 31 ≤ n ∧ n < 2 ^ 31 then some n else phone.int (.int n)
    | other => phone.int other
  else none

def quoted (envelope : Json) (name : String) : Option String := (phone.getString envelope name).map phone.quote

/-- The members of the associated data, quoted. -/
def aadText (algorithm messageId recipient sender type : String) (version : ℤ) : String :=
  "\x7b\"algorithm\":" ++ algorithm ++ ",\"message_id\":" ++ messageId ++ ",\"recipient\":" ++ recipient ++
    ",\"sender\":" ++ sender ++ ",\"type\":" ++ type ++ ",\"version\":" ++ toString version ++ "\x7d"

def aad (envelope : Json) : Option Bytes := do
  let algorithm ← phone.quoted envelope "algorithm"
  let messageId ← phone.quoted envelope "message_id"
  let recipient ← phone.quoted envelope "recipient"
  let sender ← phone.quoted envelope "sender"
  let type ← phone.quoted envelope "type"
  let version ← phone.getInt envelope "version"
  return utf8 (aadText algorithm messageId recipient sender type version)

def signedBytes (envelope : Json) : Option Bytes := do
  let aad ← phone.aad envelope
  let encryptedKey ← phone.getString envelope "encrypted_key"
  let nonce ← phone.getString envelope "nonce"
  let ciphertext ← phone.getString envelope "ciphertext"
  return [0].intercalate [aad, usAscii encryptedKey, usAscii nonce, usAscii ciphertext]

/-- `decode64(envelope.getString(name))`. -/
def bytes (envelope : Json) (name : String) : Option Bytes := (phone.getString envelope name).bind decode64

/-- The key an envelope is verified with. -/
def senderKey (envelope : Json) (known : Option String) : Option String :=
  let advertised := phone.optString envelope "sender_public_key" ""
  match known, phone.isNotBlank advertised with
  | some key, true => if key = advertised then some key else none
  | some key, false => some key
  | none, true => some advertised
  | none, false => none

/-- `E2EEnvelope.decrypt`. -/
def decrypt (aead : Aead) (envelope : Json) (known : Option String) : Option (Json × String) := do
  let type ← phone.getString envelope "type"
  let algorithm ← phone.getString envelope "algorithm"
  if type = "envelope" ∧ algorithm = Wisp.e2eAlgorithm then
    let key ← phone.senderKey envelope known
    let signature ← phone.bytes envelope "signature"
    let signed ← phone.signedBytes envelope
    if phone.verify key signature signed then
      let encryptedKey ← phone.bytes envelope "encrypted_key"
      let contentKey ← phone.unwrap encryptedKey
      let nonce ← phone.bytes envelope "nonce"
      let aad ← phone.aad envelope
      let ciphertext ← phone.bytes envelope "ciphertext"
      let plaintext ← (aead.decrypt contentKey nonce ciphertext aad).toOption
      let body ← phone.parse plaintext
      return (body, key)
    else none
  else none

end Phone

/-! ## Sessions -/

namespace SessionCrypto

/-- `SessionCrypto.hkdf`: one block. -/
def hkdf (hmac : Wisp.Hmac) : Hkdf := fun ikm salt info => hmac (hmac salt ikm) (info ++ [1])

structure Keys where
  androidToWisp : Bytes
  wispToAndroid : Bytes
deriving DecidableEq

def deriveKeys (hmac : Wisp.Hmac) (master : Bytes) (sessionId : String) : Option Keys :=
  if master.length = 32 ∧ sessionId ≠ "" then
    some ⟨hkdf hmac master (utf8 sessionId) Wisp.androidToWisp, hkdf hmac master (utf8 sessionId) Wisp.wispToAndroid⟩
  else none

def acceptProof (hmac : Wisp.Hmac) (master : Bytes) (sessionId challenge androidId wispId : String) : Option String := do
  let keys ← deriveKeys hmac master sessionId
  let transcript := [0].intercalate [utf8 "wispgate-session-v1/accept", utf8 sessionId, utf8 challenge, utf8 androidId,
    utf8 wispId]
  return b64 (hmac keys.wispToAndroid transcript)

end SessionCrypto

namespace SessionHandshake

structure Pending where
  localId : String
  owner : String
  peerPublicKey : String
  master : Bytes
  sessionId : String
  challenge : String
  createdAt : ℕ
deriving DecidableEq

/-- `SessionHandshake.finish`, where exceptions are `none`. -/
def finish (phone : Phone) (aead : Aead) (hmac : Wisp.Hmac) (pending : Pending) (envelope : Json) (now : ℕ) :
    Option PeerSession := do
  if pending.createdAt + sessionLifetimeSeconds ≤ now ∨ phone.optString envelope "sender" "" ≠ pending.owner ∨
      phone.optString envelope "recipient" "" ≠ pending.localId then none
  else
    let (body, _) ← phone.decrypt aead envelope (some pending.peerPublicKey)
    if phone.optString body "type" "" ≠ "session_accept" ∨ phone.optString body "session_id" "" ≠ pending.sessionId ∨
        phone.optString body "challenge" "" ≠ pending.challenge then none
    else
      let expected ← SessionCrypto.acceptProof hmac pending.master pending.sessionId pending.challenge pending.localId
        pending.owner
      if phone.optString body "proof" "" = expected then
        let keys ← SessionCrypto.deriveKeys hmac pending.master pending.sessionId
        return .create pending.sessionId pending.localId pending.owner keys.androidToWisp keys.wispToAndroid
          pending.createdAt true
      else none

end SessionHandshake

end WispGate.Model.Android
