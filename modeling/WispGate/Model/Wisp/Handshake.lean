import Mathlib.Data.List.Sort
import WispGate.Data.Dict
import WispGate.Model.Session

/-! # Envelopes and handshakes of a Wisp

The RSA envelopes that carry a `session_init`, and what the Wisp makes of one: it pins the key of
the sender at first contact and derives the session. The RSA operations and the MAC are parameters.
Peers have textual ids; what an envelope of another sender leaves in the tables cannot be addressed
by any of them and is left out.
-/

namespace WispGate.Model.Wisp

open Data

/-- The RSA operations: reading a public key, verification under it, whether a content key can be
encrypted for it, and decryption with the own key. -/
structure Rsa where
  load : String → Except PyError Unit
  verify : String → Bytes → Bytes → Bool
  wraps : String → Except PyError Unit
  unwrap : Bytes → Except PyError Bytes

/-- `hmac.digest(key, message, "sha256")`. -/
abbrev Hmac := Bytes → Bytes → Bytes

/-! ## Envelopes -/

mutual

/-- The value that `sort_keys` writes. -/
def sorted : Json → Json
  | .arr items => .arr (sortedItems items)
  | .obj fields => .obj ((sortedFields fields).mergeSort fun a b => decide (a.1 ≤ b.1))
  | value => value

def sortedItems : List Json → List Json
  | [] => []
  | item :: rest => sorted item :: sortedItems rest

def sortedFields : List (String × Json) → List (String × Json)
  | [] => []
  | (key, value) :: rest => (key, sorted value) :: sortedFields rest

end

def e2eAlgorithm : String := "RSA-OAEP-256+A256GCM+PS256"

/-- `_aad`. -/
def envelopeAad (envelope : Json) : Except PyError Bytes := do
  let version ← member envelope "version"
  let type ← member envelope "type"
  let sender ← member envelope "sender"
  let recipient ← member envelope "recipient"
  let messageId ← member envelope "message_id"
  let algorithm ← member envelope "algorithm"
  return utf8 (Json.dumps (.obj [("algorithm", sorted algorithm), ("message_id", sorted messageId),
    ("recipient", sorted recipient), ("sender", sorted sender), ("type", sorted type), ("version", sorted version)]))

/-- `envelope[name].encode("ascii")`. -/
def asciiMember (envelope : Json) (name : String) : Except PyError Bytes := do
  let value ← member envelope name
  let text ← asciiText value
  return utf8 text

/-- `_signed_bytes`. -/
def signedBytes (envelope : Json) : Except PyError Bytes := do
  let aad ← envelopeAad envelope
  let encryptedKey ← asciiMember envelope "encrypted_key"
  let nonce ← asciiMember envelope "nonce"
  let ciphertext ← asciiMember envelope "ciphertext"
  return [0].intercalate [aad, encryptedKey, nonce, ciphertext]

/-- `_unb64(envelope[name])`. -/
def unb64Member (envelope : Json) (name : String) : Except PyError Bytes := do
  let value ← member envelope name
  match value.asStr? with
  | none => .error .type
  | some text => unb64 text

/-- The members of an envelope that its associated data covers. -/
def envelopeHeader (sender recipient messageId : String) : List (String × Json) :=
  [("version", .int 1), ("type", .str "envelope"), ("sender", .str sender), ("recipient", .str recipient),
    ("message_id", .str messageId), ("algorithm", .str e2eAlgorithm)]

/-- `encrypt_envelope`, for a fresh content key and nonce: the content key encrypted for the
recipient is given, and so is the signature of the sender. -/
def encryptEnvelope (aead : Aead) (sign : Bytes → Bytes) (sender recipient messageId : String) (body : Json)
    (contentKey nonce wrappedKey : Bytes) (advertised : Option String) : Except PyError Json := do
  let header := envelopeHeader sender recipient messageId
  let aad ← envelopeAad (.obj header)
  let ciphertext ← aead.encrypt contentKey nonce (utf8 body.dumps) aad
  let unsigned := header ++ [("encrypted_key", .str (b64 wrappedKey)), ("nonce", .str (b64 nonce)),
    ("ciphertext", .str (b64 ciphertext))] ++ (advertised.map fun key => ("sender_public_key", Json.str key)).toList
  let signed ← signedBytes (.obj unsigned)
  return .obj (unsigned ++ [("signature", .str (b64 (sign signed)))])

/-- The key an envelope is verified with: the pinned one, or at first contact the advertised one. -/
def senderKey (envelope : Json) (known : Option String) : Except PyError String :=
  let advertised := envelope.get "sender_public_key"
  let pinned := known.filter fun key => decide (key ≠ "")
  match pinned with
  | some key => if advertised.truthy = true ∧ advertised.pyEq (.str key) = false then .error .value else .ok key
  | none =>
    if ¬ advertised.truthy then .error .value
    else match advertised.asStr? with
      | none => .error .type
      | some key => .ok key

variable (rsa : Rsa) (aead : Aead)

/-- What an envelope holds for the owner of the private key. -/
def openEnvelope (envelope : Json) : Except PyError Json := do
  let encryptedKey ← unb64Member envelope "encrypted_key"
  let contentKey ← rsa.unwrap encryptedKey
  let nonce ← unb64Member envelope "nonce"
  let ciphertext ← unb64Member envelope "ciphertext"
  let aad ← envelopeAad envelope
  let plaintext ← aead.decrypt contentKey nonce ciphertext aad
  let body ← loadsBytes plaintext
  if body.isObj then return body else .error .value

/-- `decrypt_envelope`. -/
def decryptEnvelope (envelope : Json) (known : Option String) : Except PyError (Json × String) := do
  if (envelope.get "algorithm").pyEq (.str e2eAlgorithm) = false ∨
      (envelope.get "type").pyEq (.str "envelope") = false then .error .value
  else
    let key ← senderKey envelope known
    rsa.load key
    let signature ← unb64Member envelope "signature"
    let signed ← signedBytes envelope
    if ¬ rsa.verify key signature signed then .error .value
    else
      let body ← openEnvelope rsa aead envelope
      return (body, key)

/-! ## Handshakes -/

/-- What a `session_init` carries. -/
structure SessionInit where
  sessionId : String
  challenge : String
  master : Bytes
deriving DecidableEq

/-- The content of a `session_init` body. -/
def sessionInit (body : Json) : Except PyError SessionInit :=
  if (body.get "type").pyEq (.str "session_init") = false then .error .value
  else match (body.get "session_id").asStr?, (body.get "challenge").asStr?, (body.get "master_secret").asStr? with
    | some sessionId, some challenge, some encodedMaster =>
      if sessionId = "" ∨ challenge = "" ∨ encodedMaster = "" then .error .value
      else match unb64 encodedMaster with
        | .error e => .error e
        | .ok master => if master.length = 32 then .ok ⟨sessionId, challenge, master⟩ else .error .value
    | _, _, _ => .error .value

def androidToWisp : Bytes := utf8 "wispgate-session-v1/android-to-wisp"

def wispToAndroid : Bytes := utf8 "wispgate-session-v1/wisp-to-android"

/-- `derive_session_keys`, for a master secret of 32 bytes and an id. -/
def deriveSessionKeys (hkdf : Hkdf) (master : Bytes) (sessionId : String) : Bytes × Bytes :=
  (hkdf master (utf8 sessionId) androidToWisp, hkdf master (utf8 sessionId) wispToAndroid)

/-- `session_accept_proof`. -/
def sessionAcceptProof (hkdf : Hkdf) (hmac : Hmac) (master : Bytes) (sessionId challenge androidId wispId : String) :
    String :=
  b64 (hmac (deriveSessionKeys hkdf master sessionId).2 ([0].intercalate [utf8 "wispgate-session-v1/accept",
    utf8 sessionId, utf8 challenge, utf8 androidId, utf8 wispId]))

/-- The session a Wisp derives from the init of a peer. -/
def SessionInit.session (init : SessionInit) (hkdf : Hkdf) (clientId sender : String) (now : ℕ) : PeerSession :=
  let keys := deriveSessionKeys hkdf init.master init.sessionId
  .create init.sessionId clientId sender keys.1 keys.2 now false

/-- What a Wisp knows about its peers. -/
structure Peers where
  keys : Dict String String := .empty
  sessions : Dict String PeerSession := .empty
deriving DecidableEq

/-- `_remember_peer`. -/
def Peers.rememberPeer (peers : Peers) (clientId publicKey : String) : Except PyError Peers :=
  match (peers.keys.get? clientId).filter fun known => decide (known ≠ "") with
  | some known => if known = publicKey then .ok peers else .error .value
  | none => .ok { peers with keys := peers.keys.insert clientId publicKey }

/-- The body that accepts a session. -/
def sessionAccept (hkdf : Hkdf) (hmac : Hmac) (clientId sender : String) (init : SessionInit) : Json :=
  .obj [("type", .str "session_accept"), ("session_id", .str init.sessionId), ("challenge", .str init.challenge),
    ("proof", .str (sessionAcceptProof hkdf hmac init.master init.sessionId init.challenge sender clientId))]

/-- `_handle_envelope` up to the answer: the tables it leaves, and the answer with its recipient. -/
def Peers.handleEnvelope (peers : Peers) (hkdf : Hkdf) (hmac : Hmac) (clientId : String) (message : Json)
    (now : ℕ) : Peers × Except PyError (String × Json) :=
  if ¬ message.has "sender" then (peers, .error .key)
  else if (message.get "recipient").pyEq (.str clientId) = false then (peers, .error .value)
  else match message.get "sender" with
    | .str sender =>
      match decryptEnvelope rsa aead message (peers.keys.get? sender) with
      | .error e => (peers, .error e)
      | .ok (body, key) =>
        match peers.rememberPeer sender key with
        | .error e => (peers, .error e)
        | .ok peers =>
          match sessionInit body with
          | .error e => (peers, .error e)
          | .ok init =>
            ({ peers with sessions := peers.sessions.insert sender (init.session hkdf clientId sender now) },
              .ok (sender, sessionAccept hkdf hmac clientId sender init))
    | sender =>
      if sender.hashKey?.isNone then (peers, .error .type)
      else match decryptEnvelope rsa aead message none with
        | .error e => (peers, .error e)
        | .ok (body, _) =>
          match sessionInit body with
          | .error e => (peers, .error e)
          -- The proof encodes the sender, which is no text.
          | .ok _ => (peers, .error .attribute)

end WispGate.Model.Wisp
