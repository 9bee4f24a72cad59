import WispGate.Model.Relay.Sections
import WispGate.Data.Transition

/-! # The bootstrap of a trust anchor

A client without a TLS anchor asks for one over a connection that it does not authenticate. Request
and response are sealed to the public keys of the two ends; a nonce of the client ties the second to
the first. The encryption is ideal: a message opens under a key only if it was sealed for it. Whoever
owns the network carries every line and seals what it likes.
-/

namespace WispGate.Model.Bootstrap

open Data Relay

/-! ## Sealing -/

/-- `_b64` of the bootstrap modules, with the padding. -/
def paddedB64 (data : Bytes) : String := String.ofList (Base64.encode data ++ Base64.padding (Base64.encode data).length)

/-- The wrapped content key, the nonce and the ciphertext of a sealed message. -/
structure Parts where
  key : Bytes
  nonce : Bytes
  ciphertext : Bytes
deriving DecidableEq

/-- What was encrypted for a public key. -/
structure Sealing where
  parts : Parts
  publicKey : String
  payload : Bytes
deriving DecidableEq

/-- The envelope of `_seal`. -/
def Parts.envelope (parts : Parts) : Json :=
  .obj [("key", .str (paddedB64 parts.key)), ("nonce", .str (paddedB64 parts.nonce)),
    ("ciphertext", .str (paddedB64 parts.ciphertext))]

/-- The text of what `_seal` returns. -/
def Parts.text (parts : Parts) : String := b64 (utf8 parts.envelope.dumps)

/-- `_open`. -/
def openSealing (sealings : List Sealing) (publicKey : String) (message : Bytes) : Except PyError Bytes := do
  let envelope ← loadsBytes message
  let key ← decodedMember envelope "key"
  let nonce ← decodedMember envelope "nonce"
  let ciphertext ← decodedMember envelope "ciphertext"
  match sealings.find? fun sealing => decide (sealing.parts = ⟨key, nonce, ciphertext⟩ ∧ sealing.publicKey = publicKey) with
  | some sealing => return sealing.payload
  | none => throw .crypto

/-- `json.loads(_open(private_key, _unb64(message.decode("ascii"))))`. -/
def openPayload (sealings : List Sealing) (publicKey message : String) : Except PyError Json := do
  loadsBytes (← openSealing sealings publicKey (← unb64 message))

/-! ## The client -/

structure Client where
  clientId : String
  clientKind : String
  /-- The text of the public half of its identity key. -/
  publicKey : String

/-- The payload of `build_bootstrap_request`. -/
def requestPayload (client : Client) (nonce : Bytes) : Bytes :=
  utf8 (Json.obj [("version", .int 1), ("client_id", .str client.clientId), ("client_kind", .str client.clientKind),
    ("client_public_key", .str client.publicKey), ("nonce", .str (paddedB64 nonce))]).dumps

structure BootstrapResponse where
  nonce : Bytes
  certificateDer : Bytes
  certificateSha256 : Bytes

section Hash

variable (sha256 : Bytes → Bytes)

def decryptBootstrapResponse (sealings : List Sealing) (publicKey message : String) (expectedNonce : Bytes) :
    Except PyError BootstrapResponse := do
  let payload ← openPayload sealings publicKey message
  let nonce ← decodedMember payload "nonce"
  if nonce ≠ expectedNonce then throw .value
  let certificateDer ← decodedMember payload "certificate_der"
  let certificateSha256 ← decodedMember payload "certificate_sha256"
  if certificateSha256 ≠ sha256 certificateDer then throw .value
  return { nonce, certificateDer, certificateSha256 }

/-- `data.hex()`. -/
def hex (data : Bytes) : String := String.ofList (data.flatMap fun byte => Json.hexDigits 2 byte.toNat)

/-- The rest of `_bootstrap_tls` once the line of the other end is read: the anchor it stores. -/
def bootstrapTls (sealings : List Sealing) (publicKey : String) (nonce : Bytes) (result : Json) : Except PyError String := do
  if ¬ (result.get "ok").truthy ∨ result.get "type" ≠ .str "bootstrap_response" then throw .connection
  let payload ← asciiText (← member result "payload")
  let response ← decryptBootstrapResponse sha256 sealings publicKey payload nonce
  let actual := hex (sha256 response.certificateDer)
  if actual ≠ hex response.certificateSha256 then throw .connection
  return actual

/-! ## The relay -/

/-- The payload of `build_bootstrap_response`. -/
def responsePayload (nonce certificateDer : Bytes) : Bytes :=
  utf8 (Json.obj [("version", .int 1), ("nonce", .str (b64 nonce)), ("certificate_der", .str (b64 certificateDer)),
    ("certificate_sha256", .str (b64 (sha256 certificateDer)))]).dumps

end Hash

/-! ## Runs on one network -/

/-- A call of `_bootstrap_tls`, with the anchor it stored or the exception it ended in. -/
structure Run where
  client : Client
  nonce : Bytes
  outcome : Option (Except PyError String) := none

/-- What the relay put into a response, and for whom. -/
structure Response where
  publicKey : String
  nonce : Bytes
  certificateDer : Bytes

structure World where
  sealings : List Sealing := []
  runs : List Run := []
  runtime : RelayRuntime
  certificateDer : Option Bytes
  responses : List Response := []

inductive Event where
  /-- A client draws a nonce and sends its request. -/
  | begin (client : Client) (nonce : Bytes) (parts : Parts)
  /-- The relay reads a line of some connection. -/
  | bootstrap (now : ℕ) (hello : Json) (parts : Parts)
  /-- The relay does something else, or is restarted with another certificate. -/
  | relay (runtime : RelayRuntime) (certificateDer : Option Bytes)
  /-- Someone else seals a payload. -/
  | forge (publicKey : String) (payload : Bytes) (parts : Parts)
  /-- A client reads a line. -/
  | answer (index : ℕ) (result : Json)

namespace World

variable (env : Env) (sha256 : Bytes → Bytes) (relayKey : String)

/-- The relay's configuration and host, with what was sealed so far. -/
def relayEnv (s : World) (parts : Parts) : Env :=
  { env with
    certificate := s.certificateDer.isSome
    openSealed := openPayload s.sealings relayKey
    sealResponse := fun _ _ => parts.text }

/-- An encryption, which returns parts that no other one returned. -/
def encrypts (s : World) (parts : Parts) (publicKey : String) (payload : Bytes) : Option World :=
  if s.sealings.any fun sealing => decide (sealing.parts = parts) then none
  else some { s with sealings := ⟨parts, publicKey, payload⟩ :: s.sealings }

/-- The bootstrap branch of `handle_control`. -/
def onBootstrap (s : World) (now : ℕ) (hello : Json) (parts : Parts) : Option World :=
  match s.certificateDer with
  | none => some s
  | some certificateDer =>
    let env := s.relayEnv env relayKey parts
    match (member hello "payload").bind asciiText |>.bind (decryptBootstrapRequest env) with
    | .error _ => some s
    | .ok request =>
      match s.runtime.bootstrap env now request with
      | (runtime, .ok (.continues _)) =>
        let response : Response := ⟨request.clientKey.encoded, request.nonce, certificateDer⟩
        encrypts { s with runtime := runtime, responses := response :: s.responses } parts response.publicKey
          (responsePayload sha256 request.nonce certificateDer)
      | (runtime, _) => some { s with runtime := runtime }

def step (s : World) : Event → Option World
  | .begin client nonce parts =>
    encrypts { s with runs := s.runs ++ [⟨client, nonce, none⟩] } parts relayKey (requestPayload client nonce)
  | .bootstrap now hello parts =>
    if hello.get "type" = .str "bootstrap_request" then s.onBootstrap env sha256 relayKey now hello parts else none
  | .relay runtime certificateDer => some { s with runtime := runtime, certificateDer := certificateDer }
  | .forge publicKey payload parts => s.encrypts parts publicKey payload
  | .answer index result =>
    match s.runs[index]? with
    | some run =>
      if run.outcome.isSome then none
      else some { s with runs := s.runs.set index { run with
        outcome := some (bootstrapTls sha256 s.sealings run.client.publicKey run.nonce result) } }
    | none => none

/-- Nothing was asked and nothing sealed. -/
def Initial (s : World) : Prop := s.sealings = [] ∧ s.runs = [] ∧ s.responses = []

end World

end WispGate.Model.Bootstrap
