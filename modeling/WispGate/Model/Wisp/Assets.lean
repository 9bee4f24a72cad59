import WispGate.Model.Wisp.Operations

/-! # Responses with assets

`_prepare_outbound_assets` and `_send_wisp_response`. The manifest of an asset is built from the
attributes of its prepared item, looked up by name as the language does.
-/

namespace WispGate.Model.Wisp

open Data

structure PreparedOutboundAsset where
  asset : Asset
  transferId : String
  sender : String
  recipient : String
  sessionId : String
  nonce : String
  contentKey : Bytes
deriving DecidableEq

namespace PreparedOutboundAsset

def ciphertextSize (item : PreparedOutboundAsset) : ℤ := item.asset.size + 16

/-- Sizes that were accepted are not negative. -/
def aad (item : PreparedOutboundAsset) : Bytes :=
  bulkAad item.sessionId item.sender item.recipient item.transferId item.asset.id item.asset.size.toNat

/-- The attributes of an item that are texts or numbers. -/
def getattr (item : PreparedOutboundAsset) : String → Except PyError Json
  | "transfer_id" => .ok (.str item.transferId)
  | "sender" => .ok (.str item.sender)
  | "recipient" => .ok (.str item.recipient)
  | "session_id" => .ok (.str item.sessionId)
  | "nonce" => .ok (.str item.nonce)
  | "ciphertext_size" => .ok (.int item.ciphertextSize)
  | _ => .error .attribute

end PreparedOutboundAsset

/-- What `_prepare_outbound_assets` draws: the transfer id, and a nonce for each asset. -/
structure AssetDraw where
  transferId : String
  nonce : ℕ → Bytes

/-- `_prepare_outbound_assets` of the Wisp endpoint `clientId`. -/
def prepareOutboundAssets (hkdf : Hkdf) (clientId recipient : String) (session : Option PeerSession)
    (assets : List Asset) (draw : AssetDraw) : Except PyError (List PreparedOutboundAsset) :=
  if ¬ (1 ≤ assets.length ∧ assets.length ≤ maxFilesPerAction) then .error .value
  else if (maxFileActionBytes : ℤ) < (assets.map (·.size)).sum then .error .value
  else if ¬ (assets.all Asset.valid ∧ (assets.map (·.id)).Nodup) then .error .value
  else match session with
    | none => .error .value
    | some session =>
      match session.bulkKey hkdf draw.transferId true with
      | .error e => .error e
      | .ok contentKey =>
        .ok (assets.zipIdx.map fun entry => ⟨entry.1, draw.transferId, clientId, recipient, session.sessionId,
          b64 (draw.nonce entry.2), contentKey⟩)

/-- The manifest of an asset, from the attributes of its item. -/
def assetManifest (asset : Asset) (getattr : String → Except PyError Json) : Except PyError Json := do
  let ticket ← getattr "ticket"
  let encryptedKey ← getattr "encrypted_key"
  let nonce ← getattr "nonce"
  let ciphertextSize ← getattr "ciphertext_size"
  return .obj [("id", .str asset.id), ("name", .str asset.name), ("content_type", .str asset.contentType),
    ("size", .int asset.size),
    ("bulk", .obj [("algorithm", .str "RSA-OAEP-256+A256GCM"), ("ticket", ticket), ("encrypted_key", encryptedKey),
      ("nonce", nonce), ("ciphertext_size", ciphertextSize)])]

/-- What `_send_wisp_response` hands on, in its order. -/
inductive Sent where
  | body (body : Json)
  | asset (item : PreparedOutboundAsset)
deriving DecidableEq

def assetsBegin (wisp : String) (payload : Json) (transferId : String) (files : List Json) : Json :=
  .obj [("wisp_id", .str wisp), ("response", payload), ("assets", .obj [("type", .str "begin"),
    ("transfer_id", .str transferId), ("files", .arr files)])]

def assetsComplete (wisp transferId : String) : Json :=
  .obj [("wisp_id", .str wisp), ("assets", .obj [("type", .str "complete"), ("transfer_id", .str transferId)])]

/-- `_send_wisp_response`, with what preparing its assets gives: what it sends as long as every
send succeeds, and the exception it ends with. -/
def sendWispResponse (wisp : String) (state : Result) (prepared : Except PyError (List PreparedOutboundAsset)) :
    List Sent × Option PyError :=
  if state.assets = [] then ([.body (responseBody wisp state.payload)], none)
  else match prepared with
    | .error e => ([], some e)
    | .ok items =>
      match items.mapM fun item => assetManifest item.asset item.getattr with
      | .error e => ([], some e)
      | .ok files =>
        let transferId := (items.head?.map (·.transferId)).getD ""
        (.body (assetsBegin wisp state.payload transferId files) :: items.map .asset ++
          [.body (assetsComplete wisp transferId)], none)

end WispGate.Model.Wisp
