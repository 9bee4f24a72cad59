import WispGate.Model.Wisp.Operations

/-! # Offers of assets on Android

`InboundAssetProtocol.parse` on the body that begins a response with assets. What `org.json` makes
of members of another type, and which characters are blank, comes from outside. Numbers are
`Long`s, and lengths of texts count UTF-16 units.
-/

namespace WispGate.Model.Android

open Data

/-- `org.json` on values of another type than asked for, and `isWhitespace`. -/
structure Platform where
  text : Json → String
  long : Json → Option ℤ
  blank : Char → Bool

/-- A number as a `Long` keeps it. -/
def wrapLong (n : ℤ) : ℤ := (n + 2 ^ 63) % 2 ^ 64 - 2 ^ 63

/-- The length of a text in UTF-16 units. -/
def units (text : String) : ℕ := (text.toList.map fun c => if c.toNat < 0x10000 then 1 else 2).sum

namespace Platform

variable (platform : Platform)

def isNotBlank (text : String) : Bool := text.toList.any fun c => !platform.blank c

def getString (value : Json) (name : String) : Option String :=
  if value.has name then
    match value.get name with
    | .str text => some text
    | other => some (platform.text other)
  else none

def optString (value : Json) (name fallback : String) : String := (platform.getString value name).getD fallback

def getLong (value : Json) (name : String) : Option ℤ :=
  if value.has name then
    match value.get name with
    | .int n => if wrapLong n = n then some n else platform.long (.int n)
    | other => platform.long other
  else none

end Platform

def getObject (value : Json) (name : String) : Option Json :=
  if (value.get name).isObj then some (value.get name) else none

structure InboundAssetOffer where
  transferId : String
  id : String
  name : String
  contentType : String
  size : ℤ
  nonce : String
  ciphertextSize : ℤ
deriving DecidableEq

structure InboundAssetResponse where
  wispId : String
  html : String
  transferId : String
  offers : List InboundAssetOffer
deriving DecidableEq

namespace InboundAssetOffer

/-- `InboundAssetOffer.aad`. Sizes that were accepted are not negative. -/
def aad (offer : InboundAssetOffer) (sessionId sender recipient : String) : Bytes :=
  bulkAad sessionId sender recipient offer.transferId offer.id offer.size.toNat

/-- The conditions `fromJson` requires of an offer. -/
def acceptable (platform : Platform) (offer : InboundAssetOffer) (algorithm : String) : Bool :=
  platform.isNotBlank offer.transferId && units offer.transferId ≤ 256 &&
    (offer.id ≠ "" && offer.id.toList.all Wisp.assetIdChar) && offer.id ≠ "." && offer.id ≠ ".." &&
    units offer.id ≤ 128 && platform.isNotBlank offer.name && units offer.name ≤ 512 &&
    units offer.contentType ≤ 128 && 0 ≤ offer.size && offer.ciphertextSize = wrapLong (offer.size + 16) &&
    algorithm = "SESSION-A256GCM-v2"

def fromJson (platform : Platform) (transferId : String) (value : Json) : Option InboundAssetOffer := do
  let bulk ← getObject value "bulk"
  let id ← platform.getString value "id"
  let name ← platform.getString value "name"
  let size ← platform.getLong value "size"
  let nonce ← platform.getString bulk "nonce"
  let ciphertextSize ← platform.getLong bulk "ciphertext_size"
  let algorithm ← platform.getString bulk "algorithm"
  let offer : InboundAssetOffer := ⟨transferId, id, name,
    platform.optString value "content_type" "application/octet-stream", size, nonce, ciphertextSize⟩
  if offer.acceptable platform algorithm then some offer else none

end InboundAssetOffer

/-- `InboundAssetProtocol.parse`, where exceptions are `none`. -/
def parseAssets (platform : Platform) (body : Json) : Option InboundAssetResponse := do
  let assets ← getObject body "assets"
  let type ← platform.getString assets "type"
  let transferId ← platform.getString assets "transfer_id"
  let files ← (assets.get "files").asArr?
  let offers ← files.mapM (InboundAssetOffer.fromJson platform transferId)
  let wispId ← platform.getString body "wisp_id"
  let html := if (body.get "response").isObj then platform.optString (body.get "response") "html" "" else ""
  if type = "begin" ∧ 1 ≤ files.length ∧ files.length ≤ 32 ∧ (offers.map (·.id)).Nodup ∧
      wrapLong (offers.map (·.size)).sum ≤ 256 * 1024 * 1024 then
    some ⟨wispId, html, transferId, offers⟩
  else none

end WispGate.Model.Android
