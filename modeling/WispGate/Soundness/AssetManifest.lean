import WispGate.Model.Android.InboundAssets
import WispGate.Model.Wisp.Assets

/-! # Responses with assets

A response with assets never reaches Android: the manifest of every accepted asset asks its item
for a ticket, which items do not have. A manifest with any ticket would be refused, since both
sides name the algorithm differently.
-/

namespace WispGate.Soundness.AssetManifest

open Data Model Model.Wisp Model.Android

/-! ## What a delivery is -/

/-- An offer is the asset of an item. -/
structure Agrees (item : PreparedOutboundAsset) (offer : InboundAssetOffer) : Prop where
  transferId : offer.transferId = item.transferId
  id : offer.id = item.asset.id
  name : offer.name = item.asset.name
  contentType : offer.contentType = item.asset.contentType
  size : offer.size = item.asset.size
  nonce : offer.nonce = item.nonce
  ciphertextSize : offer.ciphertextSize = item.asset.size + 16
  aad : offer.aad item.sessionId item.sender item.recipient = item.aad

/-- A begin body is sent that Android accepts, and its offers are in order the prepared assets. -/
def Delivered (platform : Platform) (items : List PreparedOutboundAsset) (sent : List Sent) : Prop :=
  ∃ body response, .body body ∈ sent ∧ parseAssets platform body = some response ∧
    List.Forall₂ Agrees items response.offers

section Manifest

variable {hkdf : Hkdf} {clientId recipient : String} {session : Option PeerSession} {assets : List Asset}
  {draw : AssetDraw} {items : List PreparedOutboundAsset} {platform : Platform}

/-- Equal members make equal associated data. -/
theorem aad_agrees {item : PreparedOutboundAsset} {offer : InboundAssetOffer}
    (transferId : offer.transferId = item.transferId) (id : offer.id = item.asset.id)
    (size : offer.size = item.asset.size) :
    offer.aad item.sessionId item.sender item.recipient = item.aad := by
  rw [InboundAssetOffer.aad, PreparedOutboundAsset.aad, transferId, id, size]

theorem prepare_length (accepted : prepareOutboundAssets hkdf clientId recipient session assets draw = .ok items) :
    items.length = assets.length ∧ 1 ≤ assets.length := by
  unfold prepareOutboundAssets at accepted
  split_ifs at accepted with count
  split at accepted
  · cases accepted
  · split at accepted
    · cases accepted
    · cases accepted
      exact ⟨by simp, count.1⟩

theorem send_prepared {wisp : String} {state : Result} (some_assets : state.assets ≠ []) (nonempty : items ≠ []) :
    sendWispResponse wisp state (.ok items) = ([], some .attribute) := by
  cases items with
  | nil => exact absurd rfl nonempty
  | cons item rest =>
    rw [sendWispResponse, if_neg some_assets]
    rfl

/-- The exception of a response with assets, whatever they are. -/
theorem send_error {wisp : String} {state : Result} (some_assets : state.assets ≠ []) (drawn : draw.transferId ≠ "") :
    sendWispResponse wisp state (prepareOutboundAssets hkdf clientId recipient session state.assets draw) =
      ([], some (sendAssetsError state.assets session.isSome)) := by
  have refused : ∀ e, sendWispResponse wisp state (.error e) = ([], some e) := fun e => by
    rw [sendWispResponse, if_neg some_assets]
  unfold prepareOutboundAssets sendAssetsError
  by_cases count : 1 ≤ state.assets.length ∧ state.assets.length ≤ maxFilesPerAction
  swap
  · rw [if_pos count, if_pos count, refused]
  rw [if_neg (not_not.mpr count), if_neg (not_not.mpr count)]
  by_cases size : (maxFileActionBytes : ℤ) < (state.assets.map (·.size)).sum
  · rw [if_pos size, if_pos size, refused]
  rw [if_neg size, if_neg size]
  by_cases shape : state.assets.all Asset.valid ∧ (state.assets.map (·.id)).Nodup
  swap
  · rw [if_pos shape, if_pos shape, refused]
  rw [if_neg (not_not.mpr shape), if_neg (not_not.mpr shape)]
  cases session with
  | none => exact refused _
  | some session =>
    simp only [PeerSession.bulkKey, if_neg drawn]
    refine send_prepared some_assets fun empty => some_assets ?_
    simpa using congrArg List.length empty

variable (platform) in
/-- The algorithm that a manifest names. -/
theorem manifest_algorithm {asset : Asset} {getattr : String → Except PyError Json} {file : Json}
    (built : assetManifest asset getattr = .ok file) : ∃ bulk, getObject file "bulk" = some bulk ∧
      platform.getString bulk "algorithm" = some "RSA-OAEP-256+A256GCM" := by
  unfold assetManifest at built
  cases ticket : getattr "ticket" with
  | error e => simp [ticket, bind, Except.bind] at built
  | ok ticket' =>
    cases key : getattr "encrypted_key" with
    | error e => simp [ticket, key, bind, Except.bind] at built
    | ok key' =>
      cases nonce : getattr "nonce" with
      | error e => simp [ticket, key, nonce, bind, Except.bind] at built
      | ok nonce' =>
        cases size : getattr "ciphertext_size" with
        | error e => simp [ticket, key, nonce, size, bind, Except.bind] at built
        | ok size' =>
          simp only [ticket, key, nonce, size, bind, Except.bind, pure, Except.pure, Except.ok.injEq] at built
          subst built
          exact ⟨_, rfl, rfl⟩

/-- The algorithm that an accepted offer names. -/
theorem offer_algorithm {file : Json} {transferId : String} {offer : InboundAssetOffer}
    (accepted : InboundAssetOffer.fromJson platform transferId file = some offer) :
    ∃ bulk, getObject file "bulk" = some bulk ∧ platform.getString bulk "algorithm" = some "SESSION-A256GCM-v2" := by
  simp only [InboundAssetOffer.fromJson, bind, Option.bind_eq_some_iff] at accepted
  obtain ⟨bulk, found, id, -, name, -, size, -, nonce, -, ciphertextSize, -, algorithm, named, accepted⟩ := accepted
  split_ifs at accepted with acceptable
  simp only [InboundAssetOffer.acceptable, Bool.and_eq_true, decide_eq_true_eq] at acceptable
  exact ⟨bulk, found, named.trans (congrArg some acceptable.2)⟩

/-- Android refuses a manifest whatever ticket and key it is built with. -/
theorem fromJson_manifest {asset : Asset} {getattr : String → Except PyError Json} {file : Json} {transferId : String}
    (built : assetManifest asset getattr = .ok file) : InboundAssetOffer.fromJson platform transferId file = none := by
  rw [Option.eq_none_iff_forall_ne_some]
  intro offer accepted
  obtain ⟨bulk, found, mine⟩ := manifest_algorithm platform built
  obtain ⟨bulk', found', yours⟩ := offer_algorithm accepted
  obtain rfl := Option.some.inj (found.symm.trans found')
  rw [mine] at yours
  simp at yours

/-- No response whose assets are accepted is delivered, whatever the peer's session. -/
theorem assets_undelivered (platform : Platform) (hkdf : Hkdf) (clientId recipient wisp : String)
    (session : PeerSession) (state : Result) (draw : AssetDraw)
    (accepted : prepareOutboundAssets hkdf clientId recipient (some session) state.assets draw = .ok items) :
    ¬ Delivered platform items (sendWispResponse wisp state
      (prepareOutboundAssets hkdf clientId recipient (some session) state.assets draw)).1 := by
  obtain ⟨length, one⟩ := prepare_length accepted
  have some_assets : state.assets ≠ [] := List.ne_nil_of_length_pos one
  have nonempty : items ≠ [] := List.ne_nil_of_length_pos (by omega)
  rw [accepted, send_prepared some_assets nonempty]
  rintro ⟨body, response, member, -⟩
  cases member

end Manifest

/-! ## One asset -/

def plainPlatform : Platform := ⟨fun _ => "", fun _ => none, fun c => c == ' '⟩

def zeroHkdf : Hkdf := fun _ _ _ => []

def phoneSession : PeerSession := .create "session" "wisp" "phone" [1] [2] 0 false

/-- A page with one file of one byte. -/
def pageWithFile : Result := .response "page" "text/html" [⟨"file", "file.txt", "text/plain", 1⟩]

def fileDraw : AssetDraw := ⟨"transfer", fun _ => []⟩

def fileItem : PreparedOutboundAsset :=
  ⟨⟨"file", "file.txt", "text/plain", 1⟩, "transfer", "wisp", "phone", "session", "", []⟩

theorem assets_undelivered_file : prepareOutboundAssets zeroHkdf "wisp" "phone" (some phoneSession) pageWithFile.assets
      fileDraw = .ok [fileItem] ∧
    ¬ Delivered plainPlatform [fileItem] (sendWispResponse "clock" pageWithFile
      (prepareOutboundAssets zeroHkdf "wisp" "phone" (some phoneSession) pageWithFile.assets fileDraw)).1 :=
  have accepted : prepareOutboundAssets zeroHkdf "wisp" "phone" (some phoneSession) pageWithFile.assets fileDraw =
      .ok [fileItem] := by decide
  ⟨accepted, assets_undelivered plainPlatform zeroHkdf "wisp" "phone" "clock" phoneSession pageWithFile fileDraw accepted⟩

/-- The response with that file sends nothing, although the session is live. -/
theorem assets_begin_missing : ¬ ∀ (platform : Platform) (hkdf : Hkdf) (clientId recipient wisp : String)
    (session : PeerSession) (now : ℕ) (state : Result) (draw : AssetDraw) (items : List PreparedOutboundAsset),
    session.live now = true →
    prepareOutboundAssets hkdf clientId recipient (some session) state.assets draw = .ok items →
    Delivered platform items (sendWispResponse wisp state
      (prepareOutboundAssets hkdf clientId recipient (some session) state.assets draw)).1 := by
  intro claim
  have accepted : prepareOutboundAssets zeroHkdf "wisp" "phone" (some phoneSession) pageWithFile.assets fileDraw =
      .ok [fileItem] := by decide
  have nothing : (sendWispResponse "clock" pageWithFile (.ok [fileItem])).1 = [] := rfl
  obtain ⟨body, response, member, -⟩ := claim plainPlatform zeroHkdf "wisp" "phone" "clock" phoneSession 0 pageWithFile
    fileDraw [fileItem] (by decide) accepted
  rw [accepted, nothing] at member
  cases member

end WispGate.Soundness.AssetManifest
