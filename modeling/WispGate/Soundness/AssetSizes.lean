import Mathlib.Algebra.Order.BigOperators.Group.List
import WispGate.Soundness.AssetManifest

/-! # Declared sizes of assets

The checks on declared sizes are computed in `Long`s. Sizes are only bounded from below one by one, so
a sum of up to thirty-two of them may leave the range, come back negative and pass the bound.
-/

namespace WispGate.Soundness.AssetSizes

open Data Model Model.Android

/-- The files a body declares. -/
def declaredFiles (body : Json) : List Json := ((body.get "assets").get "files").asArr?.getD []

/-- Their sizes, as they are read. -/
def declaredSizes (platform : Platform) (body : Json) : List ℤ :=
  (declaredFiles body).filterMap fun file => platform.getLong file "size"

/-- A path segment that needs no escape and is no dot. -/
def Segment (id : String) : Prop := id ≠ "" ∧ id.toList.all Wisp.assetIdChar = true ∧ id ≠ "." ∧ id ≠ ".."

/-- What the offers of a response keep to, in exact integers. -/
structure Exact (offers : List InboundAssetOffer) : Prop where
  count : 1 ≤ offers.length ∧ offers.length ≤ 32
  bounded : (offers.map (·.size)).sum ≤ 256 * 1024 * 1024
  ciphertexts : ∀ offer ∈ offers, offer.ciphertextSize = offer.size + 16
  distinct : (offers.map (·.id)).Nodup
  segments : ∀ offer ∈ offers, Segment offer.id

/-! ## Longs -/

theorem wrapLong_of_range {n : ℤ} (low : -2 ^ 63 ≤ n) (high : n < 2 ^ 63) : wrapLong n = n := by
  unfold wrapLong
  omega

/-! ## Offers -/

section Offers

variable {platform : Platform} {transferId : String} {file body : Json} {offer : InboundAssetOffer}
  {files : List Json} {offers : List InboundAssetOffer} {response : InboundAssetResponse}

theorem fromJson_accepts (accepted : InboundAssetOffer.fromJson platform transferId file = some offer) :
    platform.getLong file "size" = some offer.size ∧ 0 ≤ offer.size ∧
      offer.ciphertextSize = wrapLong (offer.size + 16) ∧ Segment offer.id := by
  simp only [InboundAssetOffer.fromJson, bind, Option.bind_eq_some_iff] at accepted
  obtain ⟨bulk, -, id, -, name, -, size, read, nonce, -, ciphertextSize, -, algorithm, -, accepted⟩ := accepted
  split_ifs at accepted with acceptable
  obtain rfl := Option.some.inj accepted
  simp only [InboundAssetOffer.acceptable, Bool.and_eq_true, decide_eq_true_eq] at acceptable
  obtain ⟨⟨⟨⟨⟨⟨⟨⟨⟨⟨⟨-, -⟩, some_id⟩, dot⟩, dots⟩, -⟩, -⟩, -⟩, -⟩, positive⟩, ciphertext⟩, -⟩ := acceptable
  exact ⟨read, positive, ciphertext, some_id.1, some_id.2, dot, dots⟩

/-- Every file of an accepted body became an offer, in order. -/
theorem offers_files (accepted : files.mapM (InboundAssetOffer.fromJson platform transferId) = some offers) :
    List.Forall₂ (fun file offer => InboundAssetOffer.fromJson platform transferId file = some offer) files offers := by
  induction files generalizing offers with
  | nil =>
    obtain rfl := Option.some.inj accepted
    exact .nil
  | cons file rest ih =>
    simp only [List.mapM_cons, Option.pure_def, Option.bind_eq_bind, Option.bind_eq_some_iff] at accepted
    obtain ⟨offer, first, offers', others, result⟩ := accepted
    obtain rfl := Option.some.inj result
    exact .cons first (ih others)

theorem sizes_read (accepted : List.Forall₂
      (fun file offer => InboundAssetOffer.fromJson platform transferId file = some offer) files offers) :
    files.filterMap (fun file => platform.getLong file "size") = offers.map (·.size) ∧
      ∀ offer ∈ offers, 0 ≤ offer.size ∧ offer.ciphertextSize = wrapLong (offer.size + 16) ∧ Segment offer.id := by
  induction accepted with
  | nil => exact ⟨rfl, by simp⟩
  | cons first _ ih =>
    obtain ⟨read, checked⟩ := fromJson_accepts first
    refine ⟨?_, List.forall_mem_cons.mpr ⟨checked, ih.2⟩⟩
    rw [List.filterMap_cons, read, ih.1, List.map_cons]

/-- What `parse` has checked when it returns. -/
theorem parse_checks (accepted : parseAssets platform body = some response) :
    declaredSizes platform body = response.offers.map (·.size) ∧
      (1 ≤ response.offers.length ∧ response.offers.length ≤ 32) ∧ (response.offers.map (·.id)).Nodup ∧
      wrapLong (response.offers.map (·.size)).sum ≤ 256 * 1024 * 1024 ∧
      ∀ offer ∈ response.offers, 0 ≤ offer.size ∧
        offer.ciphertextSize = wrapLong (offer.size + 16) ∧ Segment offer.id := by
  simp only [parseAssets, bind, Option.bind_eq_some_iff] at accepted
  obtain ⟨assets, found, type, -, transferId, -, files, listed, offers, read, wispId, -, accepted⟩ := accepted
  split_ifs at accepted with checked
  all_goals
    obtain rfl := Option.some.inj accepted
    obtain ⟨-, some_files, few, distinct, bounded⟩ := checked
    have paired := offers_files read
    have object : body.get "assets" = assets := by
      unfold getObject at found
      split_ifs at found
      exact Option.some.inj found
    refine ⟨?_, ⟨?_, ?_⟩, distinct, bounded, fun offer member => ?_⟩
    · rw [declaredSizes, declaredFiles, object, listed, Option.getD_some, (sizes_read paired).1]
    · rwa [← paired.length_eq]
    · rwa [← paired.length_eq]
    · exact (sizes_read paired).2 offer member

end Offers

/-! ## The result -/

/-- Each of some sizes that are not negative is at most their sum. -/
theorem size_le_sum {offers : List InboundAssetOffer} (positive : ∀ offer ∈ offers, 0 ≤ offer.size)
    {offer : InboundAssetOffer} (member : offer ∈ offers) : offer.size ≤ (offers.map (·.size)).sum :=
  List.single_le_sum (List.forall_mem_map.mpr positive) _ (List.mem_map_of_mem member)

/-- A response that is returned is exact if and only if the declared sizes sum to less than `2 ^ 63`. -/
theorem assets_exact_iff (platform : Platform) (body : Json) (response : InboundAssetResponse)
    (accepted : parseAssets platform body = some response) :
    Exact response.offers ↔ (declaredSizes platform body).sum < 2 ^ 63 := by
  obtain ⟨sizes, count, distinct, bounded, each⟩ := parse_checks accepted
  have positive : ∀ offer ∈ response.offers, 0 ≤ offer.size := fun offer member => (each offer member).1
  rw [sizes]
  constructor
  · intro exact'
    have small := exact'.bounded
    omega
  · intro small
    have total : 0 ≤ (response.offers.map (·.size)).sum := List.sum_nonneg (List.forall_mem_map.mpr positive)
    rw [wrapLong_of_range (by omega) small] at bounded
    refine ⟨count, bounded, fun offer member => ?_, distinct, fun offer member => (each offer member).2.2⟩
    have below := size_le_sum positive member
    have above := positive offer member
    rw [(each offer member).2.1, wrapLong_of_range (by omega) (by omega)]

/-- A response with two assets of one size. -/
def twoAssets (size : ℤ) : Json :=
  let file (id : String) : Json := .obj [("id", .str id), ("name", .str "a"), ("size", .int size),
    ("bulk", .obj [("algorithm", .str "SESSION-A256GCM-v2"), ("nonce", .str "n"), ("ciphertext_size", .int (size + 16))])]
  .obj [("wisp_id", .str "qr"), ("assets", .obj [("type", .str "begin"), ("transfer_id", .str "t"),
    ("files", .arr [file "a", file "b"])])]

theorem assets_exact_small : ∃ response, parseAssets AssetManifest.plainPlatform (twoAssets 3) = some response ∧
    Exact response.offers := by
  have accepted : (parseAssets AssetManifest.plainPlatform (twoAssets 3)).isSome = true := by decide
  obtain ⟨response, accepted⟩ := Option.isSome_iff_exists.mp accepted
  exact ⟨response, accepted, (assets_exact_iff _ _ response accepted).mpr (by decide)⟩

/-- Two assets of `2 ^ 62` bytes each are let through. -/
theorem assets_wrap : ¬ ∀ (platform : Platform) (body : Json) (response : InboundAssetResponse),
    parseAssets platform body = some response → Exact response.offers := by
  intro claim
  have accepted : (parseAssets AssetManifest.plainPlatform (twoAssets (2 ^ 62))).any
      (fun response => decide (256 * 1024 * 1024 < (response.offers.map (·.size)).sum)) = true := by decide
  cases parsed : parseAssets AssetManifest.plainPlatform (twoAssets (2 ^ 62)) with
  | none =>
    rw [parsed] at accepted
    cases accepted
  | some response =>
    rw [parsed] at accepted
    have small := (claim _ _ response parsed).bounded
    have large : 256 * 1024 * 1024 < (response.offers.map (·.size)).sum := of_decide_eq_true accepted
    omega

end WispGate.Soundness.AssetSizes
