import WispGate.Model.Wisp.Operations

/-! # What a file action must be

The checks of `_begin_file_action`, on the body and on one manifest, each said once for both directions.
-/

namespace WispGate.Soundness.FileActions

open Data Model Model.Wisp

variable {printable : Char → Bool}

section Manifests

variable {reserved total : ℕ} {files : Dict String IncomingFile} {index : ℕ} {manifest : Json} {file : IncomingFile}

/-- A manifest that is accepted with a size, after the files so far. -/
structure Acceptable (printable : Char → Bool) (reserved total : ℕ) (files : Dict String IncomingFile) (manifest : Json)
    (file : IncomingFile) : Prop where
  object : manifest.isObj = true
  id : file.id ≠ "" ∧ file.id.length ≤ 128
  fresh : files.contains file.id = false
  field : file.field ≠ "" ∧ file.field.length ≤ 128
  name : file.name ≠ "" ∧ file.name.length ≤ 512
  contentType : file.contentType.length ≤ 128
  size : (manifest.get "size").asInt? = some (.ofNat file.size)
  room : reserved + (total + file.size) ≤ maxFileActionBytes
  bulk : file.bulk.isObj = true
  algorithm : (file.bulk.get "algorithm").pyEq (.str "SESSION-A256GCM-v2") = true
  nonce : (file.bulk.get "nonce").isStr = true ∧ (file.bulk.get "nonce").truthy = true
  ciphertextSize : (file.bulk.get "ciphertext_size").pyEq (.int (file.size + 16)) = true

/-- The file that a manifest describes, of a size. -/
def described (printable : Char → Bool) (index : ℕ) (manifest : Json) (size : ℕ) : IncomingFile where
  id := (manifest.getD "id" (.str "")).display printable
  field := (manifest.getD "field" (.str "")).display printable
  name := (manifest.getD "name" (.str "")).display printable
  contentType := (manifest.getD "content_type" (.str "application/octet-stream")).display printable
  size := size
  path := toString index ++ ".upload"
  received := 0
  bulk := manifest.get "bulk"

theorem acceptManifest_ok_iff : acceptManifest printable reserved total files index manifest = .ok file ↔
    file = described printable index manifest file.size ∧
      Acceptable printable reserved total files manifest file := by
  constructor
  · intro accepted
    unfold acceptManifest at accepted
    dsimp only at accepted
    split at accepted
    · cases accepted
    rename_i object
    split at accepted
    · cases accepted
    rename_i texts
    split at accepted
    · rename_i size read
      split at accepted
      · cases accepted
      rename_i room
      split at accepted
      · cases accepted
      rename_i bulk
      split at accepted
      · cases accepted
      rename_i metadata
      cases accepted
      simp only [not_or, not_lt, Bool.not_eq_true, Bool.not_eq_false] at texts metadata
      obtain ⟨id, idLength, fresh, field, fieldLength, name, nameLength, contentType⟩ := texts
      obtain ⟨algorithm, isText, nonempty, ciphertextSize⟩ := metadata
      exact ⟨rfl, not_not.mp object, ⟨id, idLength⟩, fresh, ⟨field, fieldLength⟩, ⟨name, nameLength⟩, contentType, read,
        not_lt.mp room, not_not.mp bulk, algorithm, ⟨isText, nonempty⟩, ciphertextSize⟩
    · cases accepted
  · rintro ⟨same, acceptable⟩
    generalize file.size = size at same acceptable
    subst same
    obtain ⟨object, ⟨id, idLength⟩, fresh, ⟨field, fieldLength⟩, ⟨name, nameLength⟩, contentType, read, room, bulk,
      algorithm, ⟨isText, nonempty⟩, ciphertextSize⟩ := acceptable
    dsimp only [described] at id idLength fresh field fieldLength name nameLength contentType
    dsimp only [described] at read room bulk algorithm isText nonempty ciphertextSize
    unfold acceptManifest
    dsimp only
    rw [if_neg (not_not.mpr object), read]
    dsimp only
    rw [if_neg, if_neg (not_lt.mpr room), if_neg (not_not.mpr bulk), if_neg]
    · rfl
    · simp only [not_or, Bool.not_eq_false]
      exact ⟨algorithm, isText, nonempty, ciphertextSize⟩
    · simp only [not_or, not_lt, Bool.not_eq_true]
      exact ⟨id, idLength, fresh, field, fieldLength, name, nameLength, contentType⟩

end Manifests

section Begin

variable {t t' : Tables} {sender wisp : String} {body response : Json} {now : ℕ}

/-- A file action that may begin, with the files that its manifests announce. -/
structure Begins (printable : Char → Bool) (t : Tables) (sender : String) (body : Json) (manifests : List Json)
    (files : Dict String IncomingFile) : Prop where
  listed : (body.get "files").asArr? = some manifests
  named : transferIdOf printable body ≠ ""
  nonempty : manifests ≠ []
  object : (body.getD "action_data" (.obj [])).isObj = true
  few : manifests.length ≤ maxFilesPerAction
  absent : t.transfers.contains (sender, transferIdOf printable body) = false
  room : (t.transfers.keys.filter fun key => key.1 = sender).length < maxActiveTransfersPerSender
  accepted : acceptManifests printable (t.transfers.values.map Transfer.bytes).sum 0 .empty 0 manifests = .ok files

theorem beginFileAction_ok_iff : beginFileAction printable t sender wisp body now = .ok (t', response) ↔
    ∃ manifests files, Begins printable t sender body manifests files ∧
      t' = { t with
        transfers := t.transfers.insert (sender, transferIdOf printable body)
          ⟨sender, wisp, body.getD "action_data" (.obj []), files, now, none⟩ } ∧
      response = transferResponse wisp [("type", .str "ready"), ("transfer_id", .str (transferIdOf printable body))] := by
  constructor
  · intro begun
    unfold beginFileAction at begun
    dsimp only at begun
    split at begun
    · cases begun
    rename_i manifests listed
    split_ifs at begun with unnamed object many active busy
    split at begun
    · cases begun
    rename_i files accepted
    cases begun
    rw [not_or] at unnamed
    exact ⟨manifests, files, ⟨listed, unnamed.1, unnamed.2, object, not_lt.mp many,
      Bool.eq_false_iff.mpr active, not_le.mp busy, accepted⟩, rfl, rfl⟩
  · rintro ⟨manifests, files, ⟨listed, named, nonempty, object, few, absent, room, accepted⟩, rfl, rfl⟩
    unfold beginFileAction
    dsimp only
    rw [listed]
    dsimp only
    rw [if_neg (not_or.mpr ⟨named, nonempty⟩), if_neg (not_not.mpr object), if_neg (not_lt.mpr few),
      if_neg (Bool.eq_false_iff.mp absent), if_neg (not_le.mpr room), accepted]

end Begin

end WispGate.Soundness.FileActions
