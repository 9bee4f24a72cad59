import WispGate.Soundness.Staging
import WispGate.Soundness.UploadPairing

/-! # What was staged is accepted

Three validators check the same limits. The stager counts the UTF-16 units of a text and asks for a
character that is not blank, the Wisp counts code points and asks for a character, and the relay checks the
length of a connection. What the first of them hands over in full passes the other two.
-/

namespace WispGate.Soundness.Handover

open Data Model Model.Android Model.Relay Model.Wisp Model.Upload Staging UploadPairing

/-! ## Texts -/

/-- A code point takes at least one unit. -/
theorem length_le_units (text : String) : text.length ≤ units text := by
  have each : ∀ chars : List Char, chars.length ≤ (chars.map fun c => if c.toNat < 0x10000 then 1 else 2).sum := by
    intro chars
    induction chars with
    | nil => exact Nat.zero_le _
    | cons c rest ih =>
      simp only [List.length_cons, List.map_cons, List.sum_cons]
      split <;> omega
  exact each text.toList

theorem ne_empty_of_isNotBlank {platform : Platform} {text : String} (visible : platform.isNotBlank text = true) :
    text ≠ "" := by
  rintro rfl
  cases visible

theorem b64_ne_empty {data : Bytes} (some : data ≠ []) : b64 data ≠ "" := by
  intro empty
  have read := unb64_b64 data
  rw [empty, show "" = b64 [] from rfl, unb64_b64] at read
  exact some (Except.ok.inj read).symm

/-- What the Wisp asks of the texts of a manifest. -/
structure Presentable (upload : PreparedBulkUpload) : Prop where
  id : upload.file.id ≠ "" ∧ upload.file.id.length ≤ 128
  field : upload.file.field ≠ "" ∧ upload.file.field.length ≤ 128
  name : upload.file.name ≠ "" ∧ upload.file.name.length ≤ 512
  contentType : upload.file.contentType.length ≤ 128
  nonce : upload.nonce ≠ ""

/-- Units bound code points, and a text that is not blank is not empty. -/
theorem presentable {texts : Texts} {file : StagingUpload} (admitted : Admitted texts file) {upload : PreparedBulkUpload}
    {nonce : Bytes} (same : upload.file = ⟨file.id, file.field, file.name, file.contentType, file.bytes⟩)
    (drawn : upload.nonce = b64 nonce) (sized : nonce.length = 12) : Presentable upload := by
  have some : nonce ≠ [] := by
    rintro rfl
    cases sized
  obtain ⟨⟨id, idUnits⟩, ⟨field, fieldUnits⟩, ⟨name, nameUnits⟩, contentType⟩ := admitted
  constructor
  · exact same ▸ ⟨ne_empty_of_isNotBlank id, (length_le_units _).trans idUnits⟩
  · exact same ▸ ⟨ne_empty_of_isNotBlank field, (length_le_units _).trans fieldUnits⟩
  · exact same ▸ ⟨ne_empty_of_isNotBlank name, (length_le_units _).trans nameUnits⟩
  · exact same ▸ (length_le_units _).trans contentType
  · exact drawn ▸ b64_ne_empty some

/-! ## Acceptance -/

section Acceptance

variable {printable : Char → Bool} {reserved total : ℕ} {files : Dict String IncomingFile} {index : ℕ}

/-- A presentable file with a new id, for which there is room. -/
theorem acceptManifest_ok {upload : PreparedBulkUpload} (presentable : Presentable upload)
    (fresh : files.contains upload.file.id = false) (room : reserved + (total + upload.file.size) ≤ maxFileActionBytes) :
    acceptManifest printable reserved total files index (manifestOf upload) = .ok (announced index upload) := by
  obtain ⟨⟨id, idLength⟩, ⟨field, fieldLength⟩, ⟨name, nameLength⟩, contentType, nonce⟩ := presentable
  have algorithm : ((manifestOf upload).get "bulk").get "algorithm" = .str "SESSION-A256GCM-v2" := rfl
  have text : ((manifestOf upload).get "bulk").get "nonce" = .str upload.nonce := rfl
  have size : ((manifestOf upload).get "bulk").get "ciphertext_size" = .int upload.ciphertextSize := rfl
  refine FileActions.acceptManifest_ok_iff.mpr ⟨rfl, rfl, ⟨id, idLength⟩, fresh, ⟨field, fieldLength⟩, ⟨name, nameLength⟩,
    contentType, rfl, room, rfl, ?_, ?_, ?_⟩
  · change (((manifestOf upload).get "bulk").get "algorithm").pyEq _ = true
    rw [algorithm]
    rfl
  · change (((manifestOf upload).get "bulk").get "nonce").isStr = true ∧
      (((manifestOf upload).get "bulk").get "nonce").truthy = true
    rw [text]
    exact ⟨rfl, decide_eq_true nonce⟩
  · change (((manifestOf upload).get "bulk").get "ciphertext_size").pyEq (.int (upload.file.size + 16)) = true
    rw [size]
    simp [Json.pyEq, Json.number?, PreparedBulkUpload.ciphertextSize]

/-- Files with ids of their own, which fit together, are accepted one after the other. -/
theorem acceptManifests_ok {prepared : List PreparedBulkUpload} (presentable : ∀ upload ∈ prepared, Presentable upload)
    (distinct : (prepared.map (·.file.id)).Nodup)
    (fresh : ∀ upload ∈ prepared, files.contains upload.file.id = false)
    (room : reserved + (total + (prepared.map (·.file.size)).sum) ≤ maxFileActionBytes) :
    ∃ files', acceptManifests printable reserved total files index (prepared.map manifestOf) = .ok files' := by
  induction prepared generalizing total files index with
  | nil => exact ⟨files, rfl⟩
  | cons upload rest ih =>
    simp only [List.map_cons, List.sum_cons, List.nodup_cons] at distinct room
    have taken : acceptManifest printable reserved total files index (manifestOf upload) = .ok (announced index upload) :=
      acceptManifest_ok (presentable upload List.mem_cons_self) (fresh upload List.mem_cons_self) (by omega)
    simp only [List.map_cons, acceptManifests, taken]
    refine ih (fun other among => presentable other (List.mem_cons_of_mem _ among)) distinct.2 ?_ ?_
    · intro other among
      have apart : upload.file.id ≠ other.file.id := by
        intro same
        exact distinct.1 (List.mem_map.mpr ⟨other, among, same.symm⟩)
      have before := fresh other (List.mem_cons_of_mem _ among)
      rw [Dict.contains_eq_false_iff] at before ⊢
      exact (Dict.get?_insert_of_ne _ _ apart).trans before
    · have size : (announced index upload).size = upload.file.size := rfl
      omega

/-- A file action whose transfer id is new is accepted from a peer that has room for it. -/
theorem beginFileAction_ok {t : Tables} {sender wisp : String} {action : StagedFileAction}
    {prepared : List PreparedBulkUpload} {now : ℕ} (named : action.transferId ≠ "") (some : prepared ≠ [])
    (object : action.actionData.isObj = true) (few : prepared.length ≤ maxFilesPerAction)
    (unused : t.transfers.contains (sender, action.transferId) = false)
    (active : (t.transfers.keys.filter fun key => key.1 = sender).length < maxActiveTransfersPerSender)
    (accepted : ∃ files, acceptManifests printable (t.transfers.values.map Transfer.bytes).sum 0 .empty 0
      (prepared.map manifestOf) = .ok files) :
    ∃ transfer response, beginFileAction printable t sender wisp (beginBody wisp action prepared) now =
      .ok ({ t with transfers := t.transfers.insert (sender, action.transferId) transfer }, response) := by
  obtain ⟨files, accepted⟩ := accepted
  refine ⟨_, _, FileActions.beginFileAction_ok_iff.mpr ⟨prepared.map manifestOf, files, ⟨rfl, named, ?_, object, ?_, unused,
    active, accepted⟩, rfl, rfl⟩⟩
  · exact fun none => some (List.map_eq_nil_iff.mp none)
  · rwa [List.length_map]

end Acceptance

/-! ## What was prepared -/

/-- What a manifest says of a file: its texts, its size, its nonce and the size of its ciphertext. -/
structure Announcement where
  id : String
  field : String
  name : String
  contentType : String
  size : ℤ
  nonce : Json
  ciphertextSize : Json

/-- A staged file, with the nonce that is drawn for it. -/
def Announcement.ofStaged (drawn : StagingUpload × Bytes) : Announcement :=
  ⟨drawn.1.id, drawn.1.field, drawn.1.name, drawn.1.contentType, drawn.1.size, .str (b64 drawn.2),
    .int (drawn.1.size + 16)⟩

def Announcement.ofIncoming (file : IncomingFile) : Announcement :=
  ⟨file.id, file.field, file.name, file.contentType, file.size, file.bulk.get "nonce", file.bulk.get "ciphertext_size"⟩

/-- What Android prepares of a complete action in the session that the Wisp knows from the other side. -/
def preparedIn (session : PeerSession) (sessionKey : Bytes) (action : StagingAction) (nonces : List Bytes) :
    List PreparedBulkUpload :=
  prepare session.peerId session.localId session.sessionId sessionKey action.transferId action.handedOver.files nonces

/-- The upload that is prepared from a staged file. -/
def uploadOf (session : PeerSession) (sessionKey : Bytes) (transferId : String) (drawn : StagingUpload × Bytes) :
    PreparedBulkUpload :=
  ⟨⟨drawn.1.id, drawn.1.field, drawn.1.name, drawn.1.contentType, drawn.1.bytes⟩, session.peerId, session.localId,
    session.sessionId, transferId, b64 drawn.2, sessionKey⟩

section Prepared

variable {texts : Texts} {session : PeerSession} {sessionKey : Bytes} {action : StagingAction} {nonces : List Bytes}

theorem preparedIn_eq : preparedIn session sessionKey action nonces =
    (action.files.zip nonces).map (uploadOf session sessionKey action.transferId) := by
  unfold preparedIn prepare StagingAction.handedOver
  rw [List.zipWith_map_left, List.map_zip_eq_zipWith]
  rfl

/-- What depends on the staged files alone. -/
theorem map_preparedIn {α : Type} (trait : PreparedBulkUpload → α) (original : StagingUpload → α)
    (drawn : nonces.length = action.files.length)
    (same : ∀ pair, trait (uploadOf session sessionKey action.transferId pair) = original pair.1) :
    (preparedIn session sessionKey action nonces).map trait = action.files.map original := by
  have staged : (action.files.zip nonces).map Prod.fst = action.files := List.map_fst_zip drawn.ge
  calc (preparedIn session sessionKey action nonces).map trait
      = ((action.files.zip nonces).map Prod.fst).map original := by
        rw [preparedIn_eq, List.map_map, List.map_map]
        exact List.map_congr_left fun pair _ => same pair
    _ = action.files.map original := by rw [staged]

/-- A complete file is as long as it was declared. -/
theorem length_of_complete (whole : StagedAction texts action) (all : ∀ file ∈ action.files, file.received = file.size)
    {file : StagingUpload} (mem : file ∈ action.files) : (file.bytes.length : ℤ) = file.size := by
  obtain ⟨-, length⟩ := (whole.files file mem).complete (all file mem)
  have nonneg := (whole.files file mem).size_nonneg
  omega

theorem presentable_preparedIn (whole : StagedAction texts action) (sized : ∀ nonce ∈ nonces, nonce.length = 12)
    {upload : PreparedBulkUpload} (among : upload ∈ preparedIn session sessionKey action nonces) :
    Presentable upload := by
  rw [preparedIn_eq] at among
  obtain ⟨⟨file, nonce⟩, paired, rfl⟩ := List.mem_map.mp among
  obtain ⟨staged, drawn⟩ := List.of_mem_zip paired
  exact presentable (whole.admitted file staged) rfl rfl (sized nonce drawn)

/-- The bytes that are sent are those that were declared. -/
theorem sum_preparedIn (whole : StagedAction texts action) (all : ∀ file ∈ action.files, file.received = file.size)
    (drawn : nonces.length = action.files.length) :
    ((preparedIn session sessionKey action nonces).map (·.file.size)).sum = declared action := by
  rw [map_preparedIn (·.file.size) (fun file => file.bytes.length) drawn fun _ => rfl, declared]
  refine congrArg List.sum (List.map_congr_left fun file mem => ?_)
  have length := length_of_complete whole all mem
  omega

/-- What the Wisp registers says of each file what its manifest said. -/
theorem registered_preparedIn (whole : StagedAction texts action)
    (all : ∀ file ∈ action.files, file.received = file.size) :
    ((preparedIn session sessionKey action nonces).mapIdx announced).map Announcement.ofIncoming =
      (action.files.zip nonces).map Announcement.ofStaged := by
  rw [preparedIn_eq]
  refine List.ext_getElem? fun index => ?_
  simp only [List.getElem?_map, List.getElem?_mapIdx, Option.map_map]
  cases found : (action.files.zip nonces)[index]? with
  | none => rfl
  | some pair =>
    have mem : pair.1 ∈ action.files := (List.of_mem_zip (List.mem_of_getElem? found)).1
    have length := length_of_complete whole all mem
    simp only [Option.map_some, Function.comp_apply, Option.some.injEq, Announcement.ofIncoming, Announcement.ofStaged,
      Announcement.mk.injEq]
    refine ⟨rfl, rfl, rfl, rfl, length, rfl, ?_⟩
    exact congrArg (fun size : ℤ => Json.int (size + 16)) length

end Prepared

/-! ## Connections -/

/-- A session between two clients, under a name. -/
structure Identified (session : PeerSession) : Prop where
  sessionId : session.sessionId ≠ ""
  peerId : session.peerId ≠ ""
  localId : session.localId ≠ ""
  apart : session.peerId ≠ session.localId

/-- The length in a header is one the relay takes. -/
def LengthAllowed (header : Json) : Prop :=
  ∃ length, (header.get "length").asInt? = some length ∧ 16 ≤ length ∧ length ≤ maxBulkBytes

section Connections

variable {session : PeerSession} {sessionKey : Bytes} {action : StagingAction} {nonces : List Bytes} {transfer : Transfer}

/-- The loops of both sides, for a transfer that was registered. -/
def jobOf (session : PeerSession) (sessionKey : Bytes) (action : StagingAction) (nonces : List Bytes)
    (transfer : Transfer) : Job :=
  ⟨preparedIn session sessionKey action nonces, session.localId, action.transferId, transfer, session⟩

/-- Both headers of a file carry the size of its ciphertext. -/
theorem header_jobOf (sender : transfer.sender = session.peerId)
    (values : transfer.files.values = (preparedIn session sessionKey action nonces).mapIdx announced) {label : Label}
    {header : Json} (sent : State.header (jobOf session sessionKey action nonces transfer) label = some header) :
    ∃ upload ∈ preparedIn session sessionKey action nonces, ∃ role one other, (role = "sender" ∨ role = "receiver") ∧
      ((one = session.peerId ∧ other = session.localId) ∨ (one = session.localId ∧ other = session.peerId)) ∧
      header = writeConnect role session.sessionId action.transferId one other (.int (upload.file.size + 16 : ℕ)) := by
  obtain ⟨side, index⟩ := label
  cases side with
  | android =>
    obtain ⟨upload, found, rfl⟩ := Option.map_eq_some_iff.mp sent
    have among : upload ∈ preparedIn session sessionKey action nonces := List.mem_of_getElem? found
    have origin := among
    rw [preparedIn_eq] at origin
    obtain ⟨pair, -, rfl⟩ := List.mem_map.mp origin
    exact ⟨_, among, "sender", session.peerId, session.localId, .inl rfl, .inl ⟨rfl, rfl⟩, rfl⟩
  | wisp =>
    obtain ⟨file, found, rfl⟩ := Option.map_eq_some_iff.mp sent
    have listed : ((preparedIn session sessionKey action nonces).mapIdx announced)[index]? = some file := values ▸ found
    rw [List.getElem?_mapIdx] at listed
    obtain ⟨upload, place, rfl⟩ := Option.map_eq_some_iff.mp listed
    refine ⟨upload, List.mem_of_getElem? place, "receiver", session.localId, session.peerId,
      .inr rfl, .inr ⟨rfl, rfl⟩, ?_⟩
    simp only [jobOf, sender]
    rfl

theorem header_allowed {upload : PreparedBulkUpload} {role one other : String}
    (small : upload.file.size ≤ maxFileActionBytes) :
    LengthAllowed (writeConnect role session.sessionId action.transferId one other
      (.int (upload.file.size + 16 : ℕ))) := by
  refine ⟨((upload.file.size + 16 : ℕ) : ℤ), rfl, by omega, ?_⟩
  simp only [maxFileActionBytes] at small
  simp only [maxBulkBytes]
  omega

end Connections

/-! ## The result -/

/-- A file action that was staged in full is accepted where there is room for it, with its files as they
were staged, and the relay takes the headers of both sides. -/
theorem handover (texts : Texts) (printable : Char → Bool) {s : Stager}
    (reach : Reach (Stager.step texts) anyStep Stager.Initial s) {action : StagingAction} (handed : action ∈ s.completed)
    (session : PeerSession) (sessionKey : Bytes) {nonces : List Bytes} (drawn : nonces.length = action.files.length)
    (sized : ∀ nonce ∈ nonces, nonce.length = 12) {t : Tables} (wisp : String) (now : ℕ)
    (unused : t.transfers.contains (session.peerId, action.transferId) = false)
    (active : (t.transfers.keys.filter fun key => key.1 = session.peerId).length < maxActiveTransfersPerSender)
    (room : (t.transfers.values.map Transfer.bytes).sum + declared action ≤ maxFileActionBytes) :
    (preparedIn session sessionKey action nonces).map (·.file.id) = action.handedOver.files.map (·.id) ∧
    ∃ transfer response, beginFileAction printable t session.peerId wisp
        (beginBody wisp action.handedOver (preparedIn session sessionKey action nonces)) now =
          .ok ({ t with transfers := t.transfers.insert (session.peerId, action.transferId) transfer }, response) ∧
      transfer.files.values.map Announcement.ofIncoming = (action.files.zip nonces).map Announcement.ofStaged ∧
      ∀ label header, State.header (jobOf session sessionKey action nonces transfer) label = some header →
        LengthAllowed header ∧
          (Identified session → ∃ key connection, BulkTables.readHeader label header = .ok (key, connection)) := by
  obtain ⟨-, whole, all⟩ := (reach_staged reach).handed action handed
  have named : action.transferId ≠ "" := by
    intro empty
    have length := whole.named
    rw [empty] at length
    cases length
  have count : (preparedIn session sessionKey action nonces).length = action.files.length := by
    rw [preparedIn_eq, List.length_map, List.length_zip, drawn, Nat.min_self]
  have some : preparedIn session sessionKey action nonces ≠ [] := by
    intro none
    have nonempty := whole.nonempty
    rw [none] at count
    simp only [List.length_nil] at count
    omega
  have ids : (preparedIn session sessionKey action nonces).map (·.file.id) = action.files.map (·.id) :=
    map_preparedIn _ _ drawn fun _ => rfl
  have taken : ∃ files, acceptManifests printable (t.transfers.values.map Transfer.bytes).sum 0 .empty 0
      ((preparedIn session sessionKey action nonces).map manifestOf) = .ok files := by
    refine acceptManifests_ok (fun upload among => presentable_preparedIn whole sized among) (ids ▸ whole.distinct)
      (fun _ _ => rfl) ?_
    rwa [sum_preparedIn whole all drawn, Nat.zero_add]
  have begun : ∃ transfer response, beginFileAction printable t session.peerId wisp
      (beginBody wisp action.handedOver (preparedIn session sessionKey action nonces)) now =
        .ok ({ t with transfers := t.transfers.insert (session.peerId, action.transferId) transfer }, response) :=
    beginFileAction_ok named some whole.object (count ▸ whole.few) unused active taken
  obtain ⟨transfer, response, begun⟩ := begun
  obtain ⟨sender, values, -, -, small⟩ := beginFileAction_transfer begun (Dict.get?_insert_self ..)
  refine ⟨by rw [ids, StagingAction.handedOver, List.map_map]; rfl, transfer, response, begun,
    values ▸ registered_preparedIn whole all, fun label header sent => ?_⟩
  obtain ⟨upload, among, role, one, other, roles, ends, rfl⟩ := header_jobOf sender values sent
  refine ⟨header_allowed (small upload among), fun identified => ⟨_, _, readHeader_writeConnect roles identified.sessionId
    named ?_ ?_ ?_ (Nat.le_add_left ..) (Nat.add_le_add_right (small upload among) 16)⟩⟩
  · rcases ends with ⟨rfl, -⟩ | ⟨rfl, -⟩
    · exact identified.peerId
    · exact identified.localId
  · rcases ends with ⟨-, rfl⟩ | ⟨-, rfl⟩
    · exact identified.localId
    · exact identified.peerId
  · rcases ends with ⟨rfl, rfl⟩ | ⟨rfl, rfl⟩
    · exact identified.apart
    · exact identified.apart.symm

section Samples

/-- What is handed over at the end of `stagedRun`. -/
def sampleHanded : StagingAction :=
  ⟨sampleUuid, .obj [], [⟨"f", "file", "x.bin", "application/octet-stream", 2, 2, [97, 97], [[97], [97]]⟩]⟩

def sampleNonces : List Bytes := [List.replicate 12 0]

theorem handover_staged : ∃ transfer response, beginFileAction (fun _ => true) {} "phone" "notes" (beginBody "notes"
      sampleHanded.handedOver (preparedIn (sampleSide "wisp" "phone" false) [] sampleHanded sampleNonces)) 0 =
        .ok (({ transfers := Dict.empty.insert ("phone", sampleUuid) transfer } : Tables), response) ∧
    transfer.files.values.map Announcement.ofIncoming =
      (sampleHanded.files.zip sampleNonces).map Announcement.ofStaged := by
  have ran : (replay (Stager.step sampleTexts) {} stagedRun).isSome = true := by decide
  have initial : Stager.Initial {} := ⟨rfl, rfl, rfl, rfl⟩
  have handed : sampleHanded ∈ ((replay (Stager.step sampleTexts) {} stagedRun).getD {}).completed := by decide
  have sized : ∀ nonce ∈ sampleNonces, nonce.length = 12 := by decide
  have active : (({} : Tables).transfers.keys.filter fun key =>
    key.1 = "phone").length < maxActiveTransfersPerSender := by
    decide
  have room : (({} : Tables).transfers.values.map Transfer.bytes).sum + declared sampleHanded ≤ maxFileActionBytes := by
    decide
  obtain ⟨-, transfer, response, begun, registered, -⟩ := handover sampleTexts (fun _ => true)
    (Reach.of_defined initial ran) handed (sampleSide "wisp" "phone" false) [] rfl sized "notes" 0 rfl active room
  exact ⟨transfer, response, begun, registered⟩

end Samples

end WispGate.Soundness.Handover
