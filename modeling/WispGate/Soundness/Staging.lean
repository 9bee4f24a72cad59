import WispGate.Data.Totals
import WispGate.Data.Transition
import WispGate.Model.Android.Stager
import WispGate.Soundness.AssetSizes

/-! # What the stager holds

The stager accounts for the bytes that manifests declare, takes the chunks of a file in order, and hands an
action over once, when all of its files are complete. The bounds keep every sum of `Long`s in range. A call
that is refused leaves nothing behind but the staging directory itself, which `mkdirs` creates on the way
to the first transfer.
-/

namespace WispGate.Soundness.Staging

open Data Model Model.Android

/-! ## Files -/

/-- What was received of a file is what was accepted for it; bytes that a failed write left may follow. -/
structure StagedFile (file : StagingUpload) : Prop where
  counted : file.received = file.chunks.flatten.length
  bounded : file.received ≤ file.size
  content : file.bytes.take file.received.toNat = file.chunks.flatten
  short : file.bytes.length ≤ file.size.toNat

/-- The texts of a manifest that was accepted. -/
structure Admitted (texts : Texts) (file : StagingUpload) : Prop where
  id : texts.platform.isNotBlank file.id = true ∧ units file.id ≤ 128
  field : texts.platform.isNotBlank file.field = true ∧ units file.field ≤ 128
  name : texts.platform.isNotBlank file.name = true ∧ units file.name ≤ 512
  contentType : units file.contentType ≤ 128

/-- The bytes that an action declares. -/
def declared (action : StagingAction) : ℕ := (action.files.map fun file => file.size.toNat).sum

structure StagedAction (texts : Texts) (action : StagingAction) : Prop where
  nonempty : 1 ≤ action.files.length
  few : action.files.length ≤ maxStagedFiles
  distinct : (action.files.map (·.id)).Nodup
  files : ∀ file ∈ action.files, StagedFile file
  admitted : ∀ file ∈ action.files, Admitted texts file
  object : action.actionData.isObj = true
  named : action.transferId.length = 36

section Files

variable {texts : Texts} {file : StagingUpload}

theorem StagedFile.size_nonneg (staged : StagedFile file) : 0 ≤ file.size := by
  have counted := staged.counted
  have bounded := staged.bounded
  omega

/-- A write at the end of what was received. -/
theorem overwrite_take {bytes : Bytes} {offset : ℕ} (inside : offset ≤ bytes.length) (chunk : Bytes) :
    (overwrite bytes offset chunk).take (offset + chunk.length) = bytes.take offset ++ chunk := by
  have front : (bytes.take offset ++ chunk).length = offset + chunk.length := by simp [inside]
  unfold overwrite
  rw [Nat.sub_eq_zero_of_le inside, List.replicate_zero, List.append_nil, ← front]
  exact List.take_left

theorem overwrite_length {bytes : Bytes} {offset : ℕ} (inside : offset ≤ bytes.length) (chunk : Bytes) :
    (overwrite bytes offset chunk).length = max bytes.length (offset + chunk.length) := by
  unfold overwrite
  simp only [List.length_append, List.length_take, List.length_replicate, List.length_drop]
  omega

theorem StagedFile.received_le (staged : StagedFile file) : file.received.toNat ≤ file.bytes.length := by
  have length := congrArg List.length staged.content
  have counted := staged.counted
  rw [List.length_take] at length
  omega

/-- An accepted chunk goes to the end. -/
theorem StagedFile.write (staged : StagedFile file) {chunk : Bytes} (fits : file.received + chunk.length ≤ file.size) :
    StagedFile { file with
      bytes := overwrite file.bytes file.received.toNat chunk
      received := file.received + chunk.length
      chunks := file.chunks ++ [chunk] } := by
  have counted := staged.counted
  have inside := staged.received_le
  have later : (file.received + chunk.length).toNat = file.received.toNat + chunk.length := by omega
  constructor
  · simp only [List.flatten_append, List.flatten_singleton, List.length_append]
    omega
  · exact fits
  · dsimp only
    rw [later, overwrite_take inside, staged.content, List.flatten_append, List.flatten_singleton]
  · dsimp only
    rw [overwrite_length inside]
    have short := staged.short
    omega

/-- A failed write only touches bytes past what was received. -/
theorem StagedFile.failed (staged : StagedFile file) {part : Bytes} (fits : file.received + part.length ≤ file.size) :
    StagedFile { file with bytes := overwrite file.bytes file.received.toNat part } := by
  have counted := staged.counted
  have inside := staged.received_le
  constructor
  · exact staged.counted
  · exact staged.bounded
  · have front := congrArg (List.take file.received.toNat) (overwrite_take inside part)
    rw [List.take_take, Nat.min_eq_left (Nat.le_add_right _ _), List.take_append_of_le_length (by simp [inside]),
      List.take_take, Nat.min_self] at front
    exact front.trans staged.content
  · dsimp only
    rw [overwrite_length inside]
    have short := staged.short
    omega

/-- A complete file has no other bytes. -/
theorem StagedFile.complete (staged : StagedFile file) (all : file.received = file.size) :
    file.bytes = file.chunks.flatten ∧ file.bytes.length = file.size.toNat := by
  have inside := staged.received_le
  have short := staged.short
  rw [all] at inside
  have length : file.bytes.length = file.size.toNat := le_antisymm short inside
  refine ⟨?_, length⟩
  have content := staged.content
  rwa [all, ← length, List.take_length] at content

end Files

/-! ## Longs -/

theorem foldl_wrapLong (numbers : List ℤ) (nonneg : ∀ n ∈ numbers, 0 ≤ n) (start : ℤ) (low : 0 ≤ start)
    (high : start + ((numbers.map Int.toNat).sum : ℕ) < 2 ^ 63) :
    numbers.foldl (fun sum n => wrapLong (sum + n)) start = start + ((numbers.map Int.toNat).sum : ℕ) := by
  induction numbers generalizing start with
  | nil => simp
  | cons n rest ih =>
    rw [List.forall_mem_cons] at nonneg
    simp only [List.map_cons, List.sum_cons, List.foldl_cons] at high ⊢
    rw [AssetSizes.wrapLong_of_range (by omega) (by omega), ih nonneg.2 _ (by omega) (by omega)]
    omega

/-- `sumOf` is exact in the range of a `Long`. -/
theorem sumOf_exact {numbers : List ℤ} (nonneg : ∀ n ∈ numbers, 0 ≤ n)
    (small : ((numbers.map Int.toNat).sum : ℕ) < 2 ^ 63) : sumOf numbers = ((numbers.map Int.toNat).sum : ℕ) := by
  unfold sumOf
  rw [foldl_wrapLong numbers nonneg 0 le_rfl (by omega)]
  omega

/-! ## Manifests -/

section Manifests

variable {texts : Texts} {files files' : List StagingUpload} {file : StagingUpload} {manifest : Json}
  {manifests : List Json} {created : Bool} {taken : ℕ → Bool} {index : ℕ} {reserved total : ℤ}

/-- A file as its manifest announces it, with nothing received. -/
structure Fresh (texts : Texts) (file : StagingUpload) : Prop where
  admitted : Admitted texts file
  size : 0 ≤ file.size
  received : file.received = 0
  bytes : file.bytes = []
  chunks : file.chunks = []

theorem Fresh.staged (fresh : Fresh texts file) : StagedFile file := by
  constructor
  · simp [fresh.received, fresh.chunks]
  · rw [fresh.received]
    exact fresh.size
  · simp [fresh.bytes, fresh.chunks]
  · simp [fresh.bytes]

theorem stageManifest_ok (accepted : stageManifest texts reserved total files created manifest = some file) :
    Fresh texts file ∧ file.id ∉ files.map (·.id) ∧
      file.size ≤ wrapLong (wrapLong (maxStagedBytes - reserved) - total) := by
  unfold stageManifest at accepted
  split at accepted
  · cases accepted
  simp only [bind, Option.bind_eq_some_iff] at accepted
  obtain ⟨id, -, field, -, name, -, size, -, accepted⟩ := accepted
  split_ifs at accepted with checks duplicate room made
  cases accepted
  obtain ⟨id_text, id_short, field_text, field_short, name_text, name_short, type_short, nonneg⟩ := checks
  refine ⟨⟨⟨⟨id_text, id_short⟩, ⟨field_text, field_short⟩, ⟨name_text, name_short⟩, type_short⟩, nonneg, rfl, rfl, rfl⟩,
    ?_, room⟩
  intro taken
  obtain ⟨other, mem, same⟩ := List.mem_map.mp taken
  exact duplicate ⟨other, mem, same⟩

/-- The loop over the manifests keeps the ids apart and the sizes within the bytes that are left. -/
theorem stageManifests_ok (accepted : stageManifests texts reserved taken total files index manifests = some files')
    (fresh : ∀ file ∈ files, Fresh texts file) (distinct : (files.map (·.id)).Nodup) (free : 0 ≤ reserved)
    (counted : total = ((files.map fun file => file.size.toNat).sum : ℕ)) (room : reserved + total ≤ maxStagedBytes) :
    (∀ file ∈ files', Fresh texts file) ∧ (files'.map (·.id)).Nodup ∧ files'.length = files.length + manifests.length ∧
      reserved + ((files'.map fun file => file.size.toNat).sum : ℕ) ≤ maxStagedBytes := by
  induction manifests generalizing total files index with
  | nil =>
    cases accepted
    exact ⟨fresh, distinct, rfl, counted ▸ room⟩
  | cons manifest rest ih =>
    simp only [stageManifests] at accepted
    split at accepted
    · cases accepted
    · rename_i file one
      obtain ⟨announced, other, fits⟩ := stageManifest_ok one
      have nonneg := announced.size
      have max : maxStagedBytes = 268435456 := rfl
      have free' : wrapLong (maxStagedBytes - reserved) = maxStagedBytes - reserved :=
        AssetSizes.wrapLong_of_range (by omega) (by omega)
      have left : wrapLong (maxStagedBytes - reserved - total) = maxStagedBytes - reserved - total :=
        AssetSizes.wrapLong_of_range (by omega) (by omega)
      rw [free', left] at fits
      have next : wrapLong (total + file.size) = total + file.size :=
        AssetSizes.wrapLong_of_range (by omega) (by omega)
      rw [next] at accepted
      have sums : ((files ++ [file]).map fun file => file.size.toNat).sum =
          (files.map fun file => file.size.toNat).sum + file.size.toNat := by simp
      obtain ⟨fresh', distinct', length, bound⟩ := ih accepted
        (fun one mem => (List.mem_append.mp mem).elim (fresh one) fun here => List.mem_singleton.mp here ▸ announced)
        (by
          rw [List.map_append, List.map_singleton]
          exact distinct.append (List.nodup_singleton _) (by simpa using other))
        (by rw [sums]; omega) (by omega)
      refine ⟨fresh', distinct', ?_, bound⟩
      rw [length, List.length_append, List.length_singleton, List.length_cons]
      omega

end Manifests

/-! ## The stager -/

/-- What holds of the stager between two calls. -/
structure Staged (texts : Texts) (s : Stager) : Prop where
  active : s.transfers.size ≤ maxStagedTransfers
  total : (s.transfers.total declared : ℤ) ≤ maxStagedBytes
  staged : ∀ id action, s.transfers.get? id = some action →
    action.transferId = id ∧ id ∈ s.drawn ∧ StagedAction texts action
  handed : ∀ action ∈ s.completed, action.transferId ∈ s.drawn ∧ StagedAction texts action ∧
    ∀ file ∈ action.files, file.received = file.size
  apart : ∀ action ∈ s.completed, s.transfers.get? action.transferId = none
  once : (s.completed.map (·.transferId)).Nodup

section Calls

variable {texts : Texts} {s s' : Stager} {action : StagingAction} {file later : StagingUpload} {transferId : String}

theorem Staged.reserved (staged : Staged texts s) : s.reserved = s.transfers.total declared := by
  have max : maxStagedBytes = 268435456 := rfl
  have bound := staged.total
  have each : ∀ action ∈ s.transfers.values, sumOf (action.files.map (·.size)) = declared action := by
    intro action mem
    obtain ⟨id, found⟩ := (Dict.mem_values_iff _ _).mp mem
    obtain ⟨-, -, whole⟩ := staged.staged id action found
    have below : declared action ≤ s.transfers.total declared :=
      List.single_le_sum (fun _ _ => Nat.zero_le _) _ (List.mem_map.mpr ⟨action, mem, rfl⟩)
    have sums : ((action.files.map (·.size)).map Int.toNat).sum = declared action := by
      simp [declared, List.map_map, Function.comp_def]
    rw [sumOf_exact, sums]
    · intro n listed
      obtain ⟨file, mem, rfl⟩ := List.mem_map.mp listed
      exact (whole.files file mem).size_nonneg
    · rw [sums]
      omega
  have values : s.transfers.values.map (fun action => sumOf (action.files.map (·.size))) =
      s.transfers.values.map fun action => (declared action : ℤ) := List.map_congr_left each
  have sums : ((s.transfers.values.map fun action => (declared action : ℤ)).map Int.toNat).sum =
      s.transfers.total declared := by
    simp [Dict.total, List.map_map, Function.comp_def]
  unfold Stager.reserved
  rw [values, sumOf_exact, sums]
  · intro n listed
    obtain ⟨action, -, rfl⟩ := List.mem_map.mp listed
    exact Int.natCast_nonneg _
  · rw [sums]
    omega

/-- A `begin` that is refused only creates the staging directory; one that is not stages a new action. -/
theorem begin_cases (texts : Texts) (s : Stager) (uuid : String) (disk : BeginDisk) (actionJson manifestJson : String) :
    (∃ drawn root, s.drawn ⊆ drawn ∧ s.begin texts uuid disk actionJson manifestJson =
      ({ s with drawn := drawn, root := root }, .error .refused)) ∨
    ∃ actionData manifests files, texts.object actionJson = some actionData ∧ s.transfers.size < maxStagedTransfers ∧
      1 ≤ manifests.length ∧ manifests.length ≤ maxStagedFiles ∧
      stageManifests texts s.reserved disk.created 0 [] 0 manifests = some files ∧
      s.begin texts uuid disk actionJson manifestJson =
        ({ s with drawn := uuid :: s.drawn, root := true, directories := uuid :: s.directories,
                  transfers := s.transfers.insert uuid ⟨uuid, actionData, files⟩ }, .ok uuid) := by
  unfold Stager.begin
  split
  · exact .inl ⟨s.drawn, s.root, fun _ mem => mem, rfl⟩
  · rename_i room
    split
    · rename_i actionData manifests read listed
      split
      · exact .inl ⟨s.drawn, s.root, fun _ mem => mem, rfl⟩
      · rename_i count
        rw [not_not] at count room
        dsimp only
        split
        · exact .inl ⟨_, _, fun _ mem => List.mem_cons_of_mem _ mem, rfl⟩
        · rename_i made
          split
          · refine .inl ⟨uuid :: s.drawn, s.root || disk.root || disk.mkdirs,
              fun _ mem => List.mem_cons_of_mem _ mem, ?_⟩
            rw [List.erase_cons_head]
          · rename_i files accepted
            have there : (s.root || disk.root || disk.mkdirs) = true := by simp [not_not.mp made]
            refine .inr ⟨actionData, manifests, files, read, room, count.1, count.2, accepted, ?_⟩
            rw [there]
    · exact .inl ⟨s.drawn, s.root, fun _ mem => mem, rfl⟩

/-- Drawing an id changes nothing that is staged. -/
theorem Staged.drawn (staged : Staged texts s) (more : s.drawn ⊆ s'.drawn) (transfers : s'.transfers = s.transfers)
    (completed : s'.completed = s.completed) : Staged texts s' where
  active := transfers ▸ staged.active
  total := transfers ▸ staged.total
  staged id action found := by
    rw [transfers] at found
    obtain ⟨named, known, whole⟩ := staged.staged id action found
    exact ⟨named, more known, whole⟩
  handed action mem := by
    rw [completed] at mem
    obtain ⟨known, whole⟩ := staged.handed action mem
    exact ⟨more known, whole⟩
  apart action mem := by
    rw [completed] at mem
    rw [transfers]
    exact staged.apart action mem
  once := completed ▸ staged.once

theorem begin_staged (staged : Staged texts s) {uuid : String} (fresh : uuid ∉ s.drawn) (named : uuid.length = 36)
    (disk : BeginDisk) (actionJson manifestJson : String) :
    Staged texts (s.begin texts uuid disk actionJson manifestJson).1 := by
  rcases begin_cases texts s uuid disk actionJson manifestJson with ⟨drawn, root, more, refused⟩ |
    ⟨actionData, manifests, files, read, free, some_file, few, accepted, begun⟩
  · rw [refused]
    exact staged.drawn more rfl rfl
  · rw [begun]
    have absent : s.transfers.get? uuid = none := by
      cases found : s.transfers.get? uuid with
      | none => rfl
      | some action => exact absurd (staged.staged uuid action found).2.1 fresh
    have reserved := staged.reserved
    obtain ⟨announced, distinct, length, room⟩ := stageManifests_ok accepted (by simp) List.nodup_nil
      (reserved ▸ Int.natCast_nonneg _) rfl (by have bound := staged.total; omega)
    have count : files.length = manifests.length := by simpa using length
    have whole : StagedAction texts ⟨uuid, actionData, files⟩ :=
      ⟨count ▸ some_file, count ▸ few, distinct, fun file mem => (announced file mem).staged,
        fun file mem => (announced file mem).admitted, texts.object_isObj _ _ read, named⟩
    constructor
    · exact (Dict.size_insert_le _ _ _).trans free
    · dsimp only
      rw [Dict.total_insert absent]
      rw [reserved] at room
      exact_mod_cast room
    · intro id action found
      dsimp only at found
      rw [Dict.get?_insert] at found
      split_ifs at found with here
      · cases found
        exact ⟨here, List.mem_cons.mpr (.inl here.symm), whole⟩
      · obtain ⟨named, known, whole⟩ := staged.staged id action found
        exact ⟨named, List.mem_cons_of_mem _ known, whole⟩
    · intro action mem
      obtain ⟨known, whole⟩ := staged.handed action mem
      exact ⟨List.mem_cons_of_mem _ known, whole⟩
    · intro action mem
      have other : uuid ≠ action.transferId := by
        rintro rfl
        exact fresh (staged.handed action mem).1
      exact (Dict.get?_insert_of_ne _ _ other).trans (staged.apart action mem)
    · exact staged.once

/-! ### Chunks -/

theorem Staged.size_le (staged : Staged texts s) (found : s.transfers.get? transferId = some action)
    (mem : file ∈ action.files) : file.size ≤ maxStagedBytes := by
  have bound := staged.total
  have one : file.size.toNat ≤ declared action :=
    List.single_le_sum (fun _ _ => Nat.zero_le _) _ (List.mem_map.mpr ⟨file, mem, rfl⟩)
  have below : declared action ≤ s.transfers.total declared := List.single_le_sum (fun _ _ => Nat.zero_le _) _
    (List.mem_map.mpr ⟨action, (Dict.mem_values_iff _ _).mpr ⟨transferId, found⟩, rfl⟩)
  omega

/-- An `append` is refused, or its chunk is written where the file ends, whole or in part. -/
theorem append_cases (staged : Staged texts s) (transferId fileId : String) (offset : ℤ) (encoded : String)
    (failed : Option ℕ) :
    s.append texts transferId fileId offset encoded failed = (s, .error .refused) ∨
    ∃ action file chunk, s.transfers.get? transferId = some action ∧ file ∈ action.files ∧ offset = file.received ∧
      texts.decode encoded = some chunk ∧ file.received + chunk.length ≤ file.size ∧
      ((∃ stored, s.append texts transferId fileId offset encoded failed =
        (s.setFile action { file with bytes := overwrite file.bytes file.received.toNat (chunk.take stored) },
          .error .write)) ∨
      s.append texts transferId fileId offset encoded failed = (s.setFile action { file with
        bytes := overwrite file.bytes file.received.toNat chunk
        received := file.received + chunk.length
        chunks := file.chunks ++ [chunk] }, .ok (file.received + chunk.length))) := by
  have max : maxStagedBytes = 268435456 := rfl
  unfold Stager.append
  split
  · exact .inl rfl
  · rename_i action found
    split
    · exact .inl rfl
    · rename_i file named
      have mem := List.mem_of_find?_eq_some named
      split
      · exact .inl rfl
      · rename_i place
        split
        · exact .inl rfl
        · rename_i chunk decoded
          split
          · exact .inl rfl
          · rename_i fits
            obtain ⟨short, fits⟩ := not_not.mp fits
            have size := staged.size_le found mem
            have whole := ((staged.staged _ _ found).2.2).files file mem
            have counted := whole.counted
            have bounded := whole.bounded
            have small : maxStagingChunkBytes = 262144 := rfl
            have sum : wrapLong (file.received + chunk.length) = file.received + chunk.length :=
              AssetSizes.wrapLong_of_range (by omega) (by omega)
            rw [sum] at fits
            refine .inr ⟨action, file, chunk, found, mem, not_not.mp place, decoded, fits, ?_⟩
            split
            · exact .inl ⟨_, rfl⟩
            · dsimp only
              rw [sum]
              exact .inr rfl

/-- Replacing a file keeps what the replacement has in common with it. -/
theorem replaced_map {files : List StagingUpload} {α : Type*} (trait : StagingUpload → α)
    (distinct : (files.map (·.id)).Nodup) (mem : file ∈ files) (named : later.id = file.id)
    (same : trait later = trait file) :
    (files.map fun other => if other.id = later.id then later else other).map trait = files.map trait := by
  rw [List.map_map]
  refine List.map_congr_left fun other listed => ?_
  dsimp only [Function.comp_apply]
  split_ifs with here
  · have this : other = file := List.inj_on_of_nodup_map distinct listed mem (here.trans named)
    rw [same, this]
  · rfl

/-- A file is replaced by what was written of it. -/
theorem setFile_staged (staged : Staged texts s) (found : s.transfers.get? transferId = some action)
    (mem : file ∈ action.files) (named : later.id = file.id) (sized : later.size = file.size)
    (admitted : Admitted texts later) (whole : StagedFile later) : Staged texts (s.setFile action later) := by
  obtain ⟨here, known, original⟩ := staged.staged transferId action found
  have ids := replaced_map (·.id) original.distinct mem named named
  have sizes := replaced_map (fun file => file.size.toNat) original.distinct mem named (by rw [sized])
  have listed : ∀ one ∈ action.files.map (fun other => if other.id = later.id then later else other),
      one = later ∨ one ∈ action.files := by
    intro one inside
    obtain ⟨other, before, rfl⟩ := List.mem_map.mp inside
    split_ifs
    · exact .inl rfl
    · exact .inr before
  have replaced : StagedAction texts { action with
      files := action.files.map fun other => if other.id = later.id then later else other } := by
    constructor
    · simpa using original.nonempty
    · simpa using original.few
    · exact ids ▸ original.distinct
    · intro one inside
      rcases listed one inside with rfl | before
      · exact whole
      · exact original.files one before
    · intro one inside
      rcases listed one inside with rfl | before
      · exact admitted
      · exact original.admitted one before
    · exact original.object
    · exact original.named
  have get : ∀ id, (s.setFile action later).transfers.get? id = if transferId = id then some { action with
      files := action.files.map fun other => if other.id = later.id then later else other }
      else s.transfers.get? id := by
    intro id
    rw [← here]
    exact Dict.get?_insert _ _ _ _
  constructor
  · refine le_of_eq_of_le ?_ staged.active
    exact Dict.size_insert_of_get?_eq_some (here.symm ▸ found) _
  · have fewer : (s.setFile action later).transfers.total declared ≤ s.transfers.total declared := by
      refine Dict.total_le fun id value held => ?_
      rw [get] at held
      split_ifs at held with same
      · cases held
        exact ⟨action, same ▸ found, congrArg List.sum sizes⟩
      · exact ⟨value, held, rfl⟩
    have bound := staged.total
    omega
  · intro id value held
    rw [get] at held
    split_ifs at held with same
    · cases held
      exact ⟨here.trans same, same ▸ known, replaced⟩
    · exact staged.staged id value held
  · exact staged.handed
  · intro done mem
    rw [get, if_neg]
    · exact staged.apart done mem
    · rintro rfl
      rw [staged.apart done mem] at found
      cases found
  · exact staged.once

theorem append_staged (staged : Staged texts s) (transferId fileId : String) (offset : ℤ) (encoded : String)
    (failed : Option ℕ) : Staged texts (s.append texts transferId fileId offset encoded failed).1 := by
  rcases append_cases staged transferId fileId offset encoded failed with refused |
    ⟨action, file, chunk, found, mem, -, -, fits, ⟨stored, wrote⟩ | wrote⟩
  · rw [refused]
    exact staged
  · obtain ⟨-, -, whole⟩ := staged.staged _ _ found
    rw [wrote]
    have part : (chunk.take stored).length ≤ chunk.length := List.length_take_le' _ _
    have texts_ok := whole.admitted file mem
    exact setFile_staged staged found mem rfl rfl ⟨texts_ok.id, texts_ok.field, texts_ok.name, texts_ok.contentType⟩
      ((whole.files file mem).failed (by omega))
  · obtain ⟨-, -, whole⟩ := staged.staged _ _ found
    rw [wrote]
    have texts_ok := whole.admitted file mem
    exact setFile_staged staged found mem rfl rfl ⟨texts_ok.id, texts_ok.field, texts_ok.name, texts_ok.contentType⟩
      ((whole.files file mem).write fits)

/-! ### Ends -/

/-- A transfer is taken out. -/
theorem Staged.erase (staged : Staged texts s) (drawn : s'.drawn = s.drawn)
    (transfers : s'.transfers = s.transfers.erase transferId) (completed : s'.completed = s.completed) :
    Staged texts s' where
  active := by
    rw [transfers]
    exact (Dict.size_filter_le _ _).trans staged.active
  total := by
    have fewer : s'.transfers.total declared ≤ s.transfers.total declared := by
      refine Dict.total_le fun id value held => ?_
      rw [transfers, Dict.get?_erase] at held
      split_ifs at held
      exact ⟨value, held, rfl⟩
    have bound := staged.total
    omega
  staged id value held := by
    rw [transfers, Dict.get?_erase] at held
    split_ifs at held
    rw [drawn]
    exact staged.staged id value held
  handed done mem := by
    rw [completed] at mem
    rw [drawn]
    exact staged.handed done mem
  apart done mem := by
    rw [completed] at mem
    rw [transfers, Dict.get?_erase]
    split_ifs
    · rfl
    · exact staged.apart done mem
  once := completed ▸ staged.once

/-- A complete transfer is handed over. -/
theorem Staged.hand (staged : Staged texts s) (found : s.transfers.get? transferId = some action)
    (all : ∀ file ∈ action.files, file.received = file.size) (drawn : s'.drawn = s.drawn)
    (transfers : s'.transfers = s.transfers.erase transferId) (completed : s'.completed = action :: s.completed) :
    Staged texts s' := by
  obtain ⟨here, known, whole⟩ := staged.staged transferId action found
  have erased : Staged texts { s with transfers := s.transfers.erase transferId } := staged.erase rfl rfl rfl
  constructor
  · exact transfers ▸ erased.active
  · exact transfers ▸ erased.total
  · intro id value held
    rw [transfers] at held
    rw [drawn]
    exact erased.staged id value held
  · intro done mem
    rw [completed] at mem
    rw [drawn]
    rcases List.mem_cons.mp mem with rfl | mem
    · exact ⟨here.symm ▸ known, whole, all⟩
    · exact staged.handed done mem
  · intro done mem
    rw [completed] at mem
    rw [transfers]
    rcases List.mem_cons.mp mem with rfl | mem
    · rw [here]
      exact Dict.get?_erase_self _ _
    · exact erased.apart done mem
  · rw [completed, List.map_cons, List.nodup_cons]
    refine ⟨fun listed => ?_, staged.once⟩
    obtain ⟨done, mem, same⟩ := List.mem_map.mp listed
    have gone := staged.apart done mem
    rw [same, here, found] at gone
    cases gone

/-- A `finish` is refused, or hands a complete action over. -/
theorem finish_cases (s : Stager) (transferId : String) (throws : Bool) :
    s.finish transferId throws = (s, .error .refused) ∨
    ∃ action, s.transfers.get? transferId = some action ∧ (∀ file ∈ action.files, file.received = file.size) ∧
      ((s.finish transferId throws).2 ≠ .error .refused ∧ (s.finish transferId throws).1.drawn = s.drawn ∧
        (s.finish transferId throws).1.transfers = s.transfers.erase transferId ∧
        (s.finish transferId throws).1.completed = action :: s.completed) := by
  unfold Stager.finish
  split
  · exact .inl rfl
  · rename_i action found
    split
    · exact .inl rfl
    · rename_i all
      refine .inr ⟨action, found, by simpa using all, ?_⟩
      dsimp only
      split
      · exact ⟨by simp, rfl, rfl, rfl⟩
      · exact ⟨by simp, rfl, rfl, rfl⟩

theorem step_staged {call : StagerCall} (staged : Staged texts s) (stepped : s.step texts call = some s') :
    Staged texts s' := by
  cases call with
  | begin uuid disk actionJson manifestJson =>
    simp only [Stager.step] at stepped
    split_ifs at stepped with drawn
    cases stepped
    exact begin_staged staged drawn.1 drawn.2 disk actionJson manifestJson
  | append transferId fileId offset encoded failed =>
    cases stepped
    exact append_staged staged transferId fileId offset encoded failed
  | finish transferId throws =>
    cases stepped
    rcases finish_cases s transferId throws with refused | ⟨action, found, all, -, drawn, transfers, completed⟩
    · rw [refused]
      exact staged
    · exact staged.hand found all drawn transfers completed
  | cancel transferId =>
    cases stepped
    unfold Stager.cancel
    split
    · exact staged
    · exact staged.erase rfl rfl rfl
  | cancelAll =>
    cases stepped
    exact ⟨Nat.zero_le _, by simp [Stager.cancelAll, maxStagedBytes], by rintro _ _ ⟨⟩, staged.handed, fun _ _ => rfl, staged.once⟩

theorem initial_staged (initial : Stager.Initial s) : Staged texts s := by
  obtain ⟨transfers, -, -, completed⟩ := initial
  constructor
  · rw [transfers]
    exact Nat.zero_le _
  · rw [transfers]
    decide
  · intro id action found
    rw [transfers] at found
    cases found
  · rw [completed]
    rintro _ ⟨⟩
  · rw [completed]
    rintro _ ⟨⟩
  · rw [completed]
    exact List.nodup_nil

theorem reach_staged (reach : Reach (Stager.step texts) anyStep Stager.Initial s) : Staged texts s :=
  reach.invariant (Staged texts) (fun _ => initial_staged) fun _ _ _ _ staged _ => step_staged staged

end Calls

/-! ## The result -/

/-- The transfers in the stager, and what is in their files. -/
structure Accounted (s : Stager) : Prop where
  active : s.transfers.size ≤ maxStagedTransfers
  total : (s.transfers.total declared : ℤ) ≤ maxStagedBytes
  files : ∀ action ∈ s.transfers.values, 1 ≤ action.files.length ∧ action.files.length ≤ maxStagedFiles ∧
    (action.files.map (·.id)).Nodup ∧ ∀ file ∈ action.files, StagedFile file

/-- The calls of `onComplete`: one for an id, with files that hold all that was accepted for them. -/
structure HandedOver (s : Stager) : Prop where
  once : (s.completed.map (·.transferId)).Nodup
  complete : ∀ action ∈ s.completed, ∀ file ∈ action.files, file.received = file.size ∧
    file.bytes = file.chunks.flatten ∧ file.bytes.length = file.size.toNat

/-- Nothing that is staged changed, and no directory of a transfer is new. -/
structure Untouched (s s' : Stager) : Prop where
  transfers : s'.transfers = s.transfers
  completed : s'.completed = s.completed
  directories : s'.directories = s.directories

/-- What a call that is refused leaves. -/
structure Refusals (texts : Texts) (s : Stager) : Prop where
  begin : ∀ uuid disk actionJson manifestJson s' e,
    s.begin texts uuid disk actionJson manifestJson = (s', .error e) → Untouched s s'
  append : ∀ transferId fileId offset encoded failed s',
    s.append texts transferId fileId offset encoded failed = (s', .error .refused) → s' = s
  finish : ∀ transferId throws s', s.finish transferId throws = (s', .error .refused) → s' = s

/-- Of the calls that are refused, only `begin` touches the disk. -/
theorem Staged.refusals {texts : Texts} {s : Stager} (staged : Staged texts s) : Refusals texts s where
  begin uuid disk actionJson manifestJson s' e refused := by
    rcases begin_cases texts s uuid disk actionJson manifestJson with ⟨drawn, root, more, same⟩ |
      ⟨actionData, manifests, files, -, -, -, -, -, begun⟩
    · cases refused.symm.trans same
      exact ⟨rfl, rfl, rfl⟩
    · cases refused.symm.trans begun
  append transferId fileId offset encoded failed s' refused := by
    rcases append_cases staged transferId fileId offset encoded failed with same |
      ⟨action, file, chunk, -, -, -, -, -, ⟨stored, wrote⟩ | wrote⟩
    · cases refused.symm.trans same
      rfl
    · cases refused.symm.trans wrote
    · cases refused.symm.trans wrote
  finish transferId throws s' refused := by
    rcases finish_cases s transferId throws with same | ⟨action, -, -, accepted, -⟩
    · cases refused.symm.trans same
      rfl
    · rw [refused] at accepted
      exact absurd rfl accepted

section Samples

def sampleUuid : String := "00000000-0000-4000-8000-000000000000"

/-- A manifest of one file of two bytes. -/
def sampleManifest : Json :=
  .obj [("id", .str "f"), ("field", .str "file"), ("name", .str "x.bin"), ("size", .int 2)]

def sampleTexts : Texts where
  platform := AssetManifest.plainPlatform
  object text := if text = "{}" then some (.obj []) else none
  array text := if text = "[..]" then some [sampleManifest] else if text = "[{}]" then some [.obj []] else none
  decode text := if text = "YQ" then some [97] else none
  object_isObj text value read := by
    split_ifs at read
    cases read
    rfl

def sampleDisk : BeginDisk := ⟨true, true, fun _ => true⟩

/-- A file is staged in two chunks, the second one after a write that failed, and handed over. -/
def stagedRun : List StagerCall :=
  [.begin sampleUuid sampleDisk "{}" "[..]", .append sampleUuid "f" 0 "YQ" none, .append sampleUuid "f" 1 "YQ" (some 1),
    .append sampleUuid "f" 1 "YQ" none, .finish sampleUuid false]

end Samples

end WispGate.Soundness.Staging
