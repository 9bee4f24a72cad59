import WispGate.Data.Custody
import WispGate.Data.Pieces
import WispGate.Model.Android.SubmitForm
import WispGate.Soundness.Staging

/-! # What becomes of a form with files

A submission stages exactly the files of its form, whatever else the page does to the stager in between: its
offsets are the bytes that were received, and its chunks fit. It only fails when a chunk cannot be read or
written or its transfer is cancelled, and then nothing of it is staged or handed over.
-/

namespace WispGate.Soundness.FormSubmission

open Data Model Model.Android Model.Android.WispHtmlRuntime Staging

/-! ## Chunks as texts -/

section Encoding

theorem binary_eq (bytes : Bytes) (i : ℕ) : binary bytes i = bytes.drop i := by
  induction rest : bytes.length - i using Nat.strongRecOn generalizing i with
  | ind n ih =>
    rw [binary]
    have size : block = 8192 := rfl
    split_ifs with inside
    · rw [ih (bytes.length - (i + block)) (by omega) (i + block) rfl, ← List.drop_drop, List.take_append_drop]
    · exact (List.drop_eq_nil_of_le (by omega)).symm

def urlSafe (c : Char) : Char :=
  let c := if c = '+' then '-' else c
  if c = '/' then '_' else c

theorem urlSafe_digit {n : ℕ} (bound : n < 64) : urlSafe (digit n) = Base64.digit n := by
  interval_cases n <;> decide

theorem urlSafe_btoa (bytes : Bytes) :
    ∃ pads, (btoa bytes).map urlSafe = Base64.encode bytes ++ List.replicate pads '=' := by
  induction bytes using Base64.triples with
  | three a b c rest ih =>
    obtain ⟨pads, same⟩ := ih
    have la := a.toNat_lt
    have lb := b.toNat_lt
    have lc := c.toNat_lt
    refine ⟨pads, ?_⟩
    rw [btoa, Base64.encode]
    simp only [List.map_cons, List.cons_append, same]
    rw [urlSafe_digit (by omega), urlSafe_digit (by omega), urlSafe_digit (by omega), urlSafe_digit (by omega)]
  | two a b =>
    have la := a.toNat_lt
    have lb := b.toNat_lt
    refine ⟨1, ?_⟩
    rw [btoa, Base64.encode]
    simp only [List.map_cons, List.map_nil]
    rw [urlSafe_digit (by omega), urlSafe_digit (by omega), urlSafe_digit (by omega)]
    rfl
  | one a =>
    have la := a.toNat_lt
    refine ⟨2, ?_⟩
    rw [btoa, Base64.encode]
    simp only [List.map_cons, List.map_nil]
    rw [urlSafe_digit (by omega), urlSafe_digit (by omega)]
    rfl
  | empty => exact ⟨0, rfl⟩

theorem rdropWhile_pads {text : List Char} (clean : ∀ c ∈ text, c ≠ '=') (pads : ℕ) :
    (text ++ List.replicate pads '=').rdropWhile (· == '=') = text := by
  induction pads with
  | zero =>
    rw [List.replicate_zero, List.append_nil, List.rdropWhile_eq_self_iff]
    intro nonempty
    simpa using clean _ (List.getLast_mem nonempty)
  | succ pads ih =>
    rw [List.replicate_succ', ← List.append_assoc, List.rdropWhile_concat_pos _ _ _ (by simp), ih]

/-- The page writes a chunk as the url-safe alphabet without padding. -/
theorem encode_eq (bytes : Bytes) : encode bytes = b64 bytes := by
  obtain ⟨pads, same⟩ := urlSafe_btoa bytes
  unfold encode b64
  dsimp only
  rw [binary_eq, List.drop_zero, List.map_map]
  have unpadded := Base64.encode_avoids (fun n bound => Base64.digit_ne_pad bound) bytes
  exact congrArg String.ofList ((congrArg _ same).trans (rdropWhile_pads unpadded pads))

end Encoding

/-! ## Entries -/

section Entries

/-- The values of a field that are not files. -/
def given (name : String) (entries : List (String × FormValue)) : List Json :=
  entries.filterMap fun entry =>
    if entry.1 = name then
      match entry.2 with
      | .text value => some (.str value)
      | .file file => if file.name ≠ "" then none else some (.obj [])
    else none

/-- What becomes of the values of a field. -/
def gathered : List Json → Option Json
  | [] => none
  | [value] => some value
  | values => some (.arr values)

/-- The files of a form that have a name. -/
def named (entries : List (String × FormValue)) : List (String × FormFile) :=
  entries.filterMap fun entry =>
    match entry.2 with
    | .text _ => none
    | .file file => if file.name ≠ "" then some (entry.1, file) else none

theorem addValue_other (target : Dict String Json) {name other : String} (different : name ≠ other) (value : Json) :
    (addValue target name value).get? other = target.get? other := by
  unfold addValue
  split <;> exact Dict.get?_insert_of_ne _ _ different

/-- A value goes behind those that were gathered. -/
theorem addValue_gathered {target : Dict String Json} {name : String} (ordinary : name ∉ inherited) {values : List Json}
    (single : ∀ value ∈ values, ∀ others, value ≠ .arr others)
    (held : target.get? name = gathered values) (value : Json) :
    (addValue target name value).get? name = gathered (values ++ [value]) := by
  unfold addValue
  rw [held]
  cases values with
  | nil =>
    dsimp only [gathered]
    rw [if_neg ordinary]
    exact Dict.get?_insert_self ..
  | cons first rest =>
    cases rest with
    | nil =>
      have plain := single first List.mem_cons_self
      cases first with
      | arr others => exact absurd rfl (plain others)
      | _ => exact Dict.get?_insert_self ..
    | cons second rest => exact Dict.get?_insert_self ..

/-- The loop over the entries gathers the values of each field, in their order, and lists the files. -/
theorem collect_eq (entries : List (String × FormValue)) (values : Dict String Json) (files : List SelectedFile)
    {name : String} (ordinary : name ∉ inherited) {before : List Json}
    (single : ∀ value ∈ before, ∀ others, value ≠ .arr others) (held : values.get? name = gathered before) :
    (collect entries values files).1.get? name = gathered (before ++ given name entries) := by
  induction entries generalizing values files before with
  | nil => rw [collect, given, List.filterMap_nil, List.append_nil, held]
  | cons entry rest ih =>
    obtain ⟨field, value⟩ := entry
    have add : ∀ json, (∀ others, json ≠ .arr others) → ∀ files,
        given name ((field, value) :: rest) = (if field = name then [json] else []) ++ given name rest →
        (collect rest (addValue values field json) files).1.get? name =
          gathered (before ++ given name ((field, value) :: rest)) := by
      intro json plain files split
      rw [split]
      by_cases same : field = name
      · subst same
        rw [if_pos rfl, ← List.append_assoc]
        refine ih _ _ (fun value mem others => ?_) (addValue_gathered ordinary single held json)
        rcases List.mem_append.mp mem with mem | mem
        · exact single value mem others
        · rw [List.mem_singleton.mp mem]
          exact plain others
      · rw [if_neg same, List.nil_append]
        exact ih _ _ single ((addValue_other values same json).trans held)
    cases value with
    | text text =>
      rw [collect]
      refine add _ (by simp) _ ?_
      by_cases same : field = name
      · simp [given, same]
      · simp [given, same]
    | file file =>
      rw [collect]
      by_cases unnamed : file.name ≠ ""
      · rw [if_pos unnamed, ih _ _ single held]
        by_cases same : field = name
        · simp [given, same, unnamed]
        · simp [given, same]
      · rw [if_neg unnamed]
        rw [not_not] at unnamed
        refine add _ (by simp [FormValue.json]) _ ?_
        by_cases same : field = name
        · simp [given, same, unnamed, FormValue.json]
        · simp [given, same]

theorem collect_files (entries : List (String × FormValue)) (values : Dict String Json) (files : List SelectedFile) :
    (collect entries values files).2.map (fun selected => (selected.field, selected.file)) =
      files.map (fun selected => (selected.field, selected.file)) ++ named entries := by
  induction entries generalizing values files with
  | nil => rw [collect, named, List.filterMap_nil, List.append_nil]
  | cons entry rest ih =>
    obtain ⟨field, value⟩ := entry
    cases value with
    | text text =>
      rw [collect, ih]
      rfl
    | file file =>
      rw [collect]
      by_cases unnamed : file.name ≠ ""
      · rw [if_pos unnamed, ih, List.map_append, List.append_assoc]
        simp [named, unnamed]
      · rw [if_neg unnamed, ih]
        simp [named, unnamed]

end Entries

/-! ## Files -/

section Files

variable {texts : Texts} {reserved total : ℤ} {files files' : List StagingUpload} {file : StagingUpload}
  {selected : SelectedFile} {listed : List SelectedFile} {created : Bool} {taken : ℕ → Bool} {index : ℕ}

/-- A selected file before any of its chunks. -/
def announced (selected : SelectedFile) : StagingUpload :=
  { id := selected.id, field := selected.field, name := selected.file.name, contentType := selected.contentType,
    size := selected.size }

theorem stageManifest_selected
    (accepted : stageManifest texts reserved total files created selected.manifest = some file) :
    file = announced selected := by
  have safe := selected.file.safe
  have size : texts.platform.getLong selected.manifest "size" = some (selected.size : ℤ) := by
    have whole : wrapLong (selected.size : ℤ) = selected.size :=
      AssetSizes.wrapLong_of_range (by unfold SelectedFile.size; omega) (by unfold SelectedFile.size; omega)
    simp [Platform.getLong, SelectedFile.manifest, Json.has, Json.get, Json.lookup, whole]
  have id : texts.platform.getString selected.manifest "id" = some selected.id := rfl
  have field : texts.platform.getString selected.manifest "field" = some selected.field := rfl
  have name : texts.platform.getString selected.manifest "name" = some selected.file.name := rfl
  have type : texts.platform.optString selected.manifest "content_type" "application/octet-stream" =
      selected.contentType := rfl
  unfold stageManifest at accepted
  split at accepted
  · cases accepted
  rw [type] at accepted
  simp only [id, field, name, size, bind, Option.bind_some] at accepted
  split_ifs at accepted
  cases accepted
  rfl

theorem stageManifests_selected (accepted : stageManifests texts reserved taken total files index
    (listed.map (·.manifest)) = some files') : files' = files ++ listed.map announced := by
  induction listed generalizing total files index with
  | nil =>
    cases accepted
    exact (List.append_nil _).symm
  | cons selected rest ih =>
    rw [List.map_cons, stageManifests] at accepted
    split at accepted
    · cases accepted
    · rename_i file one
      obtain rfl := stageManifest_selected one
      rw [ih accepted, List.map_cons, List.append_assoc]
      rfl

/-- What a `begin` that is not refused stages. -/
theorem begin_ok {s stager : Stager} {uuid transferId actionJson manifestJson : String} {disk : BeginDisk}
    (begun : s.begin texts uuid disk actionJson manifestJson = (stager, .ok transferId)) :
    transferId = uuid ∧ ∃ actionData manifests files, texts.object actionJson = some actionData ∧
      texts.array manifestJson = some manifests ∧
      stageManifests texts s.reserved disk.created 0 [] 0 manifests = some files ∧
      stager = { s with
        drawn := uuid :: s.drawn
        root := s.root || disk.root || disk.mkdirs
        directories := uuid :: s.directories
        transfers := s.transfers.insert uuid ⟨uuid, actionData, files⟩ } := by
  unfold Stager.begin at begun
  split at begun
  · cases begun
  · split at begun
    · rename_i actionData manifests read listed
      split at begun
      · cases begun
      · dsimp only at begun
        split at begun
        · cases begun
        · split at begun
          · cases begun
          · rename_i files accepted
            cases begun
            exact ⟨rfl, actionData, manifests, files, read, listed, accepted, rfl⟩
    · cases begun

/-! ### Progress -/

/-- A selected file of which a number of bytes were staged. -/
structure Holds (progress : SelectedFile × ℕ) (file : StagingUpload) : Prop where
  id : file.id = progress.1.id
  field : file.field = progress.1.field
  name : file.name = progress.1.file.name
  contentType : file.contentType = progress.1.contentType
  size : file.size = progress.1.size
  received : file.received = (min progress.2 progress.1.size : ℕ)
  bytes : file.bytes = progress.1.file.content.take progress.2

theorem announced_holds (selected : SelectedFile) : Holds (selected, 0) (announced selected) :=
  ⟨rfl, rfl, rfl, rfl, rfl, by simp [announced], by simp [announced]⟩

/-- The chunk at the end of what was received. -/
def chunkAt (progress : SelectedFile × ℕ) : Bytes := (progress.1.file.content.drop progress.2).take chunkSize

variable {progress : SelectedFile × ℕ}

theorem chunkAt_length (progress : SelectedFile × ℕ) :
    (chunkAt progress).length = min chunkSize (progress.1.size - progress.2) := by
  rw [chunkAt, List.length_take, List.length_drop]
  rfl

/-- A file with its next chunk. -/
def grown (progress : SelectedFile × ℕ) (file : StagingUpload) : StagingUpload :=
  { file with
    bytes := overwrite file.bytes file.received.toNat (chunkAt progress)
    received := wrapLong (file.received + (chunkAt progress).length)
    chunks := file.chunks ++ [chunkAt progress] }

/-- The next chunk is where the file ends, and fits. -/
theorem Holds.fits (holds : Holds progress file) (inside : progress.2 < progress.1.size) :
    file.received = progress.2 ∧ (chunkAt progress).length ≤ maxStagingChunkBytes ∧
      wrapLong (file.received + (chunkAt progress).length) = (min (progress.2 + chunkSize) progress.1.size : ℕ) ∧
      wrapLong (file.received + (chunkAt progress).length) ≤ file.size := by
  have safe := progress.1.file.safe
  have total : progress.1.size = progress.1.file.content.length := rfl
  have received : file.received = progress.2 := by
    rw [holds.received]
    omega
  have length := chunkAt_length progress
  have small : maxStagingChunkBytes = chunkSize := rfl
  have sum : wrapLong (file.received + (chunkAt progress).length) =
    (min (progress.2 + chunkSize) progress.1.size : ℕ) := by
    rw [AssetSizes.wrapLong_of_range (by omega) (by omega), received, length]
    omega
  refine ⟨received, by omega, sum, ?_⟩
  rw [sum, holds.size]
  omega

theorem Holds.grow (holds : Holds progress file) (inside : progress.2 < progress.1.size) :
    Holds (progress.1, progress.2 + chunkSize) (grown progress file) := by
  obtain ⟨received, -, sum, -⟩ := holds.fits inside
  have total : progress.1.size = progress.1.file.content.length := rfl
  have length : file.bytes.length = progress.2 := by
    rw [holds.bytes, List.length_take]
    omega
  refine ⟨holds.id, holds.field, holds.name, holds.contentType, holds.size, sum, ?_⟩
  change overwrite file.bytes file.received.toNat (chunkAt progress) = _
  rw [received, Int.toNat_natCast, overwrite, length, Nat.sub_self, List.replicate_zero, List.append_nil,
    List.drop_eq_nil_of_le (by omega), List.append_nil, List.take_of_length_le length.le, holds.bytes, List.take_add]
  rfl

/-- A file without further chunks is complete. -/
theorem Holds.complete (holds : Holds progress file) (all : chunkCalls progress.1 progress.2 = []) :
    file.received = file.size ∧
      (⟨file.id, file.field, file.name, file.contentType, file.bytes⟩ : StagedUpload) =
        ⟨progress.1.id, progress.1.field, progress.1.file.name, progress.1.contentType, progress.1.file.content⟩ := by
  have total : progress.1.size = progress.1.file.content.length := rfl
  have past : progress.1.size ≤ progress.2 := by
    by_contra inside
    rw [chunkCalls, if_pos (by omega)] at all
    cases all
  refine ⟨?_, ?_⟩
  · rw [holds.received, holds.size]
    omega
  · rw [holds.id, holds.field, holds.name, holds.contentType, holds.bytes, List.take_of_length_le (by omega)]

theorem chunkCalls_cons {call : NativeCall} {rest : List NativeCall}
    (calls : chunkCalls progress.1 progress.2 = call :: rest) :
    progress.2 < progress.1.size ∧ call = .append progress.1.id progress.2 (b64 (chunkAt progress)) ∧
      rest = chunkCalls progress.1 (progress.2 + chunkSize) := by
  rw [chunkCalls] at calls
  split_ifs at calls with inside
  rw [List.cons_eq_cons] at calls
  obtain ⟨rfl, rfl⟩ := calls
  exact ⟨inside, by rw [encode_eq]; rfl, rfl⟩

end Files

/-! ## Transfers -/

section Transfers

variable {texts : Texts} {stringify : Json → String} {s s' s'' : Stager} {transferId : String} {action : StagingAction}
  {submission : Submission} {calls rest : List NativeCall}

/-- What the stager reads of what the page writes. -/
structure Agrees (texts : Texts) (stringify : Json → String) : Prop where
  array : ∀ files : List SelectedFile, texts.array (stringify (.arr (files.map (·.manifest)))) =
    some (files.map (·.manifest))
  decode : ∀ chunk : Bytes, chunk.length ≤ chunkSize → texts.decode (b64 chunk) = some chunk

/-- A transfer as far as its submission has come. -/
structure Underway (texts : Texts) (stringify : Json → String) (submission : Submission) (calls : List NativeCall)
    (action : StagingAction) : Prop where
  data : texts.object (stringify (.obj submission.values.entries)) = some action.actionData
  progress : ∃ progress : List (SelectedFile × ℕ), progress.map Prod.fst = submission.files ∧
    calls = progress.flatMap (fun place => chunkCalls place.1 place.2) ++ [.finish] ∧
    List.Forall₂ Holds progress action.files

theorem forall₂_split {α β : Type*} {R : α → β → Prop} {before after : List α} {a : α} {l : List β}
    (related : List.Forall₂ R (before ++ a :: after) l) :
    ∃ front b back, l = front ++ b :: back ∧
      List.Forall₂ R before front ∧ R a b ∧ List.Forall₂ R after back := by
  induction before generalizing l with
  | nil =>
    cases related with
    | cons here later => exact ⟨[], _, _, rfl, .nil, here, later⟩
  | cons first before ih =>
    cases related with
    | cons here later =>
      obtain ⟨front, b, back, rfl, earlier, there, others⟩ := ih later
      exact ⟨_ :: front, b, back, rfl, .cons here earlier, there, others⟩

/-- A file in its list, by its id. -/
theorem find_file {front back : List StagingUpload} {file : StagingUpload}
    (distinct : ((front ++ file :: back).map (·.id)).Nodup) :
    (front ++ file :: back).find? (fun other => decide (other.id = file.id)) = some file ∧
      ∀ later : StagingUpload, later.id = file.id →
        (front ++ file :: back).map (fun other => if other.id = later.id then later else other) =
        front ++ later :: back := by
  rw [List.map_append, List.map_cons, List.nodup_middle, List.nodup_cons] at distinct
  have others : ∀ other ∈ front ++ back, other.id ≠ file.id := fun other mem same =>
    distinct.1 (by rw [← List.map_append]; exact List.mem_map.mpr ⟨other, mem, same⟩)
  refine ⟨?_, fun later named => ?_⟩
  · rw [List.find?_append, List.find?_eq_none.mpr, Option.none_or, List.find?_cons_of_pos (by simp)]
    intro other mem
    simpa using others other (List.mem_append_left _ mem)
  · have kept : ∀ part : List StagingUpload, (∀ other ∈ part, other.id ≠ file.id) →
        part.map (fun other => if other.id = later.id then later else other) = part := by
      intro part apart
      refine (List.map_congr_left fun other mem => ?_).trans (List.map_id _)
      rw [if_neg]
      · rfl
      · rw [named]
        exact apart other mem
    rw [List.map_append, List.map_cons, if_pos named.symm,
      kept front fun other mem => others other (List.mem_append_left _ mem),
      kept back fun other mem => others other (List.mem_append_right _ mem)]

/-- The next chunk of a submission is written, unless the write fails. -/
theorem Underway.append (agrees : Agrees texts stringify) (staged : Staged texts s)
    (found : s.transfers.get? transferId = some action) {fileId encoded : String} {offset : ℕ}
    (underway : Underway texts stringify submission (.append fileId offset encoded :: rest) action) :
    (∀ stored, ∃ stager, s.append texts transferId fileId offset encoded (some stored) = (stager, .error .write)) ∧
    ∃ later received, Underway texts stringify submission rest later ∧
      s.append texts transferId fileId offset encoded none =
        ({ s with transfers := s.transfers.insert transferId later }, .ok received) := by
  obtain ⟨data, progress, listed, calls, held⟩ := underway
  obtain ⟨named, -, whole⟩ := staged.staged transferId action found
  cases chunks : progress.flatMap fun place => chunkCalls place.1 place.2 with
  | nil =>
    rw [chunks] at calls
    cases calls
  | cons call more =>
    rw [chunks, List.cons_append, List.cons_eq_cons] at calls
    obtain ⟨rfl, rfl⟩ := calls
    obtain ⟨before, place, after, following, rfl, empty, first, rfl⟩ := flatMap_eq_cons chunks
    obtain ⟨inside, same, rfl⟩ := chunkCalls_cons first
    cases same
    obtain ⟨front, file, back, files, earlier, holds, later⟩ := forall₂_split held
    obtain ⟨received, short, -, fits⟩ := holds.fits inside
    have distinct := whole.distinct
    rw [files] at distinct
    obtain ⟨find, replaced⟩ := find_file distinct
    rw [holds.id] at find
    have decoded := agrees.decode (chunkAt place) short
    have reads : ∀ failed, s.append texts transferId place.1.id place.2 (b64 (chunkAt place)) failed =
        failed.elim (s.setFile action (grown place file), .ok (grown place file).received) fun stored =>
          (s.setFile action { file with
            bytes := overwrite file.bytes file.received.toNat ((chunkAt place).take stored) }, .error .write) := by
      intro failed
      unfold Stager.append
      rw [found]
      dsimp only
      rw [files, find]
      dsimp only
      rw [if_neg (not_not.mpr received.symm), decoded]
      dsimp only
      rw [if_neg (not_not.mpr ⟨short, fits⟩)]
      cases failed <;> rfl
    refine ⟨fun stored => ⟨_, reads (some stored)⟩, { action with files := front ++ grown place file :: back },
      (grown place file).received, ?_, ?_⟩
    · refine ⟨data, before ++ (place.1, place.2 + chunkSize) :: after, ?_, ?_, ?_⟩
      · rw [← listed, List.map_append, List.map_append, List.map_cons, List.map_cons]
      · rw [List.flatMap_append, List.flatMap_cons, List.flatMap_eq_nil_iff.mpr empty, List.nil_append]
      · exact List.rel_append earlier (.cons (holds.grow inside) later)
    · refine (reads none).trans (Prod.ext ?_ rfl)
      unfold Stager.setFile
      rw [files, replaced (grown place file) rfl, named]
      rfl

/-- The file that is handed over of a selected one. -/
def staged (selected : SelectedFile) : StagedUpload :=
  ⟨selected.id, selected.field, selected.file.name, selected.contentType, selected.file.content⟩

theorem held_complete {progress : List (SelectedFile × ℕ)} {files : List StagingUpload}
    (held : List.Forall₂ Holds progress files) (empty : ∀ place ∈ progress, chunkCalls place.1 place.2 = []) :
    (∀ file ∈ files, file.received = file.size) ∧
      files.map (fun file => (⟨file.id, file.field, file.name, file.contentType, file.bytes⟩ : StagedUpload)) =
        (progress.map Prod.fst).map staged := by
  induction held with
  | nil => exact ⟨by simp, rfl⟩
  | cons holds _ ih =>
    obtain ⟨all, same⟩ := holds.complete (empty _ List.mem_cons_self)
    obtain ⟨others, rest⟩ := ih fun place mem => empty place (List.mem_cons_of_mem _ mem)
    rw [List.map_cons, List.map_cons, List.map_cons, same, rest]
    exact ⟨List.forall_mem_cons.mpr ⟨all, others⟩, rfl⟩

/-- A submission that has sent everything is complete. -/
theorem Underway.finish (found : s.transfers.get? transferId = some action)
    (underway : Underway texts stringify submission (.finish :: rest) action) :
    action.handedOver.files = submission.files.map staged ∧
      s.finish transferId false = ({ s with
        transfers := s.transfers.erase transferId
        completed := action :: s.completed }, .ok ()) := by
  obtain ⟨data, progress, listed, calls, held⟩ := underway
  have empty : progress.flatMap (fun place => chunkCalls place.1 place.2) = [] := by
    cases chunks : progress.flatMap fun place => chunkCalls place.1 place.2 with
    | nil => rfl
    | cons call more =>
      obtain ⟨-, place, -, following, -, -, first, -⟩ := flatMap_eq_cons chunks
      obtain ⟨-, same, -⟩ := chunkCalls_cons first
      rw [chunks, List.cons_append, List.cons_eq_cons] at calls
      rw [← calls.1] at same
      cases same
  obtain ⟨all, files⟩ := held_complete held fun place mem => List.flatMap_eq_nil_iff.mp empty place mem
  rw [listed] at files
  refine ⟨files, ?_⟩
  unfold Stager.finish
  rw [found]
  dsimp only
  rw [if_neg (by simpa using all), if_neg (by simp)]

/-! ### Calls about other transfers -/

/-- What a call leaves of a transfer that it is not about. -/
structure Elsewhere (s s' : Stager) (transferId : String) : Prop where
  drawn : s.drawn ⊆ s'.drawn
  transfers : s'.transfers.get? transferId = s.transfers.get? transferId ∨ s'.transfers.get? transferId = none
  completed : ∀ action, action.transferId = transferId → (action ∈ s'.completed ↔ action ∈ s.completed)

theorem Elsewhere.refl (s : Stager) (transferId : String) : Elsewhere s s transferId :=
  ⟨fun _ mem => mem, .inl rfl, fun _ _ => Iff.rfl⟩

theorem Elsewhere.trans (first : Elsewhere s s' transferId) (second : Elsewhere s' s'' transferId) :
    Elsewhere s s'' transferId where
  drawn := fun _ mem => second.drawn (first.drawn mem)
  transfers := by
    rcases second.transfers with same | gone
    · rcases first.transfers with before | gone
      · exact .inl (same.trans before)
      · exact .inr (same.trans gone)
    · exact .inr gone
  completed action named := (second.completed action named).trans (first.completed action named)

theorem begin_elsewhere {uuid : String} (other : uuid ≠ transferId) (disk : BeginDisk)
    (actionJson manifestJson : String) :
    Elsewhere s (s.begin texts uuid disk actionJson manifestJson).1 transferId := by
  rcases begin_cases texts s uuid disk actionJson manifestJson with ⟨drawn, root, more, refused⟩ |
    ⟨actionData, manifests, files, -, -, -, -, -, begun⟩
  · rw [refused]
    exact ⟨more, .inl rfl, fun _ _ => Iff.rfl⟩
  · rw [begun]
    exact ⟨fun _ mem => List.mem_cons_of_mem _ mem, .inl (Dict.get?_insert_of_ne _ _ other), fun _ _ => Iff.rfl⟩

theorem append_elsewhere (staged : Staged texts s) {other : String} (different : other ≠ transferId) (fileId : String)
    (offset : ℤ) (encoded : String) (failed : Option ℕ) :
    Elsewhere s (s.append texts other fileId offset encoded failed).1 transferId := by
  have set : ∀ action file, s.transfers.get? other = some action →
      Elsewhere s (s.setFile action file) transferId := by
    intro action file found
    obtain ⟨rfl, -⟩ := staged.staged other action found
    exact ⟨fun _ mem => mem, .inl (Dict.get?_insert_of_ne _ _ different), fun _ _ => Iff.rfl⟩
  rcases append_cases staged other fileId offset encoded failed with same |
    ⟨action, file, chunk, found, -, -, -, -, ⟨stored, wrote⟩ | wrote⟩
  · rw [same]
    exact .refl s transferId
  · rw [wrote]
    exact set _ _ found
  · rw [wrote]
    exact set _ _ found

theorem finish_elsewhere (staged : Staged texts s) {other : String} (different : other ≠ transferId) (throws : Bool) :
    Elsewhere s (s.finish other throws).1 transferId := by
  rcases finish_cases s other throws with same | ⟨action, found, -, -, drawn, transfers, completed⟩
  · rw [same]
    exact .refl s transferId
  · obtain ⟨rfl, -⟩ := staged.staged other action found
    refine ⟨by rw [drawn]; exact fun _ mem => mem, .inl ?_, fun done named => ?_⟩
    · rw [transfers]
      exact Dict.get?_erase_of_ne _ different
    · rw [completed, List.mem_cons]
      refine or_iff_right ?_
      rintro rfl
      exact different named

theorem cancel_elsewhere {other : String} (different : other ≠ transferId) :
    Elsewhere s (s.cancel other) transferId := by
  unfold Stager.cancel
  split
  · exact .refl s transferId
  · exact ⟨fun _ mem => mem, .inl (Dict.get?_erase_of_ne _ different), fun _ _ => Iff.rfl⟩

theorem call_elsewhere {call : StagerCall} (staged : Staged texts s) (known : transferId ∈ s.drawn)
    (apart : call.concerns transferId = false) (stepped : s.step texts call = some s') :
    Elsewhere s s' transferId := by
  cases call with
  | begin uuid disk actionJson manifestJson =>
    simp only [Stager.step] at stepped
    split_ifs at stepped with fresh
    cases stepped
    refine begin_elsewhere (fun same => ?_) disk actionJson manifestJson
    exact fresh.1 (same ▸ known)
  | append other fileId offset encoded failed =>
    cases stepped
    exact append_elsewhere staged (of_decide_eq_false apart) fileId offset encoded failed
  | finish other throws =>
    cases stepped
    exact finish_elsewhere staged (of_decide_eq_false apart) throws
  | cancel other =>
    cases stepped
    exact cancel_elsewhere (of_decide_eq_false apart)
  | cancelAll =>
    cases stepped
    exact ⟨fun _ mem => mem, .inr rfl, fun _ _ => Iff.rfl⟩

/-- After its cancellation a transfer is gone. -/
theorem cancel_gone (s : Stager) (transferId : String) :
    (s.cancel transferId).transfers.get? transferId = none ∧ (s.cancel transferId).completed = s.completed ∧
      (s.cancel transferId).drawn = s.drawn := by
  unfold Stager.cancel
  cases found : s.transfers.get? transferId with
  | none => exact ⟨found, rfl, rfl⟩
  | some action => exact ⟨Dict.get?_erase_self .., rfl, rfl⟩

end Transfers

/-! ## Submissions -/

section Submissions

variable {texts : Texts} {stringify : Json → String} {s s' : Page} {stager : Stager} {submission other : Submission}
  {index : ℕ}

/-- What the stager holds of a submission, and what it handed over. -/
def Accounts (texts : Texts) (stringify : Json → String) (stager : Stager) (submission : Submission) : Prop :=
  match submission.stage with
  | .sending calls => (∀ action ∈ stager.completed, action.transferId ≠ submission.transferId) ∧
    (∀ action, stager.transfers.get? submission.transferId = some action →
      Underway texts stringify submission calls action) ∧ ∃ rest, calls = rest ++ [.finish]
  | .resolved => stager.transfers.get? submission.transferId = none ∧
    ∃ action ∈ stager.completed, action.transferId = submission.transferId ∧
      texts.object (stringify (.obj submission.values.entries)) = some action.actionData ∧
      action.handedOver.files = submission.files.map FormSubmission.staged
  | .rejected => stager.transfers.get? submission.transferId = none ∧
    ∀ action ∈ stager.completed, action.transferId ≠ submission.transferId

theorem Accounts.elsewhere (accounts : Accounts texts stringify s.stager submission)
    (moved : Elsewhere s.stager stager submission.transferId) : Accounts texts stringify stager submission := by
  have never : (∀ action ∈ s.stager.completed, action.transferId ≠ submission.transferId) →
      ∀ action ∈ stager.completed, action.transferId ≠ submission.transferId :=
    fun never action mem named => never action ((moved.completed action named).mp mem) named
  have gone : s.stager.transfers.get? submission.transferId = none →
      stager.transfers.get? submission.transferId = none := by
    intro gone
    rcases moved.transfers with same | none
    · rw [same, gone]
    · exact none
  unfold Accounts at accounts ⊢
  cases stage : submission.stage with
  | sending calls =>
    rw [stage] at accounts
    refine ⟨never accounts.1, fun action found => accounts.2.1 action ?_, accounts.2.2⟩
    rcases moved.transfers with same | none
    · rw [← same, found]
    · rw [none] at found
      cases found
  | resolved =>
    rw [stage] at accounts
    obtain ⟨out, action, mem, named, rest⟩ := accounts
    exact ⟨gone out, action, (moved.completed action named).mpr mem, named, rest⟩
  | rejected =>
    rw [stage] at accounts
    exact ⟨gone accounts.1, never accounts.2⟩

/-- What holds between two steps. -/
structure Sound (texts : Texts) (stringify : Json → String) (s : Page) : Prop where
  staged : Staged texts s.stager
  drawn : ∀ submission ∈ s.submissions, submission.transferId ∈ s.stager.drawn
  apart : (s.submissions.map (·.transferId)).Nodup
  accounts : ∀ submission ∈ s.submissions, Accounts texts stringify s.stager submission

theorem Underway.restage {calls : List NativeCall} {action : StagingAction}
    (underway : Underway texts stringify submission calls action) (stage : SubmissionStage) :
    Underway texts stringify { submission with stage := stage } calls action := ⟨underway.data, underway.progress⟩

/-- A submission makes a call and reaches another stage. -/
theorem Sound.move (sound : Sound texts stringify s) (here : s.submissions[index]? = some submission)
    (stage : SubmissionStage) (staged : Staged texts stager) (drawn : s.stager.drawn ⊆ stager.drawn)
    (others : ∀ other ∈ s.submissions, other.transferId ≠ submission.transferId →
      Elsewhere s.stager stager other.transferId)
    (accounts : Accounts texts stringify stager { submission with stage := stage }) :
    Sound texts stringify ({ s with stager := stager }.setStage index submission stage) := by
  obtain ⟨before, after, cut, set⟩ := set_split here
  have ids : (s.submissions.set index { submission with stage := stage }).map (·.transferId) =
      s.submissions.map (·.transferId) := by
    rw [set, cut, List.map_append, List.map_append, List.map_cons, List.map_cons]
  have distinct := sound.apart
  rw [cut, List.map_append, List.map_cons, List.nodup_middle, List.nodup_cons, ← List.map_append] at distinct
  constructor
  · exact staged
  · intro other mem
    have listed : other.transferId ∈ s.submissions.map (·.transferId) := ids ▸ List.mem_map.mpr ⟨other, mem, rfl⟩
    obtain ⟨original, inside, same⟩ := List.mem_map.mp listed
    exact drawn (same ▸ sound.drawn original inside)
  · exact ids.symm ▸ sound.apart
  · intro other mem
    have cases : other ∈ before ++ { submission with stage := stage } :: after := set _ ▸ mem
    have kept : other ∈ before ++ after → Accounts texts stringify stager other := by
      intro inside
      have original : other ∈ s.submissions := by
        rw [cut]
        rcases List.mem_append.mp inside with inside | inside
        · exact List.mem_append_left _ inside
        · exact List.mem_append_right _ (List.mem_cons_of_mem _ inside)
      refine (sound.accounts other original).elsewhere (others other original fun same => ?_)
      exact distinct.1 (List.mem_map.mpr ⟨other, inside, same⟩)
    rcases List.mem_append.mp cases with inside | inside
    · exact kept (List.mem_append_left _ inside)
    · rcases List.mem_cons.mp inside with rfl | inside
      · exact accounts
      · exact kept (List.mem_append_right _ inside)

/-- A submission fails. -/
theorem Sound.reject (sound : Sound texts stringify s) (here : s.submissions[index]? = some submission)
    (staged : Staged texts stager) (drawn : s.stager.drawn ⊆ stager.drawn)
    (others : ∀ other ∈ s.submissions, other.transferId ≠ submission.transferId →
      Elsewhere s.stager stager other.transferId)
    (never : ∀ action ∈ stager.completed, action.transferId ≠ submission.transferId) :
    Sound texts stringify ({ s with stager := stager }.reject index submission) := by
  obtain ⟨gone, completed, same⟩ := cancel_gone stager submission.transferId
  have called : stager.step texts (.cancel submission.transferId) = some (stager.cancel submission.transferId) := rfl
  have cancelled : Staged texts (stager.cancel submission.transferId) := step_staged staged called
  refine sound.move here .rejected cancelled (same ▸ drawn) (fun other mem different => ?_) ⟨gone, ?_⟩
  · exact (others other mem different).trans (cancel_elsewhere (Ne.symm different))
  · rw [completed]
    exact never

theorem append_drawn (staged : Staged texts stager) (transferId fileId : String) (offset : ℤ) (encoded : String)
    (failed : Option ℕ) : (stager.append texts transferId fileId offset encoded failed).1.drawn = stager.drawn ∧
      (stager.append texts transferId fileId offset encoded failed).1.completed = stager.completed := by
  rcases append_cases staged transferId fileId offset encoded failed with same |
    ⟨action, file, chunk, -, -, -, -, -, ⟨stored, wrote⟩ | wrote⟩
  · rw [same]
    exact ⟨rfl, rfl⟩
  · rw [wrote]
    exact ⟨rfl, rfl⟩
  · rw [wrote]
    exact ⟨rfl, rfl⟩

theorem Sound.next (agrees : Agrees texts stringify) (sound : Sound texts stringify s)
    (here : s.submissions[index]? = some submission) {calls : List NativeCall}
    (at_stage : submission.stage = .sending calls)
    (readable : Bool) (failed : Option ℕ) :
    Sound texts stringify (s.next texts index submission readable failed calls) := by
  have mem := List.mem_of_getElem? here
  have accounts := sound.accounts submission mem
  unfold Accounts at accounts
  rw [at_stage] at accounts
  obtain ⟨never, underway, rest, ends⟩ := accounts
  have unmoved : ∀ other ∈ s.submissions, other.transferId ≠ submission.transferId →
      Elsewhere s.stager s.stager other.transferId := fun other _ _ => .refl _ _
  cases calls with
  | nil => exact sound
  | cons call more =>
    cases call with
    | append fileId offset encoded =>
      unfold Page.next
      dsimp only
      by_cases read : readable = true
      · rw [if_pos read]
        have moved := append_staged sound.staged submission.transferId fileId offset encoded failed
        have others : ∀ other ∈ s.submissions, other.transferId ≠ submission.transferId → Elsewhere s.stager
            (s.stager.append texts submission.transferId fileId offset encoded failed).1 other.transferId :=
          fun other _ different => append_elsewhere sound.staged (Ne.symm different) fileId offset encoded failed
        obtain ⟨drawn, completed⟩ := append_drawn sound.staged submission.transferId fileId offset encoded failed
        have wrote : ∀ received,
            (s.stager.append texts submission.transferId fileId offset encoded failed).2 = .ok received →
            ∀ action, (s.stager.append texts submission.transferId fileId offset encoded failed).1.transfers.get?
              submission.transferId = some action → Underway texts stringify submission more action := by
          intro received success action found
          cases held : s.stager.transfers.get? submission.transferId with
          | none =>
            unfold Stager.append at success
            rw [held] at success
            cases success
          | some before =>
            obtain ⟨fails, later, all, next, works⟩ := (underway before held).append agrees sound.staged held
            cases failed with
            | some stored =>
              obtain ⟨stager, refused⟩ := fails stored
              rw [refused] at success
              cases success
            | none =>
              rw [works] at found
              rw [Dict.get?_insert_self] at found
              cases found
              exact next
        generalize s.stager.append texts submission.transferId fileId offset encoded failed = result at *
        obtain ⟨stager, answer⟩ := result
        dsimp only at moved others drawn completed wrote ⊢
        cases answer with
        | error e => exact sound.reject here moved (by rw [drawn]; exact fun _ mem => mem) others (by rwa [completed])
        | ok received =>
          refine sound.move here _ moved (by rw [drawn]; exact fun _ mem => mem) others
            ⟨?_, fun action found => (wrote received rfl action found).restage _, ?_⟩
          · rwa [completed]
          · cases rest with
            | nil => cases ends
            | cons first rest => exact ⟨rest, (List.cons_eq_cons.mp ends).2⟩
      · rw [if_neg read]
        exact sound.reject here sound.staged (fun _ mem => mem) unmoved never
    | finish =>
      unfold Page.next
      dsimp only
      cases held : s.stager.transfers.get? submission.transferId with
      | none =>
        have refused : s.stager.finish submission.transferId false = (s.stager, .error .refused) := by
          unfold Stager.finish
          rw [held]
        rw [refused]
        exact sound.reject here sound.staged (fun _ mem => mem) unmoved never
      | some action =>
        obtain ⟨files, finished⟩ := (underway action held).finish held
        have called : s.stager.step texts (.finish submission.transferId false) =
            some (s.stager.finish submission.transferId false).1 := rfl
        have staged : Staged texts (s.stager.finish submission.transferId false).1 := step_staged sound.staged called
        have others : ∀ other ∈ s.submissions, other.transferId ≠ submission.transferId →
            Elsewhere s.stager (s.stager.finish submission.transferId false).1 other.transferId :=
          fun other _ different => finish_elsewhere sound.staged (Ne.symm different) false
        rw [finished] at staged others ⊢
        obtain ⟨named, -⟩ := sound.staged.staged submission.transferId action held
        refine sound.move here .resolved staged (fun _ mem => mem) others ⟨?_, action, ?_, named, ?_, files⟩
        · exact Dict.get?_erase_self ..
        · exact List.mem_cons_self
        · exact (underway action held).data

theorem Sound.submit (agrees : Agrees texts stringify) (sound : Sound texts stringify s) (action : Dict String Json)
    (entries : List (String × FormValue)) {uuid : String} (fresh : uuid ∉ s.stager.drawn) (named : uuid.length = 36)
    (disk : BeginDisk) : Sound texts stringify (s.submit texts stringify action entries uuid disk) := by
  unfold Page.submit
  dsimp only
  by_cases none_selected : (collect entries action []).2 = []
  · rw [if_pos none_selected]
    exact ⟨sound.staged, sound.drawn, sound.apart, sound.accounts⟩
  · rw [if_neg none_selected]
    have staged := begin_staged sound.staged fresh named disk
      (stringify (.obj (collect entries action []).1.entries))
      (stringify (.arr ((collect entries action []).2.map (·.manifest))))
    have others : ∀ submission ∈ s.submissions, Elsewhere s.stager (s.stager.begin texts uuid disk
        (stringify (.obj (collect entries action []).1.entries))
        (stringify (.arr ((collect entries action []).2.map (·.manifest))))).1 submission.transferId := by
      intro submission mem
      refine begin_elsewhere (fun same => fresh ?_) disk _ _
      rw [same]
      exact sound.drawn submission mem
    cases begun : s.stager.begin texts uuid disk (stringify (.obj (collect entries action []).1.entries))
        (stringify (.arr ((collect entries action []).2.map (·.manifest)))) with
    | mk stager answer =>
      rw [begun] at staged others
      have kept : ∀ submission ∈ s.submissions, submission.transferId ∈ stager.drawn ∧
          Accounts texts stringify stager submission := fun submission mem =>
        ⟨(others submission mem).drawn (sound.drawn submission mem),
          (sound.accounts submission mem).elsewhere (others submission mem)⟩
      cases answer with
      | error e => exact ⟨staged, fun other mem => (kept other mem).1, sound.apart, fun other mem => (kept other mem).2⟩
      | ok transferId =>
        obtain ⟨rfl, actionData, manifests, files, data, listed, accepted, rfl⟩ := begin_ok begun
        obtain rfl := Option.some.inj ((agrees.array _).symm.trans listed)
        obtain rfl := stageManifests_selected accepted
        dsimp only
        constructor
        · exact staged
        · intro other mem
          rcases List.mem_append.mp mem with mem | mem
          · exact (kept other mem).1
          · rw [List.mem_singleton.mp mem]
            exact List.mem_cons_self
        · rw [List.map_append, List.map_singleton]
          refine sound.apart.append (List.nodup_singleton _) ?_
          rw [List.disjoint_singleton]
          intro mem
          obtain ⟨other, inside, same⟩ := List.mem_map.mp mem
          have known := sound.drawn other inside
          rw [show other.transferId = transferId from same] at known
          exact fresh known
        · intro other mem
          rcases List.mem_append.mp mem with mem | mem
          · exact (kept other mem).2
          · rw [List.mem_singleton.mp mem]
            refine ⟨fun done inside same => fresh ?_, fun held found => ?_, _, rfl⟩
            · have known := (sound.staged.handed done inside).1
              rwa [same] at known
            · change (s.stager.transfers.insert transferId _).get? transferId = some held at found
              rw [Dict.get?_insert_self] at found
              cases found
              refine ⟨data, (collect entries action []).2.map fun selected => (selected, 0), ?_, ?_, ?_⟩
              · rw [List.map_map]
                exact List.map_id _
              · rw [List.flatMap_map]
              · rw [List.nil_append, List.forall₂_map_left_iff, List.forall₂_map_right_iff, List.forall₂_same]
                exact fun selected _ => announced_holds selected

theorem Sound.step (agrees : Agrees texts stringify) (sound : Sound texts stringify s) {event : PageEvent}
    (stepped : s.step texts stringify event = some s') : Sound texts stringify s' := by
  cases event with
  | submit action entries uuid disk =>
    simp only [Page.step] at stepped
    split_ifs at stepped with fresh
    cases stepped
    exact sound.submit agrees action entries fresh.1 fresh.2 disk
  | next index readable failed =>
    simp only [Page.step] at stepped
    split at stepped
    · rename_i submission here
      split at stepped
      · rename_i calls stage
        cases stepped
        exact sound.next agrees here stage readable failed
      · cases stepped
      · cases stepped
    · cases stepped
  | other call =>
    simp only [Page.step] at stepped
    split_ifs at stepped with concerned
    obtain ⟨stager, called, rfl⟩ := Option.map_eq_some_iff.mp stepped
    have apart : ∀ submission ∈ s.submissions, call.concerns submission.transferId = false := by
      intro submission mem
      by_contra concerns
      exact concerned (List.any_eq_true.mpr ⟨submission, mem, by simpa using concerns⟩)
    have others : ∀ submission ∈ s.submissions, Elsewhere s.stager stager submission.transferId := fun submission mem =>
      call_elsewhere sound.staged (sound.drawn submission mem) (apart submission mem) called
    exact ⟨step_staged sound.staged called, fun submission mem =>
      (others submission mem).drawn (sound.drawn submission mem),
      sound.apart, fun submission mem => (sound.accounts submission mem).elsewhere (others submission mem)⟩

theorem reach_sound (agrees : Agrees texts stringify)
    (reach : Reach (Page.step texts stringify) anyStep Page.Initial s) : Sound texts stringify s := by
  refine reach.invariant (Sound texts stringify) (fun s initial => ?_) fun _ _ _ _ sound _ => sound.step agrees
  obtain ⟨stager, none_submitted, -⟩ := initial
  refine ⟨initial_staged stager, ?_, ?_, ?_⟩
  · rw [none_submitted]
    rintro _ ⟨⟩
  · rw [none_submitted]
    exact List.nodup_nil
  · rw [none_submitted]
    rintro _ ⟨⟩

end Submissions

/-! ## The result -/

/-- How a submission ends, and that it goes on. -/
structure Outcome (texts : Texts) (stringify : Json → String) (s : Page) (index : ℕ)
    (submission : Submission) : Prop where
  /-- It was handed over, with the files of the form and what the stager reads of its values. -/
  resolved : submission.stage = .resolved → ∃ action ∈ s.stager.completed,
    action.transferId = submission.transferId ∧
    texts.object (stringify (.obj submission.values.entries)) = some action.actionData ∧
    action.handedOver.files = submission.files.map FormSubmission.staged
  /-- Nothing of it is there. -/
  rejected : submission.stage = .rejected → s.stager.transfers.get? submission.transferId = none ∧
    ∀ action ∈ s.stager.completed, action.transferId ≠ submission.transferId
  /-- If its transfer is there, its next call succeeds unless its bytes cannot be read or written. -/
  proceeds : ∀ calls, submission.stage = .sending calls → s.stager.transfers.get? submission.transferId ≠ none →
    ∃ t, s.step texts stringify (.next index true none) = some t ∧
      ((∃ call rest, calls = call :: rest ∧
          t.submissions[index]? = some { submission with stage := .sending rest } ∧
          t.stager.transfers.get? submission.transferId ≠ none) ∨
        calls = [.finish] ∧ t.submissions[index]? = some { submission with stage := .resolved })

section Outcome

variable {texts : Texts} {stringify : Json → String} {s : Page} {submission : Submission} {index : ℕ}

theorem Sound.proceeds (agrees : Agrees texts stringify) (sound : Sound texts stringify s)
    (here : s.submissions[index]? = some submission) {calls : List NativeCall}
    (at_stage : submission.stage = .sending calls)
    (there : s.stager.transfers.get? submission.transferId ≠ none) :
    ∃ t, s.step texts stringify (.next index true none) = some t ∧
      ((∃ call rest, calls = call :: rest ∧
          t.submissions[index]? = some { submission with stage := .sending rest } ∧
          t.stager.transfers.get? submission.transferId ≠ none) ∨
        calls = [.finish] ∧ t.submissions[index]? = some { submission with stage := .resolved }) := by
  have accounts := sound.accounts submission (List.mem_of_getElem? here)
  unfold Accounts at accounts
  rw [at_stage] at accounts
  obtain ⟨-, underway, rest, ends⟩ := accounts
  obtain ⟨action, found⟩ := Option.ne_none_iff_exists'.mp there
  have inside : index < s.submissions.length := (List.getElem?_eq_some_iff.mp here).1
  refine ⟨s.next texts index submission true none calls, ?_, ?_⟩
  · simp only [Page.step]
    rw [here]
    dsimp only
    rw [at_stage]
  · cases calls with
    | nil =>
      cases rest with
      | nil => cases ends
      | cons first rest => cases ends
    | cons call more =>
      cases call with
      | append fileId offset encoded =>
        obtain ⟨-, later, received, -, works⟩ := (underway action found).append agrees sound.staged found
        refine .inl ⟨_, more, rfl, ?_⟩
        unfold Page.next
        dsimp only
        rw [if_pos rfl, works]
        refine ⟨List.getElem?_set_self inside, ?_⟩
        change (s.stager.transfers.insert submission.transferId later).get? submission.transferId ≠ none
        rw [Dict.get?_insert_self]
        simp
      | finish =>
        obtain ⟨-, finished⟩ := (underway action found).finish found
        have last : more = [] := by
          obtain ⟨-, progress, -, calls, -⟩ := underway action found
          cases chunks : progress.flatMap fun place => chunkCalls place.1 place.2 with
          | nil =>
            rw [chunks, List.nil_append, List.cons_eq_cons] at calls
            exact calls.2
          | cons call others =>
            obtain ⟨-, place, -, following, -, -, first, -⟩ := flatMap_eq_cons chunks
            obtain ⟨-, same, -⟩ := chunkCalls_cons first
            rw [chunks, List.cons_append, List.cons_eq_cons] at calls
            rw [← calls.1] at same
            cases same
        subst last
        refine .inr ⟨rfl, ?_⟩
        unfold Page.next
        dsimp only
        rw [finished]
        exact List.getElem?_set_self inside

end Outcome

section Samples

def formTexts : Texts where
  platform := AssetManifest.plainPlatform
  object text := (loadsBytes (utf8 text)).toOption.filter Json.isObj
  array text :=
    match loadsBytes (utf8 text) with
    | .ok (.arr values) => some values
    | _ => none
  decode text := (unb64 text).toOption
  object_isObj text value read := (Option.filter_eq_some_iff.mp read).2

theorem formTexts_agrees : Agrees formTexts Json.dumps where
  array files := by simp [formTexts]
  decode chunk _ := by simp [formTexts, Except.toOption]

/-- A text and a file of two bytes. -/
def sampleEntries : List (String × FormValue) :=
  [("note", .text "hi"), ("file", .file ⟨"x.bin", "", [97, 98], by decide⟩)]

def submittedRun : List PageEvent :=
  [.submit .empty sampleEntries sampleUuid sampleDisk, .next 0 true none, .next 0 true none]

end Samples

end WispGate.Soundness.FormSubmission
