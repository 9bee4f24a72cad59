import WispGate.Soundness.ServiceLifetime
import WispGate.Soundness.Staging

/-! # What becomes of a file action

Every action that the stager completes is in one place: queued for the service, in one of its coroutines, or
put aside because its start was refused or no wisp was selected. The directories on the disk are those of the
actions that still need them. The service stops only when no start is outstanding and no transfer is active,
and does stop when it has nothing to do.
-/

namespace WispGate.Soundness.TransferService

open Data Model Model.Android Staging

/-! ## Places -/

/-- The completed actions, by place. -/
def handed (s : TransferApp) : List StagedFileAction :=
  s.stranded ++ s.refused ++ s.jobs.values.map (·.action) ++ s.tasks.map (·.job.action)

def sending (task : TransferTask) : Bool := decide (task.stage = .sending)

/-- The actions outside of the stager whose files are needed, by place. -/
def needed (s : TransferApp) : List String :=
  s.stranded.map (·.transferId) ++ s.jobs.keys ++ (s.tasks.filter sending).map (·.job.transferId)

/-- The starts of an earlier process, which have no job, come before those of the queue. -/
def Queued (s : TransferApp) : Prop :=
  ∃ stale fresh, s.starts = stale ++ fresh ∧ fresh.map Prod.snd = s.jobs.keys.map some ∧
    (∀ start ∈ stale, ∀ id ∈ start.2, id ∈ s.stager.drawn ∧ id ∉ s.stager.transfers.keys ∧
      id ∉ s.stager.completed.map (·.transferId)) ∧ (stale ≠ [] → s.tasks = [])

/-- What holds between two steps. -/
structure Custodial (texts : Texts) (s : TransferApp) : Prop where
  running : s.crashed = false
  kept : s.cancelled = []
  staged : Staged texts s.stager
  unswept : s.swept = false → s.stager.transfers = .empty ∧ s.stager.completed = []
  ledger : (s.stager.completed.map (·.handedOver)).Perm (handed s)
  keyed : ∀ id job, s.jobs.get? id = some job → job.transferId = id
  disk : s.swept = true → s.stager.directories.Perm (s.stager.transfers.keys ++ needed s)
  reported : (s.results.map fun result => (result.transferId, result.wispId)).Perm
    ((s.tasks.filter (·.reported)).map fun task => (task.job.transferId, task.job.wisp.id))
  queued : Queued s
  ordered : Ordered s.starts s.latestStart
  attended : Attended s.tasks s.starts s.latestStart s.created s.service

/-! ## The stager -/

section Stager

variable {texts : Texts} {s s' : Stager} {rest : List String}

/-- What a call of the stager that completes nothing does to the directories. -/
structure Stages (s s' : Stager) (rest : List String) : Prop where
  completed : s'.completed = s.completed
  drawn : s.drawn ⊆ s'.drawn
  transfers : ∀ id ∈ s.drawn, id ∈ s'.transfers.keys → id ∈ s.transfers.keys
  disk : s.directories.Perm (s.transfers.keys ++ rest) → s'.directories.Perm (s'.transfers.keys ++ rest)

theorem Stages.of_keys (completed : s'.completed = s.completed) (drawn : s.drawn ⊆ s'.drawn)
    (keys : s'.transfers.keys = s.transfers.keys) (directories : s'.directories = s.directories) : Stages s s' rest where
  completed := completed
  drawn := drawn
  transfers id _ mem := keys ▸ mem
  disk perm := by rwa [directories, keys]

theorem begin_stages (staged : Staged texts s) {uuid : String} (fresh : uuid ∉ s.drawn) (disk : BeginDisk)
    (actionJson manifestJson : String) : Stages s (s.begin texts uuid disk actionJson manifestJson).1 rest := by
  rcases begin_cases texts s uuid disk actionJson manifestJson with ⟨drawn, root, more, refused⟩ |
    ⟨actionData, manifests, files, -, -, -, -, -, begun⟩
  · rw [refused]
    exact .of_keys rfl more rfl rfl
  · rw [begun]
    have absent : s.transfers.get? uuid = none := by
      by_contra here
      obtain ⟨action, found⟩ := Option.ne_none_iff_exists'.mp here
      exact fresh (staged.staged uuid action found).2.1
    have keys := Dict.keys_insert_of_get?_eq_none absent (⟨uuid, actionData, files⟩ : StagingAction)
    refine ⟨rfl, fun _ mem => List.mem_cons_of_mem _ mem, fun id known mem => ?_, fun perm => ?_⟩
    · rcases (Dict.mem_keys_insert ..).mp mem with rfl | mem
      · exact absurd known fresh
      · exact mem
    · change (uuid :: s.directories).Perm ((s.transfers.insert uuid _).keys ++ rest)
      rw [keys, List.append_assoc]
      exact (perm.cons uuid).trans List.perm_middle.symm

theorem setFile_stages {action : StagingAction} {transferId : String} (staged : Staged texts s)
    (found : s.transfers.get? transferId = some action) (file : StagingUpload) :
    Stages s (s.setFile action file) rest := by
  obtain ⟨rfl, -⟩ := staged.staged transferId action found
  exact .of_keys rfl (fun _ mem => mem) (Dict.keys_insert_of_mem found _) rfl

theorem append_stages (staged : Staged texts s) (transferId fileId : String) (offset : ℤ) (encoded : String)
    (failed : Option ℕ) : Stages s (s.append texts transferId fileId offset encoded failed).1 rest := by
  rcases append_cases staged transferId fileId offset encoded failed with same |
    ⟨action, file, chunk, found, -, -, -, -, ⟨stored, wrote⟩ | wrote⟩
  · rw [same]
    exact .of_keys rfl (fun _ mem => mem) rfl rfl
  · rw [wrote]
    exact setFile_stages staged found _
  · rw [wrote]
    exact setFile_stages staged found _

/-- A transfer leaves the stager, with its directory. -/
theorem cancel_stages (staged : Staged texts s) (transferId : String) : Stages s (s.cancel transferId) rest := by
  unfold Stager.cancel
  split
  · exact .of_keys rfl (fun _ mem => mem) rfl rfl
  · rename_i action found
    obtain ⟨rfl, -⟩ := staged.staged transferId action found
    refine ⟨rfl, fun _ mem => mem, fun id _ mem => ((Dict.mem_keys_erase ..).mp mem).2, fun perm => ?_⟩
    exact perm_erase (perm.trans ((Dict.keys_perm found).append_right rest))

theorem cancelAll_stages (staged : Staged texts s) (apart : ∀ d ∈ rest, d ∉ s.transfers.keys) :
    Stages s s.cancelAll rest := by
  have named : ∀ d, d ∈ s.transfers.values.map (·.transferId) ↔ d ∈ s.transfers.keys := by
    intro d
    rw [Dict.mem_keys_iff, Option.ne_none_iff_exists', List.mem_map]
    constructor
    · rintro ⟨action, mem, rfl⟩
      obtain ⟨id, found⟩ := (Dict.mem_values_iff ..).mp mem
      obtain ⟨rfl, -⟩ := staged.staged id action found
      exact ⟨action, found⟩
    · rintro ⟨action, found⟩
      exact ⟨action, (Dict.mem_values_iff ..).mpr ⟨d, found⟩, (staged.staged d action found).1⟩
  refine ⟨rfl, fun _ mem => mem, fun id _ mem => (by cases mem), fun perm => ?_⟩
  change (s.directories.filter _).Perm ([] ++ rest)
  refine (perm.filter _).trans (List.Perm.of_eq ?_)
  rw [List.filter_append, List.filter_eq_nil_iff.mpr, List.filter_eq_self.mpr]
  · intro d mem
    exact decide_eq_true fun listed => apart d mem ((named d).mp listed)
  · intro d mem
    simp [(named d).mpr mem]

theorem call_stages {call : StagerCall} (staged : Staged texts s) (apart : ∀ d ∈ rest, d ∉ s.transfers.keys)
    (other : ∀ transferId throws, call ≠ .finish transferId throws) (stepped : s.step texts call = some s') :
    Stages s s' rest := by
  cases call with
  | begin uuid disk actionJson manifestJson =>
    simp only [Stager.step] at stepped
    split_ifs at stepped with drawn
    cases stepped
    exact begin_stages staged drawn.1 disk actionJson manifestJson
  | append transferId fileId offset encoded failed =>
    cases stepped
    exact append_stages staged transferId fileId offset encoded failed
  | finish transferId throws => exact absurd rfl (other transferId throws)
  | cancel transferId =>
    cases stepped
    exact cancel_stages staged transferId
  | cancelAll =>
    cases stepped
    exact cancelAll_stages staged apart

end Stager

/-! ## Steps -/

section Steps

variable {texts : Texts} {s s' : TransferApp} {stager : Stager} {action : StagingAction} {transferId : String}

theorem Custodial.jobs_keys (custodial : Custodial texts s) :
    s.jobs.keys = (s.jobs.values.map (·.action)).map (·.transferId) := by
  rw [Dict.keys, Dict.values, List.map_map, List.map_map]
  refine List.map_congr_left fun entry mem => ?_
  exact (custodial.keyed entry.1 entry.2 ((Dict.get?_eq_some_iff ..).mpr mem)).symm

/-- The ids of the actions that were completed. -/
theorem Custodial.ids (custodial : Custodial texts s) :
    (s.stager.completed.map (·.transferId)).Perm ((handed s).map (·.transferId)) := by
  have perm := custodial.ledger.map (·.transferId)
  rwa [List.map_map] at perm

theorem Custodial.needed_handed (custodial : Custodial texts s) {d : String} (mem : d ∈ needed s) :
    d ∈ (handed s).map (·.transferId) := by
  unfold needed at mem
  rw [custodial.jobs_keys] at mem
  simp only [List.mem_append, handed, List.map_append] at mem ⊢
  rcases mem with (mem | mem) | mem
  · exact .inl (.inl (.inl mem))
  · exact .inl (.inr mem)
  · obtain ⟨task, inside, rfl⟩ := List.mem_map.mp mem
    exact .inr (List.mem_map.mpr ⟨_, List.mem_map.mpr ⟨task, (List.mem_filter.mp inside).1, rfl⟩, rfl⟩)

/-- What left the stager is not in it. -/
theorem Custodial.apart (custodial : Custodial texts s) {d : String} (mem : d ∈ (handed s).map (·.transferId)) :
    d ∉ s.stager.transfers.keys := by
  obtain ⟨action, inside, rfl⟩ := List.mem_map.mp (custodial.ids.mem_iff.mpr mem)
  rw [← Dict.get?_eq_none_iff]
  exact custodial.staged.apart action inside

theorem Custodial.sweep (custodial : Custodial texts s) : Custodial texts s.sweepOnce := by
  unfold TransferApp.sweepOnce
  by_cases swept : s.swept = true
  · rwa [if_pos swept]
  · rw [if_neg swept]
    obtain ⟨transfers, completed⟩ := custodial.unswept (Bool.eq_false_iff.mpr swept)
    have none_needed : needed s = [] := by
      rw [List.eq_nil_iff_forall_not_mem]
      intro d mem
      have listed := custodial.ids.mem_iff.mpr (custodial.needed_handed mem)
      rw [completed] at listed
      cases listed
    constructor
    · exact custodial.running
    · exact custodial.kept
    · exact custodial.staged.drawn (fun _ mem => mem) rfl rfl
    · rintro ⟨⟩
    · exact custodial.ledger
    · exact custodial.keyed
    · intro _
      change List.Perm [] (s.stager.transfers.keys ++ needed s)
      rw [none_needed, transfers]
      exact .nil
    · exact custodial.reported
    · exact custodial.queued
    · exact custodial.ordered
    · exact custodial.attended

theorem Custodial.stage (custodial : Custodial texts s) (swept : s.swept = true) (staged : Staged texts stager)
    (stages : Stages s.stager stager (needed s)) : Custodial texts { s with stager := stager } where
  running := custodial.running
  kept := custodial.kept
  staged := staged
  unswept unswept := by
    rw [swept] at unswept
    cases unswept
  ledger := by
    rw [stages.completed]
    exact custodial.ledger
  keyed := custodial.keyed
  disk _ := stages.disk (custodial.disk swept)
  reported := custodial.reported
  queued := by
    obtain ⟨stale, fresh, starts, keys, strange, alone⟩ := custodial.queued
    refine ⟨stale, fresh, starts, keys, fun start mem id named => ?_, alone⟩
    obtain ⟨drawn, outside, never⟩ := strange start mem id named
    refine ⟨stages.drawn drawn, fun inside => outside (stages.transfers id drawn inside), ?_⟩
    rw [stages.completed]
    exact never
  ordered := custodial.ordered
  attended := custodial.attended

/-! ### Completed actions -/

/-- A `finishFileAction` is refused, or hands the action over that leaves the stager. -/
theorem finishFileAction_cases (s : TransferApp) (transferId : String) (selected : Option ClientWisp)
    (start : Option ℕ) :
    s.finishFileAction transferId selected start = s ∨
    ∃ action, s.stager.transfers.get? transferId = some action ∧
      (∀ file ∈ action.files, file.received = file.size) ∧
      s.finishFileAction transferId selected start =
        { s with stager := { s.stager with
          transfers := s.stager.transfers.erase transferId
          completed := action :: s.stager.completed } }.onFileAction action.handedOver selected start := by
  unfold TransferApp.finishFileAction Stager.finish
  cases found : s.stager.transfers.get? transferId with
  | none => exact .inl rfl
  | some action =>
    dsimp only
    by_cases all : (action.files.all fun file => decide (file.received = file.size)) = true
    · rw [if_neg (not_not.mpr all)]
      exact .inr ⟨action, rfl, by simpa using all, rfl⟩
    · rw [if_pos all]
      exact .inl rfl

/-- The stager after an action was handed over. -/
def released (s : TransferApp) (action : StagingAction) : Stager :=
  { s.stager with
    transfers := s.stager.transfers.erase action.transferId
    completed := action :: s.stager.completed }

/-- An action that is complete. -/
structure Completes (s : TransferApp) (action : StagingAction) : Prop where
  swept : s.swept = true
  found : s.stager.transfers.get? action.transferId = some action
  all : ∀ file ∈ action.files, file.received = file.size

variable (custodial : Custodial texts s) (completes : Completes s action)

include custodial completes

theorem Completes.staged : Staged texts (released s action) :=
  custodial.staged.hand completes.found completes.all rfl rfl rfl

omit completes in
theorem released_ledger :
    ((released s action).completed.map (·.handedOver)).Perm (action.handedOver :: handed s) :=
  custodial.ledger.cons _

theorem Completes.disk : s.stager.directories.Perm
    (action.transferId :: ((released s action).transfers.keys ++ needed s)) :=
  (custodial.disk completes.swept).trans ((Dict.keys_perm completes.found).append_right _)

/-- The action was not queued before. -/
theorem Completes.absent : s.jobs.get? action.transferId = none := by
  rw [Dict.get?_eq_none_iff, custodial.jobs_keys]
  intro mem
  have listed : action.transferId ∈ (handed s).map (·.transferId) := by
    simp only [handed, List.map_append, List.mem_append]
    exact .inl (.inr mem)
  refine custodial.apart listed ((Dict.mem_keys_iff ..).mpr ?_)
  simp [completes.found]

omit custodial in
/-- Starts without a job stay without one. -/
theorem Completes.strange {stale : List (ℕ × Option String)} (strange : ∀ start ∈ stale, ∀ id ∈ start.2,
      id ∈ s.stager.drawn ∧ id ∉ s.stager.transfers.keys ∧ id ∉ s.stager.completed.map (·.transferId)) :
    ∀ start ∈ stale, ∀ id ∈ start.2, id ∈ (released s action).drawn ∧ id ∉ (released s action).transfers.keys ∧
      id ∉ (released s action).completed.map (·.transferId) := by
  intro start mem id named
  obtain ⟨drawn, outside, never⟩ := strange start mem id named
  refine ⟨drawn, fun inside => outside ((Dict.mem_keys_erase ..).mp inside).2, fun listed => ?_⟩
  rcases List.mem_cons.mp listed with rfl | listed
  · refine outside ((Dict.mem_keys_iff ..).mpr ?_)
    simp [completes.found]
  · exact never listed

/-- No wisp is selected. -/
theorem Completes.strand :
    Custodial texts { s with stager := released s action, stranded := action.handedOver :: s.stranded } where
  running := custodial.running
  kept := custodial.kept
  staged := completes.staged custodial
  unswept unswept := by
    rw [completes.swept] at unswept
    cases unswept
  ledger := released_ledger custodial
  keyed := custodial.keyed
  disk _ := (completes.disk custodial).trans List.perm_middle.symm
  reported := custodial.reported
  queued := by
    obtain ⟨stale, fresh, starts, keys, strange, alone⟩ := custodial.queued
    exact ⟨stale, fresh, starts, keys, completes.strange strange, alone⟩
  ordered := custodial.ordered
  attended := custodial.attended

/-- A start is requested for the action. -/
theorem Completes.queue (wisp : ClientWisp) {startId : ℕ} (later : s.latestStart < startId) :
    Custodial texts { s with
      stager := released s action
      jobs := s.jobs.insert action.transferId ⟨wisp, action.handedOver⟩
      starts := s.starts ++ [(startId, some action.transferId)]
      latestStart := startId } where
  running := custodial.running
  kept := custodial.kept
  staged := completes.staged custodial
  unswept unswept := by
    rw [completes.swept] at unswept
    cases unswept
  ledger := by
    refine (released_ledger custodial).trans ?_
    simp only [handed, Dict.values_insert_of_get?_eq_none (completes.absent custodial), List.map_append,
      List.append_assoc, List.map_cons, List.map_nil, List.cons_append, List.nil_append]
    exact perm_past (perm_past (perm_past (.refl _) _) _) _
  keyed id job found := by
    rw [Dict.get?_insert] at found
    split_ifs at found with same
    · cases found
      exact same
    · exact custodial.keyed id job found
  disk _ := by
    refine (completes.disk custodial).trans ?_
    simp only [needed, Dict.keys_insert_of_get?_eq_none (completes.absent custodial), List.append_assoc,
      List.cons_append, List.nil_append]
    exact perm_past (perm_past (perm_past (.refl _) _) _) _
  reported := custodial.reported
  queued := by
    obtain ⟨stale, fresh, starts, keys, strange, alone⟩ := custodial.queued
    refine ⟨stale, fresh ++ [(startId, some action.transferId)], ?_, ?_, completes.strange strange, alone⟩
    · rw [starts, List.append_assoc]
    · rw [Dict.keys_insert_of_get?_eq_none (completes.absent custodial), List.map_append, List.map_append, keys]
      rfl
  ordered := custodial.ordered.push later
  attended := custodial.attended.push later

/-- The start is refused, and the files are deleted. -/
theorem Completes.refuse :
    Custodial texts { s with
      stager := { released s action with directories := s.stager.directories.erase action.transferId }
      refused := action.handedOver :: s.refused } where
  running := custodial.running
  kept := custodial.kept
  staged := (completes.staged custodial).drawn (fun _ mem => mem) rfl rfl
  unswept unswept := by
    rw [completes.swept] at unswept
    cases unswept
  ledger := by
    refine (released_ledger custodial).trans ?_
    simp only [handed, List.append_assoc, List.cons_append]
    exact perm_past (.refl _) _
  keyed := custodial.keyed
  disk _ := perm_erase (completes.disk custodial)
  reported := custodial.reported
  queued := by
    obtain ⟨stale, fresh, starts, keys, strange, alone⟩ := custodial.queued
    exact ⟨stale, fresh, starts, keys, completes.strange strange, alone⟩
  ordered := custodial.ordered
  attended := custodial.attended

/-- However the action leaves the stager, it gets a place. -/
theorem Completes.hand (selected : Option ClientWisp) {start : Option ℕ}
    (later : ∀ startId ∈ start, s.latestStart < startId) :
    Custodial texts ({ s with stager := released s action }.onFileAction action.handedOver selected start) := by
  cases selected with
  | none => exact completes.strand custodial
  | some wisp =>
    have absent := completes.absent custodial
    change Custodial texts ({ s with stager := released s action }.enqueue ⟨wisp, action.handedOver⟩ start)
    have new : s.jobs.contains (BulkTransferJob.transferId ⟨wisp, action.handedOver⟩) = false :=
      (Dict.contains_eq_false_iff ..).mpr absent
    unfold TransferApp.enqueue
    rw [if_neg (by rw [new]; exact Bool.false_ne_true)]
    cases start with
    | some startId => exact completes.queue custodial wisp (later startId rfl)
    | none =>
      have back : (s.jobs.insert action.transferId ⟨wisp, action.handedOver⟩).erase action.transferId = s.jobs :=
        Dict.erase_insert_of_get?_eq_none absent _
      have refused := completes.refuse custodial
      rw [← back] at refused
      exact refused

omit custodial completes

theorem Custodial.finish (custodial : Custodial texts s) (swept : s.swept = true) (selected : Option ClientWisp)
    {start : Option ℕ} (later : ∀ startId ∈ start, s.latestStart < startId) :
    Custodial texts (s.finishFileAction transferId selected start) := by
  rcases finishFileAction_cases s transferId selected start with same | ⟨action, found, all, handed⟩
  · rwa [same]
  · obtain ⟨rfl, -⟩ := custodial.staged.staged transferId action found
    rw [handed]
    exact Completes.hand custodial ⟨swept, found, all⟩ selected later

/-! ### Starts -/

variable {ownership : BulkTransferOwnership} {startId : ℕ} {named : Option String}
  {rest : List (ℕ × Option String)}

theorem Custodial.create (custodial : Custodial texts s) (some_start : s.starts ≠ []) : Custodial texts s.onCreate := by
  unfold TransferApp.onCreate
  cases up : s.service with
  | some ownership => exact custodial
  | none =>
    have attended := custodial.attended
    rw [up] at attended
    exact ⟨custodial.running, custodial.kept, custodial.staged, custodial.unswept, custodial.ledger, custodial.keyed,
      custodial.disk, custodial.reported, custodial.queued, custodial.ordered,
      attended.create custodial.ordered some_start⟩

/-- A start of an earlier process finds no job. -/
theorem Custodial.strange (custodial : Custodial texts s) {id : String}
    (never : id ∉ s.stager.completed.map (·.transferId)) : s.jobs.get? id = none := by
  rw [Dict.get?_eq_none_iff, custodial.jobs_keys]
  intro mem
  refine never (custodial.ids.mem_iff.mpr ?_)
  simp only [handed, List.map_append, List.mem_append]
  exact .inl (.inr mem)

/-- A start is dropped that has no job. -/
theorem Custodial.pass (custodial : Custodial texts s) (starts : s.starts = (startId, named) :: rest)
    {stale fresh : List (ℕ × Option String)} (cut : rest = stale ++ fresh)
    (keys : fresh.map Prod.snd = s.jobs.keys.map some)
    (strange : ∀ start ∈ stale, ∀ id ∈ start.2, id ∈ s.stager.drawn ∧ id ∉ s.stager.transfers.keys ∧
      id ∉ s.stager.completed.map (·.transferId)) (alone : s.tasks = [])
    {service : Option BulkTransferOwnership} (attended : Attended s.tasks rest s.latestStart s.created service) :
    Custodial texts { s with starts := rest, service := service } where
  running := custodial.running
  kept := custodial.kept
  staged := custodial.staged
  unswept := custodial.unswept
  ledger := custodial.ledger
  keyed := custodial.keyed
  disk := custodial.disk
  reported := custodial.reported
  queued := ⟨stale, fresh, cut, keys, strange, fun _ => alone⟩
  ordered := by
    have ordered := custodial.ordered
    rw [starts] at ordered
    exact ordered.pop.1
  attended := attended

/-- A job that is queued is not active. -/
theorem Custodial.inactive (custodial : Custodial texts s) (up : s.service = some ownership) {job : BulkTransferJob}
    (found : s.jobs.get? job.transferId = some job) : job.transferId ∉ ownership.active := by
  intro mem
  have owned := custodial.attended.owned ownership up
  obtain ⟨task, listed, same⟩ := List.mem_map.mp (owned.active.mem_iff.mp mem)
  have once := custodial.ids.nodup_iff.mp custodial.staged.once
  rw [handed, List.map_append, List.nodup_append] at once
  refine once.2.2 job.transferId ?_ task.job.transferId ?_ same.symm
  · rw [List.map_append, List.mem_append]
    refine .inr (List.mem_map.mpr ⟨job.action, List.mem_map.mpr ⟨job, ?_, rfl⟩, rfl⟩)
    exact (Dict.mem_values_iff ..).mpr ⟨_, found⟩
  · exact List.mem_map.mpr ⟨_, List.mem_map.mpr ⟨task, (List.mem_filter.mp listed).1, rfl⟩, rfl⟩

/-- A job goes from the queue to a coroutine. -/
theorem Custodial.launch (custodial : Custodial texts s) (up : s.service = some ownership) {job : BulkTransferJob}
    (starts : s.starts = (startId, some job.transferId) :: rest) (found : s.jobs.get? job.transferId = some job)
    {keys : List String} (head : s.jobs.keys = job.transferId :: keys) (fresh : rest.map Prod.snd = keys.map some) :
    Custodial texts { s with
      starts := rest
      jobs := s.jobs.erase job.transferId
      service := some ⟨ownership.active ++ [job.transferId], max ownership.latestStartId startId⟩
      tasks := s.tasks ++ [⟨job, s.created, .sending⟩] } := by
  have ordered := custodial.ordered
  have attended := custodial.attended
  rw [starts] at ordered attended
  rw [up] at attended
  constructor
  · exact custodial.running
  · exact custodial.kept
  · exact custodial.staged
  · exact custodial.unswept
  · refine custodial.ledger.trans ?_
    simp only [handed, List.map_append, List.append_assoc, List.map_cons, List.map_nil]
    refine ((((Dict.values_perm found).map (·.action)).append_right _).trans ?_).append_left _ |>.append_left _
    exact (perm_past (List.perm_append_singleton _ _).symm _)
  · intro id other held
    rw [Dict.get?_erase] at held
    split_ifs at held
    exact custodial.keyed id other held
  · intro swept
    refine (custodial.disk swept).trans (List.Perm.append_left _ ?_)
    have launched : sending ⟨job, s.created, .sending⟩ = true := rfl
    simp only [needed, head, Dict.keys_erase_head head, List.filter_append, List.filter_cons_of_pos launched,
      List.filter_nil, List.map_append, List.append_assoc, List.map_cons, List.map_nil, List.cons_append]
    exact (perm_past (List.perm_append_singleton _ _).symm _).append_left _
  · have launched : TransferTask.reported ⟨job, s.created, .sending⟩ = false := rfl
    have same : (s.tasks ++ [(⟨job, s.created, .sending⟩ : TransferTask)]).filter (·.reported) =
        s.tasks.filter (·.reported) := by
      rw [filter_drop launched, List.append_nil]
    have reported := custodial.reported
    rw [← same] at reported
    exact reported
  · refine ⟨[], rest, rfl, ?_, ?_, fun none_stale => absurd rfl none_stale⟩
    · rw [Dict.keys_erase_head head, fresh]
    · rintro _ ⟨⟩
  · exact ordered.pop.1
  · exact attended.accept ordered job

theorem Custodial.command (custodial : Custodial texts s) (up : s.service = some ownership)
    (starts : s.starts = (startId, named) :: rest) :
    Custodial texts ({ s with starts := rest }.onStartCommand ownership startId named) := by
  obtain ⟨stale, fresh, cut, keys, strange, alone⟩ := custodial.queued
  have ordered := custodial.ordered
  have attended := custodial.attended
  rw [starts] at ordered attended cut
  rw [up] at attended
  obtain ⟨-, -, -, last⟩ := ordered.pop
  unfold TransferApp.onStartCommand
  cases stale with
  | cons head stale =>
    obtain ⟨rfl, left⟩ := List.cons_eq_cons.mp cut
    have none_launched := alone (by simp)
    have missing : named.bind s.jobs.get? = none := by
      cases named with
      | none => rfl
      | some id => exact custodial.strange (strange _ List.mem_cons_self id rfl).2.2
    have passes : ∀ {service}, Attended s.tasks rest s.latestStart s.created service →
        Custodial texts { s with starts := rest, service := service } :=
      custodial.pass starts left keys (fun start mem => strange start (List.mem_cons_of_mem _ mem)) none_launched
    have idle : ownership.active = [] := by
      have active := (attended.owned ownership rfl).active
      rw [none_launched] at active
      exact List.perm_nil.mp active
    rw [show named.bind ({ s with starts := rest } : TransferApp).jobs.get? = none from missing]
    dsimp only
    rw [if_neg (by simp [BulkTransferOwnership.hasActiveTransfers, idle])]
    unfold TransferApp.stopSelf
    by_cases newest : startId = s.latestStart
    · rw [if_pos newest]
      have still : ∀ task ∈ s.tasks, task.active = false := by
        rw [none_launched]
        rintro _ ⟨⟩
      have destroyed := passes (attended.destroy still)
      have same : ({ s with starts := rest }.onDestroy) = { s with starts := rest, service := none } := by
        simp [TransferApp.onDestroy, none_launched]
      rw [same]
      exact destroyed
    · rw [if_neg newest]
      have stays := passes (attended.skip none_launched fun none_left => newest (last none_left))
      rw [← up] at stays
      exact stays
  | nil =>
    rw [List.nil_append] at cut
    subst cut
    cases listed : s.jobs.keys with
    | nil =>
      rw [listed] at keys
      cases keys
    | cons id others =>
      rw [listed, List.map_cons, List.map_cons, List.cons_eq_cons] at keys
      obtain ⟨rfl, fresh⟩ := keys
      have here : id ∈ s.jobs.keys := by simp [listed]
      obtain ⟨job, found⟩ := Option.ne_none_iff_exists'.mp ((Dict.mem_keys_iff ..).mp here)
      obtain rfl := custodial.keyed id job found
      have launched := custodial.launch up starts found listed fresh
      have apart := custodial.inactive up found
      rw [show (some job.transferId).bind ({ s with starts := rest } : TransferApp).jobs.get? = some job from found]
      dsimp only
      unfold BulkTransferOwnership.started
      rw [if_neg apart]
      exact launched

theorem Custodial.deliver (custodial : Custodial texts s) (delivered : s.deliver = some s') : Custodial texts s' := by
  unfold TransferApp.deliver at delivered
  cases starts : s.starts with
  | nil =>
    rw [starts] at delivered
    cases delivered
  | cons head rest =>
    obtain ⟨startId, named⟩ := head
    rw [starts] at delivered
    dsimp only at delivered
    have created := custodial.create (by simp [starts])
    have same : { s with starts := rest }.onCreate = { s.onCreate with starts := rest } := by
      cases up : s.service <;> simp only [TransferApp.onCreate, up]
    have kept : s.onCreate.starts = (startId, named) :: rest := by
      cases up : s.service <;> simpa only [TransferApp.onCreate, up] using starts
    rw [same] at delivered
    obtain ⟨ownership, up, rfl⟩ := Option.map_eq_some_iff.mp delivered
    exact created.command up kept

/-! ### Coroutines -/

variable {task : TransferTask} {index : ℕ} {stage : TransferStage} {results : List BulkTransferResult}
  {directories : List String} {service : Option BulkTransferOwnership}

/-- A coroutine reaches another stage. -/
theorem Custodial.restage (custodial : Custodial texts s) (here : s.tasks[index]? = some task)
    (disk : s.swept = true → directories.Perm
      (s.stager.transfers.keys ++ needed { s with tasks := s.tasks.set index { task with stage := stage } }))
    (reported : (results.map fun result => (result.transferId, result.wispId)).Perm
      (((s.tasks.set index { task with stage := stage }).filter (·.reported)).map
        fun task => (task.job.transferId, task.job.wisp.id)))
    (attended : Attended (s.tasks.set index { task with stage := stage }) s.starts s.latestStart s.created service) :
    Custodial texts { s with
      stager := { s.stager with directories := directories }
      tasks := s.tasks.set index { task with stage := stage }
      results := results
      service := service } where
  running := custodial.running
  kept := custodial.kept
  staged := custodial.staged.drawn (fun _ mem => mem) rfl rfl
  unswept := custodial.unswept
  ledger := by
    obtain ⟨before, after, cut, set⟩ := set_split here
    have same : (s.tasks.set index { task with stage := stage }).map (·.job.action) = s.tasks.map (·.job.action) := by
      rw [set, cut, List.map_append, List.map_append, List.map_cons, List.map_cons]
    simp only [handed, same]
    exact custodial.ledger
  keyed := custodial.keyed
  disk := disk
  reported := reported
  queued := by
    obtain ⟨stale, fresh, starts, keys, strange, alone⟩ := custodial.queued
    refine ⟨stale, fresh, starts, keys, strange, fun some_stale => ?_⟩
    rw [alone some_stale] at here
    cases here
  ordered := custodial.ordered
  attended := attended

/-- What is needed does not change, unless the coroutine sends. -/
theorem needed_restage (here : s.tasks[index]? = some task) (was : sending task = false)
    (is : sending { task with stage := stage } = false) :
    needed { s with tasks := s.tasks.set index { task with stage := stage } } = needed s := by
  obtain ⟨before, after, cut, set⟩ := set_split here
  simp only [needed, set, filter_drop is]
  rw [cut, filter_drop was]

theorem reported_restage (here : s.tasks[index]? = some task) (was : task.reported = true)
    (is : TransferTask.reported { task with stage := stage } = true) :
    ((s.tasks.filter (·.reported)).map fun task => (task.job.transferId, task.job.wisp.id)).Perm
      (((s.tasks.set index { task with stage := stage }).filter (·.reported)).map
        fun task => (task.job.transferId, task.job.wisp.id)) := by
  obtain ⟨before, after, cut, set⟩ := set_split here
  rw [set]
  nth_rewrite 1 [cut]
  refine ((filter_perm was).map _).trans (List.Perm.symm ?_)
  exact (filter_perm is).map fun other : TransferTask => (other.job.transferId, other.job.wisp.id)

/-- The files are sent or not, and deleted. -/
theorem Custodial.send (custodial : Custodial texts s) (here : s.tasks[index]? = some task)
    (at_stage : task.stage = .sending) (outcome : Except (Option String) WispState) :
    Custodial texts ((s.setStage index task (.sent outcome)).cleanup task.job.action) := by
  obtain ⟨before, after, cut, set⟩ := set_split here
  have was : sending task = true := decide_eq_true at_stage
  have is : sending { task with stage := .sent outcome } = false := rfl
  have unreported : task.reported = false := by rw [TransferTask.reported, at_stage]
  have still : TransferTask.reported { task with stage := .sent outcome } = false := rfl
  have active : task.active = true := by rw [TransferTask.active, at_stage]
  refine custodial.restage here (fun swept => ?_) ?_ ?_
  · have listed : (needed s).Perm
        (task.job.transferId :: needed { s with tasks := s.tasks.set index { task with stage := .sent outcome } }) := by
      simp only [needed, set, filter_drop is]
      rw [cut]
      exact (((filter_perm was).map _).append_left _).trans List.perm_middle
    exact perm_erase ((custodial.disk swept).trans ((listed.append_left _).trans List.perm_middle))
  · rw [set, filter_drop still, ← filter_drop unreported, ← cut]
    exact custodial.reported
  · have attended := custodial.attended
    rw [set]
    rw [cut] at attended
    exact attended.restage active rfl

theorem Custodial.publish (custodial : Custodial texts s) (here : s.tasks[index]? = some task)
    {outcome : Except (Option String) WispState} (at_stage : task.stage = .sent outcome) :
    Custodial texts ({ s with results := task.job.result outcome :: s.results }.setStage index task .published) := by
  obtain ⟨before, after, cut, set⟩ := set_split here
  have was : sending task = false := decide_eq_false (by rw [at_stage]; simp)
  have unreported : task.reported = false := by rw [TransferTask.reported, at_stage]
  have reports : TransferTask.reported { task with stage := .published } = true := rfl
  have active : task.active = true := by rw [TransferTask.active, at_stage]
  refine custodial.restage here (fun swept => ?_) ?_ ?_
  · rw [needed_restage here was rfl]
    exact custodial.disk swept
  · have result : ((task.job.result outcome).transferId, (task.job.result outcome).wispId) =
        (task.job.transferId, task.job.wisp.id) := by
      cases outcome <;> rfl
    have reported := custodial.reported
    rw [cut, filter_drop unreported] at reported
    rw [set, List.map_cons, result]
    refine (reported.cons _).trans (List.Perm.symm ?_)
    exact (filter_perm reports).map fun other : TransferTask => (other.job.transferId, other.job.wisp.id)
  · have attended := custodial.attended
    rw [set]
    rw [cut] at attended
    exact attended.restage active rfl

theorem Custodial.give_up (custodial : Custodial texts s) (here : s.tasks[index]? = some task)
    (at_stage : task.stage = .published) : Custodial texts (s.finished index task) := by
  obtain ⟨before, after, cut, set⟩ := set_split here
  have was : sending task = false := decide_eq_false (by rw [at_stage]; simp)
  have reports : task.reported = true := by rw [TransferTask.reported, at_stage]
  have active : task.active = true := by rw [TransferTask.active, at_stage]
  have mem : task ∈ s.tasks := List.mem_of_getElem? here
  have attended := custodial.attended
  cases up : s.service with
  | none =>
    have idle := attended.idle up task mem
    rw [active] at idle
    cases idle
  | some ownership =>
    have mine := (attended.owned ownership up).mine task mem active
    rw [up, cut] at attended
    have finishes := attended.finish custodial.ordered active
    rw [← set] at finishes
    unfold TransferApp.finished
    rw [up]
    dsimp only
    rw [if_pos mine]
    have not_sending : sending { task with
        stage := (ownership.finished task.job.transferId).2.elim .ended .stopping } = false := by
      cases (ownership.finished task.job.transferId).2 <;> rfl
    have still : TransferTask.reported { task with
        stage := (ownership.finished task.job.transferId).2.elim .ended .stopping } = true := by
      cases (ownership.finished task.job.transferId).2 <;> rfl
    refine custodial.restage here (fun swept => ?_) ?_ finishes
    · rw [needed_restage here was not_sending]
      exact custodial.disk swept
    · exact custodial.reported.trans (reported_restage here reports still)

theorem Custodial.stop (custodial : Custodial texts s) (here : s.tasks[index]? = some task)
    (at_stage : task.stage = .stopping startId) : Custodial texts
      ((if s.service.isSome ∧ task.service = s.created then s.stopSelf startId else s).setStage index task .ended) := by
  obtain ⟨before, after, cut, set⟩ := set_split here
  have was : sending task = false := decide_eq_false (by rw [at_stage]; simp)
  have reports : task.reported = true := by rw [TransferTask.reported, at_stage]
  have mem : task ∈ s.tasks := List.mem_of_getElem? here
  have attended := custodial.attended
  have ends : ∀ {service}, Attended (s.tasks.set index { task with stage := .ended }) s.starts s.latestStart s.created
      service → Custodial texts ({ s with service := service }.setStage index task .ended) := by
    intro service attended
    refine custodial.restage here (fun swept => ?_) ?_ attended
    · rw [needed_restage here was rfl]
      exact custodial.disk swept
    · exact custodial.reported.trans (reported_restage here reports rfl)
  have stays : (s.service ≠ none → task.service = s.created → startId ≠ s.latestStart) →
      Custodial texts (s.setStage index task .ended) := by
    intro early
    rw [cut] at attended
    have leaves := attended.leave at_stage early
    rw [← set] at leaves
    exact ends leaves
  by_cases mine : s.service.isSome ∧ task.service = s.created
  · rw [if_pos mine]
    unfold TransferApp.stopSelf
    by_cases newest : startId = s.latestStart
    · rw [if_pos newest]
      obtain ⟨ownership, up⟩ := Option.isSome_iff_exists.mp mine.1
      have still := (((attended.owned ownership up).quiet startId ⟨task, mem, mine.2, at_stage⟩).2 newest).2
      have destroyed : Attended s.tasks s.starts s.latestStart s.created none := attended.destroy still
      rw [cut] at destroyed
      have leaves := destroyed.leave at_stage fun up => absurd rfl up
      rw [← set] at leaves
      have same : s.onDestroy = { s with service := none } := by
        have none_active : s.tasks.filter (·.active) = [] :=
          List.filter_eq_nil_iff.mpr fun task mem => by simp [still task mem]
        simp [TransferApp.onDestroy, none_active]
      rw [same]
      exact ends leaves
    · rw [if_neg newest]
      exact stays fun _ _ => newest
  · rw [if_neg mine]
    exact stays fun up service => absurd ⟨Option.isSome_iff_ne_none.mpr up, service⟩ mine

theorem Custodial.advance {execution : Execution} (custodial : Custodial texts s)
    (advanced : s.advance index execution = some s') : Custodial texts s' := by
  obtain ⟨task, here, stepped⟩ := Option.bind_eq_some_iff.mp advanced
  cases stage : task.stage with
  | sending =>
    rw [stage] at stepped
    cases stepped
    exact custodial.send here stage _
  | sent outcome =>
    rw [stage] at stepped
    cases stepped
    exact custodial.publish here stage
  | published =>
    rw [stage] at stepped
    cases stepped
    exact custodial.give_up here stage
  | stopping startId =>
    rw [stage] at stepped
    cases stepped
    exact custodial.stop here stage
  | ended =>
    rw [stage] at stepped
    cases stepped

theorem Custodial.step {event : TransferEvent} (custodial : Custodial texts s)
    (stepped : s.step texts event = some s') : Custodial texts s' := by
  cases event with
  | opened =>
    simp only [TransferApp.step] at stepped
    split_ifs at stepped
    cases stepped
    exact custodial.sweep
  | staging call =>
    have other : ∀ transferId throws, call ≠ .finish transferId throws := by
      rintro transferId throws rfl
      cases stepped
    have called : (if s.crashed = true ∨ ¬ s.swept = true then none
        else (s.stager.step texts call).map fun stager => { s with stager := stager }) = some s' := by
      cases call with
      | finish transferId throws => exact absurd rfl (other transferId throws)
      | _ => exact stepped
    split_ifs at called with barred
    obtain ⟨stager, moved, rfl⟩ := Option.map_eq_some_iff.mp called
    rw [not_or, not_not] at barred
    refine custodial.stage barred.2 (step_staged custodial.staged moved) ?_
    exact call_stages custodial.staged (fun d mem => custodial.apart (custodial.needed_handed mem)) other moved
  | finish transferId selected start =>
    simp only [TransferApp.step] at stepped
    split_ifs at stepped with barred later
    cases stepped
    rw [not_or, not_not] at barred
    exact custodial.finish barred.2 selected later
  | deliver =>
    simp only [TransferApp.step] at stepped
    split_ifs at stepped
    exact custodial.deliver stepped
  | advance index execution =>
    simp only [TransferApp.step] at stepped
    split_ifs at stepped
    exact custodial.advance stepped

theorem Custodial.start (initial : TransferApp.Initial s) : Custodial texts s := by
  obtain ⟨fresh, transfers, completed, drawn, positive, ordered, latest⟩ := initial
  have staged : Staged texts s.stager :=
    (initial_staged (s := { }) ⟨rfl, rfl, rfl, rfl⟩ : Staged texts {}).drawn (List.nil_subset _) transfers completed
  rw [fresh]
  constructor
  · rfl
  · rfl
  · exact staged
  · exact fun _ => ⟨transfers, completed⟩
  · rw [completed]
    exact .nil
  · rintro id job ⟨⟩
  · rintro ⟨⟩
  · exact .nil
  · refine ⟨s.starts, [], (List.append_nil _).symm, rfl, fun start mem id named => ⟨drawn start mem id named, ?_, ?_⟩,
      fun _ => rfl⟩
    · rw [transfers]
      rintro ⟨⟩
    · rw [completed]
      rintro ⟨⟩
  · exact ⟨positive, ordered, latest⟩
  · constructor
    · rintro _ ⟨⟩
    · rintro _ _ ⟨⟩
    · rintro _ ⟨⟩

theorem reach_custodial {meets : TransferApp → TransferEvent → Prop}
    (reach : Reach (TransferApp.step texts) meets TransferApp.Initial s) : Custodial texts s :=
  reach.invariant (Custodial texts) (fun _ => Custodial.start) fun _ _ _ _ custodial _ => custodial.step

/-! ### Actions without a place to go -/

/-- A finished action has a wisp to go to. -/
def selects (_ : TransferApp) : TransferEvent → Prop
  | .finish _ selected _ => selected ≠ none
  | _ => True

instance (s : TransferApp) : (event : TransferEvent) → Decidable (selects s event)
  | .finish _ selected _ => inferInstanceAs (Decidable (selected ≠ none))
  | .opened | .staging _ | .deliver | .advance _ _ => isTrue trivial

theorem finish_stranded (custodial : Custodial texts s) {selected : Option ClientWisp} (chosen : selected ≠ none)
    (start : Option ℕ) : (s.finishFileAction transferId selected start).stranded = s.stranded := by
  rcases finishFileAction_cases s transferId selected start with same | ⟨action, found, all, handed⟩
  · rw [same]
  · rw [handed]
    obtain ⟨rfl, -⟩ := custodial.staged.staged transferId action found
    cases selected with
    | none => exact absurd rfl chosen
    | some wisp =>
      change (TransferApp.enqueue _ ⟨wisp, action.handedOver⟩ start).stranded = s.stranded
      have listed : action.transferId ∈ s.stager.transfers.keys := (Dict.mem_keys_iff ..).mpr (by simp [found])
      have new : s.jobs.contains action.transferId = false := by
        rw [Dict.contains_eq_false_iff, Dict.get?_eq_none_iff, custodial.jobs_keys]
        intro mem
        refine custodial.apart ?_ listed
        simp only [Soundness.TransferService.handed, List.map_append, List.mem_append]
        exact .inl (.inr mem)
      unfold TransferApp.enqueue
      rw [if_neg (by change ¬ s.jobs.contains action.transferId = true; rw [new]; exact Bool.false_ne_true)]
      cases start <;> rfl

theorem stopSelf_stranded (s : TransferApp) (startId : ℕ) : (s.stopSelf startId).stranded = s.stranded := by
  unfold TransferApp.stopSelf
  split_ifs <;> rfl

theorem deliver_stranded (delivered : s.deliver = some s') : s'.stranded = s.stranded := by
  unfold TransferApp.deliver at delivered
  split at delivered
  · cases delivered
  · rename_i startId named rest starts
    obtain ⟨ownership, -, rfl⟩ := Option.map_eq_some_iff.mp delivered
    have created : ({ s with starts := rest } : TransferApp).onCreate.stranded = s.stranded := by
      unfold TransferApp.onCreate
      split <;> rfl
    unfold TransferApp.onStartCommand
    split
    · split_ifs
      · exact created
      · rw [stopSelf_stranded, created]
    · dsimp only
      split <;> exact created

theorem advance_stranded {execution : Execution} (advanced : s.advance index execution = some s') :
    s'.stranded = s.stranded := by
  obtain ⟨task, -, stepped⟩ := Option.bind_eq_some_iff.mp advanced
  split at stepped
  · cases stepped
    rfl
  · cases stepped
    rfl
  · cases stepped
    unfold TransferApp.finished
    split
    · rfl
    · split_ifs <;> rfl
  · cases stepped
    change (if _ then s.stopSelf _ else s).stranded = s.stranded
    split_ifs
    · exact stopSelf_stranded s _
    · rfl
  · cases stepped

theorem step_stranded {event : TransferEvent} (custodial : Custodial texts s) (chosen : selects s event)
    (stepped : s.step texts event = some s') : s'.stranded = s.stranded := by
  cases event with
  | opened =>
    simp only [TransferApp.step] at stepped
    split_ifs at stepped
    cases stepped
    unfold TransferApp.sweepOnce
    split_ifs <;> rfl
  | staging call =>
    simp only [TransferApp.step] at stepped
    split at stepped
    · cases stepped
    · split_ifs at stepped
      obtain ⟨stager, -, rfl⟩ := Option.map_eq_some_iff.mp stepped
      rfl
  | finish transferId selected start =>
    simp only [TransferApp.step] at stepped
    split_ifs at stepped
    cases stepped
    exact finish_stranded custodial chosen start
  | deliver =>
    simp only [TransferApp.step] at stepped
    split_ifs at stepped
    exact deliver_stranded stepped
  | advance index execution =>
    simp only [TransferApp.step] at stepped
    split_ifs at stepped
    exact advance_stranded stepped

end Steps

/-! ## The result -/

/-- Where everything is. -/
structure Custody (s : TransferApp) : Prop where
  running : s.crashed = false
  /-- No transfer was cancelled by the end of its service. -/
  kept : s.cancelled = []
  once : (s.stager.completed.map (·.transferId)).Nodup
  /-- A completed action is in one place. -/
  placed : (s.stager.completed.map (·.handedOver)).Perm (handed s)
  /-- The directories are those of transfers in the stager and of actions whose files are needed. -/
  disk : s.swept = true → s.stager.directories.Perm (s.stager.transfers.keys ++ needed s)
  /-- A coroutine publishes one result, for its own transfer and wisp. -/
  reported : (s.results.map fun result => (result.transferId, result.wispId)).Perm
    ((s.tasks.filter (·.reported)).map fun task => (task.job.transferId, task.job.wisp.id))
  /-- A queued job has a start that will be delivered. -/
  awaited : ∀ id ∈ s.jobs.keys, ∃ start ∈ s.starts, start.2 = some id
  /-- When nothing is left to do, the queue is empty and the service is down. -/
  settled : s.starts = [] → (∀ task ∈ s.tasks, task.stage = .ended) → s.jobs.keys = [] ∧ s.service = none

section Samples

/-- The starts of an earlier process, with its directories. -/
def leftApp : TransferApp where
  stager := { drawn := ["old"], directories := ["old"] }
  starts := [(7, some "old")]
  latestStart := 7

/-- A start of an earlier process, a file that is staged and sent, and the end of the service. -/
def transferRun : List TransferEvent :=
  let works : Execution := ⟨.ok (), .ok ⟨"photos", "", []⟩, true, .ok ()⟩
  [.opened, .deliver] ++ (stagedRun.dropLast.map TransferEvent.staging) ++
    [.finish sampleUuid (some ⟨"photos", "owner", "key"⟩) (some 8), .deliver, .advance 0 works, .advance 0 works,
      .advance 0 works, .advance 0 works]

end Samples

end WispGate.Soundness.TransferService
