import WispGate.Data.Totals
import WispGate.Model.Wisp.Service
import WispGate.Soundness.Attendance

/-! # The byte budget of a Wisp

The sums that `_begin_file_action` checks stay within their bounds in every run, since everything else
only takes transfers out of the table, and the directories on the disk are those of the transfers in it.
A file action that is refused leaves both as they were.
-/

namespace WispGate.Soundness.Budget

open Data Model Model.Wisp RuntimeMoves Dispatching Isolation Execution Transfers

/-! ## The bounds -/

/-- Between 1 and the maximum of files with distinct ids, each announced with the bytes of its tag. -/
structure Filed (files : Dict String IncomingFile) : Prop where
  nonempty : 1 ≤ files.size
  few : files.size ≤ maxFilesPerAction
  distinct : (files.values.map (·.id)).Nodup
  tagged : ∀ file ∈ files.values, (file.bulk.get "ciphertext_size").pyEq (.int (file.size + 16)) = true

structure Bounded (t : Tables) : Prop where
  bytes : (t.transfers.values.map Transfer.bytes).sum ≤ maxFileActionBytes
  senders : ∀ sender, (t.transfers.keys.filter fun key => key.1 = sender).length ≤ maxActiveTransfersPerSender
  files : ∀ transfer ∈ t.transfers.values, Filed transfer.files

/-- The directories on the disk are those of the transfers in the table, each with its own. -/
structure Housed (s : Service) : Prop where
  keys : ∀ key, (∃ directory, s.directories.get? key = some directory) ↔
    ∃ transfer, s.runtime.tables.transfers.get? key = some transfer
  present : ∀ directory, directory ∈ s.disk.present ↔ ∃ key, s.directories.get? key = some directory
  apart : ∀ key other directory, s.directories.get? key = some directory → s.directories.get? other = some directory →
    key = other

/-! ## Manifests -/

section Manifests

variable {printable : Char → Bool} {reserved total index now : ℕ} {files files' : Dict String IncomingFile}
  {manifest : Json} {manifests : List Json} {t : Tables} {sender wisp : String} {body : Json}

/-- The loop over the manifests keeps every file under its id and the sum within the budget. -/
theorem acceptManifests_ok (accepted : acceptManifests printable reserved total files index manifests = .ok files')
    (named : ∀ id file, files.get? id = some file → file.id = id)
    (tagged : ∀ file ∈ files.values, (file.bulk.get "ciphertext_size").pyEq (.int (file.size + 16)) = true)
    (counted : files.total (·.size) = total) (room : reserved + total ≤ maxFileActionBytes) :
    (∀ id file, files'.get? id = some file → file.id = id) ∧
      (∀ file ∈ files'.values, (file.bulk.get "ciphertext_size").pyEq (.int (file.size + 16)) = true) ∧
      files'.size = files.size + manifests.length ∧ reserved + files'.total (·.size) ≤ maxFileActionBytes := by
  induction manifests generalizing total files index with
  | nil =>
    cases accepted
    exact ⟨named, tagged, rfl, counted.symm ▸ room⟩
  | cons manifest rest ih =>
    simp only [acceptManifests] at accepted
    split at accepted
    · cases accepted
    · rename_i file one
      obtain ⟨-, acceptable⟩ := FileActions.acceptManifest_ok_iff.mp one
      have absent := (Dict.contains_eq_false_iff _ _).mp acceptable.fresh
      have named' : ∀ id other, (files.insert file.id file).get? id = some other → other.id = id := by
        intro id other found
        rw [Dict.get?_insert] at found
        split_ifs at found with here
        · cases found
          exact here
        · exact named id other found
      have tagged' : ∀ other ∈ (files.insert file.id file).values,
          (other.bulk.get "ciphertext_size").pyEq (.int (other.size + 16)) = true := by
        intro other mem
        rw [Dict.values_insert_of_get?_eq_none absent, List.mem_append, List.mem_singleton] at mem
        rcases mem with mem | rfl
        · exact tagged other mem
        · exact acceptable.ciphertextSize
      have counted' : (files.insert file.id file).total (·.size) = total + file.size := by
        rw [Dict.total_insert absent, counted]
      obtain ⟨named'', tagged'', size, bound⟩ := ih accepted named' tagged' counted' acceptable.room
      refine ⟨named'', tagged'', ?_, bound⟩
      have grown : (files.insert file.id file).size = files.size + 1 := by
        have values := congrArg List.length (Dict.values_insert_of_get?_eq_none absent file)
        simpa [Dict.values, Dict.size] using values
      rw [size, grown, List.length_cons]
      omega

/-- Files under their own ids have distinct ones. -/
theorem ids_nodup (named : ∀ id file, files.get? id = some file → file.id = id) : (files.values.map (·.id)).Nodup := by
  have ids : files.values.map (·.id) = files.keys := by
    unfold Dict.values Dict.keys
    rw [List.map_map]
    refine List.map_congr_left fun entry mem => ?_
    exact named entry.1 entry.2 ((Dict.get?_eq_some_iff _ _ _).mpr mem)
  rw [ids]
  exact files.nodup

/-- A file action that begins stays within the bounds. -/
theorem beginFileAction_bounded {t' : Tables} {response : Json} (bounded : Bounded t)
    (begun : beginFileAction printable t sender wisp body now = .ok (t', response)) : Bounded t' := by
  obtain ⟨manifests, files, begins, rfl, -⟩ := FileActions.beginFileAction_ok_iff.mp begun
  have active := (Dict.contains_eq_false_iff _ _).mp begins.absent
  obtain ⟨named, tagged, size, room⟩ := acceptManifests_ok begins.accepted (by simp) (by simp [Dict.empty, Dict.values]) rfl
    (by simpa using bounded.bytes)
  have counted : files.size = manifests.length := by simpa [Dict.empty, Dict.size] using size
  have nonempty : 1 ≤ manifests.length := List.length_pos_iff.mpr begins.nonempty
  constructor
  · dsimp only
    rw [Dict.values_insert_of_get?_eq_none active]
    simpa [Transfer.bytes, Dict.total] using room
  · intro other
    dsimp only
    rw [Dict.keys_insert_of_get?_eq_none active, List.filter_append, List.length_append]
    by_cases same : sender = other
    · subst same
      simpa using Nat.succ_le_of_lt begins.room
    · simpa [same] using bounded.senders other
  · intro transfer mem
    dsimp only at mem
    rw [Dict.values_insert_of_get?_eq_none active, List.mem_append, List.mem_singleton] at mem
    rcases mem with mem | rfl
    · exact bounded.files transfer mem
    · exact ⟨counted ▸ nonempty, counted ▸ begins.few, ids_nodup named, tagged⟩

/-- The bounds outlast whatever only takes transfers away. -/
theorem Bounded.shrunk {t' : Tables} (bounded : Bounded t) (shrunk : Shrunk t t') : Bounded t' where
  bytes := by
    have fewer : t'.transfers.total Transfer.bytes ≤ t.transfers.total Transfer.bytes := by
      refine Dict.total_le fun key transfer found => ?_
      obtain ⟨original, held, same⟩ := shrunk key transfer found
      refine ⟨original, held, ?_⟩
      rw [same]
      rfl
    exact fewer.trans bounded.bytes
  senders sender := by
    refine le_trans (Dict.count_keys_le (fun key transfer found => ?_) _) (bounded.senders sender)
    obtain ⟨original, held, -⟩ := shrunk key transfer found
    exact ⟨original, held⟩
  files transfer mem := by
    obtain ⟨key, found⟩ := (Dict.mem_values_iff _ _).mp mem
    obtain ⟨original, held, same⟩ := shrunk key transfer found
    rw [same]
    exact bounded.files original ((Dict.mem_values_iff _ _).mpr ⟨key, held⟩)

/-! ## The disk -/

theorem rmtree_mkdtemp (disk : Disk) : (disk.mkdtemp.2.rmtree [disk.mkdtemp.1]).present = disk.present := by
  have fresh : disk.made ∉ disk.present := fun mem => lt_irrefl _ (disk.known _ mem)
  simp only [Disk.mkdtemp, Disk.rmtree, List.mem_singleton, List.filter_cons, decide_not, Bool.not_true,
    Bool.false_eq_true, if_false, decide_true]
  refine List.filter_eq_self.mpr fun directory mem => ?_
  have apart : directory ≠ disk.made := fun same => fresh (same ▸ mem)
  simp [apart]

/-- A refused file action leaves the tables and the directories that are there. -/
theorem beginOnDisk_refused (disk : Disk) {text : String}
    (refused : beginFileAction printable t sender wisp body now = .error text) :
    ∃ disk', beginOnDisk printable t disk sender wisp body now = ((t, disk'), .error text) ∧
      disk'.present = disk.present := by
  unfold beginFileAction at refused
  unfold beginOnDisk
  dsimp only at refused ⊢
  cases read : (body.get "files").asArr? with
  | none =>
    rw [read] at refused
    cases refused
    exact ⟨disk, rfl, rfl⟩
  | some manifests =>
    rw [read] at refused
    dsimp only at refused ⊢
    split_ifs at refused ⊢
    · cases refused
      exact ⟨disk, rfl, rfl⟩
    · cases refused
      exact ⟨disk, rfl, rfl⟩
    · cases refused
      exact ⟨disk, rfl, rfl⟩
    · cases refused
      exact ⟨disk, rfl, rfl⟩
    · generalize acceptManifests printable _ 0 .empty 0 manifests = outcome at refused ⊢
      cases outcome with
      | error text =>
        cases refused
        exact ⟨_, rfl, rmtree_mkdtemp disk⟩
      | ok files => cases refused
    · cases refused
      exact ⟨disk, rfl, rfl⟩

/-- An accepted one has a new directory. -/
theorem beginOnDisk_accepted (disk : Disk) {t' : Tables} {response : Json}
    (begun : beginFileAction printable t sender wisp body now = .ok (t', response)) :
    beginOnDisk printable t disk sender wisp body now = ((t', disk.mkdtemp.2), .ok (response, disk.mkdtemp.1)) := by
  unfold beginFileAction at begun
  unfold beginOnDisk
  dsimp only at begun ⊢
  cases read : (body.get "files").asArr? with
  | none =>
    rw [read] at begun
    cases begun
  | some manifests =>
    rw [read] at begun
    dsimp only at begun ⊢
    split_ifs at begun ⊢
    generalize acceptManifests printable _ 0 .empty 0 manifests = outcome at begun ⊢
    cases outcome with
    | error text => cases begun
    | ok files =>
      cases begun
      rfl

end Manifests

/-! ## Steps -/

section Steps

variable {env : Env} {s s' : Service} {m : Runtime} {event : Event} {key : Key} {directory : Directory}

/-- The start of a thread is only noted down. -/
theorem starts_frame (s : Service) (before : Runtime) (event : Event) :
    (s.starts before event).runtime = s.runtime ∧ (s.starts before event).directories = s.directories ∧
      (s.starts before event).disk = s.disk := by
  unfold Service.starts
  split
  · split_ifs
    · split
      · exact ⟨rfl, rfl, rfl⟩
      · exact ⟨rfl, rfl, rfl⟩
    · exact ⟨rfl, rfl, rfl⟩
  · exact ⟨rfl, rfl, rfl⟩

theorem follow_runtime (s : Service) (event : Event) (m : Runtime) : (s.follow event m).runtime = m := by
  unfold Service.follow
  dsimp only
  split
  · rfl
  · rfl

theorem follow_frame (s : Service) (event : Event) (m : Runtime) :
    (s.follow event m).calls = s.calls ∧ (s.follow event m).closing = s.closing := by
  unfold Service.follow
  dsimp only
  split
  · exact ⟨rfl, rfl⟩
  · exact ⟨rfl, rfl⟩

/-- Only a step of a worker starts a thread. -/
theorem starts_loop (s : Service) (before : Runtime) (loops : ∀ key move, event ≠ .worker key move) :
    s.starts before event = s := by
  unfold Service.starts
  split
  · exact absurd rfl (loops _ _)
  · rfl

theorem registered_found (registered : Service.registered event m = some key) :
    ∃ transfer, m.tables.transfers.get? key = some transfer := by
  unfold Service.registered at registered
  split at registered
  · split_ifs at registered with known
    cases registered
    exact (Dict.contains_iff _ _).mp known
  · split_ifs at registered with known
    cases registered
    exact (Dict.contains_iff _ _).mp known
  · cases registered

/-- A transfer that is registered for a file action is seen. -/
theorem registered_begun {due : List Key} {sender wisp : String} {body response : Json} {before : Runtime}
    (served : (∃ message, event = .frame message) ∨ event = .swept)
    (begun : Begun env before due m sender wisp body response) :
    Service.registered event m = some (sender, transferIdOf env.printable body) := by
  obtain ⟨files, same⟩ := begun.tables
  have known : m.tables.transfers.contains (sender, transferIdOf env.printable body) = true := by
    rw [same, Dict.contains_iff]
    exact ⟨_, Dict.get?_insert_self _ _ _⟩
  rcases served with ⟨message, rfl⟩ | rfl
  · simp [Service.registered, begun.sending, known]
  · simp [Service.registered, begun.sending, known]

/-- Whatever was not registered in a step was there before. -/
theorem registered_new (stepped : s.runtime.step env event = some m) {transfer : Transfer}
    (found : m.tables.transfers.get? key = some transfer) (other : Service.registered event m ≠ some key) :
    ∃ original, s.runtime.tables.transfers.get? key = some original := by
  cases step_registers stepped with
  | none shrunk beginning =>
    obtain ⟨original, held, -⟩ := shrunk key transfer found
    exact ⟨original, held⟩
  | one n due sender wisp body response served now shrunk begun =>
    rcases begun.get? key with same | ⟨rfl, -, -⟩
    · rw [same] at found
      obtain ⟨original, held, -⟩ := (shrunk.trans (drop_shrunk n.tables due n.now)) key transfer found
      exact ⟨original, held⟩
    · exact absurd (registered_begun served begun) other

/-- The directories that stay: those of transfers that stay. -/
theorem kept_get? (s : Service) (event : Event) (m : Runtime) (key : Key) :
    (s.directories.filter fun key _ => m.tables.transfers.contains key &&
      decide (Service.registered event m ≠ some key)).get? key =
      if m.tables.transfers.contains key = true ∧ Service.registered event m ≠ some key then s.directories.get? key
      else none := by
  have stays : (m.tables.transfers.contains key && decide (Service.registered event m ≠ some key)) = true ↔
      m.tables.transfers.contains key = true ∧ Service.registered event m ≠ some key := by
    rw [Bool.and_eq_true, decide_eq_true_eq]
  rw [Dict.get?_filter]
  cases s.directories.get? key with
  | none => simp
  | some directory =>
    rw [Option.filter_some]
    exact if_congr stays rfl rfl

theorem follow_directories (s : Service) (event : Event) (m : Runtime) (key : Key) :
    (s.follow event m).directories.get? key = if Service.registered event m = some key then some s.disk.made
      else if m.tables.transfers.contains key = true then s.directories.get? key else none := by
  have kept := kept_get? s event m key
  unfold Service.follow
  dsimp only
  split
  · rename_i unregistered
    have apart : Service.registered event m ≠ some key := by simp [unregistered]
    rw [kept, if_neg apart]
    exact if_congr (and_iff_left apart) rfl rfl
  · rename_i other registered
    change Dict.get? (Dict.insert _ other s.disk.made) key = _
    rw [Dict.get?_insert, kept]
    by_cases same : other = key
    · rw [if_pos same, if_pos (same ▸ registered)]
    · have apart : Service.registered event m ≠ some key := fun same' =>
        same (Option.some.inj (registered.symm.trans same'))
      rw [if_neg same, if_neg apart]
      exact if_congr (and_iff_left apart) rfl rfl

theorem follow_present (housed : Housed s) (event : Event) (m : Runtime) :
    directory ∈ (s.follow event m).disk.present ↔
      ∃ key, (s.follow event m).directories.get? key = some directory := by
  have stays : ∀ kept : Dict Key Directory,
      (∀ key directory, kept.get? key = some directory → s.directories.get? key = some directory) →
      (directory ∈ (s.disk.rmtree (s.directories.values.filter fun directory =>
        decide (directory ∉ kept.values))).present ↔ ∃ key, kept.get? key = some directory) := by
    intro kept below
    rw [← Dict.mem_values_iff]
    constructor
    · intro mem
      obtain ⟨here, out⟩ := List.mem_filter.mp mem
      have held := (Dict.mem_values_iff _ _).mpr ((housed.present directory).mp here)
      by_contra gone
      refine absurd (List.mem_filter.mpr ⟨held, ?_⟩) (of_decide_eq_true out)
      exact decide_eq_true gone
    · intro mem
      obtain ⟨key, found⟩ := (Dict.mem_values_iff _ _).mp mem
      refine List.mem_filter.mpr ⟨(housed.present directory).mpr ⟨key, below key directory found⟩, ?_⟩
      refine decide_eq_true fun out => ?_
      exact absurd mem (of_decide_eq_true (List.mem_filter.mp out).2)
  have below : ∀ key directory, (s.directories.filter fun key _ => m.tables.transfers.contains key &&
      decide (Service.registered event m ≠ some key)).get? key = some directory →
      s.directories.get? key = some directory := by
    intro key directory found
    rw [kept_get?] at found
    split_ifs at found
    exact found
  unfold Service.follow
  dsimp only
  split
  · exact stays _ below
  · rename_i key registered
    change directory ∈ s.disk.made :: (s.disk.rmtree _).present ↔
      ∃ other, Dict.get? (Dict.insert _ key s.disk.made) other = some directory
    rw [List.mem_cons, stays _ below]
    constructor
    · rintro (rfl | ⟨other, found⟩)
      · exact ⟨key, Dict.get?_insert_self _ _ _⟩
      · refine ⟨other, ?_⟩
        have apart : key ≠ other := by
          rintro rfl
          rw [kept_get?, registered] at found
          simp at found
        rw [Dict.get?_insert_of_ne _ _ apart]
        exact found
    · rintro ⟨other, found⟩
      rw [Dict.get?_insert] at found
      split_ifs at found with same
      · exact .inl (Option.some.inj found).symm
      · exact .inr ⟨other, found⟩

theorem follow_housed (housed : Housed s) (stepped : s.runtime.step env event = some m) : Housed (s.follow event m) := by
  have old : ∀ {key directory}, s.directories.get? key = some directory → directory ≠ s.disk.made := by
    rintro key directory held rfl
    exact lt_irrefl _ (s.disk.known _ ((housed.present _).mpr ⟨key, held⟩))
  constructor
  · intro key
    rw [follow_directories, follow_runtime]
    split_ifs with registered known
    · exact iff_of_true ⟨_, rfl⟩ (registered_found registered)
    · obtain ⟨transfer, found⟩ := (Dict.contains_iff _ _).mp known
      exact iff_of_true ((housed.keys key).mpr (registered_new stepped found registered)) ⟨transfer, found⟩
    · refine iff_of_false (by simp) fun found => known ((Dict.contains_iff _ _).mpr found)
  · exact fun directory => follow_present housed event m
  · intro key other directory held held'
    rw [follow_directories] at held held'
    split_ifs at held held' with registered known registered' known' registered'' known''
    · exact Option.some.inj (registered.symm.trans known)
    · cases held
      exact absurd rfl (old held')
    · cases held'
      exact absurd rfl (old held)
    · exact housed.apart key other directory held held'

/-- The step that accepts a file action leaves the table and the disk of `beginOnDisk`, after the
directories that its sweep removed. -/
theorem follow_begun {due : List Key} {sender wisp : String} {body response : Json} {before : Runtime} (s : Service)
    (served : (∃ message, event = .frame message) ∨ event = .swept)
    (begun : Begun env before due m sender wisp body response) : ∃ gone directory,
      beginOnDisk env.printable ((before.tables.drop due).expireCompleted before.now)
        (s.disk.rmtree gone) sender wisp body
        before.now = ((m.tables, (s.follow event m).disk), .ok (response, directory)) := by
  obtain ⟨t, accepted, same⟩ := begun.accepted
  have made : ∃ gone, (s.follow event m).disk = (s.disk.rmtree gone).mkdtemp.2 := by
    unfold Service.follow
    simp only [registered_begun served begun]
    exact ⟨_, rfl⟩
  obtain ⟨gone, disk⟩ := made
  exact ⟨gone, _, by rw [beginOnDisk_accepted _ accepted, same, disk]⟩

/-! ## Runs -/

variable {e : ServiceEvent}

theorem step_runtime (opened : s.closing = false) (unblocked : s.waiting event = false)
    (stepped : s.runtime.step env event = some m) :
    s.step env (.runtime event) = some ((s.follow event m).starts s.runtime event) := by
  simp [Service.step, opened, unblocked, stepped]

theorem cancelAll_get? (m : Runtime) (key : Key) :
    (Service.cancelAll m).tables.transfers.get? key = (m.tables.transfers.get? key).map cut := Dict.get?_mapValues _ _ _

theorem step_bounded (bounded : Bounded s.runtime.tables) (stepped : s.step env e = some s') :
    Bounded s'.runtime.tables := by
  cases e with
  | runtime event =>
    simp only [Service.step] at stepped
    split_ifs at stepped
    obtain ⟨m, ran, rfl⟩ := Option.map_eq_some_iff.mp stepped
    rw [(starts_frame _ _ _).1, follow_runtime]
    cases step_registers ran with
    | none shrunk beginning => exact bounded.shrunk shrunk
    | one n due sender wisp body response served now shrunk begun =>
      obtain ⟨t, accepted, same⟩ := begun.accepted
      have swept := bounded.shrunk (shrunk.trans (drop_shrunk n.tables due n.now))
      exact same ▸ beginFileAction_bounded swept accepted
  | awaits directory =>
    simp only [Service.step] at stepped
    split_ifs at stepped
    cases stepped
    exact bounded
  | ends directory =>
    cases stepped
    exact bounded
  | close =>
    simp only [Service.step] at stepped
    split_ifs at stepped
    cases stepped
    exact bounded
  | cancel =>
    simp only [Service.step] at stepped
    split_ifs at stepped
    cases stepped
    refine bounded.shrunk fun key transfer found => ?_
    obtain ⟨original, held, rfl⟩ := Option.map_eq_some_iff.mp ((cancelAll_get? s.runtime key).symm.trans found)
    exact ⟨original, held, rfl⟩
  | closed =>
    simp only [Service.step] at stepped
    split_ifs at stepped
    cases stepped
    exact bounded.shrunk (by rintro _ _ ⟨⟩)

theorem step_housed (housed : Housed s) (stepped : s.step env e = some s') : Housed s' := by
  cases e with
  | runtime event =>
    simp only [Service.step] at stepped
    split_ifs at stepped
    obtain ⟨m, ran, rfl⟩ := Option.map_eq_some_iff.mp stepped
    obtain ⟨runtime, directories, disk⟩ := starts_frame (s.follow event m) s.runtime event
    have followed := follow_housed housed ran
    constructor
    · rw [runtime, directories]
      exact followed.keys
    · rw [directories, disk]
      exact followed.present
    · rw [directories]
      exact followed.apart
  | awaits directory =>
    simp only [Service.step] at stepped
    split_ifs at stepped
    cases stepped
    exact ⟨housed.keys, housed.present, housed.apart⟩
  | ends directory =>
    cases stepped
    exact ⟨housed.keys, housed.present, housed.apart⟩
  | close =>
    simp only [Service.step] at stepped
    split_ifs at stepped
    cases stepped
    exact ⟨housed.keys, housed.present, housed.apart⟩
  | cancel =>
    simp only [Service.step] at stepped
    split_ifs at stepped
    cases stepped
    refine ⟨fun key => ?_, housed.present, housed.apart⟩
    dsimp only
    rw [cancelAll_get?, housed.keys key]
    cases s.runtime.tables.transfers.get? key with
    | none => simp
    | some transfer => exact iff_of_true ⟨_, rfl⟩ ⟨_, rfl⟩
  | closed =>
    simp only [Service.step] at stepped
    split_ifs at stepped
    cases stepped
    refine ⟨fun key => iff_of_false (by simp) (by rintro ⟨_, ⟨⟩, _⟩), fun directory => iff_of_false (fun mem => ?_) (by simp), by simp⟩
    obtain ⟨here, out⟩ := List.mem_filter.mp mem
    exact of_decide_eq_true out ((Dict.mem_values_iff _ _).mpr ((housed.present directory).mp here))

theorem initial_bounded (initial : Service.Initial s) : Bounded s.runtime.tables := by
  rw [initial.1.2.1]
  exact ⟨Nat.zero_le _, fun _ => Nat.zero_le _, by rintro _ ⟨⟩⟩

theorem initial_housed (initial : Service.Initial s) : Housed s := by
  obtain ⟨⟨-, tables, -⟩, directories, disk, -⟩ := initial
  constructor
  · intro key
    rw [tables, directories]
    exact iff_of_false (by simp) (by simp)
  · intro directory
    rw [disk, directories]
    exact iff_of_false (by simp) (by simp)
  · intro key other directory held
    rw [directories] at held
    cases held

end Steps

/-- In every run the transfers stay within their bounds and the disk holds their directories, and a file
action that is refused leaves both as they were. -/
theorem budget (env : Env) {s : Service} (reach : Reach (Service.step env) anyStep Service.Initial s) :
    Bounded s.runtime.tables ∧ Housed s ∧ ∀ t disk sender wisp body now text,
      beginFileAction env.printable t sender wisp body now = .error text →
      ∃ disk', beginOnDisk env.printable t disk sender wisp body now = ((t, disk'), .error text) ∧
        disk'.present = disk.present := by
  refine ⟨?_, ?_, fun t disk sender wisp body now text => beginOnDisk_refused disk⟩
  · exact reach.invariant (fun s => Bounded s.runtime.tables) (fun _ => initial_bounded)
      fun _ _ _ _ bounded _ => step_bounded bounded
  · exact reach.invariant Housed (fun _ => initial_housed) fun _ _ _ _ housed _ => step_housed housed

/-- A run of the loop alone is a run of the service. -/
theorem loop_service (env : Env) {meets : Service → ServiceEvent → Prop} (met : ∀ s e, s.calls = [] → meets s e)
    {m : Runtime} (reach : Reach (Runtime.step env) (fun _ e => ∀ key move, e ≠ .worker key move) Runtime.Initial m) :
    ∃ s, Reach (Service.step env) meets Service.Initial s ∧ s.runtime = m ∧ s.calls = [] ∧ s.closing = false := by
  induction reach with
  | @start m initial => exact ⟨{ runtime := m }, .start ⟨initial, rfl, rfl, rfl, rfl⟩, rfl, rfl, rfl⟩
  | @next m m' e _ loops stepped ih =>
    obtain ⟨s, reach, rfl, idle, opened⟩ := ih
    have unblocked : s.waiting e = false := by
      unfold Service.waiting
      split
      · exact absurd rfl (loops _ _)
      · exact absurd rfl (loops _ _)
      · rfl
    have moved := step_runtime opened unblocked stepped
    rw [starts_loop _ _ loops] at moved
    obtain ⟨calls, closing⟩ := follow_frame s e m'
    exact ⟨_, reach.next (met _ _ idle) moved, follow_runtime s e m', calls.trans idle, closing.trans opened⟩

theorem budget_upload : ∃ s : Service, s.runtime.tables.transfers.get? saveKey ≠ none ∧ Bounded s.runtime.tables ∧
    Housed s := by
  obtain ⟨m, reach, asked⟩ := Attendance.upload_asked (fun _ e => ∀ key move, e ≠ .worker key move) (by
    rintro m e (rfl | ⟨message, rfl⟩ | rfl) key move
    all_goals simp)
  obtain ⟨s, serves, rfl, -⟩ := loop_service Provenance.handshakeEnv (fun _ _ _ => trivial) reach
  obtain ⟨bounded, housed, -⟩ := budget Provenance.handshakeEnv serves.any
  refine ⟨s, ?_, bounded, housed⟩
  rw [asked.tables]
  decide

end WispGate.Soundness.Budget
