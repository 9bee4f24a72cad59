import WispGate.Soundness.Retention

/-! # What a step does to a file transfer

A sweep cuts its worker off and later drops it, a `file_begin` registers it, the ready reply decides
whether its worker is started, and its worker moves it. Nothing else touches the table of transfers.
-/

namespace WispGate.Soundness.Transfers

open Data Model Model.Wisp Runtime RuntimeMoves Dispatching Replies Isolation Execution

/-- A transfer whose worker, if it has one, was cancelled. -/
def cut (transfer : Transfer) : Transfer :=
  { transfer with task := transfer.task.map fun task => { task with cancelled := true } }

/-- The loop waits for cancelled workers, to drop a transfer after that. -/
def Sweeping (key : Key) (pc : Pc) : Prop := ∃ sender body due, pc = .sweeping sender body due ∧ key ∈ due

/-- A `file_begin` is accepted after a sweep of some transfers. -/
structure Begun (env : Env) (m : Runtime) (due : List Key) (m' : Runtime) (sender wisp : String) (body response : Json) :
    Prop where
  accepted : ∃ t, beginFileAction env.printable ((m.tables.drop due).expireCompleted m.now) sender wisp body m.now =
    .ok (t, response) ∧ m'.tables = t
  sending : m'.pc = .sending sender response (.transfer (sender, transferIdOf env.printable body))

/-- What a step does to the transfer under a key. -/
inductive Treated (env : Env) (m : Runtime) (e : Event) (m' : Runtime) (key : Key) (transfer : Transfer) : Prop
  | kept (left : m'.tables.transfers.get? key = some transfer) (sweeping : Sweeping key m.pc → m'.pc = m.pc)
      (beginning : Beginning key m.pc → Beginning key m'.pc)
  | cut (message : Json) (event : e = .frame message) (delivered : (Retention.delivered env m message).isSome = true)
      (overdue : Overdue m.now transfer) (left : m'.tables.transfers.get? key = some (cut transfer))
      (sweeping : Sweeping key m'.pc)
  | dropped (untasked : transfer.task = none) (swept : m.pc = .reading ∨ Sweeping key m.pc)
      (left : m'.tables.transfers.get? key = none)
  | renewed (untasked : transfer.task = none) (swept : m.pc = .reading ∨ Sweeping key m.pc)
    (beginning : Beginning key m'.pc)
      (fresh : ∃ later, m'.tables.transfers.get? key = some later ∧ later.task = none)
  | unanswered (on : Beginning key m.pc) (left : m'.tables.transfers.get? key = some transfer)
      (lost : (∃ sender body error, e = .send ∧ m.pc = .sending sender body (.transfer key) ∧
        m.encryptFor env sender body = .error error) ∨ e = .drained false)
  | started (on : m.pc = .replied (.transfer key)) (event : e = .drained true) (resumed : m'.pc = .reading)
      (left : m'.tables.transfers.get? key = some { transfer with task := some {} })
  | worked (move : WorkerMove) (event : e = .worker key move) (task : Task) (running : transfer.task = some task)
      (worked : Worked env m key transfer task m')

section Awaits

variable {key : Key} {pc : Pc}

theorem not_sweeping (on : ∀ sender body due, pc ≠ .sweeping sender body due) : ¬ Sweeping key pc := by
  rintro ⟨sender, body, due, same, -⟩
  exact on sender body due same

end Awaits

/-! ## Sweeps -/

section Sweeps

variable {t : Tables} {now : ℕ} {key : Key}

theorem cut_cut (transfer : Transfer) : cut (cut transfer) = cut transfer := by
  unfold cut
  cases transfer.task with
  | none => rfl
  | some task => rfl

theorem expire_transfers (t : Tables) (entry : Key × Transfer) (now : ℕ) (key : Key) :
    (t.expire entry now).transfers.get? key =
      if entry.1 = key then (t.transfers.get? key).map cut else t.transfers.get? key := get?_expire t entry now key

theorem foldl_expire_transfers (entries : List (Key × Transfer)) (t : Tables) (now : ℕ) (key : Key) :
    (entries.foldl (fun tables entry => tables.expire entry now) t).transfers.get? key =
      if key ∈ entries.map Prod.fst then (t.transfers.get? key).map cut else t.transfers.get? key := by
  induction entries generalizing t with
  | nil => simp
  | cons entry rest ih =>
    rw [List.foldl_cons, ih, expire_transfers]
    by_cases here : entry.1 = key
    · have twice : ((t.transfers.get? key).map cut).map cut = (t.transfers.get? key).map cut := by
        cases t.transfers.get? key with
        | none => rfl
        | some transfer => exact congrArg some (cut_cut transfer)
      simp only [here, if_true, List.map_cons, List.mem_cons, true_or, twice, ite_self]
    · have apart : key ≠ entry.1 := fun same => here same.symm
      simp only [here, apart, if_false, List.map_cons, List.mem_cons, false_or]

theorem mem_dueKeys {m : Runtime} {transfer : Transfer} (found : m.tables.transfers.get? key = some transfer) :
    key ∈ dueKeys m ↔ Overdue m.now transfer := by
  constructor
  · intro listed
    obtain ⟨entry, mem, rfl⟩ := List.mem_map.mp listed
    obtain ⟨overdue, task, found'⟩ := overdue_found mem
    rw [found] at found'
    cases found'
    exact overdue
  · intro overdue
    have mem : (key, transfer) ∈ m.tables.overdue m.now :=
      List.mem_filter.mpr ⟨(Dict.get?_eq_some_iff _ _ _).mp found, by simpa [Overdue] using overdue⟩
    exact List.mem_map.mpr ⟨_, mem, rfl⟩

theorem dueKeys_found {m : Runtime} (listed : key ∈ dueKeys m) :
    ∃ transfer, m.tables.transfers.get? key = some transfer ∧ (key, transfer) ∈ m.tables.overdue m.now := by
  obtain ⟨⟨key, transfer⟩, mem, rfl⟩ := List.mem_map.mp listed
  exact ⟨transfer, (Dict.get?_eq_some_iff _ _ _).mpr (List.mem_filter.mp mem).1, mem⟩

theorem expired_transfers (m : Runtime) (key : Key) : (expired m).tables.transfers.get? key =
    if key ∈ dueKeys m then (m.tables.transfers.get? key).map cut else m.tables.transfers.get? key :=
  foldl_expire_transfers _ _ _ _

theorem drop_transfers (t : Tables) (due : List Key) (key : Key) :
    (t.drop due).transfers.get? key = if key ∈ due then none else t.transfers.get? key :=
  get?_foldl_erase due t.transfers key

end Sweeps

/-! ## Dispatch -/

section Dispatch

variable {env : Env} {m m' : Runtime} {key : Key} {sender wisp operationId : String} {body : Json} {due : List Key}
  {transfer : Transfer}

/-- The dispatcher leaves the transfers, or a file action begins. A refused one is in no table. -/
theorem choose_transfers (printable : Char → Bool) (wisps : List String) (t : Tables) (sender : String) (body : Json)
    (now : ℕ) : ((choose printable wisps t sender body now).1.transfers = t.transfers ∧
      ∀ transferId response, (choose printable wisps t sender body now).2 = .fileBegin transferId response →
        t.transfers.get? (sender, transferId) = none) ∨
      ∃ wisp response, beginFileAction printable (t.expireCompleted now) sender wisp body now =
        .ok ((choose printable wisps t sender body now).1, response) ∧
        (choose printable wisps t sender body now).2 = .fileBegin (transferIdOf printable body) response := by
  unfold choose
  dsimp only
  split
  · exact .inl ⟨rfl, by simp⟩
  · rename_i wisp hashed
    split_ifs with known resumed state file
    · obtain ⟨reply, answered⟩ := resume_answer printable sender wisp body (t.expireCompleted now)
      rw [answered]
      exact .inl ⟨rfl, by simp⟩
    · exact .inl ⟨rfl, by simp⟩
    · unfold fileBegin
      dsimp only
      split
      · exact .inl ⟨rfl, by simp⟩
      · split
        · exact .inl ⟨rfl, by simp⟩
        · rename_i absent
          rw [Bool.not_eq_true, Dict.contains_eq_false_iff] at absent
          split
          · rename_i t' response begun
            exact .inr ⟨wisp, response, begun, rfl⟩
          · refine .inl ⟨rfl, fun transferId response same => ?_⟩
            cases same
            exact absent
    · left
      unfold inlineAction
      split
      · exact ⟨rfl, by simp⟩
      · split
        · exact ⟨rfl, by simp⟩
        · split
          · exact ⟨rfl, by simp⟩
          · split
            · exact ⟨rfl, by simp⟩
            · exact ⟨rfl, by simp⟩
    · exact .inl ⟨rfl, by simp⟩
  · exact .inl ⟨rfl, by simp⟩

theorem abandon_transfers (e : PyError) :
    (m.abandon sender wisp operationId e).tables.transfers = m.tables.transfers := by
  unfold abandon
  dsimp only
  rw [raises_tables]
  exact remember_transfers _ _ _

theorem act_transfers (choice : Choice) : (m.act sender choice).tables.transfers = m.tables.transfers := by
  cases choice with
  | unhashable => exact congrArg Tables.transfers (raises_tables _ _)
  | action wisp operationId actionData =>
    simp only [act]
    split
    · exact abandon_transfers _
    · rfl
  | _ => rfl

/-- The only choice before which a worker may be started is the answer to a file action. -/
theorem act_beginning {choice : Choice} (begins : Beginning key (m.act sender choice).pc) :
    ∃ transferId response, choice = .fileBegin transferId response ∧ key = (sender, transferId) := by
  cases choice with
  | fileBegin transferId response =>
    rcases begins with ⟨sender', body, on⟩ | on
    · cases on
      exact ⟨transferId, response, rfl, rfl⟩
    · cases on
  | unhashable => exact absurd begins (raises_resting _ _ key).2
  | action wisp operationId actionData =>
    simp only [act] at begins
    split at begins
    · exact absurd begins (raises_resting _ _ key).2
    · exact absurd begins (not_beginning rfl)
  | _ => exact absurd begins (not_beginning rfl)

/-- What is left after a sweep, if no transfer begins. -/
theorem afterSweep_transfers (env : Env) (m : Runtime) (sender : String) (body : Json) (due : List Key) :
    ((m.afterSweep env sender body due).tables.transfers = (m.tables.drop due).transfers ∧
      ∀ key, Beginning key (m.afterSweep env sender body due).pc → (m.tables.drop due).transfers.get? key = none) ∨
      ∃ wisp response, Begun env m due (m.afterSweep env sender body due) sender wisp body response := by
  have chosen := choose_transfers env.printable env.wisps (m.tables.drop due) sender body m.now
  unfold afterSweep
  generalize choose env.printable env.wisps (m.tables.drop due) sender body m.now = choice at chosen ⊢
  obtain ⟨tables, choice⟩ := choice
  dsimp only at chosen ⊢
  rcases chosen with ⟨same, refused⟩ | ⟨wisp, response, begun, rfl⟩
  · refine .inl ⟨(act_transfers choice).trans same, fun key begins => ?_⟩
    obtain ⟨transferId, response, rfl, rfl⟩ := act_beginning begins
    exact refused transferId response rfl
  · exact .inr ⟨wisp, response, ⟨tables, begun, rfl⟩, rfl⟩

/-- A transfer that begins was not in the tables. -/
theorem Begun.absent {response : Json} (begun : Begun env m due m' sender wisp body response) :
    (m.tables.drop due).transfers.get? (sender, transferIdOf env.printable body) = none := by
  obtain ⟨t, accepted, -⟩ := begun.accepted
  obtain ⟨manifests, files, begins, -⟩ := FileActions.beginFileAction_ok_iff.mp accepted
  exact (Dict.contains_eq_false_iff _ _).mp begins.absent

/-- A transfer that begins is put beside the others. -/
theorem Begun.tables {response : Json} (begun : Begun env m due m' sender wisp body response) :
    ∃ files, m'.tables = withTransfer ((m.tables.drop due).expireCompleted m.now) sender wisp
      (transferIdOf env.printable body) body files m.now := by
  obtain ⟨t, accepted, same⟩ := begun.accepted
  obtain ⟨-, files, rfl⟩ := beginFileAction_ok accepted
  exact ⟨files, same⟩

theorem Begun.get? {response : Json} (begun : Begun env m due m' sender wisp body response) (key : Key) :
    m'.tables.transfers.get? key = (m.tables.drop due).transfers.get? key ∨
      key = (sender, transferIdOf env.printable body) ∧ Beginning key m'.pc ∧
        ∃ transfer, m'.tables.transfers.get? key = some transfer ∧ transfer.task = none := by
  obtain ⟨files, same⟩ := begun.tables
  rw [same]
  by_cases here : (sender, transferIdOf env.printable body) = key
  · subst here
    exact .inr ⟨rfl, .inl ⟨_, _, begun.sending⟩, _, Dict.get?_insert_self _ _ _, rfl⟩
  · exact .inl (Dict.get?_insert_of_ne _ _ here)

/-- A transfer after a sweep that dropped some, and the choice of the dispatcher. -/
theorem afterSweep_get? (env : Env) (m : Runtime) (sender : String) (body : Json) (due : List Key) (key : Key) :
    (m.afterSweep env sender body due).tables.transfers.get? key =
        (if key ∈ due then none else m.tables.transfers.get? key) ∨
      (if key ∈ due then none else m.tables.transfers.get? key) = none ∧
        Beginning key (m.afterSweep env sender body due).pc ∧
        ∃ transfer, (m.afterSweep env sender body due).tables.transfers.get? key = some transfer ∧
          transfer.task = none := by
  rw [← drop_transfers]
  rcases afterSweep_transfers env m sender body due with ⟨same, -⟩ | ⟨wisp, response, begun⟩
  · exact .inl (by rw [same])
  · rcases begun.get? key with same | ⟨rfl, beginning, fresh⟩
    · exact .inl same
    · exact .inr ⟨begun.absent, beginning, fresh⟩

end Dispatch

/-! ## Steps -/

section Steps

variable {env : Env} {m m' n : Runtime} {e : Event} {key : Key} {sender : String} {body : Json} {result : Result}
  {transfer : Transfer}

/-- A step from an await that neither drops nor starts a transfer leaves it. -/
theorem Treated.rest (found : m.tables.transfers.get? key = some transfer) (awake : ¬ Sweeping key m.pc)
    (idle : ¬ Beginning key m.pc) (same : m'.tables.transfers = m.tables.transfers) : Treated env m e m' key transfer :=
  .kept (by rw [same, found]) (absurd · awake) (absurd · idle)

/-- A step of another task leaves the transfer and the loop. -/
theorem Treated.aside (left : m'.tables.transfers.get? key = some transfer) (pc : m'.pc = m.pc) :
    Treated env m e m' key transfer := .kept left (fun _ => pc) (pc ▸ ·)

theorem dispatch_treats {message : Json} (found : m.tables.transfers.get? key = some transfer) (reading : m.pc = .reading)
    (delivered : (Retention.delivered env m message).isSome = true) (tables : n.tables = m.tables) (now : n.now = m.now) :
    Treated env m (.frame message) (n.dispatch env sender body) key transfer := by
  have awake : ¬ Sweeping key m.pc := not_sweeping (by simp [reading])
  have idle : ¬ Beginning key m.pc := not_beginning (congrArg isStart reading)
  rw [← tables] at found
  have left := expired_transfers n key
  have listed := mem_dueKeys found
  rw [found, Option.map_some] at left
  unfold dispatch
  dsimp only
  split_ifs with busy
  · by_cases due : key ∈ dueKeys n
    · rw [if_pos due] at left
      exact .cut message rfl delivered (now ▸ listed.mp due) left ⟨_, _, _, rfl, due⟩
    · rw [if_neg due] at left
      exact .kept left (absurd · awake) (absurd · idle)
  · have swept := afterSweep_get? env (expired n) sender body (dueKeys n) key
    rw [left] at swept
    change Treated env m _ ((expired n).afterSweep env sender body (dueKeys n)) key transfer
    by_cases due : key ∈ dueKeys n
    · obtain ⟨transfer', found', mem⟩ := dueKeys_found due
      rw [found] at found'
      cases found'
      have untasked : transfer.task = none := by simpa using List.any_eq_false.mp (Bool.eq_false_iff.mpr busy) _ mem
      rw [if_pos due] at swept
      rcases swept with gone | ⟨-, beginning, fresh⟩
      · exact .dropped untasked (.inl reading) gone
      · exact .renewed untasked (.inl reading) beginning fresh
    · rw [if_neg due, if_neg due] at swept
      rcases swept with same | ⟨none, -⟩
      · exact .kept same (absurd · awake) (absurd · idle)
      · cases none

/-- A line reaches the dispatcher or leaves the tables. -/
theorem onFrame_treats (message : Json) (found : m.tables.transfers.get? key = some transfer)
    (reading : m.pc = .reading) :
    Treated env m (.frame message) (m.onFrame env message) key transfer := by
  have awake : ¬ Sweeping key m.pc := not_sweeping (by simp [reading])
  have idle : ¬ Beginning key m.pc := not_beginning (congrArg isStart reading)
  rcases Retention.onFrame_delivered env m message with ⟨sender, body, session, delivered, served⟩ | ⟨-, same⟩
  · rw [served]
    exact dispatch_treats found reading (by simp [delivered]) rfl rfl
  · exact .rest found awake idle (congrArg Tables.transfers same)

theorem swept_treats {due : List Key} (found : m.tables.transfers.get? key = some transfer)
    (on : m.pc = .sweeping sender body due) (ended : m.workersEnded due = true) :
    Treated env m e (m.afterSweep env sender body due) key transfer := by
  have idle : ¬ Beginning key m.pc := not_beginning (congrArg isStart on)
  have swept := afterSweep_get? env m sender body due key
  rw [found] at swept
  by_cases listed : key ∈ due
  · have sweeping : Sweeping key m.pc := ⟨sender, body, due, on, listed⟩
    have untasked : transfer.task = none := by
      have all := List.all_eq_true.mp ended key listed
      simpa [found] using all
    rw [if_pos listed] at swept
    rcases swept with gone | ⟨-, beginning, fresh⟩
    · exact .dropped untasked (.inr sweeping) gone
    · exact .renewed untasked (.inr sweeping) beginning fresh
  · rw [if_neg listed] at swept
    have awake : ¬ Sweeping key m.pc := by
      rintro ⟨sender', body', due', on', mem⟩
      rw [on] at on'
      cases on'
      exact listed mem
    rcases swept with same | ⟨none, -⟩
    · exact .kept same (absurd · awake) (absurd · idle)
    · cases none

theorem returned_transfers (stepped : m.returned result = some m') : m'.tables.transfers = m.tables.transfers := by
  unfold returned at stepped
  split at stepped
  · split at stepped
    · cases stepped
      exact congrArg Tables.transfers (raises_tables _ _)
    · cases stepped
      exact congrArg Tables.transfers respond_tables
  · dsimp only at stepped
    split at stepped
    · cases stepped
      exact abandon_transfers _
    · cases stepped
      rw [respond_tables]
      split
      · exact remember_transfers _ _ _
      · rfl
  · cases stepped

theorem loopSend_treats (found : m.tables.transfers.get? key = some transfer) (stepped : m.loopSend env = some m') :
    Treated env m .send m' key transfer := by
  unfold loopSend at stepped
  split at stepped
  · rename_i sender body after on
    have awake : ¬ Sweeping key m.pc := not_sweeping (by simp [on])
    split at stepped
    · rename_i sealed encrypted
      cases stepped
      obtain ⟨-, -, -, tables, -⟩ := encryptFor_quiet encrypted
      refine .kept ((congrArg (·.transfers.get? key) tables).trans found) (absurd · awake) ?_
      rintro (⟨sender', body', on'⟩ | on')
      · rw [on] at on'
        cases on'
        exact .inr rfl
      · rw [on] at on'
        cases on'
    · rename_i error broken
      cases stepped
      by_cases begins : after = .transfer key
      · subst begins
        refine .unanswered (.inl ⟨_, _, on⟩) ?_ (.inl ⟨sender, body, error, rfl, on, broken⟩)
        rw [raises_tables]
        exact found
      · have idle : ¬ Beginning key m.pc := by
          rintro (⟨sender', body', on'⟩ | on')
          · rw [on] at on'
            cases on'
            exact begins rfl
          · rw [on] at on'
            cases on'
        exact .rest found awake idle (congrArg Tables.transfers (raises_tables _ _))
  · cases stepped

theorem loopDrained_treats {written : Bool} (found : m.tables.transfers.get? key = some transfer)
    (stepped : m.loopDrained written = some m') : Treated env m (.drained written) m' key transfer := by
  unfold loopDrained at stepped
  split at stepped
  · rename_i on
    cases stepped
    exact .rest found (not_sweeping (by simp [on])) (not_beginning (congrArg isStart on)) rfl
  · rename_i after on
    have awake : ¬ Sweeping key m.pc := not_sweeping (by simp [on])
    cases stepped
    by_cases begins : after = .transfer key
    · subst begins
      cases written with
      | false => exact .unanswered (.inr on) found (.inr rfl)
      | true =>
        refine .started on rfl rfl ((startWorker_get? m key key).trans ?_)
        rw [if_pos rfl, found]
        rfl
    · have idle : ¬ Beginning key m.pc := by
        rintro (⟨sender', body', on'⟩ | on')
        · rw [on] at on'
          cases on'
        · rw [on] at on'
          cases on'
          exact begins rfl
      cases written with
      | false => exact .rest found awake idle rfl
      | true =>
        cases after with
        | done => exact .rest found awake idle rfl
        | transfer other =>
          refine .kept ((startWorker_get? m other key).trans ?_) (absurd · awake) (absurd · idle)
          rw [if_neg fun same => begins (congrArg After.transfer same), found]
  · cases stepped

theorem worked_other {other : Key} {moved : Transfer} {task : Task} (apart : other ≠ key)
    (worked : Worked env m other moved task m') :
    m'.tables.transfers.get? key = m.tables.transfers.get? key := by
  have set : ∀ (n : Runtime) phase, (n.setPhase other moved phase).tables.transfers.get? key =
    n.tables.transfers.get? key :=
    fun n phase => Dict.get?_insert_of_ne _ _ apart
  have ends : ∀ n : Runtime, (n.endWorker other).tables.transfers.get? key = n.tables.transfers.get? key :=
    fun n => Dict.get?_erase_of_ne _ apart
  have remembers : ∀ (n : Runtime) body, (n.withTables (n.tables.remember other.1 other.2 body
    n.now)).tables.transfers.get? key =
      n.tables.transfers.get? key := fun n body => congrArg (Dict.get? · key) (remember_transfers _ _ _)
  cases worked with
  | unborn cancelled on => exact Dict.get?_insert_of_ne _ _ apart
  | orphaned cancelled on => exact ends m
  | stops cancelled idle => exact ends m
  | proceeds alive next on =>
    unfold workerProceeds
    split_ifs
    · exact set m _
    · exact set (m.record _) _
  | fails alive index cause on => exact (set _ _).trans (remembers m _)
  | returns alive on result =>
    unfold workerReturns
    split
    · exact (set _ _).trans (remembers (m.record _) _)
    · dsimp only
      split_ifs
      · exact (set _ _).trans (remembers (m.record _) _)
      · exact (ends _).trans (remembers (m.record _) _)
  | sends alive body sealed on encrypted =>
    obtain ⟨-, -, -, tables, -⟩ := encryptFor_quiet encrypted
    exact (set sealed _).trans (congrArg (·.transfers.get? key) tables)
  | ends alive body on => exact ends m

theorem step_treats (found : m.tables.transfers.get? key = some transfer) (stepped : m.step env e = some m') :
    Treated env m e m' key transfer := by
  cases e with
  | tick seconds =>
    cases stepped
    exact .aside found rfl
  | frame message =>
    simp only [Runtime.step] at stepped
    split_ifs at stepped with reading
    cases stepped
    exact onFrame_treats message found reading
  | eof =>
    simp only [Runtime.step] at stepped
    split_ifs at stepped with reading
    cases stepped
    exact .rest found (not_sweeping (by simp [reading])) (not_beginning (congrArg isStart reading)) rfl
  | reconnect =>
    simp only [Runtime.step] at stepped
    split_ifs at stepped with offline
    cases stepped
    exact .rest found (not_sweeping (by simp [offline])) (not_beginning (congrArg isStart offline)) rfl
  | swept =>
    simp only [Runtime.step] at stepped
    split at stepped
    · rename_i sender body due on
      split_ifs at stepped with ended
      cases stepped
      exact swept_treats found on ended
    · cases stepped
  | returns result =>
    simp only [Runtime.step] at stepped
    refine .rest found (not_sweeping fun sender body due on => ?_) ?_ (returned_transfers stepped)
    · simp [returned, on] at stepped
    · rintro (⟨sender, body, on⟩ | on)
      · simp [returned, on] at stepped
      · simp [returned, on] at stepped
  | send => exact loopSend_treats found stepped
  | drained written => exact loopDrained_treats found stepped
  | worker other move =>
    obtain ⟨moved, task, found', running, worked⟩ := worker_worked stepped
    by_cases here : other = key
    · subst here
      rw [found] at found'
      cases found'
      exact .worked move rfl task running worked
    · exact .aside ((worked_other here worked).trans found) (worked_pc worked)
  | orphanEnds other =>
    simp only [Runtime.step] at stepped
    split_ifs at stepped
    cases stepped
    exact .aside found rfl

/-! ## The table as a whole -/

/-- Nothing but tasks changed, and nothing was added. -/
def Shrunk (t t' : Tables) : Prop := ∀ key transfer, t'.transfers.get? key = some transfer →
  ∃ original, t.transfers.get? key = some original ∧ transfer = { original with task := transfer.task }

theorem Shrunk.refl (t : Tables) : Shrunk t t := fun _ transfer found => ⟨transfer, found, rfl⟩

theorem Shrunk.of_same {t t' : Tables} (same : t'.transfers = t.transfers) : Shrunk t t' :=
  fun _ transfer found => ⟨transfer, same ▸ found, rfl⟩

theorem Shrunk.trans {t t' t'' : Tables} (first : Shrunk t t') (second : Shrunk t' t'') : Shrunk t t'' := by
  intro key transfer found
  obtain ⟨middle, found, same⟩ := second key transfer found
  obtain ⟨original, found, same'⟩ := first key middle found
  refine ⟨original, found, ?_⟩
  rw [same, same']

theorem expired_shrunk (m : Runtime) : Shrunk m.tables (expired m).tables := by
  intro key transfer found
  rw [expired_transfers] at found
  split_ifs at found
  · obtain ⟨original, held, rfl⟩ := Option.map_eq_some_iff.mp found
    exact ⟨original, held, rfl⟩
  · exact ⟨transfer, found, rfl⟩

theorem drop_shrunk (t : Tables) (due : List Key) (now : ℕ) : Shrunk t ((t.drop due).expireCompleted now) := by
  intro key transfer found
  change (t.drop due).transfers.get? key = some transfer at found
  rw [drop_transfers] at found
  split_ifs at found
  exact ⟨transfer, found, rfl⟩

/-- A worker only changes its own entry. -/
theorem worked_shrunk {task : Task} (found : m.tables.transfers.get? key = some transfer)
    (worked : Worked env m key transfer task m') : Shrunk m.tables m'.tables := by
  have own : ∀ value, m'.tables.transfers.get? key = some value → value = { transfer with task := value.task } := by
    have set : ∀ (n : Runtime) phase value, (n.setPhase key transfer phase).tables.transfers.get? key = some value →
        value = { transfer with task := value.task } := by
      intro n phase value found
      obtain rfl := Option.some.inj ((Dict.get?_insert_self _ _ _).symm.trans found)
      rfl
    have ends : ∀ (n : Runtime) value, (n.endWorker key).tables.transfers.get? key = some value →
        value = { transfer with task := value.task } := by
      intro n value found
      cases (Dict.get?_erase_self _ _).symm.trans found
    cases worked with
    | unborn cancelled on =>
      intro value found
      obtain rfl := Option.some.inj ((Dict.get?_insert_self _ _ _).symm.trans found)
      rfl
    | orphaned cancelled on => exact ends m
    | stops cancelled idle => exact ends m
    | proceeds alive next on =>
      unfold workerProceeds
      split_ifs
      · exact set m _
      · exact set (m.record _) _
    | fails alive index cause on => exact set _ _
    | returns alive on result =>
      unfold workerReturns
      split
      · exact set _ _
      · dsimp only
        split_ifs
        · exact set _ _
        · exact ends _
    | sends alive body sealed on encrypted => exact set sealed _
    | ends alive body on => exact ends m
  intro other value found'
  by_cases here : key = other
  · subst here
    exact ⟨transfer, found, own value found'⟩
  · exact ⟨value, (worked_other here worked).symm.trans found', rfl⟩

/-- After the changes of a sweep a transfer was registered, or none was. -/
inductive Registers (env : Env) (m : Runtime) (e : Event) (m' : Runtime) : Prop
  | none (shrunk : Shrunk m.tables m'.tables)
      (beginning : ∀ key, Beginning key m'.pc → Beginning key m.pc ∨ m'.tables.transfers.get? key = none)
  | one (n : Runtime) (due : List Key) (sender wisp : String) (body response : Json)
      (served : (∃ message, e = .frame message) ∨ e = .swept) (now : n.now = m.now) (shrunk : Shrunk m.tables n.tables)
      (begun : Begun env n due m' sender wisp body response)

theorem Registers.rest (shrunk : Shrunk m.tables m'.tables) (idle : ∀ key, ¬ Beginning key m'.pc) :
    Registers env m e m' :=
  .none shrunk fun key begins => absurd begins (idle key)

theorem afterSweep_registers {due : List Key}
    (served : (∃ message, e = .frame message) ∨ e = .swept) (now : n.now = m.now)
    (shrunk : Shrunk m.tables n.tables) : Registers env m e (n.afterSweep env sender body due) := by
  rcases afterSweep_transfers env n sender body due with ⟨same, refused⟩ | ⟨wisp, response, begun⟩
  · refine .none (.trans shrunk (.trans (drop_shrunk n.tables due n.now) (.of_same same))) fun key begins => .inr ?_
    rw [same]
    exact refused key begins
  · exact .one n due sender wisp body response served now shrunk begun

theorem dispatch_registers {message : Json} (tables : n.tables = m.tables) (now : n.now = m.now) :
    Registers env m (.frame message) (n.dispatch env sender body) := by
  have shrunk : Shrunk m.tables (expired n).tables := tables ▸ expired_shrunk n
  unfold dispatch
  dsimp only
  split_ifs
  · exact .rest shrunk fun key => not_beginning rfl
  · exact afterSweep_registers (n := expired n) (.inl ⟨message, rfl⟩) now shrunk

/-- A line that reaches no dispatcher leaves the loop between two frames. -/
theorem onFrame_resting {message : Json} (undelivered : Retention.delivered env m message = none) :
    Resting (m.onFrame env message).pc := by
  have idle : ∀ pc : Pc, pc = .reading ∨ pc = .draining ∨ pc = .offline → Resting pc := by
    rintro pc (rfl | rfl | rfl)
    all_goals exact resting_of rfl rfl
  unfold onFrame
  split_ifs with line ping envelope session reset
  · split
    · split_ifs
      · exact idle _ (.inl rfl)
      · exact idle _ (.inr (.inl rfl))
    · exact idle _ (.inl rfl)
  · unfold onEnvelope
    split
    · exact idle _ (.inr (.inr rfl))
    · split
      · dsimp only
        split
        · exact idle _ (.inr (.inr rfl))
        · exact idle _ (.inr (.inl rfl))
      · exact idle _ (.inr (.inl rfl))
  · unfold Retention.delivered at undelivered
    rw [if_pos ⟨by simpa using line, session⟩] at undelivered
    unfold onSessionEnvelope
    split
    · rename_i sender named
      simp only [named] at undelivered
      split
      · exact idle _ (.inr (.inl rfl))
      · rename_i held found
        simp only [found, Option.bind_some] at undelivered
        split
        · exact idle _ (.inl rfl)
        · rename_i opened
          simp only [opened, reduceCtorEq] at undelivered
    · split_ifs
      · exact raises_resting _ _
      · exact idle _ (.inr (.inl rfl))
  · unfold onSessionReset
    split_ifs
    · exact idle _ (.inl rfl)
    · split
      · exact idle _ (.inl rfl)
      · split_ifs
        · exact idle _ (.inr (.inr rfl))
        · exact idle _ (.inl rfl)
  · exact idle _ (.inl rfl)
  · exact idle _ (.inr (.inr rfl))

theorem respond_resting {wisp : String} : ¬ Beginning key (m.respond sender wisp result).pc := by
  unfold respond
  split_ifs
  · exact not_beginning rfl
  · exact (raises_resting _ _ key).2

theorem returned_resting (stepped : m.returned result = some m') : ¬ Beginning key m'.pc := by
  unfold returned at stepped
  split at stepped
  · split at stepped
    · cases stepped
      exact (raises_resting _ _ key).2
    · cases stepped
      exact respond_resting
  · dsimp only at stepped
    split at stepped
    · cases stepped
      exact (raises_resting _ _ key).2
    · cases stepped
      exact respond_resting
  · cases stepped

theorem loopSend_registers (stepped : m.loopSend env = some m') : Registers env m e m' := by
  unfold loopSend at stepped
  split at stepped
  · rename_i sender body after on
    split at stepped
    · rename_i sealed encrypted
      cases stepped
      obtain ⟨-, -, -, tables, -⟩ := encryptFor_quiet encrypted
      refine .none (.of_same (congrArg Tables.transfers tables)) fun key begins => .inl ?_
      rcases begins with ⟨sender', body', on'⟩ | on'
      · cases on'
      · cases on'
        exact .inl ⟨_, _, on⟩
    · cases stepped
      exact .rest (.of_same (congrArg Tables.transfers (raises_tables _ _))) fun key => (raises_resting _ _ key).2
  · cases stepped

theorem loopDrained_registers {written : Bool} (stepped : m.loopDrained written = some m') : Registers env m e m' := by
  unfold loopDrained at stepped
  split at stepped
  · cases stepped
    refine .rest (.refl _) fun key => ?_
    cases written
    all_goals exact not_beginning rfl
  · rename_i after on
    cases stepped
    cases written with
    | false => exact .rest (.refl _) fun key => not_beginning rfl
    | true =>
      cases after with
      | done => exact .rest (.refl _) fun key => not_beginning rfl
      | transfer other =>
        refine .rest (fun key transfer found => ?_) fun key => not_beginning rfl
        have found := (startWorker_get? m other key).symm.trans found
        split_ifs at found
        · obtain ⟨original, held, rfl⟩ := Option.map_eq_some_iff.mp found
          exact ⟨original, held, rfl⟩
        · exact ⟨transfer, found, rfl⟩
  · cases stepped

theorem step_registers (stepped : m.step env e = some m') : Registers env m e m' := by
  cases e with
  | tick seconds =>
    cases stepped
    exact .none (.refl _) fun key begins => .inl begins
  | frame message =>
    simp only [Runtime.step] at stepped
    split_ifs at stepped
    cases stepped
    rcases Retention.onFrame_delivered env m message with ⟨sender, body, session, -, served⟩ | ⟨undelivered, same⟩
    · rw [served]
      exact dispatch_registers rfl rfl
    · exact .rest (.of_same (congrArg Tables.transfers same)) fun key => (onFrame_resting undelivered key).2
  | eof =>
    simp only [Runtime.step] at stepped
    split_ifs at stepped
    cases stepped
    exact .rest (.refl _) fun key => not_beginning rfl
  | reconnect =>
    simp only [Runtime.step] at stepped
    split_ifs at stepped
    cases stepped
    exact .rest (.refl _) fun key => not_beginning rfl
  | swept =>
    simp only [Runtime.step] at stepped
    split at stepped
    · split_ifs at stepped
      cases stepped
      exact afterSweep_registers (.inr rfl) rfl (.refl _)
    · cases stepped
  | returns result => exact .rest (.of_same (returned_transfers stepped)) fun key => returned_resting stepped
  | send => exact loopSend_registers stepped
  | drained written => exact loopDrained_registers stepped
  | worker key move =>
    obtain ⟨transfer, task, found, -, worked⟩ := worker_worked stepped
    exact .none (worked_shrunk found worked) fun other begins => .inl (worked_pc worked ▸ begins)
  | orphanEnds key =>
    simp only [Runtime.step] at stepped
    split_ifs at stepped
    cases stepped
    exact .none (.refl _) fun key begins => .inl begins

/-- A transfer that a step registers is about to be answered. -/
theorem step_absent (absent : m.tables.transfers.get? key = none) (stepped : m.step env e = some m') :
    m'.tables.transfers.get? key = none ∨ Beginning key m'.pc := by
  cases step_registers stepped with
  | none shrunk beginning =>
    left
    cases found : m'.tables.transfers.get? key with
    | none => rfl
    | some transfer =>
      obtain ⟨original, found, -⟩ := shrunk key transfer found
      rw [absent] at found
      cases found
  | one n due sender wisp body response served now shrunk begun =>
    rcases begun.get? key with same | ⟨-, beginning, -⟩
    · left
      rw [same]
      cases found : (n.tables.drop due).transfers.get? key with
      | none => rfl
      | some transfer =>
        obtain ⟨original, found, -⟩ := (shrunk.trans (drop_shrunk n.tables due n.now)) key transfer found
        rw [absent] at found
        cases found
    · exact .inr beginning

/-- Until its ready reply has left, no worker is started for a transfer. -/
def Unstarted (m : Runtime) : Prop := ∀ key, Beginning key m.pc → ∀ transfer,
  m.tables.transfers.get? key = some transfer → transfer.task = none

theorem step_unstarted (unstarted : Unstarted m) (stepped : m.step env e = some m') : Unstarted m' := by
  intro key begins later found
  cases step_registers stepped with
  | none shrunk beginning =>
    rcases beginning key begins with before | gone
    · obtain ⟨original, held, -⟩ := shrunk key later found
      have untasked := unstarted key before original held
      cases step_treats held stepped with
      | kept left sweeping beginning =>
        cases left.symm.trans found
        exact untasked
      | cut message event delivered overdue left sweeping =>
        cases left.symm.trans found
        simp [cut, untasked]
      | dropped untasked swept left => cases left.symm.trans found
      | renewed untasked swept beginning fresh =>
        obtain ⟨fresh, left, untasked⟩ := fresh
        cases left.symm.trans found
        exact untasked
      | unanswered on left lost =>
        cases left.symm.trans found
        exact untasked
      | started on event resumed left =>
        rw [resumed] at begins
        exact absurd begins (not_beginning rfl)
      | worked move event task running worked =>
        rw [untasked] at running
        cases running
    · cases gone.symm.trans found
  | one n due sender wisp body response served now shrunk begun =>
    obtain ⟨files, same⟩ := begun.tables
    have here : key = (sender, transferIdOf env.printable body) := by
      rcases begins with ⟨sender', body', on⟩ | on
      · cases begun.sending.symm.trans on
        rfl
      · cases begun.sending.symm.trans on
    subst here
    rw [same] at found
    cases (Dict.get?_insert_self _ _ _).symm.trans found
    rfl

end Steps

end WispGate.Soundness.Transfers
