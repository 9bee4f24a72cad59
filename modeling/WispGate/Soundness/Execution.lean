import WispGate.Soundness.Isolation
import WispGate.Soundness.NonceReuse

/-! # Executions of an operation

The tables remember every operation whose callback was started: as active, as a transfer, or as
completed. A transfer goes through the stages below; the callback of an operation runs in the stage
`calling` or while the loop stands in its action. The invariant ties the log of starts and ends to
these, apart from three steps: an action for an operation that a transfer still holds, an action with
a result that is not retained, and the cancellation of a transfer whose callback runs.
-/

namespace WispGate.Soundness.Execution

open Data Model Model.Wisp Runtime RuntimeMoves Dispatching Handshakes Replies Resilience Isolation

/-! ## Starts and ends of callbacks -/

/-- The callback of an operation was started, or ended. -/
inductive Mark where
  | started (key : Key) (now : ℕ)
  | finished (key : Key) (now : ℕ)
deriving DecidableEq

def Mark.of : Entry → Option Mark
  | .started key now => some (.started key now)
  | .finished key now => some (.finished key now)
  | _ => none

/-- The starts and ends so far, newest first. -/
def marks (m : Runtime) : List Mark := m.log.filterMap Mark.of

/-- The latest callback of an operation has not ended. -/
def Open (key : Key) : List Mark → Prop
  | [] => False
  | .started other _ :: rest => other = key ∨ Open key rest
  | .finished other _ :: rest => other ≠ key ∧ Open key rest

/-- No callback of the operation runs, and none has ended within the lifetime of a retained result. -/
def Due (key : Key) (now : ℕ) (marks : List Mark) : Prop :=
  ¬ Open key marks ∧ ∀ ended, Mark.finished key ended ∈ marks → ended + completedOperationTtlSeconds < now

/-- Whenever a callback was started, it was due. -/
def AtMostOnce : List Mark → Prop
  | [] => True
  | .started key now :: rest => Due key now rest ∧ AtMostOnce rest
  | .finished _ _ :: rest => AtMostOnce rest

/-! ## Stages of a transfer -/

inductive Stage where
  /-- No transfer of that operation. -/
  | away
  /-- A transfer without a worker. -/
  | idle
  /-- Its worker has not come to the callback yet. -/
  | waiting
  | calling
  /-- Its worker will not call any more. -/
  | done
deriving DecidableEq

def Stage.ofTask : Option Task → Stage
  | none => .idle
  | some ⟨.calling, _⟩ => .calling
  | some ⟨.created, false⟩ => .waiting
  | some ⟨.receiving _, false⟩ => .waiting
  | some _ => .done

def Stage.ofTransfer : Option Transfer → Stage
  | none => .away
  | some transfer => .ofTask transfer.task

def stage (t : Tables) (key : Key) : Stage := .ofTransfer (t.transfers.get? key)

/-- The loop runs the callback of an operation. -/
def Acting (key : Key) (pc : Pc) : Prop := ∃ wisp, pc = .action key.1 wisp key.2

/-- The loop is about to start the worker of a transfer. -/
def Beginning (key : Key) (pc : Pc) : Prop :=
  (∃ sender body, pc = .sending sender body (.transfer key)) ∨ pc = .replied (.transfer key)

/-! ## Clean steps -/

/-- No overdue transfer runs its callback. -/
def Unhurried (m : Runtime) : Prop := ∀ entry ∈ m.tables.overdue m.now, Stage.ofTask entry.2.task ≠ .calling

/-- An action that is neither retained nor active is for no operation whose transfer may call, or calls. -/
def Unclaimed (env : Env) (m : Runtime) (sender : String) (body : Json) : Prop :=
  (∃ wisp ∈ env.wisps, body.get "wisp_id" = .str wisp) → body.get "action" ∉ reserved →
    Fresh (m.tables.expireCompleted m.now) sender body → ∀ operationId, body.get "operation_id" = .str operationId →
      stage m.tables (sender, operationId) ≠ .waiting ∧ stage m.tables (sender, operationId) ≠ .calling

/-- The steps that lose no started operation. -/
def Clean (env : Env) (m : Runtime) : Event → Prop
  | .frame message => ∀ sender session body, message.get "type" = .str "session_envelope" →
      message.get "sender" = .str sender → m.peers.sessions.get? sender = some session →
      (session.decrypt env.aead message m.now).2 = .ok body →
      Unhurried m ∧ (waits m = false → Unclaimed env (expired m) sender body)
  | .swept => ∀ sender body due, m.pc = .sweeping sender body due → Unclaimed env m sender body
  | .returns result => ∀ sender wisp operationId, m.pc = .action sender wisp operationId → result.assets = []
  | _ => True

/-! ## The invariant -/

structure Orderly (m : Runtime) : Prop where
  separate : AtMostOnce (marks m)
  running : ∀ key, Open key (marks m) → stage m.tables key = .calling ∨ Acting key m.pc
  past : ∀ key ended, Mark.finished key ended ∈ marks m → ended ≤ m.now
  retained : ∀ key ended, Mark.finished key ended ∈ marks m → ended + completedOperationTtlSeconds < m.now ∨
    ∃ since body, m.tables.completed.get? key = some (since, body) ∧ ended ≤ since
  pending : ∀ key, stage m.tables key = .waiting ∨ stage m.tables key = .idle ∧ Beginning key m.pc →
    ∀ ended, Mark.finished key ended ∈ marks m → ended + completedOperationTtlSeconds < m.now
  acting : ∀ key, Acting key m.pc → stage m.tables key ≠ .waiting ∧ stage m.tables key ≠ .calling ∧ key.2 ≠ ""
  beginning : ∀ key, Beginning key m.pc → stage m.tables key = .idle ∨ stage m.tables key = .away
  named : ∀ key, stage m.tables key ≠ .away → key.2 ≠ ""
  uncut : ∀ key transfer, m.tables.transfers.get? key = some transfer → transfer.task ≠ some ⟨.calling, true⟩
  stored : ∀ key since body, m.tables.completed.get? key = some (since, body) → since ≤ m.now
  orphans : m.orphans = []

/-- A transfer goes on without its callback being started or cut off. -/
def Calms (before after : Stage) : Prop :=
  after = before ∨ before = .waiting ∧ (after = .done ∨ after = .away) ∨
    before = .done ∧ (after = .idle ∨ after = .away) ∨ before = .idle ∧ after = .away

instance (before after : Stage) : Decidable (Calms before after) := by
  unfold Calms
  infer_instance

section Invariant

variable {m m' : Runtime} {key : Key}

/-- A step that starts and ends no callback. -/
structure Quiet (m m' : Runtime) : Prop where
  marks : marks m' = marks m
  orphans : m'.orphans = m.orphans
  now : m.now ≤ m'.now
  acting : ∀ key, Acting key m'.pc → Acting key m.pc
  stops : ∀ key, Acting key m.pc → Acting key m'.pc
  beginning : ∀ key, Beginning key m'.pc → Beginning key m.pc
  stages : ∀ key, Calms (stage m.tables key) (stage m'.tables key)
  completed : ∀ key since body, m.tables.completed.get? key = some (since, body) →
    since + completedOperationTtlSeconds < m'.now ∨
      ∃ later body', m'.tables.completed.get? key = some (later, body') ∧ since ≤ later
  uncut : ∀ key transfer, m'.tables.transfers.get? key = some transfer → transfer.task ≠ some ⟨.calling, true⟩
  stored : ∀ key since body, m'.tables.completed.get? key = some (since, body) → since ≤ m'.now

theorem Orderly.quiet (orderly : Orderly m) (quiet : Quiet m m') : Orderly m' := by
  have stages := quiet.stages
  constructor
  · rw [quiet.marks]
    exact orderly.separate
  · intro key opened
    rw [quiet.marks] at opened
    rcases orderly.running key opened with calling | acting
    · have calms := stages key
      rw [calling] at calms
      exact .inl (by simpa [Calms] using calms)
    · exact .inr (quiet.stops key acting)
  · intro key ended mem
    rw [quiet.marks] at mem
    exact (orderly.past key ended mem).trans quiet.now
  · intro key ended mem
    rw [quiet.marks] at mem
    have now := quiet.now
    rcases orderly.retained key ended mem with old | ⟨since, body, found, after⟩
    · exact .inl (by omega)
    · rcases quiet.completed key since body found with old | ⟨later, body', found', after'⟩
      · exact .inl (by omega)
      · exact .inr ⟨later, body', found', after.trans after'⟩
  · intro key waits ended mem
    rw [quiet.marks] at mem
    have now := quiet.now
    have before : stage m.tables key = .waiting ∨ stage m.tables key = .idle ∧ Beginning key m.pc := by
      have calms := stages key
      rcases waits with waiting | ⟨idle, begins⟩
      · rw [waiting] at calms
        exact .inl (by simpa [Calms, eq_comm] using calms)
      · have begins := quiet.beginning key begins
        rcases orderly.beginning key begins with here | away
        · exact .inr ⟨here, begins⟩
        · rw [away, idle] at calms
          simp [Calms] at calms
    have old := orderly.pending key before ended mem
    omega
  · intro key acts
    obtain ⟨unwaiting, uncalling, nonempty⟩ := orderly.acting key (quiet.acting key acts)
    have calms := stages key
    refine ⟨?_, ?_, nonempty⟩
    · intro waiting
      rw [waiting] at calms
      exact unwaiting (by simpa [Calms, eq_comm] using calms)
    · intro calling
      rw [calling] at calms
      exact uncalling (by simpa [Calms, eq_comm] using calms)
  · intro key begins
    have calms := stages key
    rcases orderly.beginning key (quiet.beginning key begins) with idle | away
    · rw [idle] at calms
      simpa [Calms] using calms
    · rw [away] at calms
      exact .inr (by simpa [Calms] using calms)
  · intro key present
    refine orderly.named key fun away => present ?_
    have calms := stages key
    rw [away] at calms
    simpa [Calms] using calms
  · exact quiet.uncut
  · exact quiet.stored
  · exact quiet.orphans.trans orderly.orphans

/-! ## Starts and ends -/

/-- A start is no end. -/
theorem ended_before {rest : List Mark} {other : Key} {began ended : ℕ}
    (mem : Mark.finished other ended ∈ Mark.started key began :: rest) : Mark.finished other ended ∈ rest := by
  rcases List.mem_cons.mp mem with same | mem
  · cases same
  · exact mem

/-- The loop starts a callback. -/
theorem Orderly.act (orderly : Orderly m) {wisp : String} (resting : ∀ key, ¬ Acting key m.pc)
    (uncompleted : m.tables.completed.get? key = none) (unwaiting : stage m.tables key ≠ .waiting)
    (uncalling : stage m.tables key ≠ .calling) (nonempty : key.2 ≠ "") (active : List Key) :
    Orderly (((m.withTables { m.tables with active := active }).record (.started key m.now)).goto
      (.action key.1 wisp key.2)) := by
  have due : Due key m.now (marks m) := by
    refine ⟨fun opened => ?_, fun ended mem => ?_⟩
    · rcases orderly.running key opened with calling | acting
      · exact uncalling calling
      · exact resting key acting
    · rcases orderly.retained key ended mem with old | ⟨since, body, found, -⟩
      · exact old
      · rw [uncompleted] at found
        cases found
  constructor
  · exact ⟨due, orderly.separate⟩
  · rintro other (rfl | opened)
    · exact .inr ⟨wisp, rfl⟩
    · rcases orderly.running other opened with calling | acting
      · exact .inl calling
      · exact absurd acting (resting other)
  · exact fun other ended mem => orderly.past other ended (ended_before mem)
  · exact fun other ended mem => orderly.retained other ended (ended_before mem)
  · intro other waits ended mem
    rcases waits with waiting | ⟨-, begins⟩
    · exact orderly.pending other (.inl waiting) ended (ended_before mem)
    · rcases begins with ⟨sender, body, on⟩ | on
      · cases on
      · cases on
  · rintro ⟨sender, operationId⟩ ⟨wisp', on⟩
    cases on
    exact ⟨unwaiting, uncalling, nonempty⟩
  · rintro other (⟨sender, body, on⟩ | on)
    · cases on
    · cases on
  · exact orderly.named
  · exact orderly.uncut
  · exact orderly.stored
  · exact orderly.orphans

/-- A worker starts the callback. -/
theorem Orderly.call (orderly : Orderly m) (waiting : stage m.tables key = .waiting)
    (marks' : marks m' = .started key m.now :: marks m) (orphans : m'.orphans = m.orphans) (now : m'.now = m.now)
    (pc : m'.pc = m.pc) (completed : m'.tables.completed = m.tables.completed)
    (calling : stage m'.tables key = .calling) (others : ∀ other, other ≠ key →
      stage m'.tables other = stage m.tables other)
    (uncut : ∀ key transfer, m'.tables.transfers.get? key = some transfer → transfer.task ≠ some ⟨.calling, true⟩) :
    Orderly m' := by
  have idle : ¬ Acting key m.pc := fun acting => (orderly.acting key acting).1 waiting
  have due : Due key m.now (marks m) := by
    refine ⟨fun opened => ?_, orderly.pending key (.inl waiting)⟩
    rcases orderly.running key opened with calling | acting
    · rw [waiting] at calling
      cases calling
    · exact idle acting
  constructor
  · rw [marks']
    exact ⟨due, orderly.separate⟩
  · intro other opened
    rw [marks'] at opened
    by_cases here : other = key
    · exact .inl (here ▸ calling)
    · rcases opened with rfl | opened
      · exact absurd rfl here
      · rw [others other here, pc]
        exact orderly.running other opened
  · intro other ended mem
    rw [marks'] at mem
    rw [now]
    exact orderly.past other ended (ended_before mem)
  · intro other ended mem
    rw [marks'] at mem
    rw [now, completed]
    exact orderly.retained other ended (ended_before mem)
  · intro other waits ended mem
    rw [marks'] at mem
    rw [now]
    by_cases here : other = key
    · rw [here, calling] at waits
      simp at waits
    · rw [others other here, pc] at waits
      exact orderly.pending other waits ended (ended_before mem)
  · intro other acting
    rw [pc] at acting
    have here : other ≠ key := by
      rintro rfl
      exact idle acting
    rw [others other here]
    exact orderly.acting other acting
  · intro other begins
    rw [pc] at begins
    have here : other ≠ key := by
      rintro rfl
      have before := orderly.beginning other begins
      rw [waiting] at before
      simp at before
    rw [others other here]
    exact orderly.beginning other begins
  · intro other present
    by_cases here : other = key
    · refine orderly.named other ?_
      rw [here, waiting]
      rintro ⟨⟩
    · rw [others other here] at present
      exact orderly.named other present
  · exact uncut
  · rw [completed, now]
    exact orderly.stored
  · exact orphans.trans orderly.orphans

/-- A callback ends, and its operation is remembered. -/
theorem Orderly.finish (orderly : Orderly m) {body : Json} (nonempty : key.2 ≠ "")
    (marks' : marks m' = .finished key m.now :: marks m) (orphans : m'.orphans = m.orphans) (now : m'.now = m.now)
    (completed : m'.tables.completed = m.tables.completed.insert key (m.now, body))
    (acting : ∀ other, Acting other m'.pc ↔ Acting other m.pc ∧ other ≠ key)
    (beginning : ∀ other, Beginning other m'.pc → Beginning other m.pc ∧ other ≠ key)
    (unwaiting : stage m'.tables key ≠ .waiting) (uncalling : stage m'.tables key ≠ .calling)
    (others : ∀ other, other ≠ key → stage m'.tables other = stage m.tables other)
    (uncut : ∀ key transfer, m'.tables.transfers.get? key = some transfer → transfer.task ≠ some ⟨.calling, true⟩) :
    Orderly m' := by
  constructor
  · rw [marks']
    exact orderly.separate
  · intro other opened
    rw [marks'] at opened
    obtain ⟨apart, opened⟩ := opened
    rw [others other apart.symm, acting]
    rcases orderly.running other opened with calling | acts
    · exact .inl calling
    · exact .inr ⟨acts, apart.symm⟩
  · intro other ended mem
    rw [marks'] at mem
    rw [now]
    rcases List.mem_cons.mp mem with same | mem
    · cases same
      exact le_rfl
    · exact orderly.past other ended mem
  · intro other ended mem
    rw [marks'] at mem
    rw [now, completed]
    by_cases here : other = key
    · subst here
      refine .inr ⟨m.now, body, Dict.get?_insert_self _ _ _, ?_⟩
      rcases List.mem_cons.mp mem with same | mem
      · cases same
        exact le_rfl
      · exact orderly.past other ended mem
    · rw [Dict.get?_insert_of_ne _ _ fun same => here same.symm]
      rcases List.mem_cons.mp mem with same | mem
      · cases same
        exact absurd rfl here
      · exact orderly.retained other ended mem
  · intro other waits ended mem
    rw [marks'] at mem
    rw [now]
    have here : other ≠ key := by
      rintro rfl
      rcases waits with waiting | ⟨-, begins⟩
      · exact unwaiting waiting
      · exact (beginning other begins).2 rfl
    have before : stage m.tables other = .waiting ∨ stage m.tables other = .idle ∧ Beginning other m.pc := by
      rw [others other here] at waits
      exact waits.imp_right fun idle => ⟨idle.1, (beginning other idle.2).1⟩
    rcases List.mem_cons.mp mem with same | mem
    · cases same
      exact absurd rfl here
    · exact orderly.pending other before ended mem
  · intro other acts
    obtain ⟨acts, here⟩ := (acting other).mp acts
    rw [others other here]
    exact orderly.acting other acts
  · intro other begins
    obtain ⟨begins, here⟩ := beginning other begins
    rw [others other here]
    exact orderly.beginning other begins
  · intro other present
    by_cases here : other = key
    · exact here ▸ nonempty
    · rw [others other here] at present
      exact orderly.named other present
  · exact uncut
  · intro other since kept found
    rw [completed, Dict.get?_insert] at found
    rw [now]
    split_ifs at found
    · cases found
      exact le_rfl
    · exact orderly.stored other since kept found
  · exact orphans.trans orderly.orphans

/-- A transfer is entered, and the loop will start its worker. -/
theorem Orderly.begin (orderly : Orderly m) {sender : String} {reply : Json} (resting : ∀ key, ¬ Acting key m.pc)
    (marks' : marks m' = marks m) (orphans : m'.orphans = m.orphans) (now : m'.now = m.now)
    (pc : m'.pc = .sending sender reply (.transfer key)) (completed : m'.tables.completed = m.tables.completed)
    (entered : stage m'.tables key = .idle ∧ key.2 ≠ "" ∧ m.tables.completed.get? key = none ∨
      stage m'.tables key = .away)
    (others : ∀ other, other ≠ key → stage m'.tables other = stage m.tables other)
    (absent : stage m.tables key = .away)
    (uncut : ∀ key transfer, m'.tables.transfers.get? key = some transfer → transfer.task ≠ some ⟨.calling, true⟩) :
    Orderly m' := by
  have only : ∀ {other}, Beginning other m'.pc → other = key := by
    rintro other (⟨sender, body, on⟩ | on)
    · rw [pc] at on
      cases on
      rfl
    · rw [pc] at on
      cases on
  have calm : ∀ other, stage m.tables other = .calling → stage m'.tables other = .calling := by
    intro other calling
    have here : other ≠ key := by
      rintro rfl
      rw [absent] at calling
      cases calling
    rw [others other here]
    exact calling
  have silent : ∀ other, ¬ Acting other m'.pc := by
    rintro other ⟨wisp, on⟩
    rw [pc] at on
    cases on
  constructor
  · rw [marks']
    exact orderly.separate
  · intro other opened
    rw [marks'] at opened
    rcases orderly.running other opened with calling | acting
    · exact .inl (calm other calling)
    · exact absurd acting (resting other)
  · rw [marks', now]
    exact orderly.past
  · rw [marks', now, completed]
    exact orderly.retained
  · intro other waits ended mem
    rw [marks'] at mem
    rw [now]
    by_cases here : other = key
    · subst here
      rcases entered with ⟨-, -, none⟩ | away
      · rcases orderly.retained other ended mem with old | ⟨since, body, found, -⟩
        · exact old
        · rw [none] at found
          cases found
      · rw [away] at waits
        simp at waits
    · rcases waits with waiting | ⟨-, begins⟩
      · rw [others other here] at waiting
        exact orderly.pending other (.inl waiting) ended mem
      · exact absurd (only begins) here
  · exact fun other acting => absurd acting (silent other)
  · intro other begins
    obtain rfl := only begins
    exact entered.imp_left And.left
  · intro other present
    by_cases here : other = key
    · subst here
      rcases entered with ⟨-, nonempty, -⟩ | away
      · exact nonempty
      · exact absurd away present
    · rw [others other here] at present
      exact orderly.named other present
  · exact uncut
  · rw [completed, now]
    exact orderly.stored
  · exact orphans.trans orderly.orphans

end Invariant

/-! ## Sweeps -/

/-- No cancelled worker is in the callback. -/
def Uncut (t : Tables) : Prop :=
  ∀ key transfer, t.transfers.get? key = some transfer → transfer.task ≠ some ⟨.calling, true⟩

/-- Nothing was remembered in the future. -/
def Stored (t : Tables) (now : ℕ) : Prop := ∀ key since body, t.completed.get? key = some (since, body) → since ≤ now

/-- What is remembered stays, or is remembered anew. -/
def Retains (t t' : Tables) : Prop := ∀ key since body, t.completed.get? key = some (since, body) →
  ∃ later body', t'.completed.get? key = some (later, body') ∧ since ≤ later

section Sweeps

variable {t t' t'' : Tables} {now : ℕ} {key : Key} {entry : Key × Transfer}

theorem stage_eq (same : t'.transfers.get? key = t.transfers.get? key) : stage t' key = stage t key := by
  unfold stage
  rw [same]

theorem Retains.refl (t : Tables) : Retains t t := fun _ since body found => ⟨since, body, found, le_rfl⟩

theorem Retains.trans (first : Retains t t') (second : Retains t' t'') : Retains t t'' := by
  intro key since body found
  obtain ⟨later, body', found', after⟩ := first key since body found
  obtain ⟨latest, body'', found'', after'⟩ := second key later body' found'
  exact ⟨latest, body'', found'', after.trans after'⟩

theorem remember_stored (stored : Stored t now) (sender operationId : String) (body : Json) :
    Stored (t.remember sender operationId body now) now := by
  unfold Tables.remember
  split_ifs
  · exact stored
  · intro key since kept found
    rw [Dict.get?_insert] at found
    split_ifs at found
    · cases found
      exact le_rfl
    · exact stored key since kept found

theorem remember_retains (stored : Stored t now) (sender operationId : String) (body : Json) :
    Retains t (t.remember sender operationId body now) := by
  unfold Tables.remember
  split_ifs
  · exact .refl t
  · intro key since kept found
    by_cases here : (sender, operationId) = key
    · exact ⟨now, body, by simp [here], stored key since kept found⟩
    · exact ⟨since, kept, (Dict.get?_insert_of_ne _ _ here).trans found, le_rfl⟩

variable (now) in
theorem expire_stage (uncalled : stage t entry.1 ≠ .calling) (key : Key) : stage (t.expire entry now) key = stage t key ∨
    stage t key = .waiting ∧ stage (t.expire entry now) key = .done := by
  have modified := get?_expire t entry now key
  by_cases here : entry.1 = key
  · subst here
    rw [if_pos rfl] at modified
    unfold stage at uncalled ⊢
    rw [modified]
    cases found : t.transfers.get? entry.1 with
    | none => exact .inl rfl
    | some transfer =>
      rw [found] at uncalled
      cases running : transfer.task with
      | none => exact .inl (by simp [Stage.ofTransfer, running])
      | some task =>
        obtain ⟨phase, cancelled⟩ := task
        simp only [Stage.ofTransfer, running] at uncalled
        simp only [Option.map_some, Stage.ofTransfer, running]
        cases phase with
        | created => cases cancelled <;> simp [Stage.ofTask]
        | receiving index => cases cancelled <;> simp [Stage.ofTask]
        | calling => exact absurd rfl uncalled
        | reporting body => cases cancelled <;> simp [Stage.ofTask]
  · rw [if_neg here] at modified
    exact .inl (stage_eq modified)

theorem expire_uncut (uncut : Uncut t) (uncalled : stage t entry.1 ≠ .calling) : Uncut (t.expire entry now) := by
  intro key transfer found cut
  have calling : stage (t.expire entry now) key = .calling := by
    unfold stage
    rw [found]
    exact congrArg Stage.ofTask cut
  have here : entry.1 ≠ key := by
    rintro rfl
    rcases expire_stage now uncalled entry.1 with same | ⟨-, done⟩
    · exact uncalled (same ▸ calling)
    · rw [done] at calling
      cases calling
  rw [get?_expire, if_neg here] at found
  exact uncut key transfer found cut

/-- The first loop of a sweep that meets no running callback. -/
theorem foldl_expire_stages (entries : List (Key × Transfer)) (uncalled : ∀ entry ∈ entries, stage t entry.1 ≠ .calling)
    (uncut : Uncut t) (stored : Stored t now) :
    let t' := entries.foldl (fun tables entry => tables.expire entry now) t
    (∀ key, stage t' key = stage t key ∨ stage t key = .waiting ∧ stage t' key = .done) ∧ Uncut t' ∧ Stored t' now ∧
      Retains t t' := by
  induction entries generalizing t with
  | nil => exact ⟨fun _ => .inl rfl, uncut, stored, .refl t⟩
  | cons entry rest ih =>
    rw [List.forall_mem_cons] at uncalled
    have first := fun key => expire_stage now uncalled.1 key
    have still : ∀ other ∈ rest, stage (t.expire entry now) other.1 ≠ .calling := by
      intro other mem calling
      rcases first other.1 with same | ⟨-, done⟩
      · exact uncalled.2 other mem (same ▸ calling)
      · rw [done] at calling
        cases calling
    have remembered := remember_stored stored entry.1.1 entry.1.2
      (operationStatusBody entry.2.wisp "indeterminate" entry.1.2)
    have retains := remember_retains stored entry.1.1 entry.1.2
      (operationStatusBody entry.2.wisp "indeterminate" entry.1.2)
    obtain ⟨later, uncut', stored', retains'⟩ := ih still (expire_uncut uncut uncalled.1) remembered
    refine ⟨fun key => ?_, uncut', stored', Retains.trans retains retains'⟩
    rcases first key with same | ⟨waiting, done⟩
    · rw [← same]
      exact later key
    · rcases later key with same | ⟨waiting', -⟩
      · exact .inr ⟨waiting, same.trans done⟩
      · rw [done] at waiting'
        cases waiting'

theorem overdue_stage (listed : entry ∈ t.overdue now) : stage t entry.1 = Stage.ofTask entry.2.task := by
  obtain ⟨mem, -⟩ := List.mem_filter.mp listed
  have found : t.transfers.get? entry.1 = some entry.2 := (Dict.get?_eq_some_iff _ _ _).mpr mem
  exact congrArg Stage.ofTransfer found

theorem drop_stage (keys : List Key) (key : Key) : stage (t.drop keys) key =
      if key ∈ keys then .away else stage t key := by
  have erased : (t.drop keys).transfers.get? key = if key ∈ keys then none else t.transfers.get? key :=
    get?_foldl_erase _ _ _
  unfold stage
  rw [erased]
  split_ifs
  · rfl
  · rfl

end Sweeps

section Steps

variable {env : Env} {m m' : Runtime} {key : Key} {sender wisp operationId : String} {body : Json} {result : Result}

/-- An await that is neither in an action nor about to start a worker. -/
def Resting (pc : Pc) : Prop := ∀ key, ¬ Acting key pc ∧ ¬ Beginning key pc

/-- Only the tables change, and the loop comes to rest. -/
theorem Orderly.rest (orderly : Orderly m) (idle : ∀ key, ¬ Acting key m.pc) (resting' : Resting m'.pc)
    (marks' : marks m' = marks m)
    (orphans : m'.orphans = m.orphans) (now : m'.now = m.now)
    (stages : ∀ key, Calms (stage m.tables key) (stage m'.tables key)) (retains : ∀ key since body,
      m.tables.completed.get? key = some (since, body) → since + completedOperationTtlSeconds < m.now ∨
        ∃ later body', m'.tables.completed.get? key = some (later, body') ∧ since ≤ later)
    (uncut : Uncut m'.tables) (stored : Stored m'.tables m.now) : Orderly m' := by
  refine orderly.quiet ⟨marks', orphans, now.ge, fun key acts => absurd acts (resting' key).1,
    fun key acts => absurd acts (idle key), fun key begins => absurd begins (resting' key).2, stages, ?_, uncut, ?_⟩
  · rw [now]
    exact retains
  · rw [now]
    exact stored

/-- Only the await changes. -/
theorem Orderly.goto (orderly : Orderly m) (idle : ∀ key, ¬ Acting key m.pc) {pc : Pc} (resting' : Resting pc) :
    Orderly (m.goto pc) :=
  orderly.rest idle resting' rfl rfl rfl (fun _ => .inl rfl)
    (fun _ since body found => .inr ⟨since, body, found, le_rfl⟩) orderly.uncut orderly.stored

/-- Whether an await is the one of an action. -/
def isAction : Pc → Bool
  | .action _ _ _ => true
  | _ => false

/-- Whether an await comes before a worker is started. -/
def isStart : Pc → Bool
  | .sending _ _ (.transfer _) => true
  | .replied (.transfer _) => true
  | _ => false

theorem not_beginning {key : Key} {pc : Pc} (unstarting : isStart pc = false) : ¬ Beginning key pc := by
  rintro (⟨sender, body, rfl⟩ | rfl)
  · cases unstarting
  · cases unstarting

/-- An await of another kind. -/
theorem resting_of {pc : Pc} (unacting : isAction pc = false) (unstarting : isStart pc = false) : Resting pc := by
  intro key
  constructor
  · rintro ⟨wisp, rfl⟩
    cases unacting
  · exact not_beginning unstarting

theorem raises_resting (m : Runtime) (e : PyError) : Resting (m.raises e).pc := by
  rcases raises_pc m e with pc | pc
  · rw [pc]
    exact resting_of rfl rfl
  · rw [pc]
    exact resting_of rfl rfl

/-! ## Dispatch -/

/-- What a sweep leaves of the tables. -/
structure Swept (now : ℕ) (t t' : Tables) : Prop where
  stages : ∀ key, Calms (stage t key) (stage t' key)
  retains : ∀ key since body, t.completed.get? key = some (since, body) → since + completedOperationTtlSeconds < now ∨
    ∃ later body', t'.completed.get? key = some (later, body') ∧ since ≤ later
  uncut : Uncut t'
  stored : Stored t' now

theorem Orderly.swept {tables : Tables} (orderly : Orderly m) (resting : Resting m.pc)
    (swept : Swept m.now m.tables tables) :
    Orderly (m.withTables tables) :=
  orderly.rest (fun key => (resting key).1) resting rfl rfl rfl swept.stages swept.retains swept.uncut swept.stored

theorem expireCompleted_swept {t : Tables} {now : ℕ} (uncut : Uncut t) (stored : Stored t now) :
    Swept now t (t.expireCompleted now) := by
  have filtered : ∀ key, (t.expireCompleted now).completed.get? key = (t.completed.get? key).filter
      fun value => decide (now ≤ value.1 + completedOperationTtlSeconds) := fun key => Dict.get?_filter _ _ _
  constructor
  · exact fun key => .inl rfl
  · intro key since body found
    rw [filtered, found]
    by_cases fresh : now ≤ since + completedOperationTtlSeconds
    · exact .inr ⟨since, body, by simp [fresh], le_rfl⟩
    · exact .inl (not_le.mp fresh)
  · exact uncut
  · intro key since body found
    rw [filtered, Option.filter_eq_some_iff] at found
    exact stored key since body found.1

/-- Transfers whose workers have ended are dropped. -/
theorem drop_swept {t : Tables} (now : ℕ) {due : List Key}
    (ended : ∀ key ∈ due, stage t key = .idle ∨ stage t key = .away)
    (uncut : Uncut t) (stored : Stored t now) : Swept now t (t.drop due) := by
  constructor
  · intro key
    rw [drop_stage]
    split_ifs with dropped
    · rcases ended key dropped with idle | away
      · rw [idle]
        decide
      · rw [away]
        decide
    · exact .inl rfl
  · exact fun key since body found => .inr ⟨since, body, found, le_rfl⟩
  · intro key transfer found
    have erased : (t.drop due).transfers.get? key = if key ∈ due then none else t.transfers.get? key :=
      get?_foldl_erase _ _ _
    rw [erased] at found
    split_ifs at found
    exact uncut key transfer found
  · exact stored

theorem Orderly.remembered (orderly : Orderly m) (resting : Resting m.pc) (sender operationId : String) (body : Json)
    (active : List Key) :
    Orderly (m.withTables { m.tables.remember sender operationId body m.now with active := active }) := by
  have transfers : ∀ key, (m.tables.remember sender operationId body m.now).transfers.get? key =
      m.tables.transfers.get? key := fun key => congrArg (Dict.get? · key) (remember_transfers _ _ _)
  exact orderly.rest (fun key => (resting key).1) resting rfl rfl rfl (fun key => .inl (stage_eq (transfers key)))
    (fun key since body found => .inr (remember_retains orderly.stored _ _ _ key since body found))
    (fun key transfer found => orderly.uncut key transfer ((transfers key).symm.trans found))
    (remember_stored orderly.stored _ _ _)

theorem Orderly.raises (orderly : Orderly m) (idle : ∀ key, ¬ Acting key m.pc) (e : PyError) : Orderly (m.raises e) := by
  unfold Runtime.raises
  split_ifs
  · exact orderly.goto idle (resting_of rfl rfl)
  · exact orderly.rest idle (resting_of rfl rfl) rfl rfl rfl (fun _ => .inl rfl)
      (fun _ since body found => .inr ⟨since, body, found, le_rfl⟩) orderly.uncut orderly.stored

theorem Orderly.abandon (orderly : Orderly m) (resting : Resting m.pc) (sender wisp operationId : String) (e : PyError) :
    Orderly (m.abandon sender wisp operationId e) :=
  (orderly.remembered resting _ _ _ _).raises (fun key => (resting key).1) e

theorem withTransfer_stage (t : Tables) (sender wisp transferId : String) (body : Json) (files : Dict String IncomingFile)
    (now : ℕ) (key : Key) : stage (withTransfer t sender wisp transferId body files now) key =
      if (sender, transferId) = key then .idle else stage t key := by
  have inserted : (withTransfer t sender wisp transferId body files now).transfers.get? key =
      if (sender, transferId) = key then some ⟨sender, wisp, body.getD "action_data" (.obj []), files, now, none⟩
      else t.transfers.get? key := Dict.get?_insert _ _ _ _
  unfold stage
  rw [inserted]
  split_ifs
  · rfl
  · rfl

theorem stage_away (absent : m.tables.transfers.get? key = none) : stage m.tables key = .away :=
  congrArg Stage.ofTransfer absent

/-- The dispatcher acts on tables that a sweep has left. -/
theorem act_orderly {wisps : List String} {printable : Char → Bool} {choice : Choice} {tables : Tables}
    (orderly : Orderly m) (resting : Resting m.pc)
    (chosen : Chosen printable wisps m.tables sender body m.now tables choice)
    (unclaimed : (∃ wisp ∈ wisps, body.get "wisp_id" = .str wisp) → body.get "action" ∉ reserved →
      Fresh m.tables sender body → ∀ operationId, body.get "operation_id" = .str operationId →
        stage m.tables (sender, operationId) ≠ .waiting ∧ stage m.tables (sender, operationId) ≠ .calling) :
    Orderly ((m.withTables tables).act sender choice) := by
  have idle := fun key => (resting key).1
  have goes : ∀ {pc}, Resting pc → Orderly (m.goto pc) := fun resting' => orderly.goto idle resting'
  cases chosen with
  | unhashable broken => exact orderly.raises idle _
  | unknown hashable nobody => exact goes (resting_of rfl rfl)
  | resumes wisp known named kind reply read => exact goes (resting_of rfl rfl)
  | state wisp known named kind => exact goes (resting_of rfl rfl)
  | repeats wisp known named kind reply => exact goes (resting_of rfl rfl)
  | answers wisp known named kind reply stale => exact goes (resting_of rfl rfl)
  | begins wisp known named kind files reply uncompleted absent named_id =>
    have stages := withTransfer_stage m.tables sender wisp (transferIdOf printable body) body files m.now
    refine orderly.begin idle rfl rfl rfl rfl rfl (.inl ⟨?_, named_id, uncompleted⟩) ?_
      (stage_away absent) ?_
    · exact (stages _).trans (if_pos rfl)
    · exact fun other apart => (stages other).trans (if_neg apart.symm)
    · intro key transfer found
      have inserted : (withTransfer m.tables sender wisp
        (transferIdOf printable body) body files m.now).transfers.get? key =
          some transfer := found
      rw [withTransfer, Dict.get?_insert] at inserted
      split_ifs at inserted
      · cases inserted
        rintro ⟨⟩
      · exact orderly.uncut key transfer inserted
  | refuses wisp known named kind reply absent =>
    exact orderly.begin idle rfl rfl rfl rfl rfl (.inr (stage_away absent)) (fun _ _ => rfl)
      (stage_away absent) orderly.uncut
  | acts wisp operationId known named kind read nonempty short uncompleted inactive =>
    obtain ⟨unwaiting, uncalling⟩ := unclaimed ⟨wisp, known, named⟩ kind
      ⟨operationId, read, nonempty, short, uncompleted, inactive⟩ operationId read
    simp only [act]
    split
    · have entered : Orderly (m.withTables { m.tables with active := (sender, operationId) :: m.tables.active }) :=
        orderly.swept resting ⟨fun _ => .inl rfl, fun _ since body found => .inr ⟨since, body, found, le_rfl⟩,
          orderly.uncut, orderly.stored⟩
      exact entered.abandon resting _ _ _ _
    · exact orderly.act idle uncompleted unwaiting uncalling nonempty _

/-- A stage before a callback cannot come about by calm moves. -/
theorem Calms.before {before after : Stage} (calms : Calms before after) (unwaiting : before ≠ .waiting)
    (uncalling : before ≠ .calling) : after ≠ .waiting ∧ after ≠ .calling := by
  cases before <;> cases after <;> simp_all [Calms]

theorem afterSweep_orderly {due : List Key} (orderly : Orderly m) (resting : Resting m.pc)
    (ended : ∀ key ∈ due, stage m.tables key = .idle ∨ stage m.tables key = .away)
    (unclaimed : Unclaimed env m sender body) : Orderly (m.afterSweep env sender body due) := by
  have dropped := drop_swept m.now ended orderly.uncut orderly.stored
  have cleaned : Orderly (m.withTables ((m.tables.drop due).expireCompleted m.now)) :=
    (orderly.swept resting dropped).swept resting (expireCompleted_swept dropped.uncut dropped.stored)
  have chosen := choose_chosen env.printable env.wisps sender body m.now (m.tables.drop due)
  refine act_orderly (m := m.withTables ((m.tables.drop due).expireCompleted m.now)) cleaned resting chosen ?_
  intro known kind fresh operationId read
  obtain ⟨unwaiting, uncalling⟩ := unclaimed known kind fresh operationId read
  exact (dropped.stages (sender, operationId)).before unwaiting uncalling

/-- Without a worker to wait for, every overdue transfer is dropped at once. -/
theorem dispatch_orderly (orderly : Orderly m) (resting : Resting m.pc) (unhurried : Unhurried m)
    (unclaimed : waits m = false → Unclaimed env (expired m) sender body) : Orderly (m.dispatch env sender body) := by
  obtain ⟨stages, uncut, stored, retains⟩ := foldl_expire_stages (m.tables.overdue m.now)
    (fun entry listed => overdue_stage listed ▸ unhurried entry listed) orderly.uncut orderly.stored
  have swept : Orderly (expired m) := by
    refine orderly.swept resting ⟨fun key => ?_, fun key since body found =>
      .inr (retains key since body found), uncut, stored⟩
    exact (stages key).imp_right fun ended => .inl ⟨ended.1, .inl ended.2⟩
  unfold dispatch
  dsimp only
  split_ifs with busy
  · exact swept.goto (fun key => (resting key).1) (resting_of rfl rfl)
  · have ready : waits m = false := Bool.eq_false_iff.mpr busy
    refine afterSweep_orderly swept resting ?_ (unclaimed ready)
    intro key mem
    obtain ⟨entry, listed, rfl⟩ := List.mem_map.mp mem
    have untouched := List.any_eq_false.mp ready entry listed
    rw [Bool.not_eq_true, Option.isSome_eq_false_iff, Option.isNone_iff_eq_none] at untouched
    have idle : stage m.tables entry.1 = .idle := by
      rw [overdue_stage listed, untouched]
      rfl
    rcases stages entry.1 with same | ⟨waiting, -⟩
    · exact .inl (same.trans idle)
    · rw [idle] at waiting
      cases waiting

/-! ## Callbacks of the loop -/

theorem remember_active (t : Tables) (active : List Key) (sender operationId : String) (body : Json) (now : ℕ) :
    { t with active := active }.remember sender operationId body now =
      { t.remember sender operationId body now with active := active } := by
  unfold Tables.remember
  split_ifs
  · rfl
  · rfl

theorem remember_completed (t : Tables) (nonempty : operationId ≠ "") (sender : String) (body : Json) (now : ℕ) :
    (t.remember sender operationId body now).completed = t.completed.insert (sender, operationId) (now, body) := by
  unfold Tables.remember
  rw [if_neg nonempty]

/-- The callback that the loop runs ends, and its operation is remembered. -/
theorem action_orderly (orderly : Orderly m) (on : m.pc = .action sender wisp operationId) (retained : Json)
    (active : List Key) {pc : Pc} (resting : Resting pc) :
    Orderly (((m.record (.finished (sender, operationId) m.now)).withTables
      { m.tables.remember sender operationId retained m.now with active := active }).goto pc) := by
  have acting : Acting (sender, operationId) m.pc := ⟨wisp, on⟩
  obtain ⟨unwaiting, uncalling, nonempty⟩ := orderly.acting _ acting
  have transfers : ∀ key, (m.tables.remember sender operationId retained m.now).transfers.get? key =
      m.tables.transfers.get? key := fun key => congrArg (Dict.get? · key) (remember_transfers _ _ _)
  refine orderly.finish nonempty rfl rfl rfl (remember_completed _ nonempty _ _ _) ?_ ?_ ?_ ?_ ?_ ?_
  · rintro ⟨sender', operationId'⟩
    refine iff_of_false (resting _).1 ?_
    rintro ⟨⟨wisp', on'⟩, other⟩
    rw [on] at on'
    cases on'
    exact other rfl
  · exact fun other begins => absurd begins (resting other).2
  · exact fun waiting => unwaiting ((stage_eq (transfers _)).symm.trans waiting)
  · exact fun calling => uncalling ((stage_eq (transfers _)).symm.trans calling)
  · exact fun other _ => stage_eq (transfers other)
  · exact fun key transfer found => orderly.uncut key transfer ((transfers key).symm.trans found)

theorem respond_orderly (orderly : Orderly m) (idle : ∀ key, ¬ Acting key m.pc) :
    Orderly (m.respond sender wisp result) := by
  unfold respond
  split_ifs
  · exact orderly.goto idle (resting_of rfl rfl)
  · exact orderly.raises idle _

theorem returned_orderly (orderly : Orderly m) (clean : Clean env m (.returns result))
    (stepped : m.returned result = some m') : Orderly m' := by
  have reading : Resting .reading := resting_of rfl rfl
  unfold returned at stepped
  split at stepped
  · rename_i sender wisp on
    have idle : ∀ key, ¬ Acting key m.pc := by
      rintro key ⟨wisp, acting⟩
      rw [on] at acting
      cases acting
    split at stepped
    · cases stepped
      exact orderly.raises idle _
    · cases stepped
      exact respond_orderly orderly idle
  · rename_i sender wisp operationId on
    dsimp only at stepped
    split at stepped
    · rename_i e cause
      cases stepped
      have ended := action_orderly orderly on (operationStatusBody wisp "indeterminate" operationId)
        ((m.tables.remember sender operationId (operationStatusBody wisp "indeterminate" operationId) m.now).active.erase
          (sender, operationId)) reading
      exact ended.raises (fun key => (reading key).1) e
    · cases stepped
      have none := clean sender wisp operationId on
      have retained : retainedResponseBody wisp result = some (responseBody wisp result.payload) := by
        unfold retainedResponseBody
        rw [if_pos none]
      rw [retained]
      dsimp only
      rw [remember_active]
      unfold respond
      rw [if_pos none]
      exact action_orderly orderly on _ _ (resting_of rfl rfl)
  · cases stepped

/-! ## Replies of the loop -/

theorem encryptFor_quiet {peer : String} (encrypted : m.encryptFor env peer body = .ok m') :
    marks m' = marks m ∧ m'.orphans = m.orphans ∧ m'.now = m.now ∧ m'.tables = m.tables ∧ m'.pc = m.pc := by
  obtain ⟨session, frame, nonce, ciphertext, -, -, -, rfl⟩ := encryptFor_ok encrypted
  exact ⟨rfl, rfl, rfl, rfl, rfl⟩

theorem loopSend_orderly (orderly : Orderly m) (stepped : m.loopSend env = some m') : Orderly m' := by
  unfold loopSend at stepped
  split at stepped
  · rename_i sender body after on
    have idle : ∀ key, ¬ Acting key m.pc := by
      rintro key ⟨wisp, acting⟩
      rw [on] at acting
      cases acting
    split at stepped
    · rename_i sealed encrypted
      cases stepped
      obtain ⟨marks', orphans, now, tables, -⟩ := encryptFor_quiet encrypted
      refine orderly.quiet ⟨marks', orphans, now.ge, ?_, fun key acts => absurd acts (idle key), ?_, ?_, ?_, ?_, ?_⟩
      · rintro key ⟨wisp, acting⟩
        cases acting
      · rintro key (⟨sender, body, begins⟩ | begins)
        · cases begins
        · cases begins
          exact .inl ⟨sender, body, on⟩
      · exact fun key => .inl (congrArg (stage · key) tables)
      · intro key since kept found
        exact .inr ⟨since, kept, (congrArg (fun t => t.completed.get? key) tables).trans found, le_rfl⟩
      · intro key transfer found
        exact orderly.uncut key transfer ((congrArg (fun t => t.transfers.get? key) tables).symm.trans found)
      · intro key since kept found
        exact (orderly.stored key since kept
          ((congrArg (fun t => t.completed.get? key) tables).symm.trans found)).trans now.ge
    · cases stepped
      exact orderly.raises idle _
  · cases stepped

theorem startWorker_get? (m : Runtime) (key other : Key) : (m.startWorker key).tables.transfers.get? other =
    if key = other then (m.tables.transfers.get? other).map fun transfer => { transfer with task := some {} }
    else m.tables.transfers.get? other :=
  Dict.get?_modify _ _ _ _

/-- The worker of a transfer is created. -/
theorem start_orderly (orderly : Orderly m) (on : m.pc = .replied (.transfer key)) :
    Orderly ((m.startWorker key).goto .reading) := by
  have begins : Beginning key m.pc := .inr on
  have read := startWorker_get? m key
  have idle : ∀ key, ¬ Acting key m.pc := by
    rintro key ⟨wisp, acting⟩
    rw [on] at acting
    cases acting
  have rests : Resting .reading := resting_of rfl rfl
  have others : ∀ other, other ≠ key → stage (m.startWorker key).tables other = stage m.tables other :=
    fun other apart => stage_eq ((read other).trans (if_neg apart.symm))
  have here : stage (m.startWorker key).tables key = .waiting ∧ stage m.tables key = .idle ∨
      stage (m.startWorker key).tables key = .away ∧ stage m.tables key = .away := by
    have modified := (read key).trans (if_pos rfl)
    cases found : m.tables.transfers.get? key with
    | none =>
      rw [found] at modified
      exact .inr ⟨stage_away modified, stage_away found⟩
    | some transfer =>
      rw [found] at modified
      refine .inl ⟨?_, (orderly.beginning key begins).resolve_right ?_⟩
      · unfold stage
        rw [modified]
        rfl
      · unfold stage
        rw [found]
        unfold Stage.ofTransfer Stage.ofTask
        dsimp only
        split <;> rintro ⟨⟩
  constructor
  · exact orderly.separate
  · intro other opened
    rcases orderly.running other opened with calling | acts
    · refine .inl ((others other ?_).trans calling)
      rintro rfl
      rcases orderly.beginning other begins with idle | away
      · rw [idle] at calling
        cases calling
      · rw [away] at calling
        cases calling
    · exact absurd acts (idle other)
  · exact orderly.past
  · exact orderly.retained
  · rintro other waits ended mem
    rcases waits with waiting | ⟨-, never⟩
    · by_cases same : other = key
      · subst same
        rcases here with ⟨-, before⟩ | ⟨after, -⟩
        · exact orderly.pending other (.inr ⟨before, begins⟩) ended mem
        · rw [show ((m.startWorker other).goto .reading).tables = (m.startWorker other).tables from rfl, after] at waiting
          cases waiting
      · exact orderly.pending other (.inl ((others other same).symm.trans waiting)) ended mem
    · exact absurd never (rests other).2
  · exact fun other acts => absurd acts (rests other).1
  · exact fun other begins => absurd begins (rests other).2
  · intro other present
    refine orderly.named other fun away => present ?_
    by_cases same : other = key
    · subst same
      rcases here with ⟨-, before⟩ | ⟨after, -⟩
      · rw [before] at away
        cases away
      · exact after
    · exact (others other same).trans away
  · intro other transfer found
    have modified := (read other).symm.trans found
    split_ifs at modified
    · obtain ⟨before, -, rfl⟩ := Option.map_eq_some_iff.mp modified
      rintro ⟨⟩
    · exact orderly.uncut other transfer modified
  · exact orderly.stored
  · exact orderly.orphans

theorem loopDrained_orderly {written : Bool} (orderly : Orderly m) (stepped : m.loopDrained written = some m') :
    Orderly m' := by
  unfold loopDrained at stepped
  split at stepped
  · rename_i on
    cases stepped
    refine orderly.goto ?_ ?_
    · rintro key ⟨wisp, acting⟩
      rw [on] at acting
      cases acting
    · cases written
      · exact resting_of rfl rfl
      · exact resting_of rfl rfl
  · rename_i after on
    have idle : ∀ key, ¬ Acting key m.pc := by
      rintro key ⟨wisp, acting⟩
      rw [on] at acting
      cases acting
    cases stepped
    cases written with
    | false => exact orderly.goto idle (resting_of rfl rfl)
    | true =>
      cases after with
      | done => exact orderly.goto idle (resting_of rfl rfl)
      | transfer key => exact start_orderly orderly on
  · cases stepped

/-! ## Workers -/

section Workers

variable {transfer : Transfer} {task : Task}

/-- Only the transfer of the worker changes. -/
structure Own (m m' : Runtime) (key : Key) (later : Option Transfer) : Prop where
  orphans : m'.orphans = m.orphans
  now : m'.now = m.now
  pc : m'.pc = m.pc
  transfers : ∀ other, m'.tables.transfers.get? other = if key = other then later else m.tables.transfers.get? other

theorem Own.stage {later : Option Transfer} (own : Own m m' key later) (other : Key) :
    stage m'.tables other = if key = other then .ofTransfer later else stage m.tables other := by
  unfold Execution.stage
  rw [own.transfers]
  split_ifs
  · rfl
  · rfl

theorem Own.uncut {later : Option Transfer} (own : Own m m' key later) (orderly : Orderly m)
    (alive : ∀ transfer, later = some transfer → transfer.task ≠ some ⟨.calling, true⟩) : Uncut m'.tables := by
  intro other transfer found
  rw [own.transfers] at found
  split_ifs at found
  · exact alive transfer found
  · exact orderly.uncut other transfer found

/-- The worker goes on without its callback being started or ended. -/
theorem Own.orderly {later : Option Transfer} (own : Own m m' key later) (orderly : Orderly m)
    (marks' : marks m' = marks m)
    (calms : Calms (Execution.stage m.tables key) (.ofTransfer later))
    (alive : ∀ transfer, later = some transfer → transfer.task ≠ some ⟨.calling, true⟩)
    (retains : Retains m.tables m'.tables) (stored : Stored m'.tables m.now) : Orderly m' := by
  have same := own.pc
  refine orderly.quiet ⟨marks', own.orphans, own.now.ge, ?_, ?_, ?_, ?_, ?_, own.uncut orderly alive, ?_⟩
  · exact fun key acts => same ▸ acts
  · exact fun key acts => same.symm ▸ acts
  · exact fun key begins => same ▸ begins
  · intro other
    rw [own.stage]
    split_ifs with here
    · exact here ▸ calms
    · exact .inl rfl
  · exact fun other since body found => .inr (retains other since body found)
  · rw [own.now]
    exact stored

theorem setPhase_own (m : Runtime) (key : Key) (transfer : Transfer) (phase : Phase) :
    Own m (m.setPhase key transfer phase) key (some { transfer with task := some { phase := phase } }) :=
  ⟨rfl, rfl, rfl, fun _ => Dict.get?_insert _ _ _ _⟩

theorem endWorker_own (m : Runtime) (key : Key) : Own m (m.endWorker key) key none :=
  ⟨rfl, rfl, rfl, fun _ => Dict.get?_erase _ _ _⟩

theorem workerFails_own (m : Runtime) (key : Key) (transfer : Transfer) (cause : String) :
    Own m (m.workerFails key transfer cause) key (some { transfer with task := some { phase := .reporting (some
      (transferResponse transfer.wisp [("type", .str "error"), ("transfer_id", .str key.2),
        ("error", .str cause)])) } }) := by
  refine ⟨rfl, rfl, rfl, fun other => ?_⟩
  refine (Dict.get?_insert _ _ _ _).trans ?_
  exact congrArg (fun d => if key = other then _ else Dict.get? d other) (remember_transfers _ _ _)

theorem workerReturns_marks (m : Runtime) (key : Key) (transfer : Transfer) (result : Result) :
    marks ((m.record (.finished key m.now)).workerReturns key transfer result) = .finished key m.now :: marks m := by
  unfold workerReturns
  split
  · rfl
  · dsimp only
    split_ifs
    · rfl
    · rfl

variable (key) in
/-- However a callback ends, its worker remembers the operation and is done or gone. -/
theorem workerReturns_own (m : Runtime) (nonempty : key.2 ≠ "") (transfer : Transfer) (result : Result) :
    ∃ later kept, Own m ((m.record (.finished key m.now)).workerReturns key transfer result) key later ∧
      ((m.record (.finished key m.now)).workerReturns key transfer result).tables.completed =
        m.tables.completed.insert key (m.now, kept) ∧
      ∀ transfer, later = some transfer → Stage.ofTask transfer.task = .done := by
  have transfers : ∀ body other, (m.tables.remember key.1 key.2 body m.now).transfers.get? other =
      m.tables.transfers.get? other := fun body other => congrArg (Dict.get? · other) (remember_transfers _ _ _)
  unfold workerReturns
  split
  · rename_i e cause
    have own := workerFails_own (m.record (.finished key m.now)) key transfer cause
    refine ⟨_, _, ⟨own.orphans, own.now, own.pc, own.transfers⟩, remember_completed _ nonempty _ _ _, ?_⟩
    rintro later ⟨⟩
    rfl
  · dsimp only
    split_ifs
    · refine ⟨some { transfer with task := some { phase := .reporting (some
        (responseBody transfer.wisp result.payload)) } }, _, ⟨rfl, rfl, rfl, fun other => ?_⟩,
        remember_completed _ nonempty _ _ _, ?_⟩
      · exact (Dict.get?_insert _ _ _ _).trans (congrArg (if key = other then _ else ·) (transfers _ other))
      · rintro later ⟨⟩
        rfl
    · refine ⟨none, _, ⟨rfl, rfl, rfl, fun other => ?_⟩, remember_completed _ nonempty _ _ _, by simp⟩
      exact (Dict.get?_erase _ _ _).trans (congrArg (if key = other then _ else ·) (transfers _ other))

/-- The callback of a worker ends, and its operation is remembered. -/
theorem Own.finished {later : Option Transfer} {kept : Json} (own : Own m m' key later) (orderly : Orderly m)
    (calling : Execution.stage m.tables key = .calling) (marks' : marks m' = .finished key m.now :: marks m)
    (completed : m'.tables.completed = m.tables.completed.insert key (m.now, kept))
    (past : ∀ transfer, later = some transfer → Stage.ofTask transfer.task = .done) : Orderly m' := by
  have nonempty : key.2 ≠ "" := by
    refine orderly.named key ?_
    rw [calling]
    rintro ⟨⟩
  have apart : ∀ other, Acting other m.pc → other ≠ key := by
    rintro other acting rfl
    exact (orderly.acting other acting).2.1 calling
  have aside : ∀ other, Beginning other m.pc → other ≠ key := by
    rintro other begins rfl
    have before := orderly.beginning other begins
    rw [calling] at before
    simp at before
  have ended : Execution.stage m'.tables key = .away ∨ Execution.stage m'.tables key = .done := by
    rw [own.stage, if_pos rfl]
    cases later with
    | none => exact .inl rfl
    | some transfer => exact .inr (past transfer rfl)
  refine orderly.finish nonempty marks' own.orphans own.now completed ?_ ?_ ?_ ?_ ?_ (own.uncut orderly ?_)
  · intro other
    rw [own.pc]
    exact ⟨fun acting => ⟨acting, apart other acting⟩, And.left⟩
  · intro other begins
    rw [own.pc] at begins
    exact ⟨begins, aside other begins⟩
  · rcases ended with away | done
    · rw [away]
      rintro ⟨⟩
    · rw [done]
      rintro ⟨⟩
  · rcases ended with away | done
    · rw [away]
      rintro ⟨⟩
    · rw [done]
      rintro ⟨⟩
  · intro other distinct
    rw [own.stage, if_neg distinct.symm]
  · intro transfer kept cut
    have done := past transfer kept
    rw [cut] at done
    cases done

theorem worked_orderly (orderly : Orderly m) (found : m.tables.transfers.get? key = some transfer)
    (running : transfer.task = some task) (worked : Worked env m key transfer task m') : Orderly m' := by
  have here : stage m.tables key = Stage.ofTask (some task) := by
    unfold stage
    rw [found]
    exact congrArg Stage.ofTask running
  have nonempty : key.2 ≠ "" := by
    refine orderly.named key ?_
    rw [here]
    unfold Stage.ofTask
    split <;> rintro ⟨⟩
  obtain ⟨phase, cancelled⟩ := task
  cases worked with
  | unborn gone on =>
    dsimp only at gone on
    subst gone on
    have own : Own m (m.withTables { m.tables with
        transfers := m.tables.transfers.insert key { transfer with task := none } }) key
        (some { transfer with task := none }) := ⟨rfl, rfl, rfl, fun _ => Dict.get?_insert _ _ _ _⟩
    refine own.orderly orderly rfl ?_ ?_ (.refl _) orderly.stored
    · rw [here]
      exact .inr (.inr (.inl ⟨rfl, .inl rfl⟩))
    · rintro later ⟨⟩
      rintro ⟨⟩
  | orphaned gone on =>
    dsimp only at gone on
    subst gone on
    exact absurd running (orderly.uncut key transfer found)
  | stops gone idle =>
    dsimp only at gone idle
    subst gone
    refine (endWorker_own m key).orderly orderly rfl ?_ (by simp) (.refl _) orderly.stored
    rw [here]
    cases phase with
    | calling => exact absurd rfl idle
    | _ => exact .inr (.inr (.inl ⟨rfl, .inr rfl⟩))
  | proceeds alive next on =>
    dsimp only at alive on
    subst alive
    have waiting : stage m.tables key = .waiting := by
      rw [here]
      rcases on with rfl | ⟨index, rfl⟩
      · rfl
      · rfl
    unfold workerProceeds
    split_ifs with more
    · refine (setPhase_own m key transfer (.receiving next)).orderly orderly rfl ?_ ?_ (.refl _) orderly.stored
      · rw [waiting]
        exact .inl rfl
      · rintro later ⟨⟩
        rintro ⟨⟩
    · have own := setPhase_own m key transfer .calling
      refine orderly.call waiting rfl rfl rfl rfl rfl ?_ ?_ (own.uncut orderly ?_)
      · exact (own.stage key).trans (if_pos rfl)
      · exact fun other apart => (own.stage other).trans (if_neg apart.symm)
      · rintro later ⟨⟩
        rintro ⟨⟩
  | fails alive index cause on =>
    dsimp only at alive on
    subst alive on
    refine (workerFails_own m key transfer cause).orderly orderly rfl ?_ ?_ (remember_retains orderly.stored _ _ _)
      (remember_stored orderly.stored _ _ _)
    · rw [here]
      exact .inr (.inl ⟨rfl, .inl rfl⟩)
    · rintro later ⟨⟩
      rintro ⟨⟩
  | returns alive on result =>
    dsimp only at alive on
    subst alive on
    obtain ⟨later, kept, own, completed, past⟩ := workerReturns_own key m nonempty transfer result
    exact own.finished orderly here (workerReturns_marks m key transfer result) completed past
  | sends alive body sealed on encrypted =>
    dsimp only at alive on
    subst alive on
    obtain ⟨marks', orphans, now, tables, pc⟩ := encryptFor_quiet encrypted
    have own : Own m (sealed.setPhase key transfer (.reporting none)) key
        (some { transfer with task := some { phase := .reporting none } }) := by
      refine ⟨orphans, now, pc, fun other => ?_⟩
      rw [(setPhase_own sealed key transfer (.reporting none)).transfers, tables]
    have completed : (sealed.setPhase key transfer (.reporting none)).tables.completed = m.tables.completed :=
      (rfl : _ = sealed.tables.completed).trans (congrArg Tables.completed tables)
    refine own.orderly orderly marks' ?_ ?_ ?_ ?_
    · rw [here]
      exact .inl rfl
    · rintro later ⟨⟩
      rintro ⟨⟩
    · intro other since kept found
      exact ⟨since, kept, (congrArg (Dict.get? · other) completed).trans found, le_rfl⟩
    · intro other since kept found
      exact orderly.stored other since kept ((congrArg (Dict.get? · other) completed).symm.trans found)
  | ends alive body on =>
    dsimp only at alive on
    subst alive on
    refine (endWorker_own m key).orderly orderly rfl ?_ (by simp) (.refl _) orderly.stored
    rw [here]
    exact .inr (.inr (.inl ⟨rfl, .inr rfl⟩))

end Workers

/-! ## Every step -/

/-- A change of the peers between two awaits of the relay connection. -/
theorem Orderly.relayed (orderly : Orderly m) (reading : m.pc = .reading) (resting : Resting m'.pc)
    (marks' : marks m' = marks m) (orphans : m'.orphans = m.orphans) (now : m'.now = m.now)
    (tables : m'.tables = m.tables) : Orderly m' := by
  refine orderly.rest ?_ resting marks' orphans now ?_ ?_ ?_ ?_
  · rintro key ⟨wisp, acting⟩
    rw [reading] at acting
    cases acting
  · rw [tables]
    exact fun _ => .inl rfl
  · rw [tables]
    exact fun _ since body found => .inr ⟨since, body, found, le_rfl⟩
  · rw [tables]
    exact orderly.uncut
  · rw [tables]
    exact orderly.stored

theorem onSessionEnvelope_orderly {message : Json} (orderly : Orderly m) (reading : m.pc = .reading)
    (kind : message.get "type" = .str "session_envelope") (clean : Clean env m (.frame message)) :
    Orderly (m.onSessionEnvelope env message) := by
  have stands : ∀ {pc}, pc = .reading ∨ pc = .draining → Resting pc := by
    rintro pc (rfl | rfl)
    · exact resting_of rfl rfl
    · exact resting_of rfl rfl
  have rests : Resting m.pc := stands (.inl reading)
  unfold onSessionEnvelope
  split
  · rename_i sender from_sender
    split
    · exact orderly.relayed reading (stands (.inr rfl)) rfl rfl rfl rfl
    · rename_i session found
      split
      · exact orderly.relayed reading (stands (.inl rfl)) rfl rfl rfl rfl
      · rename_i session' body decrypted
        obtain ⟨unhurried, unclaimed⟩ := clean sender session body kind from_sender found (by rw [decrypted])
        have received : Orderly (m.setSessions (m.peers.sessions.insert sender session')) :=
          orderly.relayed reading rests rfl rfl rfl rfl
        exact dispatch_orderly received rests unhurried unclaimed
  · split_ifs
    · exact orderly.raises (fun key => (rests key).1) _
    · exact orderly.relayed reading (stands (.inr rfl)) rfl rfl rfl rfl

theorem onFrame_orderly {message : Json} (orderly : Orderly m) (reading : m.pc = .reading)
    (clean : Clean env m (.frame message)) : Orderly (m.onFrame env message) := by
  have stands : ∀ {pc}, pc = .reading ∨ pc = .draining ∨ pc = .offline → Resting pc := by
    rintro pc (rfl | rfl | rfl)
    · exact resting_of rfl rfl
    · exact resting_of rfl rfl
    · exact resting_of rfl rfl
  have reads : Resting .reading := stands (.inl rfl)
  have drains : Resting .draining := stands (.inr (.inl rfl))
  have closes : Resting .offline := stands (.inr (.inr rfl))
  unfold onFrame
  split_ifs with line ping envelope session_envelope reset
  · split
    · split_ifs
      · exact orderly.relayed reading reads rfl rfl rfl rfl
      · exact orderly.relayed reading drains rfl rfl rfl rfl
    · exact orderly.relayed reading reads rfl rfl rfl rfl
  · unfold onEnvelope
    split
    · exact orderly.relayed reading closes rfl rfl rfl rfl
    · split
      · dsimp only
        split
        · exact orderly.relayed reading closes rfl rfl rfl rfl
        · exact orderly.relayed reading drains rfl rfl rfl rfl
      · exact orderly.relayed reading drains rfl rfl rfl rfl
  · exact onSessionEnvelope_orderly orderly reading session_envelope clean
  · unfold onSessionReset
    split_ifs
    · exact orderly.relayed reading reads rfl rfl rfl rfl
    · split
      · exact orderly.relayed reading reads rfl rfl rfl rfl
      · split_ifs
        · exact orderly.relayed reading closes rfl rfl rfl rfl
        · exact orderly.relayed reading reads rfl rfl rfl rfl
  · exact orderly.relayed reading reads rfl rfl rfl rfl
  · exact orderly.relayed reading closes rfl rfl rfl rfl

theorem step_orderly {event : Event} (orderly : Orderly m) (clean : Clean env m event)
    (stepped : m.step env event = some m') : Orderly m' := by
  have idle : ∀ {pc}, m.pc = pc → Resting pc → ∀ key, ¬ Acting key m.pc := fun on rests key => on ▸ (rests key).1
  cases event with
  | tick seconds =>
    cases stepped
    exact orderly.quiet ⟨rfl, rfl, Nat.le_add_right _ _, fun _ => id, fun _ => id, fun _ => id, fun _ => .inl rfl,
      fun _ since body found => .inr ⟨since, body, found, le_rfl⟩, orderly.uncut,
      fun key since body found => (orderly.stored key since body found).trans (Nat.le_add_right _ _)⟩
  | frame message =>
    simp only [Runtime.step] at stepped
    split_ifs at stepped with reading
    cases stepped
    exact onFrame_orderly orderly reading clean
  | eof =>
    simp only [Runtime.step] at stepped
    split_ifs at stepped with reading
    cases stepped
    exact orderly.relayed reading (resting_of rfl rfl) rfl rfl rfl rfl
  | reconnect =>
    simp only [Runtime.step] at stepped
    split_ifs at stepped with offline
    cases stepped
    exact orderly.goto (idle offline (resting_of rfl rfl)) (resting_of rfl rfl)
  | swept =>
    simp only [Runtime.step] at stepped
    split at stepped
    · rename_i sender body due on
      split_ifs at stepped with ended
      cases stepped
      have resting : Resting m.pc := on ▸ resting_of rfl rfl
      refine afterSweep_orderly orderly resting ?_ (clean sender body due on)
      intro key mem
      have past := List.all_eq_true.mp ended key mem
      rw [Option.isNone_iff_eq_none, Option.bind_eq_none_iff] at past
      unfold stage
      cases found : m.tables.transfers.get? key with
      | none => exact .inr rfl
      | some transfer => exact .inl (congrArg Stage.ofTask (past transfer found))
    · cases stepped
  | returns result => exact returned_orderly orderly clean stepped
  | send => exact loopSend_orderly orderly stepped
  | drained written => exact loopDrained_orderly orderly stepped
  | worker key move =>
    obtain ⟨transfer, task, found, running, worked⟩ := worker_worked stepped
    exact worked_orderly orderly found running worked
  | orphanEnds key =>
    simp only [Runtime.step] at stepped
    split_ifs at stepped with orphan
    rw [orderly.orphans] at orphan
    cases orphan

theorem initial_orderly (initial : Initial m) : Orderly m := by
  obtain ⟨-, no_tables, offline, no_orphans, no_log⟩ := initial
  have unmarked : marks m = [] := congrArg (List.filterMap Mark.of) no_log
  have rests : Resting m.pc := offline ▸ resting_of rfl rfl
  have away : ∀ key, stage m.tables key = .away := by
    intro key
    rw [no_tables]
    rfl
  constructor
  · rw [unmarked]
    trivial
  · rw [unmarked]
    rintro _ ⟨⟩
  · rw [unmarked]
    rintro _ _ ⟨⟩
  · rw [unmarked]
    rintro _ _ ⟨⟩
  · rw [unmarked]
    rintro _ _ _ ⟨⟩
  · exact fun key acting => absurd acting (rests key).1
  · exact fun key begins => absurd begins (rests key).2
  · exact fun key present => absurd (away key) present
  · rw [no_tables]
    rintro _ _ ⟨⟩
  · rw [no_tables]
    rintro _ _ _ ⟨⟩
  · exact no_orphans

end Steps

/-! ## An action whose result is not retained -/

section Samples

open Provenance NonceReuse

/-- The two ends of the sample session, after a number of frames of the phone. -/
def phoneAt (n : ℕ) : PeerSession := { phoneSession with sendSequence := n }

def wispAt (n : ℕ) : PeerSession := { sampleSession 0 with receiveSequence := n }

def saveKey : Key := ("phone", "op1")

/-- The Wisp waits for a frame of the phone, with no operation under way. -/
structure Ready (n : ℕ) (m : Runtime) : Prop where
  reading : m.pc = .reading
  now : m.now = 0
  tables : m.tables = {}
  session : m.peers.sessions.get? "phone" = some (wispAt n)

/-- The callback of the phone's action runs. -/
def saving (m : Runtime) (n : ℕ) : Runtime :=
  (((m.setSessions (m.peers.sessions.insert "phone" (wispAt (n + 1)))).withTables { active := [saveKey] }).record
    (.started saveKey 0)).goto (.action "phone" "notes" "op1")

variable {m : Runtime} {n : ℕ}

/-- The Wisp opens what the phone seals under the next sequence number. -/
theorem phone_opens {session : PeerSession} {body : Json} {now : ℕ} (mirrors : SessionOrder.Mirrors session (phoneAt n))
    (object : body.isObj = true) (live : session.live now = true) (small : n < 2 ^ 64) : ∃ ciphertext,
    session.decrypt handshakeEnv.aead ((phoneAt n).envelope ciphertext) now =
      ({ session with receiveSequence := session.receiveSequence + 1 }, .ok body) := by
  obtain ⟨nonce, ciphertext, sealed, encrypted⟩ := SessionOrder.sampleAead_seals (s := phoneAt n) body small
  have opens := (sampleAead_decrypt_iff _ _ _ _ _).mpr encrypted
  exact ⟨ciphertext, SessionOrder.decrypt_encrypt mirrors sealed object opens live⟩

theorem save_opens (small : n < 2 ^ 64) : ∃ ciphertext,
    (wispAt n).decrypt handshakeEnv.aead ((phoneAt n).envelope ciphertext) 0 =
    (wispAt (n + 1), .ok (sampleRequest "save")) :=
  phone_opens ⟨rfl, rfl, rfl, rfl, rfl⟩ rfl (by decide : (sampleSession 0).live 0 = true) small

theorem dispatch_save (now : m.now = 0) (tables : m.tables = {}) :
    m.dispatch handshakeEnv "phone" (sampleRequest "save") =
      ((m.withTables { active := [saveKey] }).record (.started saveKey 0)).goto (.action "phone" "notes" "op1") := by
  obtain ⟨now', peers, tables', pc, orphans, log⟩ := m
  dsimp only at now tables
  subst now tables
  rfl

/-- The Wisp dispatches what it opens of a frame of the phone. -/
theorem onFrame_phone {session session' : PeerSession} {body : Json} {now : ℕ} {ciphertext : Bytes}
    (at_time : m.now = now)
    (found : m.peers.sessions.get? "phone" = some session)
    (opens : session.decrypt handshakeEnv.aead ((phoneAt n).envelope ciphertext) now = (session', .ok body)) :
    m.onFrame handshakeEnv ((phoneAt n).envelope ciphertext) =
      (m.setSessions (m.peers.sessions.insert "phone" session')).dispatch handshakeEnv "phone" body := by
  have kind : ((phoneAt n).envelope ciphertext).get "type" = .str "session_envelope" := rfl
  have from_sender : ((phoneAt n).envelope ciphertext).get "sender" = .str "phone" := rfl
  have line : ((phoneAt n).envelope ciphertext).isObj = true := rfl
  have served : m.onFrame handshakeEnv ((phoneAt n).envelope ciphertext) =
      m.onSessionEnvelope handshakeEnv ((phoneAt n).envelope ciphertext) := by
    simp [onFrame, line, kind]
  rw [served]
  simp only [onSessionEnvelope, from_sender, found, at_time, opens]

theorem save_started (ready : Ready n m) {ciphertext : Bytes}
    (opens : (wispAt n).decrypt handshakeEnv.aead ((phoneAt n).envelope ciphertext) 0 =
      (wispAt (n + 1), .ok (sampleRequest "save"))) :
    m.step handshakeEnv (.frame ((phoneAt n).envelope ciphertext)) = some (saving m n) := by
  rw [step_frame _ _ ready.reading, onFrame_phone ready.now ready.session opens]
  exact congrArg some (dispatch_save ready.now ready.tables)

/-- A result with an asset that has no name. -/
def unnamedAsset : Result := .response "<p>saved</p>" "text/html" [⟨"a", "", "text/plain", 1⟩]

/-- The callback returns an asset that cannot be delivered, and the Wisp forgets that it ran. -/
theorem save_forgotten (ready : Ready n m) (small : n < 2 ^ 64) :
    ∃ taken m', Trail (Runtime.step handshakeEnv) m taken m' ∧
    Ready (n + 1) m' ∧ marks m' = .finished saveKey 0 :: .started saveKey 0 :: marks m := by
  obtain ⟨ciphertext, opens⟩ := save_opens small
  have started := save_started ready opens
  obtain ⟨now, peers, tables, pc, orphans, log⟩ := m
  obtain ⟨rfl, rfl, rfl, session⟩ := ready
  have known : (peers.sessions.insert "phone" (wispAt (n + 1))).get? "phone" = some (wispAt (n + 1)) :=
    Dict.get?_insert_self _ _ _
  unfold saving setSessions at started
  generalize peers.sessions.insert "phone" (wispAt (n + 1)) = sessions at started known
  exact ⟨_, _, .next (.next .nil started) (e := .returns unnamedAsset) rfl, ⟨rfl, rfl, rfl, known⟩, rfl⟩

/-- The phone has introduced itself. -/
theorem introduced_ready (meets : Runtime → Event → Prop) (met : ∀ m e, (e = .reconnect ∨ e = .frame sampleEnvelope ∨
    e = .drained true) → meets m e) :
    ∃ m, Reach (Runtime.step handshakeEnv) meets Initial m ∧ Ready 0 m ∧ marks m = [] := by
  have introduced := step_frame (m := firstFrame) handshakeEnv sampleEnvelope rfl
  rw [sampleEnvelope_accepted (.inl rfl)] at introduced
  have reach := (firstFrame_reach (met _ _ (.inl rfl))).next (met _ _ (.inr (.inl rfl))) introduced
  exact ⟨_, reach.next (e := .drained true) (met _ _ (.inr (.inr rfl))) rfl,
    ⟨rfl, rfl, rfl, Dict.get?_insert_self _ _ _⟩, rfl⟩

end Samples

end WispGate.Soundness.Execution
