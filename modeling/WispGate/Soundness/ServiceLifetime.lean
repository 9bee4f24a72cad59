import Mathlib.Data.List.Induction
import WispGate.Data.Custody
import WispGate.Model.Android.BulkTransferService

/-! # Why the service is up

The platform delivers starts in the order of their ids and stops the service only for the latest one. So a
coroutine that was the last to give up its ownership stops the service if nothing was requested in the
meantime, and otherwise a start is still to come. While an instance is up there is an outstanding start, an
active coroutine, or one that is about to stop it; when it is stopped there is neither of the first two.
-/

namespace WispGate.Soundness.TransferService

open Data Model Model.Android

/-- The ids of outstanding starts grow, up to the latest one. -/
structure Ordered (starts : List (ℕ × Option String)) (latestStart : ℕ) : Prop where
  positive : ∀ start ∈ starts, 0 < start.1
  ordered : (starts.map Prod.fst).Pairwise (· < ·)
  latest : ∀ start ∈ starts.getLast?, start.1 = latestStart

/-- A coroutine of an instance of the service is about to stop it. -/
def Stopping (tasks : List TransferTask) (created startId : ℕ) : Prop :=
  ∃ task ∈ tasks, task.service = created ∧ task.stage = .stopping startId

/-- What an instance of the service knows, and why it is up. -/
structure Owned (tasks : List TransferTask) (starts : List (ℕ × Option String)) (latestStart created : ℕ)
    (ownership : BulkTransferOwnership) : Prop where
  mine : ∀ task ∈ tasks, task.active = true → task.service = created
  active : ownership.active.Perm ((tasks.filter (·.active)).map (·.job.transferId))
  behind : ∀ start ∈ starts, ownership.latestStartId < start.1
  known : ownership.latestStartId ≤ latestStart
  current : ownership.active ≠ [] → starts = [] → ownership.latestStartId = latestStart
  quiet : ∀ startId, Stopping tasks created startId → startId ≤ latestStart ∧
    (startId = latestStart → starts = [] ∧ ∀ task ∈ tasks, task.active = false)
  awake : starts ≠ [] ∨ (∃ task ∈ tasks, task.active = true) ∨ Stopping tasks created latestStart

/-- The coroutines, and the service if it is up. -/
structure Attended (tasks : List TransferTask) (starts : List (ℕ × Option String)) (latestStart created : ℕ)
    (service : Option BulkTransferOwnership) : Prop where
  earlier : ∀ task ∈ tasks, task.service ≤ created
  idle : service = none → ∀ task ∈ tasks, task.active = false
  owned : ∀ ownership, service = some ownership → Owned tasks starts latestStart created ownership

section Service

variable {tasks : List TransferTask} {starts rest : List (ℕ × Option String)} {latestStart created startId : ℕ}
  {transferId : Option String} {service : Option BulkTransferOwnership} {ownership : BulkTransferOwnership}
  {before after : List TransferTask} {task : TransferTask} {stage : TransferStage}

theorem Ordered.le (ordered : Ordered starts latestStart) : ∀ start ∈ starts, start.1 ≤ latestStart := by
  induction starts using List.reverseRecOn with
  | nil =>
    rintro _ ⟨⟩
  | append_singleton front last =>
    have latest : last.1 = latestStart := ordered.latest last (by simp)
    have below := ordered.ordered
    rw [List.map_append, List.pairwise_append] at below
    intro start mem
    rcases List.mem_append.mp mem with mem | mem
    · have less := below.2.2 start.1 (List.mem_map.mpr ⟨start, mem, rfl⟩) last.1 (by simp)
      omega
    · rw [List.mem_singleton.mp mem, latest]

theorem Ordered.push (ordered : Ordered starts latestStart) (later : latestStart < startId) :
    Ordered (starts ++ [(startId, transferId)]) startId where
  positive start mem := by
    rcases List.mem_append.mp mem with mem | mem
    · exact ordered.positive start mem
    · rw [List.mem_singleton.mp mem]
      exact Nat.zero_lt_of_lt later
  ordered := by
    rw [List.map_append, List.pairwise_append]
    refine ⟨ordered.ordered, List.pairwise_singleton _ _, fun id listed other last => ?_⟩
    obtain ⟨start, mem, rfl⟩ := List.mem_map.mp listed
    rw [List.map_singleton, List.mem_singleton] at last
    rw [last]
    exact (ordered.le start mem).trans_lt later
  latest start mem := by
    rw [List.getLast?_concat, Option.mem_some_iff] at mem
    rw [← mem]

theorem Ordered.pop (ordered : Ordered ((startId, transferId) :: rest) latestStart) :
    Ordered rest latestStart ∧ 0 < startId ∧ (∀ start ∈ rest, startId < start.1) ∧
      (rest = [] → startId = latestStart) := by
  have below := ordered.ordered
  rw [List.map_cons, List.pairwise_cons] at below
  refine ⟨⟨fun start mem => ordered.positive start (List.mem_cons_of_mem _ mem), below.2, fun start last => ?_⟩,
    ordered.positive _ List.mem_cons_self, fun start mem => below.1 _ (List.mem_map.mpr ⟨start, mem, rfl⟩), ?_⟩
  · refine ordered.latest start ?_
    cases rest with
    | nil => cases last
    | cons head tail => rwa [List.getLast?_cons_cons]
  · rintro rfl
    exact ordered.latest _ rfl

/-- A start is requested. -/
theorem Attended.push (attended : Attended tasks starts latestStart created service) (later : latestStart < startId) :
    Attended tasks (starts ++ [(startId, transferId)]) startId created service where
  earlier := attended.earlier
  idle := attended.idle
  owned ownership up := by
    have owned := attended.owned ownership up
    constructor
    · exact owned.mine
    · exact owned.active
    · intro start mem
      rcases List.mem_append.mp mem with mem | mem
      · exact owned.behind start mem
      · rw [List.mem_singleton.mp mem]
        exact owned.known.trans_lt later
    · exact owned.known.trans later.le
    · intro _ none_left
      simp at none_left
    · intro k stopping
      have bound := (owned.quiet k stopping).1
      exact ⟨bound.trans later.le, fun same => absurd same (by omega)⟩
    · exact .inl (by simp)

/-- An instance is created for a start. -/
theorem Attended.create (attended : Attended tasks starts latestStart created none) (ordered : Ordered starts latestStart)
    (some_start : starts ≠ []) : Attended tasks starts latestStart (created + 1) (some {}) where
  earlier task mem := (attended.earlier task mem).trans (Nat.le_succ _)
  idle down := by cases down
  owned ownership up := by
    cases up
    have still := attended.idle rfl
    have none_active : tasks.filter (·.active) = [] := List.filter_eq_nil_iff.mpr fun task mem => by simp [still task mem]
    constructor
    · intro task mem active
      rw [still task mem] at active
      cases active
    · rw [none_active]
      exact .nil
    · exact ordered.positive
    · exact Nat.zero_le _
    · exact fun some_active => absurd rfl some_active
    · rintro k ⟨task, mem, service, -⟩
      have earlier := attended.earlier task mem
      omega
    · exact .inl some_start

/-- A start whose job is there launches a coroutine. -/
theorem Attended.accept (attended : Attended tasks ((startId, transferId) :: rest) latestStart created (some ownership))
    (ordered : Ordered ((startId, transferId) :: rest) latestStart) (job : BulkTransferJob) :
    Attended (tasks ++ [⟨job, created, .sending⟩]) rest latestStart created
      (some ⟨ownership.active ++ [job.transferId], max ownership.latestStartId startId⟩) where
  earlier task mem := by
    rcases List.mem_append.mp mem with mem | mem
    · exact attended.earlier task mem
    · rw [List.mem_singleton.mp mem]
  idle down := by cases down
  owned _ up := by
    cases up
    have owned := attended.owned ownership rfl
    obtain ⟨-, -, later, last⟩ := ordered.pop
    have bound := ordered.le _ List.mem_cons_self
    have launched : TransferTask.active ⟨job, created, .sending⟩ = true := rfl
    constructor
    · intro task mem active
      rcases List.mem_append.mp mem with mem | mem
      · exact owned.mine task mem active
      · rw [List.mem_singleton.mp mem]
    · rw [List.filter_append, List.filter_cons_of_pos launched, List.map_append]
      exact owned.active.append_right _
    · exact fun start mem => max_lt (owned.behind start (List.mem_cons_of_mem _ mem)) (later start mem)
    · exact max_le owned.known bound
    · intro _ none_left
      have newest := last none_left
      have known := owned.known
      change max ownership.latestStartId startId = latestStart
      omega
    · rintro k ⟨task, mem, service, stage⟩
      rcases List.mem_append.mp mem with mem | mem
      · obtain ⟨below, quiet⟩ := owned.quiet k ⟨task, mem, service, stage⟩
        refine ⟨below, fun same => ?_⟩
        obtain ⟨none_left, -⟩ := quiet same
        cases none_left
      · rw [List.mem_singleton.mp mem] at stage
        cases stage
    · exact .inr (.inl ⟨_, List.mem_append_right _ (List.mem_singleton_self _), launched⟩)

/-- A start without a job passes an instance that has newer ones to come. -/
theorem Attended.skip (attended : Attended tasks ((startId, transferId) :: rest) latestStart created (some ownership))
    (none_launched : tasks = []) (more : rest ≠ []) : Attended tasks rest latestStart created (some ownership) where
  earlier := attended.earlier
  idle down := by cases down
  owned _ up := by
    cases up
    have owned := attended.owned ownership rfl
    subst none_launched
    constructor
    · exact owned.mine
    · exact owned.active
    · exact fun start mem => owned.behind start (List.mem_cons_of_mem _ mem)
    · exact owned.known
    · exact fun some_active => absurd (List.perm_nil.mp owned.active) some_active
    · rintro k ⟨task, ⟨⟩, -⟩
    · exact .inl more

/-- An instance with nothing to do is destroyed. -/
theorem Attended.destroy (attended : Attended tasks starts latestStart created service)
    (still : ∀ task ∈ tasks, task.active = false) : Attended tasks rest latestStart created none where
  earlier := attended.earlier
  idle _ := still
  owned _ up := by cases up

/-! ### Stages of a coroutine -/

/-- A coroutine goes on and keeps its ownership. -/
theorem Attended.restage (attended : Attended (before ++ task :: after) starts latestStart created service)
    (active : task.active = true) (still : TransferTask.active { task with stage := stage } = true) :
    Attended (before ++ { task with stage := stage } :: after) starts latestStart created service where
  earlier other mem := by
    rcases mem_swap mem with rfl | mem
    · exact attended.earlier task (by simp)
    · exact attended.earlier other mem
  idle down := by
    have idle := attended.idle down task (by simp)
    rw [active] at idle
    cases idle
  owned ownership up := by
    have owned := attended.owned ownership up
    have old_mem : ∀ {other k}, other ∈ before ++ { task with stage := stage } :: after → other.stage = .stopping k →
        other ∈ before ++ task :: after := by
      intro other k mem stops
      rcases mem_swap mem with rfl | mem
      · rw [TransferTask.active, stops] at still
        cases still
      · exact mem
    constructor
    · intro other mem other_active
      rcases mem_swap mem with rfl | mem
      · exact owned.mine task (by simp) active
      · exact owned.mine other mem other_active
    · refine owned.active.trans (((filter_perm active).map _).trans (List.Perm.symm ?_))
      exact (filter_perm still).map fun other : TransferTask => other.job.transferId
    · exact owned.behind
    · exact owned.known
    · exact owned.current
    · rintro k ⟨other, mem, service, stops⟩
      obtain ⟨below, quiet⟩ := owned.quiet k ⟨other, old_mem mem stops, service, stops⟩
      refine ⟨below, fun same => ?_⟩
      have inactive := (quiet same).2 task (by simp)
      rw [active] at inactive
      cases inactive
    · exact .inr (.inl ⟨_, by simp, still⟩)

/-- A coroutine gives up its ownership, and stops the service if it was the last one. -/
theorem Attended.finish (attended : Attended (before ++ task :: after) starts latestStart created (some ownership))
    (ordered : Ordered starts latestStart) (active : task.active = true) :
    Attended
      (before ++ { task with stage := (ownership.finished task.job.transferId).2.elim .ended .stopping } :: after)
      starts latestStart created (some (ownership.finished task.job.transferId).1) where
  earlier other mem := by
    rcases mem_swap mem with rfl | mem
    · exact attended.earlier task (by simp)
    · exact attended.earlier other mem
  idle down := by cases down
  owned _ up := by
    cases up
    have owned := attended.owned ownership rfl
    have left : (ownership.active.erase task.job.transferId).Perm
        (((before ++ after).filter (·.active)).map (·.job.transferId)) :=
      perm_erase (owned.active.trans ((filter_perm active).map _))
    have new_stage : ∀ k, (ownership.finished task.job.transferId).2.elim TransferStage.ended .stopping = .stopping k →
        ownership.active.erase task.job.transferId = [] ∧ k = ownership.latestStartId := by
      intro k stops
      unfold BulkTransferOwnership.finished at stops
      dsimp only at stops
      split_ifs at stops with last
      · cases stops
        exact ⟨last, rfl⟩
      · cases stops
    have inactive : TransferTask.active
        { task with stage := (ownership.finished task.job.transferId).2.elim .ended .stopping } = false := by
      unfold BulkTransferOwnership.finished
      dsimp only
      split_ifs
      · rfl
      · rfl
    constructor
    · intro other mem other_active
      rcases mem_swap mem with rfl | mem
      · rw [inactive] at other_active
        cases other_active
      · exact owned.mine other mem other_active
    · rw [filter_drop inactive]
      exact left
    · exact owned.behind
    · exact owned.known
    · intro some_active
      refine owned.current fun none_active => some_active ?_
      change ownership.active.erase _ = []
      rw [none_active, List.erase_nil]
    · rintro k ⟨other, mem, service, stops⟩
      rcases mem_swap mem with rfl | mem
      · obtain ⟨last, rfl⟩ := new_stage k stops
        refine ⟨owned.known, fun same => ⟨?_, fun other mem => ?_⟩⟩
        · by_contra some_start
          obtain ⟨start, inside⟩ := List.exists_mem_of_ne_nil starts some_start
          have behind := owned.behind start inside
          have bound := ordered.le start inside
          omega
        · rw [last, List.nil_perm, List.map_eq_nil_iff, List.filter_eq_nil_iff] at left
          rcases List.mem_append.mp mem with mem | mem
          · simpa using left other (List.mem_append_left _ mem)
          · rcases List.mem_cons.mp mem with rfl | mem
            · exact inactive
            · simpa using left other (List.mem_append_right _ mem)
      · obtain ⟨below, quiet⟩ := owned.quiet k ⟨other, mem, service, stops⟩
        refine ⟨below, fun same => ?_⟩
        have idle := (quiet same).2 task (by simp)
        rw [active] at idle
        cases idle
    · by_cases none_left : starts = []
      · by_cases last : ownership.active.erase task.job.transferId = []
        · have some_active : ownership.active ≠ [] := by
            intro none_active
            have listed := owned.active.trans ((filter_perm active).map _)
            rw [none_active, List.nil_perm] at listed
            cases listed
          refine .inr (.inr ⟨_, List.mem_append_right _ List.mem_cons_self, owned.mine task (by simp) active, ?_⟩)
          simp [BulkTransferOwnership.finished, last, owned.current some_active none_left]
        · have some_left : ((before ++ after).filter (·.active)) ≠ [] := by
            intro none_active
            rw [none_active] at left
            exact last (List.perm_nil.mp left)
          obtain ⟨other, mem⟩ := List.exists_mem_of_ne_nil _ some_left
          obtain ⟨mem, other_active⟩ := List.mem_filter.mp mem
          refine .inr (.inl ⟨other, ?_, other_active⟩)
          rcases List.mem_append.mp mem with mem | mem
          · exact List.mem_append_left _ mem
          · exact List.mem_append_right _ (List.mem_cons_of_mem _ mem)
      · exact .inl none_left

/-- A coroutine whose stop is too early, or comes after the service is gone, ends. -/
theorem Attended.leave (attended : Attended (before ++ task :: after) starts latestStart created service)
    (stops : task.stage = .stopping startId)
    (early : service ≠ none → task.service = created → startId ≠ latestStart) :
    Attended (before ++ { task with stage := .ended } :: after) starts latestStart created service where
  earlier other mem := by
    rcases mem_swap mem with rfl | mem
    · exact attended.earlier task (by simp)
    · exact attended.earlier other mem
  idle down other mem := by
    rcases mem_swap mem with rfl | mem
    · rfl
    · exact attended.idle down other mem
  owned ownership up := by
    have owned := attended.owned ownership up
    have inactive : task.active = false := by rw [TransferTask.active, stops]
    have idle : TransferTask.active { task with stage := .ended } = false := rfl
    constructor
    · intro other mem active
      rcases mem_swap mem with rfl | mem
      · cases active
      · exact owned.mine other mem active
    · rw [filter_drop idle, ← filter_drop inactive]
      exact owned.active
    · exact owned.behind
    · exact owned.known
    · exact owned.current
    · rintro k ⟨other, mem, service, other_stops⟩
      rcases mem_swap mem with rfl | mem
      · cases other_stops
      · obtain ⟨below, quiet⟩ := owned.quiet k ⟨other, mem, service, other_stops⟩
        refine ⟨below, fun same => ⟨(quiet same).1, fun again mem => ?_⟩⟩
        rcases mem_swap mem with rfl | mem
        · rfl
        · exact (quiet same).2 again mem
    · rcases owned.awake with some_start | ⟨other, mem, active⟩ | ⟨other, mem, mine, other_stops⟩
      · exact .inl some_start
      · rcases mem_swap mem with rfl | mem
        · rw [inactive] at active
          cases active
        · exact .inr (.inl ⟨other, mem, active⟩)
      · rcases mem_swap mem with rfl | mem
        · rw [stops] at other_stops
          cases other_stops
          exact absurd rfl (early (by simp [up]) mine)
        · exact .inr (.inr ⟨other, mem, mine, other_stops⟩)

end Service

end WispGate.Soundness.TransferService
