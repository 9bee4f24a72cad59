import WispGate.Model.Android.Client
import WispGate.Model.Android.Stager

/-! # The transfer service of the app

A file action that the stager completes is queued in `BulkTransferJobs`, and a start of the service is
requested for it. When the platform delivers that start, the service takes the job and launches a coroutine,
which sends the files, deletes them, publishes a result and gives up its ownership of the service. The
platform chooses the ids of starts, when one is delivered and whether requesting one succeeds; what the wake
lock and `sendFileAction` do comes from outside. Its starts outlive a process, whose jobs and coroutines do
not. The message of an exception may be missing. `deleteRecursively` succeeds, and the queue of results,
which has no bound and is never closed, takes every result.
-/

namespace WispGate.Model.Android

open Data

structure BulkTransferJob where
  wisp : ClientWisp
  action : StagedFileAction
deriving DecidableEq

structure BulkTransferResult where
  transferId : String
  wispId : String
  state : Option WispState := none
  error : Option String := none
deriving DecidableEq

/-- What keeps an instance of the service up. -/
structure BulkTransferOwnership where
  active : List String := []
  latestStartId : ℕ := 0
deriving DecidableEq

namespace BulkTransferOwnership

/-- An exception for a transfer that is already active. -/
def started (ownership : BulkTransferOwnership) (transferId : String) (startId : ℕ) : Option BulkTransferOwnership :=
  if transferId ∈ ownership.active then none
  else some ⟨ownership.active ++ [transferId], max ownership.latestStartId startId⟩

def finished (ownership : BulkTransferOwnership) (transferId : String) : BulkTransferOwnership × Option ℕ :=
  let active := ownership.active.erase transferId
  ({ ownership with active := active }, if active = [] then some ownership.latestStartId else none)

def hasActiveTransfers (ownership : BulkTransferOwnership) : Bool := !ownership.active.isEmpty

end BulkTransferOwnership

/-- What happens in a `BulkTransferExecution.run`. -/
structure Execution where
  acquireWakeLock : Except (Option String) Unit
  transfer : Except (Option String) WispState
  wakeLockHeld : Bool
  releaseWakeLock : Except (Option String) Unit
deriving DecidableEq

/-- `BulkTransferExecution.run`, which also deletes the files of the action, whatever happens. -/
def Execution.run (execution : Execution) : Except (Option String) WispState :=
  let outcome := match execution.acquireWakeLock with
    | .error message => .error message
    | .ok () => execution.transfer
  if execution.wakeLockHeld then
    match execution.releaseWakeLock with
    | .error message => .error message
    | .ok () => outcome
  else outcome

namespace BulkTransferJob

def transferId (job : BulkTransferJob) : String := job.action.transferId

/-- What is published for a job. -/
def result (job : BulkTransferJob) : Except (Option String) WispState → BulkTransferResult
  | .ok state => { transferId := job.transferId, wispId := job.wisp.id, state := some state }
  | .error message =>
    { transferId := job.transferId, wispId := job.wisp.id,
      error := some (message.getD "Unable to send Wisp file action") }

end BulkTransferJob

/-- How far the coroutine of a job is. -/
inductive TransferStage where
  /-- Its files are on the disk. -/
  | sending
  /-- They are deleted, and its result is not published. -/
  | sent (outcome : Except (Option String) WispState)
  | published
  /-- It was the last one to finish, and is about to stop the service. -/
  | stopping (startId : ℕ)
  | ended
deriving DecidableEq

structure TransferTask where
  job : BulkTransferJob
  /-- The instance of the service that launched it. -/
  service : ℕ
  stage : TransferStage
deriving DecidableEq

namespace TransferTask

/-- The coroutine has not given up its ownership. -/
def active (task : TransferTask) : Bool :=
  match task.stage with
  | .sending | .sent _ | .published => true
  | .stopping _ | .ended => false

def reported (task : TransferTask) : Bool :=
  match task.stage with
  | .sending | .sent _ => false
  | .published | .stopping _ | .ended => true

end TransferTask

/-- A process of the app, and what the platform holds for it. -/
structure TransferApp where
  stager : Stager
  /-- `sweptThisProcess`. -/
  swept : Bool := false
  jobs : Dict String BulkTransferJob := .empty
  /-- The starts that are not delivered, with the transfer id in their intent, oldest first. -/
  starts : List (ℕ × Option String) := []
  /-- The id of the latest start that was requested. -/
  latestStart : ℕ := 0
  /-- The instances of the service that were created. -/
  created : ℕ := 0
  /-- The ownership of the latest instance, while it is up. -/
  service : Option BulkTransferOwnership := none
  tasks : List TransferTask := []
  /-- What was published, newest first. -/
  results : List BulkTransferResult := []
  /-- Completed actions whose start was refused, and whose files were deleted. -/
  refused : List StagedFileAction := []
  /-- Completed actions that were not queued. -/
  stranded : List StagedFileAction := []
  /-- The transfers that a destroyed service cancelled. -/
  cancelled : List String := []
  /-- An exception left `onStartCommand`. -/
  crashed : Bool := false

namespace TransferApp

/-- `StagedFileAction.cleanup`. -/
def cleanup (s : TransferApp) (action : StagedFileAction) : TransferApp :=
  { s with stager := { s.stager with directories := s.stager.directories.erase action.transferId } }

/-- `StagedFileCache.sweepOnce`. -/
def sweepOnce (s : TransferApp) : TransferApp :=
  if s.swept then s
  else { s with swept := true, stager := { s.stager with root := false, directories := [] } }

/-! ## The queue -/

/-- `enqueue`, where the request for a start gets an id or is refused. An action whose id is queued stays on
the disk. -/
def enqueue (s : TransferApp) (job : BulkTransferJob) (start : Option ℕ) : TransferApp :=
  if s.jobs.contains job.transferId then { s with stranded := job.action :: s.stranded }
  else
    let queued := { s with jobs := s.jobs.insert job.transferId job }
    match start with
    | some startId =>
      { queued with starts := s.starts ++ [(startId, some job.transferId)], latestStart := startId }
    | none =>
      { queued with jobs := queued.jobs.erase job.transferId, refused := job.action :: s.refused }.cleanup job.action

/-- `onFileAction`. Without a selected wisp, `selected!!` throws, which is caught before the action is queued. -/
def onFileAction (s : TransferApp) (action : StagedFileAction) (selected : Option ClientWisp) (start : Option ℕ) :
    TransferApp :=
  match selected with
  | none => { s with stranded := action :: s.stranded }
  | some wisp => s.enqueue ⟨wisp, action⟩ start

/-- `finishFileAction`. -/
def finishFileAction (s : TransferApp) (transferId : String) (selected : Option ClientWisp) (start : Option ℕ) :
    TransferApp :=
  match s.stager.transfers.get? transferId, s.stager.finish transferId false with
  | some action, (stager, .ok ()) => { s with stager := stager }.onFileAction action.handedOver selected start
  | _, (stager, _) => { s with stager := stager }

/-! ## The service -/

/-- `onDestroy`, which cancels the coroutines of the instance. -/
def onDestroy (s : TransferApp) : TransferApp :=
  { s with
    service := none
    cancelled := s.cancelled ++ (s.tasks.filter (·.active)).map (·.job.transferId) }

/-- `stopSelf`, which only stops the service if no start was requested after the one with this id. -/
def stopSelf (s : TransferApp) (startId : ℕ) : TransferApp := if startId = s.latestStart then s.onDestroy else s

/-- An instance of the service, which is created if there is none. -/
def onCreate (s : TransferApp) : TransferApp :=
  match s.service with
  | some _ => s
  | none => { s with created := s.created + 1, service := some {} }

/-- `onStartCommand` of an instance. -/
def onStartCommand (s : TransferApp) (ownership : BulkTransferOwnership) (startId : ℕ) (transferId : Option String) :
    TransferApp :=
  match transferId.bind s.jobs.get? with
  | none => if ownership.hasActiveTransfers then s else s.stopSelf startId
  | some job =>
    let taken := { s with jobs := transferId.elim s.jobs s.jobs.erase }
    match ownership.started job.transferId startId with
    | none => { taken with crashed := true }
    | some ownership =>
      { taken with service := some ownership, tasks := s.tasks ++ [⟨job, s.created, .sending⟩] }

/-- The platform delivers the oldest start. -/
def deliver (s : TransferApp) : Option TransferApp :=
  match s.starts with
  | [] => none
  | (startId, transferId) :: rest =>
    let up := { s with starts := rest }.onCreate
    up.service.map fun ownership => up.onStartCommand ownership startId transferId

/-! ## Coroutines -/

def setStage (s : TransferApp) (index : ℕ) (task : TransferTask) (stage : TransferStage) : TransferApp :=
  { s with tasks := s.tasks.set index { task with stage := stage } }

/-- `ownership.finished`, of the instance that launched the task. A destroyed one is not stopped again. -/
def finished (s : TransferApp) (index : ℕ) (task : TransferTask) : TransferApp :=
  match s.service with
  | none => s.setStage index task .ended
  | some ownership =>
    if task.service = s.created then
      let (ownership, startId) := ownership.finished task.job.transferId
      { s with service := some ownership }.setStage index task (startId.elim .ended .stopping)
    else s.setStage index task .ended

/-- The next step of a coroutine, with what happens when it sends. -/
def advance (s : TransferApp) (index : ℕ) (execution : Execution) : Option TransferApp := do
  let task ← s.tasks[index]?
  match task.stage with
  | .sending => some ((s.setStage index task (.sent execution.run)).cleanup task.job.action)
  | .sent outcome =>
    some ({ s with results := task.job.result outcome :: s.results }.setStage index task .published)
  | .published => some (s.finished index task)
  | .stopping startId =>
    let stopped := if s.service.isSome ∧ task.service = s.created then s.stopSelf startId else s
    some (stopped.setStage index task .ended)
  | .ended => none

end TransferApp

inductive TransferEvent where
  /-- The activity is created. -/
  | opened
  /-- A call of the stager other than `finish`. -/
  | staging (call : StagerCall)
  | finish (transferId : String) (selected : Option ClientWisp) (start : Option ℕ)
  | deliver
  | advance (index : ℕ) (execution : Execution)

namespace TransferApp

/-- A step of a process that has not crashed. The screen of a wisp exists after the activity was created, and
the ids of starts grow. -/
def step (texts : Texts) (s : TransferApp) : TransferEvent → Option TransferApp
  | .opened => if s.crashed then none else some s.sweepOnce
  | .staging call =>
    match call with
    | .finish _ _ => none
    | call => if s.crashed ∨ ¬ s.swept then none else (s.stager.step texts call).map fun stager => { s with stager := stager }
  | .finish transferId selected start =>
    if s.crashed ∨ ¬ s.swept then none
    else if ∀ startId ∈ start, s.latestStart < startId then some (s.finishFileAction transferId selected start)
    else none
  | .deliver => if s.crashed then none else s.deliver
  | .advance index execution => if s.crashed then none else s.advance index execution

/-- A new process. Of an earlier one, directories may be left, and starts that were not delivered. -/
structure Initial (s : TransferApp) : Prop where
  fresh : s = { stager := s.stager, starts := s.starts, latestStart := s.latestStart }
  transfers : s.stager.transfers = .empty
  completed : s.stager.completed = []
  /-- The ids of transfers are drawn for good. -/
  drawn : ∀ start ∈ s.starts, ∀ transferId ∈ start.2, transferId ∈ s.stager.drawn
  /-- The ids of starts begin at one, and grow. -/
  positive : ∀ start ∈ s.starts, 0 < start.1
  ordered : (s.starts.map Prod.fst).Pairwise (· < ·)
  latest : ∀ start ∈ s.starts.getLast?, start.1 = s.latestStart

end TransferApp

end WispGate.Model.Android
