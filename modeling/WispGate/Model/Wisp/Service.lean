import WispGate.Model.Wisp.Runtime

/-! # The Wisp service

The runtime with what its transfers hold outside the tables: the directories of their files and the
executions of their callbacks. A callback runs in a thread, which goes on when the worker that waits
for it is cancelled; the awaitable of an asynchronous one runs in the worker itself. `close` ends the
service, from the `finally` block of `serve`. Whether a callback still runs is read off `calls` here, not
off the list of orphans of the runtime, which takes every callback for a thread.
-/

namespace WispGate.Model.Wisp

open Data

/-- The directories that `mkdtemp` made, in order. -/
abbrev Directory := ℕ

structure Disk where
  made : ℕ := 0
  present : List Directory := []
  known : ∀ directory ∈ present, directory < made := by simp

namespace Disk

/-- `tempfile.mkdtemp`. -/
def mkdtemp (d : Disk) : Directory × Disk where
  fst := d.made
  snd := {
    made := d.made + 1
    present := d.made :: d.present
    known := by
      intro directory mem
      rcases List.mem_cons.mp mem with rfl | mem
      · exact Nat.lt_succ_self _
      · exact (d.known directory mem).trans (Nat.lt_succ_self _) }

/-- `shutil.rmtree`, of several directories. -/
def rmtree (d : Disk) (directories : List Directory) : Disk where
  made := d.made
  present := d.present.filter fun directory => decide (directory ∉ directories)
  known directory mem := d.known directory (List.mem_filter.mp mem).1

end Disk

/-- `_begin_file_action` with the directory it makes once the counts allow the transfer. When a manifest is
refused after that, the directory is removed. -/
def beginOnDisk (printable : Char → Bool) (t : Tables) (disk : Disk) (sender wisp : String) (body : Json) (now : ℕ) :
    (Tables × Disk) × Except String (Json × Directory) :=
  let transferId := transferIdOf printable body
  let actionData := body.getD "action_data" (.obj [])
  match (body.get "files").asArr? with
  | none => ((t, disk), .error "file action requires a transfer id and at least one file")
  | some manifests =>
    if transferId = "" ∨ manifests = [] then
      ((t, disk), .error "file action requires a transfer id and at least one file")
    else if ¬ actionData.isObj then ((t, disk), .error "file action data must be an object")
    else if maxFilesPerAction < manifests.length then ((t, disk), .error "too many files in one action")
    else if t.transfers.contains (sender, transferId) then ((t, disk), .error "transfer id is already active")
    else if maxActiveTransfersPerSender ≤ (t.transfers.keys.filter fun key => key.1 = sender).length then
      ((t, disk), .error "too many active file transfers")
    else
      let (directory, disk) := disk.mkdtemp
      match acceptManifests printable (t.transfers.values.map Transfer.bytes).sum 0 .empty 0 manifests with
      | .error text => ((t, disk.rmtree [directory]), .error text)
      | .ok files =>
        let transfers := t.transfers.insert (sender, transferId) ⟨sender, wisp, actionData, files, now, none⟩
        (({ t with transfers := transfers }, disk),
          .ok (transferResponse wisp [("type", .str "ready"), ("transfer_id", .str transferId)], directory))

/-- An execution of an action callback on the files of a directory. -/
structure Call where
  key : Key
  directory : Directory
  /-- The function has returned an awaitable, and its worker awaits that. -/
  awaited : Bool := false
deriving DecidableEq

structure Service where
  runtime : Runtime := {}
  /-- The directories of the transfers in the table. -/
  directories : Dict Key Directory := .empty
  disk : Disk := {}
  calls : List Call := []
  closing : Bool := false

inductive ServiceEvent where
  | runtime (event : Event)
  /-- The function of a callback returns an awaitable. -/
  | awaits (directory : Directory)
  /-- A callback ends: its function, or the awaitable that it returned. -/
  | ends (directory : Directory)
  /-- `close` until the connection is closed. -/
  | close
  /-- `close` cancels the workers. -/
  | cancel
  /-- The cancelled workers of `close` have ended. -/
  | closed
deriving DecidableEq

namespace Service

variable (env : Env)

/-- The worker of a transfer waits for its callback. -/
def calling (m : Runtime) (key : Key) : Bool :=
  match (m.tables.transfers.get? key).bind (·.task) with
  | some task => decide (task.phase = .calling)
  | none => false

/-- The transfer that a step has registered, whose ready reply is the next to leave. -/
def registered (event : Event) (m : Runtime) : Option Key :=
  match event, m.pc with
  | .frame _, .sending _ _ (.transfer key) | .swept, .sending _ _ (.transfer key) =>
    if m.tables.transfers.contains key then some key else none
  | _, _ => none

/-- A callback is still waited for: its result cannot arrive, and what it returned to be awaited has to
end before its worker does. -/
def waiting (s : Service) : Event → Bool
  | .worker key (.returns _) => s.calls.any fun call => decide (s.directories.get? key = some call.directory)
  | .worker key .cancelled =>
    s.calls.any fun call => call.awaited && decide (s.directories.get? key = some call.directory)
  | _ => false

/-- The event loop is over once the service closes. -/
def loops : Event → Bool
  | .tick _ | .worker _ _ | .orphanEnds _ => false
  | _ => true

/-- Directories that no transfer of the table has any more are removed, where the transfer is taken out of
the table; a transfer that was registered has a new one. -/
def follow (s : Service) (event : Event) (m : Runtime) : Service :=
  let kept := s.directories.filter fun key _ =>
    m.tables.transfers.contains key && decide (registered event m ≠ some key)
  let gone := s.directories.values.filter fun directory => decide (directory ∉ kept.values)
  match registered event m with
  | none => { s with runtime := m, directories := kept, disk := s.disk.rmtree gone }
  | some key =>
    let (directory, disk) := (s.disk.rmtree gone).mkdtemp
    { s with runtime := m, directories := kept.insert key directory, disk := disk }

/-- The thread of a callback starts where its worker begins to wait for it. -/
def starts (s : Service) (before : Runtime) : Event → Service
  | .worker key _ =>
    if calling before key = false ∧ calling s.runtime key = true then
      match s.directories.get? key with
      | some directory => { s with calls := { key := key, directory := directory } :: s.calls }
      | none => s
    else s
  | _ => s

/-- The tasks of all transfers are cancelled. -/
def cancelAll (m : Runtime) : Runtime :=
  m.withTables { m.tables with transfers := m.tables.transfers.mapValues fun transfer =>
    { transfer with task := transfer.task.map fun task => { task with cancelled := true } } }

def step (s : Service) : ServiceEvent → Option Service
  | .runtime event =>
    if (s.closing && loops event) || s.waiting event then none
    else (s.runtime.step env event).map fun m => (s.follow event m).starts s.runtime event
  | .awaits directory =>
    -- Nobody awaits what the function of a cancelled worker returns.
    if s.calls.any fun call => decide (call.directory = directory) && decide (s.directories.get? call.key = some directory) &&
        ((s.runtime.tables.transfers.get? call.key).bind (·.task)).any fun task => !task.cancelled then
      some { s with calls := s.calls.map fun call =>
        if call.directory = directory then { call with awaited := true } else call }
    else none
  | .ends directory =>
    some { s with calls := s.calls.filter fun call => decide (call.directory ≠ directory) }
  | .close =>
    if s.closing then none
    else some { s with closing := true, runtime := (s.runtime.setSessions .empty).goto .offline }
  | .cancel => if s.closing then some { s with runtime := cancelAll s.runtime } else none
  | .closed =>
    if s.closing ∧ s.runtime.tables.transfers.values.all (fun transfer => transfer.task.isNone) then
      some { s with
        runtime := s.runtime.withTables { s.runtime.tables with active := [], transfers := .empty }
        directories := .empty
        disk := s.disk.rmtree s.directories.values }
    else none

def Initial (s : Service) : Prop :=
  s.runtime.Initial ∧ s.directories = .empty ∧ s.disk = {} ∧ s.calls = [] ∧ s.closing = false

end Service

end WispGate.Model.Wisp
