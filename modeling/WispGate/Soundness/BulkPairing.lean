import WispGate.Model.Relay.BulkHandlers

/-! # Pairing on the bulk lane

One invariant relates the pending table, the consumed table, the handlers and the pipes: what is
pending belongs to a handler that still waits or is about to clean up and has no task, and every
pipe is the task of exactly its two handlers. It survives every order of arrivals, timeouts,
failures and cleanups.
-/

namespace WispGate.Soundness.BulkPairing

open Data Model Model.Relay BulkMachine

/-! ## What the relay promises of a pipe -/

/-- Two connections that belong together. -/
structure Match (sender receiver : BulkConnection ConnId) : Prop where
  sends : sender.role = "sender"
  receives : receiver.role = "receiver"
  recipient : sender.peer = receiver.clientId
  origin : sender.clientId = receiver.peer
  length : sender.length = receiver.length

/-- A handler that runs on a connection under a key. -/
def Runs (m : BulkMachine) (key : String) (c : BulkConnection ConnId) (h : BulkHandler) : Prop :=
  m.handlers.get? c.label = some h ∧ h.connection = some (key, c)

/-- A pipe joins a sender and a receiver that announced its key. -/
def Joins (m : BulkMachine) (pipe : BulkPipe) : Prop :=
  Match pipe.sender pipe.receiver ∧ (∃ h, Runs m pipe.key pipe.sender h) ∧ ∃ h, Runs m pipe.key pipe.receiver h

/-- The connections of a pipe. -/
def ends (pipe : BulkPipe) : List ConnId := [pipe.sender.label, pipe.receiver.label]

/-- What holds of the bulk lane at any time. -/
structure Rendezvous (m : BulkMachine) : Prop where
  joins : ∀ pipe ∈ m.pipes, Joins m pipe ∧ (ends pipe).Nodup
  once : ∀ (i j : ℕ) (p q : BulkPipe), m.pipes[i]? = some p → m.pipes[j]? = some q →
    (∃ conn ∈ ends p, conn ∈ ends q) → i = j
  spaced : ∀ (i j : ℕ) (p q : BulkPipe), m.pipes[i]? = some p → m.pipes[j]? = some q → i < j → p.key = q.key →
    p.since + bulkTicketTtlSeconds ≤ q.since
  room : m.tables.pending.size ≤ maxPendingBulk
  live : ∀ key c, m.tables.pending.get? key = some c → ∃ h, Runs m key c h ∧ h.pc ≠ .done
  asserted : ∀ conn, .unset conn ∉ m.log

/-! ## The invariant -/

/-- A handler whose connection may be pending. -/
def Pending (h : BulkHandler) : Prop := h.task = none ∧ (h.pc = .cleaning ∨ ∃ since, h.pc = .waiting since)

/-- The consumed table still has the key of a pipe, or its time is over. -/
def Remembered (consumed : Dict String ℕ) (now : ℕ) (pipe : BulkPipe) : Prop :=
  pipe.since + bulkTicketTtlSeconds ≤ now ∨
    ∃ expires, consumed.get? pipe.key = some expires ∧ pipe.since + bulkTicketTtlSeconds ≤ expires

/-- The invariant of the bulk lane. -/
structure Coherent (m : BulkMachine) : Prop where
  room : m.tables.pending.size ≤ maxPendingBulk
  unread : ∀ conn h since, m.handlers.get? conn = some h → h.pc = .header since → h.connection = none ∧ h.task = none
  headers : ∀ conn h key c, m.handlers.get? conn = some h → h.connection = some (key, c) →
    c.label = conn ∧ (c.role = "sender" ∨ c.role = "receiver")
  pending : ∀ key c, m.tables.pending.get? key = some c → ∃ h, Runs m key c h ∧ Pending h
  fresh : ∀ conn h, m.handlers.get? conn = some h → h.pc = .locking → h.task = none
  awake : ∀ conn h, m.handlers.get? conn = some h → h.paired = true → h.task ≠ none
  pipes : ∀ (place : ℕ) (pipe : BulkPipe), m.pipes[place]? = some pipe → Match pipe.sender pipe.receiver ∧
    ∀ c ∈ [pipe.sender, pipe.receiver], ∃ h, Runs m pipe.key c h ∧ h.task = some place
  consumed : ∀ (place : ℕ) (pipe : BulkPipe), m.pipes[place]? = some pipe → Remembered m.tables.consumed m.now pipe
  spaced : ∀ (i j : ℕ) (p q : BulkPipe), m.pipes[i]? = some p → m.pipes[j]? = some q → i < j → p.key = q.key →
    p.since + bulkTicketTtlSeconds ≤ q.since
  asserted : ∀ conn, .unset conn ∉ m.log

section Steps

variable {m m' : BulkMachine} {conn : ConnId} {h h' : BulkHandler}

theorem Coherent.meeting (coherent : Coherent m) : Rendezvous m where
  joins := by
    intro pipe member
    obtain ⟨place, found⟩ := List.mem_iff_getElem?.mp member
    obtain ⟨fits, handlers⟩ := coherent.pipes place pipe found
    obtain ⟨hs, sends, -⟩ := handlers pipe.sender (by simp)
    obtain ⟨hr, receives, -⟩ := handlers pipe.receiver (by simp)
    refine ⟨⟨fits, ⟨hs, sends⟩, hr, receives⟩, ?_⟩
    have apart : pipe.sender.label ≠ pipe.receiver.label := by
      intro same
      have one : hs = hr := Option.some.inj (sends.1.symm.trans (same ▸ receives.1))
      have twice : pipe.sender = pipe.receiver :=
        congrArg Prod.snd (Option.some.inj (sends.2.symm.trans (one ▸ receives.2)))
      have roles := fits.sends.symm.trans (twice ▸ fits.receives)
      simp at roles
    simp [ends, apart]
  once := by
    rintro i j p q first second ⟨conn, left, right⟩
    have task : ∀ {place pipe}, m.pipes[place]? = some pipe → conn ∈ ends pipe →
        ∃ h, m.handlers.get? conn = some h ∧ h.task = some place := by
      intro place pipe found member
      have handlers := (coherent.pipes place pipe found).2
      simp only [ends, List.mem_cons, List.not_mem_nil, or_false] at member
      rcases member with same | same
      · obtain ⟨h, runs, task⟩ := handlers pipe.sender (by simp)
        exact ⟨h, same ▸ runs.1, task⟩
      · obtain ⟨h, runs, task⟩ := handlers pipe.receiver (by simp)
        exact ⟨h, same ▸ runs.1, task⟩
    obtain ⟨h, here, mine⟩ := task first left
    obtain ⟨h', here', yours⟩ := task second right
    obtain rfl := Option.some.inj (here.symm.trans here')
    exact Option.some.inj (mine.symm.trans yours)
  spaced := coherent.spaced
  room := coherent.room
  live := by
    intro key c found
    obtain ⟨h, runs, -, waits⟩ := coherent.pending key c found
    refine ⟨h, runs, ?_⟩
    rcases waits with on | ⟨since, on⟩
    · simp [on]
    · simp [on]
  asserted := coherent.asserted

/-- A change of a handler that keeps its connection and its task, and leaves no await another needs. -/
structure Keeps (m : BulkMachine) (conn : ConnId) (h h' : BulkHandler) : Prop where
  connection : h.connection = none ∨ h'.connection = h.connection
  headers : ∀ key c, h'.connection = some (key, c) → c.label = conn ∧ (c.role = "sender" ∨ c.role = "receiver")
  task : h'.task = h.task
  unread : ∀ since, h'.pc = .header since → h'.connection = none ∧ h'.task = none
  awake : h'.paired = true → h'.task ≠ none
  fresh : h'.pc = .locking → h'.task = none
  pending : ∀ key c, m.tables.pending.get? key = some c → c.label = conn → Pending h'

theorem runs_unique {key key' : String} {c c' : BulkConnection ConnId} (runs : Runs m key c h)
    (runs' : Runs m key' c' h') (same : c.label = c'.label) : h = h' ∧ key = key' ∧ c = c' := by
  have one : h = h' := Option.some.inj (runs.1.symm.trans (same ▸ runs'.1))
  have both := Option.some.inj (runs.2.symm.trans (one ▸ runs'.2))
  exact ⟨one, congrArg Prod.fst both, congrArg Prod.snd both⟩

/-- What runs keeps running through a change of one handler. -/
theorem runs_set {key : String} {c : BulkConnection ConnId} {g : BulkHandler} (here : m.handlers.get? conn = some h)
    (connection : h.connection = none ∨ h'.connection = h.connection) (runs : Runs m key c g) :
    ∃ g', Runs (m.set conn h') key c g' ∧ ((c.label = conn ∧ g' = h' ∧ g = h) ∨ (c.label ≠ conn ∧ g' = g)) := by
  by_cases same : c.label = conn
  · have one : g = h := Option.some.inj (runs.1.symm.trans (same ▸ here))
    have read : h.connection = some (key, c) := one ▸ runs.2
    refine ⟨h', ⟨?_, ?_⟩, .inl ⟨same, rfl, one⟩⟩
    · rw [same]
      exact Dict.get?_insert_self ..
    · rcases connection with none | kept
      · rw [none] at read
        cases read
      · exact kept.trans read
  · exact ⟨g, ⟨(Dict.get?_insert_of_ne _ _ (Ne.symm same)).trans runs.1, runs.2⟩, .inr ⟨same, rfl⟩⟩

theorem get?_set {other : ConnId} {g : BulkHandler} (found : (m.set conn h').handlers.get? other = some g) :
    (other = conn ∧ g = h') ∨ (other ≠ conn ∧ m.handlers.get? other = some g) := by
  simp only [BulkMachine.set, Dict.get?_insert] at found
  split_ifs at found with same
  · exact .inl ⟨same.symm, (Option.some.inj found).symm⟩
  · exact .inr ⟨Ne.symm same, found⟩

theorem Coherent.set (coherent : Coherent m) (here : m.handlers.get? conn = some h) (keeps : Keeps m conn h h') :
    Coherent (m.set conn h') where
  room := coherent.room
  unread := by
    intro other g since found on
    rcases get?_set found with ⟨rfl, rfl⟩ | ⟨-, old⟩
    · exact keeps.unread since on
    · exact coherent.unread other g since old on
  headers := by
    intro other g key c found named
    rcases get?_set found with ⟨rfl, rfl⟩ | ⟨-, old⟩
    · exact keeps.headers key c named
    · exact coherent.headers other g key c old named
  pending := by
    intro key c found
    obtain ⟨g, runs, pending⟩ := coherent.pending key c found
    obtain ⟨g', runs', which⟩ := runs_set here keeps.connection runs
    refine ⟨g', runs', ?_⟩
    rcases which with ⟨same, rfl, -⟩ | ⟨-, rfl⟩
    · exact keeps.pending key c found same
    · exact pending
  fresh := by
    intro other g found on
    rcases get?_set found with ⟨rfl, rfl⟩ | ⟨-, old⟩
    · exact keeps.fresh on
    · exact coherent.fresh other g old on
  awake := by
    intro other g found on
    rcases get?_set found with ⟨rfl, rfl⟩ | ⟨-, old⟩
    · exact keeps.awake on
    · exact coherent.awake other g old on
  pipes := by
    intro place pipe found
    obtain ⟨fits, handlers⟩ := coherent.pipes place pipe found
    refine ⟨fits, fun c member => ?_⟩
    obtain ⟨g, runs, task⟩ := handlers c member
    obtain ⟨g', runs', which⟩ := runs_set here keeps.connection runs
    refine ⟨g', runs', ?_⟩
    rcases which with ⟨-, rfl, rfl⟩ | ⟨-, rfl⟩
    · rw [keeps.task, task]
    · exact task
  consumed := coherent.consumed
  spaced := coherent.spaced
  asserted := coherent.asserted

/-- Whether an await comes before the tables are read. -/
def isEarly : BulkPc → Bool
  | .header _ => true
  | .locking => true
  | _ => false

/-- Going to another await keeps a handler, unless its connection is pending and the await is none
of those that may be. -/
theorem Coherent.goto (coherent : Coherent m) (pc : BulkPc) (here : m.handlers.get? conn = some h)
    (late : isEarly pc = false) (stays : Pending h → Pending { h with pc := pc }) :
    Coherent (m.set conn { h with pc := pc }) := by
  refine coherent.set here ⟨.inr rfl, fun key c => coherent.headers conn h key c here, rfl, fun since on => ?_,
    coherent.awake conn h here, fun on => ?_, fun key c found same => ?_⟩
  · have early := (congrArg isEarly on).symm.trans late
    cases early
  · have early := (congrArg isEarly on).symm.trans late
    cases early
  · obtain ⟨g, runs, pending⟩ := coherent.pending key c found
    obtain rfl := Option.some.inj (runs.1.symm.trans (same ▸ here))
    exact stays pending

/-- The invariant does not speak about the lock, and of the log only that no assertion failed. -/
theorem Coherent.transfer (coherent : Coherent m) (tables : m'.tables = m.tables) (handlers : m'.handlers = m.handlers)
    (pipes : m'.pipes = m.pipes) (now : m'.now = m.now) (asserted : ∀ conn, .unset conn ∉ m'.log) : Coherent m' where
  room := tables ▸ coherent.room
  unread := handlers ▸ coherent.unread
  headers := handlers ▸ coherent.headers
  pending := by
    unfold Runs
    rw [tables, handlers]
    exact coherent.pending
  fresh := handlers ▸ coherent.fresh
  awake := handlers ▸ coherent.awake
  pipes := by
    unfold Runs
    rw [pipes, handlers]
    exact coherent.pipes
  consumed := by
    rw [tables, now, pipes]
    exact coherent.consumed
  spaced := pipes ▸ coherent.spaced
  asserted := asserted

theorem Coherent.write (coherent : Coherent m) (conn : ConnId) (line : Json) : Coherent (m.write conn line) :=
  coherent.transfer rfl rfl rfl rfl fun other member => by
    rcases List.mem_cons.mp member with head | old
    · cases head
    · exact coherent.asserted other old

/-- Tables that have nothing new pending and still remember the pipes. -/
theorem Coherent.tables (coherent : Coherent m) {tables : BulkTables ConnId}
    (room : tables.pending.size ≤ maxPendingBulk)
    (old : ∀ key c, tables.pending.get? key = some c → m.tables.pending.get? key = some c)
    (consumed : ∀ (place : ℕ) (pipe : BulkPipe), m.pipes[place]? = some pipe → Remembered tables.consumed m.now pipe) :
    Coherent { m with tables := tables } :=
  { room := room, unread := coherent.unread, headers := coherent.headers
    pending := fun key c found => coherent.pending key c (old key c found)
    fresh := coherent.fresh, awake := coherent.awake, pipes := coherent.pipes, consumed := consumed
    spaced := coherent.spaced, asserted := coherent.asserted }

theorem Remembered.swept {consumed : Dict String ℕ} {now : ℕ} {pipe : BulkPipe}
    (remembered : Remembered consumed now pipe) :
    Remembered (consumed.filter fun _ expires => decide (now < expires)) now pipe := by
  rcases remembered with past | ⟨expires, found, late⟩
  · exact .inl past
  · by_cases alive : now < expires
    · exact .inr ⟨expires, by rw [Dict.get?_filter, found]; simp [alive], late⟩
    · exact .inl (by omega)

/-- A connection enters the pending table. -/
theorem Coherent.enter (coherent : Coherent m) {key : String} {c : BulkConnection ConnId} (runs : Runs m key c h)
    (waits : Pending h) (room : m.tables.pending.size < maxPendingBulk) :
    Coherent { m with tables := { m.tables with pending := m.tables.pending.insert key c } } :=
  { coherent with
    room := by
      have grown := Dict.size_insert_le m.tables.pending key c
      exact grown.trans room
    pending := by
      intro other c' found
      simp only [Dict.get?_insert] at found
      split_ifs at found with same
      · cases found
        exact ⟨h, same ▸ runs, waits⟩
      · exact coherent.pending other c' found }

/-- A connection is forgotten and its handler closes it. -/
theorem Coherent.forget (coherent : Coherent m) (here : m.handlers.get? conn = some h) :
    Coherent ((m.forget conn).set conn { h with pc := .closing }) := by
  have kept : ∀ key c, (m.forget conn).tables.pending.get? key = some c →
      m.tables.pending.get? key = some c ∧ c.label ≠ conn := by
    intro key c found
    simp only [BulkMachine.forget, Dict.get?_filter, Option.filter_eq_some_iff] at found
    exact ⟨found.1, of_decide_eq_true found.2⟩
  have forgotten : Coherent (m.forget conn) :=
    coherent.tables ((Dict.size_filter_le ..).trans coherent.room) (fun key c found => (kept key c found).1)
      coherent.consumed
  exact forgotten.set here ⟨.inr rfl, fun key c => coherent.headers conn h key c here, rfl, by simp,
    coherent.awake conn h here, by simp, fun key c found same => absurd same (kept key c found).2⟩

/-- A handler with a task is told so. -/
theorem Coherent.signal (coherent : Coherent m) (here : m.handlers.get? conn = some h) (task : h.task ≠ none) :
    Coherent (m.signal conn) := by
  have same : m.signal conn = m.set conn { h with paired := true } := by
    simp [BulkMachine.signal, BulkMachine.set, Dict.modify, here]
  rw [same]
  refine coherent.set here ⟨.inr rfl, fun key c => coherent.headers conn h key c here, rfl,
    fun since on => coherent.unread conn h since here on, fun _ => task, coherent.fresh conn h here,
    fun key c found same => ?_⟩
  obtain ⟨g, runs, pending⟩ := coherent.pending key c found
  obtain rfl := Option.some.inj (runs.1.symm.trans (same ▸ here))
  exact absurd pending.1 task

theorem get?_setStage {place i : ℕ} {pipe q : BulkPipe} {stage : PipeStage} (there : m.pipes[place]? = some pipe)
    (found : (m.setStage place pipe stage).pipes[i]? = some q) :
    ∃ p, m.pipes[i]? = some p ∧ q = { p with stage := q.stage } := by
  simp only [BulkMachine.setStage, List.getElem?_set] at found
  split_ifs at found with same _
  · subst same
    cases found
    exact ⟨pipe, there, rfl⟩
  · exact ⟨q, found, rfl⟩

theorem Coherent.setStage (coherent : Coherent m) {place : ℕ} {pipe : BulkPipe} (stage : PipeStage)
    (there : m.pipes[place]? = some pipe) : Coherent (m.setStage place pipe stage) :=
  { coherent with
    pipes := by
      intro i q found
      obtain ⟨p, old, same⟩ := get?_setStage there found
      rw [same]
      exact coherent.pipes i p old
    consumed := by
      intro i q found
      obtain ⟨p, old, same⟩ := get?_setStage there found
      rw [same]
      exact coherent.consumed i p old
    spaced := by
      intro i j p q first second
      obtain ⟨p', first, same⟩ := get?_setStage there first
      obtain ⟨q', second, same'⟩ := get?_setStage there second
      rw [same, same']
      exact coherent.spaced i j p' q' first second }

/-- Someone connects. -/
theorem Coherent.connect (coherent : Coherent m) (absent : m.handlers.get? conn = none) :
    Coherent (m.set conn { pc := .header m.now }) := by
  have keeps : ∀ {key c h}, Runs m key c h → Runs (m.set conn { pc := .header m.now }) key c h := by
    intro key c h runs
    have apart : conn ≠ c.label := by
      rintro rfl
      rw [runs.1] at absent
      cases absent
    exact ⟨(Dict.get?_insert_of_ne _ _ apart).trans runs.1, runs.2⟩
  refine { coherent with unread := ?_, headers := ?_, pending := ?_, fresh := ?_, awake := ?_, pipes := ?_ }
  · intro other h since found on
    rcases get?_set found with ⟨-, rfl⟩ | ⟨-, old⟩
    · exact ⟨rfl, rfl⟩
    · exact coherent.unread other h since old on
  · intro other h key c found named
    rcases get?_set found with ⟨-, rfl⟩ | ⟨-, old⟩
    · cases named
    · exact coherent.headers other h key c old named
  · intro key c found
    obtain ⟨h, runs, pending⟩ := coherent.pending key c found
    exact ⟨h, keeps runs, pending⟩
  · intro other h found on
    rcases get?_set found with ⟨-, rfl⟩ | ⟨-, old⟩
    · rfl
    · exact coherent.fresh other h old on
  · intro other h found on
    rcases get?_set found with ⟨-, rfl⟩ | ⟨-, old⟩
    · cases on
    · exact coherent.awake other h old on
  · intro place pipe found
    obtain ⟨fits, handlers⟩ := coherent.pipes place pipe found
    refine ⟨fits, fun c member => ?_⟩
    obtain ⟨h, runs, task⟩ := handlers c member
    exact ⟨h, keeps runs, task⟩

/-! ### The locked section -/

/-- A handler that a pipe may take: it has no task and its connection is not pending. -/
structure Free (m : BulkMachine) (key : String) (c : BulkConnection ConnId) (h : BulkHandler) : Prop where
  runs : Runs m key c h
  task : h.task = none
  late : (∀ since, h.pc ≠ .header since) ∧ h.pc ≠ .locking
  gone : ∀ other c', m.tables.pending.get? other = some c' → c'.label ≠ c.label

/-- The machine after a pipe was created for two connections. -/
def piped (m : BulkMachine) (pipe : BulkPipe) : BulkMachine :=
  { (m.join pipe.sender.label m.pipes.length).join pipe.receiver.label m.pipes.length with
    pipes := m.pipes ++ [pipe] }

theorem piped_handlers {pipe : BulkPipe} (other : ConnId) :
    (piped m pipe).handlers.get? other = if other ∈ ends pipe then
      (m.handlers.get? other).map fun h => { h with task := some m.pipes.length } else m.handlers.get? other := by
  simp only [piped, BulkMachine.join, Dict.get?_modify, ends, List.mem_cons, List.not_mem_nil, or_false]
  by_cases receiver : pipe.receiver.label = other
  · by_cases sender : pipe.sender.label = other
    · simp only [receiver, sender, if_true, or_self]
      cases m.handlers.get? other <;> rfl
    · simp [receiver, sender]
  · by_cases sender : pipe.sender.label = other
    · simp [receiver, sender]
    · simp [receiver, sender, Ne.symm receiver, Ne.symm sender]

theorem piped_apart {pipe : BulkPipe} {key : String} {c : BulkConnection ConnId} (apart : c.label ∉ ends pipe)
    (runs : Runs m key c h) : Runs (piped m pipe) key c h :=
  ⟨by rw [piped_handlers, if_neg apart]; exact runs.1, runs.2⟩

/-- The connections of a pipe are those it is made of. -/
theorem mem_ends {pipe : BulkPipe} : conn ∈ ends pipe ↔ ∃ c ∈ [pipe.sender, pipe.receiver], c.label = conn := by
  simp [ends, eq_comm]

theorem Coherent.pipe (coherent : Coherent m) {pipe : BulkPipe} (fits : Match pipe.sender pipe.receiver)
    (free : ∀ c ∈ [pipe.sender, pipe.receiver], ∃ h, Free m pipe.key c h)
    (remembered : Remembered m.tables.consumed m.now pipe)
    (later : ∀ (i : ℕ) (p : BulkPipe), m.pipes[i]? = some p → p.key = pipe.key →
      p.since + bulkTicketTtlSeconds ≤ pipe.since) : Coherent (piped m pipe) := by
  have freed : ∀ {other g}, (piped m pipe).handlers.get? other = some g →
      (∃ c h, other = c.label ∧ Free m pipe.key c h ∧ g = { h with task := some m.pipes.length }) ∨
      m.handlers.get? other = some g := by
    intro other g found
    rw [piped_handlers] at found
    split_ifs at found with member
    · obtain ⟨c, among, rfl⟩ := mem_ends.mp member
      obtain ⟨h, alone⟩ := free c among
      rw [alone.runs.1] at found
      exact .inl ⟨c, h, rfl, alone, (Option.some.inj found).symm⟩
    · exact .inr found
  have places : ∀ {i q}, (piped m pipe).pipes[i]? = some q →
      (m.pipes[i]? = some q ∧ i < m.pipes.length) ∨ (i = m.pipes.length ∧ q = pipe) := by
    intro i q found
    simp only [piped, List.getElem?_append, List.getElem?_singleton] at found
    split_ifs at found with old new
    · exact .inl ⟨found, old⟩
    · exact .inr ⟨by omega, (Option.some.inj found).symm⟩
  exact
    { room := coherent.room
      unread := by
        intro other g since found on
        rcases freed found with ⟨c, h, rfl, alone, rfl⟩ | old
        · exact absurd on (alone.late.1 since)
        · exact coherent.unread other g since old on
      headers := by
        intro other g key c found named
        rcases freed found with ⟨c', h, rfl, alone, rfl⟩ | old
        · exact coherent.headers _ h key c alone.runs.1 named
        · exact coherent.headers other g key c old named
      pending := by
        intro key c found
        obtain ⟨h, runs, waits⟩ := coherent.pending key c found
        refine ⟨h, piped_apart (fun member => ?_) runs, waits⟩
        obtain ⟨c', among, same⟩ := mem_ends.mp member
        obtain ⟨g, alone⟩ := free c' among
        exact alone.gone key c found same.symm
      fresh := by
        intro other g found on
        rcases freed found with ⟨c, h, rfl, alone, rfl⟩ | old
        · exact absurd on alone.late.2
        · exact coherent.fresh other g old on
      awake := by
        intro other g found on
        rcases freed found with ⟨c, h, rfl, alone, rfl⟩ | old
        · simp
        · exact coherent.awake other g old on
      pipes := by
        intro place q found
        rcases places found with ⟨old, -⟩ | ⟨rfl, rfl⟩
        · obtain ⟨matched, handlers⟩ := coherent.pipes place q old
          refine ⟨matched, fun c member => ?_⟩
          obtain ⟨h, runs, task⟩ := handlers c member
          refine ⟨h, piped_apart (fun member => ?_) runs, task⟩
          obtain ⟨c', among, same⟩ := mem_ends.mp member
          obtain ⟨g, alone⟩ := free c' among
          rw [(runs_unique runs alone.runs same.symm).1, alone.task] at task
          cases task
        · refine ⟨fits, fun c member => ?_⟩
          obtain ⟨h, alone⟩ := free c member
          refine ⟨{ h with task := some m.pipes.length }, ⟨?_, alone.runs.2⟩, rfl⟩
          rw [piped_handlers, if_pos (mem_ends.mpr ⟨c, member, rfl⟩), alone.runs.1, Option.map_some]
      consumed := by
        intro place q found
        rcases places found with ⟨old, -⟩ | ⟨-, rfl⟩
        · exact coherent.consumed place q old
        · exact remembered
      spaced := by
        intro i j p q first second before key
        rcases places second with ⟨old', inside⟩ | ⟨rfl, rfl⟩
        · rcases places first with ⟨old, -⟩ | ⟨rfl, -⟩
          · exact coherent.spaced i j p q old old' before key
          · omega
        · rcases places first with ⟨old, -⟩ | ⟨rfl, -⟩
          · exact later i p old key
          · omega
      asserted := coherent.asserted }

/-- How the locked section ends. -/
theorem admit_cases (t : BulkTables ConnId) (now : ℕ) (key : String) (c : BulkConnection ConnId) :
    (∃ error, (t.admission now key c).2 = .refused error ∧
      (∀ other, (t.admission now key c).1.pending.get? other = t.pending.get? other) ∧
      (t.admission now key c).1.pending.size ≤ t.pending.size ∧
      (t.admission now key c).1.consumed = t.consumed.filter fun _ expires => decide (now < expires)) ∨
    (t.pending.get? key = none ∧ t.pending.size < maxPendingBulk ∧ t.admission now key c =
      (⟨t.pending.insert key c, t.consumed.filter fun _ expires => decide (now < expires)⟩, .waiting)) ∨
    ∃ waiting, t.pending.get? key = some waiting ∧ BulkTables.mismatch waiting c = false ∧
      (∀ expires, t.consumed.get? key = some expires → expires ≤ now) ∧ t.admission now key c =
      (⟨t.pending.erase key, (t.consumed.filter fun _ expires => decide (now < expires)).insert key
          (now + bulkTicketTtlSeconds)⟩,
        .paired (if c.role = "sender" then c else waiting) (if c.role = "receiver" then c else waiting)) := by
  unfold BulkTables.admission
  dsimp only
  split
  · exact .inl ⟨_, rfl, fun _ => rfl, le_rfl, rfl⟩
  rename_i unused
  split
  · rename_i free
    split
    · exact .inl ⟨_, rfl, fun _ => rfl, le_rfl, rfl⟩
    · rename_i full
      exact .inr (.inl ⟨free, not_le.mp full, rfl⟩)
  · rename_i waiting held
    split
    · exact .inl ⟨_, rfl, fun other => Dict.get?_erase_insert held other, Dict.size_erase_insert_le held _, rfl⟩
    · rename_i fits
      refine .inr (.inr ⟨waiting, held, Bool.eq_false_iff.mpr fits, fun expires found => ?_, rfl⟩)
      by_contra late
      refine unused ((Dict.contains_iff ..).mpr ⟨expires, ?_⟩)
      rw [Dict.get?_filter, found]
      simp [not_le.mp late]

theorem mismatch_eq_false {waiting c : BulkConnection ConnId} : BulkTables.mismatch waiting c = false ↔
    waiting.role ≠ c.role ∧ waiting.clientId = c.peer ∧ waiting.peer = c.clientId ∧ waiting.length = c.length := by
  simp [BulkTables.mismatch, and_assoc]

/-- The two connections of a pairing, in their roles. -/
theorem paired_roles {waiting c : BulkConnection ConnId} (fits : BulkTables.mismatch waiting c = false)
    (first : waiting.role = "sender" ∨ waiting.role = "receiver") (second : c.role = "sender" ∨ c.role = "receiver") :
    Match (if c.role = "sender" then c else waiting) (if c.role = "receiver" then c else waiting) ∧
      ∀ d ∈ [if c.role = "sender" then c else waiting, if c.role = "receiver" then c else waiting],
        d = c ∨ d = waiting := by
  obtain ⟨roles, origin, recipient, length⟩ := mismatch_eq_false.mp fits
  rcases second with sends | receives
  · have other : waiting.role = "receiver" := first.resolve_left fun same => roles (same.trans sends.symm)
    simp only [sends, if_true, String.reduceEq, if_false]
    exact ⟨⟨sends, other, origin.symm, recipient.symm, length.symm⟩, by simp⟩
  · have other : waiting.role = "sender" := first.resolve_right fun same => roles (same.trans receives.symm)
    simp only [receives, if_true, String.reduceEq, if_false]
    exact ⟨⟨other, receives, recipient, origin, length⟩, by simp⟩

theorem Coherent.admission (coherent : Coherent m) {key : String} {c : BulkConnection ConnId}
    (here : m.handlers.get? conn = some h) (on : h.pc = .locking) (read : h.connection = some (key, c)) :
    Coherent (m.admission conn h key c) := by
  have unpended : ¬ Pending h := by
    rintro ⟨-, away | ⟨since, away⟩⟩
    · simp [on] at away
    · simp [on] at away
  have label : c.label = conn := (coherent.headers conn h key c here read).1
  rcases admit_cases m.tables m.now key c with
    ⟨error, refused, same, room, consumed⟩ | ⟨-, room, result⟩ | ⟨waiting, held, fits, unused, result⟩
  · have swept : Coherent { m with tables := (m.tables.admission m.now key c).1 } :=
      coherent.tables (room.trans coherent.room) (fun other c' found => same other ▸ found) fun place pipe found => by
        rw [consumed]
        exact (coherent.consumed place pipe found).swept
    have result : m.admission conn h key c =
        { ({ m with tables := (m.tables.admission m.now key c).1 }.write conn (RelayRuntime.refusal error)).set conn
            { h with pc := .refusingLocked } with lock := some conn } := by
      simp only [BulkMachine.admission, refused]
      rfl
    have left := (swept.write conn (RelayRuntime.refusal error)).goto .refusingLocked here rfl
      fun pending => absurd pending unpended
    rw [result]
    exact left.transfer rfl rfl rfl rfl left.asserted
  · have swept : Coherent { m with tables := ⟨m.tables.pending,
        m.tables.consumed.filter fun _ expires => decide (m.now < expires)⟩ } :=
      coherent.tables coherent.room (fun _ _ found => found) fun place pipe found =>
        (coherent.consumed place pipe found).swept
    have waits := swept.goto (.waiting m.now) here rfl fun pending => absurd pending unpended
    have runs : Runs (({ m with tables := ⟨m.tables.pending,
        m.tables.consumed.filter fun _ expires => decide (m.now < expires)⟩ }).set conn
          { h with pc := .waiting m.now }) key c { h with pc := .waiting m.now } := by
      refine ⟨?_, read⟩
      rw [label]
      exact Dict.get?_insert_self ..
    have entered := waits.enter runs ⟨coherent.fresh conn h here on, .inr ⟨m.now, rfl⟩⟩ room
    have same : m.admission conn h key c = { m.set conn { h with pc := .waiting m.now } with
        tables := ⟨m.tables.pending.insert key c,
          m.tables.consumed.filter fun _ expires => decide (m.now < expires)⟩ } := by
      simp only [BulkMachine.admission, result]
    rw [same]
    exact entered
  · obtain ⟨g, runs, waits⟩ := coherent.pending key waiting held
    have apart : waiting.label ≠ conn := by
      intro same
      obtain rfl := Option.some.inj (runs.1.symm.trans (same ▸ here))
      exact unpended waits
    obtain ⟨roles, among⟩ := paired_roles fits (coherent.headers _ g key waiting runs.1 runs.2).2
      (coherent.headers conn h key c here read).2
    have shrunk : Coherent { m with tables := ⟨m.tables.pending.erase key,
        (m.tables.consumed.filter fun _ expires => decide (m.now < expires)).insert key
          (m.now + bulkTicketTtlSeconds)⟩ } := by
      refine coherent.tables ((Dict.size_filter_le ..).trans coherent.room) (fun other c' found => ?_)
        fun place pipe found => ?_
      · rw [Dict.get?_erase] at found
        split_ifs at found
        exact found
      · have before := (coherent.consumed place pipe found).swept
        by_cases same : key = pipe.key
        · rcases coherent.consumed place pipe found with past | ⟨expires, there, late⟩
          · exact .inl past
          · exact .inl (late.trans (unused expires (same ▸ there)))
        · rcases before with past | ⟨expires, there, late⟩
          · exact .inl past
          · exact .inr ⟨expires, (Dict.get?_insert_of_ne _ _ same).trans there, late⟩
    have joined := shrunk.goto .joined here rfl fun pending => absurd pending unpended
    have consumes : Remembered ((m.tables.consumed.filter fun _ expires => decide (m.now < expires)).insert key
        (m.now + bulkTicketTtlSeconds)) m.now ⟨key, if c.role = "sender" then c else waiting,
          if c.role = "receiver" then c else waiting, m.now, .readySender⟩ :=
      .inr ⟨_, Dict.get?_insert_self .., le_rfl⟩
    have later : ∀ (i : ℕ) (p : BulkPipe), m.pipes[i]? = some p → p.key = key →
      p.since + bulkTicketTtlSeconds ≤ m.now := by
      intro i p found same
      rcases coherent.consumed i p found with past | ⟨expires, there, late⟩
      · exact past
      · exact late.trans (unused expires (same ▸ there))
    have free : ∀ d, d = c ∨ d = waiting → ∃ h', Free (({ m with tables := ⟨m.tables.pending.erase key,
        (m.tables.consumed.filter fun _ expires => decide (m.now < expires)).insert key
          (m.now + bulkTicketTtlSeconds)⟩ }).set conn { h with pc := .joined }) key d h' := by
      rintro d (rfl | rfl)
      · refine ⟨{ h with pc := .joined }, ⟨?_, read⟩, coherent.fresh conn h here on, ⟨by simp, by simp⟩, ?_⟩
        · rw [label]
          exact Dict.get?_insert_self ..
        · intro other c' found same
          obtain ⟨g', runs', waits'⟩ := joined.pending other c' found
          have one := runs'.1
          rw [same, label] at one
          obtain rfl := Option.some.inj (one.symm.trans (Dict.get?_insert_self ..))
          rcases waits'.2 with away | ⟨since, away⟩
          · cases away
          · cases away
      · refine ⟨g, ⟨?_, runs.2⟩, waits.1, ?_, ?_⟩
        · exact (Dict.get?_insert_of_ne _ _ (Ne.symm apart)).trans runs.1
        · rcases waits.2 with away | ⟨since, away⟩
          · simp [away]
          · simp [away]
        · intro other c' found same
          simp only [BulkMachine.set, Dict.get?_erase] at found
          split_ifs at found with erased
          obtain ⟨g', runs', -⟩ := coherent.pending other c' found
          exact erased (runs_unique runs runs' same.symm).2.1
    have result : m.admission conn h key c = piped (({ m with tables := ⟨m.tables.pending.erase key,
        (m.tables.consumed.filter fun _ expires => decide (m.now < expires)).insert key
          (m.now + bulkTicketTtlSeconds)⟩ }).set conn { h with pc := .joined }) ⟨key,
          if c.role = "sender" then c else waiting, if c.role = "receiver" then c else waiting, m.now,
          .readySender⟩ := by
      simp only [BulkMachine.admission, result]
      rfl
    rw [result]
    exact joined.pipe roles (fun d member => free d (among d member)) consumes later

/-! ### Every step -/

theorem readHeader_role {header : Json} {key : String} {c : BulkConnection ConnId}
    (read : BulkTables.readHeader conn header = .ok (key, c)) :
    c.label = conn ∧ (c.role = "sender" ∨ c.role = "receiver") := by
  unfold BulkTables.readHeader at read
  split_ifs at read
  split at read
  · split_ifs at read with bad
    cases read
    rw [not_or, not_and_or, not_not, not_not] at bad
    exact ⟨rfl, bad.1⟩
  · cases read

theorem Coherent.onHeader (coherent : Coherent m) (here : m.handlers.get? conn = some h) {since : ℕ}
    (on : h.pc = .header since) (line : Json) : Coherent (m.onHeader conn h line) := by
  have unpended : ¬ Pending h := by
    rintro ⟨-, away | ⟨since, away⟩⟩
    · simp [on] at away
    · simp [on] at away
  obtain ⟨unread, untasked⟩ := coherent.unread conn h since here on
  unfold BulkMachine.onHeader
  split
  · rename_i connection read
    refine coherent.set here ⟨.inl unread, fun key c named => ?_, rfl, by simp, coherent.awake conn h here,
      fun _ => untasked, fun key c found same => ?_⟩
    · obtain rfl := Option.some.inj named
      exact readHeader_role read
    · obtain ⟨g, runs, pending⟩ := coherent.pending key c found
      obtain rfl := Option.some.inj (runs.1.symm.trans (same ▸ here))
      exact absurd pending unpended
  · exact (coherent.write _ _).goto _ here rfl fun pending => absurd pending unpended
  · exact coherent.goto _ here rfl fun pending => absurd pending unpended

/-- A handler that runs on no connection, or is elsewhere than a pending one may be, can go on freely. -/
theorem Coherent.leave (coherent : Coherent m) (pc : BulkPc) (here : m.handlers.get? conn = some h)
    (away : h.pc ≠ .cleaning ∧ ∀ since, h.pc ≠ .waiting since) (late : isEarly pc = false) :
    Coherent (m.set conn { h with pc := pc }) := by
  refine coherent.goto _ here late fun pending => ?_
  rcases pending.2 with on | ⟨since, on⟩
  · exact absurd on away.1
  · exact absurd on (away.2 since)

theorem Coherent.pipeStep (coherent : Coherent m) {place : ℕ} {pipe : BulkPipe} (there : m.pipes[place]? = some pipe)
    (stepped : m.pipeStep place pipe = some m') : Coherent m' := by
  unfold BulkMachine.pipeStep at stepped
  split at stepped
  · cases stepped
    obtain ⟨-, handlers⟩ := coherent.pipes place pipe there
    obtain ⟨hs, sends, task⟩ := handlers pipe.sender (by simp)
    have told := coherent.signal sends.1 (by simp [task])
    obtain ⟨-, handlers⟩ := told.pipes place pipe there
    obtain ⟨hr, receives, task⟩ := handlers pipe.receiver (by simp)
    exact ((told.signal receives.1 (by simp [task])).write _ _).setStage _ there
  · cases stepped
    exact (coherent.write _ _).setStage _ there
  · cases stepped
    exact coherent.setStage _ there
  · cases stepped
    exact coherent.setStage _ there
  · cases stepped
    exact (coherent.write _ _).setStage _ there
  · cases stepped
    exact (coherent.write _ _).setStage _ there
  · cases stepped

theorem Coherent.tick (coherent : Coherent m) (seconds : ℕ) : Coherent { m with now := m.now + seconds } :=
  { coherent with
    consumed := by
      intro place pipe found
      rcases coherent.consumed place pipe found with past | remembered
      · exact .inl (past.trans (Nat.le_add_right ..))
      · exact .inr remembered }

theorem resume_some {move : BulkHandler → Option BulkMachine} (stepped : m.resume conn move = some m') :
    ∃ h, m.handlers.get? conn = some h ∧ move h = some m' := by
  unfold BulkMachine.resume at stepped
  split at stepped
  · cases stepped
  · exact ⟨_, ‹_›, stepped⟩

theorem Coherent.acquire (coherent : Coherent m) (here : m.handlers.get? conn = some h)
    (stepped : m.acquire conn h = some m') : Coherent m' := by
  unfold BulkMachine.acquire at stepped
  split_ifs at stepped
  split at stepped
  · rename_i key c on read
    cases stepped
    exact coherent.admission here on read
  · cases stepped
    exact coherent.forget here
  · cases stepped

theorem Coherent.wake (coherent : Coherent m) (here : m.handlers.get? conn = some h)
    (stepped : m.wake conn h = some m') : Coherent m' := by
  unfold BulkMachine.wake at stepped
  split at stepped
  · rename_i since on paired
    have task := coherent.awake conn h here paired
    rw [if_pos (Option.isSome_iff_ne_none.mpr task)] at stepped
    cases stepped
    exact coherent.goto _ here rfl fun pending => absurd pending.1 task
  · cases stepped

theorem Coherent.step (coherent : Coherent m) {e : BulkEvent} (stepped : m.step e = some m') : Coherent m' := by
  cases e with
  | connect conn =>
    simp only [BulkMachine.step] at stepped
    split_ifs at stepped with known
    cases stepped
    exact coherent.connect ((Dict.contains_eq_false_iff ..).mp (Bool.eq_false_iff.mpr known))
  | header conn line =>
    obtain ⟨h, here, moved⟩ := resume_some stepped
    split at moved
    · rename_i on
      cases moved
      exact coherent.onHeader here on _
    · rename_i on
      cases moved
      exact coherent.leave _ here ⟨by simp [on], by simp [on]⟩ rfl
    · cases moved
  | expire conn =>
    obtain ⟨h, here, moved⟩ := resume_some stepped
    unfold BulkMachine.expire at moved
    split at moved
    · rename_i on
      split_ifs at moved
      cases moved
      exact coherent.leave _ here ⟨by simp [on], by simp [on]⟩ rfl
    · split_ifs at moved
      cases moved
      exact coherent.goto _ here rfl fun pending => ⟨pending.1, .inl rfl⟩
    · cases moved
  | lost conn =>
    obtain ⟨h, here, moved⟩ := resume_some stepped
    unfold BulkMachine.lose at moved
    split at moved
    · rename_i on
      cases moved
      exact coherent.leave _ here ⟨by simp [on], by simp [on]⟩ rfl
    · rename_i on
      cases moved
      exact coherent.leave _ here ⟨by simp [on], by simp [on]⟩ rfl
    · rename_i on
      cases moved
      have left := coherent.leave .cleaning here ⟨by simp [on], by simp [on]⟩ rfl
      exact left.transfer rfl rfl rfl rfl left.asserted
    · cases moved
  | sent conn =>
    obtain ⟨h, here, moved⟩ := resume_some stepped
    unfold BulkMachine.sent at moved
    split at moved
    · rename_i on
      cases moved
      exact coherent.leave _ here ⟨by simp [on], by simp [on]⟩ rfl
    · rename_i on
      cases moved
      have left := coherent.leave .cleaning here ⟨by simp [on], by simp [on]⟩ rfl
      exact left.transfer rfl rfl rfl rfl left.asserted
    · cases moved
  | acquire conn =>
    obtain ⟨h, here, moved⟩ := resume_some stepped
    exact coherent.acquire here moved
  | wake conn =>
    obtain ⟨h, here, moved⟩ := resume_some stepped
    exact coherent.wake here moved
  | ended conn =>
    obtain ⟨h, here, moved⟩ := resume_some stepped
    unfold BulkMachine.ended at moved
    split at moved
    · rename_i on _
      split_ifs at moved
      cases moved
      exact coherent.leave _ here ⟨by simp [on], by simp [on]⟩ rfl
    · cases moved
  | closed conn =>
    obtain ⟨h, here, moved⟩ := resume_some stepped
    split_ifs at moved with on
    cases moved
    exact coherent.leave _ here ⟨by simp [on], by simp [on]⟩ rfl
  | pipe place =>
    obtain ⟨pipe, there, moved⟩ := Option.bind_eq_some_iff.mp stepped
    exact coherent.pipeStep there moved
  | pipeFails place =>
    obtain ⟨pipe, there, moved⟩ := Option.bind_eq_some_iff.mp stepped
    unfold BulkMachine.pipeFails at moved
    split at moved
    · cases moved
    · cases moved
    · cases moved
      exact coherent.setStage _ there
  | tick seconds =>
    cases stepped
    exact coherent.tick seconds

theorem initial_coherent (initial : m.Initial) : Coherent m := by
  obtain ⟨pending, consumed, handlers, -, pipes, log⟩ := initial
  refine ⟨?_, ?_, ?_, ?_, ?_, ?_, ?_, ?_, ?_, ?_⟩
  · simp [pending, Dict.size, Dict.empty]
  · simp [handlers]
  · simp [handlers]
  · simp [pending]
  · simp [handlers]
  · simp [handlers]
  · simp [pipes]
  · simp [pipes]
  · simp [pipes]
  · simp [log]

theorem reach_coherent (reach : Reach BulkMachine.step anyStep Initial m) : Coherent m :=
  reach.invariant Coherent (fun _ initial => initial_coherent initial)
    fun _ _ _ _ coherent _ stepped => coherent.step stepped

/-- In every interleaving of bulk connections, pipes join matching connections, each of them once,
and a key again only when its time is past; what is pending is bounded and alive, no assertion
fails, and an arrival that does not match leaves what it finds. -/
theorem rendezvous (reach : Reach BulkMachine.step anyStep Initial m) :
    Rendezvous m ∧ ∀ conn h key c waiting m', m.handlers.get? conn = some h → h.pc = .locking →
      h.connection = some (key, c) → m.tables.pending.get? key = some waiting →
      ¬ (waiting.role ≠ c.role ∧ waiting.clientId = c.peer ∧ waiting.peer = c.clientId ∧ waiting.length = c.length) →
      m.step (.acquire conn) = some m' → ∀ other, m'.tables.pending.get? other = m.tables.pending.get? other := by
  refine ⟨(reach_coherent reach).meeting, fun conn h key c waiting m' here on read held apart stepped other => ?_⟩
  obtain ⟨g, found, moved⟩ := resume_some stepped
  obtain rfl := Option.some.inj (here.symm.trans found)
  unfold BulkMachine.acquire at moved
  split_ifs at moved
  rw [on, read] at moved
  obtain rfl := Option.some.inj moved
  rcases admit_cases m.tables m.now key c with
    ⟨error, refused, same, -⟩ | ⟨free, -⟩ | ⟨found, there, fits, -⟩
  · simp only [BulkMachine.admission, refused]
    exact same other
  · rw [held] at free
    cases free
  · rw [held] at there
    cases there
    exact absurd (mismatch_eq_false.mp fits) apart

end Steps

/-! ## Two connections that meet -/

def bulkHeader (role sender recipient : String) : Json :=
  .obj [("type", .str "bulk_connect"), ("role", .str role), ("session_id", .str "session"),
    ("transfer_id", .str "transfer"), ("sender", .str sender), ("recipient", .str recipient), ("length", .int 16)]

/-- A sender waits, and another sender has the same key. -/
def intrudingEvents : List BulkEvent :=
  [.connect 0, .header 0 (some (bulkHeader "sender" "phone" "wisp")), .acquire 0, .tick 5,
    .connect 2, .header 2 (some (bulkHeader "sender" "wisp" "phone"))]

def intrudingMachine : BulkMachine := (replay BulkMachine.step {} intrudingEvents).getD {}

/-- The other sender is refused, and the receiver comes. -/
def meetingEvents : List BulkEvent :=
  intrudingEvents ++ [.acquire 2, .sent 2, .connect 1, .header 1 (some (bulkHeader "receiver" "wisp" "phone")),
    .acquire 1, .pipe 0, .wake 0]

def meetingMachine : BulkMachine := (replay BulkMachine.step {} meetingEvents).getD {}

theorem rendezvous_meeting : (meetingMachine.pipes.length = 1 ∧ Rendezvous meetingMachine) ∧
    ∃ m', intrudingMachine.step (.acquire 2) = some m' ∧
      m'.tables.pending.get? "session:transfer" = some ⟨0, "phone", "wisp", "sender", 16⟩ := by
  have started : Initial {} := ⟨rfl, rfl, rfl, rfl, rfl, rfl⟩
  have met : Reach BulkMachine.step anyStep Initial meetingMachine := Reach.of_defined started (by decide)
  have intruded : Reach BulkMachine.step anyStep Initial intrudingMachine :=
    Reach.of_defined started (by decide)
  refine ⟨⟨by decide, (rendezvous met).1⟩, ?_⟩
  have here : intrudingMachine.handlers.get? 2 =
      some ⟨.locking, some ("session:transfer", ⟨2, "wisp", "phone", "sender", 16⟩), false, none⟩ := by decide
  have held : intrudingMachine.tables.pending.get? "session:transfer" =
      some ⟨0, "phone", "wisp", "sender", 16⟩ := by decide
  have defined : (intrudingMachine.step (.acquire 2)).isSome = true := by decide
  obtain ⟨m', stepped⟩ := Option.isSome_iff_exists.mp defined
  refine ⟨m', stepped, ?_⟩
  rw [(rendezvous intruded).2 2 _ _ _ _ m' here rfl rfl held (by simp) stepped]
  exact held

end WispGate.Soundness.BulkPairing
