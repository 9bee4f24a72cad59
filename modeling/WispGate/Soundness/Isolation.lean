import WispGate.Soundness.Resilience

/-! # Peers do not disturb each other

What a step for one peer leaves of another: its session, its pinned key, its retained results, its
active operations and its file transfers. Only the age of a transfer or a result can end it from
outside.
-/

namespace WispGate.Soundness.Isolation

open Data Model Model.Wisp Runtime RuntimeMoves Dispatching Handshakes Replies Resilience

/-! ## Tables -/

/-- A transfer that has run out of time. -/
def Overdue (now : ℕ) (transfer : Transfer) : Prop := transfer.createdAt + fileTransferTimeoutSeconds < now

/-- What is left of a peer's operations, apart from what has expired. -/
structure Kept (peer : String) (now : ℕ) (t t' : Tables) : Prop where
  active : ∀ id, (peer, id) ∈ t'.active ↔ (peer, id) ∈ t.active
  transfers : ∀ id, t'.transfers.get? (peer, id) = t.transfers.get? (peer, id) ∨
    ∃ transfer, t.transfers.get? (peer, id) = some transfer ∧ Overdue now transfer ∧
      (t'.transfers.get? (peer, id) = none ∨ ∃ task, t'.transfers.get? (peer, id) = some { transfer with task := task })
  completed : ∀ id, t'.completed.get? (peer, id) = t.completed.get? (peer, id) ∨
    (t'.completed.get? (peer, id) = none ∧ ∃ at_time body, t.completed.get? (peer, id) = some (at_time, body) ∧
      at_time + completedOperationTtlSeconds < now) ∨
    ∃ transfer, t.transfers.get? (peer, id) = some transfer ∧ Overdue now transfer ∧
      (t'.completed.get? (peer, id) = none ∨ ∃ at_time, t'.completed.get? (peer, id) =
        some (at_time, operationStatusBody transfer.wisp "indeterminate" id))

section Tables

variable {peer sender operationId wisp : String} {now now' : ℕ} {t t' t'' : Tables} {body : Json}

theorem Kept.refl (peer : String) (now : ℕ) (t : Tables) : Kept peer now t t where
  active _ := Iff.rfl
  transfers _ := .inl rfl
  completed _ := .inl rfl

theorem Overdue.later {transfer : Transfer} (overdue : Overdue now transfer) (after : now ≤ now') :
    Overdue now' transfer := by
  unfold Overdue at *
  omega

/-- What is kept composes, since what is over stays over. -/
theorem Kept.trans (first : Kept peer now t t') (second : Kept peer now' t' t'') (after : now ≤ now') :
    Kept peer now' t t'' where
  active id := (second.active id).trans (first.active id)
  transfers id := by
    rcases second.transfers id with same | ⟨transfer, found, overdue, rest⟩
    · rw [same]
      rcases first.transfers id with same | ⟨transfer, found, overdue, rest⟩
      · exact .inl same
      · exact .inr ⟨transfer, found, overdue.later after, rest⟩
    · rcases first.transfers id with same | ⟨original, found', overdue', none | ⟨task, now_found⟩⟩
      · exact .inr ⟨transfer, same ▸ found, overdue, rest⟩
      · rw [none] at found
        cases found
      · rw [now_found] at found
        cases found
        exact .inr ⟨original, found', overdue'.later after, rest⟩
  completed id := by
    rcases second.completed id with same | ⟨none, at_time, body, found, old⟩ | ⟨transfer, found, overdue, rest⟩
    · rw [same]
      rcases first.completed id with same | ⟨none, at_time, body, found, old⟩ | ⟨transfer, found, overdue, rest⟩
      · exact .inl same
      · exact .inr (.inl ⟨none, at_time, body, found, by omega⟩)
      · exact .inr (.inr ⟨transfer, found, overdue.later after, rest⟩)
    · rcases first.completed id with same | ⟨none', -⟩ | ⟨transfer, found', overdue, -⟩
      · exact .inr (.inl ⟨none, at_time, body, same ▸ found, old⟩)
      · rw [none'] at found
        cases found
      · exact .inr (.inr ⟨transfer, found', overdue.later after, .inl none⟩)
    · rcases first.transfers id with same | ⟨original, found', overdue', none | ⟨task, now_found⟩⟩
      · exact .inr (.inr ⟨transfer, same ▸ found, overdue, rest⟩)
      · rw [none] at found
        cases found
      · rw [now_found] at found
        cases found
        exact .inr (.inr ⟨original, found', overdue'.later after, rest⟩)

/-- Changes under keys of other peers. -/
theorem Kept.of_same (active : ∀ id, (peer, id) ∈ t'.active ↔ (peer, id) ∈ t.active)
    (transfers : ∀ id, t'.transfers.get? (peer, id) = t.transfers.get? (peer, id))
    (completed : ∀ id, t'.completed.get? (peer, id) = t.completed.get? (peer, id)) : Kept peer now t t' where
  active := active
  transfers id := .inl (transfers id)
  completed id := .inl (completed id)

theorem other_key (other : sender ≠ peer) (operationId id : String) : (sender, operationId) ≠ (peer, id) :=
  fun same => other (Prod.mk.inj same).1

theorem remember_kept (other : sender ≠ peer) (at_time : ℕ) :
    Kept peer now t (t.remember sender operationId body at_time) := by
  unfold Tables.remember
  split_ifs
  · exact .refl peer now t
  · exact .of_same (fun _ => Iff.rfl) (fun _ => rfl) fun id => Dict.get?_insert_of_ne _ _ (other_key other _ id)

theorem expireCompleted_kept (peer : String) (now : ℕ) (t : Tables) : Kept peer now t (t.expireCompleted now) where
  active _ := Iff.rfl
  transfers _ := .inl rfl
  completed id := by
    have filtered : (t.expireCompleted now).completed.get? (peer, id) = (t.completed.get? (peer, id)).filter
        fun value => decide (now ≤ value.1 + completedOperationTtlSeconds) := Dict.get?_filter _ _ _
    rw [filtered]
    cases found : t.completed.get? (peer, id) with
    | none => exact .inl rfl
    | some value =>
      obtain ⟨at_time, body⟩ := value
      by_cases fresh : now ≤ at_time + completedOperationTtlSeconds
      · exact .inl (by simp [fresh])
      · exact .inr (.inl ⟨by simpa using fresh, at_time, body, rfl, not_le.mp fresh⟩)

/-! ## Sweeps -/

theorem remember_transfers (sender operationId : String) (body : Json) :
    (t.remember sender operationId body now).transfers = t.transfers := by
  unfold Tables.remember
  split_ifs
  · rfl
  · rfl

/-- Expiring an entry cancels its task, and touches no other transfer. -/
theorem get?_expire (t : Tables) (entry : Key × Transfer) (now : ℕ) (key : Key) :
    (t.expire entry now).transfers.get? key = if entry.1 = key then
      (t.transfers.get? key).map fun transfer =>
        { transfer with task := transfer.task.map fun task => { task with cancelled := true } }
      else t.transfers.get? key := by
  unfold Tables.expire
  dsimp only
  rw [remember_transfers]
  exact Dict.get?_modify _ _ _ _

variable (now) in
/-- A sweep changes the tasks of transfers only. -/
theorem expire_get? {key : Key} {transfer : Transfer} (entry : Key × Transfer)
    (found : ∃ task, t.transfers.get? key = some { transfer with task := task }) :
    ∃ task, (t.expire entry now).transfers.get? key = some { transfer with task := task } := by
  obtain ⟨task, found⟩ := found
  rw [get?_expire, found]
  split_ifs
  · exact ⟨_, rfl⟩
  · exact ⟨task, rfl⟩

variable (peer) in
theorem expire_kept {entry : Key × Transfer} (overdue : Overdue now entry.2)
    (found : ∃ task, t.transfers.get? entry.1 = some { entry.2 with task := task }) :
    Kept peer now t (t.expire entry now) := by
  obtain ⟨⟨sender, operationId⟩, transfer⟩ := entry
  have later := expire_get? now ((sender, operationId), transfer) found
  obtain ⟨task, found⟩ := found
  obtain ⟨task', later⟩ := later
  constructor
  · intro id
    unfold Tables.expire Tables.remember
    dsimp only
    split_ifs
    · exact Iff.rfl
    · exact Iff.rfl
  · intro id
    by_cases same : (sender, operationId) = (peer, id)
    · obtain ⟨rfl, rfl⟩ := Prod.mk.inj same
      exact .inr ⟨_, found, overdue, .inr ⟨task', later⟩⟩
    · left
      rw [get?_expire, if_neg same]
  · intro id
    by_cases same : (sender, operationId) = (peer, id)
    · obtain ⟨rfl, rfl⟩ := Prod.mk.inj same
      by_cases named : operationId = ""
      · left
        simp [Tables.expire, Tables.remember, named]
      · exact .inr (.inr ⟨_, found, overdue, .inr ⟨now, by simp [Tables.expire, Tables.remember, named]⟩⟩)
    · left
      unfold Tables.expire Tables.remember
      dsimp only
      split_ifs
      · rfl
      · exact Dict.get?_insert_of_ne _ _ same

/-- The first loop of a sweep. -/
theorem foldl_expire_kept (entries : List (Key × Transfer)) (overdue : ∀ entry ∈ entries, Overdue now entry.2)
    (found : ∀ entry ∈ entries, ∃ task, t.transfers.get? entry.1 = some { entry.2 with task := task }) :
    Kept peer now t (entries.foldl (fun tables entry => tables.expire entry now) t) := by
  induction entries generalizing t with
  | nil => exact .refl peer now t
  | cons entry rest ih =>
    rw [List.forall_mem_cons] at overdue found
    have first := expire_kept peer overdue.1 found.1
    have later : Kept peer now (t.expire entry now) (rest.foldl (fun tables entry => tables.expire entry now)
        (t.expire entry now)) := ih overdue.2 fun other mem => expire_get? _ entry (found.2 other mem)
    exact first.trans later le_rfl

variable (now) in
theorem foldl_expire_get? {key : Key} {transfer : Transfer} (entries : List (Key × Transfer))
    (found : ∃ task, t.transfers.get? key = some { transfer with task := task }) :
    ∃ task, (entries.foldl (fun tables entry => tables.expire entry now) t).transfers.get? key =
      some { transfer with task := task } := by
  induction entries generalizing t with
  | nil => exact found
  | cons entry rest ih => exact ih (expire_get? now entry found)

theorem get?_foldl_erase (keys : List Key) (transfers : Dict Key Transfer) (key : Key) :
    (keys.foldl Dict.erase transfers).get? key = if key ∈ keys then none else transfers.get? key := by
  induction keys generalizing transfers with
  | nil => simp
  | cons first rest ih =>
    rw [List.foldl_cons, ih, Dict.get?_erase]
    by_cases here : first = key
    · simp [here]
    · have apart : key ≠ first := fun same => here same.symm
      simp [here, apart]

/-- The last loop of a sweep, over keys of overdue transfers. -/
theorem drop_kept {keys : List Key}
    (overdue : ∀ key ∈ keys, ∀ transfer, t.transfers.get? key = some transfer → Overdue now transfer) :
    Kept peer now t (t.drop keys) where
  active _ := Iff.rfl
  transfers id := by
    have erased : (t.drop keys).transfers.get? (peer, id) = if (peer, id) ∈ keys then none else
        t.transfers.get? (peer, id) := get?_foldl_erase _ _ _
    rw [erased]
    split_ifs with listed
    · cases found : t.transfers.get? (peer, id) with
      | none => exact .inl rfl
      | some transfer => exact .inr ⟨transfer, rfl, overdue _ listed transfer found, .inl rfl⟩
    · exact .inl rfl
  completed _ := .inl rfl

/-! ## Choices -/

theorem chosen_kept {printable : Char → Bool} {wisps : List String} {at_time : ℕ} {choice : Choice}
    (other : sender ≠ peer)
    (chosen : Chosen printable wisps t sender body at_time t' choice) : Kept peer now t t' := by
  cases chosen with
  | begins wisp known named kind files reply uncompleted absent named_id =>
    exact .of_same (fun _ => Iff.rfl) (fun id => Dict.get?_insert_of_ne _ _ (other_key other _ id)) fun _ => rfl
  | acts wisp operationId known named kind read nonempty short uncompleted inactive =>
    refine .of_same (fun id => ?_) (fun _ => rfl) fun _ => rfl
    exact List.mem_cons.trans (or_iff_right fun same => other_key other _ _ same.symm)
  | _ => exact .refl peer now t

end Tables

/-! ## The runtime -/

/-- What a peer finds unchanged, apart from what has expired. -/
structure Isolated (peer : String) (m m' : Runtime) : Prop where
  now : m.now ≤ m'.now
  session : m'.peers.sessions.get? peer = m.peers.sessions.get? peer
  key : m'.peers.keys.get? peer = m.peers.keys.get? peer
  tables : Kept peer m'.now m.tables m'.tables

/-- The awaits at which the loop is busy for a peer. -/
def Serves (peer : String) : Pc → Prop
  | .sweeping sender _ _ | .state sender _ | .action sender _ _ | .sending sender _ _ => sender = peer
  | .replied (.transfer key) => key.1 = peer
  | _ => False

/-- The steps that process a frame of a peer, or an operation of it. -/
def ActsFor (peer : String) (m : Runtime) : Event → Prop
  | .frame message => message.get "sender" = .str peer
  | .swept | .returns _ | .send | .drained _ => Serves peer m.pc
  | .worker key _ | .orphanEnds key => key.1 = peer
  | _ => False

/-- The transfers that a sweep will drop are overdue. -/
def SweepDue (m : Runtime) : Prop :=
  ∀ sender body due, m.pc = .sweeping sender body due →
    ∀ key ∈ due, ∀ transfer, m.tables.transfers.get? key = some transfer → Overdue m.now transfer

section Steps

variable {env : Env} {m m' : Runtime} {peer sender wisp operationId : String} {body : Json} {result : Result}

theorem Isolated.refl (peer : String) (m : Runtime) : Isolated peer m m := ⟨le_rfl, rfl, rfl, .refl peer m.now m.tables⟩

theorem Isolated.trans {first second third : Runtime} (before : Isolated peer first second)
    (after : Isolated peer second third) : Isolated peer first third :=
  ⟨before.now.trans after.now, after.session.trans before.session, after.key.trans before.key,
    before.tables.trans after.tables after.now⟩

theorem isolated_of_tables (now : m'.now = m.now) (peers : m'.peers = m.peers)
    (kept : Kept peer m.now m.tables m'.tables) : Isolated peer m m' :=
  ⟨now.ge, by rw [peers], by rw [peers], now ▸ kept⟩

theorem isolated_of_same (now : m'.now = m.now) (peers : m'.peers = m.peers) (tables : m'.tables = m.tables) :
    Isolated peer m m' := isolated_of_tables now peers (tables ▸ .refl peer m.now _)

theorem deactivate_kept (other : sender ≠ peer) (now : ℕ) (t : Tables) :
    Kept peer now t { t with active := t.active.erase (sender, operationId) } :=
  .of_same (fun id => List.mem_erase_of_ne (other_key other operationId id).symm) (fun _ => rfl) fun _ => rfl

theorem abandon_kept (other : sender ≠ peer) (e : PyError) :
    Kept peer m.now m.tables (m.abandon sender wisp operationId e).tables := by
  unfold abandon
  dsimp only
  rw [raises_tables]
  exact (remember_kept other m.now).trans (deactivate_kept other m.now _) le_rfl

theorem act_kept (other : sender ≠ peer) (choice : Choice) :
    Kept peer m.now m.tables (m.act sender choice).tables := by
  cases choice with
  | unhashable =>
    simp only [act]
    rw [raises_tables]
    exact .refl peer m.now m.tables
  | action wisp operationId actionData =>
    simp only [act]
    split
    · exact abandon_kept other _
    · exact .refl peer m.now m.tables
  | _ => exact .refl peer m.now m.tables

theorem afterSweep_kept {due : List Key} (other : sender ≠ peer)
    (overdue : ∀ key ∈ due, ∀ transfer, m.tables.transfers.get? key = some transfer → Overdue m.now transfer) :
    Kept peer m.now m.tables (m.afterSweep env sender body due).tables := by
  have chosen := choose_chosen env.printable env.wisps sender body m.now (m.tables.drop due)
  unfold afterSweep
  generalize choose env.printable env.wisps (m.tables.drop due) sender body m.now = choice at chosen ⊢
  obtain ⟨tables, choice⟩ := choice
  have dropped : Kept peer m.now m.tables (m.tables.drop due) := drop_kept overdue
  have expired := dropped.trans (expireCompleted_kept peer m.now (m.tables.drop due)) le_rfl
  have chose : Kept peer m.now m.tables tables := expired.trans (chosen_kept other chosen) le_rfl
  exact chose.trans (act_kept (m := m.withTables tables) other choice) le_rfl

/-- The entries a sweep finds are the transfers of the table. -/
theorem overdue_found {t : Tables} {now : ℕ} {entry : Key × Transfer} (listed : entry ∈ t.overdue now) :
    Overdue now entry.2 ∧ ∃ task, t.transfers.get? entry.1 = some { entry.2 with task := task } := by
  obtain ⟨mem, late⟩ := List.mem_filter.mp listed
  have overdue : entry.2.createdAt + fileTransferTimeoutSeconds < now := by simpa using late
  exact ⟨overdue, entry.2.task, (Dict.get?_eq_some_iff _ _ _).mpr mem⟩

theorem expired_kept (peer : String) (m : Runtime) : Kept peer m.now m.tables (expired m).tables :=
  foldl_expire_kept _ (fun _ listed => (overdue_found listed).1) fun _ listed => (overdue_found listed).2

/-- After the first loop of a sweep its keys still name overdue transfers. -/
theorem expired_overdue (m : Runtime) : ∀ key ∈ dueKeys m, ∀ transfer,
    (expired m).tables.transfers.get? key = some transfer → Overdue m.now transfer := by
  rintro key listed transfer found
  obtain ⟨entry, mem, rfl⟩ := List.mem_map.mp listed
  obtain ⟨overdue, known⟩ := overdue_found mem
  obtain ⟨task, later⟩ := foldl_expire_get? m.now (m.tables.overdue m.now) known
  obtain rfl := Option.some.inj (later.symm.trans found)
  exact overdue

theorem dispatch_kept (other : sender ≠ peer) : Kept peer m.now m.tables (m.dispatch env sender body).tables := by
  unfold dispatch
  dsimp only
  split_ifs
  · exact expired_kept peer m
  · exact (expired_kept peer m).trans (afterSweep_kept (m := expired m) other (expired_overdue m)) le_rfl

/-! ## Steps -/

theorem setSessions_isolated {sessions : Dict String PeerSession}
    (same : sessions.get? peer = m.peers.sessions.get? peer) : Isolated peer m (m.setSessions sessions) :=
  ⟨le_rfl, same, rfl, .refl peer m.now m.tables⟩

theorem encryptFor_isolated (other : sender ≠ peer) (encrypted : m.encryptFor env sender body = .ok m') :
    Isolated peer m m' := by
  obtain ⟨session, frame, nonce, ciphertext, -, -, -, rfl⟩ := encryptFor_ok encrypted
  exact ⟨le_rfl, Dict.get?_insert_of_ne _ _ other, rfl, .refl peer m.now m.tables⟩

theorem dispatch_isolated (other : sender ≠ peer) : Isolated peer m (m.dispatch env sender body) :=
  isolated_of_tables dispatch_unsent.now dispatch_unsent.peers (dispatch_kept other)

theorem returned_isolated (other : ¬ Serves peer m.pc) (stepped : m.returned result = some m') : Isolated peer m m' := by
  have unsent := returned_unsent stepped
  refine isolated_of_tables unsent.now unsent.peers ?_
  unfold returned at stepped
  split at stepped
  · split at stepped
    · cases stepped
      rw [raises_tables]
      exact .refl peer m.now m.tables
    · cases stepped
      rw [respond_tables]
      exact .refl peer m.now m.tables
  · rename_i sender wisp operationId on
    rw [on] at other
    dsimp only at stepped
    split at stepped
    · rename_i e cause
      cases stepped
      exact abandon_kept (m := m.record (.finished (sender, operationId) m.now)) other e
    · cases stepped
      rw [respond_tables]
      have deactivated :
          Kept peer m.now m.tables { m.tables with active := m.tables.active.erase (sender, operationId) } :=
        deactivate_kept other m.now m.tables
      split
      · exact deactivated.trans (remember_kept other m.now) le_rfl
      · exact deactivated
  · cases stepped

theorem drained_isolated {written : Bool} (other : ¬ Serves peer m.pc) (stepped : m.loopDrained written = some m') :
    Isolated peer m m' := by
  unfold loopDrained at stepped
  split at stepped
  · cases stepped
    exact isolated_of_same rfl rfl rfl
  · rename_i after on
    rw [on] at other
    cases stepped
    cases written with
    | false => exact isolated_of_same rfl rfl rfl
    | true =>
      cases after with
      | done => exact isolated_of_same rfl rfl rfl
      | transfer key =>
        refine isolated_of_tables rfl rfl (.of_same (fun _ => Iff.rfl) (fun id => ?_) fun _ => rfl)
        refine (Dict.get?_modify _ _ _ _).trans (if_neg ?_)
        rintro rfl
        exact other rfl
  · cases stepped

theorem worked_isolated {key : Key} {transfer : Transfer} {task : Task} (other : key.1 ≠ peer)
    (worked : Worked env m key transfer task m') : Isolated peer m m' := by
  obtain ⟨sender, operationId⟩ := key
  have inserts : ∀ (t : Tables) value, Kept peer m.now t
      { t with transfers := t.transfers.insert (sender, operationId) value } := fun t value =>
    .of_same (fun _ => Iff.rfl) (fun id => Dict.get?_insert_of_ne _ _ (other_key other _ id)) fun _ => rfl
  have erases : ∀ t : Tables, Kept peer m.now t { t with transfers := t.transfers.erase (sender, operationId) } :=
    fun t => .of_same (fun _ => Iff.rfl) (fun id => Dict.get?_erase_of_ne _ (other_key other _ id)) fun _ => rfl
  have fails : ∀ n : Runtime, n.tables = m.tables → n.now = m.now → n.peers = m.peers → ∀ cause,
      Isolated peer m (n.workerFails (sender, operationId) transfer cause) := by
    intro n tables now peers cause
    refine isolated_of_tables now peers ?_
    rw [← tables]
    exact (remember_kept other n.now).trans (inserts _ _) le_rfl
  cases worked with
  | unborn cancelled on => exact isolated_of_tables rfl rfl (inserts _ _)
  | orphaned cancelled on => exact isolated_of_tables rfl rfl (erases _)
  | stops cancelled idle => exact isolated_of_tables rfl rfl (erases _)
  | proceeds alive next on =>
    unfold workerProceeds
    split_ifs
    · exact isolated_of_tables rfl rfl (inserts _ _)
    · exact isolated_of_tables rfl rfl (inserts _ _)
  | fails alive index cause on => exact fails m rfl rfl rfl cause
  | returns alive on result =>
    unfold workerReturns
    split
    · exact fails (m.record (.finished (sender, operationId) m.now)) rfl rfl rfl _
    · dsimp only
      split_ifs
      · exact isolated_of_tables rfl rfl ((remember_kept other m.now).trans (inserts _ _) le_rfl)
      · exact isolated_of_tables rfl rfl ((remember_kept other m.now).trans (erases _) le_rfl)
  | sends alive body sealed on encrypted =>
    have first := encryptFor_isolated other encrypted
    obtain ⟨session, frame, nonce, ciphertext, -, -, -, rfl⟩ := encryptFor_ok encrypted
    exact first.trans (isolated_of_tables rfl rfl (inserts _ _))
  | ends alive body on => exact isolated_of_tables rfl rfl (erases _)

theorem onSessionEnvelope_isolated {message : Json} (other : message.get "sender" ≠ .str peer) :
    Isolated peer m (m.onSessionEnvelope env message) := by
  unfold onSessionEnvelope
  split
  · rename_i sender from_sender
    have apart : sender ≠ peer := by
      rintro rfl
      exact other from_sender
    split
    · exact isolated_of_same rfl rfl rfl
    · split
      · exact (setSessions_isolated (Dict.get?_erase_of_ne _ apart)).trans (isolated_of_same rfl rfl rfl)
      · exact (setSessions_isolated (Dict.get?_insert_of_ne _ _ apart)).trans (dispatch_isolated apart)
  · split_ifs
    · exact isolated_of_same (raises_unsent m _).now (raises_unsent m _).peers (raises_tables m _)
    · exact isolated_of_same rfl rfl rfl

theorem onEnvelope_isolated {message : Json} (other : message.get "sender" ≠ .str peer) :
    Isolated peer m (m.onEnvelope env message) := by
  have handled : ∀ {peers outcome}, Handled env m.peers message m.now peers outcome →
      Isolated peer m { m with peers := peers } := by
    have pinned : ∀ {sender key}, message.get "sender" = .str sender →
        (Peers.pin m.peers sender key).keys.get? peer = m.peers.keys.get? peer := by
      intro sender key from_sender
      unfold Peers.pin
      split_ifs
      · refine Dict.get?_insert_of_ne _ _ ?_
        rintro rfl
        exact other from_sender
      · rfl
    intro peers outcome handled
    cases handled with
    | refused e => exact isolated_of_same rfl rfl rfl
    | pinned e sender key body from_sender decrypted unread =>
      exact ⟨le_rfl, by rw [pin_sessions], pinned from_sender, .refl peer m.now m.tables⟩
    | accepted sender key body init from_sender to_self decrypted carries =>
      refine ⟨le_rfl, Dict.get?_insert_of_ne _ _ ?_, pinned from_sender, .refl peer m.now m.tables⟩
      rintro rfl
      exact other from_sender
  unfold onEnvelope
  split
  · rename_i outcome
    exact (handled (handleEnvelope_handled outcome)).trans (isolated_of_same rfl rfl rfl)
  · rename_i outcome
    have isolated := handled (handleEnvelope_handled outcome)
    split
    · split
      · exact isolated.trans (isolated_of_same rfl rfl rfl)
      · exact isolated.trans (isolated_of_same rfl rfl rfl)
    · exact isolated.trans (isolated_of_same rfl rfl rfl)

theorem onFrame_isolated {message : Json} (other : message.get "sender" ≠ .str peer) :
    Isolated peer m (m.onFrame env message) := by
  unfold onFrame
  split_ifs
  · split
    · split_ifs
      · exact isolated_of_same rfl rfl rfl
      · exact isolated_of_same rfl rfl rfl
    · exact isolated_of_same rfl rfl rfl
  · exact onEnvelope_isolated other
  · exact onSessionEnvelope_isolated other
  · unfold onSessionReset
    split_ifs
    · exact isolated_of_same rfl rfl rfl
    · split
      · rename_i sender from_sender
        have apart : sender ≠ peer := by
          rintro rfl
          exact other from_sender
        exact (setSessions_isolated (Dict.get?_erase_of_ne _ apart)).trans (isolated_of_same rfl rfl rfl)
      · split_ifs
        · exact isolated_of_same rfl rfl rfl
        · exact isolated_of_same rfl rfl rfl
  · exact isolated_of_same rfl rfl rfl
  · exact isolated_of_same rfl rfl rfl

/-- A step that is not for a peer leaves it as it is, apart from what has expired. -/
theorem step_isolated {event : Event} (due : SweepDue m) (other : ¬ ActsFor peer m event)
    (stepped : m.step env event = some m') : Isolated peer m m' := by
  cases event with
  | tick seconds =>
    cases stepped
    exact ⟨Nat.le_add_right _ _, rfl, rfl, .refl peer _ m.tables⟩
  | frame message =>
    simp only [Runtime.step] at stepped
    split_ifs at stepped
    cases stepped
    exact onFrame_isolated other
  | eof =>
    simp only [Runtime.step] at stepped
    split_ifs at stepped
    cases stepped
    exact isolated_of_same rfl rfl rfl
  | reconnect =>
    simp only [Runtime.step] at stepped
    split_ifs at stepped
    cases stepped
    exact isolated_of_same rfl rfl rfl
  | swept =>
    simp only [Runtime.step] at stepped
    split at stepped
    · rename_i sender body keys on
      split_ifs at stepped
      cases stepped
      have apart : sender ≠ peer := fun same => other (by simp [ActsFor, on, Serves, same])
      exact isolated_of_tables afterSweep_unsent.now afterSweep_unsent.peers
        (afterSweep_kept apart (due sender body keys on))
    · cases stepped
  | returns result => exact returned_isolated other stepped
  | send =>
    simp only [Runtime.step, loopSend] at stepped
    split at stepped
    · rename_i sender body after on
      have apart : sender ≠ peer := fun same => other (by simp [ActsFor, on, Serves, same])
      split at stepped
      · rename_i sealed encrypted
        cases stepped
        exact (encryptFor_isolated apart encrypted).trans (isolated_of_same rfl rfl rfl)
      · cases stepped
        exact isolated_of_same (raises_unsent m _).now (raises_unsent m _).peers (raises_tables m _)
    · cases stepped
  | drained written => exact drained_isolated other stepped
  | worker key move =>
    obtain ⟨transfer, task, -, -, worked⟩ := worker_worked stepped
    exact worked_isolated other worked
  | orphanEnds key =>
    simp only [Runtime.step] at stepped
    split_ifs at stepped
    cases stepped
    exact isolated_of_same rfl rfl rfl

/-! ## Runs -/

theorem raises_idle (m : Runtime) (e : PyError) (sender : String) (body : Json) (due : List Key) :
    (m.raises e).pc ≠ .sweeping sender body due := by
  rcases raises_pc m e with pc | pc <;> simp [pc]

theorem respond_idle (keys : List Key) (peer : String) :
    (m.respond sender wisp result).pc ≠ .sweeping peer body keys := by
  unfold respond
  split_ifs
  · rintro ⟨⟩
  · exact raises_idle _ _ _ _ _

theorem act_idle (choice : Choice) (keys : List Key) (peer : String) :
    (m.act sender choice).pc ≠ .sweeping peer body keys := by
  cases choice with
  | unhashable => exact raises_idle _ _ _ _ _
  | action wisp operationId actionData =>
    simp only [act]
    split
    · exact raises_idle _ _ _ _ _
    · rintro ⟨⟩
  | _ => rintro ⟨⟩

theorem dispatch_sweepDue : SweepDue (m.dispatch env sender body) := by
  unfold dispatch
  dsimp only
  split_ifs
  · rintro sender body due on
    cases on
    exact expired_overdue m
  · rintro peer other due on
    exact absurd on (act_idle _ _ _)

theorem onFrame_sweepDue {message : Json} : SweepDue (m.onFrame env message) := by
  have away : ∀ {n : Runtime}, (∀ sender body due, n.pc ≠ .sweeping sender body due) → SweepDue n :=
    fun idle sender body due on => absurd on (idle sender body due)
  have goes : ∀ (n : Runtime) pc, (∀ sender body due, pc ≠ .sweeping sender body due) → SweepDue (n.goto pc) :=
    fun n pc idle => away idle
  unfold onFrame
  split_ifs
  · split
    · split_ifs
      · exact goes _ _ (by simp)
      · exact goes _ _ (by simp)
    · exact goes _ _ (by simp)
  · unfold onEnvelope
    split
    · exact goes _ _ (by simp)
    · split
      · split
        · exact goes _ _ (by simp)
        · exact goes _ _ (by simp)
      · exact goes _ _ (by simp)
  · unfold onSessionEnvelope
    split
    · split
      · exact goes _ _ (by simp)
      · split
        · exact goes _ _ (by simp)
        · exact dispatch_sweepDue
    · split_ifs
      · exact away fun _ _ _ => raises_idle _ _ _ _ _
      · exact goes _ _ (by simp)
  · unfold onSessionReset
    split_ifs
    · exact goes _ _ (by simp)
    · split
      · exact goes _ _ (by simp)
      · split_ifs
        · exact goes _ _ (by simp)
        · exact goes _ _ (by simp)
  · exact goes _ _ (by simp)
  · exact goes _ _ (by simp)

/-- The transfers after a step of a worker are those before it, with other tasks. -/
theorem worked_transfers {key other : Key} {transfer later : Transfer} {task : Task}
    (found : m.tables.transfers.get? key = some transfer) (worked : Worked env m key transfer task m')
    (read : m'.tables.transfers.get? other = some later) :
    ∃ earlier task, m.tables.transfers.get? other = some earlier ∧ later = { earlier with task := task } := by
  have inserted : ∀ {task}, (m.tables.transfers.insert key { transfer with task := task }).get? other = some later →
      ∃ earlier task, m.tables.transfers.get? other = some earlier ∧ later = { earlier with task := task } := by
    intro task read
    rw [Dict.get?_insert] at read
    split_ifs at read with same
    · cases read
      exact ⟨transfer, task, same ▸ found, rfl⟩
    · exact ⟨later, later.task, read, rfl⟩
  have erased : (m.tables.transfers.erase key).get? other = some later →
      ∃ earlier task, m.tables.transfers.get? other = some earlier ∧ later = { earlier with task := task } := by
    intro read
    rw [Dict.get?_erase] at read
    split_ifs at read
    exact ⟨later, later.task, read, rfl⟩
  have remembered : ∀ body, (m.tables.remember key.1 key.2 body m.now).transfers = m.tables.transfers :=
    fun body => remember_transfers _ _ body
  have replaces : ∀ (body : Json) task, ((m.tables.remember key.1 key.2 body m.now).transfers.insert key
      { transfer with task := task }).get? other = some later →
      ∃ earlier task, m.tables.transfers.get? other = some earlier ∧ later = { earlier with task := task } := by
    intro body task read
    rw [remembered] at read
    exact inserted read
  cases worked with
  | unborn cancelled on => exact inserted read
  | orphaned cancelled on => exact erased read
  | stops cancelled idle => exact erased read
  | proceeds alive next on =>
    unfold workerProceeds at read
    split_ifs at read
    · exact inserted read
    · exact inserted read
  | fails alive index cause on => exact replaces _ _ read
  | returns alive on result =>
    unfold workerReturns at read
    split at read
    · exact replaces _ _ read
    · dsimp only at read
      split_ifs at read
      · exact replaces _ _ read
      · refine erased ?_
        rw [← remembered]
        exact read
  | sends alive body sealed on encrypted =>
    obtain ⟨session, frame, nonce, ciphertext, -, -, -, rfl⟩ := encryptFor_ok encrypted
    exact inserted read
  | ends alive body on => exact erased read

theorem step_sweepDue {event : Event} (due : SweepDue m) (stepped : m.step env event = some m') : SweepDue m' := by
  have goes : ∀ (n : Runtime) pc, (∀ sender body due, pc ≠ .sweeping sender body due) → SweepDue (n.goto pc) :=
    fun n pc idle sender body due on => absurd on (idle sender body due)
  cases event with
  | tick seconds =>
    cases stepped
    intro sender body keys on key listed transfer found
    exact (due sender body keys on key listed transfer found).later (Nat.le_add_right _ _)
  | frame message =>
    simp only [Runtime.step] at stepped
    split_ifs at stepped
    cases stepped
    exact onFrame_sweepDue
  | eof =>
    simp only [Runtime.step] at stepped
    split_ifs at stepped
    cases stepped
    exact goes _ _ (by simp)
  | reconnect =>
    simp only [Runtime.step] at stepped
    split_ifs at stepped
    cases stepped
    exact goes _ _ (by simp)
  | swept =>
    simp only [Runtime.step] at stepped
    split at stepped
    · split_ifs at stepped
      cases stepped
      exact fun sender body due on => absurd on (act_idle _ _ _)
    · cases stepped
  | returns result =>
    simp only [Runtime.step, returned] at stepped
    split at stepped
    · split at stepped
      · cases stepped
        exact fun sender body due on => absurd on (raises_idle _ _ _ _ _)
      · cases stepped
        exact fun sender body due on => absurd on (respond_idle _ _)
    · split at stepped
      · cases stepped
        exact fun sender body due on => absurd on (raises_idle _ _ _ _ _)
      · cases stepped
        exact fun sender body due on => absurd on (respond_idle _ _)
    · cases stepped
  | send =>
    simp only [Runtime.step, loopSend] at stepped
    split at stepped
    · split at stepped
      · cases stepped
        exact goes _ _ (by simp)
      · cases stepped
        exact fun sender body due on => absurd on (raises_idle _ _ _ _ _)
    · cases stepped
  | drained written =>
    simp only [Runtime.step, loopDrained] at stepped
    split at stepped
    · cases stepped
      cases written with
      | false => exact goes _ _ (by simp)
      | true => exact goes _ _ (by simp)
    · rename_i after on
      cases stepped
      cases written with
      | false => exact goes _ _ (by simp)
      | true =>
        cases after with
        | done => exact goes _ _ (by simp)
        | transfer key => exact goes _ _ (by simp)
    · cases stepped
  | worker key move =>
    obtain ⟨transfer, task, found, -, worked⟩ := worker_worked stepped
    intro sender body keys on other listed later read
    rw [worked_pc worked] at on
    obtain ⟨earlier, task', known, rfl⟩ := worked_transfers found worked read
    have overdue : Overdue m.now earlier := due sender body keys on other listed earlier known
    have same : m'.now = m.now := by
      cases worked with
      | proceeds alive next on => exact (workerProceeds_unsent m key transfer next).now
      | returns alive on result => exact (workerReturns_unsent _ key transfer result).now
      | sends alive body sealed on encrypted =>
        obtain ⟨session, frame, nonce, ciphertext, -, -, -, rfl⟩ := encryptFor_ok encrypted
        rfl
      | _ => rfl
    rw [same]
    exact overdue
  | orphanEnds key =>
    simp only [Runtime.step] at stepped
    split_ifs at stepped
    cases stepped
    exact due

theorem trail_sweepDue {taken : List (Runtime × Event)} (due : SweepDue m) (run : Trail (Runtime.step env) m taken m') :
    SweepDue m' := by
  induction run with
  | nil => exact due
  | next before stepped ih => exact step_sweepDue ih stepped

/-- Steps that are not for a peer leave it as it is, apart from what has expired. -/
theorem trail_isolated {taken : List (Runtime × Event)} (due : SweepDue m) (run : Trail (Runtime.step env) m taken m')
    (others : ∀ at_step ∈ taken, ¬ ActsFor peer at_step.1 at_step.2) : Isolated peer m m' := by
  induction run with
  | nil => exact .refl peer m
  | next before stepped ih =>
    rw [List.forall_mem_cons] at others
    exact (ih others.2).trans (step_isolated (trail_sweepDue due before) others.1 stepped)

end Steps

/-! ## Two lines -/

/-- The runtime of a Wisp that knows nobody. -/
def quietEnv : Env := { sampleEnv with aead := paddedAead, hkdf := constantHkdf }

end WispGate.Soundness.Isolation
