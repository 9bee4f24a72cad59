import WispGate.Soundness.Catalogs
import WispGate.Soundness.Removal

/-! # Registrations as a whole

What a registration is for, as one replacement of the sender's manifests, and when the handler does it
or nothing. The old manifests go before the new items are examined, and an item that raises ends the
loop where it stands; an exception after the loop finds the replacement saved.
-/

namespace WispGate.Soundness.Replacement

open Data Model Model.Relay Model.Relay.RelayState Model.Relay.RelayRuntime Machine Catalogs

/-! ## The replacement -/

/-- The manifest an item asks for. -/
def listed (clientId : String) (item : Json) : Manifest where
  id := item.get "id"
  name := item.getD "name" (item.get "id")
  description := item.getD "description" (.str "")
  owner := .str clientId

/-- An object whose id is falsy or can be a key. -/
def usable (item : Json) : Bool :=
  item.isObj && (!(item.get "id").truthy || (item.get "id").hashKey?.isSome)

def store (clientId : String) (wisps : Dict Json WispEntry) (item : Json) : Dict Json WispEntry :=
  match if (item.get "id").truthy then (item.get "id").hashKey? else none with
  | some hash => putWisp wisps (item.get "id") hash (listed clientId item)
  | none => wisps

/-- The Wisp table with the manifests of a client replaced by the listed ones. -/
def replacement (s : RelayState) (clientId : String) (items : List Json) : Dict Json WispEntry :=
  items.foldl (store clientId) (s.removeWispsForOwner clientId).wisps

/-! ## What the claim is about -/

/-- The manifests are replaced, saved and acknowledged. -/
structure Replaced (m m' : Machine) (conn : ConnId) (clientId : String) (items : List Json) : Prop where
  table : m'.runtime.state.wisps = replacement m.runtime.state clientId items
  saved : m'.runtime.state.file = some m'.runtime.state.snapshot
  acknowledged : ∃ response, m'.log = .wrote conn response :: m.log ∧ response.get "type" = .str "wisps_registered"

/-- The Wisp table is as it was, in memory and on disk. -/
structure Untouched (m m' : Machine) : Prop where
  table : m'.runtime.state.wisps = m.runtime.state.wisps
  disk : m'.runtime.state.file.map (·.wisps) = m.runtime.state.file.map (·.wisps)

/-- What a message's items visit. -/
def itemsOf (message : Json) : Option (List Json) := (message.getD "items" (.arr [])).iterate?

def Atomic (env : Env) (m : Machine) (conn : ConnId) (c : Connection) (clientId : String) (message : Json) : Prop :=
  (∃ items, itemsOf message = some items ∧
    Replaced m (m.onRegistration env conn c clientId message) conn clientId items) ∨
    Untouched m (m.onRegistration env conn c clientId message)

/-! ## Conditions -/

/-- The key that is recorded for a client, null without one. -/
def recordedKey (s : RelayState) (clientId : String) : Json :=
  ((s.clients.get? clientId).getD {}).publicKey.getD .null

/-- The message is refused before the table is touched: its items do not iterate, the ids in the table
do not compare, or it names another key than the recorded one. -/
def Refused (s : RelayState) (clientId : String) (message : Json) : Prop :=
  itemsOf message = none ∨ Json.sortable (wispKeys s) = false ∨
    ((message.get "client_public_key").truthy = true ∧ recordedKey s clientId ≠ .null ∧
      (recordedKey s clientId).pyEq (message.get "client_public_key") = false)

/-- Every item is usable, and of the table that lists them the owners can be looked up and the ids
compared. -/
def Complete (s : RelayState) (clientId : String) (items : List Json) : Prop :=
  items.all usable = true ∧ Clear (replacement s clientId items) ∧
    Json.sortable ((replacement s clientId items).values.map (·.key)) = true

/-- The items before the first that is not usable list what the table holds already, and if there is
none such, so does the file. -/
def Idle (s : RelayState) (clientId : String) (items : List Json) : Prop :=
  replacement s clientId (items.takeWhile usable) = s.wisps ∧
    (items.all usable = true → s.file.map (·.wisps) = some s.snapshot.wisps)

/-! ## The loop -/

section Loop

variable {clientId : String} {item : Json} {items : List Json}

theorem registerItem_usable (wisps : Dict Json WispEntry) (fits : usable item = true) :
    registerItem wisps clientId item = .ok (store clientId wisps item) := by
  simp only [usable, Bool.and_eq_true, Bool.or_eq_true, Bool.not_eq_true'] at fits
  obtain ⟨object, fits⟩ := fits
  unfold registerItem store
  rw [if_neg (by simp [object])]
  rcases fits with falsy | hashed
  · simp [falsy]
  · obtain ⟨hash, key⟩ := Option.isSome_iff_exists.mp hashed
    by_cases truthy : (item.get "id").truthy = true
    · simp only [truthy, not_true_eq_false, if_false, if_true, key, listed]
    · simp [truthy]

theorem registerItem_unusable (wisps : Dict Json WispEntry) (unfit : usable item = false) :
    ∃ e, registerItem wisps clientId item = .error e := by
  unfold registerItem
  by_cases object : item.isObj = true
  · simp only [usable, object, Bool.true_and, Bool.or_eq_false_iff, Bool.not_eq_false', Option.isSome_eq_false_iff,
      Option.isNone_iff_eq_none] at unfit
    simp [object, unfit.1, unfit.2]
  · simp [object]

theorem registerItems_usable (wisps : Dict Json WispEntry) (fits : items.all usable = true) :
    registerItems wisps clientId items = (items.foldl (store clientId) wisps, none) := by
  induction items generalizing wisps with
  | nil => rfl
  | cons item rest ih =>
    simp only [List.all_cons, Bool.and_eq_true] at fits
    simp only [registerItems, registerItem_usable wisps fits.1, ih _ fits.2, List.foldl_cons]

/-- The loop stops at the first item that is not usable. -/
theorem registerItems_stops (wisps : Dict Json WispEntry) (unfit : items.all usable = false) :
    ∃ e, registerItems wisps clientId items = ((items.takeWhile usable).foldl (store clientId) wisps, some e) := by
  induction items generalizing wisps with
  | nil => cases unfit
  | cons item rest ih =>
    cases first : usable item with
    | false =>
      obtain ⟨e, raised⟩ := @registerItem_unusable clientId item wisps first
      exact ⟨e, by simp [registerItems, raised, first]⟩
    | true =>
      obtain ⟨e, raised⟩ := ih (store clientId wisps item) (by simpa [first] using unfit)
      exact ⟨e, by simp [registerItems, registerItem_usable wisps first, raised, first]⟩

end Loop

/-! ## The section -/

section Section

variable {env : Env} {rt : RelayRuntime} {now : ℕ} {clientId : String} {items : List Json} {message : Json}

theorem replaceWisps_stops (unfit : items.all usable = false) : ∃ rt' e,
    rt.replaceWisps env now clientId items = (rt', .error e) ∧
      rt'.state.wisps = replacement rt.state clientId (items.takeWhile usable) ∧ rt'.state.file = rt.state.file := by
  obtain ⟨e, raised⟩ := @registerItems_stops clientId items (rt.state.removeWispsForOwner clientId).wisps unfit
  unfold replaceWisps
  dsimp only
  rw [raised]
  exact ⟨_, e, rfl, rfl, rfl⟩

/-- A loop that completes is saved, and answered if there is a catalog and the ids compare. -/
theorem replaceWisps_completes (fits : items.all usable = true) : ∃ rt' outcome,
    rt.replaceWisps env now clientId items = (rt', outcome) ∧ rt'.state.wisps = replacement rt.state clientId items ∧
      rt'.state.file = some rt'.state.snapshot ∧
      ((∃ response, outcome = .ok response ∧ response.get "type" = .str "wisps_registered") ∨ ∃ e, outcome = .error e) ∧
      ((∃ response, outcome = .ok response) ↔ Complete rt.state clientId items) := by
  have whole := @registerItems_usable clientId items (rt.state.removeWispsForOwner clientId).wisps fits
  let state : RelayState := { rt.state.removeWispsForOwner clientId with wisps := replacement rt.state clientId items }
  let rt' : RelayRuntime := { rt with state := state.save }
  have keys : wispKeys rt'.state = (replacement rt.state clientId items).values.map (·.key) := rfl
  have raised : ∀ e, rt'.catalogItems env now (some clientId) = .error e →
      rt.replaceWisps env now clientId items = (rt', .error e) := by
    intro e there
    unfold replaceWisps
    dsimp only
    rw [whole]
    dsimp only
    split
    · rename_i same
      cases there.symm.trans same
      rfl
    · rename_i same
      cases there.symm.trans same
  have replaced : ∀ catalog, rt'.catalogItems env now (some clientId) = .ok catalog →
      rt.replaceWisps env now clientId items = if ¬ Json.sortable (wispKeys rt'.state) then (rt', .error .type)
        else (rt', .ok (answer [("type", .str "wisps_registered"), ("items", .arr catalog)])) := by
    intro catalog there
    unfold replaceWisps
    dsimp only
    rw [whole]
    dsimp only
    split
    · rename_i same
      cases there.symm.trans same
    · rename_i same
      cases there.symm.trans same
      rfl
  cases there : rt'.catalogItems env now (some clientId) with
  | error e =>
    rw [raised e there]
    refine ⟨rt', .error e, rfl, rfl, rfl, .inr ⟨e, rfl⟩, ?_⟩
    simp only [reduceCtorEq, exists_false, false_iff]
    rintro ⟨-, clear, -⟩
    obtain ⟨catalog, listed⟩ := (@catalogItems_defined env rt' now (some clientId)).mpr clear
    rw [there] at listed
    cases listed
  | ok catalog =>
    have clear : Clear (replacement rt.state clientId items) := catalogItems_defined.mp ⟨catalog, there⟩
    rw [replaced catalog there, keys]
    split_ifs with sorted
    · exact ⟨rt', _, rfl, rfl, rfl, .inl ⟨_, rfl, rfl⟩, fun _ => ⟨fits, clear, sorted⟩, fun _ => ⟨_, rfl⟩⟩
    · refine ⟨rt', _, rfl, rfl, rfl, .inr ⟨_, rfl⟩, ?_⟩
      simp only [reduceCtorEq, exists_false, false_iff]
      rintro ⟨-, -, sortable⟩
      exact sorted sortable

/-- A message is refused and changes nothing, or its items are registered. -/
theorem registerWisps_refuses (refused : Refused rt.state clientId message) :
    ∃ e, rt.registerWisps env now clientId message = (rt, .error e) := by
  unfold registerWisps
  rcases refused with fixed | unsorted | ⟨truthy, known, other⟩
  · have fixed : (message.getD "items" (.arr [])).iterate? = none := fixed
    exact ⟨.type, by rw [fixed]⟩
  · split
    · exact ⟨_, rfl⟩
    · rw [if_pos (by simp [unsorted])]
      exact ⟨_, rfl⟩
  · have refuses : rt.state.registerClient clientId (message.get "client_public_key") true now = .error .value := by
      unfold registerClient
      dsimp only
      rw [if_pos]
      exact ⟨known, by simpa [recordedKey] using other⟩
    rw [refuses]
    split
    · exact ⟨_, rfl⟩
    · rw [if_pos truthy]
      split_ifs
      · exact ⟨_, rfl⟩
      · exact ⟨_, rfl⟩

theorem registerWisps_replaces (accepted : ¬ Refused rt.state clientId message) :
    ∃ (items : List Json) (rt' : RelayRuntime),
    itemsOf message = some items ∧ rt'.state.wisps = rt.state.wisps ∧ rt'.state.file = rt.state.file ∧
      rt.registerWisps env now clientId message = rt'.replaceWisps env now clientId items := by
  simp only [Refused, not_or] at accepted
  obtain ⟨some_items, sorted, key⟩ := accepted
  obtain ⟨items, listed⟩ := Option.ne_none_iff_exists'.mp some_items
  have iterates : (message.getD "items" (.arr [])).iterate? = some items := listed
  unfold registerWisps
  rw [iterates]
  dsimp only
  rw [if_neg (by simpa using sorted)]
  split_ifs with truthy
  · have recorded : ∃ s, rt.state.registerClient clientId (message.get "client_public_key") true now = .ok s ∧
        s.wisps = rt.state.wisps ∧ s.file = rt.state.file := by
      unfold registerClient
      dsimp only
      rw [if_neg fun other => key ⟨truthy, other.1, by simpa [recordedKey] using other.2⟩]
      exact ⟨_, rfl, rfl, rfl⟩
    obtain ⟨s, recorded, wisps, file⟩ := recorded
    rw [recorded]
    exact ⟨items, { rt with state := s }, listed, wisps, file, rfl⟩
  · exact ⟨items, rt, listed, rfl, rfl, rfl⟩

end Section

/-! ## The handler -/

section Handler

variable {env : Env} {m : Machine} {conn : ConnId} {c : Connection} {clientId : String} {message : Json}

/-- An exception in a control handler leaves the durable state alone and acknowledges nothing. -/
theorem raises_control (control : c.port = .control) (e : PyError) :
    (m.raises env conn c e).runtime.state = m.runtime.state ∧
      ∀ response, (m.raises env conn c e).log = .wrote conn response :: m.log → response.get "type" = .null := by
  unfold raises
  split_ifs
  · refine ⟨rfl, fun response logged => ?_⟩
    obtain ⟨same, -⟩ := List.cons.inj (show .wrote conn (refusal "invalid_bootstrap") :: m.log = _ from logged)
    obtain ⟨-, rfl⟩ := Entry.wrote.inj same
    rfl
  · unfold finish
    rw [control]
    split
    · rename_i wrong _
      cases wrong
    · split_ifs
      · exact ⟨rfl, fun response logged => absurd logged.symm (List.cons_ne_self _ _)⟩
      · exact ⟨rfl, fun response logged => absurd logged.symm (List.cons_ne_self _ _)⟩
    · exact ⟨rfl, fun response logged => absurd logged.symm (List.cons_ne_self _ _)⟩

/-- A registration that raises is atomic if and only if it left the table and the file alone. -/
theorem atomic_raised {rt : RelayRuntime} {e : PyError} (control : c.port = .control)
    (kind : message.get "type" = .str "wisps")
    (result : m.runtime.registerWisps env m.now clientId message = (rt, .error e)) :
    Atomic env m conn c clientId message ↔ rt.state.wisps = m.runtime.state.wisps ∧
      rt.state.file.map (·.wisps) = m.runtime.state.file.map (·.wisps) := by
  have object : message.isObj = true := by
    cases message <;> first | rfl | cases kind
  have handled : m.onRegistration env conn c clientId message = (m.withRuntime rt).raises env conn c e := by
    simp [onRegistration, object, kind, result]
  obtain ⟨state, unanswered⟩ := @raises_control env (m.withRuntime rt) conn c control e
  have state : ((m.withRuntime rt).raises env conn c e).runtime.state = rt.state := state
  unfold Atomic
  rw [handled]
  constructor
  · rintro (⟨items, -, replaced⟩ | untouched)
    · obtain ⟨response, logged, type⟩ := replaced.acknowledged
      rw [unanswered response logged] at type
      cases type
    · exact ⟨by rw [← state, untouched.table], by rw [← state, untouched.disk]⟩
  · rintro ⟨table, disk⟩
    exact .inr ⟨by rw [state, table], by rw [state, disk]⟩

/-- A control handler's registration replaces, saves and acknowledges, or leaves the table in memory and
on disk alone, if and only if the message is refused before the table is touched, or all of its items
are usable and list a table with a catalog, or those the loop gets to list what is there already. -/
theorem atomic_iff (env : Env) (m : Machine) (conn : ConnId) (c : Connection) (clientId : String) (message : Json)
    (control : c.port = .control) (kind : message.get "type" = .str "wisps") :
    Atomic env m conn c clientId message ↔ Refused m.runtime.state clientId message ∨
      ∃ items, itemsOf message = some items ∧
        (Complete m.runtime.state clientId items ∨ Idle m.runtime.state clientId items) := by
  by_cases refused : Refused m.runtime.state clientId message
  · obtain ⟨e, result⟩ := @registerWisps_refuses env m.runtime m.now clientId message refused
    simp [atomic_raised control kind result, refused]
  obtain ⟨items, rt, listed, wisps, file, result⟩ := @registerWisps_replaces env m.runtime m.now clientId message refused
  have same : ∀ items, replacement rt.state clientId items = replacement m.runtime.state clientId items := by
    intro items
    simp only [replacement, removeWispsForOwner, wisps]
  simp only [refused, listed, Option.some.injEq, exists_eq_left', false_or]
  cases fits : items.all usable with
  | false =>
    obtain ⟨rt', e, stops, table, disk⟩ := @replaceWisps_stops env rt m.now clientId items fits
    rw [atomic_raised control kind (result.trans stops), table, disk, file, same]
    simp [Complete, Idle, fits]
  | true =>
    obtain ⟨rt', outcome, completes, table, saved, outcomes, answered⟩ :=
      @replaceWisps_completes env rt m.now clientId items fits
    have complete : Complete rt.state clientId items ↔ Complete m.runtime.state clientId items := by
      simp only [Complete, same]
    rw [same] at table
    have whole : items.takeWhile usable = items := List.takeWhile_eq_self_iff.mpr (List.all_eq_true.mp fits)
    rcases outcomes with ⟨response, rfl, type⟩ | ⟨e, rfl⟩
    · have holds := complete.mp (answered.mp ⟨response, rfl⟩)
      refine ⟨fun _ => .inl holds, fun _ => .inl ⟨items, listed, ?_⟩⟩
      have object : message.isObj = true := by
        cases message <;> first | rfl | cases kind
      have handled : m.onRegistration env conn c clientId message =
        (m.withRuntime rt').send conn response .registered := by
        simp [onRegistration, object, kind, result.trans completes]
      rw [handled]
      exact ⟨table, saved, response, rfl, type⟩
    · have fails : ¬ Complete m.runtime.state clientId items := fun holds => by
        obtain ⟨response, contra⟩ := answered.mpr (complete.mpr holds)
        cases contra
      rw [atomic_raised control kind (result.trans completes), saved, Option.map_some]
      simp only [fails, Idle, whole, fits, false_or, forall_const]
      constructor
      · rintro ⟨unchanged, disk⟩
        refine ⟨table.symm.trans unchanged, disk.symm.trans ?_⟩
        simp only [snapshot, unchanged]
      · rintro ⟨unchanged, disk⟩
        refine ⟨table.trans unchanged, ?_⟩
        rw [disk]
        simp only [snapshot, table.trans unchanged]

end Handler

/-! ## One registration -/

/-- `alice` has joined on the control port and may register. -/
def joinedRun : List Event := (Removal.subscribing 0 "alice" "alice-key").take 10

def joinedMachine : Machine := (replay (Machine.step sampleEnv) Revocation.startedMachine joinedRun).getD {}

def joinedConnection : Connection := (joinedMachine.connections.get? 0).getD ⟨.control, none, [], false, .done⟩

def registeringMessage (items : List Json) : Json := .obj [("type", .str "wisps"), ("items", .arr items)]

theorem atomic_listed : Atomic sampleEnv joinedMachine 0 joinedConnection "alice"
    (registeringMessage [.obj [("id", .str "notes")]]) := by
  have control : joinedConnection.port = .control := by decide
  refine (atomic_iff sampleEnv joinedMachine 0 joinedConnection "alice" _ control rfl).mpr
    (.inr ⟨_, rfl, .inl ⟨rfl, ?_, ?_⟩⟩)
  · have owners : ((replacement joinedMachine.runtime.state "alice" [.obj [("id", .str "notes")]]).values.map
        (·.manifest.owner)).all (fun owner => owner.hashKey?.isSome) = true := by decide
    intro entry member truthy
    have hashed := List.all_eq_true.mp owners _ (List.mem_map_of_mem member)
    exact fun absent => by simp [absent] at hashed
  · decide

/-- A number after an item: the item is in the table, and nothing was saved or acknowledged. -/
theorem atomic_fails : ¬ ∀ (env : Env) (m : Machine), Reach (Machine.step env) anyStep (Machine.Started env) m →
    ∀ conn c message, m.connections.get? conn = some c → c.pc = .registration → c.port = .control →
      message.get "type" = .str "wisps" → Atomic env m conn c (c.clientId.getD "") message := by
  intro claim
  have reach : Reach (Machine.step sampleEnv) anyStep (Machine.Started sampleEnv) joinedMachine :=
    Reach.of_defined Revocation.startedMachine_started (by decide)
  rcases claim sampleEnv joinedMachine reach 0 joinedConnection
      (registeringMessage [.obj [("id", .str "notes")], .int 5])
      (by decide) (by decide) (by decide)
      rfl with ⟨items, -, replaced⟩ | untouched
  · exact absurd replaced.saved (by decide)
  · exact absurd untouched.table (by decide)

end WispGate.Soundness.Replacement
