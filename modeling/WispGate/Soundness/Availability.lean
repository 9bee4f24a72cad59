import WispGate.Soundness.Replacement

/-! # Whether the administrator sees the page

The management page sorts the Wisps of the online endpoints by id, and it asks of every manifest's owner
whether it is online. Ids of two kinds do not compare and a container is no key, and what an endpoint
registers is stored with the id it names. The administrator's page stays up in every run in which the
manifests that are brought go with those that are there.
-/

namespace WispGate.Soundness.Availability

open Data Model Model.Relay RelayState RelayRuntime Administration Replacement

/-! ## The page -/

/-- The manifests in a Wisp table. -/
def manifests (wisps : Dict Json WispEntry) : List Manifest := wisps.values.map (·.manifest)

/-- The owner was heard of lately. An owner that is no key was not. -/
def Online (rt : RelayRuntime) (now : ℕ) (manifest : Manifest) : Bool :=
  (rt.relayOnline now manifest.owner).toOption.getD false

/-- Every owner can be looked up, and the ids of the manifests that are online compare. -/
def Renderable (rt : RelayRuntime) (now : ℕ) : Prop :=
  (∀ manifest ∈ manifests rt.state.wisps, manifest.owner.hashKey?.isSome = true) ∧
    Json.sortable (((manifests rt.state.wisps).filter (Online rt now)).map (·.id)) = true

/-- An answer that is ok and carries the sender's record and a page. -/
def Answered (clientId : String) (outcome : Except PyError Json) : Prop :=
  ∃ record html, outcome = .ok (answer (endpointFields clientId record ++ [("html", .str html)]))

section Page

variable {env : Env} {rt : RelayRuntime} {now : ℕ} {clientId : String}

theorem relayOnline_defined (owner : Json) : (∃ online, rt.relayOnline now owner = .ok online) ↔
    owner.hashKey?.isSome = true := by
  unfold relayOnline
  cases owner with
  | str id =>
    dsimp only
    cases rt.relayLiveness.get? id <;> simp [Json.hashKey?]
  | _ => simp [Json.hashKey?]

/-- The loop over the manifests raises at an owner that is no key, and keeps those that are online. -/
theorem onlineManifests_defined (offered online : List Manifest) :
    rt.onlineManifests now offered = .ok online ↔
      (∀ manifest ∈ offered, manifest.owner.hashKey?.isSome = true) ∧ offered.filter (Online rt now) = online := by
  induction offered generalizing online with
  | nil => simp [onlineManifests]
  | cons manifest rest ih =>
    rw [List.forall_mem_cons, ← @relayOnline_defined rt now, onlineManifests]
    cases first : rt.relayOnline now manifest.owner with
    | error e => simp
    | ok heard =>
      have kept : (manifest :: rest).filter (Online rt now) =
          if heard then manifest :: rest.filter (Online rt now) else rest.filter (Online rt now) := by
        rw [List.filter_cons]
        simp [Online, first, Except.toOption]
      rw [kept]
      cases others : rt.onlineManifests now rest with
      | error e =>
        have raised : ¬ ∀ manifest ∈ rest, manifest.owner.hashKey?.isSome = true := by
          intro keys
          have ends := (ih (rest.filter (Online rt now))).mpr ⟨keys, rfl⟩
          rw [others] at ends
          cases ends
        simp [raised]
      | ok found =>
        obtain ⟨keys, rfl⟩ := (ih found).mp others
        simpa using fun _ => keys

theorem managementHtml_defined (record : ClientRecord) (endpoints : List (String × ClientRecord))
    (wisps : List Manifest) : (∃ html, managementHtml env clientId record endpoints wisps true = .ok html) ↔
      Json.sortable (wisps.map (·.id)) = true := by
  unfold managementHtml
  dsimp only
  rw [if_pos rfl]
  split_ifs with unsorted
  · simp [unsorted]
  · simpa using unsorted

/-- The administrator's request for the state is answered with the page if and only if the table can be
rendered. -/
theorem state_answered {request : Json} (admin : rt.isAdmin clientId = true) (object : request.isObj = true)
    (asked : request.get "action" = .str "state") :
    Answered clientId (rt.managementRequest env now clientId request).2 ↔ Renderable rt now := by
  obtain ⟨record, known⟩ : ∃ record, rt.state.clients.get? clientId = some record := by
    cases found : rt.state.clients.get? clientId with
    | none => simp [isAdmin, found] at admin
    | some record => exact ⟨record, rfl⟩
  have served : (rt.managementRequest env now clientId request).2 = rt.stateAnswer env now clientId record := by
    unfold managementRequest
    simp [object, asked, Json.hashKey?, Json.asStr?, ownRequest, known]
  rw [served]
  unfold stateAnswer
  dsimp only
  rw [admin, if_pos rfl, if_pos rfl]
  rw [show rt.state.wisps.values.map (·.manifest) = manifests rt.state.wisps from rfl]
  cases shown : rt.onlineManifests now (manifests rt.state.wisps) with
  | error e =>
    have unkeyed : ¬ Renderable rt now := by
      rintro ⟨keys, -⟩
      have ends := (@onlineManifests_defined rt now (manifests rt.state.wisps) _).mpr ⟨keys, rfl⟩
      rw [shown] at ends
      cases ends
    simp [Answered, unkeyed]
  | ok wisps =>
    obtain ⟨keys, rfl⟩ := (onlineManifests_defined _ _).mp shown
    have rendered : Renderable rt now ↔ Json.sortable (((manifests rt.state.wisps).filter (Online rt now)).map (·.id)) = true :=
      and_iff_right keys
    rw [rendered, ← @managementHtml_defined env clientId record rt.state.clients.entries]
    dsimp only
    cases page : managementHtml env clientId record rt.state.clients.entries
      ((manifests rt.state.wisps).filter (Online rt now)) true with
    | error e => simp [Answered]
    | ok html =>
      simp only [Except.ok.injEq, exists_eq', iff_true]
      exact ⟨record, html, rfl⟩

end Page

/-! ## What an operation brings -/

/-- Ids of one kind, and owners that are keys. -/
def Presentable (listing : List Manifest) : Prop :=
  ((∀ manifest ∈ listing, manifest.id.isStr = true) ∨ (∀ manifest ∈ listing, manifest.id.number?.isSome = true)) ∧
    ∀ manifest ∈ listing, manifest.owner.hashKey?.isSome = true

instance (s : RelayState) (clientId : String) (message : Json) : Decidable (Refused s clientId message) :=
  inferInstanceAs (Decidable (_ ∨ _ ∨ _))

/-- The manifest an administrator's `register_wisp` asks for. -/
def requested (clientId : String) (request : Json) : Manifest where
  id := request.get "id"
  name := request.getD "name" (request.get "id")
  description := request.getD "description" (.str "")
  owner := request.getD "owner" (.str clientId)

/-- The manifests an operation stores: of a registration that is not refused, those of the items before
the first that raises. -/
def brought (rt : RelayRuntime) : Operation → List Manifest
  | .register _ clientId message =>
    if Refused rt.state clientId message then []
    else ((((itemsOf message).getD []).takeWhile usable).filter fun item => (item.get "id").truthy).map (listed clientId)
  | .manage _ clientId request =>
    if rt.isAdmin clientId = true ∧ request.get "action" = .str "register_wisp" then [requested clientId request] else []
  | _ => []

/-- The manifests it leaves there: a registration replaces those of its sender. -/
def staying (rt : RelayRuntime) : Operation → List Manifest
  | .register _ clientId _ => manifests (rt.state.removeWispsForOwner clientId).wisps
  | _ => manifests rt.state.wisps

/-- What an operation brings goes with what is there. -/
def Uniform (rt : RelayRuntime) (op : Operation) : Prop :=
  brought rt op ≠ [] → Presentable (staying rt op ++ brought rt op)

instance (listing : List Manifest) : Decidable (Presentable listing) := inferInstanceAs (Decidable (_ ∧ _))

instance (rt : RelayRuntime) (op : Operation) : Decidable (Uniform rt op) := inferInstanceAs (Decidable (_ → _))

theorem Presentable.mono {listing fewer : List Manifest} (presentable : Presentable listing) (below : fewer ⊆ listing) :
    Presentable fewer := by
  obtain ⟨kinds, keys⟩ := presentable
  refine ⟨kinds.imp (fun texts manifest mem => ?_) fun numbers manifest mem => ?_, fun manifest mem => ?_⟩
  · exact texts manifest (below mem)
  · exact numbers manifest (below mem)
  · exact keys manifest (below mem)

/-- Whoever is online, the page of such a table can be rendered. -/
theorem Presentable.renderable {rt : RelayRuntime} (presentable : Presentable (manifests rt.state.wisps)) (now : ℕ) :
    Renderable rt now := by
  obtain ⟨kinds, keys⟩ := presentable
  refine ⟨keys, ?_⟩
  unfold Json.sortable
  rw [Bool.or_eq_true, Bool.or_eq_true, List.all_map, List.all_map, List.all_eq_true, List.all_eq_true]
  rcases kinds with texts | numbers
  · exact .inl (.inr fun manifest mem => texts manifest (List.mem_of_mem_filter mem))
  · exact .inr fun manifest mem => numbers manifest (List.mem_of_mem_filter mem)

/-! ## Tables and files -/

section Tables

variable {wisps : Dict Json WispEntry} {manifest : Manifest} {clientId : String}

theorem manifests_put {key hash : Json} {other : Manifest} (mem : manifest ∈ manifests (putWisp wisps key hash other)) :
    manifest = other ∨ manifest ∈ manifests wisps := by
  obtain ⟨entry, held, rfl⟩ := List.mem_map.mp mem
  rcases Dict.mem_values_of_insert held with rfl | held
  · exact .inl rfl
  · exact .inr (List.mem_map_of_mem held)

theorem manifests_filter {keep : Json → WispEntry → Bool} : manifests (wisps.filter keep) ⊆ manifests wisps := by
  intro manifest mem
  obtain ⟨entry, held, rfl⟩ := List.mem_map.mp mem
  exact List.mem_map_of_mem (Dict.mem_values_of_filter held)

/-- The loop of a registration adds manifests of its items. -/
theorem manifests_stored (items : List Json) : manifests (items.foldl (store clientId) wisps) ⊆
    manifests wisps ++ (items.filter fun item => (item.get "id").truthy).map (listed clientId) := by
  induction items generalizing wisps with
  | nil => simp
  | cons item rest ih =>
    intro manifest mem
    rw [List.foldl_cons] at mem
    have later := ih mem
    rw [List.mem_append] at later ⊢
    by_cases truthy : (item.get "id").truthy = true
    · rw [List.filter_cons, if_pos truthy, List.map_cons, List.mem_cons]
      rcases later with held | added
      · unfold store at held
        rw [if_pos truthy] at held
        cases key : (item.get "id").hashKey? with
        | none =>
          rw [key] at held
          exact .inl held
        | some hash =>
          rw [key] at held
          rcases manifests_put held with rfl | held
          · exact .inr (.inl rfl)
          · exact .inl held
      · exact .inr (.inr added)
    · rw [List.filter_cons, if_neg truthy]
      rcases later with held | added
      · simp only [store, truthy] at held
        exact .inl held
      · exact .inr added

/-- What a state file loads to. -/
theorem manifests_loaded (stored : List (String × Manifest)) :
    manifests (stored.foldl (fun wisps entry => putWisp wisps (.str entry.1) (.str entry.1) entry.2) wisps) ⊆
      manifests wisps ++ stored.map Prod.snd := by
  induction stored generalizing wisps with
  | nil => simp
  | cons entry rest ih =>
    intro manifest mem
    rw [List.foldl_cons] at mem
    rw [List.map_cons, List.mem_append, List.mem_cons]
    rcases List.mem_append.mp (ih mem) with held | added
    · rcases manifests_put held with rfl | held
      · exact .inr (.inl rfl)
      · exact .inl held
    · exact .inr (.inr added)

end Tables

/-! ## Operations -/

/-- The table and the file show a presentable listing each. -/
structure Orderly (s : RelayState) : Prop where
  memory : Presentable (manifests s.wisps)
  file : ∀ data, s.file = some data → Presentable (data.wisps.map Prod.snd)

/-- Table and file are drawn from a listing, or the file was not touched. -/
def Drawn (s t : RelayState) (listing : List Manifest) : Prop :=
  manifests t.wisps ⊆ listing ∧ (t.file = s.file ∨ ∃ data, t.file = some data ∧ data.wisps.map Prod.snd ⊆ listing)

section Operations

variable {env : Env} {s t : RelayState} {rt rt' : RelayRuntime} {op : Operation} {listing : List Manifest}

theorem Orderly.drawn (orderly : Orderly s) (presentable : Presentable listing) (drawn : Drawn s t listing) :
    Orderly t := by
  obtain ⟨table, file⟩ := drawn
  refine ⟨presentable.mono table, fun data written => ?_⟩
  rcases file with kept | ⟨stored, saved, below⟩
  · exact orderly.file data (kept ▸ written)
  · obtain rfl := Option.some.inj (saved.symm.trans written)
    exact presentable.mono below

theorem snapshot_manifests (s : RelayState) : s.snapshot.wisps.map Prod.snd = manifests s.wisps := by
  simp [snapshot, manifests]

theorem Drawn.of_stores (stores : Durability.Stores s t) : Drawn s t (manifests s.wisps) := by
  obtain ⟨same, file⟩ := stores
  refine ⟨by rw [same]; exact List.Subset.refl _, file.imp_right ?_⟩
  rintro ⟨data, written, agrees⟩
  refine ⟨data, written, ?_⟩
  rw [agrees, snapshot_manifests, same]
  exact List.Subset.refl _

/-- A table that is saved is drawn from what it was made of. -/
theorem Drawn.of_save (below : manifests t.wisps ⊆ listing) : Drawn s t.save listing := by
  refine ⟨below, .inr ⟨t.snapshot, rfl, ?_⟩⟩
  rw [snapshot_manifests]
  exact below

theorem setStatusRequest_drawn (clientId action : String) (target : Json) :
    Drawn rt.state (rt.setStatusRequest clientId action target).1.state (manifests rt.state.wisps) := by
  have unchanged := Drawn.of_stores (Durability.stores_refl rt.state)
  unfold setStatusRequest
  split
  · exact unchanged
  · rename_i name text
    split_ifs with own approves
    · exact unchanged
    · split
      · exact unchanged
      · exact unchanged
      · rename_i state success
        obtain ⟨table, file⟩ := Drawn.of_stores (Durability.setClientStatus_stores success).2
        exact ⟨List.Subset.trans manifests_filter table, file⟩
    · split
      · exact unchanged
      · exact unchanged
      · rename_i state success
        exact Drawn.of_stores (Durability.setClientStatus_stores success).2

theorem registerWispRequest_drawn (clientId : String) (request : Json) :
    Drawn rt.state (rt.registerWispRequest clientId request).1.state
      (manifests rt.state.wisps ++ [requested clientId request]) := by
  unfold registerWispRequest
  dsimp only
  split_ifs
  · obtain ⟨table, file⟩ := Drawn.of_stores (Durability.stores_refl rt.state)
    exact ⟨List.Subset.trans table (List.subset_append_left ..), .inl rfl⟩
  · refine Drawn.of_save (t := { rt.state with wisps := _ }) fun manifest mem => ?_
    rw [List.mem_append, List.mem_singleton]
    exact (manifests_put mem).symm

theorem removeWispRequest_drawn (value : Json) :
    Drawn rt.state (rt.removeWispRequest value).1.state (manifests rt.state.wisps) := by
  have unchanged := Drawn.of_stores (Durability.stores_refl rt.state)
  unfold removeWispRequest
  split
  · exact unchanged
  · dsimp only
    split_ifs
    · exact Drawn.of_save (t := { rt.state with wisps := _ }) manifests_filter
    · exact unchanged

/-- A management request stores nothing but the manifest an administrator asks for. -/
theorem manage_drawn (now : ℕ) (clientId : String) (request : Json) :
    Drawn rt.state (rt.managementRequest env now clientId request).1.state
      (manifests rt.state.wisps ++ brought rt (.manage now clientId request)) := by
  have widen : ∀ {t : RelayState} {more : List Manifest}, Drawn rt.state t (manifests rt.state.wisps) →
      Drawn rt.state t (manifests rt.state.wisps ++ more) := by
    intro t more drawn
    refine ⟨List.Subset.trans drawn.1 (List.subset_append_left ..), drawn.2.imp_right ?_⟩
    rintro ⟨data, written, below⟩
    exact ⟨data, written, List.Subset.trans below (List.subset_append_left ..)⟩
  have unchanged : ∀ more, Drawn rt.state rt.state (manifests rt.state.wisps ++ more) :=
    fun more => widen (Drawn.of_stores (Durability.stores_refl rt.state))
  unfold managementRequest
  split
  · exact unchanged _
  split
  · exact unchanged _
  dsimp only
  split_ifs with own claims admin
  · exact unchanged _
  · exact widen (Drawn.of_stores (Durability.claimAdmin_stores _ clientId))
  · refine adminRequest_cases (motive := fun result => Drawn rt.state result.1.state
        (manifests rt.state.wisps ++ brought rt (.manage now clientId request)))
      (fun _ => unchanged _) (fun _ => ?_) (fun registers => ?_) ?_
    · exact widen (setStatusRequest_drawn ..)
    · have asked : request.get "action" = .str "register_wisp" := by
        cases text : (request.get "action").asStr? with
        | none => simp [text] at registers
        | some action =>
          rw [text, Option.getD_some] at registers
          rw [(Json.asStr?_eq_some_iff ..).mp text, registers]
      have administers : rt.isAdmin clientId = true := by simpa using admin
      rw [brought, if_pos ⟨administers, asked⟩]
      exact registerWispRequest_drawn clientId request
    · exact widen (removeWispRequest_drawn _)
  · exact unchanged _

/-- A registration replaces the sender's manifests with what it brings. -/
theorem register_drawn (now : ℕ) (clientId : String) (message : Json) :
    Drawn rt.state (rt.registerWisps env now clientId message).1.state (manifests rt.state.wisps) ∨
      Drawn rt.state (rt.registerWisps env now clientId message).1.state
        (staying rt (.register now clientId message) ++ brought rt (.register now clientId message)) := by
  by_cases refused : Refused rt.state clientId message
  · obtain ⟨e, result⟩ := @registerWisps_refuses env rt now clientId message refused
    rw [result]
    exact .inl (Drawn.of_stores (Durability.stores_refl rt.state))
  · obtain ⟨items, rt', listed, wisps, file, result⟩ := @registerWisps_replaces env rt now clientId message refused
    right
    have sources : staying rt (.register now clientId message) ++ brought rt (.register now clientId message) =
        manifests (rt'.state.removeWispsForOwner clientId).wisps ++
          ((items.takeWhile usable).filter fun item => (item.get "id").truthy).map (Replacement.listed clientId) := by
      rw [staying, brought, if_neg refused, listed, Option.getD_some, removeWispsForOwner, removeWispsForOwner, wisps]
    rw [result, sources]
    cases fits : items.all usable with
    | false =>
      obtain ⟨last, e, stops, table, disk⟩ := @replaceWisps_stops env rt' now clientId items fits
      rw [stops]
      refine ⟨?_, .inl (disk.trans file)⟩
      rw [table]
      exact manifests_stored _
    | true =>
      obtain ⟨last, outcome, completes, table, saved, -⟩ := @replaceWisps_completes env rt' now clientId items fits
      rw [completes, List.takeWhile_eq_self_iff.mpr (List.all_eq_true.mp fits)]
      have below := @manifests_stored (rt'.state.removeWispsForOwner clientId).wisps clientId items
      refine ⟨table ▸ below, .inr ⟨_, saved, ?_⟩⟩
      rw [snapshot_manifests, table]
      exact below

theorem apply_orderly (orderly : Orderly rt.state) (uniform : Uniform rt op) (success : op.apply env rt = some rt') :
    Orderly rt'.state := by
  have presentable : Presentable (staying rt op ++ brought rt op) := by
    by_cases nothing : brought rt op = []
    · rw [nothing, List.append_nil]
      refine orderly.memory.mono ?_
      cases op with
      | register => exact manifests_filter
      | _ => exact List.Subset.refl _
    · exact uniform nothing
  cases op with
  | bootstrap now request =>
    cases success
    exact orderly.drawn orderly.memory (Drawn.of_stores (Durability.bootstrap_stores now request))
  | admission now port pending record signature =>
    cases success
    exact orderly.drawn orderly.memory (Drawn.of_stores (Durability.admission_stores now port pending record signature))
  | connected now clientId =>
    cases success
    exact ⟨orderly.memory, orderly.file⟩
  | drain clientId =>
    cases success
    exact ⟨orderly.memory, orderly.file⟩
  | register now clientId message =>
    simp only [Operation.apply] at success
    split_ifs at success
    cases success
    rcases @register_drawn env rt now clientId message with drawn | drawn
    · exact orderly.drawn orderly.memory drawn
    · exact orderly.drawn presentable drawn
  | manage now clientId request =>
    cases success
    exact orderly.drawn presentable (manage_drawn now clientId request)
  | save =>
    cases success
    exact orderly.drawn orderly.memory (Drawn.of_save (List.Subset.refl _))
  | load =>
    cases success
    cases written : rt.state.file with
    | none =>
      have same : rt.state.load = rt.state := by rw [load, written]
      rw [same]
      exact orderly
    | some data =>
      refine ⟨(orderly.file data written).mono ?_, fun data => by rw [load_file]; exact orderly.file data⟩
      have loaded : rt.state.load.wisps =
          data.wisps.foldl (fun wisps entry => putWisp wisps (.str entry.1) (.str entry.1) entry.2) .empty := by
        rw [load, written]
      rw [loaded]
      exact manifests_loaded data.wisps

end Operations

theorem reach_orderly {env : Env} {rt : RelayRuntime} (reach : Reach (Operation.apply env) Uniform Empty rt) :
    Orderly rt.state := by
  refine reach.invariant (fun rt => Orderly rt.state) ?_ ?_
  · intro rt empty
    rw [empty]
    exact ⟨⟨.inl (by rintro _ ⟨⟩), by rintro _ ⟨⟩⟩, by simp⟩
  · intro rt op rt' _ orderly uniform success
    exact apply_orderly orderly uniform success

/-- The administrator's request for the state is answered with the page if and only if the table can be
rendered; and that is so in every run in which every operation brings what goes with the manifests that
are there, whoever is online. -/
theorem page_answered (env : Env) :
    (∀ (rt : RelayRuntime) (now : ℕ) (clientId : String) (request : Json), rt.isAdmin clientId = true →
      request.isObj = true → request.get "action" = .str "state" →
      (Answered clientId (rt.managementRequest env now clientId request).2 ↔ Renderable rt now)) ∧
    ∀ rt : RelayRuntime, Reach (Operation.apply env) Uniform Empty rt → ∀ (rt' : RelayRuntime) (now : ℕ)
      (clientId : String) (request : Json), rt'.state = rt.state → rt'.isAdmin clientId = true →
      request.isObj = true → request.get "action" = .str "state" →
      Answered clientId (rt'.managementRequest env now clientId request).2 := by
  refine ⟨fun rt now clientId request => state_answered, ?_⟩
  intro rt reach rt' now clientId request same admin object asked
  rw [state_answered admin object asked]
  have shown : Presentable (manifests rt'.state.wisps) := same ▸ (reach_orderly reach).memory
  exact shown.renderable now

/-! ## Runs -/

def stateRequest : Json := .obj [("action", .str "state")]

/-- `bob` registers Wisps with the given ids. -/
def registers (ids : List Json) : Operation :=
  .register 0 "bob" (.obj [("items", .arr (ids.map fun id => .obj [("id", id)]))])

def orderlyRelay : RelayRuntime :=
  (replay (guarded (Operation.apply sampleEnv) Uniform) {} (Revocation.enrolments ++ [registers [.str "notes"]])).getD {}

/-- `bob` is online when `alice` asks. -/
def shownRelay : RelayRuntime := { orderlyRelay with relayLiveness := Dict.empty.insert "bob" 0 }

theorem page_answered_registered :
    Answered "alice" (shownRelay.managementRequest sampleEnv 0 "alice" stateRequest).2 ∧ Renderable shownRelay 0 := by
  have started : Empty ({} : RelayRuntime) := rfl
  have reach : Reach (Operation.apply sampleEnv) Uniform Empty orderlyRelay :=
    Reach.of_guarded_defined started (by decide)
  have administers : shownRelay.isAdmin "alice" = true := by decide
  have answered := (page_answered sampleEnv).2 orderlyRelay reach shownRelay 0 "alice" stateRequest rfl administers rfl rfl
  exact ⟨answered, ((page_answered sampleEnv).1 shownRelay 0 "alice" stateRequest administers rfl rfl).mp answered⟩

/-- `bob` registers a Wisp under a text and one under a number, and the relay is restarted. -/
def mixedRelay : RelayRuntime :=
  (replay (Operation.apply sampleEnv) {} (Revocation.enrolments ++ [registers [.str "notes", .int 1], .load])).getD {}

def restartedMachine : Machine := { runtime := { state := mixedRelay.state } }

def lockedMachine : Machine :=
  (replay (Machine.step sampleEnv) restartedMachine
    (Revocation.handshakeOf 1 .relay "bob" "bob-key" ++ [.resume 1 .sent ⟨"", ""⟩])).getD {}

/-- While `bob` is online, `alice` gets no page. -/
theorem page_fails : ¬ ∀ (env : Env) (m : Machine), Reach (Machine.step env) anyStep (Machine.Started env) m →
    ∀ (clientId : String) (request : Json), m.runtime.isAdmin clientId = true → request.isObj = true →
      request.get "action" = .str "state" →
      Answered clientId (m.runtime.managementRequest env m.now clientId request).2 := by
  intro claim
  have empty : Empty ({} : RelayRuntime) := rfl
  have started : Machine.Started sampleEnv restartedMachine :=
    ⟨⟨rfl, rfl, rfl, rfl, rfl, rfl⟩, mixedRelay, Reach.of_defined empty (by decide), rfl⟩
  have reach : Reach (Machine.step sampleEnv) anyStep (Machine.Started sampleEnv) lockedMachine :=
    Reach.of_defined started (by decide)
  obtain ⟨record, html, answered⟩ := claim sampleEnv lockedMachine reach "alice" stateRequest (by decide) rfl rfl
  have raised : (lockedMachine.runtime.managementRequest sampleEnv lockedMachine.now "alice" stateRequest).2.toOption =
      none := by decide
  rw [answered] at raised
  cases raised

end WispGate.Soundness.Availability
