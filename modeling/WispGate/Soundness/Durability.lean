import WispGate.Soundness.Registration
import WispGate.Soundness.Revocation

/-! # What a restart finds

The state file holds the standings at every moment. The Wisp table in it is behind the one in memory
after a registration that raised half way, and after a rejection that removed registrations; and a
key that is no text comes back as one. Without these, a restart loses and resurrects nothing.
-/

namespace WispGate.Soundness.Durability

open Data Model Model.Relay RelayState RelayRuntime Administration Revocation

/-! ## Restarts -/

/-- A relay process that starts on the state file. -/
def restart (s : RelayState) : RelayState := load { file := s.file }

/-- A restart finds the clients with their keys, statuses and flags, and the Wisp table. -/
structure Durable (s : RelayState) : Prop where
  clients : (restart s).standing = s.standing
  wisps : (restart s).wisps = s.wisps

/-- An item that is stored under a text, or not at all. -/
def Plain (item : Json) : Prop := item.isObj = true ∧ ((item.get "id").truthy = true → (item.get "id").isStr = true)

/-- The registration gets as far as its items. -/
def Accepted (s : RelayState) (now : ℕ) (clientId : String) (message : Json) : Prop :=
  (message.get "client_public_key").truthy = true →
    (s.registerClient clientId (message.get "client_public_key") true now).isOk = true

/-- No client that owns registrations is rejected or revoked, and no accepted registration has an item
that raises or an id that is no text. -/
def Conserving (rt : RelayRuntime) : Operation → Prop
  | .manage _ clientId request => ∀ target ∈ barredBy rt clientId request,
      rt.state.clients.contains target = true →
      ∀ entry ∈ rt.state.wisps.values, entry.manifest.owner.pyEq (.str target) = false
  | .register now clientId message => Accepted rt.state now clientId message →
      ∀ items ∈ (message.getD "items" (.arr [])).iterate?, ∀ item ∈ items, Plain item
  | _ => True

instance (item : Json) : Decidable (Plain item) := inferInstanceAs (Decidable (_ ∧ _))

instance (s : RelayState) (now : ℕ) (clientId : String) (message : Json) :
    Decidable (Accepted s now clientId message) := inferInstanceAs (Decidable (_ → _))

instance (rt : RelayRuntime) : (op : Operation) → Decidable (Conserving rt op)
  | .manage _ clientId request => inferInstanceAs (Decidable (∀ target ∈ barredBy rt clientId request,
      rt.state.clients.contains target = true →
      ∀ entry ∈ rt.state.wisps.values, entry.manifest.owner.pyEq (.str target) = false))
  | .register now clientId message => inferInstanceAs (Decidable (Accepted rt.state now clientId message →
      ∀ items ∈ (message.getD "items" (.arr [])).iterate?, ∀ item ∈ items, Plain item))
  | .bootstrap _ _ | .admission _ _ _ _ _ | .connected _ _ | .drain _ | .save | .load =>
    inferInstanceAs (Decidable True)

/-! ## The table in the file -/

/-- Every entry stands under a text, which is also the object it was stored under. -/
def Named (wisps : Dict Json WispEntry) : Prop :=
  ∀ key entry, wisps.get? key = some entry → ∃ id, key = .str id ∧ entry.key = .str id

/-- The file holds the Wisp table, or there is no file and no table. -/
structure Kept (s : RelayState) : Prop where
  named : Named s.wisps
  fresh : s.file = none → s.wisps = .empty ∧ ∀ c, s.standing c = none
  file : ∀ data, s.file = some data → data.wisps = s.snapshot.wisps

/-- A table with text keys survives the file. -/
theorem load_wisps {wisps : Dict Json WispEntry} (named : Named wisps) :
    (wisps.values.map fun entry => (keyText entry.key, entry.manifest)).foldl
      (fun wisps entry => putWisp wisps (.str entry.1) (.str entry.1) entry.2) .empty = wisps := by
  have loop : ∀ (rest : List (Json × WispEntry)) (done : Dict Json WispEntry),
      ((done.entries ++ rest).map Prod.fst).Nodup →
      (∀ entry ∈ rest, ∃ id, entry.1 = .str id ∧ entry.2.key = .str id) →
      (((rest.map Prod.snd).map fun entry => (keyText entry.key, entry.manifest)).foldl
        (fun wisps entry => putWisp wisps (.str entry.1) (.str entry.1) entry.2) done).entries =
        done.entries ++ rest := by
    intro rest
    induction rest with
    | nil => simp
    | cons entry rest ih =>
      intro done nodup texts
      obtain ⟨key, ⟨object, manifest⟩⟩ := entry
      obtain ⟨⟨id, rfl, rfl⟩, others⟩ := List.forall_mem_cons.mp texts
      have absent : Json.str id ∉ done.entries.map Prod.fst := by
        rw [List.map_append, List.nodup_append] at nodup
        exact fun member => nodup.2.2 _ member _ (List.mem_cons_self ..) rfl
      have stored : (putWisp done (.str id) (.str id) manifest).entries =
          done.entries ++ [(.str id, ⟨.str id, manifest⟩)] := by
        simp only [putWisp, (Dict.get?_eq_none_iff ..).mpr absent, Option.map_none, Option.getD_none]
        exact Dict.put_of_notMem absent _
      rw [List.map_cons, List.map_cons, List.foldl_cons]
      refine (ih (putWisp done (.str id) (.str id) manifest) ?_ others).trans ?_
      · rwa [stored, List.append_assoc]
      · rw [stored, List.append_assoc]
        rfl
  refine Dict.ext (loop wisps.entries .empty wisps.nodup fun entry member => ?_)
  exact named entry.1 entry.2 ((Dict.get?_eq_some_iff ..).mpr member)

/-! ## Operations -/

section Operations

variable {s t : RelayState} {env : Env} {rt rt' : RelayRuntime} {op : Operation}

/-- The table and its file stay, or the table is written to the file. -/
def Writes (s t : RelayState) : Prop :=
  (t.wisps = s.wisps ∧ t.file = s.file) ∨ (Named t.wisps ∧ ∃ data, t.file = some data ∧ data.wisps = t.snapshot.wisps)

theorem writes_save (named : Named s.wisps) : Writes t s.save := .inr ⟨named, s.snapshot, rfl, rfl⟩

/-- A change that writes what it changes keeps the file in step. -/
theorem Kept.change (kept : Kept s) (change : Change s op t) (writes : Writes s t) : Kept t := by
  rcases writes with ⟨wisps, file⟩ | ⟨named, data, written, agrees⟩
  · refine ⟨wisps ▸ kept.named, fun none => ?_, fun data written => ?_⟩
    · obtain ⟨empty, vacant⟩ := kept.fresh (file ▸ none)
      refine ⟨wisps ▸ empty, fun c => ?_⟩
      have unsaved : ¬ t.Saved := by
        rintro ⟨data, written, -⟩
        rw [none] at written
        cases written
      cases change with
      | keeps same _ => exact same ▸ vacant c
      | enrols _ _ _ _ saved _ => exact absurd saved unsaved
      | claims _ _ _ _ _ _ saved => exact absurd saved unsaved
      | sets _ _ _ _ _ _ _ _ _ saved => exact absurd saved unsaved
    · rw [snapshot, wisps]
      exact kept.file data (file ▸ written)
  · refine ⟨named, fun none => ?_, fun data' written' => ?_⟩
    · rw [written] at none
      cases none
    · obtain rfl := Option.some.inj (written.symm.trans written')
      exact agrees

/-- The table stays, and the file stays or is written. -/
def Stores (s t : RelayState) : Prop :=
  t.wisps = s.wisps ∧ (t.file = s.file ∨ ∃ data, t.file = some data ∧ data.wisps = t.snapshot.wisps)

theorem stores_refl (s : RelayState) : Stores s s := ⟨rfl, .inl rfl⟩

theorem stores_save (same : t.wisps = s.wisps) : Stores s t.save := ⟨same, .inr ⟨t.snapshot, rfl, rfl⟩⟩

theorem Stores.writes (named : Named s.wisps) (stores : Stores s t) : Writes s t := by
  obtain ⟨same, kept | written⟩ := stores
  · exact .inl ⟨same, kept⟩
  · exact .inr ⟨same ▸ named, written⟩

theorem enrollClient_stores {clientId key access : String} {kind : Json} {now : ℕ}
    (success : s.enrollClient clientId key kind now = .ok (t, access)) : Stores s t := by
  unfold enrollClient at success
  split at success
  · split_ifs at success <;> cases success <;> exact ⟨rfl, .inl rfl⟩
  · cases success
    exact stores_save rfl

theorem bootstrap_stores (now : ℕ) (request : BootstrapRequest) :
    Stores rt.state (rt.bootstrap env now request).1.state := by
  unfold RelayRuntime.bootstrap
  dsimp only
  split_ifs
  · split
    · exact stores_refl _
    · rename_i success
      exact enrollClient_stores success
  · exact stores_refl _
  · exact stores_refl _

theorem registerClient_wisps {clientId : String} {key : Json} {replace : Bool} {now : ℕ}
    (success : s.registerClient clientId key replace now = .ok t) : t.wisps = s.wisps ∧ t.file = s.file := by
  unfold registerClient at success
  dsimp only at success
  split_ifs at success <;> cases success <;> exact ⟨rfl, rfl⟩

theorem admission_stores (now : ℕ) (port : Port) (pending : Pending) (record : Challenge) (signature : String) :
    Stores rt.state (rt.admission now port pending record signature).1.state := by
  unfold RelayRuntime.admission
  split
  · exact stores_refl _
  · rename_i state access checked
    have admitted : Stores rt.state state := by
      unfold RelayRuntime.checkAccess at checked
      split_ifs at checked
      · cases checked
        exact stores_refl _
      · exact enrollClient_stores checked
    unfold RelayRuntime.completeAdmission
    split_ifs
    · split
      · exact admitted
      · rename_i registered success
        exact stores_save (t := { registered with clients := _ }) ((registerClient_wisps success).1.trans admitted.1)
    · exact admitted

theorem named_insert {wisps : Dict Json WispEntry} (named : Named wisps) (id : String) (manifest : Manifest) :
    Named (putWisp wisps (.str id) (.str id) manifest) := by
  intro key entry found
  rw [putWisp, Dict.get?_insert] at found
  split_ifs at found with same
  · cases found
    refine ⟨id, same.symm, ?_⟩
    cases known : wisps.get? (.str id) with
    | none => rfl
    | some old =>
      obtain ⟨other, equal, object⟩ := named _ _ known
      cases equal
      exact object
  · exact named key entry found

theorem named_filter {wisps : Dict Json WispEntry} (named : Named wisps) (keep : Json → WispEntry → Bool) :
    Named (wisps.filter keep) := by
  intro key entry found
  rw [Dict.get?_filter] at found
  exact named key entry (Option.filter_eq_some_iff.mp found).1

/-- Plain items are all stored, under texts. -/
theorem registerItems_named {wisps : Dict Json WispEntry} {clientId : String} {items : List Json} (named : Named wisps)
    (plain : ∀ item ∈ items, Plain item) :
    ∃ wisps', registerItems wisps clientId items = (wisps', none) ∧ Named wisps' := by
  induction items generalizing wisps with
  | nil => exact ⟨wisps, rfl, named⟩
  | cons item rest ih =>
    obtain ⟨⟨object, text⟩, plain⟩ := List.forall_mem_cons.mp plain
    by_cases present : (item.get "id").truthy = true
    · obtain ⟨id, is⟩ : ∃ id, item.get "id" = .str id := by
        have named := text present
        cases value : item.get "id" <;> simp [value, Json.isStr] at named ⊢
      obtain ⟨wisps', result, named'⟩ := ih (named_insert named id
        { id := .str id, name := item.getD "name" (.str id), description := item.getD "description" (.str ""),
          owner := .str clientId }) plain
      refine ⟨wisps', ?_, named'⟩
      rw [is] at present
      simp [registerItems, registerItem, object, is, present, Json.hashKey?, result]
    · obtain ⟨wisps', result, named'⟩ := ih named plain
      exact ⟨wisps', by simp [registerItems, registerItem, object, present, result], named'⟩

theorem replaceWisps_writes (named : Named rt.state.wisps) {now : ℕ} {clientId : String} {items : List Json}
    (plain : ∀ item ∈ items, Plain item) : Writes s (rt.replaceWisps env now clientId items).1.state := by
  obtain ⟨wisps, result, named'⟩ := @registerItems_named (rt.state.removeWispsForOwner clientId).wisps clientId items
    (named_filter named _) plain
  unfold RelayRuntime.replaceWisps
  dsimp only
  rw [result]
  dsimp only
  split
  · exact writes_save (s := { rt.state.removeWispsForOwner clientId with wisps := wisps }) named'
  · split_ifs
    · exact writes_save (s := { rt.state.removeWispsForOwner clientId with wisps := wisps }) named'
    · exact writes_save (s := { rt.state.removeWispsForOwner clientId with wisps := wisps }) named'

theorem registerWisps_writes (named : Named rt.state.wisps) {now : ℕ} {clientId : String} {message : Json}
    (plain : Accepted rt.state now clientId message →
      ∀ items ∈ (message.getD "items" (.arr [])).iterate?, ∀ item ∈ items, Plain item) :
    Writes rt.state (rt.registerWisps env now clientId message).1.state := by
  unfold RelayRuntime.registerWisps
  split
  · exact .inl ⟨rfl, rfl⟩
  · rename_i items listed
    split_ifs with order key
    · split
      · exact .inl ⟨rfl, rfl⟩
      · rename_i state success
        have accepted : Accepted rt.state now clientId message := fun _ => by rw [success]; rfl
        have named' : Named ({ rt with state := state } : RelayRuntime).state.wisps :=
          (registerClient_wisps success).1 ▸ named
        exact replaceWisps_writes named'
          (plain accepted items listed)
    · exact replaceWisps_writes named (plain (fun truthy => absurd truthy key) items listed)
    · exact .inl ⟨rfl, rfl⟩

/-- Nothing is removed for an owner of nothing. -/
theorem removeWisps_unowned {owner : String}
    (unowned : ∀ entry ∈ s.wisps.values, entry.manifest.owner.pyEq (.str owner) = false) :
    s.removeWispsForOwner owner = s := by
  have same : (s.wisps.filter fun _ entry => !entry.manifest.owner.pyEq (.str owner)) = s.wisps := by
    refine Dict.ext (List.filter_eq_self.mpr fun entry member => ?_)
    simp [unowned entry.2 (List.mem_map_of_mem member)]
  rw [removeWispsForOwner, same]

theorem setClientStatus_stores {target status : String} (success : s.setClientStatus target status = .ok t) :
    s.clients.contains target = true ∧ Stores s t := by
  cases found : s.clients.get? target with
  | none =>
    simp only [setClientStatus, found] at success
    split_ifs at success
  | some record =>
    simp only [setClientStatus, found] at success
    split_ifs at success <;> cases success <;>
      exact ⟨(Dict.contains_iff ..).mpr ⟨record, found⟩, stores_save (t := { s with clients := _ }) rfl⟩

theorem setStatusRequest_writes (named : Named rt.state.wisps) {clientId action : String} {target : Json}
    (unowned : ∀ name, action ≠ "approve" → target = .str name → name ≠ clientId →
      rt.state.clients.contains name = true →
      ∀ entry ∈ rt.state.wisps.values, entry.manifest.owner.pyEq (.str name) = false) :
    Writes rt.state (rt.setStatusRequest clientId action target).1.state := by
  unfold RelayRuntime.setStatusRequest
  split
  · exact .inl ⟨rfl, rfl⟩
  · rename_i name text
    split_ifs with own approves
    · exact .inl ⟨rfl, rfl⟩
    · split
      · exact .inl ⟨rfl, rfl⟩
      · exact .inl ⟨rfl, rfl⟩
      · rename_i state success
        obtain ⟨known, stores⟩ := setClientStatus_stores success
        have nothing := unowned name approves ((Json.asStr?_eq_some_iff ..).mp text) own known
        have kept : state.removeWispsForOwner name = state := removeWisps_unowned (stores.1 ▸ nothing)
        dsimp only [RelayRuntime.evict]
        rw [kept]
        exact stores.writes named
    · split
      · exact .inl ⟨rfl, rfl⟩
      · exact .inl ⟨rfl, rfl⟩
      · rename_i state success
        exact (setClientStatus_stores success).2.writes named

theorem wispRequest_writes (named : Named rt.state.wisps) (clientId : String) (request value : Json) :
    Writes rt.state (rt.registerWispRequest clientId request).1.state ∧
      Writes rt.state (rt.removeWispRequest value).1.state := by
  constructor
  · unfold RelayRuntime.registerWispRequest
    dsimp only
    split_ifs with refused
    · exact .inl ⟨rfl, rfl⟩
    · obtain ⟨id, is⟩ : ∃ id, request.get "id" = .str id := by
        have text := (not_or.mp refused).1
        cases value : request.get "id" <;> simp [value, Json.isStr] at text ⊢
      rw [is]
      exact writes_save (s := { rt.state with wisps := _ }) (named_insert named id _)
  · unfold RelayRuntime.removeWispRequest
    split
    · exact .inl ⟨rfl, rfl⟩
    · dsimp only
      split_ifs
      · exact writes_save (s := { rt.state with wisps := _ }) (named_filter named _)
      · exact .inl ⟨rfl, rfl⟩

theorem claimAdmin_stores (s : RelayState) (clientId : String) : Stores s (s.claimAdmin clientId).1 := by
  unfold claimAdmin
  split
  · exact stores_refl _
  · split_ifs
    · exact stores_refl _
    · exact stores_refl _
    · exact stores_save (t := { s with clients := _ }) rfl

theorem manage_writes (named : Named rt.state.wisps) {now : ℕ} {clientId : String} {request : Json}
    (unowned : ∀ target ∈ barredBy rt clientId request, rt.state.clients.contains target = true →
      ∀ entry ∈ rt.state.wisps.values, entry.manifest.owner.pyEq (.str target) = false) :
    Writes rt.state (rt.managementRequest env now clientId request).1.state := by
  unfold RelayRuntime.managementRequest
  split
  · exact .inl ⟨rfl, rfl⟩
  split
  · exact .inl ⟨rfl, rfl⟩
  dsimp only
  split_ifs with own claims admin
  · exact .inl ⟨rfl, rfl⟩
  · exact (claimAdmin_stores _ clientId).writes named
  · refine RelayRuntime.adminRequest_cases (motive := fun result => Writes rt.state result.1.state)
      (fun _ => .inl ⟨rfl, rfl⟩) (fun status => ?_) (fun _ => ?_) ?_
    · refine setStatusRequest_writes named fun name disapproves named' other known => ?_
      refine unowned name ?_ known
      have asked : request.get "action" = .str "reject" ∨ request.get "action" = .str "revoke" := by
        cases text : (request.get "action").asStr? with
        | none => simp [text] at status
        | some action =>
          rw [text, Option.getD_some] at status disapproves
          rw [(Json.asStr?_eq_some_iff ..).mp text]
          simpa using status.resolve_left disapproves
      have administers : rt.isAdmin clientId = true := by simpa using admin
      simp [barredBy, asked, administers, named', other, Json.asStr?]
    · exact (wispRequest_writes named clientId request (.null)).1
    · exact (wispRequest_writes named clientId request _).2
  · exact .inl ⟨rfl, rfl⟩

theorem apply_writes (kept : Kept rt.state) (conserving : Conserving rt op)
    (success : op.apply env rt = some rt') : Writes rt.state rt'.state := by
  cases op with
  | bootstrap now request =>
    cases success
    exact (bootstrap_stores now request).writes kept.named
  | admission now port pending record signature =>
    cases success
    exact (admission_stores now port pending record signature).writes kept.named
  | connected now clientId =>
    cases success
    exact .inl ⟨rfl, rfl⟩
  | drain clientId =>
    cases success
    exact .inl ⟨rfl, rfl⟩
  | register now clientId message =>
    simp only [Operation.apply] at success
    split_ifs at success
    cases success
    exact registerWisps_writes kept.named conserving
  | manage now clientId request =>
    cases success
    exact manage_writes kept.named conserving
  | save =>
    cases success
    exact writes_save kept.named
  | load =>
    cases success
    refine .inl ⟨?_, load_file _⟩
    unfold load
    split
    · rfl
    · rename_i data written
      dsimp only
      rw [kept.file data written]
      exact load_wisps kept.named

end Operations

theorem kept_durable (kept : Kept s) (governed : Governed s) : Durable s := by
  have standing : s.load.standing = s.standing := load_standing governed
  unfold load at standing
  constructor
  · unfold restart load
    split
    · rename_i none
      funext c
      rw [(kept.fresh none).2 c]
      rfl
    · rename_i data written
      change s.file = some data at written
      rw [written] at standing
      exact standing
  · unfold restart load
    split
    · rename_i none
      exact (kept.fresh none).1.symm
    · rename_i data written
      dsimp only
      rw [kept.file data written]
      exact load_wisps kept.named

/-- In every run whose operations are all conserving, a restart at any moment finds what is in memory. -/
theorem durability (env : Env) {rt : RelayRuntime} (reach : Reach (Operation.apply env) Conserving Empty rt) :
    Durable rt.state := by
  have kept : Kept rt.state := by
    refine reach.invariant (fun rt => Kept rt.state) ?_ ?_
    · intro rt empty
      rw [empty]
      exact ⟨by rintro _ _ ⟨⟩, fun _ => ⟨rfl, fun _ => rfl⟩, by simp⟩
    · intro rt op rt' before kept conserving success
      exact kept.change (apply_change (reach_governed before.any) success) (apply_writes kept conserving success)
  exact kept_durable kept (reach_governed reach.any)

/-! ## Runs -/

/-- `alice` administers, `bob` is approved and registers a Wisp. -/
def registeredRun : List Operation :=
  [.bootstrap 0 ⟨"alice", "phone", ⟨"alice-key", true, 2048⟩, []⟩,
    .bootstrap 0 ⟨"bob", "wisp", ⟨"bob-key", true, 2048⟩, []⟩,
    .manage 0 "alice" (.obj [("action", .str "claim_admin")]),
    .manage 0 "alice" (.obj [("action", .str "approve"), ("client_id", .str "bob")]),
    .register 0 "bob" (.obj [("items", .arr [.obj [("id", .str "notes")]])])]

def keptRelay : RelayRuntime := (replay (guarded (Operation.apply sampleEnv) Conserving) {} registeredRun).getD {}

theorem durability_registered : Durable keptRelay.state ∧
    (keptRelay.state.wisps.get? (.str "notes")).map (·.manifest.owner) = some (.str "bob") := by
  have started : Empty ({} : RelayRuntime) := rfl
  have reach : Reach (Operation.apply sampleEnv) Conserving Empty keptRelay :=
    Reach.of_guarded_defined started (by decide)
  exact ⟨durability sampleEnv reach, by decide⟩

/-- `alice` rejects `bob`. -/
def rejection : Json := .obj [("action", .str "reject"), ("client_id", .str "bob")]

def rejectedRelay : RelayRuntime := (keptRelay.managementRequest sampleEnv 0 "alice" rejection).1

/-- A restart after the rejection was answered finds the Wisp that it removed. -/
theorem durability_rejected : ¬ ∀ (env : Env) (rt : RelayRuntime) (now : ℕ) (clientId : String) (request : Json),
    Reach (Operation.apply env) anyStep Empty rt →
    (rt.managementRequest env now clientId request).2.toOption.map (·.get "ok") = some (.bool true) →
    Durable (rt.managementRequest env now clientId request).1.state := by
  intro claim
  have started : Empty ({} : RelayRuntime) := rfl
  have reach : Reach (Operation.apply sampleEnv) Conserving Empty keptRelay :=
    Reach.of_guarded_defined started (by decide)
  have durable := claim sampleEnv keptRelay 0 "alice" rejection reach.any (by decide)
  have apart : (restart rejectedRelay.state).wisps ≠ rejectedRelay.state.wisps := by decide
  exact apart durable.wisps

end WispGate.Soundness.Durability
