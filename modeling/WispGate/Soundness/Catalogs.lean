import WispGate.Soundness.Acknowledgement
import WispGate.Soundness.Durability

/-! # Catalogs

A catalog depends on the Wisp table, the standings and who has a liveness time; whether there is one
depends on the owners in the table alone. Of the frames a handler answers with, only the answer to a
registration brings a catalog.
-/

namespace WispGate.Soundness.Catalogs

open Data Model Model.Relay Machine

/-! ## Catalogs that can be listed -/

/-- An owner that can be looked up, if the catalog looks for it. -/
def Lookable (owner : Json) : Prop := owner.truthy = true → owner.hashKey? ≠ none

def Clear (wisps : Dict Json WispEntry) : Prop := ∀ entry ∈ wisps.values, Lookable entry.manifest.owner

/-- Every liveness time still counts. -/
def Fresh (rt : RelayRuntime) (now : ℕ) : Prop :=
  ∀ id time, rt.relayLiveness.get? id = some time → now - time ≤ heartbeatTimeoutSeconds

/-- Clients keep their standings, and new ones are pending. -/
def Enlists (s t : RelayState) : Prop := ∀ id, t.standing id = s.standing id ∨
  (s.standing id = none ∧ ∃ st, t.standing id = some st ∧ st.status = some "pending")

section Listing

variable {env : Env} {rt rt' : RelayRuntime} {now now' : ℕ} {clientId : Option String} {manifest : Manifest}
  {id owner : String}

theorem catalogItem_defined :
    (∃ item, rt.catalogItem env now clientId manifest = .ok item) ↔ Lookable manifest.owner := by
  unfold RelayRuntime.catalogItem Lookable
  by_cases truthy : manifest.owner.truthy = true
  · rw [if_neg (not_not.mpr truthy)]
    cases owned : manifest.owner with
    | arr items =>
      rw [owned] at truthy
      simp [RelayRuntime.relayOnline, Json.hashKey?, truthy]
    | obj fields =>
      rw [owned] at truthy
      simp [RelayRuntime.relayOnline, Json.hashKey?, truthy]
    | str text =>
      cases heard : rt.relayLiveness.get? text with
      | none => simp [RelayRuntime.relayOnline, heard, Json.hashKey?]
      | some last =>
        simp only [RelayRuntime.relayOnline, heard, Json.hashKey?]
        split_ifs <;> simp
    | _ => simp [RelayRuntime.relayOnline, Json.hashKey?]
  · rw [if_pos truthy]
    exact ⟨fun _ claimed => absurd claimed truthy, fun _ => ⟨_, rfl⟩⟩

theorem catalogLoop_defined (manifests : List Manifest) :
    (∃ items, rt.catalogLoop env now clientId manifests = .ok items) ↔
      ∀ manifest ∈ manifests, Lookable manifest.owner := by
  induction manifests with
  | nil => simp [RelayRuntime.catalogLoop]
  | cons manifest rest ih =>
    rw [List.forall_mem_cons, ← ih, ← @catalogItem_defined env rt now clientId manifest]
    constructor
    · rintro ⟨items, listed⟩
      simp only [RelayRuntime.catalogLoop] at listed
      split at listed
      · cases listed
      rename_i item here
      split at listed
      · cases listed
      rename_i others there
      exact ⟨⟨item, here⟩, others, there⟩
    · rintro ⟨⟨item, here⟩, others, there⟩
      exact ⟨item.toList ++ others, by simp only [RelayRuntime.catalogLoop, here, there]⟩

/-- Whether there is a catalog does not depend on the client. -/
theorem catalogItems_defined :
    (∃ items, rt.catalogItems env now clientId = .ok items) ↔ Clear rt.state.wisps := by
  have all := @catalogLoop_defined env rt now clientId (rt.state.wisps.values.map (·.manifest))
  rw [List.forall_mem_map] at all
  rw [Clear, ← all]
  unfold RelayRuntime.catalogItems
  dsimp only
  split
  · rename_i raised
    rw [raised]
  · rename_i items listed
    rw [listed]
    simp

/-- The only exception is that of a lookup. -/
theorem catalogItems_raises {e : PyError} (raised : rt.catalogItems env now clientId = .error e) : e = .type := by
  have item : ∀ {manifest : Manifest} {e : PyError}, rt.catalogItem env now clientId manifest = .error e → e = .type := by
    intro manifest e raised
    unfold RelayRuntime.catalogItem at raised
    split at raised
    · cases raised
    split at raised
    · rename_i online
      cases raised
      unfold RelayRuntime.relayOnline at online
      split at online
      · cases online
        rfl
      · cases online
        rfl
      · split at online <;> cases online
      · cases online
    dsimp only at raised
    split_ifs at raised
  have loop : ∀ {manifests : List Manifest} {e : PyError},
    rt.catalogLoop env now clientId manifests = .error e → e = .type := by
    intro manifests
    induction manifests with
    | nil =>
      intro e raised
      cases raised
    | cons manifest rest ih =>
      intro e raised
      simp only [RelayRuntime.catalogLoop] at raised
      split at raised
      · rename_i first
        cases raised
        exact item first
      split at raised
      · rename_i later
        cases raised
        exact ih later
      · cases raised
  simp only [RelayRuntime.catalogItems] at raised
  split at raised
  · rename_i listed
    cases raised
    exact loop listed
  · cases raised

/-! ## Catalogs that stay the same -/

theorem endpointUsable_same (same : rt'.state.standing id = rt.state.standing id) (includePending : Bool) :
    rt'.endpointUsable id includePending = rt.endpointUsable id includePending := by
  have read : ∀ r : RelayRuntime, (r.state.clients.get? id).bind (·.status) = (r.state.standing id).bind (·.status) := by
    intro r
    simp only [RelayState.standing]
    cases r.state.clients.get? id <;> rfl
  simp only [RelayRuntime.endpointUsable, read, same]

theorem ownerKey_standing (rt : RelayRuntime) (owner : String) :
    rt.ownerKey (.str owner) = ((rt.state.standing owner).bind (·.publicKey)).getD .null := by
  simp only [RelayRuntime.ownerKey, Json.asStr?, RelayState.standing, Option.bind_some]
  cases rt.state.clients.get? owner <;> rfl

/-- A client is online as long as it has a liveness time. -/
theorem relayOnline_same (fresh : Fresh rt now) (fresh' : Fresh rt' now')
    (live : ∀ id, rt'.relayLiveness.contains id = rt.relayLiveness.contains id) (owner : Json) :
    rt'.relayOnline now' owner = rt.relayOnline now owner := by
  have online : ∀ {r : RelayRuntime} {time : ℕ}, Fresh r time → ∀ text,
      r.relayOnline time (.str text) = .ok (r.relayLiveness.contains text) := by
    intro r time fresh text
    cases heard : r.relayLiveness.get? text with
    | none => simp [RelayRuntime.relayOnline, heard, Dict.contains]
    | some last => simp [RelayRuntime.relayOnline, heard, Dict.contains, fresh text last heard]
  cases owner with
  | str text => rw [online fresh, online fresh', live]
  | _ => rfl

theorem catalogItem_same (fresh : Fresh rt now) (fresh' : Fresh rt' now')
    (live : ∀ id, rt'.relayLiveness.contains id = rt.relayLiveness.contains id)
    (enlists : Enlists rt.state rt'.state) (known : rt.state.standing id ≠ none) (manifest : Manifest) :
    rt'.catalogItem env now' (some id) manifest = rt.catalogItem env now (some id) manifest := by
  have own : rt'.state.standing id = rt.state.standing id := (enlists id).resolve_right fun new => known new.1
  unfold RelayRuntime.catalogItem
  rw [relayOnline_same fresh fresh' live, Option.any_some, Option.any_some, endpointUsable_same own]
  cases owned : manifest.owner with
  | str owner =>
    rcases enlists owner with same | ⟨absent, st, pending, status⟩
    · simp only [RelayRuntime.ownerUsable, Json.asStr?, endpointUsable_same same, ownerKey_standing, same]
    · -- A client that was just enrolled had no key before, and is pending now.
      have keyless : (rt.ownerKey (.str owner)).truthy = false := by
        rw [ownerKey_standing, absent]
        rfl
      have unusable : rt'.ownerUsable (.str owner) = false := by
        obtain ⟨record, found, rfl⟩ := RelayState.exists_record pending
        have status : record.status = some "pending" := status
        simp [RelayRuntime.ownerUsable, Json.asStr?, RelayRuntime.endpointUsable, found, status]
      simp [keyless, unusable]
  | _ => rfl

/-- The catalog of a known client depends on the Wisp table, the standings and who has a liveness time. -/
theorem catalogItems_same (fresh : Fresh rt now) (fresh' : Fresh rt' now')
    (live : ∀ id, rt'.relayLiveness.contains id = rt.relayLiveness.contains id)
    (wisps : rt'.state.wisps = rt.state.wisps) (enlists : Enlists rt.state rt'.state)
    (known : ∃ st, rt.state.standing id = some st ∧ st.publicKey ≠ none) :
    rt'.catalogItems env now' (some id) = rt.catalogItems env now (some id) := by
  obtain ⟨st, found, keyed⟩ := known
  have present : rt.state.standing id ≠ none := by simp [found]
  have own : rt'.state.standing id = rt.state.standing id := (enlists id).resolve_right fun new => present new.1
  have recorded : ∀ r : RelayRuntime, r.state.standing id = some st →
      (r.state.clients.get? id).any (fun record => !record.fields.isEmpty) = true := by
    intro r found
    obtain ⟨record, here, rfl⟩ := RelayState.exists_record found
    obtain ⟨key, is⟩ := Option.ne_none_iff_exists'.mp keyed
    have is : record.publicKey = some key := is
    simp [here, ClientRecord.fields, is]
  have loop : ∀ manifests, rt'.catalogLoop env now' (some id) manifests = rt.catalogLoop env now (some id) manifests := by
    intro manifests
    induction manifests with
    | nil => rfl
    | cons manifest rest ih =>
      simp only [RelayRuntime.catalogLoop, ih, catalogItem_same fresh fresh' live enlists present]
  simp only [RelayRuntime.catalogItems, loop, wisps, recorded rt found, recorded rt' (own.trans found),
    endpointUsable_same own]

end Listing

/-! ## Catalogs in the log -/

/-- A frame that brings a catalog. -/
def brings (frame : Json) : Bool :=
  decide (frame.get "type" = .str "wisps_registered" ∨ frame.get "type" = .str "catalog_update")

/-- The items of the last catalog written to a connection. -/
def lastCatalog (log : List Entry) (conn : ConnId) : Option Json :=
  log.findSome? fun
    | .wrote d frame => if d = conn ∧ brings frame = true then some (frame.get "items") else none
    | _ => none

/-- The last catalog written to a client's connection is the one of the current state. -/
def Informed (env : Env) (m : Machine) (id : String) (conn : ConnId) : Prop :=
  ∃ items, m.runtime.catalogItems env m.now (some id) = .ok items ∧ lastCatalog m.log conn = some (.arr items)

theorem lastCatalog_append {new log : List Entry} {conn : ConnId}
    (silent : ∀ frame, .wrote conn frame ∈ new → brings frame = false) :
    lastCatalog (new ++ log) conn = lastCatalog log conn := by
  unfold lastCatalog
  rw [List.findSome?_append, List.findSome?_eq_none_iff.mpr, Option.none_or]
  intro entry member
  cases entry with
  | wrote d frame =>
    by_cases same : d = conn
    · subst same
      simp [silent frame member]
    · simp [same]
  | _ => rfl

theorem lastCatalog_other {log : List Entry} {conn d : ConnId} {frame : Json} (other : d ≠ conn) :
    lastCatalog (.wrote d frame :: log) conn = lastCatalog log conn :=
  @lastCatalog_append [.wrote d frame] log conn fun written member => by
    simp only [List.mem_singleton, Entry.wrote.injEq] at member
    exact absurd member.1.symm other

theorem lastCatalog_update (log : List Entry) (conn : ConnId) (items : List Json) :
    lastCatalog (.wrote conn (RelayRuntime.answer [("type", .str "catalog_update"), ("items", .arr items)]) :: log) conn =
      some (.arr items) := by
  simp [lastCatalog, brings, RelayRuntime.answer, Json.get, Json.lookup]

section Frames

variable {frame message : Json}

theorem quiet_of_type (type : String) (typed : frame.get "type" = .str type)
    (other : type ≠ "wisps_registered" ∧ type ≠ "catalog_update") : brings frame = false := by
  simp [brings, typed, other.1, other.2]

theorem refusal_quiet (error : String) : brings (RelayRuntime.refusal error) = false := by
  simp [brings, Acknowledgement.refusal_type]

theorem acceptance_quiet (message : Json) : brings (acceptance message) = false :=
  quiet_of_type "accepted" (Acknowledgement.acceptance_type message) (by decide)

theorem pong_quiet (message : Json) : brings (pong message) = false := quiet_of_type "pong" rfl (by decide)

theorem application_quiet (application : message.get "type" ∈ applicationTypes) : brings message = false := by
  simp only [applicationTypes, List.mem_cons, List.not_mem_nil, or_false] at application
  rcases application with type | type | type
  · exact quiet_of_type _ type (by decide)
  · exact quiet_of_type _ type (by decide)
  · exact quiet_of_type _ type (by decide)

end Frames

/-! ## Answers -/

section Answers

variable {env : Env} {rt : RelayRuntime} {now : ℕ} {clientId : String} {response frame : Json}

theorem answer_quiet {fields : List (String × Json)} (untyped : ∀ field ∈ fields, field.1 ≠ "type") :
    brings (RelayRuntime.answer fields) = false := by
  have absent : Json.lookup "type" (("ok", .bool true) :: fields) = none :=
    Json.lookup_eq_none (List.forall_mem_cons.mpr ⟨by decide, untyped⟩)
  simp [brings, RelayRuntime.answer, Json.get, absent]

theorem endpointFields_untyped (clientId : String) (record : ClientRecord) :
    ∀ field ∈ RelayRuntime.endpointFields clientId record, field.1 ≠ "type" := by
  intro field member
  simp only [RelayRuntime.endpointFields, ClientRecord.fields, List.mem_cons, List.mem_append, Option.mem_toList,
    Option.map_eq_some_iff] at member
  rcases member with rfl | (((⟨_, _, rfl⟩ | ⟨_, _, rfl⟩) | ⟨_, _, rfl⟩) | ⟨_, _, rfl⟩) | ⟨_, _, rfl⟩ <;> simp

theorem setStatusRequest_quiet {action : String} {target : Json}
    (answered : (rt.setStatusRequest clientId action target).2 = .ok response) : brings response = false := by
  unfold RelayRuntime.setStatusRequest at answered
  split at answered
  · cases answered
    exact refusal_quiet _
  · split_ifs at answered
    · cases answered
      exact refusal_quiet _
    all_goals
      split at answered
      · cases answered
        exact refusal_quiet _
      · cases answered
      · cases answered
        exact answer_quiet (by simp)

theorem inspectRequest_quiet {target : Json} (answered : rt.inspectRequest target = .ok response) :
    brings response = false := by
  unfold RelayRuntime.inspectRequest at answered
  split at answered
  · cases answered
  split at answered
  · split_ifs at answered
    · cases answered
      exact refusal_quiet _
    · cases answered
      exact answer_quiet (endpointFields_untyped _ _)
  · cases answered
    exact refusal_quiet _

theorem registerWispRequest_quiet {request : Json}
    (answered : (rt.registerWispRequest clientId request).2 = .ok response) :
    brings response = false := by
  unfold RelayRuntime.registerWispRequest at answered
  dsimp only at answered
  split_ifs at answered
  · cases answered
    exact refusal_quiet _
  · cases answered
    exact answer_quiet (by simp)

theorem removeWispRequest_quiet {wispId : Json} (answered : (rt.removeWispRequest wispId).2 = .ok response) :
    brings response = false := by
  unfold RelayRuntime.removeWispRequest at answered
  split at answered
  · cases answered
  dsimp only at answered
  split_ifs at answered
  · cases answered
    exact answer_quiet (by simp)
  · cases answered
    exact refusal_quiet _

theorem adminRequest_quiet {action : String} {request : Json}
    (answered : (rt.adminRequest env clientId action request).2 = .ok response) : brings response = false := by
  unfold RelayRuntime.adminRequest at answered
  split_ifs at answered
  · cases answered
    exact quiet_of_type "server_version" rfl (by decide)
  · cases answered
    exact quiet_of_type "server_logs" rfl (by decide)
  · cases answered
    cases env.update with
    | launches => exact quiet_of_type "update_started" rfl (by decide)
    | _ => exact refusal_quiet _
  · cases answered
    exact answer_quiet (by simp)
  · exact setStatusRequest_quiet answered
  · exact inspectRequest_quiet answered
  · cases answered
    exact answer_quiet (by simp)
  · exact registerWispRequest_quiet answered
  · exact removeWispRequest_quiet answered
  · cases answered
    exact refusal_quiet _

theorem ownRequest_quiet {action : Option String} (answered : rt.ownRequest env now clientId action = .ok response) :
    brings response = false := by
  unfold RelayRuntime.ownRequest at answered
  split at answered
  · cases answered
    exact refusal_quiet _
  split_ifs at answered
  · cases answered
    exact answer_quiet (endpointFields_untyped _ _)
  unfold RelayRuntime.stateAnswer at answered
  dsimp only at answered
  split at answered
  · cases answered
  split at answered
  · cases answered
  cases answered
  refine answer_quiet fun field member => ?_
  rcases List.mem_append.mp member with own | html
  · exact endpointFields_untyped _ _ field own
  · obtain rfl := List.mem_singleton.mp html
    simp

/-- No answer to a management request is a catalog. -/
theorem managementRequest_quiet {request : Json}
    (answered : (rt.managementRequest env now clientId request).2 = .ok response) :
    brings response = false := by
  unfold RelayRuntime.managementRequest at answered
  split at answered
  · cases answered
  split at answered
  · cases answered
  dsimp only at answered
  split_ifs at answered
  · exact ownRequest_quiet answered
  · cases answered
    unfold RelayRuntime.claimAnswer
    split_ifs
    · exact answer_quiet (by simp)
    · exact answer_quiet (by simp)
    · exact refusal_quiet _
    · exact refusal_quiet _
  · exact adminRequest_quiet answered
  · cases answered
    exact refusal_quiet _

theorem managementResponse_quiet (quiet : brings response = false) : brings (managementResponse response) = false := by
  cases response with
  | obj fields =>
    -- A type that the answer names itself takes the place of the one given to it here.
    cases found : Json.lookup "type" fields with
    | none => simp [managementResponse, brings, Json.get, Json.lookup, found]
    | some type => simpa [managementResponse, brings, Json.get, Json.lookup, found] using quiet
  | _ => exact quiet

theorem bootstrap_quiet {request : BootstrapRequest} {reply : Reply}
    (answered : (rt.bootstrap env now request).2 = .ok reply) :
    (∀ frame, reply = .returns frame → brings frame = false) ∧
      ∀ frame, reply = .continues frame → brings frame = false := by
  have sealed : ∀ payload, brings (RelayRuntime.answer [("type", .str "bootstrap_response"),
    ("payload", payload)]) = false :=
    fun _ => quiet_of_type "bootstrap_response" rfl (by decide)
  unfold RelayRuntime.bootstrap at answered
  dsimp only at answered
  split_ifs at answered
  · split at answered
    · cases answered
    · cases answered
      exact ⟨by simp, fun frame same => by cases same; exact sealed _⟩
  · cases answered
    exact ⟨by simp, fun frame same => by cases same; exact sealed _⟩
  · cases answered
    exact ⟨fun frame same => by cases same; exact refusal_quiet _, by simp⟩

theorem begin_quiet {port : Port} {hello : Json} {draw : Draw}
    (refused : rt.beginAuthentication env now port hello draw = .ok (.refused frame)) : brings frame = false := by
  unfold RelayRuntime.beginAuthentication at refused
  split_ifs at refused
  split at refused
  · split_ifs at refused
    · cases refused
      exact refusal_quiet _
    · dsimp only at refused
      split_ifs at refused <;> cases refused <;> exact refusal_quiet _
  · cases refused
    exact refusal_quiet _

theorem begin_challenge_quiet {rt' : RelayRuntime} {pending : Pending} {port : Port} {hello : Json} {draw : Draw}
    (begun : rt.beginAuthentication env now port hello draw = .ok (.challenged rt' pending frame)) :
    brings frame = false := by
  unfold RelayRuntime.beginAuthentication at begun
  split_ifs at begun
  split at begun
  · split_ifs at begun
    · cases begun
    · dsimp only at begun
      split_ifs at begun <;> cases begun
      exact quiet_of_type "auth_challenge" rfl (by decide)
  · cases begun

theorem conclude_quiet {port : Port} {pending : Pending} {proof : Json}
    (refused : (rt.concludeAuthentication env now port pending proof).2 = .ok (.refused frame)) :
    brings frame = false := by
  have admitted : ∀ (r : RelayRuntime) (record : Challenge) (signature : String),
      (r.admission now port pending record signature).2 = .ok (.refused frame) → brings frame = false := by
    intro r record signature refused
    unfold RelayRuntime.admission at refused
    split at refused
    · cases refused
    · unfold RelayRuntime.completeAdmission at refused
      split_ifs at refused
      · split at refused <;> cases refused
      · cases refused
        exact refusal_quiet _
  unfold RelayRuntime.concludeAuthentication at refused
  dsimp only at refused
  split_ifs at refused
  · split at refused
    · unfold RelayRuntime.checkProof at refused
      dsimp only at refused
      split_ifs at refused
      · cases refused
        exact refusal_quiet _
      · cases refused
        exact refusal_quiet _
      · exact admitted _ _ _ refused
    · cases refused
      exact refusal_quiet _

end Answers

/-! ## Wisp tables -/

section Wisps

variable {env : Env} {s t : RelayState} {rt : RelayRuntime} {now : ℕ} {clientId : String}

theorem bootstrap_wisps (request : BootstrapRequest) : (rt.bootstrap env now request).1.state.wisps = rt.state.wisps :=
  (Durability.bootstrap_stores now request).1

theorem admission_wisps (port : Port) (pending : Pending) (record : Challenge) (signature : String) :
    (rt.admission now port pending record signature).1.state.wisps = rt.state.wisps :=
  (Durability.admission_stores now port pending record signature).1

theorem conclude_wisps (port : Port) (pending : Pending) (proof : Json) :
    (rt.concludeAuthentication env now port pending proof).1.state.wisps = rt.state.wisps := by
  unfold RelayRuntime.concludeAuthentication
  dsimp only
  split_ifs
  · split
    · unfold RelayRuntime.checkProof
      dsimp only
      split_ifs
      · rfl
      · rfl
      · exact admission_wisps ..
      · rfl
    · rfl
  · rfl

end Wisps

end WispGate.Soundness.Catalogs
