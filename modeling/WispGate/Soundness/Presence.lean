import WispGate.Soundness.Registry

/-! # Liveness and the catalog

The catalog asks for a liveness time where it means a session. The two tables agree as long as
nothing touches one of them alone: an order that evicts an online client leaves its liveness time,
and a line read for a client without a session adds one.
-/

namespace WispGate.Soundness.Presence

open Data Model Model.Relay Machine Revocation Registry

/-! ## Two tables in step -/

/-- The same clients have a session and a liveness time. -/
def InStep (t : Tables) : Prop := ∀ id, t.liveness.contains id = t.sessions.contains id

/-- The client that an event, reading the next line of a relay connection, hears from. -/
def hearing (m : Machine) : Event → Option String
  | .resume conn .read _ =>
    match m.connections.get? conn with
    | none => none
    | some c => if c.pc = .reading ∧ c.buffer ≠ [] then some (c.clientId.getD "") else none
  | _ => none

/-- A step that touches neither table alone: no line is read for a client without a session, and no
client with a liveness time is rejected or revoked. -/
def Attended (m : Machine) (e : Event) : Prop :=
  (∀ id ∈ hearing m e, m.runtime.sessions.contains id = true) ∧
    ∀ target ∈ barring m e, m.runtime.relayLiveness.contains target = false

instance (m : Machine) (e : Event) : Decidable (Attended m e) := inferInstanceAs (Decidable (_ ∧ _))

section InStep

variable {t : Tables} {id : String}

theorem InStep.dropSession (inStep : InStep t) (id : String) : InStep (t.dropSession id) := by
  intro other
  have same := inStep other
  simp only [Dict.contains] at same ⊢
  simp only [Tables.dropSession, Dict.get?_erase]
  split_ifs
  · rfl
  · exact same

theorem InStep.register (inStep : InStep t) (id : String) (conn : ConnId) (now : ℕ) :
    InStep (t.register id conn now) := by
  intro other
  have same := inStep other
  simp only [Dict.contains] at same ⊢
  simp only [Tables.register, Dict.get?_insert]
  split_ifs
  · rfl
  · exact same

theorem InStep.hear (inStep : InStep t) (present : t.sessions.contains id = true) (now : ℕ) :
    InStep (t.hear id now) := by
  intro other
  have same := inStep other
  simp only [Dict.contains] at same present ⊢
  simp only [Tables.hear, Dict.get?_insert]
  split_ifs with this
  · rw [← this, present]
    rfl
  · exact same

theorem InStep.evict (inStep : InStep t) (absent : t.liveness.contains id = false) : InStep (t.evict id) := by
  intro other
  have same := inStep other
  simp only [Dict.contains] at same absent ⊢
  simp only [Tables.evict, Dict.get?_erase]
  split_ifs with this
  · rw [← this, absent]
    rfl
  · exact same

theorem settles_inStep {conn : ConnId} {m : Machine} (settles : Settles conn t m) (inStep : InStep t) :
    InStep (tables m.runtime) := by
  cases settles with
  | keeps same => exact same ▸ inStep
  | leaves id own gone ended => exact gone ▸ inStep.dropSession id
  | parts id own gone ended => exact gone ▸ inStep

end InStep

variable {env : Env} {m m' : Machine}

theorem resume_inStep {conn : ConnId} {c : Connection} {outcome : Outcome} {draw : Draw}
    (inStep : InStep (tables m.runtime)) (attended : Attended m (.resume conn outcome draw))
    (here : m.connections.get? conn = some c) (success : m.resume env conn c outcome draw = some m') :
    InStep (tables m'.runtime) := by
  obtain ⟨c₀, taken, pc, port, client, took, stretch⟩ := resume_stretch here success
  cases stretch with
  | settles rest => exact settles_inStep rest inStep
  | hears start line rest =>
    obtain ⟨head, rfl⟩ := Option.isSome_iff_exists.mp line
    obtain ⟨rfl, others, buffer⟩ := took head rfl
    have heard : hearing m (.resume conn .read draw) = some (c.clientId.getD "") := by
      simp [hearing, here, buffer, pc ▸ start]
    exact settles_inStep rest (inStep.hear (client ▸ attended.1 _ heard) _)
  | registers id start port' rest => exact settles_inStep rest (inStep.register id conn m.now)
  | subscribes start rest => exact settles_inStep rest inStep
  | strikes current stale after start names ends gone =>
    rw [gone]
    intro id
    rw [Tables.strike_liveness, Tables.strike_sessions]
    exact inStep id
  | loses id destination start lost own rest => exact settles_inStep rest (inStep.dropSession id)
  | evicts message target start read kind orders gone =>
    obtain ⟨rfl, others, buffer⟩ := took _ read
    have barred : barring m (.resume conn .read draw) = some target := by
      simp only [barring, here, buffer]
      rw [if_pos ⟨pc ▸ start, kind⟩, ← client, orders]
    exact gone ▸ inStep.evict (attended.2 target barred)

/-- One step keeps the tables in step. -/
theorem step_inStep {e : Event} (inStep : InStep (tables m.runtime)) (attended : Attended m e)
    (stepped : m.step env e = some m') : InStep (tables m'.runtime) := by
  rcases Authentication.step_cases stepped with ⟨conn, c, outcome, draw, -, -, -, rfl, here, -⟩ | ⟨same, -⟩
  · simp only [Machine.step, here] at stepped
    exact resume_inStep inStep attended here stepped
  · exact same ▸ inStep

/-! ## What the catalog advertises -/

/-- An item that stands for a client that is approved, has a session and the recorded key. -/
structure Sound (rt : RelayRuntime) (owner : String) (item : Json) : Prop where
  named : item.get "owner" = .str owner
  approved : ∃ record, rt.state.clients.get? owner = some record ∧ record.status.getD "approved" = "approved" ∧
    record.publicKey = some (item.get "public_key")
  session : rt.sessions.contains owner = true

/-- What the catalog asks of a manifest it lists. -/
theorem catalogItem_listed {rt : RelayRuntime} {now : ℕ} {clientId : Option String} {manifest : Manifest}
    {item : Json} (listed : rt.catalogItem env now clientId manifest = .ok (some item)) :
    rt.relayOnline now manifest.owner = .ok true ∧ rt.ownerUsable manifest.owner = true ∧
      (rt.ownerKey manifest.owner).truthy = true ∧
      item = .obj (manifest.fields ++ [("public_key", rt.ownerKey manifest.owner)]) := by
  unfold RelayRuntime.catalogItem at listed
  split at listed
  · cases listed
  split at listed
  · cases listed
  rename_i online here
  split at listed
  · cases listed
  rename_i offline
  split at listed
  · cases listed
  split at listed
  · cases listed
  rename_i usable
  dsimp only at listed
  split at listed
  · cases listed
  rename_i key
  cases listed
  rw [here]
  exact ⟨congrArg _ (by simpa using offline), by simpa using usable, by simpa using (not_or.mp key).1, rfl⟩

theorem catalogItem_sound {rt : RelayRuntime} (inStep : InStep (tables rt)) {now : ℕ} {clientId : Option String}
    {manifest : Manifest} {item : Json} (listed : rt.catalogItem env now clientId manifest = .ok (some item)) :
    ∃ owner, Sound rt owner item := by
  obtain ⟨online, usable, key, rfl⟩ := catalogItem_listed listed
  cases owned : manifest.owner with
  | str owner =>
    rw [owned] at online usable key
    refine ⟨owner, by simp [Json.get, Json.lookup, Manifest.fields, owned], ?_, ?_⟩
    · cases found : rt.state.clients.get? owner with
      | none => simp [RelayRuntime.ownerKey, Json.asStr?, found, Json.truthy] at key
      | some record =>
        refine ⟨record, rfl, ?_, ?_⟩
        · simpa [RelayRuntime.ownerUsable, Json.asStr?, RelayRuntime.endpointUsable, found] using usable
        · have recorded : rt.ownerKey (.str owner) = record.publicKey.getD .null := by
            simp [RelayRuntime.ownerKey, Json.asStr?, found]
          rw [recorded] at key
          cases publicKey : record.publicKey with
          | none => simp [publicKey, Json.truthy] at key
          | some value => simp [Json.get, Json.lookup, Manifest.fields, recorded, publicKey]
    · have same : rt.relayLiveness.contains owner = rt.sessions.contains owner := inStep owner
      rw [← same]
      cases heard : rt.relayLiveness.get? owner with
      | none => simp [RelayRuntime.relayOnline, heard] at online
      | some time => exact (Dict.contains_iff ..).mpr ⟨time, heard⟩
  | _ =>
    rw [owned] at online
    simp [RelayRuntime.relayOnline] at online

theorem catalogLoop_sound {rt : RelayRuntime} (inStep : InStep (tables rt)) {now : ℕ} {clientId : Option String}
    {manifests : List Manifest} {items : List Json} (listed : rt.catalogLoop env now clientId manifests = .ok items) :
    ∀ item ∈ items, ∃ owner, Sound rt owner item := by
  induction manifests generalizing items with
  | nil =>
    cases listed
    simp
  | cons manifest rest ih =>
    simp only [RelayRuntime.catalogLoop] at listed
    split at listed
    · cases listed
    rename_i first here
    split at listed
    · cases listed
    rename_i others there
    cases listed
    intro item member
    rcases List.mem_append.mp member with own | other
    · obtain rfl := Option.mem_toList.mp own
      exact catalogItem_sound inStep here
    · exact ih there item other

theorem catalogItems_sound {rt : RelayRuntime} (inStep : InStep (tables rt)) {now : ℕ} {clientId : Option String}
    {items : List Json} (listed : rt.catalogItems env now clientId = .ok items) :
    ∀ item ∈ items, item = RelayRuntime.managementItem env ∨ ∃ owner, Sound rt owner item := by
  simp only [RelayRuntime.catalogItems] at listed
  split at listed
  · cases listed
  rename_i others there
  cases listed
  intro item member
  rcases List.mem_append.mp member with own | other
  · left
    split at own
    · split_ifs at own
      · exact List.mem_singleton.mp own
      · cases own
    · cases own
  · exact .inr (catalogLoop_sound inStep there item other)

/-- In every run whose steps touch neither table alone, a client has a liveness time just when it has
a session, and what the catalog advertises is sound. -/
theorem presence (env : Env) (reach : Reach (Machine.step env) Attended (Machine.Started env) m) :
    (∀ id, m.runtime.relayLiveness.contains id = m.runtime.sessions.contains id) ∧
      ∀ clientId items, m.runtime.catalogItems env m.now clientId = .ok items →
        ∀ item ∈ items, item = RelayRuntime.managementItem env ∨ ∃ owner, Sound m.runtime owner item := by
  have inStep : InStep (tables m.runtime) := by
    refine reach.invariant (fun m => InStep (tables m.runtime)) ?_ ?_
    · rintro m ⟨⟨sessions, liveness, -⟩, -⟩ id
      simp only [tables, sessions, liveness]
    · intro m e m' _ inStep attended stepped
      exact step_inStep inStep attended stepped
  exact ⟨inStep, fun clientId items listed => catalogItems_sound inStep listed⟩

/-! ## Runs -/

/-- `bob` registers, is heard and hangs up. -/
def visitingRun : List Event :=
  handshakeOf 1 .relay "bob" "bob-key" ++
    [.resume 1 .sent ⟨"", ""⟩, .resume 1 .sent ⟨"", ""⟩, .receive 1 (some (.obj [("type", .str "pong")])),
      .resume 1 .read ⟨"first", "first"⟩]

def visitedMachine : Machine := (replay (guarded (Machine.step sampleEnv) Attended) startedMachine visitingRun).getD {}

theorem presence_visited : visitedMachine.runtime.relayLiveness.contains "bob" = true ∧
    visitedMachine.runtime.sessions.contains "bob" = true := by
  have reach : Reach (Machine.step sampleEnv) Attended (Machine.Started sampleEnv) visitedMachine :=
    Reach.of_guarded_defined startedMachine_started (by decide)
  have live : visitedMachine.runtime.relayLiveness.contains "bob" = true := by decide
  exact ⟨live, ((presence sampleEnv reach).1 "bob").symm.trans live⟩

/-- The revocation of a client that is online leaves its liveness time. -/
theorem presence_revoked : ¬ ∀ (env : Env) (m : Machine),
    Reach (Machine.step env) anyStep (Machine.Started env) m →
    (∀ id, m.runtime.relayLiveness.contains id = m.runtime.sessions.contains id) ∧
      ∀ clientId items, m.runtime.catalogItems env m.now clientId = .ok items →
        ∀ item ∈ items, item = RelayRuntime.managementItem env ∨ ∃ owner, Sound m.runtime owner item := by
  intro claim
  have reach : Reach (Machine.step sampleEnv) Clean (Machine.Started sampleEnv) revokedMachine :=
    Reach.of_guarded_defined startedMachine_started (by decide +kernel)
  have same := (claim sampleEnv revokedMachine reach.any).1 "bob"
  have apart : revokedMachine.runtime.relayLiveness.contains "bob" ≠ revokedMachine.runtime.sessions.contains "bob" := by
    decide +kernel
  exact apart same

end WispGate.Soundness.Presence
