import WispGate.Soundness.Administration

/-! # What a registration changes

A `wisps` message replaces the sender's manifests by its items, all in one table keyed by id. The
table changes only under ids the items name and where the sender was the owner; what the items
store does not depend on whether the sender is approved, and what a pending owner stored is in no
catalog.
-/

namespace WispGate.Soundness.Registration

open Data Model Model.Relay RelayState RelayRuntime

/-- The keys that a list of items is stored under. -/
def keysOf (items : List Json) : List Json :=
  items.filterMap fun item => if (item.get "id").truthy then (item.get "id").hashKey? else none

/-- The keys that the items of a message name. -/
def named (message : Json) : List Json := keysOf ((message.getD "items" (.arr [])).iterate?.getD [])

section Items

variable {wisps wisps' : Dict Json WispEntry} {clientId : String} {item key : Json} {items : List Json}

/-- An item leaves the table alone, or stores a manifest of its sender under its id. -/
theorem registerItem_cases (success : registerItem wisps clientId item = .ok wisps') :
    (keysOf [item] = [] ∧ wisps' = wisps) ∨ ∃ hash manifest, keysOf [item] = [hash] ∧
      manifest.owner = .str clientId ∧ wisps' = putWisp wisps (item.get "id") hash manifest := by
  unfold registerItem at success
  split_ifs at success with object present
  · split at success
    · cases success
    · rename_i hash hashed
      cases success
      exact .inr ⟨hash, _, by simp [keysOf, present, hashed], rfl, rfl⟩
  · cases success
    exact .inl ⟨by simp [keysOf, present], rfl⟩

variable (wisps key) in
theorem get?_putWisp (id hash : Json) (manifest : Manifest) :
    ∃ entry, entry.manifest = manifest ∧
      (putWisp wisps id hash manifest).get? key = if hash = key then some entry else wisps.get? key :=
  ⟨_, rfl, Dict.get?_insert ..⟩

theorem keysOf_cons (item : Json) (items : List Json) : keysOf (item :: items) = keysOf [item] ++ keysOf items := by
  rw [← List.singleton_append, keysOf, List.filterMap_append]
  rfl

variable (wisps clientId) in
/-- Entries under other keys stay, also when an item raises. -/
theorem registerItems_frame (unnamed : key ∉ keysOf items) :
    (registerItems wisps clientId items).1.get? key = wisps.get? key := by
  induction items generalizing wisps with
  | nil => rfl
  | cons item rest ih =>
    rw [keysOf_cons, List.mem_append, not_or] at unnamed
    unfold registerItems
    split
    · rfl
    · rename_i wisps' success
      rw [ih _ unnamed.2]
      rcases registerItem_cases success with ⟨_, rfl⟩ | ⟨hash, manifest, own, _, rfl⟩
      · rfl
      · obtain ⟨entry, _, found⟩ := get?_putWisp wisps key (item.get "id") hash manifest
        rw [found, if_neg]
        rintro rfl
        simp [own] at unnamed

variable (wisps clientId items key) in
/-- The entries under named keys are the sender's once no item raised. -/
theorem registerItems_owned (complete : (registerItems wisps clientId items).2 = none)
    (present : key ∈ keysOf items) :
    ∃ entry, (registerItems wisps clientId items).1.get? key = some entry ∧ entry.manifest.owner = .str clientId := by
  induction items generalizing wisps with
  | nil => cases present
  | cons item rest ih =>
    unfold registerItems at complete ⊢
    split at complete
    · cases complete
    · rename_i wisps' success
      by_cases later : key ∈ keysOf rest
      · exact ih _ complete later
      · rw [keysOf_cons, List.mem_append] at present
        rw [registerItems_frame _ _ later]
        rcases registerItem_cases success with ⟨none, _⟩ | ⟨hash, manifest, own, owner, rfl⟩
        · simp [none, later] at present
        · obtain rfl : key = hash := by simpa [own, later] using present
          obtain ⟨entry, rfl, found⟩ := get?_putWisp wisps key (item.get "id") key manifest
          exact ⟨entry, by rw [found, if_pos rfl], owner⟩

end Items

section Message

variable {env : Env} {rt : RelayRuntime} {now : ℕ} {clientId : String} {message key : Json} {entry : WispEntry}

/-- The manifests of other owners survive the removal of one owner's. -/
theorem removeWisps_get? (s : RelayState) :
    (s.removeWispsForOwner clientId).wisps.get? key = some entry ↔
      s.wisps.get? key = some entry ∧ entry.manifest.owner ≠ .str clientId := by
  have owned : entry.manifest.owner.pyEq (.str clientId) = true ↔ entry.manifest.owner = .str clientId := by
    cases entry.manifest.owner <;> simp [Json.pyEq, Json.number?]
  simp only [removeWispsForOwner, Dict.get?_filter, Option.filter_eq_some_iff, Bool.not_eq_true',
    Bool.eq_false_iff, ne_eq, owned]

theorem replaceWisps_frame {items : List Json} (unnamed : key ∉ keysOf items) :
    (rt.replaceWisps env now clientId items).1.state.wisps.get? key =
      (rt.state.removeWispsForOwner clientId).wisps.get? key := by
  have kept := registerItems_frame (rt.state.removeWispsForOwner clientId).wisps clientId unnamed
  unfold replaceWisps
  dsimp only
  split
  · rename_i wisps e result
    rw [← kept, result]
  · rename_i wisps result
    rw [result] at kept
    split
    · exact kept
    · split_ifs
      · exact kept
      · exact kept

/-- A registration that is answered stored its items under their keys and saved the state. -/
theorem replaceWisps_stores {items : List Json} {response : Json}
    (success : (rt.replaceWisps env now clientId items).2 = .ok response) :
    (∀ key ∈ keysOf items, ∃ entry, (rt.replaceWisps env now clientId items).1.state.wisps.get? key = some entry ∧
      entry.manifest.owner = .str clientId) ∧
    (rt.replaceWisps env now clientId items).1.state.file =
      some (rt.replaceWisps env now clientId items).1.state.snapshot := by
  have owned := fun key => registerItems_owned (rt.state.removeWispsForOwner clientId).wisps clientId key items
  unfold replaceWisps at success ⊢
  dsimp only at success ⊢
  split at success
  · cases success
  · rename_i wisps result
    rw [result] at owned
    split at success
    · cases success
    · split_ifs at success ⊢
      exact ⟨fun key present => owned key rfl present, rfl⟩

variable (env rt now clientId message) in
/-- A message raises before it touches the table, or replaces the sender's manifests by its items. -/
theorem registerWisps_cases :
    (∃ e, rt.registerWisps env now clientId message = (rt, .error e)) ∨
    ∃ (rt' : RelayRuntime) (items : List Json), rt'.state.wisps = rt.state.wisps ∧ named message = keysOf items ∧
      rt.registerWisps env now clientId message = rt'.replaceWisps env now clientId items := by
  unfold registerWisps
  split
  · exact .inl ⟨_, rfl⟩
  · rename_i items listed
    have names : named message = keysOf items := by simp [named, listed]
    split_ifs
    · split
      · exact .inl ⟨_, rfl⟩
      · rename_i state success
        refine .inr ⟨{ rt with state := state }, items, ?_, names, rfl⟩
        unfold registerClient at success
        dsimp only at success
        split_ifs at success <;> cases success <;> rfl
    · exact .inr ⟨rt, items, rfl, names, rfl⟩
    · exact .inl ⟨_, rfl⟩

/-- A manifest of another owner stays as long as the items do not name its key. -/
theorem registerWisps_keeps (unnamed : key ∉ named message) (known : rt.state.wisps.get? key = some entry)
    (other : entry.manifest.owner ≠ .str clientId) :
    (rt.registerWisps env now clientId message).1.state.wisps.get? key = some entry := by
  rcases registerWisps_cases env rt now clientId message
    with ⟨e, raised⟩ | ⟨rt', items, same, names, result⟩
  · rw [raised]
    exact known
  · rw [result, replaceWisps_frame (names ▸ unnamed), removeWisps_get?, same]
    exact ⟨known, other⟩

/-- Nothing comes under a key that the items do not name. -/
theorem registerWisps_adds (unnamed : key ∉ named message)
    (present : (rt.registerWisps env now clientId message).1.state.wisps.get? key = some entry) :
    rt.state.wisps.get? key = some entry := by
  rcases registerWisps_cases env rt now clientId message
    with ⟨e, raised⟩ | ⟨rt', items, same, names, result⟩
  · rw [raised] at present
    exact present
  · rw [result, replaceWisps_frame (names ▸ unnamed), removeWisps_get?, same] at present
    exact present.1

/-- An answered registration is stored, whatever the status of its sender. -/
theorem registerWisps_stores {response : Json}
    (success : (rt.registerWisps env now clientId message).2 = .ok response) :
    (∀ key ∈ named message, ∃ entry,
      (rt.registerWisps env now clientId message).1.state.wisps.get? key = some entry ∧
        entry.manifest.owner = .str clientId) ∧
    (rt.registerWisps env now clientId message).1.state.file =
      some (rt.registerWisps env now clientId message).1.state.snapshot := by
  rcases registerWisps_cases env rt now clientId message
    with ⟨e, raised⟩ | ⟨rt', items, same, names, result⟩
  · rw [raised] at success
    cases success
  · rw [result] at success ⊢
    rw [names]
    exact replaceWisps_stores success

end Message

/-! ## Catalogs -/

section Catalog

variable {env : Env} {rt : RelayRuntime} {now : ℕ} {clientId : String} {client : Option String}

/-- A manifest that is listed has a usable owner. -/
theorem catalogItem_usable {manifest : Manifest} {item : Json}
    (success : rt.catalogItem env now client manifest = .ok (some item)) :
    rt.ownerUsable manifest.owner = true ∧ item.get "owner" = manifest.owner := by
  unfold catalogItem at success
  split at success
  · cases success
  · split at success
    · cases success
    · split at success
      · cases success
      · split at success
        · cases success
        · split at success
          · cases success
          · rename_i usable
            dsimp only at success
            split at success
            · cases success
            · cases success
              exact ⟨by simpa using usable, rfl⟩

/-- A manifest of an owner who is not approved contributes nothing. -/
theorem catalogItem_hides {manifest : Manifest} {item : Json} (unusable : rt.endpointUsable clientId false = false)
    (success : rt.catalogItem env now client manifest = .ok (some item)) : item.get "owner" ≠ .str clientId := by
  obtain ⟨usable, owner⟩ := catalogItem_usable success
  intro own
  simp [ownerUsable, owner ▸ own, Json.asStr?, unusable] at usable

theorem catalogLoop_hides {manifests : List Manifest} {items : List Json}
    (unusable : rt.endpointUsable clientId false = false)
    (success : rt.catalogLoop env now client manifests = .ok items) :
    ∀ item ∈ items, item.get "owner" ≠ .str clientId := by
  induction manifests generalizing items with
  | nil =>
    cases success
    exact fun _ member => absurd member List.not_mem_nil
  | cons manifest rest ih =>
    unfold catalogLoop at success
    split at success
    · cases success
    · rename_i found listed
      split at success
      · cases success
      · rename_i others more
        cases success
        intro item member
        rcases List.mem_append.mp member with here | later
        · rw [Option.mem_toList] at here
          exact catalogItem_hides unusable (listed.trans (by rw [here]))
        · exact ih more item later

/-- Besides the relay's own entry, a catalog lists nothing of an endpoint that is not approved. -/
theorem catalogItems_hides {items : List Json} (unusable : rt.endpointUsable clientId false = false)
    (success : rt.catalogItems env now client = .ok items) :
    ∀ item ∈ items, item = managementItem env ∨ item.get "owner" ≠ .str clientId := by
  unfold catalogItems at success
  dsimp only at success
  split at success
  · cases success
  · rename_i listed found
    cases success
    intro item member
    rcases List.mem_append.mp member with own | later
    · left
      cases client with
      | none => cases own
      | some id =>
        dsimp only at own
        split_ifs at own
        · exact List.mem_singleton.mp own
        · cases own
    · exact .inr (catalogLoop_hides unusable found item later)

end Catalog

/-! ## The result -/

/-- In every state, for every message and sender: a manifest of another owner stays exactly as it was
unless an item names its id; nothing, so also no `management` entry, comes under an id that no item
names; an answered message stored its items for the sender and saved them, whatever its status; and
as long as a sender is pending no catalog lists what it stored. -/
theorem registration (env : Env) (rt : RelayRuntime) (now : ℕ) (clientId : String) (message : Json) :
    (∀ key entry, key ∉ named message → rt.state.wisps.get? key = some entry →
      entry.manifest.owner ≠ .str clientId →
      (rt.registerWisps env now clientId message).1.state.wisps.get? key = some entry) ∧
    (∀ key entry, key ∉ named message →
      (rt.registerWisps env now clientId message).1.state.wisps.get? key = some entry →
      rt.state.wisps.get? key = some entry) ∧
    (∀ response, (rt.registerWisps env now clientId message).2 = .ok response →
      (∀ key ∈ named message, ∃ entry,
        (rt.registerWisps env now clientId message).1.state.wisps.get? key = some entry ∧
          entry.manifest.owner = .str clientId) ∧
      (rt.registerWisps env now clientId message).1.state.file =
        some (rt.registerWisps env now clientId message).1.state.snapshot) ∧
    (∀ st, rt.state.standing clientId = some st → st.status = some "pending" → ∀ time client items,
      rt.catalogItems env time client = .ok items →
      ∀ item ∈ items, item = managementItem env ∨ item.get "owner" ≠ .str clientId) := by
  refine ⟨fun key entry unnamed known other => registerWisps_keeps unnamed known other,
    fun key entry unnamed present => registerWisps_adds unnamed present,
    fun response success => registerWisps_stores success, ?_⟩
  intro st known pending time client items success
  refine catalogItems_hides ?_ success
  obtain ⟨record, found, rfl⟩ := exists_record known
  have stands : record.status = some "pending" := pending
  simp [endpointUsable, found, stands]

/-- `bob` is approved and registered the Wisp `notes`; `mallory` is pending. -/
def registrations : List Operation :=
  [.bootstrap 0 ⟨"alice", "phone", ⟨"alice-key", true, 2048⟩, []⟩,
    .bootstrap 0 ⟨"bob", "wisp", ⟨"bob-key", true, 2048⟩, []⟩,
    .bootstrap 0 ⟨"mallory", "wisp", ⟨"mallory-key", true, 2048⟩, []⟩,
    .manage 0 "alice" (.obj [("action", .str "claim_admin")]),
    .manage 0 "alice" (.obj [("action", .str "approve"), ("client_id", .str "bob")]),
    .register 0 "bob" (.obj [("items", .arr [.obj [("id", .str "notes")]])])]

def registeredRelay : RelayRuntime := (replay (Operation.apply sampleEnv) {} registrations).getD {}

/-- What a pending endpoint registers takes another owner's id and the reserved one. -/
theorem registration_collides : ∃ rt, Reach (Operation.apply sampleEnv) anyStep Empty rt ∧
    (rt.state.standing "mallory").map Standing.status = some (some "pending") ∧
    (rt.state.wisps.get? (.str "notes")).map (·.manifest.owner) = some (.str "bob") ∧
    let message : Json := .obj [("items", .arr [.obj [("id", .str "notes")], .obj [("id", .str "management")]])]
    let after := (rt.registerWisps sampleEnv 0 "mallory" message).1.state
    (after.wisps.get? (.str "notes")).map (·.manifest.owner) = some (.str "mallory") ∧
    (after.wisps.get? (.str "management")).map (·.manifest.owner) = some (.str "mallory") ∧
    after.file ≠ rt.state.file := by
  have started : Empty ({} : RelayRuntime) := rfl
  have reach : Reach (Operation.apply sampleEnv) anyStep Empty registeredRelay :=
    Reach.of_defined started (by decide)
  exact ⟨registeredRelay, reach, by decide, by decide, by decide, by decide,
    by decide⟩

end WispGate.Soundness.Registration
