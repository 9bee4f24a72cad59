import WispGate.Model.Relay.Operations
import WispGate.Data.Transition

/-! # Who administers a relay

A claim of the administrator's place asks for no authority, so its safety rests on an invariant of
the client records: an administrator is approved and alone, and an endpoint is only ever rejected
or revoked once there is one. Every operation changes the standings in one of four ways
(`Change`), the file always agrees with memory on them, and so reloading changes nothing either.
-/

namespace WispGate.Soundness.Administration

open Data Model Model.Relay RelayState

/-- The statuses an endpoint can have. -/
def statuses : List String := ["approved", "rejected", "revoked", "pending"]

/-- The invariant of the client records and of the file they are reloaded from. -/
structure Governed (s : RelayState) : Prop where
  complete : ∀ c st, s.standing c = some st → (∃ key, st.publicKey = some (.str key)) ∧
    (∃ status ∈ statuses, st.status = some status) ∧ st.admin.isSome
  approved : ∀ c st, s.standing c = some st → st.admin = some true → st.status = some "approved"
  unique : ∀ c d, s.IsAdministrator c → s.IsAdministrator d → c = d
  governs : ∀ c st, s.standing c = some st →
    st.status = some "rejected" ∨ st.status = some "revoked" → ∃ a, s.IsAdministrator a
  synced : ∀ data, s.file = some data →
    ∀ c, (data.clients.get? c).map ClientRecord.standing = s.standing c

/-! ## What the operations change -/

section Changes

variable {s t : RelayState} {env : Env} {rt : RelayRuntime}

theorem hasKey_iff (record : ClientRecord) (key : String) :
    record.hasKey key = true ↔ record.publicKey = some (.str key) := by
  cases found : record.publicKey <;> simp [ClientRecord.hasKey, found]

/-- Enrolment leaves a record that holds the offered key, freshly created or already there. -/
theorem enrollClient_cases {clientId publicKey access : String} {kind : Json} {now : ℕ}
    (success : s.enrollClient clientId publicKey kind now = .ok (t, access)) :
    (∃ st, s.standing clientId = some st ∧ st.publicKey = some (.str publicKey) ∧ t = s ∧
      access = if st.admin.getD false then "admin" else st.status.getD "pending") ∨
    (s.standing clientId = none ∧ access = "pending" ∧
      t.standing = Function.update s.standing clientId
        (some ⟨some (.str publicKey), some "pending", some false⟩) ∧
      t.Saved) := by
  unfold enrollClient at success
  cases found : s.clients.get? clientId with
  | some record =>
    simp only [found] at success
    split_ifs at success with changed admin <;> cases success
    all_goals
      refine .inl ⟨record.standing, standing_eq_some found, ?_, rfl, ?_⟩
      · exact (hasKey_iff _ _).mp (by simpa using changed)
      · simp [ClientRecord.isAdmin] at admin
        simp [ClientRecord.standing, admin]
  | none =>
    simp only [found] at success
    cases success
    refine .inr ⟨standing_eq_none_iff.mpr found, rfl, ?_, saved_save _⟩
    rw [save_standing, standing_insert]
    rfl

variable (s) in
theorem clientAccess_cases (clientId publicKey : String) :
    s.clientAccess clientId publicKey = "unknown_endpoint" ∨
    s.clientAccess clientId publicKey = "endpoint_key_changed" ∨
    ∃ st, s.standing clientId = some st ∧ st.publicKey = some (.str publicKey) ∧
      s.clientAccess clientId publicKey = st.status.getD "approved" := by
  unfold clientAccess
  cases found : s.clients.get? clientId with
  | none => exact .inl rfl
  | some record =>
    by_cases same : record.hasKey publicKey
    · refine .inr (.inr ⟨record.standing, standing_eq_some found, (hasKey_iff _ _).mp same, ?_⟩)
      simp [same, ClientRecord.standing]
    · exact .inr (.inl (by simp [same]))

/-- Registering the key a record already holds keeps its standing. -/
theorem registerClient_keeps {clientId : String} {key : Json} {replace : Bool} {now : ℕ} {st : Standing}
    (known : s.standing clientId = some st) (recorded : ∃ old, st.publicKey = some (.str old))
    (success : s.registerClient clientId key replace now = .ok t) :
    t.standing = s.standing ∧ t.file = s.file := by
  obtain ⟨record, found, rfl⟩ := exists_record known
  obtain ⟨old, recorded⟩ := recorded
  have key_found : record.publicKey = some (.str old) := recorded
  unfold registerClient at success
  simp only [found, Option.getD_some, key_found] at success
  split_ifs at success with changed replaced
  · have same : key = .str old := by
      by_contra other
      refine changed ⟨by simp, fun equal => other ?_⟩
      cases key <;> simp_all [Json.pyEq, Json.number?]
    cases success
    exact ⟨standing_insert_same found (by simp [ClientRecord.standing, same, key_found]), rfl⟩
  · cases success
    exact ⟨standing_insert_same found (by simp [ClientRecord.standing]), rfl⟩

theorem registerClient_succeeds {clientId key : String} {st : Standing} (replace : Bool) (now : ℕ)
    (known : s.standing clientId = some st) (recorded : st.publicKey = some (.str key)) :
    ∃ t, s.registerClient clientId (.str key) replace now = .ok t := by
  obtain ⟨record, found, rfl⟩ := exists_record known
  have key_found : record.publicKey = some (.str key) := recorded
  unfold registerClient
  simp [found, key_found]

theorem bootstrap_change (now : ℕ) (request : BootstrapRequest) :
    Change rt.state (.bootstrap now request) (rt.bootstrap env now request).1.state := by
  unfold RelayRuntime.bootstrap
  dsimp only
  split_ifs with enrolling
  · cases result : rt.state.enrollClient request.clientId request.clientKey.encoded
        (.str request.clientKind) now with
    | error e => exact .keeps rfl (fileKept_refl _)
    | ok enrolled =>
      obtain ⟨t, access⟩ := enrolled
      rcases enrollClient_cases result with ⟨_, _, _, rfl, _⟩ | ⟨fresh, _, changed, saved⟩
      · exact .keeps rfl (fileKept_refl _)
      · exact .enrols _ _ fresh changed saved trivial
  · exact .keeps rfl (fileKept_refl _)
  · exact .keeps rfl (fileKept_refl _)

/-- A change is not undone by what keeps the standings. -/
theorem change_keep {op : Operation} {final : RelayState} (first : Change s op t)
    (same : final.standing = t.standing) (file : FileKept t final) : Change s op final := by
  cases first with
  | keeps kept file' => exact .keeps (same.trans kept) (file'.trans file same)
  | enrols c k fresh now saved actor => exact .enrols c k fresh (same.trans now) (saved.keep same file) actor
  | claims c st known vacant actor now saved =>
    exact .claims c st known vacant actor (same.trans now) (saved.keep same file)
  | sets a c action st known authority other actor now saved =>
    exact .sets a c action st known authority other actor (same.trans now) (saved.keep same file)

theorem accessAllowed_of_clientAccess {port : Port} {clientId key : String}
    (allowed : RelayRuntime.accessAllowed port (s.clientAccess clientId key) = true) :
    ∃ st, s.standing clientId = some st ∧ st.publicKey = some (.str key) := by
  rcases clientAccess_cases s clientId key
    with unknown | changed | ⟨st, found, recorded, _⟩
  · rw [unknown] at allowed
    cases port <;> exact absurd allowed (by decide)
  · rw [changed] at allowed
    cases port <;> exact absurd allowed (by decide)
  · exact ⟨st, found, recorded⟩

/-- An allowed access leaves a record that holds the proved key. -/
theorem checkAccess_change {now : ℕ} {pending : Pending} {record : Challenge} {access : String}
    (op : Operation) (actor : pending.known = false → op.enrols)
    (success : rt.checkAccess now pending record = .ok (t, access)) :
    Change rt.state op t ∧ ∀ port, RelayRuntime.accessAllowed port access = true →
      ∃ st, t.standing record.clientId = some st ∧ st.publicKey = some (.str record.publicKey) := by
  unfold RelayRuntime.checkAccess at success
  split_ifs at success with known
  · cases success
    exact ⟨.keeps rfl (fileKept_refl _), fun _ allowed => accessAllowed_of_clientAccess allowed⟩
  · rcases enrollClient_cases success with ⟨st, found, recorded, rfl, _⟩ | ⟨fresh, _, changed, saved⟩
    · exact ⟨.keeps rfl (fileKept_refl _), fun _ _ => ⟨st, found, recorded⟩⟩
    · refine ⟨.enrols _ _ fresh changed saved (actor (by simpa using known)), fun _ _ =>
        ⟨⟨some (.str record.publicKey), some "pending", some false⟩, ?_, rfl⟩⟩
      rw [changed, Function.update_self]

variable (rt) in
theorem completeAdmission_change {op : Operation} {now : ℕ} {port : Port} {pending : Pending}
    {record : Challenge} {signature access : String} (first : Change s op rt.state)
    (recorded : RelayRuntime.accessAllowed port access = true → ∃ st,
      rt.state.standing record.clientId = some st ∧ st.publicKey = some (.str record.publicKey)) :
    Change s op (rt.completeAdmission now port pending record signature access).1.state := by
  unfold RelayRuntime.completeAdmission
  split_ifs with allowed
  · obtain ⟨st, found, holds⟩ := recorded allowed
    obtain ⟨registered, success⟩ := registerClient_succeeds false now found holds
    obtain ⟨same, _⟩ := registerClient_keeps found ⟨_, holds⟩ success
    simp only [success]
    refine change_keep first ?_ (fileKept_save _ _)
    exact (standing_modify_same registered record.clientId
      (fun client => { client with clientKind := some record.clientKind }) fun _ => rfl).trans same
  · exact first

variable (rt) in
theorem admit_change (now : ℕ) (port : Port) (pending : Pending) (record : Challenge) (signature : String) :
    Change rt.state (.admission now port pending record signature)
      (rt.admission now port pending record signature).1.state := by
  unfold RelayRuntime.admission
  split
  · exact .keeps rfl (fileKept_refl _)
  · rename_i t access success
    obtain ⟨first, recorded⟩ := checkAccess_change (.admission now port pending record signature) id success
    exact completeAdmission_change { rt with state := t } first (recorded port)

variable (env rt) in
/-- The Wisp table is not part of any standing. -/
theorem replaceWisps_keeps (now : ℕ) (clientId : String) (items : List Json) :
    (rt.replaceWisps env now clientId items).1.state.clients = rt.state.clients ∧
      rt.state.FileKept (rt.replaceWisps env now clientId items).1.state := by
  unfold RelayRuntime.replaceWisps
  dsimp only
  split
  · exact ⟨rfl, .inl rfl⟩
  · split
    · exact ⟨rfl, fileKept_save _ _⟩
    · split_ifs
      · exact ⟨rfl, fileKept_save _ _⟩
      · exact ⟨rfl, fileKept_save _ _⟩

theorem standing_congr (same : t.clients = s.clients) : t.standing = s.standing := by
  funext c
  simp [standing, same]

theorem register_change (governed : Governed rt.state) {now : ℕ} {clientId : String} {message : Json}
    (enrolled : rt.state.clients.contains clientId = true) :
    Change rt.state (.register now clientId message) (rt.registerWisps env now clientId message).1.state := by
  unfold RelayRuntime.registerWisps
  split
  · exact .keeps rfl (fileKept_refl _)
  · split_ifs
    · split
      · exact .keeps rfl (fileKept_refl _)
      · rename_i registered success
        obtain ⟨record, found⟩ := (Dict.contains_iff _ _).mp enrolled
        have known := standing_eq_some found
        obtain ⟨same, file⟩ := registerClient_keeps known (governed.complete _ _ known).1 success
        obtain ⟨clients, kept⟩ := replaceWisps_keeps env { rt with state := registered }
          now clientId _
        refine .keeps ((standing_congr clients).trans same) ?_
        rcases kept with kept | saved
        · exact .inl (kept.trans file)
        · exact .inr saved
    · obtain ⟨clients, kept⟩ := replaceWisps_keeps env rt now clientId _
      exact .keeps (standing_congr clients) kept
    · exact .keeps rfl (fileKept_refl _)

/-! ### Management requests -/

theorem claimAdmin_change (now : ℕ) {clientId : String} {request : Json}
    (action : request.get "action" = .str "claim_admin") :
    Change s (.manage now clientId request) (s.claimAdmin clientId).1 := by
  unfold claimAdmin
  split
  · exact .keeps rfl (fileKept_refl _)
  · rename_i record found
    split_ifs with already claimed
    · exact .keeps rfl (fileKept_refl _)
    · exact .keeps rfl (fileKept_refl _)
    · refine .claims clientId record.standing (standing_eq_some found) ?_ ⟨now, request, rfl, action⟩ ?_
        (saved_save _)
      · rintro other st known ⟨admin, approved⟩
        obtain ⟨held, present, rfl⟩ := exists_record known
        refine claimed (List.any_eq_true.mpr ⟨held, (Dict.mem_values_iff _ _).mpr ⟨_, present⟩, ?_⟩)
        have holds : held.admin = some true := admin
        have stands : held.status = some "approved" := approved
        simp [ClientRecord.approvedAdmin, ClientRecord.isAdmin, holds, stands]
      · rw [save_standing, standing_insert]
        rfl

theorem setClientStatus_standing {target action : String} (kind : action = "approve" ∨ action = "reject" ∨
      action = "revoke") (success : s.setClientStatus target (RelayRuntime.actionStatus action) = .ok t) :
    ∃ st, s.standing target = some st ∧ t.standing = Function.update s.standing target
        (some ⟨st.publicKey, some (RelayRuntime.actionStatus action),
          if action = "approve" then st.admin else some false⟩) ∧
      t.Saved := by
  cases found : s.clients.get? target with
  | none =>
    rcases kind with rfl | rfl | rfl <;>
      simp [setClientStatus, RelayRuntime.actionStatus, found] at success
  | some record =>
    refine ⟨record.standing, standing_eq_some found, ?_⟩
    rcases kind with rfl | rfl | rfl
    all_goals
      simp only [setClientStatus, RelayRuntime.actionStatus, found] at success
      cases success
      refine ⟨?_, saved_save _⟩
      rw [save_standing, standing_insert]
      rfl

theorem isAdmin_administrator {clientId : String} (admin : rt.isAdmin clientId = true) :
    rt.state.IsAdministrator clientId := by
  unfold RelayRuntime.isAdmin at admin
  cases found : rt.state.clients.get? clientId with
  | none => simp [found] at admin
  | some record =>
    refine ⟨record.standing, standing_eq_some found, ?_⟩
    simp only [found, Option.map_some, Option.getD_some, Bool.and_eq_true] at admin
    cases flag : record.admin <;> simp_all [ClientRecord.isAdmin, ClientRecord.standing]

theorem setStatusRequest_change (now : ℕ) {clientId action : String} {request : Json}
    (admin : rt.isAdmin clientId = true) (asked : request.get "action" = .str action)
    (kind : action = "approve" ∨ action = "reject" ∨ action = "revoke") :
    Change rt.state (.manage now clientId request)
      (rt.setStatusRequest clientId action (request.get "client_id")).1.state := by
  unfold RelayRuntime.setStatusRequest
  split
  · exact .keeps rfl (fileKept_refl _)
  · rename_i target named
    rw [Json.asStr?_eq_some_iff] at named
    by_cases self : target = clientId
    · rw [if_pos self]
      exact .keeps rfl (fileKept_refl _)
    · rw [if_neg self]
      split
      · exact .keeps rfl (fileKept_refl _)
      · exact .keeps rfl (fileKept_refl _)
      · rename_i t success
        obtain ⟨st, known, changed, saved⟩ := setClientStatus_standing kind success
        have actor : ∃ now' request', Operation.manage now clientId request = .manage now' clientId request' ∧
            request'.get "action" = .str action ∧ request'.get "client_id" = .str target ∧
            (action = "approve" ∨ action = "reject" ∨ action = "revoke") :=
          ⟨now, request, rfl, asked, named, kind⟩
        dsimp only
        split_ifs
        · exact .sets clientId target action st known (isAdmin_administrator admin) self actor changed saved
        · exact .sets clientId target action st known (isAdmin_administrator admin) self actor changed saved

variable (rt) in
/-- Requests about Wisps leave the clients alone. -/
theorem wispRequest_keeps (clientId : String) (request : Json) :
    (rt.registerWispRequest clientId request).1.state.clients = rt.state.clients ∧
      rt.state.FileKept (rt.registerWispRequest clientId request).1.state ∧
      (rt.removeWispRequest (request.get "id")).1.state.clients = rt.state.clients ∧
      rt.state.FileKept (rt.removeWispRequest (request.get "id")).1.state := by
  refine ⟨?_, ?_, ?_, ?_⟩
  · unfold RelayRuntime.registerWispRequest
    dsimp only
    split_ifs <;> rfl
  · unfold RelayRuntime.registerWispRequest
    dsimp only
    split_ifs
    · exact fileKept_refl _
    · exact fileKept_save _ _
  · unfold RelayRuntime.removeWispRequest
    split
    · rfl
    · dsimp only
      split_ifs <;> rfl
  · unfold RelayRuntime.removeWispRequest
    split
    · exact fileKept_refl _
    · dsimp only
      split_ifs
      · exact fileKept_save _ _
      · exact fileKept_refl _

theorem adminRequest_change (now : ℕ) {clientId action : String} {request : Json}
    (admin : rt.isAdmin clientId = true) (asked : action = "" ∨ request.get "action" = .str action) :
    Change rt.state (.manage now clientId request) (rt.adminRequest env clientId action request).1.state := by
  obtain ⟨registered, registeredFile, removed, removedFile⟩ :=
    wispRequest_keeps rt clientId request
  refine RelayRuntime.adminRequest_cases (motive := fun result => Change rt.state (.manage now clientId request) result.1.state)
    (fun _ => .keeps rfl (fileKept_refl _)) (fun status => ?_) (fun _ => ?_) ?_
  · rcases asked with rfl | asked
    · simp at status
    · exact setStatusRequest_change now admin asked status
  · exact .keeps (standing_congr registered) registeredFile
  · exact .keeps (standing_congr removed) removedFile

theorem manage_change (now : ℕ) (clientId : String) (request : Json) :
    Change rt.state (.manage now clientId request) (rt.managementRequest env now clientId request).1.state := by
  unfold RelayRuntime.managementRequest
  split
  · exact .keeps rfl (fileKept_refl _)
  · split
    · exact .keeps rfl (fileKept_refl _)
    · dsimp only
      split_ifs with own claim admin
      · exact .keeps rfl (fileKept_refl _)
      · exact claimAdmin_change now ((Json.asStr?_eq_some_iff _ _).mp claim)
      · cases asked : (request.get "action").asStr? with
        | none => exact adminRequest_change now admin (.inl rfl)
        | some action => exact adminRequest_change now admin (.inr ((Json.asStr?_eq_some_iff _ _).mp asked))
      · exact .keeps rfl (fileKept_refl _)

end Changes

/-! ## The invariant -/

section Invariant

variable {s t : RelayState} {env : Env} {rt rt' : RelayRuntime} {op : Operation}

theorem loaded_standing {record : ClientRecord} {status : String} (named : record.status = some status)
    (admin : record.admin.isSome) : (loadedRecord record).standing = record.standing := by
  obtain ⟨admin, flagged⟩ := Option.isSome_iff_exists.mp admin
  simp [loadedRecord, ClientRecord.standing, named, flagged]

/-- Reloading the file a governed state saved changes no standing. -/
theorem load_standing (governed : Governed s) : s.load.standing = s.standing := by
  unfold load
  split
  · rfl
  · rename_i data file
    funext c
    have synced := governed.synced data file c
    simp only [standing, Dict.get?_mapValues, Option.map_map] at synced ⊢
    rw [← synced]
    cases found : data.clients.get? c with
    | none => rfl
    | some record =>
      have known : s.standing c = some record.standing := by simp [standing, ← synced, found]
      obtain ⟨_, ⟨status, _, named⟩, admin⟩ := governed.complete c _ known
      simp [loaded_standing named admin]

theorem load_file (s : RelayState) : s.load.file = s.file := by
  unfold load
  split
  · rfl
  · rfl

/-- The invariant reads nothing but the standings and the clients of the file. -/
theorem Governed.transfer (governed : Governed s) (same : t.standing = s.standing) (file : FileKept s t) :
    Governed t where
  complete := same ▸ governed.complete
  approved := same ▸ governed.approved
  unique c d := by
    simp only [IsAdministrator, same]
    exact governed.unique c d
  governs c st := by
    simp only [IsAdministrator, same]
    exact governed.governs c st
  synced data saved c := by
    rcases file with kept | ⟨data', saved', agrees⟩
    · rw [same]
      exact governed.synced data (kept ▸ saved) c
    · obtain rfl : data = data' := Option.some.inj (saved.symm.trans saved')
      exact agrees c

theorem synced_of_saved (saved : t.Saved) :
    ∀ data, t.file = some data → ∀ c, (data.clients.get? c).map ClientRecord.standing = t.standing c := by
  rintro data written c
  obtain ⟨data', written', agrees⟩ := saved
  obtain rfl : data = data' := Option.some.inj (written.symm.trans written')
  exact agrees c

/-- Standings after one of them was replaced. -/
theorem updated_iff {c d : String} {new st : Standing} (now : t.standing = Function.update s.standing c (some new)) :
    t.standing d = some st ↔ (d = c ∧ st = new) ∨ (d ≠ c ∧ s.standing d = some st) := by
  rw [now]
  by_cases same : d = c
  · subst same
    simp [eq_comm]
  · simp [same]

theorem enrols_governed (governed : Governed s) {c key : String} (fresh : s.standing c = none)
    (now : t.standing = Function.update s.standing c (some ⟨some (.str key), some "pending", some false⟩))
    (saved : t.Saved) : Governed t where
  complete d st known := by
    rcases (updated_iff now).mp known with ⟨_, rfl⟩ | ⟨_, known⟩
    · exact ⟨⟨key, rfl⟩, ⟨_, by decide, rfl⟩, rfl⟩
    · exact governed.complete d st known
  approved d st known admin := by
    rcases (updated_iff now).mp known with ⟨_, rfl⟩ | ⟨_, known⟩
    · cases admin
    · exact governed.approved d st known admin
  unique d e := by
    rintro ⟨_, known, admin⟩ ⟨_, known', admin'⟩
    rcases (updated_iff now).mp known with ⟨_, rfl⟩ | ⟨_, known⟩
    · cases admin
    · rcases (updated_iff now).mp known' with ⟨_, rfl⟩ | ⟨_, known'⟩
      · cases admin'
      · exact governed.unique d e ⟨_, known, admin⟩ ⟨_, known', admin'⟩
  governs d st known barred := by
    rcases (updated_iff now).mp known with ⟨_, rfl⟩ | ⟨_, known⟩
    · rcases barred with barred | barred <;> simp at barred
    · obtain ⟨a, st', found, admin⟩ := governed.governs d st known barred
      refine ⟨a, st', (updated_iff now).mpr (.inr ⟨?_, found⟩), admin⟩
      rintro rfl
      rw [fresh] at found
      cases found
  synced := synced_of_saved saved

/-- After a claim on a relay without an administrator the claimer is the only one. -/
theorem claims_governed (governed : Governed s) {c : String} {old : Standing} (known : s.standing c = some old)
    (vacant : ∀ d, ¬ s.IsAdministrator d)
    (now : t.standing = Function.update s.standing c (some ⟨old.publicKey, some "approved", some true⟩))
    (saved : t.Saved) : Governed t where
  complete d st found := by
    rcases (updated_iff now).mp found with ⟨_, rfl⟩ | ⟨_, found⟩
    · exact ⟨(governed.complete c old known).1, ⟨_, by decide, rfl⟩, rfl⟩
    · exact governed.complete d st found
  approved d st found admin := by
    rcases (updated_iff now).mp found with ⟨_, rfl⟩ | ⟨_, found⟩
    · rfl
    · exact absurd ⟨st, found, admin⟩ (vacant d)
  unique d e := by
    rintro ⟨_, found, admin⟩ ⟨_, found', admin'⟩
    rcases (updated_iff now).mp found with ⟨rfl, _⟩ | ⟨_, found⟩
    · rcases (updated_iff now).mp found' with ⟨rfl, _⟩ | ⟨_, found'⟩
      · rfl
      · exact absurd ⟨_, found', admin'⟩ (vacant e)
    · exact absurd ⟨_, found, admin⟩ (vacant d)
  governs _ _ _ _ := ⟨c, _, (updated_iff now).mpr (.inl ⟨rfl, rfl⟩), rfl⟩
  synced := synced_of_saved saved

theorem actionStatus_mem (action : String) : RelayRuntime.actionStatus action ∈ statuses := by
  unfold RelayRuntime.actionStatus
  split_ifs <;> decide

/-- An administrator sets the status of another endpoint and stays the only administrator. -/
theorem sets_governed (governed : Governed s) {a c action : String} {old : Standing}
    (known : s.standing c = some old) (authority : s.IsAdministrator a) (other : c ≠ a)
    (now : t.standing = Function.update s.standing c (some ⟨old.publicKey,
      some (RelayRuntime.actionStatus action), if action = "approve" then old.admin else some false⟩))
    (saved : t.Saved) : Governed t := by
  have lay : old.admin ≠ some true := fun admin => other (governed.unique c a ⟨old, known, admin⟩ authority)
  have remains : ∃ st, t.standing a = some st ∧ st.admin = some true := by
    obtain ⟨st, found, admin⟩ := authority
    exact ⟨st, (updated_iff now).mpr (.inr ⟨Ne.symm other, found⟩), admin⟩
  have unset : ∀ {b : Option Bool}, b = (if action = "approve" then old.admin else some false) →
      b ≠ some true := by
    rintro b rfl
    split_ifs
    · exact lay
    · simp
  exact
    { complete := by
        rintro d st found
        rcases (updated_iff now).mp found with ⟨_, rfl⟩ | ⟨_, found⟩
        · obtain ⟨key, _, admin⟩ := governed.complete c old known
          refine ⟨key, ⟨_, actionStatus_mem action, rfl⟩, ?_⟩
          dsimp only
          split_ifs
          · exact admin
          · rfl
        · exact governed.complete d st found
      approved := by
        rintro d st found admin
        rcases (updated_iff now).mp found with ⟨_, rfl⟩ | ⟨_, found⟩
        · exact absurd admin (unset rfl)
        · exact governed.approved d st found admin
      unique := by
        rintro d e ⟨_, found, admin⟩ ⟨_, found', admin'⟩
        rcases (updated_iff now).mp found with ⟨_, rfl⟩ | ⟨_, found⟩
        · exact absurd admin (unset rfl)
        · rcases (updated_iff now).mp found' with ⟨_, rfl⟩ | ⟨_, found'⟩
          · exact absurd admin' (unset rfl)
          · exact governed.unique d e ⟨_, found, admin⟩ ⟨_, found', admin'⟩
      governs := fun _ _ _ _ => ⟨a, remains⟩
      synced := synced_of_saved saved }

/-- In a governed state nobody is an administrator when nobody is an approved one. -/
theorem vacant_of_governed (governed : Governed s)
    (vacant : ∀ d st, s.standing d = some st → ¬ (st.admin = some true ∧ st.status = some "approved"))
    (d : String) : ¬ s.IsAdministrator d := by
  rintro ⟨st, known, admin⟩
  exact vacant d st known ⟨admin, governed.approved d st known admin⟩

theorem change_governed (governed : Governed s) (change : Change s op t) : Governed t := by
  cases change with
  | keeps same file => exact governed.transfer same file
  | enrols c key fresh now saved _ => exact enrols_governed governed fresh now saved
  | claims c st known vacant actor now saved =>
    exact claims_governed governed known (vacant_of_governed governed vacant) now saved
  | sets a c action st known authority other actor now saved =>
    exact sets_governed governed known authority other now saved

/-- One operation changes the state in one of the four ways. -/
theorem apply_change (governed : Governed rt.state) (success : op.apply env rt = some rt') :
    Change rt.state op rt'.state := by
  cases op with
  | bootstrap now request =>
    cases success
    exact bootstrap_change now request
  | admission now port pending record signature =>
    cases success
    exact admit_change _ now port pending record signature
  | connected now clientId =>
    cases success
    exact .keeps (standing_modify_same _ _ (fun client => { client with lastSeen := some now }) fun _ => rfl)
      (.inl rfl)
  | drain clientId =>
    cases success
    exact .keeps rfl (.inl rfl)
  | register now clientId message =>
    simp only [Operation.apply] at success
    split_ifs at success with enrolled
    cases success
    exact register_change governed enrolled
  | manage now clientId request =>
    cases success
    exact manage_change now clientId request
  | save =>
    cases success
    exact .keeps rfl (fileKept_save _ _)
  | load =>
    cases success
    exact .keeps (load_standing governed) (.inl (load_file _))

theorem empty_governed (started : Empty rt) : Governed rt.state := by
  rw [started]
  exact
    { complete := by rintro _ _ ⟨⟩
      approved := by rintro _ _ ⟨⟩
      unique := by rintro _ _ ⟨_, ⟨⟩, _⟩
      governs := by rintro _ _ ⟨⟩
      synced := by rintro _ ⟨⟩ }

/-- Every reachable state is governed. -/
theorem reach_governed (reach : Reach (Operation.apply env) anyStep Empty rt) : Governed rt.state :=
  reach.invariant _ (fun _ started => empty_governed started)
    fun _ _ _ _ governed _ stepped => change_governed governed (apply_change governed stepped)

/-- Whoever administers goes on doing so, whatever the operation. -/
theorem change_administrator (governed : Governed s) (change : Change s op t) {c : String}
    (admin : s.IsAdministrator c) : t.IsAdministrator c := by
  obtain ⟨st, known, flag⟩ := admin
  cases change with
  | keeps same file => exact ⟨st, by rw [same, known], flag⟩
  | enrols d key fresh now saved _ =>
    refine ⟨st, (updated_iff now).mpr (.inr ⟨?_, known⟩), flag⟩
    rintro rfl
    rw [fresh] at known
    cases known
  | claims d old found vacant actor now saved =>
    exact absurd ⟨st, known, flag⟩ (vacant_of_governed governed vacant c)
  | sets a d action old found authority other actor now saved =>
    obtain rfl : c = a := governed.unique c a ⟨st, known, flag⟩ authority
    exact ⟨st, (updated_iff now).mpr (.inr ⟨Ne.symm other, known⟩), flag⟩

/-- In every state reached from a governed one that has an administrator, that one administers. -/
theorem later_administrator (governed : Governed s) {c : String} (admin : s.IsAdministrator c)
    (later : Reach (Operation.apply env) anyStep (fun rt => rt.state = s) rt) :
    Governed rt.state ∧ rt.state.IsAdministrator c := by
  refine later.invariant _
    (?_ : ∀ t : RelayRuntime, t.state = s → Governed t.state ∧ t.state.IsAdministrator c) ?_
  · rintro _ rfl
    exact ⟨governed, admin⟩
  · rintro _ _ _ _ ⟨governed, admin⟩ _ stepped
    have change := apply_change governed stepped
    exact ⟨change_governed governed change, change_administrator governed change admin⟩

theorem claimed_administrator {c : String} (claimed : (s.claimAdmin c).2 = "claimed") :
    (s.claimAdmin c).1.IsAdministrator c := by
  unfold claimAdmin at claimed ⊢
  split at claimed
  · simp at claimed
  · rename_i record found
    split_ifs at claimed ⊢ with already taken
    · simp at claimed
    · simp at claimed
    · refine ⟨⟨record.publicKey, some "approved", some true⟩, ?_, rfl⟩
      rw [save_standing, standing_insert, Function.update_self]
      rfl

/-- An operation that changes the status of a client is the first claim, by the client itself, or
an action of the administrator against another client. -/
inductive Authorised (s : RelayState) (op : Operation) (c : String) : Prop
  | claim (now : ℕ) (request : Json) (own : op = .manage now c request)
      (action : request.get "action" = .str "claim_admin") (first : ∀ d, ¬ s.IsAdministrator d)
  | action (now : ℕ) (admin action : String) (request : Json) (issued : op = .manage now admin request)
      (authority : s.IsAdministrator admin) (other : c ≠ admin) (named : request.get "client_id" = .str c)
      (asked : request.get "action" = .str action)
      (kind : action = "approve" ∨ action = "reject" ∨ action = "revoke")

theorem change_status (governed : Governed s) (change : Change s op t) {c : String} {st : Standing}
    (known : s.standing c = some st) : ∃ st', t.standing c = some st' ∧
      (st'.status ≠ st.status → Authorised s op c) ∧
      (¬ s.IsAdministrator c → t.IsAdministrator c →
        (∀ d, ¬ s.IsAdministrator d) ∧ ∃ now request, op = .manage now c request) := by
  have unchanged : ∀ {t : RelayState}, t.standing c = some st → ¬ s.IsAdministrator c →
      ¬ t.IsAdministrator c := by
    rintro t same lay ⟨st', known', admin⟩
    rw [same] at known'
    cases known'
    exact lay ⟨st, known, admin⟩
  cases change with
  | keeps same file =>
    have kept : t.standing c = some st := by rw [same, known]
    exact ⟨st, kept, fun differs => absurd rfl differs, fun lay admin => absurd admin (unchanged kept lay)⟩
  | enrols d key fresh now saved _ =>
    have kept : t.standing c = some st := by
      refine (updated_iff now).mpr (.inr ⟨?_, known⟩)
      rintro rfl
      rw [fresh] at known
      cases known
    exact ⟨st, kept, fun differs => absurd rfl differs, fun lay admin => absurd admin (unchanged kept lay)⟩
  | claims d old found vacant actor now saved =>
    have first := vacant_of_governed governed vacant
    obtain ⟨time, request, own, action⟩ := actor
    by_cases same : c = d
    · subst same
      exact ⟨_, (updated_iff now).mpr (.inl ⟨rfl, rfl⟩), fun _ => .claim time request own action first,
        fun _ _ => ⟨first, time, request, own⟩⟩
    · have kept : t.standing c = some st := (updated_iff now).mpr (.inr ⟨same, known⟩)
      exact ⟨st, kept, fun differs => absurd rfl differs, fun lay admin => absurd admin (unchanged kept lay)⟩
  | sets a d action old found authority other actor now saved =>
    obtain ⟨time, request, issued, asked, named, kind⟩ := actor
    by_cases same : c = d
    · subst same
      obtain rfl : st = old := Option.some.inj (known.symm.trans found)
      refine ⟨_, (updated_iff now).mpr (.inl ⟨rfl, rfl⟩),
        fun _ => .action time a action request issued authority other named asked kind, ?_⟩
      rintro lay ⟨st', known', admin⟩
      obtain ⟨_, rfl⟩ | ⟨differs, _⟩ := (updated_iff now).mp known'
      · dsimp only at admin
        split_ifs at admin
        · exact absurd ⟨st, known, admin⟩ lay
        · cases admin
      · exact absurd rfl differs
    · have kept : t.standing c = some st := (updated_iff now).mpr (.inr ⟨same, known⟩)
      exact ⟨st, kept, fun differs => absurd rfl differs, fun lay admin => absurd admin (unchanged kept lay)⟩

end Invariant

/-! ## The result -/

/-- In every reachable state of the relay: administrators are approved and there is at most one;
a rejected or revoked client has an approved administrator over it; a claim that succeeds, and
anyone who administers, settles the administrator of every later state; and the status of a client
changes only by the first claim, its own, or by the administrator acting against another client. In
particular a rejected or revoked client does not become an administrator. -/
theorem administration (env : Env) {rt : RelayRuntime}
    (reach : Reach (Operation.apply env) anyStep Empty rt) :
    (∀ c d, rt.state.IsAdministrator c → rt.state.IsAdministrator d → c = d) ∧
    (∀ c st, rt.state.standing c = some st → st.admin = some true → st.status = some "approved") ∧
    (∀ c st, rt.state.standing c = some st → st.status = some "rejected" ∨ st.status = some "revoked" →
      ∃ a st', rt.state.standing a = some st' ∧ st'.admin = some true ∧ st'.status = some "approved") ∧
    (∀ c, (rt.state.claimAdmin c).2 = "claimed" → ∀ later,
      Reach (Operation.apply env) anyStep (fun next => next.state = (rt.state.claimAdmin c).1) later →
      ∀ d, later.state.IsAdministrator d ↔ d = c) ∧
    (∀ c, rt.state.IsAdministrator c → ∀ later,
      Reach (Operation.apply env) anyStep (fun next => next.state = rt.state) later →
      ∀ d, later.state.IsAdministrator d ↔ d = c) ∧
    (∀ (op : Operation) (rt' : RelayRuntime) c st, op.apply env rt = some rt' → rt.state.standing c = some st →
      ∃ st', rt'.state.standing c = some st' ∧ (st'.status ≠ st.status → Authorised rt.state op c)) ∧
    (∀ (op : Operation) (rt' : RelayRuntime) c st, op.apply env rt = some rt' → rt.state.standing c = some st →
      st.status = some "rejected" ∨ st.status = some "revoked" → ¬ rt'.state.IsAdministrator c) := by
  have governed := reach_governed reach
  have settled : ∀ {s : RelayState} {c : String}, Governed s → s.IsAdministrator c → ∀ later,
      Reach (Operation.apply env) anyStep (fun next => next.state = s) later →
      ∀ d, later.state.IsAdministrator d ↔ d = c := by
    intro s c governed admin later run d
    obtain ⟨governed, admin⟩ := later_administrator governed admin run
    constructor
    · intro other
      exact governed.unique d c other admin
    · rintro rfl
      exact admin
  refine ⟨governed.unique, governed.approved, ?_, ?_, fun c admin => settled governed admin, ?_, ?_⟩
  · intro c st known barred
    obtain ⟨a, st', found, admin⟩ := governed.governs c st known barred
    exact ⟨a, st', found, admin, governed.approved a st' found admin⟩
  · intro c claimed
    have change : Change rt.state (.manage 0 c (.obj [("action", .str "claim_admin")]))
        (rt.state.claimAdmin c).1 := claimAdmin_change 0 rfl
    exact settled (change_governed governed change) (claimed_administrator claimed)
  · intro op rt' c st stepped known
    obtain ⟨st', found, authorised, _⟩ := change_status governed (apply_change governed stepped) known
    exact ⟨st', found, authorised⟩
  · intro op rt' c st stepped known barred admin
    have lay : ¬ rt.state.IsAdministrator c := by
      rintro ⟨st', known', flag⟩
      obtain rfl : st = st' := Option.some.inj (known.symm.trans known')
      have approved := governed.approved c st known flag
      rcases barred with barred | barred <;> simp [barred] at approved
    obtain ⟨_, _, _, promoted⟩ := change_status governed (apply_change governed stepped) known
    obtain ⟨a, rules⟩ := governed.governs c st known barred
    exact (promoted lay admin).1 a rules

/-- Two endpoints enrol and the first claims administration. -/
def claimRun : List Operation :=
  [.bootstrap 0 ⟨"alice", "phone", ⟨"alice-key", true, 2048⟩, []⟩,
    .bootstrap 0 ⟨"bob", "phone", ⟨"bob-key", true, 2048⟩, []⟩,
    .manage 0 "alice" (.obj [("action", .str "claim_admin")])]

def claimedRelay : RelayRuntime := (replay (Operation.apply sampleEnv) {} claimRun).getD {}

theorem administration_claimed :
    claimedRelay.state.IsAdministrator "alice" ∧ ∀ d, claimedRelay.state.IsAdministrator d → d = "alice" := by
  have started : Empty ({} : RelayRuntime) := rfl
  have reach : Reach (Operation.apply sampleEnv) anyStep Empty claimedRelay :=
    Reach.of_replay started claimRun rfl
  have admin : claimedRelay.state.IsAdministrator "alice" :=
    ⟨⟨some (.str "alice-key"), some "approved", some true⟩, by decide, rfl⟩
  exact ⟨admin, fun d other => (administration sampleEnv reach).1 d "alice" other admin⟩

end WispGate.Soundness.Administration
