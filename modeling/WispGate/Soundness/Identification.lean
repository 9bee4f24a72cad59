import WispGate.Soundness.Authentication

/-! # Records that can greet

A client enters the records by a bootstrap request or by a handshake. A handshake's hello is admitted
with an id of 1 to 128 characters and an RSA key of at least 2048 bits; a bootstrap request is taken
with any text and any RSA key, and pins that key. A record that a hello would not be admitted with can
never be authenticated and keeps its id from everybody else. In the runs whose enrolling bootstrap
requests would pass as hellos, every record can greet.
-/

namespace WispGate.Soundness.Identification

open Data Model Model.Relay Machine RelayState Administration Authentication

/-! ## Admissible records -/

/-- What a hello is checked for: the length of its id and the kind and size of its key. -/
structure Admissible (env : Env) (clientId : String) (key : Json) : Prop where
  nonempty : clientId ≠ ""
  short : clientId.length ≤ 128
  valid : validEndpointPublicKey env key = true

/-- The key of a record, null without one. -/
def keyOf (st : Standing) : Json := st.publicKey.getD .null

/-- Every client in the records has an admissible id and key. -/
def Identified (env : Env) (s : RelayState) : Prop :=
  ∀ clientId record, s.clients.get? clientId = some record → Admissible env clientId (record.publicKey.getD .null)

instance (env : Env) (clientId : String) (key : Json) : Decidable (Admissible env clientId key) :=
  decidable_of_iff (clientId ≠ "" ∧ clientId.length ≤ 128 ∧ validEndpointPublicKey env key = true)
    ⟨fun ⟨nonempty, short, valid⟩ => ⟨nonempty, short, valid⟩, fun fits => ⟨fits.nonempty, fits.short, fits.valid⟩⟩

/-! ## Bootstrap requests -/

/-- The bootstrap request in a line, if the relay can open one. -/
def opened (env : Env) (line : Json) : Option BootstrapRequest :=
  if line.get "type" = .str "bootstrap_request" ∧ env.certificate then
    ((member line "payload").bind asciiText |>.bind (decryptBootstrapRequest env)).toOption
  else none

/-- The bootstrap request that is read on a control connection as its first line. -/
def requested (env : Env) (m : Machine) : Event → Option BootstrapRequest
  | .resume conn .read _ =>
    match m.connections.get? conn with
    | some c => if c.port = .control ∧ c.pc = .hello then (c.buffer.head?.join).bind (opened env) else none
    | none => none
  | _ => none

/-- The request names a client without a record where clients may be enrolled. -/
def Enrolling (env : Env) (s : RelayState) (request : BootstrapRequest) : Prop :=
  env.enrollmentEnabled = true ∧ s.clients.contains request.clientId = false

/-- A bootstrap request that enrols a client would pass as a hello. -/
def Passable (env : Env) (m : Machine) (e : Event) : Prop :=
  ∀ request ∈ requested env m e, Enrolling env m.runtime.state request →
    Admissible env request.clientId (.str request.clientKey.encoded)

instance (env : Env) (s : RelayState) (request : BootstrapRequest) : Decidable (Enrolling env s request) :=
  inferInstanceAs (Decidable (_ ∧ _))

instance (env : Env) (m : Machine) (e : Event) : Decidable (Passable env m e) :=
  inferInstanceAs (Decidable (∀ request ∈ requested env m e, Enrolling env m.runtime.state request →
    Admissible env request.clientId (.str request.clientKey.encoded)))

/-! ## Hellos -/

section Hellos

variable {env : Env} {rt rt' : RelayRuntime} {now : ℕ} {port : Port} {hello frame : Json} {draw : Draw}
  {pending : Pending} {clientId : String} {record : ClientRecord}

/-- A hello with the key in the client's record is challenged if and only if id and key are admissible. -/
theorem hello_challenged (known : rt.state.clients.get? clientId = some record) (object : hello.isObj = true)
    (role : hello.get "role" = .str port.role) (named : hello.get "client_id" = .str clientId)
    (key : hello.get "public_key" = record.publicKey.getD .null) :
    (∃ rt' pending frame, rt.beginAuthentication env now port hello draw = .ok (.challenged rt' pending frame)) ↔
      Admissible env clientId (record.publicKey.getD .null) := by
  have hashed : (hello.get "role").hashKey? ≠ none := by
    rw [role]
    exact Option.some_ne_none _
  have client : (hello.get "client_id").asStr? = some clientId := (Json.asStr?_eq_some_iff ..).mpr named
  unfold RelayRuntime.beginAuthentication
  rw [if_neg (by simp [object]), if_neg hashed, client, key, role]
  cases text : (record.publicKey.getD .null).asStr? with
  | none =>
    have unread : ¬ Admissible env clientId (record.publicKey.getD .null) := by
      intro fits
      have valid := fits.valid
      simp [validEndpointPublicKey, text] at valid
    simp [unread]
  | some recorded =>
    have value := (Json.asStr?_eq_some_iff ..).mp text
    have holds : record.hasKey recorded = true := by
      rw [ClientRecord.hasKey, value]
      simp
    rw [value]
    dsimp only
    split_ifs with refused unknown changed
    · refine iff_of_false (by simp) fun fits => ?_
      rcases refused with other | empty | long | invalid
      · exact other rfl
      · exact fits.nonempty empty
      · exact absurd fits.short (Nat.not_le_of_lt long)
      · exact invalid fits.valid
    · exact absurd unknown.1 (by simp [known])
    · simp [known, holds] at changed
    · simp only [not_or, ne_eq, not_true_eq_false, not_false_eq_true, true_and, not_lt, not_not] at refused
      refine iff_of_true ⟨_, _, _, rfl⟩ ⟨refused.1, refused.2.1, refused.2.2⟩

/-- The challenge of a hello that is admitted names an admissible client. -/
theorem begin_admissible (begun : rt.beginAuthentication env now port hello draw = .ok (.challenged rt' pending frame))
    {slot : String} {challenge : Challenge} (held : rt'.authChallenges.get? slot = some challenge) :
    rt.authChallenges.get? slot = some challenge ∨ Admissible env challenge.clientId (.str challenge.publicKey) := by
  unfold RelayRuntime.beginAuthentication at begun
  split_ifs at begun with object role
  split at begun
  · dsimp only at begun
    split_ifs at begun with invalid unknown changed
    · cases begun
    · cases begun
    · cases begun
    · simp only [Except.ok.injEq, AuthStart.challenged.injEq] at begun
      obtain ⟨rfl, -, -⟩ := begun
      rw [not_or, not_or, not_or] at invalid
      rw [Dict.get?_insert] at held
      split_ifs at held
      · cases held
        exact .inr ⟨invalid.2.1, Nat.le_of_not_lt invalid.2.2.1, not_not.mp invalid.2.2.2⟩
      · exact .inl held
  · cases begun

end Hellos

/-! ## Enrolments -/

/-- The standings after a client is enrolled with a key. -/
def enrolled (s : RelayState) (clientId key : String) : String → Option Standing :=
  Function.update s.standing clientId (some ⟨some (.str key), some "pending", some false⟩)

section Enrolments

variable {env : Env} {s t : RelayState} {rt : RelayRuntime} {now : ℕ} {port : Port} {pending : Pending}

theorem identified_iff : Identified env s ↔ ∀ clientId st, s.standing clientId = some st →
    Admissible env clientId (keyOf st) := by
  constructor
  · intro identified clientId st known
    obtain ⟨record, found, rfl⟩ := exists_record known
    exact identified clientId record found
  · intro admissible clientId record found
    exact admissible clientId record.standing (standing_eq_some found)

theorem Identified.congr (identified : Identified env s) (same : t.standing = s.standing) : Identified env t := by
  rw [identified_iff] at identified ⊢
  rw [same]
  exact identified

/-- A change that enrols nobody keeps all keys. -/
theorem Identified.change (identified : Identified env s) {op : Operation} (change : Change s op t)
    (closed : ¬ op.enrols) : Identified env t := by
  rw [identified_iff] at identified ⊢
  have rekeyed : ∀ {id : String} {old new : Standing}, s.standing id = some old → new.publicKey = old.publicKey →
      t.standing = Function.update s.standing id (some new) →
      ∀ clientId st, t.standing clientId = some st → Admissible env clientId (keyOf st) := by
    intro id old new known key now clientId st found
    rw [now] at found
    by_cases same : clientId = id
    · subst same
      rw [Function.update_self] at found
      obtain rfl := Option.some.inj found
      rw [keyOf, key]
      exact identified clientId old known
    · rw [Function.update_of_ne same] at found
      exact identified clientId st found
  cases change with
  | keeps same file =>
    rw [same]
    exact identified
  | enrols id key fresh now saved actor => exact absurd actor closed
  | claims id old known vacant actor now saved => exact rekeyed known (by rfl) now
  | sets admin id action old known authority other actor now saved => exact rekeyed known (by rfl) now

/-- An enrolment keeps the records identified if and only if it is of an admissible client. -/
theorem identified_enrolled (identified : Identified env s) {clientId key : String}
    (now : t.standing = enrolled s clientId key) : Identified env t ↔ Admissible env clientId (.str key) := by
  rw [identified_iff] at identified ⊢
  rw [now, enrolled]
  constructor
  · intro admissible
    exact admissible clientId _ (Function.update_self ..)
  · intro admissible other st found
    by_cases same : other = clientId
    · subst same
      rw [Function.update_self] at found
      obtain rfl := Option.some.inj found
      exact admissible
    · rw [Function.update_of_ne same] at found
      exact identified other st found

/-- A bootstrap request enrols its client, if it is to, and changes nothing else. -/
theorem bootstrap_standing (env : Env) (rt : RelayRuntime) (now : ℕ) (request : BootstrapRequest) :
    (rt.bootstrap env now request).1.state.standing = if Enrolling env rt.state request
      then enrolled rt.state request.clientId request.clientKey.encoded else rt.state.standing := by
  unfold RelayRuntime.bootstrap
  dsimp only
  by_cases fresh : rt.state.clients.get? request.clientId = none
  · have unknown : rt.state.clientAccess request.clientId request.clientKey.encoded = "unknown_endpoint" := by
      rw [clientAccess, fresh]
    have enrolling : Enrolling env rt.state request ↔ env.enrollmentEnabled = true :=
      and_iff_left ((Dict.contains_eq_false_iff ..).mpr fresh)
    rw [unknown]
    by_cases enabled : env.enrollmentEnabled = true
    · rw [if_pos ⟨rfl, enabled⟩, if_pos (enrolling.mpr enabled), enrollClient, fresh]
      dsimp only
      rw [save_standing, standing_insert]
      rfl
    · rw [if_neg fun new => enabled new.2, if_neg fun new => enabled (enrolling.mp new)]
      split_ifs <;> rfl
  · have known : ¬ Enrolling env rt.state request :=
      fun enrolling => fresh ((Dict.contains_eq_false_iff ..).mp enrolling.2)
    rw [if_neg known]
    split_ifs with new
    · cases result : rt.state.enrollClient request.clientId request.clientKey.encoded (.str request.clientKind) now with
      | error e => rfl
      | ok pair =>
        obtain ⟨state, access⟩ := pair
        rcases enrollClient_cases result with ⟨-, -, -, rfl, -⟩ | ⟨absent, -⟩
        · rfl
        · exact absurd (standing_eq_none_iff.mp absent) fresh
    · rfl
    · rfl

variable (rt) in
/-- An admission enrols the client of its challenge, or nobody. -/
theorem admission_standing (governed : Governed rt.state) (record : Challenge) (signature : String) :
    (rt.admission now port pending record signature).1.state.standing = rt.state.standing ∨
      (rt.admission now port pending record signature).1.state.standing =
        enrolled rt.state record.clientId record.publicKey := by
  unfold RelayRuntime.admission
  split
  · exact .inl rfl
  · rename_i state access checked
    have first : state.standing = rt.state.standing ∨ state.standing = enrolled rt.state record.clientId record.publicKey := by
      unfold RelayRuntime.checkAccess at checked
      split_ifs at checked
      · cases checked
        exact .inl rfl
      · rcases enrollClient_cases checked with ⟨-, -, -, rfl, -⟩ | ⟨-, -, now, -⟩
        · exact .inl rfl
        · exact .inr now
    unfold RelayRuntime.completeAdmission
    split_ifs with allowed
    · obtain ⟨st, found, recorded, -⟩ := checkAccess_usable governed checked allowed
      split
      · exact first
      · rename_i registered registration
        obtain ⟨same, -⟩ := registerClient_keeps found ⟨_, recorded⟩ registration
        have noted : standing (save { registered with clients := registered.clients.modify record.clientId fun client =>
            { client with clientKind := some record.clientKind } }) = state.standing := by
          rw [save_standing, ← same]
          exact standing_modify_same registered record.clientId
            (fun client => { client with clientKind := some record.clientKind }) fun _ => rfl
        dsimp only
        rw [noted]
        exact first
    · exact first

/-- A proof that is taken enrols the client of the challenge that was kept for it, or nobody. -/
theorem conclude_standing (governed : Governed rt.state) (message : Json) :
    (rt.concludeAuthentication env now port pending message).1.state.standing = rt.state.standing ∨
      ∃ challenge, rt.authChallenges.get? pending.slot = some challenge ∧
        (rt.concludeAuthentication env now port pending message).1.state.standing =
          enrolled rt.state challenge.clientId challenge.publicKey := by
  unfold RelayRuntime.concludeAuthentication
  dsimp only
  split_ifs
  · split
    · rename_i challenge signature found signed
      unfold RelayRuntime.checkProof
      dsimp only
      split_ifs
      · exact .inl rfl
      · exact .inl rfl
      · rcases @admission_standing { rt with authChallenges := rt.authChallenges.erase pending.slot } now port pending
          governed challenge signature with same | new
        · exact .inl same
        · exact .inr ⟨challenge, found, new⟩
      · exact .inl rfl
    · exact .inl rfl
  · exact .inl rfl

end Enrolments

/-! ## The first line of a connection -/

/-- The standings after a bootstrap request, if there is one. -/
def bootstrapped (env : Env) (s : RelayState) : Option BootstrapRequest → String → Option Standing
  | some request => if Enrolling env s request then enrolled s request.clientId request.clientKey.encoded else s.standing
  | none => s.standing

section Lines

variable {env : Env} {m m' : Machine} {conn : ConnId} {c : Connection} {draw : Draw}

theorem onAuthHello_standing {hello : Json} (here : m.connections.get? conn = some c) :
    (m.onAuthHello env conn c hello draw).runtime.state.standing = m.runtime.state.standing := by
  unfold onAuthHello
  split
  · exact (raises_calm here).standing
  · rfl
  · rename_i begun
    obtain ⟨challenge, rfl, -⟩ := begin_spec begun
    rfl

theorem onHello_standing {hello : Json} (here : m.connections.get? conn = some c) :
    (m.onHello env conn c hello draw).runtime.state.standing =
      bootstrapped env m.runtime.state (if c.port = .control then opened env hello else none) := by
  unfold onHello
  by_cases bootstraps : c.port = .control ∧ hello.get "type" = .str "bootstrap_request"
  · rw [if_pos bootstraps, if_pos bootstraps.1]
    by_cases certified : env.certificate = true
    · rw [if_neg (not_not_intro certified), opened, if_pos ⟨bootstraps.2, certified⟩]
      split
      · rename_i e result
        rw [result]
        exact (raises_calm here).standing
      · rename_i request result
        have named : (m.setClient conn request.clientId).connections.get? conn =
            some { c with clientId := some request.clientId } := by
          simp [setClient, Dict.get?_modify, here]
        have standing := bootstrap_standing env m.runtime m.wallClock request
        rw [result]
        change _ = if Enrolling env m.runtime.state request then _ else _
        rw [← standing]
        dsimp only
        split
        · rename_i rt e raised
          have table : (m.runtime.bootstrap env m.wallClock request).1 = rt := congrArg Prod.fst raised
          rw [table]
          exact (@raises_calm env ((m.setClient conn request.clientId).withRuntime rt) conn _ e named).standing
        · rename_i rt outcome answered
          have table : (m.runtime.bootstrap env m.wallClock request).1 = rt := congrArg Prod.fst answered
          rw [table]
          cases outcome <;> rfl
    · rw [if_pos certified, opened, if_neg fun both => certified both.2]
      rfl
  · rw [if_neg bootstraps, onAuthHello_standing here]
    by_cases port : c.port = .control
    · rw [if_pos port, opened, if_neg fun both => bootstraps ⟨port, both.1⟩]
      rfl
    · rw [if_neg port]
      rfl

/-- The first line of a connection enrols the client of the bootstrap request in it, or nobody. -/
theorem resume_hello {outcome : Outcome} (here : m.connections.get? conn = some c) (start : c.pc = .hello)
    (resumed : m.resume env conn c outcome draw = some m') :
    m'.runtime.state.standing = bootstrapped env m.runtime.state (requested env m (.resume conn outcome draw)) := by
  have leaves : ∀ {m₀ : Machine} {c₀ : Connection} (e : PyError), m₀.connections.get? conn = some c₀ →
      m₀.runtime = m.runtime → (m₀.raises env conn c₀ e).runtime.state.standing = m.runtime.state.standing := by
    intro m₀ c₀ e there same
    rw [(raises_calm there).standing, same]
  cases outcome with
  | read =>
    have asked : requested env m (.resume conn .read draw) =
        if c.port = .control then (c.buffer.head?.join).bind (opened env) else none := by
      simp [requested, here, start]
    rw [asked]
    simp only [resume] at resumed
    split_ifs at resumed
    split at resumed
    · cases resumed
    · rename_i input buffer next
      simp only [onRead, start, Option.some.injEq] at resumed
      rw [← resumed]
      have there : (m.setBuffer conn buffer).connections.get? conn = some { c with buffer := buffer, pc := .hello } := by
        rw [← start]
        exact setBuffer_here here
      unfold nextInput at next
      split at next
      · rename_i value rest found
        cases next
        rw [found]
        exact onHello_standing there
      · rename_i rest found
        cases next
        rw [found]
        have nothing : (if c.port = .control then (((none : Line) :: buffer).head?.join).bind (opened env) else none) =
            none := by
          split_ifs <;> rfl
        rw [nothing]
        exact leaves .value there rfl
      · rename_i found
        split_ifs at next
        cases next
        rw [found]
        have nothing : (if c.port = .control then (([] : List Line).head?.join).bind (opened env) else none) = none := by
          split_ifs <;> rfl
        rw [nothing]
        exact leaves .value there rfl
  | sent => simp [resume, onSent, start] at resumed
  | lost =>
    simp only [resume, onLost, start, Option.some.injEq] at resumed
    rw [← resumed]
    exact leaves .connection here rfl
  | timeout =>
    simp only [resume] at resumed
    split_ifs at resumed
    cases resumed
    exact leaves .timeout here rfl
  | overrun =>
    simp only [resume] at resumed
    split_ifs at resumed
    cases resumed
    exact leaves .value here rfl

end Lines

/-! ## Steps -/

/-- Every challenge in the table is of a client that a hello was admitted for. -/
def Vouched (env : Env) (rt : RelayRuntime) : Prop :=
  ∀ slot challenge, rt.authChallenges.get? slot = some challenge →
    Admissible env challenge.clientId (.str challenge.publicKey)

section Steps

variable {env : Env} {m m' : Machine} {conn : ConnId} {c : Connection}

theorem move_vouched {line : Option Json} (vouched : Vouched env m.runtime) (move : Move env m conn c line m') :
    Vouched env m'.runtime := by
  have kept : ∀ {rt : RelayRuntime}, rt.authChallenges = m.runtime.authChallenges → Vouched env rt := by
    intro rt same slot challenge held
    exact vouched slot challenge (same ▸ held)
  have concluded : ∀ {rt : RelayRuntime} {slot : String},
      rt.authChallenges = m.runtime.authChallenges.erase slot → Vouched env rt := by
    intro rt slot used other challenge held
    rw [used, Dict.get?_erase] at held
    split_ifs at held
    exact vouched other challenge held
  cases move with
  | calm rest => exact kept rest.challenges
  | bootstrapped request port start rest =>
    exact kept (rest.challenges.trans (bootstrap_tables env m.runtime m.wallClock request).challenges)
  | challenged hello draw rt pending frame start fresh begun result =>
    rw [result]
    intro slot challenge held
    rcases begin_admissible begun held with before | admissible
    · exact vouched slot challenge before
    · exact admissible
  | proving pending start result =>
    rw [result]
    exact vouched
  | refused pending message start read other rest =>
    exact concluded (rest.challenges.trans (conclude_tables env m.runtime m.now c.port pending message).2.2)
  | proved pending message proof start read success result =>
    rw [result]
    exact concluded (conclude_tables env m.runtime m.now c.port pending message).2.2
  | authenticatedControl id port start result =>
    rw [result]
    exact vouched
  | authenticatedRelay id port start result =>
    rcases result with rfl | ⟨-, rest⟩
    · exact vouched
    · exact kept rest.challenges
  | managed id message start own read kind rest =>
    exact kept (rest.challenges.trans (manage_tables env m.runtime m.now id _).challenges)
  | registered id message start own read rest =>
    exact kept (rest.challenges.trans (register_tables env m.runtime m.now id message).challenges)
  | accepting recipient destination frame start read valid m₁ first result =>
    rw [result]
    exact kept first.challenges
  | delivered recipient destination frame start m₁ first result =>
    rw [result]
    exact kept first.challenges

/-- Behind the first line of a connection, only a proof enrols. -/
theorem move_identified {line : Option Json} (secure : Secure env m) (identified : Identified env m.runtime.state)
    (vouched : Vouched env m.runtime) (later : c.pc ≠ .hello) (here : m.connections.get? conn = some c)
    (move : Move env m conn c line m') : Identified env m'.runtime.state := by
  have concluded : ∀ {pending : Pending} {message : Json} {t : RelayState}, t.standing =
      (m.runtime.concludeAuthentication env m.now c.port pending message).1.state.standing → Identified env t := by
    intro pending message t same
    rcases @conclude_standing env m.runtime m.now c.port pending secure.governed message with kept | ⟨challenge, held, new⟩
    · exact identified.congr (same.trans kept)
    · exact (identified_enrolled identified (same.trans new)).mpr (vouched _ _ held)
  cases move with
  | calm rest => exact identified.congr rest.standing
  | bootstrapped request port start rest => exact absurd start later
  | challenged hello draw rt pending frame start fresh begun result =>
    obtain ⟨challenge, rfl, -⟩ := begin_spec begun
    rw [result]
    exact identified
  | proving pending start result =>
    rw [result]
    exact identified
  | refused pending message start read other rest => exact concluded rest.standing
  | proved pending message proof start read success result =>
    rw [result]
    exact concluded rfl
  | authenticatedControl id port start result =>
    rw [result]
    exact identified
  | authenticatedRelay id port start result =>
    rcases result with rfl | ⟨-, rest⟩
    · exact identified.congr (standing_modify_same _ _ (fun client => { client with lastSeen := some m.now }) fun _ => rfl)
    · exact identified.congr rest.standing
  | managed id message start own read kind rest =>
    exact (identified.change (manage_change m.now id _) (by simp [Operation.enrols])).congr rest.standing
  | registered id message start own read rest =>
    obtain ⟨id', named, member⟩ := (secure.owners conn c here).1 (by simp [start, session])
    obtain rfl : id' = id := by simpa [named] using own
    exact (identified.change (register_change secure.governed (secure.enrolled member)) (by simp [Operation.enrols])).congr rest.standing
  | accepting recipient destination frame start read valid m₁ first result =>
    rw [result]
    exact identified.congr first.standing
  | delivered recipient destination frame start m₁ first result =>
    rw [result]
    exact identified.congr first.standing

/-- A step that enrols through a bootstrap request keeps the records identified if and only if the
request is passable; every other step does. -/
theorem step_identified (secure : Secure env m) (identified : Identified env m.runtime.state)
    (vouched : Vouched env m.runtime) {e : Event} (stepped : m.step env e = some m') :
    Identified env m'.runtime.state ↔ Passable env m e := by
  have unasked : requested env m e = none → Passable env m e := by
    intro none request asked
    rw [none] at asked
    cases asked
  cases e with
  | resume conn outcome draw =>
    have resumes := stepped
    simp only [Machine.step] at resumes
    split at resumes
    · cases resumes
    rename_i c here
    by_cases start : c.pc = .hello
    · have standing := resume_hello here start resumes
      cases asked : requested env m (.resume conn outcome draw) with
      | none =>
        rw [asked] at standing
        exact iff_of_true (identified.congr standing) (unasked asked)
      | some request =>
        rw [asked, bootstrapped] at standing
        have passable_iff : Passable env m (.resume conn outcome draw) ↔
            (Enrolling env m.runtime.state request → Admissible env request.clientId (.str request.clientKey.encoded)) := by
          simp [Passable, asked]
        rw [passable_iff]
        split_ifs at standing with enrolling
        · rw [identified_enrolled identified standing]
          exact ⟨fun admissible _ => admissible, fun passes => passes enrolling⟩
        · exact iff_of_true (identified.congr standing) fun enrols => absurd enrols enrolling
    · obtain ⟨m₀, c₀, line, reads, -, move⟩ := resume_move here resumes
      obtain ⟨here₀, runtime, -, -, -, -, buffer, rfl⟩ := reads_here here reads
      have later : ({ c with buffer := buffer } : Connection).pc ≠ .hello := start
      have kept : Identified env m'.runtime.state := move_identified (secure.reads here reads)
        (by rw [runtime]; exact identified) (by rw [runtime]; exact vouched) later here₀ move
      refine iff_of_true kept (unasked ?_)
      cases outcome with
      | read => simp [requested, here, start]
      | _ => rfl
  | _ =>
    rcases step_cases stepped with ⟨_, _, _, _, _, _, _, resumes, -⟩ | ⟨runtime, -⟩
    · cases resumes
    · rw [runtime]
      exact iff_of_true identified (unasked rfl)

theorem step_vouched (vouched : Vouched env m.runtime) {e : Event} (stepped : m.step env e = some m') :
    Vouched env m'.runtime := by
  rcases step_cases stepped with ⟨conn, c, _, _, m₀, c₀, line, _, here, reads, _, move⟩ | ⟨runtime, -⟩
  · obtain ⟨-, runtime, -⟩ := reads_here here reads
    exact move_vouched (by rw [runtime]; exact vouched) move
  · rw [runtime]
    exact vouched

end Steps

/-! ## Runs -/

/-- A relay process that starts without records and without a state file. -/
def Blank (m : Machine) : Prop := m.Initial ∧ m.runtime.state = {}

/-- A relay process that starts on a durable state with identified records, such as none. -/
def Founded (env : Env) (m : Machine) : Prop := m.Started env ∧ Identified env m.runtime.state

theorem blank_founded {env : Env} {m : Machine} (blank : Blank m) : Founded env m := by
  obtain ⟨initial, state⟩ := blank
  have nothing : Empty ({} : RelayRuntime) := rfl
  refine ⟨⟨initial, {}, .start nothing, state⟩, ?_⟩
  rw [state]
  rintro _ _ ⟨⟩

structure Sound (env : Env) (m : Machine) : Prop where
  secure : Secure env m
  identified : Identified env m.runtime.state
  vouched : Vouched env m.runtime

theorem reach_sound {env : Env} {m : Machine} (reach : Reach (Machine.step env) (Passable env) (Founded env) m) :
    Sound env m := by
  refine reach.invariant (Sound env) ?_ ?_
  · rintro m ⟨started, identified⟩
    refine ⟨started_secure started, identified, ?_⟩
    obtain ⟨⟨-, -, -, challenges, -⟩, -⟩ := started
    rw [Vouched, challenges]
    rintro _ _ ⟨⟩
  · intro m e m' _ sound passable stepped
    exact ⟨sound.secure.step stepped, (step_identified sound.secure sound.identified sound.vouched stepped).mpr passable,
      step_vouched sound.vouched stepped⟩

/-- A hello with the key in its client's record is challenged if and only if id and key are admissible.
In every run whose enrolling bootstrap requests are passable those of every record are, and the first
request that is not breaks that. -/
theorem records_identified (env : Env) :
    (∀ (rt : RelayRuntime) (now : ℕ) (port : Port) (hello : Json) (draw : Draw) (clientId : String)
      (record : ClientRecord), rt.state.clients.get? clientId = some record → hello.isObj = true →
      hello.get "role" = .str port.role → hello.get "client_id" = .str clientId →
      hello.get "public_key" = record.publicKey.getD .null →
      ((∃ rt' pending frame, rt.beginAuthentication env now port hello draw = .ok (.challenged rt' pending frame)) ↔
        Admissible env clientId (record.publicKey.getD .null))) ∧
    ∀ m : Machine, Reach (Machine.step env) (Passable env) (Founded env) m → Identified env m.runtime.state ∧
      ∀ e m', m.step env e = some m' → (Identified env m'.runtime.state ↔ Passable env m e) := by
  refine ⟨fun rt now port hello draw clientId record => hello_challenged, fun m reach => ?_⟩
  have sound := reach_sound reach
  exact ⟨sound.identified, fun e m' stepped => step_identified sound.secure sound.identified sound.vouched stepped⟩

/-- A host whose sealed bootstrap payloads are the ids in them. -/
def sealedEnv : Env :=
  { sampleEnv with openSealed := fun text => .ok (.obj [("version", .int 1), ("client_id", .str text),
      ("client_public_key", .str "key of the client"), ("nonce", .str "AAAAAAAAAAAAAAAAAAAAAA")]) }

/-- A host on which every key has 1024 bits. -/
def weakEnv : Env := { sealedEnv with loadKey := fun text => some ⟨text, true, 1024⟩ }

/-- `alice` bootstraps. -/
def bootstrapRun : List Event :=
  [.connect 0 .control,
    .receive 0 (some (.obj [("type", .str "bootstrap_request"), ("payload", .str "alice")])),
    .resume 0 .read ⟨"challenge", "slot"⟩]

def identifiedMachine : Machine := (replay (guarded (Machine.step sealedEnv) (Passable sealedEnv)) {} bootstrapRun).getD {}

def aliceHello : Json :=
  .obj [("role", .str "control"), ("client_id", .str "alice"), ("public_key", .str "key of the client")]

def aliceRecord : ClientRecord := (identifiedMachine.runtime.state.clients.get? "alice").getD {}

theorem records_identified_alice : Identified sealedEnv identifiedMachine.runtime.state ∧
    ∃ rt' pending frame, identifiedMachine.runtime.beginAuthentication sealedEnv 0 .control aliceHello ⟨"challenge", "slot"⟩ =
      .ok (.challenged rt' pending frame) := by
  have reach : Reach (Machine.step sealedEnv) (Passable sealedEnv) (Founded sealedEnv) identifiedMachine :=
    Reach.of_guarded_defined (blank_founded ⟨⟨rfl, rfl, rfl, rfl, rfl, rfl⟩, rfl⟩) (by decide)
  have known : identifiedMachine.runtime.state.clients.get? "alice" = some aliceRecord := by decide +kernel
  have identified := ((records_identified sealedEnv).2 identifiedMachine reach).1
  exact ⟨identified, ((records_identified sealedEnv).1 identifiedMachine.runtime 0 .control aliceHello ⟨"challenge", "slot"⟩
    "alice" aliceRecord known rfl rfl rfl (by decide)).mpr (identified "alice" aliceRecord known)⟩

def weakMachine : Machine := (replay (Machine.step weakEnv) {} bootstrapRun).getD {}

/-- A key of 1024 bits is recorded for `alice`. -/
theorem records_unidentified : ¬ ∀ (env : Env) (m : Machine), Reach (Machine.step env) anyStep Blank m →
    Identified env m.runtime.state := by
  intro claim
  have blank : Blank {} := ⟨⟨rfl, rfl, rfl, rfl, rfl, rfl⟩, rfl⟩
  have reach : Reach (Machine.step weakEnv) anyStep Blank weakMachine := Reach.of_defined blank (by decide)
  have known : weakMachine.runtime.state.clients.get? "alice" =
      some ((weakMachine.runtime.state.clients.get? "alice").getD {}) := by decide +kernel
  have invalid : validEndpointPublicKey weakEnv
      (((weakMachine.runtime.state.clients.get? "alice").getD {}).publicKey.getD .null) = false := by decide
  have valid := (claim weakEnv weakMachine reach "alice" _ known).valid
  rw [invalid] at valid
  cases valid

end WispGate.Soundness.Identification
