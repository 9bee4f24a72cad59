import WispGate.Soundness.Administration
import WispGate.Soundness.HandlerMoves

/-! # What an authenticated connection has proved

The record of a client is read before the await for its proof and read again after it, while
handshakes, enrolments and status changes of other connections come in between. `Secure` is the
invariant over all interleavings: outstanding challenges belong to the connection they were issued
on, records keep their keys, and every authenticated connection has a proof in the log that was
checked in one step against the record as it stood there.
-/

namespace WispGate.Soundness.Authentication

open Data Model Model.Relay Machine RelayState Administration

/-! ## The check of a proof -/

section Check

variable {env : Env} {rt rt' : RelayRuntime} {now : ℕ} {port : Port} {pending : Pending}

/-- An allowed access is an approved status, or a pending one on the control port. -/
def Usable (port : Port) (st : Standing) : Prop :=
  st.status = some "approved" ∨ (st.status = some "pending" ∧ port.allowPending = true)

theorem usable_of_allowed {port : Port} {st : Standing} {status : String} (named : st.status = some status)
    (member : status ∈ statuses) (allowed : RelayRuntime.accessAllowed port status = true) : Usable port st := by
  simp only [statuses, List.mem_cons, List.not_mem_nil, or_false] at member
  rcases member with rfl | rfl | rfl | rfl
  · exact .inl named
  · cases port <;> exact absurd allowed (by decide)
  · cases port <;> exact absurd allowed (by decide)
  · refine .inr ⟨named, ?_⟩
    cases port
    · rfl
    · exact absurd allowed (by decide)

/-- The access that is checked is the one of a usable record with the proved key. -/
theorem checkAccess_usable {s : RelayState} {record : Challenge} {access : String}
    (governed : Governed rt.state) (success : rt.checkAccess now pending record = .ok (s, access))
    (allowed : RelayRuntime.accessAllowed port access = true) :
    ∃ st, s.standing record.clientId = some st ∧ st.publicKey = some (.str record.publicKey) ∧ Usable port st := by
  unfold RelayRuntime.checkAccess at success
  split_ifs at success
  · cases success
    rcases clientAccess_cases rt.state record.clientId record.publicKey
      with unknown | changed | ⟨st, found, recorded, access⟩
    · rw [unknown] at allowed
      cases port <;> exact absurd allowed (by decide)
    · rw [changed] at allowed
      cases port <;> exact absurd allowed (by decide)
    · obtain ⟨_, ⟨status, member, named⟩, _⟩ := governed.complete _ _ found
      rw [access, named] at allowed
      exact ⟨st, found, recorded, usable_of_allowed named member allowed⟩
  · rcases enrollClient_cases success with ⟨st, found, recorded, rfl, access⟩ | ⟨_, rfl, changed, _⟩
    · obtain ⟨_, ⟨status, member, named⟩, flag⟩ := governed.complete _ _ found
      refine ⟨st, found, recorded, ?_⟩
      obtain ⟨admin, flagged⟩ := Option.isSome_iff_exists.mp flag
      cases admin with
      | true => exact .inl (governed.approved _ _ found flagged)
      | false =>
        rw [access, flagged, named] at allowed
        exact usable_of_allowed named member allowed
    · refine ⟨⟨some (.str record.publicKey), some "pending", some false⟩, ?_, rfl, ?_⟩
      · rw [changed, Function.update_self]
      · exact usable_of_allowed rfl (by decide) allowed

variable (rt) in
/-- What an admission that succeeds has checked, in the state it leaves. -/
theorem admit_spec {record : Challenge} {signature : String} {proof : Proof} (governed : Governed rt.state)
    (success : rt.admission now port pending record signature = (rt', .ok (.authenticated proof))) :
    ∃ access st, proof = ⟨port.role, record.clientId, record.publicKey, record.challenge, pending.ticket,
        pending.peer, pending.length, signature, access⟩ ∧
      rt'.state.standing record.clientId = some st ∧ st.publicKey = some (.str record.publicKey) ∧
      Usable port st := by
  unfold RelayRuntime.admission at success
  split at success
  · cases success
  · rename_i s access checked
    unfold RelayRuntime.completeAdmission at success
    split_ifs at success with allowed
    · obtain ⟨st, found, recorded, usable⟩ := checkAccess_usable governed checked allowed
      split at success
      · cases success
      · rename_i registered registration
        obtain ⟨same, _⟩ := registerClient_keeps found ⟨_, recorded⟩ registration
        simp only [Prod.mk.injEq, Except.ok.injEq, AuthEnd.authenticated.injEq] at success
        obtain ⟨rfl, rfl⟩ := success
        refine ⟨access, st, rfl, ?_, recorded, usable⟩
        rw [← found, ← same]
        exact congrFun (standing_modify_same registered record.clientId
          (fun client => { client with clientKind := some record.clientKind }) fun _ => rfl) _
    · simp at success

/-- What a handshake that succeeds has checked. -/
theorem conclude_spec {message : Json} {proof : Proof} (governed : Governed rt.state)
    (success : rt.concludeAuthentication env now port pending message = (rt', .ok (.authenticated proof))) :
    ∃ challenge st, rt.authChallenges.get? pending.slot = some challenge ∧
      message.get "signature" = .str proof.signature ∧ proof.role = port.role ∧
      proof.clientId = challenge.clientId ∧ proof.challenge = challenge.challenge ∧
      env.verify proof.publicKey (authTranscript env port.role pending.clientId proof.challenge
        proof.ticket proof.peer proof.length) proof.signature = true ∧
      rt'.state.standing proof.clientId = some st ∧ st.publicKey = some (.str proof.publicKey) ∧
      Usable port st := by
  unfold RelayRuntime.concludeAuthentication at success
  dsimp only at success
  split_ifs at success with object
  · split at success
    · rename_i challenge signature found signed
      unfold RelayRuntime.checkProof at success
      dsimp only at success
      split_ifs at success with kind ascii refused
      · simp at success
      · simp at success
      · obtain ⟨access, st, rfl, standing, recorded, usable⟩ := admit_spec
          { rt with authChallenges := rt.authChallenges.erase pending.slot } governed success
        refine ⟨challenge, st, found, (Json.asStr?_eq_some_iff _ _).mp signed, rfl, rfl, rfl, ?_, standing,
          recorded, usable⟩
        simpa using (not_or.mp refused).2
      · simp at success
    · simp at success
  · simp at success

/-- Whatever the end of a handshake, the durable state changes as by an admission or not at all. -/
theorem conclude_change (env : Env) (rt : RelayRuntime) (now : ℕ) (port : Port) (pending : Pending)
    (message : Json) :
    ∃ op, Change rt.state op (rt.concludeAuthentication env now port pending message).1.state ∧
      (op.enrols → pending.known = false) ∧ op.served = none := by
  have idle : ∃ op, Change rt.state op rt.state ∧ (op.enrols → pending.known = false) ∧ op.served = none :=
    ⟨.save, .keeps rfl (fileKept_refl _), False.elim, rfl⟩
  unfold RelayRuntime.concludeAuthentication
  dsimp only
  split_ifs
  · split
    · rename_i challenge signature found signed
      unfold RelayRuntime.checkProof
      dsimp only
      split_ifs
      · exact idle
      · exact idle
      · exact ⟨_, admit_change { rt with authChallenges := rt.authChallenges.erase pending.slot }
          now port pending challenge signature, id, rfl⟩
      · exact idle
    · exact idle
  · exact idle

end Check

/-! ## The invariant -/

/-- The handshake a connection is in the middle of. -/
def handshake : Pc → Option Pending
  | .challenge pending => some pending
  | .proof pending => some pending
  | _ => none

/-- A handshake waits for the answer to a challenge that was issued on its own connection. -/
structure Awaits (env : Env) (m : Machine) (conn : ConnId) (p : Pending) : Prop where
  drawn : p.slot ∈ m.drawn
  enabled : p.known = false → env.enrollmentEnabled = true
  held : ∀ ch, m.runtime.authChallenges.get? p.slot = some ch →
    ch.clientId = p.clientId ∧ .challenged conn ch.challenge ∈ m.log

/-- The invariant of every interleaving of handshakes. -/
structure Secure (env : Env) (m : Machine) : Prop where
  governed : Governed m.runtime.state
  pendings : ∀ conn c p, m.connections.get? conn = some c → handshake c.pc = some p → Awaits env m conn p
  challenges : ∀ conn ch, .challenged conn ch ∈ m.log → ch ∈ m.drawn
  unique : ∀ conn conn' ch, .challenged conn ch ∈ m.log → .challenged conn' ch ∈ m.log → conn = conn'
  proofs : ∀ conn p, .proved conn p ∈ m.log →
    ∃ st, m.runtime.state.standing p.clientId = some st ∧ st.publicKey = some (.str p.publicKey)
  accepted : ∀ conn c id, m.connections.get? conn = some c → c.pc = .authenticated id →
    ∃ p, .proved conn p ∈ m.log ∧ p.clientId = id
  returned : ∀ conn id, .authenticated conn id ∈ m.log → ∃ p, .proved conn p ∈ m.log ∧ p.clientId = id
  owners : ∀ conn c, m.connections.get? conn = some c →
    (session c.pc = true → ∃ id, c.clientId = some id ∧ .authenticated conn id ∈ m.log) ∧
    (c.port = .relay → ∀ id, c.clientId = some id → .authenticated conn id ∈ m.log)

section Steps

variable {env : Env} {m m' : Machine} {conn : ConnId} {c : Connection}

/-- A key is kept by every operation. -/
theorem change_key {s t : RelayState} {op : Operation} (change : Change s op t)
    {id key : String} {st : Standing} (known : s.standing id = some st)
    (recorded : st.publicKey = some (.str key)) :
    ∃ st', t.standing id = some st' ∧ st'.publicKey = some (.str key) := by
  cases change with
  | keeps same file => exact ⟨st, by rw [same, known], recorded⟩
  | enrols other key' fresh now saved _ =>
    refine ⟨st, (updated_iff now).mpr (.inr ⟨?_, known⟩), recorded⟩
    rintro rfl
    rw [fresh] at known
    cases known
  | claims other old found vacant actor now saved =>
    by_cases same : id = other
    · subst same
      obtain rfl : st = old := Option.some.inj (known.symm.trans found)
      exact ⟨_, (updated_iff now).mpr (.inl ⟨rfl, rfl⟩), recorded⟩
    · exact ⟨st, (updated_iff now).mpr (.inr ⟨same, known⟩), recorded⟩
  | sets admin other action old found authority distinct actor now saved =>
    by_cases same : id = other
    · subst same
      obtain rfl : st = old := Option.some.inj (known.symm.trans found)
      exact ⟨_, (updated_iff now).mpr (.inl ⟨rfl, rfl⟩), recorded⟩
    · exact ⟨st, (updated_iff now).mpr (.inr ⟨same, known⟩), recorded⟩

theorem Awaits.record {p : Pending} {entry : Entry} (awaits : Awaits env m conn p) :
    Awaits env (m.record entry) conn p :=
  { awaits with
    held := fun ch found => ⟨(awaits.held ch found).1, List.mem_cons_of_mem _ (awaits.held ch found).2⟩ }

/-- New tables keep the invariant when they come from an operation and add no challenge. -/
theorem Secure.runtime (secure : Secure env m) (rt : RelayRuntime)
    (change : ∃ op, Change m.runtime.state op rt.state)
    (challenges : ∀ slot ch, rt.authChallenges.get? slot = some ch →
      m.runtime.authChallenges.get? slot = some ch) : Secure env (m.withRuntime rt) := by
  obtain ⟨op, change⟩ := change
  exact
    { secure with
      governed := change_governed secure.governed change
      pendings := by
        intro conn c p here pending
        have awaits := secure.pendings conn c p here pending
        exact { awaits with held := fun ch found => awaits.held ch (challenges _ ch found) }
      proofs := by
        intro conn p proved
        obtain ⟨st, known, recorded⟩ := secure.proofs conn p proved
        exact change_key change known recorded }

/-- The log may grow by what proves nothing. -/
theorem Secure.record (secure : Secure env m) {entry : Entry}
    (neutral : (∃ d frame, entry = .wrote d frame) ∨ ∃ d s r frame, entry = .forwarded d s r frame) :
    Secure env (m.record entry) := by
  have old : ∀ {e : Entry}, e ∈ (m.record entry).log → (∀ d f, e ≠ .wrote d f) →
      (∀ d s r f, e ≠ .forwarded d s r f) → e ∈ m.log := by
    intro e member plain carried
    rcases List.mem_cons.mp member with rfl | member
    · rcases neutral with ⟨d, frame, same⟩ | ⟨d, s, r, frame, same⟩
      · exact absurd same (plain d frame)
      · exact absurd same (carried d s r frame)
    · exact member
  have grown : ∀ {e : Entry}, e ∈ m.log → e ∈ (m.record entry).log := List.mem_cons_of_mem _
  exact
    { governed := secure.governed
      pendings := fun conn c p here pending => (secure.pendings conn c p here pending).record
      challenges := fun conn ch member => secure.challenges conn ch (old member (by simp) (by simp))
      unique := fun conn conn' ch member member' =>
        secure.unique conn conn' ch (old member (by simp) (by simp)) (old member' (by simp) (by simp))
      proofs := fun conn p member => secure.proofs conn p (old member (by simp) (by simp))
      accepted := fun conn c id here pc => by
        obtain ⟨p, proved, same⟩ := secure.accepted conn c id here pc
        exact ⟨p, grown proved, same⟩
      returned := fun conn id member => by
        obtain ⟨p, proved, same⟩ := secure.returned conn id (old member (by simp) (by simp))
        exact ⟨p, grown proved, same⟩
      owners := fun conn c here => by
        obtain ⟨live, relay⟩ := secure.owners conn c here
        refine ⟨fun session => ?_, fun port id named => grown (relay port id named)⟩
        obtain ⟨id, named, member⟩ := live session
        exact ⟨id, named, grown member⟩ }

/-- A connection may be replaced by one that needs no more than what the log shows. -/
theorem Secure.connection (secure : Secure env m) (c' : Connection)
    (same : m'.runtime = m.runtime ∧ m'.drawn = m.drawn ∧ m'.log = m.log)
    (others : ∀ d, d ≠ conn → m'.connections.get? d = m.connections.get? d)
    (own : m'.connections.get? conn = some c')
    (handshakes : ∀ p, handshake c'.pc = some p → Awaits env m conn p)
    (accepted : ∀ id, c'.pc = .authenticated id → ∃ p, .proved conn p ∈ m.log ∧ p.clientId = id)
    (live : session c'.pc = true → ∃ id, c'.clientId = some id ∧ .authenticated conn id ∈ m.log)
    (relay : c'.port = .relay → ∀ id, c'.clientId = some id → .authenticated conn id ∈ m.log) :
    Secure env m' := by
  obtain ⟨runtime, drawn, log⟩ := same
  have either : ∀ {d e}, m'.connections.get? d = some e → (d = conn ∧ e = c') ∨ m.connections.get? d = some e := by
    intro d e here
    by_cases mine : d = conn
    · subst mine
      exact .inl ⟨rfl, Option.some.inj (here.symm.trans own)⟩
    · exact .inr ((others d mine).symm.trans here)
  exact
    { governed := runtime ▸ secure.governed
      pendings := by
        intro d e p here pending
        have awaits : Awaits env m d p := by
          rcases either here with ⟨rfl, rfl⟩ | here
          · exact handshakes p pending
          · exact secure.pendings d e p here pending
        exact ⟨drawn ▸ awaits.drawn, awaits.enabled, by rw [runtime, log]; exact awaits.held⟩
      challenges := by
        rw [drawn, log]
        exact secure.challenges
      unique := by
        rw [log]
        exact secure.unique
      proofs := by
        rw [runtime, log]
        exact secure.proofs
      accepted := by
        intro d e id here pc
        rw [log]
        rcases either here with ⟨rfl, rfl⟩ | here
        · exact accepted id pc
        · exact secure.accepted d e id here pc
      returned := by
        rw [log]
        exact secure.returned
      owners := by
        intro d e here
        rw [log]
        rcases either here with ⟨rfl, rfl⟩ | here
        · exact ⟨live, relay⟩
        · exact secure.owners d e here }

theorem Secure.frames (secure : Secure env m) (frames : List (ConnId × Json)) :
    Secure env { m with log := frames.map (fun f => .wrote f.1 f.2) ++ m.log } := by
  induction frames with
  | nil => exact secure
  | cons frame rest ih => exact ih.record (.inl ⟨frame.1, frame.2, rfl⟩)

theorem Secure.calm (secure : Secure env m) (here : m.connections.get? conn = some c)
    (calm : Calm conn m m') : Secure env m' := by
  obtain ⟨frames, log⟩ := calm.log
  obtain ⟨pc, own, kind⟩ := calm.own c here
  have tables : Secure env (m.withRuntime m'.runtime) :=
    secure.runtime _ ⟨.save, .keeps calm.standing calm.file⟩ (by simp [calm.challenges])
  obtain ⟨live, relay⟩ := secure.owners conn c here
  have logged : ∀ {e : Entry}, e ∈ m.log → e ∈ frames.map (fun f => Entry.wrote f.1 f.2) ++ m.log :=
    List.mem_append_right _
  refine (tables.frames frames).connection { c with pc := pc }
    ⟨rfl, calm.drawn, log⟩ calm.others own ?_ ?_ ?_ ?_
  · rintro p pending
    rcases kind with rfl | enters
    · exact (tables.frames frames).pendings conn c p here pending
    · have still := enters.still
      cases pc <;> simp_all [quiet, handshake]
  · rintro id rfl
    rcases kind with same | enters
    · obtain ⟨p, proved, owner⟩ := secure.accepted conn c id here same.symm
      exact ⟨p, logged proved, owner⟩
    · exact absurd enters.still (by simp [quiet])
  · intro alive
    have permit : Permitted c := by
      rcases kind with rfl | enters
      · exact .inl alive
      · exact enters.permit alive
    rcases permit with alive | ⟨port, named⟩
    · obtain ⟨id, named, member⟩ := live alive
      exact ⟨id, named, logged member⟩
    · obtain ⟨id, named⟩ := Option.isSome_iff_exists.mp named
      exact ⟨id, named, logged (relay port id named)⟩
  · intro port id named
    exact logged (relay port id named)

/-- Another await of the same connection. -/
theorem Secure.goto (secure : Secure env m) {pc : Pc} (here : m.connections.get? conn = some c)
    (handshakes : ∀ p, handshake pc = some p → Awaits env m conn p)
    (accepted : ∀ id, pc = .authenticated id → ∃ p, .proved conn p ∈ m.log ∧ p.clientId = id)
    (live : session pc = true → session c.pc = true ∨ ∃ id, c.clientId = some id ∧ .authenticated conn id ∈ m.log) :
    Secure env (m.goto conn pc) := by
  obtain ⟨alive, relay⟩ := secure.owners conn c here
  refine secure.connection { c with pc := pc } ⟨rfl, rfl, rfl⟩ ?_ ?_
    handshakes accepted
    (fun now => (live now).elim alive id) relay
  · intro d other
    simp [Machine.goto, Dict.get?_modify, Ne.symm other]
  · simp [Machine.goto, Dict.get?_modify, here]

theorem Secure.setClient (secure : Secure env m) {id : String} (here : m.connections.get? conn = some c)
    (outside : session c.pc = false) (control : c.port = .relay → .authenticated conn id ∈ m.log) :
    Secure env (m.setClient conn id) := by
  refine secure.connection { c with clientId := some id } ⟨rfl, rfl, rfl⟩ ?_ ?_
    (fun p pending => secure.pendings conn c p here pending)
    (fun id pc => secure.accepted conn c id here pc) ?_ ?_
  · intro d other
    simp [Machine.setClient, Dict.get?_modify, Ne.symm other]
  · simp [Machine.setClient, Dict.get?_modify, here]
  · intro live
    simp [outside] at live
  · rintro port other named
    cases named
    exact control port

/-- A return from the handshake is logged behind the proof it rests on. -/
theorem Secure.returns (secure : Secure env m) {id : String}
    (proved : ∃ p, .proved conn p ∈ m.log ∧ p.clientId = id) :
    Secure env (m.record (.authenticated conn id)) := by
  have grown : ∀ {e : Entry}, e ∈ m.log → e ∈ (m.record (.authenticated conn id)).log :=
    List.mem_cons_of_mem _
  exact
    { governed := secure.governed
      pendings := fun d c p here pending => (secure.pendings d c p here pending).record
      challenges := fun d ch member =>
        secure.challenges d ch (by simpa [Machine.record] using member)
      unique := fun d d' ch member member' => secure.unique d d' ch
        (by simpa [Machine.record] using member) (by simpa [Machine.record] using member')
      proofs := fun d p member => secure.proofs d p (by simpa [Machine.record] using member)
      accepted := fun d c other here pc => by
        obtain ⟨p, member, same⟩ := secure.accepted d c other here pc
        exact ⟨p, grown member, same⟩
      returned := fun d other member => by
        rcases List.mem_cons.mp member with same | member
        · cases same
          obtain ⟨p, member, same⟩ := proved
          exact ⟨p, grown member, same⟩
        · obtain ⟨p, member, same⟩ := secure.returned d other member
          exact ⟨p, grown member, same⟩
      owners := fun d c here => by
        obtain ⟨live, relay⟩ := secure.owners d c here
        refine ⟨fun session => ?_, fun port other named => grown (relay port other named)⟩
        obtain ⟨other, named, member⟩ := live session
        exact ⟨other, named, grown member⟩ }

/-- A checked proof is logged with the record it was checked against. -/
theorem Secure.proves (secure : Secure env m) (conn : ConnId) (proof : Proof)
    (recorded : ∃ st, m.runtime.state.standing proof.clientId = some st ∧
      st.publicKey = some (.str proof.publicKey)) : Secure env (m.record (.proved conn proof)) := by
  have grown : ∀ {e : Entry}, e ∈ m.log → e ∈ (m.record (.proved conn proof)).log := List.mem_cons_of_mem _
  exact
    { governed := secure.governed
      pendings := fun d c p here pending => (secure.pendings d c p here pending).record
      challenges := fun d ch member => secure.challenges d ch (by simpa [Machine.record] using member)
      unique := fun d d' ch member member' => secure.unique d d' ch
        (by simpa [Machine.record] using member) (by simpa [Machine.record] using member')
      proofs := fun d p member => by
        rcases List.mem_cons.mp member with same | member
        · cases same
          exact recorded
        · exact secure.proofs d p member
      accepted := fun d c other here pc => by
        obtain ⟨p, member, same⟩ := secure.accepted d c other here pc
        exact ⟨p, grown member, same⟩
      returned := fun d other member => by
        obtain ⟨p, member, same⟩ := secure.returned d other (by simpa [Machine.record] using member)
        exact ⟨p, grown member, same⟩
      owners := fun d c here => by
        obtain ⟨live, relay⟩ := secure.owners d c here
        refine ⟨fun session => ?_, fun port other named => grown (relay port other named)⟩
        obtain ⟨other, named, member⟩ := live session
        exact ⟨other, named, grown member⟩ }

/-- A challenge is issued under values never drawn before. -/
theorem Secure.issues (secure : Secure env m) {draw : Draw} (challenge : Challenge)
    (fresh : draw.challenge ∉ m.drawn ∧ draw.slot ∉ m.drawn) :
    Secure env ({ m.withRuntime { m.runtime with
        authChallenges := m.runtime.authChallenges.insert draw.slot challenge } with
      drawn := draw.challenge :: draw.slot :: m.drawn }.record (.challenged conn draw.challenge)) where
  governed := secure.governed
  pendings d c p here pending := by
    have awaits := secure.pendings d c p here pending
    have other : draw.slot ≠ p.slot := fun same => fresh.2 (same ▸ awaits.drawn)
    refine ⟨List.mem_cons_of_mem _ (List.mem_cons_of_mem _ awaits.drawn), awaits.enabled, ?_⟩
    intro ch found
    simp only [Machine.record, Machine.withRuntime, Dict.get?_insert_of_ne _ _ other] at found
    exact ⟨(awaits.held ch found).1, List.mem_cons_of_mem _ (awaits.held ch found).2⟩
  challenges d ch member := by
    rcases List.mem_cons.mp member with same | member
    · cases same
      exact List.mem_cons_self
    · exact List.mem_cons_of_mem _ (List.mem_cons_of_mem _ (secure.challenges d ch member))
  unique d d' ch member member' := by
    rcases List.mem_cons.mp member with same | member
    · cases same
      rcases List.mem_cons.mp member' with same | member'
      · cases same
        rfl
      · exact absurd (secure.challenges _ _ member') fresh.1
    · rcases List.mem_cons.mp member' with same | member'
      · cases same
        exact absurd (secure.challenges _ _ member) fresh.1
      · exact secure.unique d d' ch member member'
  proofs d p member := secure.proofs d p (by simpa [Machine.record, Machine.withRuntime] using member)
  accepted d c id here pc := by
    obtain ⟨p, member, same⟩ := secure.accepted d c id here pc
    exact ⟨p, List.mem_cons_of_mem _ member, same⟩
  returned d id member := by
    obtain ⟨p, member, same⟩ := secure.returned d id
      (by simpa [Machine.record, Machine.withRuntime] using member)
    exact ⟨p, List.mem_cons_of_mem _ member, same⟩
  owners d c here := by
    obtain ⟨live, relay⟩ := secure.owners d c here
    refine ⟨fun session => ?_, fun port id named => List.mem_cons_of_mem _ (relay port id named)⟩
    obtain ⟨id, named, member⟩ := live session
    exact ⟨id, named, List.mem_cons_of_mem _ member⟩

theorem Secure.send (secure : Secure env m) {pc : Pc} {frame : Json} (here : m.connections.get? conn = some c)
    (handshakes : ∀ p, handshake pc = some p → Awaits env m conn p)
    (accepted : ∀ id, pc = .authenticated id → ∃ p, .proved conn p ∈ m.log ∧ p.clientId = id)
    (live : session pc = true → session c.pc = true ∨ ∃ id, c.clientId = some id ∧ .authenticated conn id ∈ m.log) :
    Secure env (m.send conn frame pc) := by
  have logged : ∀ {e : Entry}, e ∈ m.log → e ∈ (m.write conn frame).log := List.mem_cons_of_mem _
  refine Secure.goto (m := m.write conn frame) (secure.record (.inl ⟨conn, frame, rfl⟩)) here
    (fun p pending => (handshakes p pending).record) ?_ ?_
  · intro id pc
    obtain ⟨p, proved, same⟩ := accepted id pc
    exact ⟨p, logged proved, same⟩
  · intro now
    rcases live now with alive | ⟨id, named, member⟩
    · exact .inl alive
    · exact .inr ⟨id, named, logged member⟩

/-! ### One move -/

theorem calm_logged (calm : Calm conn m m') {e : Entry} (member : e ∈ m.log) : e ∈ m'.log := by
  obtain ⟨frames, log⟩ := calm.log
  exact log ▸ List.mem_append_right _ member

theorem reads_here {m₀ : Machine} {c₀ : Connection} {line : Option Json} (here : m.connections.get? conn = some c)
    (reads : Reads m conn c m₀ c₀ line) : m₀.connections.get? conn = some c₀ ∧ m₀.runtime = m.runtime ∧
      m₀.drawn = m.drawn ∧ m₀.log = m.log ∧ m₀.now = m.now ∧
      (∀ d, d ≠ conn → m₀.connections.get? d = m.connections.get? d) ∧
      ∃ buffer, c₀ = { c with buffer := buffer } := by
  cases reads with
  | stays => exact ⟨here, rfl, rfl, rfl, rfl, fun _ _ => rfl, c.buffer, rfl⟩
  | pops head rest buffer =>
    refine ⟨setBuffer_here here, rfl, rfl, rfl, rfl, fun d other => ?_, rest, rfl⟩
    simp [Machine.setBuffer, Dict.get?_modify, Ne.symm other]
  | ends buffer =>
    refine ⟨setBuffer_here here, rfl, rfl, rfl, rfl, fun d other => ?_, [], rfl⟩
    simp [Machine.setBuffer, Dict.get?_modify, Ne.symm other]

theorem Secure.reads (secure : Secure env m) {m₀ : Machine} {c₀ : Connection} {line : Option Json}
    (here : m.connections.get? conn = some c) (reads : Reads m conn c m₀ c₀ line) : Secure env m₀ := by
  obtain ⟨here', runtime, drawn, log, _, others, buffer, rfl⟩ := reads_here here reads
  obtain ⟨live, relay⟩ := secure.owners conn c here
  exact secure.connection _ ⟨runtime, drawn, log⟩ others here' (secure.pendings conn c · here)
    (secure.accepted conn c · here) live relay

/-- The durable state of an authenticated client has its record. -/
theorem Secure.enrolled (secure : Secure env m) {id : String} (member : .authenticated conn id ∈ m.log) :
    m.runtime.state.clients.contains id = true := by
  obtain ⟨p, proved, rfl⟩ := secure.returned conn id member
  obtain ⟨st, known, _⟩ := secure.proofs conn p proved
  obtain ⟨record, found, _⟩ := exists_record known
  exact (Dict.contains_iff _ _).mpr ⟨record, found⟩

theorem Secure.move (secure : Secure env m) {line : Option Json} (here : m.connections.get? conn = some c)
    (move : Move env m conn c line m') : Secure env m' := by
  cases move with
  | calm rest => exact secure.calm here rest
  | bootstrapped request port start rest =>
    have named : Secure env (m.setClient conn request.clientId) :=
      secure.setClient here (by simp [start, session]) fun relay => by simp [port] at relay
    have tables := named.runtime (m.runtime.bootstrap env m.wallClock request).1
      ⟨_, bootstrap_change m.wallClock request⟩ fun _ _ found =>
        (bootstrap_tables env m.runtime m.wallClock request).challenges ▸ found
    exact tables.calm (c := { c with clientId := some request.clientId })
      (by simp [Machine.withRuntime, Machine.setClient, Dict.get?_modify, here]) rest
  | challenged hello draw rt pending frame start fresh begun result =>
    obtain ⟨challenge, rfl, client, issued, slot, enabled⟩ := begin_spec begun
    rw [result]
    refine (secure.issues challenge fresh).send here ?_ (by simp) (by simp [session])
    rintro p pending'
    cases pending'
    refine ⟨by simp [slot, Machine.record], enabled, ?_⟩
    intro ch found
    simp only [Machine.record, Machine.withRuntime, slot, Dict.get?_insert_self, Option.some.injEq] at found
    subst found
    exact ⟨client, issued ▸ List.mem_cons_self⟩
  | proving pending start result =>
    rw [result]
    refine secure.goto here ?_ (by simp) (by simp [session])
    rintro p pending'
    cases pending'
    exact secure.pendings conn c pending here (by simp [start, handshake])
  | refused pending message start read other rest =>
    obtain ⟨op, change, _, _⟩ := conclude_change env m.runtime m.now c.port pending message
    have tables := secure.runtime _ ⟨op, change⟩ (by
      intro slot ch found
      rw [(conclude_tables env m.runtime m.now c.port pending message).2.2, Dict.get?_erase] at found
      split_ifs at found
      exact found)
    exact tables.calm here rest
  | proved pending message proof start read success result =>
    obtain ⟨op, change, _, _⟩ := conclude_change env m.runtime m.now c.port pending message
    have tables := secure.runtime _ ⟨op, change⟩ (by
      intro slot ch found
      rw [(conclude_tables env m.runtime m.now c.port pending message).2.2, Dict.get?_erase] at found
      split_ifs at found
      exact found)
    obtain ⟨_, st, _, _, _, _, _, _, standing, recorded, _⟩ :=
      conclude_spec secure.governed (Prod.ext rfl success)
    rw [result]
    refine (tables.proves conn proof ⟨st, standing, recorded⟩).send here (by simp [handshake])
      ?_ (by simp [session])
    rintro id named
    cases named
    exact ⟨proof, List.mem_cons_self, rfl⟩
  | authenticatedControl id port start result =>
    have named : Secure env (m.setClient conn id) :=
      secure.setClient here (by simp [start, session]) fun relay => by simp [port] at relay
    have returned := named.returns (secure.accepted conn c id here start)
    rw [result]
    refine returned.goto (c := { c with clientId := some id })
      (by simp [Machine.record, Machine.setClient, Dict.get?_modify, here]) (by simp [handshake]) (by simp) ?_
    exact fun _ => .inr ⟨id, rfl, List.mem_cons_self⟩
  | authenticatedRelay id port start result =>
    have returned := secure.returns (secure.accepted conn c id here start)
    have named : Secure env ((m.setClient conn id).record (.authenticated conn id)) :=
      returned.setClient here (by simp [start, session]) fun _ => List.mem_cons_self
    have present : (((m.setClient conn id).record (.authenticated conn id)).registerSession conn id).connections.get?
        conn = some { c with clientId := some id } := by
      simp [Machine.registerSession, Machine.withRuntime, Machine.record, Machine.setClient, Dict.get?_modify, here]
    have entered : Secure env (((m.setClient conn id).record (.authenticated conn id)).registerSession conn id) :=
      named.runtime _ ⟨.save, .keeps rfl (.inl rfl)⟩ fun _ _ found => found
    rcases result with rfl | ⟨_, rest⟩
    · have seen : Secure env ((((m.setClient conn id).record (.authenticated conn id)).registerSession
          conn id).markSeen id) :=
        entered.runtime _ ⟨.save, .keeps (standing_modify_same _ _
          (fun client => { client with lastSeen := some m.now }) fun _ => rfl) (.inl rfl)⟩ fun _ _ found => found
      exact seen.send present (by simp [handshake]) (by simp) fun _ => .inr ⟨id, rfl, List.mem_cons_self⟩
    · exact entered.calm present rest
  | managed id message start own read kind rest =>
    have tables := secure.runtime (m.runtime.managementRequest env m.now id
      (message.getD "request" (.obj []))).1 ⟨_, manage_change m.now id _⟩ fun _ _ found =>
        (manage_tables env m.runtime m.now id _).challenges ▸ found
    exact tables.calm here rest
  | registered id message start own read rest =>
    obtain ⟨id', named, member⟩ := (secure.owners conn c here).1 (by simp [start, session])
    obtain rfl : id' = id := by simpa [named] using own
    have tables := secure.runtime (m.runtime.registerWisps env m.now id' message).1
      ⟨_, register_change secure.governed (secure.enrolled member)⟩ fun _ _ found =>
        (register_tables env m.runtime m.now id' message).challenges ▸ found
    exact tables.calm here rest
  | accepting recipient destination frame start read valid m₁ first result =>
    obtain ⟨pc, own, _⟩ := first.own c here
    obtain ⟨id, named, member⟩ := (secure.owners conn c here).1 (by simp [start, session])
    rw [result]
    exact (secure.calm here first).goto own (by simp [handshake]) (by simp)
      fun _ => .inr ⟨id, named, calm_logged first member⟩
  | delivered recipient destination frame start m₁ first result =>
    obtain ⟨pc, own, _⟩ := first.own c here
    obtain ⟨id, named, member⟩ := (secure.owners conn c here).1
      (by rcases start with ⟨start, _⟩ | start <;> simp [start, session])
    rw [result]
    have written := ((secure.calm here first).record (.inl ⟨destination, frame, rfl⟩)).record
      (.inr ⟨conn, c.clientId.getD "", destination, frame, rfl⟩)
    exact written.goto own (by simp [handshake]) (by simp) fun _ =>
      .inr ⟨id, named, List.mem_cons_of_mem _ (List.mem_cons_of_mem _ (calm_logged first member))⟩

/-! ### One step -/

/-- A move that serves a management request of its own connection. -/
structure Serves (env : Env) (m : Machine) (conn : ConnId) (c : Connection) (line : Option Json) (m' : Machine)
    (asked : ℕ × String × Json) : Prop where
  managing : managing c.pc = true
  own : asked.2.1 = c.clientId.getD ""
  request : ∃ message, line = some message ∧ message.get "type" = .str "management_request" ∧
    asked.2.2 = message.getD "request" (.obj [])
  rest : Calm conn (m.withRuntime (m.runtime.managementRequest env m.now asked.2.1 asked.2.2).1) m'

/-- A move changes the durable state as one operation does; it enrols only where that is enabled, and
serves only the requests of its own connection. -/
theorem move_change (secure : Secure env m) {line : Option Json} (here : m.connections.get? conn = some c)
    (move : Move env m conn c line m') :
    ∃ op, Change m.runtime.state op m'.runtime.state ∧ (op.enrols → env.enrollmentEnabled = true) ∧
      ∀ asked, op.served = some asked → Serves env m conn c line m' asked := by
  have after : ∀ {n : Machine}, Calm conn n m' → ∀ {op}, Change m.runtime.state op n.runtime.state →
      (op.enrols → env.enrollmentEnabled = true) → op.served = none →
      ∃ op, Change m.runtime.state op m'.runtime.state ∧ (op.enrols → env.enrollmentEnabled = true) ∧
        ∀ asked, op.served = some asked → Serves env m conn c line m' asked := by
    intro n calm op change enabled idle
    refine ⟨op, change_keep change calm.standing calm.file, enabled, fun asked served => ?_⟩
    rw [idle] at served
    cases served
  have idle : Change m.runtime.state .save m.runtime.state := .keeps rfl (fileKept_refl _)
  cases move with
  | calm rest => exact after rest idle False.elim rfl
  | bootstrapped request port start rest =>
    by_cases enabled : env.enrollmentEnabled = true
    · exact after rest (bootstrap_change m.wallClock request) (fun _ => enabled) rfl
    · refine after rest (.keeps ?_ (.inl ?_) : Change _ .save _) False.elim rfl <;>
        simp only [Machine.withRuntime, RelayRuntime.bootstrap, enabled] <;> split_ifs <;> simp_all
  | challenged hello draw rt pending frame start fresh begun result =>
    obtain ⟨challenge, rfl, _⟩ := begin_spec begun
    rw [result]
    exact ⟨.save, idle, False.elim, by rintro _ ⟨⟩⟩
  | proving pending start result =>
    rw [result]
    exact ⟨.save, idle, False.elim, by rintro _ ⟨⟩⟩
  | refused pending message start read other rest =>
    obtain ⟨op, change, known, idle⟩ := conclude_change env m.runtime m.now c.port pending message
    exact after rest change (fun enrols =>
      (secure.pendings conn c pending here (by simp [start, handshake])).enabled (known enrols)) idle
  | proved pending message proof start read success result =>
    obtain ⟨op, change, known, idle⟩ := conclude_change env m.runtime m.now c.port pending message
    rw [result]
    exact ⟨op, change, fun enrols =>
      (secure.pendings conn c pending here (by simp [start, handshake])).enabled (known enrols),
      fun asked served => by simp [idle] at served⟩
  | authenticatedControl id port start result =>
    rw [result]
    exact ⟨.save, idle, False.elim, by rintro _ ⟨⟩⟩
  | authenticatedRelay id port start result =>
    rcases result with rfl | ⟨_, rest⟩
    · exact ⟨.save, .keeps (standing_modify_same _ _
        (fun client => { client with lastSeen := some m.now }) fun _ => rfl) (.inl rfl), False.elim, by rintro _ ⟨⟩⟩
    · exact after rest idle False.elim rfl
  | managed id message start own read kind rest =>
    refine ⟨.manage m.now id (message.getD "request" (.obj [])), change_keep (manage_change m.now id _)
      rest.standing rest.file, False.elim, fun asked served => ?_⟩
    obtain rfl := Option.some.inj served
    exact ⟨start, own.symm, ⟨message, read, kind, rfl⟩, rest⟩
  | registered id message start own read rest =>
    obtain ⟨id', named, member⟩ := (secure.owners conn c here).1 (by simp [start, session])
    obtain rfl : id' = id := by simpa [named] using own
    exact after rest (register_change secure.governed (secure.enrolled member)) False.elim rfl
  | accepting recipient destination frame start read valid m₁ first result =>
    rw [result]
    exact ⟨.save, .keeps first.standing first.file, False.elim, by rintro _ ⟨⟩⟩
  | delivered recipient destination frame start m₁ first result =>
    rw [result]
    exact ⟨.save, .keeps first.standing first.file, False.elim, by rintro _ ⟨⟩⟩

/-- The log only grows. -/
theorem move_log {line : Option Json} (move : Move env m conn c line m') : m.log <:+ m'.log := by
  obtain ⟨new, log, _⟩ := move_entries move
  exact ⟨new, log.symm⟩

/-- A step is a move of one connection behind a read, or leaves tables, log and draws alone. -/
theorem step_cases {e : Event} (stepped : m.step env e = some m') :
    (∃ conn c outcome draw m₀ c₀ line, e = .resume conn outcome draw ∧ m.connections.get? conn = some c ∧
      Reads m conn c m₀ c₀ line ∧ (line ≠ none → outcome = .read) ∧ Move env m₀ conn c₀ line m') ∨
    (m'.runtime = m.runtime ∧ m'.drawn = m.drawn ∧ m'.log = m.log ∧
      (∀ d c', m'.connections.get? d = some c' → (∃ c, m.connections.get? d = some c ∧
        c'.port = c.port ∧ c'.clientId = c.clientId ∧ c'.pc = c.pc ∧
        (c'.buffer = c.buffer ∨ ¬ m.runtime.closed.contains d = true)) ∨
        (m.connections.get? d = none ∧ ∃ port, c' = { port })) ∧
      ∀ d, (m.connections.get? d).isSome → (m'.connections.get? d).isSome) := by
  cases e with
  | connect conn port =>
    simp only [Machine.step] at stepped
    split_ifs at stepped with present
    cases stepped
    refine .inr ⟨rfl, rfl, rfl, fun d c' found => ?_, fun d known => by
      simp [Dict.get?_insert]; split_ifs <;> simp [known]⟩
    simp only [Dict.get?_insert] at found
    split_ifs at found with same
    · subst same
      cases found
      exact .inr ⟨(Dict.contains_eq_false_iff _ _).mp (Bool.eq_false_iff.mpr present), port, rfl⟩
    · exact .inl ⟨c', found, rfl, rfl, rfl, .inl rfl⟩
  | receive conn line =>
    simp only [Machine.step] at stepped
    split at stepped
    · cases stepped
    · rename_i c here
      split_ifs at stepped with blocked
      cases stepped
      refine .inr ⟨rfl, rfl, rfl, fun d c' found => ?_, fun d known => ?_⟩
      rotate_left
      · simp only [Machine.setBuffer, Dict.get?_modify]
        split_ifs <;> simp [known]
      simp only [Machine.setBuffer, Dict.get?_modify] at found
      split_ifs at found with same
      · subst same
        rw [here] at found
        cases found
        exact .inl ⟨c, here, rfl, rfl, rfl, .inr (not_or.mp blocked).1⟩
      · exact .inl ⟨c', found, rfl, rfl, rfl, .inl rfl⟩
  | hangup conn =>
    simp only [Machine.step] at stepped
    split at stepped
    · cases stepped
    · rename_i c here
      cases stepped
      refine .inr ⟨rfl, rfl, rfl, fun d c' found => ?_, fun d known => ?_⟩
      rotate_left
      · simp only [Dict.get?_insert]
        split_ifs <;> simp [known]
      simp only [Dict.get?_insert] at found
      split_ifs at found with same
      · subst same
        cases found
        exact .inl ⟨c, here, rfl, rfl, rfl, .inl rfl⟩
      · exact .inl ⟨c', found, rfl, rfl, rfl, .inl rfl⟩
  | resume conn outcome draw =>
    simp only [Machine.step] at stepped
    split at stepped
    · cases stepped
    · rename_i c here
      obtain ⟨m₀, c₀, line, reads, read, move⟩ := resume_move here stepped
      exact .inl ⟨conn, c, outcome, draw, m₀, c₀, line, rfl, here, reads, read, move⟩
  | tick seconds =>
    cases stepped
    exact .inr ⟨rfl, rfl, rfl, fun d c' found => .inl ⟨c', found, rfl, rfl, rfl, .inl rfl⟩, fun _ known => known⟩

theorem Secure.step (secure : Secure env m) {e : Event} (stepped : m.step env e = some m') : Secure env m' := by
  rcases step_cases stepped with ⟨conn, c, _, _, m₀, c₀, line, _, here, reads, _, move⟩ |
    ⟨runtime, drawn, log, connections, _⟩
  · obtain ⟨here₀, _⟩ := reads_here here reads
    exact (secure.reads here reads).move here₀ move
  · exact
      { governed := runtime ▸ secure.governed
        pendings := by
          intro d c' p found pending
          have awaits : Awaits env m d p := by
            rcases connections d c' found with ⟨c, here, _, _, pc, _⟩ | ⟨_, port, rfl⟩
            · exact secure.pendings d c p here (pc ▸ pending)
            · cases pending
          exact ⟨drawn ▸ awaits.drawn, awaits.enabled, by rw [runtime, log]; exact awaits.held⟩
        challenges := by rw [drawn, log]; exact secure.challenges
        unique := by rw [log]; exact secure.unique
        proofs := by rw [runtime, log]; exact secure.proofs
        accepted := by
          intro d c' id found pc'
          rw [log]
          rcases connections d c' found with ⟨c, here, _, _, pc, _⟩ | ⟨_, port, rfl⟩
          · exact secure.accepted d c id here (pc ▸ pc')
          · cases pc'
        returned := by rw [log]; exact secure.returned
        owners := by
          intro d c' found
          rw [log]
          rcases connections d c' found with ⟨c, here, port, client, pc, _⟩ | ⟨_, port, rfl⟩
          · rw [port, client, pc]
            exact secure.owners d c here
          · exact ⟨fun live => by simp [session] at live, fun _ id named => by cases named⟩ }

theorem started_secure (started : m.Started env) : Secure env m := by
  obtain ⟨⟨_, _, _, challenges, connections, log⟩, rt, history, state⟩ := started
  exact
    { governed := state ▸ reach_governed history
      pendings := by simp [connections]
      challenges := by simp [log]
      unique := by simp [log]
      proofs := by simp [log]
      accepted := by simp [connections]
      returned := by simp [log]
      owners := by simp [connections] }

/-- Every reachable state of a relay process is secure. -/
theorem reach_secure {meets : Machine → Event → Prop}
    (reach : Reach (Machine.step env) meets (Machine.Started env) m) : Secure env m :=
  reach.invariant _ (fun _ started => started_secure started) fun _ _ _ _ secure _ stepped => secure.step stepped

/-- A step changes the durable state as one operation does, and enrols only where that is enabled. -/
theorem step_change (secure : Secure env m) {e : Event} (stepped : m.step env e = some m') :
    ∃ op, Change m.runtime.state op m'.runtime.state ∧ (op.enrols → env.enrollmentEnabled = true) := by
  rcases step_cases stepped with ⟨conn, c, _, _, m₀, c₀, line, _, here, reads, _, move⟩ | ⟨runtime, _, _, _⟩
  · obtain ⟨here₀, runtime, _⟩ := reads_here here reads
    obtain ⟨op, change, enabled, _⟩ := move_change (secure.reads here reads) here₀ move
    exact ⟨op, runtime ▸ change, enabled⟩
  · rw [runtime]
    exact ⟨.save, .keeps rfl (fileKept_refl _), False.elim⟩

theorem step_log {e : Event} (stepped : m.step env e = some m') : m.log <:+ m'.log := by
  rcases step_cases stepped with ⟨conn, c, _, _, m₀, c₀, line, _, here, reads, _, move⟩ | ⟨_, _, log, _⟩
  · obtain ⟨_, _, _, log, _⟩ := reads_here here reads
    exact log ▸ move_log move
  · exact log ▸ List.suffix_rfl

end Steps

/-! ## The step that checked a proof -/

/-- In the step from `before` to `after` the connection presented a proof and it was checked: the
signature verifies under the recorded key over the transcript of the connection's own role, client
and challenge, and the record stood as the port requires. -/
structure Checked (env : Env) (conn : ConnId) (c : Connection) (message : Json) (proof : Proof)
    (before after : Machine) : Prop where
  connection : before.connections.get? conn = some c
  presented : ∃ rest, c.buffer = some message :: rest
  signature : message.get "signature" = .str proof.signature
  role : proof.role = c.port.role
  issued : .challenged conn proof.challenge ∈ before.log
  verified : env.verify proof.publicKey (authTranscript env c.port.role proof.clientId proof.challenge
    proof.ticket proof.peer proof.length) proof.signature = true
  logged : ∃ frame, after.log = .wrote conn frame :: .proved conn proof :: before.log
  record : ∃ st, after.runtime.state.standing proof.clientId = some st ∧
    st.publicKey = some (.str proof.publicKey) ∧ Usable c.port st

section Evidence

variable {env : Env} {m m' : Machine} {conn : ConnId} {proof : Proof}

theorem calm_unproved {d : ConnId} (calm : Calm d m m') (absent : .proved conn proof ∉ m.log) :
    .proved conn proof ∉ m'.log := fun member => absent (calm_entry calm member (by simp))

/-- A proof enters the log in the step that checked it. -/
theorem proved_checked (secure : Secure env m) {e : Event} (stepped : m.step env e = some m')
    (member : .proved conn proof ∈ m'.log) (new : .proved conn proof ∉ m.log) :
    ∃ c message draw, e = .resume conn .read draw ∧ Checked env conn c message proof m m' := by
  rcases step_cases stepped with ⟨d, c, outcome, draw, m₀, c₀, line, rfl, here, reads, taken, move⟩ | ⟨_, _, log, _⟩
  · have secure₀ := secure.reads here reads
    obtain ⟨here₀, runtime₀, _, log₀, now₀, _, buffer, rfl⟩ := reads_here here reads
    have new₀ : .proved conn proof ∉ m₀.log := log₀ ▸ new
    have untouched : ∀ {n : Machine}, Calm d n m' → .proved conn proof ∉ n.log → False :=
      fun calm absent => calm_unproved calm absent member
    cases move with
    | calm rest => exact (untouched rest new₀).elim
    | bootstrapped request port start rest => exact (untouched rest new₀).elim
    | challenged hello draw' rt pending frame start fresh begun result =>
      rw [result] at member
      simp only [Machine.send, Machine.goto, Machine.write, Machine.record, Machine.withRuntime,
        List.mem_cons] at member
      rcases member with member | member | member
      · cases member
      · cases member
      · exact absurd member new₀
    | proving pending start result =>
      rw [result] at member
      exact absurd member new₀
    | refused pending message start read other rest => exact (untouched rest new₀).elim
    | proved pending message checked start read success result =>
      obtain ⟨challenge, st, found, signature, role, client, issued, verified, standing, recorded, usable⟩ :=
        conclude_spec secure₀.governed (Prod.ext rfl success)
      have awaits := secure₀.pendings d _ pending here₀ (by rw [start]; rfl)
      obtain ⟨owner, logged⟩ := awaits.held challenge found
      have same : conn = d ∧ proof = checked := by
        rw [result] at member
        simp only [Machine.send, Machine.goto, Machine.write, Machine.record, List.mem_cons] at member
        rcases member with member | member | member
        · cases member
        · cases member
          exact ⟨rfl, rfl⟩
        · exact absurd member new₀
      obtain ⟨rfl, rfl⟩ := same
      subst read
      obtain rfl : outcome = .read := taken (by simp)
      have presented := reads_line reads
      refine ⟨c, message, draw, rfl, here, presented, signature, role, ?_, ?_, ?_, st, ?_, recorded, usable⟩
      · rw [issued, ← log₀]
        exact logged
      · rw [client, owner]
        exact verified
      · rw [result, ← log₀]
        exact ⟨_, rfl⟩
      · rw [result]
        exact standing
    | authenticatedControl id port start result =>
      rw [result] at member
      rcases List.mem_cons.mp member with member | member
      · cases member
      · exact absurd member new₀
    | authenticatedRelay id port start result =>
      have absent : .proved conn proof ∉ (Entry.authenticated d id :: m₀.log) := by simp [new₀]
      rcases result with rfl | ⟨_, rest⟩
      · rcases List.mem_cons.mp member with member | member
        · cases member
        · exact absurd member absent
      · exact (untouched rest absent).elim
    | managed id message start own read kind rest => exact (untouched rest new₀).elim
    | registered id message start own read rest => exact (untouched rest new₀).elim
    | accepting recipient destination frame start read valid m₁ first result =>
      exact absurd (by rwa [result] at member) (calm_unproved first new₀)
    | delivered recipient destination frame start m₁ first result =>
      rw [result] at member
      rcases List.mem_cons.mp member with member | member
      · cases member
      · rcases List.mem_cons.mp member with member | member
        · cases member
        · exact absurd member (calm_unproved first new₀)
  · exact absurd (log ▸ member) new

end Evidence

/-! ## The result -/

/-- Where a logged proof comes from: an earlier state of the run, the line that was read there and
the step that checked it. -/
def Established (env : Env) (m : Machine) (conn : ConnId) (proof : Proof) : Prop :=
  ∃ before after c message draw, Reach (Machine.step env) anyStep (Machine.Started env) before ∧
    before.step env (.resume conn .read draw) = some after ∧ after.log <:+ m.log ∧
    Checked env conn c message proof before after

theorem reach_established {env : Env} {m : Machine}
    (reach : Reach (Machine.step env) anyStep (Machine.Started env) m) {conn : ConnId} {proof : Proof}
    (member : .proved conn proof ∈ m.log) : Established env m conn proof := by
  induction reach with
  | start started =>
    rw [started.1.2.2.2.2.2] at member
    cases member
  | @next s t e before _ stepped ih =>
    by_cases old : .proved conn proof ∈ s.log
    · obtain ⟨b, a, c, message, draw, reached, ran, within, checked⟩ := ih old
      exact ⟨b, a, c, message, draw, reached, ran, within.trans (step_log stepped), checked⟩
    · obtain ⟨c, message, draw, rfl, checked⟩ := proved_checked (reach_secure before) stepped member old
      exact ⟨s, t, c, message, draw, before, stepped, List.suffix_rfl, checked⟩

/-- In every interleaving of handshakes, enrolments and registrations: the key of a record never
changes; a connection for which authentication returned a client id has presented, in some step of
the run, a signature over the transcript of its own role, that id and a challenge issued on it and
on no other connection, which verified under the key the client's record holds, while the record
stood as the port requires; and with enrolment disabled no record is ever created. -/
theorem authentication (env : Env) {m : Machine}
    (reach : Reach (Machine.step env) anyStep (Machine.Started env) m) :
    (∀ (e : Event) (m' : Machine) id st key, m.step env e = some m' →
      m.runtime.state.standing id = some st → st.publicKey = some (.str key) →
      ∃ st', m'.runtime.state.standing id = some st' ∧ st'.publicKey = some (.str key)) ∧
    (∀ id st, m.runtime.state.standing id = some st → ∃ key, st.publicKey = some (.str key)) ∧
    (∀ conn id, .authenticated conn id ∈ m.log → ∃ proof, proof.clientId = id ∧
      Established env m conn proof ∧ (∀ other, .challenged other proof.challenge ∈ m.log → other = conn) ∧
      ∃ st, m.runtime.state.standing id = some st ∧ st.publicKey = some (.str proof.publicKey)) ∧
    (env.enrollmentEnabled = false → ∀ (e : Event) (m' : Machine) id, m.step env e = some m' →
      m.runtime.state.standing id = none → m'.runtime.state.standing id = none) := by
  have secure := reach_secure reach
  refine ⟨?_, fun id st known => (secure.governed.complete id st known).1, ?_, ?_⟩
  · intro e m' id st key stepped known recorded
    obtain ⟨op, change, _⟩ := step_change secure stepped
    exact change_key change known recorded
  · intro conn id member
    obtain ⟨proof, proved, rfl⟩ := secure.returned conn id member
    obtain ⟨before, after, c, message, draw, reached, ran, within, checked⟩ := reach_established reach proved
    refine ⟨proof, rfl, ⟨before, after, c, message, draw, reached, ran, within, checked⟩, ?_,
      secure.proofs conn proof proved⟩
    intro other issued
    have own : .challenged conn proof.challenge ∈ m.log :=
      within.subset ((step_log ran).subset checked.issued)
    exact secure.unique other conn proof.challenge issued own
  · intro disabled e m' id stepped unknown
    obtain ⟨op, change, enabled⟩ := step_change secure stepped
    have present : ∀ {other new}, m'.runtime.state.standing =
        Function.update m.runtime.state.standing other (some new) →
        (∃ st, m.runtime.state.standing other = some st) → m'.runtime.state.standing id = none := by
      rintro other new now ⟨st, known⟩
      rw [now, Function.update_of_ne, unknown]
      rintro rfl
      rw [unknown] at known
      cases known
    cases change with
    | keeps same file => rw [same, unknown]
    | enrols other key fresh now saved actor =>
      rw [enabled actor] at disabled
      cases disabled
    | claims other st known vacant actor now saved => exact present now ⟨st, known⟩
    | sets admin other action st known authority distinct actor now saved => exact present now ⟨st, known⟩

/-- A control connection that enrols as `alice` and proves its key. -/
def handshakeRun : List Event :=
  [.connect 0 .control,
    .receive 0 (some (.obj [("role", .str "control"), ("client_id", .str "alice"), ("public_key", .str "key")])),
    .resume 0 .read ⟨"challenge", "slot"⟩, .resume 0 .sent ⟨"", ""⟩,
    .receive 0 (some (.obj [("type", .str "auth_proof"),
      ("signature", .str "keywisp-relay-auth-v1\ncontrol\nalice\nchallenge\n\n\n")])),
    .resume 0 .read ⟨"unused", "unused"⟩, .resume 0 .sent ⟨"", ""⟩]

def authenticatedMachine : Machine := (replay (Machine.step sampleEnv) {} handshakeRun).getD {}

theorem authentication_control : ∃ proof : Proof, proof.clientId = "alice" ∧
    Established sampleEnv authenticatedMachine 0 proof := by
  have started : Machine.Started sampleEnv {} :=
    ⟨⟨rfl, rfl, rfl, rfl, rfl, rfl⟩, {}, .start rfl, rfl⟩
  have reach : Reach (Machine.step sampleEnv) anyStep (Machine.Started sampleEnv) authenticatedMachine :=
    Reach.of_replay started handshakeRun rfl
  obtain ⟨proof, client, established, _⟩ :=
    (authentication sampleEnv reach).2.2.1 0 "alice" (by decide)
  exact ⟨proof, client, established⟩

end WispGate.Soundness.Authentication
