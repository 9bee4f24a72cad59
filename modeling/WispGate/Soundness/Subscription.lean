import WispGate.Soundness.Announcing
import WispGate.Soundness.Removal

/-! # Catalogs at the subscribers

A subscriber does not ask for the catalog, it is told. At every moment it was told the current one, or
some handler is on the way to tell it: its list still holds the subscriber, or a broadcast lies ahead of
it. Management requests, registrations that raise half way, answers to registrations that are lost and
lines of clients that are gone change the catalog with no broadcast ahead.
-/

namespace WispGate.Soundness.Subscription

open Data Model Model.Relay Machine Authentication Revocation Registry Catalogs Announcing

/-! ## Conditions -/

/-- Time passes, and no liveness time expires. -/
def Unexpired (m : Machine) : Event → Prop
  | .tick seconds => ∀ entry ∈ m.runtime.relayLiveness.entries, m.now + seconds - entry.2 ≤ heartbeatTimeoutSeconds
  | _ => True

/-- The message that an event makes a connection's handler read. -/
def taking (m : Machine) : Event → Option (Connection × Json)
  | .resume conn .read _ =>
    match m.connections.get? conn with
    | none => none
    | some c =>
      match c.buffer with
      | some message :: _ => some (c, message)
      | _ => none
  | _ => none

/-- The write of the answer to a registration fails. -/
def forsaking (m : Machine) : Event → Bool
  | .resume conn .lost _ => (m.connections.get? conn).any fun c => decide (c.pc = .registered)
  | _ => false

/-- A step that changes no catalog with no broadcast ahead: no line is read for a client without a
liveness time, management requests leave the tables as they are, registrations complete or do so too,
and their answers are written. -/
def Heralded (env : Env) (m : Machine) (e : Event) : Prop :=
  Unexpired m e ∧ (∀ id ∈ Presence.hearing m e, m.runtime.relayLiveness.contains id = true) ∧
    (∀ taken ∈ taking m e, Harmless env m taken.1 taken.2) ∧ forsaking m e = false

instance (m : Machine) : (e : Event) → Decidable (Unexpired m e)
  | .tick seconds => inferInstanceAs (Decidable (∀ entry ∈ m.runtime.relayLiveness.entries,
      m.now + seconds - entry.2 ≤ heartbeatTimeoutSeconds))
  | .connect _ _ | .receive _ _ | .hangup _ | .resume _ _ _ => inferInstanceAs (Decidable True)

instance (env : Env) (m : Machine) (e : Event) : Decidable (Heralded env m e) := inferInstanceAs (Decidable (_ ∧ _))

/-- No handler is in the middle of a step: each waits for a line or has ended. -/
def Resting (m : Machine) : Prop := ∀ conn c, m.connections.get? conn = some c →
  readsLine c.pc = true ∨ c.pc = .closing ∨ c.pc = .done

/-! ## The invariant -/

/-- What holds in every state of a run whose steps are all heralded. -/
structure Told (env : Env) (m : Machine) : Prop where
  placed : Placed m
  fresh : Fresh m.runtime m.now
  listable : Listable m
  carried : ∀ conn c recipient destination frame, m.connections.get? conn = some c →
    c.pc = .accepting recipient destination frame → brings frame = false
  subscribers : ∀ id d, m.runtime.controlSessions.get? id = some d →
    .authenticated d id ∈ m.log ∧ ∃ c, m.connections.get? d = some c ∧ c.port = .control
  listed : ∀ conn c current rest stale after, m.connections.get? conn = some c →
    c.pc = .broadcasting current rest stale after → ∀ entry ∈ rest, .authenticated entry.2 entry.1 ∈ m.log
  informed : ∀ id d, m.runtime.controlSessions.get? id = some d →
    Informed env m id d ∨ ∃ conn c, m.connections.get? conn = some c ∧ Promises m conn c id d

section Steps

variable {env : Env} {m m' : Machine} {conn d : ConnId} {c : Connection} {e : Event} {outcome : Outcome} {draw : Draw}
  {id : String}

/-! ### Standings -/

theorem change_enlists {s t : RelayState} {op : Operation} (change : Change s op t) (unmanaged : op.served = none) :
    Enlists s t := by
  intro id
  cases change with
  | keeps same => exact .inl (congrFun same id)
  | enrols clientId key fresh now =>
    by_cases same : id = clientId
    · subst same
      exact .inr ⟨fresh, _, by rw [now, Function.update_self], rfl⟩
    · exact .inl (by rw [now, Function.update_of_ne same])
  | claims clientId st known vacant actor now saved =>
    obtain ⟨now, request, rfl, -⟩ := actor
    cases unmanaged
  | sets admin target action st known authority other actor now saved =>
    obtain ⟨now, request, rfl, -⟩ := actor
    cases unmanaged

theorem reads_taking {m₀ : Machine} {c₀ : Connection} {message : Json} {line : Option Json}
    (here : m.connections.get? conn = some c) (reads : Reads m conn c m₀ c₀ line) (read : line = some message) :
    taking m (.resume conn .read draw) = some (c, message) := by
  cases reads with
  | stays => cases read
  | pops head rest buffer =>
    obtain rfl := read
    simp only [taking, here, buffer]
  | ends buffer => cases read

/-- A heralded step changes the standing of no client that is known. -/
theorem step_enlists (secure : Secure env m) (heralded : Heralded env m e) (stepped : m.step env e = some m') :
    Enlists m.runtime.state m'.runtime.state := by
  rcases step_cases stepped with ⟨conn, c, outcome, draw, m₀, c₀, line, rfl, here, reads, read, move⟩ | ⟨runtime, -⟩
  · obtain ⟨here₀, runtime, -, -, now, -, buffer, rfl⟩ := reads_here here reads
    obtain ⟨op, change, -, serves⟩ := move_change (secure.reads here reads) here₀ move
    cases asked : op.served with
    | none => exact runtime ▸ change_enlists change asked
    | some request =>
      obtain ⟨managing, own, ⟨message, line, kind, body⟩, rest⟩ := serves request asked
      have taken : taking m (.resume conn outcome draw) = some (c, message) := by
        rw [read (by rw [line]; simp)]
        exact reads_taking here reads line
      have steady := (heralded.2.2.1 _ taken).1 managing kind
      have answered := rest.standing
      rw [own, body, runtime] at answered
      have kept : m'.runtime.state.standing = m.runtime.state.standing :=
        answered.trans (Administration.standing_congr (by rw [now]; exact steady.2.1))
      exact fun id => .inl (congrFun kept id)
  · rw [runtime]
    exact fun _ => .inl rfl

/-- A subscriber is a client with a recorded key. -/
theorem authenticated_known (secure : Secure env m) (member : .authenticated d id ∈ m.log) :
    ∃ st, m.runtime.state.standing id = some st ∧ st.publicKey ≠ none := by
  obtain ⟨p, proved, rfl⟩ := secure.returned d id member
  obtain ⟨st, known, key⟩ := secure.proofs d p proved
  exact ⟨st, known, by rw [key]; simp⟩

/-! ### Tables and connections -/

theorem settles_tables {t : Tables} (settles : Settles conn t m) :
    (∀ id time, m.runtime.relayLiveness.get? id = some time → t.liveness.get? id = some time) ∧
      ∀ id d, m.runtime.controlSessions.get? id = some d → t.control.get? id = some d := by
  have kept : ∀ {t' : Tables}, tables m.runtime = t' →
      m.runtime.relayLiveness = t'.liveness ∧ m.runtime.controlSessions = t'.control := by
    rintro t' rfl
    exact ⟨rfl, rfl⟩
  cases settles with
  | keeps same =>
    obtain ⟨liveness, control⟩ := kept same
    rw [liveness, control]
    exact ⟨fun _ _ found => found, fun _ _ found => found⟩
  | leaves own_id own gone ended =>
    obtain ⟨liveness, control⟩ := kept gone
    rw [liveness, control]
    refine ⟨fun id time found => ?_, fun _ _ found => found⟩
    rw [Tables.dropSession, Dict.get?_erase] at found
    split_ifs at found
    exact found
  | parts own_id own gone ended =>
    obtain ⟨liveness, control⟩ := kept gone
    rw [liveness, control]
    refine ⟨fun _ _ found => found, fun id d found => ?_⟩
    rw [Tables.dropControl, Dict.get?_erase] at found
    split_ifs at found
    exact found

/-- A liveness time is old or is now, and a subscription is old or that of the resumed handler. -/
theorem resume_tables (here : m.connections.get? conn = some c) (success : m.resume env conn c outcome draw = some m') :
    (∀ id time, m'.runtime.relayLiveness.get? id = some time →
      m.runtime.relayLiveness.get? id = some time ∨ time = m.now) ∧
      ∀ id d, m'.runtime.controlSessions.get? id = some d → m.runtime.controlSessions.get? id = some d ∨
        (c.pc = .registered ∧ d = conn ∧ id = c.clientId.getD "") := by
  obtain ⟨c₀, taken, pc, port, client, took, stretch⟩ := resume_stretch here success
  cases stretch with
  | settles rest =>
    obtain ⟨liveness, control⟩ := settles_tables rest
    exact ⟨fun id time found => .inl (liveness id time found), fun id d found => .inl (control id d found)⟩
  | hears start line rest =>
    obtain ⟨liveness, control⟩ := settles_tables rest
    refine ⟨fun id time found => ?_, fun id d found => .inl (control id d found)⟩
    have found := liveness id time found
    rw [Tables.hear, Dict.get?_insert] at found
    split_ifs at found
    · exact .inr (Option.some.inj found).symm
    · exact .inl found
  | registers client' start port' rest =>
    obtain ⟨liveness, control⟩ := settles_tables rest
    refine ⟨fun id time found => ?_, fun id d found => .inl (control id d found)⟩
    have found := liveness id time found
    rw [Tables.register, Dict.get?_insert] at found
    split_ifs at found
    · exact .inr (Option.some.inj found).symm
    · exact .inl found
  | subscribes start rest =>
    obtain ⟨liveness, control⟩ := settles_tables rest
    refine ⟨fun id time found => .inl (liveness id time found), fun id d found => ?_⟩
    have found := control id d found
    rw [Tables.subscribe, Dict.get?_insert] at found
    split_ifs at found with same
    · exact .inr ⟨pc ▸ start, (Option.some.inj found).symm, client ▸ same.symm⟩
    · exact .inl found
  | strikes current stale after start names ends gone =>
    have liveness : m'.runtime.relayLiveness = m.runtime.relayLiveness :=
      (congrArg Tables.liveness gone).trans (Tables.strike_liveness ..)
    have control : ∀ id, m'.runtime.controlSessions.get? id =
        if id ∈ names then none else m.runtime.controlSessions.get? id :=
      fun id => (congrArg (fun t : Tables => t.control.get? id) gone).trans (Tables.strike_control ..)
    refine ⟨fun id time found => .inl (liveness ▸ found), fun id d found => .inl ?_⟩
    rw [control] at found
    split_ifs at found
    exact found
  | loses client' destination start lost own rest =>
    obtain ⟨liveness, control⟩ := settles_tables rest
    refine ⟨fun id time found => .inl ?_, fun id d found => .inl (control id d found)⟩
    have found := liveness id time found
    rw [Tables.dropSession, Dict.get?_erase] at found
    split_ifs at found
    exact found
  | evicts message target start read kind orders gone =>
    have liveness : m'.runtime.relayLiveness = m.runtime.relayLiveness := congrArg Tables.liveness gone
    have control : m'.runtime.controlSessions = m.runtime.controlSessions.erase target := congrArg Tables.control gone
    refine ⟨fun id time found => .inl (liveness ▸ found), fun id d found => .inl ?_⟩
    rw [control, Dict.get?_erase] at found
    split_ifs at found
    exact found

theorem effect_now (effect : Effect env m conn c m') : m'.now = m.now := by
  cases effect with
  | silent same => exact same.now
  | covers now => exact now
  | promises now => exact now
  | turns _ _ _ _ _ _ _ now => exact now

theorem effect_listable (listable : Listable m) (effect : Effect env m conn c m') : Listable m' := by
  cases effect with
  | silent same => exact same.listable listable
  | covers now wisps covered =>
    rcases covered with ⟨nobody, -⟩ | ⟨id, d, rest, -, ⟨items, listed, -⟩, -⟩
    · exact .inr nobody
    · exact .inl (catalogItems_defined.mp ⟨items, listed⟩)
  | promises now clear control => exact listable.imp clear fun nobody => control ▸ nobody
  | turns _ _ _ _ _ _ _ _ runtime =>
    unfold Listable
    rw [runtime]
    exact listable

/-- A resumed handler takes up a frame only if it is one to forward. -/
theorem next_carried {line : Option Json} {c' : Connection} {recipient : String} {destination : ConnId} {frame : Json}
    (next : Next env m m' c line c') (holds : c'.pc = .accepting recipient destination frame) :
    c.pc = .accepting recipient destination frame ∨ brings frame = false := by
  have entered : ∀ {c₀ : Connection}, c'.pc = c.pc ∨ Enters c₀ c'.pc → c.pc = .accepting recipient destination frame := by
    rintro c₀ (same | enters)
    · exact same ▸ holds
    · have still := enters.still
      rw [holds] at still
      cases still
  cases next with
  | enters client on => exact .inl (entered on)
  | bootstraps port here clientId client on => exact .inl (entered on)
  | challenges here client pending on =>
    rw [on] at holds
    cases holds
  | proves pending here client on =>
    rw [on] at holds
    cases holds
  | proved pending here client message proof on =>
    rw [on] at holds
    cases holds
  | returns clientId here client on =>
    rcases on with ⟨request, -⟩ | ⟨ready, -⟩ | on
    · rw [request] at holds
      cases holds
    · rw [ready] at holds
      cases holds
    · exact .inl (entered on)
  | holds recipient' destination' frame' here read valid client on =>
    rw [on] at holds
    cases holds
    exact .inr (application_quiet (Forwarding.forwardable_application valid).2)
  | passes here client recipient' destination' on =>
    rw [on] at holds
    cases holds

/-! ### A resumed handler -/

theorem dict_entry {entries : List (String × ConnId)} (same : m.runtime.controlSessions.entries = entries)
    (found : m.runtime.controlSessions.get? id = some d) : (id, d) ∈ entries :=
  same ▸ (Dict.get?_eq_some_iff ..).mp found

/-- A subscriber that had the catalog still has it, or the stretch was not silent. -/
theorem silent_informed (told : Told env m) (secure : Secure env m) (here : m.connections.get? conn = some c)
    (same : Silent conn c.pc m m') (fresh : Fresh m'.runtime m'.now) (enlists : Enlists m.runtime.state m'.runtime.state)
    (found : m.runtime.controlSessions.get? id = some d) (informed : Informed env m id d) : Informed env m' id d := by
  obtain ⟨member, c', there, control⟩ := told.subscribers id d found
  obtain ⟨items, listed, last⟩ := informed
  obtain ⟨new, log, quiet⟩ := same.log
  refine ⟨items, ?_, ?_⟩
  · rw [catalogItems_same told.fresh fresh same.live same.wisps enlists (authenticated_known secure member), listed]
  · rw [log, lastCatalog_append, last]
    intro frame written
    by_contra brought
    -- Only a relay connection is written a frame that may bring a catalog.
    obtain ⟨rfl, alive⟩ := quiet d frame written (by simpa using brought)
    obtain rfl := Option.some.inj (here.symm.trans there)
    rw [told.placed.ports d c .relay here alive] at control
    cases control

/-- The promise of another handler is kept. -/
theorem promise_kept {h : ConnId} {c' : Connection} (sessions : m'.runtime.sessions = m.runtime.sessions)
    (promise : Promises m h c' id d) : Promises m' h c' id d := by
  unfold Promises Pledged
  rw [sessions]
  exact promise

theorem resume_informed (told : Told env m) (secure : Secure env m) (here : m.connections.get? conn = some c)
    (others : ∀ h, h ≠ conn → m'.connections.get? h = m.connections.get? h) (effect : Effect env m conn c m')
    (fresh : Fresh m'.runtime m'.now) (enlists : Enlists m.runtime.state m'.runtime.state)
    (found : m'.runtime.controlSessions.get? id = some d) :
    Informed env m' id d ∨ ∃ h c', m'.connections.get? h = some c' ∧ Promises m' h c' id d := by
  cases effect with
  | silent same idle =>
    have found := same.control id d found
    rcases told.informed id d found with informed | ⟨h, c', there, promise⟩
    · exact .inl (silent_informed told secure here same fresh enlists found informed)
    · have other : h ≠ conn := by
        rintro rfl
        obtain rfl := Option.some.inj (here.symm.trans there)
        exact idle id d promise
      exact .inr ⟨h, c', (others h other).trans there, promise_kept same.sessions promise⟩
  | covers now wisps covered =>
    rcases covered with ⟨nobody, -⟩ | ⟨first, d', rest, entries, informed, c', stale, after, there, turn⟩
    · cases dict_entry nobody found
    · rcases List.mem_cons.mp (dict_entry entries found) with head | later
      · obtain ⟨rfl, rfl⟩ := Prod.mk.inj head
        exact .inl informed
      · exact .inr ⟨conn, c', there, .inr ⟨first, rest, stale, after, turn, later⟩⟩
  | promises now clear control pledge =>
    obtain ⟨c', there, pledge⟩ := pledge
    exact .inr ⟨conn, c', there, .inl pledge⟩
  | turns current first d' rest stale after start now runtime log turned =>
    obtain ⟨first', d'', rest', entries, informed, c', stale', after', there, turn⟩ := turned
    obtain ⟨⟨rfl, rfl⟩, rfl⟩ : (first = first' ∧ d' = d'') ∧ rest = rest' := by simpa using entries
    rw [runtime] at found
    by_cases head : (id, d) = (first, d')
    · obtain ⟨rfl, rfl⟩ := Prod.mk.inj head
      exact .inl informed
    rcases told.informed id d found with had | ⟨h, c₁, here₁, promise⟩
    · have apart : d' ≠ d := by
        rintro rfl
        -- One connection has one client.
        have listed := told.listed conn c current _ stale after here start (first, d') List.mem_cons_self
        obtain ⟨c₁, here₁, client, -⟩ := told.placed.named d' first listed
        obtain ⟨c₂, here₂, client', -⟩ := told.placed.named d' id (told.subscribers id d' found).1
        obtain rfl := Option.some.inj (here₁.symm.trans here₂)
        exact head (by rw [Option.some.inj (client'.symm.trans client)])
      obtain ⟨items, listed, last⟩ := had
      obtain ⟨frame, log⟩ := log
      exact .inl ⟨items, by rw [runtime, now, listed], by rw [log, lastCatalog_other apart, last]⟩
    · by_cases own : h = conn
      · subst own
        obtain rfl := Option.some.inj (here.symm.trans here₁)
        have later : (id, d) ∈ rest := by
          rcases promise with (registered | ⟨greets, -⟩) | ⟨_, _, _, _, start', member⟩
          · rw [start] at registered
            cases registered
          · rw [start] at greets
            cases greets
          · rw [start] at start'
            cases start'
            exact (List.mem_cons.mp member).resolve_left head
        exact .inr ⟨h, c', there, .inr ⟨first, rest, stale', after', turn, later⟩⟩
      · exact .inr ⟨h, c₁, (others h own).trans here₁, promise_kept (by rw [runtime]) promise⟩

theorem resume_listed (told : Told env m) (here : m.connections.get? conn = some c)
    (others : ∀ h, h ≠ conn → m'.connections.get? h = m.connections.get? h) (effect : Effect env m conn c m')
    (grown : m.log <:+ m'.log)
    (subscribers : ∀ id d, m'.runtime.controlSessions.get? id = some d → .authenticated d id ∈ m'.log)
    {h : ConnId} {c' : Connection} {current : String} {rest : List (String × ConnId)}
    {stale : List String} {after : After}
    (there : m'.connections.get? h = some c') (turn : c'.pc = .broadcasting current rest stale after)
    {entry : String × ConnId} (member : entry ∈ rest) : .authenticated entry.2 entry.1 ∈ m'.log := by
  by_cases own : h = conn
  · subst own
    have kept : c'.pc = c.pc → .authenticated entry.2 entry.1 ∈ m'.log := fun same =>
      grown.subset (told.listed h c current rest stale after here (same ▸ turn) entry member)
    have stayed : Stays h m m' → .authenticated entry.2 entry.1 ∈ m'.log := by
      intro stays
      rcases stays c' there with quiet | ⟨c₀, here₀, same⟩
      · rw [turn] at quiet
        cases quiet
      · obtain rfl := Option.some.inj (here.symm.trans here₀)
        exact kept same
    cases effect with
    | silent same idle => exact stayed same.stays
    | covers now wisps covered =>
      rcases covered with ⟨-, stays⟩ | ⟨first, d', rest', entries, -, c₁, stale', after', here₁, turn'⟩
      · exact stayed stays
      · obtain rfl := Option.some.inj (there.symm.trans here₁)
        rw [turn] at turn'
        cases turn'
        exact subscribers entry.1 entry.2 ((Dict.get?_eq_some_iff ..).mpr (entries ▸ List.mem_cons_of_mem _ member))
    | promises now clear control pledge =>
      obtain ⟨c₁, here₁, pledge⟩ := pledge
      obtain rfl := Option.some.inj (there.symm.trans here₁)
      rcases pledge with registered | ⟨greets, -⟩
      · rw [turn] at registered
        cases registered
      · rw [turn] at greets
        cases greets
    | turns current' first d' rest' stale' after' start now runtime log turned =>
      obtain ⟨_, _, rest'', entries, -, c₁, stale'', after'', here₁, turn'⟩ := turned
      obtain rfl := Option.some.inj (there.symm.trans here₁)
      rw [turn] at turn'
      cases turn'
      obtain ⟨-, rfl⟩ := List.cons.inj entries
      exact grown.subset (told.listed h c _ _ _ _ here start entry (List.mem_cons_of_mem _ member))
  · rw [others h own] at there
    exact grown.subset (told.listed h c' current rest stale after there turn entry member)

/-! ### One step -/

theorem port_kept {port : Port} (stepped : m.step env e = some m')
    (before : ∃ c, m.connections.get? d = some c ∧ c.port = port) :
    ∃ c, m'.connections.get? d = some c ∧ c.port = port := by
  obtain ⟨c, here, same⟩ := before
  rcases step_cases stepped with ⟨conn, c₁, outcome, draw, m₀, c₀, line, rfl, here₁, reads, -, move⟩ |
    ⟨-, -, -, connections, present⟩
  · obtain ⟨here₀, -, -, -, -, others₀, buffer, rfl⟩ := reads_here here₁ reads
    obtain ⟨others, c', own, port', -⟩ := move_own here₀ move
    by_cases mine : d = conn
    · subst mine
      obtain rfl := Option.some.inj (here.symm.trans here₁)
      exact ⟨c', own, port'.trans same⟩
    · exact ⟨c, (others d mine).trans ((others₀ d mine).trans here), same⟩
  · obtain ⟨c', there⟩ := Option.isSome_iff_exists.mp (present d (by simp [here]))
    rcases connections d c' there with ⟨b, known, port', -⟩ | ⟨absent, -⟩
    · obtain rfl := Option.some.inj (here.symm.trans known)
      exact ⟨c', there, port'.trans same⟩
    · rw [here] at absent
      cases absent

theorem carried_kept (told : Told env m) (stepped : m.step env e = some m') {h : ConnId} {c' : Connection}
    {recipient : String} {destination : ConnId} {frame : Json} (there : m'.connections.get? h = some c')
    (holds : c'.pc = .accepting recipient destination frame) : brings frame = false := by
  rcases step_cases stepped with ⟨conn, c₁, outcome, draw, m₀, c₀, line, rfl, here₁, reads, -, move⟩ |
    ⟨-, -, -, connections, -⟩
  · obtain ⟨here₀, -, -, -, -, others₀, buffer, rfl⟩ := reads_here here₁ reads
    obtain ⟨others, c₂, own, -, -, next⟩ := move_own here₀ move
    by_cases mine : h = conn
    · subst mine
      obtain rfl := Option.some.inj (there.symm.trans own)
      rcases next_carried next holds with before | quiet
      · exact told.carried h c₁ recipient destination frame here₁ before
      · exact quiet
    · exact told.carried h c' recipient destination frame
        ((others₀ h mine).symm.trans ((others h mine).symm.trans there)) holds
  · rcases connections h c' there with ⟨b, known, -, -, pc, -⟩ | ⟨-, port, rfl⟩
    · exact told.carried h b recipient destination frame known (pc ▸ holds)
    · cases holds

/-- An event that resumes no handler changes nothing that subscribers see. -/
theorem Told.other (told : Told env m) (secure : Secure env m) (stepped : m.step env e = some m')
    (other : ∀ conn outcome draw, e ≠ .resume conn outcome draw) (fresh : Fresh m'.runtime m'.now) : Told env m' := by
  rcases step_cases stepped with ⟨conn, c, outcome, draw, _, _, _, resumes, -⟩ | ⟨runtime, -, log, connections, present⟩
  · exact absurd resumes (other conn outcome draw)
  have enlists : Enlists m.runtime.state m'.runtime.state := fun _ => .inl (by rw [runtime])
  have stands : ∀ {h : ConnId} {c : Connection}, m.connections.get? h = some c →
      ∃ c', m'.connections.get? h = some c' ∧ c'.pc = c.pc ∧ c'.clientId = c.clientId := by
    intro h c here
    obtain ⟨c', there⟩ := Option.isSome_iff_exists.mp (present h (by simp [here]))
    rcases connections h c' there with ⟨b, known, -, client, pc, -⟩ | ⟨absent, -⟩
    · obtain rfl := Option.some.inj (here.symm.trans known)
      exact ⟨c', there, pc, client⟩
    · rw [here] at absent
      cases absent
  exact
    { placed := told.placed.step secure stepped
      fresh := fresh
      listable := by
        unfold Listable
        rw [runtime]
        exact told.listable
      carried := fun h c' recipient destination frame there holds => carried_kept told stepped there holds
      subscribers := by
        rw [runtime, log]
        exact fun id d found => ⟨(told.subscribers id d found).1, port_kept stepped (told.subscribers id d found).2⟩
      listed := by
        intro h c' current rest stale after there turn
        rw [log]
        rcases connections h c' there with ⟨b, known, -, -, pc, -⟩ | ⟨-, port, rfl⟩
        · exact told.listed h b current rest stale after known (pc ▸ turn)
        · cases turn
      informed := by
        intro id d found
        rw [runtime] at found
        rcases told.informed id d found with ⟨items, listed, last⟩ | ⟨h, c, here, promise⟩
        · refine .inl ⟨items, ?_, by rw [log, last]⟩
          rw [catalogItems_same told.fresh fresh (fun _ => by rw [runtime]) (by rw [runtime]) enlists
            (authenticated_known secure (told.subscribers id d found).1), listed]
        · obtain ⟨c', there, pc, client⟩ := stands here
          refine .inr ⟨h, c', there, ?_⟩
          unfold Promises Pledged at promise ⊢
          rw [pc, client, runtime]
          exact promise }

theorem Told.resume (told : Told env m) (secure : Secure env m) (heralded : Heralded env m (.resume conn outcome draw))
    (stepped : m.step env (.resume conn outcome draw) = some m') : Told env m' := by
  have enlists := step_enlists secure heralded stepped
  have grown := step_log stepped
  have resumed := stepped
  simp only [Machine.step] at resumed
  split at resumed
  · cases resumed
  rename_i c here
  obtain ⟨-, heard, harmless, answered⟩ := heralded
  have effect : Effect env m conn c m' := by
    refine resume_effect told.listable here (fun live => ?_) (fun port => told.placed.ports conn c port here)
      (fun recipient destination frame => told.carried conn c recipient destination frame here) ?_ ?_ ?_ resumed
    · obtain ⟨id, client, -⟩ := (secure.owners conn c here).1 live
      exact ⟨id, client⟩
    · rintro value rest rfl buffer
      exact harmless (c, value) (by simp only [taking, here, buffer]; rfl)
    · rintro rfl start more
      exact heard _ (by simp [Presence.hearing, here, start, more])
    · rintro rfl start
      simp [forsaking, here, start] at answered
  obtain ⟨liveness, control⟩ := resume_tables here resumed
  have now := effect_now effect
  have fresh : Fresh m'.runtime m'.now := by
    intro id time found
    rw [now]
    rcases liveness id time found with old | rfl
    · exact told.fresh id time old
    · rw [Nat.sub_self]
      exact Nat.zero_le _
  have others : ∀ h, h ≠ conn → m'.connections.get? h = m.connections.get? h := fun h apart =>
    ((Forwarding.resume_frames here resumed).1 h apart).1
  have subscribers : ∀ id d, m'.runtime.controlSessions.get? id = some d →
      .authenticated d id ∈ m'.log ∧ ∃ c, m'.connections.get? d = some c ∧ c.port = .control := by
    intro id d found
    rcases control id d found with old | ⟨start, rfl, rfl⟩
    · obtain ⟨member, port⟩ := told.subscribers id d old
      exact ⟨grown.subset member, port_kept stepped port⟩
    · obtain ⟨own, client, member⟩ := (secure.owners d c here).1 (by rw [start]; rfl)
      rw [client, Option.getD_some]
      exact ⟨grown.subset member, port_kept stepped ⟨c, here, told.placed.ports d c .control here (by rw [start]; rfl)⟩⟩
  exact
    { placed := told.placed.step secure stepped
      fresh := fresh
      listable := effect_listable told.listable effect
      carried := fun h c' recipient destination frame there holds => carried_kept told stepped there holds
      subscribers := subscribers
      listed := fun h c' current rest stale after there turn entry member =>
        resume_listed told here others effect grown (fun id d found => (subscribers id d found).1) there turn member
      informed := fun id d found => resume_informed told secure here others effect fresh enlists found }

theorem Told.step (told : Told env m) (secure : Secure env m) (heralded : Heralded env m e)
    (stepped : m.step env e = some m') : Told env m' := by
  cases e with
  | connect conn port =>
    refine told.other secure stepped (by simp) ?_
    simp only [Machine.step] at stepped
    split_ifs at stepped
    cases stepped
    exact told.fresh
  | receive conn line =>
    refine told.other secure stepped (by simp) ?_
    simp only [Machine.step] at stepped
    split at stepped
    · cases stepped
    split_ifs at stepped
    cases stepped
    exact told.fresh
  | hangup conn =>
    refine told.other secure stepped (by simp) ?_
    simp only [Machine.step] at stepped
    split at stepped
    · cases stepped
    cases stepped
    exact told.fresh
  | tick seconds =>
    refine told.other secure stepped (by simp) ?_
    cases stepped
    exact fun id time found => heralded.1 (id, time) ((Dict.get?_eq_some_iff ..).mp found)
  | resume conn outcome draw => exact told.resume secure heralded stepped

end Steps

theorem started_told {env : Env} {m : Machine} (started : m.Started env) : Told env m := by
  obtain ⟨⟨sessions, liveness, control, challenges, connections, log⟩, -⟩ := started
  exact
    { placed := ⟨by simp [connections], by simp [log]⟩
      fresh := by simp [Fresh, liveness]
      listable := .inr (by rw [control]; rfl)
      carried := by simp [connections]
      subscribers := by simp [control]
      listed := by simp [connections]
      informed := by simp [control] }

/-- In every run whose steps are all heralded, whenever no handler is in the middle of a step, the last
catalog written to every subscriber is the one of the current state. -/
theorem subscription (env : Env) {m : Machine} (reach : Reach (Machine.step env) (Heralded env) (Machine.Started env) m)
    (resting : Resting m) (id : String) (conn : ConnId) (subscribed : m.runtime.controlSessions.get? id = some conn) :
    Informed env m id conn := by
  have told : Told env m := reach.invariant (Told env) (fun _ started => started_told started)
    fun _ _ _ before told heralded stepped => told.step (reach_secure before) heralded stepped
  refine (told.informed id conn subscribed).resolve_right ?_
  rintro ⟨h, c, here, (registered | ⟨greets, -⟩) | ⟨current, rest, stale, after, turn, -⟩⟩
  · rcases resting h c here with reads | ended | ended <;> simp_all [readsLine]
  · rcases resting h c here with reads | ended | ended
    · cases start : c.pc <;> simp_all [readsLine, greeting]
    · simp_all [greeting]
    · simp_all [greeting]
  · rcases resting h c here with reads | ended | ended <;> simp_all [readsLine]

/-! ## Runs -/

/-- `alice` subscribes, and `bob` connects to the relay port. -/
def connectedRun : List Event :=
  Removal.subscribing 0 "alice" "alice-key" ++ .resume 0 .sent ⟨"", ""⟩ :: handshakeOf 2 .relay "bob" "bob-key" ++
    [.resume 2 .sent ⟨"", ""⟩, .resume 2 .sent ⟨"", ""⟩, .resume 2 .sent ⟨"", ""⟩]

def connectedMachine : Machine :=
  (replay (guarded (Machine.step sampleEnv) (Heralded sampleEnv)) startedMachine connectedRun).getD {}

theorem resting_of_entries {m : Machine} (rests : ∀ entry ∈ m.connections.entries,
    readsLine entry.2.pc = true ∨ entry.2.pc = .closing ∨ entry.2.pc = .done) : Resting m :=
  fun conn c here => rests (conn, c) ((Dict.get?_eq_some_iff ..).mp here)

theorem subscription_connected : connectedMachine.runtime.controlSessions.get? "alice" = some 0 ∧
    Informed sampleEnv connectedMachine "alice" 0 := by
  have reach : Reach (Machine.step sampleEnv) (Heralded sampleEnv) (Machine.Started sampleEnv) connectedMachine :=
    Reach.of_guarded_defined startedMachine_started (by decide +kernel)
  have resting : Resting connectedMachine := resting_of_entries (by decide +kernel)
  have subscribed : connectedMachine.runtime.controlSessions.get? "alice" = some 0 := by decide +kernel
  exact ⟨subscribed, subscription sampleEnv reach resting "alice" 0 subscribed⟩

/-- `alice` then registers a Wisp of `bob`. -/
def managedRun : List Event := connectedRun ++
  [.receive 0 (some (.obj [("type", .str "management_request"), ("request",
      .obj [("action", .str "register_wisp"), ("id", .str "notes"), ("owner", .str "bob")])])),
    .resume 0 .read ⟨"asked", "asked"⟩, .resume 0 .sent ⟨"", ""⟩]

def managedMachine : Machine :=
  (replay (guarded (Machine.step sampleEnv) Unexpired) startedMachine managedRun).getD {}

/-- The Wisp is in her catalog, and nobody told her. -/
theorem subscription_managed : ¬ ∀ (env : Env) (m : Machine),
    Reach (Machine.step env) Unexpired (Machine.Started env) m → Resting m →
    ∀ id conn, m.runtime.controlSessions.get? id = some conn → Informed env m id conn := by
  intro claim
  have reach : Reach (Machine.step sampleEnv) Unexpired (Machine.Started sampleEnv) managedMachine :=
    Reach.of_guarded_defined startedMachine_started (by decide +kernel)
  have resting : Resting managedMachine := resting_of_entries (by decide +kernel)
  obtain ⟨items, listed, last⟩ := claim sampleEnv managedMachine reach resting "alice" 0 (by decide +kernel)
  have apart : (managedMachine.runtime.catalogItems sampleEnv managedMachine.now (some "alice")).toOption.map Json.arr ≠
      lastCatalog managedMachine.log 0 := by
    decide +kernel
  rw [listed, last] at apart
  exact apart rfl

end WispGate.Soundness.Subscription
