import WispGate.Model.Relay.Handlers
import Mathlib.Logic.Function.Basic

/-! # Operations on the relay's durable state

The sections that touch the durable state, as labelled operations of one machine: enrolments,
the admission that ends a handshake, registrations, management requests of any endpoint, saves
and reloads, in any order. `Standing` is the part of a client record that authorisation reads, and
`Change` says once what an operation can do to the standings and to the state file.
-/

namespace WispGate.Model.Relay

open Data

/-! ## Standings -/

/-- Key, status and administrator flag of a client. -/
structure Standing where
  publicKey : Option Json
  status : Option String
  admin : Option Bool
deriving DecidableEq

def ClientRecord.standing (record : ClientRecord) : Standing := ⟨record.publicKey, record.status, record.admin⟩

namespace RelayState

def standing (s : RelayState) (clientId : String) : Option Standing :=
  (s.clients.get? clientId).map ClientRecord.standing

def IsAdministrator (s : RelayState) (clientId : String) : Prop :=
  ∃ st, s.standing clientId = some st ∧ st.admin = some true

/-- The file holds the standings that are in memory. -/
def Saved (s : RelayState) : Prop :=
  ∃ data, s.file = some data ∧ ∀ c, (data.clients.get? c).map ClientRecord.standing = s.standing c

/-- The file was not touched, or agrees with memory. -/
def FileKept (s t : RelayState) : Prop := t.file = s.file ∨ t.Saved

theorem standing_eq_some {s : RelayState} {clientId : String} {record : ClientRecord}
    (found : s.clients.get? clientId = some record) : s.standing clientId = some record.standing := by
  simp [standing, found]

theorem standing_eq_none_iff {s : RelayState} {clientId : String} :
    s.standing clientId = none ↔ s.clients.get? clientId = none := by simp [standing]

theorem exists_record {s : RelayState} {clientId : String} {st : Standing}
    (known : s.standing clientId = some st) :
    ∃ record, s.clients.get? clientId = some record ∧ record.standing = st := by
  simpa [standing] using known

/-- Storing a record changes the standing of its client and no other. -/
theorem standing_insert (s : RelayState) (clientId : String) (record : ClientRecord) :
    standing { s with clients := s.clients.insert clientId record } =
      Function.update s.standing clientId (some record.standing) := by
  funext other
  by_cases same : clientId = other
  · subst same
    simp [standing]
  · rw [Function.update_of_ne (Ne.symm same)]
    simp [standing, Dict.get?_insert_of_ne _ _ same]

/-- Storing a record of the same standing changes no standing. -/
theorem standing_insert_same {s : RelayState} {clientId : String} {record old : ClientRecord}
    (found : s.clients.get? clientId = some old) (same : record.standing = old.standing) :
    standing { s with clients := s.clients.insert clientId record } = s.standing := by
  rw [standing_insert, same, Function.update_eq_self_iff]
  exact (standing_eq_some found).symm

theorem standing_modify_same (s : RelayState) (clientId : String) (change : ClientRecord → ClientRecord)
    (same : ∀ record, (change record).standing = record.standing) :
    standing { s with clients := s.clients.modify clientId change } = s.standing := by
  funext other
  simp only [standing, Dict.get?_modify]
  split_ifs
  · cases s.clients.get? other with
    | none => rfl
    | some record => simp [same]
  · rfl

@[simp] theorem save_clients (s : RelayState) : s.save.clients = s.clients := rfl

@[simp] theorem save_standing (s : RelayState) : s.save.standing = s.standing := rfl

@[simp] theorem removeWispsForOwner_clients (s : RelayState) (owner : String) :
    (s.removeWispsForOwner owner).clients = s.clients := rfl

theorem fileKept_refl (s : RelayState) : FileKept s s := .inl rfl

theorem saved_save (s : RelayState) : s.save.Saved := ⟨_, rfl, fun _ => rfl⟩

theorem fileKept_save (s t : RelayState) : FileKept s t.save := .inr (saved_save t)

theorem Saved.keep {s t : RelayState} (saved : s.Saved) (same : t.standing = s.standing)
    (file : FileKept s t) : t.Saved := by
  rcases file with kept | saved
  · obtain ⟨data, written, agrees⟩ := saved
    exact ⟨data, kept.trans written, fun c => (agrees c).trans (congrFun same c).symm⟩
  · exact saved

theorem FileKept.trans {s t u : RelayState} (first : FileKept s t) (second : FileKept t u)
    (same : u.standing = t.standing) : FileKept s u := by
  rcases second with kept | saved
  · rcases first with kept' | saved
    · exact .inl (kept.trans kept')
    · exact .inr (saved.keep same (.inl kept))
  · exact .inr saved

end RelayState

/-! ## The machine of operations -/

inductive Operation where
  | bootstrap (now : ℕ) (request : BootstrapRequest)
  | admission (now : ℕ) (port : Port) (pending : Pending) (record : Challenge) (signature : String)
  | connected (now : ℕ) (clientId : String)
  | drain (clientId : String)
  | register (now : ℕ) (clientId : String) (message : Json)
  | manage (now : ℕ) (clientId : String) (request : Json)
  | save
  | load

namespace Operation

/-- Perform an operation. Registrations come from clients that have a record. -/
def apply (env : Env) (rt : RelayRuntime) : Operation → Option RelayRuntime
  | .bootstrap now request => some (rt.bootstrap env now request).1
  | .admission now port pending record signature => some (rt.admission now port pending record signature).1
  | .connected now clientId =>
    let clients := rt.state.clients.modify clientId fun client => { client with lastSeen := some now }
    some { rt with state := { rt.state with clients := clients } }
  | .drain clientId => some { rt with state := (rt.state.drain clientId).1 }
  | .register now clientId message =>
    if rt.state.clients.contains clientId then some (rt.registerWisps env now clientId message).1 else none
  | .manage now clientId request => some (rt.managementRequest env now clientId request).1
  | .save => some { rt with state := rt.state.save }
  | .load => some { rt with state := rt.state.load }

/-- Operations that may create a record. -/
def enrols : Operation → Prop
  | .bootstrap _ _ => True
  | .admission _ _ pending _ _ => pending.known = false
  | _ => False

/-- The management request an operation serves, with its time and its sender. -/
def served : Operation → Option (ℕ × String × Json)
  | .manage now clientId request => some (now, clientId, request)
  | _ => none

end Operation

/-- A relay that has no client and no state file. -/
def Empty (rt : RelayRuntime) : Prop := rt.state = {}

/-- A relay process started on the durable state that some history of operations left. -/
def Machine.Started (env : Env) (m : Machine) : Prop :=
  m.Initial ∧ ∃ rt, Reach (Operation.apply env) anyStep Empty rt ∧ m.runtime.state = rt.state

/-- The effect of an operation on the standings and the state file. -/
inductive Change (s : RelayState) (op : Operation) (t : RelayState) : Prop
  | keeps (same : t.standing = s.standing) (file : s.FileKept t)
  | enrols (clientId key : String) (fresh : s.standing clientId = none)
      (now : t.standing = Function.update s.standing clientId
        (some ⟨some (.str key), some "pending", some false⟩))
      (saved : t.Saved) (actor : op.enrols)
  | claims (clientId : String) (st : Standing) (known : s.standing clientId = some st)
      (vacant : ∀ other st, s.standing other = some st → ¬ (st.admin = some true ∧ st.status = some "approved"))
      (actor : ∃ now request, op = .manage now clientId request ∧ request.get "action" = .str "claim_admin")
      (now : t.standing = Function.update s.standing clientId
        (some ⟨st.publicKey, some "approved", some true⟩))
      (saved : t.Saved)
  | sets (admin target action : String) (st : Standing) (known : s.standing target = some st)
      (authority : s.IsAdministrator admin) (other : target ≠ admin)
      (actor : ∃ now request, op = .manage now admin request ∧ request.get "action" = .str action ∧
        request.get "client_id" = .str target ∧ (action = "approve" ∨ action = "reject" ∨ action = "revoke"))
      (now : t.standing = Function.update s.standing target
        (some ⟨st.publicKey, some (RelayRuntime.actionStatus action),
          if action = "approve" then st.admin else some false⟩))
      (saved : t.Saved)

end WispGate.Model.Relay
