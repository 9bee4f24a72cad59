import WispGate.Model.Wisp.Runtime
import WispGate.Soundness.FileActions

/-! # What the dispatcher chooses

The branches of `_dispatch_session_body`, each said once with the tables it leaves and the facts
about the body that lead into it.
-/

namespace WispGate.Soundness.Dispatching

open Data Model Model.Wisp

/-- A mutating action that runs its callback: its id is well-formed, and neither retained nor active. -/
def Fresh (t : Tables) (sender : String) (body : Json) : Prop :=
  ∃ operationId, body.get "operation_id" = .str operationId ∧ operationId ≠ "" ∧ operationId.length ≤ 128 ∧
    t.completed.get? (sender, operationId) = none ∧ (sender, operationId) ∉ t.active

/-- The actions with a branch of their own. -/
def reserved : List Json := [.str "operation_resume", .str "state_request", .str "file_begin"]

/-- The tables with the transfer of a file action. -/
def withTransfer (t : Tables) (sender wisp transferId : String) (body : Json) (files : Dict String IncomingFile)
    (now : ℕ) : Tables :=
  { t with
    transfers := t.transfers.insert (sender, transferId)
      ⟨sender, wisp, body.getD "action_data" (.obj []), files, now, none⟩ }

/-- The branches of the dispatcher, on tables that nothing expired is left in. -/
inductive Chosen (printable : Char → Bool) (wisps : List String) (t : Tables) (sender : String) (body : Json) (now : ℕ) :
    Tables → Choice → Prop
  | unhashable (broken : (body.get "wisp_id").hashKey? = none) :
      Chosen printable wisps t sender body now t .unhashable
  | unknown (hashable : (body.get "wisp_id").hashKey? ≠ none) (nobody : ∀ wisp ∈ wisps, body.get "wisp_id" ≠ .str wisp) :
      Chosen printable wisps t sender body now t .ignored
  | resumes (wisp : String) (known : wisp ∈ wisps) (named : body.get "wisp_id" = .str wisp)
      (kind : body.get "action" = .str "operation_resume") (reply : Json)
      (read : resume printable t sender wisp body = .answer reply) :
      Chosen printable wisps t sender body now t (.answer reply)
  | state (wisp : String) (known : wisp ∈ wisps) (named : body.get "wisp_id" = .str wisp)
      (kind : body.get "action" = .str "state_request") : Chosen printable wisps t sender body now t (.state wisp)
  | repeats (wisp : String) (known : wisp ∈ wisps) (named : body.get "wisp_id" = .str wisp)
      (kind : body.get "action" = .str "file_begin") (reply : Json) :
      Chosen printable wisps t sender body now t (.answer reply)
  | begins (wisp : String) (known : wisp ∈ wisps) (named : body.get "wisp_id" = .str wisp)
      (kind : body.get "action" = .str "file_begin") (files : Dict String IncomingFile) (reply : Json)
      (uncompleted : t.completed.get? (sender, transferIdOf printable body) = none)
      (absent : t.transfers.get? (sender, transferIdOf printable body) = none)
      (named_id : transferIdOf printable body ≠ "") :
      Chosen printable wisps t sender body now
        (withTransfer t sender wisp (transferIdOf printable body) body files now)
        (.fileBegin (transferIdOf printable body) reply)
  | refuses (wisp : String) (known : wisp ∈ wisps) (named : body.get "wisp_id" = .str wisp)
      (kind : body.get "action" = .str "file_begin") (reply : Json)
      (absent : t.transfers.get? (sender, transferIdOf printable body) = none) :
      Chosen printable wisps t sender body now t (.fileBegin (transferIdOf printable body) reply)
  | answers (wisp : String) (known : wisp ∈ wisps) (named : body.get "wisp_id" = .str wisp)
      (kind : body.get "action" ∉ reserved) (reply : Json) (stale : ¬ Fresh t sender body) :
      Chosen printable wisps t sender body now t (.answer reply)
  | acts (wisp operationId : String) (known : wisp ∈ wisps) (named : body.get "wisp_id" = .str wisp)
      (kind : body.get "action" ∉ reserved) (read : body.get "operation_id" = .str operationId)
      (nonempty : operationId ≠ "") (short : operationId.length ≤ 128)
      (uncompleted : t.completed.get? (sender, operationId) = none) (inactive : (sender, operationId) ∉ t.active) :
      Chosen printable wisps t sender body now { t with active := (sender, operationId) :: t.active }
        (.action wisp operationId (body.getD "action_data" (.obj [])))

section Branches

variable {printable : Char → Bool} {wisps : List String} {t : Tables} {sender wisp : String} {body : Json} {now : ℕ}

theorem hashKey?_str {value : Json} (hashed : value.hashKey? = some (.str wisp)) : value = .str wisp := by
  cases value with
  | str text => exact Option.some.inj hashed
  | _ => simp [Json.hashKey?] at hashed

variable (printable sender wisp body) in
/-- `operation_resume` is always answered. -/
theorem resume_answer (t : Tables) : ∃ reply, resume printable t sender wisp body = .answer reply := by
  unfold resume
  dsimp only
  split
  · exact ⟨_, rfl⟩
  · split_ifs
    · exact ⟨_, rfl⟩
    · exact ⟨_, rfl⟩

/-- A file action that begins is new, and leaves its transfer in the table. -/
theorem beginFileAction_ok {t' : Tables} {response : Json}
    (begun : beginFileAction printable t sender wisp body now = .ok (t', response)) :
    transferIdOf printable body ≠ "" ∧
      ∃ files, t' = withTransfer t sender wisp (transferIdOf printable body) body files now := by
  obtain ⟨manifests, files, begins, same, -⟩ := FileActions.beginFileAction_ok_iff.mp begun
  exact ⟨begins.named, files, same⟩

theorem fileBegin_chosen (known : wisp ∈ wisps) (named : body.get "wisp_id" = .str wisp)
    (kind : body.get "action" = .str "file_begin") :
    Chosen printable wisps t sender body now (fileBegin printable t sender wisp body now).1
      (fileBegin printable t sender wisp body now).2 := by
  unfold fileBegin
  dsimp only
  split
  · exact .repeats wisp known named kind _
  · rename_i uncompleted
    split
    · exact .repeats wisp known named kind _
    · rename_i absent
      rw [Bool.not_eq_true, Dict.contains_eq_false_iff] at absent
      split
      · rename_i begun
        obtain ⟨named_id, files, rfl⟩ := beginFileAction_ok begun
        exact .begins wisp known named kind files _ uncompleted absent named_id
      · exact .refuses wisp known named kind _ absent

theorem inlineAction_chosen (known : wisp ∈ wisps) (named : body.get "wisp_id" = .str wisp)
    (kind : body.get "action" ∉ reserved) :
    Chosen printable wisps t sender body now (inlineAction t sender wisp body).1 (inlineAction t sender wisp body).2 := by
  unfold inlineAction
  split
  · rename_i unnamed
    refine .answers wisp known named kind _ ?_
    rintro ⟨operationId, read, -⟩
    rw [read] at unnamed
    cases unnamed
  · rename_i operationId read
    rw [Json.asStr?_eq_some_iff] at read
    have only : ∀ {other : String}, body.get "operation_id" = .str other → other = operationId := fun same =>
      Json.str.inj (same.symm.trans read)
    split
    · rename_i malformed
      refine .answers wisp known named kind _ ?_
      rintro ⟨other, same, nonempty, short, -⟩
      obtain rfl := only same
      rcases malformed with empty | long
      · exact nonempty empty
      · omega
    · rename_i wellFormed
      rw [not_or, not_lt] at wellFormed
      split
      · rename_i found
        refine .answers wisp known named kind _ ?_
        rintro ⟨other, same, -, -, absent, -⟩
        obtain rfl := only same
        rw [found] at absent
        cases absent
      · rename_i absent
        split
        · rename_i active
          refine .answers wisp known named kind _ ?_
          rintro ⟨other, same, -, -, -, inactive⟩
          obtain rfl := only same
          exact inactive active
        · rename_i inactive
          exact .acts wisp operationId known named kind read wellFormed.1 wellFormed.2 absent inactive

variable (printable wisps sender body now) in
theorem choose_chosen (t : Tables) : Chosen printable wisps (t.expireCompleted now) sender body now
    (choose printable wisps t sender body now).1 (choose printable wisps t sender body now).2 := by
  unfold choose
  dsimp only
  split
  · rename_i broken
    exact .unhashable broken
  · rename_i wisp hashed
    have named := hashKey?_str hashed
    split_ifs with known resumed state file
    · rw [Json.pyEq_str_iff] at resumed
      obtain ⟨reply, read⟩ := resume_answer printable sender wisp body (t.expireCompleted now)
      rw [read]
      exact .resumes wisp known named resumed reply read
    · rw [Json.pyEq_str_iff] at state
      exact .state wisp known named state
    · rw [Json.pyEq_str_iff] at file
      exact fileBegin_chosen known named file
    · simp only [Json.pyEq_str_iff] at resumed state file
      exact inlineAction_chosen known named (by simp [reserved, resumed, state, file])
    · refine .unknown (by simp [hashed]) ?_
      rintro other registered same
      obtain rfl := Json.str.inj (named.symm.trans same)
      exact known registered
  · rename_i other unnamed hashed
    refine .unknown (by simp [hashed]) ?_
    rintro wisp - named
    rw [named] at hashed
    exact unnamed wisp (Option.some.inj hashed).symm

end Branches

end WispGate.Soundness.Dispatching
