import Mathlib.Order.Defs.Unbundled

/-! # Computations that return or stop

A computation over a state returns a value or stops with an error, and leaves a state either way. `Ends`
is its weakest precondition: a condition on what it returns and one on what it stops with. `Keeps` is the
case of one relation between the states before and after, whatever the end.
-/

namespace WispGate.Data

variable {ε σ α β : Type}

/-- What is returned from a state meets `Q`, and what is stopped with meets `R`. -/
def Ends (c : EStateM ε σ α) (s : σ) (Q : α → σ → Prop) (R : ε → σ → Prop) : Prop :=
  match c s with
  | .ok a t => Q a t
  | .error e t => R e t

/-- The state a result leaves. -/
def endState : EStateM.Result ε σ α → σ
  | .ok _ t => t
  | .error _ t => t

section Ends

variable {s : σ} {Q Q' : α → σ → Prop} {R R' : ε → σ → Prop} {c : EStateM ε σ α}

@[simp] theorem ends_pure (a : α) : Ends (pure a : EStateM ε σ α) s Q R ↔ Q a s := Iff.rfl

@[simp] theorem ends_throw (e : ε) : Ends (throw e : EStateM ε σ α) s Q R ↔ R e s := Iff.rfl

@[simp] theorem ends_get {Q : σ → σ → Prop} : Ends (get : EStateM ε σ σ) s Q R ↔ Q s s := Iff.rfl

@[simp] theorem ends_modify {Q : Unit → σ → Prop} (f : σ → σ) :
    Ends (modify f : EStateM ε σ Unit) s Q R ↔ Q () (f s) := Iff.rfl

theorem ends_bind (f : α → EStateM ε σ β) {Q : β → σ → Prop} :
    Ends (c >>= f) s Q R ↔ Ends c s (fun a t => Ends (f a) t Q R) R := by
  unfold Ends
  rw [show (c >>= f) s = (match c s with
    | .ok a t => f a t
    | .error e t => .error e t) from rfl]
  cases c s <;> rfl

theorem ends_tryCatch (handle : ε → EStateM ε σ α) :
    Ends (tryCatch c handle) s Q R ↔ Ends c s Q fun e t => Ends (handle e) t Q R := by
  unfold Ends
  rw [show (tryCatch c handle) s = (match c s with
    | .ok a t => .ok a t
    | .error e t => handle e t) from by
      change EStateM.tryCatch c handle s = _
      unfold EStateM.tryCatch
      cases c s <;> rfl]
  cases c s <;> rfl

theorem Ends.mono (ends : Ends c s Q R) (returns : ∀ a t, Q a t → Q' a t) (stops : ∀ e t, R e t → R' e t) :
    Ends c s Q' R' := by
  unfold Ends at ends ⊢
  cases ended : c s with
  | ok a t => exact returns a t (by rwa [ended] at ends)
  | error e t => exact stops e t (by rwa [ended] at ends)

end Ends

/-! ## One relation for every end -/

/-- However a computation ends, the state it leaves meets a condition. -/
def Leaves (c : EStateM ε σ α) (s : σ) (P : σ → Prop) : Prop := Ends c s (fun _ t => P t) fun _ t => P t

/-- However it ends, a computation relates its start to its end. -/
def Keeps (R : σ → σ → Prop) (c : EStateM ε σ α) : Prop := ∀ s, Leaves c s (R s)

section Leaves

variable {s : σ} {P P' : σ → Prop} {c : EStateM ε σ α}

theorem Leaves.state (leaves : Leaves c s P) : P (endState (c s)) := by
  unfold Leaves Ends at leaves
  cases ended : c s with
  | ok a t => rwa [ended] at leaves
  | error e t => rwa [ended] at leaves

theorem Leaves.mono (leaves : Leaves c s P) (weaker : ∀ t, P t → P' t) : Leaves c s P' :=
  Ends.mono leaves (fun _ => weaker) fun _ => weaker

/-- Two parts, of which the first may stop. -/
theorem Leaves.bind {f : α → EStateM ε σ β} (first : Leaves c s P) (stops : ∀ t, P t → P' t)
    (second : ∀ a t, P t → Leaves (f a) t P') : Leaves (c >>= f) s P' :=
  (ends_bind f).mpr (Ends.mono first second fun _ => stops)

/-- A handler that only throws leaves what it finds. -/
theorem Leaves.rethrow {handle : ε → EStateM ε σ α} (leaves : Leaves c s P)
    (throws : ∀ e, ∃ e', handle e = throw e') : Leaves (tryCatch c handle) s P := by
  refine (ends_tryCatch handle).mpr (Ends.mono leaves (fun _ _ met => met) fun e t met => ?_)
  obtain ⟨e', thrown⟩ := throws e
  rw [thrown]
  exact met

end Leaves

section Keeps

variable {R S T : σ → σ → Prop} {c : EStateM ε σ α}

theorem Keeps.mono (keeps : Keeps R c) (weaker : ∀ s t, R s t → S s t) : Keeps S c :=
  fun s => (keeps s).mono (weaker s)

theorem Keeps.compose {f : α → EStateM ε σ β} (first : Keeps R c) (second : ∀ a, Keeps S (f a))
    (stops : ∀ s t, R s t → T s t) (whole : ∀ s t u, R s t → S t u → T s u) : Keeps T (c >>= f) :=
  fun s => (first s).bind (stops s) fun a t before => (second a t).mono fun u => whole s t u before

section Refl

variable [Std.Refl R]

theorem Keeps.pure (a : α) : Keeps R (Pure.pure a : EStateM ε σ α) := fun s => Std.Refl.refl s

theorem Keeps.throw (e : ε) : Keeps R (MonadExcept.throw e : EStateM ε σ α) := fun s => Std.Refl.refl s

end Refl

theorem Keeps.bind [IsTrans σ R] {f : α → EStateM ε σ β} (first : Keeps R c) (second : ∀ a, Keeps R (f a)) :
    Keeps R (c >>= f) :=
  first.compose second (fun _ _ before => before) fun s t u => IsTrans.trans s t u

theorem Keeps.rethrow {handle : ε → EStateM ε σ α} (keeps : Keeps R c)
    (throws : ∀ e, ∃ e', handle e = MonadExcept.throw e') : Keeps R (tryCatch c handle) := fun s =>
    (keeps s).rethrow throws

end Keeps

end WispGate.Data
