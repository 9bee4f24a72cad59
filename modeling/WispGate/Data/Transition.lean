import Mathlib.Logic.Basic
import Mathlib.Data.List.Basic

/-! # Runs of labelled machines

A machine is a partial step function on labelled events: what the environment chooses is in the
label, so a run is determined by its start and its labels. `Reach` is the set of states that runs
whose steps all meet a side condition can reach; the trivial condition gives every reachable
state. `Reach.invariant` is the one induction over runs the safety results use.
-/

namespace WispGate.Data

variable {σ ε : Type*}

/-- The states reached from an initial state by steps that all meet a side condition. -/
inductive Reach (step : σ → ε → Option σ) (meets : σ → ε → Prop) (init : σ → Prop) : σ → Prop
  | start {s : σ} : init s → Reach step meets init s
  | next {s t : σ} {e : ε} : Reach step meets init s → meets s e → step s e = some t →
      Reach step meets init t

/-- The side condition of an unconstrained run. -/
def anyStep (_ : σ) (_ : ε) : Prop := True

/-- The end of the run with the given labels, if every step is defined. -/
def replay (step : σ → ε → Option σ) (s : σ) (events : List ε) : Option σ := events.foldlM step s

/-- A step function cut down to the steps that meet a decidable side condition. -/
def guarded (step : σ → ε → Option σ) (meets : σ → ε → Prop) [∀ s e, Decidable (meets s e)]
    (s : σ) (e : ε) : Option σ := if meets s e then step s e else none

variable {step : σ → ε → Option σ} {meets : σ → ε → Prop} {init : σ → Prop}

/-- A predicate that holds at the start and is preserved by every admitted step holds throughout.
The step may use that its source is itself reachable. -/
theorem Reach.invariant (inv : σ → Prop) (base : ∀ s, init s → inv s)
    (preserved : ∀ s e t, Reach step meets init s → inv s → meets s e → step s e = some t → inv t)
    {s : σ} (reach : Reach step meets init s) : inv s := by
  induction reach with
  | start started => exact base _ started
  | next before met stepped ih => exact preserved _ _ _ before ih met stepped

/-- Fewer conditions on the steps reach at least as much. -/
theorem Reach.weaken {other : σ → ε → Prop} (weaker : ∀ s e, meets s e → other s e) {s : σ}
    (reach : Reach step meets init s) : Reach step other init s := by
  induction reach with
  | start started => exact .start started
  | next _ met stepped ih => exact .next ih (weaker _ _ met) stepped

theorem Reach.any {s : σ} (reach : Reach step meets init s) : Reach step anyStep init s :=
  reach.weaken fun _ _ _ => trivial

theorem replay_cons (s : σ) (e : ε) (events : List ε) :
    replay step s (e :: events) = (step s e).bind fun t => replay step t events := rfl

/-- The runs from a state, with the source and the label of every step, newest first. -/
inductive Trail (step : σ → ε → Option σ) (s : σ) : List (σ × ε) → σ → Prop
  | nil : Trail step s [] s
  | next {t u : σ} {e : ε} {taken : List (σ × ε)} : Trail step s taken t → step t e = some u →
      Trail step s ((t, e) :: taken) u

/-- A run from a reachable state whose steps all meet a side condition ends in a reachable state. -/
theorem Trail.reach {s t : σ} {taken : List (σ × ε)} (trail : Trail step s taken t) (before : Reach step meets init s)
    (met : ∀ at_step ∈ taken, meets at_step.1 at_step.2) : Reach step meets init t := by
  induction trail with
  | nil => exact before
  | next _ stepped ih =>
    rw [List.forall_mem_cons] at met
    exact .next (ih met.2) met.1 stepped

theorem Trail.stepped {s t : σ} {taken : List (σ × ε)} (trail : Trail step s taken t) {at_step : σ × ε}
    (mem : at_step ∈ taken) : ∃ u, step at_step.1 at_step.2 = some u := by
  induction trail with
  | nil => cases mem
  | next _ stepped ih =>
    rcases List.mem_cons.mp mem with rfl | mem
    · exact ⟨_, stepped⟩
    · exact ih mem

theorem Trail.append {s t u : σ} {first second : List (σ × ε)} (before : Trail step s first t)
    (after : Trail step t second u) : Trail step s (second ++ first) u := by
  induction after with
  | nil => exact before
  | next _ stepped ih => exact .next ih stepped

/-- A replay is a run. -/
theorem Trail.of_replay {s t : σ} {events : List ε} (ran : replay step s events = some t) :
    ∃ taken, Trail step s taken t := by
  induction events generalizing s with
  | nil =>
    cases ran
    exact ⟨[], .nil⟩
  | cons e rest ih =>
    rw [replay_cons] at ran
    obtain ⟨middle, stepped, ran⟩ := Option.bind_eq_some_iff.mp ran
    obtain ⟨taken, run⟩ := ih ran
    exact ⟨_, Trail.append (.next .nil stepped) run⟩

/-- Extending a reachable state by a replay stays reachable. -/
theorem Reach.extend {s t : σ} (reach : Reach step anyStep init s) {events : List ε}
    (ran : replay step s events = some t) : Reach step anyStep init t := by
  induction events generalizing s with
  | nil =>
    cases ran
    exact reach
  | cons e rest ih =>
    rw [replay_cons] at ran
    obtain ⟨middle, stepped, ran⟩ := Option.bind_eq_some_iff.mp ran
    exact ih (.next reach trivial stepped) ran

/-- A replay from an initial state witnesses reachability. -/
theorem Reach.of_replay {s t : σ} (started : init s) (events : List ε)
    (ran : replay step s events = some t) : Reach step anyStep init t :=
  Reach.extend (.start started) ran

/-- The end of a replay that is defined throughout is reachable. -/
theorem Reach.of_defined {s : σ} (started : init s) {events : List ε} {default : σ}
    (ran : (replay step s events).isSome = true) :
    Reach step anyStep init ((replay step s events).getD default) := by
  obtain ⟨t, ends⟩ := Option.isSome_iff_exists.mp ran
  rw [ends]
  exact Reach.of_replay started events ends

/-- A replay of the guarded step witnesses reachability under the side condition. -/
theorem Reach.of_guarded [∀ s e, Decidable (meets s e)] {s t : σ} (started : init s)
    {events : List ε} (ran : replay (guarded step meets) s events = some t) :
    Reach step meets init t := by
  have reach : Reach step meets init s := .start started
  clear started
  induction events generalizing s with
  | nil =>
    cases ran
    exact reach
  | cons e rest ih =>
    rw [replay_cons] at ran
    obtain ⟨middle, stepped, ran⟩ := Option.bind_eq_some_iff.mp ran
    unfold guarded at stepped
    split_ifs at stepped with met
    exact ih ran (.next reach met stepped)

theorem Reach.of_guarded_defined [∀ s e, Decidable (meets s e)] {s : σ} (started : init s)
    {events : List ε} {default : σ} (ran : (replay (guarded step meets) s events).isSome = true) :
    Reach step meets init ((replay (guarded step meets) s events).getD default) := by
  obtain ⟨t, ends⟩ := Option.isSome_iff_exists.mp ran
  rw [ends]
  exact Reach.of_guarded started ends

end WispGate.Data
