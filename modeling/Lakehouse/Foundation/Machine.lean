import Mathlib.Data.List.Basic

/-!
# Machines with labelled steps

A machine is a partial step function.  `exec` runs a list of labels, `EveryStep` states a property
of every step which such a run takes, and the invariant rules carry facts about one step to facts
about whole runs.
-/

namespace Foundation

/-- A labelled transition system whose labels resolve every choice. -/
structure Machine (σ ℓ : Type) where
  /-- The state after a step, or `none` where the label is not enabled. -/
  step : σ → ℓ → Option σ

namespace Machine

variable {σ ℓ : Type} (machine : Machine σ ℓ)

/-- Run a list of labels; `none` as soon as one is not enabled. -/
def exec : σ → List ℓ → Option σ
  | state, [] => some state
  | state, label :: labels =>
      match machine.step state label with
      | none => none
      | some next => exec next labels

/-- The property holds of every step which the run takes. -/
def EveryStep (holds : σ → ℓ → Prop) : σ → List ℓ → Prop
  | _, [] => True
  | state, label :: labels =>
      match machine.step state label with
      | none => True
      | some next => holds state label ∧ EveryStep holds next labels

@[simp]
theorem exec_nil (state : σ) : machine.exec state [] = some state := rfl

theorem exec_cons (state : σ) (label : ℓ) (labels : List ℓ) :
    machine.exec state (label :: labels) =
      (machine.step state label).bind fun next => machine.exec next labels := by
  simp only [exec]
  cases machine.step state label <;> rfl

/-- A run of a nonempty list takes its first step and then runs the rest. -/
theorem exec_cons_eq_some {state final : σ} {label : ℓ} {labels : List ℓ}
    (run : machine.exec state (label :: labels) = some final) :
    ∃ next, machine.step state label = some next ∧ machine.exec next labels = some final := by
  rw [exec_cons] at run
  exact Option.bind_eq_some_iff.mp run

@[simp]
theorem everyStep_nil (holds : σ → ℓ → Prop) (state : σ) : machine.EveryStep holds state [] :=
  trivial

theorem everyStep_cons {holds : σ → ℓ → Prop} {state next : σ} {label : ℓ} {labels : List ℓ}
    (taken : machine.step state label = some next) :
    machine.EveryStep holds state (label :: labels) ↔
      holds state label ∧ machine.EveryStep holds next labels := by
  simp only [EveryStep, taken]

/-- Whether the steps of a run all have a decidable property. -/
instance decidableEveryStep {holds : σ → ℓ → Prop}
    [∀ state label, Decidable (holds state label)] :
    (state : σ) → (labels : List ℓ) → Decidable (machine.EveryStep holds state labels)
  | _, [] => .isTrue trivial
  | state, label :: labels =>
      match taken : machine.step state label with
      | none => .isTrue (by simp only [EveryStep, taken])
      | some next =>
          have : Decidable (machine.EveryStep holds next labels) := decidableEveryStep next labels
          decidable_of_iff (holds state label ∧ machine.EveryStep holds next labels)
            (machine.everyStep_cons taken).symm

/-! ## Invariants -/

/-- What every step preserves, every run preserves. -/
theorem exec_invariant {Inv : σ → Prop}
    (preserved : ∀ {state next : σ} {label : ℓ},
      Inv state → machine.step state label = some next → Inv next)
    {state final : σ} {labels : List ℓ} (start : Inv state)
    (run : machine.exec state labels = some final) : Inv final := by
  induction labels generalizing state with
  | nil =>
      obtain rfl : state = final := Option.some.inj run
      exact start
  | cons label labels ih =>
      obtain ⟨next, taken, rest⟩ := machine.exec_cons_eq_some run
      exact ih (preserved start taken) rest

/-- What the steps with a property preserve, the runs made of such steps preserve. -/
theorem exec_invariant_of_everyStep {Inv : σ → Prop} {holds : σ → ℓ → Prop}
    (preserved : ∀ {state next : σ} {label : ℓ},
      Inv state → holds state label → machine.step state label = some next → Inv next)
    {state final : σ} {labels : List ℓ} (start : Inv state)
    (run : machine.exec state labels = some final)
    (every : machine.EveryStep holds state labels) : Inv final := by
  induction labels generalizing state with
  | nil =>
      obtain rfl : state = final := Option.some.inj run
      exact start
  | cons label labels ih =>
      obtain ⟨next, taken, rest⟩ := machine.exec_cons_eq_some run
      obtain ⟨first, others⟩ := (machine.everyStep_cons taken).mp every
      exact ih (preserved start first taken) rest others

/-- If a step without the property leads into a trap, a run keeps the property or ends there. -/
theorem everyStep_or_of_trap {Inv Trap : σ → Prop} {holds : σ → ℓ → Prop}
    (preserved : ∀ {state next : σ} {label : ℓ},
      Inv state → machine.step state label = some next → Inv next)
    (broken : ∀ {state next : σ} {label : ℓ},
      Inv state → machine.step state label = some next → ¬holds state label → Trap next)
    (stuck : ∀ {state next : σ} {label : ℓ},
      Trap state → machine.step state label = some next → Trap next)
    {state final : σ} {labels : List ℓ} (start : Inv state)
    (run : machine.exec state labels = some final) :
    machine.EveryStep holds state labels ∨ Trap final := by
  induction labels generalizing state with
  | nil => exact .inl trivial
  | cons label labels ih =>
      obtain ⟨next, taken, rest⟩ := machine.exec_cons_eq_some run
      rw [machine.everyStep_cons taken]
      by_cases first : holds state label
      · exact (ih (preserved start taken) rest).imp (fun others => ⟨first, others⟩) id
      · exact .inr (machine.exec_invariant stuck (broken start taken first) rest)

/-- Two step properties which agree wherever an invariant holds agree on whole runs. -/
theorem everyStep_congr {Inv : σ → Prop} {holds holds' : σ → ℓ → Prop}
    (preserved : ∀ {state next : σ} {label : ℓ},
      Inv state → machine.step state label = some next → Inv next)
    (agree : ∀ {state next : σ} {label : ℓ},
      Inv state → machine.step state label = some next → (holds state label ↔ holds' state label))
    {state : σ} (labels : List ℓ) (start : Inv state) :
    machine.EveryStep holds state labels ↔ machine.EveryStep holds' state labels := by
  induction labels generalizing state with
  | nil => exact Iff.rfl
  | cons label labels ih =>
      cases taken : machine.step state label with
      | none => simp only [EveryStep, taken]
      | some next =>
          rw [machine.everyStep_cons taken, machine.everyStep_cons taken]
          exact and_congr (agree start taken) (ih (preserved start taken))

end Machine

end Foundation
