/-
This file defines systems of atomic actions and the states that their runs reach.
-/

import Mathlib.Data.Option.Basic
import Mathlib.Tactic.TypeStar

namespace OpenVehicle.Concurrency

/-- A system performs one action at a time. An action that is not enabled has no result. -/
structure System (State Action : Type) where
  perform : Action → State → Option State

namespace System

variable {State Action : Type} (system : System State Action)

/-- The states that allowed actions reach. -/
inductive Reaches (allowed : State → Action → Prop) (start : State) : State → Prop
  | refl : Reaches allowed start start
  | step {state later : State} {action : Action} (before : Reaches allowed start state)
      (permitted : allowed state action) (performed : system.perform action state = some later) :
      Reaches allowed start later

/-- This function executes a schedule and checks every action. A scheduler sees the state. -/
def run (check : State → Action → Bool) : List (State → Action) → State → Option State
  | [], state => some state
  | choose :: rest, state =>
      if check state (choose state) then (system.perform (choose state) state).bind (run check rest)
      else none

variable {system} {allowed : State → Action → Prop} {start state later : State}

theorem Reaches.trans (first : system.Reaches allowed start state)
    (second : system.Reaches allowed state later) : system.Reaches allowed start later := by
  induction second with
  | refl => exact first
  | step _ permitted performed ih => exact .step ih permitted performed

/-- The actions of a run may have the properties that give another permission. -/
theorem Reaches.permits {other : State → Action → Prop}
    (permits : ∀ state action, system.Reaches allowed start state → allowed state action → other state action)
    (reached : system.Reaches allowed start state) : system.Reaches other start state := by
  induction reached with
  | refl => exact .refl
  | step before permitted performed ih => exact .step ih (permits _ _ before permitted) performed

/-- A property that every allowed action keeps holds in every reached state. -/
theorem Reaches.invariant {property : State → Prop} (initial : property start)
    (kept : ∀ state action later, property state → allowed state action →
      system.perform action state = some later → property later)
    (reached : system.Reaches allowed start state) : property state := by
  induction reached with
  | refl => exact initial
  | step _ permitted performed ih => exact kept _ _ _ ih permitted performed

/-- An executed schedule is a run. -/
theorem Reaches.of_run (check : State → Action → Bool)
    (sound : ∀ state action, check state action = true → allowed state action)
    (schedule : List (State → Action)) (executed : system.run check schedule start = some state) :
    system.Reaches allowed start state := by
  induction schedule generalizing start with
  | nil =>
      obtain rfl := Option.some.inj executed
      exact .refl
  | cons choose rest ih =>
      unfold run at executed
      split at executed
      · rename_i checked
        obtain ⟨next, performed, remaining⟩ := Option.bind_eq_some_iff.mp executed
        exact (Reaches.step .refl (sound _ _ checked) performed).trans (ih remaining)
      · cases executed

/-- A schedule that ends in a state with a decided property is such a run. -/
theorem Reaches.exists_of_run (check : State → Action → Bool)
    (sound : ∀ state action, check state action = true → allowed state action)
    (schedule : List (State → Action)) (property : State → Bool)
    (executed : (system.run check schedule start).any property = true) :
    ∃ state, system.Reaches allowed start state ∧ property state = true := by
  obtain ⟨state, ended, holds⟩ := (Option.any_eq_true _ _).mp executed
  exact ⟨state, .of_run check sound schedule ended, holds⟩

end System

end OpenVehicle.Concurrency
