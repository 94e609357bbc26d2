/-
This file runs a machine through a list of actions, and compares what holds along a run with its steps.
-/

import Mathlib.Data.List.Basic

namespace OpenVehicle.Concurrency

section Steps
variable {W A : Type} (step : A → W → W)

/-- The world after a list of actions. -/
def after (world : W) (actions : List A) : W := actions.foldl (fun world action => step action world) world

/-- The property holds at the start of a run and after each of its actions. -/
def Along (property : W → Prop) (world : W) (actions : List A) : Prop :=
  ∀ count ≤ actions.length, property (after step world (actions.take count))

/-- Every action of a run is taken in a world that fits it. -/
def Taken (fits : A → W → Prop) (world : W) (actions : List A) : Prop :=
  ∀ count (inside : count < actions.length), fits actions[count] (after step world (actions.take count))

variable {step} {property sound : W → Prop} {fits : A → W → Prop} {world : W} {action : A} {actions : List A}

theorem along_nil : Along step property world [] ↔ property world := by
  constructor
  · exact fun along => along 0 (Nat.le_refl 0)
  · intro here count least
    rw [Nat.le_zero.mp least]
    exact here

theorem along_cons : Along step property world (action :: actions) ↔
    property world ∧ Along step property (step action world) actions := by
  constructor
  · intro along
    exact ⟨along 0 (Nat.zero_le _), fun count least => along (count + 1) (Nat.succ_le_succ least)⟩
  · rintro ⟨here, along⟩ count least
    cases count with
    | zero => exact here
    | succ count => exact along count (Nat.le_of_succ_le_succ least)

theorem taken_cons : Taken step fits world (action :: actions) ↔
    fits action world ∧ Taken step fits (step action world) actions := by
  constructor
  · intro taken
    exact ⟨taken 0 (Nat.succ_pos _), fun count inside => taken (count + 1) (Nat.succ_lt_succ inside)⟩
  · rintro ⟨here, taken⟩ count inside
    cases count with
    | zero => exact here
    | succ count => exact taken count (Nat.lt_of_succ_lt_succ inside)

/-- A property that an action keeps exactly when it fits holds along the runs whose actions fit, and along no
others. -/
theorem along_iff_taken (keeps : ∀ action world, sound world → sound (step action world))
    (exact : ∀ action world, sound world → property world → (property (step action world) ↔ fits action world))
    (start : sound world) (holds : property world) :
    Along step property world actions ↔ Taken step fits world actions := by
  induction actions generalizing world with
  | nil =>
      refine iff_of_true (along_nil.mpr holds) ?_
      intro count inside
      cases inside
  | cons action actions ih =>
      rw [along_cons, taken_cons, ← exact action world start holds]
      constructor
      · rintro ⟨_, along⟩
        have next : property (step action world) := along 0 (Nat.zero_le _)
        exact ⟨next, (ih (keeps action world start) next).mp along⟩
      · rintro ⟨next, taken⟩
        exact ⟨holds, (ih (keeps action world start) next).mpr taken⟩

end Steps

end OpenVehicle.Concurrency
