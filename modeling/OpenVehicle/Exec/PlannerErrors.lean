/-
This file proves that every error of the planner has a code.
-/

import OpenVehicle.Exec.PlannerFacts

namespace OpenVehicle.Exec

open FiniteMap TransitionPlanner

/-- An error with a code is an error. -/
def Error.Coded (error : Error) : Prop := error.code ≠ .none

instance (error : Error) : Decidable error.Coded := inferInstanceAs (Decidable (_ ≠ _))

theorem makeError_coded {code : ErrorCode} (message : String) (support : Nat) (coded : code ≠ .none) :
    (makeError code message support).Coded := coded

section Planner
variable {model : ValidatedModel} {current : SystemConfiguration} {domain : DomainId} {target : ModeId}
variable {error : Error}

theorem firstError_coded {A : Type} {check : A → Option Error} {list : List A}
    (each : ∀ a error, check a = some error → error.Coded)
    (failed : firstError check list = .error error) : error.Coded := by
  unfold firstError at failed
  split at failed
  · rename_i first found
    obtain rfl := Except.error.inj failed
    obtain ⟨a, _, fails⟩ := List.exists_of_findSome?_eq_some found
    exact each a _ fails
  · cases failed

variable {unit : ExecutionUnitId}

theorem missingUnit_coded {units : Finset ExecutionUnitId} {first second : Error}
    (undefinedUnit : first.Coded) (missingDependency : second.Coded)
    (missing : missingUnit model units first second unit = some error) : error.Coded := by
  unfold missingUnit at missing
  split at missing
  · obtain rfl := Option.some.inj missing
    exact undefinedUnit
  · split at missing
    · obtain rfl := Option.some.inj missing
      exact missingDependency
    · cases missing

variable {modes : Map DomainId ModeId} {required : Finset ExecutionUnitId}

theorem selectUnits_coded {domains : List DomainDefinition}
    (failed : selectUnits model modes domains required = .error error) : error.Coded := by
  induction domains generalizing required with
  | nil => cases failed
  | cons first rest ih =>
      unfold selectUnits at failed
      split at failed
      · obtain rfl := Except.error.inj failed
        exact makeError_coded _ _ (by decide)
      · split at failed
        · obtain rfl := Except.error.inj failed
          exact makeError_coded _ _ (by decide)
        · exact ih failed

theorem requiredUnits_coded (failed : requiredUnits model modes = .error error) : error.Coded := by
  unfold requiredUnits at failed
  split at failed
  · rename_i selected
    obtain rfl := Except.error.inj failed
    exact selectUnits_coded selected
  · split at failed
    · rename_i incomplete
      obtain rfl := Except.error.inj failed
      exact firstError_coded (fun _ _ missing => missingUnit_coded (makeError_coded _ _ (by decide))
        (makeError_coded _ _ (by decide)) missing) incomplete
    · cases failed

theorem validateConstraints_coded (failed : validateConstraints model modes = .error error) : error.Coded := by
  refine firstError_coded (fun entry error violated => ?_) failed
  unfold constraintError at violated
  split at violated
  · obtain rfl := Option.some.inj violated
    exact makeError_coded _ _ (by decide)
  · obtain ⟨constraint, _, found⟩ := List.exists_of_findSome?_eq_some violated
    simp only [violatedConstraint] at found
    split at found <;> split at found <;> cases found <;> exact makeError_coded _ _ (by decide)

variable {allow : Bool}

/-- Every error of the planner has a code. -/
theorem buildPlan_coded (failed : buildPlan model current domain target allow = .error error) : error.Coded := by
  unfold buildPlan at failed
  split at failed
  · obtain rfl := Except.error.inj failed
    exact makeError_coded _ _ (by decide)
  split at failed
  · obtain rfl := Except.error.inj failed
    exact makeError_coded _ _ (by decide)
  split at failed
  · obtain rfl := Except.error.inj failed
    exact makeError_coded _ _ (by decide)
  split at failed
  · obtain rfl := Except.error.inj failed
    exact makeError_coded _ _ (by decide)
  split at failed
  · obtain rfl := Except.error.inj failed
    exact makeError_coded _ _ (by decide)
  dsimp only at failed
  split at failed
  · rename_i violated
    obtain rfl := Except.error.inj failed
    exact validateConstraints_coded violated
  split at failed
  · rename_i incomplete
    obtain rfl := Except.error.inj failed
    exact requiredUnits_coded incomplete
  · cases failed

theorem remainingUnits_coded {entries : List ((_ : DomainId) × ModeId)}
    (failed : remainingUnits model entries required = .error error) : error.Coded := by
  induction entries generalizing required with
  | nil => cases failed
  | cons first rest ih =>
      unfold remainingUnits at failed
      split at failed
      · obtain rfl := Except.error.inj failed
        exact makeError_coded _ _ (by decide)
      · exact ih failed

theorem stopDomainUnits_coded (failed : stopDomainUnits model current domain = .error error) : error.Coded := by
  unfold stopDomainUnits at failed
  split at failed
  · obtain rfl := Except.error.inj failed
    exact makeError_coded _ _ (by decide)
  split at failed
  · rename_i incomplete
    obtain rfl := Except.error.inj failed
    unfold requiredWithout at incomplete
    dsimp only at incomplete
    split at incomplete
    · rename_i remaining
      obtain rfl := Except.error.inj incomplete
      exact remainingUnits_coded remaining
    · split at incomplete
      · rename_i missing
        obtain rfl := Except.error.inj incomplete
        exact firstError_coded (fun _ _ missing => missingUnit_coded (makeError_coded _ _ (by decide))
          (makeError_coded _ _ (by decide)) missing) missing
      · cases incomplete
  · cases failed

/-- The planner starts known units only. -/
theorem start_known {plan : TransitionPlan}
    (planned : buildPlan model current domain target allow = .ok plan) (member : unit ∈ plan.start) :
    (model.findUnit unit).isSome := by
  obtain ⟨required, facts, _⟩ := buildPlan_eq_ok planned
  obtain ⟨definition, found, _⟩ := facts.closed unit (facts.mem_start.mp member).1
  rw [found]
  rfl

end Planner

end OpenVehicle.Exec
