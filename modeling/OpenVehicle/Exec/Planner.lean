/-
This file translates the transition planner. It closes the wanted units under their dependencies, it orders the
stops and the starts, and it checks the committed modes against the constraints of the model.
-/

import OpenVehicle.Data.FiniteMap
import OpenVehicle.Exec.Model

namespace OpenVehicle.Exec

open FiniteMap

/-- The committed modes and the running units describe the system. -/
structure SystemConfiguration where
  generation : ModelGeneration
  committedModes : Map DomainId ModeId
  runningUnits : Finset ExecutionUnitId
  deriving DecidableEq

structure TransitionPlan where
  generation : ModelGeneration
  domain : DomainId
  sourceMode : ModeId
  targetMode : ModeId
  retain : List ExecutionUnitId
  stop : List ExecutionUnitId
  start : List ExecutionUnitId
  guardedDomains : List DomainId
  affectedResources : List ResourceId
  deriving DecidableEq

namespace TransitionPlanner

variable (model : ValidatedModel)

/-- The first failing element of a loop decides the error. -/
def firstError {A : Type} (check : A → Option Error) (list : List A) : Result Unit :=
  match list.findSome? check with
  | some error => .error error
  | none => .ok ()

/-- The bootstrap units run in every configuration. -/
def bootstrapUnits : Finset ExecutionUnitId := ((model.value.units.filter (·.bootstrap)).map (·.id)).toFinset

/-- A unit set is closed when it contains every dependency of its members. -/
def missingUnit (required : Finset ExecutionUnitId) (undefinedUnit missingDependency : Error)
    (unit : ExecutionUnitId) : Option Error :=
  match model.findUnit unit with
  | none => some undefinedUnit
  | some definition =>
      if definition.dependencies.any fun dependency => decide (dependency ∉ required) then
        some missingDependency
      else none

/-- This loop adds the units of the selected mode of every domain. -/
def selectUnits (modes : Map DomainId ModeId) :
    List DomainDefinition → Finset ExecutionUnitId → Result (Finset ExecutionUnitId)
  | [], required => .ok required
  | domain :: rest, required =>
      match modes.lookup domain.id with
      | none => .error (makeError .configurationError "system configuration is missing an execution domain")
      | some selected =>
          match model.findMode ⟨domain.id, selected⟩ with
          | none => .error (makeError .configurationError "system configuration selects an undefined execution mode")
          | some mode => selectUnits modes rest (required ∪ mode.units.toFinset)

variable (modes : Map DomainId ModeId)

def requiredUnits : Result (Finset ExecutionUnitId) :=
  match selectUnits model modes model.value.domains (bootstrapUnits model) with
  | .error error => .error error
  | .ok required =>
      match firstError (missingUnit model required
          (makeError .configurationError "execution mode selects an undefined execution unit")
          (makeError .invalidTransition "target modes omit an explicit execution-unit dependency"))
          (sorted required) with
      | .error error => .error error
      | .ok () => .ok required

/-- A constraint compares the mode of the other domain with its own reference. -/
def violatedConstraint (constraint : ModeConstraint) : Option Error :=
  let selected := modes.lookup constraint.other.domain == some constraint.other.mode
  match constraint.kind with
  | .requiresMode => if selected then none else some (makeError .invalidTransition
      "target system configuration does not satisfy a required mode")
  | .excludesMode => if selected then some (makeError .invalidTransition
      "target system configuration selects mutually exclusive modes") else none

def constraintError (entry : (_ : DomainId) × ModeId) : Option Error :=
  match model.findMode ⟨entry.1, entry.2⟩ with
  | none => some (makeError .configurationError "system configuration contains an undefined mode")
  | some definition => definition.constraints.findSome? (violatedConstraint modes)

def validateConstraints : Result Unit := firstError (constraintError model modes) modes.entries

variable (units : Finset ExecutionUnitId)

/-- The recursion of the source visits the members of the set after their dependencies. -/
def memberDependencies (unit : ExecutionUnitId) :
    List ExecutionUnitId :=
  match model.findUnit unit with
  | none => []
  | some definition =>
      (definition.dependencies.insertionSort (· ≤ ·)).filter fun dependency =>
        decide (dependency ∈ units)

def order (reverse : Bool) : List ExecutionUnitId :=
  let ordered := (DepthFirst.searchAll (memberDependencies model units) units.card
    (sorted units)).finished
  if reverse then ordered.reverse else ordered

/-- The constraints of the model connect these domains with the given one. -/
def guardedDomains (domain : DomainId) : Finset DomainId :=
  insert domain ((model.value.domains.flatMap fun candidate =>
    candidate.modes.flatMap fun mode => mode.constraints.flatMap fun constraint =>
      if candidate.id = domain ∨ constraint.other.domain = domain then
        [candidate.id, constraint.other.domain]
      else []).toFinset)

def unitResources : Finset ResourceId :=
  units.biUnion fun unit => match model.findUnit unit with
    | none => ∅
    | some definition => definition.exclusiveResources.toFinset

variable (current : SystemConfiguration)

def buildPlan (domain : DomainId) (target : ModeId)
    (allowCurrentMode : Bool) : Result TransitionPlan :=
  if current.generation ≠ model.value.generation then
    .error (makeError .configurationError "system configuration generation does not match the active model")
  else if (model.findDomain domain).isNone then
    .error (makeError .notFound "execution domain is not defined")
  else if (model.findMode ⟨domain, target⟩).isNone then
    .error (makeError .notFound "execution mode is not defined by the domain")
  else match current.committedModes.lookup domain with
  | none => .error (makeError .configurationError "system configuration has no committed mode for the domain")
  | some currentMode =>
      if !allowCurrentMode && currentMode == target then
        .error (makeError .invalidTransition "domain is already in the target mode")
      else
        let proposedModes := current.committedModes.insert domain target
        match validateConstraints model proposedModes with
        | .error error => .error error
        | .ok () =>
            match requiredUnits model proposedModes with
            | .error error => .error error
            | .ok required =>
                let retained := required ∩ current.runningUnits
                let toStart := required \ current.runningUnits
                let toStop := current.runningUnits \ required
                .ok {
                  generation := current.generation
                  domain := domain
                  sourceMode := currentMode
                  targetMode := target
                  retain := order model retained false
                  stop := order model toStop true
                  start := order model toStart false
                  guardedDomains := sorted (guardedDomains model domain)
                  affectedResources := sorted
                    (unitResources model toStart ∪ unitResources model toStop) }

def plan (domain : DomainId) (target : ModeId) :
    Result TransitionPlan := buildPlan model current domain target false

def reconcile (domain : DomainId) (target : ModeId) :
    Result TransitionPlan := buildPlan model current domain target true

/-- This loop adds the units of every remaining committed mode. -/
def remainingUnits : List ((_ : DomainId) × ModeId) → Finset ExecutionUnitId →
    Result (Finset ExecutionUnitId)
  | [], required => .ok required
  | entry :: rest, required =>
      match model.findMode ⟨entry.1, entry.2⟩ with
      | none => .error (makeError .configurationError "system configuration selects an undefined execution mode")
      | some mode => remainingUnits rest (required ∪ mode.units.toFinset)

/-- The units that the configuration needs without one domain. -/
def requiredWithout (domain : DomainId) :
    Result (Finset ExecutionUnitId) :=
  let omitted := makeError .configurationError
    "remaining domain configuration omits a required execution unit"
  match remainingUnits model (current.committedModes.erase domain).entries (bootstrapUnits model) with
  | .error error => .error error
  | .ok required =>
      match firstError (missingUnit model required omitted omitted) (sorted required) with
      | .error error => .error error
      | .ok () => .ok required

def stopDomainUnits (domain : DomainId) :
    Result (List ExecutionUnitId) :=
  if current.generation ≠ model.value.generation ∨ (model.findDomain domain).isNone then
    .error (makeError .configurationError "cannot stop an unknown domain or model generation")
  else
    match requiredWithout model current domain with
    | .error error => .error error
    | .ok required => .ok (order model (current.runningUnits \ required) true)

/-- The initial modes of the domains, each under the first definition of its identifier. -/
def initialModes : Map DomainId ModeId :=
  model.value.domains.foldl (fun modes domain =>
    if (modes.lookup domain.id).isSome then modes
    else modes.insert domain.id domain.initialMode) ∅

def initialConfiguration : Result SystemConfiguration :=
  match requiredUnits model (initialModes model) with
  | .error error => .error error
  | .ok required => .ok ⟨model.value.generation, initialModes model, required⟩

end TransitionPlanner

end OpenVehicle.Exec
