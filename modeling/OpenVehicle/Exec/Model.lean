/-
This file translates the system model: its fields, the checks that make it valid, and the lookups in a valid one.
-/

import OpenVehicle.Exec.Types
import OpenVehicle.Graph.DepthFirst

namespace OpenVehicle.Exec

structure RetryPolicy where
  maxAttempts : Nat := 1
  delay : Milliseconds := 0
  deriving DecidableEq, Repr

inductive ExecutionUnitKind where
  | managedApplication | service | oneShot | mount | external
  deriving DecidableEq, Repr

structure ExecutionUnitDefinition where
  id : ApplicationId := 0
  name : String := ""
  readiness : ReadinessPolicy := .required
  startTimeout : Milliseconds := 5000
  stopTimeout : Milliseconds := 5000
  retry : RetryPolicy := {}
  dependencies : List ApplicationId := []
  exclusiveResources : List ResourceId := []
  kind : ExecutionUnitKind := .managedApplication
  bootstrap : Bool := false
  deriving DecidableEq, Repr

inductive ConstraintKind where
  | requiresMode | excludesMode
  deriving DecidableEq, Repr

structure ModeConstraint where
  kind : ConstraintKind := .requiresMode
  other : ModeRef
  deriving DecidableEq, Repr

structure ModeDefinition where
  id : ModeId
  name : String
  units : List ExecutionUnitId := []
  constraints : List ModeConstraint := []
  deriving DecidableEq, Repr

structure RecoveryPolicy where
  action : FailureAction := .holdObservedConfiguration
  fallbackMode : ModeId := 0
  deadline : Milliseconds := 5000
  deriving DecidableEq, Repr

structure DomainDefinition where
  id : DomainId
  name : String
  initialMode : ModeId
  replacement : ReplacementPolicy := .supersedeIfSafe
  recovery : RecoveryPolicy := {}
  modes : List ModeDefinition := []
  deriving DecidableEq, Repr

structure ExecutionModel where
  generation : ModelGeneration
  units : List ExecutionUnitDefinition
  domains : List DomainDefinition
  deriving DecidableEq, Repr

inductive ModelIssueCode where
  | invalidGeneration | invalidIdentifier | invalidName | duplicateIdentifier | duplicateName
  | invalidTimeout | invalidRetryPolicy | invalidReadinessPolicy | invalidUnitMembership
  | unknownApplication | unknownDependency | dependencyCycle | unknownInitialMode
  | unknownConstraintMode | selfConstraint | invalidFallbackMode | contradictoryConstraint
  deriving DecidableEq, Repr

structure ModelIssue where
  code : ModelIssueCode
  path : String
  message : String
  deriving DecidableEq, Repr

namespace ExecutionModel

variable (model : ExecutionModel)

/-- The unit index keeps the first definition of each identifier. -/
def findUnit (id : ExecutionUnitId) : Option ExecutionUnitDefinition := model.units.find? fun unit => unit.id == id

/-- The domain index keeps the first definition of each identifier. -/
def findDomain (id : DomainId) : Option DomainDefinition := model.domains.find? fun domain => domain.id == id

/-- The mode index lists each mode under its domain, in the order of the definitions. -/
def modeIndex : List (ModeRef × ModeDefinition) :=
  model.domains.flatMap fun domain => domain.modes.map fun mode => (⟨domain.id, mode.id⟩, mode)

def findMode (mode : ModeRef) : Option ModeDefinition :=
  (model.modeIndex.find? fun entry => entry.1 == mode).map Prod.snd

end ExecutionModel

section Inspection

def isValidName (name : String) : Bool :=
  name.utf8ByteSize != 0 && decide (name.utf8ByteSize ≤ 128) &&
    name.toList.all fun character =>
      character.isAlphanum || character == '_' || character == '-'

def unitPath (unit : ApplicationId) : String := "units[" ++ toString unit ++ "]"

def domainPath (domain : DomainDefinition) : String := "domains[" ++ toString domain.id ++ "]"

def modePath (domain : DomainDefinition) (mode : ModeDefinition) : String :=
  domainPath domain ++ ".modes[" ++ toString mode.id ++ "]"

/-- This function reports an issue when its condition holds. -/
def issueIf (condition : Bool) (code : ModelIssueCode) (path message : String) :
    List ModelIssue := if condition then [⟨code, path, message⟩] else []

/-- The identity check returns the extended sets of identifiers and names. -/
def inspectIdentity (id : Nat) (name path : String) (ids : Finset Nat) (names : Finset String) :
    Finset Nat × Finset String × List ModelIssue :=
  let idIssues :=
    issueIf (id == 0) .invalidIdentifier (path ++ ".id") "identifier zero is reserved" ++
      issueIf (id != 0 && decide (id ∈ ids)) .duplicateIdentifier (path ++ ".id")
        "identifier is not unique"
  let nameIssues :=
    issueIf (!isValidName name) .invalidName (path ++ ".name")
      "name must contain 1-128 ASCII letters, digits, '_' or '-' characters" ++
      issueIf (isValidName name && decide (name ∈ names)) .duplicateName (path ++ ".name")
        "name is not unique"
  (if id = 0 then ids else insert id ids, if isValidName name then insert name names else names, idIssues ++ nameIssues)

def validReadiness (kind : ExecutionUnitKind) (readiness : ReadinessPolicy) : Bool :=
  match kind, readiness with
  | .managedApplication, .lifecycleChannel | .managedApplication, .processStarted
  | .service, .processStarted | .service, .supervisorNotification
  | .oneShot, .successfulExit
  | .mount, .mountPresent
  | .external, .processStarted | .external, .supervisorNotification => true
  | _, _ => false

def inspectDependencies (path : String) : List ApplicationId → Finset ApplicationId → List ModelIssue
  | [], _ => []
  | dependency :: rest, seen =>
      issueIf (decide (dependency ∈ seen)) .duplicateIdentifier (path ++ ".dependencies")
        "dependency is listed more than once" ++
      inspectDependencies path rest (insert dependency seen)

/-- The first loop checks each unit on its own. -/
def inspectUnits : List ExecutionUnitDefinition → Finset ApplicationId → Finset String →
    List ModelIssue
  | [], _, _ => []
  | application :: rest, ids, names =>
      let path := unitPath application.id
      let identity := inspectIdentity application.id application.name path ids names
      identity.2.2 ++
      issueIf (decide (application.startTimeout ≤ 0) || decide (application.stopTimeout ≤ 0))
        .invalidTimeout path "start and stop timeouts must be positive" ++
      issueIf (application.retry.maxAttempts == 0 || decide (application.retry.maxAttempts > 100) ||
          decide (application.retry.delay < 0)) .invalidRetryPolicy (path ++ ".retry")
        "retry attempts must be 1-100 and delay must not be negative" ++
      issueIf (!validReadiness application.kind application.readiness) .invalidReadinessPolicy
        (path ++ ".readiness") "readiness policy is incompatible with the execution unit kind" ++
      inspectDependencies path application.dependencies ∅ ++
      inspectUnits rest identity.1 identity.2.1

variable (model : ExecutionModel)

/-- The second loop checks that every dependency is a unit of the model. -/
def inspectKnownDependencies : List ModelIssue :=
  model.units.flatMap fun application => application.dependencies.flatMap fun dependency =>
    issueIf (model.findUnit dependency).isNone .unknownDependency
      (unitPath application.id ++ ".dependencies") "dependency does not identify an execution unit"

/-- The dependency edges that lead to a unit of the model. -/
def knownDependencies (unit : ApplicationId) : List ApplicationId :=
  match model.findUnit unit with
  | none => []
  | some definition =>
      definition.dependencies.filter fun dependency => (model.findUnit dependency).isSome

def cycleMessage (stack : List ApplicationId) (dependency : ApplicationId) : String :=
  ((stack.dropWhile (· != dependency)).foldl
    (fun message item => message ++ " " ++ toString item ++ " ->") "dependency cycle:") ++
    " " ++ toString dependency

/-- A back edge is reported once for each unit it returns to. -/
def reportCycles : List (List ApplicationId × ApplicationId) → Finset ApplicationId → List ModelIssue
  | [], _ => []
  | (stack, dependency) :: rest, reported =>
      issueIf (decide (dependency ∉ reported)) .dependencyCycle (unitPath (stack.getLastD 0))
        (cycleMessage stack dependency) ++
      reportCycles rest (insert dependency reported)

/-- The recursion of the source visits each unit once, so one unit of fuel for each is enough. -/
def inspectDependencyCycles : List ModelIssue :=
  reportCycles (DepthFirst.searchAll (knownDependencies model) model.units.length (model.units.map (·.id))).back ∅

def inspectModeUnits (model : ExecutionModel) (path : String) :
    List ApplicationId → Finset ApplicationId → List ModelIssue
  | [], _ => []
  | application :: rest, selected =>
      if (model.findUnit application).isNone then
        ⟨.unknownApplication, path ++ ".units", "mode selects an unknown execution unit"⟩ ::
          inspectModeUnits model path rest selected
      else
        issueIf (decide (application ∈ selected)) .duplicateIdentifier (path ++ ".units")
          "execution unit is selected more than once" ++
        inspectModeUnits model path rest (insert application selected)

/-- The mode loop returns the identifiers the domain defines. -/
def inspectModes (model : ExecutionModel) (domain : DomainDefinition) :
    List ModeDefinition → Finset ModeId → Finset String → Finset ModeId × List ModelIssue
  | [], ids, _ => (ids, [])
  | mode :: rest, ids, names =>
      let path := modePath domain mode
      let identity := inspectIdentity mode.id mode.name path ids names
      let later := inspectModes model domain rest identity.1 identity.2.1
      (later.1, identity.2.2 ++ inspectModeUnits model path mode.units ∅ ++ later.2)

def inspectDomains (model : ExecutionModel) :
    List DomainDefinition → Finset DomainId → Finset String → List ModelIssue
  | [], _, _ => []
  | domain :: rest, ids, names =>
      let path := domainPath domain
      let identity := inspectIdentity domain.id domain.name path ids names
      let modes := inspectModes model domain domain.modes ∅ ∅
      identity.2.2 ++ modes.2 ++
      issueIf (decide (domain.initialMode ∉ modes.1)) .unknownInitialMode (path ++ ".initial_mode")
        "initial mode is not defined by this domain" ++
      issueIf (decide (domain.recovery.deadline ≤ 0)) .invalidTimeout (path ++ ".recovery.deadline")
        "recovery deadline must be positive" ++
      issueIf (domain.recovery.action == .enterFallbackMode &&
          decide (domain.recovery.fallbackMode ∉ modes.1)) .invalidFallbackMode
        (path ++ ".recovery.fallback_mode") "fallback mode is not defined by this domain" ++
      inspectDomains model rest identity.1 identity.2.1

/-- The membership loop separates bootstrap units from mode-controlled units. -/
def inspectMembership : List ModelIssue :=
  model.units.flatMap fun unit =>
    let assigned := model.domains.any fun domain => domain.modes.any fun mode =>
      mode.units.contains unit.id
    issueIf (unit.bootstrap && assigned) .invalidUnitMembership (unitPath unit.id ++ ".bootstrap")
      "bootstrap unit must not be assigned to an execution mode" ++
    issueIf (!unit.bootstrap && !assigned) .invalidUnitMembership (unitPath unit.id)
      "non-bootstrap unit must have explicit mode membership" ++
    issueIf (unit.bootstrap && unit.dependencies.any fun dependency =>
        (model.findUnit dependency).any fun found => !found.bootstrap) .invalidUnitMembership
      (unitPath unit.id ++ ".dependencies") "bootstrap unit cannot depend on a mode-controlled unit"

def inspectConstraints (model : ExecutionModel) (path : String) (own : ModeRef) :
    List ModeConstraint → List (ModeRef × ConstraintKind) → List ModelIssue
  | [], _ => []
  | constraint :: rest, seen =>
      let found := seen.lookup constraint.other
      issueIf (constraint.other == own) .selfConstraint path "mode cannot constrain itself" ++
      issueIf (model.findMode constraint.other).isNone .unknownConstraintMode path
        "constraint references an unknown mode" ++
      issueIf (found.any (· != constraint.kind)) .contradictoryConstraint path
        "same mode is both required and excluded" ++
      inspectConstraints model path own rest
        (if found.isSome then seen else (constraint.other, constraint.kind) :: seen)

def inspectAllConstraints : List ModelIssue :=
  model.domains.flatMap fun domain => domain.modes.flatMap fun mode =>
    inspectConstraints model (modePath domain mode ++ ".constraints") ⟨domain.id, mode.id⟩
      mode.constraints []

/-- The inspection lists every issue in the order in which the source reports it. -/
def inspectModel : List ModelIssue :=
  issueIf (model.generation == 0) .invalidGeneration "generation" "generation zero is reserved" ++
  inspectUnits model.units ∅ ∅ ++
  inspectKnownDependencies model ++
  inspectDependencyCycles model ++
  inspectDomains model model.domains ∅ ∅ ++
  inspectMembership model ++
  inspectAllConstraints model

end Inspection

/-- A validated model carries the proof that the inspection found no issue. -/
structure ValidatedModel where
  value : ExecutionModel
  valid : inspectModel value = []

def validateModel (model : ExecutionModel) : Result ValidatedModel :=
  match clean : inspectModel model with
  | [] => .ok ⟨model, clean⟩
  | issue :: rest =>
      .error (makeError .configurationError (issue.path ++ ": " ++ issue.message) (rest.length + 1))

namespace ValidatedModel

variable (model : ValidatedModel)

abbrev findUnit := model.value.findUnit

abbrev findDomain := model.value.findDomain

abbrev findMode := model.value.findMode

end ValidatedModel

end OpenVehicle.Exec
