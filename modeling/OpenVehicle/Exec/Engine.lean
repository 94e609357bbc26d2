/-
This file translates the execution engine. Each region that the source executes under the
engine mutex, each scheduler region, each journal append and each backend call is one operation.
The clock enters only through the replies to the deadline tests.
-/

import OpenVehicle.Concurrency.Protocol
import OpenVehicle.Exec.Planner
import OpenVehicle.Exec.Scheduler

namespace OpenVehicle.Exec

open Concurrency FiniteMap

structure BackendEvidence where
  state : ApplicationState := .unknown
  exitCode : Int := 0
  signal : Int := 0
  nativeCode : Nat := 0
  message : String := ""
  deriving DecidableEq, Repr

structure TransitionFailure where
  error : Error := {}
  application : Option ApplicationId := none
  evidence : BackendEvidence := {}
  recoveryAction : FailureAction := .holdObservedConfiguration
  recoveryAttempted : Bool := false
  recoverySucceeded : Bool := false
  recoveryError : Option Error := none
  recoveredMode : Option ModeId := none
  recoveryStoppedApplications : List ApplicationId := []
  recoveryStartedApplications : List ApplicationId := []
  deriving DecidableEq, Repr

structure TransitionSnapshot where
  id : TransitionId
  domain : DomainId
  sourceMode : ModeId := 0
  targetMode : ModeId
  phase : TransitionPhase := .received
  failure : Option TransitionFailure := none
  deriving DecidableEq, Repr

structure JournalEvent where
  transition : TransitionSnapshot
  generation : ModelGeneration
  plan : Option TransitionPlan
  deriving DecidableEq

structure AcceptedTransition where
  id : TransitionId
  plan : TransitionPlan
  deriving DecidableEq

/-- The members of the engine, with the journal as the list of its events. -/
structure EngineState where
  configuration : SystemConfiguration
  transitions : Map TransitionId TransitionSnapshot := ∅
  plans : Map TransitionId TransitionPlan := ∅
  cancellation : Map TransitionId Bool := ∅
  nextTransition : TransitionId := 1
  scheduler : SchedulerState := {}
  journal : List JournalEvent := []
  deriving DecidableEq

/-- The atomic operations of the engine. -/
inductive EngineOp where
  | register (transition : TransitionSnapshot) (plan : Option TransitionPlan)
  | loadPlan (transition : TransitionId)
  | append (event : JournalEvent)
  | store (transition : TransitionSnapshot)
  | getTransition (transition : TransitionId)
  | enter (owner : TransitionId) (resources : TransitionResources)
  | wake (owner : TransitionId) (resources : TransitionResources)
  | release (owner : TransitionId)
  | replan (domain : DomainId) (target : ModeId)
  | isCancelled (transition : TransitionId)
  | stop (unit : ExecutionUnitId) (reason : StopReason)
  | start (unit : ExecutionUnitId)
  | eraseRunning (unit : ExecutionUnitId)
  | insertRunning (unit : ExecutionUnitId)
  | commit (domain : DomainId) (mode : ModeId)
  | expired
  | readConfiguration
  | requestSystemRecovery
  deriving DecidableEq

abbrev EngineOp.Reply : EngineOp → Type
  | .register _ _ | .store _ | .release _ | .eraseRunning _ | .insertRunning _ | .commit _ _ => Unit
  | .loadPlan _ => Option TransitionPlan
  | .append _ | .wake _ _ | .requestSystemRecovery => Result Unit
  | .getTransition _ => Result TransitionSnapshot
  | .enter _ _ => Result Bool
  | .replan _ _ => Result TransitionPlan
  | .isCancelled _ | .expired => Bool
  | .stop _ _ | .start _ => Result BackendEvidence
  | .readConfiguration => SystemConfiguration

/-- The environment decides the journal, the backend and the clock. -/
inductive EngineInput where
  | proceed
  | journal (outcome : Result Unit)
  | backend (outcome : Result BackendEvidence)
  | clock (expired : Bool)
  | system (outcome : Result Unit)

abbrev EngineProgram (A : Type) := Program EngineOp EngineOp.Reply A

/-- This program calls one operation of the engine. -/
abbrev EngineOp.call (op : EngineOp) : EngineProgram op.Reply := Program.perform op

namespace ExecutionEngine

variable (model : ValidatedModel)

variable (state : EngineState)

def setRunning (units : Finset ExecutionUnitId) : EngineState :=
  { state with configuration := { state.configuration with runningUnits := units } }

def setCommitted (domain : DomainId) (mode : ModeId) : EngineState :=
  { state with configuration := { state.configuration with
      committedModes := state.configuration.committedModes.insert domain mode } }

/-- The region of `AcceptModeFrom` registers a transition and its plan. -/
def register (transition : TransitionSnapshot) (plan : Option TransitionPlan) :
    EngineState :=
  { state with
    transitions := emplace transition.id transition state.transitions
    cancellation := emplace transition.id false state.cancellation
    plans := match plan with
      | none => state.plans
      | some plan => state.plans.insert transition.id plan }

/-- This function executes one operation. A blocked operation returns nothing. -/
def perform : (op : EngineOp) → EngineInput → EngineState → Option (op.Reply × EngineState)
  | .register transition plan, .proceed, state => some ((), register state transition plan)
  | .loadPlan transition, .proceed, state => some (state.plans.lookup transition, state)
  | .append event, .journal outcome, state =>
      some (outcome, match outcome with
        | .ok () => { state with journal := state.journal ++ [event] }
        | .error _ => state)
  | .store transition, .proceed, state =>
      some ((), { state with
        transitions := state.transitions.insert transition.id transition })
  | .getTransition transition, .proceed, state =>
      some (match state.transitions.lookup transition with
        | none => .error (makeError .notFound "transition is not known")
        | some found => .ok found, state)
  | .enter owner resources, .proceed, state =>
      let entered := state.scheduler.enter owner resources
      some (entered.1, { state with scheduler := entered.2 })
  | .wake owner resources, .clock expired, state =>
      (state.scheduler.wake owner resources expired).map fun woken =>
        (woken.1, { state with scheduler := woken.2 })
  | .release owner, .proceed, state =>
      some ((), { state with scheduler := state.scheduler.release owner })
  | .replan domain target, .proceed, state =>
      some (TransitionPlanner.plan model state.configuration domain target, state)
  | .isCancelled transition, .proceed, state =>
      some ((state.cancellation.lookup transition).getD false, state)
  | .stop _ _, .backend outcome, state => some (outcome, state)
  | .start _, .backend outcome, state => some (outcome, state)
  | .eraseRunning unit, .proceed, state =>
      some ((), setRunning state (state.configuration.runningUnits.erase unit))
  | .insertRunning unit, .proceed, state =>
      some ((), setRunning state (insert unit state.configuration.runningUnits))
  | .commit domain mode, .proceed, state => some ((), setCommitted state domain mode)
  | .expired, .clock expired, state => some (expired, state)
  | .readConfiguration, .proceed, state => some (state.configuration, state)
  | .requestSystemRecovery, .system outcome, state => some (outcome, state)
  | _, _, _ => none

/-- The source dereferences the definition of a planned unit, which always exists. -/
def unitDefinition (unit : ExecutionUnitId) : ExecutionUnitDefinition := (model.findUnit unit).getD {}

variable (transition : TransitionSnapshot)

def record (phase : TransitionPhase) :
    EngineProgram (Result Unit × TransitionSnapshot) := do
  let transition := { transition with phase := phase }
  let plan ← EngineOp.call (.loadPlan transition.id)
  let persisted ← EngineOp.call (.append ⟨transition, model.value.generation, plan⟩)
  match persisted with
  | .error error => return (.error (makeError .persistenceError
      "transition phase could not be persisted" error.code.value), transition)
  | .ok () => do
      EngineOp.call (.store transition)
      return (.ok (), transition)

/-- The error code selects the terminal phase of a failed transition. -/
def terminalPhase (code : ErrorCode) : TransitionPhase :=
  match code with
  | .cancelled => .cancelled
  | .deadlineExceeded => .deadlineExceeded
  | .superseded => .superseded
  | _ => .failed

def fail (error : Error)
    (application : Option ApplicationId := none) (evidence : BackendEvidence := {}) :
    EngineProgram (Result TransitionSnapshot) := do
  let failure : TransitionFailure := { error, application, evidence }
  let recorded ← record model { transition with failure := some failure } (terminalPhase error.code)
  match recorded.1 with
  | .ok () => return .ok recorded.2
  | .error _ => return .ok { recorded.2 with failure := some { failure with
      error := makeError .persistenceError "terminal transition failure could not be persisted" } }

/-- Most phases are recorded and then followed by the rest of the function. -/
def recordOrFail (phase : TransitionPhase)
    (next : TransitionSnapshot → EngineProgram (Result TransitionSnapshot)) :
    EngineProgram (Result TransitionSnapshot) := do
  let recorded ← record model transition phase
  match recorded.1 with
  | .error error => fail model recorded.2 error
  | .ok () => next recorded.2

/-- The error that `AcceptModeFrom` returns for a failed transition. -/
def failureError : Result TransitionSnapshot → Error
  | .error error => error
  | .ok transition => (transition.failure.getD {}).error

/-- The snapshot of a transition before it is registered. -/
def received (id : TransitionId) (baseline : SystemConfiguration) (domain : DomainId)
    (target : ModeId) : TransitionSnapshot where
  id := id
  domain := domain
  sourceMode := (baseline.committedModes.lookup domain).getD 0
  targetMode := target

def acceptModeFrom (id : TransitionId) (baseline : SystemConfiguration) (domain : DomainId)
    (target : ModeId) : EngineProgram (Result AcceptedTransition) := do
  let transition := received id baseline domain target
  match TransitionPlanner.plan model baseline domain target with
  | .error error => do
      EngineOp.call (.register transition none)
      let failed ← fail model transition error
      return .error (failureError failed)
  | .ok plan => do
      EngineOp.call (.register transition (some plan))
      let validated ← record model transition .validated
      match validated.1 with
      | .error error => do
          let failed ← fail model validated.2 error
          return .error (failureError failed)
      | .ok () => do
          let planned ← record model validated.2 .planned
          match planned.1 with
          | .error error => do
              let failed ← fail model planned.2 error
              return .error (failureError failed)
          | .ok () => return .ok ⟨id, plan⟩

/-- The evidence that the recovery accepts as a started unit. -/
def recoveryStateReached (definition : ExecutionUnitDefinition) (state : ApplicationState) : Bool :=
  if definition.readiness = .required then state == .ready
  else state == .starting || state == .ready

/-- The first loop of `ApplyRecoveryPlan`. -/
def recoveryStops : List ExecutionUnitId → TransitionFailure →
    EngineProgram (Result Unit × TransitionFailure)
  | [], failure => return (.ok (), failure)
  | application :: rest, failure => do
      match ← EngineOp.call (.stop application .recovery) with
      | .error error => return (.error error, { failure with application := some application })
      | .ok evidence =>
          if evidence.state = .stopped then do
            EngineOp.call (.eraseRunning application)
            recoveryStops rest { failure with recoveryStoppedApplications :=
              failure.recoveryStoppedApplications ++ [application] }
          else return (.error (makeError .backendError "recovery could not stop application"),
            { failure with application := some application, evidence := evidence })

/-- A failed recovery attempt stops the unit before the next attempt. -/
def recoveryCleanup (application : ExecutionUnitId)
    (retry : TransitionFailure → EngineProgram (Result Unit × TransitionFailure))
    (failure : TransitionFailure) : EngineProgram (Result Unit × TransitionFailure) := do
  match ← EngineOp.call (.stop application .recovery) with
  | .error error => return (.error error, { failure with application := some application })
  | .ok evidence =>
      if evidence.state = .stopped then retry failure
      else return (.error (makeError .backendError "recovery retry could not clean up application"),
        { failure with application := some application, evidence := evidence })

/-- The attempts of one unit in the second loop of `ApplyRecoveryPlan`. -/
def recoveryAttempts (definition : ExecutionUnitDefinition) (application : ExecutionUnitId) :
    Nat → TransitionFailure → EngineProgram (Result Unit × TransitionFailure)
  | 0, failure => return (.error (makeError .backendError "recovery could not start application"),
      { failure with application := some application })
  | remaining + 1, failure => do
      if ← EngineOp.call .expired then
        return (.error (makeError .deadlineExceeded "recovery deadline expired"), failure)
      else
        match ← EngineOp.call (.start application) with
        | .ok evidence =>
            if recoveryStateReached definition evidence.state then
              return (.ok (), { failure with evidence := evidence })
            else if remaining = 0 then
              recoveryAttempts definition application remaining { failure with evidence := evidence }
            else
              recoveryCleanup application (recoveryAttempts definition application remaining)
                { failure with evidence := evidence }
        | .error error =>
            if remaining = 0 then
              return (.error error, { failure with application := some application })
            else
              recoveryCleanup application (recoveryAttempts definition application remaining) failure

/-- The second loop of `ApplyRecoveryPlan`. -/
def recoveryStarts : List ExecutionUnitId → TransitionFailure →
    EngineProgram (Result Unit × TransitionFailure)
  | [], failure => return (.ok (), failure)
  | application :: rest, failure => do
      let definition := unitDefinition model application
      let attempted ← recoveryAttempts definition application definition.retry.maxAttempts failure
      match attempted.1 with
      | .error error => return (.error error, attempted.2)
      | .ok () => do
          EngineOp.call (.insertRunning application)
          recoveryStarts rest { attempted.2 with recoveryStartedApplications :=
            attempted.2.recoveryStartedApplications ++ [application] }

def applyRecoveryPlan (stop start : List ExecutionUnitId) (failure : TransitionFailure) :
    EngineProgram (Result Unit × TransitionFailure) := do
  let stopped ← recoveryStops stop failure
  match stopped.1 with
  | .error error => return (.error error, stopped.2)
  | .ok () => recoveryStarts model start stopped.2

/-- The recovery reads the configuration, plans, and applies its plan. -/
def recoverDomain (domain : DomainDefinition) (failure : TransitionFailure) :
    EngineProgram (Result Unit × TransitionFailure) := do
  match domain.recovery.action with
  | .enterFallbackMode => do
      let configuration ← EngineOp.call .readConfiguration
      match TransitionPlanner.reconcile model configuration domain.id domain.recovery.fallbackMode with
      | .error error => return (.error error, failure)
      | .ok plan => do
          let applied ← applyRecoveryPlan model plan.stop plan.start failure
          match applied.1 with
          | .error error => return (.error error, applied.2)
          | .ok () => do
              EngineOp.call (.commit domain.id domain.recovery.fallbackMode)
              return (.ok (), { applied.2 with recoveredMode := some domain.recovery.fallbackMode })
  | .stopDomain => do
      let configuration ← EngineOp.call .readConfiguration
      match TransitionPlanner.stopDomainUnits model configuration domain.id with
      | .error error => return (.error error, failure)
      | .ok stopped => applyRecoveryPlan model stopped [] failure
  | .requestSystemRecovery => do
      let requested ← EngineOp.call .requestSystemRecovery
      return (requested, failure)
  | _ => return (.error (makeError .internalError "validated recovery policy is invalid"), failure)

def recover (error : Error) (application : ApplicationId)
    (evidence : BackendEvidence) : EngineProgram (Result TransitionSnapshot) := do
  let failure : TransitionFailure := { error, application := some application, evidence }
  match model.findDomain transition.domain with
  | none => fail model { transition with failure := some failure } error (some application) evidence
  | some domain =>
      if domain.recovery.action = .holdObservedConfiguration then
        fail model { transition with failure := some failure } error (some application) evidence
      else do
        let attempted := { failure with
          recoveryAction := domain.recovery.action, recoveryAttempted := true }
        let recorded ← record model { transition with failure := some attempted } .recovering
        match recorded.1 with
        | .error error => fail model recorded.2 error
        | .ok () => do
            let recovered ← recoverDomain model domain attempted
            match recovered.1 with
            | .error error => do
                let failed := { recovered.2 with recoveryError := some error }
                let final ← record model { recorded.2 with failure := some failed } .recoveryFailed
                match final.1 with
                | .ok () => return .ok final.2
                | .error error => return .error error
            | .ok () => do
                let done := { recovered.2 with recoverySucceeded := true }
                let final ← record model { recorded.2 with failure := some done } .failed
                match final.1 with
                | .ok () => return .ok final.2
                | .error error => return .error error

def cancelledError : Error := makeError .cancelled "transition was cancelled"

/-- The stop loop of `Execute`, followed by the rest of the function. -/
def stopUnits (transition : TransitionSnapshot) (next : EngineProgram (Result TransitionSnapshot)) :
    List ExecutionUnitId → EngineProgram (Result TransitionSnapshot)
  | [] => next
  | application :: rest => do
      if ← EngineOp.call (.isCancelled transition.id) then
        fail model transition cancelledError
      else
        match ← EngineOp.call (.stop application .modeChange) with
        | .error error => recover model transition error application {}
        | .ok evidence =>
            if evidence.state = .stopped then do
              EngineOp.call (.eraseRunning application)
              stopUnits transition next rest
            else
              recover model transition
                (makeError .backendError "application did not stop cleanly") application evidence

/-- The evidence that `Execute` accepts as a started unit. -/
def requiredStateReached (definition : ExecutionUnitDefinition) (state : ApplicationState) : Bool :=
  if definition.readiness ≠ .processStarted then state == .ready
  else state == .starting || state == .ready

/-- A failed attempt stops the unit unless it was the last attempt. -/
def startCleanup (application : ExecutionUnitId) (last : Bool)
    (retry : Error → BackendEvidence → EngineProgram (Except (Error × BackendEvidence) Unit))
    (lastError : Error) (lastEvidence : BackendEvidence) :
    EngineProgram (Except (Error × BackendEvidence) Unit) := do
  if last then return .error (lastError, lastEvidence)
  else
    match ← EngineOp.call (.stop application .restart) with
    | .error error => return .error (error, lastEvidence)
    | .ok evidence =>
        if evidence.state = .stopped then retry lastError lastEvidence
        else return .error (makeError .backendError "failed start attempt could not be cleaned up", evidence)

/-- The attempts of one unit in the start loop of `Execute`. -/
def startAttempts (definition : ExecutionUnitDefinition) (application : ExecutionUnitId) :
    Nat → Error → BackendEvidence → EngineProgram (Except (Error × BackendEvidence) Unit)
  | 0, lastError, lastEvidence => return .error (lastError, lastEvidence)
  | remaining + 1, _, lastEvidence => do
      if ← EngineOp.call .expired then
        return .error (makeError .deadlineExceeded "transition deadline expired during retry", lastEvidence)
      else
        match ← EngineOp.call (.start application) with
        | .ok evidence =>
            if requiredStateReached definition evidence.state then return .ok ()
            else
              startCleanup application (remaining == 0)
                (startAttempts definition application remaining)
                (makeError .backendError "application did not reach its required state") evidence
        | .error error =>
            startCleanup application (remaining == 0) (startAttempts definition application remaining)
              error lastEvidence

/-- The start loop of `Execute`, followed by the rest of the function. -/
def startUnits (transition : TransitionSnapshot) (next : EngineProgram (Result TransitionSnapshot)) :
    List ExecutionUnitId → EngineProgram (Result TransitionSnapshot)
  | [] => next
  | application :: rest => do
      if ← EngineOp.call (.isCancelled transition.id) then
        fail model transition cancelledError
      else
        let definition := unitDefinition model application
        let attempted ← startAttempts definition application definition.retry.maxAttempts
          (makeError .backendError "application did not reach its required state") {}
        match attempted with
        | .error last => recover model transition last.1 application last.2
        | .ok () => do
            EngineOp.call (.insertRunning application)
            startUnits transition next rest

/-- The end of `Execute` records, commits and records again. -/
def commitTarget : EngineProgram (Result TransitionSnapshot) :=
  recordOrFail model transition .committing fun transition => do
    EngineOp.call (.commit transition.domain transition.targetMode)
    recordOrFail model transition .succeeded fun transition => return .ok transition

/-- The phases that `Execute` records before it starts units. -/
def recordStarting (start : List ExecutionUnitId)
    (next : TransitionSnapshot → EngineProgram (Result TransitionSnapshot)) :
    EngineProgram (Result TransitionSnapshot) :=
  if start.isEmpty then next transition
  else recordOrFail model transition .starting fun transition =>
    if start.any fun unit => (unitDefinition model unit).readiness != .processStarted then
      recordOrFail model transition .awaitingReadiness next
    else next transition

/-- The start loop and the commit follow the stop loop. -/
def startAndCommit (plan : TransitionPlan) :
    EngineProgram (Result TransitionSnapshot) :=
  recordStarting model transition plan.start fun transition =>
    startUnits model transition (commitTarget model transition) plan.start

/-- The units are stopped and started after the plan has been confirmed. -/
def executePlan (plan : TransitionPlan) :
    EngineProgram (Result TransitionSnapshot) :=
  if plan.stop.isEmpty then startAndCommit model transition plan
  else recordOrFail model transition .stopping fun transition =>
    stopUnits model transition (startAndCommit model transition plan) plan.stop

/-- The part of `Execute` that holds the scheduler lease. -/
def executeLeased (plan : TransitionPlan) :
    EngineProgram (Result TransitionSnapshot) := do
  match ← EngineOp.call (.replan transition.domain transition.targetMode) with
  | .error error => fail model transition error
  | .ok replanned =>
      if replanned.start ≠ plan.start ∨ replanned.stop ≠ plan.stop then
        fail model transition (makeError .superseded "system configuration changed while transition was waiting")
      else executePlan model transition plan

/-- The resources that `Execute` requests for a plan. -/
def planResources (plan : TransitionPlan) : TransitionResources where
  domains := plan.guardedDomains
  units := plan.stop ++ plan.start
  exclusiveResources := plan.affectedResources

def acquire (owner : TransitionId) (resources : TransitionResources) :
    EngineProgram (Result Unit) := do
  match SchedulerState.checkRequest owner resources with
  | .error error => return .error error
  | .ok sorted =>
      match ← EngineOp.call (.enter owner sorted) with
      | .error error => return .error error
      | .ok true => return .ok ()
      | .ok false => EngineOp.call (.wake owner sorted)

def execute (accepted : AcceptedTransition) : EngineProgram (Result TransitionSnapshot) := do
  match ← EngineOp.call (.getTransition accepted.id) with
  | .error error => return .error error
  | .ok transition => do
      let lease ← acquire transition.id (planResources accepted.plan)
      match lease with
      | .error error => fail model transition error
      | .ok () => do
          let result ← executeLeased model transition accepted.plan
          EngineOp.call (.release transition.id)
          return result

/-- A request accepts its transition and then executes it. -/
def requestModeFrom (id : TransitionId) (baseline : SystemConfiguration) (domain : DomainId)
    (target : ModeId) : EngineProgram (Result TransitionSnapshot) := do
  match ← acceptModeFrom model id baseline domain target with
  | .error error => return .error error
  | .ok accepted => execute model accepted

/-- A cancellation sets the flag of a transition that has not passed its last phase. -/
def cancel (transition : TransitionId) : Result EngineState :=
  match state.cancellation.lookup transition, state.transitions.lookup transition with
  | some _, some found =>
      if found.phase = .committing ∨ found.phase.isTerminal then
        .error (makeError .invalidTransition "transition is no longer at a cancellation point")
      else .ok { state with cancellation := state.cancellation.insert transition true }
  | _, _ => .error (makeError .notFound "transition is not known")

/-- Callers request modes and cancel transitions at any time. -/
inductive EngineEvent where
  | request (baseline : SystemConfiguration) (domain : DomainId) (target : ModeId)
  | cancel (transition : TransitionId)

/-- An accepted request takes the next transition identifier and starts a thread. -/
def occur : EngineEvent → EngineState →
    Option (EngineState × Option (EngineProgram (Result TransitionSnapshot)))
  | .request baseline domain target, state =>
      some ({ state with nextTransition := state.nextTransition + 1 },
        some (requestModeFrom model state.nextTransition baseline domain target))
  | .cancel transition, state =>
      match cancel state transition with
      | .ok cancelled => some (cancelled, none)
      | .error _ => some (state, none)

abbrev EnginePool := Pool EngineOp EngineOp.Reply (Result TransitionSnapshot) EngineState

abbrev EngineChoice := Choice EngineInput EngineEvent

/-- The engine machine interleaves any number of requests. -/
def machine : Machine EngineOp EngineOp.Reply (Result TransitionSnapshot) EngineState EngineInput
    EngineEvent := ⟨perform model, occur model⟩

/-- A fresh engine starts from its initial configuration with an empty journal. -/
def created (configuration : SystemConfiguration) : EnginePool := ⟨{ configuration }, []⟩

/-- The input of an environment in which nothing fails. -/
def ordinaryInput : EngineOp → EngineInput
  | .append _ => .journal (.ok ())
  | .stop _ _ => .backend (.ok { state := .stopped })
  | .start _ => .backend (.ok { state := .ready })
  | .expired | .wake _ _ => .clock false
  | .requestSystemRecovery => .system (.ok ())
  | _ => .proceed

/-- The input lets the operation succeed. Backends report stopped and ready units. -/
def serves : EngineInput → EngineOp → Bool
  | .proceed, _ => true
  | .journal (.ok ()), _ => true
  | .backend (.ok evidence), .stop _ _ => evidence.state == .stopped
  | .backend (.ok evidence), .start _ => evidence.state == .ready
  | .clock expired, _ => !expired
  | .system (.ok ()), _ => true
  | _, _ => false

/-- Nothing fails, nothing expires and nobody cancels a transition. -/
def isFavourable (pool : EnginePool) : EngineChoice → Bool
  | .thread index input => (pool.pending index).all (serves input)
  | .event (.request _ _ _) => true
  | .event (.cancel _) => false

/-- This scheduler moves one thread in such an environment. -/
def advance (index : Nat) (pool : EnginePool) : EngineChoice :=
  .thread index ((pool.pending index).elim .proceed ordinaryInput)

/-- This scheduler requests a mode from the current configuration. -/
def requestMode (domain : DomainId) (target : ModeId) (pool : EnginePool) : EngineChoice :=
  .event (.request pool.shared.configuration domain target)

end ExecutionEngine

end OpenVehicle.Exec
