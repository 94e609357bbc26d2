/-
This file translates the coordinator service over the engine. A request holds the mutex of the
service until its transition is accepted or rejected. A worker takes the mutex twice: to take a
transition from the queue, and to report that it has executed it.
-/

import OpenVehicle.Concurrency.System
import OpenVehicle.Exec.Engine

namespace OpenVehicle.Exec.Coordinator

open Concurrency FiniteMap ExecutionEngine

inductive EventKind where
  | transitionChanged | configurationChanged | recoveryChanged
  deriving DecidableEq

structure Event where
  kind : EventKind
  revision : Nat
  transition : TransitionId
  domain : DomainId
  deriving DecidableEq

/-- An event together with the engine that it tells about. -/
structure Announcement where
  event : Event
  engine : EnginePool

/-- The points of a request between which the engine may move. -/
inductive RequestStage where
  | superseding (domain : DomainId) (mode : ModeId)
  | checked (domain : DomainId) (mode : ModeId) (queued : Bool)
  | accepting (index : Nat) (domain : DomainId) (mode : ModeId)
  deriving DecidableEq

/-- The points of a worker between which the engine may move. -/
inductive JobStage where
  | taken
  | executing (before : Option ModeId)
  | executed (before after : Option ModeId)
  deriving DecidableEq

structure Job where
  transition : AcceptedTransition
  stage : JobStage
  deriving DecidableEq

/-- The members of the service. The last three fields only record what has happened. -/
structure State where
  pool : EnginePool
  projected : SystemConfiguration
  queue : List AcceptedTransition := []
  activeDomains : Map DomainId TransitionId := ∅
  revision : Nat := 1
  request : Option RequestStage := none
  jobs : List Job := []
  idle : Nat
  accepted : List AcceptedTransition := []
  finished : List TransitionId := []
  emitted : List Announcement := []

/-- The steps of the requests and of the workers, and the cancellations from outside. -/
inductive Action where
  | request (domain : DomainId) (mode : ModeId)
  | refresh
  | accept
  | engine (index : Nat) (input : EngineInput)
  | enqueue
  | reject
  | take
  | begin (transition : TransitionId)
  | complete (transition : TransitionId)
  | finish (transition : TransitionId)
  | cancel (transition : TransitionId)

variable (model : ValidatedModel) (capacity : Nat)

/-- The policy of the domain decides about a request while another transition is active. -/
def beginRequest (domain : DomainId) (mode : ModeId) (state : State) : Option State :=
  match state.request with
  | some _ => none
  | none =>
      match model.findDomain domain with
      | none => some state
      | some definition =>
          match state.activeDomains.lookup domain with
          | none => some { state with request := some (.checked domain mode false) }
          | some active =>
              match definition.replacement with
              | .rejectWhileBusy => some state
              | .queue => some { state with request := some (.checked domain mode true) }
              | .supersedeIfSafe =>
                  match cancel state.pool.shared active with
                  | .error _ => some state
                  | .ok shared => some { state with
                      pool := ⟨shared, state.pool.threads⟩
                      request := some (.superseding domain mode) }

variable (state : State)

/-- A superseded transition makes the engine the source of the projected configuration. -/
def refresh : Option State :=
  match state.request with
  | some (.superseding domain mode) => some { state with
      projected := state.pool.shared.configuration
      request := some (.checked domain mode false) }
  | _ => none

/-- A queued request is planned from the projected configuration. -/
def acceptMode : Option State :=
  match state.request with
  | some (.checked domain mode queued) =>
      if state.queue.length ≥ capacity then some { state with request := none }
      else
        let baseline := if queued then state.projected else state.pool.shared.configuration
        ((machine model).fire state.pool (.event (.request baseline domain mode))).map fun pool =>
          { state with pool := pool, request := some (.accepting state.pool.threads.length domain mode) }
  | _ => none

/-- A thread has been accepted when it is about to execute. -/
def isAccepted (pool : EnginePool) (index : Nat) : Bool :=
  match pool.pending index with
  | some (.getTransition _) => true
  | _ => false

/-- The threads that may move are the one that is being accepted and those of the workers. -/
def mayMove (index : Nat) : Bool :=
  (match state.request with
    | some (.accepting other _ _) => index == other && !isAccepted state.pool index
    | _ => false) ||
  state.jobs.any fun job => job.transition.id == index + 1 &&
    match job.stage with
    | .executing _ => true
    | _ => false

def moveEngine (index : Nat) (input : EngineInput) (state : State) : Option State :=
  if mayMove state index then
    ((machine model).fire state.pool (.thread index input)).map fun pool => { state with pool := pool }
  else none

/-- The configuration that the accepted plans lead to. -/
def project (domain : DomainId) (mode : ModeId) (plan : TransitionPlan)
    (configuration : SystemConfiguration) : SystemConfiguration :=
  { configuration with
    committedModes := configuration.committedModes.insert domain mode
    runningUnits := plan.start.foldl (fun running unit => insert unit running)
      (plan.stop.foldl Finset.erase configuration.runningUnits) }

/-- The end of a request that has been accepted. -/
def enqueue : Option State :=
  match state.request with
  | some (.accepting index domain mode) =>
      if isAccepted state.pool index then
        (state.pool.shared.plans.lookup (index + 1)).map fun plan =>
          let transition : AcceptedTransition := ⟨index + 1, plan⟩
          { state with
            projected := project domain mode plan state.projected
            queue := state.queue ++ [transition]
            activeDomains := state.activeDomains.insert domain (index + 1)
            revision := state.revision + 1
            request := none
            accepted := state.accepted ++ [transition]
            emitted := state.emitted ++
              [⟨⟨.transitionChanged, state.revision + 1, index + 1, domain⟩, state.pool⟩] }
      else none
  | _ => none

/-- The end of a request that has been rejected. -/
def reject : Option State :=
  match state.request with
  | some (.accepting index _ _) =>
      if (state.pool.pending index).isNone then some { state with request := none } else none
  | _ => none

/-- An idle worker takes the first transition of the queue. -/
def take : Option State :=
  match state.request, state.idle, state.queue with
  | none, idle + 1, transition :: rest => some { state with
      queue := rest
      jobs := state.jobs ++ [⟨transition, .taken⟩]
      idle := idle }
  | _, _, _ => none

variable (id : TransitionId)

/-- The stage of one job changes. -/
def setStage (stage : JobStage) (jobs : List Job) : List Job :=
  jobs.map fun job => if job.transition.id = id then { job with stage := stage } else job

def findJob (state : State) : Option Job := state.jobs.find? fun job => job.transition.id == id

def committedMode (transition : AcceptedTransition) : Option ModeId :=
  state.pool.shared.configuration.committedModes.lookup transition.plan.domain

/-- A worker reads the committed mode before it executes its transition. -/
def beginJob (state : State) : Option State :=
  match findJob id state with
  | some ⟨transition, .taken⟩ => some { state with
      jobs := setStage id (.executing (committedMode state transition)) state.jobs }
  | _ => none

/-- A worker reads the committed mode after the execution has returned. -/
def completeJob (state : State) : Option State :=
  match findJob id state with
  | some ⟨transition, .executing before⟩ =>
      if (state.pool.pending (id - 1)).isNone then some { state with
        jobs := setStage id (.executed before (committedMode state transition)) state.jobs }
      else none
  | _ => none

/-- The result of the execution of a transition. -/
def completed (pool : EnginePool) (id : TransitionId) : Option (Result TransitionSnapshot) :=
  match pool.threads[id - 1]? with
  | some (.done result) => some result
  | _ => none

/-- The events that a worker emits under one revision. -/
def finishEvents (revision : Nat) (transition : AcceptedTransition) (before after : Option ModeId)
    (result : Result TransitionSnapshot) : List Event :=
  let event (kind : EventKind) : Event := ⟨kind, revision, transition.id, transition.plan.domain⟩
  let configuration : Bool := match result with
    | .ok snapshot => snapshot.phase == .succeeded || before != after
    | .error _ => false
  let recovery : Bool := match result, model.findDomain transition.plan.domain with
    | .ok snapshot, some definition =>
        snapshot.failure.isSome && definition.recovery.action != .holdObservedConfiguration
    | _, _ => false
  [event .transitionChanged] ++ (if configuration then [event .configurationChanged] else []) ++
    (if recovery then [event .recoveryChanged] else [])

/-- The domain is no longer active if the transition was its last one. -/
def release (domain : DomainId) (id : TransitionId) (active : Map DomainId TransitionId) :
    Map DomainId TransitionId :=
  if active.lookup domain = some id then active.erase domain else active

/-- A worker reports that it has executed its transition. -/
def finishJob (state : State) : Option State :=
  match state.request, findJob id state, completed state.pool id with
  | none, some ⟨transition, .executed before after⟩, some result =>
      let active := release transition.plan.domain id state.activeDomains
      some { state with
        activeDomains := active
        projected := if state.queue.isEmpty && active.keys.isEmpty then state.pool.shared.configuration
          else state.projected
        revision := state.revision + 1
        jobs := state.jobs.filter fun job => job.transition.id != id
        idle := state.idle + 1
        finished := state.finished ++ [id]
        emitted := state.emitted ++ (finishEvents model (state.revision + 1) transition before after
          result).map fun event => ⟨event, state.pool⟩ }
  | _, _, _ => none

def cancelTransition (state : State) : Option State :=
  match cancel state.pool.shared id with
  | .error _ => some state
  | .ok shared => some { state with pool := ⟨shared, state.pool.threads⟩ }

def perform : Action → State → Option State
  | .request domain mode => beginRequest model domain mode
  | .refresh => refresh
  | .accept => acceptMode model capacity
  | .engine index input => moveEngine model index input
  | .enqueue => enqueue
  | .reject => reject
  | .take => take
  | .begin id => beginJob id
  | .complete id => completeJob id
  | .finish id => finishJob model id
  | .cancel id => cancelTransition id

/-- The service as a system of atomic steps. -/
def service : System State Action := ⟨perform model capacity⟩

/-- The service starts over a fresh engine, and its workers wait. -/
def started (configuration : SystemConfiguration) (workers : Nat) : State where
  pool := created configuration
  projected := configuration
  idle := workers

end OpenVehicle.Exec.Coordinator
