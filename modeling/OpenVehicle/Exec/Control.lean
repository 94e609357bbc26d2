/-
This file describes the control flow of one transition thread.
A work tree contains what the thread may still do, without the data that decides nothing.
Every later invariant is a property of these trees.
-/

import OpenVehicle.Exec.Engine

namespace OpenVehicle.Exec

open Concurrency FiniteMap

/-- The tree of what a thread may still do. -/
inductive Work where
  | finished
  | void
  | registering (next : Work)
  | recording (candidates : TransitionSnapshot → Prop) (recorded failed : Work)
  | appending (event : JournalEvent) (recorded failed : Work)
  | storing (transition : TransitionSnapshot) (next : Work)
  | opening
  | entering
  | waiting
  | replanning
  | polling (next cancelled : Work)
  | stopping (unit : ExecutionUnitId) (stopped other : Work)
  | erasing (unit : ExecutionUnitId) (next : Work)
  | attempting (unit : ExecutionUnitId) (started other : Work)
  | inserting (unit : ExecutionUnitId) (next : Work)
  | committing (mode : ModeId) (next : Work)
  | reading (domain : DomainDefinition)
  | requesting (accepted refused : Work)
  | releasing

/-- A thread belongs to one transition and may hold its lease. -/
structure Position where
  transition : TransitionSnapshot
  plan : Option TransitionPlan
  registered : Bool
  leased : Bool
  work : Work

namespace Position

variable (position : Position)

def go (work : Work) : Position := { position with work := work }

@[simp] theorem go_transition (work : Work) : (position.go work).transition = position.transition := rfl

@[simp] theorem go_plan (work : Work) : (position.go work).plan = position.plan := rfl

@[simp] theorem go_leased (work : Work) : (position.go work).leased = position.leased := rfl

end Position

theorem TransitionPhase.ne_succeeded {phase : TransitionPhase} (live : phase.isTerminal = false) :
    phase ≠ .succeeded := by
  rintro rfl
  cases live

theorem terminalPhase_ne_succeeded (code : ErrorCode) : ExecutionEngine.terminalPhase code ≠ .succeeded := by
  cases code <;> decide

theorem terminalPhase_isTerminal (code : ErrorCode) : (ExecutionEngine.terminalPhase code).isTerminal = true := by
  cases code <;> rfl

/-- Two snapshots describe the same transition. -/
structure Kin (transition snapshot : TransitionSnapshot) : Prop where
  id : snapshot.id = transition.id
  domain : snapshot.domain = transition.domain
  source : snapshot.sourceMode = transition.sourceMode
  target : snapshot.targetMode = transition.targetMode

theorem Kin.trans {first second third : TransitionSnapshot} (one : Kin first second)
    (two : Kin second third) : Kin first third :=
  ⟨two.id.trans one.id, two.domain.trans one.domain, two.source.trans one.source, two.target.trans one.target⟩

theorem Kin.symm {first second : TransitionSnapshot} (kin : Kin first second) : Kin second first :=
  ⟨kin.id.symm, kin.domain.symm, kin.source.symm, kin.target.symm⟩

namespace Work

/-- A failure reports what a recovery has done. -/
structure Reports (failure : TransitionFailure) (stopped started : List ExecutionUnitId)
    (mode : Option ModeId) : Prop where
  stopped : failure.recoveryStoppedApplications = stopped
  started : failure.recoveryStartedApplications = started
  mode : failure.recoveredMode = mode

variable (transition : TransitionSnapshot)

/-- The snapshots with a failure that reports a recovery. -/
def Ended (phase : TransitionPhase)
    (stopped started : List ExecutionUnitId) (mode : Option ModeId) (snapshot : TransitionSnapshot) :
    Prop :=
  ∃ failure, Reports failure stopped started mode ∧
    snapshot = { transition with phase := phase, failure := some failure }

/-- A leased thread releases its lease when it returns. -/
def exit : Work := .releasing

/-- The work of `Fail`. -/
def failing (after : Work) : Work :=
  .recording (fun snapshot => ∃ code, Ended transition (ExecutionEngine.terminalPhase code) [] [] none
    snapshot) after after

/-- A phase is recorded, or the transition fails. -/
def recordPhase (phase : TransitionPhase) (next after : Work) : Work :=
  .recording (fun snapshot => snapshot = { transition with phase := phase }) next
    (failing transition after)

/-- The end of a recovery. -/
def repaired (phase : TransitionPhase)
    (stopped started : List ExecutionUnitId) (mode : Option ModeId) : Work :=
  .recording (Ended transition phase stopped started mode) exit exit

/-- The second loop of a recovery plan. -/
def repairStarts (transition : TransitionSnapshot) (mode : Option ModeId)
    (stopped : List ExecutionUnitId) : List ExecutionUnitId → List ExecutionUnitId → Work
  | [], started =>
      match mode with
      | some mode => .committing mode (repaired transition .failed stopped started (some mode))
      | none => repaired transition .failed stopped started none
  | unit :: rest, started =>
      .attempting unit
        (.inserting unit (repairStarts transition mode stopped rest (started ++ [unit])))
        (repaired transition .recoveryFailed stopped started none)

/-- The first loop of a recovery plan. -/
def repairStops (transition : TransitionSnapshot) (mode : Option ModeId)
    (starts : List ExecutionUnitId) : List ExecutionUnitId → List ExecutionUnitId → Work
  | [], stopped => repairStarts transition mode stopped starts []
  | unit :: rest, stopped =>
      .stopping unit (.erasing unit (repairStops transition mode starts rest (stopped ++ [unit])))
        (repaired transition .recoveryFailed stopped [] none)

variable (model : ValidatedModel)

/-- The recovery plan depends on the configuration that the recovery reads. -/
def repair (transition : TransitionSnapshot) (domain : DomainDefinition)
    (configuration : SystemConfiguration) : Work :=
  match domain.recovery.action with
  | .enterFallbackMode =>
      match TransitionPlanner.reconcile model configuration domain.id domain.recovery.fallbackMode with
      | .error _ => repaired transition .recoveryFailed [] [] none
      | .ok plan => repairStops transition (some domain.recovery.fallbackMode) plan.start plan.stop []
  | _ =>
      match TransitionPlanner.stopDomainUnits model configuration domain.id with
      | .error _ => repaired transition .recoveryFailed [] [] none
      | .ok stopped => repairStops transition none [] stopped []

/-- The recovery action of the domain. -/
def recovery (domain : DomainDefinition) : Work :=
  match domain.recovery.action with
  | .enterFallbackMode | .stopDomain => .reading domain
  | .requestSystemRecovery => .requesting (repaired transition .failed [] [] none)
      (repaired transition .recoveryFailed [] [] none)
  | _ => repaired transition .recoveryFailed [] [] none

/-- The work of `Recover`. -/
def recovering (transition : TransitionSnapshot) : Work :=
  match model.findDomain transition.domain with
  | none => failing transition exit
  | some domain =>
      if domain.recovery.action = .holdObservedConfiguration then failing transition exit
      else .recording (Ended transition .recovering [] [] none) (recovery transition domain)
        (failing transition exit)

/-- The commit stands between two recorded phases. -/
def commit : Work :=
  recordPhase transition .committing (.committing transition.targetMode
    (recordPhase transition .succeeded exit exit)) exit

/-- The start loop of `Execute`. -/
def starts (transition : TransitionSnapshot) : List ExecutionUnitId → Work
  | [] => commit transition
  | unit :: rest =>
      .polling (.attempting unit (.inserting unit (starts transition rest))
        (recovering model transition)) (failing transition exit)

/-- The phases before the start loop. -/
def beginStarts (transition : TransitionSnapshot) (start : List ExecutionUnitId) : Work :=
  if start.isEmpty then starts model transition start
  else recordPhase transition .starting
    (if start.any fun unit =>
        (ExecutionEngine.unitDefinition model unit).readiness != .processStarted then
      recordPhase transition .awaitingReadiness (starts model transition start) exit
    else starts model transition start) exit

/-- The stop loop of `Execute`. -/
def stops (transition : TransitionSnapshot) (start : List ExecutionUnitId) :
    List ExecutionUnitId → Work
  | [] => beginStarts model transition start
  | unit :: rest =>
      .polling (.stopping unit (.erasing unit (stops transition start rest))
        (recovering model transition)) (failing transition exit)

/-- A confirmed plan is executed. -/
def execute (transition : TransitionSnapshot) (plan : TransitionPlan) : Work :=
  if plan.stop.isEmpty then beginStarts model transition plan.start
  else recordPhase transition .stopping (stops model transition plan.start plan.stop) exit

/-- The second plan confirms the accepted plan or the transition fails. -/
def confirm (transition : TransitionSnapshot) (plan : TransitionPlan) :
    Result TransitionPlan → Work
  | .error _ => failing transition exit
  | .ok replanned =>
      if replanned.start ≠ plan.start ∨ replanned.stop ≠ plan.stop then failing transition exit
      else execute model transition plan

/-- The resource request is checked before the scheduler is entered. -/
def request (plan : TransitionPlan) : Work :=
  match SchedulerState.checkRequest transition.id (ExecutionEngine.planResources plan) with
  | .error _ => failing transition .finished
  | .ok _ => .entering

/-- The work of a request before its transition is registered. -/
def accept : Option TransitionPlan → Work
  | none => .registering (failing transition .finished)
  | some _ => .registering (recordPhase transition .validated
      (recordPhase transition .planned .opening .finished) .finished)

end Work

/-- The operations of the attempts to start one unit. -/
def AttemptOp (unit : ExecutionUnitId) (op : EngineOp) : Prop :=
  op = .expired ∨ op = .start unit ∨ ∃ reason, op = .stop unit reason

/-- The evidence of a stopped unit. -/
def hasStopped : Result BackendEvidence → Bool
  | .ok evidence => evidence.state == .stopped
  | .error _ => false

/-- The replies of an environment in which nothing fails, expires or is cancelled. -/
def Favourable : (op : EngineOp) → op.Reply → Prop
  | .append _, reply => reply = .ok ()
  | .enter _ _, reply => ∃ granted, reply = .ok granted
  | .wake _ _, reply => reply = .ok ()
  | .isCancelled _, reply => reply = false
  | .stop _ _, reply => hasStopped reply = true
  | .start _, reply => ∃ evidence, reply = .ok evidence ∧ evidence.state = .ready
  | .expired, reply => reply = false
  | _, _ => True

/-- The moves of a thread that keep its lease. -/
inductive Moves (model : ValidatedModel) (transition : TransitionSnapshot)
    (plan : Option TransitionPlan) : Work → (op : EngineOp) → op.Reply → Work → Prop
  | void (op : EngineOp) (reply : op.Reply) : Moves model transition plan .void op reply .void
  | load {candidates : TransitionSnapshot → Prop} {recorded failed : Work}
      (snapshot : TransitionSnapshot) (found : Option TransitionPlan)
      (candidate : candidates snapshot) (kin : Kin transition snapshot) :
      Moves model transition plan (.recording candidates recorded failed) (.loadPlan snapshot.id)
        found (.appending ⟨snapshot, model.value.generation, found⟩ recorded failed)
  | append (event : JournalEvent) (recorded failed : Work) :
      Moves model transition plan (.appending event recorded failed) (.append event) (.ok ())
        (.storing event.transition recorded)
  | appendFailed (event : JournalEvent) (recorded failed : Work) (error : Error) :
      Moves model transition plan (.appending event recorded failed) (.append event) (.error error)
        failed
  | store (snapshot : TransitionSnapshot) (next : Work) (kin : Kin transition snapshot) :
      Moves model transition plan (.storing snapshot next) (.store snapshot) () next
  | opened (accepted : TransitionPlan) (planned : plan = some accepted) :
      Moves model transition plan .opening (.getTransition transition.id)
        (.ok { transition with phase := .planned }) (Work.request transition accepted)
  | stray (reply : Result TransitionSnapshot)
      (other : reply ≠ .ok { transition with phase := .planned }) :
      Moves model transition plan .opening (.getTransition transition.id) reply .void
  | enterBlocked (resources : TransitionResources) :
      Moves model transition plan .entering (.enter transition.id resources) (.ok false) .waiting
  | enterRefused (resources : TransitionResources) (error : Error) :
      Moves model transition plan .entering (.enter transition.id resources) (.error error)
        (Work.failing transition .finished)
  | wakeRefused (resources : TransitionResources) (error : Error) :
      Moves model transition plan .waiting (.wake transition.id resources) (.error error)
        (Work.failing transition .finished)
  | replan (accepted : TransitionPlan) (planned : plan = some accepted)
      (reply : Result TransitionPlan) :
      Moves model transition plan .replanning (.replan transition.domain transition.targetMode) reply
        (Work.confirm model transition accepted reply)
  | poll (next : Work) (reply : Bool) :
      Moves model transition plan (.polling next (Work.failing transition Work.exit))
        (.isCancelled transition.id) reply (if reply then Work.failing transition Work.exit else next)
  | stop (unit : ExecutionUnitId) (reason : StopReason) (stopped other : Work)
      (reply : Result BackendEvidence) :
      Moves model transition plan (.stopping unit stopped other) (.stop unit reason) reply
        (if hasStopped reply then stopped else other)
  | erase (unit : ExecutionUnitId) (next : Work) :
      Moves model transition plan (.erasing unit next) (.eraseRunning unit) () next
  | attempt {unit : ExecutionUnitId} {op : EngineOp} (started other : Work) (reply : op.Reply)
      (attempted : AttemptOp unit op) :
      Moves model transition plan (.attempting unit started other) op reply
        (.attempting unit started other)
  | attemptFailed {unit : ExecutionUnitId} {op : EngineOp} (started other : Work) (reply : op.Reply)
      (attempted : AttemptOp unit op) (refused : ¬ Favourable op reply) :
      Moves model transition plan (.attempting unit started other) op reply other
  | attemptStarted (unit : ExecutionUnitId) (started other : Work) (evidence : BackendEvidence) :
      Moves model transition plan (.attempting unit started other) (.start unit) (.ok evidence) started
  | insert (unit : ExecutionUnitId) (next : Work) :
      Moves model transition plan (.inserting unit next) (.insertRunning unit) () next
  | commit (domain : DomainId) (mode : ModeId) (next : Work) (same : domain = transition.domain) :
      Moves model transition plan (.committing mode next) (.commit domain mode) () next
  | read (domain : DomainDefinition) (configuration : SystemConfiguration) :
      Moves model transition plan (.reading domain) .readConfiguration configuration
        (Work.repair model transition domain configuration)
  | accepted (accepted refused : Work) :
      Moves model transition plan (.requesting accepted refused) .requestSystemRecovery (.ok ()) accepted
  | refused (accepted refused : Work) (error : Error) :
      Moves model transition plan (.requesting accepted refused) .requestSystemRecovery (.error error)
        refused

/-- The steps of a thread. Three of them change its lease or its registration. -/
inductive Rule (model : ValidatedModel) : Position → (op : EngineOp) → op.Reply → Position → Prop
  | move (position : Position) {work later : Work} {op : EngineOp} {reply : op.Reply}
      (moves : Moves model position.transition position.plan work op reply later) :
      Rule model (position.go work) op reply (position.go later)
  | register (transition : TransitionSnapshot) (plan : Option TransitionPlan) (leased : Bool)
      (next : Work) :
      Rule model ⟨transition, plan, false, leased, .registering next⟩ (.register transition plan) ()
        ⟨transition, plan, true, leased, next⟩
  | enterGranted (transition : TransitionSnapshot) (plan : TransitionPlan) (registered : Bool)
      (resources : TransitionResources) (checked : SchedulerState.checkRequest transition.id
        (ExecutionEngine.planResources plan) = .ok resources) :
      Rule model ⟨transition, some plan, registered, false, .entering⟩
        (.enter transition.id resources) (.ok true)
        ⟨transition, some plan, registered, true, .replanning⟩
  | wakeGranted (transition : TransitionSnapshot) (plan : TransitionPlan) (registered : Bool)
      (resources : TransitionResources) (checked : SchedulerState.checkRequest transition.id
        (ExecutionEngine.planResources plan) = .ok resources) :
      Rule model ⟨transition, some plan, registered, false, .waiting⟩
        (.wake transition.id resources) (.ok ())
        ⟨transition, some plan, registered, true, .replanning⟩
  | release (transition : TransitionSnapshot) (plan : Option TransitionPlan)
      (registered leased : Bool) :
      Rule model ⟨transition, plan, registered, leased, .releasing⟩ (.release transition.id) ()
        ⟨transition, plan, registered, false, .finished⟩

/-- A thread returns at the end of its work. -/
def Returned (position : Position) (_ : Result TransitionSnapshot) : Prop :=
  position.work = .finished ∨ position.work = .void

end OpenVehicle.Exec
