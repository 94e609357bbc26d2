/-
This file translates the waiting for a transition. A waiter reads the phase without the mutex under
which it blocks, and a notification reaches only the waiters that have blocked.
-/

import OpenVehicle.Exec.SnapshotRevision
import OpenVehicle.Exec.TerminalPhases

namespace OpenVehicle.Exec.Coordinator

open Concurrency FiniteMap ExecutionEngine TransitionPlanner

/-- The points of a waiter between which the others may move. -/
inductive WaitStage where
  | reading
  | locking
  | locked
  | blocked
  | notified
  | returned (result : Result TransitionSnapshot)

structure Waiter where
  transition : TransitionId
  deadline : Int
  stage : WaitStage

/-- The notifications of the requests and of the workers, which follow their critical sections. -/
inductive Notification where
  | accepted (transition : TransitionId)
  | completed (transition : TransitionId)
  deriving DecidableEq

/-- The time at which a worker has notified the waiters. -/
structure Issue where
  transition : TransitionId
  time : Int

/-- The service with the clock and the waiters. The last field only records what has happened. -/
structure WaitState where
  service : State
  now : Int
  waiters : List Waiter := []
  pending : List Notification := []
  issued : List Issue := []

/-- The steps of the service, of the clock, and of the waiters. -/
inductive WaitAction where
  | service (action : Action)
  | tick (elapsed : Nat)
  | wait (transition : TransitionId) (deadline : Int)
  | waiter (index : Nat)
  | notify (notification : Notification)

def WaitStage.isLocked : WaitStage → Bool
  | .locked => true
  | _ => false

def Notification.isCompletion : Notification → Bool
  | .completed _ => true
  | .accepted _ => false

variable (state : WaitState)

/-- No waiter holds the mutex of the service. -/
def unlocked : Bool := !state.waiters.any (·.stage.isLocked)

def mutexFree : Bool := state.service.request.isNone && unlocked state

/-- A worker is idle again when it has notified the waiters. -/
def enabled : Action → Bool
  | .request _ _ | .finish _ => unlocked state
  | .take => unlocked state && decide (state.pending.countP Notification.isCompletion < state.service.idle)
  | _ => true

/-- The notifications that a step of the service owes to the waiters. -/
def notifications (state : State) : Action → List Notification
  | .enqueue =>
      match state.request with
      | some (.accepting index _ _) => [.accepted (index + 1)]
      | _ => []
  | .finish id => [.completed id]
  | _ => []

def transitionState (observe : Bool) (engine : EngineState) (transition : TransitionId) :
    Result TransitionSnapshot :=
  if observe then
    match engine.transitions.lookup transition with
    | none => .error (makeError .notFound "transition is not known")
    | some found => .ok found
  else .error (makeError .permissionDenied "coordinator observation is not authorized")

/-- A waiter returns a terminal phase or an error, and it blocks otherwise. -/
def afterRead (result : Result TransitionSnapshot) : WaitStage :=
  match result with
  | .error error => .returned (.error error)
  | .ok snapshot => if snapshot.phase.isTerminal then .returned (.ok snapshot) else .locking

def waitExpired : Error := makeError .deadlineExceeded "transition wait deadline expired"

/-- The next stage of a waiter. A blocked one may also wake without a notification. -/
def nextStage (observe : Bool) (state : WaitState) (waiter : Waiter) : Option WaitStage :=
  match waiter.stage with
  | .reading => some (afterRead (transitionState observe state.service.pool.shared waiter.transition))
  | .locking => if mutexFree state then some .locked else none
  | .locked => some .blocked
  | .blocked | .notified =>
      -- The clock alone decides whether the wait has timed out.
      if mutexFree state then
        some (if waiter.deadline ≤ state.now then .returned (.error waitExpired) else .reading)
      else none
  | .returned _ => none

/-- A notification wakes the waiters that have blocked. -/
def Waiter.wake (waiter : Waiter) : Waiter :=
  match waiter.stage with
  | .blocked => { waiter with stage := .notified }
  | _ => waiter

def Notification.issue (now : Int) : Notification → List Issue
  | .completed id => [⟨id, now⟩]
  | .accepted _ => []

variable (model : ValidatedModel) (capacity : Nat) (observe : Bool)

def performWait : WaitAction → WaitState → Option WaitState
  | .service action, state =>
      if enabled state action then
        (perform model capacity action state.service).map fun service =>
          { state with
            service := service
            pending := state.pending ++ notifications state.service action }
      else none
  | .tick elapsed, state => some { state with now := state.now + elapsed }
  | .wait transition deadline, state =>
      if mutexFree state && state.service.accepted.any (·.id == transition) then
        some { state with waiters := state.waiters ++ [⟨transition, deadline, .reading⟩] }
      else none
  | .waiter index, state =>
      state.waiters[index]?.bind fun waiter => (nextStage observe state waiter).map fun stage =>
        { state with waiters := state.waiters.set index { waiter with stage := stage } }
  | .notify notification, state =>
      if notification ∈ state.pending then
        some { state with
          waiters := state.waiters.map Waiter.wake
          pending := state.pending.erase notification
          issued := state.issued ++ notification.issue state.now }
      else none

/-- The service and its waiters as a system of atomic steps. -/
def waiting : System WaitState WaitAction := ⟨performWait model capacity observe⟩

/-- Nobody waits when the service starts. -/
def unattended (configuration : SystemConfiguration) (workers : Nat) (now : Int) : WaitState where
  service := started configuration workers
  now := now

/-- The waiter has read the phase and has not blocked yet. -/
def WaitStage.isBetween : WaitStage → Bool
  | .locking | .locked => true
  | _ => false

def WaitStage.isNotified : WaitStage → Bool
  | .notified => true
  | _ => false

/-- The phase is terminal, and the worker has notified the waiters before the deadline. -/
def Owed (waiter : Waiter) : Prop :=
  Ended (state.service.pool.shared.transitions.lookup waiter.transition) ∧
    ∃ issue ∈ state.issued, issue.transition = waiter.transition ∧ issue.time < waiter.deadline

/-- A worker notifies no waiter of an ended transition between its read and its block, and a notified
waiter wakes before its deadline. -/
def Undisturbed : WaitAction → Prop
  | .notify (.completed id) => Ended (state.service.pool.shared.transitions.lookup id) →
      ∀ waiter ∈ state.waiters, waiter.transition = id → state.now < waiter.deadline →
        waiter.stage.isBetween = false
  | .waiter index => ∀ waiter, state.waiters[index]? = some waiter → Owed state waiter →
      waiter.stage.isNotified = true → state.now < waiter.deadline
  | _ => True

/-- The waiter has returned the snapshot, or it does so when it has the mutex and reads again. -/
inductive Served (observe : Bool) (state : WaitState) (waiter : Waiter) : Prop
  | returned (answered : waiter.stage = .returned (transitionState observe state.service.pool.shared waiter.transition))
  | reading (reads : waiter.stage = .reading) (answers : nextStage observe state waiter =
      some (.returned (transitionState observe state.service.pool.shared waiter.transition)))
  | notified (waits : waiter.stage = .notified) (wakes : mutexFree state = true →
      state.now < waiter.deadline → nextStage observe state waiter = some .reading)

variable {configuration : SystemConfiguration} {model : ValidatedModel} {id : TransitionId}

section Engine
variable {start pool : EnginePool}

/-- The engine shows the transition of one of its threads. -/
def Shows (pool : EnginePool) (id : TransitionId) : Prop :=
  ∃ index snapshot, id = index + 1 ∧ index < pool.threads.length ∧
    pool.shared.transitions.lookup (index + 1) = some snapshot

/-- The thread of a shown transition has returned. -/
def Executed (pool : EnginePool) (id : TransitionId) : Prop := Shows pool id ∧ pool.pending (id - 1) = none

theorem Shows.later (shows : Shows start id)
    (began : (machine model).Reaches (fun _ _ => True) (created configuration) start)
    (reached : (machine model).Reaches (fun _ _ => True) start pool) : Shows pool id := by
  obtain ⟨index, snapshot, own, inside, stored⟩ := shows
  obtain ⟨within, shown, found, _⟩ := shown_reaches began reached inside stored
  exact ⟨index, shown, own, within, found⟩

/-- The snapshot of a transition whose thread has returned does not change. -/
theorem Executed.later (executed : Executed start id)
    (began : (machine model).Reaches (fun _ _ => True) (created configuration) start)
    (reached : (machine model).Reaches (fun _ _ => True) start pool) :
    Executed pool id ∧ pool.shared.transitions.lookup id = start.shared.transitions.lookup id := by
  obtain ⟨⟨index, snapshot, rfl, inside, stored⟩, returned⟩ := executed
  obtain ⟨within, shown, found, _, kept⟩ := shown_reaches began reached inside stored
  obtain ⟨still, rfl⟩ := kept returned
  exact ⟨⟨⟨index, shown, rfl, within, found⟩, still⟩, found.trans stored.symm⟩

/-- A terminal phase stays. -/
theorem ended_later (ended : Ended (start.shared.transitions.lookup id))
    (began : (machine model).Reaches (fun _ _ => True) (created configuration) start)
    (reached : (machine model).Reaches (fun _ _ => True) start pool) :
    pool.shared.transitions.lookup id = start.shared.transitions.lookup id := by
  obtain ⟨snapshot, stored, terminal⟩ := ended
  rw [stored]
  exact terminal_reaches began reached stored terminal

end Engine

variable {capacity workers : Nat} {action : Action}

section Service
variable {state later : State} {allowed : State → Action → Prop}

/-- The accepted transitions are shown. -/
theorem accepted_shown (reached : (service model capacity).Reaches allowed (started configuration workers) state) :
    ∀ transition ∈ state.accepted, Shows state.pool transition.id := by
  induction reached with
  | refl => simp [started]
  | @step state later action before _ performed ih =>
      intro transition member
      obtain ⟨positions, tracked⟩ := (orderly_reached before).tracked
      have began : (machine model).Reaches (fun _ _ => True) (created configuration) state.pool :=
        pool_reaches (fun _ _ _ _ _ => trivial) before
      have step := step_of_perform performed
      have kept (listed : transition ∈ state.accepted) : Shows later.pool transition.id :=
        (ih transition listed).later began (pool_step step)
      cases step with
      | @enqueue index domain mode plan asked accepted planned =>
          rcases List.mem_append.mp member with old | fresh
          · exact kept old
          · obtain rfl := List.mem_singleton.mp fresh
            obtain ⟨inside, stored⟩ := stored_accepted tracked.sound accepted
            exact ⟨index, _, rfl, inside, stored⟩
      | _ => exact kept member

/-- Only a worker that reports its transition owes a completion. -/
theorem finish_of_mem_notifications (member : .completed id ∈ notifications state action) : action = .finish id := by
  unfold notifications at member
  split at member
  · split at member
    · cases List.mem_singleton.mp member
    · cases member
  · obtain rfl := Notification.completed.inj (List.mem_singleton.mp member)
    rfl
  · cases member

/-- A transition that a worker reports is executed. -/
theorem executed_finish (reached : (service model capacity).Reaches allowed (started configuration workers) state)
    (step : Step model capacity state (.finish id) later) : Executed later.pool id := by
  obtain ⟨positions, tracked⟩ := (orderly_reached reached).tracked
  cases step with
  | finish id free found returned =>
      obtain ⟨member, rfl⟩ := findJob_eq_some found
      exact ⟨accepted_shown reached _ (tracked.working member), pending_of_completed returned⟩

end Service

/-- A result is what the engine shows for the rest of the run. -/
structure Answers (observe : Bool) (engine : EngineState) (id : TransitionId)
    (result : Result TransitionSnapshot) : Prop where
  shown : result = transitionState observe engine id
  ended : observe = true → Ended (engine.transitions.lookup id)

/-- A waiter whose deadline has not expired returns an answer only, and the owed one is served. -/
structure Attended (observe : Bool) (state : WaitState) (waiter : Waiter) : Prop where
  known : Shows state.service.pool waiter.transition
  returned : ∀ result, waiter.stage = .returned result → waiter.deadline ≤ state.now ∨
    Answers observe state.service.pool.shared waiter.transition result
  served : Owed state waiter → Served observe state waiter

variable {notification : Notification}

section Waiters
variable {observe : Bool}
variable {state next : WaitState} {waiter : Waiter} {result : Result TransitionSnapshot}

theorem transitionState_congr {first second : EngineState}
    (same : first.transitions.lookup id = second.transitions.lookup id) :
    transitionState observe first id = transitionState observe second id := by
  unfold transitionState
  rw [same]

/-- A read of a terminal phase returns. -/
theorem afterRead_ended {engine : EngineState} (ended : Ended (engine.transitions.lookup id)) :
    afterRead (transitionState observe engine id) = .returned (transitionState observe engine id) := by
  obtain ⟨snapshot, stored, terminal⟩ := ended
  unfold transitionState
  rw [stored]
  cases observe
  · rfl
  · simp [afterRead, terminal]

/-- A read that returns gives an answer if the transition is shown. -/
theorem answers_of_read {pool : EnginePool} (known : Shows pool id)
    (read : afterRead (transitionState observe pool.shared id) = .returned result) :
    Answers observe pool.shared id result := by
  obtain ⟨index, snapshot, rfl, _, stored⟩ := known
  unfold transitionState at read
  rw [stored] at read
  cases observe with
  | false =>
      obtain rfl := WaitStage.returned.inj read
      exact ⟨rfl, nofun⟩
  | true =>
      simp only [afterRead, if_true] at read
      split at read
      · rename_i terminal
        obtain rfl := WaitStage.returned.inj read
        refine ⟨?_, fun _ => ⟨snapshot, stored, terminal⟩⟩
        simp [transitionState, stored]
      · cases read

theorem Answers.later {start pool : EnginePool} (answers : Answers observe start.shared id result)
    (began : (machine model).Reaches (fun _ _ => True) (created configuration) start)
    (reached : (machine model).Reaches (fun _ _ => True) start pool) : Answers observe pool.shared id result := by
  cases observe with
  | false => exact ⟨answers.shown, nofun⟩
  | true =>
      have same := ended_later (answers.ended rfl) began reached
      refine ⟨answers.shown.trans (transitionState_congr same.symm), fun _ => ?_⟩
      rw [same]
      exact answers.ended rfl

/-- A stage that has been reached serves an owed waiter. -/
theorem served_of_stage (owed : Owed state waiter) (stage : waiter.stage = .reading ∨ waiter.stage = .notified ∨
    waiter.stage = .returned (transitionState observe state.service.pool.shared waiter.transition)) :
    Served observe state waiter := by
  rcases stage with reads | waits | answered
  · refine .reading reads ?_
    unfold nextStage
    rw [reads]
    exact congrArg some (afterRead_ended owed.1)
  · refine .notified waits fun free early => ?_
    unfold nextStage
    rw [waits]
    simp only [free, if_true, if_neg (not_le_of_gt early)]
  · exact .returned answered

theorem Served.stage (served : Served observe state waiter) : waiter.stage = .reading ∨ waiter.stage = .notified ∨
    waiter.stage = .returned (transitionState observe state.service.pool.shared waiter.transition) := by
  cases served with
  | returned answered => exact .inr (.inr answered)
  | reading reads _ => exact .inl reads
  | notified waits _ => exact .inr (.inl waits)

/-- A waiter that does not move stays attended. -/
theorem Attended.frame (attended : Attended observe state waiter)
    (began : (machine model).Reaches (fun _ _ => True) (created configuration) state.service.pool)
    (reached : (machine model).Reaches (fun _ _ => True) state.service.pool next.service.pool)
    (time : state.now ≤ next.now) (before : Owed next waiter → Owed state waiter) : Attended observe next waiter where
  known := attended.known.later began reached
  returned := by
    intro result stage
    rcases attended.returned result stage with expired | answers
    · exact .inl (expired.trans time)
    · exact .inr (answers.later began reached)
  served := by
    intro owed
    have earlier := before owed
    apply served_of_stage owed
    rw [transitionState_congr (ended_later earlier.1 began reached)]
    exact (attended.served earlier).stage

/-- A waiter that moves stays attended if it does not wake too late. -/
theorem Attended.move (attended : Attended observe state waiter) {stage : WaitStage}
    (early : Owed state waiter → waiter.stage.isNotified = true → state.now < waiter.deadline)
    (moved : nextStage observe state waiter = some stage) : Attended observe state { waiter with stage := stage } := by
  have woken (free : (if mutexFree state then some (if waiter.deadline ≤ state.now then
      WaitStage.returned (.error waitExpired) else .reading) else none) = some stage) :
      waiter.deadline ≤ state.now ∨ stage = .reading := by
    split at free
    · split at free
      · rename_i expired
        exact .inl expired
      · exact .inr (Option.some.inj free).symm
    · cases free
  have settled (owed : Owed state waiter) := (attended.served owed).stage
  unfold nextStage at moved
  cases held : waiter.stage with
  | reading =>
      rw [held] at moved
      cases moved
      refine ⟨attended.known, fun result read => .inr (answers_of_read attended.known read), fun owed => ?_⟩
      exact served_of_stage owed (.inr (.inr (afterRead_ended owed.1)))
  | locking =>
      rw [held] at moved settled
      obtain ⟨_, rfl⟩ : mutexFree state = true ∧ WaitStage.locked = stage := by simpa using moved
      refine ⟨attended.known, fun result returned => (by cases returned), fun owed => ?_⟩
      rcases settled owed with held | held | held <;> cases held
  | locked =>
      rw [held] at moved settled
      cases moved
      refine ⟨attended.known, fun result returned => (by cases returned), fun owed => ?_⟩
      rcases settled owed with held | held | held <;> cases held
  | blocked =>
      rw [held] at moved settled
      refine ⟨attended.known, fun result returned => ?_, fun owed => ?_⟩
      · rcases woken moved with expired | rfl
        · exact .inl expired
        · cases returned
      · rcases settled owed with held | held | held <;> cases held
  | notified =>
      rw [held] at moved
      refine ⟨attended.known, fun result returned => ?_, fun owed => served_of_stage owed (.inl ?_)⟩
      · rcases woken moved with expired | rfl
        · exact .inl expired
        · cases returned
      · rcases woken moved with expired | reads
        · exact absurd (early owed (by rw [held]; rfl)) (not_lt_of_ge expired)
        · exact reads
  | returned result =>
      rw [held] at moved
      cases moved

theorem wake_transition (waiter : Waiter) : waiter.wake.transition = waiter.transition := by
  unfold Waiter.wake
  split <;> rfl

theorem wake_deadline (waiter : Waiter) : waiter.wake.deadline = waiter.deadline := by
  unfold Waiter.wake
  split <;> rfl

/-- Only the waiters that have blocked are woken. -/
theorem wake_stage (waiter : Waiter) : waiter.stage = .blocked ∧ waiter.wake.stage = .notified ∨
    waiter.wake.stage = waiter.stage := by
  unfold Waiter.wake
  split
  · rename_i blocked
    exact .inl ⟨blocked, rfl⟩
  · exact .inr rfl

/-- A notification keeps every waiter attended if it finds none between its read and its block. -/
theorem Attended.notify (attended : Attended observe state waiter)
    (member : waiter ∈ state.waiters) (undisturbed : Undisturbed state (.notify notification))
    (pending : List Notification) : Attended observe { state with
      waiters := state.waiters.map Waiter.wake
      pending := pending
      issued := state.issued ++ notification.issue state.now } waiter.wake where
  known := by
    rw [wake_transition]
    exact attended.known
  returned := by
    intro result stage
    rw [wake_transition, wake_deadline]
    rcases wake_stage waiter with ⟨_, woken⟩ | same
    · cases woken.symm.trans stage
    · exact attended.returned result (same.symm.trans stage)
  served := by
    intro owed
    apply served_of_stage owed
    rw [wake_transition]
    obtain ⟨ended, issue, listed, own, early⟩ := owed
    rw [wake_transition] at ended own
    rw [wake_deadline] at early
    rcases List.mem_append.mp listed with old | fresh
    · have stage := (attended.served ⟨ended, issue, old, own, early⟩).stage
      rcases wake_stage waiter with ⟨blocked, _⟩ | same
      · rw [blocked] at stage
        rcases stage with held | held | held <;> cases held
      · rw [same]
        exact stage
    · cases notification with
      | accepted id => cases fresh
      | completed id =>
          obtain rfl := List.mem_singleton.mp fresh
          have same : id = waiter.transition := own
          have blocks := undisturbed (same ▸ ended) waiter member same.symm early
          rcases wake_stage waiter with ⟨_, woken⟩ | same
          · exact .inr (.inl woken)
          · rw [same]
            cases held : waiter.stage with
            | reading => exact .inl rfl
            | notified => exact .inr (.inl rfl)
            | locking | locked => rw [held] at blocks; cases blocks
            | blocked => rw [Waiter.wake, held] at same; cases same
            | returned result =>
                rcases attended.returned result held with expired | answers
                · exact absurd early (not_lt_of_ge expired)
                · exact .inr (.inr (congrArg WaitStage.returned answers.shown))

end Waiters

/-- The service is reached, its waiters are attended, and what is owed to them is executed. -/
structure Awaited (model : ValidatedModel) (capacity workers : Nat) (configuration : SystemConfiguration)
    (observe : Bool) (state : WaitState) : Prop where
  began : (service model capacity).Reaches (fun _ _ => True) (started configuration workers) state.service
  attended : ∀ waiter ∈ state.waiters, Attended observe state waiter
  pending : ∀ id, .completed id ∈ state.pending → Executed state.service.pool id
  issued : ∀ issue ∈ state.issued, issue.time ≤ state.now ∧ Executed state.service.pool issue.transition

namespace Awaited
variable {observe : Bool} {state : WaitState}

theorem pool (awaited : Awaited model capacity workers configuration observe state) :
    (machine model).Reaches (fun _ _ => True) (created configuration) state.service.pool :=
  pool_reaches (fun _ _ _ _ _ => trivial) awaited.began

variable {next : WaitState} {waiter : Waiter}

section
variable (awaited : Awaited model capacity workers configuration observe state)
include awaited

/-- A waiter that does not move stays attended while the engine stays. -/
theorem frame (same : next.service.pool = state.service.pool) (time : state.now ≤ next.now)
    (issued : next.issued = state.issued) (member : waiter ∈ state.waiters) : Attended observe next waiter := by
  refine (awaited.attended waiter member).frame awaited.pool (by rw [same]; exact .refl) time ?_
  unfold Owed
  rw [same, issued]
  exact id

theorem service {next : State} (performed : perform model capacity action state.service = some next) :
    Awaited model capacity workers configuration observe { state with
      service := next
      pending := state.pending ++ notifications state.service action } := by
  have step := step_of_perform performed
  have moved := pool_step step
  refine ⟨.step awaited.began trivial performed, fun waiter member => ?_, fun id member => ?_,
    fun issue member => ?_⟩
  · refine (awaited.attended waiter member).frame awaited.pool moved le_rfl ?_
    rintro ⟨ended, issue, listed, own, early⟩
    obtain ⟨_, executed⟩ := awaited.issued issue listed
    rw [own] at executed
    rw [(executed.later awaited.pool moved).2] at ended
    exact ⟨ended, issue, listed, own, early⟩
  · rcases List.mem_append.mp member with old | fresh
    · exact ((awaited.pending id old).later awaited.pool moved).1
    · obtain rfl := finish_of_mem_notifications fresh
      exact executed_finish awaited.began step
  · obtain ⟨time, executed⟩ := awaited.issued issue member
    exact ⟨time, (executed.later awaited.pool moved).1⟩

/-- The waiter that comes knows an accepted transition. -/
theorem wait (deadline : Int) (accepted : state.service.accepted.any (·.id == id) = true) :
    Awaited model capacity workers configuration observe
      { state with waiters := state.waiters ++ [⟨id, deadline, .reading⟩] } := by
  refine ⟨awaited.began, fun waiter member => ?_, awaited.pending, awaited.issued⟩
  rcases List.mem_append.mp member with old | fresh
  · exact awaited.frame (by rfl) (by rfl) (by rfl) old
  · obtain rfl := List.mem_singleton.mp fresh
    obtain ⟨transition, listed, own⟩ := List.any_eq_true.mp accepted
    obtain rfl : transition.id = id := beq_iff_eq.mp own
    exact ⟨accepted_shown awaited.began transition listed, fun result returned => (by cases returned),
      fun owed => served_of_stage owed (.inl rfl)⟩

theorem move {index : Nat} {stage : WaitStage} (undisturbed : Undisturbed state (.waiter index))
    (found : state.waiters[index]? = some waiter) (moved : nextStage observe state waiter = some stage) :
    Awaited model capacity workers configuration observe
      { state with waiters := state.waiters.set index { waiter with stage := stage } } := by
  refine ⟨awaited.began, fun other member => ?_, awaited.pending, awaited.issued⟩
  rcases List.mem_or_eq_of_mem_set member with old | rfl
  · exact awaited.frame (by rfl) (by rfl) (by rfl) old
  · have attended := awaited.attended waiter (List.mem_of_getElem? found)
    exact (attended.move (undisturbed waiter found) moved).frame awaited.pool .refl le_rfl id

theorem notify (undisturbed : Undisturbed state (.notify notification))
    (listed : notification ∈ state.pending) : Awaited model capacity workers configuration observe { state with
      waiters := state.waiters.map Waiter.wake
      pending := state.pending.erase notification
      issued := state.issued ++ notification.issue state.now } := by
  refine ⟨awaited.began, fun other member => ?_, fun id member => ?_, fun issue member => ?_⟩
  · obtain ⟨waiter, known, rfl⟩ := List.mem_map.mp member
    exact (awaited.attended waiter known).notify known undisturbed _
  · exact awaited.pending id (List.mem_of_mem_erase member)
  · rcases List.mem_append.mp member with old | fresh
    · exact awaited.issued issue old
    · cases notification with
      | accepted id => cases fresh
      | completed id =>
          obtain rfl := List.mem_singleton.mp fresh
          exact ⟨le_rfl, awaited.pending id listed⟩

theorem tick (elapsed : Nat) :
    Awaited model capacity workers configuration observe { state with now := state.now + elapsed } := by
  have time : state.now ≤ state.now + elapsed := by omega
  refine ⟨awaited.began, fun waiter member => awaited.frame (by rfl) time (by rfl) member, awaited.pending, ?_⟩
  intro issue member
  obtain ⟨before, executed⟩ := awaited.issued issue member
  exact ⟨before.trans time, executed⟩

/-- Every undisturbed step keeps the waiters attended. -/
theorem step {action : WaitAction}
    (undisturbed : Undisturbed state action) (performed : performWait model capacity observe action state = some next) :
    Awaited model capacity workers configuration observe next := by
  cases action with
  | service action =>
      obtain ⟨_, moved⟩ := Option.ite_none_right_eq_some.mp performed
      obtain ⟨later, moves, rfl⟩ := Option.map_eq_some_iff.mp moved
      exact awaited.service moves
  | tick elapsed =>
      cases performed
      exact awaited.tick elapsed
  | wait id deadline =>
      obtain ⟨accepted, waits⟩ := Option.ite_none_right_eq_some.mp performed
      obtain rfl := Option.some.inj waits
      exact awaited.wait deadline ((Bool.and_eq_true _ _).mp accepted).2
  | waiter index =>
      obtain ⟨waiter, found, moved⟩ := Option.bind_eq_some_iff.mp performed
      obtain ⟨stage, moves, rfl⟩ := Option.map_eq_some_iff.mp moved
      exact awaited.move undisturbed found moves
  | notify notification =>
      obtain ⟨listed, issues⟩ := Option.ite_none_right_eq_some.mp performed
      obtain rfl := Option.some.inj issues
      exact awaited.notify undisturbed listed

end

/-- The waiters of a run whose steps are undisturbed are attended. -/
theorem reaches {now : Int}
    (reached : (waiting model capacity observe).Reaches Undisturbed (unattended configuration workers now) state) :
    Awaited model capacity workers configuration observe state :=
  reached.invariant
    ⟨.refl, fun _ member => (by cases member), fun _ member => (by cases member),
      fun _ member => (by cases member)⟩
    fun _ _ _ awaited undisturbed performed => awaited.step undisturbed performed

end Awaited

/-- In an undisturbed run no waiter misses the completion that it is notified of before its deadline. -/
theorem wait_served (model : ValidatedModel) (capacity workers : Nat) (configuration : SystemConfiguration)
    (observe : Bool) (now : Int) (state : WaitState) (waiter : Waiter)
    (reached : (waiting model capacity observe).Reaches Undisturbed (unattended configuration workers now) state)
    (member : waiter ∈ state.waiters) (owed : Owed state waiter) : Served observe state waiter :=
  ((Awaited.reaches reached).attended waiter member).served owed

section Lost
variable {capacity : Nat} {observe : Bool} {state : WaitState}
variable {index : Nat} {waiter : Waiter}

theorem waiter_reaches {stage : WaitStage} (found : state.waiters[index]? = some waiter)
    (moves : nextStage observe state waiter = some stage) :
    (waiting model capacity observe).Reaches (fun _ _ => True) state
      { state with waiters := state.waiters.set index { waiter with stage := stage } } := by
  have performed : (waiting model capacity observe).perform (.waiter index) state =
      some { state with waiters := state.waiters.set index { waiter with stage := stage } } := by
    show (state.waiters[index]?.bind _) = _
    rw [found, Option.bind_some, moves]
    rfl
  exact .step .refl trivial performed

/-- No request and no other waiter holds the mutex. -/
structure Unheld (index : Nat) (state : WaitState) : Prop where
  idle : state.service.request = none
  others : ∀ position other, position ≠ index → state.waiters[position]? = some other →
    other.stage.isLocked = false

section
variable (unheld : Unheld index state)
include unheld

theorem Unheld.free (found : state.waiters[index]? = some waiter)
    (waits : waiter.stage.isLocked = false) : mutexFree state = true := by
  have unlocks : ∀ other ∈ state.waiters, other.stage.isLocked = false := by
    intro other member
    obtain ⟨position, listed⟩ := List.getElem?_of_mem member
    by_cases own : position = index
    · subst own
      obtain rfl := Option.some.inj (listed.symm.trans found)
      exact waits
    · exact unheld.others position other own listed
  simpa [mutexFree, unheld.idle, unlocked] using unlocks

theorem Unheld.set (moved : Waiter) : Unheld index { state with waiters := state.waiters.set index moved } := by
  refine ⟨unheld.idle, fun position other different listed => ?_⟩
  rw [List.getElem?_set_ne different.symm] at listed
  exact unheld.others position other different listed

theorem Unheld.wake (pending : List Notification) (issued : List Issue) : Unheld index { state with
      waiters := state.waiters.map Waiter.wake
      pending := pending
      issued := issued } := by
  refine ⟨unheld.idle, fun position other different listed => ?_⟩
  rw [List.getElem?_map] at listed
  obtain ⟨waiter, found, rfl⟩ := Option.map_eq_some_iff.mp listed
  rcases wake_stage waiter with ⟨_, woken⟩ | same
  · rw [woken]
    rfl
  · rw [same]
    exact unheld.others position waiter different found

/-- A waiter between its read and its block may block before anything else happens. -/
theorem blocks_reaches (found : state.waiters[index]? = some waiter)
    (between : waiter.stage.isBetween = true) : (waiting model capacity observe).Reaches (fun _ _ => True) state
      { state with waiters := state.waiters.set index { waiter with stage := .blocked } } := by
  have inside := (List.getElem?_eq_some_iff.mp found).1
  cases held : waiter.stage with
  | locked =>
      refine waiter_reaches found ?_
      rw [nextStage, held]
  | locking =>
      have locks : nextStage observe state waiter = some .locked := by
        rw [nextStage, held]
        exact if_pos (unheld.free found (by rw [held]; rfl))
      have last := @waiter_reaches model capacity observe
        { state with waiters := state.waiters.set index { waiter with stage := .locked } } index _ _
        (List.getElem?_set_self inside) rfl
      rw [List.set_set] at last
      exact (waiter_reaches found locks).trans last
  | _ => rw [held] at between; cases between

/-- A waiter that has blocked may expire when nobody wakes it. -/
theorem expires_reaches (found : state.waiters[index]? = some waiter)
    (held : waiter.stage = .blocked) : ∃ elapsed : Nat,
    (waiting model capacity observe).Reaches (fun _ _ => True) state { state with
      now := state.now + elapsed
      waiters := state.waiters.set index { waiter with stage := .returned (.error waitExpired) } } := by
  refine ⟨(waiter.deadline - state.now).toNat, ?_⟩
  have late : waiter.deadline ≤ state.now + (waiter.deadline - state.now).toNat := by omega
  have ticks : (waiting model capacity observe).perform (.tick (waiter.deadline - state.now).toNat) state =
    some { state with now := state.now + (waiter.deadline - state.now).toNat } := rfl
  have free : mutexFree { state with now := state.now + (waiter.deadline - state.now).toNat } = true :=
    unheld.free found (by rw [held]; rfl)
  refine (System.Reaches.step .refl trivial ticks).trans (waiter_reaches found ?_)
  rw [nextStage, held]
  simp only [free, if_true, if_pos late]

end

/-- A completion that is notified between the read and the block of a waiter can be lost. -/
theorem disturbed_expires (unheld : Unheld index state) (found : state.waiters[index]? = some waiter)
    (between : waiter.stage.isBetween = true) (listed : .completed waiter.transition ∈ state.pending)
    (ended : Ended (state.service.pool.shared.transitions.lookup waiter.transition))
    (early : state.now < waiter.deadline) : ∃ later expired,
    (waiting model capacity observe).Reaches (fun _ _ => True) state later ∧
      later.waiters[index]? = some expired ∧ expired.stage = .returned (.error waitExpired) ∧ Owed later expired := by
  have inside := (List.getElem?_eq_some_iff.mp found).1
  have notifies : (waiting model capacity observe).perform (.notify (.completed waiter.transition)) state =
      some { state with
        waiters := state.waiters.map Waiter.wake
        pending := state.pending.erase (.completed waiter.transition)
        issued := state.issued ++ [⟨waiter.transition, state.now⟩] } := if_pos listed
  have stays : waiter.wake = waiter := by
    unfold Waiter.wake
    split
    · rename_i blocked
      rw [blocked] at between
      cases between
    · rfl
  have still : (state.waiters.map Waiter.wake)[index]? = some waiter := by
    rw [List.getElem?_map, found, Option.map_some, stays]
  have unwoken := unheld.wake (state.pending.erase (.completed waiter.transition))
    (state.issued ++ [⟨waiter.transition, state.now⟩])
  have blocks := @blocks_reaches model capacity observe _ _ _ unwoken still between
  obtain ⟨elapsed, expires⟩ := @expires_reaches model capacity observe _ _ _
    (unwoken.set { waiter with stage := .blocked }) (List.getElem?_set_self (by simpa using inside)) rfl
  refine ⟨_, _, ((System.Reaches.step .refl trivial notifies).trans blocks).trans expires,
    List.getElem?_set_self (by simpa using inside), rfl, ended, ⟨waiter.transition, state.now⟩, ?_, rfl, early⟩
  exact List.mem_append_right _ (List.mem_singleton_self _)

end Lost

def isOwed (state : WaitState) (waiter : Waiter) : Bool :=
  (state.service.pool.shared.transitions.lookup waiter.transition).any (·.phase.isTerminal) &&
    state.issued.any fun issue => decide (issue.transition = waiter.transition ∧ issue.time < waiter.deadline)

theorem owed_of_isOwed {state : WaitState} {waiter : Waiter} (owed : isOwed state waiter = true) :
    Owed state waiter := by
  obtain ⟨ended, issued⟩ := (Bool.and_eq_true _ _).mp owed
  obtain ⟨snapshot, stored, terminal⟩ := (Option.any_eq_true _ _).mp ended
  obtain ⟨issue, listed, early⟩ := List.any_eq_true.mp issued
  exact ⟨⟨snapshot, stored, terminal⟩, issue, listed, of_decide_eq_true early⟩

/-- This function decides whether a step disturbs no waiter at all. -/
def undisturbed (state : WaitState) : WaitAction → Bool
  | .notify _ => state.waiters.all fun waiter => !waiter.stage.isBetween
  | .waiter index => state.waiters[index]?.all fun waiter => decide (state.now < waiter.deadline)
  | _ => true

theorem undisturbed_sound (state : WaitState) (action : WaitAction) (checked : undisturbed state action = true) :
    Undisturbed state action := by
  cases action with
  | notify notification =>
      cases notification with
      | accepted id => trivial
      | completed id =>
          intro _ waiter member _ _
          exact Bool.not_eq_true' _ ▸ List.all_eq_true.mp checked waiter member
  | waiter index =>
      intro waiter found _ _
      rw [undisturbed, found] at checked
      exact of_decide_eq_true checked
  | _ => trivial

def WaitStage.isExpired : WaitStage → Bool
  | .returned (.error error) => decide (error = waitExpired)
  | _ => false

/-- The service takes the steps of a schedule. -/
def serving (schedule : List (State → Action)) : List (WaitState → WaitAction) :=
  schedule.map fun choose state => .service (choose state.service)

/-- The lamp is to be switched, and a waiter reads that it has not been switched yet. -/
def pausing : List (WaitState → WaitAction) :=
  serving (submit 0 1 2) ++ [fun _ => .notify (.accepted 1), fun _ => .wait 1 100, fun _ => .waiter 0]

/-- A schedule of the lamp that ends in a state with a decided property is such a run. -/
theorem exists_waited {allowed : WaitState → WaitAction → Prop} (check : WaitState → WaitAction → Bool)
    (sound : ∀ state action, check state action = true → allowed state action)
    (schedule : List (WaitState → WaitAction)) (property : WaitState → Bool)
    (executed : ((waiting lampModes 4 true).run check schedule
      (unattended ⟨1, initialModes lampModes, ∅⟩ 1 0)).any property = true) :
    ∃ state, (waiting lampModes 4 true).Reaches allowed (unattended ⟨1, initialModes lampModes, ∅⟩ 1 0) state ∧
        property state = true := System.Reaches.exists_of_run check sound schedule property executed

/-- The waiter blocks before the worker notifies it. -/
theorem wait_served_switched : ∃ state waiter,
    (waiting lampModes 4 true).Reaches Undisturbed (unattended ⟨1, initialModes lampModes, ∅⟩ 1 0) state ∧
      waiter ∈ state.waiters ∧ Owed state waiter ∧ Served true state waiter := by
  obtain ⟨state, reached, chosen⟩ := exists_waited undisturbed undisturbed_sound
    (pausing ++ [fun _ => .waiter 0, fun _ => .waiter 0] ++ serving switching ++
      [fun _ => .notify (.completed 1), fun _ => .waiter 0, fun _ => .waiter 0])
    (fun state => state.waiters.any (isOwed state)) (by decide +kernel)
  obtain ⟨waiter, member, owed⟩ := List.any_eq_true.mp chosen
  exact ⟨state, waiter, reached, member, owed_of_isOwed owed,
    wait_served lampModes 4 1 _ true 0 state waiter reached member (owed_of_isOwed owed)⟩

/-- The worker notifies the waiter before it blocks, and the wait expires. -/
theorem wait_expires : ∃ state waiter, (waiting lampModes 4 true).Reaches (fun _ _ => True)
      (unattended ⟨1, initialModes lampModes, ∅⟩ 1 0) state ∧
      waiter ∈ state.waiters ∧ Owed state waiter ∧ waiter.stage = .returned (.error waitExpired) := by
  obtain ⟨state, reached, chosen⟩ := exists_waited (fun _ _ => true) (fun _ _ _ => trivial)
    (pausing ++ serving switching ++ [fun _ => .notify (.completed 1), fun _ => .waiter 0, fun _ => .waiter 0,
      fun _ => .tick 100, fun _ => .waiter 0])
    (fun state => state.waiters.any fun waiter => isOwed state waiter && waiter.stage.isExpired)
    (by decide +kernel)
  obtain ⟨waiter, member, both⟩ := List.any_eq_true.mp chosen
  obtain ⟨owed, expired⟩ := (Bool.and_eq_true _ _).mp both
  refine ⟨state, waiter, reached, member, owed_of_isOwed owed, ?_⟩
  unfold WaitStage.isExpired at expired
  split at expired
  · rename_i error held
    rw [held, of_decide_eq_true expired]
  · cases expired

/-- The lamp was switched while the only waiter is before its block. -/
def isDisturbed (state : WaitState) : Bool :=
  state.service.request.isNone && decide (state.waiters.length = 1) && decide (.completed 1 ∈ state.pending) &&
    state.waiters.head?.any (fun waiter => waiter.stage.isBetween && decide (waiter.transition = 1) &&
      decide (state.now < waiter.deadline)) &&
    (state.service.pool.shared.transitions.lookup 1).any (·.phase.isTerminal)

/-- The run of the expired wait can lose the notification from the moment before it. -/
theorem disturbed_expires_locked : ∃ state later expired,
    (waiting lampModes 4 true).Reaches (fun _ _ => True) (unattended ⟨1, initialModes lampModes, ∅⟩ 1 0) state ∧
      (waiting lampModes 4 true).Reaches (fun _ _ => True) state later ∧
        later.waiters[0]? = some expired ∧ expired.stage = .returned (.error waitExpired) ∧ Owed later expired := by
  obtain ⟨state, reached, chosen⟩ := exists_waited (fun _ _ => true) (fun _ _ _ => trivial)
    (pausing ++ serving switching) isDisturbed (by decide +kernel)
  simp only [isDisturbed, Bool.and_eq_true, Option.isNone_iff_eq_none, decide_eq_true_eq] at chosen
  obtain ⟨⟨⟨⟨idle, alone⟩, listed⟩, between⟩, ended⟩ := chosen
  obtain ⟨waiter, waiters⟩ := List.length_eq_one_iff.mp alone
  simp only [waiters, List.head?_cons, Option.any_some, Bool.and_eq_true, decide_eq_true_eq] at between
  obtain ⟨⟨between, own⟩, early⟩ := between
  obtain ⟨snapshot, stored, terminal⟩ := (Option.any_eq_true _ _).mp ended
  have found : state.waiters[0]? = some waiter := by rw [waiters]; rfl
  have unheld : Unheld 0 state := by
    refine ⟨idle, fun position other different found => ?_⟩
    rw [waiters] at found
    obtain ⟨inside, _⟩ := List.getElem?_eq_some_iff.mp found
    exact absurd (Nat.lt_one_iff.mp inside) different
  obtain ⟨later, expired, continued, lost⟩ := disturbed_expires unheld found between (own.symm ▸ listed)
    ⟨snapshot, own.symm ▸ stored, terminal⟩ early
  exact ⟨state, later, expired, reached, continued, lost⟩

end OpenVehicle.Exec.Coordinator
