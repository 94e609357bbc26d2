/-
This file says once what a step of the coordinator service can do, and it proves the bookkeeping
of the service: an accepted transition waits in the queue, is with a worker, or is finished.
-/

import OpenVehicle.Exec.Coordinator
import OpenVehicle.Exec.Cancellation
import OpenVehicle.Exec.History

namespace OpenVehicle.Exec.Coordinator

open Concurrency FiniteMap ExecutionEngine

/-- The steps of the service with their conditions and their results. -/
inductive Step (model : ValidatedModel) (capacity : Nat) (state : State) : Action → State → Prop
  | refuse (domain : DomainId) (mode : ModeId) : Step model capacity state (.request domain mode) state
  | check (domain : DomainId) (mode : ModeId) {definition : DomainDefinition}
      (free : state.request = none) (known : model.findDomain domain = some definition)
      (queues : state.activeDomains.lookup domain = none ∨ definition.replacement = .queue) :
      Step model capacity state (.request domain mode) { state with
        request := some (.checked domain mode (state.activeDomains.lookup domain).isSome) }
  | supersede (domain : DomainId) (mode : ModeId) {definition : DomainDefinition} {active : TransitionId}
      {shared : EngineState} (free : state.request = none)
      (known : model.findDomain domain = some definition)
      (policy : definition.replacement = .supersedeIfSafe)
      (found : state.activeDomains.lookup domain = some active)
      (cancelled : ExecutionEngine.cancel state.pool.shared active = .ok shared) :
      Step model capacity state (.request domain mode) { state with
        pool := ⟨shared, state.pool.threads⟩
        request := some (.superseding domain mode) }
  | refresh {domain : DomainId} {mode : ModeId}
      (asked : state.request = some (.superseding domain mode)) :
      Step model capacity state .refresh { state with
        projected := state.pool.shared.configuration
        request := some (.checked domain mode false) }
  | full {domain : DomainId} {mode : ModeId} {queued : Bool}
      (asked : state.request = some (.checked domain mode queued))
      (filled : capacity ≤ state.queue.length) :
      Step model capacity state .accept { state with request := none }
  | accept {domain : DomainId} {mode : ModeId} {queued : Bool} {pool : EnginePool}
      (asked : state.request = some (.checked domain mode queued))
      (fired : (machine model).fire state.pool (.event (.request (if queued then state.projected
        else state.pool.shared.configuration) domain mode)) = some pool) :
      Step model capacity state .accept { state with
        pool := pool
        request := some (.accepting state.pool.threads.length domain mode) }
  | engine (index : Nat) (input : EngineInput) {pool : EnginePool} (moves : mayMove state index = true)
      (fired : (machine model).fire state.pool (.thread index input) = some pool) :
      Step model capacity state (.engine index input) { state with pool := pool }
  | enqueue {index : Nat} {domain : DomainId} {mode : ModeId} {plan : TransitionPlan}
      (asked : state.request = some (.accepting index domain mode))
      (accepted : isAccepted state.pool index = true)
      (planned : state.pool.shared.plans.lookup (index + 1) = some plan) :
      Step model capacity state .enqueue { state with
        projected := project domain mode plan state.projected
        queue := state.queue ++ [⟨index + 1, plan⟩]
        activeDomains := state.activeDomains.insert domain (index + 1)
        revision := state.revision + 1
        request := none
        accepted := state.accepted ++ [⟨index + 1, plan⟩]
        emitted := state.emitted ++
          [⟨⟨.transitionChanged, state.revision + 1, index + 1, domain⟩, state.pool⟩] }
  | reject {index : Nat} {domain : DomainId} {mode : ModeId}
      (asked : state.request = some (.accepting index domain mode))
      (returned : state.pool.pending index = none) :
      Step model capacity state .reject { state with request := none }
  | take {idle : Nat} {transition : AcceptedTransition} {rest : List AcceptedTransition}
      (free : state.request = none) (waits : state.idle = idle + 1)
      (queued : state.queue = transition :: rest) :
      Step model capacity state .take { state with
        queue := rest
        jobs := state.jobs ++ [⟨transition, .taken⟩]
        idle := idle }
  | begin (id : TransitionId) {transition : AcceptedTransition}
      (found : findJob id state = some ⟨transition, .taken⟩) :
      Step model capacity state (.begin id) { state with
        jobs := setStage id (.executing (committedMode state transition)) state.jobs }
  | complete (id : TransitionId) {transition : AcceptedTransition} {before : Option ModeId}
      (found : findJob id state = some ⟨transition, .executing before⟩)
      (returned : state.pool.pending (id - 1) = none) :
      Step model capacity state (.complete id) { state with
        jobs := setStage id (.executed before (committedMode state transition)) state.jobs }
  | finish (id : TransitionId) {transition : AcceptedTransition} {before after : Option ModeId}
      {result : Result TransitionSnapshot} (free : state.request = none)
      (found : findJob id state = some ⟨transition, .executed before after⟩)
      (returned : completed state.pool id = some result) :
      Step model capacity state (.finish id) { state with
        activeDomains := release transition.plan.domain id state.activeDomains
        projected := if state.queue.isEmpty &&
            (release transition.plan.domain id state.activeDomains).keys.isEmpty
          then state.pool.shared.configuration else state.projected
        revision := state.revision + 1
        jobs := state.jobs.filter fun job => job.transition.id != id
        idle := state.idle + 1
        finished := state.finished ++ [id]
        emitted := state.emitted ++ (finishEvents model (state.revision + 1) transition before after
          result).map fun event => ⟨event, state.pool⟩ }
  | spare (id : TransitionId) : Step model capacity state (.cancel id) state
  | cancel (id : TransitionId) {shared : EngineState}
      (cancelled : ExecutionEngine.cancel state.pool.shared id = .ok shared) :
      Step model capacity state (.cancel id) { state with pool := ⟨shared, state.pool.threads⟩ }

variable {model : ValidatedModel} {state later : State} {id : TransitionId} {domain : DomainId} {action : Action}
variable {capacity : Nat} {index : Nat} {input : EngineInput} {mode : ModeId}

theorem step_request (performed : beginRequest model domain mode state = some later) :
    Step model capacity state (.request domain mode) later := by
  unfold beginRequest at performed
  split at performed
  · cases performed
  · rename_i free
    split at performed
    · cases performed
      exact .refuse domain mode
    · rename_i definition known
      split at performed
      · rename_i vacant
        cases performed
        have step : Step model capacity state (.request domain mode) _ := .check domain mode free known (.inl vacant)
        rw [vacant] at step
        exact step
      · rename_i active found
        split at performed
        · cases performed
          exact .refuse domain mode
        · rename_i policy
          cases performed
          have step : Step model capacity state (.request domain mode) _ := .check domain mode free known (.inr policy)
          rw [found] at step
          exact step
        · rename_i policy
          split at performed
          · cases performed
            exact .refuse domain mode
          · rename_i shared cancelled
            cases performed
            exact .supersede domain mode free known policy found cancelled

theorem step_accept (performed : acceptMode model capacity state = some later) :
    Step model capacity state .accept later := by
  unfold acceptMode at performed
  split at performed
  · rename_i domain mode queued asked
    split at performed
    · rename_i filled
      cases performed
      exact .full asked filled
    · obtain ⟨pool, fired, rfl⟩ := Option.map_eq_some_iff.mp performed
      exact .accept asked fired
  · cases performed

theorem step_enqueue (performed : enqueue state = some later) : Step model capacity state .enqueue later := by
  unfold enqueue at performed
  split at performed
  · rename_i index domain mode asked
    split at performed
    · rename_i accepted
      obtain ⟨plan, planned, rfl⟩ := Option.map_eq_some_iff.mp performed
      exact .enqueue asked accepted planned
    · cases performed
  · cases performed

theorem step_take (performed : take state = some later) : Step model capacity state .take later := by
  unfold take at performed
  split at performed
  · rename_i free waits queued
    cases performed
    exact .take free waits queued
  · cases performed

theorem step_begin (performed : beginJob id state = some later) : Step model capacity state (.begin id) later := by
  unfold beginJob at performed
  split at performed
  · rename_i found
    cases performed
    exact .begin id found
  · cases performed

theorem step_complete (performed : completeJob id state = some later) :
    Step model capacity state (.complete id) later := by
  unfold completeJob at performed
  split at performed
  · rename_i found
    split at performed
    · rename_i returned
      cases performed
      exact .complete id found (Option.isNone_iff_eq_none.mp returned)
    · cases performed
  · cases performed

theorem step_finish (performed : finishJob model id state = some later) :
    Step model capacity state (.finish id) later := by
  unfold finishJob at performed
  split at performed
  · rename_i free found returned
    cases performed
    exact .finish id free found returned
  · cases performed

theorem step_refresh (performed : refresh state = some later) : Step model capacity state .refresh later := by
  unfold refresh at performed
  split at performed
  · rename_i asked
    cases performed
    exact .refresh asked
  · cases performed

theorem step_engine (performed : moveEngine model index input state = some later) :
    Step model capacity state (.engine index input) later := by
  unfold moveEngine at performed
  split at performed
  · rename_i moves
    obtain ⟨pool, fired, rfl⟩ := Option.map_eq_some_iff.mp performed
    exact .engine index input moves fired
  · cases performed

theorem step_reject (performed : reject state = some later) : Step model capacity state .reject later := by
  unfold reject at performed
  split at performed
  · rename_i asked
    split at performed
    · rename_i returned
      cases performed
      exact .reject asked (Option.isNone_iff_eq_none.mp returned)
    · cases performed
  · cases performed

theorem step_cancel (performed : cancelTransition id state = some later) :
    Step model capacity state (.cancel id) later := by
  unfold cancelTransition at performed
  split at performed
  · cases performed
    exact .spare id
  · rename_i cancelled
    cases performed
    exact .cancel id cancelled

/-- Every performed action is one of the steps. -/
theorem step_of_perform (performed : perform model capacity action state = some later) :
    Step model capacity state action later := by
  cases action with
  | request domain mode => exact step_request performed
  | refresh => exact step_refresh performed
  | accept => exact step_accept performed
  | engine index input => exact step_engine performed
  | enqueue => exact step_enqueue performed
  | reject => exact step_reject performed
  | take => exact step_take performed
  | begin id => exact step_begin performed
  | complete id => exact step_complete performed
  | finish id => exact step_finish performed
  | cancel id => exact step_cancel performed

/-- The choices of the engine that an action of the service makes. -/
inductive Drives (model : ValidatedModel) (state : State) : Action → EngineChoice → Prop
  | thread (index : Nat) (input : EngineInput) : Drives model state (.engine index input) (.thread index input)
  | request {domain : DomainId} {mode : ModeId} (queued : Bool)
      (asked : state.request = some (.checked domain mode queued)) :
      Drives model state .accept (.event (.request (if queued then state.projected
        else state.pool.shared.configuration) domain mode))
  | supersede {domain : DomainId} {mode : ModeId} {definition : DomainDefinition} (active : TransitionId)
      (known : model.findDomain domain = some definition)
      (policy : definition.replacement = .supersedeIfSafe) :
      Drives model state (.request domain mode) (.event (.cancel active))
  | cancel (id : TransitionId) : Drives model state (.cancel id) (.event (.cancel id))

variable {allowed : State → Action → Prop} {shared : EngineState}

theorem fire_cancel {pool : EnginePool} (cancelled : ExecutionEngine.cancel pool.shared id = .ok shared) :
    (machine model).fire pool (.event (.cancel id)) = some ⟨shared, pool.threads⟩ := by
  simp [Machine.fire, machine, occur, cancelled]

/-- A step of the service moves the engine by at most one of its own steps. -/
theorem Step.pool (step : Step model capacity state action later) : later.pool = state.pool ∨
    ∃ choice, Drives model state action choice ∧ (machine model).fire state.pool choice = some later.pool := by
  cases step with
  | supersede domain mode free known policy found cancelled =>
      exact .inr ⟨_, .supersede _ known policy, fire_cancel cancelled⟩
  | accept asked fired => exact .inr ⟨_, .request _ asked, fired⟩
  | engine index input moves fired => exact .inr ⟨_, .thread index input, fired⟩
  | cancel id cancelled => exact .inr ⟨_, .cancel id, fire_cancel cancelled⟩
  | _ => exact .inl rfl

/-- The engine of a run of the service makes a run of its own. -/
theorem pool_reaches {permitted : EnginePool → EngineChoice → Prop}
    {start : State} (drives : ∀ state action choice, allowed state action →
      Drives model state action choice → permitted state.pool choice)
    (reached : (service model capacity).Reaches allowed start state) :
    (machine model).Reaches permitted start.pool state.pool := by
  induction reached with
  | refl => exact .refl
  | @step state later action _ allows performed ih =>
      rcases (step_of_perform performed).pool with same | ⟨choice, driven, fired⟩
      · rw [same]
        exact ih
      · exact .step ih (drives state action choice allows driven) fired

variable {choice : EngineChoice}

section Threads
variable {pool later : EnginePool} {positions : Nat → Position}

/-- A step of the engine keeps the transitions of its threads. -/
theorem advances_transition {next : Nat → Position}
    (advances : Advances model pool positions choice later next) (inside : index < pool.threads.length) :
    (next index).transition = (positions index).transition := by
  cases advances with
  | @thread moving input op reply position program found step =>
      by_cases same : index = moving
      · rw [same, Function.update_self]
        exact (rule_transition step.rule).1
      · rw [Function.update_of_ne same]
  | request => rw [Function.update_of_ne (by omega)]
  | cancel => rfl
  | spare => rfl

/-- A stored snapshot describes the transition of its thread. -/
theorem kin_of_stored (sound : Sound model pool positions) (inside : index < pool.threads.length)
    {snapshot : TransitionSnapshot} (stored : pool.shared.transitions.lookup (index + 1) = some snapshot) :
    Kin (positions index).transition snapshot := by
  have owned := sound.owned index inside
  by_cases registered : (positions index).registered = true
  · obtain ⟨other, found, kin⟩ := owned.stored registered
    obtain rfl := Option.some.inj (found.symm.trans stored)
    exact kin
  · rw [Bool.not_eq_true] at registered
    rw [(owned.unregistered registered).2.transitions] at stored
    cases stored

/-- A step of one thread leaves the other threads alone. -/
theorem pending_fire (fired : (machine model).fire pool (.thread index input) = some later) :
    later.threads.length = pool.threads.length ∧
      ∀ other, other ≠ index → later.pending other = pool.pending other := by
  obtain ⟨op, next, reply, shared, found, performed, rfl⟩ := Machine.fire_thread_eq_some fired
  refine ⟨List.length_set, fun other different => ?_⟩
  unfold Pool.pending
  rw [List.getElem?_set_ne (Ne.symm different)]

/-- A request adds a thread. -/
theorem pending_request {baseline : SystemConfiguration} {target : ModeId}
    (fired : (machine model).fire pool (.event (.request baseline domain target)) = some later) :
    later.threads.length = pool.threads.length + 1 ∧
      ∀ index, index ≠ pool.threads.length → later.pending index = pool.pending index := by
  obtain ⟨shared, started, occurred, rfl⟩ := Machine.fire_event_eq_some fired
  obtain ⟨_, rfl⟩ := Prod.mk.inj (Option.some.inj occurred)
  refine ⟨by simp, fun index different => ?_⟩
  unfold Pool.pending
  by_cases inside : index < pool.threads.length
  · rw [List.getElem?_append_left inside]
  · rw [List.getElem?_eq_none (by simp; omega), List.getElem?_eq_none (by omega)]

end Threads

/-- The accepted transitions that no worker has finished. -/
def State.live (state : State) : List AcceptedTransition := state.queue ++ state.jobs.map (·.transition)

/-- The bookkeeping of the service follows the threads of the engine. -/
structure Tracked (model : ValidatedModel) (state : State) (positions : Nat → Position) : Prop where
  sound : Sound model state.pool positions
  asked : ∀ index domain mode, state.request = some (.accepting index domain mode) →
    index + 1 = state.pool.threads.length ∧ (positions index).transition.domain = domain ∧
      ∀ transition ∈ state.accepted, transition.id ≤ index
  moving : ∀ index op, state.pool.pending index = some op →
    (∃ domain mode, state.request = some (.accepting index domain mode)) ∨
      index + 1 ∈ state.live.map (·.id)
  listed : ∀ transition ∈ state.accepted, 0 < transition.id ∧
    transition.id ≤ state.pool.threads.length ∧
    transition.plan.domain = (positions (transition.id - 1)).transition.domain
  ordered : (state.accepted.map (·.id)).Pairwise (· < ·)
  known : ∀ transition ∈ state.live, transition ∈ state.accepted
  shares : (state.live.map (·.id) ++ state.finished).Perm (state.accepted.map (·.id))

section Tracking
variable {positions next : Nat → Position} {transition : AcceptedTransition} {job : Job}
variable {plan : TransitionPlan}

theorem tracked_started (configuration : SystemConfiguration) (workers : Nat) (positions : Nat → Position) :
    Tracked model (started configuration workers) positions where
  sound := sound_created configuration positions
  asked := by simp [started]
  moving := by simp [started, created, Pool.pending]
  listed := by simp [started]
  ordered := .nil
  known := by simp [started, State.live]
  shares := .refl _

section
variable (tracked : Tracked model state positions)
include tracked

/-- The thread of an accepted transition is in the pool. -/
theorem Tracked.thread (member : transition ∈ state.accepted) :
    transition.id - 1 < state.pool.threads.length ∧ transition.id = transition.id - 1 + 1 := by
  obtain ⟨positive, inside, _⟩ := tracked.listed transition member
  exact ⟨Nat.sub_one_lt_of_le positive inside, (Nat.sub_add_cancel positive).symm⟩

/-- The transition of a job was accepted. -/
theorem Tracked.working (member : job ∈ state.jobs) : job.transition ∈ state.accepted :=
  tracked.known _ (List.mem_append_right _ (List.mem_map_of_mem member))

/-- A transition in the queue was accepted. -/
theorem Tracked.waiting (member : transition ∈ state.queue) : transition ∈ state.accepted :=
  tracked.known transition (List.mem_append_left _ member)

/-- A step of the service that leaves the engine and the transitions alone. -/
theorem Tracked.frame (pool : later.pool = state.pool)
    (accepted : later.accepted = state.accepted) (finished : later.finished = state.finished)
    (live : later.live.Perm state.live)
    (asked : ∀ index domain mode, later.request = some (.accepting index domain mode) →
      state.request = some (.accepting index domain mode))
    (answered : ∀ index domain mode, state.request = some (.accepting index domain mode) →
      later.request = state.request ∨ state.pool.pending index = none) : Tracked model later positions where
  sound := pool ▸ tracked.sound
  asked := by
    intro index domain mode accepting
    rw [pool, accepted]
    exact tracked.asked index domain mode (asked index domain mode accepting)
  moving := by
    intro index op pending
    rw [pool] at pending
    rcases tracked.moving index op pending with ⟨domain, mode, accepting⟩ | member
    · rcases answered index domain mode accepting with same | returned
      · exact .inl ⟨domain, mode, same.trans accepting⟩
      · rw [returned] at pending
        cases pending
    · exact .inr ((live.map _).mem_iff.mpr member)
  listed := by
    rw [accepted, pool]
    exact tracked.listed
  ordered := accepted ▸ tracked.ordered
  known := by
    intro transition member
    rw [accepted]
    exact tracked.known transition (live.mem_iff.mp member)
  shares := by
    rw [accepted, finished]
    exact ((live.map _).append_right _).trans tracked.shares

end

variable {pool : EnginePool}

/-- A step of the engine that adds no thread. -/
theorem Tracked.move (tracked : Tracked model state positions) (sound : Sound model pool next)
    (same : ∀ index < state.pool.threads.length, (next index).transition = (positions index).transition)
    (length : pool.threads.length = state.pool.threads.length) (moving : ∀ index op, pool.pending index = some op →
      (∃ domain mode, state.request = some (.accepting index domain mode)) ∨ index + 1 ∈ state.live.map (·.id)) :
    Tracked model { state with pool := pool } next where
  sound := sound
  asked := by
    intro index domain mode accepting
    obtain ⟨last, own, earlier⟩ := tracked.asked index domain mode accepting
    refine ⟨last.trans length.symm, ?_, earlier⟩
    rw [same index (by omega)]
    exact own
  moving := moving
  listed := by
    intro transition member
    obtain ⟨positive, inside, domain⟩ := tracked.listed transition member
    refine ⟨positive, inside.trans length.ge, ?_⟩
    rw [same _ (tracked.thread member).1]
    exact domain
  ordered := tracked.ordered
  known := tracked.known
  shares := tracked.shares

/-- A job may change its stage. -/
theorem setStage_transitions (id : TransitionId) (stage : JobStage) (jobs : List Job) :
    (setStage id stage jobs).map (·.transition) = jobs.map (·.transition) := by
  unfold setStage
  rw [List.map_map]
  apply List.map_congr_left
  intro job _
  simp only [Function.comp_apply]
  split <;> rfl

/-- A thread that may move belongs to the request or to a worker. -/
theorem mayMove_eq_true (moves : mayMove state index = true) :
    (∃ domain mode, state.request = some (.accepting index domain mode)) ∨ index + 1 ∈ state.live.map (·.id) := by
  rcases (Bool.or_eq_true _ _).mp moves with asked | worked
  · split at asked
    · rename_i other domain mode accepting
      obtain ⟨own, _⟩ := (Bool.and_eq_true _ _).mp asked
      obtain rfl := beq_iff_eq.mp own
      exact .inl ⟨domain, mode, accepting⟩
    · cases asked
  · obtain ⟨job, member, chosen⟩ := List.any_eq_true.mp worked
    obtain ⟨own, _⟩ := (Bool.and_eq_true _ _).mp chosen
    refine .inr (List.mem_map.mpr ⟨job.transition, ?_, beq_iff_eq.mp own⟩)
    exact List.mem_append_right _ (List.mem_map_of_mem member)

theorem findJob_eq_some (found : findJob id state = some job) : job ∈ state.jobs ∧ job.transition.id = id := by
  have chosen := List.find?_some found
  exact ⟨List.mem_of_find?_eq_some found, beq_iff_eq.mp chosen⟩

theorem pending_of_completed {result : Result TransitionSnapshot}
    (returned : completed pool id = some result) : pool.pending (id - 1) = none := by
  unfold completed at returned
  split at returned
  · rename_i found
    unfold Pool.pending
    rw [found]
    rfl
  · cases returned

/-- A request that starts a thread. -/
theorem Tracked.accept (tracked : Tracked model state positions) (sound : Sound model pool next)
    (same : ∀ index < state.pool.threads.length, (next index).transition = (positions index).transition)
    (own : (next state.pool.threads.length).transition.domain = domain)
    (length : pool.threads.length = state.pool.threads.length + 1)
    (pending : ∀ index, index ≠ state.pool.threads.length → pool.pending index = state.pool.pending index)
    (checked : ∀ index domain mode, state.request ≠ some (.accepting index domain mode)) : Tracked model { state with
      pool := pool
      request := some (.accepting state.pool.threads.length domain mode) } next where
  sound := sound
  asked := by
    rintro index other target ⟨⟩
    exact ⟨length.symm, own, fun transition member => (tracked.listed transition member).2.1⟩
  moving := by
    intro index op found
    by_cases fresh : index = state.pool.threads.length
    · exact .inl ⟨domain, mode, by rw [fresh]⟩
    · rw [pending index fresh] at found
      rcases tracked.moving index op found with ⟨other, target, accepting⟩ | member
      · exact absurd accepting (checked index other target)
      · exact .inr member
  listed := by
    intro transition member
    obtain ⟨positive, inside, found⟩ := tracked.listed transition member
    refine ⟨positive, inside.trans ?_, ?_⟩
    · change state.pool.threads.length ≤ pool.threads.length
      omega
    · rw [same _ (tracked.thread member).1]
      exact found
  ordered := tracked.ordered
  known := tracked.known
  shares := tracked.shares

/-- The engine stores the plan of a thread. -/
theorem plan_of_stored (sound : Sound model pool positions) (inside : index < pool.threads.length)
    (planned : pool.shared.plans.lookup (index + 1) = some plan) : (positions index).plan = some plan := by
  have owned := sound.owned index inside
  by_cases registered : (positions index).registered = true
  · exact (owned.plans registered).symm.trans planned
  · rw [Bool.not_eq_true] at registered
    rw [(owned.unregistered registered).2.plans] at planned
    cases planned

/-- The plan of a registered thread is a plan for its domain. -/
theorem registered_domain (sound : Sound model pool positions)
    (inside : index < pool.threads.length) (planned : pool.shared.plans.lookup (index + 1) = some plan) :
    plan.domain = (positions index).transition.domain := by
  have own := plan_of_stored sound inside planned
  obtain ⟨_, _, facts, _⟩ := (sound.owned index inside).accepted own
  exact congrArg TransitionPlan.domain facts.shape

/-- The plan of the accepted transition is a plan for the requested domain. -/
theorem Tracked.plan_domain (tracked : Tracked model state positions)
    (asked : state.request = some (.accepting index domain mode))
    (planned : state.pool.shared.plans.lookup (index + 1) = some plan) : plan.domain = domain := by
  obtain ⟨last, own, _⟩ := tracked.asked index domain mode asked
  exact (registered_domain tracked.sound (by omega) planned).trans own

variable {active : Map DomainId TransitionId} {projected : SystemConfiguration} {emitted : List Announcement}

section
variable (tracked : Tracked model state positions)
include tracked

/-- An accepted transition joins the queue. -/
theorem Tracked.enqueue {revision : Nat} (asked : state.request = some (.accepting index domain mode))
    (planned : state.pool.shared.plans.lookup (index + 1) = some plan) : Tracked model { state with
      projected := projected
      queue := state.queue ++ [⟨index + 1, plan⟩]
      activeDomains := active
      revision := revision
      request := none
      accepted := state.accepted ++ [⟨index + 1, plan⟩]
      emitted := emitted } positions := by
  obtain ⟨last, _, earlier⟩ := tracked.asked index domain mode asked
  have target := registered_domain tracked.sound (by omega) planned
  refine ⟨tracked.sound, by simp, ?_, ?_, ?_, ?_, ?_⟩
  · intro other op pending
    right
    rcases tracked.moving other op pending with ⟨_, _, accepting⟩ | member
    · obtain ⟨rfl, _⟩ := RequestStage.accepting.inj (Option.some.inj (asked.symm.trans accepting))
      simp [State.live]
    · obtain ⟨transition, listed, same⟩ := List.mem_map.mp member
      refine List.mem_map.mpr ⟨transition, ?_, same⟩
      rcases List.mem_append.mp listed with queued | worked
      · exact List.mem_append_left _ (List.mem_append_left _ queued)
      · exact List.mem_append_right _ worked
  · intro transition member
    rcases List.mem_append.mp member with old | fresh
    · exact tracked.listed transition old
    · obtain rfl := List.mem_singleton.mp fresh
      exact ⟨Nat.succ_pos _, last.le, target⟩
  · rw [List.map_append]
    refine List.pairwise_append.mpr ⟨tracked.ordered, List.pairwise_singleton _ _, ?_⟩
    intro first listed second fresh
    obtain ⟨transition, member, rfl⟩ := List.mem_map.mp listed
    obtain rfl := List.mem_singleton.mp fresh
    exact Nat.lt_succ_of_le (earlier transition member)
  · intro transition member
    rcases List.mem_append.mp member with queued | worked
    · rcases List.mem_append.mp queued with old | fresh
      · exact List.mem_append_left _ (tracked.known transition (List.mem_append_left _ old))
      · exact List.mem_append_right _ fresh
    · exact List.mem_append_left _ (tracked.known transition (List.mem_append_right _ worked))
  · simp only [State.live, List.map_append, List.map_cons, List.map_nil, List.append_assoc]
    refine List.Perm.trans ?_ (tracked.shares.append_right [index + 1])
    simp only [State.live, List.map_append, List.append_assoc]
    refine List.Perm.append_left _ (List.perm_append_comm.trans ?_)
    simp only [List.append_assoc, List.Perm.refl]

theorem Tracked.nodup : (state.live.map (·.id) ++ state.finished).Nodup := by
  apply tracked.shares.nodup_iff.mpr
  exact tracked.ordered.imp fun less => Nat.ne_of_lt less

/-- A transition in the queue is not with a worker. -/
theorem Tracked.apart (queued : transition ∈ state.queue)
    (member : job ∈ state.jobs) : transition.id ≠ job.transition.id := by
  have distinct := (List.nodup_append.mp tracked.nodup).1
  unfold State.live at distinct
  rw [List.map_append, List.nodup_append] at distinct
  exact distinct.2.2 _ (List.mem_map_of_mem queued) _ (List.mem_map_of_mem (List.mem_map_of_mem member))

/-- Two accepted transitions with one identifier are the same. -/
theorem Tracked.unique {first second : AcceptedTransition}
    (one : first ∈ state.accepted) (two : second ∈ state.accepted) (same : first.id = second.id) : first = second := by
  have distinct : (state.accepted.map (·.id)).Nodup := tracked.ordered.imp fun less => Nat.ne_of_lt less
  exact List.inj_on_of_nodup_map distinct one two same

/-- A worker that finishes its transition leaves the other live transitions alone. -/
theorem Tracked.live_finish (found : findJob id state = some job) :
    state.queue ++ (state.jobs.filter fun job => job.transition.id != id).map (·.transition) =
      state.live.filter fun transition => transition.id != id := by
  obtain ⟨member, own⟩ := findJob_eq_some found
  have apart : ∀ transition ∈ state.queue, (transition.id != id) = true := by
    intro transition queued
    rw [bne_iff_ne, ← own]
    exact tracked.apart queued member
  unfold State.live
  rw [List.filter_append, List.filter_eq_self.mpr apart, List.filter_map]
  rfl

/-- A finished transition is no longer live. -/
theorem Tracked.finish {revision idle : Nat} (free : state.request = none) (found : findJob id state = some job)
    (returned : state.pool.pending (id - 1) = none) : Tracked model { state with
      activeDomains := active
      projected := projected
      revision := revision
      jobs := state.jobs.filter fun job => job.transition.id != id
      idle := idle
      finished := state.finished ++ [id]
      emitted := emitted } positions := by
  obtain ⟨member, own⟩ := findJob_eq_some found
  have remaining := tracked.live_finish found
  have listed : id ∈ state.live.map (·.id) := by
    rw [← own]
    exact List.mem_map_of_mem (List.mem_append_right _ (List.mem_map_of_mem member))
  refine ⟨tracked.sound, ?_, ?_, tracked.listed, tracked.ordered, ?_, ?_⟩
  · intro index domain mode asked
    cases free.symm.trans asked
  · intro index op pending
    rcases tracked.moving index op pending with ⟨_, _, accepting⟩ | live
    · cases free.symm.trans accepting
    · right
      obtain ⟨transition, within, same⟩ := List.mem_map.mp live
      refine List.mem_map.mpr ⟨transition, ?_, same⟩
      change transition ∈ state.queue ++
        (state.jobs.filter fun job => job.transition.id != id).map (·.transition)
      rw [remaining, List.mem_filter]
      refine ⟨within, bne_iff_ne.mpr ?_⟩
      rintro rfl
      rw [same, Nat.add_sub_cancel] at returned
      rw [returned] at pending
      cases pending
  · intro transition within
    change transition ∈ state.queue ++
      (state.jobs.filter fun job => job.transition.id != id).map (·.transition) at within
    rw [remaining] at within
    exact tracked.known transition (List.mem_of_mem_filter within)
  · change ((state.queue ++ (state.jobs.filter fun job => job.transition.id != id).map
      (·.transition)).map (·.id) ++ (state.finished ++ [id])).Perm _
    have erased : (state.live.filter fun transition => transition.id != id).map (·.id) =
        (state.live.map (·.id)).erase id := by
      rw [(List.nodup_append.mp tracked.nodup).1.erase_eq_filter, List.filter_map]
      rfl
    rw [remaining, erased, ← List.append_assoc]
    refine List.Perm.trans ?_ tracked.shares
    refine List.perm_append_comm.trans ?_
    exact ((List.perm_cons_erase listed).symm.append_right state.finished)

/-- A step of the engine that belongs to the service keeps the bookkeeping. -/
theorem Tracked.fire (fired : (machine model).fire state.pool choice = some pool)
    (same : pool.threads.length = state.pool.threads.length)
    (moving : ∀ index op, pool.pending index = some op → state.pool.pending index = some op ∨
      mayMove state index = true) :
    ∃ next, Tracked model { state with pool := pool } next ∧
      Advances model state.pool positions choice pool next := by
  obtain ⟨next, sound, advances⟩ := tracked.sound.fire fired
  refine ⟨next, tracked.move sound (fun _ => advances_transition advances) same ?_, advances⟩
  intro index op pending
  rcases moving index op pending with before | moves
  · exact tracked.moving index op before
  · exact mayMove_eq_true moves

theorem Tracked.cancel (cancelled : ExecutionEngine.cancel state.pool.shared id = .ok shared) :
    ∃ next, Tracked model { state with pool := ⟨shared, state.pool.threads⟩ } next ∧
      Advances model state.pool positions (.event (.cancel id)) ⟨shared, state.pool.threads⟩ next :=
  tracked.fire (fire_cancel cancelled) rfl fun _ _ pending => .inl pending

end

/-- The positions stay, or they follow the step that the action makes the engine take. -/
def Pursues (model : ValidatedModel) (state : State) (positions : Nat → Position) (action : Action)
    (later : State) (next : Nat → Position) : Prop :=
  later.pool = state.pool ∧ next = positions ∨ ∃ choice, Drives model state action choice ∧
    Advances model state.pool positions choice later.pool next

/-- Every step of the service keeps the bookkeeping. -/
theorem Tracked.step (tracked : Tracked model state positions) (step : Step model capacity state action later) :
    ∃ next, Tracked model later next ∧ Pursues model state positions action later next := by
  have still {later : State} (pool : later.pool = state.pool) (tracked : Tracked model later positions) :
      ∃ next, Tracked model later next ∧ Pursues model state positions action later next :=
    ⟨positions, tracked, .inl ⟨pool, rfl⟩⟩
  cases step with
  | refuse => exact still rfl tracked
  | spare => exact still rfl tracked
  | check domain mode free known queues =>
      refine still rfl (tracked.frame rfl rfl rfl (.refl _) (by simp) ?_)
      intro index other target asked
      cases free.symm.trans asked
  | supersede domain mode free known policy found cancelled =>
      obtain ⟨next, moved, advances⟩ := tracked.cancel cancelled
      refine ⟨next, moved.frame rfl rfl rfl (.refl _) (by simp) ?_, .inr ⟨_, .supersede _ known policy,
        advances⟩⟩
      intro index other target asked
      cases free.symm.trans asked
  | refresh asked =>
      refine still rfl (tracked.frame rfl rfl rfl (.refl _) (by simp) ?_)
      intro index other target accepting
      cases asked.symm.trans accepting
  | full asked filled =>
      refine still rfl (tracked.frame rfl rfl rfl (.refl _) (by simp) ?_)
      intro index other target accepting
      cases asked.symm.trans accepting
  | accept asked fired =>
      obtain ⟨next, sound, advances⟩ := tracked.sound.fire fired
      obtain ⟨length, pending⟩ := pending_request fired
      refine ⟨next, tracked.accept sound (fun _ => advances_transition advances) ?_ length pending ?_,
        .inr ⟨_, .request _ asked, advances⟩⟩
      · cases advances with
        | request =>
            rw [Function.update_self]
            rfl
      · intro index other target accepting
        cases asked.symm.trans accepting
  | @engine index input pool moves fired =>
      have kept (other : Nat) (op : EngineOp) (pending : pool.pending other = some op) :
          state.pool.pending other = some op ∨ mayMove state other = true := by
        by_cases own : other = index
        · exact .inr (own ▸ moves)
        · exact .inl (((pending_fire fired).2 other own).symm.trans pending)
      obtain ⟨next, moved, advances⟩ := tracked.fire fired (pending_fire fired).1 kept
      exact ⟨next, moved, .inr ⟨_, .thread index input, advances⟩⟩
  | enqueue asked accepted planned => exact still rfl (tracked.enqueue asked planned)
  | reject asked returned =>
      refine still rfl (tracked.frame rfl rfl rfl (.refl _) (by simp) ?_)
      intro index other target accepting
      obtain ⟨rfl, _⟩ := RequestStage.accepting.inj (Option.some.inj (asked.symm.trans accepting))
      exact .inr returned
  | @take idle transition rest free waits queued =>
      refine still rfl (tracked.frame rfl rfl rfl ?_ (fun _ _ _ same => same) fun _ _ _ _ => .inl rfl)
      simp only [State.live, queued, List.map_append, List.map_cons, List.map_nil, List.cons_append]
      rw [← List.append_assoc]
      exact List.perm_append_singleton _ _
  | begin id found =>
      refine still rfl (tracked.frame rfl rfl rfl ?_ (fun _ _ _ same => same) fun _ _ _ _ => .inl rfl)
      simp only [State.live, setStage_transitions, List.Perm.refl]
  | complete id found returned =>
      refine still rfl (tracked.frame rfl rfl rfl ?_ (fun _ _ _ same => same) fun _ _ _ _ => .inl rfl)
      simp only [State.live, setStage_transitions, List.Perm.refl]
  | finish id free found returned =>
      exact still rfl (tracked.finish free found (pending_of_completed returned))
  | cancel id cancelled =>
      obtain ⟨next, moved, advances⟩ := tracked.cancel cancelled
      exact ⟨next, moved, .inr ⟨_, .cancel id, advances⟩⟩

end Tracking

/-- This scheduler moves one thread of the engine in an environment in which nothing fails. -/
def drive (index : Nat) (state : State) : Action :=
  .engine index ((state.pool.pending index).elim .proceed ordinaryInput)

/-- This schedule accepts a request whose thread has the given index. -/
def submit (index : Nat) (domain : DomainId) (mode : ModeId) : List (State → Action) :=
  [fun _ => .request domain mode, fun _ => .accept] ++ List.replicate 7 (drive index) ++
    [fun _ => .enqueue]

/-- A schedule of a fresh service that ends in a state with a property is such a run. -/
theorem exists_served (model : ValidatedModel) (capacity workers : Nat)
    (configuration : SystemConfiguration) (check : State → Action → Bool)
    (sound : ∀ state action, check state action = true → allowed state action)
    (schedule : List (State → Action)) (property : State → Prop) [DecidablePred property]
    (executed : ((service model capacity).run check schedule (started configuration workers)).any
      (fun state => decide (property state)) = true) :
    ∃ state, (service model capacity).Reaches allowed (started configuration workers) state ∧ property state := by
  obtain ⟨state, reached, holds⟩ := System.Reaches.exists_of_run check sound schedule _ executed
  exact ⟨state, reached, of_decide_eq_true holds⟩

end OpenVehicle.Exec.Coordinator
