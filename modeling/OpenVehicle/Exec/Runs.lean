/-
This file gives the induction rule for the runs of the engine.
An invariant of the engine has a common part and one part for each thread.
-/

import OpenVehicle.Exec.PlannerFacts
import OpenVehicle.Exec.Registry

namespace OpenVehicle.Exec

open Concurrency FiniteMap ExecutionEngine

/-- The threads of a pool follow their positions, and the tables are in order. -/
structure Sound (model : ValidatedModel) (pool : EnginePool) (positions : Nat → Position) : Prop where
  staged : Staged (fun _ => Rule model) Returned pool.threads positions
  registry : Registry pool.shared pool.threads.length
  owned : ∀ index < pool.threads.length, Owned model index (positions index) pool.shared

/-- One step of a thread with everything that is known about it. -/
structure ThreadStep (model : ValidatedModel) (allowed : EnginePool → EngineChoice → Prop)
    (pool : EnginePool) (positions : Nat → Position) (index : Nat) (input : EngineInput)
    (op : EngineOp) (reply : op.Reply) (later : Position) : Prop where
  permitted : allowed pool (.thread index input)
  inside : index < pool.threads.length
  pending : pool.pending index = some op
  rule : Rule model (positions index) op reply later
  performed : perform model op input pool.shared = some (reply, effect op reply pool.shared)
  answers : Answers model op reply pool.shared

/-- An invariant that the steps of the engine maintain. -/
structure Maintains (model : ValidatedModel) (allowed : EnginePool → EngineChoice → Prop)
    (common : EngineState → Nat → (Nat → Position) → Prop)
    (own : Nat → Position → EngineState → Prop) : Prop where
  step : ∀ (pool : EnginePool) (positions : Nat → Position) (index : Nat) (input : EngineInput)
    (op : EngineOp) (reply : op.Reply) (later : Position), Sound model pool positions →
    Holds common own pool.shared pool.threads.length positions →
    ThreadStep model allowed pool positions index input op reply later →
    Preserves common own (effect op reply pool.shared) pool.threads.length positions index later
  cancel : ∀ (pool : EnginePool) (positions : Nat → Position) (id : TransitionId)
    (state : EngineState), Sound model pool positions →
    Holds common own pool.shared pool.threads.length positions →
    allowed pool (.event (.cancel id)) → cancel pool.shared id = .ok state →
    Holds common own state pool.threads.length positions
  request : ∀ (pool : EnginePool) (positions : Nat → Position) (baseline : SystemConfiguration)
    (domain : DomainId) (target : ModeId), Sound model pool positions →
    Holds common own pool.shared pool.threads.length positions →
    allowed pool (.event (.request baseline domain target)) →
    Holds common own { pool.shared with nextTransition := pool.shared.nextTransition + 1 }
      (pool.threads.length + 1) (Function.update positions pool.threads.length
        (opened model (pool.threads.length + 1) baseline domain target))

variable {allowed : EnginePool → EngineChoice → Prop} {model : ValidatedModel} {positions : Nat → Position}
variable {id : TransitionId} {index : Nat} {plan : TransitionPlan} {pool : EnginePool} {domain : DomainId}
variable {target : ModeId}

section Sound
variable {later state : EngineState}

theorem sound_created (configuration : SystemConfiguration) (positions : Nat → Position) :
    Sound model (created configuration) positions where
  staged := Staged.nil positions
  registry := ⟨rfl, SchedulerState.consistent_empty, fun _ _ => ⟨⟨rfl, rfl, rfl⟩, rfl⟩⟩
  owned := by
    intro index inside
    cases inside

theorem cancel_eq_ok (cancelled : cancel state id = .ok later) :
    ∃ flag found, state.cancellation.lookup id = some flag ∧ state.transitions.lookup id = some found ∧
      ¬ (found.phase = .committing ∨ found.phase.isTerminal = true) ∧
      later = { state with cancellation := state.cancellation.insert id true } := by
  unfold ExecutionEngine.cancel at cancelled
  split at cancelled
  · rename_i flag found flagged known
    split at cancelled
    · cases cancelled
    · rename_i open_
      exact ⟨flag, found, flagged, known, open_, (Except.ok.inj cancelled).symm⟩
  · cases cancelled

theorem Unknown.cancel {other : TransitionId} (unknown : Unknown other state)
    (cancelled : cancel state id = .ok later) : Unknown other later := by
  obtain ⟨flag, found, flagged, _, _, rfl⟩ := cancel_eq_ok cancelled
  have different : other ≠ id := by
    rintro rfl
    rw [unknown.cancellation] at flagged
    cases flagged
  exact ⟨unknown.transitions, unknown.plans, (AList.lookup_insert_ne different).trans unknown.cancellation⟩

theorem Owned.cancel {position : Position} (owned : Owned model index position state)
    (cancelled : cancel state id = .ok later) : Owned model index position later := by
  have unregistered (missing : position.registered = false) :=
    (owned.unregistered missing).imp_right fun unknown => unknown.cancel cancelled
  obtain ⟨flag, found, flagged, _, _, rfl⟩ := cancel_eq_ok cancelled
  exact ⟨owned.id, owned.phase, owned.failure, owned.planned, unregistered, owned.unleased,
    owned.stored, owned.plans, owned.leased, owned.free, owned.idle, owned.work⟩

variable {count : Nat}

theorem Registry.cancel (registry : Registry state count) (cancelled : cancel state id = .ok later) :
    Registry later count := by
  have fresh (id : Nat) (outside : count < id) :=
    (registry.fresh id outside).imp_left fun unknown => unknown.cancel cancelled
  obtain ⟨flag, found, flagged, _, _, rfl⟩ := cancel_eq_ok cancelled
  exact ⟨registry.next, registry.consistent, fresh⟩

theorem opened_plan {baseline : SystemConfiguration}
    (planned : (opened model id baseline domain target).plan = some plan) :
    TransitionPlanner.plan model baseline domain target = .ok plan := by
  change (TransitionPlanner.plan model baseline domain target).toOption = some plan at planned
  cases result : TransitionPlanner.plan model baseline domain target with
  | error cause =>
      rw [result] at planned
      cases planned
  | ok found =>
      rw [result] at planned
      rw [Option.some.inj planned]

theorem accept_registers (transition : TransitionSnapshot) (plan : Option TransitionPlan) :
    ∃ next, Work.accept transition plan = .registering next := by
  cases plan <;> exact ⟨_, rfl⟩

/-- The thread of a request starts with nothing but its plan. -/
theorem owned_opened (registry : Registry state count) (baseline : SystemConfiguration)
    (domain : DomainId) (target : ModeId) :
    Owned model count (opened model (count + 1) baseline domain target) state where
  id := rfl
  phase := rfl
  failure := rfl
  planned := fun plan planned => ⟨baseline, opened_plan planned, rfl⟩
  unregistered := by
    intro _
    exact ⟨accept_registers _ _, (registry.fresh (count + 1) (by omega)).1⟩
  unleased := fun _ => rfl
  stored := by
    intro registered
    cases registered
  plans := by
    intro registered
    cases registered
  leased := by
    intro leased
    cases leased
  free := fun _ => (registry.fresh (count + 1) (by omega)).2
  idle := fun _ => idleAccount_silent.accept trivial
  work := Stored.accept rfl

end Sound

theorem reply_nonempty (op : EngineOp) : Nonempty op.Reply := by
  cases op with
  | readConfiguration => exact ⟨⟨0, ∅, ∅⟩⟩
  | loadPlan => exact ⟨(none : Option TransitionPlan)⟩
  | isCancelled => exact ⟨false⟩
  | expired => exact ⟨false⟩
  | append => exact ⟨(.ok () : Result Unit)⟩
  | wake => exact ⟨(.ok () : Result Unit)⟩
  | requestSystemRecovery => exact ⟨(.ok () : Result Unit)⟩
  | getTransition => exact ⟨(.error {} : Result TransitionSnapshot)⟩
  | enter => exact ⟨(.ok true : Result Bool)⟩
  | replan => exact ⟨(.error {} : Result TransitionPlan)⟩
  | stop => exact ⟨(.ok {} : Result BackendEvidence)⟩
  | start => exact ⟨(.ok {} : Result BackendEvidence)⟩
  | _ => exact ⟨()⟩

variable {op : EngineOp} {reply : op.Reply}

section Leases
variable {first second : Nat} {state : EngineState} {later position : Position}

/-- An accepted plan has the form that the planner gives it. -/
theorem Owned.accepted (owned : Owned model index position state)
    (planned : position.plan = some plan) : ∃ baseline required, TransitionPlanner.Planned model baseline
      position.transition.domain position.transition.targetMode plan required ∧
      position.transition.sourceMode = plan.sourceMode := by
  obtain ⟨baseline, built, source⟩ := owned.planned plan planned
  obtain ⟨required, facts, _⟩ := TransitionPlanner.buildPlan_eq_ok built
  refine ⟨baseline, required, facts, ?_⟩
  rw [source, facts.source]
  rfl

section
variable (sound : Sound model pool positions)
include sound

/-- Two leased threads have requested resources that are apart. -/
theorem Sound.plans_apart (one : first < pool.threads.length)
    (two : second < pool.threads.length) (different : first ≠ second)
    (oneLeased : (positions first).leased = true) (twoLeased : (positions second).leased = true)
    {left right : TransitionPlan} (leftPlan : (positions first).plan = some left)
    (rightPlan : (positions second).plan = some right) : (planResources left).Apart (planResources right) := by
  obtain ⟨_, leftHeld, samePlan, leftChecked, leftLease⟩ := (sound.owned first one).leased oneLeased
  obtain rfl := Option.some.inj (samePlan.symm.trans leftPlan)
  obtain ⟨_, rightHeld, samePlan, rightChecked, rightLease⟩ := (sound.owned second two).leased twoLeased
  obtain rfl := Option.some.inj (samePlan.symm.trans rightPlan)
  have apart := sound.registry.consistent.apart (fun same => different (Nat.succ.inj same)) leftLease
    rightLease
  intro kind id inLeft inRight
  exact apart kind id ((SchedulerState.mem_checkRequest leftChecked kind id).mpr inLeft)
    ((SchedulerState.mem_checkRequest rightChecked kind id).mpr inRight)

/-- Two leased threads do not constrain each other's domain. -/
theorem Sound.guarded_apart (one : first < pool.threads.length)
    (two : second < pool.threads.length) (different : first ≠ second)
    (oneLeased : (positions first).leased = true) (twoLeased : (positions second).leased = true) :
    (positions first).transition.domain ∉
      TransitionPlanner.guardedDomains model (positions second).transition.domain := by
  obtain ⟨left, _, leftPlan, _, _⟩ := (sound.owned first one).leased oneLeased
  obtain ⟨right, _, rightPlan, _, _⟩ := (sound.owned second two).leased twoLeased
  have apart := sound.plans_apart one two different oneLeased twoLeased leftPlan rightPlan
  obtain ⟨_, _, leftFacts, _⟩ := (sound.owned first one).accepted leftPlan
  obtain ⟨_, _, rightFacts, _⟩ := (sound.owned second two).accepted rightPlan
  intro guarded
  apply apart .domain (positions first).transition.domain
  · show _ ∈ left.guardedDomains
    rw [leftFacts.guardedDomains_eq, mem_sorted]
    exact TransitionPlanner.mem_guardedDomains_self model _
  · show _ ∈ right.guardedDomains
    rw [rightFacts.guardedDomains_eq, mem_sorted]
    exact guarded

/-- A pending operation of a thread is a step of its position. -/
theorem Sound.rule_of_pending (pending : pool.pending index = some op)
    (reply : op.Reply) : index < pool.threads.length ∧
      ∃ later, Rule model (positions index) op reply later := by
  obtain ⟨program, found, calls⟩ := Option.bind_eq_some_iff.mp pending
  cases program with
  | done value => cases calls
  | call other next =>
      obtain rfl := Option.some.inj calls
      obtain ⟨later, rule, _⟩ := (sound.staged index _ found).call reply
      exact ⟨(List.getElem?_eq_some_iff.mp found).1, later, rule⟩

end

theorem rule_ne_finished (rule : Rule model position op reply later) : position.work ≠ .finished := by
  intro finished
  cases rule with
  | register => cases finished
  | enterGranted => cases finished
  | wakeGranted => cases finished
  | release => cases finished
  | @move position work later op reply moves =>
      obtain rfl : work = .finished := finished
      cases moves

theorem finished_of_returned (staged : Staged (fun _ => Rule model) Returned pool.threads positions)
    (inside : index < pool.threads.length) (returned : pool.pending index = none)
    (known : (positions index).work ≠ .void) : (positions index).work = .finished := by
  have found : pool.threads[index]? = some pool.threads[index] := List.getElem?_eq_getElem inside
  have follows := staged index _ found
  unfold Pool.pending at returned
  rw [found] at returned
  cases program : pool.threads[index] with
  | call op next =>
      rw [program] at returned
      cases returned
  | done value =>
      rw [program] at follows
      exact follows.resolve_right known

/-- A thread without a pending operation has finished. -/
theorem Sound.finished (sound : Sound model pool positions) (inside : index < pool.threads.length)
    (returned : pool.pending index = none) : (positions index).work = .finished :=
  finished_of_returned sound.staged inside returned (sound.owned index inside).work_ne_void

/-- A thread that needs its lease for an operation holds it. -/
theorem Owned.leased_of_requires (owned : Owned model index position state)
    (rule : Rule model position op reply later) (needs : ¬ idleAccount.Requires op ()) : position.leased = true := by
  by_contra free
  rw [Bool.not_eq_true] at free
  exact needs ((owned.idle free).requires rule)

/-- A thread registers its transition before it does anything else. -/
theorem Owned.registered_of_rule (owned : Owned model index position state)
    (rule : Rule model position op reply later) (other : ∀ transition plan, op ≠ .register transition plan) :
    position.registered = true := by
  by_contra missing
  rw [Bool.not_eq_true] at missing
  obtain ⟨⟨next, registering⟩, _⟩ := owned.unregistered missing
  cases rule with
  | register => exact other _ _ rfl
  | enterGranted => cases registering
  | wakeGranted => cases registering
  | release => cases registering
  | @move position work later op reply moves =>
      obtain rfl : work = .registering next := registering
      cases moves

end Leases

section Rules
variable {position later : Position}

/-- A thread keeps its lease until it releases it. -/
theorem leased_step (rule : Rule model position op reply later) (leased : position.leased = true) :
    later.leased = true ∨ later.leased = false ∧ later.work = .finished := by
  cases rule with
  | release => exact .inr ⟨rfl, rfl⟩
  | _ => first
    | exact .inl leased
    | exact .inl rfl

theorem registered_step (rule : Rule model position op reply later)
    (registered : position.registered = true) : later.registered = true := by
  cases rule with
  | register => rfl
  | _ => exact registered

variable {reply : Result TransitionPlan}

theorem rule_replan (rule : Rule model position (.replan domain target) reply later) (known : position.work ≠ .void) :
    position.work = .replanning ∧ domain = position.transition.domain ∧ target = position.transition.targetMode := by
  cases rule with
  | move position moves =>
      cases moves with
      | void => exact absurd rfl known
      | replan => exact ⟨rfl, rfl, rfl⟩
      | attempt _ _ _ attempted | attemptFailed _ _ _ attempted => simp [AttemptOp] at attempted

/-- The second plan of a thread decides how it continues. -/
theorem rule_confirm (rule : Rule model position (.replan domain target) reply later) (known : position.work ≠ .void)
    {accepted : TransitionPlan} (planned : position.plan = some accepted) :
    later = position.go (Work.confirm model position.transition accepted reply) := by
  cases rule with
  | move position moves =>
      cases moves with
      | void => exact absurd rfl known
      | replan other same =>
          obtain rfl := Option.some.inj (same.symm.trans planned)
          rfl
      | attempt _ _ _ attempted | attemptFailed _ _ _ attempted => simp [AttemptOp] at attempted

theorem rule_opening {reply : Result TransitionSnapshot}
    (rule : Rule model position (.getTransition id) reply later) (known : position.work ≠ .void) :
    position.work = .opening := by
  cases rule with
  | move position moves =>
      cases moves with
      | void => exact absurd rfl known
      | opened => rfl
      | stray => rfl
      | attempt _ _ _ attempted | attemptFailed _ _ _ attempted => simp [AttemptOp] at attempted

theorem rule_release (rule : Rule model position (.release id) () later)
    (known : position.work ≠ .void) : position.work = .releasing := by
  cases rule with
  | release => rfl
  | move position moves =>
      cases moves with
      | void => exact absurd rfl known
      | attempt _ _ _ attempted | attemptFailed _ _ _ attempted => simp [AttemptOp] at attempted

/-- A commit belongs to a leased thread and to its own domain. -/
theorem rule_commit {mode : ModeId} (rule : Rule model position (.commit domain mode) () later)
    (known : position.work ≠ .void) : domain = position.transition.domain := by
  cases rule with
  | move position moves =>
      cases moves with
      | void => exact absurd rfl known
      | commit domain mode next same => exact same
      | attempt _ _ _ attempted | attemptFailed _ _ _ attempted => simp [AttemptOp] at attempted

theorem committedModes_effect (other : ∀ domain mode, op ≠ .commit domain mode)
    (reply : op.Reply) (state : EngineState) :
    (effect op reply state).configuration.committedModes = state.configuration.committedModes := by
  unfold effect
  split
  all_goals try rfl
  exact absurd rfl (other _ _)

end Rules

section Induction
variable {common : EngineState → Nat → (Nat → Position) → Prop}
variable {own : Nat → Position → EngineState → Prop} {start pool : EnginePool}

/-- The invariant of the engine together with a maintained one. -/
abbrev Both (common : EngineState → Nat → (Nat → Position) → Prop) (state : EngineState) (count : Nat)
    (positions : Nat → Position) : Prop := Registry state count ∧ common state count positions

abbrev BothOwn (model : ValidatedModel) (own : Nat → Position → EngineState → Prop) (index : Nat)
    (position : Position) (state : EngineState) : Prop := Owned model index position state ∧ own index position state

theorem Sound.both (sound : Sound model pool positions)
    (holds : Holds common own pool.shared pool.threads.length positions) :
    Holds (Both common) (BothOwn model own) pool.shared pool.threads.length positions :=
  ⟨⟨sound.registry, holds.common⟩, fun index inside =>
    ⟨sound.owned index inside, holds.own index inside⟩⟩

theorem sound_of_both (staged : Staged (fun _ => Rule model) Returned pool.threads positions)
    (both : Holds (Both common) (BothOwn model own) pool.shared pool.threads.length positions) :
    Sound model pool positions ∧ Holds common own pool.shared pool.threads.length positions :=
  ⟨⟨staged, both.common.1, fun index inside => (both.own index inside).1⟩,
    both.common.2, fun index inside => (both.own index inside).2⟩

theorem pending_of_getElem? {next : op.Reply → EngineProgram _}
    (found : pool.threads[index]? = some (.call op next)) : pool.pending index = some op := by
  unfold Pool.pending
  rw [found]
  rfl

/-- A cancellation that is refused changes nothing. -/
theorem occur_cancel {state shared : EngineState} {started : Option (EngineProgram (Result TransitionSnapshot))}
    (occurred : (machine model).occur (.cancel id) state = some (shared, started)) :
    started = none ∧ (shared = state ∨ cancel state id = .ok shared) := by
  simp only [machine, occur] at occurred
  split at occurred
  · rename_i cancelled result
    obtain ⟨rfl, rfl⟩ := Prod.mk.inj (Option.some.inj occurred)
    exact ⟨rfl, .inr result⟩
  · obtain ⟨rfl, rfl⟩ := Prod.mk.inj (Option.some.inj occurred)
    exact ⟨rfl, .inl rfl⟩

variable {later : EnginePool}

/-- An event changes no stored snapshot. -/
theorem transitions_event {event : EngineEvent} (fired : (machine model).fire pool (.event event) = some later) :
    later.shared.transitions = pool.shared.transitions := by
  obtain ⟨shared, started, occurred, rfl⟩ := Machine.fire_event_eq_some fired
  cases event with
  | request baseline domain target =>
      obtain ⟨rfl, _⟩ := Prod.mk.inj (Option.some.inj occurred)
      rfl
  | cancel id =>
      rcases (occur_cancel occurred).2 with rfl | cancelled
      · rfl
      · obtain ⟨_, _, _, _, _, rfl⟩ := cancel_eq_ok cancelled
        rfl

/-- One step of the engine with the positions after it. -/
inductive Advances (model : ValidatedModel) (pool : EnginePool) (positions : Nat → Position) :
    EngineChoice → EnginePool → (Nat → Position) → Prop
  | thread {index : Nat} {input : EngineInput} {op : EngineOp} {reply : op.Reply} {later : Position}
      (next : op.Reply → EngineProgram (Result TransitionSnapshot))
      (found : pool.threads[index]? = some (.call op next))
      (step : ThreadStep model (fun _ _ => True) pool positions index input op reply later) :
      Advances model pool positions (.thread index input)
        ⟨effect op reply pool.shared, pool.threads.set index (next reply)⟩
        (Function.update positions index later)
  | request (baseline : SystemConfiguration) (domain : DomainId) (target : ModeId)
      (program : EngineProgram (Result TransitionSnapshot)) :
      Advances model pool positions (.event (.request baseline domain target))
        ⟨{ pool.shared with nextTransition := pool.shared.nextTransition + 1 }, pool.threads ++ [program]⟩
        (Function.update positions pool.threads.length (opened model (pool.threads.length + 1) baseline domain target))
  | cancel (id : TransitionId) {shared : EngineState}
      (cancelled : ExecutionEngine.cancel pool.shared id = .ok shared) :
      Advances model pool positions (.event (.cancel id)) ⟨shared, pool.threads⟩ positions
  | spare (id : TransitionId) : Advances model pool positions (.event (.cancel id)) pool positions

/-- The positions follow a step of the engine. -/
theorem Sound.fire (sound : Sound model pool positions) {choice : EngineChoice}
    (fired : (machine model).fire pool choice = some later) :
    ∃ next, Sound model later next ∧ Advances model pool positions choice later next := by
  cases choice with
  | thread index input =>
      obtain ⟨op, next, reply, shared, found, performed, rfl⟩ := Machine.fire_thread_eq_some fired
      obtain ⟨answers, rfl⟩ := perform_eq_some performed
      obtain ⟨position, rule, follows⟩ := (sound.staged index _ found).call reply
      have inside : index < pool.threads.length := (List.getElem?_eq_some_iff.mp found).1
      have owned := sound.owned index inside
      refine ⟨_, ⟨sound.staged.set follows, ?_, ?_⟩, .thread next found
        ⟨trivial, inside, pending_of_getElem? found, rule, performed, answers⟩⟩
      · rw [List.length_set]
        exact sound.registry.step inside owned rule answers
      · intro other within
        rw [List.length_set] at within
        by_cases same : other = index
        · rw [same, Function.update_self]
          exact owned.step rule answers
        · rw [Function.update_of_ne same]
          apply (sound.owned other within).frame
          exact owned.others rule fun equal => same (Nat.succ.inj equal)
  | event event =>
      obtain ⟨shared, started, occurred, rfl⟩ := Machine.fire_event_eq_some fired
      cases event with
      | cancel id =>
          obtain ⟨rfl, outcome⟩ := occur_cancel occurred
          have threads : pool.threads ++ Option.toList none = pool.threads := List.append_nil _
          rw [threads]
          rcases outcome with rfl | cancelled
          · exact ⟨positions, sound, .spare id⟩
          · exact ⟨positions, ⟨sound.staged, sound.registry.cancel cancelled, fun index inside =>
              (sound.owned index inside).cancel cancelled⟩, .cancel id cancelled⟩
      | request baseline domain target =>
          obtain ⟨rfl, rfl⟩ := Prod.mk.inj (Option.some.inj occurred)
          have next := sound.registry.next
          refine ⟨_, ⟨sound.staged.concat ?_, ?_, ?_⟩, .request baseline domain target _⟩
          · rw [next]
            exact follows_requestModeFrom model _ baseline domain target
          · rw [List.length_append]
            exact sound.registry.request
          · intro index inside
            by_cases last : index = pool.threads.length
            · rw [last, Function.update_self]
              exact (owned_opened sound.registry baseline domain target).frame (sameEntries_next _ _)
            · rw [Function.update_of_ne last]
              have within : index < pool.threads.length := by
                simp at inside
                omega
              exact (sound.owned index within).frame (sameEntries_next _ _)

/-- A maintained invariant holds in every pool of a run. -/
theorem Maintains.reaches (maintains : Maintains model allowed common own)
    {first : Nat → Position} (sound : Sound model start first)
    (holds : Holds common own start.shared start.threads.length first)
    (reached : (machine model).Reaches allowed start pool) :
    ∃ positions, Sound model pool positions ∧ Holds common own pool.shared pool.threads.length positions := by
  have both : ∃ positions, Staged (fun _ => Rule model) Returned pool.threads positions ∧
      Holds (Both common) (BothOwn model own) pool.shared pool.threads.length positions := by
    refine reached.invariant first sound.staged (sound.both holds) ?_ ?_ ?_
    · intro pool positions index input op next reply shared later staged both permitted found rule
        performed
      obtain ⟨sound, holds⟩ := sound_of_both staged both
      obtain ⟨answers, rfl⟩ := perform_eq_some performed
      have inside : index < pool.threads.length := (List.getElem?_eq_some_iff.mp found).1
      have kept := maintains.step pool positions index input op reply later sound holds
        ⟨permitted, inside, pending_of_getElem? found, rule, performed, answers⟩
      have owned := sound.owned index inside
      refine ⟨⟨sound.registry.step inside owned rule answers, kept.common⟩, ⟨owned.step rule answers, kept.moved⟩, ?_⟩
      intro other within different
      refine ⟨(sound.owned other within).frame ?_, kept.others other within different⟩
      exact owned.others rule fun same => different (Nat.succ.inj same)
    · intro pool positions event shared staged both permitted occurred
      obtain ⟨sound, holds⟩ := sound_of_both staged both
      cases event with
      | request baseline domain target => cases occurred
      | cancel id =>
          rcases (occur_cancel occurred).2 with rfl | result
          · exact both
          · have kept := maintains.cancel pool positions id shared sound holds permitted result
            exact ⟨⟨sound.registry.cancel result, kept.common⟩, fun index inside =>
              ⟨(sound.owned index inside).cancel result, kept.own index inside⟩⟩
    · intro pool positions event shared program staged both permitted occurred
      obtain ⟨sound, holds⟩ := sound_of_both staged both
      cases event with
      | cancel id =>
          cases (occur_cancel occurred).1
      | request baseline domain target =>
          obtain ⟨rfl, started⟩ := Prod.mk.inj (Option.some.inj occurred)
          obtain rfl := Option.some.inj started
          have kept := maintains.request pool positions baseline domain target sound holds permitted
          have next := sound.registry.next
          refine ⟨opened model (pool.threads.length + 1) baseline domain target, ?_, ⟨?_, kept.common⟩, ⟨?_, ?_⟩, ?_⟩
          · rw [next]
            exact follows_requestModeFrom model _ baseline domain target
          · exact sound.registry.request
          · exact (owned_opened sound.registry baseline domain target).frame (sameEntries_next _ _)
          · have fresh := kept.own pool.threads.length (by omega)
            rwa [Function.update_self] at fresh
          · intro other inside
            have old := kept.own other (by omega)
            rw [Function.update_of_ne (by omega)] at old
            exact ⟨(sound.owned other inside).frame (sameEntries_next _ _), old⟩
  obtain ⟨positions, staged, holds⟩ := both
  exact ⟨positions, sound_of_both staged holds⟩

/-- The positions of an engine without threads. -/
def nowhere (_ : Nat) : Position := ⟨⟨0, 0, 0, 0, .received, none⟩, none, false, false, .finished⟩

variable {configuration : SystemConfiguration}

/-- A maintained invariant holds in every pool that a fresh engine reaches. -/
theorem Maintains.fromCreated (maintains : Maintains model allowed common own)
    (initial : ∀ positions, common (created configuration).shared 0 positions)
    (reached : (machine model).Reaches allowed (created configuration) pool) :
    ∃ positions, Sound model pool positions ∧ Holds common own pool.shared pool.threads.length positions := by
  refine maintains.reaches (sound_created configuration nowhere) ⟨initial nowhere, ?_⟩ reached
  intro index inside
  cases inside

/-- Every pool that a fresh engine reaches is sound. -/
theorem sound_of_reaches (reached : (machine model).Reaches allowed (created configuration) pool) :
    ∃ positions, Sound model pool positions := by
  have trivially : Maintains model allowed (fun _ _ _ => True) (fun _ _ _ => True) :=
    ⟨fun _ _ _ _ _ _ _ _ _ _ => ⟨trivial, trivial, fun _ _ _ => trivial⟩,
      fun _ _ _ _ _ _ _ _ => ⟨trivial, fun _ _ => trivial⟩,
      fun _ _ _ _ _ _ _ _ => ⟨trivial, fun _ _ => trivial⟩⟩
  obtain ⟨positions, sound, _⟩ := trivially.fromCreated (fun _ => trivial) reached
  exact ⟨positions, sound⟩

end Induction

/-- A schedule of a fresh engine that ends in a pool with a property is such a run. -/
theorem exists_run (model : ValidatedModel) (configuration : SystemConfiguration)
    (check : EnginePool → EngineChoice → Bool) (sound : ∀ pool choice, check pool choice = true → allowed pool choice)
    (schedule : List (EnginePool → EngineChoice)) (property : EnginePool → Prop)
    [DecidablePred property] (executed : ((machine model).run check schedule
      (created configuration)).any (fun pool => decide (property pool)) = true) :
    ∃ pool, (machine model).Reaches allowed (created configuration) pool ∧ property pool := by
  obtain ⟨pool, reached, holds⟩ := System.Reaches.exists_of_run check sound schedule _ executed
  exact ⟨pool, reached, of_decide_eq_true holds⟩

/-- The journal refuses the pending event of a thread. -/
def refuseAppend (index : Nat) (_ : EnginePool) : EngineChoice :=
  .thread index (.journal (.error (makeError .persistenceError "journal is full")))

end OpenVehicle.Exec
