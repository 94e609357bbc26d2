/-
This file proves what the projected configuration of the service is for. In a model with one domain, the accepted
transitions lead to it one after the other, so that the second plan of a transition confirms the accepted one whenever
the transitions take their leases in order.
-/

import OpenVehicle.Exec.QueueProgress

namespace OpenVehicle.Exec

open Concurrency FiniteMap ExecutionEngine TransitionPlanner

variable {model : ValidatedModel} {target : SystemConfiguration} {op : EngineOp}

/-- The account of a confirmed thread that reaches a configuration. Every unfavourable path is excused. -/
def reachingAccount (domain : DomainId) (target : SystemConfiguration) : Account SystemConfiguration where
  erased := fun unit => configure (.eraseRunning unit)
  inserted := fun unit => configure (.insertRunning unit)
  committed := fun mode => configure (.commit domain mode)
  opens := fun _ => False
  waits := fun _ => False
  replans := fun _ => False
  reads := fun _ _ => False
  finishes := fun configuration => configuration = target
  excuses := fun _ _ => True

section Reaching
variable {position later : Position} {reply : op.Reply} {state : EngineState}

/-- Every undisturbed step of a confirmed thread leads on to the same configuration. -/
theorem reaching_step (rule : Rule model position op reply later) (favourable : Favourable op reply)
    (answers : Answers model op reply state)
    (reaches : (reachingAccount position.transition.domain target).Assured position.work state.configuration) :
    (reachingAccount position.transition.domain target).Assured later.work (effect op reply state).configuration := by
  have known : position.work ≠ .void := by
    intro void
    rw [void] at reaches
    exact reaches
  have seen : (effect op reply state).configuration =
      (reachingAccount position.transition.domain target).after op reply state.configuration := by
    rw [configuration_effect]
    cases op with
    | commit domain mode =>
        obtain rfl := rule_commit rule known
        rfl
    | append event => cases reply <;> rfl
    | _ => rfl
  rw [seen]
  refine reaches.advance rule answers ⟨fun _ _ _ => trivial, fun _ _ => False.elim, False.elim,
    fun _ _ _ => False.elim, fun _ _ => False.elim⟩ (fun granted => granted) (fun opening => ?_)
    ⟨fun _ _ kept => kept, fun refused => absurd favourable refused, fun _ _ _ => trivial⟩
  rw [opening] at reaches
  exact reaches.elim

/-- A confirmed plan leads to the configuration that the service projects. -/
theorem reaching_execute (transition : TransitionSnapshot) (plan : TransitionPlan)
    (configuration : SystemConfiguration) : (reachingAccount transition.domain (Coordinator.project transition.domain
      transition.targetMode plan configuration)).Assured (Work.execute model transition plan) configuration := by
  have carries (target : SystemConfiguration) : (reachingAccount transition.domain target).Carries model transition
      plan fun starting rest configuration => Coordinator.project transition.domain transition.targetMode
        (if starting then { plan with stop := [], start := rest } else { plan with stop := rest })
        configuration = target :=
    { records := fun _ _ _ _ _ held => ⟨trivial, held, held⟩
      leaves := fun _ _ _ _ => ⟨.inl trivial, .inl trivial⟩
      stops := fun _ _ _ held => ⟨trivial, trivial, held⟩
      turns := fun _ held => held
      starts := fun _ _ _ held => ⟨trivial, trivial, held⟩
      commits := by
        intro configuration held
        refine ⟨trivial, ?_⟩
        rintro snapshot rfl
        exact ⟨trivial, held, fun _ => .inl trivial⟩ }
  exact (carries _).execute rfl

end Reaching

namespace Coordinator
variable {transition : AcceptedTransition} {positions next : Nat → Position} {other : AcceptedTransition} {index : Nat}
variable {state later : State} {position : Position} {pool : EnginePool} {domain : DomainId}

/-- A transition takes its lease in its turn. -/
def leasesInTurn (state : State) : Action → Bool
  | .engine index _ =>
      match state.pool.pending index with
      | some (.enter _ resources) | some (.wake _ resources) =>
          !state.pool.shared.scheduler.admits resources || isNext state (index + 1)
      | _ => true
  | _ => true

/-- The transitions lead from one configuration to another. Each of them is planned where the previous one ends. -/
inductive Leads (model : ValidatedModel) : SystemConfiguration → List AcceptedTransition → SystemConfiguration → Prop
  | nil (configuration : SystemConfiguration) : Leads model configuration [] configuration
  | cons {configuration target : SystemConfiguration} {transition : AcceptedTransition}
      {rest : List AcceptedTransition}
      (planned : plan model configuration transition.plan.domain transition.plan.targetMode = .ok transition.plan)
      (leads : Leads model (project transition.plan.domain transition.plan.targetMode transition.plan configuration)
        rest target) : Leads model configuration (transition :: rest) target

theorem Leads.append {configuration target : SystemConfiguration} {transitions : List AcceptedTransition}
    (leads : Leads model configuration transitions target)
    (planned : plan model target transition.plan.domain transition.plan.targetMode = .ok transition.plan) :
    Leads model configuration (transitions ++ [transition])
      (project transition.plan.domain transition.plan.targetMode transition.plan target) := by
  induction leads with
  | nil => exact .cons planned (.nil _)
  | cons first _ ih => exact .cons first (ih planned)

/-- The thread has not been confirmed yet. -/
def Awaits (position : Position) : Prop :=
  position.leased = false ∧ (position.work = .opening ∨ position.work = .entering ∨ position.work = .waiting) ∨
    position.leased = true ∧ position.work = .replanning

/-- The confirmed transitions come before the others, and at most one of them has not finished. It reaches a
configuration from which the others lead to the projected one. -/
structure Chain (model : ValidatedModel) (state : State) (positions : Nat → Position) (target : SystemConfiguration)
    (begun waiting : List AcceptedTransition) : Prop where
  split : state.accepted = begun ++ waiting
  leads : Leads model target waiting state.projected
  awaits : ∀ transition ∈ waiting, Awaits (positions (transition.id - 1))
  current : begun = [] ∧ state.pool.shared.configuration = target ∨ ∃ transition ∈ begun,
    (∀ other ∈ begun, other ≠ transition → (positions (other.id - 1)).work = .finished) ∧
    (reachingAccount (positions (transition.id - 1)).transition.domain target).Assured
      (positions (transition.id - 1)).work state.pool.shared.configuration

/-- Every accepted transition has finished. -/
def AllFinished (state : State) (positions : Nat → Position) : Prop :=
  ∀ transition ∈ state.accepted, (positions (transition.id - 1)).work = .finished

/-- The transitions of one domain are planned where the previous ones end. -/
structure Chained (model : ValidatedModel) (state : State) (positions : Nat → Position) : Prop where
  chain : ∃ target begun waiting, Chain model state positions target begun waiting
  direct : ∀ domain mode, state.request ≠ some (.superseding domain mode)
  checked : ∀ domain mode, state.request = some (.checked domain mode false) → AllFinished state positions
  asked : ∀ index domain mode, state.request = some (.accepting index domain mode) →
    ∀ accepted, (positions index).plan = some accepted → plan model state.projected domain mode = .ok accepted

section Steps
variable {begun waiting : List AcceptedTransition}

theorem Awaits.unfinished (awaits : Awaits position) : position.work ≠ .finished := by
  intro finished
  rcases awaits with ⟨_, work | work | work⟩ | ⟨_, work⟩
  all_goals cases finished.symm.trans work

/-- A step of the thread of an accepted transition leaves the other accepted transitions alone. -/
theorem Tracked.untouched (tracked : Tracked model state positions)
    (listed : other ∈ state.accepted) (member : transition ∈ state.accepted) (different : other ≠ transition) :
    Function.update positions (transition.id - 1) position (other.id - 1) = positions (other.id - 1) := by
  refine Function.update_of_ne (fun same => different ?_) _ _
  apply tracked.unique listed member
  rw [(tracked.thread listed).2, (tracked.thread member).2, same]

/-- The plan of an accepted transition has the goal of its thread. -/
theorem Serving.goal (serving : Serving model state positions) (tracked : Tracked model state positions)
    (member : transition ∈ state.accepted) :
    transition.plan.domain = (positions (transition.id - 1)).transition.domain ∧
      transition.plan.targetMode = (positions (transition.id - 1)).transition.targetMode := by
  obtain ⟨_, _, facts, _⟩ :=
    (tracked.sound.owned _ (tracked.thread member).1).accepted (serving.planned transition member)
  rw [facts.shape]
  exact ⟨rfl, rfl⟩

section
variable (chain : Chain model state positions target begun waiting)
include chain

/-- No transition is confirmed and waiting. -/
theorem Chain.apart (tracked : Tracked model state positions)
    (old : other ∈ begun) (fresh : transition ∈ waiting) : other ≠ transition := by
  have distinct : (state.accepted.map (·.id)).Nodup := tracked.ordered.imp fun less => Nat.ne_of_lt less
  rw [chain.split] at distinct
  exact (List.nodup_append.mp distinct.of_map).2.2 other old transition fresh

/-- The configuration is reached when every confirmed transition has finished. -/
theorem Chain.settled (finished : ∀ transition ∈ begun, (positions (transition.id - 1)).work = .finished) :
    state.pool.shared.configuration = target := by
  rcases chain.current with ⟨_, settled⟩ | ⟨transition, member, _, reaches⟩
  · exact settled
  · rw [finished transition member] at reaches
    exact reaches

/-- A step that leaves the configurations and the confirmed threads alone. -/
theorem Chain.frame (configuration : later.pool.shared.configuration = state.pool.shared.configuration)
    (accepted : later.accepted = state.accepted) (projected : later.projected = state.projected)
    (same : ∀ transition ∈ begun, next (transition.id - 1) = positions (transition.id - 1))
    (awaits : ∀ transition ∈ waiting, Awaits (next (transition.id - 1))) :
    Chain model later next target begun waiting := by
  refine ⟨accepted.trans chain.split, projected ▸ chain.leads, awaits, ?_⟩
  rw [configuration]
  refine chain.current.imp_right ?_
  rintro ⟨transition, member, others, reaches⟩
  refine ⟨transition, member, fun other listed different => ?_, ?_⟩
  · rw [same other listed]
    exact others other listed different
  · rw [same transition member]
    exact reaches

/-- A step that leaves the configurations and the accepted threads alone. -/
theorem Chain.still (configuration : later.pool.shared.configuration = state.pool.shared.configuration)
    (accepted : later.accepted = state.accepted) (projected : later.projected = state.projected)
    (same : ∀ transition ∈ state.accepted, next (transition.id - 1) = positions (transition.id - 1)) :
    Chain model later next target begun waiting := by
  refine chain.frame configuration accepted projected (fun transition member => ?_) fun transition member => ?_
  · exact same transition (chain.split ▸ List.mem_append_left _ member)
  · rw [same transition (chain.split ▸ List.mem_append_right _ member)]
    exact chain.awaits transition member

/-- The configuration is the projected one when every transition has finished. -/
theorem Chain.projected
    (finished : AllFinished state positions) : state.pool.shared.configuration = state.projected := by
  have settled := chain.settled fun transition member =>
    finished transition (chain.split ▸ List.mem_append_left _ member)
  cases waiting with
  | nil =>
      cases chain.leads
      exact settled
  | cons first rest =>
      have listed : first ∈ state.accepted := chain.split ▸ List.mem_append_right _ List.mem_cons_self
      exact absurd (finished first listed) (chain.awaits first List.mem_cons_self).unfinished

/-- A step of a confirmed thread leads on to the same configuration. -/
theorem Chain.progress {input : EngineInput} {reply : op.Reply} (tracked : Tracked model state positions)
    (step : ThreadStep model (fun _ _ => True) state.pool positions (transition.id - 1) input op reply position)
    (favourable : Favourable op reply) (shared : pool.shared = effect op reply state.pool.shared)
    (old : transition ∈ begun) : Chain model { state with pool := pool }
      (Function.update positions (transition.id - 1) position) target begun waiting := by
  have untouched {other : AcceptedTransition} (listed : other ∈ begun ++ waiting) (different : other ≠ transition) :
      Function.update positions (transition.id - 1) position (other.id - 1) = positions (other.id - 1) :=
    tracked.untouched (chain.split ▸ listed) (chain.split ▸ List.mem_append_left _ old) different
  rcases chain.current with ⟨rfl, _⟩ | ⟨current, _, others, reaches⟩
  · cases old
  · obtain rfl : transition = current := by
      by_contra different
      exact rule_ne_finished step.rule (others transition old different)
    refine ⟨chain.split, chain.leads, fun other listed => ?_,
      .inr ⟨transition, old, fun other listed different => ?_, ?_⟩⟩
    · rw [untouched (List.mem_append_right _ listed) (chain.apart tracked old listed).symm]
      exact chain.awaits other listed
    · rw [untouched (List.mem_append_left _ listed) different]
      exact others other listed different
    · rw [Function.update_self, (rule_transition step.rule).1]
      change (reachingAccount _ target).Assured position.work pool.shared.configuration
      rw [shared]
      exact reaching_step step.rule favourable step.answers reaches

end

section Engine
variable (alone : ∀ first ∈ state.accepted, ∀ second ∈ state.accepted, first.plan.domain = second.plan.domain)
include alone

/-- A transition that is planned again is the first one that waits, and nothing is in progress. -/
theorem Chain.head (chain : Chain model state positions target begun waiting) (tracked : Tracked model state positions)
    (serving : Serving model state positions) (member : transition ∈ state.accepted)
    (leased : (positions (transition.id - 1)).leased = true)
    (replanning : (positions (transition.id - 1)).work = .replanning) : ∃ rest, waiting = transition :: rest ∧
      ∀ other ∈ begun, (positions (other.id - 1)).work = .finished := by
  have ordered := tracked.ordered
  rw [chain.split] at ordered
  rcases List.mem_append.mp (chain.split ▸ member) with old | fresh
  · rcases chain.current with ⟨rfl, _⟩ | ⟨current, _, others, reaches⟩
    · cases old
    · by_cases same : transition = current
      · rw [← same, replanning] at reaches
        exact reaches.elim
      · cases replanning.symm.trans (others transition old same)
  · obtain ⟨before, after, rfl⟩ := List.append_of_mem fresh
    -- The domain takes its leases in order, so that every earlier transition has finished.
    have earlier {other : AcceptedTransition} (listed : other ∈ begun ++ before) :
        (positions (other.id - 1)).work = .finished := by
      rw [← List.append_assoc, List.map_append, List.map_cons, List.pairwise_append] at ordered
      have less := ordered.2.2 other.id (List.mem_map_of_mem listed) transition.id List.mem_cons_self
      have known : other ∈ state.accepted := by
        rw [chain.split, ← List.append_assoc]
        exact List.mem_append_left _ listed
      exact serving.ordered other known transition member less (alone other known transition member) (.inl leased)
    cases before with
    | nil => exact ⟨after, rfl, fun other listed => earlier (List.mem_append_left _ listed)⟩
    | cons first before =>
        have finished := earlier (List.mem_append_right begun (List.mem_cons_self (a := first) (l := before)))
        exact absurd finished (chain.awaits first List.mem_cons_self).unfinished

/-- The second plan of a transition is the accepted one. -/
theorem Chain.again (chain : Chain model state positions target begun waiting) (tracked : Tracked model state positions)
    (serving : Serving model state positions) (member : transition ∈ state.accepted)
    (leased : (positions (transition.id - 1)).leased = true)
    (replanning : (positions (transition.id - 1)).work = .replanning) :
    plan model state.pool.shared.configuration (positions (transition.id - 1)).transition.domain
      (positions (transition.id - 1)).transition.targetMode = .ok transition.plan := by
  obtain ⟨rest, rfl, finished⟩ := chain.head alone tracked serving member leased replanning
  obtain ⟨domain, target⟩ := serving.goal tracked member
  rw [chain.settled finished, ← domain, ← target]
  cases chain.leads with
  | cons planned leads => exact planned

variable {input : EngineInput} {reply : op.Reply}

variable (chain : Chain model state positions target begun waiting)
include chain

/-- A transition that is planned again is confirmed. -/
theorem Chain.confirm (tracked : Tracked model state positions) (serving : Serving model state positions)
    (step : ThreadStep model (fun _ _ => True) state.pool positions (transition.id - 1) input op reply position)
    (shared : pool.shared = effect op reply state.pool.shared) (member : transition ∈ state.accepted)
    (leased : (positions (transition.id - 1)).leased = true)
    (replanning : (positions (transition.id - 1)).work = .replanning) : ∃ target begun waiting,
      Chain model { state with pool := pool } (Function.update positions (transition.id - 1) position)
        target begun waiting := by
  have again := chain.again alone tracked serving member leased replanning
  obtain ⟨rest, rfl, finished⟩ := chain.head alone tracked serving member leased replanning
  have untouched {other : AcceptedTransition} (listed : other ∈ begun ++ transition :: rest)
      (different : other ≠ transition) :
      Function.update positions (transition.id - 1) position (other.id - 1) = positions (other.id - 1) :=
    tracked.untouched (chain.split ▸ listed) member different
  obtain ⟨domain, mode, rfl⟩ := rule_replanning step.rule replanning
  have owned := tracked.sound.owned _ step.inside
  obtain ⟨_, rfl, rfl⟩ := rule_replan step.rule owned.work_ne_void
  have goal := serving.goal tracked member
  have answer : reply = .ok transition.plan := Eq.trans step.answers again
  obtain rfl := rule_confirm step.rule owned.work_ne_void (serving.planned transition member)
  rw [answer, confirm_of_confirms (by simp [confirms])] at untouched ⊢
  have same : pool.shared.configuration = state.pool.shared.configuration := by
    rw [shared, configuration_effect]
    rfl
  have settled := chain.settled finished
  cases chain.leads with
  | cons planned leads =>
      refine ⟨_, begun ++ [transition], rest, by rw [List.append_assoc]; exact chain.split, leads, ?_, .inr
        ⟨transition, List.mem_append_right _ (List.mem_singleton_self _), ?_, ?_⟩⟩
      · intro other listed
        have different : other ≠ transition := by
          rintro rfl
          have distinct : (state.accepted.map (·.id)).Nodup := tracked.ordered.imp fun less => Nat.ne_of_lt less
          rw [chain.split] at distinct
          exact (List.nodup_cons.mp (List.nodup_append.mp distinct.of_map).2.1).1 listed
        rw [untouched (List.mem_append_right _ (List.mem_cons_of_mem _ listed)) different]
        exact chain.awaits other (List.mem_cons_of_mem _ listed)
      · intro other listed different
        have old := (List.mem_append.mp listed).resolve_right fun fresh => different (List.mem_singleton.mp fresh)
        rw [untouched (List.mem_append_left _ old) different]
        exact finished other old
      · rw [Function.update_self, goal.1, goal.2, ← settled, ← same]
        exact reaching_execute (positions (transition.id - 1)).transition transition.plan pool.shared.configuration

/-- A step of a worker keeps the transitions in a chain. -/
theorem Chain.engine (tracked : Tracked model state positions) (serving : Serving model state positions)
    (step : ThreadStep model (fun _ _ => True) state.pool positions index input op reply position)
    (favoured : favours state (.engine index input) = true) (shared : pool.shared = effect op reply state.pool.shared) :
    ∃ target begun waiting,
      Chain model { state with pool := pool } (Function.update positions index position) target begun waiting := by
  have owned := tracked.sound.owned index step.inside
  have favourable := serving.favourable tracked.sound step favoured
  have unleased (free : (positions index).leased = false) :
      pool.shared.configuration = state.pool.shared.configuration :=
    (congrArg _ shared).trans (configuration_unleased owned step.rule free)
  by_cases accepted : ∃ transition ∈ state.accepted, transition.id - 1 = index
  · obtain ⟨transition, member, rfl⟩ := accepted
    rcases List.mem_append.mp (chain.split ▸ member) with old | fresh
    · exact ⟨target, begun, waiting, chain.progress tracked step favourable shared old⟩
    · rcases chain.awaits transition fresh with ⟨free, stage⟩ | ⟨leased, replanning⟩
      · have awaits : Awaits position := by
          rcases stage with opening | waits
          · obtain ⟨entering, same⟩ := rule_opened step.rule opening owned step.answers
            exact .inl ⟨same.trans free, .inr (.inl entering)⟩
          · rcases rule_waiting step.rule waits favourable step.answers with ⟨waiting, same⟩ | ⟨granted, _⟩
            · exact .inl ⟨same.trans free, .inr (.inr waiting)⟩
            · exact .inr granted
        refine ⟨target, begun, waiting,
          chain.frame (unleased free) rfl rfl (fun other old => ?_) fun other listed => ?_⟩
        · exact tracked.untouched (chain.split ▸ List.mem_append_left _ old) member (chain.apart tracked old fresh)
        · by_cases same : other = transition
          · rw [same, Function.update_self]
            exact awaits
          · rw [tracked.untouched (chain.split ▸ List.mem_append_right _ listed) member same]
            exact chain.awaits other listed
      · exact chain.confirm alone tracked serving step shared member leased replanning
  · have free : (positions index).leased = false := by
      by_contra leased
      obtain ⟨transition, member, own⟩ := serving.held index step.inside (Bool.not_eq_false _ ▸ leased)
      exact accepted ⟨transition, member, by rw [own, Nat.add_sub_cancel]⟩
    refine ⟨target, begun, waiting, chain.still (unleased free) rfl rfl fun transition member => ?_⟩
    exact Function.update_of_ne (fun place => accepted ⟨transition, member, place⟩) _ _

end Engine

end Steps

section Service
variable {capacity : Nat} {action : Action}

section
variable (tracked : Tracked model state positions)
include tracked

/-- The thread of a finished transition has finished. -/
theorem Tracked.ended (member : transition ∈ state.accepted)
    (finished : transition.id ∈ state.finished) : (positions (transition.id - 1)).work = .finished := by
  obtain ⟨inside, own⟩ := tracked.thread member
  apply tracked.sound.finished inside
  cases pending : state.pool.pending (transition.id - 1) with
  | none => rfl
  | some op =>
      rcases tracked.moving _ op pending with ⟨domain, mode, asked⟩ | live
      · have bound := (tracked.asked _ domain mode asked).2.2 transition member
        exact absurd (own.symm.le.trans bound) (Nat.not_succ_le_self _)
      · rw [← own] at live
        exact absurd rfl ((List.nodup_append.mp tracked.nodup).2.2 _ live _ finished)

/-- Every transition has finished when the only domain has no active one. -/
theorem allFinished_of_idle (serving : Serving model state positions)
    (current : Current state) (alone : ∀ transition ∈ state.accepted, transition.plan.domain = domain)
    (idle : state.activeDomains.lookup domain = none) : AllFinished state positions := by
  intro transition member
  obtain ⟨before, last, split⟩ := (List.eq_nil_or_concat' _).resolve_left (List.ne_nil_of_mem member)
  have same : lastAccepted domain state = some last.id := by
    unfold lastAccepted
    rw [List.filter_eq_self.mpr fun other listed => beq_iff_eq.mpr (alone other listed), split, List.getLast?_concat]
    rfl
  have listed : last ∈ state.accepted := split ▸ List.mem_append_right _ (List.mem_singleton_self _)
  have ended : (positions (last.id - 1)).work = .finished := by
    apply tracked.ended listed
    by_contra unfinished
    cases idle.symm.trans ((current domain last.id).mpr ⟨same, unfinished⟩)
  rcases List.mem_append.mp (split ▸ member) with old | final
  · have ordered := tracked.ordered
    rw [split, List.map_append, List.pairwise_append] at ordered
    have less := ordered.2.2 transition.id (List.mem_map_of_mem old) last.id (List.mem_singleton_self _)
    refine serving.ordered transition member last listed less ?_ (.inr ended)
    rw [alone transition member, alone last listed]
  · rw [List.mem_singleton.mp final]
    exact ended

/-- The plan of a thread is a plan for a domain of the model. -/
theorem Tracked.only
    (alone : ∀ definition ∈ model.value.domains, definition.id = domain) (serving : Serving model state positions)
    (member : transition ∈ state.accepted) : transition.plan.domain = domain := by
  have planned := serving.planned transition member
  obtain ⟨_, _, facts, _⟩ := (tracked.sound.owned _ (tracked.thread member).1).accepted planned
  obtain ⟨mode, found⟩ := Option.isSome_iff_exists.mp facts.defined
  obtain ⟨definition, listed, _, own, _⟩ := findMode_eq_some found
  rw [facts.shape, ← alone definition listed]
  exact own.symm

end

section
variable (chained : Chained model state positions)
include chained

/-- A step that leaves the engine and the accepted transitions alone. -/
theorem Chained.frame (pool : later.pool = state.pool)
    (accepted : later.accepted = state.accepted) (projected : later.projected = state.projected)
    (direct : ∀ domain mode, later.request ≠ some (.superseding domain mode))
    (checked : ∀ domain mode, later.request = some (.checked domain mode false) → AllFinished state positions)
    (asked : ∀ index domain mode, later.request = some (.accepting index domain mode) →
      state.request = some (.accepting index domain mode)) : Chained model later positions where
  chain := by
    obtain ⟨target, begun, waiting, chain⟩ := chained.chain
    exact ⟨target, begun, waiting, chain.still (by rw [pool]) accepted projected fun _ _ => rfl⟩
  direct := direct
  checked := fun domain mode found => by
    unfold AllFinished
    rw [accepted]
    exact checked domain mode found
  asked := fun index domain mode found => by
    rw [projected]
    exact chained.asked index domain mode (asked index domain mode found)

/-- A transition joins the chain at its end. -/
theorem Chained.enqueue (tracked : Tracked model state positions)
    (serving : Serving model state positions) {mode : ModeId} {plan : TransitionPlan}
    (asked : state.request = some (.accepting index domain mode)) (accepted : isAccepted state.pool index = true)
    (planned : state.pool.shared.plans.lookup (index + 1) = some plan) (pool : later.pool = state.pool)
    (free : later.request = none) (projected : later.projected = project domain mode plan state.projected)
    (listed : later.accepted = state.accepted ++ [⟨index + 1, plan⟩]) : Chained model later positions := by
  obtain ⟨last, _, _⟩ := tracked.asked index domain mode asked
  have inside : index < state.pool.threads.length := Nat.lt_of_succ_le last.le
  obtain ⟨unleased, _⟩ := serving.fresh index domain mode asked
  have built := chained.asked index domain mode asked plan (plan_of_stored tracked.sound inside planned)
  obtain ⟨_, facts, _⟩ := buildPlan_eq_ok built
  have target : plan.domain = domain ∧ plan.targetMode = mode := by
    rw [facts.shape]
    exact ⟨rfl, rfl⟩
  refine ⟨?_, ?_, ?_, ?_⟩
  · obtain ⟨goal, begun, waiting, chain⟩ := chained.chain
    refine ⟨goal, begun, waiting ++ [⟨index + 1, plan⟩], ?_, ?_, ?_, pool ▸ chain.current⟩
    · rw [listed, chain.split, List.append_assoc]
    · rw [projected, ← target.1, ← target.2]
      apply chain.leads.append
      rw [target.1, target.2]
      exact built
    · intro transition member
      rcases List.mem_append.mp member with old | fresh
      · exact chain.awaits transition old
      · rw [List.mem_singleton.mp fresh]
        exact .inl ⟨unleased, .inl (opening_of_accepted tracked.sound accepted)⟩
  all_goals simp [free]

/-- A new request is planned for the projected configuration. -/
theorem Chained.accept (tracked : Tracked model state positions)
    {mode : ModeId} {queued : Bool} (asked : state.request = some (.checked domain mode queued))
    (shared : pool.shared.configuration = state.pool.shared.configuration) : Chained model { state with
      pool := pool
      request := some (.accepting state.pool.threads.length domain mode) }
      (Function.update positions state.pool.threads.length (opened model (state.pool.threads.length + 1)
        (if queued then state.projected else state.pool.shared.configuration) domain mode)) := by
  obtain ⟨target, begun, waiting, chain⟩ := chained.chain
  have baseline : (if queued then state.projected else state.pool.shared.configuration) = state.projected := by
    cases queued with
    | true => rfl
    | false => exact chain.projected (chained.checked domain mode asked)
  refine ⟨⟨target, begun, waiting, chain.still shared rfl rfl fun transition member => ?_⟩, nofun, nofun, ?_⟩
  · exact Function.update_of_ne (Nat.ne_of_lt (tracked.thread member).1) _ _
  · rintro index other goal ⟨⟩ accepted planned
    rw [Function.update_self, baseline] at planned
    change (plan model state.projected domain mode).toOption = some accepted at planned
    cases built : plan model state.projected domain mode with
    | error _ =>
        rw [built] at planned
        cases planned
    | ok _ =>
        rw [built] at planned
        cases planned
        rfl

end

variable (alone : ∀ definition ∈ model.value.domains, definition.id = domain)
include alone

/-- A step of the service keeps the transitions of the only domain in a chain. -/
theorem Chained.step (queues : ∀ definition ∈ model.value.domains, definition.replacement = .queue)
    (chained : Chained model state positions) (tracked : Tracked model state positions)
    (serving : Serving model state positions) (current : Current state) (moved : Tracked model later next)
    (served : Serving model later next) (pursues : Pursues model state positions action later next)
    (step : Step model capacity state action later) (favoured : favours state action = true) :
    Chained model later next := by
  have within : ∀ transition ∈ state.accepted, transition.plan.domain = domain :=
    fun transition member => tracked.only alone serving member
  have currently := current.step tracked step
  rcases pursues with ⟨same, rfl⟩ | ⟨choice, drives, advances⟩
  · cases step with
    | refuse | spare => exact chained
    | check target mode free known queues =>
        refine chained.frame rfl rfl rfl nofun (fun other goal asked => ?_) nofun
        obtain ⟨rfl, rfl, active⟩ := RequestStage.checked.inj (Option.some.inj asked)
        obtain ⟨listed, own⟩ := findDomain_eq_some known
        obtain rfl : target = domain := own.symm.trans (alone _ listed)
        have idle := Option.isNone_iff_eq_none.mp (Option.isSome_eq_false_iff.mp active)
        exact allFinished_of_idle tracked serving current within idle
    | supersede target mode free known policy =>
        rw [queues _ (findDomain_eq_some known).1] at policy
        cases policy
    | refresh asked => exact absurd asked (chained.direct _ _)
    | full => exact chained.frame rfl rfl rfl nofun nofun nofun
    | @accept target mode queued pool asked fired =>
        obtain rfl : pool = state.pool := same
        have longer := (pending_request fired).1
        omega
    | engine => exact chained.frame same rfl rfl chained.direct chained.checked fun _ _ _ asked => asked
    | enqueue asked accepted planned => exact chained.enqueue tracked serving asked accepted planned rfl rfl rfl rfl
    | reject => exact chained.frame rfl rfl rfl nofun nofun nofun
    | @finish id transition before after result free found returned =>
        refine ⟨?_, chained.direct, chained.checked, fun index target mode asked => by cases free.symm.trans asked⟩
        obtain ⟨target, begun, waiting, chain⟩ := chained.chain
        refine ⟨target, begun, waiting, chain.still rfl rfl ?_ fun _ _ => rfl⟩
        change ite _ _ _ = _
        split
        · rename_i empty
          have idle : (release transition.plan.domain id state.activeDomains).lookup domain = none := by
            rw [AList.lookup_eq_none, AList.mem_keys, List.isEmpty_iff.mp ((Bool.and_eq_true _ _).mp empty).2]
            exact List.not_mem_nil
          have finished := allFinished_of_idle moved served currently within idle
          exact chain.projected finished
        · rfl
    | cancel => exact chained.frame same rfl rfl chained.direct chained.checked fun _ _ _ asked => asked
    | _ => exact chained.frame rfl rfl rfl chained.direct chained.checked fun _ _ _ asked => asked
  · have threads := favours_thread queues favoured drives
    cases drives with
    | thread index input =>
        cases step with
        | engine _ _ moves fired =>
            cases advances with
            | thread program found step =>
                obtain ⟨target, begun, waiting, chain⟩ := chained.chain
                refine ⟨chain.engine (fun first one second two => (within first one).trans (within second two).symm)
                  tracked serving step favoured rfl, chained.direct, fun goal mode asked => ?_,
                  fun other goal mode asked accepted planned => ?_⟩
                · intro transition member
                  have ended := chained.checked goal mode asked transition member
                  have apart : transition.id - 1 ≠ index := by
                    rintro rfl
                    exact rule_ne_finished step.rule ended
                  rw [Function.update_of_ne apart]
                  exact ended
                · by_cases own : other = index
                  · subst own
                    rw [Function.update_self, (rule_transition step.rule).2] at planned
                    exact chained.asked other goal mode asked accepted planned
                  · rw [Function.update_of_ne own] at planned
                    exact chained.asked other goal mode asked accepted planned
    | request queued asked =>
        generalize pooled : later.pool = pool at advances
        cases advances with
        | request baseline goal target program =>
            cases step with
            | full =>
                have length : state.pool.threads.length = (state.pool.threads ++ [program]).length :=
                  congrArg (fun pool => pool.threads.length) pooled
                simp at length
            | accept again fired =>
                obtain ⟨rfl, rfl, rfl⟩ := RequestStage.checked.inj (Option.some.inj (asked.symm.trans again))
                exact chained.accept tracked asked (congrArg (fun pool => pool.shared.configuration) pooled)
    | supersede active => exact absurd rfl (threads active)
    | cancel id => exact absurd rfl (threads id)

/-- The second plan of a transition of the only domain confirms the accepted one. -/
theorem Chained.inTurn (chained : Chained model state positions) (tracked : Tracked model state positions)
    (serving : Serving model state positions) (turn : leasesInTurn state action = true) :
    inTurn model state action = true := by
  cases action with
  | engine index input =>
      simp only [Coordinator.inTurn]
      simp only [leasesInTurn] at turn
      split
      · rename_i pending
        simpa only [pending] using turn
      · rename_i pending
        simpa only [pending] using turn
      · rename_i goal mode pending
        rw [Option.all_eq_true]
        intro accepted found
        obtain ⟨inside, later, rule⟩ := tracked.sound.rule_of_pending pending (.error {})
        have owned := tracked.sound.owned index inside
        obtain ⟨replanning, rfl, rfl⟩ := rule_replan rule owned.work_ne_void
        have leased : (positions index).leased = true := by
          by_contra free
          have idle := owned.idle (Bool.not_eq_true _ ▸ free)
          rw [replanning] at idle
          exact idle.elim
        obtain ⟨transition, member, own⟩ := serving.held index inside leased
        have place : transition.id - 1 = index := by rw [own, Nat.add_sub_cancel]
        subst place
        obtain ⟨target, begun, waiting, chain⟩ := chained.chain
        have again := chain.again (fun first one second two => (tracked.only alone serving one).trans
          (tracked.only alone serving two).symm) tracked serving member leased replanning
        have planned := serving.planned transition member
        obtain rfl := Option.some.inj ((plan_of_stored tracked.sound inside found).symm.trans planned)
        rw [again]
        simp [confirms]
      · rfl
  | _ => rfl

end Service

/-- In a model with one domain, the transitions that take their leases in order are executed in their turn. -/
theorem inTurn_of_leasesInTurn {capacity workers : Nat} {configuration : SystemConfiguration}
    {state : State} (alone : ∀ definition ∈ model.value.domains, definition.id = domain)
    (queues : ∀ definition ∈ model.value.domains, definition.replacement = .queue)
    (reached : (service model capacity).Reaches (fun state action => favours state action = true ∧
      leasesInTurn state action = true) (started configuration workers) state) :
    (service model capacity).Reaches (fun state action => favours state action = true ∧
      inTurn model state action = true) (started configuration workers) state ∧
    ∃ positions, Tracked model state positions ∧ Serving model state positions ∧ Chained model state positions := by
  induction reached with
  | refl =>
      refine ⟨.refl, nowhere, tracked_started configuration workers nowhere,
        serving_started model configuration workers, ?_, nofun, nofun, nofun⟩
      exact ⟨configuration, [], [], rfl, .nil _, nofun, .inl ⟨rfl, rfl⟩⟩
  | step before permitted performed ih =>
      obtain ⟨reached, positions, tracked, serving, chained⟩ := ih
      obtain ⟨favoured, turn⟩ := permitted
      have turn := chained.inTurn alone tracked serving turn
      have step := step_of_perform performed
      obtain ⟨next, moved, pursues⟩ := tracked.step step
      have served := serving.step queues tracked moved pursues step favoured turn
      exact ⟨.step reached ⟨favoured, turn⟩ performed, next, moved, served,
        chained.step alone queues tracked serving (orderly_reached before).current moved served pursues step favoured⟩

/-- The transitions of the only domain succeed if they take their leases in the order of their acceptance. -/
theorem only_domain_served (model : ValidatedModel) (capacity workers : Nat) (configuration : SystemConfiguration)
    (state : State) (domain : DomainId) (alone : ∀ definition ∈ model.value.domains, definition.id = domain)
    (queues : ∀ definition ∈ model.value.domains, definition.replacement = .queue)
    (reached : (service model capacity).Reaches (fun state action => favours state action = true ∧
      leasesInTurn state action = true) (started configuration workers) state) :
    (∀ transition ∈ state.accepted, state.pool.pending (transition.id - 1) = none → Succeeded state transition.id) ∧
      (0 < workers → Resting model capacity state → ∀ transition ∈ state.accepted, Succeeded state transition.id) := by
  obtain ⟨turned, positions, tracked, serving, _⟩ := inTurn_of_leasesInTurn alone queues reached
  exact ⟨fun transition member returned => serving.returned tracked member returned,
    fun some resting => serving.resting tracked turned some resting⟩

end Coordinator

end OpenVehicle.Exec
