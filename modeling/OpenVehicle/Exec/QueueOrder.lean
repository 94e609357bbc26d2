/-
This file proves when the transitions of a queue are executed in the order in which they were
accepted. A worker takes its transition from the queue before the transition takes its lease,
so the scheduler decides the order of the transitions that several workers have taken.
-/

import OpenVehicle.Exec.Replacement
import OpenVehicle.Exec.Success

namespace OpenVehicle.Exec.Coordinator

open Concurrency FiniteMap ExecutionEngine TransitionPlanner

/-- Every backend call succeeds, no deadline expires, no append fails, and nobody cancels. -/
def favours (state : State) : Action → Bool
  | .engine index input => (state.pool.pending index).all (serves input)
  | .cancel _ => false
  | _ => true

/-- No transition that was accepted earlier for the same domain awaits its lease. -/
def isNext (state : State) (id : TransitionId) : Bool :=
  state.accepted.all fun transition => transition.id != id || state.accepted.all fun earlier =>
    !(decide (earlier.id < id) && earlier.plan.domain == transition.plan.domain &&
      awaitsLease state.pool (earlier.id - 1))

/-- A transition takes its lease in its turn, and its second plan confirms the accepted one. -/
def inTurn (model : ValidatedModel) (state : State) : Action → Bool
  | .engine index _ =>
      match state.pool.pending index with
      | some (.enter _ resources) | some (.wake _ resources) =>
          !state.pool.shared.scheduler.admits resources || isNext state (index + 1)
      | some (.replan domain target) => (state.pool.shared.plans.lookup (index + 1)).all fun accepted =>
          confirms accepted (plan model state.pool.shared.configuration domain target)
      | _ => true
  | _ => true

/-- The transition has ended in success. -/
def Succeeded (state : State) (id : TransitionId) : Prop :=
  ∃ snapshot, state.pool.shared.transitions.lookup id = some snapshot ∧ snapshot.phase = .succeeded

/-- The accepted transitions are on their way to success, and each domain takes its leases in order. -/
structure Serving (model : ValidatedModel) (state : State) (positions : Nat → Position) : Prop where
  uncancelled : ∀ id, state.pool.shared.cancellation.lookup id ≠ some true
  assured : ∀ index < state.pool.threads.length, ∀ plan, (positions index).plan = some plan →
    (successAccount model (positions index).transition).Assured (positions index).work
      (state.pool.shared.transitions.lookup (index + 1))
  planned : ∀ transition ∈ state.accepted, (positions (transition.id - 1)).plan = some transition.plan
  underway : ∀ transition ∈ state.accepted, (positions (transition.id - 1)).Underway
  queued : ∀ transition ∈ state.queue, (positions (transition.id - 1)).work = .opening
  ordered : ∀ first ∈ state.accepted, ∀ second ∈ state.accepted, first.id < second.id →
    first.plan.domain = second.plan.domain → (positions (second.id - 1)).Served →
    (positions (first.id - 1)).work = .finished
  held : ∀ index < state.pool.threads.length, (positions index).leased = true →
    ∃ transition ∈ state.accepted, transition.id = index + 1
  fresh : ∀ index domain mode, state.request = some (.accepting index domain mode) →
    (positions index).leased = false ∧ (positions index).work.Preparing

section Engine
variable {model : ValidatedModel} {state later : State} {positions next : Nat → Position} {action : Action}

/-- Nobody cancels a transition if every domain queues. -/
theorem favours_thread (queues : ∀ definition ∈ model.value.domains, definition.replacement = .queue)
    {choice : EngineChoice} (favoured : favours state action = true)
    (drives : Drives model state action choice) : ∀ id, choice ≠ .event (.cancel id) := by
  rintro id rfl
  cases drives with
  | supersede active known policy =>
      rw [queues _ (findDomain_eq_some known).1] at policy
      cases policy
  | cancel => cases favoured

variable {index : Nat} {input : EngineInput} {op : EngineOp} {reply : op.Reply} {position : Position}

/-- The environment answers a favoured step favourably. -/
theorem Serving.favourable (serving : Serving model state positions) (sound : Sound model state.pool positions)
    (step : ThreadStep model (fun _ _ => True) state.pool positions index input op reply position)
    (favoured : favours state (.engine index input) = true) : Favourable op reply := by
  have served : serves input op = true := by
    simp only [favours, step.pending] at favoured
    exact favoured
  apply favourable_of_serves step.performed served serving.uncancelled
  rintro owner resources rfl
  exact sound.unleased step.pending

/-- The second plan of a thread in its turn confirms the accepted one. -/
theorem confirmed_of_inTurn (sound : Sound model state.pool positions)
    (step : ThreadStep model (fun _ _ => True) state.pool positions index input op reply position)
    (turn : inTurn model state (.engine index input) = true) (accepted : TransitionPlan)
    (domain : DomainId) (target : ModeId) (planned : (positions index).plan = some accepted)
    (replanning : op = .replan domain target) :
    confirms accepted (plan model state.pool.shared.configuration domain target) = true := by
  subst replanning
  have owned := sound.owned index step.inside
  have registered := owned.registered_of_rule step.rule (by simp)
  simp only [inTurn, step.pending, (owned.plans registered).trans planned] at turn
  exact turn

/-- A thread that takes its lease in its turn leaves no earlier transition of its domain behind. -/
theorem free_of_inTurn (step : ThreadStep model (fun _ _ => True) state.pool positions index input op reply position)
    (turn : inTurn model state (.engine index input) = true) {owner : TransitionId}
    {resources : TransitionResources} (granted : op = .enter owner resources ∨ op = .wake owner resources)
    (admitted : state.pool.shared.scheduler.admits resources = true)
    {first second : AcceptedTransition} (one : first ∈ state.accepted) (two : second ∈ state.accepted)
    (own : second.id = index + 1) (earlier : first.id < second.id)
    (same : first.plan.domain = second.plan.domain) : awaitsLease state.pool (first.id - 1) = false := by
  have next : isNext state second.id = true := by
    simp only [inTurn, step.pending] at turn
    rw [own]
    rcases granted with rfl | rfl
    · simpa only [admitted, Bool.not_true, Bool.false_or] using turn
    · simpa only [admitted, Bool.not_true, Bool.false_or] using turn
  have others := List.all_eq_true.mp next second two
  simp only [bne_self_eq_false, Bool.false_or] at others
  have free := List.all_eq_true.mp others first one
  simpa [earlier, same] using free

/-- A transition in the queue does not move. -/
theorem Tracked.unqueued (tracked : Tracked model state positions) (moves : mayMove state index = true)
    {transition : AcceptedTransition} (queued : transition ∈ state.queue) : transition.id ≠ index + 1 := by
  intro own
  rcases (Bool.or_eq_true _ _).mp moves with asked | worked
  · split at asked
    · rename_i other domain mode accepting
      obtain ⟨same, _⟩ := (Bool.and_eq_true _ _).mp asked
      obtain rfl := beq_iff_eq.mp same
      have bound := (tracked.asked index domain mode accepting).2.2 transition (tracked.waiting queued)
      rw [own] at bound
      exact Nat.not_succ_le_self index bound
    · cases asked
  · obtain ⟨job, member, chosen⟩ := List.any_eq_true.mp worked
    obtain ⟨same, _⟩ := (Bool.and_eq_true _ _).mp chosen
    exact tracked.apart queued member (own.trans (beq_iff_eq.mp same).symm)

variable {domain : DomainId} {mode : ModeId}

/-- A thread that is being accepted takes no lease. -/
theorem Serving.prepares (serving : Serving model state positions) (tracked : Tracked model state positions)
    (moves : mayMove state index = true) (asked : state.request = some (.accepting index domain mode))
    (step : ThreadStep model (fun _ _ => True) state.pool positions index input op reply position) :
    position.leased = false ∧ position.work.Preparing := by
  obtain ⟨unleased, preparing⟩ := serving.fresh index domain mode asked
  have unopened : (positions index).work ≠ .opening := by
    intro opening
    obtain ⟨id, rfl⟩ := rule_of_opening step.rule opening
    have accepted : isAccepted state.pool index = true := by
      unfold isAccepted
      rw [step.pending]
    unfold mayMove at moves
    rw [asked] at moves
    simp only [accepted, Bool.not_true, Bool.and_false, Bool.false_or] at moves
    obtain ⟨job, member, chosen⟩ := List.any_eq_true.mp moves
    obtain ⟨own, _⟩ := (Bool.and_eq_true _ _).mp chosen
    have bound := (tracked.asked index domain mode asked).2.2 _ (tracked.working member)
    rw [beq_iff_eq.mp own] at bound
    exact Nat.not_succ_le_self index bound
  obtain ⟨still, same⟩ := Work.Preparing.step step.rule preparing unopened
  exact ⟨same.trans unleased, still⟩

variable {pool : EnginePool}

theorem opening_of_accepted {pool : EnginePool} (sound : Sound model pool positions)
    (accepted : isAccepted pool index = true) : (positions index).work = .opening := by
  unfold isAccepted at accepted
  split at accepted
  · rename_i id pending
    obtain ⟨inside, next, rule⟩ := sound.rule_of_pending pending (.error {})
    exact rule_opening rule (sound.owned index inside).work_ne_void
  · cases accepted

section
variable (serving : Serving model state positions)
include serving

/-- A step of a worker keeps the accepted transitions on their way. -/
theorem Serving.engine (tracked : Tracked model state positions)
    (shared : pool.shared = effect op reply state.pool.shared)
    (length : pool.threads.length = state.pool.threads.length)
    (moved : Tracked model { state with pool := pool } (Function.update positions index position))
    (moves : mayMove state index = true)
    (step : ThreadStep model (fun _ _ => True) state.pool positions index input op reply position)
    (favoured : favours state (.engine index input) = true) (turn : inTurn model state (.engine index input) = true) :
    Serving model { state with pool := pool } (Function.update positions index position) := by
  have owned := tracked.sound.owned index step.inside
  have favourable := serving.favourable tracked.sound step favoured
  have confirmed := confirmed_of_inTurn tracked.sound step turn
  refine ⟨?_, ?_, ?_, ?_, ?_, ?_, ?_, ?_⟩
  · intro id
    rw [shared]
    exact uncancelled_effect reply serving.uncancelled id
  · intro other inside accepted planned
    rw [length] at inside
    rw [shared]
    by_cases same : other = index
    · subst same
      rw [Function.update_self] at planned ⊢
      rw [(rule_transition step.rule).2] at planned
      exact owned.succeeds step.rule step.answers favourable confirmed
        (serving.assured other inside accepted planned)
    · have entries := owned.others step.rule fun equal => same (Nat.succ.inj equal)
      rw [Function.update_of_ne same] at planned ⊢
      rw [entries.transitions]
      exact serving.assured other inside accepted planned
  · intro transition member
    have planned := serving.planned transition member
    by_cases same : transition.id - 1 = index
    · rw [same] at planned ⊢
      rw [Function.update_self, (rule_transition step.rule).2]
      exact planned
    · rw [Function.update_of_ne same]
      exact planned
  · intro transition member
    have underway := serving.underway transition member
    by_cases same : transition.id - 1 = index
    · rw [same] at underway ⊢
      rw [Function.update_self]
      exact (owned.underway step.rule step.answers favourable confirmed underway).1
    · rw [Function.update_of_ne same]
      exact underway
  · intro transition member
    have different : transition.id - 1 ≠ index := by
      rintro rfl
      exact tracked.unqueued moves member (tracked.thread (tracked.waiting member)).2
    rw [Function.update_of_ne different]
    exact serving.queued transition member
  · intro first one second two earlier same served
    have apart : first.id - 1 ≠ second.id - 1 := by
      have left := (tracked.thread one).2
      have right := (tracked.thread two).2
      intro equal
      rw [left, right, equal] at earlier
      exact Nat.lt_irrefl _ earlier
    have finished (before : (positions (second.id - 1)).Served) :
        (Function.update positions index position (first.id - 1)).work = .finished := by
      have ended := serving.ordered first one second two earlier same before
      by_cases moving : first.id - 1 = index
      · rw [moving] at ended
        exact absurd ended (rule_ne_finished step.rule)
      · rw [Function.update_of_ne moving]
        exact ended
    by_cases moving : second.id - 1 = index
    · have underway := serving.underway second two
      rw [moving] at underway served apart finished
      rw [Function.update_self] at served
      rcases (owned.underway step.rule step.answers favourable confirmed underway).2 served with
        before | ⟨leased, owner, resources, granted, admitted⟩
      · exact finished before
      · have own : second.id = index + 1 := by
          rw [(tracked.thread two).2, moving]
        have free := free_of_inTurn step turn granted admitted one two own earlier same
        rcases tracked.sound.served (tracked.thread one).1 (serving.underway first one) free with holds | ended
        · have guarded := moved.sound.guarded_apart (length.symm ▸ (tracked.thread one).1)
            (length.symm ▸ step.inside) apart (by rw [Function.update_of_ne apart]; exact holds)
            (by rw [Function.update_self]; exact leased)
          rw [← (moved.listed first one).2.2, same, (moved.listed second two).2.2, moving] at guarded
          exact absurd (mem_guardedDomains_self model _) guarded
        · rw [Function.update_of_ne apart]
          exact ended
    · rw [Function.update_of_ne moving] at served
      exact finished served
  · intro other inside leased
    rw [length] at inside
    by_cases same : other = index
    · subst same
      rw [Function.update_self] at leased
      rcases mayMove_eq_true moves with ⟨domain, mode, asked⟩ | live
      · rw [(serving.prepares tracked moves asked step).1] at leased
        cases leased
      · obtain ⟨transition, member, own⟩ := List.mem_map.mp live
        exact ⟨transition, tracked.known transition member, own⟩
    · rw [Function.update_of_ne same] at leased
      exact serving.held other inside leased
  · intro other domain mode asked
    by_cases same : other = index
    · subst same
      rw [Function.update_self]
      exact serving.prepares tracked moves asked step
    · rw [Function.update_of_ne same]
      exact serving.fresh other domain mode asked

/-- A new request prepares its transition. -/
theorem Serving.accept (tracked : Tracked model state positions)
    (baseline : SystemConfiguration) (domain : DomainId) (mode : ModeId)
    (shared : pool.shared = { state.pool.shared with
      nextTransition := state.pool.shared.nextTransition + 1 })
    (length : pool.threads.length = state.pool.threads.length + 1) :
    Serving model { state with
      pool := pool
      request := some (.accepting state.pool.threads.length domain mode) }
      (Function.update positions state.pool.threads.length
        (opened model (state.pool.threads.length + 1) baseline domain mode)) := by
  have old {transition : AcceptedTransition} (member : transition ∈ state.accepted) :
      transition.id - 1 ≠ state.pool.threads.length := Nat.ne_of_lt (tracked.thread member).1
  refine ⟨?_, ?_, ?_, ?_, ?_, ?_, ?_, ?_⟩
  · intro id
    rw [shared]
    exact serving.uncancelled id
  · intro index inside plan planned
    rw [shared]
    by_cases last : index = state.pool.threads.length
    · subst last
      rw [Function.update_self] at planned ⊢
      have target : (opened model (state.pool.threads.length + 1) baseline domain mode).work =
          Work.accept (received (state.pool.threads.length + 1) baseline domain mode) (some plan) :=
        congrArg (Work.accept _) planned
      rw [target]
      exact Succeeding.accept plan
    · have within : index < state.pool.threads.length := by
        change index < pool.threads.length at inside
        omega
      rw [Function.update_of_ne last] at planned ⊢
      exact serving.assured index within plan planned
  · intro transition member
    rw [Function.update_of_ne (old member)]
    exact serving.planned transition member
  · intro transition member
    rw [Function.update_of_ne (old member)]
    exact serving.underway transition member
  · intro transition member
    rw [Function.update_of_ne (old (tracked.waiting member))]
    exact serving.queued transition member
  · intro first one second two
    rw [Function.update_of_ne (old one), Function.update_of_ne (old two)]
    exact serving.ordered first one second two
  · intro index inside leased
    by_cases last : index = state.pool.threads.length
    · rw [last, Function.update_self] at leased
      cases leased
    · have within : index < state.pool.threads.length := by
        change index < pool.threads.length at inside
        omega
      rw [Function.update_of_ne last] at leased
      exact serving.held index within leased
  · rintro index other target ⟨⟩
    rw [Function.update_self]
    exact ⟨rfl, preparing_accept _ _⟩

/-- An accepted transition is about to execute. -/
theorem Serving.enqueue (tracked : Tracked model state positions) {index : Nat} {plan : TransitionPlan}
    (asked : state.request = some (.accepting index domain mode)) (accepted : isAccepted state.pool index = true)
    (planned : state.pool.shared.plans.lookup (index + 1) = some plan) (pool : later.pool = state.pool)
    (free : later.request = none) (queue : later.queue = state.queue ++ [⟨index + 1, plan⟩])
    (listed : later.accepted = state.accepted ++ [⟨index + 1, plan⟩]) : Serving model later positions := by
  obtain ⟨last, _, earlier⟩ := tracked.asked index domain mode asked
  obtain ⟨unleased, _⟩ := serving.fresh index domain mode asked
  have inside : index < state.pool.threads.length := Nat.lt_of_succ_le last.le
  have opening := opening_of_accepted tracked.sound accepted
  refine ⟨?_, ?_, ?_, ?_, ?_, ?_, ?_, ?_⟩
  · rw [pool]
    exact serving.uncancelled
  · rw [pool]
    exact serving.assured
  · rw [listed]
    intro transition member
    rcases List.mem_append.mp member with old | fresh
    · exact serving.planned transition old
    · obtain rfl := List.mem_singleton.mp fresh
      exact plan_of_stored tracked.sound inside planned
  · rw [listed]
    intro transition member
    rcases List.mem_append.mp member with old | fresh
    · exact serving.underway transition old
    · obtain rfl := List.mem_singleton.mp fresh
      exact ⟨.inr ⟨unleased, .inl opening⟩⟩
  · rw [queue]
    intro transition member
    rcases List.mem_append.mp member with old | fresh
    · exact serving.queued transition old
    · obtain rfl := List.mem_singleton.mp fresh
      exact opening
  · rw [listed]
    intro first one second two less same served
    rcases List.mem_append.mp two with old | fresh
    · rcases List.mem_append.mp one with before | fresh
      · exact serving.ordered first before second old less same served
      · obtain rfl := List.mem_singleton.mp fresh
        exact absurd (earlier second old) (Nat.not_le_of_lt (Nat.lt_of_succ_lt less))
    · obtain rfl := List.mem_singleton.mp fresh
      rcases served with leased | finished
      · cases unleased.symm.trans leased
      · cases opening.symm.trans finished
  · intro other within leased
    rw [pool] at within
    obtain ⟨transition, member, own⟩ := serving.held other within leased
    rw [listed]
    exact ⟨transition, List.mem_append_left _ member, own⟩
  · intro other target goal asks
    cases free.symm.trans asks

/-- A step that leaves the engine and the accepted transitions alone. -/
theorem Serving.frame (pool : later.pool = state.pool)
    (accepted : later.accepted = state.accepted) (queue : ∀ transition ∈ later.queue, transition ∈ state.queue)
    (asked : ∀ index domain mode, later.request = some (.accepting index domain mode) →
      state.request = some (.accepting index domain mode)) : Serving model later positions where
  uncancelled := pool ▸ serving.uncancelled
  assured := pool ▸ serving.assured
  planned := accepted ▸ serving.planned
  underway := accepted ▸ serving.underway
  queued := fun transition member => serving.queued transition (queue transition member)
  ordered := accepted ▸ serving.ordered
  held := by
    rw [pool, accepted]
    exact serving.held
  fresh := fun index domain mode found => serving.fresh index domain mode (asked index domain mode found)

end

/-- Every favoured step in its turn keeps the accepted transitions on their way. -/
theorem Serving.step (queues : ∀ definition ∈ model.value.domains, definition.replacement = .queue)
    {capacity : Nat} (serving : Serving model state positions) (tracked : Tracked model state positions)
    (moved : Tracked model later next) (pursues : Pursues model state positions action later next)
    (step : Step model capacity state action later) (favoured : favours state action = true)
    (turn : inTurn model state action = true) : Serving model later next := by
  rcases pursues with ⟨same, rfl⟩ | ⟨choice, drives, advances⟩
  · cases step with
    | enqueue asked accepted planned =>
        exact serving.enqueue tracked asked accepted planned rfl rfl rfl rfl
    | @accept domain mode queued pool asked fired =>
        obtain rfl : pool = state.pool := same
        have longer := (pending_request fired).1
        omega
    | take free waits queued =>
        refine serving.frame rfl rfl (fun transition member => ?_) (fun _ _ _ asked => asked)
        rw [queued]
        exact List.mem_cons_of_mem _ member
    | engine => exact serving.frame same rfl (fun _ member => member) (fun _ _ _ asked => asked)
    | cancel => exact serving.frame same rfl (fun _ member => member) (fun _ _ _ asked => asked)
    | refuse => exact serving
    | spare => exact serving
    | begin => exact serving.frame rfl rfl (fun _ member => member) (fun _ _ _ asked => asked)
    | complete => exact serving.frame rfl rfl (fun _ member => member) (fun _ _ _ asked => asked)
    | finish => exact serving.frame rfl rfl (fun _ member => member) (fun _ _ _ asked => asked)
    | _ => exact serving.frame same rfl (fun _ member => member) (by simp)
  · have threads := favours_thread queues favoured drives
    cases drives with
    | thread index input =>
        cases step with
        | engine _ _ moves fired =>
            cases advances with
            | thread program found step =>
                exact serving.engine tracked rfl List.length_set moved moves step favoured turn
    | request queued asked =>
        generalize pooled : later.pool = pool at advances
        cases advances with
        | request baseline domain target program =>
            cases step with
            | full =>
                have length : state.pool.threads.length = (state.pool.threads ++ [program]).length :=
                  congrArg (fun pool => pool.threads.length) pooled
                simp at length
            | accept again fired =>
                obtain ⟨rfl, rfl, _⟩ := RequestStage.checked.inj (Option.some.inj (asked.symm.trans again))
                exact serving.accept tracked _ _ _ (congrArg _ pooled)
                  ((congrArg (fun pool => pool.threads.length) pooled).trans List.length_append)
    | supersede active => exact absurd rfl (threads active)
    | cancel id => exact absurd rfl (threads id)

end Engine

theorem serving_started (model : ValidatedModel) (configuration : SystemConfiguration) (workers : Nat) :
    Serving model (started configuration workers) nowhere := by
  refine ⟨?_, ?_, ?_, ?_, ?_, ?_, ?_, ?_⟩
  · simp [started, created]
  · simp [started, created]
  · simp [started]
  · simp [started]
  · simp [started]
  · simp [started]
  · simp [started, created]
  · simp [started]

/-- The service is on its way in every state of a run whose steps are favoured and in turn. -/
theorem serving_reached {model : ValidatedModel} {capacity workers : Nat}
    {configuration : SystemConfiguration} {state : State}
    (queues : ∀ definition ∈ model.value.domains, definition.replacement = .queue)
    (reached : (service model capacity).Reaches (fun state action => favours state action = true ∧
      inTurn model state action = true) (started configuration workers) state) :
    ∃ positions, Tracked model state positions ∧ Serving model state positions := by
  apply reached.invariant ⟨nowhere, tracked_started configuration workers nowhere,
    serving_started model configuration workers⟩
  rintro state action later ⟨positions, tracked, serving⟩ ⟨favoured, turn⟩ performed
  have step := step_of_perform performed
  obtain ⟨next, moved, pursues⟩ := tracked.step step
  exact ⟨next, moved, serving.step queues tracked moved pursues step favoured turn⟩

end OpenVehicle.Exec.Coordinator
