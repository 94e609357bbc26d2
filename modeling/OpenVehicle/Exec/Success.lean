/-
This file proves that a transition succeeds if nothing fails, nothing expires, nobody cancels it,
and its second plan confirms the accepted one.
-/

import OpenVehicle.Exec.Projection

namespace OpenVehicle.Exec

open Concurrency FiniteMap ExecutionEngine TransitionPlanner

variable {model : ValidatedModel} {owner : TransitionId}

section Requests

variable {values : List Nat}

theorem adjacentFind_eq_false (distinct : values.Nodup) : adjacentFind values = false := by
  induction values with
  | nil => rfl
  | cons first rest ih =>
      cases rest with
      | nil => rfl
      | cons second rest =>
          obtain ⟨absent, others⟩ := List.nodup_cons.mp distinct
          unfold adjacentFind
          rw [ih others, Bool.or_false, beq_eq_false_iff_ne]
          exact fun same => absent (same ▸ List.mem_cons_self)

theorem hasDuplicates_eq_false (distinct : values.Nodup) : hasDuplicates values = false :=
  adjacentFind_eq_false ((List.perm_insertionSort (· ≤ ·) values).nodup_iff.mpr distinct)

/-- The scheduler accepts the resources of every plan. -/
theorem checkRequest_planned {baseline : SystemConfiguration} {domain : DomainId}
    {target : ModeId} {plan : TransitionPlan} {required : Finset ExecutionUnitId}
    (planned : Planned model baseline domain target plan required) (identified : owner ≠ 0) :
    ∃ resources, SchedulerState.checkRequest owner (planResources plan) = .ok resources := by
  have guarded : domain ∈ plan.guardedDomains := by
    rw [planned.guardedDomains_eq, mem_sorted]
    exact mem_guardedDomains_self model domain
  have domains : hasDuplicates plan.guardedDomains = false := by
    rw [planned.guardedDomains_eq]
    exact hasDuplicates_eq_false (nodup_sorted _)
  have units : hasDuplicates (plan.stop ++ plan.start) = false := by
    apply hasDuplicates_eq_false
    refine List.nodup_append.mpr ⟨?_, ?_, ?_⟩
    · rw [planned.stop_eq]
      exact order_nodup model _ true
    · rw [planned.start_eq]
      exact order_nodup model _ false
    · rintro unit stops other starts rfl
      exact (planned.mem_stop.mp stops).2 (planned.mem_start.mp starts).1
  have resources : hasDuplicates plan.affectedResources = false := by
    apply hasDuplicates_eq_false
    rw [planned.shape]
    exact nodup_sorted _
  have some : plan.guardedDomains.isEmpty = false := by
    rw [List.isEmpty_eq_false_iff_exists_mem]
    exact ⟨domain, guarded⟩
  unfold SchedulerState.checkRequest planResources
  rw [if_neg identified, if_neg (by simp [some]), if_neg (by simp [domains, units, resources])]
  exact ⟨_, rfl⟩

end Requests

variable {op : EngineOp}

section Favourable
variable {input : EngineInput} {reply : op.Reply}
variable {state later : EngineState}

/-- An environment that serves every operation gives favourable replies. -/
theorem favourable_of_serves (performed : perform model op input state = some (reply, later))
    (served : serves input op = true) (uncancelled : ∀ id, state.cancellation.lookup id ≠ some true)
    (unleased : ∀ owner resources, op = .enter owner resources →
      state.scheduler.leases.lookup owner = none) : Favourable op reply := by
  cases op with
  | append event =>
      cases input with
      | journal outcome =>
          obtain ⟨rfl, _⟩ := Prod.mk.inj (Option.some.inj performed)
          cases outcome with
          | error cause => cases served
          | ok value => rfl
      | _ => cases performed
  | enter owner resources =>
      cases input with
      | proceed =>
          obtain ⟨rfl, _⟩ := Prod.mk.inj (Option.some.inj performed)
          have free := unleased owner resources rfl
          show ∃ granted, (state.scheduler.enter owner resources).1 = .ok granted
          unfold SchedulerState.enter
          rw [free]
          by_cases admitted : state.scheduler.admits resources = true
          · exact ⟨true, by simp [admitted]⟩
          · exact ⟨false, by simp [admitted]⟩
      | _ => cases performed
  | wake owner resources =>
      cases input with
      | clock expired =>
          obtain rfl : expired = false := by simpa [serves] using served
          obtain ⟨⟨answer, scheduler⟩, woken, same⟩ := Option.map_eq_some_iff.mp performed
          obtain ⟨rfl, _⟩ := Prod.mk.inj same
          unfold SchedulerState.wake at woken
          split at woken
          · obtain ⟨rfl, _⟩ := Prod.mk.inj (Option.some.inj woken)
            rfl
          · cases woken
      | _ => cases performed
  | isCancelled id =>
      cases input with
      | proceed =>
          obtain ⟨rfl, _⟩ := Prod.mk.inj (Option.some.inj performed)
          show (state.cancellation.lookup id).getD false = false
          cases flag : state.cancellation.lookup id with
          | none => rfl
          | some value =>
              cases value with
              | false => rfl
              | true => exact absurd flag (uncancelled id)
      | _ => cases performed
  | stop unit reason =>
      cases input with
      | backend outcome =>
          obtain ⟨rfl, _⟩ := Prod.mk.inj (Option.some.inj performed)
          cases outcome with
          | error cause => cases served
          | ok evidence => exact served
      | _ => cases performed
  | start unit =>
      cases input with
      | backend outcome =>
          obtain ⟨rfl, _⟩ := Prod.mk.inj (Option.some.inj performed)
          cases outcome with
          | error cause => cases served
          | ok evidence => exact ⟨evidence, rfl, beq_iff_eq.mp served⟩
      | _ => cases performed
  | expired =>
      cases input with
      | clock expired =>
          obtain ⟨rfl, _⟩ := Prod.mk.inj (Option.some.inj performed)
          simpa [serves, Favourable] using served
      | _ => cases performed
  | _ => trivial

end Favourable

variable {state : EngineState}

/-- No operation sets a cancellation flag. -/
theorem uncancelled_effect (reply : op.Reply)
    (uncancelled : ∀ id, state.cancellation.lookup id ≠ some true) (id : TransitionId) :
    (effect op reply state).cancellation.lookup id ≠ some true := by
  unfold effect
  split
  all_goals try exact uncancelled id
  rename_i transition plan _
  show (emplace transition.id false state.cancellation).lookup id ≠ some true
  rw [lookup_emplace]
  intro flagged
  rcases Option.or_eq_some_iff.mp flagged with old | ⟨_, fresh⟩
  · exact uncancelled id old
  · split at fresh
    · cases fresh
    · cases fresh

/-- The account of a transition that will succeed. Every path after an unfavourable reply is excused. -/
def successAccount (model : ValidatedModel) (transition : TransitionSnapshot) :
    Account (Option TransitionSnapshot) :=
  { storeAccount model transition with
    appends := fun _ _ => True
    lasts := fun _ _ _ => trivial
    mayFail := fun _ _ => False
    opens := fun _ => True
    waits := fun _ => True
    replans := fun _ => True
    reads := fun _ _ => False
    finishes := fun view => ∃ snapshot, view = some snapshot ∧ snapshot.phase = .succeeded
    excuses := fun _ _ => True }

namespace Succeeding
variable {transition : TransitionSnapshot} {view : Option TransitionSnapshot}

theorem recordPhase {phase : TransitionPhase} {next after : Work}
    (assured : (successAccount model transition).Assured next (some { transition with phase := phase })) :
    (successAccount model transition).Assured (Work.recordPhase transition phase next after) view := by
  rintro snapshot rfl
  exact ⟨trivial, assured, fun _ => .inl trivial⟩

theorem carries (plan : TransitionPlan) :
    (successAccount model transition).Carries model transition plan fun _ _ _ => True where
  records := fun _ _ _ _ _ _ => ⟨trivial, trivial, trivial⟩
  leaves := fun _ _ _ _ => ⟨.inl trivial, .inl trivial⟩
  stops := fun _ _ _ _ => ⟨trivial, trivial, trivial⟩
  turns := fun _ _ => trivial
  starts := fun _ _ _ _ => ⟨trivial, trivial, trivial⟩
  commits := fun _ _ => ⟨trivial, recordPhase ⟨_, rfl, rfl⟩⟩

theorem accept (plan : TransitionPlan) :
    (successAccount model transition).Assured (Work.accept transition (some plan)) view :=
  recordPhase (recordPhase trivial)

end Succeeding

variable {position later : Position} {index : Nat}

section Steps
variable {reply : op.Reply}

/-- The stored snapshot of a thread after one of its steps. -/
theorem Owned.stored_after (owned : Owned model index position state) (rule : Rule model position op reply later) :
    (effect op reply state).transitions.lookup (index + 1) =
      (storeAccount model position.transition).after op reply (state.transitions.lookup (index + 1)) := by
  rw [← owned.id]
  exact snapshot_after state rule owned.work_ne_void fun missing =>
    (owned.unregistered missing).imp_right fun unknown => owned.id ▸ unknown.transitions

/-- The scheduler is entered with the resources of the accepted plan. -/
theorem Owned.request (owned : Owned model index position state) {accepted : TransitionPlan}
    (planned : position.plan = some accepted) : Work.request position.transition accepted = .entering := by
  obtain ⟨_, _, facts, _⟩ := owned.accepted planned
  have identified : position.transition.id ≠ 0 := by
    rw [owned.id]
    exact Nat.succ_ne_zero index
  obtain ⟨resources, checked⟩ := checkRequest_planned facts identified
  unfold Work.request
  rw [checked]

/-- A transition keeps on its way to success. -/
theorem Owned.succeeds (owned : Owned model index position state)
    (rule : Rule model position op reply later) (answers : Answers model op reply state)
    (favourable : Favourable op reply)
    (confirmed : ∀ accepted domain target, position.plan = some accepted → op = .replan domain target →
      confirms accepted (plan model state.configuration domain target) = true)
    (assured : (successAccount model position.transition).Assured position.work
      (state.transitions.lookup (index + 1))) : (successAccount model later.transition).Assured later.work
      ((effect op reply state).transitions.lookup (index + 1)) := by
  rw [(rule_transition rule).1, owned.stored_after rule]
  change (successAccount model position.transition).Assured later.work
    ((successAccount model position.transition).after op reply (state.transitions.lookup (index + 1)))
  refine assured.advance rule answers ⟨?_, ?_, ?_, ?_, ?_⟩ (fun granted => granted) owned.opens ⟨?_, ?_, ?_⟩
  · exact fun _ _ _ => trivial
  · intro accepted planned _
    rw [owned.request planned]
    trivial
  · exact fun _ => .inl trivial
  · intro accepted planned replanning _
    rw [confirm_of_confirms (confirmed accepted _ _ planned replanning)]
    exact (Succeeding.carries accepted).execute trivial
  · exact fun _ _ impossible => impossible.elim
  · exact fun _ _ kept => kept
  · exact fun refused => absurd favourable refused
  · intro event error same
    obtain ⟨rfl, equal⟩ := Sigma.mk.inj same
    obtain rfl := eq_of_heq equal
    cases favourable

/-- The work of a leased thread that nothing disturbs. It releases the lease at its end. -/
def Work.Holding : Work → Prop
  | .replanning | .releasing => True
  | .recording _ recorded _ => recorded.Holding
  | .appending _ recorded _ => recorded.Holding
  | .storing _ next => next.Holding
  | .polling next _ => next.Holding
  | .stopping _ stopped _ => stopped.Holding
  | .erasing _ next => next.Holding
  | .attempting _ started _ => started.Holding
  | .inserting _ next => next.Holding
  | .committing _ next => next.Holding
  | _ => False

theorem holding_starts (transition : TransitionSnapshot) (rest : List ExecutionUnitId) :
    (Work.starts model transition rest).Holding := by
  induction rest with
  | nil => trivial
  | cons unit rest ih => exact ih

theorem holding_beginStarts (transition : TransitionSnapshot) (start : List ExecutionUnitId) :
    (Work.beginStarts model transition start).Holding := by
  unfold Work.beginStarts
  split
  · exact holding_starts transition start
  · show Work.Holding (ite _ _ _)
    split
    · exact holding_starts transition start
    · exact holding_starts transition start

theorem holding_execute (transition : TransitionSnapshot) (plan : TransitionPlan) :
    (Work.execute model transition plan).Holding := by
  have stops (rest : List ExecutionUnitId) : (Work.stops model transition plan.start rest).Holding := by
    induction rest with
    | nil => exact holding_beginStarts transition plan.start
    | cons unit rest ih => exact ih
  unfold Work.execute
  split
  · exact holding_beginStarts transition plan.start
  · exact stops plan.stop

/-- A leased thread that nothing disturbs keeps its lease until it finishes. -/
theorem Work.Holding.step (rule : Rule model position op reply later) (favourable : Favourable op reply)
    (answers : Answers model op reply state)
    (confirmed : ∀ accepted domain target, position.plan = some accepted → op = .replan domain target →
      confirms accepted (plan model state.configuration domain target) = true)
    (leased : position.leased = true) (holding : position.work.Holding) :
    later.leased = true ∧ later.work.Holding ∨ later.leased = false ∧ later.work = .finished := by
  cases rule with
  | register => exact holding.elim
  | enterGranted => cases leased
  | wakeGranted => cases leased
  | release => exact .inr ⟨rfl, rfl⟩
  | move position moves =>
      refine .inl ⟨leased, ?_⟩
      cases moves with
      | void => exact holding.elim
      | opened => exact holding.elim
      | stray => exact holding.elim
      | enterBlocked => exact holding.elim
      | enterRefused => exact holding.elim
      | wakeRefused => exact holding.elim
      | read => exact holding.elim
      | accepted => exact holding.elim
      | refused => exact holding.elim
      | appendFailed => cases favourable
      | poll next reply =>
          obtain rfl : reply = false := favourable
          exact holding
      | stop unit reason stopped other reply =>
          rw [show hasStopped reply = true from favourable]
          exact holding
      | attemptFailed started other reply attempted refused => exact absurd favourable refused
      | replan accepted planned reply =>
          obtain rfl : reply = _ := answers
          rw [confirm_of_confirms (confirmed accepted _ _ planned rfl)]
          exact holding_execute position.transition accepted
      | _ => exact holding

/-- A thread that was accepted holds its lease, waits for it, or has finished. -/
structure Position.Underway (position : Position) : Prop where
  stage : position.leased = true ∧ position.work.Holding ∨ position.leased = false ∧
    (position.work = .opening ∨ (position.work = .entering ∨ position.work = .waiting) ∨ position.work = .finished)

/-- A thread that has taken its lease. -/
def Position.Served (position : Position) : Prop := position.leased = true ∨ position.work = .finished

theorem rule_opened (rule : Rule model position op reply later) (opening : position.work = .opening)
    (owned : Owned model index position state) (answers : Answers model op reply state) :
    later.work = .entering ∧ later.leased = position.leased := by
  cases rule with
  | register => cases opening
  | enterGranted => cases opening
  | wakeGranted => cases opening
  | release => cases opening
  | @move position work next op reply moves =>
      obtain rfl : work = .opening := opening
      cases moves with
      | opened accepted planned => exact ⟨owned.request planned, rfl⟩
      | stray reply other => exact absurd (answers _ (owned.opens rfl)) other

/-- A favourable answer of the scheduler grants the lease or lets the thread wait. -/
theorem rule_waiting (rule : Rule model position op reply later)
    (waiting : position.work = .entering ∨ position.work = .waiting) (favourable : Favourable op reply)
    (answers : Answers model op reply state) :
    later.work = .waiting ∧ later.leased = position.leased ∨ (later.leased = true ∧ later.work = .replanning) ∧
      ∃ owner resources, (op = .enter owner resources ∨ op = .wake owner resources) ∧
        state.scheduler.admits resources = true := by
  cases rule with
  | register => rcases waiting with work | work <;> cases work
  | release => rcases waiting with work | work <;> cases work
  | enterGranted => exact .inr ⟨⟨rfl, rfl⟩, _, _, .inl rfl, answers.2⟩
  | wakeGranted => exact .inr ⟨⟨rfl, rfl⟩, _, _, .inr rfl, answers⟩
  | @move position work next op reply moves =>
      rcases waiting with entering | waiting
      · obtain rfl : work = .entering := entering
        cases moves with
        | enterBlocked => exact .inl ⟨rfl, rfl⟩
        | enterRefused resources error =>
            obtain ⟨granted, impossible⟩ := favourable
            cases impossible
      · obtain rfl : work = .waiting := waiting
        cases moves with
        | wakeRefused resources error => cases favourable

/-- A step of an accepted thread, and what it means to take the lease. -/
theorem Owned.underway (owned : Owned model index position state)
    (rule : Rule model position op reply later) (answers : Answers model op reply state)
    (favourable : Favourable op reply)
    (confirmed : ∀ accepted domain target, position.plan = some accepted → op = .replan domain target →
      confirms accepted (plan model state.configuration domain target) = true) (underway : position.Underway) :
    later.Underway ∧ (later.Served → position.Served ∨ later.leased = true ∧ ∃ owner resources,
      (op = .enter owner resources ∨ op = .wake owner resources) ∧ state.scheduler.admits resources = true) := by
  rcases underway.stage with ⟨leased, holding⟩ | ⟨unleased, opening | waits | finished⟩
  · refine ⟨⟨?_⟩, fun _ => .inl (.inl leased)⟩
    rcases holding.step rule favourable answers confirmed leased with kept | ⟨released, finished⟩
    · exact .inl kept
    · exact .inr ⟨released, .inr (.inr finished)⟩
  · obtain ⟨entering, same⟩ := rule_opened rule opening owned answers
    refine ⟨⟨.inr ⟨same.trans unleased, .inr (.inl (.inl entering))⟩⟩, ?_⟩
    rintro (leased | finished)
    · exact .inl (.inl (same.symm.trans leased))
    · cases entering.symm.trans finished
  · rcases rule_waiting rule waits favourable answers with ⟨waiting, same⟩ | ⟨kept, granted⟩
    · refine ⟨⟨.inr ⟨same.trans unleased, .inr (.inl (.inr waiting))⟩⟩, ?_⟩
      rintro (leased | finished)
      · exact .inl (.inl (same.symm.trans leased))
      · cases waiting.symm.trans finished
    · exact ⟨⟨.inl ⟨kept.1, by rw [kept.2]; trivial⟩⟩, fun _ => .inr ⟨kept.1, granted⟩⟩
  · exact absurd finished (rule_ne_finished rule)

end Steps

/-- The work of a request that has not been accepted yet. -/
def Work.Preparing : Work → Prop
  | .opening | .finished => True
  | .registering next => next.Preparing
  | .recording _ recorded failed => recorded.Preparing ∧ failed.Preparing
  | .appending _ recorded failed => recorded.Preparing ∧ failed.Preparing
  | .storing _ next => next.Preparing
  | _ => False

theorem preparing_accept (transition : TransitionSnapshot) (plan : Option TransitionPlan) :
    (Work.accept transition plan).Preparing := by
  cases plan with
  | none => exact ⟨trivial, trivial⟩
  | some plan => exact ⟨⟨trivial, trivial, trivial⟩, trivial, trivial⟩

/-- A request takes no lease before it is accepted. -/
theorem Work.Preparing.step
    {reply : op.Reply} (rule : Rule model position op reply later) (preparing : position.work.Preparing)
    (unopened : position.work ≠ .opening) : later.work.Preparing ∧ later.leased = position.leased := by
  cases rule with
  | register => exact ⟨preparing, rfl⟩
  | enterGranted => exact preparing.elim
  | wakeGranted => exact preparing.elim
  | release => exact preparing.elim
  | move position moves =>
      cases moves with
      | load => exact ⟨preparing, rfl⟩
      | append => exact ⟨preparing.1, rfl⟩
      | appendFailed => exact ⟨preparing.2, rfl⟩
      | store => exact ⟨preparing, rfl⟩
      | opened => exact absurd rfl unopened
      | stray => exact absurd rfl unopened
      | _ => exact preparing.elim

/-- An accepted thread that has not taken its lease yet. -/
def awaitsLease (pool : EnginePool) (index : Nat) : Bool :=
  match pool.pending index with
  | some (.getTransition _) | some (.enter _ _) | some (.wake _ _) => true
  | _ => false

section Pending
variable {pool : EnginePool} {positions : Nat → Position} {later position : Position}
variable {resources : TransitionResources}

theorem rule_of_opening {reply : op.Reply} (rule : Rule model position op reply later)
    (opening : position.work = .opening) :
    ∃ id, op = .getTransition id := by
  cases rule with
  | @move position work next op reply moves =>
      obtain rfl : work = .opening := opening
      cases moves <;> exact ⟨_, rfl⟩
  | _ => cases opening

theorem rule_of_waiting {reply : op.Reply} (rule : Rule model position op reply later)
    (waits : position.work = .entering ∨ position.work = .waiting) :
    ∃ owner resources, op = .enter owner resources ∨ op = .wake owner resources := by
  cases rule with
  | register => rcases waits with work | work <;> cases work
  | release => rcases waits with work | work <;> cases work
  | enterGranted => exact ⟨_, _, .inl rfl⟩
  | wakeGranted => exact ⟨_, _, .inr rfl⟩
  | @move position work next op reply moves =>
      rcases waits with entering | waiting
      · obtain rfl : work = .entering := entering
        cases moves <;> exact ⟨_, _, .inl rfl⟩
      · obtain rfl : work = .waiting := waiting
        cases moves with
        | wakeRefused => exact ⟨_, _, .inr rfl⟩

theorem rule_wake {reply : Result Unit} (rule : Rule model position (.wake owner resources) reply later)
    (known : position.work ≠ .void) : position.work = .waiting := by
  cases rule with
  | wakeGranted => rfl
  | move position moves =>
      cases moves with
      | void => exact absurd rfl known
      | wakeRefused => rfl
      | attempt _ _ _ attempted | attemptFailed _ _ _ attempted => simp [AttemptOp] at attempted

variable (sound : Sound model pool positions)
include sound

/-- A thread that waits for its lease is waiting. -/
theorem Sound.waiting
    (pending : pool.pending index = some (.wake owner resources)) : (positions index).work = .waiting := by
  obtain ⟨inside, later, rule⟩ := sound.rule_of_pending pending (.ok ())
  exact rule_wake rule (sound.owned index inside).work_ne_void

/-- A thread that is about to execute has a plan. -/
theorem Sound.planned {id : TransitionId} (pending : pool.pending index = some (.getTransition id)) :
    ∃ plan, pool.shared.plans.lookup (index + 1) = some plan := by
  obtain ⟨inside, later, rule⟩ := sound.rule_of_pending pending
    (.ok { (positions index).transition with phase := .planned })
  have owned := sound.owned index inside
  rw [owned.plans (owned.registered_of_rule rule (by simp))]
  have known := owned.work_ne_void
  generalize positions index = position at *
  cases rule with
  | move position moves =>
      cases moves with
      | void => exact absurd rfl known
      | opened accepted planned => exact ⟨accepted, planned⟩
      | stray reply other => exact absurd rfl other
      | attempt _ _ _ attempted | attemptFailed _ _ _ attempted => simp [AttemptOp] at attempted

/-- A thread that enters the scheduler holds no lease. -/
theorem Sound.unleased (pending : pool.pending index = some (.enter owner resources)) :
    pool.shared.scheduler.leases.lookup owner = none := by
  obtain ⟨inside, later, rule⟩ := sound.rule_of_pending pending (.ok true)
  have owned := sound.owned index inside
  generalize positions index = position at *
  cases rule with
  | enterGranted transition plan registered resources checked =>
      rw [show transition.id = index + 1 from owned.id]
      exact owned.free rfl
  | @move position work next op reply moves =>
      cases moves with
      | void => exact absurd rfl owned.work_ne_void
      | attempt _ _ _ attempted | attemptFailed _ _ _ attempted => simp [AttemptOp] at attempted

/-- An accepted thread has taken its lease or awaits it. -/
theorem Sound.served (inside : index < pool.threads.length)
    (underway : (positions index).Underway) (free : awaitsLease pool index = false) : (positions index).Served := by
  cases pending : pool.pending index with
  | none => exact .inr (sound.finished inside pending)
  | some op =>
      obtain ⟨reply⟩ := reply_nonempty op
      obtain ⟨_, later, rule⟩ := sound.rule_of_pending pending reply
      unfold awaitsLease at free
      rw [pending] at free
      rcases underway.stage with ⟨leased, _⟩ | ⟨_, opening | scheduled | finished⟩
      · exact .inl leased
      · obtain ⟨id, rfl⟩ := rule_of_opening rule opening
        cases free
      · obtain ⟨owner, resources, rfl | rfl⟩ := rule_of_waiting rule scheduled
        · cases free
        · cases free
      · exact .inr finished

end Pending

end OpenVehicle.Exec
