/-
This file proves that the service comes to rest when no more requests arrive, and that every
accepted transition has succeeded then if the transitions were executed in their turn.
-/

import OpenVehicle.Concurrency.Termination
import OpenVehicle.Exec.QueueOrder

namespace OpenVehicle.Exec.Coordinator

open Concurrency FiniteMap ExecutionEngine TransitionPlanner

/-- The service moves on without a new request, and nothing fails. -/
def Proceeds (model : ValidatedModel) (capacity : Nat) (state later : State) : Prop :=
  ∃ action, favours state action = true ∧ (∀ domain mode, action ≠ .request domain mode) ∧
    perform model capacity action state = some later

variable {model : ValidatedModel} {capacity : Nat} {job : Job} {state later : State} {id : TransitionId}
variable {stage : JobStage}

section Termination

def requestRank : Option RequestStage → Nat
  | none => 0
  | some (.accepting _ _ _) => 1
  | some (.checked _ _ _) => 2
  | some (.superseding _ _) => 3

/-- The stages of the jobs before their execution, and before its end. -/
def JobStage.isTaken : JobStage → Bool
  | .taken => true
  | _ => false

def JobStage.isOpen : JobStage → Bool
  | .executed _ _ => false
  | _ => true

/-- What the service still has to do. -/
def State.rank (state : State) :
    Nat × Multiset (EngineProgram (Result TransitionSnapshot)) × Nat × Nat × Nat :=
  (requestRank state.request, state.pool.threads, 2 * state.queue.length + state.jobs.length,
    state.jobs.countP (·.stage.isTaken), state.jobs.countP (·.stage.isOpen))

/-- The order of the ranks. -/
def lowerRank : Nat × Multiset (EngineProgram (Result TransitionSnapshot)) × Nat × Nat × Nat →
    Nat × Multiset (EngineProgram (Result TransitionSnapshot)) × Nat × Nat × Nat → Prop :=
  Prod.Lex (· < ·) (Prod.Lex (Relation.CutExpand Program.Continues) (Prod.Lex (· < ·) (Prod.Lex (· < ·) (· < ·))))

theorem wellFounded_lowerRank : WellFounded lowerRank :=
  Nat.lt_wfRel.wf.prod_lex (Program.wellFounded_continues.cutExpand.prod_lex
    (Nat.lt_wfRel.wf.prod_lex (Nat.lt_wfRel.wf.prod_lex Nat.lt_wfRel.wf)))

variable {test : JobStage → Bool} {jobs : List Job}

theorem countP_setStage_le (outside : test stage = false) :
    (setStage id stage jobs).countP (fun job => test job.stage) ≤ jobs.countP (fun job => test job.stage) := by
  unfold setStage
  rw [List.countP_map]
  apply List.countP_mono_left
  intro job _ counted
  simp only [Function.comp_apply] at counted
  split at counted
  · rw [outside] at counted
    cases counted
  · exact counted

theorem countP_setStage_lt (outside : test stage = false) (member : job ∈ jobs)
    (own : job.transition.id = id) (inside : test job.stage = true) :
    (setStage id stage jobs).countP (fun job => test job.stage) < jobs.countP (fun job => test job.stage) := by
  obtain ⟨before, after, rfl⟩ := List.append_of_mem member
  have split : setStage id stage (before ++ job :: after) =
      setStage id stage before ++ { job with stage := stage } :: setStage id stage after := by
    simp [setStage, own]
  have front : (setStage id stage before).countP (fun job => test job.stage) ≤
      before.countP (fun job => test job.stage) := countP_setStage_le outside
  have back : (setStage id stage after).countP (fun job => test job.stage) ≤
      after.countP (fun job => test job.stage) := countP_setStage_le outside
  rw [split, List.countP_append, List.countP_append, List.countP_cons, List.countP_cons]
  rw [if_neg (by simp [outside]), if_pos inside]
  omega

/-- Every step without a new request lowers the rank. -/
theorem lowerRank_of_proceeds (proceeds : Proceeds model capacity state later) : lowerRank later.rank state.rank := by
  obtain ⟨action, favoured, other, performed⟩ := proceeds
  have requests (less : requestRank later.request < requestRank state.request) :
      lowerRank later.rank state.rank := Prod.Lex.left _ _ less
  have stages {id : TransitionId} {stage : JobStage} (counts : Prod.Lex (· < ·) (· < ·)
      ((setStage id stage state.jobs).countP (·.stage.isTaken), (setStage id stage state.jobs).countP (·.stage.isOpen))
      (state.jobs.countP (·.stage.isTaken), state.jobs.countP (·.stage.isOpen))) :
      lowerRank { state with jobs := setStage id stage state.jobs }.rank state.rank := by
    have length : (setStage id stage state.jobs).length = state.jobs.length := List.length_map _
    unfold State.rank
    rw [length]
    exact Prod.Lex.right _ (Prod.Lex.right _ (Prod.Lex.right _ counts))
  cases step_of_perform performed with
  | refuse domain mode => exact absurd rfl (other domain mode)
  | check domain mode => exact absurd rfl (other domain mode)
  | supersede domain mode => exact absurd rfl (other domain mode)
  | spare => cases favoured
  | cancel => cases favoured
  | refresh asked => exact requests (by rw [asked]; exact Nat.lt_succ_self 2)
  | full asked filled => exact requests (by rw [asked]; exact Nat.zero_lt_two)
  | accept asked fired => exact requests (by rw [asked]; exact Nat.lt_succ_self 1)
  | enqueue asked accepted planned => exact requests (by rw [asked]; exact Nat.zero_lt_one)
  | reject asked returned => exact requests (by rw [asked]; exact Nat.zero_lt_one)
  | engine index input moves fired =>
      exact Prod.Lex.right _ (Prod.Lex.left _ _ (Machine.cutExpand_fire fired))
  | @take idle transition rest free waits queued =>
      refine Prod.Lex.right _ (Prod.Lex.right _ (Prod.Lex.left _ _ ?_))
      simp only [queued, List.length_append, List.length_cons, List.length_nil]
      omega
  | finish id free found returned =>
      obtain ⟨member, own⟩ := findJob_eq_some found
      refine Prod.Lex.right _ (Prod.Lex.right _ (Prod.Lex.left _ _ (Nat.add_lt_add_left ?_ _)))
      apply List.length_filter_lt_length_iff_exists.mpr
      exact ⟨_, member, by simpa using own⟩
  | begin id found =>
      obtain ⟨member, own⟩ := findJob_eq_some found
      exact stages (Prod.Lex.left _ _ (countP_setStage_lt rfl member own rfl))
  | @complete id transition before found returned =>
      obtain ⟨member, own⟩ := findJob_eq_some found
      have taken : (setStage id (.executed before (committedMode state transition)) state.jobs).countP
          (·.stage.isTaken) ≤ state.jobs.countP (·.stage.isTaken) := countP_setStage_le rfl
      apply stages
      rcases taken.lt_or_eq with less | same
      · exact Prod.Lex.left _ _ less
      · rw [same]
        exact Prod.Lex.right _ (countP_setStage_lt rfl member own rfl)

/-- The service cannot move on forever without new requests. -/
theorem exists_not_proceeds (model : ValidatedModel) (capacity : Nat) (run : Nat → State) :
    ∃ step, ¬ Proceeds model capacity (run step) (run (step + 1)) := by
  by_contra forever
  push Not at forever
  have founded : IsWellFounded _ lowerRank := ⟨wellFounded_lowerRank⟩
  obtain ⟨step, stops⟩ := WellFounded.not_rel_apply_succ (r := lowerRank) fun step => (run step).rank
  exact stops (lowerRank_of_proceeds (forever step))

end Termination

/-- The service can only wait for new requests. -/
def Resting (model : ValidatedModel) (capacity : Nat) (state : State) : Prop :=
  ∀ later, ¬ Proceeds model capacity state later

variable {state : State}

theorem serves_ordinaryInput (op : EngineOp) : serves (ordinaryInput op) op = true := by
  cases op <;> rfl

/-- The ordinary input lets every operation happen except a wait for resources that are held. -/
theorem perform_ordinaryInput (op : EngineOp) (state : EngineState)
    (admitted : ∀ owner resources, op = .wake owner resources → state.scheduler.admits resources = true) :
    ∃ result, ExecutionEngine.perform model op (ordinaryInput op) state = some result := by
  cases op with
  | wake owner resources =>
      have woken : state.scheduler.wake owner resources false =
          some (.ok (), state.scheduler.grant owner resources) := by
        unfold SchedulerState.wake
        rw [if_pos (admitted owner resources rfl)]
      exact ⟨_, Option.map_eq_some_iff.mpr ⟨_, woken, rfl⟩⟩
  | _ => exact ⟨_, rfl⟩

/-- A thread that may move does so, unless it waits for resources that are held. -/
theorem proceeds_engine {index : Nat} {op : EngineOp}
    (moves : mayMove state index = true) (pending : state.pool.pending index = some op)
    (admitted : ∀ owner resources, op = .wake owner resources → state.pool.shared.scheduler.admits resources = true) :
    ∃ later, Proceeds model capacity state later := by
  obtain ⟨program, found, calls⟩ := Option.bind_eq_some_iff.mp pending
  cases program with
  | done value => cases calls
  | call other next =>
      obtain rfl := Option.some.inj calls
      obtain ⟨⟨reply, shared⟩, performed⟩ := @perform_ordinaryInput model other _ admitted
      have fired : (machine model).fire state.pool (.thread index (ordinaryInput other)) =
          some ⟨shared, state.pool.threads.set index (next reply)⟩ := by
        simp only [Machine.fire, found]
        exact Option.map_eq_some_iff.mpr ⟨_, performed, rfl⟩
      refine ⟨{ state with pool := ⟨shared, state.pool.threads.set index (next reply)⟩ },
        .engine index (ordinaryInput other), ?_, by simp, ?_⟩
      · simp only [favours, pending]
        exact serves_ordinaryInput other
      · show moveEngine model index (ordinaryInput other) state = _
        unfold moveEngine
        rw [if_pos moves, fired]
        rfl

/-- A worker is free or has a job, and a job that is executed has returned. -/
structure Staffed (state : State) : Prop where
  workers : 0 < state.idle ∨ state.jobs ≠ []
  returned : ∀ job ∈ state.jobs, job.stage.isOpen = false →
    state.pool.pending (job.transition.id - 1) = none

variable {positions : Nat → Position} {configuration : SystemConfiguration} {allowed : State → Action → Prop}

theorem Staffed.frame (staffed : Staffed state) (idle : later.idle = state.idle) (jobs : later.jobs = state.jobs)
    (returned : ∀ job ∈ state.jobs, state.pool.pending (job.transition.id - 1) = none →
      later.pool.pending (job.transition.id - 1) = none) : Staffed later where
  workers := by
    rw [idle, jobs]
    exact staffed.workers
  returned := by
    rw [jobs]
    intro job member closed
    exact returned job member (staffed.returned job member closed)

/-- A thread that has returned stays so. -/
theorem pending_none_fire {pool after : EnginePool} {index moving : Nat} {input : EngineInput}
    (fired : (machine model).fire pool (.thread moving input) = some after)
    (returned : pool.pending index = none) : after.pending index = none := by
  by_cases same : index = moving
  · subst same
    obtain ⟨op, next, reply, shared, found, _, _⟩ := Machine.fire_thread_eq_some fired
    rw [pending_of_getElem? found] at returned
    cases returned
  · exact ((pending_fire fired).2 index same).trans returned

/-- A job changes its stage. -/
theorem Staffed.setStage (staffed : Staffed state)
    (returned : stage.isOpen = false → state.pool.pending (id - 1) = none) :
    Staffed { state with jobs := setStage id stage state.jobs } := by
  constructor
  · rcases staffed.workers with free | working
    · exact .inl free
    · right
      simpa [Coordinator.setStage] using working
  · intro job member closed
    obtain ⟨old, listed, rfl⟩ := List.mem_map.mp member
    split at closed
    · rename_i own
      rw [if_pos own]
      show state.pool.pending (old.transition.id - 1) = none
      rw [own]
      exact returned closed
    · rename_i other
      rw [if_neg other]
      exact staffed.returned old listed closed

/-- Every step keeps the service staffed. -/
theorem Staffed.step (staffed : Staffed state) (tracked : Tracked model state positions)
    {action : Action} (step : Step model capacity state action later) : Staffed later := by
  cases step with
  | accept asked fired =>
      refine staffed.frame rfl rfl (fun job member returned => ?_)
      rw [(pending_request fired).2 _ (Nat.ne_of_lt (tracked.thread (tracked.working member)).1)]
      exact returned
  | engine index input moves fired =>
      exact staffed.frame rfl rfl fun job member returned => pending_none_fire fired returned
  | @take idle transition rest free waits queued =>
      refine ⟨.inr (by simp), ?_⟩
      intro job member closed
      rcases List.mem_append.mp member with old | fresh
      · exact staffed.returned job old closed
      · obtain rfl := List.mem_singleton.mp fresh
        cases closed
  | begin id found => exact staffed.setStage fun closed => by cases closed
  | complete id found returned => exact staffed.setStage fun _ => returned
  | finish id free found returned =>
      refine ⟨.inl (Nat.succ_pos _), ?_⟩
      intro job member closed
      exact staffed.returned job (List.mem_of_mem_filter member) closed
  | _ => exact staffed.frame rfl rfl fun _ _ returned => returned

/-- A service with workers is staffed in every state. -/
theorem staffed_reached {workers : Nat} (some : 0 < workers)
    (reached : (service model capacity).Reaches allowed (started configuration workers) state) : Staffed state := by
  have initial : Staffed (started configuration workers) := ⟨.inl some, by simp [started]⟩
  induction reached with
  | refl => exact initial
  | step before permitted performed ih =>
      obtain ⟨positions, tracked⟩ := (orderly_reached before).tracked
      exact ih.step tracked (step_of_perform performed)

theorem Resting.refuses (resting : Resting model capacity state) (action : Action)
    (favoured : favours state action = true) (other : ∀ domain mode, action ≠ .request domain mode) :
    perform model capacity action state = none := by
  apply Option.eq_none_iff_forall_ne_some.mpr
  intro later performed
  exact resting later ⟨action, favoured, other, performed⟩

/-- A service at rest has answered every request. -/
theorem Resting.answered (resting : Resting model capacity state) (tracked : Tracked model state positions)
    (serving : Serving model state positions) : state.request = none := by
  cases asked : state.request with
  | none => rfl
  | some stage =>
      exfalso
      cases stage with
      | superseding domain mode =>
          have refused := resting.refuses .refresh rfl (by simp)
          simp [perform, refresh, asked] at refused
      | checked domain mode queued =>
          have refused := resting.refuses .accept rfl (by simp)
          simp only [perform, acceptMode, asked] at refused
          split at refused
          · cases refused
          · simp [Machine.fire, machine, occur] at refused
      | accepting index domain mode =>
          cases pending : state.pool.pending index with
          | none =>
              have refused := resting.refuses .reject rfl (by simp)
              simp [perform, reject, asked, pending] at refused
          | some op =>
              by_cases accepted : isAccepted state.pool index = true
              · have refused := resting.refuses .enqueue rfl (by simp)
                have opening : ∃ id, op = .getTransition id := by
                  unfold isAccepted at accepted
                  rw [pending] at accepted
                  split at accepted
                  · rename_i id same
                    exact ⟨id, Option.some.inj same⟩
                  · cases accepted
                obtain ⟨id, rfl⟩ := opening
                obtain ⟨plan, planned⟩ := tracked.sound.planned pending
                simp [perform, enqueue, asked, accepted, planned] at refused
              · have moves : mayMove state index = true := by
                  simp [mayMove, asked, accepted]
                have moved : ∃ later, Proceeds model capacity state later := by
                  apply proceeds_engine moves pending
                  rintro owner resources rfl
                  have preparing := (serving.fresh index domain mode asked).2
                  rw [tracked.sound.waiting pending] at preparing
                  exact preparing.elim
                obtain ⟨later, proceeds⟩ := moved
                exact resting later proceeds

/-- The job of a transition is the only one with its identifier. -/
theorem Tracked.findJob_of_mem (tracked : Tracked model state positions)
    (member : job ∈ state.jobs) : findJob job.transition.id state = some job := by
  have distinct := (List.nodup_append.mp tracked.nodup).1
  unfold State.live at distinct
  rw [List.map_append, List.map_map] at distinct
  cases found : findJob job.transition.id state with
  | none =>
      have absent := List.find?_eq_none.mp found job member
      simp at absent
  | some other =>
      obtain ⟨listed, same⟩ := findJob_eq_some found
      rw [List.inj_on_of_nodup_map (List.nodup_append.mp distinct).2.1 listed member same]

/-- At rest, every job waits for resources that are held. -/
theorem Resting.blocked (resting : Resting model capacity state) (tracked : Tracked model state positions)
    (staffed : Staffed state) (answered : state.request = none) (member : job ∈ state.jobs) :
    ∃ owner resources, state.pool.pending (job.transition.id - 1) = some (.wake owner resources) ∧
      state.pool.shared.scheduler.admits resources = false := by
  have found := tracked.findJob_of_mem member
  obtain ⟨thread, own⟩ := tracked.thread (tracked.working member)
  obtain ⟨transition, stage⟩ := job
  cases stage with
  | taken =>
      have refused := resting.refuses (.begin transition.id) rfl (by simp)
      simp [perform, beginJob, found] at refused
  | executing before =>
      cases pending : state.pool.pending (transition.id - 1) with
      | none =>
          have refused := resting.refuses (.complete transition.id) rfl (by simp)
          simp [perform, completeJob, found, pending] at refused
      | some op =>
          by_contra movable
          have moves : mayMove state (transition.id - 1) = true := by
            unfold mayMove
            rw [answered, Bool.false_or, List.any_eq_true]
            refine ⟨_, member, ?_⟩
            simp only [Bool.and_true, beq_iff_eq]
            exact own
          have moved : ∃ later, Proceeds model capacity state later := by
            apply proceeds_engine moves pending
            rintro owner resources rfl
            by_contra held
            rw [Bool.not_eq_true] at held
            exact movable ⟨owner, resources, rfl, held⟩
          obtain ⟨later, proceeds⟩ := moved
          exact resting later proceeds
  | executed before after =>
      have refused := resting.refuses (.finish transition.id) rfl (by simp)
      have returned := staffed.returned _ member rfl
      have last : ∃ result, completed state.pool transition.id = some result := by
        unfold Pool.pending at returned
        unfold completed
        rw [List.getElem?_eq_getElem thread] at returned ⊢
        cases program : state.pool.threads[transition.id - 1] with
        | done result => exact ⟨result, rfl⟩
        | call op next =>
            rw [program] at returned
            cases returned
      obtain ⟨result, ended⟩ := last
      simp [perform, finishJob, answered, found, ended] at refused

/-- Some thread of the pool holds every lease. -/
theorem Tracked.holder (tracked : Tracked model state positions)
    (zero : state.pool.shared.scheduler.leases.lookup 0 = none) {resources : TransitionResources}
    (refused : state.pool.shared.scheduler.admits resources = false) :
    ∃ index < state.pool.threads.length, (positions index).leased = true := by
  by_contra nobody
  push Not at nobody
  apply Bool.eq_false_iff.mp refused
  rw [SchedulerState.admits_iff]
  intro kind id _
  apply Option.eq_none_iff_forall_ne_some.mpr
  intro owner claimed
  obtain ⟨held, lease, _⟩ := (tracked.sound.registry.consistent kind id owner).mp claimed
  cases owner with
  | zero =>
      rw [zero] at lease
      cases lease
  | succ index =>
      by_cases inside : index < state.pool.threads.length
      · have free : (positions index).leased = false := Bool.eq_false_iff.mpr (nobody index inside)
        rw [(tracked.sound.owned index inside).free free] at lease
        cases lease
      · rw [(tracked.sound.registry.fresh (index + 1) (by omega)).2] at lease
        cases lease

/-- A service at rest has no live transitions. -/
theorem Resting.live_eq_nil (resting : Resting model capacity state) (tracked : Tracked model state positions)
    (serving : Serving model state positions) (staffed : Staffed state)
    (zero : state.pool.shared.scheduler.leases.lookup 0 = none) : state.live = [] := by
  have answered := resting.answered tracked serving
  have idle : state.jobs = [] := by
    rw [List.eq_nil_iff_forall_not_mem]
    intro job member
    obtain ⟨_, resources, _, refused⟩ := resting.blocked tracked staffed answered member
    obtain ⟨index, inside, leased⟩ := tracked.holder zero refused
    obtain ⟨transition, listed, own⟩ := serving.held index inside leased
    have underway := serving.underway transition listed
    rw [own, Nat.add_sub_cancel] at underway
    have holding : (positions index).work.Holding := by
      rcases underway.stage with ⟨_, holding⟩ | ⟨unleased, _⟩
      · exact holding
      · cases unleased.symm.trans leased
    cases pending : state.pool.pending index with
    | none =>
        rw [tracked.sound.finished inside pending] at holding
        exact holding
    | some op =>
        rcases tracked.moving index op pending with ⟨_, _, asked⟩ | live
        · cases answered.symm.trans asked
        · obtain ⟨other, member, same⟩ := List.mem_map.mp live
          rcases List.mem_append.mp member with queued | worked
          · have opening := serving.queued other queued
            rw [same, Nat.add_sub_cancel] at opening
            rw [opening] at holding
            exact holding
          · obtain ⟨holder, listed, rfl⟩ := List.mem_map.mp worked
            obtain ⟨_, _, waits, _⟩ := resting.blocked tracked staffed answered listed
            rw [same, Nat.add_sub_cancel] at waits
            rw [tracked.sound.waiting waits] at holding
            exact holding
  have empty : state.queue = [] := by
    cases queued : state.queue with
    | nil => rfl
    | cons transition rest =>
        have refused := resting.refuses .take rfl (by simp)
        have free := staffed.workers.resolve_right (fun working => working idle)
        obtain ⟨count, waits⟩ := Nat.exists_eq_succ_of_ne_zero (Nat.ne_of_gt free)
        simp [perform, take, answered, waits, queued] at refused
  unfold State.live
  rw [idle, empty]
  rfl

/-- The transition of a returned thread has succeeded. -/
theorem Serving.succeeded (serving : Serving model state positions) (tracked : Tracked model state positions)
    {transition : AcceptedTransition} (member : transition ∈ state.accepted)
    (finished : (positions (transition.id - 1)).work = .finished) : Succeeded state transition.id := by
  obtain ⟨inside, own⟩ := tracked.thread member
  have assured := serving.assured _ inside _ (serving.planned transition member)
  rw [finished, ← own] at assured
  exact assured

theorem Serving.returned (serving : Serving model state positions) (tracked : Tracked model state positions)
    {transition : AcceptedTransition} (member : transition ∈ state.accepted)
    (returned : state.pool.pending (transition.id - 1) = none) : Succeeded state transition.id :=
  serving.succeeded tracked member (tracked.sound.finished (tracked.thread member).1 returned)

/-- Every transition has succeeded when the service rests. -/
theorem Serving.resting {capacity workers : Nat}
    (serving : Serving model state positions) (tracked : Tracked model state positions)
    (reached : (service model capacity).Reaches allowed (started configuration workers) state) (some : 0 < workers)
    (resting : Resting model capacity state) : ∀ transition ∈ state.accepted, Succeeded state transition.id := by
  intro transition member
  have engine : (machine model).Reaches (fun _ _ => True) (created configuration) state.pool :=
    pool_reaches (fun _ _ _ _ _ => trivial) reached
  have staffed := staffed_reached some reached
  have live := resting.live_eq_nil tracked serving staffed (zero_unused engine).2
  apply serving.returned tracked member
  cases pending : state.pool.pending (transition.id - 1) with
  | none => rfl
  | some op =>
      rcases tracked.moving _ op pending with ⟨_, _, asked⟩ | moving
      · cases (resting.answered tracked serving).symm.trans asked
      · rw [live] at moving
        cases moving

/-- The transitions of a queue are executed in the order of their acceptance and succeed, if no
transition takes its lease before an earlier one of its domain and no plan has become stale. -/
theorem queue_served_in_order (model : ValidatedModel) (capacity workers : Nat)
    (configuration : SystemConfiguration) (state : State)
    (queues : ∀ definition ∈ model.value.domains, definition.replacement = .queue)
    (reached : (service model capacity).Reaches (fun state action => favours state action = true ∧
      inTurn model state action = true) (started configuration workers) state) :
    (∀ transition ∈ state.accepted, state.pool.pending (transition.id - 1) = none → Succeeded state transition.id) ∧
    (∀ first second, [first, second].Sublist state.accepted → first.plan.domain = second.plan.domain →
      awaitsLease state.pool (second.id - 1) = false → Succeeded state first.id) ∧
    (∀ run : Nat → State, run 0 = state → ∃ step, ¬ Proceeds model capacity (run step) (run (step + 1))) ∧
    (0 < workers → Resting model capacity state → ∀ transition ∈ state.accepted, Succeeded state transition.id) := by
  obtain ⟨positions, tracked, serving⟩ := serving_reached queues reached
  refine ⟨fun transition member returned => serving.returned tracked member returned, ?_,
    fun run _ => exists_not_proceeds model capacity run, serving.resting tracked reached⟩
  intro first second listed same free
  have one : first ∈ state.accepted := listed.subset (by simp)
  have two : second ∈ state.accepted := listed.subset (by simp)
  have earlier : first.id < second.id := by
    have ordered := tracked.ordered.sublist (listed.map (·.id))
    simpa using ordered
  have served := tracked.sound.served (tracked.thread two).1 (serving.underway second two) free
  exact serving.succeeded tracked one (serving.ordered first one second two earlier same served)

/-- Two workers take two transitions, and the second one waits for the lease of the first one. -/
def awaiting : List (State → Action) :=
  submit 0 1 2 ++ [fun _ => .take, fun _ => .begin 1] ++ submit 1 1 1 ++
    [fun _ => .take, fun _ => .begin 2] ++ List.replicate 3 (drive 0) ++ List.replicate 2 (drive 1) ++
    List.replicate 18 (drive 0) ++ List.replicate 16 (drive 1)

/-- The hatch opens and closes again. -/
theorem queue_served_in_order_awaited : ∃ state,
    (service hatchModes 4).Reaches (fun state action => favours state action = true ∧
      inTurn hatchModes state action = true) (started ⟨1, initialModes hatchModes, ∅⟩ 2) state ∧
    state.accepted.map (·.id) = [1, 2] ∧ ∀ transition ∈ state.accepted, Succeeded state transition.id := by
  obtain ⟨state, reached, listed, returned⟩ := exists_served hatchModes 4 2
    ⟨1, initialModes hatchModes, ∅⟩
    (fun state action => favours state action && inTurn hatchModes state action)
    (fun _ _ checked => (Bool.and_eq_true _ _).mp checked) awaiting
    (fun state => state.accepted.map (·.id) = [1, 2] ∧ ∀ transition ∈ state.accepted,
      (state.pool.pending (transition.id - 1)).isNone = true) (by decide +kernel)
  obtain ⟨succeeded, _⟩ := queue_served_in_order hatchModes 4 2 _ state (by decide) reached
  refine ⟨state, reached, listed, fun transition member => ?_⟩
  exact succeeded transition member (Option.isNone_iff_eq_none.mp (returned transition member))

/-- The second transition takes its lease before the first one, and its plan is stale. -/
theorem queue_overtaken : (∀ definition ∈ hatchModes.value.domains, definition.replacement = .queue) ∧ ∃ state,
    (service hatchModes 4).Reaches (fun state action => favours state action = true)
      (started ⟨1, initialModes hatchModes, ∅⟩ 2) state ∧
    ∃ first second, state.accepted = [first, second] ∧ first.plan.domain = second.plan.domain ∧
      awaitsLease state.pool (first.id - 1) = true ∧ state.pool.pending (second.id - 1) = none ∧
      ¬ Succeeded state second.id := by
  obtain ⟨state, reached, listed, domains, waits, returned, phase⟩ := exists_served hatchModes 4 2
    ⟨1, initialModes hatchModes, ∅⟩ favours (fun _ _ checked => checked) overtaking
    (fun state => state.accepted.map (·.id) = [1, 2] ∧ state.accepted.map (·.plan.domain) = [1, 1] ∧
      awaitsLease state.pool 0 = true ∧ (state.pool.pending 1).isNone = true ∧
      (state.pool.shared.transitions.lookup 2).map (·.phase) = some .failed) (by decide +kernel)
  refine ⟨by decide, state, reached, ?_⟩
  match accepted : state.accepted with
  | [first, second] =>
      rw [accepted] at listed domains
      simp only [List.map_cons, List.map_nil, List.cons.injEq, and_true] at listed domains
      refine ⟨first, second, rfl, domains.1.trans domains.2.symm, ?_, ?_, ?_⟩
      · rw [listed.1]
        exact waits
      · rw [listed.2]
        exact Option.isNone_iff_eq_none.mp returned
      · rintro ⟨snapshot, stored, succeeded⟩
        rw [listed.2] at stored
        rw [stored, Option.map_some, succeeded] at phase
        cases phase
  | [] | [_] | _ :: _ :: _ :: _ =>
      rw [accepted] at listed
      simp at listed

end OpenVehicle.Exec.Coordinator
