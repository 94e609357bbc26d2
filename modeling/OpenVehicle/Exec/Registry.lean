/-
This file proves the invariant that every run of the engine keeps:
each transition has its own entries in the tables of the engine, and its thread knows them.
-/

import OpenVehicle.Exec.Assertion

namespace OpenVehicle.Exec

open Concurrency FiniteMap ExecutionEngine

/-- The entries of a transition in the tables of the engine. -/
structure SameEntries (id : TransitionId) (state later : EngineState) : Prop where
  transitions : later.transitions.lookup id = state.transitions.lookup id
  plans : later.plans.lookup id = state.plans.lookup id
  cancellation : later.cancellation.lookup id = state.cancellation.lookup id
  leases : later.scheduler.leases.lookup id = state.scheduler.leases.lookup id

theorem SameEntries.refl (id : TransitionId) (state : EngineState) : SameEntries id state state := ⟨rfl, rfl, rfl, rfl⟩

variable {op : EngineOp}

theorem effect_attempt {unit : ExecutionUnitId} (attempted : AttemptOp unit op)
    (reply : op.Reply) (state : EngineState) : effect op reply state = state := by
  rcases attempted with rfl | rfl | ⟨reason, rfl⟩ <;> rfl

variable {model : ValidatedModel} {state : EngineState} {position later : Position} {reply : op.Reply}

section Frame
variable {other : TransitionId}

theorem sameEntries_grant {owner : TransitionId} {resources : TransitionResources}
    (different : other ≠ owner) : SameEntries other state
      { state with scheduler := state.scheduler.grant owner resources } := by
  refine ⟨rfl, rfl, rfl, ?_⟩
  change (emplace owner resources state.scheduler.leases).lookup other = _
  rw [lookup_emplace, if_neg different, Option.or_none]

/-- A step of one thread leaves the entries of every other transition alone. -/
theorem sameEntries_effect (state : EngineState) (rule : Rule model position op reply later)
    (known : position.work ≠ .void) (different : other ≠ position.transition.id) :
    SameEntries other state (effect op reply state) := by
  cases rule with
  | register transition plan leased next =>
      refine ⟨?_, ?_, ?_, rfl⟩
      · change (emplace transition.id transition state.transitions).lookup other = _
        rw [lookup_emplace, if_neg different, Option.or_none]
      · cases plan with
        | none => rfl
        | some plan => exact AList.lookup_insert_ne different
      · change (emplace transition.id false state.cancellation).lookup other = _
        rw [lookup_emplace, if_neg different, Option.or_none]
  | enterGranted => exact sameEntries_grant different
  | wakeGranted => exact sameEntries_grant different
  | release transition plan registered leased =>
      refine ⟨rfl, rfl, rfl, ?_⟩
      change (state.scheduler.release transition.id).leases.lookup other = _
      rw [SchedulerState.lookup_leases_release, if_neg different]
  | move position moves =>
      cases moves with
      | void => exact absurd rfl known
      | store snapshot next kin =>
          refine ⟨?_, rfl, rfl, rfl⟩
          exact AList.lookup_insert_ne (kin.id ▸ different)
      | attempt _ _ _ attempted =>
          rw [effect_attempt attempted]
          exact .refl other state
      | attemptFailed _ _ _ attempted =>
          rw [effect_attempt attempted]
          exact .refl other state
      | _ => exact ⟨rfl, rfl, rfl, rfl⟩

end Frame

/-- The account of the stored snapshot. A thread is planned from its first phase to its lease. -/
def storeAccount (model : ValidatedModel) (transition : TransitionSnapshot) :
    Account (Option TransitionSnapshot) where
  registered := fun _ => some transition
  appends := fun snapshot _ => Kin transition snapshot
  stored := fun snapshot _ => some snapshot
  opens := fun view => view = some { transition with phase := .planned }
  waits := fun view => view = some { transition with phase := .planned }
  replans := fun view => view = some { transition with phase := .planned }
  reads := fun domain _ => model.findDomain transition.domain = some domain

variable {transition : TransitionSnapshot} {plan : Option TransitionPlan}

namespace Stored
variable {view : Option TransitionSnapshot}

theorem steady (unfailed : transition.failure = none) :
    (storeAccount model transition).Steady model transition (fun _ => True) where
  unfailed := unfailed
  records := fun _ _ plain _ _ => ⟨plain.kin, trivial, trivial⟩
  closes := fun _ _ plain _ _ => ⟨plain.kin, trivial, trivial⟩
  stops := fun _ _ _ => ⟨trivial, trivial, trivial⟩
  starts := fun _ _ _ => ⟨trivial, trivial, trivial⟩
  reads := fun _ _ found _ => found
  commits := by
    intro view _
    refine ⟨trivial, ?_⟩
    rintro snapshot rfl
    refine ⟨⟨rfl, rfl, rfl, rfl⟩, trivial, fun _ => .inr ?_⟩
    rintro snapshot ⟨code, failure, _, rfl⟩
    exact ⟨⟨rfl, rfl, rfl, rfl⟩, trivial, fun _ => .inr trivial⟩
  recovers := by
    intro domain stopped started view _ _
    refine ⟨trivial, ?_⟩
    rintro snapshot ⟨failure, _, rfl⟩
    exact ⟨⟨rfl, rfl, rfl, rfl⟩, trivial, fun _ => .inr trivial⟩

theorem accept (unfailed : transition.failure = none) :
    (storeAccount model transition).Assured (Work.accept transition plan) view := by
  have failing (view : Option TransitionSnapshot) : (storeAccount model transition).Assured
      (Work.failing transition .finished) view := (steady unfailed).failing (.inl rfl) trivial
  cases plan with
  | none => exact failing _
  | some plan =>
      rintro snapshot rfl
      refine ⟨⟨rfl, rfl, rfl, rfl⟩, ?_, fun _ => .inr (failing _)⟩
      rintro snapshot rfl
      exact ⟨⟨rfl, rfl, rfl, rfl⟩, rfl, fun _ => .inr (failing _)⟩

theorem sustains (unfailed : transition.failure = none) :
    (storeAccount model transition).Sustains model transition plan op state view where
  loaded := fun _ _ _ => trivial
  opened := by
    intro plan _ planned
    unfold Work.request
    split
    · exact (steady unfailed).failing (.inl rfl) trivial
    · exact planned
  refused := fun _ => .inr ((steady unfailed).failing (.inl rfl) trivial)
  confirmed := fun _ _ _ _ => (steady unfailed).confirm trivial
  repaired := fun _ _ found => (steady unfailed).repair found trivial

end Stored

/-- A thread without a lease operates on nothing. -/
def idleAccount : Account Unit where
  touches := fun _ _ => False
  erases := fun _ _ => False
  inserts := fun _ _ => False
  commits := fun _ _ => False
  replans := fun _ => False
  reads := fun _ _ => False

theorem idleAccount_silent : idleAccount.Silent :=
  ⟨fun _ _ => trivial, fun _ _ => rfl, fun _ _ => rfl, fun _ _ => rfl, fun _ => trivial⟩

theorem idleAccount_sustains : idleAccount.Sustains model transition plan op state () where
  loaded := fun _ _ _ => trivial
  opened := fun _ _ _ => idleAccount_silent.request trivial
  refused := fun _ => .inr idleAccount_silent.rejected
  confirmed := fun _ _ _ impossible => impossible.elim
  repaired := fun _ _ impossible => impossible.elim

/-- The engine does not know the transition. -/
structure Unknown (id : TransitionId) (state : EngineState) : Prop where
  transitions : state.transitions.lookup id = none
  plans : state.plans.lookup id = none
  cancellation : state.cancellation.lookup id = none

/-- The tables of the engine contain entries of its own transitions only. -/
structure Registry (state : EngineState) (count : Nat) : Prop where
  next : state.nextTransition = count + 1
  consistent : state.scheduler.Consistent
  fresh : ∀ id, count < id → Unknown id state ∧ state.scheduler.leases.lookup id = none

/-- The thread of a transition knows its entries. -/
structure Owned (model : ValidatedModel) (index : Nat) (position : Position) (state : EngineState) :
    Prop where
  id : position.transition.id = index + 1
  phase : position.transition.phase = .received
  failure : position.transition.failure = none
  planned : ∀ plan, position.plan = some plan → ∃ baseline,
    TransitionPlanner.plan model baseline position.transition.domain position.transition.targetMode =
      .ok plan ∧ position.transition.sourceMode =
        (baseline.committedModes.lookup position.transition.domain).getD 0
  unregistered : position.registered = false →
    (∃ next, position.work = .registering next) ∧ Unknown (index + 1) state
  unleased : position.registered = false → position.leased = false
  stored : position.registered = true → ∃ snapshot,
    state.transitions.lookup (index + 1) = some snapshot ∧ Kin position.transition snapshot
  plans : position.registered = true → state.plans.lookup (index + 1) = position.plan
  leased : position.leased = true → ∃ plan resources, position.plan = some plan ∧
    SchedulerState.checkRequest (index + 1) (planResources plan) = .ok resources ∧
    state.scheduler.leases.lookup (index + 1) = some resources
  free : position.leased = false → state.scheduler.leases.lookup (index + 1) = none
  idle : position.leased = false → idleAccount.Assured position.work ()
  work : (storeAccount model position.transition).Assured position.work
    (state.transitions.lookup (index + 1))

section Steps
variable {state other : EngineState} {index count : Nat} {id : TransitionId}

theorem Unknown.frame (unknown : Unknown id state) (same : SameEntries id state other) : Unknown id other :=
  ⟨same.transitions.trans unknown.transitions, same.plans.trans unknown.plans,
    same.cancellation.trans unknown.cancellation⟩

section
variable (owned : Owned model index position state)
include owned

/-- A thread keeps its knowledge while its entries stay the same. -/
theorem Owned.frame (same : SameEntries (index + 1) state other) : Owned model index position other where
  id := owned.id
  phase := owned.phase
  failure := owned.failure
  planned := owned.planned
  unregistered := fun missing =>
    ⟨(owned.unregistered missing).1, (owned.unregistered missing).2.frame same⟩
  unleased := owned.unleased
  stored := fun registered => same.transitions ▸ owned.stored registered
  plans := fun registered => same.plans.trans (owned.plans registered)
  leased := by
    intro leased
    obtain ⟨plan, resources, planned, checked, held⟩ := owned.leased leased
    exact ⟨plan, resources, planned, checked, same.leases.trans held⟩
  free := fun free => same.leases.trans (owned.free free)
  idle := owned.idle
  work := same.transitions ▸ owned.work

theorem Owned.work_ne_void : position.work ≠ .void := by
  intro void
  have work := owned.work
  rw [void] at work
  exact work

/-- A step of a thread leaves the entries of the other identifiers alone. -/
theorem Owned.others (rule : Rule model position op reply later) (different : id ≠ index + 1) :
    SameEntries id state (effect op reply state) := by
  apply sameEntries_effect state rule owned.work_ne_void
  rw [owned.id]
  exact different

/-- A thread that opens its transition finds it in its last phase. -/
theorem Owned.opens (opening : position.work = .opening) : state.transitions.lookup position.transition.id =
      some { position.transition with phase := .planned } := by
  have opens := owned.work
  rw [opening, ← owned.id] at opens
  exact opens

end

theorem rule_transition (rule : Rule model position op reply later) :
    later.transition = position.transition ∧ later.plan = position.plan := by
  cases rule <;> exact ⟨rfl, rfl⟩

theorem effect_nextTransition (op : EngineOp) (reply : op.Reply) (state : EngineState) :
    (effect op reply state).nextTransition = state.nextTransition := by
  unfold effect
  split <;> rfl

variable {work next : Work}

/-- A move of a thread changes its own entries only by a stored snapshot. -/
theorem effect_moves (state : EngineState)
    (moves : Moves model position.transition position.plan work op reply next) (known : work ≠ .void) :
    (effect op reply state).plans = state.plans ∧ (effect op reply state).cancellation = state.cancellation ∧
    (effect op reply state).scheduler = state.scheduler ∧
    (effect op reply state).transitions.lookup position.transition.id =
      (storeAccount model position.transition).after op reply (state.transitions.lookup position.transition.id) := by
  cases moves with
  | void => exact absurd rfl known
  | store snapshot next kin =>
      refine ⟨rfl, rfl, rfl, ?_⟩
      change (state.transitions.insert snapshot.id snapshot).lookup _ = some snapshot
      rw [kin.id]
      exact AList.lookup_insert _
  | attempt _ _ _ attempted =>
      rw [effect_attempt attempted, Account.after_attempt attempted]
      exact ⟨rfl, rfl, rfl, rfl⟩
  | attemptFailed _ _ _ attempted =>
      rw [effect_attempt attempted, Account.after_attempt attempted]
      exact ⟨rfl, rfl, rfl, rfl⟩
  | _ => exact ⟨rfl, rfl, rfl, rfl⟩

/-- A registered thread changes its stored snapshot only by its stores. -/
theorem stored_effect (state : EngineState) (rule : Rule model position op reply later)
    (known : position.work ≠ .void) (registered : position.registered = true) :
    (effect op reply state).transitions.lookup position.transition.id =
      (storeAccount model position.transition).after op reply (state.transitions.lookup position.transition.id) := by
  cases rule with
  | register => cases registered
  | enterGranted => rfl
  | wakeGranted => rfl
  | release => rfl
  | move position moves => exact (effect_moves state moves known).2.2.2

/-- The stored snapshot of a thread after one of its steps. -/
theorem snapshot_after (state : EngineState) (rule : Rule model position op reply later) (known : position.work ≠ .void)
    (unregistered : position.registered = false → (∃ next, position.work = .registering next) ∧
      state.transitions.lookup position.transition.id = none) :
    (effect op reply state).transitions.lookup position.transition.id =
      (storeAccount model position.transition).after op reply (state.transitions.lookup position.transition.id) := by
  by_cases registered : position.registered = true
  · exact stored_effect state rule known registered
  · obtain ⟨⟨next, registering⟩, missing⟩ := unregistered (Bool.not_eq_true _ ▸ registered)
    cases rule with
    | register transition plan leased next =>
        change (emplace transition.id transition state.transitions).lookup transition.id = _
        rw [lookup_emplace, missing, if_pos rfl]
        rfl
    | enterGranted | wakeGranted | release => cases registering
    | @move position work next op reply moves =>
        obtain rfl : work = .registering _ := registering
        cases moves

/-- A thread stores snapshots of its own transition only. -/
theorem stored_kin (moves : Moves model position.transition position.plan work op reply next) (known : work ≠ .void)
    (before : ∃ snapshot, state.transitions.lookup position.transition.id = some snapshot ∧
      Kin position.transition snapshot) :
    ∃ snapshot, (effect op reply state).transitions.lookup position.transition.id = some snapshot ∧
      Kin position.transition snapshot := by
  cases moves with
  | void => exact absurd rfl known
  | store stored next kin =>
      refine ⟨stored, ?_, kin⟩
      change (state.transitions.insert stored.id stored).lookup _ = some stored
      rw [kin.id]
      exact AList.lookup_insert _
  | attempt _ _ _ attempted =>
      rw [effect_attempt attempted]
      exact before
  | attemptFailed _ _ _ attempted =>
      rw [effect_attempt attempted]
      exact before
  | _ => exact before

/-- A step keeps the tables in order. -/
theorem Registry.step (registry : Registry state count) (inside : index < count)
    (owned : Owned model index position state) (rule : Rule model position op reply later)
    (answers : Answers model op reply state) : Registry (effect op reply state) count where
  next := by rw [effect_nextTransition, registry.next]
  consistent := by
    cases rule with
    | register => exact registry.consistent
    | enterGranted => exact registry.consistent.grant answers.1 answers.2
    | wakeGranted => exact registry.consistent.grant (owned.id ▸ owned.free rfl) answers
    | release => exact registry.consistent.release _
    | move position moves =>
        rw [(effect_moves state moves owned.work_ne_void).2.2.1]
        exact registry.consistent
  fresh := by
    intro id outside
    have different : id ≠ index + 1 := Nat.ne_of_gt (by omega)
    have same := owned.others rule different
    obtain ⟨unknown, free⟩ := registry.fresh id outside
    exact ⟨unknown.frame same, same.leases.trans free⟩

/-- A step of a thread keeps what the thread knows. -/
theorem Owned.step (owned : Owned model index position state)
    (rule : Rule model position op reply later) (answers : Answers model op reply state) :
    Owned model index later (effect op reply state) := by
  have assured := owned.work.step rule answers (Stored.sustains owned.failure) (fun planned => planned)
    owned.opens (fun _ _ _ => trivial) fun _ _ => not_false
  obtain ⟨sameTransition, samePlan⟩ := rule_transition rule
  cases rule with
  | register transition plan leased next =>
      have missing := (owned.unregistered rfl).2
      have own : transition.id = index + 1 := owned.id
      have stored : (effect (.register transition plan) () state).transitions.lookup (index + 1) =
          some transition := by
        change (emplace transition.id transition state.transitions).lookup (index + 1) = _
        rw [lookup_emplace, own, missing.transitions, if_pos rfl]
        rfl
      refine ⟨owned.id, owned.phase, owned.failure, owned.planned, by simp, by simp, ?_, ?_, owned.leased,
        owned.free, owned.idle, stored ▸ assured⟩
      · intro _
        exact ⟨transition, stored, rfl, rfl, rfl, rfl⟩
      · intro _
        cases plan with
        | none => exact missing.plans
        | some plan =>
            change (state.plans.insert transition.id plan).lookup (index + 1) = some plan
            rw [own]
            exact AList.lookup_insert _
  | enterGranted transition plan registered resources checked =>
      have own : transition.id = index + 1 := owned.id
      have registered_ : registered = true := by
        by_contra missing
        obtain ⟨⟨next, work⟩, _⟩ := owned.unregistered (Bool.not_eq_true _ ▸ missing)
        cases work
      refine ⟨owned.id, owned.phase, owned.failure, owned.planned, by simp [registered_],
        by simp [registered_], owned.stored, owned.plans, ?_, by simp, by simp, assured⟩
      · intro _
        refine ⟨plan, resources, rfl, own ▸ checked, ?_⟩
        change (state.scheduler.grant transition.id resources).leases.lookup (index + 1) = _
        rw [SchedulerState.lookup_leases_grant answers.1, own, if_pos rfl]
  | wakeGranted transition plan registered resources checked =>
      have own : transition.id = index + 1 := owned.id
      have fresh : state.scheduler.leases.lookup transition.id = none := own ▸ owned.free rfl
      have registered_ : registered = true := by
        by_contra missing
        obtain ⟨⟨next, work⟩, _⟩ := owned.unregistered (Bool.not_eq_true _ ▸ missing)
        cases work
      refine ⟨owned.id, owned.phase, owned.failure, owned.planned, by simp [registered_],
        by simp [registered_], owned.stored, owned.plans, ?_, by simp, by simp, assured⟩
      · intro _
        refine ⟨plan, resources, rfl, own ▸ checked, ?_⟩
        change (state.scheduler.grant transition.id resources).leases.lookup (index + 1) = _
        rw [SchedulerState.lookup_leases_grant fresh, own, if_pos rfl]
  | release transition plan registered leased =>
      have own : transition.id = index + 1 := owned.id
      refine ⟨owned.id, owned.phase, owned.failure, owned.planned, ?_, fun _ => rfl, owned.stored,
        owned.plans, by simp, ?_, fun _ => trivial, assured⟩
      · intro missing
        obtain ⟨⟨next, work⟩, _⟩ := owned.unregistered missing
        cases work
      · intro _
        change (state.scheduler.release transition.id).leases.lookup (index + 1) = none
        rw [SchedulerState.lookup_leases_release, own, if_pos rfl]
  | @move position work next op reply moves =>
      have own : position.transition.id = index + 1 := owned.id
      obtain ⟨plans, cancellation, scheduler, stored⟩ := effect_moves state moves owned.work_ne_void
      refine ⟨owned.id, owned.phase, owned.failure, owned.planned, ?_, owned.unleased, ?_, ?_, ?_, ?_, ?_, ?_⟩
      · intro missing
        obtain ⟨⟨next, registering⟩, _⟩ := owned.unregistered missing
        obtain rfl : work = .registering next := registering
        cases moves
      · intro registered
        rw [← own]
        exact stored_kin moves owned.work_ne_void (own ▸ owned.stored registered)
      · rw [plans]
        exact owned.plans
      · rw [scheduler]
        exact owned.leased
      · rw [scheduler]
        exact owned.free
      · intro free
        exact (owned.idle free).move moves answers idleAccount_sustains owned.opens
          ⟨fun _ _ kept => kept, fun _ _ _ none => none.elim, fun _ _ _ => trivial⟩
      · rw [own] at stored
        rw [stored]
        exact assured

/-- A cancellation and a request change no entry that a thread relies on. -/
theorem sameEntries_next (id : TransitionId) (next : TransitionId) :
    SameEntries id state { state with nextTransition := next } := ⟨rfl, rfl, rfl, rfl⟩

/-- A request takes the next identifier. -/
theorem Registry.request (registry : Registry state count) :
    Registry { state with nextTransition := state.nextTransition + 1 } (count + 1) where
  next := congrArg (· + 1) registry.next
  consistent := registry.consistent
  fresh := by
    intro id outside
    obtain ⟨unknown, free⟩ := registry.fresh id (by omega)
    exact ⟨unknown.frame (sameEntries_next id _), free⟩

end Steps

end OpenVehicle.Exec
