/-
This file relates the backend operations of a transition to the units of its lease.
The lease names the units of the accepted plan. A recovery plans again and may need others.
-/

import OpenVehicle.Exec.Runs

namespace OpenVehicle.Exec

open Concurrency FiniteMap ExecutionEngine TransitionPlanner

/-- The unit that a backend operation starts or stops. -/
def EngineOp.unit : EngineOp → Option ExecutionUnitId
  | .stop unit _ | .start unit => some unit
  | _ => none

/-- The lease of a transition names the unit. -/
def Leases (state : EngineState) (index : Nat) (unit : ExecutionUnitId) : Prop :=
  ∃ resources, state.scheduler.leases.lookup (index + 1) = some resources ∧ unit ∈ resources.units

variable (model : ValidatedModel)

/-- The units that do not run as the recovery of the domain wants. -/
def displaced (configuration : SystemConfiguration)
    (domain : DomainDefinition) : Finset ExecutionUnitId :=
  match domain.recovery.action with
  | .enterFallbackMode =>
      match requiredUnits model
          (configuration.committedModes.insert domain.id domain.recovery.fallbackMode) with
      | .error _ => ∅
      | .ok required =>
          (configuration.runningUnits \ required) ∪ (required \ configuration.runningUnits)
  | _ =>
      match requiredWithout model configuration domain.id with
      | .error _ => ∅
      | .ok required => configuration.runningUnits \ required

/-- The lease of a transition names the units that its recovery finds displaced. -/
def RecoversInside (state : EngineState) (index : Nat) : Prop :=
  ∀ snapshot ∈ state.transitions.lookup (index + 1),
    ∀ resources ∈ state.scheduler.leases.lookup (index + 1),
      ∀ domain ∈ model.findDomain snapshot.domain,
        ∀ unit ∈ displaced model state.configuration domain, unit ∈ resources.units

instance (model : ValidatedModel) (state : EngineState) (index : Nat) :
    Decidable (RecoversInside model state index) := inferInstanceAs (Decidable (∀ _ ∈ _, _))

/-- Every recovery of a run plans inside its lease. -/
def RecoveryInside (pool : EnginePool) : EngineChoice → Prop
  | .thread index _ =>
      pool.pending index = some .readConfiguration → RecoversInside model pool.shared index
  | .event _ => True

instance (model : ValidatedModel) (pool : EnginePool) :
    (choice : EngineChoice) → Decidable (RecoveryInside model pool choice)
  | .thread index _ => inferInstanceAs
      (Decidable (pool.pending index = some .readConfiguration → RecoversInside model pool.shared index))
  | .event _ => inferInstanceAs (Decidable True)

/-- The account of the units that a thread operates on. -/
def coverAccount (position : Position) : Account Unit where
  touches := fun unit _ => ∃ plan, position.plan = some plan ∧ unit ∈ plan.stop ++ plan.start
  reads := fun domain _ => model.findDomain position.transition.domain = some domain

variable {model : ValidatedModel} {unit : ExecutionUnitId} {op : EngineOp} {index : Nat}

section Coverage
variable {position : Position} {state : EngineState} {plan : TransitionPlan}

theorem coverAccount_silent : (coverAccount model position).Silent :=
  ⟨fun _ _ => trivial, fun _ _ => rfl, fun _ _ => rfl, fun _ _ => rfl, fun _ => trivial⟩

theorem coverAccount_repairStops {transition : TransitionSnapshot} {mode : Option ModeId}
    {starts stops : List ExecutionUnitId} (planned : position.plan = some plan)
    (stopsInside : ∀ unit ∈ stops, unit ∈ plan.stop ++ plan.start)
    (startsInside : ∀ unit ∈ starts, unit ∈ plan.stop ++ plan.start) :
    (coverAccount model position).Assured (Work.repairStops transition mode starts stops []) () := by
  refine Account.assured_repairStops
    (fun rest _ _ => ∀ unit ∈ rest, unit ∈ plan.stop ++ plan.start) ?_ ?_ stopsInside
  · intro unit rest stopped view inside
    exact ⟨⟨plan, planned, inside unit List.mem_cons_self⟩, trivial,
      fun other member => inside other (List.mem_cons_of_mem _ member), .inr coverAccount_silent.repaired⟩
  · intro stopped view _
    refine Account.assured_repairStarts
      (fun rest _ _ => ∀ unit ∈ rest, unit ∈ plan.stop ++ plan.start) ?_ ?_ startsInside
    · intro unit rest started view inside
      exact ⟨⟨plan, planned, inside unit List.mem_cons_self⟩, trivial,
        fun other member => inside other (List.mem_cons_of_mem _ member), .inr coverAccount_silent.repaired⟩
    · intro started view _
      cases mode with
      | none => exact coverAccount_silent.repaired
      | some mode => exact ⟨trivial, coverAccount_silent.repaired⟩

theorem coverAccount_carries (planned : position.plan = some plan) :
    (coverAccount model position).Carries model position.transition plan
      fun starting rest _ => ∀ unit ∈ rest, unit ∈ cond starting plan.start plan.stop :=
  coverAccount_silent.carries (fun _ _ _ _ found _ => found)
    (fun unit _ _ inside => ⟨⟨plan, planned, List.mem_append_left _ (inside unit List.mem_cons_self)⟩, trivial,
      fun other member => inside other (List.mem_cons_of_mem _ member)⟩)
    (fun _ _ _ member => member)
    (fun unit _ _ inside => ⟨⟨plan, planned, List.mem_append_right _ (inside unit List.mem_cons_self)⟩, trivial,
      fun other member => inside other (List.mem_cons_of_mem _ member)⟩)
    fun _ _ => trivial

/-- A recovery plan contains displaced units only. -/
theorem displaced_of_reconcile {domain : DomainDefinition} (action : domain.recovery.action = .enterFallbackMode)
    (reconciled : reconcile model state.configuration domain.id domain.recovery.fallbackMode = .ok plan)
    (member : unit ∈ plan.stop ++ plan.start) : unit ∈ displaced model state.configuration domain := by
  obtain ⟨required, facts, _⟩ := buildPlan_eq_ok reconciled
  unfold displaced
  simp only [action, facts.required, Finset.mem_union, Finset.mem_sdiff]
  rcases List.mem_append.mp member with stops | starts
  · exact .inl (facts.mem_stop.mp stops)
  · exact .inr (facts.mem_start.mp starts)

theorem displaced_of_stopDomain {domain : DomainDefinition} {stopped : List ExecutionUnitId}
    (action : domain.recovery.action ≠ .enterFallbackMode)
    (found : stopDomainUnits model state.configuration domain.id = .ok stopped) (member : unit ∈ stopped) :
    unit ∈ displaced model state.configuration domain := by
  obtain ⟨required, without, _, rfl⟩ := stopDomainUnits_eq_ok found
  rw [mem_order] at member
  unfold displaced
  split
  · rename_i fallback
    exact absurd fallback action
  · simpa only [without] using member

/-- A leased unit is a unit of the accepted plan. -/
theorem Owned.leases_iff (owned : Owned model index position state) (leased : position.leased = true)
    (planned : position.plan = some plan) : Leases state index unit ↔ unit ∈ plan.stop ++ plan.start := by
  obtain ⟨_, resources, same, checked, held⟩ := owned.leased leased
  obtain rfl := Option.some.inj (same.symm.trans planned)
  have inside := SchedulerState.mem_checkRequest checked .unit unit
  constructor
  · rintro ⟨other, lease, member⟩
    obtain rfl := Option.some.inj (lease.symm.trans held)
    exact inside.mp member
  · intro member
    exact ⟨resources, held, inside.mpr member⟩

/-- Each decision of a thread keeps to the units of its plan if its recovery does. -/
theorem coverAccount_sustains (owned : Owned model index position state)
    (leased : op = .readConfiguration → position.leased = true)
    (registered : op = .readConfiguration → position.registered = true)
    (inside : op = .readConfiguration → RecoversInside model state index) :
    (coverAccount model position).Sustains model position.transition position.plan op state () where
  loaded := fun _ _ _ => trivial
  opened := fun _ _ _ => coverAccount_silent.request trivial
  refused := fun _ => .inr coverAccount_silent.rejected
  confirmed := by
    intro accepted planned _ _
    exact coverAccount_silent.confirm fun _ _ _ _ =>
      (coverAccount_carries planned).execute fun _ member => member
  repaired := by
    intro domain reads found
    obtain ⟨plan, resources, planned, checked, held⟩ := owned.leased (leased reads)
    obtain ⟨snapshot, stored, kin⟩ := owned.stored (registered reads)
    have covered (unit : ExecutionUnitId) (member : unit ∈ displaced model state.configuration domain) :
        unit ∈ plan.stop ++ plan.start := by
      rw [← owned.leases_iff (leased reads) planned]
      exact ⟨resources, held, inside reads snapshot stored resources held domain (kin.domain.symm ▸ found) unit member⟩
    refine coverAccount_silent.repair ?_ ?_
    · intro second action reconciled
      exact coverAccount_repairStops planned
        (fun unit member => covered unit
          (displaced_of_reconcile action reconciled (List.mem_append_left _ member)))
        (fun unit member => covered unit
          (displaced_of_reconcile action reconciled (List.mem_append_right _ member)))
    · intro stopped action found
      exact coverAccount_repairStops planned
        (fun unit member => covered unit (displaced_of_stopDomain action found member)) (by simp)

/-- The operations of every thread stay inside its plan. -/
def UnitsCovered (model : ValidatedModel) (_ : Nat) (position : Position) (_ : EngineState) : Prop :=
  (coverAccount model position).Assured position.work ()

theorem coverage_maintained (model : ValidatedModel) :
    Maintains model (RecoveryInside model) (fun _ _ _ => True) (UnitsCovered model) where
  step := by
    intro pool positions index input op reply later sound holds step
    have owned := sound.owned index step.inside
    have covered : UnitsCovered model index (positions index) pool.shared := holds.own index step.inside
    obtain ⟨sameTransition, samePlan⟩ := rule_transition step.rule
    have same : coverAccount model later = coverAccount model (positions index) := by
      unfold coverAccount
      rw [sameTransition, samePlan]
    refine ⟨trivial, ?_, fun other inside _ => holds.own other inside⟩
    unfold UnitsCovered
    rw [same]
    refine covered.step step.rule step.answers (coverAccount_sustains owned ?_ ?_ ?_)
      (fun _ => trivial) owned.opens (fun _ _ _ => trivial) fun _ _ => not_false
    · rintro rfl
      exact owned.leased_of_requires step.rule (by simp [Account.Requires, idleAccount])
    · rintro rfl
      exact owned.registered_of_rule step.rule (by simp)
    · rintro rfl
      exact step.permitted step.pending
  cancel := fun _ _ _ _ _ holds _ _ => ⟨trivial, holds.own⟩
  request := by
    intro pool positions baseline domain target sound holds _
    refine ⟨trivial, fun index inside => ?_⟩
    by_cases fresh : index = pool.threads.length
    · rw [fresh, Function.update_self]
      exact coverAccount_silent.accept trivial
    · rw [Function.update_of_ne fresh]
      exact holds.own index (by omega)

end Coverage

/-- A pending backend operation is on a leased unit. -/
theorem leases_of_pending {pool : EnginePool} {positions : Nat → Position} (sound : Sound model pool positions)
    (covered : ∀ index < pool.threads.length, UnitsCovered model index (positions index) pool.shared)
    (pending : pool.pending index = some op) (works : op.unit = some unit) : Leases pool.shared index unit := by
  have touched : index < pool.threads.length ∧ (positions index).leased = true ∧
      (coverAccount model (positions index)).touches unit () := by
    cases op with
    | stop other reason =>
        obtain rfl := Option.some.inj works
        obtain ⟨inside, later, rule⟩ := sound.rule_of_pending pending (.error {})
        exact ⟨inside, (sound.owned index inside).leased_of_requires rule (fun none => none),
          (covered index inside).requires rule⟩
    | start other =>
        obtain rfl := Option.some.inj works
        obtain ⟨inside, later, rule⟩ := sound.rule_of_pending pending (.error {})
        exact ⟨inside, (sound.owned index inside).leased_of_requires rule (fun none => none),
          (covered index inside).requires rule⟩
    | _ => cases works
  obtain ⟨inside, leased, plan, planned, member⟩ := touched
  exact ((sound.owned index inside).leases_iff leased planned).mpr member

/-- A thread works on units of its lease, and no two threads work on the same unit. -/
theorem operations_insideLease (model : ValidatedModel) (configuration : SystemConfiguration) (pool : EnginePool)
    (reached : (machine model).Reaches (RecoveryInside model) (created configuration) pool) (index : Nat)
    (op : EngineOp) (pending : pool.pending index = some op) (unit : ExecutionUnitId) (works : op.unit = some unit) :
    Leases pool.shared index unit ∧ ∀ other otherOp, other ≠ index →
      pool.pending other = some otherOp → otherOp.unit ≠ some unit := by
  obtain ⟨positions, sound, holds⟩ := (coverage_maintained model).fromCreated (fun _ => trivial) reached
  have own := leases_of_pending sound holds.own pending works
  refine ⟨own, fun other otherOp different otherPending same => ?_⟩
  obtain ⟨first, firstHeld, inFirst⟩ := own
  obtain ⟨second, secondHeld, inSecond⟩ := leases_of_pending sound holds.own otherPending same
  have apart := sound.registry.consistent.apart (fun equal => different (Nat.succ.inj equal).symm)
    firstHeld secondHeld
  exact apart .unit unit inFirst inSecond

/-- A failed switch from one unit to another returns to the first one. -/
def returningModes : ValidatedModel where
  value := {
    generation := 1
    units := [{ id := 1, name := "eco" }, { id := 2, name := "sport" }]
    domains := [
      { id := 1, name := "drive", initialMode := 1,
        recovery := { action := .enterFallbackMode, fallbackMode := 1 },
        modes := [{ id := 1, name := "eco", units := [1] }, { id := 2, name := "sport", units := [2] }] }] }
  valid := by decide +kernel

/-- The backend does not start the unit. -/
def failStart (index : Nat) (_ : EnginePool) : EngineChoice :=
  .thread index (.backend (.error (makeError .backendError "unit crashed")))

/-- The recovery starts the unit of the old mode again, inside the lease. -/
theorem operations_insideLease_returning : ∃ pool, (machine returningModes).Reaches (RecoveryInside returningModes)
      (created ⟨1, initialModes returningModes, [1].toFinset⟩) pool ∧
    pool.pending 0 = some (.start 1) ∧ Leases pool.shared 0 1 := by
  let schedule := [requestMode 1 2] ++ List.replicate 24 (advance 0) ++ [failStart 0] ++
    List.replicate 5 (advance 0)
  obtain ⟨pool, reached, pending⟩ := exists_run returningModes
    ⟨1, initialModes returningModes, [1].toFinset⟩
    (fun pool choice => decide (RecoveryInside returningModes pool choice))
    (fun _ _ checked => of_decide_eq_true checked) schedule
    (fun pool => pool.pending 0 = some (.start 1)) (by decide +kernel)
  exact ⟨pool, reached, pending, (operations_insideLease returningModes _ pool reached 0 _ pending 1 rfl).1⟩

/-- A failed start enters a mode with another unit. -/
def limpingModes : ValidatedModel where
  value := {
    generation := 1
    units := [{ id := 1, name := "drive" }, { id := 2, name := "limp" }]
    domains := [
      { id := 1, name := "drive", initialMode := 1,
        recovery := { action := .enterFallbackMode, fallbackMode := 3 },
        modes := [{ id := 1, name := "off" }, { id := 2, name := "on", units := [1] },
          { id := 3, name := "limp", units := [2] }] }] }
  valid := by decide +kernel

/-- The recovery starts a unit that its lease does not name. -/
theorem operations_outsideLease : initialConfiguration limpingModes = .ok ⟨1, initialModes limpingModes, ∅⟩ ∧
    ¬ ∀ pool, (machine limpingModes).Reaches (fun _ _ => True)
        (created ⟨1, initialModes limpingModes, ∅⟩) pool → ∀ index op, pool.pending index = some op →
      ∀ unit, op.unit = some unit → Leases pool.shared index unit := by
  refine ⟨rfl, fun covered => ?_⟩
  let schedule := [requestMode 1 2] ++ List.replicate 18 (advance 0) ++ [failStart 0] ++
    List.replicate 5 (advance 0)
  obtain ⟨pool, reached, pending, lease⟩ := exists_run limpingModes
    ⟨1, initialModes limpingModes, ∅⟩ (fun _ _ => true) (fun _ _ _ => trivial) schedule
    (fun pool => pool.pending 0 = some (.start 2) ∧
      pool.shared.scheduler.leases.lookup 1 = some ⟨[1], [1], []⟩) (by decide +kernel)
  obtain ⟨resources, held, member⟩ := covered pool reached 0 _ pending 2 rfl
  obtain rfl := Option.some.inj (held.symm.trans lease)
  simp at member

end OpenVehicle.Exec
