/-
This file proves that sequential runs keep the running units closed under dependencies.
The stop order removes dependents first, and the start order adds dependencies first.
-/

import OpenVehicle.Exec.Sequential

namespace OpenVehicle.Exec

open Concurrency FiniteMap ExecutionEngine TransitionPlanner

variable {model : ValidatedModel} {running required : Finset ExecutionUnitId}

section Closure
variable {before after : List ExecutionUnitId} {unit : ExecutionUnitId} {current : Finset ExecutionUnitId}
  {list : List ExecutionUnitId}

/-- The next unit of the stop order is not a dependency of a running unit. -/
theorem closed_erase (closed : Closed model required)
    (split : order model (running \ required) true = before ++ unit :: after)
    (members : ∀ other, other ∈ current ↔ other ∈ running ∧ other ∉ before) (held : Closed model current) :
    Closed model (current.erase unit) := by
  intro other member
  obtain ⟨different, inside⟩ := Finset.mem_erase.mp member
  obtain ⟨definition, found, complete⟩ := held other inside
  refine ⟨definition, found, fun dependency listed => ?_⟩
  refine Finset.mem_erase.mpr ⟨?_, complete dependency listed⟩
  rintro rfl
  have stopped : dependency ∈ running \ required := by
    rw [← mem_order, split]
    simp
  have outside : other ∉ required := by
    intro needed
    obtain ⟨definition', found', complete'⟩ := closed other needed
    obtain rfl := Option.some.inj (found'.symm.trans found)
    exact (Finset.mem_sdiff.mp stopped).2 (complete' dependency listed)
  have stops : other ∈ running \ required := Finset.mem_sdiff.mpr ⟨((members other).mp inside).1, outside⟩
  exact ((members other).mp inside).2 (order_dependent split found listed stops)

/-- The next unit of the start order finds its dependencies running. -/
theorem closed_insert (closed : Closed model required)
    (split : order model (required \ running) false = before ++ unit :: after)
    (members : ∀ other, other ∈ required → other ∈ running ∨ other ∈ before → other ∈ current)
    (held : Closed model current) : Closed model (insert unit current) := by
  have starts : unit ∈ required \ running := by
    rw [← mem_order, split]
    simp
  intro other member
  rcases Finset.mem_insert.mp member with rfl | inside
  · obtain ⟨definition, found, complete⟩ := closed other (Finset.mem_sdiff.mp starts).1
    refine ⟨definition, found, fun dependency listed => Finset.mem_insert_of_mem ?_⟩
    have needed := complete dependency listed
    apply members dependency needed
    by_cases runs : dependency ∈ running
    · exact .inl runs
    · exact .inr (order_dependency split found listed (Finset.mem_sdiff.mpr ⟨needed, runs⟩))
  · obtain ⟨definition, found, complete⟩ := held other inside
    exact ⟨definition, found, fun dependency listed =>
      Finset.mem_insert_of_mem (complete dependency listed)⟩

/-- The progress of a stop loop. -/
structure Stopping (model : ValidatedModel) (running : Finset ExecutionUnitId)
    (list rest : List ExecutionUnitId) (current : Finset ExecutionUnitId) : Prop where
  closed : Closed model current
  progress : ∃ before, list = before ++ rest ∧
    ∀ other, other ∈ current ↔ other ∈ running ∧ other ∉ before

/-- The progress of a start loop. -/
structure Starting (model : ValidatedModel) (running required : Finset ExecutionUnitId)
    (list rest : List ExecutionUnitId) (current : Finset ExecutionUnitId) : Prop where
  closed : Closed model current
  progress : ∃ before, list = before ++ rest ∧
    ∀ other ∈ required, other ∈ running ∨ other ∈ before → other ∈ current

variable {rest : List ExecutionUnitId}

theorem Stopping.step (closed : Closed model required) (ordered : list = order model (running \ required) true)
    (stopping : Stopping model running list (unit :: rest) current) :
    Stopping model running list rest (current.erase unit) := by
  obtain ⟨before, split, members⟩ := stopping.progress
  refine ⟨closed_erase closed (ordered ▸ split) members stopping.closed, before ++ [unit], ?_, ?_⟩
  · simpa using split
  · intro other
    rw [Finset.mem_erase, members]
    simp only [List.mem_append, List.mem_singleton]
    tauto

theorem Starting.step (closed : Closed model required) (ordered : list = order model (required \ running) false)
    (starting : Starting model running required list (unit :: rest) current) :
    Starting model running required list rest (insert unit current) := by
  obtain ⟨before, split, members⟩ := starting.progress
  refine ⟨closed_insert closed (ordered ▸ split) members starting.closed, before ++ [unit], ?_, ?_⟩
  · simpa using split
  · intro other needed present
    simp only [List.mem_append, List.mem_singleton] at present
    rcases present with runs | earlier | rfl
    · exact Finset.mem_insert_of_mem (members other needed (.inl runs))
    · exact Finset.mem_insert_of_mem (members other needed (.inr earlier))
    · exact Finset.mem_insert_self _ _

/-- The stop loop leaves the running units that are required. -/
theorem Stopping.finish {starts : List ExecutionUnitId} (ordered : list = order model (running \ required) true)
    (stopping : Stopping model running list [] current) : Starting model running required starts starts current := by
  obtain ⟨before, split, members⟩ := stopping.progress
  rw [List.append_nil] at split
  refine ⟨stopping.closed, [], rfl, fun other needed present => (members other).mpr ?_⟩
  have runs : other ∈ running := present.resolve_right (by simp)
  refine ⟨runs, fun stopped => ?_⟩
  rw [← split, ordered, mem_order] at stopped
  exact (Finset.mem_sdiff.mp stopped).2 needed

theorem Stopping.start (closed : Closed model running) (list : List ExecutionUnitId) :
    Stopping model running list list running := ⟨closed, [], rfl, fun other => by simp⟩

end Closure

/-- The account of the running units in a run without interference. -/
def closureAccount (model : ValidatedModel) : Account (Finset ExecutionUnitId) where
  erases := fun unit running => Closed model (running.erase unit)
  erased := fun unit running => running.erase unit
  inserts := fun unit running => Closed model (insert unit running)
  inserted := fun unit running => insert unit running
  opens := Closed model
  waits := Closed model
  replans := Closed model
  reads := fun _ => Closed model

section Account
variable {transition : TransitionSnapshot}

theorem closureAccount_silent : (closureAccount model).Silent :=
  ⟨fun _ _ => trivial, fun _ _ => rfl, fun _ _ => rfl, fun _ _ => rfl, fun _ => trivial⟩

variable {stop start : List ExecutionUnitId}

theorem closureAccount_carries {plan : TransitionPlan} (needed : Closed model required)
    (stopOrder : plan.stop = order model (running \ required) true)
    (startOrder : plan.start = order model (required \ running) false) :
    (closureAccount model).Carries model transition plan
      fun | false => Stopping model running plan.stop | true => Starting model running required plan.start := by
  refine closureAccount_silent.carries ?_ ?_ (fun _ stopped => stopped.finish stopOrder) ?_ fun _ _ => trivial
  · rintro domain (_ | _) rest view _ held
    · exact held.closed
    · exact held.closed
  · intro unit rest view stopping
    have next := stopping.step needed stopOrder
    exact ⟨trivial, next.closed, next⟩
  · intro unit rest view starting
    have next := starting.step needed startOrder
    exact ⟨trivial, next.closed, next⟩

theorem closureAccount_repairStops {mode : Option ModeId}
    (needed : Closed model required) (closed : Closed model running)
    (stopOrder : stop = order model (running \ required) true)
    (startOrder : start = order model (required \ running) false ∨ start = []) :
    (closureAccount model).Assured (Work.repairStops transition mode start stop []) running := by
  refine Account.assured_repairStops (fun rest _ view => Stopping model running stop rest view) ?_ ?_
    (.start closed stop)
  · intro unit rest done view stopping
    have next := stopping.step needed stopOrder
    exact ⟨trivial, next.closed, next, .inr closureAccount_silent.repaired⟩
  · intro done view stopped
    refine Account.assured_repairStarts
      (fun rest _ view => Starting model running required start rest view) ?_ ?_
      (stopped.finish stopOrder)
    · intro unit rest ready view starting
      rcases startOrder with startOrder | rfl
      · have next := starting.step needed startOrder
        exact ⟨trivial, next.closed, next, .inr closureAccount_silent.repaired⟩
      · obtain ⟨before, split, _⟩ := starting.progress
        simp at split
    · intro ready view _
      cases mode with
      | none => exact closureAccount_silent.repaired
      | some mode => exact ⟨trivial, closureAccount_silent.repaired⟩

/-- Each plan is made for the units that run when it is made. -/
theorem closureAccount_sustains {plan : Option TransitionPlan} {op : EngineOp} {state : EngineState} :
    (closureAccount model).Sustains model transition plan op state
      state.configuration.runningUnits where
  loaded := fun _ _ _ => trivial
  opened := fun _ _ closed => closureAccount_silent.request closed
  refused := fun _ => .inr closureAccount_silent.rejected
  confirmed := by
    intro accepted _ _ closed
    refine closureAccount_silent.confirm fun second replanned sameStart sameStop => ?_
    obtain ⟨required, facts, _⟩ := buildPlan_eq_ok replanned
    have carries := @closureAccount_carries model _ _ transition accepted facts.closed (sameStop ▸ facts.stop_eq)
      (sameStart ▸ facts.start_eq)
    exact carries.execute (.start closed accepted.stop)
  repaired := by
    intro domain _ closed
    refine closureAccount_silent.repair ?_ ?_
    · intro second _ reconciled
      obtain ⟨required, facts, _⟩ := buildPlan_eq_ok reconciled
      exact closureAccount_repairStops facts.closed closed facts.stop_eq (.inl facts.start_eq)
    · intro stopped _ found
      obtain ⟨required, _, needed, ordered⟩ := stopDomainUnits_eq_ok found
      exact closureAccount_repairStops needed closed ordered (.inr rfl)

end Account

/-- The account sees the running units of the engine. -/
theorem closureAccount_after (model : ValidatedModel) (op : EngineOp) (reply : op.Reply)
    (state : EngineState) : (effect op reply state).configuration.runningUnits =
      (closureAccount model).after op reply state.configuration.runningUnits := by
  unfold effect
  split
  all_goals try rfl
  cases op
  all_goals first
    | rfl
    | (cases reply <;> rfl)
    | simp_all

/-- The running units are closed, and the thread will keep them closed. -/
structure KeepsClosed (model : ValidatedModel) (position : Position) (state : EngineState) : Prop where
  closed : Closed model state.configuration.runningUnits
  work : (closureAccount model).Assured position.work state.configuration.runningUnits

theorem closure_alone (model : ValidatedModel) :
    Alone model Sequential (fun state => Closed model state.configuration.runningUnits)
      (fun _ => KeepsClosed model) where
  sequential := fun _ _ permitted => permitted
  step := by
    intro pool positions index input op reply later sound step keeps
    have owned := sound.owned index step.inside
    have required := keeps.work.requires step.rule
    have moved := keeps.work.step step.rule step.answers closureAccount_sustains (fun closed => closed)
      owned.opens (fun _ _ _ => trivial) fun _ _ => not_false
    rw [← closureAccount_after] at moved
    refine ⟨?_, moved⟩
    cases op with
    | eraseRunning unit => exact required
    | insertRunning unit => exact required
    | _ =>
        rw [closureAccount_after model]
        first
          | exact keeps.closed
          | (cases reply <;> exact keeps.closed)
  finish := fun _ _ _ keeps _ => keeps.closed
  request := fun _ _ _ _ closed _ => ⟨closed, closureAccount_silent.accept closed⟩
  quietRest := fun _ _ _ closed => closed
  activeRest := fun _ _ _ _ _ keeps => ⟨keeps.closed, keeps.work⟩

/-- Every dependency of a running unit runs, in every state of a sequential run. -/
theorem runningUnits_closed (model : ValidatedModel) (initial : SystemConfiguration)
    (created_ : initialConfiguration model = .ok initial) (pool : EnginePool)
    (reached : (machine model).Reaches Sequential (created initial) pool) :
    Closed model pool.shared.configuration.runningUnits := by
  have closed := requiredUnits_closed (initialConfiguration_eq_ok created_).2.2
  obtain ⟨positions, sound, holds⟩ := (closure_alone model).fromCreated closed reached
  cases count : pool.threads.length with
  | zero => exact holds.idle count
  | succ last => exact (holds.last last count).closed

/-- The second unit depends on the first one. -/
def layeredModes : ValidatedModel where
  value := {
    generation := 1
    units := [{ id := 1, name := "bus" }, { id := 2, name := "navigation", dependencies := [1] }]
    domains := [
      { id := 1, name := "cockpit", initialMode := 1, recovery := { action := .stopDomain },
        modes := [{ id := 1, name := "off" }, { id := 2, name := "on", units := [2, 1] }] }] }
  valid := by decide +kernel

/-- The dependency still runs after its dependent has been stopped. -/
theorem runningUnits_closed_layered : ∃ pool,
    (machine layeredModes).Reaches Sequential (created ⟨1, initialModes layeredModes, ∅⟩) pool ∧
    pool.shared.configuration.runningUnits = {1} ∧ pool.pending 1 = some (.stop 1 .modeChange) ∧
    Closed layeredModes pool.shared.configuration.runningUnits := by
  let schedule := [requestMode 1 2] ++ List.replicate 32 (advance 0) ++ [requestMode 1 1] ++
    List.replicate 17 (advance 1)
  obtain ⟨pool, reached, running, pending⟩ := exists_run layeredModes
    ⟨1, initialModes layeredModes, ∅⟩ isSequential sequential_of_check schedule
    (fun pool => pool.shared.configuration.runningUnits = {1} ∧
      pool.pending 1 = some (.stop 1 .modeChange)) (by decide +kernel)
  exact ⟨pool, reached, running, pending, runningUnits_closed layeredModes _ rfl pool reached⟩

end OpenVehicle.Exec
