/-
This file proves what a plan contains and in which order its units are started and stopped.
-/

import OpenVehicle.Exec.PlannerFacts

namespace OpenVehicle.Exec.TransitionPlanner

open FiniteMap

variable {model : ValidatedModel} {units : Finset ExecutionUnitId}

section Required

/-- The selected modes and the bootstrap units require a unit. -/
def Required (model : ValidatedModel) (modes : Map DomainId ModeId) (unit : ExecutionUnitId) : Prop :=
  (∃ definition ∈ model.value.units, definition.bootstrap = true ∧ definition.id = unit) ∨
    ∃ domain ∈ model.value.domains, ∃ selected mode, modes.lookup domain.id = some selected ∧
      model.findMode ⟨domain.id, selected⟩ = some mode ∧ unit ∈ mode.units

theorem mem_bootstrapUnits {unit : ExecutionUnitId} : unit ∈ bootstrapUnits model ↔
    ∃ definition ∈ model.value.units, definition.bootstrap = true ∧ definition.id = unit := by
  simp only [bootstrapUnits, List.mem_toFinset, List.mem_map, List.mem_filter, and_assoc]

variable {modes : Map DomainId ModeId}

theorem mem_selectUnits {domains : List DomainDefinition}
    {first required : Finset ExecutionUnitId} (found : selectUnits model modes domains first = .ok required)
    {unit : ExecutionUnitId} : unit ∈ required ↔ unit ∈ first ∨
      ∃ domain ∈ domains, ∃ selected mode, modes.lookup domain.id = some selected ∧
        model.findMode ⟨domain.id, selected⟩ = some mode ∧ unit ∈ mode.units := by
  induction domains generalizing first with
  | nil =>
      obtain rfl := Except.ok.inj found
      simp
  | cons domain domains ih =>
      simp only [selectUnits] at found
      split at found
      · cases found
      · rename_i selected chosen
        split at found
        · cases found
        · rename_i mode defined
          rw [ih found, Finset.mem_union, List.mem_toFinset, or_assoc, List.exists_mem_cons_iff]
          simp [chosen, defined]

theorem mem_requiredUnits {required : Finset ExecutionUnitId}
    (found : requiredUnits model modes = .ok required) {unit : ExecutionUnitId} :
    unit ∈ required ↔ Required model modes unit := by
  unfold requiredUnits at found
  split at found
  · cases found
  · rename_i selected collected
    split at found
    · cases found
    · obtain rfl := Except.ok.inj found
      rw [mem_selectUnits collected, mem_bootstrapUnits]
      rfl

theorem mem_unitResources {resource : ResourceId} : resource ∈ unitResources model units ↔ ∃ unit ∈ units, ∃ definition,
      model.findUnit unit = some definition ∧ resource ∈ definition.exclusiveResources := by
  simp only [unitResources, Finset.mem_biUnion]
  apply exists_congr
  intro unit
  cases found : model.findUnit unit with
  | none => simp
  | some definition => simp

end Required

section Dependencies
variable {dependency unit : ExecutionUnitId}

def DependsOn (model : ValidatedModel) (unit dependency : ExecutionUnitId) : Prop :=
  ∃ definition, model.findUnit unit = some definition ∧ dependency ∈ definition.dependencies

/-- A closed set contains the transitive dependencies of its members. -/
theorem Closed.reaches (closed : Closed model units) (member : unit ∈ units)
    (path : Relation.TransGen (DependsOn model) unit dependency) : dependency ∈ units := by
  induction path with
  | single edge =>
      obtain ⟨definition, found, listed⟩ := edge
      obtain ⟨known, same, complete⟩ := closed _ member
      obtain rfl := Option.some.inj (same.symm.trans found)
      exact complete _ listed
  | tail _ edge ih =>
      obtain ⟨definition, found, listed⟩ := edge
      obtain ⟨known, same, complete⟩ := closed _ ih
      obtain rfl := Option.some.inj (same.symm.trans found)
      exact complete _ listed

/-- In a list without duplicates, the place of one unit is before the place of another one. -/
def Precedes (list : List ExecutionUnitId) (first second : ExecutionUnitId) : Prop :=
  first ∈ list ∧ second ∈ list ∧ list.idxOf first < list.idxOf second

theorem Precedes.trans {list : List ExecutionUnitId} {first second third : ExecutionUnitId}
    (left : Precedes list first second) (right : Precedes list second third) : Precedes list first third :=
  ⟨left.1, right.2.1, left.2.2.trans right.2.2⟩

theorem precedes_of_split {list before after : List ExecutionUnitId} {first second : ExecutionUnitId}
    (split : list = before ++ second :: after) (distinct : list.Nodup) (earlier : first ∈ before) :
    Precedes list first second := by
  subst split
  have fresh : second ∉ before := fun again =>
    (List.nodup_append.mp distinct).2.2 second again second List.mem_cons_self rfl
  refine ⟨List.mem_append_left _ earlier, by simp, ?_⟩
  rw [List.idxOf_append_of_mem earlier, List.idxOf_append_of_notMem fresh]
  have inside := List.idxOf_lt_length_of_mem earlier
  omega

theorem order_start (member : unit ∈ units) (inside : dependency ∈ units) (depends : DependsOn model unit dependency) :
    Precedes (order model units false) dependency unit := by
  obtain ⟨definition, found, listed⟩ := depends
  obtain ⟨before, after, split⟩ := List.append_of_mem (mem_order.mpr member)
  exact precedes_of_split split (order_nodup model units false) (order_dependency split found listed inside)

variable {dependent : ExecutionUnitId}

theorem order_stop (member : unit ∈ units) (inside : dependent ∈ units) (depends : DependsOn model dependent unit) :
    Precedes (order model units true) dependent unit := by
  obtain ⟨definition, found, listed⟩ := depends
  obtain ⟨before, after, split⟩ := List.append_of_mem (mem_order.mpr member)
  exact precedes_of_split split (order_nodup model units true) (order_dependent split found listed inside)

variable {required running : Finset ExecutionUnitId}

/-- A path between started units has started units only. -/
theorem order_start_reaches (closed : Closed model required) (complete : Closed model running)
    (member : unit ∈ required \ running) (inside : dependency ∈ required \ running)
    (path : Relation.TransGen (DependsOn model) unit dependency) :
    Precedes (order model (required \ running) false) dependency unit := by
  induction path using Relation.TransGen.head_induction_on with
  | single edge => exact order_start member inside edge
  | head edge path ih =>
      have needed := closed.reaches (Finset.mem_sdiff.mp member).1 (.single edge)
      have stopped := fun runs => (Finset.mem_sdiff.mp inside).2 (complete.reaches runs path)
      have between := Finset.mem_sdiff.mpr ⟨needed, stopped⟩
      exact (ih between).trans (order_start member between edge)

/-- A path between stopped units has stopped units only. -/
theorem order_stop_reaches (closed : Closed model required) (complete : Closed model running)
    (member : unit ∈ running \ required) (inside : dependent ∈ running \ required)
    (path : Relation.TransGen (DependsOn model) dependent unit) :
    Precedes (order model (running \ required) true) dependent unit := by
  induction path using Relation.TransGen.head_induction_on with
  | single edge => exact order_stop member inside edge
  | head edge path ih =>
      have runs := complete.reaches (Finset.mem_sdiff.mp inside).1 (.single edge)
      have omitted := fun needed => (Finset.mem_sdiff.mp member).2 (closed.reaches needed path)
      have between := Finset.mem_sdiff.mpr ⟨runs, omitted⟩
      exact (order_stop between inside edge).trans (ih between)

end Dependencies

/-- What a plan from the current configuration to a target mode is. -/
structure PlanContract (model : ValidatedModel) (current : SystemConfiguration) (domain : DomainId) (target : ModeId)
    (plan : TransitionPlan) : Prop where
  start : ∀ unit, unit ∈ plan.start ↔
    Required model (current.committedModes.insert domain target) unit ∧ unit ∉ current.runningUnits
  stop : ∀ unit, unit ∈ plan.stop ↔
    unit ∈ current.runningUnits ∧ ¬Required model (current.committedModes.insert domain target) unit
  retain : ∀ unit, unit ∈ plan.retain ↔
    unit ∈ current.runningUnits ∧ Required model (current.committedModes.insert domain target) unit
  distinct : plan.start.Nodup ∧ plan.stop.Nodup ∧ plan.retain.Nodup
  startOrder : ∀ unit ∈ plan.start, ∀ dependency ∈ plan.start, DependsOn model unit dependency →
    Precedes plan.start dependency unit
  stopOrder : ∀ unit ∈ plan.stop, ∀ dependent ∈ plan.stop, DependsOn model dependent unit →
    Precedes plan.stop dependent unit
  startReaches : Closed model current.runningUnits → ∀ unit ∈ plan.start, ∀ dependency ∈ plan.start,
    Relation.TransGen (DependsOn model) unit dependency → Precedes plan.start dependency unit
  stopReaches : Closed model current.runningUnits → ∀ unit ∈ plan.stop, ∀ dependent ∈ plan.stop,
    Relation.TransGen (DependsOn model) dependent unit → Precedes plan.stop dependent unit
  resources : plan.affectedResources.Nodup ∧ ∀ resource, resource ∈ plan.affectedResources ↔
    ∃ unit, (unit ∈ plan.start ∨ unit ∈ plan.stop) ∧ ∃ definition, model.findUnit unit = some definition ∧
      resource ∈ definition.exclusiveResources

/-- Every plan of the planner keeps the contract. -/
theorem plan_contract (model : ValidatedModel) (current : SystemConfiguration) (domain : DomainId) (target : ModeId)
    (result : TransitionPlan) (planned : plan model current domain target = .ok result) :
    PlanContract model current domain target result := by
  obtain ⟨required, planned, _⟩ := buildPlan_eq_ok planned
  have needed (unit : ExecutionUnitId) := @mem_requiredUnits model _ _ planned.required unit
  have closed := planned.closed
  have retain : result.retain = order model (required ∩ current.runningUnits) false := by rw [planned.shape]
  have resources : result.affectedResources = sorted (unitResources model (required \ current.runningUnits) ∪
    unitResources model (current.runningUnits \ required)) := by rw [planned.shape]
  constructor
  · intro unit
    rw [planned.mem_start, needed]
  · intro unit
    rw [planned.mem_stop, needed]
  · intro unit
    rw [retain, mem_order, Finset.mem_inter, needed, and_comm]
  · rw [planned.start_eq, planned.stop_eq, retain]
    exact ⟨order_nodup _ _ _, order_nodup _ _ _, order_nodup _ _ _⟩
  · rw [planned.start_eq]
    intro unit member dependency inside
    exact order_start (mem_order.mp member) (mem_order.mp inside)
  · rw [planned.stop_eq]
    intro unit member dependent inside
    exact order_stop (mem_order.mp member) (mem_order.mp inside)
  · rw [planned.start_eq]
    intro complete unit member dependency inside
    exact order_start_reaches closed complete (mem_order.mp member) (mem_order.mp inside)
  · rw [planned.stop_eq]
    intro complete unit member dependent inside
    exact order_stop_reaches closed complete (mem_order.mp member) (mem_order.mp inside)
  · rw [planned.start_eq, planned.stop_eq, resources]
    refine ⟨nodup_sorted _, fun resource => ?_⟩
    rw [mem_sorted, Finset.mem_union, mem_unitResources, mem_unitResources]
    simp only [mem_order, or_and_right, exists_or]

/-- The navigation is started after its map, and the radio is stopped before its amplifier. -/
def cockpit : ValidatedModel where
  value := {
    generation := 1
    units := [{ id := 1, name := "map", exclusiveResources := [7] },
      { id := 2, name := "navigation", dependencies := [1], exclusiveResources := [8] },
      { id := 3, name := "amplifier" }, { id := 4, name := "radio", dependencies := [3], exclusiveResources := [8] },
      { id := 5, name := "bus", bootstrap := true }]
    domains := [
      { id := 1, name := "cockpit", initialMode := 1, recovery := { action := .stopDomain },
        modes := [{ id := 1, name := "music", units := [3, 4] }, { id := 2, name := "route", units := [2, 1] }] }] }
  valid := by decide +kernel

/-- The cockpit plays music. -/
def music : SystemConfiguration := ⟨1, (∅ : Map DomainId ModeId).insert 1 1, {3, 4, 5}⟩

/-- The cockpit changes to music. -/
theorem plan_contract_cockpit : ∃ result, plan cockpit music 1 2 = .ok result ∧
    PlanContract cockpit music 1 2 result ∧ result.start = [1, 2] ∧ result.stop = [4, 3] ∧ result.retain = [5] ∧
      result.affectedResources = [7, 8] := by
  have planned : ((plan cockpit music 1 2).toOption.any fun result => result.start == [1, 2] &&
    result.stop == [4, 3] && result.retain == [5] && result.affectedResources == [7, 8]) = true := by decide +kernel
  cases found : plan cockpit music 1 2 with
  | error error =>
      rw [found] at planned
      cases planned
  | ok result =>
      rw [found] at planned
      simp only [Except.toOption, Option.any_some, Bool.and_eq_true, beq_iff_eq] at planned
      exact ⟨result, rfl, plan_contract cockpit music 1 2 result found, planned.1.1.1, planned.1.1.2, planned.1.2,
        planned.2⟩

end OpenVehicle.Exec.TransitionPlanner
