/-
This file proves that the inspection of a model reports a dependency cycle exactly when the
dependencies of its units have one. A unit that no definition names is a dead end of the graph.
-/

import OpenVehicle.Exec.ModelFacts

namespace OpenVehicle.Exec

open Relation

/-- A definition of the model lists the dependency for the unit. -/
def ExecutionModel.DependsOn (model : ExecutionModel) (unit dependency : ApplicationId) : Prop :=
  ∃ definition ∈ model.units, definition.id = unit ∧ dependency ∈ definition.dependencies

variable {model : ExecutionModel}

/-- The issues that report a dependency cycle. -/
def IsCycle (issue : ModelIssue) : Prop := issue.code = .dependencyCycle

theorem not_cycle_issueIf {condition : Bool} {code : ModelIssueCode} {path message : String}
    (other : code ≠ .dependencyCycle) : ∀ issue ∈ issueIf condition code path message, ¬ IsCycle issue := by
  intro issue member cycle
  unfold issueIf at member
  split at member
  · rw [List.mem_singleton.mp member] at cycle
    exact other cycle
  · cases member

theorem not_cycle_append {first second : List ModelIssue} (left : ∀ issue ∈ first, ¬ IsCycle issue)
    (right : ∀ issue ∈ second, ¬ IsCycle issue) : ∀ issue ∈ first ++ second, ¬ IsCycle issue := by
  intro issue member
  rcases List.mem_append.mp member with before | after
  · exact left issue before
  · exact right issue after

theorem not_cycle_flatMap {A : Type} {list : List A} {report : A → List ModelIssue}
    (each : ∀ item ∈ list, ∀ issue ∈ report item, ¬ IsCycle issue) :
    ∀ issue ∈ list.flatMap report, ¬ IsCycle issue := by
  intro issue member
  obtain ⟨item, listed, reported⟩ := List.mem_flatMap.mp member
  exact each item listed issue reported

theorem not_cycle_inspectIdentity (id : Nat) (name path : String) (ids : Finset Nat) (names : Finset String) :
    ∀ issue ∈ (inspectIdentity id name path ids names).2.2, ¬ IsCycle issue := by
  apply not_cycle_append <;> apply not_cycle_append <;> exact not_cycle_issueIf (by simp)

theorem not_cycle_inspectDependencies (path : String) (dependencies : List ApplicationId)
    (seen : Finset ApplicationId) :
    ∀ issue ∈ inspectDependencies path dependencies seen, ¬ IsCycle issue := by
  induction dependencies generalizing seen with
  | nil => simp [inspectDependencies]
  | cons dependency rest ih => exact not_cycle_append (not_cycle_issueIf (by simp)) (ih _)

theorem not_cycle_inspectUnits (units : List ExecutionUnitDefinition) (ids : Finset ApplicationId)
    (names : Finset String) : ∀ issue ∈ inspectUnits units ids names, ¬ IsCycle issue := by
  induction units generalizing ids names with
  | nil => simp [inspectUnits]
  | cons unit rest ih =>
      refine not_cycle_append (not_cycle_append (not_cycle_append (not_cycle_append
        (not_cycle_append ?_ ?_) ?_) ?_) ?_) (ih _ _)
      · exact not_cycle_inspectIdentity _ _ _ _ _
      · exact not_cycle_issueIf (by simp)
      · exact not_cycle_issueIf (by simp)
      · exact not_cycle_issueIf (by simp)
      · exact not_cycle_inspectDependencies _ _ _

theorem not_cycle_inspectKnownDependencies (model : ExecutionModel) :
    ∀ issue ∈ inspectKnownDependencies model, ¬ IsCycle issue := by
  apply not_cycle_flatMap
  intro unit _
  apply not_cycle_flatMap
  intro dependency _
  exact not_cycle_issueIf (by simp)

theorem not_cycle_inspectModeUnits (path : String) (units : List ApplicationId) (selected : Finset ApplicationId) :
    ∀ issue ∈ inspectModeUnits model path units selected, ¬ IsCycle issue := by
  induction units generalizing selected with
  | nil => simp [inspectModeUnits]
  | cons unit rest ih =>
      unfold inspectModeUnits
      split
      · intro issue member
        rcases List.mem_cons.mp member with rfl | later
        · simp [IsCycle]
        · exact ih _ issue later
      · exact not_cycle_append (not_cycle_issueIf (by simp)) (ih _)

theorem not_cycle_inspectModes (domain : DomainDefinition) (modes : List ModeDefinition)
    (ids : Finset ModeId) (names : Finset String) :
    ∀ issue ∈ (inspectModes model domain modes ids names).2, ¬ IsCycle issue := by
  induction modes generalizing ids names with
  | nil => simp [inspectModes]
  | cons mode rest ih =>
      refine not_cycle_append (not_cycle_append ?_ ?_) (ih _ _)
      · exact not_cycle_inspectIdentity _ _ _ _ _
      · exact not_cycle_inspectModeUnits _ _ _

theorem not_cycle_inspectDomains (domains : List DomainDefinition) (ids : Finset DomainId)
    (names : Finset String) : ∀ issue ∈ inspectDomains model domains ids names, ¬ IsCycle issue := by
  induction domains generalizing ids names with
  | nil => simp [inspectDomains]
  | cons domain rest ih =>
      refine not_cycle_append (not_cycle_append (not_cycle_append (not_cycle_append
        (not_cycle_append ?_ ?_) ?_) ?_) ?_) (ih _ _)
      · exact not_cycle_inspectIdentity _ _ _ _ _
      · exact not_cycle_inspectModes _ _ _ _
      · exact not_cycle_issueIf (by simp)
      · exact not_cycle_issueIf (by simp)
      · exact not_cycle_issueIf (by simp)

theorem not_cycle_inspectMembership (model : ExecutionModel) :
    ∀ issue ∈ inspectMembership model, ¬ IsCycle issue := by
  apply not_cycle_flatMap
  intro unit _
  refine not_cycle_append (not_cycle_append ?_ ?_) ?_ <;> exact not_cycle_issueIf (by simp)

theorem not_cycle_inspectConstraints (path : String) (own : ModeRef)
    (constraints : List ModeConstraint) (seen : List (ModeRef × ConstraintKind)) :
    ∀ issue ∈ inspectConstraints model path own constraints seen, ¬ IsCycle issue := by
  induction constraints generalizing seen with
  | nil => simp [inspectConstraints]
  | cons constraint rest ih =>
      refine not_cycle_append (not_cycle_append (not_cycle_append ?_ ?_) ?_) (ih _) <;>
        exact not_cycle_issueIf (by simp)

theorem not_cycle_inspectAllConstraints (model : ExecutionModel) :
    ∀ issue ∈ inspectAllConstraints model, ¬ IsCycle issue := by
  apply not_cycle_flatMap
  intro domain _
  apply not_cycle_flatMap
  intro mode _
  exact not_cycle_inspectConstraints _ _ _ _

/-- Every issue of the cycle detector reports a cycle. -/
theorem isCycle_of_mem_reportCycles {back : List (List ApplicationId × ApplicationId)}
    {reported : Finset ApplicationId} {issue : ModelIssue} (member : issue ∈ reportCycles back reported) :
    IsCycle issue := by
  induction back generalizing reported with
  | nil => cases member
  | cons edge rest ih =>
      simp only [reportCycles, List.mem_append] at member
      rcases member with new | later
      · unfold issueIf at new
        split at new
        · rw [List.mem_singleton.mp new]
          rfl
        · cases new
      · exact ih later

/-- Only the cycle detector reports a dependency cycle. -/
theorem exists_isCycle_iff (model : ExecutionModel) :
    (∃ issue ∈ inspectModel model, IsCycle issue) ↔ inspectDependencyCycles model ≠ [] := by
  constructor
  · rintro ⟨issue, member, cycle⟩ none
    simp only [inspectModel, none, List.append_nil] at member
    revert cycle
    revert issue
    refine not_cycle_append (not_cycle_append (not_cycle_append (not_cycle_append
      (not_cycle_append ?_ ?_) ?_) ?_) ?_) ?_
    · exact not_cycle_issueIf (by simp)
    · exact not_cycle_inspectUnits _ _ _
    · exact not_cycle_inspectKnownDependencies model
    · exact not_cycle_inspectDomains _ _ _
    · exact not_cycle_inspectMembership model
    · exact not_cycle_inspectAllConstraints model
  · intro some
    obtain ⟨issue, member⟩ := List.exists_mem_of_ne_nil _ some
    exact ⟨issue, by simp [inspectModel, member], isCycle_of_mem_reportCycles member⟩

section Graph
variable {unit dependency : ApplicationId}

theorem DependsOn.defined (edge : model.DependsOn unit dependency) : (model.findUnit unit).isSome := by
  obtain ⟨definition, listed, same, _⟩ := edge
  rw [findUnit_isSome_iff]
  exact List.mem_map.mpr ⟨definition, listed, same⟩

variable (unique : (model.units.map (·.id)).Nodup)
include unique

/-- The detector follows the dependencies that lead to a definition. -/
theorem edge_knownDependencies_iff : DepthFirst.Edge (knownDependencies model) unit dependency ↔
      model.DependsOn unit dependency ∧ (model.findUnit dependency).isSome := by
  constructor
  · intro edge
    refine ⟨?_, findUnit_isSome_of_mem_knownDependencies edge⟩
    unfold DepthFirst.Edge knownDependencies at edge
    split at edge
    · cases edge
    · rename_i definition found
      obtain ⟨listed, same⟩ := findUnit_eq_some found
      exact ⟨definition, listed, same, (List.mem_filter.mp edge).1⟩
  · rintro ⟨⟨definition, listed, rfl, member⟩, known⟩
    unfold DepthFirst.Edge knownDependencies
    rw [findUnit_of_mem unique listed]
    exact List.mem_filter.mpr ⟨member, known⟩

/-- A path to a definition runs through definitions only. -/
theorem transGen_edge {first last : ApplicationId}
    (path : TransGen model.DependsOn first last) (known : (model.findUnit last).isSome) :
    TransGen (DepthFirst.Edge (knownDependencies model)) first last := by
  induction path with
  | single edge => exact .single ((edge_knownDependencies_iff unique).mpr ⟨edge, known⟩)
  | tail _ edge ih =>
      exact (ih (DependsOn.defined edge)).tail ((edge_knownDependencies_iff unique).mpr ⟨edge, known⟩)

/-- The dead ends that the detector skips lie on no cycle. -/
theorem acyclic_knownDependencies_iff :
    DepthFirst.Acyclic (knownDependencies model) ↔ ∀ unit, ¬ TransGen model.DependsOn unit unit := by
  constructor
  · intro acyclic unit cycle
    obtain ⟨next, edge, _⟩ := TransGen.head'_iff.mp cycle
    exact acyclic unit (transGen_edge unique cycle (DependsOn.defined edge))
  · intro acyclic unit cycle
    apply acyclic unit
    exact TransGen.mono (fun _ _ edge => ((edge_knownDependencies_iff unique).mp edge).1) _ _ cycle

theorem inspectDependencyCycles_ne_nil_iff :
    inspectDependencyCycles model ≠ [] ↔ ∃ unit, TransGen model.DependsOn unit unit := by
  have clean : inspectDependencyCycles model = [] ↔
      (DepthFirst.searchAll (knownDependencies model) model.units.length (model.units.map (·.id))).back = [] := by
    constructor
    · exact reportCycles_eq_nil
    · intro none
      simp [inspectDependencyCycles, none, reportCycles]
  rw [Ne, clean, searchAll_knownDependencies, acyclic_knownDependencies_iff unique]
  simp

end Graph

/-- Validation accepts the models whose inspection is clean and keeps their value. -/
theorem validateModel_eq_ok {accepted : ValidatedModel} :
    validateModel model = .ok accepted ↔ accepted.value = model := by
  unfold validateModel
  split
  · rename_i clean
    simp only [Except.ok.injEq]
    constructor
    · rintro rfl
      rfl
    · rintro rfl
      rfl
  · rename_i issue rest found
    simp only [reduceCtorEq, false_iff]
    rintro rfl
    rw [accepted.valid] at found
    cases found

/-- With unique identifiers the inspection reports a dependency cycle exactly when there is one.
An accepted model has none, and each of its dependencies has a definition. -/
theorem inspectModel_dependencyCycle_iff (model : ExecutionModel) :
    ((model.units.map (·.id)).Nodup → ((∃ issue ∈ inspectModel model, issue.code = .dependencyCycle) ↔
      ∃ unit, TransGen model.DependsOn unit unit)) ∧
    ∀ accepted, validateModel model = .ok accepted → (∀ unit, ¬ TransGen model.DependsOn unit unit) ∧
      ∀ definition ∈ model.units, ∀ dependency ∈ definition.dependencies,
        ∃ target ∈ model.units, target.id = dependency := by
  constructor
  · intro unique
    rw [← inspectDependencyCycles_ne_nil_iff unique]
    exact exists_isCycle_iff model
  · intro accepted valid
    obtain rfl := validateModel_eq_ok.mp valid
    constructor
    · exact (acyclic_knownDependencies_iff accepted.units_unique).mp accepted.acyclic
    · intro definition listed dependency member
      have known := accepted.dependencies_known (findUnit_of_mem accepted.units_unique listed) member
      obtain ⟨target, found⟩ := Option.isSome_iff_exists.mp known
      exact ⟨target, findUnit_eq_some found⟩

/-- The first two units depend on each other, and the third one shares them. -/
def ringModel : ExecutionModel where
  generation := 1
  units := [{ id := 1, name := "first", dependencies := [2, 9] },
    { id := 2, name := "second", dependencies := [1] },
    { id := 3, name := "third", dependencies := [1, 2] }]
  domains := []

/-- Two units share one dependency, and a fourth unit depends on both. -/
def diamondModel : ValidatedModel where
  value := {
    generation := 1
    units := [{ id := 1, name := "bus", readiness := .processStarted, bootstrap := true },
      { id := 2, name := "left", readiness := .processStarted, dependencies := [1], bootstrap := true },
      { id := 3, name := "right", readiness := .processStarted, dependencies := [1], bootstrap := true },
      { id := 4, name := "top", readiness := .processStarted, dependencies := [2, 3], bootstrap := true }]
    domains := [] }
  valid := by decide +kernel

/-- The ring is reported, and the diamond is not mistaken for one. -/
theorem inspectModel_dependencyCycle_ring : (∃ issue ∈ inspectModel ringModel, issue.code = .dependencyCycle) ∧
    ∀ unit, ¬ TransGen diamondModel.value.DependsOn unit unit := by
  constructor
  · apply ((inspectModel_dependencyCycle_iff ringModel).1 (by decide)).mpr
    have there : ringModel.DependsOn 1 2 := ⟨_, List.mem_cons_self, rfl, by decide⟩
    have back : ringModel.DependsOn 2 1 := ⟨_, List.mem_cons_of_mem _ List.mem_cons_self, rfl, by decide⟩
    exact ⟨1, (TransGen.single there).tail back⟩
  · exact ((inspectModel_dependencyCycle_iff diamondModel.value).2 diamondModel (validateModel_eq_ok.mpr rfl)).1

end OpenVehicle.Exec
