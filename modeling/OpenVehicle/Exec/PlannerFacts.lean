/-
This file states what the planner guarantees for its results.
-/

import OpenVehicle.Exec.ModelFacts
import OpenVehicle.Exec.Planner

namespace OpenVehicle.Exec

open FiniteMap

variable {unit : ExecutionUnitId} {required : Finset ExecutionUnitId} {units : Finset ExecutionUnitId}
variable {modes : Map DomainId ModeId} {domain : DomainId}

namespace TransitionPlanner

variable {model : ValidatedModel}

section Required

theorem firstError_eq_ok {A : Type} {check : A → Option Error} {list : List A} :
    firstError check list = .ok () ↔ ∀ a ∈ list, check a = none := by
  unfold firstError
  cases found : list.findSome? check with
  | none => simpa using List.findSome?_eq_none_iff.mp found
  | some error =>
      obtain ⟨a, member, fails⟩ := List.exists_of_findSome?_eq_some found
      simp only [reduceCtorEq, false_iff, not_forall]
      exact ⟨a, member, by simp [fails]⟩

/-- A unit set is closed when it contains the dependencies of its members, all of them defined. -/
def Closed (model : ValidatedModel) (units : Finset ExecutionUnitId) : Prop :=
  ∀ unit ∈ units, ∃ definition, model.findUnit unit = some definition ∧
    ∀ dependency ∈ definition.dependencies, dependency ∈ units

variable {first second : Error}

theorem missingUnit_eq_none : missingUnit model units first second unit = none ↔
      ∃ definition, model.findUnit unit = some definition ∧
        ∀ dependency ∈ definition.dependencies, dependency ∈ units := by
  unfold missingUnit
  cases found : model.findUnit unit with
  | none => simp
  | some definition =>
      simp only [Option.some.injEq, exists_eq_left']
      constructor
      · intro complete dependency member
        by_contra outside
        rw [if_pos (by simpa using ⟨dependency, member, outside⟩)] at complete
        cases complete
      · intro complete
        rw [if_neg (by simpa using complete)]

theorem closed_of_firstError (complete : firstError (missingUnit model units first second) (sorted units) = .ok ()) :
    Closed model units := by
  intro unit member
  exact missingUnit_eq_none.mp (firstError_eq_ok.mp complete unit ((mem_sorted units unit).mpr member))

variable {others : Map DomainId ModeId}

theorem selectUnits_congr (same : ∀ domain, modes.lookup domain = others.lookup domain)
    (domains : List DomainDefinition) (required : Finset ExecutionUnitId) :
    selectUnits model modes domains required = selectUnits model others domains required := by
  induction domains generalizing required with
  | nil => rfl
  | cons domain rest ih =>
      unfold selectUnits
      rw [same domain.id]
      split
      · rfl
      · split
        · rfl
        · exact ih _

/-- The required units depend on the selected modes only. -/
theorem requiredUnits_congr (same : ∀ domain, modes.lookup domain = others.lookup domain) :
    requiredUnits model modes = requiredUnits model others := by
  unfold requiredUnits
  rw [selectUnits_congr same]

theorem requiredUnits_closed (found : requiredUnits model modes = .ok required) : Closed model required := by
  unfold requiredUnits at found
  split at found
  · cases found
  · split at found
    · cases found
    · rename_i complete
      obtain rfl := Except.ok.inj found
      exact closed_of_firstError complete

end Required

/-- The modes satisfy every constraint of the selected modes. -/
def Satisfied (model : ValidatedModel) (modes : Map DomainId ModeId) : Prop :=
  ∀ domain mode, modes.lookup domain = some mode → ∃ definition,
    model.findMode ⟨domain, mode⟩ = some definition ∧
    ∀ constraint ∈ definition.constraints, violatedConstraint modes constraint = none

theorem validateConstraints_eq_ok : validateConstraints model modes = .ok () ↔ Satisfied model modes := by
  unfold validateConstraints
  rw [firstError_eq_ok]
  constructor
  · intro all domain mode selected
    have clean := all ⟨domain, mode⟩ (AList.mem_lookup_iff.mp selected)
    unfold constraintError at clean
    split at clean
    · cases clean
    · rename_i definition found
      exact ⟨definition, found, List.findSome?_eq_none_iff.mp clean⟩
  · rintro satisfied ⟨domain, mode⟩ listed
    obtain ⟨definition, found, clean⟩ := satisfied domain mode (AList.mem_lookup_iff.mpr listed)
    unfold constraintError
    simp only [found]
    exact List.findSome?_eq_none_iff.mpr clean

theorem mem_guardedDomains_self (model : ValidatedModel) (domain : DomainId) :
    domain ∈ guardedDomains model domain := Finset.mem_insert_self _ _

/-- A constraint that touches a domain guards both of its sides. -/
theorem mem_guardedDomains {reference : ModeRef} {definition : ModeDefinition}
    (found : model.findMode reference = some definition) {constraint : ModeConstraint}
    (member : constraint ∈ definition.constraints)
    (touches : reference.domain = domain ∨ constraint.other.domain = domain) :
    reference.domain ∈ guardedDomains model domain ∧ constraint.other.domain ∈ guardedDomains model domain := by
  obtain ⟨candidate, listed, inside, same, _⟩ := findMode_eq_some found
  rw [← same] at touches ⊢
  unfold guardedDomains
  simp only [Finset.mem_insert, List.mem_toFinset, List.mem_flatMap]
  constructor
  · exact .inr ⟨candidate, listed, definition, inside, constraint, member, by simp [touches]⟩
  · exact .inr ⟨candidate, listed, definition, inside, constraint, member, by simp [touches]⟩

section Order
variable {dependency : ExecutionUnitId}

theorem mem_memberDependencies : dependency ∈ memberDependencies model units unit ↔ dependency ∈ units ∧
      ∃ definition, model.findUnit unit = some definition ∧ dependency ∈ definition.dependencies := by
  unfold memberDependencies
  cases found : model.findUnit unit with
  | none => simp
  | some definition =>
      simp only [List.mem_filter, List.mem_insertionSort, decide_eq_true_eq, Option.some.injEq, exists_eq_left']
      exact and_comm

theorem memberDependencies_acyclic (model : ValidatedModel) (units : Finset ExecutionUnitId) :
    DepthFirst.Acyclic (memberDependencies model units) := by
  intro node cycle
  refine model.acyclic node (Relation.TransGen.mono ?_ _ _ cycle)
  intro source target edge
  obtain ⟨_, definition, found, member⟩ := mem_memberDependencies.mp edge
  unfold DepthFirst.Edge knownDependencies
  simp only [found, List.mem_filter]
  exact ⟨member, ValidatedModel.dependencies_known found member⟩

/-- The depth-first search enumerates the set with the dependencies first. -/
theorem order_spec (model : ValidatedModel) (units : Finset ExecutionUnitId) :
    (∀ unit, unit ∈ order model units false ↔ unit ∈ units) ∧ (order model units false).Nodup ∧
      DepthFirst.Ordered (memberDependencies model units) (order model units false) := by
  obtain ⟨sound, covers⟩ := DepthFirst.searchAll_sound
    (fun _ _ _ member => (mem_memberDependencies.mp member).1) units.card le_rfl (sorted units)
    fun root member => (mem_sorted units root).mp member
  refine ⟨fun unit => ⟨sound.finishedNodes unit, fun member => ?_⟩, sound.finishedNodup, ?_⟩
  · exact covers unit ((mem_sorted units unit).mpr member)
  · apply sound.finishedOrdered
    by_contra cyclic
    exact sound.backCycle cyclic (memberDependencies_acyclic model units)

theorem order_reverse (model : ValidatedModel) (units : Finset ExecutionUnitId) :
    order model units true = (order model units false).reverse := rfl

theorem mem_order {reverse : Bool} : unit ∈ order model units reverse ↔ unit ∈ units := by
  cases reverse with
  | false => exact (order_spec model units).1 unit
  | true => rw [order_reverse, List.mem_reverse, (order_spec model units).1]

theorem order_nodup (model : ValidatedModel) (units : Finset ExecutionUnitId) (reverse : Bool) :
    (order model units reverse).Nodup := by
  cases reverse with
  | false => exact (order_spec model units).2.1
  | true => exact List.nodup_reverse.mpr (order_spec model units).2.1

variable {definition : ExecutionUnitDefinition} {before after : List ExecutionUnitId}

/-- A unit is started after its dependencies. -/
theorem order_dependency (split : order model units false = before ++ unit :: after)
    (found : model.findUnit unit = some definition) (member : dependency ∈ definition.dependencies)
    (inside : dependency ∈ units) : dependency ∈ before :=
  (order_spec model units).2.2 before unit after split dependency
    (mem_memberDependencies.mpr ⟨inside, definition, found, member⟩)

/-- A unit is stopped after the units that depend on it. -/
theorem order_dependent {dependent : ExecutionUnitId} (split : order model units true = before ++ unit :: after)
    (found : model.findUnit dependent = some definition) (member : unit ∈ definition.dependencies)
    (inside : dependent ∈ units) : dependent ∈ before := by
  have listed : dependent ∈ order model units false := mem_order.mpr inside
  obtain ⟨front, back, around⟩ := List.append_of_mem listed
  have target : unit ∈ units := by
    rw [← mem_order, split]
    simp
  have earlier : unit ∈ front := order_dependency around found member target
  have reversed : before ++ unit :: after = back.reverse ++ dependent :: front.reverse := by
    rw [← split, order_reverse, around]
    simp
  have nodup : (before ++ unit :: after).Nodup := split ▸ order_nodup model units true
  have once : unit ∉ after := (List.nodup_cons.mp (List.nodup_append.mp nodup).2.1).1
  rcases List.append_eq_append_iff.mp reversed with ⟨middle, _, tail⟩ | ⟨middle, front_, tail⟩
  · cases middle with
    | nil =>
        have same : after = front.reverse := (List.cons.inj tail).2
        exact absurd (same ▸ List.mem_reverse.mpr earlier) once
    | cons head middle =>
        have same : after = middle ++ dependent :: front.reverse := (List.cons.inj tail).2
        exact absurd (same ▸ by simp [earlier]) once
  · cases middle with
    | nil =>
        have same : front.reverse = after := (List.cons.inj tail).2
        exact absurd (same ▸ List.mem_reverse.mpr earlier) once
    | cons head middle =>
        obtain rfl : dependent = head := (List.cons.inj tail).1
        rw [front_]
        simp

end Order

section Plans

/-- What the planner guarantees for a plan. -/
structure Planned (model : ValidatedModel) (current : SystemConfiguration) (domain : DomainId)
    (target : ModeId) (plan : TransitionPlan) (needed : Finset ExecutionUnitId) : Prop where
  generation : current.generation = model.value.generation
  defined : (model.findMode ⟨domain, target⟩).isSome
  source : current.committedModes.lookup domain = some plan.sourceMode
  constraints : Satisfied model (current.committedModes.insert domain target)
  required : requiredUnits model (current.committedModes.insert domain target) = .ok needed
  shape : plan = {
    generation := model.value.generation
    domain := domain
    sourceMode := plan.sourceMode
    targetMode := target
    retain := order model (needed ∩ current.runningUnits) false
    stop := order model (current.runningUnits \ needed) true
    start := order model (needed \ current.runningUnits) false
    guardedDomains := sorted (guardedDomains model domain)
    affectedResources := sorted (unitResources model (needed \ current.runningUnits) ∪
      unitResources model (current.runningUnits \ needed)) }

variable {current : SystemConfiguration} {target : ModeId} {plan : TransitionPlan}

theorem buildPlan_eq_ok {allow : Bool} (built : buildPlan model current domain target allow = .ok plan) :
    ∃ required, Planned model current domain target plan required ∧ (allow = false → plan.sourceMode ≠ target) := by
  unfold buildPlan at built
  split at built
  · cases built
  rename_i generation
  split at built
  · cases built
  split at built
  · cases built
  rename_i defined
  split at built
  · cases built
  rename_i mode source
  split at built
  · cases built
  rename_i changes
  simp only at built
  split at built
  · cases built
  rename_i constraints
  split at built
  · cases built
  rename_i required found
  obtain rfl := Except.ok.inj built
  rw [not_not] at generation
  refine ⟨required, ⟨generation, ?_, source, validateConstraints_eq_ok.mp constraints, found, ?_⟩, ?_⟩
  · simpa [Option.isSome_iff_ne_none] using defined
  · rw [generation]
  · rintro rfl
    simpa using changes

namespace Planned
variable (planned : Planned model current domain target plan required)
include planned

theorem start_eq : plan.start = order model (required \ current.runningUnits) false := by
  rw [planned.shape]

theorem stop_eq : plan.stop = order model (current.runningUnits \ required) true := by
  rw [planned.shape]

theorem guardedDomains_eq : plan.guardedDomains = sorted (guardedDomains model domain) := by
  rw [planned.shape]

theorem mem_start : unit ∈ plan.start ↔ unit ∈ required ∧ unit ∉ current.runningUnits := by
  rw [planned.start_eq, mem_order, Finset.mem_sdiff]

theorem mem_stop : unit ∈ plan.stop ↔ unit ∈ current.runningUnits ∧ unit ∉ required := by
  rw [planned.stop_eq, mem_order, Finset.mem_sdiff]

theorem closed : Closed model required := requiredUnits_closed planned.required

end Planned

/-- What the planner guarantees for the units that a stopped domain leaves behind. -/
theorem stopDomainUnits_eq_ok {stopped : List ExecutionUnitId}
    (found : stopDomainUnits model current domain = .ok stopped) : ∃ required,
      requiredWithout model current domain = .ok required ∧ Closed model required ∧
      stopped = order model (current.runningUnits \ required) true := by
  unfold stopDomainUnits at found
  split at found
  · cases found
  · split at found
    · cases found
    · rename_i required without
      refine ⟨required, without, ?_, (Except.ok.inj found).symm⟩
      unfold requiredWithout at without
      simp only at without
      split at without
      · cases without
      · split at without
        · cases without
        · rename_i complete
          obtain rfl := Except.ok.inj without
          exact closed_of_firstError complete

theorem initialConfiguration_eq_ok {initial : SystemConfiguration} (found : initialConfiguration model = .ok initial) :
    initial.generation = model.value.generation ∧ initial.committedModes = initialModes model ∧
      requiredUnits model (initialModes model) = .ok initial.runningUnits := by
  unfold initialConfiguration at found
  split at found
  · cases found
  · rename_i required selected
    obtain rfl := Except.ok.inj found
    exact ⟨rfl, rfl, selected⟩

end Plans

end TransitionPlanner

end OpenVehicle.Exec
