/-
This file compares the initial configuration of an engine with the constraints of its model.
A plan checks the constraints, and the creation of an engine on an empty journal makes no plan.
-/

import OpenVehicle.Exec.Create
import OpenVehicle.Exec.PlannerFacts

namespace OpenVehicle.Exec

open FiniteMap TransitionPlanner

/-- Every constraint of an initial mode holds between the initial modes of the model. -/
def CompatibleInitially (model : ValidatedModel) : Prop :=
  ∀ domain ∈ model.value.domains, ∀ mode ∈ domain.modes, mode.id = domain.initialMode →
    ∀ constraint ∈ mode.constraints, (constraint.kind = .requiresMode ↔ ∃ other ∈ model.value.domains,
        other.id = constraint.other.domain ∧ other.initialMode = constraint.other.mode)

section InitialModes
variable {model : ValidatedModel} {modes : Map DomainId ModeId} {id : DomainId} {mode : ModeId}

/-- The loop over the domains adds the initial mode of each domain it has not seen. -/
theorem lookup_foldl_initialModes {domains : List DomainDefinition}
    (unique : (domains.map (·.id)).Nodup) (fresh : ∀ domain ∈ domains, modes.lookup domain.id = none) :
    (domains.foldl (fun modes domain =>
      if (modes.lookup domain.id).isSome then modes
      else modes.insert domain.id domain.initialMode) modes).lookup id = some mode ↔
    modes.lookup id = some mode ∨ ∃ domain ∈ domains, domain.id = id ∧ domain.initialMode = mode := by
  induction domains generalizing modes with
  | nil => simp
  | cons first rest ih =>
      rw [List.map_cons, List.nodup_cons] at unique
      have unseen : modes.lookup first.id = none := fresh first List.mem_cons_self
      have later : ∀ domain ∈ rest, (modes.insert first.id first.initialMode).lookup domain.id = none := by
        intro domain member
        have apart : domain.id ≠ first.id := fun same =>
          unique.1 (List.mem_map.mpr ⟨domain, member, same⟩)
        rw [AList.lookup_insert_ne apart]
        exact fresh domain (List.mem_cons_of_mem _ member)
      rw [List.foldl_cons, unseen, if_neg (by simp), ih unique.2 later]
      by_cases same : id = first.id
      · subst same
        simp only [AList.lookup_insert, unseen, Option.some.injEq, reduceCtorEq, false_or,
          List.exists_mem_cons_iff, true_and]
      · rw [AList.lookup_insert_ne same]
        simp [Ne.symm same]

theorem lookup_initialModes (model : ValidatedModel) {id : DomainId} {mode : ModeId} :
    (initialModes model).lookup id = some mode ↔
      ∃ domain ∈ model.value.domains, domain.id = id ∧ domain.initialMode = mode := by
  unfold initialModes
  rw [lookup_foldl_initialModes model.domains_unique (by simp)]
  simp

/-- A constraint holds when the other mode is selected exactly for a requirement. -/
theorem violatedConstraint_eq_none {constraint : ModeConstraint} :
    violatedConstraint modes constraint = none ↔ (constraint.kind = .requiresMode ↔
      modes.lookup constraint.other.domain = some constraint.other.mode) := by
  unfold violatedConstraint
  cases constraint.kind <;> by_cases selected :
    modes.lookup constraint.other.domain = some constraint.other.mode <;> simp [selected]

/-- The initial modes satisfy the constraints exactly when they are compatible. -/
theorem satisfied_initialModes (model : ValidatedModel) :
    Satisfied model (initialModes model) ↔ CompatibleInitially model := by
  constructor
  · intro satisfied domain listed mode inside initial constraint member
    obtain ⟨definition, found, clean⟩ := satisfied domain.id domain.initialMode
      ((lookup_initialModes model).mpr ⟨domain, listed, rfl, rfl⟩)
    rw [← initial, ValidatedModel.findMode_listed listed inside] at found
    cases found
    rw [← lookup_initialModes]
    exact violatedConstraint_eq_none.mp (clean constraint member)
  · intro compatible id mode selected
    obtain ⟨domain, listed, rfl, rfl⟩ := (lookup_initialModes model).mp selected
    obtain ⟨definition, inside, initial⟩ := (ValidatedModel.cleanDomain listed).initial
    refine ⟨definition, initial ▸ ValidatedModel.findMode_listed listed inside, ?_⟩
    intro constraint member
    rw [violatedConstraint_eq_none, lookup_initialModes]
    exact compatible domain listed definition inside initial constraint member

end InitialModes

namespace Create
variable {model : ValidatedModel} {S : Type} {backend : ProcessBackend S} {environment : Environment}

/-- A creation on an empty journal keeps the initial configuration and calls no unit. -/
theorem create_empty {state : S} {engine : EngineState} {log : BackendLog S}
    (creates : create model backend environment (.ok []) state = some ⟨.ok engine, log⟩) :
    initialConfiguration model = .ok engine.configuration ∧ log = { backend := state } := by
  unfold create at creates
  cases started : initialConfiguration model with
  | error error =>
      rw [started] at creates
      cases creates
  | ok initial =>
      have settled : interrupted environment (∅ : Map TransitionId TransitionSnapshot) = [] :=
        interrupted_eq_nil_iff.mpr fun id transition found => by cases found
      have replays : Replay.replay model { configuration := initial } [] =
          .ok { configuration := initial } := rfl
      simp only [started, replays, restore] at creates
      cases inspected : inspectUnits backend state model.value.units ∅ with
      | error error =>
          rw [inspected] at creates
          cases creates
      | ok observed =>
          simp only [inspected, settled, restoreUnits, List.isEmpty_nil, Bool.not_true, Bool.not_false,
            if_true] at creates
          cases required : requireInitial environment initial.runningUnits observed with
          | error error =>
              rw [required] at creates
              cases creates
          | ok value =>
              simp only [required, finalize, Option.map_some, Option.some.injEq] at creates
              obtain ⟨same, rfl⟩ := Creation.mk.inj creates
              obtain rfl := Except.ok.inj same
              exact ⟨rfl, rfl⟩

/-- A new engine satisfies the constraints exactly when its initial modes are compatible, and it
always runs a set of units that is closed under dependencies. -/
theorem create_empty_valid_iff (model : ValidatedModel) (backend : ProcessBackend S)
    (environment : Environment) (state : S) (engine : EngineState) (log : BackendLog S)
    (creates : create model backend environment (.ok []) state = some ⟨.ok engine, log⟩) :
    (validateConstraints model engine.configuration.committedModes = .ok () ∧
      Closed model engine.configuration.runningUnits) ↔ CompatibleInitially model := by
  obtain ⟨_, modes, required⟩ := initialConfiguration_eq_ok (create_empty creates).1
  rw [modes, validateConstraints_eq_ok, satisfied_initialModes]
  exact and_iff_left (requiredUnits_closed required)

/-- The wiper has no constraints. -/
theorem create_empty_valid_wiper : ∃ engine log,
    create wiperModes readyBackend accepting (.ok []) ∅ = some ⟨.ok engine, log⟩ ∧
    validateConstraints wiperModes engine.configuration.committedModes = .ok () ∧
    Closed wiperModes engine.configuration.runningUnits := by
  have executed : returns (fun _ _ => true)
      (create wiperModes readyBackend accepting (.ok []) ∅) = true := by decide +kernel
  obtain ⟨engine, log, creates, _⟩ := exists_engine executed
  have free : CompatibleInitially wiperModes := by
    unfold CompatibleInitially
    decide +kernel
  exact ⟨engine, log, creates, (create_empty_valid_iff wiperModes readyBackend accepting ∅ engine log creates).mpr free⟩

/-- The parked door excludes the driving motor, and both are initial modes. -/
def clashingModes : ValidatedModel where
  value := {
    generation := 1
    units := [{ id := 1, name := "motor" }]
    domains := [
      { id := 1, name := "door", initialMode := 1, recovery := { action := .stopDomain },
        modes := [{ id := 1, name := "open", constraints := [⟨.excludesMode, ⟨2, 1⟩⟩] }] },
      { id := 2, name := "drive", initialMode := 1, recovery := { action := .stopDomain },
        modes := [{ id := 1, name := "driving", units := [1] }] }] }
  valid := by decide +kernel

/-- The creation succeeds in two modes that exclude each other. -/
theorem create_empty_clashes : ∃ engine log,
    create clashingModes readyBackend accepting (.ok []) {1} = some ⟨.ok engine, log⟩ ∧
    ¬ (validateConstraints clashingModes engine.configuration.committedModes = .ok () ∧
      Closed clashingModes engine.configuration.runningUnits) := by
  have executed : returns (fun engine _ => decide
      (validateConstraints clashingModes engine.configuration.committedModes ≠ .ok ()))
      (create clashingModes readyBackend accepting (.ok []) {1}) = true := by decide +kernel
  obtain ⟨engine, log, creates, violated⟩ := exists_engine executed
  exact ⟨engine, log, creates, fun valid => of_decide_eq_true violated valid.1⟩

end Create

end OpenVehicle.Exec
