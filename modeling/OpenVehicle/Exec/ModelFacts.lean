/-
This file reads the facts of a validated model off the inspection that found no issue.
-/

import OpenVehicle.Exec.Model

namespace OpenVehicle.Exec

variable {domain : DomainDefinition} {model : ExecutionModel} {mode : ModeDefinition} {unit : ExecutionUnitDefinition}
variable {id : ExecutionUnitId} {reference : ModeRef}

theorem issueIf_eq_nil {condition : Bool} {code : ModelIssueCode} {path message : String} :
    issueIf condition code path message = [] ↔ condition = false := by
  cases condition <;> simp [issueIf]

theorem findUnit_eq_some (found : model.findUnit id = some unit) : unit ∈ model.units ∧ unit.id = id :=
  ⟨List.mem_of_find?_eq_some found, by simpa using List.find?_some found⟩

theorem findUnit_isSome_iff : (model.findUnit id).isSome ↔ id ∈ model.units.map (·.id) := by
  simp [ExecutionModel.findUnit]

theorem findDomain_eq_some {id : DomainId} (found : model.findDomain id = some domain) :
    domain ∈ model.domains ∧ domain.id = id := ⟨List.mem_of_find?_eq_some found, by simpa using List.find?_some found⟩

theorem findDomain_isSome (listed : domain ∈ model.domains) : (model.findDomain domain.id).isSome := by
  simpa [ExecutionModel.findDomain] using ⟨domain, listed, rfl⟩

theorem mem_modeIndex {entry : ModeRef × ModeDefinition} :
    entry ∈ model.modeIndex ↔ ∃ domain ∈ model.domains, ∃ mode ∈ domain.modes,
      (⟨domain.id, mode.id⟩, mode) = entry := by
  simp [ExecutionModel.modeIndex]

theorem findMode_eq_some (found : model.findMode reference = some mode) : ∃ domain ∈ model.domains,
      mode ∈ domain.modes ∧ domain.id = reference.domain ∧ mode.id = reference.mode := by
  obtain ⟨entry, located, rfl⟩ := Option.map_eq_some_iff.mp found
  obtain ⟨domain, listed, mode, inside, rfl⟩ := mem_modeIndex.mp (List.mem_of_find?_eq_some located)
  have same : (⟨domain.id, mode.id⟩ : ModeRef) = reference := by simpa using List.find?_some located
  exact ⟨domain, listed, inside, by rw [← same], by rw [← same]⟩

theorem findMode_isSome (listed : domain ∈ model.domains) (inside : mode ∈ domain.modes) :
    (model.findMode ⟨domain.id, mode.id⟩).isSome := by
  rw [ExecutionModel.findMode, Option.isSome_map, List.find?_isSome]
  exact ⟨_, mem_modeIndex.mpr ⟨domain, listed, mode, inside, rfl⟩, by simp⟩

/-- With unique identifiers the index finds the definition that lists the dependency. -/
theorem findUnit_of_mem (unique : (model.units.map (·.id)).Nodup) {definition : ExecutionUnitDefinition}
    (listed : definition ∈ model.units) : model.findUnit definition.id = some definition := by
  have some : (model.findUnit definition.id).isSome := by
    rw [findUnit_isSome_iff]
    exact List.mem_map_of_mem listed
  obtain ⟨found, located⟩ := Option.isSome_iff_exists.mp some
  obtain ⟨member, same⟩ := findUnit_eq_some located
  rw [located, List.inj_on_of_nodup_map unique member listed same]

section Loops
variable {ids : Finset ModeId} {names : Finset String} {modes : List ModeDefinition}
variable {path : String}

variable {ids : Finset Nat} {name : String}

theorem inspectIdentity_eq_nil {id : Nat} (clean : (inspectIdentity id name path ids names).2.2 = []) : id ≠ 0 := by
  intro zero
  simp [inspectIdentity, issueIf, zero] at clean

variable {units : List ExecutionUnitDefinition} {ids : Finset ApplicationId}

theorem inspectUnits_eq_nil (clean : inspectUnits units ids names = []) :
    ∀ unit ∈ units, unit.id ≠ 0 ∧ 0 < unit.retry.maxAttempts := by
  induction units generalizing ids names with
  | nil => simp
  | cons first rest ih =>
      simp only [inspectUnits, List.append_eq_nil_iff] at clean
      obtain ⟨⟨⟨⟨⟨identity, _⟩, retry⟩, _⟩, _⟩, others⟩ := clean
      intro unit member
      rcases List.mem_cons.mp member with rfl | later
      · refine ⟨inspectIdentity_eq_nil identity, ?_⟩
        simp only [issueIf_eq_nil, Bool.or_eq_false_iff, beq_eq_false_iff_ne] at retry
        omega
      · exact ih others unit later

theorem inspectModeUnits_eq_nil {units : List ApplicationId} {selected : Finset ApplicationId}
    (clean : inspectModeUnits model path units selected = []) :
    ∀ unit ∈ units, (model.findUnit unit).isSome := by
  induction units generalizing selected with
  | nil => simp
  | cons first rest ih =>
      simp only [inspectModeUnits] at clean
      split at clean
      · cases clean
      · rename_i known
        intro unit member
        rcases List.mem_cons.mp member with rfl | later
        · simpa [Option.isSome_iff_ne_none] using known
        · exact ih (List.append_eq_nil_iff.mp clean).2 unit later

theorem inspectModes_eq_nil (clean : (inspectModes model domain modes ids names).2 = []) :
    ∀ mode ∈ modes, mode.id ≠ 0 ∧ ∀ unit ∈ mode.units, (model.findUnit unit).isSome := by
  induction modes generalizing ids names with
  | nil => simp
  | cons first rest ih =>
      simp only [inspectModes, List.append_eq_nil_iff] at clean
      obtain ⟨⟨identity, units⟩, others⟩ := clean
      intro mode member
      rcases List.mem_cons.mp member with rfl | later
      · exact ⟨inspectIdentity_eq_nil identity, inspectModeUnits_eq_nil units⟩
      · exact ih others mode later

/-- The identifiers that the mode loop returns belong to modes of the domain. -/
theorem mem_inspectModes {id : ModeId} (member : id ∈ (inspectModes model domain modes ids names).1) :
    id ∈ ids ∨ ∃ mode ∈ modes, mode.id = id := by
  induction modes generalizing ids names with
  | nil => exact .inl member
  | cons first rest ih =>
      simp only [inspectModes] at member
      rcases ih member with before | ⟨mode, listed, same⟩
      · simp only [inspectIdentity] at before
        split at before
        · exact .inl before
        · rcases Finset.mem_insert.mp before with rfl | old
          · exact .inr ⟨first, by simp, rfl⟩
          · exact .inl old
      · exact .inr ⟨mode, by simp [listed], same⟩

theorem inspectIdentity_notMem {id : Nat} (clean : (inspectIdentity id name path ids names).2.2 = []) :
    id ∉ ids ∧ (inspectIdentity id name path ids names).1 = insert id ids := by
  have nonzero := inspectIdentity_eq_nil clean
  simp only [inspectIdentity, List.append_eq_nil_iff, issueIf_eq_nil] at clean
  exact ⟨by simpa [nonzero] using clean.1.2, by simp [inspectIdentity, nonzero]⟩

/-- A loop that collects fresh identifiers meets each of them once. -/
theorem nodup_cons_fresh {A : Type} {identifier : A → Nat} {first : A} {rest : List A}
    (fresh : identifier first ∉ ids) (unique : (rest.map identifier).Nodup)
    (apart : ∀ item ∈ rest, identifier item ∉ insert (identifier first) ids) :
    ((first :: rest).map identifier).Nodup ∧ ∀ item ∈ first :: rest, identifier item ∉ ids := by
  constructor
  · rw [List.map_cons, List.nodup_cons]
    refine ⟨?_, unique⟩
    intro again
    obtain ⟨item, listed, same⟩ := List.mem_map.mp again
    apply apart item listed
    rw [same]
    exact Finset.mem_insert_self _ _
  · intro item member
    rcases List.mem_cons.mp member with rfl | later
    · exact fresh
    · intro old
      exact apart item later (Finset.mem_insert_of_mem old)

theorem nodup_of_inspectUnits
    (clean : inspectUnits units ids names = []) : (units.map (·.id)).Nodup ∧ ∀ unit ∈ units, unit.id ∉ ids := by
  induction units generalizing ids names with
  | nil => simp
  | cons first rest ih =>
      simp only [inspectUnits, List.append_eq_nil_iff] at clean
      obtain ⟨⟨⟨⟨⟨identity, _⟩, _⟩, _⟩, _⟩, others⟩ := clean
      obtain ⟨fresh, grown⟩ := inspectIdentity_notMem identity
      rw [grown] at others
      exact nodup_cons_fresh fresh (ih others).1 (ih others).2

theorem nodup_of_inspectModes (clean : (inspectModes model domain modes ids names).2 = []) :
    (modes.map (·.id)).Nodup ∧ ∀ mode ∈ modes, mode.id ∉ ids := by
  induction modes generalizing ids names with
  | nil => simp
  | cons first rest ih =>
      simp only [inspectModes, List.append_eq_nil_iff] at clean
      obtain ⟨⟨identity, _⟩, others⟩ := clean
      obtain ⟨fresh, grown⟩ := inspectIdentity_notMem identity
      rw [grown] at others
      exact nodup_cons_fresh fresh (ih others).1 (ih others).2

variable {domains : List DomainDefinition} {ids : Finset DomainId}

theorem nodup_of_inspectDomains (clean : inspectDomains model domains ids names = []) :
    (domains.map (·.id)).Nodup ∧ ∀ domain ∈ domains, domain.id ∉ ids := by
  induction domains generalizing ids names with
  | nil => simp
  | cons first rest ih =>
      simp only [inspectDomains, List.append_eq_nil_iff] at clean
      obtain ⟨⟨⟨⟨⟨identity, _⟩, _⟩, _⟩, _⟩, others⟩ := clean
      obtain ⟨fresh, grown⟩ := inspectIdentity_notMem identity
      rw [grown] at others
      exact nodup_cons_fresh fresh (ih others).1 (ih others).2

/-- What the inspection guarantees for one domain. -/
structure CleanDomain (model : ExecutionModel) (domain : DomainDefinition) : Prop where
  id : domain.id ≠ 0
  modes : ∀ mode ∈ domain.modes, mode.id ≠ 0 ∧ ∀ unit ∈ mode.units, (model.findUnit unit).isSome
  modesUnique : (domain.modes.map (·.id)).Nodup
  initial : ∃ mode ∈ domain.modes, mode.id = domain.initialMode
  fallback : domain.recovery.action = .enterFallbackMode →
    ∃ mode ∈ domain.modes, mode.id = domain.recovery.fallbackMode

theorem inspectDomains_eq_nil (clean : inspectDomains model domains ids names = []) :
    ∀ domain ∈ domains, CleanDomain model domain := by
  induction domains generalizing ids names with
  | nil => simp
  | cons first rest ih =>
      simp only [inspectDomains, List.append_eq_nil_iff, issueIf_eq_nil] at clean
      obtain ⟨⟨⟨⟨⟨identity, modes⟩, initial⟩, _⟩, fallback⟩, others⟩ := clean
      intro domain member
      rcases List.mem_cons.mp member with rfl | later
      · refine ⟨inspectIdentity_eq_nil identity, inspectModes_eq_nil modes, (nodup_of_inspectModes modes).1, ?_, ?_⟩
        · rw [decide_eq_false_iff_not, not_not] at initial
          exact (mem_inspectModes initial).resolve_left (by simp)
        · intro action
          rw [action] at fallback
          simp only [beq_self_eq_true, Bool.true_and, decide_eq_false_iff_not, not_not] at fallback
          exact (mem_inspectModes fallback).resolve_left (by simp)
      · exact ih others domain later

theorem inspectConstraints_eq_nil {own : ModeRef} {constraints : List ModeConstraint}
    {seen : List (ModeRef × ConstraintKind)} (clean : inspectConstraints model path own constraints seen = []) :
    ∀ constraint ∈ constraints, (model.findMode constraint.other).isSome := by
  induction constraints generalizing seen with
  | nil => simp
  | cons first rest ih =>
      simp only [inspectConstraints, List.append_eq_nil_iff, issueIf_eq_nil] at clean
      obtain ⟨⟨⟨_, known⟩, _⟩, others⟩ := clean
      intro constraint member
      rcases List.mem_cons.mp member with rfl | later
      · simpa [Option.isSome_iff_ne_none] using known
      · exact ih others constraint later

theorem findUnit_isSome_of_mem_knownDependencies {unit dependency : ApplicationId}
    (member : dependency ∈ knownDependencies model unit) : (model.findUnit dependency).isSome := by
  unfold knownDependencies at member
  split at member
  · cases member
  · exact (List.mem_filter.mp member).2

/-- The detector meets a back edge exactly when the edges between units have a cycle. -/
theorem searchAll_knownDependencies (model : ExecutionModel) :
    (DepthFirst.searchAll (knownDependencies model) model.units.length
      (model.units.map (·.id))).back = [] ↔ DepthFirst.Acyclic (knownDependencies model) := by
  have closed : ∀ node ∈ (model.units.map (·.id)).toFinset,
      ∀ target ∈ knownDependencies model node,
        target ∈ (model.units.map (·.id)).toFinset := by
    intro node _ target member
    rw [List.mem_toFinset, ← findUnit_isSome_iff]
    exact findUnit_isSome_of_mem_knownDependencies member
  have enough : (model.units.map (·.id)).toFinset.card ≤ model.units.length := (List.toFinset_card_le _).trans (by simp)
  apply DepthFirst.searchAll_back_eq_nil_iff closed _ enough
  · intro root member
    exact List.mem_toFinset.mpr member
  · intro node target edge
    rw [← findUnit_isSome_iff]
    unfold DepthFirst.Edge knownDependencies at edge
    split at edge
    · cases edge
    · rename_i found
      simp [found]

theorem reportCycles_eq_nil {back : List (List ApplicationId × ApplicationId)}
    (clean : reportCycles back ∅ = []) : back = [] := by
  cases back with
  | nil => rfl
  | cons first rest => simp [reportCycles, issueIf] at clean

end Loops

/-- With unique identifiers the mode index finds each mode under its domain. -/
theorem findMode_of_mem (unique : (model.domains.map (·.id)).Nodup)
    (listed : domain ∈ model.domains) (distinct : (domain.modes.map (·.id)).Nodup)
    (inside : mode ∈ domain.modes) : model.findMode ⟨domain.id, mode.id⟩ = some mode := by
  obtain ⟨found, located⟩ := Option.isSome_iff_exists.mp (findMode_isSome listed inside)
  obtain ⟨other, member, holds, sameDomain, sameMode⟩ := findMode_eq_some located
  obtain rfl := List.inj_on_of_nodup_map unique member listed sameDomain
  rw [located, List.inj_on_of_nodup_map distinct holds inside sameMode]

namespace ValidatedModel

variable (model : ValidatedModel)

/-- The parts of a clean inspection. -/
theorem parts : inspectUnits model.value.units ∅ ∅ = [] ∧
    inspectKnownDependencies model.value = [] ∧ inspectDependencyCycles model.value = [] ∧
    inspectDomains model.value model.value.domains ∅ ∅ = [] ∧
    inspectMembership model.value = [] ∧ inspectAllConstraints model.value = [] := by
  have valid := model.valid
  simp only [inspectModel, List.append_eq_nil_iff] at valid
  obtain ⟨⟨⟨⟨⟨⟨_, units⟩, known⟩, cycles⟩, domains⟩, membership⟩, constraints⟩ := valid
  exact ⟨units, known, cycles, domains, membership, constraints⟩

variable {model}

theorem cleanDomain (listed : domain ∈ model.value.domains) :
    CleanDomain model.value domain := inspectDomains_eq_nil model.parts.2.2.2.1 domain listed

theorem units_unique (model : ValidatedModel) : (model.value.units.map (·.id)).Nodup :=
  (nodup_of_inspectUnits model.parts.1).1

theorem domains_unique (model : ValidatedModel) : (model.value.domains.map (·.id)).Nodup :=
  (nodup_of_inspectDomains model.parts.2.2.2.1).1

/-- A validated model finds every mode that one of its domains lists. -/
theorem findMode_listed (listed : domain ∈ model.value.domains) (inside : mode ∈ domain.modes) :
    model.findMode ⟨domain.id, mode.id⟩ = some mode :=
  findMode_of_mem model.domains_unique listed (cleanDomain listed).modesUnique inside

theorem maxAttempts_pos (found : model.findUnit id = some unit) : 0 < unit.retry.maxAttempts :=
  (inspectUnits_eq_nil model.parts.1 unit (findUnit_eq_some found).1).2

theorem dependencies_known (found : model.findUnit id = some unit) {dependency : ExecutionUnitId}
    (member : dependency ∈ unit.dependencies) : (model.findUnit dependency).isSome := by
  have known := model.parts.2.1
  simp only [inspectKnownDependencies, List.flatMap_eq_nil_iff, issueIf_eq_nil] at known
  simpa [Option.isSome_iff_ne_none] using
    known unit (findUnit_eq_some found).1 dependency member

/-- The dependencies of a validated model have no cycle. -/
theorem acyclic (model : ValidatedModel) : DepthFirst.Acyclic (knownDependencies model.value) :=
  (searchAll_knownDependencies model.value).mp (reportCycles_eq_nil model.parts.2.2.1)

theorem findMode_nonzero (found : model.findMode reference = some mode) :
    reference.domain ≠ 0 ∧ reference.mode ≠ 0 := by
  obtain ⟨domain, listed, inside, sameDomain, sameMode⟩ := findMode_eq_some found
  exact ⟨sameDomain ▸ (cleanDomain listed).id, sameMode ▸ ((cleanDomain listed).modes mode inside).1⟩

theorem findDomain_of_findMode (found : model.findMode reference = some mode) :
    (model.findDomain reference.domain).isSome := by
  obtain ⟨domain, listed, _, same, _⟩ := findMode_eq_some found
  exact same ▸ findDomain_isSome listed

theorem fallbackMode_defined (listed : domain ∈ model.value.domains)
    (action : domain.recovery.action = .enterFallbackMode) :
    (model.findMode ⟨domain.id, domain.recovery.fallbackMode⟩).isSome := by
  obtain ⟨mode, inside, same⟩ := (cleanDomain listed).fallback action
  exact same ▸ findMode_isSome listed inside

theorem constraint_defined (listed : domain ∈ model.value.domains) (inside : mode ∈ domain.modes)
    {constraint : ModeConstraint} (member : constraint ∈ mode.constraints) :
    (model.findMode constraint.other).isSome := by
  have clean := model.parts.2.2.2.2.2
  simp only [inspectAllConstraints, List.flatMap_eq_nil_iff] at clean
  exact inspectConstraints_eq_nil (clean domain listed mode inside) constraint member

end ValidatedModel

end OpenVehicle.Exec
