/-
This file proves that the committed modes satisfy the constraints of the model in every run.
A leased thread pledges that the mode it may still commit is compatible with the others.
-/

import OpenVehicle.Exec.Runs

namespace OpenVehicle.Exec

open Concurrency FiniteMap ExecutionEngine TransitionPlanner

variable {model : ValidatedModel}

namespace TransitionPlanner

variable {modes others : Map DomainId ModeId}

theorem violatedConstraint_congr {constraint : ModeConstraint}
    (same : modes.lookup constraint.other.domain = others.lookup constraint.other.domain) :
    violatedConstraint modes constraint = violatedConstraint others constraint := by
  unfold violatedConstraint
  rw [same]

theorem Satisfied.congr (satisfied : Satisfied model modes)
    (same : ∀ domain, modes.lookup domain = others.lookup domain) : Satisfied model others := by
  intro domain mode selected
  obtain ⟨definition, found, clean⟩ := satisfied domain mode ((same domain).trans selected)
  refine ⟨definition, found, fun constraint member => ?_⟩
  rw [← violatedConstraint_congr (same constraint.other.domain)]
  exact clean constraint member

/-- Two commits that do not guard each other may be combined. -/
theorem Satisfied.combine {first second : DomainId} {left right : ModeId}
    (one : Satisfied model (modes.insert first left)) (two : Satisfied model (modes.insert second right))
    (firstApart : first ∉ guardedDomains model second) (secondApart : second ∉ guardedDomains model first) :
    Satisfied model ((modes.insert first left).insert second right) := by
  have different : first ≠ second := by
    rintro rfl
    exact firstApart (mem_guardedDomains_self model first)
  have atFirst : ((modes.insert first left).insert second right).lookup first =
      (modes.insert first left).lookup first := AList.lookup_insert_ne different
  have atOther (domain : DomainId) (apart : domain ≠ first) :
      ((modes.insert first left).insert second right).lookup domain =
        (modes.insert second right).lookup domain := by
    by_cases same : domain = second
    · rw [same, AList.lookup_insert, AList.lookup_insert]
    · rw [AList.lookup_insert_ne same, AList.lookup_insert_ne apart, AList.lookup_insert_ne same]
  have atNeither (domain : DomainId) (apart : domain ≠ second) :
      ((modes.insert first left).insert second right).lookup domain =
        (modes.insert first left).lookup domain := AList.lookup_insert_ne apart
  intro domain mode selected
  by_cases isFirst : domain = first
  · rw [isFirst, atFirst] at selected
    obtain ⟨definition, found, clean⟩ := one first mode selected
    refine ⟨definition, isFirst ▸ found, fun constraint member => ?_⟩
    have guarded := (mem_guardedDomains found member (.inl rfl)).2
    have apart : constraint.other.domain ≠ second := fun same => secondApart (same ▸ guarded)
    rw [violatedConstraint_congr (atNeither _ apart)]
    exact clean constraint member
  · have chosen := (atOther domain isFirst).symm.trans selected
    obtain ⟨definition, found, clean⟩ := two domain mode chosen
    refine ⟨definition, found, fun constraint member => ?_⟩
    by_cases toFirst : constraint.other.domain = first
    · have isNotSecond : domain ≠ second := by
        rintro rfl
        exact firstApart (toFirst ▸ (mem_guardedDomains found member (.inl rfl)).2)
      obtain ⟨definition', found', clean'⟩ := one domain mode
        ((atNeither domain isNotSecond).symm.trans selected)
      obtain rfl := Option.some.inj (found'.symm.trans found)
      have apart : constraint.other.domain ≠ second := toFirst ▸ different
      rw [violatedConstraint_congr (atNeither _ apart)]
      exact clean' constraint member
    · rw [violatedConstraint_congr (atOther _ toFirst)]
      exact clean constraint member

end TransitionPlanner

/-- The account of the modes that a thread may still commit. -/
def pledgeAccount (model : ValidatedModel) (committed : Map DomainId ModeId) (domain : DomainId) :
    Account Unit where
  commits := fun mode _ => Satisfied model (committed.insert domain mode)
  reads := fun definition _ => model.findDomain domain = some definition

section Pledges
variable {committed : Map DomainId ModeId} {domain : DomainId}

theorem pledgeAccount_silent : (pledgeAccount model committed domain).Silent :=
  ⟨fun _ _ => trivial, fun _ _ => rfl, fun _ _ => rfl, fun _ _ => rfl, fun _ => trivial⟩

/-- A pledge survives every change of the modes that keeps its commits compatible. -/
theorem pledgeAccount_implies {later : Map DomainId ModeId}
    (kept : ∀ mode, Satisfied model (committed.insert domain mode) → Satisfied model (later.insert domain mode)) :
    (pledgeAccount model committed domain).Implies (pledgeAccount model later domain) :=
  ⟨rfl, rfl, rfl, rfl, rfl, rfl, rfl, fun _ _ => trivial, fun _ _ _ => trivial, fun _ _ _ => trivial,
    fun _ _ _ => trivial, fun _ _ _ => trivial, fun _ _ _ => trivial, fun _ _ _ => trivial, fun mode _ => kept mode,
    fun _ _ => trivial, fun _ _ => trivial, fun _ _ => trivial, fun _ _ found => found, fun _ _ => trivial,
    fun _ _ none => none⟩

/-- A thread without a lease pledges nothing. -/
theorem idleAccount_implies_pledge : idleAccount.Implies (pledgeAccount model committed domain) :=
  ⟨rfl, rfl, rfl, rfl, rfl, rfl, rfl, fun _ _ => trivial, fun _ _ _ => trivial, fun _ _ _ => trivial,
    fun _ _ _ => trivial, fun _ _ _ => trivial, fun _ _ _ => trivial, fun _ _ _ => trivial,
    fun _ _ none => none.elim, fun _ _ => trivial, fun _ _ => trivial, fun _ _ => trivial,
    fun _ _ none => none.elim, fun _ _ => trivial, fun _ _ none => none⟩

/-- Each decision of a thread checks the mode that it may commit. -/
theorem pledgeAccount_sustains {transition : TransitionSnapshot} {plan : Option TransitionPlan}
    {op : EngineOp} {state : EngineState} :
    (pledgeAccount model state.configuration.committedModes transition.domain).Sustains model transition
      plan op state () where
  loaded := fun _ _ _ => trivial
  opened := fun _ _ _ => pledgeAccount_silent.request trivial
  refused := fun _ => .inr pledgeAccount_silent.rejected
  confirmed := by
    intro accepted _ _ _
    refine pledgeAccount_silent.confirm fun second replanned _ _ => ?_
    obtain ⟨required, facts, _⟩ := buildPlan_eq_ok replanned
    have carries : (pledgeAccount model state.configuration.committedModes transition.domain).Carries model
        transition accepted fun _ _ _ => True :=
      pledgeAccount_silent.carries (fun _ _ _ _ found _ => found) (fun _ _ _ _ => ⟨trivial, trivial, trivial⟩)
        (fun _ _ => trivial) (fun _ _ _ _ => ⟨trivial, trivial, trivial⟩) fun _ _ => facts.constraints
    exact carries.execute trivial
  repaired := by
    intro domain _ found
    have same : domain.id = transition.domain := (findDomain_eq_some found).2
    have loops (mode : Option ModeId) (starts stops : List ExecutionUnitId)
        (pledged : ∀ fallback, mode = some fallback →
          Satisfied model (state.configuration.committedModes.insert transition.domain fallback)) :
        (pledgeAccount model state.configuration.committedModes transition.domain).Assured
          (Work.repairStops transition mode starts stops []) () := by
      refine Account.assured_repairStops (fun _ _ _ => True)
        (fun _ _ _ _ _ => ⟨trivial, trivial, trivial, .inr pledgeAccount_silent.repaired⟩) ?_ trivial
      intro stopped view _
      refine Account.assured_repairStarts (fun _ _ _ => True)
        (fun _ _ _ _ _ => ⟨trivial, trivial, trivial, .inr pledgeAccount_silent.repaired⟩) ?_ trivial
      intro started view _
      cases mode with
      | none => exact pledgeAccount_silent.repaired
      | some fallback => exact ⟨pledged fallback rfl, pledgeAccount_silent.repaired⟩
    refine pledgeAccount_silent.repair ?_ ?_
    · intro plan _ reconciled
      obtain ⟨required, facts, _⟩ := buildPlan_eq_ok reconciled
      refine loops _ _ _ fun fallback chosen => ?_
      rw [← Option.some.inj chosen, ← same]
      exact facts.constraints
    · intro stopped _ _
      exact loops _ _ _ fun fallback chosen => by cases chosen

end Pledges

/-- The committed modes satisfy the constraints. -/
def ModesSatisfied (model : ValidatedModel) (state : EngineState) (_ : Nat) (_ : Nat → Position) : Prop :=
  Satisfied model state.configuration.committedModes

/-- The modes that a thread may still commit satisfy the constraints. -/
def ModesPledged (model : ValidatedModel) (_ : Nat) (position : Position) (state : EngineState) : Prop :=
  (pledgeAccount model state.configuration.committedModes position.transition.domain).Assured
    position.work ()

theorem lookup_insert_insert (modes : Map DomainId ModeId) (domain : DomainId) (first second : ModeId)
    (other : DomainId) : (modes.insert domain second).lookup other =
      ((modes.insert domain first).insert domain second).lookup other := by
  by_cases same : other = domain
  · rw [same, AList.lookup_insert, AList.lookup_insert]
  · rw [AList.lookup_insert_ne same, AList.lookup_insert_ne same, AList.lookup_insert_ne same]

theorem modes_maintained (model : ValidatedModel) :
    Maintains model (fun _ _ => True) (ModesSatisfied model) (ModesPledged model) where
  step := by
    intro pool positions index input op reply later sound holds step
    have owned := sound.owned index step.inside
    have pledged : ModesPledged model index (positions index) pool.shared := holds.own index step.inside
    have moved := pledged.step step.rule step.answers pledgeAccount_sustains (fun _ => trivial)
      owned.opens (fun _ _ _ => trivial) fun _ _ => not_false
    have same : later.transition = (positions index).transition := (rule_transition step.rule).1
    by_cases commits : ∃ domain mode, op = .commit domain mode
    · obtain ⟨domain, mode, rfl⟩ := commits
      obtain rfl := rule_commit step.rule owned.work_ne_void
      have leased := owned.leased_of_requires step.rule (by simp [Account.Requires, idleAccount])
      have satisfied : Satisfied model
          (pool.shared.configuration.committedModes.insert (positions index).transition.domain mode) :=
        pledged.requires step.rule
      refine ⟨satisfied, ?_, ?_⟩
      · unfold ModesPledged
        rw [same]
        refine moved.mono (pledgeAccount_implies fun next pledge => ?_)
        exact pledge.congr (lookup_insert_insert _ _ _ _)
      · intro other inside different
        have otherOwned := sound.owned other inside
        cases free : (positions other).leased with
        | false => exact (otherOwned.idle free).mono idleAccount_implies_pledge
        | true =>
            refine (holds.own other inside).mono (pledgeAccount_implies fun next pledge => ?_)
            exact satisfied.combine pledge
              (sound.guarded_apart step.inside inside (Ne.symm different) leased free)
              (sound.guarded_apart inside step.inside different free leased)
    · have unchanged := committedModes_effect (fun domain mode same => commits ⟨domain, mode, same⟩)
        reply pool.shared
      refine ⟨?_, ?_, ?_⟩
      · unfold ModesSatisfied
        rw [unchanged]
        exact holds.common
      · unfold ModesPledged
        rw [unchanged, same]
        exact moved
      · intro other inside different
        unfold ModesPledged
        rw [unchanged]
        exact holds.own other inside
  cancel := by
    intro pool positions id state sound holds _ cancelled
    obtain ⟨_, _, _, _, _, rfl⟩ := cancel_eq_ok cancelled
    exact ⟨holds.common, holds.own⟩
  request := by
    intro pool positions baseline domain target sound holds _
    refine ⟨holds.common, fun index inside => ?_⟩
    by_cases fresh : index = pool.threads.length
    · rw [fresh, Function.update_self]
      exact pledgeAccount_silent.accept trivial
    · rw [Function.update_of_ne fresh]
      exact holds.own index (by omega)

/-- No run violates a constraint of the committed modes. -/
theorem committedModes_satisfyConstraints (model : ValidatedModel) (configuration : SystemConfiguration)
    (initial : validateConstraints model configuration.committedModes = .ok ()) (pool : EnginePool)
    (reached : (machine model).Reaches (fun _ _ => True) (created configuration) pool) :
    validateConstraints model pool.shared.configuration.committedModes = .ok () := by
  rw [validateConstraints_eq_ok] at initial ⊢
  obtain ⟨positions, _, holds⟩ := (modes_maintained model).fromCreated (fun _ => initial) reached
  exact holds.common

/-- Vision may be on only while ranging is not. -/
def exclusiveModes : ValidatedModel where
  value := {
    generation := 1
    units := [{ id := 1, name := "camera" }, { id := 2, name := "radar" }]
    domains := [
      { id := 1, name := "vision", initialMode := 1,
        modes := [{ id := 1, name := "off" },
          { id := 2, name := "on", units := [1],
            constraints := [{ kind := .excludesMode, other := ⟨2, 2⟩ }] }] },
      { id := 2, name := "ranging", initialMode := 1,
        modes := [{ id := 1, name := "off" }, { id := 2, name := "on", units := [2] }] }] }
  valid := by decide +kernel

/-- Both domains are switched on at the same time, and one of the requests loses. -/
theorem committedModes_satisfyConstraints_race : ∃ pool, (machine exclusiveModes).Reaches (fun _ _ => True)
      (created ⟨1, initialModes exclusiveModes, ∅⟩) pool ∧ (pool.pending 0 = none ∧ pool.pending 1 = none) ∧
    pool.shared.configuration.committedModes.lookup 1 = some 2 ∧
    pool.shared.configuration.committedModes.lookup 2 = some 1 ∧
    validateConstraints exclusiveModes pool.shared.configuration.committedModes = .ok () := by
  let schedule := [requestMode 1 2, requestMode 2 2] ++ List.replicate 9 (advance 0) ++
    List.replicate 9 (advance 1) ++ List.replicate 19 (advance 0) ++ List.replicate 6 (advance 1)
  obtain ⟨pool, reached, quiet, vision, ranging⟩ := exists_run exclusiveModes
    ⟨1, initialModes exclusiveModes, ∅⟩ (fun _ _ => true) (fun _ _ _ => trivial) schedule
    (fun pool => (pool.pending 0 = none ∧ pool.pending 1 = none) ∧
      pool.shared.configuration.committedModes.lookup 1 = some 2 ∧
      pool.shared.configuration.committedModes.lookup 2 = some 1) (by decide +kernel)
  exact ⟨pool, reached, quiet, vision, ranging,
    committedModes_satisfyConstraints exclusiveModes _ (by decide +kernel) pool reached⟩

end OpenVehicle.Exec
