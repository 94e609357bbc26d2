/-
This file follows the configuration that the confirmed transitions will leave behind.
It proves that the running units are the required ones whenever every transition has succeeded,
if each transition is confirmed against that configuration too.
-/

import OpenVehicle.Exec.Replay
import OpenVehicle.Exec.Sequential

namespace OpenVehicle.Exec

open Concurrency FiniteMap ExecutionEngine TransitionPlanner

/-- The configuration after the plans of all active transitions. -/
structure Projects (active : Nat → Option TransitionPlan) (configuration projected : SystemConfiguration) :
    Prop where
  running : ∀ unit, unit ∈ projected.runningUnits ↔
    (∃ index plan, active index = some plan ∧ unit ∈ plan.start) ∨
      unit ∈ configuration.runningUnits ∧ ∀ index plan, active index = some plan → unit ∉ plan.stop
  selected : ∀ index plan, active index = some plan →
    projected.committedModes.lookup plan.domain = some plan.targetMode
  kept : ∀ domain, (∀ index plan, active index = some plan → plan.domain ≠ domain) →
    projected.committedModes.lookup domain = configuration.committedModes.lookup domain

/-- Two plans change different units and different domains. -/
structure Separate (first second : TransitionPlan) : Prop where
  units : ∀ unit, unit ∈ first.stop ++ first.start → unit ∉ second.stop ++ second.start
  domains : first.domain ≠ second.domain

/-- The two configurations differ only in what the plan changes. -/
structure Within (plan : TransitionPlan) (before after : SystemConfiguration) : Prop where
  units : ∀ unit, unit ∉ plan.stop ++ plan.start →
    (unit ∈ after.runningUnits ↔ unit ∈ before.runningUnits)
  modes : ∀ domain, plan.domain ≠ domain →
    after.committedModes.lookup domain = before.committedModes.lookup domain

/-- The configuration contains what the plan changes. -/
structure Done (plan : TransitionPlan) (configuration : SystemConfiguration) : Prop where
  started : ∀ unit ∈ plan.start, unit ∈ configuration.runningUnits
  stopped : ∀ unit ∈ plan.stop, unit ∉ plan.start → unit ∉ configuration.runningUnits
  committed : configuration.committedModes.lookup plan.domain = some plan.targetMode

theorem mem_applySuccess {plan : TransitionPlan} {configuration : SystemConfiguration}
    {unit : ExecutionUnitId} : unit ∈ (Replay.applySuccess plan configuration).runningUnits ↔
      unit ∈ configuration.runningUnits ∧ unit ∉ plan.stop ∨ unit ∈ plan.start := by
  show unit ∈ plan.start.foldl (fun running application => insert application running)
    (plan.stop.foldl Finset.erase configuration.runningUnits) ↔ _
  rw [mem_foldl_insert, mem_foldl_erase]

variable {index : Nat}

namespace Projects
variable {active : Nat → Option TransitionPlan} {configuration projected later : SystemConfiguration}
variable {plan : TransitionPlan}

theorem none (idle : ∀ index, active index = none) : Projects active configuration configuration := by
  refine ⟨fun unit => ?_, ?_, fun _ _ => rfl⟩
  · simp [idle]
  · intro index plan found
    rw [idle] at found
    cases found

section
variable (projects : Projects active configuration projected)
include projects

/-- The projection ignores what an active transition changes. -/
theorem within (found : active index = some plan)
    (within : Within plan configuration later) : Projects active later projected := by
  refine ⟨fun unit => ?_, projects.selected, fun domain outside => ?_⟩
  · rw [projects.running]
    by_cases inside : unit ∈ plan.stop ++ plan.start
    · rcases List.mem_append.mp inside with stops | starts
      · have never (running : Finset ExecutionUnitId) : ¬ (unit ∈ running ∧ ∀ index plan,
            active index = some plan → unit ∉ plan.stop) := fun both => both.2 index plan found stops
        simp only [never, or_false]
      · simp only [show ∃ index plan, active index = some plan ∧ unit ∈ plan.start from
          ⟨index, plan, found, starts⟩, true_or]
    · rw [within.units unit inside]
  · rw [projects.kept domain outside, within.modes domain (outside index plan found)]

/-- A confirmed transition extends the projection by its plan. -/
theorem activate (idle : active index = Option.none)
    (separate : ∀ other second, active other = some second → Separate second plan) :
    Projects (Function.update active index (some plan)) configuration (Replay.applySuccess plan projected) := by
  have others (other : Nat) (second : TransitionPlan) :
      Function.update active index (some plan) other = some second ↔
        other = index ∧ plan = second ∨ active other = some second := by
    by_cases same : other = index
    · simp [same, idle]
    · simp [same]
  refine ⟨fun unit => ?_, ?_, ?_⟩
  · rw [mem_applySuccess, projects.running]
    constructor
    · rintro (⟨⟨other, second, found, starts⟩ | ⟨runs, kept⟩, notStopped⟩ | starts)
      · exact .inl ⟨other, second, (others other second).mpr (.inr found), starts⟩
      · refine .inr ⟨runs, fun other second found => ?_⟩
        rcases (others other second).mp found with ⟨rfl, rfl⟩ | found
        · exact notStopped
        · exact kept other second found
      · exact .inl ⟨index, plan, (others index plan).mpr (.inl ⟨rfl, rfl⟩), starts⟩
    · rintro (⟨other, second, found, starts⟩ | ⟨runs, kept⟩)
      · rcases (others other second).mp found with ⟨rfl, rfl⟩ | found
        · exact .inr starts
        · refine .inl ⟨.inl ⟨other, second, found, starts⟩, fun stops => ?_⟩
          exact (separate other second found).units unit (List.mem_append_right _ starts)
            (List.mem_append_left _ stops)
      · refine .inl ⟨.inr ⟨runs, fun other second found => ?_⟩, ?_⟩
        · exact kept other second ((others other second).mpr (.inr found))
        · exact kept index plan ((others index plan).mpr (.inl ⟨rfl, rfl⟩))
  · intro other second found
    show (projected.committedModes.insert plan.domain plan.targetMode).lookup second.domain = _
    rcases (others other second).mp found with ⟨rfl, rfl⟩ | found
    · exact AList.lookup_insert _
    · rw [AList.lookup_insert_ne (separate other second found).domains]
      exact projects.selected other second found
  · intro domain outside
    have different : plan.domain ≠ domain := outside index plan ((others index plan).mpr (.inl ⟨rfl, rfl⟩))
    show (projected.committedModes.insert plan.domain plan.targetMode).lookup domain = _
    rw [AList.lookup_insert_ne different.symm]
    exact projects.kept domain fun other second found =>
      outside other second ((others other second).mpr (.inr found))

/-- A transition that has done its plan may leave the projection. -/
theorem finish (found : active index = some plan)
    (separate : ∀ other second, other ≠ index → active other = some second → Separate second plan)
    (done : Done plan configuration) : Projects (Function.update active index Option.none) configuration projected := by
  have others (other : Nat) (second : TransitionPlan) :
      Function.update active index Option.none other = some second ↔
        other ≠ index ∧ active other = some second := by
    by_cases same : other = index
    · simp [same]
    · simp [same]
  refine ⟨fun unit => ?_, ?_, ?_⟩
  · rw [projects.running]
    constructor
    · rintro (⟨other, second, known, starts⟩ | ⟨runs, kept⟩)
      · by_cases same : other = index
        · obtain rfl := same
          obtain rfl := Option.some.inj (known.symm.trans found)
          refine .inr ⟨done.started unit starts, fun third second found stops => ?_⟩
          obtain ⟨different, found⟩ := (others third second).mp found
          exact (separate third second different found).units unit (List.mem_append_left _ stops)
            (List.mem_append_right _ starts)
        · exact .inl ⟨other, second, (others other second).mpr ⟨same, known⟩, starts⟩
      · exact .inr ⟨runs, fun other second found => kept other second ((others other second).mp found).2⟩
    · rintro (⟨other, second, known, starts⟩ | ⟨runs, kept⟩)
      · exact .inl ⟨other, second, ((others other second).mp known).2, starts⟩
      · by_cases starts : unit ∈ plan.start
        · exact .inl ⟨index, plan, found, starts⟩
        · refine .inr ⟨runs, fun other second known stops => ?_⟩
          by_cases same : other = index
          · obtain rfl := same
            obtain rfl := Option.some.inj (known.symm.trans found)
            exact done.stopped unit stops starts runs
          · exact kept other second ((others other second).mpr ⟨same, known⟩) stops
  · intro other second known
    exact projects.selected other second ((others other second).mp known).2
  · intro domain outside
    by_cases same : plan.domain = domain
    · rw [← same, projects.selected index plan found, done.committed]
    · refine projects.kept domain fun other second known => ?_
      by_cases own : other = index
      · obtain rfl := own
        obtain rfl := Option.some.inj (known.symm.trans found)
        exact same
      · exact outside other second ((others other second).mpr ⟨own, known⟩)

/-- The projection is the configuration when every active transition has done its plan. -/
theorem settle (done : ∀ index plan, active index = some plan → Done plan configuration) :
    configuration.runningUnits = projected.runningUnits ∧ ∀ domain,
      configuration.committedModes.lookup domain = projected.committedModes.lookup domain := by
  constructor
  · ext unit
    rw [projects.running]
    constructor
    · intro runs
      by_cases starts : ∃ index plan, active index = some plan ∧ unit ∈ plan.start
      · exact .inl starts
      · refine .inr ⟨runs, fun index plan found stops => ?_⟩
        exact (done index plan found).stopped unit stops
          (fun started => starts ⟨index, plan, found, started⟩) runs
    · rintro (⟨index, plan, found, starts⟩ | ⟨runs, _⟩)
      · exact (done index plan found).started unit starts
      · exact runs
  · intro domain
    by_cases selects : ∃ index plan, active index = some plan ∧ plan.domain = domain
    · obtain ⟨index, plan, found, rfl⟩ := selects
      rw [projects.selected index plan found, (done index plan found).committed]
    · exact (projects.kept domain fun index plan found same => selects ⟨index, plan, found, same⟩).symm

end

/-- The plans of the active transitions may be applied one after the other. -/
theorem foldl (separate : ∀ first second left right, first ≠ second → active first = some left →
      active second = some right → Separate left right) (count : Nat) :
    Projects (fun index => if index < count then active index else Option.none) configuration
      (((List.range count).filterMap active).foldl
        (fun configuration plan => Replay.applySuccess plan configuration) configuration) := by
  induction count with
  | zero => exact Projects.none fun index => by simp
  | succ count ih =>
      rw [List.range_succ, List.filterMap_append, List.foldl_append]
      cases found : active count with
      | none =>
          have same : (fun index => if index < count + 1 then active index else Option.none) =
              fun index => if index < count then active index else Option.none := by
            funext index
            by_cases last : index = count
            · simp [last, found]
            · simp [show index < count + 1 ↔ index < count by omega]
          rw [same]
          simpa [found] using ih
      | some plan =>
          have same : (fun index => if index < count + 1 then active index else Option.none) =
              Function.update (fun index => if index < count then active index else Option.none) count
                (some plan) := by
            funext index
            by_cases last : index = count
            · simp [last, found]
            · simp [last, show index < count + 1 ↔ index < count by omega]
          rw [same]
          simp only [List.filterMap_cons, found, List.filterMap_nil, List.foldl_cons, List.foldl_nil]
          refine ih.activate (by simp) fun other second known => ?_
          split at known
          · exact separate other count second plan (by omega) known found
          · cases known

end Projects

/-- The plan of a transition that has been confirmed and holds its lease. -/
def confirmedPlan (pool : EnginePool) (index : Nat) : Option TransitionPlan :=
  if (pool.shared.scheduler.leases.lookup (index + 1)).isSome then
    match pool.pending index with
    | some (.replan _ _) => none
    | _ => pool.shared.plans.lookup (index + 1)
  else none

/-- The configuration that the confirmed transitions will leave behind. -/
def projectedConfiguration (pool : EnginePool) : SystemConfiguration :=
  ((List.range pool.threads.length).filterMap (confirmedPlan pool)).foldl
    (fun configuration plan => Replay.applySuccess plan configuration) pool.shared.configuration

/-- A second plan confirms the accepted one. -/
def confirms (accepted : TransitionPlan) : Result TransitionPlan → Bool
  | .error _ => false
  | .ok replanned => decide (replanned.start = accepted.start ∧ replanned.stop = accepted.stop)

/-- A transition that the current configuration confirms is confirmed by the projected one. -/
def confirmsProjected (model : ValidatedModel) (pool : EnginePool) : EngineChoice → Bool
  | .thread index _ =>
      match pool.pending index, pool.shared.plans.lookup (index + 1) with
      | some (.replan domain target), some accepted =>
          !confirms accepted (plan model pool.shared.configuration domain target) ||
            confirms accepted (plan model (projectedConfiguration pool) domain target)
      | _, _ => true
  | _ => true

/-- The account of a transition that cannot succeed any more. -/
def doomedAccount (model : ValidatedModel) (transition : TransitionSnapshot) :
    Account (Option TransitionPhase) where
  registered := fun _ => some transition.phase
  stored := fun snapshot _ => some snapshot.phase
  opens := fun _ => False
  waits := fun _ => False
  replans := fun _ => False
  reads := fun domain phase => model.findDomain transition.domain = some domain ∧ phase ≠ some .succeeded
  finishes := fun phase => phase ≠ some .succeeded

variable {model : ValidatedModel} {transition : TransitionSnapshot} {state : EngineState} {op : EngineOp}

theorem doomedAccount_recoverable :
    (doomedAccount model transition).Recoverable model transition (· ≠ some .succeeded) where
  records := fun _ _ plain _ held => ⟨trivial, fun same => plain.unsuccessful (Option.some.inj same), held⟩
  closes := fun _ _ plain _ held => ⟨trivial, fun same => plain.unsuccessful (Option.some.inj same), held⟩
  stops := fun _ _ held => ⟨trivial, trivial, held⟩
  starts := fun _ _ held => ⟨trivial, trivial, held⟩
  reads := fun _ _ found held => ⟨found, held⟩
  recovers := by
    intro domain stopped started phase _ held
    refine ⟨trivial, ?_⟩
    rintro snapshot ⟨failure, _, rfl⟩
    refine ⟨trivial, ?_, fun _ => .inr held⟩
    show some TransitionPhase.failed ≠ some .succeeded
    simp

theorem doomedAccount_sustains {plan : Option TransitionPlan} {phase : Option TransitionPhase} :
    (doomedAccount model transition).Sustains model transition plan op state phase where
  loaded := fun _ _ _ => trivial
  opened := fun _ _ impossible => impossible.elim
  refused := fun impossible => impossible.elim
  confirmed := fun _ _ _ impossible => impossible.elim
  repaired := fun _ _ reads => doomedAccount_recoverable.repair reads.1 reads.2

/-- The progress of a confirmed transition on its own units and its own domain. -/
@[ext] structure Progress where
  units : Finset ExecutionUnitId
  mode : Option ModeId
  phase : Option TransitionPhase

/-- The progress contains what the plan changes. -/
structure Progress.Complete (plan : TransitionPlan) (target : ModeId) (progress : Progress) : Prop where
  started : ∀ unit ∈ plan.start, unit ∈ progress.units
  stopped : ∀ unit ∈ plan.stop, unit ∉ plan.start → unit ∉ progress.units
  committed : progress.mode = some target

/-- The account of a confirmed transition. Every path that cannot succeed is excused. -/
def planAccount (model : ValidatedModel) (transition : TransitionSnapshot) (plan : TransitionPlan) :
    Account Progress where
  registered := fun progress => { progress with phase := some transition.phase }
  stored := fun snapshot progress => { progress with phase := some snapshot.phase }
  erases := fun unit _ => unit ∈ plan.stop
  erased := fun unit progress => { progress with units := progress.units.erase unit }
  inserts := fun unit _ => unit ∈ plan.start
  inserted := fun unit progress => { progress with units := insert unit progress.units }
  commits := fun mode _ => mode = transition.targetMode
  committed := fun mode progress => { progress with mode := some mode }
  opens := fun _ => False
  waits := fun _ => False
  replans := fun _ => False
  reads := fun _ _ => False
  finishes := fun progress =>
    progress.phase = some .succeeded → progress.Complete plan transition.targetMode
  excuses := fun work progress => (doomedAccount model transition).Assured work progress.phase

namespace Confirmed
variable {plan : TransitionPlan}
variable {progress : Progress}

/-- The stop loop has stopped the units before the rest. -/
structure Stopping (plan : TransitionPlan) (rest : List ExecutionUnitId) (progress : Progress) :
    Prop where
  unsuccessful : progress.phase ≠ some .succeeded
  progress : ∃ before, plan.stop = before ++ rest ∧ ∀ unit ∈ before, unit ∉ progress.units

/-- The start loop has started the units before the rest. -/
structure Starting (plan : TransitionPlan) (rest : List ExecutionUnitId) (progress : Progress) :
    Prop where
  unsuccessful : progress.phase ≠ some .succeeded
  stopped : ∀ unit ∈ plan.stop, unit ∉ plan.start → unit ∉ progress.units
  progress : ∃ before, plan.start = before ++ rest ∧ ∀ unit ∈ before, unit ∈ progress.units

section
variable (unsuccessful : progress.phase ≠ some .succeeded)
include unsuccessful

theorem failing : (planAccount model transition plan).Excused (Work.failing transition Work.exit) progress :=
  .inl (doomedAccount_recoverable.failing (.inr rfl) unsuccessful)

theorem recovering : (planAccount model transition plan).Excused (Work.recovering model transition) progress :=
  .inl (doomedAccount_recoverable.recovering unsuccessful)

end

/-- A confirmed transition completes its plan or cannot succeed. -/
theorem carries : (planAccount model transition plan).Carries model transition plan
    fun | false => Stopping plan | true => Starting plan where
  records := by
    rintro (_ | _) rest phase progress live held
    · refine ⟨trivial, ⟨?_, held.progress⟩, held⟩
      simpa [planAccount] using TransitionPhase.ne_succeeded live
    · refine ⟨trivial, ⟨?_, held.stopped, held.progress⟩, held⟩
      simpa [planAccount] using TransitionPhase.ne_succeeded live
  leaves := by
    rintro (_ | _) rest progress held
    · exact ⟨recovering held.unsuccessful, failing held.unsuccessful⟩
    · exact ⟨recovering held.unsuccessful, failing held.unsuccessful⟩
  stops := by
    intro unit rest progress stopping
    obtain ⟨before, split, stopped⟩ := stopping.progress
    refine ⟨trivial, by simp [planAccount, split], stopping.unsuccessful, before ++ [unit], by simp [split], ?_⟩
    intro other listed runs
    obtain ⟨different, runs⟩ := Finset.mem_erase.mp runs
    rcases List.mem_append.mp listed with earlier | last
    · exact stopped other earlier runs
    · exact different (List.mem_singleton.mp last)
  turns := by
    intro progress stopping
    obtain ⟨before, split, stopped⟩ := stopping.progress
    rw [List.append_nil] at split
    exact ⟨stopping.unsuccessful, fun unit stops _ => stopped unit (split ▸ stops), [], rfl, by simp⟩
  starts := by
    intro unit rest progress starting
    obtain ⟨before, split, started⟩ := starting.progress
    have member : unit ∈ plan.start := by
      rw [split]
      simp
    refine ⟨trivial, member, starting.unsuccessful, ?_, before ++ [unit], by simp [split], ?_⟩
    · intro other stops outside inserted
      rcases Finset.mem_insert.mp inserted with rfl | runs
      · exact outside member
      · exact starting.stopped other stops outside runs
    · intro other listed
      rcases List.mem_append.mp listed with earlier | last
      · exact Finset.mem_insert_of_mem (started other earlier)
      · rw [List.mem_singleton.mp last]
        exact Finset.mem_insert_self _ _
  commits := by
    intro progress starting
    obtain ⟨before, split, started⟩ := starting.progress
    rw [List.append_nil] at split
    refine ⟨rfl, ?_⟩
    rintro snapshot rfl
    exact ⟨trivial, fun _ => ⟨split ▸ started, starting.stopped, rfl⟩, fun _ => failing starting.unsuccessful⟩

theorem supports : (planAccount model transition plan).Supports (planAccount model transition plan).Excused model
      transition (some plan) op state progress where
  loaded := fun _ _ _ => trivial
  opened := fun _ _ impossible => impossible.elim
  refused := fun impossible => impossible.elim
  confirmed := fun _ _ _ impossible => impossible.elim
  repaired := fun _ _ impossible => impossible.elim

end Confirmed

/-- The stored phase of the transition of a thread. -/
def EngineState.phase (state : EngineState) (position : Position) : Option TransitionPhase :=
  (state.transitions.lookup position.transition.id).map (·.phase)

/-- The progress of a thread on its plan. -/
def EngineState.progress (state : EngineState) (position : Position) (plan : TransitionPlan) : Progress :=
  ⟨state.configuration.runningUnits ∩ (plan.stop ++ plan.start).toFinset,
    state.configuration.committedModes.lookup position.transition.domain, state.phase position⟩

/-- The planned transition of a thread cannot succeed any more. -/
structure Lost (model : ValidatedModel) (position : Position) (state : EngineState) : Prop where
  registered : position.registered = true
  planned : position.plan.isSome = true
  doomed : (doomedAccount model position.transition).Assured position.work (state.phase position)

/-- The plan of a thread that has been confirmed and holds its lease. -/
def Position.confirmed (position : Position) : Option TransitionPlan :=
  if position.leased then
    match position.work with
    | .replanning => none
    | _ => position.plan
  else none

variable {reply : op.Reply} {position later : Position} {mine : TransitionPlan}

section Steps
variable {state other : EngineState} {plan : TransitionPlan}

theorem phase_effect (rule : Rule model position op reply later) (known : position.work ≠ .void)
    (registered : position.registered = true) :
    (doomedAccount model position.transition).after op reply (state.phase position) =
      (effect op reply state).phase position := by
  unfold EngineState.phase
  rw [stored_effect state rule known registered]
  cases op with
  | append event => cases reply <;> rfl
  | _ => rfl

theorem phase_frame (same : SameEntries position.transition.id state other) :
    other.phase position = state.phase position := by
  unfold EngineState.phase
  rw [same.transitions]

/-- A lost transition stays lost. -/
theorem Lost.step (lost : Lost model position state) (owned : Owned model index position state)
    (rule : Rule model position op reply later) (answers : Answers model op reply state) :
    Lost model later (effect op reply state) := by
  obtain ⟨sameTransition, samePlan⟩ := rule_transition rule
  have doomed := lost.doomed.step rule answers doomedAccount_sustains (fun impossible => impossible)
    owned.opens (fun _ _ _ => trivial) fun _ _ => not_false
  rw [phase_effect rule owned.work_ne_void lost.registered] at doomed
  refine ⟨registered_step rule lost.registered, samePlan ▸ lost.planned, ?_⟩
  unfold EngineState.phase at doomed ⊢
  rw [sameTransition]
  exact doomed

theorem Lost.frame (lost : Lost model position state)
    (same : SameEntries position.transition.id state other) : Lost model position other :=
  ⟨lost.registered, lost.planned, phase_frame same ▸ lost.doomed⟩

/-- The account sees what a step of its thread changes. -/
theorem progress_effect (rule : Rule model position op reply later) (known : position.work ≠ .void)
    (registered : position.registered = true) (required : (planAccount model position.transition plan).Requires op
      (state.progress position plan)) :
    (planAccount model position.transition plan).after op reply (state.progress position plan) =
      (effect op reply state).progress position plan := by
  apply Progress.ext
  · show _ = (effect op reply state).configuration.runningUnits ∩ _
    rw [configuration_effect]
    cases op with
    | eraseRunning unit => exact (Finset.erase_inter _ _ _).symm
    | insertRunning unit =>
        have member : unit ∈ plan.start := required
        exact (Finset.insert_inter_of_mem (by simp [member])).symm
    | append event => cases reply <;> rfl
    | _ => rfl
  · show _ = (effect op reply state).configuration.committedModes.lookup _
    rw [configuration_effect]
    cases op with
    | commit domain mode =>
        obtain rfl := rule_commit rule known
        exact (AList.lookup_insert state.configuration.committedModes).symm
    | append event => cases reply <;> rfl
    | _ => rfl
  · refine Eq.trans ?_ (phase_effect rule known registered)
    cases op with
    | append event => cases reply <;> rfl
    | _ => rfl

/-- A confirmed thread changes only what its plan changes. -/
theorem within_effect (rule : Rule model position op reply later) (known : position.work ≠ .void)
    (same : plan.domain = position.transition.domain) {progress : Progress}
    (required : (planAccount model position.transition plan).Requires op progress) :
    Within plan state.configuration (effect op reply state).configuration := by
  rw [configuration_effect]
  cases op with
  | eraseRunning unit =>
      have stops : unit ∈ plan.stop := required
      refine ⟨fun other outside => ?_, fun _ _ => rfl⟩
      have different : other ≠ unit := by
        rintro rfl
        exact outside (List.mem_append_left _ stops)
      simp [configure, different]
  | insertRunning unit =>
      have starts : unit ∈ plan.start := required
      refine ⟨fun other outside => ?_, fun _ _ => rfl⟩
      have different : other ≠ unit := by
        rintro rfl
        exact outside (List.mem_append_right _ starts)
      simp [configure, different]
  | commit domain mode =>
      obtain rfl := rule_commit rule known
      refine ⟨fun _ _ => Iff.rfl, fun other different => ?_⟩
      exact AList.lookup_insert_ne (same ▸ different.symm)
  | _ => exact ⟨fun _ _ => Iff.rfl, fun _ _ => rfl⟩

/-- The progress of a thread survives the changes of another plan. -/
theorem progress_within (same : mine.domain = position.transition.domain)
    (entries : SameEntries position.transition.id state other) (separate : Separate plan mine)
    (within : Within plan state.configuration other.configuration) :
    other.progress position mine = state.progress position mine := by
  apply Progress.ext
  · ext unit
    simp only [EngineState.progress, Finset.mem_inter, List.mem_toFinset]
    refine and_congr_left fun inside => within.units unit fun member => ?_
    exact separate.units unit member inside
  · exact within.modes _ (same ▸ separate.domains)
  · exact phase_frame entries

theorem confirmed_eq_some (owned : Owned model index position state)
    (confirmed : position.confirmed = some plan) : position.leased = true ∧
      position.registered = true ∧ position.work ≠ .replanning ∧ position.plan = some plan := by
  unfold Position.confirmed at confirmed
  split at confirmed
  · rename_i leased
    have registered : position.registered = true := by
      by_contra missing
      rw [owned.unleased (Bool.not_eq_true _ ▸ missing)] at leased
      cases leased
    split at confirmed
    · cases confirmed
    · rename_i other
      exact ⟨leased, registered, fun same => other same, confirmed⟩
  · cases confirmed

theorem confirmed_eq_none (owned : Owned model index position state)
    (idle : position.confirmed = none) : position.leased = false ∨ position.work = .replanning := by
  unfold Position.confirmed at idle
  split at idle
  · rename_i leased
    split at idle
    · rename_i replanning
      exact .inr replanning
    · obtain ⟨plan, _, planned, _⟩ := owned.leased leased
      rw [planned] at idle
      cases idle
  · rename_i free
    exact .inl (Bool.not_eq_true _ ▸ free)

end Steps

/-- The plans of the threads that have been confirmed. -/
def activePlans (count : Nat) (positions : Nat → Position) (index : Nat) : Option TransitionPlan :=
  if index < count then (positions index).confirmed else none

/-- The confirmed transitions will leave the required units running. -/
structure Foreseen (model : ValidatedModel) (state : EngineState) (count : Nat)
    (positions : Nat → Position) : Prop where
  projected : ∃ projected, Projects (activePlans count positions) state.configuration projected ∧
    requiredUnits model projected.committedModes = .ok projected.runningUnits
  assured : ∀ index plan, activePlans count positions index = some plan →
    (planAccount model (positions index).transition plan).Assured (positions index).work
      (state.progress (positions index) plan)

/-- Some transition cannot succeed, or the required units will run. -/
def LostOrForeseen (model : ValidatedModel) (state : EngineState) (count : Nat)
    (positions : Nat → Position) : Prop :=
  (∃ index < count, Lost model (positions index) state) ∨ Foreseen model state count positions

variable {positions : Nat → Position} {pool : EnginePool}

section Active
variable {index other count : Nat} {plan : TransitionPlan}

theorem activePlans_eq_some (found : activePlans count positions index = some plan) :
    index < count ∧ (positions index).confirmed = some plan := by
  unfold activePlans at found
  split at found
  · rename_i inside
    exact ⟨inside, found⟩
  · cases found

theorem activePlans_update (inside : index < count) (later : Position) :
    activePlans count (Function.update positions index later) =
      Function.update (activePlans count positions) index later.confirmed := by
  funext other
  unfold activePlans
  by_cases same : other = index
  · simp [same, inside]
  · simp [same]

variable {first second : TransitionPlan}

/-- The plans of two leased threads are separate. -/
theorem Sound.separate_leased (sound : Sound model pool positions)
    (different : index ≠ other) (one : index < pool.threads.length) (two : other < pool.threads.length)
    (oneLeased : (positions index).leased = true) (twoLeased : (positions other).leased = true)
    (onePlan : (positions index).plan = some first) (twoPlan : (positions other).plan = some second) :
    Separate first second := by
  obtain ⟨_, _, oneFacts, _⟩ := (sound.owned index one).accepted onePlan
  obtain ⟨_, _, twoFacts, _⟩ := (sound.owned other two).accepted twoPlan
  refine ⟨sound.plans_apart one two different oneLeased twoLeased onePlan twoPlan .unit, ?_⟩
  intro same
  apply sound.guarded_apart one two different oneLeased twoLeased
  rw [oneFacts.shape, twoFacts.shape] at same
  have equal : (positions index).transition.domain = (positions other).transition.domain := same
  rw [equal]
  exact mem_guardedDomains_self model _

theorem Sound.separate (sound : Sound model pool positions) (different : index ≠ other)
    (left : activePlans pool.threads.length positions index = some first)
    (right : activePlans pool.threads.length positions other = some second) : Separate first second := by
  obtain ⟨one, left⟩ := activePlans_eq_some left
  obtain ⟨two, right⟩ := activePlans_eq_some right
  obtain ⟨oneLeased, _, _, onePlan⟩ := confirmed_eq_some (sound.owned index one) left
  obtain ⟨twoLeased, _, _, twoPlan⟩ := confirmed_eq_some (sound.owned other two) right
  exact sound.separate_leased different one two oneLeased twoLeased onePlan twoPlan

theorem rule_replanning (rule : Rule model position op reply later) (replanning : position.work = .replanning) :
    ∃ domain target, op = .replan domain target := by
  cases rule with
  | register => cases replanning
  | enterGranted => cases replanning
  | wakeGranted => cases replanning
  | release => cases replanning
  | @move position work next op reply moves =>
      obtain rfl : work = .replanning := replanning
      cases moves with
      | replan => exact ⟨_, _, rfl⟩

variable (sound : Sound model pool positions)
include sound

theorem Sound.pending_replan (inside : index < pool.threads.length) :
    (positions index).work = .replanning ↔ ∃ domain target, pool.pending index = some (.replan domain target) := by
  constructor
  · intro replanning
    cases pending : pool.pending index with
    | none =>
        rw [sound.finished inside pending] at replanning
        cases replanning
    | some op =>
        obtain ⟨reply⟩ := reply_nonempty op
        obtain ⟨_, later, rule⟩ := sound.rule_of_pending pending reply
        obtain ⟨domain, target, rfl⟩ := rule_replanning rule replanning
        exact ⟨domain, target, rfl⟩
  · rintro ⟨domain, target, pending⟩
    obtain ⟨_, later, rule⟩ := sound.rule_of_pending pending (.error {})
    exact (rule_replan rule (sound.owned index inside).work_ne_void).1

/-- The tables of the engine tell the confirmed plans. -/
theorem Sound.confirmedPlan (inside : index < pool.threads.length) :
    confirmedPlan pool index = (positions index).confirmed := by
  have owned := sound.owned index inside
  have replanning := sound.pending_replan inside
  unfold Exec.confirmedPlan Position.confirmed
  cases leased : (positions index).leased with
  | false => simp [owned.free leased]
  | true =>
      obtain ⟨plan, resources, planned, _, held⟩ := owned.leased leased
      have registered : (positions index).registered = true := by
        by_contra missing
        rw [owned.unleased (Bool.not_eq_true _ ▸ missing)] at leased
        cases leased
      rw [held, Option.isSome_some, if_pos rfl, if_pos rfl, owned.plans registered, planned]
      by_cases same : (positions index).work = .replanning
      · obtain ⟨domain, target, pending⟩ := replanning.mp same
        simp only [pending, same]
      · have other : ∀ domain target, pool.pending index ≠ some (.replan domain target) :=
          fun domain target pending => same (replanning.mpr ⟨domain, target, pending⟩)
        split
        · rename_i domain target pending
          exact absurd pending (other domain target)
        · split
          · rename_i equal
            exact absurd equal same
          · rfl

theorem Sound.projects :
    Projects (activePlans pool.threads.length positions) pool.shared.configuration (projectedConfiguration pool) := by
  have listed : (List.range pool.threads.length).filterMap (Exec.confirmedPlan pool) =
      (List.range pool.threads.length).filterMap (activePlans pool.threads.length positions) := by
    refine List.filterMap_congr fun index member => ?_
    have inside := List.mem_range.mp member
    rw [sound.confirmedPlan inside, activePlans, if_pos inside]
  have same : activePlans pool.threads.length positions = fun index =>
      if index < pool.threads.length then activePlans pool.threads.length positions index else none := by
    funext index
    unfold activePlans
    split <;> rfl
  have folded := @Projects.foldl _ pool.shared.configuration
    (fun _ _ _ _ different => sound.separate different) pool.threads.length
  rw [← same, ← listed] at folded
  exact folded

end Active

section Confirm
variable {accepted : TransitionPlan}
variable {replanned : Result TransitionPlan}

theorem confirm_of_confirms (confirmed : confirms accepted replanned = true) :
    Work.confirm model transition accepted replanned = Work.execute model transition accepted := by
  cases replanned with
  | error cause => cases confirmed
  | ok second =>
      have same := of_decide_eq_true confirmed
      simp [Work.confirm, same]

theorem confirm_of_not_confirms (other : confirms accepted replanned = false) :
    Work.confirm model transition accepted replanned = Work.failing transition Work.exit := by
  cases replanned with
  | error cause => rfl
  | ok second =>
      have different := of_decide_eq_false other
      exact if_pos (by tauto)

/-- A projection that confirms a plan needs exactly the units that the plan leaves running. -/
theorem requiredUnits_applySuccess {projected : SystemConfiguration} {domain : DomainId} {target : ModeId}
    (confirmed : confirms accepted (plan model projected domain target) = true)
    (sameDomain : accepted.domain = domain) (sameTarget : accepted.targetMode = target) :
    requiredUnits model (Replay.applySuccess accepted projected).committedModes =
      .ok (Replay.applySuccess accepted projected).runningUnits := by
  cases result : plan model projected domain target with
  | error cause =>
      rw [result] at confirmed
      cases confirmed
  | ok second =>
      rw [result] at confirmed
      obtain ⟨sameStart, sameStop⟩ := of_decide_eq_true confirmed
      obtain ⟨required, facts, _⟩ := buildPlan_eq_ok result
      have units : (Replay.applySuccess accepted projected).runningUnits = required := by
        ext unit
        rw [mem_applySuccess, ← sameStart, ← sameStop, facts.mem_start, facts.mem_stop]
        tauto
      rw [units, ← facts.required, ← sameDomain, ← sameTarget]
      rfl

end Confirm

section Maintained
variable {input : EngineInput} {later : Position}

/-- The permission of the runs whose confirmed transitions are confirmed by the projection. -/
abbrev Projected (model : ValidatedModel) (pool : EnginePool) (choice : EngineChoice) : Prop :=
  confirmsProjected model pool choice = true

variable {other : Nat}

/-- A lost transition stays lost in every step. -/
theorem Sound.lost_step (sound : Sound model pool positions)
    (step : ThreadStep model (Projected model) pool positions index input op reply later)
    (inside : other < pool.threads.length) (lost : Lost model (positions other) pool.shared) :
    Lost model (Function.update positions index later other) (effect op reply pool.shared) := by
  have owned := sound.owned index step.inside
  by_cases same : other = index
  · obtain rfl := same
    rw [Function.update_self]
    exact lost.step owned step.rule step.answers
  · rw [Function.update_of_ne same]
    apply lost.frame
    apply owned.others step.rule
    rw [(sound.owned other inside).id]
    exact fun equal => same (Nat.succ.inj equal)

/-- The step of an unconfirmed thread changes nothing that is foreseen. -/
theorem Foreseen.idle (sound : Sound model pool positions)
    (step : ThreadStep model (Projected model) pool positions index input op reply later)
    (foreseen : Foreseen model pool.shared pool.threads.length positions)
    (idle : (positions index).confirmed = none) (still : later.confirmed = none)
    (unchanged : (effect op reply pool.shared).configuration = pool.shared.configuration) :
    Foreseen model (effect op reply pool.shared) pool.threads.length (Function.update positions index later) := by
  have owned := sound.owned index step.inside
  have same : activePlans pool.threads.length (Function.update positions index later) =
      activePlans pool.threads.length positions := by
    rw [activePlans_update step.inside, still, ← idle]
    funext other
    by_cases own : other = index
    · simp [own, activePlans, step.inside]
    · simp [own]
  refine ⟨?_, ?_⟩
  · rw [same, unchanged]
    exact foreseen.projected
  · rw [same]
    intro other plan found
    obtain ⟨inside, confirmed⟩ := activePlans_eq_some found
    have different : other ≠ index := by
      rintro rfl
      rw [idle] at confirmed
      cases confirmed
    rw [Function.update_of_ne different]
    have apart : (positions other).transition.id ≠ index + 1 := by
      rw [(sound.owned other inside).id]
      exact fun equal => different (Nat.succ.inj equal)
    have entries := owned.others step.rule apart
    have progress : (effect op reply pool.shared).progress (positions other) plan =
        pool.shared.progress (positions other) plan := by
      unfold EngineState.progress
      rw [unchanged, phase_frame entries]
    rw [progress]
    exact foreseen.assured other plan found

variable {plan : TransitionPlan}

/-- The step of a confirmed thread keeps the progress of every other confirmed thread. -/
theorem Foreseen.others (sound : Sound model pool positions)
    (step : ThreadStep model (Projected model) pool positions index input op reply later)
    (foreseen : Foreseen model pool.shared pool.threads.length positions)
    (found : activePlans pool.threads.length positions index = some plan)
    (within : Within plan pool.shared.configuration (effect op reply pool.shared).configuration)
    (different : other ≠ index) (known : activePlans pool.threads.length positions other = some mine) :
    (planAccount model (positions other).transition mine).Assured (positions other).work
      ((effect op reply pool.shared).progress (positions other) mine) := by
  have owned := sound.owned index step.inside
  obtain ⟨inside, confirmed⟩ := activePlans_eq_some known
  have otherOwned := sound.owned other inside
  obtain ⟨_, _, _, planned⟩ := confirmed_eq_some otherOwned confirmed
  obtain ⟨_, _, facts, _⟩ := otherOwned.accepted planned
  have apart : (positions other).transition.id ≠ index + 1 := by
    rw [otherOwned.id]
    exact fun equal => different (Nat.succ.inj equal)
  have entries := owned.others step.rule apart
  rw [progress_within (by rw [facts.shape]) entries (sound.separate different.symm found known) within]
  exact foreseen.assured other mine known

/-- What a confirmed thread has recorded decides whether its plan is done. -/
theorem done_of_complete {position : Position}
    (same : plan.domain = position.transition.domain) (target : plan.targetMode = position.transition.targetMode)
    (complete : (state.progress position plan).Complete plan position.transition.targetMode) :
    Done plan state.configuration where
  started := fun unit starts => (Finset.mem_inter.mp (complete.started unit starts)).1
  stopped := fun unit stops outside runs => complete.stopped unit stops outside
    (Finset.mem_inter.mpr ⟨runs, by simp [stops]⟩)
  committed := by
    rw [same, target]
    exact complete.committed

/-- The step of a confirmed thread keeps what is foreseen, or the transition is lost. -/
theorem Foreseen.active (sound : Sound model pool positions)
    (step : ThreadStep model (Projected model) pool positions index input op reply later)
    (foreseen : Foreseen model pool.shared pool.threads.length positions)
    (confirmed : (positions index).confirmed = some plan) :
    LostOrForeseen model (effect op reply pool.shared) pool.threads.length (Function.update positions index later) := by
  have owned := sound.owned index step.inside
  obtain ⟨leased, registered, _, planned⟩ := confirmed_eq_some owned confirmed
  obtain ⟨_, _, facts, _⟩ := owned.accepted planned
  have sameDomain : plan.domain = (positions index).transition.domain := by rw [facts.shape]
  have sameTarget : plan.targetMode = (positions index).transition.targetMode := by rw [facts.shape]
  have found : activePlans pool.threads.length positions index = some plan := by
    rw [activePlans, if_pos step.inside, confirmed]
  have assured := foreseen.assured index plan found
  have within : Within plan pool.shared.configuration
      (effect op reply pool.shared).configuration :=
    within_effect step.rule owned.work_ne_void sameDomain (assured.requires step.rule)
  obtain ⟨sameTransition, samePlan⟩ := rule_transition step.rule
  have lost (doomed : (doomedAccount model (positions index).transition).Assured later.work
      ((effect op reply pool.shared).phase (positions index))) :
      LostOrForeseen model (effect op reply pool.shared) pool.threads.length
        (Function.update positions index later) := by
    refine .inl ⟨index, step.inside, ?_⟩
    rw [Function.update_self]
    refine ⟨registered_step step.rule registered, by rw [samePlan, planned]; rfl, ?_⟩
    unfold EngineState.phase at doomed ⊢
    rw [sameTransition]
    exact doomed
  have moved := assured.advance step.rule step.answers (planned ▸ Confirmed.supports)
    (fun impossible => impossible) owned.opens
    ⟨fun _ _ kept => .inr kept, fun _ _ _ excused => .inl excused, fun _ _ _ => trivial⟩
  rw [progress_effect step.rule owned.work_ne_void registered (assured.requires step.rule)] at moved
  rcases moved with doomed | moved
  · exact lost doomed
  have progress : (effect op reply pool.shared).progress later plan =
      (effect op reply pool.shared).progress (positions index) plan := by
    unfold EngineState.progress EngineState.phase
    rw [sameTransition]
  obtain ⟨projected, projects, required⟩ := foreseen.projected
  have kept := projects.within found within
  rcases leased_step step.rule leased with held | ⟨free, finished⟩
  · have still : later.confirmed = some plan := by
      unfold Position.confirmed
      rw [held, if_pos rfl, samePlan, planned]
      split
      · rename_i replanning
        rw [replanning] at moved
        exact moved.elim
      · rfl
    have same : activePlans pool.threads.length (Function.update positions index later) =
        activePlans pool.threads.length positions := by
      rw [activePlans_update step.inside, still, ← found, Function.update_eq_self]
    refine .inr ⟨⟨projected, same ▸ kept, required⟩, ?_⟩
    rw [same]
    intro other mine known
    by_cases own : other = index
    · obtain rfl := own
      obtain rfl := Option.some.inj (known.symm.trans found)
      rw [Function.update_self, sameTransition, progress]
      exact moved
    · rw [Function.update_of_ne own]
      exact foreseen.others sound step found within own known
  · rw [finished] at moved
    by_cases succeeded : (effect op reply pool.shared).phase (positions index) = some .succeeded
    · have done := done_of_complete sameDomain sameTarget (moved succeeded)
      have gone : later.confirmed = none := by
        unfold Position.confirmed
        rw [free, if_neg (by simp)]
      have same : activePlans pool.threads.length (Function.update positions index later) =
          Function.update (activePlans pool.threads.length positions) index none := by
        rw [activePlans_update step.inside, gone]
      refine .inr ⟨⟨projected, ?_, required⟩, ?_⟩
      · rw [same]
        exact kept.finish found (fun other second different known =>
          (sound.separate different known found)) done
      · rw [same]
        intro other mine known
        have own : other ≠ index := by
          rintro rfl
          simp at known
        rw [Function.update_of_ne own] at known ⊢
        exact foreseen.others sound step found within own known
    · refine lost ?_
      rw [finished]
      exact succeeded

/-- A replanning thread is confirmed, or its transition is lost. -/
theorem Foreseen.confirm (sound : Sound model pool positions)
    (step : ThreadStep model (Projected model) pool positions index input op reply later)
    (foreseen : Foreseen model pool.shared pool.threads.length positions)
    (replanning : (positions index).work = .replanning) (leased : (positions index).leased = true) :
    LostOrForeseen model (effect op reply pool.shared) pool.threads.length (Function.update positions index later) := by
  have owned := sound.owned index step.inside
  obtain ⟨domain, target, rfl⟩ := rule_replanning step.rule replanning
  obtain ⟨_, rfl, rfl⟩ := rule_replan step.rule owned.work_ne_void
  obtain ⟨accepted, _, planned, _, _⟩ := owned.leased leased
  have registered := owned.registered_of_rule step.rule (by simp)
  obtain ⟨_, _, facts, _⟩ := owned.accepted planned
  have sameDomain : accepted.domain = (positions index).transition.domain := by rw [facts.shape]
  have sameTarget : accepted.targetMode = (positions index).transition.targetMode := by rw [facts.shape]
  have unsuccessful : pool.shared.phase (positions index) ≠ some .succeeded := by
    have stored := owned.work
    rw [replanning, ← owned.id] at stored
    unfold EngineState.phase
    rw [show pool.shared.transitions.lookup (positions index).transition.id =
      some { (positions index).transition with phase := .planned } from stored]
    simp
  have answers : reply = plan model pool.shared.configuration (positions index).transition.domain
      (positions index).transition.targetMode := step.answers
  obtain rfl := rule_confirm step.rule owned.work_ne_void planned
  cases confirmed : confirms accepted reply with
  | false =>
      refine .inl ⟨index, step.inside, ?_⟩
      rw [Function.update_self, confirm_of_not_confirms confirmed]
      refine ⟨registered, Option.isSome_of_eq_some planned, ?_⟩
      exact doomedAccount_recoverable.failing (.inr rfl) unsuccessful
  | true =>
      have again : confirms accepted (plan model (projectedConfiguration pool)
          (positions index).transition.domain (positions index).transition.targetMode) = true := by
        have permitted : confirmsProjected model pool (.thread index input) = true := step.permitted
        have known : pool.shared.plans.lookup (index + 1) = some accepted := (owned.plans registered).trans planned
        simp only [confirmsProjected, step.pending, known] at permitted
        rw [← answers, confirmed] at permitted
        simpa using permitted
      have idle : activePlans pool.threads.length positions index = none := by
        simp [activePlans, Position.confirmed, replanning]
      have assured : (planAccount model (positions index).transition accepted).Assured
          (Work.execute model (positions index).transition accepted)
          (pool.shared.progress (positions index) accepted) :=
        Confirmed.carries.execute ⟨unsuccessful, [], rfl, by simp⟩
      rw [confirm_of_confirms confirmed]
      have now : ((positions index).go (Work.execute model (positions index).transition
          accepted)).confirmed = some accepted := by
        unfold Position.confirmed
        rw [Position.go_leased, leased, if_pos rfl, Position.go_plan, planned]
        split
        · rename_i same
          rw [show Work.execute model (positions index).transition accepted = .replanning from same]
            at assured
          exact assured.elim
        · rfl
      have same : activePlans pool.threads.length (Function.update positions index
          ((positions index).go (Work.execute model (positions index).transition accepted))) =
          Function.update (activePlans pool.threads.length positions) index (some accepted) := by
        rw [activePlans_update step.inside, now]
      refine .inr ⟨⟨Replay.applySuccess accepted (projectedConfiguration pool), ?_,
        requiredUnits_applySuccess again sameDomain sameTarget⟩, ?_⟩
      · rw [same]
        refine sound.projects.activate idle fun other second known => ?_
        have different : other ≠ index := by
          rintro rfl
          rw [idle] at known
          cases known
        obtain ⟨inside, confirmed⟩ := activePlans_eq_some known
        obtain ⟨otherLeased, _, _, otherPlan⟩ := confirmed_eq_some (sound.owned other inside) confirmed
        exact sound.separate_leased different inside step.inside otherLeased leased otherPlan planned
      · rw [same]
        intro other mine known
        by_cases own : other = index
        · obtain rfl := own
          rw [Function.update_self] at known ⊢
          obtain rfl := Option.some.inj known
          exact assured
        · rw [Function.update_of_ne own] at known ⊢
          exact foreseen.assured other mine known

theorem confirmed_unleased (rule : Rule model (positions index) op reply later)
    (free : (positions index).leased = false) : later.confirmed = none := by
  generalize positions index = position at rule free
  unfold Position.confirmed
  cases rule with
  | register transition plan leased next =>
      obtain rfl : leased = false := free
      rfl
  | enterGranted => rfl
  | wakeGranted => rfl
  | release => rfl
  | move position moves =>
      have free : position.leased = false := free
      simp [free]

/-- A thread without a lease does not change the configuration. -/
theorem configuration_unleased (owned : Owned model index (positions index) state)
    (rule : Rule model (positions index) op reply later) (free : (positions index).leased = false) :
    (effect op reply state).configuration = state.configuration := by
  have required := (owned.idle free).requires rule
  rw [configuration_effect]
  cases op with
  | eraseRunning unit => exact required.elim
  | insertRunning unit => exact required.elim
  | commit domain mode => exact required.elim
  | _ => rfl

theorem foreseen_maintained (model : ValidatedModel) :
    Maintains model (Projected model) (LostOrForeseen model) (fun _ _ _ => True) where
  step := by
    intro pool positions index input op reply later sound holds step
    have owned := sound.owned index step.inside
    refine ⟨?_, trivial, fun _ _ _ => trivial⟩
    rcases holds.common with ⟨other, inside, lost⟩ | foreseen
    · exact .inl ⟨other, inside, sound.lost_step step inside lost⟩
    · cases confirmed : (positions index).confirmed with
      | some plan => exact foreseen.active sound step confirmed
      | none =>
          cases leased : (positions index).leased with
          | false => exact .inr (foreseen.idle sound step confirmed (confirmed_unleased step.rule leased)
              (configuration_unleased owned step.rule leased))
          | true =>
              have replanning := (confirmed_eq_none owned confirmed).resolve_left (by simp [leased])
              exact foreseen.confirm sound step replanning leased
  cancel := by
    intro pool positions id state sound holds _ cancelled
    obtain ⟨_, _, _, _, _, rfl⟩ := cancel_eq_ok cancelled
    refine ⟨?_, fun _ _ => trivial⟩
    rcases holds.common with ⟨other, inside, lost⟩ | foreseen
    · exact .inl ⟨other, inside, lost.registered, lost.planned, lost.doomed⟩
    · exact .inr ⟨foreseen.projected, foreseen.assured⟩
  request := by
    intro pool positions baseline domain target sound holds _
    refine ⟨?_, fun _ _ => trivial⟩
    have others (index : Nat) (inside : index < pool.threads.length) : Function.update positions
        pool.threads.length (opened model (pool.threads.length + 1) baseline domain target) index =
          positions index := Function.update_of_ne (Nat.ne_of_lt inside) _ _
    rcases holds.common with ⟨other, inside, lost⟩ | foreseen
    · refine .inl ⟨other, by omega, ?_⟩
      rw [others other inside]
      exact ⟨lost.registered, lost.planned, lost.doomed⟩
    · have same : activePlans (pool.threads.length + 1) (Function.update positions pool.threads.length
          (opened model (pool.threads.length + 1) baseline domain target)) =
            activePlans pool.threads.length positions := by
        funext index
        unfold activePlans
        by_cases inside : index < pool.threads.length
        · rw [if_pos inside, if_pos (by omega), others index inside]
        · rw [if_neg inside]
          split
          · obtain rfl : index = pool.threads.length := by omega
            rw [Function.update_self]
            rfl
          · rfl
      refine .inr ⟨same ▸ foreseen.projected, ?_⟩
      rw [same]
      intro index plan found
      rw [others index (activePlans_eq_some found).1]
      exact foreseen.assured index plan found

end Maintained

/-- The running units are the required units when every planned transition has succeeded. -/
theorem running_required (model : ValidatedModel) (initial : SystemConfiguration)
    (found : initialConfiguration model = .ok initial) (pool : EnginePool)
    (reached : (machine model).Reaches (fun pool choice => confirmsProjected model pool choice = true)
      (created initial) pool) (returned : pool.Quiet)
    (succeeded : ∀ id plan snapshot, pool.shared.plans.lookup id = some plan →
      pool.shared.transitions.lookup id = some snapshot → snapshot.phase = .succeeded) :
    requiredUnits model pool.shared.configuration.committedModes = .ok pool.shared.configuration.runningUnits ∧
      ∀ unit ∈ pool.shared.configuration.runningUnits, ∃ definition, model.findUnit unit = some definition ∧
          ∀ dependency ∈ definition.dependencies, dependency ∈ pool.shared.configuration.runningUnits := by
  obtain ⟨_, modes, required⟩ := initialConfiguration_eq_ok found
  obtain ⟨positions, sound, holds⟩ := (foreseen_maintained model).fromCreated
    (fun positions => .inr ⟨⟨initial, Projects.none fun index => by simp [activePlans], modes ▸ required⟩,
      fun index plan known => by simp [activePlans] at known⟩) reached
  have phase {index : Nat} (inside : index < pool.threads.length)
      (registered : (positions index).registered = true)
      (planned : (positions index).plan.isSome = true) :
      pool.shared.phase (positions index) = some .succeeded := by
    have owned := sound.owned index inside
    obtain ⟨snapshot, stored, _⟩ := owned.stored registered
    obtain ⟨plan, planned⟩ := Option.isSome_iff_exists.mp planned
    have ended := succeeded (index + 1) plan snapshot ((owned.plans registered).trans planned) stored
    unfold EngineState.phase
    rw [owned.id, stored, ← ended]
    rfl
  rcases holds.common with ⟨index, inside, lost⟩ | foreseen
  · have doomed := lost.doomed
    rw [sound.finished inside (returned index)] at doomed
    exact absurd (phase inside lost.registered lost.planned) doomed
  · obtain ⟨projected, projects, needed⟩ := foreseen.projected
    obtain ⟨units, selected⟩ := projects.settle fun index plan active => by
      obtain ⟨inside, confirmed⟩ := activePlans_eq_some active
      have owned := sound.owned index inside
      obtain ⟨_, registered, _, planned⟩ := confirmed_eq_some owned confirmed
      obtain ⟨_, _, facts, _⟩ := owned.accepted planned
      have assured := foreseen.assured index plan active
      rw [sound.finished inside (returned index)] at assured
      exact done_of_complete (by rw [facts.shape]) (by rw [facts.shape])
        (assured (phase inside registered (Option.isSome_of_eq_some planned)))
    have running : requiredUnits model pool.shared.configuration.committedModes =
        .ok pool.shared.configuration.runningUnits := by
      rw [requiredUnits_congr selected, needed, units]
    exact ⟨running, requiredUnits_closed running⟩

/-- Two domains share one unit. -/
def sharedModes : ValidatedModel where
  value := {
    generation := 1
    units := [{ id := 1, name := "camera" }, { id := 2, name := "bus" }, { id := 3, name := "radar" }]
    domains := [
      { id := 1, name := "vision", initialMode := 2,
        modes := [{ id := 1, name := "off" }, { id := 2, name := "on", units := [1, 2] }] },
      { id := 2, name := "ranging", initialMode := 1,
        modes := [{ id := 1, name := "off" }, { id := 2, name := "on", units := [2, 3] }] }] }
  valid := by decide +kernel

/-- Every planned transition of the engine has succeeded. -/
def allSucceeded (state : EngineState) : Bool :=
  state.plans.entries.all fun entry =>
    (state.transitions.lookup entry.1).all fun snapshot => snapshot.phase == .succeeded

theorem succeeded_of_allSucceeded (checked : allSucceeded state = true)
    (id : TransitionId) (plan : TransitionPlan) (snapshot : TransitionSnapshot)
    (planned : state.plans.lookup id = some plan)
    (stored : state.transitions.lookup id = some snapshot) : snapshot.phase = .succeeded := by
  have entry := List.all_eq_true.mp checked ⟨id, plan⟩ (AList.mem_lookup_iff.mp planned)
  simp only [stored, Option.all_some] at entry
  exact eq_of_beq entry

/-- The radar starts and then the camera stops, and the bus keeps running. -/
theorem running_required_ordered : ∃ pool : EnginePool,
    (machine sharedModes).Reaches (fun pool choice => confirmsProjected sharedModes pool choice = true)
      (created ⟨1, initialModes sharedModes, [1, 2].toFinset⟩) pool ∧
    pool.shared.plans.entries.length = 2 ∧ pool.shared.configuration.runningUnits = [2, 3].toFinset ∧
    requiredUnits sharedModes pool.shared.configuration.committedModes =
      .ok pool.shared.configuration.runningUnits := by
  obtain ⟨pool, reached, quiet, succeeded, planned, running⟩ := exists_run sharedModes
    ⟨1, initialModes sharedModes, [1, 2].toFinset⟩ (confirmsProjected sharedModes)
    (fun _ _ checked => checked)
    ([requestMode 2 2] ++ List.replicate 28 (advance 0) ++ [requestMode 1 1] ++ List.replicate 24 (advance 1))
    (fun pool => isQuiet pool = true ∧ allSucceeded pool.shared = true ∧
      pool.shared.plans.entries.length = 2 ∧ pool.shared.configuration.runningUnits = [2, 3].toFinset)
    (by decide +kernel)
  have required := running_required sharedModes _ rfl pool reached (quiet_of_isQuiet quiet)
    (succeeded_of_allSucceeded succeeded)
  exact ⟨pool, reached, planned, running, required.1⟩

/-- The bus stops with the camera although the radar, which starts meanwhile, needs it. -/
theorem running_unrequired : initialConfiguration sharedModes = .ok ⟨1, initialModes sharedModes, [1, 2].toFinset⟩ ∧
    ¬ ∀ pool : EnginePool, (machine sharedModes).Reaches (fun pool choice => isFavourable pool choice = true)
        (created ⟨1, initialModes sharedModes, [1, 2].toFinset⟩) pool → pool.Quiet →
      (∀ id plan snapshot, pool.shared.plans.lookup id = some plan →
        pool.shared.transitions.lookup id = some snapshot → snapshot.phase = .succeeded) →
      requiredUnits sharedModes pool.shared.configuration.committedModes =
        .ok pool.shared.configuration.runningUnits := by
  refine ⟨rfl, fun required => ?_⟩
  obtain ⟨pool, reached, quiet, succeeded, differs⟩ := exists_run sharedModes
    ⟨1, initialModes sharedModes, [1, 2].toFinset⟩ isFavourable (fun _ _ checked => checked)
    ([requestMode 1 1, requestMode 2 2] ++ List.replicate 10 (advance 0) ++
      List.replicate 28 (advance 1) ++ List.replicate 17 (advance 0))
    (fun pool => isQuiet pool = true ∧ allSucceeded pool.shared = true ∧
      (requiredUnits sharedModes pool.shared.configuration.committedModes).toOption ≠
        some pool.shared.configuration.runningUnits) (by decide +kernel)
  refine differs ?_
  rw [required pool reached (quiet_of_isQuiet quiet) (succeeded_of_allSucceeded succeeded)]
  rfl

end OpenVehicle.Exec
