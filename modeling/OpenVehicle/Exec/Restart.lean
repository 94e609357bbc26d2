/-
This file compares the configuration of the engine with the one that a restart replays.
The two agree after a sequential run if the journal reports every change of a failed transition.
-/

import OpenVehicle.Exec.CommittedModes
import OpenVehicle.Exec.History
import OpenVehicle.Exec.Sequential

namespace OpenVehicle.Exec

open Concurrency FiniteMap ExecutionEngine TransitionPlanner

/-- The units that the recovery of a transition has stopped. -/
def recoveryStopped (transition : TransitionSnapshot) : List ExecutionUnitId :=
  transition.failure.elim [] (·.recoveryStoppedApplications)

/-- The units that the recovery of a transition has started. -/
def recoveryStarted (transition : TransitionSnapshot) : List ExecutionUnitId :=
  transition.failure.elim [] (·.recoveryStartedApplications)

/-- A failed transition reports each unit of its plan that does not run as before. -/
def Reported (plan : Option TransitionPlan) (transition : TransitionSnapshot)
    (running : Finset ExecutionUnitId) : Prop :=
  transition.phase.isTerminal = true → transition.phase ≠ .succeeded →
    (∀ unit ∈ plan.elim [] (·.stop), unit ∉ running → unit ∈ recoveryStopped transition) ∧
    (∀ unit ∈ plan.elim [] (·.start), unit ∈ running → unit ∈ recoveryStarted transition)

instance (plan : Option TransitionPlan) (transition : TransitionSnapshot)
    (running : Finset ExecutionUnitId) : Decidable (Reported plan transition running) :=
  inferInstanceAs (Decidable (_ → _ → _ ∧ _))

/-- The event that a thread appends reports the changes of its transition. -/
def reportsChanges (pool : EnginePool) : EngineChoice → Bool
  | .thread index _ =>
      match pool.pending index with
      | some (.append event) =>
          decide (Reported event.plan event.transition pool.shared.configuration.runningUnits)
      | _ => true
  | .event _ => true

/-- A request names a mode of the model. -/
def requestsKnown (model : ValidatedModel) : EngineChoice → Bool
  | .event (.request _ domain target) => (model.findMode ⟨domain, target⟩).isSome
  | _ => true

/-- The runs that a restart repeats. -/
structure Repeatable (model : ValidatedModel) (pool : EnginePool) (choice : EngineChoice) : Prop where
  sequential : Sequential pool choice
  works : journalWorks choice = true
  known : requestsKnown model choice = true
  reports : reportsChanges pool choice = true

/-- Two configurations select the same modes and run the same units. -/
structure Agrees (first second : SystemConfiguration) : Prop where
  modes : ∀ domain, first.committedModes.lookup domain = second.committedModes.lookup domain
  units : first.runningUnits = second.runningUnits

/-- The configuration of the engine and the one of its journal. -/
structure Twin where
  live : SystemConfiguration
  replayed : SystemConfiguration
  reported : Prop

variable {stopped started : List ExecutionUnitId} {mode : Option ModeId} {phase : TransitionPhase}

section Replayed

variable {transition snapshot : TransitionSnapshot}
variable {generation : ModelGeneration} {plan : Option TransitionPlan}

/-- The recovered mode is committed. -/
def recoveredModes (domain : DomainId) (mode : Option ModeId) (modes : Map DomainId ModeId) :
    Map DomainId ModeId :=
  match mode with
  | none => modes
  | some mode => modes.insert domain mode

/-- A failed transition changes the replayed configuration by its report. -/
theorem configurationAfter_ended (ended : Work.Ended transition phase stopped started mode snapshot)
    (other : phase ≠ .succeeded) (configuration : SystemConfiguration) :
    Replay.configurationAfter ⟨snapshot, generation, plan⟩ configuration = { configuration with
        committedModes := recoveredModes transition.domain mode configuration.committedModes
        runningUnits := started.foldl (fun running unit => insert unit running)
          (stopped.foldl Finset.erase configuration.runningUnits) } := by
  obtain ⟨failure, ⟨rfl, rfl, rfl⟩, rfl⟩ := ended
  unfold Replay.configurationAfter
  rw [if_neg other]
  rfl

/-- A recorded phase changes nothing. -/
theorem configurationAfter_recorded (unfailed : transition.failure = none) (other : phase ≠ .succeeded)
    (configuration : SystemConfiguration) :
    Replay.configurationAfter ⟨{ transition with phase := phase }, generation, plan⟩ configuration =
      configuration := by
  unfold Replay.configurationAfter Replay.reportedConfiguration
  rw [if_neg other]
  simp only [unfailed]

theorem configurationAfter_succeeded (unfailed : transition.failure = none) {accepted : TransitionPlan}
    (configuration : SystemConfiguration) :
    Replay.configurationAfter ⟨{ transition with phase := .succeeded }, generation, some accepted⟩
      configuration = Replay.applySuccess accepted configuration := by
  unfold Replay.configurationAfter Replay.reportedConfiguration
  rw [if_pos rfl]
  simp only [unfailed]

end Replayed

/-- What an unfinished transition and its recovery have changed so far. -/
structure Repairing (plan : TransitionPlan) (domain : DomainId) (mode : Option ModeId)
    (stopped started : List ExecutionUnitId) (twin : Twin) : Prop where
  modes : ∀ other, twin.live.committedModes.lookup other =
    (recoveredModes domain mode twin.replayed.committedModes).lookup other
  stops : ∀ unit ∈ plan.stop, unit ∈ twin.replayed.runningUnits
  starts : ∀ unit ∈ plan.start, unit ∉ twin.replayed.runningUnits
  outside : ∀ unit, unit ∉ plan.stop → unit ∉ plan.start → (unit ∈ twin.live.runningUnits ↔
    unit ∈ twin.replayed.runningUnits ∧ unit ∉ stopped ∨ unit ∈ started)
  running : ∀ unit ∈ started, unit ∈ twin.live.runningUnits
  restarted : ∀ unit ∈ stopped, unit ∈ twin.live.runningUnits → unit ∈ started

variable {unit : ExecutionUnitId} {plan : TransitionPlan}

section Repairing
variable {domain : DomainId}
variable {twin : Twin}

theorem Repairing.erase (repairing : Repairing plan domain mode stopped [] twin) :
    Repairing plan domain mode (stopped ++ [unit]) [] { twin with
      live := { twin.live with runningUnits := twin.live.runningUnits.erase unit } } where
  modes := repairing.modes
  stops := repairing.stops
  starts := repairing.starts
  outside := by
    intro other notStopped notStarted
    have before := repairing.outside other notStopped notStarted
    simp only [Finset.mem_erase, List.mem_append, List.mem_singleton, List.not_mem_nil, or_false]
      at before ⊢
    tauto
  running := by simp
  restarted := by
    intro other member runs
    rw [Finset.mem_erase] at runs
    rcases List.mem_append.mp member with earlier | last
    · exact repairing.restarted other earlier runs.2
    · exact absurd (List.mem_singleton.mp last) runs.1

theorem Repairing.insert (repairing : Repairing plan domain mode stopped started twin) :
    Repairing plan domain mode stopped (started ++ [unit]) { twin with
      live := { twin.live with runningUnits := insert unit twin.live.runningUnits } } where
  modes := repairing.modes
  stops := repairing.stops
  starts := repairing.starts
  outside := by
    intro other notStopped notStarted
    have before := repairing.outside other notStopped notStarted
    simp only [Finset.mem_insert, List.mem_append, List.mem_singleton]
    tauto
  running := by
    intro other member
    rw [Finset.mem_insert]
    rcases List.mem_append.mp member with earlier | last
    · exact .inr (repairing.running other earlier)
    · exact .inl (List.mem_singleton.mp last)
  restarted := by
    intro other member runs
    rw [List.mem_append, List.mem_singleton]
    rcases Finset.mem_insert.mp runs with last | before
    · exact .inr last
    · exact .inl (repairing.restarted other member before)

theorem Repairing.commit {fallback : ModeId} (repairing : Repairing plan domain none stopped started twin) :
    Repairing plan domain (some fallback) stopped started { twin with live := { twin.live with
      committedModes := twin.live.committedModes.insert domain fallback } } where
  modes := by
    intro other
    show (twin.live.committedModes.insert domain fallback).lookup other =
      (twin.replayed.committedModes.insert domain fallback).lookup other
    by_cases same : other = domain
    · rw [same, AList.lookup_insert, AList.lookup_insert]
    · rw [AList.lookup_insert_ne same, AList.lookup_insert_ne same]
      exact repairing.modes other
  stops := repairing.stops
  starts := repairing.starts
  outside := repairing.outside
  running := repairing.running
  restarted := repairing.restarted

/-- A complete report describes the running units. -/
theorem Repairing.agrees (repairing : Repairing plan domain mode stopped started twin)
    (down : ∀ unit ∈ plan.stop, unit ∉ twin.live.runningUnits → unit ∈ stopped)
    (up : ∀ unit ∈ plan.start, unit ∈ twin.live.runningUnits → unit ∈ started) : Agrees twin.live { twin.replayed with
      committedModes := recoveredModes domain mode twin.replayed.committedModes
      runningUnits := started.foldl (fun running unit => Insert.insert unit running)
        (stopped.foldl Finset.erase twin.replayed.runningUnits) } := by
  refine ⟨repairing.modes, ?_⟩
  ext unit
  show unit ∈ twin.live.runningUnits ↔ _
  rw [mem_foldl_insert, mem_foldl_erase]
  have running := repairing.running unit
  have restarted := repairing.restarted unit
  by_cases stops : unit ∈ plan.stop
  · have before := repairing.stops unit stops
    have reported := down unit stops
    tauto
  · by_cases starts : unit ∈ plan.start
    · have before := repairing.starts unit starts
      have reported := up unit starts
      tauto
    · exact repairing.outside unit stops starts

/-- The plan of a transition stops units that run in the journal and starts other ones. -/
structure Executing (plan : TransitionPlan) (twin : Twin) : Prop where
  modes : ∀ other, twin.live.committedModes.lookup other = twin.replayed.committedModes.lookup other
  stops : ∀ unit ∈ plan.stop, unit ∈ twin.replayed.runningUnits
  starts : ∀ unit ∈ plan.start, unit ∉ twin.replayed.runningUnits

theorem Executing.repairing (executing : Executing plan twin) (outside : ∀ unit, unit ∉ plan.stop → unit ∉ plan.start →
      (unit ∈ twin.live.runningUnits ↔ unit ∈ twin.replayed.runningUnits)) : Repairing plan domain none [] [] twin where
  modes := executing.modes
  stops := executing.stops
  starts := executing.starts
  outside := by
    intro unit notStopped notStarted
    rw [outside unit notStopped notStarted]
    simp
  running := by simp
  restarted := by simp

end Repairing

/-- The account of the two configurations. -/
def twinAccount (model : ValidatedModel) (position : Position) : Account Twin where
  loads := fun event => event.generation = model.value.generation ∧ event.plan = position.plan
  appended := fun snapshot twin => { twin with
    replayed := Replay.configurationAfter ⟨snapshot, model.value.generation, position.plan⟩ twin.replayed
    reported := twin.reported ∧ Reported position.plan snapshot twin.live.runningUnits }
  mayFail := fun _ _ => False
  erased := fun unit twin => { twin with
    live := { twin.live with runningUnits := twin.live.runningUnits.erase unit } }
  inserts := fun unit _ => (model.findUnit unit).isSome
  inserted := fun unit twin => { twin with
    live := { twin.live with runningUnits := insert unit twin.live.runningUnits } }
  commits := fun mode _ => (model.findMode ⟨position.transition.domain, mode⟩).isSome
  committed := fun mode twin => { twin with live := { twin.live with
    committedModes := twin.live.committedModes.insert position.transition.domain mode } }
  opens := fun twin => Agrees twin.live twin.replayed
  waits := fun twin => Agrees twin.live twin.replayed
  replans := fun twin => Agrees twin.live twin.replayed
  reads := fun domain twin => model.findDomain position.transition.domain = some domain ∧
    ∃ plan, position.plan = some plan ∧
      Repairing plan position.transition.domain none [] [] twin
  finishes := fun twin => twin.reported → Agrees twin.live twin.replayed

variable {domain : DomainDefinition} {model : ValidatedModel} {state : EngineState} {op : EngineOp}

namespace Restart
variable {position : Position} {twin : Twin} {after : Work}

/-- The last event of a transition leaves two configurations that agree. -/
theorem ended {snapshot : TransitionSnapshot} (ends : after = .finished ∨ after = .releasing)
    (agrees : Reported position.plan snapshot twin.live.runningUnits → Agrees twin.live
      (Replay.configurationAfter ⟨snapshot, model.value.generation, position.plan⟩ twin.replayed)) :
    (twinAccount model position).Assured after ((twinAccount model position).appended snapshot twin) := by
  rcases ends with rfl | rfl
  · rintro ⟨_, reported⟩
    exact agrees reported
  · rintro ⟨_, reported⟩
    exact agrees reported

/-- A recovery ends with its report. -/
theorem repaired (planned : position.plan = some plan) (terminal : phase.isTerminal = true) (other : phase ≠ .succeeded)
    (repairing : Repairing plan position.transition.domain mode stopped started twin) :
    (twinAccount model position).Assured (Work.repaired position.transition phase stopped started mode) twin := by
  intro snapshot recorded
  refine ⟨trivial, ended (.inr rfl) fun reported => ?_, False.elim⟩
  rw [configurationAfter_ended recorded other]
  obtain ⟨failure, ⟨rfl, rfl, rfl⟩, rfl⟩ := recorded
  obtain ⟨down, up⟩ := reported terminal other
  rw [planned] at down up
  exact repairing.agrees down up

/-- A transition that has changed nothing leaves nothing to report. -/
theorem refused (ends : after = .finished ∨ after = .releasing) (agrees : Agrees twin.live twin.replayed) :
    (twinAccount model position).Assured (Work.failing position.transition after) twin := by
  rintro snapshot ⟨code, recorded⟩
  have other := terminalPhase_ne_succeeded code
  refine ⟨trivial, ended ends fun _ => ?_, False.elim⟩
  rw [configurationAfter_ended recorded other]
  exact agrees

theorem failing (planned : position.plan = some plan)
    (repairing : Repairing plan position.transition.domain none [] [] twin) :
    (twinAccount model position).Assured (Work.failing position.transition Work.exit) twin := by
  rintro snapshot ⟨code, recorded⟩
  exact repaired planned (terminalPhase_isTerminal code) (terminalPhase_ne_succeeded code) repairing
    snapshot recorded

/-- A recorded phase keeps both configurations. -/
theorem recordPhase {next after : Work} (unfailed : position.transition.failure = none) (other : phase ≠ .succeeded)
    (assured : ∀ reported, (twinAccount model position).Assured next { twin with reported := reported }) :
    (twinAccount model position).Assured (Work.recordPhase position.transition phase next after) twin := by
  rintro snapshot rfl
  refine ⟨trivial, ?_, False.elim⟩
  show (twinAccount model position).Assured next
    { twin with replayed := Replay.configurationAfter _ twin.replayed, reported := _ }
  rw [configurationAfter_recorded unfailed other]
  exact assured _

theorem recovering (planned : position.plan = some plan)
    (repairing : Repairing plan position.transition.domain none [] [] twin) :
    (twinAccount model position).Assured (Work.recovering model position.transition) twin := by
  unfold Work.recovering
  cases found : model.findDomain position.transition.domain with
  | none => exact failing planned repairing
  | some domain =>
      simp only
      split
      · exact failing planned repairing
      · intro snapshot recorded
        refine ⟨trivial, ?_, False.elim⟩
        have kept : Repairing plan position.transition.domain none [] []
            ((twinAccount model position).appended snapshot twin) := by
          show Repairing _ _ _ _ _
            { twin with replayed := Replay.configurationAfter _ twin.replayed, reported := _ }
          rw [configurationAfter_ended recorded (by simp)]
          exact ⟨repairing.modes, repairing.stops, repairing.starts, repairing.outside,
            repairing.running, repairing.restarted⟩
        show (twinAccount model position).Assured (Work.recovery position.transition domain)
          ((twinAccount model position).appended snapshot twin)
        unfold Work.recovery
        cases domain.recovery.action with
        | enterFallbackMode => exact ⟨found, plan, planned, kept⟩
        | stopDomain => exact ⟨found, plan, planned, kept⟩
        | requestSystemRecovery =>
            exact ⟨repaired planned rfl (by simp) kept, repaired planned rfl (by simp) kept⟩
        | holdObservedConfiguration => exact repaired planned rfl (by simp) kept
        | rollbackIfDeclaredSafe => exact repaired planned rfl (by simp) kept

/-- The progress of the stop loop. -/
structure Stops (plan : TransitionPlan) (rest : List ExecutionUnitId) (twin : Twin) : Prop where
  executing : Executing plan twin
  progress : ∃ before, plan.stop = before ++ rest ∧ ∀ unit, unit ∈ twin.live.runningUnits ↔
    unit ∈ twin.replayed.runningUnits ∧ unit ∉ before

/-- The progress of the start loop. -/
structure Starts (plan : TransitionPlan) (rest : List ExecutionUnitId) (twin : Twin) : Prop where
  executing : Executing plan twin
  progress : ∃ before, plan.start = before ++ rest ∧ ∀ unit, unit ∈ twin.live.runningUnits ↔
    unit ∈ twin.replayed.runningUnits ∧ unit ∉ plan.stop ∨ unit ∈ before

section Loops
variable {rest : List ExecutionUnitId} {domain : DomainId}

theorem Stops.repairing (stops : Stops plan rest twin) : Repairing plan domain none [] [] twin := by
  obtain ⟨before, split, members⟩ := stops.progress
  apply stops.executing.repairing
  intro unit notStopped _
  have outside : unit ∉ before := fun member => notStopped (split ▸ List.mem_append_left _ member)
  rw [members]
  simp [outside]

theorem Starts.repairing (starts : Starts plan rest twin) : Repairing plan domain none [] [] twin := by
  obtain ⟨before, split, members⟩ := starts.progress
  apply starts.executing.repairing
  intro unit notStopped notStarted
  have outside : unit ∉ before := fun member => notStarted (split ▸ List.mem_append_left _ member)
  rw [members]
  simp [outside, notStopped]

theorem Stops.erase (stops : Stops plan (unit :: rest) twin) : Stops plan rest { twin with
      live := { twin.live with runningUnits := twin.live.runningUnits.erase unit } } := by
  obtain ⟨before, split, members⟩ := stops.progress
  refine ⟨⟨stops.executing.modes, stops.executing.stops, stops.executing.starts⟩, before ++ [unit], ?_, ?_⟩
  · rw [split]
    simp
  · intro other
    have same := members other
    simp only [Finset.mem_erase, List.mem_append, List.mem_singleton]
    tauto

theorem Starts.insert (starts : Starts plan (unit :: rest) twin) : Starts plan rest { twin with
      live := { twin.live with runningUnits := insert unit twin.live.runningUnits } } := by
  obtain ⟨before, split, members⟩ := starts.progress
  refine ⟨⟨starts.executing.modes, starts.executing.stops, starts.executing.starts⟩, before ++ [unit], ?_, ?_⟩
  · rw [split]
    simp
  · intro other
    have same := members other
    simp only [Finset.mem_insert, List.mem_append, List.mem_singleton]
    tauto

theorem Stops.finish (stops : Stops plan [] twin) : Starts plan plan.start twin := by
  obtain ⟨before, split, members⟩ := stops.progress
  rw [List.append_nil] at split
  refine ⟨stops.executing, [], rfl, fun unit => ?_⟩
  rw [members, split]
  simp

/-- A finished plan agrees with its replay after the commit. -/
theorem Starts.succeed (starts : Starts plan [] twin) (same : plan.domain = domain) {target : ModeId}
    (selects : plan.targetMode = target) :
    Agrees { twin.live with committedModes := twin.live.committedModes.insert domain target }
      (Replay.applySuccess plan twin.replayed) := by
  obtain ⟨before, split, members⟩ := starts.progress
  rw [List.append_nil] at split
  constructor
  · intro other
    show (twin.live.committedModes.insert domain target).lookup other =
      (twin.replayed.committedModes.insert plan.domain plan.targetMode).lookup other
    rw [same, selects]
    by_cases own : other = domain
    · rw [own, AList.lookup_insert, AList.lookup_insert]
    · rw [AList.lookup_insert_ne own, AList.lookup_insert_ne own]
      exact starts.executing.modes other
  · ext unit
    show unit ∈ twin.live.runningUnits ↔ unit ∈ plan.start.foldl
      (fun running application => Insert.insert application running)
      (plan.stop.foldl Finset.erase twin.replayed.runningUnits)
    rw [mem_foldl_insert, mem_foldl_erase, members, split]

end Loops

section Execution
variable (unfailed : position.transition.failure = none) (planned : position.plan = some plan)
include unfailed planned

variable (same : plan.domain = position.transition.domain)
include same

variable (selects : plan.targetMode = position.transition.targetMode)
include selects

/-- The loops of a confirmed plan keep the two configurations in step. -/
theorem carries (known : (model.findMode ⟨position.transition.domain, position.transition.targetMode⟩).isSome)
    (units : ∀ unit ∈ plan.start, (model.findUnit unit).isSome) :
    (twinAccount model position).Carries model position.transition plan fun
      | false, rest, twin => Stops plan rest twin
      | true, rest, twin => (∀ unit ∈ rest, (model.findUnit unit).isSome) ∧ Starts plan rest twin where
  records := by
    intro starting rest phase twin live held
    refine ⟨trivial, ?_, held⟩
    dsimp only [twinAccount]
    rw [configurationAfter_recorded unfailed (TransitionPhase.ne_succeeded live)]
    cases starting with
    | false => exact ⟨⟨held.executing.modes, held.executing.stops, held.executing.starts⟩, held.progress⟩
    | true =>
        obtain ⟨units, starts⟩ := held
        exact ⟨units, ⟨starts.executing.modes, starts.executing.stops, starts.executing.starts⟩, starts.progress⟩
  leaves := by
    rintro (_ | _) rest twin held
    · exact ⟨.inr (recovering planned held.repairing), .inr (failing planned held.repairing)⟩
    · exact ⟨.inr (recovering planned held.2.repairing), .inr (failing planned held.2.repairing)⟩
  stops := fun _ _ _ stops => ⟨trivial, trivial, stops.erase⟩
  turns := fun _ stops => ⟨units, stops.finish⟩
  starts := fun _ _ _ ⟨units, starts⟩ => ⟨trivial, units _ List.mem_cons_self,
    fun other member => units other (List.mem_cons_of_mem _ member), starts.insert⟩
  commits := by
    rintro twin ⟨_, starts⟩
    refine ⟨known, ?_⟩
    rintro snapshot rfl
    refine ⟨trivial, ended (.inr rfl) fun _ => ?_, False.elim⟩
    rw [planned, configurationAfter_succeeded unfailed]
    exact starts.succeed same selects

end Execution

/-- The loops of a recovery report what they do. -/
theorem repairStops {start stop : List ExecutionUnitId} (planned : position.plan = some plan)
    (modes : ∀ recovered ∈ mode, (model.findMode ⟨position.transition.domain, recovered⟩).isSome)
    (units : ∀ unit ∈ start, (model.findUnit unit).isSome)
    (repairing : Repairing plan position.transition.domain none [] [] twin) : (twinAccount model position).Assured
      (Work.repairStops position.transition mode start stop []) twin := by
  refine Account.assured_repairStops
    (fun _ stopped twin => Repairing plan position.transition.domain none stopped [] twin) ?_ ?_ repairing
  · intro unit rest stopped twin repairing
    exact ⟨trivial, trivial, repairing.erase, .inr (repaired planned rfl (by simp) repairing)⟩
  · intro stopped twin repairing
    refine Account.assured_repairStarts (fun rest started twin =>
      (∀ unit ∈ rest, (model.findUnit unit).isSome) ∧
        Repairing plan position.transition.domain none stopped started twin) ?_ ?_ ⟨units, repairing⟩
    · rintro unit rest started twin ⟨units, repairing⟩
      exact ⟨trivial, units unit List.mem_cons_self,
        ⟨fun other member => units other (List.mem_cons_of_mem _ member), repairing.insert⟩,
        .inr (repaired planned rfl (by simp) repairing)⟩
    · rintro started twin ⟨_, repairing⟩
      cases mode with
      | none => exact repaired planned rfl (by simp) repairing
      | some fallback =>
          exact ⟨modes fallback rfl, repaired planned rfl (by simp) repairing.commit⟩

theorem repair {configuration : SystemConfiguration}
    (found : model.findDomain position.transition.domain = some domain) (planned : position.plan = some plan)
    (repairing : Repairing plan position.transition.domain none [] [] twin) : (twinAccount model position).Assured
      (Work.repair model position.transition domain configuration) twin := by
  unfold Work.repair
  split
  · rename_i action
    split
    · exact repaired planned rfl (by simp) repairing
    · rename_i second reconciled
      obtain ⟨required, facts, _⟩ := buildPlan_eq_ok reconciled
      refine repairStops planned ?_ ?_ repairing
      · rintro _ ⟨⟩
        obtain ⟨listed, same⟩ := findDomain_eq_some found
        rw [← same]
        exact ValidatedModel.fallbackMode_defined listed action
      · exact fun unit member => closed_known facts.closed (facts.mem_start.mp member).1
  · split
    · exact repaired planned rfl (by simp) repairing
    · exact repairStops planned (by simp) (by simp) repairing

theorem accept (unfailed : position.transition.failure = none) (accepted : Option TransitionPlan)
    (agrees : Agrees twin.live twin.replayed) :
    (twinAccount model position).Assured (Work.accept position.transition accepted) twin := by
  cases accepted with
  | none => exact refused (.inl rfl) agrees
  | some plan =>
      apply recordPhase unfailed (by simp)
      intro reported
      apply recordPhase unfailed (by simp)
      intro reported
      exact agrees

theorem sustains {index : Nat} (owned : Owned model index position state)
    (loads : ∀ id, op = .loadPlan id → position.registered = true) (live : twin.live = state.configuration) :
    (twinAccount model position).Sustains model position.transition position.plan op state twin where
  loaded := by
    intro snapshot kin loading
    refine ⟨rfl, ?_⟩
    show state.plans.lookup snapshot.id = position.plan
    rw [kin.id, owned.id]
    exact owned.plans (loads _ loading)
  opened := by
    intro plan _ agrees
    unfold Work.request
    split
    · exact refused (.inl rfl) agrees
    · exact agrees
  refused := fun agrees => .inr (refused (.inl rfl) agrees)
  confirmed := by
    intro accepted planned _ agrees
    unfold Work.confirm
    split
    · exact refused (.inr rfl) agrees
    · rename_i second replanned
      split
      · exact refused (.inr rfl) agrees
      · rename_i same
        rw [not_or, not_not, not_not] at same
        obtain ⟨required, facts, _⟩ := buildPlan_eq_ok replanned
        obtain ⟨_, _, shaped, _⟩ := owned.accepted planned
        have units : ∀ unit ∈ accepted.start, (model.findUnit unit).isSome := by
          intro unit member
          rw [← same.1] at member
          exact closed_known facts.closed (facts.mem_start.mp member).1
        refine (carries owned.failure planned ?_ ?_ facts.defined units).execute
          ⟨⟨agrees.modes, ?_, ?_⟩, [], rfl, ?_⟩
        · rw [shaped.shape]
        · rw [shaped.shape]
        · intro unit member
          rw [← same.2] at member
          rw [← agrees.units, live]
          exact (facts.mem_stop.mp member).1
        · intro unit member
          rw [← same.1] at member
          rw [← agrees.units, live]
          exact (facts.mem_start.mp member).2
        · intro unit
          rw [agrees.units]
          simp
  repaired := by
    rintro domain _ ⟨found, plan, planned, repairing⟩
    exact repair found planned repairing

end Restart

/-- The configuration selects a mode of the model for every domain and runs units of the model. -/
structure KnownConfiguration (model : ValidatedModel) (configuration : SystemConfiguration) : Prop where
  modes : ∀ domain, (model.findDomain domain).isSome →
    ∃ mode, configuration.committedModes.lookup domain = some mode ∧
      (model.findMode ⟨domain, mode⟩).isSome
  units : ∀ unit ∈ configuration.runningUnits, (model.findUnit unit).isSome

section Invariant
variable {initial : SystemConfiguration}

theorem selectUnits_known {modes : Map DomainId ModeId} {domains : List DomainDefinition}
    {units required : Finset ExecutionUnitId} (selected : selectUnits model modes domains units = .ok required)
    (member : domain ∈ domains) :
    ∃ mode, modes.lookup domain.id = some mode ∧ (model.findMode ⟨domain.id, mode⟩).isSome := by
  induction domains generalizing units with
  | nil => cases member
  | cons first rest ih =>
      unfold selectUnits at selected
      split at selected
      · cases selected
      · rename_i mode lookup
        split at selected
        · cases selected
        · rename_i definition defined
          rcases List.mem_cons.mp member with rfl | later
          · exact ⟨mode, lookup, Option.isSome_of_eq_some defined⟩
          · exact ih selected later

theorem knownConfiguration_initial (found : initialConfiguration model = .ok initial) :
    KnownConfiguration model initial := by
  obtain ⟨_, modes, required⟩ := initialConfiguration_eq_ok found
  refine ⟨?_, fun unit => closed_known (requiredUnits_closed required)⟩
  intro domain known
  obtain ⟨definition, located⟩ := Option.isSome_iff_exists.mp known
  obtain ⟨listed, rfl⟩ := findDomain_eq_some located
  unfold requiredUnits at required
  split at required
  · cases required
  · rename_i selected
    rw [modes]
    exact selectUnits_known selected listed

/-- The two configurations of an engine whose events are all reported. -/
def EngineState.twin (state : EngineState) (initial : SystemConfiguration) : Twin :=
  ⟨state.configuration, Replay.journaledConfiguration initial state.journal, True⟩

/-- Between transitions the engine and its journal agree. -/
structure Restartable (model : ValidatedModel) (initial : SystemConfiguration) (state : EngineState) :
    Prop where
  known : KnownConfiguration model state.configuration
  agrees : Agrees state.configuration (Replay.journaledConfiguration initial state.journal)

/-- During a transition the thread knows how they differ. -/
structure Restarting (model : ValidatedModel) (initial : SystemConfiguration) (position : Position)
    (state : EngineState) : Prop where
  known : KnownConfiguration model state.configuration
  work : (twinAccount model position).Assured position.work (state.twin initial)

variable {position later : Position}

theorem twinAccount_after {reply : op.Reply} (rule : Rule model position op reply later) (known : position.work ≠ .void)
    (accepted : ∀ event, op = .append event → HEq reply (Except.ok () : Result Unit))
    (loads : ∀ event, op = .append event → (twinAccount model position).loads event)
    (reports : ∀ event, op = .append event → Reported event.plan event.transition state.configuration.runningUnits) :
    (twinAccount model position).after op reply (state.twin initial) = (effect op reply state).twin initial := by
  cases op with
  | append event =>
      obtain rfl := eq_of_heq (accepted event rfl)
      obtain ⟨generation, plan⟩ := loads event rfl
      obtain ⟨transition, _, _⟩ := event
      obtain rfl := generation
      obtain rfl := plan
      have reported : Reported position.plan transition state.configuration.runningUnits := reports _ rfl
      show Twin.mk state.configuration _
          (True ∧ Reported position.plan transition state.configuration.runningUnits) =
        Twin.mk state.configuration (Replay.journaledConfiguration initial (state.journal ++ [_])) True
      rw [Replay.journaledConfiguration_append, true_and, eq_true reported]
      rfl
  | commit domain mode =>
      obtain rfl := rule_commit rule known
      rfl
  | _ =>
      first
        | rfl
        | (rcases reply with _ | (_ | _) <;> rfl)

/-- A commit of a known mode and an insertion of a known unit keep the configuration known. -/
theorem KnownConfiguration.effect {reply : op.Reply} (known : KnownConfiguration model state.configuration)
    (rule : Rule model position op reply later) (working : position.work ≠ .void) {twin : Twin}
    (required : (twinAccount model position).Requires op twin) :
    KnownConfiguration model (effect op reply state).configuration := by
  refine ⟨?_, fun unit runs => ?_⟩
  · by_cases commits : ∃ domain mode, op = .commit domain mode
    · obtain ⟨domain, mode, rfl⟩ := commits
      obtain rfl := rule_commit rule working
      intro other defined
      by_cases same : other = position.transition.domain
      · rw [same]
        exact ⟨mode, AList.lookup_insert _, required⟩
      · obtain ⟨selected, lookup, found⟩ := known.modes other defined
        exact ⟨selected, (AList.lookup_insert_ne same).trans lookup, found⟩
    · rw [committedModes_effect fun domain mode same => commits ⟨domain, mode, same⟩]
      exact known.modes
  · rcases runningUnits_effect reply state runs with before | rfl
    · exact known.units unit before
    · exact required

theorem restart_alone (model : ValidatedModel) (initial : SystemConfiguration) :
    Alone model (Repeatable model) (Restartable model initial) (fun _ => Restarting model initial) where
  sequential := fun _ _ permitted => permitted.sequential
  step := by
    intro pool positions index input op reply later sound step restarting
    have owned := sound.owned index step.inside
    have required := restarting.work.requires step.rule
    have accepted : ∀ event, op = .append event → HEq reply (Except.ok () : Result Unit) := by
      rintro event rfl
      rw [append_accepted step.permitted.works step.performed]
    have reports : ∀ event, op = .append event →
        Reported event.plan event.transition pool.shared.configuration.runningUnits := by
      rintro event rfl
      have reports := step.permitted.reports
      unfold reportsChanges at reports
      simp only [step.pending] at reports
      exact of_decide_eq_true reports
    have moved := restarting.work.step step.rule step.answers
      (Restart.sustains owned (by rintro id rfl; exact owned.registered_of_rule step.rule (by simp)) rfl)
      (fun agrees => agrees) owned.opens
      (by
        rintro event error same
        obtain ⟨rfl, refused⟩ := Sigma.mk.inj_iff.mp same
        have works := append_accepted step.permitted.works step.performed
        rw [eq_of_heq refused] at works
        cases works)
      fun _ _ => not_false
    rw [twinAccount_after step.rule owned.work_ne_void accepted
      (by rintro event rfl; exact required.1) reports] at moved
    obtain ⟨sameTransition, samePlan⟩ := rule_transition step.rule
    have sameAccount : twinAccount model later = twinAccount model (positions index) := by
      unfold twinAccount
      rw [sameTransition, samePlan]
    exact ⟨restarting.known.effect step.rule owned.work_ne_void required, sameAccount ▸ moved⟩
  finish := by
    intro index position state restarting finished
    have agrees := restarting.work
    rw [finished] at agrees
    exact ⟨restarting.known, agrees trivial⟩
  request := by
    intro pool domain target registry restartable permitted
    exact ⟨restartable.known, Restart.accept rfl _ restartable.agrees⟩
  quietRest := fun _ _ _ restartable => ⟨restartable.known, restartable.agrees⟩
  activeRest := fun _ _ _ _ _ restarting => ⟨restarting.known, restarting.work⟩

/-- The requests of a repeatable run are known. -/
theorem knownRequests_of_repeatable (found : initialConfiguration model = .ok initial) {pool : EnginePool}
    (reached : (machine model).Reaches (Repeatable model) (created initial) pool) :
    (machine model).Reaches (KnownRequests model) (created initial) pool := by
  refine reached.permits fun pool choice reached permitted => ⟨permitted.works, ?_⟩
  rintro baseline domain target rfl
  obtain ⟨_, rfl⟩ : pool.Quiet ∧ baseline = pool.shared.configuration := permitted.sequential
  have target : (model.findMode ⟨domain, target⟩).isSome = true := permitted.known
  obtain ⟨positions, _, holds⟩ := (restart_alone model initial).fromCreated
    ⟨knownConfiguration_initial found, ⟨fun _ => rfl, rfl⟩⟩ reached
  have known : KnownConfiguration model pool.shared.configuration := by
    cases count : pool.threads.length with
    | zero => exact (holds.idle count).known
    | succ last => exact (holds.last last count).known
  obtain ⟨definition, defined⟩ := Option.isSome_iff_exists.mp target
  exact ⟨known.modes domain (ValidatedModel.findDomain_of_findMode defined), target, known.units⟩

end Invariant

/-- A restart replays the configuration that a sequential run has left. -/
theorem restart_repeats (model : ValidatedModel) (initial : SystemConfiguration)
    (found : initialConfiguration model = .ok initial) (pool : EnginePool)
    (reached : (machine model).Reaches (Repeatable model) (created initial) pool) (returned : pool.Quiet) : ∃ replayed,
      Replay.replay model { configuration := initial } pool.shared.journal = .ok replayed ∧
      Agrees pool.shared.configuration replayed.configuration := by
  obtain ⟨replayed, accepted, configured⟩ := history_replayed found (knownRequests_of_repeatable found reached)
  obtain ⟨positions, sound, holds⟩ := (restart_alone model initial).fromCreated
    ⟨knownConfiguration_initial found, ⟨fun _ => rfl, rfl⟩⟩ reached
  refine ⟨replayed, accepted, ?_⟩
  rw [configured]
  exact ((restart_alone model initial).quiet_of_quiet sound holds returned).agrees

/-- This function decides whether a choice is repeatable. -/
def isRepeatable (model : ValidatedModel) (pool : EnginePool) (choice : EngineChoice) : Bool :=
  isSequential pool choice && journalWorks choice && requestsKnown model choice &&
    reportsChanges pool choice

theorem repeatable_of_check (model : ValidatedModel) (pool : EnginePool) (choice : EngineChoice)
    (checked : isRepeatable model pool choice = true) : Repeatable model pool choice := by
  unfold isRepeatable at checked
  simp only [Bool.and_eq_true] at checked
  obtain ⟨⟨⟨sequential, works⟩, known⟩, reports⟩ := checked
  exact ⟨sequential_of_check pool choice sequential, works, known, reports⟩

/-- The cabin falls back to its first mode, and the mirrors hold what they have. -/
def cabinModes : ValidatedModel where
  value := {
    generation := 1
    units := [{ id := 1, name := "fan" }, { id := 2, name := "heater" }, { id := 3, name := "left" },
      { id := 4, name := "right" }]
    domains := [
      { id := 1, name := "cabin", initialMode := 1,
        recovery := { action := .enterFallbackMode, fallbackMode := 1 },
        modes := [{ id := 1, name := "cool", units := [1] }, { id := 2, name := "warm", units := [2] }] },
      { id := 2, name := "mirrors", initialMode := 1,
        modes := [{ id := 1, name := "folded" }, { id := 2, name := "open", units := [3, 4] }] }] }
  valid := by decide +kernel

/-- The cabin returns to its first mode after a failed start, and so does its replay. -/
theorem restart_repeats_fallback : ∃ pool, (machine cabinModes).Reaches (Repeatable cabinModes)
      (created ⟨1, initialModes cabinModes, [1].toFinset⟩) pool ∧
    (pool.shared.transitions.lookup 1).any (fun transition => transition.phase == .failed) = true ∧
    ∃ replayed, Replay.replay cabinModes
        { configuration := ⟨1, initialModes cabinModes, [1].toFinset⟩ } pool.shared.journal = .ok replayed ∧
      Agrees pool.shared.configuration replayed.configuration := by
  let schedule := [requestMode 1 2] ++ List.replicate 24 (advance 0) ++ [refuseStart 0] ++
    List.replicate 12 (advance 0)
  obtain ⟨pool, reached, failed, quiet⟩ := exists_run cabinModes
    ⟨1, initialModes cabinModes, [1].toFinset⟩ (isRepeatable cabinModes) (repeatable_of_check cabinModes)
    schedule (fun pool => (pool.shared.transitions.lookup 1).any
      (fun transition => transition.phase == .failed) = true ∧ isQuiet pool = true) (by decide +kernel)
  exact ⟨pool, reached, failed, restart_repeats cabinModes _ rfl pool reached (quiet_of_isQuiet quiet)⟩

theorem sequentialAppends_of_check (pool : EnginePool) (choice : EngineChoice)
    (checked : (isSequential pool choice && journalWorks choice) = true) :
    Sequential pool choice ∧ journalWorks choice = true := by
  rw [Bool.and_eq_true] at checked
  exact ⟨sequential_of_check pool choice checked.1, checked.2⟩

/-- The first mirror stays open after the second one has failed, but the journal does not say so. -/
theorem restart_forgets : initialConfiguration cabinModes = .ok ⟨1, initialModes cabinModes, [1].toFinset⟩ ∧
    ¬ ∀ pool, (machine cabinModes).Reaches (fun pool choice => Sequential pool choice ∧ journalWorks choice = true)
        (created ⟨1, initialModes cabinModes, [1].toFinset⟩) pool → pool.Quiet →
      ∃ replayed, Replay.replay cabinModes
          { configuration := ⟨1, initialModes cabinModes, [1].toFinset⟩ } pool.shared.journal =
            .ok replayed ∧
        Agrees pool.shared.configuration replayed.configuration := by
  refine ⟨rfl, fun repeats => ?_⟩
  let schedule := [requestMode 2 2] ++ List.replicate 22 (advance 0) ++ [refuseStart 0] ++
    List.replicate 4 (advance 0)
  obtain ⟨pool, reached, quiet, running, journal⟩ := exists_run cabinModes
    ⟨1, initialModes cabinModes, [1].toFinset⟩
    (fun pool choice => isSequential pool choice && journalWorks choice)
    sequentialAppends_of_check schedule
    (fun pool => isQuiet pool = true ∧ pool.shared.configuration.runningUnits = {1, 3} ∧
      (Replay.replay cabinModes { configuration := ⟨1, initialModes cabinModes, [1].toFinset⟩ }
        pool.shared.journal).toOption.any
          (fun replayed => decide (replayed.configuration.runningUnits = {1})) = true) (by decide +kernel)
  obtain ⟨replayed, accepted, agrees⟩ := repeats pool reached (quiet_of_isQuiet quiet)
  have units := agrees.units
  rw [accepted] at journal
  have replays : replayed.configuration.runningUnits = {1} := of_decide_eq_true journal
  rw [running, replays] at units
  revert units
  decide

end OpenVehicle.Exec
