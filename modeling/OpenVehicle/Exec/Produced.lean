/-
This file follows a coordinator through its restarts. A restart replays what was written before.
-/

import OpenVehicle.Exec.Create
import OpenVehicle.Exec.RecoveryReports

namespace OpenVehicle.Exec

variable {model : ValidatedModel}

open Concurrency FiniteMap TransitionPlanner ExecutionEngine

variable {events : List JournalEvent} {environment : Environment} {event : JournalEvent} {engine : EngineState}

section Restarts
variable {S : Type} {backend : ProcessBackend S}

/-- The replayed transitions are documented and only known units run. -/
structure Replayed (model : ValidatedModel) (state : ReplayState) : Prop where
  coherent : Create.Coherent model state.transitions state.plans
  stored : ∀ id transition, state.transitions.lookup id = some transition → transition.Documented model
  running : ∀ unit ∈ state.configuration.runningUnits, (model.findUnit unit).isSome

theorem applyUnits_known {change : ApplicationId → Finset ApplicationId → Finset ApplicationId}
    {message : String} {id : TransitionId} {units : List ApplicationId} {running later : Finset ApplicationId}
    (changes : ∀ unit (members : Finset ApplicationId), change unit members ⊆ insert unit members)
    (applied : Replay.applyUnits model change message id units running = .ok later)
    (known : ∀ unit ∈ running, (model.findUnit unit).isSome) :
    ∀ unit ∈ later, (model.findUnit unit).isSome := by
  induction units generalizing running with
  | nil =>
      obtain rfl := Except.ok.inj applied
      exact known
  | cons first rest ih =>
      unfold Replay.applyUnits at applied
      split at applied
      · cases applied
      rename_i defined
      refine ih applied fun unit member => ?_
      rcases Finset.mem_insert.mp (changes first running member) with rfl | old
      · simpa [Option.isSome_iff_ne_none] using defined
      · exact known unit old

variable {configuration later : SystemConfiguration} {transition : TransitionSnapshot}

theorem applyReport_known (applied : Replay.applyReport model transition configuration = .ok later)
    (known : ∀ unit ∈ configuration.runningUnits, (model.findUnit unit).isSome) :
    ∀ unit ∈ later.runningUnits, (model.findUnit unit).isSome := by
  unfold Replay.applyReport at applied
  split at applied
  · obtain rfl := Except.ok.inj applied
    exact known
  unfold Replay.applyFailure at applied
  split at applied
  · cases applied
  split at applied
  · cases applied
  rename_i stopped erased
  split at applied
  · cases applied
  rename_i started inserted
  obtain rfl := Except.ok.inj applied
  have afterStops := applyUnits_known (fun unit members =>
    (Finset.erase_subset unit members).trans (Finset.subset_insert unit members)) erased known
  exact applyUnits_known (fun unit members => Finset.Subset.refl _) inserted afterStops

theorem applyEvent_known {plans : Map TransitionId TransitionPlan}
    (planned : ∀ plan, plans.lookup transition.id = some plan → ∀ unit ∈ plan.start, (model.findUnit unit).isSome)
    (applied : Replay.applyEvent model transition plans configuration = .ok later)
    (known : ∀ unit ∈ configuration.runningUnits, (model.findUnit unit).isSome) :
    ∀ unit ∈ later.runningUnits, (model.findUnit unit).isSome := by
  unfold Replay.applyEvent at applied
  split at applied
  · cases applied
  rename_i reported report
  have afterReport := applyReport_known report known
  split at applied
  · split at applied
    · cases applied
    rename_i plan found
    obtain rfl := Except.ok.inj applied
    intro unit member
    rcases mem_foldl_insert.mp member with old | new
    · exact afterReport unit (mem_foldl_erase.mp old).1
    · exact planned plan found unit new
  · obtain rfl := Except.ok.inj applied
    exact afterReport

theorem checkPlan_start {plan : TransitionPlan} (checked : Replay.checkPlan model event plan = .ok ()) :
    ∀ unit ∈ plan.start, (model.findUnit unit).isSome := by
  unfold Replay.checkPlan at checked
  split at checked
  · cases checked
  split at checked
  · cases checked
  rename_i valid
  simp only [Bool.not_eq_true, Bool.not_eq_false', Bool.and_eq_true] at valid
  exact List.all_eq_true.mp valid.1.2

variable {state later : ReplayState}

theorem Replayed.step (replayed : Replayed model state) (documented : event.transition.Documented model)
    (accepted : Replay.replayEvent model state event = .ok later) : Replayed model later := by
  have coherent := replayed.coherent.step accepted
  obtain ⟨_, _, _, _, applied, transitions⟩ := Create.replayEvent_accepted accepted
  refine ⟨coherent, ?_, ?_⟩
  · intro id transition found
    rw [transitions] at found
    rcases FiniteMap.lookup_insert_cases found with ⟨rfl, rfl⟩ | ⟨_, found⟩
    · exact documented
    · exact replayed.stored id transition found
  · refine applyEvent_known (fun plan found => ?_) applied replayed.running
    obtain ⟨_, _, checked⟩ := coherent.planned _ plan found
    exact checkPlan_start checked

theorem replayed_replay (replayed : Replayed model state)
    (documented : ∀ event ∈ events, event.transition.Documented model)
    (accepted : Replay.replay model state events = .ok later) : Replayed model later := by
  refine Create.replay_keeps (Replayed model) (fun event listed state later replayed accepted => ?_) replayed accepted
  exact replayed.step (documented event listed) accepted

variable {state : S}

theorem readyUnits_known :
    ∀ unit ∈ Create.readyUnits model backend state, (model.findUnit unit).isSome := by
  intro unit member
  obtain ⟨listed, _⟩ := List.mem_filter.mp (List.mem_toFinset.mp member)
  exact findUnit_isSome_iff.mpr listed

/-- The last loop of a creation keeps what each of its events keeps. -/
theorem finalize_keeps (invariant : EngineState → Prop)
    (kept : ∀ engine id transition, invariant engine → engine.transitions.lookup id = some transition →
      invariant (Create.recorded engine (Create.interruptedEvent model engine transition)))
    {ids : List TransitionId} {engine later : EngineState} (holds : invariant engine)
    (finalized : Create.finalize model environment ids engine = some (.ok later)) : invariant later := by
  induction ids generalizing engine with
  | nil =>
      obtain rfl := Except.ok.inj (Option.some.inj finalized)
      exact holds
  | cons id rest ih =>
      unfold Create.finalize at finalized
      obtain ⟨transition, found, continued⟩ := Option.bind_eq_some_iff.mp finalized
      obtain ⟨failed, after, reported, ran, effect⟩ := Create.run_fail model environment engine transition
      rw [ran, Option.bind_eq_bind, Option.bind_some] at continued
      simp only [reported, if_true] at continued
      refine ih ?_ continued
      rcases effect with rfl | rfl
      · exact holds
      · exact kept engine id transition holds found

/-- The finalisation of interrupted transitions reports no recovery. -/
theorem reports_recorded (reports : Reports model engine) (transition : TransitionSnapshot) :
    Reports model (Create.recorded engine (Create.interruptedEvent model engine transition)) := by
  have plain : (Create.interruptedEvent model engine transition).transition.Documented model :=
    @documented_failed { transition with phase := .failed } model _
      (documented_plain Create.interruptedError none {})
  have stored := reports.store plain
  refine ⟨stored.stored, ?_, stored.running⟩
  intro event member
  rcases List.mem_append.mp member with old | new
  · exact reports.written event old
  · obtain rfl := List.mem_singleton.mp new
    exact plain

theorem restoreUnits_cases {recovering : Bool} {unfinished : List TransitionId}
    {running observed restored : Finset ApplicationId} {log later : BackendLog S}
    (units : Create.restoreUnits model backend environment recovering unfinished running observed log =
      (.ok restored, later)) : restored = running ∨ restored = observed := by
  unfold Create.restoreUnits at units
  split at units
  · split at units
    · cases units
    · exact .inl (Except.ok.inj (Prod.mk.inj units).1).symm
  · split at units
    · split at units
      · cases units
      · exact .inl (Except.ok.inj (Prod.mk.inj units).1).symm
    · exact .inr (Except.ok.inj (Prod.mk.inj units).1).symm

variable {log : BackendLog S}

/-- The parts of a successful creation. -/
theorem create_eq_ok (creates : Create.create model backend environment (.ok events) state = some ⟨.ok engine, log⟩) :
    ∃ initial replayed running, initialConfiguration model = .ok initial ∧
      Replay.replay model { configuration := initial } events = .ok replayed ∧
      (running = replayed.configuration.runningUnits ∨ running = Create.readyUnits model backend state) ∧
      Create.finalize model environment (Create.interrupted environment replayed.transitions)
        (Create.restored environment replayed running events) = some (.ok engine) := by
  unfold Create.create at creates
  split at creates
  · cases creates
  rename_i initial started
  dsimp only at creates
  split at creates
  · cases creates
  rename_i replayed accepted
  unfold Create.restore at creates
  split at creates
  · cases creates
  rename_i observed inspected
  dsimp only at creates
  split at creates
  · cases creates
  rename_i running after units
  obtain ⟨result, finalized, same⟩ := Option.map_eq_some_iff.mp creates
  obtain ⟨rfl, rfl⟩ := Creation.mk.inj same
  obtain rfl := Create.inspectUnits_eq_ok inspected
  exact ⟨initial, replayed, running, started, accepted, restoreUnits_cases units, finalized⟩

/-- A creation from documented events has documented transitions. -/
theorem create_reports (documented : ∀ event ∈ events, event.transition.Documented model)
    (creates : Create.create model backend environment (.ok events) state = some ⟨.ok engine, log⟩) :
    Reports model engine := by
  obtain ⟨initial, replayed, running, started, accepted, units, finalized⟩ := create_eq_ok creates
  have initially : Replayed model { configuration := initial } := by
    refine ⟨Create.coherent_empty, fun id transition found => (by cases found), ?_⟩
    intro unit member
    obtain ⟨definition, found, _⟩ := requiredUnits_closed (initialConfiguration_eq_ok started).2.2 unit member
    rw [found]
    rfl
  have facts := replayed_replay initially documented accepted
  refine finalize_keeps (Reports model) (fun _ _ transition reports _ => reports_recorded reports transition)
    ⟨facts.stored, documented, ?_⟩ finalized
  rcases units with rfl | rfl
  · exact facts.running
  · exact readyUnits_known

end Restarts

/-- The engine stores each transition under its identifier. -/
def Keyed (engine : EngineState) : Prop :=
  ∀ id transition, engine.transitions.lookup id = some transition → transition.id = id

variable {start pool : EnginePool}

section Keys
variable {later : EngineState}

theorem Keyed.insert (keyed : Keyed engine) (transition : TransitionSnapshot)
    (changed : later.transitions = engine.transitions.insert transition.id transition) : Keyed later := by
  intro id found known
  rw [changed] at known
  rcases FiniteMap.lookup_insert_cases known with ⟨rfl, rfl⟩ | ⟨_, known⟩
  · rfl
  · exact keyed id found known

theorem Keyed.same (keyed : Keyed engine) (unchanged : later.transitions = engine.transitions) : Keyed later := by
  intro id found known
  rw [unchanged] at known
  exact keyed id found known

theorem Keyed.effect (keyed : Keyed engine) (op : EngineOp) (reply : op.Reply) : Keyed (effect op reply engine) := by
  cases op with
  | register transition plan =>
      have emplaced : (Exec.effect (.register transition plan) reply engine).transitions =
          emplace transition.id transition engine.transitions := rfl
      unfold emplace at emplaced
      split at emplaced
      · exact keyed.same emplaced
      · exact keyed.insert transition emplaced
  | store transition => exact keyed.insert transition rfl
  | append event => cases reply <;> exact keyed.same rfl
  | enter owner resources =>
      rcases reply with _ | granted
      · exact keyed.same rfl
      · cases granted <;> exact keyed.same rfl
  | wake owner resources => cases reply <;> exact keyed.same rfl
  | _ => exact keyed.same rfl

theorem keyed_create {S : Type} {backend : ProcessBackend S} {state : S} {log : BackendLog S}
    (creates : Create.create model backend environment (.ok events) state = some ⟨.ok engine, log⟩) : Keyed engine := by
  obtain ⟨initial, replayed, running, _, accepted, _, finalized⟩ := create_eq_ok creates
  have coherent := Create.coherent_replay Create.coherent_empty accepted
  refine finalize_keeps Keyed (fun before _ transition keyed _ => ?_) ?_ finalized
  · exact keyed.insert (Create.interruptedEvent model before transition).transition rfl
  · intro id transition found
    exact (coherent.identity id transition found).1

/-- A run keeps every transition under its identifier. -/
theorem Keyed.reaches {allowed : EnginePool → EngineChoice → Prop}
    (keyed : Keyed start.shared) (reached : (machine model).Reaches allowed start pool) : Keyed pool.shared := by
  induction reached with
  | refl => exact keyed
  | @step pool later choice _ _ fired ih =>
      cases choice with
      | thread index input =>
          obtain ⟨op, next, reply, shared, _, performed, rfl⟩ := Machine.fire_thread_eq_some fired
          obtain ⟨_, rfl⟩ := perform_eq_some performed
          exact ih.effect op reply
      | event event => exact ih.same (transitions_event fired)

end Keys

/-- The file journal does not keep the process state of the evidence. -/
def JournalEvent.stored (event : JournalEvent) : JournalEvent :=
  { event with transition := { event.transition with
      failure := event.transition.failure.map fun failure =>
        { failure with evidence := { failure.evidence with state := .unknown } } } }

/-- The pools of a coordinator. A restart reads a beginning of the journal from memory or from a file. -/
inductive Produced (model : ValidatedModel) : EnginePool → Prop
  | create {S : Type} {backend : ProcessBackend S} {environment : Environment} {state : S}
      {engine : EngineState} {log : BackendLog S}
      (creates : Create.create model backend environment (.ok []) state = some ⟨.ok engine, log⟩) :
      Produced model ⟨engine, []⟩
  | step {pool later : EnginePool} {choice : EngineChoice} (before : Produced model pool)
      (coded : CodedErrors pool choice) (fired : (machine model).fire pool choice = some later) :
      Produced model later
  | restart {pool : EnginePool} {S : Type} {backend : ProcessBackend S} {environment : Environment}
      {state : S} {engine : EngineState} {log : BackendLog S} {written : List JournalEvent}
      {read : JournalEvent → JournalEvent} (before : Produced model pool)
      (durable : written <+: pool.shared.journal) (reads : read = id ∨ read = JournalEvent.stored)
      (creates : Create.create model backend environment (.ok (written.map read)) state =
        some ⟨.ok engine, log⟩) : Produced model ⟨engine, []⟩

theorem Produced.reaches (produced : Produced model start)
    (reached : (machine model).Reaches CodedErrors start pool) : Produced model pool := by
  induction reached with
  | refl => exact produced
  | step _ coded fired ih => exact .step ih coded fired

theorem documented_stored (documented : event.transition.Documented model) :
    event.stored.transition.Documented model := by
  intro failure member
  obtain ⟨original, found, rfl⟩ := Option.map_eq_some_iff.mp member
  have kept := documented original found
  exact ⟨kept.error, kept.stopped, kept.started⟩

/-- Every pool of a coordinator has documented transitions. -/
theorem Produced.reports {pool : EnginePool} (produced : Produced model pool) : Reports model pool.shared ∧
      ∀ program ∈ pool.threads, program.Keeps (reportContract model) fun _ => True := by
  induction produced with
  | create creates =>
      exact ⟨create_reports (fun event member => (by cases member)) creates,
        fun program member => (by cases member)⟩
  | step before coded fired ih =>
      exact (reports_honoured model).reaches ih.1 ih.2 (.step .refl coded fired)
  | restart before durable reads creates ih =>
      refine ⟨create_reports ?_ creates, fun program member => (by cases member)⟩
      intro event member
      obtain ⟨original, listed, rfl⟩ := List.mem_map.mp member
      have documented := ih.1.written original (durable.subset listed)
      rcases reads with rfl | rfl
      · exact documented
      · exact documented_stored documented

end OpenVehicle.Exec
