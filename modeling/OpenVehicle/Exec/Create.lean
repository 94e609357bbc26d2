/-
This file translates `ExecutionEngine::Create` and compares two restarts in sequence.
The first restart finalises the interrupted transitions. The second restart reads its journal.
-/

import OpenVehicle.Exec.Replay

namespace OpenVehicle.Exec

open Concurrency FiniteMap TransitionPlanner ExecutionEngine

/-- The calls of a process backend. An inspection leaves the backend unchanged. -/
structure ProcessBackend (S : Type) where
  inspect : ApplicationId → S → Result BackendEvidence
  start : ApplicationId → S → Result BackendEvidence × S
  stop : ApplicationId → StopReason → S → Result BackendEvidence × S

/-- The calls that change a backend. -/
inductive BackendCall where
  | start (application : ApplicationId)
  | stop (application : ApplicationId) (reason : StopReason)
  deriving DecidableEq

/-- The backend and the calls that it has received. -/
structure BackendLog (S : Type) where
  backend : S
  calls : List BackendCall := []

/-- An unordered container is visited in any order, and the journal may refuse an event. -/
structure Environment where
  visit : List Nat → List Nat
  permutes : ∀ ids, (visit ids).Perm ids
  append : JournalEvent → Result Unit

/-- The result of a creation and the backend that it leaves behind. -/
structure Creation (S : Type) where
  result : Result EngineState
  log : BackendLog S

variable {initial configuration : SystemConfiguration} {id : TransitionId} {events : List JournalEvent}
variable {replayed : ReplayState} {event : JournalEvent}

namespace Create

variable (model : ValidatedModel) {S : Type} (backend : ProcessBackend S) (environment : Environment)

/-- The replay loop starts from the initial configuration. -/
def replayJournal (events : List JournalEvent) : Result ReplayState :=
  match initialConfiguration model with
  | .error error => .error error
  | .ok initial => Replay.replay model { configuration := initial } events

/-- The inspection loop collects the units that are ready. -/
def inspectUnits (state : S) : List ExecutionUnitDefinition → Finset ApplicationId →
    Result (Finset ApplicationId)
  | [], observed => .ok observed
  | application :: rest, observed =>
      match backend.inspect application.id state with
      | .error error => .error error
      | .ok evidence =>
          inspectUnits state rest
            (if evidence.state = .ready then insert application.id observed else observed)

/-- The transitions that the journal leaves unfinished, in the order of the visit. -/
def interrupted (transitions : Map TransitionId TransitionSnapshot) : List TransitionId :=
  (environment.visit transitions.keys).filter fun id =>
    (transitions.lookup id).any fun transition => !transition.phase.isTerminal

/-- A fresh system must already run its initial units. -/
def requireInitial (running observed : Finset ApplicationId) : Result Unit :=
  match (environment.visit (sorted running)).find? fun application => decide (application ∉ observed) with
  | none => .ok ()
  | some application => .error (makeError .backendUnavailable "initially required application is not ready" application)

/-- The reconciliation loop starts and stops the units that differ from the journal. -/
def reconcileUnits (expected observed : Finset ApplicationId) : List ExecutionUnitDefinition →
    BackendLog S → Result Unit × BackendLog S
  | [], log => (.ok (), log)
  | application :: rest, log =>
      if application.id ∈ expected ↔ application.id ∈ observed then
        reconcileUnits expected observed rest log
      else if application.id ∈ expected then
        let (started, after) := backend.start application.id log.backend
        let log := ⟨after, log.calls ++ [.start application.id]⟩
        match started with
        | .ok evidence =>
            if evidence.state = .ready then reconcileUnits expected observed rest log
            else (.error (makeError .backendUnavailable
              "cannot restore required application during recovery" application.id), log)
        | .error _ => (.error (makeError .backendUnavailable
            "cannot restore required application during recovery" application.id), log)
      else
        let (stopped, after) := backend.stop application.id .recovery log.backend
        let log := ⟨after, log.calls ++ [.stop application.id .recovery]⟩
        match stopped with
        | .ok evidence =>
            if evidence.state = .stopped then reconcileUnits expected observed rest log
            else (.error (makeError .backendUnavailable
              "cannot stop unexpected application during recovery" application.id), log)
        | .error _ => (.error (makeError .backendUnavailable
            "cannot stop unexpected application during recovery" application.id), log)

/-- The units that a restart takes as running. -/
def restoreUnits (recovering : Bool) (unfinished : List TransitionId)
    (running observed : Finset ApplicationId) (log : BackendLog S) :
    Result (Finset ApplicationId) × BackendLog S :=
  if !recovering then
    match requireInitial environment running observed with
    | .error error => (.error error, log)
    | .ok () => (.ok running, log)
  else if unfinished.isEmpty then
    match reconcileUnits backend running observed model.value.units log with
    | (.error error, log) => (.error error, log)
    | (.ok (), log) => (.ok running, log)
  else (.ok observed, log)

/-- The engine that the replayed maps describe. -/
def restored (replayed : ReplayState) (running : Finset ApplicationId) (events : List JournalEvent) :
    EngineState where
  configuration := { replayed.configuration with runningUnits := running }
  transitions := replayed.transitions
  plans := replayed.plans
  cancellation := (environment.visit replayed.transitions.keys).foldl
    (fun flags id => flags.insert id false) ∅
  nextTransition := replayed.nextTransition
  journal := events

def interruptedError : Error :=
  makeError .backendUnavailable "transition was interrupted by execution coordinator restart"

/-- A creation has no other thread and only its appends may fail. -/
def answer (op : EngineOp) (engine : EngineState) : Option (op.Reply × EngineState) :=
  match op with
  | .append event => perform model (.append event) (.journal (environment.append event)) engine
  | op => perform model op (ordinaryInput op) engine

/-- The last loop finalises the interrupted transitions. A call that blocks has no result. -/
def finalize : List TransitionId → EngineState → Option (Result EngineState)
  | [], engine => some (.ok engine)
  | id :: rest, engine => do
      let transition ← engine.transitions.lookup id
      let (failed, engine) ← (fail model transition interruptedError).run (answer model environment) engine
      match failed with
      | .ok failed =>
          if failed.failure.isSome then finalize rest engine
          else some (.error (makeError .persistenceError "interrupted transition could not be finalized" id))
      | .error _ => some (.error (makeError .persistenceError "interrupted transition could not be finalized" id))

/-- The part of a creation that follows the replay loop. -/
def restore (events : List JournalEvent) (replayed : ReplayState) (state : S) : Option (Creation S) :=
  match inspectUnits backend state model.value.units ∅ with
  | .error error => some ⟨.error error, { backend := state }⟩
  | .ok observed =>
      let unfinished := interrupted environment replayed.transitions
      match restoreUnits model backend environment (!events.isEmpty) unfinished
          replayed.configuration.runningUnits observed { backend := state } with
      | (.error error, log) => some ⟨.error error, log⟩
      | (.ok running, log) =>
          (finalize model environment unfinished (restored environment replayed running events)).map
            fun result => ⟨result, log⟩

/-- A creation replays the journal, inspects the units, and finalises what was interrupted. -/
def create (journal : Result (List JournalEvent)) (state : S) : Option (Creation S) :=
  match initialConfiguration model with
  | .error error => some ⟨.error error, { backend := state }⟩
  | .ok initial =>
      match journal with
      | .error error => some ⟨.error (makeError .persistenceError
          "transition journal cannot be replayed" error.code.value), { backend := state }⟩
      | .ok events =>
          match Replay.replay model { configuration := initial } events with
          | .error error => some ⟨.error error, { backend := state }⟩
          | .ok replayed => restore model backend environment events replayed state

/-- The units of the model that the backend reports as ready. -/
def readyUnits (state : S) : Finset ApplicationId :=
  ((model.value.units.map (·.id)).filter fun application =>
    match backend.inspect application state with
    | .ok evidence => evidence.state == .ready
    | .error _ => false).toFinset

section Coherence
variable {model} {state later : ReplayState}

/-- The plans of a replayed journal match its transitions. -/
structure Coherent (model : ValidatedModel) (transitions : Map TransitionId TransitionSnapshot)
    (plans : Map TransitionId TransitionPlan) : Prop where
  identity : ∀ id transition, transitions.lookup id = some transition →
    transition.id = id ∧ Replay.validIdentity model transition = true
  planned : ∀ id plan, plans.lookup id = some plan → ∃ transition,
    transitions.lookup id = some transition ∧
      Replay.checkPlan model ⟨transition, model.value.generation, some plan⟩ plan = .ok ()

theorem coherent_empty : Coherent model ∅ ∅ := by
  refine ⟨?_, ?_⟩
  · intro id transition found
    cases found
  · intro id plan found
    cases found

variable {plan : TransitionPlan}

/-- Two transitions with the same modes accept the same plans. -/
theorem checkPlan_congr {first second : TransitionSnapshot}
    {generation : ModelGeneration} (domain : second.domain = first.domain)
    (source : second.sourceMode = first.sourceMode) (target : second.targetMode = first.targetMode)
    (checked : Replay.checkPlan model ⟨first, generation, some plan⟩ plan = .ok ()) :
    Replay.checkPlan model ⟨second, generation, some plan⟩ plan = .ok () := by
  unfold Replay.checkPlan at checked ⊢
  simp only [domain, source, target] at checked ⊢
  split at checked
  · cases checked
  · split at checked
    · cases checked
    · rename_i same valid
      rw [if_neg same, if_neg valid]

theorem validHistory_iff {previous next : TransitionSnapshot} :
    Replay.validHistory previous next = true ↔ previous.domain = next.domain ∧
      previous.sourceMode = next.sourceMode ∧ previous.targetMode = next.targetMode ∧
      validProgress previous.phase next.phase = true := by
  unfold Replay.validHistory
  simp only [Bool.and_eq_true, beq_iff_eq, and_assoc]

/-- An accepted event has passed the checks of the replay loop. -/
theorem replayEvent_accepted (accepted : Replay.replayEvent model state event = .ok later) :
    event.generation = model.value.generation ∧ Replay.validIdentity model event.transition = true ∧
    (∀ previous, state.transitions.lookup event.transition.id = some previous →
      Replay.validHistory previous event.transition = true) ∧
    Replay.recordPlan model event state.plans = .ok later.plans ∧
    Replay.applyEvent model event.transition later.plans state.configuration = .ok later.configuration ∧
    later.transitions = state.transitions.insert event.transition.id event.transition := by
  unfold Replay.replayEvent at accepted
  split at accepted
  · cases accepted
  rename_i generation
  split at accepted
  · cases accepted
  rename_i identity
  split at accepted
  · cases accepted
  rename_i history
  split at accepted
  · cases accepted
  rename_i plans recorded
  split at accepted
  · cases accepted
  rename_i configuration applied
  obtain rfl := Except.ok.inj accepted
  refine ⟨not_not.mp generation, by simpa using identity, ?_, recorded, applied, rfl⟩
  intro previous found
  rw [found] at history
  simpa using history

/-- An accepted journal keeps what each of its events keeps. -/
theorem replay_keeps (invariant : ReplayState → Prop)
    (kept : ∀ event ∈ events, ∀ state later, invariant state → Replay.replayEvent model state event = .ok later →
      invariant later)
    (holds : invariant state) (accepted : Replay.replay model state events = .ok later) : invariant later := by
  induction events generalizing state with
  | nil =>
      obtain rfl := Except.ok.inj accepted
      exact holds
  | cons event rest ih =>
      obtain ⟨first, others⟩ := List.forall_mem_cons.mp kept
      unfold Replay.replay at accepted ih
      rw [List.foldlM_cons] at accepted
      cases next : Replay.replayEvent model state event with
      | error error =>
          rw [next] at accepted
          cases accepted
      | ok after =>
          rw [next] at accepted
          exact ih others (first state after holds next) accepted

/-- A recorded plan is the plan of the event or an earlier one. -/
theorem recordPlan_cases {plans recorded : Map TransitionId TransitionPlan}
    (accepted : Replay.recordPlan model event plans = .ok recorded) (found : recorded.lookup id = some plan) :
    id = event.transition.id ∧ Replay.checkPlan model event plan = .ok () ∨ plans.lookup id = some plan := by
  unfold Replay.recordPlan at accepted
  cases given : event.plan with
  | none =>
      simp only [given] at accepted
      obtain rfl := Except.ok.inj accepted
      exact .inr found
  | some own =>
      simp only [given] at accepted
      split at accepted
      · cases accepted
      rename_i checked
      obtain rfl := Except.ok.inj accepted
      rcases FiniteMap.lookup_insert_cases found with ⟨rfl, rfl⟩ | ⟨_, found⟩
      · exact .inl ⟨rfl, checked⟩
      · exact .inr found

variable (coherent : Coherent model state.transitions state.plans)
include coherent

theorem Coherent.step
    (accepted : Replay.replayEvent model state event = .ok later) : Coherent model later.transitions later.plans := by
  obtain ⟨generation, identity, history, recorded, _, transitions⟩ := replayEvent_accepted accepted
  rw [transitions]
  refine ⟨?_, ?_⟩
  · intro id transition found
    rcases FiniteMap.lookup_insert_cases found with ⟨rfl, rfl⟩ | ⟨_, found⟩
    · exact ⟨rfl, identity⟩
    · exact coherent.identity id transition found
  · intro id plan found
    rcases recordPlan_cases recorded found with ⟨rfl, checked⟩ | earlier
    · refine ⟨event.transition, AList.lookup_insert _, ?_⟩
      unfold Replay.checkPlan at checked ⊢
      rw [generation] at checked
      exact checked
    · obtain ⟨transition, known, checked⟩ := coherent.planned id plan earlier
      by_cases same : id = event.transition.id
      · subst same
        obtain ⟨domain, source, target, _⟩ := validHistory_iff.mp (history transition known)
        exact ⟨event.transition, AList.lookup_insert _, checkPlan_congr domain.symm source.symm target.symm checked⟩
      · exact ⟨transition, by rw [AList.lookup_insert_ne same, known], checked⟩

/-- Every replayed journal is coherent. -/
theorem coherent_replay
    (accepted : Replay.replay model state events = .ok later) : Coherent model later.transitions later.plans :=
  replay_keeps (fun state => Coherent model state.transitions state.plans)
    (fun _ _ _ _ coherent accepted => coherent.step accepted) coherent accepted

end Coherence

section Finalisation
variable {model} {environment} {engine later : EngineState} {transition : TransitionSnapshot}

/-- The event that finalises an interrupted transition. -/
def interruptedEvent (model : ValidatedModel) (engine : EngineState) (transition : TransitionSnapshot) :
    JournalEvent where
  transition := { transition with phase := .failed, failure := some { error := interruptedError } }
  generation := model.value.generation
  plan := engine.plans.lookup transition.id

/-- The engine after it has appended and stored an event. -/
def recorded (engine : EngineState) (event : JournalEvent) : EngineState :=
  { engine with
    journal := engine.journal ++ [event]
    transitions := engine.transitions.insert event.transition.id event.transition }

/-- A finalisation records its event or leaves the engine unchanged. -/
theorem run_fail (model : ValidatedModel) (environment : Environment) (engine : EngineState)
    (transition : TransitionSnapshot) : ∃ failed later, failed.failure.isSome = true ∧
      (fail model transition interruptedError).run (answer model environment) engine = some (.ok failed, later) ∧
      (later = engine ∨ later = recorded engine (interruptedEvent model engine transition)) := by
  have loaded : answer model environment (.loadPlan transition.id) engine =
      some (engine.plans.lookup transition.id, engine) := rfl
  unfold fail record
  simp only [EngineOp.call, Program.perform_bind, Program.call_bind]
  rw [Program.run_call loaded]
  cases appended : environment.append (interruptedEvent model engine transition) with
  | error error =>
      have persisted : answer model environment (.append (interruptedEvent model engine transition))
          engine = some (.error error, engine) := by
        simp only [answer, perform, appended]
      exact ⟨_, engine, rfl, (Program.run_call persisted).trans rfl, .inl rfl⟩
  | ok value =>
      have persisted : answer model environment (.append (interruptedEvent model engine transition))
          engine = some (.ok value, { engine with
            journal := engine.journal ++ [interruptedEvent model engine transition] }) := by
        simp only [answer, perform, appended]
      exact ⟨_, _, rfl, (Program.run_call persisted).trans rfl, .inr rfl⟩

/-- The journal of the engine replays to its transitions and to a fixed configuration. -/
structure Mirrors (model : ValidatedModel) (initial configuration : SystemConfiguration)
    (engine : EngineState) : Prop where
  written : engine.journal ≠ []
  coherent : Coherent model engine.transitions engine.plans
  replays : ∃ replayed, Replay.replay model { configuration := initial } engine.journal = .ok replayed ∧
    replayed.transitions = engine.transitions ∧ replayed.configuration = configuration

/-- A transition may be finalised when it is not terminal or already failed. -/
def Finalisable (engine : EngineState) (id : TransitionId) : Prop :=
  ∃ transition, engine.transitions.lookup id = some transition ∧
    (transition.phase.isTerminal = false ∨ transition.phase = .failed)

theorem validProgress_failed {phase : TransitionPhase} (unfinished : phase.isTerminal = false ∨ phase = .failed) :
    validProgress phase .failed = true := by
  revert unfinished
  cases phase <;> decide

/-- The final event of a transition passes the checks of the replay loop. -/
theorem acceptable_interruptedEvent (coherent : Coherent model engine.transitions engine.plans)
    (same : replayed.transitions = engine.transitions)
    (found : engine.transitions.lookup transition.id = some transition)
    (unfinished : transition.phase.isTerminal = false ∨ transition.phase = .failed) :
    Replay.Acceptable model replayed (interruptedEvent model engine transition) where
  generation := rfl
  identity := (coherent.identity transition.id transition found).2
  history := by
    intro previous known
    rw [same] at known
    obtain rfl := Option.some.inj (found.symm.trans known)
    exact validHistory_iff.mpr ⟨rfl, rfl, rfl, validProgress_failed unfinished⟩
  plan := by
    intro plan planned
    obtain ⟨stored, known, checked⟩ := coherent.planned transition.id plan planned
    obtain rfl := Option.some.inj (found.symm.trans known)
    exact checkPlan_congr rfl rfl rfl checked
  failure := by
    intro failure reported
    obtain rfl := Option.some.inj reported
    exact ⟨fun _ member => (by cases member), fun _ member => (by cases member),
      fun _ member => (by cases member)⟩
  success := by
    intro succeeded
    cases succeeded

/-- The final event of a transition keeps the mirror. -/
theorem Mirrors.recorded (mirrors : Mirrors model initial configuration engine)
    (found : engine.transitions.lookup transition.id = some transition)
    (unfinished : transition.phase.isTerminal = false ∨ transition.phase = .failed) :
    Mirrors model initial configuration (recorded engine (interruptedEvent model engine transition)) where
  written := List.append_ne_nil_of_right_ne_nil _ (List.cons_ne_nil _ _)
  coherent := by
    refine ⟨?_, ?_⟩
    · intro id stored known
      by_cases same : id = transition.id
      · subst same
        obtain rfl := Option.some.inj ((AList.lookup_insert engine.transitions).symm.trans known)
        exact ⟨rfl, (mirrors.coherent.identity transition.id transition found).2⟩
      · exact mirrors.coherent.identity id stored ((AList.lookup_insert_ne same).symm.trans known)
    · intro id plan planned
      obtain ⟨stored, known, checked⟩ := mirrors.coherent.planned id plan planned
      by_cases same : id = transition.id
      · subst same
        obtain rfl := Option.some.inj (found.symm.trans known)
        exact ⟨_, AList.lookup_insert engine.transitions, checkPlan_congr rfl rfl rfl checked⟩
      · exact ⟨stored, (AList.lookup_insert_ne same).trans known, checked⟩
  replays := by
    obtain ⟨replayed, accepted, same, settled⟩ := mirrors.replays
    obtain ⟨after, continued, transitions, configured⟩ := Replay.replayEvent_eq_ok
      (acceptable_interruptedEvent mirrors.coherent same found unfinished)
    refine ⟨after, ?_, ?_, ?_⟩
    · show Replay.replay model _ (engine.journal ++ [_]) = _
      rw [Replay.replay_append, accepted]
      exact continued
    · rw [transitions, same]
      rfl
    · rw [configured, ← settled]
      rfl

theorem Finalisable.recorded (finalisable : Finalisable engine id)
    (failed : event.transition.phase = .failed) : Finalisable (recorded engine event) id := by
  by_cases same : id = event.transition.id
  · subst same
    exact ⟨event.transition, AList.lookup_insert engine.transitions, .inr failed⟩
  · obtain ⟨transition, found, unfinished⟩ := finalisable
    exact ⟨transition, (AList.lookup_insert_ne same).trans found, unfinished⟩

/-- The last loop of a creation returns an engine that mirrors its journal. -/
theorem finalize_eq_ok (environment : Environment) (ids : List TransitionId)
    (mirrors : Mirrors model initial configuration engine) (finalisable : ∀ id ∈ ids, Finalisable engine id) :
    ∃ later, finalize model environment ids engine = some (.ok later) ∧
      Mirrors model initial configuration later ∧ later.configuration = engine.configuration := by
  induction ids generalizing engine with
  | nil => exact ⟨engine, rfl, mirrors, rfl⟩
  | cons id rest ih =>
      obtain ⟨transition, found, unfinished⟩ := finalisable id List.mem_cons_self
      obtain ⟨rfl, _⟩ := mirrors.coherent.identity id transition found
      obtain ⟨failed, later, reported, ran, effect⟩ := run_fail model environment engine transition
      have kept : Mirrors model initial configuration later ∧
          (∀ id ∈ rest, Finalisable later id) ∧ later.configuration = engine.configuration := by
        rcases effect with rfl | rfl
        · exact ⟨mirrors, fun id member => finalisable id (List.mem_cons_of_mem _ member), rfl⟩
        · exact ⟨mirrors.recorded found unfinished, fun id member =>
            (finalisable id (List.mem_cons_of_mem _ member)).recorded rfl, rfl⟩
      obtain ⟨final, finished, mirrored, settled⟩ := ih kept.1 kept.2.1
      refine ⟨final, ?_, mirrored, settled.trans kept.2.2⟩
      unfold finalize
      rw [found, Option.bind_eq_bind, Option.bind_some, ran, Option.bind_eq_bind, Option.bind_some]
      simp only [reported, if_true]
      exact finished

end Finalisation

section Again
variable {model} {backend} {environment} {state : S} {observed : Finset ApplicationId}

theorem mem_inspectUnits {units : List ExecutionUnitDefinition} {before : Finset ApplicationId}
    (inspected : inspectUnits backend state units before = .ok observed) (application : ApplicationId) :
    application ∈ observed ↔ application ∈ before ∨ application ∈ units.map (·.id) ∧
      (match backend.inspect application state with
        | .ok evidence => evidence.state == .ready
        | .error _ => false) = true := by
  induction units generalizing before with
  | nil =>
      obtain rfl := Except.ok.inj inspected
      simp
  | cons unit rest ih =>
      unfold inspectUnits at inspected
      split at inspected
      · cases inspected
      rename_i evidence answered
      rw [ih inspected, List.map_cons, List.mem_cons]
      by_cases same : application = unit.id
      · subst same
        simp only [answered, beq_iff_eq]
        split <;> simp_all
      · split <;> simp [same]

/-- The inspection loop returns the ready units. -/
theorem inspectUnits_eq_ok (inspected : inspectUnits backend state model.value.units ∅ = .ok observed) :
    observed = readyUnits model backend state := by
  ext application
  rw [mem_inspectUnits inspected, readyUnits, List.mem_toFinset, List.mem_filter]
  simp

/-- The reconciliation loop calls nothing when the units agree. -/
theorem reconcileUnits_same (units : List ExecutionUnitDefinition) (log : BackendLog S) :
    reconcileUnits backend observed observed units log = (.ok (), log) := by
  induction units with
  | nil => rfl
  | cons unit rest ih =>
      unfold reconcileUnits
      rw [if_pos Iff.rfl]
      exact ih

theorem interrupted_eq_nil_iff {transitions : Map TransitionId TransitionSnapshot} :
    interrupted environment transitions = [] ↔ ∀ id transition,
      transitions.lookup id = some transition → transition.phase.isTerminal = true := by
  unfold interrupted
  rw [List.filter_eq_nil_iff]
  constructor
  · intro none id transition found
    have visited : id ∈ environment.visit transitions.keys :=
      (environment.permutes _).mem_iff.mpr
        (AList.lookup_isSome.mp (by rw [found]; rfl))
    have tested := none id visited
    simpa [found] using tested
  · intro terminal id _
    cases found : transitions.lookup id with
    | none => simp
    | some transition => simp [terminal id transition found]

variable {engine : EngineState}

theorem finalisable_interrupted (member : id ∈ interrupted environment engine.transitions) : Finalisable engine id := by
  obtain ⟨_, tested⟩ := List.mem_filter.mp member
  cases found : engine.transitions.lookup id with
  | none =>
      rw [found] at tested
      cases tested
  | some transition =>
      rw [found] at tested
      exact ⟨transition, found, .inl (by simpa using tested)⟩

/-- A creation that finds interrupted transitions takes the observed units and calls no unit. -/
theorem create_interrupted {log : BackendLog S} (journal : replayJournal model events = .ok replayed)
    (unfinished : interrupted environment replayed.transitions ≠ [])
    (creates : create model backend environment (.ok events) state = some ⟨.ok engine, log⟩) :
    log = { backend := state } ∧ (∃ initial, initialConfiguration model = .ok initial ∧
      Mirrors model initial replayed.configuration engine) ∧
    (∃ observed, inspectUnits backend state model.value.units ∅ = .ok observed) ∧
    engine.configuration = { replayed.configuration with runningUnits := readyUnits model backend state } := by
  unfold replayJournal at journal
  unfold create at creates
  cases started : initialConfiguration model with
  | error error =>
      rw [started] at journal
      cases journal
  | ok initial =>
      simp only [started] at journal creates
      simp only [journal, restore] at creates
      cases inspected : inspectUnits backend state model.value.units ∅ with
      | error error =>
          rw [inspected] at creates
          cases creates
      | ok observed =>
          have written : events ≠ [] := by
            rintro rfl
            obtain rfl := Except.ok.inj journal
            exact unfinished (interrupted_eq_nil_iff.mpr fun id transition found => by cases found)
          have restoredUnits : restoreUnits model backend environment (!events.isEmpty)
              (interrupted environment replayed.transitions) replayed.configuration.runningUnits observed
              { backend := state } = (.ok observed, { backend := state }) := by
            unfold restoreUnits
            rw [if_neg (by simpa using written), if_neg (by simpa using unfinished)]
          have mirrors : Mirrors model initial replayed.configuration
              (restored environment replayed observed events) :=
            ⟨written, coherent_replay coherent_empty journal, replayed, journal, rfl, rfl⟩
          obtain ⟨final, finished, mirrored, settled⟩ := finalize_eq_ok environment
            (interrupted environment replayed.transitions) mirrors
            fun id member => finalisable_interrupted member
          rw [inspected] at creates
          simp only [restoredUnits, finished, Option.map_some, Option.some.injEq] at creates
          obtain ⟨same, rfl⟩ := Creation.mk.inj creates
          obtain rfl := Except.ok.inj same
          refine ⟨rfl, ⟨initial, rfl, mirrored⟩, ⟨observed, rfl⟩, ?_⟩
          rw [settled, ← inspectUnits_eq_ok inspected]
          rfl

/-- A creation with nothing to finalise reconciles the units with the replayed configuration. -/
theorem create_settled
    (started : initialConfiguration model = .ok initial) (mirrors : Mirrors model initial configuration engine)
    (finalised : ∀ id transition, engine.transitions.lookup id = some transition → transition.phase.isTerminal = true)
    (inspected : inspectUnits backend state model.value.units ∅ = .ok observed) :
    ∃ again, again.configuration = configuration ∧ create model backend environment (.ok engine.journal) state =
        match reconcileUnits backend configuration.runningUnits observed model.value.units { backend := state } with
        | (.error error, log) => some ⟨.error error, log⟩
        | (.ok (), log) => some ⟨.ok again, log⟩ := by
  obtain ⟨replayed, accepted, same, rfl⟩ := mirrors.replays
  have settled : interrupted environment replayed.transitions = [] := by
    rw [same]
    exact interrupted_eq_nil_iff.mpr finalised
  have recovering : (!engine.journal.isEmpty) = true := by simpa using mirrors.written
  refine ⟨restored environment replayed replayed.configuration.runningUnits engine.journal, rfl, ?_⟩
  unfold create
  simp only [started, accepted, restore, inspected, settled, recovering, restoreUnits]
  rcases reconcileUnits backend replayed.configuration.runningUnits observed model.value.units
    { backend := state } with ⟨outcome, log⟩
  cases outcome with
  | error error => rfl
  | ok value => rfl

end Again

/-- A second restart repeats the first one exactly when the ready units are the replayed ones. -/
theorem create_again_iff (model : ValidatedModel) (backend : ProcessBackend S) (first second : Environment)
    (events : List JournalEvent) (state : S) (replayed : ReplayState) (engine : EngineState)
    (log : BackendLog S) (journal : replayJournal model events = .ok replayed)
    (unfinished : ∃ id transition, replayed.transitions.lookup id = some transition ∧
      transition.phase.isTerminal = false)
    (creates : create model backend first (.ok events) state = some ⟨.ok engine, log⟩)
    (finalised : ∀ id transition, engine.transitions.lookup id = some transition → transition.phase.isTerminal = true) :
    (∃ again later, create model backend second (.ok engine.journal) log.backend =
        some ⟨.ok again, later⟩ ∧ later.calls = [] ∧
      again.configuration.committedModes = engine.configuration.committedModes ∧
      again.configuration.runningUnits = engine.configuration.runningUnits) ↔
    readyUnits model backend state = replayed.configuration.runningUnits := by
  have remaining : interrupted first replayed.transitions ≠ [] := by
    intro none
    obtain ⟨id, transition, found, ongoing⟩ := unfinished
    have terminal := interrupted_eq_nil_iff.mp none id transition found
    rw [ongoing] at terminal
    cases terminal
  obtain ⟨rfl, ⟨initial, started, mirrors⟩, ⟨observed, inspected⟩, configured⟩ :=
    create_interrupted journal remaining creates
  obtain rfl := inspectUnits_eq_ok inspected
  obtain ⟨settled, same, restarts⟩ := create_settled started mirrors finalised inspected
  rw [configured]
  constructor
  · rintro ⟨again, later, returned, _, _, running⟩
    rw [restarts] at returned
    split at returned
    · cases returned
    · obtain ⟨result, _⟩ := Creation.mk.inj (Option.some.inj returned)
      obtain rfl := Except.ok.inj result
      rw [same] at running
      exact running.symm
  · intro agree
    rw [agree, reconcileUnits_same] at restarts
    exact ⟨settled, _, restarts, rfl, by rw [same], by rw [same, agree]⟩

def wiperModes : ValidatedModel where
  value := {
    generation := 1
    units := [{ id := 1, name := "wiper" }]
    domains := [
      { id := 1, name := "windscreen", initialMode := 1,
        modes := [{ id := 1, name := "off" }, { id := 2, name := "on", units := [1] }] }] }
  valid := by decide +kernel

/-- The backend of this example is the set of its ready units. -/
def readyBackend : ProcessBackend (Finset ApplicationId) where
  inspect application ready := .ok { state := if application ∈ ready then .ready else .stopped }
  start application ready := (.ok { state := .ready }, insert application ready)
  stop application _ ready := (.ok { state := .stopped }, ready.erase application)

/-- This environment visits containers as they are stored and accepts every event. -/
def accepting : Environment where
  visit ids := ids
  permutes _ := .refl _
  append _ := .ok ()

/-- A creation on an empty journal makes a fresh engine. -/
theorem creates_wiper : create wiperModes readyBackend accepting (.ok []) ∅ =
    some ⟨.ok (created ⟨1, initialModes wiperModes, ∅⟩).shared, { backend := ∅ }⟩ := rfl

/-- The coordinator was killed while a transition was starting the wiper. -/
def startingWiper : JournalEvent where
  transition := { id := 5, domain := 1, sourceMode := 1, targetMode := 2, phase := .starting }
  generation := 1
  plan := some {
    generation := 1
    domain := 1
    sourceMode := 1
    targetMode := 2
    retain := []
    stop := []
    start := [1]
    guardedDomains := [1]
    affectedResources := [] }

/-- This function decides a property of the engine that a creation returns. -/
def returns (property : EngineState → BackendLog S → Bool) : Option (Creation S) → Bool
  | some ⟨.ok engine, log⟩ => property engine log
  | _ => false

theorem exists_engine {creation : Option (Creation S)} {property : EngineState → BackendLog S → Bool}
    (executed : returns property creation = true) :
    ∃ engine log, creation = some ⟨.ok engine, log⟩ ∧ property engine log = true := by
  unfold returns at executed
  split at executed
  · exact ⟨_, _, rfl, executed⟩
  · cases executed

/-- The wiper is not ready when the coordinator restarts, and a second restart changes nothing. -/
theorem create_again_stopped : ∃ engine log again later,
    create wiperModes readyBackend accepting (.ok [startingWiper]) ∅ = some ⟨.ok engine, log⟩ ∧
    create wiperModes readyBackend accepting (.ok engine.journal) log.backend = some ⟨.ok again, later⟩ ∧
    later.calls = [] ∧ again.configuration.committedModes = engine.configuration.committedModes ∧
    again.configuration.runningUnits = engine.configuration.runningUnits := by
  have executed : returns (fun engine _ => decide (interrupted accepting engine.transitions = []))
      (create wiperModes readyBackend accepting (.ok [startingWiper]) ∅) = true := by decide +kernel
  obtain ⟨engine, log, creates, finalised⟩ := exists_engine executed
  have replays : ∃ replayed, replayJournal wiperModes [startingWiper] = .ok replayed ∧
      replayed.transitions.lookup 5 = some startingWiper.transition ∧
      readyUnits wiperModes readyBackend ∅ = replayed.configuration.runningUnits := by
    have executed : (match replayJournal wiperModes [startingWiper] with
      | .ok replayed => decide (replayed.transitions.lookup 5 = some startingWiper.transition ∧
          readyUnits wiperModes readyBackend ∅ = replayed.configuration.runningUnits)
      | .error _ => false) = true := by decide +kernel
    split at executed
    · exact ⟨_, by assumption, of_decide_eq_true executed⟩
    · cases executed
  obtain ⟨replayed, journal, found, agree⟩ := replays
  obtain ⟨again, later, same⟩ := (create_again_iff wiperModes readyBackend accepting accepting
    [startingWiper] ∅ replayed engine log journal ⟨5, _, found, rfl⟩ creates
    (interrupted_eq_nil_iff.mp (of_decide_eq_true finalised))).mpr agree
  exact ⟨engine, log, again, later, creates, same⟩

/-- The wiper is ready when the coordinator restarts, and a second restart stops it. -/
theorem create_again_stops : ∃ engine log again later,
    create wiperModes readyBackend accepting (.ok [startingWiper]) {1} = some ⟨.ok engine, log⟩ ∧
    log.calls = [] ∧ engine.configuration.runningUnits = {1} ∧
    (∀ id transition, engine.transitions.lookup id = some transition → transition.phase.isTerminal = true) ∧
    create wiperModes readyBackend accepting (.ok engine.journal) log.backend = some ⟨.ok again, later⟩ ∧
    later.calls = [.stop 1 .recovery] ∧ again.configuration.runningUnits = ∅ := by
  have executed : returns (fun engine log =>
      decide (log.calls = [] ∧ engine.configuration.runningUnits = {1} ∧
        interrupted accepting engine.transitions = []) &&
      returns (fun again later =>
          decide (later.calls = [.stop 1 .recovery] ∧ again.configuration.runningUnits = ∅))
        (create wiperModes readyBackend accepting (.ok engine.journal) log.backend))
      (create wiperModes readyBackend accepting (.ok [startingWiper]) {1}) = true := by decide +kernel
  obtain ⟨engine, log, creates, both⟩ := exists_engine executed
  obtain ⟨first, second⟩ := Bool.and_eq_true_iff.mp both
  obtain ⟨silent, running, finalised⟩ := of_decide_eq_true first
  obtain ⟨again, later, restarts, stopped⟩ := exists_engine second
  exact ⟨engine, log, again, later, creates, silent, running, interrupted_eq_nil_iff.mp finalised,
    restarts, of_decide_eq_true stopped⟩

end Create

end OpenVehicle.Exec
