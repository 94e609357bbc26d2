/-
This file translates the replay loop of `ExecutionEngine::Create`.
-/

import OpenVehicle.Exec.Engine
import OpenVehicle.Exec.ModelFacts

namespace OpenVehicle.Exec

open FiniteMap

/-- The order of the phases that a journal may contain. -/
def validProgress (previous next : TransitionPhase) : Bool :=
  if previous = next then true
  else if previous = .recovering then next == .failed || next == .recoveryFailed
  else !previous.isTerminal && decide (previous.value < next.value)

/-- The locals of the replay loop. -/
structure ReplayState where
  transitions : Map TransitionId TransitionSnapshot := ∅
  plans : Map TransitionId TransitionPlan := ∅
  nextTransition : TransitionId := 1
  configuration : SystemConfiguration
  deriving DecidableEq

namespace Replay

variable (model : ValidatedModel)

def persistenceError (message : String) (id : TransitionId) : Error := makeError .persistenceError message id

variable (transition : TransitionSnapshot)

/-- The identity check of an event. -/
def validIdentity : Bool :=
  transition.id != 0 && transition.domain != 0 && transition.sourceMode != 0 &&
    transition.targetMode != 0 &&
    (model.findMode ⟨transition.domain, transition.sourceMode⟩).isSome &&
    (model.findMode ⟨transition.domain, transition.targetMode⟩).isSome

/-- An event continues the history of its transition. -/
def validHistory (previous next : TransitionSnapshot) : Bool :=
  previous.domain == next.domain && previous.sourceMode == next.sourceMode &&
    previous.targetMode == next.targetMode && validProgress previous.phase next.phase

def validApplications (applications : List ApplicationId) : Bool :=
  applications.all fun application => (model.findUnit application).isSome

def validDomains (domains : List DomainId) : Bool := domains.all fun domain => (model.findDomain domain).isSome

/-- The plan of an event must match its transition and the model. -/
def checkPlan (event : JournalEvent) (plan : TransitionPlan) : Result Unit :=
  if plan.generation ≠ event.generation ∨ plan.domain ≠ event.transition.domain ∨
      plan.sourceMode ≠ event.transition.sourceMode ∨ plan.targetMode ≠ event.transition.targetMode then
    .error (persistenceError "journal plan does not match its transition" event.transition.id)
  else if !(validApplications model plan.retain && validApplications model plan.stop &&
      validApplications model plan.start && validDomains model plan.guardedDomains) then
    .error (persistenceError "journal plan references an unknown model object" event.transition.id)
  else .ok ()

/-- A loop that refuses unknown applications and changes the running units. -/
def applyUnits (change : ApplicationId → Finset ApplicationId → Finset ApplicationId)
    (message : String) (id : TransitionId) :
    List ApplicationId → Finset ApplicationId → Result (Finset ApplicationId)
  | [], running => .ok running
  | application :: rest, running =>
      if (model.findUnit application).isNone then .error (persistenceError message id)
      else applyUnits change message id rest (change application running)

/-- The mode that a recovery reports is committed. -/
def applyRecoveredMode (mode : Option ModeId)
    (committed : Map DomainId ModeId) : Result (Map DomainId ModeId) :=
  match mode with
  | none => .ok committed
  | some mode =>
      if (model.findMode ⟨transition.domain, mode⟩).isNone then
        .error (persistenceError "journal recovery mode is not valid for the domain" transition.id)
      else .ok (committed.insert transition.domain mode)

/-- The recovery that an event reports is applied to the configuration. -/
def applyFailure (failure : TransitionFailure)
    (configuration : SystemConfiguration) : Result SystemConfiguration :=
  match applyRecoveredMode model transition failure.recoveredMode configuration.committedModes with
  | .error error => .error error
  | .ok committed =>
      match applyUnits model (fun application running => running.erase application)
          "journal recovery stop references an unknown application" transition.id
          failure.recoveryStoppedApplications configuration.runningUnits with
      | .error error => .error error
      | .ok stopped =>
          match applyUnits model (fun application running => insert application running)
              "journal recovery start references an unknown application" transition.id
              failure.recoveryStartedApplications stopped with
          | .error error => .error error
          | .ok started =>
              .ok { configuration with committedModes := committed, runningUnits := started }

/-- A successful transition commits its mode and applies its plan. -/
def applySuccess (plan : TransitionPlan) (configuration : SystemConfiguration) : SystemConfiguration :=
  { configuration with
    committedModes := configuration.committedModes.insert plan.domain plan.targetMode
    runningUnits := plan.start.foldl (fun running application => insert application running)
      (plan.stop.foldl Finset.erase configuration.runningUnits) }

/-- The plans that the replay knows after an event. -/
def recordPlan (event : JournalEvent) (plans : Map TransitionId TransitionPlan) :
    Result (Map TransitionId TransitionPlan) :=
  match event.plan with
  | none => .ok plans
  | some plan =>
      match checkPlan model event plan with
      | .error error => .error error
      | .ok () => .ok (plans.insert event.transition.id plan)

/-- The failure of an event may report a recovery. -/
def applyReport (configuration : SystemConfiguration) :
    Result SystemConfiguration :=
  match transition.failure with
  | none => .ok configuration
  | some failure => applyFailure model transition failure configuration

/-- The configuration after an event. Only failures and successes change it. -/
def applyEvent (plans : Map TransitionId TransitionPlan)
    (configuration : SystemConfiguration) : Result SystemConfiguration :=
  match applyReport model transition configuration with
  | .error error => .error error
  | .ok configuration =>
      if transition.phase = .succeeded then
        match plans.lookup transition.id with
        | none => .error (persistenceError "successful transition has no persisted plan" transition.id)
        | some plan => .ok (applySuccess plan configuration)
      else .ok configuration

/-- One iteration of the replay loop. -/
def replayEvent (state : ReplayState) (event : JournalEvent) : Result ReplayState :=
  if event.generation ≠ model.value.generation then
    .error (makeError .configurationError "journal model generation does not match active model"
      event.generation)
  else if !validIdentity model event.transition then
    .error (persistenceError "journal transition identity is not valid for the active model" event.transition.id)
  else if (state.transitions.lookup event.transition.id).any fun previous =>
      !validHistory previous event.transition then
    .error (persistenceError "journal transition history is inconsistent" event.transition.id)
  else
    match recordPlan model event state.plans with
    | .error error => .error error
    | .ok plans =>
        match applyEvent model event.transition plans state.configuration with
        | .error error => .error error
        | .ok configuration =>
            .ok {
              transitions := state.transitions.insert event.transition.id event.transition
              plans := plans
              nextTransition := max state.nextTransition (event.transition.id + 1)
              configuration := configuration }

/-- The replay loop stops at the first event that it refuses. -/
def replay (state : ReplayState) (events : List JournalEvent) : Result ReplayState :=
  events.foldlM (replayEvent model) state

section Accepted
variable {model}

/-- The report of a recovery names objects of the model. -/
structure ValidReport (model : ValidatedModel) (transition : TransitionSnapshot)
    (failure : TransitionFailure) : Prop where
  mode : ∀ mode ∈ failure.recoveredMode, (model.findMode ⟨transition.domain, mode⟩).isSome
  stopped : ∀ unit ∈ failure.recoveryStoppedApplications, (model.findUnit unit).isSome
  started : ∀ unit ∈ failure.recoveryStartedApplications, (model.findUnit unit).isSome

/-- What the replay loop checks of one event. -/
structure Acceptable (model : ValidatedModel) (state : ReplayState) (event : JournalEvent) : Prop where
  generation : event.generation = model.value.generation
  identity : validIdentity model event.transition = true
  history : ∀ previous, state.transitions.lookup event.transition.id = some previous →
    validHistory previous event.transition = true
  plan : ∀ plan, event.plan = some plan → checkPlan model event plan = .ok ()
  failure : ∀ failure, event.transition.failure = some failure →
    ValidReport model event.transition failure
  success : event.transition.phase = .succeeded → event.plan.isSome

theorem applyUnits_eq_ok {change : ApplicationId → Finset ApplicationId → Finset ApplicationId}
    {message : String} {id : TransitionId} {units : List ApplicationId}
    (known : ∀ unit ∈ units, (model.findUnit unit).isSome) (running : Finset ApplicationId) :
    applyUnits model change message id units running =
      .ok (units.foldl (fun running unit => change unit running) running) := by
  induction units generalizing running with
  | nil => rfl
  | cons unit rest ih =>
      have defined := known unit List.mem_cons_self
      unfold applyUnits
      rw [if_neg (by simpa [Option.isSome_iff_ne_none] using defined),
        ih fun other member => known other (List.mem_cons_of_mem _ member)]
      rfl

/-- The configuration after a failure with a valid report. -/
def failedConfiguration (transition : TransitionSnapshot) (failure : TransitionFailure)
    (configuration : SystemConfiguration) : SystemConfiguration :=
  { configuration with
    committedModes := match failure.recoveredMode with
      | none => configuration.committedModes
      | some mode => configuration.committedModes.insert transition.domain mode
    runningUnits := failure.recoveryStartedApplications.foldl (fun running unit => insert unit running)
      (failure.recoveryStoppedApplications.foldl Finset.erase configuration.runningUnits) }

theorem applyFailure_eq_ok {transition : TransitionSnapshot} {failure : TransitionFailure}
    (valid : ValidReport model transition failure) (configuration : SystemConfiguration) :
    applyFailure model transition failure configuration =
      .ok (failedConfiguration transition failure configuration) := by
  have committed : applyRecoveredMode model transition failure.recoveredMode
      configuration.committedModes =
        .ok (failedConfiguration transition failure configuration).committedModes := by
    unfold applyRecoveredMode failedConfiguration
    cases recovered : failure.recoveredMode with
    | none => rfl
    | some mode =>
        have defined := valid.mode mode recovered
        simp only
        rw [if_neg (by simpa [Option.isSome_iff_ne_none] using defined)]
  unfold applyFailure
  simp only [committed, applyUnits_eq_ok valid.stopped, applyUnits_eq_ok valid.started]
  rfl

/-- The configuration after the report of an acceptable event. -/
def reportedConfiguration (transition : TransitionSnapshot) (configuration : SystemConfiguration) :
    SystemConfiguration :=
  match transition.failure with
  | none => configuration
  | some failure => failedConfiguration transition failure configuration

/-- The configuration after an acceptable event. -/
def configurationAfter (event : JournalEvent) (configuration : SystemConfiguration) :
    SystemConfiguration :=
  if event.transition.phase = .succeeded then
    match event.plan with
    | none => reportedConfiguration event.transition configuration
    | some plan => applySuccess plan (reportedConfiguration event.transition configuration)
  else reportedConfiguration event.transition configuration

/-- The configuration that the events of a journal describe. -/
def journaledConfiguration (initial : SystemConfiguration) (journal : List JournalEvent) :
    SystemConfiguration := journal.foldl (fun configuration event => configurationAfter event configuration) initial

theorem journaledConfiguration_append (initial : SystemConfiguration) (journal : List JournalEvent)
    (event : JournalEvent) : journaledConfiguration initial (journal ++ [event]) =
      configurationAfter event (journaledConfiguration initial journal) := by
  unfold journaledConfiguration
  rw [List.foldl_append]
  rfl

variable {event : JournalEvent} {state : ReplayState}

theorem recordPlan_eq_ok (acceptable : Acceptable model state event) :
    recordPlan model event state.plans = .ok (match event.plan with
      | none => state.plans
      | some plan => state.plans.insert event.transition.id plan) := by
  unfold recordPlan
  cases planned : event.plan with
  | none => rfl
  | some plan => simp only [acceptable.plan plan planned]

/-- An acceptable event is accepted. -/
theorem replayEvent_eq_ok (acceptable : Acceptable model state event) :
    ∃ replayed, replayEvent model state event = .ok replayed ∧
      replayed.transitions = state.transitions.insert event.transition.id event.transition ∧
      replayed.configuration = configurationAfter event state.configuration := by
  have continues : (state.transitions.lookup event.transition.id).any (fun previous =>
      !validHistory previous event.transition) = false := by
    cases found : state.transitions.lookup event.transition.id with
    | none => rfl
    | some previous => simp [acceptable.history previous found]
  have reported : applyReport model event.transition state.configuration =
      .ok (reportedConfiguration event.transition state.configuration) := by
    unfold applyReport reportedConfiguration
    cases failed : event.transition.failure with
    | none => rfl
    | some failure => exact applyFailure_eq_ok (acceptable.failure failure failed) _
  have applied : applyEvent model event.transition (match event.plan with
      | none => state.plans
      | some plan => state.plans.insert event.transition.id plan) state.configuration =
      .ok (configurationAfter event state.configuration) := by
    unfold applyEvent configurationAfter
    simp only [reported]
    split
    · rename_i succeeded
      obtain ⟨plan, planned⟩ := Option.isSome_iff_exists.mp (acceptable.success succeeded)
      simp only [planned, AList.lookup_insert]
    · rfl
  unfold replayEvent
  rw [if_neg (by simp [acceptable.generation]), if_neg (by simp [acceptable.identity]),
    if_neg (by simp [continues]), recordPlan_eq_ok acceptable]
  simp only [applied]
  exact ⟨_, rfl, rfl, rfl⟩

theorem replay_append (state : ReplayState) (events : List JournalEvent) (event : JournalEvent) :
    replay model state (events ++ [event]) =
      (replay model state events).bind fun replayed => replayEvent model replayed event := by
  unfold replay
  rw [List.foldlM_append]
  simp only [List.foldlM_cons, List.foldlM_nil, bind_pure]
  rfl

end Accepted

end Replay

end OpenVehicle.Exec
