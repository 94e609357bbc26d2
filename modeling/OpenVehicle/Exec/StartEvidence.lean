/-
This file compares the two loops that start a unit. Both try the unit again after a clean-up,
and each has its own test for the evidence that counts as a started unit.
-/

import OpenVehicle.Exec.Engine

namespace OpenVehicle.Exec

open Concurrency ExecutionEngine

/-- What the environment answers to one attempt of a start loop. -/
structure Attempt where
  expired : Bool
  started : Result BackendEvidence
  cleaned : Result BackendEvidence

/-- The evidence meets the readiness policy of a unit. -/
def Meets (readiness : ReadinessPolicy) (state : ApplicationState) : Prop :=
  state = .ready ∨ readiness = .processStarted ∧ state = .starting

/-- A clean-up succeeds when the backend reports a stopped unit. -/
def isStopped : Result BackendEvidence → Bool
  | .ok evidence => evidence.state == .stopped
  | .error _ => false

/-- The environment of a start loop answers each attempt in turn. A clean-up ends an attempt. -/
def answerAttempt : (op : EngineOp) → List Attempt → Option (op.Reply × List Attempt)
  | .isCancelled _, attempts => some (false, attempts)
  | .expired, attempt :: rest => some (attempt.expired, attempt :: rest)
  | .start _, attempt :: rest => some (attempt.started, attempt :: rest)
  | .stop _ _, attempt :: rest => some (attempt.cleaned, rest)
  | _, _ => none

/-- The evidence on which a program is about to insert a unit into the running units. -/
def insertedOn {A : Type} (program : EngineProgram A) (application : ExecutionUnitId)
    (attempts : List Attempt) : Option (Result BackendEvidence) :=
  let stopped := program.runUntil answerAttempt attempts
  if stopped.1.pending = some (.insertRunning application) then stopped.2.head?.map (·.started) else none

variable {application : ExecutionUnitId}

theorem insertedOn_of_run {A : Type} {program stopped : EngineProgram A}
    {attempts left : List Attempt} (ran : program.runUntil answerAttempt attempts = (stopped, left)) :
    insertedOn program application attempts =
      if stopped.pending = some (.insertRunning application) then left.head?.map (·.started) else none := by
  simp only [insertedOn, ran]

/-- Both loops look for the first attempt with accepted evidence. -/
def acceptedEvidence (accepts : ApplicationState → Bool) : Nat → List Attempt → Option BackendEvidence
  | remaining + 1, attempt :: rest =>
      if attempt.expired then none
      else
        match attempt.started with
        | .ok evidence =>
            if accepts evidence.state then some evidence
            else if remaining ≠ 0 ∧ isStopped attempt.cleaned then acceptedEvidence accepts remaining rest
            else none
        | .error _ =>
            if remaining ≠ 0 ∧ isStopped attempt.cleaned then acceptedEvidence accepts remaining rest
            else none
  | _, _ => none

variable {accepts : ApplicationState → Bool} {evidence : BackendEvidence} {remaining : Nat}

section Loops

/-- How a start loop ends: with accepted evidence, with an error, or without an answer. -/
inductive LoopEnds {A : Type} (succeeded : A → Prop) (evidence : Option BackendEvidence) :
    EngineProgram A × List Attempt → Prop
  | accepted {value : A} {found : BackendEvidence} {attempt : Attempt} {rest : List Attempt}
      (held : evidence = some found) (same : attempt.started = .ok found) (holds : succeeded value) :
      LoopEnds succeeded evidence (.done value, attempt :: rest)
  | failed {value : A} {left : List Attempt} (missing : evidence = none) (fails : ¬ succeeded value) :
      LoopEnds succeeded evidence (.done value, left)
  | silent {next : Bool → EngineProgram A} (missing : evidence = none) :
      LoopEnds succeeded evidence (.call .expired next, [])

variable {rest : List Attempt} {attempt : Attempt}

/-- The clean-up of `Execute` leads to the next attempt when it stops the unit. -/
theorem startCleanup_ends {error : Error}
    {retry : Error → BackendEvidence → EngineProgram (Except (Error × BackendEvidence) Unit)}
    (retries : LoopEnds (· = .ok ()) (acceptedEvidence accepts remaining rest)
      ((retry error evidence).runUntil answerAttempt rest)) : LoopEnds (· = .ok ())
      (if remaining ≠ 0 ∧ isStopped attempt.cleaned then acceptedEvidence accepts remaining rest else none)
      ((startCleanup application (remaining == 0) retry error evidence).runUntil answerAttempt (attempt :: rest)) := by
  have cleans : answerAttempt (.stop application .restart) (attempt :: rest) = some (attempt.cleaned, rest) := rfl
  unfold startCleanup
  by_cases last : remaining = 0
  · simp only [last, beq_self_eq_true, if_true]
    exact .failed (by simp) (by simp)
  · simp only [beq_iff_eq, last, if_false, EngineOp.call, Program.perform_bind]
    rw [Program.runUntil_call cleans]
    cases cleaned : attempt.cleaned with
    | error error => exact .failed (by simp [isStopped]) (by simp)
    | ok reply =>
        by_cases stopped : reply.state = .stopped
        · simpa [isStopped, stopped, last] using retries
        · simp only [stopped, if_false]
          exact .failed (by simp [isStopped, stopped]) (by simp)

theorem startAttempts_ends (definition : ExecutionUnitDefinition) (application : ExecutionUnitId)
    (remaining : Nat) (attempts : List Attempt) (error : Error) (evidence : BackendEvidence) :
    LoopEnds (· = .ok ()) (acceptedEvidence (requiredStateReached definition) remaining attempts)
      ((startAttempts definition application remaining error evidence).runUntil answerAttempt attempts) := by
  induction remaining generalizing attempts error evidence with
  | zero => exact .failed (by cases attempts <;> rfl) (by simp)
  | succ remaining ih =>
      unfold startAttempts
      simp only [EngineOp.call, Program.perform_bind]
      cases attempts with
      | nil => exact .silent rfl
      | cons attempt rest =>
          have asks : answerAttempt .expired (attempt :: rest) = some (attempt.expired, attempt :: rest) := rfl
          have starts : answerAttempt (.start application) (attempt :: rest) =
              some (attempt.started, attempt :: rest) := rfl
          rw [Program.runUntil_call asks, acceptedEvidence]
          split
          · exact .failed rfl (by simp)
          · rw [Program.runUntil_call starts]
            cases started : attempt.started with
            | error failure => exact startCleanup_ends (ih rest failure evidence)
            | ok reply =>
                dsimp only
                split
                · exact .accepted rfl started rfl
                · exact startCleanup_ends (ih rest _ reply)

/-- The clean-up of the recovery leads to the next attempt when it stops the unit. -/
theorem recoveryCleanup_ends {found : Option BackendEvidence}
    {failure : TransitionFailure} {retry : TransitionFailure → EngineProgram (Result Unit × TransitionFailure)}
    (retries : LoopEnds (·.1 = .ok ()) found ((retry failure).runUntil answerAttempt rest)) :
    LoopEnds (·.1 = .ok ()) (if isStopped attempt.cleaned then found else none)
      ((recoveryCleanup application retry failure).runUntil answerAttempt (attempt :: rest)) := by
  have cleans : answerAttempt (.stop application .recovery) (attempt :: rest) = some (attempt.cleaned, rest) := rfl
  unfold recoveryCleanup
  simp only [EngineOp.call, Program.perform_bind]
  rw [Program.runUntil_call cleans]
  cases cleaned : attempt.cleaned with
  | error error => exact .failed (by simp [isStopped]) (by simp)
  | ok reply =>
      by_cases stopped : reply.state = .stopped
      · simpa [isStopped, stopped] using retries
      · simp only [stopped, if_false]
        exact .failed (by simp [isStopped, stopped]) (by simp)

theorem recoveryAttempts_ends (definition : ExecutionUnitDefinition) (application : ExecutionUnitId)
    (remaining : Nat) (attempts : List Attempt) (failure : TransitionFailure) :
    LoopEnds (·.1 = .ok ()) (acceptedEvidence (recoveryStateReached definition) remaining attempts)
      ((recoveryAttempts definition application remaining failure).runUntil answerAttempt attempts) := by
  induction remaining generalizing attempts failure with
  | zero => exact .failed (by cases attempts <;> rfl) (by simp)
  | succ remaining ih =>
      unfold recoveryAttempts
      simp only [EngineOp.call, Program.perform_bind]
      cases attempts with
      | nil => exact .silent rfl
      | cons attempt rest =>
          have asks : answerAttempt .expired (attempt :: rest) = some (attempt.expired, attempt :: rest) := rfl
          have starts : answerAttempt (.start application) (attempt :: rest) =
              some (attempt.started, attempt :: rest) := rfl
          rw [Program.runUntil_call asks, acceptedEvidence]
          split
          · exact .failed rfl (by simp)
          · rw [Program.runUntil_call starts]
            cases started : attempt.started with
            | error error =>
                by_cases last : remaining = 0
                · simp only [last, if_true]
                  exact .failed (by simp) (by simp)
                · simpa [last] using recoveryCleanup_ends (ih rest failure)
            | ok reply =>
                dsimp only
                split
                · exact .accepted rfl started rfl
                · by_cases last : remaining = 0
                  · subst last
                    exact .failed (by simp) (by simp)
                  · simpa [last] using recoveryCleanup_ends (ih rest { failure with evidence := reply })

end Loops

section Insertions
variable (model : ValidatedModel) (application : ExecutionUnitId) (attempts : List Attempt)

/-- Every recovery begins with a record. -/
theorem recover_loads (transition : TransitionSnapshot) (error : Error) (evidence : BackendEvidence) :
    ∃ next, recover model transition error application evidence = .call (.loadPlan transition.id) next := by
  unfold recover
  split
  · exact ⟨_, rfl⟩
  · split
    · exact ⟨_, rfl⟩
    · exact ⟨_, rfl⟩

/-- The first unit is attempted before its outcome is handled. -/
theorem runUntil_startUnits (transition : TransitionSnapshot) (next : EngineProgram (Result TransitionSnapshot))
    (rest : List ExecutionUnitId) :
    (startUnits model transition next (application :: rest)).runUntil answerAttempt attempts =
      (startAttempts (unitDefinition model application) application (unitDefinition model application).retry.maxAttempts
        (makeError .backendError "application did not reach its required state") {} >>= fun attempted =>
          match attempted with
          | .error last => recover model transition last.1 application last.2
          | .ok () => EngineOp.call (.insertRunning application) >>= fun _ =>
              startUnits model transition next rest).runUntil answerAttempt attempts := by
  have asks : answerAttempt (.isCancelled transition.id) attempts = some (false, attempts) := rfl
  conv_lhs => unfold startUnits
  simp only [EngineOp.call, Program.perform_bind]
  rw [Program.runUntil_call asks]
  rfl

/-- `Execute` inserts a unit on the first evidence that passes its test. -/
theorem insertedOn_startUnits (transition : TransitionSnapshot)
    (next : EngineProgram (Result TransitionSnapshot)) (rest : List ExecutionUnitId) :
    insertedOn (startUnits model transition next (application :: rest)) application attempts =
      (acceptedEvidence (requiredStateReached (unitDefinition model application))
        (unitDefinition model application).retry.maxAttempts attempts).map .ok := by
  have ends := startAttempts_ends (unitDefinition model application) application
    (unitDefinition model application).retry.maxAttempts attempts
    (makeError .backendError "application did not reach its required state") {}
  generalize ran : (startAttempts (unitDefinition model application) application
    (unitDefinition model application).retry.maxAttempts
    (makeError .backendError "application did not reach its required state") {}).runUntil answerAttempt
      attempts = result at ends
  have steps := runUntil_startUnits model application attempts transition next rest
  cases ends with
  | accepted held same holds =>
      subst holds
      rw [Program.runUntil_bind_done ran] at steps
      rw [insertedOn_of_run (steps.trans (Program.runUntil_blocked rfl)), held]
      simp [Program.pending, same]
  | @failed value left missing fails =>
      rw [Program.runUntil_bind_done ran] at steps
      cases value with
      | ok done => exact absurd rfl fails
      | error last =>
          obtain ⟨continued, loads⟩ := recover_loads model application transition last.1 last.2
          dsimp only at steps
          rw [loads, Program.runUntil_blocked rfl] at steps
          rw [insertedOn_of_run steps, missing]
          simp [Program.pending]
  | silent missing =>
      rw [Program.runUntil_bind_blocked ran] at steps
      rw [insertedOn_of_run steps, missing]
      simp [Program.pending]

/-- The recovery inserts a unit on the first evidence that passes its test. -/
theorem insertedOn_recoveryStarts (failure : TransitionFailure) (rest : List ExecutionUnitId) :
    insertedOn (recoveryStarts model (application :: rest) failure) application attempts =
      (acceptedEvidence (recoveryStateReached (unitDefinition model application))
        (unitDefinition model application).retry.maxAttempts attempts).map .ok := by
  have ends := recoveryAttempts_ends (unitDefinition model application) application
    (unitDefinition model application).retry.maxAttempts attempts failure
  rw [recoveryStarts]
  generalize ran : (recoveryAttempts (unitDefinition model application) application
    (unitDefinition model application).retry.maxAttempts failure).runUntil answerAttempt attempts = result at ends
  cases ends with
  | @accepted value _ _ _ held same holds =>
      obtain ⟨outcome, recovered⟩ := value
      obtain rfl : outcome = .ok () := holds
      rw [insertedOn_of_run ((Program.runUntil_bind_done ran).trans (Program.runUntil_blocked rfl)), held]
      simp [Program.pending, same]
  | @failed value left missing fails =>
      obtain ⟨outcome, recovered⟩ := value
      cases outcome with
      | ok done => exact absurd rfl fails
      | error error =>
          rw [insertedOn_of_run ((Program.runUntil_bind_done ran).trans rfl), missing]
          simp [Program.runUntil, Program.pending]
  | silent missing =>
      rw [insertedOn_of_run (Program.runUntil_bind_blocked ran), missing]
      simp [Program.pending]

end Insertions

section Agreement
variable {definition : ExecutionUnitDefinition} {state : ApplicationState} {attempts : List Attempt}

/-- An attempt that the loops reach reports a unit that is still starting. -/
def ReportsStarting : Nat → List Attempt → Prop
  | remaining + 1, attempt :: rest =>
      attempt.expired = false ∧
        ((∃ evidence, attempt.started = .ok evidence ∧ evidence.state = .starting) ∨
          (∀ evidence, attempt.started = .ok evidence → evidence.state ≠ .ready) ∧ remaining ≠ 0 ∧
            isStopped attempt.cleaned = true ∧ ReportsStarting remaining rest)
  | _, _ => False

/-- The two loops meet the readiness policy of a unit and insert it on the same evidence. -/
structure StartContract (readiness : ReadinessPolicy) (executed recovered : Option (Result BackendEvidence)) :
    Prop where
  executes : ∀ started ∈ executed, ∃ evidence, started = .ok evidence ∧ Meets readiness evidence.state
  recovers : ∀ started ∈ recovered, ∃ evidence, started = .ok evidence ∧ Meets readiness evidence.state
  agrees : executed = recovered

/-- `Execute` tests the readiness policy. -/
theorem requiredStateReached_iff : requiredStateReached definition state = true ↔ Meets definition.readiness state := by
  unfold requiredStateReached Meets
  by_cases started : definition.readiness = .processStarted <;> simp [started, or_comm]

/-- The recovery tests the same policy only when it is one of two. -/
theorem recoveryStateReached_eq
    (tested : definition.readiness = .lifecycleChannel ∨ definition.readiness = .processStarted) :
    recoveryStateReached definition = requiredStateReached definition := by
  funext state
  unfold recoveryStateReached requiredStateReached
  rcases tested with channel | started
  · simp [channel]
  · simp [started]

/-- Under every other policy the recovery accepts a unit that is still starting. -/
theorem recoveryStateReached_other (other : definition.readiness ≠ .lifecycleChannel) :
    recoveryStateReached definition state = (state == .starting || state == .ready) := by
  simp [recoveryStateReached, other]

theorem requiredStateReached_other (other : definition.readiness ≠ .processStarted) :
    requiredStateReached definition state = (state == .ready) := by
  simp [requiredStateReached, other]

theorem acceptedEvidence_accepts
    (found : acceptedEvidence accepts remaining attempts = some evidence) : accepts evidence.state = true := by
  fun_induction acceptedEvidence accepts remaining attempts with
  | case2 attempt rest remaining running reply answered accepted =>
      cases found
      exact accepted
  | case3 attempt rest remaining running reply answered refused again ih => exact ih found
  | case5 attempt rest remaining running error answered again ih => exact ih found
  | _ => cases found

/-- The two tests accept the same evidence when no attempt reports a unit that is still starting. -/
theorem acceptedEvidence_same (channel : definition.readiness ≠ .lifecycleChannel)
    (process : definition.readiness ≠ .processStarted) (quiet : ¬ ReportsStarting remaining attempts) :
    acceptedEvidence (requiredStateReached definition) remaining attempts =
      acceptedEvidence (recoveryStateReached definition) remaining attempts := by
  induction remaining generalizing attempts with
  | zero => cases attempts <;> rfl
  | succ remaining ih =>
      cases attempts with
      | nil => rfl
      | cons attempt rest =>
          have later (unready : ∀ evidence, attempt.started = .ok evidence → evidence.state ≠ .ready)
              (running : attempt.expired = false) (again : remaining ≠ 0 ∧ isStopped attempt.cleaned = true) :
              ¬ ReportsStarting remaining rest := fun reported =>
            quiet ⟨running, .inr ⟨unready, again.1, again.2, reported⟩⟩
          simp only [acceptedEvidence, requiredStateReached_other process, recoveryStateReached_other channel]
          by_cases running : attempt.expired = false
          · simp only [running, Bool.false_eq_true, if_false]
            cases answered : attempt.started with
            | error error =>
                by_cases again : remaining ≠ 0 ∧ isStopped attempt.cleaned = true
                · rw [if_pos again, if_pos again]
                  exact ih (later (by simp [answered]) running again)
                · rw [if_neg again, if_neg again]
            | ok reply =>
                have idle : reply.state ≠ .starting := fun starting =>
                  quiet ⟨running, .inl ⟨reply, answered, starting⟩⟩
                by_cases ready : reply.state = .ready
                · simp [ready]
                · simp only [beq_iff_eq, ready, idle, Bool.or_eq_true, or_self, if_false]
                  by_cases again : remaining ≠ 0 ∧ isStopped attempt.cleaned = true
                  · rw [if_pos again, if_pos again]
                    exact ih (later (by simpa [answered] using ready) running again)
                  · rw [if_neg again, if_neg again]
          · simp [running]

/-- The recovery accepts the first report of a unit that is still starting. -/
theorem acceptedEvidence_starting (channel : definition.readiness ≠ .lifecycleChannel)
    (starting : ReportsStarting remaining attempts) :
    ∃ evidence, acceptedEvidence (recoveryStateReached definition) remaining attempts = some evidence ∧
      evidence.state = .starting := by
  induction remaining generalizing attempts with
  | zero => cases attempts <;> exact starting.elim
  | succ remaining ih =>
      cases attempts with
      | nil => exact starting.elim
      | cons attempt rest =>
          obtain ⟨running, ⟨evidence, answered, reports⟩ | ⟨unready, again, cleaned, later⟩⟩ := starting
          · exact ⟨evidence, by
              simp [acceptedEvidence, running, answered, recoveryStateReached_other channel, reports], reports⟩
          · obtain ⟨found, accepted, reports⟩ := ih later
            cases answered : attempt.started with
            | error error =>
                exact ⟨found, by simp [acceptedEvidence, running, answered, again, cleaned, accepted], reports⟩
            | ok reply =>
                by_cases starts : reply.state = .starting
                · exact ⟨reply, by
                    simp [acceptedEvidence, running, answered, recoveryStateReached_other channel, starts], starts⟩
                · have idle := unready reply answered
                  exact ⟨found, by
                    simp [acceptedEvidence, running, answered, recoveryStateReached_other channel, starts, idle,
                      again, cleaned, accepted], reports⟩

variable (model : ValidatedModel) (application : ExecutionUnitId) (transition : TransitionSnapshot)
  (next : EngineProgram (Result TransitionSnapshot)) (failure : TransitionFailure)
  (starts recoveryStarted : List ExecutionUnitId)

/-- `Execute` inserts a unit only on evidence that meets its policy. -/
theorem insertedOn_startUnits_meets (attempts : List Attempt) :
    ∀ started ∈ insertedOn (startUnits model transition next (application :: starts)) application attempts,
      ∃ evidence, started = .ok evidence ∧ Meets (unitDefinition model application).readiness evidence.state := by
  intro started inserted
  rw [insertedOn_startUnits] at inserted
  obtain ⟨evidence, found, rfl⟩ := Option.map_eq_some_iff.mp inserted
  exact ⟨evidence, rfl, requiredStateReached_iff.mp (acceptedEvidence_accepts found)⟩

/-- The two loops agree exactly for two of the policies, and for the others as long as no attempt
that they reach reports a unit that is still starting. -/
theorem startContract_iff (attempts : List Attempt) : StartContract (unitDefinition model application).readiness
        (insertedOn (startUnits model transition next (application :: starts)) application attempts)
        (insertedOn (recoveryStarts model (application :: recoveryStarted) failure) application attempts) ↔
      (unitDefinition model application).readiness = .lifecycleChannel ∨
        (unitDefinition model application).readiness = .processStarted ∨
        ¬ ReportsStarting (unitDefinition model application).retry.maxAttempts attempts := by
  have executes := insertedOn_startUnits_meets model application transition next starts attempts
  constructor
  · intro contract
    by_contra differs
    simp only [not_or, not_not] at differs
    obtain ⟨channel, process, starting⟩ := differs
    obtain ⟨evidence, accepted, reports⟩ := acceptedEvidence_starting channel starting
    obtain ⟨found, same, meets⟩ := contract.recovers (.ok evidence) (by
      simp [insertedOn_recoveryStarts, accepted])
    obtain rfl := Except.ok.inj same
    rcases meets with ready | ⟨started, _⟩
    · simp [reports] at ready
    · exact process started
  · intro agree
    have same : insertedOn (startUnits model transition next (application :: starts)) application attempts =
        insertedOn (recoveryStarts model (application :: recoveryStarted) failure) application attempts := by
      rw [insertedOn_startUnits, insertedOn_recoveryStarts]
      by_cases tested : (unitDefinition model application).readiness = .lifecycleChannel ∨
          (unitDefinition model application).readiness = .processStarted
      · rw [recoveryStateReached_eq tested]
      · obtain ⟨channel, process⟩ := not_or.mp tested
        have quiet := (agree.resolve_left channel).resolve_left process
        rw [acceptedEvidence_same channel process quiet]
    exact ⟨executes, same ▸ executes, same⟩

/-- The service announces its readiness. -/
def announcingService : ValidatedModel where
  value := {
    generation := 1
    units := [{ id := 1, name := "broker", kind := .service, readiness := .supervisorNotification }]
    domains := [{ id := 1, name := "gateway", initialMode := 1, modes := [{ id := 1, name := "off" },
      { id := 2, name := "on", units := [1] }] }] }
  valid := by decide +kernel

/-- The recovery inserts a service that has not announced its readiness. -/
theorem startContract_fails : ¬ StartContract (unitDefinition announcingService 1).readiness
    (insertedOn (startUnits announcingService { id := 1, domain := 1, targetMode := 2 } (return .error {}) [1]) 1
      [⟨false, .ok { state := .starting }, .ok { state := .stopped }⟩])
    (insertedOn (recoveryStarts announcingService [1] {}) 1
      [⟨false, .ok { state := .starting }, .ok { state := .stopped }⟩]) := by
  intro contract
  have inserted : insertedOn (recoveryStarts announcingService [1] {}) 1
      [⟨false, .ok { state := .starting }, .ok { state := .stopped }⟩] = some (.ok { state := .starting }) := by
    rfl
  obtain ⟨evidence, same, meets⟩ := contract.recovers _ inserted
  obtain rfl := Except.ok.inj same
  rcases meets with ready | ⟨started, _⟩
  · cases ready
  · cases started

end Agreement

end OpenVehicle.Exec
