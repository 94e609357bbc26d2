/-
This file proves that a transition thread follows its work tree.
-/

import OpenVehicle.Exec.Control
import OpenVehicle.Exec.ModelFacts

namespace OpenVehicle.Exec

open Concurrency Program ExecutionEngine

variable {failure : TransitionFailure} {evidence : BackendEvidence} {mode : Option ModeId}
variable {stopped started : List ExecutionUnitId} {application : Option ApplicationId} {cause : Error}
variable {plan : TransitionPlan}

section Conformance
variable {model : ValidatedModel} {A : Type} {final : Position → A → Prop} {position : Position}
variable {snapshot : TransitionSnapshot} {phase : TransitionPhase}

/-- One call of an operation is one step of the work. -/
theorem follows_move {work : Work} {op : EngineOp} {next : op.Reply → EngineProgram A}
    (each : ∀ reply, ∃ later, Moves model position.transition position.plan work op reply later ∧
      Follows (Rule model) final (position.go later) (next reply)) :
    Follows (Rule model) final (position.go work) (.call op next) := by
  intro reply
  obtain ⟨later, moves, follows⟩ := each reply
  exact ⟨position.go later, .move position moves, follows⟩

theorem follows_record {candidates : TransitionSnapshot → Prop} {recorded failed : Work}
    {next : Result Unit × TransitionSnapshot → EngineProgram A}
    (candidate : candidates { snapshot with phase := phase }) (kin : Kin position.transition snapshot)
    (ok : Follows (Rule model) final (position.go recorded) (next (.ok (), { snapshot with phase := phase })))
    (error : ∀ error, Follows (Rule model) final (position.go failed)
      (next (.error error, { snapshot with phase := phase }))) :
    Follows (Rule model) final (position.go (.recording candidates recorded failed))
      (record model snapshot phase >>= next) := by
  have same : Kin position.transition { snapshot with phase := phase } := ⟨kin.id, kin.domain, kin.source, kin.target⟩
  unfold record
  simp only [EngineOp.call, perform_bind, call_bind]
  refine follows_move fun found => ⟨_, .load { snapshot with phase := phase } found candidate same, ?_⟩
  refine follows_move fun reply => ?_
  cases reply with
  | ok value =>
      refine ⟨_, .append _ recorded failed, ?_⟩
      simp only [call_bind]
      refine follows_move fun _ => ⟨_, .store _ recorded same, ?_⟩
      exact ok
  | error cause => exact ⟨_, .appendFailed _ recorded failed cause, error _⟩

theorem follows_fail {after : Work} {next : Result TransitionSnapshot → EngineProgram A}
    (kin : Kin position.transition snapshot)
    (rest : ∀ result, Follows (Rule model) final (position.go after) (next result)) :
    Follows (Rule model) final (position.go (Work.failing position.transition after))
      (fail model snapshot cause application evidence >>= next) := by
  unfold fail Work.failing
  rw [Program.bind_assoc]
  refine follows_record ⟨cause.code, { error := cause, application, evidence }, ⟨rfl, rfl, rfl⟩, ?_⟩
    ⟨kin.id, kin.domain, kin.source, kin.target⟩ (rest _) fun _ => rest _
  simp only [kin.id, kin.domain, kin.source, kin.target]

/-- The report of a failure does not depend on the application or the evidence. -/
theorem Work.Reports.with
    (reports : Work.Reports failure stopped started mode)
    (application : Option ApplicationId) (evidence : BackendEvidence) :
    Work.Reports { failure with application, evidence } stopped started mode :=
  ⟨reports.stopped, reports.started, reports.mode⟩

section Attempts
variable {definition : ExecutionUnitDefinition} {unit : ExecutionUnitId} {started other : Work}
variable {state : ApplicationState}

theorem unready_of_recovery (missed : ¬ recoveryStateReached definition state = true) : state ≠ .ready := by
  rintro rfl
  apply missed
  unfold recoveryStateReached
  split <;> rfl

theorem unready_of_required (missed : ¬ requiredStateReached definition state = true) : state ≠ .ready := by
  rintro rfl
  apply missed
  unfold requiredStateReached
  split <;> rfl

theorem unfavourable_start (unready : evidence.state ≠ .ready) : ¬ Favourable (.start unit) (.ok evidence) := by
  rintro ⟨_, ⟨⟩, ready⟩
  exact unready ready

variable {next : Result Unit × TransitionFailure → EngineProgram A} {stoppedUnits startedUnits : List ExecutionUnitId}

theorem follows_recoveryCleanup {retry : TransitionFailure → EngineProgram (Result Unit × TransitionFailure)}
    (reports : Work.Reports failure stoppedUnits startedUnits none)
    (again : Follows (Rule model) final (position.go (.attempting unit started other)) (retry failure >>= next))
    (error : ∀ cause failure, Work.Reports failure stoppedUnits startedUnits none →
      Follows (Rule model) final (position.go other) (next (.error cause, failure))) :
    Follows (Rule model) final (position.go (.attempting unit started other))
      (recoveryCleanup unit retry failure >>= next) := by
  unfold recoveryCleanup
  simp only [EngineOp.call, perform_bind, call_bind]
  refine follows_move fun reply => ?_
  cases reply with
  | error cause =>
      exact ⟨_, .attemptFailed _ _ _ (.inr (.inr ⟨_, rfl⟩)) (by simp [Favourable, hasStopped]),
        error _ _ (reports.with _ _)⟩
  | ok evidence =>
      by_cases stopped : evidence.state = .stopped
      · refine ⟨_, .attempt _ _ _ (.inr (.inr ⟨_, rfl⟩)), ?_⟩
        simpa only [stopped, if_true] using again
      · refine ⟨_, .attemptFailed _ _ _ (.inr (.inr ⟨_, rfl⟩)) (by simp [Favourable, hasStopped, stopped]), ?_⟩
        simp only [stopped, if_false]
        exact error _ _ (reports.with _ _)

variable {remaining : Nat}

/-- The recovery keeps its report while it attempts to start one unit. -/
theorem follows_recoveryAttempts (reports : Work.Reports failure stoppedUnits startedUnits none)
    (ok : ∀ failure, Work.Reports failure stoppedUnits startedUnits none →
      Follows (Rule model) final (position.go started) (next (.ok (), failure)))
    (error : ∀ cause failure, Work.Reports failure stoppedUnits startedUnits none →
      Follows (Rule model) final (position.go other) (next (.error cause, failure))) :
    Follows (Rule model) final (position.go (.attempting unit started other))
      (recoveryAttempts definition unit (remaining + 1) failure >>= next) := by
  induction remaining generalizing failure with
  | zero =>
      unfold recoveryAttempts
      simp only [EngineOp.call, perform_bind, call_bind]
      refine follows_move fun late => ?_
      cases late with
      | true => exact ⟨_, .attemptFailed _ _ _ (.inl rfl) (by simp [Favourable]), error _ _ reports⟩
      | false =>
          refine ⟨_, .attempt _ _ _ (.inl rfl), follows_move fun reply => ?_⟩
          cases reply with
          | error cause =>
              exact ⟨_, .attemptFailed _ _ _ (.inr (.inl rfl)) (by simp [Favourable]),
                error _ _ (reports.with _ _)⟩
          | ok evidence =>
              by_cases reached : recoveryStateReached definition evidence.state = true
              · refine ⟨_, .attemptStarted _ _ _ evidence, ?_⟩
                simp only [reached, if_true]
                exact ok _ (reports.with _ _)
              · refine ⟨_, .attemptFailed _ _ _ (.inr (.inl rfl))
                  (unfavourable_start (unready_of_recovery reached)), ?_⟩
                simp only [reached, if_true]
                exact error _ _ (reports.with _ _)
  | succ remaining ih =>
      unfold recoveryAttempts
      simp only [EngineOp.call, perform_bind, call_bind]
      refine follows_move fun late => ?_
      cases late with
      | true => exact ⟨_, .attemptFailed _ _ _ (.inl rfl) (by simp [Favourable]), error _ _ reports⟩
      | false =>
          refine ⟨_, .attempt _ _ _ (.inl rfl), follows_move fun reply => ?_⟩
          cases reply with
          | error cause =>
              refine ⟨_, .attempt _ _ _ (.inr (.inl rfl)), ?_⟩
              exact follows_recoveryCleanup reports (ih reports) error
          | ok evidence =>
              by_cases reached : recoveryStateReached definition evidence.state = true
              · refine ⟨_, .attemptStarted _ _ _ evidence, ?_⟩
                simp only [reached, if_true]
                exact ok _ (reports.with _ _)
              · refine ⟨_, .attempt _ _ _ (.inr (.inl rfl)), ?_⟩
                simp only [reached]
                exact follows_recoveryCleanup (reports.with _ _) (ih (reports.with _ _)) error

variable {next : Except (Error × BackendEvidence) Unit → EngineProgram A} {lastEvidence : BackendEvidence}
variable {lastError : Error}

theorem follows_startCleanup {retry : Error → BackendEvidence →
    EngineProgram (Except (Error × BackendEvidence) Unit)} (again : ∀ error evidence, Follows (Rule model) final
      (position.go (.attempting unit started other)) (retry error evidence >>= next))
    (error : ∀ last, Follows (Rule model) final (position.go other) (next (.error last))) :
    Follows (Rule model) final (position.go (.attempting unit started other))
      (startCleanup unit false retry lastError lastEvidence >>= next) := by
  unfold startCleanup
  simp only [EngineOp.call, perform_bind, Bool.false_eq_true, if_false, call_bind]
  refine follows_move fun reply => ?_
  cases reply with
  | error cause =>
      exact ⟨_, .attemptFailed _ _ _ (.inr (.inr ⟨_, rfl⟩)) (by simp [Favourable, hasStopped]), error _⟩
  | ok evidence =>
      by_cases stopped : evidence.state = .stopped
      · refine ⟨_, .attempt _ _ _ (.inr (.inr ⟨_, rfl⟩)), ?_⟩
        simpa only [stopped, if_true] using again _ _
      · refine ⟨_, .attemptFailed _ _ _ (.inr (.inr ⟨_, rfl⟩)) (by simp [Favourable, hasStopped, stopped]), ?_⟩
        simp only [stopped, if_false]
        exact error _

theorem follows_startAttempts (ok : Follows (Rule model) final (position.go started) (next (.ok ())))
    (error : ∀ last, Follows (Rule model) final (position.go other) (next (.error last))) :
    Follows (Rule model) final (position.go (.attempting unit started other))
      (startAttempts definition unit (remaining + 1) lastError lastEvidence >>= next) := by
  induction remaining generalizing lastError lastEvidence with
  | zero =>
      unfold startAttempts
      simp only [EngineOp.call, perform_bind, call_bind]
      refine follows_move fun late => ?_
      cases late with
      | true => exact ⟨_, .attemptFailed _ _ _ (.inl rfl) (by simp [Favourable]), error _⟩
      | false =>
          refine ⟨_, .attempt _ _ _ (.inl rfl), follows_move fun reply => ?_⟩
          cases reply with
          | error cause =>
              exact ⟨_, .attemptFailed _ _ _ (.inr (.inl rfl)) (by simp [Favourable]), error _⟩
          | ok evidence =>
              by_cases reached : requiredStateReached definition evidence.state = true
              · refine ⟨_, .attemptStarted _ _ _ evidence, ?_⟩
                simp only [reached, if_true]
                exact ok
              · refine ⟨_, .attemptFailed _ _ _ (.inr (.inl rfl))
                  (unfavourable_start (unready_of_required reached)), ?_⟩
                simp only [reached]
                exact error _
  | succ remaining ih =>
      unfold startAttempts
      simp only [EngineOp.call, perform_bind, call_bind]
      refine follows_move fun late => ?_
      cases late with
      | true => exact ⟨_, .attemptFailed _ _ _ (.inl rfl) (by simp [Favourable]), error _⟩
      | false =>
          refine ⟨_, .attempt _ _ _ (.inl rfl), follows_move fun reply => ?_⟩
          cases reply with
          | error cause =>
              refine ⟨_, .attempt _ _ _ (.inr (.inl rfl)), ?_⟩
              exact follows_startCleanup (fun _ _ => ih) error
          | ok evidence =>
              by_cases reached : requiredStateReached definition evidence.state = true
              · refine ⟨_, .attemptStarted _ _ _ evidence, ?_⟩
                simp only [reached, if_true]
                exact ok
              · refine ⟨_, .attempt _ _ _ (.inr (.inl rfl)), ?_⟩
                simp only [reached]
                exact follows_startCleanup (fun _ _ => ih) error

end Attempts

/-- The definition of every unit allows at least one attempt. -/
theorem unitDefinition_attempts (model : ValidatedModel) (unit : ExecutionUnitId) :
    ∃ remaining, (unitDefinition model unit).retry.maxAttempts = remaining + 1 := by
  apply Nat.exists_eq_add_one.mpr
  unfold unitDefinition
  cases found : model.findUnit unit with
  | none => decide
  | some definition => exact ValidatedModel.maxAttempts_pos found

section Recovery
variable {stopped started rest : List ExecutionUnitId}
variable {next : Result Unit × TransitionFailure → EngineProgram A}

theorem follows_recoveryStarts (reports : Work.Reports failure stopped started none)
    (ok : ∀ failure, Work.Reports failure stopped (started ++ rest) none → Follows (Rule model) final
        (position.go (Work.repairStarts position.transition mode stopped [] (started ++ rest)))
        (next (.ok (), failure))) (error : ∀ cause failure ready, Work.Reports failure stopped ready none →
      Follows (Rule model) final (position.go (Work.repaired position.transition .recoveryFailed stopped ready none))
        (next (.error cause, failure))) :
    Follows (Rule model) final (position.go (Work.repairStarts position.transition mode stopped rest started))
      (recoveryStarts model rest failure >>= next) := by
  induction rest generalizing failure started with
  | nil =>
      rw [List.append_nil] at ok
      exact ok failure reports
  | cons unit rest ih =>
      obtain ⟨remaining, attempts⟩ := unitDefinition_attempts model unit
      unfold recoveryStarts
      simp only [attempts, Program.bind_assoc]
      refine follows_recoveryAttempts reports ?_ fun cause failure reports =>
        error cause failure started reports
      intro failure reports
      refine follows_move fun _ => ⟨_, .insert unit _, ?_⟩
      refine ih ⟨reports.stopped, ?_, reports.mode⟩ ?_
      · rw [← reports.started]
      · simpa only [List.append_assoc, List.singleton_append] using ok

theorem follows_recoveryStops {starts : List ExecutionUnitId} (reports : Work.Reports failure stopped [] none)
    (ok : ∀ failure, Work.Reports failure (stopped ++ rest) [] none → Follows (Rule model) final
        (position.go (Work.repairStops position.transition mode starts [] (stopped ++ rest))) (next (.ok (), failure)))
    (error : ∀ cause failure done, Work.Reports failure done [] none → Follows (Rule model) final
        (position.go (Work.repaired position.transition .recoveryFailed done [] none)) (next (.error cause, failure))) :
    Follows (Rule model) final (position.go (Work.repairStops position.transition mode starts rest stopped))
      (recoveryStops rest failure >>= next) := by
  induction rest generalizing failure stopped with
  | nil =>
      rw [List.append_nil] at ok
      exact ok failure reports
  | cons unit rest ih =>
      unfold recoveryStops
      simp only [EngineOp.call, perform_bind, call_bind]
      refine follows_move fun reply => ⟨_, .stop unit _ _ _ reply, ?_⟩
      cases reply with
      | error cause => exact error _ _ _ (reports.with _ _)
      | ok evidence =>
          by_cases gone : evidence.state = .stopped
          · simp only [hasStopped, gone, beq_self_eq_true, if_true, call_bind]
            refine follows_move fun _ => ⟨_, .erase unit _, ?_⟩
            refine ih ⟨?_, reports.started, reports.mode⟩ ?_
            · rw [← reports.stopped]
            · simpa only [List.append_assoc, List.singleton_append] using ok
          · have other : (evidence.state == ApplicationState.stopped) = false := by simpa using gone
            simp only [hasStopped, gone, other, Bool.false_eq_true, if_false]
            exact error _ _ _ (reports.with _ _)

/-- A recovery plan stops its units, starts its units and reports both. -/
theorem follows_applyRecoveryPlan {stops starts : List ExecutionUnitId} (reports : Work.Reports failure [] [] none)
    (ok : ∀ failure, Work.Reports failure stops starts none → Follows (Rule model) final
        (position.go (Work.repairStarts position.transition mode stops [] starts)) (next (.ok (), failure)))
    (error : ∀ cause failure done ready, Work.Reports failure done ready none → Follows (Rule model) final
        (position.go (Work.repaired position.transition .recoveryFailed done ready none))
        (next (.error cause, failure))) :
    Follows (Rule model) final (position.go (Work.repairStops position.transition mode starts stops []))
      (applyRecoveryPlan model stops starts failure >>= next) := by
  unfold applyRecoveryPlan
  rw [Program.bind_assoc]
  refine follows_recoveryStops reports ?_ fun cause failure done reports =>
    error cause failure done [] reports
  intro failure reports
  exact follows_recoveryStarts reports ok fun cause failure ready reports =>
    error cause failure _ ready reports

/-- The action of the domain decides the work of its recovery. -/
theorem follows_recoverDomain {domain : DomainDefinition}
    (defined : model.findDomain position.transition.domain = some domain) (reports : Work.Reports failure [] [] none)
    (ok : ∀ failure done ready mode, Work.Reports failure done ready mode → Follows (Rule model) final
        (position.go (Work.repaired position.transition .failed done ready mode)) (next (.ok (), failure)))
    (error : ∀ cause failure done ready, Work.Reports failure done ready none → Follows (Rule model) final
        (position.go (Work.repaired position.transition .recoveryFailed done ready none))
        (next (.error cause, failure))) :
    Follows (Rule model) final (position.go (Work.recovery position.transition domain))
      (recoverDomain model domain failure >>= next) := by
  have same : domain.id = position.transition.domain := (findDomain_eq_some defined).2
  unfold recoverDomain Work.recovery
  cases action : domain.recovery.action with
  | enterFallbackMode =>
      simp only [EngineOp.call, perform_bind, call_bind]
      refine follows_move fun configuration => ⟨_, .read domain configuration, ?_⟩
      simp only [Work.repair, action]
      cases planned : TransitionPlanner.reconcile model configuration domain.id
          domain.recovery.fallbackMode with
      | error cause => exact error _ _ _ _ reports
      | ok plan =>
          simp only [Program.bind_assoc]
          refine follows_applyRecoveryPlan reports ?_ error
          intro failure reports
          simp only [Work.repairStarts, call_bind]
          refine follows_move fun _ => ⟨_, .commit _ _ _ same, ?_⟩
          exact ok _ _ _ _ ⟨reports.stopped, reports.started, rfl⟩
  | stopDomain =>
      simp only [EngineOp.call, perform_bind, call_bind]
      refine follows_move fun configuration => ⟨_, .read domain configuration, ?_⟩
      simp only [Work.repair, action]
      cases planned : TransitionPlanner.stopDomainUnits model configuration domain.id with
      | error cause => exact error _ _ _ _ reports
      | ok stopped =>
          refine follows_applyRecoveryPlan reports ?_ error
          intro failure reports
          exact ok _ _ _ _ reports
  | requestSystemRecovery =>
      simp only [EngineOp.call, perform_bind, call_bind]
      refine follows_move fun reply => ?_
      cases reply with
      | ok value => exact ⟨_, .accepted _ _, ok _ _ _ _ reports⟩
      | error cause => exact ⟨_, .refused _ _ cause, error _ _ _ _ reports⟩
  | holdObservedConfiguration => exact error _ _ _ _ reports
  | rollbackIfDeclaredSafe => exact error _ _ _ _ reports

end Recovery

section Execution
variable {next : Result TransitionSnapshot → EngineProgram A}

/-- The last record of a recovery ends the transition in every case. -/
theorem follows_repaired {after : Result Unit × TransitionSnapshot → EngineProgram A}
    (kin : Kin position.transition snapshot) (reports : Work.Reports failure stopped started mode)
    (rest : ∀ result, Follows (Rule model) final (position.go Work.exit) (after result)) :
    Follows (Rule model) final (position.go (Work.repaired position.transition phase stopped started mode))
      (record model { snapshot with failure := some failure } phase >>= after) := by
  refine follows_record ⟨failure, reports, ?_⟩ ⟨kin.id, kin.domain, kin.source, kin.target⟩
    (rest _) fun _ => rest _
  simp only [kin.id, kin.domain, kin.source, kin.target]

theorem follows_recover {application : ApplicationId} (kin : Kin position.transition snapshot)
    (rest : ∀ result, Follows (Rule model) final (position.go Work.exit) (next result)) :
    Follows (Rule model) final (position.go (Work.recovering model position.transition))
      (recover model snapshot cause application evidence >>= next) := by
  have located : model.findDomain snapshot.domain = model.findDomain position.transition.domain := by
    rw [kin.domain]
  unfold recover Work.recovering
  simp only [located]
  cases defined : model.findDomain position.transition.domain with
  | none => exact follows_fail ⟨kin.id, kin.domain, kin.source, kin.target⟩ rest
  | some domain =>
      by_cases hold : domain.recovery.action = .holdObservedConfiguration
      · simp only [hold, if_true]
        exact follows_fail ⟨kin.id, kin.domain, kin.source, kin.target⟩ rest
      · simp only [hold, if_false, Program.bind_assoc]
        let attempted : TransitionFailure := {
          error := cause
          application := some application
          evidence := evidence
          recoveryAction := domain.recovery.action
          recoveryAttempted := true }
        refine follows_record ⟨attempted, ⟨rfl, rfl, rfl⟩, ?_⟩
          ⟨kin.id, kin.domain, kin.source, kin.target⟩ ?_ fun _ => ?_
        · simp only [kin.id, kin.domain, kin.source, kin.target, attempted]
        · simp only [Program.bind_assoc]
          refine follows_recoverDomain defined ⟨rfl, rfl, rfl⟩ ?_ ?_
          · intro failure done ready mode reports
            simp only [Program.bind_assoc]
            refine follows_repaired ⟨kin.id, kin.domain, kin.source, kin.target⟩
              ⟨reports.stopped, reports.started, reports.mode⟩ fun result => ?_
            split <;> exact rest _
          · intro cause failure done ready reports
            simp only [Program.bind_assoc]
            refine follows_repaired ⟨kin.id, kin.domain, kin.source, kin.target⟩
              ⟨reports.stopped, reports.started, reports.mode⟩ fun result => ?_
            split <;> exact rest _
        · exact follows_fail ⟨kin.id, kin.domain, kin.source, kin.target⟩ rest

/-- A recorded phase continues, and a phase that cannot be recorded fails the transition. -/
theorem follows_recordOrFail {old : TransitionPhase} {continued after : Work}
    {rest : TransitionSnapshot → EngineProgram (Result TransitionSnapshot)}
    (ok : Follows (Rule model) final (position.go continued)
      (rest { position.transition with phase := phase } >>= next))
    (failed : ∀ result, Follows (Rule model) final (position.go after) (next result)) :
    Follows (Rule model) final (position.go (Work.recordPhase position.transition phase continued after))
      (recordOrFail model { position.transition with phase := old } phase rest >>= next) := by
  unfold recordOrFail Work.recordPhase
  rw [Program.bind_assoc]
  exact follows_record rfl ⟨rfl, rfl, rfl, rfl⟩ ok fun _ => follows_fail ⟨rfl, rfl, rfl, rfl⟩ failed

variable (leave : ∀ result, Follows (Rule model) final (position.go Work.exit) (next result))
include leave

theorem follows_commitTarget : Follows (Rule model) final (position.go (Work.commit position.transition))
      (commitTarget model { position.transition with phase := phase } >>= next) := by
  refine follows_recordOrFail ?_ leave
  simp only [EngineOp.call, perform_bind, call_bind]
  refine follows_move fun _ => ⟨_, .commit _ _ _ rfl, ?_⟩
  exact follows_recordOrFail (leave _) leave

variable {rest : List ExecutionUnitId}

theorem follows_startUnits : Follows (Rule model) final (position.go (Work.starts model position.transition rest))
      (startUnits model { position.transition with phase := phase }
        (commitTarget model { position.transition with phase := phase }) rest >>= next) := by
  induction rest with
  | nil => exact follows_commitTarget leave
  | cons unit rest ih =>
      obtain ⟨remaining, attempts⟩ := unitDefinition_attempts model unit
      unfold startUnits Work.starts
      simp only [EngineOp.call, perform_bind, call_bind, attempts]
      refine follows_move fun cancelled => ⟨_, .poll _ cancelled, ?_⟩
      cases cancelled with
      | true => exact follows_fail ⟨rfl, rfl, rfl, rfl⟩ leave
      | false =>
          simp only [Bool.false_eq_true, if_false, Program.bind_assoc]
          refine follows_startAttempts ?_ fun last => follows_recover ⟨rfl, rfl, rfl, rfl⟩ leave
          simp only [call_bind]
          exact follows_move fun _ => ⟨_, .insert unit _, ih⟩

theorem follows_startAndCommit :
    Follows (Rule model) final (position.go (Work.beginStarts model position.transition plan.start))
      (startAndCommit model { position.transition with phase := phase } plan >>= next) := by
  unfold startAndCommit recordStarting Work.beginStarts
  split
  · exact follows_startUnits leave
  · refine follows_recordOrFail ?_ leave
    split
    · exact follows_recordOrFail (follows_startUnits leave) leave
    · exact follows_startUnits leave

theorem follows_stopUnits :
    Follows (Rule model) final (position.go (Work.stops model position.transition plan.start rest))
      (stopUnits model { position.transition with phase := phase }
        (startAndCommit model { position.transition with phase := phase } plan) rest >>= next) := by
  induction rest with
  | nil => exact follows_startAndCommit leave
  | cons unit rest ih =>
      unfold stopUnits Work.stops
      simp only [EngineOp.call, perform_bind, call_bind]
      refine follows_move fun cancelled => ⟨_, .poll _ cancelled, ?_⟩
      cases cancelled with
      | true => exact follows_fail ⟨rfl, rfl, rfl, rfl⟩ leave
      | false =>
          simp only [Bool.false_eq_true, if_false, call_bind]
          refine follows_move fun reply => ⟨_, .stop unit _ _ _ reply, ?_⟩
          cases reply with
          | error cause => exact follows_recover ⟨rfl, rfl, rfl, rfl⟩ leave
          | ok evidence =>
              by_cases gone : evidence.state = .stopped
              · simp only [hasStopped, gone, beq_self_eq_true, if_true, call_bind]
                exact follows_move fun _ => ⟨_, .erase unit _, ih⟩
              · have other : (evidence.state == ApplicationState.stopped) = false := by
                  simpa using gone
                simp only [hasStopped, gone, other, Bool.false_eq_true, if_false]
                exact follows_recover ⟨rfl, rfl, rfl, rfl⟩ leave

theorem follows_executePlan : Follows (Rule model) final (position.go (Work.execute model position.transition plan))
      (executePlan model { position.transition with phase := phase } plan >>= next) := by
  unfold executePlan Work.execute
  split
  · exact follows_startAndCommit leave
  · exact follows_recordOrFail (follows_stopUnits leave) leave

theorem follows_executeLeased (planned : position.plan = some plan) :
    Follows (Rule model) final (position.go .replanning)
      (executeLeased model { position.transition with phase := phase } plan >>= next) := by
  unfold executeLeased
  simp only [EngineOp.call, perform_bind, call_bind]
  refine follows_move fun reply => ⟨_, .replan plan planned reply, ?_⟩
  cases reply with
  | error cause => exact follows_fail ⟨rfl, rfl, rfl, rfl⟩ leave
  | ok replanned =>
      simp only [Work.confirm]
      split
      · exact follows_fail ⟨rfl, rfl, rfl, rfl⟩ leave
      · exact follows_executePlan leave

end Execution

section Request
variable {transition : TransitionSnapshot}

theorem follows_finished (value : Result TransitionSnapshot) (found : position.work = .finished) :
    Follows (Rule model) Returned position (.done value) := .inl found

/-- A thread that reads an unexpected snapshot is outside its protocol. -/
theorem follows_void (program : EngineProgram (Result TransitionSnapshot)) :
    Follows (Rule model) Returned (position.go .void) program := by
  induction program with
  | done value => exact .inr rfl
  | call op rest ih => exact follows_move fun reply => ⟨_, .void op reply, ih reply⟩

theorem follows_leased : Follows (Rule model) Returned ⟨transition, some plan, true, true, .replanning⟩ (do
        let result ← executeLeased model { transition with phase := .planned } plan
        EngineOp.call (.release transition.id)
        return result) := by
  let position : Position := ⟨transition, some plan, true, true, .replanning⟩
  show Follows _ _ (position.go .replanning) _
  refine follows_executeLeased (fun result => ?_) rfl
  intro _
  exact ⟨_, .release transition (some plan) true true, follows_finished result rfl⟩

/-- The lease is granted at once, after a wait, or not at all. -/
theorem follows_acquire {resources : TransitionResources} (checked :
      SchedulerState.checkRequest transition.id (planResources plan) = .ok resources)
    {next : Result Unit → EngineProgram (Result TransitionSnapshot)}
    (granted : Follows (Rule model) Returned ⟨transition, some plan, true, true, .replanning⟩ (next (.ok ())))
    (refused : ∀ cause, Follows (Rule model) Returned
      ⟨transition, some plan, true, false, Work.failing transition .finished⟩ (next (.error cause))) :
    Follows (Rule model) Returned ⟨transition, some plan, true, false, .entering⟩
      (acquire transition.id (planResources plan) >>= next) := by
  let position : Position := ⟨transition, some plan, true, false, .entering⟩
  unfold acquire
  simp only [checked, EngineOp.call, perform_bind, call_bind]
  intro reply
  cases reply with
  | error cause => exact ⟨position.go _, .move position (.enterRefused _ cause), refused cause⟩
  | ok entered =>
      cases entered with
      | true => exact ⟨_, .enterGranted transition plan true resources checked, granted⟩
      | false =>
          refine ⟨position.go _, .move position (.enterBlocked resources), ?_⟩
          intro woken
          cases woken with
          | error cause => exact ⟨position.go _, .move position (.wakeRefused resources cause), refused cause⟩
          | ok value => exact ⟨_, .wakeGranted transition plan true resources checked, granted⟩

/-- A thread without a lease returns after it has failed. -/
theorem follows_failLast (kin : Kin position.transition snapshot) :
    Follows (Rule model) Returned (position.go (Work.failing position.transition .finished))
      (fail model snapshot cause application evidence) := by
  rw [← Program.bind_done (fail model snapshot cause application evidence)]
  exact follows_fail kin fun result => follows_finished result rfl

/-- The thread executes an accepted transition. -/
theorem follows_execute : Follows (Rule model) Returned ⟨transition, some plan, true, false, .opening⟩
      (execute model ⟨transition.id, plan⟩) := by
  let position : Position := ⟨transition, some plan, true, false, .opening⟩
  unfold execute
  simp only [EngineOp.call, perform_bind]
  show Follows _ _ (position.go .opening) _
  refine follows_move fun reply => ?_
  by_cases expected : reply = .ok { transition with phase := .planned }
  · subst expected
    refine ⟨_, .opened plan rfl, ?_⟩
    unfold Work.request
    cases checked : SchedulerState.checkRequest transition.id (planResources plan) with
    | error cause =>
        unfold acquire
        simp only [checked, pure_eq, done_bind]
        exact follows_failLast ⟨rfl, rfl, rfl, rfl⟩
    | ok resources =>
        refine follows_acquire checked follows_leased fun cause => ?_
        show Follows _ _ (position.go (Work.failing position.transition .finished)) _
        exact follows_failLast ⟨rfl, rfl, rfl, rfl⟩
  · exact ⟨_, .stray reply expected, follows_void _⟩

end Request

/-- The first position of the thread that a request starts. -/
def opened (model : ValidatedModel) (id : TransitionId) (baseline : SystemConfiguration)
    (domain : DomainId) (target : ModeId) : Position :=
  let transition := received id baseline domain target
  let plan := (TransitionPlanner.plan model baseline domain target).toOption
  ⟨transition, plan, false, false, Work.accept transition plan⟩

section Accept
variable {id : TransitionId} {baseline : SystemConfiguration} {domain : DomainId} {target : ModeId}

/-- The plan of the request decides the work that accepts it. -/
theorem follows_acceptModeFrom {next : Result AcceptedTransition → EngineProgram (Result TransitionSnapshot)}
    (ok : ∀ plan, Follows (Rule model) Returned
      ⟨received id baseline domain target, some plan, true, false, .opening⟩ (next (.ok ⟨id, plan⟩)))
    (error : ∀ cause, ∃ value, next (.error cause) = .done value) :
    Follows (Rule model) Returned (opened model id baseline domain target)
      (acceptModeFrom model id baseline domain target >>= next) := by
  let position (plan : Option TransitionPlan) : Position :=
    ⟨received id baseline domain target, plan, true, false, .opening⟩
  have leave : ∀ plan failed, Follows (Rule model) Returned ((position plan).go .finished)
      (next (.error (failureError failed))) := by
    intro plan failed
    obtain ⟨value, returned⟩ := error (failureError failed)
    rw [returned]
    exact follows_finished value rfl
  unfold acceptModeFrom opened
  cases TransitionPlanner.plan model baseline domain target with
  | error cause =>
      simp only [EngineOp.call, perform_bind, call_bind, Program.bind_assoc]
      intro _
      refine ⟨_, .register _ none false _, ?_⟩
      show Follows _ _ ((position none).go (Work.failing (position none).transition .finished)) _
      exact follows_fail ⟨rfl, rfl, rfl, rfl⟩ (leave none)
  | ok plan =>
      simp only [EngineOp.call, perform_bind, call_bind, Program.bind_assoc]
      intro _
      refine ⟨_, .register _ (some plan) false _, ?_⟩
      show Follows _ _ ((position (some plan)).go (Work.recordPhase (position (some plan)).transition
        .validated (Work.recordPhase (position (some plan)).transition .planned .opening .finished) .finished)) _
      refine follows_record rfl ⟨rfl, rfl, rfl, rfl⟩ ?_ fun _ => ?_
      · simp only [Program.bind_assoc]
        refine follows_record rfl ⟨rfl, rfl, rfl, rfl⟩ (ok plan) fun _ => ?_
        simp only [Program.bind_assoc]
        exact follows_fail ⟨rfl, rfl, rfl, rfl⟩ (leave (some plan))
      · simp only [Program.bind_assoc]
        exact follows_fail ⟨rfl, rfl, rfl, rfl⟩ (leave (some plan))

/-- Every request follows the work tree of its transition. -/
theorem follows_requestModeFrom (model : ValidatedModel) (id : TransitionId)
    (baseline : SystemConfiguration) (domain : DomainId) (target : ModeId) :
    Follows (Rule model) Returned (opened model id baseline domain target)
      (requestModeFrom model id baseline domain target) := by
  refine follows_acceptModeFrom ?_ fun cause => ⟨.error cause, rfl⟩
  intro plan
  exact follows_execute

end Accept

end Conformance

end OpenVehicle.Exec
