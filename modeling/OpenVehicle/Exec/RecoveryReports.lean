/-
This file proves what the engine reports about its recoveries.
A reported recovery error has a code, and the reported units are units of the model.
-/

import OpenVehicle.Concurrency.Contract
import OpenVehicle.Exec.PlannerErrors
import OpenVehicle.Exec.Runs

namespace OpenVehicle.Exec

open Concurrency FiniteMap TransitionPlanner ExecutionEngine

/-- The report of a recovery has a coded error and known units. -/
structure TransitionFailure.Documented (model : ValidatedModel) (failure : TransitionFailure) : Prop where
  error : ∀ error ∈ failure.recoveryError, error.Coded
  stopped : ∀ unit ∈ failure.recoveryStoppedApplications, (model.findUnit unit).isSome
  started : ∀ unit ∈ failure.recoveryStartedApplications, (model.findUnit unit).isSome

def TransitionSnapshot.Documented (model : ValidatedModel) (transition : TransitionSnapshot) : Prop :=
  ∀ failure ∈ transition.failure, failure.Documented model

/-- The engine stores documented transitions as long as the errors of its environment have codes. -/
def reportContract (model : ValidatedModel) : Contract EngineOp EngineOp.Reply where
  permits op := match op with
    | .register transition _ => transition.Documented model
    | .append event => event.transition.Documented model
    | .store transition => transition.Documented model
    | .insertRunning unit => (model.findUnit unit).isSome
    | _ => True
  promises op := match op with
    | .getTransition _ => fun reply => ∀ transition, reply = .ok transition → transition.Documented model
    | .readConfiguration => fun reply => ∀ unit ∈ reply.runningUnits, (model.findUnit unit).isSome
    | .stop _ _ => fun reply => ∀ error, reply = .error error → error.Coded
    | .start _ => fun reply => ∀ error, reply = .error error → error.Coded
    | .requestSystemRecovery => fun reply => ∀ error, reply = .error error → error.Coded
    | _ => fun _ => True

variable {transition : TransitionSnapshot} {model : ValidatedModel}

section Programs
variable {failure : TransitionFailure}
variable {units : List ExecutionUnitId} {application : ExecutionUnitId}

theorem documented_plain (error : Error) (application : Option ApplicationId) (evidence : BackendEvidence) :
    TransitionFailure.Documented model { error, application, evidence } := by
  refine ⟨?_, ?_, ?_⟩
  · intro recovery member
    cases member
  · intro unit member
    cases member
  · intro unit member
    cases member

theorem documented_failed (documented : failure.Documented model) :
    TransitionSnapshot.Documented model { transition with failure := some failure } := by
  intro other member
  obtain rfl := Option.some.inj member
  exact documented

theorem record_keeps (documented : transition.Documented model) (phase : TransitionPhase) :
    (record model transition phase).Keeps (reportContract model) fun recorded =>
      recorded.2.Documented model := by
  refine ⟨trivial, fun plan _ => ⟨documented, fun persisted _ => ?_⟩⟩
  cases persisted with
  | error error => exact documented
  | ok value => exact ⟨documented, fun _ _ => documented⟩

theorem fail_keeps (transition : TransitionSnapshot) (error : Error) (application : Option ApplicationId)
    (evidence : BackendEvidence) :
    (fail model transition error application evidence).Keeps (reportContract model) fun _ => True := by
  refine (record_keeps (documented_failed (documented_plain error application evidence)) _).bind ?_
  rintro ⟨outcome, recorded⟩ _
  cases outcome with
  | error error => trivial
  | ok value => trivial

theorem recordOrFail_keeps {next : TransitionSnapshot → EngineProgram (Result TransitionSnapshot)}
    (documented : transition.Documented model) (phase : TransitionPhase)
    (continues : ∀ later, later.Documented model → (next later).Keeps (reportContract model) fun _ => True) :
    (recordOrFail model transition phase next).Keeps (reportContract model) fun _ => True := by
  refine (record_keeps documented phase).bind ?_
  rintro ⟨outcome, recorded⟩ kept
  cases outcome with
  | error error => exact fail_keeps recorded error none {}
  | ok value => exact continues recorded kept

/-- A recovery returns a coded error and a documented failure. -/
def Recovered (model : ValidatedModel) (result : Result Unit × TransitionFailure) : Prop :=
  (∀ error, result.1 = .error error → error.Coded) ∧ result.2.Documented model

theorem recovered_ok (documented : failure.Documented model) : Recovered model (.ok (), failure) :=
  ⟨fun _ same => (by cases same), documented⟩

theorem recovered_error {error : Error} (coded : error.Coded) (documented : failure.Documented model) :
    Recovered model (.error error, failure) := by
  refine ⟨?_, documented⟩
  intro other same
  obtain rfl := Except.error.inj same
  exact coded

section
variable (documented : failure.Documented model)
include documented

/-- The evidence and the application of a failure may change. -/
theorem documented_evidence (application : Option ApplicationId) (evidence : BackendEvidence) :
    TransitionFailure.Documented model { failure with application := application, evidence := evidence } :=
  ⟨documented.error, documented.stopped, documented.started⟩

theorem recoveryStops_keeps (known : ∀ unit ∈ units, (model.findUnit unit).isSome) :
    (recoveryStops units failure).Keeps (reportContract model) (Recovered model) := by
  induction units generalizing failure with
  | nil => exact recovered_ok documented
  | cons application rest ih =>
      obtain ⟨first, others⟩ := List.forall_mem_cons.mp known
      refine (Program.keeps_perform trivial).bind fun reply promised => ?_
      cases reply with
      | error error => exact recovered_error (promised error rfl) (documented_evidence documented _ _)
      | ok evidence =>
          dsimp only
          split
          · refine ⟨trivial, fun _ _ => ih ⟨documented.error, ?_, documented.started⟩ others⟩
            intro unit member
            rcases List.mem_append.mp member with old | new
            · exact documented.stopped unit old
            · obtain rfl := List.mem_singleton.mp new
              exact first
          · exact recovered_error (makeError_coded _ _ (by decide)) (documented_evidence documented _ _)

theorem recoveryCleanup_keeps {retry : TransitionFailure → EngineProgram (Result Unit × TransitionFailure)}
    (retries : (retry failure).Keeps (reportContract model) (Recovered model)) :
    (recoveryCleanup application retry failure).Keeps (reportContract model) (Recovered model) := by
  refine (Program.keeps_perform trivial).bind fun reply promised => ?_
  cases reply with
  | error error => exact recovered_error (promised error rfl) (documented_evidence documented _ _)
  | ok evidence =>
      dsimp only
      split
      · exact retries
      · exact recovered_error (makeError_coded _ _ (by decide)) (documented_evidence documented _ _)

end

theorem recoveryAttempts_keeps (definition : ExecutionUnitDefinition) (attempts : Nat)
    (documented : failure.Documented model) :
    (recoveryAttempts definition application attempts failure).Keeps (reportContract model) (Recovered model) := by
  induction attempts generalizing failure with
  | zero => exact recovered_error (makeError_coded _ _ (by decide)) (documented_evidence documented _ _)
  | succ remaining ih =>
      refine (Program.keeps_perform trivial).bind fun expired _ => ?_
      cases expired with
      | true => exact recovered_error (makeError_coded _ _ (by decide)) documented
      | false =>
          rw [if_neg (by decide)]
          refine (Program.keeps_perform trivial).bind fun reply promised => ?_
          cases reply with
          | ok evidence =>
              have updated := documented_evidence documented failure.application evidence
              dsimp only
              split
              · exact recovered_ok updated
              · split
                · exact ih updated
                · exact recoveryCleanup_keeps updated (ih updated)
          | error error =>
              dsimp only
              split
              · exact recovered_error (promised error rfl) (documented_evidence documented _ _)
              · exact recoveryCleanup_keeps documented (ih documented)

theorem recoveryStarts_keeps (documented : failure.Documented model)
    (known : ∀ unit ∈ units, (model.findUnit unit).isSome) :
    (recoveryStarts model units failure).Keeps (reportContract model) (Recovered model) := by
  induction units generalizing failure with
  | nil => exact recovered_ok documented
  | cons application rest ih =>
      obtain ⟨first, others⟩ := List.forall_mem_cons.mp known
      refine (recoveryAttempts_keeps _ _ documented).bind ?_
      rintro ⟨outcome, attempted⟩ ⟨coded, kept⟩
      cases outcome with
      | error error => exact recovered_error (coded error rfl) kept
      | ok value =>
          refine ⟨first, fun _ _ => ih ⟨kept.error, kept.stopped, ?_⟩ others⟩
          intro unit member
          rcases List.mem_append.mp member with old | new
          · exact kept.started unit old
          · obtain rfl := List.mem_singleton.mp new
            exact first

theorem applyRecoveryPlan_keeps {stop start : List ExecutionUnitId} (documented : failure.Documented model)
    (stops : ∀ unit ∈ stop, (model.findUnit unit).isSome) (starts : ∀ unit ∈ start, (model.findUnit unit).isSome) :
    (applyRecoveryPlan model stop start failure).Keeps (reportContract model) (Recovered model) := by
  refine (recoveryStops_keeps documented stops).bind ?_
  rintro ⟨outcome, stopped⟩ ⟨coded, kept⟩
  cases outcome with
  | error error => exact recovered_error (coded error rfl) kept
  | ok value => exact recoveryStarts_keeps kept starts

theorem recoverDomain_keeps (domain : DomainDefinition) (documented : failure.Documented model) :
    (recoverDomain model domain failure).Keeps (reportContract model) (Recovered model) := by
  unfold recoverDomain
  split
  · refine (Program.keeps_perform trivial).bind fun configuration running => ?_
    split
    · rename_i error refused
      exact recovered_error (buildPlan_coded refused) documented
    · rename_i plan planned
      obtain ⟨required, facts, _⟩ := buildPlan_eq_ok planned
      refine (applyRecoveryPlan_keeps documented (fun unit member => ?_)
        fun unit member => start_known planned member).bind ?_
      · exact running unit (facts.mem_stop.mp member).1
      · rintro ⟨outcome, applied⟩ ⟨coded, kept⟩
        cases outcome with
        | error error => exact recovered_error (coded error rfl) kept
        | ok value =>
            exact ⟨trivial, fun _ _ => recovered_ok ⟨kept.error, kept.stopped, kept.started⟩⟩
  · refine (Program.keeps_perform trivial).bind fun configuration running => ?_
    split
    · rename_i error refused
      exact recovered_error (stopDomainUnits_coded refused) documented
    · rename_i stopped found
      obtain ⟨required, _, _, rfl⟩ := stopDomainUnits_eq_ok found
      refine applyRecoveryPlan_keeps documented (fun unit member => ?_) fun unit member => by cases member
      exact running unit (Finset.mem_sdiff.mp (mem_order.mp member)).1
  · exact (Program.keeps_perform trivial).bind fun requested promised => ⟨promised, documented⟩
  · exact recovered_error (makeError_coded _ _ (by decide)) documented

theorem recover_keeps (transition : TransitionSnapshot) (error : Error) (application : ApplicationId)
    (evidence : BackendEvidence) :
    (recover model transition error application evidence).Keeps (reportContract model) fun _ => True := by
  unfold recover
  split
  · exact fail_keeps _ error (some application) evidence
  · rename_i domain _
    split
    · exact fail_keeps _ error (some application) evidence
    · have attempted : TransitionFailure.Documented model {
          error, application := some application, evidence, recoveryAction := domain.recovery.action,
          recoveryAttempted := true } := by
        have plain := @documented_plain model error (some application) evidence
        exact ⟨plain.error, plain.stopped, plain.started⟩
      refine (record_keeps (documented_failed attempted) .recovering).bind ?_
      rintro ⟨outcome, recorded⟩ _
      cases outcome with
      | error error => exact fail_keeps recorded error none {}
      | ok value =>
          refine (recoverDomain_keeps domain attempted).bind ?_
          rintro ⟨recovery, recovered⟩ ⟨coded, kept⟩
          cases recovery with
          | error error =>
              have failed : TransitionFailure.Documented model
                  { recovered with recoveryError := some error } := by
                refine ⟨?_, kept.stopped, kept.started⟩
                intro other member
                obtain rfl := Option.some.inj member
                exact coded error rfl
              refine (record_keeps (documented_failed failed) .recoveryFailed).bind ?_
              rintro ⟨final, _⟩ _
              cases final with
              | error error => trivial
              | ok value => trivial
          | ok value =>
              have done : TransitionFailure.Documented model { recovered with recoverySucceeded := true } :=
                ⟨kept.error, kept.stopped, kept.started⟩
              refine (record_keeps (documented_failed done) .failed).bind ?_
              rintro ⟨final, _⟩ _
              cases final with
              | error error => trivial
              | ok value => trivial

variable {next : EngineProgram (Result TransitionSnapshot)}

theorem stopUnits_keeps (continues : next.Keeps (reportContract model) fun _ => True) (units : List ExecutionUnitId) :
    (stopUnits model transition next units).Keeps (reportContract model) fun _ => True := by
  induction units with
  | nil => exact continues
  | cons application rest ih =>
      refine (Program.keeps_perform trivial).bind fun cancelled _ => ?_
      split
      · exact fail_keeps transition _ none {}
      · refine (Program.keeps_perform trivial).bind fun reply _ => ?_
        split
        · exact recover_keeps transition _ application {}
        · split
          · exact (Program.keeps_perform trivial).bind fun _ _ => ih
          · exact recover_keeps transition _ application _

theorem startAttempts_keeps (definition : ExecutionUnitDefinition) (application : ExecutionUnitId)
    (attempts : Nat) (error : Error) (evidence : BackendEvidence) :
    (startAttempts definition application attempts error evidence).Keeps (reportContract model)
      fun _ => True := by
  induction attempts generalizing error evidence with
  | zero => trivial
  | succ remaining ih =>
      have cleanup (last : Bool) (error : Error) (evidence : BackendEvidence) :
          (startCleanup application last (startAttempts definition application remaining) error
            evidence).Keeps (reportContract model) fun _ => True := by
        unfold startCleanup
        split
        · trivial
        · refine (Program.keeps_perform trivial).bind fun reply _ => ?_
          split
          · trivial
          · split
            · exact ih error evidence
            · trivial
      refine (Program.keeps_perform trivial).bind fun expired _ => ?_
      split
      · trivial
      · refine (Program.keeps_perform trivial).bind fun reply _ => ?_
        split
        · split
          · trivial
          · exact cleanup _ _ _
        · exact cleanup _ _ _

theorem startUnits_keeps (continues : next.Keeps (reportContract model) fun _ => True)
    (known : ∀ unit ∈ units, (model.findUnit unit).isSome) :
    (startUnits model transition next units).Keeps (reportContract model) fun _ => True := by
  induction units with
  | nil => exact continues
  | cons application rest ih =>
      obtain ⟨first, others⟩ := List.forall_mem_cons.mp known
      refine (Program.keeps_perform trivial).bind fun cancelled _ => ?_
      split
      · exact fail_keeps transition _ none {}
      · refine (startAttempts_keeps _ application _ _ _).bind fun attempted _ => ?_
        split
        · exact recover_keeps transition _ application _
        · exact (Program.keeps_perform first).bind fun _ _ => ih others

theorem startAndCommit_keeps {plan : TransitionPlan} (documented : transition.Documented model)
    (known : ∀ unit ∈ plan.start, (model.findUnit unit).isSome) :
    (startAndCommit model transition plan).Keeps (reportContract model) fun _ => True := by
  have commits (later : TransitionSnapshot) (kept : later.Documented model) :
      (commitTarget model later).Keeps (reportContract model) fun _ => True :=
    recordOrFail_keeps kept .committing fun committing same =>
      (Program.keeps_perform trivial).bind fun _ _ => recordOrFail_keeps same .succeeded fun _ _ => trivial
  have starts (later : TransitionSnapshot) (kept : later.Documented model) :
      (startUnits model later (commitTarget model later) plan.start).Keeps (reportContract model)
        fun _ => True := startUnits_keeps (commits later kept) known
  unfold startAndCommit recordStarting
  split
  · exact starts transition documented
  · refine recordOrFail_keeps documented .starting fun later kept => ?_
    split
    · exact recordOrFail_keeps kept .awaitingReadiness starts
    · exact starts later kept

theorem execute_keeps {accepted : AcceptedTransition}
    (known : ∀ unit ∈ accepted.plan.start, (model.findUnit unit).isSome) :
    (execute model accepted).Keeps (reportContract model) fun _ => True := by
  refine (Program.keeps_perform trivial).bind fun found promised => ?_
  split
  · trivial
  · rename_i transition
    have documented : transition.Documented model := promised transition rfl
    have leases : (acquire transition.id (planResources accepted.plan)).Keeps (reportContract model)
        fun _ => True := by
      unfold acquire
      split
      · trivial
      · refine (Program.keeps_perform trivial).bind fun entered _ => ?_
        split
        · trivial
        · trivial
        · exact (Program.keeps_perform trivial).weaken fun _ _ => trivial
    have leased : (executeLeased model transition accepted.plan).Keeps (reportContract model)
        fun _ => True := by
      refine (Program.keeps_perform trivial).bind fun replanned _ => ?_
      split
      · exact fail_keeps transition _ none {}
      · split
        · exact fail_keeps transition _ none {}
        · unfold executePlan
          split
          · exact startAndCommit_keeps documented known
          · exact recordOrFail_keeps documented .stopping fun later kept =>
              stopUnits_keeps (startAndCommit_keeps kept known) _
    refine leases.bind fun lease _ => ?_
    split
    · exact fail_keeps transition _ none {}
    · exact leased.bind fun result _ => (Program.keeps_perform trivial).bind fun _ _ => trivial

/-- A request stores documented transitions. -/
theorem requestModeFrom_keeps (id : TransitionId) (baseline : SystemConfiguration) (domain : DomainId)
    (target : ModeId) :
    (requestModeFrom model id baseline domain target).Keeps (reportContract model) fun _ => True := by
  have fresh : (received id baseline domain target).Documented model := by
    intro failure member
    cases member
  have accepts : (acceptModeFrom model id baseline domain target).Keeps (reportContract model)
      fun result => ∀ accepted, result = .ok accepted →
        ∀ unit ∈ accepted.plan.start, (model.findUnit unit).isSome := by
    have rejects (transition : TransitionSnapshot) (error : Error) :
        (fail model transition error >>= fun failed =>
          (pure (.error (failureError failed)) : EngineProgram (Result AcceptedTransition))).Keeps
            (reportContract model) fun result => ∀ accepted, result = .ok accepted →
              ∀ unit ∈ accepted.plan.start, (model.findUnit unit).isSome :=
      (fail_keeps transition error none {}).bind fun _ _ accepted same => by cases same
    unfold acceptModeFrom
    split
    · exact (Program.keeps_perform fresh).bind fun _ _ => rejects _ _
    · rename_i plan planned
      refine (Program.keeps_perform fresh).bind fun _ _ => (record_keeps fresh .validated).bind ?_
      rintro ⟨validated, first⟩ kept
      cases validated with
      | error error => exact rejects first error
      | ok value =>
          refine (record_keeps kept .planned).bind ?_
          rintro ⟨outcome, second⟩ _
          cases outcome with
          | error error => exact rejects second error
          | ok value =>
              intro accepted same
              obtain rfl := Except.ok.inj same
              exact fun unit member => start_known planned member
  refine accepts.bind fun result known => ?_
  split
  · trivial
  · exact execute_keeps (known _ rfl)

end Programs

/-- Every stored and every journaled transition is documented, and only known units run. -/
structure Reports (model : ValidatedModel) (state : EngineState) : Prop where
  stored : ∀ id transition, state.transitions.lookup id = some transition → transition.Documented model
  written : ∀ event ∈ state.journal, event.transition.Documented model
  running : ∀ unit ∈ state.configuration.runningUnits, (model.findUnit unit).isSome

/-- The errors of the backend and of the system recovery have codes. -/
def CodedErrors (_ : EnginePool) : EngineChoice → Prop
  | .thread _ (.backend (.error error)) => error.Coded
  | .thread _ (.system (.error error)) => error.Coded
  | _ => True

instance (pool : EnginePool) (choice : EngineChoice) : Decidable (CodedErrors pool choice) :=
  match choice with
  | .thread _ (.backend (.error error)) => inferInstanceAs (Decidable error.Coded)
  | .thread _ (.system (.error error)) => inferInstanceAs (Decidable error.Coded)
  | .thread _ (.backend (.ok _)) | .thread _ (.system (.ok _)) | .thread _ .proceed
  | .thread _ (.journal _) | .thread _ (.clock _) | .event _ => .isTrue trivial

section Run
variable {state : EngineState}

theorem Reports.store (reports : Reports model state) (documented : transition.Documented model) :
    Reports model { state with transitions := state.transitions.insert transition.id transition } := by
  refine ⟨?_, reports.written, reports.running⟩
  intro id stored found
  by_cases same : id = transition.id
  · subst same
    obtain rfl := Option.some.inj ((AList.lookup_insert state.transitions).symm.trans found)
    exact documented
  · exact reports.stored id stored ((AList.lookup_insert_ne same).symm.trans found)

variable {op : EngineOp}

theorem Reports.effect (reports : Reports model state)
    (permitted : (reportContract model).permits op) (reply : op.Reply) : Reports model (effect op reply state) := by
  cases op with
  | register transition plan =>
      refine ⟨?_, reports.written, reports.running⟩
      intro id stored found
      have looked := lookup_emplace transition.id id transition state.transitions
      rw [show (emplace transition.id transition state.transitions).lookup id = some stored from found]
        at looked
      cases old : state.transitions.lookup id with
      | some earlier =>
          rw [old, Option.some_or] at looked
          obtain rfl := Option.some.inj looked
          exact reports.stored id stored old
      | none =>
          rw [old, Option.none_or] at looked
          split at looked
          · obtain rfl := Option.some.inj looked
            exact permitted
          · cases looked
  | append event =>
      cases reply with
      | error error => exact reports
      | ok value =>
          refine ⟨reports.stored, ?_, reports.running⟩
          intro written member
          rcases List.mem_append.mp member with old | new
          · exact reports.written written old
          · obtain rfl := List.mem_singleton.mp new
            exact permitted
  | store transition => exact reports.store permitted
  | eraseRunning unit =>
      exact ⟨reports.stored, reports.written, fun other member =>
        reports.running other (Finset.mem_of_mem_erase member)⟩
  | insertRunning unit =>
      refine ⟨reports.stored, reports.written, ?_⟩
      intro other member
      rcases Finset.mem_insert.mp member with rfl | old
      · exact permitted
      · exact reports.running other old
  | commit domain mode => exact ⟨reports.stored, reports.written, reports.running⟩
  | enter owner resources =>
      rcases reply with _ | granted
      · exact reports
      · cases granted with
        | true => exact ⟨reports.stored, reports.written, reports.running⟩
        | false => exact reports
  | wake owner resources =>
      cases reply with
      | error error => exact reports
      | ok value => exact ⟨reports.stored, reports.written, reports.running⟩
  | release owner => exact ⟨reports.stored, reports.written, reports.running⟩
  | _ => exact reports

/-- The promises of the contract follow from the stored transitions and the environment. -/
theorem Reports.promises {input : EngineInput} {reply : op.Reply} {later : EngineState}
    {pool : EnginePool} {index : Nat} (reports : Reports model state) (coded : CodedErrors pool (.thread index input))
    (performed : perform model op input state = some (reply, later)) : (reportContract model).promises op reply := by
  have backend {outcome : Result BackendEvidence} (same : input = .backend outcome) (error : Error)
      (failed : outcome = .error error) : error.Coded := by
    subst same failed
    exact coded
  cases op with
  | getTransition id =>
      cases input with
      | proceed =>
          cases performed
          intro transition same
          cases found : state.transitions.lookup id with
          | none =>
              rw [found] at same
              cases same
          | some stored =>
              rw [found] at same
              obtain rfl := Except.ok.inj same
              exact reports.stored id stored found
      | _ => cases performed
  | readConfiguration =>
      cases input with
      | proceed =>
          cases performed
          exact reports.running
      | _ => cases performed
  | stop unit reason =>
      cases input with
      | backend outcome =>
          cases performed
          exact backend rfl
      | _ => cases performed
  | start unit =>
      cases input with
      | backend outcome =>
          cases performed
          exact backend rfl
      | _ => cases performed
  | requestSystemRecovery =>
      cases input with
      | system outcome =>
          cases performed
          intro error failed
          subst failed
          exact coded
      | _ => cases performed
  | _ => trivial

/-- The engine keeps its side of the contract. -/
theorem reports_honoured (model : ValidatedModel) :
    (machine model).Honours CodedErrors (reportContract model) (Reports model) where
  performed := by
    intro pool index input op reply shared coded permitted reports _ performed
    obtain ⟨_, rfl⟩ := perform_eq_some performed
    exact ⟨reports.promises coded performed, reports.effect permitted reply⟩
  occurred := by
    intro pool event shared started _ reports happened
    cases event with
    | request baseline domain target =>
        obtain ⟨rfl, rfl⟩ := Prod.mk.inj (Option.some.inj happened)
        refine ⟨⟨reports.stored, reports.written, reports.running⟩, ?_⟩
        intro program member
        obtain rfl := Option.some.inj member
        exact requestModeFrom_keeps _ baseline domain target
    | cancel id =>
        obtain ⟨rfl, effect⟩ := occur_cancel happened
        refine ⟨?_, fun program member => by cases member⟩
        rcases effect with rfl | cancelled
        · exact reports
        · obtain ⟨_, _, _, _, _, rfl⟩ := cancel_eq_ok cancelled
          exact ⟨reports.stored, reports.written, reports.running⟩

end Run

end OpenVehicle.Exec
