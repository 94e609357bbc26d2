/-
This file translates a request to the coordinator service as one call, with all its errors. A call
without an error enqueues a transition. The file proves what a call with an error leaves behind.
-/

import OpenVehicle.Exec.Coordinator
import OpenVehicle.Exec.InitialConfiguration
import OpenVehicle.Exec.Runs

namespace OpenVehicle.Exec.Coordinator

open Concurrency FiniteMap ExecutionEngine TransitionPlanner

/-- The members of the service that a request reads and writes. -/
structure Frontend where
  engine : EngineState
  projected : SystemConfiguration
  queue : List AcceptedTransition := []
  activeDomains : Map DomainId TransitionId := ∅
  revision : Nat := 1
  stopping : Bool := false

structure FrontendLimits where
  mutate : Bool
  queueCapacity : Nat

structure ModeRequest where
  domain : DomainId
  mode : ModeId
  timeout : Milliseconds

/-- What the clock and the journal answer to a request. -/
structure RequestAnswers where
  expired : Bool
  journal : JournalEvent → Result Unit

section Request
variable (model : ValidatedModel) (limits : FrontendLimits) (answers : RequestAnswers) (request : ModeRequest)

/-- The journal answers an append. Every other operation of an acceptance proceeds. -/
def RequestAnswers.input (answers : RequestAnswers) : EngineOp → EngineInput
  | .append event => .journal (answers.journal event)
  | _ => .proceed

def answer (op : EngineOp) (state : EngineState) : Option (op.Reply × EngineState) :=
  ExecutionEngine.perform model op (answers.input op) state

/-- `AcceptModeFrom` takes the next identifier after it has looked at the clock. -/
def accept (baseline : SystemConfiguration) (engine : EngineState) :
    Option (Result AcceptedTransition × EngineState) :=
  if answers.expired then
    some (.error (makeError .deadlineExceeded "transition deadline has expired"), engine)
  else
    (acceptModeFrom model engine.nextTransition baseline request.domain request.mode).run
      (answer model answers) { engine with nextTransition := engine.nextTransition + 1 }

variable (definition : DomainDefinition)

/-- The policy of the domain decides what happens to its active transition. -/
def replaceActive (state : Frontend) : Result Frontend :=
  match state.activeDomains.lookup request.domain with
  | none => .ok state
  | some active =>
      match definition.replacement with
      | .rejectWhileBusy => .error (makeError .busy "domain already has an active transition" active)
      | .queue => .ok state
      | .supersedeIfSafe =>
          match cancel state.engine active with
          | .error _ => .error (makeError .busy "active transition cannot be superseded safely" active)
          | .ok engine => .ok { state with engine := engine, projected := engine.configuration }

/-- A request waits for the active transition under one policy. -/
def isQueued (state : Frontend) : Bool :=
  (state.activeDomains.lookup request.domain).isSome && definition.replacement == .queue

/-- The end of a request that has been accepted. -/
def enqueueAccepted (accepted : AcceptedTransition) (state : Frontend) : Frontend :=
  { state with
    projected := project request.domain request.mode accepted.plan state.projected
    queue := state.queue ++ [accepted]
    activeDomains := state.activeDomains.insert request.domain accepted.id
    revision := state.revision + 1 }

/-- The part of a request that holds the mutex of the service. -/
def requestLocked (state : Frontend) : Option (Result TransitionId × Frontend) :=
  if state.stopping then some (.error (makeError .backendUnavailable "coordinator is stopping"), state)
  else
    match replaceActive request definition state with
    | .error error => some (.error error, state)
    | .ok replaced =>
        if replaced.queue.length ≥ limits.queueCapacity then
          some (.error (makeError .resourceExhausted "coordinator transition queue is full"), replaced)
        else
          let baseline := if isQueued request definition state then replaced.projected
            else replaced.engine.configuration
          (accept model answers request baseline replaced.engine).map fun accepted =>
            let replaced := { replaced with engine := accepted.2 }
            match accepted.1 with
            | .error error => (.error error, replaced)
            | .ok transition => (.ok transition.id, enqueueAccepted request transition replaced)

def requestMode (state : Frontend) : Option (Result TransitionId × Frontend) :=
  if !limits.mutate then
    some (.error (makeError .permissionDenied "coordinator mutation is not authorized"), state)
  else if request.timeout ≤ 0 then
    some (.error (makeError .invalidArgument "transition timeout must be positive"), state)
  else
    match model.findDomain request.domain with
    | none => some (.error (makeError .notFound "domain is not defined"), state)
    | some definition => requestLocked model limits answers request definition state

end Request

/-- `IsCancelled` reads the flag of a transition. -/
def isCancelled (engine : EngineState) (id : TransitionId) : Bool := (engine.cancellation.lookup id).getD false

/-- A call leaves the service and the flags of all active transitions as they were. -/
structure Unchanged (before after : Frontend) : Prop where
  queue : after.queue = before.queue
  projected : after.projected = before.projected
  activeDomains : after.activeDomains = before.activeDomains
  revision : after.revision = before.revision
  flags : ∀ domain id, before.activeDomains.lookup domain = some id →
    isCancelled after.engine id = isCancelled before.engine id

/-- The request reaches the cancellation of the active transition, and the cancellation succeeds. -/
structure Supersedes (model : ValidatedModel) (limits : FrontendLimits) (request : ModeRequest)
    (state : Frontend) (active : TransitionId) : Prop where
  allowed : limits.mutate = true
  timed : 0 < request.timeout
  running : state.stopping = false
  policy : ∃ definition, model.findDomain request.domain = some definition ∧
    definition.replacement = .supersedeIfSafe
  busy : state.activeDomains.lookup request.domain = some active
  cancels : ∃ engine, cancel state.engine active = .ok engine

variable {answers : RequestAnswers} {limits : FrontendLimits} {model : ValidatedModel} {request : ModeRequest}

/-- No operation changes a flag. A registration adds one that is not set. -/
theorem isCancelled_perform {op : EngineOp} {input : EngineInput} {state later : EngineState}
    {reply : op.Reply} (performed : ExecutionEngine.perform model op input state = some (reply, later))
    (id : TransitionId) : isCancelled later id = isCancelled state id := by
  obtain ⟨_, rfl⟩ := perform_eq_some performed
  unfold effect isCancelled
  split
  all_goals try rfl
  show ((emplace _ false state.cancellation).lookup id).getD false = _
  rw [lookup_emplace]
  cases state.cancellation.lookup id with
  | none => split <;> rfl
  | some flag => rfl

theorem isCancelled_run {A : Type} {program : EngineProgram A} {state later : EngineState} {value : A}
    (ran : program.run (answer model answers) state = some (value, later)) (id : TransitionId) :
    isCancelled later id = isCancelled state id := by
  induction program generalizing state with
  | done start =>
      obtain ⟨_, rfl⟩ := Prod.mk.inj (Option.some.inj ran)
      rfl
  | call op next ih =>
      obtain ⟨result, performed, rest⟩ := Option.bind_eq_some_iff.mp ran
      exact (ih result.1 rest).trans (isCancelled_perform performed id)

theorem isCancelled_accept {baseline : SystemConfiguration} {engine later : EngineState}
    {result : Result AcceptedTransition}
    (accepts : accept model answers request baseline engine = some (result, later)) (id : TransitionId) :
    isCancelled later id = isCancelled engine id := by
  unfold accept at accepts
  split at accepts
  · obtain ⟨_, rfl⟩ := Prod.mk.inj (Option.some.inj accepts)
    rfl
  · exact isCancelled_run accepts id

theorem record_runs (model : ValidatedModel) (answers : RequestAnswers) (transition : TransitionSnapshot)
    (phase : TransitionPhase) (state : EngineState) :
    ∃ result later, (record model transition phase).run (answer model answers) state = some (result, later) := by
  unfold record
  simp only [EngineOp.call, Program.perform_bind, Program.run, answer, ExecutionEngine.perform,
    RequestAnswers.input, Option.bind_some]
  cases answers.journal _ <;> exact ⟨_, _, rfl⟩

theorem fail_runs (model : ValidatedModel) (answers : RequestAnswers) (transition : TransitionSnapshot)
    (error : Error) (state : EngineState) :
    ∃ result later, (fail model transition error).run (answer model answers) state = some (result, later) := by
  obtain ⟨recorded, later, ran⟩ := record_runs model answers
    { transition with failure := some { error } } (terminalPhase error.code) state
  unfold fail
  rw [Program.run_bind, ran, Option.bind_some]
  split <;> exact ⟨_, _, rfl⟩

/-- An acceptance returns, whatever the journal answers. -/
theorem acceptModeFrom_runs (model : ValidatedModel) (answers : RequestAnswers) (id : TransitionId)
    (baseline : SystemConfiguration) (domain : DomainId) (target : ModeId) (state : EngineState) :
    ∃ result later, (acceptModeFrom model id baseline domain target).run (answer model answers) state =
      some (result, later) := by
  have rejected (transition : TransitionSnapshot) (error : Error) (state : EngineState) :
      ∃ result later, (fail model transition error >>= fun failed =>
        (return .error (failureError failed) : EngineProgram (Result AcceptedTransition))).run
          (answer model answers) state = some (result, later) := by
    obtain ⟨failed, later, ran⟩ := fail_runs model answers transition error state
    rw [Program.run_bind, ran]
    exact ⟨_, _, rfl⟩
  have registers (transition : TransitionSnapshot) (plan : Option TransitionPlan) (state : EngineState) :
      answer model answers (.register transition plan) state = some ((), register state transition plan) := rfl
  unfold acceptModeFrom
  split
  · simp only [EngineOp.call, Program.perform_bind]
    rw [Program.run_call (registers _ _ _)]
    exact rejected _ _ _
  · simp only [EngineOp.call, Program.perform_bind]
    rw [Program.run_call (registers _ _ _)]
    obtain ⟨validated, middle, first⟩ := record_runs model answers (received id baseline domain target) .validated
      (register state (received id baseline domain target) (some _))
    rw [Program.run_bind, first, Option.bind_some]
    split
    · exact rejected _ _ _
    · obtain ⟨planned, later, second⟩ := record_runs model answers validated.2 .planned middle
      rw [Program.run_bind, second, Option.bind_some]
      split
      · exact rejected _ _ _
      · exact ⟨_, _, rfl⟩

theorem accept_isSome (model : ValidatedModel) (answers : RequestAnswers) (request : ModeRequest)
    (baseline : SystemConfiguration) (engine : EngineState) :
    (accept model answers request baseline engine).isSome = true := by
  unfold accept
  split
  · rfl
  · obtain ⟨result, later, ran⟩ := acceptModeFrom_runs model answers engine.nextTransition baseline request.domain
      request.mode { engine with nextTransition := engine.nextTransition + 1 }
    rw [ran]
    rfl

section Errors
variable {definition : DomainDefinition}
variable {state later replaced : Frontend} {error : Error}

/-- The policy either leaves the service as it was or cancels the active transition. -/
theorem replaceActive_eq_ok (replaces : replaceActive request definition state = .ok replaced) :
    replaced = state ∧ (∀ active engine, state.activeDomains.lookup request.domain = some active →
        definition.replacement = .supersedeIfSafe → cancel state.engine active ≠ .ok engine) ∨
      ∃ active engine, state.activeDomains.lookup request.domain = some active ∧
        definition.replacement = .supersedeIfSafe ∧ cancel state.engine active = .ok engine ∧
        replaced = { state with engine := engine, projected := engine.configuration } := by
  unfold replaceActive at replaces
  split at replaces
  · rename_i idle
    obtain rfl := Except.ok.inj replaces
    exact .inl ⟨rfl, fun active engine busy => by simp [idle] at busy⟩
  · rename_i active busy
    split at replaces
    · cases replaces
    · rename_i policy
      obtain rfl := Except.ok.inj replaces
      exact .inl ⟨rfl, fun other engine _ supersedes => by simp [policy] at supersedes⟩
    · rename_i policy
      split at replaces
      · cases replaces
      · rename_i engine cancels
        exact .inr ⟨active, engine, busy, policy, cancels, (Except.ok.inj replaces).symm⟩

/-- A call with an error stops before the policy, or it leaves the service as the policy has left it. -/
theorem requestMode_error (requests : requestMode model limits answers request state = some (.error error, later)) :
    later = state ∧ (∀ active, ¬ Supersedes model limits request state active) ∨
      ∃ definition replaced engine, model.findDomain request.domain = some definition ∧
        limits.mutate = true ∧ 0 < request.timeout ∧ state.stopping = false ∧
        replaceActive request definition state = .ok replaced ∧ later = { replaced with engine := engine } ∧
        ∀ id, isCancelled engine id = isCancelled replaced.engine id := by
  unfold requestMode at requests
  split at requests
  · rename_i refused
    obtain ⟨_, rfl⟩ := Prod.mk.inj (Option.some.inj requests)
    exact .inl ⟨rfl, fun active supersedes => by simp [supersedes.allowed] at refused⟩
  rename_i allowed
  split at requests
  · rename_i untimed
    obtain ⟨_, rfl⟩ := Prod.mk.inj (Option.some.inj requests)
    exact .inl ⟨rfl, fun active supersedes => untimed.not_gt supersedes.timed⟩
  rename_i timed
  split at requests
  · rename_i unknown
    obtain ⟨_, rfl⟩ := Prod.mk.inj (Option.some.inj requests)
    refine .inl ⟨rfl, fun active supersedes => ?_⟩
    obtain ⟨definition, known, _⟩ := supersedes.policy
    simp [unknown] at known
  rename_i definition known
  unfold requestLocked at requests
  split at requests
  · rename_i stopping
    obtain ⟨_, rfl⟩ := Prod.mk.inj (Option.some.inj requests)
    exact .inl ⟨rfl, fun active supersedes => by simp [supersedes.running] at stopping⟩
  rename_i running
  have permitted : limits.mutate = true ∧ 0 < request.timeout ∧ state.stopping = false :=
    ⟨by simpa using allowed, not_le.mp timed, by simpa using running⟩
  split at requests
  · rename_i refusal refused
    obtain ⟨_, rfl⟩ := Prod.mk.inj (Option.some.inj requests)
    refine .inl ⟨rfl, fun active supersedes => ?_⟩
    obtain ⟨other, found, policy⟩ := supersedes.policy
    obtain rfl := Option.some.inj (known.symm.trans found)
    obtain ⟨engine, cancels⟩ := supersedes.cancels
    simp [replaceActive, supersedes.busy, policy, cancels] at refused
  rename_i replaced replaces
  refine .inr ⟨definition, replaced, later.engine, known, permitted.1, permitted.2.1, permitted.2.2, replaces, ?_⟩
  split at requests
  · obtain ⟨_, rfl⟩ := Prod.mk.inj (Option.some.inj requests)
    exact ⟨rfl, fun id => rfl⟩
  · obtain ⟨⟨accepted, engine⟩, accepts, same⟩ := Option.map_eq_some_iff.mp requests
    cases accepted with
    | ok transition => cases same
    | error failure =>
        obtain ⟨_, rfl⟩ := Prod.mk.inj same
        exact ⟨rfl, isCancelled_accept accepts⟩

/-- Every request returns. -/
theorem requestMode_isSome (state : Frontend) : (requestMode model limits answers request state).isSome = true := by
  unfold requestMode requestLocked
  repeat' split
  all_goals try rfl
  all_goals
    rw [Option.isSome_map]
    exact accept_isSome model answers request _ _

/-- A cancellation sets one flag and changes nothing else. -/
theorem isCancelled_cancel {before after : EngineState} {active : TransitionId}
    (cancels : cancel before active = .ok after) (id : TransitionId) :
    isCancelled after id = (decide (id = active) || isCancelled before id) ∧
      after.configuration = before.configuration := by
  obtain ⟨_, _, _, _, _, rfl⟩ := cancel_eq_ok cancels
  refine ⟨?_, rfl⟩
  unfold isCancelled
  by_cases same : id = active
  · rw [same, AList.lookup_insert]
    simp
  · rw [AList.lookup_insert_ne same]
    simp [same]

/-- A call with an error changes nothing exactly when it does not supersede a transition, or when
the transition was cancelled before and nothing was projected. -/
theorem request_error_unchanged_iff (model : ValidatedModel) (limits : FrontendLimits)
    (answers : RequestAnswers) (request : ModeRequest) (state later : Frontend) (error : Error)
    (requests : requestMode model limits answers request state = some (.error error, later)) :
    Unchanged state later ↔ ∀ active, Supersedes model limits request state active →
      isCancelled state.engine active = true ∧ state.projected = state.engine.configuration := by
  rcases requestMode_error requests with ⟨rfl, quiet⟩ | ⟨definition, replaced, engine, known, allowed, timed,
      running, replaces, rfl, kept⟩
  · exact iff_of_true ⟨rfl, rfl, rfl, rfl, fun _ _ _ => rfl⟩ fun active supersedes =>
      (quiet active supersedes).elim
  rcases replaceActive_eq_ok replaces with ⟨rfl, quiet⟩ | ⟨active, cancelled, busy, policy, cancels, rfl⟩
  · refine iff_of_true ⟨rfl, rfl, rfl, rfl, fun _ id _ => kept id⟩ fun active supersedes => ?_
    obtain ⟨other, found, policy⟩ := supersedes.policy
    obtain rfl := Option.some.inj (known.symm.trans found)
    obtain ⟨engine, cancels⟩ := supersedes.cancels
    exact (quiet active engine supersedes.busy policy cancels).elim
  · have flags (id : TransitionId) : isCancelled engine id =
        (decide (id = active) || isCancelled state.engine id) := (kept id).trans (isCancelled_cancel cancels id).1
    have same := (isCancelled_cancel cancels active).2
    constructor
    · rintro unchanged other supersedes
      obtain rfl := Option.some.inj (busy.symm.trans supersedes.busy)
      have flag := unchanged.flags request.domain active busy
      have projected := unchanged.projected
      simp only [flags, decide_true, Bool.true_or] at flag
      exact ⟨flag.symm, by rw [← same, ← projected]⟩
    · intro before
      obtain ⟨flag, projected⟩ := before active
        ⟨allowed, timed, running, ⟨definition, known, policy⟩, busy, cancelled, cancels⟩
      refine ⟨rfl, by rw [projected]; exact same, rfl, rfl, fun domain id _ => ?_⟩
      show isCancelled engine id = isCancelled state.engine id
      rw [flags]
      by_cases own : id = active
      · simp [own, flag]
      · simp [own]

/-- A service over a fresh engine. -/
def freshFrontend (configuration : SystemConfiguration) : Frontend where
  engine := { configuration }
  projected := configuration

/-- The result of a call decides a property of the service that it leaves behind. -/
theorem exists_later (call : Option (Result TransitionId × Frontend)) (property : Result TransitionId → Frontend → Bool)
    (executed : call.any (fun result => property result.1 result.2) = true) :
    ∃ result later, call = some (result, later) ∧ property result later = true := by
  obtain ⟨⟨result, later⟩, called, holds⟩ := (Option.any_eq_true _ _).mp executed
  exact ⟨result, later, called, holds⟩

/-- The second request cancels the active transition. After it, an unknown mode is rejected and changes nothing. -/
theorem request_error_unchanged_unknown : ∃ running full cancelled error later,
    requestMode Create.wiperModes ⟨true, 1⟩ ⟨false, fun _ => .ok ()⟩ ⟨1, 2, 30000⟩
      (freshFrontend ⟨1, initialModes Create.wiperModes, ∅⟩) = some (.ok 1, running) ∧
    requestMode Create.wiperModes ⟨true, 1⟩ ⟨false, fun _ => .ok ()⟩ ⟨1, 1, 30000⟩ running =
      some (.error full, cancelled) ∧
    requestMode Create.wiperModes ⟨true, 1⟩ ⟨false, fun _ => .ok ()⟩ ⟨1, 7, 30000⟩ cancelled =
      some (.error error, later) ∧ cancelled.activeDomains.lookup 1 = some 1 ∧ Unchanged cancelled later := by
  obtain ⟨result, running, accepts, holds⟩ := exists_later
    (requestMode Create.wiperModes ⟨true, 1⟩ ⟨false, fun _ => .ok ()⟩ ⟨1, 2, 30000⟩
      (freshFrontend ⟨1, initialModes Create.wiperModes, ∅⟩))
    (fun result running => result.toOption == some 1 &&
      (requestMode Create.wiperModes ⟨true, 1⟩ ⟨false, fun _ => .ok ()⟩ ⟨1, 1, 30000⟩ running).any fun
        (call : Result TransitionId × Frontend) =>
        !call.1.isOk && isCancelled call.2.engine 1 && decide (call.2.projected = call.2.engine.configuration) &&
          call.2.activeDomains.lookup 1 == some 1 &&
          (requestMode Create.wiperModes ⟨true, 1⟩ ⟨false, fun _ => .ok ()⟩ ⟨1, 7, 30000⟩ call.2).any
            fun (last : Result TransitionId × Frontend) => !last.1.isOk) (by decide +kernel)
  obtain ⟨accepted, second⟩ := Bool.and_eq_true_iff.mp holds
  obtain ⟨⟨refusal, cancelled⟩, refuses, effects⟩ := (Option.any_eq_true _ _).mp second
  simp only [Bool.and_eq_true, Bool.not_eq_true', beq_iff_eq, decide_eq_true_eq] at accepted effects
  obtain ⟨⟨⟨⟨refused, flagged⟩, projected⟩, busy⟩, third⟩ := effects
  obtain ⟨⟨answer, later⟩, requests, failed⟩ := (Option.any_eq_true _ _).mp third
  cases result with
  | error _ => cases accepted
  | ok id =>
      cases accepted
      cases refusal with
      | ok _ => cases refused
      | error full =>
          cases answer with
          | ok _ => cases failed
          | error error =>
              refine ⟨running, full, cancelled, error, later, accepts, refuses, requests, busy,
                (request_error_unchanged_iff Create.wiperModes _ _ _ _ later error requests).mpr ?_⟩
              intro active supersedes
              obtain rfl : active = 1 := Option.some.inj (supersedes.busy.symm.trans busy)
              exact ⟨flagged, projected⟩

/-- The first request is accepted. The second one cancels it and then finds the queue full. -/
theorem request_error_cancels : ∃ state error later,
    requestMode Create.wiperModes ⟨true, 1⟩ ⟨false, fun _ => .ok ()⟩ ⟨1, 2, 30000⟩
      (freshFrontend ⟨1, initialModes Create.wiperModes, ∅⟩) = some (.ok 1, state) ∧
    requestMode Create.wiperModes ⟨true, 1⟩ ⟨false, fun _ => .ok ()⟩ ⟨1, 1, 30000⟩ state = some (.error error, later) ∧
    ¬ Unchanged state later := by
  obtain ⟨result, state, accepts, holds⟩ := exists_later
    (requestMode Create.wiperModes ⟨true, 1⟩ ⟨false, fun _ => .ok ()⟩ ⟨1, 2, 30000⟩
      (freshFrontend ⟨1, initialModes Create.wiperModes, ∅⟩))
    (fun result state => result.toOption == some 1 &&
      (requestMode Create.wiperModes ⟨true, 1⟩ ⟨false, fun _ => .ok ()⟩ ⟨1, 1, 30000⟩
        state).any fun call => !call.1.isOk && isCancelled call.2.engine 1 && !isCancelled state.engine 1 &&
          state.activeDomains.lookup 1 == some 1) (by decide +kernel)
  obtain ⟨accepted, second⟩ := Bool.and_eq_true_iff.mp holds
  obtain ⟨⟨answer, later⟩, requests, effects⟩ := (Option.any_eq_true _ _).mp second
  simp only [Bool.and_eq_true, Bool.not_eq_true', beq_iff_eq] at effects
  obtain ⟨⟨⟨failed, flagged⟩, free⟩, busy⟩ := effects
  cases answer with
  | ok id => cases failed
  | error error =>
      cases result with
      | error refusal => cases accepted
      | ok id =>
          obtain rfl : id = 1 := Option.some.inj (eq_of_beq accepted)
          refine ⟨state, error, later, accepts, requests, fun unchanged => ?_⟩
          have same := unchanged.flags 1 1 busy
          rw [flagged, free] at same
          cases same

end Errors

end OpenVehicle.Exec.Coordinator
