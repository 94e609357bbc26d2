/-
This file translates the dinit backend and executes the start loop of the engine over it.
The daemon is a parameter. One daemon follows a script of start attempts.
-/

import OpenVehicle.Exec.Engine

namespace OpenVehicle.Exec.Dinit

open Concurrency FiniteMap TransitionPlanner ExecutionEngine

inductive ServiceState where
  | stopped | starting | started | stopping
  deriving DecidableEq

/-- The backend distinguishes four reasons why a service has stopped. -/
inductive StoppedReason where
  | failed | execFailed | timedOut | depFailed | other
  deriving DecidableEq

/-- The status buffer of a service. The reason also has its number in the protocol. -/
structure ServiceStatus where
  state : ServiceState
  reason : StoppedReason := .other
  reasonCode : UInt32 := 0
  flags : UInt8 := 0
  processCode : UInt32 := 0
  processStatus : Int32 := 0
  deriving DecidableEq

inductive ServiceCommand where
  | startService | stopService
  deriving DecidableEq

/-- The replies to a command. A rejecting reply carries its number in the protocol. -/
inductive CommandReply where
  | ack | alreadySs
  | pinnedStarted (code : Nat) | pinnedStopped (code : Nat) | dependents (code : Nat)
  | shuttingDown
  | other (code : Nat)
  deriving DecidableEq

/-- The control socket of a daemon. An error of a call is a communication error or a missed deadline. -/
structure Daemon (S : Type) where
  connect : S → Result Unit × S
  load : String → S → Result Unit × S
  command : ServiceCommand → S → Result CommandReply × S
  status : S → Result ServiceStatus × S

def StoppedReason.isFailure : StoppedReason → Bool
  | .failed | .execFailed | .timedOut | .depFailed => true
  | .other => false

/-- A stopped service has failed when it stopped for one of the four reasons. -/
def mappedState (state : ServiceState) (reason : StoppedReason) : ApplicationState :=
  match state with
  | .starting => .starting
  | .started => .ready
  | .stopping => .stopping
  | .stopped => if reason.isFailure then .failed else .stopped

/-- The process code of a process that has exited. -/
def processExited : UInt32 := 1

def evidence (status : ServiceStatus) : BackendEvidence :=
  let code := if status.flags &&& 16 = 0 then status.processCode else 0
  let value := if status.flags &&& 16 = 0 then status.processStatus else 0
  { state := mappedState status.state status.reason
    exitCode := if code = processExited then value.toInt else 0
    signal := if code ≠ 0 ∧ code ≠ processExited then value.toInt else 0
    nativeCode := code.toNat * 2 ^ 32 + status.reasonCode.toNat }

def rejection (code : Nat) : Error := makeError .permissionDenied "dinit service policy rejected lifecycle command" code

def commandResult : CommandReply → Result Unit
  | .ack | .alreadySs => .ok ()
  | .pinnedStarted code => .error (rejection code)
  | .pinnedStopped code => .error (rejection code)
  | .dependents code => .error (rejection code)
  | .shuttingDown => .error (makeError .backendUnavailable "dinit is shutting down")
  | .other code => .error (makeError .backendError "unexpected dinit lifecycle response" code)

section Backend
variable {S : Type} (daemon : Daemon S)

/-- The poll loop of `Change`. The clock passes the deadline after the given number of further polls. -/
def awaitState (target : ApplicationState) : Nat → S → Result BackendEvidence × S
  | polls, daemonState =>
      match daemon.status daemonState with
      | (.error error, later) => (.error error, later)
      | (.ok status, later) =>
          if (evidence status).state = target then (.ok (evidence status), later)
          else if (evidence status).state = .failed then (.ok (evidence status), later)
          else
            match polls with
            | 0 => (.error (makeError .deadlineExceeded "dinit service did not reach the requested state"), later)
            | polls + 1 => awaitState target polls later

variable (services : Map ApplicationId String) (polls : Nat)

variable (application : ApplicationId)

def change (command : ServiceCommand) (target : ApplicationState)
    (daemonState : S) : Result BackendEvidence × S :=
  match services.lookup application with
  | none => (.error (makeError .notFound "application has no dinit service mapping" application), daemonState)
  | some service =>
      match daemon.connect daemonState with
      | (.error error, later) => (.error error, later)
      | (.ok (), connected) =>
          match daemon.load service connected with
          | (.error error, later) => (.error error, later)
          | (.ok (), loaded) =>
              match daemon.command command loaded with
              | (.error error, later) => (.error error, later)
              | (.ok reply, issued) =>
                  match commandResult reply with
                  | .error error => (.error error, issued)
                  | .ok () => awaitState daemon target polls issued

def start (daemonState : S) : Result BackendEvidence × S :=
  change daemon services polls application .startService .ready daemonState

def stop (daemonState : S) : Result BackendEvidence × S :=
  change daemon services polls application .stopService .stopped daemonState

end Backend

/-- A start attempt reports a starting service for some polls and then its outcome. -/
structure StartAttempt where
  polls : Nat
  outcome : ServiceStatus
  deriving DecidableEq

/-- A service that follows a script. A stop command finds it stopped and leaves its reason unchanged. -/
structure ScriptedService where
  status : ServiceStatus
  upcoming : List ServiceStatus := []
  attempts : List StartAttempt
  stopReply : CommandReply := .alreadySs
  starts : Nat := 0
  deriving DecidableEq

namespace ScriptedService

def issue : ServiceCommand → ScriptedService → Result CommandReply × ScriptedService
  | .startService, service =>
      match service.attempts with
      | [] => (.ok .ack, { service with starts := service.starts + 1 })
      | attempt :: attempts => (.ok .ack, { service with
          upcoming := List.replicate attempt.polls ⟨.starting, .other, 0, 0, 0, 0⟩ ++ [attempt.outcome]
          attempts := attempts
          starts := service.starts + 1 })
  | .stopService, service =>
      if service.status.state = .stopped then (.ok service.stopReply, service)
      else (.ok .ack, { service with status := { state := .stopped } })

def report (service : ScriptedService) : Result ServiceStatus × ScriptedService :=
  match service.upcoming with
  | [] => (.ok service.status, service)
  | status :: upcoming => (.ok status, { service with status := status, upcoming := upcoming })

/-- The daemon has no communication error and no missed deadline. -/
def daemon : Daemon ScriptedService where
  connect service := (.ok (), service)
  load _ service := (.ok (), service)
  command := issue
  status := report

end ScriptedService

section Execution

/-- The engine and the service of the unit that it starts. -/
structure World where
  engine : EngineState
  service : ScriptedService

variable (model : ValidatedModel) (services : Map ApplicationId String) (polls : Nat)

/-- The operations of the engine over the dinit backend, without an expired deadline. -/
def World.perform : (op : EngineOp) → World → Option (op.Reply × World)
  | .start application, world =>
      let (reply, service) := start ScriptedService.daemon services polls application world.service
      some (reply, { world with service := service })
  | .stop application _, world =>
      let (reply, service) := stop ScriptedService.daemon services polls application world.service
      some (reply, { world with service := service })
  | op, world =>
      (ExecutionEngine.perform model op (ordinaryInput op) world.engine).map fun result =>
        (result.1, { world with engine := result.2 })

/-- The engine runs a program alone. -/
def World.run {A : Type} (program : EngineProgram A) (world : World) : Option (A × World) :=
  program.run (World.perform model services polls) world

/-- The attempts of one unit in the start loop, up to the record of the running unit. -/
def startUnit (application : ExecutionUnitId) : EngineProgram (Except (Error × BackendEvidence) Unit) := do
  let definition := unitDefinition model application
  let attempted ← startAttempts definition application definition.retry.maxAttempts
    (makeError .backendError "application did not reach its required state") {}
  match attempted with
  | .error last => return .error last
  | .ok () => do
      EngineOp.call (.insertRunning application)
      return .ok ()

end Execution

section Retries
variable {services : Map ApplicationId String} {polls : Nat} {application : ApplicationId}
variable {name : String} {service : ScriptedService} {target : ApplicationState}

/-- The loop reads the starting reports and returns the outcome. -/
theorem awaitState_upcoming {outcome : ServiceStatus} {count : Nat}
    (other : target ≠ .starting) (decisive : (evidence outcome).state = target ∨ (evidence outcome).state = .failed)
    (upcoming : service.upcoming = List.replicate count ⟨.starting, .other, 0, 0, 0, 0⟩ ++ [outcome])
    (enough : count ≤ polls) : awaitState ScriptedService.daemon target polls service =
      (.ok (evidence outcome), { service with status := outcome, upcoming := [] }) := by
  induction count generalizing polls service with
  | zero =>
      unfold awaitState
      simp only [ScriptedService.daemon, ScriptedService.report, upcoming, List.replicate_zero, List.nil_append]
      rcases decisive with reached | failed
      · rw [if_pos reached]
      · rw [if_pos failed]
        split <;> rfl
  | succ count ih =>
      obtain ⟨polls, rfl⟩ := Nat.exists_eq_add_one.mpr (show 0 < polls by omega)
      unfold awaitState
      simp only [ScriptedService.daemon, ScriptedService.report, upcoming, List.replicate_succ, List.cons_append]
      rw [if_neg (fun same => other same.symm), if_neg (by decide)]
      exact ih rfl (by omega)

section
variable (mapped : services.lookup application = some name)
include mapped

/-- An accepted command is followed by the poll loop. -/
theorem change_accepted {command : ServiceCommand} {reply : CommandReply} {issued : ScriptedService}
    (issues : ScriptedService.issue command service = (.ok reply, issued)) (accepted : commandResult reply = .ok ()) :
    change ScriptedService.daemon services polls application command target service =
      awaitState ScriptedService.daemon target polls issued := by
  have connected : ScriptedService.daemon.connect service = (.ok (), service) := rfl
  have loaded : ScriptedService.daemon.load name service = (.ok (), service) := rfl
  have commanded : ScriptedService.daemon.command command service = (.ok reply, issued) := issues
  simp only [change, mapped, connected, loaded, commanded, accepted]

/-- A start command consumes one attempt of the script. -/
theorem start_attempt {attempt : StartAttempt} {attempts : List StartAttempt}
    (script : service.attempts = attempt :: attempts)
    (decisive : (evidence attempt.outcome).state = .ready ∨ (evidence attempt.outcome).state = .failed)
    (enough : attempt.polls ≤ polls) : start ScriptedService.daemon services polls application service =
      (.ok (evidence attempt.outcome), { service with
        status := attempt.outcome, upcoming := [], attempts := attempts, starts := service.starts + 1 }) := by
  have issued : ScriptedService.issue .startService service = (.ok .ack, { service with
      upcoming := List.replicate attempt.polls ⟨.starting, .other, 0, 0, 0, 0⟩ ++ [attempt.outcome]
      attempts := attempts
      starts := service.starts + 1 }) := by
    simp only [ScriptedService.issue, script]
  rw [start, change_accepted mapped issued rfl]
  exact awaitState_upcoming (by decide) decisive rfl enough

/-- A stop command reports the failure of a stopped service again. -/
theorem stop_failed (stopped : service.status.state = .stopped) (failure : service.status.reason.isFailure = true)
    (settled : service.upcoming = []) (accepted : commandResult service.stopReply = .ok ()) :
    stop ScriptedService.daemon services polls application service =
      (.ok (evidence service.status), service) ∧ (evidence service.status).state = .failed := by
  have state : (evidence service.status).state = .failed := by
    show mappedState service.status.state service.status.reason = .failed
    rw [stopped]
    exact if_pos failure
  have issued : ScriptedService.issue .stopService service = (.ok service.stopReply, service) := by
    rw [ScriptedService.issue, if_pos stopped]
  have reported : ScriptedService.daemon.status service = (.ok service.status, service) := by
    simp only [ScriptedService.daemon, ScriptedService.report, settled]
  refine ⟨?_, state⟩
  rw [stop, change_accepted mapped issued accepted]
  unfold awaitState
  simp only [reported, state]
  rfl

end

/-- The script of a unit that fails some attempts and then starts. -/
structure RetryScript (services : Map ApplicationId String) (polls attempts : Nat)
    (application : ApplicationId) where
  service : ScriptedService
  failures : List StartAttempt
  success : StartAttempt
  script : service.attempts = failures ++ [success]
  mapped : (services.lookup application).isSome = true
  within : failures.length + 1 ≤ attempts
  failed : ∀ attempt ∈ failures,
    attempt.outcome.state = .stopped ∧ attempt.outcome.reason.isFailure = true ∧ attempt.polls ≤ polls
  reached : success.outcome.state = .started ∧ success.polls ≤ polls
  accepted : service.stopReply = .ack ∨ service.stopReply = .alreadySs

variable {model : ValidatedModel}

variable {definition : ExecutionUnitDefinition} {attempts remaining : Nat} {world : World} {lastError : Error}
variable {lastEvidence reported : BackendEvidence} {started : ScriptedService}

/-- An attempt that reaches the ready state ends the loop. -/
theorem run_startAttempts_ready (nonzero : attempts = remaining + 1)
    (starts : start ScriptedService.daemon services polls application world.service = (.ok reported, started))
    (ready : reported.state = .ready) : (startAttempts definition application attempts lastError lastEvidence).run
        (World.perform model services polls) world = some (.ok (), { world with service := started }) := by
  subst nonzero
  have clock : World.perform model services polls .expired world = some (false, world) := rfl
  have performed : World.perform model services polls (.start application) world =
      some (.ok reported, { world with service := started }) := by
    simp only [World.perform, starts]
  have reached : requiredStateReached definition reported.state = true := by
    rw [ready, requiredStateReached]
    split <;> rfl
  rw [startAttempts, EngineOp.call, Program.perform_bind, Program.run_call clock, if_neg (by decide), EngineOp.call,
    Program.perform_bind, Program.run_call performed]
  simp only [reached, if_true]
  rfl

/-- An attempt whose cleanup reports a failure ends the loop with an error. -/
theorem run_startAttempts_failed {cleaned : BackendEvidence} (several : attempts = remaining + 2)
    (starts : start ScriptedService.daemon services polls application world.service = (.ok reported, started))
    (failed : reported.state = .failed)
    (stops : stop ScriptedService.daemon services polls application started = (.ok cleaned, started))
    (again : cleaned.state = .failed) : (startAttempts definition application attempts lastError lastEvidence).run
        (World.perform model services polls) world =
      some (.error (makeError .backendError "failed start attempt could not be cleaned up", cleaned),
        { world with service := started }) := by
  subst several
  have clock : World.perform model services polls .expired world = some (false, world) := rfl
  have performed : World.perform model services polls (.start application) world =
      some (.ok reported, { world with service := started }) := by
    simp only [World.perform, starts]
  have stopping : World.perform model services polls (.stop application .restart)
      { world with service := started } = some (.ok cleaned, { world with service := started }) := by
    simp only [World.perform, stops]
  have missed : requiredStateReached definition reported.state = false := by
    rw [failed, requiredStateReached]
    split <;> rfl
  rw [startAttempts, EngineOp.call, Program.perform_bind, Program.run_call clock, if_neg (by decide), EngineOp.call,
    Program.perform_bind, Program.run_call performed]
  simp only [missed, startCleanup]
  rw [if_neg (by decide), if_neg (by simp), EngineOp.call, Program.perform_bind, Program.run_call stopping]
  simp only [again]
  rfl

end Retries

/-- A unit that fails some attempts and then starts is started once per attempt and recorded exactly
when its first attempt starts it. -/
theorem retries_recorded_iff (model : ValidatedModel) (services : Map ApplicationId String) (polls : Nat)
    (engine : EngineState) (application : ApplicationId) (script : RetryScript services polls
      (unitDefinition model application).retry.maxAttempts application) :
    (∃ later, World.run model services polls (startUnit model application) ⟨engine, script.service⟩ =
        some (.ok (), later) ∧ later.service.starts = script.service.starts + (script.failures.length + 1) ∧
      application ∈ later.engine.configuration.runningUnits) ↔ script.failures = [] := by
  obtain ⟨name, mapped⟩ := Option.isSome_iff_exists.mp script.mapped
  have within := script.within
  have listed := script.script
  unfold World.run startUnit
  rw [Program.run_bind]
  cases failures : script.failures with
  | nil =>
      rw [failures] at listed within
      obtain ⟨remaining, attempts⟩ := Nat.exists_eq_add_one.mpr (show 0 < _ from within)
      have ready : (evidence script.success.outcome).state = .ready := by
        show mappedState script.success.outcome.state _ = .ready
        rw [script.reached.1]
        rfl
      have starts := start_attempt mapped listed (.inl ready) script.reached.2
      refine iff_of_true ?_ rfl
      rw [run_startAttempts_ready attempts starts ready]
      exact ⟨_, rfl, rfl, Finset.mem_insert_self _ _⟩
  | cons first rest =>
      rw [failures] at listed within
      obtain ⟨stopped, failure, enough⟩ := script.failed first (by rw [failures]; exact .head _)
      obtain ⟨remaining, attempts⟩ := Nat.exists_eq_add_of_le within
      have failed : (evidence first.outcome).state = .failed := by
        show mappedState first.outcome.state _ = .failed
        rw [stopped]
        exact if_pos failure
      have accepted : commandResult script.service.stopReply = .ok () := by
        rcases script.accepted with reply | reply
        · rw [reply]
          rfl
        · rw [reply]
          rfl
      have starts := start_attempt mapped listed (.inr failed) enough
      have stops := @stop_failed services polls application name { script.service with
        status := first.outcome, upcoming := [], attempts := rest ++ [script.success],
        starts := script.service.starts + 1 } mapped stopped failure rfl accepted
      refine iff_of_false ?_ (List.cons_ne_nil first rest)
      rintro ⟨later, returned, _⟩
      have count : (unitDefinition model application).retry.maxAttempts = rest.length + remaining + 2 := by
        rw [attempts, List.length_cons]
        omega
      rw [run_startAttempts_failed count starts failed stops.1 failed] at returned
      cases returned

/-- The pump may be attempted twice. -/
def pumpModes : ValidatedModel where
  value := {
    generation := 1
    units := [{ id := 1, name := "pump", retry := { maxAttempts := 2 } }]
    domains := [
      { id := 1, name := "cooling", initialMode := 1,
        modes := [{ id := 1, name := "off" }, { id := 2, name := "on", units := [1] }] }] }
  valid := by decide +kernel

def pumpServices : Map ApplicationId String := AList.singleton 1 "pump"

/-- The first attempt of the pump fails and its second attempt would start it. -/
def failingOnce : RetryScript pumpServices 0 2 1 where
  service := {
    status := { state := .stopped }
    attempts := [⟨0, { state := .stopped, reason := .failed }⟩, ⟨0, { state := .started }⟩] }
  failures := [⟨0, { state := .stopped, reason := .failed }⟩]
  success := ⟨0, { state := .started }⟩
  script := rfl
  mapped := rfl
  within := by decide
  failed := by decide
  reached := by decide
  accepted := .inr rfl

/-- The pump is started once, its cleanup is refused, and the second attempt is never made. -/
theorem startUnit_abandonsRetries : ∃ later, World.run pumpModes pumpServices 0 (startUnit pumpModes 1)
        ⟨(created ⟨1, initialModes pumpModes, ∅⟩).shared, failingOnce.service⟩ =
      some (.error (makeError .backendError "failed start attempt could not be cleaned up",
        evidence { state := .stopped, reason := .failed }), later) ∧
      later.service.starts = 1 ∧ later.service.attempts = [⟨0, { state := .started }⟩] ∧
      1 ∉ later.engine.configuration.runningUnits := ⟨_, rfl, rfl, rfl, by decide⟩

end OpenVehicle.Exec.Dinit
