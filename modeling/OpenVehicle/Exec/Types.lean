/-
This file defines the identifiers, the errors and the values that every part of the execution service shares.
-/

import Mathlib.Data.String.Basic
import Mathlib.Tactic.DeriveFintype
import Mathlib.Tactic.IntervalCases

namespace OpenVehicle.Exec

/-- Every identifier is a 64-bit value in the source, and zero is reserved. -/
abbrev ApplicationId := Nat

abbrev ExecutionUnitId := ApplicationId

abbrev DomainId := Nat

abbrev ModeId := Nat

abbrev ResourceId := Nat

abbrev TransitionId := Nat

abbrev ModelGeneration := Nat

/-- A duration counts signed milliseconds. -/
abbrev Milliseconds := Int

structure ModeRef where
  domain : DomainId
  mode : ModeId
  deriving DecidableEq, Repr

inductive ApplicationState where
  | unknown | starting | ready | stopping | stopped | failed | killed | unavailable
  deriving DecidableEq, Repr

inductive TransitionPhase where
  | received | validated | planned | stopping | starting | awaitingReadiness | committing
  | succeeded | rejected | failed | cancelled | superseded | deadlineExceeded | recoveryFailed
  | recovering
  deriving DecidableEq, Repr

/-- This function is the numeric value of the phase enumeration. -/
def TransitionPhase.value : TransitionPhase → Nat
  | .received => 0
  | .validated => 1
  | .planned => 2
  | .stopping => 3
  | .starting => 4
  | .awaitingReadiness => 5
  | .committing => 6
  | .succeeded => 7
  | .rejected => 8
  | .failed => 9
  | .cancelled => 10
  | .superseded => 11
  | .deadlineExceeded => 12
  | .recoveryFailed => 13
  | .recovering => 14

/-- This function is the phase of a numeric value. -/
def TransitionPhase.ofValue : Nat → TransitionPhase
  | 0 => .received
  | 1 => .validated
  | 2 => .planned
  | 3 => .stopping
  | 4 => .starting
  | 5 => .awaitingReadiness
  | 6 => .committing
  | 7 => .succeeded
  | 8 => .rejected
  | 9 => .failed
  | 10 => .cancelled
  | 11 => .superseded
  | 12 => .deadlineExceeded
  | 13 => .recoveryFailed
  | _ => .recovering

theorem TransitionPhase.value_le (phase : TransitionPhase) : phase.value ≤ 14 := by
  cases phase <;> decide

theorem TransitionPhase.ofValue_value (phase : TransitionPhase) : ofValue phase.value = phase := by
  cases phase <;> rfl

theorem TransitionPhase.value_ofValue (value : Nat) (small : value ≤ 14) : (ofValue value).value = value := by
  interval_cases value <;> rfl

/-- The terminal phases end a transition. -/
def TransitionPhase.isTerminal : TransitionPhase → Bool
  | .succeeded | .rejected | .failed | .cancelled | .superseded | .deadlineExceeded
  | .recoveryFailed => true
  | _ => false

inductive StopReason where
  | none | modeChange | systemShutdown | restart | supervisorRequest | dependencyFailure
  | recovery | unknown
  deriving DecidableEq, Repr

inductive ReplacementPolicy where
  | rejectWhileBusy | queue | supersedeIfSafe
  deriving DecidableEq, Repr

inductive FailureAction where
  | holdObservedConfiguration | enterFallbackMode | rollbackIfDeclaredSafe | stopDomain
  | requestSystemRecovery
  deriving DecidableEq, Repr

/-- This function is the numeric value of the action enumeration. -/
def FailureAction.value : FailureAction → Nat
  | .holdObservedConfiguration => 0
  | .enterFallbackMode => 1
  | .rollbackIfDeclaredSafe => 2
  | .stopDomain => 3
  | .requestSystemRecovery => 4

/-- This function is the action of a numeric value. -/
def FailureAction.ofValue : Nat → FailureAction
  | 0 => .holdObservedConfiguration
  | 1 => .enterFallbackMode
  | 2 => .rollbackIfDeclaredSafe
  | 3 => .stopDomain
  | _ => .requestSystemRecovery

theorem FailureAction.value_le (action : FailureAction) : action.value ≤ 4 := by
  cases action <;> decide

theorem FailureAction.ofValue_value (action : FailureAction) : ofValue action.value = action := by
  cases action <;> rfl

theorem FailureAction.value_ofValue (value : Nat) (small : value ≤ 4) : (ofValue value).value = value := by
  interval_cases value <;> rfl

inductive ReadinessPolicy where
  | lifecycleChannel | processStarted | supervisorNotification | successfulExit | socketAvailable
  | mountPresent
  deriving DecidableEq, Repr

/-- The source declares `required` as a second name of `lifecycle_channel`. -/
abbrev ReadinessPolicy.required : ReadinessPolicy := .lifecycleChannel

inductive ErrorCode where
  | none | invalidArgument | invalidIdentifier | invalidTransition | alreadyExists | notFound
  | permissionDenied | busy | superseded | cancelled | deadlineExceeded | resourceExhausted
  | configurationError | communicationError | backendUnavailable | backendError
  | persistenceError | incompatibleAbi | unsupported | internalError
  deriving DecidableEq, Repr

/-- This function is the numeric value of the error enumeration. -/
def ErrorCode.value : ErrorCode → Nat
  | .none => 0
  | .invalidArgument => 1
  | .invalidIdentifier => 2
  | .invalidTransition => 3
  | .alreadyExists => 4
  | .notFound => 5
  | .permissionDenied => 6
  | .busy => 7
  | .superseded => 8
  | .cancelled => 9
  | .deadlineExceeded => 10
  | .resourceExhausted => 11
  | .configurationError => 12
  | .communicationError => 13
  | .backendUnavailable => 14
  | .backendError => 15
  | .persistenceError => 16
  | .incompatibleAbi => 17
  | .unsupported => 18
  | .internalError => 19

/-- This function is the error code of a numeric value. -/
def ErrorCode.ofValue : Nat → ErrorCode
  | 0 => .none
  | 1 => .invalidArgument
  | 2 => .invalidIdentifier
  | 3 => .invalidTransition
  | 4 => .alreadyExists
  | 5 => .notFound
  | 6 => .permissionDenied
  | 7 => .busy
  | 8 => .superseded
  | 9 => .cancelled
  | 10 => .deadlineExceeded
  | 11 => .resourceExhausted
  | 12 => .configurationError
  | 13 => .communicationError
  | 14 => .backendUnavailable
  | 15 => .backendError
  | 16 => .persistenceError
  | 17 => .incompatibleAbi
  | 18 => .unsupported
  | _ => .internalError

theorem ErrorCode.value_le (code : ErrorCode) : code.value ≤ 19 := by
  cases code <;> decide

theorem ErrorCode.ofValue_value (code : ErrorCode) : ofValue code.value = code := by
  cases code <;> rfl

theorem ErrorCode.value_ofValue (value : Nat) (small : value ≤ 19) : (ofValue value).value = value := by
  interval_cases value <;> rfl

structure Error where
  code : ErrorCode := .none
  message : String := ""
  supportData : Nat := 0
  deriving DecidableEq, Repr

def makeError (code : ErrorCode) (message : String) (supportData : Nat := 0) : Error := ⟨code, message, supportData⟩

/-- A fallible function returns a value or an error. -/
abbrev Result (A : Type) := Except Error A

end OpenVehicle.Exec
