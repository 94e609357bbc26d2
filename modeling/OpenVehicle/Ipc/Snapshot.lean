/-
This file translates the snapshots of the coordinator and their messages. The writer and the reader
of a message are separate functions of the source, and the reader rejects some values.
-/

import OpenVehicle.Data.Json
import OpenVehicle.Exec.Model

namespace OpenVehicle.Ipc

open Data Exec

abbrev Text := List UInt8

/-- The error of a failed transition, with a message of arbitrary bytes. -/
structure ErrorReport where
  code : ErrorCode
  message : Text
  supportData : UInt64
  deriving DecidableEq

structure TransitionFailureSnapshot where
  error : ErrorReport
  application : Option UInt64
  exitCode : Int32
  signal : Int32
  backendCode : UInt64
  backendMessage : Text
  recoveryAction : FailureAction
  recoveryAttempted : Bool
  recoverySucceeded : Bool
  recoveryError : Option ErrorReport
  recoveredMode : Option UInt64
  recoveryStoppedApplications : List UInt64
  recoveryStartedApplications : List UInt64
  deriving DecidableEq

/-- The time of the last update counts nanoseconds. -/
structure TransitionReport where
  id : UInt64
  domain : UInt64
  sourceMode : UInt64
  targetMode : UInt64
  phase : TransitionPhase
  updatedAt : Int64
  failure : Option TransitionFailureSnapshot
  deriving DecidableEq

inductive DomainStatus where
  | unknown | stable | transitioning | degraded | recovering
  deriving DecidableEq

structure ExecutionDomain where
  id : UInt64
  name : Text
  committedMode : UInt64
  targetMode : Option UInt64
  status : DomainStatus
  activeTransition : Option UInt64
  deriving DecidableEq

structure ExecutionUnitSnapshot where
  id : UInt64
  name : Text
  kind : ExecutionUnitKind
  bootstrap : Bool
  state : ApplicationState
  deriving DecidableEq

structure ApplicationSnapshot where
  id : UInt64
  name : Text
  state : ApplicationState
  deriving DecidableEq

structure SystemSnapshot where
  modelGeneration : UInt64
  revision : UInt64
  recovering : Bool
  domains : List ExecutionDomain
  units : List ExecutionUnitSnapshot
  applications : List ApplicationSnapshot
  transitions : List TransitionReport
  deriving DecidableEq

def DomainStatus.value : DomainStatus → Nat
  | .unknown => 0
  | .stable => 1
  | .transitioning => 2
  | .degraded => 3
  | .recovering => 4

def DomainStatus.ofValue : Nat → DomainStatus
  | 0 => .unknown
  | 1 => .stable
  | 2 => .transitioning
  | 3 => .degraded
  | _ => .recovering

def kindValue : ExecutionUnitKind → Nat
  | .managedApplication => 0
  | .service => 1
  | .oneShot => 2
  | .mount => 3
  | .external => 4

def kindOfValue : Nat → ExecutionUnitKind
  | 0 => .managedApplication
  | 1 => .service
  | 2 => .oneShot
  | 3 => .mount
  | _ => .external

def stateValue : ApplicationState → Nat
  | .unknown => 0
  | .starting => 1
  | .ready => 2
  | .stopping => 3
  | .stopped => 4
  | .failed => 5
  | .killed => 6
  | .unavailable => 7

def stateOfValue : Nat → ApplicationState
  | 0 => .unknown
  | 1 => .starting
  | 2 => .ready
  | 3 => .stopping
  | 4 => .stopped
  | 5 => .failed
  | 6 => .killed
  | _ => .unavailable

section Write
open Json

def natural (value : Nat) : Json := uint (UInt64.ofNat value)

def errorValue (error : ErrorReport) : Json :=
  ((null.set "code" (natural error.code.value)).set "message" (string error.message)).set
    "supportData" (uint error.supportData)

def failureValue (failure : TransitionFailureSnapshot) : Json :=
  (((((((((((((null.set "error" (errorValue failure.error)).setOption "application" (failure.application.map uint)).set
    "exitCode" (int failure.exitCode.toInt64)).set "signal" (int failure.signal.toInt64)).set
    "backendCode" (uint failure.backendCode)).set "backendMessage" (string failure.backendMessage)).set
    "recoveryAction" (natural failure.recoveryAction.value)).set
    "recoveryAttempted" (bool failure.recoveryAttempted)).set
    "recoverySucceeded" (bool failure.recoverySucceeded)).setOption
    "recoveryError" (failure.recoveryError.map errorValue)).setOption
    "recoveredMode" (failure.recoveredMode.map uint)).set
    "recoveryStoppedApplications" (array (failure.recoveryStoppedApplications.map uint))).set
    "recoveryStartedApplications" (array (failure.recoveryStartedApplications.map uint)))

def transitionValue (transition : TransitionReport) : Json :=
  ((((((null.set "id" (uint transition.id)).set "domain" (uint transition.domain)).set
    "sourceMode" (uint transition.sourceMode)).set "targetMode" (uint transition.targetMode)).set
    "phase" (natural transition.phase.value)).set "updatedNs" (int transition.updatedAt)).setOption
    "failure" (transition.failure.map failureValue)

def domainValue (domain : ExecutionDomain) : Json :=
  (((((null.set "id" (uint domain.id)).set "name" (string domain.name)).set
    "committedMode" (uint domain.committedMode)).set "status" (natural domain.status.value)).setOption
    "targetMode" (domain.targetMode.map uint)).setOption
    "activeTransition" (domain.activeTransition.map uint)

def applicationValue (application : ApplicationSnapshot) : Json :=
  ((null.set "id" (uint application.id)).set "name" (string application.name)).set
    "state" (natural (stateValue application.state))

def unitValue (unit : ExecutionUnitSnapshot) : Json :=
  ((((null.set "id" (uint unit.id)).set "name" (string unit.name)).set "kind" (natural (kindValue unit.kind))).set
    "bootstrap" (bool unit.bootstrap)).set
    "state" (natural (stateValue unit.state))

def snapshotValue (snapshot : SystemSnapshot) : Json :=
  ((((((null.set "generation" (uint snapshot.modelGeneration)).set "revision" (uint snapshot.revision)).set
    "recovering" (bool snapshot.recovering)).set "domains" (array (snapshot.domains.map domainValue))).set
    "units" (array (snapshot.units.map unitValue))).set
    "applications" (array (snapshot.applications.map applicationValue))).set
    "transitions" (array (snapshot.transitions.map transitionValue))

end Write

section Read

/-- A reader returns an error or throws. -/
inductive Interrupt where
  | returned (error : Error)
  | thrown

abbrev Reader (A : Type) := Except Interrupt A

def invalid (message : String) : Interrupt := .returned (makeError .communicationError message)

def require (test : Bool) (message : String) : Reader Unit :=
  if test then .ok () else .error (invalid message)

def converted {A : Type} : Option A → Reader A
  | some value => .ok value
  | none => .error .thrown

variable (value : Json)

def isUnsignedInteger : Bool := value.isIntegral && (!value.isInt64 || decide (0 ≤ (value.asInt64.getD 0).toInt))

def isSignedInteger : Bool := value.isIntegral

/-- A value that has passed the unsigned test converts without an exception. -/
def unsigned : UInt64 := value.asUInt64.getD 0

/-- An enumeration is read after a range test. -/
def isEnumeration (last : Nat) : Bool := isUnsignedInteger value && decide ((unsigned value).toNat ≤ last)

def invalidError : ErrorReport := ⟨.communicationError, "coordinator returned an invalid error".toUTF8.data.toList, 0⟩

/-- A malformed error reads as an error of its own. -/
def decodeError : ErrorReport :=
  if value.isObject && isUnsignedInteger (value.get "code") && (value.get "message").isString &&
      isUnsignedInteger (value.get "supportData") &&
      decide ((unsigned (value.get "code")).toNat ≤ ErrorCode.internalError.value) then
    ⟨.ofValue (unsigned (value.get "code")).toNat, (value.get "message").asString, unsigned (value.get "supportData")⟩
  else invalidError

/-- An optional field is tested only where it is present. -/
def decodeOptional (key message : String) : Reader (Option UInt64) :=
  if value.isMember key then do
    require (isUnsignedInteger (value.get key)) message
    pure (some (unsigned (value.get key)))
  else pure none

def decodeRecoveryError : Reader (Option ErrorReport) :=
  if value.isMember "recoveryError" then do
    let error := decodeError (value.get "recoveryError")
    require (error.code != .none) "coordinator returned invalid recovery error"
    pure (some error)
  else pure none

/-- Zero identifies no application. -/
def decodeApplications (message : String) : List Json → Reader (List UInt64)
  | [] => pure []
  | value :: values => do
      require (isUnsignedInteger value && unsigned value != 0) message
      let rest ← decodeApplications message values
      pure (unsigned value :: rest)

def decodeFailure : Reader TransitionFailureSnapshot := do
  require (value.isObject && isSignedInteger (value.get "exitCode") &&
    isSignedInteger (value.get "signal") && isUnsignedInteger (value.get "backendCode") &&
    (value.get "backendMessage").isString &&
    isEnumeration (value.get "recoveryAction") FailureAction.requestSystemRecovery.value &&
    (value.get "recoveryAttempted").isBool && (value.get "recoverySucceeded").isBool &&
    (value.get "recoveryStoppedApplications").isArray &&
    (value.get "recoveryStartedApplications").isArray) "coordinator returned invalid failure evidence"
  let exitCode ← converted (value.get "exitCode").asInt
  let signal ← converted (value.get "signal").asInt
  let application ← decodeOptional value "application" "coordinator returned invalid failure application"
  let recoveryError ← decodeRecoveryError value
  let recoveredMode ← decodeOptional value "recoveredMode" "coordinator returned invalid recovered mode"
  let stopped ← decodeApplications "coordinator returned invalid recovery stop evidence"
    (value.get "recoveryStoppedApplications").items
  let started ← decodeApplications "coordinator returned invalid recovery start evidence"
    (value.get "recoveryStartedApplications").items
  pure ⟨decodeError (value.get "error"), application, exitCode, signal,
    unsigned (value.get "backendCode"), (value.get "backendMessage").asString,
    .ofValue (unsigned (value.get "recoveryAction")).toNat, (value.get "recoveryAttempted").asBool,
    (value.get "recoverySucceeded").asBool, recoveryError, recoveredMode, stopped, started⟩

def decodeOptionalFailure : Reader (Option TransitionFailureSnapshot) :=
  if value.isMember "failure" then do
    let failure ← decodeFailure (value.get "failure")
    pure (some failure)
  else pure none

def decodeTransition : Reader TransitionReport := do
  require (value.isObject && isUnsignedInteger (value.get "id") && isUnsignedInteger (value.get "domain") &&
    isUnsignedInteger (value.get "sourceMode") && isUnsignedInteger (value.get "targetMode") &&
    isSignedInteger (value.get "updatedNs") && isEnumeration (value.get "phase") TransitionPhase.recovering.value)
    "coordinator returned an invalid transition"
  let updatedAt ← converted (value.get "updatedNs").asInt64
  let failure ← decodeOptionalFailure value
  pure ⟨unsigned (value.get "id"), unsigned (value.get "domain"), unsigned (value.get "sourceMode"),
    unsigned (value.get "targetMode"), .ofValue (unsigned (value.get "phase")).toNat, updatedAt, failure⟩

def decodeDomain : Reader ExecutionDomain := do
  require (value.isObject && isUnsignedInteger (value.get "id") && (value.get "name").isString &&
    isUnsignedInteger (value.get "committedMode") && isEnumeration (value.get "status") DomainStatus.recovering.value)
    "coordinator returned an invalid domain"
  let targetMode ← decodeOptional value "targetMode" "coordinator returned an invalid target mode"
  let activeTransition ←
    decodeOptional value "activeTransition" "coordinator returned an invalid active transition"
  pure ⟨unsigned (value.get "id"), (value.get "name").asString, unsigned (value.get "committedMode"),
    targetMode, .ofValue (unsigned (value.get "status")).toNat, activeTransition⟩

/-- The items of the two lists are read without a test of their type. -/
def decodeApplication : Reader ApplicationSnapshot := do
  if value.readable then do
    require (isUnsignedInteger (value.get "id") && (value.get "name").isString &&
      isEnumeration (value.get "state") (stateValue .unavailable))
      "coordinator returned an invalid application"
    pure ⟨unsigned (value.get "id"), (value.get "name").asString, stateOfValue (unsigned (value.get "state")).toNat⟩
  else throw .thrown

def decodeUnit : Reader ExecutionUnitSnapshot := do
  if value.readable then do
    require (isUnsignedInteger (value.get "id") && (value.get "name").isString &&
      isEnumeration (value.get "kind") (kindValue .external) && (value.get "bootstrap").isBool &&
      isEnumeration (value.get "state") (stateValue .unavailable))
      "coordinator returned an invalid execution unit"
    pure ⟨unsigned (value.get "id"), (value.get "name").asString,
      kindOfValue (unsigned (value.get "kind")).toNat, (value.get "bootstrap").asBool,
      stateOfValue (unsigned (value.get "state")).toNat⟩
  else throw .thrown

def decodeList {A : Type} (decode : Json → Reader A) : List Json → Reader (List A)
  | [] => pure []
  | value :: values => do
      let first ← decode value
      let rest ← decodeList decode values
      pure (first :: rest)

/-- An exception inside the loops is reported as an allocation failure. -/
def decodeSnapshot : Result SystemSnapshot :=
  if value.isObject && isUnsignedInteger (value.get "generation") &&
      isUnsignedInteger (value.get "revision") && (value.get "recovering").isBool &&
      (value.get "domains").isArray && (value.get "units").isArray &&
      (value.get "applications").isArray && (value.get "transitions").isArray then
    let lists : Reader SystemSnapshot := do
      let domains ← decodeList decodeDomain (value.get "domains").items
      let applications ← decodeList decodeApplication (value.get "applications").items
      let units ← decodeList decodeUnit (value.get "units").items
      let transitions ← decodeList decodeTransition (value.get "transitions").items
      pure ⟨unsigned (value.get "generation"), unsigned (value.get "revision"),
        (value.get "recovering").asBool, domains, units, applications, transitions⟩
    match lists with
    | .ok snapshot => .ok snapshot
    | .error (.returned error) => .error error
    | .error .thrown => .error (makeError .resourceExhausted "cannot allocate coordinator snapshot")
  else .error (makeError .communicationError "coordinator returned an invalid snapshot")

end Read

section RoundTrip
open Json

theorem isUnsignedInteger_uint (value : UInt64) : isUnsignedInteger (uint value) = true := by
  have small := value.toNat_lt
  rw [isUnsignedInteger, show (uint value).isIntegral = true from rfl, Bool.true_and, Bool.or_eq_true]
  by_cases fits : value.toNat ≤ 2 ^ 63 - 1
  · right
    rw [asInt64, convert_of_number value.toNat (by simp [number]) (by omega) (by omega), Option.map_some,
      Option.getD_some, Int64.toInt_ofInt_of_le (by omega) (by omega)]
    exact decide_eq_true (by omega)
  · left
    simp only [isInt64, fits]
    rfl

theorem unsigned_uint (value : UInt64) : unsigned (uint value) = value := by
  rw [unsigned, asUInt64_uint, Option.getD_some]

theorem unsigned_natural {value last : Nat} (small : value ≤ last) (byte : last < 256) :
    (unsigned (natural value)).toNat = value := by
  rw [natural, unsigned_uint, UInt64.toNat_ofNat_of_lt']
  exact lt_of_le_of_lt small (lt_trans byte (by decide))

theorem isEnumeration_natural {value last : Nat} (small : value ≤ last) (byte : last < 256) :
    isEnumeration (natural value) last = true := by
  rw [isEnumeration, unsigned_natural small byte, natural, isUnsignedInteger_uint]
  exact decide_eq_true small

theorem isUnsignedInteger_natural (value : Nat) : isUnsignedInteger (natural value) = true := isUnsignedInteger_uint _

theorem decodeError_errorValue (error : ErrorReport) : decodeError (errorValue error) = error := by
  have small := error.code.value_le
  have code : (unsigned (natural error.code.value)).toNat = error.code.value := unsigned_natural small (by decide)
  have within : error.code.value ≤ ErrorCode.internalError.value := small
  simp [decodeError, errorValue, get_set, code, within, isUnsignedInteger_natural, isUnsignedInteger_uint,
    unsigned_uint, isString, asString, ErrorCode.ofValue_value]

theorem decodeOptional_map {value : Json} {key message : String} {option : Option UInt64}
    (member : value.isMember key = option.isSome) (found : ∀ a ∈ option, value.get key = uint a) :
    decodeOptional value key message = .ok option := by
  unfold decodeOptional
  cases option with
  | none => rw [member]; rfl
  | some a =>
      rw [member, found a rfl, isUnsignedInteger_uint, unsigned_uint]
      rfl

theorem decodeApplications_map {message : String} {applications : List UInt64}
    (known : ∀ application ∈ applications, application ≠ 0) :
    decodeApplications message (applications.map uint) = .ok applications := by
  induction applications with
  | nil => rfl
  | cons application applications ih =>
      obtain ⟨nonzero, rest⟩ := List.forall_mem_cons.mp known
      have test : (isUnsignedInteger (uint application) && unsigned (uint application) != 0) = true := by
        rw [isUnsignedInteger_uint, unsigned_uint, Bool.true_and, bne_iff_ne]
        exact nonzero
      rw [List.map_cons, decodeApplications, test, ih rest, unsigned_uint]
      rfl

theorem decodeList_map {A : Type} {decode : Json → Reader A} {write : A → Json} {values : List A}
    (each : ∀ value ∈ values, decode (write value) = .ok value) :
    decodeList decode (values.map write) = .ok values := by
  induction values with
  | nil => rfl
  | cons value values ih =>
      obtain ⟨first, rest⟩ := List.forall_mem_cons.mp each
      rw [List.map_cons, decodeList, first, ih rest]
      rfl

/-- The reader accepts the recovery evidence of a failure. -/
structure TransitionFailureSnapshot.Readable (failure : TransitionFailureSnapshot) : Prop where
  error : ∀ error ∈ failure.recoveryError, error.code ≠ .none
  stopped : ∀ application ∈ failure.recoveryStoppedApplications, application ≠ 0
  started : ∀ application ∈ failure.recoveryStartedApplications, application ≠ 0

theorem decodeFailure_failureValue {failure : TransitionFailureSnapshot} (readable : failure.Readable) :
    decodeFailure (failureValue failure) = .ok failure := by
  have small := failure.recoveryAction.value_le
  have action : (unsigned (natural failure.recoveryAction.value)).toNat = failure.recoveryAction.value :=
    unsigned_natural small (by decide)
  have listed : isEnumeration (natural failure.recoveryAction.value)
      FailureAction.requestSystemRecovery.value = true := isEnumeration_natural small (by decide)
  have application : decodeOptional (failureValue failure) "application"
      "coordinator returned invalid failure application" = .ok failure.application := by
    refine decodeOptional_map ?_ ?_
    · simp [failureValue, isMember_set, isMember_setOption]
    · intro a same
      simp [failureValue, get_set, get_setOption, Option.mem_def.mp same]
  have mode : decodeOptional (failureValue failure) "recoveredMode"
      "coordinator returned invalid recovered mode" = .ok failure.recoveredMode := by
    refine decodeOptional_map ?_ ?_
    · simp [failureValue, isMember_set, isMember_setOption]
    · intro a same
      simp [failureValue, get_set, get_setOption, Option.mem_def.mp same]
  have error : decodeRecoveryError (failureValue failure) = .ok failure.recoveryError := by
    have member : (failureValue failure).isMember "recoveryError" = failure.recoveryError.isSome := by
      simp [failureValue, isMember_set, isMember_setOption]
    rw [decodeRecoveryError, member]
    cases found : failure.recoveryError with
    | none => rfl
    | some error =>
        have field : (failureValue failure).get "recoveryError" = errorValue error := by
          simp [failureValue, get_set, get_setOption, found]
        have coded : (error.code != .none) = true := bne_iff_ne.mpr (readable.error error found)
        simp only [Option.isSome_some, field, decodeError_errorValue, coded]
        rfl
  unfold decodeFailure
  rw [application, mode, error]
  simp [failureValue, get_set, get_setOption, isSignedInteger, isIntegral, isUnsignedInteger_uint,
    isString, isBool, isArray, items, asString, asBool, listed, action, asInt_int, converted,
    decodeApplications_map readable.stopped, decodeApplications_map readable.started,
    decodeError_errorValue, unsigned_uint, FailureAction.ofValue_value, require, bind, Except.bind, pure, Except.pure]

theorem decodeTransition_transitionValue {transition : TransitionReport}
    (readable : ∀ failure ∈ transition.failure, failure.Readable) :
    decodeTransition (transitionValue transition) = .ok transition := by
  have small := transition.phase.value_le
  have phase : (unsigned (natural transition.phase.value)).toNat = transition.phase.value :=
    unsigned_natural small (by decide)
  have listed : isEnumeration (natural transition.phase.value) TransitionPhase.recovering.value = true :=
    isEnumeration_natural small (by decide)
  have object : (transitionValue transition).isObject = true := isObject_setOption rfl
  have member : (transitionValue transition).isMember "failure" = transition.failure.isSome := by
    simp [transitionValue, isMember_set, isMember_setOption]
  have failure : decodeOptionalFailure (transitionValue transition) = .ok transition.failure := by
    rw [decodeOptionalFailure, member]
    cases found : transition.failure with
    | none => rfl
    | some failure =>
        have field : (transitionValue transition).get "failure" = failureValue failure := by
          simp [transitionValue, get_setOption, found]
        rw [field, decodeFailure_failureValue (readable failure found)]
        rfl
  unfold decodeTransition
  rw [failure, object]
  simp [transitionValue, get_set, get_setOption, isUnsignedInteger_uint, isSignedInteger, isIntegral, listed,
    phase, unsigned_uint, asInt64_int, converted, TransitionPhase.ofValue_value, require, bind, Except.bind, pure,
    Except.pure]

theorem decodeDomain_domainValue (domain : ExecutionDomain) : decodeDomain (domainValue domain) = .ok domain := by
  have small : domain.status.value ≤ DomainStatus.recovering.value := by cases domain.status <;> decide
  have status : (unsigned (natural domain.status.value)).toNat = domain.status.value :=
    unsigned_natural small (by decide)
  have listed : isEnumeration (natural domain.status.value) DomainStatus.recovering.value = true :=
    isEnumeration_natural small (by decide)
  have again : DomainStatus.ofValue domain.status.value = domain.status := by cases domain.status <;> rfl
  have object : (domainValue domain).isObject = true := isObject_setOption (isObject_setOption rfl)
  have mode : decodeOptional (domainValue domain) "targetMode"
      "coordinator returned an invalid target mode" = .ok domain.targetMode := by
    refine decodeOptional_map ?_ ?_
    · simp [domainValue, isMember_set, isMember_setOption]
    · intro a same
      simp [domainValue, get_setOption, Option.mem_def.mp same]
  have transition : decodeOptional (domainValue domain) "activeTransition"
      "coordinator returned an invalid active transition" = .ok domain.activeTransition := by
    refine decodeOptional_map ?_ ?_
    · simp [domainValue, isMember_set, isMember_setOption]
    · intro a same
      simp [domainValue, get_setOption, Option.mem_def.mp same]
  unfold decodeDomain
  rw [mode, transition, object]
  simp [domainValue, get_set, get_setOption, isUnsignedInteger_uint, isString, asString, listed, status,
    unsigned_uint, again, require, bind, Except.bind, pure, Except.pure]

theorem state_value_le (state : ApplicationState) : stateValue state ≤ stateValue .unavailable := by
  cases state <;> decide

theorem stateOfValue_value (state : ApplicationState) : stateOfValue (stateValue state) = state := by
  cases state <;> rfl

theorem decodeApplication_applicationValue (application : ApplicationSnapshot) :
    decodeApplication (applicationValue application) = .ok application := by
  have small := state_value_le application.state
  have state : (unsigned (natural (stateValue application.state))).toNat = stateValue application.state :=
    unsigned_natural small (by decide)
  have listed := isEnumeration_natural small (by decide)
  simp [decodeApplication, applicationValue, get_set, isUnsignedInteger_uint, isString, asString,
    listed, state, unsigned_uint, stateOfValue_value, require, bind, Except.bind, pure, Except.pure]

theorem decodeUnit_unitValue (unit : ExecutionUnitSnapshot) : decodeUnit (unitValue unit) = .ok unit := by
  have small := state_value_le unit.state
  have state : (unsigned (natural (stateValue unit.state))).toNat = stateValue unit.state :=
    unsigned_natural small (by decide)
  have listed := isEnumeration_natural small (by decide)
  have few : kindValue unit.kind ≤ kindValue .external := by cases unit.kind <;> decide
  have kind : (unsigned (natural (kindValue unit.kind))).toNat = kindValue unit.kind := unsigned_natural few (by decide)
  have known := isEnumeration_natural few (by decide)
  have again : kindOfValue (kindValue unit.kind) = unit.kind := by cases unit.kind <;> rfl
  simp [decodeUnit, unitValue, get_set, isUnsignedInteger_uint, isString, asString, isBool, asBool,
    listed, state, known, kind, again, unsigned_uint, stateOfValue_value, require, bind, Except.bind, pure, Except.pure]

/-- The reader accepts the recovery evidence of every transition. -/
def SystemSnapshot.Readable (snapshot : SystemSnapshot) : Prop :=
  ∀ transition ∈ snapshot.transitions, ∀ failure ∈ transition.failure, failure.Readable

theorem decodeSnapshot_snapshotValue {snapshot : SystemSnapshot} (readable : snapshot.Readable) :
    decodeSnapshot (snapshotValue snapshot) = .ok snapshot := by
  have domains : decodeList decodeDomain (snapshot.domains.map domainValue) = .ok snapshot.domains :=
    decodeList_map fun domain _ => decodeDomain_domainValue domain
  have applications : decodeList decodeApplication (snapshot.applications.map applicationValue) =
      .ok snapshot.applications := decodeList_map fun application _ => decodeApplication_applicationValue application
  have units : decodeList decodeUnit (snapshot.units.map unitValue) = .ok snapshot.units :=
    decodeList_map fun unit _ => decodeUnit_unitValue unit
  have transitions := decodeList_map fun transition known =>
    decodeTransition_transitionValue (readable transition known)
  simp [decodeSnapshot, snapshotValue, get_set, isUnsignedInteger_uint, isBool, isArray, items, asBool,
    domains, applications, units, transitions, unsigned_uint, bind, Except.bind, pure, Except.pure]

end RoundTrip

end OpenVehicle.Ipc
