/-
This file translates the record format of the file journal. Identifiers, counters and messages have
the widths and the bytes of the source, so that every byte string of the format can be decoded.
-/

import OpenVehicle.Data.Codec
import OpenVehicle.Exec.Types

namespace OpenVehicle.Exec.FileJournal

open Codec

/-- A message is a byte string, since the decoder does not test its encoding. -/
structure StoredError where
  code : ErrorCode
  message : List Byte
  supportData : UInt64
  deriving DecidableEq

structure StoredEvidence where
  state : ApplicationState
  exitCode : Int32
  signal : Int32
  nativeCode : UInt64
  message : List Byte
  deriving DecidableEq

structure StoredFailure where
  error : StoredError
  application : Option UInt64
  evidence : StoredEvidence
  recoveryAction : FailureAction
  recoveryAttempted : Bool
  recoverySucceeded : Bool
  recoveryError : Option StoredError
  recoveredMode : Option UInt64
  recoveryStoppedApplications : List UInt64
  recoveryStartedApplications : List UInt64
  deriving DecidableEq

/-- The time of the last update counts nanoseconds. -/
structure StoredTransition where
  id : UInt64
  domain : UInt64
  sourceMode : UInt64
  targetMode : UInt64
  phase : TransitionPhase
  updatedAt : Int64
  failure : Option StoredFailure
  deriving DecidableEq

structure StoredPlan where
  generation : UInt64
  domain : UInt64
  sourceMode : UInt64
  targetMode : UInt64
  retain : List UInt64
  stop : List UInt64
  start : List UInt64
  guardedDomains : List UInt64
  affectedResources : List UInt64
  deriving DecidableEq

structure StoredEvent where
  transition : StoredTransition
  generation : UInt64
  plan : Option StoredPlan
  deriving DecidableEq

section Encode
open Printer

def encodeRecoveryError (error : StoredError) : Printer Error Unit := do
  integer (UInt16.ofNat error.code.value)
  integer error.supportData
  string error.message (makeError .resourceExhausted "journal recovery error is too large")

def encodeFailure (failure : StoredFailure) : Printer Error Unit := do
  let large := makeError .resourceExhausted "journal recovery application evidence is too large"
  integer (UInt16.ofNat failure.error.code.value)
  integer failure.error.supportData
  string failure.error.message (makeError .resourceExhausted "journal error message is too large")
  integer failure.application.isSome.toUInt8
  option integer failure.application
  integer failure.evidence.exitCode
  integer failure.evidence.signal
  integer failure.evidence.nativeCode
  string failure.evidence.message (makeError .resourceExhausted "journal evidence is too large")
  integer (UInt8.ofNat failure.recoveryAction.value)
  integer failure.recoveryAttempted.toUInt8
  integer failure.recoverySucceeded.toUInt8
  integer failure.recoveryError.isSome.toUInt8
  option encodeRecoveryError failure.recoveryError
  integer failure.recoveredMode.isSome.toUInt8
  option integer failure.recoveredMode
  integers failure.recoveryStoppedApplications large
  integers failure.recoveryStartedApplications large

def encodePlan (plan : StoredPlan) : Printer Error Unit := do
  let large := makeError .resourceExhausted "journal plan is too large"
  integer plan.generation
  integer plan.domain
  integer plan.sourceMode
  integer plan.targetMode
  integers plan.retain large
  integers plan.stop large
  integers plan.start large
  integers plan.guardedDomains large
  integers plan.affectedResources large

def encodeEvent (event : StoredEvent) : Printer Error Unit := do
  integer event.generation
  integer event.transition.id
  integer event.transition.domain
  integer event.transition.sourceMode
  integer event.transition.targetMode
  integer (UInt8.ofNat event.transition.phase.value)
  integer event.transition.updatedAt
  integer event.transition.failure.isSome.toUInt8
  option encodeFailure event.transition.failure
  integer event.plan.isSome.toUInt8
  option encodePlan event.plan

def encode (event : StoredEvent) (maximumSize : Nat) : Result (List Byte) := do
  let (_, bytes) ← encodeEvent event []
  if bytes.length > maximumSize then
    throw (makeError .resourceExhausted "journal record exceeds configured limit")
  else
    pure bytes

end Encode

section Decode
open Parser

def decodeRecoveryError : Parser Error StoredError := do
  let invalid := makeError .persistenceError "journal recovery error is invalid"
  let code ← integer UInt16 invalid
  let supportData ← integer UInt64 invalid
  let message ← string invalid
  reject (code.toNat > ErrorCode.internalError.value) invalid
  pure ⟨.ofValue code.toNat, message, supportData⟩

/-- The records of the first version end with the backend evidence. -/
def decodeFailure (version : UInt16) : Parser Error StoredFailure := do
  let invalid := makeError .persistenceError "journal failure record is invalid"
  let truncated := makeError .persistenceError "journal backend evidence is truncated"
  let code ← integer UInt16 invalid
  let supportData ← integer UInt64 invalid
  let message ← string invalid
  let hasApplication ← integer UInt8 invalid
  reject (code.toNat > ErrorCode.internalError.value || hasApplication.toNat > 1) invalid
  let application ← option (hasApplication != 0)
    (integer UInt64 (makeError .persistenceError "journal failure application is truncated"))
  let exitCode ← integer Int32 truncated
  let signal ← integer Int32 truncated
  let nativeCode ← integer UInt64 truncated
  let evidence ← string truncated
  if version ≥ 2 then do
    let invalid := makeError .persistenceError "journal recovery evidence is invalid"
    let recoveryAction ← integer UInt8 invalid
    let recoveryAttempted ← integer UInt8 invalid
    let recoverySucceeded ← integer UInt8 invalid
    let hasRecoveryError ← integer UInt8 invalid
    reject (recoveryAction.toNat > FailureAction.requestSystemRecovery.value ||
      recoveryAttempted.toNat > 1 || recoverySucceeded.toNat > 1 || hasRecoveryError.toNat > 1) invalid
    let recoveryError ← option (hasRecoveryError != 0) decodeRecoveryError
    let invalid := makeError .persistenceError "journal recovered mode is invalid"
    let hasRecoveredMode ← integer UInt8 invalid
    reject (hasRecoveredMode.toNat > 1) invalid
    let recoveredMode ← option (hasRecoveredMode != 0)
      (integer UInt64 (makeError .persistenceError "journal recovered mode is truncated"))
    let invalid := makeError .persistenceError "journal recovery application evidence is invalid"
    let stopped ← integers UInt64 invalid
    let started ← integers UInt64 invalid
    pure ⟨⟨.ofValue code.toNat, message, supportData⟩, application,
      ⟨.unknown, exitCode, signal, nativeCode, evidence⟩, .ofValue recoveryAction.toNat,
      recoveryAttempted != 0, recoverySucceeded != 0, recoveryError, recoveredMode, stopped, started⟩
  else
    pure ⟨⟨.ofValue code.toNat, message, supportData⟩, application,
      ⟨.unknown, exitCode, signal, nativeCode, evidence⟩, .holdObservedConfiguration, false, false, none, none, [], []⟩

def decodePlan : Parser Error StoredPlan := do
  let invalid := makeError .persistenceError "journal transition plan is invalid"
  let generation ← integer UInt64 invalid
  let domain ← integer UInt64 invalid
  let sourceMode ← integer UInt64 invalid
  let targetMode ← integer UInt64 invalid
  let retain ← integers UInt64 invalid
  let stop ← integers UInt64 invalid
  let start ← integers UInt64 invalid
  let guardedDomains ← integers UInt64 invalid
  let affectedResources ← integers UInt64 invalid
  pure ⟨generation, domain, sourceMode, targetMode, retain, stop, start, guardedDomains, affectedResources⟩

def decodeEvent (version : UInt16) : Parser Error StoredEvent := do
  let truncated := makeError .persistenceError "journal transition record is truncated"
  let generation ← integer UInt64 truncated
  let id ← integer UInt64 truncated
  let domain ← integer UInt64 truncated
  let sourceMode ← integer UInt64 truncated
  let targetMode ← integer UInt64 truncated
  let phase ← integer UInt8 truncated
  let updated ← integer Int64 truncated
  let hasFailure ← integer UInt8 truncated
  reject (phase.toNat > TransitionPhase.recovering.value || hasFailure.toNat > 1)
    (makeError .persistenceError "journal transition record is invalid")
  let failure ← option (hasFailure != 0) (decodeFailure version)
  let invalid := makeError .persistenceError "journal plan marker is invalid"
  let hasPlan ← integer UInt8 invalid
  reject (hasPlan.toNat > 1) invalid
  let plan ← option (hasPlan != 0) decodePlan
  pure ⟨⟨id, domain, sourceMode, targetMode, .ofValue phase.toNat, updated, failure⟩, generation, plan⟩

def decode (bytes : List Byte) (version : UInt16) : Result StoredEvent := do
  let (event, rest) ← decodeEvent version bytes
  if rest.length ≠ 0 then
    throw (makeError .persistenceError "journal record has trailing data")
  else
    pure event

end Decode

theorem flag_iff {present : Bool} {flag : UInt8} (small : flag.toNat ≤ 1) :
    present.toUInt8 = flag ↔ present = (flag != 0) := by
  obtain rfl | rfl : flag = 0 ∨ flag = 1 := by
    rcases Nat.le_one_iff_eq_zero_or_eq_one.mp small with zero | one
    · exact .inl (UInt8.toNat_inj.mp zero)
    · exact .inr (UInt8.toNat_inj.mp one)
  · cases present <;> decide
  · cases present <;> decide

theorem flag_le (present : Bool) : present.toUInt8.toNat ≤ 1 := by
  cases present <;> decide

theorem code_le (code : ErrorCode) : (UInt16.ofNat code.value).toNat ≤ ErrorCode.internalError.value := by
  cases code <;> decide

theorem phase_le (phase : TransitionPhase) : (UInt8.ofNat phase.value).toNat ≤ TransitionPhase.recovering.value := by
  cases phase <;> decide

theorem action_le (action : FailureAction) :
    (UInt8.ofNat action.value).toNat ≤ FailureAction.requestSystemRecovery.value := by
  cases action <;> decide

theorem code_iff {code : ErrorCode} {value : UInt16} (small : value.toNat ≤ ErrorCode.internalError.value) :
    UInt16.ofNat code.value = value ↔ code = .ofValue value.toNat := by
  constructor
  · rintro rfl
    cases code <;> decide
  · rintro rfl
    rw [ErrorCode.value_ofValue _ small, UInt16.ofNat_toNat]

theorem phase_iff {phase : TransitionPhase} {value : UInt8} (small : value.toNat ≤ TransitionPhase.recovering.value) :
    UInt8.ofNat phase.value = value ↔ phase = .ofValue value.toNat := by
  constructor
  · rintro rfl
    cases phase <;> decide
  · rintro rfl
    rw [TransitionPhase.value_ofValue _ small, UInt8.ofNat_toNat]

theorem action_iff {action : FailureAction} {value : UInt8}
    (small : value.toNat ≤ FailureAction.requestSystemRecovery.value) :
    UInt8.ofNat action.value = value ↔ action = .ofValue value.toNat := by
  constructor
  · rintro rfl
    cases action <;> decide
  · rintro rfl
    rw [FailureAction.value_ofValue _ small, UInt8.ofNat_toNat]

theorem inverse_recoveryError : Inverse decodeRecoveryError encodeRecoveryError fun _ => True := by
  refine .bind (fun error : StoredError => UInt16.ofNat error.code.value) .integer (fun _ _ => trivial)
    fun code _ => ?_
  refine .bind StoredError.supportData .integer (fun _ _ => trivial) fun supportData _ => ?_
  refine .finish (.bind StoredError.message .string (fun _ _ => trivial) fun message _ => ?_)
  refine .reject ?_ fun small => .pure fun error => ?_
  · rintro error ⟨⟨⟨_, rfl⟩, _⟩, _⟩
    exact decide_eq_false (Nat.not_lt.mpr (code_le error.code))
  · rw [decide_eq_false_iff_not, not_lt] at small
    cases error
    simp only [StoredError.mk.injEq, code_iff small]
    tauto

theorem inverse_failure : Inverse (decodeFailure 2) encodeFailure fun failure =>
    failure.evidence.state = .unknown := by
  have positive : 0 < MachineInteger.size UInt64 := by decide
  refine .bind (fun failure : StoredFailure => UInt16.ofNat failure.error.code.value) .integer
    (fun _ _ => trivial) fun code _ => ?_
  refine .bind (fun failure : StoredFailure => failure.error.supportData) .integer
    (fun _ _ => trivial) fun supportData _ => ?_
  refine .bind (fun failure : StoredFailure => failure.error.message) .string
    (fun _ _ => trivial) fun message _ => ?_
  refine .bind (fun failure : StoredFailure => failure.application.isSome.toUInt8) .integer
    (fun _ _ => trivial) fun hasApplication _ => ?_
  refine .reject ?_ fun small => ?_
  · rintro failure ⟨⟨⟨⟨_, rfl⟩, _⟩, _⟩, rfl⟩
    have first := code_le failure.error.code
    have second := flag_le failure.application.isSome
    simp only [Bool.or_eq_false_iff, decide_eq_false_iff_not, not_lt]
    exact ⟨first, second⟩
  simp only [Bool.or_eq_false_iff, decide_eq_false_iff_not, not_lt] at small
  refine .bind StoredFailure.application (.option .integer) ?_ fun application known => ?_
  · rintro failure ⟨_, same⟩
    exact ⟨fun _ _ => trivial, (flag_iff small.2).mp same⟩
  refine .bind (fun failure : StoredFailure => failure.evidence.exitCode) .integer
    (fun _ _ => trivial) fun exitCode _ => ?_
  refine .bind (fun failure : StoredFailure => failure.evidence.signal) .integer
    (fun _ _ => trivial) fun signal _ => ?_
  refine .bind (fun failure : StoredFailure => failure.evidence.nativeCode) .integer
    (fun _ _ => trivial) fun nativeCode _ => ?_
  refine .bind (fun failure : StoredFailure => failure.evidence.message) .string
    (fun _ _ => trivial) fun evidence _ => ?_
  refine .bind (fun failure : StoredFailure => UInt8.ofNat failure.recoveryAction.value) .integer
    (fun _ _ => trivial) fun recoveryAction _ => ?_
  refine .bind (fun failure : StoredFailure => failure.recoveryAttempted.toUInt8) .integer
    (fun _ _ => trivial) fun recoveryAttempted _ => ?_
  refine .bind (fun failure : StoredFailure => failure.recoverySucceeded.toUInt8) .integer
    (fun _ _ => trivial) fun recoverySucceeded _ => ?_
  refine .bind (fun failure : StoredFailure => failure.recoveryError.isSome.toUInt8) .integer
    (fun _ _ => trivial) fun hasRecoveryError _ => ?_
  refine .reject ?_ fun limits => ?_
  · rintro failure ⟨⟨⟨⟨_, rfl⟩, rfl⟩, rfl⟩, rfl⟩
    simp only [Bool.or_eq_false_iff, decide_eq_false_iff_not, not_lt]
    exact ⟨⟨⟨action_le _, flag_le _⟩, flag_le _⟩, flag_le _⟩
  simp only [Bool.or_eq_false_iff, decide_eq_false_iff_not, not_lt] at limits
  refine .bind StoredFailure.recoveryError (.option inverse_recoveryError) ?_ fun recoveryError erring => ?_
  · rintro failure ⟨_, same⟩
    exact ⟨fun _ _ => trivial, (flag_iff limits.2).mp same⟩
  refine .bind (fun failure : StoredFailure => failure.recoveredMode.isSome.toUInt8) .integer
    (fun _ _ => trivial) fun hasRecoveredMode _ => ?_
  refine .reject ?_ fun single => ?_
  · rintro failure ⟨_, rfl⟩
    exact decide_eq_false (Nat.not_lt.mpr (flag_le _))
  rw [decide_eq_false_iff_not, not_lt] at single
  refine .bind StoredFailure.recoveredMode (.option .integer) ?_ fun recoveredMode moved => ?_
  · rintro failure ⟨_, same⟩
    exact ⟨fun _ _ => trivial, (flag_iff single).mp same⟩
  refine .bind StoredFailure.recoveryStoppedApplications (.integers positive) (fun _ _ => trivial)
    fun stopped _ => ?_
  refine .finish (.bind StoredFailure.recoveryStartedApplications (.integers positive)
    (fun _ _ => trivial) fun started _ => .pure fun failure => ?_)
  obtain ⟨⟨_, _, _⟩, _, ⟨_, _, _, _, _⟩, _, _, _, _, _, _, _⟩ := failure
  simp only [StoredFailure.mk.injEq, StoredError.mk.injEq, StoredEvidence.mk.injEq, code_iff small.1,
    flag_iff small.2, flag_iff single, flag_iff limits.2, flag_iff limits.1.2, flag_iff limits.1.1.2,
    action_iff limits.1.1.1, ← known.2, ← erring.2, ← moved.2]
  constructor
  · rintro ⟨_⟩
    tauto
  · rintro ⟨⟨rfl, rfl, rfl⟩, rfl, ⟨rfl, rfl, rfl, rfl, rfl⟩, rfl, rfl, rfl, rfl, rfl, rfl, rfl⟩
    simp only [and_self]

theorem inverse_plan : Inverse decodePlan encodePlan fun _ => True := by
  have positive : 0 < MachineInteger.size UInt64 := by decide
  refine .bind StoredPlan.generation .integer (fun _ _ => trivial) fun generation _ => ?_
  refine .bind StoredPlan.domain .integer (fun _ _ => trivial) fun domain _ => ?_
  refine .bind StoredPlan.sourceMode .integer (fun _ _ => trivial) fun sourceMode _ => ?_
  refine .bind StoredPlan.targetMode .integer (fun _ _ => trivial) fun targetMode _ => ?_
  refine .bind StoredPlan.retain (.integers positive) (fun _ _ => trivial) fun retain _ => ?_
  refine .bind StoredPlan.stop (.integers positive) (fun _ _ => trivial) fun stop _ => ?_
  refine .bind StoredPlan.start (.integers positive) (fun _ _ => trivial) fun start _ => ?_
  refine .bind StoredPlan.guardedDomains (.integers positive) (fun _ _ => trivial) fun guarded _ => ?_
  refine .finish (.bind StoredPlan.affectedResources (.integers positive) (fun _ _ => trivial)
    fun resources _ => .pure fun plan => ?_)
  cases plan
  simp only [StoredPlan.mk.injEq, true_and, and_assoc]

theorem inverse_event : Inverse (decodeEvent 2) encodeEvent fun event =>
    ∀ failure ∈ event.transition.failure, failure.evidence.state = .unknown := by
  refine .bind StoredEvent.generation .integer (fun _ _ => trivial) fun generation _ => ?_
  refine .bind (fun event : StoredEvent => event.transition.id) .integer (fun _ _ => trivial)
    fun id _ => ?_
  refine .bind (fun event : StoredEvent => event.transition.domain) .integer (fun _ _ => trivial)
    fun domain _ => ?_
  refine .bind (fun event : StoredEvent => event.transition.sourceMode) .integer (fun _ _ => trivial)
    fun sourceMode _ => ?_
  refine .bind (fun event : StoredEvent => event.transition.targetMode) .integer (fun _ _ => trivial)
    fun targetMode _ => ?_
  refine .bind (fun event : StoredEvent => UInt8.ofNat event.transition.phase.value) .integer
    (fun _ _ => trivial) fun phase _ => ?_
  refine .bind (fun event : StoredEvent => event.transition.updatedAt) .integer (fun _ _ => trivial)
    fun updated _ => ?_
  refine .bind (fun event : StoredEvent => event.transition.failure.isSome.toUInt8) .integer
    (fun _ _ => trivial) fun hasFailure _ => ?_
  refine .reject ?_ fun small => ?_
  · rintro event ⟨⟨⟨_, rfl⟩, _⟩, rfl⟩
    simp only [Bool.or_eq_false_iff, decide_eq_false_iff_not, not_lt]
    exact ⟨phase_le _, flag_le _⟩
  simp only [Bool.or_eq_false_iff, decide_eq_false_iff_not, not_lt] at small
  refine .bind (fun event : StoredEvent => event.transition.failure) (.option inverse_failure) ?_
    fun failure failed => ?_
  · rintro event ⟨⟨⟨⟨⟨⟨⟨⟨carried, _⟩, _⟩, _⟩, _⟩, _⟩, _⟩, _⟩, same⟩
    exact ⟨carried, (flag_iff small.2).mp same⟩
  refine .bind (fun event : StoredEvent => event.plan.isSome.toUInt8) .integer
    (fun _ _ => trivial) fun hasPlan _ => ?_
  refine .reject ?_ fun single => ?_
  · rintro event ⟨_, rfl⟩
    exact decide_eq_false (Nat.not_lt.mpr (flag_le _))
  rw [decide_eq_false_iff_not, not_lt] at single
  refine .finish (.bind StoredEvent.plan (.option inverse_plan) ?_ fun plan planned => .pure fun event => ?_)
  · rintro event ⟨_, same⟩
    exact ⟨fun _ _ => trivial, (flag_iff single).mp same⟩
  obtain ⟨⟨_, _, _, _, _, _, _⟩, _, _⟩ := event
  simp only [StoredEvent.mk.injEq, StoredTransition.mk.injEq, phase_iff small.1, flag_iff small.2,
    flag_iff single, ← failed.2, ← planned.2]
  constructor
  · rintro ⟨_⟩
    tauto
  · rintro ⟨⟨rfl, rfl, rfl, rfl, rfl, rfl, rfl⟩, rfl, rfl⟩
    exact ⟨⟨⟨⟨⟨⟨⟨⟨⟨⟨⟨failed.1, rfl⟩, rfl⟩, rfl⟩, rfl⟩, rfl⟩, rfl⟩, rfl⟩, rfl⟩, rfl⟩, rfl⟩, rfl⟩

section Limits
open Printer

/-- The 32-bit counters of the format bound the messages and the lists. -/
def Countable {A : Type} (values : List A) : Prop := values.length ≤ UInt32.size - 1

structure StoredFailure.Fits (failure : StoredFailure) : Prop where
  message : Countable failure.error.message
  evidence : Countable failure.evidence.message
  recoveryError : ∀ error ∈ failure.recoveryError, Countable error.message
  stopped : Countable failure.recoveryStoppedApplications
  started : Countable failure.recoveryStartedApplications

structure StoredPlan.Fits (plan : StoredPlan) : Prop where
  retain : Countable plan.retain
  stop : Countable plan.stop
  start : Countable plan.start
  guardedDomains : Countable plan.guardedDomains
  affectedResources : Countable plan.affectedResources

structure StoredEvent.Fits (event : StoredEvent) : Prop where
  failure : ∀ failure ∈ event.transition.failure, failure.Fits
  plan : ∀ plan ∈ event.plan, plan.Fits

theorem StoredFailure.Fits.total {failure : StoredFailure} (fits : failure.Fits) : Total (encodeFailure failure) := by
  refine (total_integer _).bind ((total_integer _).bind ((total_string fits.message).bind ?_))
  refine (total_integer _).bind ((total_option fun _ _ => total_integer _).bind ?_)
  refine (total_integer _).bind ((total_integer _).bind ((total_integer _).bind ?_))
  refine (total_string fits.evidence).bind ((total_integer _).bind ((total_integer _).bind ?_))
  refine (total_integer _).bind ((total_integer _).bind ((total_option fun error known => ?_).bind ?_))
  · exact (total_integer _).bind ((total_integer _).bind (total_string (fits.recoveryError error known)))
  · refine (total_integer _).bind ((total_option fun _ _ => total_integer _).bind ?_)
    exact (total_integers fits.stopped).bind (total_integers fits.started)

theorem StoredPlan.Fits.total {plan : StoredPlan} (fits : plan.Fits) : Total (encodePlan plan) := by
  refine (total_integer _).bind ((total_integer _).bind ((total_integer _).bind ((total_integer _).bind ?_)))
  refine (total_integers fits.retain).bind ((total_integers fits.stop).bind ?_)
  refine (total_integers fits.start).bind ((total_integers fits.guardedDomains).bind ?_)
  exact total_integers fits.affectedResources

theorem StoredEvent.Fits.total {event : StoredEvent} (fits : event.Fits) : Total (encodeEvent event) := by
  refine (total_integer _).bind ((total_integer _).bind ((total_integer _).bind ((total_integer _).bind ?_)))
  refine (total_integer _).bind ((total_integer _).bind ((total_integer _).bind ((total_integer _).bind ?_)))
  refine (total_option fun failure known => (fits.failure failure known).total).bind ?_
  exact (total_integer _).bind (total_option fun plan known => (fits.plan plan known).total)

end Limits

section RoundTrip
variable {bytes : List Byte} {maximumSize : Nat} {event : StoredEvent}

/-- The format carries everything but the process state of the evidence. -/
def StoredFailure.carried (failure : StoredFailure) : StoredFailure :=
  { failure with evidence := { failure.evidence with state := .unknown } }

def StoredEvent.carried (event : StoredEvent) : StoredEvent :=
  { event with transition :=
      { event.transition with failure := event.transition.failure.map StoredFailure.carried } }

theorem encodeEvent_carried (event : StoredEvent) : encodeEvent event.carried = encodeEvent event := by
  obtain ⟨⟨id, domain, sourceMode, targetMode, phase, updatedAt, failure⟩, generation, plan⟩ := event
  cases failure with
  | none => rfl
  | some failure => rfl

theorem encode_eq_ok : encode event maximumSize = .ok bytes ↔
      encodeEvent event [] = .ok ((), bytes) ∧ bytes.length ≤ maximumSize := by
  unfold encode
  cases encodeEvent event [] with
  | error failure => simp [bind, Except.bind]
  | ok pair =>
      simp only [bind, Except.bind]
      split
      · rename_i large
        simp only [throw, throwThe, MonadExceptOf.throw, reduceCtorEq, false_iff, Except.ok.injEq, Prod.ext_iff]
        rintro ⟨⟨_, rfl⟩, small⟩
        omega
      · rename_i small
        simp only [pure, Except.pure, Except.ok.injEq, Prod.ext_iff, true_and]
        constructor
        · rintro rfl
          exact ⟨rfl, by omega⟩
        · exact fun known => known.1

theorem decode_eq_ok {version : UInt16} :
    decode bytes version = .ok event ↔ decodeEvent version bytes = .ok (event, []) := by
  unfold decode
  cases decodeEvent version bytes with
  | error failure => simp [bind, Except.bind]
  | ok pair =>
      obtain ⟨other, rest⟩ := pair
      cases rest with
      | nil => simp [bind, Except.bind, pure, Except.pure]
      | cons byte rest => simp [bind, Except.bind, throw, throwThe, MonadExceptOf.throw]

/-- A decoded record is the encoded one without the process state. -/
theorem decode_encode (encoded : encode event maximumSize = .ok bytes) : decode bytes 2 = .ok event.carried := by
  have printing := (encode_eq_ok.mp encoded).1
  rw [← encodeEvent_carried] at printing
  obtain ⟨front, rfl, parsing⟩ := inverse_event.complete event.carried [] _ (fun failure known => by
    obtain ⟨original, _, rfl⟩ := Option.map_eq_some_iff.mp known
    rfl) printing
  have parsed := parsing []
  rw [List.append_nil] at parsed
  exact decode_eq_ok.mpr parsed

/-- The encoder gives back every accepted record. -/
theorem encode_decode (decoded : decode bytes 2 = .ok event) (small : bytes.length ≤ maximumSize) :
    encode event maximumSize = .ok bytes := by
  obtain ⟨_, front, rfl, printing⟩ := inverse_event.sound _ _ _ (decode_eq_ok.mp decoded)
  rw [List.append_nil] at small ⊢
  exact encode_eq_ok.mpr ⟨printing [], small⟩

/-- An event within the limits of the encoder has one record, which decodes to what the format carries
of the event. An accepted record is the record of its event. -/
theorem record_roundTrip : (∀ event : StoredEvent, event.Fits → ∃ bytes, decode bytes 2 = .ok event.carried ∧
      ∀ maximumSize, bytes.length ≤ maximumSize → encode event maximumSize = .ok bytes) ∧
    (∀ event maximumSize bytes, encode event maximumSize = .ok bytes → decode bytes 2 = .ok event.carried) ∧
    ∀ bytes event, decode bytes 2 = .ok event →
      ∀ maximumSize, bytes.length ≤ maximumSize → encode event maximumSize = .ok bytes := by
  refine ⟨fun event fits => ?_, fun _ _ _ => decode_encode, fun _ _ decoded _ => encode_decode decoded⟩
  obtain ⟨bytes, printing⟩ := fits.total
  have encoded (maximumSize : Nat) (small : bytes.length ≤ maximumSize) :
      encode event maximumSize = .ok bytes := encode_eq_ok.mpr ⟨printing [], small⟩
  exact ⟨bytes, decode_encode (encoded bytes.length le_rfl), encoded⟩

/-- A failed start whose recovery failed. -/
def failedStart : StoredEvent where
  transition :=
    { id := 7, domain := 1, sourceMode := 2, targetMode := 3, phase := .recoveryFailed, updatedAt := -5
      failure := some
        { error := ⟨.backendError, [111, 255], 9⟩, application := some 4
          evidence := ⟨.failed, -1, 11, 3, [0]⟩, recoveryAction := .stopDomain
          recoveryAttempted := true, recoverySucceeded := false
          recoveryError := some ⟨.internalError, [], 0⟩, recoveredMode := none
          recoveryStoppedApplications := [4, 5], recoveryStartedApplications := [] } }
  generation := 1
  plan := some ⟨1, 1, 2, 3, [6], [], [4, 5], [], [8]⟩

theorem failedStart_fits : failedStart.Fits := by
  refine ⟨?_, ?_⟩
  · rintro failure ⟨⟩
    refine ⟨by unfold Countable; decide, by unfold Countable; decide, ?_, by unfold Countable; decide,
      by unfold Countable; decide⟩
    rintro error ⟨⟩
    exact Nat.zero_le _
  · rintro plan ⟨⟩
    refine ⟨?_, ?_, ?_, ?_, ?_⟩ <;> (unfold Countable; decide)

theorem failedStart_encoded : ∃ bytes, bytes.length = 224 ∧ encode failedStart 4096 = .ok bytes := by
  have length : (encode failedStart 4096).map List.length = .ok 224 := by decide +kernel
  cases result : encode failedStart 4096 with
  | error failure =>
      rw [result] at length
      cases length
  | ok bytes =>
      rw [result] at length
      exact ⟨bytes, Except.ok.inj length, rfl⟩

/-- The event of a failed start loses only its process state. -/
theorem record_roundTrip_failedStart :
    failedStart.Fits ∧ failedStart.carried ≠ failedStart ∧ ∃ bytes, bytes.length = 224 ∧
      encode failedStart 4096 = .ok bytes ∧ decode bytes 2 = .ok failedStart.carried ∧
      encode failedStart.carried 4096 = .ok bytes := by
  obtain ⟨known, back, forth⟩ := record_roundTrip
  obtain ⟨bytes, decoded, encoded⟩ := known failedStart failedStart_fits
  obtain ⟨record, size, result⟩ := failedStart_encoded
  have same : bytes = record := by
    have first := (encode_eq_ok.mp (encoded bytes.length le_rfl)).1
    have second := (encode_eq_ok.mp result).1
    exact congrArg Prod.snd (Except.ok.inj (first.symm.trans second))
  subst same
  exact ⟨failedStart_fits, by decide, bytes, size, result, back _ _ _ result,
    forth bytes _ decoded 4096 (by omega)⟩

end RoundTrip

end OpenVehicle.Exec.FileJournal
