/-
This file follows the durations that the deployment loader and the coordinator server accept to
the places where they are added to the clock.
-/

import OpenVehicle.Data.SteadyClock
import OpenVehicle.Exec.Model
import OpenVehicle.Ipc.Dispatch

namespace OpenVehicle.Ipc

open Data Exec

namespace Deployment

variable (value : Json)

/-- The sign test converts only a value that fits. -/
def isNegative : Option Bool :=
  if value.isInt64 then value.asInt64.map (decide <| · < 0) else some false

/-- The loader reads a number after it has excluded the values that do not convert. -/
def unsigned (field : String) (allowZero : Bool) : Option (Result UInt64) :=
  let invalid : Result UInt64 := .error (makeError .configurationError (field ++ " must be a positive integer"))
  if !value.isIntegral then some invalid
  else (isNegative value).bind fun negative =>
    if negative then some invalid
    else value.asUInt64.map fun number => if !allowZero && number == 0 then invalid else .ok number

def milliseconds (field : String) (allowZero : Bool) : Option (Result Milliseconds) :=
  (unsigned value field allowZero).map fun parsed => do
    let count ← parsed
    if 2 ^ 63 - 1 < count.toNat then
      .error (makeError .configurationError (field ++ " exceeds the runtime range"))
    else .ok (count.toNat : Int)

structure UnitDurations where
  startTimeout : Milliseconds
  stopTimeout : Milliseconds
  delay : Milliseconds

/-- The durations that `Application` reads. -/
def unitDurations : Option (Result UnitDurations) :=
  if value.readable && (value.get "retry").readable then do
    let start ← milliseconds (value.get "startTimeoutMs") "application.startTimeoutMs" false
    let stop ← milliseconds (value.get "stopTimeoutMs") "application.stopTimeoutMs" false
    let delay ← milliseconds ((value.get "retry").get "delayMs") "application.retry.delayMs" true
    return do
      let startTimeout ← start
      let stopTimeout ← stop
      let delay ← delay
      return ⟨startTimeout, stopTimeout, delay⟩
  else none

/-- The duration that `Domain` reads. -/
def recoveryDeadline : Option (Result Milliseconds) :=
  if value.readable && (value.get "recovery").readable then
    (milliseconds ((value.get "recovery").get "deadlineMs") "domain.recovery.deadlineMs" false).map
      (Except.mapError fun _ => makeError .configurationError "domain definition is invalid")
  else none

section Range
variable {value : Json} {field : String} {allowZero : Bool} {number : Int}

theorem isNegative_integral (integral : value.isIntegral = true) (known : value.number = some (number : ℚ)) :
    isNegative value = some (decide (number < 0)) := by
  obtain ⟨same, recorded, above, below, signed⟩ := Json.integral_number integral
  obtain rfl : same = number := by exact_mod_cast Option.some.inj (recorded.symm.trans known)
  unfold isNegative
  split
  · rename_i small
    have fits := signed.mp small
    have bound : (Int64.ofInt same).toInt = same := Int64.toInt_ofInt_of_le above fits
    rw [Json.asInt64, Json.convert_of_number same known above (by omega)]
    simp [Int64.lt_iff_toInt_lt, bound]
  · rename_i large
    rw [signed] at large
    simp only [Option.some.injEq, Bool.false_eq, decide_eq_false_iff_not]
    omega

/-- The value of the loader for an integral number. -/
theorem unsigned_integral (integral : value.isIntegral = true) (known : value.number = some (number : ℚ)) :
    unsigned value field allowZero = some (if number < 0 ∨ allowZero = false ∧ number = 0 then
      .error (makeError .configurationError (field ++ " must be a positive integer"))
      else .ok (UInt64.ofNat number.toNat)) := by
  obtain ⟨same, recorded, above, below, _⟩ := Json.integral_number integral
  obtain rfl : same = number := by exact_mod_cast Option.some.inj (recorded.symm.trans known)
  unfold unsigned
  simp only [integral, Bool.not_true, Bool.false_eq_true, if_false, isNegative_integral integral known,
    Option.bind_some, decide_eq_true_eq]
  by_cases sign : same < 0
  · simp [sign]
  · have reads : value.asUInt64 = some (UInt64.ofNat same.toNat) := by
      rw [Json.asUInt64, Json.convert_of_number same known (by omega) (by omega), Option.map_some]
    have zero : UInt64.ofNat same.toNat = 0 ↔ same = 0 := by
      rw [← UInt64.toNat_inj, UInt64.toNat_ofNat_of_lt' (by simp only [UInt64.size]; omega), UInt64.toNat_zero]
      omega
    simp [sign, reads, zero]

/-- The loader accepts the integral numbers of a signed representation. -/
theorem milliseconds_eq_ok_iff {duration : Int} : milliseconds value field allowZero = some (.ok duration) ↔
      value.isIntegral = true ∧ value.number = some (duration : ℚ) ∧ 0 ≤ duration ∧
        (allowZero = false → duration ≠ 0) ∧ duration ≤ 2 ^ 63 - 1 := by
  unfold milliseconds
  by_cases integral : value.isIntegral = true
  · obtain ⟨number, known, above, below, _⟩ := Json.integral_number integral
    have same : (number : ℚ) = (duration : ℚ) ↔ number = duration := by norm_cast
    rw [unsigned_integral integral known]
    simp only [integral, known, true_and, Option.map_some, Option.some.injEq, same]
    by_cases refused : number < 0 ∨ allowZero = false ∧ number = 0
    · rw [if_pos refused]
      simp only [bind, Except.bind, reduceCtorEq, false_iff, not_and, not_le]
      rintro rfl positive allowed
      rcases refused with negative | ⟨strict, zero⟩
      · omega
      · exact absurd zero (allowed strict)
    · rw [if_neg refused]
      simp only [not_or, not_and, not_lt] at refused
      have count : (UInt64.ofNat number.toNat).toNat = number.toNat :=
        UInt64.toNat_ofNat_of_lt' (by simp only [UInt64.size]; omega)
      simp only [bind, Except.bind, count]
      split
      · simp only [reduceCtorEq, false_iff, not_and, not_le]
        rintro rfl positive allowed
        omega
      · rename_i fits
        simp only [Except.ok.injEq]
        constructor
        · rintro rfl
          exact ⟨by omega, by omega, fun strict => by have := refused.2 strict; omega, by omega⟩
        · rintro ⟨rfl, positive, _⟩
          exact Int.toNat_of_nonneg positive
  · simp [unsigned, integral, bind, Except.bind]

theorem milliseconds_range {duration : Int} (loads : milliseconds value field allowZero = some (.ok duration)) :
    0 ≤ duration := (milliseconds_eq_ok_iff.mp loads).2.2.1

/-- Every duration of a loaded unit comes from the same test. -/
theorem unitDurations_range {durations : UnitDurations} (loads : unitDurations value = some (.ok durations)) :
    (0 : Int) ≤ durations.startTimeout ∧ (0 : Int) ≤ durations.stopTimeout ∧ (0 : Int) ≤ durations.delay := by
  unfold unitDurations at loads
  split at loads
  · simp only [Option.bind_eq_bind, Option.bind_eq_some_iff] at loads
    obtain ⟨start, starts, stop, stops, delay, delays, same⟩ := loads
    cases start with
    | error error => cases same
    | ok start =>
        cases stop with
        | error error => cases same
        | ok stop =>
            cases delay with
            | error error => cases same
            | ok delay =>
                cases same
                exact ⟨milliseconds_range starts, milliseconds_range stops, milliseconds_range delays⟩
  · cases loads

theorem recoveryDeadline_range {duration : Int} (loads : recoveryDeadline value = some (.ok duration)) :
    0 ≤ duration := by
  unfold recoveryDeadline at loads
  split at loads
  · obtain ⟨parsed, reads, same⟩ := Option.map_eq_some_iff.mp loads
    cases parsed with
    | error error => cases same
    | ok count =>
        obtain rfl := Except.ok.inj same
        exact milliseconds_range reads
  · cases loads

end Range

end Deployment

/-- The timeout of a request that the server accepts. -/
def acceptedTimeout (request : Json) : Option Int64 :=
  if isSignedInteger (request.get "timeoutMs") then
    (request.get "timeoutMs").asInt64.filter (0 < ·)
  else none

/-- The places of the engine that add a duration of a unit to the clock. -/
inductive UnitDeadline where
  | createStart | createStop | executeStop | executeStart | executeCleanup | executeRetry
  | recoveryStop | recoveryStart | recoveryCleanup | recoveryRetry

def UnitDeadline.duration (unit : ExecutionUnitDefinition) : UnitDeadline → Milliseconds
  | .createStart | .executeStart | .recoveryStart => unit.startTimeout
  | .createStop | .executeStop | .executeCleanup | .recoveryStop | .recoveryCleanup => unit.stopTimeout
  | .executeRetry | .recoveryRetry => unit.retry.delay

/-- The places that add a duration to the clock, with the data that they read. -/
inductive DeadlineAddition where
  | unit (place : UnitDeadline) (definition : ExecutionUnitDefinition)
  | recover (domain : DomainDefinition)
  | request (timeout : Int64)
  | wait (timeout : Int64)

namespace DeadlineAddition

def duration : DeadlineAddition → Int
  | .unit place definition => place.duration definition
  | .recover domain => domain.recovery.deadline
  | .request timeout | .wait timeout => timeout.toInt

/-- The deadline that a place computes. Only a creation leaves the deadline of its caller out. -/
def deadline (limit now : TimePoint) : DeadlineAddition → Option TimePoint
  | .unit .createStart definition => now.plus definition.startTimeout
  | .unit .createStop definition => now.plus definition.stopTimeout
  | .unit place definition => (now.plus (place.duration definition)).map (TimePoint.earlier limit)
  | .recover domain => now.plus domain.recovery.deadline
  | .request timeout | .wait timeout => now.plus timeout.toInt

/-- The duration has passed the loader or the server. -/
def Admitted : DeadlineAddition → Prop
  | .unit _ definition => ∃ value, Deployment.unitDurations value =
      some (.ok ⟨definition.startTimeout, definition.stopTimeout, definition.retry.delay⟩)
  | .recover domain => ∃ value, Deployment.recoveryDeadline value = some (.ok domain.recovery.deadline)
  | .request timeout | .wait timeout => ∃ request, acceptedTimeout request = some timeout

theorem Admitted.nonnegative {addition : DeadlineAddition} (admitted : addition.Admitted) : 0 ≤ addition.duration := by
  cases addition with
  | unit place definition =>
      obtain ⟨value, loads⟩ := admitted
      obtain ⟨start, stop, delay⟩ := Deployment.unitDurations_range loads
      cases place <;> assumption
  | recover domain =>
      obtain ⟨value, loads⟩ := admitted
      exact Deployment.recoveryDeadline_range loads
  | request timeout | wait timeout =>
      obtain ⟨request, accepted⟩ := admitted
      unfold acceptedTimeout at accepted
      split at accepted
      · have positive := of_decide_eq_true (Option.filter_eq_some_iff.mp accepted).2
        rw [Int64.lt_iff_toInt_lt] at positive
        exact positive.le
      · cases accepted

theorem deadline_isSome (addition : DeadlineAddition) (limit now : TimePoint) :
    (addition.deadline limit now).isSome = (now.plus addition.duration).isSome := by
  cases addition with
  | unit place definition => cases place <;> simp [deadline, duration, UnitDeadline.duration]
  | recover domain => rfl
  | request timeout => rfl
  | wait timeout => rfl

/-- An addition stays in the range of the clock exactly when its duration fits into the rest of it. -/
theorem deadline_isSome_iff (addition : DeadlineAddition) (admitted : addition.Admitted)
    (limit now : TimePoint) (booted : 0 ≤ now.toInt) :
    (addition.deadline limit now).isSome = true ↔ addition.duration ≤ (2 ^ 63 - 1 - now.toInt) / 1000000 := by
  rw [deadline_isSome]
  exact TimePoint.plus_isSome_iff booted admitted.nonnegative

/-- A domain whose recovery may take a number of milliseconds. -/
def recoveringDomain (deadline : Int) : DomainDefinition where
  id := 1
  name := "drive"
  initialMode := 1
  recovery := { deadline := deadline }

/-- The loader accepts every positive deadline of a signed representation. -/
theorem recoveringDomain_admitted (deadline : Int64) (positive : 0 < deadline.toInt) :
    (recover (recoveringDomain deadline.toInt)).Admitted := by
  have high := deadline.toInt_lt
  have loads : Deployment.milliseconds (.int deadline) "domain.recovery.deadlineMs" false =
      some (.ok deadline.toInt) :=
    Deployment.milliseconds_eq_ok_iff.mpr ⟨rfl, rfl, positive.le, fun _ => positive.ne', by omega⟩
  refine ⟨.object [("recovery", .object [("deadlineMs", .int deadline)])], ?_⟩
  have read : ((Json.object [("recovery", .object [("deadlineMs", .int deadline)])]).get "recovery").get
      "deadlineMs" = .int deadline := rfl
  have readable : ((Json.object [("recovery", .object [("deadlineMs", .int deadline)])]).get "recovery").readable =
      true := rfl
  rw [Deployment.recoveryDeadline, if_pos (by rw [readable]; rfl), read, loads]
  rfl

/-- A recovery of five seconds. -/
theorem deadline_isSome_recovery : ((recover (recoveringDomain 5000)).deadline 0 0).isSome = true :=
  (deadline_isSome_iff (recover (recoveringDomain 5000)) (recoveringDomain_admitted 5000 (by decide))
    0 0 (by decide)).mpr (by decide)

/-- The loader accepts a recovery deadline that no clock can reach. -/
theorem deadline_overflows : ¬ ∀ addition : DeadlineAddition, addition.Admitted →
    ∀ limit now : TimePoint, 0 ≤ now.toInt → (addition.deadline limit now).isSome = true := by
  intro always
  have reached := always (recover (recoveringDomain (2 ^ 63 - 1)))
    (recoveringDomain_admitted Int64.maxValue (by decide)) 0 0 (by decide)
  revert reached
  decide

end DeadlineAddition

end OpenVehicle.Ipc
