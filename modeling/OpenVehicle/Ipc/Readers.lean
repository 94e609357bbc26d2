/-
This file shows that the readers of the coordinator messages read no more than a text keeps.
-/

import OpenVehicle.Data.JsonAlike
import OpenVehicle.Ipc.Dispatch

namespace OpenVehicle.Ipc

open Data Exec
open Json (Alike)

section Decoders
variable {first second : Json}

section
variable (alike : Alike first second)
include alike

/-- Every test and every conversion has one result on two values that are alike. -/
theorem alike_value :
    first.isObject = second.isObject ∧ first.isArray = second.isArray ∧ first.isString = second.isString ∧
      first.isBool = second.isBool ∧ first.readable = second.readable ∧
      first.isIntegral = second.isIntegral ∧ first.asString = second.asString ∧
      first.asBool = second.asBool ∧ isUnsignedInteger first = isUnsignedInteger second ∧
      isSignedInteger first = isSignedInteger second ∧ unsigned first = unsigned second ∧
      first.asUInt64 = second.asUInt64 ∧ first.asInt64 = second.asInt64 ∧ first.asInt = second.asInt := by
  simp only [isUnsignedInteger, isSignedInteger, unsigned, alike.kind, alike.isInt64, alike.conversions, and_self]

theorem isEnumeration_alike (last : Nat) : isEnumeration first last = isEnumeration second last := by
  simp only [isEnumeration, alike_value alike]

theorem decodeError_alike : decodeError first = decodeError second := by
  simp only [decodeError, alike_value alike, alike_value (alike.get _)]

theorem decodeOptional_alike (key message : String) :
    decodeOptional first key message = decodeOptional second key message := by
  simp only [decodeOptional, alike.isMember, alike_value (alike.get _)]

end

theorem decodeApplications_alike {message : String} {values others : List Json}
    (each : List.Forall₂ Alike values others) :
    decodeApplications message values = decodeApplications message others := by
  induction each with
  | nil => rfl
  | cons alike _ ih => simp only [decodeApplications, alike_value alike, ih]

theorem decodeList_alike {A : Type} {decode : Json → Reader A} {values others : List Json}
    (congruent : ∀ {value other}, Alike value other → decode value = decode other)
    (each : List.Forall₂ Alike values others) : decodeList decode values = decodeList decode others := by
  induction each with
  | nil => rfl
  | cons alike _ ih => rw [decodeList, decodeList, congruent alike, ih]

variable (alike : Alike first second)
include alike

theorem decodeFailure_alike : decodeFailure first = decodeFailure second := by
  have items (message : String) {key : String} := @decodeApplications_alike message _ _ (alike.get key).items
  simp only [decodeFailure, decodeRecoveryError, alike_value alike, alike_value (alike.get _), alike.isMember, items,
    decodeOptional_alike alike, isEnumeration_alike (alike.get _), decodeError_alike (alike.get _)]

theorem decodeTransition_alike : decodeTransition first = decodeTransition second := by
  simp only [decodeTransition, decodeOptionalFailure, alike_value alike, alike_value (alike.get _), alike.isMember,
    isEnumeration_alike (alike.get _), decodeFailure_alike (alike.get _)]

theorem decodeDomain_alike : decodeDomain first = decodeDomain second := by
  simp only [decodeDomain, alike_value alike, alike_value (alike.get _), decodeOptional_alike alike,
    isEnumeration_alike (alike.get _)]

theorem decodeApplication_alike : decodeApplication first = decodeApplication second := by
  simp only [decodeApplication, alike_value alike, alike_value (alike.get _), isEnumeration_alike (alike.get _)]

theorem decodeUnit_alike : decodeUnit first = decodeUnit second := by
  simp only [decodeUnit, alike_value alike, alike_value (alike.get _), isEnumeration_alike (alike.get _)]

theorem decodeSnapshot_alike : decodeSnapshot first = decodeSnapshot second := by
  simp only [decodeSnapshot, alike_value alike, alike_value (alike.get _),
    decodeList_alike decodeDomain_alike (alike.get _).items,
    decodeList_alike decodeApplication_alike (alike.get _).items, decodeList_alike decodeUnit_alike (alike.get _).items,
    decodeList_alike decodeTransition_alike (alike.get _).items]

end Decoders

/-- The dispatcher answers two requests that are alike in one way. -/
theorem dispatch_alike {options : ServerOptions} {answers : CoordinatorAnswers} {uid : UInt32}
    {request received : Json} (alike : Alike request received) :
    dispatch options answers request uid = dispatch options answers received uid := by
  simp only [dispatch, dispatchOperation, domainOperation, modeOperation, requestOperation, cancelOperation,
    transitionOperation, findTransition, eventsOperation, alike_value (alike.get _)]

end OpenVehicle.Ipc
