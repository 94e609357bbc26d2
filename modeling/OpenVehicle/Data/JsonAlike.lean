/-
This file relates JSON values that read alike. A text keeps neither the representation of an integer
nor the order in which an object holds its fields.
-/

import OpenVehicle.Data.Json

namespace OpenVehicle.Data.Json

/-- No reader tells the two values apart. -/
inductive Alike : Json → Json → Prop
  | refl (value : Json) : Alike value value
  | unsigned {first : Int64} {second : UInt64} (same : first.toInt = second.toNat) :
      Alike (int first) (uint second)
  | signed {first : UInt64} {second : Int64} (same : second.toInt = first.toNat) :
      Alike (uint first) (int second)
  | array {first second : List Json} (each : List.Forall₂ Alike first second) :
      Alike (array first) (array second)
  | object {first second : List (String × Json)}
      (members : ∀ key, (object first).isMember key = (object second).isMember key)
      (each : ∀ key, Alike ((object first).get key) ((object second).get key)) :
      Alike (object first) (object second)

section Alike
variable {first second : Json}

variable (alike : Alike first second)
include alike

theorem Alike.get (key : String) : Alike (first.get key) (second.get key) := by
  cases alike with
  | object members each => exact each key
  | _ => exact .refl _

theorem Alike.items : List.Forall₂ Alike first.items second.items := by
  cases alike with
  | refl => exact List.forall₂_same.mpr fun value _ => .refl value
  | array each => exact each
  | _ => exact .nil

theorem Alike.isMember (key : String) : first.isMember key = second.isMember key := by
  cases alike with
  | object members each => exact members key
  | _ => rfl

theorem Alike.kind :
    first.isObject = second.isObject ∧ first.isArray = second.isArray ∧ first.isString = second.isString ∧
      first.isBool = second.isBool ∧ first.readable = second.readable ∧
      first.isIntegral = second.isIntegral ∧ first.asString = second.asString ∧ first.asBool = second.asBool := by
  cases alike <;> exact ⟨rfl, rfl, rfl, rfl, rfl, rfl, rfl, rfl⟩

theorem Alike.isInt64 : first.isInt64 = second.isInt64 := by
  cases alike with
  | @unsigned value _ same =>
      have small := value.toInt_lt
      exact (decide_eq_true (by omega)).symm
  | @signed _ value same =>
      have small := value.toInt_lt
      exact decide_eq_true (by omega)
  | _ => rfl

theorem Alike.number : first.number = second.number := by
  cases alike with
  | unsigned same => simp [Json.number, same]
  | signed same => simp [Json.number, same]
  | _ => rfl

theorem Alike.convert : first.convert = second.convert := by
  funext low high
  rw [Json.convert, Json.convert, alike.number]

theorem Alike.conversions :
    first.asUInt64 = second.asUInt64 ∧ first.asInt64 = second.asInt64 ∧ first.asInt = second.asInt := by
  simp only [asUInt64, asInt64, asInt, alike.convert, and_self]

theorem Alike.set {value other : Json} (key : String) (field : Alike value other) :
    Alike (first.set key value) (second.set key other) := by
  refine .object (fun name => ?_) fun name => ?_
  · change (first.set key value).isMember name = (second.set key other).isMember name
    rw [isMember_set, isMember_set, alike.isMember]
  · change Alike ((first.set key value).get name) ((second.set key other).get name)
    rw [get_set, get_set]
    split
    · exact field
    · exact alike.get name

end Alike

end OpenVehicle.Data.Json
