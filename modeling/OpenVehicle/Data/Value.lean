/-
This file models the values of generated data types. A floating-point value is its bit pattern, and a
record keeps its members by tag.
-/

import Mathlib.Data.List.Nodup
import Mathlib.Tactic.Ring
import OpenVehicle.Data.Codec

namespace OpenVehicle.Data

open Codec (Byte)

inductive Value where
  | boolean (value : Bool)
  | integer (value : Int)
  | float (bits : UInt32)
  | double (bits : UInt64)
  | bytes (content : List Byte)
  | sequence (values : List Value)
  | optional (content : Option Value)
  | record (fields : List (UInt32 × Option Value))

namespace Value

/-- The member of a record is empty when it is optional and absent. -/
def member : Value → UInt32 → Option Value
  | record fields, tag => (fields.lookup tag).join
  | _, _ => none

theorem member_record {fields : List (UInt32 × Option Value)} {field : UInt32 × Option Value}
    (distinct : (fields.map Prod.fst).Nodup) (listed : field ∈ fields) : (record fields).member field.1 = field.2 := by
  change (fields.lookup field.1).join = field.2
  induction fields with
  | nil => cases listed
  | cons first fields ih =>
      obtain ⟨apart, distinct⟩ := List.nodup_cons.mp distinct
      rw [List.lookup_cons]
      rcases List.mem_cons.mp listed with rfl | later
      · rw [beq_self_eq_true]
        rfl
      · have other : field.1 ≠ first.1 := fun same => apart (same ▸ List.mem_map_of_mem later)
        rw [beq_false_of_ne other]
        exact ih distinct later

/-- This predicate states that a number is a value of a machine integer. -/
def InRange (signed : Bool) (size : Nat) (value : Int) : Prop :=
  if signed then -(256 ^ size : Int) ≤ 2 * value ∧ 2 * value < 256 ^ size
  else 0 ≤ value ∧ value < 256 ^ size

instance (signed : Bool) (size : Nat) (value : Int) : Decidable (InRange signed size value) := by
  unfold InRange
  infer_instance

/-- The conversion to the unsigned type is a residue. -/
def toBits (size : Nat) (value : Int) : Nat := (value % 256 ^ size).toNat

/-- The conversion to the signed type reads the two's complement. -/
def ofBits (signed : Bool) (size bits : Nat) : Int :=
  if signed && decide (256 ^ size ≤ 2 * bits) then bits - 256 ^ size else bits

theorem toBits_lt (size : Nat) (value : Int) : toBits size value < 256 ^ size := by
  have positive : (0 : Int) < 256 ^ size := Int.pow_pos (by decide)
  have low := Int.emod_nonneg value positive.ne'
  have high := Int.emod_lt_of_pos value positive
  have cast : ((256 ^ size : Nat) : Int) = 256 ^ size := by push_cast; rfl
  rw [toBits]
  omega

theorem ofBits_toBits {signed : Bool} {size : Nat} {value : Int} (range : InRange signed size value) :
    ofBits signed size (toBits size value) = value := by
  have positive : (0 : Int) < 256 ^ size := Int.pow_pos (by decide)
  have low := Int.emod_nonneg value positive.ne'
  have cast : ((256 ^ size : Nat) : Int) = 256 ^ size := by push_cast; rfl
  cases signed with
  | false =>
      obtain ⟨least, most⟩ := range
      rw [ofBits, Bool.false_and, if_neg Bool.false_ne_true, toBits, Int.emod_eq_of_lt least most]
      omega
  | true =>
      obtain ⟨least, most⟩ := range
      rw [ofBits, Bool.true_and]
      by_cases negative : value < 0
      · have residue : value % 256 ^ size = value + 256 ^ size := by
          rw [← Int.add_emod_right]
          exact Int.emod_eq_of_lt (by omega) (by omega)
        rw [toBits, residue, if_pos (decide_eq_true (by omega))]
        omega
      · have residue : value % 256 ^ size = value := Int.emod_eq_of_lt (by omega) (by omega)
        rw [toBits, residue, if_neg (by simp only [decide_eq_true_eq]; omega)]
        omega

theorem inRange_ofBits {size bits : Nat} (signed : Bool) (small : bits < 256 ^ size) :
    InRange signed size (ofBits signed size bits) := by
  have cast : ((256 ^ size : Nat) : Int) = 256 ^ size := by push_cast; rfl
  cases signed with
  | false =>
      rw [ofBits, Bool.false_and, if_neg Bool.false_ne_true]
      change 0 ≤ (bits : Int) ∧ (bits : Int) < 256 ^ size
      omega
  | true =>
      rw [ofBits, Bool.true_and]
      change -(256 ^ size : Int) ≤ 2 * _ ∧ 2 * _ < (256 ^ size : Int)
      split
      · rename_i high
        have high := of_decide_eq_true high
        omega
      · rename_i low
        have low : ¬256 ^ size ≤ 2 * bits := fun high => low (decide_eq_true high)
        omega

end Value

end OpenVehicle.Data
