/-
This file models a clock that counts signed 64-bit nanoseconds. A duration in milliseconds is
converted to nanoseconds before it is added, and each of the two steps can leave the range.
-/

import Mathlib.Algebra.Order.Ring.Int

namespace OpenVehicle.Data

abbrev TimePoint := Int64

/-- A computed count has no value outside the representation. -/
def represented (count : Int) : Option Int64 :=
  if -2 ^ 63 ≤ count ∧ count < 2 ^ 63 then some (Int64.ofInt count) else none

theorem represented_eq_some_iff {count : Int} {value : Int64} :
    represented count = some value ↔ value.toInt = count := by
  have low := value.le_toInt
  have high := value.toInt_lt
  unfold represented
  constructor
  · intro found
    split at found
    · rename_i within
      cases found
      exact Int64.toInt_ofInt_of_le within.1 within.2
    · cases found
  · rintro rfl
    rw [if_pos ⟨by omega, by omega⟩, Int64.ofInt_toInt]

namespace TimePoint
variable {now later deadline : TimePoint} {duration : Int}

/-- The sum of a point of the clock and a duration in milliseconds. -/
def plus (now : TimePoint) (duration : Int) : Option TimePoint := do
  let nanoseconds ← represented (duration * 1000000)
  represented (now.toInt + nanoseconds.toInt)

/-- The earlier of two points. -/
def earlier (left right : TimePoint) : TimePoint :=
  if right < left then right else left

/-- A sum with a value is the sum of the numbers. -/
theorem plus_eq_some_iff (booted : 0 ≤ now.toInt) (positive : 0 ≤ duration) :
    now.plus duration = some later ↔ later.toInt = now.toInt + duration * 1000000 := by
  have high := later.toInt_lt
  unfold plus
  simp only [Option.bind_eq_bind, Option.bind_eq_some_iff, represented_eq_some_iff]
  constructor
  · rintro ⟨nanoseconds, converted, sum⟩
    rw [sum, converted]
  · intro sum
    have small : duration * 1000000 < 2 ^ 63 := by omega
    have same : (Int64.ofInt (duration * 1000000)).toInt = duration * 1000000 :=
      Int64.toInt_ofInt_of_le (by omega) small
    exact ⟨Int64.ofInt (duration * 1000000), same, by rw [same, sum]⟩

/-- After boot the sum has a value exactly when the duration fits into the rest of the clock. -/
theorem plus_isSome_iff (booted : 0 ≤ now.toInt) (positive : 0 ≤ duration) :
    (now.plus duration).isSome = true ↔ duration ≤ (2 ^ 63 - 1 - now.toInt) / 1000000 := by
  rw [Option.isSome_iff_exists]
  simp only [plus_eq_some_iff booted positive]
  constructor
  · rintro ⟨later, sum⟩
    have high := later.toInt_lt
    omega
  · intro fits
    have same : (Int64.ofInt (now.toInt + duration * 1000000)).toInt = now.toInt + duration * 1000000 :=
      Int64.toInt_ofInt_of_le (by omega) (by omega)
    exact ⟨_, same⟩

end TimePoint

end OpenVehicle.Data
