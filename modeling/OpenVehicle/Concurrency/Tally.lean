/-
This file counts what the threads of a pool hold in their stages.
-/

import Mathlib.Algebra.GroupWithZero.Nat
import Mathlib.Data.List.Induction
import Mathlib.Data.List.Nodup
import Mathlib.Logic.Function.Basic

namespace OpenVehicle.Concurrency

variable {S : Type}

section Total
variable (weight : S → Nat)

/-- The sum of the weights of all threads. -/
def total (count : Nat) (stage : Nat → S) : Nat := ((List.range count).map fun index => weight (stage index)).sum

variable {weight} {count : Nat} {stage : Nat → S} {index : Nat}

theorem total_succ : total weight (count + 1) stage = total weight count stage + weight (stage count) := by
  rw [total, List.range_succ, List.map_append, List.sum_append]
  rfl

theorem total_congr {other : Nat → S} (same : ∀ index < count, stage index = other index) :
    total weight count stage = total weight count other := by
  apply congrArg List.sum
  apply List.map_congr_left
  intro index inside
  rw [same index (List.mem_range.mp inside)]

theorem total_concat (first : S) : total weight (count + 1) (Function.update stage count first) =
    total weight count stage + weight first := by
  rw [total_succ, Function.update_self]
  congr 1
  apply total_congr
  intro index inside
  rw [Function.update_of_ne (Nat.ne_of_lt inside)]

theorem total_update (inside : index < count) (later : S) :
    total weight count (Function.update stage index later) + weight (stage index) =
      total weight count stage + weight later := by
  induction count with
  | zero => exact absurd inside (Nat.not_lt_zero index)
  | succ count ih =>
      rw [total_succ, total_succ]
      by_cases last : index = count
      · subst last
        rw [Function.update_self]
        have rest : total weight index (Function.update stage index later) = total weight index stage := by
          apply total_congr
          intro other below
          rw [Function.update_of_ne (Nat.ne_of_lt below)]
        omega
      · have := ih (by omega)
        rw [Function.update_of_ne (Ne.symm last)]
        omega

/-- The sum after a thread has moved from a known stage. -/
theorem total_move {before : S} (inside : index < count) (here : stage index = before) (later : S)
    (weight : S → Nat) : total weight count (Function.update stage index later) + weight before =
      total weight count stage + weight later := by
  rw [← here]
  exact total_update inside later

theorem total_mono {heavier : S → Nat} (heavy : ∀ stage, weight stage ≤ heavier stage) :
    total weight count stage ≤ total heavier count stage := by
  induction count with
  | zero => exact Nat.le_refl _
  | succ count ih =>
      have := heavy (stage count)
      rw [total_succ, total_succ]
      omega

theorem weight_le_total (inside : index < count) : weight (stage index) ≤ total weight count stage := by
  induction count with
  | zero => exact absurd inside (Nat.not_lt_zero index)
  | succ count ih =>
      rw [total_succ]
      by_cases last : index = count
      · subst last
        exact Nat.le_add_left _ _
      · have below : index < count := by omega
        exact Nat.le_trans (ih below) (Nat.le_add_right _ _)

end Total

section Tally

/-- A thread that has the property contributes one. -/
def share (property : S → Bool) (stage : S) : Nat := if property stage then 1 else 0

/-- The number of threads whose stage has the property. -/
def tally (property : S → Bool) (count : Nat) (stage : Nat → S) : Nat := total (share property) count stage

variable {property : S → Bool} {count : Nat} {stage : Nat → S} {index : Nat}

theorem tally_eq_countP :
    tally property count stage = (List.range count).countP fun index => property (stage index) := by
  induction count with
  | zero => rfl
  | succ count ih =>
      rw [tally, total_succ, List.range_succ, List.countP_append, List.countP_singleton, ← ih]
      rfl

theorem tally_concat (first : S) : tally property (count + 1) (Function.update stage count first) =
    tally property count stage + share property first := total_concat first

theorem tally_move {before : S} (inside : index < count) (here : stage index = before) (later : S)
    (property : S → Bool) : tally property count (Function.update stage index later) + share property before =
      tally property count stage + share property later := total_move inside here later (share property)

theorem share_le_tally (inside : index < count) : share property (stage index) ≤ tally property count stage :=
  weight_le_total inside

theorem tally_mono {weaker : S → Bool} (implies : ∀ stage, property stage = true → weaker stage = true) :
    tally property count stage ≤ tally weaker count stage := by
  rw [tally_eq_countP, tally_eq_countP]
  exact List.countP_mono_left fun index _ => implies (stage index)

/-- The threads with a property are those that have a stronger one and the others. -/
theorem tally_split {stronger : S → Bool} (implies : ∀ stage, stronger stage = true → property stage = true) :
    tally (fun stage => property stage && !stronger stage) count stage + tally stronger count stage =
      tally property count stage := by
  induction count with
  | zero => rfl
  | succ count ih =>
      have last : share (fun stage => property stage && !stronger stage) (stage count) +
          share stronger (stage count) = share property (stage count) := by
        cases holds : stronger (stage count) with
        | false => simp [share, holds]
        | true => simp [share, holds, implies _ holds]
      rw [tally, tally, tally] at ih ⊢
      rw [total_succ, total_succ, total_succ]
      omega

theorem tally_pos (inside : index < count) (holds : property (stage index) = true) :
    0 < tally property count stage := by
  have most := @share_le_tally S property count stage index inside
  rw [share, if_pos holds] at most
  exact most

theorem exists_of_tally_pos (positive : 0 < tally property count stage) :
    ∃ index < count, property (stage index) = true := by
  rw [tally_eq_countP] at positive
  obtain ⟨index, inside, holds⟩ := List.countP_pos_iff.mp positive
  exact ⟨index, List.mem_range.mp inside, holds⟩

/-- A property of the threads that shows in their stages is counted there. -/
theorem countP_eq_tally {A : Type} {threads : List A} {visible : A → Bool}
    (shows : ∀ index thread, threads[index]? = some thread → visible thread = property (stage index)) :
    threads.countP visible = tally property threads.length stage := by
  induction threads using List.reverseRecOn with
  | nil => rfl
  | append_singleton threads thread ih =>
      have last := shows threads.length thread List.getElem?_concat_length
      have earlier : threads.countP visible = tally property threads.length stage := by
        apply ih
        intro index other found
        apply shows
        rw [List.getElem?_append_left (List.getElem?_eq_some_iff.mp found).1]
        exact found
      rw [List.countP_append, earlier, List.length_append, List.countP_singleton, last]
      exact total_succ.symm

end Tally

end OpenVehicle.Concurrency
