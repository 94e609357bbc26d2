/-
This file sorts lists by a key and compares the sorted forms of permuted lists.
-/

import Mathlib.Data.List.Sort
import Mathlib.Data.String.Basic

namespace OpenVehicle.Data

variable {A B K : Type} [LinearOrder K] {key : A → K} {list other : List A}

/-- Elements with equal keys keep their order. -/
def sortBy (key : A → K) (list : List A) : List A := list.insertionSort fun first second => key first ≤ key second

theorem sortBy_perm (key : A → K) (list : List A) : (sortBy key list).Perm list := List.perm_insertionSort _ list

@[simp] theorem mem_sortBy {a : A} : a ∈ sortBy key list ↔ a ∈ list := (sortBy_perm key list).mem_iff

theorem sorted_sortBy (key : A → K) (list : List A) :
    (sortBy key list).Pairwise fun first second => key first ≤ key second := by
  have : Std.Total fun first second : A => key first ≤ key second := ⟨fun _ _ => le_total _ _⟩
  have : IsTrans A fun first second : A => key first ≤ key second := ⟨fun _ _ _ => le_trans⟩
  exact List.pairwise_insertionSort _ list

/-- Lists with the same elements sort alike when different elements have different keys. -/
theorem sortBy_eq_of_perm (distinct : ∀ first ∈ list, ∀ second ∈ list, key first = key second → first = second)
    (perm : list.Perm other) : sortBy key list = sortBy key other := by
  apply List.Perm.eq_of_pairwise _ (sorted_sortBy key list) (sorted_sortBy key other)
  · exact (sortBy_perm key list).trans (perm.trans (sortBy_perm key other).symm)
  · intro first second left right low high
    have left := mem_sortBy.mp left
    have right := perm.mem_iff.mpr (mem_sortBy.mp right)
    exact distinct first left second right (le_antisymm low high)

/-- Lists that sort alike have the same elements. -/
theorem perm_of_sortBy_eq (same : sortBy key list = sortBy key other) : list.Perm other :=
  (sortBy_perm key list).symm.trans (same ▸ sortBy_perm key other)

theorem sortBy_sortBy (key : A → K) (list : List A) : sortBy key (sortBy key list) = sortBy key list :=
  (sorted_sortBy key list).insertionSort_eq

/-- A map that keeps the keys commutes with the sorting. -/
theorem map_sortBy {later : B → K} {f : A → B} (kept : ∀ a, later (f a) = key a) (list : List A) :
    (sortBy key list).map f = sortBy later (list.map f) := by
  apply List.map_insertionSort
  intro first _ second _
  rw [kept, kept]

/-- Lists without a repeated key sort alike when they have the same elements. -/
theorem sortBy_eq_of_nodup (distinct : (list.map key).Nodup) (perm : list.Perm other) :
    sortBy key list = sortBy key other :=
  sortBy_eq_of_perm (fun _ left _ right same => List.inj_on_of_nodup_map distinct left right same) perm

/-- Plain values sort alike exactly when the lists are permutations. -/
theorem sortBy_id_eq_iff {list other : List K} : sortBy id list = sortBy id other ↔ list.Perm other :=
  ⟨perm_of_sortBy_eq, sortBy_eq_of_perm fun _ _ _ _ same => same⟩

end OpenVehicle.Data
