/-
This file extends the library maps and sets with the two operations the models need:
the removal of all entries that fail a test, and a sorted enumeration that evaluates.
-/

import Mathlib.Data.List.AList
import Mathlib.Data.Finset.Sort

namespace OpenVehicle.FiniteMap

/-- A finite map with one value type for all keys. -/
abbrev Map (Key Value : Type) := AList (fun _ : Key => Value)

/-- Two maps are compared by their entries. This instance evaluates, the library one does not. -/
instance {Key Value : Type} [DecidableEq Key] [DecidableEq Value] : DecidableEq (Map Key Value) :=
  fun first second => decidable_of_iff (first.entries = second.entries) AList.ext_iff.symm

section Keep
variable {Key Value : Type}

/-- This operation keeps the entries that pass the test. -/
def keep (test : Key → Value → Bool) (map : Map Key Value) : Map Key Value where
  entries := map.entries.filter fun entry => test entry.1 entry.2
  nodupKeys := map.nodupKeys.sublist List.filter_sublist

/-- A kept entry is an old entry that passes the test. -/
theorem lookup_keep_eq_some [DecidableEq Key] (test : Key → Value → Bool) (map : Map Key Value)
    (key : Key) (value : Value) : (keep test map).lookup key = some value ↔
      map.lookup key = some value ∧ test key value = true := by
  simp only [← Option.mem_def, AList.mem_lookup_iff, keep, List.mem_filter]

end Keep

section Insert
variable {Key Value : Type} [DecidableEq Key] {map : Map Key Value} {key other : Key} {value found : Value}

/-- An entry after an insertion is the new one or an old one. -/
theorem lookup_insert_cases (inserted : (map.insert key value).lookup other = some found) :
    other = key ∧ found = value ∨ other ≠ key ∧ map.lookup other = some found := by
  by_cases same : other = key
  · subst same
    rw [AList.lookup_insert] at inserted
    exact .inl ⟨rfl, (Option.some.inj inserted).symm⟩
  · rw [AList.lookup_insert_ne same] at inserted
    exact .inr ⟨same, inserted⟩

end Insert

section Tally
variable {Key Value : Type} [DecidableEq Key] (test : Key → Value → Bool) (map : Map Key Value) {key : Key}
  {value : Value}

/-- This number counts the entries that pass the test. -/
def tally : Nat := map.entries.countP fun entry => test entry.1 entry.2

theorem tally_insert : tally test (map.insert key value) =
    tally test (map.erase key) + if test key value then 1 else 0 := by
  rw [tally, AList.entries_insert, List.countP_cons]
  rfl

theorem tally_found (found : map.lookup key = some value) :
    tally test map = tally test (map.erase key) + if test key value then 1 else 0 := by
  have listed : key ∈ map.entries.keys := AList.mem_keys.mp (AList.lookup_isSome.mp (by rw [found]; rfl))
  obtain ⟨other, before, after, fresh, split, rest⟩ := List.exists_of_kerase listed
  have same : other = value := by
    have inside : (⟨key, other⟩ : Sigma fun _ : Key => Value) ∈ map.entries := by
      rw [split]
      exact List.mem_append_right _ List.mem_cons_self
    have known := AList.mem_lookup_iff.mpr inside
    rw [found] at known
    exact (Option.some.inj known).symm
  subst same
  have erased : (map.erase key).entries = before ++ after := rest
  rw [tally, tally, erased, split, List.countP_append, List.countP_append, List.countP_cons, Nat.add_assoc]

theorem erase_absent (absent : map.lookup key = none) : map.erase key = map :=
  AList.ext (List.kerase_of_notMem_keys (AList.mem_keys.not.mp (AList.lookup_eq_none.mp absent)))

theorem tally_added (absent : map.lookup key = none) : tally test (map.insert key value) =
    tally test map + if test key value then 1 else 0 := by
  rw [tally_insert, erase_absent map absent]

theorem tally_replaced (other : Value) (found : map.lookup key = some value) :
    tally test (map.insert key other) + (if test key value then 1 else 0) =
      tally test map + if test key other then 1 else 0 := by
  rw [tally_insert, tally_found test map found]
  omega

end Tally

section Sorted
variable {A : Type} [LinearOrder A]

/-- This list contains the members of a finite set in ascending order. -/
def sorted (members : Finset A) : List A :=
  Quot.liftOn members.val (fun list => list.insertionSort (· ≤ ·)) fun first second same =>
    (((List.perm_insertionSort _ first).trans same).trans (List.perm_insertionSort _ second).symm).eq_of_pairwise'
      (List.pairwise_insertionSort _ first) (List.pairwise_insertionSort _ second)

@[simp] theorem mem_sorted (members : Finset A) (a : A) : a ∈ sorted members ↔ a ∈ members := by
  rcases members with ⟨⟨list⟩, distinct⟩
  exact List.mem_insertionSort (· ≤ ·)

theorem nodup_sorted (members : Finset A) : (sorted members).Nodup := by
  rcases members with ⟨⟨list⟩, distinct⟩
  exact (List.perm_insertionSort (· ≤ ·) list).nodup_iff.mpr distinct

theorem pairwise_sorted (members : Finset A) : (sorted members).Pairwise (· < ·) := by
  have ordered : (sorted members).Pairwise (· ≤ ·) := by
    rcases members with ⟨⟨list⟩, distinct⟩
    exact List.pairwise_insertionSort _ list
  exact ordered.imp₂ (fun _ _ below distinct => lt_of_le_of_ne below distinct) (nodup_sorted members)

end Sorted

section Folds
variable {A : Type} [DecidableEq A] {list : List A} {members : Finset A} {a : A}

theorem mem_foldl_erase : a ∈ list.foldl Finset.erase members ↔ a ∈ members ∧ a ∉ list := by
  induction list generalizing members with
  | nil => simp
  | cons first rest ih =>
      rw [List.foldl_cons, ih, Finset.mem_erase, List.mem_cons]
      tauto

theorem mem_foldl_insert : a ∈ list.foldl (fun members a => insert a members) members ↔ a ∈ members ∨ a ∈ list := by
  induction list generalizing members with
  | nil => simp
  | cons first rest ih =>
      rw [List.foldl_cons, ih, Finset.mem_insert, List.mem_cons]
      tauto

end Folds

end OpenVehicle.FiniteMap
