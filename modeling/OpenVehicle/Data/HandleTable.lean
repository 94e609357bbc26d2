/-
This file defines tables of objects whose handles come from one counter. A table lists its objects in the
order of their handles.
-/

import Mathlib.Data.List.Basic
import Mathlib.Data.List.Nodup
import Mathlib.Data.List.Perm.Basic

namespace OpenVehicle.Data

abbrev HandleTable (A : Type) := List (Nat × A)

namespace HandleTable

variable {A : Type}

def remove (handle : Nat) (table : HandleTable A) : HandleTable A := table.filter fun entry => entry.1 != handle

/-- The handles increase, and the counter is above all of them. -/
structure Ordered (next : Nat) (table : HandleTable A) : Prop where
  increasing : table.Pairwise fun first second => first.1 < second.1
  below : ∀ entry ∈ table, entry.1 < next

variable {table : HandleTable A} {next handle : Nat} {value : A}

theorem mem_remove {entry : Nat × A} : entry ∈ remove handle table ↔ entry ∈ table ∧ entry.1 ≠ handle := by
  rw [remove, List.mem_filter, bne_iff_ne]

theorem map_remove_subset {B : Type} (handle : Nat) (key : Nat × A → B) :
    (remove handle table).map key ⊆ table.map key := List.map_subset key (List.filter_subset_self _)

theorem mem_of_lookup (found : table.lookup handle = some value) : (handle, value) ∈ table := by
  obtain ⟨first, last, rfl, _⟩ := List.lookup_eq_some_iff.mp found
  exact List.mem_append_right _ List.mem_cons_self

theorem lookup_remove_ne {other : Nat} (different : other ≠ handle) :
    (remove handle table).lookup other = table.lookup other := by
  induction table with
  | nil => rfl
  | cons entry table ih =>
      rw [remove, List.filter_cons]
      by_cases removed : entry.1 = handle
      · have skipped : (other == entry.1) = false := beq_eq_false_iff_ne.mpr (removed ▸ different)
        rw [if_neg (by simp [removed]), List.lookup_cons, skipped]
        exact ih
      · rw [if_pos (by simpa using removed), List.lookup_cons, List.lookup_cons]
        split
        · rfl
        · exact ih

theorem lookup_remove_self : (remove handle table).lookup handle = none := by
  apply List.lookup_eq_none_iff.mpr
  intro entry found
  exact bne_iff_ne.mpr (mem_remove.mp found).2.symm

namespace Ordered

theorem empty : Ordered next ([] : HandleTable A) := ⟨.nil, by simp⟩

variable (ordered : Ordered next table)
include ordered

theorem mono {later : Nat} (increased : next ≤ later) : Ordered later table :=
  ⟨ordered.increasing, fun entry found => Nat.lt_of_lt_of_le (ordered.below entry found) increased⟩

theorem sublist {other : HandleTable A} (part : other.Sublist table) : Ordered next other :=
  ⟨ordered.increasing.sublist part, fun entry found => ordered.below entry (part.subset found)⟩

theorem remove : Ordered next (remove handle table) := ordered.sublist List.filter_sublist

/-- A new object takes the next handle. -/
theorem add : Ordered (next + 1) (table ++ [(next, value)]) := by
  constructor
  · rw [List.pairwise_append]
    refine ⟨ordered.increasing, List.pairwise_singleton _ _, fun first found second last => ?_⟩
    rw [List.mem_singleton.mp last]
    exact ordered.below first found
  · intro entry found
    rcases List.mem_append.mp found with found | last
    · exact Nat.lt_succ_of_lt (ordered.below entry found)
    · rw [List.mem_singleton.mp last]
      exact Nat.lt_succ_self next

theorem nodup : (table.map Prod.fst).Nodup := by
  rw [List.nodup_iff_pairwise_ne, List.pairwise_map]
  exact ordered.increasing.imp fun less => Nat.ne_of_lt less

theorem lookup_of_mem (found : (handle, value) ∈ table) : table.lookup handle = some value := by
  obtain ⟨first, last, rfl⟩ := List.append_of_mem found
  apply List.lookup_eq_some_iff.mpr
  refine ⟨first, last, rfl, fun entry before => ?_⟩
  have less := (List.pairwise_append.mp ordered.increasing).2.2 entry before (handle, value) List.mem_cons_self
  exact bne_iff_ne.mpr (Nat.ne_of_gt less)

/-- The old objects of a table keep their handles. -/
theorem lookup_add {other : Nat} {known : A}
    (found : table.lookup other = some known) : (table ++ [(next, value)]).lookup other = some known :=
  ordered.add.lookup_of_mem (List.mem_append_left _ (mem_of_lookup found))

theorem lookup_added : (table ++ [(next, value)]).lookup next = some value :=
  ordered.add.lookup_of_mem (List.mem_append_right _ List.mem_cons_self)

/-- A removed object was in the table once. -/
theorem perm_remove (found : table.lookup handle = some value) :
    table.Perm ((handle, value) :: HandleTable.remove handle table) := by
  obtain ⟨first, last, rfl, _⟩ := List.lookup_eq_some_iff.mp found
  have unique := ordered.nodup
  rw [List.map_append, List.map_cons] at unique
  have kept : HandleTable.remove handle (first ++ (handle, value) :: last) = first ++ last := by
    rw [HandleTable.remove, List.filter_append, List.filter_cons_of_neg (by simp)]
    have apart := List.nodup_middle.mp unique
    rw [List.nodup_cons, ← List.map_append] at apart
    rw [← List.filter_append]
    apply List.filter_eq_self.mpr
    intro entry inside
    exact bne_iff_ne.mpr fun same => apart.1 (List.mem_map.mpr ⟨entry, inside, same⟩)
  rw [kept]
  exact List.perm_middle

end Ordered

section Users
variable {refused : A → Bool} {users : List Nat}

theorem lookup_push (different : handle ≠ next) : (table ++ [(next, value)]).lookup handle = table.lookup handle := by
  rw [List.lookup_append, List.lookup_cons, beq_eq_false_iff_ne.mpr different]
  exact Option.or_none

/-- The users name issued handles. None of them names a refused object. -/
def Apart (refused : A → Bool) (next : Nat) (table : HandleTable A) (users : List Nat) : Prop :=
  ∀ user ∈ users, user < next ∧ ∀ found, table.lookup user = some found → refused found = false

namespace Apart

theorem none : Apart refused next table [] := nofun

variable (apart : Apart refused next table users)
include apart

theorem subset {other : List Nat} (part : other ⊆ users) :
    Apart refused next table other := fun user listed => apart user (part listed)

theorem mono {later : Nat} (increased : next ≤ later) : Apart refused later table users := fun user listed =>
  ⟨Nat.lt_of_lt_of_le (apart user listed).1 increased, (apart user listed).2⟩

theorem push : Apart refused (next + 1) (table ++ [(next, value)]) users := by
  intro user listed
  obtain ⟨less, kind⟩ := apart user listed
  refine ⟨Nat.lt_succ_of_lt less, fun found known => kind found ?_⟩
  rwa [lookup_push (Nat.ne_of_lt less)] at known

theorem remove : Apart refused next (remove handle table) users := by
  intro user listed
  obtain ⟨less, kind⟩ := apart user listed
  refine ⟨less, fun found known => ?_⟩
  by_cases same : user = handle
  · rw [same, lookup_remove_self] at known
    cases known
  · rw [lookup_remove_ne same] at known
    exact kind found known

/-- A user may name an object that is not refused. -/
theorem use (ordered : table.Ordered next) {user : Nat}
    (known : table.lookup user = some value) (kind : refused value = false) :
    Apart refused next table (user :: users) := by
  intro other listed
  rcases List.mem_cons.mp listed with rfl | listed
  · refine ⟨ordered.below _ (mem_of_lookup known), fun found same => ?_⟩
    rw [known] at same
    cases same
    exact kind
  · exact apart other listed

theorem not_mem (known : table.lookup handle = some value) (kind : refused value = true) : handle ∉ users := by
  intro listed
  have other := (apart handle listed).2 value known
  rw [kind] at other
  cases other

end Apart

end Users

end HandleTable

end OpenVehicle.Data
