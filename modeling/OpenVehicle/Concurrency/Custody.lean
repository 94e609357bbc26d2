/-
This file defines when a table loses none of its items. An item waits from its entry to its invocation, and an answer
takes it from the table.
-/

import Mathlib.Data.List.Basic
import Mathlib.Data.List.Perm.Basic

namespace OpenVehicle.Concurrency

variable {A K : Type}

/-- An item that leaves its list is the only one that is missing. -/
theorem mem_map_eraseIdx {B : Type} {key : A → B} {list : List A} {index : Nat} {item : A}
    (found : list[index]? = some item) {value : B} (listed : value ∈ list.map key) :
    value = key item ∨ value ∈ (list.eraseIdx index).map key := by
  obtain ⟨inside, rfl⟩ := List.getElem?_eq_some_iff.mp found
  have moved := ((List.getElem_cons_eraseIdx_perm inside).symm.map key).subset listed
  rwa [List.map_cons, List.mem_cons] at moved

/-- An item of the table waits, or it was invoked. It has no answer. -/
structure Custody (key : A → K) (table waiting invoked : List A) (answered : List K) : Prop where
  placed : ∀ item ∈ table, item ∈ waiting ∨ item ∈ invoked
  unanswered : ∀ item ∈ table, key item ∉ answered

namespace Custody

variable {key : A → K} {table waiting invoked : List A} {answered : List K}

theorem empty : Custody key [] waiting invoked answered := ⟨nofun, nofun⟩

variable {item : A}

theorem enter (custody : Custody key table waiting invoked answered) (fresh : key item ∉ answered) :
    Custody key (table ++ [item]) (item :: waiting) invoked answered := by
  constructor
  · intro other found
    rcases List.mem_append.mp found with found | last
    · exact (custody.placed other found).imp_left (List.mem_cons_of_mem _)
    · exact .inl (List.mem_singleton.mp last ▸ List.mem_cons_self)
  · intro other found
    rcases List.mem_append.mp found with found | last
    · exact custody.unanswered other found
    · exact List.mem_singleton.mp last ▸ fresh

variable {other : List A}

/-- The waiting items may move. -/
theorem move (custody : Custody key table waiting invoked answered) (moved : waiting ⊆ other) :
    Custody key table other invoked answered :=
  ⟨fun item found => (custody.placed item found).imp_left (moved ·), custody.unanswered⟩

theorem shrink (custody : Custody key table waiting invoked answered) (part : other ⊆ table) :
    Custody key other waiting invoked answered :=
  ⟨fun item found => custody.placed item (part found), fun item found => custody.unanswered item (part found)⟩

variable {rest : List A}

section
variable (custody : Custody key table waiting invoked answered)
include custody

theorem invoke (taken : waiting ⊆ item :: rest) : Custody key table rest (invoked ++ [item]) answered := by
  refine ⟨fun other found => ?_, custody.unanswered⟩
  rcases custody.placed other found with waits | known
  · rcases List.mem_cons.mp (taken waits) with rfl | remains
    · exact .inr (List.mem_append_right _ List.mem_cons_self)
    · exact .inl remains
  · exact .inr (List.mem_append_left _ known)

/-- An item that has left the table need not wait. -/
theorem settle (taken : waiting ⊆ item :: rest) (gone : item ∉ table) : Custody key table rest invoked answered := by
  refine ⟨fun other found => ?_, custody.unanswered⟩
  refine (custody.placed other found).imp_left fun waits => ?_
  rcases List.mem_cons.mp (taken waits) with rfl | remains
  · exact absurd found gone
  · exact remains

theorem answer {answer : K} (part : other ⊆ table) (gone : ∀ item ∈ other, key item ≠ answer) :
    Custody key other waiting invoked (answered ++ [answer]) := by
  refine ⟨fun item found => custody.placed item (part found), fun item found known => ?_⟩
  rcases List.mem_append.mp known with known | last
  · exact custody.unanswered item (part found) known
  · exact gone item found (List.mem_singleton.mp last)

end

/-- When no item waits, the items of the table were invoked and have no answer. -/
theorem served (custody : Custody key table [] invoked answered) :
    ∀ item ∈ table, item ∈ invoked ∧ key item ∉ answered := fun item found =>
  ⟨(custody.placed item found).resolve_left List.not_mem_nil, custody.unanswered item found⟩

end Custody

end OpenVehicle.Concurrency
