/-
This file defines registrations that count their users. The first use of a key registers the names of the key with
an outer system, and the last release of the key withdraws them.
-/

import OpenVehicle.Data.FiniteMap
import Mathlib.Data.Finset.Basic

namespace OpenVehicle.Data

structure Registration (Key Name : Type) where
  counts : FiniteMap.Map Key Nat := ∅
  registered : Finset Name := ∅

namespace Registration

variable {Key Name : Type} (names : Key → Finset Name)

section Definitions
variable [DecidableEq Key]

def acquire [DecidableEq Name] (key : Key) (table : Registration Key Name) : Registration Key Name :=
  let count := (table.counts.lookup key).getD 0 + 1
  { counts := table.counts.insert key count
    registered := if count = 1 then table.registered ∪ names key else table.registered }

/-- The names are withdrawn only while the outer system runs. -/
def release [DecidableEq Name] (running : Bool) (key : Key) (table : Registration Key Name) : Registration Key Name :=
  match table.counts.lookup key with
  | none => table
  | some count =>
      if count - 1 = 0 then
        { counts := table.counts.erase key
          registered := if running then table.registered \ names key else table.registered }
      else { table with counts := table.counts.insert key (count - 1) }

/-- The stored count of a key is the number of its users. -/
def Counts (table : Registration Key Name) (users : List Key) : Prop :=
  ∀ key, table.counts.lookup key = if key ∈ users then some (users.count key) else none

/-- A name is registered when a user needs it. -/
def Registers (table : Registration Key Name) (users : List Key) : Prop :=
  ∀ name, name ∈ table.registered ↔ ∃ key ∈ users, name ∈ names key

/-- The last user of a key shares no name of the key with the users of other keys. -/
def Separate (users : List Key) (key : Key) : Prop :=
  users.count key = 1 → ∀ other ∈ users, other ≠ key → Disjoint (names key) (names other)

end Definitions

variable {names} {table : Registration Key Name} {users rest : List Key} {key : Key}

theorem registers_empty : Registers names {} [] := by
  intro name
  simp

theorem Registers.perm {other : List Key} (registers : table.Registers names users) (perm : users.Perm other) :
    table.Registers names other := by
  intro name
  rw [registers name]
  simp only [perm.mem_iff]

variable [DecidableEq Key]

theorem counts_empty : Counts ({} : Registration Key Name) [] := fun _ => rfl

theorem Counts.perm {other : List Key} (counts : table.Counts users) (perm : users.Perm other) :
    table.Counts other := by
  intro key
  rw [counts key, perm.count_eq key]
  simp only [perm.mem_iff]

theorem Counts.getD (counts : table.Counts users) : (table.counts.lookup key).getD 0 = users.count key := by
  rw [counts key]
  split
  · rfl
  · rename_i absent
    exact (List.count_eq_zero_of_not_mem absent).symm

/-- A key with users is found, and its count is not zero. -/
theorem Counts.found (counts : table.Counts users) (perm : users.Perm (key :: rest)) :
    table.counts.lookup key = some (rest.count key + 1) := by
  have used : key ∈ users := perm.mem_iff.mpr List.mem_cons_self
  rw [counts key, if_pos used, perm.count_eq key, List.count_cons_self]

variable [DecidableEq Name]

section
variable (counts : table.Counts users)
include counts

theorem Counts.acquire : (table.acquire names key).Counts (key :: users) := by
  intro other
  unfold Registration.acquire
  by_cases same : other = key
  · subst same
    rw [AList.lookup_insert, counts.getD, if_pos List.mem_cons_self, List.count_cons_self]
  · rw [AList.lookup_insert_ne same, counts other, List.count_cons_of_ne (Ne.symm same)]
    simp only [List.mem_cons, same, false_or]

theorem Registers.acquire (registers : table.Registers names users) :
    (table.acquire names key).Registers names (key :: users) := by
  intro name
  unfold Registration.acquire
  rw [counts.getD]
  simp only [List.exists_mem_cons_iff, ← registers name]
  split
  · rw [Finset.mem_union]
    exact Or.comm
  · rename_i again
    have used : key ∈ users := List.count_pos_iff.mp (by omega)
    constructor
    · exact .inr
    · rintro (named | known)
      · exact (registers name).mpr ⟨key, used, named⟩
      · exact known

theorem Counts.release {running : Bool} (perm : users.Perm (key :: rest)) :
    (table.release names running key).Counts rest := by
  intro other
  unfold Registration.release
  rw [counts.found perm]
  simp only [Nat.add_sub_cancel]
  split
  · rename_i last
    by_cases same : other = key
    · subst same
      rw [AList.lookup_erase, if_neg (List.count_eq_zero.mp last)]
    · rw [AList.lookup_erase_ne same, counts.perm perm other, List.count_cons_of_ne (Ne.symm same)]
      simp only [List.mem_cons, same, false_or]
  · rename_i more
    by_cases same : other = key
    · subst same
      rw [AList.lookup_insert, if_pos (List.count_pos_iff.mp (Nat.pos_of_ne_zero more))]
    · rw [AList.lookup_insert_ne same, counts.perm perm other, List.count_cons_of_ne (Ne.symm same)]
      simp only [List.mem_cons, same, false_or]

/-- A release withdraws a name that another user needs unless the names of the last user are separate. -/
theorem registers_release_iff (registers : table.Registers names users) (perm : users.Perm (key :: rest)) :
    (table.release names true key).Registers names rest ↔ Separate names users key := by
  have known := registers.perm perm
  unfold Registration.release Separate
  rw [counts.found perm, perm.count_eq key, List.count_cons_self]
  simp only [Nat.add_sub_cancel, if_true]
  split
  · rename_i last
    have absent : key ∉ rest := List.count_eq_zero.mp last
    simp only [last, Nat.zero_add, forall_const, perm.mem_iff]
    constructor
    · intro kept other inside different
      rw [Finset.disjoint_left]
      intro name mine others
      have remains : other ∈ rest := (List.mem_cons.mp inside).resolve_left different
      have withdrawn := (kept name).mpr ⟨other, remains, others⟩
      exact (Finset.mem_sdiff.mp withdrawn).2 mine
    · intro separate name
      rw [Finset.mem_sdiff, known name]
      constructor
      · rintro ⟨⟨other, inside, needed⟩, foreign⟩
        rcases List.mem_cons.mp inside with rfl | inside
        · exact absurd needed foreign
        · exact ⟨other, inside, needed⟩
      · rintro ⟨other, inside, needed⟩
        have different : other ≠ key := fun same => absent (same ▸ inside)
        have apart := separate other (List.mem_cons_of_mem _ inside) different
        exact ⟨⟨other, List.mem_cons_of_mem _ inside, needed⟩, fun mine => Finset.disjoint_left.mp apart mine needed⟩
  · rename_i more
    have remains : key ∈ rest := List.count_pos_iff.mp (Nat.pos_of_ne_zero more)
    constructor
    · intro _ one
      omega
    · intro _ name
      rw [known name, List.exists_mem_cons_iff]
      constructor
      · rintro (needed | other)
        · exact ⟨key, remains, needed⟩
        · exact other
      · exact .inr

end

/-- The table counts the users, and it registers the names that they need. -/
structure Tracks (names : Key → Finset Name) (table : Registration Key Name) (users : List Key) : Prop where
  counts : table.Counts users
  registers : table.Registers names users

omit [DecidableEq Name] in
theorem Tracks.perm {later : List Key} (tracks : table.Tracks names users) (perm : users.Perm later) :
    table.Tracks names later := ⟨tracks.counts.perm perm, tracks.registers.perm perm⟩

theorem Tracks.acquire {later : List Key} (tracks : table.Tracks names users) (perm : later.Perm (key :: users)) :
    (table.acquire names key).Tracks names later where
  counts := tracks.counts.acquire.perm perm.symm
  registers := (tracks.registers.acquire tracks.counts).perm perm.symm

theorem Tracks.release (tracks : table.Tracks names users) (perm : users.Perm (key :: rest))
    (separate : Separate names users key) : (table.release names true key).Tracks names rest where
  counts := tracks.counts.release perm
  registers := (registers_release_iff tracks.counts tracks.registers perm).mpr separate

end Registration

end OpenVehicle.Data
