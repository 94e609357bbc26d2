/-
This file defines a ring buffer over a list of cells. Its contents start at the head and wrap at the end.
-/

import Mathlib.Data.Int.ModEq
import Mathlib.Data.List.Basic

namespace OpenVehicle.Data

structure RingBuffer (A : Type) where
  cells : List A
  head : Nat := 0
  tail : Nat := 0
  count : Nat := 0
  deriving DecidableEq, Repr

namespace RingBuffer

variable {A : Type}

def capacity (ring : RingBuffer A) : Nat := ring.cells.length

def push (a : A) (ring : RingBuffer A) : RingBuffer A :=
  { ring with cells := ring.cells.set ring.tail a, tail := (ring.tail + 1) % ring.capacity, count := ring.count + 1 }

def pop (ring : RingBuffer A) : Option (A × RingBuffer A) :=
  ring.cells[ring.head]?.map fun a =>
    (a, { ring with head := (ring.head + 1) % ring.capacity, count := ring.count - 1 })

/-- The occupied cells, from the oldest one to the newest one. -/
def contents (ring : RingBuffer A) : List A :=
  (List.range ring.count).filterMap fun offset => ring.cells[(ring.head + offset) % ring.capacity]?

/-- The tail follows the occupied cells, and the cells are enough. -/
structure Sound (ring : RingBuffer A) : Prop where
  tail : ring.tail = (ring.head + ring.count) % ring.capacity
  bounded : ring.count ≤ ring.capacity
  inside : ring.head < ring.capacity

@[simp] theorem capacity_push (a : A) (ring : RingBuffer A) : (ring.push a).capacity = ring.capacity := List.length_set

theorem sound_empty {cells : List A} (filled : cells ≠ []) : Sound (⟨cells, 0, 0, 0⟩ : RingBuffer A) :=
  ⟨(Nat.zero_mod _).symm, Nat.zero_le _, List.length_pos_iff.mpr filled⟩

section Operations
variable {ring : RingBuffer A} (sound : ring.Sound)
include sound

theorem Sound.length_contents : ring.contents.length = ring.count := by
  have positive : 0 < ring.capacity := Nat.lt_of_le_of_lt (Nat.zero_le _) sound.inside
  have cells (offset : Nat) : (ring.cells[(ring.head + offset) % ring.capacity]?).isSome = true := by
    have inside : (ring.head + offset) % ring.capacity < ring.cells.length := Nat.mod_lt _ positive
    rw [List.getElem?_eq_getElem inside]
    rfl
  unfold contents
  rw [List.length_filterMap_eq_countP, List.countP_eq_length.mpr fun offset _ => cells offset, List.length_range]

/-- A new element has its own cell. -/
theorem Sound.fresh (room : ring.count < ring.capacity) {offset : Nat} (occupied : offset < ring.count) :
    ring.tail ≠ (ring.head + offset) % ring.capacity := by
  rw [sound.tail]
  intro same
  have congruent : ring.count ≡ offset [MOD ring.capacity] := Nat.ModEq.add_left_cancel' ring.head same
  exact absurd (congruent.eq_of_lt_of_lt room (occupied.trans room)) (Nat.ne_of_gt occupied)

theorem Sound.push (a : A) (room : ring.count < ring.capacity) : (ring.push a).Sound := by
  refine ⟨?_, ?_, ?_⟩
  · change (ring.tail + 1) % ring.capacity = (ring.head + (ring.count + 1)) % (ring.push a).capacity
    rw [capacity_push, sound.tail, Nat.mod_add_mod, Nat.add_assoc]
  · rw [capacity_push]
    exact room
  · rw [capacity_push]
    exact sound.inside

theorem Sound.contents_push (a : A) (room : ring.count < ring.capacity) :
    (ring.push a).contents = ring.contents ++ [a] := by
  have positive : 0 < ring.capacity := Nat.lt_of_le_of_lt (Nat.zero_le _) sound.inside
  have placed : ring.tail < ring.cells.length := by
    rw [sound.tail]
    exact Nat.mod_lt _ positive
  unfold contents
  rw [capacity_push]
  change (List.range (ring.count + 1)).filterMap (fun offset =>
    (ring.cells.set ring.tail a)[(ring.head + offset) % ring.capacity]?) = _
  rw [List.range_succ, List.filterMap_append]
  congr 1
  · apply List.filterMap_congr
    intro offset member
    rw [List.getElem?_set_ne (sound.fresh room (List.mem_range.mp member))]
  · rw [List.filterMap_cons, ← sound.tail, List.getElem?_set_self placed]
    rfl

theorem Sound.pop (filled : 0 < ring.count) : ∃ a rest, ring.pop = some (a, rest) ∧ rest.Sound ∧
    rest.capacity = ring.capacity ∧ rest.count + 1 = ring.count ∧ ring.contents = a :: rest.contents := by
  have inside : ring.head < ring.cells.length := sound.inside
  have next : (ring.head + 1) % ring.capacity + (ring.count - 1) ≡ ring.head + ring.count [MOD ring.capacity] := by
    have same : ring.head + 1 + (ring.count - 1) = ring.head + ring.count := by omega
    rw [← same]
    exact (Nat.mod_modEq _ _).add_right _
  refine ⟨ring.cells[ring.head], { ring with head := (ring.head + 1) % ring.capacity, count := ring.count - 1 },
    ?_, ⟨?_, ?_, ?_⟩, rfl, ?_, ?_⟩
  · rw [RingBuffer.pop, List.getElem?_eq_getElem inside]
    rfl
  · exact sound.tail.trans next.symm
  · exact (Nat.sub_le _ _).trans sound.bounded
  · exact Nat.mod_lt _ (Nat.lt_of_le_of_lt (Nat.zero_le _) sound.inside)
  · exact Nat.sub_add_cancel filled
  · have more : ring.count = ring.count - 1 + 1 := (Nat.sub_add_cancel filled).symm
    unfold contents
    rw [more, List.range_succ_eq_map, List.filterMap_cons, Nat.add_zero, Nat.mod_eq_of_lt sound.inside,
      List.getElem?_eq_getElem inside, List.filterMap_map]
    change _ :: _ = _ :: _
    congr 1
    apply List.filterMap_congr
    intro offset _
    change ring.cells[(ring.head + (offset + 1)) % ring.capacity]? =
      ring.cells[((ring.head + 1) % ring.capacity + offset) % ring.capacity]?
    rw [Nat.mod_add_mod, Nat.add_assoc, Nat.add_comm 1 offset]

end Operations

end RingBuffer

end OpenVehicle.Data
