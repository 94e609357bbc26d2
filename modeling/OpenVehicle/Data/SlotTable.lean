/-
This file defines tables of slots that are used again. A handle contains the index of a slot and its generation,
and a release advances the generation. The table also records which objects it has stored and released.
-/

import Mathlib.Data.List.Basic
import Mathlib.Data.Nat.Bitwise

namespace OpenVehicle.Data

/-- The occupant of a slot knows the generation of its handle and which stored object it is. -/
structure Occupant (A : Type) where
  generation : Nat
  identity : Nat
  value : A
  deriving DecidableEq, Repr

/-- The objects are numbered in the order in which they are stored. -/
structure SlotTable (A : Type) where
  slots : List (Option (Occupant A))
  generations : List Nat
  releases : List Nat
  stored : Nat := 0
  released : List Nat := []
  deriving DecidableEq, Repr

namespace SlotTable

variable {A : Type}

def empty (size : Nat) : SlotTable A :=
  { slots := List.replicate size none, generations := List.replicate size 1, releases := List.replicate size 0 }

def handle (index generation : Nat) : Nat := (generation <<< 32) ||| (index + 1)

/-- A generation has 32 bits, and zero is no generation. -/
def advance (generation : Nat) : Nat :=
  if (generation + 1) % 2 ^ 32 = 0 then 1 else (generation + 1) % 2 ^ 32

/-- The index and the generation of a handle. -/
def index (handle : Nat) : Nat := handle % 2 ^ 32 - 1

def generation (handle : Nat) : Nat := handle / 2 ^ 32 % 2 ^ 32

def find (handle : Nat) (table : SlotTable A) : Option (Occupant A) :=
  if handle = 0 then none
  else if handle % 2 ^ 32 = 0 ∨ handle % 2 ^ 32 > table.slots.length then none
  else table.slots[index handle]?.join.filter (·.generation = generation handle)

/-- A new object takes the first free slot. -/
def insert (value : A) (table : SlotTable A) : Option (Nat × SlotTable A) :=
  (table.slots.findIdx? (·.isNone)).map fun index =>
    let generation := table.generations.getD index 0
    (handle index generation, { table with
      slots := table.slots.set index (some ⟨generation, table.stored, value⟩)
      stored := table.stored + 1 })

def release (index : Nat) (table : SlotTable A) : SlotTable A :=
  { table with
    slots := table.slots.set index none
    generations := table.generations.modify index advance
    releases := table.releases.modify index (· + 1)
    released := table.released ++ (table.slots[index]?.join.map (·.identity)).toList }

/-- The objects are removed, and the generations stay as they are. -/
def clear (table : SlotTable A) : SlotTable A :=
  { table with
    slots := table.slots.map fun _ => none
    released := table.released ++ table.slots.filterMap fun slot => slot.map (·.identity) }

def modify (index : Nat) (change : A → A) (table : SlotTable A) : SlotTable A :=
  { table with
    slots := table.slots.modify index fun slot => slot.map fun occupant =>
      { occupant with value := change occupant.value } }

def isEmpty (table : SlotTable A) : Bool := table.slots.all (·.isNone)

/-- An object is in a slot. -/
def Occupies (table : SlotTable A) (index : Nat) (occupant : Occupant A) : Prop :=
  table.slots[index]? = some (some occupant)

section Handles
variable {index generation : Nat}

variable (small : index + 1 < 2 ^ 32)
include small

theorem handle_eq : handle index generation = generation * 2 ^ 32 + (index + 1) := by
  rw [handle, ← Nat.shiftLeft_add_eq_or_of_lt small, Nat.shiftLeft_eq]

theorem index_handle : SlotTable.index (handle index generation) = index := by
  rw [SlotTable.index, handle_eq small]
  omega

theorem generation_handle (bounded : generation < 2 ^ 32) :
    SlotTable.generation (handle index generation) = generation := by
  rw [SlotTable.generation, handle_eq small]
  omega

end Handles

section Find
variable {table : SlotTable A} {handle : Nat} {occupant : Occupant A}

/-- A found object is in the slot of the handle, with the generation of the handle. -/
theorem occupies_of_find (found : table.find handle = some occupant) :
    table.Occupies (index handle) occupant ∧ occupant.generation = generation handle := by
  unfold find at found
  split at found
  · cases found
  · split at found
    · cases found
    · obtain ⟨joined, same⟩ := Option.filter_eq_some_iff.mp found
      exact ⟨Option.join_eq_some_iff.mp joined, of_decide_eq_true same⟩

theorem find_modify {change : A → A} : (table.modify (index handle) change).find handle =
    (table.find handle).map fun occupant => { occupant with value := change occupant.value } := by
  unfold find
  have length : (table.modify (index handle) change).slots.length = table.slots.length := List.length_modify _ _ _
  rw [length]
  split
  · rfl
  · split
    · rfl
    · rw [modify, List.getElem?_modify_eq]
      cases table.slots[index handle]? with
      | none => rfl
      | some slot =>
          cases slot with
          | none => rfl
          | some occupant =>
              simp only [Option.map_eq_map, Option.map_some, Option.join_some, Option.filter]
              split <;> rfl

/-- After a release, the handles of the slot resolve to nothing. -/
theorem find_release : (table.release (index handle)).find handle = none := by
  unfold find
  split
  · rfl
  · split
    · rfl
    · rw [release, List.getElem?_set]
      split
      · split <;> rfl
      · rename_i different
        exact absurd rfl different

end Find

/-- The handles that were returned, with the objects that they were returned for. -/
abbrev Issued := List (Nat × Nat)

variable {issued : Issued} {here : Nat}

/-- An issued handle resolves to its own object only, and to nothing after the release of this object. -/
structure Faithful (table : SlotTable A) (issued : Issued) : Prop where
  own : ∀ entry ∈ issued, ∀ occupant, table.find entry.1 = some occupant → occupant.identity = entry.2
  gone : ∀ entry ∈ issued, entry.2 ∈ table.released → table.find entry.1 = none

/-- An issued handle has an old generation, or its object is still in the slot. -/
structure Sound (table : SlotTable A) (issued : Issued) : Prop where
  width : table.generations.length = table.slots.length
  small : table.slots.length < 2 ^ 32
  counted : table.generations = table.releases.map (· + 1)
  bounded : ∀ count ∈ table.releases, count < 2 ^ 32 - 1
  current : ∀ index occupant, table.Occupies index occupant →
    table.generations[index]? = some occupant.generation ∧ occupant.identity < table.stored
  distinct : ∀ index other first second, table.Occupies index first → table.Occupies other second →
    first.identity = second.identity → index = other
  issued : ∀ entry ∈ issued, entry.2 < table.stored ∧ ∃ index generation current,
    entry.1 = handle index generation ∧ table.generations[index]? = some current ∧ generation ≤ current ∧
      (generation = current → ∃ occupant, table.Occupies index occupant ∧ occupant.identity = entry.2)
  released : ∀ identity ∈ table.released, identity < table.stored ∧
    ∀ index occupant, table.Occupies index occupant → occupant.identity ≠ identity

section Soundness
variable {table : SlotTable A} (sound : table.Sound issued)
include sound

theorem Sound.bounds {index current : Nat} (found : table.generations[index]? = some current) :
    index + 1 < 2 ^ 32 ∧ current < 2 ^ 32 := by
  obtain ⟨inside, _⟩ := List.getElem?_eq_some_iff.mp found
  have small := sound.small
  rw [sound.width] at inside
  rw [sound.counted, List.getElem?_map] at found
  obtain ⟨count, known, rfl⟩ := Option.map_eq_some_iff.mp found
  have bounded := sound.bounded count (List.mem_of_getElem? known)
  omega

variable {entry : Nat × Nat}

/-- A handle resolves to the object that it was returned for. -/
theorem Sound.resolves (member : entry ∈ issued) {occupant : Occupant A}
    (found : table.find entry.1 = some occupant) : occupant.identity = entry.2 := by
  obtain ⟨_, index, generation, current, same, known, older, live⟩ := sound.issued entry member
  obtain ⟨occupies, matches'⟩ := occupies_of_find found
  obtain ⟨small, bounded⟩ := sound.bounds known
  rw [same, index_handle small] at occupies
  rw [same, generation_handle small (Nat.lt_of_le_of_lt older bounded)] at matches'
  have here := (sound.current index occupant occupies).1
  rw [known, Option.some.injEq] at here
  obtain ⟨other, there, identity⟩ := live (matches'.symm.trans here.symm)
  have equal : occupant = other := Option.some.inj (Option.some.inj (occupies.symm.trans there))
  rw [equal]
  exact identity

/-- The handle of a released object resolves to nothing. -/
theorem Sound.resolves_none (member : entry ∈ issued) (gone : entry.2 ∈ table.released) :
    table.find entry.1 = none := by
  cases found : table.find entry.1 with
  | none => rfl
  | some occupant =>
      have same := sound.resolves member found
      exact absurd same ((sound.released entry.2 gone).2 _ occupant (occupies_of_find found).1)

theorem Sound.faithful : table.Faithful issued :=
  ⟨fun _ member _ found => sound.resolves member found, fun _ member gone => sound.resolves_none member gone⟩

end Soundness

section Empty
variable {size : Nat}

theorem not_occupies_empty {index : Nat} {occupant : Occupant A} : ¬(empty size).Occupies index occupant := by
  intro occupies
  have member := List.mem_of_getElem? occupies
  cases List.eq_of_mem_replicate member

theorem sound_empty (small : size < 2 ^ 32) : (empty size : SlotTable A).Sound [] where
  width := by simp [empty]
  small := by simpa [empty] using small
  counted := by simp [empty]
  bounded := by simp [empty]
  current := fun _ _ occupies => absurd occupies not_occupies_empty
  distinct := fun _ _ _ _ occupies => absurd occupies not_occupies_empty
  issued := fun _ member => absurd member List.not_mem_nil
  released := fun _ member => absurd member List.not_mem_nil

end Empty

section Insert
variable {table later : SlotTable A} {value : A} {handle : Nat}

/-- A new object has a slot that was free, and the handle has the generation of this slot. -/
theorem insert_eq_some (inserted : table.insert value = some (handle, later)) :
    ∃ index, table.slots[index]? = some none ∧ handle = SlotTable.handle index (table.generations.getD index 0) ∧
      later = { table with
        slots := table.slots.set index (some ⟨table.generations.getD index 0, table.stored, value⟩)
        stored := table.stored + 1 } := by
  obtain ⟨index, free, same⟩ := Option.map_eq_some_iff.mp inserted
  obtain ⟨inside, isNone, _⟩ := List.findIdx?_eq_some_iff_getElem.mp free
  obtain ⟨rfl, rfl⟩ := Prod.mk.inj same
  refine ⟨index, ?_, rfl, rfl⟩
  rw [List.getElem?_eq_getElem inside, Option.isNone_iff_eq_none.mp isNone]

/-- The handle of a new object resolves to it. -/
theorem Sound.find_insert (sound : table.Sound issued) (inserted : table.insert value = some (handle, later)) :
    (later.find handle).map (·.value) = some value := by
  obtain ⟨slot, free, rfl, rfl⟩ := insert_eq_some inserted
  obtain ⟨inside, _⟩ := List.getElem?_eq_some_iff.mp free
  have known : table.generations[slot]? = some (table.generations.getD slot 0) := by
    have placed : slot < table.generations.length := by
      rw [sound.width]
      exact inside
    rw [List.getElem?_eq_getElem placed, List.getD_eq_getElem _ _ placed]
  obtain ⟨small, bounded⟩ := sound.bounds known
  have number := @handle_eq slot (table.generations.getD slot 0) small
  have present : ¬(SlotTable.handle slot (table.generations.getD slot 0) = 0) := by omega
  have position : ¬(SlotTable.handle slot (table.generations.getD slot 0) % 2 ^ 32 = 0 ∨
      SlotTable.handle slot (table.generations.getD slot 0) % 2 ^ 32 > table.slots.length) := by omega
  unfold find
  rw [if_neg present, List.length_set, if_neg position, index_handle small, generation_handle small bounded,
    List.getElem?_set_self inside]
  simp [Option.filter]

/-- After an insertion, a slot has the new object or the object it had. -/
theorem occupies_insert {index : Nat} {generation : Nat} {occupant : Occupant A}
    (occupies : Occupies { table with
      slots := table.slots.set index (some ⟨generation, table.stored, value⟩)
      stored := table.stored + 1 } here occupant) :
    here = index ∧ occupant = ⟨generation, table.stored, value⟩ ∨ here ≠ index ∧ table.Occupies here occupant := by
  simp only [Occupies, List.getElem?_set] at occupies
  split at occupies
  · rename_i same
    split at occupies
    · exact .inl ⟨same.symm, (Option.some.inj (Option.some.inj occupies)).symm⟩
    · cases occupies
  · rename_i other
    exact .inr ⟨fun same => other same.symm, occupies⟩

theorem Sound.insert (sound : table.Sound issued) (inserted : table.insert value = some (handle, later)) :
    later.Sound ((handle, table.stored) :: issued) := by
  obtain ⟨index, free, rfl, rfl⟩ := insert_eq_some inserted
  obtain ⟨inside, _⟩ := List.getElem?_eq_some_iff.mp free
  have known : table.generations[index]? = some (table.generations.getD index 0) := by
    rw [List.getD_eq_getElem?_getD, List.getElem?_eq_getElem (sound.width ▸ inside)]
    rfl
  have vacant (occupant : Occupant A) : ¬table.Occupies index occupant := by
    intro occupies
    cases free.symm.trans occupies
  refine ⟨?_, ?_, sound.counted, sound.bounded, ?_, ?_, ?_, ?_⟩
  · rw [List.length_set]
    exact sound.width
  · rw [List.length_set]
    exact sound.small
  · intro here occupant occupies
    rcases occupies_insert occupies with ⟨rfl, rfl⟩ | ⟨_, old⟩
    · exact ⟨known, Nat.lt_succ_self _⟩
    · obtain ⟨current, below⟩ := sound.current here occupant old
      exact ⟨current, Nat.lt_succ_of_lt below⟩
  · intro here there first second occupies occupies' same
    rcases occupies_insert occupies with ⟨rfl, rfl⟩ | ⟨_, old⟩
    · rcases occupies_insert occupies' with ⟨rfl, rfl⟩ | ⟨_, old⟩
      · rfl
      · exact absurd same (Nat.ne_of_gt (sound.current there second old).2)
    · rcases occupies_insert occupies' with ⟨rfl, rfl⟩ | ⟨_, old'⟩
      · exact absurd same (Nat.ne_of_lt (sound.current here first old).2)
      · exact sound.distinct here there first second old old' same
  · intro entry member
    rcases List.mem_cons.mp member with rfl | member
    · refine ⟨Nat.lt_succ_self _, index, _, _, rfl, known, Nat.le_refl _, fun _ =>
        ⟨⟨table.generations.getD index 0, table.stored, value⟩, List.getElem?_set_self inside, rfl⟩⟩
    · obtain ⟨below, here, generation, current, same, found, older, live⟩ := sound.issued entry member
      refine ⟨Nat.lt_succ_of_lt below, here, generation, current, same, found, older, fun equal => ?_⟩
      obtain ⟨occupant, occupies, identity⟩ := live equal
      refine ⟨occupant, ?_, identity⟩
      have different : index ≠ here := by
        rintro rfl
        exact vacant occupant occupies
      exact (List.getElem?_set_ne different).trans occupies
  · intro identity member
    obtain ⟨below, absent⟩ := sound.released identity member
    refine ⟨Nat.lt_succ_of_lt below, fun here occupant occupies => ?_⟩
    rcases occupies_insert occupies with ⟨rfl, rfl⟩ | ⟨_, old⟩
    · exact Nat.ne_of_gt below
    · exact absent here occupant old

end Insert

section Release
variable {table : SlotTable A} {index : Nat} {occupant : Occupant A}

theorem occupies_release (occupies : (table.release index).Occupies here occupant) :
    here ≠ index ∧ table.Occupies here occupant := by
  simp only [Occupies, release, List.getElem?_set] at occupies
  split at occupies
  · split at occupies <;> cases occupies
  · rename_i other
    exact ⟨fun same => other same.symm, occupies⟩

theorem Sound.release (sound : table.Sound issued) (occupied : table.Occupies index occupant)
    (few : ∀ count ∈ (table.release index).releases, count < 2 ^ 32 - 1) : (table.release index).Sound issued := by
  obtain ⟨inside, _⟩ := List.getElem?_eq_some_iff.mp occupied
  have advanced : table.generations.modify index advance = (table.releases.modify index (· + 1)).map (· + 1) := by
    apply List.ext_getElem?
    intro here
    have bound := fun count (member : (table.releases.modify index (· + 1))[here]? = some count) =>
      few count (List.mem_of_getElem? member)
    rw [List.getElem?_modify, List.getElem?_map, List.getElem?_modify, sound.counted, List.getElem?_map]
    rw [List.getElem?_modify] at bound
    cases known : table.releases[here]? with
    | none => rfl
    | some count =>
        rw [known] at bound
        simp only [Option.map_some, Option.some.injEq, Option.map_eq_map] at bound ⊢
        split
        · rename_i same
          have below := bound (count + 1) (by rw [if_pos same])
          rw [advance, Nat.mod_eq_of_lt (by omega), if_neg (by omega)]
        · rfl
  refine ⟨?_, ?_, advanced, few, ?_, ?_, ?_, ?_⟩
  · change (table.generations.modify index advance).length = (table.slots.set index none).length
    rw [List.length_modify, List.length_set]
    exact sound.width
  · change (table.slots.set index none).length < 2 ^ 32
    rw [List.length_set]
    exact sound.small
  · intro here other occupies
    obtain ⟨different, old⟩ := occupies_release occupies
    obtain ⟨current, below⟩ := sound.current here other old
    refine ⟨?_, below⟩
    change (table.generations.modify index advance)[here]? = _
    rw [List.getElem?_modify_ne _ _ (Ne.symm different)]
    exact current
  · intro here there first second occupies occupies' same
    exact sound.distinct here there first second (occupies_release occupies).2 (occupies_release occupies').2 same
  · intro entry member
    obtain ⟨below, here, generation, current, same, found, older, live⟩ := sound.issued entry member
    by_cases released : here = index
    · subst released
      have next : (table.generations.modify here advance)[here]? = some (current + 1) := by
        rw [advanced, List.getElem?_map, List.getElem?_modify_eq]
        rw [sound.counted, List.getElem?_map] at found
        obtain ⟨count, known, rfl⟩ := Option.map_eq_some_iff.mp found
        rw [known]
        rfl
      exact ⟨below, here, generation, current + 1, same, next, Nat.le_succ_of_le older, fun equal => by omega⟩
    · refine ⟨below, here, generation, current, same, ?_, older, fun equal => ?_⟩
      · change (table.generations.modify index advance)[here]? = _
        rw [List.getElem?_modify_ne _ _ (Ne.symm released)]
        exact found
      · obtain ⟨other, occupies, identity⟩ := live equal
        exact ⟨other, (List.getElem?_set_ne (Ne.symm released)).trans occupies, identity⟩
  · intro identity member
    rcases List.mem_append.mp member with old | new
    · obtain ⟨below, absent⟩ := sound.released identity old
      exact ⟨below, fun here other occupies => absent here other (occupies_release occupies).2⟩
    · have here : table.slots[index]?.join = some occupant := Option.join_eq_some_iff.mpr occupied
      rw [here] at new
      obtain rfl := List.mem_singleton.mp new
      refine ⟨(sound.current index occupant occupied).2, fun there other occupies same => ?_⟩
      obtain ⟨different, old⟩ := occupies_release occupies
      exact different (sound.distinct there index other occupant old occupied same)

end Release

section Modify
variable {table : SlotTable A} {index : Nat} {change : A → A}

/-- A changed object keeps its slot, its generation and its number. -/
theorem occupies_modify {occupant : Occupant A}
    (occupies : (table.modify index change).Occupies here occupant) : ∃ other, table.Occupies here other ∧
      occupant.generation = other.generation ∧ occupant.identity = other.identity ∧
      occupant.value = if index = here then change other.value else other.value := by
  simp only [Occupies, modify, List.getElem?_modify] at occupies
  obtain ⟨slot, known, changed⟩ := Option.map_eq_some_iff.mp occupies
  split at changed
  · rename_i same
    obtain ⟨other, rfl, rfl⟩ := Option.map_eq_some_iff.mp changed
    exact ⟨other, known, rfl, rfl, (if_pos same).symm⟩
  · rename_i different
    obtain rfl : slot = some occupant := changed
    exact ⟨occupant, known, rfl, rfl, (if_neg different).symm⟩

theorem Sound.modify (sound : table.Sound issued) : (table.modify index change).Sound issued := by
  have length : (table.modify index change).slots.length = table.slots.length := List.length_modify _ _ _
  refine ⟨length ▸ sound.width, length ▸ sound.small, sound.counted, sound.bounded, ?_, ?_, ?_, ?_⟩
  · intro here occupant occupies
    obtain ⟨other, old, generation, identity, _⟩ := occupies_modify occupies
    rw [generation, identity]
    exact sound.current here other old
  · intro here there first second occupies occupies' same
    obtain ⟨old, occupied, _, identity, _⟩ := occupies_modify occupies
    obtain ⟨old', occupied', _, identity', _⟩ := occupies_modify occupies'
    exact sound.distinct here there old old' occupied occupied' (identity.symm.trans (same.trans identity'))
  · intro entry member
    obtain ⟨below, here, generation, current, same, found, older, live⟩ := sound.issued entry member
    refine ⟨below, here, generation, current, same, found, older, fun equal => ?_⟩
    obtain ⟨occupant, occupies, identity⟩ := live equal
    by_cases changed : index = here
    · subst changed
      refine ⟨{ occupant with value := change occupant.value }, ?_, identity⟩
      rw [Occupies, SlotTable.modify, List.getElem?_modify_eq, occupies]
      rfl
    · exact ⟨occupant, (List.getElem?_modify_ne _ _ changed).trans occupies, identity⟩
  · intro identity member
    obtain ⟨below, absent⟩ := sound.released identity member
    refine ⟨below, fun here occupant occupies => ?_⟩
    obtain ⟨other, old, _, same, _⟩ := occupies_modify occupies
    rw [same]
    exact absent here other old

end Modify

section Clear
variable {table : SlotTable A}

/-- Only an empty table does not change when it is cleared. -/
theorem clear_of_isEmpty (vacant : table.isEmpty = true) : table.clear = table := by
  have none (slot : Option (Occupant A)) (member : slot ∈ table.slots) : slot = Option.none :=
    Option.isNone_iff_eq_none.mp (List.all_eq_true.mp vacant slot member)
  have slots : (table.slots.map fun _ => Option.none) = table.slots := by
    conv_rhs => rw [← List.map_id table.slots]
    apply List.map_congr_left
    intro slot member
    exact (none slot member).symm
  have gone : table.slots.filterMap (fun slot => slot.map (·.identity)) = [] := by
    rw [List.filterMap_eq_nil_iff]
    intro slot member
    rw [none slot member]
    rfl
  rw [clear, slots, gone, List.append_nil]

end Clear

section Effects

/-- What a step does to a table. Every stored object fits, a changed object still fits, and only some steps clear. -/
inductive Effect (fits : A → Prop) (clears : Prop) (table : SlotTable A) : Option Nat → SlotTable A → Prop
  | same : Effect fits clears table none table
  | insert {value : A} {handle : Nat} {later : SlotTable A} (inserted : table.insert value = some (handle, later))
      (fit : fits value) : Effect fits clears table (some handle) later
  | release (index : Nat) (occupant : Occupant A) (occupied : table.Occupies index occupant) :
      Effect fits clears table none (table.release index)
  | modify (index : Nat) (change : A → A) (keeps : ∀ occupant, table.Occupies index occupant → fits occupant.value →
      fits (change occupant.value)) : Effect fits clears table none (table.modify index change)
  | clear (cleared : clears) : Effect fits clears table none table.clear

/-- Every object in the table fits. -/
def AllFit (fits : A → Prop) (table : SlotTable A) : Prop :=
  ∀ index occupant, table.Occupies index occupant → fits occupant.value

variable {fits : A → Prop} {clears : Prop} {table later : SlotTable A} {made : Option Nat}

/-- A step that clears nothing is also a step of a call that may clear. -/
theorem Effect.weaken (effect : Effect fits False table made later) : Effect fits clears table made later := by
  cases effect with
  | same => exact .same
  | insert inserted fit => exact .insert inserted fit
  | release index occupant occupied => exact .release index occupant occupied
  | modify index change keeps => exact .modify index change keeps
  | clear cleared => exact cleared.elim

theorem not_occupies_clear {index : Nat} {occupant : Occupant A} : ¬table.clear.Occupies index occupant := by
  intro occupies
  obtain ⟨_, _, absent⟩ := List.mem_map.mp (List.mem_of_getElem? occupies)
  cases absent

theorem Effect.allFit (effect : Effect fits clears table made later) (fit : table.AllFit fits) : later.AllFit fits := by
  intro index occupant occupies
  cases effect with
  | same => exact fit index occupant occupies
  | insert inserted fitting =>
      obtain ⟨_, _, _, rfl⟩ := insert_eq_some inserted
      rcases occupies_insert occupies with ⟨_, rfl⟩ | ⟨_, old⟩
      · exact fitting
      · exact fit index occupant old
  | release released => exact fit index occupant (occupies_release occupies).2
  | modify changed change keeps =>
      obtain ⟨other, old, _, _, value⟩ := occupies_modify occupies
      rw [value]
      split
      · rename_i same
        subst same
        exact keeps other old (fit changed other old)
      · exact fit index other old
  | clear => exact absurd occupies not_occupies_clear

/-- A step keeps the issued handles sound when it clears no object and no slot has been released too often. -/
theorem Effect.sound (effect : Effect fits clears table made later) (sound : table.Sound issued)
    (few : ∀ count ∈ later.releases, count < 2 ^ 32 - 1) (vacant : clears → table.isEmpty = true) :
    later.Sound ((made.map fun handle => (handle, table.stored)).toList ++ issued) := by
  cases effect with
  | same => exact sound
  | insert inserted => exact sound.insert inserted
  | release index occupant occupied => exact sound.release occupied few
  | modify => exact sound.modify
  | clear cleared =>
      rw [clear_of_isEmpty (vacant cleared)]
      exact sound

end Effects

end SlotTable

end OpenVehicle.Data
