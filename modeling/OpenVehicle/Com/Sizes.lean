/-
This file compares the encodings of a generated type with the size that the deployment tool computes for it.
-/

import OpenVehicle.Com.Evolution
import OpenVehicle.Com.Service

namespace OpenVehicle.Com

open Codec (Byte littleEndian length_littleEndian)
open Data (Value)

variable {members : List Member} {element : Ty} {capacity size : Nat} {member : Member}

section Sizes

mutual

/-- The size of a type counts the fields of a struct but no frame of an element. A type without a bound has
no size. -/
def maximumSize : Ty → Option Nat
  | .integer _ size => some size
  | .bool => some 1
  | .float => some 4
  | .double => some 8
  | .bytes => none
  | .string => none
  | .boundedString capacity => some (4 + capacity)
  | .boundedVector element capacity => (maximumSize element).map fun size => size * capacity + 4
  | .array element capacity => (maximumSize element).map fun size => size * capacity
  | .vector _ => none
  | .optional content => (maximumSize content).map fun size => 1 + size
  | .struct members => memberSizes members

def memberSizes : List (UInt32 × Bool × Ty) → Option Nat
  | [] => some 0
  | (_, _, ty) :: members => do
      let size ← maximumSize ty
      let rest ← memberSizes members
      some (8 + size + rest)

end

/-- An element of this type can fill its frame. -/
def Ty.fillsFrame (element : Ty) : Bool := (maximumSize element).any (· < UInt32.size + 3)

mutual

/-- The type holds a sequence whose frames are not counted. -/
def Ty.exceeds : Ty → Bool
  | .boundedVector element capacity => 0 < capacity && element.fillsFrame
  | .array element capacity => 0 < capacity && element.fillsFrame
  | .optional content => content.exceeds
  | .struct members => membersExceed members
  | _ => false

def membersExceed : List (UInt32 × Bool × Ty) → Bool
  | [] => false
  | (_, _, ty) :: members => ty.exceeds || membersExceed members

end

variable {total : Nat}

/-- The size of a member and the sizes of the rest add up. -/
theorem frames_eq_some {first others : Option Nat} : (do return 8 + (← first) + (← others)) = some total ↔
      ∃ size rest, first = some size ∧ others = some rest ∧ total = 8 + size + rest := by
  cases first <;> cases others <;> simp [eq_comm]

theorem memberSizes_cons :
    memberSizes (member :: members) = some total ↔ ∃ size rest, maximumSize member.2.2 = some size ∧
      memberSizes members = some rest ∧ total = 8 + size + rest := by
  obtain ⟨tag, required, ty⟩ := member
  rw [memberSizes]
  exact frames_eq_some

theorem memberSizes_mem (bounded : memberSizes members = some total)
    (listed : member ∈ members) : ∃ size, maximumSize member.2.2 = some size ∧ 8 + size ≤ total := by
  induction members generalizing total with
  | nil => cases listed
  | cons first members ih =>
      obtain ⟨size, rest, found, later, rfl⟩ := memberSizes_cons.mp bounded
      rcases List.mem_cons.mp listed with rfl | listed
      · exact ⟨size, found, Nat.le_add_right _ rest⟩
      · obtain ⟨inner, known, less⟩ := ih later listed
        exact ⟨inner, known, by omega⟩

theorem membersExceed_eq_false : membersExceed members = false ↔ ∀ member ∈ members, member.2.2.exceeds = false := by
  induction members with
  | nil => simp [membersExceed]
  | cons member members ih =>
      rw [membersExceed, Bool.or_eq_false_iff, ih, List.forall_mem_cons]

/-- A sequence whose frames are counted is empty, or its elements cannot fill their frames. -/
theorem long_elements (found : maximumSize element = some size)
    (counted : (decide (0 < capacity) && element.fillsFrame) = false) : capacity = 0 ∨ UInt32.size + 3 ≤ size := by
  rw [Ty.fillsFrame, found, Option.any_some, Bool.and_eq_false_iff] at counted
  rcases counted with empty | long
  · have := of_decide_eq_false empty
    omega
  · have := of_decide_eq_false long
    omega

end Sizes

variable {value : Value} {bytes : List Byte} {size : Nat} {ty : Ty}

/-- The size of an encoding is the number of printed bytes. -/
theorem encodedSize_eq (printed : Prints (encode ty value) bytes) : encodedSize ty value = bytes.length := by
  have run := printed Encoder.counter rfl
  have valid : (Encoder.counter.raw bytes).valid = true := rfl
  simp only [encodedSize, run, valid, if_true, Encoder.size_raw_counter]

/-- A value that has no encoding has the size zero. -/
theorem encodedSize_cases (ty : Ty) (value : Value) : encodedSize ty value = 0 ∨
    ∃ bytes, Prints (encode ty value) bytes ∧ encodedSize ty value = bytes.length := by
  rcases uniform_encode ty value with failed | ⟨bytes, printed⟩
  · obtain ⟨left, failed⟩ := failed Encoder.counter rfl
    exact .inl (by simp only [encodedSize, failed])
  · exact .inr ⟨bytes, printed, encodedSize_eq printed⟩

theorem length_elementFrame (chunk : List Byte) : (elementFrame chunk).length = 4 + chunk.length := by
  rw [elementFrame, List.length_append, length_littleEndian]

theorem length_fieldFrame (tag : UInt32) (payload : List Byte) :
    (fieldFrame (tag, payload)).length = 8 + payload.length := by
  rw [fieldFrame, List.length_append, List.length_append, length_littleEndian, length_littleEndian, ← Nat.add_assoc]

/-- The frames of short elements are shorter than the size of an element that cannot fill its frame. -/
theorem length_chunks {values : List Value} {chunks : List (List Byte)}
    (long : UInt32.size + 3 ≤ size) (each : Chunks element values chunks) :
    (chunks.flatMap elementFrame).length ≤ size * values.length := by
  induction each with
  | nil => exact Nat.zero_le _
  | @cons value chunk values chunks head _ ih =>
      have small : chunk.length ≤ UInt32.size - 1 := head.2
      have frame := length_elementFrame chunk
      rw [List.flatMap_cons, List.length_append, List.length_cons, Nat.mul_succ]
      have positive : 0 < UInt32.size := by decide
      omega

/-- An absent member prints nothing. -/
theorem bytes_of_absent (absent : value.member member.1 = none)
    (printed : Prints (encodeMembers (member :: members) value) bytes) :
    Prints (encodeMembers members value) bytes := by
  obtain ⟨tag, required, ty⟩ := member
  intro out buffer
  have run := printed out buffer
  rw [encodeMembers, absent] at run
  dsimp only at run
  split at run
  · cases run
  · exact run

/-- A present member prints its field. -/
theorem bytes_of_present {content : Value} (held : value.member member.1 = some content)
    (printed : Prints (encodeMembers (member :: members) value) bytes) :
    ∃ front back, (member.1 ≠ 0 ∧ Prints (encode member.2.2 content) front ∧ front.length ≤ UInt32.size - 1) ∧
      Prints (encodeMembers members value) back ∧ bytes = fieldFrame (member.1, front) ++ back := by
  rw [encodeMembers_present held] at printed
  rcases encodeField_cases (uniform_encode member.2.2 content) with failed | ⟨front, written, nonzero, small, framed⟩
  · exact absurd failed.bind printed.not_fails
  · rcases uniform_encode (.struct members) value with failed | ⟨back, rest⟩
    · exact absurd (framed.bind_fails failed) printed.not_fails
    · exact ⟨front, back, ⟨nonzero, written, small⟩, rest, printed.unique (framed.bind rest)⟩

theorem length_members (each : ∀ member ∈ members, ∀ content size front, maximumSize member.2.2 = some size →
      HasType member.2.2 content → Prints (encode member.2.2 content) front → front.length ≤ size)
    {total : Nat} (bounded : memberSizes members = some total) (typed : HasMembers members value)
    (printed : Prints (encodeMembers members value) bytes) : bytes.length ≤ total := by
  induction members generalizing bytes total with
  | nil =>
      rw [printed.unique prints_nothing]
      exact Nat.zero_le _
  | cons member members ih =>
      obtain ⟨size, rest, found, later, rfl⟩ := memberSizes_cons.mp bounded
      obtain ⟨first, others⟩ := List.forall_mem_cons.mp (hasMembers_iff.mp typed)
      have below := fun other listed => each other (List.mem_cons_of_mem member listed)
      have tail {bytes : List Byte} := @ih bytes below _ later (hasMembers_iff.mpr others)
      cases held : value.member member.1 with
      | none =>
          have := tail (bytes_of_absent held printed)
          omega
      | some content =>
          obtain ⟨front, back, ⟨_, written, _⟩, remaining, rfl⟩ := bytes_of_present held printed
          rw [held] at first
          have := each member List.mem_cons_self content size front found first written
          have := tail remaining
          rw [List.length_append, length_fieldFrame]
          omega

/-- The width of a type whose values are integers on the wire. -/
def Ty.width : Ty → Option Nat
  | .integer _ size => some size
  | .bool => some 1
  | .float => some 4
  | .double => some 8
  | _ => none

theorem prints_scalar {width : Nat} (scalar : ty.width = some width) (typed : HasType ty value) :
    ∃ bits, Prints (encode ty value) (littleEndian width bits) := by
  cases ty <;> cases scalar <;> cases value <;> first | exact typed.elim | exact ⟨_, prints_integer _ _⟩

theorem length_scalar {width : Nat} (scalar : ty.width = some width) (typed : HasType ty value)
    (printed : Prints (encode ty value) bytes) : bytes.length = width := by
  obtain ⟨bits, written⟩ := prints_scalar scalar typed
  rw [printed.unique written, length_littleEndian]

theorem exists_scalar {width : Nat} (scalar : ty.width = some width) :
    ∃ value bytes, HasType ty value ∧ Prints (encode ty value) bytes ∧ bytes.length = width := by
  have typed : ∃ value, HasType ty value := by
    cases ty with
    | integer signed size =>
        refine ⟨.integer 0, ?_⟩
        have positive : (0 : Int) < 256 ^ size := Int.pow_pos (by decide)
        change if signed then _ else _
        split <;> omega
    | bool => exact ⟨.boolean false, trivial⟩
    | float => exact ⟨.float 0, trivial⟩
    | double => exact ⟨.double 0, trivial⟩
    | _ => cases scalar
  obtain ⟨value, typed⟩ := typed
  obtain ⟨bits, printed⟩ := prints_scalar scalar typed
  exact ⟨value, _, typed, printed, length_littleEndian width bits⟩

/-- A bounded string of the largest length fills its size. -/
theorem exists_boundedString (capacity : Nat) : ∃ value bytes, HasType (.boundedString capacity) value ∧
    Prints (encode (.boundedString capacity) value) bytes ∧ bytes.length = 4 + capacity := by
  refine ⟨.bytes (List.replicate capacity 0), _, ?_, prints_prefixed _ _, ?_⟩
  · change (List.replicate capacity _).length ≤ capacity
    rw [List.length_replicate]
  · rw [List.length_append, length_littleEndian, List.length_replicate]

/-- An encoding fits the size of its type when the type has no frames that are not counted. -/
theorem length_le_maximumSize (counted : ty.exceeds = false)
    (bounded : maximumSize ty = some size) (typed : HasType ty value) (printed : Prints (encode ty value) bytes) :
    bytes.length ≤ size := by
  induction ty using Ty.induction generalizing value bytes size with
  | integer | bool | float | double =>
      cases bounded
      exact (length_scalar rfl typed printed).le
  | bytes | string | vector => cases bounded
  | boundedString capacity =>
      cases bounded
      cases value with
      | bytes content =>
          have room : content.length ≤ capacity := typed
          rw [bytes_of_boundedString printed, List.length_append, length_littleEndian]
          omega
      | _ => cases typed
  | boundedVector element capacity _ =>
      obtain ⟨inner, found, rfl⟩ := Option.map_eq_some_iff.mp bounded
      cases value with
      | sequence values =>
          obtain ⟨room, _⟩ := typed
          obtain ⟨chunks, each, rfl⟩ := bytes_of_prefixed printed
          rw [List.length_append, length_littleEndian]
          rcases long_elements found counted with rfl | long
          · obtain rfl := List.length_eq_zero_iff.mp (Nat.le_zero.mp room)
            cases each
            exact Nat.le_add_left 4 _
          · have := length_chunks long each
            have := Nat.mul_le_mul_left inner room
            omega
      | _ => cases typed
  | array element capacity _ =>
      obtain ⟨inner, found, rfl⟩ := Option.map_eq_some_iff.mp bounded
      cases value with
      | sequence values =>
          obtain ⟨rfl, _⟩ := typed
          obtain ⟨chunks, each, rfl⟩ := bytes_of_elements printed
          rcases long_elements found counted with empty | long
          · obtain rfl := List.length_eq_zero_iff.mp empty
            cases each
            exact Nat.zero_le _
          · exact length_chunks long each
      | _ => cases typed
  | optional content inner =>
      obtain ⟨rest, found, rfl⟩ := Option.map_eq_some_iff.mp bounded
      cases value with
      | optional value =>
          cases value with
          | none =>
              rw [printed.unique (prints_integer 1 0), length_littleEndian]
              exact Nat.le_add_right 1 rest
          | some value =>
              obtain ⟨bytes, written, rfl⟩ := bytes_of_optional printed
              have := inner counted found (typed value rfl) written
              rw [List.length_append, length_littleEndian]
              omega
      | _ => cases typed
  | struct members inner =>
      refine length_members (fun member listed content size front found typed written => ?_) bounded typed.2 printed
      exact inner member listed (membersExceed_eq_false.mp counted member listed) found typed written

section Maximal
variable {lengths : Member → Nat}

/-- A record that holds all its members prints a field for each of them. -/
theorem prints_members (nonzero : ∀ member ∈ members, member.1 ≠ 0)
    (each : ∀ member ∈ members, lengths member ≤ UInt32.size - 1 ∧ ∃ content front,
      value.member member.1 = some content ∧ Prints (encode member.2.2 content) front ∧ front.length = lengths member) :
    ∃ bytes, Prints (encodeMembers members value) bytes ∧
      bytes.length = (members.map fun member => 8 + lengths member).sum := by
  induction members with
  | nil => exact ⟨[], prints_nothing, rfl⟩
  | cons member members ih =>
      obtain ⟨small, content, front, held, written, filled⟩ := each _ List.mem_cons_self
      obtain ⟨back, remaining, length⟩ := ih (fun other listed => nonzero other (List.mem_cons_of_mem _ listed))
        (fun other listed => each other (List.mem_cons_of_mem _ listed))
      have framed := prints_encodeField written (nonzero _ List.mem_cons_self) (filled ▸ small)
      refine ⟨fieldFrame (member.1, front) ++ back, ?_, ?_⟩
      · rw [encodeMembers_present held]
        exact framed.bind remaining
      · rw [List.length_append, length_fieldFrame, length, List.map_cons, List.sum_cons, filled]

/-- A struct has a value that holds contents of given lengths in all its members. -/
theorem exists_struct (distinct : (members.map Prod.fst).Nodup) (nonzero : ∀ member ∈ members, member.1 ≠ 0)
    (each : ∀ member ∈ members, lengths member ≤ UInt32.size - 1 ∧ ∃ content front, HasType member.2.2 content ∧
      Prints (encode member.2.2 content) front ∧ front.length = lengths member) :
    ∃ value bytes, HasType (.struct members) value ∧ Prints (encode (.struct members) value) bytes ∧
      bytes.length = (members.map fun member => 8 + lengths member).sum := by
  have inhabited : Nonempty Value := ⟨.boolean false⟩
  choose! small content front typed written filled using each
  have tags : ((members.map fun member => (member.1, some (content member))).map Prod.fst).Nodup := by
    rw [List.map_map]
    exact distinct
  have held : ∀ member ∈ members,
      (Value.record (members.map fun member => (member.1, some (content member)))).member member.1 =
        some (content member) := by
    intro member listed
    exact Value.member_record tags (List.mem_map_of_mem listed)
  obtain ⟨bytes, printed, length⟩ := prints_members nonzero fun member listed =>
    ⟨small member listed, content member, front member, held member listed, written member listed, filled member listed⟩
  refine ⟨_, bytes, ⟨?_, hasMembers_iff.mpr fun member listed => ?_⟩, printed, length⟩
  · refine congrArg Value.record (List.map_congr_left fun member listed => ?_)
    rw [held member listed]
  · rw [held member listed]
    exact typed member listed

theorem memberSizes_eq_sum {total : Nat} (bounded : memberSizes members = some total) :
    (members.map fun member => 8 + (maximumSize member.2.2).getD 0).sum = total := by
  induction members generalizing total with
  | nil => exact Option.some.inj bounded
  | cons member members ih =>
      obtain ⟨size, rest, found, later, rfl⟩ := memberSizes_cons.mp bounded
      rw [List.map_cons, List.sum_cons, ih later, found, Option.getD_some]

/-- A short sequence whose frames are counted is empty. -/
theorem empty_sequence (found : maximumSize element = some size)
    (counted : (decide (0 < capacity) && element.fillsFrame) = false) (small : size * capacity ≤ UInt32.size - 1) :
    capacity = 0 := by
  rcases long_elements found counted with empty | long
  · exact empty
  · by_contra positive
    have := Nat.le_mul_of_pos_right size (Nat.pos_of_ne_zero positive)
    omega

/-- A short type whose frames are counted has a value that fills its size. -/
theorem exists_maximal (generated : Contract.Generated ty) (counted : ty.exceeds = false)
    (bounded : maximumSize ty = some size) (small : size ≤ UInt32.size - 1) :
    ∃ value bytes, HasType ty value ∧ Prints (encode ty value) bytes ∧ bytes.length = size := by
  induction generated generalizing size with
  | integer | bool | float | double =>
      cases bounded
      exact exists_scalar rfl
  | bytes | string | vector => cases bounded
  | boundedString capacity =>
      cases bounded
      exact exists_boundedString capacity
  | @boundedVector element capacity _ _ =>
      obtain ⟨inner, found, rfl⟩ := Option.map_eq_some_iff.mp bounded
      obtain rfl := empty_sequence found counted (by omega)
      refine ⟨.sequence [], _, ⟨Nat.le_refl 0, ?_⟩, prints_after prints_nothing 4 0, ?_⟩
      · intro value listed
        cases listed
      · rw [List.append_nil, length_littleEndian, Nat.mul_zero]
  | @array element capacity _ _ =>
      obtain ⟨inner, found, rfl⟩ := Option.map_eq_some_iff.mp bounded
      obtain rfl := empty_sequence found counted small
      refine ⟨.sequence [], _, ⟨rfl, ?_⟩, prints_nothing, ?_⟩
      · intro value listed
        cases listed
      · rw [Nat.mul_zero, List.length_nil]
  | @struct members distinct nonzero _ inner =>
      rw [← memberSizes_eq_sum bounded]
      refine exists_struct distinct nonzero fun member listed => ?_
      obtain ⟨size, found, less⟩ := memberSizes_mem bounded listed
      rw [found, Option.getD_some]
      have covered := membersExceed_eq_false.mp counted member listed
      exact ⟨by omega, inner member listed covered found (by omega)⟩

/-- The frames of equal elements are added to the elements. -/
theorem prints_replicate
    (printed : Prints (encode element value) bytes) (small : bytes.length ≤ UInt32.size - 1) (count : Nat) :
    ∃ all, Prints (encodeElements (encode element) (List.replicate count value)) all ∧
      all.length = count * (4 + bytes.length) := by
  induction count with
  | zero => exact ⟨[], prints_nothing, (Nat.zero_mul _).symm⟩
  | succ count ih =>
      obtain ⟨all, written, length⟩ := ih
      refine ⟨elementFrame bytes ++ all, (prints_encodeSequenceElement printed small).bind written, ?_⟩
      rw [List.length_append, length_elementFrame, length, Nat.succ_mul, Nat.add_comm]

/-- A nonempty sequence of short elements has an encoding that is longer than its size. -/
theorem exists_longer (generated : Contract.Generated element) (counted : element.exceeds = false)
    (found : maximumSize element = some size) (small : size ≤ UInt32.size - 1) (count : Nat) (positive : 0 < count) :
    ∃ values all, values.length = count ∧ (∀ value ∈ values, HasType element value) ∧
      Prints (encodeElements (encode element) values) all ∧ size * count < all.length := by
  obtain ⟨value, bytes, typed, printed, rfl⟩ := exists_maximal generated counted found small
  obtain ⟨all, written, length⟩ := prints_replicate printed small count
  refine ⟨List.replicate count value, all, List.length_replicate, ?_, written, ?_⟩
  · intro other listed
    rw [List.eq_of_mem_replicate listed]
    exact typed
  · rw [length, Nat.mul_add, Nat.mul_comm bytes.length]
    omega

end Maximal

end OpenVehicle.Com
