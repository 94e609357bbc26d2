/-
This file compares the encodings of a type with the maximum size that the generated code states for it. An
encoding and the room that its value leaves add up to the maximum and the presence bytes of the value.
-/

import Mathlib.Algebra.Order.BigOperators.Group.List
import OpenVehicle.Com.Sizes

namespace OpenVehicle.Com

open Codec (Byte length_littleEndian)
open Data (Value)

mutual

/-- A struct counts a field for every member, and an optional counts its content. The elements of a type lie inside
its objects, so that the sizes stay in range. -/
def maximumEncodedSize : Ty → Option Nat
  | .integer _ size => some size
  | .bool => some 1
  | .float => some 4
  | .double => some 8
  | .bytes => none
  | .string => none
  | .boundedString capacity => some (4 + capacity)
  | .boundedVector element capacity => (maximumEncodedSize element).map fun size => 4 + capacity * (4 + size)
  | .array element capacity => (maximumEncodedSize element).map fun size => capacity * (4 + size)
  | .vector _ => none
  | .optional content => maximumEncodedSize content
  | .struct members => maximumMemberSizes members

def maximumMemberSizes : List (UInt32 × Bool × Ty) → Option Nat
  | [] => some 0
  | (_, _, ty) :: members => do
      let size ← maximumEncodedSize ty
      let rest ← maximumMemberSizes members
      some (8 + size + rest)

end

mutual

/-- A value that holds everything the type admits has this number of presence bytes. -/
def Ty.presences : Ty → Nat
  | .boundedVector element capacity => capacity * element.presences
  | .array element capacity => capacity * element.presences
  | .optional content => 1 + content.presences
  | .struct members => memberPresences members
  | _ => 0

def memberPresences : List (UInt32 × Bool × Ty) → Nat
  | [] => 0
  | (_, _, ty) :: members => ty.presences + memberPresences members

end

mutual

/-- Every optional of a value has a presence byte, whether it is absent or not. -/
def presenceBytes : Ty → Value → Nat
  | .boundedVector element _, .sequence values => (values.map (presenceBytes element)).sum
  | .array element _, .sequence values => (values.map (presenceBytes element)).sum
  | .optional _, .optional none => 1
  | .optional content, .optional (some value) => 1 + presenceBytes content value
  | .struct members, value => memberPresenceBytes members value
  | _, _ => 0

def memberPresenceBytes : List (UInt32 × Bool × Ty) → Value → Nat
  | [], _ => 0
  | (tag, _, ty) :: members, value =>
      (match value.member tag with
        | some content => presenceBytes ty content
        | none => 0) + memberPresenceBytes members value

end

mutual

/-- A short string, a short vector, an absent optional and an absent member leave room. -/
def unusedBytes : Ty → Value → Nat
  | .boundedString capacity, .bytes content => capacity - content.length
  | .boundedVector element capacity, .sequence values =>
      (capacity - values.length) * (4 + (maximumEncodedSize element).getD 0) +
        (values.map (unusedBytes element)).sum
  | .array element _, .sequence values => (values.map (unusedBytes element)).sum
  | .optional content, .optional none => (maximumEncodedSize content).getD 0
  | .optional content, .optional (some value) => unusedBytes content value
  | .struct members, value => memberUnusedBytes members value
  | _, _ => 0

def memberUnusedBytes : List (UInt32 × Bool × Ty) → Value → Nat
  | [], _ => 0
  | (tag, _, ty) :: members, value =>
      (match value.member tag with
        | some content => unusedBytes ty content
        | none => 8 + (maximumEncodedSize ty).getD 0) + memberUnusedBytes members value

end

/-- This value fits a frame of its own. -/
def Short (ty : Ty) (value : Value) : Prop :=
  (maximumEncodedSize ty).getD 0 + presenceBytes ty value ≤ unusedBytes ty value + (UInt32.size - 1)

mutual

/-- The elements of sequences and the present members fit their frames, and the tags are not zero. -/
def Framed : Ty → Value → Prop
  | .boundedVector element _, .sequence values => ∀ value ∈ values, Framed element value ∧ Short element value
  | .array element _, .sequence values => ∀ value ∈ values, Framed element value ∧ Short element value
  | .optional content, .optional value => ∀ inner ∈ value, Framed content inner
  | .struct members, value => FramedMembers members value
  | _, _ => True

def FramedMembers : List (UInt32 × Bool × Ty) → Value → Prop
  | [], _ => True
  | (tag, _, ty) :: members, value =>
      (∀ content ∈ value.member tag, tag ≠ 0 ∧ Framed ty content ∧ Short ty content) ∧
        FramedMembers members value

end

/-- The structs of a type have distinct tags that are not zero. -/
inductive Built : Ty → Prop
  | integer (signed : Bool) (size : Nat) : Built (.integer signed size)
  | bool : Built .bool
  | float : Built .float
  | double : Built .double
  | boundedString (capacity : Nat) : Built (.boundedString capacity)
  | boundedVector {element : Ty} (capacity : Nat) (inner : Built element) : Built (.boundedVector element capacity)
  | array {element : Ty} (capacity : Nat) (inner : Built element) : Built (.array element capacity)
  | optional {content : Ty} (inner : Built content) : Built (.optional content)
  | struct {members : List Member} (distinct : (members.map Prod.fst).Nodup)
      (nonzero : ∀ member ∈ members, member.1 ≠ 0) (inner : ∀ member ∈ members, Built member.2.2) :
      Built (.struct members)

variable {members : List Member} {values : List Value} {ty : Ty} {value : Value} {element : Ty} {size : Nat}

section Accounts
variable {bytes : List Byte}

theorem maximumMemberSizes_cons {member : Member} {total : Nat} :
    maximumMemberSizes (member :: members) = some total ↔ ∃ size rest,
      maximumEncodedSize member.2.2 = some size ∧ maximumMemberSizes members = some rest ∧ total = 8 + size + rest := by
  obtain ⟨tag, required, ty⟩ := member
  rw [maximumMemberSizes]
  exact frames_eq_some

theorem maximumMemberSizes_eq_sum {total : Nat} (bounded : maximumMemberSizes members = some total) :
    (∀ member ∈ members, ∃ size, maximumEncodedSize member.2.2 = some size) ∧
      (members.map fun member => 8 + (maximumEncodedSize member.2.2).getD 0).sum = total := by
  induction members generalizing total with
  | nil => exact ⟨fun _ listed => absurd listed List.not_mem_nil, Option.some.inj bounded⟩
  | cons member members ih =>
      obtain ⟨size, rest, found, later, rfl⟩ := maximumMemberSizes_cons.mp bounded
      obtain ⟨each, sum⟩ := ih later
      refine ⟨List.forall_mem_cons.mpr ⟨⟨size, found⟩, each⟩, ?_⟩
      rw [List.map_cons, List.sum_cons, sum, found, Option.getD_some]

/-- The elements of a sequence balance when each of them does. -/
theorem length_balanced {chunks : List (List Byte)}
    (each : ∀ value ∈ values, ∀ bytes, Prints (encode element value) bytes →
      bytes.length + unusedBytes element value = size + presenceBytes element value)
    (printed : Chunks element values chunks) :
    (chunks.flatMap elementFrame).length + (values.map (unusedBytes element)).sum =
      values.length * (4 + size) + (values.map (presenceBytes element)).sum := by
  induction printed with
  | nil => simp
  | @cons value chunk values chunks head _ ih =>
      have first := each value List.mem_cons_self chunk head.1
      have later := ih fun other listed => each other (List.mem_cons_of_mem value listed)
      rw [List.flatMap_cons, List.length_append, length_elementFrame, List.length_cons, Nat.succ_mul]
      simp only [List.map_cons, List.sum_cons]
      omega

theorem members_balanced (each : ∀ member ∈ members, ∀ content size front,
      maximumEncodedSize member.2.2 = some size → HasType member.2.2 content →
      Prints (encode member.2.2 content) front →
      front.length + unusedBytes member.2.2 content = size + presenceBytes member.2.2 content)
    {total : Nat} (bounded : maximumMemberSizes members = some total) (typed : HasMembers members value)
    (printed : Prints (encodeMembers members value) bytes) :
    bytes.length + memberUnusedBytes members value = total + memberPresenceBytes members value := by
  induction members generalizing bytes total with
  | nil =>
      cases bounded
      rw [printed.unique prints_nothing]
      rfl
  | cons member members ih =>
      obtain ⟨size, rest, found, later, rfl⟩ := maximumMemberSizes_cons.mp bounded
      obtain ⟨first, others⟩ := List.forall_mem_cons.mp (hasMembers_iff.mp typed)
      obtain ⟨tag, required, ty⟩ := member
      have tail {bytes : List Byte} := @ih bytes (fun other listed => each other (List.mem_cons_of_mem _ listed))
        _ later (hasMembers_iff.mpr others)
      rw [memberUnusedBytes, memberPresenceBytes]
      cases held : value.member tag with
      | none =>
          rw [show maximumEncodedSize ty = some size from found, Option.getD_some]
          dsimp only
          rw [Nat.add_left_comm, tail (bytes_of_absent held printed), Nat.zero_add, Nat.add_assoc (8 + size)]
      | some content =>
          obtain ⟨front, back, ⟨_, written, _⟩, remaining, rfl⟩ := bytes_of_present held printed
          rw [held] at first
          have := each _ List.mem_cons_self content size front found first written
          have := tail remaining
          rw [List.length_append, length_fieldFrame]
          dsimp only at *
          omega

/-- An encoding and the room its value leaves add up to the maximum and the presence bytes. -/
theorem encoding_balanced (bounded : maximumEncodedSize ty = some size) (typed : HasType ty value)
    (printed : Prints (encode ty value) bytes) :
    bytes.length + unusedBytes ty value = size + presenceBytes ty value := by
  induction ty using Ty.induction generalizing value bytes size with
  | integer | bool | float | double =>
      cases bounded
      rw [length_scalar rfl typed printed]
      cases value <;> rfl
  | bytes | string | vector => cases bounded
  | boundedString capacity =>
      cases bounded
      cases value with
      | bytes content =>
          have room : content.length ≤ capacity := typed
          rw [bytes_of_boundedString printed, List.length_append, length_littleEndian]
          change 4 + content.length + (capacity - content.length) = 4 + capacity + 0
          omega
      | _ => cases typed
  | boundedVector element capacity inner =>
      obtain ⟨size, found, rfl⟩ := Option.map_eq_some_iff.mp bounded
      cases value with
      | sequence values =>
          obtain ⟨room, each⟩ := typed
          obtain ⟨chunks, written, rfl⟩ := bytes_of_prefixed printed
          have balance := length_balanced (fun value listed bytes => inner found (each value listed)) written
          have slots :
              capacity * (4 + size) = (capacity - values.length) * (4 + size) + values.length * (4 + size) := by
            rw [← Nat.add_mul, Nat.sub_add_cancel room]
          rw [List.length_append, length_littleEndian, unusedBytes, presenceBytes, found, Option.getD_some]
          omega
      | _ => cases typed
  | array element capacity inner =>
      obtain ⟨size, found, rfl⟩ := Option.map_eq_some_iff.mp bounded
      cases value with
      | sequence values =>
          obtain ⟨rfl, each⟩ := typed
          obtain ⟨chunks, written, rfl⟩ := bytes_of_elements printed
          exact length_balanced (fun value listed bytes => inner found (each value listed)) written
      | _ => cases typed
  | optional content inner =>
      cases value with
      | optional value =>
          cases value with
          | none =>
              rw [printed.unique (prints_integer 1 0), length_littleEndian, unusedBytes, presenceBytes]
              rw [show maximumEncodedSize content = some size from bounded]
              exact Nat.add_comm 1 size
          | some value =>
              obtain ⟨bytes, written, rfl⟩ := bytes_of_optional printed
              have := inner bounded (typed value rfl) written
              rw [List.length_append, length_littleEndian, unusedBytes, presenceBytes]
              omega
      | _ => cases typed
  | struct members inner =>
      exact members_balanced (fun member listed content size front found typed written =>
        inner member listed found typed written) bounded typed.2 printed

end Accounts

/-- A value has an encoding that fits a frame when its parts fit theirs and it is short itself. -/
theorem exists_short (bounded : maximumEncodedSize ty = some size) (typed : HasType ty value)
    (inner : (∃ bytes, Prints (encode ty value) bytes) ↔ Framed ty value) :
    (∃ bytes, Prints (encode ty value) bytes ∧ bytes.length ≤ UInt32.size - 1) ↔ Framed ty value ∧ Short ty value := by
  have short : ∀ bytes, Prints (encode ty value) bytes → (bytes.length ≤ UInt32.size - 1 ↔ Short ty value) := by
    intro bytes printed
    have balance := encoding_balanced bounded typed printed
    rw [Short, bounded, Option.getD_some]
    omega
  constructor
  · rintro ⟨bytes, printed, small⟩
    exact ⟨inner.mp ⟨bytes, printed⟩, (short bytes printed).mp small⟩
  · rintro ⟨framed, less⟩
    obtain ⟨bytes, printed⟩ := inner.mpr framed
    exact ⟨bytes, printed, (short bytes printed).mpr less⟩

theorem prints_after_iff {inner : Encode} (uniform : Uniform inner) (width bits : Nat) :
    (∃ bytes, Prints (fun out => inner (out.unsignedInteger width bits)) bytes) ↔ ∃ bytes, Prints inner bytes := by
  constructor
  · rintro ⟨bytes, printed⟩
    rcases uniform with failed | written
    · exact absurd ((prints_integer width bits).bind_fails failed) printed.not_fails
    · exact written
  · rintro ⟨bytes, printed⟩
    exact ⟨_, prints_after printed width bits⟩

theorem prints_elements_iff : (∃ bytes, Prints (encodeElements (encode element) values) bytes) ↔
      ∀ value ∈ values, ∃ chunk, Prints (encode element value) chunk ∧ chunk.length ≤ UInt32.size - 1 := by
  constructor
  · rintro ⟨bytes, printed⟩
    obtain ⟨chunks, each, rfl⟩ := bytes_of_elements printed
    clear printed
    induction each with
    | nil => exact fun value listed => absurd listed List.not_mem_nil
    | cons head _ ih => exact List.forall_mem_cons.mpr ⟨⟨_, head⟩, ih⟩
  · intro each
    induction values with
    | nil => exact ⟨[], prints_nothing⟩
    | cons value values ih =>
        obtain ⟨⟨chunk, printed, small⟩, others⟩ := List.forall_mem_cons.mp each
        obtain ⟨bytes, remaining⟩ := ih others
        exact ⟨_, (prints_encodeSequenceElement printed small).bind remaining⟩

theorem prints_members_iff (each : ∀ member ∈ members, ∀ content ∈ value.member member.1,
      ((∃ front, Prints (encode member.2.2 content) front ∧ front.length ≤ UInt32.size - 1) ↔
        Framed member.2.2 content ∧ Short member.2.2 content)) (typed : HasMembers members value) :
    (∃ bytes, Prints (encodeMembers members value) bytes) ↔ FramedMembers members value := by
  induction members with
  | nil => exact iff_of_true ⟨[], prints_nothing⟩ trivial
  | cons member members ih =>
      obtain ⟨known, others⟩ := List.forall_mem_cons.mp each
      obtain ⟨tag, required, ty⟩ := member
      obtain ⟨first, later⟩ := typed
      rw [FramedMembers, ← ih others later]
      cases held : value.member tag with
      | none =>
          rw [held] at first
          rw [encodeMembers_absent held first, and_iff_right]
          intro content same
          cases same
      | some content =>
          have known := known content held
          constructor
          · rintro ⟨bytes, printed⟩
            obtain ⟨front, back, ⟨nonzero, written, small⟩, remaining, _⟩ := bytes_of_present held printed
            refine ⟨fun other same => ?_, back, remaining⟩
            cases same
            exact ⟨nonzero, known.mp ⟨front, written, small⟩⟩
          · rintro ⟨each, back, remaining⟩
            obtain ⟨nonzero, framed⟩ := each content rfl
            obtain ⟨front, written, small⟩ := known.mpr framed
            rw [encodeMembers_present held]
            exact ⟨_, (prints_encodeField written nonzero small).bind remaining⟩

/-- A value of a bounded type has an encoding exactly when its parts fit their frames. -/
theorem prints_iff_framed (bounded : maximumEncodedSize ty = some size) (typed : HasType ty value) :
    (∃ bytes, Prints (encode ty value) bytes) ↔ Framed ty value := by
  induction ty using Ty.induction generalizing value size with
  | integer | bool | float | double =>
      obtain ⟨_, printed⟩ := prints_scalar rfl typed
      exact iff_of_true ⟨_, printed⟩ (by cases value <;> trivial)
  | bytes | string | vector => cases bounded
  | boundedString capacity =>
      cases value with
      | bytes content => exact iff_of_true ⟨_, prints_prefixed _ _⟩ trivial
      | _ => cases typed
  | boundedVector element capacity inner =>
      obtain ⟨size, found, rfl⟩ := Option.map_eq_some_iff.mp bounded
      cases value with
      | sequence values =>
          refine (prints_after_iff (uniform_encodeElements (uniform_encode element)) 4 _).trans ?_
          exact prints_elements_iff.trans <| forall₂_congr fun value listed =>
            exists_short found (typed.2 value listed) (inner found (typed.2 value listed))
      | _ => cases typed
  | array element capacity inner =>
      obtain ⟨size, found, rfl⟩ := Option.map_eq_some_iff.mp bounded
      cases value with
      | sequence values =>
          exact prints_elements_iff.trans <| forall₂_congr fun value listed =>
            exists_short found (typed.2 value listed) (inner found (typed.2 value listed))
      | _ => cases typed
  | optional content inner =>
      cases value with
      | optional value =>
          cases value with
          | none => exact iff_of_true ⟨_, prints_integer 1 0⟩ fun _ absent => absurd absent (Option.not_mem_none _)
          | some value =>
              refine (prints_after_iff (uniform_encode content value) 1 1).trans ?_
              rw [inner bounded (typed value rfl), Framed]
              constructor
              · intro framed other same
                cases same
                exact framed
              · exact fun each => each value rfl
      | _ => cases typed
  | struct members inner =>
      refine prints_members_iff (fun member listed content held => ?_) typed.2
      obtain ⟨size, found⟩ := (maximumMemberSizes_eq_sum bounded).1 member listed
      have known := hasMembers_iff.mp typed.2 member listed
      rw [Option.mem_def.mp held] at known
      exact exists_short found known (inner member listed found known)

theorem memberPresences_eq_sum : memberPresences members = (members.map fun member => member.2.2.presences).sum := by
  induction members with
  | nil => rfl
  | cons member members ih => rw [memberPresences, ih, List.map_cons, List.sum_cons]

theorem presences_le_capacity {capacity : Nat}
    (each : ∀ value ∈ values, presenceBytes element value ≤ element.presences) (room : values.length ≤ capacity) :
    (values.map (presenceBytes element)).sum ≤ capacity * element.presences := by
  have below := List.sum_le_card_nsmul (values.map (presenceBytes element)) element.presences fun count listed => by
    obtain ⟨value, known, rfl⟩ := List.mem_map.mp listed
    exact each value known
  rw [List.length_map, nsmul_eq_mul, Nat.cast_id] at below
  exact below.trans (Nat.mul_le_mul_right _ room)

/-- No value has more presence bytes than its type admits. -/
theorem presenceBytes_le (typed : HasType ty value) : presenceBytes ty value ≤ ty.presences := by
  induction ty using Ty.induction generalizing value with
  | boundedVector element capacity inner =>
      cases value with
      | sequence values => exact presences_le_capacity (fun value listed => inner (typed.2 value listed)) typed.1
      | _ => cases typed
  | array element capacity inner =>
      cases value with
      | sequence values => exact presences_le_capacity (fun value listed => inner (typed.2 value listed)) typed.1.le
      | _ => cases typed
  | optional content inner =>
      cases value with
      | optional value =>
          cases value with
          | none => exact Nat.le_add_right 1 _
          | some value => exact Nat.add_le_add_left (inner (typed value rfl)) 1
      | _ => cases typed
  | struct members inner =>
      have contents : HasMembers members value := typed.2
      change memberPresenceBytes members value ≤ memberPresences members
      clear typed
      induction members with
      | nil => exact Nat.le_refl 0
      | cons member members ih =>
          obtain ⟨tag, required, ty⟩ := member
          obtain ⟨first, others⟩ := contents
          have later := ih (fun other listed => inner other (List.mem_cons_of_mem _ listed)) others
          refine Nat.add_le_add ?_ later
          cases held : value.member tag with
          | none => exact Nat.zero_le _
          | some content =>
              rw [held] at first
              exact inner _ List.mem_cons_self first
  | _ =>
      cases value with
      | _ => exact Nat.le_refl 0

/-- A sequence of short elements fills its frames. -/
theorem exists_elements {size presences : Nat} (count : Nat)
    (small : count * (4 + size) + count * presences ≤ UInt32.size - 1)
    (inner : size + presences ≤ UInt32.size - 1 → ∃ value bytes, HasType element value ∧
      Prints (encode element value) bytes ∧ bytes.length = size + presences) :
    ∃ values bytes, values.length = count ∧ (∀ value ∈ values, HasType element value) ∧
      Prints (encodeElements (encode element) values) bytes ∧
      bytes.length = count * (4 + size) + count * presences := by
  rcases Nat.eq_zero_or_pos count with rfl | positive
  · exact ⟨[], [], rfl, fun _ listed => absurd listed List.not_mem_nil, prints_nothing, by simp⟩
  · rw [← Nat.mul_add] at small ⊢
    have frame := (Nat.le_mul_of_pos_left (4 + size + presences) positive).trans small
    have fits : size + presences ≤ UInt32.size - 1 := by omega
    obtain ⟨value, bytes, typed, printed, length⟩ := inner fits
    obtain ⟨all, written, total⟩ := prints_replicate printed (length ▸ fits) count
    refine ⟨List.replicate count value, all, List.length_replicate, fun other listed => ?_, written, ?_⟩
    · rw [List.eq_of_mem_replicate listed]
      exact typed
    · rw [total, length, Nat.add_assoc]

/-- A type whose largest encoding fits a frame has a value with everything it admits. -/
theorem exists_full (built : Built ty) (bounded : maximumEncodedSize ty = some size)
    (small : size + ty.presences ≤ UInt32.size - 1) :
    ∃ value bytes, HasType ty value ∧ Prints (encode ty value) bytes ∧ bytes.length = size + ty.presences := by
  induction built generalizing size with
  | integer | bool | float | double =>
      cases bounded
      exact exists_scalar rfl
  | boundedString capacity =>
      cases bounded
      exact exists_boundedString capacity
  | @boundedVector element capacity _ inner =>
      obtain ⟨size, found, rfl⟩ := Option.map_eq_some_iff.mp bounded
      rw [Ty.presences] at small ⊢
      obtain ⟨values, bytes, length, typed, printed, total⟩ := exists_elements capacity (by omega) (inner found)
      refine ⟨.sequence values, _, ⟨length.le, typed⟩, prints_after printed 4 _, ?_⟩
      rw [List.length_append, length_littleEndian, total, Nat.add_assoc]
  | @array element capacity _ inner =>
      obtain ⟨size, found, rfl⟩ := Option.map_eq_some_iff.mp bounded
      obtain ⟨values, bytes, length, typed, printed, total⟩ := exists_elements capacity small (inner found)
      exact ⟨.sequence values, bytes, ⟨length, typed⟩, printed, total⟩
  | @optional content _ inner =>
      rw [Ty.presences] at small ⊢
      obtain ⟨value, bytes, typed, printed, length⟩ := inner bounded (by omega)
      refine ⟨.optional (some value), _, ?_, prints_after printed 1 1, ?_⟩
      · intro other same
        cases same
        exact typed
      · rw [List.length_append, length_littleEndian, length]
        omega
  | @struct members distinct nonzero _ inner =>
      obtain ⟨sized, total⟩ := maximumMemberSizes_eq_sum bounded
      rw [Ty.presences, memberPresences_eq_sum, ← total, ← List.sum_map_add] at small ⊢
      simp only [Nat.add_assoc] at small ⊢
      refine exists_struct distinct nonzero fun member listed => ?_
      obtain ⟨size, found⟩ := sized member listed
      have part := List.single_le_sum (fun _ _ => Nat.zero_le _) _ (List.mem_map_of_mem
        (f := fun member : Member => 8 + ((maximumEncodedSize member.2.2).getD 0 + member.2.2.presences)) listed)
      have fits : size + member.2.2.presences ≤ UInt32.size - 1 := by
        rw [found, Option.getD_some] at part
        omega
      rw [found, Option.getD_some]
      exact ⟨fits, inner member listed found fits⟩

/-- The maximum bounds the encoding of a value exactly when its presence bytes fit the room it leaves, or when a
part does not fit its frame. Over all values of a type it is a bound when the type holds no optional, and for a
type whose largest encoding fits a frame only then. -/
theorem maximum_encoded_size {ty : Ty} {maximum : Nat} (bounded : maximumEncodedSize ty = some maximum) :
    (∀ value, HasType ty value →
      (encodedSize ty value ≤ maximum ↔ (Framed ty value → presenceBytes ty value ≤ unusedBytes ty value))) ∧
    (ty.presences = 0 → ∀ value, HasType ty value → encodedSize ty value ≤ maximum) ∧
    (Built ty → maximum + ty.presences ≤ UInt32.size - 1 →
      (∀ value, HasType ty value → encodedSize ty value ≤ maximum) → ty.presences = 0) := by
  have exact : ∀ value, HasType ty value →
      (encodedSize ty value ≤ maximum ↔ (Framed ty value → presenceBytes ty value ≤ unusedBytes ty value)) := by
    intro value typed
    rw [← prints_iff_framed bounded typed]
    rcases encodedSize_cases ty value with empty | ⟨bytes, printed, size⟩
    · refine iff_of_true (empty ▸ Nat.zero_le _) ?_
      rintro ⟨bytes, printed⟩
      have balance := encoding_balanced bounded typed printed
      rw [encodedSize_eq printed] at empty
      omega
    · have balance := encoding_balanced bounded typed printed
      rw [size, forall_prop_of_true ⟨bytes, printed⟩]
      omega
  refine ⟨exact, fun bare value typed => ?_, fun built small bound => ?_⟩
  · refine (exact value typed).mpr fun _ => ?_
    have absent : presenceBytes ty value ≤ 0 := bare ▸ presenceBytes_le typed
    exact absent.trans (Nat.zero_le _)
  · obtain ⟨value, bytes, typed, printed, length⟩ := exists_full built bounded small
    have below := bound value typed
    rw [encodedSize_eq printed, length] at below
    omega

/-- A vector that is not full has room for the presence byte of its element. -/
theorem maximum_encoded_size_short :
    encodedSize (.boundedVector (.optional (.integer false 1)) 2) (.sequence [.optional (some (.integer 7))]) ≤ 14 := by
  refine ((maximum_encoded_size rfl).1 _ ?_).mpr fun _ => by decide
  refine ⟨by decide, fun value listed => ?_⟩
  obtain rfl := List.mem_singleton.mp listed
  intro content same
  cases same
  exact ⟨by decide, by decide⟩

/-- The presence byte of a present optional is not counted. -/
theorem presence_exceeds : ∃ ty maximum value, maximumEncodedSize ty = some maximum ∧ HasType ty value ∧
    ¬encodedSize ty value ≤ maximum := by
  refine ⟨.optional (.integer false 1), 1, .optional (some (.integer 7)), rfl, fun content same => ?_,
    by decide +kernel⟩
  cases same
  exact ⟨by decide, by decide⟩

end OpenVehicle.Com
