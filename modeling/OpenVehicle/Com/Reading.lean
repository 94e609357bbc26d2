/-
This file decides when a decoder of one type reads the encoding of another type. A reader and a writer
may differ in the optional members of their structs.
-/

import OpenVehicle.Com.Wire

namespace OpenVehicle.Com

open Codec (Byte littleEndian littleEndianValue length_littleEndian littleEndianValue_littleEndian)
open Data (Value)
open Data.Value (toBits ofBits InRange toBits_lt ofBits_toBits)
open Tagged (Framing Reader readRecord readRecord_fields)

mutual

/-- This predicate states that a value belongs to the generated type. -/
def HasType : Ty → Value → Prop
  | .integer signed size, .integer value => InRange signed size value
  | .bool, .boolean _ => True
  | .float, .float _ => True
  | .double, .double _ => True
  | .bytes, .bytes _ => True
  | .string, .bytes _ => True
  | .boundedString capacity, .bytes content => content.length ≤ capacity
  | .boundedVector element capacity, .sequence values =>
      values.length ≤ capacity ∧ ∀ value ∈ values, HasType element value
  | .array element capacity, .sequence values =>
      values.length = capacity ∧ ∀ value ∈ values, HasType element value
  | .vector element, .sequence values => ∀ value ∈ values, HasType element value
  | .optional content, .optional value => ∀ inner ∈ value, HasType content inner
  | .struct members, value =>
      value = .record (members.map fun member => (member.1, value.member member.1)) ∧
        HasMembers members value
  | _, _ => False

/-- Only an optional member may be absent. -/
def HasMembers : List (UInt32 × Bool × Ty) → Value → Prop
  | [], _ => True
  | (tag, required, ty) :: members, value =>
      (match value.member tag with
        | some content => HasType ty content
        | none => required = false) ∧ HasMembers members value

end

mutual

/-- The reader and the writer agree on the members they share, and the others are optional for the
reader. -/
def Reads : Ty → Ty → Prop
  | .integer signed size, .integer sign width => signed = sign ∧ size = width
  | .bool, .bool => True
  | .float, .float => True
  | .double, .double => True
  | .bytes, .bytes => True
  | .string, .string => True
  | .boundedString capacity, .boundedString bound => capacity = bound
  | .boundedVector element capacity, .boundedVector other bound => capacity = bound ∧ Reads element other
  | .array element capacity, .array other bound => capacity = bound ∧ Reads element other
  | .vector element, .vector other => Reads element other
  | .optional content, .optional other => Reads content other
  | .struct members, .struct others =>
      (members.map Prod.fst).Nodup ∧ (others.map Prod.fst).Nodup ∧ ReadsMembers members others
  | _, _ => False

def ReadsMembers : List (UInt32 × Bool × Ty) → List (UInt32 × Bool × Ty) → Prop
  | [], _ => True
  | (tag, required, ty) :: members, others =>
      (match others.find? (·.1 = tag) with
        | some (_, presence, other) => required = presence ∧ Reads ty other
        | none => required = false) ∧ ReadsMembers members others

end

mutual

/-- The view of a value at a type keeps the members of the type, at every depth. A member that the
value does not have is absent. -/
def project : Ty → Value → Value
  | .boundedVector element _, .sequence values => .sequence (values.map (project element))
  | .array element _, .sequence values => .sequence (values.map (project element))
  | .vector element, .sequence values => .sequence (values.map (project element))
  | .optional content, .optional value => .optional (value.map (project content))
  | .struct members, value => .record (projectMembers members value)
  | _, value => value

def projectMembers : List (UInt32 × Bool × Ty) → Value → List (UInt32 × Option Value)
  | [], _ => []
  | (tag, _, ty) :: members, value =>
      (tag, (value.member tag).map (project ty)) :: projectMembers members value

end

/-- The length of a bounded string or vector must fit its prefix. -/
def Fits : Ty → Value → Prop
  | .boundedString _, .bytes content => content.length ≤ UInt32.size - 1
  | .boundedVector _ _, .sequence values => values.length ≤ UInt32.size - 1
  | .optional content, .optional value => ∀ inner ∈ value, Fits content inner
  | _, _ => True

variable {members others : List Member} {value : Value}

section Members

theorem hasMembers_iff : HasMembers members value ↔ ∀ member ∈ members,
    match value.member member.1 with
    | some content => HasType member.2.2 content
    | none => member.2.1 = false := by
  induction members with
  | nil => simp [HasMembers]
  | cons member members ih => rw [HasMembers, ih, List.forall_mem_cons]

theorem readsMembers_iff : ReadsMembers members others ↔ ∀ member ∈ members,
    match others.find? (·.1 = member.1) with
    | some other => member.2.1 = other.2.1 ∧ Reads member.2.2 other.2.2
    | none => member.2.1 = false := by
  induction members with
  | nil => simp [ReadsMembers]
  | cons member members ih =>
      rw [ReadsMembers, ih, List.forall_mem_cons]
      cases others.find? (·.1 = member.1) <;> rfl

theorem projectMembers_eq_map : projectMembers members value =
    members.map fun member => (member.1, (value.member member.1).map (project member.2.2)) := by
  induction members with
  | nil => rfl
  | cons member members ih => rw [projectMembers, ih, List.map_cons]

theorem initialMembers_eq_map : initialMembers members = members.map fun member =>
    (member.1, if member.2.1 then some (initial member.2.2) else none) := by
  induction members with
  | nil => rfl
  | cons member members ih => rw [initialMembers, ih, List.map_cons]

theorem readers_eq_map : readers members = members.map fun member =>
    ⟨member.1, member.2.1, fun current payload => (decodeExactly (decode member.2.2)
      (if member.2.1 then current.getD (initial member.2.2) else initial member.2.2)
      payload).mapError some⟩ := by
  induction members with
  | nil => rfl
  | cons member members ih => rw [readers, ih, List.map_cons]

variable {member : Member}

theorem member_initial (distinct : (members.map Prod.fst).Nodup)
    (listed : member ∈ members) : (initial (.struct members)).member member.1 =
      if member.2.1 then some (initial member.2.2) else none := by
  rw [initial, initialMembers_eq_map]
  exact @Value.member_record _ (member.1, _) (by rw [List.map_map]; exact distinct)
    (List.mem_map.mpr ⟨member, listed, rfl⟩)

theorem project_member (distinct : (members.map Prod.fst).Nodup) (listed : member ∈ members) :
    (project (.struct members) value).member member.1 = (value.member member.1).map (project member.2.2) := by
  rw [project, projectMembers_eq_map]
  exact @Value.member_record _ (member.1, _) (by rw [List.map_map]; exact distinct)
    (List.mem_map.mpr ⟨member, listed, rfl⟩)

theorem find_member (distinct : (members.map Prod.fst).Nodup)
    (listed : member ∈ members) : members.find? (·.1 = member.1) = some member := by
  cases found : members.find? (·.1 = member.1) with
  | none => simpa using List.find?_eq_none.mp found member listed
  | some other =>
      have same : other.1 = member.1 := by simpa using List.find?_some found
      rw [List.inj_on_of_nodup_map distinct (List.mem_of_find?_eq_some found) listed same]

/-- A record has no other members than those of its type. -/
theorem listed_of_present {tag : UInt32} (typed : HasType (.struct members) value)
    (present : (value.member tag).isSome) : tag ∈ members.map Prod.fst := by
  rw [HasType] at typed
  rw [typed.1] at present
  change ((List.lookup tag _).join).isSome = true at present
  cases found : List.lookup tag (members.map fun member => (member.1, value.member member.1)) with
  | none =>
      rw [found] at present
      cases present
  | some content =>
      obtain ⟨before, after, same, _⟩ := List.lookup_eq_some_iff.mp found
      have inside : (tag, content) ∈ members.map fun member => (member.1, value.member member.1) := by
        rw [same]
        simp
      obtain ⟨member, listed, equal⟩ := List.mem_map.mp inside
      exact List.mem_map.mpr ⟨member, listed, congrArg Prod.fst equal⟩

end Members

section Pieces
variable {content rest : List Byte}

theorem unsignedInteger_littleEndian {size bits : Nat} (small : bits < 256 ^ size) :
    unsignedInteger size (littleEndian size bits ++ rest) = some (bits, rest) := by
  have width := length_littleEndian size bits
  rw [unsignedInteger, if_neg (by rw [List.length_append]; omega), List.take_left' width,
    List.drop_left' width, littleEndianValue_littleEndian size bits small]

theorem raw_append : raw content.length (content ++ rest) = some (content, rest) := by
  rw [raw, if_neg (by rw [List.length_append]; omega), List.take_left' rfl, List.drop_left' rfl]

theorem raw_all : raw content.length content = some (content, []) := by
  have whole := @raw_append content []
  rwa [List.append_nil] at whole

variable {length : Nat}

theorem small_length (small : length ≤ UInt32.size - 1) : length < 256 ^ 4 := by
  change length ≤ 2 ^ 32 - 1 at small
  omega

theorem lengthPrefix_small (small : length ≤ UInt32.size - 1) : lengthPrefix length = length := by
  change length ≤ 2 ^ 32 - 1 at small
  rw [lengthPrefix, UInt32.toNat_ofNat']
  omega

theorem lengthPrefix_lt (length : Nat) : lengthPrefix length < 256 ^ 4 := (UInt32.ofNat length).toNat_lt

theorem nextField_fieldFrame {field : UInt32 × List Byte} (nonzero : field.1 ≠ 0)
    (small : field.2.length ≤ UInt32.size - 1) :
    nextField (fieldFrame field ++ rest) = some (field.1, field.2, rest) := by
  have positive : field.1.toNat ≠ 0 := fun zero => nonzero (UInt32.toNat_inj.mp zero)
  rw [nextField, fieldFrame, List.append_assoc, unsignedInteger_littleEndian field.1.toNat_lt]
  simp only [Option.bind_eq_bind, Option.bind_some]
  rw [if_neg positive, List.append_assoc, unsignedInteger_littleEndian (small_length small)]
  simp only [Option.bind_some]
  rw [raw_append, Option.bind_some, UInt32.ofNat_toNat]

variable {value : Decode}

theorem decodeSequenceElement_frame {initial decoded : Value}
    (small : content.length ≤ UInt32.size - 1) (exact : value initial content = .ok (decoded, [])) :
    decodeSequenceElement value initial (elementFrame content ++ rest) = some (decoded, rest) := by
  rw [decodeSequenceElement, elementFrame, List.append_assoc, unsignedInteger_littleEndian (small_length small)]
  simp only [Option.bind_eq_bind, Option.bind_some]
  rw [raw_append, Option.bind_some, decodeExactly, exact]
  rfl

variable {decoded : List Value} {initial : Value}

theorem decodeElements_frames {chunks : List (List Byte)}
    (each : List.Forall₂ (fun decoded chunk => value initial chunk = .ok (decoded, []) ∧
      chunk.length ≤ UInt32.size - 1) decoded chunks) :
    decodeElements value initial decoded.length (chunks.flatMap elementFrame ++ rest) = some (decoded, rest) := by
  induction each with
  | nil => rfl
  | cons head _ ih =>
      rw [List.length_cons, decodeElements, List.flatMap_cons, List.append_assoc,
        decodeSequenceElement_frame head.2 head.1]
      simp only [Option.bind_eq_bind, Option.bind_some]
      rw [ih, Option.bind_some]

theorem length_decodeElements {count : Nat} {input : List Byte}
    (read : decodeElements value initial count input = some (decoded, rest)) : decoded.length = count := by
  induction count generalizing input decoded rest with
  | zero =>
      cases read
      rfl
  | succ count ih =>
      obtain ⟨⟨first, middle⟩, _, read⟩ := Option.bind_eq_some_iff.mp read
      obtain ⟨⟨values, last⟩, read, same⟩ := Option.bind_eq_some_iff.mp read
      cases same
      rw [List.length_cons, ih read]

theorem length_frames (chunks : List (List Byte)) : chunks.length ≤ (chunks.flatMap elementFrame).length := by
  induction chunks with
  | nil => exact Nat.zero_le _
  | cons chunk chunks ih =>
      rw [List.flatMap_cons, List.length_append, elementFrame, List.length_append, length_littleEndian,
        List.length_cons]
      omega

end Pieces

section Struct
variable {fields : List (UInt32 × List Byte)}

/-- The fields are those of the members that are present. -/
theorem Fields.mem_iff (facts : Fields others value fields) (typed : HasType (.struct others) value) {tag : UInt32} :
    tag ∈ fields.map Prod.fst ↔ (value.member tag).isSome := by
  constructor
  · intro inside
    obtain ⟨field, listed, rfl⟩ := List.mem_map.mp inside
    obtain ⟨_, _, _, _, _, content, held, _⟩ := facts.printed field listed
    rw [held]
    rfl
  · intro present
    obtain ⟨other, known, rfl⟩ := List.mem_map.mp (listed_of_present typed present)
    exact facts.complete other known present

/-- Only an optional member is absent. -/
theorem optional_of_absent (reads : ReadsMembers members others) (typed : HasMembers others value)
    (mine : member ∈ members) (absent : value.member member.1 = none) : member.2.1 = false := by
  have matched := readsMembers_iff.mp reads member mine
  cases found : others.find? (·.1 = member.1) with
  | none =>
      rw [found] at matched
      exact matched
  | some other =>
      rw [found] at matched
      have tag : other.1 = member.1 := by simpa using List.find?_some found
      have proper := hasMembers_iff.mp typed other (List.mem_of_find?_eq_some found)
      rw [tag, absent] at proper
      exact matched.1.trans proper

/-- A struct is read when the contents of its members are. -/
theorem decode_struct (inner : ∀ member ∈ members, ∀ (other : Ty) content bytes, Reads member.2.2 other →
      HasType other content → Prints (encode other content) bytes → bytes.length ≤ UInt32.size - 1 →
      decode member.2.2 (initial member.2.2) bytes = .ok (project member.2.2 content, []))
    (reads : Reads (.struct members) (.struct others)) (typed : HasType (.struct others) value)
    (facts : Fields others value fields) :
    decode (.struct members) (initial (.struct members)) (fields.flatMap fieldFrame) =
      .ok (project (.struct members) value, []) := by
  rw [Reads] at reads
  obtain ⟨distinct, unique, reads⟩ := reads
  have agree := readsMembers_iff.mp reads
  have held : HasMembers others value := by
    rw [HasType] at typed
    exact typed.2
  have contents := hasMembers_iff.mp held
  have exact : ∀ field ∈ fields, ∀ rest,
      framing.next (fieldFrame field ++ rest) = some (field.1, field.2, rest) := by
    intro field listed rest
    obtain ⟨nonzero, small, _⟩ := facts.printed field listed
    exact nextField_fieldFrame nonzero small
  have decoded : ∀ field ∈ fields, ∀ reader, (readers members).find? (·.tag = field.1) = some reader →
      reader.decode ((initial (.struct members)).member field.1) field.2 =
        .ok (((project (.struct members) value).member field.1).getD value) := by
    intro field listed reader found
    obtain ⟨_, small, other, known, tag, content, held, printed⟩ := facts.printed field listed
    have same : reader.tag = field.1 := by simpa using List.find?_some found
    have inside := List.mem_of_find?_eq_some found
    rw [readers_eq_map] at inside
    obtain ⟨member, mine, rfl⟩ := List.mem_map.mp inside
    change member.1 = field.1 at same
    have matched := agree member mine
    rw [same, ← tag, find_member unique known] at matched
    have proper := contents other known
    rw [tag, held] at proper
    have read := inner member mine other.2.2 content field.2 matched.2 proper printed small
    rw [← same, project_member distinct mine, member_initial distinct mine, same, held, Option.map_some,
      Option.getD_some]
    cases member.2.1 with
    | false =>
        change (decodeExactly (decode member.2.2) (initial member.2.2) field.2).mapError some = _
        rw [decodeExactly, read]
        rfl
    | true =>
        change (decodeExactly (decode member.2.2) (initial member.2.2) field.2).mapError some = _
        rw [decodeExactly, read]
        rfl
  have present : ∀ reader ∈ readers members, reader.required = true →
      reader.tag ∈ fields.map Prod.fst := by
    intro reader inside needed
    rw [readers_eq_map] at inside
    obtain ⟨member, mine, rfl⟩ := List.mem_map.mp inside
    change member.2.1 = true at needed
    refine (facts.mem_iff typed).mpr (Option.isSome_iff_ne_none.mpr fun absent => ?_)
    rw [optional_of_absent reads held mine absent] at needed
    cases needed
  rw [decode, readRecord_fields fields _ (fun tag => ((project (.struct members) value).member tag).getD value) exact
    (unique.sublist facts.ordered) decoded present]
  dsimp only
  apply congrArg (fun result => Except.ok (Value.record result, []))
  rw [readers_eq_map, List.map_map, projectMembers_eq_map]
  apply List.map_congr_left
  intro member mine
  dsimp only [Function.comp_apply]
  rw [project_member distinct mine]
  congr 1
  have present := @Fields.mem_iff _ _ _ facts typed member.1
  cases content : value.member member.1 with
  | some content =>
      rw [if_pos (present.mpr (by rw [content]; rfl))]
      rfl
  | none =>
      rw [content] at present
      rw [if_neg fun inside => Bool.noConfusion (present.mp inside), member_initial distinct mine,
        optional_of_absent reads held mine content]
      rfl

end Struct

end OpenVehicle.Com
