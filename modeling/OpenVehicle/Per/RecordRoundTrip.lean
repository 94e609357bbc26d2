/-
This file proves that the generated codec of persistent records inverts itself within its size limits.
-/

import OpenVehicle.Per.Record

namespace OpenVehicle.Per.Record

open Codec (Byte bigEndian bigEndianValue length_bigEndian bigEndianValue_bigEndian)
open Data (Value)
open Data.Value (toBits ofBits InRange toBits_lt ofBits_toBits)
open Tagged (Framing Reader readRecord readRecord_fields)

mutual

/-- This predicate states that a value belongs to the generated type of a shape. -/
def HasType : Shape → Value → Prop
  | .integer signed size, .integer value => InRange signed size value
  | .float, .float _ => True
  | .double, .double _ => True
  | .string capacity, .bytes text => text.length ≤ capacity
  | .struct members, value =>
      value = .record (members.map fun member => (member.1, value.member member.1)) ∧
        HasMembers members value
  | _, _ => False

/-- Only an optional member may be absent. -/
def HasMembers : List (UInt32 × Bool × Shape) → Value → Prop
  | [], _ => True
  | (tag, required, shape) :: members, value =>
      (match value.member tag with
        | some content => HasType shape content
        | none => required = false) ∧ HasMembers members value

end

mutual

/-- The tags of a struct are unique, at every depth. -/
def UniqueTags : Shape → Prop
  | .struct members => (members.map Prod.fst).Nodup ∧ UniqueMemberTags members
  | _ => True

def UniqueMemberTags : List (UInt32 × Bool × Shape) → Prop
  | [] => True
  | (_, _, shape) :: members => UniqueTags shape ∧ UniqueMemberTags members

end

/-- A field is its tag, the length of its payload and the payload. -/
def frame (field : UInt32 × List Byte) : List Byte :=
  bigEndian 4 field.1.toNat ++ (bigEndian 4 field.2.length ++ field.2)

mutual

/-- The payload of a value has no limit. -/
def payload : Shape → Value → List Byte
  | .integer _ size, .integer value => bigEndian size (toBits size value)
  | .float, .float bits => bigEndian 4 bits.toNat
  | .double, .double bits => bigEndian 8 bits.toNat
  | .string _, .bytes text => text
  | .struct members, value => (fields members value).flatMap frame
  | _, _ => []

def fields : List (UInt32 × Bool × Shape) → Value → List (UInt32 × List Byte)
  | [], _ => []
  | (tag, _, shape) :: members, value =>
      (match value.member tag with
        | some content => [(tag, payload shape content)]
        | none => []) ++ fields members value

end

mutual

/-- The length of every field is a 32-bit number, at every depth. -/
def FieldsFit : Shape → Value → Prop
  | .integer _ _, _ => True
  | .float, _ => True
  | .double, _ => True
  | .string _, _ => True
  | .struct members, value => MembersFit members value

def MembersFit : List (UInt32 × Bool × Shape) → Value → Prop
  | [], _ => True
  | (tag, _, shape) :: members, value =>
      (match value.member tag with
        | some content => (payload shape content).length ≤ UInt32.size - 1 ∧ FieldsFit shape content
        | none => True) ∧ MembersFit members value

end

variable {members : List Member} {value : Value} {field : UInt32 × List Byte} {member : Member}

theorem hasMembers_iff : HasMembers members value ↔ ∀ member ∈ members,
    match value.member member.1 with
    | some content => HasType member.2.2 content
    | none => member.2.1 = false := by
  induction members with
  | nil => simp [HasMembers]
  | cons member members ih => rw [HasMembers, ih, List.forall_mem_cons]

theorem uniqueMemberTags_iff : UniqueMemberTags members ↔ ∀ member ∈ members, UniqueTags member.2.2 := by
  induction members with
  | nil => simp [UniqueMemberTags]
  | cons member members ih => rw [UniqueMemberTags, ih, List.forall_mem_cons]

theorem membersFit_iff : MembersFit members value ↔ ∀ member ∈ members, ∀ content ∈ value.member member.1,
    (payload member.2.2 content).length ≤ UInt32.size - 1 ∧ FieldsFit member.2.2 content := by
  induction members with
  | nil => simp [MembersFit]
  | cons member members ih =>
      rw [MembersFit, ih, List.forall_mem_cons]
      cases value.member member.1 <;> simp

theorem readers_eq_map : readers members = members.map fun member =>
    ⟨member.1, member.2.1, fun current input =>
      if member.2.1 then (decode member.2.2 (current.getD (initial member.2.2)) input).mapError some
      else (decode member.2.2 (initial member.2.2) input).mapError fun _ => current⟩ := by
  induction members with
  | nil => rfl
  | cons member members ih => rw [readers, ih, List.map_cons]

theorem mem_fields : field ∈ fields members value ↔
    ∃ member ∈ members, ∃ content ∈ value.member member.1, field = (member.1, payload member.2.2 content) := by
  induction members with
  | nil => simp [fields]
  | cons member members ih =>
      rw [fields, List.mem_append, ih, List.exists_mem_cons_iff]
      cases value.member member.1 <;> simp

theorem fields_sublist : ((fields members value).map Prod.fst).Sublist (members.map Prod.fst) := by
  induction members with
  | nil => exact List.Sublist.refl []
  | cons member members ih =>
      rw [fields, List.map_append, List.map_cons]
      cases value.member member.1 with
      | none => exact ih.cons member.1
      | some content => exact ih.cons_cons member.1

theorem mem_tags (listed : member ∈ members) :
    member.1 ∈ (fields members value).map Prod.fst ↔ (value.member member.1).isSome := by
  rw [List.mem_map]
  constructor
  · rintro ⟨field, inside, same⟩
    obtain ⟨other, _, content, held, rfl⟩ := mem_fields.mp inside
    rw [← same, Option.mem_def.mp held]
    rfl
  · intro some
    obtain ⟨content, held⟩ := Option.isSome_iff_exists.mp some
    exact ⟨_, mem_fields.mpr ⟨member, listed, content, held, rfl⟩, rfl⟩

section Buffers
variable {output bytes : List Byte} {maximum : Nat}

theorem append_eq : append output bytes maximum =
    if output.length + bytes.length ≤ maximum then some (output ++ bytes) else none := by
  rw [append]
  by_cases fits : output.length + bytes.length ≤ maximum
  · rw [if_pos fits, if_neg (by omega)]
  · rw [if_neg fits, if_pos (by omega)]

variable {size bits : Nat}

theorem encodeScalar_eq : encodeScalar size bits output maximum =
    if output.length + size ≤ maximum then some (output ++ bigEndian size bits) else none := by
  rw [encodeScalar, append_eq, length_bigEndian]

theorem length_frame : (frame field).length = 8 + field.2.length := by
  rw [frame, List.length_append, List.length_append, length_bigEndian, length_bigEndian]
  omega

theorem appendField_eq {tag : UInt32} : appendField tag bytes output maximum =
    if bytes.length ≤ UInt32.size - 1 ∧ output.length + (8 + bytes.length) ≤ maximum then
      some (output ++ frame (tag, bytes)) else none := by
  rw [appendField]
  by_cases small : bytes.length ≤ UInt32.size - 1
  · by_cases fits : output.length + (8 + bytes.length) ≤ maximum
    · rw [if_pos small, if_pos ⟨small, fits⟩]
      simp only [encodeScalar_eq, append_eq, Option.bind_eq_bind]
      rw [if_pos (by omega), Option.bind_some, List.length_append, length_bigEndian, if_pos (by omega),
        Option.bind_some, List.length_append, List.length_append, length_bigEndian, length_bigEndian,
        if_pos (by omega), frame, List.append_assoc, List.append_assoc]
    · rw [if_pos small, if_neg (fun both => fits both.2)]
      simp only [encodeScalar_eq, append_eq, Option.bind_eq_bind]
      by_cases first : output.length + 4 ≤ maximum
      · rw [if_pos first, Option.bind_some, List.length_append, length_bigEndian]
        by_cases second : output.length + 4 + 4 ≤ maximum
        · rw [if_pos second, Option.bind_some, List.length_append, List.length_append, length_bigEndian,
            length_bigEndian, if_neg (by omega)]
        · rw [if_neg second, Option.bind_none]
      · rw [if_neg first, Option.bind_none]
  · rw [if_neg small, if_neg (fun both => small both.1)]

theorem decodeScalar_bigEndian (small : bits < 256 ^ size) : decodeScalar size (bigEndian size bits) = some bits := by
  rw [decodeScalar, if_pos (length_bigEndian size bits), bigEndianValue_bigEndian size bits small]

theorem nextField_frame (small : field.2.length ≤ UInt32.size - 1)
    (rest : List Byte) : nextField (frame field ++ rest) = some (field.1, field.2, rest) := by
  have tagSmall : field.1.toNat < 256 ^ 4 := field.1.toNat_lt
  have sizeSmall : field.2.length < 256 ^ 4 := by
    change field.2.length ≤ 2 ^ 32 - 1 at small
    omega
  have width := length_bigEndian 4 field.1.toNat
  have room := length_bigEndian 4 field.2.length
  have front : frame field ++ rest =
      bigEndian 4 field.1.toNat ++ (bigEndian 4 field.2.length ++ (field.2 ++ rest)) := by
    rw [frame, List.append_assoc, List.append_assoc]
  have long : ¬(frame field ++ rest).length < 8 := by
    rw [List.length_append, length_frame]
    omega
  have tail : (frame field ++ rest).drop 8 = field.2 ++ rest := by
    rw [front, ← List.append_assoc]
    exact List.drop_left' (by rw [List.length_append, width, room])
  rw [nextField, if_neg long, tail]
  rw [front, List.take_left' width, List.drop_left' width, List.take_left' room,
    decodeScalar_bigEndian tagSmall, decodeScalar_bigEndian sizeSmall]
  simp only [Option.bind_eq_bind, Option.bind_some]
  rw [if_neg (by rw [List.length_append]; omega), List.take_left' rfl, List.drop_left' rfl,
    UInt32.ofNat_toNat]

end Buffers

section Encoding
variable {maximum : Nat}

/-- This predicate states that a result is the expected bytes under a condition, and a failure else. -/
def Guarded (condition : Prop) (result : Option (List Byte)) (bytes : List Byte) : Prop :=
  (result = some bytes ∧ condition) ∨ (result = none ∧ ¬condition)

/-- An encoding succeeds exactly when the fields fit and the output stays below the limit. -/
def Encodes (maximum : Nat) (shape : Shape) : Prop :=
  ∀ value output, HasType shape value → output.length ≤ maximum →
    Guarded (FieldsFit shape value ∧ output.length + (payload shape value).length ≤ maximum)
      (encode maximum shape value output) (output ++ payload shape value)

theorem guarded_append (output bytes : List Byte) :
    Guarded (output.length + bytes.length ≤ maximum) (append output bytes maximum) (output ++ bytes) := by
  rw [append_eq]
  by_cases fits : output.length + bytes.length ≤ maximum
  · exact .inl ⟨if_pos fits, fits⟩
  · exact .inr ⟨if_neg fits, fits⟩

theorem encodes_members (inner : ∀ member ∈ members, Encodes maximum member.2.2) (typed : HasMembers members value)
    (output : List Byte) (room : output.length ≤ maximum) :
    Guarded (MembersFit members value ∧ output.length + ((fields members value).flatMap frame).length ≤ maximum)
      (encodeMembers maximum members value output) (output ++ (fields members value).flatMap frame) := by
  induction members generalizing output with
  | nil =>
      refine .inl ⟨?_, trivial, by simpa [fields] using room⟩
      simp [encodeMembers, fields]
  | cons member members ih =>
      obtain ⟨tag, required, shape⟩ := member
      rw [HasMembers] at typed
      obtain ⟨head, typed⟩ := typed
      have later := ih (fun other listed => inner other (List.mem_cons_of_mem _ listed)) typed
      rw [encodeMembers, MembersFit, fields]
      cases held : value.member tag with
      | none =>
          rw [held] at head
          change required = false at head
          rw [head]
          simp only [Bool.false_eq_true, if_false, List.nil_append, true_and]
          exact later output room
      | some content =>
          rw [held] at head
          have first := inner _ List.mem_cons_self content [] head (Nat.zero_le _)
          simp only [List.nil_append, List.length_nil, zero_add] at first
          simp only [List.cons_append, List.nil_append, List.flatMap_cons, List.length_append, length_frame]
          rcases first with ⟨encoded, inside, short⟩ | ⟨refused, outside⟩
          · simp only [encoded, Option.bind_eq_bind, Option.bind_some, appendField_eq]
            by_cases fits : (payload shape content).length ≤ UInt32.size - 1 ∧
                output.length + (8 + (payload shape content).length) ≤ maximum
            · rw [if_pos fits, Option.bind_some]
              have rest := later (output ++ frame (tag, payload shape content))
                (by rw [List.length_append, length_frame]; exact fits.2)
              simp only [List.length_append, length_frame, List.append_assoc] at rest
              rcases rest with ⟨done, good, total⟩ | ⟨refused, bad⟩
              · exact .inl ⟨done, ⟨⟨fits.1, inside⟩, good⟩, by omega⟩
              · refine .inr ⟨refused, fun both => bad ⟨both.1.2, by omega⟩⟩
            · rw [if_neg fits, Option.bind_none]
              refine .inr ⟨rfl, fun both => fits ⟨both.1.1.1, by omega⟩⟩
          · simp only [refused, Option.bind_eq_bind, Option.bind_none]
            exact .inr ⟨rfl, fun both => outside ⟨both.1.1.2, by omega⟩⟩

theorem encodes (shape : Shape) : Encodes maximum shape := by
  induction shape using Shape.induction with
  | integer signed size =>
      intro value output typed room
      cases value with
      | integer number =>
          rw [encode, encodeScalar, payload, FieldsFit, true_and]
          exact guarded_append output _
      | _ => cases typed
  | float =>
      intro value output typed room
      cases value with
      | float bits =>
          rw [encode, encodeScalar, payload, FieldsFit, true_and]
          exact guarded_append output _
      | _ => cases typed
  | double =>
      intro value output typed room
      cases value with
      | double bits =>
          rw [encode, encodeScalar, payload, FieldsFit, true_and]
          exact guarded_append output _
      | _ => cases typed
  | string capacity =>
      intro value output typed room
      cases value with
      | bytes text =>
          rw [encode, payload, FieldsFit, true_and, if_pos (show text.length ≤ capacity from typed)]
          exact guarded_append output _
      | _ => cases typed
  | struct members inner =>
      intro value output typed room
      rw [encode, payload, FieldsFit]
      exact encodes_members inner typed.2 output room

end Encoding

theorem initialMembers_eq_map : initialMembers members = members.map fun member =>
    (member.1, if member.2.1 then some (initial member.2.2) else none) := by
  induction members with
  | nil => rfl
  | cons member members ih => rw [initialMembers, ih, List.map_cons]

theorem member_initial (distinct : (members.map Prod.fst).Nodup)
    (listed : member ∈ members) : (initial (.struct members)).member member.1 =
      if member.2.1 then some (initial member.2.2) else none := by
  rw [initial, initialMembers_eq_map]
  exact @Value.member_record _ (member.1, _) (by rw [List.map_map]; exact distinct)
    (List.mem_map.mpr ⟨member, listed, rfl⟩)

theorem present_required (typed : HasMembers members value) (listed : member ∈ members)
    (needed : member.2.1 = true) : (value.member member.1).isSome := by
  have typed := hasMembers_iff.mp typed member listed
  cases held : value.member member.1 with
  | some content => rfl
  | none =>
      rw [held] at typed
      exact absurd (typed.symm.trans needed) Bool.false_ne_true

/-- The decoder of a struct inverts its encoder when the decoders of the members do. -/
theorem decode_struct (inner : ∀ member ∈ members, ∀ content, HasType member.2.2 content → UniqueTags member.2.2 →
      FieldsFit member.2.2 content → decode member.2.2 (initial member.2.2) (payload member.2.2 content) = .ok content)
    (typed : HasType (.struct members) value) (unique : UniqueTags (.struct members))
    (fits : MembersFit members value) :
    decode (.struct members) (initial (.struct members)) ((fields members value).flatMap frame) = .ok value := by
  obtain ⟨complete, typed⟩ := typed
  obtain ⟨distinct, unique⟩ := unique
  have membersTyped := hasMembers_iff.mp typed
  have membersFit := membersFit_iff.mp fits
  have exact : ∀ field ∈ fields members value, ∀ rest,
      framing.next (frame field ++ rest) = some (field.1, field.2, rest) := by
    intro field listed rest
    obtain ⟨member, known, content, held, rfl⟩ := mem_fields.mp listed
    exact nextField_frame (membersFit member known content held).1 rest
  have decoded : ∀ field ∈ fields members value, ∀ reader,
      (readers members).find? (·.tag = field.1) = some reader →
      reader.decode ((initial (.struct members)).member field.1) field.2 =
        .ok ((value.member field.1).getD value) := by
    intro field listed reader found
    obtain ⟨member, known, content, held, rfl⟩ := mem_fields.mp listed
    have same : reader.tag = member.1 := by simpa using List.find?_some found
    have inside := List.mem_of_find?_eq_some found
    rw [readers_eq_map] at inside
    obtain ⟨other, listed, rfl⟩ := List.mem_map.mp inside
    obtain rfl := List.inj_on_of_nodup_map distinct listed known same
    have typed := membersTyped other known
    rw [Option.mem_def.mp held] at typed
    have content := inner other known content typed (uniqueMemberTags_iff.mp unique other known)
      (membersFit other known content held).2
    rw [Option.mem_def.mp held, Option.getD_some, member_initial distinct known]
    cases other.2.1 with
    | false =>
        change (decode other.2.2 (initial other.2.2) _).mapError (fun _ => none) = _
        rw [content]
        rfl
    | true =>
        change (decode other.2.2 (initial other.2.2) _).mapError some = _
        rw [content]
        rfl
  have present : ∀ reader ∈ readers members, reader.required = true →
      reader.tag ∈ (fields members value).map Prod.fst := by
    intro reader inside needed
    rw [readers_eq_map] at inside
    obtain ⟨member, known, rfl⟩ := List.mem_map.mp inside
    exact (mem_tags known).mpr (present_required typed known needed)
  rw [decode, readRecord_fields (fields members value) _ (fun tag => (value.member tag).getD value) exact
    (distinct.sublist fields_sublist) decoded present]
  dsimp only
  rw [readers_eq_map, List.map_map]
  conv_rhs => rw [complete]
  congr 2
  apply List.map_congr_left
  intro member known
  dsimp only [Function.comp_apply]
  congr 1
  cases held : value.member member.1 with
  | some content =>
      have listed := (mem_tags known).mpr (by rw [held]; rfl)
      rw [if_pos listed, Option.getD_some]
  | none =>
      have missing : member.1 ∉ (fields members value).map Prod.fst := by
        rw [mem_tags known, held]
        exact Bool.false_ne_true
      have optional := membersTyped member known
      rw [held] at optional
      rw [if_neg missing, member_initial distinct known, if_neg (by rw [optional]; exact Bool.false_ne_true)]

theorem decode_payload {shape : Shape} (typed : HasType shape value) (unique : UniqueTags shape)
    (fits : FieldsFit shape value) : decode shape (initial shape) (payload shape value) = .ok value := by
  induction shape using Shape.induction generalizing value with
  | integer signed size =>
      cases value with
      | integer number =>
          rw [payload, decode, decodeScalar_bigEndian (toBits_lt size number)]
          dsimp only
          rw [ofBits_toBits typed]
      | _ => cases typed
  | float =>
      cases value with
      | float bits =>
          rw [payload, decode, decodeScalar_bigEndian bits.toNat_lt]
          dsimp only
          rw [UInt32.ofNat_toNat]
      | _ => cases typed
  | double =>
      cases value with
      | double bits =>
          rw [payload, decode, decodeScalar_bigEndian bits.toNat_lt]
          dsimp only
          rw [UInt64.ofNat_toNat]
      | _ => cases typed
  | string capacity =>
      cases value with
      | bytes text => rw [payload, decode, if_pos (show text.length ≤ capacity from typed)]
      | _ => cases typed
  | struct members inner =>
      rw [payload]
      exact decode_struct (fun member listed content => inner member listed) typed unique fits

variable {record : Persistent}

section Envelope
variable {maximum : Nat}

/-- The header of an envelope is the magic, the schema identifier and the version. -/
def header (record : Persistent) : List Byte := magic ++ record.schema ++ bigEndian 8 record.version.toNat

theorem length_header : (header record).length = 28 := by
  rw [header, List.length_append, List.length_append, length_bigEndian, record.length_schema]
  rfl

theorem guarded_appendEnvelope (content : List Byte) : Guarded (28 + content.length ≤ maximum)
      (appendEnvelope record.schema record.version content [] maximum) (header record ++ content) := by
  have four : magic.length = 4 := rfl
  have sixteen := record.length_schema
  simp only [appendEnvelope, encodeScalar_eq, append_eq, Option.bind_eq_bind, List.length_nil, List.nil_append]
  by_cases fits : 28 + content.length ≤ maximum
  · rw [if_pos (by omega), Option.bind_some, if_pos (by omega), Option.bind_some, List.length_append,
      if_pos (by omega), Option.bind_some, List.length_append, List.length_append, length_bigEndian,
      if_pos (by omega)]
    exact .inl ⟨rfl, fits⟩
  · refine .inr ⟨?_, fits⟩
    by_cases first : 0 + magic.length ≤ maximum
    · rw [if_pos first, Option.bind_some]
      by_cases second : magic.length + record.schema.length ≤ maximum
      · rw [if_pos second, Option.bind_some, List.length_append]
        by_cases third : magic.length + record.schema.length + 8 ≤ maximum
        · rw [if_pos third, Option.bind_some, List.length_append, List.length_append, length_bigEndian,
            if_neg (by omega)]
        · rw [if_neg third, Option.bind_none]
      · rw [if_neg second, Option.bind_none]
    · rw [if_neg first, Option.bind_none]

/-- An envelope opens under its own schema identifier and version and under no other. -/
theorem openEnvelope_header (content schema : List Byte) (version : UInt64) :
    openEnvelope (header record ++ content) schema version =
      if schema = record.schema ∧ version = record.version then some content else none := by
  have four : magic.length = 4 := rfl
  have width := @length_header record
  have front : header record ++ content =
      magic ++ (record.schema ++ (bigEndian 8 record.version.toNat ++ content)) := by
    rw [header, List.append_assoc, List.append_assoc]
  have early : (header record ++ content).take 4 = magic := by
    rw [front]
    exact List.take_left' four
  have middle : ((header record ++ content).drop 4).take 16 = record.schema := by
    rw [front, List.drop_left' four]
    exact List.take_left' record.length_schema
  have late : ((header record ++ content).drop 20).take 8 = bigEndian 8 record.version.toNat := by
    rw [front, ← List.append_assoc, List.drop_left' (by rw [List.length_append, four, record.length_schema])]
    exact List.take_left' (length_bigEndian ..)
  have rest : (header record ++ content).drop 28 = content := List.drop_left' width
  rw [openEnvelope, early, middle, late, rest, decodeScalar_bigEndian record.version.toNat_lt]
  by_cases same : schema = record.schema
  · rw [if_neg (by rw [List.length_append, same]; simp; omega)]
    dsimp only
    by_cases equal : version = record.version
    · rw [if_neg (by rw [equal]; simp), if_pos ⟨same, equal⟩]
    · rw [if_pos (fun numbers => equal (UInt64.toNat_inj.mp numbers).symm), if_neg (fun both => equal both.2)]
  · rw [if_pos (.inr (.inr (fun equal => same equal.symm))), if_neg (fun both => same both.1)]

end Envelope

namespace Persistent

/-- The bytes of a record have no limit. -/
def bytes (record : Persistent) (value : Value) : List Byte := header record ++ payload (.struct record.members) value

/-- An encoding succeeds exactly when the fields and the envelope fit. -/
theorem encode_spec (typed : HasType (.struct record.members) value) (maximum : Nat) :
    (record.encode value maximum = .ok (record.bytes value) ∧
      FieldsFit (.struct record.members) value ∧ (record.bytes value).length ≤ maximum) ∨
    ((∃ error, record.encode value maximum = .error error) ∧
      ¬(FieldsFit (.struct record.members) value ∧ (record.bytes value).length ≤ maximum)) := by
  have inner := encodes (.struct record.members) value [] typed (Nat.zero_le maximum)
  have outer := @guarded_appendEnvelope record maximum (payload (.struct record.members) value)
  simp only [List.nil_append, List.length_nil, zero_add] at inner
  rw [Persistent.encode, bytes, List.length_append, length_header]
  rcases inner with ⟨encoded, fits, short⟩ | ⟨refused, bad⟩
  · rw [encoded, Option.bind_some]
    rcases outer with ⟨wrapped, room⟩ | ⟨refused, bad⟩
    · rw [wrapped]
      exact .inl ⟨rfl, fits, room⟩
    · rw [refused]
      exact .inr ⟨⟨_, rfl⟩, fun both => bad both.2⟩
  · rw [refused, Option.bind_none]
    exact .inr ⟨⟨_, rfl⟩, fun both => bad ⟨both.1, by omega⟩⟩

theorem decode_bytes (typed : HasType (.struct record.members) value)
    (unique : UniqueTags (.struct record.members)) (fits : FieldsFit (.struct record.members) value) :
    record.decode (record.bytes value) = .ok value := by
  rw [Persistent.decode, bytes, openEnvelope_header, if_pos ⟨rfl, rfl⟩]
  dsimp only
  rw [decode_payload typed unique fits]
  rfl

theorem decode_other (other : Persistent) (apart : other.schema ≠ record.schema ∨ other.version ≠ record.version) :
    other.decode (record.bytes value) =
      .error ⟨.corrupted, "persistent record envelope is incompatible or malformed"⟩ := by
  rw [Persistent.decode, bytes, openEnvelope_header, if_neg (not_and_or.mpr apart)]

/-- A record is encoded when it fits, to bytes that the limit does not change and only its own schema and
version decode. -/
theorem record_round_trip (record : Persistent) (unique : UniqueTags (.struct record.members)) (value : Value)
    (typed : HasType (.struct record.members) value) (maximum : Nat) :
    ((∃ bytes, record.encode value maximum = .ok bytes) ↔ FieldsFit (.struct record.members) value ∧
        28 + (payload (.struct record.members) value).length ≤ maximum) ∧
    ∀ bytes, record.encode value maximum = .ok bytes →
      (∀ larger, maximum ≤ larger → record.encode value larger = .ok bytes) ∧ record.decode bytes = .ok value ∧
      ∀ other : Persistent, other.schema ≠ record.schema ∨ other.version ≠ record.version →
        ∃ error, other.decode bytes = .error error := by
  have length : (record.bytes value).length = 28 + (payload (.struct record.members) value).length := by
    rw [bytes, List.length_append, length_header]
  have spec := encode_spec typed
  rw [← length]
  rcases spec maximum with ⟨encoded, fits, room⟩ | ⟨⟨error, refused⟩, bad⟩
  · refine ⟨⟨fun _ => ⟨fits, room⟩, fun _ => ⟨_, encoded⟩⟩, fun bytes same => ?_⟩
    obtain rfl : record.bytes value = bytes := Except.ok.inj (encoded.symm.trans same)
    refine ⟨fun larger above => ?_, decode_bytes typed unique fits, fun other apart => ⟨_, decode_other other apart⟩⟩
    rcases spec larger with ⟨again, _⟩ | ⟨_, bad⟩
    · exact again
    · exact absurd ⟨fits, room.trans above⟩ bad
  · refine ⟨⟨fun ⟨bytes, encoded⟩ => ?_, fun both => absurd both bad⟩, fun bytes encoded => ?_⟩
    · rw [refused] at encoded
      cases encoded
    · rw [refused] at encoded
      cases encoded

/-- This record has a required number and an optional text. -/
def status : Persistent where
  schema := List.replicate 16 7
  version := 1
  members := [(1, true, .integer true 4), (2, false, .string 8)]
  length_schema := rfl

def statusValue : Value := .record [(1, some (.integer (-2))), (2, some (.bytes [0x6f, 0x6b]))]

/-- A status has a record of 64 bytes at most. -/
theorem record_round_trip_status : ((∃ bytes, status.encode statusValue 64 = .ok bytes) ↔
      FieldsFit (.struct status.members) statusValue ∧
        28 + (payload (.struct status.members) statusValue).length ≤ 64) ∧
    ∀ bytes, status.encode statusValue 64 = .ok bytes →
      (∀ larger, 64 ≤ larger → status.encode statusValue larger = .ok bytes) ∧ status.decode bytes = .ok statusValue ∧
      ∀ other : Persistent, other.schema ≠ status.schema ∨ other.version ≠ status.version →
        ∃ error, other.decode bytes = .error error :=
  record_round_trip status ⟨by decide, trivial, trivial, trivial⟩ statusValue
    ⟨rfl, show InRange true 4 (-2) by decide, show [0x6f, 0x6b].length ≤ 8 by decide, trivial⟩ 64

/-- The text of this record may be longer than a field. -/
def archive : Persistent where
  schema := List.replicate 16 7
  version := 1
  members := [(1, true, .string (2 ^ 32))]
  length_schema := rfl

def archiveValue (text : List Byte) : Value := .record [(1, some (.bytes text))]

/-- A text of 2³² bytes has no encoding, whatever the limit. -/
theorem encode_archiveValue (text : List Byte) (long : text.length = 2 ^ 32) :
    UniqueTags (.struct archive.members) ∧ HasType (.struct archive.members) (archiveValue text) ∧
      28 + (payload (.struct archive.members) (archiveValue text)).length ≤ 2 ^ 64 - 1 ∧
      ∀ bytes, archive.encode (archiveValue text) (2 ^ 64 - 1) ≠ .ok bytes := by
  have typed : HasType (.struct archive.members) (archiveValue text) :=
    ⟨rfl, show text.length ≤ 2 ^ 32 from long.le, trivial⟩
  have length : (payload (.struct archive.members) (archiveValue text)).length = 8 + 2 ^ 32 := by
    change (frame (1, text) ++ []).length = _
    rw [List.append_nil, length_frame, long]
  refine ⟨⟨by decide, trivial, trivial⟩, typed, by rw [length]; omega, fun bytes encoded => ?_⟩
  rcases encode_spec typed (2 ^ 64 - 1) with ⟨_, fits, _⟩ | ⟨⟨error, refused⟩, _⟩
  · have short := (membersFit_iff.mp fits (1, true, .string (2 ^ 32)) List.mem_cons_self (.bytes text) rfl).1
    change text.length ≤ 2 ^ 32 - 1 at short
    omega
  · rw [refused] at encoded
    cases encoded

/-- An archive of 4 GiB fits in the limit and is refused. -/
theorem encode_refused : UniqueTags (.struct archive.members) ∧
      HasType (.struct archive.members) (archiveValue (List.replicate (2 ^ 32) 0)) ∧
      28 + (payload (.struct archive.members) (archiveValue (List.replicate (2 ^ 32) 0))).length ≤ 2 ^ 64 - 1 ∧
      ∀ bytes, archive.encode (archiveValue (List.replicate (2 ^ 32) 0)) (2 ^ 64 - 1) ≠ .ok bytes :=
  encode_archiveValue _ List.length_replicate

end Persistent

end OpenVehicle.Per.Record
