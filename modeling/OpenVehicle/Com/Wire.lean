/-
This file determines the bytes that the generated encoder appends to a buffer. An encoder drives its output only
through two operations, so that a relation which these keep is kept by every encoder.
-/

import OpenVehicle.Com.Codec

namespace OpenVehicle.Com

open Codec (Byte littleEndian length_littleEndian)
open Data (Value)
open Data.Value (toBits)

namespace Ty

/-- The induction over types descends into elements and members. -/
@[elab_as_elim]
theorem induction {motive : Ty → Prop} (integer : ∀ signed size, motive (.integer signed size))
    (bool : motive .bool) (float : motive .float) (double : motive .double) (bytes : motive .bytes)
    (string : motive .string) (boundedString : ∀ capacity, motive (.boundedString capacity))
    (boundedVector : ∀ element capacity, motive element → motive (.boundedVector element capacity))
    (array : ∀ element capacity, motive element → motive (.array element capacity))
    (vector : ∀ element, motive element → motive (.vector element))
    (optional : ∀ content, motive content → motive (.optional content))
    (struct : ∀ members : List Member, (∀ member ∈ members, motive member.2.2) → motive (.struct members)) :
    ∀ ty, motive ty
  | .integer signed size => integer signed size
  | .bool => bool
  | .float => float
  | .double => double
  | .bytes => bytes
  | .string => string
  | .boundedString capacity => boundedString capacity
  | .boundedVector element capacity => boundedVector element capacity
      (induction integer bool float double bytes string boundedString boundedVector array vector optional
        struct element)
  | .array element capacity => array element capacity
      (induction integer bool float double bytes string boundedString boundedVector array vector optional
        struct element)
  | .vector element => vector element
      (induction integer bool float double bytes string boundedString boundedVector array vector optional
        struct element)
  | .optional content => optional content
      (induction integer bool float double bytes string boundedString boundedVector array vector optional
        struct content)
  | .struct members =>
      struct members fun member listed =>
        have smaller : sizeOf member.2.2 < 1 + sizeOf members := by
          have inside := List.sizeOf_lt_of_mem listed
          rcases member with ⟨tag, required, ty⟩
          simp only [Prod.mk.sizeOf_spec] at inside
          change sizeOf ty < _
          omega
        induction integer bool float double bytes string boundedString boundedVector array vector optional
          struct member.2.2
termination_by ty => sizeOf ty

end Ty

section Relations
variable {first second : Encoder} {value : Encode} (related : Encoder → Encoder → Prop)

/-- Two encoders end together, and their outputs stay related when they succeed. -/
def Lifted : Except Encoder Encoder → Except Encoder Encoder → Prop
  | .ok first, .ok second => related first second
  | .error _, .error _ => True
  | _, _ => False

/-- An encoder keeps a relation between its outputs. -/
def Keeps (value : Encode) : Prop := ∀ first second, related first second → Lifted related (value first) (value second)

/-- The two operations of the output keep the relation. -/
structure Steps : Prop where
  append : ∀ first second byte, related first second → related (first.append byte) (second.append byte)
  raw : ∀ first second bytes, related first second → related (first.raw bytes) (second.raw bytes)

variable {related}

theorem Lifted.bind {first second : Except Encoder Encoder} (head : Lifted related first second)
    (tail : Keeps related value) : Lifted related (first.bind value) (second.bind value) := by
  cases first with
  | error left =>
      cases second with
      | error right => exact trivial
      | ok right => cases head
  | ok left =>
      cases second with
      | error right => cases head
      | ok right => exact tail left right head

theorem keeps_refused : Keeps related fun out => .error out := fun _ _ _ => trivial

theorem keeps_done : Keeps related fun out => .ok out := fun _ _ both => both

namespace Steps
variable (steps : Steps related)
include steps

theorem unsignedInteger (both : related first second) (size number : Nat) :
    related (first.unsignedInteger size number) (second.unsignedInteger size number) := by
  unfold Encoder.unsignedInteger
  induction Codec.littleEndian size number generalizing first second with
  | nil => exact both
  | cons byte bytes ih => exact ih (steps.append first second byte both)

theorem keeps_integer (size number : Nat) : Keeps related fun out => .ok (out.unsignedInteger size number) :=
  fun _ _ both => steps.unsignedInteger both size number

theorem keeps_after (inner : Keeps related value) (size number : Nat) :
    Keeps related fun out => value (out.unsignedInteger size number) :=
  fun _ _ both => inner _ _ (steps.unsignedInteger both size number)

/-- The length of a field comes from a counting run that does not depend on the output. -/
theorem keeps_encodeField (tag : UInt32) (inner : Keeps related value) : Keeps related (encodeField tag value) := by
  intro first second both
  unfold encodeField
  split
  · exact trivial
  · split
    · exact trivial
    · exact inner _ _ (steps.unsignedInteger (steps.unsignedInteger both _ _) _ _)

theorem keeps_encodeSequenceElement (inner : Keeps related value) : Keeps related (encodeSequenceElement value) := by
  intro first second both
  unfold encodeSequenceElement
  split
  · exact trivial
  · split
    · exact trivial
    · exact inner _ _ (steps.unsignedInteger both _ _)

theorem keeps_encodeElements {element : Value → Encode} (inner : ∀ value, Keeps related (element value))
    (values : List Value) : Keeps related (encodeElements element values) := by
  induction values with
  | nil => exact keeps_done
  | cons value values ih =>
      intro first second both
      exact (steps.keeps_encodeSequenceElement (inner value) first second both).bind ih

theorem keeps_prefixed (length : Nat) (content : List Byte) :
    Keeps related fun out => .ok ((out.unsignedInteger 4 length).raw content) :=
  fun _ _ both => steps.raw _ _ content (steps.unsignedInteger both 4 length)

theorem keeps_encodeBytes (content : List Byte) : Keeps related (encodeBytes content) := by
  intro first second both
  unfold encodeBytes
  split
  · exact trivial
  · exact steps.keeps_prefixed _ content first second both

theorem keeps_encodeMembers {members : List Member}
    (inner : ∀ member ∈ members, ∀ content, Keeps related (encode member.2.2 content)) (value : Value) :
    Keeps related (encodeMembers members value) := by
  induction members with
  | nil => exact keeps_done
  | cons member members ih =>
      obtain ⟨tag, required, ty⟩ := member
      have later := ih fun other known => inner other (List.mem_cons_of_mem _ known)
      intro first second both
      rw [encodeMembers, encodeMembers]
      cases value.member tag with
      | none =>
          cases required with
          | true => exact trivial
          | false => exact later first second both
      | some content =>
          have field := steps.keeps_encodeField tag (inner _ List.mem_cons_self content)
          exact (field first second both).bind later

/-- Every encoder keeps a relation that the two operations keep. -/
theorem keeps_encode (ty : Ty) (value : Value) : Keeps related (encode ty value) := by
  induction ty using Ty.induction generalizing value with
  | integer signed size =>
      cases value with
      | integer number => exact steps.keeps_integer size (toBits size number)
      | _ => exact keeps_refused
  | bool =>
      cases value with
      | boolean bit => exact steps.keeps_integer 1 (if bit then 1 else 0)
      | _ => exact keeps_refused
  | float =>
      cases value with
      | float bits => exact steps.keeps_integer 4 bits.toNat
      | _ => exact keeps_refused
  | double =>
      cases value with
      | double bits => exact steps.keeps_integer 8 bits.toNat
      | _ => exact keeps_refused
  | bytes | string =>
      cases value with
      | bytes content => exact steps.keeps_encodeBytes content
      | _ => exact keeps_refused
  | boundedString capacity =>
      cases value with
      | bytes content => exact steps.keeps_prefixed _ content
      | _ => exact keeps_refused
  | boundedVector element capacity inner =>
      cases value with
      | sequence values => exact steps.keeps_after (steps.keeps_encodeElements inner values) 4 _
      | _ => exact keeps_refused
  | array element capacity inner =>
      cases value with
      | sequence values => exact steps.keeps_encodeElements inner values
      | _ => exact keeps_refused
  | vector element inner =>
      cases value with
      | sequence values =>
          intro first second both
          rw [encode, encode]
          split
          · exact trivial
          · exact steps.keeps_after (steps.keeps_encodeElements inner values) 4 _ first second both
      | _ => exact keeps_refused
  | optional content inner =>
      cases value with
      | optional value =>
          cases value with
          | none => exact steps.keeps_integer 1 0
          | some value => exact steps.keeps_after (inner value) 1 1
      | _ => exact keeps_refused
  | struct members inner => exact steps.keeps_encodeMembers inner value

end Steps

end Relations

variable {out : Encoder}

namespace Encoder
variable {first second : List Byte}

section
variable (buffer : out.destination = [])
include buffer

theorem raw_empty : out.raw [] = out := by
  obtain ⟨bytes, destination, size, valid, counting⟩ := out
  obtain rfl : destination = [] := buffer
  cases counting <;> simp [raw]

@[simp] theorem destination_raw : (out.raw first).destination = [] := by
  cases counting : out.countOnly <;> simp [raw, counting, buffer]

theorem raw_raw : (out.raw first).raw second = out.raw (first ++ second) := by
  cases counting : out.countOnly <;> simp [raw, counting, buffer, Nat.add_assoc]

theorem append_eq_raw (value : Byte) : out.append value = out.raw [value] := by
  cases counting : out.countOnly <;> simp [raw, append, counting, buffer]

theorem foldl_append (bytes : List Byte) : bytes.foldl append out = out.raw bytes := by
  induction bytes generalizing out with
  | nil => exact (raw_empty buffer).symm
  | cons byte bytes ih =>
      rw [List.foldl_cons, append_eq_raw buffer, ih (destination_raw buffer), raw_raw buffer]
      rfl

theorem unsignedInteger_eq (size value : Nat) : out.unsignedInteger size value = out.raw (littleEndian size value) :=
  foldl_append buffer _

end

theorem size_raw_counter (bytes : List Byte) : (counter.raw bytes).size = bytes.length := Nat.zero_add _

end Encoder

/-- This encoder appends the same bytes to every buffer. -/
def Prints (value : Encode) (bytes : List Byte) : Prop := ∀ out, out.destination = [] → value out = .ok (out.raw bytes)

/-- This encoder fails on every buffer. -/
def Fails (value : Encode) : Prop := ∀ out, out.destination = [] → ∃ left, value out = .error left

/-- The outcome of this encoder does not depend on the buffer. -/
def Uniform (value : Encode) : Prop := Fails value ∨ ∃ bytes, Prints value bytes

variable {bytes more : List Byte}

section Uniform
variable {first second value : Encode} {tag : UInt32}

theorem Prints.bind (head : Prints first bytes) (tail : Prints second more) :
    Prints (fun out => (first out).bind second) (bytes ++ more) := by
  intro out buffer
  change (first out).bind second = _
  rw [head out buffer, ← Encoder.raw_raw buffer]
  exact tail _ (Encoder.destination_raw buffer)

theorem Fails.bind (head : Fails first) : Fails fun out => (first out).bind second := by
  intro out buffer
  obtain ⟨left, failed⟩ := head out buffer
  exact ⟨left, by change (first out).bind second = _; rw [failed]; rfl⟩

theorem Prints.bind_fails (head : Prints first bytes) (tail : Fails second) :
    Fails fun out => (first out).bind second := by
  intro out buffer
  obtain ⟨left, failed⟩ := tail _ (Encoder.destination_raw buffer)
  exact ⟨left, by change (first out).bind second = _; rw [head out buffer]; exact failed⟩

theorem prints_integer (size bits : Nat) :
    Prints (fun out => .ok (out.unsignedInteger size bits)) (littleEndian size bits) :=
  fun _ buffer => congrArg Except.ok (Encoder.unsignedInteger_eq buffer size bits)

theorem prints_prefixed (length : Nat) (content : List Byte) :
    Prints (fun out => .ok ((out.unsignedInteger 4 length).raw content)) (littleEndian 4 length ++ content) :=
  fun out buffer => by
    change Except.ok ((out.unsignedInteger 4 length).raw content) = _
    rw [Encoder.unsignedInteger_eq buffer, Encoder.raw_raw buffer]

theorem prints_after (printed : Prints value bytes) (size bits : Nat) :
    Prints (fun out => value (out.unsignedInteger size bits)) (littleEndian size bits ++ bytes) :=
  (prints_integer size bits).bind printed

theorem fails_refused : Fails fun out => .error out := fun out _ => ⟨out, rfl⟩

theorem prints_nothing : Prints (fun out => .ok out) [] := fun _ buffer =>
  congrArg Except.ok (Encoder.raw_empty buffer).symm

/-- The two passes of a field agree on the length. -/
theorem encodeField_eq (printed : Prints value bytes) (out : Encoder) : encodeField tag value out =
      if tag = 0 ∨ bytes.length > UInt32.size - 1 then .error out
      else value ((out.unsignedInteger 4 tag.toNat).unsignedInteger 4 bytes.length) := by
  rw [encodeField, printed Encoder.counter rfl]
  dsimp only
  rw [Encoder.size_raw_counter]
  have valid : (Encoder.counter.raw bytes).valid = true := rfl
  simp only [valid, Bool.true_eq_false, false_or]

theorem encodeSequenceElement_eq (printed : Prints value bytes) (out : Encoder) : encodeSequenceElement value out =
      if bytes.length > UInt32.size - 1 then .error out
      else value (out.unsignedInteger 4 bytes.length) := by
  rw [encodeSequenceElement, printed Encoder.counter rfl]
  dsimp only
  rw [Encoder.size_raw_counter]
  have valid : (Encoder.counter.raw bytes).valid = true := rfl
  simp only [valid, Bool.true_eq_false, false_or]

theorem fails_encodeField (failed : Fails value) : Fails (encodeField tag value) := by
  intro out _
  obtain ⟨left, failed⟩ := failed Encoder.counter rfl
  exact ⟨out, by rw [encodeField, failed]⟩

theorem fails_encodeSequenceElement (failed : Fails value) : Fails (encodeSequenceElement value) := by
  intro out _
  obtain ⟨left, failed⟩ := failed Encoder.counter rfl
  exact ⟨out, by rw [encodeSequenceElement, failed]⟩

/-- A field is its tag, the length of its payload and the payload. -/
def fieldFrame (field : UInt32 × List Byte) : List Byte :=
  littleEndian 4 field.1.toNat ++ (littleEndian 4 field.2.length ++ field.2)

/-- An element is its length and its bytes. -/
def elementFrame (bytes : List Byte) : List Byte := littleEndian 4 bytes.length ++ bytes

theorem prints_encodeField (printed : Prints value bytes) (nonzero : tag ≠ 0) (small : bytes.length ≤ UInt32.size - 1) :
    Prints (encodeField tag value) (fieldFrame (tag, bytes)) := by
  intro out buffer
  rw [encodeField_eq printed, if_neg (not_or.mpr ⟨nonzero, Nat.not_lt.mpr small⟩)]
  exact prints_after (prints_after printed 4 bytes.length) 4 tag.toNat out buffer

theorem prints_encodeSequenceElement (printed : Prints value bytes) (small : bytes.length ≤ UInt32.size - 1) :
    Prints (encodeSequenceElement value) (elementFrame bytes) := by
  intro out buffer
  rw [encodeSequenceElement_eq printed, if_neg (Nat.not_lt.mpr small)]
  exact prints_after printed 4 bytes.length out buffer

/-- A field is printed when its value is and its tag and its length are legal. -/
theorem encodeField_cases (uniform : Uniform value) :
    Fails (encodeField tag value) ∨ ∃ bytes, Prints value bytes ∧ tag ≠ 0 ∧
      bytes.length ≤ UInt32.size - 1 ∧ Prints (encodeField tag value) (fieldFrame (tag, bytes)) := by
  rcases uniform with failed | ⟨bytes, printed⟩
  · exact .inl (fails_encodeField failed)
  · by_cases bad : tag = 0 ∨ bytes.length > UInt32.size - 1
    · exact .inl fun out _ => ⟨out, by rw [encodeField_eq printed, if_pos bad]⟩
    · obtain ⟨nonzero, small⟩ := not_or.mp bad
      have small := Nat.not_lt.mp small
      exact .inr ⟨bytes, printed, nonzero, small, prints_encodeField printed nonzero small⟩

theorem encodeSequenceElement_cases (uniform : Uniform value) :
    Fails (encodeSequenceElement value) ∨ ∃ bytes, Prints value bytes ∧
      bytes.length ≤ UInt32.size - 1 ∧ Prints (encodeSequenceElement value) (elementFrame bytes) := by
  rcases uniform with failed | ⟨bytes, printed⟩
  · exact .inl (fails_encodeSequenceElement failed)
  · by_cases bad : bytes.length > UInt32.size - 1
    · exact .inl fun out _ => ⟨out, by rw [encodeSequenceElement_eq printed, if_pos bad]⟩
    · have small := Nat.not_lt.mp bad
      exact .inr ⟨bytes, printed, small, prints_encodeSequenceElement printed small⟩

end Uniform

section Elements
variable {element : Value → Encode} {values : List Value}

/-- Every element of a sequence has a chunk of its own. -/
theorem encodeElements_cases (uniform : ∀ value, Uniform (element value)) :
    Fails (encodeElements element values) ∨ ∃ chunks,
      List.Forall₂ (fun value chunk => Prints (element value) chunk ∧ chunk.length ≤ UInt32.size - 1)
        values chunks ∧ Prints (encodeElements element values) (chunks.flatMap elementFrame) := by
  induction values with
  | nil => exact .inr ⟨[], .nil, prints_nothing⟩
  | cons value values ih =>
      have split : encodeElements element (value :: values) = fun out =>
          (encodeSequenceElement (element value) out).bind (encodeElements element values) := rfl
      rw [split]
      rcases encodeSequenceElement_cases (uniform value) with failed | ⟨chunk, printed, small, framed⟩
      · exact .inl failed.bind
      · rcases ih with failed | ⟨chunks, each, written⟩
        · exact .inl (framed.bind_fails failed)
        · exact .inr ⟨chunk :: chunks, .cons ⟨printed, small⟩ each, framed.bind written⟩

theorem uniform_encodeElements (uniform : ∀ value, Uniform (element value)) :
    Uniform (encodeElements element values) := by
  rcases encodeElements_cases uniform with failed | ⟨chunks, _, printed⟩
  · exact .inl failed
  · exact .inr ⟨_, printed⟩

end Elements

variable {bytes : List Byte} {value : Value}

section Members
variable {members : List Member} {member : Member}

/-- The fields of a record are the printed contents of its present members. -/
structure Fields (members : List Member) (value : Value) (fields : List (UInt32 × List Byte)) : Prop where
  ordered : (fields.map Prod.fst).Sublist (members.map Prod.fst)
  printed : ∀ field ∈ fields, field.1 ≠ 0 ∧ field.2.length ≤ UInt32.size - 1 ∧
    ∃ member ∈ members, member.1 = field.1 ∧
      ∃ content, value.member field.1 = some content ∧ Prints (encode member.2.2 content) field.2
  complete : ∀ member ∈ members, (value.member member.1).isSome → member.1 ∈ fields.map Prod.fst

variable {fields : List (UInt32 × List Byte)}

theorem Fields.skip (rest : Fields members value fields)
    (absent : value.member member.1 = none) : Fields (member :: members) value fields where
  ordered := rest.ordered.cons member.1
  printed field listed := by
    obtain ⟨nonzero, small, other, known, facts⟩ := rest.printed field listed
    exact ⟨nonzero, small, other, List.mem_cons_of_mem _ known, facts⟩
  complete other known present := by
    rcases List.mem_cons.mp known with rfl | later
    · rw [absent] at present
      cases present
    · exact rest.complete other later present

variable {content : Value}

theorem Fields.add
    (rest : Fields members value fields) (present : value.member member.1 = some content) (nonzero : member.1 ≠ 0)
    (small : bytes.length ≤ UInt32.size - 1) (printed : Prints (encode member.2.2 content) bytes) :
    Fields (member :: members) value ((member.1, bytes) :: fields) where
  ordered := rest.ordered.cons_cons member.1
  printed field listed := by
    rcases List.mem_cons.mp listed with rfl | later
    · exact ⟨nonzero, small, member, List.mem_cons_self, rfl, content, present, printed⟩
    · obtain ⟨nonzero, small, other, known, facts⟩ := rest.printed field later
      exact ⟨nonzero, small, other, List.mem_cons_of_mem _ known, facts⟩
  complete other known present := by
    rcases List.mem_cons.mp known with rfl | later
    · exact List.mem_cons_self
    · exact List.mem_cons_of_mem _ (rest.complete other later present)

theorem encodeMembers_present (held : value.member member.1 = some content) :
    encodeMembers (member :: members) value = fun out =>
      (encodeField member.1 (encode member.2.2 content) out).bind (encodeMembers members value) := by
  obtain ⟨tag, required, ty⟩ := member
  funext out
  rw [encodeMembers, held]

theorem encodeMembers_absent (absent : value.member member.1 = none) (free : member.2.1 = false) :
    encodeMembers (member :: members) value = encodeMembers members value := by
  obtain ⟨tag, required, ty⟩ := member
  obtain rfl : required = false := free
  funext out
  rw [encodeMembers, absent]
  rfl

theorem encodeMembers_cases (uniform : ∀ member ∈ members, ∀ content, Uniform (encode member.2.2 content)) :
    Fails (encodeMembers members value) ∨
      ∃ fields, Fields members value fields ∧ Prints (encodeMembers members value) (fields.flatMap fieldFrame) := by
  induction members with
  | nil =>
      refine .inr ⟨[], ⟨List.Sublist.refl [], ?_, ?_⟩, prints_nothing⟩
      · intro field listed
        cases listed
      · intro member listed
        cases listed
  | cons member members ih =>
      obtain ⟨tag, required, ty⟩ := member
      have later := ih fun other known => uniform other (List.mem_cons_of_mem _ known)
      cases held : value.member tag with
      | none =>
          cases required with
          | true =>
              have refused : encodeMembers ((tag, true, ty) :: members) value = fun out => .error out := by
                funext out
                rw [encodeMembers, held]
                rfl
              exact .inl (refused ▸ fails_refused)
          | false =>
              rw [encodeMembers_absent held rfl]
              rcases later with failed | ⟨fields, facts, printed⟩
              · exact .inl failed
              · exact .inr ⟨fields, facts.skip held, printed⟩
      | some content =>
          rw [encodeMembers_present held]
          rcases encodeField_cases (uniform _ List.mem_cons_self content) with
            failed | ⟨bytes, printed, nonzero, small, framed⟩
          · exact .inl failed.bind
          · rcases later with failed | ⟨fields, facts, written⟩
            · exact .inl (framed.bind_fails failed)
            · exact .inr ⟨(tag, bytes) :: fields, facts.add held nonzero small printed, framed.bind written⟩

end Members

section Uniformity

variable {content : List Byte}

theorem prints_encodeBytes (small : content.length ≤ UInt32.size - 1) :
    Prints (encodeBytes content) (littleEndian 4 (lengthPrefix content.length) ++ content) := by
  intro out buffer
  rw [encodeBytes, if_neg (Nat.not_lt.mpr small)]
  exact prints_prefixed _ _ out buffer

theorem fails_encodeBytes (large : content.length > UInt32.size - 1) :
    Fails (encodeBytes content) := fun out _ => ⟨out, by rw [encodeBytes, if_pos large]⟩

/-- Whether and what an encoder prints does not depend on the buffer. -/
theorem uniform_encode (ty : Ty) (value : Value) : Uniform (encode ty value) := by
  -- Whatever the encoder has appended to a fresh buffer, it has appended to the other buffer too.
  have alike {out : Encoder} (buffer : out.destination = []) :
      Lifted (fun first second => first.destination = [] ∧ first.countOnly = false ∧ second = out.raw first.bytes)
        (encode ty value {}) (encode ty value out) := by
    refine Steps.keeps_encode ⟨?_, ?_⟩ ty value {} out ⟨rfl, rfl, (Encoder.raw_empty buffer).symm⟩
    · rintro first second byte ⟨growing, appends, rfl⟩
      rw [Encoder.append_eq_raw (Encoder.destination_raw buffer), Encoder.raw_raw buffer]
      simp [Encoder.append, growing, appends]
    · rintro first second bytes ⟨growing, appends, rfl⟩
      rw [Encoder.raw_raw buffer]
      simp [Encoder.raw, growing, appends]
  cases printed : encode ty value {} with
  | error left =>
      refine .inl fun out buffer => ?_
      have same := alike buffer
      rw [printed] at same
      cases outcome : encode ty value out with
      | error left => exact ⟨left, rfl⟩
      | ok later =>
          rw [outcome] at same
          cases same
  | ok fresh =>
      refine .inr ⟨fresh.bytes, fun out buffer => ?_⟩
      have same := alike buffer
      rw [printed] at same
      cases outcome : encode ty value out with
      | error left =>
          rw [outcome] at same
          cases same
      | ok later =>
          rw [outcome] at same
          exact congrArg Except.ok same.2.2

/-- A successful encoding of a fresh buffer determines the printed bytes. -/
theorem prints_encode {ty : Ty} (encoded : encode ty value {} = .ok out) : Prints (encode ty value) out.bytes := by
  rcases uniform_encode ty value with failed | ⟨bytes, printed⟩
  · obtain ⟨left, failed⟩ := failed {} rfl
    rw [encoded] at failed
    cases failed
  · have same := (printed {} rfl).symm.trans encoded
    rw [← Except.ok.inj same]
    exact printed

variable {value : Encode}

theorem Prints.unique (first : Prints value bytes) (second : Prints value more) : bytes = more := by
  have same := Except.ok.inj ((first {} rfl).symm.trans (second {} rfl))
  exact congrArg Encoder.bytes same

theorem Prints.not_fails (printed : Prints value bytes) : ¬Fails value := by
  intro failed
  obtain ⟨left, failed⟩ := failed {} rfl
  rw [printed {} rfl] at failed
  cases failed

end Uniformity

end OpenVehicle.Com
