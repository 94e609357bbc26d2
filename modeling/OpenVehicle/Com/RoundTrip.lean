/-
This file proves that a decoder reads the encoding of every type that its own type reads.
-/

import OpenVehicle.Com.Reading

namespace OpenVehicle.Com

open Codec (Byte littleEndian littleEndianValue length_littleEndian littleEndianValue_littleEndian)
open Data (Value)
open Data.Value (toBits ofBits InRange toBits_lt ofBits_toBits)

variable {value : Value} {capacity : Nat} {values : List Value} {ty : Ty} {length : Nat}

section Lengths
variable {element : Ty} {content bytes : List Byte}

theorem bytes_of_boundedString (printed : Prints (encode (.boundedString capacity) (.bytes content)) bytes) :
    bytes = littleEndian 4 (lengthPrefix content.length) ++ content := printed.unique (prints_prefixed _ content)

theorem bytes_of_encodeBytes (printed : Prints (encodeBytes content) bytes) :
    content.length ≤ UInt32.size - 1 ∧ bytes = littleEndian 4 (lengthPrefix content.length) ++ content := by
  have small : content.length ≤ UInt32.size - 1 :=
    Nat.not_lt.mp fun large => printed.not_fails (fails_encodeBytes large)
  exact ⟨small, printed.unique (prints_encodeBytes small)⟩

/-- The chunks of a sequence are the printed elements. -/
def Chunks (element : Ty) : List Value → List (List Byte) → Prop :=
  List.Forall₂ fun value chunk => Prints (encode element value) chunk ∧ chunk.length ≤ UInt32.size - 1

theorem bytes_of_elements (printed : Prints (encodeElements (encode element) values) bytes) :
    ∃ chunks, Chunks element values chunks ∧ bytes = chunks.flatMap elementFrame := by
  rcases encodeElements_cases (uniform_encode element) with failed | ⟨chunks, each, written⟩
  · exact absurd failed printed.not_fails
  · exact ⟨chunks, each, printed.unique written⟩

theorem bytes_of_prefixed
    (printed : Prints (fun out => encodeElements (encode element) values (out.unsignedInteger 4 length)) bytes) :
    ∃ chunks, Chunks element values chunks ∧ bytes = littleEndian 4 length ++ chunks.flatMap elementFrame := by
  rcases @encodeElements_cases _ values (uniform_encode element) with failed | ⟨chunks, each, written⟩
  · exact absurd ((prints_integer 4 length).bind_fails failed) printed.not_fails
  · exact ⟨chunks, each, printed.unique (prints_after written 4 length)⟩

theorem bytes_of_vector (printed : Prints (encode (.vector element) (.sequence values)) bytes) :
    values.length ≤ UInt32.size - 1 ∧ ∃ chunks, Chunks element values chunks ∧
      bytes = littleEndian 4 values.length ++ chunks.flatMap elementFrame := by
  have small : values.length ≤ UInt32.size - 1 := by
    apply Nat.not_lt.mp
    intro large
    exact printed.not_fails fun out _ => ⟨out, by rw [encode, if_pos large]⟩
  refine ⟨small, ?_⟩
  rw [← lengthPrefix_small small]
  apply bytes_of_prefixed
  intro out buffer
  rw [← printed out buffer, encode, if_neg (Nat.not_lt.mpr small)]

theorem bytes_of_optional {content : Ty}
    (printed : Prints (encode (.optional content) (.optional (some value))) bytes) :
    ∃ inner, Prints (encode content value) inner ∧ bytes = littleEndian 1 1 ++ inner := by
  rcases uniform_encode content value with failed | ⟨inner, written⟩
  · exact absurd ((prints_integer 1 1).bind_fails failed) printed.not_fails
  · exact ⟨inner, written, printed.unique (prints_after written 1 1)⟩

/-- A short encoding has no long prefix. -/
theorem fits_of_small (printed : Prints (encode ty value) bytes)
    (small : bytes.length ≤ UInt32.size - 1) : Fits ty value := by
  induction ty using Ty.induction generalizing value bytes with
  | boundedString capacity =>
      cases value with
      | bytes content =>
          rw [bytes_of_boundedString printed, List.length_append] at small
          rw [Fits]
          omega
      | _ => trivial
  | boundedVector element capacity _ =>
      cases value with
      | sequence values =>
          obtain ⟨chunks, each, rfl⟩ := bytes_of_prefixed printed
          have long := length_frames chunks
          rw [← List.Forall₂.length_eq each] at long
          rw [List.length_append] at small
          rw [Fits]
          omega
      | _ => trivial
  | optional content inner =>
      cases value with
      | optional value =>
          intro nested held
          obtain rfl := Option.mem_def.mp held
          obtain ⟨bytes, written, rfl⟩ := bytes_of_optional printed
          rw [List.length_append] at small
          exact inner written (by omega)
      | _ => trivial
  | _ => cases value <;> trivial

end Lengths

section Reading
variable {bytes : List Byte} {current : Value}

theorem decodeBytes_printed {content : List Byte} (printed : Prints (encodeBytes content) bytes) :
    decodeBytes bytes = some (.bytes content, []) := by
  obtain ⟨small, rfl⟩ := bytes_of_encodeBytes printed
  rw [lengthPrefix_small small, decodeBytes, unsignedInteger_littleEndian (small_length small)]
  simp only [Option.bind_eq_bind, Option.bind_some]
  rw [if_neg (Nat.lt_irrefl _), raw_all]
  rfl

variable {reader writer : Ty} {rest : List Byte}

theorem decode_elements {chunks : List (List Byte)} (each : Chunks writer values chunks)
    (inner : ∀ value ∈ values, ∀ bytes, Prints (encode writer value) bytes → bytes.length ≤ UInt32.size - 1 →
      decode reader (initial reader) bytes = .ok (project reader value, [])) :
    decodeElements (decode reader) (initial reader) values.length (chunks.flatMap elementFrame ++ rest) =
      some (values.map (project reader), rest) := by
  rw [← List.length_map (project reader)]
  apply decodeElements_frames
  induction each with
  | nil => exact .nil
  | cons head _ ih =>
      refine .cons ⟨inner _ List.mem_cons_self _ head.1 head.2, head.2⟩ ?_
      exact ih fun value listed => inner value (List.mem_cons_of_mem _ listed)

/-- An optional value that is present is decoded behind its mark. -/
theorem decode_present (content : Ty) (current : Value) (bytes : List Byte) :
    decode (.optional content) current (littleEndian 1 1 ++ bytes) = assign current
      (match decode content (initial content) bytes with
      | .error _ => none
      | .ok (value, input) => some (.optional (some value), input)) := by
  rw [decode, unsignedInteger_littleEndian (by decide)]
  rfl

/-- The decoder returns the view of the value. -/
def Recovers (reader : Ty) (value : Value) (bytes : List Byte) : Prop :=
  decode reader (initial reader) bytes = .ok (project reader value, [])

section Constructors
variable {element other : Ty}

theorem recovers_integer {signed : Bool} {size : Nat} (typed : HasType (.integer signed size) value)
    (printed : Prints (encode (.integer signed size) value) bytes) : Recovers (.integer signed size) value bytes := by
  cases value with
  | integer number =>
      rw [Recovers, printed.unique (prints_integer size (toBits size number)), decode,
        ← List.append_nil (littleEndian _ _), unsignedInteger_littleEndian (toBits_lt size number)]
      change Except.ok (Value.integer _, []) = _
      rw [ofBits_toBits typed]
      rfl
  | _ => cases typed

theorem recovers_bool (typed : HasType .bool value) (printed : Prints (encode .bool value) bytes) :
    Recovers .bool value bytes := by
  cases value with
  | boolean bit =>
      rw [Recovers, printed.unique (prints_integer 1 (if bit then 1 else 0)), decode]
      cases bit <;> rfl
  | _ => cases typed

theorem recovers_float (typed : HasType .float value) (printed : Prints (encode .float value) bytes) :
    Recovers .float value bytes := by
  cases value with
  | float bits =>
      rw [Recovers, printed.unique (prints_integer 4 bits.toNat), decode, ← List.append_nil (littleEndian _ _),
        unsignedInteger_littleEndian bits.toNat_lt]
      change Except.ok (Value.float _, []) = _
      rw [UInt32.ofNat_toNat]
      rfl
  | _ => cases typed

theorem recovers_double (typed : HasType .double value) (printed : Prints (encode .double value) bytes) :
    Recovers .double value bytes := by
  cases value with
  | double bits =>
      rw [Recovers, printed.unique (prints_integer 8 bits.toNat), decode, ← List.append_nil (littleEndian _ _),
        unsignedInteger_littleEndian bits.toNat_lt]
      change Except.ok (Value.double _, []) = _
      rw [UInt64.ofNat_toNat]
      rfl
  | _ => cases typed

theorem recovers_bytes (typed : HasType .bytes value) (printed : Prints (encode .bytes value) bytes) :
    Recovers .bytes value bytes := by
  cases value with
  | bytes content =>
      rw [Recovers, decode, decodeBytes_printed printed]
      rfl
  | _ => cases typed

theorem recovers_string (typed : HasType .string value) (printed : Prints (encode .string value) bytes) :
    Recovers .string value bytes := by
  cases value with
  | bytes content =>
      rw [Recovers, decode, decodeBytes_printed printed]
      rfl
  | _ => cases typed

theorem recovers_boundedString (typed : HasType (.boundedString capacity) value)
    (printed : Prints (encode (.boundedString capacity) value) bytes) (fits : Fits (.boundedString capacity) value) :
    Recovers (.boundedString capacity) value bytes := by
  cases value with
  | bytes content =>
      have room : content.length ≤ capacity := typed
      have small : content.length ≤ UInt32.size - 1 := fits
      rw [Recovers, bytes_of_boundedString printed, lengthPrefix_small small, decode,
        unsignedInteger_littleEndian (small_length small)]
      simp only [Option.bind_eq_bind, Option.bind_some]
      rw [if_neg (Nat.not_lt.mpr room), raw_all]
      rfl
  | _ => cases typed

section Elements
variable (inner : ∀ {value bytes}, HasType other value → Prints (encode other value) bytes → Fits other value →
  Recovers element value bytes)
include inner

theorem recovers_boundedVector (typed : HasType (.boundedVector other capacity) value)
    (printed : Prints (encode (.boundedVector other capacity) value) bytes)
    (fits : Fits (.boundedVector other capacity) value) : Recovers (.boundedVector element capacity) value bytes := by
  cases value with
  | sequence values =>
      obtain ⟨room, typed⟩ := typed
      have small : values.length ≤ UInt32.size - 1 := fits
      obtain ⟨chunks, each, rfl⟩ := bytes_of_prefixed printed
      rw [Recovers, lengthPrefix_small small, decode, unsignedInteger_littleEndian (small_length small)]
      simp only [Option.bind_eq_bind, Option.bind_some]
      rw [if_neg (Nat.not_lt.mpr room), ← List.append_nil (chunks.flatMap _),
        decode_elements each fun value listed bytes printed short =>
          inner (typed value listed) printed (fits_of_small printed short)]
      rfl
  | _ => cases typed

theorem recovers_array (typed : HasType (.array other capacity) value)
    (printed : Prints (encode (.array other capacity) value) bytes) :
    Recovers (.array element capacity) value bytes := by
  cases value with
  | sequence values =>
      obtain ⟨rfl, typed⟩ := typed
      obtain ⟨chunks, each, rfl⟩ := bytes_of_elements printed
      rw [Recovers, decode, ← List.append_nil (chunks.flatMap _),
        decode_elements each fun value listed bytes printed short =>
          inner (typed value listed) printed (fits_of_small printed short)]
      rfl
  | _ => cases typed

theorem recovers_vector (typed : HasType (.vector other) value)
    (printed : Prints (encode (.vector other) value) bytes) : Recovers (.vector element) value bytes := by
  cases value with
  | sequence values =>
      obtain ⟨small, chunks, each, rfl⟩ := bytes_of_vector printed
      have long := length_frames chunks
      rw [← List.Forall₂.length_eq each] at long
      rw [Recovers, decode, unsignedInteger_littleEndian (small_length small)]
      simp only [Option.bind_eq_bind, Option.bind_some]
      rw [if_neg (Nat.not_lt.mpr long), ← List.append_nil (chunks.flatMap _),
        decode_elements each fun value listed bytes printed short =>
          inner (typed value listed) printed (fits_of_small printed short)]
      rfl
  | _ => cases typed

theorem recovers_optional (typed : HasType (.optional other) value)
    (printed : Prints (encode (.optional other) value) bytes) (fits : Fits (.optional other) value) :
    Recovers (.optional element) value bytes := by
  cases value with
  | optional value =>
      cases value with
      | none =>
          rw [Recovers, printed.unique (prints_integer 1 0), decode]
          rfl
      | some value =>
          obtain ⟨bytes, written, rfl⟩ := bytes_of_optional printed
          have read : decode element (initial element) bytes = _ := inner (typed value rfl) written (fits value rfl)
          rw [Recovers, decode_present, read]
          rfl
  | _ => cases typed

end Elements

end Constructors

/-- The decoder of the reader returns the view of the value at its type. -/
theorem decode_project (reads : Reads reader writer)
    (typed : HasType writer value) (printed : Prints (encode writer value) bytes) (fits : Fits writer value) :
    Recovers reader value bytes := by
  induction reader using Ty.induction generalizing writer value bytes with
  | integer signed size =>
      cases writer with
      | integer sign width =>
          obtain ⟨rfl, rfl⟩ := reads
          exact recovers_integer typed printed
      | _ => cases reads
  | bool =>
      cases writer with
      | bool => exact recovers_bool typed printed
      | _ => cases reads
  | float =>
      cases writer with
      | float => exact recovers_float typed printed
      | _ => cases reads
  | double =>
      cases writer with
      | double => exact recovers_double typed printed
      | _ => cases reads
  | bytes =>
      cases writer with
      | bytes => exact recovers_bytes typed printed
      | _ => cases reads
  | string =>
      cases writer with
      | string => exact recovers_string typed printed
      | _ => cases reads
  | boundedString capacity =>
      cases writer with
      | boundedString bound =>
          obtain rfl : capacity = bound := reads
          exact recovers_boundedString typed printed fits
      | _ => cases reads
  | boundedVector element capacity inner =>
      cases writer with
      | boundedVector other bound =>
          obtain ⟨rfl, reads⟩ := reads
          exact recovers_boundedVector (inner reads) typed printed fits
      | _ => cases reads
  | array element capacity inner =>
      cases writer with
      | array other bound =>
          obtain ⟨rfl, reads⟩ := reads
          exact recovers_array (inner reads) typed printed
      | _ => cases reads
  | vector element inner =>
      cases writer with
      | vector other => exact recovers_vector (inner reads) typed printed
      | _ => cases reads
  | optional content inner =>
      cases writer with
      | optional other => exact recovers_optional (inner reads) typed printed fits
      | _ => cases reads
  | struct members inner =>
      cases writer with
      | struct others =>
          rcases @encodeMembers_cases value others
              fun member _ content => uniform_encode member.2.2 content with failed | ⟨fields, facts, written⟩
          · exact absurd failed printed.not_fails
          · rw [Recovers, printed.unique written]
            exact decode_struct (fun member mine other content bytes reads typed printed short =>
              inner member mine reads typed printed (fits_of_small printed short)) reads typed facts
      | _ => cases reads

theorem assign_eq_ok {result : Option (Value × List Byte)} {outcome : Value × List Byte} :
    assign current result = .ok outcome ↔ result = some outcome := by
  cases result <;> simp [assign]

theorem length_boundedString {content read rest : List Byte}
    (printed : Prints (encode (.boundedString capacity) (.bytes content)) bytes)
    (decoded : decode (.boundedString capacity) current bytes = .ok (.bytes read, rest)) :
    read.length = lengthPrefix content.length := by
  rw [bytes_of_boundedString printed, decode, assign_eq_ok, unsignedInteger_littleEndian (lengthPrefix_lt _)] at decoded
  simp only [Option.bind_eq_bind, Option.bind_some] at decoded
  split at decoded
  · cases decoded
  · obtain ⟨⟨content, last⟩, taken, same⟩ := Option.bind_eq_some_iff.mp decoded
    cases same
    obtain ⟨long, same, _⟩ := raw_eq_some taken
    rw [same, List.length_take]
    omega

theorem length_boundedVector {capacity bound : Nat} {values read : List Value}
    (printed : Prints (encode (.boundedVector writer bound) (.sequence values)) bytes)
    (decoded : decode (.boundedVector reader capacity) current bytes = .ok (.sequence read, rest)) :
    read.length = lengthPrefix values.length := by
  obtain ⟨chunks, _, rfl⟩ := bytes_of_prefixed printed
  rw [decode, assign_eq_ok, unsignedInteger_littleEndian (lengthPrefix_lt _)] at decoded
  simp only [Option.bind_eq_bind, Option.bind_some] at decoded
  split at decoded
  · cases decoded
  · obtain ⟨⟨decoded, last⟩, taken, same⟩ := Option.bind_eq_some_iff.mp decoded
    cases same
    exact length_decodeElements taken

theorem lengthPrefix_ne (large : ¬length ≤ UInt32.size - 1) : length ≠ lengthPrefix length := by
  have small := lengthPrefix_lt length
  change ¬length ≤ 2 ^ 32 - 1 at large
  omega

/-- The decoder returns the view of the value exactly when the length prefix holds the length. -/
theorem decode_project_iff (reads : Reads reader writer)
    (typed : HasType writer value) (printed : Prints (encode writer value) bytes) :
    decode reader (initial reader) bytes = .ok (project reader value, []) ↔ Fits writer value := by
  refine ⟨fun decoded => ?_, decode_project reads typed printed⟩
  induction reader using Ty.induction generalizing writer value bytes with
  | boundedString capacity =>
      cases writer with
      | boundedString bound =>
          obtain rfl : capacity = bound := reads
          cases value with
          | bytes content =>
              have same := length_boundedString printed decoded
              exact by_contra fun large => lengthPrefix_ne large same
          | _ => cases typed
      | _ => cases reads
  | boundedVector element capacity _ =>
      cases writer with
      | boundedVector other bound =>
          cases value with
          | sequence values =>
              have same := length_boundedVector printed decoded
              rw [List.length_map] at same
              exact by_contra fun large => lengthPrefix_ne large same
          | _ => cases typed
      | _ => cases reads
  | optional content inner =>
      cases writer with
      | optional other =>
          cases value with
          | optional value =>
              intro nested held
              obtain rfl := Option.mem_def.mp held
              obtain ⟨bytes, written, rfl⟩ := bytes_of_optional printed
              apply inner reads (typed nested rfl) written
              rw [decode_present, assign_eq_ok] at decoded
              cases read : decode content (initial content) bytes with
              | error left =>
                  rw [read] at decoded
                  cases decoded
              | ok outcome =>
                  rw [read] at decoded
                  obtain ⟨outcome, rest⟩ := outcome
                  simp only [Option.some.injEq, Prod.mk.injEq, project, Option.map_some,
                    Value.optional.injEq] at decoded
                  rw [decoded.1, decoded.2]
          | _ => cases typed
      | _ => cases reads
  | _ => cases writer <;> first | cases reads; done | (cases value <;> trivial)

end Reading

mutual

/-- The tags of a struct are unique, at every depth. -/
def UniqueTags : Ty → Prop
  | .boundedVector element _ => UniqueTags element
  | .array element _ => UniqueTags element
  | .vector element => UniqueTags element
  | .optional content => UniqueTags content
  | .struct members => (members.map Prod.fst).Nodup ∧ UniqueMemberTags members
  | .integer _ _ => True
  | .bool => True
  | .float => True
  | .double => True
  | .bytes => True
  | .string => True
  | .boundedString _ => True

def UniqueMemberTags : List (UInt32 × Bool × Ty) → Prop
  | [] => True
  | (_, _, ty) :: members => UniqueTags ty ∧ UniqueMemberTags members

end

theorem uniqueMemberTags_iff {members : List Member} :
    UniqueMemberTags members ↔ ∀ member ∈ members, UniqueTags member.2.2 := by
  induction members with
  | nil => simp [UniqueMemberTags]
  | cons member members ih => rw [UniqueMemberTags, ih, List.forall_mem_cons]

/-- A type reads itself. -/
theorem reads_self (unique : UniqueTags ty) : Reads ty ty := by
  induction ty using Ty.induction with
  | integer signed size => exact ⟨rfl, rfl⟩
  | boundedString capacity => rfl
  | boundedVector element capacity inner => exact ⟨rfl, inner unique⟩
  | array element capacity inner => exact ⟨rfl, inner unique⟩
  | vector element inner => exact inner unique
  | optional content inner => exact inner unique
  | struct members inner =>
      obtain ⟨distinct, unique⟩ := unique
      refine ⟨distinct, distinct, readsMembers_iff.mpr fun member listed => ?_⟩
      rw [find_member distinct listed]
      exact ⟨rfl, inner member listed (uniqueMemberTags_iff.mp unique member listed)⟩
  | _ => trivial

/-- The view of a value at its own type is the value. -/
theorem project_self (typed : HasType ty value) : project ty value = value := by
  induction ty using Ty.induction generalizing value with
  | boundedVector element capacity inner =>
      cases value with
      | sequence values =>
          rw [project, List.map_congr_left fun value listed => inner (typed.2 value listed), List.map_id']
      | _ => cases typed
  | array element capacity inner =>
      cases value with
      | sequence values =>
          rw [project, List.map_congr_left fun value listed => inner (typed.2 value listed), List.map_id']
      | _ => cases typed
  | vector element inner =>
      cases value with
      | sequence values =>
          rw [project, List.map_congr_left fun value listed => inner (typed value listed), List.map_id']
      | _ => cases typed
  | optional content inner =>
      cases value with
      | optional value =>
          cases value with
          | none => rfl
          | some value => rw [project, Option.map_some, inner (typed value rfl)]
      | _ => cases typed
  | struct members inner =>
      rw [HasType] at typed
      obtain ⟨complete, typed⟩ := typed
      conv_rhs => rw [complete]
      rw [project, projectMembers_eq_map]
      apply congrArg Value.record
      apply List.map_congr_left
      intro member listed
      have content := hasMembers_iff.mp typed member listed
      cases held : value.member member.1 with
      | none => rfl
      | some inside =>
          rw [held] at content
          rw [Option.map_some, inner member listed content]
  | _ => cases value <;> rfl

end OpenVehicle.Com
