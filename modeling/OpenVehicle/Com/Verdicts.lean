/-
This file separates the verdict of a decoder from what it leaves in its output variable. The verdict depends on the
bytes alone.
-/

import OpenVehicle.Com.RoundTrip
import OpenVehicle.Data.Delivery

namespace OpenVehicle.Com

open Codec (Byte)
open Data (Value)
open Tagged (Reader Slots readSlots recorder readSlots_ends readRecord_eq Ends Tracks Completes)

def remainderOfElement (element : List Byte → Option (List Byte)) (input : List Byte) : Option (List Byte) := do
  let (size, input) ← unsignedInteger 4 input
  let (content, input) ← raw size input
  if element content = some [] then some input else none

def remainderOfElements (element : List Byte → Option (List Byte)) : Nat → List Byte → Option (List Byte)
  | 0, input => some input
  | count + 1, input => (remainderOfElement element input).bind (remainderOfElements element count)

mutual

/-- The bytes that follow a value of the type at the front of an input. -/
def remainder : Ty → List Byte → Option (List Byte)
  | .integer _ size, input => (unsignedInteger size input).map Prod.snd
  | .bool, input => do
      let (bits, input) ← unsignedInteger 1 input
      if bits > 1 then none else some input
  | .float, input => (unsignedInteger 4 input).map Prod.snd
  | .double, input => (unsignedInteger 8 input).map Prod.snd
  | .bytes, input => (decodeBytes input).map Prod.snd
  | .string, input => (decodeBytes input).map Prod.snd
  | .boundedString capacity, input => do
      let (size, input) ← unsignedInteger 4 input
      if size > capacity then none else (raw size input).map Prod.snd
  | .boundedVector element capacity, input => do
      let (size, input) ← unsignedInteger 4 input
      if size > capacity then none else remainderOfElements (remainder element) size input
  | .array element capacity, input => remainderOfElements (remainder element) capacity input
  | .vector element, input => do
      let (size, input) ← unsignedInteger 4 input
      if size > input.length then none else remainderOfElements (remainder element) size input
  | .optional content, input => do
      let (present, input) ← unsignedInteger 1 input
      if present > 1 then none else if present = 0 then some input else remainder content input
  | .struct members, input =>
      match readSlots framing (recorders members) true (fun _ => none) input with
      | .error _ => none
      | .ok _ => some []

/-- The recorders keep the payloads of the members instead of their values. -/
def recorders : List (UInt32 × Bool × Ty) → List (Reader (List Byte))
  | [] => []
  | (tag, required, ty) :: members =>
      ⟨tag, required, fun _ payload =>
        if remainder ty payload = some [] then .ok payload else .error (some payload)⟩ :: recorders members

end

/-- The payloads that a struct hands to the decoders of its members, up to the first bad field. -/
def payloads (members : List Member) (input : List Byte) : UInt32 → Option (List Byte) :=
  match readSlots framing (recorders members) true (fun _ => none) input with
  | .error slots => slots.values
  | .ok slots => slots.values

variable {members : List Member} {ty : Ty}

/-- The output variable after a decoder. -/
def left : Except Value (Value × List Byte) → Value
  | .error value => value
  | .ok (value, _) => value

def rest : Except Value (Value × List Byte) → Option (List Byte)
  | .error _ => none
  | .ok (_, input) => some input

/-- The decoder of a type leaves this value in a variable. -/
def leaves (ty : Ty) (current : Value) (input : List Byte) : Value := left (decode ty current input)

@[simp] theorem rest_assign (current : Value) (result : Option (Value × List Byte)) :
    rest (assign current result) = result.map Prod.snd := by
  cases result <;> rfl

/-- The decoders of other types than structs assign a value that they have decoded apart. -/
theorem decode_plain (plain : ∀ members, ty ≠ .struct members) (input : List Byte) :
    ∃ fresh, ∀ current, decode ty current input = assign current fresh := by
  cases ty with
  | struct members => exact absurd rfl (plain members)
  | _ => exact ⟨_, fun _ => by rw [decode]⟩

/-- The reader of a member engages it when it is optional. -/
def memberReader (member : Member) : Reader Value :=
  ⟨member.1, member.2.1, fun current payload => (decodeExactly (decode member.2.2)
    (if member.2.1 then current.getD (initial member.2.2) else initial member.2.2) payload).mapError some⟩

/-- A member is accepted when its payload is one value of its type. -/
def memberAccepts (member : Member) (payload : List Byte) : Prop := remainder member.2.2 payload = some []

instance (member : Member) : DecidablePred (memberAccepts member) := fun payload => by
  unfold memberAccepts
  infer_instance

theorem recorders_eq_map :
    recorders members = members.map fun member => recorder (memberReader member) (memberAccepts member) := by
  induction members with
  | nil => rfl
  | cons member members ih =>
      rw [recorders, ih]
      rfl

variable {input : List Byte} {current : Value}

section Verdicts

/-- The public decoder accepts an input that is one value, and it leaves the same value in either case. -/
theorem decodeValue_eq (current : Value) (input : List Byte) : decodeValue ty current input =
    if rest (decode ty current input) = some [] then .ok (leaves ty current input)
    else .error (leaves ty current input) := by
  rw [decodeValue, decodeExactly, leaves]
  cases decode ty current input with
  | error value => rfl
  | ok result =>
      obtain ⟨value, input⟩ := result
      by_cases empty : input = []
      · exact (if_pos empty).trans (if_pos (congrArg some empty)).symm
      · exact (if_neg empty).trans (if_neg fun same => empty (Option.some.inj same)).symm

theorem decodeExactly_ok :
    (∃ value, decodeExactly (decode ty) current input = .ok value) ↔ rest (decode ty current input) = some [] := by
  have equal : decodeExactly (decode ty) current input = decodeValue ty current input := rfl
  rw [equal, decodeValue_eq]
  split
  · rename_i accepted
    exact iff_of_true ⟨_, rfl⟩ accepted
  · rename_i refused
    exact iff_of_false (fun ⟨value, read⟩ => nomatch read) refused

theorem remainder_element (verdict : ∀ input, rest (decode ty (initial ty) input) = remainder ty input)
    (input : List Byte) : (decodeSequenceElement (decode ty) (initial ty) input).map Prod.snd =
      remainderOfElement (remainder ty) input := by
  rw [decodeSequenceElement, remainderOfElement]
  cases unsignedInteger 4 input with
  | none => rfl
  | some result =>
      obtain ⟨size, input⟩ := result
      change ((raw size input).bind _).map _ = (raw size input).bind _
      cases raw size input with
      | none => rfl
      | some result =>
          obtain ⟨content, input⟩ := result
          have agrees : (∃ value, decodeExactly (decode ty) (initial ty) content = .ok value) ↔
              remainder ty content = some [] := by
            rw [← verdict, decodeExactly_ok]
          simp only [Option.bind_some]
          cases read : decodeExactly (decode ty) (initial ty) content with
          | error value =>
              rw [read] at agrees
              refine (if_neg fun fine => ?_).symm
              obtain ⟨_, other⟩ := agrees.mpr fine
              cases other
          | ok value => exact (if_pos (agrees.mp ⟨value, read⟩)).symm

theorem remainder_elements (verdict : ∀ input, rest (decode ty (initial ty) input) = remainder ty input)
    (count : Nat) (input : List Byte) : (decodeElements (decode ty) (initial ty) count input).map Prod.snd =
      remainderOfElements (remainder ty) count input := by
  induction count generalizing input with
  | zero => rfl
  | succ count ih =>
      rw [decodeElements, remainderOfElements, ← remainder_element verdict]
      cases decodeSequenceElement (decode ty) (initial ty) input with
      | none => rfl
      | some result =>
          obtain ⟨first, input⟩ := result
          change ((decodeElements (decode ty) (initial ty) count input).bind _).map Prod.snd =
            remainderOfElements (remainder ty) count input
          rw [← ih]
          cases decodeElements (decode ty) (initial ty) count input <;> rfl

variable {member : Member}

theorem memberReader_verdict
    (verdict : ∀ current input, rest (decode member.2.2 current input) = remainder member.2.2 input)
    (current : Option Value) (payload : List Byte) :
    (∃ value, (memberReader member).decode current payload = .ok value) ↔ memberAccepts member payload := by
  rw [memberAccepts, ← verdict, ← decodeExactly_ok, memberReader]
  dsimp only
  cases decodeExactly (decode member.2.2)
      (if member.2.1 then current.getD (initial member.2.2) else initial member.2.2) payload with
  | error value => exact iff_of_false nofun nofun
  | ok value => exact iff_of_true ⟨value, rfl⟩ ⟨value, rfl⟩

/-- The members of a struct follow the payloads that they are handed. -/
theorem readSlots_struct (distinct : (members.map Prod.fst).Nodup) (verdict : ∀ member ∈ members, ∀ current input,
      rest (decode member.2.2 current input) = remainder member.2.2 input) (current : Value) (input : List Byte) :
    Ends (Completes members memberReader memberAccepts current.member) (Tracks members memberReader current.member)
      (readSlots framing (readers members) true current.member input)
      (readSlots framing (recorders members) true (fun _ => none) input) := by
  rw [readers_eq_map, recorders_eq_map]
  exact readSlots_ends distinct (fun member listed => memberReader_verdict (verdict member listed)) input

/-- The verdict of a decoder does not depend on its output variable. -/
theorem rest_decode (unique : UniqueTags ty) (current : Value) (input : List Byte) :
    rest (decode ty current input) = remainder ty input := by
  induction ty using Ty.induction generalizing current input with
  | integer signed size =>
      rw [decode, rest_assign, remainder]
      cases unsignedInteger size input <;> rfl
  | bool =>
      rw [decode, rest_assign, remainder]
      cases unsignedInteger 1 input with
      | none => rfl
      | some result =>
          change Option.map Prod.snd (if result.1 > 1 then none else _) = if result.1 > 1 then none else _
          split <;> rfl
  | float =>
      rw [decode, rest_assign, remainder]
      cases unsignedInteger 4 input <;> rfl
  | double =>
      rw [decode, rest_assign, remainder]
      cases unsignedInteger 8 input <;> rfl
  | bytes | string => rw [decode, rest_assign, remainder]
  | boundedString capacity =>
      rw [decode, rest_assign, remainder]
      cases unsignedInteger 4 input with
      | none => rfl
      | some result =>
          obtain ⟨size, input⟩ := result
          change Option.map Prod.snd (if size > capacity then none else (raw size input).bind _) =
            if size > capacity then none else _
          split
          · rfl
          · cases raw size input <;> rfl
  | boundedVector element capacity inner =>
      rw [decode, rest_assign, remainder]
      cases unsignedInteger 4 input with
      | none => rfl
      | some result =>
          obtain ⟨size, input⟩ := result
          change Option.map Prod.snd (if size > capacity then none else
            (decodeElements (decode element) (initial element) size input).bind _) =
            if size > capacity then none else _
          rw [← remainder_elements (inner unique _)]
          split
          · rfl
          · cases decodeElements (decode element) (initial element) size input <;> rfl
  | array element capacity inner =>
      rw [decode, rest_assign, remainder, ← remainder_elements (inner unique _)]
      cases decodeElements (decode element) (initial element) capacity input <;> rfl
  | vector element inner =>
      rw [decode, rest_assign, remainder]
      cases unsignedInteger 4 input with
      | none => rfl
      | some result =>
          obtain ⟨size, input⟩ := result
          change Option.map Prod.snd (if size > input.length then none else
            (decodeElements (decode element) (initial element) size input).bind _) =
            if size > input.length then none else _
          rw [← remainder_elements (inner unique _)]
          split
          · rfl
          · cases decodeElements (decode element) (initial element) size input <;> rfl
  | optional content inner =>
      rw [decode, rest_assign, remainder]
      cases unsignedInteger 1 input with
      | none => rfl
      | some result =>
          obtain ⟨present, input⟩ := result
          change Option.map Prod.snd (if present > 1 then none else if present = 0 then _ else _) =
            if present > 1 then none else if present = 0 then _ else remainder content input
          rw [← inner unique (initial content) input]
          split
          · rfl
          · split
            · rfl
            · cases decode content (initial content) input <;> rfl
  | struct members inner =>
      obtain ⟨distinct, below⟩ := unique
      have ends := readSlots_struct distinct
        (fun member listed => inner member listed (uniqueMemberTags_iff.mp below member listed)) current input
      rw [decode, readRecord_eq, remainder]
      rcases ends.both with ⟨slots, record, first, second, _⟩ | ⟨slots, record, first, second, _⟩
      · rw [first, second]
        rfl
      · rw [first, second]
        rfl

variable (unique : UniqueTags (.struct members))
include unique

/-- The members of a struct are left to the payloads that they are handed. -/
theorem leaves_struct (current : Value) (input : List Byte) :
    leaves (.struct members) current input = .record (members.map fun member =>
      (member.1, (memberReader member).left (current.member member.1) (payloads members input member.1))) := by
  have ends := readSlots_struct unique.1
    (fun member listed => rest_decode (uniqueMemberTags_iff.mp unique.2 member listed)) current input
  rw [leaves, decode, readRecord_eq, payloads]
  have fields : ∀ slots : Slots Value, slots.fields (readers members) =
      members.map fun member => (member.1, slots.values member.1) := by
    intro slots
    rw [Slots.fields, readers_eq_map, List.map_map]
    rfl
  rcases ends.both with ⟨slots, record, first, second, related⟩ | ⟨slots, record, first, second, related⟩
  · rw [first, second]
    refine congrArg Value.record ((fields slots).trans (List.map_congr_left fun member listed => ?_))
    exact congrArg (member.1, ·) (related.values member listed)
  · rw [first, second]
    refine congrArg Value.record ((fields slots).trans (List.map_congr_left fun member listed => ?_))
    exact congrArg (member.1, ·) (related.values member listed)

theorem member_leaves (current : Value) (input : List Byte)
    (listed : member ∈ members) : (leaves (.struct members) current input).member member.1 =
      (memberReader member).left (current.member member.1) (payloads members input member.1) := by
  rw [leaves_struct unique]
  exact @Value.member_record _ (member.1, _) (by rw [List.map_map]; exact unique.1)
    (List.mem_map.mpr ⟨member, listed, rfl⟩)

/-- In an accepted struct every payload is accepted, and every required member has one. -/
theorem accepted_struct (accepted : remainder (.struct members) input ≠ none) (listed : member ∈ members) :
    (∀ payload ∈ payloads members input member.1, remainder member.2.2 payload = some []) ∧
      (member.2.1 = true → (payloads members input member.1).isSome) := by
  have ends := readSlots_struct unique.1
    (fun member listed => rest_decode (uniqueMemberTags_iff.mp unique.2 member listed))
    (initial (.struct members)) input
  rw [remainder] at accepted
  rw [payloads]
  rcases ends.both with ⟨slots, record, _, second, related⟩ | ⟨slots, record, _, second, _⟩
  · rw [second]
    exact ⟨related.accepted member listed, related.required member listed⟩
  · rw [second] at accepted
    exact absurd rfl accepted

end Verdicts

/-- A value-initialized object is a value of its type. -/
theorem hasType_initial (unique : UniqueTags ty) : HasType ty (initial ty) := by
  induction ty using Ty.induction with
  | integer signed size =>
      have positive : (0 : Int) < 256 ^ size := Int.pow_pos (by decide)
      change if signed then _ else _
      split <;> omega
  | boundedString capacity => exact Nat.zero_le _
  | boundedVector element capacity _ => exact ⟨Nat.zero_le _, nofun⟩
  | array element capacity inner =>
      refine ⟨List.length_replicate, fun value listed => ?_⟩
      rw [List.eq_of_mem_replicate listed]
      exact inner unique
  | vector element _ => exact nofun
  | optional content _ => exact nofun
  | struct members inner =>
      obtain ⟨distinct, below⟩ := unique
      rw [HasType]
      refine ⟨?_, hasMembers_iff.mpr fun member listed => ?_⟩
      · conv_lhs => rw [initial, initialMembers_eq_map]
        refine congrArg Value.record (List.map_congr_left fun member listed => ?_)
        rw [member_initial distinct listed]
      · rw [member_initial distinct listed]
        cases required : member.2.1 with
        | false => rfl
        | true => exact inner member listed (uniqueMemberTags_iff.mp below member listed)
  | _ => trivial

theorem hasType_assign {result : Option (Value × List Byte)} (typed : HasType ty current)
    (fresh : ∀ value rest, result = some (value, rest) → HasType ty value) :
    HasType ty (left (assign current result)) := by
  cases result with
  | none => exact typed
  | some result => exact fresh result.1 result.2 rfl

theorem decodeExactly_leaves {value : Value}
    (read : decodeExactly (decode ty) current input = .ok value) : value = leaves ty current input := by
  have equal : decodeValue ty current input = _ := decodeValue_eq current input
  rw [decodeValue, read] at equal
  split at equal
  · exact Except.ok.inj equal
  · cases equal

theorem hasType_elements (inner : ∀ input, HasType ty (leaves ty (initial ty) input)) {count : Nat}
    {input rest : List Byte} {values : List Value}
    (read : decodeElements (decode ty) (initial ty) count input = some (values, rest)) :
    ∀ value ∈ values, HasType ty value := by
  induction count generalizing input values rest with
  | zero =>
      cases read
      exact nofun
  | succ count ih =>
      obtain ⟨⟨first, middle⟩, head, read⟩ := Option.bind_eq_some_iff.mp read
      obtain ⟨⟨others, last⟩, tail, same⟩ := Option.bind_eq_some_iff.mp read
      cases same
      refine List.forall_mem_cons.mpr ⟨?_, ih tail⟩
      obtain ⟨⟨size, input⟩, _, head⟩ := Option.bind_eq_some_iff.mp head
      obtain ⟨⟨content, input⟩, _, head⟩ := Option.bind_eq_some_iff.mp head
      dsimp only at head
      cases exact : decodeExactly (decode ty) (initial ty) content with
      | error value =>
          rw [exact] at head
          cases head
      | ok value =>
          rw [exact] at head
          cases head
          exact decodeExactly_leaves exact ▸ inner content

/-- The reader of a member that has received a payload leaves the member engaged. -/
theorem left_memberReader (member : Member) (current : Option Value) (payload : List Byte) :
    (memberReader member).left current (some payload) = some (leaves member.2.2
      (if member.2.1 then current.getD (initial member.2.2) else initial member.2.2) payload) := by
  unfold Reader.left memberReader leaves decodeExactly
  dsimp only
  cases decode member.2.2 (if member.2.1 then current.getD (initial member.2.2) else initial member.2.2) payload with
  | error value => rfl
  | ok result =>
      obtain ⟨value, rest⟩ := result
      by_cases empty : rest = []
      · simp only [if_pos empty]
        rfl
      · simp only [if_neg empty]
        rfl

/-- The decoder leaves a value of the type in its output variable. -/
def Typed (ty : Ty) : Prop := ∀ {current}, HasType ty current → ∀ input, HasType ty (leaves ty current input)

theorem typed_integer (signed : Bool) (size : Nat) : Typed (.integer signed size) := by
  intro current typed input
  rw [leaves, decode]
  refine hasType_assign typed fun value rest read => ?_
  obtain ⟨⟨bits, _⟩, read, same⟩ := Option.bind_eq_some_iff.mp read
  cases same
  obtain ⟨long, rfl, _⟩ := unsignedInteger_eq_some read
  have small := Codec.littleEndianValue_lt (input.take size)
  rw [List.length_take_of_le long] at small
  exact Value.inRange_ofBits signed small

theorem typed_bool : Typed .bool := by
  intro current typed input
  rw [leaves, decode]
  refine hasType_assign typed fun value rest read => ?_
  obtain ⟨⟨bits, _⟩, _, read⟩ := Option.bind_eq_some_iff.mp read
  dsimp only at read
  split at read
  · cases read
  · cases read
    trivial

theorem typed_float : Typed .float := by
  intro current typed input
  rw [leaves, decode]
  refine hasType_assign typed fun value rest read => ?_
  obtain ⟨⟨bits, _⟩, _, same⟩ := Option.bind_eq_some_iff.mp read
  cases same
  trivial

theorem typed_double : Typed .double := by
  intro current typed input
  rw [leaves, decode]
  refine hasType_assign typed fun value rest read => ?_
  obtain ⟨⟨bits, _⟩, _, same⟩ := Option.bind_eq_some_iff.mp read
  cases same
  trivial

theorem typed_text (text : ty = .bytes ∨ ty = .string) : Typed ty := by
  intro current typed input
  rcases text with rfl | rfl <;>
  · rw [leaves, decode]
    refine hasType_assign typed fun value rest read => ?_
    obtain ⟨⟨size, _⟩, _, read⟩ := Option.bind_eq_some_iff.mp read
    dsimp only at read
    split at read
    · cases read
    · obtain ⟨⟨content, _⟩, _, same⟩ := Option.bind_eq_some_iff.mp read
      cases same
      trivial

theorem typed_boundedString (capacity : Nat) : Typed (.boundedString capacity) := by
  intro current typed input
  rw [leaves, decode]
  refine hasType_assign typed fun value rest read => ?_
  obtain ⟨⟨size, _⟩, _, read⟩ := Option.bind_eq_some_iff.mp read
  dsimp only at read
  split at read
  · cases read
  · rename_i room
    obtain ⟨⟨content, _⟩, found, same⟩ := Option.bind_eq_some_iff.mp read
    cases same
    obtain ⟨long, rfl, _⟩ := raw_eq_some found
    change (List.take size _).length ≤ capacity
    rw [List.length_take_of_le long]
    exact Nat.le_of_not_lt room

section Elements
variable {element : Ty} (unique : UniqueTags element) (inner : Typed element)
include unique inner

theorem typed_boundedVector (capacity : Nat) : Typed (.boundedVector element capacity) := by
  intro current typed input
  rw [leaves, decode]
  refine hasType_assign typed fun value rest read => ?_
  obtain ⟨⟨size, _⟩, _, read⟩ := Option.bind_eq_some_iff.mp read
  dsimp only at read
  split at read
  · cases read
  · rename_i room
    obtain ⟨⟨values, _⟩, found, same⟩ := Option.bind_eq_some_iff.mp read
    cases same
    exact ⟨length_decodeElements found ▸ Nat.le_of_not_lt room, hasType_elements (inner (hasType_initial unique)) found⟩

theorem typed_array (capacity : Nat) : Typed (.array element capacity) := by
  intro current typed input
  rw [leaves, decode]
  refine hasType_assign typed fun value rest read => ?_
  obtain ⟨⟨values, _⟩, found, same⟩ := Option.bind_eq_some_iff.mp read
  cases same
  exact ⟨length_decodeElements found, hasType_elements (inner (hasType_initial unique)) found⟩

theorem typed_vector : Typed (.vector element) := by
  intro current typed input
  rw [leaves, decode]
  refine hasType_assign typed fun value rest read => ?_
  obtain ⟨⟨size, _⟩, _, read⟩ := Option.bind_eq_some_iff.mp read
  dsimp only at read
  split at read
  · cases read
  · obtain ⟨⟨values, _⟩, found, same⟩ := Option.bind_eq_some_iff.mp read
    cases same
    exact hasType_elements (inner (hasType_initial unique)) found

theorem typed_optional : Typed (.optional element) := by
  intro current typed input
  rw [leaves, decode]
  refine hasType_assign typed fun value rest read => ?_
  obtain ⟨⟨present, input⟩, _, read⟩ := Option.bind_eq_some_iff.mp read
  dsimp only at read
  split at read
  · cases read
  · split at read
    · cases read
      intro value held
      cases held
    · have kept := inner (hasType_initial unique) input
      rw [leaves] at kept
      cases found : decode element (initial element) input with
      | error value =>
          rw [found] at read
          cases read
      | ok result =>
          rw [found] at read kept
          cases read
          intro value held
          cases held
          exact kept

end Elements

/-- A member without a field keeps its content, and the other members are decoded over it. -/
theorem typed_struct (unique : UniqueTags (.struct members))
    (inner : ∀ member ∈ members, Typed member.2.2) : Typed (.struct members) := by
  intro current typed input
  have below := uniqueMemberTags_iff.mp unique.2
  have contents := hasMembers_iff.mp typed.2
  rw [HasType]
  refine ⟨?_, hasMembers_iff.mpr fun member listed => ?_⟩
  · conv_lhs => rw [leaves_struct unique]
    exact congrArg Value.record (List.map_congr_left fun member listed => by
      rw [member_leaves unique current input listed])
  · rw [member_leaves unique current input listed]
    have content := contents member listed
    cases payloads members input member.1 with
    | none => exact content
    | some payload =>
        rw [left_memberReader]
        refine inner member listed ?_ payload
        split
        · rename_i required
          cases held : current.member member.1 with
          | none => exact hasType_initial (below member listed)
          | some value =>
              rw [held] at content
              exact content
        · exact hasType_initial (below member listed)

/-- A decoder leaves a value of its type in its output variable, whether it accepts or not. -/
theorem hasType_leaves (unique : UniqueTags ty) : Typed ty := by
  induction ty using Ty.induction with
  | integer signed size => exact typed_integer signed size
  | bool => exact typed_bool
  | float => exact typed_float
  | double => exact typed_double
  | bytes => exact typed_text (.inl rfl)
  | string => exact typed_text (.inr rfl)
  | boundedString capacity => exact typed_boundedString capacity
  | boundedVector element capacity inner => exact @typed_boundedVector element unique (inner unique) capacity
  | array element capacity inner => exact @typed_array element unique (inner unique) capacity
  | vector element inner => exact @typed_vector element unique (inner unique)
  | optional content inner => exact @typed_optional content unique (inner unique)
  | struct members inner =>
      exact typed_struct unique fun member listed =>
        inner member listed (uniqueMemberTags_iff.mp unique.2 member listed)

end OpenVehicle.Com
