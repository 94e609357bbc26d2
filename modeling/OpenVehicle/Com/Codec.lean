/-
This file models the generated codec of communication contracts. An encoder writes to a growing buffer
or to a destination, or it only counts, and a decoder consumes a front of its input.
-/

import OpenVehicle.Data.Tagged
import OpenVehicle.Data.Value

namespace OpenVehicle.Com

open Codec (Byte littleEndian littleEndianValue)
open Data (Value)
open Data.Value (toBits ofBits)
open Tagged (Framing Reader readRecord)

/-- A struct lists its members by tag with their presence requirement. -/
inductive Ty where
  | integer (signed : Bool) (size : Nat)
  | bool
  | float
  | double
  | bytes
  | string
  | boundedString (capacity : Nat)
  | boundedVector (element : Ty) (capacity : Nat)
  | array (element : Ty) (capacity : Nat)
  | vector (element : Ty)
  | optional (content : Ty)
  | struct (members : List (UInt32 × Bool × Ty))

abbrev Member := UInt32 × Bool × Ty

/-- A character of a fixed string is a signed byte. -/
abbrev Ty.character : Ty := .integer true 1

structure Encoder where
  bytes : List Byte := []
  destination : List Byte := []
  size : Nat := 0
  valid : Bool := true
  countOnly : Bool := false

namespace Encoder

/-- This encoder only counts. -/
def counter : Encoder := { countOnly := true }

def append (out : Encoder) (value : Byte) : Encoder :=
  if out.countOnly then { out with size := out.size + 1 }
  else if out.destination = [] then { out with bytes := out.bytes ++ [value], size := out.size + 1 }
  else if out.size < out.destination.length then
    { out with destination := out.destination.set out.size value, size := out.size + 1 }
  else { out with valid := false }

def raw (out : Encoder) (value : List Byte) : Encoder :=
  if out.countOnly then { out with size := out.size + value.length }
  else if out.destination = [] then
    { out with bytes := out.bytes ++ value, size := out.size + value.length }
  else if out.size > out.destination.length ∨ value.length > out.destination.length - out.size then
    { out with valid := false }
  else
    { out with
      destination := out.destination.take out.size ++ value ++ out.destination.drop (out.size + value.length)
      size := out.size + value.length }

def unsignedInteger (out : Encoder) (size value : Nat) : Encoder := (littleEndian size value).foldl append out

end Encoder

/-- A failed encoder reports what it has written. -/
abbrev Encode := Encoder → Except Encoder Encoder

/-- A field states its length, so its value is encoded twice. -/
def encodeField (tag : UInt32) (value : Encode) : Encode := fun out =>
  match value Encoder.counter with
  | .error _ => .error out
  | .ok counter =>
      if tag = 0 ∨ counter.valid = false ∨ counter.size > UInt32.size - 1 then .error out
      else value ((out.unsignedInteger 4 tag.toNat).unsignedInteger 4 counter.size)

def encodeSequenceElement (value : Encode) : Encode := fun out =>
  match value Encoder.counter with
  | .error _ => .error out
  | .ok counter =>
      if counter.valid = false ∨ counter.size > UInt32.size - 1 then .error out
      else value (out.unsignedInteger 4 counter.size)

def encodeElements (element : Value → Encode) : List Value → Encode
  | [], out => .ok out
  | value :: values, out =>
      (encodeSequenceElement (element value) out).bind (encodeElements element values)

/-- The length prefix is a conversion to 32 bits. -/
def lengthPrefix (length : Nat) : Nat := (UInt32.ofNat length).toNat

def encodeBytes (content : List Byte) : Encode := fun out =>
  if content.length > UInt32.size - 1 then .error out
  else .ok ((out.unsignedInteger 4 (lengthPrefix content.length)).raw content)

mutual

def encode : Ty → Value → Encode
  | .integer _ size, .integer value, out => .ok (out.unsignedInteger size (toBits size value))
  | .bool, .boolean value, out => .ok (out.unsignedInteger 1 (if value then 1 else 0))
  | .float, .float bits, out => .ok (out.unsignedInteger 4 bits.toNat)
  | .double, .double bits, out => .ok (out.unsignedInteger 8 bits.toNat)
  | .bytes, .bytes content, out => encodeBytes content out
  | .string, .bytes content, out => encodeBytes content out
  | .boundedString _, .bytes content, out =>
      .ok ((out.unsignedInteger 4 (lengthPrefix content.length)).raw content)
  | .boundedVector element _, .sequence values, out =>
      encodeElements (encode element) values (out.unsignedInteger 4 (lengthPrefix values.length))
  | .array element _, .sequence values, out => encodeElements (encode element) values out
  | .vector element, .sequence values, out =>
      if values.length > UInt32.size - 1 then .error out
      else encodeElements (encode element) values (out.unsignedInteger 4 (lengthPrefix values.length))
  | .optional content, .optional value, out =>
      let out := out.unsignedInteger 1 (if value.isSome then 1 else 0)
      match value with
      | none => .ok out
      | some value => encode content value out
  | .struct members, value, out => encodeMembers members value out
  | _, _, out => .error out

/-- An absent optional member has no field. -/
def encodeMembers : List (UInt32 × Bool × Ty) → Value → Encode
  | [], _, out => .ok out
  | (tag, required, ty) :: members, value, out =>
      match value.member tag with
      | some content => (encodeField tag (encode ty content) out).bind (encodeMembers members value)
      | none => if required then .error out else encodeMembers members value out

end

def unsignedInteger (size : Nat) (input : List Byte) : Option (Nat × List Byte) :=
  if input.length < size then none
  else some (littleEndianValue (input.take size), input.drop size)

def raw (size : Nat) (input : List Byte) : Option (List Byte × List Byte) :=
  if input.length < size then none else some (input.take size, input.drop size)

def nextField (input : List Byte) : Option (UInt32 × List Byte × List Byte) := do
  let (tag, input) ← unsignedInteger 4 input
  if tag = 0 then none
  else do
    let (size, input) ← unsignedInteger 4 input
    let (payload, input) ← raw size input
    some (UInt32.ofNat tag, payload, input)

theorem unsignedInteger_eq_some {size value : Nat} {input rest : List Byte}
    (read : unsignedInteger size input = some (value, rest)) :
    size ≤ input.length ∧ value = littleEndianValue (input.take size) ∧ rest = input.drop size := by
  rw [unsignedInteger] at read
  split at read
  · cases read
  · cases read
    exact ⟨by omega, rfl, rfl⟩

theorem raw_eq_some {size : Nat} {input content rest : List Byte} (read : raw size input = some (content, rest)) :
    size ≤ input.length ∧ content = input.take size ∧ rest = input.drop size := by
  rw [raw] at read
  split at read
  · cases read
  · cases read
    exact ⟨by omega, rfl, rfl⟩

theorem nextField_shorter {input payload rest : List Byte} {tag : UInt32}
    (next : nextField input = some (tag, payload, rest)) : rest.length < input.length := by
  obtain ⟨⟨number, first⟩, head, next⟩ := Option.bind_eq_some_iff.mp next
  dsimp only at next
  split at next
  · cases next
  · obtain ⟨⟨size, second⟩, middle, next⟩ := Option.bind_eq_some_iff.mp next
    obtain ⟨⟨content, third⟩, tail, next⟩ := Option.bind_eq_some_iff.mp next
    cases next
    obtain ⟨long, _, rfl⟩ := unsignedInteger_eq_some head
    obtain ⟨_, _, rfl⟩ := unsignedInteger_eq_some middle
    obtain ⟨_, _, rfl⟩ := raw_eq_some tail
    simp only [List.length_drop]
    omega

def framing : Framing := ⟨nextField, nextField_shorter⟩

mutual

/-- A value-initialized object holds zeros, and its optional members are absent. -/
def initial : Ty → Value
  | .integer _ _ => .integer 0
  | .bool => .boolean false
  | .float => .float 0
  | .double => .double 0
  | .bytes => .bytes []
  | .string => .bytes []
  | .boundedString _ => .bytes []
  | .boundedVector _ _ => .sequence []
  | .array element capacity => .sequence (List.replicate capacity (initial element))
  | .vector _ => .sequence []
  | .optional _ => .optional none
  | .struct members => .record (initialMembers members)

def initialMembers : List (UInt32 × Bool × Ty) → List (UInt32 × Option Value)
  | [] => []
  | (tag, required, ty) :: members =>
      (tag, if required then some (initial ty) else none) :: initialMembers members

end

/-- A failed decoder reports what it leaves in its output variable. -/
abbrev Decode := Value → List Byte → Except Value (Value × List Byte)

/-- Most decoders assign the variable at their end. -/
def assign (current : Value) : Option (Value × List Byte) → Except Value (Value × List Byte)
  | none => .error current
  | some result => .ok result

/-- A nested value must fill its frame. -/
def decodeExactly (value : Decode) (current : Value) (input : List Byte) : Except Value Value :=
  match value current input with
  | .error left => .error left
  | .ok (decoded, rest) => if rest = [] then .ok decoded else .error decoded

def decodeSequenceElement (value : Decode) (initial : Value) (input : List Byte) :
    Option (Value × List Byte) := do
  let (size, input) ← unsignedInteger 4 input
  let (content, input) ← raw size input
  match decodeExactly value initial content with
  | .error _ => none
  | .ok decoded => some (decoded, input)

def decodeElements (value : Decode) (initial : Value) : Nat → List Byte → Option (List Value × List Byte)
  | 0, input => some ([], input)
  | count + 1, input => do
      let (first, input) ← decodeSequenceElement value initial input
      let (values, input) ← decodeElements value initial count input
      some (first :: values, input)

def decodeBytes (input : List Byte) : Option (Value × List Byte) := do
  let (size, input) ← unsignedInteger 4 input
  if size > input.length then none
  else do
    let (content, input) ← raw size input
    some (.bytes content, input)

mutual

def decode : Ty → Decode
  | .integer signed size, current, input => assign current do
      let (bits, input) ← unsignedInteger size input
      some (.integer (ofBits signed size bits), input)
  | .bool, current, input => assign current do
      let (bits, input) ← unsignedInteger 1 input
      if bits > 1 then none else some (.boolean (bits == 1), input)
  | .float, current, input => assign current do
      let (bits, input) ← unsignedInteger 4 input
      some (.float (UInt32.ofNat bits), input)
  | .double, current, input => assign current do
      let (bits, input) ← unsignedInteger 8 input
      some (.double (UInt64.ofNat bits), input)
  | .bytes, current, input => assign current (decodeBytes input)
  | .string, current, input => assign current (decodeBytes input)
  | .boundedString capacity, current, input => assign current do
      let (size, input) ← unsignedInteger 4 input
      if size > capacity then none
      else do
        let (content, input) ← raw size input
        some (.bytes content, input)
  | .boundedVector element capacity, current, input => assign current do
      let (size, input) ← unsignedInteger 4 input
      if size > capacity then none
      else do
        let (values, input) ← decodeElements (decode element) (initial element) size input
        some (.sequence values, input)
  | .array element capacity, current, input => assign current do
      let (values, input) ← decodeElements (decode element) (initial element) capacity input
      some (.sequence values, input)
  | .vector element, current, input => assign current do
      let (size, input) ← unsignedInteger 4 input
      if size > input.length then none
      else do
        let (values, input) ← decodeElements (decode element) (initial element) size input
        some (.sequence values, input)
  | .optional content, current, input => assign current do
      let (present, input) ← unsignedInteger 1 input
      if present > 1 then none
      else if present = 0 then some (.optional none, input)
      else
        match decode content (initial content) input with
        | .error _ => none
        | .ok (value, input) => some (.optional (some value), input)
  | .struct members, current, input =>
      match readRecord framing (readers members) true current.member input with
      | .error fields => .error (.record fields)
      | .ok fields => .ok (.record fields, [])

/-- An optional member is engaged before it is decoded. -/
def readers : List (UInt32 × Bool × Ty) → List (Reader Value)
  | [] => []
  | (tag, required, ty) :: members =>
      ⟨tag, required, fun current payload =>
        (decodeExactly (decode ty) (if required then current.getD (initial ty) else initial ty)
          payload).mapError some⟩ ::
      readers members

end

/-- The public encoder returns no bytes when it fails. -/
def encodeValue (ty : Ty) (value : Value) : List Byte :=
  match encode ty value {} with
  | .error _ => []
  | .ok out => out.bytes

/-- The public decoder requires that the input is consumed. -/
def decodeValue (ty : Ty) (current : Value) (input : List Byte) : Except Value Value :=
  decodeExactly (decode ty) current input

end OpenVehicle.Com
