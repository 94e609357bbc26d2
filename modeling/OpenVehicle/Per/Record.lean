/-
This file models the generated codec of typed persistent records.
-/

import OpenVehicle.Data.Tagged
import OpenVehicle.Data.Value
import OpenVehicle.Per.Types

namespace OpenVehicle.Per.Record

open Codec (Byte bigEndian bigEndianValue length_bigEndian bigEndianValue_bigEndian)
open Data (Value)
open Data.Value (toBits ofBits InRange)
open Tagged (Framing Reader readRecord)

/-- A struct lists its members with their tag and their presence requirement. -/
inductive Shape where
  | integer (signed : Bool) (size : Nat)
  | float
  | double
  | string (capacity : Nat)
  | struct (members : List (UInt32 × Bool × Shape))

abbrev Member := UInt32 × Bool × Shape

namespace Shape

/-- The induction over shapes descends into the members of a struct. -/
@[elab_as_elim]
theorem induction {motive : Shape → Prop} (integer : ∀ signed size, motive (.integer signed size))
    (float : motive .float) (double : motive .double) (string : ∀ capacity, motive (.string capacity))
    (struct : ∀ members : List Member, (∀ member ∈ members, motive member.2.2) → motive (.struct members)) :
    ∀ shape, motive shape
  | .integer signed size => integer signed size
  | .float => float
  | .double => double
  | .string capacity => string capacity
  | .struct members =>
      struct members fun member listed =>
        have smaller : sizeOf member.2.2 < 1 + sizeOf members := by
          have inside := List.sizeOf_lt_of_mem listed
          rcases member with ⟨tag, required, shape⟩
          simp only [Prod.mk.sizeOf_spec] at inside
          change sizeOf shape < _
          omega
        induction integer float double string struct member.2.2
termination_by shape => sizeOf shape

end Shape

/-- A buffer never grows over the limit. -/
def append (output bytes : List Byte) (maximum : Nat) : Option (List Byte) :=
  if bytes.length > maximum ∨ output.length > maximum - bytes.length then none else some (output ++ bytes)

def encodeScalar (size bits : Nat) (output : List Byte) (maximum : Nat) : Option (List Byte) :=
  append output (bigEndian size bits) maximum

def decodeScalar (size : Nat) (input : List Byte) : Option Nat :=
  if input.length = size then some (bigEndianValue input) else none

def appendField (tag : UInt32) (payload output : List Byte) (maximum : Nat) : Option (List Byte) :=
  if payload.length ≤ UInt32.size - 1 then do
    let output ← encodeScalar 4 tag.toNat output maximum
    let output ← encodeScalar 4 payload.length output maximum
    append output payload maximum
  else none

/-- The offset of the source is the front that has been dropped. -/
def nextField (input : List Byte) : Option (UInt32 × List Byte × List Byte) :=
  if input.length < 8 then none
  else do
    let tag ← decodeScalar 4 (input.take 4)
    let size ← decodeScalar 4 ((input.drop 4).take 4)
    let rest := input.drop 8
    if size > rest.length then none else some (UInt32.ofNat tag, rest.take size, rest.drop size)

mutual

def encode (maximum : Nat) : Shape → Value → List Byte → Option (List Byte)
  | .integer _ size, .integer value, output => encodeScalar size (toBits size value) output maximum
  | .float, .float bits, output => encodeScalar 4 bits.toNat output maximum
  | .double, .double bits, output => encodeScalar 8 bits.toNat output maximum
  | .string capacity, .bytes text, output =>
      if text.length ≤ capacity then append output text maximum else none
  | .struct members, value, output => encodeMembers maximum members value output
  | _, _, _ => none

/-- Each member is encoded to a buffer of its own before it is appended. -/
def encodeMembers (maximum : Nat) : List (UInt32 × Bool × Shape) → Value → List Byte → Option (List Byte)
  | [], _, output => some output
  | (tag, required, shape) :: members, value, output =>
      match value.member tag with
      | some content => do
          let field ← encode maximum shape content []
          let output ← appendField tag field output maximum
          encodeMembers maximum members value output
      | none => if required then none else encodeMembers maximum members value output

end

mutual

/-- A value-initialized object holds zeros, and its optional members are absent. -/
def initial : Shape → Value
  | .integer _ _ => .integer 0
  | .float => .float 0
  | .double => .double 0
  | .string _ => .bytes []
  | .struct members => .record (initialMembers members)

def initialMembers : List (UInt32 × Bool × Shape) → List (UInt32 × Option Value)
  | [] => []
  | (tag, required, shape) :: members =>
      (tag, if required then some (initial shape) else none) :: initialMembers members

end

theorem nextField_shorter {input payload rest : List Byte} {tag : UInt32}
    (next : nextField input = some (tag, payload, rest)) : rest.length < input.length := by
  rw [nextField] at next
  split at next
  · cases next
  · obtain ⟨_, _, next⟩ := Option.bind_eq_some_iff.mp next
    obtain ⟨size, _, next⟩ := Option.bind_eq_some_iff.mp next
    dsimp only at next
    split at next
    · cases next
    · cases next
      rw [List.length_drop, List.length_drop]
      omega

def framing : Framing := ⟨nextField, nextField_shorter⟩

mutual

/-- The decoder receives the object that it overwrites, and a failure reports what it leaves there. -/
def decode : Shape → Value → List Byte → Except Value Value
  | .integer signed size, current, input =>
      match decodeScalar size input with
      | none => .error current
      | some bits => .ok (.integer (ofBits signed size bits))
  | .float, current, input =>
      match decodeScalar 4 input with
      | none => .error current
      | some bits => .ok (.float (UInt32.ofNat bits))
  | .double, current, input =>
      match decodeScalar 8 input with
      | none => .error current
      | some bits => .ok (.double (UInt64.ofNat bits))
  | .string capacity, current, input =>
      if input.length ≤ capacity then .ok (.bytes input) else .error current
  | .struct members, current, input =>
      match readRecord framing (readers members) false current.member input with
      | .error fields => .error (.record fields)
      | .ok fields => .ok (.record fields)

/-- An optional member is decoded to a new object. -/
def readers : List (UInt32 × Bool × Shape) → List (Reader Value)
  | [] => []
  | (tag, required, shape) :: members =>
      ⟨tag, required, fun current payload =>
        if required then (decode shape (current.getD (initial shape)) payload).mapError some
        else (decode shape (initial shape) payload).mapError fun _ => current⟩ ::
      readers members

end

/-- The envelope starts with the letters of the format. -/
def magic : List Byte := [0x4f, 0x56, 0x50, 0x52]

def appendEnvelope (schema : List Byte) (version : UInt64) (payload output : List Byte) (maximum : Nat) :
    Option (List Byte) := do
  let output ← append output magic maximum
  let output ← append output schema maximum
  let output ← encodeScalar 8 version.toNat output maximum
  append output payload maximum

def openEnvelope (input schema : List Byte) (version : UInt64) : Option (List Byte) :=
  if input.length < 28 ∨ input.take 4 ≠ magic ∨ (input.drop 4).take 16 ≠ schema then none
  else
    match decodeScalar 8 ((input.drop 20).take 8) with
    | none => none
    | some encoded => if encoded ≠ version.toNat then none else some (input.drop 28)

/-- A persistent record has a schema identifier of sixteen bytes and a version. -/
structure Persistent where
  schema : List Byte
  version : UInt64
  members : List Member
  length_schema : schema.length = 16

namespace Persistent

def encode (record : Persistent) (value : Value) (maximum : Nat := 2 ^ 64 - 1) : Result (List Byte) :=
  match (Record.encode maximum (.struct record.members) value []).bind fun payload =>
      appendEnvelope record.schema record.version payload [] maximum with
  | none => .error ⟨.quotaExceeded, "persistent record exceeds its deployed bound"⟩
  | some envelope => .ok envelope

def decode (record : Persistent) (input : List Byte) : Result Value :=
  match openEnvelope input record.schema record.version with
  | none => .error ⟨.corrupted, "persistent record envelope is incompatible or malformed"⟩
  | some payload =>
      (Record.decode (.struct record.members) (initial (.struct record.members)) payload).mapError
        fun _ => ⟨.corrupted, "persistent record envelope is incompatible or malformed"⟩

end Persistent

end OpenVehicle.Per.Record
