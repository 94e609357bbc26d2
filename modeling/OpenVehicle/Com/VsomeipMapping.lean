/-
This file models the native mappings of the SOME/IP transport, which a deployment states as texts.
-/

import OpenVehicle.Data.KeyValue

namespace OpenVehicle.Com.Vsomeip

open Data.KeyValue (Text Decoder unsigned digits)

inductive ElementKind where
  | event | method | fieldGet | fieldSet | fieldNotify
  deriving DecidableEq, Repr

structure Mapping where
  service : UInt16 := 0
  instanceId : UInt16 := 0
  element : UInt16 := 0
  eventGroup : UInt16 := 0
  majorVersion : UInt8 := 0
  minorVersion : UInt32 := 0
  kind : ElementKind := .event
  reliable : Bool := false
  deriving DecidableEq, Repr

def kinds : List (Text × ElementKind) :=
  [("event".toList, .event), ("method".toList, .method), ("fieldGet".toList, .fieldGet), ("fieldSet".toList, .fieldSet),
    ("fieldNotify".toList, .fieldNotify)]

/-- A number of an entry that is not valid is an error. -/
def number (bit limit : Nat) (valid : Nat → Bool) (error : String) (assign : Nat → Mapping → Mapping) (value : Text) :
    Except String (Nat × (Mapping → Mapping)) :=
  match unsigned limit value with
  | none => .error error
  | some number => if valid number then .ok (bit, assign number) else .error error

def decode : Decoder Nat Mapping := fun key value =>
  if key = "service".toList then
    number 0 0xffff (· != 0) "invalid service" (fun number mapping => { mapping with service := .ofNat number }) value
  else if key = "instance".toList then
    number 1 0xffff (· != 0xffff) "invalid instance"
      (fun number mapping => { mapping with instanceId := .ofNat number }) value
  else if key = "element".toList then
    number 2 0xffff (fun _ => true) "invalid element"
      (fun number mapping => { mapping with element := .ofNat number }) value
  else if key = "eventGroup".toList then
    number 3 0xffff (fun _ => true) "invalid eventGroup"
      (fun number mapping => { mapping with eventGroup := .ofNat number }) value
  else if key = "major".toList then
    number 4 0xff (fun _ => true) "invalid major"
      (fun number mapping => { mapping with majorVersion := .ofNat number }) value
  else if key = "minor".toList then
    number 5 0xffffffff (fun _ => true) "invalid minor"
      (fun number mapping => { mapping with minorVersion := .ofNat number }) value
  else if key = "kind".toList then
    match kinds.lookup value with
    | none => .error "invalid kind"
    | some kind => .ok (6, fun mapping => { mapping with kind := kind })
  else if key = "reliable".toList then
    if value = "true".toList then .ok (7, fun mapping => { mapping with reliable := true })
    else if value = "false".toList then .ok (7, fun mapping => { mapping with reliable := false })
    else .error "invalid reliable"
  else .error "unknown mapping key"

def Mapping.notification (mapping : Mapping) : Bool := mapping.kind == .event || mapping.kind == .fieldNotify

/-- Every key occurs, and exactly the notifications have an event group. -/
def parseMapping (text : Text) : Except String Mapping :=
  match Data.KeyValue.parse decode {} text with
  | .error error => .error error
  | .ok (parsed, seen) =>
      if (List.range 8).any fun bit => bit ∉ seen then .error "mapping is incomplete"
      else if parsed.notification != (parsed.eventGroup != 0) then
        .error (if parsed.notification then "notification requires eventGroup" else "method mapping forbids eventGroup")
      else .ok parsed

/-- A call checks the error that its caller has passed after each entry that is valid. -/
def decodeAfter (error : String) : Decoder Nat Mapping := fun key value =>
  match decode key value with
  | .error message => .error message
  | .ok change => if error = "" then .ok change else .error error

/-- A call returns its result, the mapping and the error. The last two are arguments that it may overwrite. -/
def parseMappingInto (text : Text) (out : Mapping) (error : String) : Bool × Mapping × String :=
  match Data.KeyValue.parse (decodeAfter error) {} text with
  | .error message => (false, out, message)
  | .ok (parsed, seen) =>
      if (List.range 8).any fun bit => bit ∉ seen then (false, out, "mapping is incomplete")
      else if parsed.notification != (parsed.eventGroup != 0) then
        (false, out,
          if parsed.notification then "notification requires eventGroup" else "method mapping forbids eventGroup")
      else (true, parsed, "")

theorem decodeAfter_empty : decodeAfter "" = decode := by
  funext key value
  unfold decodeAfter
  split
  · rename_i refused
    exact refused.symm
  · rename_i accepted
    exact accepted.symm

/-- The mapping that a caller passes does not matter, and neither does an error that is empty. -/
theorem parseMappingInto_empty (text : Text) (out : Mapping) : parseMappingInto text out "" =
    match parseMapping text with
    | .error message => (false, out, message)
    | .ok mapping => (true, mapping, "") := by
  rw [parseMappingInto, decodeAfter_empty, parseMapping]
  cases Data.KeyValue.parse decode {} text with
  | error message => rfl
  | ok result =>
      obtain ⟨parsed, seen⟩ := result
      dsimp only
      split
      · rfl
      · split <;> rfl

def ElementKind.name : ElementKind → Text
  | .event => "event".toList
  | .method => "method".toList
  | .fieldGet => "fieldGet".toList
  | .fieldSet => "fieldSet".toList
  | .fieldNotify => "fieldNotify".toList

def formatMapping (value : Mapping) : Text :=
  "service=".toList ++ digits value.service.toNat ++
    ";instance=".toList ++ digits value.instanceId.toNat ++
    ";element=".toList ++ digits value.element.toNat ++
    ";eventGroup=".toList ++ digits value.eventGroup.toNat ++
    ";major=".toList ++ digits value.majorVersion.toNat ++
    ";minor=".toList ++ digits value.minorVersion.toNat ++
    ";kind=".toList ++ value.kind.name ++
    ";reliable=".toList ++ if value.reliable then "true".toList else "false".toList

end OpenVehicle.Com.Vsomeip
