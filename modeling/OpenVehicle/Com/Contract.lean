/-
This file models the contract descriptions: their validation, the check of backward compatibility and the
types that the generator derives from them.
-/

import Mathlib.Data.List.Sort
import OpenVehicle.Com.Codec

namespace OpenVehicle.Com

/-- A description may hold a storage policy that the validation refuses. -/
inductive Storage where
  | fixed | bounded | unbounded
  | other (text : String)
  deriving DecidableEq, Repr

namespace Contract

structure MemberDefinition where
  name : String
  tag : Int
  type : String
  required : Bool
  deriving DecidableEq, Repr

/-- A description may hold a kind that the validation refuses. -/
inductive Kind where
  | integer (bits : Int) (signed : Bool)
  | sequence (element : String) (storage : Storage) (capacity : Option Int)
  | string (storage : Storage) (capacity : Option Int)
  | struct (members : List MemberDefinition)
  | other (kind : String)
  deriving DecidableEq, Repr

def Kind.name : Kind → String
  | .integer _ _ => "integer"
  | .sequence _ _ _ => "sequence"
  | .string _ _ => "string"
  | .struct _ => "struct"
  | .other kind => kind

structure TypeDefinition where
  name : String
  kind : Kind
  deriving DecidableEq, Repr

structure Event where
  id : String
  name : String
  tag : Int
  payload : String
  deriving DecidableEq, Repr

structure Method where
  id : String
  name : String
  tag : Int
  input : String
  output : String
  errors : List String
  idempotent : Bool
  deriving DecidableEq, Repr

structure Field where
  id : String
  name : String
  tag : Int
  value : String
  readable : Bool
  writable : Bool
  notifiable : Bool
  deriving DecidableEq, Repr

structure Service where
  id : String
  name : String
  version : String
  events : List Event
  methods : List Method
  fields : List Field
  deriving DecidableEq, Repr

end Contract

structure Contract where
  irVersion : Int
  wireFormat : String
  types : List Contract.TypeDefinition
  services : List Contract.Service
  deriving DecidableEq, Repr

namespace Contract

section Validation

def builtins : List String := ["bool", "f32", "f64", "string", "bytes"]

/-- This function reports an error when its condition holds. -/
def errorIf (condition : Bool) (message : String) : List String := if condition then [message] else []

/-- The representation of a printable name. It has double quotes when only they leave the name as it is. -/
def quoted (text : String) : String :=
  let apostrophe := Char.ofNat 39
  let quotation := Char.ofNat 34
  let quote := if apostrophe ∈ text.toList ∧ quotation ∉ text.toList then quotation else apostrophe
  let escaped := text.toList.flatMap fun character =>
    if character = quote ∨ character = Char.ofNat 92 then [Char.ofNat 92, character] else [character]
  String.ofList (quote :: escaped ++ [quote])

def isLetter (character : Char) : Bool := character.isAlpha || character == '_'

/-- A name starts with a letter and continues with letters and digits. -/
def isName (value : String) : Bool :=
  match value.toList with
  | [] => false
  | first :: rest => isLetter first && rest.all fun character => isLetter character || character.isDigit

def isHexDigit (character : Char) : Bool := character.isDigit || (decide ('a' ≤ character) && decide (character ≤ 'f'))

/-- A canonical identifier has hyphens, the version digit and a variant digit at fixed places. -/
def isUuid4 (value : String) : Bool :=
  let characters := value.toList
  characters.length == 36 && characters.zipIdx.all fun (character, index) =>
    if index = 8 ∨ index = 13 ∨ index = 18 ∨ index = 23 then character == '-'
    else if index = 14 then character == '4'
    else if index = 19 then character == '8' || character == '9' || character == 'a' || character == 'b'
    else isHexDigit character

def checkName (value location : String) : List String := errorIf (!isName value) (location ++ ": invalid name")

def checkUuid (value location : String) : List String :=
  errorIf (!isUuid4 value) (location ++ ": ID must be a canonical lowercase UUIDv4")

variable (types : List TypeDefinition)

def checkRef (value location : String) : List String :=
  errorIf (!builtins.contains value && !(types.map (·.name)).contains value)
    (location ++ ": unresolved type " ++ quoted value)

def tagInRange (tag : Int) : Bool := decide (1 ≤ tag) && decide (tag ≤ 0xFFFFFFFF)

def checkStorage (storage : Storage) (capacity : Option Int) (location : String) : List String :=
  errorIf (storage matches .other _) (location ++ ": invalid storage") ++
  errorIf ((storage == .fixed || storage == .bounded) && !(capacity.any (1 ≤ ·)))
    (location ++ ": fixed/bounded sequence needs positive capacity") ++
  errorIf (storage == .unbounded && capacity.isSome)
    (location ++ ": unbounded sequence cannot have capacity")

def checkMember (location : String) (member : MemberDefinition) : List String :=
  checkName member.name location ++
  errorIf (!tagInRange member.tag) (location ++ ": member tag out of range") ++
  checkRef types member.type location

def checkType (shape : TypeDefinition) : List String :=
  let location := "type " ++ shape.name
  checkName shape.name location ++
  match shape.kind with
  | .integer bits _ =>
      errorIf (!([8, 16, 32, 64].contains bits)) (location ++ ": unsupported integer width")
  | .sequence element storage capacity =>
      checkRef types element location ++ checkStorage storage capacity location
  | .string storage capacity => checkStorage storage capacity location
  | .struct members =>
      errorIf (!decide (members.map (·.tag)).Nodup) (location ++ ": member tags must be unique") ++
      errorIf (!decide (members.map (·.name)).Nodup) (location ++ ": member names must be unique") ++
      members.flatMap (checkMember types location)
  | .other kind => [location ++ ": unsupported kind " ++ quoted kind]

/-- The elements of a service are checked in the order of their kinds. -/
def elements (service : Service) : List (String × String × Int) :=
  service.events.map (fun event => (event.id, event.name, event.tag)) ++
  service.methods.map (fun method => (method.id, method.name, method.tag)) ++
  service.fields.map (fun field => (field.id, field.name, field.tag))

def checkElements (location : String) : List (String × String × Int) → List String → List String × List String
  | [], ids => ([], ids)
  | (id, name, tag) :: rest, ids =>
      let item := location ++ "." ++ name
      let later := checkElements location rest (id :: ids)
      (checkName name item ++ checkUuid id item ++ errorIf (ids.contains id) (item ++ ": duplicate entity ID") ++
        errorIf (!tagInRange tag) (item ++ ": element tag out of range") ++ later.1, later.2)

def checkServices (types : List TypeDefinition) : List Service → List String → List String
  | [], _ => []
  | service :: rest, ids =>
      let location := "service " ++ service.name
      let elementErrors := checkElements location (elements service) (service.id :: ids)
      checkName service.name location ++ checkUuid service.id location ++
      errorIf (ids.contains service.id) (location ++ ": duplicate entity ID") ++
      errorIf (!decide ((elements service).map (·.2.2)).Nodup)
        (location ++ ": element tags must be unique across all element kinds") ++
      elementErrors.1 ++
      service.events.flatMap (fun event => checkRef types event.payload location) ++
      service.methods.flatMap (fun method => checkRef types method.input location ++
        checkRef types method.output location ++
        method.errors.flatMap fun error => checkRef types error location) ++
      service.fields.flatMap (fun field => checkRef types field.value location) ++
      checkServices types rest elementErrors.2

/-- The validation lists every error. -/
def validate (model : Contract) : List String :=
  errorIf (model.irVersion != 1) "irVersion must be 1" ++
  errorIf (model.wireFormat != "ovf-tagged-le-v1") "wireFormat must be ovf-tagged-le-v1" ++
  errorIf (!decide (model.types.map (·.name)).Nodup) "type names must be unique" ++
  model.types.flatMap (checkType model.types) ++
  checkServices model.types model.services []

end Validation

/-- A dictionary built from a list keeps the last entry of a key. -/
def lastBy {A K : Type} [DecidableEq K] (key : A → K) (list : List A) (wanted : K) : Option A :=
  list.reverse.find? fun item => key item = wanted

def memberErrors (name : String) (before after : List MemberDefinition) : List String :=
  before.flatMap (fun member =>
    errorIf (lastBy (·.tag) after member.tag != some member)
      ("changed/removed " ++ name ++ " member tag " ++ toString member.tag)) ++
  after.flatMap (fun member =>
    errorIf (!(before.map (·.tag)).contains member.tag && member.required)
      ("added required member " ++ name ++ "." ++ member.name))

def typeErrors (types : List TypeDefinition) (before : TypeDefinition) : List String :=
  match lastBy (·.name) types before.name with
  | none => ["removed type " ++ before.name]
  | some after =>
      if before.kind.name ≠ after.kind.name then ["changed kind of type " ++ before.name]
      else
        match before.kind, after.kind with
        | .struct old, .struct new => memberErrors before.name old new
        | .other _, _ => []
        | _, _ =>
            errorIf (before != after) ("changed representation or bound of type " ++ before.name)

def elementErrors {A : Type} [DecidableEq A] (service : String) (id name : A → String) (before after : List A) :
    List String :=
  before.flatMap fun element =>
    errorIf (lastBy id after (id element) != some element)
      ("changed/removed " ++ service ++ "." ++ name element)

def serviceErrors (services : List Service) (before : Service) : List String :=
  match lastBy (·.id) services before.id with
  | none => ["removed service " ++ before.name]
  | some after =>
      elementErrors before.name (·.id) (·.name) before.events after.events ++
      elementErrors before.name (·.id) (·.name) before.methods after.methods ++
      elementErrors before.name (·.id) (·.name) before.fields after.fields

/-- The compatibility check lists what the new contract takes away from the old one. -/
def compatibilityErrors (old new : Contract) : List String :=
  old.types.flatMap (typeErrors new.types) ++ old.services.flatMap (serviceErrors new.services)

section Generation

/-- The state of the depth-first search over the type references. -/
structure Visits where
  visiting : List String := []
  visited : List String := []
  ordered : List TypeDefinition := []

/-- The names that a type holds by value, in ascending order. -/
def references (shape : TypeDefinition) : List String :=
  let names := match shape.kind with
    | .sequence element _ _ => [element]
    | .struct members => members.map MemberDefinition.type
    | _ => []
  names.insertionSort (· ≤ ·)

/-- A name that is being visited again closes a cycle. Every level of the search visits a new name, so the
number of types bounds the depth. -/
def visit (types : List TypeDefinition) : Nat → String → Visits → Except String Visits
  | 0, name, _ => .error ("recursive by-value type cycle involving " ++ name)
  | fuel + 1, name, state =>
      if state.visited.contains name then .ok state
      else
        match lastBy (·.name) types name with
        | none => .ok state
        | some shape =>
            if state.visiting.contains name then .error ("recursive by-value type cycle involving " ++ name)
            else do
              let state ← (references shape).foldlM (fun state reference => visit types fuel reference state)
                { state with visiting := name :: state.visiting }
              .ok ⟨state.visiting.erase name, name :: state.visited, state.ordered ++ [shape]⟩

def orderedTypes (types : List TypeDefinition) : Except String (List TypeDefinition) := do
  let names := (types.map (·.name)).insertionSort (· ≤ ·)
  let state ← names.foldlM (fun state name => visit types (types.length + 1) name state) {}
  .ok state.ordered

/-- The generated types that have been declared. -/
abbrev Environment := List (String × Ty)

variable (declared : Environment)

/-- A builtin name has precedence over a declared name. -/
def resolve : String → Option Ty
  | "bool" => some .bool
  | "f32" => some .float
  | "f64" => some .double
  | "bytes" => some .bytes
  | "string" => some .string
  | name => declared.lookup name

def integerType (bits : Int) (signed : Bool) : Option Ty :=
  if [8, 16, 32, 64].contains bits then some (.integer signed (bits.toNat / 8)) else none

def declareMember (member : MemberDefinition) : Option Member :=
  (resolve declared member.type).map fun ty => (UInt32.ofNat member.tag.toNat, member.required, ty)

def sortedMembers (members : List MemberDefinition) : List MemberDefinition :=
  members.insertionSort fun first second => first.tag ≤ second.tag

/-- The template of a type has no meaning when it refers to an undeclared name. -/
def declare (kind : Kind) : Option Ty :=
  match kind with
  | .integer bits signed => integerType bits signed
  | .string .bounded capacity => capacity.map fun capacity => .boundedString capacity.toNat
  | .string .fixed capacity => capacity.map fun capacity => .array Ty.character capacity.toNat
  | .string _ _ => some .string
  | .sequence element .bounded capacity => do
      some (.boundedVector (← resolve declared element) (← capacity).toNat)
  | .sequence element .fixed capacity => do
      some (.array (← resolve declared element) (← capacity).toNat)
  | .sequence element _ _ => (resolve declared element).map .vector
  | .struct members => ((sortedMembers members).mapM (declareMember declared)).map .struct
  | .other _ => none

def declareAll : List TypeDefinition → Environment → Except String Environment
  | [], declared => .ok declared
  | shape :: shapes, declared =>
      match declare declared shape.kind with
      | none => .error ("the declaration of " ++ shape.name ++ " does not compile")
      | some ty => declareAll shapes ((shape.name, ty) :: declared)

/-- The generated contract declares every type after the types that it holds. -/
def generate (model : Contract) : Except String Environment := do
  let ordered ← orderedTypes model.types
  declareAll ordered []

end Generation

end Contract

end OpenVehicle.Com
