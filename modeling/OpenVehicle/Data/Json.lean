/-
This file models JSON values and their numeric conversions. A conversion has no result where the
library throws. A number is an integer of one of two representations or a finite real.
-/

import Mathlib.Data.List.Dedup
import Mathlib.Data.Rat.Floor
import Mathlib.Data.String.Basic

namespace OpenVehicle.Data

inductive Json where
  | null
  | bool (value : Bool)
  | int (value : Int64)
  | uint (value : UInt64)
  | real (value : ℚ)
  | string (value : List UInt8)
  | array (values : List Json)
  | object (fields : List (String × Json))

/-- The characters of a text stand for bytes. -/
def text (bytes : List UInt8) : String := String.ofList (bytes.map fun byte => Char.ofNat byte.toNat)

theorem text_injective : Function.Injective text := by
  have number (byte : UInt8) : (Char.ofNat byte.toNat).toNat = byte.toNat := by
    have valid : byte.toNat.isValidChar := .inl (by have := byte.toNat_lt; omega)
    have same : Char.ofNat byte.toNat = Char.ofNatAux byte.toNat valid := dif_pos valid
    rw [same]
    rfl
  have single : Function.Injective fun byte : UInt8 => Char.ofNat byte.toNat := by
    intro first second same
    rw [← UInt8.toNat_inj, ← number first, ← number second]
    exact congrArg Char.toNat same
  intro first second same
  exact List.map_injective_iff.mpr single (String.ofList_inj.mp same)

namespace Json

def isObject : Json → Bool
  | object _ => true
  | _ => false

def isArray : Json → Bool
  | array _ => true
  | _ => false

def isString : Json → Bool
  | string _ => true
  | _ => false

def isBool : Json → Bool
  | bool _ => true
  | _ => false

/-- The fields of a null value are those of the empty object. -/
def fields : Json → List (String × Json)
  | object fields => fields
  | _ => []

variable (json : Json)

/-- A missing field reads as null. -/
def get (key : String) : Json := (json.fields.lookup key).getD null

def isMember (key : String) : Bool := (json.fields.lookup key).isSome

/-- The library throws when it reads a field of a value that is neither an object nor null. -/
def readable : Json → Bool
  | object _ => true
  | null => true
  | _ => false

def set (key : String) (value : Json) : Json := object ((key, value) :: json.fields)

def setOption (key : String) : Option Json → Json
  | none => json
  | some value => json.set key value

/-- The library enters a missing field as null when it reads a field of a value that may change. -/
def index (key : String) : Json × Json := (json.get key, if json.isMember key then json else json.set key null)

/-- Every field has one name. -/
def memberNames : List String := (json.fields.map Prod.fst).dedup

def items : Json → List Json
  | array values => values
  | _ => []

def asString : Json → List UInt8
  | string value => value
  | _ => []

def asBool : Json → Bool
  | bool value => value
  | _ => false

/-- The number that a conversion starts from. -/
def number : Json → Option ℚ
  | null => some 0
  | bool value => some (if value then 1 else 0)
  | int value => some value.toInt
  | uint value => some value.toNat
  | real value => some value
  | _ => none

/-- A conversion cuts the fraction and throws outside the range. -/
def convert (low high : Int) : Option Int :=
  json.number.bind fun value =>
    if low ≤ value ∧ value ≤ high then some (value.num.tdiv value.den) else none

def asInt64 : Option Int64 := (json.convert (-2 ^ 63) (2 ^ 63 - 1)).map Int64.ofInt

def asUInt64 : Option UInt64 := (json.convert 0 (2 ^ 64 - 1)).map fun value => UInt64.ofNat value.toNat

def asInt : Option Int32 := (json.convert (-2 ^ 31) (2 ^ 31 - 1)).map Int32.ofInt

def isIntegral : Json → Bool
  | int _ => true
  | uint _ => true
  | real value => -2 ^ 63 ≤ value ∧ value < 2 ^ 64 ∧ value.den = 1
  | _ => false

def isInt64 : Json → Bool
  | int _ => true
  | uint value => value.toNat ≤ 2 ^ 63 - 1
  | real value => -2 ^ 63 ≤ value ∧ value < 2 ^ 63 ∧ value.den = 1
  | _ => false

section Fields
variable {json value : Json} {key other : String} {option : Option Json}

@[simp] theorem fields_set : (json.set key value).fields = (key, value) :: json.fields := rfl

@[simp] theorem isObject_set : (json.set key value).isObject = true := rfl

@[simp] theorem readable_set : (json.set key value).readable = true := rfl

@[simp] theorem isMember_null : null.isMember key = false := rfl

theorem get_set : (json.set key value).get other = if other = key then value else json.get other := by
  unfold get
  rw [fields_set, List.lookup_cons]
  by_cases same : other = key
  · simp [same]
  · rw [beq_false_of_ne same, if_neg same]

theorem isMember_set : (json.set key value).isMember other = (other = key || json.isMember other) := by
  unfold isMember
  rw [fields_set, List.lookup_cons]
  by_cases same : other = key
  · simp [same]
  · rw [beq_false_of_ne same, decide_eq_false same, Bool.false_or]

theorem get_setOption : (json.setOption key option).get other = if other = key then option.getD (json.get other)
      else json.get other := by
  cases option with
  | none => simp [setOption]
  | some value => rw [setOption, get_set, Option.getD_some]

theorem isMember_setOption : (json.setOption key option).isMember other =
      ((other = key && option.isSome) || json.isMember other) := by
  cases option with
  | none => simp [setOption]
  | some value => rw [setOption, isMember_set, Option.isSome_some, Bool.and_true]

theorem isObject_setOption (object : json.isObject = true) : (json.setOption key option).isObject = true := by
  cases option with
  | none => exact object
  | some value => rfl

theorem mem_fields_iff : (∃ value, (key, value) ∈ json.fields) ↔ json.isMember key = true := by
  unfold isMember
  constructor
  · rintro ⟨value, found⟩
    cases missing : json.fields.lookup key with
    | some _ => rfl
    | none => exact absurd (List.lookup_eq_none_iff.mp missing _ found) (by simp)
  · intro present
    obtain ⟨value, found⟩ := Option.isSome_iff_exists.mp present
    obtain ⟨first, last, split, _⟩ := List.lookup_eq_some_iff.mp found
    exact ⟨value, split ▸ List.mem_append_right _ List.mem_cons_self⟩

theorem mem_memberNames : key ∈ json.memberNames ↔ json.isMember key = true := by
  rw [memberNames, List.mem_dedup, ← mem_fields_iff]
  simp

theorem nodup_memberNames (json : Json) : json.memberNames.Nodup := List.nodup_dedup _

theorem get_of_not_isMember (missing : ¬json.isMember key = true) : json.get key = null := by
  unfold isMember at missing
  unfold get
  rw [Option.not_isSome_iff_eq_none.mp missing]
  rfl

/-- A field that is entered as null reads as before. -/
@[simp] theorem get_index : (json.index key).2.get other = json.get other := by
  unfold index
  split
  · rfl
  · rename_i missing
    dsimp only
    rw [get_set]
    split
    · rename_i same
      rw [same, get_of_not_isMember missing]
    · rfl

end Fields

section Numbers
variable {value : Int} {json : Json}

theorem convert_number {low high : Int} (number : json.number = some (value : ℚ)) :
    json.convert low high = if low ≤ value ∧ value ≤ high then some value else none := by
  rw [convert, number, Option.bind_some, Rat.num_intCast, Rat.den_intCast]
  simp only [Int.cast_le, Nat.cast_one, Int.tdiv_one]

theorem convert_of_number (value : Int) {low high : Int} (number : json.number = some (value : ℚ))
    (above : low ≤ value) (below : value ≤ high) : json.convert low high = some value := by
  rw [convert_number number, if_pos ⟨above, below⟩]

theorem asUInt64_uint (value : UInt64) : (uint value).asUInt64 = some value := by
  have small := value.toNat_lt
  rw [asUInt64, convert_of_number value.toNat (by simp [number]) (by omega) (by omega)]
  simp

theorem asInt64_int (value : Int64) : (int value).asInt64 = some value := by
  have small := value.toInt_lt
  rw [asInt64, convert_of_number value.toInt rfl value.le_toInt (by omega)]
  simp

theorem asInt_int (value : Int32) : (int value.toInt64).asInt = some value := by
  have small := value.toInt_lt
  have large := value.le_toInt
  have same : value.toInt64.toInt = value.toInt := by simp
  rw [asInt, convert_of_number value.toInt (by rw [number, same]) (by omega) (by omega)]
  simp

/-- An integral value is an integer of 65 bits. -/
theorem integral_number (integral : json.isIntegral = true) :
    ∃ value : Int, json.number = some (value : ℚ) ∧ -2 ^ 63 ≤ value ∧ value < 2 ^ 64 ∧
      (json.isInt64 = true ↔ value < 2 ^ 63) := by
  cases json with
  | int value =>
      have low := value.le_toInt
      have high := value.toInt_lt
      exact ⟨value.toInt, rfl, by omega, by omega, by simp [isInt64]; omega⟩
  | uint value =>
      have high := value.toNat_lt
      refine ⟨value.toNat, by simp [number], by omega, by omega, ?_⟩
      simp only [isInt64, decide_eq_true_eq]
      omega
  | real value =>
      simp only [isIntegral, Bool.decide_and, Bool.and_eq_true, decide_eq_true_eq] at integral
      obtain ⟨low, high, whole⟩ := integral
      have same : (value.num : ℚ) = value := Rat.coe_int_num_of_den_eq_one whole
      have least : -2 ^ 63 ≤ value.num := by
        rw [← same] at low
        exact_mod_cast low
      have most : value.num < 2 ^ 64 := by
        rw [← same] at high
        exact_mod_cast high
      refine ⟨value.num, by rw [number, same], least, most, ?_⟩
      simp only [isInt64, Bool.decide_and, Bool.and_eq_true, decide_eq_true_eq]
      constructor
      · rintro ⟨_, below, _⟩
        rw [← same] at below
        exact_mod_cast below
      · intro below
        refine ⟨low, ?_, whole⟩
        rw [← same]
        exact_mod_cast below
  | null => cases integral
  | bool value => cases integral
  | string value => cases integral
  | array values => cases integral
  | object fields => cases integral

theorem asUInt64_isSome (number : json.number = some (value : ℚ)) (below : value < 2 ^ 64) :
    json.asUInt64.isSome = true ↔ 0 ≤ value := by
  rw [asUInt64, convert_number number]
  split
  · rename_i within
    simp [within.1]
  · rename_i outside
    simp only [Option.map_none, Option.isSome_none, Bool.false_eq_true, false_iff]
    omega

theorem asInt64_isSome (number : json.number = some (value : ℚ)) (above : -2 ^ 63 ≤ value) :
    json.asInt64.isSome = true ↔ value < 2 ^ 63 := by
  rw [asInt64, convert_number number]
  split
  · rename_i within
    simp only [Option.map_some, Option.isSome_some, true_iff]
    omega
  · rename_i outside
    simp only [Option.map_none, Option.isSome_none, Bool.false_eq_true, false_iff]
    omega

end Numbers

end Json

end OpenVehicle.Data
