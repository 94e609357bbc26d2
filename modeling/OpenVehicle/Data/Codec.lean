/-
This file relates the printers and the parsers of byte formats. A printer appends to its output or
fails, a parser consumes a front of its input or fails, and two inverse ones agree in both directions.
-/

import Mathlib.Data.List.Basic
import Mathlib.Tactic.Ring

namespace OpenVehicle.Codec

abbrev Byte := UInt8

/-- A printer appends bytes to its output. -/
abbrev Printer (E : Type) := StateT (List Byte) (Except E)

/-- A parser consumes a front of its input. -/
abbrev Parser (E : Type) := StateT (List Byte) (Except E)

/-- The fixed-width integers are the numbers below a power of the byte base. -/
class MachineInteger (A : Type) where
  size : Nat
  toNat : A → Nat
  ofNat : Nat → A
  toNat_lt : ∀ a, toNat a < 256 ^ size
  ofNat_toNat : ∀ a, ofNat (toNat a) = a
  toNat_ofNat : ∀ n, n < 256 ^ size → toNat (ofNat n) = n

instance : MachineInteger UInt8 where
  size := 1
  toNat := UInt8.toNat
  ofNat := UInt8.ofNat
  toNat_lt := UInt8.toNat_lt
  ofNat_toNat _ := UInt8.ofNat_toNat
  toNat_ofNat _ small := UInt8.toNat_ofNat_of_lt small

instance : MachineInteger UInt16 where
  size := 2
  toNat := UInt16.toNat
  ofNat := UInt16.ofNat
  toNat_lt := UInt16.toNat_lt
  ofNat_toNat _ := UInt16.ofNat_toNat
  toNat_ofNat _ small := UInt16.toNat_ofNat_of_lt small

instance : MachineInteger UInt32 where
  size := 4
  toNat := UInt32.toNat
  ofNat := UInt32.ofNat
  toNat_lt := UInt32.toNat_lt
  ofNat_toNat _ := UInt32.ofNat_toNat
  toNat_ofNat _ small := UInt32.toNat_ofNat_of_lt small

instance : MachineInteger UInt64 where
  size := 8
  toNat := UInt64.toNat
  ofNat := UInt64.ofNat
  toNat_lt := UInt64.toNat_lt
  ofNat_toNat _ := UInt64.ofNat_toNat
  toNat_ofNat _ small := UInt64.toNat_ofNat_of_lt small

instance : MachineInteger Int32 where
  size := 4
  toNat a := a.toUInt32.toNat
  ofNat n := (UInt32.ofNat n).toInt32
  toNat_lt a := a.toUInt32.toNat_lt
  ofNat_toNat a := by rw [UInt32.ofNat_toNat, Int32.toInt32_toUInt32]
  toNat_ofNat n small := by
    rw [UInt32.toUInt32_toInt32]
    exact UInt32.toNat_ofNat_of_lt small

instance : MachineInteger Int64 where
  size := 8
  toNat a := a.toUInt64.toNat
  ofNat n := (UInt64.ofNat n).toInt64
  toNat_lt a := a.toUInt64.toNat_lt
  ofNat_toNat a := by rw [UInt64.ofNat_toNat, Int64.toInt64_toUInt64]
  toNat_ofNat n small := by
    rw [UInt64.toUInt64_toInt64]
    exact UInt64.toNat_ofNat_of_lt small

/-- The little-endian bytes of a number. -/
def littleEndian : Nat → Nat → List Byte
  | 0, _ => []
  | size + 1, value => UInt8.ofNat value :: littleEndian size (value / 256)

/-- The number of a little-endian byte string. -/
def littleEndianValue : List Byte → Nat
  | [] => 0
  | byte :: bytes => byte.toNat + 256 * littleEndianValue bytes

@[simp] theorem length_littleEndian (size value : Nat) : (littleEndian size value).length = size := by
  induction size generalizing value with
  | zero => rfl
  | succ size ih => rw [littleEndian, List.length_cons, ih]

theorem littleEndianValue_littleEndian (size value : Nat) (small : value < 256 ^ size) :
    littleEndianValue (littleEndian size value) = value := by
  induction size generalizing value with
  | zero =>
      rw [pow_zero] at small
      rw [littleEndian, littleEndianValue]
      omega
  | succ size ih =>
      have quotient : value / 256 < 256 ^ size := by
        rw [pow_succ] at small
        exact Nat.div_lt_of_lt_mul (by rwa [mul_comm])
      rw [littleEndian, littleEndianValue, ih _ quotient, UInt8.toNat_ofNat']
      omega

theorem littleEndianValue_lt (bytes : List Byte) : littleEndianValue bytes < 256 ^ bytes.length := by
  induction bytes with
  | nil => exact Nat.one_pos
  | cons byte bytes ih =>
      have small := byte.toNat_lt
      rw [littleEndianValue, List.length_cons, pow_succ]
      omega

theorem littleEndian_littleEndianValue (bytes : List Byte) :
    littleEndian bytes.length (littleEndianValue bytes) = bytes := by
  induction bytes with
  | nil => rfl
  | cons byte bytes ih =>
      have small := byte.toNat_lt
      have low : UInt8.ofNat (byte.toNat + 256 * littleEndianValue bytes) = byte := by
        apply UInt8.toNat_inj.mp
        rw [UInt8.toNat_ofNat']
        omega
      have high : (byte.toNat + 256 * littleEndianValue bytes) / 256 = littleEndianValue bytes := by omega
      rw [littleEndianValue, List.length_cons, littleEndian, low, high, ih]

/-- The big-endian bytes of a number. -/
def bigEndian (size value : Nat) : List Byte := (littleEndian size value).reverse

/-- The number of a big-endian byte string. -/
def bigEndianValue (bytes : List Byte) : Nat := bytes.foldl (fun value byte => 256 * value + byte.toNat) 0

@[simp] theorem length_bigEndian (size value : Nat) : (bigEndian size value).length = size := by
  rw [bigEndian, List.length_reverse, length_littleEndian]

theorem bigEndianValue_reverse (bytes : List Byte) : bigEndianValue bytes.reverse = littleEndianValue bytes := by
  induction bytes with
  | nil => rfl
  | cons byte bytes ih =>
      rw [bigEndianValue] at ih
      rw [bigEndianValue, List.reverse_cons, List.foldl_append, ih, littleEndianValue]
      exact Nat.add_comm ..

theorem bigEndianValue_bigEndian (size value : Nat) (small : value < 256 ^ size) :
    bigEndianValue (bigEndian size value) = value := by
  rw [bigEndian, bigEndianValue_reverse, littleEndianValue_littleEndian size value small]

namespace Printer
variable {E A : Type}

def bytes (value : List Byte) : Printer E Unit := fun output => .ok ((), output ++ value)

def integer [MachineInteger A] (value : A) : Printer E Unit :=
  bytes (littleEndian (MachineInteger.size A) (MachineInteger.toNat value))

/-- A string is preceded by its length. -/
def string (value : List Byte) (failure : E) : Printer E Unit :=
  if value.length > UInt32.size - 1 then throw failure
  else do
    integer (UInt32.ofNat value.length)
    bytes value

def many (print : A → Printer E Unit) : List A → Printer E Unit
  | [] => pure ()
  | value :: values => do
      print value
      many print values

/-- A list of integers is preceded by its length. -/
def integers [MachineInteger A] (values : List A) (failure : E) : Printer E Unit :=
  if values.length > UInt32.size - 1 then throw failure
  else do
    integer (UInt32.ofNat values.length)
    many integer values

def option (print : A → Printer E Unit) : Option A → Printer E Unit
  | none => pure ()
  | some value => print value

end Printer

namespace Parser
variable {E : Type}

/-- A parser may stop the run with a failure. -/
def reject (bad : Bool) (failure : E) : Parser E Unit := fun input => if bad then .error failure else .ok ((), input)

def bytes (length : Nat) (failure : E) : Parser E (List Byte) :=
  fun input =>
    if length > input.length then .error failure else .ok (input.take length, input.drop length)

def integer (A : Type) [MachineInteger A] (failure : E) : Parser E A :=
  fun input =>
    if input.length < MachineInteger.size A then .error failure
    else .ok (MachineInteger.ofNat (littleEndianValue (input.take (MachineInteger.size A))),
      input.drop (MachineInteger.size A))

def string (failure : E) : Parser E (List Byte) := do
  let length ← integer UInt32 failure
  bytes length.toNat failure

/-- The number of unread bytes. -/
def remaining : Parser E Nat := fun input => .ok (input.length, input)

def many {A : Type} (parse : Parser E A) : Nat → Parser E (List A)
  | 0 => pure []
  | count + 1 => do
      let value ← parse
      let values ← many parse count
      pure (value :: values)

def integers (A : Type) [MachineInteger A] (failure : E) : Parser E (List A) := do
  let count ← integer UInt32 failure
  let left ← remaining
  reject (count.toNat > left / MachineInteger.size A) failure
  many (integer A failure) count.toNat

def option {A : Type} (present : Bool) (parse : Parser E A) : Parser E (Option A) :=
  if present then do
    let value ← parse
    pure (some value)
  else pure none

end Parser

section Run
variable {E A B : Type} {input rest : List Byte}

theorem bind_eq_ok {first : Parser E A} {next : A → Parser E B} {value : B} :
    (first >>= next) input = .ok (value, rest) ↔
      ∃ a middle, first input = .ok (a, middle) ∧ next a middle = .ok (value, rest) := by
  show (first input).bind (fun pair => next pair.1 pair.2) = _ ↔ _
  cases first input with
  | error failure => simp [Except.bind]
  | ok pair => simp [Except.bind, Prod.ext_iff]

theorem pure_eq_ok {value other : A} :
    (pure value : Parser E A) input = .ok (other, rest) ↔ value = other ∧ input = rest := by
  show Except.ok (value, input) = .ok (other, rest) ↔ _
  simp

end Run

namespace Printer
variable {E A : Type}

/-- This printer appends the same bytes to every output. -/
def Total (print : Printer E Unit) : Prop := ∃ value, ∀ output, print output = .ok ((), output ++ value)

theorem Total.bind {first next : Printer E Unit} (head : Total first) (tail : Total next) : Total (do first; next) := by
  obtain ⟨front, printing⟩ := head
  obtain ⟨back, writing⟩ := tail
  refine ⟨front ++ back, fun output => ?_⟩
  rw [← List.append_assoc]
  exact bind_eq_ok.mpr ⟨(), _, printing output, writing _⟩

theorem total_pure : Total (pure () : Printer E Unit) := ⟨[], fun output => by rw [List.append_nil]; rfl⟩

theorem total_integer [MachineInteger A] (value : A) : Total (integer value : Printer E Unit) := ⟨_, fun _ => rfl⟩

variable {failure : E}

theorem total_string {value : List Byte} (small : value.length ≤ UInt32.size - 1) : Total (string value failure) := by
  rw [string, if_neg (Nat.not_lt.mpr small)]
  exact (total_integer _).bind ⟨value, fun _ => rfl⟩

variable {print : A → Printer E Unit}

theorem total_many (total : ∀ value, Total (print value)) (values : List A) : Total (many print values) := by
  induction values with
  | nil => exact total_pure
  | cons value values ih => exact (total value).bind ih

theorem total_integers [MachineInteger A] {values : List A}
    (small : values.length ≤ UInt32.size - 1) : Total (integers values failure) := by
  rw [integers, if_neg (Nat.not_lt.mpr small)]
  exact (total_integer _).bind (total_many total_integer values)

theorem total_option {value : Option A} (total : ∀ a ∈ value, Total (print a)) : Total (option print value) := by
  cases value with
  | none => exact total_pure
  | some a => exact total a rfl

end Printer

/-- A parser and a printer are inverse on the valid values. -/
structure Inverse {E F A : Type} (parse : Parser E A) (print : A → Printer F Unit) (valid : A → Prop) :
    Prop where
  /-- A printed value is read back. -/
  complete : ∀ value output printed, valid value → print value output = .ok ((), printed) →
    ∃ front, printed = output ++ front ∧ ∀ rest, parse (front ++ rest) = .ok (value, rest)
  /-- Accepted bytes are the printed ones. -/
  sound : ∀ input value rest, parse input = .ok (value, rest) →
    valid value ∧ ∃ front, input = front ++ rest ∧ ∀ output, print value output = .ok ((), output ++ front)

namespace Inverse
variable {E F A B : Type} {print : A → Printer F Unit} {parse : Parser E A}

theorem weaken {valid other : A → Prop}
    (inverse : Inverse parse print valid) (same : ∀ value, other value ↔ valid value) : Inverse parse print other := by
  rw [show other = valid from funext fun value => propext (same value)]
  exact inverse

variable {valid : A → Prop}

theorem pure {value : A} (unique : ∀ other, valid other ↔ other = value) :
    Inverse (Pure.pure value : Parser E A) (fun _ => (Pure.pure () : Printer F Unit)) valid := by
  constructor
  · intro other output printed known printing
    obtain rfl := (unique other).mp known
    obtain ⟨_, rfl⟩ := pure_eq_ok.mp printing
    exact ⟨[], (List.append_nil _).symm, fun rest => rfl⟩
  · intro input other rest parsing
    obtain ⟨rfl, rfl⟩ := pure_eq_ok.mp parsing
    exact ⟨(unique _).mpr rfl, [], rfl, fun output => by rw [List.append_nil]; rfl⟩

/-- A record is parsed field by field. The projection recovers the field from the record. -/
theorem bind {first : Parser E A} {next : A → Parser E B} {printFirst : A → Printer F Unit}
    {printNext : B → Printer F Unit} {validFirst : A → Prop} {valid : B → Prop} (project : B → A)
    (head : Inverse first printFirst validFirst) (proper : ∀ value, valid value → validFirst (project value))
    (tail : ∀ a, validFirst a → Inverse (next a) printNext fun value => valid value ∧ project value = a) :
    Inverse (first >>= next) (fun value => do printFirst (project value); printNext value) valid := by
  constructor
  · intro value output printed known printing
    obtain ⟨_, middle, printing, after⟩ := bind_eq_ok.mp printing
    obtain ⟨front, rfl, parsing⟩ := head.complete _ _ _ (proper value known) printing
    obtain ⟨back, rfl, reading⟩ := (tail _ (proper value known)).complete value _ _ ⟨known, rfl⟩ after
    refine ⟨front ++ back, List.append_assoc .., fun rest => ?_⟩
    rw [List.append_assoc]
    exact bind_eq_ok.mpr ⟨_, _, parsing _, reading rest⟩
  · intro input value rest parsing
    obtain ⟨a, middle, parsing, after⟩ := bind_eq_ok.mp parsing
    obtain ⟨known, front, rfl, printing⟩ := head.sound _ _ _ parsing
    obtain ⟨⟨good, rfl⟩, back, rfl, writing⟩ := (tail a known).sound _ _ _ after
    refine ⟨good, front ++ back, (List.append_assoc ..).symm, fun output => ?_⟩
    rw [← List.append_assoc]
    exact bind_eq_ok.mpr ⟨(), _, printing output, writing _⟩

/-- The printer of a record ends with its last field. -/
theorem finish (inverse : Inverse parse (fun value => do print value; Pure.pure ()) valid) :
    Inverse parse print valid := by
  simp only [bind_pure_unit] at inverse
  exact inverse

variable {failure : E}

/-- A refusal that no valid value meets does not change the format. -/
theorem reject {bad : Bool}
    (good : ∀ value, valid value → bad = false) (inverse : bad = false → Inverse parse print valid) :
    Inverse (do Parser.reject bad failure; parse) print valid := by
  cases bad with
  | true =>
      refine ⟨fun value _ _ known => (Bool.noConfusion (good value known)), fun input value rest parsing => ?_⟩
      obtain ⟨_, _, refused, _⟩ := bind_eq_ok.mp parsing
      cases refused
  | false => exact inverse rfl

/-- A printer may refuse the values that a parser never returns. -/
theorem limit {large : A → Prop}
    [DecidablePred large] {failure : F} (inverse : Inverse parse print fun value => valid value ∧ ¬large value) :
    Inverse parse (fun value => if large value then throw failure else print value) valid := by
  constructor
  · intro value output printed known printing
    split at printing
    · cases printing
    · rename_i small
      exact inverse.complete value output printed ⟨known, small⟩ printing
  · intro input value rest parsing
    obtain ⟨⟨known, small⟩, front, rfl, printing⟩ := inverse.sound _ _ _ parsing
    refine ⟨known, front, rfl, fun output => ?_⟩
    rw [if_neg small]
    exact printing output

/-- A test of the number of unread bytes may stand before a parser that needs them. -/
theorem remaining {bad : Nat → Bool}
    (enough : ∀ value output front rest, valid value → print value output = .ok ((), output ++ front) →
      bad (front.length + rest) = false) (inverse : Inverse parse print valid) :
    Inverse (do let left ← Parser.remaining; Parser.reject (bad left) failure; parse) print valid := by
  constructor
  · intro value output printed known printing
    obtain ⟨front, rfl, parsing⟩ := inverse.complete value output printed known printing
    refine ⟨front, rfl, fun rest => ?_⟩
    refine bind_eq_ok.mpr ⟨_, front ++ rest, rfl, ?_⟩
    refine bind_eq_ok.mpr ⟨(), front ++ rest, ?_, parsing rest⟩
    rw [List.length_append, Parser.reject, enough value output front rest.length known printing]
    rfl
  · intro input value rest parsing
    obtain ⟨left, middle, reading, parsing⟩ := bind_eq_ok.mp parsing
    cases reading
    obtain ⟨_, middle, refusing, parsing⟩ := bind_eq_ok.mp parsing
    unfold Parser.reject at refusing
    split at refusing
    · cases refusing
    · cases refusing
      exact inverse.sound _ _ _ parsing

theorem bytes {length : Nat} :
    Inverse (Parser.bytes length failure) (Printer.bytes (E := F)) fun value => value.length = length := by
  constructor
  · intro value output printed known printing
    cases printing
    refine ⟨value, rfl, fun rest => ?_⟩
    rw [Parser.bytes, if_neg (by rw [List.length_append]; omega), List.take_left' known,
      List.drop_left' known]
  · intro input value rest parsing
    unfold Parser.bytes at parsing
    split at parsing
    · cases parsing
    · cases parsing
      refine ⟨by rw [List.length_take]; omega, _, (List.take_append_drop length input).symm, fun output => rfl⟩

theorem integer [MachineInteger A] : Inverse (Parser.integer A failure) (Printer.integer (E := F)) fun _ => True := by
  constructor
  · intro value output printed _ printing
    cases printing
    refine ⟨_, rfl, fun rest => ?_⟩
    have width := length_littleEndian (MachineInteger.size A) (MachineInteger.toNat value)
    rw [Parser.integer, if_neg (by rw [List.length_append]; omega), List.take_left' width,
      List.drop_left' width, littleEndianValue_littleEndian _ _ (MachineInteger.toNat_lt value),
      MachineInteger.ofNat_toNat]
  · intro input value rest parsing
    unfold Parser.integer at parsing
    split at parsing
    · cases parsing
    · cases parsing
      refine ⟨trivial, _, (List.take_append_drop (MachineInteger.size A) input).symm, fun output => ?_⟩
      have width : (input.take (MachineInteger.size A)).length = MachineInteger.size A := by
        rw [List.length_take]
        omega
      have small := littleEndianValue_lt (input.take (MachineInteger.size A))
      have again := littleEndian_littleEndianValue (input.take (MachineInteger.size A))
      rw [width] at small again
      rw [Printer.integer, MachineInteger.toNat_ofNat _ small, again]
      rfl

theorem many (inverse : Inverse parse print valid) (count : Nat) :
    Inverse (Parser.many parse count) (Printer.many print) fun values =>
      (∀ value ∈ values, valid value) ∧ values.length = count := by
  induction count with
  | zero =>
      constructor
      · rintro values output printed ⟨_, empty⟩ printing
        obtain rfl := List.length_eq_zero_iff.mp empty
        obtain ⟨_, rfl⟩ := pure_eq_ok.mp printing
        exact ⟨[], (List.append_nil _).symm, fun rest => rfl⟩
      · intro input values rest parsing
        obtain ⟨rfl, rfl⟩ := pure_eq_ok.mp parsing
        exact ⟨⟨fun value member => (List.not_mem_nil member).elim, rfl⟩, [], rfl,
          fun output => by rw [List.append_nil]; rfl⟩
  | succ count ih =>
      constructor
      · rintro values output printed ⟨known, length⟩ printing
        cases values with
        | nil => cases length
        | cons value values =>
            obtain ⟨_, middle, printing, after⟩ := bind_eq_ok.mp printing
            obtain ⟨front, rfl, parsing⟩ := inverse.complete _ _ _ (known _ (.head _)) printing
            obtain ⟨back, rfl, reading⟩ := ih.complete values _ _
              ⟨fun value member => known value (.tail _ member), Nat.succ.inj length⟩ after
            refine ⟨front ++ back, List.append_assoc .., fun rest => ?_⟩
            rw [List.append_assoc]
            refine bind_eq_ok.mpr ⟨value, _, parsing _, ?_⟩
            exact bind_eq_ok.mpr ⟨values, _, reading rest, rfl⟩
      · intro input values rest parsing
        obtain ⟨value, middle, parsing, after⟩ := bind_eq_ok.mp parsing
        obtain ⟨known, front, rfl, printing⟩ := inverse.sound _ _ _ parsing
        obtain ⟨others, final, reading, after⟩ := bind_eq_ok.mp after
        obtain ⟨rfl, rfl⟩ := pure_eq_ok.mp after
        obtain ⟨⟨good, length⟩, back, rfl, writing⟩ := ih.sound _ _ _ reading
        refine ⟨⟨List.forall_mem_cons.mpr ⟨known, good⟩, congrArg Nat.succ length⟩, front ++ back,
          (List.append_assoc ..).symm, fun output => ?_⟩
        rw [← List.append_assoc]
        exact bind_eq_ok.mpr ⟨(), _, printing output, writing _⟩

theorem option {present : Bool} (inverse : Inverse parse print valid) :
    Inverse (Parser.option present parse) (Printer.option print) fun value =>
      (∀ a ∈ value, valid a) ∧ value.isSome = present := by
  cases present with
  | false =>
      constructor
      · rintro value output printed ⟨_, absent⟩ printing
        obtain rfl := Option.not_isSome_iff_eq_none.mp (Bool.eq_false_iff.mp absent)
        obtain ⟨_, rfl⟩ := pure_eq_ok.mp printing
        exact ⟨[], (List.append_nil _).symm, fun rest => rfl⟩
      · intro input value rest parsing
        obtain ⟨rfl, rfl⟩ := pure_eq_ok.mp parsing
        exact ⟨⟨fun a member => (Option.not_mem_none a member).elim, rfl⟩, [], rfl,
          fun output => by rw [List.append_nil]; rfl⟩
  | true =>
      constructor
      · rintro value output printed ⟨known, present⟩ printing
        obtain ⟨a, rfl⟩ := Option.isSome_iff_exists.mp present
        obtain ⟨front, rfl, parsing⟩ := inverse.complete a output printed (known a rfl) printing
        exact ⟨front, rfl, fun rest => bind_eq_ok.mpr ⟨a, _, parsing rest, rfl⟩⟩
      · intro input value rest parsing
        obtain ⟨a, middle, reading, after⟩ := bind_eq_ok.mp parsing
        obtain ⟨rfl, rfl⟩ := pure_eq_ok.mp after
        obtain ⟨known, front, rfl, printing⟩ := inverse.sound _ _ _ reading
        exact ⟨⟨fun other member => Option.mem_some_iff.mp member ▸ known, rfl⟩, front, rfl, printing⟩

variable {values : List A}

/-- The length field of a short list determines the length. -/
theorem ofNat_length_iff {count : UInt32} : ¬values.length > UInt32.size - 1 ∧ UInt32.ofNat values.length = count ↔
      values.length = count.toNat := by
  constructor
  · rintro ⟨small, rfl⟩
    have fits : values.length < UInt32.size := Nat.lt_of_le_sub_one (by decide) (Nat.not_lt.mp small)
    exact (UInt32.toNat_ofNat_of_lt fits).symm
  · intro length
    have small := count.toNat_lt
    refine ⟨by rw [length]; exact Nat.not_lt.mpr (Nat.le_sub_one_of_lt small), ?_⟩
    rw [length, UInt32.ofNat_toNat]

theorem string {large : F} :
    Inverse (Parser.string failure) (fun value => Printer.string value large) fun _ => True := by
  refine limit ?_
  refine bind (fun value : List Byte => UInt32.ofNat value.length) integer (fun _ _ => trivial)
    fun length _ => bytes.weaken fun value => ?_
  rw [true_and]
  exact ofNat_length_iff

theorem length_many_integer [MachineInteger A] {output printed : List Byte}
    (printing : Printer.many (Printer.integer (E := F)) values output = .ok ((), printed)) :
    printed.length = output.length + values.length * MachineInteger.size A := by
  induction values generalizing output with
  | nil =>
      obtain ⟨_, rfl⟩ := pure_eq_ok.mp printing
      rw [List.length_nil, zero_mul, add_zero]
  | cons value values ih =>
      obtain ⟨_, middle, first, after⟩ := bind_eq_ok.mp printing
      cases first
      rw [ih after, List.length_append, length_littleEndian, List.length_cons, Nat.succ_mul]
      omega

theorem integers [MachineInteger A] (positive : 0 < MachineInteger.size A) {large : F} :
    Inverse (Parser.integers A failure) (fun values => Printer.integers values large)
      fun _ => True := by
  refine limit ?_
  refine bind (fun values : List A => UInt32.ofNat values.length) integer (fun _ _ => trivial)
    fun count _ => ?_
  refine remaining ?_ ((many integer count.toNat).weaken fun values => ?_)
  · rintro values output front rest ⟨⟨_, small⟩, same⟩ printing
    have length := ofNat_length_iff.mp ⟨small, same⟩
    have width := length_many_integer printing
    rw [List.length_append] at width
    have room : count.toNat ≤ (front.length + rest) / MachineInteger.size A := by
      rw [Nat.le_div_iff_mul_le positive, ← length]
      omega
    exact decide_eq_false (Nat.not_lt.mpr room)
  · rw [true_and, ofNat_length_iff]
    exact (and_iff_right fun _ _ => trivial).symm

end Inverse

end OpenVehicle.Codec
