/-
This file states the secure hash SHA-256 of the standard FIPS 180-4 over bit strings.
A bit string starts with its most significant bit, and so does the value of a block of bits.
-/

import Mathlib.Analysis.SpecialFunctions.Pow.NthRootLemmas
import Mathlib.Data.Nat.Prime.Basic
import Mathlib.Tactic

namespace OpenVehicle.Sha256

section Blocks
variable {A B : Type} {size : Nat}

/-- The consecutive blocks of a list, without an incomplete last one. -/
def blocks (size : Nat) (list : List A) : List (List A) :=
  (List.range (list.length / size)).map fun index => (list.drop (size * index)).take size

theorem blocks_append (positive : 0 < size) {front : List A} (whole : size ∣ front.length) (back : List A) :
    blocks size (front ++ back) = blocks size front ++ blocks size back := by
  obtain ⟨count, long⟩ := whole
  have first : front.length / size = count := by rw [long, Nat.mul_div_cancel_left _ positive]
  have both : (front ++ back).length / size = count + back.length / size := by
    rw [List.length_append, long, Nat.mul_add_div positive]
  unfold blocks
  rw [both, first, List.range_add, List.map_append, List.map_map]
  congr 1
  · apply List.map_congr_left
    intro index member
    have inside : size * index + size ≤ front.length := by
      rw [long, ← Nat.mul_succ]
      exact Nat.mul_le_mul_left _ (List.mem_range.mp member)
    rw [List.drop_append_of_le_length (by omega), List.take_append_of_le_length (by simp; omega)]
  · apply List.map_congr_left
    intro index _
    have start : size * (count + index) = front.length + size * index := by rw [long, Nat.mul_add]
    rw [Function.comp_apply, start, ← List.drop_drop, List.drop_left]

theorem blocks_single (positive : 0 < size) {list : List A} (full : list.length = size) :
    blocks size list = [list] := by
  unfold blocks
  rw [full, Nat.div_self positive]
  simp [← full]

section Uniform
variable {width : Nat} {code : A → List B} (uniform : ∀ a, (code a).length = width)
include uniform

theorem length_flatMap_uniform (list : List A) : (list.flatMap code).length = width * list.length := by
  induction list with
  | nil => simp
  | cons a rest ih => rw [List.flatMap_cons, List.length_append, ih, uniform, List.length_cons]; ring

theorem drop_flatMap_uniform (list : List A) (count : Nat) :
    (list.flatMap code).drop (width * count) = (list.drop count).flatMap code := by
  induction count generalizing list with
  | zero => simp
  | succ count ih =>
      cases list with
      | nil => simp
      | cons a rest =>
          have start : width * (count + 1) = (code a).length + width * count := by rw [uniform]; ring
          rw [List.flatMap_cons, start, ← List.drop_drop, List.drop_left, ih, List.drop_succ_cons]

theorem take_flatMap_uniform (list : List A) (count : Nat) :
    (list.flatMap code).take (width * count) = (list.take count).flatMap code := by
  induction count generalizing list with
  | zero => simp
  | succ count ih =>
      cases list with
      | nil => simp
      | cons a rest =>
          have stop : width * (count + 1) = (code a).length + width * count := by rw [uniform]; ring
          rw [List.flatMap_cons, stop, List.take_length_add_append, ih, List.take_succ_cons, List.flatMap_cons]

/-- A uniform code turns blocks into blocks. -/
theorem blocks_flatMap_uniform (positive : 0 < width) (list : List A) :
    blocks (width * size) (list.flatMap code) = (blocks size list).map (·.flatMap code) := by
  unfold blocks
  rw [length_flatMap_uniform uniform, Nat.mul_div_mul_left _ _ positive, List.map_map]
  apply List.map_congr_left
  intro index _
  rw [Function.comp_apply, Nat.mul_assoc, drop_flatMap_uniform uniform, take_flatMap_uniform uniform]

end Uniform

end Blocks

section Loops
variable {A : Type} {size : Nat} {default : A} {target : Nat → A} {next : List A → Nat → A} {list : List A}

theorem getD_set_self {index : Nat} (inside : index < list.length) (a : A) :
    (list.set index a).getD index default = a := by
  simp [List.getD_eq_getElem?_getD, inside]

theorem getD_set_ne {index other : Nat} (apart : index ≠ other) (a : A) :
    (list.set index a).getD other default = list.getD other default := by
  simp [List.getD_eq_getElem?_getD, List.getElem?_set_ne apart]

/-- A loop that computes each entry from the entries before it fills an array with its target. -/
theorem foldl_set_range (start count : Nat) (bound : start + count ≤ size)
    (long : list.length = size) (before : ∀ index < start, list.getD index default = target index)
    (step : ∀ (list : List A) (index : Nat), start ≤ index → index < start + count →
      (∀ earlier < index, list.getD earlier default = target earlier) → next list index = target index) :
    ((List.range' start count).foldl (fun list index => list.set index (next list index)) list).length = size ∧
    ∀ index < start + count, ((List.range' start count).foldl
      (fun list index => list.set index (next list index)) list).getD index default = target index := by
  induction count with
  | zero => exact ⟨long, before⟩
  | succ count ih =>
      obtain ⟨same, earlier⟩ := ih (by omega) fun list index low high => step list index low (by omega)
      rw [List.range'_concat, List.foldl_append, Nat.one_mul]
      simp only [List.foldl_cons, List.foldl_nil, List.length_set]
      refine ⟨same, fun index inside => ?_⟩
      by_cases last : start + count = index
      · subst last
        rw [getD_set_self (by omega)]
        exact step _ _ (by omega) (by omega) earlier
      · rw [getD_set_ne last]
        exact earlier index (by omega)

end Loops

/-- The number that a bit string denotes. -/
def value (bits : List Bool) : Nat := bits.foldl (fun number bit => 2 * number + bit.toNat) 0

/-- The lowest bits of a number. -/
def digits (width number : Nat) : List Bool := (List.range width).map fun index => number.testBit (width - 1 - index)

@[simp] theorem length_digits (width number : Nat) : (digits width number).length = width := by
  simp [digits]

theorem value_append (front back : List Bool) : value (front ++ back) = value front * 2 ^ back.length + value back := by
  have general : ∀ (bits : List Bool) (start : Nat),
      bits.foldl (fun number bit => 2 * number + bit.toNat) start = start * 2 ^ bits.length + value bits := by
    intro bits
    induction bits with
    | nil => simp [value]
    | cons bit rest ih =>
        intro start
        unfold value
        rw [List.foldl_cons, List.foldl_cons, ih, ih (2 * 0 + bit.toNat), List.length_cons, pow_succ]
        ring
  unfold value
  rw [List.foldl_append, general]
  rfl

theorem digits_succ (width number : Nat) :
    digits (width + 1) number = digits width (number / 2) ++ [number.testBit 0] := by
  unfold digits
  rw [List.range_succ, List.map_append]
  congr 1
  · apply List.map_congr_left
    intro index member
    have inside := List.mem_range.mp member
    rw [← Nat.testBit_succ]
    congr 1
    omega
  · simp

theorem value_digits (width number : Nat) : value (digits width number) = number % 2 ^ width := by
  induction width generalizing number with
  | zero => simp [digits, value, Nat.mod_one]
  | succ width ih =>
      rw [digits_succ, value_append, ih, List.length_singleton, pow_one, pow_succ, Nat.mul_comm (2 ^ width),
        Nat.mod_mul]
      have last : value [number.testBit 0] = number % 2 := by
        rw [Nat.testBit_zero]
        rcases Nat.mod_two_eq_zero_or_one number with even | odd <;> simp [value, *]
      rw [last]
      ring

/-- The digits of a number split at every width. -/
theorem digits_add (high low number : Nat) :
    digits (high + low) number = digits high (number / 2 ^ low) ++ digits low number := by
  induction low generalizing number with
  | zero => simp [digits]
  | succ low ih =>
      rw [← Nat.add_assoc, digits_succ, ih, digits_succ low, Nat.div_div_eq_div_mul, ← pow_succ', List.append_assoc]

abbrev Word := BitVec 32

def ch (x y z : Word) : Word := (x &&& y) ^^^ (~~~x &&& z)

def maj (x y z : Word) : Word := (x &&& y) ^^^ (x &&& z) ^^^ (y &&& z)

def bigSigma0 (x : Word) : Word := x.rotateRight 2 ^^^ x.rotateRight 13 ^^^ x.rotateRight 22

def bigSigma1 (x : Word) : Word := x.rotateRight 6 ^^^ x.rotateRight 11 ^^^ x.rotateRight 25

def smallSigma0 (x : Word) : Word := x.rotateRight 7 ^^^ x.rotateRight 18 ^^^ x >>> 3

def smallSigma1 (x : Word) : Word := x.rotateRight 17 ^^^ x.rotateRight 19 ^^^ x >>> 10

/-- The first sixty-four prime numbers. -/
def primes : List Nat := (List.range 312).filter fun number => decide number.Prime

/-- The first thirty-two bits of the fractional part of a root. -/
def fractionalRoot (degree number : Nat) : Word := BitVec.ofNat 32 (Nat.nthRoot degree (number * 2 ^ (32 * degree)))

/-- The round constants come from the cube roots of the primes. -/
def roundConstant (index : Nat) : Word := fractionalRoot 3 (primes.getD index 0)

/-- The initial hash value comes from the square roots of the first eight primes. -/
def initialHash : List Word := (primes.take 8).map (fractionalRoot 2)

/-- The sixteen words of a message block. -/
def messageWords (block : List Bool) : List Word := (blocks 32 block).map fun bits => BitVec.ofNat 32 (value bits)

/-- The message schedule continues the words of a block by a recurrence. -/
def schedule (words : List Word) (index : Nat) : Word :=
  if index < 16 then words.getD index 0
  else smallSigma1 (schedule words (index - 2)) + schedule words (index - 7) +
    smallSigma0 (schedule words (index - 15)) + schedule words (index - 16)
termination_by index

/-- The eight working variables. -/
structure Working where
  a : Word
  b : Word
  c : Word
  d : Word
  e : Word
  f : Word
  g : Word
  h : Word
  deriving DecidableEq

/-- One round replaces the working variables. -/
def mixRound (constant word : Word) (w : Working) : Working :=
  let first := w.h + bigSigma1 w.e + ch w.e w.f w.g + constant + word
  let second := bigSigma0 w.a + maj w.a w.b w.c
  ⟨first + second, w.a, w.b, w.c, w.d + first, w.e, w.f, w.g⟩

def Working.ofHash (hash : List Word) : Working :=
  ⟨hash.getD 0 0, hash.getD 1 0, hash.getD 2 0, hash.getD 3 0, hash.getD 4 0, hash.getD 5 0, hash.getD 6 0,
    hash.getD 7 0⟩

def Working.toList (w : Working) : List Word := [w.a, w.b, w.c, w.d, w.e, w.f, w.g, w.h]

/-- The sixty-four rounds mix one block into the hash value. -/
def compress (hash : List Word) (block : List Bool) : List Word :=
  let words := messageWords block
  let final := (List.range 64).foldl
    (fun working index => mixRound (roundConstant index) (schedule words index) working) (.ofHash hash)
  List.zipWith (· + ·) final.toList hash

/-- This number of zero bits completes the last block. -/
def zeroBits (length : Nat) : Nat := (447 + 512 - length % 512) % 512

/-- The message is followed by a one bit, by zero bits and by its length in sixty-four bits. -/
def pad (message : List Bool) : List Bool :=
  message ++ true :: List.replicate (zeroBits message.length) false ++ digits 64 message.length

/-- The standard asks for the smallest solution of this congruence. -/
theorem zeroBits_eq {length count : Nat} (solves : (length + 1 + count) % 512 = 448) (least : count < 512) :
    zeroBits length = count := by
  unfold zeroBits
  omega

/-- The hash value of a message has eight words. -/
def hashValue (message : List Bool) : List Word := (blocks 512 (pad message)).foldl compress initialHash

/-- The digest is the concatenation of the words. -/
def sha256 (message : List Bool) : List Bool := (hashValue message).flatMap fun word => digits 32 word.toNat

/-- The hexadecimal digits of a bit string. -/
def hexadecimal (bits : List Bool) : List Char := (blocks 4 bits).map fun nibble => (value nibble).digitChar

theorem hexadecimal_append {front : List Bool} (whole : 4 ∣ front.length) (back : List Bool) :
    hexadecimal (front ++ back) = hexadecimal front ++ hexadecimal back := by
  rw [hexadecimal, blocks_append (by decide) whole, List.map_append]
  rfl

end OpenVehicle.Sha256
