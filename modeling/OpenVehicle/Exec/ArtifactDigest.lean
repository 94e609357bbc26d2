/-
This file translates the hash of the runtime artifacts and proves that it is the standard one.
The buffer holds the bytes that follow the last full block of the input.
-/

import OpenVehicle.Data.Sha256

namespace OpenVehicle.Exec.ArtifactIntegrity

open OpenVehicle.Sha256

def kRoundConstants : List Word := [0x428a2f98, 0x71374491, 0xb5c0fbcf, 0xe9b5dba5, 0x3956c25b, 0x59f111f1, 0x923f82a4,
  0xab1c5ed5, 0xd807aa98, 0x12835b01, 0x243185be, 0x550c7dc3, 0x72be5d74, 0x80deb1fe,
  0x9bdc06a7, 0xc19bf174, 0xe49b69c1, 0xefbe4786, 0x0fc19dc6, 0x240ca1cc, 0x2de92c6f,
  0x4a7484aa, 0x5cb0a9dc, 0x76f988da, 0x983e5152, 0xa831c66d, 0xb00327c8, 0xbf597fc7,
  0xc6e00bf3, 0xd5a79147, 0x06ca6351, 0x14292967, 0x27b70a85, 0x2e1b2138, 0x4d2c6dfc,
  0x53380d13, 0x650a7354, 0x766a0abb, 0x81c2c92e, 0x92722c85, 0xa2bfe8a1, 0xa81a664b,
  0xc24b8b70, 0xc76c51a3, 0xd192e819, 0xd6990624, 0xf40e3585, 0x106aa070, 0x19a4c116,
  0x1e376c08, 0x2748774c, 0x34b0bcb5, 0x391c0cb3, 0x4ed8aa4a, 0x5b9cca4f, 0x682e6ff3,
  0x748f82ee, 0x78a5636f, 0x84c87814, 0x8cc70208, 0x90befffa, 0xa4506ceb, 0xbef9a3f7, 0xc67178f2]

/-- The hash object. Its two arrays keep their sizes, and the buffer has room between two calls. -/
structure Sha256 where
  state : List Word := [0x6a09e667, 0xbb67ae85, 0x3c6ef372, 0xa54ff53a, 0x510e527f, 0x9b05688c, 0x1f83d9ab, 0x5be0cd19]
  buffer : List UInt8 := List.replicate 64 0
  bufferSize : Nat := 0
  bitCount : BitVec 64 := 0
  words : state.length = 8 := by rfl
  bytes : buffer.length = 64 := by rfl
  room : bufferSize < 64 := by decide

namespace Sha256

variable (buffer : List UInt8)

/-- One word of the buffer starts with its most significant byte. -/
def loadWord (index : Nat) : Word :=
  let offset := index * 4
  (buffer.getD offset 0).toBitVec.setWidth 32 <<< 24 |||
    (buffer.getD (offset + 1) 0).toBitVec.setWidth 32 <<< 16 |||
    (buffer.getD (offset + 2) 0).toBitVec.setWidth 32 <<< 8 |||
    (buffer.getD (offset + 3) 0).toBitVec.setWidth 32

/-- The word that extends the schedule at an index. -/
def nextWord (schedule : List Word) (index : Nat) : Word :=
  let s0 := (schedule.getD (index - 15) 0).rotateRight 7 ^^^ (schedule.getD (index - 15) 0).rotateRight 18 ^^^
    schedule.getD (index - 15) 0 >>> 3
  let s1 := (schedule.getD (index - 2) 0).rotateRight 17 ^^^ (schedule.getD (index - 2) 0).rotateRight 19 ^^^
    schedule.getD (index - 2) 0 >>> 10
  schedule.getD (index - 16) 0 + s0 + schedule.getD (index - 7) 0 + s1

/-- The first loop loads the buffer, and the second loop extends the schedule. -/
def fillSchedule : List Word :=
  let loaded := (List.range 16).foldl (fun schedule index => schedule.set index (loadWord buffer index))
    (List.replicate 64 0)
  (List.range' 16 48).foldl (fun schedule index => schedule.set index (nextWord schedule index)) loaded

def mix (schedule : List Word) (w : Working) (index : Nat) : Working :=
  let s1 := w.e.rotateRight 6 ^^^ w.e.rotateRight 11 ^^^ w.e.rotateRight 25
  let choice := (w.e &&& w.f) ^^^ (~~~w.e &&& w.g)
  let first := w.h + s1 + choice + kRoundConstants.getD index 0 + schedule.getD index 0
  let s0 := w.a.rotateRight 2 ^^^ w.a.rotateRight 13 ^^^ w.a.rotateRight 22
  let majority := (w.a &&& w.b) ^^^ (w.a &&& w.c) ^^^ (w.b &&& w.c)
  let second := s0 + majority
  { h := w.g, g := w.f, f := w.e, e := w.d + first, d := w.c, c := w.b, b := w.a, a := first + second }

def transform (state : List Word) (buffer : List UInt8) : List Word :=
  let schedule := fillSchedule buffer
  let working : Working := ⟨state.getD 0 0, state.getD 1 0, state.getD 2 0, state.getD 3 0,
    state.getD 4 0, state.getD 5 0, state.getD 6 0, state.getD 7 0⟩
  let final := (List.range 64).foldl (mix schedule) working
  List.zipWith (· + ·) state final.toList

@[simp] theorem length_transform (state : List Word) (buffer : List UInt8) :
    (transform state buffer).length = min state.length 8 := by
  simp [transform, Working.toList]

/-- One byte fills a free place of the buffer. A full buffer is hashed and starts again. -/
def updateByte (sha : Sha256) (byte : UInt8) : Sha256 :=
  let buffer := sha.buffer.set sha.bufferSize byte
  if full : sha.bufferSize + 1 = 64 then
    { state := transform sha.state buffer
      buffer := buffer
      bufferSize := 0
      bitCount := sha.bitCount + 8
      words := by simp [sha.words]
      bytes := by simp [buffer, sha.bytes] }
  else
    { state := sha.state
      buffer := buffer
      bufferSize := sha.bufferSize + 1
      bitCount := sha.bitCount + 8
      words := sha.words
      bytes := by simp [buffer, sha.bytes]
      room := by have room := sha.room; omega }

def update (sha : Sha256) (input : List UInt8) : Sha256 := input.foldl updateByte sha

/-- This loop overwrites a range of the buffer with zeros. -/
def fill (start stop : Nat) : List UInt8 := buffer.take start ++ List.replicate (stop - start) 0 ++ buffer.drop stop

/-- This loop writes the length from the last byte of the buffer to the front. -/
def writeLength (messageBits : BitVec 64) : List UInt8 :=
  (List.range 8).foldl (fun buffer index =>
    buffer.set (63 - index) (UInt8.ofNat (messageBits >>> (index * 8)).toNat)) buffer

/-- The stream prints a word in eight lower-case digits and fills the width with zeros. -/
def encodeWord (word : Word) : List Char := (Nat.toDigits 16 word.toNat).leftpad 8 '0'

def finish (sha : Sha256) : String :=
  let messageBits := sha.bitCount
  let buffer := sha.buffer.set sha.bufferSize 0x80
  let bufferSize := sha.bufferSize + 1
  let (state, buffer, bufferSize) :=
    if 56 < bufferSize then
      let buffer := fill buffer bufferSize 64
      (transform sha.state buffer, buffer, 0)
    else (sha.state, buffer, bufferSize)
  let buffer := fill buffer bufferSize 56
  let buffer := writeLength buffer messageBits
  String.ofList ((transform state buffer).flatMap encodeWord)

end Sha256

def digest (content : List UInt8) : String := (Sha256.update {} content).finish

variable {buffer : List UInt8} {input : List UInt8} {sha : Sha256} {index : Nat}

namespace Sha256

/-- The bits of a byte string, each byte with its most significant bit first. -/
def bitsOf (bytes : List UInt8) : List Bool := bytes.flatMap fun byte => digits 8 byte.toNat

theorem length_byteBits (byte : UInt8) : (digits 8 byte.toNat).length = 8 := length_digits 8 byte.toNat

theorem length_bitsOf (bytes : List UInt8) : (bitsOf bytes).length = 8 * bytes.length :=
  length_flatMap_uniform length_byteBits bytes

theorem bitsOf_append (front back : List UInt8) : bitsOf (front ++ back) = bitsOf front ++ bitsOf back :=
  List.flatMap_append

theorem blocks_bitsOf (size : Nat) (bytes : List UInt8) :
    blocks (8 * size) (bitsOf bytes) = (blocks size bytes).map bitsOf :=
  blocks_flatMap_uniform length_byteBits (by decide) bytes

theorem value_bitsOf_cons (byte : UInt8) (rest : List UInt8) :
    value (bitsOf (byte :: rest)) = byte.toNat * 256 ^ rest.length + value (bitsOf rest) := by
  have small := byte.toNat_lt
  have whole : byte.toNat % 2 ^ 8 = byte.toNat := Nat.mod_eq_of_lt small
  have split : bitsOf (byte :: rest) = digits 8 byte.toNat ++ bitsOf rest := List.flatMap_cons
  rw [split, value_append, value_digits, whole, length_bitsOf, Nat.pow_mul]

/-- A shifted byte fills the place behind a number. -/
theorem or_shifted_byte (front : Nat) {byte : Nat} (small : byte < 256) (shift : Nat) :
    front <<< (8 + shift) ||| byte <<< shift = (front * 256 + byte) <<< shift := by
  have joined : front <<< 8 ||| byte = front * 256 + byte := by
    rw [← Nat.shiftLeft_add_eq_or_of_lt (by omega), Nat.shiftLeft_eq]
  rw [Nat.shiftLeft_add, ← Nat.shiftLeft_or_distrib, joined]

/-- The word of four bytes is the number that their bits denote. -/
theorem word_of_bytes (first second third fourth : UInt8) :
    first.toBitVec.setWidth 32 <<< 24 ||| second.toBitVec.setWidth 32 <<< 16 |||
      third.toBitVec.setWidth 32 <<< 8 ||| fourth.toBitVec.setWidth 32 =
    BitVec.ofNat 32 (value (bitsOf [first, second, third, fourth])) := by
  have one := first.toNat_lt
  have two := second.toNat_lt
  have three := third.toNat_lt
  have four := fourth.toNat_lt
  have number : value (bitsOf []) = 0 := rfl
  simp only [value_bitsOf_cons, List.length_cons, List.length_nil, number]
  apply BitVec.eq_of_toNat_eq
  have narrow (byte : UInt8) (shift : Nat) (low : shift ≤ 24) :
      (byte.toBitVec.setWidth 32 <<< shift).toNat = byte.toNat <<< shift := by
    have size := byte.toNat_lt
    have bound : byte.toNat * 2 ^ shift < 2 ^ 32 := by
      calc byte.toNat * 2 ^ shift < 2 ^ 8 * 2 ^ shift := Nat.mul_lt_mul_of_pos_right size (by positivity)
        _ ≤ 2 ^ 8 * 2 ^ 24 := Nat.mul_le_mul_left _ (Nat.pow_le_pow_right (by decide) low)
        _ = 2 ^ 32 := by norm_num
    have whole : byte.toNat % 2 ^ 32 = byte.toNat := Nat.mod_eq_of_lt (by omega)
    rw [BitVec.toNat_shiftLeft, BitVec.toNat_setWidth, UInt8.toNat_toBitVec, whole, Nat.shiftLeft_eq,
      Nat.mod_eq_of_lt bound]
  have last := narrow fourth 0 (by decide)
  rw [BitVec.shiftLeft_zero] at last
  rw [BitVec.toNat_or, BitVec.toNat_or, BitVec.toNat_or, narrow first 24 (by decide),
    narrow second 16 (by decide), narrow third 8 (by decide), last, or_shifted_byte _ two 16,
    or_shifted_byte _ three 8, or_shifted_byte _ four 0, BitVec.toNat_ofNat]
  simp only [Nat.shiftLeft_zero]
  omega

/-- The loaded words are the message words of the buffer. -/
theorem loadWord_eq (full : buffer.length = 64) (inside : index < 16) :
    loadWord buffer index = (messageWords (bitsOf buffer)).getD index 0 := by
  have words : messageWords (bitsOf buffer) =
      (blocks 4 buffer).map fun bytes => BitVec.ofNat 32 (value (bitsOf bytes)) := by
    unfold messageWords
    rw [blocks_bitsOf 4, List.map_map]
    rfl
  have block : (buffer.drop (4 * index)).take 4 = [buffer.getD (index * 4) 0, buffer.getD (index * 4 + 1) 0,
      buffer.getD (index * 4 + 2) 0, buffer.getD (index * 4 + 3) 0] := by
    apply List.ext_getElem
    · simp [full]
      omega
    · intro position short four
      have low : position < 4 := by simpa using four
      simp only [List.getElem_take, List.getElem_drop]
      have located : index * 4 + position < buffer.length := by omega
      have same : buffer[4 * index + position] = buffer.getD (index * 4 + position) 0 := by
        simp [List.getD_eq_getElem?_getD, located, Nat.mul_comm]
      rw [same]
      interval_cases position <;> rfl
  rw [words, blocks, List.getD_eq_getElem?_getD]
  simp only [full, List.map_map, List.getElem?_map, List.getElem?_range (show index < 64 / 4 by omega),
    Option.map_some, Option.getD_some, Function.comp_apply, block]
  exact word_of_bytes _ _ _ _

/-- The two loops of the source compute the message schedule. -/
theorem fillSchedule_spec (full : buffer.length = 64) (inside : index < 64) :
    (fillSchedule buffer).getD index 0 = schedule (messageWords (bitsOf buffer)) index := by
  have zeros : (List.replicate 64 (0 : Word)).length = 64 := List.length_replicate
  let words := messageWords (bitsOf buffer)
  have loaded : ∀ (list : List Word) (index : Nat), 0 ≤ index → index < 0 + 16 →
      (∀ earlier < index, list.getD earlier 0 = schedule words earlier) →
      loadWord buffer index = schedule words index := by
    intro list index _ early _
    rw [schedule, if_pos (by omega)]
    exact loadWord_eq full (by omega)
  have extended : ∀ (list : List Word) (index : Nat), 16 ≤ index → index < 16 + 48 →
      (∀ earlier < index, list.getD earlier 0 = schedule words earlier) →
      nextWord list index = schedule words index := by
    intro list index late _ earlier
    rw [schedule, if_neg (by omega), ← earlier _ (by omega), ← earlier _ (by omega), ← earlier _ (by omega),
      ← earlier _ (by omega)]
    simp only [nextWord, smallSigma0, smallSigma1]
    ac_rfl
  have first := foldl_set_range 0 16 (by decide) zeros (fun index absent => absurd absent (Nat.not_lt_zero index))
    loaded
  have second := foldl_set_range 16 48 (by decide) first.1 first.2 extended
  have range : List.range 16 = List.range' 0 16 := List.range_eq_range'
  unfold fillSchedule
  rw [range]
  exact second.2 index inside

/-- The source table holds the cube roots of the primes. -/
theorem kRoundConstants_eq : kRoundConstants = (List.range 64).map roundConstant := by decide +kernel

theorem initialHash_eq : ({} : Sha256).state = initialHash := by decide +kernel

theorem mix_eq {words : List Word} {working : Working} (inside : index < 64) {word : Word}
    (scheduled : words.getD index 0 = word) :
    mix words working index = mixRound (roundConstant index) word working := by
  have constant : kRoundConstants.getD index 0 = roundConstant index := by
    rw [kRoundConstants_eq, List.getD_eq_getElem?_getD, List.getElem?_map, List.getElem?_range inside]
    rfl
  simp only [mix, mixRound, scheduled, constant, bigSigma0, bigSigma1, ch, maj]

/-- A transformation compresses the block in the buffer. -/
theorem transform_eq (state : List Word) (full : buffer.length = 64) :
    transform state buffer = compress state (bitsOf buffer) := by
  have rounds : (List.range 64).foldl (mix (fillSchedule buffer)) (.ofHash state) =
      (List.range 64).foldl (fun working index => mixRound (roundConstant index)
        (schedule (messageWords (bitsOf buffer)) index) working) (.ofHash state) := by
    apply List.foldl_ext
    intro working index member
    have inside := List.mem_range.mp member
    exact mix_eq inside (fillSchedule_spec full inside)
  unfold transform compress
  simp only [← rounds]
  rw [List.zipWith_comm]
  congr 1
  funext left right
  exact BitVec.add_comm right left

/-- The hash value after the blocks of a byte string. -/
def absorb (state : List Word) (bytes : List UInt8) : List Word := ((blocks 64 bytes).map bitsOf).foldl compress state

theorem absorb_append (state : List Word) {front : List UInt8} (whole : 64 ∣ front.length)
    (back : List UInt8) : absorb state (front ++ back) = absorb (absorb state front) back := by
  unfold absorb
  rw [blocks_append (by decide) whole, List.map_append, List.foldl_append]

theorem absorb_single (state : List Word) {block : List UInt8} (full : block.length = 64) :
    absorb state block = transform state block := by
  unfold absorb
  rw [blocks_single (by decide) full, transform_eq state full]
  rfl

/-- The object has absorbed the full blocks of its input and buffers the rest. -/
structure Holds (sha : Sha256) (input : List UInt8) : Prop where
  split : ∃ front, 64 ∣ front.length ∧ input = front ++ sha.buffer.take sha.bufferSize ∧
    sha.state = absorb initialHash front
  bitCount : sha.bitCount = BitVec.ofNat 64 (8 * input.length)

theorem holds_nil : Holds {} [] := by
  refine ⟨⟨[], by simp, rfl, ?_⟩, rfl⟩
  exact initialHash_eq

/-- The buffer up to a byte that has been written. -/
theorem take_set (buffer : List UInt8) {place : Nat} (inside : place < buffer.length) (byte : UInt8) :
    (buffer.set place byte).take (place + 1) = buffer.take place ++ [byte] := by
  rw [List.take_add_one, List.getElem?_set_self inside, List.take_set_of_le (le_refl place)]
  rfl

theorem bitCount_updateByte (sha : Sha256) (byte : UInt8) : (sha.updateByte byte).bitCount = sha.bitCount + 8 := by
  by_cases full : sha.bufferSize + 1 = 64 <;> simp [updateByte, full]

/-- The byte that fills the buffer starts a transformation. -/
theorem updateByte_full (byte : UInt8) (full : sha.bufferSize + 1 = 64) : (sha.updateByte byte).bufferSize = 0 ∧
      (sha.updateByte byte).state = transform sha.state (sha.buffer.set sha.bufferSize byte) := by
  simp [updateByte, full]

theorem updateByte_room (byte : UInt8) (room : sha.bufferSize + 1 ≠ 64) :
    (sha.updateByte byte).bufferSize = sha.bufferSize + 1 ∧
      (sha.updateByte byte).buffer = sha.buffer.set sha.bufferSize byte ∧ (sha.updateByte byte).state = sha.state := by
  simp [updateByte, room]

theorem Holds.updateByte (holds : Holds sha input) (byte : UInt8) : Holds (sha.updateByte byte) (input ++ [byte]) := by
  obtain ⟨⟨front, whole, split, state⟩, bits⟩ := holds
  have inside : sha.bufferSize < sha.buffer.length := by
    rw [sha.bytes]
    exact sha.room
  have long : (sha.buffer.set sha.bufferSize byte).length = 64 := by rw [List.length_set, sha.bytes]
  have extended := take_set sha.buffer inside byte
  refine ⟨?_, ?_⟩
  · by_cases full : sha.bufferSize + 1 = 64
    · obtain ⟨empty, next⟩ := updateByte_full byte full
      refine ⟨front ++ sha.buffer.set sha.bufferSize byte, ?_, ?_, ?_⟩
      · rw [List.length_append, long]
        exact Nat.dvd_add whole (dvd_refl 64)
      · rw [full, List.take_of_length_le (by omega)] at extended
        rw [empty, List.take_zero, List.append_nil, extended, split, List.append_assoc]
      · rw [next, absorb_append _ whole, ← state, absorb_single _ long]
    · obtain ⟨size, buffer, same⟩ := updateByte_room byte full
      refine ⟨front, whole, ?_, same.trans state⟩
      rw [size, buffer, extended, split, List.append_assoc]
  · rw [bitCount_updateByte, bits, List.length_append, List.length_singleton, Nat.mul_add, BitVec.ofNat_add]
    rfl

theorem Holds.update (holds : Holds sha input) (chunk : List UInt8) : Holds (sha.update chunk) (input ++ chunk) := by
  induction chunk generalizing sha input with
  | nil => rwa [List.append_nil]
  | cons byte rest ih =>
      have later := ih (holds.updateByte byte)
      rwa [List.append_assoc, List.singleton_append] at later

/-- Every way of splitting the input leads to the same object state. -/
theorem Holds.updates (holds : Holds sha input) (chunks : List (List UInt8)) :
    Holds (chunks.foldl Sha256.update sha) (input ++ chunks.flatten) := by
  induction chunks generalizing sha input with
  | nil => rwa [List.flatten_nil, List.append_nil]
  | cons chunk rest ih =>
      have later := ih (holds.update chunk)
      rwa [List.append_assoc, ← List.flatten_cons] at later

section Finishing
variable {start : Nat}

/-- The bytes of the message length, the most significant one first. -/
def lengthBytes (messageBits : BitVec 64) (count : Nat) : List UInt8 :=
  (List.range count).reverse.map fun index => UInt8.ofNat (messageBits >>> (index * 8)).toNat

theorem lengthBytes_succ (messageBits : BitVec 64) (count : Nat) : lengthBytes messageBits (count + 1) =
    UInt8.ofNat (messageBits >>> (count * 8)).toNat :: lengthBytes messageBits count := by
  simp [lengthBytes, List.range_succ]

@[simp] theorem length_lengthBytes (messageBits : BitVec 64) (count : Nat) :
    (lengthBytes messageBits count).length = count := by
  simp [lengthBytes]

/-- The loop that writes the length replaces the end of the buffer. -/
theorem foldl_writeLength (full : buffer.length = 64) (messageBits : BitVec 64) {count : Nat} (bound : count ≤ 64) :
    (List.range count).foldl (fun buffer index =>
      buffer.set (63 - index) (UInt8.ofNat (messageBits >>> (index * 8)).toNat)) buffer =
    buffer.take (64 - count) ++ lengthBytes messageBits count := by
  induction count with
  | zero => simp [lengthBytes, ← full]
  | succ count ih =>
      have place : 64 - count = 63 - count + 1 := by omega
      have short : (buffer.take (63 - count + 1)).length = 63 - count + 1 := by simp [full]; omega
      have last : (buffer.take (63 - count + 1)).set (63 - count)
          (UInt8.ofNat (messageBits >>> (count * 8)).toNat) =
          buffer.take (63 - count) ++ [UInt8.ofNat (messageBits >>> (count * 8)).toNat] := by
        have inside : 63 - count < (buffer.take (63 - count + 1)).length := by omega
        have written := take_set _ inside (UInt8.ofNat (messageBits >>> (count * 8)).toNat)
        rwa [List.take_of_length_le (by simp [full]), List.take_take, Nat.min_eq_left (by omega)] at written
      rw [List.range_succ, List.foldl_append, ih (by omega), List.foldl_cons, List.foldl_nil, place,
        List.set_append_left _ _ (by omega), last, lengthBytes_succ, List.append_assoc, Nat.sub_add_eq,
        Nat.sub_right_comm]
      rfl

theorem writeLength_eq (full : buffer.length = 64) (messageBits : BitVec 64) :
    writeLength buffer messageBits = buffer.take 56 ++ lengthBytes messageBits 8 :=
  foldl_writeLength full messageBits (by decide)

theorem length_writeLength (full : buffer.length = 64) (messageBits : BitVec 64) :
    (writeLength buffer messageBits).length = 64 := by
  rw [writeLength_eq full]
  simp [full]

/-- The bytes of the length denote the digits of the number of bits. -/
theorem bitsOf_lengthBytes (messageBits : BitVec 64) (count : Nat) :
    bitsOf (lengthBytes messageBits count) = digits (8 * count) messageBits.toNat := by
  induction count with
  | zero => rfl
  | succ count ih =>
      have high : digits 8 (UInt8.ofNat (messageBits >>> (count * 8)).toNat).toNat =
          digits 8 (messageBits.toNat / 2 ^ (8 * count)) := by
        rw [BitVec.toNat_ushiftRight, Nat.shiftRight_eq_div_pow, UInt8.toNat_ofNat', Nat.mul_comm count]
        apply List.map_congr_left
        intro index member
        have inside := List.mem_range.mp member
        rw [Nat.testBit_mod_two_pow]
        simp
        omega
      have width : 8 * (count + 1) = 8 + 8 * count := by ring
      rw [lengthBytes_succ, width, digits_add, ← ih, ← high]
      rfl

/-- The bytes that follow a message of this length in its last blocks. -/
def padding (length : Nat) (messageBits : BitVec 64) : List UInt8 :=
  0x80 :: List.replicate ((119 - length % 64) % 64) 0 ++ lengthBytes messageBits 8

theorem bitsOf_zeros (count : Nat) : bitsOf (List.replicate count 0) = List.replicate (8 * count) false := by
  induction count with
  | zero => rfl
  | succ count ih =>
      have zero : digits 8 (0 : UInt8).toNat = List.replicate 8 false := rfl
      have cons : bitsOf (0 :: List.replicate count 0) =
          digits 8 (0 : UInt8).toNat ++ bitsOf (List.replicate count 0) := List.flatMap_cons
      rw [List.replicate_succ, cons, zero, ih, List.replicate_append_replicate]
      congr 1
      ring

/-- The byte padding is the bit padding of the standard. -/
theorem pad_bitsOf (short : input.length < 2 ^ 61) :
    pad (bitsOf input) = bitsOf (input ++ padding input.length (BitVec.ofNat 64 (8 * input.length))) := by
  have zeros : zeroBits (8 * input.length) = 7 + 8 * ((119 - input.length % 64) % 64) := by
    apply zeroBits_eq <;> omega
  have marker : digits 8 (0x80 : UInt8).toNat = true :: List.replicate 7 false := rfl
  have length : (BitVec.ofNat 64 (8 * input.length)).toNat = 8 * input.length := by
    rw [BitVec.toNat_ofNat, Nat.mod_eq_of_lt (by omega)]
  have cons (rest : List UInt8) : bitsOf (0x80 :: rest) = digits 8 (0x80 : UInt8).toNat ++ bitsOf rest :=
    List.flatMap_cons
  rw [pad, length_bitsOf, zeros, padding, bitsOf_append, bitsOf_append, cons, marker, bitsOf_zeros,
    bitsOf_lengthBytes, length, ← List.replicate_append_replicate, List.append_assoc]
  rfl

theorem length_fill {stop : Nat} (order : start ≤ stop) (inside : stop ≤ buffer.length) :
    (fill buffer start stop).length = buffer.length := by
  simp only [fill, List.length_append, List.length_take, List.length_replicate, List.length_drop]
  omega

theorem take_fill {stop : Nat} (order : start ≤ stop) (inside : stop ≤ buffer.length) :
    (fill buffer start stop).take stop = buffer.take start ++ List.replicate (stop - start) 0 := by
  have front : (buffer.take start ++ List.replicate (stop - start) 0).length = stop := by
    simp only [List.length_append, List.length_take, List.length_replicate]
    omega
  rw [fill, List.take_append_of_le_length (by omega), List.take_of_length_le (by omega)]

/-- The last block ends with the length. -/
theorem writeLength_fill (full : buffer.length = 64) (order : start ≤ 56) (messageBits : BitVec 64) :
    writeLength (fill buffer start 56) messageBits =
      buffer.take start ++ List.replicate (56 - start) 0 ++ lengthBytes messageBits 8 := by
  have long : (fill buffer start 56).length = 64 := by
    rw [length_fill order (by omega), full]
  rw [writeLength_eq long, take_fill order (by omega)]

section LastBlocks
variable {buffer rest : List UInt8} {size : Nat} (full : buffer.length = 64)
  (marked : buffer.take (size + 1) = rest ++ [0x80]) (messageBits : BitVec 64)
include full marked

/-- A marker that leaves room for the length ends in one block. -/
theorem padding_one_block (early : size + 1 ≤ 56) :
    rest ++ padding size messageBits = writeLength (fill buffer (size + 1) 56) messageBits := by
  have zeros : (119 - size % 64) % 64 = 56 - (size + 1) := by omega
  rw [writeLength_fill full early, marked, padding, zeros]
  simp

/-- A marker that leaves no room for the length ends in two blocks. -/
theorem padding_two_blocks (late : 56 < size + 1) (inside : size < 64) :
    rest ++ padding size messageBits = fill buffer (size + 1) 64 ++
      writeLength (fill (fill buffer (size + 1) 64) 0 56) messageBits := by
  have zeros : (119 - size % 64) % 64 = 64 - (size + 1) + 56 := by omega
  have long : (fill buffer (size + 1) 64).length = 64 := by rw [length_fill (by omega) (by omega), full]
  have first := take_fill (show size + 1 ≤ 64 by omega) (Nat.le_of_eq full.symm)
  rw [List.take_of_length_le (by omega), marked] at first
  rw [writeLength_fill long (Nat.zero_le 56), first, padding, zeros, ← List.replicate_append_replicate]
  simp

end LastBlocks

/-- The object prints the hash value of its padded input. -/
theorem Holds.finish (holds : Holds sha input) : sha.finish = String.ofList
      ((absorb initialHash (input ++ padding input.length sha.bitCount)).flatMap encodeWord) := by
  obtain ⟨⟨front, whole, split, state⟩, _⟩ := holds
  have room := sha.room
  have bytes := sha.bytes
  have full : (sha.buffer.set sha.bufferSize 0x80).length = 64 := by rw [List.length_set, bytes]
  have marked := take_set sha.buffer (by omega : sha.bufferSize < sha.buffer.length) 0x80
  have size : padding input.length sha.bitCount = padding sha.bufferSize sha.bitCount := by
    rw [padding, padding, split, List.length_append, List.length_take, Nat.min_eq_left (by omega)]
    congr 4
    omega
  rw [size, split, List.append_assoc, absorb_append _ whole, ← state]
  by_cases late : 56 < sha.bufferSize + 1
  · have long : (fill (sha.buffer.set sha.bufferSize 0x80) (sha.bufferSize + 1) 64).length = 64 := by
      rw [length_fill (by omega) (by omega), full]
    rw [padding_two_blocks full marked _ late room, absorb_append _ (by omega), absorb_single _ long,
      absorb_single _ (length_writeLength (by rw [length_fill (by omega) (by omega), long]) _)]
    simp only [Sha256.finish, if_pos late]
  · rw [padding_one_block full marked _ (by omega),
      absorb_single _ (length_writeLength (by rw [length_fill (by omega) (by omega), full]) _)]
    simp only [Sha256.finish, if_neg late]

end Finishing

/-- A word that is printed with enough width shows its hexadecimal digits. -/
theorem leftpad_toDigits (width : Nat) {number : Nat} (small : number < 16 ^ (width + 1)) :
    (Nat.toDigits 16 number).leftpad (width + 1) '0' = hexadecimal (digits (4 * (width + 1)) number) := by
  induction width generalizing number with
  | zero =>
      have low : number < 16 := by simpa using small
      have nibble : value (digits 4 number) = number := by rw [value_digits]; omega
      rw [Nat.toDigits_of_lt_base low, hexadecimal, blocks_single (by decide) (length_digits 4 number),
        List.map_singleton, nibble]
      rfl
  | succ width ih =>
      have quotient : number / 16 < 16 ^ (width + 1) := by
        rw [pow_succ] at small
        omega
      have split : hexadecimal (digits (4 * (width + 1 + 1)) number) =
          hexadecimal (digits (4 * (width + 1)) (number / 16)) ++ [(number % 16).digitChar] := by
        have last : value (digits 4 number) = number % 16 := value_digits 4 number
        rw [Nat.mul_succ, digits_add, hexadecimal_append (by simp)]
        congr 1
        rw [hexadecimal, blocks_single (by decide) (length_digits 4 number), List.map_singleton, last]
      rw [split, ← ih quotient]
      by_cases low : number < 16
      · have zero : number / 16 = 0 := Nat.div_eq_of_lt low
        rw [zero, Nat.mod_eq_of_lt low, Nat.toDigits_of_lt_base low, Nat.toDigits_zero]
        simp [List.leftpad, ← List.replicate_succ']
      · rw [Nat.toDigits_of_base_le (by decide) (by omega)]
        simp [List.leftpad]

/-- The printed words are the hexadecimal digits of their bits. -/
theorem flatMap_encodeWord (words : List Word) : words.flatMap encodeWord =
    hexadecimal (words.flatMap fun word => digits 32 word.toNat) := by
  induction words with
  | nil => rfl
  | cons word rest ih =>
      have printed : encodeWord word = hexadecimal (digits 32 word.toNat) := leftpad_toDigits 7 word.isLt
      rw [List.flatMap_cons, List.flatMap_cons, ih, printed, hexadecimal_append (by rw [length_digits]; decide)]

end Sha256

/-- The digest of every input shorter than `2 ^ 61` bytes is its hexadecimal SHA-256, however the input
is split into updates. -/
theorem digest_eq_sha256 (chunks : List (List UInt8)) (short : chunks.flatten.length < 2 ^ 61) :
    (chunks.foldl Sha256.update {}).finish = String.ofList (hexadecimal (sha256 (Sha256.bitsOf chunks.flatten))) ∧
    digest chunks.flatten = String.ofList (hexadecimal (sha256 (Sha256.bitsOf chunks.flatten))) := by
  have standard (sha : Sha256) (holds : sha.Holds chunks.flatten) :
      sha.finish = String.ofList (hexadecimal (sha256 (Sha256.bitsOf chunks.flatten))) := by
    rw [holds.finish, holds.bitCount, Sha256.flatMap_encodeWord, sha256, hashValue, Sha256.pad_bitsOf short,
      Sha256.blocks_bitsOf 64]
    rfl
  exact ⟨standard _ (Sha256.holds_nil.updates chunks), standard _ (Sha256.holds_nil.update chunks.flatten)⟩

/-- The marker of this input leaves no room for its length in the block. -/
theorem digest_eq_sha256_two_blocks :
    (([List.replicate 40 97, List.replicate 20 98] : List (List UInt8)).foldl Sha256.update {}).finish =
      String.ofList (hexadecimal (sha256 (Sha256.bitsOf (List.replicate 40 97 ++ List.replicate 20 98)))) :=
  (digest_eq_sha256 [List.replicate 40 97, List.replicate 20 98] (by decide)).1

example : digest [97, 98, 99] = "ba7816bf8f01cfea414140de5dae2223b00361a396177a9cb410ff61f20015ad" := by
  decide +kernel

end OpenVehicle.Exec.ArtifactIntegrity
