/-
This file proves that the generated encoder does the same in its three modes. The outputs of two modes stay related
because the two operations of an encoder keep the relation.
-/

import OpenVehicle.Com.Sizes

namespace OpenVehicle.Com

open Codec (Byte)
open Data (Value)
open Data.Value (toBits)

/-- The public encoder into a given span reports whether it has filled it, and leaves its bytes there. -/
def encodeIntoSpan (ty : Ty) (value : Value) (destination : List Byte) : Bool × List Byte :=
  match encode ty value { destination := destination } with
  | .error left => (false, left.destination)
  | .ok out => (out.valid && out.size == destination.length, out.destination)

variable {first second : Encoder} {value : Encode}

section Modes
variable {destination : List Byte}

/-- The first encoder appends, and the second one has written the same bytes while they fit its destination. -/
structure Filling (destination : List Byte) (first second : Encoder) : Prop where
  growing : first.destination = []
  appends : first.countOnly = false
  size : first.size = first.bytes.length
  fixed : second.countOnly = false
  room : second.destination.length = destination.length
  fits : first.bytes.length ≤ destination.length → second.valid = true ∧ second.size = first.bytes.length ∧
    second.destination = first.bytes ++ destination.drop first.bytes.length
  spilled : destination.length < first.bytes.length → second.valid = false

/-- The destination after some bytes are written at the end of what it holds. -/
def Encoder.put (out : Encoder) (bytes : List Byte) : Encoder :=
  { out with
    destination := out.destination.take out.size ++ bytes ++ out.destination.drop (out.size + bytes.length)
    size := out.size + bytes.length }

/-- A write that fits extends the bytes of both encoders, and another one spoils the destination for good. -/
theorem Filling.extend (filling : Filling destination first second) {bytes : List Byte} {later : Encoder}
    (written : first.bytes.length + bytes.length ≤ destination.length → later = second.put bytes)
    (spoiled : destination.length < first.bytes.length + bytes.length → later.valid = false)
    (fixed : later.countOnly = false) (room : later.destination.length = destination.length) :
    Filling destination { first with bytes := first.bytes ++ bytes, size := first.size + bytes.length } later := by
  refine ⟨filling.growing, filling.appends, ?_, fixed, room, fun fits => ?_, fun long => ?_⟩
  · change first.size + bytes.length = (first.bytes ++ bytes).length
    rw [filling.size, List.length_append]
  · have sum : first.bytes.length + bytes.length ≤ destination.length := by
      rwa [← List.length_append]
    obtain ⟨valid, size, content⟩ := filling.fits (Nat.le_trans (Nat.le_add_right _ _) sum)
    rw [written sum]
    refine ⟨valid, ?_, ?_⟩
    · change second.size + bytes.length = (first.bytes ++ bytes).length
      rw [size, List.length_append]
    · change second.destination.take second.size ++ bytes ++ second.destination.drop (second.size + bytes.length) =
        first.bytes ++ bytes ++ destination.drop (first.bytes ++ bytes).length
      rw [size, content, List.take_left, List.drop_append, List.drop_of_length_le (Nat.le_add_right _ _),
        Nat.add_sub_cancel_left, List.drop_drop, List.nil_append, List.length_append]
  · refine spoiled ?_
    rwa [← List.length_append]

/-- Bytes that do not fit find a destination that is full or spoiled. -/
theorem Filling.short (filling : Filling destination first second) {bytes : List Byte}
    (long : destination.length < first.bytes.length + bytes.length) :
    second.valid = false ∨ second.destination.length < second.size + bytes.length := by
  by_cases full : first.bytes.length ≤ destination.length
  · refine .inr ?_
    rw [(filling.fits full).2.1, filling.room]
    exact long
  · exact .inl (filling.spilled (Nat.lt_of_not_le full))

theorem filling_steps (nonempty : destination ≠ []) : Steps (Filling destination) where
  append := fun first second byte filling => by
    have grown : first.append byte = { first with bytes := first.bytes ++ [byte], size := first.size + 1 } := by
      rw [Encoder.append, filling.appends, if_neg Bool.false_ne_true, if_pos filling.growing]
    have fixed : ¬second.countOnly = true := by rw [filling.fixed]; exact Bool.false_ne_true
    have known : second.destination ≠ [] := fun empty => nonempty
      (List.length_eq_zero_iff.mp (filling.room.symm.trans (congrArg List.length empty)))
    rw [grown, Encoder.append, if_neg fixed, if_neg known]
    by_cases space : second.size < second.destination.length
    · rw [if_pos space]
      refine filling.extend (fun _ => ?_) (fun long => ?_) filling.fixed ?_
      · rw [List.set_eq_take_append_cons_drop, if_pos space, Encoder.put, List.append_assoc]
        rfl
      · exact (filling.short long).resolve_right (Nat.not_lt_of_le space)
      · exact (List.length_set ..).trans filling.room
    · rw [if_neg space]
      refine filling.extend (fun fits => ?_) (fun _ => rfl) filling.fixed filling.room
      have size := (filling.fits (Nat.le_of_succ_le fits)).2.1
      rw [size, filling.room] at space
      exact absurd fits space
  raw := fun first second bytes filling => by
    have grown : first.raw bytes = { first with bytes := first.bytes ++ bytes, size := first.size + bytes.length } := by
      rw [Encoder.raw, filling.appends, if_neg Bool.false_ne_true, if_pos filling.growing]
    have fixed : ¬second.countOnly = true := by rw [filling.fixed]; exact Bool.false_ne_true
    have known : second.destination ≠ [] := fun empty => nonempty
      (List.length_eq_zero_iff.mp (filling.room.symm.trans (congrArg List.length empty)))
    rw [grown, Encoder.raw, if_neg fixed, if_neg known]
    by_cases spoils : second.size > second.destination.length ∨
        bytes.length > second.destination.length - second.size
    · rw [if_pos spoils]
      refine filling.extend (fun fits => ?_) (fun _ => rfl) filling.fixed filling.room
      have size := (filling.fits (Nat.le_trans (Nat.le_add_right _ _) fits)).2.1
      rw [size, filling.room] at spoils
      omega
    · rw [if_neg spoils]
      refine filling.extend (fun _ => rfl) (fun long => ?_) filling.fixed ?_
      · refine (filling.short long).resolve_right ?_
        omega
      · refine Eq.trans ?_ filling.room
        simp only [List.length_append, List.length_take, List.length_drop]
        omega

theorem filling_start (destination : List Byte) : Filling destination {} { destination := destination } where
  growing := rfl
  appends := rfl
  size := rfl
  fixed := rfl
  room := rfl
  fits := fun _ => ⟨rfl, rfl, rfl⟩
  spilled := fun long => absurd long (Nat.not_lt_zero _)

/-- The three modes agree. A value that has an encoding has its size, and it fills exactly the destinations of that
size with its bytes. Another value fills no destination. -/
theorem encoder_modes (ty : Ty) (value : Value) : ((∃ out, encode ty value {} = .ok out) →
      encodedSize ty value = (encodeValue ty value).length ∧ ∀ destination,
        ((encodeIntoSpan ty value destination).1 = true ↔ destination.length = (encodeValue ty value).length) ∧
        ((encodeIntoSpan ty value destination).1 = true →
          (encodeIntoSpan ty value destination).2 = encodeValue ty value)) ∧
      ((∃ left, encode ty value {} = .error left) →
        ∀ destination, (encodeIntoSpan ty value destination).1 = false) := by
  refine ⟨fun ⟨first, encoded⟩ => ?_, fun ⟨left, failed⟩ destination => ?_⟩
  · have printed := prints_encode encoded
    have bytes : encodeValue ty value = first.bytes := by rw [encodeValue, encoded]
    rw [bytes]
    refine ⟨encodedSize_eq printed, fun destination => ?_⟩
    by_cases empty : destination = []
    · subst empty
      have fresh : first = ({} : Encoder).raw first.bytes := Except.ok.inj (encoded.symm.trans (printed {} rfl))
      have size : first.size = first.bytes.length := by
        rw [fresh]
        exact Nat.zero_add _
      have valid : first.valid = true := by rw [fresh]; rfl
      have nothing : first.destination = [] := by rw [fresh]; rfl
      rw [encodeIntoSpan, encoded]
      dsimp only
      rw [valid, size, Bool.true_and, beq_iff_eq, nothing]
      exact ⟨eq_comm, fun same => (List.length_eq_zero_iff.mp same).symm⟩
    · have lifted := (filling_steps empty).keeps_encode ty value _ _ (filling_start destination)
      rw [encoded] at lifted
      unfold encodeIntoSpan
      cases direct : encode ty value { destination := destination } with
      | error left =>
          rw [direct] at lifted
          cases lifted
      | ok second =>
          rw [direct] at lifted
          have filling : Filling destination first second := lifted
          dsimp only
          by_cases fits : first.bytes.length ≤ destination.length
          · obtain ⟨valid, size, content⟩ := filling.fits fits
            rw [valid, size, Bool.true_and, beq_iff_eq, content]
            refine ⟨eq_comm, fun same => ?_⟩
            rw [same, List.drop_length, List.append_nil]
          · rw [filling.spilled (Nat.lt_of_not_le fits), Bool.false_and]
            exact ⟨iff_of_false Bool.false_ne_true fun same => fits same.ge, nofun⟩
  · by_cases empty : destination = []
    · rw [encodeIntoSpan, empty, failed]
    · have lifted := (filling_steps empty).keeps_encode ty value _ _ (filling_start destination)
      rw [failed] at lifted
      unfold encodeIntoSpan
      cases direct : encode ty value { destination := destination } with
      | error left => rfl
      | ok second =>
          rw [direct] at lifted
          cases lifted

/-- A route has an octet and an optional part with a sequence of words. -/
def routeType : Ty := .struct [(1, true, .integer false 1), (2, false, .struct [(4, true, .vector (.integer false 2))])]

def route : Value :=
  .record [(1, some (.integer 7)), (2, some (.record [(4, some (.sequence [.integer 8, .integer 9]))]))]

/-- A route with both members fills the destinations of 41 bytes. -/
theorem encoder_modes_nested : encodedSize routeType route = 41 ∧
    (∀ destination, (encodeIntoSpan routeType route destination).1 = true ↔ destination.length = 41) ∧
    (encodeIntoSpan routeType route (List.replicate 41 0)).2 =
      [1, 0, 0, 0, 1, 0, 0, 0, 7] ++ [2, 0, 0, 0, 24, 0, 0, 0] ++ [4, 0, 0, 0, 16, 0, 0, 0, 2, 0, 0, 0] ++
        [2, 0, 0, 0, 8, 0, 2, 0, 0, 0, 9, 0] := by
  obtain ⟨size, spans⟩ := (encoder_modes routeType route).1 ⟨_, rfl⟩
  have length : (encodeValue routeType route).length = 41 := rfl
  rw [length] at size
  simp only [length] at spans
  refine ⟨size, fun destination => (spans destination).1, ?_⟩
  have filled : (encodeIntoSpan routeType route (List.replicate 41 0)).1 = true := (spans _).1.mpr List.length_replicate
  exact (spans _).2 filled

end Modes

end OpenVehicle.Com
