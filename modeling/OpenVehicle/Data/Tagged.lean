/-
This file decodes records of tagged fields. A framing cuts one field from the front of an input, and
a reader decodes the payload of the field that carries its tag. A decoder that fails reports what it
has left in its output variable.
-/

import OpenVehicle.Data.Codec

namespace OpenVehicle.Tagged

open Codec (Byte)

/-- A framing cuts a tag and a payload from the front of an input. -/
structure Framing where
  next : List Byte → Option (UInt32 × List Byte × List Byte)
  shorter : ∀ {input tag payload rest}, next input = some (tag, payload, rest) → rest.length < input.length

variable {print : UInt32 × List Byte → List Byte}

namespace Framing
variable {S : Type}

/-- The fold stops at the end of the input, at a bad frame and at a refused field. -/
def fold (framing : Framing) (step : S → UInt32 → List Byte → Except S S) (state : S)
    (input : List Byte) : Except S S :=
  if input = [] then .ok state
  else
    match _frame : framing.next input with
    | none => .error state
    | some (tag, payload, rest) =>
        (step state tag payload).bind fun state => framing.fold step state rest
termination_by input.length
decreasing_by exact framing.shorter _frame

variable (framing : Framing) (step : S → UInt32 → List Byte → Except S S)

@[simp] theorem fold_nil (state : S) : framing.fold step state [] = .ok state := by
  rw [fold, if_pos rfl]

theorem fold_next {state : S} {input rest payload : List Byte} {tag : UInt32}
    (frame : framing.next input = some (tag, payload, rest)) :
    framing.fold step state input = (step state tag payload).bind fun state => framing.fold step state rest := by
  have some : input ≠ [] := by
    intro empty
    have shorter := framing.shorter frame
    rw [empty, List.length_nil] at shorter
    omega
  rw [fold, if_neg some]
  split
  · rename_i missing
    rw [frame] at missing
    cases missing
  · rename_i found
    rw [frame] at found
    cases found
    rfl

/-- The fold over printed fields is the fold over the fields. -/
theorem fold_fields (fields : List (UInt32 × List Byte))
    (exact : ∀ field ∈ fields, ∀ rest, framing.next (print field ++ rest) = some (field.1, field.2, rest)) (state : S) :
    framing.fold step state (fields.flatMap print) =
      fields.foldlM (fun state field => step state field.1 field.2) state := by
  induction fields generalizing state with
  | nil => exact framing.fold_nil step state
  | cons field fields ih =>
      have head := exact field List.mem_cons_self (fields.flatMap print)
      have tail := ih fun other member => exact other (List.mem_cons_of_mem _ member)
      rw [List.flatMap_cons, framing.fold_next step head, List.foldlM_cons]
      cases step state field.1 field.2 with
      | error stopped => rfl
      | ok next => exact tail next

end Framing

section Readers
variable {V : Type}

/-- A reader decodes one member. It receives and reports the value that the member has. -/
structure Reader (V : Type) where
  tag : UInt32
  required : Bool
  decode : Option V → List Byte → Except (Option V) V

/-- The decoder of a record keeps the member values and the tags it has seen. -/
structure Slots (V : Type) where
  values : UInt32 → Option V
  seen : List UInt32

namespace Slots

def put (slots : Slots V) (tag : UInt32) (value : Option V) : Slots V :=
  { slots with values := Function.update slots.values tag value }

def set (slots : Slots V) (tag : UInt32) (value : V) : Slots V :=
  { slots.put tag (some value) with seen := tag :: slots.seen }

/-- The members of the record in the order of their readers. -/
def fields (slots : Slots V) (readers : List (Reader V)) : List (UInt32 × Option V) :=
  readers.map fun reader => (reader.tag, slots.values reader.tag)

variable (slots : Slots V) (tag : UInt32) (value : V)

@[simp] theorem seen_set : (slots.set tag value).seen = tag :: slots.seen := rfl

@[simp] theorem values_set_self : (slots.set tag value).values tag = some value := Function.update_self ..

theorem values_set_of_ne {other : UInt32} (apart : other ≠ tag) :
    (slots.set tag value).values other = slots.values other := Function.update_of_ne apart ..

end Slots

/-- The switch over the tags skips an unknown field. A format may refuse a repeated field. -/
def readField (readers : List (Reader V)) (once : Bool) (slots : Slots V) (tag : UInt32)
    (payload : List Byte) : Except (Slots V) (Slots V) :=
  match readers.find? (·.tag = tag) with
  | none => .ok slots
  | some reader =>
      if once && decide (tag ∈ slots.seen) then .error slots
      else
        match reader.decode (slots.values tag) payload with
        | .error value => .error (slots.put tag value)
        | .ok value => .ok (slots.set tag value)

/-- Every required member must have been seen. -/
def finish (readers : List (Reader V)) (slots : Slots V) : Except (Slots V) (Slots V) :=
  if readers.all fun reader => !reader.required || decide (reader.tag ∈ slots.seen) then .ok slots
  else .error slots

/-- The fields of a record are read to the end of the input. -/
def readRecord (framing : Framing) (readers : List (Reader V)) (once : Bool)
    (initial : UInt32 → Option V) (input : List Byte) :
    Except (List (UInt32 × Option V)) (List (UInt32 × Option V)) :=
  match (framing.fold (readField readers once) ⟨initial, []⟩ input).bind (finish readers) with
  | .error slots => .error (slots.fields readers)
  | .ok slots => .ok (slots.fields readers)

variable {readers : List (Reader V)} {once : Bool}

/-- The readers keep their initial value outside the fields and take the decoded value inside. -/
theorem foldlM_readField (value : UInt32 → V) (fields : List (UInt32 × List Byte)) (slots : Slots V)
    (distinct : (fields.map Prod.fst).Nodup) (fresh : ∀ field ∈ fields, field.1 ∉ slots.seen)
    (decoded : ∀ field ∈ fields, ∀ reader, readers.find? (·.tag = field.1) = some reader →
      reader.decode (slots.values field.1) field.2 = .ok (value field.1)) :
    ∃ final, fields.foldlM (fun slots field => readField readers once slots field.1 field.2) slots = .ok final ∧
      ∀ reader ∈ readers, (reader.tag ∈ final.seen ↔ reader.tag ∈ slots.seen ∨ reader.tag ∈ fields.map Prod.fst) ∧
        final.values reader.tag = if reader.tag ∈ fields.map Prod.fst then some (value reader.tag)
          else slots.values reader.tag := by
  induction fields generalizing slots with
  | nil =>
      refine ⟨slots, rfl, fun reader _ => ?_⟩
      simp
  | cons field fields ih =>
      obtain ⟨apart, distinct⟩ := List.nodup_cons.mp distinct
      have later : ∀ other ∈ fields, other.1 ≠ field.1 := fun other member same =>
        apart (same ▸ List.mem_map_of_mem member)
      cases known : readers.find? (·.tag = field.1) with
      | none =>
          have skipped : readField readers once slots field.1 field.2 = .ok slots := by
            rw [readField, known]
          obtain ⟨final, run, facts⟩ := ih slots distinct
            (fun other member => fresh other (List.mem_cons_of_mem _ member))
            (fun other member => decoded other (List.mem_cons_of_mem _ member))
          refine ⟨final, by rw [List.foldlM_cons, skipped]; exact run, fun reader member => ?_⟩
          have other : reader.tag ≠ field.1 := by
            have unknown := List.find?_eq_none.mp known reader member
            simpa using unknown
          simp only [List.map_cons, List.mem_cons, other, false_or]
          exact facts reader member
      | some first =>
          have taken : readField readers once slots field.1 field.2 =
              .ok (slots.set field.1 (value field.1)) := by
            have unseen := fresh field List.mem_cons_self
            rw [readField, known]
            simp only [unseen, decide_false, Bool.and_false, Bool.false_eq_true, if_false]
            rw [decoded field List.mem_cons_self first known]
          obtain ⟨final, run, facts⟩ := ih (slots.set field.1 (value field.1)) distinct
            (fun other member => by
              have old := fresh other (List.mem_cons_of_mem _ member)
              rw [Slots.seen_set, List.mem_cons]
              exact not_or.mpr ⟨later other member, old⟩)
            (fun other member reader found => by
              rw [Slots.values_set_of_ne _ _ _ (later other member)]
              exact decoded other (List.mem_cons_of_mem _ member) reader found)
          refine ⟨final, by rw [List.foldlM_cons, taken]; exact run, fun reader member => ?_⟩
          obtain ⟨seen, values⟩ := facts reader member
          rw [seen, values, List.map_cons, Slots.seen_set]
          by_cases same : reader.tag = field.1
          · rw [← same] at apart
            rw [← same, if_neg apart, Slots.values_set_self]
            simp
          · rw [Slots.values_set_of_ne _ _ _ same]
            simp only [List.mem_cons, same, false_or, and_self]

/-- A record of printed fields is read when every required member is among the fields. -/
theorem readRecord_fields {framing : Framing}
    (fields : List (UInt32 × List Byte)) (initial : UInt32 → Option V) (value : UInt32 → V)
    (exact : ∀ field ∈ fields, ∀ rest, framing.next (print field ++ rest) = some (field.1, field.2, rest))
    (distinct : (fields.map Prod.fst).Nodup)
    (decoded : ∀ field ∈ fields, ∀ reader, readers.find? (·.tag = field.1) = some reader →
      reader.decode (initial field.1) field.2 = .ok (value field.1))
    (present : ∀ reader ∈ readers, reader.required = true → reader.tag ∈ fields.map Prod.fst) :
    readRecord framing readers once initial (fields.flatMap print) = .ok (readers.map fun reader => (reader.tag,
        if reader.tag ∈ fields.map Prod.fst then some (value reader.tag) else initial reader.tag)) := by
  obtain ⟨final, run, facts⟩ := @foldlM_readField V readers once value fields ⟨initial, []⟩ distinct
    (fun _ _ => List.not_mem_nil) decoded
  have complete : finish readers final = .ok final := by
    rw [finish, if_pos]
    rw [List.all_eq_true]
    intro reader member
    cases needed : reader.required with
    | false => rfl
    | true =>
        have seen := (facts reader member).1.mpr (.inr (present reader member needed))
        simpa using seen
  have result : (framing.fold (readField readers once) ⟨initial, []⟩ (fields.flatMap print)).bind
      (finish readers) = .ok final := by
    rw [framing.fold_fields _ fields exact, run]
    exact complete
  rw [readRecord, result]
  apply congrArg Except.ok
  apply List.map_congr_left
  intro reader member
  rw [(facts reader member).2]

/-- An empty input is a record without required members. -/
theorem readRecord_nil {framing : Framing} (initial : UInt32 → Option V) :
    (∃ fields, readRecord framing readers once initial [] = .ok fields) ↔
      (readers.all fun reader => !reader.required) = true := by
  have last : finish readers ⟨initial, []⟩ = if readers.all fun reader => !reader.required
      then .ok ⟨initial, []⟩ else .error ⟨initial, []⟩ := by
    simp only [finish, List.not_mem_nil, decide_false, Bool.or_false]
  rw [readRecord, framing.fold_nil]
  change (∃ fields, (match finish readers ⟨initial, []⟩ with
    | .error slots => .error (slots.fields readers)
    | .ok slots => .ok (slots.fields readers)) = Except.ok fields) ↔ _
  rw [last]
  cases readers.all fun reader => !reader.required with
  | true => exact iff_of_true ⟨_, rfl⟩ rfl
  | false =>
      apply iff_of_false _ Bool.false_ne_true
      rintro ⟨fields, read⟩
      cases read

end Readers

end OpenVehicle.Tagged
