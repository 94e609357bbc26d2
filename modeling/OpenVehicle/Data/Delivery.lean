/-
This file follows the payloads that the decoder of a record hands to its readers. A decoder that refuses a repeated
field calls a reader at most once, so that its payload decides what it leaves of its member.
-/

import Mathlib.Data.List.Nodup
import OpenVehicle.Data.Tagged

namespace OpenVehicle.Tagged

open Codec (Byte)

section Simulation
variable {S T : Type} {running accepted stopped : S → T → Prop}

/-- Two runs end together, in states that are related as their ends demand. -/
def Ends (accepted stopped : S → T → Prop) : Except S S → Except T T → Prop
  | .ok first, .ok second => accepted first second
  | .error first, .error second => stopped first second
  | _, _ => False

variable {second : Except T T} {first : Except S S}

theorem Ends.both (ends : Ends accepted stopped first second) :
    (∃ state record, first = .ok state ∧ second = .ok record ∧ accepted state record) ∨
      ∃ state record, first = .error state ∧ second = .error record ∧ stopped state record := by
  cases first with
  | error left =>
      cases second with
      | error right => exact .inr ⟨left, right, rfl, rfl, ends⟩
      | ok right => cases ends
  | ok left =>
      cases second with
      | error right => cases ends
      | ok right => exact .inl ⟨left, right, rfl, rfl, ends⟩

theorem Ends.bind {next : S → Except S S} {other : T → Except T T} (head : Ends running stopped first second)
    (tail : ∀ state record, running state record → Ends accepted stopped (next state) (other record)) :
    Ends accepted stopped (first.bind next) (second.bind other) := by
  rcases head.both with ⟨state, record, rfl, rfl, related⟩ | ⟨state, record, rfl, rfl, related⟩
  · exact tail state record related
  · exact related

variable {step : S → UInt32 → List Byte → Except S S}

theorem Framing.fold_bad (framing : Framing) {state : S}
    {input : List Byte} (some : input ≠ []) (bad : framing.next input = none) :
    framing.fold step state input = .error state := by
  rw [fold, if_neg some]
  split
  · rfl
  · rename_i found
    rw [bad] at found
    cases found

/-- Two folds over one input end together when their steps do. -/
theorem Framing.fold_ends (framing : Framing)
    {other : T → UInt32 → List Byte → Except T T} (keeps : ∀ state record tag payload, running state record →
      Ends running stopped (step state tag payload) (other record tag payload))
    (weaken : ∀ state record, running state record → stopped state record) {state : S} {record : T}
    (start : running state record) (input : List Byte) :
    Ends running stopped (framing.fold step state input) (framing.fold other record input) := by
  induction size : input.length using Nat.strong_induction_on generalizing input state record with
  | _ size ih =>
      by_cases empty : input = []
      · rw [empty, fold_nil, fold_nil]
        exact start
      · cases frame : framing.next input with
        | none =>
            rw [fold_bad framing empty frame, fold_bad framing empty frame]
            exact weaken state record start
        | some result =>
            obtain ⟨tag, payload, rest⟩ := result
            rw [fold_next framing step frame, fold_next framing other frame]
            refine (keeps state record tag payload start).bind fun state record later => ?_
            exact ih rest.length (size ▸ framing.shorter frame) later rest rfl

end Simulation

section Delivery
variable {M V : Type}

/-- The slots of a record at the end of its input. -/
def readSlots (framing : Framing) (readers : List (Reader V)) (once : Bool) (initial : UInt32 → Option V)
    (input : List Byte) : Except (Slots V) (Slots V) :=
  (framing.fold (readField readers once) ⟨initial, []⟩ input).bind (finish readers)

theorem readRecord_eq (framing : Framing) (readers : List (Reader V)) (once : Bool) (initial : UInt32 → Option V)
    (input : List Byte) : readRecord framing readers once initial input =
      match readSlots framing readers once initial input with
      | .error slots => .error (slots.fields readers)
      | .ok slots => .ok (slots.fields readers) := rfl

/-- A recorder keeps the payload that a reader receives. -/
def recorder (reader : Reader V) (accepts : List Byte → Prop) [DecidablePred accepts] : Reader (List Byte) :=
  ⟨reader.tag, reader.required, fun _ payload => if accepts payload then .ok payload else .error (some payload)⟩

/-- The member that a reader leaves, given the payload it has received. -/
def Reader.left (reader : Reader V) (current : Option V) : Option (List Byte) → Option V
  | none => current
  | some payload =>
      match reader.decode current payload with
      | .error value => value
      | .ok value => some value

variable (members : List M) (reader : M → Reader V) (accepts : M → List Byte → Prop) (initial : UInt32 → Option V)

/-- The record holds the payloads of the members that have been decoded. -/
structure Tracks (slots : Slots V) (record : Slots (List Byte)) : Prop where
  values : ∀ member ∈ members, slots.values (reader member).tag =
    (reader member).left (initial (reader member).tag) (record.values (reader member).tag)

/-- As long as no field is refused, the decoded members are those that have been seen. -/
structure Follows (slots : Slots V) (record : Slots (List Byte)) : Prop
    extends Tracks members reader initial slots record where
  seen : slots.seen = record.seen
  held : ∀ tag, (record.values tag).isSome ↔ tag ∈ record.seen
  accepted : ∀ member ∈ members, ∀ payload ∈ record.values (reader member).tag, accepts member payload

/-- A record is complete when its required members have a payload. -/
structure Completes (slots : Slots V) (record : Slots (List Byte)) : Prop
    extends Follows members reader accepts initial slots record where
  required : ∀ member ∈ members, (reader member).required = true → (record.values (reader member).tag).isSome

variable {members reader accepts initial} {slots : Slots V} {record : Slots (List Byte)}

/-- A payload is recorded where its reader decodes it. -/
theorem Tracks.put (tracks : Tracks members reader initial slots record)
    (distinct : (members.map fun member => (reader member).tag).Nodup) {member : M} (listed : member ∈ members)
    {payload : List Byte} {value : Option V}
    (left : (reader member).left (initial (reader member).tag) (some payload) = value) :
    Tracks members reader initial (slots.put (reader member).tag value)
      (record.put (reader member).tag (some payload)) where
  values other known := by
    by_cases same : (reader other).tag = (reader member).tag
    · obtain rfl := List.inj_on_of_nodup_map distinct known listed same
      change Function.update slots.values _ value _ =
        (reader other).left _ (Function.update record.values _ (some payload) _)
      rw [Function.update_self, Function.update_self, left]
    · change Function.update slots.values _ value _ =
        (reader other).left _ (Function.update record.values _ (some payload) _)
      rw [Function.update_of_ne same, Function.update_of_ne same, tracks.values other known]

variable [∀ member, DecidablePred (accepts member)]

theorem readField_ends (distinct : (members.map fun member => (reader member).tag).Nodup)
    (verdict : ∀ member ∈ members, ∀ current payload,
      (∃ value, (reader member).decode current payload = .ok value) ↔ accepts member payload)
    (tag : UInt32) (payload : List Byte) (follows : Follows members reader accepts initial slots record) :
    Ends (Follows members reader accepts initial) (Tracks members reader initial)
      (readField (members.map reader) true slots tag payload)
      (readField (members.map fun member => recorder (reader member) (accepts member)) true record tag payload) := by
  have first : (members.map reader).find? (·.tag = tag) =
      (members.find? fun member => (reader member).tag = tag).map reader := List.find?_map ..
  have second : (members.map fun member => recorder (reader member) (accepts member)).find? (·.tag = tag) =
      (members.find? fun member => (reader member).tag = tag).map fun member =>
        recorder (reader member) (accepts member) := List.find?_map ..
  rw [readField, readField, first, second]
  cases found : members.find? fun member => (reader member).tag = tag with
  | none => exact follows
  | some member =>
      have listed := List.mem_of_find?_eq_some found
      obtain rfl : (reader member).tag = tag := by simpa using List.find?_some found
      simp only [Option.map_some, Bool.true_and, decide_eq_true_eq, follows.seen]
      by_cases repeated : (reader member).tag ∈ record.seen
      · rw [if_pos repeated, if_pos repeated]
        exact follows.toTracks
      · rw [if_neg repeated, if_neg repeated]
        have empty : record.values (reader member).tag = none :=
          Option.not_isSome_iff_eq_none.mp (mt (follows.held _).mp repeated)
        have current : slots.values (reader member).tag = initial (reader member).tag := by
          rw [follows.values member listed, empty]
          rfl
        rw [current]
        have judged := verdict member listed (initial (reader member).tag) payload
        cases decoded : (reader member).decode (initial (reader member).tag) payload with
        | error value =>
            have refused : ¬accepts member payload := fun fine => by
              obtain ⟨value, read⟩ := judged.mpr fine
              rw [decoded] at read
              cases read
            simp only [recorder, if_neg refused]
            exact follows.toTracks.put distinct listed (by rw [Reader.left, decoded])
        | ok value =>
            have fine := judged.mp ⟨value, decoded⟩
            simp only [recorder, if_pos fine]
            have tracks := follows.toTracks.put distinct listed
              (show (reader member).left (initial (reader member).tag) (some payload) = some value by
                rw [Reader.left, decoded])
            refine ⟨⟨tracks.values⟩, congrArg (_ :: ·) follows.seen, fun tag => ?_, fun other known content kept => ?_⟩
            · rw [Slots.seen_set, List.mem_cons]
              by_cases same : tag = (reader member).tag
              · rw [same, Slots.values_set_self]
                simp
              · rw [Slots.values_set_of_ne _ _ _ same, follows.held]
                simp [same]
            · by_cases same : (reader other).tag = (reader member).tag
              · obtain rfl := List.inj_on_of_nodup_map distinct known listed same
                rw [Slots.values_set_self] at kept
                exact Option.some.inj kept ▸ fine
              · rw [Slots.values_set_of_ne _ _ _ same] at kept
                exact follows.accepted other known content kept

theorem finish_ends (follows : Follows members reader accepts initial slots record) :
    Ends (Completes members reader accepts initial) (Tracks members reader initial) (finish (members.map reader) slots)
      (finish (members.map fun member => recorder (reader member) (accepts member)) record) := by
  unfold finish
  rw [List.all_map, List.all_map, follows.seen]
  change Ends _ _ (if (members.all fun member =>
    !(reader member).required || decide ((reader member).tag ∈ record.seen)) = true then _ else _)
    (if (members.all fun member =>
      !(reader member).required || decide ((reader member).tag ∈ record.seen)) = true then _ else _)
  split
  · rename_i complete
    refine ⟨follows, fun member listed needed => (follows.held _).mpr ?_⟩
    have present := List.all_eq_true.mp complete member listed
    rw [needed] at present
    simpa using present
  · exact follows.toTracks

/-- A record and the payloads it hands out are read alike. -/
theorem readSlots_ends {framing : Framing} (distinct : (members.map fun member => (reader member).tag).Nodup)
    (verdict : ∀ member ∈ members, ∀ current payload,
      (∃ value, (reader member).decode current payload = .ok value) ↔ accepts member payload) (input : List Byte) :
    Ends (Completes members reader accepts initial) (Tracks members reader initial)
      (readSlots framing (members.map reader) true initial input)
      (readSlots framing (members.map fun member => recorder (reader member) (accepts member)) true
        (fun _ => none) input) := by
  have start : Follows members reader accepts initial ⟨initial, []⟩ ⟨fun _ => none, []⟩ :=
    ⟨⟨fun _ _ => rfl⟩, rfl, fun _ => by simp, nofun⟩
  refine (framing.fold_ends (fun slots record tag payload follows => ?_) (fun _ _ follows => follows.toTracks) start
    input).bind fun _ _ => finish_ends
  exact readField_ends distinct verdict tag payload follows

end Delivery

end OpenVehicle.Tagged
