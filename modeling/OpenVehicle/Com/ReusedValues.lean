/-
This file decides when a decoder forgets the prior value of its output variable. Structs are decoded in place, and
everything else is decoded apart and assigned.
-/

import OpenVehicle.Com.Evolution
import OpenVehicle.Com.Verdicts

namespace OpenVehicle.Com

open Codec (Byte)
open Data (Value)
open Data.Value (InRange)
open Tagged (Framing Slots readField readSlots readRecord_eq)

mutual

/-- Every member that is decoded in place has a field. -/
def Replaces : Ty → List Byte → Prop
  | .struct members, input => MembersReplaced members (payloads members input)
  | _, _ => True

def MembersReplaced : List (UInt32 × Bool × Ty) → (UInt32 → Option (List Byte)) → Prop
  | [], _ => True
  | (tag, required, ty) :: members, payloads =>
      (∃ payload, payloads tag = some payload ∧ (required = true → Replaces ty payload)) ∧
        MembersReplaced members payloads

end

mutual

/-- The type has a single value. -/
def Ty.single : Ty → Bool
  | .integer _ size => size == 0
  | .boundedString capacity => capacity == 0
  | .boundedVector _ capacity => capacity == 0
  | .array element capacity => capacity == 0 || element.single
  | .struct members => membersSingle members
  | _ => false

def membersSingle : List (UInt32 × Bool × Ty) → Bool
  | [] => true
  | (_, required, ty) :: members => required && ty.single && membersSingle members

end

mutual

/-- Nothing is stored that could differ from a prior value. -/
def Untouched : Ty → List Byte → Prop
  | .struct members, input => MembersUntouched members (payloads members input)
  | ty, input => remainder ty input = none ∨ ty.single = true

def MembersUntouched : List (UInt32 × Bool × Ty) → (UInt32 → Option (List Byte)) → Prop
  | [], _ => True
  | (tag, required, ty) :: members, payloads =>
      (∀ payload ∈ payloads tag, required = true ∧ Untouched ty payload) ∧ MembersUntouched members payloads

end

/-- Two prior values lead to one verdict and to one decoded value, and a refused input changes neither. -/
def Reusable (ty : Ty) (input : List Byte) : Prop :=
  ∀ first second, HasType ty first → HasType ty second →
    match decodeValue ty first input, decodeValue ty second input with
    | .ok one, .ok other => one = other
    | .error one, .error other => one = first ∧ other = second
    | _, _ => False

section Members
variable {members : List Member} {payloads : UInt32 → Option (List Byte)}

theorem membersReplaced_iff : MembersReplaced members payloads ↔ ∀ member ∈ members,
    ∃ payload, payloads member.1 = some payload ∧ (member.2.1 = true → Replaces member.2.2 payload) := by
  induction members with
  | nil => simp [MembersReplaced]
  | cons member members ih => rw [MembersReplaced, ih, List.forall_mem_cons]

theorem membersUntouched_iff : MembersUntouched members payloads ↔ ∀ member ∈ members,
    ∀ payload ∈ payloads member.1, member.2.1 = true ∧ Untouched member.2.2 payload := by
  induction members with
  | nil => simp [MembersUntouched]
  | cons member members ih => rw [MembersUntouched, ih, List.forall_mem_cons]

theorem membersSingle_iff :
    membersSingle members = true ↔ ∀ member ∈ members, member.2.1 = true ∧ member.2.2.single = true := by
  induction members with
  | nil => simp [membersSingle]
  | cons member members ih => rw [membersSingle, Bool.and_eq_true, Bool.and_eq_true, ih, List.forall_mem_cons]

/-- The record of initial members with another content in one of them. -/
def withMember (members : List Member) (tag : UInt32) (content : Option Value) : Value :=
  .record (members.map fun member => (member.1,
    if member.1 = tag then content else if member.2.1 then some (initial member.2.2) else none))

variable {content : Option Value} {member : Member}

theorem member_withMember {tag : UInt32} (distinct : (members.map Prod.fst).Nodup)
    (listed : member ∈ members) : (withMember members tag content).member member.1 =
      if member.1 = tag then content else if member.2.1 then some (initial member.2.2) else none :=
  @Value.member_record _ (member.1, _) (by rw [List.map_map]; exact distinct)
    (List.mem_map.mpr ⟨member, listed, rfl⟩)

/-- Only an optional member may be absent. -/
def Admits (member : Member) : Option Value → Prop
  | some content => HasType member.2.2 content
  | none => member.2.1 = false

theorem hasType_withMember (distinct : (members.map Prod.fst).Nodup)
    (initials : ∀ member ∈ members, HasType member.2.2 (initial member.2.2))
    (listed : member ∈ members) (admitted : Admits member content) :
    HasType (.struct members) (withMember members member.1 content) := by
  rw [HasType]
  refine ⟨?_, hasMembers_iff.mpr fun other known => ?_⟩
  · refine congrArg Value.record (List.map_congr_left fun other known => ?_)
    rw [member_withMember distinct known]
  · rw [member_withMember distinct known]
    by_cases same : other.1 = member.1
    · obtain rfl := List.inj_on_of_nodup_map distinct known listed same
      rw [if_pos rfl]
      exact admitted
    · rw [if_neg same]
      cases required : other.2.1 with
      | false => rfl
      | true => exact initials other known

end Members

section Values

/-- Two values of a struct are equal when their members are. -/
theorem struct_ext {members : List Member} {first second : Value} (one : HasType (.struct members) first)
    (other : HasType (.struct members) second)
    (same : ∀ member ∈ members, first.member member.1 = second.member member.1) : first = second := by
  rw [HasType] at one other
  rw [one.1, other.1]
  exact congrArg Value.record (List.map_congr_left fun member listed => by rw [same member listed])

/-- All values of the type are equal. -/
def Constant (ty : Ty) : Prop := ∀ first second, HasType ty first → HasType ty second → first = second

theorem single_integer (signed : Bool) (size : Nat) :
    (Ty.integer signed size).single = true ↔ Constant (.integer signed size) := by
  constructor
  · intro empty first second one other
    obtain rfl : size = 0 := by simpa [Ty.single] using empty
    cases first with
    | integer first =>
        cases second with
        | integer second =>
            have one : InRange signed 0 first := one
            have other : InRange signed 0 second := other
            rw [InRange] at one other
            refine congrArg Value.integer ?_
            cases signed with
            | false =>
                rw [if_neg Bool.false_ne_true] at one other
                omega
            | true =>
                rw [if_pos rfl] at one other
                omega
        | _ => cases other
    | _ => cases one
  · intro same
    by_contra large
    have positive : size ≠ 0 := by simpa [Ty.single] using large
    have wide : (256 : Int) ≤ 256 ^ size := by
      exact_mod_cast Nat.le_self_pow positive 256
    have range : ∀ value : Int, 0 ≤ value → value ≤ 1 → InRange signed size value := by
      intro value low high
      rw [InRange]
      split <;> omega
    have equal := same (.integer 0) (.integer 1) (range 0 (by decide) (by decide)) (range 1 (by decide) (by decide))
    cases equal

theorem single_boundedString (capacity : Nat) :
    (Ty.boundedString capacity).single = true ↔ Constant (.boundedString capacity) := by
  constructor
  · intro empty first second one other
    obtain rfl : capacity = 0 := by simpa [Ty.single] using empty
    cases first with
    | bytes first =>
        cases second with
        | bytes second =>
            obtain rfl := List.length_eq_zero_iff.mp (Nat.le_zero.mp one)
            obtain rfl := List.length_eq_zero_iff.mp (Nat.le_zero.mp other)
            rfl
        | _ => cases other
    | _ => cases one
  · intro same
    by_contra large
    have positive : capacity ≠ 0 := by simpa [Ty.single] using large
    cases same (.bytes []) (.bytes [0]) (Nat.zero_le _) (Nat.pos_of_ne_zero positive)

variable {element : Ty}

theorem single_boundedVector (unique : UniqueTags element) (capacity : Nat) :
    (Ty.boundedVector element capacity).single = true ↔ Constant (.boundedVector element capacity) := by
  constructor
  · intro empty first second one other
    obtain rfl : capacity = 0 := by simpa [Ty.single] using empty
    cases first with
    | sequence first =>
        cases second with
        | sequence second =>
            obtain rfl := List.length_eq_zero_iff.mp (Nat.le_zero.mp one.1)
            obtain rfl := List.length_eq_zero_iff.mp (Nat.le_zero.mp other.1)
            rfl
        | _ => cases other
    | _ => cases one
  · intro same
    by_contra large
    have positive : capacity ≠ 0 := by simpa [Ty.single] using large
    cases same (.sequence []) (.sequence [initial element]) ⟨Nat.zero_le _, nofun⟩
      ⟨Nat.pos_of_ne_zero positive, fun value listed => by
        rw [List.mem_singleton.mp listed]
        exact hasType_initial unique⟩

theorem single_array (inner : element.single = true ↔ Constant element) (capacity : Nat) :
    (Ty.array element capacity).single = true ↔ Constant (.array element capacity) := by
  constructor
  · intro empty first second one other
    cases first with
    | sequence first =>
        cases second with
        | sequence second =>
            have known : capacity = 0 ∨ element.single = true := by simpa [Ty.single] using empty
            refine congrArg Value.sequence (List.ext_getElem (one.1.trans other.1.symm) fun index low high => ?_)
            rcases known with rfl | single
            · exact absurd (one.1 ▸ low) (Nat.not_lt_zero index)
            · exact inner.mp single _ _ (one.2 _ (List.getElem_mem low)) (other.2 _ (List.getElem_mem high))
        | _ => cases other
    | _ => cases one
  · intro same
    have known : capacity ≠ 0 → element.single = true := by
      refine fun positive => inner.mpr fun first second one other => ?_
      have equal := same (.sequence (List.replicate capacity first)) (.sequence (List.replicate capacity second))
        ⟨List.length_replicate, fun value listed => List.eq_of_mem_replicate listed ▸ one⟩
        ⟨List.length_replicate, fun value listed => List.eq_of_mem_replicate listed ▸ other⟩
      exact (List.replicate_right_inj positive).mp (Value.sequence.inj equal)
    by_cases empty : capacity = 0
    · simp [Ty.single, empty]
    · simp [Ty.single, known empty]

/-- A struct has a single value when its members are required and have single values. -/
theorem single_struct {members : List (UInt32 × Bool × Ty)} (unique : UniqueTags (.struct members))
    (inner : ∀ member ∈ members, member.2.2.single = true ↔ Constant member.2.2) :
    (Ty.struct members).single = true ↔ Constant (.struct members) := by
  obtain ⟨distinct, below⟩ := unique
  have initials : ∀ member ∈ members, HasType member.2.2 (initial member.2.2) := fun member listed =>
    hasType_initial (uniqueMemberTags_iff.mp below member listed)
  constructor
  · intro single first second one other
    have single : ∀ member ∈ members, member.2.1 = true ∧ member.2.2.single = true := membersSingle_iff.mp single
    refine struct_ext one other fun member listed => ?_
    obtain ⟨required, alone⟩ := single member listed
    have left := hasMembers_iff.mp one.2 member listed
    have right := hasMembers_iff.mp other.2 member listed
    cases held : first.member member.1 with
    | none =>
        rw [held, required] at left
        cases left
    | some content =>
        cases kept : second.member member.1 with
        | none =>
            rw [kept, required] at right
            cases right
        | some other =>
            rw [held] at left
            rw [kept] at right
            exact congrArg some ((inner member listed).mp alone _ _ left right)
  · intro same
    refine membersSingle_iff.mpr fun member listed => ?_
    have equal {first second : Option Value} (one : Admits member first) (other : Admits member second) :
        first = second := by
      have equal := same _ _ (hasType_withMember distinct initials listed one)
        (hasType_withMember distinct initials listed other)
      have contents := congrArg (Value.member · member.1) equal
      simpa only [member_withMember distinct listed, if_true] using contents
    constructor
    · by_contra optional
      cases @equal none (some (initial member.2.2)) (Bool.eq_false_of_not_eq_true optional) (initials member listed)
    · refine (inner member listed).mpr fun first second one other => ?_
      exact Option.some.inj (@equal (some first) (some second) one other)

theorem single_iff {ty : Ty} (unique : UniqueTags ty) : ty.single = true ↔ Constant ty := by
  induction ty using Ty.induction with
  | integer signed size => exact single_integer signed size
  | boundedString capacity => exact single_boundedString capacity
  | boundedVector element capacity _ => exact @single_boundedVector element unique capacity
  | array element capacity inner => exact single_array (inner unique) capacity
  | struct members inner =>
      exact single_struct unique fun member listed =>
        inner member listed (uniqueMemberTags_iff.mp unique.2 member listed)
  | bool =>
      refine iff_of_false Bool.false_ne_true fun same => ?_
      cases same (.boolean false) (.boolean true) trivial trivial
  | float =>
      refine iff_of_false Bool.false_ne_true fun same => ?_
      cases same (.float 0) (.float 1) trivial trivial
  | double =>
      refine iff_of_false Bool.false_ne_true fun same => ?_
      cases same (.double 0) (.double 1) trivial trivial
  | bytes | string =>
      refine iff_of_false Bool.false_ne_true fun same => ?_
      cases same (.bytes []) (.bytes [0]) trivial trivial
  | vector element _ =>
      refine iff_of_false Bool.false_ne_true fun same => ?_
      cases same (.sequence []) (.sequence [initial element]) nofun fun value listed => by
        rw [List.mem_singleton.mp listed]
        exact hasType_initial unique
  | optional content _ =>
      refine iff_of_false Bool.false_ne_true fun same => ?_
      cases same (.optional none) (.optional (some (initial content))) nofun fun value held => by
        cases held
        exact hasType_initial unique

end Values

section Reuse
variable {ty : Ty} {input : List Byte}

/-- A type that is decoded apart is untouched when it is refused or has no other value. -/
theorem untouched_plain (plain : ∀ members, ty ≠ .struct members) (unique : UniqueTags ty) :
    (remainder ty input = none ∨ ty.single = true) ↔ ∀ prior, HasType ty prior → leaves ty prior input = prior := by
  obtain ⟨fresh, assigned⟩ := decode_plain plain input
  have verdict := rest_decode unique (initial ty) input
  rw [assigned, rest_assign] at verdict
  constructor
  · rintro (refused | single) prior typed
    · rw [refused, Option.map_eq_none_iff] at verdict
      rw [leaves, assigned, verdict]
      rfl
    · exact (single_iff unique).mp single _ _ (hasType_leaves unique typed input) typed
  · intro kept
    cases fresh with
    | none => exact .inl verdict.symm
    | some result =>
        refine .inr ((single_iff unique).mpr fun first second one other => ?_)
        have one := kept first one
        have other := kept second other
        rw [leaves, assigned] at one other
        exact one.symm.trans other

theorem leaves_plain (plain : ∀ members, ty ≠ .struct members) (unique : UniqueTags ty)
    (accepted : remainder ty input ≠ none) (first second : Value) : leaves ty first input = leaves ty second input := by
  obtain ⟨fresh, assigned⟩ := decode_plain plain input
  have verdict := rest_decode unique first input
  rw [assigned, rest_assign] at verdict
  cases fresh with
  | none => exact absurd verdict.symm accepted
  | some result =>
      rw [leaves, leaves, assigned, assigned]
      rfl

/-- A decoder leaves every prior value as it was exactly when it stores nothing. -/
theorem untouched_iff (unique : UniqueTags ty) :
    Untouched ty input ↔ ∀ prior, HasType ty prior → leaves ty prior input = prior := by
  induction ty using Ty.induction generalizing input with
  | struct members inner =>
      have below := uniqueMemberTags_iff.mp unique.2
      have initials : ∀ member ∈ members, HasType member.2.2 (initial member.2.2) := fun member listed =>
        hasType_initial (below member listed)
      rw [Untouched, membersUntouched_iff]
      constructor
      · intro untouched prior typed
        refine struct_ext (hasType_leaves unique typed input) typed fun member listed => ?_
        rw [member_leaves unique prior input listed]
        cases delivered : payloads members input member.1 with
        | none => rfl
        | some payload =>
            obtain ⟨required, silent⟩ := untouched member listed payload delivered
            have content := hasMembers_iff.mp typed.2 member listed
            cases held : prior.member member.1 with
            | none =>
                rw [held, required] at content
                cases content
            | some value =>
                rw [held] at content
                rw [left_memberReader, if_pos required, Option.getD_some]
                exact congrArg some ((inner member listed (below member listed)).mp silent value content)
      · intro kept member listed payload delivered
        have equal (content : Option Value) (admitted : Admits member content) :
            (memberReader member).left content (some payload) = content := by
          have same := kept _ (hasType_withMember unique.1 initials listed admitted)
          have contents := congrArg (Value.member · member.1) same
          simp only [member_leaves unique _ input listed, member_withMember unique.1 listed, if_true] at contents
          rwa [show payloads members input member.1 = some payload from delivered] at contents
        have required : member.2.1 = true := by
          by_contra optional
          have changed := equal none (Bool.eq_false_of_not_eq_true optional)
          rw [left_memberReader] at changed
          cases changed
        refine ⟨required, (inner member listed (below member listed)).mpr fun value typed => ?_⟩
        have same := equal (some value) typed
        rw [left_memberReader, if_pos required, Option.getD_some] at same
        exact Option.some.inj same
  | _ => exact untouched_plain (fun members => nofun) unique

/-- An accepted input decides the decoded value exactly when it has every member that is decoded in place. -/
theorem replaces_iff (unique : UniqueTags ty) (accepted : remainder ty input ≠ none) : Replaces ty input ↔
    ∀ first second, HasType ty first → HasType ty second → leaves ty first input = leaves ty second input := by
  induction ty using Ty.induction generalizing input with
  | struct members inner =>
      have below := uniqueMemberTags_iff.mp unique.2
      have initials : ∀ member ∈ members, HasType member.2.2 (initial member.2.2) := fun member listed =>
        hasType_initial (below member listed)
      have nested {member : Member} (listed : member ∈ members) {payload : List Byte}
          (delivered : payloads members input member.1 = some payload) : remainder member.2.2 payload ≠ none := by
        rw [(accepted_struct unique accepted listed).1 payload delivered]
        exact Option.some_ne_none []
      rw [Replaces, membersReplaced_iff]
      constructor
      · intro replaced first second one other
        refine struct_ext (hasType_leaves unique one input) (hasType_leaves unique other input) fun member listed => ?_
        obtain ⟨payload, delivered, anew⟩ := replaced member listed
        rw [member_leaves unique first input listed, member_leaves unique second input listed, delivered,
          left_memberReader, left_memberReader]
        cases required : member.2.1 with
        | false => rfl
        | true =>
            have content {value : Value} (typed : HasType (.struct members) value) :
                HasType member.2.2 ((value.member member.1).getD (initial member.2.2)) := by
              have content := hasMembers_iff.mp typed.2 member listed
              cases held : value.member member.1 with
              | none => exact initials member listed
              | some value =>
                  rw [held] at content
                  exact content
            exact congrArg some ((inner member listed (below member listed) (nested listed delivered)).mp
              (anew required) _ _ (content one) (content other))
      · intro same member listed
        have equal {first second : Option Value} (one : Admits member first) (other : Admits member second) :
            (memberReader member).left first (payloads members input member.1) =
              (memberReader member).left second (payloads members input member.1) := by
          have same := same _ _ (hasType_withMember unique.1 initials listed one)
            (hasType_withMember unique.1 initials listed other)
          have contents := congrArg (Value.member · member.1) same
          simpa only [member_leaves unique _ input listed, member_withMember unique.1 listed, if_true] using contents
        cases delivered : payloads members input member.1 with
        | none =>
            rw [delivered] at equal
            have optional : member.2.1 = false := by
              refine Bool.eq_false_of_not_eq_true fun required => ?_
              have present := (accepted_struct unique accepted listed).2 required
              rw [delivered] at present
              cases present
            cases @equal none (some (initial member.2.2)) optional (initials member listed)
        | some payload =>
            rw [delivered] at equal
            refine ⟨payload, rfl, fun required => ?_⟩
            refine (inner member listed (below member listed) (nested listed delivered)).mpr
              fun first second one other => ?_
            have same := @equal (some first) (some second) one other
            simp only [left_memberReader, if_pos required, Option.getD_some] at same
            exact Option.some.inj same
  | _ =>
      refine iff_of_true trivial fun first second _ _ => leaves_plain ?_ unique accepted first second
      exact fun members => nofun

/-- A decoder may be given any variable when the accepted input has every member that is decoded in place, or when
the refused input stores nothing. The verdict is that of the bytes in any case. -/
theorem decode_reused (unique : UniqueTags ty) (input : List Byte) :
    (∀ prior, (∃ value, decodeValue ty prior input = .ok value) ↔ remainder ty input = some []) ∧ (Reusable ty input ↔
        if remainder ty input = some [] then Replaces ty input else Untouched ty input) := by
  constructor
  · intro prior
    rw [← rest_decode unique prior]
    exact decodeExactly_ok
  · simp only [Reusable, decodeValue_eq, rest_decode unique]
    by_cases accepted : remainder ty input = some []
    · simp only [if_pos accepted]
      exact (replaces_iff unique (accepted ▸ Option.some_ne_none [])).symm
    · simp only [if_neg accepted]
      rw [untouched_iff unique]
      constructor
      · exact fun same prior typed => (same prior prior typed typed).1
      · exact fun kept first second one other => ⟨kept first one, kept second other⟩

/-- A report has a required octet and an optional one. -/
def reportType : Ty := .struct [(1, true, .integer false 1), (2, false, .integer false 1)]

theorem generated_report : Contract.Generated reportType := by
  refine .struct (by decide) (by decide) fun member listed => ?_
  rcases List.mem_cons.mp listed with rfl | listed
  · exact .integer false 1
  · obtain rfl := List.mem_singleton.mp listed
    exact .integer false 1

def report (level : Int) (note : Option Int) : Value :=
  .record [(1, some (.integer level)), (2, note.map Value.integer)]

theorem hasType_report {level : Int} (range : InRange false 1 level) {note : Option Int}
    (noted : ∀ value ∈ note, InRange false 1 value) : HasType reportType (report level note) := by
  refine ⟨rfl, range, ?_, trivial⟩
  cases note with
  | none => rfl
  | some value => exact noted value rfl

/-- An accepted report with both octets replaces the whole variable. -/
theorem decode_reused_whole : Reusable reportType [1, 0, 0, 0, 1, 0, 0, 0, 7, 2, 0, 0, 0, 1, 0, 0, 0, 9] := by
  let slots : Slots (List Byte) := ⟨fun _ => none, []⟩
  have both : readSlots framing (recorders [(1, true, Ty.integer false 1), (2, false, .integer false 1)]) true
      (fun _ => none) [1, 0, 0, 0, 1, 0, 0, 0, 7, 2, 0, 0, 0, 1, 0, 0, 0, 9] =
        .ok ((slots.set 1 [7]).set 2 [9]) := by
    have level : framing.next [1, 0, 0, 0, 1, 0, 0, 0, 7, 2, 0, 0, 0, 1, 0, 0, 0, 9] =
        some (1, [7], [2, 0, 0, 0, 1, 0, 0, 0, 9]) := rfl
    have note : framing.next [2, 0, 0, 0, 1, 0, 0, 0, 9] = some (2, [9], []) := rfl
    rw [readSlots, framing.fold_next _ level]
    rw [show readField (recorders [(1, true, .integer false 1), (2, false, .integer false 1)]) true slots 1 [7] =
      .ok (slots.set 1 [7]) from rfl, Except.bind, framing.fold_next _ note]
    rw [show readField (recorders [(1, true, .integer false 1), (2, false, .integer false 1)]) true (slots.set 1 [7])
      2 [9] = .ok ((slots.set 1 [7]).set 2 [9]) from rfl, Except.bind, Framing.fold_nil]
    rfl
  refine (decode_reused generated_report.unique _).2.mpr ?_
  have accepted : remainder reportType [1, 0, 0, 0, 1, 0, 0, 0, 7, 2, 0, 0, 0, 1, 0, 0, 0, 9] = some [] := by
    rw [reportType, remainder, both]
  rw [if_pos accepted, reportType, Replaces, payloads, both]
  exact ⟨⟨[7], rfl, fun _ => trivial⟩, ⟨[9], rfl, fun unset => by cases unset⟩, trivial⟩

/-- A decoded report keeps the optional octet of the previous one, and a refused report keeps half of the new one. -/
theorem report_remembers : Contract.Generated reportType ∧
    ¬Reusable reportType [1, 0, 0, 0, 1, 0, 0, 0, 7] ∧ ¬Reusable reportType [2, 0, 0, 0, 1, 0, 0, 0, 7] := by
  have bare : HasType reportType (report 5 none) := hasType_report (by decide) nofun
  have noted : HasType reportType (report 5 (some 9)) := hasType_report (by decide) (by decide)
  refine ⟨generated_report, fun same => ?_, fun same => ?_⟩
  · have frame : framing.next [1, 0, 0, 0, 1, 0, 0, 0, 7] = some (1, [7], []) := rfl
    have decoded (note : Option Int) :
        decodeValue reportType (report 5 note) [1, 0, 0, 0, 1, 0, 0, 0, 7] = .ok (report 7 note) := by
      rw [decodeValue, decodeExactly, reportType, decode, readRecord_eq, readSlots, framing.fold_next _ frame]
      rw [show readField (readers [(1, true, .integer false 1), (2, false, .integer false 1)]) true
        ⟨(report 5 note).member, []⟩ 1 [7] = .ok (Slots.set ⟨(report 5 note).member, []⟩ 1 (.integer 7)) from rfl]
      simp only [Except.bind, Framing.fold_nil]
      rfl
    have equal := same _ _ bare noted
    rw [decoded, decoded] at equal
    cases equal
  · have frame : framing.next [2, 0, 0, 0, 1, 0, 0, 0, 7] = some (2, [7], []) := rfl
    have refused :
        decodeValue reportType (report 5 none) [2, 0, 0, 0, 1, 0, 0, 0, 7] = .error (report 5 (some 7)) := by
      rw [decodeValue, decodeExactly, reportType, decode, readRecord_eq, readSlots, framing.fold_next _ frame]
      rw [show readField (readers [(1, true, .integer false 1), (2, false, .integer false 1)]) true
        ⟨(report 5 none).member, []⟩ 2 [7] = .ok (Slots.set ⟨(report 5 none).member, []⟩ 2 (.integer 7)) from rfl]
      simp only [Except.bind, Framing.fold_nil]
      rfl
    have equal := same _ _ bare bare
    rw [refused] at equal
    cases equal.1

end Reuse

end OpenVehicle.Com
