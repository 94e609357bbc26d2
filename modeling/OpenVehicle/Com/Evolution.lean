/-
This file proves the round trip of the generated codecs and the wire compatibility of two contracts that
the compatibility check accepts.
-/

import OpenVehicle.Com.Generation

namespace OpenVehicle.Com.Contract

open Codec (Byte)
open Data (Value)
open Data.Value (InRange)

variable {members : List MemberDefinition} {name : String} {types : List TypeDefinition} {model : Contract}

/-- The facts of a valid contract that the codecs rely on. -/
structure Valid (model : Contract) : Prop where
  names : (model.types.map (·.name)).Nodup
  types : ∀ shape ∈ model.types, checkType model.types shape = []

theorem valid_of_validate (clean : validate model = []) : Valid model := by
  rw [validate] at clean
  simp only [List.append_eq_nil_iff, errorIf_eq_nil] at clean
  obtain ⟨⟨⟨_, names⟩, types⟩, _⟩ := clean
  exact ⟨by simpa using names, flatMap_eq_nil.mp types⟩

theorem tags_of_struct (clean : checkType types ⟨name, .struct members⟩ = []) :
    (members.map (·.tag)).Nodup ∧ ∀ member ∈ members, 1 ≤ member.tag ∧ member.tag ≤ 0xFFFFFFFF := by
  rw [checkType] at clean
  simp only [List.append_eq_nil_iff, errorIf_eq_nil] at clean
  obtain ⟨_, ⟨tags, _⟩, each⟩ := clean
  refine ⟨by simpa using tags, fun member listed => ?_⟩
  have good := flatMap_eq_nil.mp each member listed
  rw [checkMember] at good
  simp only [List.append_eq_nil_iff, errorIf_eq_nil, tagInRange] at good
  simpa using good.1.2

/-- The tag of a member on the wire. -/
def wireTag (member : MemberDefinition) : UInt32 := UInt32.ofNat member.tag.toNat

theorem wireTag_inj (range : ∀ member ∈ members, 1 ≤ member.tag ∧ member.tag ≤ 0xFFFFFFFF)
    {first second : MemberDefinition} (left : first ∈ members) (right : 1 ≤ second.tag ∧ second.tag ≤ 0xFFFFFFFF)
    (same : wireTag first = wireTag second) : first.tag = second.tag := by
  have numbers := congrArg UInt32.toNat same
  have low := range first left
  rw [wireTag, wireTag, UInt32.toNat_ofNat', UInt32.toNat_ofNat'] at numbers
  omega

theorem wireTag_ne_zero {member : MemberDefinition} (range : 1 ≤ member.tag ∧ member.tag ≤ 0xFFFFFFFF) :
    wireTag member ≠ 0 := by
  intro zero
  have number := congrArg UInt32.toNat zero
  rw [wireTag, UInt32.toNat_ofNat'] at number
  change _ = 0 at number
  omega

theorem nodup_wireTags (clean : checkType types ⟨name, .struct members⟩ = []) : (members.map wireTag).Nodup := by
  obtain ⟨tags, range⟩ := tags_of_struct clean
  have inner := (List.nodup_map_iff_inj_on (List.Nodup.of_map _ tags)).mp tags
  apply (List.nodup_map_iff_inj_on (List.Nodup.of_map _ tags)).mpr
  intro first left second right same
  exact inner first left second right (wireTag_inj range left (range second right) same)

variable {declared : Environment}

section Structs
variable {ty : Ty}

/-- A declared struct has the declared members in the order of their tags. -/
theorem declare_struct (defined : declare declared (.struct members) = some ty) :
    ∃ results : List Member, ty = .struct results ∧ (results.map Prod.fst).Perm (members.map wireTag) ∧
      (∀ result ∈ results, ∃ member ∈ members, result.1 = wireTag member ∧ result.2.1 = member.required ∧
        resolve declared member.type = some result.2.2) ∧
      ∀ member ∈ members, ∃ inner, resolve declared member.type = some inner ∧
        (wireTag member, member.required, inner) ∈ results := by
  obtain ⟨results, mapped, rfl⟩ := Option.map_eq_some_iff.mp defined
  have each := mapM_eq_some mapped
  have perm : (sortedMembers members).Perm members := List.perm_insertionSort _ members
  have tags : results.map Prod.fst = (sortedMembers members).map wireTag := by
    clear mapped defined perm
    generalize sortedMembers members = sorted at each ⊢
    induction each with
    | nil => rfl
    | cons head _ ih =>
        obtain ⟨inner, _, rfl⟩ := Option.map_eq_some_iff.mp head
        rw [List.map_cons, List.map_cons, ih]
        rfl
  refine ⟨results, rfl, tags ▸ perm.map wireTag, fun result listed => ?_, fun member listed => ?_⟩
  · obtain ⟨member, known, made⟩ := exists_right each listed
    obtain ⟨inner, resolved, rfl⟩ := Option.map_eq_some_iff.mp made
    exact ⟨member, perm.mem_iff.mp known, rfl, rfl, resolved⟩
  · obtain ⟨result, inside, made⟩ := exists_left each (perm.mem_iff.mpr listed)
    obtain ⟨inner, resolved, rfl⟩ := Option.map_eq_some_iff.mp made
    exact ⟨inner, resolved, inside⟩

end Structs

section Generated
variable {environment : Environment} {ty : Ty}

/-- The types that the generator makes of a valid contract. -/
inductive Generated : Ty → Prop
  | integer (signed : Bool) (size : Nat) : Generated (.integer signed size)
  | bool : Generated .bool
  | float : Generated .float
  | double : Generated .double
  | bytes : Generated .bytes
  | string : Generated .string
  | boundedString (capacity : Nat) : Generated (.boundedString capacity)
  | boundedVector {element : Ty} (capacity : Nat) (inner : Generated element) :
      Generated (.boundedVector element capacity)
  | array {element : Ty} (capacity : Nat) (inner : Generated element) : Generated (.array element capacity)
  | vector {element : Ty} (inner : Generated element) : Generated (.vector element)
  | struct {members : List Member} (distinct : (members.map Prod.fst).Nodup)
      (nonzero : ∀ member ∈ members, member.1 ≠ 0) (inner : ∀ member ∈ members, Generated member.2.2) :
      Generated (.struct members)

theorem Generated.unique (generated : Generated ty) : UniqueTags ty := by
  induction generated with
  | boundedVector _ _ ih | array _ _ ih | vector _ ih => exact ih
  | struct distinct _ _ ih => exact ⟨distinct, uniqueMemberTags_iff.mpr ih⟩
  | _ => trivial

theorem generated_resolve (below : ∀ name ty, declared.lookup name = some ty → Generated ty)
    (resolved : resolve declared name = some ty) : Generated ty := by
  unfold resolve at resolved
  split at resolved <;> first | (cases resolved; constructor) | exact below _ ty resolved

theorem generated_declare (below : ∀ name ty, declared.lookup name = some ty → Generated ty)
    {shape : TypeDefinition} (clean : checkType types shape = [])
    (defined : declare declared shape.kind = some ty) : Generated ty := by
  obtain ⟨name, kind⟩ := shape
  cases kind with
  | integer bits signed =>
      change (if _ then _ else _) = _ at defined
      split at defined
      · cases defined
        exact .integer signed _
      · cases defined
  | string storage capacity =>
      cases storage with
      | bounded =>
          obtain ⟨_, _, rfl⟩ := Option.map_eq_some_iff.mp defined
          exact .boundedString _
      | fixed =>
          obtain ⟨_, _, rfl⟩ := Option.map_eq_some_iff.mp defined
          exact .array _ (.integer true 1)
      | unbounded | other =>
          cases defined
          exact .string
  | sequence element storage capacity =>
      cases storage with
      | bounded =>
          obtain ⟨inner, resolved, defined⟩ := Option.bind_eq_some_iff.mp defined
          obtain ⟨_, _, defined⟩ := Option.bind_eq_some_iff.mp defined
          cases defined
          exact .boundedVector _ (generated_resolve below resolved)
      | fixed =>
          obtain ⟨inner, resolved, defined⟩ := Option.bind_eq_some_iff.mp defined
          obtain ⟨_, _, defined⟩ := Option.bind_eq_some_iff.mp defined
          cases defined
          exact .array _ (generated_resolve below resolved)
      | unbounded | other =>
          obtain ⟨inner, resolved, rfl⟩ := Option.map_eq_some_iff.mp defined
          exact .vector (generated_resolve below resolved)
  | struct members =>
      obtain ⟨results, rfl, tags, each, _⟩ := declare_struct defined
      refine .struct (tags.nodup_iff.mpr (nodup_wireTags clean)) (fun result listed => ?_) fun result listed => ?_
      · obtain ⟨member, known, same, _⟩ := each result listed
        rw [same]
        exact wireTag_ne_zero ((tags_of_struct clean).2 member known)
      · obtain ⟨member, _, _, _, resolved⟩ := each result listed
        exact generated_resolve below resolved
  | other kind => cases defined

theorem generate_run (generated : generate model = .ok environment) :
    ∃ ordered, orderedTypes model.types = .ok ordered ∧ declareAll ordered [] = .ok environment := by
  cases run : orderedTypes model.types with
  | error failure =>
      rw [generate, run] at generated
      cases generated
  | ok ordered =>
      rw [generate, run] at generated
      exact ⟨ordered, rfl, generated⟩

/-- The generated environment is closed: it has the declaration of every definition of the contract. -/
theorem generate_spec (valid : Valid model) (generated : generate model = .ok environment) :
    (∀ name ty, environment.lookup name = some ty → ∃ shape ∈ model.types, shape.name = name ∧
      declare environment shape.kind = some ty) ∧
    ∀ shape ∈ model.types, (environment.lookup shape.name).isSome := by
  obtain ⟨ordered, order, run⟩ := generate_run generated
  obtain ⟨distinct, known, complete⟩ := orderedTypes_spec valid.names order
  obtain ⟨_, closed, present⟩ := @declareAll_spec ordered [] environment distinct run
  constructor
  · intro name ty found
    rcases closed name ty found with old | ⟨shape, listed, same, defined⟩
    · cases old
    · exact ⟨shape, known shape listed, same, defined⟩
  · intro shape listed
    obtain ⟨other, inside, same⟩ := List.mem_map.mp (complete _ (List.mem_map_of_mem listed))
    rw [← same]
    exact present other inside

theorem generated_type (valid : Valid model) (generated : generate model = .ok environment)
    (resolved : resolve environment name = some ty) : Generated ty := by
  obtain ⟨ordered, order, run⟩ := generate_run generated
  obtain ⟨_, known, _⟩ := orderedTypes_spec valid.names order
  refine generated_resolve (declareAll_induction ?_ ?_ run) resolved
  · intro declared shape ty below listed defined
    exact generated_declare below (valid.types shape (known shape listed)) defined
  · intro name ty found
    cases found

end Generated

section Compatibility
variable {old new : Contract}

/-- Each type reads the encoding of the other one. -/
def Compatible (before after : Ty) : Prop := Reads before after ∧ Reads after before

variable {declared later : Environment} {before after : Ty}

theorem compatible_resolve
    (below : ∀ name before, declared.lookup name = some before → ∀ after, later.lookup name = some after →
      Compatible before after) (first : resolve declared name = some before)
    (second : resolve later name = some after) : Compatible before after := by
  unfold resolve at first second
  split at first
  case h_6 =>
    split at second <;> first | contradiction | exact below _ before first after second
  all_goals
    cases first
    cases second
    exact ⟨trivial, trivial⟩

theorem compatible_sequence {element : String} {storage : Storage} {capacity : Option Int}
    (inner : ∀ before after, resolve declared element = some before → resolve later element = some after →
      Compatible before after) (first : declare declared (.sequence element storage capacity) = some before)
    (second : declare later (.sequence element storage capacity) = some after) : Compatible before after := by
  cases storage with
  | bounded | fixed =>
      obtain ⟨mine, resolved, first⟩ := Option.bind_eq_some_iff.mp first
      obtain ⟨bound, known, first⟩ := Option.bind_eq_some_iff.mp first
      obtain ⟨other, found, second⟩ := Option.bind_eq_some_iff.mp second
      obtain ⟨limit, same, second⟩ := Option.bind_eq_some_iff.mp second
      cases first
      cases second
      obtain rfl : bound = limit := Option.some.inj (known.symm.trans same)
      obtain ⟨forth, back⟩ := inner mine other resolved found
      exact ⟨⟨rfl, forth⟩, ⟨rfl, back⟩⟩
  | unbounded | other =>
      obtain ⟨mine, resolved, rfl⟩ := Option.map_eq_some_iff.mp first
      obtain ⟨other, found, rfl⟩ := Option.map_eq_some_iff.mp second
      exact inner mine other resolved found

variable {types others : List TypeDefinition}

/-- The old members are unchanged members of the new struct, and the added ones are optional. -/
theorem compatible_struct {name label : String} {members additions : List MemberDefinition}
    (inner : ∀ name before after, resolve declared name = some before → resolve later name = some after →
      Compatible before after) (cleanBefore : checkType types ⟨name, .struct members⟩ = [])
    (cleanAfter : checkType others ⟨label, .struct additions⟩ = [])
    (accepted : memberErrors name members additions = []) (first : declare declared (.struct members) = some before)
    (second : declare later (.struct additions) = some after) : Compatible before after := by
  obtain ⟨results, rfl, tags, each, every⟩ := declare_struct first
  obtain ⟨outcomes, rfl, marks, eachNew, everyNew⟩ := declare_struct second
  have distinct := tags.nodup_iff.mpr (nodup_wireTags cleanBefore)
  have unique := marks.nodup_iff.mpr (nodup_wireTags cleanAfter)
  have newTags := (tags_of_struct cleanAfter).1
  have range := (tags_of_struct cleanBefore).2
  rw [memberErrors, List.append_eq_nil_iff] at accepted
  obtain ⟨kept, added⟩ := accepted
  have kept : ∀ member ∈ members, member ∈ additions := by
    intro member listed
    have same := errorIf_eq_nil.mp (flatMap_eq_nil.mp kept member listed)
    have found : lastBy (·.tag) additions member.tag = some member := by simpa using same
    exact ((lastBy_eq_some newTags).mp found).1
  have added : ∀ member ∈ additions, member.required = true → member ∈ members := by
    intro member listed needed
    have same := errorIf_eq_nil.mp (flatMap_eq_nil.mp added member listed)
    rw [needed, Bool.and_true, Bool.not_eq_false', List.contains_iff_mem] at same
    obtain ⟨old, known, tag⟩ := List.mem_map.mp same
    rw [← List.inj_on_of_nodup_map newTags (kept old known) listed tag]
    exact known
  have shared : ∀ member ∈ members, ∃ mine other, (wireTag member, member.required, mine) ∈ results ∧
      (wireTag member, member.required, other) ∈ outcomes ∧ Compatible mine other := by
    intro member listed
    obtain ⟨mine, resolved, inside⟩ := every member listed
    obtain ⟨other, found, within⟩ := everyNew member (kept member listed)
    exact ⟨mine, other, inside, within, inner member.type mine other resolved found⟩
  refine ⟨⟨distinct, unique, readsMembers_iff.mpr fun result listed => ?_⟩,
    ⟨unique, distinct, readsMembers_iff.mpr fun outcome listed => ?_⟩⟩
  · obtain ⟨member, known, tag, _, _⟩ := each result listed
    obtain ⟨mine, other, inside, within, forth, _⟩ := shared member known
    obtain rfl := List.inj_on_of_nodup_map distinct listed inside tag
    rw [find_member unique within]
    exact ⟨rfl, forth⟩
  · obtain ⟨member, known, tag, presence, _⟩ := eachNew outcome listed
    by_cases old : member ∈ members
    · obtain ⟨mine, other, inside, within, _, back⟩ := shared member old
      obtain rfl := List.inj_on_of_nodup_map unique listed within tag
      rw [find_member distinct inside]
      exact ⟨rfl, back⟩
    · have missing : results.find? (·.1 = outcome.1) = none := by
        apply List.find?_eq_none.mpr
        intro result inside
        obtain ⟨other, listed, mark, _, _⟩ := each result inside
        intro same
        have same : result.1 = outcome.1 := by simpa using same
        rw [tag, mark] at same
        have equal := wireTag_inj range listed ((tags_of_struct cleanAfter).2 member known) same
        rw [← List.inj_on_of_nodup_map newTags (kept other listed) known equal] at old
        exact old listed
      rw [missing]
      change outcome.2.1 = false
      rw [presence]
      exact Bool.eq_false_iff.mpr fun needed => old (added member known needed)

theorem compatible_declare {before after : TypeDefinition} {mine other : Ty}
    (inner : ∀ name before after, resolve declared name = some before → resolve later name = some after →
      Compatible before after) (cleanBefore : checkType types before = []) (cleanAfter : checkType others after = [])
    (distinct : (others.map (·.name)).Nodup) (listed : after ∈ others) (same : after.name = before.name)
    (accepted : typeErrors others before = []) (first : declare declared before.kind = some mine)
    (second : declare later after.kind = some other) : Compatible mine other := by
  rw [typeErrors, (lastBy_eq_some distinct).mpr ⟨listed, same⟩] at accepted
  dsimp only at accepted
  split at accepted
  · cases accepted
  · rename_i kinds
    obtain ⟨name, kind⟩ := before
    obtain ⟨label, sort⟩ := after
    dsimp only at accepted kinds first second
    split at accepted
    · exact compatible_struct inner cleanBefore cleanAfter accepted first second
    · cases first
    · rename_i bothStructs
      have equal := errorIf_eq_nil.mp accepted
      obtain ⟨rfl, rfl⟩ : name = label ∧ kind = sort := by simpa using equal
      cases kind with
      | integer bits signed =>
          obtain rfl := Option.some.inj (first.symm.trans second)
          change (if _ then _ else _) = _ at first
          split at first
          · cases first
            exact ⟨⟨rfl, rfl⟩, ⟨rfl, rfl⟩⟩
          · cases first
      | string storage capacity =>
          have equal : mine = other := by
            cases storage <;> exact Option.some.inj (first.symm.trans second)
          subst equal
          have none : ∀ name ty, ([] : Environment).lookup name = some ty → Generated ty :=
            fun _ _ found => by cases found
          have unique := (generated_declare none cleanBefore (by cases storage <;> exact first)).unique
          exact ⟨reads_self unique, reads_self unique⟩
      | sequence element storage capacity =>
          exact compatible_sequence (fun before after => inner element before after) first second
      | struct members => exact absurd rfl (bothStructs members members rfl)
      | other kind => cases first

variable {oldTypes newTypes : Environment}

theorem compatible_generated (validOld : Valid old) (validNew : Valid new) (accepted : compatibilityErrors old new = [])
    (oldRun : generate old = .ok oldTypes) (newRun : generate new = .ok newTypes)
    (first : resolve oldTypes name = some before)
    (second : resolve newTypes name = some after) : Compatible before after := by
  obtain ⟨ordered, order, run⟩ := generate_run oldRun
  obtain ⟨_, known, _⟩ := orderedTypes_spec validOld.names order
  obtain ⟨closed, _⟩ := generate_spec validNew newRun
  rw [compatibilityErrors, List.append_eq_nil_iff] at accepted
  have clean := flatMap_eq_nil.mp accepted.1
  refine compatible_resolve (declareAll_induction
    (P := fun name before => ∀ after, newTypes.lookup name = some after → Compatible before after)
    ?_ ?_ run) first second
  · intro declared shape mine below listed defined other found
    obtain ⟨after, inside, same, made⟩ := closed shape.name other found
    exact compatible_declare (fun _ _ _ => compatible_resolve below) (validOld.types shape (known shape listed))
      (validNew.types after inside) validNew.names inside same (clean shape (known shape listed)) defined made
  · intro name ty found
    cases found

/-- The new contract still declares every type that the old one declares. -/
theorem resolve_generated (validOld : Valid old) (validNew : Valid new) (accepted : compatibilityErrors old new = [])
    (oldRun : generate old = .ok oldTypes) (newRun : generate new = .ok newTypes)
    {before : Ty} (first : resolve oldTypes name = some before) :
    ∃ after, resolve newTypes name = some after := by
  unfold resolve at first ⊢
  split at first
  case h_6 =>
    obtain ⟨shape, listed, rfl, _⟩ := (generate_spec validOld oldRun).1 name before first
    rw [compatibilityErrors, List.append_eq_nil_iff] at accepted
    have clean := flatMap_eq_nil.mp accepted.1 shape listed
    rw [typeErrors] at clean
    split at clean
    · cases clean
    · rename_i after found
      obtain ⟨inside, same⟩ := (lastBy_eq_some validNew.names).mp found
      have present := (generate_spec validNew newRun).2 after inside
      rw [same] at present
      exact Option.isSome_iff_exists.mp present
  all_goals exact ⟨_, rfl⟩

end Compatibility

/-- The decoder of every type of a valid contract inverts its encoder exactly when the length prefix of the
value holds its length. -/
theorem codec_round_trip (model : Contract) (valid : validate model = []) (environment : Environment)
    (generated : generate model = .ok environment) (name : String) (ty : Ty)
    (resolved : resolve environment name = some ty) (value : Value) (typed : HasType ty value) (out : Encoder)
    (encoded : encode ty value {} = .ok out) : decode ty (initial ty) out.bytes = .ok (value, []) ↔ Fits ty value := by
  have self := reads_self (generated_type (valid_of_validate valid) generated resolved).unique
  have read := decode_project_iff self typed (prints_encode encoded)
  rwa [project_self typed] at read

/-- Two compatible contracts read each other: the old decoder keeps the old members, and the new decoder
finds the added members absent. -/
theorem schema_evolution (old new : Contract) (validOld : validate old = []) (validNew : validate new = [])
    (accepted : compatibilityErrors old new = []) (oldTypes newTypes : Environment)
    (oldRun : generate old = .ok oldTypes) (newRun : generate new = .ok newTypes) (name : String) (before : Ty)
    (resolved : resolve oldTypes name = some before) :
    ∃ after, resolve newTypes name = some after ∧ (∀ value out, HasType after value → encode after value {} = .ok out →
        (decode before (initial before) out.bytes = .ok (project before value, []) ↔ Fits after value)) ∧
      ∀ value out, HasType before value → encode before value {} = .ok out →
        (decode after (initial after) out.bytes = .ok (project after value, []) ↔ Fits before value) := by
  have validOld := valid_of_validate validOld
  have validNew := valid_of_validate validNew
  obtain ⟨after, found⟩ := resolve_generated validOld validNew accepted oldRun newRun resolved
  obtain ⟨forth, back⟩ := compatible_generated validOld validNew accepted oldRun newRun resolved found
  refine ⟨after, found, fun value out typed encoded => ?_, fun value out typed encoded => ?_⟩
  · exact decode_project_iff forth typed (prints_encode encoded)
  · exact decode_project_iff back typed (prints_encode encoded)

/-- This contract describes the level of a tank. -/
def tank : Contract where
  irVersion := 1
  wireFormat := "ovf-tagged-le-v1"
  types := [⟨"Reading", .struct [⟨"level", 1, "Level", true⟩]⟩, ⟨"Level", .integer 16 true⟩]
  services := []

/-- The new contract adds an optional history to the reading. -/
def loggedTank : Contract where
  irVersion := 1
  wireFormat := "ovf-tagged-le-v1"
  types := [⟨"Reading", .struct [⟨"level", 1, "Level", true⟩, ⟨"history", 2, "History", false⟩]⟩,
    ⟨"Level", .integer 16 true⟩, ⟨"History", .sequence "Level" .bounded (some 4)⟩]
  services := []

def readingType : Ty := .struct [(1, true, .integer true 2)]

def loggedType : Ty := .struct [(1, true, .integer true 2), (2, false, .boundedVector (.integer true 2) 4)]

def tankTypes : Environment := [("Reading", readingType), ("Level", .integer true 2)]

def loggedTypes : Environment :=
  [("Reading", loggedType), ("History", .boundedVector (.integer true 2) 4), ("Level", .integer true 2)]

/-- The reading holds its level and no history. -/
def plainReading : Value := .record [(1, some (.integer (-2)))]

/-- The logged reading holds its level and one earlier level. -/
def loggedReading : Value := .record [(1, some (.integer (-2))), (2, some (.sequence [.integer 7]))]

/-- The new type sees no history in the old reading. -/
def unloggedReading : Value := .record [(1, some (.integer (-2))), (2, none)]

def plainBytes : List Byte := [1, 0, 0, 0, 2, 0, 0, 0, 254, 255]

def loggedBytes : List Byte := plainBytes ++ [2, 0, 0, 0, 10, 0, 0, 0, 1, 0, 0, 0, 2, 0, 0, 0, 7, 0]

theorem validate_tank : validate tank = [] := by decide +kernel

theorem validate_loggedTank : validate loggedTank = [] := by decide +kernel

theorem encode_loggedReading : encode loggedType loggedReading {} = .ok { bytes := loggedBytes, size := 28 } := rfl

theorem hasType_loggedReading : HasType loggedType loggedReading := by
  refine ⟨rfl, ?_, ⟨by decide, ?_⟩, trivial⟩
  · change InRange true 2 (-2)
    decide
  · intro value listed
    obtain rfl := List.mem_singleton.mp listed
    change InRange true 2 7
    decide

theorem hasType_plainReading : HasType readingType plainReading := by
  refine ⟨rfl, ?_, trivial⟩
  change InRange true 2 (-2)
  decide

/-- A logged reading is read back. -/
theorem codec_round_trip_logged : decode loggedType (initial loggedType) loggedBytes = .ok (loggedReading, []) :=
  (codec_round_trip loggedTank validate_loggedTank loggedTypes rfl "Reading" loggedType rfl loggedReading
    hasType_loggedReading { bytes := loggedBytes, size := 28 } encode_loggedReading).mpr trivial

/-- A reading of either version is read by the other one. -/
theorem schema_evolution_logged : decode readingType (initial readingType) loggedBytes = .ok (plainReading, []) ∧
      decode loggedType (initial loggedType) plainBytes = .ok (unloggedReading, []) := by
  obtain ⟨after, found, forth, back⟩ := schema_evolution tank loggedTank validate_tank validate_loggedTank
    (by decide +kernel) tankTypes loggedTypes rfl rfl "Reading" readingType rfl
  obtain rfl : loggedType = after := Option.some.inj found
  constructor
  · exact (forth loggedReading { bytes := loggedBytes, size := 28 } hasType_loggedReading
      encode_loggedReading).mpr trivial
  · exact (back plainReading { bytes := plainBytes, size := 10 } hasType_plainReading rfl).mpr trivial

/-- This contract describes a text that may be longer than a length prefix can say. -/
def archive : Contract where
  irVersion := 1
  wireFormat := "ovf-tagged-le-v1"
  types := [⟨"Archive", .string .bounded (some (2 ^ 32))⟩]
  services := []

def archiveType : Ty := .boundedString (2 ^ 32)

theorem validate_archive : validate archive = [] := by decide +kernel

theorem generate_archive : generate archive = .ok [("Archive", archiveType)] := rfl

/-- The length prefix of the longest text is zero. -/
theorem archive_truncated {text : List Byte} (long : text.length = 2 ^ 32) {out : Encoder}
    (encoded : encode archiveType (.bytes text) {} = .ok out) :
    decode archiveType (initial archiveType) out.bytes ≠ .ok (project archiveType (.bytes text), []) := by
  have self : Reads archiveType archiveType := reads_self trivial
  have typed : HasType archiveType (.bytes text) := long.le
  intro read
  have fits : text.length ≤ UInt32.size - 1 := (decode_project_iff self typed (prints_encode encoded)).mp read
  rw [long] at fits
  exact absurd fits (by decide)

/-- A value of 4 GiB is not read back. -/
theorem codec_loses_text : ∃ model environment name ty value out, validate model = [] ∧
    generate model = .ok environment ∧ resolve environment name = some ty ∧ HasType ty value ∧
    encode ty value {} = .ok out ∧ decode ty (initial ty) out.bytes ≠ .ok (value, []) :=
  ⟨archive, [("Archive", archiveType)], "Archive", archiveType, .bytes (List.replicate (2 ^ 32) 0), _,
    validate_archive, generate_archive, rfl, List.length_replicate.le, rfl, archive_truncated List.length_replicate rfl⟩

/-- A value of 4 GiB is not read back under an equal contract. -/
theorem evolution_loses_text : ∃ old new oldTypes newTypes name before after value out,
    validate old = [] ∧ validate new = [] ∧ compatibilityErrors old new = [] ∧
    generate old = .ok oldTypes ∧ generate new = .ok newTypes ∧ resolve oldTypes name = some before ∧
    resolve newTypes name = some after ∧ HasType after value ∧ encode after value {} = .ok out ∧
    decode before (initial before) out.bytes ≠ .ok (project before value, []) :=
  ⟨archive, archive, [("Archive", archiveType)], [("Archive", archiveType)], "Archive", archiveType,
    archiveType, .bytes (List.replicate (2 ^ 32) 0), _, validate_archive, validate_archive, by decide +kernel,
    generate_archive, generate_archive, rfl, rfl, List.length_replicate.le, rfl,
    archive_truncated List.length_replicate rfl⟩

end OpenVehicle.Com.Contract
