/-
This file models the maximum payload sizes of the deployment tool and decides when the generated codecs keep
them.
-/

import Mathlib.Algebra.BigOperators.Group.List.Basic
import OpenVehicle.Com.Sizes

namespace OpenVehicle.Com.Contract

open Data (Value)

section Table

/-- The cache of the sizes starts with the builtin names. -/
abbrev SizeTable := List (String × Option Int)

def builtinSizes : SizeTable := [("bool", some 1), ("f32", some 4), ("f64", some 8), ("string", none), ("bytes", none)]

/-- A struct has a bound when each of its members has one. -/
def structSize (sizes : List (Option Int)) : Option Int :=
  if sizes.contains none then none else some ((sizes.filterMap id).map fun size => 8 + size).sum

variable (size : String → SizeTable → Option Int × SizeTable)

def sizeEach : List MemberDefinition → SizeTable → List (Option Int) × SizeTable
  | [], cache => ([], cache)
  | member :: members, cache =>
      let first := size member.type cache
      let rest := sizeEach members first.2
      (first.1 :: rest.1, rest.2)

/-- The validation requires a capacity wherever this function reads one. -/
def shapeSize (cache : SizeTable) : Kind → Option Int × SizeTable
  | .integer bits _ => (some (bits / 8), cache)
  | .string .bounded capacity => (some (4 + capacity.getD 0), cache)
  | .string .fixed capacity => (some (capacity.getD 0), cache)
  | .string _ _ => (none, cache)
  | .sequence element .bounded capacity =>
      let inner := size element cache
      (inner.1.map fun element => element * capacity.getD 0 + 4, inner.2)
  | .sequence element .unbounded _ => (none, (size element cache).2)
  | .sequence element _ capacity =>
      let inner := size element cache
      (inner.1.map fun element => element * capacity.getD 0 + 0, inner.2)
  | .struct members =>
      let sizes := sizeEach size members cache
      (structSize sizes.1, sizes.2)
  | .other _ => (none, cache)

end Table

/-- The names that are being visited form a parameter, because every call restores them. Every level visits a
new name, so the number of types bounds the depth. -/
def size (shapes : List TypeDefinition) : Nat → List String → String → SizeTable → Option Int × SizeTable
  | 0, _, _, cache => (none, cache)
  | fuel + 1, visiting, name, cache =>
      match cache.lookup name with
      | some known => (known, cache)
      | none =>
          if visiting.contains name then (none, cache)
          else
            match lastBy (·.name) shapes name with
            | none => (none, cache)
            | some shape =>
                let result := shapeSize (size shapes fuel (name :: visiting)) cache shape.kind
                (result.1, (name, result.1) :: result.2)

def maximumEncodedSizes (model : Contract) : SizeTable :=
  (model.types.map (·.name)).foldl
    (fun cache name => (size model.types (model.types.length + 1) [] name cache).2) builtinSizes

/-- A name that has no entry has no bound. -/
def SizeTable.get (sizes : SizeTable) (name : String) : Option Int := (sizes.lookup name).join

/-- An application error has a byte for its position. -/
def payloads (service : Service) (sizes : String → Option Int) : List (Option Int) :=
  service.events.map (fun event => sizes event.payload) ++ service.fields.map (fun field => sizes field.value) ++
    service.methods.flatMap fun method => [sizes method.input, sizes method.output] ++
      method.errors.map fun error => (sizes error).map fun size => 1 + size

def serviceMaximumPayload (service : Service) (sizes : SizeTable) : Option Int :=
  let values := payloads service sizes.get
  if values.contains none then none else some ((values.filterMap id).max?.getD 0)

variable {members : List Member}

theorem structSize_perm {sizes others : List (Option Int)} (perm : sizes.Perm others) :
    structSize sizes = structSize others := by
  have same : sizes.contains none = others.contains none := by
    rw [Bool.eq_iff_iff, List.contains_iff_mem, List.contains_iff_mem]
    exact perm.mem_iff
  rw [structSize, structSize, same, ((perm.filterMap id).map _).sum_eq]

theorem structSize_cons (first : Option Int) (sizes : List (Option Int)) : structSize (first :: sizes) =
    first.bind fun size => (structSize sizes).map fun rest => 8 + size + rest := by
  cases first with
  | none => simp [structSize]
  | some size =>
      have same : (some size :: sizes).contains none = sizes.contains none := by simp
      rw [structSize, structSize, same]
      split <;> simp

/-- The size of the declared members does not depend on their order. -/
theorem structSize_members : structSize (members.map fun member => (maximumSize member.2.2).map Int.ofNat) =
      (memberSizes members).map Int.ofNat := by
  induction members with
  | nil => rfl
  | cons member members ih =>
      obtain ⟨tag, required, ty⟩ := member
      rw [List.map_cons, structSize_cons, ih, memberSizes]
      cases maximumSize ty with
      | none => rfl
      | some size =>
          cases memberSizes members with
          | none => rfl
          | some rest =>
              change some (8 + (size : Int) + rest) = some ((8 + size + rest : Nat) : Int)
              push_cast
              rfl

variable {environment : Environment} {model : Contract} {name : String}

section Exactness
variable {capacity : Option Int} {storage : Storage}

/-- The size of a name is the size of its generated type. -/
def sizeOfName (environment : Environment) (name : String) : Option Int :=
  ((resolve environment name).bind maximumSize).map Int.ofNat

theorem sizeOfName_eq {ty : Ty} (resolved : resolve environment name = some ty) :
    sizeOfName environment name = (maximumSize ty).map Int.ofNat := by
  rw [sizeOfName, resolved, Option.bind_some]

/-- The entries of the cache are the sizes of generated types. -/
structure Exact (environment : Environment) (cache : SizeTable) : Prop where
  sound : ∀ name known, cache.lookup name = some known → (resolve environment name).isSome ∧
    known = sizeOfName environment name
  builtin : ∀ name ∈ builtins, (cache.lookup name).isSome

/-- A computed size is exact, and the cache keeps its entries. -/
structure Computed {A : Type} (environment : Environment) (cache : SizeTable) (expected : A)
    (outcome : A × SizeTable) : Prop where
  size : outcome.1 = expected
  exact : Exact environment outcome.2
  kept : ∀ name, (cache.lookup name).isSome → (outcome.2.lookup name).isSome

theorem exact_builtinSizes : Exact environment builtinSizes where
  sound name known found := by
    have listed : (name, known) ∈ builtinSizes := by
      obtain ⟨before, after, split, _⟩ := List.lookup_eq_some_iff.mp found
      rw [split]
      exact List.mem_append_right _ List.mem_cons_self
    simp only [builtinSizes, List.mem_cons, Prod.mk.injEq, List.not_mem_nil, or_false] at listed
    rcases listed with ⟨rfl, rfl⟩ | ⟨rfl, rfl⟩ | ⟨rfl, rfl⟩ | ⟨rfl, rfl⟩ | ⟨rfl, rfl⟩ <;> exact ⟨rfl, rfl⟩
  builtin := by decide

theorem sizeOf_member {member : Member} (listed : member ∈ members) :
    sizeOf member.2.2 < sizeOf (Ty.struct members) := by
  have inside := List.sizeOf_lt_of_mem listed
  obtain ⟨tag, required, ty⟩ := member
  simp only [Prod.mk.sizeOf_spec] at inside
  rw [Ty.struct.sizeOf_spec]
  change sizeOf ty < 1 + _
  omega

variable {inner : String → SizeTable → Option Int × SizeTable} {cache : SizeTable} {members : List MemberDefinition}

theorem sizeEach_computed (exact : Exact environment cache)
    (each : ∀ member ∈ members, ∀ cache, Exact environment cache →
      Computed environment cache (sizeOfName environment member.type) (inner member.type cache)) :
    Computed environment cache (members.map fun member => sizeOfName environment member.type)
      (sizeEach inner members cache) := by
  induction members generalizing cache with
  | nil => exact ⟨rfl, exact, fun _ present => present⟩
  | cons member members ih =>
      have head := each member List.mem_cons_self cache exact
      have tail := ih head.exact fun other listed => each other (List.mem_cons_of_mem _ listed)
      refine ⟨?_, tail.exact, fun name present => tail.kept name (head.kept name present)⟩
      change (inner member.type cache).1 :: _ = _
      rw [head.size, tail.size]
      rfl

theorem sizes_of_declared {results : List Member}
    (declared : List.Forall₂ (fun member result => declareMember environment member = some result) members results) :
    members.map (fun member => sizeOfName environment member.type) =
      results.map fun member => (maximumSize member.2.2).map Int.ofNat := by
  induction declared with
  | nil => rfl
  | cons head _ ih =>
      obtain ⟨content, resolved, rfl⟩ := Option.map_eq_some_iff.mp head
      rw [List.map_cons, List.map_cons, sizeOfName_eq resolved, ih]

theorem positive_capacity {location : String} (limited : (storage == .fixed || storage == .bounded) = true)
    (clean : checkStorage storage capacity location = []) : ∃ count : Nat, capacity = some (count : Int) := by
  have positive := errorIf_eq_nil.mp (List.append_eq_nil_iff.mp (List.append_eq_nil_iff.mp clean).1).2
  rw [limited] at positive
  cases capacity with
  | none => cases positive
  | some capacity =>
      have least : 1 ≤ capacity := by simpa using positive
      exact ⟨capacity.toNat, by rw [Int.toNat_of_nonneg (by omega)]⟩

variable {types : List TypeDefinition}

theorem storage_of_string (clean : checkType types ⟨name, .string storage capacity⟩ = []) :
    checkStorage storage capacity ("type " ++ name) = [] := (List.append_eq_nil_iff.mp clean).2

theorem storage_of_sequence {element : String}
    (clean : checkType types ⟨name, .sequence element storage capacity⟩ = []) :
    checkStorage storage capacity ("type " ++ name) = [] :=
  (List.append_eq_nil_iff.mp (List.append_eq_nil_iff.mp clean).2).2

/-- The size of a definition is the size of its declaration. -/
theorem shapeSize_computed {shape : TypeDefinition}
    (clean : checkType types shape = []) {ty : Ty} (defined : declare environment shape.kind = some ty)
    (exact : Exact environment cache)
    (each : ∀ name content cache, resolve environment name = some content → sizeOf content < sizeOf ty →
      Exact environment cache → Computed environment cache (sizeOfName environment name) (inner name cache)) :
    Computed environment cache ((maximumSize ty).map Int.ofNat) (shapeSize inner cache shape.kind) := by
  obtain ⟨name, kind⟩ := shape
  have same : ∀ name, (cache.lookup name).isSome → (cache.lookup name).isSome := fun _ present => present
  cases kind with
  | integer bits signed =>
      change integerType bits signed = some ty at defined
      rw [integerType] at defined
      split at defined
      · rename_i known
        cases defined
        refine ⟨?_, exact, same⟩
        simp only [List.contains_iff_mem, List.mem_cons, List.not_mem_nil, or_false] at known
        rcases known with rfl | rfl | rfl | rfl <;> rfl
      · cases defined
  | string storage capacity =>
      cases storage with
      | bounded =>
          obtain ⟨count, rfl⟩ := positive_capacity (by decide) (storage_of_string clean)
          cases defined
          exact ⟨rfl, exact, same⟩
      | fixed =>
          obtain ⟨count, rfl⟩ := positive_capacity (by decide) (storage_of_string clean)
          cases defined
          refine ⟨?_, exact, same⟩
          change some (count : Int) = some ((1 * count : Nat) : Int)
          rw [Nat.one_mul]
      | unbounded | other =>
          cases defined
          exact ⟨rfl, exact, same⟩
  | sequence element storage capacity =>
      cases storage with
      | bounded | fixed =>
          obtain ⟨count, rfl⟩ := positive_capacity (by decide) (storage_of_sequence clean)
          obtain ⟨content, resolved, defined⟩ := Option.bind_eq_some_iff.mp defined
          cases defined
          have computed := each element content cache resolved (by decreasing_tactic) exact
          refine ⟨?_, computed.exact, computed.kept⟩
          change (inner element cache).1.map _ = _
          rw [computed.size, sizeOfName_eq resolved, maximumSize]
          cases maximumSize content <;> rfl
      | unbounded =>
          obtain ⟨content, resolved, rfl⟩ := Option.map_eq_some_iff.mp defined
          have computed := each element content cache resolved (by decreasing_tactic) exact
          exact ⟨rfl, computed.exact, computed.kept⟩
      | other text => cases storage_of_sequence clean
  | struct members =>
      obtain ⟨results, mapped, rfl⟩ := Option.map_eq_some_iff.mp defined
      have declared := mapM_eq_some mapped
      have perm : (sortedMembers members).Perm members := List.perm_insertionSort _ members
      have computed := @sizeEach_computed _ inner _ members exact fun member listed cache exact => by
        obtain ⟨result, inside, made⟩ := exists_left declared (perm.mem_iff.mpr listed)
        obtain ⟨content, resolved, rfl⟩ := Option.map_eq_some_iff.mp made
        exact each member.type content cache resolved (sizeOf_member inside) exact
      refine ⟨?_, computed.exact, computed.kept⟩
      change structSize (sizeEach inner members cache).1 = _
      rw [computed.size, structSize_perm (perm.symm.map _)]
      change _ = (memberSizes results).map Int.ofNat
      rw [← structSize_members]
      exact congrArg structSize (sizes_of_declared declared)
  | other kind => cases defined

/-- The result of a name is entered into the cache. -/
theorem Computed.insert {outcome : Option Int × SizeTable}
    (computed : Computed environment cache (sizeOfName environment name) outcome)
    (resolved : (resolve environment name).isSome) :
    Computed environment cache (sizeOfName environment name) (outcome.1, (name, outcome.1) :: outcome.2) := by
  have kept : ∀ other, (outcome.2.lookup other).isSome → (((name, outcome.1) :: outcome.2).lookup other).isSome := by
    intro other present
    rw [List.lookup_cons]
    split
    · rfl
    · exact present
  refine ⟨computed.size, ⟨fun other known found => ?_, fun other builtin => ?_⟩, fun other present => ?_⟩
  · rw [List.lookup_cons] at found
    split at found
    · rename_i same
      obtain rfl := beq_iff_eq.mp same
      cases found
      exact ⟨resolved, computed.size⟩
    · exact computed.exact.sound other known found
  · exact kept other (computed.exact.builtin other builtin)
  · exact kept other (computed.kept other present)

/-- The names that are being visited lead down to a type, and the fuel counts the names that are left. -/
structure Path (model : Contract) (environment : Environment) (bound fuel : Nat) (visiting : List String) :
    Prop where
  fuel : visiting.length + fuel = model.types.length + 1
  distinct : visiting.Nodup
  known : ∀ name ∈ visiting, name ∈ model.types.map (·.name)
  outer : ∀ name ∈ visiting, ∃ ty, resolve environment name = some ty ∧ bound < sizeOf ty

variable {visiting : List String}

theorem Path.positive {bound fuel : Nat} (path : Path model environment bound fuel visiting) : 0 < fuel := by
  have short := (List.subperm_of_subset path.distinct path.known).length_le
  have total := path.fuel
  rw [List.length_map] at short
  omega

/-- A name that is not builtin resolves to the declaration of its definition. -/
theorem definition_of_resolved (valid : Valid model) (generated : generate model = .ok environment)
    (plain : name ∉ builtins) {ty : Ty} (resolved : resolve environment name = some ty) :
    ∃ shape, lastBy (·.name) model.types name = some shape ∧ shape ∈ model.types ∧ shape.name = name ∧
      declare environment shape.kind = some ty := by
  have found : environment.lookup name = some ty := by
    unfold resolve at resolved
    split at resolved <;> first | exact resolved | exact absurd (by decide) plain
  obtain ⟨shape, listed, same, defined⟩ := (generate_spec valid generated).1 name ty found
  exact ⟨shape, (lastBy_eq_some valid.names).mpr ⟨listed, same⟩, listed, same, defined⟩

variable {cache : SizeTable}

theorem size_computed (valid : Valid model) (generated : generate model = .ok environment) {fuel : Nat}
    {ty : Ty} (resolved : resolve environment name = some ty)
    (exact : Exact environment cache) (path : Path model environment (sizeOf ty) fuel visiting) :
    Computed environment cache (sizeOfName environment name) (size model.types fuel visiting name cache) ∧
      ((size model.types fuel visiting name cache).2.lookup name).isSome := by
  induction fuel generalizing visiting name cache ty with
  | zero => exact absurd path.positive (Nat.lt_irrefl 0)
  | succ fuel ih =>
      rw [size]
      cases found : cache.lookup name with
      | some known =>
          obtain ⟨_, rfl⟩ := exact.sound name known found
          exact ⟨⟨rfl, exact, fun _ present => present⟩, by rw [found]; rfl⟩
      | none =>
          have plain : name ∉ builtins := by
            intro builtin
            have present := exact.builtin name builtin
            rw [found] at present
            cases present
          have fresh : name ∉ visiting := by
            intro busy
            obtain ⟨outer, other, less⟩ := path.outer name busy
            rw [resolved] at other
            cases other
            exact Nat.lt_irrefl _ less
          obtain ⟨shape, last, listed, rfl, defined⟩ := definition_of_resolved valid generated plain resolved
          have computed := @shapeSize_computed environment (size model.types fuel (shape.name :: visiting)) cache
            model.types shape (valid.types shape listed) ty defined exact fun inner content cache below less exact =>
              (ih below exact ⟨by have := path.fuel; rw [List.length_cons]; omega,
                List.nodup_cons.mpr ⟨fresh, path.distinct⟩,
                List.forall_mem_cons.mpr ⟨List.mem_map_of_mem listed, path.known⟩,
                List.forall_mem_cons.mpr ⟨⟨ty, resolved, less⟩, fun other busy => by
                  obtain ⟨outer, above, more⟩ := path.outer other busy
                  exact ⟨outer, above, Nat.lt_trans less more⟩⟩⟩).1
          dsimp only
          rw [if_neg (by simpa using fresh), last]
          dsimp only
          rw [← sizeOfName_eq resolved] at computed
          refine ⟨computed.insert (resolved ▸ rfl), ?_⟩
          rw [List.lookup_cons_self]
          rfl

theorem foldl_computed (valid : Valid model) (generated : generate model = .ok environment) {names : List String}
    (known : ∀ name ∈ names, (resolve environment name).isSome) (exact : Exact environment cache) :
    Exact environment (names.foldl
      (fun cache name => (size model.types (model.types.length + 1) [] name cache).2) cache) ∧
    ∀ name, name ∈ names ∨ (cache.lookup name).isSome → ((names.foldl
      (fun cache name => (size model.types (model.types.length + 1) [] name cache).2) cache).lookup name).isSome := by
  induction names generalizing cache with
  | nil => exact ⟨exact, fun name present => present.resolve_left List.not_mem_nil⟩
  | cons name names ih =>
      obtain ⟨head, later⟩ := List.forall_mem_cons.mp known
      obtain ⟨ty, resolved⟩ := Option.isSome_iff_exists.mp head
      obtain ⟨computed, present⟩ := size_computed valid generated resolved exact
        ⟨Nat.zero_add _, List.nodup_nil, fun _ listed => absurd listed List.not_mem_nil,
          fun _ listed => absurd listed List.not_mem_nil⟩
      obtain ⟨exact, kept⟩ := ih later computed.exact
      refine ⟨exact, fun other old => kept other ?_⟩
      rcases old with listed | old
      · rcases List.mem_cons.mp listed with rfl | listed
        · exact .inr present
        · exact .inl listed
      · exact .inr (computed.kept other old)

/-- The table of the deployment tool has the size of every generated type. -/
theorem get_maximumEncodedSizes (valid : Valid model) (generated : generate model = .ok environment)
    (name : String) : (maximumEncodedSizes model).get name = sizeOfName environment name := by
  have known : ∀ name ∈ model.types.map (·.name), (resolve environment name).isSome := by
    intro name listed
    obtain ⟨shape, member, rfl⟩ := List.mem_map.mp listed
    have found := (generate_spec valid generated).2 shape member
    unfold resolve
    split <;> first | exact found | rfl
  obtain ⟨exact, present⟩ := foldl_computed valid generated known exact_builtinSizes
  change ((maximumEncodedSizes model).lookup name).join = _
  cases found : (maximumEncodedSizes model).lookup name with
  | some size =>
      obtain ⟨_, rfl⟩ := exact.sound name size found
      rfl
  | none =>
      cases resolved : resolve environment name with
      | none =>
          rw [sizeOfName, resolved]
          rfl
      | some ty =>
          have listed : ((maximumEncodedSizes model).lookup name).isSome := by
            by_cases builtin : name ∈ builtins
            · exact present name (.inr ((@exact_builtinSizes environment).builtin name builtin))
            · obtain ⟨shape, _, listed, rfl, _⟩ := definition_of_resolved valid generated builtin resolved
              exact present shape.name (.inl (List.mem_map_of_mem listed))
          rw [found] at listed
          cases listed

end Exactness

section Bounds

/-- The payloads of a service fit a limit. -/
structure ServiceFits (environment : Environment) (service : Service) (limit : Int) : Prop where
  empty : 0 ≤ limit
  events : ∀ event ∈ service.events, ∀ ty, resolve environment event.payload = some ty →
    ∀ value, HasType ty value → encodedSize ty value ≤ limit
  fields : ∀ field ∈ service.fields, ∀ ty, resolve environment field.value = some ty →
    ∀ value, HasType ty value → encodedSize ty value ≤ limit
  requests : ∀ method ∈ service.methods, ∀ ty, resolve environment method.input = some ty →
    ∀ value, HasType ty value → encodedSize ty value ≤ limit
  responses : ∀ method ∈ service.methods, ∀ ty, resolve environment method.output = some ty →
    ∀ value, HasType ty value → encodedSize ty value ≤ limit
  errors : ∀ method ∈ service.methods, ∀ index name, method.errors[index]? = some name →
    ∀ ty, resolve environment name = some ty → ∀ value, HasType ty value →
      (makeApplicationRawResult index ty value).encodedPayloadSize ≤ limit

/-- Every value fits the size of its type, and every payload fits the size of its service. -/
structure Bounded (model : Contract) (environment : Environment) : Prop where
  types : ∀ name limit, (maximumEncodedSizes model).get name = some limit → ∀ ty, resolve environment name = some ty →
    ∀ value, HasType ty value → encodedSize ty value ≤ limit
  services : ∀ service ∈ model.services, ∀ limit,
    serviceMaximumPayload service (maximumEncodedSizes model) = some limit → ServiceFits environment service limit

/-- No type with a size has frames that are not counted. -/
def Counted (environment : Environment) : Prop :=
  ∀ name ty, resolve environment name = some ty → maximumSize ty ≠ none → ty.exceeds = false

/-- The limit of a list of sizes is an upper bound of them. -/
theorem le_of_limit {values : List (Option Int)} {limit : Int}
    (found : (if values.contains none then none else some ((values.filterMap id).max?.getD 0)) = some limit)
    (natural : ∀ known, some known ∈ values → 0 ≤ known) :
    0 ≤ limit ∧ ∀ size ∈ values, ∃ known, size = some known ∧ known ≤ limit := by
  split at found
  · cases found
  · rename_i complete
    have inside {known : Int} : known ∈ values.filterMap id ↔ some known ∈ values := by simp
    cases largest : (values.filterMap id).max? with
    | none =>
        rw [largest] at found
        cases found
        refine ⟨Int.le_refl 0, fun size listed => ?_⟩
        cases size with
        | none => exact absurd (List.contains_iff_mem.mpr listed) complete
        | some known =>
            have empty := List.max?_eq_none_iff.mp largest
            exact absurd (empty ▸ inside.mpr listed) List.not_mem_nil
    | some most =>
        rw [largest] at found
        cases found
        obtain ⟨held, least⟩ := List.max?_eq_some_iff.mp largest
        refine ⟨natural _ (inside.mp held), fun size listed => ?_⟩
        cases size with
        | none => exact absurd (List.contains_iff_mem.mpr listed) complete
        | some known => exact ⟨known, rfl, least known (inside.mpr listed)⟩

variable {known : Int}

theorem sizeOfName_nonneg (found : sizeOfName environment name = some known) : 0 ≤ known := by
  obtain ⟨size, _, rfl⟩ := Option.map_eq_some_iff.mp found
  exact Int.natCast_nonneg size

variable {service : Service}

theorem payloads_nonneg (listed : some known ∈ payloads service (sizeOfName environment)) : 0 ≤ known := by
  simp only [payloads, List.mem_append, List.mem_map, List.mem_flatMap, List.mem_cons, List.not_mem_nil,
    or_false] at listed
  rcases listed with (⟨_, _, found⟩ | ⟨_, _, found⟩) | ⟨method, _, (found | found) | ⟨error, _, found⟩⟩
  · exact sizeOfName_nonneg found
  · exact sizeOfName_nonneg found
  · exact sizeOfName_nonneg found.symm
  · exact sizeOfName_nonneg found.symm
  · obtain ⟨size, inner, rfl⟩ := Option.map_eq_some_iff.mp found
    have := sizeOfName_nonneg inner
    omega

/-- The bound of the types gives the bound of the services. -/
theorem serviceFits_of_types (valid : Valid model) (generated : generate model = .ok environment)
    (types : ∀ name limit, sizeOfName environment name = some limit → ∀ ty, resolve environment name = some ty →
      ∀ value, HasType ty value → encodedSize ty value ≤ limit) {limit : Int}
    (found : serviceMaximumPayload service (maximumEncodedSizes model) = some limit) :
    ServiceFits environment service limit := by
  have table : (maximumEncodedSizes model).get = sizeOfName environment :=
    funext (get_maximumEncodedSizes valid generated)
  rw [serviceMaximumPayload, table] at found
  obtain ⟨empty, least⟩ := @le_of_limit (payloads service (sizeOfName environment)) limit found
    fun known => payloads_nonneg
  have each : ∀ name, sizeOfName environment name ∈ payloads service (sizeOfName environment) →
      ∀ ty, resolve environment name = some ty → ∀ value, HasType ty value → encodedSize ty value ≤ limit := by
    intro name listed ty resolved value typed
    obtain ⟨known, size, less⟩ := least _ listed
    exact Int.le_trans (types name known size ty resolved value typed) less
  constructor
  · exact empty
  · intro event listed
    apply each
    exact List.mem_append_left _ (List.mem_append_left _ (List.mem_map_of_mem listed))
  · intro field listed
    apply each
    exact List.mem_append_left _ (List.mem_append_right _ (List.mem_map_of_mem listed))
  · intro method listed
    apply each
    exact List.mem_append_right _ (List.mem_flatMap.mpr ⟨method, listed, List.mem_cons_self⟩)
  · intro method listed
    apply each
    exact List.mem_append_right _ (List.mem_flatMap.mpr ⟨method, listed, List.mem_cons_of_mem _ List.mem_cons_self⟩)
  · intro method listed index name error ty resolved value typed
    have inside : (sizeOfName environment name).map (fun size => 1 + size) ∈
        payloads service (sizeOfName environment) := by
      apply List.mem_append_right
      refine List.mem_flatMap.mpr ⟨method, listed, List.mem_append_right _ ?_⟩
      exact List.mem_map_of_mem (List.mem_of_getElem? error)
    obtain ⟨known, size, less⟩ := least _ inside
    obtain ⟨inner, found, rfl⟩ := Option.map_eq_some_iff.mp size
    have := types name inner found ty resolved value typed
    change ((encodedSize ty value + 1 : Nat) : Int) ≤ limit
    omega

end Bounds

/-- The element of a declared sequence is a character or has a name, and the members of a struct have names. -/
theorem resolve_parts (valid : Valid model) (generated : generate model = .ok environment) {ty : Ty}
    (resolved : resolve environment name = some ty) :
    match ty with
    | .boundedVector element _ => ∃ inner, resolve environment inner = some element
    | .array element _ => element = .character ∨ ∃ inner, resolve environment inner = some element
    | .struct members => ∀ member ∈ members, ∃ inner, resolve environment inner = some member.2.2
    | _ => True := by
  by_cases builtin : name ∈ builtins
  · simp only [builtins, List.mem_cons, List.not_mem_nil, or_false] at builtin
    rcases builtin with rfl | rfl | rfl | rfl | rfl <;> cases resolved <;> trivial
  · obtain ⟨shape, _, _, _, defined⟩ := definition_of_resolved valid generated builtin resolved
    obtain ⟨_, kind⟩ := shape
    cases kind with
    | integer bits signed =>
        change (if _ then _ else _) = _ at defined
        split at defined
        · cases defined
          trivial
        · cases defined
    | string storage capacity =>
        cases storage with
        | bounded | fixed =>
            obtain ⟨_, _, rfl⟩ := Option.map_eq_some_iff.mp defined
            first | trivial | exact .inl rfl
        | unbounded | other =>
            cases defined
            trivial
    | sequence element storage capacity =>
        cases storage with
        | bounded | fixed =>
            obtain ⟨content, inner, defined⟩ := Option.bind_eq_some_iff.mp defined
            obtain ⟨_, _, defined⟩ := Option.bind_eq_some_iff.mp defined
            cases defined
            first | exact ⟨element, inner⟩ | exact .inr ⟨element, inner⟩
        | unbounded | other =>
            obtain ⟨_, _, rfl⟩ := Option.map_eq_some_iff.mp defined
            trivial
    | struct members =>
        obtain ⟨results, rfl, _, each, _⟩ := declare_struct defined
        intro result listed
        obtain ⟨member, _, _, _, inner⟩ := each result listed
        exact ⟨member.type, inner⟩
    | other kind => cases defined

/-- An element that can fill its frame is short when no size lies just above the largest frame. -/
theorem small_of_fillsFrame {element : Ty} {size : Nat} (found : maximumSize element = some size)
    (apart : size < UInt32.size ∨ UInt32.size + 3 ≤ size) (fills : element.fillsFrame = true) :
    size ≤ UInt32.size - 1 := by
  rw [Ty.fillsFrame, found, Option.any_some, decide_eq_true_eq] at fills
  omega

/-- When every value fits, no declared sequence has frames that are not counted. -/
theorem counted_of_types (valid : Valid model) (generated : generate model = .ok environment)
    (apart : ∀ name ty size, resolve environment name = some ty → maximumSize ty = some size →
      size < UInt32.size ∨ UInt32.size + 3 ≤ size)
    (types : ∀ name limit, sizeOfName environment name = some limit → ∀ ty, resolve environment name = some ty →
      ∀ value, HasType ty value → encodedSize ty value ≤ limit)
    {ty : Ty} (resolved : resolve environment name = some ty) (bounded : maximumSize ty ≠ none) :
    ty.exceeds = false := by
  induction ty using Ty.induction generalizing name with
  | boundedVector element capacity inner =>
      obtain ⟨part, below⟩ := resolve_parts valid generated resolved
      obtain ⟨total, sized⟩ := Option.ne_none_iff_exists'.mp bounded
      obtain ⟨size, found, rfl⟩ := Option.map_eq_some_iff.mp sized
      apply Bool.eq_false_iff.mpr
      intro exceeds
      obtain ⟨positive, fills⟩ := Bool.and_eq_true_iff.mp exceeds
      have small := small_of_fillsFrame found (apart part element size below found) fills
      have counted := inner below (found ▸ Option.some_ne_none size)
      obtain ⟨values, all, length, typed, printed, longer⟩ := exists_longer (generated_type valid generated below)
        counted found small capacity (of_decide_eq_true positive)
      have written := prints_after printed 4 (lengthPrefix values.length)
      have size := types name _ (by rw [sizeOfName_eq resolved, sized]; rfl) _ resolved (.sequence values)
        ⟨Nat.le_of_eq length, typed⟩
      rw [@encodedSize_eq (.sequence values) _ (.boundedVector element capacity) written, List.length_append,
        Codec.length_littleEndian] at size
      have size := Int.ofNat_le.mp size
      omega
  | array element capacity inner =>
      obtain ⟨total, sized⟩ := Option.ne_none_iff_exists'.mp bounded
      obtain ⟨size, found, rfl⟩ := Option.map_eq_some_iff.mp sized
      apply Bool.eq_false_iff.mpr
      intro exceeds
      obtain ⟨positive, fills⟩ := Bool.and_eq_true_iff.mp exceeds
      have facts : size ≤ UInt32.size - 1 ∧ element.exceeds = false ∧ Generated element := by
        rcases resolve_parts valid generated resolved with rfl | ⟨part, below⟩
        · cases found
          exact ⟨by decide, rfl, .integer true 1⟩
        · exact ⟨small_of_fillsFrame found (apart part element size below found) fills,
            inner below (found ▸ Option.some_ne_none size), generated_type valid generated below⟩
      obtain ⟨small, counted, made⟩ := facts
      obtain ⟨values, all, length, typed, printed, longer⟩ :=
        exists_longer made counted found small capacity (of_decide_eq_true positive)
      have size := types name _ (by rw [sizeOfName_eq resolved, sized]; rfl) _ resolved (.sequence values)
        ⟨length, typed⟩
      rw [@encodedSize_eq (.sequence values) _ (.array element capacity) printed] at size
      have size := Int.ofNat_le.mp size
      omega
  | struct members inner =>
      have parts := resolve_parts valid generated resolved
      obtain ⟨total, sized⟩ := Option.ne_none_iff_exists'.mp bounded
      apply membersExceed_eq_false.mpr
      intro member listed
      obtain ⟨part, below⟩ := parts member listed
      obtain ⟨size, found, _⟩ := memberSizes_mem sized listed
      exact inner member listed below (found ▸ Option.some_ne_none size)
  | optional content _ => cases generated_type valid generated resolved
  | _ => rfl

/-- The sizes of the deployment tool bound the encodings of a contract when no bounded type holds a sequence or a
fixed string whose elements can fill their frames. When no size lies just above the largest frame, this is also
necessary. -/
theorem static_bound (clean : validate model = []) (generated : generate model = .ok environment) :
    (Counted environment → Bounded model environment) ∧
    ((∀ name ty size, resolve environment name = some ty → maximumSize ty = some size →
        size < UInt32.size ∨ UInt32.size + 3 ≤ size) → Bounded model environment → Counted environment) := by
  have valid := valid_of_validate clean
  have table := get_maximumEncodedSizes valid generated
  constructor
  · intro counted
    have types : ∀ name limit, sizeOfName environment name = some limit → ∀ ty,
        resolve environment name = some ty → ∀ value, HasType ty value → encodedSize ty value ≤ limit := by
      intro name limit found ty resolved value typed
      rw [sizeOfName_eq resolved] at found
      obtain ⟨size, sized, rfl⟩ := Option.map_eq_some_iff.mp found
      rcases encodedSize_cases ty value with empty | ⟨bytes, printed, length⟩
      · rw [empty]
        exact Int.natCast_nonneg size
      · rw [length]
        have covered := counted name ty resolved (sized ▸ Option.some_ne_none size)
        exact Int.ofNat_le.mpr (length_le_maximumSize covered sized typed printed)
    refine ⟨fun name limit found => types name limit (table name ▸ found), fun service _ limit found => ?_⟩
    exact serviceFits_of_types valid generated types found
  · intro apart bounded name ty resolved sized
    apply counted_of_types valid generated apart (fun name limit found => ?_) resolved sized
    exact bounded.types name limit ((table name).trans found)

/-- The event of this service has a payload of the given kind. -/
def signals (kind : Kind) : Contract where
  irVersion := 1
  wireFormat := "ovf-tagged-le-v1"
  types := [⟨"Label", kind⟩]
  services := [⟨"00000000-0000-4000-8000-000000000001", "Signals", "1.0",
    [⟨"00000000-0000-4000-8000-000000000002", "Changed", 1, "Label"⟩], [], []⟩]

/-- A bounded string has no frames. -/
theorem static_bound_signals : Bounded (signals (.string .bounded (some 8))) [("Label", .boundedString 8)] := by
  apply (static_bound (by decide +kernel) rfl).1
  intro name ty resolved sized
  unfold resolve at resolved
  split at resolved
  · cases resolved
    rfl
  · cases resolved
    rfl
  · cases resolved
    rfl
  · cases resolved
    rfl
  · cases resolved
    rfl
  · rw [List.lookup_cons] at resolved
    split at resolved
    · cases resolved
      rfl
    · cases resolved

/-- The character of a fixed string has a frame of four bytes that the deployment tool does not count. -/
theorem fixed_string_exceeds : ∃ model environment, validate model = [] ∧ generate model = .ok environment ∧
    (∀ service ∈ model.services, serviceMaximumPayload service (maximumEncodedSizes model) = some 1) ∧
    encodedSize (.array .character 1) (.sequence [.integer 97]) = 5 ∧ ¬Bounded model environment := by
  refine ⟨signals (.string .fixed (some 1)), [("Label", .array .character 1)], by decide +kernel, rfl,
    by decide +kernel, by decide +kernel, fun bounded => ?_⟩
  have size := bounded.types "Label" 1 (by decide +kernel) (.array .character 1) rfl (.sequence [.integer 97])
    ⟨rfl, fun value listed => ?_⟩
  · exact absurd size (by decide +kernel)
  · obtain rfl := List.mem_singleton.mp listed
    change Value.InRange true 1 97
    decide

end OpenVehicle.Com.Contract
