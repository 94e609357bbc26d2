/-
This file describes the types that the generator derives from a valid contract.
-/

import OpenVehicle.Com.Contract
import OpenVehicle.Com.RoundTrip

namespace OpenVehicle.Com.Contract

section Lists
variable {A B K S E : Type} {list : List A} {results : List B}

theorem flatMap_eq_nil {check : A → List B} : list.flatMap check = [] ↔ ∀ a ∈ list, check a = [] := by
  rw [List.flatMap_eq_nil_iff]

theorem errorIf_eq_nil {condition : Bool} {message : String} : errorIf condition message = [] ↔ condition = false := by
  cases condition <;> simp [errorIf]

variable {a : A}

/-- With unique keys a dictionary finds every entry. -/
theorem lastBy_eq_some [DecidableEq K] {key : A → K} {wanted : K} (distinct : (list.map key).Nodup) :
    lastBy key list wanted = some a ↔ a ∈ list ∧ key a = wanted := by
  constructor
  · intro found
    refine ⟨List.mem_reverse.mp (List.mem_of_find?_eq_some found), ?_⟩
    simpa using List.find?_some found
  · rintro ⟨listed, rfl⟩
    cases found : lastBy key list (key a) with
    | none => simpa using List.find?_eq_none.mp found a (List.mem_reverse.mpr listed)
    | some other =>
        have same : key other = key a := by simpa using List.find?_some found
        have known := List.mem_reverse.mp (List.mem_of_find?_eq_some found)
        rw [List.inj_on_of_nodup_map distinct known listed same]

theorem foldlM_ok_cons {step : S → A → Except E S} {state final : S} : (a :: list).foldlM step state = .ok final ↔
      ∃ middle, step state a = .ok middle ∧ list.foldlM step middle = .ok final := by
  rw [List.foldlM_cons]
  cases step state a with
  | error failure => simp [bind, Except.bind]
  | ok middle => simp [bind, Except.bind]

theorem mapM_eq_some {f : A → Option B} (mapped : list.mapM f = some results) :
    List.Forall₂ (fun a b => f a = some b) list results := by
  induction list generalizing results with
  | nil =>
      cases mapped
      exact .nil
  | cons a list ih =>
      rw [List.mapM_cons] at mapped
      obtain ⟨b, head, mapped⟩ := Option.bind_eq_some_iff.mp mapped
      obtain ⟨bs, tail, same⟩ := Option.bind_eq_some_iff.mp mapped
      cases same
      exact .cons head (ih tail)

variable {R : A → B → Prop}

theorem exists_right (each : List.Forall₂ R list results) {b : B} (listed : b ∈ results) :
    ∃ a ∈ list, R a b := by
  induction each with
  | nil => cases listed
  | cons head _ ih =>
      rcases List.mem_cons.mp listed with rfl | listed
      · exact ⟨_, List.mem_cons_self, head⟩
      · obtain ⟨a, known, related⟩ := ih listed
        exact ⟨a, List.mem_cons_of_mem _ known, related⟩

theorem exists_left (each : List.Forall₂ R list results) (known : a ∈ list) :
    ∃ b ∈ results, R a b := by
  obtain ⟨b, listed, related⟩ := exists_right each.flip known
  exact ⟨b, listed, related⟩

end Lists

section Order
variable {types : List TypeDefinition}

/-- The search lists every visited type once. -/
structure Sound (types : List TypeDefinition) (state : Visits) : Prop where
  known : ∀ shape ∈ state.ordered, shape ∈ types
  visited : ∀ name, name ∈ state.visited ↔ name ∈ state.ordered.map (·.name)
  distinct : (state.ordered.map (·.name)).Nodup

/-- A search leaves the names that are being visited as they are. -/
structure Extends (state next : Visits) : Prop where
  visiting : next.visiting = state.visiting
  visited : ∀ name ∈ state.visited, name ∈ next.visited
  fresh : ∀ name ∈ state.visiting, name ∈ next.visited → name ∈ state.visited

theorem Extends.refl (state : Visits) : Extends state state := ⟨rfl, fun _ old => old, fun _ _ old => old⟩

theorem Extends.trans {first second third : Visits} (left : Extends first second)
    (right : Extends second third) : Extends first third where
  visiting := right.visiting.trans left.visiting
  visited name old := right.visited name (left.visited name old)
  fresh name busy new := left.fresh name busy (right.fresh name (left.visiting ▸ busy) new)

theorem foldlM_extends {step : Visits → String → Except String Visits}
    (each : ∀ state name next, Sound types state → step state name = .ok next →
      Sound types next ∧ Extends state next ∧ (name ∈ types.map (·.name) → name ∈ next.visited))
    {names : List String} {state final : Visits} (sound : Sound types state)
    (run : names.foldlM step state = .ok final) : Sound types final ∧ Extends state final ∧
      ∀ name ∈ names, name ∈ types.map (·.name) → name ∈ final.visited := by
  induction names generalizing state with
  | nil =>
      cases run
      exact ⟨sound, Extends.refl _, fun name listed => absurd listed List.not_mem_nil⟩
  | cons name names ih =>
      obtain ⟨middle, first, rest⟩ := foldlM_ok_cons.mp run
      obtain ⟨sound, head, done⟩ := each state name middle sound first
      obtain ⟨sound, tail, later⟩ := ih sound rest
      refine ⟨sound, head.trans tail, fun other listed known => ?_⟩
      rcases List.mem_cons.mp listed with rfl | listed
      · exact tail.visited _ (done known)
      · exact later other listed known

theorem visit_extends (distinct : (types.map (·.name)).Nodup) {fuel : Nat} {name : String}
    {state next : Visits} (sound : Sound types state) (run : visit types fuel name state = .ok next) :
    Sound types next ∧ Extends state next ∧ (name ∈ types.map (·.name) → name ∈ next.visited) := by
  induction fuel generalizing name state next with
  | zero => cases run
  | succ fuel ih =>
      rw [visit] at run
      split at run
      · rename_i old
        cases run
        exact ⟨sound, Extends.refl state, fun _ => List.contains_iff_mem.mp old⟩
      · rename_i unseen
        have unseen : name ∉ state.visited := fun old => unseen (List.contains_iff_mem.mpr old)
        split at run
        · rename_i missing
          cases run
          refine ⟨sound, Extends.refl state, fun known => ?_⟩
          obtain ⟨shape, listed, rfl⟩ := List.mem_map.mp known
          rw [(lastBy_eq_some distinct).mpr ⟨listed, rfl⟩] at missing
          cases missing
        · rename_i shape found
          obtain ⟨listed, rfl⟩ := (lastBy_eq_some distinct).mp found
          split at run
          · cases run
          · cases middle : (references shape).foldlM
                (fun state reference => visit types fuel reference state)
                { state with visiting := shape.name :: state.visiting } with
            | error failure =>
                rw [middle] at run
                cases run
            | ok inner =>
                rw [middle] at run
                cases run
                have opened : Sound types { state with visiting := shape.name :: state.visiting } :=
                  ⟨sound.known, sound.visited, sound.distinct⟩
                obtain ⟨sound, below, _⟩ := foldlM_extends (fun state name next good run => ih good run) opened middle
                have apart : shape.name ∉ inner.visited := fun new =>
                  unseen (below.fresh shape.name List.mem_cons_self new)
                refine ⟨⟨?_, ?_, ?_⟩, ⟨?_, ?_, ?_⟩, fun _ => List.mem_cons_self⟩
                · intro other member
                  rcases List.mem_append.mp member with old | new
                  · exact sound.known other old
                  · rw [List.mem_singleton.mp new]
                    exact listed
                · intro other
                  rw [List.mem_cons, sound.visited, List.map_append, List.mem_append, List.map_singleton,
                    List.mem_singleton, or_comm]
                · rw [List.map_append, List.map_singleton]
                  apply List.nodup_append.mpr
                  refine ⟨sound.distinct, List.nodup_singleton _, ?_⟩
                  rintro other old _ new rfl
                  rw [List.mem_singleton.mp new] at old
                  exact apart ((sound.visited _).mpr old)
                · change inner.visiting.erase shape.name = _
                  rw [below.visiting]
                  exact List.erase_cons_head ..
                · intro other old
                  exact List.mem_cons_of_mem _ (below.visited other old)
                · intro other busy new
                  rcases List.mem_cons.mp new with rfl | new
                  · rename_i free _
                    exact absurd (List.contains_iff_mem.mpr busy) free
                  · exact below.fresh other (List.mem_cons_of_mem _ busy) new

/-- The order of the declarations lists every type once. -/
theorem orderedTypes_spec (distinct : (types.map (·.name)).Nodup) {ordered : List TypeDefinition}
    (run : orderedTypes types = .ok ordered) : (ordered.map (·.name)).Nodup ∧ (∀ shape ∈ ordered, shape ∈ types) ∧
      ∀ name ∈ types.map (·.name), name ∈ ordered.map (·.name) := by
  cases search : ((types.map (·.name)).insertionSort (· ≤ ·)).foldlM
      (fun state name => visit types (types.length + 1) name state) {} with
  | error failure =>
      rw [orderedTypes, search] at run
      cases run
  | ok final =>
      rw [orderedTypes, search] at run
      cases run
      have empty : Sound types {} := ⟨fun _ listed => absurd listed List.not_mem_nil,
        fun _ => Iff.rfl, List.nodup_nil⟩
      obtain ⟨sound, _, complete⟩ :=
        foldlM_extends (fun state name next good run => visit_extends distinct good run) empty search
      refine ⟨sound.distinct, sound.known, fun name known => ?_⟩
      exact (sound.visited name).mp (complete name ((List.mem_insertionSort _).mpr known) known)

end Order

section Declarations
variable {later : Environment}

/-- A later environment keeps the declared types. -/
def Within (declared later : Environment) : Prop :=
  ∀ name ty, declared.lookup name = some ty → later.lookup name = some ty

variable {declared : Environment} {ty : Ty} {name : String}

theorem resolve_within (within : Within declared later)
    (resolved : resolve declared name = some ty) : resolve later name = some ty := by
  unfold resolve at resolved ⊢
  split at resolved <;> first | exact resolved | exact within _ ty resolved

theorem mapM_within (within : Within declared later) {members : List MemberDefinition}
    {results : List Member} (mapped : members.mapM (declareMember declared) = some results) :
    members.mapM (declareMember later) = some results := by
  induction members generalizing results with
  | nil => exact mapped
  | cons member members ih =>
      rw [List.mapM_cons] at mapped ⊢
      obtain ⟨first, head, mapped⟩ := Option.bind_eq_some_iff.mp mapped
      obtain ⟨rest, tail, same⟩ := Option.bind_eq_some_iff.mp mapped
      obtain ⟨ty, resolved, rfl⟩ := Option.map_eq_some_iff.mp head
      rw [declareMember, resolve_within within resolved, ih tail]
      exact same

theorem declare_within (within : Within declared later) {kind : Kind}
    (defined : declare declared kind = some ty) : declare later kind = some ty := by
  cases kind with
  | integer bits signed => exact defined
  | string storage capacity => cases storage <;> exact defined
  | sequence element storage capacity =>
      cases storage with
      | bounded | fixed =>
          obtain ⟨inner, resolved, defined⟩ := Option.bind_eq_some_iff.mp defined
          change (resolve later element).bind _ = _
          rw [resolve_within within resolved]
          exact defined
      | unbounded | other =>
          obtain ⟨inner, resolved, rfl⟩ := Option.map_eq_some_iff.mp defined
          change (resolve later element).map _ = _
          rw [resolve_within within resolved]
          rfl
  | struct members =>
      obtain ⟨results, mapped, rfl⟩ := Option.map_eq_some_iff.mp defined
      change ((sortedMembers members).mapM (declareMember later)).map Ty.struct = _
      rw [mapM_within within mapped]
      rfl
  | other kind => cases defined

theorem within_cons (fresh : name ∉ declared.map Prod.fst) : Within declared ((name, ty) :: declared) := by
  intro other found known
  rw [List.lookup_cons]
  by_cases same : other = name
  · subst same
    obtain ⟨before, after, split, _⟩ := List.lookup_eq_some_iff.mp known
    rw [split, List.map_append] at fresh
    exact absurd (List.mem_append_right _ List.mem_cons_self) fresh
  · rw [beq_false_of_ne same]
    exact known

variable {shapes : List TypeDefinition} {declared final : Environment}

/-- Every declared type is the declaration of its definition in the final environment. -/
theorem declareAll_spec
    (distinct : (declared.map Prod.fst ++ shapes.map (·.name)).Nodup) (run : declareAll shapes declared = .ok final) :
    Within declared final ∧ (∀ name ty, final.lookup name = some ty → declared.lookup name = some ty ∨
      ∃ shape ∈ shapes, shape.name = name ∧ declare final shape.kind = some ty) ∧
    ∀ shape ∈ shapes, (final.lookup shape.name).isSome := by
  induction shapes generalizing declared with
  | nil =>
      cases run
      exact ⟨fun _ _ known => known, fun _ _ known => .inl known, fun _ listed => absurd listed List.not_mem_nil⟩
  | cons shape shapes ih =>
      rw [declareAll] at run
      cases defined : declare declared shape.kind with
      | none =>
          rw [defined] at run
          cases run
      | some ty =>
          rw [defined] at run
          have perm : (declared.map Prod.fst ++ (shape :: shapes).map (·.name)).Perm
              (((shape.name, ty) :: declared).map Prod.fst ++ shapes.map (·.name)) := List.perm_middle
          obtain ⟨within, complete, present⟩ := ih (perm.nodup_iff.mp distinct) run
          have fresh : shape.name ∉ declared.map Prod.fst := fun old =>
            (List.nodup_append.mp distinct).2.2 _ old _ List.mem_cons_self rfl
          have first : final.lookup shape.name = some ty := within _ _ (by
            rw [List.lookup_cons, beq_self_eq_true])
          refine ⟨fun name found known => within name found (within_cons fresh name found known), ?_, ?_⟩
          · intro name found known
            rcases complete name found known with old | ⟨other, listed, same, defined⟩
            · rw [List.lookup_cons] at old
              by_cases same : name = shape.name
              · subst same
                rw [beq_self_eq_true] at old
                cases old
                refine .inr ⟨shape, List.mem_cons_self, rfl, declare_within ?_ defined⟩
                exact fun other found known => within other found (within_cons fresh other found known)
              · rw [beq_false_of_ne same] at old
                exact .inl old
            · exact .inr ⟨other, List.mem_cons_of_mem _ listed, same, defined⟩
          · intro other listed
            rcases List.mem_cons.mp listed with rfl | listed
            · rw [first]
              rfl
            · exact present other listed

/-- A property of the declared types follows from the types they hold. -/
theorem declareAll_induction {P : String → Ty → Prop}
    (step : ∀ declared shape ty, (∀ name ty, declared.lookup name = some ty → P name ty) → shape ∈ shapes →
      declare declared shape.kind = some ty → P shape.name ty)
    (start : ∀ name ty, declared.lookup name = some ty → P name ty)
    (run : declareAll shapes declared = .ok final) : ∀ name ty, final.lookup name = some ty → P name ty := by
  induction shapes generalizing declared with
  | nil =>
      cases run
      exact start
  | cons shape shapes ih =>
      rw [declareAll] at run
      cases defined : declare declared shape.kind with
      | none =>
          rw [defined] at run
          cases run
      | some ty =>
          rw [defined] at run
          apply ih (fun declared other ty below listed => step declared other ty below
            (List.mem_cons_of_mem _ listed)) _ run
          intro name found known
          rw [List.lookup_cons] at known
          by_cases same : name = shape.name
          · subst same
            rw [beq_self_eq_true] at known
            cases known
            exact step declared shape ty start List.mem_cons_self defined
          · rw [beq_false_of_ne same] at known
            exact start name found known

end Declarations

end OpenVehicle.Com.Contract
