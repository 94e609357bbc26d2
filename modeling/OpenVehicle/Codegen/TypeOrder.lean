/-
This file models the order in which the generator lists the types of a model. A type that refers to another one by
value stands after it.
-/

import OpenVehicle.Data.FiniteMap
import OpenVehicle.Data.Json
import OpenVehicle.Data.OrderedMap
import OpenVehicle.Data.Sorting
import OpenVehicle.Graph.DepthFirst

namespace OpenVehicle.Codegen

open Data (Json sortBy)
open DepthFirst (Search follow)
open FiniteMap (Map)

/-- A text is a list of bytes. -/
abbrev Text := List UInt8

def bytes (text : String) : Text := text.toUTF8.data.toList

/-- A function that fails returns a message, or it panics. -/
inductive Failure where
  | panic
  | message (text : Text)
  deriving DecidableEq, Repr

def asStr : Json → Option Text
  | .string value => some value
  | _ => none

def nameOf (shape : Json) : Option Text := asStr (shape.get "name")

/-- A reference without a text is the empty text. -/
def references (shape : Json) : List Text :=
  sortBy id <|
    if asStr (shape.get "kind") = some (bytes "sequence") then [(asStr (shape.get "element")).getD []]
    else if asStr (shape.get "kind") = some (bytes "struct") then
      (shape.get "members").items.map fun member => (asStr (member.get "type")).getD []
    else []

/-- The search marks the names that it visits and the names that it has visited. -/
structure Visit where
  visiting : Finset Text := ∅
  visited : Finset Text := ∅
  ordered : List Json := []

/-- The fuel bounds the depth of the recursion. -/
def visit (byName : Map Text Json) (fuel : Nat) (name : Text) (state : Visit) : Except Failure Visit :=
  match byName.lookup name with
  | none => .ok state
  | some shape =>
      if name ∈ state.visited then .ok state
      else if name ∈ state.visiting then
        .error (.message (bytes "recursive by-value type cycle involving " ++ name))
      else
        match fuel with
        | 0 => .error .panic
        | fuel + 1 => do
            let opened := { state with visiting := insert name state.visiting }
            let closed ← (references shape).foldlM (fun state reference => visit byName fuel reference state) opened
            return { visiting := closed.visiting.erase name, visited := insert name closed.visited,
                     ordered := closed.ordered ++ [shape] }

/-- A type without a name is a panic. -/
def named (shape : Json) : Except Failure (Text × Json) :=
  match nameOf shape with
  | none => .error .panic
  | some name => .ok (name, shape)

/-- Of two types with one name, the map has the later one. -/
def tableOf (entries : List (Text × Json)) : Map Text Json :=
  entries.foldl (fun byName entry => byName.insert entry.1 entry.2) ∅

def orderedTypes (types : List Json) : Except Failure (List Json) := do
  let entries ← types.mapM named
  let byName := tableOf entries
  let final ← (FiniteMap.sorted byName.keys.toFinset).foldlM
    (fun state name => visit byName types.length name state) {}
  return final.ordered

section Simulation

variable (byName : Map Text Json)

def containsKey (name : Text) : Bool := (byName.lookup name).isSome

/-- A known type leads to the known types that it refers to. -/
def successors (name : Text) : List Text :=
  match byName.lookup name with
  | none => []
  | some shape => (references shape).filter (containsKey byName)

/-- The marks of a visit are those of a search that has met no cycle. -/
structure Simulates (byName : Map Text Json) (state : Visit) (search : Search Text) : Prop where
  visiting : ∀ name, name ∈ state.visiting ↔ name ∈ search.stack
  visited : ∀ name, name ∈ state.visited ↔ name ∈ search.finished
  ordered : state.ordered = search.finished.filterMap byName.lookup
  clean : search.back = []

/-- The generator fails when the search has met a cycle. -/
inductive Agrees (byName : Map Text Json) : Except Failure Visit → Search Text → Prop
  | done {state : Visit} {search : Search Text} (simulates : Simulates byName state search) :
      Agrees byName (.ok state) search
  | cycle {text : Text} {search : Search Text} (back : search.back ≠ []) :
      Agrees byName (.error (.message text)) search

abbrev Sound := DepthFirst.Sound (successors byName) byName.keys.toFinset

abbrev unseen := DepthFirst.unseen byName.keys.toFinset

abbrev Chain (stack : List Text) : Prop := stack.IsChain (DepthFirst.Edge (successors byName))

abbrev next (fuel : Nat) : Search Text → Text → Search Text := follow (DepthFirst.visit (successors byName) fuel)

/-- A visit of a known name agrees with the search that follows an edge to it. -/
def VisitAgrees (fuel : Nat) : Prop :=
  ∀ name state search, containsKey byName name = true → Simulates byName state search → Sound byName search →
    Chain byName (search.stack ++ [name]) → (unseen byName search).card ≤ fuel →
    Agrees byName (visit byName fuel name state) (next byName fuel search name)

variable {byName : Map Text Json} {fuel : Nat} {name target : Text} {state : Visit} {search : Search Text}
  {shape : Json}

theorem mem_nodes : name ∈ byName.keys.toFinset ↔ containsKey byName name = true := by
  rw [List.mem_toFinset, ← AList.mem_keys, ← AList.lookup_isSome]
  rfl

theorem successors_known (edge : target ∈ successors byName name) : containsKey byName target = true := by
  unfold successors at edge
  split at edge
  · cases edge
  · exact (List.mem_filter.mp edge).2

theorem successors_closed : ∀ node ∈ byName.keys.toFinset, ∀ target ∈ successors byName node,
    target ∈ byName.keys.toFinset := fun _ _ _ edge => mem_nodes.mpr (successors_known edge)

theorem successors_of (found : byName.lookup name = some shape) :
    successors byName name = (references shape).filter (containsKey byName) := by
  rw [successors, found]

theorem Simulates.opened (simulates : Simulates byName state search) (name : Text) :
    Simulates byName { state with visiting := insert name state.visiting }
      { search with stack := search.stack ++ [name] } where
  visiting other := by
    rw [Finset.mem_insert, List.mem_append, List.mem_singleton, simulates.visiting, or_comm]
  visited := simulates.visited
  ordered := simulates.ordered
  clean := simulates.clean

/-- A closed name moves to the visited ones, and its type is added. -/
theorem Simulates.closed {rest : List Text} (simulates : Simulates byName state search)
    (found : byName.lookup name = some shape) (top : search.stack = rest ++ [name]) (fresh : name ∉ rest) :
    Simulates byName ⟨state.visiting.erase name, insert name state.visited, state.ordered ++ [shape]⟩
      { search with stack := search.stack.dropLast, finished := search.finished ++ [name] } where
  visiting other := by
    rw [Finset.mem_erase, simulates.visiting, top, List.dropLast_concat, List.mem_append, List.mem_singleton]
    constructor
    · rintro ⟨different, kept | same⟩
      · exact kept
      · exact absurd same different
    · intro kept
      exact ⟨fun same => fresh (same ▸ kept), .inl kept⟩
  visited other := by
    rw [Finset.mem_insert, List.mem_append, List.mem_singleton, simulates.visited, or_comm]
  ordered := by
    rw [simulates.ordered, List.filterMap_append]
    simp [found]
  clean := simulates.clean

theorem visit_unknown (unknown : containsKey byName name = false) : visit byName fuel name state = .ok state := by
  have absent : byName.lookup name = none := by simpa [containsKey] using unknown
  rw [visit, absent]

/-- A marked name is left alone or closes a cycle. -/
theorem visit_marked (known : containsKey byName name = true) (simulates : Simulates byName state search)
    (marked : name ∈ search.finished ∨ name ∈ search.stack) :
    Agrees byName (visit byName fuel name state) (next byName fuel search name) := by
  obtain ⟨shape, found⟩ := Option.isSome_iff_exists.mp known
  rw [visit, found]
  dsimp only [next, follow]
  by_cases finished : name ∈ search.finished
  · rw [if_pos ((simulates.visited name).mpr finished), if_pos finished]
    exact .done simulates
  · have opened := marked.resolve_left finished
    rw [if_neg fun visited => finished ((simulates.visited name).mp visited), if_neg finished,
      if_pos ((simulates.visiting name).mpr opened), if_pos opened]
    exact .cycle (by simp)

theorem visit_fresh (found : byName.lookup name = some shape) (simulates : Simulates byName state search)
    (fresh : name ∉ search.stack ∧ name ∉ search.finished) : visit byName (fuel + 1) name state =
      ((references shape).foldlM (fun state reference => visit byName fuel reference state)
        { state with visiting := insert name state.visiting }).bind fun closed =>
          .ok ⟨closed.visiting.erase name, insert name closed.visited, closed.ordered ++ [shape]⟩ := by
  rw [visit, found]
  dsimp only
  rw [if_neg fun visited => fresh.2 ((simulates.visited name).mp visited),
    if_neg fun visiting => fresh.1 ((simulates.visiting name).mp visiting)]
  rfl

/-- The loop over names skips the unknown ones. -/
theorem foldlM_agrees (each : VisitAgrees byName fuel) {base : List Text} (names : List Text)
    (chains : ∀ name ∈ names, containsKey byName name = true → Chain byName (base ++ [name]))
    (simulates : Simulates byName state search) (sound : Sound byName search) (stack : search.stack = base)
    (enough : (unseen byName search).card ≤ fuel) :
    Agrees byName (names.foldlM (fun state name => visit byName fuel name state) state)
      ((names.filter (containsKey byName)).foldl (next byName fuel) search) := by
  induction names generalizing state search with
  | nil => exact .done simulates
  | cons name names ih =>
      have others := fun other listed => chains other (List.mem_cons_of_mem name listed)
      rw [List.foldlM_cons]
      cases known : containsKey byName name with
      | false =>
          rw [visit_unknown known, List.filter_cons_of_neg (by simp [known])]
          exact ih others simulates sound stack enough
      | true =>
          have chain := chains name List.mem_cons_self known
          rw [← stack] at chain
          have head := each name state search known simulates sound chain enough
          have step : DepthFirst.Extends (successors byName) byName.keys.toFinset search
              (next byName fuel search name) :=
            (DepthFirst.follow_extends (DepthFirst.visit_extends successors_closed fuel) sound
              (mem_nodes.mpr known) chain enough).1
          rw [List.filter_cons_of_pos known, List.foldl_cons]
          generalize visit byName fuel name state = result at head
          generalize reached : next byName fuel search name = later at head
          rw [reached] at step
          cases head with
          | done simulates =>
              exact ih others simulates step.sound (step.stack.trans stack) (step.unseen_le.trans enough)
          | cycle back =>
              refine .cycle fun clean => back ?_
              have kept := DepthFirst.back_foldl (DepthFirst.back_visit (successors byName) fuel)
                (names.filter (containsKey byName)) later
              exact List.prefix_nil.mp (clean ▸ kept)

/-- The recursion agrees with the search while the fuel is enough for the names that it has not seen. -/
theorem visit_agrees (byName : Map Text Json) (fuel : Nat) : VisitAgrees byName fuel := by
  induction fuel with
  | zero =>
      intro name state search known simulates _ _ enough
      refine visit_marked known simulates ?_
      by_contra fresh
      obtain ⟨unfinished, unopened⟩ := not_or.mp fresh
      have member : name ∈ unseen byName search := DepthFirst.mem_unseen.mpr ⟨mem_nodes.mpr known, unopened, unfinished⟩
      have positive := Finset.card_pos.mpr ⟨name, member⟩
      omega
  | succ fuel ih =>
      intro name state search known simulates sound chain enough
      by_cases marked : name ∈ search.finished ∨ name ∈ search.stack
      · exact visit_marked known simulates marked
      · obtain ⟨unfinished, unopened⟩ := not_or.mp marked
        obtain ⟨shape, found⟩ := Option.isSome_iff_exists.mp known
        have inside := mem_nodes.mpr known
        have opened := sound.opened inside ⟨unopened, unfinished⟩ chain
        have fewer := Nat.le_of_lt_succ
          (Nat.lt_of_lt_of_le (DepthFirst.card_unseen_opened inside ⟨unopened, unfinished⟩) enough)
        have chains : ∀ target ∈ references shape, containsKey byName target = true →
            Chain byName ((search.stack ++ [name]) ++ [target]) := by
          intro target listed found
          refine opened.chain_edge rfl ?_
          rw [DepthFirst.Edge, successors_of ‹_›]
          exact List.mem_filter.mpr ⟨listed, found⟩
        have loop := foldlM_agrees ih (references shape) chains (simulates.opened name) opened rfl fewer
        have kept := (DepthFirst.foldl_follow_extends successors_closed fuel
          (DepthFirst.visit_extends successors_closed fuel) name search.stack (successors byName name) _ opened rfl
          (fun _ edge => edge) fewer).1.stack
        rw [← successors_of found] at loop
        rw [visit_fresh found simulates ⟨unopened, unfinished⟩]
        dsimp only [next, follow]
        rw [if_neg unfinished, if_neg unopened, DepthFirst.visit]
        generalize (references shape).foldlM (fun state reference => visit byName fuel reference state)
          { state with visiting := insert name state.visiting } = result at loop
        generalize (successors byName name).foldl (follow (DepthFirst.visit (successors byName) fuel))
          { search with stack := search.stack ++ [name] } = later at loop kept
        cases loop with
        | done simulates => exact .done (simulates.closed found kept unopened)
        | cycle back => exact .cycle back

end Simulation

section Order
variable {types : List Json} {entries : List (Text × Json)} {byName : Map Text Json} {name : Text} {shape target : Json}

/-- A type refers to the element of a sequence and to the types of the members of a struct. -/
inductive RefersTo (source target : Json) : Prop
  | element {name : Text} (kind : asStr (source.get "kind") = some (bytes "sequence"))
      (element : (asStr (source.get "element")).getD [] = name) (named : nameOf target = some name)
  | member {name : Text} (member : Json) (kind : asStr (source.get "kind") = some (bytes "struct"))
      (listed : member ∈ (source.get "members").items) (type : (asStr (member.get "type")).getD [] = name)
      (named : nameOf target = some name)

/-- The references among the types of a model. -/
def ByValue (types : List Json) (source target : Json) : Prop :=
  source ∈ types ∧ target ∈ types ∧ RefersTo source target

theorem refersTo_iff : RefersTo shape target ↔ ∃ name ∈ references shape, nameOf target = some name := by
  unfold references
  constructor
  · rintro (@⟨name, kind, element, named⟩ | @⟨name, member, kind, listed, type, named⟩)
    · rw [if_pos kind]
      exact ⟨name, Data.mem_sortBy.mpr (List.mem_singleton.mpr element.symm), named⟩
    · have other : ¬asStr (shape.get "kind") = some (bytes "sequence") := by
        rw [kind]
        decide
      rw [if_neg other, if_pos kind]
      exact ⟨name, Data.mem_sortBy.mpr (List.mem_map.mpr ⟨member, listed, type⟩), named⟩
  · rintro ⟨name, listed, named⟩
    rw [Data.mem_sortBy] at listed
    split at listed
    · rename_i kind
      exact .element kind (List.mem_singleton.mp listed).symm named
    · split at listed
      · rename_i kind
        obtain ⟨member, inside, type⟩ := List.mem_map.mp listed
        exact .member member kind inside type named
      · cases listed

theorem lookup_foldl_insert (distinct : (entries.map Prod.fst).Nodup) :
    (entries.foldl (fun byName entry => byName.insert entry.1 entry.2) byName).lookup name = some shape ↔
      (name, shape) ∈ entries ∨ name ∉ entries.map Prod.fst ∧ byName.lookup name = some shape := by
  induction entries generalizing byName with
  | nil => simp
  | cons entry entries ih =>
      obtain ⟨key, value⟩ := entry
      rw [List.map_cons, List.nodup_cons] at distinct
      rw [List.foldl_cons, ih distinct.2]
      by_cases same : name = key
      · subst same
        have fresh : name ∉ entries.map Prod.fst := distinct.1
        have absent : (name, shape) ∉ entries := fun listed => fresh (List.mem_map_of_mem listed)
        simp [AList.lookup_insert, absent, fresh, eq_comm]
      · simp [AList.lookup_insert_ne same, same]

theorem mapM_named (all : ∀ shape ∈ types, (nameOf shape).isSome = true) :
    types.mapM named = .ok (types.map fun shape => ((nameOf shape).getD [], shape)) := by
  induction types with
  | nil => rfl
  | cons shape types ih =>
      obtain ⟨first, others⟩ := List.forall_mem_cons.mp all
      obtain ⟨name, found⟩ := Option.isSome_iff_exists.mp first
      rw [List.mapM_cons, ih others, named, found]
      simp [found, Bind.bind, Except.bind, Pure.pure, Except.pure]

/-- The map holds the types under their names. -/
def Holds (types : List Json) (byName : Map Text Json) : Prop :=
  ∀ name shape, byName.lookup name = some shape ↔ shape ∈ types ∧ nameOf shape = some name

theorem holds_tableOf (all : ∀ shape ∈ types, (nameOf shape).isSome = true) (unique : (types.map nameOf).Nodup) :
    Holds types (tableOf (types.map fun shape => ((nameOf shape).getD [], shape))) := by
  intro name shape
  have distinct : ((types.map fun shape => ((nameOf shape).getD [], shape)).map Prod.fst).Nodup := by
    rw [List.map_map]
    refine List.Nodup.map_on (fun first left second right same => ?_) (List.Nodup.of_map nameOf unique)
    refine List.inj_on_of_nodup_map unique left right ?_
    obtain ⟨one, known⟩ := Option.isSome_iff_exists.mp (all first left)
    obtain ⟨other, found⟩ := Option.isSome_iff_exists.mp (all second right)
    simp only [Function.comp, known, found, Option.getD_some] at same ⊢
    rw [same]
  rw [tableOf, lookup_foldl_insert distinct, AList.lookup_empty, List.mem_map]
  constructor
  · rintro (⟨other, listed, same⟩ | ⟨_, nothing⟩)
    · obtain ⟨rfl, rfl⟩ := Prod.mk.inj same
      obtain ⟨known, found⟩ := Option.isSome_iff_exists.mp (all other listed)
      rw [found]
      exact ⟨listed, rfl⟩
    · cases nothing
  · rintro ⟨listed, named⟩
    exact .inl ⟨shape, listed, by rw [named]; rfl⟩

section Holds
variable (holds : Holds types byName)
include holds

theorem edge_iff {source reference : Text} : DepthFirst.Edge (successors byName) source reference ↔
    ∃ shape target, byName.lookup source = some shape ∧ byName.lookup reference = some target ∧
      ByValue types shape target := by
  unfold DepthFirst.Edge successors
  constructor
  · intro edge
    split at edge
    · cases edge
    · rename_i shape found
      obtain ⟨listed, known⟩ := List.mem_filter.mp edge
      obtain ⟨target, reached⟩ := Option.isSome_iff_exists.mp known
      have facts := (holds reference target).mp reached
      exact ⟨shape, target, found, reached, ((holds source shape).mp found).1, facts.1,
        refersTo_iff.mpr ⟨reference, listed, facts.2⟩⟩
  · rintro ⟨shape, target, found, reached, _, _, refers⟩
    obtain ⟨other, listed, named⟩ := refersTo_iff.mp refers
    have same := ((holds reference target).mp reached).2.symm.trans named
    rw [found]
    refine List.mem_filter.mpr ⟨?_, by rw [containsKey, reached]; rfl⟩
    rwa [Option.some.inj same]

/-- The names of the types have a cycle when the types have one. -/
theorem acyclic_iff (all : ∀ shape ∈ types, (nameOf shape).isSome = true) :
    DepthFirst.Acyclic (successors byName) ↔ ∀ shape, ¬Relation.TransGen (ByValue types) shape shape := by
  constructor
  · intro acyclic shape cycle
    refine acyclic ((nameOf shape).getD []) (cycle.lift (fun shape => (nameOf shape).getD []) ?_)
    intro source target edge
    obtain ⟨name, known⟩ := Option.isSome_iff_exists.mp (all source edge.1)
    obtain ⟨other, found⟩ := Option.isSome_iff_exists.mp (all target edge.2.1)
    simp only [Function.onFun, known, found, Option.getD_some]
    exact (edge_iff holds).mpr
      ⟨source, target, (holds _ _).mpr ⟨edge.1, known⟩, (holds _ _).mpr ⟨edge.2.1, found⟩, edge⟩
  · intro acyclic name cycle
    refine acyclic ((byName.lookup name).getD .null) (cycle.lift (fun name => (byName.lookup name).getD .null) ?_)
    intro source reference edge
    obtain ⟨shape, target, found, reached, refers⟩ := (edge_iff holds).mp edge
    simp only [Function.onFun, found, reached, Option.getD_some]
    exact refers

theorem card_keys_le : byName.keys.toFinset.card ≤ types.length := by
  have inside : byName.keys.toFinset ⊆ (types.map fun shape => (nameOf shape).getD []).toFinset := by
    intro name listed
    obtain ⟨shape, found⟩ := Option.isSome_iff_exists.mp (mem_nodes.mp listed)
    obtain ⟨known, named⟩ := (holds name shape).mp found
    exact List.mem_toFinset.mpr (List.mem_map.mpr ⟨shape, known, by rw [named]; rfl⟩)
  exact (Finset.card_le_card inside).trans ((List.toFinset_card_le _).trans (List.length_map _).le)

theorem lookup_inj {other : Text} (found : byName.lookup name = some shape) (again : byName.lookup other = some shape) :
    name = other := Option.some.inj (((holds name shape).mp found).2.symm.trans ((holds other shape).mp again).2)

/-- The finished names give every type once. -/
theorem perm_filterMap (all : ∀ shape ∈ types, (nameOf shape).isSome = true) (unique : (types.map nameOf).Nodup)
    {finished : List Text} (distinct : finished.Nodup)
    (covers : ∀ name, containsKey byName name = true → name ∈ finished) :
    (finished.filterMap byName.lookup).Perm types := by
  refine (List.perm_ext_iff_of_nodup ?_ (List.Nodup.of_map nameOf unique)).mpr fun shape => ?_
  · exact distinct.filterMap fun name other shape found again => lookup_inj holds found again
  · rw [List.mem_filterMap]
    constructor
    · rintro ⟨name, _, found⟩
      exact ((holds name shape).mp found).1
    · intro listed
      obtain ⟨name, named⟩ := Option.isSome_iff_exists.mp (all shape listed)
      have found := (holds name shape).mpr ⟨listed, named⟩
      exact ⟨name, covers name (by rw [containsKey, found]; rfl), found⟩

/-- The order of the names is an order of the types. -/
theorem ordered_filterMap {finished : List Text} (ordered : DepthFirst.Ordered (successors byName) finished)
    {before after : List Json} (split : finished.filterMap byName.lookup = before ++ shape :: after)
    (refers : ByValue types shape target) : target ∈ before := by
  obtain ⟨front, back, rfl, rfl, rest⟩ := List.filterMap_eq_append_iff.mp split
  obtain ⟨skipped, name, later, rfl, unknown, found, rfl⟩ := List.filterMap_eq_cons_iff.mp rest
  obtain ⟨reference, named⟩ : ∃ reference, nameOf target = some reference := by
    obtain ⟨reference, _, named⟩ := refersTo_iff.mp refers.2.2
    exact ⟨reference, named⟩
  have reached := (holds reference target).mpr ⟨refers.2.1, named⟩
  have edge := (edge_iff holds).mpr ⟨shape, target, found, reached, refers⟩
  have earlier := ordered (front ++ skipped) name later (List.append_assoc ..).symm reference edge
  rcases List.mem_append.mp earlier with inside | outside
  · exact List.mem_filterMap.mpr ⟨reference, inside, reached⟩
  · rw [unknown reference outside] at reached
    cases reached

end Holds

/-- The roots of the search are the names of the map. -/
theorem agrees_searchAll (byName : Map Text Json) {fuel : Nat} (enough : byName.keys.toFinset.card ≤ fuel) :
    Agrees byName ((FiniteMap.sorted byName.keys.toFinset).foldlM (fun state name => visit byName fuel name state) {})
      (DepthFirst.searchAll (successors byName) fuel (FiniteMap.sorted byName.keys.toFinset)) := by
  have known : ∀ name ∈ FiniteMap.sorted byName.keys.toFinset, containsKey byName name = true :=
    fun name listed => mem_nodes.mp ((FiniteMap.mem_sorted _ name).mp listed)
  have start : Simulates byName {} {} := ⟨by simp, by simp, rfl, rfl⟩
  have fewer : (unseen byName {}).card ≤ fuel := (Finset.card_le_card (Finset.filter_subset _ _)).trans enough
  have loop := foldlM_agrees (visit_agrees byName fuel) (FiniteMap.sorted byName.keys.toFinset)
    (fun name _ _ => List.isChain_singleton name) start (.initial _ _) rfl fewer
  rwa [List.filter_eq_self.mpr known] at loop

/-- The generator lists the types exactly when no type holds itself by value. It lists every type once and after the
types that it refers to. -/
theorem ordered_types (all : ∀ shape ∈ types, (nameOf shape).isSome = true) (unique : (types.map nameOf).Nodup) :
    ((∃ ordered, orderedTypes types = .ok ordered) ↔ ∀ shape, ¬Relation.TransGen (ByValue types) shape shape) ∧
      (∀ ordered, orderedTypes types = .ok ordered → ordered.Perm types ∧
        ∀ before shape after, ordered = before ++ shape :: after →
          ∀ target, ByValue types shape target → target ∈ before) ∧ orderedTypes types ≠ .error .panic := by
  let byName := tableOf (types.map fun shape => ((nameOf shape).getD [], shape))
  have holds : Holds types byName := holds_tableOf all unique
  have enough := card_keys_le holds
  have unfolded : orderedTypes types =
      ((FiniteMap.sorted byName.keys.toFinset).foldlM (fun state name => visit byName types.length name state) {}).bind
        fun final => .ok final.ordered := by
    rw [orderedTypes, mapM_named all]
    rfl
  have roots : ∀ name ∈ FiniteMap.sorted byName.keys.toFinset, name ∈ byName.keys.toFinset :=
    fun name listed => (FiniteMap.mem_sorted _ name).mp listed
  have covered : ∀ node target, DepthFirst.Edge (successors byName) node target →
      node ∈ FiniteMap.sorted byName.keys.toFinset := by
    intro node target edge
    obtain ⟨shape, _, found, _⟩ := (edge_iff holds).mp edge
    exact (FiniteMap.mem_sorted _ node).mpr (mem_nodes.mpr (by rw [containsKey, found]; rfl))
  have acyclic := DepthFirst.searchAll_back_eq_nil_iff successors_closed types.length enough
    (FiniteMap.sorted byName.keys.toFinset) roots covered
  obtain ⟨sound, covers⟩ := DepthFirst.searchAll_sound successors_closed types.length enough
    (FiniteMap.sorted byName.keys.toFinset) roots
  have agrees := agrees_searchAll byName enough
  rw [unfolded, ← acyclic_iff holds all, ← acyclic]
  generalize (FiniteMap.sorted byName.keys.toFinset).foldlM (fun state name => visit byName types.length name state)
    {} = result at agrees
  generalize DepthFirst.searchAll (successors byName) types.length (FiniteMap.sorted byName.keys.toFinset) = search
    at agrees sound covers
  cases agrees with
  | cycle back =>
      refine ⟨iff_of_false ?_ back, ?_, ?_⟩
      · rintro ⟨ordered, finished⟩
        cases finished
      · intro ordered finished
        cases finished
      · intro panics
        cases panics
  | @done state _ simulates =>
      refine ⟨iff_of_true ⟨state.ordered, rfl⟩ simulates.clean, ?_, ?_⟩
      · intro ordered finished
        obtain rfl := Except.ok.inj finished
        rw [simulates.ordered]
        refine ⟨perm_filterMap holds all unique sound.finishedNodup ?_, ?_⟩
        · exact fun name known => covers name ((FiniteMap.mem_sorted _ name).mpr (mem_nodes.mpr known))
        · intro before shape after split target refers
          exact ordered_filterMap holds (sound.finishedOrdered simulates.clean) split refers
      · intro panics
        cases panics

def sequenceOf (name element : String) : Json :=
  .object [("name", .string (bytes name)), ("kind", .string (bytes "sequence")), ("element", .string (bytes element))]

/-- A sequence stands after its element, and two sequences of each other are refused. -/
theorem ordered_types_sequences :
    (orderedTypes [sequenceOf "a" "b", sequenceOf "b" "u8"] = .ok [sequenceOf "b" "u8", sequenceOf "a" "b"] ∧
      ∀ shape, ¬Relation.TransGen (ByValue [sequenceOf "a" "b", sequenceOf "b" "u8"]) shape shape) ∧
    ¬∃ ordered, orderedTypes [sequenceOf "a" "b", sequenceOf "b" "a"] = .ok ordered := by
  have sorted : orderedTypes [sequenceOf "a" "b", sequenceOf "b" "u8"] =
      .ok [sequenceOf "b" "u8", sequenceOf "a" "b"] := by rfl
  refine ⟨⟨sorted, ?_⟩, ?_⟩
  · exact (ordered_types (by decide) (by decide)).1.mp ⟨_, sorted⟩
  · rintro ⟨ordered, finished⟩
    have acyclic := (ordered_types (by decide) (by decide)).1.mp ⟨ordered, finished⟩
    have there : ByValue [sequenceOf "a" "b", sequenceOf "b" "a"] (sequenceOf "a" "b") (sequenceOf "b" "a") :=
      ⟨by simp, by simp, .element rfl rfl rfl⟩
    have back : ByValue [sequenceOf "a" "b", sequenceOf "b" "a"] (sequenceOf "b" "a") (sequenceOf "a" "b") :=
      ⟨by simp, by simp, .element rfl rfl rfl⟩
    exact acyclic _ ((Relation.TransGen.single there).tail back)

end Order

end OpenVehicle.Codegen
