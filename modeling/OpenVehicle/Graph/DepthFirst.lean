/-
This file defines depth-first search over an arbitrary successor function.
The search records the finish order and every edge that points back into its own stack.
-/

import Mathlib.Data.Finset.Card
import Mathlib.Data.List.Chain
import Mathlib.Logic.Relation
import Mathlib.Tactic

namespace OpenVehicle.DepthFirst

variable {A : Type}

/-- The edge relation of a successor function. -/
def Edge (next : A → List A) (source target : A) : Prop := target ∈ next source

/-- No node reaches itself by one or more edges. -/
def Acyclic (next : A → List A) : Prop := ∀ node, ¬ Relation.TransGen (Edge next) node node

/-- Every successor of a listed node stands before it. -/
def Ordered (next : A → List A) (list : List A) : Prop :=
  ∀ before node after, list = before ++ node :: after → ∀ target ∈ next node, target ∈ before

/-- The search keeps its stack, its finish order and the back edges it met. -/
structure Search (A : Type) where
  stack : List A := []
  finished : List A := []
  back : List (List A × A) := []

section Definitions
variable [DecidableEq A]

/-- One edge is finished, points back into the stack, or leads to an unseen node. -/
def follow (visit : A → Search A → Search A) (search : Search A) (target : A) : Search A :=
  if target ∈ search.finished then search
  else if target ∈ search.stack then
    { search with back := search.back ++ [(search.stack, target)] }
  else visit target search

/-- A visit opens a node, follows its edges in order and closes the node. -/
def visit (next : A → List A) : Nat → A → Search A → Search A
  | 0, _, search => search
  | fuel + 1, node, search =>
      let opened := { search with stack := search.stack ++ [node] }
      let closed := (next node).foldl (follow (visit next fuel)) opened
      { closed with stack := closed.stack.dropLast, finished := closed.finished ++ [node] }

/-- The full search visits each root that no earlier visit has finished. -/
def searchAll (next : A → List A) (fuel : Nat) (roots : List A) : Search A := roots.foldl (follow (visit next fuel)) {}

end Definitions

section Back
variable [DecidableEq A]

theorem back_foldl {step : A → Search A → Search A} (grows : ∀ node search, search.back <+: (step node search).back)
    (targets : List A) (search : Search A) : search.back <+: (targets.foldl (follow step) search).back := by
  induction targets generalizing search with
  | nil => exact List.prefix_rfl
  | cons target targets ih =>
      refine List.IsPrefix.trans ?_ (ih (follow step search target))
      unfold follow
      split
      · exact List.prefix_rfl
      · split
        · exact List.prefix_append _ _
        · exact grows target search

/-- The search forgets no edge that points back. -/
theorem back_visit (next : A → List A) (fuel : Nat) (node : A) (search : Search A) :
    search.back <+: (visit next fuel node search).back := by
  induction fuel generalizing node search with
  | zero => exact List.prefix_rfl
  | succ fuel ih => exact back_foldl ih (next node) { search with stack := search.stack ++ [node] }

end Back

variable {next : A → List A} {node target : A} {list : List A}

section Order

theorem Ordered.nil (next : A → List A) : Ordered next [] := by
  intro before node after equal
  simp at equal

variable (ordered : Ordered next list)
include ordered

theorem Ordered.snoc {node : A} (successors : ∀ target ∈ next node, target ∈ list) : Ordered next (list ++ [node]) := by
  intro before other after equal target member
  rcases List.eq_nil_or_concat after with rfl | ⟨front, last, rfl⟩
  · obtain ⟨rfl, tail⟩ := List.append_inj' equal (by simp)
    obtain rfl : node = other := by simpa using tail
    exact successors target member
  · have split : list ++ [node] = (before ++ other :: front) ++ [last] := by simpa using equal
    exact ordered before other front (List.append_inj' split (by simp)).1 target member

/-- The position of a successor is smaller than the position of its source. -/
theorem Ordered.idxOf_lt [DecidableEq A] (listed : node ∈ list)
    (edge : Edge next node target) : list.idxOf target < list.idxOf node := by
  obtain ⟨before, after, rfl, fresh⟩ := List.eq_append_cons_of_mem listed
  have earlier : target ∈ before := ordered before node after rfl target edge
  rw [List.idxOf_append_of_mem earlier, List.idxOf_append_of_notMem fresh]
  have bound := List.idxOf_lt_length_of_mem earlier
  omega

/-- A graph whose sources all occur in an ordered list has no cycle. -/
theorem Ordered.acyclic (covered : ∀ node target, Edge next node target → node ∈ list) : Acyclic next := by
  classical
  have smaller : ∀ first last, Relation.TransGen (Edge next) first last →
      list.idxOf last < list.idxOf first := by
    intro first last path
    induction path with
    | single edge => exact ordered.idxOf_lt (covered _ _ edge) edge
    | tail _ edge ih => exact (ordered.idxOf_lt (covered _ _ edge) edge).trans ih
  intro node cycle
  exact Nat.lt_irrefl _ (smaller node node cycle)

end Order

section Invariant
variable {nodes : Finset A} {rest : List A} {search : Search A}

/-- These nodes have not been opened yet. -/
def unseen [DecidableEq A] (nodes : Finset A) (search : Search A) : Finset A :=
  nodes.filter fun node => node ∉ search.stack ∧ node ∉ search.finished

/-- The invariant of a search inside a closed set of nodes. -/
structure Sound (next : A → List A) (nodes : Finset A) (search : Search A) : Prop where
  stackNodes : ∀ node ∈ search.stack, node ∈ nodes
  stackNodup : search.stack.Nodup
  stackChain : search.stack.IsChain (Edge next)
  apart : ∀ node ∈ search.stack, node ∉ search.finished
  finishedNodes : ∀ node ∈ search.finished, node ∈ nodes
  finishedNodup : search.finished.Nodup
  finishedOrdered : search.back = [] → Ordered next search.finished
  backCycle : search.back ≠ [] → ¬ Acyclic next

/-- A visit keeps the stack, finishes its node and never forgets a finished node. -/
structure Extends (next : A → List A) (nodes : Finset A) (search later : Search A) : Prop where
  sound : Sound next nodes later
  stack : later.stack = search.stack
  finished : ∀ node ∈ search.finished, node ∈ later.finished
  back : later.back = [] → search.back = []

theorem Extends.refl (sound : Sound next nodes search) : Extends next nodes search search :=
  ⟨sound, rfl, fun _ member => member, fun same => same⟩

theorem Extends.trans {first second third : Search A} (left : Extends next nodes first second)
    (right : Extends next nodes second third) : Extends next nodes first third :=
  ⟨right.sound, right.stack.trans left.stack,
    fun node member => right.finished node (left.finished node member),
    fun none => left.back (right.back none)⟩

theorem Extends.unseen_le [DecidableEq A] {later : Search A} (extends_ : Extends next nodes search later) :
    (unseen nodes later).card ≤ (unseen nodes search).card := by
  apply Finset.card_le_card
  intro node member
  simp only [unseen, Finset.mem_filter, extends_.stack] at member ⊢
  exact ⟨member.1, member.2.1, fun old => member.2.2 (extends_.finished node old)⟩

/-- A chain lets its last element be reached from every element. -/
theorem reaches_last {first last : A} (chain : (list ++ [last]).IsChain (Edge next))
    (member : first ∈ list ++ [last]) : Relation.ReflTransGen (Edge next) first last := by
  induction list generalizing first with
  | nil =>
      obtain rfl : first = last := by simpa using member
      exact .refl
  | cons head tail ih =>
      rw [List.cons_append] at chain member
      rcases List.mem_cons.mp member with rfl | later
      · cases tail with
        | nil => exact .single (List.isChain_cons_cons.mp chain).1
        | cons second rest =>
            have parts := List.isChain_cons_cons.mp chain
            exact .head parts.1 (ih parts.2 (by simp))
      · exact ih (chain.tail) later

theorem Sound.initial (next : A → List A) (nodes : Finset A) : Sound next nodes {} :=
  ⟨by simp, by simp, by simp, by simp, by simp, by simp, fun _ => Ordered.nil next, by simp⟩

section
variable (sound : Sound next nodes search)
include sound

/-- The opened search adds its node to the stack. -/
theorem Sound.opened (inside : node ∈ nodes)
    (fresh : node ∉ search.stack ∧ node ∉ search.finished) (chain : (search.stack ++ [node]).IsChain (Edge next)) :
    Sound next nodes { search with stack := search.stack ++ [node] } where
  stackNodes := by
    intro other member
    rcases List.mem_append.mp member with old | new
    · exact sound.stackNodes other old
    · rw [List.mem_singleton.mp new]
      exact inside
  stackNodup := List.nodup_append.mpr ⟨sound.stackNodup, List.nodup_singleton node, by
    intro first old second new equal
    rw [equal, List.mem_singleton.mp new] at old
    exact fresh.1 old⟩
  stackChain := chain
  apart := by
    intro other member
    rcases List.mem_append.mp member with old | new
    · exact sound.apart other old
    · rw [List.mem_singleton.mp new]
      exact fresh.2
  finishedNodes := sound.finishedNodes
  finishedNodup := sound.finishedNodup
  finishedOrdered := sound.finishedOrdered
  backCycle := sound.backCycle

/-- The closed search moves its node from the stack to the finish order. -/
theorem Sound.closed (top : search.stack = rest ++ [node])
    (successors : search.back = [] → ∀ target ∈ next node, target ∈ search.finished) :
    Sound next nodes { search with stack := search.stack.dropLast, finished := search.finished ++ [node] } := by
  have shorter : search.stack.dropLast = rest := by rw [top, List.dropLast_concat]
  have member : ∀ other ∈ rest, other ∈ search.stack := by
    intro other inside
    rw [top]
    exact List.mem_append_left _ inside
  have topMember : node ∈ search.stack := by rw [top]; simp
  have distinct := sound.stackNodup
  rw [top, List.nodup_append] at distinct
  refine ⟨?_, ?_, ?_, ?_, ?_, ?_, ?_, sound.backCycle⟩
  · intro other inside
    exact sound.stackNodes other (member other (shorter ▸ inside))
  · rw [shorter]
    exact distinct.1
  · have chain := sound.stackChain
    rw [top] at chain
    rw [shorter]
    exact chain.left_of_append
  · intro other inside
    rw [shorter] at inside
    simp only [List.mem_append, List.mem_singleton, not_or]
    exact ⟨sound.apart other (member other inside), distinct.2.2 other inside node (List.mem_singleton_self node)⟩
  · intro other inside
    rcases List.mem_append.mp inside with old | new
    · exact sound.finishedNodes other old
    · rw [List.mem_singleton.mp new]
      exact sound.stackNodes node topMember
  · refine List.nodup_append.mpr ⟨sound.finishedNodup, List.nodup_singleton node, ?_⟩
    intro first old second new equal
    rw [equal, List.mem_singleton.mp new] at old
    exact sound.apart node topMember old
  · intro none
    exact (sound.finishedOrdered none).snoc (successors none)

/-- A back edge closes a cycle through the stack. -/
theorem Sound.back (top : search.stack = rest ++ [node])
    (edge : Edge next node target) (open_ : target ∈ search.stack) :
    Sound next nodes { search with back := search.back ++ [(search.stack, target)] } where
  stackNodes := sound.stackNodes
  stackNodup := sound.stackNodup
  stackChain := sound.stackChain
  apart := sound.apart
  finishedNodes := sound.finishedNodes
  finishedNodup := sound.finishedNodup
  finishedOrdered := by simp
  backCycle := by
    intro _ acyclic
    have chain := sound.stackChain
    rw [top] at chain open_
    exact acyclic target (.tail' (reaches_last chain open_) edge)

end

variable [DecidableEq A]

theorem mem_unseen :
    node ∈ unseen nodes search ↔ node ∈ nodes ∧ node ∉ search.stack ∧ node ∉ search.finished := Finset.mem_filter

/-- An opened node is no longer unseen. -/
theorem card_unseen_opened (inside : node ∈ nodes) (fresh : node ∉ search.stack ∧ node ∉ search.finished) :
    (unseen nodes { search with stack := search.stack ++ [node] }).card < (unseen nodes search).card := by
  apply Finset.card_lt_card
  rw [Finset.ssubset_iff_of_subset]
  · refine ⟨node, mem_unseen.mpr ⟨inside, fresh⟩, ?_⟩
    simp [mem_unseen]
  · intro other member
    simp only [mem_unseen, List.mem_append, not_or] at member ⊢
    exact ⟨member.1, member.2.1.1, member.2.2⟩

/-- A visit of an unseen node keeps the invariant and finishes the node. -/
def Visits (next : A → List A) (nodes : Finset A) (fuel : Nat) : Prop :=
  ∀ (node : A) (search : Search A), Sound next nodes search → node ∈ nodes →
    node ∉ search.stack ∧ node ∉ search.finished → (search.stack ++ [node]).IsChain (Edge next) →
    (unseen nodes search).card ≤ fuel →
    Extends next nodes search (visit next fuel node search) ∧ node ∈ (visit next fuel node search).finished

/-- An edge of the top node is finished or closes a cycle. -/
theorem follow_extends {fuel : Nat} (recursive : Visits next nodes fuel) (sound : Sound next nodes search)
    (inside : target ∈ nodes) (chain : (search.stack ++ [target]).IsChain (Edge next))
    (enough : (unseen nodes search).card ≤ fuel) : Extends next nodes search (follow (visit next fuel) search target) ∧
      (target ∈ (follow (visit next fuel) search target).finished ∨
        target ∈ search.stack ∧ (follow (visit next fuel) search target).back ≠ []) := by
  unfold follow
  split
  · rename_i finished
    exact ⟨.refl sound, .inl finished⟩
  · rename_i unfinished
    split
    · rename_i opened
      rcases List.eq_nil_or_concat search.stack with empty | ⟨rest, node, top⟩
      · rw [empty] at opened
        cases opened
      · rw [List.concat_eq_append] at top
        rw [top, List.isChain_append] at chain
        have edge : Edge next node target := chain.2.2 node (by simp) target (by simp)
        exact ⟨⟨sound.back top edge opened, rfl, fun _ old => old, by simp⟩, .inr ⟨opened, by simp⟩⟩
    · rename_i unopened
      have visited := recursive target search sound inside ⟨unopened, unfinished⟩ chain enough
      exact ⟨visited.1, .inl visited.2⟩

omit [DecidableEq A] in
/-- The chain of the stack continues with an edge of its top. -/
theorem Sound.chain_edge (sound : Sound next nodes search) (top : search.stack = rest ++ [node])
    (edge : Edge next node target) : (search.stack ++ [target]).IsChain (Edge next) := by
  have old := sound.stackChain
  rw [top] at old ⊢
  rw [List.isChain_append]
  exact ⟨old, List.isChain_singleton target, by simpa using edge⟩

variable (closed : ∀ node ∈ nodes, ∀ target ∈ next node, target ∈ nodes)
include closed

/-- The loop over the successors of the top node finishes every successor or finds a cycle. -/
theorem foldl_follow_extends
    (fuel : Nat) (recursive : Visits next nodes fuel) (node : A) (rest : List A) (targets : List A) (search : Search A)
    (sound : Sound next nodes search) (top : search.stack = rest ++ [node])
    (edges : ∀ target ∈ targets, Edge next node target) (enough : (unseen nodes search).card ≤ fuel) :
    Extends next nodes search (targets.foldl (follow (visit next fuel)) search) ∧
      ((targets.foldl (follow (visit next fuel)) search).back = [] → ∀ target ∈ targets,
        target ∈ (targets.foldl (follow (visit next fuel)) search).finished) := by
  induction targets generalizing search with
  | nil => exact ⟨.refl sound, by simp⟩
  | cons target targets ih =>
      have edge := edges target List.mem_cons_self
      have inside := closed node (sound.stackNodes node (by rw [top]; simp)) target edge
      have step := follow_extends recursive sound inside (sound.chain_edge top edge) enough
      have later := ih (follow (visit next fuel) search target) step.1.sound
        (step.1.stack.trans top) (fun other member => edges other (List.mem_cons_of_mem _ member))
        (step.1.unseen_le.trans enough)
      refine ⟨step.1.trans later.1, ?_⟩
      intro none other member
      rcases List.mem_cons.mp member with rfl | older
      · rcases step.2 with finished | ⟨_, cycle⟩
        · exact later.1.finished _ finished
        · exact absurd (later.1.back none) cycle
      · exact later.2 none other older

/-- With fuel for every unseen node, a visit finishes its node and keeps the invariant. -/
theorem visit_extends (fuel : Nat) : Visits next nodes fuel := by
  intro node search sound inside fresh chain enough
  induction fuel generalizing node search with
  | zero =>
      have member : node ∈ unseen nodes search := mem_unseen.mpr ⟨inside, fresh⟩
      have positive := Finset.card_pos.mpr ⟨node, member⟩
      omega
  | succ fuel ih =>
      have opened := sound.opened inside fresh chain
      have fewer : (unseen nodes { search with stack := search.stack ++ [node] }).card ≤ fuel := by
        have smaller := card_unseen_opened inside fresh
        omega
      have loop := foldl_follow_extends closed fuel ih node search.stack (next node) _ opened rfl
        (fun target member => member) fewer
      have done := loop.1.sound.closed loop.1.stack loop.2
      refine ⟨⟨done, ?_, ?_, loop.1.back⟩, ?_⟩
      · simp only [visit, loop.1.stack, List.dropLast_concat]
      · intro other member
        exact List.mem_append_left _ (loop.1.finished other member)
      · simp [visit]

/-- The full search is sound, finishes every root and leaves an empty stack. -/
theorem searchAll_sound
    (fuel : Nat) (enough : nodes.card ≤ fuel) (roots : List A) (inside : ∀ root ∈ roots, root ∈ nodes) :
    Sound next nodes (searchAll next fuel roots) ∧
      ∀ root ∈ roots, root ∈ (searchAll next fuel roots).finished := by
  have general : ∀ (roots : List A) (search : Search A), (∀ root ∈ roots, root ∈ nodes) →
      Sound next nodes search → search.stack = [] →
      Extends next nodes search (roots.foldl (follow (visit next fuel)) search) ∧
        ∀ root ∈ roots, root ∈ (roots.foldl (follow (visit next fuel)) search).finished := by
    intro roots
    induction roots with
    | nil =>
        intro search _ sound _
        exact ⟨.refl sound, by simp⟩
    | cons root roots ih =>
        intro search inside sound empty
        have step := follow_extends (visit_extends closed fuel) sound (inside root List.mem_cons_self)
          (by simp [empty]) ((Finset.card_le_card (Finset.filter_subset _ _)).trans enough)
        have later := ih (follow (visit next fuel) search root)
          (fun other member => inside other (List.mem_cons_of_mem _ member)) step.1.sound
          (step.1.stack.trans empty)
        refine ⟨step.1.trans later.1, ?_⟩
        intro other member
        rcases List.mem_cons.mp member with rfl | older
        · rcases step.2 with finished | ⟨opened, _⟩
          · exact later.1.finished _ finished
          · rw [empty] at opened
            cases opened
        · exact later.2 other older
  have result := general roots {} inside (.initial next nodes) rfl
  exact ⟨result.1.sound, result.2⟩

/-- A full search from every source meets a back edge exactly when the graph has a cycle. -/
theorem searchAll_back_eq_nil_iff
    (fuel : Nat) (enough : nodes.card ≤ fuel) (roots : List A) (inside : ∀ root ∈ roots, root ∈ nodes)
    (covered : ∀ node target, Edge next node target → node ∈ roots) :
    (searchAll next fuel roots).back = [] ↔ Acyclic next := by
  obtain ⟨sound, covers⟩ := searchAll_sound closed fuel enough roots inside
  constructor
  · intro none
    apply (sound.finishedOrdered none).acyclic
    intro node target edge
    exact covers node (covered node target edge)
  · intro acyclic
    by_contra some
    exact sound.backCycle some acyclic

end Invariant

end OpenVehicle.DepthFirst
