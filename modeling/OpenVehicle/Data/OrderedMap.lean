/-
This file extends the extensional maps of the library with a weight and an ascending enumeration.
-/

import Mathlib.Data.Finmap
import Mathlib.Data.List.Lex
import OpenVehicle.Data.FiniteMap

namespace OpenVehicle.OrderedMap

/-- Bytes are ordered by their numbers. -/
instance linearOrderUInt8 : LinearOrder UInt8 where
  le_refl := UInt8.le_refl
  le_trans := fun _ _ _ => UInt8.le_trans
  lt_iff_le_not_ge := fun first second => by
    rw [UInt8.lt_iff_toNat_lt, UInt8.le_iff_toNat_le, UInt8.le_iff_toNat_le]
    omega
  le_antisymm := fun _ _ => UInt8.le_antisymm
  le_total := UInt8.le_total
  toDecidableLE := inferInstance

/-- A finite map that is determined by its entries. -/
abbrev Table (Key Value : Type) := Finmap (fun _ : Key => Value)

variable {Key Value : Type} [DecidableEq Key]

section Weight
variable (measure : Key → Value → Nat) (table : Table Key Value) (key : Key) (value : Value)

/-- The weight of a table adds the measures of its entries. -/
def weight : Nat := (table.entries.map fun entry => measure entry.1 entry.2).sum

def count : Nat := table.entries.card

theorem weight_insert : weight measure (table.insert key value) =
    measure key value + weight measure (table.erase key) := by
  induction table using Finmap.induction_on with
  | H list =>
      rw [Finmap.insert_toFinmap, Finmap.erase_toFinmap]
      rfl

theorem count_insert : count (table.insert key value) = count (table.erase key) + 1 := by
  induction table using Finmap.induction_on with
  | H list =>
      rw [Finmap.insert_toFinmap, Finmap.erase_toFinmap]
      rfl

theorem entries_erase_le : (table.erase key).entries ≤ table.entries := by
  induction table using Finmap.induction_on with
  | H list =>
      rw [Finmap.erase_toFinmap]
      exact (List.kerase_sublist key list.entries).subperm

theorem weight_erase_le : weight measure (table.erase key) ≤ weight measure table := by
  obtain ⟨rest, same⟩ := Multiset.le_iff_exists_add.mp (entries_erase_le table key)
  rw [weight, weight, same, Multiset.map_add, Multiset.sum_add]
  exact Nat.le_add_right _ _

theorem count_erase_le : count (table.erase key) ≤ count table := Multiset.card_le_card (entries_erase_le table key)

end Weight

section All
variable (test : Key → Value → Prop) {table : Table Key Value} {key : Key} {value : Value}

/-- Every entry of the table passes the test. -/
def All (table : Table Key Value) : Prop := ∀ key value, table.lookup key = some value → test key value

variable {test}

theorem all_empty : All test (∅ : Table Key Value) := by
  intro key value found
  rw [Finmap.lookup_empty] at found
  cases found

theorem all_insert (all : All test table) (passes : test key value) : All test (table.insert key value) := by
  intro other content found
  by_cases same : other = key
  · subst same
    rw [Finmap.lookup_insert] at found
    cases found
    exact passes
  · rw [Finmap.lookup_insert_of_ne _ same] at found
    exact all other content found

theorem all_erase (all : All test table) : All test (table.erase key) := by
  intro other content found
  by_cases same : other = key
  · subst same
    rw [Finmap.lookup_erase] at found
    cases found
  · rw [Finmap.lookup_erase_ne same] at found
    exact all other content found

end All

section Enumeration
variable {Key : Type} [LinearOrder Key] (table : Table Key Value)

/-- The entries of a table in the ascending order of their keys. -/
def ascending : List (Key × Value) :=
  (FiniteMap.sorted table.keys).filterMap fun key => (table.lookup key).map fun value => (key, value)

theorem mem_ascending (entry : Key × Value) : entry ∈ ascending table ↔ table.lookup entry.1 = some entry.2 := by
  rw [ascending, List.mem_filterMap]
  constructor
  · intro listed
    obtain ⟨key, _, same⟩ := listed
    obtain ⟨value, found, rfl⟩ := Option.map_eq_some_iff.mp same
    exact found
  · intro found
    refine ⟨entry.1, ?_, by rw [found]; rfl⟩
    rw [FiniteMap.mem_sorted, Finmap.mem_keys]
    exact Finmap.mem_of_lookup_eq_some found

theorem pairwise_ascending : (ascending table).Pairwise fun first second => first.1 < second.1 := by
  rw [ascending, List.pairwise_filterMap]
  refine (FiniteMap.pairwise_sorted table.keys).imp fun below first firstFound second secondFound => ?_
  obtain ⟨_, _, rfl⟩ := Option.map_eq_some_iff.mp firstFound
  obtain ⟨_, _, rfl⟩ := Option.map_eq_some_iff.mp secondFound
  exact below

end Enumeration

section Prefixes
variable {A Value : Type} [LinearOrder A] {start first second : List A}

theorem cons_le_cons_iff {head next : A} :
    head :: first ≤ next :: second ↔ head < next ∨ head = next ∧ first ≤ second := by
  rw [← not_lt, ← not_lt, List.cons_lt_cons_iff, not_or, not_and, not_lt]
  constructor
  · intro bounds
    rcases lt_or_eq_of_le bounds.1 with below | same
    · exact .inl below
    · exact .inr ⟨same, bounds.2 same.symm⟩
  · intro cases
    rcases cases with below | ⟨rfl, rest⟩
    · exact ⟨le_of_lt below, fun same => absurd below (same ▸ lt_irrefl _)⟩
    · exact ⟨le_rfl, fun _ => rest⟩

/-- A list comes after each list that it continues. -/
theorem le_of_begins (continued : start <+: first) : start ≤ first := by
  obtain ⟨rest, rfl⟩ := continued
  induction start with
  | nil => exact not_lt.mp (List.not_lt_nil _)
  | cons head start ih => exact cons_le_cons_iff.mpr (.inr ⟨rfl, ih⟩)

/-- The lists that continue a given one stand next to each other. -/
theorem not_prefix_of_le (above : start ≤ first) (other : ¬start <+: first) (later : first ≤ second) :
    ¬start <+: second := by
  intro continued
  induction start generalizing first second with
  | nil => exact other List.nil_prefix
  | cons head start ih =>
      obtain ⟨rest, rfl⟩ := continued
      cases first with
      | nil => exact absurd (List.nil_lt_cons head start) (not_lt.mpr above)
      | cons next first =>
          rw [List.cons_append, cons_le_cons_iff] at later
          rw [cons_le_cons_iff] at above
          rw [List.cons_prefix_cons] at other
          rcases above with below | ⟨rfl, above⟩
          · rcases later with further | ⟨rfl, _⟩
            · exact lt_asymm below further
            · exact lt_irrefl _ below
          · rcases later with further | ⟨_, later⟩
            · exact lt_irrefl _ further
            · exact ih above (fun continued => other ⟨rfl, continued⟩) later (List.prefix_append _ _)

variable {entries : List (List A × Value)}

variable (ordered : entries.Pairwise fun first second => first.1 < second.1)
include ordered

theorem takeWhile_eq_filter
    (above : ∀ entry ∈ entries, start ≤ entry.1) : entries.takeWhile (fun entry => start.isPrefixOf entry.1) =
      entries.filter fun entry => start.isPrefixOf entry.1 := by
  induction entries with
  | nil => rfl
  | cons entry entries ih =>
      obtain ⟨below, ordered⟩ := List.pairwise_cons.mp ordered
      cases continued : start.isPrefixOf entry.1 with
      | true =>
          have rest := ih ordered fun other listed => above other (List.mem_cons_of_mem _ listed)
          rw [List.takeWhile_cons, List.filter_cons, continued, if_pos rfl, if_pos rfl, rest]
      | false =>
          rw [List.takeWhile_cons, List.filter_cons, continued, if_neg Bool.false_ne_true, if_neg Bool.false_ne_true]
          refine (List.filter_eq_nil_iff.mpr fun other listed => ?_).symm
          rw [List.isPrefixOf_iff_prefix]
          refine not_prefix_of_le (above entry List.mem_cons_self) ?_ (le_of_lt (below other listed))
          rw [← List.isPrefixOf_iff_prefix, continued]
          exact Bool.false_ne_true

/-- A scan from a key up to the first key that does not continue it finds all keys that do. -/
theorem scan_eq_filter :
    (entries.dropWhile fun entry => entry.1 < start).takeWhile (fun entry => start.isPrefixOf entry.1) =
      entries.filter fun entry => start.isPrefixOf entry.1 := by
  induction entries with
  | nil => rfl
  | cons entry entries ih =>
      obtain ⟨below, rest⟩ := List.pairwise_cons.mp ordered
      by_cases early : entry.1 < start
      · have other : ¬start.isPrefixOf entry.1 = true := by
          rw [List.isPrefixOf_iff_prefix]
          exact fun continued => absurd early (not_lt_of_ge (le_of_begins continued))
        rw [List.dropWhile_cons, if_pos (decide_eq_true early), List.filter_cons, if_neg other, ih rest]
      · rw [List.dropWhile_cons, if_neg (by simpa using early)]
        refine takeWhile_eq_filter ordered fun other listed => ?_
        rcases List.mem_cons.mp listed with rfl | listed
        · exact not_lt.mp early
        · exact le_of_lt (lt_of_le_of_lt (not_lt.mp early) (below other listed))

end Prefixes

end OpenVehicle.OrderedMap
