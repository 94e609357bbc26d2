/-
This file defines texts that list entries of keys and values. It renders such a text from its fields,
and it parses the text with a decoder for the entries.
-/

import Mathlib.Algebra.GroupWithZero.Nat
import Mathlib.Data.List.Nodup
import Mathlib.Data.List.TakeDrop
import Mathlib.Data.List.Forall2

namespace OpenVehicle.Data.KeyValue

abbrev Text := List Char

def entry (field : Text × Text) : Text := field.1 ++ '=' :: field.2

def render : List (Text × Text) → Text
  | [] => []
  | [field] => entry field
  | field :: fields => entry field ++ ';' :: render fields

/-- A text that ends with a separator has no item after it. -/
def items (text : Text) : List Text :=
  if (text.splitOn ';').getLast? = some [] then (text.splitOn ';').dropLast else text.splitOn ';'

/-- An item has a key and a value, and none of them is empty. -/
def keyValue (item : Text) : Option (Text × Text) :=
  match item.span (· != '=') with
  | (_, []) => none
  | (key, _ :: value) => if key.isEmpty || value.isEmpty then none else some (key, value)

variable {fields : List (Text × Text)}

theorem render_cons (field : Text × Text) (more : fields ≠ []) :
    render (field :: fields) = entry field ++ ';' :: render fields := by
  cases fields with
  | nil => exact absurd rfl more
  | cons next fields => rfl

theorem entry_ne_nil (field : Text × Text) : entry field ≠ [] := by
  simp [entry]

/-- The parts of a text are those of its entries. -/
theorem splitOn_render (some : fields ≠ []) :
    (render fields).splitOn ';' = fields.flatMap fun field => (entry field).splitOn ';' := by
  induction fields with
  | nil => exact absurd rfl some
  | cons field fields ih =>
      by_cases last : fields = []
      · subst last
        simp [render]
      · rw [render_cons field last, List.splitOn_append_cons_self, ih last, List.flatMap_cons]

theorem items_render {front : List (Text × Text)} {last : Text × Text} (clean : ';' ∉ entry last) :
    items (render (front ++ [last])) = (front ++ [last]).flatMap fun field => (entry field).splitOn ';' := by
  have parts : (render (front ++ [last])).splitOn ';' =
      (front.flatMap fun field => (entry field).splitOn ';') ++ [entry last] := by
    rw [splitOn_render (by simp), List.flatMap_append, List.flatMap_singleton, List.splitOn_eq_singleton clean]
  rw [items, parts, List.getLast?_concat, if_neg (by simp [entry_ne_nil]), ← parts, splitOn_render (by simp)]

/-- Every entry without a separator is one item. -/
theorem items_render_clean (clean : ∀ field ∈ fields, ';' ∉ entry field) :
    items (render fields) = fields.map entry := by
  rcases List.eq_nil_or_concat fields with rfl | ⟨front, last, rfl⟩
  · rfl
  · rw [List.concat_eq_append] at clean ⊢
    rw [items_render (clean last (by simp)), List.map_eq_flatMap]
    apply List.flatMap_congr
    intro field found
    exact List.splitOn_eq_singleton (clean field found)

theorem span_ne {separator : Char} {text rest : Text} (clean : separator ∉ text) :
    (text ++ separator :: rest).span (· != separator) = (text, separator :: rest) := by
  rw [List.span_eq_takeWhile_dropWhile]
  have different : ∀ letter ∈ text, (letter != separator) = true :=
    fun letter found => bne_iff_ne.mpr fun same => clean (same ▸ found)
  rw [List.takeWhile_append_of_pos different, List.dropWhile_append_of_pos different]
  simp

theorem keyValue_entry {key value : Text} (clean : '=' ∉ key) (named : key ≠ []) (filled : value ≠ []) :
    keyValue (entry (key, value)) = some (key, value) := by
  rw [keyValue, entry, span_ne clean]
  simp [named, filled]

section Parse
variable {K M : Type} [DecidableEq K]

/-- A decoder tells the key of an entry and how the entry changes the result. -/
abbrev Decoder (K M : Type) := Text → Text → Except String (K × (M → M))

/-- A key occurs at most once. -/
def step (decode : Decoder K M) (state : M × List K) (item : Text) : Except String (M × List K) :=
  match keyValue item with
  | none => .error "mapping entries must be key=value"
  | some (key, value) =>
      match decode key value with
      | .error error => .error error
      | .ok (name, change) =>
          if name ∈ state.2 then .error "duplicate mapping key" else .ok (change state.1, name :: state.2)

def parse (decode : Decoder K M) (initial : M) (text : Text) : Except String (M × List K) :=
  (items text).foldlM (step decode) (initial, [])

variable {decode : Decoder K M}

/-- The decoder accepts an item. -/
def Decodes (decode : Decoder K M) (item : Text) (decoded : K × (M → M)) : Prop :=
  ∃ key value, keyValue item = some (key, value) ∧ decode key value = .ok decoded

def apply (changes : List (K × (M → M))) (initial : M) : M :=
  changes.foldl (fun result change => change.2 result) initial

variable {state final : M × List K}

theorem step_eq_ok {item : Text} : step decode state item = .ok final ↔
    ∃ decoded, Decodes decode item decoded ∧ decoded.1 ∉ state.2 ∧
      final = (decoded.2 state.1, decoded.1 :: state.2) := by
  unfold step Decodes
  constructor
  · intro stepped
    split at stepped
    · cases stepped
    · rename_i key value found
      split at stepped
      · cases stepped
      · rename_i name change accepted
        split at stepped
        · cases stepped
        · rename_i fresh
          cases stepped
          exact ⟨_, ⟨key, value, found, accepted⟩, fresh, rfl⟩
  · rintro ⟨decoded, ⟨key, value, found, accepted⟩, fresh, rfl⟩
    simp only [found, accepted, if_neg fresh]

theorem foldlM_step {items : List Text} :
    items.foldlM (step decode) state = .ok final ↔ ∃ decoded, List.Forall₂ (Decodes decode) items decoded ∧
      (decoded.map Prod.fst).Nodup ∧ (∀ change ∈ decoded, change.1 ∉ state.2) ∧
        final = (apply decoded state.1, (decoded.map Prod.fst).reverse ++ state.2) := by
  induction items generalizing state with
  | nil =>
      constructor
      · intro folded
        cases folded
        exact ⟨[], .nil, List.nodup_nil, by simp, rfl⟩
      · rintro ⟨decoded, all, _, _, rfl⟩
        cases all
        rfl
  | cons item items ih =>
      rw [List.foldlM_cons]
      constructor
      · intro folded
        cases stepped : step decode state item with
        | error error =>
            rw [stepped] at folded
            cases folded
        | ok next =>
            rw [stepped] at folded
            obtain ⟨first, accepted, fresh, rfl⟩ := step_eq_ok.mp stepped
            obtain ⟨decoded, all, distinct, others, rfl⟩ := ih.mp folded
            refine ⟨first :: decoded, .cons accepted all, ?_, ?_, ?_⟩
            · rw [List.map_cons, List.nodup_cons]
              refine ⟨fun again => ?_, distinct⟩
              obtain ⟨change, found, same⟩ := List.mem_map.mp again
              exact others change found (same ▸ List.mem_cons_self)
            · intro change found
              rcases List.mem_cons.mp found with rfl | later
              · exact fresh
              · exact fun seen => others change later (List.mem_cons_of_mem _ seen)
            · simp [apply]
      · rintro ⟨decoded, all, distinct, fresh, rfl⟩
        cases all with
        | @cons _ first _ decoded accepted all =>
            rw [List.map_cons, List.nodup_cons] at distinct
            rw [step_eq_ok.mpr ⟨first, accepted, fresh first List.mem_cons_self, rfl⟩]
            apply ih.mpr
            refine ⟨decoded, all, distinct.2, fun change found seen => ?_, by simp [apply]⟩
            rcases List.mem_cons.mp seen with same | seen
            · exact distinct.1 (List.mem_map.mpr ⟨change, found, same⟩)
            · exact fresh change (List.mem_cons_of_mem _ found) seen

/-- A text is parsed when every item is decoded and no key occurs twice. -/
theorem parse_eq_ok {initial result : M} {seen : List K} {text : Text} :
    parse decode initial text = .ok (result, seen) ↔ ∃ decoded, List.Forall₂ (Decodes decode) (items text) decoded ∧
      (decoded.map Prod.fst).Nodup ∧ result = apply decoded initial ∧ seen = (decoded.map Prod.fst).reverse := by
  rw [parse, foldlM_step]
  simp

end Parse

def digits (number : Nat) : Text := Nat.toDigits 10 number

/-- A number has decimal digits only, and it is at most the limit. -/
def unsigned (limit : Nat) (text : Text) : Option Nat :=
  if text ≠ [] ∧ text.all Char.isDigit = true ∧ Nat.ofDigitChars 10 text 0 ≤ limit then
    some (Nat.ofDigitChars 10 text 0)
  else none

theorem digits_ne_nil (number : Nat) : digits number ≠ [] := Nat.toDigits_ne_nil

theorem isDigit_of_mem_digits {letter : Char} {number : Nat} (found : letter ∈ digits number) :
    letter.isDigit = true := Nat.isDigit_of_mem_toDigits (by decide) (by decide) found

theorem unsigned_digits (limit number : Nat) :
    unsigned limit (digits number) = if number ≤ limit then some number else none := by
  have all : (digits number).all Char.isDigit = true := List.all_eq_true.mpr fun _ => isDigit_of_mem_digits
  have value : Nat.ofDigitChars 10 (digits number) 0 = number := Nat.ofDigitChars_ten_toDigits
  simp [unsigned, digits_ne_nil, all, value]

theorem separator_notMem_digits (number : Nat) : ';' ∉ digits number := by
  intro found
  have digit := isDigit_of_mem_digits found
  revert digit
  decide

section RoundTrip
variable {K M : Type} [DecidableEq K] {decode : Decoder K M}

/-- The key of a field has no separator, the value does not end the field, and none of them is empty. -/
structure Clean (field : Text × Text) : Prop where
  named : field.1 ≠ []
  filled : field.2 ≠ []
  key : '=' ∉ field.1
  apart : ';' ∉ entry field

theorem Clean.keyValue {field : Text × Text} (clean : Clean field) : keyValue (entry field) = some field :=
  keyValue_entry clean.key clean.named clean.filled

theorem clean_digits {key : Text} (named : key ≠ []) (plain : '=' ∉ key ∧ ';' ∉ key) (number : Nat) :
    Clean (key, digits number) where
  named := named
  filled := digits_ne_nil number
  key := plain.1
  apart := by simp [entry, plain.2, separator_notMem_digits]

/-- A text of clean fields with different keys is parsed to the changes that its fields make. -/
theorem parse_render {changes : List (K × (M → M))} (initial : M) (clean : ∀ field ∈ fields, Clean field)
    (decoded : List.Forall₂ (fun field change => decode field.1 field.2 = .ok change) fields changes)
    (distinct : (changes.map Prod.fst).Nodup) :
    parse decode initial (render fields) = .ok (apply changes initial, (changes.map Prod.fst).reverse) := by
  rw [parse_eq_ok]
  refine ⟨changes, ?_, distinct, rfl, rfl⟩
  rw [items_render_clean fun field found => (clean field found).apart, List.forall₂_map_left_iff]
  induction decoded with
  | nil => exact .nil
  | @cons field change fields changes first rest ih =>
      refine .cons ⟨_, _, (clean field List.mem_cons_self).keyValue, first⟩ ?_
      apply ih
      · intro later found
        exact clean later (List.mem_cons_of_mem _ found)
      · exact (List.nodup_cons.mp distinct).2

end RoundTrip

end OpenVehicle.Data.KeyValue
