/-
This file follows the loop of a migration: what one iteration does, and what the loop has staged when it runs,
fails or ends.
-/

import OpenVehicle.Per.Absence
import OpenVehicle.Per.Migrate

namespace OpenVehicle.Per.Runtime

open Memory (Backend StoreData stage)
open OrderedMap (count)

variable {transform : Entries} {checkpoint : Bytes}

section Staging

/-- The store accepts the target of an entry. -/
def Accepts (store : StoreData) (staged : Values) (target : Option (Bytes × Bytes)) : Prop :=
  ¬(target.any fun entry => entry.1 == [] || decide (entry.1.length > store.maxKeySize) ||
    decide (entry.2.length > store.maxValueSize)) = true ∧
  ¬(count (stage staged target) > store.maxEntries ∨ totalSize (stage staged target) > store.capacity)

/-- The entries are transformed and staged one after the other. -/
inductive Stages (store : StoreData) (transform : Entries) : Values → List (Bytes × Bytes) → Values → Prop
  | nil {staged : Values} : Stages store transform staged [] staged
  | cons {staged last : Values} {source : Bytes × Bytes} {target : Option (Bytes × Bytes)}
      {rest : List (Bytes × Bytes)} (transformed : transform source = .ok target)
      (accepted : Accepts store staged target) (remaining : Stages store transform (stage staged target) rest last) :
      Stages store transform staged (source :: rest) last

variable {store : StoreData} {staged last : Values} {first second : List (Bytes × Bytes)}

theorem Stages.split (stages : Stages store transform staged (first ++ second) last) :
    ∃ middle, Stages store transform staged first middle ∧ Stages store transform middle second last := by
  induction first generalizing staged with
  | nil => exact ⟨staged, .nil, stages⟩
  | cons source rest ih =>
      cases stages with
      | cons transformed accepted remaining =>
          obtain ⟨middle, front, back⟩ := ih remaining
          exact ⟨middle, .cons transformed accepted front, back⟩

/-- The checkpoint is the key of the last entry that was applied. -/
def lastKey (checkpoint : Bytes) (applied : List (Bytes × Bytes)) : Bytes :=
  applied.foldl (fun _ entry => entry.1) checkpoint

/-- An entry is due beyond the checkpoint. -/
theorem skips_eq_false {key : Bytes} : skips checkpoint key = false ↔ checkpoint = [] ∨ checkpoint < key := by
  rw [skips, Bool.and_eq_false_iff, bne_eq_false_iff_eq, Bool.not_eq_false', decide_eq_true_iff]

/-- The entries that the migration has to apply from the checkpoint on. -/
def remaining (checkpoint : Bytes) (entries : List (Bytes × Bytes)) : List (Bytes × Bytes) :=
  entries.filter fun entry => !skips checkpoint entry.1

variable {entry : Bytes × Bytes}

theorem remaining_skip (entries : List (Bytes × Bytes)) (skipped : skips checkpoint entry.1 = true) :
    remaining checkpoint (entry :: entries) = remaining checkpoint entries := by
  rw [remaining, List.filter_cons, skipped]
  rfl

theorem remaining_due (entries : List (Bytes × Bytes)) (due : skips checkpoint entry.1 = false) :
    remaining checkpoint (entry :: entries) = entry :: remaining checkpoint entries := by
  rw [remaining, List.filter_cons, due]
  rfl

end Staging

variable {error : Error}

section Iterations
variable {name : String} {base : StoreData} {entries : List (Bytes × Bytes)} {position : Nat}
variable {staged : Values} {entered runtime : Runtime} {walk : Walk}

/-- The data of a store during its migration. -/
def Staged (base : StoreData) (checkpoint : Bytes) (staged : Values) (data : StoreData) : Prop :=
  ∃ processed active, data =
    { base with
      migrationValues := staged
      migrationCheckpoint := checkpoint
      migrationProcessed := processed
      migrationHandleActive := active }

/-- The iterations keep the stores of the application and its other transactions. -/
structure Surrounding (entered runtime : Runtime) : Prop where
  running : runtime.running = entered.running
  storeHandles : runtime.backend.storeHandles = entered.backend.storeHandles
  transactions : runtime.backend.transactions = entered.backend.transactions
  maxTransactions : runtime.backend.maxTransactions = entered.backend.maxTransactions
  nextHandle : runtime.backend.nextHandle = entered.backend.nextHandle

/-- The state of the loop. The cursor is at a position, and the store has a checkpoint and staged values. -/
structure Looping (entered : Runtime) (name : String) (base : StoreData) (entries : List (Bytes × Bytes))
    (position : Nat) (checkpoint : Bytes) (staged : Values) (runtime : Runtime) (walk : Walk) : Prop where
  surrounding : Surrounding entered runtime
  migration : ∃ durability, runtime.backend.migrations.lookup walk.migration = some ⟨name, durability⟩
  cursor : runtime.backend.cursors.lookup walk.cursor = some ⟨entries, position⟩
  valid : walk.cursor ≠ 0
  data : Staged base checkpoint staged (runtime.backend.data name)

/-- A cursor moves by one position. -/
def pastEntry (runtime : Runtime) (walk : Walk) (entries : List (Bytes × Bytes)) (position : Nat) : Runtime :=
  { runtime with backend.cursors := runtime.backend.cursors.insert walk.cursor ⟨entries, position + 1⟩ }

section
variable (looping : Looping entered name base entries position checkpoint staged runtime walk)
include looping

theorem Looping.moved : Looping entered name base entries (position + 1) checkpoint staged
      (pastEntry runtime walk entries position) walk where
  surrounding := ⟨looping.surrounding.running, looping.surrounding.storeHandles, looping.surrounding.transactions,
    looping.surrounding.maxTransactions, looping.surrounding.nextHandle⟩
  migration := looping.migration
  cursor := AList.lookup_insert _
  valid := looping.valid
  data := looping.data

/-- The counters of the loop do not matter for its state. -/
theorem Looping.counted (processed calls : Nat) : Looping entered name base entries position checkpoint staged runtime
      { walk with processed := processed, calls := calls } :=
  ⟨looping.surrounding, looping.migration, looping.cursor, looping.valid, looping.data⟩

theorem Looping.next
    (named : ∀ entry ∈ entries, entry.1 ≠ []) : runtime.next walk.cursor = match entries[position]? with
      | none => (.ok none, runtime)
      | some entry => (.ok (some entry), pastEntry runtime walk entries position) :=
  next_found looping.valid looping.cursor named

end

/-- The state of the store after one more entry. -/
def appliedTo (runtime : Runtime) (name : String) (source : Bytes) (staged : Values) : Runtime :=
  { runtime with backend := runtime.backend.update name (Memory.applyData source staged) }

theorem Looping.applied (looping : Looping entered name base entries position checkpoint staged runtime walk)
    (source : Bytes) (values : Values) :
    Looping entered name base entries position source values (appliedTo runtime name source values) walk where
  surrounding := ⟨looping.surrounding.running, looping.surrounding.storeHandles, looping.surrounding.transactions,
    looping.surrounding.maxTransactions, looping.surrounding.nextHandle⟩
  migration := looping.migration
  cursor := looping.cursor
  valid := looping.valid
  data := by
    obtain ⟨before, active, same⟩ := looping.data
    refine ⟨before + 1, active, ?_⟩
    change (runtime.backend.update name (Memory.applyData source values)).data name = _
    rw [Backend.data_update, if_pos rfl, same]
    rfl

/-- The provider stages the target of an entry beyond the checkpoint when it accepts it. -/
theorem applyMigration_spec (looping : Looping entered name base entries position checkpoint staged runtime walk)
    {source : Bytes} (filled : source ≠ []) (beyond : checkpoint = [] ∨ checkpoint < source)
    (target : Option (Bytes × Bytes)) :
    (Accepts base staged target → Memory.applyMigration runtime.backend walk.migration source target =
      (.ok (), (appliedTo runtime name source (stage staged target)).backend)) ∧
    (¬Accepts base staged target → ∃ failure,
      Memory.applyMigration runtime.backend walk.migration source target = (.error failure, runtime.backend)) := by
  obtain ⟨durability, found⟩ := looping.migration
  obtain ⟨processed, active, same⟩ := looping.data
  have later : ¬(checkpoint ≠ [] ∧ source ≤ checkpoint) := by
    intro late
    rcases beyond with empty | below
    · exact late.1 empty
    · exact absurd below (not_lt.mpr late.2)
  rw [Memory.applyMigration, if_neg filled, found]
  dsimp only
  rw [same]
  dsimp only
  rw [if_neg later]
  constructor
  · intro accepted
    rw [if_neg accepted.1, if_neg accepted.2]
    rfl
  · intro refused
    split
    · exact ⟨_, rfl⟩
    · rename_i valid
      split
      · exact ⟨_, rfl⟩
      · rename_i fits
        exact absurd ⟨valid, fits⟩ refused

section Steps
variable (looping : Looping entered name base entries position checkpoint staged runtime walk)
  (named : ∀ entry ∈ entries, entry.1 ≠ []) (apply : Transform) {source : Bytes × Bytes}
include looping named

theorem step_end (ended : entries[position]? = none) : step apply runtime walk = .exhausted walk runtime := by
  rw [step, looping.next named, ended]

theorem step_skip (here : entries[position]? = some source) (skipped : skips walk.checkpoint source.1 = true) :
    step apply runtime walk = .advanced walk (pastEntry runtime walk entries position) none := by
  rw [step, looping.next named, here]
  dsimp only
  rw [if_pos skipped]

theorem step_fail (here : entries[position]? = some source)
    (due : skips walk.checkpoint source.1 = false) (failed : apply walk.calls source = .error error) :
    step apply runtime walk = .failed error ((pastEntry runtime walk entries position).abandon walk) := by
  rw [step, looping.next named, here]
  dsimp only
  rw [due, if_neg Bool.false_ne_true, failed]

variable {target : Option (Bytes × Bytes)}

theorem step_transformed (here : entries[position]? = some source)
    (due : skips walk.checkpoint source.1 = false) (transformed : apply walk.calls source = .ok target) :
    step apply runtime walk =
      match (pastEntry runtime walk entries position).relay id
        (Memory.applyMigration (pastEntry runtime walk entries position).backend walk.migration source.1 target) with
      | (.error error, later) => .failed error (later.abandon walk)
      | (.ok _, later) =>
          .advanced { walk with processed := walk.processed + 1, calls := walk.calls + 1 } later (some source) := by
  rw [step, looping.next named, here]
  dsimp only
  rewrite [due, if_neg Bool.false_ne_true, transformed]
  rfl

/-- The provider checks the target of an entry beyond the checkpoint. -/
theorem step_apply (here : entries[position]? = some source)
    (due : skips walk.checkpoint source.1 = false) (beyond : checkpoint = [] ∨ checkpoint < source.1)
    (transformed : apply walk.calls source = .ok target) : (Accepts base staged target → step apply runtime walk =
      .advanced { walk with processed := walk.processed + 1, calls := walk.calls + 1 }
        (appliedTo (pastEntry runtime walk entries position) name source.1 (stage staged target)) (some source)) ∧
    (¬Accepts base staged target → ∃ error later, step apply runtime walk = .failed error later) := by
  have filled : source.1 ≠ [] := named source (List.mem_of_getElem? here)
  obtain ⟨accepts, refuses⟩ := applyMigration_spec looping.moved filled beyond target
  have performed := step_transformed looping named apply here due transformed
  constructor
  · intro accepted
    rw [performed, accepts accepted]
    rfl
  · intro refused
    obtain ⟨failure, answered⟩ := refuses refused
    rw [performed, answered]
    exact ⟨_, _, rfl⟩

end Steps

section Loops
variable {apply : Transform} {count : Nat}

theorem loop_add (first second : Nat) (runtime : Runtime) (walk : Walk) :
    loop apply (first + second) runtime walk = match loop apply first runtime walk with
      | (.running walk later, applied) =>
          ((loop apply second later walk).1, applied ++ (loop apply second later walk).2)
      | other => other := by
  induction first generalizing runtime walk with
  | zero =>
      rw [Nat.zero_add]
      rfl
  | succ first ih =>
      rw [Nat.succ_add, loop, loop]
      cases step apply runtime walk with
      | exhausted walk later => rfl
      | failed error later => rfl
      | advanced walk later applied =>
          dsimp only
          rw [ih]
          rcases loop apply first later walk with ⟨position, list⟩
          cases position with
          | running walk ended =>
              dsimp only
              rw [List.append_assoc]
          | exhausted walk ended => rfl
          | failed error ended => rfl

/-- The entries from the position on that have to be applied are beyond the checkpoint of the store. -/
def Beyond (start : Bytes) (entries : List (Bytes × Bytes)) (position : Nat) (checkpoint : Bytes) : Prop :=
  ∀ entry ∈ entries.drop position, skips start entry.1 = false → checkpoint = [] ∨ checkpoint < entry.1

variable {start : Bytes}

theorem Beyond.moved (beyond : Beyond start entries position checkpoint) :
    Beyond start entries (position + 1) checkpoint := by
  intro entry listed
  rw [← List.drop_drop] at listed
  exact beyond entry (List.mem_of_mem_drop listed)

/-- The keys after an applied one are beyond it. -/
theorem beyond_applied (ordered : entries.Pairwise fun first second => first.1 < second.1)
    (inside : position < entries.length) : Beyond start entries (position + 1) entries[position].1 := by
  intro entry listed _
  have rest : (entries.drop position).Pairwise fun first second => first.1 < second.1 := ordered.drop
  rw [List.drop_eq_getElem_cons inside, List.pairwise_cons] at rest
  exact .inr (rest.1 entry listed)

variable {last : Values}

/-- The iterations apply the entries that are due, one after the other. -/
theorem loop_running (named : ∀ entry ∈ entries, entry.1 ≠ [])
    (ordered : entries.Pairwise fun first second => first.1 < second.1) (count : Nat)
    (looping : Looping entered name base entries position checkpoint staged runtime walk)
    (bound : position + count ≤ entries.length) (beyond : Beyond walk.checkpoint entries position checkpoint)
    (stages : Stages base transform staged (remaining walk.checkpoint ((entries.drop position).take count)) last)
    (agrees : ∀ index, index <
      walk.calls + (remaining walk.checkpoint ((entries.drop position).take count)).length → apply index = transform) :
    ∃ later processed, loop apply count runtime walk = (.running { walk with processed := processed, calls :=
          walk.calls + (remaining walk.checkpoint ((entries.drop position).take count)).length } later,
        remaining walk.checkpoint ((entries.drop position).take count)) ∧
      Looping entered name base entries (position + count)
        (lastKey checkpoint (remaining walk.checkpoint ((entries.drop position).take count))) last later walk ∧
      Beyond walk.checkpoint entries (position + count)
        (lastKey checkpoint (remaining walk.checkpoint ((entries.drop position).take count))) := by
  induction count generalizing position checkpoint staged runtime walk with
  | zero =>
      cases stages
      exact ⟨runtime, walk.processed, rfl, looping, beyond⟩
  | succ count ih =>
      have inside : position < entries.length := by omega
      have here : entries[position]? = some entries[position] := List.getElem?_eq_getElem inside
      have shift : position + (count + 1) = position + 1 + count := by omega
      rw [List.drop_eq_getElem_cons inside, List.take_succ_cons] at stages agrees ⊢
      cases due : skips walk.checkpoint entries[position].1 with
      | true =>
          rw [remaining_skip _ due] at stages agrees ⊢
          rw [loop, step_skip looping named _ here due, shift]
          exact ih looping.moved (by omega) beyond.moved stages agrees
      | false =>
          rw [remaining_due _ due] at stages agrees ⊢
          cases stages with
          | @cons _ _ _ target _ transformed accepted rest =>
              have asked : apply walk.calls entries[position] = .ok target := by
                rw [agrees walk.calls (by simp), transformed]
              have applied := (step_apply looping named apply here due (beyond _ (by
                rw [List.drop_eq_getElem_cons inside]
                exact List.mem_cons_self) due) asked).1 accepted
              obtain ⟨later, processed, ran, after, further⟩ := ih
                ((looping.moved.applied entries[position].1 (stage staged target)).counted (walk.processed + 1)
                  (walk.calls + 1)) (by omega) (beyond_applied ordered inside) rest (fun index below =>
                    agrees index (by rw [List.length_cons]; dsimp only at below; omega))
              rw [loop, applied, shift]
              dsimp only at ran ⊢
              rw [ran]
              refine ⟨later, processed, ?_, after.counted walk.processed walk.calls, further⟩
              rw [List.length_cons, Nat.add_assoc, Nat.add_comm 1]
              rfl

/-- Enough iterations reach the end of the entries. -/
theorem loop_exhausted (named : ∀ entry ∈ entries, entry.1 ≠ [])
    (ordered : entries.Pairwise fun first second => first.1 < second.1)
    (looping : Looping entered name base entries 0 checkpoint staged runtime walk) (enough : entries.length < count)
    (beyond : Beyond walk.checkpoint entries 0 checkpoint)
    (stages : Stages base transform staged (remaining walk.checkpoint entries) last)
    (agrees : ∀ index, index < walk.calls + (remaining walk.checkpoint entries).length → apply index = transform) :
    ∃ later processed calls, loop apply count runtime walk =
      (.exhausted { walk with processed := processed, calls := calls } later, remaining walk.checkpoint entries) ∧
      Looping entered name base entries entries.length (lastKey checkpoint (remaining walk.checkpoint entries)) last
        later walk := by
  have whole : (entries.drop 0).take entries.length = entries := by rw [List.drop_zero, List.take_length]
  obtain ⟨extra, rfl⟩ := Nat.exists_eq_add_of_lt enough
  obtain ⟨later, processed, ran, after, _⟩ := loop_running named ordered entries.length looping
    (Nat.le_of_eq (Nat.zero_add _)) beyond (by rwa [whole]) (by rwa [whole])
  rw [whole, Nat.zero_add] at after
  rw [whole] at ran
  refine ⟨later, processed, walk.calls + (remaining walk.checkpoint entries).length, ?_, after⟩
  rw [Nat.add_assoc, loop_add, ran]
  dsimp only
  have ended := step_end (after.counted processed (walk.calls + (remaining walk.checkpoint entries).length)) named
    apply (List.getElem?_eq_none_iff.mpr (Nat.le_refl _))
  rw [loop, ended, List.append_nil]

theorem exists_take_filter {A : Type} (test : A → Bool) (list : List A) (count : Nat)
    (below : count < (list.filter test).length) : ∃ index, ∃ inside : index < list.length,
      (list.take index).filter test = (list.filter test).take count ∧ test list[index] = true := by
  induction list generalizing count with
  | nil => cases below
  | cons head list ih =>
      cases passes : test head with
      | false =>
          rw [List.filter_cons, passes] at below
          obtain ⟨index, inside, taken, due⟩ := ih count below
          refine ⟨index + 1, Nat.succ_lt_succ inside, ?_, due⟩
          rw [List.take_succ_cons, List.filter_cons, List.filter_cons, passes]
          exact taken
      | true =>
          cases count with
          | zero => exact ⟨0, Nat.succ_pos _, rfl, passes⟩
          | succ count =>
              rw [List.filter_cons, passes] at below
              obtain ⟨index, inside, taken, due⟩ := ih count (Nat.lt_of_succ_lt_succ below)
              refine ⟨index + 1, Nat.succ_lt_succ inside, ?_, due⟩
              rw [List.take_succ_cons, List.filter_cons, List.filter_cons, passes, if_pos rfl, if_pos rfl, taken]
              rfl

/-- A transform that fails ends the loop after the entries before. -/
theorem loop_failed (named : ∀ entry ∈ entries, entry.1 ≠ [])
    (ordered : entries.Pairwise fun first second => first.1 < second.1) {calls : Nat}
    (looping : Looping entered name base entries 0 checkpoint staged runtime walk) (first : walk.calls = 0)
    (enough : entries.length < count) (beyond : Beyond walk.checkpoint entries 0 checkpoint)
    (stages : Stages base transform staged (remaining walk.checkpoint entries) last)
    (below : calls < (remaining walk.checkpoint entries).length) :
    ∃ later middle walked position, loop (failing transform calls error) count runtime walk =
      (.failed error (later.abandon walked), (remaining walk.checkpoint entries).take calls) ∧
      walked.migration = walk.migration ∧ walked.read = walk.read ∧ walked.cursor = walk.cursor ∧
      Looping entered name base entries position
        (lastKey checkpoint ((remaining walk.checkpoint entries).take calls)) middle later walk ∧
      Stages base transform middle ((remaining walk.checkpoint entries).drop calls) last := by
  obtain ⟨index, inside, taken, due⟩ := exists_take_filter
    (fun entry : Bytes × Bytes => !skips walk.checkpoint entry.1) entries calls below
  have due : skips walk.checkpoint entries[index].1 = false := by simpa using due
  have taken : remaining walk.checkpoint ((entries.drop 0).take index) =
      (remaining walk.checkpoint entries).take calls := by rwa [List.drop_zero]
  obtain ⟨middle, front, back⟩ : ∃ middle,
      Stages base transform staged ((remaining walk.checkpoint entries).take calls) middle ∧
      Stages base transform middle ((remaining walk.checkpoint entries).drop calls) last :=
    Stages.split (by rwa [List.take_append_drop])
  have length : (remaining walk.checkpoint ((entries.drop 0).take index)).length = calls := by
    rw [taken, List.length_take, Nat.min_eq_left (Nat.le_of_lt below)]
  have agrees : ∀ number, number < walk.calls + (remaining walk.checkpoint ((entries.drop 0).take index)).length →
      failing transform calls error number = transform := by
    intro number small
    rw [length, first, Nat.zero_add] at small
    funext source
    rw [failing, if_neg (Nat.ne_of_lt small)]
  obtain ⟨later, processed, ran, after, _⟩ := loop_running named ordered index looping (by omega) beyond
    (by rwa [taken]) agrees
  rw [length, first, Nat.zero_add] at ran
  rw [taken, Nat.zero_add] at after
  obtain ⟨extra, rfl⟩ := Nat.exists_eq_add_of_lt enough
  have split : entries.length + extra + 1 = index + (entries.length + extra - index + 1) := by omega
  have refused : failing transform calls error calls entries[index] = .error error := by rw [failing, if_pos rfl]
  have failed := step_fail (after.counted processed calls) named _ (List.getElem?_eq_getElem inside) due refused
  refine ⟨_, middle, { walk with processed := processed, calls := calls }, index + 1, ?_, rfl, rfl, rfl,
    after.moved, back⟩
  rw [split, loop_add, ran]
  dsimp only
  rw [loop, failed, List.append_nil, taken]
  rfl

/-- A loop that reaches the end has staged the entries. -/
theorem stages_of_exhausted (named : ∀ entry ∈ entries, entry.1 ≠ [])
    (ordered : entries.Pairwise fun first second => first.1 < second.1) {ended : Walk} {later : Runtime}
    {applied : List (Bytes × Bytes)}
    (looping : Looping entered name base entries position checkpoint staged runtime walk)
    (beyond : Beyond walk.checkpoint entries position checkpoint)
    (ran : loop (fun _ => transform) count runtime walk = (.exhausted ended later, applied)) :
    ∃ last, Stages base transform staged (remaining walk.checkpoint (entries.drop position)) last := by
  induction count generalizing position checkpoint staged runtime walk applied with
  | zero => cases ran
  | succ count ih =>
      rcases Nat.lt_or_ge position entries.length with inside | outside
      · have here : entries[position]? = some entries[position] := List.getElem?_eq_getElem inside
        have front := List.drop_eq_getElem_cons inside
        rw [loop] at ran
        cases due : skips walk.checkpoint entries[position].1 with
        | true =>
            rw [step_skip looping named _ here due] at ran
            dsimp only at ran
            obtain ⟨reached, same⟩ := Prod.mk.inj ran
            rw [front, remaining_skip _ due]
            exact ih looping.moved beyond.moved (Prod.ext reached rfl)
        | false =>
            have ahead := beyond _ (by rw [front]; exact List.mem_cons_self) due
            rw [front, remaining_due _ due]
            cases transformed : transform entries[position] with
            | error error =>
                rw [step_fail looping named _ here due transformed] at ran
                cases ran
            | ok target =>
                obtain ⟨accepts, refuses⟩ := step_apply looping named (fun _ => transform) here due ahead transformed
                by_cases accepted : Accepts base staged target
                · rw [accepts accepted] at ran
                  dsimp only at ran
                  obtain ⟨reached, same⟩ := Prod.mk.inj ran
                  obtain ⟨last, rest⟩ := ih
                    ((looping.moved.applied entries[position].1 (stage staged target)).counted (walk.processed + 1)
                      (walk.calls + 1)) (beyond_applied ordered inside) (Prod.ext reached rfl)
                  exact ⟨last, .cons transformed accepted rest⟩
                · obtain ⟨error, failed, stopped⟩ := refuses accepted
                  rw [stopped] at ran
                  cases ran
      · rw [List.drop_eq_nil_of_le outside]
        exact ⟨staged, .nil⟩

end Loops

end Iterations

end OpenVehicle.Per.Runtime
