/-
This file decides when the mark of a store tells of its one migration handle. The provider keeps a handle whose
migration was committed or aborted, and a ledger remembers these handles.
-/

import OpenVehicle.Per.Quotas

namespace OpenVehicle.Per.Memory

open OrderedMap (count)

/-- A provider with the migration handles that have been committed, aborted or closed. -/
structure MigrationLedger where
  backend : Backend
  ended : List Handle := []

namespace MigrationLedger

/-- These calls use a migration handle. -/
def handleOf : Call → Option Handle
  | .applyMigration handle _ _ | .commitMigration handle | .abortMigration handle | .closeMigration handle =>
      some handle
  | _ => none

/-- A call of these kinds that succeeds ends its handle. -/
def endedBy : Call → Option Handle
  | .commitMigration handle | .abortMigration handle | .closeMigration handle => some handle
  | _ => none

/-- Only a successful call ends its handle. -/
def record (call : Call) (result : Except Failure Reply) (ended : List Handle) : List Handle :=
  match result with
  | .error _ => ended
  | .ok _ => (endedBy call).toList ++ ended

def perform (call : Call) (ledger : MigrationLedger) : MigrationLedger :=
  { backend := (Memory.perform ledger.backend call).2
    ended := record call (Memory.perform ledger.backend call).1 ledger.ended }

def system : Concurrency.System MigrationLedger Call := ⟨fun call ledger => some (ledger.perform call)⟩

def start (maxStores maxTransactions : Nat) : MigrationLedger := { backend := create maxStores maxTransactions }

/-- A live handle of a store has been neither committed, aborted nor closed. -/
def Live (ledger : MigrationLedger) (store : String) (handle : Handle) : Prop :=
  (ledger.backend.migrations.lookup handle).map (·.store) = some store ∧ handle ∉ ledger.ended

instance (ledger : MigrationLedger) (store : String) (handle : Handle) : Decidable (ledger.Live store handle) :=
  inferInstanceAs (Decidable (_ ∧ _))

/-- The mark of a store says that it has exactly one live handle. -/
def Marked (ledger : MigrationLedger) : Prop :=
  ∀ store, (ledger.backend.data store).migrationHandleActive = true ↔ ∃! handle, ledger.Live store handle

/-- A call applies or commits through a live handle only, and an ended handle changes no store. -/
structure Exclusive (ledger : MigrationLedger) (call : Call) : Prop where
  applied : ∀ handle source target reply, call = .applyMigration handle source target →
    (Memory.perform ledger.backend call).1 = .ok reply → ∃ store, ledger.Live store handle
  committed : ∀ handle reply, call = .commitMigration handle →
    (Memory.perform ledger.backend call).1 = .ok reply → ∃ store, ledger.Live store handle
  ended : ∀ handle ∈ ledger.ended, handleOf call = some handle →
    ∀ store, (Memory.perform ledger.backend call).2.data store = ledger.backend.data store

/-- The store of a handle that has ended and is still in the table. -/
def stale (ledger : MigrationLedger) (handle : Handle) : Option StoreData :=
  if handle ∈ ledger.ended then
    (ledger.backend.migrations.lookup handle).map fun operation => ledger.backend.data operation.store
  else none

end MigrationLedger

/-- The checks of a staged entry concern the keys, the sizes and the quotas of the store. -/
def StoreData.admits (store : StoreData) (source : Bytes) (target : Option (Bytes × Bytes)) : Bool :=
  source != [] && (store.migrationCheckpoint == [] || decide (store.migrationCheckpoint < source)) &&
    target.all (fun entry => entry.1 != [] && decide (entry.1.length ≤ store.maxKeySize) &&
      decide (entry.2.length ≤ store.maxValueSize)) &&
    decide (count (stage store.migrationValues target) ≤ store.maxEntries) &&
    decide (totalSize (stage store.migrationValues target) ≤ store.capacity)

/-- An ended handle is used only where a check of its store stops the call, or where no handle is marked. -/
def MigrationLedger.harmless (ledger : MigrationLedger) : Call → Bool
  | .applyMigration handle source target => (ledger.stale handle).all fun store => !store.admits source target
  | .commitMigration handle =>
      (ledger.stale handle).all fun store => store.generation != store.migrationSourceGeneration
  | .abortMigration handle | .closeMigration handle =>
      (ledger.stale handle).all fun store => !store.migrationHandleActive
  | _ => true

variable {operation : MigrationOperation} {backend : Backend} {handle : Handle} {reply : Reply}

/-- An entry is staged exactly when the store admits it, and a refused entry leaves no trace. -/
theorem applyMigration_cases (found : backend.migrations.lookup handle = some operation) (source : Bytes)
    (target : Option (Bytes × Bytes)) : (backend.data operation.store).admits source target = true ∧
    (applyMigration backend handle source target).1 = .ok () ∨
      (backend.data operation.store).admits source target = false ∧
        ∃ failure, applyMigration backend handle source target = (.error failure, backend) := by
  generalize stored : backend.data operation.store = store
  have valid : (target.any fun entry => entry.1 == [] || decide (entry.1.length > store.maxKeySize) ||
      decide (entry.2.length > store.maxValueSize)) = !(target.all fun entry => entry.1 != [] &&
        decide (entry.1.length ≤ store.maxKeySize) && decide (entry.2.length ≤ store.maxValueSize)) := by
    cases target with
    | none => rfl
    | some entry =>
        rw [Bool.eq_iff_iff]
        simp only [Option.any_some, Option.all_some, Bool.or_eq_true, beq_iff_eq, decide_eq_true_eq, Bool.not_eq_true',
          Bool.and_eq_false_iff, bne_eq_false_iff_eq, decide_eq_false_iff_not, Nat.not_le]
  simp only [applyMigration, found, stored, valid, StoreData.admits]
  split
  · rename_i unnamed
    exact .inr ⟨by simp [unnamed], _, rfl⟩
  split
  · rename_i named passed
    exact .inr ⟨by simp [passed.1, not_lt_of_ge passed.2], _, rfl⟩
  split
  · rename_i refused
    rw [Bool.not_eq_true'] at refused
    exact .inr ⟨by simp [refused], _, rfl⟩
  split
  · rename_i full
    refine .inr ⟨?_, _, rfl⟩
    simp only [Bool.and_eq_false_iff, decide_eq_false_iff_not, Nat.not_le]
    omega
  · rename_i named fresh sized room
    rw [not_and_or, not_not, not_le] at fresh
    rw [Bool.not_eq_true', Bool.not_eq_false] at sized
    rw [not_or, Nat.not_lt, Nat.not_lt] at room
    exact .inl ⟨by simp [named, fresh, sized, room], rfl⟩

theorem commitMigration_cases (found : backend.migrations.lookup handle = some operation) :
    (backend.data operation.store).generation = (backend.data operation.store).migrationSourceGeneration ∧
        (∃ result, (commitMigration backend handle).1 = .ok result) ∨
      (backend.data operation.store).generation ≠ (backend.data operation.store).migrationSourceGeneration ∧
        ∃ failure, commitMigration backend handle = (.error failure, backend) := by
  simp only [commitMigration, found]
  split
  · rename_i other
    exact .inr ⟨other, _, rfl⟩
  · rename_i same
    exact .inl ⟨not_not.mp same, _, rfl⟩

/-- A migration handle is given out for a store that is not marked. -/
theorem begin_unmarked {descriptor : MigrationDescriptor} {checkpoint : Buffer} {item : StoreHandle}
    (begun : (perform backend (.beginMigration handle descriptor checkpoint)).1 = .ok reply)
    (found : backend.storeHandles.lookup handle = some item) :
    (backend.data item.store).migrationHandleActive = false := by
  simp only [perform, answer, beginMigration, found] at begun
  split at begun
  · cases begun
  split at begun
  · cases begun
  split at begun
  · cases begun
  · rename_i free
    simpa using (not_or.mp free).2

variable {call : Call}

namespace MigrationLedger

/-- The handles are given out in ascending order, and the mark of a store tells of its one live handle. -/
structure Owned (ledger : MigrationLedger) : Prop where
  fresh : Fresh ledger.backend.nextHandle ledger.backend.migrations
  issued : ∀ handle ∈ ledger.ended, handle < ledger.backend.nextHandle
  marked : ∀ store, (ledger.backend.data store).migrationHandleActive = true ↔ ∃ handle, ledger.Live store handle
  unique : ∀ store first second, ledger.Live store first → ledger.Live store second → first = second

section Steps
variable {ledger later : MigrationLedger}

theorem Owned.toMarked (owned : ledger.Owned) : ledger.Marked := by
  intro store
  rw [owned.marked store]
  constructor
  · rintro ⟨handle, live⟩
    exact ⟨handle, live, fun other also => owned.unique store other handle also live⟩
  · rintro ⟨handle, live, _⟩
    exact ⟨handle, live⟩

/-- The tables of migrations and the marks are kept. -/
theorem Owned.frame (owned : ledger.Owned) (migrations : backend.migrations = ledger.backend.migrations)
    (marks : ∀ store, (backend.data store).migrationHandleActive = (ledger.backend.data store).migrationHandleActive)
    (grown : ledger.backend.nextHandle ≤ backend.nextHandle) : Owned ⟨backend, ledger.ended⟩ where
  fresh := migrations ▸ owned.fresh.mono grown
  issued := fun handle ended => Nat.lt_of_lt_of_le (owned.issued handle ended) grown
  marked := fun store => by
    rw [marks store, owned.marked store]
    simp only [Live, migrations]
  unique := fun store first second => by
    simp only [Live, migrations]
    exact owned.unique store first second

/-- A store without a mark gets a live handle. -/
theorem Owned.begun (owned : ledger.Owned)
    (unmarked : (ledger.backend.data operation.store).migrationHandleActive = false)
    (migrations : backend.migrations = ledger.backend.migrations.insert ledger.backend.nextHandle operation)
    (marks : ∀ store, (backend.data store).migrationHandleActive =
      if store = operation.store then true else (ledger.backend.data store).migrationHandleActive)
    (next : backend.nextHandle = ledger.backend.nextHandle + 1) : Owned ⟨backend, ledger.ended⟩ := by
  have live : ∀ store handle, Live ⟨backend, ledger.ended⟩ store handle ↔
      handle = ledger.backend.nextHandle ∧ store = operation.store ∨ ledger.Live store handle := by
    intro store handle
    simp only [Live, migrations]
    by_cases same : handle = ledger.backend.nextHandle
    · have unended : handle ∉ ledger.ended := fun ended => Nat.ne_of_lt (owned.issued handle ended) same
      have absent := owned.fresh handle (Nat.le_of_eq same.symm)
      rw [absent]
      subst same
      simp [unended, eq_comm]
    · simp [AList.lookup_insert_ne same, same]
  have none : ∀ handle, ¬ledger.Live operation.store handle := by
    intro handle alive
    have mark := (owned.marked operation.store).mpr ⟨handle, alive⟩
    rw [unmarked] at mark
    cases mark
  refine ⟨?_, fun handle ended => ?_, fun store => ?_, fun store first second one two => ?_⟩
  · rw [migrations, next]
    exact owned.fresh.insert
  · rw [next]
    exact Nat.lt_succ_of_lt (owned.issued handle ended)
  · rw [marks store]
    split
    · rename_i same
      exact iff_of_true rfl ⟨_, (live _ _).mpr (.inl ⟨rfl, same⟩)⟩
    · rename_i other
      rw [owned.marked store]
      refine exists_congr fun handle => ?_
      rw [live]
      exact ⟨.inr, fun either => either.resolve_left fun same => other same.2⟩
  · rcases (live store first).mp one with ⟨rfl, rfl⟩ | alive
    · rcases (live _ second).mp two with ⟨rfl, _⟩ | also
      · rfl
      · exact absurd also (none second)
    · rcases (live store second).mp two with ⟨rfl, rfl⟩ | also
      · exact absurd alive (none first)
      · exact owned.unique store first second alive also

/-- A handle ends. It is live, or no handle of its store is. -/
theorem Owned.ends (owned : ledger.Owned) (found : ledger.backend.migrations.lookup handle = some operation)
    (harmless : handle ∉ ledger.ended ∨ (ledger.backend.data operation.store).migrationHandleActive = false)
    (fresh : Fresh backend.nextHandle backend.migrations) (next : ledger.backend.nextHandle = backend.nextHandle)
    (migrations : ∀ other, other ≠ handle → backend.migrations.lookup other = ledger.backend.migrations.lookup other)
    (marks : ∀ store, (backend.data store).migrationHandleActive =
      if store = operation.store then false else (ledger.backend.data store).migrationHandleActive) :
    Owned ⟨backend, handle :: ledger.ended⟩ := by
  have live : ∀ store other, Live ⟨backend, handle :: ledger.ended⟩ store other ↔
      other ≠ handle ∧ ledger.Live store other := by
    intro store other
    simp only [Live, List.mem_cons, not_or]
    by_cases same : other = handle
    · simp [same]
    · simp [same, migrations other same]
  have none : ∀ other, other ≠ handle → ¬ledger.Live operation.store other := by
    intro other different alive
    rcases harmless with open_ | unmarked
    · exact different (owned.unique _ other handle alive ⟨by rw [found]; rfl, open_⟩)
    · have mark := (owned.marked operation.store).mpr ⟨other, alive⟩
      rw [unmarked] at mark
      cases mark
  refine ⟨fresh, fun other ended => ?_, fun store => ?_, fun store first second one two => ?_⟩
  · rcases List.mem_cons.mp ended with rfl | ended
    · refine Nat.lt_of_not_le fun above => ?_
      rw [owned.fresh other (next ▸ above)] at found
      cases found
    · exact next ▸ owned.issued other ended
  · rw [marks store]
    split
    · rename_i same
      subst same
      refine iff_of_false Bool.false_ne_true ?_
      rintro ⟨other, alive⟩
      obtain ⟨different, alive⟩ := (live _ _).mp alive
      exact none other different alive
    · rename_i apart
      rw [owned.marked store]
      refine exists_congr fun other => ?_
      rw [live, and_iff_right_of_imp]
      rintro ⟨known, _⟩ rfl
      rw [found] at known
      exact apart (Option.some.inj known).symm
  · exact owned.unique store first second ((live _ _).mp one).2 ((live _ _).mp two).2

end Steps

section Runs
variable {ledger : MigrationLedger} {store : String}

theorem record_passive (passive : effective call = false) (result : Except Failure Reply) (ended : List Handle) :
    record call result ended = ended := by
  have none : endedBy call = none := by
    cases call with
    | commitMigration | abortMigration | closeMigration => cases passive
    | _ => rfl
  cases result with
  | error failure => rfl
  | ok reply => rw [record, none, Option.toList_none, List.nil_append]

variable {name : String} {change : StoreData → StoreData}

theorem mark_update {mark : Bool} (changed : (change (backend.data name)).migrationHandleActive = mark) :
    ((backend.update name change).data store).migrationHandleActive =
      if store = name then mark else (backend.data store).migrationHandleActive := by
  rw [Backend.data_update]
  split
  · exact changed
  · rfl

/-- A change that keeps the mark of its store keeps all marks. -/
theorem mark_kept (change : StoreData → StoreData)
    (kept : (change (backend.data name)).migrationHandleActive = (backend.data name).migrationHandleActive) :
    ((backend.update name change).data store).migrationHandleActive = (backend.data store).migrationHandleActive := by
  rw [mark_update kept]
  split
  · rename_i same
    rw [same]
  · rfl

theorem mark_release (writing : Bool) :
    ((backend.release writing name).data store).migrationHandleActive = (backend.data store).migrationHandleActive := by
  rw [Backend.data_release]
  split
  · rename_i same
    rw [same, Backend.freed]
  · rfl

theorem Owned.update (owned : ledger.Owned) (kept : (change (ledger.backend.data name)).migrationHandleActive =
      (ledger.backend.data name).migrationHandleActive) : Owned ⟨ledger.backend.update name change, ledger.ended⟩ :=
  owned.frame rfl (fun _ => mark_kept _ kept) (Nat.le_refl _)

/-- A store without a mark does not change when its mark is cleared. -/
theorem data_deactivate (unmarked : (backend.data name).migrationHandleActive = false) :
    (backend.update name deactivate).data store = backend.data store := by
  rw [Backend.data_update]
  split
  · rename_i same
    rw [same, deactivate, ← unmarked]
  · rfl

/-- A handle that has ended is used only where its store is not marked. -/
theorem unended_or_unmarked (found : ledger.backend.migrations.lookup handle = some operation)
    (harmless : (ledger.stale handle).all (fun store => !store.migrationHandleActive) = true) :
    handle ∉ ledger.ended ∨ (ledger.backend.data operation.store).migrationHandleActive = false := by
  by_cases ended : handle ∈ ledger.ended
  · right
    rw [stale, if_pos ended, found] at harmless
    simpa using harmless
  · exact .inl ended

/-- Every harmless call keeps the marks. -/
theorem Owned.perform (owned : ledger.Owned) (harmless : ledger.harmless call = true) :
    (ledger.perform call).Owned := by
  have effect : Effect ledger.backend call (Memory.perform ledger.backend call).1
    (Memory.perform ledger.backend call).2 := perform_effect ledger.backend call
  unfold MigrationLedger.perform
  generalize answered : (Memory.perform ledger.backend call).1 = result at effect ⊢
  generalize (Memory.perform ledger.backend call).2 = later at effect ⊢
  have grown := Nat.le_succ ledger.backend.nextHandle
  cases effect with
  | quiet same passive =>
      have ended : record call result ledger.ended = ledger.ended := by
        rcases passive with passive | ⟨failure, rfl⟩
        · exact record_passive passive result _
        · rfl
      rw [ended]
      exact owned.frame same.migrations (fun store => by rw [same.data]) same.nextHandle
  | created descriptor absent =>
      have fresh : (ledger.backend.data descriptor.logicalName).migrationHandleActive = false := by
        rw [Backend.data, absent]
        rfl
      exact owned.frame rfl (fun _ => mark_kept (fun _ => newStore descriptor) fresh.symm) grown
  | attached descriptor _ => exact owned.frame rfl (fun _ => rfl) grown
  | stopped =>
      refine ⟨fresh_empty, fun handle ended => ?_, fun store => ?_, fun store first _ one _ => ?_⟩
      · rw [nextHandle_stop]
        exact owned.issued handle ended
      · rw [data_stop]
        refine iff_of_false ?_ ?_
        · rw [Bool.and_eq_true, Bool.not_eq_true']
          rintro ⟨idle, mark⟩
          obtain ⟨handle, known, _⟩ := (owned.marked store).mp mark
          obtain ⟨operation, found, rfl⟩ := Option.map_eq_some_iff.mp known
          have listed := List.mem_map_of_mem (f := fun entry => entry.2.store) (AList.mem_lookup_iff.mp found)
          rw [migrating, ← Bool.not_eq_true, List.contains_iff_mem] at idle
          exact idle listed
        · rintro ⟨handle, known, _⟩
          cases known
      · cases one.1
  | rejected store => exact owned.update rfl
  | begunRead found => exact owned.frame rfl (fun _ => rfl) grown
  | begunWrite asked found free settled =>
      rcases asked with rfl | ⟨expected, rfl⟩ <;> exact owned.frame rfl (fun _ => mark_kept _ rfl) grown
  | put found => exact owned.frame rfl (fun _ => rfl) (Nat.le_refl _)
  | erased found => exact owned.frame rfl (fun _ => rfl) (Nat.le_refl _)
  | committed found => exact owned.frame rfl (fun _ => mark_kept _ rfl) (Nat.le_refl _)
  | finished found asked =>
      have ended : record call result ledger.ended = ledger.ended := by
        rcases asked with rfl | ⟨rfl, failure, rfl⟩
        · cases result <;> rfl
        · rfl
      rw [ended]
      exact owned.frame (Backend.migrations_release ..) (fun _ => mark_release _)
        (Nat.le_of_eq (Backend.nextHandle_release ..).symm)
  | closedTransaction found =>
      exact owned.frame (Backend.migrations_release ..) (fun _ => mark_release _)
        (Nat.le_of_eq (Backend.nextHandle_release ..).symm)
  | openedBlob passive _ =>
      rw [record_passive passive]
      exact owned.frame rfl (fun _ => rfl) grown
  | begunReplace => exact owned.frame rfl (fun _ => mark_kept _ rfl) grown
  | wroteBlob => exact owned.frame rfl (fun _ => rfl) (Nat.le_refl _)
  | committedBlob => exact owned.frame rfl (fun _ => mark_kept _ rfl) (Nat.le_refl _)
  | finishedBlob found asked =>
      have ended : record call result ledger.ended = ledger.ended := by
        rcases asked with rfl | ⟨rfl, failure, rfl⟩
        · cases result <;> rfl
        · rfl
      rw [ended]
      exact owned.frame (Backend.migrations_release ..) (fun _ => mark_release _)
        (Nat.le_of_eq (Backend.nextHandle_release ..).symm)
  | closedBlob found =>
      exact owned.frame (Backend.migrations_release ..) (fun _ => mark_release _)
        (Nat.le_of_eq (Backend.nextHandle_release ..).symm)
  | reset => exact owned.update rfl
  | @startedMigration handle item descriptor checkpoint status found =>
      exact owned.begun (begin_unmarked answered found) rfl (fun _ => mark_update rfl) rfl
  | @resumedMigration handle item descriptor checkpoint status last found =>
      exact owned.begun (begin_unmarked answered found) rfl (fun _ => mark_update rfl) rfl
  | applied found => exact owned.update rfl
  | @migrated handle operation _ found current =>
      have unended : handle ∉ ledger.ended := by
        intro ended
        simp only [MigrationLedger.harmless, stale, if_pos ended, found, Option.map_some, Option.all_some,
          bne_iff_ne] at harmless
        exact harmless current
      exact owned.ends found (.inl unended) owned.fresh rfl (fun _ _ => rfl) fun _ => mark_update rfl
  | @deactivated handle operation found =>
      exact owned.ends found (unended_or_unmarked found harmless) owned.fresh rfl (fun _ _ => rfl)
        fun _ => mark_update rfl
  | @closedMigration handle operation found =>
      exact owned.ends found (unended_or_unmarked found harmless) owned.fresh.erase rfl
        (fun _ different => AList.lookup_erase_ne different) fun _ => mark_update rfl
  | rolledBack => exact owned.update rfl

/-- A handle in the table that has not ended is live. -/
theorem live_of_unended (found : ledger.backend.migrations.lookup handle = some operation)
    (unended : handle ∉ ledger.ended) :
    ∃ store, ledger.Live store handle := ⟨operation.store, by rw [found]; rfl, unended⟩

theorem stale_ended (found : ledger.backend.migrations.lookup handle = some operation) (ended : handle ∈ ledger.ended) :
    ledger.stale handle = some (ledger.backend.data operation.store) := by
  rw [stale, if_pos ended, found]
  rfl

section
variable (uses : handleOf call = some handle)
include uses

/-- A call through a handle that is not in the table is refused. -/
theorem perform_missing (missing : ledger.backend.migrations.lookup handle = none) :
    ∃ failure, Memory.perform ledger.backend call = (.error failure, ledger.backend) := by
  cases call with
  | applyMigration other source target =>
      obtain rfl := Option.some.inj uses
      simp only [Memory.perform, answer, applyMigration, missing]
      split <;> exact ⟨_, rfl⟩
  | commitMigration other =>
      obtain rfl := Option.some.inj uses
      simp only [Memory.perform, answer, commitMigration, missing]
      exact ⟨_, rfl⟩
  | abortMigration other =>
      obtain rfl := Option.some.inj uses
      simp only [Memory.perform, answer, abortMigration, missing]
      exact ⟨_, rfl⟩
  | closeMigration other =>
      obtain rfl := Option.some.inj uses
      simp only [Memory.perform, answer, closeMigration, missing]
      exact ⟨_, rfl⟩
  | _ => cases uses

/-- A harmless call through an ended handle is refused, or it clears a mark that is not set. -/
theorem perform_stale (found : ledger.backend.migrations.lookup handle = some operation) (ended : handle ∈ ledger.ended)
    (harmless : ledger.harmless call = true) :
    (∃ failure, Memory.perform ledger.backend call = (.error failure, ledger.backend)) ∨
      (call = .abortMigration handle ∨ call = .closeMigration handle) ∧
        ∀ store, (Memory.perform ledger.backend call).2.data store = ledger.backend.data store := by
  cases call with
  | applyMigration other source target =>
      obtain rfl := Option.some.inj uses
      simp only [MigrationLedger.harmless, stale_ended found ended, Option.all_some, Bool.not_eq_true'] at harmless
      rcases applyMigration_cases found source target with ⟨admitted, _⟩ | ⟨_, failure, refused⟩
      · rw [harmless] at admitted
        cases admitted
      · exact .inl ⟨failure, by simp only [Memory.perform, answer, refused]; rfl⟩
  | commitMigration other =>
      obtain rfl := Option.some.inj uses
      simp only [MigrationLedger.harmless, stale_ended found ended, Option.all_some, bne_iff_ne] at harmless
      rcases commitMigration_cases found with ⟨current, _⟩ | ⟨_, failure, refused⟩
      · exact absurd current harmless
      · exact .inl ⟨failure, by simp only [Memory.perform, answer, refused]; rfl⟩
  | abortMigration other =>
      obtain rfl := Option.some.inj uses
      simp only [MigrationLedger.harmless, stale_ended found ended, Option.all_some, Bool.not_eq_true'] at harmless
      refine .inr ⟨.inl rfl, ?_⟩
      simp only [Memory.perform, answer, abortMigration, found]
      exact fun _ => data_deactivate harmless
  | closeMigration other =>
      obtain rfl := Option.some.inj uses
      simp only [MigrationLedger.harmless, stale_ended found ended, Option.all_some, Bool.not_eq_true'] at harmless
      refine .inr ⟨.inr rfl, ?_⟩
      simp only [Memory.perform, answer, closeMigration, found]
      exact fun _ => data_deactivate harmless
  | _ => cases uses

/-- An entry is applied and a migration is committed through a live handle. -/
theorem live_of_ok (harmless : ledger.harmless call = true)
    (changes : call ≠ .abortMigration handle ∧ call ≠ .closeMigration handle)
    (succeeded : (Memory.perform ledger.backend call).1 = .ok reply) : ∃ store, ledger.Live store handle := by
  cases found : ledger.backend.migrations.lookup handle with
  | none =>
      obtain ⟨failure, refused⟩ := perform_missing uses found
      rw [refused] at succeeded
      cases succeeded
  | some operation =>
      refine live_of_unended found fun ended => ?_
      rcases perform_stale uses found ended harmless with ⟨failure, refused⟩ | ⟨clears, _⟩
      · rw [refused] at succeeded
        cases succeeded
      · exact clears.elim changes.1 changes.2

end

/-- A harmless call uses no ended handle to an effect. -/
theorem exclusive_of_harmless (harmless : ledger.harmless call = true) : ledger.Exclusive call where
  applied := by
    rintro handle source target reply rfl succeeded
    exact live_of_ok rfl harmless ⟨nofun, nofun⟩ succeeded
  committed := by
    rintro handle reply rfl succeeded
    exact live_of_ok rfl harmless ⟨nofun, nofun⟩ succeeded
  ended := by
    intro handle ended uses store
    cases found : ledger.backend.migrations.lookup handle with
    | none =>
        obtain ⟨failure, refused⟩ := perform_missing uses found
        rw [refused]
    | some operation =>
        rcases perform_stale uses found ended harmless with ⟨failure, refused⟩ | ⟨_, kept⟩
        · rw [refused]
        · exact kept store

/-- A stale handle has ended, and its store is in the table. -/
theorem stale_eq_some {data : StoreData} (found : ledger.stale handle = some data) :
    handle ∈ ledger.ended ∧ ∃ operation, ledger.backend.migrations.lookup handle = some operation ∧
      ledger.backend.data operation.store = data := by
  rw [stale] at found
  split at found
  · rename_i ended
    exact ⟨ended, Option.map_eq_some_iff.mp found⟩
  · cases found

/-- An effect through an ended handle breaks the rule. -/
theorem harmless_of_exclusive (exclusive : ledger.Exclusive call) : ledger.harmless call = true := by
  cases call with
  | applyMigration handle source target =>
      rw [MigrationLedger.harmless, Option.all_eq_true]
      intro data known
      obtain ⟨ended, operation, found, rfl⟩ := stale_eq_some known
      rcases applyMigration_cases found source target with ⟨_, succeeded⟩ | ⟨refused, _⟩
      · have answered : (Memory.perform ledger.backend (.applyMigration handle source target)).1 = .ok .done := by
          simp only [Memory.perform, answer, succeeded]
          rfl
        obtain ⟨store, _, unended⟩ := exclusive.applied handle source target _ rfl answered
        exact absurd ended unended
      · rw [refused]
        rfl
  | commitMigration handle =>
      rw [MigrationLedger.harmless, Option.all_eq_true]
      intro data known
      obtain ⟨ended, operation, found, rfl⟩ := stale_eq_some known
      rcases commitMigration_cases found with ⟨_, result, succeeded⟩ | ⟨other, _⟩
      · have answered : (Memory.perform ledger.backend (.commitMigration handle)).1 = .ok (.committed result) := by
          simp only [Memory.perform, answer, succeeded]
          rfl
        obtain ⟨store, _, unended⟩ := exclusive.committed handle _ rfl answered
        exact absurd ended unended
      · exact bne_iff_ne.mpr other
  | abortMigration handle =>
      rw [MigrationLedger.harmless, Option.all_eq_true]
      intro data known
      obtain ⟨ended, operation, found, rfl⟩ := stale_eq_some known
      have kept := exclusive.ended handle ended rfl operation.store
      simp only [Memory.perform, answer, abortMigration, found] at kept
      rw [← kept, Backend.data_update, if_pos rfl]
      rfl
  | closeMigration handle =>
      rw [MigrationLedger.harmless, Option.all_eq_true]
      intro data known
      obtain ⟨ended, operation, found, rfl⟩ := stale_eq_some known
      have kept := exclusive.ended handle ended rfl operation.store
      simp only [Memory.perform, answer, closeMigration, found] at kept
      change ((ledger.backend.update operation.store deactivate).data operation.store) = _ at kept
      rw [← kept, Backend.data_update, if_pos rfl]
      rfl
  | _ => rfl

theorem owned_start (maxStores maxTransactions : Nat) : (start maxStores maxTransactions).Owned where
  fresh := fresh_empty
  issued := nofun
  marked := fun _ => iff_of_false Bool.false_ne_true fun ⟨_, known, _⟩ => nomatch known
  unique := fun _ _ _ one => nomatch one.1

/-- In every run whose calls are harmless the mark of each store tells of its one live handle, and exactly the
harmless calls apply and commit through live handles and change nothing through ended ones. -/
theorem migration_exclusive (maxStores maxTransactions : Nat) (ledger : MigrationLedger)
    (reached : system.Reaches (fun ledger call => ledger.harmless call = true)
    (start maxStores maxTransactions) ledger) :
    ledger.Marked ∧ ∀ call, ledger.harmless call = true ↔ ledger.Exclusive call := by
  have owned : ledger.Owned := by
    refine reached.invariant (owned_start maxStores maxTransactions) ?_
    intro _ _ _ owned harmless performed
    cases performed
    exact owned.perform harmless
  exact ⟨owned.toMarked, fun call => ⟨exclusive_of_harmless, harmless_of_exclusive⟩⟩

end Runs

/-- A migration is aborted and resumed, so that one of its two handles has ended. -/
def resumedRun : List Call :=
  [.start, .openStore cabin, .beginMigration 1 cabinUpgrade none, .applyMigration 2 [1] (some ([1], [11])),
    .abortMigration 2, .beginMigration 1 cabinUpgrade (some 1)]

/-- A migration is resumed under a new handle. -/
theorem migration_exclusive_resumed : ∃ ledger, system.Reaches (fun ledger call => ledger.harmless call = true)
    (start 4 4) ledger ∧ (2 ∈ ledger.ended ∧ ledger.Live "cabin" 3) ∧
    ledger.Marked ∧ ∀ call, ledger.harmless call = true ↔ ledger.Exclusive call := by
  have executed : (system.run (fun ledger call => ledger.harmless call) (resumedRun.map fun call _ => call)
      (start 4 4)).any (fun ledger => decide (2 ∈ ledger.ended ∧ ledger.Live "cabin" 3)) = true := by decide +kernel
  obtain ⟨ledger, reached, handles⟩ := Concurrency.System.Reaches.exists_of_run _ (fun _ _ safe => safe) _ _ executed
  exact ⟨ledger, reached, of_decide_eq_true handles, migration_exclusive 4 4 ledger reached⟩

/-- The close of the aborted handle clears the mark of the resumed migration. -/
theorem ended_handle_unmarks : ∃ ledger, system.Reaches (fun _ _ => True) (start 4 4) ledger ∧
    ¬ledger.Exclusive (.closeMigration 2) ∧ ¬(ledger.perform (.closeMigration 2)).Marked := by
  have executed : (system.run (fun _ _ => true) (resumedRun.map fun call _ => call) (start 4 4)).any
      (fun ledger => decide (2 ∈ ledger.ended ∧ (ledger.backend.data "cabin").migrationHandleActive = true ∧
        ((ledger.perform (.closeMigration 2)).backend.data "cabin").migrationHandleActive = false ∧
        (ledger.perform (.closeMigration 2)).Live "cabin" 3 ∧
        (ledger.perform (.closeMigration 2)).backend.migrations.entries.map (·.1) = [3])) = true := by decide +kernel
  obtain ⟨ledger, reached, facts⟩ := Concurrency.System.Reaches.exists_of_run _ (fun _ _ _ => trivial) _ _ executed
  obtain ⟨ended, marked, cleared, live, only⟩ := of_decide_eq_true facts
  refine ⟨ledger, reached, fun exclusive => ?_, fun marks => ?_⟩
  · have kept := exclusive.ended 2 ended rfl "cabin"
    change (ledger.perform (.closeMigration 2)).backend.data "cabin" = _ at kept
    rw [kept, marked] at cleared
    cases cleared
  · refine Bool.false_ne_true (cleared.symm.trans ((marks "cabin").mpr ⟨3, live, fun other also => ?_⟩))
    obtain ⟨operation, found, _⟩ := Option.map_eq_some_iff.mp also.1
    have listed := List.mem_map_of_mem (f := fun entry => entry.1) (AList.mem_lookup_iff.mp found)
    rw [only, List.mem_singleton] at listed
    exact listed

end MigrationLedger

end OpenVehicle.Per.Memory
