/-
This file proves that a rollback restores the contents that a committed migration has replaced. The backup of
a store is what its last migration replaced, until a rollback takes it.
-/

import OpenVehicle.Per.Quotas

namespace OpenVehicle.Per.Memory

/-- What a migration replaces and a rollback restores. -/
structure StoreVersion where
  values : Values
  blobs : Values
  schemaId : String
  schemaVersion : Nat

def StoreData.version (data : StoreData) : StoreVersion := ⟨data.values, data.blobs, data.schemaId, data.schemaVersion⟩

/-- The contents that the next rollback restores. -/
def StoreData.backup (data : StoreData) : Option StoreVersion :=
  if data.rollbackAvailable then
    some ⟨data.rollbackValues, data.rollbackBlobs, data.rollbackSchemaId, data.rollbackSchemaVersion⟩
  else none

/-- The call commits a migration of the store. -/
def CommitsMigration (store : String) (backend : Backend) (call : Call) : Prop :=
  ∃ handle operation result, call = .commitMigration handle ∧
    backend.migrations.lookup handle = some operation ∧ operation.store = store ∧
    (perform backend call).1 = .ok result

/-- The call rolls the store back. -/
def RollsBack (store : String) (backend : Backend) (call : Call) : Prop :=
  ∃ handle durability item result, call = .rollbackStore handle durability ∧
    backend.storeHandles.lookup handle = some item ∧ item.store = store ∧
    (perform backend call).1 = .ok result

section Backups
variable {data : StoreData}

theorem backup_migrateData : (migrateData data).backup = some data.version := by
  simp [StoreData.backup, StoreData.version, migrateData]

theorem version_rollbackData (available : data.rollbackAvailable = true) :
    data.backup = some (rollbackData data).version := by
  simp [StoreData.backup, StoreData.version, rollbackData, available]

theorem backup_rollbackData : (rollbackData data).backup = none := by
  simp [StoreData.backup, rollbackData]

theorem backup_available : data.backup.isSome = data.rollbackAvailable := by
  cases available : data.rollbackAvailable <;> simp [StoreData.backup, available]

end Backups

section Steps
variable {backend later : Backend} {store name : String}

/-- A change that keeps the backup of its store keeps the backup of every store. -/
theorem backup_update {change : StoreData → StoreData}
    (keeps : (change (backend.data name)).backup = (backend.data name).backup) :
    ((backend.update name change).data store).backup = (backend.data store).backup := by
  rw [Backend.data_update]
  by_cases same : store = name
  · rw [if_pos same, keeps, same]
  · rw [if_neg same]

theorem backup_release (writing : Bool) :
    ((backend.release writing name).data store).backup = (backend.data store).backup := by
  unfold Backend.release
  split
  · exact backup_update rfl
  · rfl

theorem data_of_stores (same : later.stores = backend.stores) : later.data store = backend.data store := by
  simp only [Backend.data, same]

/-- A store is created without a backup. -/
theorem backup_created {descriptor : StoreDescriptor} (absent : backend.stores.lookup descriptor.logicalName = none) :
    ((register { backend with
        stores := backend.stores.insert descriptor.logicalName (newStore descriptor) } descriptor).2.data
      store).backup = (backend.data store).backup := by
  by_cases same : store = descriptor.logicalName
  · subst same
    simp [Backend.data, register, absent, StoreData.backup, newStore]
  · simp [Backend.data, register, AList.lookup_insert_ne same]

/-- Only a committed migration and a rollback change the backup of their store. -/
theorem backup_kept {call : Call} (performed : (perform backend call).2 = later)
    (unmigrated : ¬CommitsMigration store backend call) (unrolled : ¬RollsBack store backend call) :
    (later.data store).backup = (backend.data store).backup := by
  have effect : Effect backend call (perform backend call).1 later := performed ▸ perform_effect backend call
  generalize answered : (perform backend call).1 = result at effect
  cases effect with
  | quiet same _ => rw [data_of_stores same.stores]
  | created descriptor absent => exact backup_created absent
  | stopped =>
      rw [data_stop]
      rfl
  | finished found asked => exact backup_release _
  | closedTransaction found => exact backup_release _
  | finishedBlob found asked => exact backup_release _
  | closedBlob found => exact backup_release _
  | @migrated handle operation _ found current =>
      have other : store ≠ operation.store := by
        intro same
        exact unmigrated ⟨handle, operation, _, rfl, found, same.symm, answered⟩
      rw [Backend.data_update, if_neg other]
  | @rolledBack handle item durability _ found available =>
      have other : store ≠ item.store := by
        intro same
        exact unrolled ⟨handle, durability, item, _, rfl, found, same.symm, answered⟩
      rw [Backend.data_update, if_neg other]
  | attached | begunRead | put | erased | openedBlob | wroteBlob => rfl
  | _ => exact backup_update rfl

/-- A store without a backup has none until a migration is committed. -/
theorem backup_missing {call : Call} (performed : (perform backend call).2 = later)
    (unmigrated : ¬CommitsMigration store backend call) (missing : (backend.data store).backup = none) :
    (later.data store).backup = none := by
  rw [← missing]
  apply backup_kept performed unmigrated
  rintro ⟨handle, durability, item, result, rfl, found, rfl, succeeded⟩
  have unavailable : (backend.data item.store).rollbackAvailable = false := by
    rw [← backup_available, missing]
    rfl
  simp only [perform, answer, rollbackStore, found, unavailable, Bool.not_false, if_true] at succeeded
  split at succeeded <;> cases succeeded

end Steps

section Runs
variable {backend committed later : Backend} {store : String}

/-- The backup survives every run that neither migrates nor rolls back its store. -/
theorem backup_reached (reached : system.Reaches
      (fun backend call => ¬CommitsMigration store backend call ∧ ¬RollsBack store backend call) committed later) :
    (later.data store).backup = (committed.data store).backup := by
  induction reached with
  | refl => rfl
  | step _ permitted performed ih =>
      rw [← ih]
      exact backup_kept (Option.some.inj performed) permitted.1 permitted.2

theorem backup_missing_reached (missing : (committed.data store).backup = none)
    (reached : system.Reaches (fun backend call => ¬CommitsMigration store backend call) committed later) :
    (later.data store).backup = none := by
  induction reached with
  | refl => exact missing
  | step _ permitted performed ih => exact backup_missing (Option.some.inj performed) permitted ih

/-- The rollback of a store that has a backup restores it. -/
theorem rollbackStore_restores {version : StoreVersion} {handle : Handle}
    (known : later.storeHandles.lookup handle = some ⟨store, .readWrite⟩)
    (kept : (later.data store).backup = some version) (durability : Durability) :
    ∃ result final, rollbackStore later handle durability = (.ok result, final) ∧
      (final.data store).version = version ∧ (final.data store).backup = none := by
  have available : (later.data store).rollbackAvailable = true := by
    rw [← backup_available, kept]
    rfl
  refine ⟨⟨(later.data store).generation + 1, durability⟩, later.update store rollbackData, ?_, ?_, ?_⟩
  · simp [rollbackStore, known, available]
  · have restored := version_rollbackData available
    rw [kept] at restored
    rw [Backend.data_update, if_pos rfl]
    exact (Option.some.inj restored).symm
  · rw [Backend.data_update, if_pos rfl]
    exact backup_rollbackData

theorem rollbackStore_refused {handle : Handle} {item : StoreHandle}
    (known : later.storeHandles.lookup handle = some item)
    (missing : (later.data item.store).backup = none) (durability : Durability) :
    ∃ failure, rollbackStore later handle durability = (.error failure, later) := by
  have unavailable : (later.data item.store).rollbackAvailable = false := by
    rw [← backup_available, missing]
    rfl
  simp only [rollbackStore, known, unavailable, Backend.refuse]
  split
  · exact ⟨_, rfl⟩
  · exact ⟨_, rfl⟩

end Runs

/-- After a committed migration a rollback through any writing handle restores what the migration replaced,
and the next one is refused until another migration of the store has been committed. -/
structure RollbackContract (store : String) (replaced : StoreVersion) (committed : Backend) : Prop where
  restores : ∀ later handle durability, system.Reaches
      (fun backend call => ¬CommitsMigration store backend call ∧ ¬RollsBack store backend call)
      committed later → later.storeHandles.lookup handle = some ⟨store, .readWrite⟩ →
    ∃ result final, rollbackStore later handle durability = (.ok result, final) ∧
      (final.data store).version = replaced ∧
      ∀ last handle item durability,
        system.Reaches (fun backend call => ¬CommitsMigration store backend call) final last →
        last.storeHandles.lookup handle = some item → item.store = store →
        ∃ failure, rollbackStore last handle durability = (.error failure, last)

/-- A rollback restores the state before the last migration of its store, whatever was written after it. -/
theorem rollback_restores (backend committed : Backend) (migration : Handle) (operation : MigrationOperation)
    (result : CommitResult) (opened : backend.migrations.lookup migration = some operation)
    (commits : commitMigration backend migration = (.ok result, committed)) :
    RollbackContract operation.store (backend.data operation.store).version committed := by
  have saved : (committed.data operation.store).backup = some (backend.data operation.store).version := by
    simp only [commitMigration, opened] at commits
    split at commits
    · cases commits
    · obtain ⟨_, rfl⟩ := Prod.mk.inj commits
      rw [Backend.data_update, if_pos rfl]
      exact backup_migrateData
  refine ⟨?_⟩
  intro later handle durability reached known
  have kept := (backup_reached reached).trans saved
  obtain ⟨reply, final, rolled, restored, missing⟩ := rollbackStore_restores known kept durability
  refine ⟨reply, final, rolled, restored, ?_⟩
  intro last other item again moved named same
  apply rollbackStore_refused named
  rw [same]
  exact backup_missing_reached missing moved

/-- The store keeps a value and a blob of the first schema until the second schema is committed. -/
theorem rollback_restores_cabin : ∃ backend committed, system.Reaches (fun _ _ => True) (create 4 4) backend ∧
    (backend.data "cabin").schemaVersion = 1 ∧ (committed.data "cabin").schemaVersion = 2 ∧
    RollbackContract "cabin" (backend.data "cabin").version committed := by
  have executed : (system.run (fun _ _ => true)
      ((upgradeRun [([1], [1], [11])]).dropLast.map fun call _ => call) (create 4 4)).any
      (fun backend => decide ((backend.data "cabin").schemaVersion = 1 ∧
        ((commitMigration backend 4).2.data "cabin").schemaVersion = 2 ∧
        (commitMigration backend 4).1.toOption.isSome ∧
        ((backend.migrations.lookup 4).map (·.store)) = some "cabin")) = true := by decide +kernel
  obtain ⟨backend, reached, holds⟩ := Concurrency.System.Reaches.exists_of_run _ (fun _ _ _ => trivial) _ _ executed
  obtain ⟨before, after, succeeds, named⟩ := of_decide_eq_true holds
  obtain ⟨operation, opened, same⟩ := Option.map_eq_some_iff.mp named
  obtain ⟨result, commits⟩ : ∃ result, commitMigration backend 4 = (.ok result, (commitMigration backend 4).2) := by
    cases outcome : (commitMigration backend 4).1 with
    | error failure => simp [outcome, Except.toOption] at succeeds
    | ok result => exact ⟨result, Prod.ext outcome rfl⟩
  have contract := rollback_restores backend _ 4 operation result opened commits
  rw [same] at contract
  exact ⟨backend, _, reached, before, after, contract⟩

end OpenVehicle.Per.Memory
