/-
This file proves that the memory provider keeps the quotas of its stores as long as every migration that is
committed leaves room for the blobs.
-/

import OpenVehicle.Per.MemoryRuns

namespace OpenVehicle.Per.Memory

open OrderedMap (All all_empty all_insert all_erase count weight_insert count_insert weight_erase_le count_erase_le)

section Bounds

structure Limits where
  entries : Nat
  bytes : Nat
  keySize : Nat
  valueSize : Nat
  blobSize : Nat

def StoreData.limits (store : StoreData) : Limits :=
  ⟨store.maxEntries, store.capacity, store.maxKeySize, store.maxValueSize, store.maxBlobSize⟩

/-- Every value and its key respect the limits. -/
def Limits.Values (limits : Limits) (values : Values) : Prop :=
  All (fun key value => key.length ≤ limits.keySize ∧ value.length ≤ limits.valueSize) values

def Limits.Blobs (limits : Limits) (blobs : Per.Values) : Prop :=
  All (fun key value => key.length ≤ limits.keySize ∧ value.length ≤ limits.blobSize) blobs

/-- The contents respect the limits of a store. -/
structure Within (limits : Limits) (values blobs : Values) : Prop where
  entries : count values + count blobs ≤ limits.entries
  bytes : totalSize values + totalSize blobs ≤ limits.bytes
  values : limits.Values values
  blobs : limits.Blobs blobs

variable {store : StoreData} {limits : Limits} {values blobs : Values}

theorem not_overQuota : ¬overQuota store values blobs ↔ count values + count blobs ≤ store.maxEntries ∧
      totalSize values + totalSize blobs ≤ store.capacity := by
  rw [overQuota, not_or, Nat.not_lt, Nat.not_lt]

theorem within_empty : Within limits ∅ ∅ := ⟨Nat.zero_le _, Nat.zero_le _, all_empty, all_empty⟩

/-- A replaced blob counts with its length only. -/
theorem Within.rewrite {key first second : Bytes} (within : Within limits values (blobs.insert key first))
    (kept : limits.Blobs blobs) (same : second.length = first.length) :
    Within limits values (blobs.insert key second) where
  entries := by
    have before := within.entries
    rwa [count_insert] at before ⊢
  bytes := by
    have before := within.bytes
    rw [totalSize, totalSize, weight_insert, entrySize] at before ⊢
    rwa [same]
  values := within.values
  blobs := by
    have mine := within.blobs key first (Finmap.lookup_insert _)
    exact all_insert kept ⟨mine.1, same ▸ mine.2⟩

theorem Within.put {key value : Bytes} (within : Within store.limits values blobs)
    (room : ¬overQuota store (values.insert key value) blobs) (shortKey : key.length ≤ store.maxKeySize)
    (shortValue : value.length ≤ store.maxValueSize) : Within store.limits (values.insert key value) blobs :=
  ⟨(not_overQuota.mp room).1, (not_overQuota.mp room).2, all_insert within.values ⟨shortKey, shortValue⟩, within.blobs⟩

theorem Within.erase (within : Within limits values blobs) (key : Bytes) : Within limits (values.erase key) blobs where
  entries := Nat.le_trans (Nat.add_le_add_right (count_erase_le values key) _) within.entries
  bytes := Nat.le_trans (Nat.add_le_add_right (weight_erase_le entrySize values key) _) within.bytes
  values := all_erase within.values
  blobs := within.blobs

/-- Contents that respect limits of zero respect all limits. -/
theorem Within.zero (within : Within (StoreData.limits {}) values blobs) : Within limits values blobs where
  entries := Nat.le_trans within.entries (Nat.zero_le _)
  bytes := Nat.le_trans within.bytes (Nat.zero_le _)
  values := fun key value found => ⟨Nat.le_trans (within.values key value found).1 (Nat.zero_le _),
    Nat.le_trans (within.values key value found).2 (Nat.zero_le _)⟩
  blobs := fun key value found => ⟨Nat.le_trans (within.blobs key value found).1 (Nat.zero_le _),
    Nat.le_trans (within.blobs key value found).2 (Nat.zero_le _)⟩

theorem replacement_bounded {entries : List (Bytes × Bytes)} {start : Values}
    (bounded : store.limits.Values start) (accepted : replacement store entries start = some values) :
    store.limits.Values values := by
  induction entries generalizing start with
  | nil =>
      cases accepted
      exact bounded
  | cons entry entries ih =>
      rw [replacement] at accepted
      split at accepted
      · cases accepted
      · rename_i good
        rw [not_or, not_or, not_or, Nat.not_lt, Nat.not_lt] at good
        exact ih (all_insert bounded ⟨good.2.1, good.2.2.1⟩) accepted

theorem stage_bounded {target : Option (Bytes × Bytes)} (bounded : limits.Values values)
    (valid : ∀ entry ∈ target, entry.1.length ≤ limits.keySize ∧ entry.2.length ≤ limits.valueSize) :
    limits.Values (stage values target) := by
  cases target with
  | none => exact bounded
  | some entry => exact all_insert bounded (valid entry rfl)

end Bounds

section Invariant

/-- The contents of a store and those that a rollback restores respect the limits, and so do the contents
that a current writer is about to commit. -/
def quota : Local where
  store := fun _ store => Within store.limits store.values store.blobs ∧
    Within store.limits store.rollbackValues store.rollbackBlobs ∧ store.limits.Values store.migrationValues
  transaction := fun _ store transaction => transaction.writing = true →
    transaction.baseGeneration ≤ store.generation ∧
      (transaction.baseGeneration = store.generation → Within store.limits transaction.values store.blobs)
  blob := fun _ store blob => blob.writing = true → blob.generation ≤ store.generation ∧
    (blob.generation = store.generation → Within store.limits store.values (store.blobs.insert blob.key blob.value))

/-- The staged values of a migration leave room for the blobs when it is committed. -/
def migrationFits (backend : Backend) : Call → Bool
  | .commitMigration handle => (backend.migrations.lookup handle).all fun operation =>
      let store := backend.data operation.store
      decide (store.generation = store.migrationSourceGeneration → ¬overQuota store store.migrationValues store.blobs)
  | _ => true

variable {backend later : Backend}

/-- A mutation leaves the open writers behind. -/
theorem quota_mutation (name : String) (change : StoreData → StoreData) (holds : quota.Holds backend)
    (advances : (change (backend.data name)).generation = (backend.data name).generation + 1)
    (store : quota.store name (backend.data name) → quota.store name (change (backend.data name))) :
    quota.Holds (backend.update name change) := by
  refine holds.change (fun _ _ _ known => known) rfl rfl rfl store ?_ ?_ fun _ _ _ _ _ => trivial
  · intro handle transaction _ _ known writing
    have below := (known writing).1
    exact ⟨by omega, fun same => by omega⟩
  · intro handle blob _ _ known writing
    have below := (known writing).1
    exact ⟨by omega, fun same => by omega⟩

/-- A change of marks and counters keeps the quotas. -/
theorem quota_marks {name : String} {change : StoreData → StoreData} (holds : quota.Holds backend)
    (limits : (change (backend.data name)).limits = (backend.data name).limits)
    (generation : (change (backend.data name)).generation = (backend.data name).generation)
    (values : (change (backend.data name)).values = (backend.data name).values)
    (blobs : (change (backend.data name)).blobs = (backend.data name).blobs)
    (store : quota.store name (backend.data name) → quota.store name (change (backend.data name))) :
    quota.Holds (backend.update name change) := by
  refine holds.change (fun _ _ _ known => known) rfl rfl rfl store ?_ ?_ fun _ _ _ _ _ => trivial
  · intro handle transaction _ _ known writing
    rw [limits, generation, blobs]
    exact known writing
  · intro handle blob _ _ known writing
    rw [limits, generation, blobs, values]
    exact known writing

theorem quota_release (holds : quota.Holds backend) (writing : Bool) (name : String) :
    quota.Holds (backend.release writing name) := by
  rw [Backend.release]
  split
  · exact quota_marks holds rfl rfl rfl rfl fun known => ⟨known.1, known.2⟩
  · exact holds

/-- Every call keeps the quotas when a committed migration fits. -/
theorem quota_kept (holds : quota.Holds backend) {call : Call} {result : Except Failure Reply}
    (fits : migrationFits backend call = true) (effect : Effect backend call result later) : quota.Holds later := by
  cases effect with
  | quiet same _ => exact holds.quiet same
  | created descriptor absent =>
      have empty : backend.data descriptor.logicalName = {} := by rw [Backend.data, absent]; rfl
      have made : quota.Holds (backend.update descriptor.logicalName fun _ => newStore descriptor) := by
        refine holds.change (fun _ _ _ known => known) rfl rfl rfl
          (fun _ => ⟨within_empty, within_empty, all_empty⟩) ?_ ?_ fun _ _ _ _ _ => trivial
        · intro handle transaction _ _ known writing
          rw [empty] at known
          exact ⟨(known writing).1, fun same => ((known writing).2 same).zero⟩
        · intro handle blob _ _ known writing
          rw [empty] at known
          exact ⟨(known writing).1, fun same => ((known writing).2 same).zero⟩
      exact made.register descriptor
  | attached descriptor _ => exact holds.register descriptor
  | stopped => exact holds.stop fun _ _ _ known => ⟨known.1, known.2⟩
  | rejected store => exact quota_marks holds rfl rfl rfl rfl fun known => ⟨known.1, known.2⟩
  | @begunRead _ item found =>
      exact holds.addTransaction fun writing => absurd writing Bool.false_ne_true
  | @begunWrite _ _ item _ asked found free settled =>
      have occupied : quota.Holds (backend.update item.store occupy) :=
        quota_marks holds rfl rfl rfl rfl fun known => ⟨known.1, known.2⟩
      refine occupied.addTransaction fun _ => ?_
      rw [Backend.data_update, if_pos rfl]
      exact ⟨Nat.le_refl _, fun _ => (holds.stores item.store).1⟩
  | @put handle transaction key value found writing named shortKey shortValue room =>
      refine holds.setTransaction fun _ => ?_
      obtain ⟨below, within⟩ := holds.transactions handle transaction found writing
      exact ⟨below, fun same => (within same).put room shortKey shortValue⟩
  | @erased handle transaction key _ found writing =>
      refine holds.setTransaction fun _ => ?_
      obtain ⟨below, within⟩ := holds.transactions handle transaction found writing
      exact ⟨below, fun same => (within same).erase key⟩
  | @committed handle transaction _ found writing current =>
      obtain ⟨_, within⟩ := holds.transactions handle transaction found writing
      have mutated := quota_mutation transaction.store (commitData transaction.values) holds rfl
        fun known =>
        ⟨within current.symm, known.2⟩
      exact mutated.setTransaction fun active => absurd active (by simp [Transaction.writing])
  | @finished _ handle transaction _ found _ =>
      refine (quota_release holds _ _).setTransaction fun active => absurd active (by simp [Transaction.writing])
  | closedTransaction found => exact (quota_release holds _ _).removeTransaction _
  | @openedBlob _ _ blob _ reads =>
      refine holds.addBlob fun active => ?_
      rw [BlobOperation.writing, reads] at active
      cases active
  | @begunReplace _ item key size _ found named free settled shortKey shortBlob room =>
      have occupied : quota.Holds (backend.update item.store occupy) :=
        quota_marks holds rfl rfl rfl rfl fun known => ⟨known.1, known.2⟩
      refine occupied.addBlob fun _ => ?_
      rw [Backend.data_update, if_pos rfl]
      have within := (holds.stores item.store).1
      obtain ⟨few, small⟩ := not_overQuota.mp room
      refine ⟨Nat.le_refl _, fun _ => ⟨few, small, within.values, all_insert within.blobs ⟨shortKey, ?_⟩⟩⟩
      rw [List.length_replicate]
      exact shortBlob
  | @wroteBlob handle blob input found writing room =>
      refine holds.setBlob fun _ => ?_
      obtain ⟨below, within⟩ := holds.blobs handle blob found writing
      refine ⟨below, fun same => (within same).rewrite (holds.stores _).1.blobs ?_⟩
      simp only [List.length_append, List.length_take, List.length_drop]
      omega
  | @committedBlob handle blob _ found writing complete current =>
      obtain ⟨_, within⟩ := holds.blobs handle blob found writing
      have mutated := quota_mutation blob.store (commitBlobData blob.key blob.value) holds rfl
        fun known =>
        ⟨within current.symm, known.2⟩
      exact mutated.setBlob fun active => absurd active (by simp [BlobOperation.writing])
  | finishedBlob found _ =>
      refine (quota_release holds _ _).setBlob fun active => absurd active (by simp [BlobOperation.writing])
  | closedBlob found => exact (quota_release holds _ _).removeBlob _
  | @reset _ item entries _ values _ found free settled accepted few small =>
      refine quota_mutation _ _ holds rfl fun known => ⟨⟨?_, ?_, ?_, all_empty⟩, known.2⟩
      · exact few
      · exact small
      · have bounded : (backend.data item.store).limits.Values values := replacement_bounded all_empty accepted
        exact bounded
  | startedMigration =>
      refine (quota_marks holds ?_ ?_ ?_ ?_ fun known => ?_).addMigration trivial
      all_goals first | rfl | exact ⟨known.1, known.2.1, all_empty⟩
  | resumedMigration =>
      exact (quota_marks holds rfl rfl rfl rfl fun known => ⟨known.1, known.2⟩).addMigration trivial
  | @applied handle operation source target found named valid =>
      exact quota_marks holds rfl rfl rfl rfl fun known =>
        ⟨known.1, known.2.1, stage_bounded known.2.2 fun entry listed => (valid entry listed).2⟩
  | @migrated handle operation _ found current =>
      rw [migrationFits, found, Option.all_some, decide_eq_true_iff] at fits
      obtain ⟨few, small⟩ := not_overQuota.mp (fits current)
      exact quota_mutation _ _ holds rfl fun known => ⟨⟨few, small, known.2.2, known.1.blobs⟩, known.1, all_empty⟩
  | deactivated found => exact quota_marks holds rfl rfl rfl rfl fun known => ⟨known.1, known.2⟩
  | closedMigration found =>
      exact (quota_marks holds rfl rfl rfl rfl fun known => ⟨known.1, known.2⟩).removeMigration _
  | rolledBack found available =>
      exact quota_mutation _ _ holds rfl fun known => ⟨known.2.1, within_empty, known.2.2⟩

theorem quota_create (maxStores maxTransactions : Nat) : quota.Holds (create maxStores maxTransactions) where
  stores := fun _ => ⟨within_empty, within_empty, all_empty⟩
  transactions := fun _ _ found => by cases found
  blobs := fun _ _ found => by cases found
  migrations := fun _ _ _ => trivial

/-- The memory provider keeps the quotas of every store in every run whose committed migrations leave room
for the blobs. -/
theorem quotas_respected (maxStores maxTransactions : Nat) (backend : Backend)
    (reached : system.Reaches (fun backend call => migrationFits backend call = true)
      (create maxStores maxTransactions) backend)
    (name : String) (store : StoreData) (found : backend.stores.lookup name = some store) :
    Within store.limits store.values store.blobs := by
  have holds : quota.Holds backend := by
    refine reached.invariant (quota_create maxStores maxTransactions) ?_
    intro state call later holds fits performed
    cases performed
    exact quota_kept holds fits (perform_effect state call)
  have within := (holds.stores name).1
  rwa [Backend.data, found] at within

end Invariant

/-- This store holds at most two entries. -/
def cabin : StoreDescriptor where
  logicalName := "cabin"
  access := .readWrite
  minimumDurability := .buffered
  capacityBytes := 64
  maxEntries := 2
  maxKeySize := 8
  maxValueSize := 8
  maxBlobSize := 8
  schemaId := "cabin"
  schemaVersion := 1

def cabinUpgrade : MigrationDescriptor where
  migrationId := "upgrade"
  sourceSchemaId := "cabin"
  sourceSchemaVersion := 1
  targetSchemaId := "cabin"
  targetSchemaVersion := 2
  durability := .buffered
  allowDowngrade := false

/-- One value and one blob are stored, and a migration stages its targets. -/
def upgradeRun (targets : List (Bytes × Bytes × Bytes)) : List Call :=
  [.start, .openStore cabin, .beginWrite 1 .buffered, .put 2 [1] [10], .commit 2,
    .beginBlobReplace 1 [9] 1 .buffered, .writeBlob 3 0 [90], .commitBlob 3, .beginMigration 1 cabinUpgrade none] ++
  targets.map (fun target => .applyMigration 4 target.1 (some target.2)) ++ [.commitMigration 4]

/-- A migration raises the schema version of the cabin. -/
theorem quotas_respected_upgraded : ∃ backend, system.Reaches
    (fun backend call => migrationFits backend call = true) (create 4 4) backend ∧
    (backend.data "cabin").schemaVersion = 2 ∧
    ∀ name store, backend.stores.lookup name = some store → Within store.limits store.values store.blobs := by
  have executed : (system.run (fun backend call => migrationFits backend call)
      ((upgradeRun [([1], [1], [11])]).map fun call _ => call) (create 4 4)).any
      (fun backend => (backend.data "cabin").schemaVersion == 2) = true := by decide +kernel
  obtain ⟨backend, reached, upgraded⟩ := Concurrency.System.Reaches.exists_of_run _ (fun _ _ fits => fits) _ _ executed
  exact ⟨backend, reached, by simpa using upgraded,
    fun name store found => quotas_respected 4 4 backend reached name store found⟩

/-- A migration that stages two values is committed next to a blob. -/
theorem migration_exceeds_quota : ∃ backend store, system.Reaches (fun _ _ => True) (create 4 4) backend ∧
    backend.stores.lookup "cabin" = some store ∧ count store.values + count store.blobs > store.maxEntries := by
  have executed : (system.run (fun _ _ => true)
      ((upgradeRun [([1], [1], [11]), ([2], [2], [12])]).map fun call _ => call) (create 4 4)).any
      (fun backend => (backend.stores.lookup "cabin").any fun store =>
        decide (count store.values + count store.blobs > store.maxEntries)) = true := by decide +kernel
  obtain ⟨backend, reached, exceeded⟩ := Concurrency.System.Reaches.exists_of_run _ (fun _ _ _ => trivial) _ _ executed
  obtain ⟨store, found, large⟩ := (Option.any_eq_true _ _).mp exceeded
  exact ⟨backend, store, reached, found, of_decide_eq_true large⟩

end OpenVehicle.Per.Memory
