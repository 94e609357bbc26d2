/-
This file lists what one call can do to the state of the memory provider. The properties of its runs are
derived from this list.
-/

import OpenVehicle.Concurrency.System
import OpenVehicle.Per.Memory

namespace OpenVehicle.Per.Memory

open OrderedMap (count)

namespace Backend
variable (backend : Backend) (store other : String) (change : StoreData → StoreData) (writing : Bool)

@[simp] theorem data_update : (backend.update store change).data other =
    if other = store then change (backend.data store) else backend.data other := by
  by_cases same : other = store
  · rw [if_pos same, same, data, update, AList.lookup_insert]
    rfl
  · rw [if_neg same, data, update, AList.lookup_insert_ne same]
    rfl

theorem update_update (next : StoreData → StoreData) :
    (backend.update store change).update store next = backend.update store (next ∘ change) := by
  rw [update, data_update, if_pos rfl, update, update, AList.insert_insert]
  rfl

/-- The data of a store whose writer may have ended. -/
def freed (writing : Bool) (data : StoreData) : StoreData :=
  { data with writerActive := !writing && data.writerActive }

@[simp] theorem data_release : (backend.release writing store).data other =
    if other = store then freed writing (backend.data store) else backend.data other := by
  cases writing with
  | false =>
      rw [release, if_neg Bool.false_ne_true]
      by_cases same : other = store
      · rw [if_pos same, same, freed, Bool.not_false, Bool.true_and]
      · rw [if_neg same]
  | true =>
      rw [release, if_pos rfl, data_update]
      rfl

theorem release_fields : (backend.release writing store).transactions = backend.transactions ∧
    (backend.release writing store).blobs = backend.blobs ∧
    (backend.release writing store).migrations = backend.migrations ∧
    (backend.release writing store).nextHandle = backend.nextHandle := by
  cases writing <;> exact ⟨rfl, rfl, rfl, rfl⟩

@[simp] theorem transactions_release : (backend.release writing store).transactions = backend.transactions :=
  (release_fields backend store writing).1

@[simp] theorem blobs_release : (backend.release writing store).blobs = backend.blobs :=
  (release_fields backend store writing).2.1

@[simp] theorem migrations_release : (backend.release writing store).migrations = backend.migrations :=
  (release_fields backend store writing).2.2.1

@[simp] theorem nextHandle_release : (backend.release writing store).nextHandle = backend.nextHandle :=
  (release_fields backend store writing).2.2.2

end Backend

/-- These calls change the stores, their writers or their migrations. -/
def effective : Call → Bool
  | .openStore _ | .beginRead _ | .beginWrite _ _ | .beginWriteAt _ _ _ | .put _ _ _ | .erase _ _ | .commit _ | .abort _
  | .closeTransaction _ | .beginBlobReplace _ _ _ _ | .writeBlob _ _ _ | .commitBlob _ | .abortBlob _
  | .closeBlob _ | .resetStore _ _ _ | .beginMigration _ _ _ | .applyMigration _ _ _ | .commitMigration _
  | .abortMigration _ | .closeMigration _ | .rollbackStore _ _ | .stop => true
  | _ => false

/-- The tables of stores and operations agree. -/
structure Same (backend later : Backend) : Prop where
  stores : later.stores = backend.stores
  transactions : later.transactions = backend.transactions
  blobs : later.blobs = backend.blobs
  migrations : later.migrations = backend.migrations
  nextHandle : backend.nextHandle ≤ later.nextHandle

/-- A write transaction with the given expectation may begin. -/
def opensWrite (call : Call) (handle : Handle) (durability : Durability) : Prop :=
  call = .beginWrite handle durability ∨ ∃ expected, call = .beginWriteAt handle durability expected

inductive Effect (backend : Backend) : Call → Except Failure Reply → Backend → Prop
  | quiet {call : Call} {result : Except Failure Reply} {later : Backend} (same : Same backend later)
      (passive : effective call = false ∨ ∃ failure, result = .error failure) :
      Effect backend call result later
  | created (descriptor : StoreDescriptor)
      (absent : backend.stores.lookup descriptor.logicalName = none) :
      Effect backend (.openStore descriptor) (.ok (.opened backend.nextHandle))
        (register { backend with
          stores := backend.stores.insert descriptor.logicalName (newStore descriptor) } descriptor).2
  | attached (descriptor : StoreDescriptor)
      (present : (backend.stores.lookup descriptor.logicalName).isSome = true) :
      Effect backend (.openStore descriptor) (.ok (.opened backend.nextHandle)) (register backend descriptor).2
  | stopped : Effect backend .stop (.ok .done) (stop backend)
  | rejected {call : Call} {failure : Failure} (store : String) :
      Effect backend call (.error failure) (backend.update store reject)
  | begunRead {handle : Handle} {item : StoreHandle} (found : backend.storeHandles.lookup handle = some item) :
      Effect backend (.beginRead handle) (.ok (.begun backend.nextHandle (backend.data item.store).generation))
        (addTransaction backend
          { store := item.store, values := (backend.data item.store).values,
            baseGeneration := (backend.data item.store).generation, durability := .buffered, write := false })
  | begunWrite {call : Call} {handle : Handle} {item : StoreHandle} {durability : Durability}
      (asked : opensWrite call handle durability) (found : backend.storeHandles.lookup handle = some item)
      (free : (backend.data item.store).writerActive = false)
      (settled : (backend.data item.store).migrationId = "") :
      Effect backend call (.ok (.begun backend.nextHandle (backend.data item.store).generation))
        (addTransaction (backend.update item.store occupy)
          { store := item.store, values := (backend.data item.store).values,
            baseGeneration := (backend.data item.store).generation, durability := durability, write := true })
  | put {handle : Handle} {transaction : Transaction} {key value : Bytes}
      (found : backend.transactions.lookup handle = some transaction) (writing : transaction.writing = true)
      (named : key ≠ []) (shortKey : key.length ≤ (backend.data transaction.store).maxKeySize)
      (shortValue : value.length ≤ (backend.data transaction.store).maxValueSize)
      (room : ¬overQuota (backend.data transaction.store) (transaction.values.insert key value)
        (backend.data transaction.store).blobs) :
      Effect backend (.put handle key value) (.ok .done)
        (setTransaction backend handle { transaction with values := transaction.values.insert key value })
  | erased {handle : Handle} {transaction : Transaction} {key : Bytes} {present : Bool}
      (found : backend.transactions.lookup handle = some transaction) (writing : transaction.writing = true) :
      Effect backend (.erase handle key) (.ok (.erased present))
        (setTransaction backend handle { transaction with values := transaction.values.erase key })
  | committed {handle : Handle} {transaction : Transaction} {result : CommitResult}
      (found : backend.transactions.lookup handle = some transaction) (writing : transaction.writing = true)
      (current : (backend.data transaction.store).generation = transaction.baseGeneration) :
      Effect backend (.commit handle) (.ok (.committed result))
        (setTransaction (backend.update transaction.store (commitData transaction.values)) handle
          { transaction with finished := true })
  | finished {call : Call} {handle : Handle} {transaction : Transaction} {result : Except Failure Reply}
      (found : backend.transactions.lookup handle = some transaction)
      (asked : call = .abort handle ∨ call = .commit handle ∧ ∃ failure, result = .error failure) :
      Effect backend call result
        (setTransaction (backend.release transaction.writing transaction.store) handle
          { transaction with finished := true })
  | closedTransaction {handle : Handle} {transaction : Transaction}
      (found : backend.transactions.lookup handle = some transaction) :
      Effect backend (.closeTransaction handle) (.ok .done)
        (removeTransaction (backend.release transaction.writing transaction.store) handle)
  | openedBlob {call : Call} {result : Except Failure Reply} {blob : BlobOperation}
      (passive : effective call = false) (reads : blob.write = false) :
      Effect backend call result (addBlob backend blob)
  | begunReplace {handle : Handle} {item : StoreHandle} {key : Bytes} {size : Nat} {durability : Durability}
      (found : backend.storeHandles.lookup handle = some item) (named : key ≠ [])
      (free : (backend.data item.store).writerActive = false)
      (settled : (backend.data item.store).migrationId = "")
      (shortKey : key.length ≤ (backend.data item.store).maxKeySize)
      (shortBlob : size ≤ (backend.data item.store).maxBlobSize)
      (room : ¬overQuota (backend.data item.store) (backend.data item.store).values
        ((backend.data item.store).blobs.insert key (List.replicate size 0))) :
      Effect backend (.beginBlobReplace handle key size durability)
        (.ok (.begun backend.nextHandle (backend.data item.store).generation))
        (addBlob (backend.update item.store occupy)
          { store := item.store, key := key, value := List.replicate size 0,
            generation := (backend.data item.store).generation, written := 0, durability := durability,
            write := true })
  | wroteBlob {handle : Handle} {blob : BlobOperation} {input : Bytes}
      (found : backend.blobs.lookup handle = some blob) (writing : blob.writing = true)
      (room : input.length ≤ blob.value.length - blob.written) :
      Effect backend (.writeBlob handle blob.written input) (.ok .done)
        (setBlob backend handle
          { blob with
            value := blob.value.take blob.written ++ input ++ blob.value.drop (blob.written + input.length)
            written := blob.written + input.length })
  | committedBlob {handle : Handle} {blob : BlobOperation} {result : CommitResult}
      (found : backend.blobs.lookup handle = some blob) (writing : blob.writing = true)
      (complete : blob.written = blob.value.length)
      (current : (backend.data blob.store).generation = blob.generation) :
      Effect backend (.commitBlob handle) (.ok (.committed result))
        (setBlob (backend.update blob.store (commitBlobData blob.key blob.value)) handle
          { blob with finished := true })
  | finishedBlob {call : Call} {handle : Handle} {blob : BlobOperation} {result : Except Failure Reply}
      (found : backend.blobs.lookup handle = some blob)
      (asked : call = .abortBlob handle ∨ call = .commitBlob handle ∧ ∃ failure, result = .error failure) :
      Effect backend call result
        (setBlob (backend.release blob.writing blob.store) handle { blob with finished := true })
  | closedBlob {handle : Handle} {blob : BlobOperation} (found : backend.blobs.lookup handle = some blob) :
      Effect backend (.closeBlob handle) (.ok .done)
        (removeBlob (backend.release blob.writing blob.store) handle)
  | reset {handle : Handle} {item : StoreHandle} {entries : List (Bytes × Bytes)} {durability : Durability}
      {values : Values} {result : CommitResult} (found : backend.storeHandles.lookup handle = some item)
      (free : (backend.data item.store).writerActive = false)
      (settled : (backend.data item.store).migrationId = "")
      (accepted : replacement (backend.data item.store) entries ∅ = some values)
      (few : count values ≤ (backend.data item.store).maxEntries)
      (small : totalSize values ≤ (backend.data item.store).capacity) :
      Effect backend (.resetStore handle entries durability) (.ok (.committed result))
        (backend.update item.store (resetData values))
  | startedMigration {handle : Handle} {item : StoreHandle} {descriptor : MigrationDescriptor}
      {checkpoint : Buffer} {status : MigrationStatus}
      (found : backend.storeHandles.lookup handle = some item) (named : descriptor.migrationId ≠ "")
      (targeted : descriptor.targetSchemaId ≠ "" ∧ descriptor.targetSchemaVersion ≠ 0)
      (free : (backend.data item.store).writerActive = false)
      (settled : (backend.data item.store).migrationId = "") (fresh : status.resumed = false) :
      Effect backend (.beginMigration handle descriptor checkpoint)
        (.ok (.migration backend.nextHandle status []))
        (addMigration (backend.update item.store (activate ∘ startMigration descriptor))
          ⟨item.store, descriptor.durability⟩)
  | resumedMigration {handle : Handle} {item : StoreHandle} {descriptor : MigrationDescriptor}
      {checkpoint : Buffer} {status : MigrationStatus} {last : Bytes}
      (found : backend.storeHandles.lookup handle = some item)
      (free : (backend.data item.store).writerActive = false)
      (pending : (backend.data item.store).migrationId ≠ "") (again : status.resumed = true) :
      Effect backend (.beginMigration handle descriptor checkpoint)
        (.ok (.migration backend.nextHandle status last))
        (addMigration (backend.update item.store activate) ⟨item.store, descriptor.durability⟩)
  | applied {handle : Handle} {operation : MigrationOperation} {source : Bytes}
      {target : Option (Bytes × Bytes)} (found : backend.migrations.lookup handle = some operation)
      (named : source ≠ [])
      (valid : ∀ entry ∈ target, entry.1 ≠ [] ∧ entry.1.length ≤ (backend.data operation.store).maxKeySize ∧
        entry.2.length ≤ (backend.data operation.store).maxValueSize) :
      Effect backend (.applyMigration handle source target) (.ok .done)
        (backend.update operation.store
          (applyData source (stage (backend.data operation.store).migrationValues target)))
  | migrated {handle : Handle} {operation : MigrationOperation} {result : CommitResult}
      (found : backend.migrations.lookup handle = some operation)
      (current : (backend.data operation.store).generation = (backend.data operation.store).migrationSourceGeneration) :
      Effect backend (.commitMigration handle) (.ok (.committed result))
        (backend.update operation.store migrateData)
  | deactivated {handle : Handle} {operation : MigrationOperation}
      (found : backend.migrations.lookup handle = some operation) :
      Effect backend (.abortMigration handle) (.ok .done) (backend.update operation.store deactivate)
  | closedMigration {handle : Handle} {operation : MigrationOperation}
      (found : backend.migrations.lookup handle = some operation) :
      Effect backend (.closeMigration handle) (.ok .done)
        (removeMigration (backend.update operation.store deactivate) handle)
  | rolledBack {handle : Handle} {item : StoreHandle} {durability : Durability} {result : CommitResult}
      (found : backend.storeHandles.lookup handle = some item)
      (available : (backend.data item.store).rollbackAvailable = true) :
      Effect backend (.rollbackStore handle durability) (.ok (.committed result))
        (backend.update item.store rollbackData)

section Inversion
variable {backend : Backend}

/-- The outcome of a call is one of its effects. -/
abbrev Performed (backend : Backend) (call : Call) (outcome : Outcome Reply) : Prop :=
  Effect backend call outcome.1 outcome.2

theorem Same.refl : Same backend backend := ⟨rfl, rfl, rfl, rfl, Nat.le_refl _⟩

theorem Same.setError (text : String) : Same backend (backend.setError text) := ⟨rfl, rfl, rfl, rfl, Nat.le_refl _⟩

/-- A refused call may leave a text. -/
theorem Effect.refused {A : Type} {call : Call} {reply : A → Reply} {later : Backend} {status : Status}
    (same : Same backend later) : Performed backend call (answer reply (later.refuse status)) :=
  .quiet same (.inr ⟨⟨status, []⟩, rfl⟩)

theorem openStore_effect (descriptor : StoreDescriptor) :
    Performed backend (.openStore descriptor) (answer .opened (openStore backend descriptor)) := by
  unfold openStore
  split
  · exact .refused .refl
  split
  · exact .refused .refl
  split
  · exact .refused (.setError _)
  split
  · rename_i absent
    split
    · exact .refused (.setError _)
    · exact .created descriptor absent
  · rename_i present
    split
    · exact .attached descriptor (by rw [present]; rfl)
    · exact .refused (.setError _)

theorem closeStore_effect (handle : Handle) :
    Performed backend (.closeStore handle) (answer (fun _ => .done) (closeStore backend handle)) := by
  unfold closeStore
  split
  · exact .refused .refl
  · exact .quiet ⟨rfl, rfl, rfl, rfl, Nat.le_refl _⟩ (.inl rfl)

theorem beginRead_effect (handle : Handle) : Performed backend (.beginRead handle)
      (answer (fun result => .begun result.1 result.2) (beginRead backend handle)) := by
  unfold beginRead beginTransaction
  split
  · exact .refused .refl
  · rename_i item found
    dsimp only
    split
    · exact .refused (.setError _)
    · exact .begunRead found

theorem beginWrite_effect {call : Call} {handle : Handle} {durability : Durability}
    {expectedGeneration : Option Nat} (asked : opensWrite call handle durability) :
    Performed backend call (answer (fun result => .begun result.1 result.2)
      (beginTransaction backend handle durability true expectedGeneration)) := by
  unfold beginTransaction
  split
  · exact .refused .refl
  · rename_i item found
    simp only [Bool.true_and, if_true]
    split
    · exact .refused (.setError _)
    split
    · exact .refused .refl
    split
    · exact .refused (.setError _)
    split
    · exact .refused .refl
    split
    · exact .refused .refl
    split
    · exact .rejected item.store
    · rename_i free settled _
      exact .begunWrite asked found (by simpa using free) (by simpa using settled)

section
variable (handle : Handle)
include handle

theorem put_effect (key value : Bytes) :
    Performed backend (.put handle key value) (answer (fun _ => .done) (put backend handle key value)) := by
  unfold put
  split
  · exact .refused .refl
  · rename_i named
    split
    · exact .refused .refl
    · rename_i transaction found
      dsimp only
      split
      · exact .refused .refl
      split
      · exact .refused (.setError _)
      split
      · exact .refused (.setError _)
      · rename_i writing short room
        rw [not_or, Nat.not_lt, Nat.not_lt] at short
        exact .put found (by simpa using writing) named short.1 short.2 room

theorem erase_effect (key : Bytes) :
    Performed backend (.erase handle key) (answer .erased (erase backend handle key)) := by
  unfold erase
  split
  · exact .refused .refl
  split
  · exact .refused .refl
  · rename_i transaction found
    split
    · exact .refused .refl
    · rename_i writing
      exact .erased found (by simpa using writing)

theorem commit_effect : Performed backend (.commit handle) (answer .committed (commit backend handle)) := by
  unfold commit
  split
  · exact .refused .refl
  · rename_i transaction found
    dsimp only
    split
    · exact .refused .refl
    · rename_i writing
      have writing : transaction.writing = true := by simpa using writing
      split
      · have ended : Effect backend (.commit handle) (.error ⟨.conflict, []⟩)
            (setTransaction (backend.release transaction.writing transaction.store) handle
              { transaction with finished := true }) := .finished found (.inr ⟨rfl, _, rfl⟩)
        rwa [writing] at ended
      · rename_i current
        exact .committed found writing (not_not.mp current)

theorem abort_effect : Performed backend (.abort handle) (answer (fun _ => .done) (abort backend handle)) := by
  unfold abort
  split
  · exact .refused .refl
  · rename_i transaction found
    exact .finished found (.inl rfl)

theorem closeTransaction_effect :
    Performed backend (.closeTransaction handle) (answer (fun _ => .done) (closeTransaction backend handle)) := by
  unfold closeTransaction
  split
  · exact .refused .refl
  · rename_i transaction found
    exact .closedTransaction found

theorem openBlobRead_effect (key : Bytes) : Performed backend (.openBlobRead handle key)
      (answer (fun result => .blob result.1 result.2.1 result.2.2) (openBlobRead backend handle key)) := by
  unfold openBlobRead
  split
  · exact .refused .refl
  split
  · exact .refused .refl
  dsimp only
  split
  · exact .refused .refl
  · exact .openedBlob rfl rfl

theorem beginBlobReplace_effect (key : Bytes) (size : Nat) (durability : Durability) :
    Performed backend (.beginBlobReplace handle key size durability) (answer (fun result => .begun result.1 result.2)
        (beginBlobReplace backend handle key size durability)) := by
  unfold beginBlobReplace
  split
  · exact .refused .refl
  · rename_i named
    split
    · exact .refused .refl
    · rename_i item found
      dsimp only
      split
      · exact .refused .refl
      split
      · exact .refused .refl
      split
      · exact .refused .refl
      split
      · exact .refused .refl
      split
      · exact .refused .refl
      split
      · exact .refused .refl
      · rename_i free settled short room
        rw [not_or, Nat.not_lt, Nat.not_lt] at short
        exact .begunReplace found named (by simpa using free) (not_not.mp settled) short.1 short.2 room

theorem writeBlob_effect (offset : Nat) (input : Bytes) : Performed backend (.writeBlob handle offset input)
      (answer (fun _ => .done) (writeBlob backend handle offset input)) := by
  unfold writeBlob
  split
  · exact .refused .refl
  · rename_i blob found
    split
    · exact .refused .refl
    · rename_i accepted
      rw [not_or, not_or, not_not, Nat.not_lt] at accepted
      obtain ⟨writing, rfl, room⟩ := accepted
      exact .wroteBlob found (by simpa using writing) room

theorem commitBlob_effect : Performed backend (.commitBlob handle) (answer .committed (commitBlob backend handle)) := by
  unfold commitBlob
  split
  · exact .refused .refl
  · rename_i blob found
    dsimp only
    split
    · exact .refused .refl
    · rename_i accepted
      rw [not_or, not_not] at accepted
      have writing : blob.writing = true := by simpa using accepted.1
      split
      · have ended : Effect backend (.commitBlob handle) (.error ⟨.conflict, []⟩)
            (setBlob (backend.release blob.writing blob.store) handle { blob with finished := true }) :=
          .finishedBlob found (.inr ⟨rfl, _, rfl⟩)
        rwa [writing] at ended
      · rename_i current
        exact .committedBlob found writing accepted.2 (not_not.mp current)

theorem abortBlob_effect :
    Performed backend (.abortBlob handle) (answer (fun _ => .done) (abortBlob backend handle)) := by
  unfold abortBlob
  split
  · exact .refused .refl
  · rename_i blob found
    exact .finishedBlob found (.inl rfl)

theorem closeBlob_effect :
    Performed backend (.closeBlob handle) (answer (fun _ => .done) (closeBlob backend handle)) := by
  unfold closeBlob
  split
  · exact .refused .refl
  · rename_i blob found
    exact .closedBlob found

theorem openCursor_effect (start : Bytes) :
    Performed backend (.openCursor handle start) (answer .opened (openCursor backend handle start)) := by
  unfold openCursor
  split
  · exact .refused .refl
  split
  · exact .refused .refl
  · exact .quiet ⟨rfl, rfl, rfl, rfl, Nat.le_succ _⟩ (.inl rfl)

theorem nextCursor_effect (key value : Buffer) : Performed backend (.nextCursor handle key value)
      (answer (fun result => .entry result.1 result.2) (nextCursor backend handle key value)) := by
  unfold nextCursor
  split
  · exact .refused .refl
  split
  · exact .refused .refl
  split
  · exact .quiet .refl (.inl rfl)
  · exact .quiet ⟨rfl, rfl, rfl, rfl, Nat.le_refl _⟩ (.inl rfl)

theorem closeCursor_effect :
    Performed backend (.closeCursor handle) (answer (fun _ => .done) (closeCursor backend handle)) := by
  unfold closeCursor
  split
  · exact .refused .refl
  · exact .quiet ⟨rfl, rfl, rfl, rfl, Nat.le_refl _⟩ (.inl rfl)

theorem resetStore_effect (entries : List (Bytes × Bytes)) (durability : Durability) :
    Performed backend (.resetStore handle entries durability)
      (answer .committed (resetStore backend handle entries durability)) := by
  unfold resetStore
  split
  · exact .refused .refl
  · rename_i item found
    dsimp only
    split
    · exact .refused .refl
    split
    · exact .refused .refl
    split
    · exact .refused .refl
    split
    · exact .refused .refl
    · rename_i free settled
      split
      · exact .rejected item.store
      · rename_i values accepted
        split
        · exact .rejected item.store
        · rename_i room
          rw [not_or, Nat.not_lt, Nat.not_lt] at room
          exact .reset found (by simpa using free) (not_not.mp settled) accepted room.1 room.2

end

/-- A new migration has an empty checkpoint, which fits every buffer. -/
theorem enterMigration_started (name : String) (descriptor : MigrationDescriptor) (checkpoint : Buffer) :
    enterMigration (backend.update name (startMigration descriptor)) name descriptor checkpoint false =
      (.ok (backend.nextHandle, ⟨(backend.data name).generation, 0, false⟩, []),
        addMigration (backend.update name (activate ∘ startMigration descriptor)) ⟨name, descriptor.durability⟩) := by
  have fits : ¬checkpoint.capacity <
      (startMigration descriptor (backend.data name)).migrationCheckpoint.length := Nat.not_lt_zero _
  rw [enterMigration, Backend.data_update, if_pos rfl, if_neg fits, Backend.update_update]
  rfl

section
variable (handle : Handle)
include handle

theorem beginMigration_effect (descriptor : MigrationDescriptor) (checkpoint : Buffer) :
    Performed backend (.beginMigration handle descriptor checkpoint)
      (answer (fun result => .migration result.1 result.2.1 result.2.2)
        (beginMigration backend handle descriptor checkpoint)) := by
  unfold beginMigration
  split
  · exact .refused .refl
  · rename_i complete
    split
    · exact .refused .refl
    · rename_i item found
      dsimp only
      split
      · exact .refused .refl
      split
      · exact .refused .refl
      · rename_i free
        have free : (backend.data item.store).writerActive = false := by
          rw [not_or] at free
          simpa using free.1
        split
        · rename_i pending
          split
          · unfold enterMigration
            dsimp only
            split
            · exact .quiet .refl (.inr ⟨_, rfl⟩)
            · exact .resumedMigration found free pending rfl
          · exact .refused .refl
        · rename_i settled
          split
          · exact .refused .refl
          · rw [enterMigration_started]
            rw [not_or, not_or] at complete
            exact .startedMigration found complete.1 complete.2 free (not_not.mp settled) rfl

theorem applyMigration_effect (source : Bytes) (target : Option (Bytes × Bytes)) :
    Performed backend (.applyMigration handle source target)
      (answer (fun _ => .done) (applyMigration backend handle source target)) := by
  unfold applyMigration
  split
  · exact .refused .refl
  · rename_i named
    split
    · exact .refused .refl
    · rename_i operation found
      dsimp only
      split
      · exact .refused .refl
      split
      · exact .refused .refl
      · rename_i valid
        split
        · exact .refused .refl
        · refine .applied found named ?_
          rintro entry rfl
          simpa [Nat.not_lt, and_assoc] using valid

theorem commitMigration_effect :
    Performed backend (.commitMigration handle) (answer .committed (commitMigration backend handle)) := by
  unfold commitMigration
  split
  · exact .refused .refl
  · rename_i operation found
    dsimp only
    split
    · exact .refused .refl
    · rename_i current
      exact .migrated found (not_not.mp current)

theorem abortMigration_effect :
    Performed backend (.abortMigration handle) (answer (fun _ => .done) (abortMigration backend handle)) := by
  unfold abortMigration
  split
  · exact .refused .refl
  · rename_i operation found
    exact .deactivated found

theorem closeMigration_effect :
    Performed backend (.closeMigration handle) (answer (fun _ => .done) (closeMigration backend handle)) := by
  unfold closeMigration
  split
  · exact .refused .refl
  · rename_i operation found
    exact .closedMigration found

theorem rollbackStore_effect (durability : Durability) : Performed backend (.rollbackStore handle durability)
      (answer .committed (rollbackStore backend handle durability)) := by
  unfold rollbackStore
  split
  · exact .refused .refl
  · rename_i item found
    dsimp only
    split
    · exact .refused .refl
    split
    · exact .refused .refl
    · rename_i available
      exact .rolledBack found (by simpa using available)

end

/-- Every call has one of the listed effects. -/
theorem perform_effect (backend : Backend) (call : Call) : Performed backend call (perform backend call) := by
  cases call with
  | incomplete => exact .quiet .refl (.inl rfl)
  | start => exact .quiet ⟨rfl, rfl, rfl, rfl, Nat.le_refl _⟩ (.inl rfl)
  | stop => exact .stopped
  | openStore descriptor => exact openStore_effect descriptor
  | closeStore store => exact closeStore_effect store
  | beginRead store => exact beginRead_effect store
  | beginWrite store durability => exact beginWrite_effect (.inl rfl)
  | beginWriteAt store durability expected => exact beginWrite_effect (.inr ⟨expected, rfl⟩)
  | get transaction key output => exact .quiet .refl (.inl rfl)
  | put transaction key value => exact put_effect transaction key value
  | erase transaction key => exact erase_effect transaction key
  | commit transaction => exact commit_effect transaction
  | abort transaction => exact abort_effect transaction
  | closeTransaction transaction => exact closeTransaction_effect transaction
  | openBlobRead store key => exact openBlobRead_effect store key
  | beginBlobReplace store key size durability => exact beginBlobReplace_effect store key size durability
  | readBlob blob offset size => exact .quiet .refl (.inl rfl)
  | writeBlob blob offset input => exact writeBlob_effect blob offset input
  | commitBlob blob => exact commitBlob_effect blob
  | abortBlob blob => exact abortBlob_effect blob
  | closeBlob blob => exact closeBlob_effect blob
  | openCursor transaction start => exact openCursor_effect transaction start
  | nextCursor cursor key value => exact nextCursor_effect cursor key value
  | closeCursor cursor => exact closeCursor_effect cursor
  | resetStore store entries durability => exact resetStore_effect store entries durability
  | storeStatus store => exact .quiet .refl (.inl rfl)
  | beginMigration store descriptor checkpoint => exact beginMigration_effect store descriptor checkpoint
  | applyMigration migration source target => exact applyMigration_effect migration source target
  | commitMigration migration => exact commitMigration_effect migration
  | abortMigration migration => exact abortMigration_effect migration
  | closeMigration migration => exact closeMigration_effect migration
  | rollbackStore store durability => exact rollbackStore_effect store durability

end Inversion

/-- The provider as a system of calls. -/
def system : Concurrency.System Backend Call := ⟨fun call backend => some (perform backend call).2⟩

end OpenVehicle.Per.Memory
