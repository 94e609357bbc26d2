/-
This file models the storage provider that keeps its stores in memory. Every call holds the lock of the
provider, so a call is one step.
-/

import OpenVehicle.Per.Abi

namespace OpenVehicle.Per.Memory

open FiniteMap (Map)
open OrderedMap (count ascending)

structure StoreData where
  values : Values := ∅
  blobs : Values := ∅
  generation : Nat := 0
  capacity : Nat := 0
  maxEntries : Nat := 0
  maxKeySize : Nat := 0
  maxValueSize : Nat := 0
  maxBlobSize : Nat := 0
  schemaId : String := ""
  schemaVersion : Nat := 0
  writerActive : Bool := false
  successfulCommits : Nat := 0
  rejectedOperations : Nat := 0
  recoveryCount : Nat := 0
  recoveryState : RecoveryState := .clean
  rollbackValues : Values := ∅
  rollbackBlobs : Values := ∅
  rollbackSchemaId : String := ""
  rollbackSchemaVersion : Nat := 0
  rollbackAvailable : Bool := false
  migrationId : String := ""
  migrationSourceSchemaId : String := ""
  migrationSourceSchemaVersion : Nat := 0
  migrationTargetSchemaId : String := ""
  migrationTargetSchemaVersion : Nat := 0
  migrationSourceGeneration : Nat := 0
  migrationValues : Values := ∅
  migrationCheckpoint : Bytes := []
  migrationProcessed : Nat := 0
  migrationHandleActive : Bool := false

structure Cursor where
  entries : List (Bytes × Bytes)
  position : Nat := 0

/-- The objects of a store refer to it by its name, which stands for the shared pointer. -/
structure MigrationOperation where
  store : String
  durability : Durability

structure BlobOperation where
  store : String
  key : Bytes
  value : Bytes
  generation : Nat
  written : Nat
  durability : Durability
  write : Bool
  finished : Bool := false

structure StoreHandle where
  store : String
  access : Access

structure Transaction where
  store : String
  values : Values
  baseGeneration : Nat
  durability : Durability
  write : Bool
  finished : Bool := false

structure Backend where
  stores : Map String StoreData := ∅
  storeHandles : Map Handle StoreHandle := ∅
  transactions : Map Handle Transaction := ∅
  blobs : Map Handle BlobOperation := ∅
  cursors : Map Handle Cursor := ∅
  migrations : Map Handle MigrationOperation := ∅
  nextHandle : Handle := 1
  maxStores : Nat
  maxTransactions : Nat
  running : Bool := false
  error : String := ""

/-- A call returns its outputs or a failure, and the next state. -/
abbrev Outcome (A : Type) := Except Failure A × Backend

namespace Backend

variable (backend : Backend)

def setError (text : String) : Backend := { backend with error := text }

/-- The contents behind a pointer to a store. -/
def data (store : String) : StoreData := (backend.stores.lookup store).getD {}

def update (store : String) (change : StoreData → StoreData) : Backend :=
  { backend with stores := backend.stores.insert store (change (backend.data store)) }

def refuse {A : Type} (status : Status) : Outcome A := (.error ⟨status, []⟩, backend)

end Backend

open Backend (refuse)

/-- An unfinished write transaction blocks the other writers of its store. -/
def Transaction.writing (transaction : Transaction) : Bool := transaction.write && !transaction.finished

def BlobOperation.writing (blob : BlobOperation) : Bool := blob.write && !blob.finished

def vacate (data : StoreData) : StoreData := { data with writerActive := false }

/-- The end of an unfinished writer frees its store. -/
def Backend.release (backend : Backend) (writing : Bool) (store : String) : Backend :=
  if writing then backend.update store vacate else backend

section Lifecycle

def deactivate (data : StoreData) : StoreData := { data with migrationHandleActive := false }

def create (maxStores maxTransactions : Nat) : Backend :=
  { maxStores := maxStores, maxTransactions := maxTransactions }

variable (backend : Backend)

def start : Backend := { backend with running := true }

/-- The end of several operations frees the stores of the unfinished writers among them. -/
def Backend.releaseAll {A : Type} (writing : A → Bool) (store : A → String)
    (operations : List A) : Backend :=
  operations.foldl (fun backend operation => backend.release (writing operation) (store operation)) backend

def Backend.deactivateAll (stores : List String) : Backend :=
  stores.foldl (fun backend store => backend.update store deactivate) backend

/-- Every open object is given up when the provider stops. -/
def stop : Backend :=
  let transactions := backend.transactions.entries
  let blobs := backend.blobs.entries
  let migrations := backend.migrations.entries
  let released := (backend.releaseAll (·.2.writing) (·.2.store) transactions).releaseAll
    (·.2.writing) (·.2.store) blobs
  { released.deactivateAll (migrations.map (·.2.store)) with
    running := false, transactions := ∅, blobs := ∅, cursors := ∅, migrations := ∅, storeHandles := ∅ }

def lastError (output : Buffer) : Except Failure String :=
  if output.all (· < backend.error.utf8ByteSize) then
    .error ⟨.bufferTooSmall, [backend.error.utf8ByteSize]⟩
  else .ok backend.error

end Lifecycle

section Stores

def newStore (descriptor : StoreDescriptor) : StoreData :=
  { capacity := descriptor.capacityBytes
    maxEntries := descriptor.maxEntries
    maxKeySize := descriptor.maxKeySize
    maxValueSize := descriptor.maxValueSize
    maxBlobSize := descriptor.maxBlobSize
    schemaId := descriptor.schemaId
    schemaVersion := descriptor.schemaVersion }

/-- A store is opened again with the limits and the schema that it has. -/
def StoreData.matches (store : StoreData) (descriptor : StoreDescriptor) : Bool :=
  store.capacity == descriptor.capacityBytes && store.maxEntries == descriptor.maxEntries &&
    store.maxKeySize == descriptor.maxKeySize && store.maxValueSize == descriptor.maxValueSize &&
    store.maxBlobSize == descriptor.maxBlobSize && store.schemaId == descriptor.schemaId &&
    store.schemaVersion == descriptor.schemaVersion

/-- The providers refuse a descriptor without a name, a limit or a schema. -/
def incompleteDescriptor (descriptor : StoreDescriptor) : Bool :=
  descriptor.logicalName == "" || descriptor.capacityBytes == 0 || descriptor.maxEntries == 0 ||
    descriptor.maxKeySize == 0 || descriptor.maxValueSize == 0 || descriptor.maxBlobSize == 0 ||
    descriptor.schemaId == "" || descriptor.schemaVersion == 0

variable (backend : Backend)

def register (descriptor : StoreDescriptor) : Outcome Handle :=
  (.ok backend.nextHandle,
    { backend with
      storeHandles := backend.storeHandles.insert backend.nextHandle ⟨descriptor.logicalName, descriptor.access⟩
      nextHandle := backend.nextHandle + 1 })

def openStore (descriptor : StoreDescriptor) : Outcome Handle :=
  if incompleteDescriptor descriptor then refuse backend .invalidArgument
  else if !backend.running then refuse backend .shuttingDown
  else if descriptor.minimumDurability.level > Durability.buffered.level then
    refuse (backend.setError "memory provider cannot satisfy requested durability") .unsupported
  else
    match backend.stores.lookup descriptor.logicalName with
    | none =>
        if backend.stores.entries.length ≥ backend.maxStores then
          refuse (backend.setError "store limit reached") .resourceExhausted
        else
          register { backend with
            stores := backend.stores.insert descriptor.logicalName (newStore descriptor) } descriptor
    | some store =>
        if store.matches descriptor then register backend descriptor
        else refuse (backend.setError "store was reopened with incompatible limits") .invalidArgument

def closeStore (handle : Handle) : Outcome Unit :=
  match backend.storeHandles.lookup handle with
  | none => refuse backend .notFound
  | some _ => (.ok (), { backend with storeHandles := backend.storeHandles.erase handle })

def storeStatus (handle : Handle) : Except Failure StoreStatus :=
  match backend.storeHandles.lookup handle with
  | none => .error ⟨.notFound, []⟩
  | some item =>
      let store := backend.data item.store
      .ok ⟨store.generation, store.schemaVersion, store.recoveryState, store.successfulCommits,
        store.rejectedOperations, store.recoveryCount⟩

/-- The entries of a reset are accepted one after the other, and a key may occur once. -/
def replacement (store : StoreData) : List (Bytes × Bytes) → Values → Option Values
  | [], values => some values
  | (key, value) :: entries, values =>
      if key = [] ∨ key.length > store.maxKeySize ∨ value.length > store.maxValueSize ∨ key ∈ values then
        none
      else replacement store entries (values.insert key value)

def reject (data : StoreData) : StoreData :=
  { data with rejectedOperations := data.rejectedOperations + 1 }

def resetData (values : Values) (data : StoreData) : StoreData :=
  { data with
    values := values
    blobs := ∅
    generation := data.generation + 1
    successfulCommits := data.successfulCommits + 1
    recoveryCount := data.recoveryCount + 1
    recoveryState := .reset }

def resetStore (handle : Handle) (entries : List (Bytes × Bytes))
    (durability : Durability) : Outcome CommitResult :=
  match backend.storeHandles.lookup handle with
  | none => refuse backend .notFound
  | some item =>
      let store := backend.data item.store
      if item.access ≠ .readWrite then refuse backend .permissionDenied
      else if durability ≠ .buffered then refuse backend .unsupported
      else if store.writerActive then refuse backend .busy
      else if store.migrationId ≠ "" then refuse backend .busy
      else
        match replacement store entries ∅ with
        | none => refuse (backend.update item.store reject) .invalidArgument
        | some values =>
            if count values > store.maxEntries ∨ totalSize values > store.capacity then
              refuse (backend.update item.store reject) .quotaExceeded
            else (.ok ⟨store.generation + 1, durability⟩, backend.update item.store (resetData values))

end Stores

section Transactions

variable (backend : Backend)

def addTransaction (transaction : Transaction) : Backend :=
  { backend with
    transactions := backend.transactions.insert backend.nextHandle transaction
    nextHandle := backend.nextHandle + 1 }

/-- A writer takes its store. -/
def occupy (data : StoreData) : StoreData := { data with writerActive := true }

/-- A write transaction may require a generation. -/
def beginTransaction (handle : Handle) (durability : Durability) (write : Bool)
    (expectedGeneration : Option Nat) : Outcome (Handle × Nat) :=
  match backend.storeHandles.lookup handle with
  | none => refuse backend .notFound
  | some item =>
      let store := backend.data item.store
      if backend.transactions.entries.length ≥ backend.maxTransactions then
        refuse (backend.setError "transaction limit reached") .resourceExhausted
      else if write && item.access != .readWrite then refuse backend .permissionDenied
      else if write && durability != .buffered then
        refuse (backend.setError "memory provider supports buffered durability only") .unsupported
      else if write && store.writerActive then refuse backend .busy
      else if write && store.migrationId != "" then refuse backend .busy
      else if write && expectedGeneration.any (store.generation != ·) then
        refuse (backend.update item.store reject) .conflict
      else
        (.ok (backend.nextHandle, store.generation),
          addTransaction (if write then backend.update item.store occupy else backend)
            { store := item.store, values := store.values, baseGeneration := store.generation,
              durability := durability, write := write })

def beginRead (handle : Handle) : Outcome (Handle × Nat) := beginTransaction backend handle .buffered false none

def beginWrite (handle : Handle) (durability : Durability) : Outcome (Handle × Nat) :=
  beginTransaction backend handle durability true none

def beginWriteAt (handle : Handle) (durability : Durability)
    (expectedGeneration : Nat) : Outcome (Handle × Nat) :=
  beginTransaction backend handle durability true (some expectedGeneration)

def get (handle : Handle) (key : Bytes) (output : Buffer) : Except Failure Bytes :=
  if key = [] then .error ⟨.invalidArgument, []⟩
  else
    match backend.transactions.lookup handle with
    | none => .error ⟨.notFound, []⟩
    | some transaction =>
        if transaction.finished then .error ⟨.notFound, []⟩
        else
          match transaction.values.lookup key with
          | none => .error ⟨.notFound, []⟩
          | some value =>
              if output.all (· < value.length) then .error ⟨.bufferTooSmall, [value.length]⟩
              else .ok value

def setTransaction (handle : Handle) (transaction : Transaction) : Backend :=
  { backend with transactions := backend.transactions.insert handle transaction }

def removeTransaction (handle : Handle) : Backend :=
  { backend with transactions := backend.transactions.erase handle }

/-- The table of blobs counts towards the quota of the values. -/
def overQuota (store : StoreData) (values blobs : Values) : Prop :=
  count values + count blobs > store.maxEntries ∨ totalSize values + totalSize blobs > store.capacity

instance (store : StoreData) (values blobs : Values) : Decidable (overQuota store values blobs) :=
  inferInstanceAs (Decidable (_ ∨ _))

def put (handle : Handle) (key value : Bytes) : Outcome Unit :=
  if key = [] then refuse backend .invalidArgument
  else
    match backend.transactions.lookup handle with
    | none => refuse backend .invalidState
    | some transaction =>
        let store := backend.data transaction.store
        if !transaction.writing then refuse backend .invalidState
        else if key.length > store.maxKeySize ∨ value.length > store.maxValueSize then
          refuse (backend.setError "key or value exceeds its configured bound") .quotaExceeded
        else if overQuota store (transaction.values.insert key value) store.blobs then
          refuse (backend.setError "transaction exceeds store quota") .quotaExceeded
        else
          (.ok (), setTransaction backend handle
            { transaction with values := transaction.values.insert key value })

def erase (handle : Handle) (key : Bytes) : Outcome Bool :=
  if key = [] then refuse backend .invalidArgument
  else
    match backend.transactions.lookup handle with
    | none => refuse backend .invalidState
    | some transaction =>
        if !transaction.writing then refuse backend .invalidState
        else
          (.ok (decide (key ∈ transaction.values)), setTransaction backend handle
            { transaction with values := transaction.values.erase key })

def commitData (values : Values) (data : StoreData) : StoreData :=
  { data with
    values := values
    generation := data.generation + 1
    successfulCommits := data.successfulCommits + 1
    writerActive := false }

def commit (handle : Handle) : Outcome CommitResult :=
  match backend.transactions.lookup handle with
  | none => refuse backend .invalidState
  | some transaction =>
      let store := backend.data transaction.store
      if !transaction.writing then refuse backend .invalidState
      else if store.generation ≠ transaction.baseGeneration then
        refuse (setTransaction (backend.release true transaction.store) handle
          { transaction with finished := true }) .conflict
      else
        (.ok ⟨store.generation + 1, .buffered⟩,
          setTransaction (backend.update transaction.store (commitData transaction.values)) handle
            { transaction with finished := true })

def abort (handle : Handle) : Outcome Unit :=
  match backend.transactions.lookup handle with
  | none => refuse backend .notFound
  | some transaction =>
      (.ok (), setTransaction (backend.release transaction.writing transaction.store) handle
        { transaction with finished := true })

def closeTransaction (handle : Handle) : Outcome Unit :=
  match backend.transactions.lookup handle with
  | none => refuse backend .notFound
  | some transaction =>
      (.ok (), removeTransaction (backend.release transaction.writing transaction.store) handle)

end Transactions

section Blobs

variable (backend : Backend)

def addBlob (blob : BlobOperation) : Backend :=
  { backend with
    blobs := backend.blobs.insert backend.nextHandle blob
    nextHandle := backend.nextHandle + 1 }

def setBlob (handle : Handle) (blob : BlobOperation) : Backend :=
  { backend with blobs := backend.blobs.insert handle blob }

def removeBlob (handle : Handle) : Backend :=
  { backend with blobs := backend.blobs.erase handle }

def openBlobRead (handle : Handle) (key : Bytes) : Outcome (Handle × Nat × Nat) :=
  if key = [] then refuse backend .invalidArgument
  else
    match backend.storeHandles.lookup handle with
    | none => refuse backend .notFound
    | some item =>
        let store := backend.data item.store
        match store.blobs.lookup key with
        | none => refuse backend .notFound
        | some value =>
            (.ok (backend.nextHandle, value.length, store.generation), addBlob backend
                { store := item.store, key := key, value := value, generation := store.generation,
                  written := value.length, durability := .buffered, write := false })

def beginBlobReplace (handle : Handle) (key : Bytes) (size : Nat)
    (durability : Durability) : Outcome (Handle × Nat) :=
  if key = [] then refuse backend .invalidArgument
  else
    match backend.storeHandles.lookup handle with
    | none => refuse backend .notFound
    | some item =>
        let store := backend.data item.store
        if item.access ≠ .readWrite then refuse backend .permissionDenied
        else if durability ≠ .buffered then refuse backend .unsupported
        else if store.writerActive then refuse backend .busy
        else if store.migrationId ≠ "" then refuse backend .busy
        else if key.length > store.maxKeySize ∨ size > store.maxBlobSize then refuse backend .quotaExceeded
        else if overQuota store store.values (store.blobs.insert key (List.replicate size 0)) then
          refuse backend .quotaExceeded
        else
          (.ok (backend.nextHandle, store.generation), addBlob (backend.update item.store occupy)
              { store := item.store, key := key, value := List.replicate size 0,
                generation := store.generation, written := 0, durability := durability, write := true })

def readBlob (handle : Handle) (offset size : Nat) : Except Failure Bytes :=
  match backend.blobs.lookup handle with
  | none => .error ⟨.invalidArgument, []⟩
  | some blob =>
      if blob.write ∨ blob.finished ∨ offset > blob.value.length ∨ size > blob.value.length - offset then
        .error ⟨.invalidArgument, []⟩
      else .ok ((blob.value.drop offset).take size)

def writeBlob (handle : Handle) (offset : Nat) (input : Bytes) : Outcome Unit :=
  match backend.blobs.lookup handle with
  | none => refuse backend .invalidState
  | some blob =>
      if !blob.writing ∨ offset ≠ blob.written ∨ input.length > blob.value.length - offset then
        refuse backend .invalidState
      else
        (.ok (), setBlob backend handle
          { blob with
            value := blob.value.take offset ++ input ++ blob.value.drop (offset + input.length)
            written := blob.written + input.length })

def commitBlobData (key value : Bytes) (data : StoreData) : StoreData :=
  { data with
    blobs := data.blobs.insert key value
    generation := data.generation + 1
    successfulCommits := data.successfulCommits + 1
    writerActive := false }

def commitBlob (handle : Handle) : Outcome CommitResult :=
  match backend.blobs.lookup handle with
  | none => refuse backend .invalidState
  | some blob =>
      let store := backend.data blob.store
      if !blob.writing ∨ blob.written ≠ blob.value.length then refuse backend .invalidState
      else if store.generation ≠ blob.generation then
        refuse (setBlob (backend.release true blob.store) handle { blob with finished := true }) .conflict
      else
        (.ok ⟨store.generation + 1, blob.durability⟩,
          setBlob (backend.update blob.store (commitBlobData blob.key blob.value)) handle
            { blob with finished := true })

def abortBlob (handle : Handle) : Outcome Unit :=
  match backend.blobs.lookup handle with
  | none => refuse backend .notFound
  | some blob =>
      (.ok (), setBlob (backend.release blob.writing blob.store) handle { blob with finished := true })

def closeBlob (handle : Handle) : Outcome Unit :=
  match backend.blobs.lookup handle with
  | none => refuse backend .notFound
  | some blob =>
      (.ok (), removeBlob (backend.release blob.writing blob.store) handle)

end Blobs

/-- The scan starts at the first key that is not below the given one and ends at the first key that does
not continue it. -/
def scan (values : Values) (start : Bytes) : List (Bytes × Bytes) :=
  ((ascending values).dropWhile fun entry => entry.1 < start).takeWhile fun entry =>
    start.isPrefixOf entry.1

def openCursor (backend : Backend) (handle : Handle) (start : Bytes) : Outcome Handle :=
  match backend.transactions.lookup handle with
  | none => refuse backend .invalidState
  | some transaction =>
      if transaction.finished ∨ transaction.write then refuse backend .invalidState
      else
        (.ok backend.nextHandle,
          { backend with
            cursors := backend.cursors.insert backend.nextHandle { entries := scan transaction.values start }
            nextHandle := backend.nextHandle + 1 })

/-- An empty item fits every buffer. -/
def lacks (buffer : Buffer) (content : Bytes) : Bool := !content.isEmpty && buffer.all (· < content.length)

def nextCursor (backend : Backend) (handle : Handle) (key value : Buffer) : Outcome (Bytes × Bytes) :=
  match backend.cursors.lookup handle with
  | none => refuse backend .notFound
  | some cursor =>
      match cursor.entries[cursor.position]? with
      | none => refuse backend .notFound
      | some entry =>
          if lacks key entry.1 || lacks value entry.2 then
            (.error ⟨.bufferTooSmall, [entry.1.length, entry.2.length]⟩, backend)
          else
            (.ok entry,
              { backend with
                cursors := backend.cursors.insert handle { cursor with position := cursor.position + 1 } })

def closeCursor (backend : Backend) (handle : Handle) : Outcome Unit :=
  match backend.cursors.lookup handle with
  | none => refuse backend .notFound
  | some _ => (.ok (), { backend with cursors := backend.cursors.erase handle })

section Migrations

variable (backend : Backend)

def addMigration (operation : MigrationOperation) : Backend :=
  { backend with
    migrations := backend.migrations.insert backend.nextHandle operation
    nextHandle := backend.nextHandle + 1 }

def removeMigration (handle : Handle) : Backend :=
  { backend with migrations := backend.migrations.erase handle }

/-- A pending migration is resumed by the plan that started it. -/
def StoreData.resumes (store : StoreData) (descriptor : MigrationDescriptor) : Bool :=
  store.migrationId == descriptor.migrationId &&
    descriptor.sourceSchemaId == store.migrationSourceSchemaId &&
    descriptor.sourceSchemaVersion == store.migrationSourceSchemaVersion &&
    descriptor.targetSchemaId == store.migrationTargetSchemaId &&
    descriptor.targetSchemaVersion == store.migrationTargetSchemaVersion

def startMigration (descriptor : MigrationDescriptor) (data : StoreData) : StoreData :=
  { data with
    migrationId := descriptor.migrationId
    migrationSourceSchemaId := data.schemaId
    migrationSourceSchemaVersion := data.schemaVersion
    migrationTargetSchemaId := descriptor.targetSchemaId
    migrationTargetSchemaVersion := descriptor.targetSchemaVersion
    migrationSourceGeneration := data.generation
    migrationValues := ∅
    migrationCheckpoint := []
    migrationProcessed := 0 }

def activate (data : StoreData) : StoreData := { data with migrationHandleActive := true }

/-- The handle of a migration is given out when the checkpoint fits the buffer. -/
def enterMigration (name : String) (descriptor : MigrationDescriptor)
    (checkpoint : Buffer) (resumed : Bool) : Outcome (Handle × MigrationStatus × Bytes) :=
  let store := backend.data name
  if checkpoint.capacity < store.migrationCheckpoint.length then
    (.error ⟨.bufferTooSmall, [store.migrationCheckpoint.length]⟩, backend)
  else
    (.ok (backend.nextHandle,
        ⟨store.migrationSourceGeneration, store.migrationProcessed, resumed⟩, store.migrationCheckpoint),
      addMigration (backend.update name activate) ⟨name, descriptor.durability⟩)

def beginMigration (handle : Handle) (descriptor : MigrationDescriptor)
    (checkpoint : Buffer) : Outcome (Handle × MigrationStatus × Bytes) :=
  if descriptor.migrationId = "" ∨ descriptor.targetSchemaId = "" ∨ descriptor.targetSchemaVersion = 0 then
    refuse backend .invalidArgument
  else
    match backend.storeHandles.lookup handle with
    | none => refuse backend .notFound
    | some item =>
        let store := backend.data item.store
        if item.access ≠ .readWrite then refuse backend .permissionDenied
        else if store.writerActive ∨ store.migrationHandleActive then refuse backend .busy
        else if store.migrationId ≠ "" then
          if store.resumes descriptor then enterMigration backend item.store descriptor checkpoint true
          else refuse backend .conflict
        else if descriptor.sourceSchemaId ≠ store.schemaId ∨
            descriptor.sourceSchemaVersion ≠ store.schemaVersion then refuse backend .conflict
        else
          enterMigration (backend.update item.store (startMigration descriptor)) item.store descriptor
            checkpoint false

/-- The staged values of a migration after one more entry. A target may be missing. -/
def stage (values : Values) : Option (Bytes × Bytes) → Values
  | none => values
  | some (key, value) => values.insert key value

def applyData (source : Bytes) (values : Values) (data : StoreData) : StoreData :=
  { data with
    migrationValues := values
    migrationCheckpoint := source
    migrationProcessed := data.migrationProcessed + 1 }

def applyMigration (handle : Handle) (source : Bytes)
    (target : Option (Bytes × Bytes)) : Outcome Unit :=
  if source = [] then refuse backend .invalidArgument
  else
    match backend.migrations.lookup handle with
    | none => refuse backend .notFound
    | some operation =>
        let store := backend.data operation.store
        if store.migrationCheckpoint ≠ [] ∧ source ≤ store.migrationCheckpoint then
          refuse backend .conflict
        else if target.any fun entry => entry.1 == [] || decide (entry.1.length > store.maxKeySize) ||
            decide (entry.2.length > store.maxValueSize) then
          refuse backend .invalidArgument
        else if count (stage store.migrationValues target) > store.maxEntries ∨
            totalSize (stage store.migrationValues target) > store.capacity then
          refuse backend .quotaExceeded
        else
          (.ok (), backend.update operation.store (applyData source (stage store.migrationValues target)))

/-- The previous contents are kept for a rollback. The moved staging area is empty. -/
def migrateData (data : StoreData) : StoreData :=
  { data with
    rollbackValues := data.values
    rollbackBlobs := data.blobs
    rollbackSchemaId := data.schemaId
    rollbackSchemaVersion := data.schemaVersion
    rollbackAvailable := true
    values := data.migrationValues
    migrationValues := ∅
    schemaId := data.migrationTargetSchemaId
    migrationTargetSchemaId := ""
    schemaVersion := data.migrationTargetSchemaVersion
    migrationId := ""
    migrationCheckpoint := []
    migrationHandleActive := false
    generation := data.generation + 1
    successfulCommits := data.successfulCommits + 1
    recoveryCount := data.recoveryCount + 1
    recoveryState := .migrated }

def commitMigration (handle : Handle) : Outcome CommitResult :=
  match backend.migrations.lookup handle with
  | none => refuse backend .notFound
  | some operation =>
      let store := backend.data operation.store
      if store.generation ≠ store.migrationSourceGeneration then refuse backend .conflict
      else
        (.ok ⟨store.generation + 1, operation.durability⟩, backend.update operation.store migrateData)

def abortMigration (handle : Handle) : Outcome Unit :=
  match backend.migrations.lookup handle with
  | none => refuse backend .notFound
  | some operation => (.ok (), backend.update operation.store deactivate)

def closeMigration (handle : Handle) : Outcome Unit :=
  match backend.migrations.lookup handle with
  | none => refuse backend .notFound
  | some operation =>
      (.ok (), removeMigration (backend.update operation.store deactivate) handle)

def rollbackData (data : StoreData) : StoreData :=
  { data with
    values := data.rollbackValues
    rollbackValues := ∅
    blobs := data.rollbackBlobs
    rollbackBlobs := ∅
    schemaId := data.rollbackSchemaId
    rollbackSchemaId := ""
    schemaVersion := data.rollbackSchemaVersion
    rollbackAvailable := false
    generation := data.generation + 1
    successfulCommits := data.successfulCommits + 1
    recoveryCount := data.recoveryCount + 1
    recoveryState := .rolledBack }

def rollbackStore (handle : Handle) (durability : Durability) : Outcome CommitResult :=
  match backend.storeHandles.lookup handle with
  | none => refuse backend .notFound
  | some item =>
      let store := backend.data item.store
      if item.access ≠ .readWrite then refuse backend .permissionDenied
      else if !store.rollbackAvailable then refuse backend .notFound
      else (.ok ⟨store.generation + 1, durability⟩, backend.update item.store rollbackData)

end Migrations

/-- The answer of a function as the answer of a call. -/
def answer {A : Type} (reply : A → Reply) (outcome : Outcome A) : Outcome Reply := (outcome.1.map reply, outcome.2)

/-- A provider performs one call at a time. -/
def perform (backend : Backend) : Call → Outcome Reply
  | .incomplete => refuse backend .invalidArgument
  | .start => (.ok .done, start backend)
  | .stop => (.ok .done, stop backend)
  | .openStore descriptor => answer .opened (openStore backend descriptor)
  | .closeStore store => answer (fun _ => .done) (closeStore backend store)
  | .beginRead store => answer (fun result => .begun result.1 result.2) (beginRead backend store)
  | .beginWrite store durability =>
      answer (fun result => .begun result.1 result.2) (beginWrite backend store durability)
  | .beginWriteAt store durability expectedGeneration =>
      answer (fun result => .begun result.1 result.2)
        (beginWriteAt backend store durability expectedGeneration)
  | .get transaction key output => ((get backend transaction key output).map .value, backend)
  | .put transaction key value => answer (fun _ => .done) (put backend transaction key value)
  | .erase transaction key => answer .erased (erase backend transaction key)
  | .commit transaction => answer .committed (commit backend transaction)
  | .abort transaction => answer (fun _ => .done) (abort backend transaction)
  | .closeTransaction transaction => answer (fun _ => .done) (closeTransaction backend transaction)
  | .openBlobRead store key =>
      answer (fun result => .blob result.1 result.2.1 result.2.2) (openBlobRead backend store key)
  | .beginBlobReplace store key size durability =>
      answer (fun result => .begun result.1 result.2) (beginBlobReplace backend store key size durability)
  | .readBlob blob offset size => ((readBlob backend blob offset size).map .value, backend)
  | .writeBlob blob offset input => answer (fun _ => .done) (writeBlob backend blob offset input)
  | .commitBlob blob => answer .committed (commitBlob backend blob)
  | .abortBlob blob => answer (fun _ => .done) (abortBlob backend blob)
  | .closeBlob blob => answer (fun _ => .done) (closeBlob backend blob)
  | .openCursor transaction start => answer .opened (openCursor backend transaction start)
  | .nextCursor cursor key value =>
      answer (fun result => .entry result.1 result.2) (nextCursor backend cursor key value)
  | .closeCursor cursor => answer (fun _ => .done) (closeCursor backend cursor)
  | .resetStore store entries durability => answer .committed (resetStore backend store entries durability)
  | .storeStatus store => ((storeStatus backend store).map .status, backend)
  | .beginMigration store descriptor checkpoint =>
      answer (fun result => .migration result.1 result.2.1 result.2.2)
        (beginMigration backend store descriptor checkpoint)
  | .applyMigration migration source target =>
      answer (fun _ => .done) (applyMigration backend migration source target)
  | .commitMigration migration => answer .committed (commitMigration backend migration)
  | .abortMigration migration => answer (fun _ => .done) (abortMigration backend migration)
  | .closeMigration migration => answer (fun _ => .done) (closeMigration backend migration)
  | .rollbackStore store durability => answer .committed (rollbackStore backend store durability)

end OpenVehicle.Per.Memory
