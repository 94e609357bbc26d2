/-
This file models the interface between the persistency runtime and its storage providers.
-/

import OpenVehicle.Data.OrderedMap

namespace OpenVehicle.Per

abbrev Bytes := List UInt8

/-- The entries of a store or its blobs. -/
abbrev Values := OrderedMap.Table Bytes Bytes

/-- The number zero is no handle. -/
abbrev Handle := Nat

inductive Status where
  | invalidArgument | incompatibleAbi | invalidState | notFound | permissionDenied | unsupported
  | resourceExhausted | bufferTooSmall | conflict | quotaExceeded | corrupted | ioError | busy
  | shuttingDown | backendError
  deriving DecidableEq, Repr

inductive Durability where
  | buffered | processCrash | media
  deriving DecidableEq, Repr

/-- The levels of durability are ordered. -/
def Durability.level : Durability → Nat
  | .buffered => 1
  | .processCrash => 2
  | .media => 3

inductive Access where
  | readOnly | readWrite
  deriving DecidableEq, Repr

inductive RecoveryState where
  | clean | journalReplayed | failedClosed | reset | migrated | rolledBack
  deriving DecidableEq, Repr

/-- A missing string is an empty string here, because a provider treats both in the same way. -/
structure StoreDescriptor where
  logicalName : String
  access : Access
  minimumDurability : Durability
  capacityBytes : Nat
  maxEntries : Nat
  maxKeySize : Nat
  maxValueSize : Nat
  maxBlobSize : Nat
  schemaId : String
  schemaVersion : Nat
  deriving DecidableEq, Repr

structure MigrationDescriptor where
  migrationId : String
  sourceSchemaId : String
  sourceSchemaVersion : Nat
  targetSchemaId : String
  targetSchemaVersion : Nat
  durability : Durability
  allowDowngrade : Bool
  deriving DecidableEq, Repr

structure CommitResult where
  generation : Nat
  achievedDurability : Durability
  deriving DecidableEq, Repr

structure StoreStatus where
  generation : Nat
  schemaVersion : Nat
  recoveryState : RecoveryState
  successfulCommits : Nat
  rejectedOperations : Nat
  recoveryCount : Nat
  deriving DecidableEq, Repr

structure MigrationStatus where
  sourceGeneration : Nat
  processedEntries : Nat
  resumed : Bool
  deriving DecidableEq, Repr

/-- A buffer has a capacity unless its pointer is missing. -/
abbrev Buffer := Option Nat

def Buffer.capacity (buffer : Buffer) : Nat := buffer.getD 0

/-- A failed call reports a status. The sizes are those that a small buffer lacks. -/
structure Failure where
  status : Status
  sizes : List Nat := []
  deriving DecidableEq, Repr

/-- These are the calls that reach the state of a provider. A call with a missing pointer or a short
structure is incomplete. A missing key has the same effect as an empty key. -/
inductive Call where
  | incomplete
  | start
  | stop
  | openStore (descriptor : StoreDescriptor)
  | closeStore (store : Handle)
  | beginRead (store : Handle)
  | beginWrite (store : Handle) (durability : Durability)
  | beginWriteAt (store : Handle) (durability : Durability) (expectedGeneration : Nat)
  | get (transaction : Handle) (key : Bytes) (output : Buffer)
  | put (transaction : Handle) (key value : Bytes)
  | erase (transaction : Handle) (key : Bytes)
  | commit (transaction : Handle)
  | abort (transaction : Handle)
  | closeTransaction (transaction : Handle)
  | openBlobRead (store : Handle) (key : Bytes)
  | beginBlobReplace (store : Handle) (key : Bytes) (size : Nat) (durability : Durability)
  | readBlob (blob : Handle) (offset size : Nat)
  | writeBlob (blob : Handle) (offset : Nat) (input : Bytes)
  | commitBlob (blob : Handle)
  | abortBlob (blob : Handle)
  | closeBlob (blob : Handle)
  | openCursor (transaction : Handle) (start : Bytes)
  | nextCursor (cursor : Handle) (key value : Buffer)
  | closeCursor (cursor : Handle)
  | resetStore (store : Handle) (entries : List (Bytes × Bytes)) (durability : Durability)
  | storeStatus (store : Handle)
  | beginMigration (store : Handle) (descriptor : MigrationDescriptor) (checkpoint : Buffer)
  | applyMigration (migration : Handle) (source : Bytes) (target : Option (Bytes × Bytes))
  | commitMigration (migration : Handle)
  | abortMigration (migration : Handle)
  | closeMigration (migration : Handle)
  | rollbackStore (store : Handle) (durability : Durability)
  deriving DecidableEq, Repr

/-- The output of a successful call. -/
inductive Reply where
  | done
  | opened (handle : Handle)
  | begun (handle : Handle) (generation : Nat)
  | value (content : Bytes)
  | erased (present : Bool)
  | committed (result : CommitResult)
  | blob (handle : Handle) (size generation : Nat)
  | entry (key value : Bytes)
  | status (status : StoreStatus)
  | migration (handle : Handle) (status : MigrationStatus) (checkpoint : Bytes)
  deriving DecidableEq, Repr

/-- The size of an entry counts its key and its value. -/
def entrySize (key value : Bytes) : Nat := key.length + value.length

def totalSize (values : Values) : Nat := OrderedMap.weight entrySize values

end OpenVehicle.Per
