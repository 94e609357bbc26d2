/-
This file models the migration of a store by the persistency runtime, and its repetition after interruptions.
-/

import OpenVehicle.Per.Runtime

namespace OpenVehicle.Per.Runtime

open Memory (Backend)

/-- The transform gets the number of its earlier calls, so that it may fail at one of them. -/
abbrev Transform := Nat → Bytes × Bytes → Result (Option (Bytes × Bytes))

structure MigrationInfo where
  commit : CommitResult
  processedEntries : Nat
  resumed : Bool

/-- The local variables of the loop. -/
structure Walk where
  migration : Handle
  read : Handle
  cursor : Handle
  checkpoint : Bytes
  processed : Nat
  resumed : Bool
  calls : Nat := 0

section Loop

def invalidPlan (store : Handle) (plan : MigrationDescriptor) : Bool :=
  store == 0 || plan.migrationId == "" || plan.sourceSchemaId == "" || plan.targetSchemaId == "" ||
    plan.sourceSchemaVersion == 0 || plan.targetSchemaVersion == 0 ||
    (!plan.allowDowngrade && decide (plan.targetSchemaVersion ≤ plan.sourceSchemaVersion))

variable (runtime : Runtime)

/-- The staged entries of a migration that is given up stay in the store. -/
def closeMigration (migration : Handle) : Runtime :=
  { runtime with
    backend := (Memory.closeMigration (Memory.abortMigration runtime.backend migration).2 migration).2 }

/-- The storage for the checkpoint has a fixed size. -/
def checkpointStorage : Nat := 4096

def enter (store : Handle) (plan : MigrationDescriptor) : Outcome Walk :=
  match runtime.relay id (Memory.beginMigration runtime.backend store plan (some checkpointStorage)) with
  | (.error error, later) => (.error error, later)
  | (.ok (migration, status, checkpoint), begun) =>
      match begun.beginRead store with
      | (.error error, later) => (.error error, later.closeMigration migration)
      | (.ok (read, _), reading) =>
          match reading.iterate read [] with
          | (.error error, later) => (.error error, (later.closeMigration migration).closeTransaction read)
          | (.ok cursor, later) =>
              (.ok ⟨migration, read, cursor, checkpoint, status.processedEntries, status.resumed, 0⟩, later)

/-- The objects of the loop are closed when it ends. -/
def leave (walk : Walk) : Runtime := (runtime.closeCursor walk.cursor).closeTransaction walk.read

/-- A migration that fails is closed before the other objects. -/
def abandon (walk : Walk) : Runtime := (runtime.closeMigration walk.migration).leave walk

inductive Progress where
  | advanced (walk : Walk) (runtime : Runtime) (applied : Option (Bytes × Bytes))
  | exhausted (walk : Walk) (runtime : Runtime)
  | failed (error : Error) (runtime : Runtime)

/-- A key up to the checkpoint has been applied before. -/
def skips (checkpoint key : Bytes) : Bool := checkpoint != [] && !decide (checkpoint < key)

def step (transform : Transform) (runtime : Runtime) (walk : Walk) : Progress :=
  match runtime.next walk.cursor with
  | (.error error, later) => .failed error (later.abandon walk)
  | (.ok none, later) => .exhausted walk later
  | (.ok (some source), later) =>
      if skips walk.checkpoint source.1 then .advanced walk later none
      else
        match transform walk.calls source with
        | .error error => .failed error (later.abandon walk)
        | .ok target =>
            match later.relay id (Memory.applyMigration later.backend walk.migration source.1 target) with
            | (.error error, later) => .failed error (later.abandon walk)
            | (.ok _, later) =>
                .advanced { walk with processed := walk.processed + 1, calls := walk.calls + 1 } later
                  (some source)

/-- The loop after a number of iterations. -/
inductive Position where
  | running (walk : Walk) (runtime : Runtime)
  | exhausted (walk : Walk) (runtime : Runtime)
  | failed (error : Error) (runtime : Runtime)

/-- The list contains the entries that the iterations apply. -/
def loop (transform : Transform) : Nat → Runtime → Walk → Position × List (Bytes × Bytes)
  | 0, runtime, walk => (.running walk runtime, [])
  | count + 1, runtime, walk =>
      match step transform runtime walk with
      | .exhausted walk later => (.exhausted walk later, [])
      | .failed error later => (.failed error later, [])
      | .advanced walk later applied =>
          let rest := loop transform count later walk
          (rest.1, applied.toList ++ rest.2)

def finish (walk : Walk) : Outcome MigrationInfo :=
  let left := runtime.leave walk
  match left.relay id (Memory.commitMigration left.backend walk.migration) with
  | (.error error, later) =>
      (.error error, { later with backend := (Memory.closeMigration later.backend walk.migration).2 })
  | (.ok result, later) =>
      (.ok ⟨result, walk.processed, walk.resumed⟩,
        { later with backend := (Memory.closeMigration later.backend walk.migration).2 })

/-- A method that is interrupted by the end of its process has no result. -/
structure Attempt where
  result : Option (Result MigrationInfo)
  runtime : Runtime
  applied : List (Bytes × Bytes)

/-- The number of iterations that end the loop. -/
def iterations (walk : Walk) : Nat :=
  (runtime.backend.cursors.lookup walk.cursor).elim 1 fun cursor => cursor.entries.length + 1

/-- The migration is committed after the loop unless the process has stopped. -/
def conclude (stop : Option Nat) (applied : List (Bytes × Bytes)) : Position → Attempt
  | .failed error later => ⟨some (.error error), later, applied⟩
  | .running _ later => ⟨none, later, applied⟩
  | .exhausted walk later =>
      if stop.isSome then ⟨none, later, applied⟩
      else ⟨some (finish later walk).1, (finish later walk).2, applied⟩

/-- The process may stop after a number of iterations. -/
def attempt (store : Handle) (plan : MigrationDescriptor) (transform : Transform)
    (stop : Option Nat) : Attempt :=
  if invalidPlan store plan then
    ⟨some (.error ⟨.invalidArgument, "migration plan is invalid"⟩), runtime, []⟩
  else
    match runtime.enter store plan with
    | (.error error, later) => ⟨some (.error error), later, []⟩
    | (.ok walk, entered) =>
        let run := loop transform (stop.getD (iterations entered walk)) entered walk
        conclude stop run.2 run.1

def migrate (store : Handle) (plan : MigrationDescriptor) (transform : Transform) :
    Attempt := attempt runtime store plan transform none

end Loop

/-- A deterministic transform does not depend on its earlier calls. -/
abbrev Entries := Bytes × Bytes → Result (Option (Bytes × Bytes))

inductive Interruption where
  | transformFails (calls : Nat) (error : Error)
  | processStops (iterations : Nat)

/-- The transform fails after a number of calls. -/
def failing (transform : Entries) (calls : Nat) (error : Error) : Transform :=
  fun count source => if count = calls then .error error else transform source

/-- The stores outlive the process, and the other objects do not. -/
def restart (runtime : Runtime) : Runtime := ⟨Memory.start (Memory.stop runtime.backend), true⟩

/-- The migration is run again with the same plan until it completes. -/
def repeated (options : StoreDescriptor) (plan : MigrationDescriptor) (transform : Entries) :
    List Interruption → Runtime → Handle → Attempt
  | [], runtime, store => runtime.migrate store plan fun _ => transform
  | .transformFails calls error :: rest, runtime, store =>
      let first := runtime.migrate store plan (failing transform calls error)
      match first.result with
      | some (.error _) =>
          let again := repeated options plan transform rest first.runtime store
          { again with applied := first.applied ++ again.applied }
      | _ => first
  | .processStops count :: rest, runtime, store =>
      let first := runtime.attempt store plan (fun _ => transform) (some count)
      match first.runtime.restart.openStore options with
      | (.error error, later) => ⟨some (.error error), later, first.applied⟩
      | (.ok store, reopened) =>
          let again := repeated options plan transform rest reopened store
          { again with applied := first.applied ++ again.applied }

end OpenVehicle.Per.Runtime
