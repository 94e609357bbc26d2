/-
This file models an application that uses the objects of the persistency runtime. Every object carries what
it has to show, so that the answers can be compared with it.
-/

import OpenVehicle.Per.MemoryRuns
import OpenVehicle.Per.Runtime

namespace OpenVehicle.Per

open FiniteMap (Map)
open OrderedMap (ascending)
open Memory (Backend)

/-- A transaction object sees the entries of its store at its begin with its own edits. Its handle is zero
after it is closed. -/
structure TransactionObject where
  write : Bool
  view : Values
  closed : Bool := false
  commitFailed : Bool := false

/-- A cursor object has to deliver the entries of its transaction that match. -/
structure CursorObject where
  matching : List (Bytes × Bytes)
  delivered : List (Bytes × Bytes) := []
  closed : Bool := false

/-- The objects are known by the handles that they got from the provider. -/
structure Session where
  runtime : Runtime
  transactions : Map Handle TransactionObject := ∅
  cursors : Map Handle CursorObject := ∅

namespace Session

/-- The calls that other objects of the runtime make. -/
def otherCall : Call → Bool
  | .openStore _ | .closeStore _ | .openBlobRead _ _ | .beginBlobReplace _ _ _ _ | .readBlob _ _ _
  | .writeBlob _ _ _ | .commitBlob _ | .abortBlob _ | .closeBlob _ | .resetStore _ _ _ | .storeStatus _
  | .beginMigration _ _ _ | .applyMigration _ _ _ | .commitMigration _ | .abortMigration _
  | .closeMigration _ | .rollbackStore _ _ => true
  | _ => false

inductive Operation where
  | beginRead (store : Handle)
  | beginWrite (store : Handle) (durability : Durability)
  | beginWriteAt (store : Handle) (expectedGeneration : Nat) (durability : Durability)
  | get (transaction : Handle) (key : Bytes)
  | put (transaction : Handle) (key value : Bytes)
  | erase (transaction : Handle) (key : Bytes)
  | commit (transaction : Handle)
  | abort (transaction : Handle)
  | close (transaction : Handle)
  | iterate (transaction : Handle) (start : Bytes)
  | next (cursor : Handle)
  | closeCursor (cursor : Handle)
  | stop
  | other (call : Call)

variable (session : Session)

/-- The current handle of a transaction object. -/
def handle (transaction : Handle) : Handle :=
  match session.transactions.lookup transaction with
  | none => 0
  | some object => if object.closed then 0 else transaction

def cursorHandle (cursor : Handle) : Handle :=
  match session.cursors.lookup cursor with
  | none => 0
  | some object => if object.closed then 0 else cursor

/-- The methods that edit belong to write transactions. -/
def writes (transaction : Handle) : Bool := (session.transactions.lookup transaction).any (·.write)

def reads (transaction : Handle) : Bool := (session.transactions.lookup transaction).any (!·.write)

/-- The entries of the store behind a store object. -/
def contents (store : Handle) : Values :=
  match session.runtime.backend.storeHandles.lookup store with
  | none => ∅
  | some item => (session.runtime.backend.data item.store).values

def get (transaction : Handle) (key : Bytes) : Result (Option Bytes) :=
  session.runtime.getValue (session.handle transaction) key

def next (cursor : Handle) : Runtime.Outcome (Option (Bytes × Bytes)) :=
  session.runtime.next (session.cursorHandle cursor)

section Steps

variable (session : Session)

def changed (runtime : Runtime) (transaction : Handle)
    (change : TransactionObject → TransactionObject) : Session :=
  match session.transactions.lookup transaction with
  | none => { session with runtime := runtime }
  | some object =>
      { session with
        runtime := runtime
        transactions := session.transactions.insert transaction (change object) }

def changedCursor (runtime : Runtime) (cursor : Handle)
    (change : CursorObject → CursorObject) : Session :=
  match session.cursors.lookup cursor with
  | none => { session with runtime := runtime }
  | some object =>
      { session with runtime := runtime, cursors := session.cursors.insert cursor (change object) }

def begun (write : Bool) (store : Handle) (outcome : Runtime.Outcome (Handle × Nat)) :
    Session :=
  match outcome with
  | (.error _, later) => { session with runtime := later }
  | (.ok (transaction, _), later) =>
      { session with
        runtime := later
        transactions := session.transactions.insert transaction { write := write, view := session.contents store } }

def edited (transaction : Handle) (edit : Values → Values)
    (outcome : Runtime.Outcome Bool) : Session :=
  match outcome with
  | (.error _, later) => { session with runtime := later }
  | (.ok _, later) => session.changed later transaction fun object => { object with view := edit object.view }

def committed (transaction : Handle) (outcome : Runtime.Outcome CommitResult) : Session :=
  match outcome with
  | (.error _, later) => session.changed later transaction fun object => { object with commitFailed := true }
  | (.ok _, later) => session.changed later transaction fun object => { object with closed := true }

/-- A cursor has to deliver the entries whose keys start with the given bytes. -/
def iterated (transaction : Handle) (start : Bytes) (outcome : Runtime.Outcome Handle) :
    Session :=
  match outcome with
  | (.error _, later) => { session with runtime := later }
  | (.ok cursor, later) =>
      let view := (session.transactions.lookup transaction).elim ∅ (·.view)
      { session with
        runtime := later
        cursors := session.cursors.insert cursor
          { matching := (ascending view).filter fun entry => start.isPrefixOf entry.1 } }

def advanced (cursor : Handle) (outcome : Runtime.Outcome (Option (Bytes × Bytes))) :
    Session :=
  match outcome with
  | (.ok (some entry), later) =>
      session.changedCursor later cursor fun object => { object with delivered := object.delivered ++ [entry] }
  | (_, later) => { session with runtime := later }

/-- A method is called on an object of its class. -/
def perform : Operation → Session → Option Session
  | .beginRead store, session => some (session.begun false store (session.runtime.beginRead store))
  | .beginWrite store durability, session =>
      some (session.begun true store (session.runtime.beginWrite store durability))
  | .beginWriteAt store expectedGeneration durability, session =>
      some (session.begun true store (session.runtime.beginWriteAt store expectedGeneration durability))
  | .get _ _, session => some session
  | .put transaction key value, session =>
      if session.writes transaction then
        some (session.edited transaction (·.insert key value)
          (session.runtime.put (session.handle transaction) key value))
      else none
  | .erase transaction key, session =>
      if session.writes transaction then
        some (session.edited transaction (·.erase key) (session.runtime.erase (session.handle transaction) key))
      else none
  | .commit transaction, session =>
      if session.writes transaction then
        some (session.committed transaction (session.runtime.commit (session.handle transaction)))
      else none
  | .abort transaction, session =>
      if session.writes transaction then
        some (session.changed (session.runtime.abort (session.handle transaction)) transaction
          fun object => { object with closed := true })
      else none
  | .close transaction, session =>
      if session.reads transaction then
        some (session.changed (session.runtime.closeTransaction (session.handle transaction)) transaction
          fun object => { object with closed := true })
      else none
  | .iterate transaction start, session =>
      if session.reads transaction then
        some (session.iterated transaction start (session.runtime.iterate (session.handle transaction) start))
      else none
  | .next cursor, session => some (session.advanced cursor (session.next cursor))
  | .closeCursor cursor, session =>
      some (session.changedCursor (session.runtime.closeCursor (session.cursorHandle cursor)) cursor
        fun object => { object with closed := true })
  | .stop, session => some { session with runtime := session.runtime.stop }
  | .other call, session =>
      if otherCall call then
        some { session with
          runtime.backend := (Memory.perform session.runtime.backend call).2 }
      else none

def system : Concurrency.System Session Operation := ⟨perform⟩

def start (maxStores maxTransactions : Nat) : Session := { runtime := .create maxStores maxTransactions }

end Steps

end Session

end OpenVehicle.Per
