/-
This file models the readers and writers of blobs and a program that uses them with other objects of the
runtime. The program remembers what a writer was opened for and which bytes it has accepted.
-/

import OpenVehicle.Concurrency.System
import OpenVehicle.Per.Runtime

namespace OpenVehicle.Per

open FiniteMap (Map)

/-- The handle of a reader that is closed is zero. -/
structure BlobReader where
  handle : Handle
  size : Nat
  generation : Nat

namespace BlobReader

def valid (reader : BlobReader) : Bool := reader.handle != 0

/-- The result holds the bytes that fill the output. -/
def read (reader : BlobReader) (runtime : Runtime) (offset length : Nat) : Result Bytes :=
  if !reader.valid ∨ offset > reader.size ∨ length > reader.size - offset then
    .error ⟨.invalidArgument, "blob read is outside its declared size"⟩
  else if length = 0 then .ok []
  else
    match Memory.readBlob runtime.backend reader.handle offset length with
    | .ok content => .ok content
    | .error failure => .error (runtime.makeError failure.status)

def close (reader : BlobReader) (runtime : Runtime) : BlobReader × Runtime :=
  ({ reader with handle := 0 }, runtime.giveUp reader.handle fun backend => (Memory.closeBlob backend reader.handle).2)

end BlobReader

structure BlobWriter where
  handle : Handle
  size : Nat
  position : Nat

namespace BlobWriter

variable (writer : BlobWriter)

def valid : Bool := writer.handle != 0

def write (runtime : Runtime) (input : Bytes) : Result Nat × BlobWriter × Runtime :=
  if !writer.valid ∨ writer.position > writer.size ∨ input.length > writer.size - writer.position then
    (.error ⟨.invalidArgument, "blob write exceeds its declared size"⟩, writer, runtime)
  else if input = [] then (.ok 0, writer, runtime)
  else
    match runtime.relay id (Memory.writeBlob runtime.backend writer.handle writer.position input) with
    | (.error error, later) => (.error error, writer, later)
    | (.ok _, later) => (.ok input.length, { writer with position := writer.position + input.length }, later)

/-- A writer that has committed is closed at once. -/
def commit (runtime : Runtime) : Result CommitResult × BlobWriter × Runtime :=
  if !writer.valid ∨ writer.position ≠ writer.size then
    (.error ⟨.invalidState, "blob replacement is incomplete"⟩, writer, runtime)
  else
    match runtime.relay id (Memory.commitBlob runtime.backend writer.handle) with
    | (.error error, later) => (.error error, writer, later)
    | (.ok result, later) =>
        (.ok result, { writer with handle := 0 },
          { later with backend := (Memory.closeBlob later.backend writer.handle).2 })

def abort (runtime : Runtime) : BlobWriter × Runtime :=
  ({ writer with handle := 0 }, runtime.giveUp writer.handle fun backend =>
      (Memory.closeBlob (Memory.abortBlob backend writer.handle).2 writer.handle).2)

end BlobWriter

namespace Runtime

def openBlob (runtime : Runtime) (store : Handle) (key : Bytes) : Outcome BlobReader :=
  if store = 0 ∨ key = [] then (.error ⟨.invalidArgument, "store or blob key is invalid"⟩, runtime)
  else
    runtime.relay (fun opened => ⟨opened.1, opened.2.1, opened.2.2⟩)
      (Memory.openBlobRead runtime.backend store key)

def beginBlobReplace (runtime : Runtime) (store : Handle) (key : Bytes) (size : Nat) (durability : Durability) :
    Outcome BlobWriter :=
  if store = 0 ∨ key = [] then (.error ⟨.invalidArgument, "store or blob key is invalid"⟩, runtime)
  else
    runtime.relay (fun begun => ⟨begun.1, size, 0⟩)
      (Memory.beginBlobReplace runtime.backend store key size durability)

end Runtime

/-- A writer with the place of its blob, the generation it was opened at, and the chunks it has accepted. -/
structure WriterObject where
  writer : BlobWriter
  store : String
  key : Bytes
  generation : Nat
  chunks : List Bytes := []
  failed : Bool := false

def WriterObject.written (object : WriterObject) : Bytes := object.chunks.flatten

/-- The objects of a program are known by the handles they were created with. -/
structure BlobSession where
  runtime : Runtime
  writers : Map Handle WriterObject := ∅
  readers : Map Handle BlobReader := ∅

namespace BlobSession

/-- The calls that other objects of the runtime make. -/
def otherCall : Call → Bool
  | .start | .stop | .openBlobRead _ _ | .beginBlobReplace _ _ _ _ | .readBlob _ _ _ | .writeBlob _ _ _
  | .commitBlob _ | .abortBlob _ | .closeBlob _ => false
  | _ => true

inductive Operation where
  | openBlob (store : Handle) (key : Bytes)
  | beginBlobReplace (store : Handle) (key : Bytes) (size : Nat) (durability : Durability)
  | read (reader : Handle) (offset length : Nat)
  | close (reader : Handle)
  | write (writer : Handle) (input : Bytes)
  | commit (writer : Handle)
  | abort (writer : Handle)
  | stop
  | other (call : Call)

/-- The store of a store object and its data. -/
def storeOf (session : BlobSession) (store : Handle) : Option String :=
  (session.runtime.backend.storeHandles.lookup store).map (·.store)

def data (session : BlobSession) (store : String) : Memory.StoreData := session.runtime.backend.data store

section Steps
variable (session : BlobSession)

def openBlob (store : Handle) (key : Bytes) : Result BlobReader × BlobSession :=
  match session.runtime.openBlob store key with
  | (.error error, later) => (.error error, { session with runtime := later })
  | (.ok reader, later) =>
      (.ok reader, { session with runtime := later, readers := session.readers.insert reader.handle reader })

def beginBlobReplace (store : Handle) (key : Bytes) (size : Nat) (durability : Durability) :
    Result BlobWriter × BlobSession :=
  match session.runtime.beginBlobReplace store key size durability with
  | (.error error, later) => (.error error, { session with runtime := later })
  | (.ok writer, later) =>
      let name := (session.storeOf store).getD ""
      (.ok writer,
        { session with
          runtime := later
          writers := session.writers.insert writer.handle
            { writer := writer, store := name, key := key, generation := (session.data name).generation } })

/-- A method is called on an object of its class. -/
def read (reader : Handle) (offset length : Nat) : Option (Result Bytes) :=
  (session.readers.lookup reader).map fun object => object.read session.runtime offset length

def close (reader : Handle) : Option BlobSession :=
  (session.readers.lookup reader).map fun object =>
    { session with
      runtime := (object.close session.runtime).2
      readers := session.readers.insert reader (object.close session.runtime).1 }

variable (writer : Handle)

/-- An accepted chunk follows the chunks before it. -/
def wrote (object : WriterObject) (input : Bytes) :
    Result Nat × BlobWriter × Runtime → Result Nat × BlobSession
  | (.error error, changed, later) =>
      (.error error,
        { session with runtime := later, writers := session.writers.insert writer { object with writer := changed } })
  | (.ok count, changed, later) =>
      (.ok count,
        { session with
          runtime := later
          writers := session.writers.insert writer
            { object with writer := changed, chunks := object.chunks ++ [input] } })

def write (input : Bytes) : Option (Result Nat × BlobSession) :=
  (session.writers.lookup writer).map fun object =>
    session.wrote writer object input (object.writer.write session.runtime input)

/-- A commit that fails on a complete writer ends the operation of the provider. -/
def committed (object : WriterObject) :
    Result CommitResult × BlobWriter × Runtime → Result CommitResult × BlobSession
  | (.error error, changed, later) =>
      (.error error,
        { session with
          runtime := later
          writers := session.writers.insert writer
            { object with
              writer := changed
              failed := object.failed || object.writer.position == object.writer.size } })
  | (.ok result, changed, later) =>
      (.ok result,
        { session with runtime := later, writers := session.writers.insert writer { object with writer := changed } })

def commit : Option (Result CommitResult × BlobSession) :=
  (session.writers.lookup writer).map fun object =>
    session.committed writer object (object.writer.commit session.runtime)

def abort : Option BlobSession :=
  (session.writers.lookup writer).map fun object =>
    { session with
      runtime := (object.writer.abort session.runtime).2
      writers := session.writers.insert writer { object with writer := (object.writer.abort session.runtime).1 } }

def stop : BlobSession := { session with runtime := session.runtime.stop }

def perform : Operation → BlobSession → Option BlobSession
  | .openBlob store key, session => some (session.openBlob store key).2
  | .beginBlobReplace store key size durability, session =>
      some (session.beginBlobReplace store key size durability).2
  | .read reader offset length, session => (session.read reader offset length).map fun _ => session
  | .close reader, session => session.close reader
  | .write writer input, session => (session.write writer input).map (·.2)
  | .commit writer, session => (session.commit writer).map (·.2)
  | .abort writer, session => session.abort writer
  | .stop, session => some session.stop
  | .other call, session =>
      if otherCall call then
        some { session with runtime.backend := (Memory.perform session.runtime.backend call).2 }
      else none

def system : Concurrency.System BlobSession Operation := ⟨perform⟩

def start (maxStores maxTransactions : Nat) : BlobSession := { runtime := .create maxStores maxTransactions }

end Steps

end BlobSession

end OpenVehicle.Per
