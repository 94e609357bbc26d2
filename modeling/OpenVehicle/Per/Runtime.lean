/-
This file models the persistency runtime over the memory provider. The methods of its objects hold the lock
of the runtime while they call the provider, so a method is one step.
-/

import OpenVehicle.Per.Memory
import OpenVehicle.Per.Types

namespace OpenVehicle.Per

open Memory (Backend)

def toErrorCode : Status → ErrorCode
  | .invalidArgument | .bufferTooSmall => .invalidArgument
  | .incompatibleAbi => .incompatibleAbi
  | .invalidState => .invalidState
  | .notFound => .notFound
  | .permissionDenied => .permissionDenied
  | .unsupported => .unsupported
  | .resourceExhausted => .resourceExhausted
  | .conflict => .conflict
  | .quotaExceeded => .quotaExceeded
  | .corrupted => .corrupted
  | .ioError => .ioError
  | .busy => .busy
  | .shuttingDown => .shuttingDown
  | .backendError => .backendFailure

/-- The state that the objects of a runtime share. -/
structure Runtime where
  backend : Backend
  running : Bool := true

namespace Runtime

/-- A method returns its result and leaves the next state. -/
abbrev Outcome (A : Type) := Result A × Runtime

variable (runtime : Runtime)

/-- The text of the provider is used when it fits. -/
def errorText : String :=
  match Memory.lastError runtime.backend (some 256) with
  | .ok text => text
  | .error _ => "persistency provider operation failed"

def makeError (status : Status) : Error := ⟨toErrorCode status, runtime.errorText⟩

/-- A provider that reports no failure where one is expected has failed. -/
def unexpected : Error := ⟨.backendFailure, runtime.errorText⟩

def create (maxStores maxTransactions : Nat) : Runtime := ⟨Memory.start (Memory.create maxStores maxTransactions), true⟩

def stop : Runtime :=
  if runtime.running then ⟨Memory.stop runtime.backend, false⟩ else runtime

/-- The answer of the provider becomes the answer of the method. -/
def relay {A B : Type} (wrap : A → B) (outcome : Memory.Outcome A) : Outcome B :=
  let later := { runtime with backend := outcome.2 }
  match outcome.1 with
  | .ok value => (.ok (wrap value), later)
  | .error failure => (.error (later.makeError failure.status), later)

/-- A method that gives up an object calls the provider only while the runtime runs. The handle zero belongs
to an object that is closed. -/
def giveUp (handle : Handle) (call : Backend → Backend) : Runtime :=
  if handle = 0 ∨ !runtime.running then runtime else { runtime with backend := call runtime.backend }

section Transactions

variable (runtime : Runtime)

/-- The first call asks for the size of the value. -/
def getValue (handle : Handle) (key : Bytes) : Result (Option Bytes) :=
  if handle = 0 ∨ key = [] then .error ⟨.invalidArgument, "transaction or key is invalid"⟩
  else if !runtime.running then .error ⟨.shuttingDown, "persistency runtime is stopped"⟩
  else
    match Memory.get runtime.backend handle key none with
    | .ok _ => .error runtime.unexpected
    | .error failure =>
        if failure.status = .notFound then .ok none
        else if failure.status ≠ .bufferTooSmall then .error (runtime.makeError failure.status)
        else if failure.sizes.headD 0 = 0 then .ok (some [])
        else
          match Memory.get runtime.backend handle key (some (failure.sizes.headD 0)) with
          | .ok value => .ok (some value)
          | .error failure => .error (runtime.makeError failure.status)

def closeTransaction (handle : Handle) : Runtime :=
  runtime.giveUp handle fun backend => (Memory.closeTransaction backend handle).2

def put (handle : Handle) (key value : Bytes) : Outcome Bool :=
  if handle = 0 ∨ key = [] then (.error ⟨.invalidArgument, "transaction or key is invalid"⟩, runtime)
  else runtime.relay (fun _ => true) (Memory.put runtime.backend handle key value)

def erase (handle : Handle) (key : Bytes) : Outcome Bool :=
  if handle = 0 ∨ key = [] then (.error ⟨.invalidArgument, "transaction or key is invalid"⟩, runtime)
  else runtime.relay id (Memory.erase runtime.backend handle key)

/-- A transaction that is committed is closed at once. -/
def commit (handle : Handle) : Outcome CommitResult :=
  if handle = 0 then (.error ⟨.invalidState, "write transaction is not active"⟩, runtime)
  else
    match runtime.relay id (Memory.commit runtime.backend handle) with
    | (.error error, later) => (.error error, later)
    | (.ok result, later) =>
        (.ok result, { later with backend := (Memory.closeTransaction later.backend handle).2 })

def abort (handle : Handle) : Runtime :=
  runtime.giveUp handle fun backend => (Memory.closeTransaction (Memory.abort backend handle).2 handle).2

end Transactions

/-- The first call asks for the sizes of the entry. -/
def next (runtime : Runtime) (cursor : Handle) : Outcome (Option (Bytes × Bytes)) :=
  if cursor = 0 then (.error ⟨.invalidState, "cursor is not open"⟩, runtime)
  else
    match Memory.nextCursor runtime.backend cursor none none with
    | (.ok _, later) => (.error { runtime with backend := later }.unexpected, { runtime with backend := later })
    | (.error failure, later) =>
        if failure.status = .notFound then (.ok none, { runtime with backend := later })
        else if failure.status ≠ .bufferTooSmall then
          (.error ({ runtime with backend := later }.makeError failure.status), { runtime with backend := later })
        else
          { runtime with backend := later }.relay some
            (Memory.nextCursor later cursor (some (failure.sizes.headD 0)) (some (failure.sizes.getD 1 0)))

def closeCursor (runtime : Runtime) (cursor : Handle) : Runtime :=
  runtime.giveUp cursor fun backend => (Memory.closeCursor backend cursor).2

def iterate (runtime : Runtime) (transaction : Handle) (start : Bytes) : Outcome Handle :=
  if transaction = 0 then (.error ⟨.invalidState, "read transaction is not active"⟩, runtime)
  else runtime.relay id (Memory.openCursor runtime.backend transaction start)

section Stores

variable (runtime : Runtime)

def openStore (options : StoreDescriptor) : Outcome Handle :=
  if Memory.incompleteDescriptor options then (.error ⟨.invalidArgument, "store options are invalid"⟩, runtime)
  else runtime.relay id (Memory.openStore runtime.backend options)

/-- The methods of a store need an open store. -/
def onStore {A B : Type} (store : Handle) (wrap : A → B)
    (call : Backend → Memory.Outcome A) : Outcome B :=
  if store = 0 then (.error ⟨.invalidState, "store is not open"⟩, runtime)
  else runtime.relay wrap (call runtime.backend)

def beginRead (store : Handle) : Outcome (Handle × Nat) := runtime.onStore store id (Memory.beginRead · store)

def beginWrite (store : Handle) (durability : Durability) : Outcome (Handle × Nat) :=
  runtime.onStore store id (Memory.beginWrite · store durability)

def beginWriteAt (store : Handle) (expectedGeneration : Nat) (durability : Durability) :
    Outcome (Handle × Nat) := runtime.onStore store id (Memory.beginWriteAt · store durability expectedGeneration)

end Stores

end Runtime

end OpenVehicle.Per
