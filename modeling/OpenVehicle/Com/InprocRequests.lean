/-
This file models the requests of the in-process transport and the operations of the binding that wait for them.
-/

import OpenVehicle.Com.Binding
import OpenVehicle.Com.Inproc
import OpenVehicle.Concurrency.Machine

namespace OpenVehicle.Com.Requests

open Codec (Byte)
open Concurrency (Machine Pool Program)

/-- The executor of the host runs an accepted task once. -/
inductive Task where
  | request (server : Nat) (operation : Handle) (payload : List Byte) (deadline : Nat)
  | completion (user : Nat) (operation : Handle) (status : Status) (payload : List Byte)
  deriving DecidableEq, Repr

/-- An operation that is retained owns itself. -/
structure OperationState where
  endpoint : Handle := 0
  operation : Handle := 0
  complete : Bool := false
  result : RawResult := ⟨.none, false, false, []⟩
  retained : Bool := false
  deriving DecidableEq, Repr

namespace OperationState

def fail (status : Status) (state : OperationState) : OperationState :=
  { state with result := ⟨mapStatus status, true, false, []⟩, complete := true, retained := false }

/-- The first completion determines the result. -/
def completed (status : Status) (payload : List Byte) (state : OperationState) : OperationState :=
  if state.complete then { state with retained := false }
  else
    { state with
      complete := true
      result := ⟨mapStatus status, status ≠ .ok ∧ status ≠ .applicationError, status = .applicationError, payload⟩
      retained := false }

def expire (state : OperationState) : OperationState :=
  { state with complete := true, result := ⟨.deadlineExceeded, true, false, []⟩ }

end OperationState

/-- An operation of the binding is the user of its request. -/
inductive Op where
  | monotonicTime
  | endpointCreate (descriptor : EndpointDescriptor)
  | endpointDestroy (handle : Handle)
  | setRequestHandler (endpoint : Handle) (handler : Option Nat)
  | request (client : Handle) (user : Nat)
  | complete (operation : Handle)
  | start
  | stop
  | deactivate (server : Nat)
  /-- The payload of a task is copied, and the task is stored. Both may fail. -/
  | copy (task : Task)
  | store (task : Task)
  | dispatch (task : Task)
  | isActive (server : Nat)
  | serve (server : Nat) (operation : Handle) (payload : List Byte) (deadline : Nat)
  | construct (user : Nat) (endpoint : Handle)
  | retain (user : Nat)
  | accepted (user : Nat) (operation : Handle)
  | fail (user : Nat) (status : Status)
  | completed (user : Nat) (operation : Handle) (status : Status) (payload : List Byte)
  /-- The wait ends with the completion or at the deadline. -/
  | await (user : Nat)
  | lookup (user : Nat)
  | destroy (user : Nat)
  deriving DecidableEq, Repr

abbrev Op.Reply : Op → Type
  | .monotonicTime => Nat
  | .endpointCreate _ => Except Status Handle
  | .endpointDestroy _ | .setRequestHandler _ _ => Except Status (Option Nat)
  | .request _ _ => Except Status (Nat × Handle)
  | .complete _ => Option Nat
  | .start => Status
  | .stop => Option (List (Handle × Nat) × List Nat)
  | .copy _ | .store _ | .isActive _ => Bool
  | .dispatch _ => Status
  | .await _ | .lookup _ => Option Handle
  | .destroy _ => Handle × Handle
  | _ => Unit

/-- A finished thread tells the status of its request. -/
inductive Finished where
  | invoke (user : Nat) (status : Status)
  | other
  deriving DecidableEq, Repr

abbrev Run (A : Type) := Program Op Op.Reply A

def ask (op : Op) : Run op.Reply := Program.perform op

/-- The diagnostic that reports a rejected task has no other effect. -/
def dispatch (task : Task) : Run Status := do
  let stored ← ask (.store task)
  if stored then ask (.dispatch task) else return .resourceExhausted

/-- A rejected request stays in the table. -/
def request (client : Handle) (payload : List Byte) (deadline user : Nat) : Run (Except Status Handle) := do
  let now ← ask .monotonicTime
  if deadline ≤ now then return .error .deadlineExceeded
  else
    let entered ← ask (.request client user)
    match entered with
    | .error status => return .error status
    | .ok (server, operation) => do
        let copied ← ask (.copy (.request server operation payload deadline))
        if copied then
          let status ← dispatch (.request server operation payload deadline)
          return if status = .ok then .ok operation else .error status
        else return .error .resourceExhausted

def complete (operation : Handle) (status : Status) (payload : List Byte) : Run Status := do
  let pending ← ask (.complete operation)
  match pending with
  | none => return .notFound
  | some user => do
      let copied ← ask (.copy (.completion user operation status payload))
      if copied then dispatch (.completion user operation status payload) else return .resourceExhausted

def cancel (operation : Handle) : Run Status := complete operation .cancelled []

def respond (operation : Handle) (status : Status) (payload : List Byte) : Run Status :=
  complete operation status payload

def deactivate : List Nat → Run Unit
  | [] => return ()
  | server :: servers => do
      ask (.deactivate server)
      deactivate servers

def completeAll : List (Handle × Nat) → Run Unit
  | [] => return ()
  | (operation, user) :: pending => do
      let _ ← dispatch (.completion user operation .shuttingDown [])
      completeAll pending

def stop : Run Unit := do
  let stopped ← ask .stop
  match stopped with
  | none => return ()
  | some (pending, servers) => do
      deactivate servers
      completeAll pending

/-- A server that is not active ignores its requests. -/
def runTask : Task → Run Unit
  | .request server operation payload deadline => do
      let active ← ask (.isActive server)
      if active then ask (.serve server operation payload deadline) else return ()
  | .completion user operation status payload => ask (.completed user operation status payload)

def endpointDestroy (handle : Handle) : Run Unit := do
  let removed ← ask (.endpointDestroy handle)
  match removed with
  | .ok (some server) => ask (.deactivate server)
  | _ => return ()

def setRequestHandler (endpoint : Handle) (handler : Option Nat) : Run Unit := do
  let removed ← ask (.setRequestHandler endpoint handler)
  match removed with
  | .ok (some server) => ask (.deactivate server)
  | _ => return ()

def invoke (descriptor : EndpointDescriptor) (payload : List Byte) (deadline user : Nat) : Run Finished := do
  let created ← ask (.endpointCreate descriptor)
  match created with
  | .error status => do
      ask (.fail user status)
      return .invoke user status
  | .ok endpoint => do
      ask (.construct user endpoint)
      ask (.retain user)
      let result ← request endpoint payload deadline user
      match result with
      | .ok operation => do
          ask (.accepted user operation)
          return .invoke user .ok
      | .error status => do
          ask (.fail user status)
          return .invoke user status

/-- An operation without a handle is not cancelled. -/
def cancelValid (operation : Handle) : Run Unit := do
  if operation = 0 then return ()
  else
    let _ ← cancel operation
    return ()

def wait (user : Nat) : Run Unit := do
  let expired ← ask (.await user)
  match expired with
  | none => return ()
  | some operation => cancelValid operation

def cancelOperation (user : Nat) : Run Unit := do
  let found ← ask (.lookup user)
  match found with
  | none => return ()
  | some operation => cancelValid operation

def destroyOperation (user : Nat) : Run Unit := do
  let handles ← ask (.destroy user)
  cancelValid handles.1
  if handles.2 = 0 then return () else endpointDestroy handles.2

/-- The objects of the transport, the binding and the executor. The last field records the completion callbacks. -/
structure World where
  transport : InprocTransport := {}
  operations : List OperationState := []
  inactive : List Nat := []
  tasks : List Task := []
  invoked : List Nat := []
  deriving DecidableEq, Repr

/-- What the environment supplies to an operation. -/
structure Input where
  now : Nat := 0
  rank : Nat := 0
  allocated : Bool := true
  answer : Status := .ok
  expired : Bool := false
  deriving DecidableEq, Repr

inductive Event where
  | endpointCreate (descriptor : EndpointDescriptor)
  | endpointDestroy (handle : Handle)
  | setRequestHandler (endpoint : Handle) (handler : Option Nat)
  | invoke (descriptor : EndpointDescriptor) (payload : List Byte) (deadline : Nat)
  | respond (operation : Handle) (status : Status) (payload : List Byte)
  | wait (user : Nat)
  | cancel (user : Nat)
  | destroy (user : Nat)
  | start
  | stop
  /-- The executor runs one of the accepted tasks. -/
  | run (index : Nat)
  deriving DecidableEq, Repr

namespace World

def modify (user : Nat) (change : OperationState → OperationState) (world : World) : World :=
  { world with operations := world.operations.modify user change }

def state (user : Nat) (world : World) : OperationState := world.operations[user]?.getD {}

def perform (op : Op) (input : Input) (world : World) : Option (op.Reply × World) :=
  match op with
  | .monotonicTime => some (input.now, world)
  | .endpointCreate descriptor =>
      let (reply, transport) := world.transport.endpointCreate descriptor
      some (reply.map Prod.fst, { world with transport })
  | .endpointDestroy handle =>
      let (reply, transport) := world.transport.endpointDestroy handle
      some (reply.map (·.2.2), { world with transport })
  | .setRequestHandler endpoint handler =>
      let (reply, transport) := world.transport.setRequestHandler endpoint handler
      some (reply, { world with transport })
  | .request client user =>
      let (reply, transport) := world.transport.request client user input.rank
      some (reply, { world with transport })
  | .complete operation =>
      let (reply, transport) := world.transport.complete operation
      some (reply, { world with transport })
  | .start =>
      let (reply, transport) := world.transport.start
      some (reply, { world with transport })
  | .stop =>
      let (reply, transport) := world.transport.stop
      some (reply, { world with transport })
  | .deactivate server => some ((), { world with inactive := server :: world.inactive })
  | .copy _ | .store _ => some (input.allocated, world)
  | .dispatch task =>
      some (input.answer, if input.answer = .ok then { world with tasks := world.tasks ++ [task] } else world)
  | .isActive server => some (!world.inactive.contains server, world)
  | .serve _ _ _ _ => some ((), world)
  | .construct user endpoint => some ((), world.modify user fun state => { state with endpoint })
  | .retain user => some ((), world.modify user fun state => { state with retained := true })
  | .accepted user operation => some ((), world.modify user fun state => { state with operation })
  | .fail user status => some ((), world.modify user (·.fail status))
  | .completed user _ status payload =>
      some ((), { world.modify user (·.completed status payload) with invoked := world.invoked ++ [user] })
  | .await user =>
      if (world.state user).complete then some (none, world)
      else if input.expired then some (some (world.state user).operation, world.modify user (·.expire))
      else none
  | .lookup user =>
      some (if (world.state user).complete then none else some (world.state user).operation, world)
  | .destroy user =>
      if (world.state user).retained then none
      else some (((world.state user).operation, (world.state user).endpoint), world)

def other (program : Run Unit) : Run Finished := do
  program
  return .other

def occur (event : Event) (world : World) : Option (World × Option (Run Finished)) :=
  match event with
  | .endpointCreate descriptor => some (world, some (do
      let _ ← ask (.endpointCreate descriptor)
      return .other))
  | .endpointDestroy handle => some (world, some (other (Requests.endpointDestroy handle)))
  | .setRequestHandler endpoint handler => some (world, some (other (Requests.setRequestHandler endpoint handler)))
  | .invoke descriptor payload deadline => some ({ world with operations := world.operations ++ [{}] },
      some (Requests.invoke descriptor payload deadline world.operations.length))
  | .respond operation status payload => some (world, some (do
      let _ ← Requests.respond operation status payload
      return .other))
  | .wait user => some (world, some (other (Requests.wait user)))
  | .cancel user => some (world, some (other (cancelOperation user)))
  | .destroy user => some (world, some (other (destroyOperation user)))
  | .start => some (world, some (do
      let _ ← ask .start
      return .other))
  | .stop => some (world, some (other Requests.stop))
  | .run index =>
      world.tasks[index]?.map fun task =>
        ({ world with tasks := world.tasks.eraseIdx index }, some (other (runTask task)))

end World

abbrev RequestPool := Pool Op Op.Reply Finished World

abbrev RequestChoice := Concurrency.Choice Input Event

/-- The threads of the clients, the servers and the executor use one transport. -/
def machine : Machine Op Op.Reply Finished World Input Event where
  perform op input world := world.perform op input
  occur event world := world.occur event

def started (maxEndpoints maxOperations : Nat) : RequestPool where
  shared := { transport := { maxEndpoints, maxOperations } }
  threads := []

end OpenVehicle.Com.Requests
