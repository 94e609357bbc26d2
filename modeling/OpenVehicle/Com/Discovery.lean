/-
This file models the discovery of routes: the watches of the in-process transport, the notices that it hands to
the executor, and the counts that the binding keeps for its candidates.
-/

import OpenVehicle.Com.Inproc
import OpenVehicle.Concurrency.Machine

namespace OpenVehicle.Com.Discovery

open Concurrency (Machine Pool Program)

structure Entry where
  serviceId : Uuid
  instanceId : Uuid
  endpoint : Handle
  routeEpoch : Nat
  available : Bool
  deriving DecidableEq, Repr

def entryOf (descriptor : EndpointDescriptor) (endpoint : Handle) (available : Bool) : Entry where
  serviceId := descriptor.serviceId
  instanceId := descriptor.instanceId
  endpoint := endpoint
  routeEpoch := descriptor.routeEpoch
  available := available

/-- A notice is a task of the executor. It tells one watch of one endpoint. -/
structure Notice where
  watch : Nat
  entry : Entry
  deriving DecidableEq, Repr

/-- An entry concerns a candidate when it names no other instance and no other epoch. -/
def concerns (candidate : RouteBinding) (entry : Entry) : Bool :=
  (entry.instanceId.all (· == 0) || candidate.instanceId == entry.instanceId) &&
    (entry.routeEpoch == 0 || entry.routeEpoch == candidate.routeEpoch)

/-- A candidate of a discovery is registered as the user of a watch. The watch is active until it is stopped. -/
structure Registration where
  discovery : Nat
  candidate : RouteBinding
  handle : Handle
  count : Nat := 0
  active : Bool := true
  deriving DecidableEq, Repr

namespace Registration

/-- The count does not fall below zero. -/
def update (available : Bool) (registration : Registration) : Registration :=
  if available then { registration with count := registration.count + 1 }
  else if registration.count ≠ 0 then { registration with count := registration.count - 1 }
  else registration

def onDiscovery (entry : Entry) (registration : Registration) : Registration :=
  if concerns registration.candidate entry then registration.update entry.available else registration

end Registration

inductive Op where
  | watchStart (discovery : Nat) (candidate : RouteBinding)
  | watchStop (handle : Handle)
  | deactivate (watch : Nat)
  | endpointCreate (descriptor : EndpointDescriptor)
  | endpointDestroy (handle : Handle)
  | deactivateServer (server : Nat)
  | dispatch (notice : Notice)
  | opened (discovery : Nat)
  | close (discovery : Nat)
  deriving DecidableEq, Repr

abbrev Op.Reply : Op → Type
  | .watchStart _ _ => Except Status (Handle × Nat × List EndpointDescriptor)
  | .watchStop _ => Option Nat
  | .endpointCreate _ => Except Status (Handle × List Nat)
  | .endpointDestroy _ => Except Status (EndpointDescriptor × List Nat × Option Nat)
  | .dispatch _ => Status
  | .close _ => List Handle
  | _ => Unit

abbrev Run (A : Type) := Program Op Op.Reply A

def ask (op : Op) : Run op.Reply := Program.perform op

/-- The notices of a function are handed over after its locked section. -/
def announce : List Notice → Run Unit
  | [] => return ()
  | notice :: notices => do
      let _ ← ask (.dispatch notice)
      announce notices

/-- A new watch is told of the endpoints that exist. -/
def watchStart (discovery : Nat) (candidate : RouteBinding) : Run (Except Status Handle) := do
  let started ← ask (.watchStart discovery candidate)
  match started with
  | .error status => return .error status
  | .ok (handle, watch, available) => do
      announce (available.map fun descriptor => ⟨watch, entryOf descriptor 0 true⟩)
      return .ok handle

def watchStop (handle : Handle) : Run Unit := do
  let removed ← ask (.watchStop handle)
  match removed with
  | none => return ()
  | some watch => ask (.deactivate watch)

def endpointCreate (descriptor : EndpointDescriptor) : Run Unit := do
  let created ← ask (.endpointCreate descriptor)
  match created with
  | .error _ => return ()
  | .ok (handle, watches) => announce (watches.map fun watch => ⟨watch, entryOf descriptor handle true⟩)

def endpointDestroy (handle : Handle) : Run Unit := do
  let removed ← ask (.endpointDestroy handle)
  match removed with
  | .error _ => return ()
  | .ok (descriptor, watches, server) => do
      match server with
      | none => pure ()
      | some server => ask (.deactivateServer server)
      announce (watches.map fun watch => ⟨watch, entryOf descriptor handle false⟩)

def stopAll : List Handle → Run Unit
  | [] => return ()
  | handle :: handles => do
      watchStop handle
      stopAll handles

/-- The transport provides every candidate. A discovery that cannot start a watch stops the ones before it. -/
def discover (discovery : Nat) : List RouteBinding → List Handle → Run Unit
  | [], _ => ask (.opened discovery)
  | candidate :: candidates, started => do
      let result ← watchStart discovery candidate
      match result with
      | .error _ => stopAll started
      | .ok handle => discover discovery candidates (started ++ [handle])

def close (discovery : Nat) : Run Unit := do
  let handles ← ask (.close discovery)
  stopAll handles

/-- The notices that the executor does not accept are recorded. -/
structure World where
  transport : InprocTransport := {}
  discoveries : Nat := 0
  opened : List Nat := []
  closed : List Nat := []
  registrations : List Registration := []
  tasks : List Notice := []
  rejected : List Notice := []
  deriving DecidableEq, Repr

inductive Event where
  | discover (candidates : List RouteBinding)
  | close (discovery : Nat)
  | endpointCreate (descriptor : EndpointDescriptor)
  | endpointDestroy (handle : Handle)
  /-- The executor runs one of the accepted tasks. -/
  | run (index : Nat)
  deriving DecidableEq, Repr

namespace World

/-- A registration is told of entries while its watch is active and its discovery is not closed. -/
def listens (world : World) (registration : Registration) : Bool :=
  registration.active && !world.closed.contains registration.discovery

def deliver (notice : Notice) (world : World) : World :=
  { world with registrations := world.registrations.modify notice.watch fun registration =>
      if world.listens registration then registration.onDiscovery notice.entry else registration }

/-- A closed discovery is not closed again. -/
def closing (discovery : Nat) (world : World) : List Handle × World :=
  if world.closed.contains discovery then ([], world)
  else ((world.registrations.filter (·.discovery == discovery)).map (·.handle),
    { world with closed := discovery :: world.closed })

/-- The answer of the executor is the input. -/
def perform (op : Op) (answer : Status) (world : World) : Option (op.Reply × World) :=
  match op with
  | .watchStart discovery candidate =>
      let watch := world.registrations.length
      match world.transport.watchStart candidate.serviceId watch with
      | (.error status, _) => some (.error status, world)
      | (.ok (handle, available), transport) => some (.ok (handle, watch, available), { world with
          transport, registrations := world.registrations ++ [⟨discovery, candidate, handle, 0, true⟩] })
  | .watchStop handle =>
      let (reply, transport) := world.transport.watchStop handle
      some (reply, { world with transport })
  | .deactivate watch => some ((), { world with
      registrations := world.registrations.modify watch fun registration => { registration with active := false } })
  | .endpointCreate descriptor =>
      let (reply, transport) := world.transport.endpointCreate descriptor
      some (reply, { world with transport })
  | .endpointDestroy handle =>
      let (reply, transport) := world.transport.endpointDestroy handle
      some (reply, { world with transport })
  | .deactivateServer _ => some ((), world)
  | .dispatch notice =>
      some (answer, if answer = .ok then { world with tasks := world.tasks ++ [notice] }
        else { world with rejected := world.rejected ++ [notice] })
  | .opened discovery => some ((), { world with opened := discovery :: world.opened })
  | .close discovery => some (world.closing discovery)

/-- Only an opened discovery is closed. -/
def occur (event : Event) (world : World) : Option (World × Option (Run Unit)) :=
  match event with
  | .discover candidates => some ({ world with discoveries := world.discoveries + 1 },
      some (Discovery.discover world.discoveries candidates []))
  | .close discovery =>
      if world.opened.contains discovery then some (world, some (Discovery.close discovery)) else none
  | .endpointCreate descriptor => some (world, some (Discovery.endpointCreate descriptor))
  | .endpointDestroy handle => some (world, some (Discovery.endpointDestroy handle))
  | .run index =>
      world.tasks[index]?.map fun notice =>
        ({ world with tasks := world.tasks.eraseIdx index }.deliver notice, none)

end World

abbrev DiscoveryPool := Pool Op Op.Reply Unit World

abbrev DiscoveryChoice := Concurrency.Choice Status Event

/-- The threads of the applications and the executor use one transport. -/
def machine : Machine Op Op.Reply Unit World Status Event where
  perform op answer world := world.perform op answer
  occur event world := world.occur event

def started (maxEndpoints maxOperations : Nat) : DiscoveryPool where
  shared := { transport := { maxEndpoints, maxOperations } }
  threads := []

end OpenVehicle.Com.Discovery
