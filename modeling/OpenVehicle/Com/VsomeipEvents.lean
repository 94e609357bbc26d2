/-
This file models the callbacks of the subscriptions of the SOME/IP transport. The threads call functions and run tasks,
also inside callbacks, and the gate of a subscription is a recursive mutex.
-/

import OpenVehicle.Com.ProviderSubscription
import OpenVehicle.Com.VsomeipRegistrations
import Mathlib.Logic.Function.Basic

namespace OpenVehicle.Com.Vsomeip

def Operation.subscribes : Operation → Bool
  | .subscribe _ | .unsubscribe _ => true
  | _ => false

namespace Events

open Codec (Byte)

/-- The arguments of a callback. -/
inductive Notice where
  | sample (payload : List Byte) (sequence : Nat)
  | state (state : SubscriptionState) (reason : Status)
  deriving DecidableEq, Repr

namespace Notice

def isState : Notice → Bool
  | .state _ _ => true
  | _ => false

def isWithdrawn : Notice → Bool
  | .state .withdrawn _ => true
  | _ => false

end Notice

/-- What the user sees of a subscription. -/
inductive Event where
  | called (callback : Callback) (notice : Notice)
  | unsubscribed
  | stopped
  deriving DecidableEq, Repr

namespace Event

def isCall : Event → Bool
  | .called _ _ => true
  | _ => false

def isState : Event → Bool
  | .called _ notice => notice.isState
  | _ => false

def isWithdrawn : Event → Bool
  | .called _ notice => notice.isWithdrawn
  | _ => false

end Event

/-- The thread that has locked the gate owns it. -/
structure Subscription where
  callback : Callback := 0
  stateCallback : Option Callback := none
  state : SubscriptionState := .requested
  reason : Status := .ok
  active : Bool := true
  gate : Option Nat := none
  log : List Event := []
  deriving DecidableEq, Repr

namespace Subscription

def record (event : Event) (self : Subscription) : Subscription := { self with log := self.log ++ [event] }

end Subscription

/-- A visit locks the gate of a subscription. A task has a copy of its callback, and the other visits read the state
callback. -/
inductive Visit where
  | sample (handle : Handle) (payload : List Byte) (sequence : Nat)
  | state (handle : Handle) (callback : Callback) (state : SubscriptionState) (reason : Status)
  | connection (handle : Handle) (state : SubscriptionState) (reason : Status)
  | withdraw (handle : Handle) (reason : Status)
  deriving DecidableEq, Repr

namespace Visit

def handle : Visit → Handle
  | .sample handle _ _ => handle
  | .state handle _ _ _ => handle
  | .connection handle _ _ => handle
  | .withdraw handle _ => handle

def notice : Visit → Notice
  | .sample _ payload sequence => .sample payload sequence
  | .state _ _ told reason => .state told reason
  | .connection _ told reason => .state told reason
  | .withdraw _ reason => .state .withdrawn reason

/-- A visit that withdraws the subscription makes it inactive at the end. -/
def closes : Visit → Bool
  | .withdraw _ _ => true
  | _ => false

/-- Only an active subscription is called. -/
def calls (subscription : Subscription) (visit : Visit) : Option Callback :=
  if !subscription.active then none
  else
    match visit with
    | .sample _ _ _ => some subscription.callback
    | .state _ callback _ _ => some callback
    | .connection _ _ _ | .withdraw _ _ => subscription.stateCallback

def finish (visit : Visit) (subscription : Subscription) : Subscription :=
  if visit.closes then { subscription with active := false } else subscription

end Visit

inductive Return where
  | other
  | unsubscribe (handle : Handle)
  | stop
  deriving DecidableEq, Repr

/-- A function of a thread has its visits before it. It may be inside the callback of the first one. -/
structure Frame where
  visits : List Visit
  inside : Bool := false
  returns : Return := .other
  deriving DecidableEq, Repr

namespace Frame

def visiting (frame : Frame) : Option Visit := if frame.inside then frame.visits.head? else none

/-- The frame is inside a callback and has locked the gate. -/
def holds (handle : Handle) (frame : Frame) : Bool := frame.visiting.any fun visit => visit.handle == handle

/-- The frame is inside the callback that gets the withdrawn state. -/
def withdraws (handle : Handle) (frame : Frame) : Bool :=
  frame.visiting.any fun visit => visit.closes && visit.handle == handle

end Frame

/-- A rejected task is one that never runs. The innermost frame of a stack is the first one. -/
structure World where
  transport : Transport
  sequence : Nat := 0
  subscriptions : Handle → Subscription
  tasks : List Visit := []
  frames : Nat → List Frame := fun _ => []

/-- A thread may call a function at any time, also inside a callback. -/
inductive Action where
  | operate (operation : Operation)
  | subscribe (endpoint : Handle) (callback : Callback)
  | setStateHandler (handle : Handle) (callback : Callback)
  | message (message : Message) (payload : List Byte)
  | status (key : EventKey) (accepted : Bool)
  | connect (thread : Nat) (registered : Bool)
  | unsubscribe (thread : Nat) (handle : Handle)
  | stop (thread : Nat)
  | run (thread index : Nat)
  | enter (thread : Nat)
  | leave (thread : Nat)
  | exit (thread : Nat)

namespace World

section Steps

def modify (handle : Handle) (change : Subscription → Subscription) (world : World) : World :=
  { world with subscriptions := Function.update world.subscriptions handle (change (world.subscriptions handle)) }

variable (thread : Nat)

def setFrames (stack : List Frame) (world : World) : World :=
  { world with frames := Function.update world.frames thread stack }

def push (frame : Frame) (world : World) : World := world.setFrames thread (frame :: world.frames thread)

/-- The return of a stop is an event of every subscription. -/
def record (event : Event) (world : World) : World :=
  { world with subscriptions := fun handle => (world.subscriptions handle).record event }

def assign (handles : List Handle) (state : SubscriptionState) (reason : Status) (world : World) : World :=
  { world with subscriptions := fun handle =>
      if handle ∈ handles then { world.subscriptions handle with state := state, reason := reason }
      else world.subscriptions handle }

/-- The subscriptions in the table whose endpoint has such a mapping. -/
def subscribers (fits : Mapping → Bool) (world : World) : List Handle :=
  (world.transport.subscriptions.filter fun entry =>
    (world.transport.endpoints.lookup entry.2).any fun endpoint => fits endpoint.mapping).map Prod.fst

/-- The object of a new subscription is new. -/
def subscribed (handle : Handle) (callback : Callback) (transport : Transport) (world : World) : World :=
  { world.modify handle fun _ => { callback := callback } with transport := transport }

def subscribe (endpoint : Handle) (callback : Callback) (world : World) : World :=
  match world.transport.subscribe endpoint with
  | (.error _, _) => world
  | (.ok handle, transport) => world.subscribed handle callback transport

def setStateHandler (handle : Handle) (callback : Callback) (world : World) : World :=
  match world.transport.subscriptions.lookup handle with
  | none => world
  | some _ =>
      let subscription := world.subscriptions handle
      { world.modify handle fun subscription => { subscription with stateCallback := some callback } with
        tasks := world.tasks ++ [.state handle callback subscription.state subscription.reason] }

/-- A notification is a task for each subscription of its element. -/
def message (message : Message) (payload : List Byte) (world : World) : World :=
  if !world.transport.running then world
  else { world with
    sequence := world.sequence + 1
    tasks := world.tasks ++
      (world.subscribers (Transport.accepts message)).map fun handle => .sample handle payload (world.sequence + 1) }

def fits (key : EventKey) (mapping : Mapping) : Bool :=
  mapping.serviceKey == key.service && mapping.element == key.event && mapping.eventGroup == key.eventGroup

/-- The provider has accepted or rejected the subscriptions of an event. -/
def status (key : EventKey) (accepted : Bool) (world : World) : World :=
  let state := if accepted then .active else .rejected
  let reason := if accepted then .ok else .notFound
  let handles := world.subscribers (fits key)
  let notified := handles.filterMap fun handle =>
    if (world.subscriptions handle).active then
      (world.subscriptions handle).stateCallback.map fun callback => Visit.state handle callback state reason
    else none
  { world.assign handles state reason with tasks := world.tasks ++ notified }

def connected (registered : Bool) : SubscriptionState := if registered then .requested else .suspended

def changed (registered : Bool) (world : World) : List Handle :=
  (world.transport.subscriptions.map Prod.fst).filter fun handle =>
    (world.subscriptions handle).state != connected registered

/-- The state handler of the middleware calls the subscriptions itself. -/
def connect (registered : Bool) (world : World) : World :=
  let reason := if registered then .ok else .transportError
  let handles := world.changed registered
  (world.assign handles (connected registered) reason).push thread
    { visits := handles.map fun handle => .connection handle (connected registered) reason }

def unsubscribe (handle : Handle) (world : World) : World :=
  match world.transport.unsubscribe handle with
  | (.ok, transport) => { world with transport := transport }.push thread
      { visits := [.withdraw handle .ok], returns := .unsubscribe handle }
  | _ => world

/-- A stop of a transport that does not run returns at once. -/
def stop (world : World) : World :=
  match world.transport.stop with
  | (none, _) => world.record .stopped
  | (some _, transport) => { world with transport := transport }.push thread
      { visits := (world.transport.subscriptions.map Prod.fst).map fun handle => .withdraw handle .shuttingDown
        returns := .stop }

def run (thread index : Nat) (world : World) : Option World :=
  world.tasks[index]?.map fun visit =>
    { world with tasks := world.tasks.eraseIdx index }.push thread { visits := [visit] }

/-- The first visit of the innermost frame has locked the gate, and its callback begins. -/
def called (visit : Visit) (rest : List Visit) (returns : Return) (below : List Frame)
    (callback : Callback) (world : World) : World :=
  (world.modify visit.handle fun subscription =>
    { subscription with gate := some thread }.record (.called callback visit.notice)).setFrames thread
      (⟨visit :: rest, true, returns⟩ :: below)

/-- The first visit of the innermost frame is over. -/
def finished (visit : Visit) (rest : List Visit) (returns : Return) (below : List Frame)
    (gate : Option Nat) (world : World) : World :=
  (world.modify visit.handle fun subscription => visit.finish { subscription with gate := gate }).setFrames thread
    (⟨rest, false, returns⟩ :: below)

/-- A thread waits while another thread owns the gate. A visit that calls nothing unlocks it at once. -/
def enter (world : World) : Option World :=
  match world.frames thread with
  | ⟨visit :: rest, false, returns⟩ :: below =>
      let subscription := world.subscriptions visit.handle
      if subscription.gate.any (· != thread) then none
      else
        match visit.calls subscription with
        | none => some (world.finished thread visit rest returns below subscription.gate)
        | some callback => some (world.called thread visit rest returns below callback)
  | _ => none

/-- The thread keeps the gate when an outer frame holds it. -/
def leave (world : World) : Option World :=
  match world.frames thread with
  | ⟨visit :: rest, true, returns⟩ :: below => some (world.finished thread visit rest returns below
      (if below.any (Frame.holds visit.handle) then some thread else none))
  | _ => none

def returned (returns : Return) (world : World) : World :=
  match returns with
  | .other => world
  | .unsubscribe handle => world.modify handle (Subscription.record .unsubscribed)
  | .stop => world.record .stopped

def exit (world : World) : Option World :=
  match world.frames thread with
  | ⟨[], _, returns⟩ :: below => some ((world.returned returns).setFrames thread below)
  | _ => none

def perform : Action → World → Option World
  | .operate operation, world =>
      if operation.subscribes then none else some { world with transport := operation.perform world.transport }
  | .subscribe endpoint callback, world => some (world.subscribe endpoint callback)
  | .setStateHandler handle callback, world => some (world.setStateHandler handle callback)
  | .message message payload, world => some (world.message message payload)
  | .status key accepted, world => some (world.status key accepted)
  | .connect thread registered, world => some (world.connect thread registered)
  | .unsubscribe thread handle, world => some (world.unsubscribe thread handle)
  | .stop thread, world => some (world.stop thread)
  | .run thread index, world => world.run thread index
  | .enter thread, world => world.enter thread
  | .leave thread, world => world.leave thread
  | .exit thread, world => world.exit thread

end Steps

end World

def system : Concurrency.System World Action := ⟨World.perform⟩

/-- A handle without a subscription has no active object. -/
def begun (maxEndpoints maxOperations : Nat) : World where
  transport := fresh maxEndpoints maxOperations
  subscriptions _ := { active := false }

end Events

end OpenVehicle.Com.Vsomeip
