/-
This file models the tables of the SOME/IP transport. Each function is a locked section of the function of the
transport that has its name.
-/

import OpenVehicle.Com.Transport
import OpenVehicle.Com.VsomeipMapping
import OpenVehicle.Data.HandleTable
import OpenVehicle.Data.Registration

namespace OpenVehicle.Com.Vsomeip

open Data (HandleTable Registration)
open Data.KeyValue (Text)

structure ServiceKey where
  service : UInt16
  instanceId : UInt16
  major : UInt8
  minor : UInt32
  deriving DecidableEq, Repr

structure MessageKey where
  service : UInt16
  instanceId : UInt16
  element : UInt16
  deriving DecidableEq, Repr

structure EventKey where
  service : ServiceKey
  event : UInt16
  eventGroup : UInt16
  reliable : Bool
  kind : ElementKind
  deriving DecidableEq, Repr

structure GroupKey where
  service : ServiceKey
  eventGroup : UInt16
  deriving DecidableEq, Repr

namespace Mapping

variable (mapping : Mapping)

def serviceKey : ServiceKey := ⟨mapping.service, mapping.instanceId, mapping.majorVersion, mapping.minorVersion⟩

def messageKey : MessageKey := ⟨mapping.service, mapping.instanceId, mapping.element⟩

def eventKey : EventKey := ⟨mapping.serviceKey, mapping.element, mapping.eventGroup, mapping.reliable, mapping.kind⟩

def groupKey : GroupKey := ⟨mapping.serviceKey, mapping.eventGroup⟩

def sameService (left right : Mapping) : Bool := left.service == right.service && left.instanceId == right.instanceId

def otherVersion (left right : Mapping) : Bool :=
  left.majorVersion != right.majorVersion || left.minorVersion != right.minorVersion

end Mapping

/-- The middleware knows a service by its identifiers. -/
structure NativeService where
  service : UInt16
  instanceId : UInt16
  deriving DecidableEq, Repr

/-- The middleware knows an event by its service and its identifier. A status handler also has a group. -/
inductive NativeEvent where
  | event (service instanceId event : UInt16)
  | statusHandler (service instanceId eventGroup event : UInt16)
  deriving DecidableEq, Repr

structure NativeGroup where
  service : UInt16
  instanceId : UInt16
  eventGroup : UInt16
  deriving DecidableEq, Repr

namespace Native

def services (key : ServiceKey) : Finset NativeService := {⟨key.service, key.instanceId⟩}

def availability (key : ServiceKey) : Finset ServiceKey := {key}

def messages (key : MessageKey) : Finset MessageKey := {key}

def offered (key : EventKey) : Finset MessageKey := {⟨key.service.service, key.service.instanceId, key.event⟩}

def requested (key : EventKey) : Finset NativeEvent :=
  {.event key.service.service key.service.instanceId key.event,
    .statusHandler key.service.service key.service.instanceId key.eventGroup key.event}

def groups (key : GroupKey) : Finset NativeGroup := {⟨key.service.service, key.service.instanceId, key.eventGroup⟩}

end Native

inductive ReturnCode where
  | ok | notOk | unknownService | unknownMethod | notReady | notReachable | timeout | malformedMessage | other
  deriving DecidableEq, Repr

namespace Feature

def discovery : BitVec 64 := 1#64 <<< 0

def events : BitVec 64 := 1#64 <<< 1

def methods : BitVec 64 := 1#64 <<< 2

def reliable : BitVec 64 := 1#64 <<< 5

def ordered : BitVec 64 := 1#64 <<< 6

def deadlines : BitVec 64 := 1#64 <<< 7

def cancellation : BitVec 64 := 1#64 <<< 8

def supported : BitVec 64 := discovery ||| events ||| methods ||| reliable ||| ordered ||| deadlines ||| cancellation

end Feature

structure Descriptor where
  kind : EndpointKind
  maxPayloadSize : Nat
  historyDepth : Nat
  requiredFeatures : BitVec 64
  nativeMapping : Text
  deriving DecidableEq, Repr

def maximumLength : Nat := 2 ^ 32 - 1

namespace Descriptor

/-- A descriptor must agree with its mapping, and it must need no more than the transport has. -/
def refused (descriptor : Descriptor) (mapping : Mapping) : Option Status :=
  if mapping.notification != (descriptor.kind == .eventPublisher || descriptor.kind == .eventSubscriber) then
    some .invalidArgument
  else if descriptor.requiredFeatures &&& ~~~Feature.supported ≠ 0 then some .unsupported
  else if descriptor.requiredFeatures &&& (Feature.reliable ||| Feature.ordered) ≠ 0 ∧ mapping.reliable = false then
    some .unsupported
  else if descriptor.maxPayloadSize > maximumLength ∨ descriptor.historyDepth > 1 then some .unsupported
  else none

end Descriptor

structure Endpoint where
  descriptor : Descriptor
  mapping : Mapping
  deriving DecidableEq, Repr

namespace Endpoint

def publishes (endpoint : Endpoint) : Bool := endpoint.descriptor.kind == .eventPublisher

def serves (endpoint : Endpoint) : Bool := endpoint.descriptor.kind == .methodServer

def server (endpoint : Endpoint) : Bool := endpoint.publishes || endpoint.serves

/-- The endpoint of the table refuses the created endpoint. -/
def collision (created : Endpoint) (endpoint : Endpoint) : Option Status :=
  let same := endpoint.mapping.sameService created.mapping
  if same && endpoint.mapping.otherVersion created.mapping then some .incompatibleAbi
  else if same && created.mapping.notification && endpoint.mapping.notification &&
      endpoint.mapping.eventGroup == created.mapping.eventGroup &&
      endpoint.mapping.reliable != created.mapping.reliable then some .invalidArgument
  else if created.serves && endpoint.serves && endpoint.mapping.messageKey == created.mapping.messageKey then
    some .alreadyExists
  else if created.publishes && endpoint.publishes && same && endpoint.mapping.element == created.mapping.element then
    some .alreadyExists
  else none

end Endpoint

/-- An accepted operation is known by its number. -/
structure Pending where
  endpoint : Handle
  operation : Nat
  deadline : Nat
  deriving DecidableEq, Repr

structure Correlation where
  client : UInt16
  session : UInt16
  deriving DecidableEq, Repr

structure Message where
  service : UInt16
  instanceId : UInt16
  method : UInt16
  noReturn : Bool := false
  deriving DecidableEq, Repr

structure Incoming where
  message : Message
  endpoint : Handle
  deriving DecidableEq, Repr

/-- The objects of the handlers are known by their numbers. -/
structure Transport where
  running : Bool := false
  startedOnce : Bool := false
  nextHandle : Handle := 1
  maxEndpoints : Nat := 128
  maxOperations : Nat := 128
  endpoints : HandleTable Endpoint := []
  subscriptions : HandleTable Handle := []
  watches : HandleTable Mapping := []
  pending : HandleTable Pending := []
  correlations : List (Correlation × Handle) := []
  incoming : HandleTable Incoming := []
  handlers : HandleTable Nat := []
  offeredServices : Registration ServiceKey NativeService := {}
  requestedServices : Registration ServiceKey NativeService := {}
  availabilityHandlers : Registration ServiceKey ServiceKey := {}
  messageHandlers : Registration MessageKey MessageKey := {}
  offeredEvents : Registration EventKey MessageKey := {}
  requestedEvents : Registration EventKey NativeEvent := {}
  subscribedGroups : Registration GroupKey NativeGroup := {}

namespace Transport

/-- The middleware may fail to initialize. A transport starts once. -/
def start (initialized : Bool) (self : Transport) : Status × Transport :=
  if self.running ∨ self.startedOnce then (.invalidState, self)
  else if !initialized then (.transportError, self)
  else (.ok, { self with running := true, startedOnce := true })

/-- The first stop takes the operations and the handlers. -/
def stop (self : Transport) : Option (HandleTable Pending × List Nat) × Transport :=
  if !self.running then (none, self)
  else (some (self.pending, self.handlers.map Prod.snd), { self with
    running := false
    pending := []
    correlations := []
    incoming := []
    offeredServices := { self.offeredServices with counts := ∅ }
    requestedServices := { self.requestedServices with counts := ∅ }
    availabilityHandlers := { self.availabilityHandlers with counts := ∅ }
    messageHandlers := { self.messageHandlers with counts := ∅ }
    offeredEvents := { self.offeredEvents with counts := ∅ }
    requestedEvents := { self.requestedEvents with counts := ∅ }
    subscribedGroups := { self.subscribedGroups with counts := ∅ } })

section Registrations

def watchStart (nativeMapping : Text) (self : Transport) : Except Status Handle × Transport :=
  match parseMapping nativeMapping with
  | .error _ => (.error .invalidArgument, self)
  | .ok mapping =>
      if !self.running then (.error .invalidState, self)
      else if self.watches.length ≥ self.maxEndpoints then (.error .resourceExhausted, self)
      else if self.watches.any fun watch => watch.2.sameService mapping && watch.2.otherVersion mapping then
        (.error .incompatibleAbi, self)
      else if self.endpoints.any fun endpoint =>
          endpoint.2.mapping.sameService mapping && endpoint.2.mapping.otherVersion mapping then
        (.error .incompatibleAbi, self)
      else (.ok self.nextHandle, { self with
        nextHandle := self.nextHandle + 1
        watches := self.watches ++ [(self.nextHandle, mapping)]
        availabilityHandlers := self.availabilityHandlers.acquire Native.availability mapping.serviceKey
        requestedServices := self.requestedServices.acquire Native.services mapping.serviceKey })

variable (handle : Handle)

def watchStop (self : Transport) : Status × Transport :=
  match self.watches.lookup handle with
  | none => (.notFound, self)
  | some mapping => (.ok, { self with
      watches := HandleTable.remove handle self.watches
      availabilityHandlers := self.availabilityHandlers.release Native.availability self.running mapping.serviceKey
      requestedServices := self.requestedServices.release Native.services self.running mapping.serviceKey })

def install (endpoint : Endpoint) (self : Transport) : Transport :=
  let mapping := endpoint.mapping
  { self with
    nextHandle := self.nextHandle + 1
    endpoints := self.endpoints ++ [(self.nextHandle, endpoint)]
    offeredServices :=
      if endpoint.server then self.offeredServices.acquire Native.services mapping.serviceKey
      else self.offeredServices
    offeredEvents :=
      if endpoint.publishes then self.offeredEvents.acquire Native.offered mapping.eventKey else self.offeredEvents
    requestedServices :=
      if endpoint.server then self.requestedServices
      else self.requestedServices.acquire Native.services mapping.serviceKey
    messageHandlers := self.messageHandlers.acquire Native.messages mapping.messageKey }

def endpointCreate (descriptor : Descriptor) (self : Transport) : Except Status Handle × Transport :=
  match parseMapping descriptor.nativeMapping with
  | .error _ => (.error .invalidArgument, self)
  | .ok mapping =>
      match descriptor.refused mapping with
      | some status => (.error status, self)
      | none =>
          let created : Endpoint := ⟨descriptor, mapping⟩
          if !self.running then (.error .invalidState, self)
          else if self.endpoints.length ≥ self.maxEndpoints then (.error .resourceExhausted, self)
          else if self.watches.any fun watch => watch.2.sameService mapping && watch.2.otherVersion mapping then
            (.error .incompatibleAbi, self)
          else
            match self.endpoints.findSome? fun endpoint => created.collision endpoint.2 with
            | some status => (.error status, self)
            | none => (.ok self.nextHandle, self.install created)

def withdraw (endpoint : Endpoint) (self : Transport) : Transport :=
  let mapping := endpoint.mapping
  { self with
    messageHandlers := self.messageHandlers.release Native.messages self.running mapping.messageKey
    offeredEvents :=
      if endpoint.publishes then self.offeredEvents.release Native.offered self.running mapping.eventKey
      else self.offeredEvents
    offeredServices :=
      if endpoint.server then self.offeredServices.release Native.services self.running mapping.serviceKey
      else self.offeredServices
    requestedServices :=
      if endpoint.server then self.requestedServices
      else self.requestedServices.release Native.services self.running mapping.serviceKey
    handlers := HandleTable.remove handle self.handlers
    endpoints := HandleTable.remove handle self.endpoints }

/-- The subscriptions and the requests of an endpoint keep it. The removed handler is then deactivated. -/
def endpointDestroy (self : Transport) : Except Status (Option Nat) × Transport :=
  if (self.subscriptions.any fun subscription => subscription.2 == handle) ||
      (self.pending.any fun operation => operation.2.endpoint == handle) ||
      (self.incoming.any fun request => request.2.endpoint == handle) then (.error .invalidState, self)
  else
    match self.endpoints.lookup handle with
    | none => (.error .notFound, self)
    | some endpoint => (.ok (self.handlers.lookup handle), self.withdraw handle endpoint)

def subscribe (endpoint : Handle) (self : Transport) : Except Status Handle × Transport :=
  if !self.running then (.error .invalidState, self)
  else
    match self.endpoints.lookup endpoint with
    | none => (.error .notFound, self)
    | some found =>
        if found.descriptor.kind ≠ .eventSubscriber then (.error .invalidArgument, self)
        else if self.subscriptions.length ≥ self.maxEndpoints then (.error .resourceExhausted, self)
        else (.ok self.nextHandle, { self with
          nextHandle := self.nextHandle + 1
          subscriptions := self.subscriptions ++ [(self.nextHandle, endpoint)]
          requestedEvents := self.requestedEvents.acquire Native.requested found.mapping.eventKey
          subscribedGroups := self.subscribedGroups.acquire Native.groups found.mapping.groupKey })

def unsubscribe (self : Transport) : Status × Transport :=
  match self.subscriptions.lookup handle with
  | none => (.notFound, self)
  | some endpoint =>
      let remaining := { self with subscriptions := HandleTable.remove handle self.subscriptions }
      match self.endpoints.lookup endpoint with
      | none => (.ok, remaining)
      | some found => (.ok, { remaining with
          subscribedGroups := self.subscribedGroups.release Native.groups self.running found.mapping.groupKey
          requestedEvents := self.requestedEvents.release Native.requested self.running found.mapping.eventKey })

end Registrations

def requestRefused (endpoint : Handle) (size : Nat) (self : Transport) : Option Status :=
  if !self.running then some .invalidState
  else
    match self.endpoints.lookup endpoint with
    | none => some .notFound
    | some found =>
        if found.descriptor.kind ≠ .methodClient then some .invalidArgument
        else if self.pending.length ≥ self.maxOperations then some .resourceExhausted
        else if size > found.descriptor.maxPayloadSize ∨ size > maximumLength then some .resourceExhausted
        else none

/-- The middleware has given the message its correlation when it has sent it. The first operation with a correlation
keeps it. -/
def request (endpoint : Handle) (operation size deadline : Nat) (correlation : Correlation) (self : Transport) :
    Except Status Handle × Transport :=
  match self.requestRefused endpoint size with
  | some status => (.error status, self)
  | none => (.ok self.nextHandle, { self with
      nextHandle := self.nextHandle + 1
      pending := self.pending ++ [(self.nextHandle, ⟨endpoint, operation, deadline⟩)]
      correlations :=
        if (self.correlations.lookup correlation).isSome then self.correlations
        else self.correlations ++ [(correlation, self.nextHandle)] })

/-- A correlation whose operation is not pending keeps its entry. -/
def response (correlation : Correlation) (self : Transport) : Option (Handle × Pending) × Transport :=
  if !self.running then (none, self)
  else
    match self.correlations.lookup correlation with
    | none => (none, self)
    | some operation =>
        match self.pending.lookup operation with
        | none => (none, self)
        | some found => (some (operation, found), { self with
            pending := HandleTable.remove operation self.pending
            correlations := self.correlations.filter fun entry => entry.1 != correlation })

def cancel (operation : Handle) (self : Transport) : Option Pending × Transport :=
  match self.pending.lookup operation with
  | none => (none, self)
  | some found => (some found, { self with
      pending := HandleTable.remove operation self.pending
      correlations := self.correlations.eraseP fun entry => entry.2 == operation })

def expiredAt (now : Nat) (pending : Pending) : Bool := pending.deadline != 0 && decide (pending.deadline ≤ now)

/-- One pass of the loop of deadlines takes the operations that have expired. -/
def expire (now : Nat) (self : Transport) : HandleTable Pending × Transport :=
  let expired := self.pending.filter fun entry => expiredAt now entry.2
  (expired, { self with
    pending := self.pending.filter fun entry => !expiredAt now entry.2
    correlations := self.correlations.filter fun entry => !(expired.any fun operation => operation.1 == entry.2) })

def setHandler (endpoint : Handle) (handler : Option Nat) (self : Transport) : Except Status (Option Nat) × Transport :=
  match self.endpoints.lookup endpoint with
  | none => (.error .notFound, self)
  | some found =>
      if found.descriptor.kind ≠ .methodServer then (.error .invalidArgument, self)
      else
        match handler with
        | some object =>
            if (self.handlers.lookup endpoint).isSome then (.error .invalidState, self)
            else (.ok none, { self with handlers := self.handlers ++ [(endpoint, object)] })
        | none =>
            (.ok (self.handlers.lookup endpoint),
              { self with handlers := HandleTable.remove endpoint self.handlers })

def accepts (message : Message) (mapping : Mapping) : Bool :=
  mapping.service == message.service && mapping.instanceId == message.instanceId && mapping.element == message.method

/-- The first endpoint of the method that has a handler takes the request. A transport that does not run ignores it. -/
def receive (message : Message) (self : Transport) : Option (Except ReturnCode (Nat × Handle)) × Transport :=
  if !self.running then (none, self)
  else
    match self.endpoints.findSome? fun entry =>
        if accepts message entry.2.mapping then (self.handlers.lookup entry.1).map fun handler => (handler, entry.1)
        else none with
    | none => (some (.error .unknownMethod), self)
    | some (handler, endpoint) =>
        if self.incoming.length ≥ self.maxOperations then (some (.error .notReady), self)
        else (some (.ok (handler, self.nextHandle)), { self with
          nextHandle := self.nextHandle + 1
          incoming := self.incoming ++ [(self.nextHandle, ⟨message, endpoint⟩)] })

def respond (request : Handle) (size : Nat) (self : Transport) : Except Status Message × Transport :=
  if size > maximumLength then (.error .invalidArgument, self)
  else
    match self.incoming.lookup request with
    | none => (.error .notFound, self)
    | some found =>
        match self.endpoints.lookup found.endpoint with
        | none => (.error .invalidState, self)
        | some endpoint =>
            if size > endpoint.descriptor.maxPayloadSize then (.error .resourceExhausted, self)
            else (.ok found.message, { self with incoming := HandleTable.remove request self.incoming })

end Transport

end OpenVehicle.Com.Vsomeip
