/-
This file models the interface between the communication runtime and a transport provider.
Each function of the interface is a call, and its result is the reply to the call.
-/

import OpenVehicle.Data.Codec

namespace OpenVehicle.Com

open Codec (Byte)

abbrev Uuid := Vector Byte 16

/-- Zero is the invalid handle. -/
abbrev Handle := Nat

inductive Status where
  | ok | invalidArgument | incompatibleAbi | alreadyExists | invalidState | transportError | unsupported
  | resourceExhausted | notFound | cancelled | deadlineExceeded | shuttingDown | applicationError
  deriving DecidableEq, Repr

inductive Error where
  | none | invalidArgument | incompatibleAbi | duplicateTransport | invalidState | providerFailure
  | unavailable | unsupported | resourceExhausted | notFound | cancelled | deadlineExceeded | shuttingDown
  deriving DecidableEq, Repr

def mapStatus : Status → Error
  | .notFound => .unavailable
  | .incompatibleAbi | .unsupported => .incompatibleAbi
  | .resourceExhausted => .resourceExhausted
  | .deadlineExceeded => .deadlineExceeded
  | .cancelled => .cancelled
  | .shuttingDown => .shuttingDown
  | _ => .providerFailure

def abiStatus : Error → Status
  | .unavailable => .notFound
  | .incompatibleAbi => .unsupported
  | .resourceExhausted => .resourceExhausted
  | .deadlineExceeded => .deadlineExceeded
  | .cancelled => .cancelled
  | .shuttingDown => .shuttingDown
  | _ => .transportError

inductive EndpointKind where
  | eventPublisher | eventSubscriber | methodClient | methodServer
  deriving DecidableEq, Repr

inductive ElementOperation where
  | event | method | fieldGet | fieldSet | fieldNotify
  deriving DecidableEq, Repr

structure ElementDescriptor where
  id : Uuid
  tag : UInt32
  name : String
  operation : ElementOperation
  deriving DecidableEq, Repr

structure NativeElementMapping where
  elementId : Uuid
  event : String := ""
  method : String := ""
  fieldGet : String := ""
  fieldSet : String := ""
  deriving DecidableEq, Repr

structure RouteBinding where
  serviceId : Uuid
  instanceId : Uuid
  routeEpoch : Nat
  maxPayloadSize : Nat := 65536
  historyDepth : Nat := 8
  nativeElements : List NativeElementMapping := []
  provider : String
  nativeService : String
  priority : Int := 0
  deriving DecidableEq, Repr

inductive Capability where
  | events | methods | ordered | deadlines | cancellation
  deriving DecidableEq, Repr

structure EndpointDescriptor where
  kind : EndpointKind
  serviceId : Uuid
  instanceId : Uuid
  elementId : Uuid
  routeEpoch : Nat
  maxPayloadSize : Nat
  historyDepth : Nat
  requiredFeatures : List Capability
  nativeMapping : String
  operation : ElementOperation
  deriving DecidableEq, Repr

def NativeElementMapping.select (mapping : NativeElementMapping) : ElementOperation → String
  | .event | .fieldNotify => mapping.event
  | .fieldGet => mapping.fieldGet
  | .fieldSet => mapping.fieldSet
  | .method => mapping.method

def requiredFeatures : EndpointKind → List Capability
  | .eventSubscriber | .eventPublisher => [.events, .ordered]
  | .methodClient => [.methods, .deadlines, .cancellation]
  | .methodServer => [.methods]

def descriptor (route : RouteBinding) (element : ElementDescriptor) (kind : EndpointKind) : EndpointDescriptor where
  kind := kind
  serviceId := route.serviceId
  instanceId := route.instanceId
  elementId := element.id
  routeEpoch := route.routeEpoch
  maxPayloadSize := route.maxPayloadSize
  historyDepth := route.historyDepth
  requiredFeatures := requiredFeatures kind
  nativeMapping := ((route.nativeElements.find? (·.elementId = element.id)).map (·.select element.operation)).getD ""
  operation := element.operation

/-- The calls of the binding. A granted loan has the requested size, and a send states the bytes that the
binding has written into the loan. -/
inductive Call where
  | hasRequestLoans
  | hasResponseLoans
  | endpointCreate (descriptor : EndpointDescriptor)
  | requestLoanAcquire (endpoint : Handle) (size deadline : Nat)
  | request (endpoint : Handle) (payload : List Byte) (deadline : Nat)
  | requestLoanSend (endpoint loan : Handle) (payload : List Byte)
  | responseLoanAcquire (request : Handle) (size : Nat) (status : Status)
  | responseLoanSend (request loan : Handle) (payload : List Byte)
  | respond (request : Handle) (status : Status) (payload : List Byte)
  | loanAcquire (endpoint : Handle) (size : Nat)
  | loanPublish (endpoint loan : Handle) (payload : List Byte)
  | loanRelease (loan : Handle)
  | publish (endpoint : Handle) (payload : List Byte)
  /-- The binding looks an event up under its own mutex. A closed binding has none. -/
  | findEvent (element : Uuid)
  /-- The binding catches the failure of this allocation. -/
  | allocate (size : Nat)

abbrev Call.Reply : Call → Type
  | .hasRequestLoans | .hasResponseLoans | .allocate _ => Bool
  | .endpointCreate _ | .requestLoanAcquire _ _ _ | .request _ _ _ | .requestLoanSend _ _ _
  | .responseLoanAcquire _ _ _ | .loanAcquire _ _ => Status × Handle
  | .responseLoanSend _ _ _ | .respond _ _ _ | .loanPublish _ _ _ | .loanRelease _ | .publish _ _ => Status
  | .findEvent _ => Option Handle

end OpenVehicle.Com
