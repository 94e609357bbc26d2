/-
This file models the tables of the shared-memory transport. Each function is a locked section of the function of the
transport that has its name, and the native results are its parameters.
-/

import OpenVehicle.Com.Transport
import OpenVehicle.Data.HandleTable

namespace OpenVehicle.Com.Iceoryx

open Data (HandleTable)

/-- The sizes of the payloads are the part of a mapping that the requests need. -/
structure Mapping where
  requestPayloadSize : Nat
  responsePayloadSize : Nat
  deriving DecidableEq, Repr

structure Endpoint where
  kind : EndpointKind
  mapping : Mapping
  deriving DecidableEq, Repr

namespace Endpoint

def client (endpoint : Endpoint) : Bool := endpoint.kind == .methodClient

def server (endpoint : Endpoint) : Bool := endpoint.kind == .methodServer

end Endpoint

structure RequestLoan where
  endpoint : Handle
  payloadSize : Nat
  deadline : Nat
  deriving DecidableEq, Repr

structure ResponseLoan where
  endpoint : Handle
  payloadSize : Nat
  request : Handle
  deriving DecidableEq, Repr

/-- A pending operation is known by the call that has requested it. -/
structure Pending where
  endpoint : Handle
  call : Nat
  deadline : Nat
  deriving DecidableEq, Repr

structure ActiveRequest where
  endpoint : Handle
  deriving DecidableEq, Repr

structure Transport where
  started : Bool := true
  running : Bool := true
  node : Bool := true
  nextHandle : Handle := 1
  maxEndpoints : Nat := 128
  maxOperations : Nat := 128
  endpoints : HandleTable Endpoint := []
  subscriptions : HandleTable Handle := []
  loans : HandleTable Handle := []
  requestLoans : HandleTable RequestLoan := []
  responseLoans : HandleTable ResponseLoan := []
  receivedLoans : List Handle := []
  pending : HandleTable Pending := []
  activeRequests : HandleTable ActiveRequest := []
  deriving DecidableEq, Repr

namespace Transport

section Endpoints

/-- The ports of the endpoint exist before the lock is taken. -/
def endpointCreate (endpoint : Endpoint) (self : Transport) : Except Status Handle × Transport :=
  if self.endpoints.length ≥ self.maxEndpoints then (.error .resourceExhausted, self)
  else (.ok self.nextHandle, { self with
    nextHandle := self.nextHandle + 1
    endpoints := self.endpoints ++ [(self.nextHandle, endpoint)] })

variable (handle : Handle)

/-- Subscriptions, loans, operations and requests keep the endpoint. -/
def keeps (self : Transport) : Bool :=
  (self.subscriptions.any fun subscription => subscription.2 == handle) ||
    (self.loans.any fun loan => loan.2 == handle) ||
    (self.requestLoans.any fun loan => loan.2.endpoint == handle) ||
    (self.responseLoans.any fun loan => loan.2.endpoint == handle) ||
    (self.pending.any fun operation => operation.2.endpoint == handle) ||
    (self.activeRequests.any fun request => request.2.endpoint == handle)

def endpointDestroy (self : Transport) : Status × Transport :=
  if self.keeps handle then (.invalidState, self)
  else
    match self.endpoints.lookup handle with
    | none => (.notFound, self)
    | some _ => (.ok, { self with endpoints := HandleTable.remove handle self.endpoints })

/-- The middleware has a port for the endpoint when it has a kind that subscribes. -/
def subscribe (endpoint : Handle) (self : Transport) : Except Status Handle × Transport :=
  match self.endpoints.lookup endpoint with
  | none => (.error .notFound, self)
  | some found =>
      if found.kind ≠ .eventSubscriber then (.error .invalidState, self)
      else (.ok self.nextHandle, { self with
        nextHandle := self.nextHandle + 1
        subscriptions := self.subscriptions ++ [(self.nextHandle, endpoint)] })

def unsubscribe (self : Transport) : Status × Transport :=
  match self.subscriptions.lookup handle with
  | none => (.notFound, self)
  | some _ => (.ok, { self with subscriptions := HandleTable.remove handle self.subscriptions })

/-- A received sample takes a handle before its task. -/
def receiveSample (self : Transport) : Transport :=
  { self with nextHandle := self.nextHandle + 1, receivedLoans := self.receivedLoans ++ [self.nextHandle] }

/-- The first lock of a loan finds the endpoint of a publisher. -/
def loanFind (endpoint : Handle) (self : Transport) : Status :=
  match self.endpoints.lookup endpoint with
  | none => .notFound
  | some found => if found.kind ≠ .eventPublisher then .invalidArgument else .ok

/-- The second lock of a loan enters it whether the endpoint is still there or not. -/
def loanEnter (endpoint : Handle) (self : Transport) : Except Status Handle × Transport :=
  if self.loans.length ≥ self.maxOperations then (.error .resourceExhausted, self)
  else (.ok self.nextHandle, { self with
    nextHandle := self.nextHandle + 1
    loans := self.loans ++ [(self.nextHandle, endpoint)] })

/-- A loan is published whole. -/
def loanPublish (endpoint loan : Handle) (whole sent : Bool) (self : Transport) : Status × Transport :=
  match self.loans.lookup loan with
  | none => (.notFound, self)
  | some found =>
      if found ≠ endpoint then (.invalidArgument, self)
      else if (self.endpoints.lookup endpoint).isNone ∨ whole = false then (.invalidArgument, self)
      else (if sent then .ok else .transportError,
        { self with loans := HandleTable.remove loan self.loans })

def loanRelease (self : Transport) : Status × Transport :=
  if (self.loans.lookup handle).isSome then (.ok, { self with loans := HandleTable.remove handle self.loans })
  else if (self.requestLoans.lookup handle).isSome then
    (.ok, { self with requestLoans := HandleTable.remove handle self.requestLoans })
  else if (self.responseLoans.lookup handle).isSome then
    (.ok, { self with responseLoans := HandleTable.remove handle self.responseLoans })
  else if self.receivedLoans.contains handle then
    (.ok, { self with receivedLoans := self.receivedLoans.filter (· != handle) })
  else (.notFound, self)

end Endpoints

def requestLoanAcquire (endpoint : Handle) (size deadline now : Nat) (loaned : Bool) (self : Transport) :
    Except Status Handle × Transport :=
  match self.endpoints.lookup endpoint with
  | none => (.error .notFound, self)
  | some found =>
      if !found.client ∨ size > found.mapping.requestPayloadSize then (.error .invalidArgument, self)
      else if !self.running then (.error .shuttingDown, self)
      else if self.requestLoans.length + self.pending.length ≥ self.maxOperations then
        (.error .resourceExhausted, self)
      else if deadline ≠ 0 ∧ now ≥ deadline then (.error .deadlineExceeded, self)
      else if !loaned then (.error .resourceExhausted, self)
      else (.ok self.nextHandle, { self with
        nextHandle := self.nextHandle + 1
        requestLoans := self.requestLoans ++ [(self.nextHandle, ⟨endpoint, size, deadline⟩)] })

/-- A request loan is taken from the table before it is sent. -/
def requestLoanTake (endpoint loan : Handle) (used : Nat) (self : Transport) : Except Status RequestLoan × Transport :=
  match self.requestLoans.lookup loan with
  | none => (.error .notFound, self)
  | some found =>
      if found.endpoint ≠ endpoint ∨ found.payloadSize ≠ used then (.error .invalidArgument, self)
      else if self.pending.length ≥ self.maxOperations then (.error .resourceExhausted, self)
      else
        match self.endpoints.lookup endpoint with
        | none => (.error .notFound, self)
        | some _ => (.ok found, { self with requestLoans := HandleTable.remove loan self.requestLoans })

/-- The operation of a sent loan is entered whether the transport runs or not. -/
def requestLoanEnter (operation : Pending) (self : Transport) : Handle × Transport :=
  (self.nextHandle, { self with
    nextHandle := self.nextHandle + 1
    pending := self.pending ++ [(self.nextHandle, operation)] })

/-- The first lock of a request finds its endpoint. -/
def requestFind (endpoint : Handle) (self : Transport) : Except Status Endpoint :=
  match self.endpoints.lookup endpoint with
  | none => .error .notFound
  | some found =>
      if !found.client then .error .invalidState
      else if self.pending.length ≥ self.maxOperations then .error .resourceExhausted
      else .ok found

/-- The second lock of a request holds while the message is sent. -/
def requestSend (operation : Pending) (loaned sent : Bool) (self : Transport) : Except Status Handle × Transport :=
  if !self.running then (.error .shuttingDown, self)
  else if self.pending.length ≥ self.maxOperations then (.error .resourceExhausted, self)
  else if !loaned then (.error .resourceExhausted, self)
  else if !sent then (.error .transportError, self)
  else (.ok self.nextHandle, { self with
    nextHandle := self.nextHandle + 1
    pending := self.pending ++ [(self.nextHandle, operation)] })

def cancel (operation : Handle) (self : Transport) : Option Pending × Transport :=
  match self.pending.lookup operation with
  | none => (none, self)
  | some found => (some found, { self with pending := HandleTable.remove operation self.pending })

/-- The middleware has a response for the operation, an error, or nothing. A response without a valid header has no
status. -/
inductive Received where
  | nothing
  | response (status : Option Status)
  | error
  deriving DecidableEq, Repr

/-- A pass of the receive loop takes an operation with its status, or it leaves the operation. -/
def receive (operation : Handle) (received : Received) (now : Nat) (self : Transport) :
    Option (Pending × Status) × Transport :=
  match self.pending.lookup operation with
  | none => (none, self)
  | some found =>
      let taken (status : Status) : Option (Pending × Status) × Transport :=
        (some (found, status), { self with pending := HandleTable.remove operation self.pending })
      let expired := found.deadline ≠ 0 ∧ now ≥ found.deadline
      match received with
      | .response status => taken (status.getD .transportError)
      | .error => taken (if expired then .deadlineExceeded else .transportError)
      | .nothing => if expired then taken .deadlineExceeded else (none, self)

/-- A stop takes the operations and drops the native node with everything that belongs to it. -/
def drain (self : Transport) : HandleTable Pending × List Handle × Transport :=
  (self.pending, self.endpoints.map Prod.fst, { self with
    node := false
    endpoints := []
    subscriptions := []
    loans := []
    requestLoans := []
    responseLoans := []
    receivedLoans := []
    pending := []
    activeRequests := [] })

/-- The receive loop enters a request for an endpoint that it has found before. -/
def enterRequest (endpoint : Handle) (self : Transport) : Option Handle × Transport :=
  if self.activeRequests.length ≥ self.maxOperations then (none, self)
  else (some self.nextHandle, { self with
    nextHandle := self.nextHandle + 1
    activeRequests := self.activeRequests ++ [(self.nextHandle, ⟨endpoint⟩)] })

def requestHandlerFind (endpoint : Handle) (self : Transport) : Status :=
  match self.endpoints.lookup endpoint with
  | none => .notFound
  | some found => if !found.server then .invalidState else .ok

def responseLoanAcquire (request : Handle) (size : Nat) (loaned : Bool) (self : Transport) :
    Except Status Handle × Transport :=
  match self.activeRequests.lookup request with
  | none => (.error .notFound, self)
  | some found =>
      if self.responseLoans.length ≥ self.maxOperations then (.error .resourceExhausted, self)
      else
        match self.endpoints.lookup found.endpoint with
        | none => (.error .invalidArgument, self)
        | some endpoint =>
            if size > endpoint.mapping.responsePayloadSize then (.error .invalidArgument, self)
            else if !loaned then (.error .resourceExhausted, self)
            else (.ok self.nextHandle, { self with
              nextHandle := self.nextHandle + 1
              responseLoans := self.responseLoans ++ [(self.nextHandle, ⟨found.endpoint, size, request⟩)]
              activeRequests := HandleTable.remove request self.activeRequests })

def responseLoanSend (request loan : Handle) (used : Nat) (sent : Bool) (self : Transport) : Status × Transport :=
  match self.responseLoans.lookup loan with
  | none => (.notFound, self)
  | some found =>
      if found.payloadSize ≠ used ∨ found.request ≠ request then (.invalidArgument, self)
      else (if sent then .ok else .transportError,
        { self with responseLoans := HandleTable.remove loan self.responseLoans })

/-- A request that is taken from the table is answered or dropped. -/
def respond (request : Handle) (size : Nat) (loaned sent : Bool) (self : Transport) : Status × Transport :=
  match self.activeRequests.lookup request with
  | none => (.notFound, self)
  | some found =>
      match self.endpoints.lookup found.endpoint with
      | none => (.invalidState, self)
      | some endpoint =>
          if size > endpoint.mapping.responsePayloadSize then (.invalidArgument, self)
          else (if !loaned then .resourceExhausted else if sent then .ok else .transportError,
            { self with activeRequests := HandleTable.remove request self.activeRequests })

end Transport

end OpenVehicle.Com.Iceoryx
