/-
This file models the operations of the provider binding that send requests, responses and events.
-/

import OpenVehicle.Com.Transport
import OpenVehicle.Concurrency.Trace

namespace OpenVehicle.Com

open Codec (Byte)
open Concurrency (Program)

/-- An encoder fills a destination of the given size, or it fails. -/
abbrev Encoding := Nat → Option (List Byte)

structure RawResult where
  error : Error
  hasError : Bool
  applicationError : Bool
  payload : List Byte
  deriving DecidableEq, Repr

/-- A handler returns its payload, or an encoder with the size of the payload. -/
structure RawServerResult where
  error : Error := .providerFailure
  hasError : Bool := false
  applicationError : Bool := false
  payload : List Byte := []
  encodedPayloadSize : Nat := 0
  encodePayload : Option Encoding := none

def makeRawError (error : Error) : RawServerResult := { error, hasError := true }

def RawServerResult.status (result : RawServerResult) : Status :=
  if result.applicationError then .applicationError
  else if result.hasError then abiStatus result.error
  else .ok

abbrev Action (A : Type) := Program Call Call.Reply A

abbrev Call.perform (call : Call) : Action call.Reply := Program.perform call

def resize (size : Nat) (payload : List Byte) : List Byte :=
  payload.take size ++ List.replicate (size - payload.length) 0

/-- The status and the payload of a response whose bytes are encoded into an allocated buffer. -/
def RawServerResult.copied (result : RawServerResult) (encoding : Encoding) (allocated : Bool) :
    Status × List Byte :=
  if !allocated then (.resourceExhausted, [])
  else if result.status = .resourceExhausted then
    (.resourceExhausted, resize result.encodedPayloadSize result.payload)
  else
    match encoding result.encodedPayloadSize with
    | none => (.transportError, [])
    | some payload => (result.status, payload)

/-- The provider copies the bytes of the response. -/
def respondCopy (request : Handle) (result : RawServerResult) : Action Unit :=
  match result.encodePayload with
  | none => do
      let _ ← Call.perform (.respond request result.status result.payload)
      pure ()
  | some encoding => do
      let allocated ← Call.perform (.allocate result.encodedPayloadSize)
      let (status, payload) := result.copied encoding allocated
      let _ ← Call.perform (.respond request status payload)
      pure ()

/-- The response is written into a loan of the provider, if the provider grants one. -/
def respondLoaned (request : Handle) (result : RawServerResult) (encoding : Encoding) : Action Unit := do
  let (status, loan) ← Call.perform (.responseLoanAcquire request result.encodedPayloadSize result.status)
  if status = .ok then
    match encoding result.encodedPayloadSize with
    | some payload => do
        let _ ← Call.perform (.responseLoanSend request loan payload)
        pure ()
    | none => do
        let _ ← Call.perform (.loanRelease loan)
        pure ()
  else respondCopy request result

/-- A handler that throws has no result. -/
def handled (outcome : Option RawServerResult) : RawServerResult :=
  outcome.getD { error := .providerFailure, hasError := true }

def onRequest (request : Handle) (outcome : Option RawServerResult) : Action Unit :=
  let result := handled outcome
  match result.encodePayload with
  | none => respondCopy request result
  | some encoding => do
      let loans ← Call.perform .hasResponseLoans
      if loans then respondLoaned request result encoding else respondCopy request result

/-- A submitted operation waits for its completion, or it has failed at once. -/
inductive Submission where
  | accepted (endpoint operation : Handle)
  | failed (endpoint : Handle) (status : Status)
  deriving DecidableEq, Repr

def submit (endpoint : Handle) : Status × Handle → Submission
  | (.ok, operation) => .accepted endpoint operation
  | (status, _) => .failed endpoint status

def invoke (route : RouteBinding) (element : ElementDescriptor) (payload : List Byte) (deadline : Nat) :
    Action Submission := do
  let (status, endpoint) ← Call.perform (.endpointCreate (descriptor route element .methodClient))
  if status = .ok then
    let sent ← Call.perform (.request endpoint payload deadline)
    pure (submit endpoint sent)
  else pure (.failed endpoint status)

/-- The request is written into a loan of the provider, if the endpoint supports loans. -/
def requestLoaned (endpoint : Handle) (size : Nat) (encoding : Encoding) (deadline : Nat) : Action Submission := do
  let (status, loan) ← Call.perform (.requestLoanAcquire endpoint size deadline)
  if status = .unsupported then
    match encoding size with
    | none => pure (.failed endpoint .transportError)
    | some payload => do
        let sent ← Call.perform (.request endpoint payload deadline)
        pure (submit endpoint sent)
  else if status = .ok then
    match encoding size with
    | none => do
        let _ ← Call.perform (.loanRelease loan)
        pure (.failed endpoint .transportError)
    | some payload => do
        let sent ← Call.perform (.requestLoanSend endpoint loan payload)
        pure (submit endpoint sent)
  else pure (.failed endpoint status)

def invokeLoaned (route : RouteBinding) (element : ElementDescriptor) (size : Nat) (encoding : Encoding)
    (deadline : Nat) : Action Submission := do
  let loans ← Call.perform .hasRequestLoans
  if loans then
    let (status, endpoint) ← Call.perform (.endpointCreate (descriptor route element .methodClient))
    if status = .ok then requestLoaned endpoint size encoding deadline
    else pure (.failed endpoint status)
  else
    match encoding size with
    | none => pure (.failed 0 .transportError)
    | some payload => invoke route element payload deadline

def statusError (status : Status) : Option Error := if status = .ok then none else some (mapStatus status)

def publish (element : ElementDescriptor) (payload : List Byte) : Action (Option Error) := do
  let found ← Call.perform (.findEvent element.id)
  match found with
  | none => pure (some .unavailable)
  | some endpoint => do
      let status ← Call.perform (.publish endpoint payload)
      pure (statusError status)

def publishLoaned (element : ElementDescriptor) (size : Nat) (encoding : Encoding) : Action (Option Error) := do
  let found ← Call.perform (.findEvent element.id)
  match found with
  | none => pure (some .unavailable)
  | some endpoint => do
      let (status, loan) ← Call.perform (.loanAcquire endpoint size)
      if status = .unsupported then
        match encoding size with
        | none => pure (some .providerFailure)
        | some payload => publish element payload
      else if status = .ok then
        match encoding size with
        | none => do
            let _ ← Call.perform (.loanRelease loan)
            pure (some .providerFailure)
        | some payload => do
            let status ← Call.perform (.loanPublish endpoint loan payload)
            if status = .ok then pure none
            else do
              let _ ← Call.perform (.loanRelease loan)
              pure (some (mapStatus status))
      else pure (some (mapStatus status))

end OpenVehicle.Com
