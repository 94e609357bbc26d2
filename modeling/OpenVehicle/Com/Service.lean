/-
This file models the generated services: the handlers of a skeleton and the decoders of a proxy.
-/

import OpenVehicle.Com.Binding
import OpenVehicle.Com.Codec

namespace OpenVehicle.Com

open Codec (Byte)
open Data (Value)

/-- The types of a method, with its application errors in the declared order. -/
structure MethodTypes where
  input : Ty
  output : Ty
  errors : List Ty

/-- A method returns its output, the application error at a position, or an error. -/
inductive MethodResult where
  | value (value : Value)
  | application (index : Nat) (value : Value)
  | error (error : Error)

def encodedSize (ty : Ty) (value : Value) : Nat :=
  match encode ty value Encoder.counter with
  | .error _ => 0
  | .ok out => if out.valid then out.size else 0

/-- An empty destination is a growing buffer. -/
def encodeInto (ty : Ty) (value : Value) : Encoding := fun size =>
  match encode ty value { destination := List.replicate size 0 } with
  | .error _ => none
  | .ok out =>
      if out.valid ∧ out.size = size then some (if size = 0 then [] else out.destination) else none

def makeRawResult (ty : Ty) (value : Value) : RawServerResult where
  error := .none
  encodedPayloadSize := encodedSize ty value
  encodePayload := some (encodeInto ty value)

/-- The payload of an application error starts with its position. -/
def makeApplicationRawResult (index : Nat) (ty : Ty) (value : Value) : RawServerResult where
  error := .none
  applicationError := true
  encodedPayloadSize := encodedSize ty value + 1
  encodePayload := some fun size =>
    if size = 0 then none else (encodeInto ty value (size - 1)).map (UInt8.ofNat index :: ·)

/-- The handler of a method throws when the implementation does, or when it returns an application error that
the method does not declare. -/
def methodHandler (types : MethodTypes) (implementation : Value → Option MethodResult) (bytes : List Byte) :
    Option RawServerResult :=
  match decodeValue types.input (initial types.input) bytes with
  | .error _ => some {}
  | .ok request =>
      (implementation request).bind fun
        | .value value => some (makeRawResult types.output value)
        | .application index value =>
            if types.errors = [] then none
            else
              match types.errors[index]? with
              | some error => some (makeApplicationRawResult index error value)
              | none => some {}
        | .error error => some (makeRawError error)

def setHandler (ty : Ty) (implementation : Value → Option (Option Error)) (bytes : List Byte) :
    Option RawServerResult :=
  match decodeValue ty (initial ty) bytes with
  | .error _ => some {}
  | .ok value =>
      (implementation value).map fun
        | some error => makeRawError error
        | none => { hasError := false }

def decodeOutput (ty : Ty) (payload : List Byte) : MethodResult :=
  match decodeValue ty (initial ty) payload with
  | .error _ => .error .providerFailure
  | .ok value => .value value

/-- The first byte of an application error selects its type. -/
def decodeApplication (errors : List Ty) : List Byte → MethodResult
  | [] => .error .providerFailure
  | index :: payload =>
      match errors[index.toNat]? with
      | none => .error .providerFailure
      | some error =>
          match decodeValue error (initial error) payload with
          | .error _ => .error .providerFailure
          | .ok value => .application index.toNat value

def decodeMethod (types : MethodTypes) (raw : RawResult) : MethodResult :=
  if raw.hasError then .error raw.error
  else if types.errors ≠ [] ∧ raw.applicationError then decodeApplication types.errors raw.payload
  else decodeOutput types.output raw.payload

def decodeSet (raw : RawResult) : Option Error :=
  if raw.hasError then some raw.error
  else if raw.applicationError ∨ raw.payload ≠ [] then some .providerFailure
  else none

/-- The completion of an operation hands the status and the payload of the response to the proxy. -/
def completed (status : Status) (payload : List Byte) : RawResult where
  error := mapStatus status
  hasError := status ≠ .ok ∧ status ≠ .applicationError
  applicationError := status = .applicationError
  payload := payload

end OpenVehicle.Com
