/-
This file proves what a client receives when the server cannot decode its request.
-/

import OpenVehicle.Com.Reading
import OpenVehicle.Com.Responses
import OpenVehicle.Com.Service

namespace OpenVehicle.Com

open Codec (Byte)
open Concurrency (Program Exchange)
open Data (Value)

/-- The operations whose requests carry a payload. -/
inductive ServiceOperation where
  | method (types : MethodTypes) (implementation : Value → Option MethodResult)
  | setter (ty : Ty) (implementation : Value → Option (Option Error))

namespace ServiceOperation

def input : ServiceOperation → Ty
  | .method types _ => types.input
  | .setter ty _ => ty

def handle : ServiceOperation → List Byte → Option RawServerResult
  | .method types implementation => methodHandler types implementation
  | .setter ty implementation => setHandler ty implementation

/-- The skeleton cannot decode the payload as the type of the request. -/
def Rejects (operation : ServiceOperation) (bytes : List Byte) : Prop :=
  ∃ left, decodeValue operation.input (initial operation.input) bytes = .error left

/-- The client receives an error. -/
def Fails (operation : ServiceOperation) (raw : RawResult) : Prop :=
  match operation with
  | .method types _ => ∃ error, decodeMethod types raw = .error error
  | .setter _ _ => decodeSet raw ≠ none

end ServiceOperation

/-- The decoder of a type accepts no bytes when every member of a struct is optional. -/
def Ty.acceptsEmpty : Ty → Bool
  | .integer _ size => size == 0
  | .array _ capacity => capacity == 0
  | .struct members => members.all fun member => !member.2.1
  | _ => false

/-- An empty response is an error for a method whose output is never empty. -/
def ServiceOperation.detectsEmpty : ServiceOperation → Bool
  | .method types _ => !types.output.acceptsEmpty
  | .setter _ _ => false

theorem decode_empty (ty : Ty) : (∃ value, decodeValue ty (initial ty) [] = .ok value) ↔ ty.acceptsEmpty = true := by
  cases ty with
  | integer signed size =>
      cases size with
      | zero => exact iff_of_true ⟨_, rfl⟩ rfl
      | succ size => exact iff_of_false (by rintro ⟨value, read⟩; cases read) Bool.false_ne_true
  | array element capacity =>
      cases capacity with
      | zero => exact iff_of_true ⟨_, rfl⟩ rfl
      | succ capacity => exact iff_of_false (by rintro ⟨value, read⟩; cases read) Bool.false_ne_true
  | struct members =>
      have required : ((readers members).all fun reader => !reader.required) = (Ty.struct members).acceptsEmpty := by
        rw [readers_eq_map, List.all_map]
        rfl
      rw [← required, ← @Tagged.readRecord_nil _ _ true framing (initial (.struct members)).member]
      unfold decodeValue decodeExactly decode
      cases Tagged.readRecord framing (readers members) true (initial (.struct members)).member [] with
      | error fields =>
          apply iff_of_false
          · rintro ⟨value, read⟩
            cases read
          · rintro ⟨later, read⟩
            cases read
      | ok fields => exact iff_of_true ⟨_, rfl⟩ ⟨_, rfl⟩
  | _ => exact iff_of_false (by rintro ⟨value, read⟩; cases read) Bool.false_ne_true

/-- A request that is not decoded has an empty result without an error. -/
theorem handle_rejected {operation : ServiceOperation} {bytes : List Byte} (rejected : operation.Rejects bytes) :
    operation.handle bytes = some {} := by
  obtain ⟨left, failed⟩ := rejected
  cases operation with
  | method types implementation =>
      have failed : decodeValue types.input (initial types.input) bytes = .error left := failed
      change methodHandler types implementation bytes = _
      rw [methodHandler, failed]
  | setter ty implementation =>
      have failed : decodeValue ty (initial ty) bytes = .error left := failed
      change setHandler ty implementation bytes = _
      rw [setHandler, failed]

theorem decodeMethod_empty (types : MethodTypes) :
    decodeMethod types (completed .ok []) = decodeOutput types.output [] := by
  simp [decodeMethod, completed]

/-- An empty response with the status of success is an error only where the proxy expects bytes. -/
theorem fails_empty (operation : ServiceOperation) :
    operation.Fails (completed .ok []) ↔ operation.detectsEmpty = true := by
  cases operation with
  | setter ty implementation => exact iff_of_false (fun failed => failed rfl) Bool.false_ne_true
  | method types implementation =>
      change (∃ error, decodeMethod types (completed .ok []) = .error error) ↔ (!types.output.acceptsEmpty) = true
      rw [decodeMethod_empty, decodeOutput, Bool.not_eq_true', ← Bool.not_eq_true, ← decode_empty]
      cases decodeValue types.output (initial types.output) [] with
      | error left =>
          apply iff_of_true ⟨_, rfl⟩
          rintro ⟨value, read⟩
          cases read
      | ok value =>
          apply iff_of_false
          · rintro ⟨error, failed⟩
            cases failed
          · exact fun refused => refused ⟨value, rfl⟩

/-- A client receives an error for a payload that the server cannot decode exactly when its operation is a
method whose output is never empty. -/
theorem rejected_payload_fails (operation : ServiceOperation) (bytes : List Byte)
    (rejected : operation.Rejects bytes) (request : Handle) (trace : List (Exchange Call.Reply))
    (traced : (onRequest request (operation.handle bytes)).Traces trace ()) :
    (∃ response, responses [] trace = [response] ∧
      operation.Fails (completed response.status response.payload)) ↔ operation.detectsEmpty = true := by
  rw [handle_rejected rejected] at traced
  have copied : (respondCopy request {}).Traces trace () := traced
  have sent : responses [] trace = [⟨request, .ok, []⟩] := (responses_plain [] rfl copied).2
  rw [sent, ← fails_empty]
  constructor
  · rintro ⟨response, same, failed⟩
    cases same
    exact failed
  · exact fun failed => ⟨_, rfl, failed⟩

/-- A request without its byte is an error for a method that returns a byte. -/
theorem rejected_payload_fails_byte : ∃ response, responses [] [⟨.respond 7 .ok [], .ok⟩] = [response] ∧
      (ServiceOperation.method ⟨.bool, .bool, []⟩ fun _ => none).Fails (completed response.status response.payload) :=
  (rejected_payload_fails (.method ⟨.bool, .bool, []⟩ fun _ => none) [] ⟨_, rfl⟩ 7 _
    (.call (.done ()))).mpr rfl

/-- A setter that cannot decode its value reports success, and so does a method whose output has no required
member. -/
theorem rejected_payload_succeeds :
    (∃ operation bytes trace, operation = ServiceOperation.setter .bool (fun _ => some none) ∧
      operation.Rejects bytes ∧ (onRequest 7 (operation.handle bytes)).Traces trace () ∧
      ∃ response, responses [] trace = [response] ∧ decodeSet (completed response.status response.payload) = none) ∧
    ∃ types operation bytes trace, operation = ServiceOperation.method types (fun _ => none) ∧
      operation.Rejects bytes ∧ (onRequest 7 (operation.handle bytes)).Traces trace () ∧
      ∃ response value, responses [] trace = [response] ∧
        decodeMethod types (completed response.status response.payload) = .value value := by
  constructor
  · exact ⟨_, [], [⟨.respond 7 .ok [], .ok⟩], rfl, ⟨_, rfl⟩, .call (.done ()), _, rfl, rfl⟩
  · obtain ⟨value, read⟩ := (decode_empty (.struct [])).mpr rfl
    refine ⟨⟨.bool, .struct [], []⟩, _, [], [⟨.respond 7 .ok [], .ok⟩], rfl, ⟨_, rfl⟩, .call (.done ()), _, value,
      rfl, ?_⟩
    rw [decodeMethod_empty, decodeOutput, read]

end OpenVehicle.Com
