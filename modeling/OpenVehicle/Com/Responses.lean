/-
This file compares the responses that the two paths of the request handler send.
-/

import OpenVehicle.Com.Binding

namespace OpenVehicle.Com

open Codec (Byte)
open Concurrency (Program Exchange)

structure Response where
  request : Handle
  status : Status
  payload : List Byte
  deriving DecidableEq, Repr

/-- The responses that a trace hands to the provider. A loan carries the status it was acquired with. -/
def responses : List (Handle × Status) → List (Exchange Call.Reply) → List Response
  | _, [] => []
  | loans, ⟨.respond request status payload, _⟩ :: rest => ⟨request, status, payload⟩ :: responses loans rest
  | loans, ⟨.responseLoanAcquire _ _ status, reply⟩ :: rest =>
      responses (if reply.1 = .ok then (reply.2, status) :: loans else loans) rest
  | loans, ⟨.responseLoanSend request loan payload, _⟩ :: rest =>
      ((loans.lookup loan).map fun status => ⟨request, status, payload⟩).toList ++ responses loans rest
  | loans, _ :: rest => responses loans rest

/-- The provider grants a loan for the response. -/
def grants (trace : List (Exchange Call.Reply)) : Bool :=
  trace.any fun
    | ⟨.responseLoanAcquire _ _ _, reply⟩ => reply.1 = .ok
    | _ => false

/-- The buffer of the copy path cannot be allocated. -/
def refusesMemory (trace : List (Exchange Call.Reply)) : Bool :=
  trace.any fun
    | ⟨.allocate _, allocated⟩ => !allocated
    | _ => false

/-- The trace sends one response, and a response in a loan is the one that the copy path sends. -/
def AnswersAlike (request : Handle) (outcome : Option RawServerResult) (trace : List (Exchange Call.Reply)) : Prop :=
  ∃ response, responses [] trace = [response] ∧
    (grants trace = true → ∀ copy, (onRequest request outcome).Traces copy () → grants copy = false →
      refusesMemory copy = false → responses [] copy = [response])

/-- The encoder of a result succeeds, and it writes what a refused status sends anyway. -/
def RawServerResult.LoanSafe (result : RawServerResult) : Prop :=
  ∀ encoding ∈ result.encodePayload, ∃ payload, encoding result.encodedPayloadSize = some payload ∧
    (result.status = .resourceExhausted → payload = resize result.encodedPayloadSize result.payload)

section Paths
variable {request : Handle} {result : RawServerResult} {encoding : Encoding}
variable {trace : List (Exchange Call.Reply)} {outcome : Option RawServerResult}

@[simp] theorem grants_acquire {size : Nat} {status : Status} {reply : Status × Handle} :
    grants (⟨.responseLoanAcquire request size status, reply⟩ :: trace) =
      (decide (reply.1 = .ok) || grants trace) := rfl

@[simp] theorem grants_supported {loans : Bool} : grants (⟨.hasResponseLoans, loans⟩ :: trace) = grants trace := rfl

/-- The copy path sends one response. -/
theorem responses_copy (loans : List (Handle × Status)) (encodes : result.encodePayload = some encoding)
    (traced : (respondCopy request result).Traces trace ()) :
    grants trace = false ∧ responses loans trace = [⟨request, (result.copied encoding !refusesMemory trace).1,
        (result.copied encoding !refusesMemory trace).2⟩] := by
  simp only [respondCopy, encodes, Call.perform, Program.perform_bind, Program.pure_eq, Program.traces_call,
    Program.traces_done] at traced
  obtain ⟨allocated, _, rfl, sent, _, rfl, rfl, -⟩ := traced
  cases allocated <;> exact ⟨rfl, rfl⟩

/-- A payload without an encoder is sent as it is. -/
theorem responses_plain (loans : List (Handle × Status)) (plain : result.encodePayload = none)
    (traced : (respondCopy request result).Traces trace ()) :
    grants trace = false ∧ responses loans trace = [⟨request, result.status, result.payload⟩] := by
  simp only [respondCopy, plain, Call.perform, Program.perform_bind, Program.pure_eq, Program.traces_call,
    Program.traces_done] at traced
  obtain ⟨sent, _, rfl, rfl, -⟩ := traced
  exact ⟨rfl, rfl⟩

/-- A refused loan leaves the response to the copy path. -/
theorem traces_refused (traced : (respondLoaned request result encoding).Traces trace ())
    (refused : grants trace = false) : ∃ reply rest,
      trace = ⟨.responseLoanAcquire request result.encodedPayloadSize result.status, reply⟩ :: rest ∧
      reply.1 ≠ .ok ∧ (respondCopy request result).Traces rest () := by
  simp only [respondLoaned, Call.perform, Program.perform_bind, Program.traces_call] at traced
  obtain ⟨reply, rest, rfl, traced⟩ := traced
  rw [grants_acquire, Bool.or_eq_false_iff, decide_eq_false_iff_not] at refused
  have denied : reply.1 ≠ .ok := refused.1
  rw [if_neg denied] at traced
  exact ⟨reply, rest, rfl, denied, traced⟩

/-- A granted loan carries the encoded payload, and no response is sent when the encoder fails. -/
theorem responses_loan (loans : List (Handle × Status)) (encodes : result.encodePayload = some encoding)
    (traced : (respondLoaned request result encoding).Traces trace ()) (granted : grants trace = true) :
    responses loans trace = ((encoding result.encodedPayloadSize).map fun payload =>
      (⟨request, result.status, payload⟩ : Response)).toList := by
  simp only [respondLoaned, Call.perform, Program.perform_bind, Program.traces_call] at traced
  obtain ⟨⟨status, loan⟩, rest, rfl, traced⟩ := traced
  by_cases accepted : status = .ok
  · subst accepted
    cases encoded : encoding result.encodedPayloadSize with
    | none =>
        simp only [if_true, encoded, Program.pure_eq, Program.traces_call, Program.traces_done] at traced
        obtain ⟨released, _, rfl, rfl, -⟩ := traced
        rfl
    | some payload =>
        simp only [if_true, encoded, Program.pure_eq, Program.traces_call, Program.traces_done] at traced
        obtain ⟨sent, _, rfl, rfl, -⟩ := traced
        simp [responses]
  · rw [if_neg accepted] at traced
    have copied := (responses_copy [] encodes traced).1
    rw [grants_acquire, copied, decide_eq_false accepted] at granted
    cases granted

section
variable (encodes : (handled outcome).encodePayload = some encoding)
include encodes

/-- A handler with an encoder asks first whether the provider supports loans. -/
theorem traces_onRequest :
    (onRequest request outcome).Traces trace () ↔ ∃ loans rest, trace = ⟨.hasResponseLoans, loans⟩ :: rest ∧
      (if loans then respondLoaned request (handled outcome) encoding
        else respondCopy request (handled outcome)).Traces rest () := by
  simp only [onRequest, encodes, Call.perform, Program.perform_bind, Program.traces_call]

/-- Without a granted loan the handler sends the copied response. -/
theorem responses_onRequest (traced : (onRequest request outcome).Traces trace ()) (refused : grants trace = false) :
    responses [] trace = [⟨request, ((handled outcome).copied encoding !refusesMemory trace).1,
      ((handled outcome).copied encoding !refusesMemory trace).2⟩] := by
  obtain ⟨supported, rest, rfl, continued⟩ := (traces_onRequest encodes).mp traced
  cases supported with
  | false => exact (responses_copy [] encodes continued).2
  | true =>
      obtain ⟨reply, tail, rfl, denied, copied⟩ := traces_refused continued refused
      have sent := (responses_copy [] encodes copied).2
      simp only [responses, if_neg denied]
      exact sent

/-- A granted loan carries the response of the handler. -/
theorem responses_granted (traced : (onRequest request outcome).Traces trace ()) (granted : grants trace = true) :
    responses [] trace = ((encoding (handled outcome).encodedPayloadSize).map fun payload =>
      (⟨request, (handled outcome).status, payload⟩ : Response)).toList := by
  obtain ⟨supported, rest, rfl, continued⟩ := (traces_onRequest encodes).mp traced
  cases supported with
  | false =>
      rw [grants_supported, (responses_copy [] encodes continued).1] at granted
      cases granted
  | true =>
      rw [grants_supported] at granted
      have sent := responses_loan [] encodes continued granted
      exact sent

end

/-- The copied response of a safe result has the status and the bytes of the loaned one. -/
theorem copied_eq_iff {payload : List Byte} (encoded : encoding result.encodedPayloadSize = some payload) :
    result.copied encoding true = (result.status, payload) ↔
      (result.status = .resourceExhausted → payload = resize result.encodedPayloadSize result.payload) := by
  simp only [RawServerResult.copied, encoded]
  by_cases exhausted : result.status = .resourceExhausted
  · simp [exhausted, eq_comm]
  · simp [exhausted]

/-- The exchanges of a handler whose provider has no loans. -/
def copyTrace (request : Handle) (outcome : Option RawServerResult) (encoding : Encoding) :
    List (Exchange Call.Reply) :=
  let copied := (handled outcome).copied encoding true
  [⟨.hasResponseLoans, false⟩, ⟨.allocate (handled outcome).encodedPayloadSize, true⟩,
    ⟨.respond request copied.1 copied.2, .ok⟩]

theorem traces_copyTrace (encodes : (handled outcome).encodePayload = some encoding) :
    (onRequest request outcome).Traces (copyTrace request outcome encoding) () := by
  rw [traces_onRequest encodes]
  refine ⟨false, _, rfl, ?_⟩
  simp only [Bool.false_eq_true, if_false, respondCopy, encodes, Call.perform, Program.perform_bind]
  exact .call (.call (.done ()))

end Paths

/-- The request handler sends one response, the same on both paths, exactly when a granted loan meets a result
that is safe in a loan. -/
theorem one_response (request : Handle) (outcome : Option RawServerResult) (trace : List (Exchange Call.Reply))
    (traced : (onRequest request outcome).Traces trace ()) :
    AnswersAlike request outcome trace ↔ (grants trace = true → (handled outcome).LoanSafe) := by
  cases encodes : (handled outcome).encodePayload with
  | none =>
      have plain : onRequest request outcome = respondCopy request (handled outcome) := by
        simp only [onRequest, encodes]
      rw [plain] at traced
      obtain ⟨refused, sent⟩ := responses_plain [] encodes traced
      constructor
      · intro _ granted
        rw [refused] at granted
        cases granted
      · intro _
        refine ⟨_, sent, fun granted => ?_⟩
        rw [refused] at granted
        cases granted
  | some encoding =>
      cases granted : grants trace with
      | false =>
          have sent := responses_onRequest encodes traced granted
          constructor
          · intro _ contradiction
            cases contradiction
          · intro _
            refine ⟨_, sent, fun contradiction => ?_⟩
            rw [granted] at contradiction
            cases contradiction
      | true =>
          have sent := responses_granted encodes traced granted
          constructor
          · rintro ⟨response, answered, alike⟩ _ other listed
            obtain rfl : encoding = other := by rw [encodes] at listed; exact Option.some.inj listed
            have copied := alike granted (copyTrace request outcome encoding) (traces_copyTrace encodes) rfl rfl
            rw [responses_onRequest encodes (traces_copyTrace encodes) rfl] at copied
            rw [answered] at sent
            cases encoded : encoding (handled outcome).encodedPayloadSize with
            | none =>
                rw [encoded] at sent
                cases sent
            | some payload =>
                rw [encoded] at sent
                cases sent
                refine ⟨payload, rfl, (copied_eq_iff encoded).mp ?_⟩
                injection copied with same
                injection same with _ status bytes
                exact Prod.ext status bytes
          · intro safe
            obtain ⟨payload, encoded, refusal⟩ := safe rfl encoding (by rw [encodes]; rfl)
            rw [encoded] at sent
            refine ⟨_, sent, fun _ copy other refused memory => ?_⟩
            rw [responses_onRequest encodes other refused, memory, Bool.not_false, (copied_eq_iff encoded).mpr refusal]

/-- This encoder fills its destination with one byte. -/
def filling (byte : Byte) : Encoding := fun size => some (List.replicate size byte)

def refusing : Encoding := fun _ => none

/-- The exchanges of a handler whose result is written into loan nine. -/
def loanTrace : List (Exchange Call.Reply) :=
  [⟨.hasResponseLoans, true⟩, ⟨.responseLoanAcquire 7 2 .ok, (.ok, 9)⟩, ⟨.responseLoanSend 7 9 [5, 5], .ok⟩]

/-- A response with a payload is sent in a loan. -/
theorem one_response_loan : AnswersAlike 7 (some { encodedPayloadSize := 2, encodePayload := some (filling 5) })
    loanTrace := by
  apply (one_response _ _ _ _).mpr
  · intro _ encoding listed
    obtain rfl := Option.some.inj listed
    exact ⟨_, rfl, fun refused => by cases refused⟩
  · exact .call (.call (.call (.done ())))

/-- No response is sent when the encoder fails after the loan was granted. -/
theorem encoder_failure_unanswered : ∃ outcome trace, (onRequest 7 outcome).Traces trace () ∧
    responses [] trace = [] ∧ ¬AnswersAlike 7 outcome trace := by
  refine ⟨some { encodedPayloadSize := 2, encodePayload := some refusing },
    [⟨.hasResponseLoans, true⟩, ⟨.responseLoanAcquire 7 2 .ok, (.ok, 9)⟩, ⟨.loanRelease 9, .ok⟩], ?_, rfl, ?_⟩
  · exact .call (.call (.call (.done ())))
  · rintro ⟨response, sent, -⟩
    cases sent

end OpenVehicle.Com
