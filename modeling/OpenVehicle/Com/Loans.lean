/-
This file accounts for the loans that the provider binding acquires, sends and releases.
-/

import Mathlib.Data.List.Perm.Basic
import OpenVehicle.Com.Binding

namespace OpenVehicle.Com

open Concurrency (Program Exchange)

abbrev Trace := List (Exchange Call.Reply)

/-- The loan that an exchange grants to the binding. -/
def granted : Exchange Call.Reply → Option Handle
  | ⟨.requestLoanAcquire _ _ _, reply⟩ | ⟨.responseLoanAcquire _ _ _, reply⟩ | ⟨.loanAcquire _ _, reply⟩ =>
      if reply.1 = .ok then some reply.2 else none
  | _ => none

/-- The loan that an exchange gives back. The provider keeps a loan whose send it rejects. -/
def returned : Exchange Call.Reply → Option Handle
  | ⟨.requestLoanSend _ loan _, reply⟩ => if reply.1 = .ok then some loan else none
  | ⟨.responseLoanSend _ loan _, status⟩ | ⟨.loanPublish _ loan _, status⟩ =>
      if status = .ok then some loan else none
  | ⟨.loanRelease loan, _⟩ => some loan
  | _ => none

/-- The provider rejects a request or a response in a loan. -/
def rejectedSend : Exchange Call.Reply → Bool
  | ⟨.requestLoanSend _ _ _, reply⟩ => reply.1 ≠ .ok
  | ⟨.responseLoanSend _ _ _, status⟩ => status ≠ .ok
  | _ => false

def acquired (trace : Trace) : List Handle := trace.filterMap granted

/-- The loans that are sent with success or released. -/
def settled (trace : Trace) : List Handle := trace.filterMap returned

def rejects (trace : Trace) : Bool := trace.any rejectedSend

/-- The operations of the binding that acquire loans. -/
inductive LoanOperation where
  | invokeLoaned (route : RouteBinding) (element : ElementDescriptor) (size : Nat) (encoding : Encoding)
      (deadline : Nat)
  | publishLoaned (element : ElementDescriptor) (size : Nat) (encoding : Encoding)
  | onRequest (request : Handle) (outcome : Option RawServerResult)

/-- An operation makes a trace when its program does, with any result. -/
def LoanOperation.Makes (trace : Trace) : LoanOperation → Prop
  | .invokeLoaned route element size encoding deadline =>
      ∃ submission, (Com.invokeLoaned route element size encoding deadline).Traces trace submission
  | .publishLoaned element size encoding => ∃ error, (Com.publishLoaned element size encoding).Traces trace error
  | .onRequest request outcome => (Com.onRequest request outcome).Traces trace ()

/-- Every loan of an operation is settled once, and the interleaved operations settle every loan as often as
they acquire it. -/
structure Conserves (runs : List (LoanOperation × Trace)) (log : Trace) : Prop where
  settled : ∀ run ∈ runs, settled run.2 = acquired run.2
  balanced : ∀ loan, (Com.settled log).count loan = (acquired log).count loan

section Accounts
variable {trace : Trace} {route : RouteBinding} {element : ElementDescriptor} {size deadline : Nat}
variable {encoding : Encoding} {request endpoint : Handle}

/-- The accounts of an operation balance unless a send is rejected. -/
def Accounts (trace : Trace) : Prop :=
  rejects trace = false ∧ settled trace = acquired trace ∨
    rejects trace = true ∧ settled trace = [] ∧ acquired trace ≠ []

theorem accounts_nil : Accounts [] := .inl ⟨rfl, rfl⟩

/-- An exchange without a loan does not change the accounts. -/
theorem Accounts.cons {exchange : Exchange Call.Reply} (accounts : Accounts trace)
    (first : granted exchange = none) (second : returned exchange = none)
    (third : rejectedSend exchange = false) : Accounts (exchange :: trace) := by
  unfold Accounts rejects settled acquired at *
  rw [List.filterMap_cons_none first, List.filterMap_cons_none second, List.any_cons, third, Bool.false_or]
  exact accounts

variable {first second : Exchange Call.Reply} {loan : Handle}

/-- A loan that is released after it was granted is settled. -/
theorem accounts_released (grant : granted first = some loan)
    (release : returned second = some loan) (only : returned first = none) (last : granted second = none)
    (accepted : rejectedSend first = false) (kept : rejectedSend second = false) : Accounts [first, second] := by
  left
  simp [rejects, settled, acquired, grant, release, only, last, accepted, kept]

/-- A loan that is granted and then sent is settled exactly when the send is accepted. -/
theorem accounts_sent {status : Status}
    (grant : granted first = some loan) (send : returned second = if status = .ok then some loan else none)
    (only : returned first = none) (last : granted second = none) (accepted : rejectedSend first = false)
    (rejection : rejectedSend second = decide (status ≠ .ok)) : Accounts [first, second] := by
  by_cases sent : status = .ok
  · left
    simp [rejects, settled, acquired, grant, send, only, last, accepted, rejection, sent]
  · right
    simp [rejects, settled, acquired, grant, send, only, last, accepted, rejection, sent]

variable {result : RawServerResult}

theorem accounts_respondCopy (traced : (respondCopy request result).Traces trace ()) : Accounts trace := by
  cases encodes : result.encodePayload with
  | none =>
      simp only [respondCopy, encodes, Call.perform, Program.perform_bind, Program.pure_eq, Program.traces_call,
        Program.traces_done] at traced
      obtain ⟨sent, _, rfl, rfl, -⟩ := traced
      exact .inl ⟨rfl, rfl⟩
  | some encoding =>
      simp only [respondCopy, encodes, Call.perform, Program.perform_bind, Program.pure_eq, Program.traces_call,
        Program.traces_done] at traced
      obtain ⟨allocated, _, rfl, sent, _, rfl, rfl, -⟩ := traced
      exact .inl ⟨rfl, rfl⟩

theorem accounts_respondLoaned (traced : (respondLoaned request result encoding).Traces trace ()) : Accounts trace := by
  simp only [respondLoaned, Call.perform, Program.perform_bind, Program.traces_call] at traced
  obtain ⟨⟨status, loan⟩, rest, rfl, traced⟩ := traced
  by_cases accepted : status = .ok
  · subst accepted
    rw [if_pos rfl] at traced
    cases encoded : encoding result.encodedPayloadSize with
    | none =>
        simp only [encoded, Program.pure_eq, Program.traces_call, Program.traces_done] at traced
        obtain ⟨released, _, rfl, rfl, -⟩ := traced
        exact accounts_released rfl rfl rfl rfl rfl rfl
    | some payload =>
        simp only [encoded, Program.pure_eq, Program.traces_call, Program.traces_done] at traced
        obtain ⟨sent, _, rfl, rfl, -⟩ := traced
        exact accounts_sent rfl rfl rfl rfl rfl rfl
  · rw [if_neg accepted] at traced
    exact (accounts_respondCopy traced).cons (if_neg accepted) rfl rfl

theorem accounts_onRequest {outcome : Option RawServerResult}
    (traced : (onRequest request outcome).Traces trace ()) : Accounts trace := by
  cases encodes : (handled outcome).encodePayload with
  | none =>
      simp only [onRequest, encodes] at traced
      exact accounts_respondCopy traced
  | some encoding =>
      simp only [onRequest, encodes, Call.perform, Program.perform_bind, Program.traces_call] at traced
      obtain ⟨supported, rest, rfl, traced⟩ := traced
      cases supported with
      | true => exact (accounts_respondLoaned traced).cons rfl rfl rfl
      | false => exact (accounts_respondCopy traced).cons rfl rfl rfl

variable {submission : Submission} {payload : List Codec.Byte}

theorem accounts_invoke
    (traced : (invoke route element payload deadline).Traces trace submission) : Accounts trace := by
  simp only [invoke, Call.perform, Program.perform_bind, Program.traces_call] at traced
  obtain ⟨⟨status, endpoint⟩, rest, rfl, traced⟩ := traced
  apply Accounts.cons _ rfl rfl rfl
  split at traced
  · simp only [Program.pure_eq, Program.traces_call, Program.traces_done] at traced
    obtain ⟨sent, _, rfl, rfl, -⟩ := traced
    exact accounts_nil.cons rfl rfl rfl
  · obtain ⟨rfl, -⟩ := Program.traces_done.mp traced
    exact accounts_nil

theorem accounts_requestLoaned
    (traced : (requestLoaned endpoint size encoding deadline).Traces trace submission) : Accounts trace := by
  simp only [requestLoaned, Call.perform, Program.perform_bind, Program.traces_call] at traced
  obtain ⟨⟨status, loan⟩, rest, rfl, traced⟩ := traced
  by_cases unsupported : status = .unsupported
  · subst unsupported
    rw [if_pos rfl] at traced
    apply Accounts.cons _ rfl rfl rfl
    cases encoded : encoding size with
    | none =>
        simp only [encoded, Program.pure_eq, Program.traces_done] at traced
        obtain ⟨rfl, -⟩ := traced
        exact accounts_nil
    | some payload =>
        simp only [encoded, Program.pure_eq, Program.traces_call, Program.traces_done] at traced
        obtain ⟨sent, _, rfl, rfl, -⟩ := traced
        exact accounts_nil.cons rfl rfl rfl
  · rw [if_neg unsupported] at traced
    by_cases accepted : status = .ok
    · subst accepted
      rw [if_pos rfl] at traced
      cases encoded : encoding size with
      | none =>
          simp only [encoded, Program.pure_eq, Program.traces_call, Program.traces_done] at traced
          obtain ⟨released, _, rfl, rfl, -⟩ := traced
          exact accounts_released rfl rfl rfl rfl rfl rfl
      | some payload =>
          simp only [encoded, Program.pure_eq, Program.traces_call, Program.traces_done] at traced
          obtain ⟨⟨answer, operation⟩, _, rfl, rfl, -⟩ := traced
          exact accounts_sent rfl rfl rfl rfl rfl rfl
    · rw [if_neg accepted] at traced
      obtain ⟨rfl, -⟩ := Program.traces_done.mp traced
      exact accounts_nil.cons (if_neg accepted) rfl rfl

theorem accounts_invokeLoaned
    (traced : (invokeLoaned route element size encoding deadline).Traces trace submission) : Accounts trace := by
  simp only [invokeLoaned, Call.perform, Program.perform_bind, Program.traces_call] at traced
  obtain ⟨supported, rest, rfl, traced⟩ := traced
  apply Accounts.cons _ rfl rfl rfl
  cases supported with
  | true =>
      simp only [if_true, Program.traces_call] at traced
      obtain ⟨⟨status, endpoint⟩, tail, rfl, traced⟩ := traced
      apply Accounts.cons _ rfl rfl rfl
      split at traced
      · exact accounts_requestLoaned traced
      · obtain ⟨rfl, -⟩ := Program.traces_done.mp traced
        exact accounts_nil
  | false =>
      simp only [Bool.false_eq_true, if_false] at traced
      split at traced
      · obtain ⟨rfl, -⟩ := Program.traces_done.mp traced
        exact accounts_nil
      · exact accounts_invoke traced

variable {error : Option Error}

theorem accounts_publish (traced : (publish element payload).Traces trace error) : Accounts trace := by
  simp only [publish, Call.perform, Program.perform_bind, Program.traces_call] at traced
  obtain ⟨found, rest, rfl, traced⟩ := traced
  apply Accounts.cons _ rfl rfl rfl
  cases found with
  | none =>
      obtain ⟨rfl, -⟩ := Program.traces_done.mp traced
      exact accounts_nil
  | some endpoint =>
      simp only [Program.pure_eq, Program.traces_call, Program.traces_done] at traced
      obtain ⟨sent, _, rfl, rfl, -⟩ := traced
      exact accounts_nil.cons rfl rfl rfl

/-- A publication that the provider rejects is released. -/
theorem accounts_publishLoaned
    (traced : (publishLoaned element size encoding).Traces trace error) : Accounts trace := by
  simp only [publishLoaned, Call.perform, Program.perform_bind, Program.traces_call] at traced
  obtain ⟨found, rest, rfl, traced⟩ := traced
  apply Accounts.cons _ rfl rfl rfl
  cases found with
  | none =>
      obtain ⟨rfl, -⟩ := Program.traces_done.mp traced
      exact accounts_nil
  | some endpoint =>
      simp only [Program.traces_call] at traced
      obtain ⟨⟨status, loan⟩, tail, rfl, traced⟩ := traced
      by_cases unsupported : status = .unsupported
      · subst unsupported
        rw [if_pos rfl] at traced
        apply Accounts.cons _ rfl rfl rfl
        split at traced
        · obtain ⟨rfl, -⟩ := Program.traces_done.mp traced
          exact accounts_nil
        · exact accounts_publish traced
      · rw [if_neg unsupported] at traced
        by_cases accepted : status = .ok
        · subst accepted
          rw [if_pos rfl] at traced
          cases encoded : encoding size with
          | none =>
              simp only [encoded, Program.pure_eq, Program.traces_call, Program.traces_done] at traced
              obtain ⟨released, _, rfl, rfl, -⟩ := traced
              exact accounts_released rfl rfl rfl rfl rfl rfl
          | some payload =>
              simp only [encoded, Program.traces_call] at traced
              obtain ⟨answer, _, rfl, traced⟩ := traced
              by_cases sent : answer = .ok
              · subst sent
                rw [if_pos rfl] at traced
                obtain ⟨rfl, -⟩ := Program.traces_done.mp traced
                exact accounts_released rfl rfl rfl rfl rfl rfl
              · rw [if_neg sent] at traced
                simp only [Program.pure_eq, Program.traces_call, Program.traces_done] at traced
                obtain ⟨released, _, rfl, rfl, -⟩ := traced
                have refused : returned ⟨.loanPublish endpoint loan payload, answer⟩ = none := if_neg sent
                refine .inl ⟨rfl, ?_⟩
                simp only [settled, List.filterMap_cons, refused]
                rfl
        · rw [if_neg accepted] at traced
          obtain ⟨rfl, -⟩ := Program.traces_done.mp traced
          exact accounts_nil.cons (if_neg accepted) rfl rfl

theorem LoanOperation.Makes.accounts {operation : LoanOperation} (makes : operation.Makes trace) : Accounts trace := by
  cases operation with
  | invokeLoaned route element size encoding deadline =>
      obtain ⟨submission, traced⟩ := makes
      exact accounts_invokeLoaned traced
  | publishLoaned element size encoding =>
      obtain ⟨error, traced⟩ := makes
      exact accounts_publishLoaned traced
  | onRequest request outcome => exact accounts_onRequest makes

/-- The accounts of a single operation balance exactly when its send is not rejected. -/
theorem Accounts.settled_eq_iff (accounts : Accounts trace) :
    settled trace = acquired trace ↔ rejects trace = false := by
  rcases accounts with ⟨kept, balanced⟩ | ⟨rejected, nothing, something⟩
  · exact iff_of_true balanced kept
  · apply iff_of_false
    · rw [nothing]
      exact something.symm
    · rw [rejected]
      exact Bool.true_eq_false_eq_False

end Accounts

/-- The operations of the binding conserve their loans exactly when the provider rejects no request and no
response in a loan. -/
theorem loans_conserved (runs : List (LoanOperation × Trace)) (log : Trace)
    (made : ∀ run ∈ runs, run.1.Makes run.2) (interleaved : log.Perm (runs.flatMap Prod.snd)) :
    Conserves runs log ↔ rejects log = false := by
  have accounts : ∀ run ∈ runs, Accounts run.2 := fun run listed => (made run listed).accounts
  have quiet : rejects log = false ↔ ∀ run ∈ runs, rejects run.2 = false := by
    simp only [rejects, List.any_eq_false]
    constructor
    · intro quiet run listed exchange member
      exact quiet exchange (interleaved.mem_iff.mpr (List.mem_flatMap.mpr ⟨run, listed, member⟩))
    · intro quiet exchange member
      obtain ⟨run, listed, member⟩ := List.mem_flatMap.mp (interleaved.mem_iff.mp member)
      exact quiet run listed exchange member
  rw [quiet]
  constructor
  · intro conserves run listed
    exact (accounts run listed).settled_eq_iff.mp (conserves.settled run listed)
  · intro quiet
    have each : ∀ run ∈ runs, settled run.2 = acquired run.2 := fun run listed =>
      (accounts run listed).settled_eq_iff.mpr (quiet run listed)
    refine ⟨each, fun loan => ?_⟩
    have same : settled (runs.flatMap Prod.snd) = acquired (runs.flatMap Prod.snd) := by
      unfold settled acquired
      rw [List.filterMap_flatMap, List.filterMap_flatMap]
      exact List.flatMap_congr each
    have first : (settled log).Perm (settled (runs.flatMap Prod.snd)) := interleaved.filterMap returned
    have second : (acquired log).Perm (acquired (runs.flatMap Prod.snd)) := interleaved.filterMap granted
    rw [first.count_eq, second.count_eq, same]

def plainRoute : RouteBinding where
  serviceId := .replicate 16 1
  instanceId := .replicate 16 2
  routeEpoch := 1
  provider := "inproc"
  nativeService := ""

def plainElement : ElementDescriptor := ⟨.replicate 16 3, 1, "Set", .method⟩

/-- This encoder writes zeros. -/
def zeroing : Encoding := fun size => some (List.replicate size 0)

/-- A rejected publication is released, and a response is sent in a loan between its calls. -/
theorem loans_conserved_interleaved :
    let publication : Trace := [⟨.findEvent plainElement.id, some 4⟩, ⟨.loanAcquire 4 1, (.ok, 8)⟩,
      ⟨.loanPublish 4 8 [0], .resourceExhausted⟩, ⟨.loanRelease 8, .ok⟩]
    let response : Trace := [⟨.hasResponseLoans, true⟩, ⟨.responseLoanAcquire 7 1 .ok, (.ok, 9)⟩,
      ⟨.responseLoanSend 7 9 [0], .ok⟩]
    Conserves [(.publishLoaned plainElement 1 zeroing, publication),
      (.onRequest 7 (some { encodedPayloadSize := 1, encodePayload := some zeroing }), response)]
      (publication.take 2 ++ response ++ publication.drop 2) := by
  intro publication response
  refine (loans_conserved _ _ ?_ ?_).mpr (by decide)
  · intro run listed
    rcases List.mem_pair.mp listed with rfl | rfl
    · exact ⟨_, .call (.call (.call (.call (.done _))))⟩
    · exact .call (.call (.call (.done ())))
  · change (publication.take 2 ++ (response ++ publication.drop 2)).Perm
      (publication.take 2 ++ (publication.drop 2 ++ response))
    exact List.perm_append_comm.append_left _

/-- A request whose send is rejected is neither sent nor released. -/
theorem rejected_request_leaks : ∃ operation trace, operation.Makes trace ∧ acquired trace = [8] ∧
    settled trace = [] ∧ ¬Conserves [(operation, trace)] trace := by
  refine ⟨.invokeLoaned plainRoute plainElement 1 zeroing 0, [⟨.hasRequestLoans, true⟩,
    ⟨.endpointCreate (descriptor plainRoute plainElement .methodClient), (.ok, 4)⟩,
    ⟨.requestLoanAcquire 4 1 0, (.ok, 8)⟩, ⟨.requestLoanSend 4 8 [0], (.resourceExhausted, 0)⟩], ?_, rfl, rfl, ?_⟩
  · exact ⟨_, .call (.call (.call (.call (.done _))))⟩
  · intro conserves
    have settled := conserves.settled _ (List.mem_singleton.mpr rfl)
    cases settled

end OpenVehicle.Com
