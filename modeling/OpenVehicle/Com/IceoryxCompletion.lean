/-
This file proves how often the shared-memory transport completes its operations. The calls, the receive loop and a
stop take their locked sections in any order.
-/

import OpenVehicle.Com.Iceoryx
import OpenVehicle.Concurrency.System

namespace OpenVehicle.Com.Iceoryx

open Data (HandleTable)

/-- The callback of a call gets the handle of its operation and a status. -/
structure Completion where
  call : Nat
  handle : Handle
  status : Status
  deriving DecidableEq, Repr

/-- A request between its two locks. -/
structure Requesting where
  endpoint : Handle
  call : Nat
  size : Nat
  deadline : Nat
  mapping : Mapping
  deriving DecidableEq, Repr

/-- The loop waits for events and then visits the operations that it has listed before. -/
inductive Receiver where
  | polling
  | waiting (operations : List Handle)
  | receiving (operations : List Handle)
  | completing (completion : Completion) (operations : List Handle)
  | ended
  deriving DecidableEq, Repr

/-- The stop that has taken the flag joins the receive loop, and it completes the operations that it has taken. -/
inductive Stopper where
  | idle
  | joining
  | completing (completions : List Completion)
  | stopped
  deriving DecidableEq, Repr

/-- The calls that may have a callback are numbered. A call that has taken its loan is sending it. -/
structure World where
  self : Transport
  calls : Nat := 0
  requesting : List Requesting := []
  sending : List Pending := []
  cancelling : List Completion := []
  receiver : Receiver := .polling
  stopper : Stopper := .idle
  tasks : List Completion := []
  invoked : List Completion := []
  accepted : List Nat := []
  rejected : List Nat := []
  deriving DecidableEq

inductive Action where
  | endpointCreate (endpoint : Endpoint)
  | endpointDestroy (handle : Handle)
  | loanRelease (handle : Handle)
  | requestLoanAcquire (endpoint : Handle) (size deadline now : Nat) (loaned : Bool)
  | requestLoanSend (endpoint loan : Handle) (used : Nat)
  | enter (index : Nat) (sent : Bool)
  | request (endpoint : Handle) (size deadline : Nat)
  | send (index now : Nat) (loaned sent : Bool)
  | cancel (operation : Handle)
  | completeCancelled (index : Nat) (dispatched : Bool)
  | list
  | wake
  | fail
  | receive (received : Transport.Received) (now : Nat)
  | completeReceived (dispatched : Bool)
  | stop
  | join
  | completeStopped (dispatched : Bool)
  | run (index : Nat)
  deriving DecidableEq

namespace World

/-- A completion that has no task is invoked by the thread that holds it. -/
def complete (completion : Completion) (dispatched : Bool) (world : World) : World :=
  if dispatched then { world with tasks := world.tasks ++ [completion] }
  else { world with invoked := world.invoked ++ [{ completion with status := .resourceExhausted }] }

def reject (call : Nat) (world : World) : World := { world with rejected := world.rejected ++ [call] }

def accept (call : Nat) (world : World) : World := { world with accepted := world.accepted ++ [call] }

def begin (world : World) : World := { world with calls := world.calls + 1 }

def perform : Action → World → Option World
  | .endpointCreate endpoint, world => some { world with self := (world.self.endpointCreate endpoint).2 }
  | .endpointDestroy handle, world => some { world with self := (world.self.endpointDestroy handle).2 }
  | .loanRelease handle, world => some { world with self := (world.self.loanRelease handle).2 }
  | .requestLoanAcquire endpoint size deadline now loaned, world =>
      some { world with self := (world.self.requestLoanAcquire endpoint size deadline now loaned).2 }
  | .requestLoanSend endpoint loan used, world =>
      match world.self.requestLoanTake endpoint loan used with
      | (.error _, _) => some (world.begin.reject world.calls)
      | (.ok found, self) => some { world.begin with
          self, sending := world.sending ++ [⟨endpoint, world.calls, found.deadline⟩] }
  | .enter index sent, world => world.sending[index]?.map fun operation =>
      let remaining := { world with sending := world.sending.eraseIdx index }
      if !sent then remaining.reject operation.call
      else { remaining.accept operation.call with self := (world.self.requestLoanEnter operation).2 }
  | .request endpoint size deadline, world =>
      match world.self.requestFind endpoint with
      | .error _ => some (world.begin.reject world.calls)
      | .ok found => some { world.begin with
          requesting := world.requesting ++ [⟨endpoint, world.calls, size, deadline, found.mapping⟩] }
  | .send index now loaned sent, world => world.requesting[index]?.map fun request =>
      let remaining := { world with requesting := world.requesting.eraseIdx index }
      if request.size > request.mapping.requestPayloadSize ∨ request.deadline ≠ 0 ∧ now ≥ request.deadline then
        remaining.reject request.call
      else
        match world.self.requestSend ⟨request.endpoint, request.call, request.deadline⟩ loaned sent with
        | (.error _, _) => remaining.reject request.call
        | (.ok _, self) => { remaining.accept request.call with self }
  | .cancel operation, world =>
      match world.self.cancel operation with
      | (none, _) => some world
      | (some found, self) => some { world with
          self, cancelling := world.cancelling ++ [⟨found.call, operation, .cancelled⟩] }
  | .completeCancelled index dispatched, world => world.cancelling[index]?.map fun completion =>
      { world with cancelling := world.cancelling.eraseIdx index }.complete completion dispatched
  | .list, world =>
      match world.receiver with
      | .polling =>
          if world.self.running then some { world with receiver := .waiting (world.self.pending.map Prod.fst) }
          else some { world with receiver := .ended }
      | _ => none
  | .wake, world =>
      match world.receiver with
      | .waiting operations =>
          if world.self.running then some { world with receiver := .receiving operations }
          else some { world with receiver := .ended }
      | _ => none
  | .fail, world =>
      match world.receiver with
      | .polling | .waiting _ => some { world with
          receiver := .ended, self := { world.self with running := false } }
      | _ => none
  | .receive received now, world =>
      match world.receiver with
      | .receiving [] => some { world with receiver := .polling }
      | .receiving (operation :: operations) =>
          match world.self.receive operation received now with
          | (none, _) => some { world with receiver := .receiving operations }
          | (some (found, status), self) => some { world with
              self, receiver := .completing ⟨found.call, operation, status⟩ operations }
      | _ => none
  | .completeReceived dispatched, world =>
      match world.receiver with
      | .completing completion operations =>
          some ({ world with receiver := .receiving operations }.complete completion dispatched)
      | _ => none
  | .stop, world =>
      if world.self.started then some { world with
        stopper := .joining, self := { world.self with started := false, running := false } }
      else some world
  | .join, world =>
      if world.stopper = .joining ∧ world.receiver = .ended then
        let drained := world.self.drain
        some { world with
          self := drained.2.2
          stopper := .completing (drained.1.map fun entry => ⟨entry.2.call, entry.1, .shuttingDown⟩) }
      else none
  | .completeStopped dispatched, world =>
      match world.stopper with
      | .completing [] => some { world with stopper := .stopped }
      | .completing (completion :: completions) =>
          some ({ world with stopper := .completing completions }.complete completion dispatched)
      | _ => none
  | .run index, world => world.tasks[index]?.map fun completion =>
      { world with tasks := world.tasks.eraseIdx index, invoked := world.invoked ++ [completion] }

end World

def transport : Concurrency.System World Action := ⟨World.perform⟩

/-- No sent loan is entered after the stop has taken the pending operations. -/
def Orderly (world : World) : Action → Prop
  | .enter _ sent => sent = true → world.self.node = true
  | _ => True

def Receiver.held : Receiver → List Completion
  | .completing completion _ => [completion]
  | _ => []

def Stopper.held : Stopper → List Completion
  | .completing completions => completions
  | _ => []

/-- The stop has taken the operations. -/
def Stopper.drained : Stopper → Bool
  | .completing _ | .stopped => true
  | _ => false

namespace World

/-- The completions that a thread holds. -/
def held (world : World) : List Completion := world.cancelling ++ (world.receiver.held ++ world.stopper.held)

/-- The calls whose operation is pending or completed. -/
def record (world : World) : List Nat :=
  world.self.pending.map (·.2.call) ++ (world.held ++ (world.tasks ++ world.invoked)).map Completion.call

/-- The calls that are in progress, and those that have returned. -/
def begun (world : World) : List Nat :=
  world.requesting.map Requesting.call ++ (world.sending.map Pending.call ++ (world.accepted ++ world.rejected))

end World

/-- Each accepted call has one place, and each call has one outcome. -/
structure Accounted (world : World) : Prop where
  record : world.record.Perm world.accepted
  begun : world.begun.Perm (List.range world.calls)
  ordered : world.self.pending.Ordered world.self.nextHandle

/-- A stop takes the operations when the receive loop has ended. -/
structure Phased (world : World) : Prop where
  idle : world.self.started = true → world.stopper = .idle
  node : world.self.node = !world.stopper.drained
  quiet : world.self.started = false → world.self.running = false
  ended : world.stopper.drained = true → world.receiver = .ended

variable {self : Transport}

namespace Transport

/-- An operation that changes no pending operation. -/
structure Kept (before later : Transport) : Prop where
  pending : later.pending = before.pending
  nextHandle : before.nextHandle ≤ later.nextHandle
  started : later.started = before.started
  running : later.running = before.running
  node : later.node = before.node

theorem kept_refl : Kept self self := ⟨rfl, Nat.le_refl _, rfl, rfl, rfl⟩

theorem kept_endpointCreate (endpoint : Endpoint) : Kept self (self.endpointCreate endpoint).2 := by
  unfold endpointCreate
  split
  · exact kept_refl
  · exact ⟨rfl, Nat.le_succ _, rfl, rfl, rfl⟩

theorem kept_endpointDestroy (handle : Handle) : Kept self (self.endpointDestroy handle).2 := by
  unfold endpointDestroy
  split
  · exact kept_refl
  · split
    · exact kept_refl
    · exact ⟨rfl, Nat.le_refl _, rfl, rfl, rfl⟩

theorem kept_loanRelease (handle : Handle) : Kept self (self.loanRelease handle).2 := by
  unfold loanRelease
  repeat' first | exact kept_refl | exact ⟨rfl, Nat.le_refl _, rfl, rfl, rfl⟩ | split

theorem kept_requestLoanAcquire (endpoint : Handle) (size deadline now : Nat) (loaned : Bool) :
    Kept self (self.requestLoanAcquire endpoint size deadline now loaned).2 := by
  unfold requestLoanAcquire
  repeat' first | exact kept_refl | exact ⟨rfl, Nat.le_succ _, rfl, rfl, rfl⟩ | split

theorem requestLoanTake_cases (endpoint loan : Handle) (used : Nat) :
    (∃ status, self.requestLoanTake endpoint loan used = (.error status, self)) ∨
      ∃ found later, self.requestLoanTake endpoint loan used = (.ok found, later) ∧ Kept self later ∧
        self.requestLoans.lookup loan = some found ∧ found.endpoint = endpoint ∧
        later = { self with requestLoans := HandleTable.remove loan self.requestLoans } := by
  unfold requestLoanTake
  split
  · exact .inl ⟨_, rfl⟩
  · rename_i found known
    split
    · exact .inl ⟨_, rfl⟩
    · rename_i fits
      split
      · exact .inl ⟨_, rfl⟩
      · split
        · exact .inl ⟨_, rfl⟩
        · exact .inr ⟨_, _, rfl, ⟨rfl, Nat.le_refl _, rfl, rfl, rfl⟩, known, not_not.mp (not_or.mp fits).1, rfl⟩

/-- The second lock of a request enters its operation while the transport runs. -/
theorem requestSend_cases (operation : Pending) (loaned sent : Bool) :
    (∃ status, self.requestSend operation loaned sent = (.error status, self)) ∨
      (self.running = true ∧ self.requestSend operation loaned sent =
        (.ok self.nextHandle, (self.requestLoanEnter operation).2)) := by
  unfold requestSend
  split
  · exact .inl ⟨_, rfl⟩
  · rename_i runs
    split
    · exact .inl ⟨_, rfl⟩
    · split
      · exact .inl ⟨_, rfl⟩
      · split
        · exact .inl ⟨_, rfl⟩
        · exact .inr ⟨by simpa using runs, rfl⟩

theorem cancel_cases (operation : Handle) : self.cancel operation = (none, self) ∨
    ∃ found, self.pending.lookup operation = some found ∧ self.cancel operation =
      (some found, { self with pending := HandleTable.remove operation self.pending }) := by
  unfold cancel
  split
  · exact .inl rfl
  · rename_i found known
    exact .inr ⟨found, known, rfl⟩

theorem receive_cases (operation : Handle) (received : Received) (now : Nat) :
    self.receive operation received now = (none, self) ∨
      ∃ found status, self.pending.lookup operation = some found ∧ self.receive operation received now =
        (some (found, status), { self with pending := HandleTable.remove operation self.pending }) := by
  unfold receive
  split
  · exact .inl rfl
  · rename_i found known
    cases received with
    | nothing =>
        by_cases expired : found.deadline ≠ 0 ∧ now ≥ found.deadline
        · simp only [if_pos expired]
          exact .inr ⟨found, _, known, rfl⟩
        · left
          simp only [if_neg expired]
    | response status => exact .inr ⟨found, _, known, rfl⟩
    | error => exact .inr ⟨found, _, known, rfl⟩

end Transport

variable {world later : World}

/-- What an action does to the world. The loop turns when it lists the operations, waits, fails or finds no response. -/
inductive Move (world : World) : Action → World → Prop where
  | stay {action} : Move world action world
  | endpointCreate (endpoint : Endpoint) :
      Move world (.endpointCreate endpoint) { world with self := (world.self.endpointCreate endpoint).2 }
  | endpointDestroy (handle : Handle) :
      Move world (.endpointDestroy handle) { world with self := (world.self.endpointDestroy handle).2 }
  | loanRelease (handle : Handle) :
      Move world (.loanRelease handle) { world with self := (world.self.loanRelease handle).2 }
  | requestLoanAcquire (endpoint : Handle) (size deadline now : Nat) (loaned : Bool) :
      Move world (.requestLoanAcquire endpoint size deadline now loaned)
        { world with self := (world.self.requestLoanAcquire endpoint size deadline now loaned).2 }
  | refuse {action} : Move world action (world.begin.reject world.calls)
  | take {action loan found} (known : world.self.requestLoans.lookup loan = some found) :
      Move world action { world.begin with
        self := { world.self with requestLoans := HandleTable.remove loan world.self.requestLoans }
        sending := world.sending ++ [⟨found.endpoint, world.calls, found.deadline⟩] }
  | unsent {action index} {operation : Pending} (found : world.sending[index]? = some operation) :
      Move world action ({ world with sending := world.sending.eraseIdx index }.reject operation.call)
  | enter {index} {operation : Pending} (found : world.sending[index]? = some operation) :
      Move world (.enter index true) { { world with sending := world.sending.eraseIdx index }.accept operation.call with
        self := (world.self.requestLoanEnter operation).2 }
  | request {action endpoint found} (size deadline : Nat) (finds : world.self.requestFind endpoint = .ok found) :
      Move world action { world.begin with
        requesting := world.requesting ++ [⟨endpoint, world.calls, size, deadline, found.mapping⟩] }
  | unrequested {action index} {request : Requesting} (found : world.requesting[index]? = some request) :
      Move world action ({ world with requesting := world.requesting.eraseIdx index }.reject request.call)
  | send {action index} {request : Requesting} (found : world.requesting[index]? = some request)
      (runs : world.self.running = true) :
      Move world action { { world with requesting := world.requesting.eraseIdx index }.accept request.call with
        self := (world.self.requestLoanEnter ⟨request.endpoint, request.call, request.deadline⟩).2 }
  | cancel {action operation found} (known : world.self.pending.lookup operation = some found) :
      Move world action { world with
        self := { world.self with pending := HandleTable.remove operation world.self.pending }
        cancelling := world.cancelling ++ [⟨found.call, operation, .cancelled⟩] }
  | completeCancelled {action index completion} (dispatched : Bool)
      (found : world.cancelling[index]? = some completion) :
      Move world action ({ world with cancelling := world.cancelling.eraseIdx index }.complete completion dispatched)
  | turn {action running receiver} (busy : world.receiver ≠ .ended) (before : world.receiver.held = [])
      (after : receiver.held = []) (slower : running = true → world.self.running = true) :
      Move world action { world with self := { world.self with running }, receiver }
  | receive {action operation operations found} (status : Status)
      (receiving : world.receiver = .receiving (operation :: operations))
      (known : world.self.pending.lookup operation = some found) :
      Move world action { world with
        self := { world.self with pending := HandleTable.remove operation world.self.pending }
        receiver := .completing ⟨found.call, operation, status⟩ operations }
  | completeReceived {action completion operations} (dispatched : Bool)
      (completing : world.receiver = .completing completion operations) :
      Move world action ({ world with receiver := .receiving operations }.complete completion dispatched)
  | stop {action} (started : world.self.started = true) :
      Move world action { world with
        stopper := .joining, self := { world.self with started := false, running := false } }
  | join (joining : world.stopper = .joining) (ended : world.receiver = .ended) :
      Move world .join { world with
        self := world.self.drain.2.2
        stopper := .completing (world.self.drain.1.map fun entry => ⟨entry.2.call, entry.1, .shuttingDown⟩) }
  | finish {action} (completing : world.stopper = .completing []) : Move world action { world with stopper := .stopped }
  | completeStopped {action completion completions} (dispatched : Bool)
      (completing : world.stopper = .completing (completion :: completions)) :
      Move world action ({ world with stopper := .completing completions }.complete completion dispatched)
  | run {action index completion} (found : world.tasks[index]? = some completion) :
      Move world action { world with
        tasks := world.tasks.eraseIdx index, invoked := world.invoked ++ [completion] }

theorem move_of_perform {action : Action} (performed : world.perform action = some later) :
    Move world action later := by
  cases action with
  | endpointCreate endpoint =>
      cases performed
      exact .endpointCreate endpoint
  | endpointDestroy handle =>
      cases performed
      exact .endpointDestroy handle
  | loanRelease handle =>
      cases performed
      exact .loanRelease handle
  | requestLoanAcquire endpoint size deadline now loaned =>
      cases performed
      exact .requestLoanAcquire endpoint size deadline now loaned
  | requestLoanSend endpoint loan used =>
      simp only [World.perform] at performed
      rcases world.self.requestLoanTake_cases endpoint loan used with
        ⟨status, failed⟩ | ⟨found, self, taken, _, known, rfl, rfl⟩
      · rw [failed] at performed
        cases performed
        exact .refuse
      · rw [taken] at performed
        cases performed
        exact .take known
  | enter index sent =>
      obtain ⟨operation, found, rfl⟩ := Option.map_eq_some_iff.mp performed
      cases sent with
      | false => exact .unsent found
      | true => exact .enter found
  | request endpoint size deadline =>
      simp only [World.perform] at performed
      split at performed
      · cases performed
        exact .refuse
      · rename_i found finds
        cases performed
        exact .request size deadline finds
  | send index now loaned sent =>
      obtain ⟨request, found, rfl⟩ := Option.map_eq_some_iff.mp performed
      simp only
      split
      · exact .unrequested found
      · rcases world.self.requestSend_cases ⟨request.endpoint, request.call, request.deadline⟩ loaned sent with
          ⟨status, failed⟩ | ⟨runs, entered⟩
        · rw [failed]
          exact .unrequested found
        · rw [entered]
          exact .send found runs
  | cancel operation =>
      simp only [World.perform] at performed
      rcases world.self.cancel_cases operation with failed | ⟨found, known, cancelled⟩
      · rw [failed] at performed
        cases performed
        exact .stay
      · rw [cancelled] at performed
        cases performed
        exact .cancel known
  | completeCancelled index dispatched =>
      obtain ⟨completion, found, rfl⟩ := Option.map_eq_some_iff.mp performed
      exact .completeCancelled dispatched found
  | list | wake =>
      simp only [World.perform] at performed
      split at performed
      · rename_i before
        split at performed <;> cases performed <;> exact .turn (by simp [before]) (by rw [before]; rfl) rfl id
      · cases performed
  | fail =>
      simp only [World.perform] at performed
      split at performed
      · rename_i polling
        cases performed
        exact .turn (by simp [polling]) (by rw [polling]; rfl) rfl nofun
      · rename_i operations waiting
        cases performed
        exact .turn (by simp [waiting]) (by rw [waiting]; rfl) rfl nofun
      · cases performed
  | receive received now =>
      simp only [World.perform] at performed
      split at performed
      · rename_i receiving
        cases performed
        exact .turn (by simp [receiving]) (by rw [receiving]; rfl) rfl id
      · rename_i operation operations receiving
        rcases world.self.receive_cases operation received now with left | ⟨found, status, known, taken⟩
        · rw [left] at performed
          cases performed
          exact .turn (by simp [receiving]) (by rw [receiving]; rfl) rfl id
        · rw [taken] at performed
          cases performed
          exact .receive status receiving known
      · cases performed
  | completeReceived dispatched =>
      simp only [World.perform] at performed
      split at performed
      · rename_i completion operations completing
        cases performed
        exact .completeReceived dispatched completing
      · cases performed
  | stop =>
      simp only [World.perform] at performed
      split at performed <;> cases performed
      · rename_i started
        exact .stop started
      · exact .stay
  | join =>
      obtain ⟨⟨joining, ended⟩, same⟩ := Option.ite_none_right_eq_some.mp performed
      cases same
      exact .join joining ended
  | completeStopped dispatched =>
      simp only [World.perform] at performed
      split at performed
      · rename_i completing
        cases performed
        exact .finish completing
      · rename_i completion completions completing
        cases performed
        exact .completeStopped dispatched completing
      · cases performed
  | run index =>
      obtain ⟨completion, found, rfl⟩ := Option.map_eq_some_iff.mp performed
      exact .run found

variable {completion : Completion} {found : Pending}

section Accounting
variable {action : Action}

theorem count_record (call : Nat) : world.record.count call = (world.self.pending.map (·.2.call)).count call +
    ((world.cancelling.map Completion.call).count call + (world.receiver.held.map Completion.call).count call +
      (world.stopper.held.map Completion.call).count call) +
        ((world.tasks.map Completion.call).count call + (world.invoked.map Completion.call).count call) := by
  simp only [World.record, World.held, List.map_append, List.count_append]
  omega

theorem count_begun (call : Nat) : world.begun.count call = (world.requesting.map Requesting.call).count call +
    (world.sending.map Pending.call).count call + (world.accepted.count call + world.rejected.count call) := by
  simp only [World.begun, List.count_append]
  omega

theorem Accounted.of_counts (accounted : Accounted world)
    (record : ∀ call, later.record.count call + world.accepted.count call =
      world.record.count call + later.accepted.count call)
    (begun : ∀ call, later.begun.count call + (List.range world.calls).count call =
      world.begun.count call + (List.range later.calls).count call)
    (ordered : later.self.pending.Ordered later.self.nextHandle) : Accounted later where
  record := List.perm_iff_count.mpr fun call => by
    have before := accounted.record.count_eq call
    have moved := record call
    omega
  begun := List.perm_iff_count.mpr fun call => by
    have before := accounted.begun.count_eq call
    have moved := begun call
    omega
  ordered := ordered

/-- A completed call has a task, or its callback was invoked. -/
theorem count_complete (completion : Completion) (dispatched : Bool) (call : Nat) :
    (world.complete completion dispatched).record.count call =
      world.record.count call + [completion.call].count call := by
  rw [count_record, count_record]
  cases dispatched <;>
    simp only [World.complete, Bool.false_eq_true, if_false, if_true, List.map_append, List.map_singleton,
      List.count_append] <;> omega

/-- A thread gives up the completion that it holds. -/
theorem Accounted.complete (accounted : Accounted world) (remaining : World)
    (taken : ∀ call, world.record.count call = remaining.record.count call + [completion.call].count call)
    (begun : remaining.begun = world.begun) (calls : remaining.calls = world.calls)
    (accepted : remaining.accepted = world.accepted) (self : remaining.self = world.self) (dispatched : Bool) :
    Accounted (remaining.complete completion dispatched) := by
  apply accounted.of_counts
  · intro call
    have same : (remaining.complete completion dispatched).accepted = world.accepted := by
      rw [← accepted]
      cases dispatched <;> rfl
    rw [same, count_complete, taken]
  · intro call
    have same : (remaining.complete completion dispatched).begun = remaining.begun := by
      cases dispatched <;> rfl
    have number : (remaining.complete completion dispatched).calls = world.calls := by
      rw [← calls]
      cases dispatched <;> rfl
    rw [same, begun, number]
  · have same : (remaining.complete completion dispatched).self = world.self := by
      rw [← self]
      cases dispatched <;> rfl
    rw [same]
    exact accounted.ordered

/-- One member of a list is moved away. -/
theorem count_eraseIdx {A : Type} {key : A → Nat} {list : List A} {index : Nat} {item : A}
    (found : list[index]? = some item) (call : Nat) :
    (list.map key).count call = ((list.eraseIdx index).map key).count call + [key item].count call := by
  obtain ⟨inside, rfl⟩ := List.getElem?_eq_some_iff.mp found
  have moved := ((List.getElem_cons_eraseIdx_perm inside).map key).count_eq call
  rw [List.map_cons, ← List.singleton_append, List.count_append] at moved
  omega

theorem count_remove {table : HandleTable Pending} {next handle : Handle}
    (ordered : table.Ordered next) (known : table.lookup handle = some found) (call : Nat) :
    (table.map (·.2.call)).count call =
      ((HandleTable.remove handle table).map (·.2.call)).count call + [found.call].count call := by
  have moved := ((ordered.perm_remove known).map (·.2.call)).count_eq call
  rw [List.map_cons, ← List.singleton_append, List.count_append] at moved
  simp only at moved
  omega

/-- An operation that keeps the pending operations keeps the account. -/
theorem Accounted.kept (accounted : Accounted world) (kept : Transport.Kept world.self self) :
    Accounted { world with self } := by
  apply accounted.of_counts
  · intro call
    rw [count_record, count_record]
    simp only [kept.pending]
  · intro call
    rfl
  · simp only [kept.pending]
    exact accounted.ordered.mono kept.nextHandle

section Calls
variable {requesting : List Requesting} {sending : List Pending}

theorem Accounted.refuse (accounted : Accounted world) : Accounted (world.begin.reject world.calls) := by
  apply accounted.of_counts
  · intro call
    rfl
  · intro call
    rw [count_begun, count_begun]
    simp only [World.begin, World.reject, List.count_append, List.range_succ]
    omega
  · exact accounted.ordered

/-- A call begins with a thread that requests or sends. -/
theorem Accounted.begin (accounted : Accounted world) {requestLoans : HandleTable RequestLoan}
    (entered : ∀ call, (requesting.map Requesting.call).count call + (sending.map Pending.call).count call =
      (world.requesting.map Requesting.call).count call + (world.sending.map Pending.call).count call +
        [world.calls].count call) :
    Accounted { world.begin with self := { world.self with requestLoans }, requesting, sending } := by
  apply accounted.of_counts
  · intro call
    rfl
  · intro call
    rw [count_begun, count_begun]
    simp only [entered, World.begin, List.count_append, List.range_succ]
    omega
  · exact accounted.ordered

section Returns
variable {operation : Pending} (left : ∀ call, (world.requesting.map Requesting.call).count call +
  (world.sending.map Pending.call).count call = (requesting.map Requesting.call).count call +
    (sending.map Pending.call).count call + [operation.call].count call)
include left

theorem Accounted.reject (accounted : Accounted world) :
    Accounted ({ world with requesting, sending }.reject operation.call) := by
  apply accounted.of_counts
  · intro call
    rfl
  · intro call
    rw [count_begun, count_begun, left]
    simp only [World.reject, List.count_append]
    omega
  · exact accounted.ordered

/-- An accepted call has a pending operation. -/
theorem Accounted.accept (accounted : Accounted world) :
    Accounted { { world with requesting, sending }.accept operation.call with
      self := (world.self.requestLoanEnter operation).2 } := by
  apply accounted.of_counts
  · intro call
    rw [count_record, count_record]
    simp only [World.accept, Transport.requestLoanEnter, List.map_append, List.map_singleton, List.count_append]
    omega
  · intro call
    rw [count_begun, count_begun, left]
    simp only [World.accept, List.count_append]
    omega
  · exact accounted.ordered.add

end Returns

end Calls

section Records

/-- The completions of the accepted calls move between the places of the record. -/
theorem Accounted.moves (accounted : Accounted world)
    (record : ∀ call, later.record.count call = world.record.count call)
    (ordered : later.self.pending.Ordered later.self.nextHandle) (begun : later.begun = world.begun)
    (calls : later.calls = world.calls) (accepted : later.accepted = world.accepted) : Accounted later := by
  apply accounted.of_counts
  · intro call
    rw [record, accepted]
  · intro call
    rw [begun, calls]
  · exact ordered

variable {operation : Handle}

variable (accounted : Accounted world)
include accounted

theorem Accounted.cancel (known : world.self.pending.lookup operation = some found) : Accounted { world with
      self := { world.self with pending := HandleTable.remove operation world.self.pending }
      cancelling := world.cancelling ++ [⟨found.call, operation, .cancelled⟩] } := by
  refine accounted.moves (fun call => ?_) accounted.ordered.remove rfl rfl rfl
  rw [count_record, count_record, count_remove accounted.ordered known]
  simp only [List.map_append, List.map_singleton, List.count_append]
  omega

theorem Accounted.receive {operations : List Handle}
    (status : Status) (receiving : world.receiver = .receiving (operation :: operations))
    (known : world.self.pending.lookup operation = some found) : Accounted { world with
      self := { world.self with pending := HandleTable.remove operation world.self.pending }
      receiver := .completing ⟨found.call, operation, status⟩ operations } := by
  refine accounted.moves (fun call => ?_) accounted.ordered.remove rfl rfl rfl
  rw [count_record, count_record, count_remove accounted.ordered known, receiving]
  simp only [Receiver.held, List.map_singleton, List.map_nil, List.count_nil]
  omega

/-- The stop takes every pending operation. -/
theorem Accounted.join (joining : world.stopper = .joining) : Accounted { world with
      self := world.self.drain.2.2
      stopper := .completing (world.self.drain.1.map fun entry => ⟨entry.2.call, entry.1, .shuttingDown⟩) } := by
  refine accounted.moves (fun call => ?_) .empty rfl rfl rfl
  rw [count_record, count_record, joining]
  have calls : (world.self.pending.map fun entry =>
      (⟨entry.2.call, entry.1, .shuttingDown⟩ : Completion)).map Completion.call =
        world.self.pending.map fun entry => entry.2.call := by
    rw [List.map_map]
    rfl
  simp only [Transport.drain, Stopper.held, calls, List.map_nil, List.count_nil]
  omega

theorem Accounted.run {index : Nat}
    (found : world.tasks[index]? = some completion) : Accounted { world with
      tasks := world.tasks.eraseIdx index, invoked := world.invoked ++ [completion] } := by
  refine accounted.moves (fun call => ?_) accounted.ordered rfl rfl rfl
  rw [count_record, count_record, @count_eraseIdx _ Completion.call _ _ _ found]
  simp only [List.map_append, List.map_singleton, List.count_append]
  omega

end Records

theorem Accounted.perform (accounted : Accounted world) (phased : Phased world)
    (performed : world.perform action = some later) : Accounted later := by
  cases move_of_perform performed with
  | stay => exact accounted
  | endpointCreate endpoint => exact accounted.kept (Transport.kept_endpointCreate endpoint)
  | endpointDestroy handle => exact accounted.kept (Transport.kept_endpointDestroy handle)
  | loanRelease handle => exact accounted.kept (Transport.kept_loanRelease handle)
  | requestLoanAcquire => exact accounted.kept (Transport.kept_requestLoanAcquire _ _ _ _ _)
  | refuse => exact accounted.refuse
  | take =>
      refine accounted.begin fun call => ?_
      rw [List.map_append, List.count_append, ← Nat.add_assoc]
      rfl
  | request =>
      refine accounted.begin fun call => ?_
      rw [List.map_append, List.count_append, Nat.add_right_comm]
      rfl
  | unsent found =>
      refine accounted.reject fun call => ?_
      rw [@count_eraseIdx _ Pending.call _ _ _ found, Nat.add_assoc]
  | enter found =>
      refine accounted.accept fun call => ?_
      rw [@count_eraseIdx _ Pending.call _ _ _ found, Nat.add_assoc]
  | @unrequested _ _ request found =>
      refine @Accounted.reject _ _ _ ⟨request.endpoint, request.call, request.deadline⟩ (fun call => ?_) accounted
      rw [@count_eraseIdx _ Requesting.call _ _ _ found, Nat.add_right_comm]
  | send found =>
      refine accounted.accept fun call => ?_
      rw [@count_eraseIdx _ Requesting.call _ _ _ found, Nat.add_right_comm]
  | cancel known => exact accounted.cancel known
  | completeCancelled dispatched found =>
      refine accounted.complete { world with cancelling := world.cancelling.eraseIdx _ } (fun call => ?_)
        rfl rfl rfl rfl dispatched
      rw [count_record, count_record, @count_eraseIdx _ Completion.call _ _ _ found]
      dsimp only
      omega
  | turn busy before after =>
      refine accounted.moves (fun call => ?_) accounted.ordered rfl rfl rfl
      rw [count_record, count_record, before, after]
  | receive status receiving known => exact accounted.receive status receiving known
  | completeReceived dispatched completing =>
      refine accounted.complete { world with receiver := .receiving _ } (fun call => ?_) rfl rfl rfl rfl dispatched
      rw [count_record, count_record, completing]
      simp only [Receiver.held, List.map_cons, List.map_nil, List.count_nil]
      omega
  | stop started =>
      refine accounted.moves (fun call => ?_) accounted.ordered rfl rfl rfl
      rw [count_record, count_record, phased.idle started]
      rfl
  | join joining => exact accounted.join joining
  | finish completing =>
      refine accounted.moves (fun call => ?_) accounted.ordered rfl rfl rfl
      rw [count_record, count_record, completing]
      rfl
  | completeStopped dispatched completing =>
      refine accounted.complete { world with stopper := .completing _ } (fun call => ?_) rfl rfl rfl rfl dispatched
      rw [count_record, count_record, completing]
      simp only [Stopper.held, List.map_cons]
      rw [← List.singleton_append, List.count_append]
      omega
  | run found => exact accounted.run found

end Accounting

section Phases
variable {action : Action}

theorem Phased.of_fields (phased : Phased world) (started : later.self.started = world.self.started)
    (running : later.self.running = world.self.running) (node : later.self.node = world.self.node)
    (stopper : later.stopper = world.stopper) (receiver : later.receiver = world.receiver) : Phased later := by
  refine ⟨?_, ?_, ?_, ?_⟩
  · rw [started, stopper]
    exact phased.idle
  · rw [node, stopper]
    exact phased.node
  · rw [started, running]
    exact phased.quiet
  · rw [stopper, receiver]
    exact phased.ended

section
variable (phased : Phased world)
include phased

theorem Phased.kept (kept : Transport.Kept world.self self) :
    Phased { world with self } := phased.of_fields kept.started kept.running kept.node rfl rfl

theorem Phased.complete (completion : Completion) (dispatched : Bool) :
    Phased (world.complete completion dispatched) := by
  cases dispatched <;> exact phased.of_fields rfl rfl rfl rfl rfl

/-- The receive loop moves while the stop has not taken the operations. -/
theorem Phased.receiver (busy : world.receiver ≠ .ended)
    {receiver : Receiver} (started : self.started = world.self.started) (node : self.node = world.self.node)
    (running : self.running = true → world.self.running = true) : Phased { world with self, receiver } := by
  have early : world.stopper.drained = false := by
    by_contra drained
    exact busy (phased.ended (by simpa using drained))
  refine ⟨?_, ?_, ?_, ?_⟩
  · rw [started]
    exact phased.idle
  · rw [node]
    exact phased.node
  · rw [started]
    intro ended
    by_contra runs
    have ran := running (by simpa using runs)
    rw [phased.quiet ended] at ran
    cases ran
  · intro drained
    rw [early] at drained
    cases drained

/-- A stop that has taken the operations completes them. -/
theorem Phased.drained (before : world.stopper.drained = true) {stopper : Stopper}
    (after : stopper.drained = true) : Phased { world with stopper } := by
  refine ⟨fun started => ?_, ?_, phased.quiet, fun _ => phased.ended before⟩
  · have idle := phased.idle started
    rw [idle] at before
    cases before
  · rw [after, ← before]
    exact phased.node

theorem Phased.perform (performed : world.perform action = some later) : Phased later := by
  cases move_of_perform performed with
  | stay => exact phased
  | endpointCreate endpoint => exact phased.kept (Transport.kept_endpointCreate endpoint)
  | endpointDestroy handle => exact phased.kept (Transport.kept_endpointDestroy handle)
  | loanRelease handle => exact phased.kept (Transport.kept_loanRelease handle)
  | requestLoanAcquire => exact phased.kept (Transport.kept_requestLoanAcquire _ _ _ _ _)
  | refuse | take | unsent | enter | request | unrequested | send | cancel | run =>
      exact phased.of_fields rfl rfl rfl rfl rfl
  | completeCancelled =>
      apply Phased.complete
      exact phased.of_fields rfl rfl rfl rfl rfl
  | turn busy before after slower => exact phased.receiver busy rfl rfl slower
  | receive status receiving => exact phased.receiver (by simp [receiving]) rfl rfl id
  | completeReceived dispatched completing =>
      exact (phased.receiver (by simp [completing]) rfl rfl id).complete _ dispatched
  | stop started =>
      have node := phased.node
      rw [phased.idle started] at node
      exact ⟨nofun, node, fun _ => rfl, nofun⟩
  | join joining ended =>
      refine ⟨fun started => ?_, rfl, phased.quiet, fun _ => ended⟩
      have idle := phased.idle started
      rw [joining] at idle
      cases idle
  | finish completing => exact phased.drained (by rw [completing]; rfl) rfl
  | completeStopped dispatched completing =>
      exact Phased.complete (phased.drained (by rw [completing]; rfl) rfl) _ dispatched

/-- The transport does not run when its node is gone. -/
theorem Phased.stopped (gone : world.self.node = false) : world.self.running = false := by
  apply phased.quiet
  have drained : world.stopper.drained = true := by
    have node := phased.node
    rw [gone] at node
    simpa using node.symm
  by_contra started
  rw [phased.idle (by simpa using started)] at drained
  cases drained

end

/-- Nothing is pending after the stop has taken the operations. -/
def Emptied (world : World) : Prop := world.self.node = false → world.self.pending = []

variable (emptied : Emptied world)
include emptied

theorem Emptied.of_kept (node : later.self.node = world.self.node)
    (pending : later.self.pending ⊆ world.self.pending) : Emptied later := by
  intro gone
  rw [node] at gone
  rw [emptied gone] at pending
  exact List.subset_nil.mp pending

theorem Emptied.kept (kept : Transport.Kept world.self self) : Emptied { world with self } := by
  apply emptied.of_kept kept.node
  rw [kept.pending]
  exact List.Subset.refl _

theorem Emptied.complete (completion : Completion) (dispatched : Bool) :
    Emptied (world.complete completion dispatched) := by
  cases dispatched <;> exact emptied

theorem Emptied.perform (phased : Phased world) (orderly : Orderly world action)
    (performed : world.perform action = some later) : Emptied later := by
  cases move_of_perform performed with
  | stay | refuse | take | unsent | request | unrequested | turn | stop | finish | run => exact emptied
  | endpointCreate endpoint => exact emptied.kept (Transport.kept_endpointCreate endpoint)
  | endpointDestroy handle => exact emptied.kept (Transport.kept_endpointDestroy handle)
  | loanRelease handle => exact emptied.kept (Transport.kept_loanRelease handle)
  | requestLoanAcquire => exact emptied.kept (Transport.kept_requestLoanAcquire _ _ _ _ _)
  | enter =>
      intro gone
      have there := orderly rfl
      change world.self.node = false at gone
      rw [there] at gone
      cases gone
  | send _ runs =>
      intro gone
      have stopped := phased.stopped gone
      rw [runs] at stopped
      cases stopped
  | cancel | receive => exact emptied.of_kept rfl (List.filter_subset_self _)
  | completeCancelled | completeReceived | completeStopped =>
      apply Emptied.complete
      exact emptied
  | join => exact fun _ => rfl

end Phases

section Runs
variable {world : World} {maxEndpoints maxOperations : Nat}

def started (maxEndpoints maxOperations : Nat) : World := { self := { maxEndpoints, maxOperations } }

/-- The stop has returned, the calls have returned, and the tasks have run. -/
structure Rests (world : World) : Prop where
  stopper : world.stopper = .stopped
  requesting : world.requesting = []
  sending : world.sending = []
  cancelling : world.cancelling = []
  tasks : world.tasks = []

instance (world : World) : Decidable (Rests world) :=
  decidable_of_iff (world.stopper = .stopped ∧ world.requesting = [] ∧ world.sending = [] ∧ world.cancelling = [] ∧
      world.tasks = [])
    ⟨fun ⟨stopper, requesting, sending, cancelling, tasks⟩ => ⟨stopper, requesting, sending, cancelling, tasks⟩,
      fun rests => ⟨rests.stopper, rests.requesting, rests.sending, rests.cancelling, rests.tasks⟩⟩

/-- What the transport promises to its callers. -/
structure CompletionSound (world : World) : Prop where
  once : (world.invoked.map Completion.call).Nodup
  rejected : ∀ call ∈ world.rejected, call ∉ world.invoked.map Completion.call
  exact : Rests world → ∀ call ∈ world.accepted, (world.invoked.map Completion.call).count call = 1

theorem phased_of_reaches {allowed : World → Action → Prop}
    (reached : transport.Reaches allowed (started maxEndpoints maxOperations) world) :
    Phased world ∧ Accounted world := by
  apply reached.invariant
  · exact ⟨⟨fun _ => rfl, rfl, nofun, nofun⟩, .nil, .nil, .empty⟩
  · intro before action later kept _ performed
    exact ⟨kept.1.perform performed, kept.2.perform kept.1 performed⟩

theorem emptied_of_reaches (reached : transport.Reaches Orderly (started maxEndpoints maxOperations) world) :
    Emptied world := by
  induction reached with
  | refl => exact fun _ => rfl
  | step before orderly performed ih => exact ih.perform (phased_of_reaches before).1 orderly performed

section
variable (accounted : Accounted world)
include accounted

theorem Accounted.distinct : (world.accepted ++ world.rejected).Nodup := by
  have distinct := accounted.begun.nodup_iff.mpr List.nodup_range
  simp only [World.begun, List.nodup_append] at distinct
  exact List.nodup_append.mpr distinct.2.1.2.1

theorem Accounted.once : (world.invoked.map Completion.call).Nodup := by
  have distinct := accounted.record.nodup_iff.mpr (List.nodup_append.mp accounted.distinct).1
  simp only [World.record, List.map_append, List.nodup_append] at distinct
  exact distinct.2.1.2.1.2.1

theorem Accounted.accepted_of_invoked {call : Nat}
    (invoked : call ∈ world.invoked.map Completion.call) : call ∈ world.accepted := by
  apply accounted.record.mem_iff.mp
  simp only [World.record, List.map_append, List.mem_append]
  exact .inr (.inr (.inr invoked))

/-- At rest, the callbacks of the accepted calls were invoked. -/
theorem perm_of_rests (phased : Phased world) (emptied : Emptied world)
    (rests : Rests world) : (world.invoked.map Completion.call).Perm world.accepted := by
  have drained : world.stopper.drained = true := by
    rw [rests.stopper]
    rfl
  have gone : world.self.node = false := by
    rw [phased.node, drained]
    rfl
  have record := accounted.record
  rw [World.record, World.held, emptied gone, rests.cancelling, phased.ended drained, rests.stopper,
    rests.tasks] at record
  exact record

end

/-- No call completes twice and no rejected call completes, in every run. In every orderly run, each accepted call has
completed when the transport rests. -/
theorem completion_exact (maxEndpoints maxOperations : Nat) :
    (∀ world, transport.Reaches (fun _ _ => True) (started maxEndpoints maxOperations) world →
      (world.invoked.map Completion.call).Nodup ∧
        ∀ call ∈ world.rejected, call ∉ world.invoked.map Completion.call) ∧
      ∀ world, transport.Reaches Orderly (started maxEndpoints maxOperations) world → CompletionSound world := by
  have foreign {world : World} (accounted : Accounted world) :
      ∀ call ∈ world.rejected, call ∉ world.invoked.map Completion.call := by
    intro call rejected invoked
    exact (List.nodup_append.mp accounted.distinct).2.2 call (accounted.accepted_of_invoked invoked) call rejected rfl
  constructor
  · intro world reached
    have accounted := (phased_of_reaches reached).2
    exact ⟨accounted.once, foreign accounted⟩
  · intro world reached
    obtain ⟨phased, accounted⟩ := phased_of_reaches reached
    refine ⟨accounted.once, foreign accounted, fun rests call accepted => ?_⟩
    have same := perm_of_rests accounted phased (emptied_of_reaches reached) rests
    exact List.count_eq_one_of_mem accounted.once (same.mem_iff.mpr accepted)

end Runs

def methodClient : Endpoint := ⟨.methodClient, ⟨1024, 1024⟩⟩

/-- A call is sent as a loan, two are requested and one is too large. One of them gets its response and one is
cancelled before the stop completes the last one. -/
def orderlyCalls : List Action :=
  [.endpointCreate methodClient, .request 1 0 0, .requestLoanAcquire 1 0 0 0 true, .requestLoanSend 1 2 0,
    .enter 0 true, .send 0 0 true true, .request 1 0 0, .send 0 0 true true, .request 1 2048 0, .send 0 0 true true,
    .list, .cancel 4, .wake, .receive (.response (some .ok)) 0, .completeReceived true, .receive .nothing 0,
    .receive .nothing 0, .receive .nothing 0, .completeCancelled 0 false, .stop, .list, .join, .completeStopped true,
    .completeStopped true, .run 1, .run 0]

example : ∃ world, transport.Reaches Orderly (started 128 128) world ∧ Rests world ∧ world.accepted = [1, 0, 2] ∧
    world.rejected = [3] ∧ world.invoked = [⟨0, 4, .resourceExhausted⟩, ⟨2, 5, .shuttingDown⟩, ⟨1, 3, .ok⟩] := by
  let check (world : World) : Action → Bool
    | .enter _ sent => !sent || world.self.node
    | _ => true
  have sound (world : World) (action : Action) (checked : check world action = true) : Orderly world action := by
    cases action with
    | enter index sent => simpa [check, Orderly, imp_iff_not_or] using checked
    | _ => trivial
  have executed : (transport.run check (orderlyCalls.map fun action _ => action) (started 128 128)).any (fun world =>
      decide (Rests world ∧ world.accepted = [1, 0, 2] ∧ world.rejected = [3] ∧
        world.invoked = [⟨0, 4, .resourceExhausted⟩, ⟨2, 5, .shuttingDown⟩, ⟨1, 3, .ok⟩])) = true := by
    decide
  obtain ⟨world, reached, ended⟩ := Concurrency.System.Reaches.exists_of_run check sound _ _ executed
  exact ⟨world, reached, of_decide_eq_true ended⟩

/-- The stop takes the pending operations while a loan is sent, and then the sent loan is entered. -/
def lateLoan : List Action :=
  [.endpointCreate methodClient, .requestLoanAcquire 1 0 0 0 true, .requestLoanSend 1 2 0, .stop, .list, .join,
    .completeStopped true, .enter 0 true]

/-- The callback of the accepted call is never invoked. -/
theorem late_loan_lost : ¬∀ world, transport.Reaches (fun _ _ => True) (started 128 128) world →
    CompletionSound world := by
  intro claimed
  have executed : (transport.run (fun _ _ => true) (lateLoan.map fun action _ => action) (started 128 128)).any
      (fun world => decide (Rests world ∧ world.accepted = [0] ∧ world.invoked = [])) = true := by
    decide
  obtain ⟨world, reached, ended⟩ := Concurrency.System.Reaches.exists_of_run _ (fun _ _ _ => trivial) _ _ executed
  obtain ⟨rests, accepted, invoked⟩ := of_decide_eq_true ended
  have once := (claimed world reached).exact rests 0 (by rw [accepted]; exact List.mem_cons_self)
  rw [invoked] at once
  cases once

end OpenVehicle.Com.Iceoryx
