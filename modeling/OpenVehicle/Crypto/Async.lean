/-
This file models the asynchronous jobs of the cryptographic provider: the calls that submit and cancel a job, the
worker that completes the jobs, and the calls that start and stop the worker.
-/

import OpenVehicle.Concurrency.Machine
import OpenVehicle.Crypto.Provider

namespace OpenVehicle.Crypto.Async

open Concurrency (Machine Pool Program)

inductive Operation where
  | hash
  | sign
  | verify
  | other
  deriving DecidableEq, Repr

structure Request where
  structSize : Nat := 88
  operation : Operation
  algorithm : Algorithm
  key : Nat := 0
  input : BytesView
  auxiliary : BytesView := some []
  deadline : Nat
  completion : Bool := true
  deriving DecidableEq, Repr

inductive Primitive where
  | hash (name : String)
  | signer (key : PrivateKey) (padding : String)
  | verifier (key : PublicKey) (padding : String)
  deriving DecidableEq, Repr

/-- A job belongs to the call that has submitted it. -/
structure Job where
  identity : Nat
  ticket : UInt64 := 0
  operation : Operation
  deadline : Nat
  input : List Byte
  auxiliary : List Byte
  primitive : Primitive
  deriving DecidableEq, Repr

structure Value where
  bytes : List Byte := []
  valid : Bool := false
  deriving DecidableEq, Repr

/-- The completion function of a job was called with these values. -/
structure Completion where
  identity : Nat
  ticket : UInt64
  status : Status
  value : Value
  deriving DecidableEq, Repr

/-- The worker waits for a job, completes it, and then removes it from the outstanding jobs. -/
inductive Worker where
  | waiting
  | taken (job : Job) (stopping : Bool)
  | computing (job : Job)
  | computed (job : Job) (output : Throws Value)
  | completed (job : Job)
  | finished

inductive Op where
  | now
  | allocate
  | prepare (request : Request)
  | enqueue (job : Job)
  | fail (exception : Exception)
  | cancel (ticket : UInt64)
  | begin
  | spawn
  | halt
  | signal
  | joinable
  | join
  deriving DecidableEq

/-- A start that goes on has no status yet. -/
abbrev Op.Reply : Op → Type
  | .now => Nat
  | .allocate | .joinable => Bool
  | .prepare _ => Throws (Except Status Primitive)
  | .enqueue _ => Throws (Except Status UInt64)
  | .cancel _ | .spawn => Status
  | .begin => Option Status
  | _ => Unit

abbrev Run (A : Type) := Program Op Op.Reply A

def ask (op : Op) : Run op.Reply := Program.perform op

def outOfMemory : Exception := .other "std::bad_alloc"

def failed (exception : Exception) : Run (Except Status UInt64) := do
  ask (.fail exception)
  return .error .backendError

/-- A job is prepared with the lock of the provider and admitted with the lock of the jobs. -/
def submit (request : Request) (input auxiliary : List Byte) (identity : Nat) : Run (Except Status UInt64) := do
  let now ← ask .now
  if request.deadline ≤ now then return .error .deadlineExceeded
  let allocated ← ask .allocate
  if !allocated then failed outOfMemory
  else
    let prepared ← ask (.prepare request)
    match prepared with
    | .error exception => failed exception
    | .ok (.error status) => return .error status
    | .ok (.ok primitive) => do
        let admitted ← ask (.enqueue
          { identity, operation := request.operation, deadline := request.deadline, input, auxiliary, primitive })
        match admitted with
        | .error exception => failed exception
        | .ok result => return result

def submitAsync (request : Option Request) (ticket : Bool) (identity : Nat) : Run (Except Status UInt64) :=
  match request with
  | none => return .error .invalidArgument
  | some request =>
      match request.input, request.auxiliary with
      | some input, some auxiliary =>
          if request.structSize < 88 || !ticket || !request.completion || input.isEmpty ||
              input.length > maximumOperationSize || request.deadline == 0 then return .error .invalidArgument
          else submit request input auxiliary identity
      | _, _ => return .error .invalidArgument

def cancelAsync (ticket : UInt64) : Run Status := ask (.cancel ticket)

/-- The lock of the provider is held from the first operation to the last one. -/
def start : Run Status := do
  let begun ← ask .begin
  match begun with
  | some status => return status
  | none => ask .spawn

def stop : Run Unit := do
  ask .halt
  ask .signal
  let joinable ← ask .joinable
  if joinable then ask .join else return ()

def refuse (status : Status) (message : String) (backend : Backend) : Throws (Except Status Primitive) × Backend :=
  (.ok (.error status), (backend.fail status message).2)

/-- The constructor of a primitive may throw. -/
def build (made : Throws Unit) (primitive : Primitive) (backend : Backend) :
    Throws (Except Status Primitive) × Backend := (made.map fun _ => .ok primitive, backend)

def prepare (botan : Botan) (request : Request) (backend : Backend) : Throws (Except Status Primitive) × Backend :=
  if !backend.running then refuse .shuttingDown "provider is stopping" backend
  else
    match request.operation with
    | .hash =>
        match hashName request.algorithm with
        | some name =>
            if request.key ≠ 0 || request.auxiliary ≠ some [] then
              refuse .invalidArgument "invalid asynchronous hash" backend
            else build (.ok ()) (.hash name) backend
        | none => refuse .invalidArgument "invalid asynchronous hash" backend
    | .sign =>
        let refused := refuse .permissionDenied "asynchronous signing key policy rejected the request" backend
        match backend.signingKey request.algorithm request.key with
        | some (padding, key) =>
            if request.auxiliary ≠ some [] then refused
            else build (botan.signer key padding) (.signer key padding) backend
        | none => refused
    | .verify =>
        let refused := refuse .permissionDenied "asynchronous verification key policy rejected the request" backend
        match backend.verificationEntry request.algorithm request.key with
        | some (padding, entry) =>
            if request.auxiliary = some [] then refused
            else
              match Backend.publicComponent botan entry with
              | some key => build (botan.verifier key padding) (.verifier key padding) backend
              | none => refuse .permissionDenied "verification key has no public component" backend
        | none => refused
    | .other => refuse .unsupported "unsupported asynchronous operation" backend

def compute (botan : Botan) (entropy : Entropy) (job : Job) : Throws Value :=
  match job.primitive with
  | .hash name => (botan.hash name job.input).map fun bytes => { bytes }
  | .signer key padding => (entropy.bind (botan.signature key padding job.input)).map fun bytes => { bytes }
  | .verifier key padding => (botan.verify key padding job.input job.auxiliary).map fun valid => { valid }

/-- The state of the provider. The threads are numbered, and the calls of completion functions are recorded. -/
structure World where
  backend : Backend
  maxOutstanding : Nat
  starting : Bool := false
  stopping : Bool := false
  queue : List Job := []
  outstanding : List Job := []
  cancelled : List Nat := []
  worker : Option Worker := none
  nextTicket : UInt64 := 1
  issued : Nat := 0
  calls : Nat := 0
  completions : List Completion := []
  terminated : Bool := false

/-- The two containers of the jobs grow one after the other. -/
inductive Growth where
  | complete
  | outstandingFails
  | queueFails
  deriving DecidableEq, Repr

structure Input where
  now : Nat := 0
  allocated : Bool := true
  growth : Growth := .complete
  failure : Option String := none
  entropy : Entropy := .ok fun _ => 0
  interrupted : Bool := false

namespace World

/-- Zero is no ticket. -/
def ticketAfter (ticket : UInt64) : UInt64 := if ticket + 1 = 0 then ticket + 2 else ticket + 1

def enqueue (growth : Growth) (job : Job) (world : World) : Throws (Except Status UInt64) × World :=
  if world.stopping then (.ok (.error .shuttingDown), world)
  else if world.outstanding.length ≥ world.maxOutstanding then (.ok (.error .resourceExhausted), world)
  else
    let job := { job with ticket := world.nextTicket }
    let world := { world with nextTicket := ticketAfter world.nextTicket, issued := world.issued + 1 }
    match growth with
    | .outstandingFails => (.error outOfMemory, world)
    | .queueFails => (.error outOfMemory, { world with outstanding := world.outstanding ++ [job] })
    | .complete =>
        (.ok (.ok job.ticket),
          { world with outstanding := world.outstanding ++ [job], queue := world.queue ++ [job] })

def cancel (ticket : UInt64) (world : World) : Status × World :=
  match world.outstanding.find? (·.ticket = ticket) with
  | none => (.notFound, world)
  | some job => (.ok, { world with cancelled := job.identity :: world.cancelled })

/-- A start that is not refused clears the flag and keeps the lock. -/
def begin (failure : Option String) (world : World) : Option Status × World :=
  let begun := world.backend.start failure
  if begun.1.status = .ok then (none, { world with starting := true, stopping := false })
  else (some begun.1.status, { world with backend := begun.2 })

/-- The program ends when a thread takes the place of another one that was not joined. -/
def spawn (failure : Option String) (world : World) : Status × World :=
  let begun := world.backend.start failure
  let world := { world with backend := begun.2, starting := false }
  if begun.1.status ≠ .ok then (begun.1.status, world)
  else if world.worker.isSome then (.ok, { world with terminated := true })
  else (.ok, { world with worker := some .waiting })

/-- A join waits for the end of the worker. A thread that was joined before ends the program. -/
def join (world : World) : Option World :=
  match world.worker with
  | none => some { world with terminated := true }
  | some .finished => some { world with worker := none }
  | some _ => none

/-- The lock of the provider is free. -/
def locked {A : Type} (world : World) (result : A) : Option A :=
  if world.starting then none else some result

def perform (botan : Botan) (op : Op) (input : Input) (world : World) : Option (op.Reply × World) :=
  if world.terminated then none
  else
    match op with
    | .now => some (input.now, world)
    | .allocate => some (input.allocated, world)
    | .prepare request =>
        let prepared := Async.prepare botan request world.backend
        world.locked (prepared.1, { world with backend := prepared.2 })
    | .enqueue job => some (world.enqueue input.growth job)
    | .fail exception => some ((), { world with backend := (world.backend.botanFailure exception).2 })
    | .cancel ticket => some (world.cancel ticket)
    | .begin => world.locked (world.begin input.failure)
    | .spawn => some (world.spawn input.failure)
    | .halt => world.locked ((), { world with backend := world.backend.stop })
    | .signal => some ((), { world with stopping := true })
    | .joinable => some (world.worker.isSome, world)
    | .join => world.join.map fun later => ((), later)

def complete (job : Job) (status : Status) (value : Value) (world : World) : World :=
  { world with
    worker := some (.completed job)
    completions := world.completions ++ [⟨job.identity, job.ticket, status, value⟩] }

/-- The flag of a job and its deadline are read before and after the computation. -/
def interruption (now : Nat) (job : Job) (world : World) : Option Status :=
  if world.cancelled.contains job.identity then some .cancelled
  else if now ≥ job.deadline then some .deadlineExceeded
  else none

/-- One step of the worker. A signature takes the lock of the provider. -/
def work (botan : Botan) (input : Input) (world : World) : Option World :=
  match world.worker with
  | none => none
  | some .finished => none
  | some .waiting =>
      match world.queue with
      | [] => if world.stopping then some { world with worker := some .finished } else none
      | job :: queue => some { world with queue, worker := some (.taken job world.stopping) }
  | some (.taken job stopping) =>
      if stopping then some (world.complete job .shuttingDown {})
      else
        match world.interruption input.now job with
        | some status => some (world.complete job status {})
        | none => some { world with worker := some (.computing job) }
  | some (.computing job) =>
      if job.operation = .sign ∧ world.starting = true then none
      else
        let output := if input.interrupted then .error outOfMemory else compute botan input.entropy job
        some { world with worker := some (.computed job output) }
  | some (.computed job output) =>
      match output with
      | .error _ => some (world.complete job .backendError {})
      | .ok value =>
          match world.interruption input.now job with
          | some status => some (world.complete job status {})
          | none => some (world.complete job .ok value)
  | some (.completed job) =>
      some { world with
        worker := some .waiting
        outstanding := world.outstanding.filter (·.identity ≠ job.identity) }

end World

/-- What a finished thread has returned. -/
inductive Finished where
  | submitted (result : Except Status UInt64)
  | other
  deriving DecidableEq

inductive Event where
  | submit (request : Option Request) (ticket : Bool)
  | cancel (ticket : UInt64)
  | start
  | stop
  /-- Another call of the provider takes its lock. -/
  | provider (call : Call)
  | work (input : Input)

def isLifecycle : Call → Bool
  | .start _ | .stop => true
  | _ => false

namespace World

def thread (world : World) (program : Run Finished) : Option (World × Option (Run Finished)) :=
  some ({ world with calls := world.calls + 1 }, some program)

def occur (botan : Botan) (event : Event) (world : World) : Option (World × Option (Run Finished)) :=
  match event with
  | .submit request ticket => world.thread do return .submitted (← submitAsync request ticket world.calls)
  | .cancel ticket => world.thread do
      let _ ← cancelAsync ticket
      return .other
  | .start => world.thread do
      let _ ← Async.start
      return .other
  | .stop => world.thread do
      Async.stop
      return .other
  | .provider call =>
      if world.terminated || world.starting || isLifecycle call then none
      else some ({ world with backend := (world.backend.call botan call).2 }, none)
  | .work input => if world.terminated then none else (world.work botan input).map fun later => (later, none)

end World

def machine (botan : Botan) : Machine Op Op.Reply Finished World Input Event where
  perform := World.perform botan
  occur := World.occur botan

abbrev JobPool := Pool Op Op.Reply Finished World

/-- A provider allows as many outstanding jobs as it has contexts. -/
def created (maxKeys maxContexts : UInt32) : Option JobPool :=
  (create maxKeys maxContexts).map fun backend => ⟨{ backend, maxOutstanding := maxContexts.toNat }, []⟩

end OpenVehicle.Crypto.Async
