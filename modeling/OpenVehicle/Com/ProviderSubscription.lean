/-
This file models the subscription of the binding to a provider. The functions of the subscription run in
different threads, and its mutex makes each of their locked sections one operation.
-/

import OpenVehicle.Com.Transport
import OpenVehicle.Concurrency.Machine

namespace OpenVehicle.Com

open Codec (Byte)
open Concurrency (Machine Pool Program)

inductive SubscriptionState where
  | requested | active | rejected | suspended | withdrawn
  deriving DecidableEq, Repr

/-- A callback of the user is known by its number. -/
abbrev Callback := Nat

structure Sample where
  payload : List Byte
  providerLoan : Handle
  deriving DecidableEq, Repr

/-- The arguments of a callback. -/
inductive Notice where
  | sample (payload : List Byte)
  | state (state : SubscriptionState) (error : Option Error)
  deriving DecidableEq, Repr

def Notice.isWithdrawn : Notice → Bool
  | .state .withdrawn _ => true
  | _ => false

structure ProviderSubscription where
  subscription : Handle
  endpoint : Handle
  callback : Option Callback := none
  stateCallback : Option Callback := none
  state : Option (SubscriptionState × Status) := none
  inFlight : Nat := 0
  closed : Bool := false
  deriving DecidableEq, Repr

/-- What a closing thread takes out of the subscription. -/
structure Closing where
  subscription : Handle
  endpoint : Handle
  stateCallback : Option Callback
  quiescent : Bool
  deriving DecidableEq, Repr

/-- The function that calls the user. -/
inductive Caller where
  | onSample | onState | setStateCallback | close
  deriving DecidableEq, Repr

inductive SubscriptionOp where
  | setCallback (callback : Option Callback)
  | setStateCallback (callback : Option Callback)
  | close
  /-- The condition variable wakes the closing thread when no callback is in flight. -/
  | awaitQuiescent
  | enterState (state : SubscriptionState) (reason : Status)
  | enterSample
  | finishDispatch
  | beginCallback (caller : Caller) (callback : Callback) (notice : Notice)
  | endCallback (caller : Caller)
  | loanRelease (loan : Handle)
  | unsubscribe (subscription : Handle)
  | endpointDestroy (endpoint : Handle)
  deriving DecidableEq, Repr

namespace SubscriptionOp

/-- A closed subscription admits no callback. -/
abbrev Reply : SubscriptionOp → Type
  | .setStateCallback _ => Option (SubscriptionState × Status)
  | .close => Closing
  | .enterState _ _ | .enterSample => Option (Option Callback)
  | _ => Unit

end SubscriptionOp

/-- The function that a finished thread has executed. -/
inductive Finished where
  | close
  | onSample (sample : Option Sample)
  | other
  deriving DecidableEq, Repr

abbrev SubscriptionProgram (A : Type) := Program SubscriptionOp SubscriptionOp.Reply A

namespace ProviderSubscription
open SubscriptionOp

def ask (op : SubscriptionOp) : SubscriptionProgram op.Reply := Program.perform op

def call (caller : Caller) (callback : Option Callback) (notice : Notice) : SubscriptionProgram Unit :=
  match callback with
  | none => pure ()
  | some callback => do
      ask (.beginCallback caller callback notice)
      ask (.endCallback caller)

def errorOf (reason : Status) : Option Error := if reason = .ok then none else some (mapStatus reason)

def setCallback (callback : Option Callback) : SubscriptionProgram Finished := do
  ask (.setCallback callback)
  return .other

/-- The current state is replayed outside the lock. -/
def setStateCallback (callback : Option Callback) : SubscriptionProgram Finished := do
  let state ← ask (.setStateCallback callback)
  match state with
  | none => return .other
  | some (state, reason) => do
      call .setStateCallback callback (.state state (errorOf reason))
      return .other

def unsubscribe (subscription : Handle) : SubscriptionProgram Unit :=
  if subscription = 0 then pure () else ask (.unsubscribe subscription)

def endpointDestroy (endpoint : Handle) : SubscriptionProgram Unit :=
  if endpoint = 0 then pure () else ask (.endpointDestroy endpoint)

def close : SubscriptionProgram Finished := do
  let closing ← ask .close
  if closing.quiescent then pure () else ask .awaitQuiescent
  call .close (if closing.subscription = 0 then none else closing.stateCallback) (.state .withdrawn none)
  unsubscribe closing.subscription
  endpointDestroy closing.endpoint
  return .close

def onState (state : SubscriptionState) (reason : Status) : SubscriptionProgram Finished := do
  let callback ← ask (.enterState state reason)
  match callback with
  | none => return .other
  | some callback => do
      call .onState callback (.state state (errorOf reason))
      ask .finishDispatch
      return .other

def release (sample : Option Sample) : SubscriptionProgram Unit :=
  match sample with
  | none => pure ()
  | some sample => if sample.providerLoan = 0 then pure () else ask (.loanRelease sample.providerLoan)

def onSample (sample : Option Sample) : SubscriptionProgram Finished := do
  let callback ← ask .enterSample
  match callback with
  | none => do
      release sample
      return .onSample sample
  | some callback => do
      match sample with
      | none => pure ()
      | some sample => call .onSample callback (.sample sample.payload)
      release sample
      ask .finishDispatch
      return .onSample sample

end ProviderSubscription

/-- The last three fields record what the user and the provider have seen. -/
structure SubscriptionWorld where
  object : ProviderSubscription
  delivered : List Notice := []
  handed : List Handle := []
  released : List Handle := []
  deriving DecidableEq, Repr

/-- The calls of the user and of the provider. -/
inductive SubscriptionEvent where
  | setCallback (callback : Option Callback)
  | setStateCallback (callback : Option Callback)
  | close
  | onState (state : SubscriptionState) (reason : Status)
  | onSample (sample : Option Sample)

namespace SubscriptionWorld

/-- A sample that is handed over as a loan has a valid handle. -/
def loanOf (sample : Option Sample) : List Handle :=
  match sample with
  | none => []
  | some sample => if sample.providerLoan = 0 then [] else [sample.providerLoan]

def perform (op : SubscriptionOp) (world : SubscriptionWorld) : Option (op.Reply × SubscriptionWorld) :=
  let object := world.object
  match op with
  | .setCallback callback => some ((), { world with object := { object with callback := callback } })
  | .setStateCallback callback =>
      some (object.state, { world with object := { object with stateCallback := callback } })
  | .close => some (⟨object.subscription, object.endpoint, object.stateCallback, object.inFlight = 0⟩,
      { world with object := { object with
          subscription := 0, endpoint := 0, callback := none, stateCallback := none, closed := true } })
  | .awaitQuiescent => if object.inFlight = 0 then some ((), world) else none
  | .enterState state reason =>
      let object := { object with state := some (state, reason) }
      if object.closed then some (none, { world with object := object })
      else some (some object.stateCallback, { world with object := { object with inFlight := object.inFlight + 1 } })
  | .enterSample =>
      if object.closed then some (none, world)
      else some (some object.callback, { world with object := { object with inFlight := object.inFlight + 1 } })
  | .finishDispatch => some ((), { world with object := { object with inFlight := object.inFlight - 1 } })
  | .beginCallback _ _ notice => some ((), { world with delivered := world.delivered ++ [notice] })
  | .endCallback _ => some ((), world)
  | .loanRelease loan => some ((), { world with released := world.released ++ [loan] })
  | .unsubscribe _ => some ((), world)
  | .endpointDestroy _ => some ((), world)

def occur (event : SubscriptionEvent) (world : SubscriptionWorld) : SubscriptionWorld × SubscriptionProgram Finished :=
  match event with
  | .setCallback callback => (world, ProviderSubscription.setCallback callback)
  | .setStateCallback callback => (world, ProviderSubscription.setStateCallback callback)
  | .close => (world, ProviderSubscription.close)
  | .onState state reason => (world, ProviderSubscription.onState state reason)
  | .onSample sample => ({ world with handed := world.handed ++ loanOf sample }, ProviderSubscription.onSample sample)

end SubscriptionWorld

abbrev SubscriptionPool := Pool SubscriptionOp SubscriptionOp.Reply Finished SubscriptionWorld

abbrev SubscriptionChoice := Concurrency.Choice Unit SubscriptionEvent

/-- The threads of the user and of the provider work on one subscription. -/
def subscriptionMachine :
    Machine SubscriptionOp SubscriptionOp.Reply Finished SubscriptionWorld Unit SubscriptionEvent where
  perform op _ world := world.perform op
  occur event world := some ((world.occur event).1, some (world.occur event).2)

/-- A subscription that the provider has accepted has no callback yet. -/
def subscribed (subscription endpoint : Handle) : SubscriptionPool where
  shared := { object := { subscription, endpoint } }
  threads := []

end OpenVehicle.Com
