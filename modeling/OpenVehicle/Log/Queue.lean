/-
This file models the runtime of the log: the functions that submit a record, the worker that dispatches the
records to the sink, and the function that stops both.
-/

import OpenVehicle.Concurrency.Machine
import OpenVehicle.Data.RingBuffer

namespace OpenVehicle.Log

open Concurrency (Machine Pool Program)
open Data (RingBuffer)

abbrev Byte := UInt8

inductive Level where
  | fatal
  | error
  | warning
  | info
  | debug
  | trace
  deriving DecidableEq, Repr

inductive WriteResult where
  | accepted
  | filtered
  | dropped
  | invalid
  | shuttingDown
  deriving DecidableEq, Repr

inductive Sensitivity where
  | publicValue
  | confidential
  | secret
  deriving DecidableEq, Repr

inductive RecordKind where
  | diagnostic
  | event
  deriving DecidableEq, Repr

/-- A floating value is its bit pattern. -/
inductive FieldValue where
  | boolean (value : Bool)
  | signedInteger (value : Int64)
  | unsignedInteger (value : UInt64)
  | floatingPoint (bits : UInt64)
  | text (bytes : List Byte)
  | binary (bytes : List Byte)
  deriving DecidableEq

structure Field where
  name : List Byte
  value : FieldValue
  sensitivity : Sensitivity := .publicValue
  deriving DecidableEq

structure Event where
  id : UInt32
  name : List Byte
  level : Level

structure Record where
  logger : List Byte := []
  text : List Byte := []
  fields : List Field := []
  wallTime : Int := 0
  monotonicTime : Int := 0
  sequence : UInt64 := 0
  eventId : UInt32 := 0
  level : Level := .info
  kind : RecordKind := .diagnostic
  deriving DecidableEq

structure RuntimeConfig where
  applicationName : List Byte
  queueCapacity : Nat := 4096
  criticalReserve : Nat := 64
  initialLevel : Level := .info

structure Health where
  accepted : UInt64 := 0
  filtered : UInt64 := 0
  dropped : UInt64 := 0
  invalid : UInt64 := 0
  bindingErrors : UInt64 := 0
  deriving DecidableEq

def maxLoggerName : Nat := 63

def maxEventName : Nat := 63

def maxDiagnosticMessage : Nat := 255

def maxFieldName : Nat := 31

def maxStringValue : Nat := 255

def maxBinaryValue : Nat := 256

def maxFields : Nat := 16

def isCritical (level : Level) : Bool := level == .fatal || level == .error

def Level.rank (level : Level) : Nat := level.ctorIdx

/-- A text and its terminator fit into an array of this size. -/
def copyText (size : Nat) (source : List Byte) : Option (List Byte) :=
  if source.isEmpty || source.length ≥ size then none else some source

def FieldValue.fits : FieldValue → Bool
  | .text bytes => bytes.length ≤ maxStringValue
  | .binary bytes => bytes.length ≤ maxBinaryValue
  | _ => true

def storeField (field : Field) : Option Field :=
  (copyText (maxFieldName + 1) field.name).bind fun name =>
    if field.value.fits then some { field with name } else none

inductive Op where
  | isRunning
  | enabled (level : Level)
  | countFiltered
  | countInvalid
  | nextSequence
  | now
  | offer (record : Record)
  | await (record : Record)
  | awaitEmpty
  | exchange
  | join
  | sinkFlush
  | sinkStop
  deriving DecidableEq

/-- An offer that must wait for space has no result yet. -/
abbrev Op.Reply : Op → Type
  | .isRunning | .enabled _ | .awaitEmpty | .exchange | .sinkFlush => Bool
  | .nextSequence => UInt64
  | .now => Int × Int
  | .offer _ => Option WriteResult
  | .await _ => WriteResult
  | _ => Unit

abbrev Run (A : Type) := Program Op Op.Reply A

def ask (op : Op) : Run op.Reply := Program.perform op

section Functions

variable (logger : List Byte)

/-- A record takes its sequence number before its fields are stored. -/
def build (kind : RecordKind) (eventId : UInt32) (text : List Byte) (level : Level)
    (fields : List Field) : Run (Option Record) :=
  if fields.length > maxFields then return none
  else
    match copyText (maxLoggerName + 1) logger, copyText (maxDiagnosticMessage + 1) text with
    | some logger, some text => do
        let sequence ← ask .nextSequence
        let times ← ask .now
        return (fields.mapM storeField).map fun fields =>
          { logger, text, fields, wallTime := times.1, monotonicTime := times.2, sequence, eventId, level, kind }
    | _, _ => return none

def countInvalid : Run WriteResult := do
  ask .countInvalid
  return .invalid

def submit (kind : RecordKind) (eventId : UInt32) (text : List Byte) (level : Level)
    (fields : List Field) : Run WriteResult := do
  let running ← ask .isRunning
  if !running then return .shuttingDown
  let enabled ← ask (.enabled level)
  if !enabled then
    ask .countFiltered
    return .filtered
  let built ← build logger kind eventId text level fields
  match built with
  | none => countInvalid
  | some record => do
      let offered ← ask (.offer record)
      match offered with
      | some result => return result
      | none => ask (.await record)

def submitEvent (event : Event) (fields : List Field) : Run WriteResult :=
  if event.id == 0 || event.name.isEmpty || event.name.length > maxEventName then countInvalid
  else submit logger .event event.id event.name event.level fields

def submitDiagnostic (level : Level) (message : List Byte) (fields : List Field) :
    Run WriteResult :=
  if message.isEmpty || message.length > maxDiagnosticMessage then countInvalid
  else submit logger .diagnostic 0 message level fields

def flush : Run Bool := do
  let empty ← ask .awaitEmpty
  if empty then ask .sinkFlush else return false

/-- Only the first call stops the runtime. It returns after the worker. -/
def stop : Run Unit := do
  let first ← ask .exchange
  if first then
    ask .join
    let _ ← ask .sinkFlush
    ask .sinkStop
  else return ()

end Functions

/-- The worker waits for a record, writes it to the sink, and then reports the end of the dispatch. -/
inductive Worker where
  | waiting
  | writing (record : Record)
  | written
  | finished
  deriving DecidableEq

/-- The record that the worker has taken from the queue and not yet written. -/
def Worker.inDispatch : Worker → List Record
  | .writing record => [record]
  | _ => []

def Worker.dispatching : Worker → Bool
  | .writing _ | .written => true
  | _ => false

/-- The state of the runtime, with the records that were accepted and the records that the sink was given. -/
structure World where
  config : RuntimeConfig
  queue : RingBuffer Record
  running : Bool := false
  level : Level := config.initialLevel
  sequence : UInt64 := 0
  health : Health := {}
  worker : Worker := .waiting
  sinkStopped : Bool := false
  history : List Record := []
  delivered : List Record := []

/-- The environment supplies the clocks, the end of a wait, and the answers of the sink. -/
structure Input where
  wallTime : Int := 0
  monotonicTime : Int := 0
  timedOut : Bool := false
  flushed : Bool := true

namespace World

/-- The slots of the queue that a record of this level may use. -/
def usable (level : Level) (world : World) : Nat :=
  if isCritical level then world.queue.capacity else world.queue.capacity - world.config.criticalReserve

def drop (world : World) : WriteResult × World :=
  (.dropped, { world with health := { world.health with dropped := world.health.dropped + 1 } })

variable (record : Record)

/-- The locked part of a submission after the wait for space. -/
def enqueue (world : World) : WriteResult × World :=
  if !world.running then (.shuttingDown, world)
  else (.accepted, { world with
    queue := world.queue.push record
    health := { world.health with accepted := world.health.accepted + 1 }
    history := world.history ++ [record] })

/-- Only a critical record waits for space. -/
def offer (world : World) : Option WriteResult × World :=
  if world.queue.count ≥ world.usable record.level then
    if !isCritical record.level then (some world.drop.1, world.drop.2)
    else if !world.running then (some .shuttingDown, world)
    else (none, world)
  else (some (world.enqueue record).1, (world.enqueue record).2)

/-- A wait ends with space, with the stop of the runtime, or with its time. -/
def await (timedOut : Bool) (world : World) : Option (WriteResult × World) :=
  if world.queue.count < world.queue.capacity || !world.running then some (world.enqueue record)
  else if timedOut then some world.drop
  else none

def perform (op : Op) (input : Input) (world : World) : Option (op.Reply × World) :=
  match op with
  | .isRunning => some (world.running, world)
  | .enabled level => some (decide (level.rank ≤ world.level.rank), world)
  | .countFiltered =>
      some ((), { world with health := { world.health with filtered := world.health.filtered + 1 } })
  | .countInvalid =>
      some ((), { world with health := { world.health with invalid := world.health.invalid + 1 } })
  | .nextSequence => some (world.sequence + 1, { world with sequence := world.sequence + 1 })
  | .now => some ((input.wallTime, input.monotonicTime), world)
  | .offer record => some (world.offer record)
  | .await record => world.await record input.timedOut
  | .awaitEmpty =>
      if world.queue.count = 0 ∧ world.worker.dispatching = false then some (true, world)
      else if input.timedOut then some (false, world)
      else none
  | .exchange => some (world.running, { world with running := false })
  | .join => if world.worker = .finished then some ((), world) else none
  | .sinkFlush => some (input.flushed, world)
  | .sinkStop => some ((), { world with sinkStopped := true })

/-- The locked part of a dispatch. The worker leaves when the runtime has stopped and the queue is empty. -/
def take (world : World) : Option World :=
  if world.queue.count = 0 then
    if world.running then none else some { world with worker := .finished }
  else world.queue.pop.map fun taken => { world with queue := taken.2, worker := .writing taken.1 }

def write (written : Bool) (world : World) : World :=
  { world with
    worker := .written
    delivered := world.delivered ++ [record]
    health := if written then world.health
      else { world.health with bindingErrors := world.health.bindingErrors + 1 } }

/-- One step of the worker. The sink tells whether it has written the record. -/
def dispatch (written : Bool) (world : World) : Option World :=
  match world.worker with
  | .waiting => world.take
  | .writing record => some (world.write record written)
  | .written => some { world with worker := .waiting }
  | .finished => none

end World

/-- What a finished thread has returned. -/
inductive Finished where
  | submitted (result : WriteResult)
  | other
  deriving DecidableEq

inductive Call where
  | submit (logger : List Byte) (kind : RecordKind) (eventId : UInt32) (text : List Byte) (level : Level)
      (fields : List Field)
  | submitEvent (logger : List Byte) (event : Event) (fields : List Field)
  | submitDiagnostic (logger : List Byte) (level : Level) (message : List Byte) (fields : List Field)
  | setLevel (level : Level)
  | flush
  | stop
  | dispatch (written : Bool)

def World.occur (call : Call) (world : World) : Option (World × Option (Run Finished)) :=
  match call with
  | .submit logger kind eventId text level fields =>
      some (world, some (do return .submitted (← submit logger kind eventId text level fields)))
  | .submitEvent logger event fields =>
      some (world, some (do return .submitted (← submitEvent logger event fields)))
  | .submitDiagnostic logger level message fields =>
      some (world, some (do return .submitted (← submitDiagnostic logger level message fields)))
  | .setLevel level => some ({ world with level }, none)
  | .flush => some (world, some (do let _ ← flush; return .other))
  | .stop => some (world, some (do let _ ← stop; return .other))
  | .dispatch written => (world.dispatch written).map fun later => (later, none)

def machine : Machine Op Op.Reply Finished World Input Call where
  perform := World.perform
  occur := World.occur

abbrev LogPool := Pool Op Op.Reply Finished World

/-- A runtime starts with an empty queue when its configuration is valid and its sink has started. -/
def start (config : RuntimeConfig) (sinkStarted : Bool) : Option World :=
  if config.applicationName.isEmpty || config.applicationName.length > maxLoggerName ||
      config.queueCapacity == 0 || config.criticalReserve ≥ config.queueCapacity || !sinkStarted then none
  else some { config, queue := ⟨List.replicate config.queueCapacity {}, 0, 0, 0⟩, running := true }

def started (world : World) : LogPool := ⟨world, []⟩

end OpenVehicle.Log
