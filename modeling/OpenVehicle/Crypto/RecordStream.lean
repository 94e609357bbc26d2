/-
This file models one stream of encrypted records as the runtime uses it: the runtime asks for the size of an
output first and for the output then.
-/

import OpenVehicle.Crypto.Handles

namespace OpenVehicle.Crypto

open Data (SlotTable)

/-- A record stream has the state of its slot. A closed stream has none. -/
abbrev RecordStream := Option AeadRecordState

def processCall (botan : Botan) (input : BytesView) (output : Option Buffer) (stream : RecordStream) :
    Reply × RecordStream :=
  match stream, acceptable input, output with
  | some state, some input, some buffer =>
      let step := state.process botan input buffer
      (step.reply, step.state)
  | _, _, _ => ({ status := .invalidArgument }, stream)

def maximumOutputSize : Nat := 64 * 1024 * 1024

def Output.size : Output → Nat
  | .bytes written => written.length
  | .required size => size
  | _ => 0

/-- The answer of the second call must fit into the vector. -/
def written {S : Type} (size : Nat) (result : Reply × S) : Except Status (List Byte) × S :=
  match result.1 with
  | ⟨.ok, .bytes bytes⟩ =>
      if bytes.length > size then (.error .incompatibleAbi, result.2) else (.ok bytes, result.2)
  | ⟨.ok, output⟩ => if output.size > size then (.error .incompatibleAbi, result.2) else (.ok [], result.2)
  | ⟨status, _⟩ => (.error status, result.2)

/-- The first call asks for the size. An empty vector has no data for the second call. -/
def variableOutput {S : Type} (operation : Buffer → S → Reply × S) (state : S) : Except Status (List Byte) × S :=
  let first := operation ⟨false, 0⟩ state
  if first.1.status ≠ .bufferTooSmall ∧ first.1.status ≠ .ok then (.error first.1.status, first.2)
  else if first.1.output.size > maximumOutputSize then (.error .resourceExhausted, first.2)
  else
    written first.1.output.size (operation ⟨first.1.output.size != 0, first.1.output.size⟩ first.2)

theorem variableOutput_eq {S : Type} {operation : Buffer → S → Reply × S} {state : S} {size : Nat}
    (asked : operation ⟨false, 0⟩ state = ({ status := .bufferTooSmall, output := .required size }, state))
    (small : size ≤ maximumOutputSize) :
    variableOutput operation state = written size (operation ⟨size != 0, size⟩ state) := by
  have bounded : ¬size > maximumOutputSize := Nat.not_lt.mpr small
  simp [variableOutput, asked, Output.size, bounded]

/-- A call that is refused at once ends the request. -/
theorem variableOutput_refused {S : Type} {operation : Buffer → S → Reply × S} {state later : S} {reply : Reply}
    (asked : operation ⟨false, 0⟩ state = (reply, later)) (other : reply.status ≠ .bufferTooSmall)
    (refused : reply.status ≠ .ok) : variableOutput operation state = (.error reply.status, later) := by
  simp [variableOutput, asked, other, refused]

def RecordStream.process (botan : Botan) (record : List Byte) (stream : RecordStream) :
    Except Status (List Byte) × RecordStream :=
  if record.isEmpty then (.error .invalidState, stream)
  else variableOutput (fun buffer => processCall botan (some record) (some buffer)) stream

/-- The answers to a list of records, and the stream after it. -/
def RecordStream.feed (botan : Botan) :
    List (List Byte) → RecordStream → List (Except Status (List Byte)) × RecordStream
  | [], stream => ([], stream)
  | record :: records, stream =>
      let answer := stream.process botan record
      let rest := feed botan records answer.2
      (answer.1 :: rest.1, rest.2)

section Provider
variable {botan : Botan} {backend : Backend} {handle : Nat}

/-- The record stream that a handle resolves to. -/
def Backend.recordStream (handle : Nat) (backend : Backend) : RecordStream := (backend.findStream handle).bind (·.aead)

theorem findStream_modify {change : StreamEntry → StreamEntry} {later : Backend}
    (streams : later.streams = backend.streams.modify (SlotTable.index handle) change) :
    later.findStream handle = (backend.findStream handle).map change := by
  unfold Backend.findStream
  rw [streams, SlotTable.find_modify, Option.map_map, Option.map_map]
  rfl

/-- A call of the provider for a record acts on the stream of the handle. -/
theorem processRecord_eq (running : backend.running = true) (input : BytesView) (output : Option Buffer) :
    (backend.processRecord botan handle input output).1 =
    (processCall botan input output (backend.recordStream handle)).1 ∧
      (backend.processRecord botan handle input output).2.recordStream handle =
        (processCall botan input output (backend.recordStream handle)).2 := by
  unfold Backend.processRecord processCall
  cases found : backend.recordStream handle with
  | none =>
      rw [Backend.recordStream] at found
      rw [found]
      exact ⟨rfl, found⟩
  | some state =>
      obtain ⟨stream, here, known⟩ := Option.bind_eq_some_iff.mp found
      rw [here, Option.bind_some, known]
      cases acceptable input with
      | none => exact ⟨rfl, found⟩
      | some record =>
          cases output with
          | none => exact ⟨rfl, found⟩
          | some buffer =>
              rw [running]
              simp only [Bool.not_true, Bool.false_eq_true, if_false, Backend.applyRecord]
              cases stepped : (state.process botan record buffer).state with
              | none =>
                  refine ⟨rfl, ?_⟩
                  simp only [Backend.recordStream, Backend.findStream, Backend.releaseStream, SlotTable.find_release]
                  rfl
              | some later =>
                  refine ⟨rfl, ?_⟩
                  rw [Backend.recordStream,
                    @findStream_modify backend handle (fun stream => { stream with aead := some later }) _ rfl, here]
                  rfl

/-- A new record stream has the nonce and the associated data of its descriptor, and the first sequence number. -/
theorem openRecords_recordStream {issued : SlotTable.Issued} (sound : backend.streams.Sound issued)
    {descriptor : StreamDescriptor} {encrypt : Bool}
    (opened : (backend.openRecords descriptor encrypt).1 = { status := .ok, output := .handle handle }) :
    ∃ secret nonce associatedData, descriptor.aead.nonce = some nonce ∧ nonce.length = 12 ∧
      descriptor.aead.associatedData = some associatedData ∧
      (backend.openRecords descriptor encrypt).2.recordStream handle = some
        { algorithm := descriptor.algorithm, key := secret, baseNonce := nonce, associatedData, encrypt } := by
  unfold Backend.openRecords at opened ⊢
  split at opened
  · rename_i secret nonce associatedData _ given data
    split at opened
    · cases opened
    · rename_i accepted
      rw [given, data, if_neg accepted]
      simp only [Bool.or_eq_true, decide_eq_true_eq, not_or, not_not] at accepted
      refine ⟨secret, nonce, associatedData, rfl, accepted.1.2, rfl, ?_⟩
      unfold Backend.storeStream at opened ⊢
      split at opened
      · rename_i stored streams inserted
        cases opened
        rw [Backend.recordStream, Backend.findStream, sound.find_insert inserted]
        rfl
      · cases opened
  · cases opened

end Provider

end OpenVehicle.Crypto
