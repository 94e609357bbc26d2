/-
This file models the streams of the cryptographic provider, the streams of encrypted records among them.
-/

import OpenVehicle.Crypto.Backend

namespace OpenVehicle.Crypto

open Data (SlotTable)

def maximumRecordSize : Nat := 1024 * 1024

def tagSize : Nat := 16

def bigEndian (value : UInt64) : List Byte :=
  ([56, 48, 40, 32, 24, 16, 8, 0] : List UInt64).map fun shift => (value >>> shift).toUInt8

namespace AeadRecordState

/-- The sequence changes the last eight bytes of the base nonce. -/
def nonce (state : AeadRecordState) : List Byte :=
  state.baseNonce.mapIdx fun position byte =>
    let index := state.baseNonce.length - 1 - position
    if index < 8 then byte ^^^ (state.sequence >>> (8 * index).toUInt64).toUInt8 else byte

def recordData (plaintextSize : Nat) (state : AeadRecordState) : List Byte :=
  state.associatedData ++ bigEndian state.sequence ++ bigEndian (UInt64.ofNat plaintextSize)

/-- After its last sequence number, a stream has no state. -/
def advance (state : AeadRecordState) : Option AeadRecordState :=
  if state.sequence = UInt64.ofNat (2 ^ 64 - 1) then none else some { state with sequence := state.sequence + 1 }

/-- A record gives a reply and the next state. A stream without a state is released. -/
structure Step where
  reply : Reply
  message : Option String := none
  state : Option AeadRecordState

def refuse (status : Status) (message : String) (state : Option AeadRecordState) : Step :=
  ⟨{ status }, some message, state⟩

def plaintextSize (input : List Byte) (state : AeadRecordState) : Nat :=
  if state.encrypt then input.length else input.length - tagSize

def requiredSize (input : List Byte) (state : AeadRecordState) : Nat :=
  if state.encrypt then input.length + tagSize else state.plaintextSize input

def transform (botan : Botan) (input : List Byte) (state : AeadRecordState) : Throws (List Byte) :=
  botan.cipher ((cipherName state.algorithm).getD "") state.encrypt state.key
    (state.recordData (state.plaintextSize input)) state.nonce input

/-- A record that is refused before the cipher starts leaves the stream as it is. -/
def refusal (input : List Byte) (output : Buffer) (state : AeadRecordState) : Option Step :=
  if !state.encrypt && input.length < tagSize then
    some (refuse .invalidArgument "encrypted record is truncated" (some state))
  else if !output.present || output.size < state.requiredSize input then
    some ⟨{ status := .bufferTooSmall, output := .required (state.requiredSize input) }, none, some state⟩
  else none

def process (botan : Botan) (input : List Byte) (output : Buffer) (state : AeadRecordState) : Step :=
  match state.refusal input output with
  | some step => step
  | none =>
      match state.transform botan input with
      | .error (.integrityFailure what) => refuse .authenticationFailed what none
      | .error exception => refuse .backendError exception.what none
      | .ok buffer =>
          if buffer.length ≠ state.requiredSize input then
            refuse .backendError "AEAD provider returned an unexpected record size" none
          else ⟨{ status := .ok, output := .bytes buffer }, none, state.advance⟩

/-- A refused record keeps the state. -/
theorem refusal_state {input : List Byte} {output : Buffer} {state : AeadRecordState} {step : Step}
    (refused : state.refusal input output = some step) : step.state = some state ∧ step.reply.status ≠ .ok := by
  unfold refusal at refused
  split at refused
  · cases refused
    exact ⟨rfl, nofun⟩
  · split at refused
    · cases refused
      exact ⟨rfl, nofun⟩
    · cases refused

end AeadRecordState

/-- The record of a call has a size that both directions allow. -/
def acceptable (input : BytesView) : Option (List Byte) :=
  input.filter fun input => !input.isEmpty && input.length ≤ maximumRecordSize + tagSize

namespace Backend

def findStream (handle : Nat) (backend : Backend) : Option StreamEntry := (backend.streams.find handle).map (·.value)

def storeStream (entry : StreamEntry) (backend : Backend) : Reply × Backend :=
  match backend.streams.insert entry with
  | some (handle, streams) => ({ status := .ok, output := .handle handle }, { backend with streams })
  | none => backend.fail .resourceExhausted "stream capacity is exhausted"

/-- The primitive of a library may refuse its key. -/
def openPrimitive (opened : Throws Unit) (operation : StreamOperation) (primitive : StreamPrimitive)
    (backend : Backend) : Reply × Backend :=
  match opened with
  | .error exception => backend.botanFailure exception
  | .ok () => backend.storeStream { operation, primitive := some primitive }

def openRecords (descriptor : StreamDescriptor) (encrypt : Bool) (backend : Backend) : Reply × Backend :=
  let refused := backend.fail .permissionDenied "AEAD record stream request or key policy is invalid"
  match backend.aeadSecret descriptor.algorithm descriptor.key encrypt, descriptor.aead.nonce,
      descriptor.aead.associatedData with
  | some (_, secret), some nonce, some associatedData =>
      if descriptor.aead.structSize < 48 || nonce.length ≠ 12 || descriptor.aead.tagSize ≠ 16 then refused
      else backend.storeStream
        { operation := descriptor.operation
          aead := some
            { algorithm := descriptor.algorithm, key := secret, baseNonce := nonce, associatedData, encrypt } }
  | _, _, _ => refused

variable (botan : Botan)

def createStream (descriptor : Option StreamDescriptor) (output : Bool) (backend : Backend) :
    Reply × Backend :=
  match descriptor with
  | none => backend.fail .invalidArgument "invalid stream request"
  | some descriptor =>
      if !backend.running || descriptor.structSize < 80 || !output then
        backend.fail .invalidArgument "invalid stream request"
      else
        match descriptor.operation with
        | .hash =>
            match hashName descriptor.algorithm with
            | some name =>
                if descriptor.key ≠ 0 then backend.fail .invalidArgument "invalid hash stream"
                else backend.openPrimitive (.ok ()) .hash (.hash name)
            | none => backend.fail .invalidArgument "invalid hash stream"
        | .mac =>
            match backend.macSecret descriptor.algorithm descriptor.key with
            | some secret => backend.openPrimitive (botan.setMacKey secret) .mac (.mac secret)
            | none => backend.fail .permissionDenied "MAC stream key policy rejected the request"
        | .sign =>
            match backend.signingKey descriptor.algorithm descriptor.key with
            | some (padding, key) => backend.openPrimitive (botan.signer key padding) .sign (.signer key padding)
            | none => backend.fail .permissionDenied "sign stream key policy rejected the request"
        | .verify =>
            match backend.verificationEntry descriptor.algorithm descriptor.key with
            | none => backend.fail .permissionDenied "verify stream key policy rejected the request"
            | some (padding, entry) =>
                match publicComponent botan entry with
                | none => backend.fail .permissionDenied "verification key has no public component"
                | some key => backend.openPrimitive (botan.verifier key padding) .verify (.verifier key padding)
        | .aeadEncryptRecords => backend.openRecords descriptor true
        | .aeadDecryptRecords => backend.openRecords descriptor false
        | .other => backend.fail .unsupported "unsupported stream operation"

def updateStream (updated : Throws Unit) (handle : Nat) (input : BytesView) (backend : Backend) : Reply × Backend :=
  match backend.findStream handle, input with
  | some stream, some input =>
      if !backend.running || input.length > maximumOperationSize || stream.aead.isSome then
        backend.fail .invalidArgument "invalid stream update"
      else
        match updated with
        | .error exception => backend.botanFailure exception
        | .ok () =>
            ({ status := .ok }, { backend with
              streams := backend.streams.modify (SlotTable.index handle) fun stream =>
                { stream with input := stream.input ++ input } })
  | _, _ => backend.fail .invalidArgument "invalid stream update"

def releaseStream (handle : Nat) (backend : Backend) : Backend :=
  { backend with streams := backend.streams.release (SlotTable.index handle) }

/-- The size of the output of a primitive, and the output itself. -/
def finalize (entropy : Entropy) (input : List Byte) : StreamPrimitive → Nat × Throws (List Byte)
  | .hash name => (botan.hashLength name, botan.hash name input)
  | .mac key => (32, botan.mac key input)
  | .signer key padding =>
      (botan.signatureLength key padding, entropy.bind (botan.signature key padding input))
  | .verifier _ _ => (0, .error (.other ""))

def finishVerifier (handle : Nat) (stream : StreamEntry) (signature : List Byte) (output valid : Bool)
    (backend : Backend) : Reply × Backend :=
  if output || !valid || signature.isEmpty then backend.fail .invalidArgument "invalid verify finalization"
  else
    match stream.primitive with
    | some (.verifier key padding) =>
        match botan.verify key padding stream.input signature with
        | .error exception => (backend.releaseStream handle).botanFailure exception
        | .ok verdict => ({ status := .ok, output := .valid verdict }, backend.releaseStream handle)
    | _ => (backend.releaseStream handle).botanFailure (.other "std::get: wrong index for variant")

def finishPrimitive (entropy : Entropy) (handle : Nat) (stream : StreamEntry)
    (terminalInput : List Byte) (output : Option Buffer) (valid : Bool) (backend : Backend) : Reply × Backend :=
  match output, stream.primitive with
  | some buffer, some primitive =>
      if valid || !terminalInput.isEmpty then backend.fail .invalidArgument "invalid stream output request"
      else
        let final := finalize botan entropy stream.input primitive
        if !buffer.present || buffer.size < final.1 then
          ({ status := .bufferTooSmall, output := .required final.1 }, backend)
        else
          match final.2 with
          | .error exception => (backend.releaseStream handle).botanFailure exception
          | .ok result =>
              let reply := writeOutput output result
              if reply.status = .ok then (reply, backend.releaseStream handle)
              else (reply, { backend with
                streams := backend.streams.modify (SlotTable.index handle) fun stream => { stream with input := [] } })
  | _, _ => backend.fail .invalidArgument "invalid stream output request"

def finishStream (handle : Nat) (terminalInput : BytesView) (output : Option Buffer) (valid : Bool)
    (entropy : Entropy) (backend : Backend) : Reply × Backend :=
  match backend.findStream handle, terminalInput with
  | some stream, some terminalInput =>
      if !backend.running then backend.fail .invalidArgument "invalid stream finalization"
      else if stream.aead.isSome then
        backend.fail .invalidState "AEAD record streams are closed rather than finalized"
      else if stream.operation = .verify then
        backend.finishVerifier botan handle stream terminalInput output.isSome valid
      else backend.finishPrimitive botan entropy handle stream terminalInput output valid
  | _, _ => backend.fail .invalidArgument "invalid stream finalization"

def destroyStream (handle : Nat) (backend : Backend) : Reply × Backend :=
  match backend.streams.find handle with
  | none => backend.fail .notFound "stream handle is stale or unknown"
  | some _ => ({ status := .ok }, backend.releaseStream handle)

/-- The slot of a stream keeps the next state, or it is released with the state. -/
def applyRecord (handle : Nat) (step : AeadRecordState.Step) (backend : Backend) : Reply × Backend :=
  let noted := { backend with lastError := step.message.getD backend.lastError }
  match step.state with
  | none => (step.reply, noted.releaseStream handle)
  | some state =>
      (step.reply, { noted with
        streams := backend.streams.modify (SlotTable.index handle) fun stream => { stream with aead := some state } })

def processRecord (handle : Nat) (input : BytesView) (output : Option Buffer) (backend : Backend) :
    Reply × Backend :=
  match (backend.findStream handle).bind (·.aead), acceptable input, output with
  | some state, some input, some buffer =>
      if !backend.running then backend.fail .invalidArgument "invalid AEAD record"
      else backend.applyRecord handle (state.process botan input buffer)
  | _, _, _ => backend.fail .invalidArgument "invalid AEAD record"

end Backend

end OpenVehicle.Crypto
