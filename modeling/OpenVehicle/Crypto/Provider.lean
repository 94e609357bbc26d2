/-
This file defines the calls of the cryptographic provider and proves what each call does to the tables.
-/

import OpenVehicle.Crypto.KeyMaterial

namespace OpenVehicle.Crypto

open Data (SlotTable Occupant)
open Backend (complete loadKey generatedKey certificateName publicComponent)

inductive Call where
  | start (failure : Option String)
  | stop
  | importKey (descriptor : Option KeyDescriptor) (format : KeyFormat) (material : BytesView) (output : Bool)
  | generateKey (descriptor : Option KeyDescriptor) (output : Bool) (entropy : Entropy)
  | destroyKey (handle : Nat)
  | mac (algorithm : Algorithm) (handle : Nat) (input : BytesView) (output : Option Buffer)
  | aead (algorithm : Algorithm) (handle : Nat) (parameters : Option AeadParameters) (input : BytesView)
      (output : Option Buffer) (encrypt : Bool)
  | sign (algorithm : Algorithm) (handle : Nat) (message : BytesView) (output : Option Buffer) (entropy : Entropy)
  | verify (algorithm : Algorithm) (handle : Nat) (message signature : BytesView) (valid : Bool)
  | derive (algorithm : Algorithm) (handle : Nat) (salt info : BytesView) (output : Option Buffer)
  | publicValue (handle : Nat) (output : Option Buffer)
  | agree (algorithm : Algorithm) (handle : Nat) (peer salt : BytesView) (derivedKey : Option KeyDescriptor)
      (output : Bool)
  | validateCertificate (request : Option CertificateRequest) (output : Option Nat)
  | importCertificateKey (request : Option CertificateRequest) (descriptor : Option KeyDescriptor)
      (validation : Option Nat) (output : Bool)
  | createStream (descriptor : Option StreamDescriptor) (output : Bool)
  | updateStream (updated : Throws Unit) (handle : Nat) (input : BytesView)
  | finishStream (handle : Nat) (terminalInput : BytesView) (output : Option Buffer) (valid : Bool)
      (entropy : Entropy)
  | destroyStream (handle : Nat)
  | processRecord (handle : Nat) (input : BytesView) (output : Option Buffer)

def Backend.call (botan : Botan) : Call → Backend → Reply × Backend
  | .start failure => Backend.start failure
  | .stop => fun backend => ({ status := .ok }, backend.stop)
  | .importKey descriptor format material output => Backend.importKey botan descriptor format material output
  | .generateKey descriptor output entropy => Backend.generateKey botan descriptor output entropy
  | .destroyKey handle => Backend.destroyKey handle
  | .mac algorithm handle input output => Backend.mac botan algorithm handle input output
  | .aead algorithm handle parameters input output encrypt =>
      Backend.aead botan algorithm handle parameters input output encrypt
  | .sign algorithm handle message output entropy => Backend.sign botan algorithm handle message output entropy
  | .verify algorithm handle message signature valid =>
      Backend.verify botan algorithm handle message signature valid
  | .derive algorithm handle salt info output => Backend.derive botan algorithm handle salt info output
  | .publicValue handle output => Backend.publicValue botan handle output
  | .agree algorithm handle peer salt derivedKey output =>
      Backend.agree botan algorithm handle peer salt derivedKey output
  | .validateCertificate request output => Backend.validateCertificate botan request output
  | .importCertificateKey request descriptor validation output =>
      Backend.validateAndImportCertificatePublicKey botan request descriptor validation output
  | .createStream descriptor output => Backend.createStream botan descriptor output
  | .updateStream updated handle input => Backend.updateStream updated handle input
  | .finishStream handle terminalInput output valid entropy =>
      Backend.finishStream botan handle terminalInput output valid entropy
  | .destroyStream handle => Backend.destroyStream handle
  | .processRecord handle input output => Backend.processRecord botan handle input output

/-- The calls that return the handle of a key or of a stream. -/
def Call.makesKey : Call → Bool
  | .importKey _ _ _ _ | .generateKey _ _ _ | .agree _ _ _ _ _ _ | .importCertificateKey _ _ _ _ => true
  | _ => false

def Call.makesStream : Call → Bool
  | .createStream _ _ => true
  | _ => false

/-- The handle that an accepted call returns. -/
def Reply.handle (reply : Reply) : Option Nat :=
  match reply with
  | ⟨.ok, .handle handle⟩ => some handle
  | _ => none

/-- An import stores an encoded key that is not of the declared algorithm. -/
def Call.mismatched (botan : Botan) (backend : Backend) : Call → Bool
  | .importKey (some descriptor) format (some material) true =>
      backend.running && complete descriptor && !descriptor.persistent && !material.isEmpty &&
        decide (material.length ≤ maximumOperationSize) && (format == .der || format == .pem) &&
        backend.keys.slots.any (·.isNone) &&
        match loadKey botan material { algorithm := descriptor.algorithm, usage := descriptor.permittedUsage } with
        | .ok entry => !entry.fits
        | .error _ => false
  | _ => false

variable {result : Reply × Backend} {botan : Botan} {message : String} {status : Status}

section Effects
variable {backend : Backend} {fits : KeyEntry → Prop} {matching : Prop}

/-- The result of a call that changes no table and returns no handle. -/
def Leaves (backend : Backend) (result : Reply × Backend) : Prop :=
  result.1.handle = none ∧ result.2.keys = backend.keys ∧ result.2.streams = backend.streams

theorem leaves_fail : Leaves backend (backend.fail status message) := by
  refine ⟨?_, rfl, rfl⟩
  unfold Reply.handle
  split
  · rename_i same
    cases same
  · rfl

theorem leaves_reply {reply : Reply} (plain : ∀ handle, reply.output ≠ .handle handle) :
    Leaves backend (reply, backend) := by
  refine ⟨?_, rfl, rfl⟩
  unfold Reply.handle
  split
  · rename_i handle same
    exact absurd (congrArg Reply.output same) (plain handle)
  · rfl

theorem leaves_writeOutput {output : Option Buffer} {bytes : List Byte} :
    Leaves backend (writeOutput output bytes, backend) := by
  apply leaves_reply
  intro handle
  unfold writeOutput
  split
  · nofun
  · split <;> nofun

/-- The result of a call that may return the handle of a new key. -/
def MakesKey (fits : KeyEntry → Prop) (backend : Backend) (result : Reply × Backend) : Prop :=
  SlotTable.Effect fits False backend.keys result.1.handle result.2.keys ∧ result.2.streams = backend.streams

theorem makesKey_of_leaves (leaves : Leaves backend result) : MakesKey fits backend result := by
  obtain ⟨none, keys, streams⟩ := leaves
  rw [MakesKey, none, keys]
  exact ⟨.same, streams⟩

theorem makesKey_fail : MakesKey fits backend (backend.fail status message) := makesKey_of_leaves leaves_fail

theorem makesKey_storeKey {entry : KeyEntry} {output : Bool}
    (fit : output = true → backend.keys.slots.any (·.isNone) = true → fits entry) :
    MakesKey fits backend (backend.storeKey entry output) := by
  unfold Backend.storeKey
  cases output with
  | false => exact makesKey_fail
  | true =>
      cases inserted : backend.keys.insert entry with
      | none => exact makesKey_fail
      | some result =>
          obtain ⟨index, free, _⟩ := SlotTable.insert_eq_some inserted
          have room : backend.keys.slots.any (·.isNone) = true :=
            List.any_eq_true.mpr ⟨Option.none, List.mem_of_getElem? free, rfl⟩
          exact ⟨.insert inserted (fit rfl room), rfl⟩

theorem makesKey_importKey (descriptor : Option KeyDescriptor) (format : KeyFormat) (material : BytesView)
    (output : Bool) : MakesKey (fun entry =>
        botan.Truthful ∧ (Call.importKey descriptor format material output).mismatched botan backend = false →
          entry.fits = true)
      backend (backend.importKey botan descriptor format material output) := by
  unfold Backend.importKey
  match descriptor, material with
  | none, _ | some _, none => exact makesKey_fail
  | some descriptor, some material =>
      simp only
      split
      · exact makesKey_fail
      · rename_i valid
        split
        · exact makesKey_fail
        · rename_i persistent
          cases format with
          | raw =>
              simp only
              split
              · exact makesKey_fail
              · rename_i lengths
                rw [not_or, not_not] at lengths
                exact makesKey_storeKey fun _ _ _ => fits_secret lengths.1 lengths.2
          | other => exact makesKey_fail
          | der | pem =>
              simp only
              split
              · exact makesKey_fail
              · rename_i entry loaded
                apply makesKey_storeKey
                rintro requested room ⟨_, matching⟩
                simp only [Bool.or_eq_true, Bool.not_eq_true', decide_eq_true_eq, not_or, Bool.not_eq_false] at valid
                simp only [Bool.not_eq_true] at persistent
                simpa [Call.mismatched, requested, room, loaded, valid, persistent, Nat.le_of_not_lt valid.2]
                  using matching

theorem makesKey_generateKey (truthful : matching → botan.Truthful) (descriptor : Option KeyDescriptor) (output : Bool)
    (entropy : Entropy) : MakesKey (fun entry => matching → entry.fits = true) backend
      (backend.generateKey botan descriptor output entropy) := by
  unfold Backend.generateKey
  cases descriptor with
  | none => exact makesKey_fail
  | some descriptor =>
      simp only
      split
      · exact makesKey_fail
      · split
        · exact makesKey_fail
        · split
          · rename_i symmetric
            cases entropy with
            | error exception => exact makesKey_fail
            | ok random =>
                apply makesKey_storeKey
                intro _ _ _
                apply fits_secret symmetric
                rw [List.length_map, List.length_range]
          · rename_i asymmetric
            rw [not_not] at asymmetric
            split
            · exact makesKey_fail
            · rename_i name parameters named
              split
              · exact makesKey_fail
              · exact makesKey_fail
              · rename_i key created
                exact makesKey_storeKey fun _ _ matches' => fits_generated (truthful matches') asymmetric named created

theorem makesKey_agree (truthful : matching → botan.Truthful) (algorithm : Algorithm) (handle : Nat)
    (peer salt : BytesView) (derivedKey : Option KeyDescriptor) (output : Bool) :
    MakesKey (fun entry => matching → entry.fits = true) backend
      (backend.agree botan algorithm handle peer salt derivedKey output) := by
  unfold Backend.agree
  simp only
  split
  · split
    · exact makesKey_fail
    · split
      · exact makesKey_fail
      · split
        · exact makesKey_fail
        · rename_i symmetric
          split
          · exact makesKey_fail
          · exact makesKey_fail
          · rename_i shared derived
            exact makesKey_storeKey fun _ _ matches' =>
              fits_secret symmetric ((truthful matches').derived _ _ _ _ _ derived)
  · exact makesKey_fail

theorem leaves_validateCertificate (request : Option CertificateRequest) (output : Option Nat) :
    Leaves backend (backend.validateCertificate botan request output) := by
  unfold Backend.validateCertificate
  simp only
  split
  · split
    · exact leaves_fail
    · split
      · exact leaves_fail
      · split
        · exact leaves_reply nofun
        · exact leaves_reply nofun
        · exact leaves_fail
  · exact leaves_fail

theorem makesKey_importCertificateKey (request : Option CertificateRequest) (descriptor : Option KeyDescriptor)
    (validation : Option Nat) (output : Bool) : MakesKey (fun entry => matching → entry.fits = true) backend
      (backend.validateAndImportCertificatePublicKey botan request descriptor validation output) := by
  unfold Backend.validateAndImportCertificatePublicKey
  cases descriptor with
  | none => exact makesKey_of_leaves (leaves_reply nofun)
  | some descriptor =>
      simp only
      split
      · exact makesKey_of_leaves (leaves_reply nofun)
      · have leaves := @leaves_validateCertificate botan backend request validation
        split
        · rename_i leaf _ _
          obtain ⟨_, keys, streams⟩ := leaves
          unfold Backend.importSubjectKey
          rw [MakesKey, ← keys, ← streams]
          split
          · exact makesKey_fail
          · split
            · exact makesKey_fail
            · rename_i key _
              split
              · exact makesKey_fail
              · rename_i named
                obtain ⟨asymmetric, name⟩ := asymmetric_of_certificate (not_not.mp named)
                apply makesKey_storeKey
                intro _ _ _
                simp [KeyEntry.fits, asymmetric, name]
        · exact makesKey_of_leaves leaves

section
variable (algorithm : Algorithm)
include algorithm

theorem leaves_mac (handle : Nat) (input : BytesView) (output : Option Buffer) :
    Leaves backend (backend.mac botan algorithm handle input output) := by
  unfold Backend.mac
  split
  · split
    · exact leaves_fail
    · exact leaves_writeOutput
  · exact leaves_fail

theorem leaves_aead (handle : Nat) (parameters : Option AeadParameters) (input : BytesView)
    (output : Option Buffer) (encrypt : Bool) :
    Leaves backend (backend.aead botan algorithm handle parameters input output encrypt) := by
  unfold Backend.aead
  simp only
  split
  · split
    · split
      · exact leaves_fail
      · split
        · exact leaves_fail
        · exact leaves_fail
        · exact leaves_writeOutput
    · exact leaves_fail
  · exact leaves_fail

theorem leaves_sign (handle : Nat) (message : BytesView) (output : Option Buffer)
    (entropy : Entropy) : Leaves backend (backend.sign botan algorithm handle message output entropy) := by
  unfold Backend.sign
  split
  · split
    · exact leaves_fail
    · split
      · exact leaves_fail
      · simp only
        split
        · exact leaves_reply nofun
        · split
          · exact leaves_fail
          · exact leaves_writeOutput
  · exact leaves_fail

theorem leaves_verify (handle : Nat) (message signature : BytesView) (valid : Bool) :
    Leaves backend (backend.verify botan algorithm handle message signature valid) := by
  unfold Backend.verify
  split
  · split
    · exact leaves_fail
    · split
      · exact leaves_fail
      · exact leaves_reply nofun
  · exact leaves_fail

theorem leaves_derive (handle : Nat) (salt info : BytesView) (output : Option Buffer) :
    Leaves backend (backend.derive botan algorithm handle salt info output) := by
  unfold Backend.derive
  split
  · split
    · exact leaves_fail
    · split
      · exact leaves_fail
      · exact leaves_reply nofun
  · exact leaves_fail

end

theorem leaves_publicValue (handle : Nat) (output : Option Buffer) :
    Leaves backend (backend.publicValue botan handle output) := by
  unfold Backend.publicValue
  split
  · exact leaves_fail
  · split
    · exact leaves_fail
    · split
      · exact leaves_fail
      · exact leaves_writeOutput

end Effects

variable {makes : Bool}

section Streams
variable {backend : Backend} {fits : StreamEntry → Prop}

/-- The result of a call that may change the streams and returns no handle of a key. -/
def MovesStream (fits : StreamEntry → Prop) (makes : Bool) (backend : Backend) (result : Reply × Backend) : Prop :=
  SlotTable.Effect fits False backend.streams (if makes then result.1.handle else none) result.2.streams ∧
    result.2.keys = backend.keys

theorem movesStream_of_leaves (leaves : Leaves backend result) : MovesStream fits makes backend result := by
  obtain ⟨none, keys, streams⟩ := leaves
  rw [MovesStream, none, streams, ite_self]
  exact ⟨.same, keys⟩

theorem movesStream_fail :
    MovesStream fits makes backend (backend.fail status message) := movesStream_of_leaves leaves_fail

theorem movesStream_storeStream {entry : StreamEntry} (fit : fits entry) :
    MovesStream fits true backend (backend.storeStream entry) := by
  unfold Backend.storeStream
  cases inserted : backend.streams.insert entry with
  | none => exact movesStream_fail
  | some result => exact ⟨.insert inserted fit, rfl⟩

variable {handle : Nat}

/-- A found stream is released. -/
theorem movesStream_release {stream : StreamEntry} (found : backend.findStream handle = some stream)
    (reply : Reply) (message : String) : MovesStream fits false backend
      (reply, { backend.releaseStream handle with lastError := message }) := by
  obtain ⟨occupant, occupied, _⟩ := Option.map_eq_some_iff.mp found
  exact ⟨.release _ occupant (SlotTable.occupies_of_find occupied).1, rfl⟩

theorem movesStream_modify {change : StreamEntry → StreamEntry}
    (keeps : ∀ occupant, backend.streams.Occupies (SlotTable.index handle) occupant → fits occupant.value →
      fits (change occupant.value)) (reply : Reply) (message : String) :
    MovesStream fits false backend (reply, { backend with
      lastError := message
      streams := backend.streams.modify (SlotTable.index handle) change }) := ⟨.modify _ _ keeps, rfl⟩

theorem movesStream_openPrimitive {opened : Throws Unit} {operation : StreamOperation} {primitive : StreamPrimitive}
    (fit : fits { operation, primitive := some primitive }) :
    MovesStream fits true backend (backend.openPrimitive opened operation primitive) := by
  unfold Backend.openPrimitive
  split
  · exact movesStream_fail
  · exact movesStream_storeStream fit

theorem movesStream_openRecords (descriptor : StreamDescriptor) (encrypt : Bool) :
    MovesStream (fun stream => Trusted botan backend → stream.Fits) true backend
      (backend.openRecords descriptor encrypt) := by
  unfold Backend.openRecords
  simp only
  split
  · rename_i name secret nonce associatedData permitted _ _
    split
    · exact movesStream_fail
    · apply movesStream_storeStream
      intro trusted
      obtain ⟨named, length⟩ := aeadSecret_fits trusted.2 permitted
      refine ⟨nofun, fun state same => ?_⟩
      cases same
      exact ⟨Option.isSome_iff_exists.mpr ⟨name, named⟩, length⟩
  · exact movesStream_fail

theorem movesStream_createStream (descriptor : Option StreamDescriptor) (output : Bool) :
    MovesStream (fun stream => Trusted botan backend → stream.Fits) true backend
      (backend.createStream botan descriptor output) := by
  unfold Backend.createStream
  split
  · exact movesStream_fail
  · rename_i descriptor
    split
    · exact movesStream_fail
    · split
      · split
        · split
          · exact movesStream_fail
          · exact movesStream_openPrimitive fun _ => fits_primitive trivial
        · exact movesStream_fail
      · split
        · rename_i secret permitted
          exact movesStream_openPrimitive fun trusted => fits_primitive (macSecret_fits trusted.2 permitted).2
        · exact movesStream_fail
      · split
        · rename_i padding key permitted
          exact movesStream_openPrimitive fun trusted => fits_primitive ⟨_, signingKey_fits trusted.2 permitted⟩
        · exact movesStream_fail
      · split
        · exact movesStream_fail
        · rename_i padding entry permitted
          split
          · exact movesStream_fail
          · rename_i key component
            exact movesStream_openPrimitive fun trusted =>
              fits_primitive ⟨_, verificationKey_fits trusted.1 trusted.2 permitted component⟩
      · exact movesStream_openRecords descriptor true
      · exact movesStream_openRecords descriptor false
      · exact movesStream_fail

/-- The input of a stream does not concern its key. -/
theorem movesStream_input {input : StreamEntry → List Byte} (reply : Reply) {later : Backend}
    (keys : later.keys = backend.keys) (streams : later.streams = backend.streams.modify (SlotTable.index handle)
      fun stream => { stream with input := input stream }) :
    MovesStream (fun stream => Trusted botan backend → stream.Fits) false backend (reply, later) := by
  refine ⟨?_, keys⟩
  rw [streams]
  exact .modify _ _ fun _ _ fit trusted => ⟨(fit trusted).1, (fit trusted).2⟩

theorem movesStream_updateStream (updated : Throws Unit) (handle : Nat) (input : BytesView) :
    MovesStream (fun stream => Trusted botan backend → stream.Fits) false backend
      (backend.updateStream updated handle input) := by
  unfold Backend.updateStream
  split
  · rename_i stream added found
    split
    · exact movesStream_fail
    · split
      · exact movesStream_fail
      · exact @movesStream_input botan backend handle (fun stream => stream.input ++ added) _ _ rfl rfl
  · exact movesStream_fail

theorem movesStream_finishStream (handle : Nat) (terminalInput : BytesView) (output : Option Buffer) (valid : Bool)
    (entropy : Entropy) : MovesStream (fun stream => Trusted botan backend → stream.Fits) false backend
      (backend.finishStream botan handle terminalInput output valid entropy) := by
  unfold Backend.finishStream
  split
  · rename_i stream terminalInput found
    have released := fun reply message => @movesStream_release backend
      (fun stream => Trusted botan backend → stream.Fits) handle stream found reply message
    split
    · exact movesStream_fail
    · split
      · exact movesStream_fail
      · split
        · unfold Backend.finishVerifier
          split
          · exact movesStream_fail
          · split
            · split
              · exact released _ _
              · exact released _ _
            · exact released _ _
        · unfold Backend.finishPrimitive
          split
          · split
            · exact movesStream_fail
            · simp only
              split
              · exact movesStream_of_leaves (leaves_reply nofun)
              · split
                · exact released _ _
                · split
                  · exact released _ _
                  · exact @movesStream_input botan backend handle (fun _ => []) _ _ rfl rfl
          · exact movesStream_fail
  · exact movesStream_fail

theorem movesStream_destroyStream (handle : Nat) : MovesStream fits false backend (backend.destroyStream handle) := by
  unfold Backend.destroyStream
  split
  · exact movesStream_fail
  · rename_i occupant found
    exact ⟨.release _ occupant (SlotTable.occupies_of_find found).1, rfl⟩

theorem movesStream_processRecord (handle : Nat) (input : BytesView) (output : Option Buffer) :
    MovesStream (fun stream => Trusted botan backend → stream.Fits) false backend
      (backend.processRecord botan handle input output) := by
  unfold Backend.processRecord
  split
  · rename_i state input buffer found _
    obtain ⟨stream, here, known⟩ := Option.bind_eq_some_iff.mp found
    split
    · exact movesStream_fail
    · unfold Backend.applyRecord
      simp only
      split
      · exact movesStream_release here _ _
      · rename_i later stepped
        apply movesStream_modify
        intro occupant occupies fit keys
        refine ⟨(fit keys).1, fun other same => ?_⟩
        cases same
        obtain ⟨other, located, rfl⟩ := Option.map_eq_some_iff.mp here
        have equal : other = occupant :=
          Option.some.inj (Option.some.inj ((SlotTable.occupies_of_find located).1.symm.trans occupies))
        rw [equal] at known
        exact AeadRecordState.process_fits ((fit keys).2 state known) stepped
  · exact movesStream_fail

end Streams

section Calls
variable {backend : Backend}

/-- What a call does to both tables. Only the stop of the provider clears them. -/
structure CallEffect (botan : Botan) (backend : Backend) (call : Call) (result : Reply × Backend) : Prop where
  keys : SlotTable.Effect (fun entry => botan.Truthful ∧ call.mismatched botan backend = false → entry.fits = true)
    (call = .stop)
    backend.keys (if call.makesKey then result.1.handle else none) result.2.keys
  streams : SlotTable.Effect (fun stream => Trusted botan backend → stream.Fits) (call = .stop) backend.streams
    (if call.makesStream then result.1.handle else none) result.2.streams

variable {call : Call}

theorem CallEffect.of_leaves (leaves : Leaves backend result) : CallEffect botan backend call result := by
  obtain ⟨none, keys, streams⟩ := leaves
  constructor
  · rw [none, keys, ite_self]
    exact .same
  · rw [none, streams, ite_self]
    exact .same

theorem CallEffect.of_makesKey (makes : call.makesKey = true) (other : call.makesStream = false)
    (effect : MakesKey (fun entry => botan.Truthful ∧ call.mismatched botan backend = false → entry.fits = true)
      backend result) : CallEffect botan backend call result := by
  obtain ⟨keys, streams⟩ := effect
  constructor
  · rw [if_pos makes]
    exact keys.weaken
  · rw [other, streams]
    exact .same

theorem CallEffect.of_movesStream (same : call.makesStream = makes) (other : call.makesKey = false)
    (effect : MovesStream (fun stream => Trusted botan backend → stream.Fits) makes backend result) :
    CallEffect botan backend call result := by
  obtain ⟨streams, keys⟩ := effect
  constructor
  · rw [other, keys]
    exact .same
  · rw [same]
    exact streams.weaken

theorem call_effect (call : Call) : CallEffect botan backend call (backend.call botan call) := by
  cases call with
  | start failure =>
      change CallEffect botan backend _ (backend.start failure)
      unfold Backend.start
      split
      · exact .of_leaves leaves_fail
      · split
        · exact .of_leaves leaves_fail
        · exact .of_leaves ⟨rfl, rfl, rfl⟩
  | stop => exact ⟨.clear rfl, .clear rfl⟩
  | importKey descriptor format material output =>
      exact .of_makesKey rfl rfl (makesKey_importKey descriptor format material output)
  | generateKey descriptor output entropy =>
      exact .of_makesKey rfl rfl (makesKey_generateKey And.left descriptor output entropy)
  | agree algorithm handle peer salt derivedKey output =>
      exact .of_makesKey rfl rfl (makesKey_agree And.left algorithm handle peer salt derivedKey output)
  | importCertificateKey request descriptor validation output =>
      exact .of_makesKey rfl rfl (makesKey_importCertificateKey request descriptor validation output)
  | destroyKey handle =>
      change CallEffect botan backend _ (backend.destroyKey handle)
      unfold Backend.destroyKey
      split
      · exact .of_leaves leaves_fail
      · rename_i occupant found
        exact ⟨.release _ occupant (SlotTable.occupies_of_find found).1, .same⟩
  | mac algorithm handle input output => exact .of_leaves (leaves_mac algorithm handle input output)
  | aead algorithm handle parameters input output encrypt =>
      exact .of_leaves (leaves_aead algorithm handle parameters input output encrypt)
  | sign algorithm handle message output entropy =>
      exact .of_leaves (leaves_sign algorithm handle message output entropy)
  | verify algorithm handle message signature valid =>
      exact .of_leaves (leaves_verify algorithm handle message signature valid)
  | derive algorithm handle salt info output => exact .of_leaves (leaves_derive algorithm handle salt info output)
  | publicValue handle output => exact .of_leaves (leaves_publicValue handle output)
  | validateCertificate request output => exact .of_leaves (leaves_validateCertificate request output)
  | createStream descriptor output =>
      exact .of_movesStream rfl rfl (movesStream_createStream descriptor output)
  | updateStream updated handle input =>
      exact .of_movesStream rfl rfl (movesStream_updateStream updated handle input)
  | finishStream handle terminalInput output valid entropy =>
      exact .of_movesStream rfl rfl (movesStream_finishStream handle terminalInput output valid entropy)
  | destroyStream handle => exact .of_movesStream rfl rfl (movesStream_destroyStream handle)
  | processRecord handle input output =>
      exact .of_movesStream rfl rfl (movesStream_processRecord handle input output)

end Calls

end OpenVehicle.Crypto
