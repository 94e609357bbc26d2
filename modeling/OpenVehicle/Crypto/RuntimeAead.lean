/-
This file models the authenticated encryption of the runtime, and decides when it opens what it has sealed.
-/

import OpenVehicle.Crypto.RecordStream

namespace OpenVehicle.Crypto

open Data (SlotTable)

/-- The state of a runtime has an identity, and its provider has the keys. -/
structure Runtime where
  identity : Nat
  backend : Backend

/-- A key knows the runtime state that owns it. A moved key has none. -/
structure Key where
  state : Option Nat
  handle : Nat
  deriving DecidableEq, Repr

def Key.valid (key : Key) : Bool := key.state.isSome && key.handle != 0

/-- The parameters of the caller are spans. -/
structure AeadArguments where
  nonce : List Byte
  associatedData : List Byte
  tagSize : Nat := 16
  deriving DecidableEq, Repr

def AeadArguments.toAbi (arguments : AeadArguments) : AeadParameters where
  nonce := some arguments.nonce
  associatedData := some arguments.associatedData
  tagSize := arguments.tagSize

namespace Runtime

/-- Both directions check the key and ask the provider twice. -/
def aead (encrypt : Bool) (botan : Botan) (algorithm : Algorithm) (key : Key) (arguments : AeadArguments)
    (input : List Byte) (runtime : Runtime) : Except Status (List Byte) × Runtime :=
  if !key.valid || key.state != some runtime.identity then (.error .invalidArgument, runtime)
  else
    let result := variableOutput (fun buffer backend =>
      backend.aead botan algorithm key.handle (some arguments.toAbi) (some input) (some buffer) encrypt) runtime.backend
    (result.1, { runtime with backend := result.2 })

def encrypt : Botan → Algorithm → Key → AeadArguments → List Byte → Runtime → Except Status (List Byte) × Runtime :=
  aead true

def decrypt : Botan → Algorithm → Key → AeadArguments → List Byte → Runtime → Except Status (List Byte) × Runtime :=
  aead false

end Runtime

/-- The key of a handle may be used to decrypt. -/
def Backend.permitsDecryption (handle : Nat) (backend : Backend) : Bool :=
  (backend.findKey handle).any (permits KeyUsage.decrypt)

/-- An ideal cipher adds a tag of 16 bytes, and it opens what it has sealed. -/
structure IdealAead (botan : Botan) : Prop where
  length : ∀ name secret data nonce plaintext ciphertext,
    botan.cipher name true secret data nonce plaintext = .ok ciphertext → ciphertext.length = plaintext.length + 16
  opens : ∀ name secret data nonce plaintext ciphertext,
    botan.cipher name true secret data nonce plaintext = .ok ciphertext →
      botan.cipher name false secret data nonce ciphertext = .ok plaintext

variable {botan : Botan}

section Calls
variable {backend : Backend} {algorithm : Algorithm} {handle : Nat} {arguments : AeadArguments} {input : List Byte}
variable {encrypt : Bool}

/-- An output that does not depend on the buffer is returned by the second call, unless it is empty or too long. -/
theorem variableOutput_written {S : Type} {operation : Buffer → S → Reply × S} {state : S} {bytes : List Byte}
    (known : ∀ buffer, operation buffer state = (writeOutput (some buffer) bytes, state)) :
    (variableOutput operation state).1 = if bytes.length > maximumOutputSize then .error .resourceExhausted
      else if bytes = [] then .error .bufferTooSmall
      else .ok bytes := by
  have asked : operation ⟨false, 0⟩ state =
      ({ status := .bufferTooSmall, output := .required bytes.length }, state) := known _
  by_cases long : bytes.length > maximumOutputSize
  · rw [if_pos long]
    simp [variableOutput, asked, Output.size, long]
  · rw [if_neg long, variableOutput_eq asked (Nat.not_lt.mp long), known]
    cases bytes with
    | nil => rfl
    | cons byte bytes => simp [writeOutput, written]

/-- The request is refused whatever the buffer is. -/
def Refused (operation : Buffer → Reply × Backend) : Prop :=
  ∃ reply later, (∀ buffer, operation buffer = (reply, later)) ∧ reply.status ≠ .bufferTooSmall ∧ reply.status ≠ .ok

theorem refused_fail {operation : Buffer → Reply × Backend} {status : Status} {message : String}
    (failed : ∀ buffer, operation buffer = backend.fail status message) (other : status ≠ .bufferTooSmall)
    (refused : status ≠ .ok) : Refused operation := ⟨_, _, failed, other, refused⟩

/-- A request without a fitting key is refused. -/
theorem aead_denied (missing : backend.aeadSecret algorithm handle encrypt = none) : Refused fun buffer =>
    backend.aead botan algorithm handle (some arguments.toAbi) (some input) (some buffer) encrypt := by
  refine @refused_fail backend _ .permissionDenied "AEAD request or key policy is invalid" (fun buffer => ?_) nofun
    nofun
  simp only [Backend.aead, missing]

/-- A request with a fitting key and fitting sizes reaches the cipher. -/
theorem aead_written {name : String} {secret bytes : List Byte}
    (found : backend.aeadSecret algorithm handle encrypt = some (name, secret)) (tag : arguments.tagSize = 16)
    (small : input.length ≤ maximumOperationSize)
    (run : botan.cipher name encrypt secret arguments.associatedData arguments.nonce input = .ok bytes)
    (buffer : Buffer) : backend.aead botan algorithm handle (some arguments.toAbi) (some input) (some buffer) encrypt =
      (writeOutput (some buffer) bytes, backend) := by
  simp [Backend.aead, found, AeadArguments.toAbi, tag, Nat.not_lt.mpr small, run]

/-- A request reaches the cipher and succeeds there, or it is refused. -/
theorem aead_cases : (∃ name secret bytes, backend.aeadSecret algorithm handle encrypt = some (name, secret) ∧
      arguments.tagSize = 16 ∧ input.length ≤ maximumOperationSize ∧
      botan.cipher name encrypt secret arguments.associatedData arguments.nonce input = .ok bytes) ∨
    Refused fun buffer =>
      backend.aead botan algorithm handle (some arguments.toAbi) (some input) (some buffer) encrypt := by
  cases found : backend.aeadSecret algorithm handle encrypt with
  | none => exact .inr (aead_denied found)
  | some result =>
      obtain ⟨name, secret⟩ := result
      by_cases fits : arguments.tagSize = 16 ∧ input.length ≤ maximumOperationSize
      · obtain ⟨tag, small⟩ := fits
        cases run : botan.cipher name encrypt secret arguments.associatedData arguments.nonce input with
        | ok bytes => exact .inl ⟨name, secret, bytes, rfl, tag, small, run⟩
        | error exception =>
            cases exception with
            | integrityFailure what =>
                refine .inr (@refused_fail backend _ .authenticationFailed what (fun buffer => ?_) nofun nofun)
                simp [Backend.aead, found, AeadArguments.toAbi, tag, Nat.not_lt.mpr small, run]
            | invalidArgument what | decodingError what | other what =>
                refine .inr (@refused_fail backend _ .backendError what (fun buffer => ?_) nofun nofun)
                simp [Backend.aead, found, AeadArguments.toAbi, tag, Nat.not_lt.mpr small, run, Backend.botanFailure,
                  Exception.what]
      · refine .inr (@refused_fail backend _ .permissionDenied "AEAD request or key policy is invalid"
          (fun buffer => ?_) nofun nofun)
        simp only [Backend.aead, found, AeadArguments.toAbi]
        refine if_pos ?_
        simp only [Bool.or_eq_true, decide_eq_true_eq]
        omega

theorem aeadSecret_encrypt {name : String} {secret : List Byte}
    (found : backend.aeadSecret algorithm handle true = some (name, secret)) :
    backend.aeadSecret algorithm handle false =
      if backend.permitsDecryption handle then some (name, secret) else none := by
  unfold Backend.aeadSecret Backend.permitsDecryption at *
  obtain ⟨chosen, named, found⟩ := Option.bind_eq_some_iff.mp found
  obtain ⟨key, known, found⟩ := Option.bind_eq_some_iff.mp found
  rw [if_pos rfl] at found
  by_cases allowed : key.algorithm = algorithm ∧ permits KeyUsage.encrypt key = true
  · rw [if_pos allowed] at found
    cases found
    rw [named, known]
    simp [allowed.1]
  · rw [if_neg allowed] at found
    cases found

end Calls

section RoundTrip
variable {runtime later : Runtime} {algorithm : Algorithm} {key : Key} {arguments : AeadArguments}
variable {input output : List Byte} {encrypt : Bool}

/-- The two calls return what the cipher does, unless it is empty or too long. -/
theorem runtime_aead_ok : (runtime.aead encrypt botan algorithm key arguments input).1 = .ok output ↔
    (key.valid = true ∧ key.state = some runtime.identity) ∧ output ≠ [] ∧ output.length ≤ maximumOutputSize ∧
      ∃ name secret, runtime.backend.aeadSecret algorithm key.handle encrypt = some (name, secret) ∧
        arguments.tagSize = 16 ∧ input.length ≤ maximumOperationSize ∧
        botan.cipher name encrypt secret arguments.associatedData arguments.nonce input = .ok output := by
  unfold Runtime.aead
  by_cases owned : (!key.valid || key.state != some runtime.identity) = true
  · rw [if_pos owned]
    refine iff_of_false nofun fun ⟨⟨valid, same⟩, _⟩ => ?_
    simp [valid, same] at owned
  · rw [if_neg owned]
    have own : key.valid = true ∧ key.state = some runtime.identity := by simpa using owned
    rw [iff_true_intro own, true_and]
    rcases @aead_cases botan runtime.backend algorithm key.handle arguments input encrypt with
      ⟨name, secret, bytes, found, tag, small, run⟩ | refused
    · dsimp only
      rw [variableOutput_written (aead_written found tag small run)]
      constructor
      · intro returned
        split at returned
        · cases returned
        · rename_i short
          split at returned
          · cases returned
          · rename_i filled
            cases returned
            exact ⟨filled, Nat.le_of_not_lt short, name, secret, found, tag, small, run⟩
      · rintro ⟨filled, short, other, material, same, _, _, ran⟩
        rw [found] at same
        cases same
        rw [run] at ran
        cases ran
        rw [if_neg (Nat.not_lt.mpr short), if_neg filled]
    · obtain ⟨reply, state, asked, other, refused⟩ := refused
      dsimp only
      rw [variableOutput_refused (asked _) other refused]
      refine iff_of_false nofun fun ⟨_, _, name, secret, found, tag, small, run⟩ => other ?_
      have answer := (asked ⟨false, 0⟩).symm.trans (aead_written found tag small run ⟨false, 0⟩)
      rw [(Prod.mk.inj answer).1]
      rfl

/-- The runtime opens what it has sealed exactly when the plaintext is not empty and the key may decrypt. The key may
have been used in any other way in between. -/
theorem runtime_round_trip (ideal : IdealAead botan) {plaintext ciphertext : List Byte}
    (accepted : (runtime.encrypt botan algorithm key arguments plaintext).1 = .ok ciphertext)
    (same : later.identity = runtime.identity)
    (alive : later.backend.findKey key.handle = runtime.backend.findKey key.handle) :
    (later.decrypt botan algorithm key arguments ciphertext).1 = .ok plaintext ↔
      plaintext ≠ [] ∧ runtime.backend.permitsDecryption key.handle = true := by
  obtain ⟨owned, _, short, name, secret, found, tag, small, run⟩ := runtime_aead_ok.mp accepted
  have length := ideal.length _ _ _ _ _ _ run
  have opened := ideal.opens _ _ _ _ _ _ run
  have material := aeadSecret_encrypt found
  have kept : later.backend.aeadSecret algorithm key.handle false =
      runtime.backend.aeadSecret algorithm key.handle false := by
    unfold Backend.aeadSecret
    rw [alive]
  have bounded : ciphertext.length ≤ maximumOperationSize ∧ plaintext.length ≤ maximumOutputSize := by
    change _ ≤ 64 * 1024 * 1024 at short
    change _ ≤ 64 * 1024 * 1024 ∧ _ ≤ 64 * 1024 * 1024
    omega
  refine runtime_aead_ok.trans ?_
  rw [kept, material, same]
  constructor
  · rintro ⟨_, filled, _, other, secret, found, _⟩
    refine ⟨filled, ?_⟩
    by_contra forbidden
    rw [if_neg forbidden] at found
    cases found
  · rintro ⟨filled, permitted⟩
    rw [if_pos permitted]
    exact ⟨owned, filled, bounded.2, name, secret, rfl, tag, bounded.1, opened⟩

/-- This cipher adds an empty tag and removes it. -/
def appender : Botan :=
  { sample with
    cipher := fun _ encrypt _ _ _ input =>
      if encrypt then .ok (input ++ List.replicate 16 0)
      else if input.length < 16 then .error (.integrityFailure "tag check failed")
      else .ok (input.take (input.length - 16)) }

theorem ideal_appender : IdealAead appender where
  length := fun _ _ _ _ plaintext ciphertext sealed => by
    cases sealed
    rw [List.length_append, List.length_replicate]
  opens := fun _ _ _ _ plaintext ciphertext sealed => by
    cases sealed
    have long : ¬(plaintext ++ List.replicate 16 (0 : Byte)).length < 16 := by simp
    simp only [appender, Bool.false_eq_true, if_false, if_neg long]
    simp

/-- A runtime with one key that may encrypt and decrypt. -/
def stocked : Runtime where
  identity := 1
  backend :=
    { keys :=
        { slots := [some ⟨1, 0, { algorithm := .aes128Gcm, usage := 12, secret := List.replicate 16 7 }⟩]
          generations := [1]
          releases := [0]
          stored := 1 }
      streams := .empty 1
      running := true }

def stockedKey : Key := ⟨some 1, SlotTable.handle 0 1⟩

/-- A short plaintext is sealed and opened. -/
theorem runtime_round_trip_short : (stocked.decrypt appender .aes128Gcm stockedKey ⟨List.replicate 12 0, [], 16⟩
    ([1, 2, 3] ++ List.replicate 16 0)).1 = .ok [1, 2, 3] := by
  have accepted : (stocked.encrypt appender .aes128Gcm stockedKey ⟨List.replicate 12 0, [], 16⟩ [1, 2, 3]).1 =
      .ok ([1, 2, 3] ++ List.replicate 16 0) := by decide
  exact (runtime_round_trip ideal_appender accepted rfl rfl).mpr ⟨by decide, by decide⟩

/-- An empty plaintext is sealed, and the key that may decrypt does not open it. -/
theorem empty_plaintext_lost : IdealAead appender ∧ stocked.backend.permitsDecryption stockedKey.handle = true ∧
    (stocked.encrypt appender .aes128Gcm stockedKey ⟨List.replicate 12 0, [], 16⟩ []).1 = .ok (List.replicate 16 0) ∧
    (stocked.decrypt appender .aes128Gcm stockedKey ⟨List.replicate 12 0, [], 16⟩ (List.replicate 16 0)).1 =
      .error .bufferTooSmall := ⟨ideal_appender, by decide, by decide, by decide⟩

end RoundTrip

end OpenVehicle.Crypto
