/-
This file proves over all runs of the provider that the stored keys have the material that their users assume.
-/

import OpenVehicle.Crypto.Handles

namespace OpenVehicle.Crypto

open Concurrency (System)
open Data (SlotTable)
open Backend (publicComponent)

/-- What the key store promises to the operations that pass their policy. -/
structure KeyStoreSound (botan : Botan) (backend : Backend) : Prop where
  keys : backend.keys.AllFit (·.fits = true)
  streams : backend.streams.AllFit StreamEntry.Fits
  mac : ∀ algorithm handle secret, backend.macSecret algorithm handle = some secret →
    algorithm = .hmacSha2_256 ∧ secret.length = symmetricKeySize .hmacSha2_256
  derive : ∀ algorithm handle secret, backend.deriveSecret algorithm handle = some secret →
    algorithm = .hkdfSha2_256 ∧ secret.length = symmetricKeySize .hkdfSha2_256
  aead : ∀ algorithm handle encrypt name secret, backend.aeadSecret algorithm handle encrypt = some (name, secret) →
    cipherName algorithm = some name ∧ secret.length = symmetricKeySize algorithm ∧ symmetricKeySize algorithm ≠ 0
  sign : ∀ algorithm handle padding key, backend.signingKey algorithm handle = some (padding, key) →
    signaturePadding algorithm = some padding ∧ asymmetricName algorithm = some key.algoName
  verify : ∀ algorithm handle padding entry key, backend.verificationEntry algorithm handle = some (padding, entry) →
    publicComponent botan entry = some key →
      signaturePadding algorithm = some padding ∧ asymmetricName algorithm = some key.algoName
  agree : ∀ algorithm handle key, backend.agreementKey algorithm handle = some key →
    algorithm = .ecdhP256 ∧ asymmetricName .ecdhP256 = some key.algoName

section Runs
variable {botan : Botan} {session : Session} {call : Call} {maxKeys maxContexts : UInt32} {backend : Backend}

def MaterialFits (session : Session) : Prop := KeysFit session.backend ∧ session.backend.streams.AllFit StreamEntry.Fits

theorem materialFits_step (truthful : botan.Truthful) (fit : MaterialFits session)
    (matching : call.mismatched botan session.backend = false) : MaterialFits (session.step botan call) := by
  obtain ⟨keys, streams⟩ := @call_effect botan session.backend call
  have trusted : Trusted botan session.backend := ⟨truthful, fit.1⟩
  constructor
  · intro index occupant occupies
    exact keys.allFit (fun index occupant occupies _ => fit.1 index occupant occupies) index occupant occupies
      ⟨truthful, matching⟩
  · intro index occupant occupies
    exact streams.allFit (fun index occupant occupies _ => fit.2 index occupant occupies) index occupant occupies
      trusted

theorem materialFits_create (created : create maxKeys maxContexts = some backend) : MaterialFits ⟨backend, [], []⟩ := by
  unfold create at created
  split at created
  · cases created
  · cases created
    exact ⟨fun _ _ occupies => absurd occupies SlotTable.not_occupies_empty,
      fun _ _ occupies => absurd occupies SlotTable.not_occupies_empty⟩

/-- In every run that imports no encoded key under the number of another algorithm, the key store is sound. -/
theorem keyStore_sound (truthful : botan.Truthful) (created : create maxKeys maxContexts = some backend)
    (reached : (system botan).Reaches (fun session call => call.mismatched botan session.backend = false)
      ⟨backend, [], []⟩ session) : KeyStoreSound botan session.backend := by
  have fit : MaterialFits session := by
    apply reached.invariant (materialFits_create created)
    intro before call later fit matching performed
    cases performed
    exact materialFits_step truthful fit matching
  refine {
    keys := fit.1
    streams := fit.2
    mac := fun _ _ _ permitted => macSecret_fits fit.1 permitted
    derive := fun _ _ _ permitted => deriveSecret_fits fit.1 permitted
    aead := fun _ _ _ _ _ permitted => ?_
    sign := fun _ _ _ _ permitted => signingKey_fits fit.1 permitted
    verify := fun _ _ _ _ _ permitted component => verificationKey_fits truthful fit.1 permitted component
    agree := fun _ _ _ permitted => agreementKey_fits fit.1 permitted }
  obtain ⟨named, length⟩ := aeadSecret_fits fit.1 permitted
  exact ⟨named, length, symmetric_of_cipherName named⟩

end Runs

theorem sample_truthful : sample.Truthful where
  created := fun name parameters random key created => by
    cases created
    rfl
  published := fun _ => rfl
  derived := fun key size peer salt bytes derived => by
    cases derived
    exact List.length_replicate

/-- An encoded private key is imported for the given algorithm. -/
def encodedKey (algorithm : Algorithm) (usage : UInt32) : Call :=
  .importKey (some ⟨24, algorithm, usage, false⟩) .der (some [1]) true

def signing : Schedule := [always (.start none), always (encodedKey .rsaPssSha2_256 KeyUsage.sign)]

/-- A key that may sign is imported. -/
theorem keyStore_sound_signing : ∃ session : Session, KeyStoreSound sample session.backend ∧
    (session.backend.signingKey .rsaPssSha2_256 (SlotTable.handle 0 1)).isSome = true := by
  obtain ⟨session, reached, holds⟩ := System.Reaches.exists_of_run
    (fun (session : Session) (call : Call) => !call.mismatched sample session.backend)
    (fun _ _ permitted => (Bool.not_eq_true' _).mp permitted) signing
    (fun session => (session.backend.signingKey .rsaPssSha2_256 (SlotTable.handle 0 1)).isSome)
    (by decide +kernel : (((system sample).run _ signing ⟨opened, [], []⟩).any _) = true)
  exact ⟨session, keyStore_sound sample_truthful (rfl : create 1 1 = some opened) reached, holds⟩

def mislabelled : Schedule := [always (.start none), always (encodedKey .hmacSha2_256 KeyUsage.macGenerate)]

/-- A private key is stored as the key of a code, and the code runs with an empty secret. -/
theorem mislabelled_key_stored : ¬∀ session, (system sample).Reaches (fun _ _ => True) ⟨opened, [], []⟩ session →
    KeyStoreSound sample session.backend := by
  intro claimed
  obtain ⟨session, reached, holds⟩ := System.Reaches.exists_of_run (fun _ _ => true) (fun _ _ _ => trivial) mislabelled
    (fun session => session.backend.macSecret .hmacSha2_256 (SlotTable.handle 0 1) == some [])
    (by decide +kernel : (((system sample).run _ mislabelled ⟨opened, [], []⟩).any _) = true)
  have length := ((claimed session reached).mac _ _ _ (beq_iff_eq.mp holds)).2
  exact absurd length (by decide)

end OpenVehicle.Crypto
