/-
This file defines when the material of a key matches its algorithm, and proves what each policy then gives.
-/

import OpenVehicle.Crypto.Streams

namespace OpenVehicle.Crypto

open Data (SlotTable Occupant)
open Backend (generatedKey certificateName publicComponent)

/-- The name that the library reports for the keys of an asymmetric algorithm. -/
def asymmetricName (algorithm : Algorithm) : Option String :=
  if algorithm = .ecdsaP256Sha2_256 then some "ECDSA"
  else if algorithm = .ecdhP256 then some "ECDH"
  else if algorithm = .rsaPssSha2_256 then some "RSA"
  else if algorithm = .ed25519 then some "Ed25519"
  else none

/-- The material of a key matches the algorithm that the key declares. -/
def KeyEntry.fits (entry : KeyEntry) : Bool :=
  if symmetricKeySize entry.algorithm ≠ 0 then entry.secret.length == symmetricKeySize entry.algorithm
  else
    (entry.privateKey.isSome || entry.publicKey.isSome) && (asymmetricName entry.algorithm).isSome &&
      entry.privateKey.all (some ·.algoName == asymmetricName entry.algorithm) &&
      entry.publicKey.all (some ·.algoName == asymmetricName entry.algorithm)

/-- The key of a signature has the algorithm of its padding. -/
def SignatureFits (padding algoName : String) : Prop :=
  ∃ algorithm, signaturePadding algorithm = some padding ∧ asymmetricName algorithm = some algoName

def StreamPrimitive.Fits : StreamPrimitive → Prop
  | .hash _ => True
  | .mac key => key.length = symmetricKeySize .hmacSha2_256
  | .signer key padding => SignatureFits padding key.algoName
  | .verifier key padding => SignatureFits padding key.algoName

def AeadRecordState.Fits (state : AeadRecordState) : Prop :=
  (cipherName state.algorithm).isSome = true ∧ state.key.length = symmetricKeySize state.algorithm

/-- A stream was opened with a key of its algorithm. -/
def StreamEntry.Fits (stream : StreamEntry) : Prop :=
  (∀ primitive, stream.primitive = some primitive → primitive.Fits) ∧ ∀ state, stream.aead = some state → state.Fits

/-- The library reports the algorithms of keys truthfully, and it derives as many bytes as it is asked for. -/
structure Botan.Truthful (botan : Botan) : Prop where
  created : ∀ name parameters random key, botan.createPrivateKey name parameters random = .ok (some key) →
    key.algoName = name
  published : ∀ key, (botan.publicKey key).algoName = key.algoName
  derived : ∀ key size peer salt bytes, botan.deriveKey key size peer salt = .ok bytes → bytes.length = size

variable {botan : Botan} {algorithm : Algorithm} {secret : List Byte} {name : String}

section Made
variable {usage : UInt32}

theorem fits_secret (symmetric : symmetricKeySize algorithm ≠ 0)
    (length : secret.length = symmetricKeySize algorithm) : ({ algorithm, usage, secret } : KeyEntry).fits = true := by
  rw [KeyEntry.fits, if_pos symmetric]
  exact beq_iff_eq.mpr length

/-- The library generates a key with the name that was asked for. -/
theorem fits_generated (truthful : botan.Truthful) {key : PrivateKey} {name parameters : String}
    {entropy : Entropy} (asymmetric : symmetricKeySize algorithm = 0)
    (named : generatedKey algorithm = some (name, parameters))
    (created : entropy.bind (botan.createPrivateKey name parameters) = .ok (some key)) :
    ({ algorithm, usage, privateKey := some key } : KeyEntry).fits = true := by
  have reported : asymmetricName algorithm = some name := by
    unfold generatedKey at named
    split_ifs at named with curve agreement rsa edwards
    · cases named
      rw [agreement]
      decide
    · cases named
      rw [curve.resolve_right agreement]
      decide
    · cases named
      rw [rsa]
      decide
    · cases named
      rw [edwards]
      decide
  have same : key.algoName = name := by
    cases entropy with
    | error exception => cases created
    | ok random => exact truthful.created name parameters random key created
  simp [KeyEntry.fits, asymmetric, reported, same]

/-- The library names the keys of a certificate as the provider expects for the algorithm. -/
theorem asymmetric_of_certificate (named : certificateName algorithm = some name) :
    symmetricKeySize algorithm = 0 ∧ asymmetricName algorithm = some name := by
  unfold certificateName at named
  split_ifs at named with ecdsa rsa edwards
  · rw [ecdsa, ← named]
    decide
  · rw [rsa, ← named]
    decide
  · rw [edwards, ← named]
    decide

end Made

section Policies
variable {backend : Backend} {key : KeyEntry} {handle : Nat}
variable {padding : String}

/-- Every key of the provider matches its algorithm. -/
def KeysFit (backend : Backend) : Prop := backend.keys.AllFit (·.fits = true)

/-- The library is truthful, and the keys are those that it reported. -/
def Trusted (botan : Botan) (backend : Backend) : Prop := botan.Truthful ∧ KeysFit backend

theorem fits_of_findKey (keys : KeysFit backend) (found : backend.findKey handle = some key) : key.fits = true := by
  obtain ⟨occupant, occupied, rfl⟩ := Option.map_eq_some_iff.mp found
  exact keys _ occupant (SlotTable.occupies_of_find occupied).1

/-- The secret of a symmetric key has the size of its algorithm. -/
theorem secret_of_fits (fit : key.fits = true) (symmetric : symmetricKeySize key.algorithm ≠ 0) :
    key.secret.length = symmetricKeySize key.algorithm := by
  rw [KeyEntry.fits, if_pos symmetric] at fit
  exact beq_iff_eq.mp fit

theorem name_of_fits (fit : key.fits = true) (asymmetric : symmetricKeySize key.algorithm = 0) :
    (∀ component, key.privateKey = some component → asymmetricName key.algorithm = some component.algoName) ∧
      ∀ component, key.publicKey = some component → asymmetricName key.algorithm = some component.algoName := by
  rw [KeyEntry.fits, if_neg (not_not.mpr asymmetric)] at fit
  simp only [Bool.and_eq_true] at fit
  obtain ⟨⟨_, privateFits⟩, publicFits⟩ := fit
  refine ⟨fun component known => ?_, fun component known => ?_⟩
  · rw [known] at privateFits
    exact (beq_iff_eq.mp privateFits).symm
  · rw [known] at publicFits
    exact (beq_iff_eq.mp publicFits).symm

theorem macSecret_fits (keys : KeysFit backend) (permitted : backend.macSecret algorithm handle = some secret) :
    algorithm = .hmacSha2_256 ∧ secret.length = symmetricKeySize .hmacSha2_256 := by
  obtain ⟨key, found, checked⟩ := Option.bind_eq_some_iff.mp permitted
  obtain ⟨⟨rfl, same, _⟩, value⟩ := Option.ite_none_right_eq_some.mp checked
  cases value
  refine ⟨rfl, ?_⟩
  rw [← same]
  apply secret_of_fits (fits_of_findKey keys found)
  rw [same]
  decide

theorem deriveSecret_fits (keys : KeysFit backend) (permitted : backend.deriveSecret algorithm handle = some secret) :
    algorithm = .hkdfSha2_256 ∧ secret.length = symmetricKeySize .hkdfSha2_256 := by
  obtain ⟨key, found, checked⟩ := Option.bind_eq_some_iff.mp permitted
  obtain ⟨⟨rfl, same, _⟩, value⟩ := Option.ite_none_right_eq_some.mp checked
  cases value
  refine ⟨rfl, ?_⟩
  rw [← same]
  apply secret_of_fits (fits_of_findKey keys found)
  rw [same]
  decide

theorem symmetric_of_cipherName (named : cipherName algorithm = some name) : symmetricKeySize algorithm ≠ 0 := by
  unfold cipherName at named
  split_ifs at named with small large
  · rw [small]
    decide
  · rw [large]
    decide

theorem aeadSecret_fits (keys : KeysFit backend) {encrypt : Bool}
    (permitted : backend.aeadSecret algorithm handle encrypt = some (name, secret)) :
    cipherName algorithm = some name ∧ secret.length = symmetricKeySize algorithm := by
  obtain ⟨_, named, permitted⟩ := Option.bind_eq_some_iff.mp permitted
  obtain ⟨key, found, checked⟩ := Option.bind_eq_some_iff.mp permitted
  obtain ⟨⟨rfl, _⟩, same⟩ := Option.ite_none_right_eq_some.mp checked
  cases same
  exact ⟨named, secret_of_fits (fits_of_findKey keys found) (symmetric_of_cipherName named)⟩

theorem asymmetric_of_signaturePadding (padded : signaturePadding algorithm = some padding) :
    symmetricKeySize algorithm = 0 := by
  unfold signaturePadding at padded
  split_ifs at padded with ecdsa rsa edwards
  · rw [ecdsa]
    decide
  · rw [rsa]
    decide
  · rw [edwards]
    decide

variable {key : PrivateKey}

theorem signingKey_fits (keys : KeysFit backend)
    (permitted : backend.signingKey algorithm handle = some (padding, key)) :
    signaturePadding algorithm = some padding ∧ asymmetricName algorithm = some key.algoName := by
  obtain ⟨_, padded, permitted⟩ := Option.bind_eq_some_iff.mp permitted
  obtain ⟨entry, found, checked⟩ := Option.bind_eq_some_iff.mp permitted
  obtain ⟨⟨rfl, _⟩, component⟩ := Option.ite_none_right_eq_some.mp checked
  obtain ⟨own, known, same⟩ := Option.map_eq_some_iff.mp component
  cases same
  exact ⟨padded, (name_of_fits (fits_of_findKey keys found) (asymmetric_of_signaturePadding padded)).1 key known⟩

theorem verificationKey_fits (truthful : botan.Truthful) (keys : KeysFit backend) {entry : KeyEntry} {key : PublicKey}
    (permitted : backend.verificationEntry algorithm handle = some (padding, entry))
    (component : publicComponent botan entry = some key) :
    signaturePadding algorithm = some padding ∧ asymmetricName algorithm = some key.algoName := by
  obtain ⟨_, padded, permitted⟩ := Option.bind_eq_some_iff.mp permitted
  obtain ⟨other, found, checked⟩ := Option.bind_eq_some_iff.mp permitted
  obtain ⟨⟨rfl, _⟩, same⟩ := Option.ite_none_right_eq_some.mp checked
  cases same
  have names := name_of_fits (fits_of_findKey keys found) (asymmetric_of_signaturePadding padded)
  refine ⟨padded, ?_⟩
  rcases Option.or_eq_some_iff.mp component with known | ⟨_, derived⟩
  · exact names.2 key known
  · obtain ⟨own, known, rfl⟩ := Option.map_eq_some_iff.mp derived
    rw [truthful.published]
    exact names.1 own known

theorem agreementKey_fits (keys : KeysFit backend) (permitted : backend.agreementKey algorithm handle = some key) :
    algorithm = .ecdhP256 ∧ asymmetricName .ecdhP256 = some key.algoName := by
  obtain ⟨entry, found, checked⟩ := Option.bind_eq_some_iff.mp permitted
  obtain ⟨⟨rfl, same, _⟩, component⟩ := Option.ite_none_right_eq_some.mp checked
  refine ⟨rfl, ?_⟩
  rw [← same]
  apply (name_of_fits (fits_of_findKey keys found) _).1 key component
  rw [same]
  decide

end Policies

theorem fits_primitive {operation : StreamOperation} {primitive : StreamPrimitive} (fit : primitive.Fits) :
    ({ operation, primitive := some primitive } : StreamEntry).Fits := by
  refine ⟨fun other same => ?_, nofun⟩
  cases same
  exact fit

/-- A record leaves the key of its stream alone. -/
theorem AeadRecordState.process_fits {state later : AeadRecordState} {input : List Byte} {output : Buffer}
    (fit : state.Fits) (stepped : (state.process botan input output).state = some later) : later.Fits := by
  unfold AeadRecordState.process at stepped
  simp only [AeadRecordState.refuse] at stepped
  split at stepped
  · rename_i step refused
    rw [(AeadRecordState.refusal_state refused).1] at stepped
    cases stepped
    exact fit
  · split at stepped
    · cases stepped
    · cases stepped
    · split at stepped
      · cases stepped
      · unfold AeadRecordState.advance at stepped
        split at stepped
        · cases stepped
        · cases stepped
          exact fit

end OpenVehicle.Crypto
