/-
This file models the cryptographic provider: its tables of keys and streams, and the functions that use a key.
-/

import OpenVehicle.Crypto.Types
import OpenVehicle.Data.SlotTable

namespace OpenVehicle.Crypto

open Data (SlotTable Occupant)

def maximumOperationSize : Nat := 64 * 1024 * 1024

structure KeyEntry where
  algorithm : Algorithm
  usage : UInt32
  secret : List Byte := []
  privateKey : Option PrivateKey := none
  publicKey : Option PublicKey := none
  deriving DecidableEq, Repr

/-- A primitive of a stream has its key and its name or padding. -/
inductive StreamPrimitive where
  | hash (name : String)
  | mac (key : List Byte)
  | signer (key : PrivateKey) (padding : String)
  | verifier (key : PublicKey) (padding : String)
  deriving DecidableEq, Repr

structure AeadRecordState where
  algorithm : Algorithm
  key : List Byte
  baseNonce : List Byte
  associatedData : List Byte
  sequence : UInt64 := 0
  encrypt : Bool
  deriving DecidableEq, Repr

/-- A stream has the input of its primitive, or it is a stream of records. -/
structure StreamEntry where
  operation : StreamOperation
  primitive : Option StreamPrimitive := none
  input : List Byte := []
  aead : Option AeadRecordState := none
  deriving DecidableEq, Repr

structure Backend where
  keys : SlotTable KeyEntry
  streams : SlotTable StreamEntry
  lastError : String := ""
  running : Bool := false

/-- A call writes bytes or the size that it needs, or it returns a handle or a verdict. -/
inductive Output where
  | nothing
  | bytes (bytes : List Byte)
  | required (size : Nat)
  | handle (handle : Nat)
  | valid (valid : Bool)
  deriving DecidableEq, Repr

structure Reply where
  status : Status
  output : Output := .nothing
  deriving DecidableEq, Repr

def create (maxKeys maxContexts : UInt32) : Option Backend :=
  if maxKeys = 0 ∨ maxContexts = 0 then none
  else some { keys := .empty maxKeys.toNat, streams := .empty maxContexts.toNat }

def permits (usage : UInt32) (key : KeyEntry) : Bool := key.usage &&& usage == usage

def writeOutput (output : Option Buffer) (bytes : List Byte) : Reply :=
  match output with
  | none => { status := .invalidArgument }
  | some buffer =>
      if !buffer.present || buffer.size < bytes.length then
        { status := .bufferTooSmall, output := .required bytes.length }
      else { status := .ok, output := .bytes bytes }

variable (algorithm : Algorithm)

def hashName : Option String :=
  if algorithm = .sha2_256 then some "SHA-256"
  else if algorithm = .sha2_384 then some "SHA-384"
  else if algorithm = .sha2_512 then some "SHA-512"
  else none

def cipherName : Option String :=
  if algorithm = .aes128Gcm then some "AES-128/GCM"
  else if algorithm = .aes256Gcm then some "AES-256/GCM"
  else none

def signaturePadding : Option String :=
  if algorithm = .ecdsaP256Sha2_256 then some "EMSA1(SHA-256)"
  else if algorithm = .rsaPssSha2_256 then some "PSS(SHA-256)"
  else if algorithm = .ed25519 then some "Pure"
  else none

def symmetricKeySize : Nat :=
  if algorithm = .aes128Gcm then 16
  else if algorithm = .aes256Gcm then 32
  else if algorithm = .hmacSha2_256 ∨ algorithm = .hkdfSha2_256 then 32
  else 0

namespace Backend

def fail (status : Status) (message : String) (backend : Backend) : Reply × Backend :=
  ({ status }, { backend with lastError := message })

def botanFailure (exception : Exception) (backend : Backend) : Reply × Backend :=
  backend.fail .backendError exception.what

def findKey (handle : Nat) (backend : Backend) : Option KeyEntry := (backend.keys.find handle).map (·.value)

/-- The start fails when the generator or the thread of the worker does. -/
def start (failure : Option String) (backend : Backend) : Reply × Backend :=
  if backend.running then backend.fail .invalidState "Botan provider is already running"
  else
    match failure with
    | some what => backend.fail .entropyFailure what
    | none => ({ status := .ok }, { backend with running := true })

def stop (backend : Backend) : Backend :=
  { backend with running := false, keys := backend.keys.clear, streams := backend.streams.clear }

def storeKey (entry : KeyEntry) (output : Bool) (backend : Backend) : Reply × Backend :=
  if !output then backend.fail .invalidArgument "key handle output is null"
  else
    match backend.keys.insert entry with
    | some (handle, keys) => ({ status := .ok, output := .handle handle }, { backend with keys })
    | none => backend.fail .resourceExhausted "key capacity is exhausted"

def complete (descriptor : KeyDescriptor) : Bool := descriptor.structSize ≥ 24

/-- An encoded key is loaded as a private key, and else as a public key. -/
def loadKey (botan : Botan) (material : List Byte) (entry : KeyEntry) : Throws KeyEntry :=
  match botan.loadPrivateKey material with
  | .ok key => .ok { entry with privateKey := some key }
  | .error _ => (botan.loadPublicKey material).map fun key => { entry with publicKey := some key }

def importKey (botan : Botan) (descriptor : Option KeyDescriptor) (format : KeyFormat) (material : BytesView)
    (output : Bool) (backend : Backend) : Reply × Backend :=
  match descriptor, material with
  | some descriptor, some material =>
      if !backend.running || !complete descriptor || material.isEmpty || material.length > maximumOperationSize then
        backend.fail .invalidArgument "invalid key import request"
      else if descriptor.persistent then
        backend.fail .unsupported "persistent keys require a keystore provider"
      else
        let entry : KeyEntry := { algorithm := descriptor.algorithm, usage := descriptor.permittedUsage }
        match format with
        | .raw =>
            let required := symmetricKeySize descriptor.algorithm
            if required = 0 ∨ material.length ≠ required then
              backend.fail .invalidArgument "raw key length does not match the selected algorithm"
            else backend.storeKey { entry with secret := material } output
        | .der | .pem =>
            match loadKey botan material entry with
            | .error exception => backend.botanFailure exception
            | .ok entry => backend.storeKey entry output
        | .other => backend.fail .invalidArgument "unsupported key encoding"
  | _, _ => backend.fail .invalidArgument "invalid key import request"

/-- The name and the parameters of the private keys that are generated for an algorithm. -/
def generatedKey (algorithm : Algorithm) : Option (String × String) :=
  if algorithm = .ecdsaP256Sha2_256 ∨ algorithm = .ecdhP256 then
    some (if algorithm = .ecdhP256 then "ECDH" else "ECDSA", "secp256r1")
  else if algorithm = .rsaPssSha2_256 then some ("RSA", "2048")
  else if algorithm = .ed25519 then some ("Ed25519", "")
  else none

def generateKey (botan : Botan) (descriptor : Option KeyDescriptor) (output : Bool) (entropy : Entropy)
    (backend : Backend) : Reply × Backend :=
  match descriptor with
  | none => backend.fail .invalidArgument "invalid key generation request"
  | some descriptor =>
      if !backend.running || !complete descriptor then
        backend.fail .invalidArgument "invalid key generation request"
      else if descriptor.persistent then
        backend.fail .unsupported "persistent keys require a keystore provider"
      else
        let entry : KeyEntry := { algorithm := descriptor.algorithm, usage := descriptor.permittedUsage }
        let secretSize := symmetricKeySize descriptor.algorithm
        if secretSize ≠ 0 then
          match entropy with
          | .error exception => backend.botanFailure exception
          | .ok random => backend.storeKey { entry with secret := (List.range secretSize).map random } output
        else
          match generatedKey descriptor.algorithm with
          | none => backend.fail .unsupported "unsupported key algorithm"
          | some (name, parameters) =>
              match entropy.bind (botan.createPrivateKey name parameters) with
              | .error exception => backend.botanFailure exception
              | .ok none =>
                  backend.fail .unsupported "Botan does not provide the selected private-key algorithm"
              | .ok (some key) => backend.storeKey { entry with privateKey := some key } output

def destroyKey (handle : Nat) (backend : Backend) : Reply × Backend :=
  match backend.keys.find handle with
  | none => backend.fail .notFound "key handle is stale or unknown"
  | some _ => ({ status := .ok }, { backend with keys := backend.keys.release (SlotTable.index handle) })

section Policies

variable (algorithm : Algorithm)

/-- Each policy gives the key material that the operation then uses. -/
def macSecret (handle : Nat) (backend : Backend) : Option (List Byte) :=
  (backend.findKey handle).bind fun key =>
    if algorithm = .hmacSha2_256 ∧ key.algorithm = algorithm ∧ permits KeyUsage.macGenerate key then some key.secret
    else none

def deriveSecret (handle : Nat) (backend : Backend) : Option (List Byte) :=
  (backend.findKey handle).bind fun key =>
    if algorithm = .hkdfSha2_256 ∧ key.algorithm = algorithm ∧ permits KeyUsage.derive key then some key.secret
    else none

def aeadSecret (handle : Nat) (encrypt : Bool) (backend : Backend) :
    Option (String × List Byte) :=
  (cipherName algorithm).bind fun name => (backend.findKey handle).bind fun key =>
    if key.algorithm = algorithm ∧ permits (if encrypt then KeyUsage.encrypt else KeyUsage.decrypt) key then
      some (name, key.secret)
    else none

def signingKey (handle : Nat) (backend : Backend) : Option (String × PrivateKey) :=
  (signaturePadding algorithm).bind fun padding => (backend.findKey handle).bind fun key =>
    if key.algorithm = algorithm ∧ permits KeyUsage.sign key then key.privateKey.map fun key => (padding, key)
    else none

/-- A verification takes the public key, or the public part of the private key. -/
def publicComponent (botan : Botan) (key : KeyEntry) : Option PublicKey :=
  key.publicKey.or (key.privateKey.map botan.publicKey)

def verificationEntry (handle : Nat) (backend : Backend) : Option (String × KeyEntry) :=
  (signaturePadding algorithm).bind fun padding => (backend.findKey handle).bind fun key =>
    if key.algorithm = algorithm ∧ permits KeyUsage.verify key then some (padding, key) else none

def agreementKey (handle : Nat) (backend : Backend) : Option PrivateKey :=
  (backend.findKey handle).bind fun key =>
    if algorithm = .ecdhP256 ∧ key.algorithm = algorithm ∧ permits KeyUsage.derive key then key.privateKey else none

end Policies

section Operations

variable (botan : Botan)

def mac (algorithm : Algorithm) (handle : Nat) (input : BytesView) (output : Option Buffer)
    (backend : Backend) : Reply × Backend :=
  match backend.macSecret algorithm handle, input with
  | some secret, some input =>
      match (botan.setMacKey secret).bind fun _ => botan.mac secret input with
      | .error exception => backend.botanFailure exception
      | .ok value => (writeOutput output value, backend)
  | _, _ => backend.fail .permissionDenied "MAC key policy rejected the request"

def aead (algorithm : Algorithm) (handle : Nat) (parameters : Option AeadParameters)
    (input : BytesView) (output : Option Buffer) (encrypt : Bool) (backend : Backend) : Reply × Backend :=
  let refused := backend.fail .permissionDenied "AEAD request or key policy is invalid"
  match backend.aeadSecret algorithm handle encrypt, parameters, input with
  | some (name, secret), some parameters, some input =>
      match parameters.nonce, parameters.associatedData with
      | some nonce, some associatedData =>
          if parameters.structSize < 48 || parameters.tagSize ≠ 16 || input.length > maximumOperationSize then refused
          else
            match botan.cipher name encrypt secret associatedData nonce input with
            | .error (.integrityFailure what) => backend.fail .authenticationFailed what
            | .error exception => backend.botanFailure exception
            | .ok bytes => (writeOutput output bytes, backend)
      | _, _ => refused
  | _, _, _ => refused

def sign (algorithm : Algorithm) (handle : Nat) (message : BytesView) (output : Option Buffer)
    (entropy : Entropy) (backend : Backend) : Reply × Backend :=
  match backend.signingKey algorithm handle, message with
  | some (padding, key), some message =>
      match botan.signer key padding with
      | .error exception => backend.botanFailure exception
      | .ok () =>
          match output with
          | none => backend.fail .invalidArgument "signature output is null"
          | some buffer =>
              let maximum := botan.signatureLength key padding
              if !buffer.present || buffer.size < maximum then
                ({ status := .bufferTooSmall, output := .required maximum }, backend)
              else
                match entropy.bind (botan.signature key padding message) with
                | .error exception => backend.botanFailure exception
                | .ok signature => (writeOutput output signature, backend)
  | _, _ => backend.fail .permissionDenied "signing key policy rejected the request"

def verify (algorithm : Algorithm) (handle : Nat) (message signature : BytesView) (valid : Bool)
    (backend : Backend) : Reply × Backend :=
  match backend.verificationEntry algorithm handle, message, signature, valid with
  | some (padding, entry), some message, some signature, true =>
      match publicComponent botan entry with
      | none => backend.fail .permissionDenied "key contains no public component"
      | some key =>
          match (botan.verifier key padding).bind fun _ => botan.verify key padding message signature with
          | .error exception => backend.botanFailure exception
          | .ok verdict => ({ status := .ok, output := .valid verdict }, backend)
  | _, _, _, _ => backend.fail .permissionDenied "verification key policy rejected the request"

def derive (algorithm : Algorithm) (handle : Nat) (salt info : BytesView) (output : Option Buffer)
    (backend : Backend) : Reply × Backend :=
  match backend.deriveSecret algorithm handle, salt, info, output with
  | some secret, some salt, some info, some buffer =>
      if !buffer.present || buffer.size = 0 || buffer.size > 8160 then
        backend.fail .permissionDenied "invalid HKDF request"
      else
        match botan.hkdf secret salt info buffer.size with
        | .error exception => backend.botanFailure exception
        | .ok bytes => ({ status := .ok, output := .bytes bytes }, backend)
  | _, _, _, _ => backend.fail .permissionDenied "invalid HKDF request"

def publicValue (handle : Nat) (output : Option Buffer) (backend : Backend) : Reply × Backend :=
  match backend.agreementKey .ecdhP256 handle with
  | none => backend.fail .permissionDenied "key policy rejected public-value export"
  | some key =>
      if !botan.isAgreementKey key then backend.fail .unsupported "key does not support agreement"
      else
        match botan.publicValue key with
        | .error exception => backend.botanFailure exception
        | .ok value => (writeOutput output value, backend)

def agree (algorithm : Algorithm) (handle : Nat) (peer salt : BytesView)
    (derivedKey : Option KeyDescriptor) (output : Bool) (backend : Backend) : Reply × Backend :=
  let refused := backend.fail .permissionDenied "invalid key-agreement request"
  match backend.agreementKey algorithm handle, peer, salt, derivedKey with
  | some key, some peer, some salt, some derivedKey =>
      if peer.isEmpty || !complete derivedKey || derivedKey.persistent || !output then refused
      else if !botan.isAgreementKey key then backend.fail .unsupported "key does not support agreement"
      else
        let outputSize := symmetricKeySize derivedKey.algorithm
        if outputSize = 0 then
          backend.fail .unsupported "derived-key algorithm is not a supported symmetric algorithm"
        else
          match botan.deriveKey key outputSize peer salt with
          | .error (.invalidArgument what) => backend.fail .invalidArgument what
          | .error exception => backend.botanFailure exception
          | .ok shared =>
              backend.storeKey
                { algorithm := derivedKey.algorithm, usage := derivedKey.permittedUsage, secret := shared } output
  | _, _, _, _ => refused

end Operations

/-- The validation of a path answers whether the leaf is valid. A malformed certificate is not. -/
def validateCertificate (botan : Botan) (request : Option CertificateRequest) (output : Option Nat)
    (backend : Backend) : Reply × Backend :=
  let refused := backend.fail .invalidArgument "invalid certificate-validation request"
  match request, output with
  | some request, some structSize =>
      match request.leaf with
      | none => refused
      | some leaf =>
          if !backend.running || request.structSize < 112 || structSize < 32 || leaf.isEmpty ||
              request.trustAnchors.isEmpty then refused
          else
            match botan.validatePath request with
            | .ok verdict => ({ status := .ok, output := .valid verdict }, backend)
            | .error (.decodingError _) => ({ status := .ok, output := .valid false }, backend)
            | .error exception => backend.botanFailure exception
  | _, _ => refused

/-- The name that the library reports for the keys of an algorithm in a certificate. -/
def certificateName (algorithm : Algorithm) : Option String :=
  if algorithm = .ecdsaP256Sha2_256 then some "ECDSA"
  else if algorithm = .rsaPssSha2_256 then some "RSA"
  else if algorithm = .ed25519 then some "Ed25519"
  else none

def importSubjectKey (botan : Botan) (leaf : List Byte) (descriptor : KeyDescriptor) (backend : Backend) :
    Reply × Backend :=
  if !backend.running then backend.fail .shuttingDown "provider is stopping"
  else
    match botan.subjectPublicKey leaf with
    | .error exception => backend.botanFailure exception
    | .ok key =>
        if certificateName descriptor.algorithm ≠ some key.algoName then
          backend.fail .invalidArgument "certificate key does not match the requested algorithm"
        else
          backend.storeKey
            { algorithm := descriptor.algorithm, usage := descriptor.permittedUsage, publicKey := some key } true

def validateAndImportCertificatePublicKey (botan : Botan) (request : Option CertificateRequest)
    (descriptor : Option KeyDescriptor) (validation : Option Nat) (output : Bool) (backend : Backend) :
    Reply × Backend :=
  match descriptor with
  | none => ({ status := .invalidArgument }, backend)
  | some descriptor =>
      if !complete descriptor || !output || descriptor.permittedUsage ≠ KeyUsage.verify || descriptor.persistent then
        ({ status := .invalidArgument }, backend)
      else
        let validated := backend.validateCertificate botan request validation
        match validated.1, request.bind (·.leaf) with
        | ⟨.ok, .valid true⟩, some leaf => validated.2.importSubjectKey botan leaf descriptor
        | _, _ => validated

end Backend

end OpenVehicle.Crypto
