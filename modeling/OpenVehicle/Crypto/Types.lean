/-
This file defines the types of the cryptographic provider interface, and the functions of the library behind it.
-/

namespace OpenVehicle.Crypto

abbrev Byte := UInt8

inductive Status where
  | ok
  | invalidArgument
  | incompatibleAbi
  | invalidState
  | notFound
  | permissionDenied
  | unsupported
  | resourceExhausted
  | bufferTooSmall
  | authenticationFailed
  | entropyFailure
  | backendError
  | shuttingDown
  | cancelled
  | deadlineExceeded
  deriving DecidableEq, Repr

/-- A caller may choose any algorithm number. -/
abbrev Algorithm := UInt32

namespace Algorithm

def sha2_256 : Algorithm := 0x0101

def sha2_384 : Algorithm := 0x0102

def sha2_512 : Algorithm := 0x0103

def hmacSha2_256 : Algorithm := 0x0201

def aes128Gcm : Algorithm := 0x0301

def aes256Gcm : Algorithm := 0x0302

def hkdfSha2_256 : Algorithm := 0x0401

def ecdsaP256Sha2_256 : Algorithm := 0x0501

def rsaPssSha2_256 : Algorithm := 0x0502

def ed25519 : Algorithm := 0x0503

def ecdhP256 : Algorithm := 0x0601

end Algorithm

namespace KeyUsage

def sign : UInt32 := 1

def verify : UInt32 := 2

def encrypt : UInt32 := 4

def decrypt : UInt32 := 8

def macGenerate : UInt32 := 16

def derive : UInt32 := 64

end KeyUsage

inductive KeyFormat where
  | raw
  | der
  | pem
  | other
  deriving DecidableEq, Repr

/-- A view without a value has a size and no data. -/
abbrev BytesView := Option (List Byte)

/-- A buffer of the caller may have a size and no data. -/
structure Buffer where
  present : Bool
  size : Nat
  deriving DecidableEq, Repr

structure KeyDescriptor where
  structSize : Nat := 24
  algorithm : Algorithm
  permittedUsage : UInt32
  persistent : Bool := false
  deriving DecidableEq, Repr

structure AeadParameters where
  structSize : Nat := 48
  nonce : BytesView
  associatedData : BytesView
  tagSize : Nat := 16
  deriving DecidableEq, Repr

inductive StreamOperation where
  | hash
  | mac
  | sign
  | verify
  | aeadEncryptRecords
  | aeadDecryptRecords
  | other
  deriving DecidableEq, Repr

structure StreamDescriptor where
  structSize : Nat := 80
  operation : StreamOperation
  algorithm : Algorithm
  key : Nat
  aead : AeadParameters := ⟨0, some [], some [], 0⟩
  deriving DecidableEq, Repr

structure CertificateRequest where
  structSize : Nat := 112
  leaf : BytesView
  intermediates : List (List Byte) := []
  trustAnchors : List (List Byte)
  crls : List (List Byte) := []
  expectedName : List Byte := []
  validationTime : UInt64 := 0
  minimumSecurityBits : UInt32 := 0
  usage : UInt32 := 0
  requireRevocation : Bool := false
  requireSelfSignedAnchor : Bool := false
  deriving DecidableEq, Repr

/-- A key of the library reports the name of its algorithm. -/
structure PublicKey where
  algoName : String
  encoding : List Byte
  deriving DecidableEq, Repr

structure PrivateKey where
  algoName : String
  encoding : List Byte
  deriving DecidableEq, Repr

/-- A function of the library may throw. The exception carries a text. -/
inductive Exception where
  | integrityFailure (what : String)
  | invalidArgument (what : String)
  | decodingError (what : String)
  | other (what : String)
  deriving DecidableEq, Repr

def Exception.what : Exception → String
  | .integrityFailure what | .invalidArgument what | .decodingError what | .other what => what

abbrev Throws (A : Type) := Except Exception A

/-- The random bytes that the generator of the library supplies to one call. -/
abbrev Entropy := Throws (Nat → Byte)

/-- The functions of the library that the provider calls. -/
structure Botan where
  loadPrivateKey : List Byte → Throws PrivateKey
  loadPublicKey : List Byte → Throws PublicKey
  createPrivateKey : String → String → (Nat → Byte) → Throws (Option PrivateKey)
  publicKey : PrivateKey → PublicKey
  isAgreementKey : PrivateKey → Bool
  publicValue : PrivateKey → Throws (List Byte)
  deriveKey : PrivateKey → Nat → List Byte → List Byte → Throws (List Byte)
  subjectPublicKey : List Byte → Throws PublicKey
  validatePath : CertificateRequest → Throws Bool
  hash : String → List Byte → Throws (List Byte)
  hashLength : String → Nat
  setMacKey : List Byte → Throws Unit
  mac : List Byte → List Byte → Throws (List Byte)
  hkdf : List Byte → List Byte → List Byte → Nat → Throws (List Byte)
  cipher : String → Bool → List Byte → List Byte → List Byte → List Byte → Throws (List Byte)
  signer : PrivateKey → String → Throws Unit
  signatureLength : PrivateKey → String → Nat
  signature : PrivateKey → String → List Byte → (Nat → Byte) → Throws (List Byte)
  verifier : PublicKey → String → Throws Unit
  verify : PublicKey → String → List Byte → List Byte → Throws Bool

end OpenVehicle.Crypto
