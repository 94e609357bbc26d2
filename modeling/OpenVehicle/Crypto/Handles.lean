/-
This file proves over all runs of the provider what the handles of keys and streams resolve to.
-/

import OpenVehicle.Concurrency.System
import OpenVehicle.Crypto.Provider

namespace OpenVehicle.Crypto

open Concurrency (System)
open Data (SlotTable)

/-- A session is the provider with the handles that its calls have returned. -/
structure Session where
  backend : Backend
  issuedKeys : SlotTable.Issued := []
  issuedStreams : SlotTable.Issued := []

/-- A returned handle belongs to the object that the call has stored. -/
def issue (makes : Bool) (stored : Nat) (reply : Reply) (issued : SlotTable.Issued) : SlotTable.Issued :=
  ((if makes then reply.handle else none).map fun handle => (handle, stored)).toList ++ issued

def Session.step (botan : Botan) (call : Call) (session : Session) : Session :=
  let result := session.backend.call botan call
  { backend := result.2
    issuedKeys := issue call.makesKey session.backend.keys.stored result.1 session.issuedKeys
    issuedStreams := issue call.makesStream session.backend.streams.stored result.1 session.issuedStreams }

def system (botan : Botan) : System Session Call where
  perform call session := some (session.step botan call)

/-- No slot of a key or of a stream has been released too often. -/
def fewReleases (session : Session) : Bool :=
  session.backend.keys.releases.all (· < 2 ^ 32 - 1) && session.backend.streams.releases.all (· < 2 ^ 32 - 1)

def Call.isStop : Call → Bool
  | .stop => true
  | _ => false

/-- The provider stops only without keys and without streams. -/
def stopsEmpty (session : Session) (call : Call) : Bool :=
  !call.isStop || session.backend.keys.isEmpty && session.backend.streams.isEmpty

/-- What the handles promise at every point of a session. -/
structure HandlesSound (session : Session) : Prop where
  keys : session.backend.keys.Faithful session.issuedKeys
  streams : session.backend.streams.Faithful session.issuedStreams

section Runs
variable {botan : Botan} {session : Session} {call : Call} {maxKeys maxContexts : UInt32} {backend : Backend}

def Tracked (session : Session) : Prop :=
  session.backend.keys.Sound session.issuedKeys ∧ session.backend.streams.Sound session.issuedStreams

theorem tracked_step (tracked : Tracked session) (few : fewReleases (session.step botan call) = true)
    (stops : stopsEmpty session call = true) : Tracked (session.step botan call) := by
  obtain ⟨keys, streams⟩ := @call_effect botan session.backend call
  simp only [fewReleases, Bool.and_eq_true, List.all_eq_true, decide_eq_true_eq] at few
  have vacant (same : call = .stop) :
      session.backend.keys.isEmpty = true ∧ session.backend.streams.isEmpty = true := by
    subst same
    exact Bool.and_eq_true_iff.mp stops
  exact ⟨keys.sound tracked.1 few.1 fun same => (vacant same).1,
    streams.sound tracked.2 few.2 fun same => (vacant same).2⟩

theorem tracked_create (created : create maxKeys maxContexts = some backend) : Tracked ⟨backend, [], []⟩ := by
  unfold create at created
  split at created
  · cases created
  · cases created
    exact ⟨SlotTable.sound_empty maxKeys.toNat_lt, SlotTable.sound_empty maxContexts.toNat_lt⟩

/-- In every run that stops the provider only when it is empty, the handles are sound. -/
theorem handles_sound (created : create maxKeys maxContexts = some backend) (reached : (system botan).Reaches
      (fun session call => fewReleases (session.step botan call) = true ∧ stopsEmpty session call = true)
      ⟨backend, [], []⟩ session) : HandlesSound session := by
  have tracked : Tracked session := by
    apply reached.invariant (tracked_create created)
    intro before call later tracked allowed performed
    cases performed
    exact tracked_step tracked allowed.1 allowed.2
  exact ⟨tracked.1.faithful, tracked.2.faithful⟩

end Runs

/-- A library with one encoded private key, whose keys are as long as they must be. -/
def sample : Botan where
  loadPrivateKey material := if material = [1] then .ok ⟨"RSA", material⟩ else .error (.decodingError "PKCS8")
  loadPublicKey _ := .error (.decodingError "X509")
  createPrivateKey name _ _ := .ok (some ⟨name, []⟩)
  publicKey key := ⟨key.algoName, key.encoding⟩
  isAgreementKey key := key.algoName == "ECDH"
  publicValue key := .ok key.encoding
  deriveKey _ size _ _ := .ok (List.replicate size 0)
  subjectPublicKey _ := .error (.decodingError "X509")
  validatePath _ := .ok true
  hash _ input := .ok input
  hashLength _ := 32
  setMacKey _ := .ok ()
  mac _ input := .ok input
  hkdf _ _ _ size := .ok (List.replicate size 0)
  cipher _ _ _ _ _ _ := .error (.integrityFailure "tag")
  signer _ _ := .ok ()
  signatureLength _ _ := 0
  signature _ _ _ _ := .ok []
  verifier _ _ := .ok ()
  verify _ _ _ _ := .ok true

def opened : Backend where
  keys := .empty 1
  streams := .empty 1

def secretKey : Call :=
  .importKey (some ⟨24, .aes128Gcm, KeyUsage.encrypt, false⟩) .raw (some (List.replicate 16 7)) true

abbrev Schedule := List (Session → Call)

def always (call : Call) : Session → Call := fun _ => call

/-- A key is imported and destroyed, and another key takes its slot. -/
def importing : Schedule :=
  [always (.start none), always secretKey, always (.destroyKey (SlotTable.handle 0 1)), always secretKey]

def wellUsed (session : Session) (call : Call) : Bool :=
  fewReleases (session.step sample call) && stopsEmpty session call

/-- A slot is used twice and gives two handles. -/
theorem handles_sound_importing : ∃ session, HandlesSound session ∧
    session.issuedKeys = [(SlotTable.handle 0 2, 1), (SlotTable.handle 0 1, 0)] := by
  obtain ⟨session, reached, holds⟩ := System.Reaches.exists_of_run wellUsed
    (fun _ _ permitted => Bool.and_eq_true_iff.mp permitted) importing
    (fun session => session.issuedKeys == [(SlotTable.handle 0 2, 1), (SlotTable.handle 0 1, 0)])
    (by decide +kernel : (((system sample).run wellUsed importing ⟨opened, [], []⟩).any _) = true)
  exact ⟨session, handles_sound (rfl : create 1 1 = some opened) reached, beq_iff_eq.mp holds⟩

/-- The provider stops with a key and starts again, and another key takes the slot. -/
def restarting : Schedule :=
  [always (.start none), always secretKey, always .stop, always (.start none), always secretKey]

/-- The handle of the key that the stop has cleared resolves to another key. -/
theorem cleared_handle_resolves : ¬∀ session,
    (system sample).Reaches (fun session call => fewReleases (session.step sample call) = true)
      ⟨opened, [], []⟩ session → HandlesSound session := by
  intro claimed
  obtain ⟨session, reached, holds⟩ := System.Reaches.exists_of_run
    (fun session call => fewReleases (session.step sample call)) (fun _ _ permitted => permitted) restarting
    (fun session => session.issuedKeys == [(SlotTable.handle 0 1, 1), (SlotTable.handle 0 1, 0)] &&
      (session.backend.keys.find (SlotTable.handle 0 1)).any (·.identity == 1))
    (by decide +kernel : (((system sample).run _ restarting ⟨opened, [], []⟩).any _) = true)
  simp only [Bool.and_eq_true, beq_iff_eq, Option.any_eq_true] at holds
  obtain ⟨issued, occupant, found, other⟩ := holds
  have own := (claimed session reached).keys.own (SlotTable.handle 0 1, 0) (by simp [issued]) occupant found
  rw [other] at own
  cases own

end OpenVehicle.Crypto
