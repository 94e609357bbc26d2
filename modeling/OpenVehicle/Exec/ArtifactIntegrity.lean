/-
This file models the verification of the runtime artifacts, and it proves that the verification accepts exactly the
files that the manifest records.
-/

import OpenVehicle.Data.Json
import OpenVehicle.Data.Sorting
import OpenVehicle.Exec.Types

namespace OpenVehicle.Exec.ArtifactIntegrity

open Data

/-- Paths, names and contents are sequences of bytes. -/
abbrev Bytes := List UInt8

structure RuntimeArtifactPaths where
  executionModel : Bytes
  backendConfiguration : Bytes
  servicesDirectory : Bytes
  manifest : Bytes
  deriving DecidableEq, Repr

def kMaximumArtifactSize : Nat := 16 * 1024 * 1024

def kMaximumServiceFiles : Nat := 4096

def separator : UInt8 := '/'.toUInt8

/-- A directory lists its entries in any order. -/
structure Directory where
  entries : List Bytes
  distinct : entries.Nodup
  plain : ∀ entry ∈ entries, separator ∉ entry
  opens : Bool

/-- A link is neither a file nor a directory, since a status does not follow it. -/
inductive Node where
  | regular (content : Bytes) (readable : Bool)
  | directory (directory : Directory)
  | other

abbrev FileSystem := Bytes → Option Node

section Functions
variable (files : FileSystem) (digest : Bytes → Bytes)

def readArtifact (path : Bytes) : Except Error Bytes :=
  match files path with
  | some (.regular content readable) =>
      if content.length > kMaximumArtifactSize then
        .error (makeError .resourceExhausted "runtime artifact exceeds size limit")
      else if readable then .ok content
      else .error (makeError .configurationError "runtime artifact cannot be read")
  | _ => .error (makeError .configurationError ("runtime artifact is not a regular file: " ++ text path))

def baseName (path : Bytes) : Bytes := (path.reverse.takeWhile (· != separator)).reverse

def hexadecimal (character : UInt8) : Bool :=
  ('0'.toUInt8 ≤ character && character ≤ '9'.toUInt8) || ('a'.toUInt8 ≤ character && character ≤ 'f'.toUInt8)

def fingerprint (value : Json) : Bool := value.isString && value.asString.length == 64 && value.asString.all hexadecimal

def verifyFile (content : Bytes) (expected : Json) (description : String) : Except Error Unit :=
  if !fingerprint expected || digest content != expected.asString then
    .error (makeError .configurationError (description ++ " failed integrity verification"))
  else .ok ()

def mismatch : Error := makeError .configurationError "runtime artifact manifest does not match deployment paths"

/-- The conversion of the version throws when the version is negative. -/
def matchPaths (paths : RuntimeArtifactPaths) (manifest : Json) : Except Error Unit :=
  if !(manifest.get "artifactVersion").isIntegral then .error mismatch
  else
    match (manifest.get "artifactVersion").asUInt64 with
    | none => .error (makeError .resourceExhausted "runtime artifact verification exhausted resources")
    | some version =>
        if version != 2 ||
            !(manifest.get "applicationArtifacts").isArray ||
            !(manifest.get "backendConfiguration").isString ||
            !(manifest.get "servicesDirectory").isString ||
            (manifest.get "backendConfiguration").asString != baseName paths.backendConfiguration ||
            (manifest.get "servicesDirectory").asString != baseName paths.servicesDirectory ||
            !(manifest.get "serviceFingerprints").isObject then
          .error mismatch
        else .ok ()

def application (value : Json) : Bool :=
  value.isObject && (value.get "name").isString && !(value.get "name").asString.isEmpty &&
    (value.get "bazelTarget").isString && (value.get "installPath").isString &&
    !(value.get "installPath").asString.isEmpty && (value.get "installPath").asString.head? != some separator &&
    fingerprint (value.get "sha256")

variable (manifest : Json)

def bindApplications : Except Error Unit :=
  if (manifest.get "applicationArtifacts").items.all application then .ok ()
  else .error (makeError .configurationError "runtime artifact manifest has an invalid application binding")

/-- The fields that the checks of the manifest read. -/
def manifestFields : List String :=
  ["artifactVersion", "applicationArtifacts", "backendConfiguration", "servicesDirectory", "serviceFingerprints",
    "executionModelArtifactFingerprint", "backendConfigurationFingerprint"]

/-- A check enters the missing fields that it reads. A check that fails drops the manifest. -/
def enterFields : Json := manifestFields.foldl (fun manifest key => (manifest.index key).2) manifest

/-- A name that the manifest does not have is entered there. -/
def lookUp (name : String) : Json × Json :=
  let (services, entered) := manifest.index "serviceFingerprints"
  let (expected, changed) := services.index name
  (expected, if services.isMember name then entered else entered.set "serviceFingerprints" changed)

def special (name : Bytes) : Bool := name == ['.'.toUInt8] || name == ['.'.toUInt8, '.'.toUInt8]

/-- The loop reads the entries of the directory with the manifest that it changes. -/
def verifyServices (path : Bytes) : List Bytes → Json → List Bytes → Except Error (Json × List Bytes)
  | [], manifest, observed => .ok (manifest, observed)
  | name :: rest, manifest, observed =>
      if special name then verifyServices path rest manifest observed
      else if observed.length ≥ kMaximumServiceFiles ∨ separator ∈ name then
        .error (makeError .configurationError "generated service directory contains an invalid entry")
      else
        let (expected, manifest) := lookUp manifest (text name)
        match readArtifact files (path ++ separator :: name) with
        | .error error => .error error
        | .ok content =>
            match verifyFile digest content expected "service description" with
            | .error error => .error error
            | .ok () => verifyServices path rest manifest (observed ++ [name])

def openServices (path : Bytes) : Except Error Directory :=
  match files path with
  | some (.directory directory) =>
      if directory.opens then .ok directory
      else .error (makeError .configurationError "generated service directory cannot be opened")
  | _ => .error (makeError .configurationError "generated service directory is invalid")

def compareNames (observed : List Bytes) : Except Error Unit :=
  if sortBy id (observed.map text) != sortBy id (manifest.index "serviceFingerprints").1.memberNames then
    .error (makeError .configurationError "generated service directory is incomplete")
  else .ok ()

variable (parse : Bytes → Option Json)

def parseManifest (content : Bytes) : Except Error Json :=
  match parse content with
  | none => .error mismatch
  | some value => if value.isObject then .ok value else .error mismatch

def verifyRuntimeArtifacts (paths : RuntimeArtifactPaths) : Except Error Unit := do
  let model ← readArtifact files paths.executionModel
  let backend ← readArtifact files paths.backendConfiguration
  let content ← readArtifact files paths.manifest
  let manifest ← parseManifest parse content
  matchPaths paths manifest
  bindApplications manifest
  let manifest := enterFields manifest
  verifyFile digest model (manifest.get "executionModelArtifactFingerprint") "execution model"
  verifyFile digest backend (manifest.get "backendConfigurationFingerprint") "backend configuration"
  let directory ← openServices files paths.servicesDirectory
  let (manifest, observed) ← verifyServices files digest paths.servicesDirectory directory.entries manifest []
  compareNames manifest observed

end Functions

section Purpose
variable (files : FileSystem) (digest : Bytes → Bytes)

/-- The files of a directory are its entries for other nodes. -/
def Directory.names (directory : Directory) : List Bytes := directory.entries.filter (!special ·)

/-- A path leads to a regular file that can be read and is not too large. -/
def Artifact (path content : Bytes) : Prop :=
  files path = some (.regular content true) ∧ content.length ≤ kMaximumArtifactSize

/-- The manifest has the digest of a content. -/
def Recorded (content : Bytes) (expected : Json) : Prop :=
  expected = .string (digest content) ∧ (digest content).length = 64 ∧ ∀ letter ∈ digest content, hexadecimal letter

/-- A file of a directory has the digest that the manifest has for its name. -/
def Intact (path : Bytes) (services : Json) (file : Bytes) : Prop :=
  ∃ content, Artifact files (path ++ separator :: file) content ∧ Recorded digest content (services.get (text file))

/-- An application has a name, a target, a relative path and a digest. -/
structure Application (value : Json) : Prop where
  object : value.isObject = true
  name : ∃ name, value.get "name" = .string name ∧ name ≠ []
  bazelTarget : ∃ target, value.get "bazelTarget" = .string target
  installPath : ∃ first rest, value.get "installPath" = .string (first :: rest) ∧ first ≠ separator
  sha256 : ∃ digest, value.get "sha256" = .string digest ∧ digest.length = 64 ∧ ∀ letter ∈ digest, hexadecimal letter

structure WellFormed (paths : RuntimeArtifactPaths) (manifest : Json) : Prop where
  object : manifest.isObject = true
  integral : (manifest.get "artifactVersion").isIntegral = true
  version : (manifest.get "artifactVersion").asUInt64 = some 2
  applications : ∃ values, manifest.get "applicationArtifacts" = .array values ∧ ∀ value ∈ values, Application value
  backendConfiguration : manifest.get "backendConfiguration" = .string (baseName paths.backendConfiguration)
  servicesDirectory : manifest.get "servicesDirectory" = .string (baseName paths.servicesDirectory)
  serviceFingerprints : ∃ services, manifest.get "serviceFingerprints" = .object services

/-- The directory has the files that the manifest names, and each of them has the recorded digest. -/
structure Complete (path : Bytes) (directory : Directory) (services : Json) : Prop where
  names : ∀ name, services.isMember name = true ↔ ∃ file ∈ directory.names, text file = name
  few : directory.names.length ≤ kMaximumServiceFiles
  intact : ∀ file ∈ directory.names, Intact files digest path services file

structure Verified (parse : Bytes → Option Json) (paths : RuntimeArtifactPaths) (model backend content : Bytes)
    (manifest : Json) (directory : Directory) : Prop where
  modelFile : Artifact files paths.executionModel model
  backendFile : Artifact files paths.backendConfiguration backend
  manifestFile : Artifact files paths.manifest content
  parsed : parse content = some manifest
  wellFormed : WellFormed paths manifest
  executionModel : Recorded digest model (manifest.get "executionModelArtifactFingerprint")
  backendConfiguration : Recorded digest backend (manifest.get "backendConfigurationFingerprint")
  services : files paths.servicesDirectory = some (.directory directory)
  opens : directory.opens = true
  complete : Complete files digest paths.servicesDirectory directory (manifest.get "serviceFingerprints")

end Purpose

variable {digest : Bytes → Bytes} {directory : Directory} {path content : Bytes} {files : FileSystem}

section Steps
variable {value manifest : Json}

theorem bind_ok {E A B : Type} {first : Except E A} {next : A → Except E B} {b : B} :
    (first >>= next) = .ok b ↔ ∃ a, first = .ok a ∧ next a = .ok b := by
  cases first with
  | error error =>
      constructor
      · intro failed
        cases failed
      · rintro ⟨_, failed, _⟩
        cases failed
  | ok a =>
      constructor
      · intro passed
        exact ⟨a, rfl, passed⟩
      · rintro ⟨_, same, passed⟩
        cases same
        exact passed

theorem readArtifact_ok : readArtifact files path = .ok content ↔ Artifact files path content := by
  unfold readArtifact Artifact
  split
  · rename_i stored readable found
    rw [found]
    by_cases large : stored.length > kMaximumArtifactSize
    · rw [if_pos large]
      constructor
      · intro failed
        cases failed
      · rintro ⟨same, small⟩
        cases same
        omega
    · rw [if_neg large]
      cases readable with
      | false => simp
      | true =>
          constructor
          · intro same
            cases same
            exact ⟨rfl, by omega⟩
          · rintro ⟨same, _⟩
            cases same
            rfl
  · rename_i irregular
    constructor
    · intro failed
      cases failed
    · rintro ⟨found, _⟩
      exact absurd found (irregular content true)

theorem isString_iff {value : Json} {bytes : Bytes} :
    value.isString = true ∧ value.asString = bytes ↔ value = .string bytes := by
  cases value <;> simp [Json.isString, Json.asString]

theorem fingerprint_iff : fingerprint value = true ↔
      ∃ stored, value = .string stored ∧ stored.length = 64 ∧ ∀ letter ∈ stored, hexadecimal letter := by
  unfold fingerprint
  rw [Bool.and_eq_true, Bool.and_eq_true, beq_iff_eq, List.all_eq_true]
  constructor
  · rintro ⟨⟨string, size⟩, letters⟩
    exact ⟨_, isString_iff.mp ⟨string, rfl⟩, size, letters⟩
  · rintro ⟨stored, rfl, size, letters⟩
    exact ⟨⟨rfl, size⟩, letters⟩

theorem verifyFile_ok {description : String} :
    verifyFile digest content value description = .ok () ↔ Recorded digest content value := by
  unfold verifyFile
  split
  · rename_i refused
    constructor
    · intro failed
      cases failed
    · rintro ⟨same, size, letters⟩
      rw [Bool.or_eq_true, Bool.not_eq_true', bne_iff_ne] at refused
      rcases refused with refused | refused
      · rw [fingerprint_iff.mpr ⟨_, same, size, letters⟩] at refused
        cases refused
      · exact absurd (isString_iff.mpr same).2.symm refused
  · rename_i accepted
    simp only [Bool.or_eq_true, Bool.not_eq_true', bne_iff_ne, not_or, Bool.not_eq_false, ne_eq,
      Decidable.not_not] at accepted
    obtain ⟨stored, same, size, letters⟩ := fingerprint_iff.mp accepted.1
    have equal : digest content = stored := accepted.2.trans (isString_iff.mpr same).2
    subst equal
    exact iff_of_true rfl ⟨same, size, letters⟩

theorem parseManifest_ok {parse : Bytes → Option Json} :
    parseManifest parse content = .ok manifest ↔ parse content = some manifest ∧ manifest.isObject = true := by
  unfold parseManifest
  cases parse content with
  | none => simp
  | some parsed =>
      dsimp only
      split
      · rename_i object
        simp only [Except.ok.injEq, Option.some.injEq]
        exact ⟨fun same => ⟨same, same ▸ object⟩, And.left⟩
      · rename_i scalar
        simp only [Option.some.injEq, reduceCtorEq, false_iff, not_and]
        exact fun same object => scalar (same ▸ object)

theorem matchPaths_ok {paths : RuntimeArtifactPaths} : matchPaths paths manifest = .ok () ↔
      (manifest.get "artifactVersion").isIntegral = true ∧ (manifest.get "artifactVersion").asUInt64 = some 2 ∧
        (manifest.get "applicationArtifacts").isArray = true ∧
        manifest.get "backendConfiguration" = .string (baseName paths.backendConfiguration) ∧
        manifest.get "servicesDirectory" = .string (baseName paths.servicesDirectory) ∧
        (manifest.get "serviceFingerprints").isObject = true := by
  unfold matchPaths
  rw [← isString_iff, ← isString_iff]
  cases integral : (manifest.get "artifactVersion").isIntegral with
  | false => simp
  | true =>
      cases (manifest.get "artifactVersion").asUInt64 with
      | none => simp
      | some version =>
          rw [if_neg (by decide)]
          dsimp only
          split
          · rename_i refused
            simp only [Bool.or_eq_true, bne_iff_ne, Bool.not_eq_true'] at refused
            simp only [reduceCtorEq, Option.some.injEq, true_and, false_iff]
            rintro ⟨rfl, array, ⟨backend, first⟩, ⟨services, second⟩, object⟩
            simp [array, backend, services, first, second, object] at refused
          · rename_i accepted
            simp only [Bool.or_eq_true, bne_iff_ne, Bool.not_eq_true', not_or, ne_eq, Decidable.not_not,
              Bool.not_eq_false] at accepted
            obtain ⟨⟨⟨⟨⟨⟨rfl, array⟩, backend⟩, services⟩, first⟩, second⟩, object⟩ := accepted
            exact iff_of_true rfl ⟨rfl, rfl, array, ⟨backend, first⟩, ⟨services, second⟩, object⟩

theorem application_iff : application value = true ↔ Application value := by
  unfold application
  simp only [Bool.and_eq_true, Bool.not_eq_true', bne_iff_ne, List.isEmpty_eq_false_iff]
  constructor
  · rintro ⟨⟨⟨⟨⟨⟨⟨object, name⟩, named⟩, target⟩, install⟩, nonempty⟩, relative⟩, sha256⟩
    have install := isString_iff.mp ⟨install, rfl⟩
    refine ⟨object, ⟨_, isString_iff.mp ⟨name, rfl⟩, named⟩, ⟨_, isString_iff.mp ⟨target, rfl⟩⟩, ?_,
      fingerprint_iff.mp sha256⟩
    cases path : (value.get "installPath").asString with
    | nil => exact absurd path nonempty
    | cons first rest =>
        rw [path] at install relative
        exact ⟨first, rest, install, fun same => relative (congrArg some same)⟩
  · rintro ⟨object, ⟨name, named, nonempty⟩, ⟨target, targeted⟩, ⟨first, rest, install, relative⟩, sha256⟩
    have named := isString_iff.mpr named
    have install := isString_iff.mpr install
    refine ⟨⟨⟨⟨⟨⟨⟨object, named.1⟩, named.2 ▸ nonempty⟩, (isString_iff.mpr targeted).1⟩, install.1⟩, ?_⟩, ?_⟩,
      fingerprint_iff.mpr sha256⟩
    · simp [install.2]
    · simpa [install.2] using relative

theorem bindApplications_ok : bindApplications manifest = .ok () ↔
      ∀ value ∈ (manifest.get "applicationArtifacts").items, Application value := by
  unfold bindApplications
  simp only [← application_iff, ← List.all_eq_true]
  split <;> simp_all

theorem openServices_ok :
    openServices files path = .ok directory ↔ files path = some (.directory directory) ∧ directory.opens = true := by
  unfold openServices
  split
  · rename_i listed found
    rw [found]
    split
    · rename_i opens
      simp only [Except.ok.injEq, Option.some.injEq, Node.directory.injEq]
      exact ⟨fun same => ⟨same, same ▸ opens⟩, And.left⟩
    · rename_i closed
      simp only [reduceCtorEq, Option.some.injEq, Node.directory.injEq, false_iff, not_and]
      exact fun same opens => closed (same ▸ opens)
  · rename_i other
    simp only [reduceCtorEq, false_iff, not_and]
    exact fun found => absurd found (other directory)

@[simp] theorem get_enterFields {key : String} : (enterFields manifest).get key = manifest.get key := by
  unfold enterFields manifestFields
  simp only [List.foldl_cons, List.foldl_nil, Json.get_index]

end Steps

section Services
variable {manifest value : Json}

theorem Recorded.ne_null (recorded : Recorded digest content value) : value ≠ .null := by
  rintro rfl
  cases recorded.1

theorem lookUp_fst {name : String} : (lookUp manifest name).1 = (manifest.get "serviceFingerprints").get name := rfl

/-- A name that has a value leaves the manifest as it is. -/
theorem lookUp_snd {name : String} (known : (manifest.get "serviceFingerprints").get name ≠ .null) :
    (lookUp manifest name).2 = manifest := by
  have named : (manifest.get "serviceFingerprints").isMember name = true := by
    by_contra missing
    exact known (Json.get_of_not_isMember missing)
  have present : manifest.isMember "serviceFingerprints" = true := by
    by_contra missing
    rw [Json.get_of_not_isMember missing] at named
    cases named
  simp only [lookUp, Json.index, named, present, if_true]

/-- The loop passes exactly when every file is intact, and then it has changed nothing. -/
theorem verifyServices_ok {entries observed : List Bytes} {result : Json × List Bytes}
    (plain : ∀ entry ∈ entries, separator ∉ entry) (few : observed.length ≤ kMaximumServiceFiles) :
    verifyServices files digest path entries manifest observed = .ok result ↔
      (∀ file ∈ entries.filter (!special ·), Intact files digest path (manifest.get "serviceFingerprints") file) ∧
        observed.length + (entries.filter (!special ·)).length ≤ kMaximumServiceFiles ∧
        result = (manifest, observed ++ entries.filter (!special ·)) := by
  induction entries generalizing observed with
  | nil => simp [verifyServices, few, eq_comm]
  | cons name rest ih =>
      have plainRest : ∀ entry ∈ rest, separator ∉ entry := fun entry listed => plain entry (.tail _ listed)
      unfold verifyServices
      cases skipped : special name with
      | true =>
          rw [if_pos rfl, List.filter_cons_of_neg (by rw [skipped]; decide)]
          exact ih plainRest few
      | false =>
          rw [if_neg (by decide), List.filter_cons_of_pos (by rw [skipped]; rfl)]
          simp only [List.forall_mem_cons, List.length_cons]
          by_cases full : observed.length ≥ kMaximumServiceFiles ∨ separator ∈ name
          · rw [if_pos full]
            rcases full with full | inside
            · refine iff_of_false (by intro failed; cases failed) ?_
              rintro ⟨_, room, _⟩
              omega
            · exact absurd inside (plain name (.head _))
          · rw [if_neg full]
            rw [not_or, ge_iff_le, not_le] at full
            by_cases intact : Intact files digest path (manifest.get "serviceFingerprints") name
            · obtain ⟨content, stored, recorded⟩ := id intact
              have same : lookUp manifest (text name) =
                  ((manifest.get "serviceFingerprints").get (text name), manifest) :=
                Prod.ext lookUp_fst (lookUp_snd recorded.ne_null)
              rw [same]
              rw [readArtifact_ok.mpr stored]
              dsimp only
              rw [verifyFile_ok.mpr recorded]
              rw [ih plainRest (by rw [List.length_append, List.length_singleton]; omega)]
              rw [List.length_append, List.length_singleton, List.append_assoc, List.singleton_append,
                Nat.add_assoc, Nat.add_comm 1]
              simp only [intact, true_and]
            · refine iff_of_false ?_ fun passed => intact passed.1.1
              intro passed
              split at passed
              · cases passed
              · rename_i content stored
                split at passed
                · cases passed
                · rename_i recorded
                  exact intact ⟨content, readArtifact_ok.mp stored, verifyFile_ok.mp recorded⟩

theorem compareNames_ok {observed : List Bytes} (distinct : observed.Nodup) : compareNames manifest observed = .ok () ↔
      ∀ name, (manifest.get "serviceFingerprints").isMember name = true ↔ ∃ file ∈ observed, text file = name := by
  have names : compareNames manifest observed = .ok () ↔
      (observed.map text).Perm (manifest.get "serviceFingerprints").memberNames := by
    rw [← sortBy_id_eq_iff]
    unfold compareNames
    change _ ↔ sortBy id (observed.map text) = sortBy id (manifest.index "serviceFingerprints").1.memberNames
    split
    · rename_i different
      exact iff_of_false (by intro failed; cases failed) (bne_iff_ne.mp different)
    · rename_i same
      exact iff_of_true rfl (by_contra fun different => same (bne_iff_ne.mpr different))
  rw [names, List.perm_ext_iff_of_nodup (distinct.map text_injective) (Json.nodup_memberNames _)]
  simp only [Json.mem_memberNames, List.mem_map]
  exact forall_congr' fun name => Iff.comm

end Services

section Verification
variable (files : FileSystem) (digest : Bytes → Bytes) (parse : Bytes → Option Json) (paths : RuntimeArtifactPaths)

theorem Directory.names_nodup (directory : Directory) : directory.names.Nodup := directory.distinct.filter _

theorem wellFormed_iff {manifest : Json} : WellFormed paths manifest ↔
      manifest.isObject = true ∧ matchPaths paths manifest = .ok () ∧ bindApplications manifest = .ok () := by
  rw [matchPaths_ok, bindApplications_ok]
  constructor
  · rintro ⟨object, integral, version, ⟨values, applications, valid⟩, backend, services, ⟨fields, fingerprints⟩⟩
    refine ⟨object, ⟨integral, version, ?_, backend, services, ?_⟩, ?_⟩
    · rw [applications]
      rfl
    · rw [fingerprints]
      rfl
    · rw [applications]
      exact valid
  · rintro ⟨object, ⟨integral, version, array, backend, services, fingerprints⟩, valid⟩
    refine ⟨object, integral, version, ?_, backend, services, ?_⟩
    · cases applications : manifest.get "applicationArtifacts" with
      | array values => exact ⟨values, rfl, by rwa [applications] at valid⟩
      | _ =>
          rw [applications] at array
          cases array
    · cases stored : manifest.get "serviceFingerprints" with
      | object fields => exact ⟨fields, rfl⟩
      | _ =>
          rw [stored] at fingerprints
          cases fingerprints

theorem complete_iff {path : Bytes} {manifest : Json} :
    Complete files digest path directory (manifest.get "serviceFingerprints") ↔
      ∃ result, verifyServices files digest path directory.entries manifest [] = .ok result ∧
        compareNames result.1 result.2 = .ok () := by
  have empty : ([] : List Bytes).length ≤ kMaximumServiceFiles := Nat.zero_le _
  simp only [verifyServices_ok directory.plain empty, List.length_nil, Nat.zero_add, List.nil_append]
  constructor
  · rintro ⟨names, few, intact⟩
    exact ⟨_, ⟨intact, few, rfl⟩, (compareNames_ok directory.names_nodup).mpr names⟩
  · rintro ⟨_, ⟨intact, few, rfl⟩, compared⟩
    exact ⟨(compareNames_ok directory.names_nodup).mp compared, few, intact⟩

theorem verifyRuntimeArtifacts_ok : verifyRuntimeArtifacts files digest parse paths = .ok () ↔
      ∃ model backend content manifest directory,
        Verified files digest parse paths model backend content manifest directory := by
  unfold verifyRuntimeArtifacts
  simp only [bind_ok, readArtifact_ok, parseManifest_ok, openServices_ok]
  constructor
  · rintro ⟨model, modelFile, backend, backendFile, content, manifestFile, manifest, ⟨parsed, object⟩, ⟨⟩, matched,
      ⟨⟩, bound, ⟨⟩, executionModel, ⟨⟩, configuration, directory, ⟨services, opens⟩, result, verified, compared⟩
    rw [get_enterFields] at executionModel configuration
    have complete := (complete_iff files digest).mpr ⟨result, verified, compared⟩
    rw [get_enterFields] at complete
    exact ⟨model, backend, content, manifest, directory, modelFile, backendFile, manifestFile, parsed,
      (wellFormed_iff paths).mpr ⟨object, matched, bound⟩, verifyFile_ok.mp executionModel,
      verifyFile_ok.mp configuration, services, opens, complete⟩
  · rintro ⟨model, backend, content, manifest, directory, modelFile, backendFile, manifestFile, parsed, wellFormed,
      executionModel, configuration, services, opens, complete⟩
    obtain ⟨object, matched, bound⟩ := (wellFormed_iff paths).mp wellFormed
    rw [← get_enterFields] at complete executionModel configuration
    obtain ⟨result, verified, compared⟩ := (complete_iff files digest).mp complete
    exact ⟨model, modelFile, backend, backendFile, content, manifestFile, manifest, ⟨parsed, object⟩, (), matched,
      (), bound, (), verifyFile_ok.mpr executionModel, (), verifyFile_ok.mpr configuration, directory,
      ⟨services, opens⟩, result, verified, compared⟩

/-- The directory has a file that the manifest does not name, or a named file is missing, or a file has changed. -/
def Altered (directory : Directory) (services : Json) : Prop :=
  (∃ file ∈ directory.names, services.isMember (text file) = false) ∨
    (∃ name, services.isMember name = true ∧ ∀ file ∈ directory.names, text file ≠ name) ∨
    ∃ file ∈ directory.names, ¬Intact files digest paths.servicesDirectory services file

variable {files digest paths} in
theorem Complete.not_altered {directory : Directory} {services : Json}
    (complete : Complete files digest paths.servicesDirectory directory services) :
    ¬Altered files digest paths directory services := by
  rintro (⟨file, listed, added⟩ | ⟨name, named, missing⟩ | ⟨file, listed, changed⟩)
  · have named := (complete.names (text file)).mpr ⟨file, listed, rfl⟩
    rw [added] at named
    cases named
  · obtain ⟨file, listed, same⟩ := (complete.names name).mp named
    exact missing file listed same
  · exact changed (complete.intact file listed)

/-- The verification accepts exactly the files that the manifest records, so it refuses an altered directory. -/
theorem verifies_recorded_artifacts : (verifyRuntimeArtifacts files digest parse paths = .ok () ↔
      ∃ model backend content manifest directory,
        Verified files digest parse paths model backend content manifest directory) ∧
      ∀ content manifest directory, Artifact files paths.manifest content → parse content = some manifest →
        files paths.servicesDirectory = some (.directory directory) →
        Altered files digest paths directory (manifest.get "serviceFingerprints") →
        verifyRuntimeArtifacts files digest parse paths ≠ .ok () := by
  refine ⟨verifyRuntimeArtifacts_ok files digest parse paths, ?_⟩
  intro content manifest directory stored parsed services altered accepted
  obtain ⟨_, _, _, _, _, verified⟩ := (verifyRuntimeArtifacts_ok files digest parse paths).mp accepted
  cases verified.manifestFile.1.symm.trans stored.1
  cases verified.parsed.symm.trans parsed
  cases verified.services.symm.trans services
  exact verified.complete.not_altered altered

end Verification

end OpenVehicle.Exec.ArtifactIntegrity
