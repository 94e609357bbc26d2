/-
This file translates the snapshot that the coordinator takes of its engine.
Every such snapshot survives its message.
-/

import OpenVehicle.Exec.LeaseCoverage
import OpenVehicle.Exec.Produced
import OpenVehicle.Ipc.Snapshot

namespace OpenVehicle.Ipc

open Data Exec FiniteMap ExecutionEngine TransitionPlanner

def bytes (text : String) : Text := text.toUTF8.data.toList

def publicError (error : Error) : ErrorReport := ⟨error.code, bytes error.message, UInt64.ofNat error.supportData⟩

def publicFailure (failure : TransitionFailure) : TransitionFailureSnapshot where
  error := publicError failure.error
  application := failure.application.map UInt64.ofNat
  exitCode := Int32.ofInt failure.evidence.exitCode
  signal := Int32.ofInt failure.evidence.signal
  backendCode := UInt64.ofNat failure.evidence.nativeCode
  backendMessage := bytes failure.evidence.message
  recoveryAction := failure.recoveryAction
  recoveryAttempted := failure.recoveryAttempted
  recoverySucceeded := failure.recoverySucceeded
  recoveryError := failure.recoveryError.map publicError
  recoveredMode := failure.recoveredMode.map UInt64.ofNat
  recoveryStoppedApplications := failure.recoveryStoppedApplications.map UInt64.ofNat
  recoveryStartedApplications := failure.recoveryStartedApplications.map UInt64.ofNat

/-- The parts of a snapshot that the engine model leaves out. -/
structure View where
  revision : UInt64
  recovering : Bool
  updatedAt : TransitionId → Int64

variable (model : ValidatedModel) (view : View)

def publicSnapshot (transition : TransitionSnapshot) : TransitionReport where
  id := UInt64.ofNat transition.id
  domain := UInt64.ofNat transition.domain
  sourceMode := UInt64.ofNat transition.sourceMode
  targetMode := UInt64.ofNat transition.targetMode
  phase := transition.phase
  updatedAt := view.updatedAt transition.id
  failure := transition.failure.map publicFailure

/-- The engine sorts its transitions by their identifiers. -/
def engineTransitions (engine : EngineState) : List TransitionSnapshot :=
  (engine.transitions.entries.map (·.2)).insertionSort fun first second => first.id ≤ second.id

/-- The newest transition of each domain that passes a test. -/
def newest (test : TransitionSnapshot → Bool) (transitions : List TransitionSnapshot) :
    Map DomainId TransitionSnapshot :=
  transitions.foldl (fun found transition =>
    if test transition then
      match found.lookup transition.domain with
      | none => found.insert transition.domain transition
      | some other =>
          if other.id < transition.id then found.insert transition.domain transition else found
    else found) ∅

def executionDomain (configuration : SystemConfiguration) (active failed : Map DomainId TransitionSnapshot)
    (domain : DomainDefinition) : ExecutionDomain :=
  let committed := UInt64.ofNat ((configuration.committedModes.lookup domain.id).getD 0)
  match active.lookup domain.id with
  | some transition =>
      { id := UInt64.ofNat domain.id
        name := bytes domain.name
        committedMode := committed
        targetMode := some (UInt64.ofNat transition.targetMode)
        status := .transitioning
        activeTransition := some (UInt64.ofNat transition.id) }
  | none =>
      { id := UInt64.ofNat domain.id
        name := bytes domain.name
        committedMode := committed
        targetMode := none
        status := if view.recovering then .recovering
          else if (failed.lookup domain.id).isSome then .degraded else .stable
        activeTransition := none }

def unitState (configuration : SystemConfiguration) (unit : ExecutionUnitDefinition) : ApplicationState :=
  if unit.id ∈ configuration.runningUnits then .ready else .stopped

/-- The snapshot that the coordinator takes of its engine. -/
def snapshot (engine : EngineState) : SystemSnapshot :=
  let transitions := engineTransitions engine
  let active := newest (fun transition => !transition.phase.isTerminal) transitions
  let failed := newest (fun transition => transition.phase.isTerminal && transition.failure.isSome)
    transitions
  { modelGeneration := UInt64.ofNat model.value.generation
    revision := view.revision
    recovering := view.recovering
    domains := model.value.domains.map (executionDomain view engine.configuration active failed)
    units := model.value.units.map fun unit =>
      ⟨UInt64.ofNat unit.id, bytes unit.name, unit.kind, unit.bootstrap, unitState engine.configuration unit⟩
    applications := (model.value.units.filter (·.kind == .managedApplication)).map fun unit =>
      ⟨UInt64.ofNat unit.id, bytes unit.name, unitState engine.configuration unit⟩
    transitions := transitions.map (publicSnapshot view) }

section RoundTrip
variable {model}

variable (fits : ∀ unit ∈ model.value.units, unit.id < 2 ^ 64)
include fits

/-- A unit of the model has an identifier other than zero. -/
theorem identifier_ne_zero {unit : ExecutionUnitId} (known : (model.findUnit unit).isSome) : UInt64.ofNat unit ≠ 0 := by
  obtain ⟨definition, found⟩ := Option.isSome_iff_exists.mp known
  obtain ⟨listed, rfl⟩ := findUnit_eq_some found
  have nonzero := (inspectUnits_eq_nil model.parts.1 definition listed).1
  intro zero
  have values := congrArg UInt64.toNat zero
  rw [UInt64.toNat_ofNat_of_lt' (fits definition listed)] at values
  exact nonzero values

theorem readable_publicFailure
    {failure : TransitionFailure} (documented : failure.Documented model) : (publicFailure failure).Readable := by
  refine ⟨?_, ?_, ?_⟩
  · intro error member
    obtain ⟨original, found, rfl⟩ := Option.map_eq_some_iff.mp member
    exact documented.error original found
  · intro application member
    obtain ⟨unit, listed, rfl⟩ := List.mem_map.mp member
    exact identifier_ne_zero fits (documented.stopped unit listed)
  · intro application member
    obtain ⟨unit, listed, rfl⟩ := List.mem_map.mp member
    exact identifier_ne_zero fits (documented.started unit listed)

theorem readable_snapshot (view : View)
    {engine : EngineState} (reports : Reports model engine) : (snapshot model view engine).Readable := by
  intro report member failure reported
  obtain ⟨transition, listed, rfl⟩ := List.mem_map.mp member
  obtain ⟨original, found, rfl⟩ := Option.map_eq_some_iff.mp reported
  obtain ⟨entry, stored, rfl⟩ := List.mem_map.mp ((List.mem_insertionSort _).mp listed)
  have lookup : engine.transitions.lookup entry.1 = some entry.2 := AList.mem_lookup_iff.mpr stored
  exact readable_publicFailure fits (reports.stored entry.1 entry.2 lookup original found)

end RoundTrip

/-- Every snapshot of a coordinator survives its message. -/
theorem decodeSnapshot_snapshot (model : ValidatedModel)
    (fits : ∀ unit ∈ model.value.units, unit.id < 2 ^ 64) (pool : EnginePool)
    (produced : Produced model pool) (view : View) : decodeSnapshot (snapshotValue (snapshot model view pool.shared)) =
      .ok (snapshot model view pool.shared) :=
  decodeSnapshot_snapshotValue (readable_snapshot fits view produced.reports.1)

/-- The unit and its fallback both fail to start, and the snapshot reports the failed recovery. -/
theorem decodeSnapshot_snapshot_failedRecovery : ∃ pool view,
    Produced limpingModes pool ∧ ((snapshot limpingModes view pool.shared).transitions.any fun transition =>
      transition.failure.any fun failure => failure.recoveryError.isSome) = true ∧
    decodeSnapshot (snapshotValue (snapshot limpingModes view pool.shared)) =
      .ok (snapshot limpingModes view pool.shared) := by
  let view : View := ⟨0, false, fun _ => 0⟩
  let schedule := [requestMode 1 2] ++ List.replicate 18 (advance 0) ++ [failStart 0] ++
    List.replicate 5 (advance 0) ++ [failStart 0] ++ List.replicate 3 (advance 0)
  obtain ⟨pool, reached, reported⟩ := exists_run limpingModes ⟨1, initialModes limpingModes, ∅⟩
    (fun pool choice => decide (CodedErrors pool choice)) (fun _ _ checked => of_decide_eq_true checked)
    schedule (fun pool => ((snapshot limpingModes view pool.shared).transitions.any fun transition =>
      transition.failure.any fun failure => failure.recoveryError.isSome) = true) (by decide +kernel)
  have creates : Create.create limpingModes Create.readyBackend Create.accepting (.ok []) ∅ =
      some ⟨.ok (created ⟨1, initialModes limpingModes, ∅⟩).shared, { backend := ∅ }⟩ := rfl
  have produced := (Produced.create creates).reaches reached
  exact ⟨pool, view, produced, reported, decodeSnapshot_snapshot limpingModes (by decide +kernel) pool produced view⟩

end OpenVehicle.Ipc
