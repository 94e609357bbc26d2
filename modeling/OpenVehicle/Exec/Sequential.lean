/-
This file specialises the induction rule to runs with one transition at a time.
-/

import OpenVehicle.Exec.Runs

namespace OpenVehicle.Exec

open Concurrency ExecutionEngine

/-- A request starts from the current configuration when every transition has returned. -/
def Sequential (pool : EnginePool) : EngineChoice → Prop
  | .event (.request baseline _ _) => pool.Quiet ∧ baseline = pool.shared.configuration
  | _ => True

/-- This function decides whether every thread of a pool has returned. -/
def isQuiet (pool : EnginePool) : Bool := pool.threads.all fun program => program.pending.isNone

theorem quiet_of_isQuiet {pool : EnginePool} (checked : isQuiet pool = true) : pool.Quiet := by
  intro index
  unfold Pool.pending
  cases found : pool.threads[index]? with
  | none => rfl
  | some program =>
      have returned := List.all_eq_true.mp checked program (List.mem_of_getElem? found)
      simpa using returned

/-- This function decides whether a choice is sequential. -/
def isSequential (pool : EnginePool) : EngineChoice → Bool
  | .event (.request baseline _ _) => isQuiet pool && decide (baseline = pool.shared.configuration)
  | _ => true

theorem sequential_of_check (pool : EnginePool) (choice : EngineChoice)
    (checked : isSequential pool choice = true) : Sequential pool choice := by
  cases choice with
  | thread index input => trivial
  | event event =>
      cases event with
      | cancel id => trivial
      | request baseline domain target =>
          simp only [isSequential, Bool.and_eq_true, decide_eq_true_eq] at checked
          exact ⟨quiet_of_isQuiet checked.1, checked.2⟩

/-- An invariant of a sequential run holds between the transitions and during each of them. -/
structure Alone (model : ValidatedModel) (allowed : EnginePool → EngineChoice → Prop)
    (quiet : EngineState → Prop) (active : Nat → Position → EngineState → Prop) : Prop where
  sequential : ∀ pool choice, allowed pool choice → Sequential pool choice
  step : ∀ (pool : EnginePool) (positions : Nat → Position) (index : Nat) (input : EngineInput)
    (op : EngineOp) (reply : op.Reply) (later : Position), Sound model pool positions →
    ThreadStep model allowed pool positions index input op reply later →
    active index (positions index) pool.shared → active index later (effect op reply pool.shared)
  finish : ∀ index position state, active index position state → position.work = .finished → quiet state
  request : ∀ (pool : EnginePool) (domain : DomainId) (target : ModeId),
    Registry pool.shared pool.threads.length → quiet pool.shared →
    allowed pool (.event (.request pool.shared.configuration domain target)) →
    active pool.threads.length
      (opened model (pool.threads.length + 1) pool.shared.configuration domain target) pool.shared
  quietRest : ∀ state cancellation next, quiet state →
    quiet { state with cancellation := cancellation, nextTransition := next }
  activeRest : ∀ index position state cancellation next, active index position state →
    active index position { state with cancellation := cancellation, nextTransition := next }

section Sequential
variable {model : ValidatedModel} {allowed : EnginePool → EngineChoice → Prop}
variable {quiet : EngineState → Prop} {active : Nat → Position → EngineState → Prop}
variable {pool : EnginePool} {positions : Nat → Position}

/-- Only the last thread of a sequential run may be active. -/
structure LastActive (quiet : EngineState → Prop) (active : Nat → Position → EngineState → Prop)
    (state : EngineState) (count : Nat) (positions : Nat → Position) : Prop where
  earlier : ∀ index, index + 1 < count → (positions index).work = .finished
  idle : count = 0 → quiet state
  last : ∀ index, count = index + 1 → active index (positions index) state

variable (alone : Alone model allowed quiet active)
include alone

theorem Alone.maintains : Maintains model allowed (LastActive quiet active) (fun _ _ _ => True) where
  step := by
    intro pool positions index input op reply later sound holds step
    have last : pool.threads.length = index + 1 := by
      by_contra other
      have inside := step.inside
      exact rule_ne_finished step.rule (holds.common.earlier index (by omega))
    refine ⟨⟨?_, ?_, ?_⟩, trivial, fun _ _ _ => trivial⟩
    · intro earlier below
      rw [Function.update_of_ne (by omega)]
      exact holds.common.earlier earlier below
    · intro none
      omega
    · intro other same
      obtain rfl : other = index := by omega
      rw [Function.update_self]
      exact alone.step pool positions other input op reply later sound step
        (holds.common.last other last)
  cancel := by
    intro pool positions id state sound holds _ cancelled
    obtain ⟨_, _, _, _, _, rfl⟩ := cancel_eq_ok cancelled
    refine ⟨⟨holds.common.earlier, fun none => ?_, fun index last => ?_⟩, fun _ _ => trivial⟩
    · exact alone.quietRest pool.shared _ _ (holds.common.idle none)
    · exact alone.activeRest index _ pool.shared _ _ (holds.common.last index last)
  request := by
    intro pool positions baseline domain target sound holds permitted
    obtain ⟨returned, rfl⟩ := alone.sequential _ _ permitted
    have finished : ∀ index < pool.threads.length, (positions index).work = .finished :=
      fun index inside => sound.finished inside (returned index)
    have rest : quiet pool.shared := by
      cases count : pool.threads.length with
      | zero => exact holds.common.idle count
      | succ last =>
          exact alone.finish last (positions last) pool.shared (holds.common.last last count)
            (finished last (by omega))
    refine ⟨⟨?_, by omega, ?_⟩, fun _ _ => trivial⟩
    · intro index below
      rw [Function.update_of_ne (by omega)]
      exact finished index (by omega)
    · intro index last
      obtain rfl : index = pool.threads.length := by omega
      rw [Function.update_self]
      exact alone.activeRest _ _ _ _ _
        (alone.request pool domain target sound.registry rest permitted)

/-- In every pool of a sequential run the invariant holds for the last thread. -/
theorem Alone.fromCreated {configuration : SystemConfiguration} (initial : quiet (created configuration).shared)
    (reached : (machine model).Reaches allowed (created configuration) pool) :
    ∃ positions, Sound model pool positions ∧ LastActive quiet active pool.shared pool.threads.length positions := by
  obtain ⟨positions, sound, holds⟩ := alone.maintains.fromCreated
    (fun positions => ⟨by omega, fun _ => initial, by omega⟩) reached
  exact ⟨positions, sound, holds.common⟩

/-- The invariant of a quiet pool is the one between transitions. -/
theorem Alone.quiet_of_quiet (sound : Sound model pool positions)
    (holds : LastActive quiet active pool.shared pool.threads.length positions)
    (returned : pool.Quiet) : quiet pool.shared := by
  cases count : pool.threads.length with
  | zero => exact holds.idle count
  | succ last =>
      exact alone.finish last (positions last) pool.shared (holds.last last count)
        (sound.finished (by omega) (returned last))

end Sequential

end OpenVehicle.Exec
