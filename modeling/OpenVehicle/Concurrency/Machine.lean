/-
This file interleaves programs over a shared state.
A choice names the thread that moves and the input that its environment supplies.
-/

import OpenVehicle.Concurrency.Program
import OpenVehicle.Concurrency.System

namespace OpenVehicle.Concurrency

variable {Op : Type} {Reply : Op → Type} {A State Input Event : Type}

/-- A pool contains the shared state and every thread that was ever started. -/
structure Pool (Op : Type) (Reply : Op → Type) (A State : Type) where
  shared : State
  threads : List (Program Op Reply A)

/-- A scheduler choice moves one thread or lets an external event occur. -/
inductive Choice (Input Event : Type) where
  | thread (index : Nat) (input : Input)
  | event (event : Event)

/-- A machine performs the operations atomically and reacts to external events. -/
structure Machine (Op : Type) (Reply : Op → Type) (A State Input Event : Type) where
  perform : (op : Op) → Input → State → Option (Reply op × State)
  occur : Event → State → Option (State × Option (Program Op Reply A))

/-- The operation that a thread of the pool calls next. -/
def Pool.pending (pool : Pool Op Reply A State) (index : Nat) : Option Op := pool.threads[index]?.bind Program.pending

/-- A pool is quiet when every thread has returned. -/
def Pool.Quiet (pool : Pool Op Reply A State) : Prop := ∀ index, pool.pending index = none

namespace Machine

variable (machine : Machine Op Reply A State Input Event)

/-- One step executes one operation of one thread, or one external event. -/
def fire (pool : Pool Op Reply A State) : Choice Input Event → Option (Pool Op Reply A State)
  | .thread index input =>
      match pool.threads[index]? with
      | some (.call op next) =>
          (machine.perform op input pool.shared).map fun result =>
            ⟨result.2, pool.threads.set index (next result.1)⟩
      | _ => none
  | .event event =>
      (machine.occur event pool.shared).map fun result =>
        ⟨result.1, pool.threads ++ result.2.toList⟩

/-- A machine is the system of its pools. -/
abbrev system : System (Pool Op Reply A State) (Choice Input Event) where
  perform choice pool := machine.fire pool choice

/-- The pools that allowed steps reach. -/
abbrev Reaches (allowed : Pool Op Reply A State → Choice Input Event → Prop) :
    Pool Op Reply A State → Pool Op Reply A State → Prop := machine.system.Reaches allowed

/-- This function executes a schedule and checks every step. A scheduler sees the pool. -/
abbrev run (check : Pool Op Reply A State → Choice Input Event → Bool) :
    List (Pool Op Reply A State → Choice Input Event) → Pool Op Reply A State →
      Option (Pool Op Reply A State) := machine.system.run check

variable {machine}
variable {pool later : Pool Op Reply A State}

theorem Reaches.step {allowed : Pool Op Reply A State → Choice Input Event → Prop} {start : Pool Op Reply A State}
    {choice : Choice Input Event} (before : machine.Reaches allowed start pool) (permitted : allowed pool choice)
    (fired : machine.fire pool choice = some later) : machine.Reaches allowed start later :=
  System.Reaches.step before permitted fired

/-- A thread step decomposes into its pending call and the performed operation. -/
theorem fire_thread_eq_some {index : Nat} {input : Input}
    (fired : machine.fire pool (.thread index input) = some later) :
    ∃ op next reply shared, pool.threads[index]? = some (.call op next) ∧
      machine.perform op input pool.shared = some (reply, shared) ∧
      later = ⟨shared, pool.threads.set index (next reply)⟩ := by
  simp only [fire] at fired
  split at fired
  · rename_i op next found
    obtain ⟨⟨reply, shared⟩, performed, rfl⟩ := Option.map_eq_some_iff.mp fired
    exact ⟨op, next, reply, shared, found, performed, rfl⟩
  · cases fired

/-- An event step decomposes into its new shared state and the thread it starts. -/
theorem fire_event_eq_some {event : Event} (fired : machine.fire pool (.event event) = some later) :
    ∃ shared started, machine.occur event pool.shared = some (shared, started) ∧
      later = ⟨shared, pool.threads ++ started.toList⟩ := by
  simp only [fire] at fired
  obtain ⟨⟨shared, started⟩, occurred, rfl⟩ := Option.map_eq_some_iff.mp fired
  exact ⟨shared, started, occurred, rfl⟩

end Machine

end OpenVehicle.Concurrency
