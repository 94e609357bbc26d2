/-
This file proves invariants of interleaved programs from the protocols that the threads follow.
The rule has the form of a proof without interference: a step keeps the common invariant,
the assertion of the thread that moves, and the assertion of every other thread.
-/

import OpenVehicle.Concurrency.Machine

namespace OpenVehicle.Concurrency

variable {Op : Type} {Reply : Op → Type} {A State Input Event S : Type}

/-- Every thread follows its protocol from its stage. -/
def Staged (rule : Nat → S → (op : Op) → Reply op → S → Prop) (final : S → A → Prop)
    (threads : List (Program Op Reply A)) (stage : Nat → S) : Prop :=
  ∀ index program, threads[index]? = some program →
    Program.Follows (rule index) final (stage index) program

variable {rule : Nat → S → (op : Op) → Reply op → S → Prop} {final : S → A → Prop}

section Staged
variable {threads : List (Program Op Reply A)} {stage : Nat → S}

theorem Staged.nil (stage : Nat → S) : Staged rule final ([] : List (Program Op Reply A)) stage := by
  intro index program found
  simp at found

/-- The thread that moves changes its program and its stage together. -/
theorem Staged.set (staged : Staged rule final threads stage) {index : Nat} {program : Program Op Reply A} {later : S}
    (follows : Program.Follows (rule index) final later program) :
    Staged rule final (threads.set index program) (Function.update stage index later) := by
  intro other found thread
  rw [List.getElem?_set] at thread
  split at thread
  · rename_i same
    subst same
    rw [Function.update_self]
    split at thread
    · obtain rfl := Option.some.inj thread
      exact follows
    · cases thread
  · rename_i different
    rw [Function.update_of_ne (Ne.symm different)]
    exact staged other found thread

/-- A started thread takes the next index. -/
theorem Staged.concat (staged : Staged rule final threads stage) {program : Program Op Reply A}
    {first : S} (follows : Program.Follows (rule threads.length) final first program) :
    Staged rule final (threads ++ [program]) (Function.update stage threads.length first) := by
  intro index found thread
  rw [List.getElem?_append] at thread
  split at thread
  · rename_i inside
    rw [Function.update_of_ne (by omega)]
    exact staged index found thread
  · rename_i outside
    rw [List.getElem?_singleton] at thread
    split at thread
    · obtain rfl : index = threads.length := by omega
      obtain rfl := Option.some.inj thread
      rw [Function.update_self]
      exact follows
    · cases thread

end Staged

/-- The assertions of all threads hold together with the common invariant. -/
structure Holds (common : State → Nat → (Nat → S) → Prop) (own : Nat → S → State → Prop)
    (shared : State) (count : Nat) (stage : Nat → S) : Prop where
  common : common shared count stage
  own : ∀ index < count, own index (stage index) shared

/-- What one step of the thread at an index must preserve. -/
structure Preserves (common : State → Nat → (Nat → S) → Prop) (own : Nat → S → State → Prop)
    (shared : State) (count : Nat) (stage : Nat → S) (index : Nat) (later : S) : Prop where
  common : common shared count (Function.update stage index later)
  moved : own index later shared
  others : ∀ other < count, other ≠ index → own other (stage other) shared

namespace Machine

variable {machine : Machine Op Reply A State Input Event}
variable {allowed : Pool Op Reply A State → Choice Input Event → Prop}
variable {start pool : Pool Op Reply A State}
variable {common : State → Nat → (Nat → S) → Prop} {own : Nat → S → State → Prop}

/-- Interference-free assertions hold in every pool of a run. -/
theorem Reaches.invariant (first : Nat → S) (initial : Staged rule final start.threads first)
    (holds : Holds common own start.shared start.threads.length first)
    (threadStep : ∀ (pool : Pool Op Reply A State) (stage : Nat → S) (index : Nat) (input : Input)
      (op : Op) (next : Reply op → Program Op Reply A) (reply : Reply op) (shared : State)
      (later : S), Staged rule final pool.threads stage → Holds common own pool.shared pool.threads.length stage →
      allowed pool (.thread index input) → pool.threads[index]? = some (.call op next) →
      rule index (stage index) op reply later → machine.perform op input pool.shared = some (reply, shared) →
      Preserves common own shared pool.threads.length stage index later)
    (eventStep : ∀ (pool : Pool Op Reply A State) (stage : Nat → S) (event : Event)
      (shared : State), Staged rule final pool.threads stage →
      Holds common own pool.shared pool.threads.length stage → allowed pool (.event event) →
      machine.occur event pool.shared = some (shared, none) → Holds common own shared pool.threads.length stage)
    (startStep : ∀ (pool : Pool Op Reply A State) (stage : Nat → S) (event : Event)
      (shared : State) (program : Program Op Reply A), Staged rule final pool.threads stage →
      Holds common own pool.shared pool.threads.length stage → allowed pool (.event event) →
      machine.occur event pool.shared = some (shared, some program) →
      ∃ opened, Program.Follows (rule pool.threads.length) final opened program ∧
        common shared (pool.threads.length + 1) (Function.update stage pool.threads.length opened) ∧
        own pool.threads.length opened shared ∧ ∀ other < pool.threads.length, own other (stage other) shared)
    (reached : machine.Reaches allowed start pool) :
    ∃ stage, Staged rule final pool.threads stage ∧ Holds common own pool.shared pool.threads.length stage := by
  induction reached with
  | refl => exact ⟨first, initial, holds⟩
  | @step pool later choice _ permitted fired ih =>
      obtain ⟨stage, staged, holds⟩ := ih
      cases choice with
      | thread index input =>
          obtain ⟨op, next, reply, shared, found, performed, rfl⟩ := fire_thread_eq_some fired
          obtain ⟨after, moves, follows⟩ := (staged index _ found).call reply
          have kept := threadStep pool stage index input op next reply shared after staged holds
            permitted found moves performed
          refine ⟨Function.update stage index after, staged.set follows, ?_, ?_⟩
          · simpa using kept.common
          · intro other inside
            rw [List.length_set] at inside
            by_cases same : other = index
            · rw [same, Function.update_self]
              exact kept.moved
            · rw [Function.update_of_ne same]
              exact kept.others other inside same
      | event event =>
          obtain ⟨shared, started, occurred, rfl⟩ := fire_event_eq_some fired
          cases started with
          | none =>
              refine ⟨stage, by simpa using staged, ?_⟩
              simpa using eventStep pool stage event shared staged holds permitted occurred
          | some program =>
              obtain ⟨opened, follows, kept, fresh, others⟩ :=
                startStep pool stage event shared program staged holds permitted occurred
              refine ⟨Function.update stage pool.threads.length opened, staged.concat follows, ?_, ?_⟩
              · simpa using kept
              · intro other inside
                simp only [Option.toList_some, List.length_append, List.length_singleton] at inside
                by_cases same : other = pool.threads.length
                · rw [same, Function.update_self]
                  exact fresh
                · rw [Function.update_of_ne same]
                  exact others other (by omega)

end Machine

end OpenVehicle.Concurrency
