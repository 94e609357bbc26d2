/-
This file proves invariants of a machine from a contract between its programs and its state.
The programs call only permitted operations as long as the replies are the promised ones.
-/

import OpenVehicle.Concurrency.Machine

namespace OpenVehicle.Concurrency

variable {Op : Type} {Reply : Op → Type} {A B State Input Event : Type}

/-- A contract permits some operations and promises some replies. -/
structure Contract (Op : Type) (Reply : Op → Type) where
  permits : Op → Prop
  promises : (op : Op) → Reply op → Prop

/-- A program keeps a contract when its promised replies lead to permitted operations only. -/
def Program.Keeps (contract : Contract Op Reply) (final : A → Prop) : Program Op Reply A → Prop
  | .done value => final value
  | .call op next => contract.permits op ∧
      ∀ reply, contract.promises op reply → Keeps contract final (next reply)

section Keeps
variable {contract : Contract Op Reply} {final : A → Prop} {last : B → Prop}
variable {program : Program Op Reply A}

theorem Program.keeps_perform {op : Op} (permitted : contract.permits op) :
    (Program.perform op).Keeps contract (contract.promises op) := ⟨permitted, fun _ promised => promised⟩

/-- Two programs in sequence keep a contract when each keeps its part. -/
theorem Program.Keeps.bind {next : A → Program Op Reply B} (first : program.Keeps contract final)
    (second : ∀ value, final value → (next value).Keeps contract last) : (program >>= next).Keeps contract last := by
  induction program with
  | done value => exact second value first
  | call op rest ih =>
      obtain ⟨permitted, remaining⟩ := first
      exact ⟨permitted, fun reply promised => ih reply (remaining reply promised)⟩

/-- A weaker end is also kept. -/
theorem Program.Keeps.weaken {weaker : A → Prop} (keeps : program.Keeps contract final)
    (implies : ∀ value, final value → weaker value) : program.Keeps contract weaker := by
  induction program with
  | done value => exact implies value keeps
  | call op rest ih =>
      obtain ⟨permitted, remaining⟩ := keeps
      exact ⟨permitted, fun reply promised => ih reply (remaining reply promised)⟩

end Keeps

namespace Machine

variable {machine : Machine Op Reply A State Input Event}
variable {allowed : Pool Op Reply A State → Choice Input Event → Prop}
variable {start pool : Pool Op Reply A State}

/-- The shared state keeps an invariant and its promises while the programs keep the contract. -/
structure Honours (machine : Machine Op Reply A State Input Event)
    (allowed : Pool Op Reply A State → Choice Input Event → Prop) (contract : Contract Op Reply)
    (invariant : State → Prop) : Prop where
  performed : ∀ (pool : Pool Op Reply A State) (index : Nat) (input : Input) (op : Op) (reply : Reply op)
    (shared : State), allowed pool (.thread index input) → contract.permits op → invariant pool.shared →
    pool.pending index = some op → machine.perform op input pool.shared = some (reply, shared) →
    contract.promises op reply ∧ invariant shared
  occurred : ∀ (pool : Pool Op Reply A State) (event : Event) (shared : State)
    (started : Option (Program Op Reply A)), allowed pool (.event event) → invariant pool.shared →
    machine.occur event pool.shared = some (shared, started) →
    invariant shared ∧ ∀ program ∈ started, program.Keeps contract fun _ => True

/-- The invariant of a contract holds in every pool of a run. -/
theorem Honours.reaches {contract : Contract Op Reply} {invariant : State → Prop}
    (honours : machine.Honours allowed contract invariant) (initial : invariant start.shared)
    (programs : ∀ program ∈ start.threads, program.Keeps contract fun _ => True)
    (reached : machine.Reaches allowed start pool) :
    invariant pool.shared ∧ ∀ program ∈ pool.threads, program.Keeps contract fun _ => True := by
  induction reached with
  | refl => exact ⟨initial, programs⟩
  | @step pool later choice _ permitted fired ih =>
      obtain ⟨holds, keep⟩ := ih
      cases choice with
      | thread index input =>
          obtain ⟨op, next, reply, shared, found, performed, rfl⟩ := fire_thread_eq_some fired
          have member : Program.call op next ∈ pool.threads := List.mem_of_getElem? found
          obtain ⟨permits, remaining⟩ := keep _ member
          have pending : pool.pending index = some op := by
            unfold Pool.pending
            rw [found]
            rfl
          obtain ⟨promised, kept⟩ := honours.performed pool index input op reply shared permitted permits
            holds pending performed
          refine ⟨kept, fun program listed => ?_⟩
          rcases List.mem_or_eq_of_mem_set listed with old | rfl
          · exact keep program old
          · exact remaining reply promised
      | event event =>
          obtain ⟨shared, started, happened, rfl⟩ := fire_event_eq_some fired
          obtain ⟨kept, fresh⟩ := honours.occurred pool event shared started permitted holds happened
          refine ⟨kept, fun program listed => ?_⟩
          rcases List.mem_append.mp listed with old | new
          · exact keep program old
          · exact fresh program (Option.mem_toList.mp new)

end Machine

end OpenVehicle.Concurrency
