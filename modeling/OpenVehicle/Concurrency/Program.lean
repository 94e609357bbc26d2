/-
This file defines programs over a set of operations and the protocols that they follow.
-/

import Mathlib.Data.List.Forall2

namespace OpenVehicle.Concurrency

/-- A program is done, or it calls an operation and continues with the reply. -/
inductive Program (Op : Type) (Reply : Op → Type) (A : Type) where
  | done (value : A)
  | call (op : Op) (next : Reply op → Program Op Reply A)

namespace Program

variable {Op : Type} {Reply : Op → Type} {A B S : Type} {next : A → Program Op Reply B} {op : Op}
  {program : Program Op Reply A} {later state : S}

def bind : Program Op Reply A → (A → Program Op Reply B) → Program Op Reply B
  | .done value, next => next value
  | .call op rest, next => .call op fun reply => (rest reply).bind next

instance : Monad (Program Op Reply) where
  pure := .done
  bind := bind

/-- This program calls one operation and returns its reply. -/
def perform (op : Op) : Program Op Reply (Reply op) := .call op .done

/-- The operation that a program calls next. -/
def pending : Program Op Reply A → Option Op
  | .done _ => none
  | .call op _ => some op

@[simp] theorem pure_eq (value : A) : (pure value : Program Op Reply A) = .done value := rfl

@[simp] theorem done_bind (value : A) (next : A → Program Op Reply B) :
    (.done value : Program Op Reply A) >>= next = next value := rfl

@[simp] theorem call_bind (op : Op) (rest : Reply op → Program Op Reply A) (next : A → Program Op Reply B) :
    .call op rest >>= next = .call op fun reply => rest reply >>= next := rfl

@[simp] theorem perform_bind (op : Op) (next : Reply op → Program Op Reply B) :
    perform op >>= next = .call op next := rfl

theorem bind_assoc {C : Type} (program : Program Op Reply A) (first : A → Program Op Reply B)
    (second : B → Program Op Reply C) :
    program >>= first >>= second = program >>= fun value => first value >>= second := by
  induction program with
  | done value => rfl
  | call op rest ih =>
      simp only [call_bind]
      congr 1
      funext reply
      exact ih reply

theorem bind_done (program : Program Op Reply A) : program >>= .done = program := by
  induction program with
  | done value => rfl
  | call op rest ih =>
      simp only [call_bind]
      congr 1
      funext reply
      exact ih reply

/-- A program runs alone when every operation answers at once. A blocked operation ends the run. -/
def run (answer : (op : Op) → S → Option (Reply op × S)) : Program Op Reply A → S → Option (A × S)
  | .done value, state => some (value, state)
  | .call op next, state => (answer op state).bind fun result => run answer (next result.1) result.2

theorem run_bind (answer : (op : Op) → S → Option (Reply op × S)) (program : Program Op Reply A)
    (next : A → Program Op Reply B) (state : S) : (program >>= next).run answer state =
      (program.run answer state).bind fun result => (next result.1).run answer result.2 := by
  induction program generalizing state with
  | done value => rfl
  | call op rest ih =>
      rw [call_bind, run, run, Option.bind_assoc]
      congr 1
      funext result
      exact ih result.1 result.2

variable {answer : (op : Op) → S → Option (Reply op × S)} {reply : Reply op}

theorem run_call {next : Reply op → Program Op Reply A} (answered : answer op state = some (reply, later)) :
    (Program.call op next).run answer state = (next reply).run answer later := by
  rw [run, answered, Option.bind_some]

/-- A program runs alone up to its first call without an answer. -/
def runUntil (answer : (op : Op) → S → Option (Reply op × S)) :
    Program Op Reply A → S → Program Op Reply A × S
  | .done value, state => (.done value, state)
  | .call op next, state =>
      match answer op state with
      | none => (.call op next, state)
      | some result => runUntil answer (next result.1) result.2

theorem runUntil_call {next : Reply op → Program Op Reply A} (answered : answer op state = some (reply, later)) :
    (Program.call op next).runUntil answer state = (next reply).runUntil answer later := by
  rw [runUntil, answered]

theorem runUntil_blocked {next : Reply op → Program Op Reply A}
    (blocked : answer op state = none) : (Program.call op next).runUntil answer state = (.call op next, state) := by
  rw [runUntil, blocked]

/-- A sequence runs its second part when the first part is done. -/
theorem runUntil_bind_done {value : A} (ended : program.runUntil answer state = (.done value, later)) :
    (program >>= next).runUntil answer state = (next value).runUntil answer later := by
  induction program generalizing state with
  | done start =>
      obtain ⟨same, rfl⟩ := Prod.mk.inj ended
      cases same
      rfl
  | call op rest ih =>
      rw [call_bind]
      cases answered : answer op state with
      | none =>
          rw [runUntil_blocked answered] at ended
          cases ended
      | some result =>
          rw [runUntil_call answered] at ended ⊢
          exact ih result.1 ended

/-- A sequence stops where its first part stops. -/
theorem runUntil_bind_blocked {rest : Reply op → Program Op Reply A}
    (ended : program.runUntil answer state = (.call op rest, later)) :
    (program >>= next).runUntil answer state = (.call op fun reply => rest reply >>= next, later) := by
  induction program generalizing state with
  | done start => cases ended
  | call first remaining ih =>
      rw [call_bind]
      cases answered : answer first state with
      | none =>
          rw [runUntil_blocked answered] at ended
          rw [runUntil_blocked answered]
          cases ended
          rfl
      | some result =>
          rw [runUntil_call answered] at ended ⊢
          exact ih result.1 ended

/-- A program follows a protocol when every reply of every call has an allowed next stage. -/
def Follows (rule : S → (op : Op) → Reply op → S → Prop) (final : S → A → Prop) :
    S → Program Op Reply A → Prop
  | stage, .done value => final stage value
  | stage, .call op next => ∀ reply, ∃ later, rule stage op reply later ∧
      Follows rule final later (next reply)

variable {rule : S → (op : Op) → Reply op → S → Prop}

/-- Two programs in sequence follow a protocol when each follows its part. -/
theorem Follows.bind {middle : S → A → Prop} {final : S → B → Prop}
    {stage : S} (first : Follows rule middle stage program)
    (second : ∀ later value, middle later value → Follows rule final later (next value)) :
    Follows rule final stage (program >>= next) := by
  induction program generalizing stage with
  | done value => exact second stage value first
  | call op rest ih =>
      intro reply
      obtain ⟨later, allowed, tail⟩ := first reply
      exact ⟨later, allowed, ih reply tail⟩

/-- A pending call of a program has an allowed next stage for each reply. -/
theorem Follows.call {final : S → A → Prop} {stage : S}
    {next : Reply op → Program Op Reply A} (follows : Follows rule final stage (.call op next)) (reply : Reply op) :
    ∃ later, rule stage op reply later ∧ Follows rule final later (next reply) := follows reply

end Program

end OpenVehicle.Concurrency
