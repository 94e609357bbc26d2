/-
This file relates a program to the calls that it makes and to the replies that it gets.
-/

import OpenVehicle.Concurrency.Program

namespace OpenVehicle.Concurrency

variable {Op : Type} {Reply : Op → Type} {A B : Type}

/-- An exchange is a call with its reply. -/
abbrev Exchange {Op : Type} (Reply : Op → Type) := (op : Op) × Reply op

namespace Program

/-- A trace lists the exchanges of a program up to its value. -/
inductive Traces : Program Op Reply A → List (Exchange Reply) → A → Prop
  | done (value : A) : Traces (.done value) [] value
  | call {op : Op} {next : Reply op → Program Op Reply A} {reply : Reply op}
      {trace : List (Exchange Reply)} {value : A} (rest : Traces (next reply) trace value) :
      Traces (.call op next) (⟨op, reply⟩ :: trace) value

variable {trace : List (Exchange Reply)} {value final : A}

@[simp] theorem traces_done : Traces (.done value : Program Op Reply A) trace final ↔ trace = [] ∧ final = value := by
  constructor
  · intro traced
    cases traced
    exact ⟨rfl, rfl⟩
  · rintro ⟨rfl, rfl⟩
    exact .done _

@[simp] theorem traces_call {op : Op} {next : Reply op → Program Op Reply A} : Traces (.call op next) trace value ↔
      ∃ reply rest, trace = ⟨op, reply⟩ :: rest ∧ Traces (next reply) rest value := by
  constructor
  · intro traced
    cases traced with
    | call rest => exact ⟨_, _, rfl, rest⟩
  · rintro ⟨reply, rest, rfl, traced⟩
    exact .call traced

end Program

end OpenVehicle.Concurrency
