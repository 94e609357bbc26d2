/-
This file proves that the threads of a pool cannot move forever.
-/

import Mathlib.Logic.Hydra
import OpenVehicle.Concurrency.Machine

namespace OpenVehicle.Concurrency

variable {Op : Type} {Reply : Op → Type} {A State Input Event : Type}

/-- A program continues with a reply to its call. -/
inductive Program.Continues : Program Op Reply A → Program Op Reply A → Prop
  | reply {op : Op} (next : Reply op → Program Op Reply A) (reply : Reply op) :
      Continues (next reply) (.call op next)

theorem Program.wellFounded_continues :
    WellFounded fun (later program : Program Op Reply A) => later.Continues program := by
  constructor
  intro program
  induction program with
  | done value =>
      constructor
      intro later continues
      cases continues
  | call op next ih =>
      constructor
      intro later continues
      cases continues with
      | reply _ reply => exact ih reply

theorem set_append_perm {α : Type} {values : List α} {index : Nat} {old : α} (fresh : α)
    (found : values[index]? = some old) : (values.set index fresh ++ [old]).Perm (values ++ [fresh]) := by
  induction values generalizing index with
  | nil => cases found
  | cons first rest ih =>
      cases index with
      | succ index => exact (ih found).cons first
      | zero =>
          obtain rfl := Option.some.inj found
          apply ((List.perm_append_singleton first rest).cons fresh).trans
          apply (List.Perm.swap first fresh rest).trans
          exact (List.perm_append_singleton fresh rest).symm.cons first

/-- A step of a thread replaces its program by one that is smaller. -/
theorem Machine.cutExpand_fire {machine : Machine Op Reply A State Input Event}
    {pool later : Pool Op Reply A State} {index : Nat} {input : Input}
    (fired : machine.fire pool (.thread index input) = some later) :
    Relation.CutExpand Program.Continues (later.threads : Multiset (Program Op Reply A)) pool.threads := by
  obtain ⟨op, next, reply, shared, found, _, rfl⟩ := Machine.fire_thread_eq_some fired
  refine ⟨{next reply}, .call op next, ?_, ?_⟩
  · intro program member
    obtain rfl := Multiset.mem_singleton.mp member
    exact .reply next reply
  · exact Multiset.coe_eq_coe.mpr (set_append_perm (next reply) found)

end OpenVehicle.Concurrency
