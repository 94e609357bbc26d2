/-
This file models a reader that delivers a list one entry at a time. A request may be too small for the next
entry, and then the reader stays where it is.
-/

import Mathlib.Data.List.Count

namespace OpenVehicle.Reader

variable {Entry Request : Type} (fits : Request → Entry → Bool)

inductive Answer (Entry : Type) where
  | delivered (entry : Entry)
  | tooSmall (entry : Entry)
  | finished
  deriving DecidableEq, Repr

/-- The reader answers one request from the entries that remain. -/
def step (request : Request) : List Entry → Answer Entry × List Entry
  | [] => (.finished, [])
  | entry :: rest => if fits request entry then (.delivered entry, rest) else (.tooSmall entry, entry :: rest)

def read : List Entry → List Request → List (Answer Entry)
  | _, [] => []
  | entries, request :: requests => (step fits request entries).1 :: read (step fits request entries).2 requests

def Answer.entry : Answer Entry → Option Entry
  | .delivered entry => some entry
  | _ => none

/-- The entries that a list of answers delivers. -/
def received (answers : List (Answer Entry)) : List Entry := answers.filterMap Answer.entry

section Deliveries
variable (entries : List Entry) (requests : List Request)

/-- The reader delivers each entry once and in order. -/
theorem received_begins : received (read fits entries requests) <+: entries := by
  induction requests generalizing entries with
  | nil => exact List.nil_prefix
  | cons request requests ih =>
      cases entries with
      | nil => exact ih []
      | cons entry rest =>
          rw [read, step]
          split
          · exact List.cons_prefix_cons.mpr ⟨rfl, ih rest⟩
          · exact ih (entry :: rest)

/-- The reader tells of its end only after it has delivered everything. -/
theorem received_of_finished (finished : .finished ∈ read fits entries requests) :
    received (read fits entries requests) = entries := by
  induction requests generalizing entries with
  | nil => cases finished
  | cons request requests ih =>
      cases entries with
      | nil => exact List.prefix_nil.mp (received_begins fits [] _)
      | cons entry rest =>
          rw [read, step] at finished ⊢
          split at finished
          · rename_i room
            rw [if_pos room]
            exact congrArg (entry :: ·) (ih rest ((List.mem_cons.mp finished).resolve_left nofun))
          · rename_i small
            rw [if_neg small]
            exact ih (entry :: rest) ((List.mem_cons.mp finished).resolve_left nofun)

/-- Requests that fit every entry deliver one entry each up to the end. -/
theorem received_of_fits (room : ∀ request ∈ requests, ∀ entry ∈ entries, fits request entry = true) :
    received (read fits entries requests) = entries.take requests.length := by
  induction requests generalizing entries with
  | nil => rfl
  | cons request requests ih =>
      cases entries with
      | nil => exact List.prefix_nil.mp (received_begins fits [] _)
      | cons entry rest =>
          rw [read, step, if_pos (room request List.mem_cons_self entry List.mem_cons_self)]
          refine congrArg (entry :: ·) (ih rest fun other asked next listed => ?_)
          exact room other (List.mem_cons_of_mem _ asked) next (List.mem_cons_of_mem _ listed)

end Deliveries

end OpenVehicle.Reader
