/-
This file proves when the stop handlers of an application are called. The dispatcher copies the handlers under the lock
and calls them outside it, and signals, registrations and resets come at any time.
-/

import OpenVehicle.Concurrency.System
import Mathlib.Data.List.Basic

namespace OpenVehicle.Exec.StopHandlers

open Concurrency (System)

/-- The points of the dispatcher between which the others may act. A copy of the handlers is called one by one. -/
inductive Stage where
  | looping
  | polling
  | draining
  | checking
  | copying
  | invoking (rest : List Nat)
  | running (rest : List Nat)
  | finished
  deriving DecidableEq, Repr

/-- A handler is known by its subscription. -/
inductive Event where
  | requested
  | started (subscription : Nat)
  | reset (subscription : Nat)
  deriving DecidableEq, Repr

/-- The log only records what has happened. -/
structure Lifecycle where
  handlers : List Nat := []
  nextSubscription : Nat := 1
  tokens : Nat := 0
  stopRequested : Bool := false
  shuttingDown : Bool := false
  stage : Stage := .looping
  log : List Event := []
  deriving DecidableEq, Repr

inductive Action where
  | signal (written : Bool)
  | dispatch
  | copy (order : List Nat)
  | interrupt
  | onStop
  | reset (subscription : Nat)
  | destroy
  deriving DecidableEq, Repr

/-- The dispatcher still has to start these handlers. -/
def Stage.rest : Stage → List Nat
  | .invoking rest | .running rest => rest
  | _ => []

/-- The dispatcher has read a token, and it has not copied the handlers yet. -/
def Stage.beforeCopy : Stage → Bool
  | .draining | .checking | .copying => true
  | _ => false

namespace Lifecycle

variable (self : Lifecycle)

/-- A read takes at most 64 tokens, and it fails when the pipe is empty. -/
def dispatch : Option Lifecycle :=
  match self.stage with
  | .looping => some { self with stage := if self.shuttingDown then .finished else .polling }
  | .polling => if self.tokens = 0 then none else some { self with stage := .draining }
  | .draining =>
      if self.tokens = 0 then some { self with stage := .checking } else some { self with tokens := self.tokens - 64 }
  | .checking =>
      if self.shuttingDown then some { self with stage := .finished }
      else some { self with stopRequested := true, stage := .copying }
  | .invoking [] => some { self with stage := .looping }
  | .invoking (subscription :: rest) =>
      some { self with stage := .running rest, log := self.log ++ [.started subscription] }
  | .running rest => some { self with stage := .invoking rest }
  | .copying | .finished => none

/-- A signal cannot write its token only when the pipe is full. The table of handlers has no order. -/
def perform (action : Action) (self : Lifecycle) : Option Lifecycle :=
  match action with
  | .signal true => some { self with tokens := self.tokens + 1, log := self.log ++ [.requested] }
  | .signal false => if self.tokens = 0 then none else some { self with log := self.log ++ [.requested] }
  | .dispatch => self.dispatch
  | .copy order =>
      if self.stage = .copying ∧ order.Perm self.handlers then some { self with stage := .invoking order } else none
  | .interrupt => if self.stage = .polling then some { self with stage := .looping } else none
  | .onStop => some { self with
      handlers := self.handlers ++ [self.nextSubscription]
      nextSubscription := self.nextSubscription + 1 }
  | .reset subscription =>
      if subscription < self.nextSubscription then
        some { self with
          handlers := self.handlers.filter (· != subscription)
          log := self.log ++ [.reset subscription] }
      else none
  | .destroy => some { self with shuttingDown := true, tokens := self.tokens + 1 }

/-- A handler is not started after its reset. -/
def Silent : Prop :=
  self.log.Pairwise fun earlier later => ∀ subscription, earlier = .reset subscription → later ≠ .started subscription

/-- A handler is started after a request. -/
def Invoked (subscription : Nat) (log : List Event) : Prop :=
  ∃ first rest, log = first ++ .requested :: rest ∧ .started subscription ∈ rest

/-- The dispatcher waits for a token, and there is none. -/
def Quiet : Prop := (self.stage = .looping ∨ self.stage = .polling) ∧ self.tokens = 0 ∧ self.shuttingDown = false

/-- After a request the dispatcher rests when it has called every handler. -/
def Served : Prop := self.Quiet → .requested ∈ self.log → ∀ subscription ∈ self.handlers, Invoked subscription self.log

/-- A subscription is reset when the dispatcher has no copy of its handler that it has not started. -/
def ResetInTurn (action : Action) : Prop :=
  match action with
  | .reset subscription => subscription ∉ self.stage.rest
  | _ => True

/-- A handler is registered before the dispatcher copies the handlers for the last request. -/
def OnStopInTurn (action : Action) : Prop :=
  match action with
  | .onStop => .requested ∈ self.log → self.tokens ≠ 0 ∨ self.stage.beforeCopy = true
  | _ => True

instance (self : Lifecycle) : (action : Action) → Decidable (self.ResetInTurn action)
  | .reset subscription => inferInstanceAs (Decidable (subscription ∉ self.stage.rest))
  | .signal _ | .dispatch | .copy _ | .interrupt | .onStop | .destroy => isTrue trivial

instance (self : Lifecycle) : (action : Action) → Decidable (self.OnStopInTurn action)
  | .onStop => inferInstanceAs (Decidable (_ → _))
  | .signal _ | .dispatch | .copy _ | .interrupt | .reset _ | .destroy => isTrue trivial

/-- The dispatcher takes the steps alone. -/
def Dispatching (_ : Lifecycle) (action : Action) : Prop :=
  match action with
  | .dispatch | .copy _ => True
  | _ => False

end Lifecycle

def machine : System Lifecycle Action where
  perform := Lifecycle.perform

variable {self later : Lifecycle} {action : Action}

namespace Lifecycle

/-- A reset handler is neither registered nor copied. -/
structure Removed (lifecycle : Lifecycle) : Prop where
  known : ∀ subscription, subscription ∈ lifecycle.handlers ∨ subscription ∈ lifecycle.stage.rest →
    subscription < lifecycle.nextSubscription
  gone : ∀ subscription, .reset subscription ∈ lifecycle.log → subscription < lifecycle.nextSubscription ∧
    subscription ∉ lifecycle.handlers ∧ subscription ∉ lifecycle.stage.rest
  silent : lifecycle.Silent

/-- A step that adds no handler and no event keeps the removed handlers. -/
theorem Removed.quiet (removed : self.Removed) (next : later.nextSubscription = self.nextSubscription)
    (fewer : ∀ subscription, subscription ∈ later.handlers ∨ subscription ∈ later.stage.rest →
      subscription ∈ self.handlers ∨ subscription ∈ self.stage.rest) (log : later.log = self.log) : later.Removed where
  known subscription found := next ▸ removed.known subscription (fewer subscription found)
  gone subscription reset := by
    obtain ⟨old, gone, rest⟩ := removed.gone subscription (log ▸ reset)
    have none : ¬(subscription ∈ later.handlers ∨ subscription ∈ later.stage.rest) := fun found =>
      (fewer subscription found).elim gone rest
    exact ⟨next ▸ old, fun found => none (.inl found), fun found => none (.inr found)⟩
  silent := by
    rw [Silent, log]
    exact removed.silent

theorem silent_append (silent : self.Silent) {event : Event}
    (fresh : ∀ subscription, event = .started subscription → .reset subscription ∉ self.log) :
    ({ self with log := self.log ++ [event] } : Lifecycle).Silent := by
  refine List.pairwise_append.mpr ⟨silent, List.pairwise_singleton _ _, fun earlier found later new => ?_⟩
  obtain rfl := List.mem_singleton.mp new
  rintro subscription rfl start
  exact fresh subscription start found

theorem Removed.append (removed : self.Removed) {event : Event} (next : later.nextSubscription = self.nextSubscription)
    (handlers : later.handlers = self.handlers) (rest : later.stage.rest ⊆ self.stage.rest)
    (log : later.log = self.log ++ [event]) (kept : ∀ subscription, event ≠ .reset subscription)
    (fresh : ∀ subscription, event = .started subscription → .reset subscription ∉ self.log) : later.Removed where
  known subscription found := by
    rw [next]
    exact removed.known subscription (found.imp (fun listed => handlers ▸ listed) fun copied => rest copied)
  gone subscription reset := by
    rw [log, List.mem_append, List.mem_singleton] at reset
    rcases reset with old | new
    · obtain ⟨less, gone, copied⟩ := removed.gone subscription old
      exact ⟨next ▸ less, handlers ▸ gone, fun found => copied (rest found)⟩
    · exact absurd new.symm (kept subscription)
  silent := by
    rw [Silent, log]
    exact silent_append removed.silent fresh

theorem removed_dispatch (removed : self.Removed) (performed : self.dispatch = some later) : later.Removed := by
  unfold dispatch at performed
  split at performed
  · rename_i stage
    cases performed
    refine removed.quiet rfl (fun subscription found => ?_) rfl
    refine found.imp_right fun copied => ?_
    split at copied <;> cases copied
  · rename_i stage
    split at performed
    · cases performed
    · cases performed
      exact removed.quiet rfl (fun _ found => found.imp_right fun copied => by cases copied) rfl
  · rename_i stage
    split at performed
    · cases performed
      exact removed.quiet rfl (fun _ found => found.imp_right fun copied => by cases copied) rfl
    · cases performed
      exact removed.quiet rfl (fun _ found => found) rfl
  · rename_i stage
    split at performed
    · cases performed
      exact removed.quiet rfl (fun _ found => found.imp_right fun copied => by cases copied) rfl
    · cases performed
      exact removed.quiet rfl (fun _ found => found.imp_right fun copied => by cases copied) rfl
  · rename_i stage
    cases performed
    exact removed.quiet rfl (fun _ found => found.imp_right fun copied => by cases copied) rfl
  · rename_i subscription rest stage
    cases performed
    have copied : self.stage.rest = subscription :: rest := by rw [stage, Stage.rest]
    refine removed.append rfl rfl ?_ rfl (fun _ same => by cases same) ?_
    · rw [copied]
      exact List.subset_cons_self subscription rest
    · intro other same reset
      cases same
      exact (removed.gone subscription reset).2.2 (copied ▸ List.mem_cons_self)
  · rename_i rest stage
    cases performed
    refine removed.quiet rfl (fun _ found => ?_) rfl
    rwa [stage]
  · cases performed
  · cases performed

theorem removed_perform (removed : self.Removed) (turn : self.ResetInTurn action)
    (performed : self.perform action = some later) : later.Removed := by
  cases action with
  | signal written =>
      have log : later.nextSubscription = self.nextSubscription ∧ later.handlers = self.handlers ∧
          later.stage = self.stage ∧ later.log = self.log ++ [.requested] := by
        cases written with
        | true =>
            cases performed
            exact ⟨rfl, rfl, rfl, rfl⟩
        | false =>
            obtain ⟨_, full⟩ := Option.ite_none_left_eq_some.mp performed
            obtain rfl := Option.some.inj full
            exact ⟨rfl, rfl, rfl, rfl⟩
      obtain ⟨next, handlers, stage, log⟩ := log
      refine removed.append next handlers (by rw [stage]; exact List.Subset.refl _) log ?_ ?_
      · intro subscription same
        cases same
      · intro subscription same
        cases same
  | dispatch => exact removed_dispatch removed performed
  | copy order =>
      obtain ⟨⟨stage, order⟩, copied⟩ := Option.ite_none_right_eq_some.mp performed
      obtain rfl := Option.some.inj copied
      refine removed.quiet rfl (fun subscription found => .inl ?_) rfl
      exact found.elim id order.mem_iff.mp
  | interrupt =>
      obtain ⟨_, looped⟩ := Option.ite_none_right_eq_some.mp performed
      obtain rfl := Option.some.inj looped
      exact removed.quiet rfl (fun _ found => found.imp_right fun copied => by cases copied) rfl
  | onStop =>
      cases performed
      constructor
      · rintro subscription (listed | copied)
        · rcases List.mem_append.mp listed with old | new
          · exact Nat.lt_succ_of_lt (removed.known subscription (.inl old))
          · rw [List.mem_singleton.mp new]
            exact Nat.lt_succ_self _
        · exact Nat.lt_succ_of_lt (removed.known subscription (.inr copied))
      · intro subscription reset
        obtain ⟨less, gone, copied⟩ := removed.gone subscription reset
        refine ⟨Nat.lt_succ_of_lt less, fun listed => ?_, copied⟩
        rcases List.mem_append.mp listed with old | new
        · exact gone old
        · exact absurd (List.mem_singleton.mp new) (Nat.ne_of_lt less)
      · exact removed.silent
  | reset subscription =>
      obtain ⟨less, erased⟩ := Option.ite_none_right_eq_some.mp performed
      obtain rfl := Option.some.inj erased
      constructor
      · rintro other (listed | copied)
        · exact removed.known other (.inl (List.mem_filter.mp listed).1)
        · exact removed.known other (.inr copied)
      · intro other reset
        rcases List.mem_append.mp reset with old | new
        · obtain ⟨less, gone, copied⟩ := removed.gone other old
          exact ⟨less, fun listed => gone (List.mem_filter.mp listed).1, copied⟩
        · cases List.mem_singleton.mp new
          exact ⟨less, by simp, turn⟩
      · apply silent_append removed.silent
        intro other same
        cases same
  | destroy =>
      cases performed
      exact removed.quiet rfl (fun _ found => found) rfl

section Calls
variable {subscription : Nat} {log : List Event}

theorem Invoked.append (invoked : Invoked subscription log) (events : List Event) :
    Invoked subscription (log ++ events) := by
  obtain ⟨first, rest, rfl, started⟩ := invoked
  exact ⟨first, rest ++ events, by simp, List.mem_append_left _ started⟩

theorem invoked_started (requested : .requested ∈ log) : Invoked subscription (log ++ [.started subscription]) := by
  obtain ⟨first, rest, rfl⟩ := List.append_of_mem requested
  exact ⟨first, rest ++ [.started subscription], by simp, by simp⟩

/-- The dispatcher owes a call to the handler. -/
def Owed (self : Lifecycle) (subscription : Nat) : Prop :=
  self.tokens ≠ 0 ∨ self.stage.beforeCopy = true ∨ subscription ∈ self.stage.rest

/-- After a request each handler has been called, or its call is owed. -/
structure Awaited (lifecycle : Lifecycle) : Prop where
  ends : lifecycle.stage = .finished → lifecycle.shuttingDown = true
  owed : lifecycle.shuttingDown = false → .requested ∈ lifecycle.log → ∀ subscription ∈ lifecycle.handlers,
    Invoked subscription lifecycle.log ∨ lifecycle.Owed subscription

variable (awaited : self.Awaited)
include awaited

theorem Awaited.served : self.Served := by
  rintro ⟨stage, empty, running⟩ requested subscription listed
  rcases awaited.owed running requested subscription listed with invoked | tokens | before | copied
  · exact invoked
  · exact absurd empty tokens
  · rcases stage with stage | stage <;> rw [stage] at before <;> cases before
  · rcases stage with stage | stage <;> rw [stage] at copied <;> cases copied

/-- A step that records nothing keeps what is owed. -/
theorem Awaited.keep (ends : later.stage = .finished → later.shuttingDown = true)
    (down : later.shuttingDown = self.shuttingDown) (handlers : later.handlers = self.handlers)
    (log : later.log = self.log)
    (owed : later.shuttingDown = false → ∀ subscription ∈ self.handlers, self.Owed subscription →
      later.Owed subscription) : later.Awaited where
  ends := ends
  owed running requested subscription listed := by
    rw [log] at requested ⊢
    rw [handlers] at listed
    exact (awaited.owed (down ▸ running) requested subscription listed).imp_right (owed running subscription listed)

theorem awaited_dispatch (performed : self.dispatch = some later) : later.Awaited := by
  unfold dispatch at performed
  split at performed
  · rename_i stage
    cases performed
    refine awaited.keep (fun finished => ?_) rfl rfl rfl fun running subscription _ owed => ?_
    · by_contra running
      simp [running] at finished
    · have tokens : self.tokens ≠ 0 := by simpa [Owed, stage, Stage.beforeCopy, Stage.rest] using owed
      exact .inl tokens
  · rename_i stage
    split at performed
    · cases performed
    · rename_i tokens
      cases performed
      exact awaited.keep (fun finished => by cases finished) rfl rfl rfl fun _ _ _ _ => .inl tokens
  · rename_i stage
    split at performed
    · cases performed
      exact awaited.keep (fun finished => by cases finished) rfl rfl rfl fun _ _ _ _ => .inr (.inl rfl)
    · cases performed
      refine awaited.keep (fun finished => ?_) rfl rfl rfl fun _ _ _ _ => .inr (.inl ?_)
      · rw [stage] at finished
        cases finished
      · rw [stage]
        rfl
  · rename_i stage
    split at performed
    · rename_i down
      cases performed
      refine awaited.keep (fun _ => down) rfl rfl rfl fun running => ?_
      rw [down] at running
      cases running
    · cases performed
      exact awaited.keep (fun finished => by cases finished) rfl rfl rfl fun _ _ _ _ => .inr (.inl rfl)
  · rename_i stage
    cases performed
    refine awaited.keep (fun finished => by cases finished) rfl rfl rfl fun _ _ _ owed => .inl ?_
    simpa [Owed, stage, Stage.beforeCopy, Stage.rest] using owed
  · rename_i first rest stage
    cases performed
    refine ⟨(fun finished => by cases finished), fun running requested subscription listed => ?_⟩
    have before : .requested ∈ self.log := by simpa using requested
    rcases awaited.owed running before subscription listed with invoked | tokens | early | copied
    · exact .inl (invoked.append _)
    · exact .inr (.inl tokens)
    · rw [stage] at early
      cases early
    · rw [stage] at copied
      rcases List.mem_cons.mp copied with rfl | copied
      · exact .inl (invoked_started before)
      · exact .inr (.inr (.inr copied))
  · rename_i rest stage
    cases performed
    refine awaited.keep (fun finished => by cases finished) rfl rfl rfl fun _ _ _ owed => ?_
    simpa [Owed, stage, Stage.beforeCopy, Stage.rest] using owed
  · cases performed
  · cases performed

theorem awaited_perform (turn : self.OnStopInTurn action)
    (performed : self.perform action = some later) : later.Awaited := by
  cases action with
  | signal written =>
      cases written with
      | true =>
          cases performed
          exact ⟨awaited.ends, fun _ _ _ _ => .inr (.inl (Nat.succ_ne_zero _))⟩
      | false =>
          obtain ⟨tokens, full⟩ := Option.ite_none_left_eq_some.mp performed
          obtain rfl := Option.some.inj full
          exact ⟨awaited.ends, fun _ _ _ _ => .inr (.inl tokens)⟩
  | dispatch => exact awaited_dispatch awaited performed
  | copy order =>
      obtain ⟨⟨stage, order⟩, copied⟩ := Option.ite_none_right_eq_some.mp performed
      obtain rfl := Option.some.inj copied
      exact awaited.keep (fun finished => by cases finished) rfl rfl rfl fun _ _ listed _ =>
        .inr (.inr (order.mem_iff.mpr listed))
  | interrupt =>
      obtain ⟨stage, looped⟩ := Option.ite_none_right_eq_some.mp performed
      obtain rfl := Option.some.inj looped
      refine awaited.keep (fun finished => by cases finished) rfl rfl rfl fun _ _ _ owed => .inl ?_
      simpa [Owed, stage, Stage.beforeCopy, Stage.rest] using owed
  | onStop =>
      cases performed
      refine ⟨awaited.ends, fun running requested subscription listed => ?_⟩
      rcases List.mem_append.mp listed with old | _
      · exact awaited.owed running requested subscription old
      · exact .inr ((turn requested).imp_right .inl)
  | reset subscription =>
      obtain ⟨_, erased⟩ := Option.ite_none_right_eq_some.mp performed
      obtain rfl := Option.some.inj erased
      refine ⟨awaited.ends, fun running requested other listed => ?_⟩
      have before : .requested ∈ self.log := by simpa using requested
      exact (awaited.owed running before other (List.mem_filter.mp listed).1).imp_left (·.append _)
  | destroy =>
      cases performed
      exact ⟨fun _ => rfl, fun running => by cases running⟩

end Calls

/-- The dispatcher comes to rest with the same handlers. -/
def Rests (self : Lifecycle) : Prop :=
  ∃ later, machine.Reaches Dispatching self later ∧ later.Quiet ∧ later.handlers = self.handlers

/-- A step of the dispatcher leads to a lifecycle from which it comes to rest. -/
theorem Rests.step (rests : later.Rests) (action : Action) (taken : Dispatching self action)
    (performed : self.perform action = some later) (handlers : later.handlers = self.handlers) : self.Rests := by
  obtain ⟨last, reached, quiet, same⟩ := rests
  exact ⟨last, (System.Reaches.step .refl taken performed).trans reached, quiet, same.trans handlers⟩

theorem Rests.dispatch (rests : later.Rests) (performed : self.dispatch = some later)
    (handlers : later.handlers = self.handlers) : self.Rests := rests.step .dispatch trivial performed handlers

theorem Quiet.rests (quiet : self.Quiet) : self.Rests := ⟨self, .refl, quiet, rfl⟩

/-- The dispatcher calls the copied handlers, and then it looks for a token. -/
theorem rests_invoking {rest : List Nat} (stage : self.stage = .invoking rest)
    (looping : ∀ log, ({ self with stage := .looping, log := log } : Lifecycle).Rests) : self.Rests := by
  induction rest generalizing self with
  | nil =>
      have looped : self.dispatch = some { self with stage := .looping } := by rw [dispatch, stage]
      exact (looping self.log).dispatch looped rfl
  | cons subscription rest ih =>
      have started : self.dispatch =
          some { self with stage := .running rest, log := self.log ++ [.started subscription] } := by
        rw [dispatch, stage]
      apply Rests.dispatch _ started rfl
      have invoking : ({ self with stage := .invoking rest, log := self.log ++ [.started subscription] } :
          Lifecycle).Rests := ih rfl looping
      exact invoking.dispatch rfl rfl

theorem rests_checking (stage : self.stage = .checking) (running : self.shuttingDown = false)
    (looping : ∀ log, ({ self with stopRequested := true, stage := .looping, log := log } : Lifecycle).Rests) :
    self.Rests := by
  have stored : self.dispatch = some { self with stopRequested := true, stage := .copying } := by
    rw [dispatch, stage]
    simp [running]
  apply Rests.dispatch _ stored rfl
  have invoking : ({ self with stopRequested := true, stage := .invoking self.handlers } : Lifecycle).Rests :=
    rests_invoking rfl looping
  exact invoking.step (.copy self.handlers) trivial (if_pos ⟨rfl, List.Perm.refl _⟩) rfl

/-- The number of tokens falls with every read. -/
theorem rests_draining (count : Nat) (stage : self.stage = .draining) (tokens : self.tokens ≤ count)
    (running : self.shuttingDown = false) : self.Rests := by
  induction count generalizing self with
  | zero =>
      have empty : self.tokens = 0 := Nat.le_zero.mp tokens
      have drained : self.dispatch = some { self with stage := .checking } := by
        rw [dispatch, stage]
        simp [empty]
      apply Rests.dispatch _ drained rfl
      exact rests_checking rfl running fun _ => Quiet.rests ⟨.inl rfl, empty, running⟩
  | succ count ih =>
      by_cases empty : self.tokens = 0
      · exact ih stage (by omega) running
      · have drained : self.dispatch = some { self with tokens := self.tokens - 64 } := by
          rw [dispatch, stage]
          simp [empty]
        apply Rests.dispatch _ drained rfl
        exact ih stage (show self.tokens - 64 ≤ count by omega) running

theorem rests_polling (stage : self.stage = .polling) (running : self.shuttingDown = false) : self.Rests := by
  by_cases empty : self.tokens = 0
  · exact Quiet.rests ⟨.inr stage, empty, running⟩
  · have polled : self.dispatch = some { self with stage := .draining } := by
      rw [dispatch, stage]
      simp [empty]
    apply Rests.dispatch _ polled rfl
    exact rests_draining self.tokens rfl (Nat.le_refl _) running

theorem rests_looping (stage : self.stage = .looping) (running : self.shuttingDown = false) : self.Rests := by
  have polled : self.dispatch = some { self with stage := .polling } := by
    rw [dispatch, stage]
    simp [running]
  apply Rests.dispatch _ polled rfl
  exact rests_polling rfl running

/-- The dispatcher comes to rest from each of its points. -/
theorem rests_of_running (alive : self.stage ≠ .finished) (running : self.shuttingDown = false) : self.Rests := by
  cases stage : self.stage with
  | looping => exact rests_looping stage running
  | polling => exact rests_polling stage running
  | draining => exact rests_draining self.tokens stage (Nat.le_refl _) running
  | checking => exact rests_checking stage running fun _ => rests_looping rfl running
  | copying =>
      have invoking : ({ self with stage := .invoking self.handlers } : Lifecycle).Rests :=
        rests_invoking rfl fun _ => rests_looping rfl running
      exact invoking.step (.copy self.handlers) trivial (if_pos ⟨stage, List.Perm.refl _⟩) rfl
  | invoking rest => exact rests_invoking stage fun _ => rests_looping rfl running
  | running rest =>
      have returned : self.dispatch = some { self with stage := .invoking rest } := by rw [dispatch, stage]
      apply Rests.dispatch _ returned rfl
      exact rests_invoking rfl fun _ => rests_looping rfl running
  | finished => exact absurd stage alive

theorem removed_empty : ({} : Lifecycle).Removed where
  known subscription found := by simp [Stage.rest] at found
  gone subscription reset := by cases reset
  silent := .nil

theorem silent_of_reaches (reached : machine.Reaches ResetInTurn {} self) : self.Silent := by
  have removed : self.Removed :=
    reached.invariant removed_empty fun _ _ _ removed turn performed => removed_perform removed turn performed
  exact removed.silent

theorem awaited_empty : ({} : Lifecycle).Awaited where
  ends finished := by cases finished
  owed _ requested := by cases requested

theorem awaited_of_reaches (start : self.Awaited) (reached : machine.Reaches OnStopInTurn self later) : later.Awaited :=
  reached.invariant start fun _ _ _ awaited turn performed => awaited_perform awaited turn performed

theorem onStopInTurn_of_dispatching (lifecycle : Lifecycle) (action : Action)
    (taken : Dispatching lifecycle action) : OnStopInTurn lifecycle action := by
  cases action with
  | onStop => exact False.elim taken
  | signal | dispatch | copy | interrupt | reset | destroy => trivial

/-- The dispatcher keeps the log when it adds to it. -/
theorem log_dispatching (taken : Dispatching self action)
    (performed : self.perform action = some later) : self.log ⊆ later.log := by
  cases action with
  | dispatch =>
      have dispatched : self.dispatch = some later := performed
      unfold dispatch at dispatched
      split at dispatched
      any_goals split at dispatched
      all_goals cases dispatched
      all_goals simp
  | copy order =>
      obtain ⟨_, copied⟩ := Option.ite_none_right_eq_some.mp performed
      cases copied
      exact List.Subset.refl _
  | signal | onStop | interrupt | reset | destroy => exact False.elim taken

theorem log_of_dispatching (reached : machine.Reaches Dispatching self later) : self.log ⊆ later.log := by
  induction reached with
  | refl => exact List.Subset.refl _
  | step _ taken performed ih => exact List.Subset.trans ih (log_dispatching taken performed)

/-- No handler is started after its reset when the dispatcher does not hold a copy of it at the reset. After a request
every handler is called when it is registered before the last copy, and the dispatcher comes to that by itself. -/
theorem stop_handlers (lifecycle : Lifecycle) : (machine.Reaches ResetInTurn {} lifecycle → lifecycle.Silent) ∧
    (machine.Reaches OnStopInTurn {} lifecycle → lifecycle.Served ∧
      (lifecycle.shuttingDown = false → .requested ∈ lifecycle.log → ∃ later,
        machine.Reaches Dispatching lifecycle later ∧ later.handlers = lifecycle.handlers ∧
          ∀ subscription ∈ later.handlers, Invoked subscription later.log)) := by
  refine ⟨silent_of_reaches, fun reached => ?_⟩
  have awaited := awaited_of_reaches awaited_empty reached
  refine ⟨awaited.served, fun running requested => ?_⟩
  have alive : lifecycle.stage ≠ .finished := by
    intro finished
    rw [awaited.ends finished] at running
    cases running
  obtain ⟨later, rests, quiet, handlers⟩ := rests_of_running alive running
  refine ⟨later, rests, handlers, ?_⟩
  have served := (awaited_of_reaches awaited (rests.permits fun lifecycle action _ =>
    onStopInTurn_of_dispatching lifecycle action)).served
  exact served quiet (log_of_dispatching rests requested)

/-- A signal is dispatched to one handler, which is reset after its call. -/
def dispatched : List Action := [.onStop, .signal true, .dispatch, .dispatch, .dispatch, .dispatch, .dispatch,
  .copy [1], .dispatch, .reset 1, .signal true, .onStop, .dispatch, .dispatch]

/-- A handler is called before and after its reset. -/
theorem stop_handlers_dispatched : ∃ lifecycle : Lifecycle,
    lifecycle.log = [.requested, .started 1, .reset 1, .requested] ∧ lifecycle.Silent ∧
      ∃ later : Lifecycle, later.handlers = [2] ∧ ∀ subscription ∈ later.handlers, Invoked subscription later.log := by
  obtain ⟨lifecycle, reached, facts⟩ := System.Reaches.exists_of_run
    (fun self action => decide (self.ResetInTurn action ∧ self.OnStopInTurn action))
    (fun _ _ => of_decide_eq_true) (dispatched.map fun action _ => action)
    (fun lifecycle => lifecycle.log == [.requested, .started 1, .reset 1, .requested] && lifecycle.handlers == [2] &&
      !lifecycle.shuttingDown)
    (show (machine.run _ _ {}).any _ = true by decide)
  simp only [Bool.and_eq_true, beq_iff_eq, Bool.not_eq_true'] at facts
  obtain ⟨⟨log, handlers⟩, running⟩ := facts
  refine ⟨lifecycle, log, (stop_handlers lifecycle).1 (reached.permits fun _ _ _ both => both.1), ?_⟩
  obtain ⟨later, _, same, invoked⟩ := ((stop_handlers lifecycle).2 (reached.permits fun _ _ _ both => both.2)).2 running
    (by rw [log]; exact List.mem_cons_self)
  exact ⟨later, same.trans handlers, invoked⟩

/-- The handler is reset between its copy and its call. -/
def removal : List Action := [.onStop, .signal true, .dispatch, .dispatch, .dispatch, .dispatch, .dispatch, .copy [1],
  .reset 1, .dispatch]

/-- The handler is registered after the handlers are copied, and no signal follows. -/
def lateRegistration : List Action := [.signal true, .dispatch, .dispatch, .dispatch, .dispatch, .dispatch, .copy [],
  .onStop, .dispatch]

/-- A handler is called after its reset, and another one is never called. -/
theorem stop_handlers_late :
    (∃ lifecycle : Lifecycle, machine.Reaches (fun _ _ => True) {} lifecycle ∧ ¬lifecycle.Silent) ∧
    ∃ lifecycle : Lifecycle, machine.Reaches (fun _ _ => True) {} lifecycle ∧ ¬lifecycle.Served := by
  constructor
  · obtain ⟨lifecycle, reached, log⟩ := System.Reaches.exists_of_run (fun _ _ => true) (fun _ _ _ => trivial)
      (removal.map fun action _ => action)
      (fun lifecycle => lifecycle.log == [.requested, .reset 1, .started 1])
      (show (machine.run (fun _ _ => true) _ {}).any _ = true by decide)
    refine ⟨lifecycle, reached, fun silent => ?_⟩
    rw [Silent, beq_iff_eq.mp log] at silent
    have apart := List.rel_of_pairwise_cons (List.pairwise_cons.mp silent).2 List.mem_cons_self
    exact apart 1 rfl rfl
  · obtain ⟨lifecycle, reached, facts⟩ := System.Reaches.exists_of_run (fun _ _ => true) (fun _ _ _ => trivial)
      (lateRegistration.map fun action _ => action)
      (fun lifecycle => lifecycle.log == [.requested] && lifecycle.handlers == [1] && lifecycle.stage == .looping &&
        lifecycle.tokens == 0 && !lifecycle.shuttingDown)
      (show (machine.run (fun _ _ => true) _ {}).any _ = true by decide)
    simp only [Bool.and_eq_true, beq_iff_eq, Bool.not_eq_true'] at facts
    obtain ⟨⟨⟨⟨log, handlers⟩, stage⟩, tokens⟩, running⟩ := facts
    refine ⟨lifecycle, reached, fun served => ?_⟩
    obtain ⟨first, rest, split, started⟩ := served ⟨.inl stage, tokens, running⟩ (by rw [log]; exact List.mem_cons_self)
      1 (by rw [handlers]; exact List.mem_cons_self)
    rw [log] at split
    cases first with
    | nil =>
        cases split
        cases started
    | cons event first => simp at split

end Lifecycle

end OpenVehicle.Exec.StopHandlers
