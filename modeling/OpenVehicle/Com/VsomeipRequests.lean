/-
This file proves that the SOME/IP transport completes each operation at most once, and it tells when each response
completes the operation that it answers.
-/

import OpenVehicle.Com.VsomeipRegistrations

namespace OpenVehicle.Com.Vsomeip

open Codec (Byte)
open Data (HandleTable)

/-- A response answers the request of an operation. -/
structure Response where
  operation : Nat
  code : ReturnCode := .ok
  payload : List Byte := []
  deriving DecidableEq, Repr

inductive Outcome where
  | answered (response : Response)
  | deadlineExceeded
  | cancelled
  | shuttingDown
  deriving DecidableEq, Repr

/-- The callback of an operation gets its handle and the outcome. -/
structure Completion where
  operation : Nat
  handle : Handle
  outcome : Outcome
  deriving DecidableEq, Repr

/-- The accepted operations are numbered. A thread that has taken completions holds them until it hands them to the
executor. -/
structure World where
  self : Transport
  sent : Nat := 0
  server : List Nat := []
  responses : List Response := []
  held : List Completion := []
  tasks : List Completion := []
  invoked : List Completion := []
  rejected : List Completion := []

inductive Action where
  | request (endpoint : Handle) (size deadline now : Nat)
  | cancel (operation : Handle)
  | expire (now : Nat)
  | stop
  | answer (index : Nat) (code : ReturnCode) (payload : List Byte)
  | receive (index : Nat)
  | dispatch (index : Nat) (accepted : Bool)
  | run (index : Nat)
  | other (operation : Operation)

/-- The operations that have an action of their own. -/
def Operation.completes : Operation → Bool
  | .request _ _ _ _ _ | .response _ | .cancel _ | .expire _ => true
  | _ => false

def completed (outcome : Outcome) (entry : Handle × Pending) : Completion := ⟨entry.2.operation, entry.1, outcome⟩

namespace World

/-- The middleware numbers the requests that it sends. -/
def perform (numbering : Nat → Correlation) : Action → World → Option World
  | .request endpoint size deadline now, world =>
      if deadline ≠ 0 ∧ deadline ≤ now then some world
      else
        match world.self.request endpoint world.sent size deadline (numbering world.sent) with
        | (.error _, _) => some world
        | (.ok _, self) => some { world with self, sent := world.sent + 1, server := world.server ++ [world.sent] }
  | .cancel operation, world =>
      match world.self.cancel operation with
      | (none, _) => some world
      | (some found, self) => some { world with self, held := world.held ++ [completed .cancelled (operation, found)] }
  | .expire now, world =>
      if !world.self.running then none
      else
        let expired := world.self.expire now
        some { world with self := expired.2, held := world.held ++ expired.1.map (completed .deadlineExceeded) }
  | .stop, world =>
      match world.self.stop with
      | (none, _) => some world
      | (some (pending, _), self) =>
          some { world with self, held := world.held ++ pending.map (completed .shuttingDown) }
  | .answer index code payload, world => world.server[index]?.map fun operation =>
      { world with
        server := world.server.eraseIdx index
        responses := world.responses ++ [{ operation, code, payload }] }
  | .receive index, world => world.responses[index]?.map fun response =>
      let result := world.self.response (numbering response.operation)
      { world with
        self := result.2
        responses := world.responses.eraseIdx index
        held := world.held ++ result.1.toList.map (completed (.answered response)) }
  | .dispatch index accepted, world => world.held[index]?.map fun completion =>
      { world with
        held := world.held.eraseIdx index
        tasks := if accepted then world.tasks ++ [completion] else world.tasks
        rejected := if accepted then world.rejected else world.rejected ++ [completion] }
  | .run index, world => world.tasks[index]?.map fun completion =>
      { world with tasks := world.tasks.eraseIdx index, invoked := world.invoked ++ [completion] }
  | .other operation, world =>
      if operation.completes then none else some { world with self := operation.perform world.self }

def completions (world : World) : List Completion := world.held ++ (world.tasks ++ (world.invoked ++ world.rejected))

/-- The operations that are pending or completed. -/
def record (world : World) : List Nat := world.self.pending.map (·.2.operation) ++ world.completions.map (·.operation)

def isPending (operation : Nat) (world : World) : Bool :=
  world.self.pending.any fun entry => entry.2.operation == operation

end World

def requests (numbering : Nat → Correlation) : Concurrency.System World Action := ⟨World.perform numbering⟩

/-- No request gets the session of a pending operation. A response of an operation that has ended meets no pending
operation with its session. -/
def Orderly (numbering : Nat → Correlation) (world : World) : Action → Prop
  | .request endpoint size _ _ => world.self.requestRefused endpoint size = none →
      ∀ entry ∈ world.self.pending, numbering entry.2.operation ≠ numbering world.sent
  | .receive index => ∀ response, world.responses[index]? = some response →
      world.isPending response.operation = false →
        ∀ entry ∈ world.self.pending, numbering entry.2.operation ≠ numbering response.operation
  | _ => True

variable {self : Transport}

namespace Transport

theorem request_cases (endpoint : Handle) (operation size deadline : Nat) (correlation : Correlation) :
    (∃ status, self.requestRefused endpoint size = some status ∧
      self.request endpoint operation size deadline correlation = (.error status, self)) ∨
      (self.requestRefused endpoint size = none ∧
        self.request endpoint operation size deadline correlation = (.ok self.nextHandle, { self with
          nextHandle := self.nextHandle + 1
          pending := self.pending ++ [(self.nextHandle, ⟨endpoint, operation, deadline⟩)]
          correlations :=
            if (self.correlations.lookup correlation).isSome then self.correlations
            else self.correlations ++ [(correlation, self.nextHandle)] })) := by
  unfold Transport.request
  split
  · rename_i status refused
    exact .inl ⟨status, refused, rfl⟩
  · rename_i free
    exact .inr ⟨free, rfl⟩

theorem running_of_not_refused {endpoint : Handle} {size : Nat} (free : self.requestRefused endpoint size = none) :
    self.running = true := by
  unfold Transport.requestRefused at free
  split at free
  · cases free
  · rename_i runs
    simpa using runs

theorem cancel_cases (operation : Handle) : self.cancel operation = (none, self) ∨
    ∃ found, self.pending.lookup operation = some found ∧ self.cancel operation = (some found, { self with
      pending := HandleTable.remove operation self.pending
      correlations := self.correlations.eraseP fun entry => entry.2 == operation }) := by
  unfold Transport.cancel
  split
  · exact .inl rfl
  · rename_i found known
    exact .inr ⟨found, known, rfl⟩

theorem response_cases (correlation : Correlation) : self.response correlation = (none, self) ∨
    ∃ operation found, self.correlations.lookup correlation = some operation ∧
      self.pending.lookup operation = some found ∧ self.response correlation = (some (operation, found), { self with
        pending := HandleTable.remove operation self.pending
        correlations := self.correlations.filter fun entry => entry.1 != correlation }) := by
  unfold Transport.response
  split
  · exact .inl rfl
  · split
    · exact .inl rfl
    · rename_i operation known
      split
      · exact .inl rfl
      · rename_i found listed
        exact .inr ⟨operation, found, known, listed, rfl⟩

theorem stop_cases : self.stop = (none, self) ∨
    ∃ handlers later, self.stop = (some (self.pending, handlers), later) ∧ later.pending = [] ∧
      later.correlations = [] ∧ later.nextHandle = self.nextHandle ∧ later.running = false := by
  unfold Transport.stop
  split
  · exact .inl rfl
  · exact .inr ⟨_, _, rfl, rfl, rfl, rfl, rfl⟩

/-- The other operations keep the tables of the operations. -/
structure Kept (before later : Transport) : Prop where
  pending : later.pending = before.pending
  correlations : later.correlations = before.correlations
  nextHandle : before.nextHandle ≤ later.nextHandle
  running : before.running = true → later.running = true

theorem kept_refl : Kept self self := ⟨rfl, rfl, Nat.le_refl _, id⟩

theorem kept_perform (operation : Operation) (other : operation.completes = false) :
    Kept self (operation.perform self) := by
  cases operation with
  | request _ _ _ _ _ | response _ | cancel _ | expire _ => cases other
  | start initialized =>
      simp only [Operation.perform, Transport.start]
      repeat' first | exact kept_refl | exact ⟨rfl, rfl, Nat.le_refl _, fun _ => rfl⟩ | split
  | watchStart nativeMapping =>
      simp only [Operation.perform, Transport.watchStart]
      repeat' first | exact kept_refl | exact ⟨rfl, rfl, Nat.le_succ _, id⟩ | split
  | endpointCreate descriptor =>
      simp only [Operation.perform, Transport.endpointCreate]
      repeat' first | exact kept_refl | exact ⟨rfl, rfl, Nat.le_succ _, id⟩ | split
  | subscribe endpoint =>
      simp only [Operation.perform, Transport.subscribe]
      repeat' first | exact kept_refl | exact ⟨rfl, rfl, Nat.le_succ _, id⟩ | split
  | receive message =>
      simp only [Operation.perform, Transport.receive]
      repeat' first | exact kept_refl | exact ⟨rfl, rfl, Nat.le_succ _, id⟩ | split
  | watchStop handle =>
      simp only [Operation.perform, Transport.watchStop]
      repeat' first | exact kept_refl | exact ⟨rfl, rfl, Nat.le_refl _, id⟩ | split
  | endpointDestroy handle =>
      simp only [Operation.perform, Transport.endpointDestroy]
      repeat' first | exact kept_refl | exact ⟨rfl, rfl, Nat.le_refl _, id⟩ | split
  | unsubscribe handle =>
      simp only [Operation.perform, Transport.unsubscribe]
      repeat' first | exact kept_refl | exact ⟨rfl, rfl, Nat.le_refl _, id⟩ | split
  | setHandler endpoint handler =>
      simp only [Operation.perform, Transport.setHandler]
      repeat' first | exact kept_refl | exact ⟨rfl, rfl, Nat.le_refl _, id⟩ | split
  | respond handle size =>
      simp only [Operation.perform, Transport.respond]
      repeat' first | exact kept_refl | exact ⟨rfl, rfl, Nat.le_refl _, id⟩ | split

end Transport

variable {numbering : Nat → Correlation} {world later : World} {action : Action} {A : Type} {list : List A}
variable {index : Nat}

section Accounting

/-- Each accepted operation is pending or has one completion. -/
structure Accounted (world : World) : Prop where
  record : world.record.Perm (List.range world.sent)
  ordered : world.self.pending.Ordered world.self.nextHandle
  idle : world.self.running = false → world.self.pending = []

theorem Accounted.once (accounted : Accounted world) : world.record.Nodup :=
  accounted.record.nodup_iff.mpr List.nodup_range

/-- A thread takes pending operations and holds their completions. -/
theorem record_take {taken : HandleTable Pending} {outcome : Outcome}
    (moved : world.self.pending.Perm (taken ++ self.pending)) :
    World.record { world with self, held := world.held ++ taken.map (completed outcome) } |>.Perm world.record := by
  have operations := moved.map (·.2.operation)
  rw [List.map_append] at operations
  have held : (taken.map (completed outcome)).map (·.operation) = taken.map (·.2.operation) := by
    rw [List.map_map]
    rfl
  apply List.perm_iff_count.mpr
  intro operation
  have counted := operations.count_eq operation
  rw [List.count_append] at counted
  simp only [World.record, World.completions, List.map_append, List.count_append, held]
  omega

theorem perm_eraseIdx {item : A} (found : list[index]? = some item) : list.Perm (item :: list.eraseIdx index) := by
  obtain ⟨inside, rfl⟩ := List.getElem?_eq_some_iff.mp found
  exact (List.getElem_cons_eraseIdx_perm inside).symm

variable {completion : Completion}

/-- A completion moves to the executor and is then invoked. -/
theorem completions_dispatch (accepted : Bool)
    (found : world.held[index]? = some completion) : World.completions { world with
      held := world.held.eraseIdx index
      tasks := if accepted then world.tasks ++ [completion] else world.tasks
      rejected := if accepted then world.rejected else world.rejected ++ [completion] } |>.Perm world.completions := by
  have moved := perm_eraseIdx found
  apply List.perm_iff_count.mpr
  intro other
  have counted := moved.count_eq other
  rw [← List.singleton_append, List.count_append] at counted
  cases accepted <;>
    simp only [World.completions, List.count_append, if_true, if_false, Bool.false_eq_true] <;> omega

theorem completions_run (found : world.tasks[index]? = some completion) : World.completions { world with
      tasks := world.tasks.eraseIdx index, invoked := world.invoked ++ [completion] } |>.Perm world.completions := by
  have moved := perm_eraseIdx found
  apply List.perm_iff_count.mpr
  intro other
  have counted := moved.count_eq other
  rw [← List.singleton_append, List.count_append] at counted
  simp only [World.completions, List.count_append]
  omega

theorem perm_filter (test : A → Bool) (list : List A) :
    list.Perm (list.filter test ++ list.filter fun item => !test item) := (List.filter_append_perm test list).symm

theorem Accounted.perform (accounted : Accounted world) (performed : world.perform numbering action = some later) :
    Accounted later := by
  obtain ⟨record, ordered, idle⟩ := accounted
  cases action with
  | request endpoint size deadline now =>
      simp only [World.perform] at performed
      split at performed
      · cases performed
        exact ⟨record, ordered, idle⟩
      · rcases world.self.request_cases endpoint world.sent size deadline (numbering world.sent) with
          ⟨status, _, failed⟩ | ⟨free, sent⟩
        · rw [failed] at performed
          cases performed
          exact ⟨record, ordered, idle⟩
        · rw [sent] at performed
          cases performed
          refine ⟨?_, ordered.add, fun stopped => ?_⟩
          · rw [List.range_succ]
            apply List.Perm.trans _ (record.append_right _)
            apply List.perm_iff_count.mpr
            intro operation
            simp only [World.record, World.completions, List.map_append, List.map_cons, List.map_nil, List.count_append]
            omega
          · have runs := Transport.running_of_not_refused free
            change world.self.running = false at stopped
            rw [runs] at stopped
            cases stopped
  | cancel operation =>
      simp only [World.perform] at performed
      rcases world.self.cancel_cases operation with failed | ⟨found, known, cancelled⟩
      · rw [failed] at performed
        cases performed
        exact ⟨record, ordered, idle⟩
      · rw [cancelled] at performed
        cases performed
        refine ⟨(@record_take _ _ [(operation, found)] _ (ordered.perm_remove known)).trans record,
          ordered.remove, fun stopped => ?_⟩
        rw [idle stopped] at known
        cases known
  | expire now =>
      obtain ⟨_, same⟩ := Option.ite_none_left_eq_some.mp performed
      cases same
      refine ⟨(record_take (perm_filter _ _)).trans record, ordered.sublist List.filter_sublist, fun stopped => ?_⟩
      have none := idle stopped
      simp only [Transport.expire, none, List.filter_nil]
  | stop =>
      simp only [World.perform] at performed
      rcases world.self.stop_cases with stopped | ⟨handlers, self, stopped, empty, _, next, ended⟩
      · rw [stopped] at performed
        cases performed
        exact ⟨record, ordered, idle⟩
      · rw [stopped] at performed
        cases performed
        refine ⟨(record_take ?_).trans record, ?_, fun _ => empty⟩
        · rw [empty, List.append_nil]
        · change self.pending.Ordered self.nextHandle
          rw [empty]
          exact .empty
  | answer index code payload =>
      obtain ⟨operation, _, rfl⟩ := Option.map_eq_some_iff.mp performed
      exact ⟨record, ordered, idle⟩
  | receive index =>
      obtain ⟨response, _, rfl⟩ := Option.map_eq_some_iff.mp performed
      rcases world.self.response_cases (numbering response.operation) with
        ignored | ⟨operation, found, _, listed, answered⟩
      · rw [ignored]
        refine ⟨?_, ordered, idle⟩
        simp only [Option.toList_none, List.map_nil, List.append_nil]
        exact record
      · rw [answered]
        refine ⟨(@record_take _ _ [(operation, found)] _ (ordered.perm_remove listed)).trans record,
          ordered.remove, fun stopped => ?_⟩
        rw [idle stopped] at listed
        cases listed
  | dispatch index accepted =>
      obtain ⟨completion, found, rfl⟩ := Option.map_eq_some_iff.mp performed
      exact ⟨(((completions_dispatch accepted found).map _).append_left _).trans record, ordered, idle⟩
  | run index =>
      obtain ⟨completion, found, rfl⟩ := Option.map_eq_some_iff.mp performed
      exact ⟨(((completions_run found).map _).append_left _).trans record, ordered, idle⟩
  | other operation =>
      obtain ⟨other, same⟩ := Option.ite_none_left_eq_some.mp performed
      cases same
      have kept := world.self.kept_perform operation (by simpa using other)
      refine ⟨?_, ?_, fun stopped => ?_⟩
      · rw [World.record]
        change (((operation.perform world.self).pending.map _) ++ _).Perm _
        rw [kept.pending]
        exact record
      · change (operation.perform world.self).pending.Ordered _
        rw [kept.pending]
        exact ordered.mono kept.nextHandle
      · change (operation.perform world.self).pending = []
        rw [kept.pending]
        apply idle
        by_contra ran
        rw [kept.running (by simpa using ran)] at stopped
        cases stopped

end Accounting

variable {handle : Handle}

section Correlations
variable {pending : HandleTable Pending} {correlations : List (Correlation × Handle)} {next : Nat}

/-- The table of correlations lists the pending operations under the sessions of their requests. -/
structure Correlates (numbering : Nat → Correlation) (pending : HandleTable Pending)
    (correlations : List (Correlation × Handle)) : Prop where
  keys : (correlations.map Prod.fst).Nodup
  sound : ∀ entry ∈ correlations, ∃ found, (entry.2, found) ∈ pending ∧ numbering found.operation = entry.1
  complete : ∀ entry ∈ pending, (numbering entry.2.operation, entry.1) ∈ correlations

theorem lookup_of_nodup {Key A : Type} [DecidableEq Key] {table : List (Key × A)} {key : Key} {value : A}
    (keys : (table.map Prod.fst).Nodup) (found : (key, value) ∈ table) : table.lookup key = some value := by
  obtain ⟨first, last, rfl⟩ := List.append_of_mem found
  apply List.lookup_eq_some_iff.mpr
  refine ⟨first, last, rfl, fun entry before => bne_iff_ne.mpr fun same => ?_⟩
  rw [List.map_append, List.map_cons, List.nodup_append] at keys
  exact keys.2.2 entry.1 (List.mem_map_of_mem before) key List.mem_cons_self same.symm

theorem eraseP_eq_filter {test : A → Bool} (distinct : list.Nodup)
    (only : ∀ first ∈ list, ∀ second ∈ list, test first = true → test second = true → first = second) :
    list.eraseP test = list.filter fun item => !test item := by
  induction list with
  | nil => rfl
  | cons item list ih =>
      rw [List.nodup_cons] at distinct
      by_cases passes : test item = true
      · rw [List.eraseP_cons_of_pos passes, List.filter_cons_of_neg (by simp [passes])]
        symm
        apply List.filter_eq_self.mpr
        intro other inside
        by_contra again
        have same := only item List.mem_cons_self other (List.mem_cons_of_mem _ inside) passes (by simpa using again)
        exact distinct.1 (same ▸ inside)
      · rw [List.eraseP_cons_of_neg passes, List.filter_cons_of_pos (by simpa using passes)]
        rw [ih distinct.2 fun first inside second other =>
          only first (List.mem_cons_of_mem _ inside) second (List.mem_cons_of_mem _ other)]

namespace Correlates

theorem empty : Correlates numbering [] [] := ⟨List.nodup_nil, by simp, by simp⟩

variable (correlates : Correlates numbering pending correlations)
include correlates

/-- The tables lose the same operations. -/
theorem keep (keep : Handle → Bool) : Correlates numbering (pending.filter fun entry => keep entry.1)
      (correlations.filter fun entry => keep entry.2) where
  keys := correlates.keys.sublist (List.filter_sublist.map _)
  sound entry found := by
    obtain ⟨listed, kept⟩ := List.mem_filter.mp found
    obtain ⟨operation, pending, same⟩ := correlates.sound entry listed
    exact ⟨operation, List.mem_filter.mpr ⟨pending, kept⟩, same⟩
  complete entry found := by
    obtain ⟨listed, kept⟩ := List.mem_filter.mp found
    exact List.mem_filter.mpr ⟨correlates.complete entry listed, kept⟩

/-- A new operation has a session that no pending operation has. -/
theorem add {operation : Pending}
    (fresh : ∀ entry ∈ pending, numbering entry.2.operation ≠ numbering operation.operation) :
    Correlates numbering (pending ++ [(next, operation)])
      (if (correlations.lookup (numbering operation.operation)).isSome then correlations
        else correlations ++ [(numbering operation.operation, next)]) := by
  have absent : ∀ entry ∈ correlations, entry.1 ≠ numbering operation.operation := by
    intro entry listed same
    obtain ⟨found, pending, session⟩ := correlates.sound entry listed
    exact fresh _ pending (session.trans same)
  have missing : correlations.lookup (numbering operation.operation) = none := by
    apply List.lookup_eq_none_iff.mpr
    intro entry listed
    exact bne_iff_ne.mpr (absent entry listed).symm
  rw [missing, if_neg (by simp)]
  constructor
  · rw [List.map_append, List.nodup_append]
    refine ⟨correlates.keys, List.nodup_singleton _, fun key listed other last same => ?_⟩
    obtain ⟨entry, known, rfl⟩ := List.mem_map.mp listed
    rw [List.map_singleton, List.mem_singleton] at last
    exact absent entry known (same.trans last)
  · intro entry listed
    rcases List.mem_append.mp listed with listed | last
    · obtain ⟨found, pending, session⟩ := correlates.sound entry listed
      exact ⟨found, List.mem_append_left _ pending, session⟩
    · rw [List.mem_singleton] at last
      subst last
      exact ⟨operation, List.mem_append_right _ List.mem_cons_self, rfl⟩
  · intro entry listed
    rcases List.mem_append.mp listed with listed | last
    · exact List.mem_append_left _ (correlates.complete entry listed)
    · rw [List.mem_singleton] at last
      subst last
      exact List.mem_append_right _ List.mem_cons_self

theorem lookup {entry : Handle × Pending}
    (found : entry ∈ pending) : correlations.lookup (numbering entry.2.operation) = some entry.1 :=
  lookup_of_nodup correlates.keys (correlates.complete entry found)

variable (ordered : pending.Ordered next)
include ordered

/-- Each handle has one session, and each session has one handle. -/
theorem same_handle
    {first second : Correlation × Handle} (listed : first ∈ correlations) (other : second ∈ correlations) :
    first.1 = second.1 ↔ first.2 = second.2 := by
  constructor
  · intro same
    have found := lookup_of_nodup correlates.keys listed
    rw [same, lookup_of_nodup correlates.keys other] at found
    exact (Option.some.inj found).symm
  · intro same
    obtain ⟨found, pending, session⟩ := correlates.sound first listed
    obtain ⟨known, there, named⟩ := correlates.sound second other
    have equal := ordered.lookup_of_mem pending
    rw [same, ordered.lookup_of_mem there] at equal
    rw [← session, ← named, Option.some.inj equal]

theorem response {correlation : Correlation} (found : correlations.lookup correlation = some handle) :
    Correlates numbering (HandleTable.remove handle pending)
      (correlations.filter fun entry => entry.1 != correlation) := by
  have listed : (correlation, handle) ∈ correlations := by
    obtain ⟨first, last, rfl, _⟩ := List.lookup_eq_some_iff.mp found
    exact List.mem_append_right _ List.mem_cons_self
  have same : (correlations.filter fun entry => entry.1 != correlation) =
      correlations.filter fun entry => entry.2 != handle := by
    apply List.filter_congr
    intro entry other
    rw [Bool.eq_iff_iff, bne_iff_ne, bne_iff_ne]
    exact not_congr (correlates.same_handle ordered other listed)
  rw [same]
  exact correlates.keep (· != handle)

theorem cancel (handle : Handle) : Correlates numbering (HandleTable.remove handle pending)
      (correlations.eraseP fun entry => entry.2 == handle) := by
  have same : (correlations.eraseP fun entry => entry.2 == handle) =
      correlations.filter fun entry => entry.2 != handle := by
    apply eraseP_eq_filter (List.Nodup.of_map _ correlates.keys)
    intro first listed second other mine also
    rw [beq_iff_eq] at mine also
    have equal := mine.trans also.symm
    exact Prod.ext ((correlates.same_handle ordered listed other).mpr equal) equal
  rw [same]
  exact correlates.keep (· != handle)

theorem expire (now : Nat) : Correlates numbering (pending.filter fun entry => !Transport.expiredAt now entry.2)
      (correlations.filter fun entry =>
        !((pending.filter fun entry => Transport.expiredAt now entry.2).any
          fun operation => operation.1 == entry.2)) := by
  have same : (pending.filter fun entry => !Transport.expiredAt now entry.2) = pending.filter fun entry =>
      !((pending.filter fun entry => Transport.expiredAt now entry.2).any fun operation => operation.1 == entry.1) := by
    apply List.filter_congr
    intro entry listed
    congr 1
    rw [Bool.eq_iff_iff, List.any_eq_true]
    constructor
    · intro expired
      exact ⟨entry, List.mem_filter.mpr ⟨listed, expired⟩, beq_self_eq_true _⟩
    · rintro ⟨other, found, same⟩
      obtain ⟨there, expired⟩ := List.mem_filter.mp found
      have equal := ordered.lookup_of_mem there
      rw [beq_iff_eq.mp same, ordered.lookup_of_mem listed] at equal
      rw [Option.some.inj equal]
      exact expired
  rw [same]
  exact correlates.keep fun handle =>
    !((pending.filter fun entry => Transport.expiredAt now entry.2).any fun operation => operation.1 == handle)

end Correlates

end Correlations

section Responses

/-- A response that completes an operation answers its request. -/
def Own (completion : Completion) : Prop :=
  ∀ response, completion.outcome = .answered response → completion.operation = response.operation

structure Matched (numbering : Nat → Correlation) (world : World) : Prop where
  correlates : Correlates numbering world.self.pending world.self.correlations
  own : ∀ completion ∈ world.completions, Own completion

/-- The held completions grow, and the other completions stay. -/
theorem own_take {taken : List Completion} (own : ∀ completion ∈ world.completions, Own completion)
    (added : ∀ completion ∈ taken, Own completion) : ∀ completion ∈
      world.held ++ taken ++ (world.tasks ++ (world.invoked ++ world.rejected)), Own completion := by
  intro completion found
  simp only [List.mem_append] at found
  rcases found with (held | taken) | others
  · exact own completion (List.mem_append_left _ held)
  · exact added completion taken
  · exact own completion (List.mem_append_right _ (by simpa only [List.mem_append] using others))

theorem own_completed {outcome : Outcome} {pending : HandleTable Pending}
    (other : ∀ response, outcome ≠ .answered response) :
    ∀ completion ∈ pending.map (completed outcome), Own completion := by
  intro completion found response same
  obtain ⟨entry, _, rfl⟩ := List.mem_map.mp found
  exact absurd same (other response)

variable {response : Response}

variable (matched : Matched numbering world)
include matched

variable (accounted : Accounted world)
include accounted

/-- A correlated response completes the operation of its request. -/
theorem answered_own (orderly : Orderly numbering world (.receive index))
    (arrived : world.responses[index]? = some response) {found : Pending}
    (correlated : world.self.correlations.lookup (numbering response.operation) = some handle)
    (listed : world.self.pending.lookup handle = some found) : found.operation = response.operation := by
  have inside := HandleTable.mem_of_lookup listed
  cases pending : world.isPending response.operation with
  | true =>
      obtain ⟨entry, there, same⟩ := List.any_eq_true.mp pending
      have known := matched.correlates.lookup there
      rw [beq_iff_eq.mp same, correlated, Option.some.injEq] at known
      have equal := accounted.ordered.lookup_of_mem there
      rw [← known, listed, Option.some.injEq] at equal
      rw [equal]
      exact beq_iff_eq.mp same
  | false =>
      obtain ⟨other, there, session⟩ := matched.correlates.sound _ (by
        obtain ⟨first, last, same, _⟩ := List.lookup_eq_some_iff.mp correlated
        rw [same]
        exact List.mem_append_right _ List.mem_cons_self)
      exact absurd session (orderly response arrived pending _ there)

theorem Matched.perform
    (orderly : Orderly numbering world action) (performed : world.perform numbering action = some later) :
    Matched numbering later := by
  obtain ⟨correlates, own⟩ := matched
  have ordered := accounted.ordered
  cases action with
  | request endpoint size deadline now =>
      simp only [World.perform] at performed
      split at performed
      · cases performed
        exact ⟨correlates, own⟩
      · rcases world.self.request_cases endpoint world.sent size deadline (numbering world.sent) with
          ⟨status, _, failed⟩ | ⟨free, sent⟩
        · rw [failed] at performed
          cases performed
          exact ⟨correlates, own⟩
        · rw [sent] at performed
          cases performed
          exact ⟨correlates.add (orderly free), own⟩
  | cancel operation =>
      simp only [World.perform] at performed
      rcases world.self.cancel_cases operation with failed | ⟨found, known, cancelled⟩
      · rw [failed] at performed
        cases performed
        exact ⟨correlates, own⟩
      · rw [cancelled] at performed
        cases performed
        exact ⟨correlates.cancel ordered operation, own_take own (@own_completed _ [(operation, found)] (by simp))⟩
  | expire now =>
      obtain ⟨_, same⟩ := Option.ite_none_left_eq_some.mp performed
      cases same
      exact ⟨correlates.expire ordered now, own_take own (own_completed (by simp))⟩
  | stop =>
      simp only [World.perform] at performed
      rcases world.self.stop_cases with stopped | ⟨handlers, self, stopped, empty, none, _⟩
      · rw [stopped] at performed
        cases performed
        exact ⟨correlates, own⟩
      · rw [stopped] at performed
        cases performed
        refine ⟨?_, own_take own (own_completed (by simp))⟩
        change Correlates numbering self.pending self.correlations
        rw [empty, none]
        exact .empty
  | answer index code payload =>
      obtain ⟨operation, _, rfl⟩ := Option.map_eq_some_iff.mp performed
      exact ⟨correlates, own⟩
  | receive index =>
      obtain ⟨response, arrived, rfl⟩ := Option.map_eq_some_iff.mp performed
      rcases world.self.response_cases (numbering response.operation) with
        ignored | ⟨handle, found, correlated, listed, answered⟩
      · rw [ignored]
        refine ⟨correlates, ?_⟩
        simp only [Option.toList_none, List.map_nil, List.append_nil]
        exact own
      · have mine := answered_own ⟨correlates, own⟩ accounted orderly arrived correlated listed
        rw [answered]
        refine ⟨correlates.response ordered correlated, own_take own fun completion taken => ?_⟩
        obtain ⟨entry, only, rfl⟩ := List.mem_map.mp taken
        rw [Option.toList_some, List.mem_singleton] at only
        subst only
        intro other same
        cases same
        exact mine
  | dispatch index accepted =>
      obtain ⟨completion, found, rfl⟩ := Option.map_eq_some_iff.mp performed
      exact ⟨correlates, fun other inside => own other ((completions_dispatch accepted found).mem_iff.mp inside)⟩
  | run index =>
      obtain ⟨completion, found, rfl⟩ := Option.map_eq_some_iff.mp performed
      exact ⟨correlates, fun other inside => own other ((completions_run found).mem_iff.mp inside)⟩
  | other operation =>
      obtain ⟨other, same⟩ := Option.ite_none_left_eq_some.mp performed
      cases same
      have kept := world.self.kept_perform operation (by simpa using other)
      refine ⟨?_, own⟩
      change Correlates numbering (operation.perform world.self).pending (operation.perform world.self).correlations
      rw [kept.pending, kept.correlations]
      exact correlates

end Responses

section Runs

variable {allowed : World → Action → Prop}

def begun (maxEndpoints maxOperations : Nat) : World := { self := fresh maxEndpoints maxOperations }

variable {maxEndpoints maxOperations : Nat}

theorem Accounted.invoked (accounted : Accounted world) : (world.invoked.map (·.operation)).Nodup := by
  have once := accounted.once
  simp only [World.record, World.completions, List.map_append, List.nodup_append] at once
  exact once.2.1.2.1.2.1.1

end Runs

/-- The sessions of a client have 16 bits, and zero is no session. -/
def cyclic (client : UInt16) (count : Nat) : Correlation := ⟨client, .ofNat (count % 65535 + 1)⟩

def methodClient : Descriptor where
  kind := .methodClient
  maxPayloadSize := 1024
  historyDepth := 0
  requiredFeatures := Feature.methods
  nativeMapping := "service=4660;instance=1;element=1;eventGroup=0;major=1;minor=0;kind=method;reliable=true".toList

/-- The transport runs and has one client. -/
def connected : Transport :=
  (Operation.endpointCreate methodClient).perform ((Operation.start true).perform (fresh 128 128))

/-- The second of three operations is cancelled, and its response comes between those of the other two. -/
def crossedResponses : List Action :=
  [.other (.start true), .other (.endpointCreate methodClient), .request 1 0 0 0, .request 1 0 0 0, .request 1 0 0 0,
    .cancel 3, .answer 2 .ok [6], .answer 1 .ok [5], .answer 0 .ok [4], .receive 0, .receive 0, .receive 0,
    .dispatch 2 true, .dispatch 1 true, .dispatch 0 true, .run 2, .run 0, .run 0]

example : ∃ world, (requests (cyclic 1)).Reaches (Orderly (cyclic 1)) (begun 128 128) world ∧
    world.invoked = [⟨1, 3, .cancelled⟩, ⟨0, 2, .answered ⟨0, .ok, [4]⟩⟩, ⟨2, 4, .answered ⟨2, .ok, [6]⟩⟩] := by
  let apart (world : World) (operation : Nat) : Bool :=
    world.self.pending.all fun entry => cyclic 1 entry.2.operation != cyclic 1 operation
  let check (world : World) : Action → Bool
    | .request _ _ _ _ => apart world world.sent
    | .receive index => world.responses[index]?.all fun response =>
        world.isPending response.operation || apart world response.operation
    | _ => true
  have sound (world : World) (action : Action) (checked : check world action = true) :
      Orderly (cyclic 1) world action := by
    cases action with
    | request endpoint size deadline now =>
        exact fun _ entry listed => bne_iff_ne.mp (List.all_eq_true.mp checked _ listed)
    | receive index =>
        intro response arrived ended entry listed
        have checked : (world.isPending response.operation || apart world response.operation) = true :=
          (Option.all_eq_true _ _).mp checked response arrived
        rw [ended, Bool.false_or] at checked
        exact bne_iff_ne.mp (List.all_eq_true.mp checked _ listed)
    | _ => trivial
  have executed : ((requests (cyclic 1)).run check (crossedResponses.map fun action _ => action) (begun 128 128)).any
      (fun world => decide (world.invoked =
        [⟨1, 3, .cancelled⟩, ⟨0, 2, .answered ⟨0, .ok, [4]⟩⟩, ⟨2, 4, .answered ⟨2, .ok, [6]⟩⟩])) = true := by
    decide
  obtain ⟨world, reached, ended⟩ := Concurrency.System.Reaches.exists_of_run check sound _ _ executed
  exact ⟨world, reached, of_decide_eq_true ended⟩

/-- Each operation is cancelled before the next one is requested. The servers have not answered yet. -/
def cancelled (count : Nat) : World where
  self := { connected with nextHandle := 2 + count }
  sent := count
  server := List.range count
  held := (List.range count).map fun operation => ⟨operation, 2 + operation, .cancelled⟩

/-- The next operation is pending. -/
def requested (numbering : Nat → Correlation) (count : Nat) : World := { cancelled count with
  self := { connected with
    nextHandle := 2 + count + 1
    pending := [(2 + count, ⟨1, count, 0⟩)]
    correlations := [(numbering count, 2 + count)] }
  sent := count + 1
  server := List.range count ++ [count] }

end OpenVehicle.Com.Vsomeip
