/-
This file proves how often the requests of the in-process transport complete. Each thread has a stage, and
the callbacks of a user that are still possible are counted over the threads, the table and the executor.
-/

import OpenVehicle.Com.InprocRequests
import OpenVehicle.Concurrency.Protocol
import OpenVehicle.Concurrency.Tally
import Mathlib.Data.List.Perm.Basic

namespace OpenVehicle.Com.Requests

open Codec (Byte)
open Concurrency

/-- A thread sends the request of its user, or it holds users whose entries it has removed from the table. -/
inductive Stage where
  | calling (user : Nat)
  | requested (user : Nat)
  | refused (user : Nat)
  | accepted (user : Nat)
  | broken (user : Nat)
  | holding (users : List Nat)

namespace Stage

/-- The callbacks of a user that the thread may still cause, and the ones that it excludes. -/
def weight (user : Nat) : Stage → Nat
  | .calling other | .refused other => if other = user then 1 else 0
  | .holding users => users.count user
  | _ => 0

def isBroken : Stage → Bool
  | .broken _ => true
  | _ => false

/-- The table may have changed, and the request of the thread can fail only when it breaks. -/
def isPassed : Stage → Bool
  | .requested _ | .accepted _ | .holding _ => true
  | _ => false

end Stage

/-- A plain operation moves no request. -/
def Op.isPlain : Op → Bool
  | .request _ _ | .complete _ | .stop | .dispatch _ | .fail _ _ | .completed _ _ _ _ => false
  | _ => true

/-- The stages of a thread change with the replies to its operations. -/
inductive Moves : Stage → (op : Op) → op.Reply → Stage → Prop
  | plain {stage op} (reply) (other : op.isPlain = true) : Moves stage op reply stage
  | fail (user status) : Moves (.calling user) (.fail user status) () (.refused user)
  | failRefused (user status) : Moves (.refused user) (.fail user status) () (.refused user)
  | failBroken (user status) : Moves (.broken user) (.fail user status) () (.broken user)
  | enter {client user} (entered) : Moves (.calling user) (.request client user) (.ok entered) (.requested user)
  | refuse {client user} (status) : Moves (.calling user) (.request client user) (.error status) (.refused user)
  | copyFails (user server operation payload deadline) :
      Moves (.requested user) (.copy (.request server operation payload deadline)) false (.broken user)
  | storeFails (user server operation payload deadline) :
      Moves (.requested user) (.store (.request server operation payload deadline)) false (.broken user)
  | handOver (user server operation payload deadline) :
      Moves (.requested user) (.dispatch (.request server operation payload deadline)) .ok (.accepted user)
  | reject {user server operation payload deadline status} (rejected : status ≠ .ok) :
      Moves (.requested user) (.dispatch (.request server operation payload deadline)) status (.broken user)
  | missing (operation) : Moves (.holding []) (.complete operation) none (.holding [])
  | take (operation user) : Moves (.holding []) (.complete operation) (some user) (.holding [user])
  | stopped : Moves (.holding []) .stop none (.holding [])
  | stop (pending servers) : Moves (.holding []) .stop (some (pending, servers)) (.holding (pending.map Prod.snd))
  | drop (user users operation status payload) :
      Moves (.holding (user :: users)) (.store (.completion user operation status payload)) false (.holding users)
  | deliver (user users operation status payload answer) :
      Moves (.holding (user :: users)) (.dispatch (.completion user operation status payload)) answer (.holding users)
  | call (user operation status payload) :
      Moves (.holding [user]) (.completed user operation status payload) () (.holding [])

/-- A thread ends in the stage of its function. -/
def Ends : Stage → Finished → Prop
  | .refused user, .invoke other _ => user = other
  | .accepted _, .invoke _ status => status = .ok
  | .broken _, .invoke _ _ => True
  | .holding _, .other => True
  | _, _ => False

/-- The stage in which the request function of the transport returns. -/
def Returns (user : Nat) : Stage → Except Status Handle → Prop
  | .accepted other, .ok _ => other = user
  | .calling other, .error _ | .refused other, .error _ | .broken other, .error _ => other = user
  | _, _ => False

def isHolding : Stage → Prop
  | .holding _ => True
  | _ => False

variable {world later : World} {program : Run Finished} {event : Event}

abbrev Keeps (stage : Stage) (program : Run Finished) : Prop := Program.Follows Moves Ends stage program

theorem keeps_dispatch_request (user server : Nat) (operation : Handle) (payload : List Byte) (deadline : Nat) :
    Program.Follows Moves (fun later status => if status = .ok then later = .accepted user else later = .broken user)
      (.requested user) (dispatch (.request server operation payload deadline)) := by
  intro stored
  cases stored with
  | false => exact ⟨_, .storeFails user server operation payload deadline, rfl⟩
  | true =>
      refine ⟨_, .plain _ rfl, fun status => ?_⟩
      by_cases accepted : status = .ok
      · subst accepted
        exact ⟨_, .handOver user server operation payload deadline, rfl⟩
      · exact ⟨_, .reject accepted, (if_neg accepted).mpr rfl⟩

theorem keeps_request (client : Handle) (payload : List Byte) (deadline user : Nat) :
    Program.Follows Moves (Returns user) (.calling user) (request client payload deadline user) := by
  intro now
  refine ⟨_, .plain _ rfl, ?_⟩
  change Program.Follows Moves (Returns user) (.calling user) (if deadline ≤ now then _ else _)
  by_cases late : deadline ≤ now
  · rw [if_pos late]
    exact rfl
  · rw [if_neg late]
    intro entered
    cases entered with
    | error status => exact ⟨_, .refuse status, rfl⟩
    | ok entered =>
        obtain ⟨server, operation⟩ := entered
        refine ⟨_, .enter _, fun copied => ?_⟩
        cases copied with
        | false => exact ⟨_, .copyFails user server operation payload deadline, rfl⟩
        | true =>
            refine ⟨_, .plain _ rfl, ?_⟩
            apply Program.Follows.bind (keeps_dispatch_request user server operation payload deadline)
            intro later status reached
            by_cases accepted : status = .ok
            · simp only [if_pos accepted] at reached ⊢
              subst reached
              exact rfl
            · simp only [if_neg accepted] at reached ⊢
              subst reached
              exact rfl

theorem keeps_invoke (descriptor : EndpointDescriptor) (payload : List Byte) (deadline user : Nat) :
    Keeps (.calling user) (invoke descriptor payload deadline user) := by
  intro created
  refine ⟨_, .plain _ rfl, ?_⟩
  cases created with
  | error status => exact fun _ => ⟨_, .fail user status, rfl⟩
  | ok endpoint =>
      refine fun _ => ⟨_, .plain _ rfl, fun _ => ⟨_, .plain _ rfl, ?_⟩⟩
      apply Program.Follows.bind (keeps_request endpoint payload deadline user)
      intro later result returned
      cases result with
      | ok operation =>
          cases later <;> cases returned
          exact fun _ => ⟨_, .plain _ rfl, rfl⟩
      | error status =>
          cases later with
          | calling => cases returned; exact fun _ => ⟨_, .fail user status, rfl⟩
          | refused => cases returned; exact fun _ => ⟨_, .failRefused user status, rfl⟩
          | broken => cases returned; exact fun _ => ⟨_, .failBroken user status, trivial⟩
          | _ => cases returned

theorem keeps_complete (operation : Handle) (status : Status) (payload : List Byte) :
    Program.Follows Moves (fun later _ => isHolding later) (.holding []) (complete operation status payload) := by
  intro pending
  cases pending with
  | none => exact ⟨_, .missing operation, trivial⟩
  | some user =>
      refine ⟨_, .take operation user, fun copied => ⟨_, .plain _ rfl, ?_⟩⟩
      cases copied with
      | false => exact trivial
      | true =>
          intro stored
          refine ⟨_, .plain _ rfl, ?_⟩
          cases stored with
          | false => exact trivial
          | true => exact fun answer => ⟨_, .deliver user [] operation status payload answer, trivial⟩

theorem keeps_deactivate (stage : Stage) (servers : List Nat) :
    Program.Follows Moves (fun later _ => later = stage) stage (deactivate servers) := by
  induction servers with
  | nil => exact rfl
  | cons server servers ih => exact fun _ => ⟨_, .plain _ rfl, ih⟩

theorem keeps_completeAll (pending : List (Handle × Nat)) :
    Program.Follows Moves (fun later _ => isHolding later) (.holding (pending.map Prod.snd)) (completeAll pending) := by
  induction pending with
  | nil => exact trivial
  | cons entry pending ih =>
      obtain ⟨operation, user⟩ := entry
      intro stored
      cases stored with
      | false => exact ⟨_, .drop user _ operation .shuttingDown [], ih⟩
      | true =>
          exact ⟨_, .plain _ rfl, fun answer => ⟨_, .deliver user _ operation .shuttingDown [] answer, ih⟩⟩

theorem keeps_stop : Program.Follows Moves (fun later _ => isHolding later) (.holding []) Requests.stop := by
  intro stopped
  cases stopped with
  | none => exact ⟨_, .stopped, trivial⟩
  | some stopped =>
      obtain ⟨pending, servers⟩ := stopped
      refine ⟨_, .stop pending servers, ?_⟩
      apply Program.Follows.bind (keeps_deactivate _ servers)
      intro later _ same
      subst same
      exact keeps_completeAll pending

theorem keeps_other {A : Type} {stage : Stage} {program : Run A}
    (follows : Program.Follows Moves (fun later _ => isHolding later) stage program) :
    Keeps stage (do let _ ← program; return .other) := by
  apply Program.Follows.bind follows
  intro later _ holding
  cases later <;> first | exact trivial | cases holding

theorem keeps_cancelValid (operation : Handle) :
    Program.Follows Moves (fun later _ => isHolding later) (.holding []) (cancelValid operation) := by
  unfold cancelValid
  split
  · exact trivial
  · apply Program.Follows.bind (keeps_complete operation .cancelled [])
    exact fun later _ holding => holding

theorem keeps_endpointDestroy {users : List Nat} (handle : Handle) :
    Program.Follows Moves (fun later _ => isHolding later) (.holding users) (endpointDestroy handle) := by
  intro removed
  refine ⟨_, .plain _ rfl, ?_⟩
  match removed with
  | .ok (some server) => exact fun _ => ⟨_, .plain _ rfl, trivial⟩
  | .ok none | .error _ => exact trivial

theorem keeps_setRequestHandler (endpoint : Handle) (handler : Option Nat) :
    Program.Follows Moves (fun later _ => isHolding later) (.holding []) (setRequestHandler endpoint handler) := by
  intro removed
  refine ⟨_, .plain _ rfl, ?_⟩
  match removed with
  | .ok (some server) => exact fun _ => ⟨_, .plain _ rfl, trivial⟩
  | .ok none | .error _ => exact trivial

theorem keeps_wait (user : Nat) : Program.Follows Moves (fun later _ => isHolding later) (.holding []) (wait user) := by
  intro expired
  refine ⟨_, .plain _ rfl, ?_⟩
  cases expired with
  | none => exact trivial
  | some operation => exact keeps_cancelValid operation

theorem keeps_cancelOperation (user : Nat) :
    Program.Follows Moves (fun later _ => isHolding later) (.holding []) (cancelOperation user) := by
  intro found
  refine ⟨_, .plain _ rfl, ?_⟩
  cases found with
  | none => exact trivial
  | some operation => exact keeps_cancelValid operation

theorem keeps_destroyOperation (user : Nat) :
    Program.Follows Moves (fun later _ => isHolding later) (.holding []) (destroyOperation user) := by
  intro handles
  refine ⟨_, .plain _ rfl, ?_⟩
  apply Program.Follows.bind (keeps_cancelValid handles.1)
  intro later _ holding
  split
  · exact holding
  · cases later <;> first | exact keeps_endpointDestroy handles.2 | cases holding

/-- An accepted task runs with the user that its completion is for. -/
def Task.users : Task → List Nat
  | .request _ _ _ _ => []
  | .completion user _ _ _ => [user]

theorem keeps_runTask (task : Task) :
    Program.Follows Moves (fun later _ => isHolding later) (.holding task.users) (runTask task) := by
  cases task with
  | request server operation payload deadline =>
      intro active
      refine ⟨_, .plain _ rfl, ?_⟩
      cases active with
      | false => exact trivial
      | true => exact fun _ => ⟨_, .plain _ rfl, trivial⟩
  | completion user operation status payload =>
      exact fun _ => ⟨_, .call user operation status payload, trivial⟩

/-- A thread of an event starts in a stage that holds what the event gives it. -/
theorem keeps_event (occurred : world.occur event = some (later, some program)) :
    (∃ users, Keeps (.holding users) program ∧ later.operations = world.operations ∧
        later.transport = world.transport ∧ later.invoked = world.invoked ∧
        ∀ user, (later.tasks.flatMap Task.users).count user + users.count user =
          (world.tasks.flatMap Task.users).count user) ∨ Keeps (.calling world.operations.length) program ∧
        later = { world with operations := world.operations ++ [{}] } := by
  cases event with
  | invoke descriptor payload deadline =>
      cases occurred
      exact .inr ⟨keeps_invoke descriptor payload deadline _, rfl⟩
  | run index =>
      left
      obtain ⟨task, found, started⟩ := Option.map_eq_some_iff.mp occurred
      cases started
      refine ⟨task.users, keeps_other (keeps_runTask task), rfl, rfl, rfl, fun user => ?_⟩
      obtain ⟨inside, rfl⟩ := List.getElem?_eq_some_iff.mp found
      have parts : world.tasks.Perm (world.tasks[index] :: world.tasks.eraseIdx index) :=
        (List.getElem_cons_eraseIdx_perm inside).symm
      have counts := (parts.flatMap_right Task.users).count_eq user
      rw [List.flatMap_cons, List.count_append] at counts
      change List.count user ((world.tasks.eraseIdx index).flatMap Task.users) + _ = _
      omega
  | endpointCreate descriptor =>
      cases occurred
      exact .inl ⟨[], fun _ => ⟨_, .plain _ rfl, trivial⟩, rfl, rfl, rfl, fun _ => rfl⟩
  | endpointDestroy handle =>
      cases occurred
      exact .inl ⟨[], keeps_other (keeps_endpointDestroy handle), rfl, rfl, rfl, fun _ => rfl⟩
  | setRequestHandler endpoint handler =>
      cases occurred
      exact .inl ⟨[], keeps_other (keeps_setRequestHandler endpoint handler), rfl, rfl, rfl, fun _ => rfl⟩
  | respond operation status payload =>
      cases occurred
      exact .inl ⟨[], keeps_other (keeps_complete operation status payload), rfl, rfl, rfl, fun _ => rfl⟩
  | wait user =>
      cases occurred
      exact .inl ⟨[], keeps_other (keeps_wait user), rfl, rfl, rfl, fun _ => rfl⟩
  | cancel user =>
      cases occurred
      exact .inl ⟨[], keeps_other (keeps_cancelOperation user), rfl, rfl, rfl, fun _ => rfl⟩
  | destroy user =>
      cases occurred
      exact .inl ⟨[], keeps_other (keeps_destroyOperation user), rfl, rfl, rfl, fun _ => rfl⟩
  | start =>
      cases occurred
      exact .inl ⟨[], fun _ => ⟨_, .plain _ rfl, trivial⟩, rfl, rfl, rfl, fun _ => rfl⟩
  | stop =>
      cases occurred
      exact .inl ⟨[], keeps_other keeps_stop, rfl, rfl, rfl, fun _ => rfl⟩

variable {pool : RequestPool} {index : Nat} {stage : Nat → Stage} {input : Input} {count : Nat}

section Invariant

/-- The callbacks of a user that the table, the executor and the record know. -/
def World.load (user : Nat) (world : World) : Nat :=
  (world.transport.pending.map Prod.snd).count user + (world.tasks.flatMap Task.users).count user +
    world.invoked.count user

/-- A user has at most one callback, and it has none before its operation exists. -/
def Counted (world : World) (count : Nat) (stage : Nat → Stage) : Prop :=
  ∀ user, total (Stage.weight user) count stage + world.load user ≤ if user < world.operations.length then 1 else 0

def Own (_ : Nat) (stage : Stage) (_ : World) : Prop := stage.isBroken = false

/-- An accepted step neither lacks memory for a task of a request nor rejects one. -/
def accepts (pool : RequestPool) : RequestChoice → Bool
  | .event _ => true
  | .thread index input =>
      match pool.pending index with
      | some (.copy (.request _ _ _ _)) | some (.store (.request _ _ _ _)) => input.allocated
      | some (.dispatch (.request _ _ _ _)) => input.answer == .ok
      | _ => true

variable {op : Op} {reply : op.Reply} {before after : Stage}

/-- A plain operation keeps what the load of a user counts. -/
structure SameLoad (world later : World) : Prop where
  operations : later.operations.length = world.operations.length
  pending : later.transport.pending = world.transport.pending
  tasks : later.tasks = world.tasks
  invoked : later.invoked = world.invoked

theorem SameLoad.load (same : SameLoad world later) (user : Nat) : later.load user = world.load user := by
  simp only [World.load, same.pending, same.tasks, same.invoked]

theorem plain_load (plain : op.isPlain = true) (performed : world.perform op input = some (reply, later)) :
    SameLoad world later := by
  cases op with
  | endpointCreate descriptor =>
      cases performed
      exact ⟨rfl, InprocTransport.endpointCreate_pending descriptor, rfl, rfl⟩
  | endpointDestroy handle =>
      cases performed
      exact ⟨rfl, InprocTransport.endpointDestroy_pending handle, rfl, rfl⟩
  | setRequestHandler endpoint handler =>
      cases performed
      exact ⟨rfl, InprocTransport.setRequestHandler_pending endpoint handler, rfl, rfl⟩
  | start =>
      cases performed
      exact ⟨rfl, InprocTransport.start_pending, rfl, rfl⟩
  | construct | retain | accepted =>
      cases performed
      exact ⟨List.length_modify _ _ _, rfl, rfl, rfl⟩
  | await awaited =>
      simp only [World.perform] at performed
      split at performed
      · cases performed
        exact ⟨rfl, rfl, rfl, rfl⟩
      · split at performed
        · cases performed
          exact ⟨List.length_modify _ _ _, rfl, rfl, rfl⟩
        · cases performed
  | destroy destroyed =>
      simp only [World.perform] at performed
      split at performed
      · cases performed
      · cases performed
        exact ⟨rfl, rfl, rfl, rfl⟩
  | monotonicTime | deactivate | copy | store | isActive | serve | lookup =>
      cases performed
      exact ⟨rfl, rfl, rfl, rfl⟩
  | request | complete | stop | dispatch | fail | completed => cases plain

/-- A task adds its users when the executor accepts it. -/
theorem load_of_dispatch {task : Task} {answer : Status}
    (performed : world.perform (.dispatch task) input = some (answer, later)) (user : Nat) :
    later.operations.length = world.operations.length ∧ later.load user ≤ task.users.count user + world.load user := by
  cases performed
  split
  · refine ⟨rfl, ?_⟩
    simp only [World.load, List.flatMap_append, List.flatMap_singleton, List.count_append]
    omega
  · exact ⟨rfl, Nat.le_add_left _ _⟩

/-- A step moves the callbacks of a user, and it adds none. -/
theorem load_of_moves (moves : Moves before op reply after) (performed : world.perform op input = some (reply, later))
    (user : Nat) : later.operations.length = world.operations.length ∧
      after.weight user + later.load user ≤ before.weight user + world.load user := by
  cases moves with
  | plain _ other =>
      have same := plain_load other performed
      exact ⟨same.operations, (congrArg _ (same.load user)).le⟩
  | fail | failRefused | failBroken =>
      cases performed
      exact ⟨List.length_modify _ _ _, Nat.le_refl _⟩
  | @enter client user' entered =>
      rcases world.transport.request_cases client user' input.rank with ⟨status, refused⟩ | ⟨server, accepted⟩
      · simp only [World.perform, refused, Option.some.injEq, Prod.mk.injEq, reduceCtorEq, false_and] at performed
      · simp only [World.perform, accepted, Option.some.injEq, Prod.mk.injEq] at performed
        obtain ⟨_, rfl⟩ := performed
        refine ⟨rfl, ?_⟩
        simp only [World.load, List.map_append, List.count_append, List.map_singleton, Stage.weight,
          List.count_singleton, beq_iff_eq]
        omega
  | @refuse client user' status =>
      rcases world.transport.request_cases client user' input.rank with ⟨_, refused⟩ | ⟨server, accepted⟩
      · simp only [World.perform, refused, Option.some.injEq, Prod.mk.injEq] at performed
        obtain ⟨_, rfl⟩ := performed
        exact ⟨rfl, Nat.le_refl _⟩
      · simp only [World.perform, accepted, Option.some.injEq, Prod.mk.injEq, reduceCtorEq, false_and] at performed
  | copyFails | storeFails =>
      simp only [World.perform, Option.some.injEq, Prod.mk.injEq] at performed
      obtain ⟨_, rfl⟩ := performed
      exact ⟨rfl, Nat.le_refl _⟩
  | handOver =>
      obtain ⟨same, tasks⟩ := load_of_dispatch performed user
      refine ⟨same, ?_⟩
      simpa [Stage.weight, Task.users] using tasks
  | reject =>
      obtain ⟨same, tasks⟩ := load_of_dispatch performed user
      refine ⟨same, ?_⟩
      simpa [Stage.weight, Task.users] using tasks
  | missing operation =>
      simp only [World.perform, Option.some.injEq, Prod.mk.injEq] at performed
      obtain ⟨missing, rfl⟩ := performed
      rw [InprocTransport.complete_none missing]
      exact ⟨rfl, Nat.le_refl _⟩
  | take operation taken =>
      simp only [World.perform, Option.some.injEq, Prod.mk.injEq] at performed
      obtain ⟨found, rfl⟩ := performed
      have := InprocTransport.complete_some found user
      refine ⟨rfl, ?_⟩
      simp only [World.load, Stage.weight, List.count_nil]
      omega
  | stopped =>
      simp only [World.perform, InprocTransport.stop] at performed
      split at performed
      · cases performed
        exact ⟨rfl, Nat.le_refl _⟩
      · cases performed
  | stop pending servers =>
      simp only [World.perform, InprocTransport.stop] at performed
      split at performed
      · cases performed
      · cases performed
        refine ⟨rfl, ?_⟩
        simp only [World.load, Stage.weight, List.count_nil, List.map_nil]
        omega
  | drop dropped users operation status payload =>
      simp only [World.perform, Option.some.injEq, Prod.mk.injEq] at performed
      obtain ⟨_, rfl⟩ := performed
      exact ⟨rfl, Nat.add_le_add_right (List.count_le_count_cons) _⟩
  | deliver handed users operation status payload answer =>
      obtain ⟨same, tasks⟩ := load_of_dispatch performed user
      refine ⟨same, ?_⟩
      simp only [Task.users] at tasks
      simp only [Stage.weight, List.count_cons (l := users), List.count_singleton] at tasks ⊢
      omega
  | call called operation status payload =>
      cases performed
      refine ⟨List.length_modify _ _ _, ?_⟩
      simp only [World.load, World.modify, Stage.weight, List.count_append, List.count_nil]
      omega

/-- The accepted replies never break a request. -/
theorem unbroken_of_moves (pending : pool.pending index = some op)
    (permitted : accepts pool (.thread index input) = true) (moves : Moves before op reply after)
    (performed : world.perform op input = some (reply, later)) (whole : before.isBroken = false) :
    after.isBroken = false := by
  simp only [accepts, pending] at permitted
  cases moves with
  | plain => exact whole
  | failBroken => cases whole
  | copyFails | storeFails =>
      simp only [World.perform, Option.some.injEq, Prod.mk.injEq] at performed
      exact absurd (performed.1.symm.trans permitted) Bool.false_ne_true
  | reject rejected =>
      simp only [World.perform, Option.some.injEq, Prod.mk.injEq] at performed
      exact absurd (performed.1.symm.trans (beq_iff_eq.mp permitted)) rejected
  | _ => exact rfl

/-- Only a passed thread has changed the table. -/
theorem pending_of_moves (moves : Moves before op reply after)
    (performed : world.perform op input = some (reply, later)) :
    after.isPassed = true ∨ later.transport.pending = world.transport.pending := by
  cases moves with
  | plain _ other => exact .inr (plain_load other performed).pending
  | fail | failRefused | failBroken =>
      cases performed
      exact .inr rfl
  | @refuse client user status =>
      right
      rcases world.transport.request_cases client user input.rank with ⟨_, refused⟩ | ⟨server, accepted⟩
      · simp only [World.perform, refused, Option.some.injEq, Prod.mk.injEq] at performed
        obtain ⟨_, rfl⟩ := performed
        rfl
      · simp only [World.perform, accepted, Option.some.injEq, Prod.mk.injEq, reduceCtorEq, false_and] at performed
  | copyFails | storeFails =>
      simp only [World.perform, Option.some.injEq, Prod.mk.injEq] at performed
      obtain ⟨_, rfl⟩ := performed
      exact .inr rfl
  | reject =>
      right
      cases performed
      split <;> rfl
  | enter | handOver | missing | take | stopped | stop | drop | deliver | call => exact .inl rfl

/-- A passed thread breaks, or it stays passed. -/
theorem passed_of_moves (moves : Moves before op reply after) (passed : before.isPassed = true)
    (whole : after.isBroken = false) : after.isPassed = true := by
  cases moves with
  | plain => exact passed
  | fail | failRefused | failBroken | refuse => cases passed
  | copyFails | storeFails | reject => cases whole
  | _ => rfl

theorem whole_of_passed {stage : Stage} (passed : stage.isPassed = true) : stage.isBroken = false := by
  cases stage <;> first | rfl | cases passed

theorem Counted.step (counted : Counted world count stage)
    (inside : index < count) (moves : Moves (stage index) op reply after)
    (performed : world.perform op input = some (reply, later)) :
    Counted later count (Function.update stage index after) := by
  intro user
  obtain ⟨same, load⟩ := load_of_moves moves performed user
  have moved := total_move inside (Eq.refl (stage index)) after (Stage.weight user)
  have := counted user
  rw [same]
  omega

end Invariant

section Reached
variable {maxEndpoints maxOperations : Nat}

theorem counted_start
    (counted : Counted world count stage) (occurred : world.occur event = some (later, some program)) :
    ∃ opened, Keeps opened program ∧ Counted later (count + 1) (Function.update stage count opened) ∧
      opened.isBroken = false := by
  rcases keeps_event occurred with ⟨users, keeps, operations, transport, invoked, tasks⟩ | ⟨keeps, rfl⟩
  · refine ⟨_, keeps, fun user => ?_, rfl⟩
    have old := counted user
    have held := tasks user
    rw [total_concat, operations]
    simp only [World.load, transport, invoked, Stage.weight] at old ⊢
    omega
  · refine ⟨_, keeps, fun user => ?_, rfl⟩
    have old := counted user
    rw [total_concat]
    simp only [Stage.weight, World.load, List.length_append, List.length_singleton] at old ⊢
    split_ifs at old ⊢ <;> omega

/-- The stages count the callbacks of every user in every pool that is reached. -/
theorem counted_reached (reached : machine.Reaches (fun pool choice => accepts pool choice = true)
    (started maxEndpoints maxOperations) pool) :
    ∃ stage, Staged (fun _ => Moves) Ends pool.threads stage ∧
      Holds Counted Own pool.shared pool.threads.length stage := by
  apply Machine.Reaches.invariant (fun _ => .holding []) _ _ _ _ _ reached
  · exact Staged.nil _
  · exact ⟨fun user => Nat.zero_le _, fun index inside => absurd inside (Nat.not_lt_zero index)⟩
  · intro pool stage index input op next reply world later staged holds permitted found moves performed
    obtain ⟨inside, _⟩ := List.getElem?_eq_some_iff.mp found
    have pending : pool.pending index = some op := by
      rw [Pool.pending, found]
      rfl
    exact ⟨holds.common.step inside moves performed,
      unbroken_of_moves pending permitted moves performed (holds.own index inside),
      fun other below _ => holds.own other below⟩
  · intro pool stage event world staged holds _ occurred
    cases event with
    | run index =>
        obtain ⟨task, _, started⟩ := Option.map_eq_some_iff.mp occurred
        cases started
    | _ => cases occurred
  · intro pool stage event world program staged holds _ occurred
    obtain ⟨opened, keeps, counted, whole⟩ := counted_start holds.common occurred
    exact ⟨opened, keeps, counted, whole, holds.own⟩

/-- The request of a user has failed when its thread is about to fail the operation, or when it has returned the
failed operation. -/
def FailedAt (index : Nat) (pool : RequestPool) (user : Nat) : Prop :=
  ∃ status, pool.pending index = some (.fail user status) ∨
    pool.threads[index]? = some (.done (.invoke user status)) ∧ status ≠ .ok

def Failed (pool : RequestPool) (user : Nat) : Prop := ∃ index, FailedAt index pool user

/-- A completion callback is invoked at most once. A failed request has no entry in the table, and its callback
is not invoked. A step of a thread whose request fails then or later keeps the table as it is. -/
structure CompletionContract (allowed : RequestPool → RequestChoice → Prop) (pool : RequestPool) : Prop where
  once : ∀ user, pool.shared.invoked.count user ≤ 1
  absent : ∀ user, Failed pool user → user ∉ pool.shared.transport.pending.map Prod.snd
  silent : ∀ user, Failed pool user → user ∉ pool.shared.invoked
  unchanged : ∀ index input later last user, allowed pool (.thread index input) →
    machine.fire pool (.thread index input) = some later → machine.Reaches allowed later last →
    FailedAt index last user → later.shared.transport.pending = pool.shared.transport.pending

section
variable (staged : Staged (fun _ => Moves) Ends pool.threads stage)
include staged

/-- The thread of a failed request excludes its callback. -/
theorem weight_of_failed
    (own : ∀ index < pool.threads.length, (stage index).isBroken = false) {user : Nat} (failed : Failed pool user) :
    ∃ index < pool.threads.length, (stage index).weight user = 1 := by
  obtain ⟨index, status, pending | ⟨found, error⟩⟩ := failed
  · obtain ⟨program, found, pending⟩ := Option.bind_eq_some_iff.mp pending
    obtain ⟨inside, _⟩ := List.getElem?_eq_some_iff.mp found
    refine ⟨index, inside, ?_⟩
    cases program with
    | done value => cases pending
    | call op next =>
        cases pending
        obtain ⟨_, moves, _⟩ := (staged index _ found).call ()
        have whole := own index inside
        generalize stage index = before at moves whole
        cases moves with
        | plain _ other => cases other
        | fail | failRefused => exact if_pos rfl
        | failBroken => cases whole
  · obtain ⟨inside, _⟩ := List.getElem?_eq_some_iff.mp found
    refine ⟨index, inside, ?_⟩
    have ends : Ends (stage index) (.invoke user status) := staged index _ found
    have whole := own index inside
    cases here : stage index with
    | refused other =>
        rw [here] at ends
        exact if_pos ends
    | accepted other =>
        rw [here] at ends
        exact absurd ends error
    | broken other =>
        rw [here] at whole
        cases whole
    | calling | requested | holding =>
        rw [here] at ends
        cases ends

/-- The request of a passed thread does not fail. -/
theorem not_failed_of_passed (passed : (stage index).isPassed = true) (user : Nat) : ¬FailedAt index pool user := by
  rintro ⟨status, pending | ⟨found, error⟩⟩
  · obtain ⟨program, found, pending⟩ := Option.bind_eq_some_iff.mp pending
    cases program with
    | done value => cases pending
    | call op next =>
        cases pending
        obtain ⟨_, moves, _⟩ := (staged index _ found).call ()
        generalize stage index = before at moves passed
        cases moves with
        | plain _ other => cases other
        | fail | failRefused | failBroken => cases passed
  · have ends : Ends (stage index) (.invoke user status) := staged index _ found
    generalize stage index = before at ends passed
    cases before with
    | accepted other => exact error ends
    | requested | holding => cases ends
    | calling | refused | broken => cases passed

/-- In an accepted run, a passed thread stays passed. -/
theorem passed_reached {last : RequestPool}
    (inside : index < pool.threads.length) (passed : (stage index).isPassed = true)
    (reached : machine.Reaches (fun pool choice => accepts pool choice = true) pool last) (user : Nat) :
    ¬FailedAt index last user := by
  have kept : ∃ later, Staged (fun _ => Moves) Ends last.threads later ∧
      Holds (fun _ count stage => index < count ∧ (stage index).isPassed = true) (fun _ _ _ => True) last.shared
        last.threads.length later := by
    apply Machine.Reaches.invariant stage staged ⟨⟨inside, passed⟩, fun _ _ => trivial⟩ _ _ _ reached
    · intro pool stage other input op next reply world later staged holds permitted found moves performed
      refine ⟨⟨holds.common.1, ?_⟩, trivial, fun _ _ _ => trivial⟩
      by_cases same : other = index
      · subst same
        have pending : pool.pending other = some op := by
          rw [Pool.pending, found]
          rfl
        rw [Function.update_self]
        exact passed_of_moves moves holds.common.2
          (unbroken_of_moves pending permitted moves performed (whole_of_passed holds.common.2))
      · rw [Function.update_of_ne (Ne.symm same)]
        exact holds.common.2
    · exact fun _ _ _ _ _ holds _ _ => ⟨holds.common, holds.own⟩
    · intro pool stage event world program staged holds _ occurred
      obtain ⟨opened, keeps⟩ : ∃ opened, Keeps opened program := by
        rcases keeps_event occurred with ⟨_, keeps, _⟩ | ⟨keeps, _⟩
        · exact ⟨_, keeps⟩
        · exact ⟨_, keeps⟩
      refine ⟨opened, keeps, ⟨Nat.lt_succ_of_lt holds.common.1, ?_⟩, trivial, fun _ _ => trivial⟩
      rw [Function.update_of_ne (Nat.ne_of_lt holds.common.1)]
      exact holds.common.2
  obtain ⟨later, staged, holds⟩ := kept
  exact not_failed_of_passed staged holds.common.2 user

/-- The steps of a request that fails keep the table. -/
theorem pending_of_failed {later last : RequestPool} {index user : Nat}
    (fired : machine.fire pool (.thread index input) = some later)
    (reached : machine.Reaches (fun pool choice => accepts pool choice = true) later last)
    (failed : FailedAt index last user) : later.shared.transport.pending = pool.shared.transport.pending := by
  obtain ⟨op, next, reply, world, found, performed, rfl⟩ := Machine.fire_thread_eq_some fired
  obtain ⟨inside, _⟩ := List.getElem?_eq_some_iff.mp found
  obtain ⟨after, moves, follows⟩ := (staged index _ found).call reply
  rcases pending_of_moves moves performed with passed | same
  · refine absurd failed (passed_reached (staged.set follows) ?_ ?_ reached user)
    · rw [List.length_set]
      exact inside
    · rw [Function.update_self]
      exact passed
  · exact same

end

/-- In every run whose steps are accepted, the requests complete as the contract demands. -/
theorem completion_contract (reached : machine.Reaches (fun pool choice => accepts pool choice = true)
    (started maxEndpoints maxOperations) pool) :
    CompletionContract (fun pool choice => accepts pool choice = true) pool := by
  obtain ⟨stage, staged, counted, own⟩ := counted_reached reached
  have least (user : Nat) : total (Stage.weight user) pool.threads.length stage + pool.shared.load user ≤ 1 := by
    have := counted user
    split at this <;> omega
  have unloaded (user : Nat) (failed : Failed pool user) : pool.shared.load user = 0 := by
    obtain ⟨index, inside, excluded⟩ := weight_of_failed staged own failed
    have most := @weight_le_total Stage (Stage.weight user) pool.threads.length stage index inside
    have := least user
    omega
  refine ⟨fun user => ?_, fun user failed => ?_, fun user failed => ?_,
    fun _ _ _ _ _ _ fired continued failed => pending_of_failed staged fired continued failed⟩
  · have := least user
    simp only [World.load] at this
    omega
  · have := unloaded user failed
    simp only [World.load] at this
    exact List.count_eq_zero.mp (by omega)
  · have := unloaded user failed
    simp only [World.load] at this
    exact List.count_eq_zero.mp (by omega)

end Reached

abbrev Schedule := List (RequestPool → RequestChoice)

/-- The same thread moves several times, and nothing fails. -/
def moves (index count : Nat) : Schedule := List.replicate count fun _ => .thread index {}

def begins (event : Event) : Schedule := [fun _ => .event event]

def hasFailed (user : Nat) : Option (Run Finished) → Bool
  | some (.done (.invoke failed status)) => failed == user && status != .ok
  | _ => false

theorem failed_of_hasFailed {user index : Nat}
    (failed : hasFailed user pool.threads[index]? = true) : Failed pool user := by
  unfold hasFailed at failed
  split at failed
  · rename_i other status found
    simp only [Bool.and_eq_true, beq_iff_eq, bne_iff_ne] at failed
    obtain ⟨rfl, error⟩ := failed
    exact ⟨index, status, .inr ⟨found, error⟩⟩
  · cases failed

def server : EndpointDescriptor where
  kind := .methodServer
  serviceId := .replicate 16 1
  instanceId := .replicate 16 2
  elementId := .replicate 16 3
  routeEpoch := 1
  maxPayloadSize := 64
  historyDepth := 0
  requiredFeatures := requiredFeatures .methodServer
  nativeMapping := ""
  operation := .method

def client : EndpointDescriptor :=
  { server with kind := .methodClient, requiredFeatures := requiredFeatures .methodClient }

/-- A server serves an element, and a client sends a request up to its last step. -/
def serving : Schedule :=
  begins (.endpointCreate server) ++ moves 0 1 ++ begins (.setRequestHandler 1 (some 0)) ++ moves 1 1 ++
    begins (.invoke client [7] 5) ++ moves 2 7

/-- The server responds to the first request, the second one is pending, and the third one is too late. -/
def responding : Schedule :=
  serving ++ moves 2 2 ++ begins (.run 0) ++ moves 3 2 ++ begins (.respond 3 .ok [8]) ++ moves 4 4 ++
    begins (.run 0) ++ moves 5 1 ++ begins (.invoke client [7] 5) ++ moves 6 9 ++
    begins (.invoke client [7] 0) ++ moves 7 5

/-- One request is answered, one is pending and one has failed. -/
theorem completion_contract_response : ∃ pool, CompletionContract (fun pool choice => accepts pool choice = true) pool ∧
    pool.shared.invoked = [0] ∧ pool.shared.transport.pending.map Prod.snd = [1] ∧ Failed pool 2 := by
  obtain ⟨pool, reached, holds⟩ := System.Reaches.exists_of_run accepts (fun _ _ permitted => permitted) responding
    (fun pool => pool.shared.invoked == [0] && pool.shared.transport.pending.map Prod.snd == [1] &&
      hasFailed 2 pool.threads[7]?)
    (by decide +kernel : ((machine.run accepts responding (started 4 4)).any _) = true)
  simp only [Bool.and_eq_true, beq_iff_eq] at holds
  exact ⟨pool, completion_contract reached, holds.1.1, holds.1.2, failed_of_hasFailed holds.2⟩

/-- The executor rejects the request, and later it accepts the completion that the stop function hands over. -/
def rejecting : Schedule :=
  serving ++ [fun _ => .thread 2 { answer := .resourceExhausted }] ++ moves 2 1 ++ begins .stop ++ moves 3 4 ++
    begins (.run 0) ++ moves 4 1

/-- The completion callback of a failed request is invoked. -/
theorem rejected_request_completes : ¬∀ pool, machine.Reaches (fun _ _ => True) (started 4 4) pool →
    CompletionContract (fun _ _ => True) pool := by
  intro claimed
  obtain ⟨pool, reached, holds⟩ := System.Reaches.exists_of_run (fun _ _ => true) (fun _ _ _ => trivial) rejecting
    (fun pool => pool.shared.invoked == [0] && hasFailed 0 pool.threads[2]?)
    (by decide +kernel : ((machine.run (fun _ _ => true) rejecting (started 4 4)).any _) = true)
  simp only [Bool.and_eq_true, beq_iff_eq] at holds
  have silent := (claimed pool reached).silent 0 (failed_of_hasFailed holds.2)
  rw [holds.1] at silent
  exact silent List.mem_cons_self

end OpenVehicle.Com.Requests
