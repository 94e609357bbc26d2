/-
This file proves when a transition that has been given up is terminal. The engine records the last
phase of a failed transition in the journal before it stores it, and the journal may refuse.
-/

import OpenVehicle.Exec.Cancellation
import OpenVehicle.Exec.History
import OpenVehicle.Exec.Produced

namespace OpenVehicle.Exec

open Concurrency FiniteMap ExecutionEngine TransitionPlanner

/-- The stored snapshot is terminal. -/
def Ended (view : Option TransitionSnapshot) : Prop :=
  ∃ snapshot, view = some snapshot ∧ snapshot.phase.isTerminal = true

/-- The event closes a transition that has not succeeded. Nothing is recorded after it. -/
def closes (event : JournalEvent) : Bool := event.transition.phase.isTerminal && event.transition.phase != .succeeded

/-- The snapshot that a thread has stored, and whether the journal has refused to close it. -/
structure JournalStanding where
  stored : Option TransitionSnapshot
  refused : Bool

variable {standing : JournalStanding} {model : ValidatedModel} {transition snapshot : TransitionSnapshot}

namespace JournalStanding

/-- The transition is known, it is not terminal, and nothing has been refused. -/
structure Open (standing : JournalStanding) : Prop where
  known : ∃ snapshot, standing.stored = some snapshot ∧ snapshot.phase.isTerminal = false
  accepted : standing.refused = false

/-- The stored snapshot is terminal exactly when the journal has not refused to close it. -/
def Settled (standing : JournalStanding) : Prop := Ended standing.stored ↔ standing.refused = false

theorem Open.not_ended (opened : standing.Open) : ¬ Ended standing.stored := by
  rintro ⟨snapshot, stored, terminal⟩
  obtain ⟨known, same, live⟩ := opened.known
  obtain rfl := Option.some.inj (same.symm.trans stored)
  rw [live] at terminal
  cases terminal

theorem open_stored (live : snapshot.phase.isTerminal = false) : Open ⟨some snapshot, false⟩ :=
  ⟨⟨snapshot, rfl, live⟩, rfl⟩

end JournalStanding

open JournalStanding (open_stored)

/-- The account of the end of a transition. It is not stored again after a terminal phase or a refused closing. -/
def closingAccount (model : ValidatedModel) (transition : TransitionSnapshot) : Account JournalStanding where
  registered := fun standing => { standing with stored := some transition }
  appends := fun _ standing => standing.Open
  refused := fun snapshot standing => { standing with
    refused := standing.refused || (snapshot.phase.isTerminal && snapshot.phase != .succeeded) }
  stores := fun _ standing => standing.Open
  stored := fun snapshot standing => { standing with stored := some snapshot }
  lasts := fun _ _ opened => opened
  opens := fun standing => standing = ⟨some { transition with phase := .planned }, false⟩
  waits := JournalStanding.Open
  replans := JournalStanding.Open
  reads := fun domain standing => model.findDomain transition.domain = some domain ∧ standing.Open
  finishes := JournalStanding.Settled

namespace Closing

/-- A closing record settles the transition, and so does its refusal. -/
theorem settles (snapshot : TransitionSnapshot) (opened : standing.Open) (terminal : snapshot.phase.isTerminal = true)
    (unsuccessful : snapshot.phase ≠ .succeeded) :
    ((closingAccount model transition).stored snapshot standing).Settled ∧
      ((closingAccount model transition).refused snapshot standing).Settled := by
  refine ⟨iff_of_true ⟨snapshot, rfl, terminal⟩ opened.accepted, iff_of_false opened.not_ended ?_⟩
  change ¬ (standing.refused || (snapshot.phase.isTerminal && snapshot.phase != .succeeded)) = false
  rw [opened.accepted, terminal, bne_iff_ne.mpr unsuccessful]
  decide

theorem recoverable : (closingAccount model transition).Recoverable model transition JournalStanding.Open where
  records := by
    intro snapshot standing _ live opened
    refine ⟨opened, ⟨⟨snapshot, rfl, live⟩, opened.accepted⟩, opened.known, ?_⟩
    change (standing.refused || (snapshot.phase.isTerminal && snapshot.phase != .succeeded)) = false
    rw [opened.accepted, live]
    rfl
  closes := fun _ _ plain terminal opened => ⟨opened, settles _ opened terminal plain.unsuccessful⟩
  stops := fun _ _ opened => ⟨trivial, trivial, opened⟩
  starts := fun _ _ opened => ⟨trivial, trivial, opened⟩
  reads := fun _ _ found opened => ⟨found, opened⟩
  recovers := by
    intro domain stopped started standing _ opened
    refine ⟨trivial, ?_⟩
    rintro snapshot ⟨failure, _, rfl⟩
    obtain ⟨stored, refused⟩ :=
      settles { transition with phase := .failed, failure := some failure } opened rfl (by simp)
    exact ⟨opened, stored, fun _ => .inr refused⟩

theorem accept {plan : Option TransitionPlan} (received : transition.phase = .received) :
    (closingAccount model transition).Assured (Work.accept transition plan) ⟨none, false⟩ := by
  have registered : JournalStanding.Open ⟨some transition, false⟩ := open_stored (by rw [received]; rfl)
  have failing {standing : JournalStanding} (opened : standing.Open) :
      (closingAccount model transition).Assured (Work.failing transition .finished) standing :=
    recoverable.failing (.inl rfl) opened
  cases plan with
  | none => exact failing registered
  | some plan =>
      rintro snapshot rfl
      refine ⟨registered, ?_, fun _ => .inr (failing registered)⟩
      rintro snapshot rfl
      exact ⟨open_stored rfl, rfl, fun _ => .inr (failing (open_stored rfl))⟩

variable (unfailed : transition.failure = none)
include unfailed

theorem steady : (closingAccount model transition).Steady model transition JournalStanding.Open where
  toRecoverable := recoverable
  unfailed := unfailed
  commits := by
    intro standing opened
    refine ⟨trivial, ?_⟩
    rintro snapshot rfl
    refine ⟨opened, iff_of_true ⟨_, rfl, rfl⟩ opened.accepted, fun _ => .inr (recoverable.failing (.inr rfl) ?_)⟩
    exact ⟨opened.known, (Bool.or_false _).trans opened.accepted⟩

theorem sustains {plan : Option TransitionPlan} {op : EngineOp} {state : EngineState} :
    (closingAccount model transition).Sustains model transition plan op state standing where
  loaded := fun _ _ _ => trivial
  opened := by
    rintro plan _ rfl
    unfold Work.request
    split
    · exact recoverable.failing (.inl rfl) (open_stored rfl)
    · exact open_stored rfl
  refused := fun opened => .inr (recoverable.failing (.inl rfl) opened)
  confirmed := fun _ _ _ opened => (steady unfailed).confirm opened
  repaired := fun _ _ reads => recoverable.repair reads.1 reads.2

end Closing

/-- Whether the journal has refused to close the transition after an operation. -/
def refusedAfter (refused : Bool) : (op : EngineOp) → op.Reply → Bool
  | .append event, .error _ => refused || closes event
  | _, _ => refused

/-- A thread is on its way to the end of its transition. -/
structure Closing (model : ValidatedModel) (own : TransitionId) (refused : Bool) (position : Position)
    (engine : EngineState) : Prop where
  id : position.transition.id = own
  unfailed : position.transition.failure = none
  unregistered : position.registered = false → (∃ next, position.work = .registering next) ∧
    engine.transitions.lookup own = none
  assured : (closingAccount model position.transition).Assured position.work ⟨engine.transitions.lookup own, refused⟩

variable {id : TransitionId} {refused : Bool} {position later : Position} {engine : EngineState}
variable {op : EngineOp} {reply : op.Reply}

namespace Closing
variable (closing : Closing model id refused position engine)
include closing

theorem known : position.work ≠ .void := by
  intro void
  have assured := closing.assured
  rw [void] at assured
  exact assured

theorem frame {other : EngineState} (same : other.transitions.lookup id = engine.transitions.lookup id) :
    Closing model id refused position other where
  id := closing.id
  unfailed := closing.unfailed
  unregistered := fun missing => (closing.unregistered missing).imp_right same.trans
  assured := same ▸ closing.assured

variable (rule : Rule model position op reply later)
include rule

theorem entry_after : (effect op reply engine).transitions.lookup id =
    (storeAccount model position.transition).after op reply (engine.transitions.lookup id) := by
  have own := closing.id
  subst own
  exact snapshot_after engine rule closing.known closing.unregistered

/-- A step of a thread leads on to the end of its transition. -/
theorem step (answers : Answers model op reply engine) :
    Closing model id (refusedAfter refused op reply) later (effect op reply engine) where
  id := (congrArg _ (rule_transition rule).1).trans closing.id
  unfailed := (congrArg _ (rule_transition rule).1).trans closing.unfailed
  unregistered := by
    intro missing
    cases rule with
    | register => cases missing
    | enterGranted | wakeGranted | release =>
        obtain ⟨⟨next, registering⟩, _⟩ := closing.unregistered missing
        cases registering
    | @move position work next op reply moves =>
        obtain ⟨⟨next, registering⟩, _⟩ := closing.unregistered missing
        obtain rfl : work = .registering _ := registering
        cases moves
  assured := by
    have after : (closingAccount model position.transition).after op reply ⟨engine.transitions.lookup id, refused⟩ =
        ⟨(effect op reply engine).transitions.lookup id, refusedAfter refused op reply⟩ := by
      rw [closing.entry_after rule]
      cases op with
      | append event => cases reply <;> rfl
      | _ => rfl
    rw [← after, (rule_transition rule).1]
    refine closing.assured.step rule answers (sustains closing.unfailed) ?_ ?_ (fun _ _ _ => trivial)
      fun _ _ => not_false
    · exact fun opened => opened
    · intro opening
      have assured := closing.assured
      rw [opening] at assured
      rw [closing.id]
      exact congrArg JournalStanding.stored assured

/-- A step of a thread leaves every terminal snapshot as it is. -/
theorem terminal {other : TransitionId} (stored : engine.transitions.lookup other = some snapshot)
    (ended : snapshot.phase.isTerminal = true) : (effect op reply engine).transitions.lookup other = some snapshot := by
  by_cases own : other = position.transition.id
  · obtain rfl : other = id := own.trans closing.id
    rw [closing.entry_after rule]
    cases op with
    | register transition plan =>
        have missing : position.registered = false := by
          cases rule with
          | register => rfl
          | move position moves =>
              cases moves with
              | void => exact absurd rfl closing.known
              | attempt _ _ _ attempted | attemptFailed _ _ _ attempted => simp [AttemptOp] at attempted
        cases (closing.unregistered missing).2.symm.trans stored
    | store _ => exact absurd ⟨snapshot, stored, ended⟩ (closing.assured.requires rule).not_ended
    | append event => cases reply <;> exact stored
    | _ => exact stored
  · exact (sameEntries_effect engine rule closing.known own).transitions.trans stored

end Closing

variable {events : List JournalEvent} {environment : Environment}

section Fresh

/-- The identifiers from a number on are not in use. -/
def FreshFrom (next : TransitionId) (transitions : Map TransitionId TransitionSnapshot) : Prop :=
  ∀ id, next ≤ id → transitions.lookup id = none

theorem FreshFrom.insert {next later : TransitionId} {transitions : Map TransitionId TransitionSnapshot}
    (fresh : FreshFrom next transitions) (above : next ≤ later) (below : id < later)
    (transition : TransitionSnapshot) : FreshFrom later (transitions.insert id transition) := by
  intro other outside
  have apart : other ≠ id := Nat.ne_of_gt (Nat.lt_of_lt_of_le below outside)
  rw [AList.lookup_insert_ne apart]
  exact fresh other (above.trans outside)

variable {state later : ReplayState}

theorem replayEvent_next {event : JournalEvent} (accepted : Replay.replayEvent model state event = .ok later) :
    later.nextTransition = max state.nextTransition (event.transition.id + 1) := by
  unfold Replay.replayEvent at accepted
  repeat' split at accepted
  all_goals first | cases accepted; done | skip
  obtain rfl := Except.ok.inj accepted
  rfl

/-- A replay leaves the identifiers free that it gives out next. -/
theorem fresh_replay (fresh : FreshFrom state.nextTransition state.transitions)
    (accepted : Replay.replay model state events = .ok later) : FreshFrom later.nextTransition later.transitions := by
  refine Create.replay_keeps (fun state => FreshFrom state.nextTransition state.transitions)
    (fun event _ state later fresh accepted => ?_) fresh accepted
  rw [(Create.replayEvent_accepted accepted).2.2.2.2.2, replayEvent_next accepted]
  have below : event.transition.id < max state.nextTransition (event.transition.id + 1) :=
    Nat.lt_of_lt_of_le (Nat.lt_succ_self _) (le_max_right _ _)
  exact fresh.insert (le_max_left _ _) below event.transition

/-- A creation leaves the identifiers free that the engine gives out next. -/
theorem fresh_create {S : Type} {backend : ProcessBackend S} {state : S} {log : BackendLog S}
    (creates : Create.create model backend environment (.ok events) state = some ⟨.ok engine, log⟩) :
    FreshFrom engine.nextTransition engine.transitions := by
  obtain ⟨initial, replayed, running, _, accepted, _, finalized⟩ := create_eq_ok creates
  have coherent := Create.coherent_replay Create.coherent_empty accepted
  have fresh : FreshFrom replayed.nextTransition replayed.transitions := fresh_replay (fun id _ => rfl) accepted
  refine (finalize_keeps (fun engine => Keyed engine ∧ FreshFrom engine.nextTransition engine.transitions)
    ?_ ⟨fun id transition found => (coherent.identity id transition found).1, fresh⟩ finalized).2
  rintro before id transition ⟨keyed, fresh⟩ found
  refine ⟨keyed.insert (Create.interruptedEvent model before transition).transition rfl, ?_⟩
  have used : id < before.nextTransition := by
    by_contra outside
    rw [fresh id (Nat.le_of_not_lt outside)] at found
    cases found
  obtain rfl : transition.id = id := keyed id transition found
  exact fresh.insert le_rfl used _

end Fresh

variable {index : Nat}

section Runs
variable {index : Nat} {base : TransitionId} {pool : EnginePool}

/-- The journal accepts every event that closes the transition of a thread. -/
def AcceptsClosing (index : Nat) (pool : EnginePool) : EngineChoice → Prop
  | .thread other (.journal (.error _)) =>
      other = index → ∀ event, pool.pending index = some (.append event) → closes event = false
  | _ => True

/-- The identifiers are given out in order, and a number of threads is already there. -/
structure Counted (base : TransitionId) (first : Nat) (engine : EngineState) (count : Nat) : Prop where
  started : first ≤ count
  next : engine.nextTransition = base + count
  fresh : FreshFrom (base + count) engine.transitions

/-- A thread is on its way to the end of its transition, and a flag admits what the journal has refused. -/
def Flagged (model : ValidatedModel) (base : TransitionId) (flag : Nat → Bool → Prop) (index : Nat)
    (position : Position) (engine : EngineState) : Prop :=
  ∃ refused, flag index refused ∧ Closing model (base + index) refused position engine

/-- Every thread of a pool is on its way to the end of its transition. -/
def Closings (model : ValidatedModel) (base : TransitionId) (first : Nat) (flag : Nat → Bool → Prop)
    (pool : EnginePool) (positions : Nat → Position) : Prop :=
  Staged (fun _ => Rule model) Returned pool.threads positions ∧
    Holds (fun engine count _ => Counted base first engine count) (Flagged model base flag) pool.shared
      pool.threads.length positions

theorem closing_opened (fresh : engine.transitions.lookup id = none) (baseline : SystemConfiguration)
    (domain : DomainId) (target : ModeId) : Closing model id false (opened model id baseline domain target) engine where
  id := rfl
  unfailed := rfl
  unregistered := fun _ => ⟨accept_registers _ _, fresh⟩
  assured := by
    rw [fresh]
    exact Closing.accept rfl

/-- A flag that admits what the journal may refuse holds in every pool of a run. -/
theorem closings_reached {allowed : EnginePool → EngineChoice → Prop} {flag : Nat → Bool → Prop} {first : Nat}
    {start : EnginePool} {positions : Nat → Position} (unrefused : ∀ index, first ≤ index → flag index false)
    (kept : ∀ (pool : EnginePool) (index : Nat) (event : JournalEvent) (error : Error) (refused : Bool),
      allowed pool (.thread index (.journal (.error error))) → pool.pending index = some (.append event) →
      flag index refused → flag index (refused || closes event))
    (closings : Closings model base first flag start positions) (reached : (machine model).Reaches allowed start pool) :
    ∃ positions, Closings model base first flag pool positions := by
  refine Machine.Reaches.invariant positions closings.1 closings.2 ?_ ?_ ?_ reached
  · intro pool positions index input op next reply shared later _ holds permitted found rule performed
    obtain ⟨answers, same⟩ := perform_eq_some performed
    obtain ⟨refused, flagged, closing⟩ := holds.own index (List.getElem?_eq_some_iff.mp found).1
    have others {other : TransitionId} (different : other ≠ base + index) :
        shared.transitions.lookup other = pool.shared.transitions.lookup other := by
      rw [same]
      exact (sameEntries_effect _ rule closing.known (closing.id ▸ different)).transitions
    refine ⟨⟨holds.common.started, ?_, fun id outside => ?_⟩, ⟨_, ?_, same ▸ closing.step rule answers⟩, ?_⟩
    · rw [same, effect_nextTransition]
      exact holds.common.next
    · have inside := (List.getElem?_eq_some_iff.mp found).1
      rw [others (Nat.ne_of_gt (Nat.lt_of_lt_of_le (Nat.add_lt_add_left inside base) outside))]
      exact holds.common.fresh id outside
    · cases op with
      | append event =>
          cases reply with
          | ok value => exact flagged
          | error error =>
              cases input with
              | journal outcome =>
                  cases performed
                  exact kept pool index event error refused permitted (pending_of_getElem? found) flagged
              | _ => cases performed
      | _ => exact flagged
    · intro other below different
      obtain ⟨refused, flagged, own⟩ := holds.own other below
      exact ⟨refused, flagged, own.frame (others fun same => different (Nat.add_left_cancel same))⟩
  · intro pool positions event shared _ holds _ occurred
    cases event with
    | request baseline domain target => cases occurred
    | cancel id =>
        have same : shared.transitions = pool.shared.transitions ∧
            shared.nextTransition = pool.shared.nextTransition := by
          rcases (occur_cancel occurred).2 with rfl | cancelled
          · exact ⟨rfl, rfl⟩
          · obtain ⟨_, _, _, _, _, rfl⟩ := cancel_eq_ok cancelled
            exact ⟨rfl, rfl⟩
        refine ⟨⟨holds.common.started, same.2.trans holds.common.next, same.1 ▸ holds.common.fresh⟩, fun other below =>
          ?_⟩
        obtain ⟨refused, flagged, own⟩ := holds.own other below
        exact ⟨refused, flagged, own.frame (by rw [same.1])⟩
  · intro pool positions event shared program _ holds _ occurred
    cases event with
    | cancel id => cases (occur_cancel occurred).1
    | request baseline domain target =>
        obtain ⟨rfl, started⟩ := Prod.mk.inj (Option.some.inj occurred)
        obtain rfl := Option.some.inj started
        obtain ⟨started, next, fresh⟩ := holds.common
        refine ⟨opened model pool.shared.nextTransition baseline domain target, follows_requestModeFrom _ _ _ _ _, ?_,
          ?_,
          fun other below => ?_⟩
        · refine ⟨Nat.le_succ_of_le started, ?_, fun id outside => fresh id ((Nat.le_succ _).trans outside)⟩
          change pool.shared.nextTransition + 1 = base + (pool.threads.length + 1)
          rw [next, add_assoc]
        · rw [next]
          have closing : Closing model _ false _ pool.shared := closing_opened (fresh _ le_rfl) baseline domain target
          exact ⟨false, unrefused _ started, closing.frame rfl⟩
        · obtain ⟨refused, flagged, own⟩ := holds.own other below
          exact ⟨refused, flagged, own.frame rfl⟩

theorem closings_created (counted : Counted base 0 engine 0) (flag : Nat → Bool → Prop) (positions : Nat → Position) :
    Closings model base 0 flag ⟨engine, []⟩ positions := ⟨.nil positions, counted, nofun⟩

theorem counted_created {S : Type} {backend : ProcessBackend S}
    {state : S} {log : BackendLog S} {events : List JournalEvent}
    (creates : Create.create model backend environment (.ok events) state = some ⟨.ok engine, log⟩) :
    Counted engine.nextTransition 0 engine 0 := ⟨le_rfl, rfl, fresh_create creates⟩

/-- A thread that has returned has settled its transition. -/
theorem settled_of_returned {flag : Nat → Bool → Prop} {first : Nat} {positions : Nat → Position}
    (closings : Closings model base first flag pool positions) (inside : index < pool.threads.length)
    (returned : pool.pending index = none) : ∃ refused, flag index refused ∧
      (Ended (pool.shared.transitions.lookup (base + index)) ↔ refused = false) := by
  obtain ⟨refused, flagged, closing⟩ := closings.2.own index inside
  refine ⟨refused, flagged, ?_⟩
  have assured := closing.assured
  rw [finished_of_returned closings.1 inside returned closing.known] at assured
  exact assured

/-- A transition whose thread has returned is terminal if the journal accepts the events that close it. -/
theorem ended_of_accepts (counted : Counted base 0 engine 0)
    (reached : (machine model).Reaches (AcceptsClosing index) ⟨engine, []⟩ pool)
    (inside : index < pool.threads.length) (returned : pool.pending index = none) :
    Ended (pool.shared.transitions.lookup (base + index)) := by
  have accepted (pool : EnginePool) (other : Nat) (event : JournalEvent) (error : Error) (refused : Bool)
      (permitted : AcceptsClosing index pool (.thread other (.journal (.error error))))
      (pending : pool.pending other = some (.append event)) (before : other = index → refused = false)
      (same : other = index) : (refused || closes event) = false := by
    rw [before same, permitted same event (same ▸ pending)]
    rfl
  obtain ⟨positions, closings⟩ := closings_reached (fun _ _ _ => rfl) accepted
    (closings_created counted (fun other refused => other = index → refused = false) nowhere) reached
  obtain ⟨refused, unrefused, settled⟩ := settled_of_returned closings inside returned
  exact settled.mpr (unrefused rfl)

/-- In a run without refused closings every transition whose thread has returned is terminal. -/
theorem returned_ended {S : Type} (model : ValidatedModel) (backend : ProcessBackend S) (environment : Environment)
    (events : List JournalEvent) (state : S) (engine : EngineState) (log : BackendLog S) (pool : EnginePool)
    (index : Nat) (creates : Create.create model backend environment (.ok events) state = some ⟨.ok engine, log⟩)
    (reached : (machine model).Reaches (AcceptsClosing index) ⟨engine, []⟩ pool)
    (inside : index < pool.threads.length) (returned : pool.pending index = none) :
    Ended (pool.shared.transitions.lookup (engine.nextTransition + index)) :=
  ended_of_accepts (counted_created creates) reached inside returned

/-- Every transition of a fresh engine whose thread has returned is terminal if the journal works. -/
theorem ended_of_returned {configuration : SystemConfiguration}
    (reached : (machine model).Reaches (fun _ choice => journalWorks choice = true) (created configuration) pool)
    (inside : index < pool.threads.length) (returned : pool.pending index = none) :
    Ended (pool.shared.transitions.lookup (index + 1)) := by
  have accepts (pool : EnginePool) (choice : EngineChoice) (works : journalWorks choice = true) :
      AcceptsClosing index pool choice := by
    cases choice with
    | event event => trivial
    | thread other input =>
        cases input with
        | journal outcome =>
            cases outcome with
            | ok value => trivial
            | error error => cases works
        | _ => trivial
  rw [Nat.add_comm]
  exact ended_of_accepts ⟨le_rfl, rfl, fun id _ => rfl⟩ (reached.permits fun _ _ _ works => accepts _ _ works)
    inside returned

/-- A transition whose closing has been refused is not terminal when its thread returns. -/
theorem refused_not_ended {S : Type} {model : ValidatedModel} {backend : ProcessBackend S} {environment : Environment}
    {events : List JournalEvent} {state : S} {log : BackendLog S} {refusing later : EnginePool} {index : Nat}
    {event : JournalEvent} {error : Error}
    (creates : Create.create model backend environment (.ok events) state = some ⟨.ok engine, log⟩)
    (reached : (machine model).Reaches (fun _ _ => True) ⟨engine, []⟩ pool)
    (pending : pool.pending index = some (.append event)) (closing : closes event = true)
    (refuses : (machine model).fire pool (.thread index (.journal (.error error))) = some refusing)
    (continued : (machine model).Reaches (fun _ _ => True) refusing later) (returned : later.pending index = none) :
    ¬ Ended (later.shared.transitions.lookup (engine.nextTransition + index)) := by
  obtain ⟨op, next, reply, shared, found, performed, rfl⟩ := Machine.fire_thread_eq_some refuses
  obtain rfl : op = .append event := Option.some.inj ((pending_of_getElem? found).symm.trans pending)
  cases performed
  obtain ⟨positions, staged, common, own⟩ := closings_reached (fun _ _ => trivial) (fun _ _ _ _ _ _ _ _ => trivial)
    (closings_created (counted_created creates) (fun _ _ => True) nowhere) reached
  have inside : index < pool.threads.length := (List.getElem?_eq_some_iff.mp found).1
  obtain ⟨refused, _, thread⟩ := own index inside
  obtain ⟨position, rule, follows⟩ := (staged index _ found).call (.error error)
  have started : Closings model engine.nextTransition pool.threads.length (fun other refused =>
    other = index → refused = true)
      ⟨pool.shared, pool.threads.set index (next (.error error))⟩ (Function.update positions index position) := by
    refine ⟨staged.set follows, ⟨?_, ?_, ?_⟩, fun other below => ?_⟩
    · exact (List.length_set ..).ge
    · rw [List.length_set]
      exact common.next
    · rw [List.length_set]
      exact common.fresh
    · by_cases same : other = index
      · subst same
        rw [Function.update_self]
        refine ⟨_, fun _ => ?_, thread.step rule trivial⟩
        change (refused || closes event) = true
        rw [closing, Bool.or_true]
      · rw [Function.update_of_ne same]
        obtain ⟨refused, _, other⟩ := own other (by simpa using below)
        exact ⟨refused, fun same' => absurd same' same, other⟩
  obtain ⟨positions, closings⟩ :=
    closings_reached (fun other above same => by omega) (fun _ _ _ _ _ _ _ before same => by
    rw [before same, Bool.true_or]) started continued
  have still : index < later.threads.length := inside.trans_le closings.2.common.started
  obtain ⟨refused, flagged, settled⟩ := settled_of_returned closings still returned
  rw [settled, flagged rfl]
  decide

/-- A terminal snapshot stays as it is for the rest of a run. -/
theorem terminal_reaches {configuration : SystemConfiguration} {start : EnginePool}
    (began : (machine model).Reaches (fun _ _ => True) (created configuration) start)
    (reached : (machine model).Reaches (fun _ _ => True) start pool)
    (stored : start.shared.transitions.lookup id = some snapshot) (terminal : snapshot.phase.isTerminal = true) :
    pool.shared.transitions.lookup id = some snapshot := by
  induction reached with
  | refl => exact stored
  | @step pool later choice before _ fired ih =>
      cases choice with
      | thread index input =>
          obtain ⟨positions, staged, _, own⟩ := closings_reached (fun _ _ => trivial) (fun _ _ _ _ _ _ _ _ => trivial)
            (closings_created ⟨le_rfl, rfl, fun _ _ => rfl⟩ (fun _ _ => True) nowhere) (began.trans before)
          obtain ⟨op, next, reply, shared, found, performed, rfl⟩ := Machine.fire_thread_eq_some fired
          obtain ⟨_, rfl⟩ := perform_eq_some performed
          obtain ⟨refused, _, closing⟩ := own index (List.getElem?_eq_some_iff.mp found).1
          obtain ⟨position, rule, _⟩ := (staged index _ found).call reply
          exact closing.terminal rule ih terminal
      | event event =>
          rw [transitions_event fired]
          exact ih

end Runs

section Wiper
open Create (wiperModes creates_wiper)

/-- This function decides whether a step refuses to close the transition of a thread. -/
def acceptsClosing (index : Nat) (pool : EnginePool) : EngineChoice → Bool
  | .thread other (.journal (.error _)) => other != index || !(pool.pending index).any fun op =>
      match op with
      | .append event => closes event
      | _ => false
  | _ => true

theorem acceptsClosing_sound (pool : EnginePool) (choice : EngineChoice)
    (checked : acceptsClosing index pool choice = true) : AcceptsClosing index pool choice := by
  cases choice with
  | event event => trivial
  | thread other input =>
      cases input with
      | journal outcome =>
          cases outcome with
          | ok value => trivial
          | error error =>
              rintro rfl event pending
              simpa [acceptsClosing, pending] using checked
      | _ => trivial

/-- The journal refuses the first phase of the transition and accepts its failure. -/
theorem returned_ended_failed : ∃ pool,
    (machine wiperModes).Reaches (AcceptsClosing 0) (created ⟨1, initialModes wiperModes, ∅⟩) pool ∧
    pool.threads.length = 1 ∧ pool.pending 0 = none ∧ Ended (pool.shared.transitions.lookup 1) := by
  obtain ⟨pool, reached, count, returned⟩ := exists_run wiperModes ⟨1, initialModes wiperModes, ∅⟩
    (acceptsClosing 0) acceptsClosing_sound
    ([requestMode 1 2] ++ List.replicate 2 (advance 0) ++ [refuseAppend 0] ++ List.replicate 3 (advance 0))
    (fun pool => pool.threads.length = 1 ∧ pool.pending 0 = none) (by decide +kernel)
  exact ⟨pool, reached, count, returned, returned_ended wiperModes Create.readyBackend Create.accepting [] ∅
    _ _ pool 0 creates_wiper reached (by omega) returned⟩

/-- The journal refuses every event, and the transition that has been given up stays open. -/
theorem returned_open : ∃ pool,
    (machine wiperModes).Reaches (fun _ _ => True) (created ⟨1, initialModes wiperModes, ∅⟩) pool ∧
    pool.threads.length = 1 ∧ pool.pending 0 = none ∧ ¬ Ended (pool.shared.transitions.lookup 1) := by
  obtain ⟨pool, reached, count, returned, stored⟩ := exists_run wiperModes ⟨1, initialModes wiperModes, ∅⟩
    (fun _ _ => true) (fun _ _ _ => trivial)
    ([requestMode 1 2] ++ List.replicate 2 (advance 0) ++ [refuseAppend 0, advance 0, refuseAppend 0])
    (fun pool => pool.threads.length = 1 ∧ pool.pending 0 = none ∧
      (pool.shared.transitions.lookup 1).map (·.phase) = some .received) (by decide +kernel)
  refine ⟨pool, reached, count, returned, ?_⟩
  rintro ⟨snapshot, known, terminal⟩
  rw [known] at stored
  have phase : snapshot.phase = .received := Option.some.inj stored
  rw [phase] at terminal
  cases terminal

/-- The journal refuses every event, and the run ends with the refusal of the failure. -/
theorem refused_not_ended_wiper : ∃ pool later, (machine wiperModes).fire pool (refuseAppend 0 pool) = some later ∧
    later.pending 0 = none ∧ ¬ Ended (later.shared.transitions.lookup 1) := by
  obtain ⟨pool, reached, closing, returned⟩ := exists_run wiperModes ⟨1, initialModes wiperModes, ∅⟩
    (fun _ _ => true) (fun _ _ _ => trivial)
    ([requestMode 1 2] ++ List.replicate 2 (advance 0) ++ [refuseAppend 0, advance 0])
    (fun pool => acceptsClosing 0 pool (refuseAppend 0 pool) = false ∧
      ((machine wiperModes).fire pool (refuseAppend 0 pool)).any (fun later => later.pending 0 = none) = true)
    (by decide +kernel)
  obtain ⟨later, refuses, done⟩ := (Option.any_eq_true _ _).mp returned
  cases pending : pool.pending 0 with
  | none => simp [acceptsClosing, refuseAppend, pending] at closing
  | some op =>
      cases op with
      | append event =>
          have closes : closes event = true := by simpa [acceptsClosing, refuseAppend, pending] using closing
          have returns := of_decide_eq_true done
          exact ⟨pool, later, refuses, returns,
            refused_not_ended creates_wiper reached pending closes refuses .refl returns⟩
      | _ => simp [acceptsClosing, refuseAppend, pending] at closing

end Wiper

end OpenVehicle.Exec
