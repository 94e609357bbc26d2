/-
This file proves when a cancelled transition cannot succeed any more.
A cancellation only sets a flag, so the thread must still poll its flag before it commits.
-/

import OpenVehicle.Exec.Runs

namespace OpenVehicle.Exec

open Concurrency FiniteMap ExecutionEngine TransitionPlanner

/-- The operation commits the target mode or records a success. -/
def EngineOp.succeeds (target : ModeId) : EngineOp → Bool
  | .commit _ mode => mode == target
  | .append event => event.transition.phase == .succeeded
  | .store snapshot => snapshot.phase == .succeeded
  | _ => false

/-- When a thread reads its transition, the stored snapshot is planned. -/
def EngineOp.Gives (snapshot : TransitionSnapshot) : (op : EngineOp) → op.Reply → Prop
  | .getTransition id, reply => id = snapshot.id → reply = .ok { snapshot with phase := .planned, failure := none }
  | _, _ => True

/-- The program polls the flag of its transition before it succeeds. -/
def PollsFirst (snapshot : TransitionSnapshot) : EngineProgram (Result TransitionSnapshot) → Prop
  | .done _ => True
  | .call op next => op = .isCancelled snapshot.id ∨ op.succeeds snapshot.targetMode = false ∧
      ∀ reply, op.Gives snapshot reply → PollsFirst snapshot (next reply)

/-- The program does not succeed any more. -/
def Quits (target : ModeId) : EngineProgram (Result TransitionSnapshot) → Prop
  | .done _ => True
  | .call op next => op.succeeds target = false ∧ ∀ reply, Quits target (next reply)

/-- The work that records a failure and returns. Other work may poll the flag first. -/
def Work.Quitting (polls : Bool) : Work → Prop
  | .finished | .releasing => True
  | .opening | .entering | .waiting | .replanning | .polling _ _ => polls = true
  | .registering next => polls = true ∧ next.Quitting polls
  | .recording candidates recorded failed =>
      (∀ snapshot, candidates snapshot → snapshot.phase ≠ .succeeded) ∧ recorded.Quitting polls ∧ failed.Quitting polls
  | .appending event recorded failed =>
      event.transition.phase ≠ .succeeded ∧ recorded.Quitting polls ∧ failed.Quitting polls
  | .storing snapshot next => snapshot.phase ≠ .succeeded ∧ next.Quitting polls
  | _ => False

variable {snapshot : TransitionSnapshot} {model : ValidatedModel} {op : EngineOp} {reply : op.Reply}

section Quitting
variable {position later : Position} {polls : Bool}

theorem quitting_failing (transition : TransitionSnapshot) {after : Work} (ends : after.Quitting polls) :
    (Work.failing transition after).Quitting polls := by
  refine ⟨?_, ends, ends⟩
  rintro snapshot ⟨code, failure, _, rfl⟩
  exact terminalPhase_ne_succeeded code

theorem quitting_recordPhase (transition : TransitionSnapshot) {phase : TransitionPhase} {next after : Work}
    (other : phase ≠ .succeeded) (leads : next.Quitting polls) (ends : after.Quitting polls) :
    (Work.recordPhase transition phase next after).Quitting polls := by
  refine ⟨?_, leads, quitting_failing transition ends⟩
  rintro snapshot rfl
  exact other

/-- A plan with units leads to the poll of its first loop head. -/
theorem quitting_confirm (transition : TransitionSnapshot) {plan : TransitionPlan}
    (units : plan.stop ++ plan.start ≠ [])
    (replanned : Result TransitionPlan) : (Work.confirm model transition plan replanned).Quitting true := by
  have fails : (Work.failing transition Work.exit).Quitting true := quitting_failing transition trivial
  unfold Work.confirm
  split
  · exact fails
  · split
    · exact fails
    · unfold Work.execute
      cases stop : plan.stop with
      | cons unit rest => exact quitting_recordPhase transition (by decide) rfl trivial
      | nil =>
          cases start : plan.start with
          | nil => exact absurd (by rw [stop, start, List.append_nil]) units
          | cons unit rest =>
              refine quitting_recordPhase transition (by decide) ?_ trivial
              split
              · exact quitting_recordPhase transition (by decide) rfl trivial
              · exact rfl

/-- A quitting thread keeps quitting, unless it polls. -/
theorem Work.Quitting.step (quitting : position.work.Quitting polls)
    (units : polls = true → ∀ plan, position.plan = some plan → plan.stop ++ plan.start ≠ [])
    (rule : Rule model position op reply later) (gives : polls = true → op.Gives position.transition reply)
    (unfailed : polls = true → position.transition.failure = none) (target : ModeId) :
    polls = true ∧ op = .isCancelled position.transition.id ∨
      op.succeeds target = false ∧ later.work.Quitting polls := by
  cases rule with
  | register => exact .inr ⟨rfl, quitting.2⟩
  | enterGranted | wakeGranted => exact .inr ⟨rfl, quitting⟩
  | release => exact .inr ⟨rfl, trivial⟩
  | move position moves =>
      cases moves with
      | load snapshot found candidate kin =>
          exact .inr ⟨rfl, quitting.1 snapshot candidate, quitting.2.1, quitting.2.2⟩
      | append event recorded failed =>
          exact .inr ⟨by simpa [EngineOp.succeeds] using quitting.1, quitting.1, quitting.2.1⟩
      | appendFailed event recorded failed error =>
          exact .inr ⟨by simpa [EngineOp.succeeds] using quitting.1, quitting.2.2⟩
      | store snapshot next kin =>
          exact .inr ⟨by simpa [EngineOp.succeeds] using quitting.1, quitting.2⟩
      | opened accepted planned =>
          refine .inr ⟨rfl, ?_⟩
          change (Work.request position.transition accepted).Quitting polls
          unfold Work.request
          split
          · exact quitting_failing _ trivial
          · exact quitting
      | stray reply other =>
          refine absurd (gives quitting rfl) ?_
          rw [← unfailed quitting]
          exact other
      | enterBlocked => exact .inr ⟨rfl, quitting⟩
      | enterRefused | wakeRefused => exact .inr ⟨rfl, quitting_failing _ trivial⟩
      | replan accepted planned reply =>
          obtain rfl : polls = true := quitting
          exact .inr ⟨rfl, quitting_confirm _ (units rfl accepted planned) reply⟩
      | poll next reply => exact .inl ⟨quitting, rfl⟩
      | _ => exact quitting.elim

theorem gives_kin {transition snapshot : TransitionSnapshot} (kin : Kin transition snapshot) :
    op.Gives transition reply ↔ op.Gives snapshot reply := by
  obtain ⟨id, domain, source, target⟩ := kin
  cases op with
  | getTransition other => simp only [EngineOp.Gives, id, domain, source, target]
  | _ => rfl

theorem exists_gives (op : EngineOp) (snapshot : TransitionSnapshot) : ∃ reply, op.Gives snapshot reply := by
  cases op with
  | getTransition id => exact ⟨_, fun _ => rfl⟩
  | _ => exact (reply_nonempty _).elim fun reply => ⟨reply, trivial⟩

variable {program : EngineProgram (Result TransitionSnapshot)}

/-- The program of a thread that has units to stop or start polls first. -/
theorem pollsFirst_of_follows
    (follows : Program.Follows (Rule model) Returned position program) (kin : Kin position.transition snapshot)
    (unfailed : position.transition.failure = none)
    (units : ∀ plan, position.plan = some plan → plan.stop ++ plan.start ≠ [])
    (quitting : position.work.Quitting true) : PollsFirst snapshot program := by
  induction program generalizing position with
  | done value => trivial
  | call op next ih =>
      by_cases polls : op = .isCancelled snapshot.id
      · exact .inl polls
      · have steps {reply : op.Reply} {later : Position} (rule : Rule model position op reply later)
            (gives : op.Gives snapshot reply) := (quitting.step (fun _ => units) rule
          (fun _ => (gives_kin kin).mpr gives) (fun _ => unfailed) snapshot.targetMode).resolve_left
            fun polled => polls (kin.id ▸ polled.2)
        obtain ⟨some, given⟩ := exists_gives op snapshot
        obtain ⟨_, rule, _⟩ := follows.call some
        refine .inr ⟨(steps rule given).1, fun reply gives => ?_⟩
        obtain ⟨later, rule, rest⟩ := follows.call reply
        obtain ⟨transition, plan⟩ := rule_transition rule
        exact ih reply rest (transition ▸ kin) (transition ▸ unfailed) (plan ▸ units) (steps rule gives).2

/-- The program of a quitting thread does not succeed. -/
theorem quits_of_follows (target : ModeId) (follows : Program.Follows (Rule model) Returned position program)
    (quitting : position.work.Quitting false) : Quits target program := by
  induction program generalizing position with
  | done value => trivial
  | call op next ih =>
      have steps {reply : op.Reply} {later : Position} (rule : Rule model position op reply later) :=
        (quitting.step nofun rule nofun nofun target).resolve_left nofun
      obtain ⟨some⟩ := reply_nonempty op
      obtain ⟨_, rule, _⟩ := follows.call some
      refine ⟨(steps rule).1, fun reply => ?_⟩
      obtain ⟨later, rule, rest⟩ := follows.call reply
      exact ih reply rest (steps rule).2

end Quitting

variable {id : TransitionId} {state : EngineState}

/-- No operation clears a cancellation flag. -/
theorem cancellation_effect (reply : op.Reply) (flagged : state.cancellation.lookup id = some true) :
    (effect op reply state).cancellation.lookup id = some true := by
  unfold effect
  split
  all_goals try exact flagged
  show (emplace _ false state.cancellation).lookup id = some true
  rw [lookup_emplace, flagged]
  rfl

/-- Only the stores replace a stored snapshot. -/
theorem transitions_effect (reply : op.Reply) (stored : state.transitions.lookup id = some snapshot) :
    (effect op reply state).transitions.lookup id = some snapshot ∨
      ∃ later, op = .store later ∧ (effect op reply state).transitions.lookup id = some later := by
  unfold effect
  split
  all_goals try exact .inl stored
  · left
    show (emplace _ _ state.transitions).lookup id = some snapshot
    rw [lookup_emplace, stored]
    rfl
  · rename_i later _
    show (state.transitions.insert later.id later).lookup id = some snapshot ∨
      ∃ next, EngineOp.store later = .store next ∧
        (state.transitions.insert later.id later).lookup id = some next
    by_cases own : id = later.id
    · exact .inr ⟨later, rfl, by rw [own, AList.lookup_insert]⟩
    · exact .inl (by rw [AList.lookup_insert_ne own, stored])

variable {positions : Nat → Position} {index : Nat}

section Tracked
variable {position later : Position}
variable {pool : EnginePool}

/-- A thread reads its transition only when it is planned. -/
theorem Owned.gives (owned : Owned model index position state) (rule : Rule model position op reply later)
    (answers : Answers model op reply state) : op.Gives position.transition reply := by
  cases op with
  | getTransition id =>
      rintro rfl
      have opening := rule_opening rule owned.work_ne_void
      rw [answers _ (owned.opens opening), ← owned.failure]
  | _ => trivial

/-- A stored snapshot belongs to the thread of its transition. -/
theorem Sound.kin (sound : Sound model pool positions)
    (stored : pool.shared.transitions.lookup (index + 1) = some snapshot) :
    index < pool.threads.length ∧ Kin (positions index).transition snapshot := by
  have inside : index < pool.threads.length := by
    by_contra outside
    have unknown := (sound.registry.fresh (index + 1) (by omega)).1.transitions
    cases unknown.symm.trans stored
  have owned := sound.owned index inside
  cases registered : (positions index).registered with
  | false => cases (owned.unregistered registered).2.transitions.symm.trans stored
  | true =>
      obtain ⟨found, known, kin⟩ := owned.stored registered
      obtain rfl := Option.some.inj (known.symm.trans stored)
      exact ⟨inside, kin⟩

/-- A thread that has not polled its flag. -/
def Unpolled (index : Nat) (pool : EnginePool) : EngineChoice → Prop
  | .thread moving _ => moving = index → pool.pending index ≠ some (.isCancelled (index + 1))
  | .event _ => True

def HasUnits (plan : Option TransitionPlan) : Prop :=
  ∀ accepted, plan = some accepted → accepted.stop ++ accepted.start ≠ []

theorem maintains_unpolled : Maintains model (Unpolled index) (fun _ _ _ => True)
    fun other position _ => other = index → HasUnits position.plan → position.work.Quitting true where
  step := by
    intro pool positions moving input op reply later sound holds step
    refine ⟨trivial, ?_, fun other inside _ => holds.own other inside⟩
    rintro rfl units
    have owned := sound.owned moving step.inside
    rw [(rule_transition step.rule).2] at units
    refine (((holds.own moving step.inside rfl units).step (fun _ => units) step.rule
      (fun _ => owned.gives step.rule step.answers) (fun _ => owned.failure) 0).resolve_left ?_).2
    rintro ⟨_, polls⟩
    rw [owned.id] at polls
    exact step.permitted rfl (step.pending.trans (congrArg some polls))
  cancel := fun _ _ _ _ _ holds _ _ => ⟨trivial, holds.own⟩
  request := by
    intro pool positions baseline domain target sound holds _
    refine ⟨trivial, fun other inside same units => ?_⟩
    by_cases last : other = pool.threads.length
    · rw [last, Function.update_self]
      change (Work.accept _ (TransitionPlanner.plan model baseline domain target).toOption).Quitting true
      cases (TransitionPlanner.plan model baseline domain target).toOption with
      | none => exact ⟨rfl, quitting_failing _ trivial⟩
      | some plan =>
          refine ⟨rfl, quitting_recordPhase _ (by decide) ?_ trivial⟩
          exact quitting_recordPhase _ (by decide) rfl trivial
    · rw [Function.update_of_ne last] at units ⊢
      exact holds.own other (by omega) same units

/-- A received, planned or waiting transition with units polls its flag before it succeeds. -/
theorem pollsFirst_of_unpolled {configuration : SystemConfiguration}
    (reached : (machine model).Reaches (Unpolled index) (created configuration) pool)
    (stored : pool.shared.transitions.lookup (index + 1) = some snapshot)
    (units : HasUnits (pool.shared.plans.lookup (index + 1))) :
    ∃ program, pool.threads[index]? = some program ∧ PollsFirst snapshot program := by
  obtain ⟨positions, sound, holds⟩ := maintains_unpolled.fromCreated (fun _ => trivial) reached
  obtain ⟨inside, kin⟩ := sound.kin stored
  have owned := sound.owned index inside
  have registered : (positions index).registered = true := by
    by_contra missing
    cases (owned.unregistered (by simpa using missing)).2.transitions.symm.trans stored
  rw [owned.plans registered] at units
  have found := List.getElem?_eq_getElem inside
  exact ⟨_, found, pollsFirst_of_follows (sound.staged index _ found) kin owned.failure units
    (holds.own index inside rfl units)⟩

end Tracked

/-- The thread of a cancelled transition will not succeed. -/
structure Stopped (index : Nat) (snapshot : TransitionSnapshot) (pool : EnginePool) : Prop where
  id : snapshot.id = index + 1
  program : ∃ program, pool.threads[index]? = some program ∧
    (PollsFirst snapshot program ∨ Quits snapshot.targetMode program)
  flagged : pool.shared.cancellation.lookup (index + 1) = some true
  stored : ∃ later, pool.shared.transitions.lookup (index + 1) = some later ∧ Kin snapshot later ∧
    later.phase ≠ .succeeded

variable {start : EnginePool}

section Run
variable {pool later : EnginePool}

variable {position later : Position}

theorem rule_poll (rule : Rule model position (.isCancelled id) true later) (known : position.work ≠ .void) :
    later.work = Work.failing position.transition Work.exit := by
  cases rule with
  | move position moves =>
      cases moves with
      | void => exact absurd rfl known
      | poll next reply => rfl
      | attempt _ _ _ attempted | attemptFailed _ _ _ attempted => simp [AttemptOp] at attempted

theorem rule_store (rule : Rule model position (.store snapshot) () later)
    (known : position.work ≠ .void) : Kin position.transition snapshot := by
  cases rule with
  | move position moves =>
      cases moves with
      | void => exact absurd rfl known
      | store _ _ kin => exact kin
      | attempt _ _ _ attempted | attemptFailed _ _ _ attempted => simp [AttemptOp] at attempted

/-- The poll of a set flag lets the thread quit. -/
theorem quits_of_poll (sound : Sound model pool positions) {next : Bool → EngineProgram (Result TransitionSnapshot)}
    (found : pool.threads[index]? = some (.call (.isCancelled id) next)) (target : ModeId) :
    Quits target (next true) := by
  have inside : index < pool.threads.length := (List.getElem?_eq_some_iff.mp found).1
  obtain ⟨later, rule, follows⟩ := (sound.staged index _ found).call true
  have known := (sound.owned index inside).work_ne_void
  refine quits_of_follows target follows ?_
  rw [rule_poll rule known]
  exact quitting_failing _ trivial

/-- The next operation of a stopped thread does not succeed. -/
theorem Stopped.op_succeeds (stopped : Stopped index snapshot pool) (pending : pool.pending index = some op) :
    op.succeeds snapshot.targetMode = false := by
  obtain ⟨program, found, stops⟩ := stopped.program
  unfold Pool.pending at pending
  rw [found] at pending
  cases program with
  | done value => cases pending
  | call other next =>
      obtain rfl := Option.some.inj pending
      rcases stops with (rfl | ⟨idle, _⟩) | ⟨idle, _⟩
      · rfl
      · exact idle
      · exact idle

variable {next : op.Reply → EngineProgram _}

/-- A step of the stopped thread keeps it stopped. -/
theorem Stopped.own (sound : Sound model pool positions) (stopped : Stopped index snapshot pool)
    (found : pool.threads[index]? = some (.call op next)) (answers : Answers model op reply pool.shared) :
    Stopped index snapshot ⟨effect op reply pool.shared, pool.threads.set index (next reply)⟩ := by
  have idle := stopped.op_succeeds (pending_of_getElem? found)
  obtain ⟨program, same, stops⟩ := stopped.program
  obtain ⟨shown, stored, kin, open_⟩ := stopped.stored
  obtain rfl := Option.some.inj (same.symm.trans found)
  obtain ⟨inside, own⟩ := sound.kin stored
  obtain ⟨position, rule, _⟩ := (sound.staged index _ found).call reply
  have owned := sound.owned index inside
  have gives := (gives_kin (own.trans kin.symm)).mp (owned.gives rule answers)
  refine ⟨stopped.id, ⟨next reply, List.getElem?_set_self inside, ?_⟩, cancellation_effect reply stopped.flagged, ?_⟩
  · rcases stops with (rfl | ⟨_, rest⟩) | ⟨_, rest⟩
    · have polled : reply = true := by
        have answer : reply = (pool.shared.cancellation.lookup snapshot.id).getD false := answers
        rw [stopped.id, stopped.flagged] at answer
        exact answer
      rw [polled]
      exact .inr (quits_of_poll sound found _)
    · exact .inl (rest reply gives)
    · exact .inr (rest reply)
  · rcases transitions_effect reply stored with kept | ⟨later, rfl, replaced⟩
    · exact ⟨shown, kept, kin, open_⟩
    · have fresh := rule_store rule owned.work_ne_void
      exact ⟨later, replaced, (kin.trans own.symm).trans fresh, by simpa [EngineOp.succeeds] using idle⟩

/-- A step of another thread keeps it stopped. -/
theorem Stopped.other (sound : Sound model pool positions) (stopped : Stopped index snapshot pool) {moving : Nat}
    (different : moving ≠ index) (found : pool.threads[moving]? = some (.call op next)) (reply : op.Reply) :
    Stopped index snapshot ⟨effect op reply pool.shared, pool.threads.set moving (next reply)⟩ := by
  have inside : moving < pool.threads.length := (List.getElem?_eq_some_iff.mp found).1
  obtain ⟨program, same, stops⟩ := stopped.program
  obtain ⟨shown, stored, kin, open_⟩ := stopped.stored
  have owned := sound.owned moving inside
  obtain ⟨_, rule, _⟩ := (sound.staged moving _ found).call reply
  have entries := owned.others rule fun equal => different (Nat.succ.inj equal).symm
  refine ⟨stopped.id, ⟨program, ?_, stops⟩, entries.cancellation.trans stopped.flagged, shown,
    entries.transitions.trans stored, kin, open_⟩
  rw [List.getElem?_set_ne different]
  exact same

/-- An event keeps the thread stopped. -/
theorem Stopped.event (stopped : Stopped index snapshot pool) {event : EngineEvent} {shared : EngineState}
    {started : Option (EngineProgram (Result TransitionSnapshot))}
    (occurred : (machine model).occur event pool.shared = some (shared, started)) :
    Stopped index snapshot ⟨shared, pool.threads ++ started.toList⟩ := by
  obtain ⟨program, same, stops⟩ := stopped.program
  have kept : (pool.threads ++ started.toList)[index]? = some program := by
    rw [List.getElem?_append_left (List.getElem?_eq_some_iff.mp same).1]
    exact same
  cases event with
  | request baseline domain mode =>
      obtain ⟨rfl, _⟩ := Prod.mk.inj (Option.some.inj occurred)
      exact ⟨stopped.id, ⟨program, kept, stops⟩, stopped.flagged, stopped.stored⟩
  | cancel id =>
      rcases (occur_cancel occurred).2 with rfl | cancelled
      · exact ⟨stopped.id, ⟨program, kept, stops⟩, stopped.flagged, stopped.stored⟩
      · obtain ⟨_, _, _, _, _, rfl⟩ := cancel_eq_ok cancelled
        refine ⟨stopped.id, ⟨program, kept, stops⟩, ?_, stopped.stored⟩
        show (pool.shared.cancellation.insert id true).lookup (index + 1) = some true
        by_cases own : index + 1 = id
        · rw [own, AList.lookup_insert]
        · rw [AList.lookup_insert_ne own]
          exact stopped.flagged

theorem Stopped.reaches (began : ∀ pool, (machine model).Reaches (fun _ _ => True) start pool →
      ∃ positions, Sound model pool positions) (stopped : Stopped index snapshot start)
    (reached : (machine model).Reaches (fun _ _ => True) start pool) : Stopped index snapshot pool := by
  induction reached with
  | refl => exact stopped
  | @step pool later choice before _ fired ih =>
      obtain ⟨positions, sound⟩ := began pool before
      cases choice with
      | event event =>
          obtain ⟨shared, started, occurred, rfl⟩ := Machine.fire_event_eq_some fired
          exact ih.event occurred
      | thread moving input =>
          obtain ⟨op, next, reply, shared, found, performed, rfl⟩ := Machine.fire_thread_eq_some fired
          obtain ⟨answers, rfl⟩ := perform_eq_some performed
          by_cases own : moving = index
          · obtain rfl := own
            exact ih.own sound found answers
          · exact ih.other sound own found reply

end Run

/-- A transition that still polls its flag never succeeds after its cancellation. -/
theorem cancelled_neverSucceeds (model : ValidatedModel) (configuration : SystemConfiguration)
    (start pool : EnginePool) (index : Nat) (cancelled : EngineState) (snapshot : TransitionSnapshot)
    (program : EngineProgram (Result TransitionSnapshot))
    (began : (machine model).Reaches (fun _ _ => True) (created configuration) start)
    (found : start.threads[index]? = some program)
    (stored : start.shared.transitions.lookup (index + 1) = some snapshot)
    (accepted : cancel start.shared (index + 1) = .ok cancelled) (polls : PollsFirst snapshot program)
    (reached : (machine model).Reaches (fun _ _ => True) ⟨cancelled, start.threads⟩ pool) :
    (∃ later, pool.shared.transitions.lookup (index + 1) = some later ∧ later.phase ≠ .succeeded) ∧
      ∀ op, pool.pending index = some op → op.succeeds snapshot.targetMode = false := by
  have fired : (machine model).fire start (.event (.cancel (index + 1))) =
      some ⟨cancelled, start.threads⟩ := by
    simp [Machine.fire, machine, occur, accepted]
  have joined := Machine.Reaches.step began trivial fired
  have stopped : Stopped index snapshot ⟨cancelled, start.threads⟩ := by
    obtain ⟨positions, sound⟩ := sound_of_reaches began
    obtain ⟨inside, kin⟩ := sound.kin stored
    obtain ⟨_, other, _, known, open_, rfl⟩ := cancel_eq_ok accepted
    obtain rfl := Option.some.inj (known.symm.trans stored)
    refine ⟨kin.id.trans (sound.owned index inside).id, ⟨program, found, .inl polls⟩, AList.lookup_insert _, other,
      stored, ⟨rfl, rfl, rfl, rfl⟩, ?_⟩
    intro succeeded
    exact open_ (.inr (by rw [succeeded]; rfl))
  have later := stopped.reaches (fun _ after => sound_of_reaches (joined.trans after)) reached
  obtain ⟨shown, known, _, open_⟩ := later.stored
  exact ⟨⟨shown, known, open_⟩, fun op pending => later.op_succeeds pending⟩

/-- A lamp is switched on by one unit. -/
def lampModes : ValidatedModel where
  value := {
    generation := 1
    units := [{ id := 1, name := "lamp" }]
    domains := [
      { id := 1, name := "light", initialMode := 1,
        modes := [{ id := 1, name := "off" }, { id := 2, name := "on", units := [1] }] }] }
  valid := by decide +kernel

/-- This function continues with a schedule after a cancellation. -/
def runCancelled (model : ValidatedModel) (id : TransitionId) (schedule : List (EnginePool → EngineChoice))
    (property : EnginePool → Bool) (start : EnginePool) : Bool :=
  (cancel start.shared id).toOption.any fun cancelled =>
    ((machine model).run (fun _ _ => true) schedule ⟨cancelled, start.threads⟩).any property

theorem exists_of_runCancelled {schedule : List (EnginePool → EngineChoice)} {property : EnginePool → Bool}
    (executed : runCancelled model id schedule property start = true) : ∃ cancelled pool,
      cancel start.shared id = .ok cancelled ∧
      (machine model).Reaches (fun _ _ => True) ⟨cancelled, start.threads⟩ pool ∧ property pool = true := by
  unfold runCancelled at executed
  cases result : cancel start.shared id with
  | error cause =>
      rw [result] at executed
      cases executed
  | ok cancelled =>
      rw [result] at executed
      obtain ⟨pool, reached, holds⟩ := System.Reaches.exists_of_run (fun _ _ => true)
        (fun _ _ _ => trivial) schedule property executed
      exact ⟨cancelled, pool, rfl, reached, holds⟩

/-- The lamp is cancelled before its thread reads the planned transition, and it ends as cancelled. -/
theorem cancelled_neverSucceeds_polled : ∃ (start pool : EnginePool) (cancelled : EngineState),
    (machine lampModes).Reaches (fun _ _ => True) (created ⟨1, initialModes lampModes, ∅⟩) start ∧
    start.pending 0 = some (.getTransition 1) ∧ cancel start.shared 1 = .ok cancelled ∧
    (machine lampModes).Reaches (fun _ _ => True) ⟨cancelled, start.threads⟩ pool ∧ pool.pending 0 = none ∧
    ∃ later, pool.shared.transitions.lookup 1 = some later ∧ later.phase ≠ .succeeded := by
  have unpolled (pool : EnginePool) (choice : EngineChoice) (quiet : (pool.pending 0 != some (.isCancelled 1)) = true) :
      Unpolled 0 pool choice := by
    cases choice with
    | thread moving input => exact fun _ => bne_iff_ne.mp quiet
    | event event => trivial
  obtain ⟨start, began, pending, stored, units, executed⟩ := exists_run lampModes
    ⟨1, initialModes lampModes, ∅⟩ (fun pool _ => pool.pending 0 != some (.isCancelled 1)) unpolled
    ([requestMode 1 2] ++ List.replicate 7 (advance 0))
    (fun start => start.pending 0 = some (.getTransition 1) ∧
      (start.shared.transitions.lookup 1).isSome = true ∧
      (start.shared.plans.lookup 1).all (fun plan => plan.stop ++ plan.start != []) = true ∧
      runCancelled lampModes 1 (List.replicate 14 (advance 0))
        (fun pool => decide (pool.pending 0 = none)) start = true) (by decide +kernel)
  obtain ⟨cancelled, pool, accepted, reached, returned⟩ := exists_of_runCancelled executed
  obtain ⟨snapshot, known⟩ := Option.isSome_iff_exists.mp stored
  obtain ⟨program, found, polls⟩ := pollsFirst_of_unpolled began known fun plan planned => by
    rw [planned] at units
    exact bne_iff_ne.mp units
  have reachable := began.permits fun _ _ _ _ => trivial
  have never := cancelled_neverSucceeds lampModes _ start pool 0 cancelled snapshot program reachable found
    known accepted polls reached
  exact ⟨start, pool, cancelled, reachable, pending, accepted, reached, of_decide_eq_true returned, never.1⟩

/-- The lamp is cancelled after its last poll and succeeds. -/
theorem cancelled_succeeds : initialConfiguration lampModes = .ok ⟨1, initialModes lampModes, ∅⟩ ∧
    ¬ ∀ (start pool : EnginePool) (cancelled : EngineState),
      (machine lampModes).Reaches (fun _ _ => True) (created ⟨1, initialModes lampModes, ∅⟩) start →
      cancel start.shared 1 = .ok cancelled →
      (machine lampModes).Reaches (fun _ _ => True) ⟨cancelled, start.threads⟩ pool →
      ∀ later, pool.shared.transitions.lookup 1 = some later → later.phase ≠ .succeeded := by
  refine ⟨rfl, fun never => ?_⟩
  obtain ⟨start, began, executed⟩ := exists_run lampModes ⟨1, initialModes lampModes, ∅⟩
    (fun _ _ => true) (fun _ _ _ => trivial) ([requestMode 1 2] ++ List.replicate 18 (advance 0))
    (fun start => runCancelled lampModes 1 (List.replicate 10 (advance 0)) (fun pool =>
      (pool.shared.transitions.lookup 1).any fun snapshot => snapshot.phase == .succeeded) start = true)
    (by decide +kernel)
  obtain ⟨cancelled, pool, accepted, reached, ended⟩ := exists_of_runCancelled executed
  obtain ⟨snapshot, stored, succeeded⟩ := (Option.any_eq_true _ _).mp ended
  exact never start pool cancelled began accepted reached snapshot stored (eq_of_beq succeeded)

end OpenVehicle.Exec
