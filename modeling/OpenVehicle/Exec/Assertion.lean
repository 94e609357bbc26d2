/-
This file defines assertions on work trees and proves that the moves of a thread keep them.
An account says what an assertion looks at and how the operations of the thread change it.
-/

import OpenVehicle.Exec.Conformance

namespace OpenVehicle.Exec

open Concurrency FiniteMap

variable {model : ValidatedModel} {op : EngineOp}

/-- The effect of an operation on the engine, given its reply. -/
def effect : (op : EngineOp) → op.Reply → EngineState → EngineState
  | .register transition plan, _, state => ExecutionEngine.register state transition plan
  | .append event, .ok (), state => { state with journal := state.journal ++ [event] }
  | .store transition, _, state =>
      { state with transitions := state.transitions.insert transition.id transition }
  | .enter owner resources, .ok true, state =>
      { state with scheduler := state.scheduler.grant owner resources }
  | .wake owner resources, .ok (), state =>
      { state with scheduler := state.scheduler.grant owner resources }
  | .release owner, _, state => { state with scheduler := state.scheduler.release owner }
  | .eraseRunning unit, _, state =>
      ExecutionEngine.setRunning state (state.configuration.runningUnits.erase unit)
  | .insertRunning unit, _, state =>
      ExecutionEngine.setRunning state (insert unit state.configuration.runningUnits)
  | .commit domain mode, _, state => ExecutionEngine.setCommitted state domain mode
  | _, _, state => state

/-- The effect of an operation on the configuration. -/
def configure : EngineOp → SystemConfiguration → SystemConfiguration
  | .eraseRunning unit, configuration =>
      { configuration with runningUnits := configuration.runningUnits.erase unit }
  | .insertRunning unit, configuration =>
      { configuration with runningUnits := insert unit configuration.runningUnits }
  | .commit domain mode, configuration =>
      { configuration with committedModes := configuration.committedModes.insert domain mode }
  | _, configuration => configuration

theorem configuration_effect (op : EngineOp) (reply : op.Reply) (state : EngineState) :
    (effect op reply state).configuration = configure op state.configuration := by
  cases op with
  | append event => cases reply <;> rfl
  | enter owner resources =>
      rcases reply with _ | granted
      · rfl
      · cases granted <;> rfl
  | wake owner resources => cases reply <;> rfl
  | _ => rfl

/-- What the reply of an operation says about the engine. -/
def Answers (model : ValidatedModel) : (op : EngineOp) → op.Reply → EngineState → Prop
  | .loadPlan transition, reply, state => reply = state.plans.lookup transition
  | .getTransition transition, reply, state =>
      ∀ found, state.transitions.lookup transition = some found → reply = .ok found
  | .enter owner resources, .ok true, state =>
      state.scheduler.leases.lookup owner = none ∧ state.scheduler.admits resources = true
  | .wake _ resources, .ok (), state => state.scheduler.admits resources = true
  | .replan domain target, reply, state =>
      reply = TransitionPlanner.plan model state.configuration domain target
  | .isCancelled transition, reply, state =>
      reply = (state.cancellation.lookup transition).getD false
  | .readConfiguration, reply, state => reply = state.configuration
  | _, _, _ => True

/-- The reply of a performed operation is right and determines its effect. -/
theorem perform_eq_some {input : EngineInput} {state later : EngineState} {reply : op.Reply}
    (performed : ExecutionEngine.perform model op input state = some (reply, later)) :
    Answers model op reply state ∧ later = effect op reply state := by
  cases op with
  | append event =>
      cases input with
      | journal outcome =>
          obtain ⟨rfl, rfl⟩ := Prod.mk.inj (Option.some.inj performed)
          cases outcome <;> exact ⟨trivial, rfl⟩
      | _ => cases performed
  | getTransition transition =>
      cases input with
      | proceed =>
          cases performed
          refine ⟨fun found known => ?_, rfl⟩
          rw [known]
      | _ => cases performed
  | enter owner resources =>
      cases input with
      | proceed =>
          cases performed
          unfold SchedulerState.enter
          split
          · exact ⟨trivial, rfl⟩
          · rename_i absent
            split
            · rename_i admitted
              exact ⟨⟨by simpa using absent, admitted⟩, rfl⟩
            · exact ⟨trivial, rfl⟩
      | _ => cases performed
  | wake owner resources =>
      cases input with
      | clock expired =>
          obtain ⟨⟨answer, scheduler⟩, woken, same⟩ := Option.map_eq_some_iff.mp performed
          obtain ⟨rfl, rfl⟩ := Prod.mk.inj same
          unfold SchedulerState.wake at woken
          split at woken
          · rename_i admitted
            obtain ⟨rfl, rfl⟩ := Prod.mk.inj (Option.some.inj woken)
            exact ⟨admitted, rfl⟩
          · split at woken
            · obtain ⟨rfl, rfl⟩ := Prod.mk.inj (Option.some.inj woken)
              exact ⟨trivial, rfl⟩
            · cases woken
      | _ => cases performed
  | stop unit reason =>
      cases input with
      | backend outcome =>
          cases performed
          exact ⟨trivial, rfl⟩
      | _ => cases performed
  | start unit =>
      cases input with
      | backend outcome =>
          cases performed
          exact ⟨trivial, rfl⟩
      | _ => cases performed
  | expired =>
      cases input with
      | clock expired =>
          cases performed
          exact ⟨trivial, rfl⟩
      | _ => cases performed
  | requestSystemRecovery =>
      cases input with
      | system outcome =>
          cases performed
          exact ⟨trivial, rfl⟩
      | _ => cases performed
  | _ =>
      cases input with
      | proceed =>
          cases performed
          first
            | exact ⟨trivial, rfl⟩
            | exact ⟨rfl, rfl⟩
      | _ => cases performed

/-- An account says what an assertion about a thread requires and looks at. -/
structure Account (V : Type) where
  registered : V → V := id
  loads : JournalEvent → Prop := fun _ => True
  appends : TransitionSnapshot → V → Prop := fun _ _ => True
  appended : TransitionSnapshot → V → V := fun _ view => view
  mayFail : TransitionSnapshot → V → Prop := fun _ _ => True
  refused : TransitionSnapshot → V → V := fun _ view => view
  stores : TransitionSnapshot → V → Prop := fun _ _ => True
  stored : TransitionSnapshot → V → V := fun _ view => view
  lasts : ∀ snapshot view, appends snapshot view → stores snapshot (appended snapshot view) := by
    exact fun _ _ _ => trivial
  touches : ExecutionUnitId → V → Prop := fun _ _ => True
  erases : ExecutionUnitId → V → Prop := fun _ _ => True
  erased : ExecutionUnitId → V → V := fun _ view => view
  inserts : ExecutionUnitId → V → Prop := fun _ _ => True
  inserted : ExecutionUnitId → V → V := fun _ view => view
  commits : ModeId → V → Prop := fun _ _ => True
  committed : ModeId → V → V := fun _ view => view
  opens : V → Prop := fun _ => True
  waits : V → Prop := fun _ => True
  replans : V → Prop := fun _ => True
  reads : DomainDefinition → V → Prop := fun _ _ => True
  finishes : V → Prop := fun _ => True
  excuses : Work → V → Prop := fun _ _ => False

variable {transition : TransitionSnapshot} {phase : TransitionPhase} {mode : Option ModeId}
variable {stopped started : List ExecutionUnitId} {configuration : SystemConfiguration}
variable {replanned : Result TransitionPlan} {start : List ExecutionUnitId} {rest : List ExecutionUnitId}
variable {domain : DomainDefinition} {plan : TransitionPlan} {next : Work}

namespace Account

variable {V : Type} (account : Account V) {work : Work}

/-- The requirements of an account hold on every path of the work that is not excused.
Only the paths after an unfavourable reply are. -/
def Assured : Work → V → Prop
  | .finished, view | .releasing, view => account.finishes view
  | .void, _ => False
  | .registering next, view => Assured next (account.registered view)
  | .recording candidates recorded failed, view => ∀ snapshot, candidates snapshot →
      account.appends snapshot view ∧
      Assured recorded (account.stored snapshot (account.appended snapshot view)) ∧
      (account.mayFail snapshot view →
        account.excuses failed (account.refused snapshot view) ∨ Assured failed (account.refused snapshot view))
  | .appending event recorded failed, view =>
      account.loads event ∧ account.appends event.transition view ∧
      Assured recorded
        (account.stored event.transition (account.appended event.transition view)) ∧
      (account.mayFail event.transition view → account.excuses failed (account.refused event.transition view) ∨
        Assured failed (account.refused event.transition view))
  | .storing snapshot next, view => account.stores snapshot view ∧ Assured next (account.stored snapshot view)
  | .opening, view => account.opens view
  | .entering, view | .waiting, view => account.waits view
  | .replanning, view => account.replans view
  | .polling next cancelled, view =>
      Assured next view ∧ (account.excuses cancelled view ∨ Assured cancelled view)
  | .stopping unit stopped other, view =>
      account.touches unit view ∧ Assured stopped view ∧ (account.excuses other view ∨ Assured other view)
  | .erasing unit next, view => account.erases unit view ∧ Assured next (account.erased unit view)
  | .attempting unit started other, view =>
      account.touches unit view ∧ Assured started view ∧ (account.excuses other view ∨ Assured other view)
  | .inserting unit next, view =>
      account.inserts unit view ∧ Assured next (account.inserted unit view)
  | .committing mode next, view =>
      account.commits mode view ∧ Assured next (account.committed mode view)
  | .reading domain, view => account.reads domain view
  | .requesting accepted refused, view =>
      Assured accepted view ∧ Assured refused view

/-- The work is excused or meets the account. -/
def Excused (work : Work) (view : V) : Prop := account.excuses work view ∨ account.Assured work view

/-- What the account requires of an operation. -/
def Requires : EngineOp → V → Prop
  | .append event, view => account.loads event ∧ account.appends event.transition view
  | .store snapshot, view => account.stores snapshot view
  | .stop unit _, view | .start unit, view => account.touches unit view
  | .eraseRunning unit, view => account.erases unit view
  | .insertRunning unit, view => account.inserts unit view
  | .commit _ mode, view => account.commits mode view
  | .replan _ _, view => account.replans view
  | .readConfiguration, view => ∃ domain, account.reads domain view
  | _, _ => True

/-- What the account sees after an operation. -/
def after : (op : EngineOp) → op.Reply → V → V
  | .register _ _, _, view => account.registered view
  | .append event, .ok (), view => account.appended event.transition view
  | .append event, .error _, view => account.refused event.transition view
  | .store snapshot, _, view => account.stored snapshot view
  | .eraseRunning unit, _, view => account.erased unit view
  | .insertRunning unit, _, view => account.inserted unit view
  | .commit _ mode, _, view => account.committed mode view
  | _, _, view => view

/-- The decisions of a thread lead to work with a property. -/
structure Supports (goal : Work → V → Prop) (model : ValidatedModel) (transition : TransitionSnapshot)
    (plan : Option TransitionPlan) (op : EngineOp) (state : EngineState) (view : V) : Prop where
  loaded : ∀ snapshot, Kin transition snapshot → op = .loadPlan snapshot.id →
    account.loads ⟨snapshot, model.value.generation, state.plans.lookup snapshot.id⟩
  opened : ∀ accepted, plan = some accepted → account.opens view →
    goal (Work.request transition accepted) view
  refused : account.waits view → account.Excused (Work.failing transition .finished) view
  confirmed : ∀ accepted, plan = some accepted →
    op = .replan transition.domain transition.targetMode → account.replans view →
    goal (Work.confirm model transition accepted (TransitionPlanner.plan model
      state.configuration transition.domain transition.targetMode)) view
  repaired : ∀ domain, op = .readConfiguration → account.reads domain view →
    goal (Work.repair model transition domain state.configuration) view

/-- The decisions of a thread lead to work that meets the account. -/
abbrev Sustains (model : ValidatedModel) (transition : TransitionSnapshot) (plan : Option TransitionPlan)
    (op : EngineOp) (state : EngineState) (view : V) : Prop :=
  account.Supports account.Assured model transition plan op state view

variable {account} {position later : Position} {state : EngineState}
variable {view : V} {reply : op.Reply}

/-- A thread meets the requirement of the operation that it calls. -/
theorem Assured.requires (rule : Rule model position op reply later)
    (assured : account.Assured position.work view) : account.Requires op view := by
  cases rule with
  | move position moves =>
      cases moves with
      | append => exact ⟨assured.1, assured.2.1⟩
      | appendFailed => exact ⟨assured.1, assured.2.1⟩
      | store => exact assured.1
      | stop => exact assured.1
      | erase => exact assured.1
      | insert => exact assured.1
      | commit => exact assured.1
      | attempt _ _ _ attempted =>
          rcases attempted with rfl | rfl | ⟨reason, rfl⟩
          · trivial
          · exact assured.1
          · exact assured.1
      | attemptFailed _ _ _ attempted =>
          rcases attempted with rfl | rfl | ⟨reason, rfl⟩
          · trivial
          · exact assured.1
          · exact assured.1
      | attemptStarted => exact assured.1
      | replan => exact assured
      | read domain => exact ⟨domain, assured⟩
      | void => exact assured.elim
      | _ => trivial
  | _ => trivial

/-- The attempts to start a unit change nothing that an account looks at. -/
theorem after_attempt {unit : ExecutionUnitId} (attempted : AttemptOp unit op) :
    account.after op reply view = view := by
  rcases attempted with rfl | rfl | ⟨reason, rfl⟩ <;> rfl

/-- What a thread needs for a step with a property. -/
structure Steps (account : Account V) (goal : Work → V → Prop) (op : EngineOp) (reply : op.Reply)
    (view : V) : Prop where
  kept : ∀ work view, account.Assured work view → goal work view
  excused : ¬ Favourable op reply → ∀ work view, account.excuses work view → goal work view
  permitted : ∀ event error, (⟨op, reply⟩ : (op : EngineOp) × op.Reply) =
    ⟨.append event, .error error⟩ → account.mayFail event.transition view

variable {goal : Work → V → Prop}

theorem Steps.of_excused (steps : Steps account goal op reply view)
    (refused : ¬ Favourable op reply) {view : V} (excused : account.Excused work view) : goal work view :=
  excused.elim (steps.excused refused work view) (steps.kept work view)

/-- A move of the thread leads to work with a property. -/
theorem Assured.move {plan : Option TransitionPlan}
    (moves : Moves model transition plan work op reply next) (answers : Answers model op reply state)
    (supports : account.Supports goal model transition plan op state view)
    (known : work = .opening → state.transitions.lookup transition.id = some { transition with phase := .planned })
    (steps : Steps account goal op reply view) (assured : account.Assured work view) :
    goal next (account.after op reply view) := by
  cases moves with
  | void => exact assured.elim
  | load snapshot found candidate kin =>
      obtain rfl := answers
      exact steps.kept _ _ ⟨supports.loaded snapshot kin rfl, assured snapshot candidate⟩
  | append => exact steps.kept _ _ ⟨account.lasts _ _ assured.2.1, assured.2.2.1⟩
  | appendFailed event _ _ error =>
      exact steps.of_excused (by simp [Favourable]) (assured.2.2.2 (steps.permitted event error rfl))
  | store => exact steps.kept _ _ assured.2
  | opened plan planned => exact supports.opened plan planned assured
  | stray reply other => exact absurd (answers _ (known rfl)) other
  | enterBlocked => exact steps.kept _ _ assured
  | enterRefused => exact steps.of_excused (by simp [Favourable]) (supports.refused assured)
  | wakeRefused => exact steps.of_excused (by simp [Favourable]) (supports.refused assured)
  | replan plan planned reply =>
      obtain rfl := answers
      exact supports.confirmed plan planned rfl assured
  | poll next reply =>
      cases reply with
      | true => exact steps.of_excused (by simp [Favourable]) assured.2
      | false => exact steps.kept _ _ assured.1
  | stop unit reason stopped other reply =>
      show goal (if hasStopped reply = true then stopped else other) view
      split
      · exact steps.kept _ _ assured.2.1
      · rename_i running
        exact steps.of_excused running assured.2.2
  | erase => exact steps.kept _ _ assured.2
  | attempt _ _ _ attempted =>
      rw [after_attempt attempted]
      exact steps.kept _ _ assured
  | attemptFailed _ _ _ attempted refused =>
      rw [after_attempt attempted]
      exact steps.of_excused refused assured.2.2
  | attemptStarted => exact steps.kept _ _ assured.2.1
  | insert => exact steps.kept _ _ assured.2
  | commit => exact steps.kept _ _ assured.2
  | read domain configuration =>
      obtain rfl := answers
      exact supports.repaired domain rfl assured
  | accepted => exact steps.kept _ _ assured.1
  | refused => exact steps.kept _ _ assured.2

/-- A step of the thread leads to work with a property. -/
theorem Assured.advance (rule : Rule model position op reply later) (answers : Answers model op reply state)
    (supports : account.Supports goal model position.transition position.plan op state view)
    (granted : account.waits view → account.replans view)
    (known : position.work = .opening → state.transitions.lookup position.transition.id =
      some { position.transition with phase := .planned }) (steps : Steps account goal op reply view)
    (assured : account.Assured position.work view) : goal later.work (account.after op reply view) := by
  cases rule with
  | register => exact steps.kept _ _ assured
  | enterGranted => exact steps.kept _ _ (granted assured)
  | wakeGranted => exact steps.kept _ _ (granted assured)
  | release => exact steps.kept _ _ assured
  | move position moves => exact Assured.move moves answers supports known steps assured

/-- A step of the thread keeps its assertion if nothing is excused. -/
theorem Assured.step (rule : Rule model position op reply later) (answers : Answers model op reply state)
    (supports : account.Sustains model position.transition position.plan op state view)
    (granted : account.waits view → account.replans view)
    (known : position.work = .opening → state.transitions.lookup position.transition.id =
      some { position.transition with phase := .planned })
    (permitted : ∀ event error, (⟨op, reply⟩ : (op : EngineOp) × op.Reply) =
      ⟨.append event, .error error⟩ → account.mayFail event.transition view)
    (strict : ∀ work view, ¬ account.excuses work view) (assured : account.Assured position.work view) :
    account.Assured later.work (account.after op reply view) :=
  assured.advance rule answers supports granted known
    ⟨fun _ _ kept => kept, fun _ work view excused => absurd excused (strict work view), permitted⟩

/-- One account implies another if it requires more and sees the same. -/
structure Implies (first second : Account V) : Prop where
  registered : first.registered = second.registered
  appended : first.appended = second.appended
  refused : first.refused = second.refused
  stored : first.stored = second.stored
  erased : first.erased = second.erased
  inserted : first.inserted = second.inserted
  committed : first.committed = second.committed
  loads : ∀ event, first.loads event → second.loads event
  appends : ∀ snapshot view, first.appends snapshot view → second.appends snapshot view
  mayFail : ∀ snapshot view, second.mayFail snapshot view → first.mayFail snapshot view
  stores : ∀ snapshot view, first.stores snapshot view → second.stores snapshot view
  touches : ∀ unit view, first.touches unit view → second.touches unit view
  erases : ∀ unit view, first.erases unit view → second.erases unit view
  inserts : ∀ unit view, first.inserts unit view → second.inserts unit view
  commits : ∀ mode view, first.commits mode view → second.commits mode view
  opens : ∀ view, first.opens view → second.opens view
  waits : ∀ view, first.waits view → second.waits view
  replans : ∀ view, first.replans view → second.replans view
  reads : ∀ domain view, first.reads domain view → second.reads domain view
  finishes : ∀ view, first.finishes view → second.finishes view
  excuses : ∀ work view, first.excuses work view → second.excuses work view

theorem Assured.mono {second : Account V} (implies : account.Implies second) (assured : account.Assured work view) :
    second.Assured work view := by
  induction work generalizing view with
  | finished => exact implies.finishes view assured
  | releasing => exact implies.finishes view assured
  | void => exact assured
  | registering next ih => exact ih (implies.registered ▸ assured)
  | recording candidates recorded failed recordedIh failedIh =>
      intro snapshot candidate
      obtain ⟨appends, next, other⟩ := assured snapshot candidate
      rw [implies.appended, implies.stored] at next
      rw [implies.refused] at other
      exact ⟨implies.appends _ _ appends, recordedIh next, fun failable =>
        (other (implies.mayFail _ _ failable)).imp (implies.excuses _ _) failedIh⟩
  | appending event recorded failed recordedIh failedIh =>
      obtain ⟨loads, appends, next, other⟩ := assured
      rw [implies.appended, implies.stored] at next
      rw [implies.refused] at other
      exact ⟨implies.loads _ loads, implies.appends _ _ appends, recordedIh next, fun failable =>
        (other (implies.mayFail _ _ failable)).imp (implies.excuses _ _) failedIh⟩
  | storing snapshot next ih => exact ⟨implies.stores _ _ assured.1, ih (implies.stored ▸ assured.2)⟩
  | opening => exact implies.opens view assured
  | entering => exact implies.waits view assured
  | waiting => exact implies.waits view assured
  | replanning => exact implies.replans view assured
  | polling next cancelled nextIh cancelledIh =>
      exact ⟨nextIh assured.1, assured.2.imp (implies.excuses _ _) cancelledIh⟩
  | stopping unit stopped other stoppedIh otherIh =>
      exact ⟨implies.touches _ _ assured.1, stoppedIh assured.2.1, assured.2.2.imp (implies.excuses _ _) otherIh⟩
  | erasing unit next ih => exact ⟨implies.erases _ _ assured.1, ih (implies.erased ▸ assured.2)⟩
  | attempting unit started other startedIh otherIh =>
      exact ⟨implies.touches _ _ assured.1, startedIh assured.2.1, assured.2.2.imp (implies.excuses _ _) otherIh⟩
  | inserting unit next ih => exact ⟨implies.inserts _ _ assured.1, ih (implies.inserted ▸ assured.2)⟩
  | committing mode next ih => exact ⟨implies.commits _ _ assured.1, ih (implies.committed ▸ assured.2)⟩
  | reading domain => exact implies.reads domain view assured
  | requesting accepted refused acceptedIh refusedIh =>
      exact ⟨acceptedIh assured.1, refusedIh assured.2⟩

section Loops

/-- An invariant of the stop loop assures the loop. -/
theorem assured_stops {start rest : List ExecutionUnitId} (invariant : List ExecutionUnitId → V → Prop)
    (step : ∀ unit rest view, invariant (unit :: rest) view → account.touches unit view ∧ account.erases unit view ∧
      invariant rest (account.erased unit view) ∧ account.Excused (Work.recovering model transition) view ∧
      account.Excused (Work.failing transition Work.exit) view)
    (last : ∀ view, invariant [] view → account.Assured (Work.beginStarts model transition start) view)
    (initial : invariant rest view) : account.Assured (Work.stops model transition start rest) view := by
  induction rest generalizing view with
  | nil => exact last view initial
  | cons unit rest ih =>
      obtain ⟨touches, erases, kept, recovers, fails⟩ := step unit rest view initial
      exact ⟨⟨touches, ⟨erases, ih kept⟩, recovers⟩, fails⟩

/-- An invariant of the start loop assures the loop. -/
theorem assured_starts (invariant : List ExecutionUnitId → V → Prop)
    (step : ∀ unit rest view, invariant (unit :: rest) view → account.touches unit view ∧ account.inserts unit view ∧
      invariant rest (account.inserted unit view) ∧ account.Excused (Work.recovering model transition) view ∧
      account.Excused (Work.failing transition Work.exit) view)
    (last : ∀ view, invariant [] view → account.Assured (Work.commit transition) view) (initial : invariant rest view) :
    account.Assured (Work.starts model transition rest) view := by
  induction rest generalizing view with
  | nil => exact last view initial
  | cons unit rest ih =>
      obtain ⟨touches, inserts, kept, recovers, fails⟩ := step unit rest view initial
      exact ⟨⟨touches, ⟨inserts, ih kept⟩, recovers⟩, fails⟩

variable (invariant : List ExecutionUnitId → List ExecutionUnitId → V → Prop)
include invariant

/-- An invariant of the second recovery loop assures the loop. -/
theorem assured_repairStarts {stopped rest started : List ExecutionUnitId}
    (step : ∀ unit rest started view, invariant (unit :: rest) started view →
      account.touches unit view ∧ account.inserts unit view ∧
      invariant rest (started ++ [unit]) (account.inserted unit view) ∧
      account.Excused (Work.repaired transition .recoveryFailed stopped started none) view)
    (last : ∀ started view, invariant [] started view →
      account.Assured (Work.repairStarts transition mode stopped [] started) view)
    (initial : invariant rest started view) :
    account.Assured (Work.repairStarts transition mode stopped rest started) view := by
  induction rest generalizing started view with
  | nil => exact last started view initial
  | cons unit rest ih =>
      obtain ⟨touches, inserts, kept, fails⟩ := step unit rest started view initial
      exact ⟨touches, ⟨inserts, ih kept⟩, fails⟩

/-- An invariant of the first recovery loop assures the loop. -/
theorem assured_repairStops {starts rest stopped : List ExecutionUnitId}
    (step : ∀ unit rest stopped view, invariant (unit :: rest) stopped view →
      account.touches unit view ∧ account.erases unit view ∧
      invariant rest (stopped ++ [unit]) (account.erased unit view) ∧
      account.Excused (Work.repaired transition .recoveryFailed stopped [] none) view)
    (last : ∀ stopped view, invariant [] stopped view →
      account.Assured (Work.repairStarts transition mode stopped starts []) view)
    (initial : invariant rest stopped view) :
    account.Assured (Work.repairStops transition mode starts rest stopped) view := by
  induction rest generalizing stopped view with
  | nil => exact last stopped view initial
  | cons unit rest ih =>
      obtain ⟨touches, erases, kept, fails⟩ := step unit rest stopped view initial
      exact ⟨touches, ⟨erases, ih kept⟩, fails⟩

end Loops

/-- Invariants of the stop loop and of the start loop carry an account through a confirmed plan. -/
structure Carries (account : Account V) (model : ValidatedModel) (transition : TransitionSnapshot)
    (plan : TransitionPlan) (loop : Bool → List ExecutionUnitId → V → Prop) : Prop where
  records : ∀ starting rest phase view, phase.isTerminal = false → loop starting rest view →
    account.appends { transition with phase := phase } view ∧ loop starting rest
      (account.stored { transition with phase := phase } (account.appended { transition with phase := phase } view)) ∧
      loop starting rest (account.refused { transition with phase := phase } view)
  leaves : ∀ starting rest view, loop starting rest view →
    account.Excused (Work.recovering model transition) view ∧
      account.Excused (Work.failing transition Work.exit) view
  stops : ∀ unit rest view, loop false (unit :: rest) view →
    account.touches unit view ∧ account.erases unit view ∧ loop false rest (account.erased unit view)
  turns : ∀ view, loop false [] view → loop true plan.start view
  starts : ∀ unit rest view, loop true (unit :: rest) view →
    account.touches unit view ∧ account.inserts unit view ∧ loop true rest (account.inserted unit view)
  commits : ∀ view, loop true [] view → account.Assured (.committing transition.targetMode
    (Work.recordPhase transition .succeeded Work.exit Work.exit)) view

namespace Carries
variable {loop : Bool → List ExecutionUnitId → V → Prop} (carries : account.Carries model transition plan loop)
include carries

theorem recordPhase {starting : Bool} (live : phase.isTerminal = false) (held : loop starting rest view)
    (assured : ∀ view, loop starting rest view → account.Assured next view) :
    account.Assured (Work.recordPhase transition phase next Work.exit) view := by
  rintro snapshot rfl
  obtain ⟨appends, kept, refused⟩ := carries.records starting rest phase view live held
  exact ⟨appends, assured _ kept, fun _ => (carries.leaves starting rest _ refused).2⟩

theorem startLoop (held : loop true rest view) : account.Assured (Work.starts model transition rest) view := by
  refine assured_starts (loop true) ?_ ?_ held
  · intro unit rest view held
    obtain ⟨touches, inserts, next⟩ := carries.starts unit rest view held
    exact ⟨touches, inserts, next, carries.leaves _ _ view held⟩
  · exact fun view held => carries.recordPhase rfl held carries.commits

theorem beginStarts (held : loop true plan.start view) :
    account.Assured (Work.beginStarts model transition plan.start) view := by
  unfold Work.beginStarts
  split
  · exact carries.startLoop held
  · refine carries.recordPhase rfl held fun view held => ?_
    split
    · exact carries.recordPhase rfl held fun view held => carries.startLoop held
    · exact carries.startLoop held

/-- A confirmed plan is executed between the invariant of its first loop and the commit. -/
theorem execute (held : loop false plan.stop view) : account.Assured (Work.execute model transition plan) view := by
  unfold Work.execute
  split
  · rename_i empty
    rw [List.isEmpty_iff.mp empty] at held
    exact carries.beginStarts (carries.turns view held)
  · refine carries.recordPhase rfl held fun view held => ?_
    refine assured_stops (loop false) ?_ (fun view held => carries.beginStarts (carries.turns view held)) held
    intro unit rest view held
    obtain ⟨touches, erases, next⟩ := carries.stops unit rest view held
    exact ⟨touches, erases, next, carries.leaves _ _ view held⟩

end Carries

/-- A silent account looks at neither the journal nor the stored snapshots. -/
structure Silent (account : Account V) : Prop where
  appends : ∀ snapshot view, account.appends snapshot view
  appended : ∀ snapshot view, account.appended snapshot view = view
  refused : ∀ snapshot view, account.refused snapshot view = view
  stored : ∀ snapshot view, account.stored snapshot view = view
  finishes : ∀ view, account.finishes view

namespace Silent
variable (silent : account.Silent)
include silent

theorem recording {candidates : TransitionSnapshot → Prop} {recorded failed : Work}
    (next : account.Assured recorded view) (other : account.Assured failed view) :
    account.Assured (.recording candidates recorded failed) view := by
  intro snapshot _
  refine ⟨silent.appends snapshot view, ?_, fun _ => .inr ?_⟩
  · rw [silent.appended, silent.stored]
    exact next
  · rw [silent.refused]
    exact other

theorem exit : account.Assured Work.exit view := silent.finishes view

theorem failing : account.Assured (Work.failing transition Work.exit) view := silent.recording silent.exit silent.exit

theorem rejected : account.Assured (Work.failing transition .finished) view :=
  silent.recording (silent.finishes view) (silent.finishes view)

theorem repaired : account.Assured (Work.repaired transition phase stopped started mode) view :=
  silent.recording silent.exit silent.exit

theorem recovering (reads : ∀ domain, model.findDomain transition.domain = some domain → account.reads domain view) :
    account.Assured (Work.recovering model transition) view := by
  unfold Work.recovering
  cases found : model.findDomain transition.domain with
  | none => exact silent.failing
  | some domain =>
      simp only
      split
      · exact silent.failing
      · refine silent.recording ?_ silent.failing
        unfold Work.recovery
        cases domain.recovery.action with
        | enterFallbackMode => exact reads domain found
        | stopDomain => exact reads domain found
        | requestSystemRecovery => exact ⟨silent.repaired, silent.repaired⟩
        | holdObservedConfiguration => exact silent.repaired
        | rollbackIfDeclaredSafe => exact silent.repaired

/-- A silent account keeps the invariants of the loops while phases are recorded. -/
theorem carries {loop : Bool → List ExecutionUnitId → V → Prop}
    (reads : ∀ domain starting rest view, model.findDomain transition.domain = some domain →
      loop starting rest view → account.reads domain view) (stops : ∀ unit rest view, loop false (unit :: rest) view →
      account.touches unit view ∧ account.erases unit view ∧ loop false rest (account.erased unit view))
    (turns : ∀ view, loop false [] view → loop true plan.start view)
    (starts : ∀ unit rest view, loop true (unit :: rest) view →
      account.touches unit view ∧ account.inserts unit view ∧ loop true rest (account.inserted unit view))
    (commits : ∀ view, loop true [] view → account.commits transition.targetMode view) :
    account.Carries model transition plan loop where
  records := by
    intro starting rest phase view _ held
    rw [silent.appended, silent.stored, silent.refused]
    exact ⟨silent.appends _ view, held, held⟩
  leaves := fun starting rest view held =>
    ⟨.inr (silent.recovering fun domain found => reads domain starting rest view found held), .inr silent.failing⟩
  stops := stops
  turns := turns
  starts := starts
  commits := fun view held => ⟨commits view held, silent.recording silent.exit silent.failing⟩

theorem request (waits : account.waits view) : account.Assured (Work.request transition plan) view := by
  unfold Work.request
  split
  · exact silent.rejected
  · exact waits

/-- The second plan is confirmed only if it stops and starts the same units. -/
theorem confirm (assured : ∀ second, replanned = .ok second → second.start = plan.start →
      second.stop = plan.stop → account.Assured (Work.execute model transition plan) view) :
    account.Assured (Work.confirm model transition plan replanned) view := by
  unfold Work.confirm
  split
  · exact silent.failing
  · rename_i second
    split
    · exact silent.failing
    · rename_i same
      rw [not_or, not_not, not_not] at same
      exact assured second rfl same.1 same.2

theorem accept {plan : Option TransitionPlan} (opens : account.opens (account.registered view)) :
    account.Assured (Work.accept transition plan) view := by
  cases plan with
  | none => exact silent.rejected
  | some plan => exact silent.recording (silent.recording opens silent.rejected) silent.rejected

/-- A recovery plan is assured by invariants of its two loops. -/
theorem repair (fallback : ∀ plan, domain.recovery.action = .enterFallbackMode →
      TransitionPlanner.reconcile model configuration domain.id domain.recovery.fallbackMode = .ok plan →
      account.Assured (Work.repairStops transition (some domain.recovery.fallbackMode) plan.start plan.stop []) view)
    (stop : ∀ stopped, domain.recovery.action ≠ .enterFallbackMode →
      TransitionPlanner.stopDomainUnits model configuration domain.id = .ok stopped →
      account.Assured (Work.repairStops transition none [] stopped []) view) :
    account.Assured (Work.repair model transition domain configuration) view := by
  unfold Work.repair
  split
  · rename_i action
    split
    · exact silent.repaired
    · rename_i plan planned
      exact fallback plan action planned
  · rename_i action
    split
    · exact silent.repaired
    · rename_i stopped planned
      exact stop stopped action planned

end Silent

/-- A snapshot that records neither a success nor a recovered mode. -/
structure Plain (transition snapshot : TransitionSnapshot) : Prop where
  kin : Kin transition snapshot
  unsuccessful : snapshot.phase ≠ .succeeded
  unrecovered : snapshot.failure.bind (·.recoveredMode) = none

/-- A property of the view that lasts while a thread fails or recovers, until the journal is asked to close it. -/
structure Recoverable (account : Account V) (model : ValidatedModel) (transition : TransitionSnapshot)
    (holds : V → Prop) : Prop where
  records : ∀ snapshot view, Plain transition snapshot → snapshot.phase.isTerminal = false → holds view →
    account.appends snapshot view ∧ holds (account.stored snapshot (account.appended snapshot view)) ∧
      holds (account.refused snapshot view)
  closes : ∀ snapshot view, Plain transition snapshot → snapshot.phase.isTerminal = true → holds view →
    account.appends snapshot view ∧ account.finishes (account.stored snapshot (account.appended snapshot view)) ∧
      account.finishes (account.refused snapshot view)
  stops : ∀ unit view, holds view →
    account.touches unit view ∧ account.erases unit view ∧ holds (account.erased unit view)
  starts : ∀ unit view, holds view →
    account.touches unit view ∧ account.inserts unit view ∧ holds (account.inserted unit view)
  reads : ∀ domain view, model.findDomain transition.domain = some domain → holds view →
    account.reads domain view
  recovers : ∀ domain stopped started view, model.findDomain transition.domain = some domain →
    holds view → account.Assured (.committing domain.recovery.fallbackMode
      (Work.repaired transition .failed stopped started (some domain.recovery.fallbackMode))) view

namespace Recoverable
variable {holds : V → Prop}

theorem plain_ended {snapshot : TransitionSnapshot} (ended : Work.Ended transition phase stopped started none snapshot)
    (other : phase ≠ .succeeded) : Plain transition snapshot := by
  obtain ⟨failure, reports, rfl⟩ := ended
  exact ⟨⟨rfl, rfl, rfl, rfl⟩, other, reports.mode⟩

variable (recoverable : account.Recoverable model transition holds)
include recoverable

/-- A closing record ends the work, whether the journal accepts it or not. -/
theorem closing {snapshot : TransitionSnapshot} {after : Work} (ends : after = .finished ∨ after = .releasing)
    (ended : Work.Ended transition phase stopped started none snapshot) (terminal : phase.isTerminal = true)
    (other : phase ≠ .succeeded) (held : holds view) : account.appends snapshot view ∧
      account.Assured after (account.stored snapshot (account.appended snapshot view)) ∧
      (account.mayFail snapshot view → account.Excused after (account.refused snapshot view)) := by
  have plain := plain_ended ended other
  obtain ⟨failure, _, rfl⟩ := ended
  obtain ⟨appends, next, refused⟩ := recoverable.closes _ view plain terminal held
  rcases ends with rfl | rfl
  · exact ⟨appends, next, fun _ => .inr refused⟩
  · exact ⟨appends, next, fun _ => .inr refused⟩

theorem repaired (terminal : phase.isTerminal = true) (other : phase ≠ .succeeded) (held : holds view) :
    account.Assured (Work.repaired transition phase stopped started none) view :=
  fun _ ended => recoverable.closing (.inr rfl) ended terminal other held

theorem failing {after : Work} (ends : after = .finished ∨ after = .releasing) (held : holds view) :
    account.Assured (Work.failing transition after) view := by
  rintro snapshot ⟨code, ended⟩
  exact recoverable.closing ends ended (terminalPhase_isTerminal code) (terminalPhase_ne_succeeded code) held

theorem recovering (held : holds view) : account.Assured (Work.recovering model transition) view := by
  unfold Work.recovering
  cases found : model.findDomain transition.domain with
  | none => exact recoverable.failing (.inr rfl) held
  | some domain =>
      simp only
      split
      · exact recoverable.failing (.inr rfl) held
      · intro snapshot ended
        have plain := plain_ended ended (by decide)
        obtain ⟨failure, _, rfl⟩ := ended
        obtain ⟨appends, next, refused⟩ := recoverable.records _ view plain rfl held
        refine ⟨appends, ?_, fun _ => .inr (recoverable.failing (.inr rfl) refused)⟩
        unfold Work.recovery
        cases domain.recovery.action with
        | enterFallbackMode => exact recoverable.reads domain _ found next
        | stopDomain => exact recoverable.reads domain _ found next
        | requestSystemRecovery =>
            exact ⟨recoverable.repaired rfl (by decide) next, recoverable.repaired rfl (by decide) next⟩
        | holdObservedConfiguration => exact recoverable.repaired rfl (by decide) next
        | rollbackIfDeclaredSafe => exact recoverable.repaired rfl (by decide) next

variable (found : model.findDomain transition.domain = some domain)
include found

theorem repairStops {start stop : List ExecutionUnitId}
    (fallback : ∀ recovered, mode = some recovered → recovered = domain.recovery.fallbackMode) (held : holds view) :
    account.Assured (Work.repairStops transition mode start stop []) view := by
  refine assured_repairStops (fun _ _ => holds) ?_ ?_ held
  · intro unit rest stopped view held
    obtain ⟨touches, erases, next⟩ := recoverable.stops unit view held
    exact ⟨touches, erases, next, .inr (recoverable.repaired rfl (by decide) held)⟩
  · intro stopped view held
    refine assured_repairStarts (fun _ _ => holds) ?_ ?_ held
    · intro unit rest started view held
      obtain ⟨touches, inserts, next⟩ := recoverable.starts unit view held
      exact ⟨touches, inserts, next, .inr (recoverable.repaired rfl (by decide) held)⟩
    · intro started view held
      cases mode with
      | none => exact recoverable.repaired rfl (by decide) held
      | some mode =>
          obtain rfl := fallback mode rfl
          exact recoverable.recovers domain stopped started view found held

theorem repair (held : holds view) : account.Assured (Work.repair model transition domain configuration) view := by
  unfold Work.repair
  split
  · split
    · exact recoverable.repaired rfl (by decide) held
    · exact recoverable.repairStops found (fun _ chosen => (Option.some.inj chosen).symm) held
  · split
    · exact recoverable.repaired rfl (by decide) held
    · exact recoverable.repairStops found (by simp) held

end Recoverable

/-- A property of the view that lasts until the thread commits a mode. -/
structure Steady (account : Account V) (model : ValidatedModel) (transition : TransitionSnapshot)
    (holds : V → Prop) : Prop extends Recoverable account model transition holds where
  unfailed : transition.failure = none
  commits : ∀ view, holds view → account.Assured (.committing transition.targetMode
    (Work.recordPhase transition .succeeded Work.exit Work.exit)) view

namespace Steady
variable {holds : V → Prop}
variable (steady : account.Steady model transition holds)
include steady

theorem carries : account.Carries model transition plan fun _ _ => holds where
  records := fun _ _ phase view live held => steady.records { transition with phase := phase } view
    ⟨⟨rfl, rfl, rfl, rfl⟩, TransitionPhase.ne_succeeded live, by rw [steady.unfailed]; rfl⟩ live held
  leaves := fun _ _ _ held => ⟨.inr (steady.recovering held), .inr (steady.failing (.inr rfl) held)⟩
  stops := fun unit _ => steady.stops unit
  turns := fun _ held => held
  starts := fun unit _ => steady.starts unit
  commits := steady.commits

theorem confirm (held : holds view) : account.Assured (Work.confirm model transition plan replanned) view := by
  unfold Work.confirm
  split
  · exact steady.failing (.inr rfl) held
  · split
    · exact steady.failing (.inr rfl) held
    · exact steady.carries.execute held

end Steady

end Account

end OpenVehicle.Exec
