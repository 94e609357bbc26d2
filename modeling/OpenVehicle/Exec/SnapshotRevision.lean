/-
This file relates the snapshots of the coordinator to its events. A snapshot copies the engine
first and reads the revision of the service afterwards, under another mutex.
-/

import OpenVehicle.Exec.Replacement

namespace OpenVehicle.Exec.Coordinator

open Concurrency FiniteMap ExecutionEngine TransitionPlanner

/-- The actions that emit events and increase the revision. -/
def announces : Action → Bool
  | .enqueue | .finish _ => true
  | _ => false

/-- The engine shows the transition of an event as the event announced it, or later.
A terminal phase that was announced is shown. -/
structure Reflects (model : ValidatedModel) (announcement : Announcement) (pool : EnginePool) : Prop where
  later : (machine model).Reaches (fun _ _ => True) announcement.engine pool
  transition : ∃ announced shown,
    announcement.engine.shared.transitions.lookup announcement.event.transition = some announced ∧
    pool.shared.transitions.lookup announcement.event.transition = some shown ∧
    announced.domain = announcement.event.domain ∧ Kin announced shown ∧
    (announced.phase.isTerminal = true → shown = announced)

variable {configuration : SystemConfiguration} {model : ValidatedModel} {positions : Nat → Position} {index : Nat}

section Engine
variable {start pool later : EnginePool}
variable {choice : EngineChoice}

/-- A thread that has returned does not move any more. -/
theorem returned_fire (fired : (machine model).fire pool choice = some later)
    (inside : index < pool.threads.length) (returned : pool.pending index = none) : later.pending index = none := by
  cases choice with
  | thread moving input =>
      by_cases own : index = moving
      · obtain ⟨op, next, reply, shared, found, _, _⟩ := Machine.fire_thread_eq_some fired
        rw [own, pending_of_getElem? found] at returned
        cases returned
      · rw [(pending_fire fired).2 index own]
        exact returned
  | event event =>
      cases event with
      | request baseline domain target =>
          rw [(pending_request fired).2 index (by omega)]
          exact returned
      | cancel id =>
          obtain ⟨shared, started, occurred, rfl⟩ := Machine.fire_event_eq_some fired
          obtain ⟨rfl, _⟩ := occur_cancel occurred
          simpa [Pool.pending] using returned

theorem length_fire (fired : (machine model).fire pool choice = some later) :
    pool.threads.length ≤ later.threads.length := by
  cases choice with
  | thread moving input => exact (pending_fire fired).1.ge
  | event event =>
      obtain ⟨shared, started, _, rfl⟩ := Machine.fire_event_eq_some fired
      rw [List.length_append]
      exact Nat.le_add_right _ _

/-- A thread that has returned keeps its stored snapshot. -/
theorem stored_fire (sound : Sound model pool positions) (fired : (machine model).fire pool choice = some later)
    (returned : pool.pending index = none) :
    later.shared.transitions.lookup (index + 1) = pool.shared.transitions.lookup (index + 1) := by
  cases choice with
  | thread moving input =>
      obtain ⟨op, next, reply, shared, found, performed, rfl⟩ := Machine.fire_thread_eq_some fired
      obtain ⟨_, rfl⟩ := perform_eq_some performed
      have pending := pending_of_getElem? found
      have owned := sound.owned moving (List.getElem?_eq_some_iff.mp found).1
      obtain ⟨_, _, rule⟩ := sound.rule_of_pending pending reply
      apply (owned.others rule ?_).transitions
      intro same
      rw [← Nat.succ.inj same, returned] at pending
      cases pending
  | event event => rw [transitions_event fired]

variable {snapshot : TransitionSnapshot}

/-- The engine keeps showing a transition. -/
theorem known_fire (sound : Sound model pool positions) (fired : (machine model).fire pool choice = some later)
    (inside : index < pool.threads.length) (stored : pool.shared.transitions.lookup (index + 1) = some snapshot) :
    ∃ shown, later.shared.transitions.lookup (index + 1) = some shown ∧ Kin snapshot shown := by
  have kept : ∃ shown, later.shared.transitions.lookup (index + 1) = some shown := by
    cases choice with
    | thread moving input =>
        obtain ⟨op, next, reply, shared, _, performed, rfl⟩ := Machine.fire_thread_eq_some fired
        obtain ⟨_, rfl⟩ := perform_eq_some performed
        rcases transitions_effect reply stored with same | ⟨shown, _, replaced⟩
        · exact ⟨snapshot, same⟩
        · exact ⟨shown, replaced⟩
    | event event =>
        refine ⟨snapshot, ?_⟩
        rw [transitions_event fired]
        exact stored
  obtain ⟨shown, found⟩ := kept
  obtain ⟨next, moved, advances⟩ := sound.fire fired
  have before := kin_of_stored sound inside stored
  have after := kin_of_stored moved (inside.trans_le (length_fire fired)) found
  rw [advances_transition advances inside] at after
  exact ⟨shown, found, before.symm.trans after⟩

/-- What the engine shows of a transition later in a run. -/
theorem shown_reaches (began : (machine model).Reaches (fun _ _ => True) (created configuration) start)
    (reached : (machine model).Reaches (fun _ _ => True) start pool) (inside : index < start.threads.length)
    (stored : start.shared.transitions.lookup (index + 1) = some snapshot) :
    index < pool.threads.length ∧ ∃ shown, pool.shared.transitions.lookup (index + 1) = some shown ∧
      Kin snapshot shown ∧ (start.pending index = none → pool.pending index = none ∧ shown = snapshot) := by
  induction reached with
  | refl => exact ⟨inside, snapshot, stored, ⟨rfl, rfl, rfl, rfl⟩, fun returned => ⟨returned, rfl⟩⟩
  | @step pool later choice before _ fired ih =>
      obtain ⟨within, shown, found, kin, kept⟩ := ih
      obtain ⟨positions, sound⟩ := sound_of_reaches (began.trans before)
      obtain ⟨next, again, close⟩ := known_fire sound fired within found
      refine ⟨within.trans_le (length_fire fired), next, again, kin.trans close, fun returned => ?_⟩
      obtain ⟨still, rfl⟩ := kept returned
      rw [stored_fire sound fired still, found] at again
      exact ⟨returned_fire fired within still, (Option.some.inj again).symm⟩

end Engine

/-- An announced transition is planned, or its thread has returned. -/
structure Told (model : ValidatedModel) (configuration : SystemConfiguration) (announcement : Announcement) :
    Prop where
  began : (machine model).Reaches (fun _ _ => True) (created configuration) announcement.engine
  stored : ∃ index snapshot, announcement.event.transition = index + 1 ∧
    index < announcement.engine.threads.length ∧
    announcement.engine.shared.transitions.lookup (index + 1) = some snapshot ∧
    snapshot.domain = announcement.event.domain ∧
    (snapshot.phase.isTerminal = true → announcement.engine.pending index = none)

variable {announcement : Announcement} {pool : EnginePool}

/-- The engine shows what was told in every later state. -/
theorem Told.reflects (told : Told model configuration announcement)
    (reached : (machine model).Reaches (fun _ _ => True) announcement.engine pool) :
    Reflects model announcement pool := by
  obtain ⟨index, announced, own, inside, stored, domain, terminal⟩ := told.stored
  obtain ⟨_, shown, found, kin, kept⟩ := shown_reaches told.began reached inside stored
  refine ⟨reached, announced, shown, ?_, ?_, domain, kin, fun ended => (kept (terminal ended)).2⟩
  · rw [own]
    exact stored
  · rw [own]
    exact found

variable {state later : State}

section Announcements
variable {capacity : Nat}
variable {action : Action}

/-- A thread that is about to execute has stored its planned phase. -/
theorem stored_accepted (sound : Sound model pool positions)
    (accepted : isAccepted pool index = true) : index < pool.threads.length ∧
      pool.shared.transitions.lookup (index + 1) = some { (positions index).transition with phase := .planned } := by
  unfold isAccepted at accepted
  split at accepted
  · rename_i id pending
    obtain ⟨inside, later, rule⟩ := sound.rule_of_pending pending (.error {})
    have owned := sound.owned index inside
    refine ⟨inside, ?_⟩
    rw [← owned.id]
    exact owned.opens (rule_opening rule owned.work_ne_void)
  · cases accepted

variable {revision : Nat}

/-- A transition that was accepted is told as planned. -/
theorem told_enqueue (tracked : Tracked model state positions)
    (began : (machine model).Reaches (fun _ _ => True) (created configuration) state.pool)
    {domain : DomainId} {mode : ModeId} (asked : state.request = some (.accepting index domain mode))
    (accepted : isAccepted state.pool index = true) :
    Told model configuration ⟨⟨.transitionChanged, revision, index + 1, domain⟩, state.pool⟩ := by
  obtain ⟨inside, stored⟩ := stored_accepted tracked.sound accepted
  obtain ⟨_, own, _⟩ := tracked.asked index domain mode asked
  exact ⟨began, index, _, rfl, inside, stored, own, by simp [TransitionPhase.isTerminal]⟩

variable {transition : AcceptedTransition} {event : Event}

theorem finishEvents_mem {before after : Option ModeId} {result : Result TransitionSnapshot}
    (member : event ∈ finishEvents model revision transition before after result) :
    event.revision = revision ∧ event.transition = transition.id ∧ event.domain = transition.plan.domain := by
  simp only [finishEvents, List.mem_append, List.mem_singleton] at member
  rcases member with (rfl | changed) | recovered
  · exact ⟨rfl, rfl, rfl⟩
  · obtain rfl := List.mem_singleton.mp (List.mem_ite_nil_right.mp changed).2
    exact ⟨rfl, rfl, rfl⟩
  · obtain rfl := List.mem_singleton.mp (List.mem_ite_nil_right.mp recovered).2
    exact ⟨rfl, rfl, rfl⟩

/-- A transition that a worker has executed is told as it was left. -/
theorem told_finish (tracked : Tracked model state positions)
    (began : (machine model).Reaches (fun _ _ => True) (created configuration) state.pool)
    (listed : transition ∈ state.accepted) (returned : state.pool.pending (transition.id - 1) = none)
    (own : event.transition = transition.id) (domain : event.domain = transition.plan.domain) :
    Told model configuration ⟨event, state.pool⟩ := by
  obtain ⟨_, _, home⟩ := tracked.listed transition listed
  obtain ⟨within, thread⟩ := tracked.thread listed
  have owned := tracked.sound.owned (transition.id - 1) within
  have registered : (positions (transition.id - 1)).registered = true := by
    by_contra missing
    obtain ⟨⟨next, registering⟩, _⟩ := owned.unregistered (Bool.not_eq_true _ ▸ missing)
    rw [tracked.sound.finished within returned] at registering
    cases registering
  obtain ⟨snapshot, stored, kin⟩ := owned.stored registered
  refine ⟨began, transition.id - 1, snapshot, ?_, within, stored, ?_, fun _ => returned⟩
  · exact own.trans thread
  · exact kin.domain.trans (home.symm.trans domain.symm)

/-- The events of a step follow those before it, and only some actions announce. -/
theorem emitted_step (step : Step model capacity state action later) :
    ∃ fresh, later.emitted = state.emitted ++ fresh ∧ state.revision ≤ later.revision ∧
      (∀ announcement ∈ fresh, announcement.engine = state.pool ∧ later.pool = state.pool ∧
        announcement.event.revision = state.revision + 1 ∧ later.revision = state.revision + 1) ∧
      (announces action = false → fresh = [] ∧ later.revision = state.revision) := by
  cases step with
  | enqueue asked accepted planned =>
      refine ⟨_, rfl, Nat.le_succ _, ?_, by simp [announces]⟩
      intro announcement member
      obtain rfl := List.mem_singleton.mp member
      exact ⟨rfl, rfl, rfl, rfl⟩
  | finish id free found returned =>
      refine ⟨_, rfl, Nat.le_succ _, ?_, by simp [announces]⟩
      intro announcement member
      obtain ⟨event, listed, rfl⟩ := List.mem_map.mp member
      exact ⟨rfl, rfl, (finishEvents_mem listed).1, rfl⟩
  | _ => exact ⟨[], (List.append_nil _).symm, le_refl _, by simp, fun _ => ⟨rfl, rfl⟩⟩

/-- The announcements of a state are true, and the engine has only moved on since. -/
structure Chronicled (model : ValidatedModel) (configuration : SystemConfiguration) (state : State)
    (announcement : Announcement) : Prop where
  told : Told model configuration announcement
  since : (machine model).Reaches (fun _ _ => True) announcement.engine state.pool
  revision : announcement.event.revision ≤ state.revision

theorem told_step (tracked : Tracked model state positions)
    (began : (machine model).Reaches (fun _ _ => True) (created configuration) state.pool)
    (step : Step model capacity state action later) (emitted : announcement ∈ later.emitted) :
    announcement ∈ state.emitted ∨ Told model configuration announcement := by
  cases step with
  | enqueue asked accepted planned =>
      rcases List.mem_append.mp emitted with old | fresh
      · exact .inl old
      · obtain rfl := List.mem_singleton.mp fresh
        exact .inr (told_enqueue tracked began asked accepted)
  | finish id free found returned =>
      rcases List.mem_append.mp emitted with old | fresh
      · exact .inl old
      · obtain ⟨event, listed, rfl⟩ := List.mem_map.mp fresh
        obtain ⟨_, own, domain⟩ := finishEvents_mem listed
        obtain ⟨member, same⟩ := findJob_eq_some found
        refine .inr (told_finish tracked began (tracked.working member) ?_ own domain)
        rw [same]
        exact pending_of_completed returned
  | _ => exact .inl emitted

/-- The engine of a step moves on. -/
theorem pool_step (step : Step model capacity state action later) :
    (machine model).Reaches (fun _ _ => True) state.pool later.pool := by
  rcases step.pool with same | ⟨choice, _, fired⟩
  · rw [same]
    exact .refl
  · exact .step .refl trivial fired

theorem chronicled_step (tracked : Tracked model state positions)
    (began : (machine model).Reaches (fun _ _ => True) (created configuration) state.pool)
    (chronicled : ∀ announcement ∈ state.emitted, Chronicled model configuration state announcement)
    (step : Step model capacity state action later) :
    ∀ announcement ∈ later.emitted, Chronicled model configuration later announcement := by
  intro announcement member
  obtain ⟨fresh, appended, grows, news, _⟩ := emitted_step step
  have told := told_step tracked began step member
  rw [appended] at member
  rcases List.mem_append.mp member with old | new
  · have before := chronicled announcement old
    exact ⟨before.told, before.since.trans (pool_step step), before.revision.trans grows⟩
  · obtain ⟨engine, same, revision, raised⟩ := news announcement new
    refine ⟨?_, ?_, (revision.trans raised.symm).le⟩
    · rcases told with old | told
      · exact (chronicled announcement old).told
      · exact told
    · rw [engine, same]
      exact .refl

end Announcements

section Runs
variable {capacity workers : Nat}
variable {allowed : State → Action → Prop}

theorem chronicled_reached (reached : (service model capacity).Reaches allowed (started configuration workers) state) :
    ∀ announcement ∈ state.emitted, Chronicled model configuration state announcement := by
  induction reached with
  | refl => simp [started]
  | @step state later action before _ performed ih =>
      obtain ⟨positions, tracked⟩ := (orderly_reached before).tracked
      have began : (machine model).Reaches (fun _ _ => True) (created configuration) state.pool :=
        pool_reaches (fun _ _ _ _ _ => trivial) before
      exact chronicled_step tracked began ih (step_of_perform performed)

/-- Later events have higher revisions. -/
theorem emitted_reached (reached : (service model capacity).Reaches allowed state later) :
    state.revision ≤ later.revision ∧ ∃ fresh, later.emitted = state.emitted ++ fresh ∧
      ∀ announcement ∈ fresh, state.revision < announcement.event.revision := by
  induction reached with
  | refl => exact ⟨le_refl _, [], (List.append_nil _).symm, by simp⟩
  | step _ _ performed ih =>
      obtain ⟨grown, fresh, appended, higher⟩ := ih
      obtain ⟨more, again, grows, news, _⟩ := emitted_step (step_of_perform performed)
      refine ⟨grown.trans grows, fresh ++ more, ?_, ?_⟩
      · rw [again, appended, List.append_assoc]
      · intro announcement member
        rcases List.mem_append.mp member with old | new
        · exact higher announcement old
        · rw [(news announcement new).2.2.1]
          exact Nat.lt_succ_of_le grown

/-- Nothing is announced by the other actions. -/
theorem emitted_silent
    (reached : (service model capacity).Reaches (fun _ action => announces action = false) state later) :
    later.emitted = state.emitted := by
  induction reached with
  | refl => rfl
  | step _ silent performed ih =>
      obtain ⟨fresh, appended, _, _, none⟩ := emitted_step (step_of_perform performed)
      rw [appended, (none silent).1, List.append_nil]
      exact ih

end Runs

/-- A snapshot reflects every event up to its revision if nothing is announced while it is taken. -/
theorem snapshot_reflects (model : ValidatedModel) (capacity workers : Nat)
    (configuration : SystemConfiguration) (taken read later : State)
    (began : (service model capacity).Reaches (fun _ _ => True) (started configuration workers) taken)
    (between : (service model capacity).Reaches (fun _ action => announces action = false) taken read)
    (after : (service model capacity).Reaches (fun _ _ => True) read later)
    (announcement : Announcement) (emitted : announcement ∈ later.emitted)
    (covered : announcement.event.revision ≤ read.revision) : Reflects model announcement taken.pool := by
  obtain ⟨_, fresh, appended, higher⟩ := emitted_reached after
  rw [appended] at emitted
  rcases List.mem_append.mp emitted with old | new
  · rw [emitted_silent between] at old
    have chronicled := chronicled_reached began announcement old
    exact chronicled.told.reflects chronicled.since
  · exact absurd (higher announcement new) (Nat.not_lt_of_le covered)

/-- The lamp is switched on by one worker. -/
def switching : List (State → Action) :=
  [fun _ => .take, fun _ => .begin 1] ++ List.replicate 21 (drive 0) ++
    [fun _ => .complete 1, fun _ => .finish 1]

/-- This event announces a terminal phase that the engine does not show. -/
def isMissed (pool : EnginePool) (announcement : Announcement) : Bool :=
  let terminal (engine : EngineState) : Bool :=
    (engine.transitions.lookup announcement.event.transition).any (·.phase.isTerminal)
  terminal announcement.engine.shared && !terminal pool.shared

theorem not_reflects_of_isMissed (missed : isMissed pool announcement = true) : ¬ Reflects model announcement pool := by
  intro reflects
  obtain ⟨announced, shown, told, found, _, _, kept⟩ := reflects.transition
  simp only [isMissed, told, found, Option.any_some, Bool.and_eq_true, Bool.not_eq_true'] at missed
  rw [kept missed.1, missed.1] at missed
  cases missed.2

/-- A snapshot that is taken between two requests reflects the change of the configuration. -/
theorem snapshot_reflects_switched : ∃ (taken read : State) (announcement : Announcement),
    (service lampModes 4).Reaches (fun _ action => announces action = false) taken read ∧
    announcement ∈ read.emitted ∧ announcement.event.kind = .configurationChanged ∧
    announcement.event.revision = read.revision ∧ Reflects lampModes announcement taken.pool := by
  obtain ⟨taken, began, executed⟩ := exists_served lampModes 4 1 ⟨1, initialModes lampModes, ∅⟩
    (fun _ _ => true) (fun _ _ _ => trivial) (submit 0 1 2 ++ switching)
    (fun taken => ((service lampModes 4).run (fun _ action => !announces action)
      [fun _ => .request 1 1, fun _ => .accept] taken).any (fun read => read.emitted.any fun announcement =>
        announcement.event.kind == .configurationChanged && announcement.event.revision == read.revision) =
      true) (by decide +kernel)
  obtain ⟨read, between, announced⟩ := System.Reaches.exists_of_run (fun _ action => !announces action)
    (fun _ _ silent => Bool.not_eq_true' _ ▸ silent) _ _ executed
  obtain ⟨announcement, emitted, chosen⟩ := List.any_eq_true.mp announced
  obtain ⟨kind, revision⟩ := (Bool.and_eq_true _ _).mp chosen
  refine ⟨taken, read, announcement, between, emitted, beq_iff_eq.mp kind, beq_iff_eq.mp revision, ?_⟩
  exact snapshot_reflects lampModes 4 1 _ taken read read began between .refl announcement emitted
    (beq_iff_eq.mp revision).le

/-- A transition that ends while the snapshot is taken is counted and not shown. -/
theorem snapshot_misses : ¬ ∀ taken read : State, (service lampModes 4).Reaches (fun _ _ => True)
        (started ⟨1, initialModes lampModes, ∅⟩ 1) taken → (service lampModes 4).Reaches (fun _ _ => True) taken read →
      ∀ announcement ∈ read.emitted, announcement.event.revision ≤ read.revision →
        Reflects lampModes announcement taken.pool := by
  intro claimed
  obtain ⟨taken, began, executed⟩ := exists_served lampModes 4 1 ⟨1, initialModes lampModes, ∅⟩
    (fun _ _ => true) (fun _ _ _ => trivial) (submit 0 1 2)
    (fun taken => ((service lampModes 4).run (fun _ _ => true) switching taken).any (fun read =>
      read.emitted.any fun announcement => decide (announcement.event.revision ≤ read.revision) &&
        isMissed taken.pool announcement) = true) (by decide +kernel)
  obtain ⟨read, between, announced⟩ := System.Reaches.exists_of_run (fun _ _ => true)
    (fun _ _ _ => trivial) _ _ executed
  obtain ⟨announcement, emitted, chosen⟩ := List.any_eq_true.mp announced
  obtain ⟨covered, missed⟩ := (Bool.and_eq_true _ _).mp chosen
  exact not_reflects_of_isMissed missed
    (claimed taken read began between announcement emitted (of_decide_eq_true covered))

end OpenVehicle.Exec.Coordinator
