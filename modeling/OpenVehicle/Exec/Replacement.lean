/-
This file proves what the replacement policies guarantee. A domain that rejects requests while it
is busy has one open transition, and a domain that supersedes has one that is not cancelled.
-/

import OpenVehicle.Exec.CoordinatorRuns
import OpenVehicle.Exec.TerminalPhases

namespace OpenVehicle.Exec.Coordinator

open Concurrency FiniteMap ExecutionEngine TransitionPlanner

/-- The journal accepts every event that is appended. -/
def appendsSucceed : Action → Bool
  | .engine _ (.journal (.error _)) => false
  | _ => true

def RequestStage.domain : RequestStage → DomainId
  | .superseding domain _ => domain
  | .checked domain _ _ => domain
  | .accepting _ domain _ => domain

/-- The transitions that a policy keeps apart. -/
def contends (policy : ReplacementPolicy) (engine : EngineState) (id : TransitionId) : Prop :=
  match policy with
  | .rejectWhileBusy => True
  | .supersedeIfSafe => engine.cancellation.lookup id ≠ some true
  | .queue => False

/-- The last transition that was accepted for a domain. -/
def lastAccepted (domain : DomainId) (state : State) : Option TransitionId :=
  (state.accepted.filter fun transition => transition.plan.domain == domain).getLast?.map (·.id)

/-- Only the active transition of a domain contends, and none does during a request for it. -/
structure Exclusive (model : ValidatedModel) (state : State) : Prop where
  live : ∀ domain definition, model.findDomain domain = some definition →
    ∀ transition ∈ state.live, transition.plan.domain = domain →
    contends definition.replacement state.pool.shared transition.id →
    state.activeDomains.lookup domain = some transition.id
  asked : ∀ stage definition, state.request = some stage →
    model.findDomain stage.domain = some definition →
    ∀ transition ∈ state.live, transition.plan.domain = stage.domain →
    ¬ contends definition.replacement state.pool.shared transition.id

/-- The active transition of a domain is its last one, unless that is finished. -/
def Current (state : State) : Prop :=
  ∀ domain id, state.activeDomains.lookup domain = some id ↔
    lastAccepted domain state = some id ∧ id ∉ state.finished

variable {model : ValidatedModel} {id : TransitionId}

section Flags
variable {pool later : EnginePool} {choice : EngineChoice}

variable (fired : (machine model).fire pool choice = some later)
include fired

/-- A cancellation flag stays set. -/
theorem flag_fire
    (flagged : pool.shared.cancellation.lookup id = some true) : later.shared.cancellation.lookup id = some true := by
  cases choice with
  | thread index input =>
      obtain ⟨op, next, reply, shared, _, performed, rfl⟩ := Machine.fire_thread_eq_some fired
      obtain ⟨_, rfl⟩ := perform_eq_some performed
      exact cancellation_effect reply flagged
  | event event =>
      obtain ⟨shared, started, occurred, rfl⟩ := Machine.fire_event_eq_some fired
      cases event with
      | request baseline domain target =>
          obtain ⟨rfl, _⟩ := Prod.mk.inj (Option.some.inj occurred)
          exact flagged
      | cancel other =>
          rcases (occur_cancel occurred).2 with rfl | cancelled
          · exact flagged
          · obtain ⟨_, _, _, _, _, rfl⟩ := cancel_eq_ok cancelled
            show (pool.shared.cancellation.insert other true).lookup id = some true
            by_cases own : id = other
            · rw [own, AList.lookup_insert]
            · rw [AList.lookup_insert_ne own]
              exact flagged

theorem contends_fire
    {policy : ReplacementPolicy} (contending : contends policy later.shared id) : contends policy pool.shared id := by
  cases policy with
  | rejectWhileBusy => trivial
  | queue => exact contending
  | supersedeIfSafe => exact fun flagged => contending (flag_fire fired flagged)

end Flags

variable {positions : Nat → Position} {domain : DomainId} {definition : DomainDefinition} {plan : TransitionPlan}
variable {state later : State} {action : Action} {capacity : Nat} {mode : ModeId} {index : Nat}

section Exclusive

/-- The steps that keep the live transitions and the active ones. -/
theorem Exclusive.frame (exclusive : Exclusive model state) (active : later.activeDomains = state.activeDomains)
    (live : ∀ transition ∈ later.live, transition ∈ state.live)
    (flags : ∀ policy id, contends policy later.pool.shared id → contends policy state.pool.shared id)
    (asked : ∀ stage, later.request = some stage →
      ∃ before, state.request = some before ∧ before.domain = stage.domain) : Exclusive model later where
  live := by
    intro domain definition known transition member own contending
    rw [active]
    exact exclusive.live domain definition known transition (live transition member) own
      (flags _ _ contending)
  asked := by
    intro stage definition found known transition member own contending
    obtain ⟨before, requested, same⟩ := asked stage found
    rw [← same] at known own
    exact exclusive.asked before definition requested known transition (live transition member) own
      (flags _ _ contending)

/-- A request may begin when nothing contends with it. -/
theorem Exclusive.check (exclusive : Exclusive model state) {stage : RequestStage}
    (same : stage.domain = domain) (known : model.findDomain domain = some definition)
    (queues : state.activeDomains.lookup domain = none ∨ definition.replacement = .queue) :
    Exclusive model { state with request := some stage } where
  live := exclusive.live
  asked := by
    rintro stage other ⟨⟩ found transition member own contending
    rw [same] at found own
    obtain rfl := Option.some.inj (known.symm.trans found)
    rcases queues with vacant | policy
    · have active := exclusive.live domain definition known transition member own contending
      rw [vacant] at active
      cases active
    · rw [policy] at contending
      exact contending

/-- A superseded transition does not contend any more. -/
theorem Exclusive.supersede (exclusive : Exclusive model state)
    {active : TransitionId} {shared : EngineState} (known : model.findDomain domain = some definition)
    (policy : definition.replacement = .supersedeIfSafe) (found : state.activeDomains.lookup domain = some active)
    (cancelled : ExecutionEngine.cancel state.pool.shared active = .ok shared) : Exclusive model { state with
      pool := ⟨shared, state.pool.threads⟩
      request := some (.superseding domain mode) } := by
  have fired : (machine model).fire state.pool (.event (.cancel active)) =
      some ⟨shared, state.pool.threads⟩ := fire_cancel cancelled
  refine ⟨?_, ?_⟩
  · intro other definition known transition member own contending
    exact exclusive.live other definition known transition member own (contends_fire fired contending)
  · rintro stage other ⟨⟩ known' transition member own contending
    obtain rfl := Option.some.inj (known.symm.trans known')
    have same := exclusive.live domain definition known transition member own
      (contends_fire fired contending)
    obtain rfl := Option.some.inj (found.symm.trans same)
    rw [policy] at contending
    obtain ⟨_, _, _, _, _, rfl⟩ := cancel_eq_ok cancelled
    exact contending (AList.lookup_insert _)

variable {projected : SystemConfiguration} {emitted : List Announcement}

/-- The accepted transition is the only one of its domain that contends. -/
theorem Exclusive.enqueue (exclusive : Exclusive model state) {revision : Nat}
    (asked : state.request = some (.accepting index domain mode)) (target : plan.domain = domain) :
    Exclusive model { state with
      projected := projected
      queue := state.queue ++ [⟨index + 1, plan⟩]
      activeDomains := state.activeDomains.insert domain (index + 1)
      revision := revision
      request := none
      accepted := state.accepted ++ [⟨index + 1, plan⟩]
      emitted := emitted } := by
  refine ⟨?_, by simp⟩
  intro other definition known transition member own contending
  change (state.activeDomains.insert domain (index + 1)).lookup other = some transition.id
  have either : transition ∈ state.live ∨ transition = ⟨index + 1, plan⟩ := by
    simp only [State.live, List.mem_append, List.mem_singleton] at member ⊢
    tauto
  rcases either with old | rfl
  · by_cases same : other = domain
    · obtain rfl := same
      exact absurd contending (exclusive.asked _ definition asked known transition old own)
    · rw [AList.lookup_insert_ne same]
      exact exclusive.live other definition known transition old own contending
  · rw [← own, target, AList.lookup_insert]

/-- A finished transition leaves the other active ones alone. -/
theorem lookup_release {active : Map DomainId TransitionId} {other : DomainId} {id kept : TransitionId}
    (different : kept ≠ id) :
    (release domain id active).lookup other = some kept ↔ active.lookup other = some kept := by
  unfold release
  split
  · rename_i found
    by_cases same : other = domain
    · rw [same, AList.lookup_erase, found]
      simp [Ne.symm different]
    · rw [AList.lookup_erase_ne same]
  · rfl

theorem Exclusive.finish (exclusive : Exclusive model state)
    {revision idle : Nat} {jobs : List Job} {finished : List TransitionId} (free : state.request = none)
    (remaining : state.queue ++ jobs.map (·.transition) = state.live.filter fun transition => transition.id != id) :
    Exclusive model { state with
      activeDomains := release domain id state.activeDomains
      projected := projected
      revision := revision
      jobs := jobs
      idle := idle
      finished := finished
      emitted := emitted } := by
  refine ⟨?_, fun stage _ asked => by cases free.symm.trans asked⟩
  intro other definition known transition member own contending
  change transition ∈ state.queue ++ jobs.map (·.transition) at member
  rw [remaining, List.mem_filter] at member
  apply (lookup_release (bne_iff_ne.mp member.2)).mpr
  exact exclusive.live other definition known transition member.1 own contending

/-- Every step keeps the contending transitions apart. -/
theorem Exclusive.step (tracked : Tracked model state positions)
    (exclusive : Exclusive model state) (step : Step model capacity state action later) : Exclusive model later := by
  have same (policy : ReplacementPolicy) (id : TransitionId)
      (contending : contends policy state.pool.shared id) : contends policy state.pool.shared id := contending
  cases step with
  | refuse => exact exclusive
  | spare => exact exclusive
  | check domain mode free known queues => exact exclusive.check rfl known queues
  | supersede domain mode free known policy found cancelled =>
      exact exclusive.supersede known policy found cancelled
  | refresh asked =>
      refine exclusive.frame rfl (fun _ member => member) same ?_
      rintro stage ⟨⟩
      exact ⟨_, asked, rfl⟩
  | full asked filled => exact exclusive.frame rfl (fun _ member => member) same (by simp)
  | accept asked fired =>
      refine exclusive.frame rfl (fun _ member => member) (fun _ _ => contends_fire fired) ?_
      rintro stage ⟨⟩
      exact ⟨_, asked, rfl⟩
  | engine index input moves fired =>
      refine exclusive.frame rfl (fun _ member => member) (fun _ _ => contends_fire fired) ?_
      exact fun stage found => ⟨stage, found, rfl⟩
  | enqueue asked accepted planned =>
      exact exclusive.enqueue asked (tracked.plan_domain asked planned)
  | reject asked returned => exact exclusive.frame rfl (fun _ member => member) same (by simp)
  | take free waits queued =>
      refine exclusive.frame rfl (fun transition member => ?_) same fun stage found => ⟨stage, found, rfl⟩
      simp only [State.live, queued, List.map_append, List.map_cons, List.map_nil, List.mem_append,
        List.mem_cons, List.not_mem_nil] at member ⊢
      tauto
  | begin id found =>
      refine exclusive.frame rfl (fun transition member => ?_) same fun stage found => ⟨stage, found, rfl⟩
      simpa only [State.live, setStage_transitions] using member
  | complete id found returned =>
      refine exclusive.frame rfl (fun transition member => ?_) same fun stage found => ⟨stage, found, rfl⟩
      simpa only [State.live, setStage_transitions] using member
  | finish id free found returned => exact exclusive.finish free (tracked.live_finish found)
  | cancel id cancelled =>
      have fired : (machine model).fire state.pool (.event (.cancel id)) = some _ := fire_cancel cancelled
      refine exclusive.frame rfl (fun _ member => member) (fun _ _ => contends_fire fired) ?_
      exact fun stage found => ⟨stage, found, rfl⟩

end Exclusive

section Current

theorem lastAccepted_mem (last : lastAccepted domain state = some id) :
    ∃ transition ∈ state.accepted, transition.plan.domain = domain ∧ transition.id = id := by
  obtain ⟨transition, found, own⟩ := Option.map_eq_some_iff.mp last
  obtain ⟨member, same⟩ := List.mem_filter.mp (List.mem_of_getLast? found)
  exact ⟨transition, member, beq_iff_eq.mp same, own⟩

variable {transition : AcceptedTransition}

/-- The last transition of a domain changes when one is accepted for it. -/
theorem lastAccepted_append (accepted : later.accepted = state.accepted ++ [transition]) : lastAccepted domain later =
      if transition.plan.domain = domain then some transition.id else lastAccepted domain state := by
  unfold lastAccepted
  rw [accepted, List.filter_append]
  split
  · rename_i own
    simp [own]
  · rename_i other
    simp [other]

variable (tracked : Tracked model state positions)
include tracked

theorem Tracked.finished_listed (member : id ∈ state.finished) :
    ∃ transition ∈ state.accepted, transition.id = id :=
  List.mem_map.mp (tracked.shares.mem_iff.mp (List.mem_append_right _ member))

theorem Current.enqueue (current : Current state) (asked : state.request = some (.accepting index domain mode))
    (target : plan.domain = domain) (accepted : later.accepted = state.accepted ++ [⟨index + 1, plan⟩])
    (active : later.activeDomains = state.activeDomains.insert domain (index + 1))
    (finished : later.finished = state.finished) : Current later := by
  obtain ⟨_, _, earlier⟩ := tracked.asked index domain mode asked
  have fresh : index + 1 ∉ state.finished := by
    intro member
    obtain ⟨transition, listed, same⟩ := tracked.finished_listed member
    have bound := earlier transition listed
    rw [same] at bound
    exact Nat.not_succ_le_self index bound
  intro other id
  rw [active, finished, lastAccepted_append accepted]
  by_cases same : other = domain
  · rw [same, AList.lookup_insert, if_pos target]
    constructor
    · rintro ⟨⟩
      exact ⟨rfl, fresh⟩
    · exact fun last => last.1
  · rw [AList.lookup_insert_ne same, if_neg (by rw [target]; exact Ne.symm same)]
    exact current other id

theorem Current.finish (current : Current state)
    (listed : transition ∈ state.accepted) (own : transition.id = id) (accepted : later.accepted = state.accepted)
    (active : later.activeDomains = release transition.plan.domain id state.activeDomains)
    (finished : later.finished = state.finished ++ [id]) : Current later := by
  intro domain other
  have last : lastAccepted domain later = lastAccepted domain state := by
    unfold lastAccepted
    rw [accepted]
  rw [active, finished, last]
  by_cases same : other = id
  · obtain rfl := same
    constructor
    · intro found
      unfold release at found
      split at found
      · by_cases within : domain = transition.plan.domain
        · rw [within, AList.lookup_erase] at found
          cases found
        · rw [AList.lookup_erase_ne within] at found
          obtain ⟨second, member, elsewhere, equal⟩ := lastAccepted_mem ((current domain other).mp found).1
          rw [tracked.unique member listed (equal.trans own.symm)] at elsewhere
          exact absurd elsewhere.symm within
      · rename_i inactive
        obtain ⟨second, member, elsewhere, equal⟩ := lastAccepted_mem ((current domain other).mp found).1
        rw [tracked.unique member listed (equal.trans own.symm)] at elsewhere
        exact absurd (elsewhere ▸ found) inactive
    · rintro ⟨_, unfinished⟩
      exact absurd (List.mem_append_right _ (List.mem_singleton_self other)) unfinished
  · rw [lookup_release same, current domain other, List.mem_append, List.mem_singleton]
    simp only [same, or_false]

/-- Every step keeps the active transitions current. -/
theorem Current.step (current : Current state) (step : Step model capacity state action later) : Current later := by
  cases step with
  | enqueue asked accepted planned =>
      exact Current.enqueue tracked current asked (tracked.plan_domain asked planned) rfl rfl rfl
  | finish id free found returned =>
      obtain ⟨member, own⟩ := findJob_eq_some found
      exact Current.finish tracked current (tracked.working member) own rfl rfl rfl
  | _ => exact current

end Current

/-- The invariants of the service. -/
structure Orderly (model : ValidatedModel) (state : State) : Prop where
  tracked : ∃ positions, Tracked model state positions
  exclusive : Exclusive model state
  current : Current state

theorem orderly_started (model : ValidatedModel) (configuration : SystemConfiguration) (workers : Nat) :
    Orderly model (started configuration workers) := by
  refine ⟨⟨nowhere, tracked_started configuration workers nowhere⟩, ⟨?_, ?_⟩, ?_⟩
  · simp [started, State.live]
  · simp [started]
  · intro domain id
    simp [started, lastAccepted]

variable {configuration : SystemConfiguration} {state : State}

/-- The invariants hold in every state of the service. -/
theorem orderly_reached {capacity workers : Nat} {allowed : State → Action → Prop}
    (reached : (service model capacity).Reaches allowed (started configuration workers) state) :
    Orderly model state := by
  apply reached.invariant (orderly_started model configuration workers)
  intro state action later orderly _ performed
  obtain ⟨positions, tracked⟩ := orderly.tracked
  have step := step_of_perform performed
  obtain ⟨next, moved, _⟩ := tracked.step step
  exact ⟨⟨next, moved⟩, orderly.exclusive.step tracked step, orderly.current.step tracked step⟩

/-- The engine knows the transition, and its phase is not terminal. -/
def Unended (state : State) (domain : DomainId) (id : TransitionId) : Prop :=
  ∃ snapshot, state.pool.shared.transitions.lookup id = some snapshot ∧ snapshot.domain = domain ∧
    snapshot.phase.isTerminal = false

def MarkedCancelled (state : State) (id : TransitionId) : Prop := state.pool.shared.cancellation.lookup id = some true

/-- A transition that has not ended belongs to the request or to a live transition. -/
theorem Tracked.unended (tracked : Tracked model state positions)
    (ended : ∀ index < state.pool.threads.length, state.pool.pending index = none →
      Ended (state.pool.shared.transitions.lookup (index + 1)))
    (zero : state.pool.shared.transitions.lookup 0 = none) (unended : Unended state domain id) :
    (∃ index mode, state.request = some (.accepting index domain mode) ∧ id = index + 1) ∨
      ∃ transition ∈ state.live, transition.plan.domain = domain ∧ transition.id = id := by
  obtain ⟨snapshot, stored, own, running⟩ := unended
  cases id with
  | zero =>
      rw [zero] at stored
      cases stored
  | succ index =>
      have inside : index < state.pool.threads.length := by
        by_contra outside
        have unknown := (tracked.sound.registry.fresh (index + 1) (by omega)).1
        rw [unknown.transitions] at stored
        cases stored
      have home : (positions index).transition.domain = domain :=
        (kin_of_stored tracked.sound inside stored).domain.symm.trans own
      cases pending : state.pool.pending index with
      | none =>
          obtain ⟨other, found, terminal⟩ := ended index inside pending
          obtain rfl := Option.some.inj (found.symm.trans stored)
          rw [running] at terminal
          cases terminal
      | some op =>
          rcases tracked.moving index op pending with ⟨other, mode, asked⟩ | live
          · obtain ⟨_, same, _⟩ := tracked.asked index other mode asked
            obtain rfl := same.symm.trans home
            exact .inl ⟨index, mode, asked, rfl⟩
          · obtain ⟨transition, member, same⟩ := List.mem_map.mp live
            refine .inr ⟨transition, member, ?_, same⟩
            rw [(tracked.listed transition (tracked.known transition member)).2.2, same]
            exact home

/-- Two contending transitions of a domain that have not ended are the same. -/
theorem Exclusive.unique (exclusive : Exclusive model state) (tracked : Tracked model state positions)
    (ended : ∀ index < state.pool.threads.length, state.pool.pending index = none →
      Ended (state.pool.shared.transitions.lookup (index + 1))) (zero : state.pool.shared.transitions.lookup 0 = none)
    (known : model.findDomain domain = some definition)
    {first second : TransitionId} (one : Unended state domain first) (two : Unended state domain second)
    (left : contends definition.replacement state.pool.shared first)
    (right : contends definition.replacement state.pool.shared second) : first = second := by
  rcases tracked.unended ended zero one with ⟨index, mode, asked, rfl⟩ | ⟨transition, live, own, rfl⟩
  · rcases tracked.unended ended zero two with ⟨other, target, again, rfl⟩ | ⟨other, within, same, rfl⟩
    · obtain ⟨rfl, _⟩ := RequestStage.accepting.inj (Option.some.inj (asked.symm.trans again))
      rfl
    · exact absurd right (exclusive.asked _ definition asked known other within same)
  · rcases tracked.unended ended zero two with ⟨other, target, again, rfl⟩ | ⟨other, within, same, rfl⟩
    · exact absurd left (exclusive.asked _ definition again known transition live own)
    · have active := exclusive.live domain definition known transition live own left
      have also := exclusive.live domain definition known other within same right
      exact Option.some.inj (active.symm.trans also)

/-- No transition has the identifier zero. -/
theorem zero_unused {pool : EnginePool} {allowed : EnginePool → EngineChoice → Prop}
    (reached : (machine model).Reaches allowed (created configuration) pool) :
    pool.shared.transitions.lookup 0 = none ∧ pool.shared.scheduler.leases.lookup 0 = none := by
  have maintains : Maintains model allowed
      (fun state _ _ => state.transitions.lookup 0 = none ∧ state.scheduler.leases.lookup 0 = none)
      (fun _ _ _ => True) := by
    refine ⟨?_, ?_, ?_⟩
    · intro pool positions index input op reply later sound holds step
      have owned := sound.owned index step.inside
      have entries := owned.others step.rule (Nat.succ_ne_zero index).symm
      refine ⟨⟨?_, ?_⟩, trivial, fun _ _ _ => trivial⟩
      · exact entries.transitions.trans holds.common.1
      · exact entries.leases.trans holds.common.2
    · intro pool positions id state sound holds _ cancelled
      obtain ⟨_, _, _, _, _, rfl⟩ := cancel_eq_ok cancelled
      exact ⟨holds.common, fun _ _ => trivial⟩
    · intro pool positions baseline domain target sound holds _
      exact ⟨holds.common, fun _ _ => trivial⟩
  obtain ⟨_, _, holds⟩ := maintains.fromCreated (fun _ => ⟨rfl, rfl⟩) reached
  exact holds.common

/-- The policies keep the open transitions of a domain apart, and the active transition of a domain
is the last one that was accepted for it until its worker has finished. -/
theorem replacement_respected (model : ValidatedModel) (capacity workers : Nat)
    (configuration : SystemConfiguration) (state : State)
    (reached : (service model capacity).Reaches (fun _ action => appendsSucceed action = true)
      (started configuration workers) state) : (∀ domain definition, model.findDomain domain = some definition →
      definition.replacement = .rejectWhileBusy → ∀ first second, Unended state domain first →
      Unended state domain second → first = second) ∧ (∀ domain definition, model.findDomain domain = some definition →
      definition.replacement = .supersedeIfSafe → ∀ first second, Unended state domain first →
      Unended state domain second → ¬ MarkedCancelled state first → ¬ MarkedCancelled state second → first = second) ∧
    ∀ domain id, state.activeDomains.lookup domain = some id ↔
      lastAccepted domain state = some id ∧ id ∉ state.finished := by
  have orderly := orderly_reached reached
  obtain ⟨positions, tracked⟩ := orderly.tracked
  have engine : (machine model).Reaches (fun _ choice => journalWorks choice = true)
      (created configuration) state.pool := by
    refine pool_reaches ?_ reached
    intro state action choice succeeds drives
    cases drives with
    | thread index input =>
        cases input with
        | journal outcome =>
            cases outcome with
            | error cause => cases succeeds
            | ok value => rfl
        | _ => rfl
    | _ => rfl
  have ended (index : Nat) (inside : index < state.pool.threads.length)
      (returned : state.pool.pending index = none) := ended_of_returned engine inside returned
  have zero := (zero_unused engine).1
  refine ⟨?_, ?_, orderly.current⟩
  · intro domain definition known policy first second one two
    apply orderly.exclusive.unique tracked ended zero known one two
    · rw [policy]
      trivial
    · rw [policy]
      trivial
  · intro domain definition known policy first second one two left right
    apply orderly.exclusive.unique tracked ended zero known one two
    · rw [policy]
      exact left
    · rw [policy]
      exact right

/-- A hatch is opened by one unit, and its requests wait in the queue. -/
def hatchModes : ValidatedModel where
  value := {
    generation := 1
    units := [{ id := 1, name := "hatch" }]
    domains := [
      { id := 1, name := "roof", initialMode := 1, replacement := .queue,
        modes := [{ id := 1, name := "closed" }, { id := 2, name := "open", units := [1] }] }] }
  valid := by decide +kernel

/-- Two workers take two transitions, and the second one finishes first. -/
def overtaking : List (State → Action) :=
  submit 0 1 2 ++ [fun _ => .take, fun _ => .begin 1] ++ submit 1 1 1 ++
    [fun _ => .take, fun _ => .begin 2] ++ List.replicate 7 (drive 1) ++
    [fun _ => .complete 2, fun _ => .finish 2]

/-- The first transition is still open although its domain is no longer active. -/
theorem replacement_respected_overtaken : ∃ state,
    (service hatchModes 4).Reaches (fun _ action => appendsSucceed action = true)
      (started ⟨1, initialModes hatchModes, ∅⟩ 2) state ∧
    Unended state 1 1 ∧ lastAccepted 1 state = some 2 ∧ state.activeDomains.lookup 1 = none := by
  obtain ⟨state, reached, stored, last, finished⟩ := exists_served hatchModes 4 2
    ⟨1, initialModes hatchModes, ∅⟩ (fun _ action => appendsSucceed action)
    (fun _ _ checked => checked) overtaking
    (fun state => (state.pool.shared.transitions.lookup 1).any (fun snapshot =>
        snapshot.domain == 1 && !snapshot.phase.isTerminal) = true ∧
      lastAccepted 1 state = some 2 ∧ 2 ∈ state.finished) (by decide +kernel)
  obtain ⟨snapshot, found, holds⟩ := (Option.any_eq_true _ _).mp stored
  obtain ⟨_, _, current⟩ := replacement_respected hatchModes 4 2 _ state reached
  refine ⟨state, reached, ⟨snapshot, found, by simpa using holds⟩, last, ?_⟩
  apply Option.eq_none_iff_forall_ne_some.mpr
  intro id active
  obtain ⟨same, unfinished⟩ := (current 1 id).mp active
  obtain rfl := Option.some.inj (last.symm.trans same)
  exact unfinished finished

/-- The last accepted transition of a domain whose worker has not finished with it. -/
def lastUnfinished (domain : DomainId) (state : State) : Option TransitionId :=
  (state.accepted.filter fun transition => transition.plan.domain == domain &&
    !state.finished.contains transition.id).getLast?.map (·.id)

/-- A worker that finishes the last transition clears the domain although an earlier one is open. -/
theorem active_ne_lastUnfinished :
    ¬ ∀ state, (service hatchModes 4).Reaches (fun _ action => appendsSucceed action = true)
        (started ⟨1, initialModes hatchModes, ∅⟩ 2) state →
      ∀ domain, state.activeDomains.lookup domain = lastUnfinished domain state := by
  intro claimed
  obtain ⟨state, reached, differs⟩ := exists_served hatchModes 4 2
    ⟨1, initialModes hatchModes, ∅⟩ (fun _ action => appendsSucceed action)
    (fun _ _ checked => checked) overtaking
    (fun state => state.activeDomains.lookup 1 ≠ lastUnfinished 1 state) (by decide +kernel)
  exact differs (claimed state reached 1)

end OpenVehicle.Exec.Coordinator
