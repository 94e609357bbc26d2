/-
This file relates the committed mode of a domain to the stored phase of the transition that leaves it.
The journal may refuse events, and other transitions work at the same time.
-/

import OpenVehicle.Exec.CommittedModes

namespace OpenVehicle.Exec

open Concurrency FiniteMap ExecutionEngine TransitionPlanner

/-- The mode that a transition records as recovered. -/
def recoveredMode (transition : TransitionSnapshot) : Option ModeId := transition.failure.bind (·.recoveredMode)

variable (before : Option ModeId)

/-- The mode that a stored transition leaves behind, given the mode that it found. -/
def settledMode (transition : TransitionSnapshot) : Option ModeId :=
  if transition.phase = .succeeded then some transition.targetMode
  else (recoveredMode transition).or before

/-- A transition may lose this event because the event does not record a commit. -/
def Losable (transition : TransitionSnapshot) : Prop :=
  transition.phase ≠ .succeeded ∧ ∀ mode ∈ recoveredMode transition, before = some mode

instance (before : Option ModeId) (transition : TransitionSnapshot) :
    Decidable (Losable before transition) := inferInstanceAs (Decidable (_ ∧ _))

/-- The journal refuses no event in which the thread records its commit. -/
def commitsRecorded (index : Nat) (before : Option ModeId) (pool : EnginePool) : EngineChoice → Bool
  | .thread moving (.journal (.error _)) =>
      match pool.pending moving with
      | some (.append event) => decide (moving = index → Losable before event.transition)
      | _ => true
  | _ => true

/-- The committed mode of a domain and the stored snapshot of its transition. -/
structure Standing where
  mode : Option ModeId
  stored : Option TransitionSnapshot

/-- The stored snapshot explains the committed mode. -/
def Standing.Explained (model : ValidatedModel) (before : Option ModeId) (standing : Standing) : Prop :=
  ∃ snapshot, standing.stored = some snapshot ∧ standing.mode = settledMode before snapshot ∧
    ∀ mode, recoveredMode snapshot = some mode → snapshot.phase ≠ .succeeded ∧
      ∃ domain, model.findDomain snapshot.domain = some domain ∧ mode = domain.recovery.fallbackMode

/-- The transition has committed nothing yet. -/
def Standing.Unchanged (standing : Standing) : Prop :=
  standing.mode = before ∧ ∃ snapshot, standing.stored = some snapshot ∧
    snapshot.phase ≠ .succeeded ∧ recoveredMode snapshot = none

/-- The account of the committed mode and the stored snapshot. -/
def standingAccount (model : ValidatedModel) (transition : TransitionSnapshot) (before : Option ModeId) :
    Account Standing where
  mayFail := fun snapshot _ => Losable before snapshot
  stored := fun snapshot standing => { standing with stored := some snapshot }
  committed := fun mode standing => { standing with mode := some mode }
  opens := fun _ => False
  waits := fun _ => False
  replans := fun standing => standing.Unchanged before
  reads := fun domain standing => model.findDomain transition.domain = some domain ∧
    standing.Unchanged before
  finishes := fun standing => standing.Explained model before

variable {before : Option ModeId} {model : ValidatedModel} {state : EngineState} {op : EngineOp}

namespace Atomicity
variable {transition : TransitionSnapshot}
variable {standing : Standing}

theorem explained (unchanged : standing.Unchanged before) : standing.Explained model before := by
  obtain ⟨same, snapshot, stored, open_, unrecovered⟩ := unchanged
  refine ⟨snapshot, stored, ?_, ?_⟩
  · rw [same, settledMode, if_neg open_, unrecovered]
    rfl
  · intro mode recovered
    rw [unrecovered] at recovered
    cases recovered

/-- The recovery commits its mode before it records it. -/
theorem recovered {domain : DomainDefinition} {stopped started : List ExecutionUnitId}
    (found : model.findDomain transition.domain = some domain) (unchanged : standing.Unchanged before) :
    (standingAccount model transition before).Assured
      (Work.repaired transition .failed stopped started (some domain.recovery.fallbackMode))
      { standing with mode := some domain.recovery.fallbackMode } := by
  rintro snapshot ⟨failure, reports, rfl⟩
  have recovers : recoveredMode { transition with phase := .failed, failure := some failure } =
      some domain.recovery.fallbackMode := reports.mode
  refine ⟨trivial, ⟨_, rfl, ?_, ?_⟩, ?_⟩
  · show some domain.recovery.fallbackMode = settledMode before _
    rw [settledMode, if_neg (by simp), recovers]
    rfl
  · intro mode records
    rw [recovers] at records
    exact ⟨by simp, domain, found, (Option.some.inj records).symm⟩
  · rintro ⟨_, equal⟩
    exact .inr (explained ⟨(equal _ recovers).symm, unchanged.2⟩)

variable (unfailed : transition.failure = none)
include unfailed

/-- The commit stands before the event of the success. -/
theorem succeeded : (standingAccount model transition before).Assured (Work.recordPhase transition .succeeded
      Work.exit Work.exit) { standing with mode := some transition.targetMode } := by
  rintro snapshot rfl
  refine ⟨trivial, ⟨_, rfl, rfl, ?_⟩, fun lost => absurd rfl lost.1⟩
  intro mode recovers
  have none : recoveredMode { transition with phase := .succeeded } = none := by
    rw [unfailed]
    rfl
  rw [none] at recovers
  cases recovers

theorem steady : (standingAccount model transition before).Steady model transition (Standing.Unchanged before) where
  unfailed := unfailed
  records := fun snapshot _ plain _ unchanged =>
    ⟨trivial, ⟨unchanged.1, snapshot, rfl, plain.unsuccessful, plain.unrecovered⟩, unchanged⟩
  closes := fun snapshot _ plain _ unchanged => ⟨trivial,
    explained ⟨unchanged.1, snapshot, rfl, plain.unsuccessful, plain.unrecovered⟩, explained unchanged⟩
  stops := fun _ _ unchanged => ⟨trivial, trivial, unchanged⟩
  starts := fun _ _ unchanged => ⟨trivial, trivial, unchanged⟩
  reads := fun _ _ found unchanged => ⟨found, unchanged⟩
  commits := fun _ _ => ⟨trivial, succeeded unfailed⟩
  recovers := fun _ _ _ _ found unchanged => ⟨trivial, recovered found unchanged⟩

theorem sustains {plan : Option TransitionPlan} :
    (standingAccount model transition before).Sustains model transition plan op state standing where
  loaded := fun _ _ _ => trivial
  opened := fun _ _ impossible => impossible.elim
  refused := fun impossible => impossible.elim
  confirmed := fun _ _ _ unchanged => (steady unfailed).confirm unchanged
  repaired := fun _ _ reads => (steady unfailed).repair reads.1 reads.2

end Atomicity

section Segment
variable {index : Nat}
variable {position later : Position} {reply : op.Reply}

/-- What the engine stores about a thread and its domain. -/
def EngineState.standing (state : EngineState) (position : Position) : Standing :=
  ⟨state.configuration.committedModes.lookup position.transition.domain,
    state.transitions.lookup position.transition.id⟩

/-- A leased thread can explain the mode of its domain when it returns. -/
def Explains (model : ValidatedModel) (index : Nat) (transition : TransitionSnapshot)
    (before : Option ModeId) (other : Nat) (position : Position) (state : EngineState) : Prop :=
  other = index → position.transition = transition ∧ (position.work = .finished ∨
    position.leased = true ∧ position.registered = true ∧
      (standingAccount model transition before).Assured position.work (state.standing position))

variable {input : EngineInput}

theorem append_refused {event : JournalEvent} {cause : Error} {next : EngineState}
    (performed : perform model (.append event) input state = some (.error cause, next)) :
    input = .journal (.error cause) := by
  cases input with
  | journal outcome =>
      cases performed
      rfl
  | _ => cases performed

/-- The account sees what a step of its thread changes. -/
theorem standingAccount_after (rule : Rule model position op reply later) (known : position.work ≠ .void)
    (registered : position.registered = true) :
    (standingAccount model position.transition before).after op reply (state.standing position) =
      (effect op reply state).standing position := by
  cases rule with
  | register => cases registered
  | enterGranted => rfl
  | wakeGranted => rfl
  | release => rfl
  | move position moves =>
      cases moves with
      | void => exact absurd rfl known
      | store snapshot next kin =>
          have stored : (state.transitions.insert snapshot.id snapshot).lookup position.transition.id =
              some snapshot := by
            rw [kin.id]
            exact AList.lookup_insert _
          show Standing.mk _ (some snapshot) =
            Standing.mk _ ((state.transitions.insert snapshot.id snapshot).lookup _)
          rw [position.go_transition, stored]
          rfl
      | commit domain mode next same =>
          obtain rfl := same
          show Standing.mk (some mode) _ = Standing.mk
            ((state.configuration.committedModes.insert position.transition.domain mode).lookup
              position.transition.domain) _
          rw [AList.lookup_insert]
          rfl
      | attempt _ _ _ attempted => rw [effect_attempt attempted, Account.after_attempt attempted]
      | attemptFailed _ _ _ attempted => rw [effect_attempt attempted, Account.after_attempt attempted]
      | _ => rfl

variable {positions : Nat → Position} {pool : EnginePool}

/-- A leased thread keeps other threads from the mode of its domain. -/
theorem Sound.mode_effect {allowed : EnginePool → EngineChoice → Prop}
    {moving other : Nat} (sound : Sound model pool positions)
    (step : ThreadStep model allowed pool positions moving input op reply later)
    (inside : other < pool.threads.length) (different : other ≠ moving) (leased : (positions other).leased = true) :
    (effect op reply pool.shared).configuration.committedModes.lookup (positions other).transition.domain =
      pool.shared.configuration.committedModes.lookup (positions other).transition.domain := by
  have owned := sound.owned moving step.inside
  by_cases commits : ∃ domain mode, op = .commit domain mode
  · obtain ⟨domain, mode, rfl⟩ := commits
    obtain rfl := rule_commit step.rule owned.work_ne_void
    have moves := owned.leased_of_requires step.rule (by simp [Account.Requires, idleAccount])
    have guarded := sound.guarded_apart inside step.inside different leased moves
    refine AList.lookup_insert_ne fun same => guarded ?_
    rw [same]
    exact mem_guardedDomains_self model _
  · rw [committedModes_effect fun domain mode same => commits ⟨domain, mode, same⟩]

theorem explains_maintained (model : ValidatedModel) (index : Nat) (transition : TransitionSnapshot)
    (before : Option ModeId) : Maintains model (fun pool choice => commitsRecorded index before pool choice = true)
      (fun _ count _ => index < count) (Explains model index transition before) where
  step := by
    intro pool positions moving input op reply later sound holds step
    have owned := sound.owned moving step.inside
    refine ⟨holds.common, ?_, ?_⟩
    · rintro rfl
      obtain ⟨rfl, explains⟩ := holds.own moving step.inside rfl
      have same := (rule_transition step.rule).1
      refine ⟨same, ?_⟩
      rcases explains with finished | ⟨leased, registered, assured⟩
      · exact absurd finished (rule_ne_finished step.rule)
      · have moved := assured.step step.rule step.answers (Atomicity.sustains owned.failure)
          (fun impossible => impossible.elim) owned.opens (by
            rintro event error same
            obtain ⟨rfl, refused⟩ := Sigma.mk.inj_iff.mp same
            obtain rfl := eq_of_heq refused
            have permitted := step.permitted
            rw [append_refused step.performed] at permitted
            simp only [commitsRecorded, step.pending] at permitted
            exact of_decide_eq_true permitted trivial) fun _ _ => not_false
        rw [standingAccount_after step.rule owned.work_ne_void registered] at moved
        rcases leased_step step.rule leased with leased | ⟨_, finished⟩
        · refine .inr ⟨leased, registered_step step.rule registered, ?_⟩
          unfold EngineState.standing at moved ⊢
          rw [same]
          exact moved
        · exact .inl finished
    · rintro other inside different rfl
      obtain ⟨rfl, explains⟩ := holds.own other inside rfl
      refine ⟨rfl, ?_⟩
      rcases explains with finished | ⟨leased, registered, assured⟩
      · exact .inl finished
      · refine .inr ⟨leased, registered, ?_⟩
        have apart : (positions other).transition.id ≠ moving + 1 := by
          rw [(sound.owned other inside).id]
          exact fun same => different (Nat.succ.inj same)
        have entries := owned.others step.rule apart
        have modes := sound.mode_effect step inside different leased
        unfold EngineState.standing at assured ⊢
        rw [modes, entries.transitions]
        exact assured
  cancel := by
    intro pool positions id state sound holds _ cancelled
    obtain ⟨_, _, _, _, _, rfl⟩ := cancel_eq_ok cancelled
    exact ⟨holds.common, holds.own⟩
  request := by
    intro pool positions baseline domain target sound holds _
    have known := holds.common
    refine ⟨Nat.lt_succ_of_lt known, fun other inside => ?_⟩
    rintro rfl
    rw [Function.update_of_ne (Nat.ne_of_lt known)]
    exact holds.own other known rfl

/-- A thread that has just taken its lease has not changed anything. -/
theorem Sound.unchanged (sound : Sound model pool positions) {domain : DomainId} {target : ModeId}
    (pending : pool.pending index = some (.replan domain target)) :
    index < pool.threads.length ∧ (positions index).leased = true ∧
    (positions index).registered = true ∧ (positions index).work = .replanning ∧
    domain = (positions index).transition.domain ∧ target = (positions index).transition.targetMode ∧
    (pool.shared.standing (positions index)).Unchanged (pool.shared.configuration.committedModes.lookup domain) := by
  obtain ⟨inside, later, rule⟩ := sound.rule_of_pending pending (.error {})
  have owned := sound.owned index inside
  obtain ⟨replanning, rfl, rfl⟩ := rule_replan rule owned.work_ne_void
  have leased := owned.leased_of_requires rule (by simp [Account.Requires, idleAccount])
  have registered := owned.registered_of_rule rule (by simp)
  have planned := owned.work
  rw [replanning] at planned
  refine ⟨inside, leased, registered, replanning, rfl, rfl, rfl,
    { (positions index).transition with phase := .planned }, ?_, ?_, ?_⟩
  · show pool.shared.transitions.lookup (positions index).transition.id = _
    rw [owned.id]
    exact planned
  · simp
  · unfold recoveredMode
    simp [owned.failure]

end Segment

/-- Distinct modes tell the three outcomes of a transition apart. -/
theorem settledMode_iff {snapshot : TransitionSnapshot} {fallback : ModeId}
    (recovers : ∀ mode, recoveredMode snapshot = some mode → snapshot.phase ≠ .succeeded ∧ mode = fallback)
    (fromTarget : before ≠ some snapshot.targetMode) (fromFallback : before ≠ some fallback)
    (apart : snapshot.targetMode ≠ fallback) :
    (settledMode before snapshot = some snapshot.targetMode ↔ snapshot.phase = .succeeded) ∧
    (settledMode before snapshot = some fallback ↔ recoveredMode snapshot = some fallback) := by
  unfold settledMode
  cases recovered : recoveredMode snapshot with
  | some mode =>
      obtain ⟨open_, rfl⟩ := recovers mode recovered
      rw [if_neg open_]
      simp [open_, Ne.symm apart]
  | none =>
      by_cases succeeded : snapshot.phase = .succeeded
      · simp [succeeded, apart]
      · simp [succeeded, fromTarget, fromFallback]

/-- The stored phase of a returning transition explains the mode of its domain. -/
theorem mode_settled (model : ValidatedModel) (configuration : SystemConfiguration)
    (start pool : EnginePool) (index : Nat) (domain : DomainId) (target : ModeId) (id : TransitionId)
    (began : (machine model).Reaches (fun _ _ => True) (created configuration) start)
    (leased : start.pending index = some (.replan domain target))
    (reached : (machine model).Reaches (fun pool choice => commitsRecorded index
      (start.shared.configuration.committedModes.lookup domain) pool choice = true) start pool)
    (returns : pool.pending index = some (.release id)) :
    ∃ snapshot, pool.shared.transitions.lookup (index + 1) = some snapshot ∧
      snapshot.domain = domain ∧ snapshot.targetMode = target ∧ pool.shared.configuration.committedModes.lookup domain =
        settledMode (start.shared.configuration.committedModes.lookup domain) snapshot ∧
      ∀ definition, model.findDomain domain = some definition →
        start.shared.configuration.committedModes.lookup domain ≠ some target →
        start.shared.configuration.committedModes.lookup domain ≠ some definition.recovery.fallbackMode →
        target ≠ definition.recovery.fallbackMode →
        (pool.shared.configuration.committedModes.lookup domain = some target ↔ snapshot.phase = .succeeded) ∧
        (pool.shared.configuration.committedModes.lookup domain = some definition.recovery.fallbackMode ↔
          recoveredMode snapshot = some definition.recovery.fallbackMode) := by
  obtain ⟨first, sound⟩ := sound_of_reaches began
  obtain ⟨inside, held, registered, replanning, rfl, rfl, unchanged⟩ := sound.unchanged leased
  have begins : Holds (fun _ count _ => index < count) (Explains model index (first index).transition
      (start.shared.configuration.committedModes.lookup (first index).transition.domain))
      start.shared start.threads.length first := by
    refine ⟨inside, ?_⟩
    rintro other _ rfl
    refine ⟨rfl, .inr ⟨held, registered, ?_⟩⟩
    rw [replanning]
    exact unchanged
  obtain ⟨positions, later, holds⟩ := (explains_maintained model index _ _).reaches sound begins reached
  obtain ⟨_, _, rule⟩ := later.rule_of_pending returns ()
  have owned := later.owned index holds.common
  have releasing := rule_release rule owned.work_ne_void
  obtain ⟨same, explains⟩ := holds.own index holds.common rfl
  obtain ⟨_, registered, explained⟩ := explains.resolve_left (by simp [releasing])
  rw [releasing] at explained
  obtain ⟨snapshot, stored, settled, fallback⟩ := explained
  obtain ⟨other, known, kin⟩ := owned.stored registered
  have located : pool.shared.transitions.lookup (index + 1) = some snapshot := by
    rw [← owned.id]
    exact stored
  obtain rfl := Option.some.inj (known.symm.trans located)
  have domain : other.domain = (first index).transition.domain := by rw [kin.domain, same]
  have target : other.targetMode = (first index).transition.targetMode := by rw [kin.target, same]
  have mode : pool.shared.configuration.committedModes.lookup (first index).transition.domain =
      settledMode (start.shared.configuration.committedModes.lookup (first index).transition.domain)
        other := by
    rw [← settled, ← same]
    rfl
  refine ⟨other, located, domain, target, mode, ?_⟩
  intro definition found fromTarget fromFallback apart
  rw [← target] at fromTarget apart
  rw [mode, ← target]
  refine settledMode_iff ?_ fromTarget fromFallback apart
  intro recovered records
  obtain ⟨open_, located, same, selected⟩ := fallback recovered records
  rw [domain, found] at same
  cases same
  exact ⟨open_, selected⟩

/-- A failed start enters a mode without units. -/
def steeringModes : ValidatedModel where
  value := {
    generation := 1
    units := [{ id := 1, name := "assist" }]
    domains := [
      { id := 1, name := "steering", initialMode := 1,
        recovery := { action := .enterFallbackMode, fallbackMode := 3 },
        modes := [{ id := 1, name := "parked" }, { id := 2, name := "assisted", units := [1] },
          { id := 3, name := "manual" }] }] }
  valid := by decide +kernel

/-- A refused event before the commit leaves the old mode and a failed transition. -/
theorem mode_settled_refused : ∃ start pool : EnginePool, (machine steeringModes).Reaches (fun _ _ => True)
      (created ⟨1, initialModes steeringModes, ∅⟩) start ∧
    start.pending 0 = some (.replan 1 2) ∧ pool.pending 0 = some (.release 1) ∧
    ∃ snapshot, pool.shared.transitions.lookup 1 = some snapshot ∧ snapshot.phase = .failed ∧
      pool.shared.configuration.committedModes.lookup 1 = settledMode (some 1) snapshot := by
  let schedule := List.replicate 12 (advance 0) ++ [refuseAppend 0] ++ List.replicate 3 (advance 0)
  obtain ⟨start, began, leased, before, executed⟩ := exists_run steeringModes
    ⟨1, initialModes steeringModes, ∅⟩ (fun _ _ => true) (fun _ _ _ => trivial)
    ([requestMode 1 2] ++ List.replicate 9 (advance 0))
    (fun start => start.pending 0 = some (.replan 1 2) ∧
      start.shared.configuration.committedModes.lookup 1 = some 1 ∧
      ((machine steeringModes).run (commitsRecorded 0 (some 1)) schedule start).any (fun pool =>
        decide (pool.pending 0 = some (.release 1) ∧ (pool.shared.transitions.lookup 1).any
          (fun snapshot => snapshot.phase == .failed) = true)) = true) (by decide +kernel)
  obtain ⟨pool, reached, ended⟩ := System.Reaches.exists_of_run (commitsRecorded 0 (some 1))
    (fun _ _ permitted => permitted) schedule _ executed
  obtain ⟨returns, failed⟩ := of_decide_eq_true ended
  rw [← before] at reached
  obtain ⟨snapshot, stored, _, _, settled, _⟩ := mode_settled steeringModes _ start pool 0 1 2 1 began
    leased reached returns
  rw [before] at settled
  rw [stored] at failed
  exact ⟨start, pool, began, leased, returns, snapshot, stored, eq_of_beq failed, settled⟩

/-- A refused event after the commit leaves the new mode and a failed transition. -/
theorem mode_unsettled : initialConfiguration steeringModes = .ok ⟨1, initialModes steeringModes, ∅⟩ ∧
    ¬ ∀ start pool : EnginePool, (machine steeringModes).Reaches (fun _ _ => True)
        (created ⟨1, initialModes steeringModes, ∅⟩) start → start.pending 0 = some (.replan 1 2) →
      (machine steeringModes).Reaches (fun _ _ => True) start pool → pool.pending 0 = some (.release 1) →
      ∀ snapshot, pool.shared.transitions.lookup 1 = some snapshot →
        (pool.shared.configuration.committedModes.lookup 1 = some 2 ↔ snapshot.phase = .succeeded) := by
  refine ⟨rfl, fun settled => ?_⟩
  let schedule := List.replicate 16 (advance 0) ++ [refuseAppend 0] ++ List.replicate 3 (advance 0)
  obtain ⟨start, began, leased, executed⟩ := exists_run steeringModes
    ⟨1, initialModes steeringModes, ∅⟩ (fun _ _ => true) (fun _ _ _ => trivial)
    ([requestMode 1 2] ++ List.replicate 9 (advance 0))
    (fun start => start.pending 0 = some (.replan 1 2) ∧
      ((machine steeringModes).run (fun _ _ => true) schedule start).any (fun pool =>
        decide (pool.pending 0 = some (.release 1) ∧
          pool.shared.configuration.committedModes.lookup 1 = some 2 ∧
          (pool.shared.transitions.lookup 1).any (fun snapshot => snapshot.phase == .failed) = true)) =
        true) (by decide +kernel)
  obtain ⟨pool, reached, ended⟩ := System.Reaches.exists_of_run (fun _ _ => true)
    (fun _ _ _ => trivial) schedule _ executed
  obtain ⟨returns, committed, failed⟩ := of_decide_eq_true ended
  obtain ⟨snapshot, stored, phase⟩ := (Option.any_eq_true _ _).mp failed
  have succeeded := (settled start pool began leased reached returns snapshot stored).mp committed
  rw [succeeded] at phase
  cases phase

end OpenVehicle.Exec
