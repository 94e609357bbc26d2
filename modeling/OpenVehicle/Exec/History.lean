/-
This file proves that the replay loop accepts the journal of the engine.
The phases that a transition records stand in the order that the replay loop checks.
-/

import OpenVehicle.Exec.Replay
import OpenVehicle.Exec.Runs

namespace OpenVehicle.Exec

open Concurrency FiniteMap ExecutionEngine TransitionPlanner

/-- The journal does not refuse an event. -/
def journalWorks : EngineChoice → Bool
  | .thread _ (.journal (.error _)) => false
  | _ => true

/-- A request names two modes of its domain, and its baseline runs units of the model. -/
structure KnownRequest (model : ValidatedModel) (baseline : SystemConfiguration) (domain : DomainId)
    (target : ModeId) : Prop where
  source : ∃ mode, baseline.committedModes.lookup domain = some mode ∧
    (model.findMode ⟨domain, mode⟩).isSome
  target : (model.findMode ⟨domain, target⟩).isSome
  units : ∀ unit ∈ baseline.runningUnits, (model.findUnit unit).isSome

/-- Every request of a run is known, and every append succeeds. -/
def KnownRequests (model : ValidatedModel) (_ : EnginePool) (choice : EngineChoice) : Prop :=
  journalWorks choice = true ∧ ∀ baseline domain target, choice = .event (.request baseline domain target) →
    KnownRequest model baseline domain target

/-- The last snapshot of a transition in the journal. -/
def lastSnapshot (journal : List JournalEvent) (id : TransitionId) : Option TransitionSnapshot :=
  journal.foldl (fun last event => if event.transition.id = id then some event.transition else last) none

@[simp] theorem lastSnapshot_append (journal : List JournalEvent) (event : JournalEvent)
    (id : TransitionId) : lastSnapshot (journal ++ [event]) id =
      if event.transition.id = id then some event.transition else lastSnapshot journal id := by
  unfold lastSnapshot
  rw [List.foldl_append]
  rfl

/-- A transition without an event is still received. -/
def lastPhase (journal : List JournalEvent) (id : TransitionId) : TransitionPhase :=
  (lastSnapshot journal id).elim .received (·.phase)

theorem validProgress_of_lt {previous next : TransitionPhase} (early : previous.value < 7)
    (later : previous.value < next.value) : validProgress previous next = true := by
  cases previous <;> simp_all [validProgress, TransitionPhase.value, TransitionPhase.isTerminal]

theorem seven_le_terminalPhase (code : ErrorCode) : 7 < (terminalPhase code).value := by
  cases code <;> decide

/-- A plan names objects of the model and belongs to its transition. -/
structure KnownPlan (model : ValidatedModel) (transition : TransitionSnapshot) (plan : TransitionPlan) :
    Prop where
  generation : plan.generation = model.value.generation
  domain : plan.domain = transition.domain
  source : plan.sourceMode = transition.sourceMode
  target : plan.targetMode = transition.targetMode
  units : ∀ unit ∈ plan.retain ++ plan.stop ++ plan.start, (model.findUnit unit).isSome
  domains : ∀ domain ∈ plan.guardedDomains, (model.findDomain domain).isSome

variable {model : ValidatedModel} {unit : ExecutionUnitId} {plan : TransitionPlan} {event : JournalEvent}

section Plans
variable {transition : TransitionSnapshot}

theorem closed_known {units : Finset ExecutionUnitId} (closed : Closed model units)
    (member : unit ∈ units) : (model.findUnit unit).isSome := by
  obtain ⟨definition, found, _⟩ := closed unit member
  exact Option.isSome_of_eq_some found

theorem guardedDomains_known {domain : DomainId} (known : (model.findDomain domain).isSome)
    {other : DomainId} (member : other ∈ guardedDomains model domain) : (model.findDomain other).isSome := by
  unfold guardedDomains at member
  simp only [Finset.mem_insert, List.mem_toFinset, List.mem_flatMap] at member
  obtain rfl | ⟨candidate, listed, mode, inside, constraint, constrained, chosen⟩ := member
  · exact known
  · split at chosen
    · rcases List.mem_pair.mp chosen with rfl | rfl
      · exact findDomain_isSome listed
      · obtain ⟨found, defined⟩ := Option.isSome_iff_exists.mp
          (ValidatedModel.constraint_defined listed inside constrained)
        exact ValidatedModel.findDomain_of_findMode defined
    · cases chosen

/-- The plan of a known request is known. -/
theorem knownPlan_of_planned {baseline : SystemConfiguration} {required : Finset ExecutionUnitId}
    (units : ∀ unit ∈ baseline.runningUnits, (model.findUnit unit).isSome)
    (planned : Planned model baseline transition.domain transition.targetMode plan required)
    (source : transition.sourceMode = plan.sourceMode) : KnownPlan model transition plan where
  generation := by rw [planned.shape]
  domain := by rw [planned.shape]
  source := source.symm
  target := by rw [planned.shape]
  units := by
    intro unit member
    rw [planned.shape] at member
    simp only [List.mem_append, mem_order, Finset.mem_inter, Finset.mem_sdiff] at member
    rcases member with (⟨needed, _⟩ | ⟨runs, _⟩) | ⟨needed, _⟩
    · exact closed_known planned.closed needed
    · exact units unit runs
    · exact closed_known planned.closed needed
  domains := by
    intro domain member
    rw [planned.guardedDomains_eq, mem_sorted] at member
    obtain ⟨mode, defined⟩ := Option.isSome_iff_exists.mp planned.defined
    exact guardedDomains_known (ValidatedModel.findDomain_of_findMode defined) member

/-- The replay loop accepts a known plan. -/
theorem checkPlan_eq_ok (known : KnownPlan model transition plan)
    (kin : Kin transition event.transition) (generation : event.generation = model.value.generation) :
    Replay.checkPlan model event plan = .ok () := by
  unfold Replay.checkPlan
  rw [if_neg, if_neg]
  · simp only [Replay.validApplications, Replay.validDomains, Bool.not_eq_true, Bool.not_eq_false',
      Bool.and_eq_true, List.all_eq_true]
    refine ⟨⟨⟨?_, ?_⟩, ?_⟩, known.domains⟩
    · exact fun unit member => known.units unit (by simp [member])
    · exact fun unit member => known.units unit (by simp [member])
    · exact fun unit member => known.units unit (by simp [member])
  · rw [generation, kin.domain, kin.source, kin.target, known.generation, known.domain, known.source, known.target]
    simp

end Plans

/-- The account of the recorded phases. -/
def historyAccount (model : ValidatedModel) (position : Position) : Account TransitionPhase where
  loads := fun event => event.generation = model.value.generation ∧ event.plan = position.plan
  appends := fun snapshot phase => Kin position.transition snapshot ∧
    validProgress phase snapshot.phase = true ∧
    (snapshot.phase = .succeeded → position.plan.isSome) ∧
    ∀ failure, snapshot.failure = some failure → Replay.ValidReport model snapshot failure
  appended := fun snapshot _ => snapshot.phase
  mayFail := fun _ _ => False
  inserts := fun unit _ => (model.findUnit unit).isSome
  opens := fun phase => phase = .planned
  waits := fun phase => phase = .planned
  replans := fun phase => phase = .planned
  reads := fun domain phase =>
    phase = .recovering ∧ model.findDomain position.transition.domain = some domain

variable {position : Position} {state : EngineState} {op : EngineOp} {index : Nat}

namespace History
variable {phase : TransitionPhase}
variable (unfailed : position.transition.failure = none) {mode : Option ModeId} {next : TransitionPhase}
variable {stopped started : List ExecutionUnitId}

theorem ended {snapshot : TransitionSnapshot}
    (ended : Work.Ended position.transition next stopped started mode snapshot)
    (progress : validProgress phase next = true) (other : next ≠ .succeeded)
    (modes : ∀ recovered ∈ mode, (model.findMode ⟨position.transition.domain, recovered⟩).isSome)
    (stops : ∀ unit ∈ stopped, (model.findUnit unit).isSome) (starts : ∀ unit ∈ started, (model.findUnit unit).isSome) :
    (historyAccount model position).appends snapshot phase := by
  obtain ⟨failure, reports, rfl⟩ := ended
  refine ⟨⟨rfl, rfl, rfl, rfl⟩, progress, fun succeeded => absurd succeeded other, ?_⟩
  intro report same
  cases same
  exact ⟨reports.mode ▸ modes, reports.stopped ▸ stops, reports.started ▸ starts⟩

theorem failing {after : Work} (ends : after = .finished ∨ after = .releasing) (early : phase.value < 7) :
    (historyAccount model position).Assured (Work.failing position.transition after) phase := by
  rintro snapshot ⟨code, failed⟩
  have later := seven_le_terminalPhase code
  have appends : (historyAccount model position).appends snapshot phase :=
    ended failed (validProgress_of_lt early (by omega)) (terminalPhase_ne_succeeded code)
      (by simp) (by simp) (by simp)
  rcases ends with rfl | rfl <;> exact ⟨appends, trivial, False.elim⟩

theorem repaired (ends : next = .failed ∨ next = .recoveryFailed)
    (modes : ∀ recovered ∈ mode, (model.findMode ⟨position.transition.domain, recovered⟩).isSome)
    (stops : ∀ unit ∈ stopped, (model.findUnit unit).isSome) (starts : ∀ unit ∈ started, (model.findUnit unit).isSome) :
    (historyAccount model position).Assured
      (Work.repaired position.transition next stopped started mode) .recovering := by
  intro snapshot recorded
  refine ⟨ended recorded ?_ ?_ modes stops starts, trivial, False.elim⟩
  · rcases ends with rfl | rfl <;> decide
  · rcases ends with rfl | rfl <;> decide

include unfailed

theorem recordPhase {work after : Work} (early : phase.value < 7) (later : phase.value < next.value)
    (succeeds : next = .succeeded → position.plan.isSome)
    (assured : (historyAccount model position).Assured work next) : (historyAccount model position).Assured
      (Work.recordPhase position.transition next work after) phase := by
  rintro snapshot rfl
  refine ⟨⟨⟨rfl, rfl, rfl, rfl⟩, validProgress_of_lt early later, succeeds, ?_⟩, assured, False.elim⟩
  intro failure failed
  rw [unfailed] at failed
  cases failed

omit unfailed in
theorem recovering (early : phase.value < 7) :
    (historyAccount model position).Assured (Work.recovering model position.transition) phase := by
  unfold Work.recovering
  cases found : model.findDomain position.transition.domain with
  | none => exact failing (.inr rfl) early
  | some domain =>
      simp only
      split
      · exact failing (.inr rfl) early
      · intro snapshot recorded
        have next : snapshot.phase = .recovering := by
          obtain ⟨_, _, rfl⟩ := recorded
          rfl
        refine ⟨ended recorded (validProgress_of_lt early ?_) (by simp) (by simp) (by simp) (by simp),
          ?_, False.elim⟩
        · show phase.value < 14
          omega
        · show (historyAccount model position).Assured (Work.recovery position.transition domain)
            snapshot.phase
          rw [next]
          unfold Work.recovery
          cases domain.recovery.action with
          | enterFallbackMode => exact ⟨rfl, found⟩
          | stopDomain => exact ⟨rfl, found⟩
          | requestSystemRecovery =>
              exact ⟨repaired (.inl rfl) (by simp) (by simp) (by simp),
                repaired (.inr rfl) (by simp) (by simp) (by simp)⟩
          | holdObservedConfiguration => exact repaired (.inr rfl) (by simp) (by simp) (by simp)
          | rollbackIfDeclaredSafe => exact repaired (.inr rfl) (by simp) (by simp) (by simp)

section
variable (planned : position.plan.isSome)
include planned

theorem commit (early : phase.value < 6) :
    (historyAccount model position).Assured (Work.commit position.transition) phase := by
  have succeeds : (historyAccount model position).Assured
      (Work.recordPhase position.transition .succeeded Work.exit Work.exit) .committing :=
    recordPhase unfailed (by decide) (by decide) (fun _ => planned) trivial
  exact recordPhase unfailed (by omega) early (by simp) ⟨trivial, succeeds⟩

theorem starts {rest : List ExecutionUnitId}
    (known : ∀ unit ∈ rest, (model.findUnit unit).isSome) (early : phase.value < 6) :
    (historyAccount model position).Assured (Work.starts model position.transition rest) phase := by
  refine Account.assured_starts
    (fun rest phase => (∀ unit ∈ rest, (model.findUnit unit).isSome) ∧ phase.value < 6) ?_ ?_
    ⟨known, early⟩
  · rintro unit rest phase ⟨known, early⟩
    exact ⟨trivial, known unit List.mem_cons_self,
      ⟨fun other member => known other (List.mem_cons_of_mem _ member), early⟩,
      .inr (recovering (by omega)), .inr (failing (.inr rfl) (by omega))⟩
  · rintro phase ⟨_, early⟩
    exact commit unfailed planned early

theorem beginStarts {start : List ExecutionUnitId}
    (known : ∀ unit ∈ start, (model.findUnit unit).isSome) (early : phase.value < 4) :
    (historyAccount model position).Assured (Work.beginStarts model position.transition start) phase := by
  unfold Work.beginStarts
  split
  · exact starts unfailed planned known (by omega)
  · refine recordPhase unfailed (by omega) early (by simp) ?_
    split
    · refine recordPhase unfailed (by decide) (by decide) (by simp) ?_
      exact starts unfailed planned known (by decide)
    · exact starts unfailed planned known (by decide)

theorem execute (known : ∀ unit ∈ plan.start, (model.findUnit unit).isSome) (early : phase.value < 3) :
    (historyAccount model position).Assured (Work.execute model position.transition plan) phase := by
  unfold Work.execute
  split
  · exact beginStarts unfailed planned known (by omega)
  · refine recordPhase unfailed (by omega) early (by simp) ?_
    refine Account.assured_stops (fun _ phase => phase.value < 4) ?_ ?_ (by decide)
    · intro unit rest phase early
      exact ⟨trivial, trivial, early, .inr (recovering (by omega)),
        .inr (failing (.inr rfl) (by omega))⟩
    · intro phase early
      exact beginStarts unfailed planned known early

end

theorem accept (plan : Option TransitionPlan) :
    (historyAccount model position).Assured (Work.accept position.transition plan) .received := by
  have early : TransitionPhase.received.value < 1 := by decide
  cases plan with
  | none => exact failing (.inl rfl) (Nat.lt_trans early (by decide))
  | some plan =>
      refine recordPhase unfailed (Nat.lt_trans early (by decide)) early (by simp) ?_
      exact recordPhase unfailed (by decide) (by decide) (by simp) rfl

omit unfailed in
theorem repairStops {start stop : List ExecutionUnitId}
    (modes : ∀ recovered ∈ mode, (model.findMode ⟨position.transition.domain, recovered⟩).isSome)
    (stops : ∀ unit ∈ stop, (model.findUnit unit).isSome) (starts : ∀ unit ∈ start, (model.findUnit unit).isSome) :
    (historyAccount model position).Assured (Work.repairStops position.transition mode start stop []) .recovering := by
  let known (units : List ExecutionUnitId) : Prop := ∀ unit ∈ units, (model.findUnit unit).isSome
  have split {unit : ExecutionUnitId} {rest : List ExecutionUnitId} (all : known (unit :: rest)) :
      (model.findUnit unit).isSome ∧ known rest :=
    ⟨all unit List.mem_cons_self, fun other member => all other (List.mem_cons_of_mem _ member)⟩
  have extend {unit : ExecutionUnitId} {units : List ExecutionUnitId} (all : known units)
      (found : (model.findUnit unit).isSome) : known (units ++ [unit]) := by
    intro other member
    rcases List.mem_append.mp member with earlier | last
    · exact all other earlier
    · rw [List.mem_singleton.mp last]
      exact found
  refine Account.assured_repairStops
    (fun rest stopped phase => phase = .recovering ∧ known rest ∧ known stopped) ?_ ?_
    ⟨rfl, stops, by simp [known]⟩
  · rintro unit rest stopped _ ⟨rfl, all, done⟩
    exact ⟨trivial, trivial, ⟨rfl, (split all).2, extend done (split all).1⟩,
      .inr (repaired (.inr rfl) (by simp) done (by simp))⟩
  · rintro stopped _ ⟨rfl, _, done⟩
    refine Account.assured_repairStarts
      (fun rest started phase => phase = .recovering ∧ known rest ∧ known started) ?_ ?_
      ⟨rfl, starts, by simp [known]⟩
    · rintro unit rest started _ ⟨rfl, all, ready⟩
      exact ⟨trivial, (split all).1, ⟨rfl, (split all).2, extend ready (split all).1⟩,
        .inr (repaired (.inr rfl) (by simp) done ready)⟩
    · rintro started _ ⟨rfl, _, ready⟩
      cases mode with
      | none => exact repaired (.inl rfl) (by simp) done ready
      | some mode => exact ⟨trivial, repaired (.inl rfl) modes done ready⟩

omit unfailed in
theorem repair {domain : DomainDefinition} {configuration : SystemConfiguration}
    (found : model.findDomain position.transition.domain = some domain)
    (units : ∀ unit ∈ configuration.runningUnits, (model.findUnit unit).isSome) :
    (historyAccount model position).Assured
      (Work.repair model position.transition domain configuration) .recovering := by
  unfold Work.repair
  split
  · rename_i action
    split
    · exact repaired (.inr rfl) (by simp) (by simp) (by simp)
    · rename_i plan reconciled
      obtain ⟨required, planned, _⟩ := buildPlan_eq_ok reconciled
      refine repairStops ?_ ?_ ?_
      · rintro _ ⟨⟩
        obtain ⟨listed, same⟩ := findDomain_eq_some found
        rw [← same]
        exact ValidatedModel.fallbackMode_defined listed action
      · exact fun unit member => units unit (planned.mem_stop.mp member).1
      · exact fun unit member => closed_known planned.closed (planned.mem_start.mp member).1
  · split
    · exact repaired (.inr rfl) (by simp) (by simp) (by simp)
    · rename_i stopped reduced
      obtain ⟨required, _, _, rfl⟩ := stopDomainUnits_eq_ok reduced
      refine repairStops (by simp) (fun unit member => ?_) (by simp)
      rw [mem_order, Finset.mem_sdiff] at member
      exact units unit member.1

theorem sustains (owned : Owned model index position state)
    (loads : ∀ id, op = .loadPlan id → position.registered = true)
    (known : ∀ plan, position.plan = some plan → KnownPlan model position.transition plan)
    (units : ∀ unit ∈ state.configuration.runningUnits, (model.findUnit unit).isSome) :
    (historyAccount model position).Sustains model position.transition position.plan op state phase where
  loaded := by
    intro snapshot kin loading
    refine ⟨rfl, ?_⟩
    show state.plans.lookup snapshot.id = position.plan
    rw [kin.id, owned.id]
    exact owned.plans (loads _ loading)
  opened := by
    rintro plan _ rfl
    unfold Work.request
    split
    · exact failing (.inl rfl) (by decide)
    · rfl
  refused := by
    rintro rfl
    exact .inr (failing (.inl rfl) (by decide))
  confirmed := by
    rintro accepted planned _ rfl
    unfold Work.confirm
    split
    · exact failing (.inr rfl) (by decide)
    · split
      · exact failing (.inr rfl) (by decide)
      · refine execute unfailed (Option.isSome_of_eq_some planned) (fun unit member => ?_) (by decide)
        exact (known accepted planned).units unit (List.mem_append_right _ member)
  repaired := by
    rintro domain _ ⟨rfl, found⟩
    exact repair found units

end History

/-- The replay accepts the journal, and the engine runs units of the model. -/
structure HistoryReplayed (model : ValidatedModel) (initial : SystemConfiguration) (state : EngineState)
    (count : Nat) (_ : Nat → Position) : Prop where
  units : ∀ unit ∈ state.configuration.runningUnits, (model.findUnit unit).isSome
  fresh : ∀ id, count < id → lastSnapshot state.journal id = none
  accepted : ∃ replayed, Replay.replay model { configuration := initial } state.journal = .ok replayed ∧
    (∀ id, replayed.transitions.lookup id = lastSnapshot state.journal id) ∧
    replayed.configuration = Replay.journaledConfiguration initial state.journal

/-- A thread continues the history of its transition. -/
structure ContinuesHistory (model : ValidatedModel) (index : Nat) (position : Position)
    (state : EngineState) : Prop where
  identity : Replay.validIdentity model position.transition = true
  plan : ∀ plan, position.plan = some plan → KnownPlan model position.transition plan
  last : ∀ last, lastSnapshot state.journal (index + 1) = some last → Kin position.transition last
  work : (historyAccount model position).Assured position.work (lastPhase state.journal (index + 1))

theorem validIdentity_kin {transition snapshot : TransitionSnapshot} (kin : Kin transition snapshot) :
    Replay.validIdentity model snapshot = Replay.validIdentity model transition := by
  unfold Replay.validIdentity
  rw [kin.id, kin.domain, kin.source, kin.target]

/-- The replay accepts the next event of a thread. -/
theorem ContinuesHistory.acceptable (continues : ContinuesHistory model index position state)
    (id : position.transition.id = index + 1) (requires : (historyAccount model position).Requires (.append event)
      (lastPhase state.journal (index + 1))) {replayed : ReplayState}
    (lookup : ∀ id, replayed.transitions.lookup id = lastSnapshot state.journal id) :
    Replay.Acceptable model replayed event := by
  obtain ⟨⟨generation, loaded⟩, kin, progress, succeeds, reports⟩ := requires
  refine ⟨generation, ?_, ?_, ?_, reports, ?_⟩
  · rw [validIdentity_kin kin]
    exact continues.identity
  · intro previous found
    rw [lookup, kin.id, id] at found
    have same := continues.last previous found
    have phase : lastPhase state.journal (index + 1) = previous.phase := by
      unfold lastPhase
      rw [found]
      rfl
    rw [phase] at progress
    simp only [Replay.validHistory, Bool.and_eq_true, beq_iff_eq]
    exact ⟨⟨⟨same.domain.trans kin.domain.symm, same.source.trans kin.source.symm⟩,
      same.target.trans kin.target.symm⟩, progress⟩
  · intro plan planned
    exact checkPlan_eq_ok (continues.plan plan (loaded ▸ planned)) kin generation
  · intro succeeded
    rw [loaded]
    exact succeeds succeeded

theorem journal_effect (other : ∀ event, op ≠ .append event) (reply : op.Reply) (state : EngineState) :
    (effect op reply state).journal = state.journal := by
  unfold effect
  split
  all_goals try rfl
  exact absurd rfl (other _)

/-- Only the insertions add running units. -/
theorem runningUnits_effect (reply : op.Reply) (state : EngineState)
    (runs : unit ∈ (effect op reply state).configuration.runningUnits) :
    unit ∈ state.configuration.runningUnits ∨ op = .insertRunning unit := by
  unfold effect at runs
  split at runs
  all_goals try exact .inl runs
  · exact .inl (Finset.mem_of_mem_erase runs)
  · rcases Finset.mem_insert.mp runs with rfl | before
    · exact .inr rfl
    · exact .inl before

/-- A working journal accepts the event that it is given. -/
theorem append_accepted {input : EngineInput} {reply : Result Unit}
    {state later : EngineState} (works : journalWorks (.thread index input) = true)
    (performed : perform model (.append event) input state = some (reply, later)) : reply = .ok () := by
  cases input with
  | journal outcome =>
      obtain ⟨rfl, _⟩ := Prod.mk.inj (Option.some.inj performed)
      cases outcome with
      | ok value => rfl
      | error cause => cases works
  | _ => cases performed

theorem historyAccount_after (other : ∀ event, op ≠ .append event) (reply : op.Reply) (phase : TransitionPhase) :
    (historyAccount model position).after op reply phase = phase := by
  cases op with
  | append event => exact absurd rfl (other event)
  | _ => rfl

/-- A thread goes on as before when its last snapshot in the journal is the same. -/
theorem ContinuesHistory.frame {later : EngineState} (continues : ContinuesHistory model index position state)
    (same : lastSnapshot later.journal (index + 1) = lastSnapshot state.journal (index + 1)) :
    ContinuesHistory model index position later := by
  refine ⟨continues.identity, continues.plan, ?_, ?_⟩
  · rw [same]
    exact continues.last
  · rw [lastPhase, same]
    exact continues.work

/-- The replay accepts the journal with one more event of a thread. -/
theorem HistoryReplayed.append {initial : SystemConfiguration} {count : Nat} {positions later : Nat → Position}
    (replays : HistoryReplayed model initial state count positions) (inside : index < count)
    (own : event.transition.id = index + 1)
    (acceptable : ∀ replayed : ReplayState, (∀ id, replayed.transitions.lookup id = lastSnapshot state.journal id) →
      Replay.Acceptable model replayed event) :
    HistoryReplayed model initial { state with journal := state.journal ++ [event] } count later := by
  obtain ⟨replayed, accepted, lookup, configured⟩ := replays.accepted
  obtain ⟨next, continued, entries, configures⟩ := Replay.replayEvent_eq_ok (acceptable replayed lookup)
  refine ⟨replays.units, fun id outside => ?_, next, ?_, fun id => ?_, ?_⟩
  · rw [lastSnapshot_append, own, if_neg (Nat.ne_of_lt (Nat.lt_of_le_of_lt inside outside))]
    exact replays.fresh id outside
  · rw [Replay.replay_append, accepted]
    exact continued
  · rw [lastSnapshot_append, entries]
    split
    · rename_i same
      rw [same]
      exact AList.lookup_insert _
    · rename_i different
      rw [AList.lookup_insert_ne (Ne.symm different)]
      exact lookup id
  · rw [Replay.journaledConfiguration_append, configures, configured]

/-- The thread of a known request begins the history of its transition. -/
theorem history_opened {baseline : SystemConfiguration} {domain : DomainId} {target : ModeId}
    (request : KnownRequest model baseline domain target) (none : lastSnapshot state.journal (index + 1) = none) :
    ContinuesHistory model index (opened model (index + 1) baseline domain target) state := by
  obtain ⟨⟨source, selected, defined⟩, known, units⟩ := request
  refine ⟨?_, ?_, ?_, ?_⟩
  · obtain ⟨_, sourceMode⟩ := Option.isSome_iff_exists.mp defined
    obtain ⟨_, targetMode⟩ := Option.isSome_iff_exists.mp known
    have source : (received (index + 1) baseline domain target).sourceMode = source := by
      simp [received, selected]
    show Replay.validIdentity model (received (index + 1) baseline domain target) = true
    unfold Replay.validIdentity
    rw [source]
    simp [received, sourceMode, targetMode, ValidatedModel.findMode_nonzero sourceMode,
      (ValidatedModel.findMode_nonzero targetMode).2]
  · intro plan planned
    obtain ⟨required, facts, _⟩ := buildPlan_eq_ok (opened_plan planned)
    refine knownPlan_of_planned units facts ?_
    show (baseline.committedModes.lookup domain).getD 0 = plan.sourceMode
    rw [facts.source]
    rfl
  · intro last found
    rw [none] at found
    cases found
  · rw [lastPhase, none]
    exact History.accept rfl _

/-- The replay accepts the journal after every step, and the threads continue their histories. -/
theorem history_maintained (model : ValidatedModel) (initial : SystemConfiguration) :
    Maintains model (KnownRequests model) (HistoryReplayed model initial) (ContinuesHistory model) where
  step := by
    intro pool positions index input op reply later sound holds step
    have owned := sound.owned index step.inside
    have continues : ContinuesHistory model index (positions index) pool.shared := holds.own index step.inside
    have required := continues.work.requires step.rule
    have moved := continues.work.step step.rule step.answers
      (History.sustains owned.failure owned
        (by rintro id rfl; exact owned.registered_of_rule step.rule (by simp)) continues.plan
        holds.common.units) (fun waits => waits) owned.opens
      (by
        rintro event error same
        obtain ⟨rfl, refused⟩ := Sigma.mk.inj_iff.mp same
        have accepted := append_accepted step.permitted.1 step.performed
        rw [eq_of_heq refused] at accepted
        cases accepted)
      fun _ _ => not_false
    obtain ⟨sameTransition, samePlan⟩ := rule_transition step.rule
    have sameAccount : historyAccount model later = historyAccount model (positions index) := by
      unfold historyAccount
      rw [sameTransition, samePlan]
    by_cases appends : ∃ event, op = .append event
    · obtain ⟨event, rfl⟩ := appends
      obtain rfl := append_accepted step.permitted.1 step.performed
      have own : event.transition.id = index + 1 := required.2.1.id.trans owned.id
      have last (id : TransitionId) : lastSnapshot (effect (.append event) (.ok ()) pool.shared).journal id =
          if index + 1 = id then some event.transition else lastSnapshot pool.shared.journal id := by
        rw [← own]
        exact lastSnapshot_append _ _ _
      refine ⟨holds.common.append step.inside own fun _ => continues.acceptable owned.id required,
        ⟨sameTransition ▸ continues.identity, ?_, ?_, ?_⟩,
        fun other inside different => (holds.own other inside).frame ?_⟩
      · rw [samePlan, sameTransition]
        exact continues.plan
      · intro snapshot found
        rw [last, if_pos rfl] at found
        rw [sameTransition, ← Option.some.inj found]
        exact required.2.1
      · rw [sameAccount, lastPhase, last, if_pos rfl]
        exact moved
      · rw [last, if_neg fun same => different (Nat.succ.inj same).symm]
    · have other : ∀ event, op ≠ .append event := fun event same => appends ⟨event, same⟩
      have journal := journal_effect other reply pool.shared
      rw [historyAccount_after other] at moved
      refine ⟨⟨fun unit runs => ?_, journal.symm ▸ holds.common.fresh, journal.symm ▸ holds.common.accepted⟩,
        ⟨sameTransition ▸ continues.identity, ?_, ?_, ?_⟩,
        fun other inside different => (holds.own other inside).frame (by rw [journal])⟩
      · rcases runningUnits_effect reply pool.shared runs with before | rfl
        · exact holds.common.units unit before
        · exact required
      · rw [samePlan, sameTransition]
        exact continues.plan
      · rw [journal, sameTransition]
        exact continues.last
      · rw [sameAccount, journal]
        exact moved
  cancel := by
    intro pool positions id state sound holds _ cancelled
    obtain ⟨_, _, _, _, _, rfl⟩ := cancel_eq_ok cancelled
    exact ⟨⟨holds.common.units, holds.common.fresh, holds.common.accepted⟩,
      fun index inside => (holds.own index inside).frame rfl⟩
  request := by
    intro pool positions baseline domain target sound holds permitted
    refine ⟨⟨holds.common.units, fun id outside => holds.common.fresh id (by omega),
      holds.common.accepted⟩, fun index inside => ?_⟩
    by_cases fresh : index = pool.threads.length
    · rw [fresh, Function.update_self]
      have request := permitted.2 baseline domain target rfl
      exact (history_opened request (holds.common.fresh _ (Nat.lt_succ_self _))).frame rfl
    · rw [Function.update_of_ne fresh]
      exact (holds.own index (by omega)).frame rfl

theorem history_replayed {initial : SystemConfiguration}
    (found : initialConfiguration model = .ok initial) {pool : EnginePool}
    (reached : (machine model).Reaches (KnownRequests model) (created initial) pool) :
    ∃ replayed, Replay.replay model { configuration := initial } pool.shared.journal = .ok replayed ∧
      replayed.configuration = Replay.journaledConfiguration initial pool.shared.journal := by
  have units : ∀ unit ∈ initial.runningUnits, (model.findUnit unit).isSome :=
    fun unit => closed_known (requiredUnits_closed (initialConfiguration_eq_ok found).2.2)
  obtain ⟨positions, _, holds⟩ := (history_maintained model initial).fromCreated
    (fun _ => ⟨units, fun _ _ => rfl, { configuration := initial }, rfl, fun _ => rfl, rfl⟩) reached
  obtain ⟨replayed, accepted, _, configured⟩ := holds.common.accepted
  exact ⟨replayed, accepted, configured⟩

/-- The replay accepts the journal that an engine has written, if its requests were known. -/
theorem journal_accepted (model : ValidatedModel) (initial : SystemConfiguration)
    (found : initialConfiguration model = .ok initial) (pool : EnginePool)
    (reached : (machine model).Reaches (KnownRequests model) (created initial) pool) :
    ∃ replayed, Replay.replay model { configuration := initial } pool.shared.journal = .ok replayed := by
  obtain ⟨replayed, accepted, _⟩ := history_replayed found reached
  exact ⟨replayed, accepted⟩

/-- This function decides whether a choice is a known request. -/
def isKnownRequest (model : ValidatedModel) : EngineChoice → Bool
  | .event (.request baseline domain target) =>
      (baseline.committedModes.lookup domain).any (fun mode => (model.findMode ⟨domain, mode⟩).isSome) &&
        (model.findMode ⟨domain, target⟩).isSome &&
        decide (∀ unit ∈ baseline.runningUnits, (model.findUnit unit).isSome)
  | choice => journalWorks choice

theorem knownRequests_of_check (model : ValidatedModel) (pool : EnginePool) (choice : EngineChoice)
    (checked : isKnownRequest model choice = true) : KnownRequests model pool choice := by
  refine ⟨?_, ?_⟩
  · cases choice with
    | event event => rfl
    | thread index input => exact checked
  · rintro baseline domain target rfl
    simp only [isKnownRequest, Bool.and_eq_true, decide_eq_true_eq] at checked
    obtain ⟨⟨source, known⟩, units⟩ := checked
    exact ⟨(Option.any_eq_true _ _).mp source, known, units⟩

/-- A failed start stops the domain. -/
def heatingModes : ValidatedModel where
  value := {
    generation := 1
    units := [{ id := 1, name := "pump" }]
    domains := [
      { id := 1, name := "heating", initialMode := 1, recovery := { action := .stopDomain },
        modes := [{ id := 1, name := "off" }, { id := 2, name := "on", units := [1] }] }] }
  valid := by decide +kernel

/-- The unit does not start. -/
def refuseStart (index : Nat) (_ : EnginePool) : EngineChoice :=
  .thread index (.backend (.error (makeError .backendError "unit crashed")))

/-- The journal of a failed transition with its recovery is accepted. -/
theorem journal_accepted_recovery : ∃ pool, (machine heatingModes).Reaches (KnownRequests heatingModes)
      (created ⟨1, initialModes heatingModes, ∅⟩) pool ∧ pool.shared.journal.map (fun event => event.transition.phase) =
      [.validated, .planned, .starting, .awaitingReadiness, .recovering, .failed] ∧
    ∃ replayed, Replay.replay heatingModes { configuration := ⟨1, initialModes heatingModes, ∅⟩ }
      pool.shared.journal = .ok replayed := by
  let schedule := [requestMode 1 2] ++ List.replicate 18 (advance 0) ++ [refuseStart 0] ++
    List.replicate 8 (advance 0)
  obtain ⟨pool, reached, phases⟩ := exists_run heatingModes ⟨1, initialModes heatingModes, ∅⟩
    (fun _ => isKnownRequest heatingModes) (knownRequests_of_check heatingModes) schedule
    (fun pool => pool.shared.journal.map (fun event => event.transition.phase) =
      [.validated, .planned, .starting, .awaitingReadiness, .recovering, .failed]) (by decide +kernel)
  exact ⟨pool, reached, phases, journal_accepted heatingModes _ rfl pool reached⟩

/-- The request of an unknown domain leaves an event that the replay refuses. -/
theorem journal_refused : initialConfiguration heatingModes = .ok ⟨1, initialModes heatingModes, ∅⟩ ∧
    ¬ ∀ pool, (machine heatingModes).Reaches (fun _ choice => journalWorks choice = true)
        (created ⟨1, initialModes heatingModes, ∅⟩) pool →
      ∃ replayed, Replay.replay heatingModes { configuration := ⟨1, initialModes heatingModes, ∅⟩ }
        pool.shared.journal = .ok replayed := by
  refine ⟨rfl, fun accepted => ?_⟩
  let schedule := [requestMode 9 2] ++ List.replicate 4 (advance 0)
  obtain ⟨pool, reached, journal⟩ := exists_run heatingModes ⟨1, initialModes heatingModes, ∅⟩
    (fun _ => journalWorks) (fun _ _ works => works) schedule
    (fun pool => (Replay.replay heatingModes { configuration := ⟨1, initialModes heatingModes, ∅⟩ }
      pool.shared.journal).toOption = none) (by decide +kernel)
  obtain ⟨replayed, replays⟩ := accepted pool reached
  rw [replays] at journal
  cases journal

end OpenVehicle.Exec
