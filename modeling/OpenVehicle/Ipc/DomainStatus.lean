/-
This file compares the status that a snapshot reports for a domain with the history of its transitions.
The snapshot looks for any failed transition of the domain and not for the newest one.
-/

import OpenVehicle.Ipc.CoordinatorSnapshot

namespace OpenVehicle.Ipc

open Concurrency Data Exec FiniteMap ExecutionEngine TransitionPlanner
open Create (wiperModes creates_wiper)

/-- No function of the coordinator sets the flag that reports a recovery. -/
def coordinatorView (revision : UInt64) (updatedAt : TransitionId → Int64) : View := ⟨revision, false, updatedAt⟩

variable {test : TransitionSnapshot → Bool}

section Newest

/-- The transition of a domain that passes a test and has the highest identifier. -/
structure IsNewest (test : TransitionSnapshot → Bool) (recorded : TransitionSnapshot → Prop)
    (domain : DomainId) (transition : TransitionSnapshot) : Prop where
  held : recorded transition
  passes : test transition = true
  owner : transition.domain = domain
  highest : ∀ other, recorded other → test other = true → other.domain = domain → other.id ≤ transition.id

/-- The map holds the newest transition of every domain that has one. -/
structure HoldsNewest (test : TransitionSnapshot → Bool) (transitions : List TransitionSnapshot)
    (found : Map DomainId TransitionSnapshot) : Prop where
  sound : ∀ domain transition, found.lookup domain = some transition →
    IsNewest test (· ∈ transitions) domain transition
  complete : ∀ transition ∈ transitions, test transition = true → (found.lookup transition.domain).isSome

variable {front : List TransitionSnapshot} {last : TransitionSnapshot}
variable {found : Map DomainId TransitionSnapshot}

/-- A transition that fails the test, or is older than the newest one, changes nothing. -/
theorem HoldsNewest.skip (holds : HoldsNewest test front found)
    (older : test last = true → ∃ other, found.lookup last.domain = some other ∧ last.id ≤ other.id) :
    HoldsNewest test (front ++ [last]) found := by
  refine ⟨?_, ?_⟩
  · intro domain transition known
    obtain ⟨member, passes, owner, highest⟩ := holds.sound domain transition known
    refine ⟨List.mem_append_left _ member, passes, owner, ?_⟩
    intro other listed tested same
    rcases List.mem_append.mp listed with before | final
    · exact highest other before tested same
    · obtain rfl := List.mem_singleton.mp final
      obtain ⟨newest, held, order⟩ := older tested
      rw [same, known] at held
      rw [Option.some.inj held]
      exact order
  · intro transition listed tested
    rcases List.mem_append.mp listed with before | final
    · exact holds.complete transition before tested
    · obtain rfl := List.mem_singleton.mp final
      obtain ⟨newest, held, _⟩ := older tested
      rw [held]
      rfl

/-- A newer transition takes the place of its domain. -/
theorem HoldsNewest.replace (holds : HoldsNewest test front found) (tested : test last = true)
    (newer : ∀ other, found.lookup last.domain = some other → other.id < last.id) :
    HoldsNewest test (front ++ [last]) (found.insert last.domain last) := by
  refine ⟨?_, ?_⟩
  · intro domain transition known
    rcases FiniteMap.lookup_insert_cases known with ⟨rfl, rfl⟩ | ⟨same, known⟩
    · refine ⟨by simp, tested, rfl, ?_⟩
      intro other listed passes owner
      rcases List.mem_append.mp listed with before | final
      · obtain ⟨newest, held⟩ := Option.isSome_iff_exists.mp (holds.complete other before passes)
        rw [owner] at held
        have bound := (holds.sound _ newest held).highest other before passes owner
        exact (bound.trans_lt (newer newest held)).le
      · rw [List.mem_singleton.mp final]
    · obtain ⟨member, passes, owner, highest⟩ := holds.sound domain transition known
      refine ⟨List.mem_append_left _ member, passes, owner, ?_⟩
      intro other listed passed owned
      rcases List.mem_append.mp listed with before | final
      · exact highest other before passed owned
      · rw [List.mem_singleton.mp final] at owned
        exact absurd owned.symm same
  · intro transition listed passes
    by_cases same : transition.domain = last.domain
    · rw [same, AList.lookup_insert]
      rfl
    · rw [AList.lookup_insert_ne same]
      rcases List.mem_append.mp listed with before | final
      · exact holds.complete transition before passes
      · rw [List.mem_singleton.mp final] at same
        exact absurd rfl same

theorem newest_append (test : TransitionSnapshot → Bool) (front : List TransitionSnapshot)
    (last : TransitionSnapshot) : newest test (front ++ [last]) = if test last then
      match (newest test front).lookup last.domain with
      | none => (newest test front).insert last.domain last
      | some other =>
          if other.id < last.id then (newest test front).insert last.domain last
          else newest test front
      else newest test front := by
  unfold newest
  rw [List.foldl_append]
  rfl

/-- The loop of the snapshot finds the newest transitions. -/
theorem holdsNewest_newest (test : TransitionSnapshot → Bool) (transitions : List TransitionSnapshot) :
    HoldsNewest test transitions (newest test transitions) := by
  induction transitions using List.reverseRecOn with
  | nil => exact ⟨fun _ _ known => (by cases known), fun _ member => (by cases member)⟩
  | append_singleton front last ih =>
      rw [newest_append]
      split
      · rename_i tested
        split
        · rename_i unseen
          refine ih.replace tested fun other held => ?_
          rw [unseen] at held
          cases held
        · rename_i other held
          split
          · rename_i newer
            refine ih.replace tested fun other' held' => ?_
            rw [held] at held'
            rwa [← Option.some.inj held']
          · rename_i older
            exact ih.skip fun _ => ⟨other, held, Nat.le_of_not_lt older⟩
      · rename_i untested
        exact ih.skip fun tested => absurd tested untested

end Newest

variable {engine : EngineState} {transition : TransitionSnapshot} {domain : DomainId}

section Status
variable {model : ValidatedModel}

/-- The engine has stored the transition. -/
def Stored (engine : EngineState) (transition : TransitionSnapshot) : Prop :=
  engine.transitions.lookup transition.id = some transition

def isActive (transition : TransitionSnapshot) : Bool := !transition.phase.isTerminal

def isFailed (transition : TransitionSnapshot) : Bool := transition.phase.isTerminal && transition.failure.isSome

/-- The status that the history of a domain calls for. -/
structure StatusContract (engine : EngineState) (domain : DomainDefinition) (reported : ExecutionDomain) :
    Prop where
  transitioning : ∀ transition, IsNewest isActive (Stored engine) domain.id transition →
    reported.status = .transitioning ∧ reported.targetMode = some (UInt64.ofNat transition.targetMode) ∧
      reported.activeTransition = some (UInt64.ofNat transition.id)
  settled : (∀ transition, Stored engine transition → transition.domain = domain.id →
      transition.phase.isTerminal = true) →
    (reported.status = .degraded ↔ ∃ transition,
      IsNewest (·.phase.isTerminal) (Stored engine) domain.id transition ∧ transition.failure.isSome) ∧
    (reported.status = .degraded ∨ reported.status = .stable)

/-- If a domain without active transitions has a failed one, then its newest transition has failed. -/
def NewestFailed (engine : EngineState) (domain : DomainDefinition) : Prop :=
  (∀ transition, Stored engine transition → transition.domain = domain.id → transition.phase.isTerminal = true) →
  (∃ transition, Stored engine transition ∧ transition.domain = domain.id ∧ transition.failure.isSome) →
  ∃ transition, IsNewest (·.phase.isTerminal) (Stored engine) domain.id transition ∧
    transition.failure.isSome

theorem mem_engineTransitions (keyed : Keyed engine) :
    transition ∈ engineTransitions engine ↔ Stored engine transition := by
  simp only [engineTransitions, List.mem_insertionSort, List.mem_map]
  constructor
  · rintro ⟨⟨id, found⟩, listed, rfl⟩
    have known : engine.transitions.lookup id = some found := AList.mem_lookup_iff.mpr listed
    rw [← keyed id found known] at known
    exact known
  · intro stored
    exact ⟨⟨transition.id, transition⟩, AList.mem_lookup_iff.mp stored, rfl⟩

/-- The newest transition of a domain is unique. -/
theorem IsNewest.unique {first second : TransitionSnapshot} (left : IsNewest test (Stored engine) domain first)
    (right : IsNewest test (Stored engine) domain second) : first = second := by
  have same : first.id = second.id := Nat.le_antisymm
    (right.highest first left.held left.passes left.owner)
    (left.highest second right.held right.passes right.owner)
  have one := left.held
  have two := right.held
  unfold Stored at one two
  rw [same, two] at one
  exact (Option.some.inj one).symm

/-- The snapshot reports one domain as its history calls for exactly when its newest transition decides. -/
theorem statusContract_iff (keyed : Keyed engine) (revision : UInt64) (updatedAt : TransitionId → Int64)
    (domain : DomainDefinition) :
    StatusContract engine domain (executionDomain (coordinatorView revision updatedAt) engine.configuration
      (newest isActive (engineTransitions engine)) (newest isFailed (engineTransitions engine)) domain) ↔
    NewestFailed engine domain := by
  obtain ⟨activeSound, activeComplete⟩ := holdsNewest_newest isActive (engineTransitions engine)
  obtain ⟨failedSound, failedComplete⟩ := holdsNewest_newest isFailed (engineTransitions engine)
  simp only [mem_engineTransitions keyed] at activeSound activeComplete failedSound failedComplete
  unfold executionDomain
  split
  · rename_i transition found
    have newest := activeSound domain.id transition found
    constructor
    · intro _ settled
      have terminal := settled transition newest.held newest.owner
      have active := newest.passes
      simp [isActive, terminal] at active
    · intro _
      refine ⟨?_, ?_⟩
      · intro other latest
        rw [latest.unique newest]
        exact ⟨rfl, rfl, rfl⟩
      · intro settled
        have terminal := settled transition newest.held newest.owner
        have active := newest.passes
        simp [isActive, terminal] at active
  · rename_i absent
    have settled (transition : TransitionSnapshot) (stored : Stored engine transition)
        (owner : transition.domain = domain.id) : transition.phase.isTerminal = true := by
      by_contra active
      have found := activeComplete transition stored (by simpa [isActive] using active)
      rw [owner, absent] at found
      cases found
    have degraded : ((newest isFailed (engineTransitions engine)).lookup domain.id).isSome = true ↔
        ∃ transition, Stored engine transition ∧ transition.domain = domain.id ∧
          transition.failure.isSome := by
      constructor
      · intro found
        obtain ⟨transition, known⟩ := Option.isSome_iff_exists.mp found
        have newest := failedSound domain.id transition known
        exact ⟨transition, newest.held, newest.owner, (Bool.and_eq_true_iff.mp newest.passes).2⟩
      · rintro ⟨transition, stored, owner, failed⟩
        rw [← owner]
        exact failedComplete transition stored
          (Bool.and_eq_true_iff.mpr ⟨settled transition stored owner, failed⟩)
    have status : (if (coordinatorView revision updatedAt).recovering then DomainStatus.recovering
        else if ((newest isFailed (engineTransitions engine)).lookup domain.id).isSome then .degraded
        else .stable) = .degraded ↔ ∃ transition, Stored engine transition ∧ transition.domain = domain.id ∧
          transition.failure.isSome := by
      rw [← degraded, if_neg (by simp [coordinatorView])]
      split <;> simp_all
    constructor
    · intro contract _ failed
      exact (contract.settled settled).1.mp (status.mpr failed)
    · intro newestFailed
      refine ⟨?_, fun _ => ⟨?_, ?_⟩⟩
      · intro transition newest
        have terminal := settled transition newest.held newest.owner
        have active := newest.passes
        simp [isActive, terminal] at active
      · rw [status]
        constructor
        · exact newestFailed settled
        · rintro ⟨transition, newest, failed⟩
          exact ⟨transition, newest.held, newest.owner, failed⟩
      · dsimp only
        rw [if_neg (by simp [coordinatorView])]
        split
        · exact .inl rfl
        · exact .inr rfl

theorem snapshot_domains_iff (model : ValidatedModel) (keyed : Keyed engine) (revision : UInt64)
    (updatedAt : TransitionId → Int64) : List.Forall₂ (StatusContract engine) model.value.domains
      (snapshot model (coordinatorView revision updatedAt) engine).domains ↔
    ∀ domain ∈ model.value.domains, NewestFailed engine domain := by
  unfold snapshot
  rw [List.forall₂_map_right_iff, List.forall₂_same]
  exact forall₂_congr fun domain _ => statusContract_iff keyed revision updatedAt domain

end Status

/-- In every run of a created engine, the snapshot reports the status of every domain rightly exactly when no
domain at rest has a failed transition under a newest transition that has not failed. -/
theorem domainStatus_iff {S : Type} (model : ValidatedModel) (backend : ProcessBackend S)
    (environment : Environment) (events : List JournalEvent) (state : S) (engine : EngineState) (log : BackendLog S)
    (creates : Create.create model backend environment (.ok events) state = some ⟨.ok engine, log⟩)
    (pool : EnginePool) (reached : (machine model).Reaches (fun _ _ => True) ⟨engine, []⟩ pool)
    (revision : UInt64) (updatedAt : TransitionId → Int64) :
    List.Forall₂ (StatusContract pool.shared) model.value.domains
      (snapshot model (coordinatorView revision updatedAt) pool.shared).domains ↔
    ∀ domain ∈ model.value.domains, NewestFailed pool.shared domain := by
  have keyed : Keyed pool.shared := (keyed_create creates).reaches reached
  exact snapshot_domains_iff model keyed revision updatedAt

/-- The key, the identifier, the domain, the phase and the failure of every stored transition. -/
def outcomes (engine : EngineState) : List (TransitionId × TransitionId × DomainId × TransitionPhase × Bool) :=
  engine.transitions.entries.map fun entry =>
    (entry.1, entry.2.id, entry.2.domain, entry.2.phase, entry.2.failure.isSome)

theorem Stored.mem_outcomes (stored : Stored engine transition) :
    (transition.id, transition.id, transition.domain, transition.phase, transition.failure.isSome) ∈
      outcomes engine := List.mem_map.mpr ⟨⟨transition.id, transition⟩, AList.mem_lookup_iff.mp stored, rfl⟩

theorem exists_stored {id : TransitionId} {phase : TransitionPhase}
    {failed : Bool} (member : (id, id, domain, phase, failed) ∈ outcomes engine) :
    ∃ transition, Stored engine transition ∧ transition.id = id ∧ transition.domain = domain ∧
      transition.phase = phase ∧ transition.failure.isSome = failed := by
  obtain ⟨⟨key, transition⟩, listed, same⟩ := List.mem_map.mp member
  simp only [Prod.mk.injEq] at same
  obtain ⟨rfl, own, rfl, rfl, rfl⟩ := same
  refine ⟨transition, ?_, own, rfl, rfl, rfl⟩
  rw [Stored, own]
  exact AList.mem_lookup_iff.mpr listed

/-- The wiper fails to start, and its domain is rightly degraded. -/
theorem domainStatus_failed : ∃ pool,
    (machine wiperModes).Reaches (fun _ _ => True) (created ⟨1, initialModes wiperModes, ∅⟩) pool ∧
    outcomes pool.shared = [(1, 1, 1, .failed, true)] ∧
    List.Forall₂ (StatusContract pool.shared) wiperModes.value.domains
      (snapshot wiperModes (coordinatorView 0 fun _ => 0) pool.shared).domains := by
  let schedule := [requestMode 1 2] ++ List.replicate 18 (advance 0) ++ [failStart 0] ++
    List.replicate 4 (advance 0)
  obtain ⟨pool, reached, failed⟩ := exists_run wiperModes ⟨1, initialModes wiperModes, ∅⟩
    (fun _ _ => true) (fun _ _ _ => trivial) schedule
    (fun pool => outcomes pool.shared = [(1, 1, 1, .failed, true)]) (by decide +kernel)
  refine ⟨pool, reached, failed, ?_⟩
  apply (domainStatus_iff wiperModes Create.readyBackend Create.accepting [] ∅ _ _ creates_wiper pool
    reached 0 fun _ => 0).mpr
  have only {transition : TransitionSnapshot} (stored : Stored pool.shared transition) :
      transition.id = 1 ∧ transition.phase = .failed := by
    have member := stored.mem_outcomes
    rw [failed, List.mem_singleton] at member
    simp only [Prod.mk.injEq] at member
    exact ⟨member.1, member.2.2.2.1⟩
  rintro domain _ _ ⟨transition, stored, owner, failure⟩
  refine ⟨transition, ⟨stored, ?_, owner, ?_⟩, failure⟩
  · rw [(only stored).2]
    rfl
  · intro other held _ _
    rw [(only held).1, (only stored).1]

/-- The wiper fails to start and starts when it is asked again, and its domain stays degraded. -/
theorem domainStatus_stays_degraded : ∃ pool,
    (machine wiperModes).Reaches (fun _ _ => True) (created ⟨1, initialModes wiperModes, ∅⟩) pool ∧
    outcomes pool.shared = [(2, 2, 1, .succeeded, false), (1, 1, 1, .failed, true)] ∧
    ¬ List.Forall₂ (StatusContract pool.shared) wiperModes.value.domains
      (snapshot wiperModes (coordinatorView 0 fun _ => 0) pool.shared).domains := by
  let schedule := [requestMode 1 2] ++ List.replicate 18 (advance 0) ++ [failStart 0] ++
    List.replicate 4 (advance 0) ++ [requestMode 1 2] ++ List.replicate 28 (advance 1)
  obtain ⟨pool, reached, outcome⟩ := exists_run wiperModes ⟨1, initialModes wiperModes, ∅⟩
    (fun _ _ => true) (fun _ _ _ => trivial) schedule
    (fun pool => outcomes pool.shared = [(2, 2, 1, .succeeded, false), (1, 1, 1, .failed, true)])
    (by decide +kernel)
  refine ⟨pool, reached, outcome, fun reported => ?_⟩
  have keyed : Keyed pool.shared := (keyed_create creates_wiper).reaches reached
  have terminal (transition : TransitionSnapshot) (stored : Stored pool.shared transition) :
      transition.phase.isTerminal = true ∧ (transition.failure.isSome = true → transition.id = 1) := by
    have member := stored.mem_outcomes
    rw [outcome] at member
    simp only [List.mem_cons, Prod.mk.injEq, List.not_mem_nil, or_false] at member
    rcases member with ⟨_, _, _, phase, failure⟩ | ⟨one, _, _, phase, failure⟩
    · rw [phase, failure]
      exact ⟨rfl, fun some => absurd some (by decide)⟩
    · rw [phase]
      exact ⟨rfl, fun _ => one⟩
  have first : (1, 1, 1, .failed, true) ∈ outcomes pool.shared := by simp [outcome]
  have second : (2, 2, 1, .succeeded, false) ∈ outcomes pool.shared := by simp [outcome]
  obtain ⟨failed, failedStored, _, failedOwner, _, failure⟩ := exists_stored first
  obtain ⟨last, lastStored, two, lastOwner, _, _⟩ := exists_stored second
  obtain ⟨domain, listed, one⟩ : ∃ domain ∈ wiperModes.value.domains, domain.id = 1 := ⟨_, List.mem_cons_self, rfl⟩
  obtain ⟨newest, highest, newestFailed⟩ := (snapshot_domains_iff wiperModes keyed 0 fun _ => 0).mp reported
    domain listed (fun transition stored _ => (terminal transition stored).1)
    ⟨failed, failedStored, by rw [failedOwner, one], failure⟩
  have bound := highest.highest last lastStored (terminal last lastStored).1 (by rw [lastOwner, one])
  rw [two, (terminal newest highest.held).2 newestFailed] at bound
  exact absurd bound (by decide)

end OpenVehicle.Ipc
