/-
This file translates the transition scheduler: a transition claims its domains, its units and its exclusive
resources together, or it waits until all of them are free.
-/

import OpenVehicle.Concurrency.System
import OpenVehicle.Data.FiniteMap
import OpenVehicle.Exec.Types
import Mathlib.Tactic

namespace OpenVehicle.Exec

open Concurrency (System)
open FiniteMap

structure TransitionResources where
  domains : List DomainId := []
  units : List ExecutionUnitId := []
  exclusiveResources : List ResourceId := []
  deriving DecidableEq, Repr

/-- The scheduler keeps one claim table for each kind of resource. -/
inductive ResourceKind where
  | domain | unit | exclusive
  deriving DecidableEq, Repr

def TransitionResources.of (resources : TransitionResources) : ResourceKind → List Nat
  | .domain => resources.domains
  | .unit => resources.units
  | .exclusive => resources.exclusiveResources

/-- Two requests are apart when no table can hold a claim of both. -/
def TransitionResources.Apart (first second : TransitionResources) : Prop :=
  ∀ kind, ∀ id ∈ first.of kind, id ∉ second.of kind

def adjacentFind : List Nat → Bool
  | first :: second :: rest => first == second || adjacentFind (second :: rest)
  | _ => false

def hasDuplicates (values : List Nat) : Bool := adjacentFind (values.insertionSort (· ≤ ·))

def available (requested : List Nat) (owners : Map Nat TransitionId) : Bool :=
  requested.all fun id => (owners.lookup id).isNone

/-- An insertion that finds its key leaves the old entry in place. -/
def emplace {Value : Type} (key : Nat) (value : Value) (map : Map Nat Value) : Map Nat Value :=
  if (map.lookup key).isSome then map else map.insert key value

def claim (requested : List Nat) (owner : TransitionId) (owners : Map Nat TransitionId) :
    Map Nat TransitionId := requested.foldl (fun owners id => emplace id owner owners) owners

def releaseOwned (owner : TransitionId) (owners : Map Nat TransitionId) : Map Nat TransitionId :=
  keep (fun _ holder => holder != owner) owners

structure SchedulerState where
  leases : Map TransitionId TransitionResources := ∅
  domains : Map DomainId TransitionId := ∅
  units : Map ExecutionUnitId TransitionId := ∅
  exclusiveResources : Map ResourceId TransitionId := ∅
  deriving DecidableEq

namespace SchedulerState

variable (state : SchedulerState)

def table : ResourceKind → Map Nat TransitionId
  | .domain => state.domains
  | .unit => state.units
  | .exclusive => state.exclusiveResources

/-- The predicate that a waiting call evaluates under the lock. -/
def admits (resources : TransitionResources) : Bool :=
  available resources.domains state.domains && available resources.units state.units &&
    available resources.exclusiveResources state.exclusiveResources

def grant (owner : TransitionId) (resources : TransitionResources) :
    SchedulerState where
  leases := emplace owner resources state.leases
  domains := claim resources.domains owner state.domains
  units := claim resources.units owner state.units
  exclusiveResources := claim resources.exclusiveResources owner state.exclusiveResources

def release (owner : TransitionId) : SchedulerState :=
  if (state.leases.lookup owner).isNone then state
  else {
    leases := state.leases.erase owner
    domains := releaseOwned owner state.domains
    units := releaseOwned owner state.units
    exclusiveResources := releaseOwned owner state.exclusiveResources }

/-- The checks before the lock return the sorted request. -/
def checkRequest (owner : TransitionId) (resources : TransitionResources) :
    Result TransitionResources :=
  if owner = 0 then
    .error (makeError .invalidIdentifier "transition identifier zero is reserved")
  else if resources.domains.isEmpty then
    .error (makeError .invalidArgument "transition must lock at least one execution domain")
  else if hasDuplicates resources.domains || hasDuplicates resources.units ||
      hasDuplicates resources.exclusiveResources then
    .error (makeError .invalidArgument "transition resource request contains duplicate identifiers")
  else
    .ok ⟨resources.domains.insertionSort (· ≤ ·), resources.units.insertionSort (· ≤ ·),
      resources.exclusiveResources.insertionSort (· ≤ ·)⟩

/-- The first locked part refuses a second lease, claims at once, or starts to wait. -/
def enter (owner : TransitionId) (resources : TransitionResources) :
    Result Bool × SchedulerState :=
  if (state.leases.lookup owner).isSome then
    (.error (makeError .alreadyExists "transition already owns a scheduler lease"), state)
  else if state.admits resources then (.ok true, state.grant owner resources)
  else (.ok false, state)

/-- A waiting call that wakes up claims, gives up after its deadline, or keeps waiting. -/
def wake (owner : TransitionId) (resources : TransitionResources)
    (expired : Bool) : Option (Result Unit × SchedulerState) :=
  if state.admits resources then some (.ok (), state.grant owner resources)
  else if expired then
    some (.error (makeError .deadlineExceeded "transition could not acquire its resources before the deadline"), state)
  else none

end SchedulerState

variable {owner : TransitionId} {resources : TransitionResources}

theorem lookup_emplace {Value : Type} (key other : Nat) (value : Value) (map : Map Nat Value) :
    (emplace key value map).lookup other = (map.lookup other).or (if other = key then some value else none) := by
  unfold emplace
  by_cases same : other = key
  · subst same
    cases found : map.lookup other with
    | none => simp
    | some old => simp [found]
  · rw [if_neg same, Option.or_none]
    split
    · rfl
    · exact AList.lookup_insert_ne same

/-- A claim adds the requested identifiers that nobody holds. -/
theorem lookup_claim (requested : List Nat) (owner : TransitionId) (owners : Map Nat TransitionId)
    (id : Nat) : (claim requested owner owners).lookup id =
      (owners.lookup id).or (if id ∈ requested then some owner else none) := by
  induction requested generalizing owners with
  | nil => simp [claim]
  | cons head rest ih =>
      have step : claim (head :: rest) owner owners = claim rest owner (emplace head owner owners) := rfl
      rw [step, ih, lookup_emplace, Option.or_assoc]
      congr 1
      by_cases same : id = head
      · simp [same]
      · simp [same]

theorem lookup_releaseOwned (owner : TransitionId) (owners : Map Nat TransitionId)
    (id holder : Nat) : (releaseOwned owner owners).lookup id = some holder ↔
      owners.lookup id = some holder ∧ holder ≠ owner := by
  rw [releaseOwned, lookup_keep_eq_some]
  simp

theorem available_iff (requested : List Nat) (owners : Map Nat TransitionId) :
    available requested owners = true ↔ ∀ id ∈ requested, owners.lookup id = none := by
  simp [available, List.all_eq_true, Option.isNone_iff_eq_none]

namespace SchedulerState

variable {state : SchedulerState}

theorem admits_iff (state : SchedulerState) (resources : TransitionResources) : state.admits resources = true ↔
      ∀ kind, ∀ id ∈ resources.of kind, (state.table kind).lookup id = none := by
  simp only [admits, Bool.and_eq_true, available_iff]
  constructor
  · rintro ⟨⟨domains, units⟩, exclusive⟩ kind
    cases kind with
    | domain => exact domains
    | unit => exact units
    | exclusive => exact exclusive
  · intro all
    exact ⟨⟨all .domain, all .unit⟩, all .exclusive⟩

theorem table_grant (state : SchedulerState) (owner : TransitionId)
    (resources : TransitionResources) (kind : ResourceKind) :
    (state.grant owner resources).table kind = claim (resources.of kind) owner (state.table kind) := by
  cases kind <;> rfl

theorem lookup_leases_grant (fresh : state.leases.lookup owner = none) (other : TransitionId) :
    (state.grant owner resources).leases.lookup other =
      if other = owner then some resources else state.leases.lookup other := by
  change (emplace owner resources state.leases).lookup other = _
  rw [lookup_emplace]
  by_cases same : other = owner
  · subst same
    rw [fresh, if_pos rfl]
    rfl
  · rw [if_neg same, if_neg same, Option.or_none]

theorem lookup_leases_release (state : SchedulerState) (owner other : TransitionId) :
    (state.release owner).leases.lookup other = if other = owner then none else state.leases.lookup other := by
  unfold release
  split
  · rename_i none
    by_cases same : other = owner
    · rw [same, if_pos rfl]
      exact Option.isNone_iff_eq_none.mp none
    · rw [if_neg same]
  · by_cases same : other = owner
    · rw [same, if_pos rfl]
      exact AList.lookup_erase _ _
    · rw [if_neg same]
      exact AList.lookup_erase_ne same

/-- A checked request keeps its resources and sorts them. -/
theorem mem_checkRequest {checked : TransitionResources}
    (accepted : checkRequest owner resources = .ok checked) (kind : ResourceKind) (id : Nat) :
    id ∈ checked.of kind ↔ id ∈ resources.of kind := by
  unfold checkRequest at accepted
  split at accepted
  · cases accepted
  · split at accepted
    · cases accepted
    · split at accepted
      · cases accepted
      · obtain rfl := Except.ok.inj accepted
        cases kind <;> exact List.mem_insertionSort _

/-- The claim tables are the union of the leases. -/
def Consistent (state : SchedulerState) : Prop :=
  ∀ kind id owner, (state.table kind).lookup id = some owner ↔
    ∃ resources, state.leases.lookup owner = some resources ∧ id ∈ resources.of kind

theorem consistent_empty : Consistent {} := by
  intro kind id owner
  cases kind <;> simp [table]

variable (consistent : state.Consistent)
include consistent

/-- Leases of different owners are apart. -/
theorem Consistent.apart {first second : TransitionId}
    (different : first ≠ second) {left right : TransitionResources} (leftHeld : state.leases.lookup first = some left)
    (rightHeld : state.leases.lookup second = some right) : left.Apart right := by
  intro kind id inLeft inRight
  have one := (consistent kind id first).mpr ⟨left, leftHeld, inLeft⟩
  have two := (consistent kind id second).mpr ⟨right, rightHeld, inRight⟩
  exact different (Option.some.inj (one.symm.trans two))

/-- A claim for an owner without a lease keeps the tables consistent. -/
theorem Consistent.grant (fresh : state.leases.lookup owner = none) (admitted : state.admits resources = true) :
    (state.grant owner resources).Consistent := by
  intro kind id holder
  have free := (admits_iff state resources).mp admitted kind id
  rw [table_grant, lookup_claim, lookup_leases_grant fresh]
  by_cases same : holder = owner
  · subst same
    rw [if_pos rfl]
    constructor
    · intro found
      refine ⟨resources, rfl, ?_⟩
      by_contra outside
      rw [if_neg outside, Option.or_none] at found
      obtain ⟨old, held, _⟩ := (consistent kind id holder).mp found
      rw [fresh] at held
      cases held
    · rintro ⟨found, equal, inside⟩
      obtain rfl := Option.some.inj equal
      rw [free inside, if_pos inside]
      rfl
  · rw [if_neg same, ← consistent kind id holder]
    cases found : (state.table kind).lookup id with
    | none =>
        simp only [Option.none_or]
        split <;> simp [Ne.symm same]
    | some old => simp

/-- A release removes exactly the claims of its owner. -/
theorem Consistent.release (owner : TransitionId) : (state.release owner).Consistent := by
  by_cases none : state.leases.lookup owner = none
  · rw [show state.release owner = state by simp [SchedulerState.release, none]]
    exact consistent
  · intro kind id holder
    have table : (state.release owner).table kind = releaseOwned owner (state.table kind) := by
      unfold SchedulerState.release
      rw [if_neg (by simpa [Option.isNone_iff_eq_none] using none)]
      cases kind <;> rfl
    rw [table, lookup_releaseOwned, lookup_leases_release, consistent kind id holder]
    by_cases same : holder = owner
    · simp [same]
    · simp [same]

end SchedulerState

/-- A lease handle belongs to the caller that acquired it. -/
structure Lease where
  owner : TransitionId
  resources : TransitionResources
  deriving DecidableEq, Repr

/-- The callers of one scheduler are blocked in `Acquire` or hold a live lease. -/
structure Callers where
  scheduler : SchedulerState := {}
  waiting : List Lease := []
  live : List Lease := []

/-- The atomic parts of `Acquire` and `Release`. -/
inductive SchedulerAction where
  | acquire (owner : TransitionId) (resources : TransitionResources)
  | wake (index : Nat) (expired : Bool)
  | release (index : Nat)

namespace Callers

variable {callers : Callers}

def step (callers : Callers) : SchedulerAction → Callers
  | .acquire owner resources =>
      match SchedulerState.checkRequest owner resources with
      | .error _ => callers
      | .ok sorted =>
          match callers.scheduler.enter owner sorted with
          | (.error _, _) => callers
          | (.ok true, scheduler) =>
              { callers with scheduler := scheduler, live := callers.live ++ [⟨owner, sorted⟩] }
          | (.ok false, _) => { callers with waiting := callers.waiting ++ [⟨owner, sorted⟩] }
  | .wake index expired =>
      match callers.waiting[index]? with
      | none => callers
      | some call =>
          match callers.scheduler.wake call.owner call.resources expired with
          | none => callers
          | some (.error _, _) => { callers with waiting := callers.waiting.eraseIdx index }
          | some (.ok (), scheduler) =>
              ⟨scheduler, callers.waiting.eraseIdx index, callers.live ++ [call]⟩
  | .release index =>
      match callers.live[index]? with
      | none => callers
      | some lease =>
          { callers with
            scheduler := callers.scheduler.release lease.owner
            live := callers.live.eraseIdx index }

/-- The callers act in any order. -/
def system : System Callers SchedulerAction where
  perform action callers := some (callers.step action)

/-- Live leases never share a resource. -/
def Exclusive (callers : Callers) : Prop :=
  callers.live.Pairwise fun first second => first.resources.Apart second.resources

/-- The claim tables are the union of the live leases. -/
def TablesMatch (callers : Callers) : Prop :=
  ∀ kind id owner, (callers.scheduler.table kind).lookup id = some owner ↔
    ∃ lease ∈ callers.live, lease.owner = owner ∧ id ∈ lease.resources.of kind

/-- No blocked call is granted while its owner holds a live lease. -/
def WakesFreshOwner (callers : Callers) : SchedulerAction → Prop
  | .wake index _ => ∀ call ∈ callers.waiting[index]?,
      callers.scheduler.admits call.resources = true → ∀ lease ∈ callers.live, lease.owner ≠ call.owner
  | _ => True

instance (callers : Callers) : (action : SchedulerAction) →
    Decidable (callers.WakesFreshOwner action)
  | .acquire _ _ | .release _ => .isTrue trivial
  | .wake index _ => inferInstanceAs (Decidable (∀ call ∈ callers.waiting[index]?,
      callers.scheduler.admits call.resources = true → ∀ lease ∈ callers.live, lease.owner ≠ call.owner))

/-- The lease table lists exactly the live leases, one for each owner. -/
structure Sound (callers : Callers) : Prop where
  consistent : callers.scheduler.Consistent
  owners : (callers.live.map (·.owner)).Nodup
  leases : ∀ owner resources, callers.scheduler.leases.lookup owner = some resources ↔
    ⟨owner, resources⟩ ∈ callers.live

theorem Sound.idle : Sound {} := ⟨SchedulerState.consistent_empty, by simp, by simp⟩

section
variable (sound : callers.Sound)
include sound

theorem Sound.lookup_none
    (absent : ∀ lease ∈ callers.live, lease.owner ≠ owner) : callers.scheduler.leases.lookup owner = none := by
  cases found : callers.scheduler.leases.lookup owner with
  | none => rfl
  | some resources => exact absurd rfl (absent _ ((sound.leases owner resources).mp found))

/-- A claim for an owner without a lease adds one live lease. -/
theorem Sound.grant
    (fresh : callers.scheduler.leases.lookup owner = none) (admitted : callers.scheduler.admits resources = true)
    (waiting : List Lease) :
    Sound ⟨callers.scheduler.grant owner resources, waiting, callers.live ++ [⟨owner, resources⟩]⟩ where
  consistent := sound.consistent.grant fresh admitted
  owners := by
    simp only [List.map_append, List.map_cons, List.map_nil]
    refine List.nodup_append.mpr ⟨sound.owners, List.nodup_singleton _, ?_⟩
    intro first old second new equal
    obtain ⟨lease, live, rfl⟩ := List.mem_map.mp old
    rw [List.mem_singleton.mp new] at equal
    have held := (sound.leases lease.owner lease.resources).mpr live
    rw [equal, fresh] at held
    cases held
  leases := by
    intro holder claims
    rw [SchedulerState.lookup_leases_grant fresh]
    simp only [List.mem_append, List.mem_singleton, Lease.mk.injEq]
    by_cases same : holder = owner
    · subst same
      have absent : ⟨holder, claims⟩ ∉ callers.live := by
        intro live
        rw [(sound.leases holder claims).mpr live] at fresh
        cases fresh
      simp [absent, eq_comm]
    · simp [same, sound.leases]

/-- A release removes one live lease. -/
theorem Sound.release {index : Nat} {lease : Lease}
    (found : callers.live[index]? = some lease) : Sound { callers with
      scheduler := callers.scheduler.release lease.owner
      live := callers.live.eraseIdx index } := by
  obtain ⟨bound, here⟩ := List.getElem?_eq_some_iff.mp found
  have split : callers.live = callers.live.take index ++ lease :: callers.live.drop (index + 1) := by
    rw [← here, List.getElem_cons_drop, List.take_append_drop]
  have shorter := List.eraseIdx_eq_take_drop_succ callers.live index
  have owners := sound.owners
  rw [split, List.map_append, List.map_cons, List.nodup_append] at owners
  obtain ⟨front, tail, different⟩ := owners
  rw [List.nodup_cons] at tail
  have kept : ∀ other, other ∈ callers.live.eraseIdx index ↔
      other ∈ callers.live ∧ other.owner ≠ lease.owner := by
    intro other
    rw [shorter, List.mem_append]
    conv_rhs => rw [split, List.mem_append, List.mem_cons]
    constructor
    · rintro (before | after)
      · exact ⟨.inl before, different _ (List.mem_map_of_mem before) _ List.mem_cons_self⟩
      · refine ⟨.inr (.inr after), ?_⟩
        intro equal
        exact tail.1 (equal ▸ List.mem_map_of_mem after)
    · rintro ⟨before | rfl | after, distinct⟩
      · exact .inl before
      · exact absurd rfl distinct
      · exact .inr after
  refine ⟨sound.consistent.release lease.owner, ?_, ?_⟩
  · rw [shorter, List.map_append]
    refine List.nodup_append.mpr ⟨front, tail.2, ?_⟩
    intro first before second after
    exact different first before second (List.mem_cons_of_mem _ after)
  · intro owner resources
    rw [SchedulerState.lookup_leases_release, kept, ← sound.leases]
    by_cases same : owner = lease.owner
    · simp [same]
    · simp [same]

/-- Every allowed action keeps the lease table and the live leases together. -/
theorem Sound.step (action : SchedulerAction) (fresh : callers.WakesFreshOwner action) :
    (callers.step action).Sound := by
  cases action with
  | acquire owner resources =>
      simp only [Callers.step]
      split
      · exact sound
      · rename_i sorted _
        unfold SchedulerState.enter
        by_cases owned : (callers.scheduler.leases.lookup owner).isSome = true
        · rw [if_pos owned]
          exact sound
        · rw [if_neg owned]
          by_cases admitted : callers.scheduler.admits sorted = true
          · rw [if_pos admitted]
            exact sound.grant (by simpa using owned) admitted callers.waiting
          · rw [if_neg admitted]
            exact ⟨sound.consistent, sound.owners, sound.leases⟩
  | wake index expired =>
      simp only [Callers.step]
      split
      · exact sound
      · rename_i call waiting
        unfold SchedulerState.wake
        by_cases admitted : callers.scheduler.admits call.resources = true
        · rw [if_pos admitted]
          exact sound.grant (sound.lookup_none (fresh call waiting admitted)) admitted _
        · rw [if_neg admitted]
          split
          · exact sound
          · exact ⟨sound.consistent, sound.owners, sound.leases⟩
          · rename_i granted
            split at granted <;> simp at granted
  | release index =>
      simp only [Callers.step]
      split
      · exact sound
      · rename_i lease found
        exact sound.release found

end

/-- Live leases stay apart, and the claim tables are their union, in every run whose
blocked calls are granted only to owners without a live lease. -/
theorem liveLeases_exclusive {callers : Callers} (reached : system.Reaches WakesFreshOwner {} callers) :
    callers.Exclusive ∧ callers.TablesMatch := by
  have sound : callers.Sound := by
    apply reached.invariant .idle
    rintro before action _ sound permitted ⟨⟩
    exact sound.step action permitted
  constructor
  · refine (List.pairwise_map.mp sound.owners).imp_of_mem ?_
    intro first second left right different
    exact sound.consistent.apart different ((sound.leases _ _).mpr left)
      ((sound.leases _ _).mpr right)
  · intro kind id owner
    rw [sound.consistent kind id owner]
    constructor
    · rintro ⟨resources, held, inside⟩
      exact ⟨⟨owner, resources⟩, (sound.leases owner resources).mp held, rfl, inside⟩
    · rintro ⟨lease, live, rfl, inside⟩
      exact ⟨lease.resources, (sound.leases _ _).mpr live, inside⟩

/-- Two owners take the same domain one after the other. -/
theorem liveLeases_exclusive_handover :
    let callers := (((({} : Callers).step (.acquire 1 { domains := [1] })).step
      (.acquire 2 { domains := [1], units := [7] })).step (.release 0)).step (.wake 0 false)
    callers.live = [⟨2, { domains := [1], units := [7] }⟩] ∧ callers.Exclusive ∧
      callers.TablesMatch := by
  refine ⟨by decide, liveLeases_exclusive ?_⟩
  exact .step (.step (.step (.step .refl (by decide) rfl) (by decide) rfl) (by decide) rfl) (by decide) rfl

/-- A blocked call of owner 1 is granted beside its live lease. One release then clears both
claims, and owner 3 takes a domain that owner 1 still holds. -/
def overlapSchedule : List SchedulerAction :=
  [.acquire 9 { domains := [1] }, .acquire 1 { domains := [1] }, .acquire 1 { domains := [2] },
    .release 0, .wake 0 false, .release 0, .acquire 3 { domains := [1] }]

/-- Two live leases share a domain. -/
theorem liveLeases_overlap : ∃ callers : Callers, system.Reaches (fun _ _ => True) {} callers ∧
    ¬ (callers.Exclusive ∧ callers.TablesMatch) := by
  refine ⟨overlapSchedule.foldl step {}, System.Reaches.of_run (fun _ _ => true) (fun _ _ _ => trivial)
    (overlapSchedule.map fun action _ => action) rfl, ?_⟩
  rintro ⟨exclusive, -⟩
  have live : (overlapSchedule.foldl step {}).live =
      [⟨1, { domains := [1] }⟩, ⟨3, { domains := [1] }⟩] := by decide
  rw [Exclusive, live] at exclusive
  have apart := List.rel_of_pairwise_cons exclusive (List.mem_singleton_self _)
  exact apart .domain 1 (by decide) (by decide)

end Callers

end OpenVehicle.Exec
