/-
This file proves when a discovery has a watch for each of its candidates or leaves none. Several discoveries run at the
same time, and the providers tell them of routes meanwhile.
-/

import OpenVehicle.Com.Discovery
import OpenVehicle.Concurrency.System
import Mathlib.Data.List.Nodup
import Mathlib.Data.List.Range
import Mathlib.Logic.Function.Basic

namespace OpenVehicle.Com.DiscoveryWatches

open Concurrency (System)
open Com.Discovery (Entry concerns)

/-- The runtime finds its transports by their names while it runs. -/
structure Runtime where
  running : Bool
  transports : List String

def Runtime.find (runtime : Runtime) (name : String) : Option String :=
  if runtime.running then runtime.transports.find? (· == name) else none

/-- A registration is the watch that a provider has for a candidate of a discovery. -/
structure Registration where
  discovery : Nat
  candidate : Nat
  provider : String
  handle : Handle
  deriving DecidableEq, Repr

/-- A provider knows a watch by its handle. -/
def Registration.key (watch : Registration) : String × Handle := (watch.provider, watch.handle)

/-- A discovery that is refused has no object. It has been refused by a start or because a provider is unknown. -/
inductive Phase where
  | starting
  | undoing (rest : List Registration)
  | failed
  | unknown
  | opened
  | closing (rest : List Registration)
  | closed
  deriving DecidableEq, Repr

/-- The answers are those of the providers to the starts of the watches, where none is success. -/
structure Discovery where
  candidates : List RouteBinding
  answers : Nat → Option Status
  started : List Registration := []
  counts : List Nat
  phase : Phase := .starting

structure World where
  active : List Registration := []
  stops : List Registration := []
  discoveries : Nat → Option Discovery := fun _ => none
  freed : Bool := false

inductive Action where
  | discover (discovery : Nat) (candidates : List RouteBinding) (answers : Nat → Option Status)
  | iterate (discovery : Nat) (handle : Handle)
  | stopPrevious (discovery : Nat)
  | onDiscovery (registration : Registration) (entry : Entry)
  | close (discovery : Nat)
  | stopRegistration (discovery : Nat)

namespace World

def set (discovery : Nat) (self : Discovery) (world : World) : World :=
  { world with discoveries := Function.update world.discoveries discovery (some self) }

variable (registration : Registration)

def watchStop (world : World) : World :=
  { world with
    active := world.active.filter fun watch => watch.key != registration.key
    stops := world.stops ++ [registration] }

/-- A provider answers with a valid handle that none of its watches has. -/
def Free (world : World) : Prop := registration.handle ≠ 0 ∧ registration.key ∉ world.active.map Registration.key

instance (registration : Registration) (world : World) : Decidable (world.Free registration) :=
  inferInstanceAs (Decidable (_ ∧ _))

/-- The loop finds the provider of the next candidate and starts a watch. -/
def iterate (runtime : Runtime) (discovery : Nat) (handle : Handle) (self : Discovery) (world : World) : Option World :=
  match self.candidates[self.started.length]? with
  | none => some (world.set discovery { self with phase := .opened })
  | some candidate =>
      match runtime.find candidate.provider with
      | none => some (world.set discovery { self with phase := .unknown })
      | some provider =>
          match self.answers self.started.length with
          | some _ => some (world.set discovery { self with phase := .undoing self.started })
          | none =>
              let registration : Registration := ⟨discovery, self.started.length, provider, handle⟩
              if world.Free registration then
                some { world.set discovery { self with started := self.started ++ [registration] } with
                  active := world.active ++ [registration] }
              else none

/-- A notice reads its candidate, and it changes the count when it concerns the candidate. It finds no object when the
discovery has been refused. -/
def onDiscovery (entry : Entry) (self : Discovery) (world : World) : World :=
  match self.phase, self.candidates[registration.candidate]? with
  | .failed, _ | .unknown, _ => { world with freed := true }
  | .closing _, _ | .closed, _ | _, none => world
  | _, some candidate =>
      if concerns candidate entry then
        world.set registration.discovery { self with
          counts := self.counts.modify registration.candidate fun count =>
            if entry.available then count + 1 else count - 1 }
      else world

def perform (runtime : Runtime) (action : Action) (world : World) : Option World :=
  match action with
  | .discover discovery candidates answers =>
      match world.discoveries discovery with
      | some _ => none
      | none => some (world.set discovery {
          candidates := candidates
          answers := answers
          counts := List.replicate candidates.length 0 })
  | .iterate discovery handle =>
      match world.discoveries discovery with
      | none => none
      | some self => if self.phase = .starting then world.iterate runtime discovery handle self else none
  | .stopPrevious discovery =>
      match world.discoveries discovery with
      | none => none
      | some self =>
          match self.phase with
          | .undoing [] => some (world.set discovery { self with phase := .failed })
          | .undoing (registration :: rest) =>
              some ((world.watchStop registration).set discovery { self with phase := .undoing rest })
          | _ => none
  | .onDiscovery registration entry =>
      match world.discoveries registration.discovery with
      | none => none
      | some self => if registration ∈ world.active then some (world.onDiscovery registration entry self) else none
  | .close discovery =>
      match world.discoveries discovery with
      | none => none
      | some self =>
          if self.phase = .opened then some (world.set discovery { self with phase := .closing self.started })
          else some world
  | .stopRegistration discovery =>
      match world.discoveries discovery with
      | none => none
      | some self =>
          match self.phase with
          | .closing [] => some (world.set discovery { self with phase := .closed })
          | .closing (registration :: rest) =>
              let stopped := if registration.handle = 0 then world else world.watchStop registration
              some (stopped.set discovery { self with phase := .closing rest })
          | _ => none

def held (world : World) (discovery candidate : Nat) : Nat :=
  world.active.countP fun watch => watch.discovery == discovery && watch.candidate == candidate

def stopped (world : World) (discovery candidate : Nat) : Nat :=
  world.stops.countP fun watch => watch.discovery == discovery && watch.candidate == candidate

end World

def machine (runtime : Runtime) : System World Action where
  perform := World.perform runtime

namespace Discovery

/-- A refused discovery has stopped each watch that it has started. The others have one watch for each candidate until
they are closed, and a close stops each watch once. -/
def AllOrNothing (self : Discovery) (discovery : Nat) (world : World) : Prop :=
  match self.phase with
  | .starting | .undoing _ => True
  | .failed | .unknown => ∀ candidate, world.held discovery candidate = 0 ∧
      world.stopped discovery candidate = if candidate < self.started.length then 1 else 0
  | .opened => ∀ candidate,
      world.held discovery candidate = (if candidate < self.candidates.length then 1 else 0) ∧
        world.stopped discovery candidate = 0
  | .closing rest => ∀ candidate,
      world.held discovery candidate = (if candidate ∈ rest.map (·.candidate) then 1 else 0) ∧
        world.held discovery candidate + world.stopped discovery candidate =
          if candidate < self.candidates.length then 1 else 0
  | .closed => ∀ candidate, world.held discovery candidate = 0 ∧
      world.stopped discovery candidate = if candidate < self.candidates.length then 1 else 0

/-- The call has returned. -/
def Returned (self : Discovery) : Prop :=
  match self.phase with
  | .starting | .undoing _ => False
  | _ => True

section Pattern
variable (runtime : Runtime) (self : Discovery)

def Unknown (index : Nat) : Prop :=
  ∃ candidate, self.candidates[index]? = some candidate ∧ runtime.find candidate.provider = none

def Known (index : Nat) : Prop :=
  ∃ candidate, self.candidates[index]? = some candidate ∧ (runtime.find candidate.provider).isSome

/-- The provider of a later candidate is unknown, and the watches of the candidates before it are started. -/
def Stranded : Prop := ∃ index, 0 < index ∧ self.Unknown runtime index ∧
  ∀ earlier < index, self.Known runtime earlier ∧ self.answers earlier = none

end Pattern

end Discovery

section Invariant

namespace Discovery

/-- These watches of a discovery are active. -/
def live (self : Discovery) : List Registration :=
  match self.phase with
  | .undoing rest | .closing rest => rest
  | .failed | .closed => []
  | _ => self.started

/-- A discovery ends its loop for the reason that its phase tells. -/
def Fits (runtime : Runtime) (self : Discovery) : Prop :=
  match self.phase with
  | .starting => True
  | .undoing _ | .failed => self.Known runtime self.started.length ∧ self.answers self.started.length ≠ none
  | .unknown => self.Unknown runtime self.started.length
  | .opened | .closing _ | .closed => self.started.length = self.candidates.length

structure Tracked (runtime : Runtime) (object : Discovery) (discovery : Nat) (world : World) : Prop where
  active : world.active.filter (·.discovery == discovery) = object.live
  stops : world.stops.filter (·.discovery == discovery) ++ object.live = object.started
  candidates : object.started.map (·.candidate) = List.range object.started.length
  accepted : ∀ index < object.started.length, object.Known runtime index ∧ object.answers index = none
  fits : object.Fits runtime

end Discovery

/-- Every provider knows its watches apart, and every watch has the discovery that it belongs to. -/
structure Sound (runtime : Runtime) (world : World) : Prop where
  apart : (world.active.map Registration.key).Nodup
  genuine : ∀ watch ∈ world.active, watch.handle ≠ 0
  owned : ∀ watch ∈ world.active ++ world.stops, (world.discoveries watch.discovery).isSome
  tracked : ∀ discovery self, world.discoveries discovery = some self → self.Tracked runtime discovery world

variable {runtime : Runtime} {world later : World} {self : Discovery} {discovery : Nat} {registration : Registration}
  {rest : List Registration}

namespace World

theorem set_self (self : Discovery) (world : World) : (world.set discovery self).discoveries discovery = some self :=
  Function.update_self _ _ _

theorem set_ne {other : Nat} (different : other ≠ discovery) (self : Discovery) (world : World) :
    (world.set discovery self).discoveries other = world.discoveries other := Function.update_of_ne different _ _

theorem isSome_set {other : Nat} (known : (world.discoveries other).isSome) (self : Discovery) :
    ((world.set discovery self).discoveries other).isSome := by
  by_cases same : other = discovery
  · subst same
    rw [set_self]
    rfl
  · rwa [set_ne same]

end World

/-- The watches of the other discoveries stay as they are. -/
theorem Discovery.Tracked.congr (tracked : self.Tracked runtime discovery world)
    (active : later.active.filter (·.discovery == discovery) = world.active.filter (·.discovery == discovery))
    (stops : later.stops.filter (·.discovery == discovery) = world.stops.filter (·.discovery == discovery)) :
    self.Tracked runtime discovery later where
  active := active.trans tracked.active
  stops := by
    rw [stops]
    exact tracked.stops
  candidates := tracked.candidates
  accepted := tracked.accepted
  fits := tracked.fits

/-- A step that keeps the watches is sound when it keeps what is tracked of its discovery. -/
theorem Sound.set (sound : Sound runtime world) (tracked : self.Tracked runtime discovery world) :
    Sound runtime (world.set discovery self) where
  apart := sound.apart
  genuine := sound.genuine
  owned watch listed := World.isSome_set (sound.owned watch listed) self
  tracked other found known := by
    by_cases same : other = discovery
    · subst same
      rw [World.set_self] at known
      obtain rfl := Option.some.inj known
      exact tracked.congr rfl rfl
    · rw [World.set_ne same] at known
      exact (sound.tracked other found known).congr rfl rfl

section Watches

section
variable (sound : Sound runtime world)
include sound

/-- A new watch is the last one of its discovery. -/
theorem Sound.start (known : world.discoveries discovery = some self)
    (phase : self.phase = .starting) (index : registration.candidate = self.started.length)
    (own : registration.discovery = discovery) (free : world.Free registration)
    (accepted : self.Known runtime self.started.length ∧ self.answers self.started.length = none) :
    Sound runtime { world.set discovery { self with started := self.started ++ [registration] } with
      active := world.active ++ [registration] } := by
  have tracked := sound.tracked discovery self known
  constructor
  · rw [List.map_append]
    exact List.nodup_append'.mpr ⟨sound.apart, List.nodup_singleton _, List.disjoint_singleton.mpr free.2⟩
  · intro watch listed
    rcases List.mem_append.mp listed with old | new
    · exact sound.genuine watch old
    · obtain rfl := List.mem_singleton.mp new
      exact free.1
  · intro watch listed
    apply World.isSome_set
    simp only [List.mem_append, List.mem_singleton] at listed
    rcases listed with (old | rfl) | old
    · exact sound.owned watch (List.mem_append_left _ old)
    · rw [own, known]
      rfl
    · exact sound.owned watch (List.mem_append_right _ old)
  · intro other found listed
    by_cases same : other = discovery
    · subst same
      rw [show found = _ from (Option.some.inj ((World.set_self _ _).symm.trans listed)).symm]
      have live : self.live = self.started := by rw [Discovery.live, phase]
      have active := tracked.active
      have stops := tracked.stops
      rw [live] at active stops
      have before : world.stops.filter (·.discovery == other) = [] := List.append_left_eq_self.mp stops
      constructor
      · simp [Discovery.live, phase, active, own]
      · simp [Discovery.live, phase, before, World.set]
      · simp [tracked.candidates, index, List.range_succ]
      · intro earlier inside
        rcases Nat.lt_succ_iff_lt_or_eq.mp (by simpa using inside) with less | rfl
        · exact tracked.accepted earlier less
        · exact accepted
      · simp [Discovery.Fits, phase]
    · have foreign : (registration.discovery == other) = false := by simpa [own] using fun equal => same equal.symm
      rw [World.set_ne same] at listed
      apply (sound.tracked other found listed).congr
      · simp [foreign]
      · rfl

/-- A stop removes one watch from its provider. -/
theorem active_watchStop (listed : registration ∈ world.active) :
    (world.watchStop registration).active = world.active.filter (· != registration) := by
  apply List.filter_congr
  intro watch found
  by_cases same : watch = registration
  · rw [same, bne_self_eq_false, bne_self_eq_false]
  · have apart : watch.key ≠ registration.key := fun equal =>
      same (List.inj_on_of_nodup_map sound.apart found listed equal)
    rw [bne_iff_ne.mpr same, bne_iff_ne.mpr apart]

variable (known : world.discoveries discovery = some self)
include known

theorem Sound.mem_of_live
    (live : registration ∈ self.live) : registration ∈ world.active ∧ registration.discovery = discovery := by
  rw [← (sound.tracked discovery self known).active] at live
  obtain ⟨listed, own⟩ := List.mem_filter.mp live
  exact ⟨listed, beq_iff_eq.mp own⟩

/-- A discovery stops the first of its watches. -/
theorem Sound.stop {phase : Phase}
    (live : self.live = registration :: rest) (left : ({ self with phase := phase } : Discovery).live = rest)
    (fits : ({ self with phase := phase } : Discovery).Fits runtime) :
    Sound runtime ((world.watchStop registration).set discovery { self with phase := phase }) := by
  have tracked := sound.tracked discovery self known
  obtain ⟨listed, own⟩ := sound.mem_of_live known (live ▸ List.mem_cons_self)
  have active := active_watchStop sound listed
  have same : (registration.discovery == discovery) = true := beq_iff_eq.mpr own
  have fewer : ∀ watch ∈ (world.watchStop registration).active, watch ∈ world.active := fun watch found =>
    (List.mem_filter.mp found).1
  constructor
  · exact sound.apart.sublist (List.filter_sublist.map _)
  · exact fun watch found => sound.genuine watch (fewer watch found)
  · intro watch found
    apply World.isSome_set
    change watch ∈ (world.watchStop registration).active ++ (world.stops ++ [registration]) at found
    simp only [List.mem_append, List.mem_singleton] at found
    rcases found with old | old | rfl
    · exact sound.owned watch (List.mem_append_left _ (fewer watch old))
    · exact sound.owned watch (List.mem_append_right _ old)
    · exact sound.owned watch (List.mem_append_left _ listed)
  · intro other found place
    by_cases equal : other = discovery
    · subst equal
      obtain rfl := Option.some.inj ((World.set_self _ _).symm.trans place)
      have distinct : (registration :: rest).Nodup := by
        rw [← live, ← tracked.active]
        exact sound.apart.of_map.filter _
      refine ⟨?_, ?_, tracked.candidates, tracked.accepted, fits⟩
      · have removed : (registration :: rest).filter (· != registration) = rest := by
          rw [List.filter_cons_of_neg (by simp), List.filter_eq_self]
          intro watch kept
          exact bne_iff_ne.mpr fun equal => (List.nodup_cons.mp distinct).1 (equal ▸ kept)
        calc (world.watchStop registration).active.filter (·.discovery == other)
            = (world.active.filter (·.discovery == other)).filter (· != registration) := by
              rw [active, List.filter_filter, List.filter_filter]
              simp only [Bool.and_comm]
          _ = rest := by rw [tracked.active, live, removed]
          _ = _ := left.symm
      · have before := tracked.stops
        rw [live] at before
        rw [left, ← before]
        simp [World.watchStop, World.set, same]
    · rw [World.set_ne equal] at place
      have foreign : (registration.discovery == other) = false := by
        simpa [own] using fun alike => equal alike.symm
      apply (sound.tracked other found place).congr
      · change (world.watchStop registration).active.filter _ = _
        rw [active, List.filter_filter]
        apply List.filter_congr
        intro watch _
        by_cases alike : watch = registration
        · simp [alike, foreign]
        · simp [alike]
      · simp [World.watchStop, World.set, foreign]

/-- A discovery enters a phase that has the same watches. -/
theorem Sound.enter {phase : Phase} (same : ({ self with phase := phase } : Discovery).live = self.live)
    (fits : ({ self with phase := phase } : Discovery).Fits runtime) :
    Sound runtime (world.set discovery { self with phase := phase }) := by
  have tracked := sound.tracked discovery self known
  apply sound.set
  refine ⟨tracked.active.trans same.symm, ?_, tracked.candidates, tracked.accepted, fits⟩
  rw [same]
  exact tracked.stops

/-- The loop tells at its end why it ends. -/
theorem sound_iterate (phase : self.phase = .starting) {handle : Handle}
    (performed : world.iterate runtime discovery handle self = some later) : Sound runtime later := by
  have tracked := sound.tracked discovery self known
  have live : self.live = self.started := by rw [Discovery.live, phase]
  unfold World.iterate at performed
  split at performed
  · rename_i ended
    cases performed
    refine sound.enter known live.symm ?_
    have least : self.candidates.length ≤ self.started.length := List.getElem?_eq_none_iff.mp ended
    refine Nat.le_antisymm ?_ least
    by_contra more
    obtain ⟨candidate, found, _⟩ := (tracked.accepted self.candidates.length (Nat.lt_of_not_le more)).1
    simp at found
  · rename_i candidate found
    split at performed
    · rename_i missing
      cases performed
      exact sound.enter known live.symm ⟨candidate, found, missing⟩
    · rename_i provider present
      have here : self.Known runtime self.started.length := ⟨candidate, found, Option.isSome_of_eq_some present⟩
      split at performed
      · rename_i status answer
        cases performed
        exact sound.enter known live.symm ⟨here, by simp [answer]⟩
      · rename_i answer
        dsimp only at performed
        split at performed
        · rename_i free
          cases performed
          exact sound.start known phase rfl rfl free ⟨here, answer⟩
        · cases performed

end

/-- An object that only changes its counts is tracked as before. -/
theorem tracked_counts (tracked : self.Tracked runtime discovery world) (counts : List Nat) :
    ({ self with counts := counts } : Discovery).Tracked runtime discovery world :=
  ⟨tracked.active, tracked.stops, tracked.candidates, tracked.accepted, tracked.fits⟩

variable (sound : Sound runtime world)
include sound

theorem sound_onDiscovery (known : world.discoveries registration.discovery = some self)
    (entry : Entry) : Sound runtime (world.onDiscovery registration entry self) := by
  have kept : Sound runtime { world with freed := true } :=
    ⟨sound.apart, sound.genuine, sound.owned, fun other found place =>
      (sound.tracked other found place).congr rfl rfl⟩
  unfold World.onDiscovery
  split
  · exact kept
  · exact kept
  · exact sound
  · exact sound
  · exact sound
  · split
    · exact sound.set (tracked_counts (sound.tracked _ _ known) _)
    · exact sound

theorem sound_discover (fresh : world.discoveries discovery = none)
    (candidates : List RouteBinding) (answers : Nat → Option Status) (counts : List Nat) :
    Sound runtime (world.set discovery { candidates, answers, counts }) := by
  have absent : ∀ watch ∈ world.active ++ world.stops, ¬(watch.discovery == discovery) = true := by
    intro watch listed same
    have owned := sound.owned watch listed
    rw [beq_iff_eq.mp same, fresh] at owned
    cases owned
  apply sound.set
  have active : world.active.filter (·.discovery == discovery) = [] :=
    List.filter_eq_nil_iff.mpr fun watch listed => absent watch (List.mem_append_left _ listed)
  have stops : world.stops.filter (·.discovery == discovery) = [] :=
    List.filter_eq_nil_iff.mpr fun watch listed => absent watch (List.mem_append_right _ listed)
  refine ⟨active, ?_, rfl, ?_, trivial⟩
  · rw [stops]
    rfl
  · intro index inside
    cases inside

/-- Every action keeps the world sound. -/
theorem sound_perform {action : Action}
    (performed : world.perform runtime action = some later) : Sound runtime later := by
  unfold World.perform at performed
  cases action with
  | discover discovery candidates answers =>
      dsimp only at performed
      split at performed
      · cases performed
      · rename_i fresh
        cases performed
        exact sound_discover sound fresh _ _ _
  | iterate discovery handle =>
      dsimp only at performed
      split at performed
      · cases performed
      · rename_i self known
        split at performed
        · rename_i phase
          exact sound_iterate sound known phase performed
        · cases performed
  | stopPrevious discovery =>
      dsimp only at performed
      split at performed
      · cases performed
      · rename_i self known
        have fits := (sound.tracked discovery self known).fits
        unfold Discovery.Fits at fits
        split at performed
        · rename_i phase
          cases performed
          have live : self.live = [] := by rw [Discovery.live, phase]
          rw [phase] at fits
          exact sound.enter known live.symm fits
        · rename_i registration rest phase
          cases performed
          have live : self.live = registration :: rest := by rw [Discovery.live, phase]
          rw [phase] at fits
          exact sound.stop known live rfl fits
        · cases performed
  | onDiscovery registration entry =>
      dsimp only at performed
      split at performed
      · cases performed
      · rename_i self known
        split at performed
        · cases performed
          exact sound_onDiscovery sound known entry
        · cases performed
  | close discovery =>
      dsimp only at performed
      split at performed
      · cases performed
      · rename_i self known
        split at performed
        · rename_i phase
          cases performed
          have live : self.live = self.started := by rw [Discovery.live, phase]
          have fits := (sound.tracked discovery self known).fits
          rw [Discovery.Fits, phase] at fits
          exact sound.enter known live.symm fits
        · cases performed
          exact sound
  | stopRegistration discovery =>
      dsimp only at performed
      split at performed
      · cases performed
      · rename_i self known
        have fits := (sound.tracked discovery self known).fits
        unfold Discovery.Fits at fits
        split at performed
        · rename_i phase
          cases performed
          have live : self.live = [] := by rw [Discovery.live, phase]
          rw [phase] at fits
          exact sound.enter known live.symm fits
        · rename_i registration rest phase
          cases performed
          have live : self.live = registration :: rest := by rw [Discovery.live, phase]
          rw [phase] at fits
          obtain ⟨listed, _⟩ := sound.mem_of_live known (live ▸ List.mem_cons_self)
          rw [if_neg (sound.genuine registration listed)]
          exact sound.stop known live rfl fits
        · cases performed

end Watches

section Counts

variable (tracked : self.Tracked runtime discovery world)
include tracked

theorem Discovery.Tracked.held (candidate : Nat) :
    world.held discovery candidate = (self.live.map (·.candidate)).count candidate := by
  rw [← tracked.active, List.count, List.countP_map, List.countP_filter]
  apply List.countP_congr
  intro watch _
  simp [and_comm]

/-- A watch that was started is active or it has been stopped once. -/
theorem Discovery.Tracked.held_add_stopped (candidate : Nat) :
    world.held discovery candidate + world.stopped discovery candidate =
      if candidate < self.started.length then 1 else 0 := by
  have stopped : world.stopped discovery candidate =
      ((world.stops.filter (·.discovery == discovery)).map (·.candidate)).count candidate := by
    rw [List.count, List.countP_map, List.countP_filter]
    apply List.countP_congr
    intro watch _
    simp [and_comm]
  rw [tracked.held, stopped, Nat.add_comm, ← List.count_append, ← List.map_append, tracked.stops, tracked.candidates,
    List.count_range]

theorem Discovery.Tracked.nodup_live : (self.live.map (·.candidate)).Nodup := by
  have all : (self.started.map (·.candidate)).Nodup := tracked.candidates ▸ List.nodup_range
  rw [← tracked.stops, List.map_append] at all
  exact (List.nodup_append.mp all).2.1

/-- A call that has returned is stranded when it has met an unknown provider after a start. -/
theorem Discovery.Tracked.stranded_iff (returned : self.Returned) :
    self.Stranded runtime ↔ self.phase = .unknown ∧ 0 < self.started.length := by
  have differ : ∀ index, self.Unknown runtime index → ¬self.Known runtime index := by
    rintro index ⟨candidate, found, missing⟩ ⟨other, same, present⟩
    obtain rfl := Option.some.inj (found.symm.trans same)
    rw [missing] at present
    cases present
  have fits := tracked.fits
  constructor
  · rintro ⟨index, positive, unknown, earlier⟩
    have least : self.started.length ≤ index := by
      by_contra less
      exact differ index unknown (tracked.accepted index (Nat.lt_of_not_le less)).1
    have inside : self.started.length < self.candidates.length := by
      obtain ⟨candidate, found, _⟩ := unknown
      exact Nat.lt_of_le_of_lt least (List.getElem?_eq_some_iff.mp found).1
    unfold Discovery.Fits at fits
    rcases Nat.eq_or_lt_of_le least with same | less
    · rw [← same] at unknown positive
      refine ⟨?_, positive⟩
      cases phase : self.phase with
      | unknown => rfl
      | starting | undoing rest => simp [Discovery.Returned, phase] at returned
      | failed =>
          rw [phase] at fits
          exact absurd fits.1 (differ _ unknown)
      | opened | closing rest | closed =>
          rw [phase] at fits
          exact absurd fits (Nat.ne_of_lt inside)
    · obtain ⟨known, answer⟩ := earlier _ less
      cases phase : self.phase with
      | unknown =>
          rw [phase] at fits
          exact absurd known (differ _ fits)
      | starting | undoing rest => simp [Discovery.Returned, phase] at returned
      | failed =>
          rw [phase] at fits
          exact absurd answer fits.2
      | opened | closing rest | closed =>
          rw [phase] at fits
          exact absurd fits (Nat.ne_of_lt inside)
  · rintro ⟨phase, positive⟩
    rw [Discovery.Fits, phase] at fits
    exact ⟨_, positive, fits, tracked.accepted⟩

theorem Discovery.Tracked.allOrNothing_iff (returned : self.Returned) :
    self.AllOrNothing discovery world ↔ ¬(self.phase = .unknown ∧ 0 < self.started.length) := by
  have held := tracked.held
  have total := tracked.held_add_stopped
  have fits := tracked.fits
  have distinct := tracked.nodup_live
  unfold Discovery.live at held distinct
  unfold Discovery.Fits at fits
  unfold Discovery.AllOrNothing
  cases phase : self.phase with
  | starting | undoing rest => simp [Discovery.Returned, phase] at returned
  | failed =>
      simp only [phase, List.map_nil, List.count_nil] at held
      refine iff_of_true (fun candidate => ⟨held candidate, ?_⟩) (by simp)
      rw [← total, held, Nat.zero_add]
  | unknown =>
      simp only [phase, tracked.candidates, List.count_range] at held
      constructor
      · rintro all ⟨_, positive⟩
        have first := (all 0).1
        rw [held, if_pos positive] at first
        cases first
      · intro empty candidate
        have none : self.started.length = 0 := Nat.eq_zero_of_not_pos fun positive => empty ⟨rfl, positive⟩
        have both := total candidate
        rw [none] at both ⊢
        exact ⟨Nat.eq_zero_of_add_eq_zero_right both, Nat.eq_zero_of_add_eq_zero_left both⟩
  | opened =>
      simp only [phase, tracked.candidates, List.count_range] at held
      rw [phase] at fits
      refine iff_of_true (fun candidate => ?_) (by simp)
      have both := total candidate
      rw [held candidate, Nat.add_eq_left] at both
      exact ⟨fits ▸ held candidate, both⟩
  | closing rest =>
      simp only [phase] at held distinct fits
      refine iff_of_true (fun candidate => ?_) (by simp)
      rw [← fits]
      refine ⟨?_, total candidate⟩
      rw [held, distinct.count]
  | closed =>
      simp only [phase, List.map_nil, List.count_nil] at held fits
      refine iff_of_true (fun candidate => ⟨held candidate, ?_⟩) (by simp)
      rw [← fits, ← total, held, Nat.zero_add]

end Counts

end Invariant

section Reached
variable {runtime : Runtime} {world : World}

theorem sound_empty (runtime : Runtime) : Sound runtime {} where
  apart := List.nodup_nil
  genuine watch listed := by cases listed
  owned watch listed := by cases listed
  tracked discovery self known := by cases known

theorem sound_of_reaches (reached : (machine runtime).Reaches (fun _ _ => True) {} world) : Sound runtime world :=
  reached.invariant (sound_empty runtime) fun _ _ _ sound _ performed => sound_perform sound performed

/-- A discovery that has returned has all of its watches or none, unless a later provider is unknown and the watches
before it are started. -/
theorem discover_all_or_nothing (runtime : Runtime) (world : World)
    (reached : (machine runtime).Reaches (fun _ _ => True) {} world) (discovery : Nat) (self : Discovery)
    (known : world.discoveries discovery = some self) (returned : self.Returned) :
    self.AllOrNothing discovery world ↔ ¬self.Stranded runtime := by
  have tracked := (sound_of_reaches reached).tracked discovery self known
  rw [tracked.allOrNothing_iff returned, tracked.stranded_iff returned]

end Reached

def route (provider : String) : RouteBinding where
  serviceId := Vector.replicate 16 1
  instanceId := Vector.replicate 16 2
  routeEpoch := 1
  provider := provider
  nativeService := "radar"

def vehicle : Runtime where
  running := true
  transports := ["inproc", "someip"]

def accepting : Nat → Option Status := fun _ => none

def closing : List Action := [.discover 0 [route "inproc", route "someip"] accepting, .iterate 0 1, .iterate 0 1,
  .iterate 0 0, .close 0, .stopRegistration 0, .stopRegistration 0, .stopRegistration 0]

/-- Both watches are started, and the close stops them. -/
theorem discover_two_providers : ∃ (world : World) (self : Discovery), world.discoveries 0 = some self ∧
    self.phase = .closed ∧ (self.AllOrNothing 0 world ↔ ¬self.Stranded vehicle) := by
  obtain ⟨world, reached, ended⟩ := System.Reaches.exists_of_run (fun _ _ => true) (fun _ _ _ => trivial)
    (closing.map fun action _ => action) (fun world => (world.discoveries 0).any fun self => self.phase == .closed)
    (show ((machine vehicle).run (fun _ _ => true) _ {}).any _ = true by decide)
  obtain ⟨self, known, phase⟩ := (Option.any_eq_true _ _).mp ended
  have closed : self.phase = .closed := beq_iff_eq.mp phase
  refine ⟨world, self, known, closed, discover_all_or_nothing vehicle world reached 0 self known ?_⟩
  simp [Discovery.Returned, closed]

def missing : List Action := [.discover 0 [route "inproc", route "missing"] accepting, .iterate 0 1, .iterate 0 2]

/-- The watch of the first provider stays when the second provider is unknown. -/
theorem discover_unknown_provider : ∃ (world : World) (self : Discovery),
    (machine vehicle).Reaches (fun _ _ => True) {} world ∧ world.discoveries 0 = some self ∧ self.Returned ∧
      ¬self.AllOrNothing 0 world := by
  obtain ⟨world, reached, ended⟩ := System.Reaches.exists_of_run (fun _ _ => true) (fun _ _ _ => trivial)
    (missing.map fun action _ => action)
    (fun world => (world.discoveries 0).any fun self => self.phase == .unknown && world.held 0 0 == 1)
    (show ((machine vehicle).run (fun _ _ => true) _ {}).any _ = true by decide)
  obtain ⟨self, known, facts⟩ := (Option.any_eq_true _ _).mp ended
  obtain ⟨phase, held⟩ := (Bool.and_eq_true _ _).mp facts
  have unknown : self.phase = .unknown := beq_iff_eq.mp phase
  refine ⟨world, self, reached, known, ?_, ?_⟩
  · simp [Discovery.Returned, unknown]
  · intro all
    rw [Discovery.AllOrNothing, unknown] at all
    rw [(all 0).1] at held
    cases held

end OpenVehicle.Com.DiscoveryWatches
