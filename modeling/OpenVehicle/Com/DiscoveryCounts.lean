/-
This file proves when the counts of a discovery are the numbers of live endpoints. The stage of a thread lists
the notices that it has to hand over, and every notice is counted until it is delivered.
-/

import OpenVehicle.Com.Discovery
import OpenVehicle.Concurrency.Protocol
import OpenVehicle.Concurrency.Tally
import Mathlib.Data.List.Perm.Basic

namespace OpenVehicle.Com.Discovery

open Concurrency

/-- A plain operation creates no notice, and a thread calls it when it has none. -/
def Op.isPlain : Op → Bool
  | .watchStop _ | .deactivate _ | .opened _ | .close _ => true
  | _ => false

/-- The notices of a thread change with the replies to its operations. -/
inductive Moves : List Notice → (op : Op) → op.Reply → List Notice → Prop
  | plain {op} (reply) (plain : op.isPlain = true) : Moves [] op reply []
  | deactivateServer (notices server) : Moves notices (.deactivateServer server) () notices
  | dispatch (notice notices answer) : Moves (notice :: notices) (.dispatch notice) answer notices
  | watchStart (discovery candidate handle watch available) :
      Moves [] (.watchStart discovery candidate) (.ok (handle, watch, available))
        (available.map fun descriptor => ⟨watch, entryOf descriptor 0 true⟩)
  | watchRefused (discovery candidate status) : Moves [] (.watchStart discovery candidate) (.error status) []
  | create (descriptor handle watches) : Moves [] (.endpointCreate descriptor) (.ok (handle, watches))
      (watches.map fun watch => ⟨watch, entryOf descriptor handle true⟩)
  | createRefused (descriptor status) : Moves [] (.endpointCreate descriptor) (.error status) []
  | destroy (handle descriptor watches server) :
      Moves [] (.endpointDestroy handle) (.ok (descriptor, watches, server))
        (watches.map fun watch => ⟨watch, entryOf descriptor handle false⟩)
  | destroyRefused (handle status) : Moves [] (.endpointDestroy handle) (.error status) []

def Ends (notices : List Notice) (_ : Unit) : Prop := notices = []

variable {world later : World} {program : Run Unit}

abbrev Keeps {A : Type} (notices : List Notice) (program : Run A) : Prop :=
  Program.Follows Moves (fun later _ => later = []) notices program

theorem keeps_announce (notices : List Notice) : Keeps notices (announce notices) := by
  induction notices with
  | nil => exact rfl
  | cons notice notices ih => exact fun answer => ⟨_, .dispatch notice notices answer, ih⟩

theorem keeps_watchStart (discovery : Nat) (candidate : RouteBinding) : Keeps [] (watchStart discovery candidate) := by
  intro result
  cases result with
  | error status => exact ⟨_, .watchRefused discovery candidate status, rfl⟩
  | ok started =>
      obtain ⟨handle, watch, available⟩ := started
      refine ⟨_, .watchStart discovery candidate handle watch available, ?_⟩
      have announced := keeps_announce (available.map fun descriptor => ⟨watch, entryOf descriptor 0 true⟩)
      exact announced.bind fun _ _ empty => empty

theorem keeps_watchStop (handle : Handle) : Keeps [] (watchStop handle) := by
  intro removed
  refine ⟨_, .plain _ rfl, ?_⟩
  cases removed with
  | none => exact rfl
  | some watch => exact fun _ => ⟨_, .plain _ rfl, rfl⟩

theorem keeps_stopAll (handles : List Handle) : Keeps [] (stopAll handles) := by
  induction handles with
  | nil => exact rfl
  | cons handle handles ih =>
      apply Program.Follows.bind (keeps_watchStop handle)
      intro later _ empty
      subst empty
      exact ih

theorem keeps_discover (discovery : Nat) (candidates : List RouteBinding) (started : List Handle) :
    Keeps [] (discover discovery candidates started) := by
  induction candidates generalizing started with
  | nil => exact fun _ => ⟨_, .plain _ rfl, rfl⟩
  | cons candidate candidates ih =>
      apply Program.Follows.bind (keeps_watchStart discovery candidate)
      intro later result empty
      subst empty
      cases result with
      | error status => exact keeps_stopAll started
      | ok handle => exact ih _

theorem keeps_close (discovery : Nat) : Keeps [] (close discovery) :=
  fun handles => ⟨_, .plain _ rfl, keeps_stopAll handles⟩

theorem keeps_endpointCreate (descriptor : EndpointDescriptor) : Keeps [] (endpointCreate descriptor) := by
  intro created
  cases created with
  | error status => exact ⟨_, .createRefused descriptor status, rfl⟩
  | ok created =>
      obtain ⟨handle, watches⟩ := created
      exact ⟨_, .create descriptor handle watches, keeps_announce _⟩

theorem keeps_endpointDestroy (handle : Handle) : Keeps [] (endpointDestroy handle) := by
  intro removed
  cases removed with
  | error status => exact ⟨_, .destroyRefused handle status, rfl⟩
  | ok removed =>
      obtain ⟨descriptor, watches, server⟩ := removed
      refine ⟨_, .destroy handle descriptor watches server, ?_⟩
      cases server with
      | none => exact keeps_announce _
      | some server => exact fun _ => ⟨_, .deactivateServer _ server, keeps_announce _⟩

theorem keeps_event {event : Event} (occurred : world.occur event = some (later, some program)) :
    Keeps [] program ∧ ∃ discoveries, later = { world with discoveries } := by
  cases event with
  | discover candidates =>
      cases occurred
      exact ⟨keeps_discover _ candidates [], _, rfl⟩
  | close discovery =>
      simp only [World.occur] at occurred
      split at occurred
      · cases occurred
        exact ⟨keeps_close discovery, _, rfl⟩
      · cases occurred
  | endpointCreate descriptor =>
      cases occurred
      exact ⟨keeps_endpointCreate descriptor, _, rfl⟩
  | endpointDestroy handle =>
      cases occurred
      exact ⟨keeps_endpointDestroy handle, _, rfl⟩
  | run index =>
      obtain ⟨notice, _, started⟩ := Option.map_eq_some_iff.mp occurred
      cases started

variable {count index : Nat}

section Counting

/-- A live endpoint is announced to the watch of the candidate. -/
def serves (candidate : RouteBinding) (descriptor : EndpointDescriptor) : Bool :=
  InprocTransport.announces descriptor.kind && descriptor.serviceId == candidate.serviceId &&
    concerns candidate (entryOf descriptor 0 true)

namespace World

/-- The number of live endpoints that match a candidate. -/
def live (candidate : RouteBinding) (world : World) : Nat :=
  world.transport.endpoints.countP fun endpoint => serves candidate endpoint.2

/-- A registration is watched while it listens and the transport knows its watch. -/
structure Watched (world : World) (watch : Nat) (registration : Registration) : Prop where
  found : world.registrations[watch]? = some registration
  listens : world.listens registration = true
  entry : (registration.handle, registration.candidate.serviceId, watch) ∈ world.transport.watches

end World

open World (Watched)

/-- The notice changes the count of a candidate. -/
def tells (watch : Nat) (candidate : RouteBinding) (available : Bool) (notice : Notice) : Bool :=
  notice.watch == watch && notice.entry.available == available && concerns candidate notice.entry

def queued (test : Notice → Bool) (world : World) : Nat := world.tasks.countP test + world.rejected.countP test

/-- The number of notices that are not delivered. -/
def owed (test : Notice → Bool) (world : World) (count : Nat) (stage : Nat → List Notice) : Nat :=
  total (List.countP test) count stage + queued test world

/-- The tables of the transport and of the binding agree. -/
structure Tables (world : World) : Prop where
  running : world.transport.running = true
  unique : (world.transport.endpoints.map Prod.fst).Nodup
  fresh : ∀ endpoint ∈ world.transport.endpoints, endpoint.1 < world.transport.nextHandle
  distinct : (world.transport.watches.map fun watch => watch.2.2).Nodup
  registered : ∀ watch ∈ world.transport.watches, watch.2.2 < world.registrations.length

/-- A count is the number of live endpoints but for the notices that are not delivered. -/
structure Counted (world : World) (count : Nat) (stage : Nat → List Notice) : Prop where
  tables : Tables world
  known : ∀ watch, world.registrations.length ≤ watch → owed (fun notice => notice.watch == watch) world count stage = 0
  balanced : ∀ watch registration, Watched world watch registration →
    registration.count + owed (tells watch registration.candidate true) world count stage =
      world.live registration.candidate + owed (tells watch registration.candidate false) world count stage

/-- What a step does when it starts no watch. -/
structure Steady (world later : World) (before after created : List Notice) : Prop where
  tables : Tables later
  length : later.registrations.length = world.registrations.length
  moved : ∀ test : Notice → Bool,
    after.countP test + queued test later = before.countP test + queued test world + created.countP test
  known : ∀ notice ∈ created, notice.watch < world.registrations.length
  balanced : ∀ watch registration, Watched later watch registration → Watched world watch registration ∧
    later.live registration.candidate + created.countP (tells watch registration.candidate false) =
      world.live registration.candidate + created.countP (tells watch registration.candidate true)

variable {stage : Nat → List Notice} {after created : List Notice}

theorem Steady.owed (steady : Steady world later (stage index) after created) (inside : index < count)
    (test : Notice → Bool) : owed test later count (Function.update stage index after) =
      owed test world count stage + created.countP test := by
  have moved := total_move inside (Eq.refl (stage index)) after (List.countP test)
  have := steady.moved test
  simp only [Discovery.owed]
  omega

theorem Counted.step (counted : Counted world count stage) (inside : index < count)
    (steady : Steady world later (stage index) after created) :
    Counted later count (Function.update stage index after) := by
  refine ⟨steady.tables, fun watch outside => ?_, fun watch registration watched => ?_⟩
  · rw [steady.length] at outside
    have none : created.countP (fun notice => notice.watch == watch) = 0 := by
      apply List.countP_eq_zero.mpr
      intro notice found same
      have := steady.known notice found
      have := beq_iff_eq.mp same
      omega
    rw [steady.owed inside, none, counted.known watch outside]
  · obtain ⟨watched, live⟩ := steady.balanced watch registration watched
    have := counted.balanced watch registration watched
    rw [steady.owed inside, steady.owed inside]
    omega

end Counting

section Steps

open World (Watched)

/-- The tables agree when a step removes watches only. -/
theorem Tables.removes (tables : Tables world) (running : later.transport.running = true)
    (endpoints : later.transport.endpoints = world.transport.endpoints)
    (handles : later.transport.nextHandle = world.transport.nextHandle)
    (watches : List.Sublist later.transport.watches world.transport.watches)
    (length : later.registrations.length = world.registrations.length) : Tables later := by
  refine ⟨running, ?_, ?_, tables.distinct.sublist (watches.map _), fun watch found => ?_⟩
  · rw [endpoints]
    exact tables.unique
  · rw [endpoints, handles]
    exact tables.fresh
  · rw [length]
    exact tables.registered watch (watches.subset found)

variable {before after : List Notice}

/-- A step that creates no notice keeps the live endpoints. -/
theorem Steady.of_silent (tables : Tables later)
    (length : later.registrations.length = world.registrations.length) (moved : ∀ test : Notice → Bool,
      after.countP test + queued test later = before.countP test + queued test world)
    (live : ∀ candidate, later.live candidate = world.live candidate)
    (watched : ∀ watch registration, Watched later watch registration → Watched world watch registration) :
    Steady world later before after [] := by
  refine ⟨tables, length, moved, fun notice found => absurd found List.not_mem_nil, fun watch registration known => ?_⟩
  exact ⟨watched watch registration known, by rw [live]; rfl⟩

variable {registration : Registration} {watch : Nat}

/-- A watch is told at most once of a service. -/
theorem count_watching (tables : Tables world) (watched : Watched world watch registration) (service : Uuid) :
    (world.transport.watching service).count watch = if service = registration.candidate.serviceId then 1 else 0 := by
  have sub : List.Sublist (world.transport.watching service) (world.transport.watches.map fun watch => watch.2.2) :=
    List.filter_sublist.map _
  split
  · rename_i same
    apply List.count_eq_one_of_mem (tables.distinct.sublist sub)
    apply List.mem_map.mpr
    exact ⟨_, List.mem_filter.mpr ⟨watched.entry, beq_iff_eq.mpr same.symm⟩, rfl⟩
  · rename_i different
    apply List.count_eq_zero.mpr
    intro told
    obtain ⟨other, found, same⟩ := List.mem_map.mp told
    obtain ⟨found, service⟩ := List.mem_filter.mp found
    have equal := List.inj_on_of_nodup_map tables.distinct found watched.entry same
    rw [equal] at service
    exact different (beq_iff_eq.mp service).symm

theorem countP_told (watches : List Nat) (descriptor : EndpointDescriptor) (handle : Handle) (available told : Bool)
    (watch : Nat) (candidate : RouteBinding) :
    (watches.map fun watch => (⟨watch, entryOf descriptor handle available⟩ : Notice)).countP
        (tells watch candidate told) =
      if available = told ∧ concerns candidate (entryOf descriptor 0 true) = true then watches.count watch else 0 := by
  rw [List.countP_map]
  have concerned : concerns candidate (entryOf descriptor handle available) =
    concerns candidate (entryOf descriptor 0 true) := rfl
  split
  · rename_i holds
    obtain ⟨rfl, matched⟩ := holds
    apply List.countP_congr
    intro other _
    have same : (entryOf descriptor handle available).available = available := rfl
    simp only [Function.comp, tells, concerned, matched, same, beq_self_eq_true, Bool.and_true]
  · rename_i fails
    apply List.countP_eq_zero.mpr
    intro other _ told
    simp only [Function.comp, tells, concerned, Bool.and_eq_true, beq_iff_eq] at told
    exact fails ⟨told.1.2, told.2⟩

/-- The notices of an endpoint balance the endpoint for every candidate that is watched. -/
theorem countP_announced (tables : Tables world)
    (watched : Watched world watch registration) (descriptor : EndpointDescriptor) (handle : Handle)
    (available told : Bool) :
    ((if InprocTransport.announces descriptor.kind then world.transport.watching descriptor.serviceId else []).map
        fun watch => (⟨watch, entryOf descriptor handle available⟩ : Notice)).countP
          (tells watch registration.candidate told) =
      if available = told ∧ serves registration.candidate descriptor = true then 1 else 0 := by
  rw [countP_told]
  have once := count_watching tables watched descriptor.serviceId
  cases announced : InprocTransport.announces descriptor.kind with
  | false => simp [serves, announced]
  | true =>
      simp only [if_true, once, serves, announced, Bool.true_and, Bool.and_eq_true, beq_iff_eq]
      split_ifs <;> tauto

/-- Every notice of an endpoint is for a registered watch. -/
theorem known_announced (tables : Tables world) {service : Uuid} {announced : Bool}
    (told : watch ∈ if announced then world.transport.watching service else []) :
      watch < world.registrations.length := by
  cases announced with
  | false => cases told
  | true =>
      obtain ⟨entry, found, rfl⟩ := List.mem_map.mp told
      exact tables.registered entry (List.mem_filter.mp found).1

theorem steady_create (tables : Tables world) (descriptor : EndpointDescriptor) :
    Steady world { world with transport := { world.transport with
        nextHandle := world.transport.nextHandle + 1
        endpoints := world.transport.endpoints ++ [(world.transport.nextHandle, descriptor)] } } []
      ((if InprocTransport.announces descriptor.kind then world.transport.watching descriptor.serviceId else []).map
        fun watch => ⟨watch, entryOf descriptor world.transport.nextHandle true⟩)
      ((if InprocTransport.announces descriptor.kind then world.transport.watching descriptor.serviceId else []).map
        fun watch => ⟨watch, entryOf descriptor world.transport.nextHandle true⟩) where
  tables := by
    refine ⟨tables.running, ?_, fun endpoint found => ?_, tables.distinct, tables.registered⟩
    · rw [List.map_append, List.map_singleton]
      apply tables.unique.append (List.nodup_singleton _)
      rw [List.disjoint_singleton]
      intro used
      obtain ⟨endpoint, found, same⟩ := List.mem_map.mp used
      exact absurd same (Nat.ne_of_lt (tables.fresh endpoint found))
    · rcases List.mem_append.mp found with found | found
      · exact Nat.lt_succ_of_lt (tables.fresh endpoint found)
      · rw [List.mem_singleton.mp found]
        exact Nat.lt_succ_self _
  length := rfl
  moved test := by
    rw [List.countP_nil, Nat.zero_add, Nat.add_comm]
    rfl
  known notice found := by
    obtain ⟨watch, told, rfl⟩ := List.mem_map.mp found
    exact known_announced tables told
  balanced watch registration watched := by
    have watched : Watched world watch registration := ⟨watched.found, watched.listens, watched.entry⟩
    refine ⟨watched, ?_⟩
    rw [countP_announced tables watched, countP_announced tables watched]
    simp only [World.live, List.countP_append, List.countP_singleton, true_and, if_false, Bool.true_eq_false, false_and]
    rfl

variable {handle : Handle}

/-- A handle of the table is removed with its only entry. -/
theorem filter_of_lookup {V : Type} {entries : List (Handle × V)} {value : V}
    (unique : (entries.map Prod.fst).Nodup) (found : entries.lookup handle = some value) :
    ∃ first last, entries = first ++ (handle, value) :: last ∧
      (entries.filter fun entry => entry.1 != handle) = first ++ last := by
  obtain ⟨first, last, rfl, before⟩ := List.lookup_eq_some_iff.mp found
  refine ⟨first, last, rfl, ?_⟩
  rw [List.map_append, List.map_cons, List.nodup_append] at unique
  have after := (List.nodup_cons.mp unique.2.1).1
  rw [List.filter_append, List.filter_cons_of_neg (by simp)]
  congr 1
  · apply List.filter_eq_self.mpr
    intro entry inside
    exact bne_iff_ne.mpr fun same => bne_iff_ne.mp (before entry inside) same.symm
  · apply List.filter_eq_self.mpr
    intro entry inside
    exact bne_iff_ne.mpr fun same => after (List.mem_map.mpr ⟨entry, inside, same⟩)

theorem steady_destroy (tables : Tables world) {removed : EndpointDescriptor}
    (found : world.transport.endpoints.lookup handle = some removed) :
    Steady world { world with transport := { world.transport with
        endpoints := world.transport.endpoints.filter fun endpoint => endpoint.1 != handle
        servers := world.transport.servers.filter fun server => server.1 != handle } } []
      ((if InprocTransport.announces removed.kind then world.transport.watching removed.serviceId else []).map
        fun watch => ⟨watch, entryOf removed handle false⟩)
      ((if InprocTransport.announces removed.kind then world.transport.watching removed.serviceId else []).map
        fun watch => ⟨watch, entryOf removed handle false⟩) where
  tables := ⟨tables.running, tables.unique.sublist (List.filter_sublist.map _),
    fun endpoint inside => tables.fresh endpoint (List.mem_filter.mp inside).1, tables.distinct, tables.registered⟩
  length := rfl
  moved test := by
    rw [List.countP_nil, Nat.zero_add, Nat.add_comm]
    rfl
  known notice found := by
    obtain ⟨watch, told, rfl⟩ := List.mem_map.mp found
    exact known_announced tables told
  balanced watch registration watched := by
    have watched : Watched world watch registration := ⟨watched.found, watched.listens, watched.entry⟩
    refine ⟨watched, ?_⟩
    rw [countP_announced tables watched, countP_announced tables watched]
    obtain ⟨first, last, before, after⟩ := filter_of_lookup tables.unique found
    simp only [World.live, after]
    simp only [before, List.countP_append, List.countP_cons, true_and, if_false, Bool.false_eq_true, false_and]
    omega

/-- Every step that starts no watch is steady. -/
theorem steady_of_moves {op : Op} {answer : Status} {reply : op.Reply}
    (tables : Tables world) (moves : Moves before op reply after)
    (performed : world.perform op answer = some (reply, later))
    (other : ∀ discovery candidate, op ≠ .watchStart discovery candidate) :
    ∃ created, Steady world later before after created := by
  cases moves with
  | plain _ plain =>
      refine ⟨[], ?_⟩
      cases op with
      | watchStop handle =>
          rcases world.transport.watchStop_cases handle with same | ⟨object, stopped⟩
          · simp only [World.perform, same, Option.some.injEq, Prod.mk.injEq] at performed
            obtain ⟨_, rfl⟩ := performed
            exact .of_silent tables rfl (fun _ => rfl) (fun _ => rfl) fun _ _ watched => watched
          · simp only [World.perform, stopped, Option.some.injEq, Prod.mk.injEq] at performed
            obtain ⟨_, rfl⟩ := performed
            refine .of_silent (tables.removes tables.running rfl rfl List.filter_sublist rfl) rfl (fun _ => rfl)
              (fun _ => rfl) fun watch registration watched => ?_
            exact ⟨watched.found, watched.listens, (List.mem_filter.mp watched.entry).1⟩
      | deactivate stopped =>
          cases performed
          have length := List.length_modify (fun registration : Registration => { registration with active := false })
            world.registrations stopped
          refine .of_silent (tables.removes tables.running rfl rfl (.refl _) length) length (fun _ => rfl)
            (fun _ => rfl) fun watch registration watched => ?_
          have found := watched.found
          rw [List.getElem?_modify] at found
          obtain ⟨old, known, same⟩ := Option.map_eq_some_iff.mp found
          split at same
          · have active := (Bool.and_eq_true_iff.mp watched.listens).1
            rw [← same] at active
            cases active
          · subst same
            exact ⟨known, watched.listens, watched.entry⟩
      | opened discovery =>
          cases performed
          exact .of_silent (tables.removes tables.running rfl rfl (.refl _) rfl) rfl (fun _ => rfl) (fun _ => rfl)
            fun watch registration watched => ⟨watched.found, watched.listens, watched.entry⟩
      | close discovery =>
          simp only [World.perform, World.closing, Option.some.injEq] at performed
          split at performed
          · cases performed
            exact .of_silent tables rfl (fun _ => rfl) (fun _ => rfl) fun _ _ watched => watched
          · cases performed
            refine .of_silent (tables.removes tables.running rfl rfl (.refl _) rfl) rfl (fun _ => rfl) (fun _ => rfl)
              fun watch registration watched => ⟨watched.found, ?_, watched.entry⟩
            have listens := watched.listens
            simp only [World.listens, List.contains_cons, Bool.not_or, Bool.and_eq_true] at listens ⊢
            exact ⟨listens.1, listens.2.2⟩
      | _ => cases plain
  | deactivateServer =>
      cases performed
      exact ⟨[], .of_silent tables rfl (fun _ => rfl) (fun _ => rfl) fun _ _ watched => watched⟩
  | dispatch notice notices =>
      refine ⟨[], ?_⟩
      simp only [World.perform, Option.some.injEq, Prod.mk.injEq] at performed
      obtain ⟨rfl, rfl⟩ := performed
      split
      · refine .of_silent (tables.removes tables.running rfl rfl (.refl _) rfl) rfl (fun test => ?_) (fun _ => rfl)
          fun watch registration watched => ⟨watched.found, watched.listens, watched.entry⟩
        simp only [queued, List.countP_append, List.countP_cons, List.countP_nil]
        omega
      · refine .of_silent (tables.removes tables.running rfl rfl (.refl _) rfl) rfl (fun test => ?_) (fun _ => rfl)
          fun watch registration watched => ⟨watched.found, watched.listens, watched.entry⟩
        simp only [queued, List.countP_append, List.countP_cons, List.countP_nil]
        omega
  | watchStart discovery candidate => exact absurd rfl (other discovery candidate)
  | watchRefused discovery candidate => exact absurd rfl (other discovery candidate)
  | create descriptor handle watches =>
      rcases world.transport.endpointCreate_cases descriptor with ⟨status, refused⟩ | created
      · simp only [World.perform, refused, Option.some.injEq, Prod.mk.injEq, reduceCtorEq, false_and] at performed
      · simp only [World.perform, created, Option.some.injEq, Prod.mk.injEq, Except.ok.injEq] at performed
        obtain ⟨⟨rfl, rfl⟩, rfl⟩ := performed
        exact ⟨_, steady_create tables descriptor⟩
  | createRefused descriptor status =>
      rcases world.transport.endpointCreate_cases descriptor with ⟨status, refused⟩ | created
      · simp only [World.perform, refused, Option.some.injEq, Prod.mk.injEq] at performed
        obtain ⟨_, rfl⟩ := performed
        exact ⟨[], .of_silent tables rfl (fun _ => rfl) (fun _ => rfl) fun _ _ watched => watched⟩
      · simp only [World.perform, created, Option.some.injEq, Prod.mk.injEq, reduceCtorEq, false_and] at performed
  | destroy handle descriptor watches server =>
      rcases world.transport.endpointDestroy_cases handle with ⟨status, refused⟩ | ⟨removed, found, destroyed⟩
      · simp only [World.perform, refused, Option.some.injEq, Prod.mk.injEq, reduceCtorEq, false_and] at performed
      · have announced : (if world.transport.running && InprocTransport.announces removed.kind then
            world.transport.watching removed.serviceId else []) =
              if InprocTransport.announces removed.kind then world.transport.watching removed.serviceId else [] := by
          rw [tables.running, Bool.true_and]
        rw [announced] at destroyed
        simp only [World.perform, destroyed, Option.some.injEq, Prod.mk.injEq, Except.ok.injEq] at performed
        obtain ⟨⟨rfl, rfl, _⟩, rfl⟩ := performed
        exact ⟨_, steady_destroy tables found⟩
  | destroyRefused handle status =>
      rcases world.transport.endpointDestroy_cases handle with ⟨status, refused⟩ | ⟨removed, found, destroyed⟩
      · simp only [World.perform, refused, Option.some.injEq, Prod.mk.injEq] at performed
        obtain ⟨_, rfl⟩ := performed
        exact ⟨[], .of_silent tables rfl (fun _ => rfl) (fun _ => rfl) fun _ _ watched => watched⟩
      · simp only [World.perform, destroyed, Option.some.injEq, Prod.mk.injEq, reduceCtorEq, false_and] at performed

end Steps

variable {notices : List Notice}

section Watches
variable {stage : Nat → List Notice}

open World (Watched)

theorem owed_mono {test weaker : Notice → Bool} (implies : ∀ notice, test notice = true → weaker notice = true) :
    owed test world count stage ≤ owed weaker world count stage := by
  have fewer (notices : List Notice) : notices.countP test ≤ notices.countP weaker :=
    List.countP_mono_left fun notice _ => implies notice
  have := @total_mono _ (List.countP test) count stage (List.countP weaker) fewer
  have := fewer world.tasks
  have := fewer world.rejected
  simp only [owed, queued]
  omega

/-- The snapshot of a new watch has a notice for each live endpoint. -/
theorem countP_snapshot (candidate : RouteBinding) (watch : Nat) (told : Bool) :
    (((world.transport.endpoints.map Prod.snd).filter fun endpoint =>
      InprocTransport.announces endpoint.kind && endpoint.serviceId == candidate.serviceId).map fun descriptor =>
        (⟨watch, entryOf descriptor 0 true⟩ : Notice)).countP (tells watch candidate told) =
      if told then world.live candidate else 0 := by
  rw [List.countP_map, List.countP_filter, List.countP_map]
  cases told with
  | true =>
      apply List.countP_congr
      intro endpoint _
      have available : (entryOf endpoint.2 0 true).available = true := rfl
      simp only [Function.comp, tells, available, serves, beq_self_eq_true, Bool.true_and, Bool.and_comm]
  | false =>
      apply List.countP_eq_zero.mpr
      intro endpoint _ tells
      simp [Discovery.tells, entryOf] at tells

theorem Tables.watchStart (tables : Tables world) (discovery : Nat) (candidate : RouteBinding) : Tables { world with
      transport := { world.transport with
        nextHandle := world.transport.nextHandle + 1
        watches := world.transport.watches ++
          [(world.transport.nextHandle, candidate.serviceId, world.registrations.length)] }
      registrations := world.registrations ++ [⟨discovery, candidate, world.transport.nextHandle, 0, true⟩] } := by
  refine ⟨tables.running, tables.unique, fun endpoint found => Nat.lt_succ_of_lt (tables.fresh endpoint found), ?_,
    fun watch found => ?_⟩
  · rw [List.map_append, List.map_singleton]
    apply tables.distinct.append (List.nodup_singleton _)
    rw [List.disjoint_singleton]
    intro used
    obtain ⟨watch, found, same⟩ := List.mem_map.mp used
    exact absurd same (Nat.ne_of_lt (tables.registered watch found))
  · rw [List.length_append, List.length_singleton]
    rcases List.mem_append.mp found with found | found
    · exact Nat.lt_succ_of_lt (tables.registered watch found)
    · rw [List.mem_singleton.mp found]
      exact Nat.lt_succ_self _

/-- A new watch is balanced by its snapshot, and it changes no other watch. -/
theorem Counted.watchStart (counted : Counted world count stage) (inside : index < count) (here : stage index = [])
    {discovery : Nat} {candidate : RouteBinding} (grown : later = { world with
      transport := { world.transport with
        nextHandle := world.transport.nextHandle + 1
        watches := world.transport.watches ++
          [(world.transport.nextHandle, candidate.serviceId, world.registrations.length)] }
      registrations := world.registrations ++ [⟨discovery, candidate, world.transport.nextHandle, 0, true⟩] })
    (snapshot : notices = ((world.transport.endpoints.map Prod.snd).filter fun endpoint =>
      InprocTransport.announces endpoint.kind && endpoint.serviceId == candidate.serviceId).map fun descriptor =>
        ⟨world.registrations.length, entryOf descriptor 0 true⟩) :
    Counted later count (Function.update stage index notices) := by
  have owed (test : Notice → Bool) : owed test later count (Function.update stage index notices) =
      owed test world count stage + notices.countP test := by
    have moved := total_move inside here notices (List.countP test)
    have same : queued test later = queued test world := by rw [grown]; rfl
    rw [List.countP_nil] at moved
    simp only [Discovery.owed, same]
    omega
  have others {test : Notice → Bool}
    (other : ∀ notice, test notice = true → notice.watch ≠ world.registrations.length) :
      notices.countP test = 0 := by
    apply List.countP_eq_zero.mpr
    intro notice found told
    rw [snapshot] at found
    obtain ⟨descriptor, _, rfl⟩ := List.mem_map.mp found
    exact other _ told rfl
  have live (candidate : RouteBinding) : later.live candidate = world.live candidate := by rw [grown]; rfl
  have registrations : later.registrations = world.registrations ++
      [⟨discovery, candidate, world.transport.nextHandle, 0, true⟩] := by rw [grown]
  refine ⟨grown ▸ counted.tables.watchStart discovery candidate, fun watch outside => ?_,
    fun watch registration watched => ?_⟩
  · rw [registrations, List.length_append, List.length_singleton] at outside
    rw [owed, counted.known watch (by omega), others]
    intro notice told same
    have := beq_iff_eq.mp told
    omega
  · have found := watched.found
    rw [registrations] at found
    rw [owed, owed, live]
    by_cases new : watch = world.registrations.length
    · rw [new, List.getElem?_concat_length] at found
      cases found
      have none (available : Bool) : Discovery.owed (tells watch candidate available) world count stage = 0 := by
        have most := @owed_mono world count stage (tells watch candidate available)
          (fun notice => notice.watch == watch)
          fun notice told => (Bool.and_eq_true_iff.mp (Bool.and_eq_true_iff.mp told).1).1
        have := counted.known watch (Nat.le_of_eq new.symm)
        omega
      rw [none, none, snapshot, new, countP_snapshot, countP_snapshot]
      simp
    · have below : watch < world.registrations.length := by
        have := (List.getElem?_eq_some_iff.mp found).1
        rw [List.length_append, List.length_singleton] at this
        omega
      rw [List.getElem?_append_left below] at found
      have entry := watched.entry
      rw [grown] at entry
      have known : Watched world watch registration := by
        refine ⟨found, ?_, ?_⟩
        · have listens := watched.listens
          rw [grown] at listens
          exact listens
        · rcases List.mem_append.mp entry with old | last
          · exact old
          · exact absurd (congrArg (·.2.2) (List.mem_singleton.mp last)) new
      have none (available : Bool) : notices.countP (tells watch registration.candidate available) = 0 := by
        apply others
        intro notice told same
        have := beq_iff_eq.mp (Bool.and_eq_true_iff.mp (Bool.and_eq_true_iff.mp told).1).1
        omega
      rw [none, none]
      exact counted.balanced watch registration known

end Watches

section Deliveries
variable {world : World} {count : Nat} {stage : Nat → List Notice}

open World (Watched)

/-- The notice withdraws an endpoint from a count that is zero. -/
def World.misses (world : World) (notice : Notice) : Bool :=
  world.registrations[notice.watch]?.any fun registration =>
    world.listens registration && concerns registration.candidate notice.entry && !notice.entry.available &&
      registration.count == 0

theorem Registration.onDiscovery_eq (entry : Entry) (registration : Registration) :
    ∃ count, registration.onDiscovery entry = { registration with count } := by
  unfold onDiscovery update
  split_ifs <;> exact ⟨_, rfl⟩

theorem Registration.onDiscovery_count {entry : Entry} {registration : Registration}
    (counted : concerns registration.candidate entry = true → entry.available = false → registration.count ≠ 0) :
    (registration.onDiscovery entry).count +
        (if entry.available = false ∧ concerns registration.candidate entry = true then 1 else 0) = registration.count +
        if entry.available = true ∧ concerns registration.candidate entry = true then 1 else 0 := by
  unfold onDiscovery
  cases concerned : concerns registration.candidate entry with
  | false => simp
  | true =>
      cases available : entry.available with
      | true => simp [update]
      | false =>
          have positive := counted concerned available
          simp [update, positive]
          omega

/-- A delivered notice moves from the executor to the count of its watch. -/
theorem Counted.deliver (counted : Counted world count stage) {index : Nat} {notice : Notice}
    (found : world.tasks[index]? = some notice) (hits : world.misses notice = false) :
    Counted ({ world with tasks := world.tasks.eraseIdx index }.deliver notice) count stage := by
  have length : ({ world with tasks := world.tasks.eraseIdx index }.deliver notice).registrations.length =
      world.registrations.length := List.length_modify _ _ _
  have owed (test : Notice → Bool) :
      owed test ({ world with tasks := world.tasks.eraseIdx index }.deliver notice) count stage +
        (if test notice then 1 else 0) = owed test world count stage := by
    obtain ⟨inside, rfl⟩ := List.getElem?_eq_some_iff.mp found
    have parts := (List.getElem_cons_eraseIdx_perm inside).countP_eq test
    rw [List.countP_cons] at parts
    simp only [Discovery.owed, queued, World.deliver]
    omega
  refine ⟨counted.tables.removes counted.tables.running rfl rfl (.refl _) length, fun watch outside => ?_,
    fun watch registration watched => ?_⟩
  · have := counted.known watch (length ▸ outside)
    have := owed fun notice => notice.watch == watch
    omega
  · have found := watched.found
    simp only [World.deliver, List.getElem?_modify] at found
    obtain ⟨old, known, same⟩ := Option.map_eq_some_iff.mp found
    have up := owed (tells watch registration.candidate true)
    have down := owed (tells watch registration.candidate false)
    have live : ({ world with tasks := world.tasks.eraseIdx index }.deliver notice).live registration.candidate =
      world.live registration.candidate := rfl
    by_cases told : notice.watch = watch
    · rw [if_pos told] at same
      split at same
      · rename_i listens
        obtain ⟨_, kept⟩ := old.onDiscovery_eq notice.entry
        have updated := @Registration.onDiscovery_count notice.entry old fun concerned withdrawn empty => by
          simp only [World.misses, told, known, Option.any_some] at hits
          have listens : world.listens old = true := listens
          simp [listens, concerned, withdrawn, empty] at hits
        rw [same] at kept updated
        subst kept
        have balance := counted.balanced watch old ⟨known, listens, watched.entry⟩
        simp only [tells, told, beq_self_eq_true, Bool.true_and, Bool.and_eq_true, beq_iff_eq] at up down
        rw [live]
        simp only at balance updated up down ⊢
        omega
      · rename_i silent
        subst same
        exact absurd watched.listens silent
    · rw [if_neg told] at same
      subst same
      have balance := counted.balanced watch old ⟨known, watched.listens, watched.entry⟩
      have other (available : Bool) : tells watch old.candidate available notice = false := by
        simp [tells, told]
      rw [other] at up down
      rw [live]
      simp only [Bool.false_eq_true, if_false, Nat.add_zero] at up down
      omega

end Deliveries

section Reached
variable {pool : DiscoveryPool} {stage : Nat → List Notice} {maxEndpoints maxOperations : Nat}

open World (Watched)

/-- Every withdrawal that is executed finds an endpoint in the count. -/
def orderly (pool : DiscoveryPool) : DiscoveryChoice → Bool
  | .event (.run index) => !pool.shared.tasks[index]?.any pool.shared.misses
  | _ => true

theorem counted_reached (reached : machine.Reaches (fun pool choice => orderly pool choice = true)
    (started maxEndpoints maxOperations) pool) :
    ∃ stage, Staged (fun _ => Moves) Ends pool.threads stage ∧
      Holds Counted (fun _ _ _ => True) pool.shared pool.threads.length stage := by
  apply Machine.Reaches.invariant (fun _ => []) _ _ _ _ _ reached
  · exact Staged.nil _
  · refine ⟨⟨⟨rfl, List.nodup_nil, ?_, List.nodup_nil, ?_⟩, fun _ _ => rfl, ?_⟩, fun _ _ => trivial⟩
    · exact fun _ found => absurd found List.not_mem_nil
    · exact fun _ found => absurd found List.not_mem_nil
    · exact fun _ _ watched => absurd watched.entry List.not_mem_nil
  · intro pool stage index answer op next reply world later staged holds _ found moves performed
    obtain ⟨inside, _⟩ := List.getElem?_eq_some_iff.mp found
    refine ⟨?_, trivial, fun _ _ _ => trivial⟩
    by_cases starts : ∃ discovery candidate, op = .watchStart discovery candidate
    · obtain ⟨discovery, candidate, rfl⟩ := starts
      rcases pool.shared.transport.watchStart_cases candidate.serviceId pool.shared.registrations.length with
        ⟨status, refused⟩ | started
      · simp only [machine, World.perform, refused, Option.some.injEq, Prod.mk.injEq] at performed
        obtain ⟨rfl, rfl⟩ := performed
        generalize here : stage index = before at moves
        cases moves with
        | plain _ plain => cases plain
        | watchRefused =>
            rw [← here, Function.update_eq_self]
            exact holds.common
      · simp only [machine, World.perform, started, Option.some.injEq, Prod.mk.injEq] at performed
        obtain ⟨rfl, rfl⟩ := performed
        generalize here : stage index = before at moves
        cases moves with
        | plain _ plain => cases plain
        | watchStart => exact holds.common.watchStart inside here rfl rfl
    · obtain ⟨created, steady⟩ := steady_of_moves holds.common.tables moves performed
        fun discovery candidate same => starts ⟨discovery, candidate, same⟩
      exact holds.common.step inside steady
  · intro pool stage event world staged holds permitted occurred
    refine ⟨?_, fun _ _ => trivial⟩
    cases event with
    | run index =>
        obtain ⟨notice, found, delivered⟩ := Option.map_eq_some_iff.mp occurred
        cases delivered
        apply holds.common.deliver found
        simpa [orderly, found] using permitted
    | close discovery =>
        simp only [machine, World.occur] at occurred
        split at occurred <;> cases occurred
    | _ => cases occurred
  · intro pool stage event world program staged holds _ occurred
    obtain ⟨keeps, discoveries, rfl⟩ := keeps_event occurred
    refine ⟨[], keeps, ?_, trivial, fun _ _ => trivial⟩
    have owed (test : Notice → Bool) : owed test { pool.shared with discoveries } (pool.threads.length + 1)
        (Function.update stage pool.threads.length []) = owed test pool.shared pool.threads.length stage := by
      simp only [owed, total_concat, List.countP_nil, Nat.add_zero]
      rfl
    obtain ⟨tables, known, balanced⟩ := holds.common
    refine ⟨tables.removes tables.running rfl rfl (.refl _) rfl, fun watch outside => ?_,
      fun watch registration watched => ?_⟩
    · rw [owed]
      exact known watch outside
    · rw [owed, owed]
      exact balanced watch registration ⟨watched.found, watched.listens, watched.entry⟩

/-- A thread that deactivates a server hands over its notices afterwards. -/
def hands : Op → Bool
  | .dispatch _ | .deactivateServer _ => true
  | _ => false

/-- Every notice has been handed over, accepted and delivered. -/
def delivered (pool : DiscoveryPool) : Bool :=
  pool.threads.all (fun thread => !thread.pending.any hands) && pool.shared.tasks.isEmpty &&
    pool.shared.rejected.isEmpty

/-- When every notice has been delivered, each count is the number of live endpoints that match. -/
def CountsLive (pool : DiscoveryPool) : Prop :=
  delivered pool = true → ∀ watch registration, Watched pool.shared watch registration →
    registration.count = pool.shared.live registration.candidate

instance (op : Op) : Nonempty op.Reply := by
  cases op <;> first | exact ⟨()⟩ | exact ⟨.error .ok⟩ | exact ⟨none⟩ | exact ⟨Status.ok⟩ | exact ⟨[]⟩

/-- A thread with notices is about to hand one over. -/
theorem hands_of_follows
    (keeps : Program.Follows Moves Ends notices program) (some : notices ≠ []) : program.pending.any hands = true := by
  cases program with
  | done value => exact absurd keeps some
  | call op next =>
      obtain ⟨reply⟩ := (inferInstance : Nonempty op.Reply)
      obtain ⟨_, moves, _⟩ := keeps.call reply
      cases moves <;> first | rfl | exact absurd rfl some

theorem owed_of_delivered (staged : Staged (fun _ => Moves) Ends pool.threads stage) (all : delivered pool = true)
    (test : Notice → Bool) : owed test pool.shared pool.threads.length stage = 0 := by
  simp only [delivered, Bool.and_eq_true, List.isEmpty_iff] at all
  obtain ⟨⟨handed, tasks⟩, rejected⟩ := all
  have none (index : Nat) (inside : index < pool.threads.length) : stage index = [] := by
    by_contra some
    have hands := hands_of_follows (staged index _ (List.getElem?_eq_getElem inside)) some
    have quiet := List.all_eq_true.mp handed _ (List.getElem_mem inside)
    rw [hands] at quiet
    cases quiet
  have same : total (List.countP test) pool.threads.length stage =
      total (List.countP test) pool.threads.length fun _ => [] := total_congr none
  have zero (count : Nat) : total (List.countP test) count (fun _ => []) = 0 := by
    induction count with
    | zero => rfl
    | succ count ih => rw [total_succ, ih, List.countP_nil]
  rw [owed, queued, same, zero, tasks, rejected, List.countP_nil]

/-- In every run whose steps are orderly, the counts are those of the live endpoints. -/
theorem counts_live (reached : machine.Reaches (fun pool choice => orderly pool choice = true)
    (started maxEndpoints maxOperations) pool) : CountsLive pool := by
  intro all watch registration watched
  obtain ⟨stage, staged, counted, _⟩ := counted_reached reached
  have balance := counted.balanced watch registration watched
  rw [owed_of_delivered staged all, owed_of_delivered staged all] at balance
  omega

end Reached

section Runs

open World (Watched)

abbrev Schedule := List (DiscoveryPool → DiscoveryChoice)

/-- The same thread moves several times, and the executor accepts its notices. -/
def moves (index count : Nat) : Schedule := List.replicate count fun _ => .thread index .ok

def begins (event : Event) : Schedule := [fun _ => .event event]

def publisher : EndpointDescriptor where
  kind := .eventPublisher
  serviceId := .replicate 16 1
  instanceId := .replicate 16 2
  elementId := .replicate 16 3
  routeEpoch := 1
  maxPayloadSize := 64
  historyDepth := 0
  requiredFeatures := requiredFeatures .eventPublisher
  nativeMapping := ""
  operation := .event

def candidate : RouteBinding where
  serviceId := .replicate 16 1
  instanceId := .replicate 16 2
  routeEpoch := 1
  provider := "inproc"
  nativeService := ""

/-- One endpoint exists before the watch, another one is created after it, and the first one is destroyed. -/
def watching : Schedule :=
  begins (.endpointCreate publisher) ++ moves 0 1 ++ begins (.discover [candidate]) ++ moves 1 3 ++ begins (.run 0) ++
    begins (.endpointCreate publisher) ++ moves 2 2 ++ begins (.run 0) ++ begins (.endpointDestroy 1) ++ moves 3 2 ++
    begins (.run 0)

/-- A watch learns of a candidate in this run. -/
theorem counts_live_watch : ∃ pool, CountsLive pool ∧ delivered pool = true ∧
    Watched pool.shared 0 ⟨0, candidate, 2, 1, true⟩ := by
  obtain ⟨pool, reached, holds⟩ := System.Reaches.exists_of_run orderly (fun _ _ permitted => permitted) watching
    (fun pool => delivered pool && pool.shared.registrations[0]? == some ⟨0, candidate, 2, 1, true⟩ &&
      pool.shared.listens ⟨0, candidate, 2, 1, true⟩ && pool.shared.transport.watches == [(2, candidate.serviceId, 0)])
    (by decide +kernel : ((machine.run orderly watching (started 4 4)).any _) = true)
  simp only [Bool.and_eq_true, beq_iff_eq] at holds
  obtain ⟨⟨⟨all, found⟩, listens⟩, entry⟩ := holds
  exact ⟨pool, counts_live reached, all, found, listens, by rw [entry]; exact List.mem_singleton_self _⟩

/-- The endpoint is destroyed after the snapshot of the watch and before its notice is handed over. -/
def overtaking : Schedule :=
  begins (.endpointCreate publisher) ++ moves 0 1 ++ begins (.discover [candidate]) ++ moves 1 1 ++
    begins (.endpointDestroy 1) ++ moves 2 2 ++ begins (.run 0) ++ moves 1 2 ++ begins (.run 0)

/-- The count of a watch keeps an endpoint that does not exist. -/
theorem withdrawal_overtakes_snapshot : ¬∀ pool, machine.Reaches (fun _ _ => True) (started 4 4) pool →
    CountsLive pool := by
  intro claimed
  obtain ⟨pool, reached, holds⟩ := System.Reaches.exists_of_run (fun _ _ => true) (fun _ _ _ => trivial) overtaking
    (fun pool => delivered pool && pool.shared.registrations[0]? == some ⟨0, candidate, 2, 1, true⟩ &&
      pool.shared.listens ⟨0, candidate, 2, 1, true⟩ &&
      pool.shared.transport.watches == [(2, candidate.serviceId, 0)] &&
      pool.shared.transport.endpoints == [])
    (by decide +kernel : ((machine.run (fun _ _ => true) overtaking (started 4 4)).any _) = true)
  simp only [Bool.and_eq_true, beq_iff_eq] at holds
  obtain ⟨⟨⟨⟨all, found⟩, listens⟩, entry⟩, empty⟩ := holds
  have counts := claimed pool reached all 0 _ ⟨found, listens, by rw [entry]; exact List.mem_singleton_self _⟩
  simp only [World.live, empty, List.countP_nil] at counts
  cases counts

end Runs

end OpenVehicle.Com.Discovery
