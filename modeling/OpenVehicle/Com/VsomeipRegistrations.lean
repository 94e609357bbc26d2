/-
This file proves that the SOME/IP transport counts the users of its registrations, and it tells when the middleware
keeps the registrations that the users need.
-/

import OpenVehicle.Com.Vsomeip
import OpenVehicle.Concurrency.System

namespace OpenVehicle.Com.Vsomeip

open Data (HandleTable Registration)
open Data.KeyValue (Text)

namespace Transport

section Users
variable (transport : Transport)

def mappings : List Mapping := transport.watches.map (·.2) ++ transport.endpoints.map (·.2.mapping)

/-- The mappings of the endpoints of the subscriptions. -/
def subscribed : List Mapping :=
  transport.subscriptions.filterMap fun subscription => (transport.endpoints.lookup subscription.2).map (·.mapping)

variable (entry : Handle × Endpoint)

def serverKey : Option ServiceKey :=
  if entry.2.server then some entry.2.mapping.serviceKey else none

def clientKey : Option ServiceKey :=
  if entry.2.server then none else some entry.2.mapping.serviceKey

def publisherKey : Option EventKey :=
  if entry.2.publishes then some entry.2.mapping.eventKey else none

def offeredUsers : List ServiceKey := transport.endpoints.filterMap serverKey

def availabilityUsers : List ServiceKey := transport.watches.map (·.2.serviceKey)

def requestedUsers : List ServiceKey := transport.availabilityUsers ++ transport.endpoints.filterMap clientKey

def messageUsers : List MessageKey := transport.endpoints.map (·.2.mapping.messageKey)

def publishedUsers : List EventKey := transport.endpoints.filterMap publisherKey

def eventUsers : List EventKey := transport.subscribed.map Mapping.eventKey

def groupUsers : List GroupKey := transport.subscribed.map Mapping.groupKey

/-- Each table counts the live objects of its keys. -/
structure Counted : Prop where
  offeredServices : transport.offeredServices.Counts transport.offeredUsers
  requestedServices : transport.requestedServices.Counts transport.requestedUsers
  availabilityHandlers : transport.availabilityHandlers.Counts transport.availabilityUsers
  messageHandlers : transport.messageHandlers.Counts transport.messageUsers
  offeredEvents : transport.offeredEvents.Counts transport.publishedUsers
  requestedEvents : transport.requestedEvents.Counts transport.eventUsers
  subscribedGroups : transport.subscribedGroups.Counts transport.groupUsers

/-- The middleware has the registrations that a live object needs, and no others. -/
structure Registered : Prop where
  offeredServices : transport.offeredServices.Registers Native.services transport.offeredUsers
  requestedServices : transport.requestedServices.Registers Native.services transport.requestedUsers
  availabilityHandlers : transport.availabilityHandlers.Registers Native.availability transport.availabilityUsers
  messageHandlers : transport.messageHandlers.Registers Native.messages transport.messageUsers
  offeredEvents : transport.offeredEvents.Registers Native.offered transport.publishedUsers
  requestedEvents : transport.requestedEvents.Registers Native.requested transport.eventUsers
  subscribedGroups : transport.subscribedGroups.Registers Native.groups transport.groupUsers

/-- The mappings of one service have one version. -/
def Agree (mappings : List Mapping) : Prop :=
  ∀ left ∈ mappings, ∀ right ∈ mappings, left.sameService right = true → left.serviceKey = right.serviceKey

structure Consistent : Prop where
  endpoints : transport.endpoints.Ordered transport.nextHandle
  subscriptions : transport.subscriptions.Ordered transport.nextHandle
  watches : transport.watches.Ordered transport.nextHandle
  subscribed : ∀ subscription ∈ transport.subscriptions, ∃ endpoint,
    transport.endpoints.lookup subscription.2 = some endpoint
  versions : Agree transport.mappings
  publishers : ∀ first ∈ transport.endpoints, ∀ second ∈ transport.endpoints, first.2.publishes = true →
    second.2.publishes = true → first.2.mapping.messageKey = second.2.mapping.messageKey → first = second
  idle : transport.running = false → transport.endpoints = [] ∧ transport.watches = [] ∧ transport.subscriptions = []

end Users

end Transport

inductive Operation where
  | start (initialized : Bool)
  | watchStart (nativeMapping : Text)
  | watchStop (handle : Handle)
  | endpointCreate (descriptor : Descriptor)
  | endpointDestroy (handle : Handle)
  | subscribe (endpoint : Handle)
  | unsubscribe (handle : Handle)
  | request (endpoint : Handle) (operation size deadline : Nat) (correlation : Correlation)
  | response (correlation : Correlation)
  | cancel (operation : Handle)
  | expire (now : Nat)
  | setHandler (endpoint : Handle) (handler : Option Nat)
  | receive (message : Message)
  | respond (request : Handle) (size : Nat)
  deriving DecidableEq, Repr

def Operation.perform : Operation → Transport → Transport
  | .start initialized, self => (self.start initialized).2
  | .watchStart nativeMapping, self => (self.watchStart nativeMapping).2
  | .watchStop handle, self => (self.watchStop handle).2
  | .endpointCreate descriptor, self => (self.endpointCreate descriptor).2
  | .endpointDestroy handle, self => (self.endpointDestroy handle).2
  | .subscribe endpoint, self => (self.subscribe endpoint).2
  | .unsubscribe handle, self => (self.unsubscribe handle).2
  | .request endpoint operation size deadline correlation, self =>
      (self.request endpoint operation size deadline correlation).2
  | .response correlation, self => (self.response correlation).2
  | .cancel operation, self => (self.cancel operation).2
  | .expire now, self => (self.expire now).2
  | .setHandler endpoint handler, self => (self.setHandler endpoint handler).2
  | .receive message, self => (self.receive message).2
  | .respond handle size, self => (self.respond handle size).2

/-- These operations touch no registration. -/
def Operation.framed : Operation → Bool
  | .watchStart _ | .watchStop _ | .endpointCreate _ | .endpointDestroy _ | .subscribe _ | .unsubscribe _ => false
  | _ => true

/-- The operations before the stop of the transport, each under its mutex. -/
def system : Concurrency.System Transport Operation := ⟨fun operation self => some (operation.perform self)⟩

/-- The last subscription of an event key is not removed while another event key with the same service, instance and
element has a subscription. -/
def Undisturbed (self : Transport) : Operation → Prop
  | .unsubscribe handle => ∀ endpoint found, self.subscriptions.lookup handle = some endpoint →
      self.endpoints.lookup endpoint = some found → self.eventUsers.count found.mapping.eventKey = 1 →
        ∀ other ∈ self.subscribed, other.messageKey = found.mapping.messageKey → other.eventKey = found.mapping.eventKey
  | _ => True

def fresh (maxEndpoints maxOperations : Nat) : Transport :=
  { maxEndpoints := maxEndpoints, maxOperations := maxOperations }

variable {handle : Handle} {endpoint : Endpoint} {left right : Mapping}

namespace Transport
variable {self later : Transport}

/-- The operations on requests change no registration and no object that needs one. -/
structure Frame (before later : Transport) : Prop where
  running : before.running = true → later.running = true
  nextHandle : before.nextHandle ≤ later.nextHandle
  endpoints : later.endpoints = before.endpoints
  subscriptions : later.subscriptions = before.subscriptions
  watches : later.watches = before.watches
  offeredServices : later.offeredServices = before.offeredServices
  requestedServices : later.requestedServices = before.requestedServices
  availabilityHandlers : later.availabilityHandlers = before.availabilityHandlers
  messageHandlers : later.messageHandlers = before.messageHandlers
  offeredEvents : later.offeredEvents = before.offeredEvents
  requestedEvents : later.requestedEvents = before.requestedEvents
  subscribedGroups : later.subscribedGroups = before.subscribedGroups

theorem Frame.refl : Frame self self := ⟨id, Nat.le_refl _, rfl, rfl, rfl, rfl, rfl, rfl, rfl, rfl, rfl, rfl⟩

theorem frame_start (initialized : Bool) : Frame self (self.start initialized).2 := by
  unfold start
  split
  · exact .refl
  · split
    · exact .refl
    · exact ⟨fun _ => rfl, Nat.le_refl _, rfl, rfl, rfl, rfl, rfl, rfl, rfl, rfl, rfl, rfl⟩

theorem frame_request (endpoint : Handle) (operation size deadline : Nat) (correlation : Correlation) :
    Frame self (self.request endpoint operation size deadline correlation).2 := by
  unfold request
  split
  · exact .refl
  · exact ⟨id, Nat.le_succ _, rfl, rfl, rfl, rfl, rfl, rfl, rfl, rfl, rfl, rfl⟩

theorem frame_response (correlation : Correlation) : Frame self (self.response correlation).2 := by
  unfold response
  split
  · exact .refl
  · split
    · exact .refl
    · split
      · exact .refl
      · exact ⟨id, Nat.le_refl _, rfl, rfl, rfl, rfl, rfl, rfl, rfl, rfl, rfl, rfl⟩

theorem frame_cancel (operation : Handle) : Frame self (self.cancel operation).2 := by
  unfold cancel
  split
  · exact .refl
  · exact ⟨id, Nat.le_refl _, rfl, rfl, rfl, rfl, rfl, rfl, rfl, rfl, rfl, rfl⟩

theorem frame_expire (now : Nat) : Frame self (self.expire now).2 :=
  ⟨id, Nat.le_refl _, rfl, rfl, rfl, rfl, rfl, rfl, rfl, rfl, rfl, rfl⟩

theorem frame_setHandler (endpoint : Handle) (handler : Option Nat) :
    Frame self (self.setHandler endpoint handler).2 := by
  unfold setHandler
  split
  · exact .refl
  · split
    · exact .refl
    · split
      · split
        · exact .refl
        · exact ⟨id, Nat.le_refl _, rfl, rfl, rfl, rfl, rfl, rfl, rfl, rfl, rfl, rfl⟩
      · exact ⟨id, Nat.le_refl _, rfl, rfl, rfl, rfl, rfl, rfl, rfl, rfl, rfl, rfl⟩

theorem frame_receive (message : Message) : Frame self (self.receive message).2 := by
  unfold receive
  split
  · exact .refl
  · split
    · exact .refl
    · split
      · exact .refl
      · exact ⟨id, Nat.le_succ _, rfl, rfl, rfl, rfl, rfl, rfl, rfl, rfl, rfl, rfl⟩

theorem frame_respond (request : Handle) (size : Nat) : Frame self (self.respond request size).2 := by
  unfold respond
  split
  · exact .refl
  · split
    · exact .refl
    · split
      · exact .refl
      · split
        · exact .refl
        · exact ⟨id, Nat.le_refl _, rfl, rfl, rfl, rfl, rfl, rfl, rfl, rfl, rfl, rfl⟩

theorem frame_perform {operation : Operation} (framed : operation.framed = true) :
    Frame self (operation.perform self) := by
  cases operation with
  | start initialized => exact frame_start initialized
  | request endpoint operation size deadline correlation =>
      exact frame_request endpoint operation size deadline correlation
  | response correlation => exact frame_response correlation
  | cancel operation => exact frame_cancel operation
  | expire now => exact frame_expire now
  | setHandler endpoint handler => exact frame_setHandler endpoint handler
  | receive message => exact frame_receive message
  | respond request size => exact frame_respond request size
  | _ => cases framed

theorem Consistent.frame (consistent : self.Consistent) (frame : Frame self later) : later.Consistent where
  endpoints := frame.endpoints ▸ consistent.endpoints.mono frame.nextHandle
  subscriptions := frame.subscriptions ▸ consistent.subscriptions.mono frame.nextHandle
  watches := frame.watches ▸ consistent.watches.mono frame.nextHandle
  subscribed := by
    rw [frame.subscriptions, frame.endpoints]
    exact consistent.subscribed
  versions := by
    rw [mappings, frame.watches, frame.endpoints]
    exact consistent.versions
  publishers := by
    rw [frame.endpoints]
    exact consistent.publishers
  idle stopped := by
    rw [frame.endpoints, frame.watches, frame.subscriptions]
    apply consistent.idle
    by_contra ran
    rw [frame.running (by simpa using ran)] at stopped
    cases stopped

section Consistency

theorem serviceKey_eq (same : left.sameService right = true)
    (version : left.otherVersion right = false) : left.serviceKey = right.serviceKey := by
  simp only [Mapping.sameService, Bool.and_eq_true, beq_iff_eq] at same
  simp only [Mapping.otherVersion, Bool.or_eq_false_iff, bne_eq_false_iff_eq] at version
  rw [Mapping.serviceKey, Mapping.serviceKey, same.1, same.2, version.1, version.2]

theorem sameService_comm (left right : Mapping) : left.sameService right = right.sameService left := by
  rw [Mapping.sameService, Mapping.sameService, BEq.comm, BEq.comm (a := left.instanceId)]

variable {mappings later : List Mapping}

/-- A mapping joins those of its service when it has their version. -/
theorem Agree.add {mapping : Mapping} (agree : Agree mappings)
    (added : ∀ other ∈ later, other ∈ mappings ∨ other = mapping)
    (fits : ∀ other ∈ mappings, other.sameService mapping = true → other.otherVersion mapping = false) :
    Agree later := by
  intro left first right second same
  rcases added left first with first | rfl
  · rcases added right second with second | rfl
    · exact agree left first right second same
    · exact serviceKey_eq same (fits left first same)
  · rcases added right second with second | rfl
    · rw [sameService_comm] at same
      exact (serviceKey_eq same (fits right second same)).symm
    · rfl

theorem Agree.subset (agree : Agree mappings) (part : later ⊆ mappings) :
    Agree later := fun left first right second => agree left (part first) right (part second)

theorem Consistent.running (consistent : self.Consistent)
    (used : self.endpoints ≠ [] ∨ self.watches ≠ [] ∨ self.subscriptions ≠ []) : self.running = true := by
  by_contra stopped
  obtain ⟨endpoints, watches, subscriptions⟩ := consistent.idle (by simpa using stopped)
  rcases used with used | used | used
  · exact used endpoints
  · exact used watches
  · exact used subscriptions

/-- A started watch has the version of its service. -/
theorem watchStart_cases (nativeMapping : Text) : (∃ status, self.watchStart nativeMapping = (.error status, self)) ∨
      ∃ mapping, self.running = true ∧
        (∀ other ∈ self.mappings, other.sameService mapping = true → other.otherVersion mapping = false) ∧
        self.watchStart nativeMapping = (.ok self.nextHandle, { self with
          nextHandle := self.nextHandle + 1
          watches := self.watches ++ [(self.nextHandle, mapping)]
          availabilityHandlers := self.availabilityHandlers.acquire Native.availability mapping.serviceKey
          requestedServices := self.requestedServices.acquire Native.services mapping.serviceKey }) := by
  unfold watchStart
  split
  · exact .inl ⟨_, rfl⟩
  · rename_i mapping parsed
    split
    · exact .inl ⟨_, rfl⟩
    · rename_i runs
      split
      · exact .inl ⟨_, rfl⟩
      · split
        · exact .inl ⟨_, rfl⟩
        · rename_i watches
          split
          · exact .inl ⟨_, rfl⟩
          · rename_i endpoints
            refine .inr ⟨mapping, by simpa using runs, fun other known same => ?_, rfl⟩
            simp only [List.any_eq_true, Bool.and_eq_true, not_exists, not_and, Bool.not_eq_true] at watches endpoints
            rcases List.mem_append.mp known with known | known
            · obtain ⟨watch, found, rfl⟩ := List.mem_map.mp known
              exact watches watch found same
            · obtain ⟨endpoint, found, rfl⟩ := List.mem_map.mp known
              exact endpoints endpoint found same

/-- An endpoint is created next to endpoints that it does not collide with. -/
theorem endpointCreate_cases (descriptor : Descriptor) :
    (∃ status, self.endpointCreate descriptor = (.error status, self)) ∨
      ∃ mapping, self.running = true ∧
        (∀ watch ∈ self.watches, watch.2.sameService mapping = true → watch.2.otherVersion mapping = false) ∧
        (∀ endpoint ∈ self.endpoints, Endpoint.collision ⟨descriptor, mapping⟩ endpoint.2 = none) ∧
        self.endpointCreate descriptor = (.ok self.nextHandle, self.install ⟨descriptor, mapping⟩) := by
  unfold endpointCreate
  split
  · exact .inl ⟨_, rfl⟩
  · rename_i mapping parsed
    split
    · exact .inl ⟨_, rfl⟩
    · simp only
      split
      · exact .inl ⟨_, rfl⟩
      · rename_i runs
        split
        · exact .inl ⟨_, rfl⟩
        · split
          · exact .inl ⟨_, rfl⟩
          · rename_i watches
            split
            · exact .inl ⟨_, rfl⟩
            · rename_i free
              refine .inr ⟨mapping, by simpa using runs, ?_, List.findSome?_eq_none_iff.mp free, rfl⟩
              simpa only [List.any_eq_true, Bool.and_eq_true, not_exists, not_and, Bool.not_eq_true] using watches

/-- An endpoint without collision has the version of its service, and no publisher has its element. -/
theorem collision_none {created endpoint : Endpoint} (free : created.collision endpoint = none) :
    (endpoint.mapping.sameService created.mapping = true → endpoint.mapping.otherVersion created.mapping = false) ∧
      (created.publishes = true → endpoint.publishes = true →
        endpoint.mapping.messageKey ≠ created.mapping.messageKey) := by
  unfold Endpoint.collision at free
  simp only at free
  split at free
  · cases free
  · rename_i version
    split at free
    · cases free
    · split at free
      · cases free
      · split at free
        · cases free
        · rename_i published
          constructor
          · intro same
            simpa [same] using version
          · intro publishes other equal
            simp only [Mapping.messageKey, MessageKey.mk.injEq] at equal
            simp [publishes, other, Mapping.sameService, equal.1, equal.2.1, equal.2.2] at published

section
variable (consistent : self.Consistent)
include consistent

theorem Consistent.watchStart (nativeMapping : Text) : (self.watchStart nativeMapping).2.Consistent := by
  rcases self.watchStart_cases nativeMapping with ⟨status, failed⟩ | ⟨mapping, runs, fits, started⟩
  · rw [failed]
    exact consistent
  · rw [started]
    refine ⟨consistent.endpoints.mono (Nat.le_succ _), consistent.subscriptions.mono (Nat.le_succ _),
      consistent.watches.add, consistent.subscribed, consistent.versions.add (fun other known => ?_) fits,
      consistent.publishers, fun stopped => ?_⟩
    · simp only [mappings, List.map_append, List.map_cons, List.map_nil, List.mem_append, List.mem_singleton] at known ⊢
      tauto
    · change self.running = false at stopped
      rw [runs] at stopped
      cases stopped

theorem Consistent.watchStop (handle : Handle) : (self.watchStop handle).2.Consistent := by
  unfold Transport.watchStop
  split
  · exact consistent
  · refine ⟨consistent.endpoints, consistent.subscriptions, consistent.watches.remove, consistent.subscribed,
      consistent.versions.subset ?_, consistent.publishers, fun stopped => ?_⟩
    · exact List.append_subset.mpr ⟨fun mapping found => List.mem_append_left _
        (List.map_subset _ (List.filter_subset_self _) found), fun mapping found => List.mem_append_right _ found⟩
    · obtain ⟨endpoints, watches, subscriptions⟩ := consistent.idle stopped
      refine ⟨endpoints, ?_, subscriptions⟩
      change HandleTable.remove handle self.watches = []
      rw [watches]
      rfl

theorem Consistent.install (runs : self.running = true) {created : Endpoint}
    (watches : ∀ watch ∈ self.watches, watch.2.sameService created.mapping = true →
      watch.2.otherVersion created.mapping = false)
    (free : ∀ endpoint ∈ self.endpoints, created.collision endpoint.2 = none) : (self.install created).Consistent where
  endpoints := consistent.endpoints.add
  subscriptions := consistent.subscriptions.mono (Nat.le_succ _)
  watches := consistent.watches.mono (Nat.le_succ _)
  subscribed subscription found := by
    obtain ⟨endpoint, known⟩ := consistent.subscribed subscription found
    exact ⟨endpoint, consistent.endpoints.lookup_add known⟩
  versions := by
    refine @Agree.add _ _ created.mapping consistent.versions ?_ ?_
    · intro other known
      simp only [mappings, Transport.install, List.map_append, List.map_cons, List.map_nil, List.mem_append,
        List.mem_singleton] at known ⊢
      tauto
    · intro other known same
      rcases List.mem_append.mp known with known | known
      · obtain ⟨watch, found, rfl⟩ := List.mem_map.mp known
        exact watches watch found same
      · obtain ⟨endpoint, found, rfl⟩ := List.mem_map.mp known
        exact (collision_none (free endpoint found)).1 same
  publishers first before second after publishes other same := by
    rcases List.mem_append.mp before with before | before
    · rcases List.mem_append.mp after with after | after
      · exact consistent.publishers first before second after publishes other same
      · rw [List.mem_singleton] at after
        subst after
        exact absurd same ((collision_none (free first before)).2 other publishes)
    · rw [List.mem_singleton] at before
      subst before
      rcases List.mem_append.mp after with after | after
      · exact absurd same.symm ((collision_none (free second after)).2 publishes other)
      · exact (List.mem_singleton.mp after).symm
  idle stopped := by
    change self.running = false at stopped
    rw [runs] at stopped
    cases stopped

/-- The subscriptions of the other endpoints keep their endpoints. -/
theorem Consistent.withdraw (endpoint : Endpoint)
    (unused : ∀ subscription ∈ self.subscriptions, subscription.2 ≠ handle) :
    (self.withdraw handle endpoint).Consistent where
  endpoints := consistent.endpoints.remove
  subscriptions := consistent.subscriptions
  watches := consistent.watches
  subscribed subscription found := by
    obtain ⟨endpoint, known⟩ := consistent.subscribed subscription found
    exact ⟨endpoint, (HandleTable.lookup_remove_ne (unused subscription found)).trans known⟩
  versions := consistent.versions.subset (List.append_subset.mpr
    ⟨fun mapping found => List.mem_append_left _ found, fun mapping found => List.mem_append_right _
      (List.map_subset _ (List.filter_subset_self _) found)⟩)
  publishers first before second after := consistent.publishers first (HandleTable.mem_remove.mp before).1 second
    (HandleTable.mem_remove.mp after).1
  idle stopped := by
    obtain ⟨endpoints, watches, subscriptions⟩ := consistent.idle stopped
    refine ⟨?_, watches, subscriptions⟩
    change HandleTable.remove handle self.endpoints = []
    rw [endpoints]
    rfl

end

theorem endpointDestroy_cases (handle : Handle) : (∃ status, self.endpointDestroy handle = (.error status, self)) ∨
      ∃ endpoint, self.endpoints.lookup handle = some endpoint ∧
        (∀ subscription ∈ self.subscriptions, subscription.2 ≠ handle) ∧
        self.endpointDestroy handle = (.ok (self.handlers.lookup handle), self.withdraw handle endpoint) := by
  unfold endpointDestroy
  split
  · exact .inl ⟨_, rfl⟩
  · rename_i unused
    split
    · exact .inl ⟨_, rfl⟩
    · rename_i endpoint found
      refine .inr ⟨endpoint, found, fun subscription inside same => unused ?_, rfl⟩
      simp only [Bool.or_eq_true, List.any_eq_true, beq_iff_eq]
      exact .inl (.inl ⟨subscription, inside, same⟩)

theorem subscribe_cases (endpoint : Handle) : (∃ status, self.subscribe endpoint = (.error status, self)) ∨
      ∃ found, self.running = true ∧ self.endpoints.lookup endpoint = some found ∧
        self.subscribe endpoint = (.ok self.nextHandle, { self with
          nextHandle := self.nextHandle + 1
          subscriptions := self.subscriptions ++ [(self.nextHandle, endpoint)]
          requestedEvents := self.requestedEvents.acquire Native.requested found.mapping.eventKey
          subscribedGroups := self.subscribedGroups.acquire Native.groups found.mapping.groupKey }) := by
  unfold subscribe
  split
  · exact .inl ⟨_, rfl⟩
  · rename_i runs
    split
    · exact .inl ⟨_, rfl⟩
    · rename_i found known
      split
      · exact .inl ⟨_, rfl⟩
      · split
        · exact .inl ⟨_, rfl⟩
        · exact .inr ⟨found, by simpa using runs, known, rfl⟩

variable (consistent : self.Consistent)
include consistent

theorem Consistent.subscribe (endpoint : Handle) : (self.subscribe endpoint).2.Consistent := by
  rcases self.subscribe_cases endpoint with ⟨status, failed⟩ | ⟨found, runs, known, subscribed⟩
  · rw [failed]
    exact consistent
  · rw [subscribed]
    refine ⟨consistent.endpoints.mono (Nat.le_succ _), consistent.subscriptions.add,
      consistent.watches.mono (Nat.le_succ _), fun subscription inside => ?_, consistent.versions,
      consistent.publishers, fun stopped => ?_⟩
    · rcases List.mem_append.mp inside with inside | inside
      · exact consistent.subscribed subscription inside
      · rw [List.mem_singleton] at inside
        subst inside
        exact ⟨found, known⟩
    · change self.running = false at stopped
      rw [runs] at stopped
      cases stopped

/-- A removed subscription has an endpoint, whose keys are released. -/
theorem Consistent.unsubscribe_cases (handle : Handle) :
    (self.subscriptions.lookup handle = none ∧ self.unsubscribe handle = (.notFound, self)) ∨
      ∃ endpoint found, self.subscriptions.lookup handle = some endpoint ∧
        self.endpoints.lookup endpoint = some found ∧ self.unsubscribe handle = (.ok, { self with
          subscriptions := HandleTable.remove handle self.subscriptions
          subscribedGroups := self.subscribedGroups.release Native.groups true found.mapping.groupKey
          requestedEvents := self.requestedEvents.release Native.requested true found.mapping.eventKey }) := by
  unfold Transport.unsubscribe
  split
  · rename_i missing
    exact .inl ⟨missing, rfl⟩
  · rename_i endpoint known
    have inside := HandleTable.mem_of_lookup known
    obtain ⟨found, target⟩ := consistent.subscribed _ inside
    have runs := consistent.running (.inr (.inr (List.ne_nil_of_mem inside)))
    refine .inr ⟨endpoint, found, known, target, ?_⟩
    simp only at target
    rw [target]
    simp only [runs]

theorem Consistent.unsubscribe (handle : Handle) : (self.unsubscribe handle).2.Consistent := by
  rcases consistent.unsubscribe_cases handle with ⟨missing, failed⟩ | ⟨endpoint, found, known, target, removed⟩
  · rw [failed]
    exact consistent
  · rw [removed]
    refine ⟨consistent.endpoints, consistent.subscriptions.remove, consistent.watches, fun subscription inside =>
      consistent.subscribed subscription (HandleTable.mem_remove.mp inside).1, consistent.versions,
      consistent.publishers, fun stopped => ?_⟩
    obtain ⟨endpoints, watches, subscriptions⟩ := consistent.idle stopped
    rw [subscriptions] at known
    cases known

end Consistency

section Users

theorem subscribed_install (consistent : self.Consistent) (created : Endpoint) :
    (self.install created).subscribed = self.subscribed := by
  apply List.filterMap_congr
  intro subscription found
  obtain ⟨endpoint, known⟩ := consistent.subscribed subscription found
  rw [known]
  exact congrArg _ (consistent.endpoints.lookup_add known)

theorem subscribed_withdraw (endpoint : Endpoint)
    (unused : ∀ subscription ∈ self.subscriptions, subscription.2 ≠ handle) :
    (self.withdraw handle endpoint).subscribed = self.subscribed := by
  apply List.filterMap_congr
  intro subscription found
  exact congrArg _ (HandleTable.lookup_remove_ne (unused subscription found))

variable {key : ServiceKey}

theorem mem_requestedUsers (used : key ∈ self.requestedUsers) : key ∈ self.mappings.map Mapping.serviceKey := by
  rw [mappings, List.map_append, List.map_map, List.map_map]
  rcases List.mem_append.mp used with used | used
  · exact List.mem_append_left _ used
  · obtain ⟨entry, found, client⟩ := List.mem_filterMap.mp used
    unfold clientKey at client
    split at client
    · cases client
    · cases client
      exact List.mem_append_right _ (List.mem_map.mpr ⟨entry, found, rfl⟩)

theorem mem_offeredUsers (used : key ∈ self.offeredUsers) : key ∈ self.mappings.map Mapping.serviceKey := by
  rw [mappings, List.map_append, List.map_map, List.map_map]
  obtain ⟨entry, found, server⟩ := List.mem_filterMap.mp used
  unfold serverKey at server
  split at server
  · cases server
    exact List.mem_append_right _ (List.mem_map.mpr ⟨entry, found, rfl⟩)
  · cases server

theorem mem_subscribed {mapping : Mapping} (used : mapping ∈ self.subscribed) : mapping ∈ self.mappings := by
  obtain ⟨subscription, _, target⟩ := List.mem_filterMap.mp used
  obtain ⟨endpoint, found, rfl⟩ := Option.map_eq_some_iff.mp target
  exact List.mem_append_right _ (List.mem_map.mpr ⟨_, HandleTable.mem_of_lookup found, rfl⟩)

theorem mem_mappings_of_endpoint
    (found : self.endpoints.lookup handle = some endpoint) : endpoint.mapping ∈ self.mappings :=
  List.mem_append_right _ (List.mem_map.mpr ⟨_, HandleTable.mem_of_lookup found, rfl⟩)

end Users

/-- The tables of a transport track the objects that are alive. The requested events are only counted. -/
structure Sound (transport : Transport) : Prop where
  offeredServices : transport.offeredServices.Tracks Native.services transport.offeredUsers
  requestedServices : transport.requestedServices.Tracks Native.services transport.requestedUsers
  availabilityHandlers : transport.availabilityHandlers.Tracks Native.availability transport.availabilityUsers
  messageHandlers : transport.messageHandlers.Tracks Native.messages transport.messageUsers
  offeredEvents : transport.offeredEvents.Tracks Native.offered transport.publishedUsers
  requestedEvents : transport.requestedEvents.Counts transport.eventUsers
  subscribedGroups : transport.subscribedGroups.Tracks Native.groups transport.groupUsers

theorem Sound.frame (sound : self.Sound) (frame : Frame self later) : later.Sound := by
  obtain ⟨offered, requested, availability, messages, published, events, groups⟩ := sound
  constructor <;>
    simpa only [offeredUsers, requestedUsers, availabilityUsers, messageUsers, publishedUsers, eventUsers, groupUsers,
      Transport.subscribed, frame.endpoints, frame.subscriptions, frame.watches, frame.offeredServices,
      frame.requestedServices, frame.availabilityHandlers, frame.messageHandlers, frame.offeredEvents,
      frame.requestedEvents, frame.subscribedGroups]

theorem Sound.watchStart (sound : self.Sound) (nativeMapping : Text) : (self.watchStart nativeMapping).2.Sound := by
  rcases self.watchStart_cases nativeMapping with ⟨status, failed⟩ | ⟨mapping, runs, fits, started⟩
  · rw [failed]
    exact sound
  · rw [started]
    have available := (List.perm_append_singleton (self.nextHandle, mapping) self.watches).map (·.2.serviceKey)
    exact ⟨sound.offeredServices, sound.requestedServices.acquire (available.append_right _),
      sound.availabilityHandlers.acquire available, sound.messageHandlers, sound.offeredEvents, sound.requestedEvents,
      sound.subscribedGroups⟩

section Separation

variable {mapping : Mapping}

theorem separate_services {users : List ServiceKey} (agree : Agree self.mappings)
    (known : ∀ other ∈ users, other ∈ self.mappings.map Mapping.serviceKey) (used : mapping ∈ self.mappings) :
    Registration.Separate Native.services users mapping.serviceKey := by
  intro _ other inside different
  obtain ⟨owner, listed, rfl⟩ := List.mem_map.mp (known other inside)
  rw [Native.services, Native.services, Finset.disjoint_singleton]
  intro same
  apply different
  apply agree owner listed mapping used
  simp only [NativeService.mk.injEq, Mapping.serviceKey] at same
  simp [Mapping.sameService, same.1, same.2]

theorem separate_groups (agree : Agree self.mappings) (used : mapping ∈ self.mappings) :
    Registration.Separate Native.groups self.groupUsers mapping.groupKey := by
  intro _ other inside different
  obtain ⟨owner, listed, rfl⟩ := List.mem_map.mp inside
  rw [Native.groups, Native.groups, Finset.disjoint_singleton]
  intro same
  apply different
  simp only [NativeGroup.mk.injEq, Mapping.groupKey, Mapping.serviceKey] at same
  have service := agree owner (mem_subscribed listed) mapping used (by simp [Mapping.sameService, same.1, same.2.1])
  rw [Mapping.groupKey, Mapping.groupKey, service, same.2.2]

/-- An element has one publisher. -/
theorem Consistent.separate_publishers (consistent : self.Consistent)
    (found : self.endpoints.lookup handle = some endpoint) (publishes : endpoint.publishes = true) :
    Registration.Separate Native.offered self.publishedUsers endpoint.mapping.eventKey := by
  intro _ other inside different
  obtain ⟨entry, listed, published⟩ := List.mem_filterMap.mp inside
  unfold publisherKey at published
  split at published
  · rename_i other
    cases published
    rw [Native.offered, Native.offered, Finset.disjoint_singleton]
    intro same
    apply different
    have only := consistent.publishers entry listed _ (HandleTable.mem_of_lookup found) other publishes same.symm
    rw [only]
  · cases published

theorem separate_self {Key : Type} {names : Key → Finset Key} [DecidableEq Key] {users : List Key} {key : Key}
    (own : ∀ key, names key = {key}) : Registration.Separate names users key := by
  intro _ other _ different
  rw [own, own, Finset.disjoint_singleton]
  exact different.symm

end Separation

theorem Sound.watchStop (sound : self.Sound) (consistent : self.Consistent) (handle : Handle) :
    (self.watchStop handle).2.Sound := by
  unfold Transport.watchStop
  split
  · exact sound
  · rename_i mapping found
    have inside := HandleTable.mem_of_lookup found
    have runs := consistent.running (.inr (.inl (List.ne_nil_of_mem inside)))
    have used : mapping ∈ self.mappings := List.mem_append_left _ (List.mem_map.mpr ⟨_, inside, rfl⟩)
    rw [runs]
    have available := (consistent.watches.perm_remove found).map (·.2.serviceKey)
    exact ⟨sound.offeredServices, sound.requestedServices.release (available.append_right _)
      (separate_services consistent.versions (fun _ => mem_requestedUsers) used),
      sound.availabilityHandlers.release available (separate_self fun _ => rfl), sound.messageHandlers,
      sound.offeredEvents, sound.requestedEvents, sound.subscribedGroups⟩

section Members
variable {table : HandleTable Endpoint}

theorem filterMap_server (server : endpoint.server = true) : List.filterMap serverKey ((handle, endpoint) :: table) =
    endpoint.mapping.serviceKey :: table.filterMap serverKey := List.filterMap_cons_some (if_pos server)

theorem filterMap_server_none (client : endpoint.server = false) :
    List.filterMap serverKey ((handle, endpoint) :: table) = table.filterMap serverKey :=
  List.filterMap_cons_none (if_neg (by simp [client]))

theorem filterMap_client (client : endpoint.server = false) : List.filterMap clientKey ((handle, endpoint) :: table) =
      endpoint.mapping.serviceKey :: table.filterMap clientKey := List.filterMap_cons_some (if_neg (by simp [client]))

theorem filterMap_client_none (server : endpoint.server = true) :
    List.filterMap clientKey ((handle, endpoint) :: table) = table.filterMap clientKey :=
  List.filterMap_cons_none (if_pos server)

theorem filterMap_publisher (publishes : endpoint.publishes = true) :
    List.filterMap publisherKey ((handle, endpoint) :: table) =
      endpoint.mapping.eventKey :: table.filterMap publisherKey := List.filterMap_cons_some (if_pos publishes)

theorem filterMap_publisher_none (other : endpoint.publishes = false) :
    List.filterMap publisherKey ((handle, endpoint) :: table) = table.filterMap publisherKey :=
  List.filterMap_cons_none (if_neg (by simp [other]))

end Members

theorem Sound.install (sound : self.Sound) (consistent : self.Consistent) (created : Endpoint) :
    (self.install created).Sound := by
  have added := List.perm_append_singleton (self.nextHandle, created) self.endpoints
  have subscribed := subscribed_install consistent created
  constructor
  · have offered := added.filterMap serverKey
    simp only [Transport.install]
    split
    · rename_i server
      rw [filterMap_server server] at offered
      exact sound.offeredServices.acquire offered
    · rename_i client
      rw [filterMap_server_none (by simpa using client)] at offered
      exact sound.offeredServices.perm offered.symm
  · have requested := (added.filterMap clientKey).append_left self.availabilityUsers
    simp only [Transport.install]
    split
    · rename_i server
      rw [filterMap_client_none server] at requested
      exact sound.requestedServices.perm requested.symm
    · rename_i client
      rw [filterMap_client (by simpa using client)] at requested
      exact sound.requestedServices.acquire (requested.trans List.perm_middle)
  · exact sound.availabilityHandlers
  · exact sound.messageHandlers.acquire (added.map fun entry : Handle × Endpoint => entry.2.mapping.messageKey)
  · have published := added.filterMap publisherKey
    simp only [Transport.install]
    split
    · rename_i publishes
      rw [filterMap_publisher publishes] at published
      exact sound.offeredEvents.acquire published
    · rename_i other
      rw [filterMap_publisher_none (by simpa using other)] at published
      exact sound.offeredEvents.perm published.symm
  · rw [eventUsers, subscribed]
    exact sound.requestedEvents
  · rw [groupUsers, subscribed]
    exact sound.subscribedGroups

theorem Sound.withdraw (sound : self.Sound) (consistent : self.Consistent)
    (found : self.endpoints.lookup handle = some endpoint)
    (unused : ∀ subscription ∈ self.subscriptions, subscription.2 ≠ handle) :
    (self.withdraw handle endpoint).Sound := by
  have runs := consistent.running (.inl (List.ne_nil_of_mem (HandleTable.mem_of_lookup found)))
  have removed := consistent.endpoints.perm_remove found
  have subscribed := subscribed_withdraw endpoint unused
  have used := mem_mappings_of_endpoint found
  constructor
  · have offered := removed.filterMap serverKey
    simp only [Transport.withdraw, runs]
    split
    · rename_i server
      rw [filterMap_server server] at offered
      exact sound.offeredServices.release offered
        (separate_services consistent.versions (fun _ => mem_offeredUsers) used)
    · rename_i client
      rw [filterMap_server_none (by simpa using client)] at offered
      exact sound.offeredServices.perm offered
  · have requested := (removed.filterMap clientKey).append_left self.availabilityUsers
    simp only [Transport.withdraw, runs]
    split
    · rename_i server
      rw [filterMap_client_none server] at requested
      exact sound.requestedServices.perm requested
    · rename_i client
      rw [filterMap_client (by simpa using client)] at requested
      exact sound.requestedServices.release (requested.trans List.perm_middle)
        (separate_services consistent.versions (fun _ => mem_requestedUsers) used)
  · exact sound.availabilityHandlers
  · simp only [Transport.withdraw, runs]
    exact sound.messageHandlers.release (removed.map fun entry : Handle × Endpoint => entry.2.mapping.messageKey)
      (separate_self fun _ => rfl)
  · have published := removed.filterMap publisherKey
    simp only [Transport.withdraw, runs]
    split
    · rename_i publishes
      rw [filterMap_publisher publishes] at published
      exact sound.offeredEvents.release published (consistent.separate_publishers found publishes)
    · rename_i other
      rw [filterMap_publisher_none (by simpa using other)] at published
      exact sound.offeredEvents.perm published
  · rw [eventUsers, subscribed]
    exact sound.requestedEvents
  · rw [groupUsers, subscribed]
    exact sound.subscribedGroups

section Subscriptions

variable {found : Endpoint}

/-- A new subscription has the mapping of its endpoint. -/
theorem perm_subscribe {endpoint : Handle} (known : self.endpoints.lookup endpoint = some found) :
    ((self.subscriptions ++ [(self.nextHandle, endpoint)]).filterMap fun subscription =>
      (self.endpoints.lookup subscription.2).map (·.mapping)).Perm (found.mapping :: self.subscribed) := by
  have added := (List.perm_append_singleton (self.nextHandle, endpoint) self.subscriptions).filterMap
    fun subscription =>
    (self.endpoints.lookup subscription.2).map (·.mapping)
  rw [List.filterMap_cons_some (b := found.mapping) (by rw [known]; rfl)] at added
  exact added

theorem Consistent.perm_unsubscribe (consistent : self.Consistent) {handle endpoint : Handle}
    (known : self.subscriptions.lookup handle = some endpoint)
    (target : self.endpoints.lookup endpoint = some found) : self.subscribed.Perm (found.mapping ::
      (HandleTable.remove handle self.subscriptions).filterMap fun subscription =>
        (self.endpoints.lookup subscription.2).map (·.mapping)) := by
  have removed := (consistent.subscriptions.perm_remove known).filterMap fun subscription =>
    (self.endpoints.lookup subscription.2).map (·.mapping)
  rw [List.filterMap_cons_some (b := found.mapping) (by rw [target]; rfl)] at removed
  exact removed

theorem Sound.subscribe (sound : self.Sound) (endpoint : Handle) : (self.subscribe endpoint).2.Sound := by
  rcases self.subscribe_cases endpoint with ⟨status, failed⟩ | ⟨found, runs, known, subscribed⟩
  · rw [failed]
    exact sound
  · rw [subscribed]
    have added := perm_subscribe known
    exact ⟨sound.offeredServices, sound.requestedServices, sound.availabilityHandlers, sound.messageHandlers,
      sound.offeredEvents, sound.requestedEvents.acquire.perm (added.map Mapping.eventKey).symm,
      sound.subscribedGroups.acquire (added.map Mapping.groupKey)⟩

theorem Sound.unsubscribe (sound : self.Sound) (consistent : self.Consistent) (handle : Handle) :
    (self.unsubscribe handle).2.Sound := by
  rcases consistent.unsubscribe_cases handle with ⟨missing, failed⟩ | ⟨endpoint, found, known, target, removed⟩
  · rw [failed]
    exact sound
  · rw [removed]
    have perm := consistent.perm_unsubscribe known target
    exact ⟨sound.offeredServices, sound.requestedServices, sound.availabilityHandlers, sound.messageHandlers,
      sound.offeredEvents, sound.requestedEvents.release (perm.map Mapping.eventKey),
      sound.subscribedGroups.release (perm.map Mapping.groupKey)
        (separate_groups consistent.versions (mem_mappings_of_endpoint target))⟩

end Subscriptions

theorem Consistent.perform (consistent : self.Consistent) (operation : Operation) :
    (operation.perform self).Consistent := by
  cases operation with
  | watchStart nativeMapping => exact consistent.watchStart nativeMapping
  | watchStop handle => exact consistent.watchStop handle
  | endpointCreate descriptor =>
      rcases self.endpointCreate_cases descriptor with ⟨status, failed⟩ | ⟨mapping, runs, watches, free, created⟩
      · rw [Operation.perform, failed]
        exact consistent
      · rw [Operation.perform, created]
        exact consistent.install runs watches free
  | endpointDestroy handle =>
      rcases self.endpointDestroy_cases handle with ⟨status, failed⟩ | ⟨endpoint, found, unused, destroyed⟩
      · rw [Operation.perform, failed]
        exact consistent
      · rw [Operation.perform, destroyed]
        exact consistent.withdraw endpoint unused
  | subscribe endpoint => exact consistent.subscribe endpoint
  | unsubscribe handle => exact consistent.unsubscribe handle
  | _ => exact consistent.frame (frame_perform rfl)

theorem Sound.perform (sound : self.Sound) (consistent : self.Consistent) (operation : Operation) :
    (operation.perform self).Sound := by
  cases operation with
  | watchStart nativeMapping => exact sound.watchStart nativeMapping
  | watchStop handle => exact sound.watchStop consistent handle
  | endpointCreate descriptor =>
      rcases self.endpointCreate_cases descriptor with ⟨status, failed⟩ | ⟨mapping, runs, watches, free, created⟩
      · rw [Operation.perform, failed]
        exact sound
      · rw [Operation.perform, created]
        exact sound.install consistent _
  | endpointDestroy handle =>
      rcases self.endpointDestroy_cases handle with ⟨status, failed⟩ | ⟨endpoint, found, unused, destroyed⟩
      · rw [Operation.perform, failed]
        exact sound
      · rw [Operation.perform, destroyed]
        exact sound.withdraw consistent found unused
  | subscribe endpoint => exact sound.subscribe endpoint
  | unsubscribe handle => exact sound.unsubscribe consistent handle
  | _ => exact sound.frame (frame_perform rfl)

/-- The requested events are those that a subscription needs. -/
def EventsRegistered (transport : Transport) : Prop :=
  transport.requestedEvents.Registers Native.requested transport.eventUsers

theorem Sound.counted (sound : self.Sound) : self.Counted :=
  ⟨sound.offeredServices.counts, sound.requestedServices.counts, sound.availabilityHandlers.counts,
    sound.messageHandlers.counts, sound.offeredEvents.counts, sound.requestedEvents, sound.subscribedGroups.counts⟩

theorem Sound.registered_iff (sound : self.Sound) : self.Registered ↔ self.EventsRegistered :=
  ⟨Registered.requestedEvents, fun events => ⟨sound.offeredServices.registers, sound.requestedServices.registers,
    sound.availabilityHandlers.registers, sound.messageHandlers.registers, sound.offeredEvents.registers, events,
    sound.subscribedGroups.registers⟩⟩

/-- Two event keys share a native name when they have the same service, instance and element. -/
theorem disjoint_requested : Disjoint (Native.requested left.eventKey) (Native.requested right.eventKey) ↔
      right.messageKey ≠ left.messageKey := by
  constructor
  · intro apart same
    simp only [Mapping.messageKey, MessageKey.mk.injEq] at same
    have mine : NativeEvent.event left.service left.instanceId left.element ∈ Native.requested left.eventKey := by
      simp [Native.requested, Mapping.eventKey, Mapping.serviceKey]
    apply Finset.disjoint_left.mp apart mine
    simp [Native.requested, Mapping.eventKey, Mapping.serviceKey, same.1, same.2.1, same.2.2]
  · intro different
    rw [Finset.disjoint_left]
    intro name mine other
    apply different
    simp only [Native.requested, Mapping.eventKey, Mapping.serviceKey, Finset.mem_insert,
      Finset.mem_singleton] at mine other
    rcases mine with rfl | rfl
    · simp_all [Mapping.messageKey]
    · simp_all [Mapping.messageKey]

theorem separate_requested_iff {mapping : Mapping} :
    Registration.Separate Native.requested self.eventUsers mapping.eventKey ↔
      (self.eventUsers.count mapping.eventKey = 1 → ∀ other ∈ self.subscribed,
        other.messageKey = mapping.messageKey → other.eventKey = mapping.eventKey) := by
  unfold Registration.Separate
  apply imp_congr_right
  intro last
  rw [eventUsers, List.forall_mem_map]
  apply forall₂_congr
  intro other used
  rw [disjoint_requested]
  tauto

theorem EventsRegistered.frame (events : self.EventsRegistered) (frame : Frame self later) :
    later.EventsRegistered := by
  unfold EventsRegistered at events ⊢
  rw [frame.requestedEvents, eventUsers, Transport.subscribed, frame.subscriptions, frame.endpoints]
  exact events

/-- The middleware keeps the needed events exactly when the operation disturbs no other event key. -/
theorem events_perform_iff (sound : self.Sound) (consistent : self.Consistent) (events : self.EventsRegistered)
    (operation : Operation) : (operation.perform self).EventsRegistered ↔ Undisturbed self operation := by
  cases operation with
  | watchStart nativeMapping =>
      apply iff_of_true _ trivial
      rcases self.watchStart_cases nativeMapping with ⟨status, failed⟩ | ⟨mapping, runs, fits, started⟩
      · rw [Operation.perform, failed]
        exact events
      · rw [Operation.perform, started]
        exact events
  | watchStop handle =>
      apply iff_of_true _ trivial
      change (self.watchStop handle).2.EventsRegistered
      unfold Transport.watchStop
      split
      · exact events
      · exact events
  | endpointCreate descriptor =>
      apply iff_of_true _ trivial
      rcases self.endpointCreate_cases descriptor with ⟨status, failed⟩ | ⟨mapping, runs, watches, free, created⟩
      · rw [Operation.perform, failed]
        exact events
      · rw [Operation.perform, created, EventsRegistered, eventUsers, subscribed_install consistent]
        exact events
  | endpointDestroy handle =>
      apply iff_of_true _ trivial
      rcases self.endpointDestroy_cases handle with ⟨status, failed⟩ | ⟨endpoint, found, unused, destroyed⟩
      · rw [Operation.perform, failed]
        exact events
      · rw [Operation.perform, destroyed, EventsRegistered, eventUsers, subscribed_withdraw endpoint unused]
        exact events
  | subscribe endpoint =>
      apply iff_of_true _ trivial
      rcases self.subscribe_cases endpoint with ⟨status, failed⟩ | ⟨found, runs, known, subscribed⟩
      · rw [Operation.perform, failed]
        exact events
      · rw [Operation.perform, subscribed]
        exact (Registration.Registers.acquire sound.requestedEvents events).perm
          ((perm_subscribe known).map Mapping.eventKey).symm
  | unsubscribe handle =>
      rcases consistent.unsubscribe_cases handle with ⟨missing, failed⟩ | ⟨endpoint, found, known, target, removed⟩
      · rw [Operation.perform, failed]
        apply iff_of_true events
        intro endpoint found known
        rw [missing] at known
        cases known
      · rw [Operation.perform, removed]
        have kept := Registration.registers_release_iff sound.requestedEvents events
          ((consistent.perm_unsubscribe known target).map Mapping.eventKey)
        rw [separate_requested_iff] at kept
        apply kept.trans
        constructor
        · intro undisturbed other holder first second
          rw [known, Option.some.injEq] at first
          subst first
          rw [target, Option.some.injEq] at second
          subst second
          exact undisturbed
        · intro undisturbed
          exact undisturbed endpoint found known target
  | _ => exact iff_of_true (events.frame (frame_perform rfl)) trivial

end Transport

section Runs
variable {maxEndpoints maxOperations : Nat} {state : Transport}

theorem sound_of_reaches {allowed : Transport → Operation → Prop}
    (reached : system.Reaches allowed (fresh maxEndpoints maxOperations) state) : state.Consistent ∧ state.Sound := by
  apply reached.invariant
  · refine ⟨⟨.empty, .empty, .empty, by simp [fresh], ?_, by simp [fresh], fun _ => ⟨rfl, rfl, rfl⟩⟩, ?_⟩
    · intro left found
      exact absurd found List.not_mem_nil
    · have none : ∀ {Key Name : Type} [DecidableEq Key] {names : Key → Finset Name},
          Registration.Tracks names {} [] := ⟨Registration.counts_empty, Registration.registers_empty⟩
      exact ⟨none, none, none, none, none, Registration.counts_empty, none⟩
  · intro before operation later kept _ performed
    cases performed
    exact ⟨kept.1.perform operation, kept.2.perform kept.1 operation⟩

theorem events_of_reaches (reached : system.Reaches Undisturbed (fresh maxEndpoints maxOperations) state) :
    state.EventsRegistered := by
  induction reached with
  | refl => exact Registration.registers_empty
  | step before permitted performed ih =>
      cases performed
      obtain ⟨consistent, sound⟩ := sound_of_reaches before
      exact (Transport.events_perform_iff sound consistent ih _).mpr permitted

/-- The counts are exact in every run. The native registrations are those that the live objects need until the
first operation that disturbs another event key. -/
theorem registrations_exact (maxEndpoints maxOperations : Nat) :
    (∀ state, system.Reaches (fun _ _ => True) (fresh maxEndpoints maxOperations) state → state.Counted) ∧
      ∀ state, system.Reaches Undisturbed (fresh maxEndpoints maxOperations) state → state.Registered ∧
        ∀ operation : Operation, (operation.perform state).Registered ↔ Undisturbed state operation := by
  constructor
  · intro state reached
    exact (sound_of_reaches reached).2.counted
  · intro state reached
    obtain ⟨consistent, sound⟩ := sound_of_reaches reached
    have events := events_of_reaches reached
    refine ⟨sound.registered_iff.mpr events, fun operation => ?_⟩
    rw [(sound.perform consistent operation).registered_iff]
    exact Transport.events_perform_iff sound consistent events operation

def notification (eventGroup : Text) : Descriptor where
  kind := .eventSubscriber
  maxPayloadSize := 1024
  historyDepth := 0
  requiredFeatures := Feature.events
  nativeMapping := "service=4660;instance=1;element=32769;eventGroup=".toList ++ eventGroup ++
    ";major=1;minor=0;kind=event;reliable=true".toList

/-- Two groups have the same event. One of two subscriptions of the first group is removed. -/
def sharing : List Operation :=
  [.start true, .endpointCreate (notification "1".toList), .endpointCreate (notification "2".toList), .subscribe 1,
    .subscribe 1, .subscribe 2, .unsubscribe 3]

example : ∃ state, system.Reaches Undisturbed (fresh 128 128) state ∧
    state.subscriptions.map Prod.snd = [1, 2] ∧ state.requestedEvents.registered.card = 3 := by
  let check (state : Transport) : Operation → Bool
    | .unsubscribe handle =>
        ((state.subscriptions.lookup handle).bind fun endpoint => state.endpoints.lookup endpoint).all fun found =>
          state.eventUsers.count found.mapping.eventKey != 1 || state.subscribed.all fun other =>
            other.messageKey != found.mapping.messageKey || other.eventKey == found.mapping.eventKey
    | _ => true
  have sound (state : Transport) (operation : Operation) (checked : check state operation = true) :
      Undisturbed state operation := by
    cases operation with
    | unsubscribe handle =>
        intro endpoint found subscribed owned last other listed same
        have checked : (state.eventUsers.count found.mapping.eventKey != 1 || state.subscribed.all fun other =>
            other.messageKey != found.mapping.messageKey || other.eventKey == found.mapping.eventKey) = true := by
          refine (Option.all_eq_true _ _).mp checked found ?_
          rw [subscribed, Option.bind_some, owned]
        rw [last, bne_self_eq_false, Bool.false_or] at checked
        simpa [same] using List.all_eq_true.mp checked other listed
    | _ => trivial
  have executed : (system.run check (sharing.map fun operation _ => operation) (fresh 128 128)).any (fun state =>
      decide (state.subscriptions.map Prod.snd = [1, 2] ∧ state.requestedEvents.registered.card = 3)) = true := by
    decide
  obtain ⟨state, reached, ended⟩ := Concurrency.System.Reaches.exists_of_run check sound _ _ executed
  exact ⟨state, reached, of_decide_eq_true ended⟩

/-- Two groups have the same event. The last subscription of the first group is removed. -/
def disturbance : List Operation :=
  [.start true, .endpointCreate (notification "1".toList), .endpointCreate (notification "2".toList), .subscribe 1,
    .subscribe 2, .unsubscribe 3]

/-- The middleware has released the event that the subscription of the second group needs. -/
theorem shared_event_withdrawn : ∃ state,
    system.Reaches (fun _ _ => True) (fresh 128 128) state ∧ ¬state.Registered := by
  have executed : (system.run (fun _ _ => true) (disturbance.map fun operation _ => operation) (fresh 128 128)).any
      (fun state => state.eventUsers.any fun key =>
        decide (.event key.service.service key.service.instanceId key.event ∉ state.requestedEvents.registered)) =
      true := by
    decide
  obtain ⟨state, reached, ended⟩ := Concurrency.System.Reaches.exists_of_run _ (fun _ _ _ => trivial) _ _ executed
  refine ⟨state, reached, fun registered => ?_⟩
  obtain ⟨key, used, withdrawn⟩ := List.any_eq_true.mp ended
  apply of_decide_eq_true withdrawn
  exact (registered.requestedEvents _).mpr ⟨key, used, Finset.mem_insert_self _ _⟩

end Runs

end OpenVehicle.Com.Vsomeip
