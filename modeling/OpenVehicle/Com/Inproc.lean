/-
This file models the tables of the in-process transport. Each function is a locked section of the function of the
transport that has its name.
-/

import OpenVehicle.Com.Transport

namespace OpenVehicle.Com

/-- The objects of watches, servers and users are known by their numbers. -/
structure InprocTransport where
  running : Bool := true
  nextHandle : Handle := 1
  maxEndpoints : Nat := 256
  maxOperations : Nat := 256
  endpoints : List (Handle × EndpointDescriptor) := []
  subscriptions : List (Handle × Handle) := []
  watches : List (Handle × Uuid × Nat) := []
  servers : List (Handle × Nat) := []
  pending : List (Handle × Nat) := []
  deriving DecidableEq, Repr

namespace InprocTransport

def maximumPayload : Nat := 16 * 1024 * 1024

def maximumHistory : Nat := 4096

def supported : List Capability := [.events, .methods, .ordered, .deadlines, .cancellation]

/-- A publisher or a server is announced to the watches. -/
def announces (kind : EndpointKind) : Bool := kind == .eventPublisher || kind == .methodServer

def sameElement (left right : EndpointDescriptor) : Bool :=
  left.serviceId == right.serviceId && left.instanceId == right.instanceId && left.elementId == right.elementId &&
    left.operation == right.operation

variable (self : InprocTransport)

/-- The objects of the watches of a service. -/
def watching (service : Uuid) : List Nat := (self.watches.filter fun watch => watch.2.1 == service).map (·.2.2)

/-- A new watch takes a copy of the endpoints that it is told of. -/
def watchStart (service : Uuid) (object : Nat) (self : InprocTransport) :
    Except Status (Handle × List EndpointDescriptor) × InprocTransport :=
  if !self.running then (.error .invalidState, self)
  else
    let available := (self.endpoints.map Prod.snd).filter fun endpoint =>
      announces endpoint.kind && endpoint.serviceId == service
    (.ok (self.nextHandle, available), { self with
      nextHandle := self.nextHandle + 1
      watches := self.watches ++ [(self.nextHandle, service, object)] })

def watchStop (handle : Handle) (self : InprocTransport) : Option Nat × InprocTransport :=
  match self.watches.lookup handle with
  | none => (none, self)
  | some watch => (some watch.2, { self with watches := self.watches.filter fun entry => entry.1 != handle })

def endpointCreate (descriptor : EndpointDescriptor) (self : InprocTransport) :
    Except Status (Handle × List Nat) × InprocTransport :=
  if !self.running then (.error .invalidState, self)
  else if self.endpoints.length ≥ self.maxEndpoints then (.error .resourceExhausted, self)
  else if descriptor.maxPayloadSize > maximumPayload ∨ descriptor.historyDepth > maximumHistory then
    (.error .unsupported, self)
  else if !descriptor.requiredFeatures.all supported.contains then (.error .unsupported, self)
  else
    (.ok (self.nextHandle, if announces descriptor.kind then self.watching descriptor.serviceId else []), { self with
      nextHandle := self.nextHandle + 1
      endpoints := self.endpoints ++ [(self.nextHandle, descriptor)] })

/-- The removed endpoint is announced while the transport runs, and its server stops. -/
def endpointDestroy (handle : Handle) (self : InprocTransport) :
    Except Status (EndpointDescriptor × List Nat × Option Nat) × InprocTransport :=
  if self.subscriptions.any fun subscription => subscription.2 == handle then (.error .invalidState, self)
  else
    match self.endpoints.lookup handle with
    | none => (.error .notFound, self)
    | some removed =>
        let announce := self.running && announces removed.kind
        (.ok (removed, if announce then self.watching removed.serviceId else [], self.servers.lookup handle),
          { self with
            endpoints := self.endpoints.filter fun endpoint => endpoint.1 != handle
            servers := self.servers.filter fun server => server.1 != handle })

/-- A handler replaces the server of the endpoint, and no handler removes it. -/
def setRequestHandler (endpoint : Handle) (handler : Option Nat) (self : InprocTransport) :
    Except Status (Option Nat) × InprocTransport :=
  if !self.running then (.error .invalidState, self)
  else
    match self.endpoints.lookup endpoint with
    | none => (.error .notFound, self)
    | some descriptor =>
        if descriptor.kind ≠ .methodServer then (.error .invalidArgument, self)
        else
          let others := self.servers.filter fun server => server.1 != endpoint
          match handler with
          | some object => (.ok none, { self with servers := others ++ [(endpoint, object)] })
          | none => (.ok (self.servers.lookup endpoint), { self with servers := others })

/-- The servers of the same element, in the order of the table. -/
def targets (source : EndpointDescriptor) (self : InprocTransport) : List Nat :=
  (self.servers.filter fun server => (self.endpoints.lookup server.1).any (sameElement source)).map Prod.snd

/-- A request is entered into the table before it is handed over. The order of the table of servers is not
specified, so the rank selects one of the targets. -/
def request (client : Handle) (user rank : Nat) (self : InprocTransport) :
    Except Status (Nat × Handle) × InprocTransport :=
  if !self.running then (.error .invalidState, self)
  else
    match self.endpoints.lookup client with
    | none => (.error .notFound, self)
    | some source =>
        if source.kind ≠ .methodClient then (.error .invalidArgument, self)
        else if self.pending.length ≥ self.maxOperations then (.error .resourceExhausted, self)
        else
          let targets := self.targets source
          match targets[rank % targets.length]? with
          | none => (.error .notFound, self)
          | some server => (.ok (server, self.nextHandle), { self with
              nextHandle := self.nextHandle + 1
              pending := self.pending ++ [(self.nextHandle, user)] })

def complete (operation : Handle) (self : InprocTransport) : Option Nat × InprocTransport :=
  match self.pending.lookup operation with
  | none => (none, self)
  | some user => (some user, { self with pending := self.pending.filter fun entry => entry.1 != operation })

/-- A transport that starts again keeps its counter of handles. -/
def start : Status × InprocTransport :=
  if self.running then (.invalidState, self) else (.ok, { self with running := true })

/-- The tables are empty when the transport has stopped. -/
def stop : Option (List (Handle × Nat) × List Nat) × InprocTransport :=
  if !self.running then (none, self)
  else (some (self.pending, self.servers.map Prod.snd), { self with
    running := false, endpoints := [], subscriptions := [], watches := [], servers := [], pending := [] })

section Cases
variable {self : InprocTransport}

theorem watchStart_cases (service : Uuid) (object : Nat) :
    (∃ status, self.watchStart service object = (.error status, self)) ∨
      self.watchStart service object = (.ok (self.nextHandle, (self.endpoints.map Prod.snd).filter fun endpoint =>
          announces endpoint.kind && endpoint.serviceId == service), { self with
        nextHandle := self.nextHandle + 1, watches := self.watches ++ [(self.nextHandle, service, object)] }) := by
  unfold watchStart
  split
  · exact .inl ⟨_, rfl⟩
  · exact .inr rfl

theorem watchStop_cases (handle : Handle) : self.watchStop handle = (none, self) ∨
    ∃ object, self.watchStop handle = (some object, { self with
      watches := self.watches.filter fun entry => entry.1 != handle }) := by
  unfold watchStop
  split
  · exact .inl rfl
  · exact .inr ⟨_, rfl⟩

theorem endpointCreate_cases (descriptor : EndpointDescriptor) :
    (∃ status, self.endpointCreate descriptor = (.error status, self)) ∨ self.endpointCreate descriptor =
        (.ok (self.nextHandle, if announces descriptor.kind then self.watching descriptor.serviceId else []),
          { self with
          nextHandle := self.nextHandle + 1, endpoints := self.endpoints ++ [(self.nextHandle, descriptor)] }) := by
  unfold endpointCreate
  split
  · exact .inl ⟨_, rfl⟩
  · split
    · exact .inl ⟨_, rfl⟩
    · split
      · exact .inl ⟨_, rfl⟩
      · split
        · exact .inl ⟨_, rfl⟩
        · exact .inr rfl

theorem endpointDestroy_cases (handle : Handle) : (∃ status, self.endpointDestroy handle = (.error status, self)) ∨
      ∃ removed, self.endpoints.lookup handle = some removed ∧ self.endpointDestroy handle =
        (.ok (removed, if self.running && announces removed.kind then self.watching removed.serviceId else [],
          self.servers.lookup handle), { self with
            endpoints := self.endpoints.filter fun endpoint => endpoint.1 != handle
            servers := self.servers.filter fun server => server.1 != handle }) := by
  unfold endpointDestroy
  split
  · exact .inl ⟨_, rfl⟩
  · split
    · exact .inl ⟨_, rfl⟩
    · rename_i removed found
      exact .inr ⟨removed, found, rfl⟩

theorem endpointCreate_pending (descriptor : EndpointDescriptor) :
    (self.endpointCreate descriptor).2.pending = self.pending := by
  rcases self.endpointCreate_cases descriptor with ⟨_, same⟩ | created
  · rw [same]
  · rw [created]

theorem endpointDestroy_pending (handle : Handle) : (self.endpointDestroy handle).2.pending = self.pending := by
  rcases self.endpointDestroy_cases handle with ⟨_, same⟩ | ⟨_, _, destroyed⟩
  · rw [same]
  · rw [destroyed]

theorem setRequestHandler_pending (endpoint : Handle) (handler : Option Nat) :
    (self.setRequestHandler endpoint handler).2.pending = self.pending := by
  unfold setRequestHandler
  split
  · rfl
  · split
    · rfl
    · split
      · rfl
      · split <;> rfl

theorem start_pending : self.start.2.pending = self.pending := by
  unfold start
  split <;> rfl

/-- A request is refused without an effect, or it enters the table as its last entry. -/
theorem request_cases (client : Handle) (user rank : Nat) :
    (∃ status, self.request client user rank = (.error status, self)) ∨
      ∃ server, self.request client user rank = (.ok (server, self.nextHandle),
        { self with nextHandle := self.nextHandle + 1, pending := self.pending ++ [(self.nextHandle, user)] }) := by
  unfold request
  dsimp only
  split
  · exact .inl ⟨_, rfl⟩
  · split
    · exact .inl ⟨_, rfl⟩
    · split
      · exact .inl ⟨_, rfl⟩
      · split
        · exact .inl ⟨_, rfl⟩
        · split
          · exact .inl ⟨_, rfl⟩
          · exact .inr ⟨_, rfl⟩

/-- A completed operation leaves the table with its user. -/
theorem complete_some {operation : Handle} {user : Nat} (found : (self.complete operation).1 = some user)
    (other : Nat) : ((self.complete operation).2.pending.map Prod.snd).count other + [user].count other ≤
      (self.pending.map Prod.snd).count other := by
  unfold complete at found ⊢
  split at found
  · cases found
  · rename_i completed entry
    cases found
    obtain ⟨first, last, split, _⟩ := List.lookup_eq_some_iff.mp entry
    rw [split, List.filter_append, List.filter_cons_of_neg (by simp)]
    simp only [List.map_append, List.map_cons, List.count_append, List.count_cons, List.count_nil]
    have least (entries : List (Handle × Nat)) :
        ((entries.filter fun entry => entry.1 != operation).map Prod.snd).count other ≤
          (entries.map Prod.snd).count other := List.Sublist.count_le other (List.filter_sublist.map Prod.snd)
    have := least first
    have := least last
    omega

theorem complete_none {operation : Handle} (missing : (self.complete operation).1 = none) :
    (self.complete operation).2 = self := by
  unfold complete at missing ⊢
  split
  · rfl
  · rename_i user entry
    rw [entry] at missing
    cases missing

end Cases

end InprocTransport

end OpenVehicle.Com
