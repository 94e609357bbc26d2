/-
This file proves when the SOME/IP transport loses no request of its servers. The handlers, the tasks and the closing
of the bindings take their locked sections in any order.
-/

import OpenVehicle.Com.VsomeipRequests
import OpenVehicle.Concurrency.Custody

namespace OpenVehicle.Com.Vsomeip

open Concurrency (Custody mem_map_eraseIdx)
open Data (HandleTable)

namespace Transport
variable {self later : Transport}

section Hosts

/-- The requests that have no response, each with its endpoint. -/
def openRequests (self : Transport) : List (Handle × Handle) :=
  self.incoming.map fun entry => (entry.1, entry.2.endpoint)

/-- The endpoints that subscriptions and operations name. -/
def clients (self : Transport) : List Handle := self.subscriptions.map Prod.snd ++ self.pending.map (·.2.endpoint)

/-- Each request has its endpoint, and no client is an endpoint of a server. -/
structure Hosted (transport : Transport) : Prop where
  incoming : transport.incoming.Ordered transport.nextHandle
  endpoints : transport.endpoints.Ordered transport.nextHandle
  present : ∀ entry ∈ transport.incoming, ∃ found, transport.endpoints.lookup entry.2.endpoint = some found
  clients : HandleTable.Apart Endpoint.serves transport.nextHandle transport.endpoints transport.clients

/-- An operation that keeps the endpoints and adds no request and no client. -/
theorem Hosted.keep (hosted : self.Hosted) (nextHandle : self.nextHandle ≤ later.nextHandle)
    (endpoints : later.endpoints = self.endpoints) (incoming : later.incoming.Sublist self.incoming)
    (clients : later.clients ⊆ self.clients) : later.Hosted where
  incoming := (hosted.incoming.sublist incoming).mono nextHandle
  endpoints := endpoints ▸ hosted.endpoints.mono nextHandle
  present entry found := endpoints ▸ hosted.present entry (incoming.subset found)
  clients := endpoints ▸ (hosted.clients.mono nextHandle).subset clients

variable {endpoint : Handle} {found : Endpoint}

/-- An operation for a client adds an endpoint of a client. -/
theorem Hosted.use (hosted : self.Hosted)
    (known : self.endpoints.lookup endpoint = some found) (kind : found.serves = false)
    (nextHandle : self.nextHandle ≤ later.nextHandle) (endpoints : later.endpoints = self.endpoints)
    (incoming : later.incoming = self.incoming) (clients : later.clients ⊆ endpoint :: self.clients) :
    later.Hosted where
  incoming := incoming ▸ hosted.incoming.mono nextHandle
  endpoints := endpoints ▸ hosted.endpoints.mono nextHandle
  present := by
    rw [endpoints, incoming]
    exact hosted.present
  clients := endpoints ▸ ((hosted.clients.use hosted.endpoints known kind).mono nextHandle).subset clients

theorem Hosted.install (hosted : self.Hosted) (created : Endpoint) : (self.install created).Hosted where
  incoming := hosted.incoming.mono (Nat.le_succ _)
  endpoints := hosted.endpoints.add
  present entry found := by
    obtain ⟨endpoint, known⟩ := hosted.present entry found
    exact ⟨endpoint, hosted.endpoints.lookup_add known⟩
  clients := hosted.clients.push

/-- A destroyed endpoint has no request. -/
theorem Hosted.endpointDestroy (hosted : self.Hosted) (handle : Handle) : (self.endpointDestroy handle).2.Hosted := by
  unfold Transport.endpointDestroy
  split
  · exact hosted
  · rename_i free
    split
    · exact hosted
    · simp only [Bool.or_eq_true, not_or, List.any_eq_true, beq_iff_eq, not_exists, not_and] at free
      refine ⟨hosted.incoming, hosted.endpoints.remove, fun entry found => ?_, hosted.clients.remove⟩
      obtain ⟨endpoint, known⟩ := hosted.present entry found
      exact ⟨endpoint, (HandleTable.lookup_remove_ne (free.2 entry found)).trans known⟩

theorem not_serves {endpoint : Endpoint} {kind : EndpointKind} (known : endpoint.descriptor.kind = kind)
    (other : kind ≠ .methodServer) : endpoint.serves = false := beq_eq_false_iff_ne.mpr (known ▸ other)

theorem Hosted.subscribe (hosted : self.Hosted) (endpoint : Handle) : (self.subscribe endpoint).2.Hosted := by
  unfold Transport.subscribe
  split
  · exact hosted
  · split
    · exact hosted
    · rename_i found known
      split
      · exact hosted
      · rename_i kind
        split
        · exact hosted
        · refine hosted.use known (not_serves (not_not.mp kind) nofun) (Nat.le_succ _) rfl rfl ?_
          intro client named
          simp only [Transport.clients, List.map_append, List.map_cons, List.map_nil, List.mem_append,
            List.mem_cons] at named ⊢
          tauto

theorem Hosted.unsubscribe (hosted : self.Hosted) (handle : Handle) : (self.unsubscribe handle).2.Hosted := by
  have fewer : ((HandleTable.remove handle self.subscriptions).map Prod.snd ++
      self.pending.map (·.2.endpoint)) ⊆ self.clients :=
    List.append_subset.mpr
      ⟨List.Subset.trans (List.map_subset _ (List.filter_subset_self _)) (List.subset_append_left _ _),
        List.subset_append_right _ _⟩
  unfold Transport.unsubscribe
  split
  · exact hosted
  · split
    · exact hosted.keep (Nat.le_refl _) rfl (.refl _) fewer
    · exact hosted.keep (Nat.le_refl _) rfl (.refl _) fewer

theorem requestRefused_none {size : Nat} (free : self.requestRefused endpoint size = none) :
    ∃ found, self.endpoints.lookup endpoint = some found ∧ found.descriptor.kind = .methodClient := by
  unfold Transport.requestRefused at free
  split at free
  · cases free
  · split at free
    · cases free
    · rename_i found known
      split at free
      · cases free
      · rename_i kind
        exact ⟨found, known, not_not.mp kind⟩

section
variable (hosted : self.Hosted)
include hosted

theorem Hosted.request (endpoint : Handle) (operation size deadline : Nat)
    (correlation : Correlation) : (self.request endpoint operation size deadline correlation).2.Hosted := by
  rcases self.request_cases endpoint operation size deadline correlation with ⟨status, _, failed⟩ | ⟨free, sent⟩
  · rw [failed]
    exact hosted
  · rw [sent]
    obtain ⟨found, known, kind⟩ := requestRefused_none free
    refine hosted.use known (not_serves kind nofun) (Nat.le_succ _) rfl rfl ?_
    intro client named
    simp only [Transport.clients, List.map_append, List.map_cons, List.map_nil, List.mem_append,
      List.mem_cons] at named ⊢
    tauto

/-- Fewer pending operations name fewer endpoints. -/
theorem Hosted.settle (nextHandle : later.nextHandle = self.nextHandle)
    (endpoints : later.endpoints = self.endpoints) (incoming : later.incoming.Sublist self.incoming)
    (subscriptions : later.subscriptions = self.subscriptions) (pending : later.pending ⊆ self.pending) :
    later.Hosted := by
  apply hosted.keep nextHandle.ge endpoints incoming
  rw [Transport.clients, Transport.clients, subscriptions]
  exact List.append_subset.mpr ⟨List.subset_append_left _ _,
    List.Subset.trans (List.map_subset _ pending) (List.subset_append_right _ _)⟩

theorem Hosted.response (correlation : Correlation) : (self.response correlation).2.Hosted := by
  rcases self.response_cases correlation with failed | ⟨operation, found, _, _, taken⟩
  · rw [failed]
    exact hosted
  · rw [taken]
    exact hosted.settle rfl rfl (.refl _) rfl (List.filter_subset_self _)

theorem Hosted.cancel (operation : Handle) : (self.cancel operation).2.Hosted := by
  rcases self.cancel_cases operation with failed | ⟨found, _, taken⟩
  · rw [failed]
    exact hosted
  · rw [taken]
    exact hosted.settle rfl rfl (.refl _) rfl (List.filter_subset_self _)

theorem Hosted.stop : self.stop.2.Hosted := by
  unfold Transport.stop
  split
  · exact hosted
  · exact hosted.settle rfl rfl (List.nil_sublist _) rfl (List.nil_subset _)

end

/-- A received request has an endpoint with a handler. -/
theorem receive_cases (ordered : self.endpoints.Ordered self.nextHandle) (message : Message) :
    (∃ result, self.receive message = (result, self) ∧ ∀ delivery, result ≠ some (.ok delivery)) ∨
      ∃ handler endpoint found, self.endpoints.lookup endpoint = some found ∧
        self.receive message = (some (.ok (handler, self.nextHandle)), { self with
          nextHandle := self.nextHandle + 1
          incoming := self.incoming ++ [(self.nextHandle, ⟨message, endpoint⟩)] }) := by
  unfold Transport.receive
  split
  · exact .inl ⟨_, rfl, nofun⟩
  · split
    · exact .inl ⟨_, rfl, nofun⟩
    · rename_i handler endpoint taken
      split
      · exact .inl ⟨_, rfl, nofun⟩
      · obtain ⟨entry, inside, chosen⟩ := List.exists_of_findSome?_eq_some taken
        split at chosen
        · obtain ⟨object, _, same⟩ := Option.map_eq_some_iff.mp chosen
          obtain ⟨rfl, rfl⟩ := Prod.mk.inj same
          exact .inr ⟨object, entry.1, entry.2, ordered.lookup_of_mem inside, rfl⟩
        · cases chosen

theorem Hosted.receive (hosted : self.Hosted) (message : Message) : (self.receive message).2.Hosted := by
  rcases receive_cases hosted.endpoints message with ⟨result, ignored, _⟩ | ⟨handler, endpoint, found, known, entered⟩
  · rw [ignored]
    exact hosted
  · rw [entered]
    refine ⟨hosted.incoming.add, hosted.endpoints.mono (Nat.le_succ _), fun entry inside => ?_,
      hosted.clients.mono (Nat.le_succ _)⟩
    rcases List.mem_append.mp inside with inside | last
    · exact hosted.present entry inside
    · rw [List.mem_singleton.mp last]
      exact ⟨found, known⟩

/-- A response takes the request from the table, or the table stays. -/
theorem respond_cases (request : Handle) (size : Nat) : (∃ status, self.respond request size = (.error status, self)) ∨
      ∃ found, self.incoming.lookup request = some found ∧ self.respond request size =
          (.ok found.message, { self with incoming := HandleTable.remove request self.incoming }) := by
  unfold Transport.respond
  split
  · exact .inl ⟨_, rfl⟩
  · split
    · exact .inl ⟨_, rfl⟩
    · rename_i found known
      split
      · exact .inl ⟨_, rfl⟩
      · split
        · exact .inl ⟨_, rfl⟩
        · exact .inr ⟨found, known, rfl⟩

variable (hosted : self.Hosted)
include hosted

theorem Hosted.respond (request : Handle) (size : Nat) : (self.respond request size).2.Hosted := by
  rcases self.respond_cases request size with ⟨status, failed⟩ | ⟨found, _, answered⟩
  · rw [failed]
    exact hosted
  · rw [answered]
    exact hosted.keep (Nat.le_refl _) rfl List.filter_sublist (List.Subset.refl _)

/-- An empty answer takes its request from the table. -/
theorem Hosted.answered (request : Handle) : (self.respond request 0).2.incoming.lookup request = none := by
  unfold Transport.respond
  rw [if_neg (Nat.not_lt_zero _)]
  split
  · assumption
  · rename_i found known
    obtain ⟨endpoint, target⟩ := hosted.present _ (HandleTable.mem_of_lookup known)
    simp only [target, gt_iff_lt, Nat.not_lt_zero, if_false]
    exact HandleTable.lookup_remove_self

theorem not_mem_openRequests {request endpoint : Handle}
    (gone : self.incoming.lookup request = none) : (request, endpoint) ∉ self.openRequests := by
  intro inside
  obtain ⟨entry, found, same⟩ := List.mem_map.mp inside
  obtain ⟨rfl, rfl⟩ := Prod.mk.inj same
  rw [hosted.incoming.lookup_of_mem found] at gone
  cases gone

theorem Hosted.setHandler (endpoint : Handle) (handler : Option Nat) : (self.setHandler endpoint handler).2.Hosted := by
  unfold Transport.setHandler
  repeat' first
    | exact hosted
    | exact hosted.keep (Nat.le_refl _) rfl (.refl _) (List.Subset.refl _)
    | split

/-- An endpoint of a server without requests can be destroyed. -/
theorem Hosted.destroyed {handle : Handle}
    (known : self.endpoints.lookup handle = some found) (serves : found.serves = true)
    (free : ∀ item ∈ self.openRequests, item.2 ≠ handle) :
    ∃ handler, (self.endpointDestroy handle).1 = .ok handler := by
  have unused := hosted.clients.not_mem known serves
  simp only [Transport.clients, List.mem_append, List.mem_map, not_or, not_exists, not_and] at unused
  have idle : ∀ entry ∈ self.incoming, entry.2.endpoint ≠ handle := fun entry inside =>
    free _ (List.mem_map_of_mem inside)
  unfold Transport.endpointDestroy
  rw [if_neg, known]
  · exact ⟨_, rfl⟩
  · simp only [Bool.or_eq_true, List.any_eq_true, beq_iff_eq, not_or, not_exists, not_and]
    exact ⟨⟨unused.1, unused.2⟩, idle⟩

theorem Hosted.perform (operation : Operation) : (operation.perform self).Hosted := by
  cases operation with
  | start initialized =>
      simp only [Operation.perform, Transport.start]
      repeat' first
        | exact hosted
        | exact hosted.keep (Nat.le_refl _) rfl (.refl _) (List.Subset.refl _)
        | split
  | watchStart nativeMapping =>
      rcases self.watchStart_cases nativeMapping with ⟨status, failed⟩ | ⟨mapping, _, _, started⟩
      · simp only [Operation.perform, failed]
        exact hosted
      · simp only [Operation.perform, started]
        exact hosted.keep (Nat.le_succ _) rfl (.refl _) (List.Subset.refl _)
  | watchStop handle =>
      simp only [Operation.perform, Transport.watchStop]
      split
      · exact hosted
      · exact hosted.keep (Nat.le_refl _) rfl (.refl _) (List.Subset.refl _)
  | endpointCreate descriptor =>
      rcases self.endpointCreate_cases descriptor with ⟨status, failed⟩ | ⟨mapping, _, _, _, created⟩
      · simp only [Operation.perform, failed]
        exact hosted
      · simp only [Operation.perform, created]
        exact hosted.install _
  | endpointDestroy handle => exact hosted.endpointDestroy handle
  | subscribe endpoint => exact hosted.subscribe endpoint
  | unsubscribe handle => exact hosted.unsubscribe handle
  | request endpoint operation size deadline correlation =>
      exact hosted.request endpoint operation size deadline correlation
  | response correlation => exact hosted.response correlation
  | cancel operation => exact hosted.cancel operation
  | expire now => exact hosted.settle rfl rfl (.refl _) rfl (List.filter_subset_self _)
  | setHandler endpoint handler => exact hosted.setHandler endpoint handler
  | receive message => exact hosted.receive message
  | respond request size => exact hosted.respond request size

end Hosts

end Transport

/-- The operations on the requests and the handlers of the servers. -/
def Operation.serves : Operation → Bool
  | .endpointDestroy _ | .setHandler _ _ | .receive _ | .respond _ _ => true
  | _ => false

namespace Transport

/-- The other operations add no request. -/
structure Aside (before later : Transport) : Prop where
  incoming : later.incoming = before.incoming
  nextHandle : before.nextHandle ≤ later.nextHandle

variable (self : Transport)
include self

theorem Aside.refl : Aside self self := ⟨rfl, Nat.le_refl _⟩

theorem aside_perform (operation : Operation) (other : operation.serves = false) :
    Aside self (operation.perform self) := by
  cases operation with
  | endpointDestroy _ | setHandler _ _ | receive _ | respond _ _ => cases other
  | start initialized =>
      simp only [Operation.perform, Transport.start]
      repeat' first | exact .refl _ | exact ⟨rfl, Nat.le_refl _⟩ | split
  | watchStart nativeMapping =>
      simp only [Operation.perform, Transport.watchStart]
      repeat' first | exact .refl _ | exact ⟨rfl, Nat.le_succ _⟩ | split
  | watchStop handle =>
      simp only [Operation.perform, Transport.watchStop]
      repeat' first | exact .refl _ | exact ⟨rfl, Nat.le_refl _⟩ | split
  | endpointCreate descriptor =>
      simp only [Operation.perform, Transport.endpointCreate]
      repeat' first | exact .refl _ | exact ⟨rfl, Nat.le_succ _⟩ | split
  | subscribe endpoint =>
      simp only [Operation.perform, Transport.subscribe]
      repeat' first | exact .refl _ | exact ⟨rfl, Nat.le_succ _⟩ | split
  | unsubscribe handle =>
      simp only [Operation.perform, Transport.unsubscribe]
      repeat' first | exact .refl _ | exact ⟨rfl, Nat.le_refl _⟩ | split
  | request endpoint operation size deadline correlation =>
      simp only [Operation.perform, Transport.request]
      repeat' first | exact .refl _ | exact ⟨rfl, Nat.le_succ _⟩ | split
  | response correlation =>
      simp only [Operation.perform, Transport.response]
      repeat' first | exact .refl _ | exact ⟨rfl, Nat.le_refl _⟩ | split
  | cancel operation =>
      simp only [Operation.perform, Transport.cancel]
      repeat' first | exact .refl _ | exact ⟨rfl, Nat.le_refl _⟩ | split
  | expire now => exact ⟨rfl, Nat.le_refl _⟩

theorem aside_setHandler (endpoint : Handle) (handler : Option Nat) :
    Aside self (self.setHandler endpoint handler).2 := by
  unfold Transport.setHandler
  repeat' first | exact .refl _ | exact ⟨rfl, Nat.le_refl _⟩ | split

theorem aside_endpointDestroy (handle : Handle) : Aside self (self.endpointDestroy handle).2 := by
  unfold Transport.endpointDestroy
  repeat' first | exact .refl _ | exact ⟨rfl, Nat.le_refl _⟩ | split

theorem stop_requests : self.stop.2.openRequests ⊆ self.openRequests ∧ self.stop.2.nextHandle = self.nextHandle := by
  unfold Transport.stop
  split
  · exact ⟨List.Subset.refl _, rfl⟩
  · exact ⟨List.nil_subset _, rfl⟩

end Transport

namespace Server

/-- The task of a request has the object of its handler. The endpoint is the one that the table has for the
request. -/
structure Delivery where
  handler : Nat
  request : Handle
  endpoint : Handle
  deriving DecidableEq, Repr

def Delivery.item (delivery : Delivery) : Handle × Handle := (delivery.request, delivery.endpoint)

/-- A request arrives at the thread of the middleware, and the executor accepts its task or refuses it. A removed
handler is deactivated after the lock. -/
structure World where
  self : Transport
  objects : Nat := 0
  deactivating : List Nat := []
  inactive : List Nat := []
  arrived : List Delivery := []
  refused : List Delivery := []
  tasks : List Delivery := []
  invoked : List Delivery := []
  answered : List Handle := []

inductive Action where
  | receive (message : Message)
  | dispatch (index : Nat) (accepted : Bool)
  | answer (index : Nat)
  | run (index : Nat)
  | setHandler (endpoint : Handle) (installs : Bool)
  | deactivate (index : Nat)
  | respond (request : Handle) (size : Nat)
  | endpointDestroy (handle : Handle)
  | stop
  | other (operation : Operation)

namespace World

def waiting (world : World) : List (Handle × Handle) :=
  (world.arrived ++ (world.refused ++ world.tasks)).map Delivery.item

def respond (request : Handle) (size : Nat) (world : World) : World :=
  match world.self.respond request size with
  | (.error _, _) => world
  | (.ok _, self) => { world with self, answered := world.answered ++ [request] }

/-- The task of a request calls the handler when it is active. Otherwise it does nothing. -/
def perform : Action → World → Option World
  | .receive message, world =>
      match world.self.receive message with
      | (some (.ok (handler, request)), self) =>
          let endpoint := ((self.incoming.lookup request).map Incoming.endpoint).getD 0
          some { world with self, arrived := world.arrived ++ [⟨handler, request, endpoint⟩] }
      | _ => some world
  | .dispatch index accepted, world => world.arrived[index]?.map fun delivery =>
      { world with
        arrived := world.arrived.eraseIdx index
        refused := if accepted then world.refused else world.refused ++ [delivery]
        tasks := if accepted then world.tasks ++ [delivery] else world.tasks }
  | .answer index, world => world.refused[index]?.map fun delivery =>
      { world with refused := world.refused.eraseIdx index }.respond delivery.request 0
  | .run index, world => world.tasks[index]?.map fun delivery =>
      { world with
        tasks := world.tasks.eraseIdx index
        invoked := if delivery.handler ∈ world.inactive then world.invoked else world.invoked ++ [delivery] }
  | .setHandler endpoint installs, world =>
      match world.self.setHandler endpoint (if installs then some world.objects else none) with
      | (.error _, _) => some world
      | (.ok removed, self) => some { world with
          self, objects := world.objects + 1, deactivating := world.deactivating ++ removed.toList }
  | .deactivate index, world => world.deactivating[index]?.map fun handler =>
      { world with
        deactivating := world.deactivating.eraseIdx index
        inactive := world.inactive ++ [handler] }
  | .respond request size, world => some (world.respond request size)
  | .endpointDestroy handle, world =>
      match world.self.endpointDestroy handle with
      | (.error _, _) => some world
      | (.ok removed, self) => some { world with self, deactivating := world.deactivating ++ removed.toList }
  | .stop, world =>
      match world.self.stop with
      | (none, _) => some world
      | (some (_, handlers), self) => some { world with self, deactivating := world.deactivating ++ handlers }
  | .other operation, world =>
      if operation.serves then none else some { world with self := operation.perform world.self }

end World

def transport : Concurrency.System World Action := ⟨World.perform⟩

/-- A closed binding removes the handler of each method and destroys its endpoint, and then those of the events. -/
def close (methods events : List Handle) : List Action :=
  (methods.flatMap fun endpoint => [.setHandler endpoint false, .endpointDestroy endpoint]) ++
    events.map Action.endpointDestroy

/-- No task of a request that is in the table runs when its handler is inactive. -/
def Orderly (world : World) : Action → Prop
  | .run index => ∀ delivery, world.tasks[index]? = some delivery → delivery.handler ∈ world.inactive →
      world.self.incoming.lookup delivery.request = none
  | _ => True

instance (world : World) : ∀ action, Decidable (Orderly world action)
  | .run index => inferInstanceAs (Decidable (∀ delivery ∈ world.tasks[index]?, delivery.handler ∈ world.inactive →
      world.self.incoming.lookup delivery.request = none))
  | .receive _ | .dispatch _ _ | .answer _ | .setHandler _ _ | .deactivate _ | .respond _ _ | .endpointDestroy _ |
    .stop | .other _ => .isTrue trivial

/-- All requests that have arrived have been dispatched, and the tasks have run. -/
structure Rests (world : World) : Prop where
  arrived : world.arrived = []
  refused : world.refused = []
  tasks : world.tasks = []

/-- What the transport promises to its servers. -/
structure Served (world : World) : Prop where
  served : Rests world → ∀ item ∈ world.self.openRequests,
    item ∈ world.invoked.map Delivery.item ∧ item.1 ∉ world.answered
  destroyed : Rests world → ∀ handle found, world.self.endpoints.lookup handle = some found → found.serves = true →
    (∀ delivery ∈ world.invoked, delivery.endpoint = handle → delivery.request ∈ world.answered) →
    ∃ handler, (world.self.endpointDestroy handle).1 = .ok handler
  capacity : Rests world → (∀ delivery ∈ world.invoked, delivery.request ∈ world.answered) → world.self.incoming = []

/-- Each request of the table waits, or its handler was invoked and has not answered. -/
structure Kept (world : World) : Prop where
  hosted : world.self.Hosted
  custody : Custody Prod.fst world.self.openRequests world.waiting (world.invoked.map Delivery.item) world.answered
  issued : ∀ request ∈ world.answered, request < world.self.nextHandle

section Steps
variable {world later : World} {action : Action} {deactivating inactive : List Nat} {self : Transport} {objects : Nat}

/-- An operation that adds no request and keeps the waiting ones. -/
theorem Kept.keep (kept : Kept world) (hosted : self.Hosted)
    (requests : self.openRequests ⊆ world.self.openRequests) (nextHandle : world.self.nextHandle ≤ self.nextHandle) :
    Kept { world with self, objects, deactivating, inactive } where
  hosted := hosted
  custody := kept.custody.shrink requests
  issued request answered := Nat.lt_of_lt_of_le (kept.issued request answered) nextHandle

theorem Kept.aside (kept : Kept world) (hosted : self.Hosted) (aside : world.self.Aside self) :
    Kept { world with self, objects, deactivating, inactive } := by
  apply kept.keep hosted _ aside.nextHandle
  rw [Transport.openRequests, aside.incoming]
  exact List.Subset.refl _

theorem Kept.respond (kept : Kept world) (request : Handle) (size : Nat) : Kept (world.respond request size) := by
  unfold World.respond
  rcases world.self.respond_cases request size with ⟨status, failed⟩ | ⟨found, known, answered⟩
  · rw [failed]
    exact kept
  · rw [answered]
    refine ⟨?_, ?_, fun other known => ?_⟩
    · exact kept.hosted.keep (Nat.le_refl _) rfl List.filter_sublist (List.Subset.refl _)
    · apply kept.custody.answer (List.map_subset _ (List.filter_subset_self _))
      intro item inside
      obtain ⟨entry, remains, rfl⟩ := List.mem_map.mp inside
      exact (HandleTable.mem_remove.mp remains).2
    · rcases List.mem_append.mp known with known | last
      · exact kept.issued other known
      · rw [List.mem_singleton.mp last]
        exact kept.hosted.incoming.below _ (HandleTable.mem_of_lookup ‹_›)

theorem Kept.receive (kept : Kept world) (message : Message)
    (performed : world.perform (.receive message) = some later) : Kept later := by
  have hosted := kept.hosted.receive message
  simp only [World.perform] at performed
  rcases Transport.receive_cases kept.hosted.endpoints message with
    ⟨result, ignored, other⟩ | ⟨handler, endpoint, found, _, entered⟩
  · rw [ignored] at performed
    split at performed
    · rename_i same
      exact absurd (congrArg Prod.fst same) (other _)
    · cases performed
      exact kept
  · rw [entered] at performed hosted
    cases performed
    have target : (world.self.incoming ++ [(world.self.nextHandle, Incoming.mk message endpoint)]).lookup
        world.self.nextHandle = some ⟨message, endpoint⟩ := kept.hosted.incoming.lookup_added
    refine ⟨hosted, ?_, fun request answered => Nat.lt_succ_of_lt (kept.issued request answered)⟩
    have fresh : world.self.nextHandle ∉ world.answered := fun answered => Nat.lt_irrefl _ (kept.issued _ answered)
    have custody := @Custody.enter _ _ _ _ _ _ _ (world.self.nextHandle, endpoint) kept.custody fresh
    simp only [target, Option.map_some, Option.getD_some]
    rw [Transport.openRequests, List.map_append]
    apply custody.move
    intro item waits
    simp only [World.waiting, List.map_append, List.map_cons, List.map_nil, List.mem_append, List.mem_cons,
      Delivery.item] at waits ⊢
    tauto

variable {delivery : Delivery} {index : Nat}

theorem Kept.answer (kept : Kept world) (found : world.refused[index]? = some delivery) :
    Kept (World.respond delivery.request 0 { world with refused := world.refused.eraseIdx index }) := by
  obtain ⟨hosted, custody, issued⟩ := kept.respond delivery.request 0
  have gone := kept.hosted.answered delivery.request
  have waits : world.waiting ⊆
      delivery.item :: World.waiting { world with refused := world.refused.eraseIdx index } := by
    intro item waits
    simp only [World.waiting, List.map_append, List.mem_append, List.mem_cons] at waits ⊢
    rcases waits with arrived | refused | tasks
    · exact .inr (.inl arrived)
    · exact (mem_map_eraseIdx found refused).imp_right fun remains => .inr (.inl remains)
    · exact .inr (.inr (.inr tasks))
  simp only [World.respond] at hosted custody issued ⊢
  rcases world.self.respond_cases delivery.request 0 with ⟨status, failed⟩ | ⟨message, known, answered⟩
  · rw [failed] at hosted custody issued gone ⊢
    exact ⟨hosted, custody.settle waits (Transport.not_mem_openRequests hosted gone), issued⟩
  · rw [answered] at hosted custody issued gone ⊢
    exact ⟨hosted, custody.settle waits (Transport.not_mem_openRequests hosted gone), issued⟩

theorem Kept.run (kept : Kept world) (found : world.tasks[index]? = some delivery)
    (orderly : delivery.handler ∈ world.inactive → world.self.incoming.lookup delivery.request = none) :
    Kept { world with
      tasks := world.tasks.eraseIdx index
      invoked := if delivery.handler ∈ world.inactive then world.invoked else world.invoked ++ [delivery] } := by
  have waits : world.waiting ⊆
      delivery.item :: World.waiting { world with tasks := world.tasks.eraseIdx index } := by
    intro item waits
    simp only [World.waiting, List.map_append, List.mem_append, List.mem_cons] at waits ⊢
    rcases waits with arrived | refused | tasks
    · exact .inr (.inl arrived)
    · exact .inr (.inr (.inl refused))
    · exact (mem_map_eraseIdx found tasks).imp_right fun remains => .inr (.inr remains)
  refine ⟨kept.hosted, ?_, kept.issued⟩
  by_cases removed : delivery.handler ∈ world.inactive
  · rw [if_pos removed]
    exact kept.custody.settle waits (Transport.not_mem_openRequests kept.hosted (orderly removed))
  · rw [if_neg removed, List.map_append]
    exact kept.custody.invoke waits

theorem Kept.perform (kept : Kept world) (orderly : Orderly world action)
    (performed : world.perform action = some later) : Kept later := by
  cases action with
  | receive message => exact kept.receive message performed
  | dispatch index accepted =>
      obtain ⟨delivery, found, rfl⟩ := Option.map_eq_some_iff.mp performed
      refine ⟨kept.hosted, kept.custody.move ?_, kept.issued⟩
      intro item waits
      simp only [World.waiting, List.map_append, List.mem_append] at waits
      have moved := @mem_map_eraseIdx _ _ Delivery.item _ _ _ found item
      cases accepted
      all_goals
        simp only [World.waiting, List.map_append, List.map_cons, List.map_nil, List.mem_append, List.mem_singleton,
          if_true, Bool.false_eq_true, if_false]
        tauto
  | answer index =>
      obtain ⟨delivery, found, rfl⟩ := Option.map_eq_some_iff.mp performed
      exact kept.answer found
  | run index =>
      obtain ⟨delivery, found, rfl⟩ := Option.map_eq_some_iff.mp performed
      exact kept.run found (orderly delivery found)
  | setHandler endpoint installs =>
      have hosted := kept.hosted.setHandler endpoint (if installs then some world.objects else none)
      have aside := world.self.aside_setHandler endpoint (if installs then some world.objects else none)
      simp only [World.perform] at performed
      split at performed
      · cases performed
        exact kept
      · rename_i result
        cases performed
        rw [result] at hosted aside
        exact kept.aside hosted aside
  | deactivate index =>
      obtain ⟨handler, found, rfl⟩ := Option.map_eq_some_iff.mp performed
      exact kept.aside kept.hosted (.refl _)
  | respond request size =>
      cases performed
      exact kept.respond request size
  | endpointDestroy handle =>
      have hosted := kept.hosted.endpointDestroy handle
      have aside := world.self.aside_endpointDestroy handle
      simp only [World.perform] at performed
      split at performed
      · cases performed
        exact kept
      · rename_i result
        cases performed
        rw [result] at hosted aside
        exact kept.aside hosted aside
  | stop =>
      have hosted := kept.hosted.stop
      obtain ⟨fewer, same⟩ := world.self.stop_requests
      simp only [World.perform] at performed
      split at performed
      · cases performed
        exact kept
      · rename_i result
        cases performed
        rw [result] at hosted fewer same
        exact kept.keep hosted fewer same.ge
  | other operation =>
      simp only [World.perform] at performed
      split at performed
      · cases performed
      · rename_i quiet
        cases performed
        exact kept.aside (kept.hosted.perform operation)
          (world.self.aside_perform operation (Bool.eq_false_iff.mpr quiet))

end Steps

section Runs
variable {world : World}

def started (maxEndpoints maxOperations : Nat) : World := { self := fresh maxEndpoints maxOperations }

theorem kept_of_reaches {maxEndpoints maxOperations : Nat}
    (reached : transport.Reaches Orderly (started maxEndpoints maxOperations) world) : Kept world := by
  apply reached.invariant
  · exact ⟨⟨.empty, .empty, nofun, .none⟩, .empty, nofun⟩
  · intro before action later kept orderly performed
    exact kept.perform orderly performed

theorem waiting_of_rests (rests : Rests world) : world.waiting = [] := by
  rw [World.waiting, rests.arrived, rests.refused, rests.tasks]
  rfl

theorem Kept.served (kept : Kept world) : Served world := by
  have served (rests : Rests world) : ∀ item ∈ world.self.openRequests,
      item ∈ world.invoked.map Delivery.item ∧ item.1 ∉ world.answered := (waiting_of_rests rests ▸ kept.custody).served
  refine ⟨served, fun rests handle found known serves answered => ?_, fun rests answered => ?_⟩
  · apply kept.hosted.destroyed known serves
    intro item inside same
    obtain ⟨invoked, unanswered⟩ := served rests item inside
    obtain ⟨delivery, listed, rfl⟩ := List.mem_map.mp invoked
    exact unanswered (answered delivery listed same)
  · apply List.map_eq_nil_iff.mp
    apply List.eq_nil_iff_forall_not_mem.mpr
    intro item inside
    obtain ⟨invoked, unanswered⟩ := served rests item inside
    obtain ⟨delivery, listed, rfl⟩ := List.mem_map.mp invoked
    exact unanswered (answered delivery listed)

end Runs

def methodServer : Descriptor where
  kind := .methodServer
  maxPayloadSize := 1024
  historyDepth := 0
  requiredFeatures := Feature.methods
  nativeMapping := "service=4660;instance=1;element=1;eventGroup=0;major=1;minor=0;kind=method;reliable=true".toList

/-- A request arrives, and its task waits. -/
def dispatched : List Action :=
  [.other (.start true), .other (.endpointCreate methodServer), .setHandler 1 true, .receive ⟨4660, 1, 1, false⟩,
    .dispatch 0 true]

/-- The task calls the handler. -/
def called : List Action := dispatched ++ [.run 0]

/-- The binding closes between the dispatch of a request and its task. -/
def closedEarly : List Action := dispatched ++ close [1] [] ++ [.deactivate 0, .run 0]

/-- The task has dropped its request, and the request keeps its endpoint. -/
theorem exists_orphan : ∃ world, transport.Reaches (fun _ _ => True) (started 128 128) world ∧ Rests world ∧
    world.invoked = [] ∧ world.self.openRequests = [(2, 1)] := by
  have executed : (transport.run (fun _ _ => true) (closedEarly.map fun action _ => action) (started 128 128)).any
      (fun world => decide (world.arrived = [] ∧ world.refused = [] ∧ world.tasks = [] ∧ world.invoked = [] ∧
        world.self.openRequests = [(2, 1)])) = true := by
    decide
  obtain ⟨world, reached, ended⟩ := Concurrency.System.Reaches.exists_of_run _ (fun _ _ _ => trivial) _ _ executed
  obtain ⟨arrived, refused, tasks, invoked, requests⟩ := of_decide_eq_true ended
  exact ⟨world, reached, ⟨arrived, refused, tasks⟩, invoked, requests⟩

end Server

end OpenVehicle.Com.Vsomeip
