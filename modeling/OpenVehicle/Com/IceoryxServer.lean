/-
This file proves when the shared-memory transport loses no request of its servers. The receive loop, the tasks, the
removal of the callbacks and the closing of the bindings take their locked sections in any order.
-/

import OpenVehicle.Com.IceoryxCompletion
import OpenVehicle.Com.VsomeipServer

namespace OpenVehicle.Com

/-- A response with such a status has taken its request, whether it was sent or not. -/
def Status.takesRequest : Status → Bool
  | .ok | .resourceExhausted | .transportError => true
  | _ => false

namespace Iceoryx

open Concurrency (Custody mem_map_eraseIdx)
open Data (HandleTable)

variable {world later : World} {endpoint : Handle} {found : Endpoint} {handle : Handle} {action : Action}

namespace Transport
variable {self later : Transport} {busy : List Handle}

/-- The requests that have no response, each with its endpoint. -/
def openRequests (self : Transport) : List (Handle × Handle) :=
  self.activeRequests.map fun entry => (entry.1, entry.2.endpoint)

/-- The requests whose response is loaned, each with its endpoint. -/
def loanedRequests (self : Transport) : List (Handle × Handle) :=
  self.responseLoans.map fun entry => (entry.2.request, entry.2.endpoint)

/-- The endpoints that subscriptions, loans and operations name. -/
def clients (self : Transport) : List Handle :=
  self.subscriptions.map Prod.snd ++ (self.loans.map Prod.snd ++
    (self.requestLoans.map (·.2.endpoint) ++ self.pending.map (·.2.endpoint)))

/-- Each request has its endpoint and one place, and no client is an endpoint of a server. The busy endpoints are
those of the calls that are between two locks. -/
structure Hosted (busy : List Handle) (transport : Transport) : Prop where
  requests : transport.activeRequests.Ordered transport.nextHandle
  endpoints : transport.endpoints.Ordered transport.nextHandle
  present : ∀ entry ∈ transport.activeRequests, ∃ found, transport.endpoints.lookup entry.2.endpoint = some found
  loaned : ∀ entry ∈ transport.responseLoans, entry.2.request < transport.nextHandle ∧
    transport.activeRequests.lookup entry.2.request = none
  distinct : (transport.responseLoans.map (·.2.request)).Nodup
  clients : HandleTable.Apart Endpoint.server transport.nextHandle transport.endpoints (busy ++ transport.clients)

/-- Nothing is hosted without endpoints. -/
theorem Hosted.none (endpoints : self.endpoints = []) (requests : self.activeRequests = [])
    (loans : self.responseLoans = []) (clients : ∀ handle ∈ busy ++ self.clients, handle < self.nextHandle) :
    self.Hosted busy where
  requests := requests ▸ .empty
  endpoints := endpoints ▸ .empty
  present entry found := absurd (requests ▸ found) List.not_mem_nil
  loaned entry found := absurd (loans ▸ found) List.not_mem_nil
  distinct := loans ▸ .nil
  clients handle named := ⟨clients handle named, fun found known => by
    rw [endpoints] at known
    cases known⟩

/-- An operation that keeps the endpoints and adds no request and no client. -/
theorem Hosted.keep (hosted : self.Hosted busy) {left : List Handle} (nextHandle : self.nextHandle ≤ later.nextHandle)
    (endpoints : later.endpoints = self.endpoints) (requests : later.activeRequests = self.activeRequests)
    (loans : later.responseLoans.Sublist self.responseLoans)
    (clients : left ++ later.clients ⊆ busy ++ self.clients) : later.Hosted left where
  requests := requests ▸ hosted.requests.mono nextHandle
  endpoints := endpoints ▸ hosted.endpoints.mono nextHandle
  present := by
    rw [endpoints, requests]
    exact hosted.present
  loaned entry found := by
    rw [requests]
    exact (hosted.loaned entry (loans.subset found)).imp_left fun below => Nat.lt_of_lt_of_le below nextHandle
  distinct := hosted.distinct.sublist (loans.map _)
  clients := endpoints ▸ (hosted.clients.mono nextHandle).subset clients

/-- An operation for a client may keep an endpoint of a client busy. -/
theorem Hosted.use (hosted : self.Hosted busy)
    (known : self.endpoints.lookup endpoint = some found) (kind : found.server = false) :
    self.Hosted (endpoint :: busy) :=
  { hosted with clients := hosted.clients.use hosted.endpoints known kind }

theorem Hosted.endpointCreate (hosted : self.Hosted busy) (endpoint : Endpoint) :
    (self.endpointCreate endpoint).2.Hosted busy := by
  unfold Transport.endpointCreate
  split
  · exact hosted
  · refine ⟨hosted.requests.mono (Nat.le_succ _), hosted.endpoints.add, fun entry found => ?_,
      fun entry found => ?_, hosted.distinct, hosted.clients.push⟩
    · obtain ⟨target, known⟩ := hosted.present entry found
      exact ⟨target, hosted.endpoints.lookup_add known⟩
    · exact (hosted.loaned entry found).imp_left Nat.lt_succ_of_lt

/-- A destroyed endpoint has no request. -/
theorem Hosted.endpointDestroy (hosted : self.Hosted busy) (handle : Handle) :
    (self.endpointDestroy handle).2.Hosted busy := by
  unfold Transport.endpointDestroy
  split
  · exact hosted
  · rename_i free
    split
    · exact hosted
    · simp only [keeps, Bool.or_eq_true, not_or, List.any_eq_true, beq_iff_eq, not_exists, not_and] at free
      refine ⟨hosted.requests, hosted.endpoints.remove, fun entry found => ?_, hosted.loaned, hosted.distinct,
        hosted.clients.remove⟩
      obtain ⟨endpoint, known⟩ := hosted.present entry found
      exact ⟨endpoint, (HandleTable.lookup_remove_ne (free.2 entry found)).trans known⟩

theorem not_server {endpoint : Endpoint} {kind : EndpointKind} (known : endpoint.kind = kind)
    (other : kind ≠ .methodServer) : endpoint.server = false := beq_eq_false_iff_ne.mpr (known ▸ other)

/-- An endpoint of a server that nobody needs can be destroyed. -/
theorem Hosted.destroyed (hosted : self.Hosted busy)
    (known : self.endpoints.lookup handle = some found) (serves : found.server = true)
    (free : ∀ item ∈ self.openRequests ++ self.loanedRequests, item.2 ≠ handle) :
    (self.endpointDestroy handle).1 = .ok := by
  have unused := hosted.clients.not_mem known serves
  simp only [Transport.clients, List.mem_append, List.mem_map, not_or, not_exists, not_and] at unused
  obtain ⟨_, subscriptions, loans, requestLoans, pending⟩ := unused
  have idle : ∀ entry ∈ self.activeRequests, entry.2.endpoint ≠ handle := fun entry inside =>
    free _ (List.mem_append_left _ (List.mem_map_of_mem inside))
  have given : ∀ entry ∈ self.responseLoans, entry.2.endpoint ≠ handle := fun entry inside =>
    free _ (List.mem_append_right _ (List.mem_map_of_mem inside))
  unfold Transport.endpointDestroy
  rw [if_neg, known]
  simp only [keeps, Bool.or_eq_true, List.any_eq_true, beq_iff_eq, not_or, not_exists, not_and]
  exact ⟨⟨⟨⟨⟨subscriptions, loans⟩, requestLoans⟩, given⟩, pending⟩, idle⟩

/-- A response takes the request from the table, or the table stays. -/
theorem respond_cases (request : Handle) (size : Nat) (loaned sent : Bool) :
    (∃ status, self.respond request size loaned sent = (status, self) ∧ status.takesRequest = false) ∨
      ∃ status found, self.activeRequests.lookup request = some found ∧ status.takesRequest = true ∧
        self.respond request size loaned sent =
          (status, { self with activeRequests := HandleTable.remove request self.activeRequests }) := by
  unfold Transport.respond
  split
  · exact .inl ⟨_, rfl, rfl⟩
  · split
    · exact .inl ⟨_, rfl, rfl⟩
    · rename_i found known _ _ _
      split
      · exact .inl ⟨_, rfl, rfl⟩
      · refine .inr ⟨_, found, known, ?_, rfl⟩
        split
        · rfl
        · split <;> rfl

/-- A request leaves the table. -/
theorem Hosted.remove (hosted : self.Hosted busy) (request : Handle) :
    Hosted busy { self with activeRequests := HandleTable.remove request self.activeRequests } := by
  refine ⟨hosted.requests.remove, hosted.endpoints, fun entry found => ?_, fun entry found => ?_, hosted.distinct,
    hosted.clients⟩
  · exact hosted.present entry (HandleTable.mem_remove.mp found).1
  · obtain ⟨below, gone⟩ := hosted.loaned entry found
    refine ⟨below, ?_⟩
    by_cases same : entry.2.request = request
    · rw [same]
      exact HandleTable.lookup_remove_self
    · exact (HandleTable.lookup_remove_ne same).trans gone

/-- An empty answer takes its request from the table. -/
theorem Hosted.answered (hosted : self.Hosted busy) (request : Handle) (loaned sent : Bool) :
    (self.respond request 0 loaned sent).2.activeRequests.lookup request = Option.none := by
  unfold Transport.respond
  split
  · assumption
  · rename_i found known
    obtain ⟨endpoint, target⟩ := hosted.present _ (HandleTable.mem_of_lookup known)
    simp only [target, gt_iff_lt, Nat.not_lt_zero, if_false]
    exact HandleTable.lookup_remove_self

/-- A request enters the table with the endpoint of its server. -/
theorem enterRequest_cases (endpoint : Handle) : self.enterRequest endpoint = (none, self) ∨
    self.enterRequest endpoint = (some self.nextHandle, { self with
      nextHandle := self.nextHandle + 1
      activeRequests := self.activeRequests ++ [(self.nextHandle, ⟨endpoint⟩)] }) := by
  unfold Transport.enterRequest
  split
  · exact .inl rfl
  · exact .inr rfl

theorem Hosted.enter (hosted : self.Hosted busy)
    (known : self.endpoints.lookup endpoint = some found) : Hosted busy { self with
      nextHandle := self.nextHandle + 1
      activeRequests := self.activeRequests ++ [(self.nextHandle, ⟨endpoint⟩)] } := by
  refine ⟨hosted.requests.add, hosted.endpoints.mono (Nat.le_succ _), fun entry inside => ?_, fun entry inside => ?_,
    hosted.distinct, hosted.clients.mono (Nat.le_succ _)⟩
  · rcases List.mem_append.mp inside with inside | last
    · exact hosted.present entry inside
    · rw [List.mem_singleton.mp last]
      exact ⟨found, known⟩
  · obtain ⟨below, gone⟩ := hosted.loaned entry inside
    exact ⟨Nat.lt_succ_of_lt below, (HandleTable.lookup_push (Nat.ne_of_lt below)).trans gone⟩

/-- A response loan moves its request out of the table. -/
theorem responseLoanAcquire_cases (request : Handle) (size : Nat) (loaned : Bool) :
    (∃ status, self.responseLoanAcquire request size loaned = (.error status, self)) ∨
      ∃ found, self.activeRequests.lookup request = some found ∧
        self.responseLoanAcquire request size loaned = (.ok self.nextHandle, { self with
          nextHandle := self.nextHandle + 1
          responseLoans := self.responseLoans ++ [(self.nextHandle, ⟨found.endpoint, size, request⟩)]
          activeRequests := HandleTable.remove request self.activeRequests }) := by
  unfold Transport.responseLoanAcquire
  repeat' first | exact .inl ⟨_, rfl⟩ | exact .inr ⟨_, ‹_›, rfl⟩ | split

theorem Hosted.lend (hosted : self.Hosted busy) {request : Handle} {found : ActiveRequest} {size : Nat}
    (known : self.activeRequests.lookup request = some found) : Hosted busy { self with
      nextHandle := self.nextHandle + 1
      responseLoans := self.responseLoans ++ [(self.nextHandle, ⟨found.endpoint, size, request⟩)]
      activeRequests := HandleTable.remove request self.activeRequests } := by
  have removed := hosted.remove request
  have below := hosted.requests.below _ (HandleTable.mem_of_lookup known)
  refine ⟨removed.requests.mono (Nat.le_succ _), removed.endpoints.mono (Nat.le_succ _), removed.present,
    fun entry inside => ?_, ?_, removed.clients.mono (Nat.le_succ _)⟩
  · rcases List.mem_append.mp inside with inside | last
    · exact (removed.loaned entry inside).imp_left Nat.lt_succ_of_lt
    · rw [List.mem_singleton.mp last]
      exact ⟨Nat.lt_succ_of_lt below, HandleTable.lookup_remove_self⟩
  · rw [List.map_append, List.map_singleton]
    refine List.Nodup.append hosted.distinct (List.nodup_singleton _) ?_
    intro other inside last
    obtain ⟨entry, listed, rfl⟩ := List.mem_map.mp inside
    have same : entry.2.request = request := List.mem_singleton.mp last
    have gone := (hosted.loaned entry listed).2
    rw [same, known] at gone
    cases gone

/-- A loan leaves its table. -/
theorem Hosted.giveBack (hosted : self.Hosted busy) (loan : Handle) :
    Hosted busy { self with responseLoans := HandleTable.remove loan self.responseLoans } :=
  hosted.keep (Nat.le_refl _) rfl rfl List.filter_sublist (List.Subset.refl _)

theorem responseLoanSend_cases (request loan : Handle) (used : Nat) (sent : Bool) :
    (∃ status, self.responseLoanSend request loan used sent = (status, self) ∧ status.takesRequest = false) ∨
      ∃ status found, self.responseLoans.lookup loan = some found ∧ found.request = request ∧
        status.takesRequest = true ∧ self.responseLoanSend request loan used sent =
          (status, { self with responseLoans := HandleTable.remove loan self.responseLoans }) := by
  unfold Transport.responseLoanSend
  split
  · exact .inl ⟨_, rfl, rfl⟩
  · rename_i found known
    split
    · exact .inl ⟨_, rfl, rfl⟩
    · rename_i fits
      simp only [not_or, not_not] at fits
      refine .inr ⟨_, found, known, fits.2, ?_, rfl⟩
      split <;> rfl

/-- The other operations move no request of a server. -/
structure Aside (before later : Transport) : Prop where
  requests : later.activeRequests = before.activeRequests
  loans : later.responseLoans = before.responseLoans
  nextHandle : before.nextHandle ≤ later.nextHandle

theorem Aside.refl (self : Transport) : Aside self self := ⟨rfl, rfl, Nat.le_refl _⟩

end Transport

/-- The actions on the requests and the endpoints of the servers. -/
def Action.serves : Action → Bool
  | .endpointDestroy _ | .loanRelease _ | .join => true
  | _ => false

/-- The endpoints of the calls of the clients that are between two locks. -/
def World.busy (world : World) : List Handle :=
  world.requesting.map Requesting.endpoint ++ world.sending.map Pending.endpoint

section Clients
variable {extra : List Handle}

/-- A call that leaves its list names no other endpoint. -/
theorem busy_eraseIdx {A : Type} {key : A → Handle} {list : List A} (index : Nat) :
    (list.eraseIdx index).map key ⊆ list.map key := List.map_subset _ List.eraseIdx_subset

/-- A call takes an endpoint that is not one of a server. -/
theorem requestLoanAcquire_users (hosted : world.self.Hosted (extra ++ world.busy)) (endpoint : Handle)
    (size deadline now : Nat) (loaned : Bool) :
    (world.self.requestLoanAcquire endpoint size deadline now loaned).2.Hosted (extra ++ world.busy) ∧
      world.self.Aside (world.self.requestLoanAcquire endpoint size deadline now loaned).2 := by
  unfold Transport.requestLoanAcquire
  split
  · exact ⟨hosted, .refl _⟩
  · rename_i found known
    split
    · exact ⟨hosted, .refl _⟩
    · rename_i fits
      split
      · exact ⟨hosted, .refl _⟩
      · split
        · exact ⟨hosted, .refl _⟩
        · split
          · exact ⟨hosted, .refl _⟩
          · split
            · exact ⟨hosted, .refl _⟩
            · have client : found.kind = .methodClient := by
                simpa [Endpoint.client] using (not_or.mp fits).1
              refine ⟨(hosted.use known (Transport.not_server client nofun)).keep (Nat.le_succ _) rfl rfl (.refl _) ?_,
                rfl, rfl, Nat.le_succ _⟩
              intro handle named
              simp only [Transport.clients, List.map_append, List.map_cons, List.map_nil, List.mem_append,
                List.mem_cons] at named ⊢
              tauto

/-- A step that keeps the tables of the servers and names no other endpoint. -/
theorem hosted_keep (hosted : world.self.Hosted (extra ++ world.busy))
    (endpoints : later.self.endpoints = world.self.endpoints) (aside : world.self.Aside later.self)
    (users : later.busy ++ later.self.clients ⊆ world.busy ++ world.self.clients) :
    later.self.Hosted (extra ++ later.busy) ∧ world.self.Aside later.self := by
  refine ⟨hosted.keep aside.nextHandle endpoints aside.requests (aside.loans ▸ List.Sublist.refl _) ?_, aside⟩
  rw [List.append_assoc, List.append_assoc]
  exact List.append_subset.mpr ⟨List.subset_append_left _ _, List.Subset.trans users (List.subset_append_right _ _)⟩

theorem users_fewer (busy : later.busy ⊆ world.busy) (clients : later.self.clients ⊆ world.self.clients) :
    later.busy ++ later.self.clients ⊆ world.busy ++ world.self.clients :=
  List.append_subset.mpr ⟨List.Subset.trans busy (List.subset_append_left _ _),
    List.Subset.trans clients (List.subset_append_right _ _)⟩

variable {self : Transport}

/-- Fewer pending operations name fewer endpoints. -/
theorem clients_pending (operation : Handle) :
    Transport.clients { self with pending := HandleTable.remove operation self.pending } ⊆ self.clients := by
  intro handle named
  simp only [Transport.clients, List.mem_append] at named ⊢
  exact named.imp_right (·.imp_right (·.imp_right (HandleTable.map_remove_subset _ _ ·)))

/-- A sent operation names the endpoint of the call that has sent it. -/
theorem hosted_enter (hosted : world.self.Hosted (extra ++ world.busy)) {operation : Pending}
    (self : later.self = (world.self.requestLoanEnter operation).2) (named : operation.endpoint ∈ world.busy)
    (busy : later.busy ⊆ world.busy) : later.self.Hosted (extra ++ later.busy) ∧ world.self.Aside later.self := by
  refine hosted_keep hosted (by rw [self]; rfl) (by rw [self]; exact ⟨rfl, rfl, Nat.le_succ _⟩) ?_
  refine List.append_subset.mpr ⟨List.Subset.trans busy (List.subset_append_left _ _), ?_⟩
  rw [self]
  intro handle listed
  simp only [Transport.requestLoanEnter, Transport.clients, List.map_append, List.map_cons, List.map_nil,
    List.mem_append, List.mem_singleton] at listed ⊢
  rcases listed with subscribes | lends | loans | pends | rfl
  · exact .inr (.inl subscribes)
  · exact .inr (.inr (.inl lends))
  · exact .inr (.inr (.inr (.inl loans)))
  · exact .inr (.inr (.inr (.inr pends)))
  · exact .inl named

theorem requestFind_ok (finds : self.requestFind endpoint = .ok found) :
    self.endpoints.lookup endpoint = some found ∧ found.server = false := by
  unfold Transport.requestFind at finds
  split at finds
  · cases finds
  · rename_i target known
    split at finds
    · cases finds
    · rename_i kind
      split at finds
      · cases finds
      · obtain rfl := Except.ok.inj finds
        have client : target.kind = .methodClient := by simpa [Endpoint.client] using kind
        exact ⟨known, Transport.not_server client nofun⟩

theorem hosted_client (hosted : world.self.Hosted (extra ++ world.busy))
    (other : action.serves = false) (performed : world.perform action = some later) :
    later.self.Hosted (extra ++ later.busy) ∧ world.self.Aside later.self := by
  have idle {next : World} (self : next.self = world.self) (busy : next.busy ⊆ world.busy) :
      next.self.Hosted (extra ++ next.busy) ∧ world.self.Aside next.self := by
    refine hosted_keep hosted (by rw [self]) (by rw [self]; exact .refl _) (users_fewer busy ?_)
    rw [self]
    exact List.Subset.refl _
  have unsending (index : Nat) : World.busy { world with sending := world.sending.eraseIdx index } ⊆ world.busy := by
    have fewer := @busy_eraseIdx _ Pending.endpoint world.sending index
    intro handle named
    simp only [World.busy, List.mem_append] at named ⊢
    exact named.imp_right (fewer ·)
  have unasking (index : Nat) :
      World.busy { world with requesting := world.requesting.eraseIdx index } ⊆ world.busy := by
    have fewer := @busy_eraseIdx _ Requesting.endpoint world.requesting index
    intro handle named
    simp only [World.busy, List.mem_append] at named ⊢
    exact named.imp_left (fewer ·)
  cases move_of_perform performed with
  | endpointDestroy | loanRelease | join => cases other
  | endpointCreate endpoint =>
      refine ⟨hosted.endpointCreate endpoint, ?_⟩
      unfold Transport.endpointCreate
      split
      · exact .refl _
      · exact ⟨rfl, rfl, Nat.le_succ _⟩
  | requestLoanAcquire endpoint size deadline now loaned =>
      exact requestLoanAcquire_users hosted endpoint size deadline now loaned
  | stay | refuse | run => exact ⟨hosted, .refl _⟩
  | take known =>
      refine hosted_keep hosted rfl ⟨rfl, rfl, Nat.le_refl _⟩ ?_
      have named := List.mem_map_of_mem (f := fun entry => entry.2.endpoint) (HandleTable.mem_of_lookup known)
      intro handle listed
      simp only [World.busy, World.begin, Transport.clients, List.map_append, List.map_cons, List.map_nil,
        List.mem_append, List.mem_singleton] at listed ⊢
      rcases listed with (asks | sends | rfl) | subscribes | lends | loans | pends
      · exact .inl (.inl asks)
      · exact .inl (.inr sends)
      · exact .inr (.inr (.inr (.inl named)))
      · exact .inr (.inl subscribes)
      · exact .inr (.inr (.inl lends))
      · exact .inr (.inr (.inr (.inl (HandleTable.map_remove_subset _ _ loans))))
      · exact .inr (.inr (.inr (.inr pends)))
  | unsent found => exact idle rfl (unsending _)
  | enter found =>
      have named := List.mem_map_of_mem (f := Pending.endpoint) (List.mem_of_getElem? found)
      exact hosted_enter hosted rfl (List.mem_append_right _ named) (unsending _)
  | request size deadline finds =>
      obtain ⟨known, kind⟩ := requestFind_ok finds
      refine ⟨(hosted.use known kind).keep (Nat.le_refl _) rfl rfl (.refl _) ?_, .refl _⟩
      intro handle named
      simp only [World.busy, World.begin, List.map_append, List.map_cons, List.map_nil, List.mem_append,
        List.mem_cons] at named ⊢
      tauto
  | unrequested found => exact idle rfl (unasking _)
  | send found =>
      have named := List.mem_map_of_mem (f := Requesting.endpoint) (List.mem_of_getElem? found)
      exact hosted_enter hosted rfl (List.mem_append_left _ named) (unasking _)
  | cancel | receive =>
      exact hosted_keep hosted rfl ⟨rfl, rfl, Nat.le_refl _⟩ (users_fewer (List.Subset.refl _) (clients_pending _))
  | turn | stop | finish => exact hosted_keep hosted rfl ⟨rfl, rfl, Nat.le_refl _⟩ (List.Subset.refl _)
  | completeCancelled dispatched | completeReceived dispatched | completeStopped dispatched =>
      cases dispatched <;> exact idle rfl (List.Subset.refl _)

end Clients

namespace Server

/-- The task of a request and the endpoint that the receive loop has entered it for. -/
structure Delivery where
  request : Handle
  endpoint : Handle
  deriving DecidableEq, Repr

def Delivery.item (delivery : Delivery) : Handle × Handle := (delivery.request, delivery.endpoint)

/-- The receive loop visits the servers that it has listed before it visits its operations. -/
inductive Loop where
  | serving (servers : List Handle)
  | received (endpoint : Handle) (servers : List Handle)
  | entered (delivery : Delivery) (servers : List Handle)
  | refused (delivery : Delivery) (servers : List Handle)
  deriving DecidableEq, Repr

/-- The publishers and the subscribers share the tables with the servers. -/
inductive Operation where
  | subscribe (endpoint : Handle)
  | unsubscribe (handle : Handle)
  | receiveSample
  | loanPublish (endpoint loan : Handle) (whole sent : Bool)

def Operation.perform : Operation → Transport → Transport
  | .subscribe endpoint, self => (self.subscribe endpoint).2
  | .unsubscribe handle, self => (self.unsubscribe handle).2
  | .receiveSample, self => self.receiveSample
  | .loanPublish endpoint loan whole sent, self => (self.loanPublish endpoint loan whole sent).2

/-- A callback is set and cleared under the gate of its endpoint, after the lock of the transport. A loan of a
publisher is between its two locks. -/
structure World where
  client : Iceoryx.World
  callbacks : List Handle := []
  setting : List (Handle × Bool) := []
  clearing : List Handle := []
  lending : List Handle := []
  loop : Loop := .serving []
  tasks : List Delivery := []
  invoked : List Delivery := []
  answered : List Handle := []

inductive Action where
  | client (action : Iceoryx.Action)
  | other (operation : Operation)
  | loanFind (endpoint : Handle)
  | loanEnter (index : Nat) (loaned : Bool)
  | endpointDestroy (handle : Handle)
  | join
  | clear (index : Nat)
  | setHandler (endpoint : Handle) (installs : Bool)
  | assign (index : Nat)
  | receive (valid : Bool)
  | next
  | enter
  | dispatch (accepted : Bool)
  | answer (loaned sent : Bool)
  | run (index : Nat)
  | respond (request : Handle) (size : Nat) (loaned sent : Bool)
  | responseLoanAcquire (request : Handle) (size : Nat) (loaned : Bool)
  | responseLoanSend (request loan : Handle) (used : Nat) (sent : Bool)
  | loanRelease (handle : Handle)

/-- The steps of the receive loop before and after its visit to the servers. -/
def visits : Iceoryx.Action → Bool
  | .list | .receive _ _ => true
  | _ => false

def lists : Iceoryx.Action → Bool
  | .list => true
  | _ => false

/-- The receive loop is between its wait for events and its next one. -/
def isReceiving : Receiver → Bool
  | .receiving _ => true
  | _ => false

namespace World

def self (world : World) : Transport := world.client.self

def withSelf (self : Transport) (world : World) : World := { world with client := { world.client with self } }

/-- The deliveries that the receive loop holds. -/
def held (world : World) : List Delivery :=
  match world.loop with
  | .entered delivery _ | .refused delivery _ => [delivery]
  | _ => []

def waiting (world : World) : List (Handle × Handle) := (world.held ++ world.tasks).map Delivery.item

def servers (world : World) : List Handle := (world.self.endpoints.filter (·.2.server)).map Prod.fst

def settle (result : Status × Transport) (request : Handle) (world : World) : World :=
  { world.withSelf result.2 with
    answered := if result.1.takesRequest then world.answered ++ [request] else world.answered }

/-- The response loan that a release gives back has its request. -/
def releases (handle : Handle) (self : Transport) : Option Handle :=
  if (self.loans.lookup handle).isSome ∨ (self.requestLoans.lookup handle).isSome then none
  else (self.responseLoans.lookup handle).map ResponseLoan.request

/-- A task calls the callback that its endpoint has when it runs. Otherwise it does nothing. A callback acquires the
loan of a response for a request that it was called with. -/
def perform : Action → World → Option World
  | .client action, world =>
      if action.serves || (visits action && world.loop ≠ .serving []) then none
      else (world.client.perform action).map fun client =>
        { world with client, loop := if lists action then .serving world.servers else world.loop }
  | .other operation, world => some (world.withSelf (operation.perform world.self))
  | .loanFind endpoint, world =>
      if world.self.loanFind endpoint = .ok then some { world with lending := world.lending ++ [endpoint] }
      else some world
  | .loanEnter index loaned, world => world.lending[index]?.map fun endpoint =>
      let remaining := { world with lending := world.lending.eraseIdx index }
      if loaned then remaining.withSelf (world.self.loanEnter endpoint).2 else remaining
  | .endpointDestroy handle, world =>
      match world.self.endpointDestroy handle with
      | (.ok, self) => some { world.withSelf self with clearing := world.clearing ++ [handle] }
      | _ => some world
  | .join, world => (world.client.perform .join).map fun client =>
      { world with client, clearing := world.clearing ++ world.self.endpoints.map Prod.fst }
  | .clear index, world => world.clearing[index]?.map fun endpoint =>
      { world with
        clearing := world.clearing.eraseIdx index
        callbacks := world.callbacks.filter (· ≠ endpoint) }
  | .setHandler endpoint installs, world =>
      if world.self.requestHandlerFind endpoint = .ok then
        some { world with setting := world.setting ++ [(endpoint, installs)] }
      else some world
  | .assign index, world => world.setting[index]?.map fun (endpoint, installs) =>
      { world with
        setting := world.setting.eraseIdx index
        callbacks :=
          if !installs then world.callbacks.filter (· ≠ endpoint)
          else if endpoint ∈ world.callbacks then world.callbacks
          else world.callbacks ++ [endpoint] }
  | .receive valid, world =>
      match world.loop with
      | .serving (endpoint :: servers) =>
          if !isReceiving world.client.receiver then none
          else if valid ∧ endpoint ∈ world.callbacks then
            some { world with loop := .received endpoint (endpoint :: servers) }
          else some world
      | _ => none
  | .next, world =>
      match world.loop with
      | .serving (_ :: servers) =>
          if isReceiving world.client.receiver then some { world with loop := .serving servers } else none
      | _ => none
  | .enter, world =>
      match world.loop with
      | .received endpoint servers =>
          match world.self.enterRequest endpoint with
          | (none, _) => some { world with loop := .serving servers }
          | (some request, self) =>
              some { world.withSelf self with loop := .entered ⟨request, endpoint⟩ servers }
      | _ => none
  | .dispatch accepted, world =>
      match world.loop with
      | .entered delivery servers =>
          if accepted then some { world with tasks := world.tasks ++ [delivery], loop := .serving servers }
          else some { world with loop := .refused delivery servers }
      | _ => none
  | .answer loaned sent, world =>
      match world.loop with
      | .refused delivery servers => some (({ world with loop := .serving servers }).settle
          (world.self.respond delivery.request 0 loaned sent) delivery.request)
      | _ => none
  | .run index, world => world.tasks[index]?.map fun delivery =>
      { world with
        tasks := world.tasks.eraseIdx index
        invoked := if delivery.endpoint ∈ world.callbacks then world.invoked ++ [delivery] else world.invoked }
  | .respond request size loaned sent, world =>
      some (world.settle (world.self.respond request size loaned sent) request)
  | .responseLoanAcquire request size loaned, world =>
      if world.invoked.any (·.request == request) then
        some (world.withSelf (world.self.responseLoanAcquire request size loaned).2)
      else none
  | .responseLoanSend request loan used sent, world =>
      some (world.settle (world.self.responseLoanSend request loan used sent) request)
  | .loanRelease handle, world => some { world.withSelf (world.self.loanRelease handle).2 with
      answered := world.answered ++ (releases handle world.self).toList }

end World

def transport : Concurrency.System World Action := ⟨World.perform⟩

/-- The endpoint of an entered request is in the table, and no task of a request in the table runs when its callback
is removed. -/
def Orderly (world : World) : Action → Prop
  | .enter => ∀ endpoint servers, world.loop = .received endpoint servers →
      (world.self.endpoints.lookup endpoint).isSome = true
  | .run index => ∀ delivery, world.tasks[index]? = some delivery → delivery.endpoint ∉ world.callbacks →
      world.self.activeRequests.lookup delivery.request = none
  | _ => True

instance (world : World) : ∀ action, Decidable (Orderly world action)
  | .enter =>
      match received : world.loop with
      | .received endpoint _ => decidable_of_iff ((world.self.endpoints.lookup endpoint).isSome = true)
          ⟨fun known _ _ same => (Loop.received.inj (received.symm.trans same)).1 ▸ known,
            fun orderly => orderly _ _ received⟩
      | .serving _ | .entered _ _ | .refused _ _ => .isTrue fun _ _ same => nomatch received.symm.trans same
  | .run index => inferInstanceAs (Decidable (∀ delivery ∈ world.tasks[index]?, delivery.endpoint ∉ world.callbacks →
      world.self.activeRequests.lookup delivery.request = none))
  | .client _ | .other _ | .loanFind _ | .loanEnter _ _ | .endpointDestroy _ | .join | .clear _ | .setHandler _ _ |
    .assign _ | .receive _ | .next | .dispatch _ | .answer _ _ | .respond _ _ _ _ | .responseLoanAcquire _ _ _ |
    .responseLoanSend _ _ _ _ | .loanRelease _ => .isTrue trivial

/-- The receive loop holds no request, and all tasks have run. -/
structure Rests (world : World) : Prop where
  held : world.held = []
  tasks : world.tasks = []

/-- What the transport promises to its servers. -/
structure Served (world : World) : Prop where
  served : Rests world → ∀ item ∈ world.self.openRequests,
    item ∈ world.invoked.map Delivery.item ∧ item.1 ∉ world.answered
  destroyed : Rests world → ∀ handle found, world.self.endpoints.lookup handle = some found → found.server = true →
    (∀ delivery ∈ world.invoked, delivery.endpoint = handle → delivery.request ∈ world.answered) →
    (world.self.endpointDestroy handle).1 = .ok
  capacity : Rests world → (∀ delivery ∈ world.invoked, delivery.request ∈ world.answered) →
    world.self.activeRequests = []

/-- The endpoints of the calls of the clients and of the publishers that are between two locks. -/
def World.busy (world : World) : List Handle := world.lending ++ world.client.busy

/-- Each request of the table waits, or a callback was invoked with it and has not answered. A loaned request is one
that a callback was invoked with. -/
structure Kept (world : World) : Prop where
  hosted : world.self.Hosted world.busy
  custody : Custody Prod.fst world.self.openRequests world.waiting (world.invoked.map Delivery.item) world.answered
  loaned : Custody Prod.fst world.self.loanedRequests [] (world.invoked.map Delivery.item) world.answered
  known : ∀ item ∈ world.waiting ++ world.invoked.map Delivery.item, item.1 < world.self.nextHandle ∧
    ∀ found, world.self.activeRequests.lookup item.1 = some found → found.endpoint = item.2
  issued : ∀ request ∈ world.answered, request < world.self.nextHandle

section Steps
variable {loaned : Bool} {endpoint request : Handle}

/-- A step that moves no request keeps the requests. -/
theorem Kept.aside (kept : Kept world) (hosted : later.self.Hosted later.busy) (aside : world.self.Aside later.self)
    (waiting : later.waiting = world.waiting) (invoked : later.invoked = world.invoked)
    (answered : later.answered = world.answered) : Kept later where
  hosted := hosted
  custody := by
    rw [Transport.openRequests, aside.requests, waiting, invoked, answered]
    exact kept.custody
  loaned := by
    rw [Transport.loanedRequests, aside.loans, invoked, answered]
    exact kept.loaned
  known := by
    rw [waiting, invoked, aside.requests]
    exact fun item listed => (kept.known item listed).imp_left fun below => Nat.lt_of_lt_of_le below aside.nextHandle
  issued := by
    rw [answered]
    exact fun request listed => Nat.lt_of_lt_of_le (kept.issued request listed) aside.nextHandle

variable {self : Transport}

/-- The items of a removed request leave the table. -/
theorem openRequests_remove (request : Handle) {item : Handle × Handle}
    (inside : item ∈ Transport.openRequests { self with
      activeRequests := HandleTable.remove request self.activeRequests }) :
    item ∈ self.openRequests ∧ item.1 ≠ request := by
  obtain ⟨entry, remains, rfl⟩ := List.mem_map.mp inside
  obtain ⟨known, different⟩ := HandleTable.mem_remove.mp remains
  exact ⟨List.mem_map_of_mem known, different⟩

theorem lookup_of_remove {table : HandleTable ActiveRequest} {found : ActiveRequest}
    (known : (HandleTable.remove request table).lookup handle = some found) : table.lookup handle = some found := by
  by_cases same : handle = request
  · rw [same, HandleTable.lookup_remove_self] at known
    cases known
  · rwa [HandleTable.lookup_remove_ne same] at known

/-- A request that is answered leaves the table, and no response of it is loaned. -/
theorem Kept.settle (kept : Kept world) (request : Handle) (size : Nat) (loaned sent : Bool) :
    Kept (world.settle (world.self.respond request size loaned sent) request) := by
  rcases world.self.respond_cases request size loaned sent with
    ⟨status, failed, keeps⟩ | ⟨status, found, known, takes, answered⟩
  · rw [failed]
    refine kept.aside kept.hosted (.refl _) rfl rfl ?_
    simp only [World.settle, keeps, Bool.false_eq_true, if_false]
  · rw [answered]
    have target := HandleTable.mem_of_lookup known
    refine ⟨kept.hosted.remove request, ?_, ?_, fun item listed => ?_, ?_⟩
    · simp only [World.settle, takes, if_true]
      exact kept.custody.answer (fun item inside => (openRequests_remove request inside).1)
        fun item inside => (openRequests_remove request inside).2
    · simp only [World.settle, takes, if_true]
      refine kept.loaned.answer (List.Subset.refl _) fun item inside same => ?_
      obtain ⟨entry, listed, rfl⟩ := List.mem_map.mp inside
      have gone := (kept.hosted.loaned entry listed).2
      rw [show entry.2.request = request from same, known] at gone
      cases gone
    · obtain ⟨below, same⟩ := kept.known item listed
      exact ⟨below, fun other inside => same other (lookup_of_remove inside)⟩
    · intro other listed
      simp only [World.settle, takes, if_true] at listed
      rcases List.mem_append.mp listed with listed | last
      · exact kept.issued other listed
      · rw [List.mem_singleton.mp last]
        exact kept.hosted.requests.below _ target

theorem Kept.client (kept : Kept world) {action : Iceoryx.Action}
    (performed : world.perform (.client action) = some later) : Kept later := by
  simp only [World.perform] at performed
  split at performed
  · cases performed
  · rename_i allowed
    simp only [Bool.or_eq_true, Bool.and_eq_true, not_or, not_and, decide_eq_true_eq, ne_eq, not_not,
      Bool.not_eq_true] at allowed
    obtain ⟨other, passes⟩ := allowed
    obtain ⟨client, moves, rfl⟩ := Option.map_eq_some_iff.mp performed
    obtain ⟨hosted, aside⟩ := hosted_client kept.hosted other moves
    refine kept.aside hosted aside ?_ rfl rfl
    cases action with
    | list =>
        have rests := passes rfl
        simp only [World.waiting, World.held, lists, rests, if_true]
    | _ => rfl

variable {busy : List Handle}

/-- A publisher or a subscriber names an endpoint that is not one of a server. -/
theorem hosted_other (hosted : self.Hosted busy) (operation : Operation) :
    (operation.perform self).Hosted busy ∧ self.Aside (operation.perform self) := by
  cases operation with
  | subscribe endpoint =>
      simp only [Operation.perform, Transport.subscribe]
      split
      · exact ⟨hosted, .refl _⟩
      · rename_i found known
        split
        · exact ⟨hosted, .refl _⟩
        · rename_i kind
          have used := hosted.use known (Transport.not_server (not_not.mp kind) nofun)
          refine ⟨used.keep (Nat.le_succ _) rfl rfl (.refl _) ?_, rfl, rfl, Nat.le_succ _⟩
          intro handle named
          simp only [Transport.clients, List.map_append, List.map_cons, List.map_nil, List.mem_append,
            List.mem_cons] at named ⊢
          tauto
  | unsubscribe handle =>
      simp only [Operation.perform, Transport.unsubscribe]
      split
      · exact ⟨hosted, .refl _⟩
      · refine ⟨hosted.keep (Nat.le_refl _) rfl rfl (.refl _) ?_, rfl, rfl, Nat.le_refl _⟩
        intro other named
        simp only [Transport.clients, List.mem_append] at named ⊢
        exact named.imp_right (·.imp_left (HandleTable.map_remove_subset _ _ ·))
  | receiveSample => exact ⟨hosted.keep (Nat.le_succ _) rfl rfl (.refl _) (List.Subset.refl _), rfl, rfl, Nat.le_succ _⟩
  | loanPublish endpoint loan whole sent =>
      simp only [Operation.perform, Transport.loanPublish]
      split
      · exact ⟨hosted, .refl _⟩
      · split
        · exact ⟨hosted, .refl _⟩
        · split
          · exact ⟨hosted, .refl _⟩
          · refine ⟨hosted.keep (Nat.le_refl _) rfl rfl (.refl _) ?_, rfl, rfl, Nat.le_refl _⟩
            intro other named
            simp only [Transport.clients, List.mem_append] at named ⊢
            exact named.imp_right (·.imp_right (·.imp_left (HandleTable.map_remove_subset _ _ ·)))

theorem Kept.loanFind (kept : Kept world) (finds : world.self.loanFind endpoint = .ok) :
    Kept { world with lending := world.lending ++ [endpoint] } := by
  unfold Transport.loanFind at finds
  split at finds
  · cases finds
  · rename_i found known
    split at finds
    · cases finds
    · rename_i kind
      have used := kept.hosted.use known (Transport.not_server (not_not.mp kind) nofun)
      refine kept.aside (used.keep (Nat.le_refl _) rfl rfl (.refl _) ?_) (.refl _) rfl rfl rfl
      intro handle named
      simp only [World.busy, List.mem_append, List.mem_cons] at named ⊢
      tauto

variable {index : Nat}

theorem Kept.loanEnter (kept : Kept world) (found : world.lending[index]? = some endpoint) :
    Kept (if loaned then World.withSelf (world.self.loanEnter endpoint).2
        { world with lending := world.lending.eraseIdx index }
      else { world with lending := world.lending.eraseIdx index }) := by
  have fewer : world.lending.eraseIdx index ⊆ world.lending := List.eraseIdx_subset
  have idle : Kept { world with lending := world.lending.eraseIdx index } := by
    refine kept.aside (kept.hosted.keep (Nat.le_refl _) rfl rfl (.refl _) ?_) (.refl _) rfl rfl rfl
    intro handle named
    simp only [World.busy, List.mem_append] at named ⊢
    exact named.imp_left (·.imp_left (fewer ·))
  split
  · unfold Transport.loanEnter
    split
    · exact idle
    · refine kept.aside (kept.hosted.keep (Nat.le_succ _) rfl rfl (.refl _) ?_) ⟨rfl, rfl, Nat.le_succ _⟩ rfl rfl rfl
      intro handle named
      have lends := List.mem_of_getElem? found
      have less := @fewer handle
      simp only [World.busy, World.withSelf, World.self, Transport.clients, List.map_append, List.map_cons,
        List.map_nil, List.mem_append, List.mem_singleton] at named ⊢
      rcases named with (lent | calls) | subscribes | (loans | rfl) | rest
      · exact .inl (.inl (less lent))
      · exact .inl (.inr calls)
      · exact .inr (.inl subscribes)
      · exact .inr (.inr (.inl loans))
      · exact .inl (.inl lends)
      · exact .inr (.inr (.inr rest))
  · exact idle

/-- The stop drops all requests with the node. -/
theorem Kept.join (kept : Kept world) (performed : world.perform .join = some later) : Kept later := by
  obtain ⟨client, drains, rfl⟩ := Option.map_eq_some_iff.mp performed
  obtain ⟨_, drained⟩ := Option.ite_none_right_eq_some.mp drains
  obtain rfl := Option.some.inj drained
  have users : World.busy { world with client := { world.client with
      self := world.client.self.drain.2.2
      stopper := .completing (world.client.self.drain.1.map fun entry => ⟨entry.2.call, entry.1, .shuttingDown⟩) } } ++
      world.client.self.drain.2.2.clients ⊆ world.busy ++ world.self.clients := by
    intro handle named
    simp only [Transport.drain, Transport.clients, List.map_nil, List.append_nil] at named
    exact List.mem_append_left _ named
  refine ⟨.none rfl rfl rfl fun handle named => (kept.hosted.clients handle (users named)).1, .empty, .empty,
    fun item listed => ⟨(kept.known item listed).1, fun _ found => ?_⟩, kept.issued⟩
  cases found

/-- The receive loop moves on with nothing in its hands. -/
theorem Kept.loop (kept : Kept world) {loop : Loop} (before : world.held = [])
    (after : World.held { world with loop } = []) : Kept { world with loop } := by
  refine kept.aside kept.hosted (.refl _) ?_ rfl rfl
  rw [World.waiting, World.waiting, before, after]

/-- A request enters the table with its endpoint. -/
theorem Kept.enter (kept : Kept world) (orderly : Orderly world .enter)
    (performed : world.perform .enter = some later) : Kept later := by
  simp only [World.perform] at performed
  split at performed
  · rename_i endpoint servers received
    have idle : world.held = [] := by rw [World.held, received]
    rcases world.self.enterRequest_cases endpoint with full | entered
    · rw [full] at performed
      cases performed
      exact kept.loop idle rfl
    · rw [entered] at performed
      cases performed
      obtain ⟨found, target⟩ := Option.isSome_iff_exists.mp (orderly endpoint servers received)
      have fresh : world.self.nextHandle ∉ world.answered := fun answered => Nat.lt_irrefl _ (kept.issued _ answered)
      have custody := @Custody.enter _ _ _ _ _ _ _ (world.self.nextHandle, endpoint) kept.custody fresh
      have waits : World.waiting { world with loop := .entered ⟨world.self.nextHandle, endpoint⟩ servers } =
          (world.self.nextHandle, endpoint) :: world.waiting := by
        rw [World.waiting, World.waiting, idle]
        rfl
      refine ⟨kept.hosted.enter target, ?_, kept.loaned, fun item listed => ?_,
        fun request answered => Nat.lt_succ_of_lt (kept.issued request answered)⟩
      · show Custody Prod.fst (List.map _ (world.self.activeRequests ++ [_])) (World.waiting { world with
          loop := .entered ⟨world.self.nextHandle, endpoint⟩ servers }) _ _
        rw [List.map_append, waits]
        exact custody
      · have placed : item ∈ (world.self.nextHandle, endpoint) ::
            (world.waiting ++ world.invoked.map Delivery.item) := by
          rw [← List.cons_append, ← waits]
          exact listed
        rcases List.mem_cons.mp placed with rfl | old
        · refine ⟨Nat.lt_succ_self _, fun other inside => ?_⟩
          obtain rfl := Option.some.inj (kept.hosted.requests.lookup_added.symm.trans inside)
          rfl
        · obtain ⟨below, same⟩ := kept.known item old
          refine ⟨Nat.lt_succ_of_lt below, fun other inside => same other ?_⟩
          exact (HandleTable.lookup_push (Nat.ne_of_lt below)).symm.trans inside
  · cases performed

/-- A delivery that has no place in the table any more need not wait. -/
theorem not_mem_openRequests (hosted : self.Hosted busy)
    (gone : self.activeRequests.lookup request = none) : (request, endpoint) ∉ self.openRequests := by
  intro inside
  obtain ⟨entry, found, same⟩ := List.mem_map.mp inside
  obtain ⟨rfl, rfl⟩ := Prod.mk.inj same
  rw [hosted.requests.lookup_of_mem found] at gone
  cases gone

variable (kept : Kept world)
include kept

/-- A delivery may move while the transport stays. -/
theorem Kept.place (client : later.client = world.client) (lending : later.lending = world.lending)
    (custody : Custody Prod.fst world.self.openRequests later.waiting (later.invoked.map Delivery.item) world.answered)
    (invoked : world.invoked.map Delivery.item ⊆ later.invoked.map Delivery.item)
    (places : later.waiting ++ later.invoked.map Delivery.item ⊆ world.waiting ++ world.invoked.map Delivery.item)
    (answered : later.answered = world.answered) : Kept later := by
  have self : later.self = world.self := congrArg Iceoryx.World.self client
  refine ⟨?_, ?_, ?_, ?_, ?_⟩
  · rw [self, World.busy, client, lending]
    exact kept.hosted
  · rw [self, answered]
    exact custody
  · rw [self, answered]
    exact ⟨fun item inside => (kept.loaned.placed item inside).imp_right (invoked ·), kept.loaned.unanswered⟩
  · rw [self]
    exact fun item listed => kept.known item (places listed)
  · rw [self, answered]
    exact kept.issued

/-- The deliveries move from the hands of the loop to the tasks. -/
theorem Kept.dispatch {accepted : Bool} (performed : world.perform (.dispatch accepted) = some later) : Kept later := by
  simp only [World.perform] at performed
  split at performed
  · rename_i delivery servers entered
    have held : world.held = [delivery] := by rw [World.held, entered]
    split at performed
    · cases performed
      have same (item : Handle × Handle) : item ∈ World.waiting { world with
          tasks := world.tasks ++ [delivery], loop := .serving servers } ↔ item ∈ world.waiting := by
        rw [World.waiting, World.waiting, held]
        simp only [World.held, List.nil_append, List.map_append, List.mem_append, List.singleton_append,
          List.map_cons, List.map_nil, List.mem_cons, List.not_mem_nil, or_false]
        exact or_comm
      refine kept.place rfl rfl (kept.custody.move fun item waits => (same item).mpr waits) (List.Subset.refl _) ?_ rfl
      intro item listed
      exact List.mem_append.mpr ((List.mem_append.mp listed).imp_left (same item).mp)
    · cases performed
      have same : World.waiting { world with loop := .refused delivery servers } = world.waiting := by
        rw [World.waiting, World.waiting, held]
        rfl
      refine kept.place rfl rfl ?_ (List.Subset.refl _) ?_ rfl
      · rw [same]
        exact kept.custody
      · rw [same]
        exact List.Subset.refl _
  · cases performed

/-- A refused request is answered by the receive loop. -/
theorem Kept.answer {sent : Bool} (performed : world.perform (.answer loaned sent) = some later) : Kept later := by
  simp only [World.perform] at performed
  split at performed
  · rename_i delivery servers refused
    cases performed
    have settled := kept.settle delivery.request 0 loaned sent
    have gone := kept.hosted.answered delivery.request loaned sent
    have waits : World.waiting (world.settle (world.self.respond delivery.request 0 loaned sent) delivery.request) =
        delivery.item :: world.tasks.map Delivery.item := by
      rw [World.waiting, World.held]
      simp only [World.settle, World.withSelf, refused]
      rfl
    refine settled.place rfl rfl ?_ (List.Subset.refl _) ?_ rfl
    · refine settled.custody.settle (by rw [waits]; exact List.Subset.refl _) ?_
      exact not_mem_openRequests settled.hosted gone
    · rw [waits]
      exact List.subset_cons_self _ _
  · cases performed

theorem Kept.run {delivery : Delivery} (found : world.tasks[index]? = some delivery)
    (orderly : delivery.endpoint ∉ world.callbacks → world.self.activeRequests.lookup delivery.request = none) :
    Kept { world with
      tasks := world.tasks.eraseIdx index
      invoked := if delivery.endpoint ∈ world.callbacks then world.invoked ++ [delivery] else world.invoked } := by
  have waits : world.waiting ⊆ delivery.item :: World.waiting { world with tasks := world.tasks.eraseIdx index } := by
    intro item listed
    simp only [World.waiting, List.map_append, List.mem_append, List.mem_cons] at listed ⊢
    rcases listed with held | tasks
    · exact .inr (.inl held)
    · exact (mem_map_eraseIdx found tasks).imp_right .inr
  have left : World.waiting { world with tasks := world.tasks.eraseIdx index } ⊆ world.waiting := by
    intro item listed
    simp only [World.waiting, List.map_append, List.mem_append] at listed ⊢
    exact listed.imp_right (List.map_subset _ List.eraseIdx_subset ·)
  by_cases active : delivery.endpoint ∈ world.callbacks
  · rw [if_pos active]
    refine kept.place rfl rfl ?_ ?_ ?_ rfl
    · rw [List.map_append]
      exact kept.custody.invoke waits
    · rw [List.map_append]
      exact List.subset_append_left _ _
    · rw [List.map_append]
      have task : delivery.item ∈ world.waiting := by
        rw [World.waiting, List.map_append]
        exact List.mem_append_right _ (List.mem_map_of_mem (List.mem_of_getElem? found))
      intro item listed
      rcases List.mem_append.mp listed with waiting | invoked
      · exact List.mem_append_left _ (left waiting)
      · rcases List.mem_append.mp invoked with old | last
        · exact List.mem_append_right _ old
        · obtain rfl := List.mem_singleton.mp last
          exact List.mem_append_left _ task
  · rw [if_neg active]
    refine kept.place rfl rfl ?_ (List.Subset.refl _) ?_ rfl
    · exact kept.custody.settle waits (not_mem_openRequests kept.hosted (orderly active))
    · exact List.append_subset.mpr ⟨List.Subset.trans left (List.subset_append_left _ _), List.subset_append_right _ _⟩

/-- A callback acquires the loan of a response for its request. -/
theorem Kept.lend {size : Nat} (invoked : world.invoked.any (·.request == request) = true) :
    Kept (world.withSelf (world.self.responseLoanAcquire request size loaned).2) := by
  rcases world.self.responseLoanAcquire_cases request size loaned with ⟨status, failed⟩ | ⟨found, known, acquired⟩
  · rw [failed]
    exact kept.aside kept.hosted (.refl _) rfl rfl rfl
  · rw [acquired]
    obtain ⟨delivery, listed, own⟩ := List.any_eq_true.mp invoked
    obtain rfl : delivery.request = request := beq_iff_eq.mp own
    have item : delivery.item ∈ world.invoked.map Delivery.item := List.mem_map_of_mem listed
    have endpoint := (kept.known delivery.item (List.mem_append_right _ item)).2 found known
    have entry : (delivery.request, found.endpoint) ∈ world.self.openRequests :=
      List.mem_map_of_mem (f := fun entry => (entry.1, entry.2.endpoint)) (HandleTable.mem_of_lookup known)
    refine ⟨kept.hosted.lend known, ?_, ?_, fun other inside => ?_,
      fun other answered => Nat.lt_succ_of_lt (kept.issued other answered)⟩
    · exact kept.custody.shrink fun other inside => (openRequests_remove delivery.request inside).1
    · show Custody Prod.fst (List.map _ (world.self.responseLoans ++ [_])) [] _ _
      rw [List.map_append]
      refine ⟨fun other inside => ?_, fun other inside => ?_⟩
      · rcases List.mem_append.mp inside with inside | last
        · exact kept.loaned.placed other inside
        · obtain rfl := List.mem_singleton.mp last
          rw [endpoint]
          exact .inr item
      · rcases List.mem_append.mp inside with inside | last
        · exact kept.loaned.unanswered other inside
        · obtain rfl := List.mem_singleton.mp last
          exact kept.custody.unanswered _ entry
    · obtain ⟨below, same⟩ := kept.known other inside
      exact ⟨Nat.lt_succ_of_lt below, fun target looked => same target (lookup_of_remove looked)⟩

/-- A response loan that leaves its table answers its request. -/
theorem Kept.giveBack {loan : Handle} {found : ResponseLoan}
    (known : world.self.responseLoans.lookup loan = some found) : Kept { world.withSelf { world.self with
        responseLoans := HandleTable.remove loan world.self.responseLoans } with
      answered := world.answered ++ [found.request] } := by
  have listed := HandleTable.mem_of_lookup known
  obtain ⟨below, gone⟩ := kept.hosted.loaned _ listed
  refine ⟨kept.hosted.giveBack loan, ?_, ?_, kept.known, fun request answered => ?_⟩
  · refine kept.custody.answer (List.Subset.refl _) fun item inside same => ?_
    obtain ⟨request, endpoint⟩ := item
    have own : request = found.request := same
    exact not_mem_openRequests kept.hosted (own ▸ gone) inside
  · refine kept.loaned.answer (HandleTable.map_remove_subset _ _) fun item inside same => ?_
    obtain ⟨entry, remains, rfl⟩ := List.mem_map.mp inside
    obtain ⟨other, different⟩ := HandleTable.mem_remove.mp remains
    have one := List.inj_on_of_nodup_map kept.hosted.distinct other listed same
    exact different (congrArg Prod.fst one)
  · rcases List.mem_append.mp answered with old | last
    · exact kept.issued request old
    · rw [List.mem_singleton.mp last]
      exact below

theorem Kept.send (request loan : Handle) (used : Nat) (sent : Bool) :
    Kept (world.settle (world.self.responseLoanSend request loan used sent) request) := by
  rcases world.self.responseLoanSend_cases request loan used sent with
    ⟨status, failed, keeps⟩ | ⟨status, found, known, rfl, takes, given⟩
  · rw [failed]
    refine kept.aside kept.hosted (.refl _) rfl rfl ?_
    simp only [World.settle, keeps, Bool.false_eq_true, if_false]
  · rw [given]
    simp only [World.settle, takes, if_true]
    exact kept.giveBack known

/-- A released loan is one of a client, or it answers a request. -/
theorem Kept.release (handle : Handle) : Kept { world.withSelf (world.self.loanRelease handle).2 with
      answered := world.answered ++ (World.releases handle world.self).toList } := by
  have idle {self : Transport} (aside : world.self.Aside self) (endpoints : self.endpoints = world.self.endpoints)
      (clients : self.clients ⊆ world.self.clients) : Kept (world.withSelf self) := by
    refine kept.aside (kept.hosted.keep aside.nextHandle endpoints aside.requests
      (aside.loans ▸ List.Sublist.refl _) ?_) aside rfl rfl rfl
    exact List.append_subset.mpr ⟨List.subset_append_left _ _, List.Subset.trans clients (List.subset_append_right _ _)⟩
  unfold Transport.loanRelease World.releases
  by_cases loans : (world.self.loans.lookup handle).isSome
  · rw [if_pos loans, if_pos (.inl loans), Option.toList_none, List.append_nil]
    refine idle ⟨rfl, rfl, Nat.le_refl _⟩ rfl ?_
    intro other named
    simp only [Transport.clients, List.mem_append] at named ⊢
    exact named.imp_right (·.imp_left (HandleTable.map_remove_subset _ _ ·))
  · rw [if_neg loans]
    by_cases requests : (world.self.requestLoans.lookup handle).isSome
    · rw [if_pos requests, if_pos (.inr requests), Option.toList_none, List.append_nil]
      refine idle ⟨rfl, rfl, Nat.le_refl _⟩ rfl ?_
      intro other named
      simp only [Transport.clients, List.mem_append] at named ⊢
      exact named.imp_right (·.imp_right (·.imp_left (HandleTable.map_remove_subset _ _ ·)))
    · rw [if_neg requests, if_neg (not_or.mpr ⟨loans, requests⟩)]
      cases known : world.self.responseLoans.lookup handle with
      | some found => exact kept.giveBack known
      | none =>
          rw [Option.map_none, Option.toList_none, List.append_nil]
          simp only [Option.isSome_none, Bool.false_eq_true, if_false]
          split
          · exact idle ⟨rfl, rfl, Nat.le_refl _⟩ rfl (List.Subset.refl _)
          · exact idle (.refl _) rfl (List.Subset.refl _)

theorem Kept.perform (orderly : Orderly world action) (performed : world.perform action = some later) : Kept later := by
  have still {next : World} (client : next.client = world.client) (lending : next.lending = world.lending)
      (waiting : next.waiting = world.waiting) (invoked : next.invoked = world.invoked)
      (answered : next.answered = world.answered) : Kept next := by
    refine kept.place client lending ?_ ?_ ?_ answered
    · rw [waiting, invoked]
      exact kept.custody
    · rw [invoked]
      exact List.Subset.refl _
    · rw [waiting, invoked]
      exact List.Subset.refl _
  cases action with
  | client action => exact kept.client performed
  | other operation =>
      cases performed
      obtain ⟨hosted, aside⟩ := hosted_other kept.hosted operation
      exact kept.aside hosted aside rfl rfl rfl
  | loanFind endpoint =>
      simp only [World.perform] at performed
      split at performed
      · rename_i finds
        cases performed
        exact kept.loanFind finds
      · cases performed
        exact kept
  | loanEnter index loaned =>
      obtain ⟨endpoint, found, rfl⟩ := Option.map_eq_some_iff.mp performed
      exact kept.loanEnter found
  | endpointDestroy handle =>
      have hosted := kept.hosted.endpointDestroy handle
      have aside : world.self.Aside (world.self.endpointDestroy handle).2 := by
        unfold Transport.endpointDestroy
        repeat' first | exact .refl _ | exact ⟨rfl, rfl, Nat.le_refl _⟩ | split
      simp only [World.perform] at performed
      split at performed
      · rename_i result
        cases performed
        rw [result] at hosted aside
        exact kept.aside hosted aside rfl rfl rfl
      · cases performed
        exact kept
  | join => exact kept.join performed
  | clear index =>
      obtain ⟨endpoint, found, rfl⟩ := Option.map_eq_some_iff.mp performed
      exact still rfl rfl rfl rfl rfl
  | setHandler endpoint installs =>
      simp only [World.perform] at performed
      split at performed
      all_goals
        cases performed
        exact still rfl rfl rfl rfl rfl
  | assign index =>
      obtain ⟨⟨endpoint, installs⟩, found, rfl⟩ := Option.map_eq_some_iff.mp performed
      exact still rfl rfl rfl rfl rfl
  | receive valid =>
      simp only [World.perform] at performed
      split at performed
      · rename_i endpoint servers serving
        split at performed
        · cases performed
        · split at performed
          · cases performed
            exact kept.loop (by rw [World.held, serving]) rfl
          · cases performed
            exact kept
      · cases performed
  | next =>
      simp only [World.perform] at performed
      split at performed
      · rename_i endpoint servers serving
        split at performed
        · cases performed
          exact kept.loop (by rw [World.held, serving]) rfl
        · cases performed
      · cases performed
  | enter => exact kept.enter orderly performed
  | dispatch accepted => exact kept.dispatch performed
  | answer loaned sent => exact kept.answer performed
  | run index =>
      obtain ⟨delivery, found, rfl⟩ := Option.map_eq_some_iff.mp performed
      exact kept.run found (orderly delivery found)
  | respond request size loaned sent =>
      cases performed
      exact kept.settle request size loaned sent
  | responseLoanAcquire request size loaned =>
      obtain ⟨invoked, acquires⟩ := Option.ite_none_right_eq_some.mp performed
      obtain rfl := Option.some.inj acquires
      exact kept.lend invoked
  | responseLoanSend request loan used sent =>
      cases performed
      exact kept.send request loan used sent
  | loanRelease handle =>
      cases performed
      exact kept.release handle

end Steps

section Runs
variable {world : World}

def started (maxEndpoints maxOperations : Nat) : World where
  client := Iceoryx.started maxEndpoints maxOperations

theorem kept_of_reaches {maxEndpoints maxOperations : Nat}
    (reached : transport.Reaches Orderly (started maxEndpoints maxOperations) world) : Kept world := by
  apply reached.invariant
  · refine ⟨.none rfl rfl rfl fun _ named => absurd named List.not_mem_nil, .empty, .empty,
      fun _ listed => absurd listed List.not_mem_nil, fun _ answered => absurd answered List.not_mem_nil⟩
  · intro before action later kept orderly performed
    exact kept.perform orderly performed

theorem waiting_of_rests (rests : Rests world) : world.waiting = [] := by
  rw [World.waiting, rests.held, rests.tasks]
  rfl

theorem Kept.served (kept : Kept world) : Served world := by
  have served (rests : Rests world) : ∀ item ∈ world.self.openRequests,
      item ∈ world.invoked.map Delivery.item ∧ item.1 ∉ world.answered := (waiting_of_rests rests ▸ kept.custody).served
  refine ⟨served, fun rests handle found known serves answered => ?_, fun rests answered => ?_⟩
  · apply kept.hosted.destroyed known serves
    intro item inside same
    obtain ⟨invoked, unanswered⟩ : item ∈ world.invoked.map Delivery.item ∧ item.1 ∉ world.answered := by
      rcases List.mem_append.mp inside with waits | loaned
      · exact served rests item waits
      · exact kept.loaned.served item loaned
    obtain ⟨delivery, listed, rfl⟩ := List.mem_map.mp invoked
    exact unanswered (answered delivery listed same)
  · apply List.map_eq_nil_iff.mp
    apply List.eq_nil_iff_forall_not_mem.mpr
    intro item inside
    obtain ⟨invoked, unanswered⟩ := served rests item inside
    obtain ⟨delivery, listed, rfl⟩ := List.mem_map.mp invoked
    exact unanswered (answered delivery listed)

end Runs

def methodServer : Endpoint := ⟨.methodServer, ⟨1024, 1024⟩⟩

/-- The receive loop has found a request for an endpoint with a callback. -/
def received : List Action :=
  [.client (.endpointCreate methodServer), .setHandler 1 true, .assign 0, .client .list, .client .wake, .receive true]

/-- A request arrives, and its task waits. -/
def dispatched : List Action := received ++ [.enter, .dispatch true, .next]

/-- The task calls the callback. -/
def called : List Action := dispatched ++ [.run 0]

/-- The callback is removed between the dispatch of a request and its task. -/
def removedEarly : List Action := dispatched ++ [.setHandler 1 false, .assign 0, .run 0]

/-- The endpoint is destroyed before the receive loop enters its request. -/
def destroyedEarly : List Action :=
  received ++ [.setHandler 1 false, .assign 0, .endpointDestroy 1, .clear 0, .enter, .dispatch true, .next, .run 0]

/-- The tasks of both runs drop their request, and the request keeps its endpoint. -/
theorem exists_orphan {actions : List Action} (schedule : actions = removedEarly ∨ actions = destroyedEarly) :
    ∃ world, transport.Reaches (fun _ _ => True) (started 128 128) world ∧ Rests world ∧ world.invoked = [] ∧
      world.self.openRequests = [(2, 1)] := by
  have executed : (transport.run (fun _ _ => true) (actions.map fun action _ => action) (started 128 128)).any
      (fun world => decide (world.held = [] ∧ world.tasks = [] ∧ world.invoked = [] ∧
        world.self.openRequests = [(2, 1)])) = true := by
    rcases schedule with rfl | rfl
    all_goals decide
  obtain ⟨world, reached, ended⟩ := Concurrency.System.Reaches.exists_of_run _ (fun _ _ _ => trivial) _ _ executed
  obtain ⟨held, tasks, invoked, requests⟩ := of_decide_eq_true ended
  exact ⟨world, reached, ⟨held, tasks⟩, invoked, requests⟩

end Server

end Iceoryx

/-- Neither transport loses a request in an orderly run. -/
theorem requests_served (maxEndpoints maxOperations : Nat) :
    (∀ world, Vsomeip.Server.transport.Reaches Vsomeip.Server.Orderly
        (Vsomeip.Server.started maxEndpoints maxOperations) world → Vsomeip.Server.Served world) ∧
      ∀ world, Iceoryx.Server.transport.Reaches Iceoryx.Server.Orderly
        (Iceoryx.Server.started maxEndpoints maxOperations) world → Iceoryx.Server.Served world :=
  ⟨fun _ reached => (Vsomeip.Server.kept_of_reaches reached).served,
    fun _ reached => (Iceoryx.Server.kept_of_reaches reached).served⟩

/-- In both transports a callback has a request of an orderly run. -/
theorem requests_served_invoked :
    (∃ world, Vsomeip.Server.transport.Reaches Vsomeip.Server.Orderly (Vsomeip.Server.started 128 128) world ∧
        Vsomeip.Server.Rests world ∧ world.self.openRequests = [(2, 1)] ∧ Vsomeip.Server.Served world) ∧
      ∃ world, Iceoryx.Server.transport.Reaches Iceoryx.Server.Orderly (Iceoryx.Server.started 128 128) world ∧
        Iceoryx.Server.Rests world ∧ world.self.openRequests = [(2, 1)] ∧ Iceoryx.Server.Served world := by
  constructor
  · have executed : (Vsomeip.Server.transport.run (fun world action => decide (Vsomeip.Server.Orderly world action))
        (Vsomeip.Server.called.map fun action _ => action) (Vsomeip.Server.started 128 128)).any
        (fun world => decide (world.arrived = [] ∧ world.refused = [] ∧ world.tasks = [] ∧
          world.self.openRequests = [(2, 1)])) = true := by
      decide
    obtain ⟨world, reached, ended⟩ :=
      Concurrency.System.Reaches.exists_of_run _ (fun _ _ => of_decide_eq_true) _ _ executed
    obtain ⟨arrived, refused, tasks, requests⟩ := of_decide_eq_true ended
    exact ⟨world, reached, ⟨arrived, refused, tasks⟩, requests, (requests_served 128 128).1 world reached⟩
  · have executed : (Iceoryx.Server.transport.run (fun world action => decide (Iceoryx.Server.Orderly world action))
        (Iceoryx.Server.called.map fun action _ => action) (Iceoryx.Server.started 128 128)).any
        (fun world => decide (world.held = [] ∧ world.tasks = [] ∧ world.self.openRequests = [(2, 1)])) = true := by
      decide
    obtain ⟨world, reached, ended⟩ :=
      Concurrency.System.Reaches.exists_of_run _ (fun _ _ => of_decide_eq_true) _ _ executed
    obtain ⟨held, tasks, requests⟩ := of_decide_eq_true ended
    exact ⟨world, reached, ⟨held, tasks⟩, requests, (requests_served 128 128).2 world reached⟩

/-- In both transports a removed handler leaves a request that nobody answers. -/
theorem exists_orphans :
    (∃ world, Vsomeip.Server.transport.Reaches (fun _ _ => True) (Vsomeip.Server.started 128 128) world ∧
        ¬ Vsomeip.Server.Served world) ∧
      ∃ world, Iceoryx.Server.transport.Reaches (fun _ _ => True) (Iceoryx.Server.started 128 128) world ∧
        ¬ Iceoryx.Server.Served world := by
  constructor
  · obtain ⟨world, reached, rests, invoked, requests⟩ := Vsomeip.Server.exists_orphan
    refine ⟨world, reached, fun served => ?_⟩
    have listed := (served.served rests (2, 1) (by rw [requests]; exact List.mem_singleton_self _)).1
    rw [invoked] at listed
    cases listed
  · obtain ⟨world, reached, rests, invoked, requests⟩ := Iceoryx.Server.exists_orphan (.inl rfl)
    refine ⟨world, reached, fun served => ?_⟩
    have listed := (served.served rests (2, 1) (by rw [requests]; exact List.mem_singleton_self _)).1
    rw [invoked] at listed
    cases listed

end OpenVehicle.Com
