/-
This file proves when each subscription of the shared-memory transport gets every sample of its endpoint. The receive
loop gives the subscriptions turns, and other functions act between its steps.
-/

import OpenVehicle.Com.Iceoryx
import OpenVehicle.Concurrency.Steps
import Mathlib.Logic.Function.Basic

namespace OpenVehicle.Com.Iceoryx

open Concurrency (after Along Taken along_iff_taken)
open Data (HandleTable)

/-- A subscription has the samples that wait in the executor and the samples that its callback has got. Its history
lists every sample that its endpoint has received since the subscription. -/
structure Subscription (S : Type) where
  active : Bool := true
  tasks : List S := []
  delivered : List S := []
  history : List S := []

namespace Subscription
variable {S : Type}

def dispatch (sample : S) (self : Subscription S) : Subscription S := { self with tasks := self.tasks ++ [sample] }

def record (sample : S) (self : Subscription S) : Subscription S := { self with history := self.history ++ [sample] }

/-- The executor runs the tasks of a subscription in order. A task calls the callback of an active subscription. -/
def runSample (self : Subscription S) : Subscription S :=
  match self.tasks with
  | [] => self
  | sample :: rest => { self with
      tasks := rest
      delivered := if self.active then self.delivered ++ [sample] else self.delivered }

/-- The callback gets the samples of the endpoint in order and once, and the executor has the last of them. -/
def Served (self : Subscription S) : Prop := self.delivered ++ self.tasks = self.history

end Subscription

/-- A turn of the receive loop is a subscription with its endpoint. -/
structure FanOut (S : Type) where
  transport : Transport
  subscriptions : Handle → Subscription S
  turns : List (Handle × Handle) := []

namespace FanOut

variable {S : Type}

/-- A subscription in the table has an endpoint. -/
abbrev endpointOf (self : FanOut S) (handle : Handle) : Option Handle := self.transport.subscriptions.lookup handle

def replace (handle : Handle) (subscription : Subscription S) (self : FanOut S) : FanOut S :=
  { self with subscriptions := Function.update self.subscriptions handle subscription }

/-- A pass of the receive loop has the subscriptions whose endpoints exist. The hash table lists them in any order. -/
def activeSubscriptions (listing : List (Handle × Handle)) (transport : Transport) : List (Handle × Handle) :=
  (if listing.Perm transport.subscriptions then listing else transport.subscriptions).filter fun entry =>
    (transport.endpoints.lookup entry.2).isSome

/-- The loop begins a pass when the last one has ended. -/
def pass (listing : List (Handle × Handle)) (self : FanOut S) : FanOut S :=
  if self.turns = [] ∧ self.transport.running then { self with turns := activeSubscriptions listing self.transport }
  else self

/-- A sample that an endpoint receives is one for each of its subscriptions. -/
def receive (endpoint : Handle) (sample : S) (self : FanOut S) : FanOut S :=
  { self with
    transport := self.transport.receiveSample
    subscriptions := fun handle =>
      if self.endpointOf handle = some endpoint then (self.subscriptions handle).record sample
      else self.subscriptions handle }

/-- The native subscriber of an endpoint has a sample for the turn, or the turn ends. The loop dispatches a sample to
the subscription that has the turn. -/
def receiveLoop (sample : Option S) (self : FanOut S) : FanOut S :=
  match self.turns, sample with
  | [], _ => self
  | _ :: rest, none => { self with turns := rest }
  | (handle, endpoint) :: _, some sample =>
      let received := self.receive endpoint sample
      received.replace handle ((received.subscriptions handle).dispatch sample)

/-- The object of a new subscription is active. -/
def subscribe (endpoint : Handle) (self : FanOut S) : FanOut S :=
  match self.transport.subscribe endpoint with
  | (.error _, _) => self
  | (.ok handle, transport) => { self.replace handle {} with transport := transport }

/-- A subscription becomes inactive after it has left the table. -/
def withdraw (handle : Handle) (self : FanOut S) : FanOut S :=
  if (self.endpointOf handle).isSome then self
  else self.replace handle { self.subscriptions handle with active := false }

/-- The functions for loans, requests and responses change the other tables, and they take handles. -/
def operate (handles : Nat) (tables : Transport) (self : FanOut S) : FanOut S :=
  { self with transport := { tables with
      running := self.transport.running
      nextHandle := self.transport.nextHandle + handles
      endpoints := self.transport.endpoints
      subscriptions := self.transport.subscriptions } }

inductive Action (S : Type) where
  | pass (listing : List (Handle × Handle))
  | receiveLoop (sample : Option S)
  | runSample (handle : Handle)
  | subscribe (endpoint : Handle)
  | unsubscribe (handle : Handle)
  | withdraw (handle : Handle)
  | endpointCreate (endpoint : Endpoint)
  | endpointDestroy (endpoint : Handle)
  | operate (handles : Nat) (tables : Transport)
  | run (running : Bool)
  | drain

def perform (action : Action S) (self : FanOut S) : FanOut S :=
  match action with
  | .pass listing => self.pass listing
  | .receiveLoop sample => self.receiveLoop sample
  | .runSample handle => self.replace handle (self.subscriptions handle).runSample
  | .subscribe endpoint => self.subscribe endpoint
  | .unsubscribe handle => { self with transport := (self.transport.unsubscribe handle).2 }
  | .withdraw handle => self.withdraw handle
  | .endpointCreate endpoint => { self with transport := (self.transport.endpointCreate endpoint).2 }
  | .endpointDestroy endpoint => { self with transport := (self.transport.endpointDestroy endpoint).2 }
  | .operate handles tables => self.operate handles tables
  | .run running => { self with transport := { self.transport with running := running } }
  | .drain => { self with transport := self.transport.drain.2.2 }

/-- A created transport has no subscription. -/
def created (maxEndpoints maxOperations : Nat) : FanOut S :=
  { transport := { maxEndpoints := maxEndpoints, maxOperations := maxOperations }, subscriptions := fun _ => {} }

/-- Every subscription in the table is served. -/
def Delivers (self : FanOut S) : Prop :=
  ∀ handle endpoint, self.endpointOf handle = some endpoint → (self.subscriptions handle).Served

/-- A sample comes in the turn of the only subscription of its endpoint. -/
def Alone (action : Action S) (self : FanOut S) : Prop :=
  match action, self.turns with
  | .receiveLoop (some _), (handle, endpoint) :: _ =>
      ∀ other, self.endpointOf other = some endpoint → other = handle
  | _, _ => True

section Invariant

/-- The subscriptions in the table are active, and no turn is that of another endpoint. -/
structure Sound (fanOut : FanOut S) : Prop where
  ordered : fanOut.transport.subscriptions.Ordered fanOut.transport.nextHandle
  active : ∀ handle endpoint, fanOut.endpointOf handle = some endpoint → (fanOut.subscriptions handle).active = true
  turns : ∀ turn ∈ fanOut.turns, turn.1 < fanOut.transport.nextHandle ∧
    ∀ endpoint, fanOut.endpointOf turn.1 = some endpoint → endpoint = turn.2

/-- A quiet step adds no subscription and records no sample. -/
structure Quiet (earlier later : FanOut S) : Prop where
  ordered : later.transport.subscriptions.Ordered later.transport.nextHandle
  handles : earlier.transport.nextHandle ≤ later.transport.nextHandle
  fewer : ∀ handle endpoint, later.endpointOf handle = some endpoint → earlier.endpointOf handle = some endpoint
  active : ∀ handle endpoint, later.endpointOf handle = some endpoint →
    (later.subscriptions handle).active = (earlier.subscriptions handle).active
  served : ∀ handle endpoint, later.endpointOf handle = some endpoint → (earlier.subscriptions handle).active = true →
    (earlier.subscriptions handle).Served → (later.subscriptions handle).Served
  turns : ∀ turn ∈ later.turns, turn ∈ earlier.turns ∨ turn ∈ earlier.transport.subscriptions

variable {self later : FanOut S} {transport : Transport} {action : Action S} {handle endpoint : Handle} {sample : S}
  {rest : List (Handle × Handle)}

theorem replace_self (subscription : Subscription S) :
    (self.replace handle subscription).subscriptions handle = subscription := Function.update_self _ _ _

variable {other : Handle}

theorem replace_ne (different : other ≠ handle) (subscription : Subscription S) :
    (self.replace handle subscription).subscriptions other = self.subscriptions other :=
  Function.update_of_ne different _ _

theorem Quiet.sound (quiet : Quiet self later) (sound : self.Sound) : later.Sound where
  ordered := quiet.ordered
  active handle endpoint known := by
    rw [quiet.active handle endpoint known]
    exact sound.active handle endpoint (quiet.fewer handle endpoint known)
  turns turn listed := by
    rcases quiet.turns turn listed with old | entered
    · obtain ⟨less, same⟩ := sound.turns turn old
      exact ⟨Nat.lt_of_lt_of_le less quiet.handles, fun endpoint known => same endpoint (quiet.fewer _ _ known)⟩
    · refine ⟨Nat.lt_of_lt_of_le (sound.ordered.below turn entered) quiet.handles, fun endpoint known => ?_⟩
      have here := quiet.fewer _ _ known
      rw [endpointOf, sound.ordered.lookup_of_mem entered] at here
      exact (Option.some.inj here).symm

theorem Quiet.delivers (quiet : Quiet self later) (sound : self.Sound) (delivers : self.Delivers) : later.Delivers := by
  intro handle endpoint known
  have before := quiet.fewer handle endpoint known
  exact quiet.served handle endpoint known (sound.active handle endpoint before) (delivers handle endpoint before)

/-- A step that changes the transport is quiet when the table only loses subscriptions. -/
theorem quiet_transport (ordered : transport.subscriptions.Ordered transport.nextHandle)
    (handles : self.transport.nextHandle ≤ transport.nextHandle)
    (fewer : ∀ handle endpoint, transport.subscriptions.lookup handle = some endpoint →
      self.endpointOf handle = some endpoint) : Quiet self { self with transport := transport } where
  ordered := ordered
  handles := handles
  fewer := fewer
  active _ _ _ := rfl
  served _ _ _ _ served := served
  turns _ listed := .inl listed

/-- A step that keeps the table of subscriptions is quiet. -/
theorem quiet_kept (sound : self.Sound) (same : transport.subscriptions = self.transport.subscriptions)
    (handles : self.transport.nextHandle ≤ transport.nextHandle) : Quiet self { self with transport := transport } := by
  apply quiet_transport _ handles
  · intro handle endpoint known
    rwa [same] at known
  · rw [same]
    exact sound.ordered.mono handles

theorem quiet_turns (sound : self.Sound) {turns : List (Handle × Handle)}
    (known : ∀ turn ∈ turns, turn ∈ self.turns ∨ turn ∈ self.transport.subscriptions) :
    Quiet self { self with turns := turns } where
  ordered := sound.ordered
  handles := Nat.le_refl _
  fewer _ _ known := known
  active _ _ _ := rfl
  served _ _ _ _ served := served
  turns := known

variable {subscription : Subscription S}

/-- A step that changes one object is quiet when the object is served as before. -/
theorem quiet_update (sound : self.Sound) (active : ∀ endpoint, self.endpointOf handle = some endpoint →
      subscription.active = (self.subscriptions handle).active)
    (served : ∀ endpoint, self.endpointOf handle = some endpoint → (self.subscriptions handle).active = true →
      (self.subscriptions handle).Served → subscription.Served) : Quiet self (self.replace handle subscription) where
  ordered := sound.ordered
  handles := Nat.le_refl _
  fewer _ _ known := known
  active other endpoint known := by
    by_cases same : other = handle
    · subst same
      rw [replace_self]
      exact active endpoint known
    · rw [replace_ne same]
  served other endpoint known alive before := by
    by_cases same : other = handle
    · subst same
      rw [replace_self]
      exact served endpoint known alive before
    · rwa [replace_ne same]
  turns _ listed := .inl listed

theorem active_runSample (subscription : Subscription S) : subscription.runSample.active = subscription.active := by
  unfold Subscription.runSample
  split <;> rfl

/-- A task moves its sample from the executor to the callback. -/
theorem served_runSample (active : subscription.active = true)
    (served : subscription.Served) : subscription.runSample.Served := by
  unfold Subscription.runSample
  split
  · exact served
  · rename_i sample rest tasks
    rw [Subscription.Served, tasks] at served
    simp only [Subscription.Served, active, if_true, List.append_assoc, List.singleton_append]
    exact served

/-- A subscription without a task for the sample has lost it. -/
theorem served_record (served : subscription.Served) : ¬(subscription.record sample).Served := by
  intro recorded
  have longer : subscription.delivered ++ subscription.tasks = subscription.history ++ [sample] := recorded
  have length := congrArg List.length (served.symm.trans longer)
  simp at length

/-- A new subscription takes the next handle. -/
theorem subscribe_cases (endpoint : Handle) (self : FanOut S) : self.subscribe endpoint = self ∨
    self.subscribe endpoint = { self.replace self.transport.nextHandle {} with transport := { self.transport with
      nextHandle := self.transport.nextHandle + 1
      subscriptions := self.transport.subscriptions ++ [(self.transport.nextHandle, endpoint)] } } := by
  unfold subscribe Transport.subscribe
  cases self.transport.endpoints.lookup endpoint with
  | none => exact .inl rfl
  | some found =>
      by_cases kind : found.kind = .eventSubscriber
      · simp only [kind, ne_eq, not_true_eq_false, if_false, or_true]
      · simp only [kind, ne_eq, not_false_eq_true, if_true, true_or]

/-- The table has the old subscriptions and the new one. -/
theorem lookup_subscribed (sound : self.Sound)
    (known : (self.transport.subscriptions ++ [(self.transport.nextHandle, endpoint)]).lookup handle = some other) :
    (handle = self.transport.nextHandle ∧ other = endpoint) ∨
      (handle ≠ self.transport.nextHandle ∧ self.endpointOf handle = some other) := by
  by_cases same : handle = self.transport.nextHandle
  · rw [same, sound.ordered.lookup_added] at known
    exact .inl ⟨same, (Option.some.inj known).symm⟩
  · rw [HandleTable.lookup_push same] at known
    exact .inr ⟨same, known⟩

theorem sound_subscribe (sound : self.Sound) (endpoint : Handle) : (self.subscribe endpoint).Sound := by
  rcases subscribe_cases endpoint self with same | subscribed
  · rwa [same]
  · rw [subscribed]
    refine ⟨sound.ordered.add, fun handle other known => ?_, fun turn listed => ?_⟩
    · rcases lookup_subscribed sound known with ⟨rfl, _⟩ | ⟨different, known⟩
      · exact congrArg Subscription.active (replace_self _)
      · exact (congrArg Subscription.active (replace_ne different _)).trans (sound.active handle other known)
    · obtain ⟨less, same⟩ := sound.turns turn listed
      refine ⟨Nat.lt_succ_of_lt less, fun other known => ?_⟩
      rcases lookup_subscribed sound known with ⟨equal, _⟩ | ⟨_, known⟩
      · exact absurd equal (Nat.ne_of_lt less)
      · exact same other known

theorem delivers_subscribe (sound : self.Sound) (delivers : self.Delivers) (endpoint : Handle) :
    (self.subscribe endpoint).Delivers := by
  rcases subscribe_cases endpoint self with same | subscribed
  · rwa [same]
  · rw [subscribed]
    intro handle other known
    rcases lookup_subscribed sound known with ⟨rfl, _⟩ | ⟨different, known⟩
    · exact (congrArg Subscription.Served (replace_self _)).mpr rfl
    · exact (congrArg Subscription.Served (replace_ne different _)).mpr (delivers handle other known)

theorem receive_own (known : self.endpointOf handle = some endpoint) :
    (self.receive endpoint sample).subscriptions handle = (self.subscriptions handle).record sample := if_pos known

theorem receive_other (apart : self.endpointOf handle ≠ some endpoint) :
    (self.receive endpoint sample).subscriptions handle = self.subscriptions handle := if_neg apart

section Turn
variable (turn : self.turns = (handle, endpoint) :: rest)
include turn

theorem receiveLoop_some : self.receiveLoop (some sample) = (self.receive endpoint sample).replace handle
    (((self.receive endpoint sample).subscriptions handle).dispatch sample) := by
  unfold receiveLoop
  rw [turn]

/-- The subscription that has the turn gets a task. -/
theorem receiveLoop_turn : (self.receiveLoop (some sample)).subscriptions handle =
    ((self.receive endpoint sample).subscriptions handle).dispatch sample := by
  rw [receiveLoop_some turn]
  exact replace_self _

/-- The other subscriptions get no task. -/
theorem receiveLoop_other {other : Handle} (different : other ≠ handle) :
    (self.receiveLoop (some sample)).subscriptions other = (self.receive endpoint sample).subscriptions other := by
  rw [receiveLoop_some turn]
  exact replace_ne different _

theorem endpointOf_receiveLoop (other : Handle) :
    (self.receiveLoop (some sample)).endpointOf other = self.endpointOf other := by
  rw [receiveLoop_some turn]
  rfl

theorem alone_sample : Alone (.receiveLoop (some sample)) self ↔
    ∀ other, self.endpointOf other = some endpoint → other = handle := by
  unfold Alone
  rw [turn]

/-- A sample keeps the table and the turn, and no subscription becomes inactive. -/
theorem sound_sample (sound : self.Sound) : (self.receiveLoop (some sample)).Sound := by
  have active : ∀ other, ((self.receiveLoop (some sample)).subscriptions other).active =
      (self.subscriptions other).active := by
    intro other
    have recorded : ((self.receive endpoint sample).subscriptions other).active =
        (self.subscriptions other).active := by
      by_cases known : self.endpointOf other = some endpoint
      · rw [receive_own known]
        rfl
      · rw [receive_other known]
    by_cases same : other = handle
    · subst same
      rw [receiveLoop_turn turn]
      exact recorded
    · rw [receiveLoop_other turn same]
      exact recorded
  constructor
  · rw [receiveLoop_some turn]
    exact sound.ordered.mono (Nat.le_succ _)
  · intro other found known
    rw [endpointOf_receiveLoop turn] at known
    rw [active]
    exact sound.active other found known
  · intro entry listed
    rw [receiveLoop_some turn] at listed ⊢
    obtain ⟨less, same⟩ := sound.turns entry listed
    exact ⟨Nat.lt_succ_of_lt less, same⟩

/-- The samples stay served exactly when the sample comes in the turn of the only subscription of its endpoint. -/
theorem delivers_sample (sound : self.Sound) (delivers : self.Delivers) :
    (self.receiveLoop (some sample)).Delivers ↔ ∀ other, self.endpointOf other = some endpoint → other = handle := by
  constructor
  · intro later other known
    by_contra different
    have served := later other endpoint ((endpointOf_receiveLoop turn other).trans known)
    rw [receiveLoop_other turn different, receive_own known] at served
    exact served_record (delivers other endpoint known) served
  · intro alone other found known
    rw [endpointOf_receiveLoop turn] at known
    have before := delivers other found known
    by_cases same : found = endpoint
    · subst same
      obtain rfl := alone other known
      rw [receiveLoop_turn turn, receive_own known]
      have longer := congrArg (· ++ [sample]) before
      exact (List.append_assoc _ _ _).symm.trans longer
    · have apart : self.endpointOf other ≠ some endpoint := fun equal =>
        same (Option.some.inj (known.symm.trans equal))
      have different : other ≠ handle := by
        rintro rfl
        have entry := sound.turns (other, endpoint) (turn ▸ List.mem_cons_self)
        exact same (entry.2 found known)
      rw [receiveLoop_other turn different, receive_other apart]
      exact before

end Turn

theorem mem_activeSubscriptions {listing : List (Handle × Handle)} {entry : Handle × Handle}
    (listed : entry ∈ activeSubscriptions listing transport) : entry ∈ transport.subscriptions := by
  have member := (List.mem_filter.mp listed).1
  split at member
  · rename_i lists
    exact lists.mem_iff.mp member
  · exact member

/-- Every action is quiet, or it subscribes, or the loop receives a sample in a turn. -/
theorem perform_cases (sound : self.Sound) (action : Action S) :
    (Quiet self (perform action self) ∧ Alone action self) ∨ (∃ endpoint, action = .subscribe endpoint) ∨
      ∃ sample handle endpoint rest, action = .receiveLoop (some sample) ∧ self.turns = (handle, endpoint) :: rest := by
  have same : Quiet self self := quiet_turns sound fun _ listed => .inl listed
  cases action with
  | pass listing =>
      refine .inl ⟨?_, trivial⟩
      simp only [perform, pass]
      split
      · exact quiet_turns sound fun entry listed => .inr (mem_activeSubscriptions listed)
      · exact same
  | receiveLoop sample =>
      cases turn : self.turns with
      | nil =>
          refine .inl ⟨?_, by simp only [Alone, turn]⟩
          simp only [perform, receiveLoop, turn]
          exact same
      | cons entry rest =>
          cases sample with
          | none =>
              refine .inl ⟨?_, trivial⟩
              simp only [perform, receiveLoop, turn]
              refine quiet_turns sound fun entry listed => .inl ?_
              rw [turn]
              exact List.mem_cons_of_mem _ listed
          | some sample => exact .inr (.inr ⟨sample, entry.1, entry.2, rest, rfl, rfl⟩)
  | runSample handle =>
      exact .inl ⟨quiet_update sound (fun _ _ => active_runSample _) fun _ _ => served_runSample, trivial⟩
  | subscribe endpoint => exact .inr (.inl ⟨endpoint, rfl⟩)
  | unsubscribe handle =>
      refine .inl ⟨?_, trivial⟩
      simp only [perform, Transport.unsubscribe]
      split
      · exact same
      · refine quiet_transport sound.ordered.remove (Nat.le_refl _) fun other endpoint known => ?_
        have different : other ≠ handle := by
          rintro rfl
          rw [HandleTable.lookup_remove_self] at known
          cases known
        rwa [HandleTable.lookup_remove_ne different] at known
  | withdraw handle =>
      refine .inl ⟨?_, trivial⟩
      simp only [perform, withdraw]
      split
      · exact same
      · rename_i gone
        refine quiet_update sound (fun endpoint known => ?_) fun _ _ _ served => served
        rw [known] at gone
        exact absurd rfl gone
  | endpointCreate endpoint =>
      refine .inl ⟨?_, trivial⟩
      simp only [perform, Transport.endpointCreate]
      split
      · exact same
      · exact quiet_kept sound rfl (Nat.le_succ _)
  | endpointDestroy endpoint =>
      refine .inl ⟨?_, trivial⟩
      simp only [perform, Transport.endpointDestroy]
      split
      · exact same
      · split
        · exact same
        · exact quiet_kept sound rfl (Nat.le_refl _)
  | operate handles tables => exact .inl ⟨quiet_kept sound rfl (Nat.le_add_right _ _), trivial⟩
  | run running => exact .inl ⟨quiet_kept sound rfl (Nat.le_refl _), trivial⟩
  | drain => exact .inl ⟨quiet_transport .empty (Nat.le_refl _) nofun, trivial⟩

theorem sound_perform (action : Action S) (self : FanOut S) (sound : self.Sound) : (perform action self).Sound := by
  rcases perform_cases sound action with ⟨quiet, _⟩ | ⟨endpoint, rfl⟩ | ⟨sample, handle, endpoint, rest, rfl, turn⟩
  · exact quiet.sound sound
  · exact sound_subscribe sound endpoint
  · exact sound_sample turn sound

theorem delivers_perform (action : Action S) (self : FanOut S) (sound : self.Sound) (delivers : self.Delivers) :
    (perform action self).Delivers ↔ Alone action self := by
  rcases perform_cases sound action with ⟨quiet, alone⟩ | ⟨endpoint, rfl⟩ | ⟨sample, handle, endpoint, rest, rfl, turn⟩
  · exact iff_of_true (quiet.delivers sound delivers) alone
  · exact iff_of_true (delivers_subscribe sound delivers endpoint) trivial
  · exact (delivers_sample turn sound delivers).trans (alone_sample turn).symm

end Invariant

section Runs
variable (maxEndpoints maxOperations : Nat)

theorem sound_created : (created maxEndpoints maxOperations : FanOut S).Sound := ⟨.empty, nofun, nofun⟩

/-- The subscriptions get every sample of their endpoints, once and in order, along the runs where each sample comes
in the turn of the only subscription of its endpoint, and along no others. -/
theorem fan_out (actions : List (Action S)) : Along perform Delivers (created maxEndpoints maxOperations) actions ↔
      Taken perform Alone (created maxEndpoints maxOperations) actions :=
  along_iff_taken sound_perform delivers_perform (sound_created maxEndpoints maxOperations) nofun

/-- The first of two subscriptions takes the sample of both. -/
theorem second_subscription_unserved : ¬(after perform (created 128 128) [.endpointCreate ⟨.eventSubscriber, ⟨0, 0⟩⟩,
    .subscribe 1, .subscribe 1, .pass [(2, 1), (3, 1)], .receiveLoop (some ())]).Delivers := by
  intro delivers
  have served := delivers 3 1 rfl
  cases served

end Runs

end FanOut

end OpenVehicle.Com.Iceoryx
