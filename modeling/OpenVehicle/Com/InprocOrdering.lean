/-
This file proves when the subscriptions of the in-process transport get the samples of a publisher in the order of their
numbers. A call takes its number in the locked section, and it hands its sample over after that.
-/

import OpenVehicle.Com.Inproc
import OpenVehicle.Concurrency.System
import Mathlib.Logic.Function.Basic

namespace OpenVehicle.Com.InprocOrdering

open Concurrency (System)

/-- A call of a publisher has the subscriptions that do not have its sample yet. -/
structure Call where
  publisher : Handle
  sequence : Nat
  targets : List Handle
  deriving DecidableEq, Repr

structure Task where
  publisher : Handle
  sequence : Nat
  subscription : Handle
  deriving DecidableEq, Repr

/-- The callback of a subscription has got samples with their publishers and numbers. -/
structure Subscription where
  active : Bool := true
  received : List (Handle × Nat) := []
  deriving DecidableEq, Repr

/-- Each thread is in one call at most, and the executor runs the tasks in their order. -/
structure Events where
  transport : InprocTransport
  sequence : Nat := 0
  calls : Nat → Option Call := fun _ => none
  tasks : List Task := []
  subscriptions : Handle → Subscription := fun _ => {}

inductive Action where
  | deliver (thread : Nat) (publisher : Handle) (size : Nat)
  | handOver (thread : Nat) (target : Handle) (accepted : Bool)
  | finish (thread : Nat)
  | runTask
  | subscribe (endpoint : Handle)
  | unsubscribe (handle : Handle)
  | deactivate (handle : Handle)
  | endpointCreate (descriptor : EndpointDescriptor)
  | endpointDestroy (handle : Handle)
  | start
  | stop
  | operate (handles : Nat) (tables : InprocTransport)
  deriving DecidableEq, Repr

namespace Events

/-- The subscriptions of the element of a publisher. -/
def targets (source : EndpointDescriptor) (transport : InprocTransport) : List Handle :=
  (transport.subscriptions.filter fun subscription =>
    (transport.endpoints.lookup subscription.2).any (InprocTransport.sameElement source)).map Prod.fst

/-- The locked section counts the samples of the transport in 64 bits. -/
def deliver (publisher : Handle) (size : Nat) (self : Events) : Except Status Call × Events :=
  if !self.transport.running then (.error .invalidState, self)
  else
    match self.transport.endpoints.lookup publisher with
    | none => (.error .notFound, self)
    | some source =>
        if source.kind ≠ .eventPublisher then (.error .invalidArgument, self)
        else if size > source.maxPayloadSize then (.error .resourceExhausted, self)
        else
          let sequence := (self.sequence + 1) % 2 ^ 64
          (.ok ⟨publisher, sequence, targets source self.transport⟩, { self with sequence := sequence })

def enter (thread : Nat) (call : Option Call) (self : Events) : Events :=
  { self with calls := Function.update self.calls thread call }

/-- A table has its subscriptions in no order, so a call takes any of its targets. A task that the executor rejects ends
the call. -/
def handOver (thread : Nat) (target : Handle) (accepted : Bool) (call : Call) (self : Events) : Events :=
  if accepted then
    { self.enter thread (some { call with targets := call.targets.filter (· != target) }) with
      tasks := self.tasks ++ [⟨call.publisher, call.sequence, target⟩] }
  else self.enter thread none

def replace (handle : Handle) (subscription : Subscription) (self : Events) : Events :=
  { self with subscriptions := Function.update self.subscriptions handle subscription }

/-- A task calls the callback of its subscription while that is active. -/
def runTask (task : Task) (rest : List Task) (self : Events) : Events :=
  let subscription := self.subscriptions task.subscription
  if subscription.active then
    { self.replace task.subscription { subscription with
        received := subscription.received ++ [(task.publisher, task.sequence)] } with tasks := rest }
  else { self with tasks := rest }

def subscribe (endpoint : Handle) (self : Events) : Except Status Handle × Events :=
  match self.transport.endpoints.lookup endpoint with
  | none => (.error .notFound, self)
  | some found =>
      if found.kind ≠ .eventSubscriber then (.error .invalidArgument, self)
      else
        (.ok self.transport.nextHandle, { self.replace self.transport.nextHandle {} with
          transport := { self.transport with
            nextHandle := self.transport.nextHandle + 1
            subscriptions := self.transport.subscriptions ++ [(self.transport.nextHandle, endpoint)] } })

def unsubscribe (handle : Handle) (transport : InprocTransport) : InprocTransport :=
  { transport with subscriptions := transport.subscriptions.filter fun entry => entry.1 != handle }

def perform (action : Action) (self : Events) : Option Events :=
  match action with
  | .deliver thread publisher size =>
      if self.calls thread = none then
        match self.deliver publisher size with
        | (.error _, later) => some later
        | (.ok call, later) => some (later.enter thread (some call))
      else none
  | .handOver thread target accepted =>
      match self.calls thread with
      | none => none
      | some call => if target ∈ call.targets then some (self.handOver thread target accepted call) else none
  | .finish thread => if (self.calls thread).any (·.targets.isEmpty) then some (self.enter thread none) else none
  | .runTask =>
      match self.tasks with
      | [] => none
      | task :: rest => some (self.runTask task rest)
  | .subscribe endpoint => some (self.subscribe endpoint).2
  | .unsubscribe handle => some { self with transport := unsubscribe handle self.transport }
  | .deactivate handle => some (self.replace handle { self.subscriptions handle with active := false })
  | .endpointCreate descriptor => some { self with transport := (self.transport.endpointCreate descriptor).2 }
  | .endpointDestroy handle => some { self with transport := (self.transport.endpointDestroy handle).2 }
  | .start => some { self with transport := self.transport.start.2 }
  | .stop => some { self with transport := self.transport.stop.2 }
  | .operate handles tables => some { self with transport := { tables with
      running := self.transport.running
      nextHandle := self.transport.nextHandle + handles
      endpoints := self.transport.endpoints
      subscriptions := self.transport.subscriptions } }

end Events

def machine : System Events Action where
  perform := Events.perform

variable {action : Action} {thread : Nat} {call : Call}

namespace Events

/-- Samples of one publisher have increasing numbers. -/
def Before (earlier later : Handle × Nat) : Prop := earlier.1 = later.1 → earlier.2 < later.2

def Increasing (self : Events) : Prop := ∀ handle, (self.subscriptions handle).received.Pairwise Before

/-- A call hands its sample over to a subscription after the earlier calls of the publisher, and the counter does not
start again. -/
def InTurn (self : Events) (action : Action) : Prop :=
  match action with
  | .deliver _ _ _ => self.sequence + 1 < 2 ^ 64
  | .handOver thread target _ => ∀ call other earlier, self.calls thread = some call → self.calls other = some earlier →
      earlier.publisher = call.publisher → target ∈ earlier.targets → call.sequence ≤ earlier.sequence
  | _ => True

section Invariant
variable {self later : Events} {handle target : Handle}

/-- These samples are on their way to a subscription, in the order of their tasks. -/
def waiting (handle : Handle) (tasks : List Task) : List (Handle × Nat) :=
  (tasks.filter (·.subscription == handle)).map fun task => (task.publisher, task.sequence)

def handed (self : Events) (handle : Handle) : List (Handle × Nat) :=
  (self.subscriptions handle).received ++ waiting handle self.tasks

structure Sound (events : Events) : Prop where
  increasing : ∀ handle, (events.handed handle).Pairwise Before
  numbered : ∀ handle, ∀ sample ∈ events.handed handle, sample.2 ≤ events.sequence
  counted : ∀ thread call, events.calls thread = some call → call.sequence ≤ events.sequence
  behind : ∀ thread call, events.calls thread = some call → ∀ handle ∈ call.targets,
    ∀ sample ∈ events.handed handle, sample.1 = call.publisher → sample.2 < call.sequence
  distinct : ∀ first second call other, events.calls first = some call → events.calls second = some other →
    call.sequence = other.sequence → first = second

theorem Sound.received (sound : self.Sound) : self.Increasing :=
  fun handle => (sound.increasing handle).sublist (List.sublist_append_left _ _)

/-- A step that starts no call and hands no sample over is sound. -/
theorem Sound.quiet (sound : self.Sound) (sequence : later.sequence = self.sequence)
    (calls : ∀ thread call, later.calls thread = some call → self.calls thread = some call)
    (handed : ∀ handle, (later.handed handle).Sublist (self.handed handle)) : later.Sound where
  increasing handle := (sound.increasing handle).sublist (handed handle)
  numbered handle sample found := by
    rw [sequence]
    exact sound.numbered handle sample ((handed handle).subset found)
  counted thread call known := by
    rw [sequence]
    exact sound.counted thread call (calls thread call known)
  behind thread call known handle listed sample found :=
    sound.behind thread call (calls thread call known) handle listed sample ((handed handle).subset found)
  distinct first second call other known found :=
    sound.distinct first second call other (calls _ _ known) (calls _ _ found)

theorem sound_tables (sound : self.Sound) (transport : InprocTransport) :
    ({ self with transport := transport } : Events).Sound :=
  sound.quiet rfl (fun _ _ known => known) fun _ => List.Sublist.refl _

theorem calls_enter (self : Events) (thread : Nat) (call : Option Call) :
    (self.enter thread call).calls thread = call := Function.update_self _ _ _

theorem calls_enter_ne {other : Nat} (different : other ≠ thread) (call : Option Call) :
    (self.enter thread call).calls other = self.calls other := Function.update_of_ne different _ _

theorem sound_leave (sound : self.Sound) (thread : Nat) : (self.enter thread none).Sound := by
  refine sound.quiet rfl (fun other call known => ?_) fun _ => List.Sublist.refl _
  by_cases same : other = thread
  · subst same
    rw [calls_enter] at known
    cases known
  · rwa [calls_enter_ne same] at known

theorem replace_self (self : Events) (handle : Handle) (subscription : Subscription) :
    (self.replace handle subscription).subscriptions handle = subscription := Function.update_self _ _ _

theorem replace_ne {other : Handle} (different : other ≠ handle) (subscription : Subscription) :
    (self.replace handle subscription).subscriptions other = self.subscriptions other :=
  Function.update_of_ne different _ _

theorem sound_replace (sound : self.Sound) {subscription : Subscription}
    (fewer : subscription.received.Sublist (self.subscriptions handle).received) :
    (self.replace handle subscription).Sound := by
  refine sound.quiet rfl (fun _ _ known => known) fun other => ?_
  apply List.Sublist.append _ (List.Sublist.refl _)
  by_cases same : other = handle
  · subst same
    rwa [replace_self]
  · rw [replace_ne same]

/-- A task moves its sample to the callback, or the sample is lost. -/
theorem sound_runTask (sound : self.Sound) {task : Task} {rest : List Task} (tasks : self.tasks = task :: rest) :
    (self.runTask task rest).Sound := by
  have waits (other : Handle) : waiting other self.tasks =
      (if task.subscription = other then [(task.publisher, task.sequence)] else []) ++ waiting other rest := by
    rw [tasks, waiting, List.filter_cons]
    by_cases same : task.subscription = other <;> simp [same, waiting]
  unfold runTask
  dsimp only
  split
  · refine sound.quiet rfl (fun _ _ known => known) fun other => ?_
    by_cases same : other = task.subscription
    · subst same
      simp [handed, waits, replace]
    · simp [handed, waits, replace, same, Ne.symm same]
  · refine sound.quiet rfl (fun _ _ known => known) fun other => ?_
    apply List.Sublist.append (List.Sublist.refl _)
    rw [waits]
    exact List.sublist_append_right _ _

/-- A call is refused without an effect, or it takes the next number. -/
theorem deliver_cases (publisher : Handle) (size : Nat) (self : Events) :
    (∃ status, self.deliver publisher size = (.error status, self)) ∨
      ∃ targets, self.deliver publisher size = (.ok ⟨publisher, (self.sequence + 1) % 2 ^ 64, targets⟩,
        { self with sequence := (self.sequence + 1) % 2 ^ 64 }) := by
  unfold deliver
  dsimp only
  split
  · exact .inl ⟨_, rfl⟩
  · split
    · exact .inl ⟨_, rfl⟩
    · split
      · exact .inl ⟨_, rfl⟩
      · split
        · exact .inl ⟨_, rfl⟩
        · exact .inr ⟨_, rfl⟩

variable (sound : self.Sound)
include sound

/-- A call takes a number that is greater than the numbers of all samples. -/
theorem sound_enter (number : call.sequence = self.sequence + 1) :
    (enter thread (some call) { self with sequence := self.sequence + 1 }).Sound := by
  have known (other : Nat) (found : Call)
      (entry : (enter thread (some call) { self with sequence := self.sequence + 1 }).calls other = some found) :
      (other = thread ∧ found = call) ∨ (other ≠ thread ∧ self.calls other = some found) := by
    by_cases same : other = thread
    · subst same
      rw [calls_enter] at entry
      exact .inl ⟨rfl, (Option.some.inj entry).symm⟩
    · rw [calls_enter_ne same] at entry
      exact .inr ⟨same, entry⟩
  constructor
  · exact sound.increasing
  · exact fun handle sample found => Nat.le_succ_of_le (sound.numbered handle sample found)
  · intro other found entry
    rcases known other found entry with ⟨_, rfl⟩ | ⟨_, old⟩
    · exact Nat.le_of_eq number
    · exact Nat.le_succ_of_le (sound.counted other found old)
  · intro other found entry handle listed sample waits publisher
    rcases known other found entry with ⟨_, rfl⟩ | ⟨_, old⟩
    · rw [number]
      exact Nat.lt_succ_of_le (sound.numbered handle sample waits)
    · exact sound.behind other found old handle listed sample waits publisher
  · intro first second one two entry place same
    rcases known first one entry with ⟨rfl, rfl⟩ | ⟨_, old⟩
    · rcases known second two place with ⟨rfl, rfl⟩ | ⟨_, old⟩
      · rfl
      · have least := sound.counted second two old
        omega
    · rcases known second two place with ⟨rfl, rfl⟩ | ⟨_, other⟩
      · have least := sound.counted first one old
        omega
      · exact sound.distinct first second one two old other same

/-- A sample that is handed over in its turn is the last one of its publisher. -/
theorem sound_handOver (known : self.calls thread = some call) (listed : target ∈ call.targets)
    (turn : self.InTurn (.handOver thread target true)) : (self.handOver thread target true call).Sound := by
  have added (handle : Handle) : (self.handOver thread target true call).handed handle = self.handed handle ++
      if target = handle then [(call.publisher, call.sequence)] else [] := by
    by_cases same : target = handle <;> simp [handed, handOver, waiting, enter, same]
  have place (other : Nat) (found : Call) (entry : (self.handOver thread target true call).calls other = some found) :
      (other = thread ∧ found = { call with targets := call.targets.filter (· != target) }) ∨
        (other ≠ thread ∧ self.calls other = some found) := by
    by_cases same : other = thread
    · subst same
      exact .inl ⟨rfl, (Option.some.inj ((calls_enter _ _ _).symm.trans entry)).symm⟩
    · exact .inr ⟨same, (calls_enter_ne same _).symm.trans entry⟩
  -- The old call stands for what is left of it, with its number and its publisher.
  have old (other : Nat) (found : Call) (entry : (self.handOver thread target true call).calls other = some found) :
      ∃ before, self.calls other = some before ∧ before.sequence = found.sequence ∧
        before.publisher = found.publisher ∧ ∀ handle ∈ found.targets, handle ∈ before.targets := by
    rcases place other found entry with ⟨rfl, rfl⟩ | ⟨_, old⟩
    · exact ⟨call, known, rfl, rfl, fun handle found => (List.mem_filter.mp found).1⟩
    · exact ⟨found, old, rfl, rfl, fun _ found => found⟩
  have mem (handle : Handle) (sample : Handle × Nat)
      (found : sample ∈ (self.handOver thread target true call).handed handle) :
      sample ∈ self.handed handle ∨ target = handle ∧ sample = (call.publisher, call.sequence) := by
    rw [added] at found
    rcases List.mem_append.mp found with before | last
    · exact .inl before
    · split at last
      · rename_i same
        exact .inr ⟨same, List.mem_singleton.mp last⟩
      · cases last
  constructor
  · intro handle
    rw [added]
    split
    · rename_i same
      rw [List.pairwise_append]
      refine ⟨sound.increasing handle, List.pairwise_singleton _ _, fun sample found last new publisher => ?_⟩
      obtain rfl := List.mem_singleton.mp new
      exact sound.behind thread call known handle (same ▸ listed) sample found publisher
    · rw [List.append_nil]
      exact sound.increasing handle
  · intro handle sample found
    rcases mem handle sample found with before | ⟨_, rfl⟩
    · exact sound.numbered handle sample before
    · exact sound.counted thread call known
  · intro other found entry
    obtain ⟨before, present, same, _⟩ := old other found entry
    exact same ▸ sound.counted other before present
  · intro other found entry handle waits sample sent publisher
    rcases mem handle sample sent with sooner | ⟨same, rfl⟩
    · obtain ⟨before, present, number, source, more⟩ := old other found entry
      rw [← number]
      exact sound.behind other before present handle (more handle waits) sample sooner (publisher.trans source.symm)
    · subst same
      rcases place other found entry with ⟨_, rfl⟩ | ⟨different, present⟩
      · simp at waits
      · have least := turn call other found known present publisher.symm waits
        refine Nat.lt_of_le_of_ne least fun equal => different ?_
        exact sound.distinct other thread found call present known equal.symm
  · intro first second one two entry present same
    obtain ⟨before, known, number, _⟩ := old first one entry
    obtain ⟨other, found, count, _⟩ := old second two present
    exact sound.distinct first second before other known found (number.trans (same.trans count.symm))

theorem sound_subscribe (endpoint : Handle) : (self.subscribe endpoint).2.Sound := by
  unfold subscribe
  split
  · exact sound
  · split
    · exact sound
    · exact sound_tables (sound_replace sound (List.nil_sublist _)) _

/-- Every action that is in turn keeps the events sound. -/
theorem sound_perform (turn : self.InTurn action) (performed : self.perform action = some later) : later.Sound := by
  cases action with
  | deliver thread publisher size =>
      unfold perform at performed
      dsimp only at performed
      split at performed
      · rcases deliver_cases publisher size self with ⟨status, refused⟩ | ⟨targets, delivered⟩
        · rw [refused] at performed
          cases performed
          exact sound
        · rw [delivered, Nat.mod_eq_of_lt turn] at performed
          cases performed
          exact sound_enter sound rfl
      · cases performed
  | handOver thread target accepted =>
      unfold perform at performed
      dsimp only at performed
      split at performed
      · cases performed
      · rename_i call known
        split at performed
        · rename_i listed
          cases performed
          cases accepted with
          | true => exact sound_handOver sound known listed turn
          | false => exact sound_leave sound thread
        · cases performed
  | finish thread =>
      obtain ⟨_, entered⟩ := Option.ite_none_right_eq_some.mp performed
      obtain rfl := Option.some.inj entered
      exact sound_leave sound thread
  | runTask =>
      unfold perform at performed
      dsimp only at performed
      split at performed
      · cases performed
      · rename_i task rest tasks
        cases performed
        exact sound_runTask sound tasks
  | subscribe endpoint =>
      cases performed
      exact sound_subscribe sound endpoint
  | deactivate handle =>
      cases performed
      exact sound_replace sound (List.Sublist.refl _)
  | unsubscribe handle | endpointCreate descriptor | endpointDestroy handle | start | stop | operate handles tables =>
      cases performed
      exact sound_tables sound _

end Invariant

section Reached
variable {self later events : Events} {transport : InprocTransport}

def created (transport : InprocTransport) : Events := { transport := transport }

theorem sound_created (transport : InprocTransport) : (created transport).Sound where
  increasing _ := .nil
  numbered handle sample found := by cases found
  counted thread call known := by cases known
  behind thread call known := by cases known
  distinct first second call other known := by cases known

/-- While the publishers deliver in turn, every subscription receives increasing sequence numbers. -/
theorem samples_in_order (transport : InprocTransport) (events : Events)
    (reached : machine.Reaches InTurn (created transport) events) : events.Increasing := by
  apply Sound.received
  exact reached.invariant (sound_created transport) fun _ _ _ sound turn performed => sound_perform sound turn performed

/-- A publisher makes one call at a time. -/
def Alone (self : Events) (action : Action) : Prop :=
  match action with
  | .deliver _ publisher _ => self.sequence + 1 < 2 ^ 64 ∧
      ∀ thread call, self.calls thread = some call → call.publisher ≠ publisher
  | _ => True

def Separate (events : Events) : Prop := ∀ first second call other, events.calls first = some call →
  events.calls second = some other → call.publisher = other.publisher → first = second

theorem calls_perform (performed : self.perform action = some later) (known : later.calls thread = some call) :
    (∃ before, self.calls thread = some before ∧ before.publisher = call.publisher) ∨
      ∃ size, action = .deliver thread call.publisher size := by
  have entered {other : Nat} {next : Option Call} {start : Events} (calls : start.calls = self.calls)
      (entry : (start.enter other next).calls thread = some call) :
      thread = other ∧ next = some call ∨ self.calls thread = some call := by
    by_cases same : thread = other
    · subst same
      exact .inl ⟨rfl, (calls_enter _ _ _).symm.trans entry⟩
    · exact .inr ((congrFun calls thread).symm.trans ((calls_enter_ne same _).symm.trans entry))
  unfold perform at performed
  cases action with
  | deliver other publisher size =>
      dsimp only at performed
      split at performed
      · rcases deliver_cases publisher size self with ⟨status, refused⟩ | ⟨targets, delivered⟩
        · rw [refused] at performed
          cases performed
          exact .inl ⟨call, known, rfl⟩
        · rw [delivered] at performed
          cases performed
          rcases entered rfl known with ⟨rfl, new⟩ | old
          · cases new
            exact .inr ⟨size, rfl⟩
          · exact .inl ⟨call, old, rfl⟩
      · cases performed
  | handOver other target accepted =>
      dsimp only at performed
      split at performed
      · cases performed
      · rename_i before found
        split at performed
        · cases performed
          cases accepted with
          | true =>
              rcases entered rfl known with ⟨rfl, new⟩ | old
              · cases new
                exact .inl ⟨before, found, rfl⟩
              · exact .inl ⟨call, old, rfl⟩
          | false =>
              rcases entered rfl known with ⟨_, new⟩ | old
              · cases new
              · exact .inl ⟨call, old, rfl⟩
        · cases performed
  | finish other =>
      obtain ⟨_, left⟩ := Option.ite_none_right_eq_some.mp performed
      obtain rfl := Option.some.inj left
      rcases entered rfl known with ⟨_, new⟩ | old
      · cases new
      · exact .inl ⟨call, old, rfl⟩
  | runTask =>
      dsimp only at performed
      split at performed
      · cases performed
      · rename_i task rest _
        cases performed
        unfold runTask at known
        dsimp only at known
        split at known <;> exact .inl ⟨call, known, rfl⟩
  | subscribe endpoint =>
      cases performed
      unfold subscribe at known
      split at known
      · exact .inl ⟨call, known, rfl⟩
      · split at known <;> exact .inl ⟨call, known, rfl⟩
  | deactivate handle | unsubscribe handle | endpointCreate descriptor | endpointDestroy handle | start | stop
  | operate handles tables =>
      cases performed
      exact .inl ⟨call, known, rfl⟩

/-- The calls of a publisher are in turn when it makes one at a time. -/
theorem inTurn_of_alone (reached : machine.Reaches Alone (created transport) events) :
    machine.Reaches InTurn (created transport) events := by
  have both : events.Separate ∧ machine.Reaches InTurn (created transport) events := by
    apply reached.invariant
    · refine ⟨?_, .refl⟩
      intro first second call other known
      cases known
    · rintro before action later ⟨separate, reached⟩ alone performed
      have calls {thread : Nat} {call : Call} (known : later.calls thread = some call) :=
        calls_perform (show before.perform action = some later from performed) known
      constructor
      · intro first second call other known found same
        rcases calls known with ⟨old, entry, publisher⟩ | ⟨size, rfl⟩
        · rcases calls found with ⟨past, place, source⟩ | ⟨size, rfl⟩
          · exact separate first second old past entry place (publisher.trans (same.trans source.symm))
          · exact absurd (publisher.trans same) (alone.2 first old entry)
        · rcases calls found with ⟨past, place, source⟩ | ⟨_, again⟩
          · exact absurd (source.trans same.symm) (alone.2 second past place)
          · exact (Action.deliver.inj again).1
      · refine reached.step ?_ performed
        cases action with
        | deliver thread publisher size => exact alone.1
        | handOver thread target accepted =>
            intro call other earlier known found publisher _
            obtain rfl := separate other thread earlier call found known publisher
            rw [known] at found
            cases found
            exact Nat.le_refl _
        | finish | runTask | subscribe | unsubscribe | deactivate | endpointCreate | endpointDestroy | start | stop
        | operate => trivial
  exact both.2

/-- One thread makes all calls. -/
def single (self : Events) (action : Action) : Bool :=
  match action with
  | .deliver thread _ _ => thread == 0 && decide (self.sequence + 1 < 2 ^ 64)
  | _ => true

theorem alone_of_single (reached : machine.Reaches (fun self action => self.single action = true) (created transport)
    events) : machine.Reaches Alone (created transport) events := by
  have both : (∀ thread call, events.calls thread = some call → thread = 0) ∧
      machine.Reaches Alone (created transport) events := by
    apply reached.invariant
    · refine ⟨?_, .refl⟩
      intro thread call known
      cases known
    · rintro before action later ⟨only, reached⟩ single performed
      have step : before.perform action = some later := performed
      constructor
      · intro thread call known
        rcases calls_perform step known with ⟨old, entry, _⟩ | ⟨size, rfl⟩
        · exact only thread old entry
        · exact beq_iff_eq.mp ((Bool.and_eq_true _ _).mp single).1
      · refine reached.step ?_ performed
        cases action with
        | deliver thread publisher size =>
            obtain ⟨first, bounded⟩ := (Bool.and_eq_true _ _).mp single
            refine ⟨of_decide_eq_true bounded, fun other call known => ?_⟩
            obtain ⟨free, _⟩ := Option.ite_none_right_eq_some.mp step
            rw [only other call known, ← beq_iff_eq.mp first, free] at known
            cases known
        | handOver | finish | runTask | subscribe | unsubscribe | deactivate | endpointCreate | endpointDestroy | start
        | stop | operate => trivial
  exact both.2

end Reached

def element (kind : EndpointKind) : EndpointDescriptor where
  kind := kind
  serviceId := Vector.replicate 16 1
  instanceId := Vector.replicate 16 2
  elementId := Vector.replicate 16 3
  routeEpoch := 1
  maxPayloadSize := 64
  historyDepth := 1
  requiredFeatures := [.events, .ordered]
  nativeMapping := ""
  operation := .event

/-- The endpoint 1 publishes, and the endpoint 2 has the subscription 3. -/
def opening : List Action := [.endpointCreate (element .eventPublisher), .endpointCreate (element .eventSubscriber),
  .subscribe 2]

def overlapping : List Action := opening ++ [.deliver 0 1 8, .deliver 1 1 8, .handOver 1 3 true, .handOver 0 3 true,
  .runTask, .runTask]

def consecutive : List Action := opening ++ [.deliver 0 1 8, .handOver 0 3 true, .finish 0, .deliver 0 1 8,
  .handOver 0 3 true, .runTask, .runTask]

/-- A subscription gets two samples in order. -/
theorem consecutive_samples : ∃ events : Events,
    (events.subscriptions 3).received = [(1, 1), (1, 2)] ∧ events.Increasing := by
  obtain ⟨events, reached, received⟩ := System.Reaches.exists_of_run single (fun _ _ checked => checked)
    (consecutive.map fun action _ => action) (fun events => (events.subscriptions 3).received == [(1, 1), (1, 2)])
    (show (machine.run single _ (created {})).any _ = true by decide)
  exact ⟨events, beq_iff_eq.mp received, samples_in_order {} events (inTurn_of_alone (alone_of_single reached))⟩

/-- The second call hands its sample over before the first call does. -/
theorem overlapping_samples : ∃ events, machine.Reaches (fun _ _ => True) (created {}) events ∧ ¬events.Increasing := by
  obtain ⟨events, reached, received⟩ := System.Reaches.exists_of_run (fun _ _ => true) (fun _ _ _ => trivial)
    (overlapping.map fun action _ => action) (fun events => (events.subscriptions 3).received == [(1, 2), (1, 1)])
    (show (machine.run (fun _ _ => true) _ (created {})).any _ = true by decide)
  refine ⟨events, reached, fun increasing => ?_⟩
  have pair := increasing 3
  rw [beq_iff_eq.mp received, List.pairwise_pair] at pair
  exact absurd (pair rfl) (by decide)

end Events

end OpenVehicle.Com.InprocOrdering
