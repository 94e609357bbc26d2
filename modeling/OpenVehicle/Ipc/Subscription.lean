/-
This file translates the event subscription over the coordinator messages. The threads that change
the coordinator hand their events to the server one by one, the server keeps a bounded history,
and the subscriber asks for the events above the highest revision that it has seen.
-/

import OpenVehicle.Exec.SnapshotRevision

namespace OpenVehicle.Ipc

open Concurrency Exec FiniteMap TransitionPlanner
open Coordinator (Announcement Event Step announces drive emitted_step service started step_of_perform submit switching)

structure EventFilter where
  transitions : Bool := true
  configuration : Bool := true
  recovery : Bool := true
  domain : Option DomainId := none

def EventFilter.accepts (filter : EventFilter) (event : Event) : Bool :=
  (filter.domain.isNone || some event.domain == filter.domain) &&
    match event.kind with
    | .transitionChanged => filter.transitions
    | .configurationChanged => filter.configuration
    | .recoveryChanged => filter.recovery

/-- The thread of a subscription. The events that it hands to its handler are recorded. -/
structure Subscriber where
  filter : EventFilter
  start : Nat
  revision : Nat
  delivered : List Event := []

/-- The server, its one subscriber and the events that wait for its handler.
The last field only records what the history has dropped. -/
structure Feed where
  service : Coordinator.State
  handlers : List (List Event) := []
  history : List Event := []
  subscriber : Option Subscriber := none
  dropped : List Event := []

inductive FeedAction where
  | coordinate (action : Coordinator.Action)
  | push (handler : Nat)
  | subscribe (filter : EventFilter)
  | poll

variable (model : ValidatedModel) (capacity limit : Nat)

/-- A step of the coordinator leaves its events to the thread that made it. -/
def coordinate (action : Coordinator.Action) (feed : Feed) : Option Feed :=
  ((service model capacity).perform action feed.service).map fun later =>
    { feed with
      service := later
      handlers := feed.handlers ++ [(later.emitted.drop feed.service.emitted.length).map (·.event)] }

/-- The history drops its oldest events. -/
def record (event : Event) (feed : Feed) : Feed :=
  let events := feed.history ++ [event]
  { feed with
    history := events.drop (events.length - limit)
    dropped := feed.dropped ++ events.take (events.length - limit) }

/-- A thread hands its next event to the server. -/
def push (handler : Nat) (feed : Feed) : Option Feed :=
  match feed.handlers[handler]? with
  | some (event :: rest) =>
      some (record limit event { feed with handlers := feed.handlers.set handler rest })
  | _ => none

/-- A subscription starts at the revision of a snapshot. -/
def subscribe (filter : EventFilter) (feed : Feed) : Option Feed :=
  match feed.subscriber with
  | some _ => none
  | none => some { feed with
      subscriber := some { filter, start := feed.service.revision, revision := feed.service.revision } }

/-- The server reports an overrun if the oldest event does not follow the revision. -/
def isOverrun (revision : Nat) (history : List Event) : Bool :=
  match history with
  | [] => false
  | front :: _ => revision + 1 < front.revision

variable (subscriber : Subscriber)

def receive (event : Event) : Subscriber :=
  { subscriber with
    revision := max subscriber.revision event.revision
    delivered := if subscriber.filter.accepts event then subscriber.delivered ++ [event]
      else subscriber.delivered }

/-- The answer of the server to a poll that reports no overrun. -/
def answer (history : List Event) : List Event := history.filter fun event => subscriber.revision < event.revision

/-- The subscriber asks for the events above its revision. It drops the error that reports an overrun. -/
def poll (feed : Feed) : Option Feed :=
  feed.subscriber.map fun subscriber =>
    if isOverrun subscriber.revision feed.history then feed
    else
      { feed with subscriber := some ((answer subscriber feed.history).foldl receive subscriber) }

/-- The events of the coordinator on their way to one subscriber. -/
def feed : System Feed FeedAction where
  perform
    | .coordinate action => coordinate model capacity action
    | .push handler => push limit handler
    | .subscribe filter => subscribe filter
    | .poll => poll

/-- The server starts over a running coordinator. -/
def opened (service : Coordinator.State) : Feed := { service }

/-- The subscriber has a lower revision than an event for its handler. -/
def Subscriber.awaits (event : Event) : Bool := subscriber.revision < event.revision && subscriber.filter.accepts event

/-- At a poll, the history has dropped no event that the subscriber awaits. If the server reports an overrun,
then the history has none either. Otherwise the awaited events that are not pushed yet have revisions above the
whole history. -/
def settled (feed : Feed) : FeedAction → Bool
  | .poll => feed.subscriber.all fun subscriber =>
      !feed.dropped.any subscriber.awaits &&
        if isOverrun subscriber.revision feed.history then !feed.history.any subscriber.awaits
        else feed.handlers.flatten.all fun event => !subscriber.awaits event ||
          feed.history.all fun other => other.revision < event.revision
  | _ => true

section Receive
variable {subscriber : Subscriber}

theorem receive_all (events : List Event) : (events.foldl receive subscriber).filter = subscriber.filter ∧
    (events.foldl receive subscriber).start = subscriber.start ∧ (events.foldl receive subscriber).delivered =
      subscriber.delivered ++ events.filter subscriber.filter.accepts := by
  induction events generalizing subscriber with
  | nil => simp
  | cons event rest ih =>
      obtain ⟨filter, start, delivered⟩ := @ih (receive subscriber event)
      rw [List.foldl_cons]
      refine ⟨filter, start, ?_⟩
      rw [delivered]
      show (if _ then _ else _) ++ rest.filter subscriber.filter.accepts = _
      split
      · rename_i accepted
        rw [List.filter_cons_of_pos accepted, List.append_assoc, List.singleton_append]
      · rename_i rejected
        rw [List.filter_cons_of_neg rejected]

/-- The revision of a subscriber is the highest one that it has seen. -/
theorem receive_revision (events : List Event) : subscriber.revision ≤ (events.foldl receive subscriber).revision ∧
    (∀ event ∈ events, event.revision ≤ (events.foldl receive subscriber).revision) ∧
    ∀ bound, subscriber.revision ≤ bound → (∀ event ∈ events, event.revision ≤ bound) →
      (events.foldl receive subscriber).revision ≤ bound := by
  induction events generalizing subscriber with
  | nil => simp
  | cons event rest ih =>
      obtain ⟨grows, covers, least⟩ := @ih (receive subscriber event)
      rw [List.foldl_cons]
      refine ⟨(le_max_left _ _).trans grows, ?_, ?_⟩
      · intro other member
        rcases List.mem_cons.mp member with rfl | later
        · exact (le_max_right _ _).trans grows
        · exact covers other later
      · intro bound below within
        apply least bound
        · exact max_le below (within event List.mem_cons_self)
        · exact fun other member => within other (List.mem_cons_of_mem _ member)

end Receive

/-- The events that no thread has handed to the server yet. -/
def Feed.unpushed (feed : Feed) : List Event := feed.handlers.flatten

/-- The events that the server has received. -/
def Feed.pushed (feed : Feed) : List Event := feed.history ++ feed.dropped

/-- The server receives every event of the coordinator once. -/
structure Recorded (opening : Nat) (feed : Feed) : Prop where
  nodup : (feed.unpushed ++ feed.pushed).Nodup
  bounded : ∀ event ∈ feed.unpushed ++ feed.pushed, event.revision ≤ feed.service.revision
  complete : ∀ announcement ∈ feed.service.emitted, opening < announcement.event.revision →
    announcement.event ∈ feed.unpushed ++ feed.pushed
  opened : opening ≤ feed.service.revision

/-- A subscriber has received no event twice. It has received every pushed event of its filter up to its
revision, and the ones that will be pushed have higher revisions. -/
structure Follows (feed : Feed) (subscriber : Subscriber) : Prop where
  start : subscriber.start ≤ subscriber.revision
  bounded : subscriber.revision ≤ feed.service.revision
  nodup : subscriber.delivered.Nodup
  below : ∀ event ∈ subscriber.delivered, event.revision ≤ subscriber.revision
  ahead : ∀ event ∈ feed.unpushed, subscriber.start < event.revision → subscriber.filter.accepts event = true →
    subscriber.revision < event.revision
  received : ∀ event ∈ feed.pushed, subscriber.start < event.revision → event.revision ≤ subscriber.revision →
    subscriber.filter.accepts event = true → event ∈ subscriber.delivered

section Steps
variable {model : ValidatedModel} {capacity limit opening : Nat} {state later : Feed}

theorem nodup_choices {A : Type} {first second third : A} (one : first ≠ second) (two : first ≠ third)
    (three : second ≠ third) (some other : Bool) :
    ([first] ++ (if some then [second] else []) ++ (if other then [third] else [])).Nodup := by
  cases some <;> cases other <;> simp [one, two, three]

theorem finishEvents_nodup (revision : Nat) (transition : AcceptedTransition) (before after : Option ModeId)
    (result : Result TransitionSnapshot) :
    (Coordinator.finishEvents model revision transition before after result).Nodup := by
  exact nodup_choices (by simp) (by simp) (by simp) _ _

variable {action : Coordinator.Action}

/-- The events of one step of the coordinator. -/
theorem fresh_events {service next : Coordinator.State} (step : Step model capacity service action next) :
    ((next.emitted.drop service.emitted.length).map (·.event)).Nodup ∧
      service.revision ≤ next.revision ∧ (∀ event ∈ (next.emitted.drop service.emitted.length).map (·.event),
        service.revision < event.revision ∧ event.revision ≤ next.revision) ∧
      ∀ announcement ∈ next.emitted, announcement ∈ service.emitted ∨
        announcement.event ∈ (next.emitted.drop service.emitted.length).map (·.event) := by
  obtain ⟨fresh, appended, grows, news, _⟩ := emitted_step step
  have same : next.emitted.drop service.emitted.length = fresh := by
    rw [appended, List.drop_left]
  rw [same]
  refine ⟨?_, grows, ?_, ?_⟩
  · rw [← same]
    cases step with
    | enqueue => simp
    | finish => simpa [Function.comp_def] using finishEvents_nodup _ _ _ _ _
    | _ => simp
  · intro event member
    obtain ⟨announcement, listed, rfl⟩ := List.mem_map.mp member
    obtain ⟨_, _, revision, raised⟩ := news announcement listed
    omega
  · intro announcement member
    rw [appended] at member
    exact (List.mem_append.mp member).imp_right fun listed => List.mem_map_of_mem listed

/-- The server and its subscriber are in order. -/
structure Ordered (opening : Nat) (feed : Feed) : Prop where
  recorded : Recorded opening feed
  follows : ∀ subscriber, feed.subscriber = some subscriber →
    opening ≤ subscriber.start ∧ Follows feed subscriber

theorem Ordered.coordinate (ordered : Ordered opening state)
    (performed : coordinate model capacity action state = some later) : Ordered opening later := by
  obtain ⟨next, moved, rfl⟩ := Option.map_eq_some_iff.mp performed
  obtain ⟨distinct, grows, news, complete⟩ := fresh_events (step_of_perform moved)
  generalize (next.emitted.drop state.service.emitted.length).map (·.event) = fresh at *
  have unpushed : (state.handlers ++ [fresh]).flatten = state.unpushed ++ fresh := by
    simp [Feed.unpushed]
  have recorded := ordered.recorded
  have moved (event : Event) : event ∈ (state.handlers ++ [fresh]).flatten ++ state.pushed ↔
      event ∈ state.unpushed ++ state.pushed ∨ event ∈ fresh := by
    rw [unpushed]
    simp only [List.mem_append]
    tauto
  refine ⟨⟨?_, ?_, ?_, recorded.opened.trans grows⟩, ?_⟩
  · change ((state.handlers ++ [fresh]).flatten ++ state.pushed).Nodup
    have reordered : (state.unpushed ++ fresh ++ state.pushed).Perm
        (fresh ++ (state.unpushed ++ state.pushed)) := by
      rw [← List.append_assoc]
      exact List.perm_append_comm.append_right _
    rw [unpushed, reordered.nodup_iff]
    refine List.nodup_append.mpr ⟨distinct, recorded.nodup, ?_⟩
    intro event new other old same
    have higher := (news event new).1
    have lower := recorded.bounded other old
    rw [same] at higher
    omega
  · intro event member
    rcases (moved event).mp member with old | new
    · exact (recorded.bounded event old).trans grows
    · exact (news event new).2
  · intro announcement emitted above
    apply (moved _).mpr
    rcases complete announcement emitted with old | new
    · exact .inl (recorded.complete announcement old above)
    · exact .inr new
  · intro subscriber found
    obtain ⟨began, follows⟩ := ordered.follows subscriber found
    refine ⟨began, follows.start, follows.bounded.trans grows, follows.nodup, follows.below, ?_, follows.received⟩
    intro event member above accepted
    change event ∈ (state.handlers ++ [fresh]).flatten at member
    rw [unpushed] at member
    rcases List.mem_append.mp member with old | new
    · exact follows.ahead event old above accepted
    · exact follows.bounded.trans_lt (news event new).1

/-- The history and the dropped events together receive the pushed event. -/
theorem pushed_record (event : Event) : (record limit event state).pushed.Perm (event :: state.pushed) := by
  unfold Feed.pushed record
  dsimp only
  refine List.Perm.trans ?_ (List.perm_append_comm.trans ?_ : (state.dropped ++ (state.history ++ [event])).Perm _)
  · refine List.perm_append_comm.trans ?_
    rw [List.append_assoc, List.take_append_drop]
  · rw [List.append_assoc, List.singleton_append]
    exact List.perm_middle

theorem flatten_set {A : Type} {lists : List (List A)} {index : Nat} {first : A} {rest : List A}
    (found : lists[index]? = some (first :: rest)) : lists.flatten.Perm (first :: (lists.set index rest).flatten) := by
  induction lists generalizing index with
  | nil => cases found
  | cons list lists ih =>
      cases index with
      | zero =>
          cases found
          exact .refl _
      | succ index =>
          rw [List.set_cons_succ, List.flatten_cons, List.flatten_cons]
          exact ((ih found).append_left list).trans List.perm_middle

theorem Ordered.push (ordered : Ordered opening state) {handler : Nat}
    (performed : push limit handler state = some later) : Ordered opening later := by
  unfold Ipc.push at performed
  split at performed
  · rename_i event rest found
    cases performed
    have recorded := ordered.recorded
    let waiting := { state with handlers := state.handlers.set handler rest }
    have unpushed : state.unpushed.Perm (event :: waiting.unpushed) := flatten_set found
    have pushed : (record limit event waiting).pushed.Perm (event :: state.pushed) := pushed_record event
    have all : (waiting.unpushed ++ (record limit event waiting).pushed).Perm
        (state.unpushed ++ state.pushed) := by
      refine (pushed.append_left _).trans (List.perm_middle.trans ?_)
      exact (unpushed.append_right state.pushed).symm
    refine ⟨⟨all.nodup_iff.mpr recorded.nodup, ?_, ?_, recorded.opened⟩, ?_⟩
    · intro other member
      exact recorded.bounded other (all.mem_iff.mp member)
    · intro announcement emitted above
      exact all.mem_iff.mpr (recorded.complete announcement emitted above)
    · intro subscriber subscribed
      obtain ⟨began, follows⟩ := ordered.follows subscriber subscribed
      refine ⟨began, follows.start, follows.bounded, follows.nodup, follows.below, ?_, ?_⟩
      · intro other member
        exact follows.ahead other (unpushed.mem_iff.mpr (List.mem_cons_of_mem _ member))
      · intro other member above within accepted
        rcases List.mem_cons.mp (pushed.mem_iff.mp member) with rfl | old
        · have higher := follows.ahead other (unpushed.mem_iff.mpr List.mem_cons_self) above accepted
          exact absurd within (Nat.not_le_of_lt higher)
        · exact follows.received other old above within accepted
  · cases performed

theorem Ordered.subscribe (ordered : Ordered opening state) {filter : EventFilter}
    (performed : subscribe filter state = some later) : Ordered opening later := by
  unfold Ipc.subscribe at performed
  split at performed
  · cases performed
  · cases performed
    have recorded := ordered.recorded
    refine ⟨⟨recorded.nodup, recorded.bounded, recorded.complete, recorded.opened⟩, ?_⟩
    rintro subscriber ⟨⟩
    refine ⟨recorded.opened, le_refl _, le_refl _, List.nodup_nil, by simp, fun _ _ above _ => above, ?_⟩
    intro event _ above within _
    exact absurd within (Nat.not_le_of_lt above)

variable {subscriber : Subscriber} {event : Event}

theorem mem_answer {history : List Event} :
    event ∈ answer subscriber history ↔ event ∈ history ∧ subscriber.revision < event.revision := by
  simp [answer]

/-- What the condition says about a poll. -/
theorem settled_poll (found : state.subscriber = some subscriber) (settles : settled state .poll = true) :
    (∀ event ∈ state.dropped, subscriber.filter.accepts event = true → event.revision ≤ subscriber.revision) ∧
      if isOverrun subscriber.revision state.history = true then
        ∀ event ∈ state.history, subscriber.filter.accepts event = true → event.revision ≤ subscriber.revision
      else ∀ event ∈ state.unpushed, subscriber.filter.accepts event = true →
        subscriber.revision < event.revision → ∀ other ∈ state.history, other.revision < event.revision := by
  have none_awaited {events : List Event} (none : (!events.any subscriber.awaits) = true) (event : Event)
      (member : event ∈ events) (accepted : subscriber.filter.accepts event = true) :
      event.revision ≤ subscriber.revision := by
    rw [Bool.not_eq_true', List.any_eq_false] at none
    by_contra above
    exact none event member (Bool.and_eq_true_iff.mpr ⟨decide_eq_true (Nat.lt_of_not_le above), accepted⟩)
  simp only [settled, found, Option.all_some] at settles
  obtain ⟨noneDropped, rest⟩ := Bool.and_eq_true_iff.mp settles
  refine ⟨none_awaited noneDropped, ?_⟩
  split
  · rename_i overrun
    rw [if_pos overrun] at rest
    exact none_awaited rest
  · rename_i reachable
    rw [if_neg reachable] at rest
    intro event member accepted above other listed
    have awaited : subscriber.awaits event = true := Bool.and_eq_true_iff.mpr ⟨decide_eq_true above, accepted⟩
    have higher := List.all_eq_true.mp rest event member
    rw [awaited, Bool.not_true, Bool.false_or] at higher
    exact of_decide_eq_true (List.all_eq_true.mp higher other listed)

/-- The revision of the subscriber reaches the history when the poll reports no overrun. -/
theorem reached_answer (subscriber : Subscriber) (member : event ∈ state.history) :
    event.revision ≤ ((answer subscriber state.history).foldl receive subscriber).revision := by
  obtain ⟨grows, covers, _⟩ := @receive_revision subscriber (answer subscriber state.history)
  by_cases above : subscriber.revision < event.revision
  · exact covers event (mem_answer.mpr ⟨member, above⟩)
  · exact (Nat.le_of_not_lt above).trans grows

/-- The subscriber after a poll that reports no overrun. -/
theorem Follows.poll (recorded : Recorded opening state) (follows : Follows state subscriber)
    (noneDropped : ∀ event ∈ state.dropped, subscriber.filter.accepts event = true →
      event.revision ≤ subscriber.revision)
    (ordered : ∀ event ∈ state.unpushed, subscriber.filter.accepts event = true →
      subscriber.revision < event.revision → ∀ other ∈ state.history, other.revision < event.revision) :
    Follows state ((answer subscriber state.history).foldl receive subscriber) := by
  obtain ⟨sameFilter, sameStart, delivered⟩ := @receive_all subscriber (answer subscriber state.history)
  obtain ⟨grows, covers, least⟩ := @receive_revision subscriber (answer subscriber state.history)
  refine ⟨?_, ?_, ?_, ?_, ?_, ?_⟩
  · rw [sameStart]
    exact follows.start.trans grows
  · apply least _ follows.bounded
    intro event member
    apply recorded.bounded event
    exact List.mem_append_right _ (List.mem_append_left _ (mem_answer.mp member).1)
  · rw [delivered]
    refine List.nodup_append.mpr ⟨follows.nodup, ?_, ?_⟩
    · have distinct := (List.nodup_append.mp (List.nodup_append.mp recorded.nodup).2.1).1
      exact (distinct.filter _).filter _
    · intro event old other new same
      have above := (mem_answer.mp (List.mem_of_mem_filter new)).2
      rw [← same] at above
      exact absurd (follows.below event old) (Nat.not_le_of_lt above)
  · intro event member
    rw [delivered] at member
    rcases List.mem_append.mp member with old | new
    · exact (follows.below event old).trans grows
    · exact covers event (List.mem_of_mem_filter new)
  · intro event member above accepted
    rw [sameStart] at above
    rw [sameFilter] at accepted
    have ahead := follows.ahead event member above accepted
    have lower := least (event.revision - 1) (by omega) (fun other listed => by
      have below := ordered event member accepted ahead other (mem_answer.mp listed).1
      omega)
    omega
  · intro event member above within accepted
    rw [sameStart] at above
    rw [sameFilter] at accepted
    rw [delivered]
    by_cases old : event.revision ≤ subscriber.revision
    · exact List.mem_append_left _ (follows.received event member above old accepted)
    · rcases List.mem_append.mp member with kept | dropped
      · apply List.mem_append_right
        exact List.mem_filter.mpr ⟨mem_answer.mpr ⟨kept, Nat.lt_of_not_le old⟩, accepted⟩
      · exact absurd (noneDropped event dropped accepted) old

theorem Ordered.poll (ordered : Ordered opening state) (settles : settled state .poll = true)
    (performed : poll state = some later) : Ordered opening later := by
  obtain ⟨subscriber, found, rfl⟩ := Option.map_eq_some_iff.mp performed
  obtain ⟨began, follows⟩ := ordered.follows subscriber found
  obtain ⟨noneDropped, rest⟩ := settled_poll found settles
  split
  · exact ordered
  · rename_i reachable
    rw [if_neg reachable] at rest
    have recorded := ordered.recorded
    refine ⟨⟨recorded.nodup, recorded.bounded, recorded.complete, recorded.opened⟩, ?_⟩
    rintro _ ⟨⟩
    have polled := follows.poll recorded noneDropped rest
    refine ⟨?_, polled.start, polled.bounded, polled.nodup, polled.below, polled.ahead, polled.received⟩
    rw [(receive_all _).2.1]
    exact began

/-- After a poll, the subscriber awaits no event that was pushed. -/
theorem none_awaited (settles : settled state .poll = true) (performed : poll state = some later)
    (found : later.subscriber = some subscriber)
    (pushed : event ∈ later.pushed) (accepted : subscriber.filter.accepts event = true) :
    event.revision ≤ subscriber.revision := by
  obtain ⟨asking, asked, rfl⟩ := Option.map_eq_some_iff.mp performed
  obtain ⟨noneDropped, rest⟩ := settled_poll asked settles
  by_cases overrun : isOverrun asking.revision state.history = true
  · rw [if_pos overrun] at found pushed rest
    obtain rfl := Option.some.inj (asked.symm.trans found)
    exact (List.mem_append.mp pushed).elim (rest event · accepted) (noneDropped event · accepted)
  · rw [if_neg overrun] at found pushed
    cases found
    rw [(receive_all _).1] at accepted
    rcases List.mem_append.mp pushed with kept | dropped
    · exact reached_answer asking kept
    · exact (noneDropped event dropped accepted).trans (receive_revision _).1

theorem ordered_reached {service : Coordinator.State}
    (known : ∀ announcement ∈ service.emitted, announcement.event.revision ≤ service.revision)
    (reached : (feed model capacity limit).Reaches (fun state action => settled state action = true)
      (opened service) state) : Ordered service.revision state := by
  apply reached.invariant
  · refine ⟨⟨List.nodup_nil, by simp [opened, Feed.unpushed, Feed.pushed], ?_, le_refl _⟩, by simp [opened]⟩
    intro announcement emitted above
    exact absurd (known announcement emitted) (Nat.not_le_of_lt above)
  · intro state action later ordered settles performed
    cases action with
    | coordinate action => exact ordered.coordinate performed
    | push handler => exact ordered.push performed
    | subscribe filter => exact ordered.subscribe performed
    | poll => exact ordered.poll settles performed

end Steps

/-- A poll leaves no pushed event behind, and no event comes twice. -/
theorem events_delivered (model : ValidatedModel) (capacity limit workers : Nat)
    (configuration : SystemConfiguration) (coordinator : Coordinator.State) (state later : Feed)
    (subscriber : Subscriber)
    (began : (service model capacity).Reaches (fun _ _ => True) (started configuration workers) coordinator)
    (reached : (feed model capacity limit).Reaches (fun state action => settled state action = true)
      (opened coordinator) state) (settles : settled state .poll = true)
    (polled : (feed model capacity limit).perform .poll state = some later)
    (found : later.subscriber = some subscriber) : subscriber.delivered.Nodup ∧
      ∀ announcement ∈ later.service.emitted, subscriber.start < announcement.event.revision →
        subscriber.filter.accepts announcement.event = true →
        announcement.event ∉ later.unpushed → subscriber.delivered.count announcement.event = 1 := by
  have known (announcement : Announcement) (emitted : announcement ∈ coordinator.emitted) :=
    (Coordinator.chronicled_reached began announcement emitted).revision
  have after := (ordered_reached known reached).poll settles polled
  obtain ⟨start, follows⟩ := after.follows subscriber found
  refine ⟨follows.nodup, fun announcement emitted above accepted handed => ?_⟩
  have all := after.recorded.complete announcement emitted (start.trans_lt above)
  have pushed := (List.mem_append.mp all).resolve_left handed
  have received := follows.received announcement.event pushed above
    (none_awaited settles polled found pushed accepted) accepted
  exact List.count_eq_one_of_mem follows.nodup received

/-- This scheduler lets the first thread with an event hand it to the server. -/
def pushFirst (state : Feed) : FeedAction := .push (state.handlers.findIdx fun events => !events.isEmpty)

/-- A subscriber follows the transition that switches the lamp on. -/
def watching : List (Feed → FeedAction) :=
  [fun _ => .subscribe {}] ++ (submit 0 1 2 ++ switching).map fun choose state =>
    .coordinate (choose state.service)

/-- A schedule of a fresh server that ends in a state with a property is such a run. -/
theorem exists_fed (model : ValidatedModel) (capacity limit : Nat) (coordinator : Coordinator.State)
    {allowed : Feed → FeedAction → Prop} (check : Feed → FeedAction → Bool)
    (sound : ∀ state action, check state action = true → allowed state action)
    (schedule : List (Feed → FeedAction)) (property : Feed → Bool)
    (executed : ((feed model capacity limit).run check schedule (opened coordinator)).any property = true) :
    ∃ state, (feed model capacity limit).Reaches allowed (opened coordinator) state ∧ property state = true :=
  System.Reaches.exists_of_run check sound schedule property executed

/-- Both events of the last revision are pushed before the second poll. -/
theorem events_delivered_switched : ∃ (state later : Feed) (subscriber : Subscriber),
    (feed lampModes 4 16).perform .poll state = some later ∧ later.subscriber = some subscriber ∧
    subscriber.delivered.length = 3 ∧ later.service.emitted.length = 3 ∧
    ∀ announcement ∈ later.service.emitted, subscriber.start < announcement.event.revision →
      subscriber.filter.accepts announcement.event = true →
      announcement.event ∉ later.unpushed → subscriber.delivered.count announcement.event = 1 := by
  obtain ⟨state, reached, executed⟩ := exists_fed lampModes 4 16
    (started ⟨1, initialModes lampModes, ∅⟩ 1)
    settled (fun _ _ checked => checked) (watching ++ [pushFirst, fun _ => .poll, pushFirst, pushFirst])
    (fun state => settled state .poll && (poll state).any fun later => later.service.emitted.length == 3 &&
      later.subscriber.any fun subscriber => subscriber.delivered.length == 3) (by decide +kernel)
  obtain ⟨settles, polls⟩ := (Bool.and_eq_true _ _).mp executed
  obtain ⟨later, polled, holds⟩ := (Option.any_eq_true _ _).mp polls
  obtain ⟨emitted, subscribed⟩ := (Bool.and_eq_true _ _).mp holds
  obtain ⟨subscriber, found, counted⟩ := (Option.any_eq_true _ _).mp subscribed
  exact ⟨state, later, subscriber, polled, found, beq_iff_eq.mp counted, beq_iff_eq.mp emitted,
    (events_delivered lampModes 4 16 1 _ _ state later subscriber .refl reached settles polled found).2⟩

/-- The server answers a poll without the error that reports an overrun. -/
def answers (feed : Feed) : FeedAction → Bool
  | .poll => feed.subscriber.all fun subscriber => !isOverrun subscriber.revision feed.history
  | _ => true

/-- This event was pushed, and the subscriber has not received it. -/
def isLost (state : Feed) (event : Event) : Bool :=
  decide (subscriber.start < event.revision) && subscriber.filter.accepts event &&
    !state.unpushed.contains event && subscriber.delivered.count event != 1

/-- A poll between two events of one revision loses the second one, and no poll gets the overrun error. -/
theorem events_lost : ¬ ∀ (state later : Feed) (subscriber : Subscriber),
      (feed lampModes 4 16).Reaches (fun state action => answers state action = true)
        (opened (started ⟨1, initialModes lampModes, ∅⟩ 1)) state → answers state .poll = true →
      (feed lampModes 4 16).perform .poll state = some later → later.subscriber = some subscriber →
      subscriber.delivered.Nodup ∧
        ∀ announcement ∈ later.service.emitted, subscriber.start < announcement.event.revision →
          subscriber.filter.accepts announcement.event = true →
          announcement.event ∉ later.unpushed → subscriber.delivered.count announcement.event = 1 := by
  intro claimed
  obtain ⟨state, reached, executed⟩ := exists_fed lampModes 4 16
    (started ⟨1, initialModes lampModes, ∅⟩ 1) answers (fun _ _ checked => checked)
    (watching ++ [pushFirst, pushFirst, fun _ => .poll, pushFirst])
    (fun state => answers state .poll && (poll state).any fun later => later.subscriber.any fun subscriber =>
      later.service.emitted.any fun announcement => isLost subscriber later announcement.event)
    (by decide +kernel)
  obtain ⟨answered, polls⟩ := (Bool.and_eq_true _ _).mp executed
  obtain ⟨later, polled, subscribed⟩ := (Option.any_eq_true _ _).mp polls
  obtain ⟨subscriber, found, lost⟩ := (Option.any_eq_true _ _).mp subscribed
  obtain ⟨announcement, emitted, missed⟩ := List.any_eq_true.mp lost
  simp only [isLost, Bool.and_eq_true, decide_eq_true_eq, Bool.not_eq_true', bne_iff_ne, ne_eq,
    List.contains_eq_mem, decide_eq_false_iff_not] at missed
  obtain ⟨⟨⟨above, accepted⟩, handed⟩, uncounted⟩ := missed
  have delivered := (claimed state later subscriber reached answered polled found).2
  exact uncounted (delivered announcement emitted above accepted handed)

end OpenVehicle.Ipc
