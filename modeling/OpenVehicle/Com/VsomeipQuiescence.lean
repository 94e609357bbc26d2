/-
This file proves when the callbacks of a subscription of the SOME/IP transport end with its unsubscription or with the
stop of the transport.
-/

import OpenVehicle.Com.VsomeipCallbacks

namespace OpenVehicle.Com.Vsomeip.Events

open Data (HandleTable)

/-- A stop begins when no other stop and no unsubscription is still to make a subscription inactive. -/
def Settled (world : World) : Action → Prop
  | .stop _ => ∀ handle, (world.subscriptions handle).active = true →
      world.transport.running = true ∧ world.transport.subscriptions.lookup handle ≠ none
  | _ => True

/-- Inside the callback that gets the withdrawn state, the thread neither unsubscribes the subscription nor delivers
another state to it. -/
def Apart (world : World) : Action → Prop
  | .unsubscribe thread handle =>
      world.transport.subscriptions.lookup handle ≠ none → ¬world.Withdrawing thread handle
  | .run thread index => ∀ visit, world.tasks[index]? = some visit → visit.notice.isState = true →
      ¬world.Withdrawing thread visit.handle
  | .connect thread registered => ∀ handle ∈ world.changed registered, ¬world.Withdrawing thread handle
  | _ => True

variable {handle : Handle} {world : World}

section CalmSteps
variable {handles : List Handle} {state : SubscriptionState} {reason : Status} {transport : Transport}
variable {tasks : List Visit}

/-- A world with another transport and other tasks. -/
theorem calm_tables {sequence : Nat} (evolves : Transport.Evolves world.transport transport)
    (added : ∀ visit ∈ tasks, visit ∈ world.tasks ∨ (visit.handle < world.transport.nextHandle ∧
      (visit.notice.isWithdrawn = true → (world.subscriptions visit.handle).state = .withdrawn))) :
    Calm world { world with transport := transport, tasks := tasks, sequence := sequence } where
  transport := evolves
  active _ := rfl
  gate _ := rfl
  log _ := .inl rfl
  state _ := .inl rfl
  tasks := added
  frames := rfl

theorem calm_transport (evolves : Transport.Evolves world.transport transport) :
    Calm world { world with transport := transport } := calm_tables evolves fun _ listed => .inl listed

/-- The objects of the subscriptions get another state, and more tasks wait. -/
theorem calm_assign (other : state ≠ .withdrawn) (added : ∀ visit ∈ tasks, visit ∈ world.tasks ∨
      (visit.handle < world.transport.nextHandle ∧ visit.notice.isWithdrawn = false)) :
    Calm world { world.assign handles state reason with tasks := tasks } where
  transport := .refl _
  active := field_assign Subscription.active fun _ => rfl
  gate := field_assign Subscription.gate fun _ => rfl
  log handle := .inl (field_assign Subscription.log (fun _ => rfl) handle)
  state handle := by
    unfold World.assign
    dsimp only
    split
    · exact .inr other
    · exact .inl rfl
  tasks visit listed := by
    rcases added visit listed with before | ⟨below, told⟩
    · exact .inl before
    · refine .inr ⟨below, fun again => ?_⟩
      rw [told] at again
      cases again
  frames := rfl

/-- The handles of the subscriptions in the table are old. -/
theorem Sound.below (sound : Sound world)
    (listed : handle ∈ world.transport.subscriptions.map Prod.fst) : handle < world.transport.nextHandle := by
  obtain ⟨entry, inside, rfl⟩ := List.mem_map.mp listed
  exact sound.ordered.below entry inside

theorem mem_subscribers {fits : Mapping → Bool} (listed : handle ∈ world.subscribers fits) :
    handle ∈ world.transport.subscriptions.map Prod.fst := by
  obtain ⟨entry, inside, rfl⟩ := List.mem_map.mp listed
  exact List.mem_map_of_mem (List.mem_filter.mp inside).1

theorem mem_changed {registered : Bool} (listed : handle ∈ world.changed registered) :
    handle ∈ world.transport.subscriptions.map Prod.fst := (List.mem_filter.mp listed).1

theorem lookup_ne_none :
    world.transport.subscriptions.lookup handle ≠ none ↔ handle ∈ world.transport.subscriptions.map Prod.fst := by
  rw [ne_eq, List.lookup_eq_none_iff]
  simp only [List.mem_map]
  grind

theorem calm_setStateHandler (sound : Sound world) (handle : Handle) (callback : Callback) :
    Calm world (world.setStateHandler handle callback) ∧ ∀ user,
      ((world.setStateHandler handle callback).subscriptions user).log = (world.subscriptions user).log := by
  unfold World.setStateHandler
  cases known : world.transport.subscriptions.lookup handle with
  | none => exact ⟨calm_transport (.refl _), fun _ => rfl⟩
  | some endpoint =>
      refine ⟨⟨.refl _, field_update Subscription.active rfl (by rfl), field_update Subscription.gate rfl (by rfl),
        fun user => .inl (field_update Subscription.log rfl (by rfl) user),
        fun user => .inl (field_update Subscription.state rfl (by rfl) user), fun visit listed => ?_, rfl⟩,
        field_update Subscription.log rfl (by rfl)⟩
      · rcases List.mem_append.mp listed with before | last
        · exact .inl before
        · rw [List.mem_singleton.mp last]
          refine .inr ⟨sound.ordered.below _ (HandleTable.mem_of_lookup known), fun told => ?_⟩
          change (world.subscriptions handle).state = .withdrawn
          cases copied : (world.subscriptions handle).state with
          | withdrawn => rfl
          | _ => rw [Visit.notice, copied] at told; cases told

end CalmSteps

section Actions
variable {world later : World} {action : Action}

/-- What an action does. A new frame fits the world when the action is settled and apart. -/
inductive Does (world : World) (action : Action) : World → Prop
  | calm {later : World} (calm : Calm world later)
      (logs : ∀ handle, (later.subscriptions handle).log = (world.subscriptions handle).log) : Does world action later
  | stops (thread : Nat) (which : action = .stop thread) (idle : world.transport.running = false) :
      Does world action (world.record .stopped)
  | begins {later : World} (thread : Nat) (frame : Frame) (calm : Calm world later)
      (logs : ∀ handle, (later.subscriptions handle).log = (world.subscriptions handle).log)
      (sound : FrameSound later thread frame) (stops : Settled world action → FrameStops later frame)
      (honest : Withdrawn world → Apart world action → FrameHonest later frame ∧
        ∀ lower ∈ world.frames thread, Over frame lower) : Does world action (later.push thread frame)
  | subscribes (endpoint : Handle) (callback : Callback) (transport : Transport)
      (runs : world.transport.running = true) (startedOnce : transport.startedOnce = world.transport.startedOnce)
      (nextHandle : transport.nextHandle = world.transport.nextHandle + 1) (subscriptions : transport.subscriptions =
        world.transport.subscriptions ++ [(world.transport.nextHandle, endpoint)]) :
      Does world action (world.subscribed world.transport.nextHandle callback transport)
  | finishes (thread : Nat) (visit : Visit) (rest : List Visit) (inside : Bool) (returns : Return) (below : List Frame)
      (gate : Option Nat) (top : world.frames thread = ⟨visit :: rest, inside, returns⟩ :: below)
      (owned : ∀ frame ∈ below, frame.holds visit.handle = true → gate = some thread)
      (others : ∀ other ≠ thread, ∀ frame ∈ world.frames other, frame.holds visit.handle = true → gate = some other) :
      Does world action (world.finished thread visit rest returns below gate)
  | calls (thread : Nat) (visit : Visit) (rest : List Visit) (returns : Return) (below : List Frame)
      (callback : Callback) (top : world.frames thread = ⟨visit :: rest, false, returns⟩ :: below)
      (active : (world.subscriptions visit.handle).active = true)
      (free : ∀ owner, (world.subscriptions visit.handle).gate = some owner → owner = thread) :
      Does world action (world.called thread visit rest returns below callback)
  | exits (thread : Nat) (inside : Bool) (returns : Return) (below : List Frame)
      (top : world.frames thread = ⟨[], inside, returns⟩ :: below) :
      Does world action ((world.returned returns).setFrames thread below)

variable {thread : Nat}

/-- A frame may be pushed over the frames of a thread when it delivers no state to a subscription whose callback is
getting the withdrawn state. -/
theorem over_of_apart {frame : Frame} (apart : ∀ visit ∈ frame.visits, visit.notice.isState = true →
    ¬world.Withdrawing thread visit.handle) : ∀ lower ∈ world.frames thread, Over frame lower := by
  rintro lower listed handle withdraws visit inside rfl
  by_contra tells
  exact apart visit inside (eq_true_of_ne_false tells) ⟨lower, listed, withdraws⟩

section
variable (sound : Sound world)
include sound

theorem does_connect (thread : Nat) (registered : Bool) :
    Does world (.connect thread registered) (world.connect thread registered) := by
  have told : World.connected registered ≠ .withdrawn := by cases registered <;> exact nofun
  have quiet : ∀ reason, (Notice.state (World.connected registered) reason).isWithdrawn = false := by
    intro reason
    cases registered <;> rfl
  refine .begins thread _ (calm_assign told fun _ listed => .inl listed) (field_assign Subscription.log fun _ => rfl)
    ⟨fun visit listed => ?_, nofun, nofun, nofun⟩ (fun _ => nofun) fun _ apart =>
      ⟨fun visit listed => ?_, over_of_apart fun visit listed _ => ?_⟩
  all_goals obtain ⟨handle, inside, rfl⟩ := List.mem_map.mp listed
  · exact sound.below (mem_changed inside)
  · refine ⟨fun withdrawn => ?_, nofun⟩
    rw [Visit.notice, quiet] at withdrawn
    cases withdrawn
  · exact apart handle inside

theorem does_unsubscribe (thread : Nat) (handle : Handle) :
    Does world (.unsubscribe thread handle) (world.unsubscribe thread handle) := by
  unfold World.unsubscribe
  rcases world.transport.unsubscribe_cases handle with failed | ⟨endpoint, known, ok, removed, evolves⟩
  · split
    · rename_i same
      exact absurd (congrArg Prod.fst same) failed
    · exact .calm (calm_transport (.refl _)) fun _ => rfl
  · split
    · rename_i transport same
      obtain rfl : transport = (world.transport.unsubscribe handle).2 := (congrArg Prod.snd same).symm
      have below := sound.ordered.below _ (HandleTable.mem_of_lookup known)
      have present : world.transport.subscriptions.lookup handle ≠ none := by
        rw [known]
        exact nofun
      refine .begins thread _ (calm_transport evolves) (fun _ => rfl) ⟨fun visit listed => ?_, nofun, ?_, ?_⟩
        (fun _ => nofun) fun _ apart => ⟨fun visit listed => ?_, over_of_apart fun visit listed _ => ?_⟩
      · rw [List.mem_singleton.mp listed]
        exact Nat.lt_of_lt_of_le below evolves.nextHandle
      · rintro user ⟨⟩
        exact Nat.lt_of_lt_of_le below evolves.nextHandle
      · rintro user ⟨⟩ _
        exact ⟨.ok, rfl⟩
      · rw [List.mem_singleton.mp listed]
        refine ⟨fun _ => rfl, fun _ => .inr ?_⟩
        change (world.transport.unsubscribe handle).2.subscriptions.lookup handle = none
        rw [removed, HandleTable.lookup_remove_self]
      · rw [List.mem_singleton.mp listed]
        exact apart present
    · rename_i other
      exact (other _ (Prod.ext ok rfl)).elim

theorem does_stop (thread : Nat) : Does world (.stop thread) (world.stop thread) := by
  unfold World.stop
  rcases world.transport.stop_table with ⟨idle, refused⟩ | ⟨taken, runs, stopped, idle, started, table, nextHandle⟩
  · rw [refused]
    exact .stops thread rfl idle
  · rw [stopped]
    have once := started.trans (sound.once runs)
    have evolves : Transport.Evolves world.transport world.transport.stop.2 := by
      refine ⟨fun ordered => ?_, Nat.le_of_eq nextHandle.symm, fun _ => once, fun again => ?_, fun _ _ known => ?_,
        fun empty => table.trans empty⟩
      · rwa [table, nextHandle]
      · rw [idle] at again
        cases again
      · rwa [table] at known
    refine .begins thread _ (calm_transport evolves) (fun _ => rfl) ⟨fun visit listed => ?_, nofun, nofun, nofun⟩
      (fun settled _ => ⟨idle, once, fun handle alive => ?_⟩) fun withdrawn _ => ⟨fun visit listed => ?_,
        fun lower before handle withdraws visit listed same => ?_⟩
    · obtain ⟨handle, inside, rfl⟩ := List.mem_map.mp listed
      exact Nat.lt_of_lt_of_le (sound.below inside) evolves.nextHandle
    · have inside := lookup_ne_none.mp (settled handle alive).2
      exact ⟨.shuttingDown, List.mem_map_of_mem inside⟩
    · obtain ⟨handle, inside, rfl⟩ := List.mem_map.mp listed
      exact ⟨fun _ => rfl, fun _ => .inl ⟨idle, once⟩⟩
    · -- A running transport has the subscriptions in its table, and no callback withdraws one of them.
      obtain ⟨closer, closing, closes, closed⟩ := exists_of_withdraws withdraws
      obtain ⟨user, inside, rfl⟩ := List.mem_map.mp listed
      rcases (withdrawn.frames thread lower before closer closing).2 closes with ⟨halted, _⟩ | missing
      · rw [runs] at halted
        cases halted
      · rw [closed, ← same] at missing
        exact absurd missing (lookup_ne_none.mpr inside)

theorem does_run (thread index : Nat) (ran : world.run thread index = some later) :
    Does world (.run thread index) later := by
  unfold World.run at ran
  obtain ⟨visit, known, rfl⟩ := Option.map_eq_some_iff.mp ran
  have waiting := List.mem_of_getElem? known
  refine .begins thread _ (calm_tables (.refl _) fun visit listed => .inl (List.mem_of_mem_eraseIdx listed))
    (fun _ => rfl) ⟨fun visit listed => ?_, nofun, nofun, nofun⟩ (fun _ => nofun)
    fun withdrawn apart => ⟨fun visit listed => ?_, over_of_apart fun visit listed tells => ?_⟩
  all_goals obtain rfl := List.mem_singleton.mp listed
  · exact sound.tasks _ waiting
  · have honest := withdrawn.tasks _ waiting
    refine ⟨fun told => ?_, fun closes => ?_⟩
    · rw [honest] at told
      cases told
    · obtain ⟨reason, same⟩ := eq_withdraw closes
      rw [same] at honest
      cases honest
  · exact apart _ known tells

theorem does_enter (thread : Nat) (entered : world.enter thread = some later) : Does world (.enter thread) later := by
  unfold World.enter at entered
  split at entered
  · rename_i visit rest returns below top
    dsimp only at entered
    split at entered
    · cases entered
    · rename_i waits
      have free : ∀ owner, (world.subscriptions visit.handle).gate = some owner → owner = thread := by
        intro owner owned
        by_contra different
        rw [owned] at waits
        exact waits (bne_iff_ne.mpr different)
      split at entered
      · obtain rfl := Option.some.inj entered
        refine .finishes thread visit rest false returns below _ top (fun frame listed holds => ?_)
          fun other _ frame listed holds => (sound.frames other frame listed).owned visit.handle holds
        exact (sound.frames thread frame (mem_below top listed)).owned visit.handle holds
      · rename_i callback calls
        obtain rfl := Option.some.inj entered
        exact .calls thread visit rest returns below callback top (active_of_calls calls) free
  · cases entered

theorem does_leave (thread : Nat) (left : world.leave thread = some later) : Does world (.leave thread) later := by
  unfold World.leave at left
  split at left
  · rename_i visit rest returns below top
    obtain rfl := Option.some.inj left
    refine .finishes thread visit rest true returns below _ top (fun frame listed holds => ?_)
      fun other different frame listed holds => ?_
    · rw [if_pos (List.any_eq_true.mpr ⟨frame, listed, holds⟩)]
    · -- The thread owns the gate, so no other thread has a frame that holds it.
      have mine := (sound.frames thread _ (mem_top top)).owned visit.handle (beq_self_eq_true _)
      have owner := (sound.frames other frame listed).owned visit.handle holds
      exact absurd (Option.some.inj (owner.symm.trans mine)) different
  · cases left

end

theorem does_exit (thread : Nat) (left : world.exit thread = some later) : Does world (.exit thread) later := by
  unfold World.exit at left
  split at left
  · rename_i inside returns below top
    obtain rfl := Option.some.inj left
    exact .exits thread inside returns below top
  · cases left

theorem does_perform (sound : Sound world) (performed : World.perform action world = some later) :
    Does world action later := by
  cases action with
  | operate operation =>
      simp only [World.perform] at performed
      split at performed
      · cases performed
      · rename_i other
        cases performed
        exact .calm (calm_transport (Transport.evolves_operation operation (eq_false_of_ne_true other))) fun _ => rfl
  | subscribe endpoint callback =>
      cases performed
      rcases subscribe_cases world endpoint callback with same | ⟨transport, runs, subscribed, once, next, table⟩
      · rw [same]
        exact .calm (calm_transport (.refl _)) fun _ => rfl
      · rw [subscribed]
        exact .subscribes endpoint callback transport runs once next table
  | setStateHandler handle callback =>
      cases performed
      obtain ⟨calm, logs⟩ := calm_setStateHandler sound handle callback
      exact .calm calm logs
  | message message payload =>
      cases performed
      unfold World.message
      split
      · exact .calm (calm_transport (.refl _)) fun _ => rfl
      · refine .calm (calm_tables (.refl _) fun visit listed => ?_) fun _ => rfl
        rcases List.mem_append.mp listed with before | added
        · exact .inl before
        · obtain ⟨handle, inside, rfl⟩ := List.mem_map.mp added
          exact .inr ⟨sound.below (mem_subscribers inside), nofun⟩
  | status key accepted =>
      cases performed
      have told : (if accepted then .active else .rejected : SubscriptionState) ≠ .withdrawn := by
        cases accepted <;> exact nofun
      refine .calm (calm_assign told fun visit listed => ?_) (field_assign Subscription.log fun _ => rfl)
      rcases List.mem_append.mp listed with before | added
      · exact .inl before
      · obtain ⟨handle, inside, notified⟩ := List.mem_filterMap.mp added
        split at notified
        · obtain ⟨callback, _, rfl⟩ := Option.map_eq_some_iff.mp notified
          refine .inr ⟨sound.below (mem_subscribers inside), ?_⟩
          cases accepted <;> rfl
        · cases notified
  | connect thread registered =>
      cases performed
      exact does_connect sound thread registered
  | unsubscribe thread handle =>
      cases performed
      exact does_unsubscribe sound thread handle
  | stop thread =>
      cases performed
      exact does_stop sound thread
  | run thread index => exact does_run sound thread index performed
  | enter thread => exact does_enter sound thread performed
  | leave thread => exact does_leave sound thread performed
  | exit thread => exact does_exit thread performed

/-- The return of a stop is calm. -/
theorem calm_record : Calm world (world.record .stopped) where
  transport := .refl _
  active _ := rfl
  gate _ := rfl
  log _ := .inr ⟨.stopped, rfl, rfl, nofun⟩
  state _ := .inl rfl
  tasks _ listed := .inl listed
  frames := rfl

/-- The return of an unsubscription is calm when its subscription is inactive. -/
theorem calm_unsubscribed (inactive : (world.subscriptions handle).active = false) :
    Calm world (world.modify handle (Subscription.record .unsubscribed)) := by
  refine ⟨.refl _, field_update Subscription.active rfl (by rfl), field_update Subscription.gate rfl (by rfl),
    fun user => ?_, fun user => .inl (field_update Subscription.state rfl (by rfl) user), fun _ listed => .inl listed,
    rfl⟩
  by_cases own : user = handle
  · subst own
    rw [modify_self]
    exact .inr ⟨.unsubscribed, rfl, rfl, fun _ => inactive⟩
  · rw [modify_ne own]
    exact .inl rfl

/-- A function returns when its last visit is over. -/
theorem calm_returned (sound : Sound world) {inside : Bool} {returns : Return} {below : List Frame}
    (top : world.frames thread = ⟨[], inside, returns⟩ :: below) : Calm world (world.returned returns) := by
  cases returns with
  | other => exact calm_transport (.refl _)
  | unsubscribe handle =>
      refine calm_unsubscribed (eq_false_of_ne_true fun alive => ?_)
      obtain ⟨reason, visits⟩ := (sound.frames thread _ (top ▸ List.mem_cons_self)).closing handle rfl alive
      cases visits
  | stop => exact calm_record

theorem Sound.does (sound : Sound world) (does : Does world action later) : Sound later := by
  cases does with
  | calm calm _ => exact calm.sound sound
  | stops _ _ _ => exact calm_record.sound sound
  | begins thread frame calm _ fits _ _ => exact (calm.sound sound).push fits
  | subscribes _ _ _ runs once next table => exact sound.subscribed runs once next table
  | finishes _ _ _ _ _ _ _ top owned others => exact sound.finished top owned others
  | calls _ _ _ _ _ _ top active free => exact sound.called top active free
  | exits thread inside returns below top =>
      have calm := calm_returned sound top
      refine (calm.sound sound).setFrames fun frame listed => ?_
      refine (calm.sound sound).frames thread frame ?_
      rw [calm.frames, top]
      exact List.mem_cons_of_mem _ listed

theorem Stopped.does (stopped : Stopped world) (sound : Sound world) (does : Does world action later)
    (settled : Settled world action) : Stopped later := by
  cases does with
  | calm calm logs => exact calm.stopped stopped fun handle listed => .inl (logs handle ▸ listed)
  | stops thread which idle =>
      refine calm_record.stopped stopped fun handle _ => .inr (eq_false_of_ne_true fun alive => ?_)
      rw [which] at settled
      have runs := (settled handle alive).1
      rw [idle] at runs
      cases runs
  | begins thread frame calm logs _ stops _ =>
      exact (calm.stopped stopped fun handle listed => .inl (logs handle ▸ listed)).push (stops settled)
  | subscribes _ _ _ runs _ _ _ => exact stopped.subscribed runs
  | finishes _ _ _ _ _ _ _ top _ _ => exact stopped.finished top
  | calls _ _ _ _ _ _ top active _ => exact stopped.called top active
  | exits thread inside returns below top =>
      have calm := calm_returned sound top
      have kept : Stopped (world.returned returns) := by
        refine calm.stopped stopped fun handle listed => ?_
        cases returns with
        | other => exact .inl listed
        | unsubscribe user =>
            refine .inl ?_
            by_cases own : handle = user
            · subst own
              rw [World.returned, modify_self] at listed
              rcases List.mem_append.mp listed with before | last
              · exact before
              · cases List.mem_singleton.mp last
            · rwa [World.returned, modify_ne own] at listed
        | stop =>
            refine .inr (eq_false_of_ne_true fun alive => ?_)
            obtain ⟨_, _, closing⟩ := stopped.frames thread _ (top ▸ List.mem_cons_self) rfl
            obtain ⟨reason, listed⟩ := closing handle alive
            cases listed
      refine kept.setFrames fun frame listed => kept.frames thread frame ?_
      rw [calm.frames, top]
      exact List.mem_cons_of_mem _ listed

theorem Withdrawn.does (withdrawn : Withdrawn world) (sound : Sound world) (does : Does world action later)
    (apart : Apart world action) : Withdrawn later := by
  cases does with
  | calm calm _ => exact calm.withdrawn withdrawn
  | stops _ _ _ => exact calm_record.withdrawn withdrawn
  | begins thread frame calm _ _ _ honest =>
      obtain ⟨fits, outer⟩ := honest withdrawn apart
      refine (calm.withdrawn withdrawn).push fits fun lower listed => outer lower ?_
      rwa [calm.frames] at listed
  | subscribes _ _ _ runs _ _ table => exact withdrawn.subscribed sound runs table
  | finishes _ _ _ _ _ _ _ top _ _ => exact withdrawn.finished top
  | calls _ _ _ _ _ _ top active free => exact withdrawn.called top active sound free
  | exits thread inside returns below top =>
      have calm := calm_returned sound top
      have kept := calm.withdrawn withdrawn
      have stack : (world.returned returns).frames thread = ⟨[], inside, returns⟩ :: below := by rw [calm.frames, top]
      have stacked := kept.stacked thread
      rw [stack, List.pairwise_cons] at stacked
      refine kept.setFrames (fun frame listed => kept.frames thread frame ?_) stacked.2
        fun handle _ frame listed withdraws => ?_
      · rw [stack]
        exact List.mem_cons_of_mem _ listed
      · rw [stack] at listed
        rcases List.mem_cons.mp listed with rfl | lower
        · cases inside <;> cases withdraws
        · exact lower

end Actions

section Runs
variable {maxEndpoints maxOperations : Nat} {allowed : World → Action → Prop}

theorem sound_begun : Sound (begun maxEndpoints maxOperations) where
  ordered := .empty
  once := nofun
  idle _ := rfl
  active := nofun
  tasks := nofun
  frames := nofun
  ended := nofun
  silent _ := .nil

theorem sound_of_reaches (reached : system.Reaches allowed (begun maxEndpoints maxOperations) world) : Sound world :=
  reached.invariant sound_begun fun _ _ _ sound _ performed => sound.does (does_perform sound performed)

theorem stopped_of_reaches (reached : system.Reaches Settled (begun maxEndpoints maxOperations) world) :
    Stopped world := by
  induction reached with
  | refl => exact ⟨nofun, nofun, fun _ => .nil⟩
  | step before settled performed ih =>
      have sound := sound_of_reaches before
      exact ih.does sound (does_perform sound performed) settled

theorem withdrawn_of_reaches (reached : system.Reaches Apart (begun maxEndpoints maxOperations) world) :
    Withdrawn world := by
  induction reached with
  | refl => exact ⟨nofun, nofun, nofun, fun _ => .nil, nofun, fun _ => withdrawnLast_nil⟩
  | step before apart performed ih =>
      have sound := sound_of_reaches before
      exact ih.does sound (does_perform sound performed) apart

/-- A subscription is silent after its unsubscription in every run. It is silent after a stop when the stops are
settled, and the withdrawn state is its last when the callbacks that get this state are left apart. -/
theorem subscription_quiescent (maxEndpoints maxOperations : Nat) :
    (∀ world, system.Reaches (fun _ _ => True) (begun maxEndpoints maxOperations) world → ∀ handle,
      Silent .unsubscribed (world.subscriptions handle).log) ∧
    (∀ world, system.Reaches Settled (begun maxEndpoints maxOperations) world → ∀ handle,
      Silent .stopped (world.subscriptions handle).log) ∧
    ∀ world, system.Reaches Apart (begun maxEndpoints maxOperations) world → ∀ handle,
      WithdrawnLast (world.subscriptions handle).log :=
  ⟨fun _ reached => (sound_of_reaches reached).silent, fun _ reached => (stopped_of_reaches reached).silent,
    fun _ reached => (withdrawn_of_reaches reached).last⟩

end Runs

def subscriber : Descriptor := { notification "1".toList with kind := .eventSubscriber }

/-- A subscription with a state handler has got its first state. -/
def opened : List Action :=
  [.operate (.start true), .operate (.endpointCreate subscriber), .subscribe 1 7, .setStateHandler 2 8, .run 0 0,
    .enter 0, .leave 0, .exit 0]

/-- The subscription gets a sample, and a stop withdraws it. -/
def withdrawing : List Action :=
  opened ++ [.message ⟨4660, 1, 32769, false⟩ [5], .run 0 0, .enter 0, .leave 0, .exit 0, .stop 1, .enter 1, .leave 1,
    .exit 1]

/-- What the subscription is told in this run. -/
def withdrawingLog : List Event :=
  [.called 8 (.state .requested .ok), .called 7 (.sample [5] 1), .called 8 (.state .withdrawn .shuttingDown), .stopped]

example : ∃ world,
    system.Reaches (fun world action => Settled world action ∧ Apart world action) (begun 128 128) world ∧
      (world.subscriptions 2).log = withdrawingLog := by
  let free (world : World) (thread : Nat) (handle : Handle) : Bool :=
    (world.frames thread).all fun frame => !frame.withdraws handle
  let check (world : World) : Action → Bool
    | .stop _ => (List.range world.transport.nextHandle).all fun handle => !(world.subscriptions handle).active ||
        world.transport.running && (world.transport.subscriptions.lookup handle).isSome
    | .unsubscribe thread handle => free world thread handle
    | .run thread index => world.tasks[index]?.all fun visit => free world thread visit.handle
    | .connect thread registered => (world.changed registered).all (free world thread)
    | _ => true
  have apart {world : World} {thread : Nat} {handle : Handle} (free : free world thread handle = true) :
      ¬world.Withdrawing thread handle := by
    rintro ⟨frame, listed, withdraws⟩
    have other := List.all_eq_true.mp free frame listed
    rw [withdraws] at other
    cases other
  have executed : (system.run check (withdrawing.map fun action _ => action) (begun 128 128)).any
      (fun world => decide ((world.subscriptions 2).log = withdrawingLog)) = true := by
    decide
  obtain ⟨world, reached, ended⟩ :=
    Concurrency.System.Reaches.exists_of_run check (fun _ _ checked => checked) _ _ executed
  refine ⟨world, reached.permits fun state action before checked => ?_, of_decide_eq_true ended⟩
  cases action with
  | stop thread =>
      refine ⟨fun handle active => ?_, trivial⟩
      have inside := List.mem_range.mpr ((sound_of_reaches before).active handle active)
      have kept := List.all_eq_true.mp checked handle inside
      rw [active, Bool.not_true, Bool.false_or, Bool.and_eq_true] at kept
      exact ⟨kept.1, Option.isSome_iff_ne_none.mp kept.2⟩
  | unsubscribe thread handle => exact ⟨trivial, fun _ => apart checked⟩
  | run thread index => exact ⟨trivial, fun visit found _ => apart ((Option.all_eq_true _ _).mp checked visit found)⟩
  | connect thread registered =>
      exact ⟨trivial, fun handle listed => apart (List.all_eq_true.mp checked handle listed)⟩
  | _ => exact ⟨trivial, trivial⟩

/-- The callback that gets the withdrawn state from a stop unsubscribes the subscription. -/
def unsubscribing : List Action := opened ++ [.stop 1, .enter 1, .unsubscribe 1 2, .enter 1]

/-- The withdrawn state is delivered again. -/
theorem withdrawn_again : ¬∀ world, system.Reaches (fun _ _ => True) (begun 128 128) world → ∀ handle,
    Silent .unsubscribed (world.subscriptions handle).log ∧ Silent .stopped (world.subscriptions handle).log ∧
      WithdrawnLast (world.subscriptions handle).log := by
  intro claimed
  have executed : (system.run (fun _ _ => true) (unsubscribing.map fun action _ => action) (begun 128 128)).any
      (fun world => decide ((world.subscriptions 2).log.countP Event.isWithdrawn = 2)) = true := by
    decide
  obtain ⟨world, reached, ended⟩ := Concurrency.System.Reaches.exists_of_run _ (fun _ _ _ => trivial) _ _ executed
  have once := (claimed world reached 2).2.2.once
  rw [of_decide_eq_true ended] at once
  cases Nat.le_of_succ_le_succ once

end OpenVehicle.Com.Vsomeip.Events
