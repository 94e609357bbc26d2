/-
This file proves what the callbacks of the subscriptions of the SOME/IP transport keep. An invariant says what each
frame of a thread is still to do, and each kind of step keeps it.
-/

import OpenVehicle.Com.VsomeipEvents

namespace OpenVehicle.Com.Vsomeip

open Data (HandleTable)

variable {handle : Handle}

namespace Transport
variable {self later : Transport}

/-- A transport runs at most once, and only a subscription adds to the table of subscriptions. -/
structure Evolves (before later : Transport) : Prop where
  ordered : before.subscriptions.Ordered before.nextHandle → later.subscriptions.Ordered later.nextHandle
  nextHandle : before.nextHandle ≤ later.nextHandle
  startedOnce : before.startedOnce = true → later.startedOnce = true
  running : later.running = true → before.running = true ∨ (before.startedOnce = false ∧ later.startedOnce = true)
  fewer : ∀ handle endpoint, later.subscriptions.lookup handle = some endpoint →
    before.subscriptions.lookup handle = some endpoint
  idle : before.subscriptions = [] → later.subscriptions = []

theorem Evolves.keep (nextHandle : self.nextHandle ≤ later.nextHandle) (running : later.running = self.running)
    (startedOnce : later.startedOnce = self.startedOnce) (subscriptions : later.subscriptions = self.subscriptions) :
    Evolves self later where
  ordered ordered := subscriptions ▸ ordered.mono nextHandle
  nextHandle := nextHandle
  startedOnce started := startedOnce ▸ started
  running runs := .inl (running ▸ runs)
  fewer _ _ known := subscriptions ▸ known
  idle empty := subscriptions ▸ empty

theorem Evolves.refl (self : Transport) : Evolves self self := .keep (Nat.le_refl _) rfl rfl rfl

theorem evolves_operation (operation : Operation) (other : operation.subscribes = false) :
    Evolves self (operation.perform self) := by
  cases operation with
  | subscribe _ | unsubscribe _ => cases other
  | start initialized =>
      simp only [Operation.perform, Transport.start]
      split
      · exact .refl self
      · rename_i idle
        split
        · exact .refl self
        · have fresh : self.startedOnce = false := by
            simpa using (not_or.mp idle).2
          exact ⟨id, Nat.le_refl _, fun _ => rfl, fun _ => .inr ⟨fresh, rfl⟩, fun _ _ known => known, id⟩
  | watchStart nativeMapping =>
      simp only [Operation.perform, Transport.watchStart]
      repeat' first | exact .refl self | exact .keep (Nat.le_succ _) rfl rfl rfl | split
  | endpointCreate descriptor =>
      simp only [Operation.perform, Transport.endpointCreate]
      repeat' first | exact .refl self | exact .keep (Nat.le_succ _) rfl rfl rfl | split
  | receive message =>
      simp only [Operation.perform, Transport.receive]
      repeat' first | exact .refl self | exact .keep (Nat.le_succ _) rfl rfl rfl | split
  | request endpoint operation size deadline correlation =>
      simp only [Operation.perform, Transport.request]
      repeat' first | exact .refl self | exact .keep (Nat.le_succ _) rfl rfl rfl | split
  | watchStop handle =>
      simp only [Operation.perform, Transport.watchStop]
      repeat' first | exact .refl self | exact .keep (Nat.le_refl _) rfl rfl rfl | split
  | endpointDestroy handle =>
      simp only [Operation.perform, Transport.endpointDestroy]
      repeat' first | exact .refl self | exact .keep (Nat.le_refl _) rfl rfl rfl | split
  | response correlation =>
      simp only [Operation.perform, Transport.response]
      repeat' first | exact .refl self | exact .keep (Nat.le_refl _) rfl rfl rfl | split
  | cancel operation =>
      simp only [Operation.perform, Transport.cancel]
      repeat' first | exact .refl self | exact .keep (Nat.le_refl _) rfl rfl rfl | split
  | expire now => exact .keep (Nat.le_refl _) rfl rfl rfl
  | setHandler endpoint handler =>
      simp only [Operation.perform, Transport.setHandler]
      repeat' first | exact .refl self | exact .keep (Nat.le_refl _) rfl rfl rfl | split
  | respond handle size =>
      simp only [Operation.perform, Transport.respond]
      repeat' first | exact .refl self | exact .keep (Nat.le_refl _) rfl rfl rfl | split

/-- A subscription leaves the table, or it was not there. -/
theorem unsubscribe_cases (handle : Handle) : (self.unsubscribe handle).1 ≠ .ok ∨
    ∃ endpoint, self.subscriptions.lookup handle = some endpoint ∧ (self.unsubscribe handle).1 = .ok ∧
      (self.unsubscribe handle).2.subscriptions = HandleTable.remove handle self.subscriptions ∧
      Evolves self (self.unsubscribe handle).2 := by
  unfold Transport.unsubscribe
  cases known : self.subscriptions.lookup handle with
  | none => exact .inl nofun
  | some endpoint =>
      refine .inr ⟨endpoint, rfl, ?_⟩
      have evolves {other : Transport}
          (subscriptions : other.subscriptions = HandleTable.remove handle self.subscriptions)
          (nextHandle : other.nextHandle = self.nextHandle) (running : other.running = self.running)
          (startedOnce : other.startedOnce = self.startedOnce) : Evolves self other := by
        refine ⟨fun ordered => ?_, Nat.le_of_eq nextHandle.symm, fun started => startedOnce ▸ started,
          fun runs => .inl (running ▸ runs), fun user target listed => ?_, fun empty => ?_⟩
        · rw [subscriptions, nextHandle]
          exact ordered.remove
        · rw [subscriptions] at listed
          have different : user ≠ handle := by
            rintro rfl
            rw [HandleTable.lookup_remove_self] at listed
            cases listed
          rwa [HandleTable.lookup_remove_ne different] at listed
        · rw [subscriptions, empty]
          rfl
      dsimp only
      split
      · exact ⟨rfl, rfl, evolves rfl rfl rfl rfl⟩
      · exact ⟨rfl, rfl, evolves rfl rfl rfl rfl⟩

/-- The first stop ends the run of the transport, and it keeps the table of subscriptions. -/
theorem stop_table : (self.running = false ∧ self.stop = (none, self)) ∨
    ∃ taken, self.running = true ∧ self.stop = (some taken, self.stop.2) ∧ self.stop.2.running = false ∧
      self.stop.2.startedOnce = self.startedOnce ∧ self.stop.2.subscriptions = self.subscriptions ∧
      self.stop.2.nextHandle = self.nextHandle := by
  unfold Transport.stop
  cases runs : self.running with
  | false => exact .inl ⟨rfl, rfl⟩
  | true => exact .inr ⟨_, rfl, rfl, rfl, rfl, rfl, rfl⟩

/-- The transport has stopped, or the subscription has left the table. -/
def Gone (handle : Handle) (transport : Transport) : Prop :=
  (transport.running = false ∧ transport.startedOnce = true) ∨ transport.subscriptions.lookup handle = none

theorem Evolves.stopped (evolves : Evolves self later) (stopped : self.running = false)
    (started : self.startedOnce = true) : later.running = false ∧ later.startedOnce = true := by
  refine ⟨?_, evolves.startedOnce started⟩
  by_contra runs
  rcases evolves.running (eq_true_of_ne_false runs) with before | ⟨fresh, _⟩
  · rw [stopped] at before
    cases before
  · rw [started] at fresh
    cases fresh

theorem Evolves.gone (evolves : Evolves self later) (gone : self.Gone handle) : later.Gone handle := by
  rcases gone with ⟨stopped, started⟩ | missing
  · exact .inl (evolves.stopped stopped started)
  · refine .inr (Option.eq_none_iff_forall_ne_some.mpr fun endpoint known => ?_)
    have before := evolves.fewer handle endpoint known
    rw [missing] at before
    cases before

end Transport

namespace Events

variable {world : World} {callback : Callback} {frame : Frame} {subscription : Subscription}
variable {thread other : Nat} {stack below : List Frame} {event : Event} {visit : Visit}

/-- No callback starts after such an event. -/
def Silent (event : Event) (log : List Event) : Prop :=
  log.Pairwise fun earlier later => earlier = event → later.isCall = false

/-- The withdrawn state is delivered at most once, and no state is delivered after it. -/
structure WithdrawnLast (log : List Event) : Prop where
  once : log.countP Event.isWithdrawn ≤ 1
  last : log.Pairwise fun earlier later => earlier.isWithdrawn = true → later.isState = false

/-- The thread is inside the callback that gets the withdrawn state. -/
def World.Withdrawing (world : World) (thread : Nat) (handle : Handle) : Prop :=
  ∃ frame ∈ world.frames thread, frame.withdraws handle = true

section Logs
variable {log : List Event}

theorem silent_append {last : Event} : Silent event (log ++ [last]) ↔
    Silent event log ∧ (event ∈ log → last.isCall = false) := by
  unfold Silent
  rw [List.pairwise_append]
  constructor
  · rintro ⟨before, _, between⟩
    exact ⟨before, fun listed => between event listed last (List.mem_singleton_self last) rfl⟩
  · rintro ⟨before, quiet⟩
    refine ⟨before, List.pairwise_singleton _ _, fun earlier listed later final same => ?_⟩
    rw [List.mem_singleton.mp final]
    exact quiet (same ▸ listed)

theorem isState_of_isWithdrawn (withdrawn : event.isWithdrawn = true) : event.isState = true := by
  cases event with
  | called callback notice =>
      cases notice with
      | sample payload sequence => cases withdrawn
      | state state reason => rfl
  | unsubscribed => cases withdrawn
  | stopped => cases withdrawn

theorem not_isState (quiet : event.isCall = false) : event.isState = false := by
  cases event with
  | called callback notice => cases quiet
  | unsubscribed => rfl
  | stopped => rfl

theorem WithdrawnLast.append (withdrawn : WithdrawnLast log)
    (last : ∀ earlier ∈ log, earlier.isWithdrawn = true → event.isState = false) : WithdrawnLast (log ++ [event]) where
  once := by
    rw [List.countP_append, List.countP_singleton]
    split
    · rename_i again
      have none : log.countP Event.isWithdrawn = 0 := by
        apply List.countP_eq_zero.mpr
        intro earlier listed before
        have other := last earlier listed before
        rw [isState_of_isWithdrawn again] at other
        cases other
      omega
    · exact withdrawn.once
  last := by
    rw [List.pairwise_append]
    refine ⟨withdrawn.last, List.pairwise_singleton _ _, fun earlier listed later final before => ?_⟩
    rw [List.mem_singleton.mp final]
    exact last earlier listed before

theorem withdrawnLast_nil : WithdrawnLast [] := ⟨Nat.zero_le _, .nil⟩

end Logs

@[simp] theorem finish_log (visit : Visit) : (visit.finish subscription).log = subscription.log := by
  unfold Visit.finish
  split <;> rfl

@[simp] theorem finish_gate (visit : Visit) : (visit.finish subscription).gate = subscription.gate := by
  unfold Visit.finish
  split <;> rfl

@[simp] theorem finish_state (visit : Visit) : (visit.finish subscription).state = subscription.state := by
  unfold Visit.finish
  split <;> rfl

/-- A finished visit leaves the subscription active when it does not withdraw it. -/
theorem finish_active : (visit.finish subscription).active = true ↔
    subscription.active = true ∧ visit.closes = false := by
  unfold Visit.finish
  cases closes : visit.closes with
  | true => simp
  | false => simp

theorem eq_withdraw (closes : visit.closes = true) : ∃ reason, visit = .withdraw visit.handle reason := by
  cases visit with
  | withdraw handle reason => exact ⟨reason, rfl⟩
  | _ => cases closes

theorem active_of_calls (calls : visit.calls subscription = some callback) : subscription.active = true := by
  cases active : subscription.active with
  | true => rfl
  | false => simp [Visit.calls, active] at calls

/-- A frame that holds a gate visits the subscription. -/
theorem exists_of_holds (holds : frame.holds handle = true) : ∃ visit ∈ frame.visits, visit.handle = handle := by
  obtain ⟨visits, inside, returns⟩ := frame
  cases inside with
  | false => cases holds
  | true =>
      cases visits with
      | nil => cases holds
      | cons visit rest => exact ⟨visit, List.mem_cons_self, beq_iff_eq.mp holds⟩

/-- A frame inside the callback that gets the withdrawn state withdraws the subscription. -/
theorem exists_of_withdraws (withdraws : frame.withdraws handle = true) :
    ∃ visit ∈ frame.visits, visit.closes = true ∧ visit.handle = handle := by
  obtain ⟨visits, inside, returns⟩ := frame
  cases inside with
  | false => cases withdraws
  | true =>
      cases visits with
      | nil => cases withdraws
      | cons visit rest =>
          obtain ⟨closes, same⟩ := (Bool.and_eq_true _ _).mp withdraws
          exact ⟨visit, List.mem_cons_self, closes, beq_iff_eq.mp same⟩

theorem holds_of_withdraws (withdraws : frame.withdraws handle = true) : frame.holds handle = true := by
  obtain ⟨visits, inside, returns⟩ := frame
  cases inside with
  | false => cases withdraws
  | true =>
      cases visits with
      | nil => cases withdraws
      | cons visit rest => exact ((Bool.and_eq_true _ _).mp withdraws).2

/-- What a frame of a thread has before it. An unsubscription withdraws its subscription once. -/
structure FrameSound (world : World) (thread : Nat) (frame : Frame) : Prop where
  below : ∀ visit ∈ frame.visits, visit.handle < world.transport.nextHandle
  owned : ∀ handle, frame.holds handle = true → (world.subscriptions handle).gate = some thread
  returns : ∀ handle, frame.returns = .unsubscribe handle → handle < world.transport.nextHandle
  closing : ∀ handle, frame.returns = .unsubscribe handle → (world.subscriptions handle).active = true →
    ∃ reason, frame.visits = [.withdraw handle reason]

/-- Only a live subscription is active, and one whose unsubscription has returned is silent. -/
structure Sound (world : World) : Prop where
  ordered : world.transport.subscriptions.Ordered world.transport.nextHandle
  once : world.transport.running = true → world.transport.startedOnce = true
  idle : world.transport.startedOnce = false → world.transport.subscriptions = []
  active : ∀ handle, (world.subscriptions handle).active = true → handle < world.transport.nextHandle
  tasks : ∀ visit ∈ world.tasks, visit.handle < world.transport.nextHandle
  frames : ∀ thread, ∀ frame ∈ world.frames thread, FrameSound world thread frame
  ended : ∀ handle, .unsubscribed ∈ (world.subscriptions handle).log → (world.subscriptions handle).active = false
  silent : ∀ handle, Silent .unsubscribed (world.subscriptions handle).log

/-- A stop is still to withdraw every active subscription. -/
def FrameStops (world : World) (frame : Frame) : Prop :=
  frame.returns = .stop → world.transport.running = false ∧ world.transport.startedOnce = true ∧
    ∀ handle, (world.subscriptions handle).active = true → ∃ reason, .withdraw handle reason ∈ frame.visits

/-- A subscription is inactive and silent when a stop has returned. -/
structure Stopped (world : World) : Prop where
  frames : ∀ thread, ∀ frame ∈ world.frames thread, FrameStops world frame
  ended : ∀ handle, .stopped ∈ (world.subscriptions handle).log → (world.subscriptions handle).active = false
  silent : ∀ handle, Silent .stopped (world.subscriptions handle).log

/-- Only a visit that withdraws the subscription delivers the withdrawn state. -/
def FrameHonest (world : World) (frame : Frame) : Prop :=
  ∀ visit ∈ frame.visits, (visit.notice.isWithdrawn = true → visit.closes = true) ∧
    (visit.closes = true → world.transport.Gone visit.handle)

/-- Inside the callback that gets the withdrawn state, the inner frame delivers no state to the subscription. -/
def Over (upper lower : Frame) : Prop :=
  ∀ handle, lower.withdraws handle = true → ∀ visit ∈ upper.visits, visit.handle = handle →
    visit.notice.isState = false

/-- A subscription that has got the withdrawn state is inactive, or its callback has not ended. -/
structure Withdrawn (world : World) : Prop where
  states : ∀ handle, (world.subscriptions handle).state ≠ .withdrawn
  tasks : ∀ visit ∈ world.tasks, visit.notice.isWithdrawn = false
  frames : ∀ thread, ∀ frame ∈ world.frames thread, FrameHonest world frame
  stacked : ∀ thread, (world.frames thread).Pairwise Over
  pending : ∀ handle, (∃ event ∈ (world.subscriptions handle).log, event.isWithdrawn = true) →
    (world.subscriptions handle).active = true → ∃ thread, world.Withdrawing thread handle
  last : ∀ handle, WithdrawnLast (world.subscriptions handle).log

@[simp] theorem frames_setFrames_self : (world.setFrames thread stack).frames thread = stack :=
  Function.update_self _ _ _

theorem frames_setFrames_ne (different : other ≠ thread) :
    (world.setFrames thread stack).frames other = world.frames other := Function.update_of_ne different _ _

theorem mem_setFrames (listed : frame ∈ (world.setFrames thread stack).frames other) :
    (other = thread ∧ frame ∈ stack) ∨ (other ≠ thread ∧ frame ∈ world.frames other) := by
  by_cases same : other = thread
  · subst same
    rw [frames_setFrames_self] at listed
    exact .inl ⟨rfl, listed⟩
  · rw [frames_setFrames_ne same] at listed
    exact .inr ⟨same, listed⟩

theorem subscriptions_setFrames : (world.setFrames thread stack).subscriptions = world.subscriptions := rfl

@[simp] theorem modify_self (change : Subscription → Subscription) :
    (world.modify handle change).subscriptions handle = change (world.subscriptions handle) :=
  Function.update_self _ _ _

theorem modify_ne {user : Handle} (different : user ≠ handle) (change : Subscription → Subscription) :
    (world.modify handle change).subscriptions user = world.subscriptions user := Function.update_of_ne different _ _

/-- A change of one subscription keeps the fields that it does not write. -/
theorem field_update {A : Type} (field : Subscription → A) {later : World}
    (changed : later.subscriptions = Function.update world.subscriptions handle subscription)
    (same : field subscription = field (world.subscriptions handle)) (user : Handle) :
    field (later.subscriptions user) = field (world.subscriptions user) := by
  rw [changed]
  by_cases own : user = handle
  · rw [own, Function.update_self, same]
  · rw [Function.update_of_ne own]

theorem field_assign {A : Type} (field : Subscription → A) {handles : List Handle} {state : SubscriptionState}
    {reason : Status} (same : ∀ subscription : Subscription,
      field { subscription with state := state, reason := reason } = field subscription) (user : Handle) :
    field ((world.assign handles state reason).subscriptions user) = field (world.subscriptions user) := by
  unfold World.assign
  dsimp only
  split
  · exact same _
  · rfl

section Calm

/-- A calm step calls nothing, makes no subscription inactive and changes no stack. -/
structure Calm (world later : World) : Prop where
  transport : Transport.Evolves world.transport later.transport
  active : ∀ handle, (later.subscriptions handle).active = (world.subscriptions handle).active
  gate : ∀ handle, (later.subscriptions handle).gate = (world.subscriptions handle).gate
  log : ∀ handle, (later.subscriptions handle).log = (world.subscriptions handle).log ∨
    ∃ event, (later.subscriptions handle).log = (world.subscriptions handle).log ++ [event] ∧ event.isCall = false ∧
      (event = .unsubscribed → (world.subscriptions handle).active = false)
  state : ∀ handle, (later.subscriptions handle).state = (world.subscriptions handle).state ∨
    (later.subscriptions handle).state ≠ .withdrawn
  tasks : ∀ visit ∈ later.tasks, visit ∈ world.tasks ∨ (visit.handle < world.transport.nextHandle ∧
    (visit.notice.isWithdrawn = true → (world.subscriptions visit.handle).state = .withdrawn))
  frames : later.frames = world.frames

variable {world later : World}

variable (calm : Calm world later)
include calm

theorem Calm.sound (sound : Sound world) : Sound later where
  ordered := calm.transport.ordered sound.ordered
  once runs := by
    rcases calm.transport.running runs with before | ⟨_, started⟩
    · exact calm.transport.startedOnce (sound.once before)
    · exact started
  idle fresh := by
    refine calm.transport.idle (sound.idle ?_)
    by_contra started
    rw [calm.transport.startedOnce (eq_true_of_ne_false started)] at fresh
    cases fresh
  active handle alive := by
    rw [calm.active] at alive
    exact Nat.lt_of_lt_of_le (sound.active handle alive) calm.transport.nextHandle
  tasks visit listed := by
    rcases calm.tasks visit listed with before | ⟨below, _⟩
    · exact Nat.lt_of_lt_of_le (sound.tasks visit before) calm.transport.nextHandle
    · exact Nat.lt_of_lt_of_le below calm.transport.nextHandle
  frames thread frame listed := by
    rw [calm.frames] at listed
    have before := sound.frames thread frame listed
    refine ⟨fun visit inside => ?_, fun handle holds => ?_, fun handle returns => ?_, fun handle returns alive => ?_⟩
    · exact Nat.lt_of_lt_of_le (before.below visit inside) calm.transport.nextHandle
    · rw [calm.gate]
      exact before.owned handle holds
    · exact Nat.lt_of_lt_of_le (before.returns handle returns) calm.transport.nextHandle
    · rw [calm.active] at alive
      exact before.closing handle returns alive
  ended handle listed := by
    rw [calm.active]
    rcases calm.log handle with same | ⟨event, appended, _, ends⟩
    · exact sound.ended handle (same ▸ listed)
    · rw [appended] at listed
      rcases List.mem_append.mp listed with before | last
      · exact sound.ended handle before
      · exact ends (List.mem_singleton.mp last).symm
  silent handle := by
    rcases calm.log handle with same | ⟨event, appended, quiet, _⟩
    · rw [same]
      exact sound.silent handle
    · rw [appended, silent_append]
      exact ⟨sound.silent handle, fun _ => quiet⟩

/-- A stop may return when the subscriptions are inactive. -/
theorem Calm.stopped (stopped : Stopped world)
    (ends : ∀ handle, .stopped ∈ (later.subscriptions handle).log → .stopped ∈ (world.subscriptions handle).log ∨
      (world.subscriptions handle).active = false) : Stopped later where
  frames thread frame listed returns := by
    rw [calm.frames] at listed
    obtain ⟨idle, started, closing⟩ := stopped.frames thread frame listed returns
    obtain ⟨idle, started⟩ := calm.transport.stopped idle started
    refine ⟨idle, started, fun handle alive => ?_⟩
    rw [calm.active] at alive
    exact closing handle alive
  ended handle listed := by
    rw [calm.active]
    rcases ends handle listed with before | inactive
    · exact stopped.ended handle before
    · exact inactive
  silent handle := by
    rcases calm.log handle with same | ⟨event, appended, quiet, _⟩
    · rw [same]
      exact stopped.silent handle
    · rw [appended, silent_append]
      exact ⟨stopped.silent handle, fun _ => quiet⟩

theorem Calm.withdrawing : later.Withdrawing thread handle ↔ world.Withdrawing thread handle := by
  rw [World.Withdrawing, calm.frames, World.Withdrawing]

theorem Calm.withdrawn (withdrawn : Withdrawn world) : Withdrawn later where
  states handle := by
    rcases calm.state handle with same | other
    · rw [same]
      exact withdrawn.states handle
    · exact other
  tasks visit listed := by
    rcases calm.tasks visit listed with before | ⟨_, copied⟩
    · exact withdrawn.tasks visit before
    · exact Bool.eq_false_iff.mpr fun told => withdrawn.states visit.handle (copied told)
  frames thread frame listed visit inside := by
    rw [calm.frames] at listed
    obtain ⟨honest, gone⟩ := withdrawn.frames thread frame listed visit inside
    exact ⟨honest, fun closes => calm.transport.gone (gone closes)⟩
  stacked thread := by
    rw [calm.frames]
    exact withdrawn.stacked thread
  pending handle told alive := by
    rw [calm.active] at alive
    have before : ∃ event ∈ (world.subscriptions handle).log, event.isWithdrawn = true := by
      obtain ⟨event, listed, told⟩ := told
      rcases calm.log handle with same | ⟨last, appended, quiet, _⟩
      · exact ⟨event, same ▸ listed, told⟩
      · rw [appended] at listed
        rcases List.mem_append.mp listed with before | final
        · exact ⟨event, before, told⟩
        · have silent := not_isState quiet
          rw [← List.mem_singleton.mp final, isState_of_isWithdrawn told] at silent
          cases silent
    obtain ⟨thread, inside⟩ := withdrawn.pending handle before alive
    exact ⟨thread, calm.withdrawing.mpr inside⟩
  last handle := by
    rcases calm.log handle with same | ⟨event, appended, quiet, _⟩
    · rw [same]
      exact withdrawn.last handle
    · rw [appended]
      exact (withdrawn.last handle).append fun _ _ _ => not_isState quiet

end Calm

/-- A function begins with a new frame, and a thread drops the frame of a function that returns. -/
theorem Sound.setFrames (sound : Sound world) (fits : ∀ frame ∈ stack, FrameSound world thread frame) :
    Sound (world.setFrames thread stack) where
  ordered := sound.ordered
  once := sound.once
  idle := sound.idle
  active := sound.active
  tasks := sound.tasks
  frames other frame listed := by
    have fitting : FrameSound world other frame := by
      rcases mem_setFrames listed with ⟨rfl, inside⟩ | ⟨_, before⟩
      · exact fits frame inside
      · exact sound.frames other frame before
    exact ⟨fitting.below, fitting.owned, fitting.returns, fitting.closing⟩
  ended := sound.ended
  silent := sound.silent

theorem Stopped.setFrames (stopped : Stopped world) (fits : ∀ frame ∈ stack, FrameStops world frame) :
    Stopped (world.setFrames thread stack) where
  frames other frame listed := by
    have fitting : FrameStops world frame := by
      rcases mem_setFrames listed with ⟨rfl, inside⟩ | ⟨_, before⟩
      · exact fits frame inside
      · exact stopped.frames other frame before
    exact fitting
  ended := stopped.ended
  silent := stopped.silent

/-- The thread stays inside the callbacks that get the withdrawn state. -/
theorem Withdrawn.setFrames (withdrawn : Withdrawn world) (fits : ∀ frame ∈ stack, FrameHonest world frame)
    (stacked : stack.Pairwise Over) (kept : ∀ handle, (world.subscriptions handle).active = true →
      ∀ frame ∈ world.frames thread, frame.withdraws handle = true → frame ∈ stack) :
    Withdrawn (world.setFrames thread stack) where
  states := withdrawn.states
  tasks := withdrawn.tasks
  frames other frame listed := by
    have fitting : FrameHonest world frame := by
      rcases mem_setFrames listed with ⟨rfl, inside⟩ | ⟨_, before⟩
      · exact fits frame inside
      · exact withdrawn.frames other frame before
    exact fitting
  stacked other := by
    by_cases same : other = thread
    · subst same
      rwa [frames_setFrames_self]
    · rw [frames_setFrames_ne same]
      exact withdrawn.stacked other
  pending handle told alive := by
    obtain ⟨other, frame, listed, withdraws⟩ := withdrawn.pending handle told alive
    refine ⟨other, frame, ?_, withdraws⟩
    by_cases same : other = thread
    · subst same
      rw [frames_setFrames_self]
      exact kept handle alive frame listed withdraws
    · rwa [frames_setFrames_ne same]
  last := withdrawn.last

theorem Sound.push (sound : Sound world) (fits : FrameSound world thread frame) : Sound (world.push thread frame) :=
  sound.setFrames fun other listed => by
    rcases List.mem_cons.mp listed with rfl | before
    · exact fits
    · exact sound.frames thread other before

theorem Stopped.push (stopped : Stopped world) (fits : FrameStops world frame) : Stopped (world.push thread frame) :=
  stopped.setFrames fun other listed => by
    rcases List.mem_cons.mp listed with rfl | before
    · exact fits
    · exact stopped.frames thread other before

theorem Withdrawn.push (withdrawn : Withdrawn world) (fits : FrameHonest world frame)
    (outer : ∀ lower ∈ world.frames thread, Over frame lower) : Withdrawn (world.push thread frame) := by
  refine withdrawn.setFrames (fun other listed => ?_) (List.pairwise_cons.mpr ⟨outer, withdrawn.stacked thread⟩)
    fun _ _ _ listed _ => List.mem_cons_of_mem _ listed
  rcases List.mem_cons.mp listed with rfl | before
  · exact fits
  · exact withdrawn.frames thread other before

section Replace
variable {old new frame : Frame}
variable (top : world.frames thread = old :: below)
include top

theorem mem_top : old ∈ world.frames thread := top ▸ List.mem_cons_self

theorem mem_below (listed : frame ∈ below) : frame ∈ world.frames thread := top ▸ List.mem_cons_of_mem _ listed

/-- Another innermost frame leaves the other frames in place. -/
theorem mem_replaced (listed : frame ∈ (world.setFrames thread (new :: below)).frames other) :
    (other = thread ∧ frame = new) ∨ frame ∈ world.frames other := by
  rcases mem_setFrames listed with ⟨rfl, inside⟩ | ⟨_, before⟩
  · exact (List.mem_cons.mp inside).imp (fun same => ⟨rfl, same⟩) (mem_below top)
  · exact .inr before

theorem stacked_replaced (stacked : ∀ thread, (world.frames thread).Pairwise Over)
    (part : ∀ visit ∈ new.visits, visit ∈ old.visits) (other : Nat) :
    ((world.setFrames thread (new :: below)).frames other).Pairwise Over := by
  by_cases same : other = thread
  · subst same
    have before := stacked other
    rw [top, List.pairwise_cons] at before
    rw [frames_setFrames_self, List.pairwise_cons]
    exact ⟨fun lower listed handle withdraws visit inside =>
      before.1 lower listed handle withdraws visit (part visit inside), before.2⟩
  · rw [frames_setFrames_ne same]
    exact stacked other

/-- A thread stays inside a callback that gets the withdrawn state when the callback is not that of the replaced
frame. -/
theorem withdrawing_replaced (inside : world.Withdrawing other handle) :
    (world.setFrames thread (new :: below)).Withdrawing other handle ∨ old.withdraws handle = true := by
  obtain ⟨frame, listed, withdraws⟩ := inside
  by_cases same : other = thread
  · subst same
    rw [top] at listed
    rcases List.mem_cons.mp listed with rfl | lower
    · exact .inr withdraws
    · refine .inl ⟨frame, ?_, withdraws⟩
      rw [frames_setFrames_self]
      exact List.mem_cons_of_mem _ lower
  · refine .inl ⟨frame, ?_, withdraws⟩
    rwa [frames_setFrames_ne same]

end Replace

section Visiting
variable {rest : List Visit} {returns : Return} {gate : Option Nat}

theorem subscriptions_finished_self : (world.finished thread visit rest returns below gate).subscriptions visit.handle =
    visit.finish { world.subscriptions visit.handle with gate := gate } := by
  rw [World.finished, subscriptions_setFrames, modify_self]

theorem subscriptions_finished_ne (different : handle ≠ visit.handle) :
    (world.finished thread visit rest returns below gate).subscriptions handle = world.subscriptions handle := by
  rw [World.finished, subscriptions_setFrames, modify_ne different]

theorem log_finished (handle : Handle) :
    ((world.finished thread visit rest returns below gate).subscriptions handle).log =
      (world.subscriptions handle).log := field_update Subscription.log rfl (by exact finish_log visit) handle

theorem state_finished (handle : Handle) :
    ((world.finished thread visit rest returns below gate).subscriptions handle).state =
      (world.subscriptions handle).state := field_update Subscription.state rfl (by exact finish_state visit) handle

/-- A subscription stays active, and the visit does not withdraw it. -/
theorem active_finished
    (alive : ((world.finished thread visit rest returns below gate).subscriptions handle).active = true) :
    (world.subscriptions handle).active = true ∧ (visit.closes = true → handle ≠ visit.handle) := by
  by_cases same : handle = visit.handle
  · rw [same, subscriptions_finished_self, finish_active] at alive
    refine ⟨same ▸ alive.1, fun closes => ?_⟩
    rw [alive.2] at closes
    cases closes
  · rw [subscriptions_finished_ne same] at alive
    exact ⟨alive, fun _ => same⟩

theorem inactive_finished (inactive : (world.subscriptions handle).active = false) :
    ((world.finished thread visit rest returns below gate).subscriptions handle).active = false := by
  by_contra alive
  rw [(active_finished (eq_true_of_ne_false alive)).1] at inactive
  cases inactive

section Finish
variable {inside : Bool} (top : world.frames thread = ⟨visit :: rest, inside, returns⟩ :: below)
include top

/-- The gate of the subscription is that of the frames that still hold it. -/
theorem Sound.finished (sound : Sound world) (owned : ∀ frame ∈ below, frame.holds visit.handle = true →
      gate = some thread) (others : ∀ other ≠ thread, ∀ frame ∈ world.frames other,
        frame.holds visit.handle = true → gate = some other) :
    Sound (world.finished thread visit rest returns below gate) where
  ordered := sound.ordered
  once := sound.once
  idle := sound.idle
  active handle alive := sound.active handle (active_finished alive).1
  tasks := sound.tasks
  frames other frame listed := by
    have first := sound.frames thread _ (mem_top top)
    have owns {handle : Handle} (held : handle = visit.handle → gate = some other)
        (before : (world.subscriptions handle).gate = some other) :
        ((world.finished thread visit rest returns below gate).subscriptions handle).gate = some other := by
      by_cases same : handle = visit.handle
      · rw [same, subscriptions_finished_self, finish_gate]
        exact held same
      · rw [subscriptions_finished_ne same]
        exact before
    rcases mem_setFrames listed with ⟨rfl, inside⟩ | ⟨different, before⟩
    · rcases List.mem_cons.mp inside with rfl | lower
      · refine ⟨fun other inside => first.below other (List.mem_cons_of_mem _ inside), nofun, first.returns,
          fun handle returned alive => ?_⟩
        obtain ⟨alive, apart⟩ := active_finished alive
        obtain ⟨reason, visits⟩ := first.closing handle returned alive
        obtain ⟨rfl, _⟩ := List.cons.inj visits
        exact absurd rfl (apart rfl)
      · have before := sound.frames other frame (mem_below top lower)
        exact ⟨before.below, fun handle holds => owns (fun same => owned frame lower (same ▸ holds))
          (before.owned handle holds), before.returns,
          fun handle returned alive => before.closing handle returned (active_finished alive).1⟩
    · have fits := sound.frames other frame before
      exact ⟨fits.below, fun handle holds => owns (fun same => others other different frame before (same ▸ holds))
        (fits.owned handle holds), fits.returns,
        fun handle returned alive => fits.closing handle returned (active_finished alive).1⟩
  ended handle listed := by
    rw [log_finished] at listed
    exact inactive_finished (sound.ended handle listed)
  silent handle := by
    rw [log_finished]
    exact sound.silent handle

theorem Stopped.finished (stopped : Stopped world) : Stopped (world.finished thread visit rest returns below gate) where
  frames other frame listed := by
    have still {frame : Frame} (before : FrameStops world frame) :
        FrameStops (world.finished thread visit rest returns below gate) frame := by
      intro returned
      obtain ⟨idle, started, closing⟩ := before returned
      exact ⟨idle, started, fun handle alive => closing handle (active_finished alive).1⟩
    rcases mem_replaced top listed with ⟨rfl, rfl⟩ | before
    · intro returned
      obtain ⟨idle, started, closing⟩ := stopped.frames other _ (mem_top top) returned
      refine ⟨idle, started, fun handle alive => ?_⟩
      obtain ⟨alive, apart⟩ := active_finished alive
      obtain ⟨reason, listed⟩ := closing handle alive
      rcases List.mem_cons.mp listed with first | later
      · exact absurd (congrArg Visit.handle first) (apart (congrArg Visit.closes first).symm)
      · exact ⟨reason, later⟩
    · exact still (stopped.frames other frame before)
  ended handle listed := by
    rw [log_finished] at listed
    exact inactive_finished (stopped.ended handle listed)
  silent handle := by
    rw [log_finished]
    exact stopped.silent handle

/-- The callback that gets the withdrawn state ends when its subscription becomes inactive. -/
theorem Withdrawn.finished (withdrawn : Withdrawn world) :
    Withdrawn (world.finished thread visit rest returns below gate) where
  states handle := by
    rw [state_finished]
    exact withdrawn.states handle
  tasks := withdrawn.tasks
  frames other frame listed := by
    rcases mem_replaced top listed with ⟨rfl, rfl⟩ | before
    · exact fun other inside => withdrawn.frames _ _ (mem_top top) other (List.mem_cons_of_mem _ inside)
    · exact withdrawn.frames other frame before
  stacked := stacked_replaced top withdrawn.stacked fun _ inside => List.mem_cons_of_mem _ inside
  pending handle told alive := by
    rw [log_finished] at told
    obtain ⟨alive, apart⟩ := active_finished alive
    obtain ⟨other, before⟩ := withdrawn.pending handle told alive
    rcases withdrawing_replaced top before with still | withdraws
    · exact ⟨other, still⟩
    · cases inside with
      | false => cases withdraws
      | true =>
          obtain ⟨closes, same⟩ := (Bool.and_eq_true _ _).mp withdraws
          exact absurd (beq_iff_eq.mp same).symm (apart closes)
  last handle := by
    rw [log_finished]
    exact withdrawn.last handle

end Finish

theorem subscriptions_called_self : (world.called thread visit rest returns below callback).subscriptions visit.handle =
    { world.subscriptions visit.handle with gate := some thread }.record (.called callback visit.notice) := by
  rw [World.called, subscriptions_setFrames, modify_self]

theorem subscriptions_called_ne (different : handle ≠ visit.handle) :
    (world.called thread visit rest returns below callback).subscriptions handle = world.subscriptions handle := by
  rw [World.called, subscriptions_setFrames, modify_ne different]

theorem active_called (handle : Handle) :
    ((world.called thread visit rest returns below callback).subscriptions handle).active =
      (world.subscriptions handle).active := field_update Subscription.active rfl (by rfl) handle

theorem state_called (handle : Handle) :
    ((world.called thread visit rest returns below callback).subscriptions handle).state =
      (world.subscriptions handle).state := field_update Subscription.state rfl (by rfl) handle

theorem log_called_self : ((world.called thread visit rest returns below callback).subscriptions visit.handle).log =
    (world.subscriptions visit.handle).log ++ [.called callback visit.notice] := by
  rw [subscriptions_called_self]
  rfl

/-- A callback of an active subscription keeps the silence after an event that makes it inactive. -/
theorem silent_called (active : (world.subscriptions visit.handle).active = true)
    (ended : ∀ handle, event ∈ (world.subscriptions handle).log → (world.subscriptions handle).active = false)
    (silent : ∀ handle, Silent event (world.subscriptions handle).log) (handle : Handle) :
    Silent event ((world.called thread visit rest returns below callback).subscriptions handle).log := by
  by_cases same : handle = visit.handle
  · rw [same, log_called_self, silent_append]
    refine ⟨silent visit.handle, fun listed => ?_⟩
    rw [ended visit.handle listed] at active
    cases active
  · rw [subscriptions_called_ne same]
    exact silent handle

theorem mem_log_called (quiet : event.isCall = false)
    (listed : event ∈ ((world.called thread visit rest returns below callback).subscriptions handle).log) :
    event ∈ (world.subscriptions handle).log := by
  by_cases same : handle = visit.handle
  · rw [same, log_called_self] at listed
    rcases List.mem_append.mp listed with before | last
    · exact same ▸ before
    · rw [List.mem_singleton.mp last] at quiet
      cases quiet
  · rwa [subscriptions_called_ne same] at listed

section Call
variable (top : world.frames thread = ⟨visit :: rest, false, returns⟩ :: below)
  (active : (world.subscriptions visit.handle).active = true)
include top active

theorem Sound.called (sound : Sound world) (free : ∀ owner,
      (world.subscriptions visit.handle).gate = some owner → owner = thread) :
    Sound (world.called thread visit rest returns below callback) where
  ordered := sound.ordered
  once := sound.once
  idle := sound.idle
  active handle alive := by
    rw [active_called] at alive
    exact sound.active handle alive
  tasks := sound.tasks
  frames other frame listed := by
    have first := sound.frames thread _ (mem_top top)
    have still {frame : Frame} (before : FrameSound world other frame) :
        FrameSound (world.called thread visit rest returns below callback) other frame := by
      refine ⟨before.below, fun handle holds => ?_, before.returns, fun handle returned alive => ?_⟩
      · have owner := before.owned handle holds
        by_cases same : handle = visit.handle
        · subst same
          rw [subscriptions_called_self, free other owner]
          rfl
        · rw [subscriptions_called_ne same]
          exact owner
      · rw [active_called] at alive
        exact before.closing handle returned alive
    rcases mem_replaced top listed with ⟨rfl, rfl⟩ | before
    · refine ⟨first.below, fun handle holds => ?_, first.returns, fun handle returned alive => ?_⟩
      · rw [← (beq_iff_eq.mp holds : visit.handle = handle), subscriptions_called_self]
        rfl
      · rw [active_called] at alive
        exact first.closing handle returned alive
    · exact still (sound.frames other frame before)
  ended handle listed := by
    rw [active_called]
    exact sound.ended handle (mem_log_called rfl listed)
  silent := silent_called active sound.ended sound.silent

theorem Stopped.called (stopped : Stopped world) : Stopped (world.called thread visit rest returns below callback) where
  frames other frame listed := by
    have still {frame : Frame} (before : FrameStops world frame) :
        FrameStops (world.called thread visit rest returns below callback) frame := by
      intro returned
      obtain ⟨idle, started, closing⟩ := before returned
      refine ⟨idle, started, fun handle alive => ?_⟩
      rw [active_called] at alive
      exact closing handle alive
    rcases mem_replaced top listed with ⟨rfl, rfl⟩ | before
    · exact still (stopped.frames other ⟨visit :: rest, false, returns⟩ (mem_top top))
    · exact still (stopped.frames other frame before)
  ended handle listed := by
    rw [active_called]
    exact stopped.ended handle (mem_log_called rfl listed)
  silent := silent_called active stopped.ended stopped.silent

/-- A thread that enters the gate of an active subscription after the withdrawn state delivers no state. -/
theorem Withdrawn.no_state (withdrawn : Withdrawn world) (sound : Sound world) (free : ∀ owner,
      (world.subscriptions visit.handle).gate = some owner → owner = thread)
    (told : ∃ event ∈ (world.subscriptions visit.handle).log, event.isWithdrawn = true) :
    visit.notice.isState = false := by
  obtain ⟨other, frame, listed, withdraws⟩ := withdrawn.pending visit.handle told active
  have owner := (sound.frames other frame listed).owned visit.handle (holds_of_withdraws withdraws)
  obtain rfl := free other owner
  have stacked := withdrawn.stacked other
  rw [top] at listed stacked
  rcases List.mem_cons.mp listed with rfl | lower
  · cases withdraws
  · exact (List.pairwise_cons.mp stacked).1 frame lower visit.handle withdraws visit List.mem_cons_self rfl

theorem Withdrawn.called (withdrawn : Withdrawn world) (sound : Sound world) (free : ∀ owner,
      (world.subscriptions visit.handle).gate = some owner → owner = thread) :
    Withdrawn (world.called thread visit rest returns below callback) where
  states handle := by
    rw [state_called]
    exact withdrawn.states handle
  tasks := withdrawn.tasks
  frames other frame listed := by
    rcases mem_replaced top listed with ⟨rfl, rfl⟩ | before
    · exact withdrawn.frames other ⟨visit :: rest, false, returns⟩ (mem_top top)
    · exact withdrawn.frames other frame before
  stacked := stacked_replaced top withdrawn.stacked fun _ inside => inside
  pending handle told alive := by
    rw [active_called] at alive
    have still (before : ∃ event ∈ (world.subscriptions handle).log, event.isWithdrawn = true) :
        ∃ other, (world.called thread visit rest returns below callback).Withdrawing other handle := by
      obtain ⟨other, before⟩ := withdrawn.pending handle before alive
      rcases withdrawing_replaced top before with still | withdraws
      · exact ⟨other, still⟩
      · cases withdraws
    by_cases same : handle = visit.handle
    · subst same
      obtain ⟨event, listed, told⟩ := told
      rw [log_called_self] at listed
      rcases List.mem_append.mp listed with before | last
      · exact still ⟨event, before, told⟩
      · obtain rfl := List.mem_singleton.mp last
        have closes := (withdrawn.frames thread _ (mem_top top) visit List.mem_cons_self).1 told
        refine ⟨thread, ⟨visit :: rest, true, returns⟩, ?_, ?_⟩
        · rw [World.called, frames_setFrames_self]
          exact List.mem_cons_self
        · exact (Bool.and_eq_true _ _).mpr ⟨closes, beq_self_eq_true _⟩
    · rw [subscriptions_called_ne same] at told
      exact still told
  last handle := by
    by_cases same : handle = visit.handle
    · subst same
      rw [log_called_self]
      exact (withdrawn.last visit.handle).append fun earlier listed told =>
        withdrawn.no_state top active sound free ⟨earlier, listed, told⟩
    · rw [subscriptions_called_ne same]
      exact withdrawn.last handle

end Call

end Visiting

section Subscribe
variable {endpoint : Handle}

/-- A new subscription takes the next handle of a running transport. -/
theorem subscribe_cases (world : World) (endpoint : Handle) (callback : Callback) :
    world.subscribe endpoint callback = world ∨ ∃ transport : Transport, world.transport.running = true ∧
      world.subscribe endpoint callback = world.subscribed world.transport.nextHandle callback transport ∧
      transport.startedOnce = world.transport.startedOnce ∧
      transport.nextHandle = world.transport.nextHandle + 1 ∧ transport.subscriptions =
        world.transport.subscriptions ++ [(world.transport.nextHandle, endpoint)] := by
  unfold World.subscribe
  rcases world.transport.subscribe_cases endpoint with ⟨status, failed⟩ | ⟨found, runs, _, subscribed⟩
  · rw [failed]
    exact .inl rfl
  · rw [subscribed]
    exact .inr ⟨_, runs, rfl, rfl, rfl, rfl⟩

variable {transport : Transport}

theorem subscribed_self :
    (world.subscribed world.transport.nextHandle callback transport).subscriptions world.transport.nextHandle =
      { callback := callback } := Function.update_self _ _ _

theorem subscribed_ne (different : handle ≠ world.transport.nextHandle) :
    (world.subscribed world.transport.nextHandle callback transport).subscriptions handle =
      world.subscriptions handle := Function.update_of_ne different _ _

/-- A property of the logs that the empty log has. -/
theorem log_subscribed {property : List Event → Prop} (empty : property [])
    (logs : ∀ handle, property (world.subscriptions handle).log) (handle : Handle) :
    property ((world.subscribed world.transport.nextHandle callback transport).subscriptions handle).log := by
  by_cases same : handle = world.transport.nextHandle
  · rw [same, subscribed_self]
    exact empty
  · rw [subscribed_ne same]
    exact logs handle

theorem Sound.subscribed (sound : Sound world) (runs : world.transport.running = true)
    (startedOnce : transport.startedOnce = world.transport.startedOnce)
    (nextHandle : transport.nextHandle = world.transport.nextHandle + 1) (subscriptions : transport.subscriptions =
      world.transport.subscriptions ++ [(world.transport.nextHandle, endpoint)]) :
    Sound (world.subscribed world.transport.nextHandle callback transport) where
  ordered := by
    change transport.subscriptions.Ordered transport.nextHandle
    rw [nextHandle, subscriptions]
    exact sound.ordered.add
  once _ := startedOnce.trans (sound.once runs)
  idle fresh := by
    change transport.startedOnce = false at fresh
    rw [startedOnce, sound.once runs] at fresh
    cases fresh
  active handle alive := by
    change handle < transport.nextHandle
    rw [nextHandle]
    by_cases same : handle = world.transport.nextHandle
    · exact same ▸ Nat.lt_succ_self _
    · rw [subscribed_ne same] at alive
      exact Nat.lt_succ_of_lt (sound.active handle alive)
  tasks visit listed := by
    change visit.handle < transport.nextHandle
    rw [nextHandle]
    exact Nat.lt_succ_of_lt (sound.tasks visit listed)
  frames thread frame listed := by
    have before := sound.frames thread frame listed
    refine ⟨fun visit inside => ?_, fun handle holds => ?_, fun handle returned => ?_, fun handle returned alive => ?_⟩
    · change visit.handle < transport.nextHandle
      rw [nextHandle]
      exact Nat.lt_succ_of_lt (before.below visit inside)
    · obtain ⟨visit, inside, rfl⟩ := exists_of_holds holds
      rw [subscribed_ne (Nat.ne_of_lt (before.below visit inside))]
      exact before.owned visit.handle holds
    · change handle < transport.nextHandle
      rw [nextHandle]
      exact Nat.lt_succ_of_lt (before.returns handle returned)
    · rw [subscribed_ne (Nat.ne_of_lt (before.returns handle returned))] at alive
      exact before.closing handle returned alive
  ended handle listed := by
    by_cases same : handle = world.transport.nextHandle
    · rw [same, subscribed_self] at listed
      cases listed
    · rw [subscribed_ne same] at listed ⊢
      exact sound.ended handle listed
  silent := log_subscribed List.Pairwise.nil sound.silent

theorem Stopped.subscribed (stopped : Stopped world) (runs : world.transport.running = true) :
    Stopped (world.subscribed world.transport.nextHandle callback transport) where
  frames thread frame listed returned := by
    have idle := (stopped.frames thread frame listed returned).1
    rw [runs] at idle
    cases idle
  ended handle listed := by
    by_cases same : handle = world.transport.nextHandle
    · rw [same, subscribed_self] at listed
      cases listed
    · rw [subscribed_ne same] at listed ⊢
      exact stopped.ended handle listed
  silent := log_subscribed List.Pairwise.nil stopped.silent

theorem Withdrawn.subscribed (withdrawn : Withdrawn world) (sound : Sound world)
    (runs : world.transport.running = true) (subscriptions : transport.subscriptions =
      world.transport.subscriptions ++ [(world.transport.nextHandle, endpoint)]) :
    Withdrawn (world.subscribed world.transport.nextHandle callback transport) where
  states handle := by
    by_cases same : handle = world.transport.nextHandle
    · rw [same, subscribed_self]
      exact nofun
    · rw [subscribed_ne same]
      exact withdrawn.states handle
  tasks := withdrawn.tasks
  frames thread frame listed visit inside := by
    obtain ⟨honest, gone⟩ := withdrawn.frames thread frame listed visit inside
    refine ⟨honest, fun closes => .inr ?_⟩
    change transport.subscriptions.lookup visit.handle = none
    rcases gone closes with ⟨idle, _⟩ | missing
    · rw [runs] at idle
      cases idle
    · have old := Nat.ne_of_lt ((sound.frames thread frame listed).below visit inside)
      rwa [subscriptions, HandleTable.lookup_push old]
  stacked := withdrawn.stacked
  pending handle told alive := by
    by_cases same : handle = world.transport.nextHandle
    · obtain ⟨event, listed, _⟩ := told
      rw [same, subscribed_self] at listed
      cases listed
    · rw [subscribed_ne same] at told alive
      exact withdrawn.pending handle told alive
  last := log_subscribed withdrawnLast_nil withdrawn.last

end Subscribe

end Events

end OpenVehicle.Com.Vsomeip
