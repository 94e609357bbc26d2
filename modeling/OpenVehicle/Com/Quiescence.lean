/-
This file proves when the close function of a subscription is a quiescence boundary. The proof gives each
thread a stage, and it counts the threads by their stages.
-/

import OpenVehicle.Com.ProviderSubscription
import OpenVehicle.Concurrency.Protocol
import OpenVehicle.Concurrency.Tally

namespace OpenVehicle.Com.ProviderSubscription

open Concurrency
open SubscriptionWorld (loanOf)

/-- A thread that dispatches a notice is inside, and a thread that closes is drained when no thread is inside. -/
inductive Stage where
  | outside
  | arrived (sample : Option Sample)
  | dropping (sample : Option Sample)
  | inside (sample : Option Sample) (owed withdraws : Bool)
  | sampled (sample : Option Sample)
  | replaying (withdraws : Bool)
  | closing (withdraws : Bool)
  | drained (withdraws : Bool)
  | withdrawing
  | returned

namespace Stage

def isInside : Stage → Bool
  | .inside _ _ _ => true
  | _ => false

def isReplaying : Stage → Bool
  | .replaying _ => true
  | _ => false

/-- The thread has not returned from the close function. -/
def isClosing : Stage → Bool
  | .closing _ | .drained _ | .withdrawing => true
  | _ => false

def isReturned : Stage → Bool
  | .returned => true
  | _ => false

/-- The callback that delivers the withdrawn state has not ended. -/
def isWithdrawing : Stage → Bool
  | .closing withdraws | .drained withdraws => withdraws
  | .withdrawing => true
  | _ => false

/-- The thread is going to deliver the withdrawn state. -/
def withdraws : Stage → Bool
  | .inside _ _ withdraws | .replaying withdraws | .closing withdraws | .drained withdraws => withdraws
  | _ => false

/-- The thread has received this loan. -/
def holds (loan : Handle) : Stage → Bool
  | .arrived sample | .dropping sample | .inside sample _ _ | .sampled sample => (loanOf sample).contains loan
  | _ => false

/-- The thread has not released this loan. -/
def owes (loan : Handle) : Stage → Bool
  | .arrived sample | .dropping sample => (loanOf sample).contains loan
  | .inside sample owed _ => owed && (loanOf sample).contains loan
  | _ => false

end Stage

/-- The closing thread delivers the withdrawn state. -/
def Closing.withdraws (closing : Closing) : Bool := closing.subscription != 0 && closing.stateCallback.isSome

/-- The stages of a thread change with the replies to its operations. -/
inductive Moves : Stage → (op : SubscriptionOp) → op.Reply → Stage → Prop
  | setCallback (callback) : Moves .outside (.setCallback callback) () .outside
  | setStateCallback {callback} {state : Option (SubscriptionState × Status)}
      (silent : callback = none ∨ state = none) :
      Moves .outside (.setStateCallback callback) state .outside
  | replay (callback) (state : SubscriptionState) (reason : Status) :
      Moves .outside (.setStateCallback (some callback)) (some (state, reason)) (.replaying (state == .withdrawn))
  | beginReplay {withdraws callback notice} (same : notice.isWithdrawn = withdraws) :
      Moves (.replaying withdraws) (.beginCallback .setStateCallback callback notice) () (.replaying false)
  | endReplay : Moves (.replaying false) (.endCallback .setStateCallback) () .outside
  | refuse (state reason) : Moves .outside (.enterState state reason) none .outside
  | entered (state reason) (callback : Option Callback) : Moves .outside (.enterState state reason) (some callback)
      (.inside none false (callback.isSome && state == .withdrawn))
  | drop (sample) : Moves (.arrived sample) .enterSample none (.dropping sample)
  | dropNothing {sample} (nothing : loanOf sample = []) : Moves (.arrived sample) .enterSample none (.sampled sample)
  | accept (sample) (callback : Option Callback) :
      Moves (.arrived sample) .enterSample (some callback) (.inside sample true false)
  | beginCallback {sample owed withdraws caller callback notice} (same : notice.isWithdrawn = withdraws) :
      Moves (.inside sample owed withdraws) (.beginCallback caller callback notice) () (.inside sample owed false)
  | endCallback (sample owed caller) :
      Moves (.inside sample owed false) (.endCallback caller) () (.inside sample owed false)
  | release {sample loan} (handed : loanOf sample = [loan]) :
      Moves (.inside sample true false) (.loanRelease loan) () (.inside sample false false)
  | releaseDropped {sample loan} (handed : loanOf sample = [loan]) :
      Moves (.dropping sample) (.loanRelease loan) () (.sampled sample)
  | finish {sample owed} (settled : owed = true → loanOf sample = []) :
      Moves (.inside sample owed false) .finishDispatch () (.sampled sample)
  | wait (closing : Closing) (busy : closing.quiescent = false) :
      Moves .outside .close closing (.closing (Closing.withdraws closing))
  | close (closing : Closing) (quiet : closing.quiescent = true) :
      Moves .outside .close closing (.drained (Closing.withdraws closing))
  | closeAgain (closing : Closing) (quiet : closing.quiescent = true) (silent : Closing.withdraws closing = false) :
      Moves .outside .close closing .returned
  | drain (withdraws) : Moves (.closing withdraws) .awaitQuiescent () (.drained withdraws)
  | drainAgain : Moves (.closing false) .awaitQuiescent () .returned
  | withdraw {callback notice} (same : notice.isWithdrawn = true) :
      Moves (.drained true) (.beginCallback .close callback notice) () .withdrawing
  | endWithdraw : Moves .withdrawing (.endCallback .close) () (.drained false)
  | unsubscribe (handle) : Moves (.drained false) (.unsubscribe handle) () (.drained false)
  | unsubscribeLast (handle) : Moves (.drained false) (.unsubscribe handle) () .returned
  | endpointDestroy (handle) : Moves (.drained false) (.endpointDestroy handle) () .returned

/-- A thread ends in the stage of its function. -/
def Ends : Stage → Finished → Prop
  | .returned, .close => True
  | .sampled sample, .onSample other => sample = other
  | .sampled sample, .other => loanOf sample = []
  | .outside, .other => True
  | _, _ => False

section Programs

abbrev Keeps (stage : Stage) (program : SubscriptionProgram Finished) : Prop := Program.Follows Moves Ends stage program

theorem keeps_setCallback (callback : Option Callback) : Keeps .outside (setCallback callback) :=
  fun _ => ⟨.outside, .setCallback callback, trivial⟩

theorem keeps_setStateCallback (callback : Option Callback) : Keeps .outside (setStateCallback callback) := by
  intro state
  cases state with
  | none => exact ⟨.outside, .setStateCallback (.inr rfl), trivial⟩
  | some known =>
      obtain ⟨state, reason⟩ := known
      cases callback with
      | none => exact ⟨.outside, .setStateCallback (.inl rfl), trivial⟩
      | some callback =>
          refine ⟨_, .replay callback state reason, fun _ => ⟨_, .beginReplay ?_, fun _ => ⟨_, .endReplay, trivial⟩⟩⟩
          cases state <;> rfl

theorem keeps_onState (state : SubscriptionState) (reason : Status) : Keeps .outside (onState state reason) := by
  intro callback
  cases callback with
  | none => exact ⟨.outside, .refuse state reason, trivial⟩
  | some callback =>
      refine ⟨_, .entered state reason callback, ?_⟩
      cases callback with
      | none => exact fun _ => ⟨_, .finish (fun owed => nomatch owed), rfl⟩
      | some callback =>
          refine fun _ => ⟨_, .beginCallback ?_, fun _ => ⟨_, .endCallback none false .onState, fun _ =>
            ⟨_, .finish (fun owed => nomatch owed), rfl⟩⟩⟩
          cases state <;> rfl

/-- A thread releases its loan and ends its dispatch. -/
theorem keeps_release (sample : Option Sample) : Keeps (.inside sample true false) (do
    release sample
    ask .finishDispatch
    return .onSample sample) := by
  cases sample with
  | none => exact fun _ => ⟨_, .finish (fun _ => rfl), rfl⟩
  | some sample =>
      by_cases invalid : sample.providerLoan = 0
      · have none : loanOf (some sample) = [] := if_pos invalid
        simp only [release, if_pos invalid]
        exact fun _ => ⟨_, .finish (fun _ => none), rfl⟩
      · have one : loanOf (some sample) = [sample.providerLoan] := if_neg invalid
        simp only [release, if_neg invalid]
        exact fun _ => ⟨_, .release one, fun _ => ⟨_, .finish (fun owed => nomatch owed), rfl⟩⟩

theorem keeps_onSample (sample : Option Sample) : Keeps (.arrived sample) (onSample sample) := by
  intro callback
  cases callback with
  | none =>
      cases sample with
      | none => exact ⟨_, .dropNothing rfl, rfl⟩
      | some sample =>
          by_cases invalid : sample.providerLoan = 0
          · refine ⟨_, .dropNothing (if_pos invalid), ?_⟩
            simp only [release, if_pos invalid]
            exact rfl
          · refine ⟨_, .drop (some sample), ?_⟩
            simp only [release, if_neg invalid]
            exact fun _ => ⟨_, .releaseDropped (if_neg invalid), rfl⟩
  | some callback =>
      refine ⟨_, .accept sample callback, ?_⟩
      cases sample with
      | none => exact keeps_release none
      | some sample =>
          cases callback with
          | none => exact keeps_release (some sample)
          | some callback =>
              exact fun _ => ⟨_, .beginCallback rfl, fun _ => ⟨_, .endCallback _ _ _, keeps_release (some sample)⟩⟩

/-- What a closing thread does when no callback is in flight. -/
def finishClose (closing : Closing) : SubscriptionProgram Finished := do
  call .close (if closing.subscription = 0 then none else closing.stateCallback) (.state .withdrawn none)
  unsubscribe closing.subscription
  endpointDestroy closing.endpoint
  return .close

theorem keeps_endpointDestroy {endpoint : Handle} (valid : endpoint ≠ 0) :
    Keeps (.drained false) (do endpointDestroy endpoint; return .close) := by
  simp only [endpointDestroy, if_neg valid]
  exact fun _ => ⟨_, .endpointDestroy endpoint, trivial⟩

theorem keeps_unsubscribe {subscription : Handle} (endpoint : Handle) (valid : subscription ≠ 0) :
    Keeps (.drained false) (do unsubscribe subscription; endpointDestroy endpoint; return .close) := by
  simp only [unsubscribe, if_neg valid]
  by_cases last : endpoint = 0
  · simp only [endpointDestroy, if_pos last]
    exact fun _ => ⟨_, .unsubscribeLast subscription, trivial⟩
  · exact fun _ => ⟨_, .unsubscribe subscription, keeps_endpointDestroy last⟩

variable {closing : Closing}

theorem keeps_withdraw (withdraws : Closing.withdraws closing = true) :
    Keeps (.drained true) (finishClose closing) := by
  obtain ⟨valid, called⟩ := Bool.and_eq_true_iff.mp withdraws
  have valid : closing.subscription ≠ 0 := by simpa using valid
  obtain ⟨callback, known⟩ := Option.isSome_iff_exists.mp called
  simp only [finishClose, if_neg valid, known]
  exact fun _ => ⟨_, .withdraw rfl, fun _ => ⟨_, .endWithdraw, keeps_unsubscribe closing.endpoint valid⟩⟩

/-- A closing thread that withdraws nothing may have nothing left to do. -/
theorem keeps_silent (silent : Closing.withdraws closing = false) :
    Keeps (.drained false) (finishClose closing) ∨ Keeps .returned (finishClose closing) := by
  have none : (if closing.subscription = 0 then none else closing.stateCallback) = none := by
    split
    · rfl
    · rename_i valid
      simpa [Closing.withdraws, valid] using silent
  simp only [finishClose, none, call]
  by_cases valid : closing.subscription = 0
  · by_cases last : closing.endpoint = 0
    · right
      simp only [unsubscribe, if_pos valid, endpointDestroy, if_pos last]
      exact trivial
    · left
      simp only [unsubscribe, if_pos valid]
      exact keeps_endpointDestroy last
  · exact .inl (keeps_unsubscribe closing.endpoint valid)

theorem keeps_close : Keeps .outside close := by
  intro closing
  change ∃ later, Moves .outside .close closing later ∧ Keeps later (do
    if closing.quiescent then pure () else ask .awaitQuiescent
    finishClose closing)
  cases quiet : closing.quiescent with
  | true =>
      cases withdraws : Closing.withdraws closing with
      | true =>
          refine ⟨_, .close closing quiet, ?_⟩
          rw [withdraws]
          exact keeps_withdraw withdraws
      | false =>
          rcases keeps_silent withdraws with keeps | keeps
          · refine ⟨_, .close closing quiet, ?_⟩
            rw [withdraws]
            exact keeps
          · exact ⟨_, .closeAgain closing quiet withdraws, keeps⟩
  | false =>
      refine ⟨_, .wait closing quiet, fun _ => ?_⟩
      cases withdraws : Closing.withdraws closing with
      | true => exact ⟨_, .drain true, keeps_withdraw withdraws⟩
      | false =>
          rcases keeps_silent withdraws with keeps | keeps
          · exact ⟨_, .drain false, keeps⟩
          · exact ⟨_, .drainAgain, keeps⟩

end Programs

/-- A replay of the current state has not ended. -/
def replays : SubscriptionOp → Bool
  | .beginCallback .setStateCallback _ _ | .endCallback .setStateCallback => true
  | _ => false

/-- A close function has not returned. -/
def closes : SubscriptionOp → Bool
  | .awaitQuiescent | .beginCallback .close _ _ | .endCallback .close | .unsubscribe _ | .endpointDestroy _ => true
  | _ => false

def isWithdrawn (object : ProviderSubscription) : Bool := object.state.any (·.1 == .withdrawn)

/-- The current state is replayed only while the subscription is open and not withdrawn. No replay and no other
close function runs when a close function starts. The withdrawn state is the last one that the provider sends, and
then a subscription with a state callback is not closed. -/
def orderly (pool : SubscriptionPool) : SubscriptionChoice → Bool
  | .event _ => true
  | .thread index _ =>
      let object := pool.shared.object
      match pool.pending index with
      | some (.setStateCallback (some _)) => object.state.isNone || !object.closed && !isWithdrawn object
      | some .close =>
          pool.threads.all (fun thread => !thread.pending.any fun op => replays op || closes op) &&
            !(object.subscription != 0 && object.stateCallback.isSome && isWithdrawn object)
      | some (.enterState _ _) => object.closed || !isWithdrawn object
      | _ => true

variable {op : SubscriptionOp} {reply : op.Reply}

section Invariant

/-- What is true of a thread in its stage. -/
def Own (_ : Nat) (stage : Stage) (world : SubscriptionWorld) : Prop :=
  match stage with
  | .replaying withdraws => withdraws = false
  | .closing _ => world.object.closed = true
  | .drained _ | .withdrawing | .returned => world.object.closed = true ∧ world.object.inFlight = 0
  | _ => True

def withdrawals (world : SubscriptionWorld) : Nat := world.delivered.countP Notice.isWithdrawn

/-- The threads are counted by their stages. -/
structure Counted (world : SubscriptionWorld) (count : Nat) (stage : Nat → Stage) : Prop where
  inFlight : world.object.inFlight = tally Stage.isInside count stage
  handed : ∀ loan, world.handed.count loan = tally (Stage.holds loan) count stage
  released : ∀ loan, world.released.count loan + tally (Stage.owes loan) count stage =
    tally (Stage.holds loan) count stage
  fresh : world.object.closed = false →
    tally Stage.isClosing count stage = 0 ∧ tally Stage.isReturned count stage = 0
  gone : world.object.closed = true → world.object.subscription = 0 ∧ tally Stage.isReplaying count stage = 0
  single : tally Stage.isClosing count stage ≤ 1
  apart : 0 < tally Stage.isReturned count stage → tally Stage.isWithdrawing count stage = 0
  withdrawn : withdrawals world + tally Stage.withdraws count stage ≤ 1
  unseen : world.object.closed = false → isWithdrawn world.object = false →
    withdrawals world + tally Stage.withdraws count stage = 0

/-- A step of an operation that does not close the subscription. -/
structure Steady (world next : SubscriptionWorld) (before later : Stage) : Prop where
  inFlight : next.object.inFlight + share Stage.isInside before = world.object.inFlight + share Stage.isInside later
  closed : next.object.closed = world.object.closed
  subscription : next.object.subscription = world.object.subscription
  handed : next.handed = world.handed
  holds : ∀ loan, share (Stage.holds loan) later = share (Stage.holds loan) before
  released : ∀ loan, next.released.count loan + share (Stage.owes loan) later =
    world.released.count loan + share (Stage.owes loan) before
  closing : share Stage.isClosing later + share Stage.isReturned later =
    share Stage.isClosing before + share Stage.isReturned before
  returned : share Stage.isReturned before ≤ share Stage.isReturned later
  admitted : world.object.closed = true → share Stage.isInside later ≤ share Stage.isInside before ∧
    share Stage.isReplaying later ≤ share Stage.isReplaying before
  withdrawing : share Stage.isWithdrawing later ≤ share Stage.isWithdrawing before
  withdrawn : withdrawals next + share Stage.withdraws later = withdrawals world + share Stage.withdraws before ∨
    withdrawals next = withdrawals world ∧ world.object.closed = false ∧ isWithdrawn world.object = false ∧
      isWithdrawn next.object = true
  unseen : world.object.closed = false → isWithdrawn next.object = false → isWithdrawn world.object = false

variable {world next : SubscriptionWorld} {count index : Nat} {stage : Nat → Stage} {before later : Stage}

theorem isWithdrawing_le : tally Stage.isWithdrawing count stage ≤ tally Stage.isClosing count stage := by
  apply tally_mono
  intro stage withdrawing
  cases stage <;> first | rfl | cases withdrawing

/-- A steady step keeps the numbers of threads. -/
theorem Counted.step (counted : Counted world count stage) (inside : index < count) (here : stage index = before)
    (steady : Steady world next before later) : Counted next count (Function.update stage index later) := by
  have moved := tally_move inside here later
  have least (property : Stage → Bool) : share property before ≤ tally property count stage := by
    rw [← here]
    exact share_le_tally inside
  have most (property : Stage → Bool) (stage : Stage) : share property stage ≤ 1 := by
    rw [share]
    split <;> omega
  constructor
  · have := moved Stage.isInside
    have := steady.inFlight
    have := counted.inFlight
    omega
  · intro loan
    have := moved (Stage.holds loan)
    have := steady.holds loan
    have := counted.handed loan
    rw [steady.handed]
    omega
  · intro loan
    have := moved (Stage.holds loan)
    have := moved (Stage.owes loan)
    have := steady.holds loan
    have := steady.released loan
    have := counted.released loan
    omega
  · intro open_
    obtain ⟨none, nothing⟩ := counted.fresh (steady.closed ▸ open_)
    have := moved Stage.isClosing
    have := moved Stage.isReturned
    have := least Stage.isClosing
    have := least Stage.isReturned
    have := steady.closing
    omega
  · intro closed
    have closed : world.object.closed = true := steady.closed ▸ closed
    obtain ⟨zero, none⟩ := counted.gone closed
    refine ⟨steady.subscription.trans zero, ?_⟩
    have := moved Stage.isReplaying
    have := (steady.admitted closed).2
    omega
  · have := moved Stage.isClosing
    have := steady.closing
    have := steady.returned
    have := counted.single
    omega
  · intro positive
    have returning := moved Stage.isReturned
    by_cases old : 0 < tally Stage.isReturned count stage
    · have := counted.apart old
      have := moved Stage.isWithdrawing
      have := steady.withdrawing
      omega
    · have := moved Stage.isClosing
      have := steady.closing
      have := counted.single
      have := most Stage.isReturned later
      have := @isWithdrawing_le count (Function.update stage index later)
      omega
  · have moved := moved Stage.withdraws
    have := counted.withdrawn
    rcases steady.withdrawn with same | ⟨same, open_, fresh, _⟩
    · omega
    · have := counted.unseen open_ fresh
      have := most Stage.withdraws later
      omega
  · intro open_ fresh
    have open_ : world.object.closed = false := steady.closed ▸ open_
    have := counted.unseen open_ (steady.unseen open_ fresh)
    have := moved Stage.withdraws
    rcases steady.withdrawn with same | ⟨_, _, _, seen⟩
    · omega
    · rw [fresh] at seen
      cases seen

/-- A steady step keeps what is true of the other threads. -/
theorem Own.step (steady : Steady world next before later) {other : Nat} {still : Stage} (own : Own other still world) :
    Own other still next := by
  have empty : world.object.closed = true ∧ world.object.inFlight = 0 →
      next.object.closed = true ∧ next.object.inFlight = 0 := by
    rintro ⟨closed, zero⟩
    have := (steady.admitted closed).1
    have := steady.inFlight
    exact ⟨steady.closed.trans closed, by omega⟩
  cases still with
  | closing => exact steady.closed.trans own
  | drained | withdrawing | returned => exact empty own
  | _ => exact own

attribute [local simp] share Stage.isInside Stage.isReplaying Stage.isClosing Stage.isReturned Stage.isWithdrawing
  Stage.withdraws Stage.holds Stage.owes withdrawals

/-- The condition on the locked sections that take up a state. -/
def Admits (object : ProviderSubscription) : SubscriptionOp → Prop
  | .setStateCallback (some _) => object.state = none ∨ object.closed = false ∧ isWithdrawn object = false
  | .enterState _ _ => object.closed = true ∨ isWithdrawn object = false
  | .close => False
  | _ => True

theorem count_released (loan other : Handle) : List.count other [loan] = if other = loan then 1 else 0 := by
  by_cases same : other = loan
  · simp [same]
  · simp [same, Ne.symm same]

/-- Every operation but the close is a steady step. -/
theorem steady_of_moves (moves : Moves before op reply later)
    (performed : world.perform op = some (reply, next)) (admits : Admits world.object op)
    (own : Own index before world) (busy : share Stage.isInside before ≤ world.object.inFlight) :
    Steady world next before later ∧ Own index later next := by
  cases moves with
  | setCallback callback =>
      cases performed
      exact ⟨by constructor <;> simp [isWithdrawn], trivial⟩
  | setStateCallback silent =>
      cases performed
      exact ⟨by constructor <;> simp [isWithdrawn], trivial⟩
  | replay callback state reason =>
      simp only [SubscriptionWorld.perform, Option.some.injEq, Prod.mk.injEq] at performed
      obtain ⟨known, rfl⟩ := performed
      obtain ⟨open_, fresh⟩ : world.object.closed = false ∧ isWithdrawn world.object = false := by
        rcases admits with none | both
        · rw [none] at known
          cases known
        · exact both
      have other : (state == .withdrawn) = false := by
        rw [isWithdrawn, known] at fresh
        exact fresh
      rw [other]
      exact ⟨by constructor <;> simp [isWithdrawn, open_], rfl⟩
  | @beginReplay withdraws _ _ same =>
      cases performed
      refine ⟨?_, rfl⟩
      cases withdraws <;> constructor <;> simp [isWithdrawn, same]
  | endReplay =>
      cases performed
      exact ⟨by constructor <;> simp [isWithdrawn], trivial⟩
  | refuse state reason =>
      simp only [SubscriptionWorld.perform] at performed
      split at performed
      · rename_i closed
        cases performed
        exact ⟨by constructor <;> simp [closed], trivial⟩
      · cases performed
  | entered state reason callback =>
      simp only [SubscriptionWorld.perform] at performed
      split at performed
      · cases performed
      · rename_i open_
        have open_ : world.object.closed = false := by simpa using open_
        have fresh : isWithdrawn world.object = false := admits.resolve_left (by simp [open_])
        cases performed
        refine ⟨?_, trivial⟩
        constructor
        case withdrawn =>
          by_cases last : state = .withdrawn
          · subst last
            exact .inr ⟨rfl, open_, fresh, rfl⟩
          · exact .inl (by simp [last])
        all_goals simp [open_, fresh, loanOf]
  | drop sample =>
      simp only [SubscriptionWorld.perform] at performed
      split at performed
      · cases performed
        exact ⟨by constructor <;> simp, trivial⟩
      · cases performed
  | dropNothing nothing =>
      simp only [SubscriptionWorld.perform] at performed
      split at performed
      · cases performed
        exact ⟨by constructor <;> simp [nothing], trivial⟩
      · cases performed
  | accept sample callback =>
      simp only [SubscriptionWorld.perform] at performed
      split at performed
      · cases performed
      · rename_i open_
        have open_ : world.object.closed = false := by simpa using open_
        cases performed
        exact ⟨by constructor <;> simp [open_, isWithdrawn], trivial⟩
  | @beginCallback _ _ withdraws _ _ _ same =>
      cases performed
      refine ⟨?_, trivial⟩
      cases withdraws <;> constructor <;> simp [isWithdrawn, same]
  | endCallback sample owed caller =>
      cases performed
      exact ⟨by constructor <;> simp [isWithdrawn], trivial⟩
  | release handed | releaseDropped handed =>
      cases performed
      exact ⟨by constructor <;> simp [isWithdrawn, handed, count_released], trivial⟩
  | @finish sample owed settled =>
      cases performed
      have positive : 1 ≤ world.object.inFlight := busy
      refine ⟨?_, trivial⟩
      cases owed with
      | false => constructor <;> simp [isWithdrawn]; omega
      | true => constructor <;> simp [isWithdrawn, settled]; omega
  | wait | close | closeAgain => cases admits
  | drain withdraws =>
      simp only [SubscriptionWorld.perform] at performed
      split at performed
      · rename_i empty
        cases performed
        refine ⟨?_, own, empty⟩
        cases withdraws <;> constructor <;> simp
      · cases performed
  | drainAgain =>
      simp only [SubscriptionWorld.perform] at performed
      split at performed
      · rename_i empty
        cases performed
        exact ⟨by constructor <;> simp, own, empty⟩
      · cases performed
  | withdraw same =>
      cases performed
      exact ⟨by constructor <;> simp [isWithdrawn, same], own⟩
  | endWithdraw | unsubscribe handle | unsubscribeLast handle | endpointDestroy handle =>
      cases performed
      exact ⟨by constructor <;> simp [isWithdrawn], own⟩

/-- The first thread that closes the subscription is the only one that delivers the withdrawn state. -/
theorem Counted.close (counted : Counted world count stage) (inside : index < count) (here : stage index = .outside)
    (idle : tally Stage.isClosing count stage = 0 ∧ tally Stage.isReplaying count stage = 0)
    (calm : (world.object.subscription != 0 && world.object.stateCallback.isSome && isWithdrawn world.object) = false)
    {closing : Closing} (moves : Moves .outside .close closing later)
    (performed : world.perform .close = some (closing, next)) :
    Counted next count (Function.update stage index later) ∧ Own index later next := by
  cases performed
  have moved := tally_move inside here later
  have none := @isWithdrawing_le count stage
  obtain ⟨withdraws, first, shape⟩ : ∃ withdraws : Bool,
      (withdraws = true → world.object.closed = false ∧ isWithdrawn world.object = false) ∧
      (later = .closing withdraws ∨ later = .drained withdraws ∧ world.object.inFlight = 0 ∨
        later = .returned ∧ withdraws = false ∧ world.object.inFlight = 0) := by
    refine ⟨world.object.subscription != 0 && world.object.stateCallback.isSome, fun both => ?_, ?_⟩
    · obtain ⟨valid, _⟩ := Bool.and_eq_true_iff.mp both
      rw [both, Bool.true_and] at calm
      refine ⟨Bool.eq_false_iff.mpr fun closed => ?_, calm⟩
      rw [(counted.gone closed).1] at valid
      cases valid
    · cases moves with
      | wait _ busy => exact .inl rfl
      | close _ quiet => exact .inr (.inl ⟨rfl, of_decide_eq_true quiet⟩)
      | closeAgain _ quiet silent => exact .inr (.inr ⟨rfl, silent, of_decide_eq_true quiet⟩)
  obtain ⟨holds, owes⟩ : (∀ loan, share (Stage.holds loan) later = 0) ∧
      ∀ loan, share (Stage.owes loan) later = 0 := by
    rcases shape with rfl | ⟨rfl, _⟩ | ⟨rfl, _⟩ <;> simp
  obtain ⟨outside, still, single⟩ : share Stage.isInside later = 0 ∧ share Stage.isReplaying later = 0 ∧
      share Stage.isClosing later ≤ 1 := by
    rcases shape with rfl | ⟨rfl, _⟩ | ⟨rfl, _⟩ <;> simp
  obtain ⟨withdrawing, withdrawn⟩ : share Stage.isWithdrawing later = withdraws.toNat ∧
      share Stage.withdraws later = withdraws.toNat := by
    rcases shape with rfl | ⟨rfl, _⟩ | ⟨rfl, silent, _⟩
    · cases withdraws <;> simp
    · cases withdraws <;> simp
    · simp [silent]
  have zero (property : Stage → Bool) (none : property .outside = false) : share property .outside = 0 := by
    rw [share, none]
    rfl
  constructor
  · constructor
    · have := moved Stage.isInside
      have := counted.inFlight
      have := zero Stage.isInside rfl
      change world.object.inFlight = _
      omega
    · intro loan
      have := moved (Stage.holds loan)
      have := zero (Stage.holds loan) rfl
      have := counted.handed loan
      have := holds loan
      change world.handed.count loan = _
      omega
    · intro loan
      have := moved (Stage.holds loan)
      have := moved (Stage.owes loan)
      have := zero (Stage.holds loan) rfl
      have := zero (Stage.owes loan) rfl
      have := counted.released loan
      have := holds loan
      have := owes loan
      change world.released.count loan + _ = _
      omega
    · intro open_
      cases open_
    · intro _
      have := moved Stage.isReplaying
      exact ⟨rfl, by omega⟩
    · have := moved Stage.isClosing
      omega
    · intro positive
      have := moved Stage.isWithdrawing
      have := moved Stage.isReturned
      cases withdraws with
      | false =>
          simp only [Bool.toNat_false] at withdrawing
          omega
      | true =>
          have := (counted.fresh (first rfl).1).2
          have : share Stage.isReturned later = 0 := by
            rcases shape with rfl | ⟨rfl, _⟩ | ⟨_, silent, _⟩
            · simp
            · simp
            · cases silent
          omega
    · have := moved Stage.withdraws
      have := zero Stage.withdraws rfl
      change withdrawals world + _ ≤ 1
      cases withdraws with
      | false =>
          have := counted.withdrawn
          simp only [Bool.toNat_false] at withdrawn
          omega
      | true =>
          have := counted.unseen (first rfl).1 (first rfl).2
          simp only [Bool.toNat_true] at withdrawn
          omega
    · intro open_
      cases open_
  · rcases shape with rfl | ⟨rfl, zero⟩ | ⟨rfl, _, zero⟩
    · exact rfl
    · exact ⟨rfl, zero⟩
    · exact ⟨rfl, zero⟩

theorem count_loanOf (sample : Option Sample) (loan : Handle) :
    (loanOf sample).count loan = if (loanOf sample).contains loan then 1 else 0 := by
  cases sample with
  | none => rfl
  | some sample =>
      by_cases invalid : sample.providerLoan = 0
      · simp [loanOf, invalid]
      · rw [loanOf, if_neg invalid, count_released]
        simp

theorem Counted.concat (counted : Counted world count stage) {first : Stage} {loans : List Handle}
    (idle : share Stage.isInside first = 0 ∧ share Stage.isReplaying first = 0 ∧ share Stage.isClosing first = 0 ∧
      share Stage.isReturned first = 0 ∧ share Stage.isWithdrawing first = 0 ∧ share Stage.withdraws first = 0)
    (held : ∀ loan, share (Stage.holds loan) first = loans.count loan ∧
      share (Stage.owes loan) first = loans.count loan) :
    Counted { world with handed := world.handed ++ loans } (count + 1) (Function.update stage count first) := by
  obtain ⟨inside, replaying, closing, returned, withdrawing, withdraws⟩ := idle
  constructor
  · rw [tally_concat, inside]
    exact counted.inFlight
  · intro loan
    rw [tally_concat, (held loan).1, List.count_append, counted.handed]
  · intro loan
    have := counted.released loan
    rw [tally_concat, tally_concat, (held loan).1, (held loan).2]
    change world.released.count loan + _ = _
    omega
  · rw [tally_concat, tally_concat, closing, returned]
    exact counted.fresh
  · rw [tally_concat, replaying]
    exact counted.gone
  · rw [tally_concat, closing]
    exact counted.single
  · rw [tally_concat, tally_concat, returned, withdrawing]
    exact counted.apart
  · rw [tally_concat, withdraws]
    exact counted.withdrawn
  · rw [tally_concat, withdraws]
    exact counted.unseen

/-- A thread that starts holds the loan of its sample. -/
theorem Counted.start (counted : Counted world count stage) (event : SubscriptionEvent) :
    ∃ first, Keeps first (world.occur event).2 ∧
      Counted (world.occur event).1 (count + 1) (Function.update stage count first) ∧
      Own count first (world.occur event).1 := by
  have plain : Counted world (count + 1) (Function.update stage count .outside) := by
    have := @Counted.concat _ _ _ counted .outside [] (by simp) (by simp)
    rw [List.append_nil] at this
    exact this
  cases event with
  | setCallback callback => exact ⟨_, keeps_setCallback callback, plain, trivial⟩
  | setStateCallback callback => exact ⟨_, keeps_setStateCallback callback, plain, trivial⟩
  | close => exact ⟨_, keeps_close, plain, trivial⟩
  | onState state reason => exact ⟨_, keeps_onState state reason, plain, trivial⟩
  | onSample sample =>
      refine ⟨_, keeps_onSample sample, counted.concat (by simp) fun loan => ?_, trivial⟩
      rw [count_loanOf]
      exact ⟨rfl, rfl⟩

instance (op : SubscriptionOp) : Nonempty op.Reply := by
  cases op <;> first | exact ⟨()⟩ | exact ⟨none⟩ | exact ⟨⟨0, 0, none, true⟩⟩

variable {program : SubscriptionProgram Finished}

theorem replays_of_stage (keeps : Keeps later program)
    (replaying : later.isReplaying = true) : ∃ op, program.pending = some op ∧ replays op = true := by
  cases later with
  | replaying withdraws =>
      cases program with
      | done value => cases value <;> cases keeps
      | call op next =>
          obtain ⟨reply⟩ := (inferInstance : Nonempty op.Reply)
          obtain ⟨_, moves, _⟩ := keeps reply
          cases moves <;> exact ⟨_, rfl, rfl⟩
  | _ => cases replaying

theorem closes_of_stage (keeps : Keeps later program)
    (closing : later.isClosing = true) : ∃ op, program.pending = some op ∧ closes op = true := by
  cases later with
  | closing withdraws | drained withdraws | withdrawing =>
      cases program with
      | done value => cases value <;> cases keeps
      | call op next =>
          obtain ⟨reply⟩ := (inferInstance : Nonempty op.Reply)
          obtain ⟨_, moves, _⟩ := keeps reply
          cases moves <;> exact ⟨_, rfl, rfl⟩
  | _ => cases closing

end Invariant

variable {pool : SubscriptionPool} {index : Nat}

section Reached
variable {stage : Nat → Stage}

abbrev Tracked (pool : SubscriptionPool) (stage : Nat → Stage) : Prop := Staged (fun _ => Moves) Ends pool.threads stage

/-- No thread of a pool has a stage that its pending operations exclude. -/
theorem tally_eq_zero (staged : Tracked pool stage) {property : Stage → Bool} {test : SubscriptionOp → Bool}
    (quiet : pool.threads.all (fun thread => !thread.pending.any test) = true)
    (known : ∀ later program, Keeps later program → property later = true →
      ∃ op, program.pending = some op ∧ test op = true) : tally property pool.threads.length stage = 0 := by
  by_contra positive
  obtain ⟨index, inside, holds⟩ := exists_of_tally_pos (Nat.pos_of_ne_zero positive)
  obtain ⟨op, pending, busy⟩ := known _ _ (staged index _ (List.getElem?_eq_getElem inside)) holds
  have none := List.all_eq_true.mp quiet _ (List.getElem_mem inside)
  rw [pending, Option.any_some, busy] at none
  cases none

variable {input : Unit}

theorem admits_of_orderly (pending : pool.pending index = some op) (other : op ≠ .close)
    (permitted : orderly pool (.thread index input) = true) : Admits pool.shared.object op := by
  simp only [orderly, pending] at permitted
  cases op with
  | setStateCallback callback =>
      cases callback with
      | none => trivial
      | some callback => simpa [Admits] using permitted
  | enterState state reason => simpa [Admits] using permitted
  | close => exact absurd rfl other
  | _ => trivial

/-- A step of a thread keeps the numbers and what is true of every thread. -/
theorem preserves {next : op.Reply → SubscriptionProgram Finished} {world : SubscriptionWorld} {later : Stage}
    (staged : Tracked pool stage) (holds : Holds Counted Own pool.shared pool.threads.length stage)
    (permitted : orderly pool (.thread index input) = true) (found : pool.threads[index]? = some (.call op next))
    (moves : Moves (stage index) op reply later) (performed : pool.shared.perform op = some (reply, world)) :
    Preserves Counted Own world pool.threads.length stage index later := by
  obtain ⟨inside, _⟩ := List.getElem?_eq_some_iff.mp found
  have pending : pool.pending index = some op := by
    rw [Pool.pending, found]
    rfl
  by_cases closing : op = .close
  · subst closing
    have outside : stage index = .outside := by
      generalize stage index = before at moves
      cases moves <;> rfl
    simp only [orderly, pending, Bool.and_eq_true, Bool.not_eq_true'] at permitted
    obtain ⟨quiet, calm⟩ := permitted
    have idle : tally Stage.isClosing pool.threads.length stage = 0 :=
      tally_eq_zero staged quiet fun later program keeps busy => by
        obtain ⟨op, pending, closes⟩ := closes_of_stage keeps busy
        exact ⟨op, pending, by rw [closes, Bool.or_true]⟩
    have still : tally Stage.isReplaying pool.threads.length stage = 0 :=
      tally_eq_zero staged quiet fun later program keeps busy => by
        obtain ⟨op, pending, replays⟩ := replays_of_stage keeps busy
        exact ⟨op, pending, by rw [replays, Bool.true_or]⟩
    obtain ⟨counted, moved⟩ := holds.common.close inside outside ⟨idle, still⟩ (by simpa using calm)
      (outside ▸ moves) performed
    refine ⟨counted, moved, fun other below different => ?_⟩
    have own := holds.own other below
    cases performed
    cases here : stage other with
    | closing => exact rfl
    | drained | withdrawing | returned =>
        rw [here] at own
        exact ⟨rfl, own.2⟩
    | replaying =>
        rw [here] at own
        exact own
    | _ => trivial
  · have busy : share Stage.isInside (stage index) ≤ pool.shared.object.inFlight := by
      rw [holds.common.inFlight]
      exact share_le_tally inside
    obtain ⟨steady, own⟩ := steady_of_moves moves performed (admits_of_orderly pending closing permitted)
      (holds.own index inside) busy
    exact ⟨holds.common.step inside rfl steady, own, fun other below _ => (holds.own other below).step steady⟩

theorem tracked_reached {subscription endpoint : Handle}
    (reached : subscriptionMachine.Reaches (fun pool choice => orderly pool choice = true)
      (subscribed subscription endpoint) pool) :
    ∃ stage, Tracked pool stage ∧ Holds Counted Own pool.shared pool.threads.length stage := by
  apply Machine.Reaches.invariant (fun _ => .outside) _ _ _ _ _ reached
  · exact Staged.nil _
  · refine ⟨?_, fun index inside => absurd inside (Nat.not_lt_zero index)⟩
    constructor <;> simp [subscribed, tally_eq_countP, withdrawals]
  · intro pool stage index input op next reply world later staged holds permitted found moves performed
    exact preserves staged holds permitted found moves performed
  · intro pool stage event world staged holds _ occurred
    cases occurred
  · intro pool stage event world program staged holds _ occurred
    cases occurred
    obtain ⟨first, keeps, counted, own⟩ := holds.common.start event
    refine ⟨first, keeps, counted, own, fun other below => ?_⟩
    have old := holds.own other below
    cases event <;> exact old

/-- The thread has finished with a sample that was handed over as this loan. -/
def isFinishedWith (loan : Handle) : Option (SubscriptionProgram Finished) → Bool
  | some (.done (.onSample sample)) => (loanOf sample).contains loan
  | _ => false

def finishedWith (loan : Handle) (pool : SubscriptionPool) : Nat :=
  (List.range pool.threads.length).countP fun index => isFinishedWith loan pool.threads[index]?

/-- No callback runs when a close function has returned, so none starts later. The withdrawn state is delivered at
most once. A loan is released when its thread has finished, and it is released no more often than it is handed over. -/
structure CloseContract (pool : SubscriptionPool) : Prop where
  boundary : ∀ closer : Nat, pool.threads[closer]? = some (.done .close) →
    ∀ index caller, pool.pending index ≠ some (.endCallback caller)
  withdrawn : pool.shared.delivered.countP Notice.isWithdrawn ≤ 1
  released : ∀ loan, finishedWith loan pool ≤ pool.shared.released.count loan ∧
    pool.shared.released.count loan ≤ pool.shared.handed.count loan

theorem stage_of_closed (staged : Tracked pool stage) {closer : Nat}
    (closed : pool.threads[closer]? = some (.done .close)) : stage closer = .returned := by
  have ends : Ends (stage closer) .close := staged closer _ closed
  cases here : stage closer <;> rw [here] at ends <;> first | rfl | cases ends

theorem stage_of_calling (staged : Tracked pool stage) {caller : Caller}
    (calling : pool.pending index = some (.endCallback caller)) : index < pool.threads.length ∧
      ((stage index).isInside = true ∨ (stage index).isReplaying = true ∨ (stage index).isWithdrawing = true) := by
  obtain ⟨program, found, pending⟩ := Option.bind_eq_some_iff.mp calling
  obtain ⟨inside, _⟩ := List.getElem?_eq_some_iff.mp found
  cases program with
  | done value => cases pending
  | call op next =>
      cases pending
      obtain ⟨_, moves, _⟩ := (staged index _ found).call ()
      refine ⟨inside, ?_⟩
      generalize stage index = before at moves
      cases moves with
      | endReplay => exact .inr (.inl rfl)
      | endCallback => exact .inl rfl
      | endWithdraw => exact .inr (.inr rfl)

/-- A finished thread has released its loan. -/
theorem finishedWith_le (staged : Tracked pool stage) (counted : Counted pool.shared pool.threads.length stage)
    (loan : Handle) : finishedWith loan pool ≤ pool.shared.released.count loan := by
  have least : finishedWith loan pool ≤
      tally (fun stage => stage.holds loan && !stage.owes loan) pool.threads.length stage := by
    rw [tally_eq_countP]
    apply List.countP_mono_left
    intro index _ finished
    unfold isFinishedWith at finished
    split at finished
    · rename_i sample found
      have ends : Ends (stage index) (.onSample sample) := staged index _ found
      cases here : stage index <;> rw [here] at ends <;> cases ends
      simpa [Stage.holds, Stage.owes] using finished
    · cases finished
  have split : tally (fun stage => stage.holds loan && !stage.owes loan) pool.threads.length stage +
      tally (Stage.owes loan) pool.threads.length stage = tally (Stage.holds loan) pool.threads.length stage := by
    apply tally_split
    intro stage owing
    cases stage with
    | inside => exact (Bool.and_eq_true_iff.mp owing).2
    | arrived | dropping => exact owing
    | _ => cases owing
  have := counted.released loan
  omega

/-- In every run whose steps are orderly, the close function keeps its contract. -/
theorem close_contract {subscription endpoint : Handle}
    (reached : subscriptionMachine.Reaches (fun pool choice => orderly pool choice = true)
      (subscribed subscription endpoint) pool) : CloseContract pool := by
  obtain ⟨stage, staged, counted, own⟩ := tracked_reached reached
  refine ⟨fun closer closed index caller calling => ?_, ?_, fun loan => ⟨finishedWith_le staged counted loan, ?_⟩⟩
  · have returned := stage_of_closed staged closed
    obtain ⟨inside, _⟩ := List.getElem?_eq_some_iff.mp closed
    have quiet := own closer inside
    rw [returned] at quiet
    obtain ⟨shut, empty⟩ := quiet
    obtain ⟨within, running⟩ := stage_of_calling staged calling
    rcases running with dispatching | replaying | withdrawing
    · have := tally_pos within dispatching
      have := counted.inFlight
      omega
    · have := tally_pos within replaying
      have := (counted.gone shut).2
      omega
    · have := tally_pos within withdrawing
      have := counted.apart (tally_pos inside (returned ▸ rfl))
      omega
  · have := counted.withdrawn
    exact Nat.le_trans (Nat.le_add_right _ _) this
  · have := counted.released loan
    have := counted.handed loan
    omega

end Reached

/-- The same thread moves several times. -/
def moves (index count : Nat) : List (SubscriptionPool → SubscriptionChoice) :=
  List.replicate count fun _ => .thread index ()

def begins (event : SubscriptionEvent) : List (SubscriptionPool → SubscriptionChoice) := [fun _ => .event event]

def hasClosed (pool : SubscriptionPool) (index : Nat) : Bool :=
  match pool.threads[index]? with
  | some (.done .close) => true
  | _ => false

theorem closed_of_hasClosed (closed : hasClosed pool index = true) : pool.threads[index]? = some (.done .close) := by
  unfold hasClosed at closed
  split at closed
  · assumption
  · cases closed

/-- A sample arrives as a loan, and the subscription is closed while its callback runs. -/
def closing : List (SubscriptionPool → SubscriptionChoice) :=
  begins (.setCallback (some 1)) ++ moves 0 1 ++ begins (.setStateCallback (some 2)) ++ moves 1 1 ++
    begins (.onState .active .ok) ++ moves 2 4 ++ begins (.onSample (some ⟨[5], 9⟩)) ++ moves 3 2 ++
    begins .close ++ moves 4 1 ++ moves 3 3 ++ moves 4 5

/-- The close function waits for the callback of the sample and delivers the withdrawn state once. -/
theorem close_contract_sample : ∃ pool, CloseContract pool ∧ hasClosed pool 4 = true ∧
    pool.shared.delivered = [.state .active none, .sample [5], .state .withdrawn none] ∧
    pool.shared.released = [9] := by
  obtain ⟨pool, reached, holds⟩ := System.Reaches.exists_of_run orderly (fun _ _ permitted => permitted) closing
    (fun pool => hasClosed pool 4 && pool.shared.delivered ==
      [.state .active none, .sample [5], .state .withdrawn none] && pool.shared.released == [9])
    (by decide +kernel : ((subscriptionMachine.run orderly closing (subscribed 3 4)).any _) = true)
  simp only [Bool.and_eq_true, beq_iff_eq] at holds
  exact ⟨pool, close_contract reached, holds.1.1, holds.1.2, holds.2⟩

/-- The callback is set before the subscription is closed, and the state is replayed after it. -/
def replaying : List (SubscriptionPool → SubscriptionChoice) :=
  begins (.onState .active .ok) ++ moves 0 2 ++ begins (.setStateCallback (some 2)) ++ moves 1 1 ++
    begins .close ++ moves 2 5 ++ moves 1 1

/-- A replayed state is delivered after the close function has returned. -/
theorem replay_crosses_close : ¬∀ pool, subscriptionMachine.Reaches (fun _ _ => True) (subscribed 3 4) pool →
    CloseContract pool := by
  intro claimed
  obtain ⟨pool, reached, holds⟩ := System.Reaches.exists_of_run (fun _ _ => true) (fun _ _ _ => trivial) replaying
    (fun pool => hasClosed pool 2 && pool.pending 1 == some (.endCallback .setStateCallback))
    (by decide +kernel : ((subscriptionMachine.run (fun _ _ => true) replaying (subscribed 3 4)).any _) = true)
  obtain ⟨closed, running⟩ := (Bool.and_eq_true _ _).mp holds
  exact (claimed pool reached).boundary 2 (closed_of_hasClosed closed) 1 .setStateCallback (beq_iff_eq.mp running)

end OpenVehicle.Com.ProviderSubscription
