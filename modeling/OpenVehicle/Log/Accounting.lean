/-
This file proves the contract of the log over all runs: the records are delivered and the submissions are counted.
-/

import OpenVehicle.Log.Storage
import OpenVehicle.Concurrency.Protocol
import OpenVehicle.Concurrency.Tally

namespace OpenVehicle.Log

open Concurrency

/-- A thread is at work, it waits for space, it has a result, or it stops after the worker. -/
inductive Stage where
  | working
  | waiting (record : Record)
  | decided (result : WriteResult)
  | joined
  deriving DecidableEq

/-- A plain operation decides nothing. -/
def Op.isPlain : Op → Bool
  | .countFiltered | .countInvalid | .offer _ | .await _ | .join | .sinkStop => false
  | _ => true

/-- The stages of a thread change with the replies to its operations. -/
inductive Moves : Stage → (op : Op) → op.Reply → Stage → Prop
  | plain {op} (reply) (other : op.isPlain = true) : Moves .working op reply .working
  | filter : Moves .working .countFiltered () (.decided .filtered)
  | refuse : Moves .working .countInvalid () (.decided .invalid)
  | wait (record) : Moves .working (.offer record) none (.waiting record)
  | offer (record result) : Moves .working (.offer record) (some result) (.decided result)
  | await (record result) : Moves (.waiting record) (.await record) result (.decided result)
  | join : Moves .working .join () .joined
  | sinkFlush (flushed) : Moves .joined .sinkFlush flushed .joined
  | sinkStop : Moves .joined .sinkStop () .joined

/-- A submission without a counted result is one that the stopped runtime refuses. -/
def Ends : Stage → Finished → Prop
  | .decided result, .submitted other => result = other
  | .working, .submitted result => result = .shuttingDown
  | .working, .other | .joined, .other => True
  | _, _ => False

/-- The stage in which a submission returns. -/
def Returns (stage : Stage) (result : WriteResult) : Prop :=
  stage = .decided result ∨ stage = .working ∧ result = .shuttingDown

variable {world later : World} {program : Run Finished}

theorem moves_build (logger : List Byte) (kind : RecordKind) (eventId : UInt32) (text : List Byte) (level : Level)
    (fields : List Field) : Program.Follows Moves (fun later _ => later = .working) .working
      (build logger kind eventId text level fields) := by
  unfold build
  split
  · exact rfl
  · split
    · exact fun sequence => ⟨_, .plain _ rfl, fun times => ⟨_, .plain _ rfl, rfl⟩⟩
    · exact rfl

theorem moves_countInvalid : Program.Follows Moves Returns .working countInvalid := fun _ => ⟨_, .refuse, .inl rfl⟩

theorem moves_submit (logger : List Byte) (kind : RecordKind) (eventId : UInt32) (text : List Byte) (level : Level)
    (fields : List Field) : Program.Follows Moves Returns .working (submit logger kind eventId text level fields) := by
  intro running
  refine ⟨_, .plain _ rfl, ?_⟩
  cases running with
  | false => exact .inr ⟨rfl, rfl⟩
  | true =>
      intro enabled
      refine ⟨_, .plain _ rfl, ?_⟩
      cases enabled with
      | false => exact fun _ => ⟨_, .filter, .inl rfl⟩
      | true =>
          apply Program.Follows.bind (moves_build logger kind eventId text level fields)
          intro later built same
          subst same
          cases built with
          | none => exact moves_countInvalid
          | some record =>
              intro offered
              cases offered with
              | some result => exact ⟨_, .offer record result, .inl rfl⟩
              | none => exact ⟨_, .wait record, fun result => ⟨_, .await record result, .inl rfl⟩⟩

theorem moves_submitEvent (logger : List Byte) (event : Event) (fields : List Field) :
    Program.Follows Moves Returns .working (submitEvent logger event fields) := by
  unfold submitEvent
  split
  · exact moves_countInvalid
  · exact moves_submit logger .event event.id event.name event.level fields

theorem moves_submitDiagnostic (logger : List Byte) (level : Level) (message : List Byte) (fields : List Field) :
    Program.Follows Moves Returns .working (submitDiagnostic logger level message fields) := by
  unfold submitDiagnostic
  split
  · exact moves_countInvalid
  · exact moves_submit logger .diagnostic 0 message level fields

theorem ends_submitted {program : Run WriteResult} (moves : Program.Follows Moves Returns .working program) :
    Program.Follows Moves Ends .working (do return .submitted (← program)) := by
  apply Program.Follows.bind moves
  intro later result returned
  rcases returned with rfl | ⟨rfl, rfl⟩ <;> exact rfl

theorem ends_flush : Program.Follows Moves Ends .working (do let _ ← flush; return .other) := by
  intro empty
  refine ⟨_, .plain _ rfl, ?_⟩
  cases empty with
  | false => exact trivial
  | true => exact fun _ => ⟨_, .plain _ rfl, trivial⟩

theorem ends_stop : Program.Follows Moves Ends .working (do let _ ← stop; return .other) := by
  intro first
  refine ⟨_, .plain _ rfl, ?_⟩
  cases first with
  | false => exact trivial
  | true => exact fun _ => ⟨_, .join, fun flushed => ⟨_, .sinkFlush flushed, fun _ => ⟨_, .sinkStop, trivial⟩⟩⟩

/-- Every thread starts at work, and only a new level changes the state at once. -/
theorem ends_event {call : Call} (occurred : world.occur call = some (later, some program)) :
    Program.Follows Moves Ends .working program ∧ later = world := by
  cases call with
  | submit logger kind eventId text level fields =>
      cases occurred
      exact ⟨ends_submitted (moves_submit logger kind eventId text level fields), rfl⟩
  | submitEvent logger event fields =>
      cases occurred
      exact ⟨ends_submitted (moves_submitEvent logger event fields), rfl⟩
  | submitDiagnostic logger level message fields =>
      cases occurred
      exact ⟨ends_submitted (moves_submitDiagnostic logger level message fields), rfl⟩
  | flush =>
      cases occurred
      exact ⟨ends_flush, rfl⟩
  | stop =>
      cases occurred
      exact ⟨ends_stop, rfl⟩
  | setLevel level => cases occurred
  | dispatch written =>
      simp only [World.occur, Option.map_eq_some_iff] at occurred
      obtain ⟨_, _, same⟩ := occurred
      cases same

variable {count index : Nat}

section Counts

/-- Each counter is the number of the threads that have its result. -/
structure Counted (world : World) (count : Nat) (stage : Nat → Stage) : Prop where
  counters : ∀ result value, world.health.counter result = some value →
    value = UInt64.ofNat (tally (· == .decided result) count stage)
  history : world.history.length = tally (· == .decided .accepted) count stage
variable {stage : Nat → Stage}

theorem Counted.decide (counted : Counted world count stage) (inside : index < count) {before : Stage}
    {result : WriteResult} (here : stage index = before) (undecided : ∀ other, before ≠ .decided other)
    (decides : Decides result world later) : Counted later count (Function.update stage index (.decided result)) := by
  have moved (other : WriteResult) : tally (· == .decided other) count (Function.update stage index (.decided result)) =
      tally (· == .decided other) count stage + if other = result then 1 else 0 := by
    have parts := tally_move inside here (.decided result) (· == .decided other)
    have zero : share (· == Stage.decided other) before = 0 := by
      simp [share, undecided other]
    have one : share (· == Stage.decided other) (.decided result) = if other = result then 1 else 0 := by
      by_cases same : other = result
      · simp [share, same]
      · simp [share, same, Ne.symm same]
    omega
  refine ⟨fun other value found => ?_, ?_⟩
  · obtain ⟨before, known, rfl⟩ := decides.counters other value found
    rw [moved, counted.counters other before known, UInt64.ofNat_add]
    split <;> rfl
  · rw [moved, decides.history, counted.history]
    simp only [eq_comm]

/-- A step between two stages without a result counts nothing. -/
theorem Counted.move (counted : Counted world count stage) (inside : index < count) {before after : Stage}
    (here : stage index = before) (undecided : ∀ other, before ≠ .decided other)
    (still : ∀ other, after ≠ .decided other)
    (health : later.health.counter = world.health.counter) (history : later.history = world.history) :
    Counted later count (Function.update stage index after) := by
  have moved (other : WriteResult) : tally (· == .decided other) count (Function.update stage index after) =
      tally (· == .decided other) count stage := by
    have parts := tally_move inside here after (· == .decided other)
    have zero : share (· == Stage.decided other) before = 0 := by simp [share, undecided other]
    have none : share (· == Stage.decided other) after = 0 := by simp [share, still other]
    omega
  refine ⟨fun other value found => ?_, ?_⟩
  · rw [moved]
    exact counted.counters other value (health ▸ found)
  · rw [moved, history]
    exact counted.history
end Counts

variable {pool : LogPool}

section Runs

def Common (world : World) (count : Nat) (stage : Nat → Stage) : Prop := Stored world ∧ Counted world count stage

/-- Only a critical record waits, and the sink is stopped after the worker. -/
def Own (_ : Nat) : Stage → World → Prop
  | .waiting record, _ => isCritical record.level = true
  | .joined, world => world.worker = .finished
  | _, _ => True

/-- The worker does not start again. -/
theorem own_of_worker {index : Nat} {stage : Stage} (own : Own index stage world)
    (finished : world.worker = .finished → later.worker = .finished) : Own index stage later := by
  cases stage with
  | joined => exact finished own
  | _ => exact own

variable {stage : Nat → Stage} {op : Op} {input : Input}
variable {reply : op.Reply} {after : Stage}

/-- An operation that decides nothing leaves the records and the counters alone. -/
theorem plain_kept (plain : op.isPlain = true) (performed : world.perform op input = some (reply, later))
    (stored : Stored world) : Stored later ∧ later.health.counter = world.health.counter ∧
      later.history = world.history := by
  cases op with
  | countFiltered | countInvalid | offer | await | join | sinkStop => cases plain
  | isRunning | enabled | now | sinkFlush =>
      cases performed
      exact ⟨stored, rfl, rfl⟩
  | nextSequence =>
      cases performed
      exact ⟨stored.keeps rfl rfl rfl rfl rfl id stored.stopped, rfl, rfl⟩
  | exchange =>
      cases performed
      exact ⟨stored.keeps rfl rfl rfl rfl rfl nofun stored.stopped, rfl, rfl⟩
  | awaitEmpty =>
      simp only [World.perform] at performed
      split at performed
      · cases performed
        exact ⟨stored, rfl, rfl⟩
      · split at performed
        · cases performed
          exact ⟨stored, rfl, rfl⟩
        · cases performed

theorem enqueue_worker (record : Record) : (world.enqueue record).2.worker = world.worker := by
  unfold World.enqueue
  split <;> rfl

theorem perform_worker (performed : world.perform op input = some (reply, later)) : later.worker = world.worker := by
  cases op with
  | offer record =>
      simp only [World.perform, Option.some.injEq] at performed
      have same : (world.offer record).2 = later := congrArg Prod.snd performed
      rw [← same, World.offer]
      split_ifs <;> first | rfl | exact enqueue_worker record
  | await record =>
      simp only [World.perform, World.await] at performed
      split at performed
      · have same : (world.enqueue record).2 = later := congrArg Prod.snd (Option.some.inj performed)
        rw [← same]
        exact enqueue_worker record
      · split at performed <;> cases performed
        rfl
  | awaitEmpty | join =>
      simp only [World.perform] at performed
      split_ifs at performed <;> cases performed <;> rfl
  | _ =>
      cases performed
      rfl

theorem common_step (stored : Stored world) (counted : Counted world count stage) (inside : index < count)
    (own : Own index (stage index) world) (moves : Moves (stage index) op reply after)
    (performed : world.perform op input = some (reply, later)) :
    Common later count (Function.update stage index after) ∧ Own index after later := by
  generalize here : stage index = before at own moves
  cases moves with
  | plain reply plain =>
      obtain ⟨stored, health, history⟩ := plain_kept plain performed stored
      exact ⟨⟨stored, counted.move inside here nofun nofun health history⟩, trivial⟩
  | filter =>
      cases performed
      exact ⟨⟨stored.keeps rfl rfl rfl rfl rfl id stored.stopped, counted.decide inside here nofun decides_filtered⟩,
        trivial⟩
  | refuse =>
      cases performed
      exact ⟨⟨stored.keeps rfl rfl rfl rfl rfl id stored.stopped, counted.decide inside here nofun decides_invalid⟩,
        trivial⟩
  | wait record =>
      obtain ⟨stored, rfl, critical⟩ := stored.offer (Option.some.inj performed)
      exact ⟨⟨stored, counted.move inside here nofun nofun rfl rfl⟩, critical⟩
  | offer record result =>
      obtain ⟨stored, decides⟩ := stored.offer (Option.some.inj performed)
      exact ⟨⟨stored, counted.decide inside here nofun decides⟩, trivial⟩
  | await record result =>
      obtain ⟨stored, decides⟩ := stored.await own performed
      exact ⟨⟨stored, counted.decide inside here nofun decides⟩, trivial⟩
  | join =>
      simp only [World.perform] at performed
      split at performed
      · rename_i finished
        cases performed
        exact ⟨⟨stored, counted.move inside here nofun nofun rfl rfl⟩, finished⟩
      · cases performed
  | sinkFlush flushed =>
      cases performed
      exact ⟨⟨stored, counted.move inside here nofun nofun rfl rfl⟩, own⟩
  | sinkStop =>
      cases performed
      exact ⟨⟨stored.keeps rfl rfl rfl rfl rfl id fun _ => own, counted.move inside here nofun nofun rfl rfl⟩, own⟩

theorem start_stored {config : RuntimeConfig} {sinkStarted : Bool} (begins : start config sinkStarted = some world) :
    Stored world ∧ Counted world 0 stage := by
  unfold start at begins
  split at begins
  · cases begins
  · rename_i valid
    cases begins
    simp only [Bool.or_eq_true, beq_iff_eq, decide_eq_true_eq, not_or, ge_iff_le, not_le] at valid
    have filled : List.replicate config.queueCapacity ({} : Record) ≠ [] := by
      simp [valid.1.1.2]
    have capacity : (⟨List.replicate config.queueCapacity {}, 0, 0, 0⟩ : Data.RingBuffer Record).capacity =
      config.queueCapacity := List.length_replicate
    refine ⟨⟨Data.RingBuffer.sound_empty filled, Nat.lt_of_lt_of_eq valid.1.2 capacity.symm, capacity, ?_, rfl,
      nofun, nofun⟩,
      fun result value found => ?_, rfl⟩
    · exact fun _ member => absurd (List.mem_of_mem_drop member) List.not_mem_nil
    · cases result <;> cases found <;> rfl

variable {config : RuntimeConfig} {sinkStarted : Bool}

theorem common_reached (begins : start config sinkStarted = some world)
    (reached : machine.Reaches (fun _ _ => True) (started world) pool) :
    ∃ stage, Staged (fun _ => Moves) Ends pool.threads stage ∧ Common pool.shared pool.threads.length stage := by
  have invariant : ∃ stage, Staged (fun _ => Moves) Ends pool.threads stage ∧
      Holds Common Own pool.shared pool.threads.length stage := by
    apply Machine.Reaches.invariant (fun _ => .working) _ _ _ _ _ reached
    · exact Staged.nil _
    · exact ⟨start_stored begins, fun _ inside => absurd inside (Nat.not_lt_zero _)⟩
    · intro pool stage index input op next reply shared later staged holds _ found moves performed
      obtain ⟨inside, _⟩ := List.getElem?_eq_some_iff.mp found
      obtain ⟨common, moved⟩ :=
        common_step holds.common.1 holds.common.2 inside (holds.own index inside) moves performed
      refine ⟨common, moved, fun other within _ => own_of_worker (holds.own other within) fun finished => ?_⟩
      rw [perform_worker performed]
      exact finished
    · intro pool stage call shared staged holds _ occurred
      cases call with
      | setLevel level =>
          cases occurred
          exact ⟨⟨holds.common.1.keeps rfl rfl rfl rfl rfl id holds.common.1.stopped, holds.common.2.counters,
            holds.common.2.history⟩, fun other within => own_of_worker (holds.own other within) id⟩
      | dispatch written =>
          obtain ⟨_, stepped, same⟩ := Option.map_eq_some_iff.mp occurred
          cases same
          obtain ⟨health, history, working⟩ := dispatch_kept stepped
          refine ⟨⟨holds.common.1.dispatch stepped, ?_, ?_⟩, fun other within => ?_⟩
          · rw [health]
            exact holds.common.2.counters
          · rw [history]
            exact holds.common.2.history
          · exact own_of_worker (holds.own other within) fun finished => absurd finished working
      | _ => cases occurred
    · intro pool stage call shared program staged holds _ occurred
      obtain ⟨follows, rfl⟩ := ends_event occurred
      refine ⟨.working, follows, ⟨holds.common.1, fun result value found => ?_, ?_⟩, trivial, holds.own⟩
      · rw [tally_concat]
        exact holds.common.2.counters result value found
      · rw [tally_concat]
        exact holds.common.2.history
  obtain ⟨stage, staged, holds⟩ := invariant
  exact ⟨stage, staged, holds.common⟩

end Runs

/-- The number of the submissions that have returned with a result. -/
def returned (result : WriteResult) (pool : LogPool) : Nat :=
  pool.threads.countP fun
    | .done (.submitted other) => other == result
    | _ => false

/-- What the queue of the log promises at every point of a run. -/
structure QueueContract (pool : LogPool) : Prop where
  tail : pool.shared.queue.tail =
    (pool.shared.queue.head + pool.shared.queue.count) % pool.shared.config.queueCapacity
  bounded : pool.shared.queue.count ≤ pool.shared.config.queueCapacity
  reserved : ∀ record ∈ pool.shared.queue.contents.drop
      (pool.shared.config.queueCapacity - pool.shared.config.criticalReserve), isCritical record.level = true
  order : pool.shared.history =
    pool.shared.delivered ++ pool.shared.worker.inDispatch ++ pool.shared.queue.contents
  finished : pool.shared.worker = .finished → pool.shared.delivered = pool.shared.history
  stopped : pool.shared.sinkStopped = true → pool.shared.delivered = pool.shared.history
  delivers : ∃ later, machine.Reaches (fun _ choice => isDispatch choice = true) pool later ∧
    later.shared.history = pool.shared.history ∧ later.shared.delivered = pool.shared.history
  accepted : pool.shared.health.accepted = UInt64.ofNat pool.shared.delivered.length +
    UInt64.ofNat pool.shared.queue.count + UInt64.ofNat pool.shared.worker.inDispatch.length
  history : pool.shared.history.length = returned .accepted pool
  counters : ∀ result value, pool.shared.health.counter result = some value →
    value = UInt64.ofNat (returned result pool)

instance (op : Op) : Nonempty op.Reply := by
  cases op <;> first | exact ⟨()⟩ | exact ⟨true⟩ | exact ⟨(0 : UInt64)⟩ | exact ⟨((0, 0) : Int × Int)⟩ |
    exact ⟨(none : Option WriteResult)⟩ | exact ⟨WriteResult.accepted⟩

/-- A thread with a result has returned it. -/
theorem done_of_decided {result : WriteResult}
    (keeps : Program.Follows Moves Ends (.decided result) program) : program = .done (.submitted result) := by
  cases program with
  | done value =>
      cases value with
      | submitted other =>
          have same : result = other := keeps
          rw [same]
      | other => cases keeps
  | call op next =>
      obtain ⟨reply⟩ := (inferInstance : Nonempty op.Reply)
      obtain ⟨_, moves, _⟩ := keeps.call reply
      cases moves

theorem returned_eq_tally {stage : Nat → Stage}
    (staged : Staged (fun _ => Moves) Ends pool.threads stage) {result : WriteResult}
    (counted : result ≠ .shuttingDown) :
    returned result pool = tally (· == .decided result) pool.threads.length stage := by
  apply countP_eq_tally
  intro index program found
  have keeps := staged index program found
  generalize stage index = here at keeps
  cases here with
  | decided other =>
      rw [done_of_decided keeps]
      change (other == result) = (Stage.decided other == Stage.decided result)
      rw [Bool.eq_iff_iff, beq_iff_eq, beq_iff_eq, Stage.decided.injEq]
  | working =>
      cases program with
      | done value =>
          cases value with
          | submitted other =>
              obtain rfl : other = .shuttingDown := keeps
              exact beq_false_of_ne (Ne.symm counted)
          | other => rfl
      | call op next => rfl
  | waiting record =>
      cases program with
      | done value => cases keeps
      | call op next => rfl
  | joined =>
      cases program with
      | done value =>
          cases value with
          | submitted other => cases keeps
          | other => rfl
      | call op next => rfl

/-- The contract holds at every point of every run of a started log. -/
theorem queue_contract {config : RuntimeConfig} {sinkStarted : Bool} {world : World} {pool : LogPool}
    (begins : start config sinkStarted = some world)
    (reached : machine.Reaches (fun _ _ => True) (started world) pool) : QueueContract pool := by
  obtain ⟨stage, staged, stored, counted⟩ := common_reached begins reached
  have capacity := stored.capacity
  have history := counted.history
  rw [← @returned_eq_tally pool stage staged .accepted (by decide)] at history
  refine {
    tail := capacity ▸ stored.sound.tail
    bounded := capacity ▸ stored.sound.bounded
    reserved := capacity ▸ stored.reserved
    order := stored.order
    finished := stored.delivered_of_finished
    stopped := fun stopped => stored.delivered_of_finished (stored.stopped stopped)
    delivers := delivers pool stored
    accepted := ?_
    history := history
    counters := fun result value found => ?_ }
  · rw [counted.counters .accepted _ rfl, ← counted.history, stored.order, List.length_append, List.length_append,
      stored.sound.length_contents, UInt64.ofNat_add, UInt64.ofNat_add]
    ac_rfl
  · rw [returned_eq_tally staged]
    · exact counted.counters result value found
    · rintro rfl
      cases found

abbrev Schedule := List (LogPool → Concurrency.Choice Input Call)

def calls (call : Call) : Schedule := [fun _ => .event call]

def steps (index count : Nat) : Schedule := List.replicate count fun _ => .thread index {}

def config : RuntimeConfig where
  applicationName := [97]
  queueCapacity := 2
  criticalReserve := 1

def info : Call := .submitDiagnostic [108] .info [109] []

def opened : World where
  config := config
  queue := ⟨List.replicate 2 {}, 0, 0, 0⟩
  running := true

/-- Two records are accepted, the log stops while the worker has one of them, and a third record is refused. -/
def stopping : Schedule :=
  calls info ++ steps 0 5 ++ calls (.dispatch true) ++ calls (.submitDiagnostic [108] .error [110] []) ++ steps 1 5 ++
    calls .stop ++ steps 2 1 ++ calls info ++ steps 3 1

/-- The worker ends the dispatch of both records, and the sink stops after it. -/
def draining : Schedule := (List.replicate 6 (calls (.dispatch true))).flatten ++ steps 2 3

/-- Two records are delivered before the sink stops. -/
theorem queue_contract_drained : ∃ pool, QueueContract pool ∧ pool.shared.sinkStopped = true ∧
    pool.shared.delivered.length = 2 := by
  obtain ⟨pool, reached, holds⟩ := System.Reaches.exists_of_run (fun _ _ => true) (fun _ _ _ => trivial)
    (stopping ++ draining) (fun pool => pool.shared.sinkStopped && pool.shared.delivered.length == 2)
    (by decide +kernel : ((machine.run (fun _ _ => true) (stopping ++ draining) (started opened)).any _) = true)
  simp only [Bool.and_eq_true, beq_iff_eq] at holds
  exact ⟨pool, queue_contract (rfl : start config true = some opened) reached, holds.1, holds.2⟩

def isSubmitted : Run Finished → Bool
  | .done (.submitted _) => true
  | _ => false

/-- The counters together count every submission that has returned. -/
def CountsEvery (pool : LogPool) : Prop :=
  UInt64.ofNat (pool.threads.countP isSubmitted) = pool.shared.health.accepted + pool.shared.health.filtered +
    pool.shared.health.dropped + pool.shared.health.invalid

/-- No counter counts the record that the stopped log refuses. -/
theorem refused_submission_uncounted : ¬∀ pool, machine.Reaches (fun _ _ => True) (started opened) pool →
    QueueContract pool ∧ CountsEvery pool := by
  intro claimed
  obtain ⟨pool, reached, holds⟩ := System.Reaches.exists_of_run (fun _ _ => true) (fun _ _ _ => trivial) stopping
    (fun pool => pool.threads.countP isSubmitted == 3 && pool.shared.health == { accepted := 2 })
    (by decide +kernel : ((machine.run (fun _ _ => true) stopping (started opened)).any _) = true)
  simp only [Bool.and_eq_true, beq_iff_eq] at holds
  have counts := (claimed pool reached).2
  rw [CountsEvery, holds.1, holds.2] at counts
  exact absurd counts (by decide)

end OpenVehicle.Log
