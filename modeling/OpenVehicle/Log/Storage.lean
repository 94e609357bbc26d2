/-
This file proves that the queue of the log keeps every accepted record until the sink has it, in order.
-/

import OpenVehicle.Log.Queue

namespace OpenVehicle.Log

open Concurrency

section Results

/-- The counter of a result. A submission that the stopped runtime refuses has none. -/
def Health.counter (health : Health) : WriteResult → Option UInt64
  | .accepted => some health.accepted
  | .filtered => some health.filtered
  | .dropped => some health.dropped
  | .invalid => some health.invalid
  | .shuttingDown => none

/-- A step with a result adds one to the counter of this result only. -/
structure Decides (result : WriteResult) (world later : World) : Prop where
  counters : ∀ other value, later.health.counter other = some value →
    ∃ before, world.health.counter other = some before ∧ value = before + if other = result then 1 else 0
  history : later.history.length = world.history.length + if result = .accepted then 1 else 0

variable {world : World}

theorem decides_shuttingDown : Decides .shuttingDown world world := by
  refine ⟨fun other value found => ⟨value, found, ?_⟩, rfl⟩
  cases other <;> first | exact (UInt64.add_zero value).symm | cases found

theorem decides_filtered : Decides .filtered world
    { world with health := { world.health with filtered := world.health.filtered + 1 } } := by
  refine ⟨fun other value found => ?_, rfl⟩
  cases other <;> cases found <;> exact ⟨_, rfl, by simp⟩

theorem decides_invalid : Decides .invalid world
    { world with health := { world.health with invalid := world.health.invalid + 1 } } := by
  refine ⟨fun other value found => ?_, rfl⟩
  cases other <;> cases found <;> exact ⟨_, rfl, by simp⟩

theorem decides_drop : Decides world.drop.1 world world.drop.2 := by
  refine ⟨fun other value found => ?_, rfl⟩
  cases other <;> cases found <;> exact ⟨_, rfl, by simp [World.drop]⟩

theorem decides_enqueue (record : Record) : Decides (world.enqueue record).1 world (world.enqueue record).2 := by
  unfold World.enqueue
  split
  · exact decides_shuttingDown
  · refine ⟨fun other value found => ?_, List.length_append⟩
    cases other <;> cases found <;> exact ⟨_, rfl, by simp⟩

end Results

variable {world later : World} {record : Record} {written : Bool}

/-- The records of the queue and of the worker are the accepted ones that the sink was not yet given. -/
structure Stored (world : World) : Prop where
  sound : world.queue.Sound
  reserve : world.config.criticalReserve < world.queue.capacity
  capacity : world.queue.capacity = world.config.queueCapacity
  reserved : ∀ record ∈ world.queue.contents.drop (world.queue.capacity - world.config.criticalReserve),
    isCritical record.level = true
  order : world.history = world.delivered ++ world.worker.inDispatch ++ world.queue.contents
  finished : world.worker = .finished → world.running = false ∧ world.queue.count = 0
  stopped : world.sinkStopped = true → world.worker = .finished

/-- An operation that leaves the queue alone keeps the records. -/
theorem Stored.keeps (stored : Stored world) (config : later.config = world.config)
    (queue : later.queue = world.queue) (history : later.history = world.history)
    (delivered : later.delivered = world.delivered) (worker : later.worker = world.worker)
    (running : later.running = true → world.running = true)
    (stopped : later.sinkStopped = true → world.worker = .finished) : Stored later := by
  refine ⟨queue ▸ stored.sound, ?_, ?_, ?_, ?_, fun finished => ?_, fun stopped' => ?_⟩
  · rw [config, queue]
    exact stored.reserve
  · rw [config, queue]
    exact stored.capacity
  · rw [config, queue]
    exact stored.reserved
  · rw [history, delivered, worker, queue]
    exact stored.order
  · rw [worker] at finished
    obtain ⟨off, empty⟩ := stored.finished finished
    refine ⟨?_, queue ▸ empty⟩
    cases on : later.running with
    | false => rfl
    | true => rw [running on] at off; cases off
  · rw [worker]
    exact stopped stopped'

theorem usable_le (level : Level) : world.usable level ≤ world.queue.capacity := by
  unfold World.usable
  split
  · exact Nat.le_refl _
  · exact Nat.sub_le _ _

/-- An accepted record takes the next slot, and a record that is not critical takes one below the reserve. -/
theorem Stored.push (stored : Stored world) (running : world.running = true)
    (room : world.queue.count < world.usable record.level) : Stored { world with
      queue := world.queue.push record
      health := { world.health with accepted := world.health.accepted + 1 }
      history := world.history ++ [record] } := by
  have inside : world.queue.count < world.queue.capacity := Nat.lt_of_lt_of_le room (usable_le record.level)
  have contents := stored.sound.contents_push record inside
  have capacity := Data.RingBuffer.capacity_push record world.queue
  refine ⟨stored.sound.push record inside, ?_, ?_, ?_, ?_, fun finished => ?_, stored.stopped⟩
  · rw [capacity]
    exact stored.reserve
  · rw [capacity]
    exact stored.capacity
  · intro other member
    change other ∈ List.drop ((world.queue.push record).capacity - world.config.criticalReserve) _ at member
    rw [capacity, contents, List.drop_append] at member
    rcases List.mem_append.mp member with old | new
    · exact stored.reserved other old
    · obtain rfl := List.mem_singleton.mp (List.mem_of_mem_drop new)
      by_contra minor
      rw [World.usable, if_neg minor] at room
      rw [stored.sound.length_contents, List.drop_of_length_le] at new
      · cases new
      · rw [List.length_singleton]
        omega
  · change world.history ++ [record] = world.delivered ++ world.worker.inDispatch ++ _
    rw [contents, stored.order, List.append_assoc _ _ [record]]
  · rw [(stored.finished finished).1] at running
    cases running

/-- A dispatch step moves the oldest record to the sink. -/
theorem Stored.dispatch (stored : Stored world) (stepped : world.dispatch written = some later) : Stored later := by
  unfold World.dispatch at stepped
  have order := stored.order
  split at stepped
  · rename_i waiting
    have idle : world.sinkStopped = true → False := fun stopped => by
      have := stored.stopped stopped
      rw [waiting] at this
      cases this
    rw [waiting] at order
    unfold World.take at stepped
    split at stepped
    · rename_i empty
      split at stepped
      · cases stepped
      · rename_i off
        cases stepped
        exact ⟨stored.sound, stored.reserve, stored.capacity, stored.reserved, order,
          fun _ => ⟨Bool.eq_false_iff.mpr off, empty⟩, fun _ => rfl⟩
    · rename_i filled
      obtain ⟨record, rest, popped, sound, capacity, _, contents⟩ := stored.sound.pop (Nat.pos_of_ne_zero filled)
      rw [popped] at stepped
      cases stepped
      refine ⟨sound, ?_, ?_, ?_, ?_, nofun, fun stopped => (idle stopped).elim⟩
      · rw [capacity]
        exact stored.reserve
      · rw [capacity]
        exact stored.capacity
      · intro other member
        apply stored.reserved other
        rw [contents]
        rw [capacity] at member
        have shorter := List.drop_subset_drop_left rest.contents
          (Nat.sub_le (world.queue.capacity - world.config.criticalReserve) 1)
        cases positive : world.queue.capacity - world.config.criticalReserve with
        | zero => rw [positive] at member; exact List.mem_cons_of_mem _ member
        | succ usable =>
            rw [positive] at member shorter
            rw [List.drop_succ_cons]
            exact shorter member
      · change world.history = world.delivered ++ [record] ++ rest.contents
        rw [order, contents]
        simp [Worker.inDispatch]
  · rename_i record writing
    rw [writing] at order
    cases stepped
    refine ⟨stored.sound, stored.reserve, stored.capacity, stored.reserved, ?_, nofun,
      fun stopped => ?_⟩
    · change world.history = world.delivered ++ [record] ++ [] ++ world.queue.contents
      rw [List.append_nil]
      exact order
    · have := stored.stopped stopped
      rw [writing] at this
      cases this
  · rename_i settled
    rw [settled] at order
    cases stepped
    refine ⟨stored.sound, stored.reserve, stored.capacity, stored.reserved, order, nofun,
      fun stopped => ?_⟩
    have := stored.stopped stopped
    rw [settled] at this
    cases this
  · cases stepped

section Steps

variable (stored : Stored world)
include stored

theorem Stored.drop : Stored world.drop.2 := stored.keeps rfl rfl rfl rfl rfl id stored.stopped

theorem Stored.enqueue (room : world.running = true → world.queue.count < world.usable record.level) :
    Stored (world.enqueue record).2 := by
  unfold World.enqueue
  split
  · exact stored
  · rename_i on
    have running : world.running = true := by simpa using on
    exact stored.push running (room running)

/-- An offer decides at once, or the record is critical and waits. -/
theorem Stored.offer {result : Option WriteResult} (offered : world.offer record = (result, later)) : Stored later ∧
      match result with
      | some result => Decides result world later
      | none => later = world ∧ isCritical record.level = true := by
  unfold World.offer at offered
  split at offered
  · split at offered
    · cases offered
      exact ⟨stored.drop, decides_drop⟩
    · rename_i critical
      split at offered
      · cases offered
        exact ⟨stored, decides_shuttingDown⟩
      · cases offered
        exact ⟨stored, rfl, by simpa using critical⟩
  · rename_i room
    cases offered
    exact ⟨stored.enqueue fun _ => Nat.lt_of_not_le room, decides_enqueue record⟩

theorem Stored.await (critical : isCritical record.level = true) {timedOut : Bool}
    {result : WriteResult} (waited : world.await record timedOut = some (result, later)) :
    Stored later ∧ Decides result world later := by
  unfold World.await at waited
  split at waited
  · rename_i ready
    have room (running : world.running = true) : world.queue.count < world.usable record.level := by
      rw [World.usable, if_pos critical]
      simpa [running] using ready
    have stored := stored.enqueue room
    have decides := @decides_enqueue world record
    rw [Option.some.inj waited] at stored decides
    exact ⟨stored, decides⟩
  · split at waited
    · cases waited
      exact ⟨stored.drop, decides_drop⟩
    · cases waited

end Steps

/-- The steps that the worker needs for the records of the queue and for its own record. -/
def World.remaining (world : World) : Nat :=
  3 * world.queue.count + match world.worker with
    | .writing _ => 2
    | .written => 1
    | _ => 0

theorem dispatch_kept (stepped : world.dispatch written = some later) :
    later.health.counter = world.health.counter ∧ later.history = world.history ∧ world.worker ≠ .finished := by
  unfold World.dispatch at stepped
  split at stepped
  · rename_i waiting
    unfold World.take at stepped
    have running : world.worker ≠ .finished := by rw [waiting]; nofun
    split at stepped
    · split at stepped
      · cases stepped
      · cases stepped
        exact ⟨rfl, rfl, running⟩
    · obtain ⟨_, _, rfl⟩ := Option.map_eq_some_iff.mp stepped
      exact ⟨rfl, rfl, running⟩
  · rename_i writing
    cases stepped
    refine ⟨?_, rfl, by rw [writing]; nofun⟩
    unfold World.write
    cases written <;> rfl
  · rename_i settled
    cases stepped
    exact ⟨rfl, rfl, by rw [settled]; nofun⟩
  · cases stepped

section
variable (stored : Stored world)
include stored

theorem Stored.contents_nil (empty : world.queue.count = 0) : world.queue.contents = [] := by
  apply List.eq_nil_of_length_eq_zero
  rw [stored.sound.length_contents, empty]

theorem Stored.delivered_of_finished (finished : world.worker = .finished) : world.delivered = world.history := by
  rw [stored.order, stored.contents_nil (stored.finished finished).2, finished]
  simp [Worker.inDispatch]

theorem Stored.delivered_of_remaining (none : world.remaining = 0) : world.delivered = world.history := by
  unfold World.remaining at none
  rw [stored.order, stored.contents_nil (by omega)]
  split at none
  · omega
  · omega
  · rename_i idle _
    cases worker : world.worker with
    | writing record => exact absurd worker (idle record)
    | _ => simp [Worker.inDispatch]

/-- The worker can always take its next step while something remains. -/
theorem Stored.advance (more : world.remaining ≠ 0) :
    ∃ later, world.dispatch true = some later ∧ later.remaining < world.remaining := by
  unfold World.dispatch
  cases worker : world.worker with
  | waiting =>
      have filled : world.queue.count ≠ 0 := by
        simp only [World.remaining, worker] at more
        omega
      obtain ⟨record, rest, popped, _, _, fewer, _⟩ := stored.sound.pop (Nat.pos_of_ne_zero filled)
      refine ⟨{ world with queue := rest, worker := .writing record }, ?_, ?_⟩
      · simp only [World.take, if_neg filled, popped, Option.map_some]
      · simp only [World.remaining, worker]
        omega
  | writing record =>
      refine ⟨world.write record true, rfl, ?_⟩
      simp only [World.remaining, World.write, worker]
      omega
  | written =>
      refine ⟨{ world with worker := .waiting }, rfl, ?_⟩
      simp only [World.remaining, worker]
      omega
  | finished =>
      have empty := (stored.finished worker).2
      simp only [World.remaining, worker, empty] at more
      omega

end

/-- A step of the worker. -/
def isDispatch : Concurrency.Choice Input Call → Bool
  | .event (.dispatch _) => true
  | _ => false

/-- The worker alone delivers every record that was accepted. -/
theorem delivers (pool : LogPool) (stored : Stored pool.shared) : ∃ later,
    machine.Reaches (fun _ choice => isDispatch choice = true) pool later ∧
      later.shared.history = pool.shared.history ∧ later.shared.delivered = pool.shared.history := by
  induction measure : pool.shared.remaining using Nat.strong_induction_on generalizing pool with
  | h remaining ih =>
      by_cases none : pool.shared.remaining = 0
      · exact ⟨pool, .refl, rfl, stored.delivered_of_remaining none⟩
      · obtain ⟨world, stepped, fewer⟩ := stored.advance none
        have fired : machine.fire pool (.event (.dispatch true)) = some ⟨world, pool.threads ++ []⟩ := by
          simp only [Machine.fire, machine, World.occur, stepped]
          rfl
        obtain ⟨later, reached, same, all⟩ := ih _ (measure ▸ fewer) ⟨world, pool.threads ++ []⟩
          (stored.dispatch stepped) rfl
        have history := (dispatch_kept stepped).2.1
        exact ⟨later, (Machine.Reaches.step .refl rfl fired).trans reached, same.trans history, all.trans history⟩

end OpenVehicle.Log
