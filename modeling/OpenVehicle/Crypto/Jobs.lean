/-
This file proves the contract of the asynchronous jobs over all runs: each accepted job is completed once, and no
job is left when the provider has stopped.
-/

import OpenVehicle.Concurrency.Protocol
import OpenVehicle.Crypto.Async
import OpenVehicle.Crypto.Handles

namespace OpenVehicle.Crypto.Async

open Concurrency

variable {botan : Botan}

section Running
variable {backend : Backend}

theorem running_storeKey {entry : KeyEntry} {output : Bool} :
    (backend.storeKey entry output).2.running = backend.running := by
  unfold Backend.storeKey
  repeat' split
  all_goals rfl

theorem running_storeStream {entry : StreamEntry} : (backend.storeStream entry).2.running = backend.running := by
  unfold Backend.storeStream
  split <;> rfl

theorem running_openPrimitive {opened : Throws Unit} {operation : StreamOperation} {primitive : StreamPrimitive} :
    (backend.openPrimitive opened operation primitive).2.running = backend.running := by
  unfold Backend.openPrimitive
  split
  · rfl
  · exact running_storeStream

theorem running_openRecords {descriptor : StreamDescriptor} {encrypt : Bool} :
    (backend.openRecords descriptor encrypt).2.running = backend.running := by
  unfold Backend.openRecords
  repeat' split
  all_goals first | rfl | exact running_storeStream

theorem running_validateCertificate {request : Option CertificateRequest} {output : Option Nat} :
    (backend.validateCertificate botan request output).2.running = backend.running := by
  unfold Backend.validateCertificate
  repeat' split
  all_goals rfl

theorem running_importSubjectKey {leaf : List Byte} {descriptor : KeyDescriptor} :
    (backend.importSubjectKey botan leaf descriptor).2.running = backend.running := by
  unfold Backend.importSubjectKey
  repeat' split
  all_goals first | rfl | exact running_storeKey

variable {stream : StreamEntry} {handle : Nat}

theorem running_finishVerifier {signature : List Byte} {output valid : Bool} :
    (backend.finishVerifier botan handle stream signature output valid).2.running = backend.running := by
  unfold Backend.finishVerifier
  repeat' split
  all_goals rfl

theorem running_finishPrimitive {entropy : Entropy} {terminalInput : List Byte}
    {output : Option Buffer} {valid : Bool} :
    (backend.finishPrimitive botan entropy handle stream terminalInput output valid).2.running = backend.running := by
  unfold Backend.finishPrimitive
  repeat' first | rfl | split | dsimp only

/-- No call but a start or a stop changes whether the provider is running. -/
theorem running_call (call : Call) (other : isLifecycle call = false) :
    (backend.call botan call).2.running = backend.running := by
  cases call with
  | start | stop => cases other
  | _ =>
      unfold Backend.call
      simp only [Backend.importKey, Backend.generateKey, Backend.destroyKey, Backend.mac, Backend.aead,
        Backend.sign, Backend.verify, Backend.derive, Backend.publicValue, Backend.agree,
        Backend.validateAndImportCertificatePublicKey, Backend.createStream, Backend.updateStream, Backend.finishStream,
        Backend.destroyStream, Backend.processRecord, Backend.applyRecord]
      repeat' first | rfl | exact running_storeKey | exact running_openPrimitive | exact running_openRecords |
        exact running_validateCertificate | exact running_finishVerifier | exact running_finishPrimitive |
        exact running_importSubjectKey.trans running_validateCertificate | split

end Running

/-- The jobs that the worker has not completed yet. -/
def Worker.held : Worker → List Job
  | .taken job _ | .computing job | .computed job _ => [job]
  | _ => []

@[simp] theorem Worker.held_waiting : Worker.waiting.held = [] := rfl

@[simp] theorem Worker.held_completed (job : Job) : (Worker.completed job).held = [] := rfl

/-- The job of the worker is outstanding until it is removed. -/
def Worker.kept : Worker → List Job
  | .taken job _ | .computing job | .computed job _ | .completed job => [job]
  | _ => []

def World.held (world : World) : List Job := world.worker.elim [] Worker.held

def World.kept (world : World) : List Job := world.worker.elim [] Worker.kept

/-- The calls whose job was admitted, in the order of the completions. -/
def World.record (world : World) : List Nat :=
  world.completions.map (·.identity) ++ (world.held ++ world.queue).map (·.identity)

variable {world later : World} {job : Job} {input : Input}

/-- The outstanding jobs are those of the queue and that of the worker, and their tickets grow. -/
structure Ledger (world : World) : Prop where
  unique : world.record.Nodup
  outstanding : world.outstanding = world.kept ++ world.queue
  bounded : world.outstanding.length ≤ world.maxOutstanding
  ordered : (world.outstanding.map (·.ticket.toNat)).Pairwise (· < ·)
  issued : ∀ job ∈ world.outstanding, job.ticket.toNat ≤ world.issued
  next : world.issued < 2 ^ 64 - 1 → world.nextTicket.toNat = world.issued + 1
  settled : ∀ job, world.worker = some (.completed job) → job.identity ∈ world.completions.map (·.identity)
  drained : world.worker = some .finished → world.queue = [] ∧ world.stopping = true

theorem ticketAfter_toNat {ticket : UInt64} {issued : Nat} (number : ticket.toNat = issued + 1)
    (few : issued + 1 < 2 ^ 64 - 1) : (World.ticketAfter ticket).toNat = issued + 1 + 1 := by
  have one : (1 : UInt64).toNat = 1 := rfl
  have next : (ticket + 1).toNat = issued + 1 + 1 := by
    rw [UInt64.toNat_add, one]
    omega
  have present : ticket + 1 ≠ 0 := by
    intro zero
    rw [zero] at next
    exact absurd next (by simp)
  rw [World.ticketAfter, if_neg present, next]

theorem record_enqueue : World.record { world with
    nextTicket := World.ticketAfter world.nextTicket
    issued := world.issued + 1
    outstanding := world.outstanding ++ [{ job with ticket := world.nextTicket }]
    queue := world.queue ++ [{ job with ticket := world.nextTicket }] } = world.record ++ [job.identity] := by
  simp [World.record, World.held]

/-- An admitted job takes the next ticket and the last place. -/
theorem Ledger.enqueue (ledger : Ledger world) (fresh : job.identity ∉ world.record)
    (accepting : world.stopping = false) (room : world.outstanding.length < world.maxOutstanding)
    (few : world.issued < 2 ^ 64 - 1) : Ledger { world with
      nextTicket := World.ticketAfter world.nextTicket
      issued := world.issued + 1
      outstanding := world.outstanding ++ [{ job with ticket := world.nextTicket }]
      queue := world.queue ++ [{ job with ticket := world.nextTicket }] } where
  unique := by
    rw [record_enqueue]
    exact List.nodup_append.mpr ⟨ledger.unique, by simp, by
      intro identity member other last
      rw [List.mem_singleton.mp last]
      rintro rfl
      exact fresh member⟩
  outstanding := by
    change world.outstanding ++ _ = world.kept ++ (world.queue ++ _)
    rw [ledger.outstanding, List.append_assoc]
  bounded := by
    rw [List.length_append]
    exact room
  ordered := by
    rw [List.map_append]
    refine List.pairwise_append.mpr ⟨ledger.ordered, List.pairwise_singleton _ _, ?_⟩
    intro ticket member last only
    obtain ⟨other, old, rfl⟩ := List.mem_map.mp member
    rw [List.mem_singleton.mp only]
    have numbered := ledger.next few
    have below := ledger.issued other old
    change other.ticket.toNat < world.nextTicket.toNat
    omega
  issued := by
    intro other member
    rcases List.mem_append.mp member with old | new
    · exact Nat.le_succ_of_le (ledger.issued other old)
    · rw [List.mem_singleton.mp new]
      exact Nat.le_of_eq (ledger.next few)
  next := fun more => ticketAfter_toNat (ledger.next few) more
  settled := ledger.settled
  drained := by
    intro finished
    have stopping := (ledger.drained finished).2
    rw [accepting] at stopping
    cases stopping

/-- A step of the worker takes a job from the queue, completes it, or removes it. -/
inductive Works (world later : World) : Prop
  | finish (waiting : world.worker = some .waiting) (empty : world.queue = []) (stopping : world.stopping = true)
      (same : later = { world with worker := some .finished })
  | take (job : Job) (queue : List Job) (worker : Worker) (waiting : world.worker = some .waiting)
      (first : world.queue = job :: queue) (held : worker.held = [job]) (kept : worker.kept = [job])
      (same : later = { world with queue, worker := some worker })
  | compute (job : Job) (before worker : Worker) (current : world.worker = some before) (holding : before.held = [job])
      (keeping : before.kept = [job]) (held : worker.held = [job]) (kept : worker.kept = [job])
      (same : later = { world with worker := some worker })
  | complete (job : Job) (before : Worker) (status : Status) (value : Value) (current : world.worker = some before)
      (holding : before.held = [job]) (keeping : before.kept = [job]) (same : later = world.complete job status value)
  | remove (job : Job) (completed : world.worker = some (.completed job))
      (same : later = { world with
        worker := some .waiting, outstanding := world.outstanding.filter (·.identity ≠ job.identity) })

theorem works_of_work (worked : world.work botan input = some later) : Works world later := by
  unfold World.work at worked
  split at worked
  · cases worked
  · cases worked
  · rename_i waiting
    split at worked
    · rename_i empty
      obtain ⟨stopping, same⟩ := Option.ite_none_right_eq_some.mp worked
      exact .finish waiting empty stopping (Option.some.inj same).symm
    · rename_i job queue first
      exact .take job queue _ waiting first rfl rfl (Option.some.inj worked).symm
  · rename_i job stopping taken
    split at worked
    · exact .complete job _ _ _ taken rfl rfl (Option.some.inj worked).symm
    · split at worked
      · exact .complete job _ _ _ taken rfl rfl (Option.some.inj worked).symm
      · exact .compute job _ (.computing job) taken rfl rfl rfl rfl (Option.some.inj worked).symm
  · rename_i job computing
    obtain ⟨_, same⟩ := Option.ite_none_left_eq_some.mp worked
    exact .compute job _ _ computing rfl rfl rfl rfl (Option.some.inj same).symm
  · rename_i job output computed
    split at worked
    · exact .complete job _ _ _ computed rfl rfl (Option.some.inj worked).symm
    · split at worked
      · exact .complete job _ _ _ computed rfl rfl (Option.some.inj worked).symm
      · exact .complete job _ _ _ computed rfl rfl (Option.some.inj worked).symm
  · rename_i job completed
    exact .remove job completed (Option.some.inj worked).symm

/-- The worker keeps the order of the admitted jobs. -/
theorem record_works (works : Works world later) : later.record = world.record := by
  cases works with
  | finish waiting empty stopping same =>
      subst same
      simp [World.record, World.held, waiting, Worker.held]
  | take job queue worker waiting first held kept same =>
      subst same
      simp [World.record, World.held, waiting, first, held]
  | compute job before worker current holding keeping held kept same =>
      subst same
      simp [World.record, World.held, current, holding, held]
  | complete job before status value current holding keeping same =>
      subst same
      simp [World.record, World.held, World.complete, current, holding]
  | remove job completed same =>
      subst same
      simp [World.record, World.held, completed, Worker.held]

theorem Ledger.works (ledger : Ledger world) (works : Works world later) : Ledger later := by
  have unique : later.record.Nodup := record_works works ▸ ledger.unique
  cases works with
  | finish waiting empty stopping same =>
      subst same
      have outstanding := ledger.outstanding
      rw [World.kept, waiting] at outstanding
      exact { ledger with
        unique := unique, outstanding := outstanding, settled := nofun, drained := fun _ => ⟨empty, stopping⟩ }
  | take job queue worker waiting first held kept same =>
      subst same
      have outstanding := ledger.outstanding
      rw [World.kept, waiting, first] at outstanding
      refine { ledger with unique := unique, outstanding := ?_, settled := ?_, drained := ?_ }
      · simp only [World.kept, Option.elim_some, kept]
        exact outstanding
      · rintro other same
        cases Option.some.inj same
        cases held
      · intro finished
        cases Option.some.inj finished
        cases held
  | compute job before worker current holding keeping held kept same =>
      subst same
      have outstanding := ledger.outstanding
      rw [World.kept, current, Option.elim_some, keeping] at outstanding
      refine { ledger with unique := unique, outstanding := ?_, settled := ?_, drained := ?_ }
      · simp only [World.kept, Option.elim_some, kept]
        exact outstanding
      · rintro other same
        cases Option.some.inj same
        cases held
      · intro finished
        cases Option.some.inj finished
        cases held
  | complete job before status value current holding keeping same =>
      subst same
      have outstanding := ledger.outstanding
      rw [World.kept, current, Option.elim_some, keeping] at outstanding
      refine { ledger with unique := unique, outstanding := outstanding, settled := ?_, drained := nofun }
      rintro other same
      cases same
      simp [World.complete]
  | remove job completed same =>
      subst same
      have outstanding := ledger.outstanding
      rw [World.kept, completed] at outstanding
      have others : world.outstanding.filter (·.identity ≠ job.identity) = world.queue := by
        have settled := ledger.settled job completed
        have apart : ∀ other ∈ world.queue, other.identity ≠ job.identity := by
          intro other member same
          have distinct := (List.nodup_append.mp ledger.unique).2.2
          apply distinct _ settled other.identity _ same.symm
          exact List.mem_map_of_mem (List.mem_append_right _ member)
        rw [outstanding]
        change List.filter _ (job :: world.queue) = _
        rw [List.filter_cons_of_neg (by simp), List.filter_eq_self]
        intro other member
        simpa using apart other member
      have sublist : (world.outstanding.filter (·.identity ≠ job.identity)).Sublist world.outstanding :=
        List.filter_sublist
      exact {
        unique := unique
        outstanding := others
        bounded := Nat.le_trans sublist.length_le ledger.bounded
        ordered := ledger.ordered.sublist (sublist.map _)
        issued := fun other member => ledger.issued other (sublist.subset member)
        next := ledger.next
        settled := nofun
        drained := nofun }

variable {index : Nat}

/-- A thread is at work, it has prepared a job, it starts or stops the worker, or its job was admitted or not. -/
inductive Stage where
  | working
  | prepared
  | starting
  | halted
  | signalled
  | joining
  | admitted (ticket : UInt64)
  | refused
  deriving DecidableEq

def Stage.isAdmitted : Stage → Bool
  | .admitted _ => true
  | _ => false

def Stage.inStop : Stage → Bool
  | .halted | .signalled | .joining => true
  | _ => false

/-- The threads that start or stop the worker exclude each other. -/
def Stage.isBusy (stage : Stage) : Bool := stage == .starting || stage.inStop

inductive Moves (index : Nat) : Stage → (op : Op) → op.Reply → Stage → Prop
  | now (now) : Moves index .working .now now .working
  | allocate (allocated) : Moves index .working .allocate allocated .working
  | cancel (ticket status) : Moves index .working (.cancel ticket) status .working
  | prepare (request primitive) : Moves index .working (.prepare request) (.ok (.ok primitive)) .prepared
  | unprepared (request reply) (other : ∀ primitive, reply ≠ .ok (.ok primitive)) :
      Moves index .working (.prepare request) reply .refused
  | enqueue (job ticket) (own : job.identity = index) : Moves index .prepared (.enqueue job) (.ok (.ok ticket))
      (.admitted ticket)
  | refuse (job reply) (other : ∀ ticket, reply ≠ .ok (.ok ticket)) :
      Moves index .prepared (.enqueue job) reply .refused
  | fail (stage exception) (plain : stage = .working ∨ stage = .refused) :
      Moves index stage (.fail exception) () .refused
  | begin : Moves index .working .begin none .starting
  | restart (status) : Moves index .working .begin (some status) .working
  | spawn (status) : Moves index .starting .spawn status .working
  | halt : Moves index .working .halt () .halted
  | signal : Moves index .halted .signal () .signalled
  | joinable : Moves index .signalled .joinable true .joining
  | absent : Moves index .signalled .joinable false .working
  | join : Moves index .joining .join () .working

/-- Only a thread whose job was admitted returns a ticket. -/
def Ends : Stage → Finished → Prop
  | .admitted ticket, .submitted result => result = .ok ticket
  | .refused, .submitted result | .working, .submitted result => ∀ ticket, result ≠ .ok ticket
  | .working, .other => True
  | _, _ => False

def Returns (stage : Stage) (result : Except Status UInt64) : Prop := Ends stage (.submitted result)

theorem moves_failed {stage : Stage} (exception : Exception)
    (plain : stage = .working ∨ stage = .refused) : Program.Follows (Moves index) Returns stage (failed exception) :=
  fun _ => ⟨_, .fail stage exception plain, nofun⟩

theorem moves_submit (request : Request) (input auxiliary : List Byte) (index : Nat) :
    Program.Follows (Moves index) Returns .working (submit request input auxiliary index) := by
  intro now
  refine ⟨_, .now now, ?_⟩
  change Program.Follows _ _ _ (if _ then _ else _)
  split
  · exact nofun
  · intro allocated
    refine ⟨_, .allocate allocated, ?_⟩
    cases allocated with
    | false => exact moves_failed outOfMemory (.inl rfl)
    | true =>
        intro prepared
        match prepared with
        | .error exception =>
            exact ⟨_, .unprepared request (.error exception) nofun, moves_failed exception (.inr rfl)⟩
        | .ok (.error status) => exact ⟨_, .unprepared request (.ok (.error status)) nofun, nofun⟩
        | .ok (.ok primitive) =>
            refine ⟨_, .prepare request primitive, fun admitted => ?_⟩
            match admitted with
            | .error exception => exact ⟨_, .refuse _ (.error exception) nofun, moves_failed exception (.inr rfl)⟩
            | .ok (.error status) => exact ⟨_, .refuse _ (.ok (.error status)) nofun, nofun⟩
            | .ok (.ok ticket) => exact ⟨_, .enqueue _ ticket rfl, rfl⟩

theorem moves_submitAsync (request : Option Request) (ticket : Bool) (index : Nat) :
    Program.Follows (Moves index) Returns .working (submitAsync request ticket index) := by
  unfold submitAsync
  split
  · exact nofun
  · split
    · split
      · exact nofun
      · exact moves_submit _ _ _ index
    · exact nofun

theorem ends_submitted (request : Option Request) (ticket : Bool) (index : Nat) :
    Program.Follows (Moves index) Ends .working (do return .submitted (← submitAsync request ticket index)) :=
  (moves_submitAsync request ticket index).bind fun _ _ returned => returned

theorem ends_cancel (ticket : UInt64) (index : Nat) :
    Program.Follows (Moves index) Ends .working (do let _ ← cancelAsync ticket; return .other) :=
  fun status => ⟨_, .cancel ticket status, trivial⟩

theorem ends_start (index : Nat) : Program.Follows (Moves index) Ends .working (do let _ ← start; return .other) := by
  intro begun
  cases begun with
  | some status => exact ⟨_, .restart status, trivial⟩
  | none => exact ⟨_, .begin, fun status => ⟨_, .spawn status, trivial⟩⟩

theorem ends_stop (index : Nat) : Program.Follows (Moves index) Ends .working (do stop; return .other) := by
  refine fun _ => ⟨_, .halt, fun _ => ⟨_, .signal, fun joinable => ?_⟩⟩
  cases joinable with
  | false => exact ⟨_, .absent, trivial⟩
  | true => exact ⟨_, .joinable, fun _ => ⟨_, .join, trivial⟩⟩

variable {count index : Nat}

section Lifecycle

/-- Outside of a start and a stop, the worker is there exactly while the provider is running. -/
structure Lifecycle (world : World) (count : Nat) (stage : Nat → Stage) : Prop where
  idle : world.backend.running = false → world.starting = false → (∀ index < count, (stage index).inStop = false) →
    world.worker = none
  active : world.backend.running = true → world.worker.isSome = true ∧ world.starting = false
  vacant : world.starting = true → world.worker = none
  empty : world.worker = none → world.starting = false → world.queue = []
  exclusive : ∀ first < count, ∀ second < count, (stage first).isBusy = true → (stage second).isBusy = true →
    first = second
  alive : world.terminated = false

/-- What a stage says about the provider. -/
def Assures : Stage → World → Prop
  | .prepared, world => world.stopping = true ∨ world.worker.isSome = true ∨ world.starting = true
  | .starting, world => world.starting = true
  | .halted, world => world.backend.running = false ∧ world.starting = false
  | .signalled, world => world.backend.running = false ∧ world.starting = false ∧ world.stopping = true
  | .joining, world => world.backend.running = false ∧ world.starting = false ∧ world.stopping = true ∧
      world.worker.isSome = true
  | _, _ => True

variable {stage : Nat → Stage} {before after : Stage}

/-- A thread outside of a stop is not busy while the lock is free. -/
theorem isBusy_eq_false {stage : Stage} (outside : stage.inStop = false) (assures : Assures stage world)
    (free : world.starting = false) : stage.isBusy = false := by
  unfold Stage.isBusy
  rw [outside, Bool.or_false, beq_eq_false_iff_ne]
  intro begun
  rw [begun] at assures
  cases free.symm.trans assures

/-- Two threads are not busy together when the thread that moves was busy or is the only one. -/
theorem exclusive_update (exclusive : ∀ first < count, ∀ second < count, (stage first).isBusy = true →
      (stage second).isBusy = true → first = second)
    (alone : after.isBusy = true → ∀ other < count, other ≠ index → (stage other).isBusy = false) :
    ∀ first < count, ∀ second < count, (Function.update stage index after first).isBusy = true →
      (Function.update stage index after second).isBusy = true → first = second := by
  intro first within second contained one two
  by_cases moved : first = index
  · by_cases also : second = index
    · rw [moved, also]
    · rw [moved, Function.update_self] at one
      rw [Function.update_of_ne also, alone one second contained also] at two
      cases two
  · rw [Function.update_of_ne moved] at one
    by_cases also : second = index
    · rw [also, Function.update_self] at two
      rw [alone two first within moved] at one
      cases one
    · rw [Function.update_of_ne also] at two
      exact exclusive first within second contained one two

section
variable (life : Lifecycle world count stage)
include life

theorem Lifecycle.alone (inside : index < count)
    (busy : (stage index).isBusy = true) : ∀ other < count, other ≠ index → (stage other).isBusy = false := by
  intro other within different
  cases holds : (stage other).isBusy with
  | false => rfl
  | true => exact absurd (life.exclusive other within index inside holds busy) different

/-- A thread may leave a stop when no worker is left. -/
theorem Lifecycle.move (inside : index < count) (here : stage index = before)
    (busy : after.isBusy = true → before.isBusy = true)
    (stays : before.inStop = true → after.inStop = true ∨ world.worker = none) :
    Lifecycle world count (Function.update stage index after) := by
  have exclusive := @exclusive_update count index stage after life.exclusive fun holds =>
    life.alone inside (here ▸ busy holds)
  refine { life with idle := fun halted free outside => ?_, exclusive := exclusive }
  by_cases moving : before.inStop = true
  · rcases stays moving with still | none
    · have left := outside index inside
      rw [Function.update_self, still] at left
      cases left
    · exact none
  · apply life.idle halted free
    intro other within
    by_cases same : other = index
    · rw [same, here]
      exact Bool.eq_false_iff.mpr moving
    · have left := outside other within
      rwa [Function.update_of_ne same] at left

/-- A step that changes neither the worker nor the locks keeps the lifecycle. -/
theorem Lifecycle.keeps
    (running : later.backend.running = world.backend.running) (starting : later.starting = world.starting)
    (alive : later.terminated = world.terminated) (worker : later.worker.isSome = world.worker.isSome)
    (empty : later.worker = none → later.starting = false → later.queue = []) : Lifecycle later count stage where
  idle := by
    intro halted free outside
    rw [running] at halted
    rw [starting] at free
    rw [life.idle halted free outside] at worker
    exact Option.isSome_eq_false_iff.mp worker |> Option.isNone_iff_eq_none.mp
  active := by
    intro active
    rw [running] at active
    rw [worker, starting]
    exact life.active active
  vacant := by
    intro begun
    rw [starting] at begun
    rw [life.vacant begun] at worker
    exact Option.isSome_eq_false_iff.mp worker |> Option.isNone_iff_eq_none.mp
  empty := empty
  exclusive := life.exclusive
  alive := alive.trans life.alive

end

/-- A stage still says the same about a provider that has not started again. -/
theorem Assures.keeps {stage : Stage} (assures : Assures stage world)
    (running : world.backend.running = false → later.backend.running = false)
    (starting : later.starting = world.starting) (stopping : world.stopping = true → later.stopping = true)
    (worker : world.worker.isSome = true → later.worker.isSome = true) : Assures stage later := by
  cases stage with
  | prepared =>
      rw [Assures, starting]
      exact assures.imp stopping (Or.imp worker id)
  | starting => exact starting.trans assures
  | halted => exact ⟨running assures.1, starting.trans assures.2⟩
  | signalled => exact ⟨running assures.1, starting.trans assures.2.1, stopping assures.2.2⟩
  | joining =>
      exact ⟨running assures.1, starting.trans assures.2.1, stopping assures.2.2.1, worker assures.2.2.2⟩
  | _ => trivial

/-- A stage of a thread that is not busy does not depend on the lock. -/
theorem Assures.calm {stage : Stage} (assures : Assures stage world) (calm : stage.isBusy = false)
    (prepared : world.stopping = true ∨ world.worker.isSome = true ∨ world.starting = true →
      later.stopping = true ∨ later.worker.isSome = true ∨ later.starting = true) : Assures stage later := by
  cases stage with
  | prepared => exact prepared assures
  | starting | halted | signalled | joining => cases calm
  | _ => trivial

end Lifecycle

section Steps

/-- A step that changes the keys or the flags of the jobs only. -/
def Quiet (world later : World) : Prop :=
  ∃ backend cancelled, backend.running = world.backend.running ∧ later = { world with backend, cancelled }

structure Common (world : World) (count : Nat) (stage : Nat → Stage) : Prop where
  ledger : Ledger world
  life : Lifecycle world count stage
  listed : ∀ identity ∈ world.record, identity < count
  calls : world.calls = count

/-- The job of a thread is recorded when it was admitted. -/
def Own (index : Nat) (stage : Stage) (world : World) : Prop :=
  (index ∈ world.record ↔ stage.isAdmitted = true) ∧ Assures stage world

variable {stage : Nat → Stage} {before after : Stage}

theorem Ledger.quiet (ledger : Ledger world) (quiet : Quiet world later) : Ledger later := by
  obtain ⟨backend, cancelled, _, rfl⟩ := quiet
  exact { ledger with }

theorem Common.quiet (common : Common world count stage) (quiet : Quiet world later) : Common later count stage := by
  have ledger := common.ledger.quiet quiet
  obtain ⟨backend, cancelled, running, rfl⟩ := quiet
  exact ⟨ledger, common.life.keeps running rfl rfl rfl common.life.empty, common.listed, common.calls⟩

theorem Own.quiet (own : Own index before world) (quiet : Quiet world later) : Own index before later := by
  obtain ⟨backend, cancelled, running, rfl⟩ := quiet
  exact ⟨own.1, own.2.keeps (fun halted => running.trans halted) rfl id id⟩

/-- A quiet step of a thread changes its stage only. -/
theorem preserves_quiet (holds : Holds Common Own world count stage) (inside : index < count)
    (here : stage index = before) (quiet : Quiet world later) (admitted : after.isAdmitted = before.isAdmitted)
    (busy : after.isBusy = true → before.isBusy = true)
    (stays : before.inStop = true → after.inStop = true ∨ world.worker = none) (assures : Assures after later) :
    Preserves Common Own later count stage index after := by
  have moved : Common world count (Function.update stage index after) :=
    { holds.common with life := holds.common.life.move inside here busy stays }
  have own := (holds.own index inside).quiet quiet
  rw [here] at own
  refine ⟨moved.quiet quiet, ⟨?_, assures⟩, fun other within _ => (holds.own other within).quiet quiet⟩
  rw [admitted]
  exact own.1

/-- An admission refuses the job, loses its ticket, or adds it to both containers. -/
inductive Admits (growth : Growth) (job : Job) (world : World) : Throws (Except Status UInt64) → World → Prop
  | refuse (reply) (same) (other : ∀ ticket, reply ≠ .ok (.ok ticket)) (kept : same = world) :
      Admits growth job world reply same
  | lose : growth = .outstandingFails → Admits growth job world (.error outOfMemory) { world with
      nextTicket := World.ticketAfter world.nextTicket, issued := world.issued + 1 }
  | leak (leaked) : growth = .queueFails → Admits growth job world (.error outOfMemory) leaked
  | add (accepting : world.stopping = false) (room : world.outstanding.length < world.maxOutstanding) :
      Admits growth job world (.ok (.ok world.nextTicket)) { world with
        nextTicket := World.ticketAfter world.nextTicket
        issued := world.issued + 1
        outstanding := world.outstanding ++ [{ job with ticket := world.nextTicket }]
        queue := world.queue ++ [{ job with ticket := world.nextTicket }] }

theorem admits (growth : Growth) (job : Job) (world : World) :
    Admits growth job world (world.enqueue growth job).1 (world.enqueue growth job).2 := by
  unfold World.enqueue
  split
  · exact .refuse _ _ nofun rfl
  · rename_i accepting
    split
    · exact .refuse _ _ nofun rfl
    · rename_i room
      cases growth with
      | outstandingFails => exact .lose rfl
      | queueFails => exact .leak _ rfl
      | complete => exact .add (Bool.eq_false_iff.mpr accepting) (Nat.lt_of_not_le room)

variable {growth : Growth}

variable (holds : Holds Common Own world count stage)
include holds

section
variable (inside : index < count)
include inside

/-- A lost ticket changes nothing else. -/
theorem preserves_lose (here : stage index = .prepared) (few : world.issued < 2 ^ 64 - 1) :
    Preserves Common Own { world with nextTicket := World.ticketAfter world.nextTicket, issued := world.issued + 1 }
      count stage index .refused := by
  have ledger := holds.common.ledger
  have life : Lifecycle world count (Function.update stage index .refused) :=
    holds.common.life.move inside here nofun nofun
  have own := (holds.own index inside).1
  rw [here] at own
  refine ⟨⟨{ ledger with issued := ?_, next := fun more => ticketAfter_toNat (ledger.next few) more },
    life.keeps rfl rfl rfl rfl life.empty, holds.common.listed, holds.common.calls⟩, ⟨own, trivial⟩, ?_⟩
  · intro other member
    exact Nat.le_succ_of_le (ledger.issued other member)
  · intro other within _
    exact ⟨(holds.own other within).1, (holds.own other within).2.keeps id rfl id id⟩

theorem preserves_add
    (here : stage index = .prepared) (identity : job.identity = index) (accepting : world.stopping = false)
    (room : world.outstanding.length < world.maxOutstanding) (few : world.issued < 2 ^ 64 - 1) (ticket : UInt64) :
    Preserves Common Own { world with
        nextTicket := World.ticketAfter world.nextTicket
        issued := world.issued + 1
        outstanding := world.outstanding ++ [{ job with ticket := world.nextTicket }]
        queue := world.queue ++ [{ job with ticket := world.nextTicket }] } count stage index (.admitted ticket) := by
  have own := holds.own index inside
  rw [here] at own
  have fresh : index ∉ world.record := fun member => nomatch own.1.mp member
  have ledger := holds.common.ledger.enqueue (identity ▸ fresh) accepting room few
  have life : Lifecycle world count (Function.update stage index (.admitted ticket)) :=
    holds.common.life.move inside here nofun nofun
  have record : World.record { world with
      nextTicket := World.ticketAfter world.nextTicket
      issued := world.issued + 1
      outstanding := world.outstanding ++ [{ job with ticket := world.nextTicket }]
      queue := world.queue ++ [{ job with ticket := world.nextTicket }] } = world.record ++ [index] := by
    rw [record_enqueue, identity]
  refine ⟨⟨ledger, life.keeps rfl rfl rfl rfl fun none free => ?_, ?_, holds.common.calls⟩, ⟨?_, trivial⟩, ?_⟩
  · rcases own.2 with stopping | present | starting
    · rw [accepting] at stopping
      cases stopping
    · change world.worker = _ at none
      rw [none] at present
      cases present
    · change world.starting = false at free
      rw [free] at starting
      cases starting
  · rw [record]
    intro other member
    rcases List.mem_append.mp member with old | new
    · exact holds.common.listed other old
    · rw [List.mem_singleton.mp new]
      exact inside
  · rw [record]
    simp [Stage.isAdmitted]
  · intro other within different
    refine ⟨?_, (holds.own other within).2.keeps id rfl id id⟩
    rw [record, List.mem_append, List.mem_singleton, or_iff_left different]
    exact (holds.own other within).1

/-- A start holds the lock while no worker is there. -/
theorem preserves_begin
    (here : stage index = .working) (free : world.starting = false) (halted : world.backend.running = false)
    (outside : ∀ other < count, (stage other).inStop = false) :
    Preserves Common Own { world with starting := true, stopping := false } count stage index .starting := by
  have ledger := holds.common.ledger
  have life := holds.common.life
  have none := life.idle halted free outside
  have calm (other : Nat) (within : other < count) : (stage other).isBusy = false :=
    isBusy_eq_false (outside other within) (holds.own other within).2 free
  have own := (holds.own index inside).1
  rw [here] at own
  refine ⟨⟨{ ledger with drained := fun finished => ?_ }, ?_, holds.common.listed, holds.common.calls⟩, ⟨own, rfl⟩, ?_⟩
  · cases none.symm.trans finished
  · exact {
      idle := nofun
      active := fun running => nomatch halted.symm.trans running
      vacant := fun _ => none
      empty := nofun
      exclusive := exclusive_update life.exclusive fun _ other within _ => calm other within
      alive := life.alive }
  · intro other within _
    exact ⟨(holds.own other within).1, (holds.own other within).2.calm (calm other within) fun _ => .inr (.inr rfl)⟩

/-- The new worker waits. -/
theorem preserves_spawn (here : stage index = .starting) {backend : Backend} (running : backend.running = true) :
    Preserves Common Own { world with backend := backend, starting := false, worker := some .waiting }
      count stage index .working := by
  have ledger := holds.common.ledger
  have life := holds.common.life
  have own := holds.own index inside
  rw [here] at own
  have none := life.vacant own.2
  have alone := life.alone inside (by rw [here]; rfl)
  have record : World.record { world with backend := backend, starting := false, worker := some .waiting } =
      world.record := by
    simp [World.record, World.held, none]
  have outstanding := ledger.outstanding
  rw [World.kept, none] at outstanding
  refine ⟨⟨{ ledger with unique := ?_, outstanding := outstanding, settled := nofun, drained := nofun }, ?_, ?_,
    holds.common.calls⟩, ⟨?_, trivial⟩, ?_⟩
  · rw [record]
    exact ledger.unique
  · exact {
      idle := fun halted => nomatch running.symm.trans halted
      active := fun _ => ⟨rfl, rfl⟩
      vacant := nofun
      empty := nofun
      exclusive := exclusive_update life.exclusive nofun
      alive := life.alive }
  · rw [record]
    exact holds.common.listed
  · rw [record]
    exact own.1
  · intro other within different
    refine ⟨?_, (holds.own other within).2.calm (alone other within different) fun _ => .inr (.inl rfl)⟩
    rw [record]
    exact (holds.own other within).1

/-- A stop begins while no other thread starts or stops the worker. -/
theorem preserves_halt (here : stage index = .working) (free : world.starting = false)
    (outside : ∀ other < count, (stage other).inStop = false) :
    Preserves Common Own { world with backend := world.backend.stop } count stage index .halted := by
  have ledger := holds.common.ledger
  have life := holds.common.life
  have own := (holds.own index inside).1
  rw [here] at own
  have calm (other : Nat) (within : other < count) : (stage other).isBusy = false :=
    isBusy_eq_false (outside other within) (holds.own other within).2 free
  refine ⟨⟨{ ledger with }, ?_, holds.common.listed, holds.common.calls⟩, ⟨own, rfl, free⟩, ?_⟩
  · exact {
      idle := fun _ _ left => by
        have stopping := left index inside
        rw [Function.update_self] at stopping
        cases stopping
      active := nofun
      vacant := life.vacant
      empty := life.empty
      exclusive := exclusive_update life.exclusive fun _ other within _ => calm other within
      alive := life.alive }
  · intro other within _
    exact ⟨(holds.own other within).1, (holds.own other within).2.keeps (fun _ => rfl) rfl id id⟩

theorem preserves_signal (here : stage index = .halted) :
    Preserves Common Own { world with stopping := true } count stage index .signalled := by
  have ledger := holds.common.ledger
  have life : Lifecycle world count (Function.update stage index .signalled) :=
    holds.common.life.move inside here (fun _ => rfl) fun _ => .inl rfl
  have own := holds.own index inside
  rw [here] at own
  refine ⟨⟨{ ledger with drained := fun finished => ⟨(ledger.drained finished).1, rfl⟩ },
    life.keeps rfl rfl rfl rfl life.empty, holds.common.listed, holds.common.calls⟩,
    ⟨own.1, own.2.1, own.2.2, rfl⟩, ?_⟩
  intro other within _
  exact ⟨(holds.own other within).1, (holds.own other within).2.keeps id rfl (fun _ => rfl) id⟩

/-- The worker is joined after it has completed all jobs. -/
theorem preserves_join (here : stage index = .joining) (finished : world.worker = some .finished) :
    Preserves Common Own { world with worker := none } count stage index .working := by
  have ledger := holds.common.ledger
  have life := holds.common.life
  have own := holds.own index inside
  rw [here] at own
  obtain ⟨listed, halted, free, stopping, _⟩ := own
  have alone := life.alone inside (by rw [here]; rfl)
  have empty := (ledger.drained finished).1
  have record : World.record { world with worker := none } = world.record := by
    simp [World.record, World.held, finished, Worker.held]
  have outstanding := ledger.outstanding
  rw [World.kept, finished] at outstanding
  refine ⟨⟨{ ledger with unique := ?_, outstanding := outstanding, settled := nofun, drained := nofun }, ?_, ?_,
    holds.common.calls⟩, ⟨?_, trivial⟩, ?_⟩
  · rw [record]
    exact ledger.unique
  · exact {
      idle := fun _ _ _ => rfl
      active := fun running => nomatch halted.symm.trans running
      vacant := fun _ => rfl
      empty := fun _ _ => empty
      exclusive := exclusive_update life.exclusive nofun
      alive := life.alive }
  · rw [record]
    exact holds.common.listed
  · rw [record]
    exact listed
  · intro other within different
    refine ⟨?_, (holds.own other within).2.calm (alone other within different) fun _ => .inl stopping⟩
    rw [record]
    exact (holds.own other within).1

end

/-- The worker changes no stage. -/
theorem holds_works (works : Works world later) : Holds Common Own later count stage := by
  have record := record_works works
  have ledger := holds.common.ledger.works works
  have same : later.backend = world.backend ∧ later.starting = world.starting ∧ later.stopping = world.stopping ∧
      later.terminated = world.terminated ∧ later.calls = world.calls ∧ world.worker.isSome = true ∧
      later.worker.isSome = true := by
    cases works with
    | finish waiting _ _ same
    | take _ _ _ waiting _ _ _ same
    | compute _ _ _ waiting _ _ _ _ same
    | complete _ _ _ _ waiting _ _ same
    | remove _ waiting same =>
        subst same
        exact ⟨rfl, rfl, rfl, rfl, rfl, by rw [waiting]; rfl, rfl⟩
  obtain ⟨backend, starting, stopping, terminated, calls, present, still⟩ := same
  have life := holds.common.life.keeps (congrArg _ backend) starting terminated
    (still.trans present.symm) fun none => by
    rw [none] at still
    cases still
  refine ⟨⟨ledger, life, record ▸ holds.common.listed, calls.trans holds.common.calls⟩, fun other within => ?_⟩
  have own := holds.own other within
  refine ⟨record ▸ own.1, own.2.keeps (fun halted => ?_) starting (fun stops => ?_) fun _ => still⟩
  · rw [backend]
    exact halted
  · rw [stopping]
    exact stops

end Steps

variable {pool : JobPool}

section Runs
variable {later world : World}

/-- Between the first step of a stop and its return. -/
def Op.inStop : Op → Bool
  | .signal | .joinable | .join => true
  | _ => false

def stopInProgress (pool : JobPool) : Bool := pool.threads.any fun thread => thread.pending.any Op.inStop

/-- There are fewer tickets than numbers of 64 bits. -/
def fewTickets (pool : JobPool) : Bool := pool.shared.issued < 2 ^ 64 - 1

/-- No start and no second stop overlaps a stop, a start creates its thread, and a job is added to both containers. -/
def orderly (pool : JobPool) : Choice Input Event → Bool
  | .event _ => true
  | .thread index input =>
      match pool.pending index with
      | some .begin | some .halt => !stopInProgress pool
      | some .spawn => input.failure.isNone
      | some (.enqueue _) => input.growth != .queueFails
      | _ => true

instance (op : Op) : Nonempty op.Reply := by
  cases op <;> first | exact ⟨()⟩ | exact ⟨true⟩ | exact ⟨(0 : Nat)⟩ | exact ⟨Status.ok⟩ |
    exact ⟨(none : Option Status)⟩ | exact ⟨(.error outOfMemory : Throws (Except Status Primitive))⟩ |
    exact ⟨(.error outOfMemory : Throws (Except Status UInt64))⟩

variable {stage : Nat → Stage} {program : Run Finished}

/-- A thread in the stage of a stop has an operation of the stop before it. -/
theorem pending_of_inStop {here : Stage} (inStop : here.inStop = true)
    (follows : Program.Follows (Moves index) Ends here program) : program.pending.any Op.inStop = true := by
  cases program with
  | done value =>
      have ended : Ends here value := follows
      cases here with
      | halted | signalled | joining => cases value <;> cases ended
      | _ => cases inStop
  | call op next =>
      obtain ⟨reply⟩ := (inferInstance : Nonempty op.Reply)
      obtain ⟨_, moves, _⟩ := follows.call reply
      cases moves with
      | signal | joinable | absent | join => rfl
      | fail _ exception plain => rcases plain with rfl | rfl <;> cases inStop
      | _ => cases inStop

theorem outside_of_pool (staged : Staged Moves Ends pool.threads stage) (outside : stopInProgress pool = false) :
    ∀ other < pool.threads.length, (stage other).inStop = false := by
  intro other within
  cases inStop : (stage other).inStop with
  | false => rfl
  | true =>
      have found := List.getElem?_eq_getElem within
      have pending := pending_of_inStop inStop (staged other _ found)
      rw [stopInProgress, List.any_eq_false] at outside
      exact absurd pending (outside _ (List.getElem_mem within))

theorem running_prepare (request : Request) (backend : Backend) :
    (prepare botan request backend).2.running = backend.running ∧
      ∀ primitive, (prepare botan request backend).1 = .ok (.ok primitive) → backend.running = true := by
  unfold prepare
  split
  · exact ⟨rfl, nofun⟩
  · rename_i running
    refine ⟨?_, fun _ _ => by simpa using running⟩
    repeat' first | rfl | split

theorem locked_eq_some {A : Type} {result other : A} (locked : world.locked result = some other) :
    world.starting = false ∧ result = other := by
  obtain ⟨free, same⟩ := Option.ite_none_left_eq_some.mp locked
  exact ⟨Bool.eq_false_iff.mpr free, Option.some.inj same⟩

theorem quiet_backend {backend : Backend} (running : backend.running = world.backend.running) :
    Quiet world { world with backend } := ⟨backend, world.cancelled, running, rfl⟩

theorem quiet_cancel (ticket : UInt64) (world : World) : Quiet world (world.cancel ticket).2 := by
  unfold World.cancel
  split
  · exact ⟨_, _, rfl, rfl⟩
  · exact ⟨_, _, rfl, rfl⟩

variable {failure : Option String}

theorem begin_eq_none (begun : world.begin failure = (none, later)) :
    world.backend.running = false ∧ later = { world with starting := true, stopping := false } := by
  simp only [World.begin] at begun
  split at begun
  · rename_i started
    refine ⟨?_, (congrArg Prod.snd begun).symm⟩
    cases running : world.backend.running with
    | false => rfl
    | true => simp [Backend.start, Backend.fail, running] at started
  · cases begun

theorem quiet_begin {status : Status} (begun : world.begin failure = (some status, later)) : Quiet world later := by
  simp only [World.begin] at begun
  split at begun
  · cases begun
  · rename_i refused
    cases begun
    refine ⟨_, _, ?_, rfl⟩
    cases running : world.backend.running with
    | true => simp [Backend.start, Backend.fail, running]
    | false =>
        cases failure with
        | none => simp [Backend.start, running] at refused
        | some what => simp [Backend.start, Backend.fail, running]

theorem spawn_eq (halted : world.backend.running = false) (vacant : world.worker = none) :
    (world.spawn none).2 = { world with
      backend := { world.backend with running := true }, starting := false, worker := some .waiting } := by
  simp [World.spawn, Backend.start, halted, vacant]

/-- A step of a thread keeps the invariant when it is orderly. -/
theorem preserves_step {op : Op} {next : op.Reply → Run Finished} {reply : op.Reply}
    {after : Stage} (staged : Staged Moves Ends pool.threads stage)
    (holds : Holds Common Own pool.shared pool.threads.length stage)
    (orderly : orderly pool (.thread index input) = true) (few : fewTickets pool = true)
    (found : pool.threads[index]? = some (.call op next)) (moves : Moves index (stage index) op reply after)
    (performed : pool.shared.perform botan op input = some (reply, later)) :
    Preserves Common Own later pool.threads.length stage index after := by
  obtain ⟨inside, _⟩ := List.getElem?_eq_some_iff.mp found
  have pending : pool.pending index = some op := by
    rw [Pool.pending, found]
    rfl
  have few : pool.shared.issued < 2 ^ 64 - 1 := of_decide_eq_true few
  have quiet : Quiet pool.shared pool.shared := ⟨_, _, rfl, rfl⟩
  have own := holds.own index inside
  unfold World.perform at performed
  rw [if_neg (Bool.eq_false_iff.mp holds.common.life.alive)] at performed
  simp only [Async.orderly, pending] at orderly
  generalize here : stage index = before at moves own
  cases moves with
  | now | allocate =>
      cases performed
      exact preserves_quiet holds inside here quiet rfl id nofun trivial
  | cancel ticket status =>
      have same : (pool.shared.cancel ticket).2 = later := congrArg Prod.snd (Option.some.inj performed)
      exact preserves_quiet holds inside here (same ▸ quiet_cancel ticket pool.shared) rfl id nofun trivial
  | prepare request primitive =>
      obtain ⟨_, same⟩ := locked_eq_some performed
      obtain ⟨made, rfl⟩ := Prod.mk.inj same
      obtain ⟨running, started⟩ := running_prepare request pool.shared.backend
      have present := (holds.common.life.active (started primitive made)).1
      exact preserves_quiet holds inside here (quiet_backend running) rfl nofun nofun (.inr (.inl present))
  | unprepared request reply other =>
      obtain ⟨_, same⟩ := locked_eq_some performed
      obtain ⟨_, rfl⟩ := Prod.mk.inj same
      have running := (@running_prepare botan request pool.shared.backend).1
      exact preserves_quiet holds inside here (quiet_backend running) rfl nofun nofun trivial
  | enqueue job ticket identity =>
      have cases := admits input.growth job pool.shared
      rw [Option.some.inj performed] at cases
      cases cases with
      | refuse _ _ other _ => exact absurd rfl (other ticket)
      | add accepting room => exact preserves_add holds inside here identity accepting room few _
  | refuse job reply other =>
      have cases := admits input.growth job pool.shared
      have grown : input.growth ≠ .queueFails := by simpa using orderly
      have same := Option.some.inj performed
      rw [same] at cases
      simp only at cases
      cases cases with
      | refuse _ _ _ kept =>
          subst kept
          exact preserves_quiet holds inside here quiet rfl nofun nofun trivial
      | lose lost => exact preserves_lose holds inside here few
      | leak _ leaked => exact absurd leaked grown
      | add => exact absurd rfl (other _)
  | fail stage exception plain =>
      cases performed
      rcases plain with rfl | rfl <;>
        exact preserves_quiet holds inside here (quiet_backend rfl) rfl nofun nofun trivial
  | begin =>
      obtain ⟨free, same⟩ := locked_eq_some performed
      obtain ⟨halted, rfl⟩ := begin_eq_none same
      exact preserves_begin holds inside here free halted (outside_of_pool staged ((Bool.not_eq_true' _).mp orderly))
  | restart status =>
      obtain ⟨_, same⟩ := locked_eq_some performed
      exact preserves_quiet holds inside here (quiet_begin same) rfl id nofun trivial
  | spawn status =>
      have same : (pool.shared.spawn input.failure).2 = later := congrArg Prod.snd (Option.some.inj performed)
      have vacant := holds.common.life.vacant own.2
      have halted : pool.shared.backend.running = false := by
        cases running : pool.shared.backend.running with
        | false => rfl
        | true => cases own.2.symm.trans (holds.common.life.active running).2
      rw [Option.isNone_iff_eq_none.mp orderly, spawn_eq halted vacant] at same
      subst same
      exact preserves_spawn holds inside here rfl
  | halt =>
      obtain ⟨free, same⟩ := locked_eq_some performed
      obtain ⟨_, rfl⟩ := Prod.mk.inj same
      exact preserves_halt holds inside here free (outside_of_pool staged ((Bool.not_eq_true' _).mp orderly))
  | signal =>
      cases performed
      exact preserves_signal holds inside here
  | joinable =>
      obtain ⟨present, rfl⟩ := Prod.mk.inj (Option.some.inj performed)
      exact preserves_quiet holds inside here quiet rfl id (fun _ => .inl rfl)
        ⟨own.2.1, own.2.2.1, own.2.2.2, present⟩
  | absent =>
      obtain ⟨missing, rfl⟩ := Prod.mk.inj (Option.some.inj performed)
      have none := Option.isNone_iff_eq_none.mp (Option.isSome_eq_false_iff.mp missing)
      exact preserves_quiet holds inside here quiet rfl nofun (fun _ => .inr none) trivial
  | join =>
      obtain ⟨joined, ended, same⟩ := Option.map_eq_some_iff.mp performed
      cases same
      obtain ⟨worker, there⟩ := Option.isSome_iff_exists.mp own.2.2.2.2
      rw [World.join, there] at ended
      cases worker with
      | finished =>
          cases ended
          exact preserves_join holds inside here there
      | _ => cases ended

/-- A new thread is at work and has no job yet. -/
theorem common_thread {count : Nat} (common : Common world count stage) :
    Common { world with calls := world.calls + 1 } (count + 1) (Function.update stage count .working) := by
  have ledger := common.ledger
  have life := common.life
  have old (index : Nat) (within : index < count) : Function.update stage count .working index = stage index :=
    Function.update_of_ne (Nat.ne_of_lt within) _ _
  refine ⟨{ ledger with }, { life with idle := fun halted free outside => ?_, exclusive := ?_ }, ?_, ?_⟩
  · apply life.idle halted free
    intro index within
    rw [← old index within]
    exact outside index (Nat.lt_succ_of_lt within)
  · intro first within second contained one two
    have earlier (index : Nat) (inside : index < count + 1)
        (busy : (Function.update stage count .working index).isBusy = true) : index < count := by
      refine Nat.lt_of_le_of_ne (Nat.lt_succ_iff.mp inside) fun same => ?_
      rw [same, Function.update_self] at busy
      cases busy
    have inside := earlier first within one
    have also := earlier second contained two
    rw [old first inside] at one
    rw [old second also] at two
    exact life.exclusive first inside second also one two
  · exact fun identity member => Nat.lt_succ_of_lt (common.listed identity member)
  · exact congrArg (· + 1) common.calls

variable {maxKeys maxContexts : UInt32} {begun : JobPool}

theorem holds_created (made : created maxKeys maxContexts = some begun) :
    begun.threads = [] ∧ Holds Common Own begun.shared 0 stage := by
  obtain ⟨backend, opened, rfl⟩ := Option.map_eq_some_iff.mp made
  have halted : backend.running = false := by
    obtain ⟨_, same⟩ := Option.ite_none_left_eq_some.mp opened
    rw [← Option.some.inj same]
  refine ⟨rfl, ⟨⟨?_, ?_, nofun, rfl⟩, fun index inside => absurd inside (Nat.not_lt_zero index)⟩⟩
  · exact {
      unique := List.nodup_nil
      outstanding := rfl
      bounded := Nat.zero_le _
      ordered := List.Pairwise.nil
      issued := nofun
      next := fun _ => rfl
      settled := nofun
      drained := nofun }
  · exact {
      idle := fun _ _ _ => rfl
      active := fun running => nomatch halted.symm.trans running
      vacant := fun _ => rfl
      empty := fun _ _ => rfl
      exclusive := fun first inside => absurd inside (Nat.not_lt_zero first)
      alive := rfl }

theorem follows_occur {event : Event} (occurred : world.occur botan event = some (later, some program)) :
    Program.Follows (Moves world.calls) Ends .working program ∧ later = { world with calls := world.calls + 1 } := by
  cases event with
  | submit request ticket =>
      cases occurred
      exact ⟨ends_submitted request ticket world.calls, rfl⟩
  | cancel ticket =>
      cases occurred
      exact ⟨ends_cancel ticket world.calls, rfl⟩
  | start =>
      cases occurred
      exact ⟨ends_start world.calls, rfl⟩
  | stop =>
      cases occurred
      exact ⟨ends_stop world.calls, rfl⟩
  | provider call =>
      obtain ⟨_, same⟩ := Option.ite_none_left_eq_some.mp occurred
      cases same
  | work input =>
      obtain ⟨_, same⟩ := Option.ite_none_left_eq_some.mp occurred
      obtain ⟨_, _, same⟩ := Option.map_eq_some_iff.mp same
      cases same

theorem holds_reached (made : created maxKeys maxContexts = some begun)
    (reached : (machine botan).Reaches (fun pool choice => fewTickets pool = true ∧ orderly pool choice = true)
      begun pool) :
    ∃ stage, Staged Moves Ends pool.threads stage ∧ Holds Common Own pool.shared pool.threads.length stage := by
  obtain ⟨empty, initial⟩ := @holds_created (fun _ => .working) maxKeys maxContexts begun made
  apply Machine.Reaches.invariant (fun _ => .working) _ _ _ _ _ reached
  · rw [empty]
    exact Staged.nil _
  · rw [empty]
    exact initial
  · intro pool stage index input op next reply shared later staged holds permitted found moves performed
    exact preserves_step staged holds permitted.2 permitted.1 found moves performed
  · intro pool stage event shared staged holds _ occurred
    cases event with
    | provider call =>
        obtain ⟨allowed, same⟩ := Option.ite_none_left_eq_some.mp occurred
        cases same
        simp only [Bool.or_eq_true, not_or, Bool.not_eq_true] at allowed
        have quiet := @quiet_backend pool.shared _ (@running_call botan pool.shared.backend call allowed.2)
        exact ⟨holds.common.quiet quiet, fun other within => (holds.own other within).quiet quiet⟩
    | work input =>
        obtain ⟨_, same⟩ := Option.ite_none_left_eq_some.mp occurred
        obtain ⟨later, worked, same⟩ := Option.map_eq_some_iff.mp same
        cases same
        exact holds_works holds (works_of_work worked)
    | _ => cases occurred
  · intro pool stage event shared program staged holds _ occurred
    obtain ⟨follows, rfl⟩ := follows_occur occurred
    rw [holds.common.calls] at follows
    have fresh : pool.threads.length ∉ pool.shared.record := fun member =>
      Nat.lt_irrefl _ (holds.common.listed _ member)
    refine ⟨.working, follows, common_thread holds.common, ⟨?_, trivial⟩, fun other within => ?_⟩
    · exact ⟨fun member => absurd member fresh, nofun⟩
    · have own := holds.own other within
      exact ⟨own.1, own.2.keeps id rfl id id⟩

end Runs

def isWork : Choice Input Event → Bool
  | .event (.work _) => true
  | _ => false

/-- The provider rests between the return of a stop and the next start. -/
def rests (pool : JobPool) : Bool := !pool.shared.backend.running && !pool.shared.starting && !stopInProgress pool

/-- What the asynchronous jobs promise at every point of a run. The record contains the completed jobs and the jobs
that the worker will complete. -/
structure JobsSound (botan : Botan) (pool : JobPool) : Prop where
  once : pool.shared.record.Nodup
  accepted : ∀ index ticket, pool.threads[index]? = some (.done (.submitted (.ok ticket))) → index ∈ pool.shared.record
  rejected : ∀ index status, pool.threads[index]? = some (.done (.submitted (.error status))) →
    index ∉ pool.shared.record
  bounded : pool.shared.outstanding.length ≤ pool.shared.maxOutstanding
  tickets : (pool.shared.outstanding.map (·.ticket)).Nodup
  stopped : rests pool = true → pool.shared.queue = [] ∧ pool.shared.outstanding = [] ∧
    pool.shared.completions.map (·.identity) = pool.shared.record
  completes : pool.shared.worker.isSome = true → ∃ later,
    (machine botan).Reaches (fun _ choice => isWork choice = true) pool later ∧ later.threads = pool.threads ∧
      later.shared.completions.map (·.identity) = pool.shared.record

/-- The steps that the worker has before it. -/
def Worker.effort : Worker → Nat
  | .taken _ _ => 5
  | .computing _ => 4
  | .computed _ _ => 3
  | .completed _ => 2
  | .waiting => 1
  | .finished => 0

def World.effort (world : World) : Nat := 6 * world.queue.length + world.worker.elim 0 Worker.effort

/-- A worker with a job before it has a step. -/
theorem exists_work {world : World} (ledger : Ledger world) (present : world.worker.isSome = true)
    (free : world.starting = false) (busy : world.held ++ world.queue ≠ []) :
    ∃ input later, world.work botan input = some later ∧ later.effort < world.effort := by
  obtain ⟨worker, there⟩ := Option.isSome_iff_exists.mp present
  unfold World.work World.effort
  rw [there]
  cases worker with
  | waiting =>
      cases first : world.queue with
      | nil => simp [World.held, there, first] at busy
      | cons job queue =>
          refine ⟨{}, _, rfl, ?_⟩
          simp [Worker.effort]
          omega
  | taken job stopping =>
      cases stopping with
      | true => exact ⟨{}, _, rfl, by simp [World.complete, Worker.effort]⟩
      | false =>
          cases interrupted : world.interruption 0 job with
          | some status =>
              refine ⟨{}, world.complete job status {}, ?_, by simp [World.complete, Worker.effort]⟩
              simp [interrupted]
          | none =>
              refine ⟨{}, { world with worker := some (.computing job) }, ?_, by simp [Worker.effort]⟩
              simp [interrupted]
  | computing job =>
      refine ⟨{}, { world with worker := some (.computed job (compute botan (.ok fun _ => 0) job)) }, ?_,
        by simp [Worker.effort]⟩
      simp [free]
  | computed job output =>
      cases output with
      | error exception => exact ⟨{}, _, rfl, by simp [World.complete, Worker.effort]⟩
      | ok value =>
          cases interrupted : world.interruption 0 job with
          | some status =>
              refine ⟨{}, world.complete job status {}, ?_, by simp [World.complete, Worker.effort]⟩
              simp [interrupted]
          | none =>
              refine ⟨{}, world.complete job .ok value, ?_, by simp [World.complete, Worker.effort]⟩
              simp [interrupted]
  | completed job =>
      refine ⟨{}, _, rfl, ?_⟩
      simp [Worker.effort]
  | finished =>
      have empty := (ledger.drained there).1
      simp [World.held, there, Worker.held, empty] at busy

theorem works_frame (works : Works world later) : later.worker.isSome = true ∧
    later.starting = world.starting ∧ later.terminated = world.terminated := by
  cases works with
  | finish _ _ _ same
  | take _ _ _ _ _ _ _ same
  | compute _ _ _ _ _ _ _ _ same
  | complete _ _ _ _ _ _ _ same
  | remove _ _ same =>
      subst same
      exact ⟨rfl, rfl, rfl⟩

/-- The worker completes all jobs of the record. -/
theorem reaches_completed (effort : Nat) (pool : JobPool) (ledger : Ledger pool.shared)
    (bound : pool.shared.effort ≤ effort) (present : pool.shared.worker.isSome = true)
    (free : pool.shared.starting = false) (alive : pool.shared.terminated = false) : ∃ later,
      (machine botan).Reaches (fun _ choice => isWork choice = true) pool later ∧ later.threads = pool.threads ∧
        later.shared.completions.map (·.identity) = pool.shared.record := by
  induction effort generalizing pool with
  | zero =>
      by_cases busy : pool.shared.held ++ pool.shared.queue = []
      · refine ⟨pool, .refl, rfl, ?_⟩
        rw [World.record, busy, List.map_nil, List.append_nil]
      · obtain ⟨_, _, _, less⟩ := @exists_work botan pool.shared ledger present free busy
        omega
  | succ effort ih =>
      by_cases busy : pool.shared.held ++ pool.shared.queue = []
      · refine ⟨pool, .refl, rfl, ?_⟩
        rw [World.record, busy, List.map_nil, List.append_nil]
      · obtain ⟨input, next, worked, less⟩ := @exists_work botan pool.shared ledger present free busy
        have works := works_of_work worked
        obtain ⟨still, starting, terminated⟩ := works_frame works
        have fired : (machine botan).fire pool (.event (.work input)) = some ⟨next, pool.threads⟩ := by
          simp [Machine.fire, machine, World.occur, alive, worked]
        have first : (machine botan).Reaches (fun _ choice => isWork choice = true) pool ⟨next, pool.threads⟩ :=
          .step .refl rfl fired
        obtain ⟨later, reached, threads, completed⟩ := ih ⟨next, pool.threads⟩ (ledger.works works)
          (Nat.le_of_lt_succ (Nat.lt_of_lt_of_le less bound)) still
          (starting.trans free) (terminated.trans alive)
        refine ⟨later, first.trans reached, threads, ?_⟩
        rw [completed]
        exact record_works works

/-- In every orderly run, each accepted job is completed once. -/
theorem jobs_sound {maxKeys maxContexts : UInt32} {begun : JobPool} (made : created maxKeys maxContexts = some begun)
    (reached : (machine botan).Reaches (fun pool choice => fewTickets pool = true ∧ orderly pool choice = true)
      begun pool) : JobsSound botan pool := by
  obtain ⟨stage, staged, holds⟩ := holds_reached made reached
  have ledger := holds.common.ledger
  have life := holds.common.life
  have ended (index : Nat) (result : Except Status UInt64)
      (found : pool.threads[index]? = some (.done (.submitted result))) :
      Ends (stage index) (.submitted result) ∧ (index ∈ pool.shared.record ↔ (stage index).isAdmitted = true) :=
    ⟨staged index _ found, (holds.own index (List.getElem?_eq_some_iff.mp found).1).1⟩
  refine {
    once := ledger.unique
    accepted := fun index ticket found => ?_
    rejected := fun index status found => ?_
    bounded := ledger.bounded
    tickets := ?_
    stopped := fun resting => ?_
    completes := fun present => reaches_completed _ pool ledger (Nat.le_refl _) present ?_ life.alive }
  · obtain ⟨ends, listed⟩ := ended index _ found
    apply listed.mpr
    generalize stage index = here at ends
    cases here with
    | admitted ticket => rfl
    | refused | working => exact absurd rfl (ends ticket)
    | _ => cases ends
  · obtain ⟨ends, listed⟩ := ended index _ found
    intro member
    have admitted := listed.mp member
    generalize stage index = here at ends admitted
    cases here with
    | admitted ticket => cases ends
    | _ => cases admitted
  · refine List.Pairwise.imp ?_ (List.pairwise_map.mp ledger.ordered) |> List.pairwise_map.mpr
    intro first second less same
    rw [same] at less
    exact Nat.lt_irrefl _ less
  · simp only [rests, Bool.and_eq_true, Bool.not_eq_true'] at resting
    have none := life.idle resting.1.1 resting.1.2 (outside_of_pool staged resting.2)
    have empty := life.empty none resting.1.2
    have outstanding := ledger.outstanding
    rw [empty, World.kept, none] at outstanding
    refine ⟨empty, outstanding, ?_⟩
    simp [World.record, World.held, none, empty]
  · cases starting : pool.shared.starting with
    | false => rfl
    | true =>
        rw [life.vacant starting] at present
        cases present

abbrev Schedule := List (JobPool → Choice Input Event)

def calls (event : Event) : Schedule := [fun _ => .event event]

def steps (index count : Nat) : Schedule := List.replicate count fun _ => .thread index {}

def oneHash : Event :=
  .submit (some { operation := .hash, algorithm := .sha2_256, input := some [1], deadline := 9 }) true

/-- The provider starts, and a job is accepted. -/
def submitting : Schedule := calls .start ++ steps 0 2 ++ calls oneHash ++ steps 1 4

/-- The provider stops, and the worker completes the job before it ends. -/
def stopping : Schedule := calls .stop ++ steps 2 2 ++ (List.replicate 4 (calls (.work {}))).flatten ++ steps 2 2

def opened : JobPool := ⟨{ backend := Crypto.opened, maxOutstanding := 1 }, []⟩

/-- A job is completed by the stop. -/
theorem jobs_sound_stopped : ∃ pool, JobsSound sample pool ∧ rests pool = true ∧
    pool.shared.completions.map (·.status) = [.shuttingDown] := by
  obtain ⟨pool, reached, holds⟩ := System.Reaches.exists_of_run
    (fun pool choice => fewTickets pool && orderly pool choice) (fun _ _ checked => Bool.and_eq_true_iff.mp checked)
    (submitting ++ stopping) (fun pool => rests pool && pool.shared.completions.map (·.status) == [.shuttingDown])
    (by decide +kernel : (((machine sample).run _ (submitting ++ stopping) opened).any _) = true)
  simp only [Bool.and_eq_true, beq_iff_eq] at holds
  exact ⟨pool, jobs_sound (rfl : created 1 1 = some opened) reached, holds.1, holds.2⟩

/-- The provider starts again before the stop has joined the worker. -/
def restarting : Schedule := submitting ++ calls .stop ++ steps 2 1 ++ calls .start ++ steps 3 2

/-- The worker of a program that has ended takes no step. -/
theorem eq_of_terminated {pool later : JobPool} (ended : pool.shared.terminated = true)
    (reached : (machine botan).Reaches (fun _ choice => isWork choice = true) pool later) : later = pool := by
  induction reached with
  | refl => rfl
  | @step before after choice _ permitted fired ih =>
      subst ih
      cases choice with
      | thread index input => cases permitted
      | event event =>
          cases event with
          | work input => simp [Machine.fire, machine, World.occur, ended] at fired
          | _ => cases permitted

/-- The accepted job of a provider that starts too early is never completed. -/
theorem restarted_job_lost : ¬∀ pool, (machine sample).Reaches (fun pool _ => fewTickets pool = true) opened pool →
    JobsSound sample pool := by
  intro claimed
  obtain ⟨pool, reached, holds⟩ := System.Reaches.exists_of_run (fun pool _ => fewTickets pool)
    (fun _ _ checked => checked) restarting
    (fun pool => pool.shared.terminated && pool.shared.worker.isSome && pool.shared.record == [1] &&
      pool.shared.completions.map (·.identity) == [])
    (by decide +kernel : (((machine sample).run _ restarting opened).any _) = true)
  simp only [Bool.and_eq_true, beq_iff_eq] at holds
  obtain ⟨later, run, _, completed⟩ := (claimed pool reached).completes holds.1.1.2
  rw [eq_of_terminated holds.1.1.1 run, holds.1.2, holds.2] at completed
  cases completed

end OpenVehicle.Crypto.Async
