/-
This file proves what an attempt to migrate a store leaves behind when it completes, when its transform fails
and when its process stops.
-/

import OpenVehicle.Per.MigrationLoop
import OpenVehicle.Per.Serial

namespace OpenVehicle.Per.Runtime

open Memory (Backend StoreData)

variable {plan : MigrationDescriptor} {base : StoreData} {store : Handle} {name : String} {migration : Handle}
variable {staged : Values}

section Entering
variable {checkpoint : Bytes}
variable {runtime entered : Runtime} {walk : Walk}

/-- The store has a pending migration of the plan and no writer. -/
structure Pending (plan : MigrationDescriptor) (base : StoreData) : Prop where
  free : base.writerActive = false
  started : base.migrationId ≠ ""
  resumes : base.resumes plan = true

/-- A migration begins with the data that it leaves pending. -/
theorem beginMigration_ok {backend begun : Backend} {buffer : Buffer} {status : MigrationStatus} {checkpoint : Bytes}
    (performed : Memory.beginMigration backend store plan buffer = (.ok (migration, status, checkpoint), begun)) :
    ∃ name change, backend.storeHandles.lookup store = some ⟨name, .readWrite⟩ ∧
      begun = Memory.addMigration (backend.update name change) ⟨name, plan.durability⟩ ∧
      migration = backend.nextHandle ∧ Pending plan (change (backend.data name)) ∧
      (change (backend.data name)).values = (backend.data name).values ∧
      (change (backend.data name)).migrationHandleActive = true ∧
      checkpoint = (change (backend.data name)).migrationCheckpoint ∧
      checkpoint = (if (backend.data name).migrationId = "" then [] else (backend.data name).migrationCheckpoint) ∧
      ∀ options, (change (backend.data name)).matches options = (backend.data name).matches options := by
  unfold Memory.beginMigration at performed
  split at performed
  · cases performed
  rename_i complete
  split at performed
  · cases performed
  rename_i item found
  dsimp only at performed
  split at performed
  · cases performed
  rename_i access
  have access : item = ⟨item.store, .readWrite⟩ := by
    rw [← not_not.mp access]
  split at performed
  · cases performed
  rename_i free
  rw [not_or] at free
  have free : (backend.data item.store).writerActive = false := by simpa using free.1
  split at performed
  · rename_i started
    split at performed
    · rename_i resumes
      unfold Memory.enterMigration at performed
      dsimp only at performed
      split at performed
      · cases performed
      · obtain ⟨result, rfl⟩ := Prod.mk.inj performed
        obtain ⟨rfl, rest⟩ := Prod.mk.inj (Except.ok.inj result)
        obtain ⟨_, rfl⟩ := Prod.mk.inj rest
        exact ⟨item.store, Memory.activate, access ▸ found, rfl, rfl, ⟨free, started, resumes⟩, rfl, rfl, rfl,
          (if_neg started).symm, fun _ => rfl⟩
    · cases performed
  · rename_i settled
    have settled := not_not.mp settled
    split at performed
    · cases performed
    · rename_i source
      rw [not_or, not_not, not_not] at source
      rw [Memory.enterMigration_started] at performed
      obtain ⟨result, rfl⟩ := Prod.mk.inj performed
      obtain ⟨rfl, rest⟩ := Prod.mk.inj (Except.ok.inj result)
      obtain ⟨_, rfl⟩ := Prod.mk.inj rest
      refine ⟨item.store, Memory.activate ∘ Memory.startMigration plan, access ▸ found, rfl, rfl,
        ⟨free, fun empty => complete (.inl empty), ?_⟩, rfl, rfl, rfl, (if_pos settled).symm, fun _ => rfl⟩
      simp [Memory.StoreData.resumes, Memory.activate, Memory.startMigration, source.1, source.2]

/-- The reader of the source entries. -/
def reader (begun : Backend) (name : String) : Memory.Transaction where
  store := name
  values := (begun.data name).values
  baseGeneration := (begun.data name).generation
  durability := .buffered
  write := false

/-- The state of the runtime in front of the loop. -/
def prepared (runtime : Runtime) (begun : Backend) (name : String) : Runtime :=
  { runtime with
    backend :=
      { Memory.addTransaction begun (reader begun name) with
        cursors := begun.cursors.insert (begun.nextHandle + 1)
          { entries := Memory.scan (begun.data name).values [] }
        nextHandle := begun.nextHandle + 1 + 1 } }

variable {begun : Backend}

theorem enter_eq {status : MigrationStatus}
    (performed : Memory.beginMigration runtime.backend store plan (some checkpointStorage) =
      (.ok (migration, status, checkpoint), begun)) : runtime.enter store plan =
      match (Runtime.mk begun runtime.running).beginRead store with
      | (.error error, later) => (.error error, later.closeMigration migration)
      | (.ok (read, _), reading) =>
          match reading.iterate read [] with
          | (.error error, later) => (.error error, (later.closeMigration migration).closeTransaction read)
          | (.ok cursor, later) =>
              (.ok ⟨migration, read, cursor, checkpoint, status.processedEntries, status.resumed, 0⟩, later) := by
  rw [enter, performed]
  rfl

/-- The loop is entered when the migration begins and another transaction has room. -/
theorem enter_begun {status : MigrationStatus}
    (performed : Memory.beginMigration runtime.backend store plan (some checkpointStorage) =
      (.ok (migration, status, checkpoint), begun)) (valid : store ≠ 0) (positive : begun.nextHandle ≠ 0)
    (found : begun.storeHandles.lookup store = some ⟨name, .readWrite⟩) :
    (begun.transactions.entries.length < begun.maxTransactions → runtime.enter store plan =
      (.ok ⟨migration, begun.nextHandle, begun.nextHandle + 1, checkpoint, status.processedEntries,
        status.resumed, 0⟩, prepared runtime begun name)) ∧
    (¬begun.transactions.entries.length < begun.maxTransactions → ∃ error later,
      runtime.enter store plan = (.error error, later)) := by
  have entering := enter_eq performed
  constructor
  · intro room
    have begins : (Runtime.mk begun runtime.running).beginRead store =
        (.ok (begun.nextHandle, (begun.data name).generation),
          ⟨Memory.addTransaction begun (reader begun name), runtime.running⟩) := by
      rw [beginRead, onStore, if_neg valid, Memory.beginRead, Memory.beginTransaction, found]
      dsimp only
      rw [if_neg (Nat.not_le.mpr room)]
      rfl
    have iterates : (Runtime.mk (Memory.addTransaction begun (reader begun name)) runtime.running).iterate
        begun.nextHandle [] = (.ok (begun.nextHandle + 1), prepared runtime begun name) := by
      rw [iterate, if_neg positive, Memory.openCursor]
      have listed : (Memory.addTransaction begun (reader begun name)).transactions.lookup begun.nextHandle =
          some (reader begun name) := AList.lookup_insert _
      rw [listed]
      rfl
    rw [entering, begins]
    dsimp only
    rw [iterates]
  · intro full
    have refused : ∃ error later, (Runtime.mk begun runtime.running).beginRead store = (.error error, later) := by
      rw [beginRead, onStore, if_neg valid, Memory.beginRead, Memory.beginTransaction, found]
      dsimp only
      rw [if_pos (Nat.not_lt.mp full)]
      exact ⟨_, _, rfl⟩
    obtain ⟨error, later, refused⟩ := refused
    rw [entering, refused]
    exact ⟨_, _, rfl⟩

/-- What the loop finds when it is entered. -/
structure Entered (original entered : Runtime) (walk : Walk) : Prop where
  running : entered.running = original.running
  storeHandles : entered.backend.storeHandles = original.backend.storeHandles
  transactions : ∃ item, item.writing = false ∧
    entered.backend.transactions = original.backend.transactions.insert walk.read item
  maxTransactions : entered.backend.maxTransactions = original.backend.maxTransactions
  nextHandle : entered.backend.nextHandle ≠ 0
  read : walk.read ≠ 0
  calls : walk.calls = 0

theorem looping_prepared {change : StoreData → StoreData} {status : MigrationStatus}
    (active : (change (runtime.backend.data name)).migrationHandleActive = true)
    (begun : Backend) (same : begun = Memory.addMigration (runtime.backend.update name change) ⟨name, plan.durability⟩)
    (last : checkpoint = (change (runtime.backend.data name)).migrationCheckpoint) :
    Entered runtime (prepared runtime begun name) ⟨runtime.backend.nextHandle, begun.nextHandle,
      begun.nextHandle + 1, checkpoint, status.processedEntries, status.resumed, 0⟩ ∧
    Looping (prepared runtime begun name) name (change (runtime.backend.data name))
      (Memory.scan (change (runtime.backend.data name)).values []) 0 checkpoint
      (change (runtime.backend.data name)).migrationValues (prepared runtime begun name)
      ⟨runtime.backend.nextHandle, begun.nextHandle, begun.nextHandle + 1, checkpoint, status.processedEntries,
        status.resumed, 0⟩ := by
  subst same
  have data : (Memory.addMigration (runtime.backend.update name change) ⟨name, plan.durability⟩).data name =
      change (runtime.backend.data name) := by
    change (runtime.backend.update name change).data name = _
    rw [Backend.data_update, if_pos rfl]
  refine ⟨⟨rfl, rfl, ⟨_, rfl, rfl⟩, rfl, nofun, nofun, rfl⟩,
    ⟨rfl, rfl, rfl, rfl, rfl⟩, ⟨plan.durability, AList.lookup_insert _⟩, ?_, nofun, ?_⟩
  · rw [← data]
    exact AList.lookup_insert _
  · refine ⟨(change (runtime.backend.data name)).migrationProcessed, true, ?_⟩
    change (Memory.addMigration (runtime.backend.update name change) ⟨name, plan.durability⟩).data name = _
    rw [data, last, ← active]

end Entering

variable {options : StoreDescriptor}

section Ends
variable {checkpoint : Bytes}
variable {entries : List (Bytes × Bytes)} {position : Nat} {original entered runtime : Runtime} {walk : Walk}

/-- The state between two attempts. -/
structure Resting (store : Handle) (name : String) (base : StoreData) (checkpoint : Bytes) (staged : Values)
    (runtime : Runtime) : Prop where
  running : runtime.running = true
  valid : store ≠ 0
  handle : runtime.backend.storeHandles.lookup store = some ⟨name, .readWrite⟩
  room : runtime.backend.transactions.entries.length < runtime.backend.maxTransactions
  nextHandle : runtime.backend.nextHandle ≠ 0
  data : ∃ processed, runtime.backend.data name =
    { base with
      migrationValues := staged
      migrationCheckpoint := checkpoint
      migrationProcessed := processed
      migrationHandleActive := false }

/-- The end of the loop closes its cursor and its reader. -/
theorem leave_spec {item : Memory.Transaction} (reads : item.writing = false)
    (found : runtime.backend.transactions.lookup walk.read = some item) (runs : runtime.running = true)
    (cursor : walk.cursor ≠ 0) (read : walk.read ≠ 0) : runtime.leave walk = { runtime with
        backend :=
          { runtime.backend with
            cursors := (Memory.closeCursor runtime.backend walk.cursor).2.cursors
            transactions := runtime.backend.transactions.erase walk.read } } := by
  have closes : ∀ backend : Backend, (Memory.closeCursor backend walk.cursor).2 =
      { backend with cursors := (Memory.closeCursor backend walk.cursor).2.cursors } := by
    intro backend
    unfold Memory.closeCursor
    split <;> rfl
  have closed : runtime.closeCursor walk.cursor =
      { runtime with
        backend.cursors := (Memory.closeCursor runtime.backend walk.cursor).2.cursors } := by
    rw [closeCursor, giveUp, runs, if_neg (not_or.mpr ⟨cursor, by decide⟩)]
    rw [closes]
  rw [leave, closed, closeTransaction, giveUp]
  dsimp only
  rw [runs, if_neg (not_or.mpr ⟨read, by decide⟩), Memory.closeTransaction]
  dsimp only
  rw [found]
  dsimp only
  rw [reads, Backend.release, if_neg Bool.false_ne_true]
  rfl

theorem length_erase_insert {A : Type} (map : FiniteMap.Map Handle A) (key : Handle) (item : A) :
    ((map.insert key item).erase key).entries.length ≤ map.entries.length := by
  change (List.kerase key (⟨key, item⟩ :: List.kerase key map.entries)).length ≤ _
  have dropped : List.kerase key (⟨key, item⟩ :: List.kerase key map.entries) = List.kerase key map.entries :=
    List.kerase_cons_eq rfl
  rw [dropped]
  exact (List.kerase_sublist key map.entries).length_le

/-- A failed attempt leaves the staged entries to the next one. -/
theorem Looping.abandoned (looping : Looping entered name base entries position checkpoint staged runtime walk)
    (entry : Entered original entered walk) {walked : Walk} (migration : walked.migration = walk.migration)
    (read : walked.read = walk.read) (cursor : walked.cursor = walk.cursor)
    (running : original.running = true) (valid : store ≠ 0)
    (handle : original.backend.storeHandles.lookup store = some ⟨name, .readWrite⟩)
    (room : original.backend.transactions.entries.length < original.backend.maxTransactions) :
    Resting store name base checkpoint staged (runtime.abandon walked) := by
  obtain ⟨durability, found⟩ := looping.migration
  obtain ⟨processed, active, same⟩ := looping.data
  obtain ⟨item, reads, inserted⟩ := entry.transactions
  have closed : runtime.closeMigration walked.migration =
      { runtime with
        backend := Memory.removeMigration
          (runtime.backend.update name (Memory.deactivate ∘ Memory.deactivate)) walk.migration } := by
    rw [closeMigration, migration, Memory.abortMigration, found]
    dsimp only
    rw [Memory.closeMigration]
    have still : (runtime.backend.update name Memory.deactivate).migrations.lookup walk.migration =
        some ⟨name, durability⟩ := found
    rw [still]
    dsimp only
    rw [Backend.update_update]
  have left := @leave_spec (runtime.closeMigration walked.migration) walked item reads
    (by rw [closed, read]
        change runtime.backend.transactions.lookup walk.read = _
        rw [looping.surrounding.transactions, inserted, AList.lookup_insert])
    (by rw [closed]; exact (looping.surrounding.running.trans entry.running).trans running)
    (by rw [cursor]; exact looping.valid) (by rw [read]; exact entry.read)
  rw [abandon, left, closed]
  refine ⟨(looping.surrounding.running.trans entry.running).trans running, valid, ?_, ?_, ?_, processed, ?_⟩
  · exact (congrArg (AList.lookup store) (looping.surrounding.storeHandles.trans entry.storeHandles)).trans handle
  · change (runtime.backend.transactions.erase walked.read).entries.length < runtime.backend.maxTransactions
    rw [looping.surrounding.transactions, inserted, read, looping.surrounding.maxTransactions, entry.maxTransactions]
    exact Nat.lt_of_le_of_lt (length_erase_insert _ _ _) room
  · exact fun zero => entry.nextHandle (looping.surrounding.nextHandle.symm.trans zero)
  · change (runtime.backend.update name (Memory.deactivate ∘ Memory.deactivate)).data name = _
    rw [Backend.data_update, if_pos rfl, same]
    rfl

/-- The contents of the store after its migration. -/
def completed (base : StoreData) (staged : Values) : Memory.Contents :=
  (Memory.migrateData { base with migrationValues := staged }).contents

theorem commitMigration_spec {backend : Backend} {durability : Durability}
    (found : backend.migrations.lookup migration = some ⟨name, durability⟩)
    (current : (backend.data name).generation = (backend.data name).migrationSourceGeneration) :
    Memory.commitMigration backend migration =
      (.ok ⟨(backend.data name).generation + 1, durability⟩, backend.update name Memory.migrateData) ∧
    (Memory.closeMigration (backend.update name Memory.migrateData) migration).2.data name =
      Memory.deactivate (Memory.migrateData (backend.data name)) := by
  constructor
  · rw [Memory.commitMigration, found]
    dsimp only
    rw [if_neg (not_not.mpr current)]
  · have still : (backend.update name Memory.migrateData).migrations.lookup migration =
        some ⟨name, durability⟩ := found
    rw [Memory.closeMigration, still]
    change ((backend.update name Memory.migrateData).update name Memory.deactivate).data name = _
    rw [Backend.data_update, if_pos rfl, Backend.data_update, if_pos rfl]

/-- The migration is committed exactly when the store has not moved on. -/
theorem Looping.finished (looping : Looping entered name base entries position checkpoint staged runtime walk)
    (entry : Entered original entered walk) (running : original.running = true) (processed calls : Nat) :
    (base.generation = base.migrationSourceGeneration → ∃ info,
      (finish runtime { walk with processed := processed, calls := calls }).1 = .ok info ∧
      ((finish runtime { walk with processed := processed, calls := calls }).2.backend.data name).contents =
        completed base staged) ∧ (base.generation ≠ base.migrationSourceGeneration → ∃ error,
      (finish runtime { walk with processed := processed, calls := calls }).1 = .error error) := by
  obtain ⟨durability, found⟩ := looping.migration
  obtain ⟨before, active, same⟩ := looping.data
  obtain ⟨item, reads, inserted⟩ := entry.transactions
  have left := @leave_spec runtime { walk with processed := processed, calls := calls } item reads
    (by rw [looping.surrounding.transactions, inserted, AList.lookup_insert])
    ((looping.surrounding.running.trans entry.running).trans running) looping.valid entry.read
  obtain ⟨ended, spec⟩ : ∃ ended, runtime.leave { walk with processed := processed, calls := calls } =
      ⟨ended, runtime.running⟩ ∧ ended.migrations.lookup walk.migration = some ⟨name, durability⟩ ∧
      ended.data name = runtime.backend.data name := ⟨_, left, found, rfl⟩
  obtain ⟨left, found, kept⟩ := spec
  rw [finish, left]
  dsimp only
  constructor
  · intro current
    obtain ⟨commits, closes⟩ := commitMigration_spec found (by rw [kept, same]; exact current)
    rw [commits]
    refine ⟨_, rfl, ?_⟩
    change ((Memory.closeMigration (ended.update name Memory.migrateData) walk.migration).2.data name).contents = _
    rw [closes, kept, same]
    rfl
  · intro moved
    have moved : (ended.data name).generation ≠ (ended.data name).migrationSourceGeneration := by
      rw [kept, same]
      exact moved
    rw [Memory.commitMigration, found]
    dsimp only
    rw [if_pos moved]
    exact ⟨_, rfl⟩

/-- The application opens the store with the options that it used before. -/
structure Reopens (options : StoreDescriptor) (name : String) (base : StoreData) : Prop where
  complete : Memory.incompleteDescriptor options = false
  durability : ¬options.minimumDurability.level > Durability.buffered.level
  logicalName : options.logicalName = name
  access : options.access = .readWrite
  compatible : base.matches options = true

/-- A restart of the process keeps the staged entries. -/
theorem restart_resting (reopens : Reopens options name base)
    (pending : Pending plan base) {processed : Nat} {active : Bool} (same : runtime.backend.data name = { base with
        migrationValues := staged
        migrationCheckpoint := checkpoint
        migrationProcessed := processed
        migrationHandleActive := active }) (marked : active = true → Memory.migrating runtime.backend name = true)
    (positive : 0 < runtime.backend.maxTransactions) (next : runtime.backend.nextHandle ≠ 0) :
    ∃ store reopened, runtime.restart.openStore options = (.ok store, reopened) ∧
      Resting store name base checkpoint staged reopened := by
  have data : runtime.restart.backend.data name =
      { base with
        migrationValues := staged
        migrationCheckpoint := checkpoint
        migrationProcessed := processed
        migrationHandleActive := false } := by
    change (Memory.stop runtime.backend).data name = _
    rw [Memory.data_stop, same]
    dsimp only
    rw [pending.free, Bool.and_false]
    cases active with
    | false => rw [Bool.and_false]
    | true => rw [marked rfl, Bool.not_true, Bool.false_and]
  have present : runtime.restart.backend.stores.lookup name = some (runtime.restart.backend.data name) := by
    rw [Backend.data]
    cases stored : runtime.restart.backend.stores.lookup name with
    | none =>
        rw [Backend.data, stored] at data
        have missing := congrArg StoreData.migrationId data
        exact absurd missing.symm pending.started
    | some contents => rfl
  have opened : Memory.openStore runtime.restart.backend options =
      Memory.register runtime.restart.backend options := by
    rw [Memory.openStore, reopens.complete, if_neg Bool.false_ne_true, reopens.logicalName, present]
    have compatible : (runtime.restart.backend.data name).matches options = true := by
      rw [data]
      exact reopens.compatible
    dsimp only
    rw [compatible, if_pos rfl, if_neg reopens.durability]
    rfl
  refine ⟨runtime.restart.backend.nextHandle, ⟨(Memory.register runtime.restart.backend options).2, true⟩, ?_,
    rfl, ?_, ?_, ?_, ?_, ?_⟩
  · rw [openStore, reopens.complete, if_neg Bool.false_ne_true, opened]
    rfl
  · exact fun zero => next ((Memory.nextHandle_stop _).symm.trans zero)
  · have listed : (Memory.register runtime.restart.backend options).2.storeHandles.lookup
        runtime.restart.backend.nextHandle = some ⟨options.logicalName, options.access⟩ := AList.lookup_insert _
    rw [listed, reopens.logicalName, reopens.access]
  · change 0 < (Memory.stop runtime.backend).maxTransactions
    rwa [Memory.maxTransactions_stop]
  · exact Nat.succ_ne_zero _
  · exact ⟨processed, data⟩

end Ends

section Attempts
variable {checkpoint : Bytes} {staged last : Values}
variable {runtime entered : Runtime} {walk : Walk} {transform : Entries}

/-- The source entries of a store in the order of their keys. -/
def sources (base : StoreData) : List (Bytes × Bytes) := Memory.scan base.values []

theorem sources_ordered (base : StoreData) : (sources base).Pairwise fun first second => first.1 < second.1 := by
  rw [sources, Memory.scan_eq]
  exact (OrderedMap.pairwise_ascending base.values).filter _

theorem sources_named (named : Memory.Named base.values) : ∀ entry ∈ sources base, entry.1 ≠ [] :=
  fun entry listed => named entry.1 entry.2 (Memory.mem_scan listed)

/-- An attempt enters the loop. -/
structure Ready (plan : MigrationDescriptor) (store : Handle) (name : String) (base : StoreData)
    (checkpoint : Bytes) (staged : Values) (runtime entered : Runtime) (walk : Walk) : Prop where
  running : runtime.running = true
  valid : store ≠ 0
  handle : runtime.backend.storeHandles.lookup store = some ⟨name, .readWrite⟩
  room : runtime.backend.transactions.entries.length < runtime.backend.maxTransactions
  planned : invalidPlan store plan = false
  entering : runtime.enter store plan = (.ok walk, entered)
  entry : Entered runtime entered walk
  looping : Looping entered name base (sources base) 0 checkpoint staged entered walk
  start : walk.checkpoint = checkpoint

theorem beyond_start (start : Bytes) (entries : List (Bytes × Bytes)) : Beyond start entries 0 start :=
  fun _ _ due => skips_eq_false.mp due

theorem Ready.iterations (ready : Ready plan store name base checkpoint staged runtime entered walk) :
    iterations entered walk = (sources base).length + 1 := by
  rw [Runtime.iterations, ready.looping.cursor]
  rfl

theorem Ready.attempted (ready : Ready plan store name base checkpoint staged runtime entered walk)
    {apply : Transform} {stop : Option Nat} {position : Position} {applied : List (Bytes × Bytes)}
    (ran : loop apply (stop.getD ((sources base).length + 1)) entered walk = (position, applied)) :
    runtime.attempt store plan apply stop = conclude stop applied position := by
  rw [attempt, ready.planned, if_neg Bool.false_ne_true, ready.entering]
  dsimp only
  rw [ready.iterations, ran]

section Outcomes
variable (ready : Ready plan store name base checkpoint staged runtime entered walk)
  (named : Memory.Named base.values)
  (stages : Stages base transform staged (remaining checkpoint (sources base)) last)
include ready named stages

theorem Ready.completes (apply : Transform) (current : base.generation = base.migrationSourceGeneration)
    (agrees : ∀ index, index < (remaining checkpoint (sources base)).length → apply index = transform) :
    ∃ info, (runtime.migrate store plan apply).result = some (.ok info) ∧
      ((runtime.migrate store plan apply).runtime.backend.data name).contents = completed base last ∧
      (runtime.migrate store plan apply).applied = remaining checkpoint (sources base) := by
  have start := ready.start
  subst start
  obtain ⟨later, processed, calls, ran, after⟩ := loop_exhausted (sources_named named) (sources_ordered base)
    ready.looping (Nat.lt_succ_self _) (beyond_start _ _) stages
    (by rwa [ready.entry.calls, Nat.zero_add])
  obtain ⟨info, committed, contents⟩ := (after.finished ready.entry ready.running processed calls).1 current
  rw [migrate, ready.attempted ran]
  exact ⟨info, congrArg some committed, contents, rfl⟩

theorem Ready.fails {calls : Nat} (error : Error) (below : calls < (remaining checkpoint (sources base)).length) :
    (runtime.migrate store plan (failing transform calls error)).result = some (.error error) ∧
      (runtime.migrate store plan (failing transform calls error)).applied =
        (remaining checkpoint (sources base)).take calls ∧
      ∃ middle, Resting store name base (lastKey checkpoint ((remaining checkpoint (sources base)).take calls)) middle
        (runtime.migrate store plan (failing transform calls error)).runtime ∧
        Stages base transform middle ((remaining checkpoint (sources base)).drop calls) last := by
  have start := ready.start
  subst start
  obtain ⟨later, middle, walked, position, ran, migration, read, cursor, after, rest⟩ := loop_failed
    (sources_named named) (sources_ordered base) ready.looping ready.entry.calls (Nat.lt_succ_self _)
    (beyond_start _ _) stages below
  rw [migrate, ready.attempted ran]
  exact ⟨rfl, rfl, middle, after.abandoned ready.entry migration read cursor ready.running ready.valid
    ready.handle ready.room, rest⟩

/-- A process that stops leaves the entries of its iterations staged. -/
theorem Ready.stops (reopens : Reopens options name base) (pending : Pending plan base)
    (count : Nat) : (runtime.attempt store plan (fun _ => transform) (some count)).applied =
        remaining checkpoint ((sources base).take count) ∧
      ∃ middle other reopened,
        (runtime.attempt store plan (fun _ => transform) (some count)).runtime.restart.openStore options =
          (.ok other, reopened) ∧
        Resting other name base (lastKey checkpoint (remaining checkpoint ((sources base).take count))) middle
          reopened ∧ Stages base transform middle (remaining checkpoint ((sources base).drop count)) last := by
  have start := ready.start
  subst start
  have both : remaining walk.checkpoint (sources base) =
      remaining walk.checkpoint ((sources base).take count) ++
        remaining walk.checkpoint ((sources base).drop count) := by
    rw [remaining, remaining, remaining, ← List.filter_append, List.take_append_drop]
  rw [both] at stages
  obtain ⟨middle, front, back⟩ := stages.split
  obtain ⟨later, ended, position, ran, after⟩ : ∃ later ended position,
      (loop (fun _ => transform) count entered walk = (ended, remaining walk.checkpoint ((sources base).take count)) ∧
        conclude (some count) (remaining walk.checkpoint ((sources base).take count)) ended =
          ⟨none, later, remaining walk.checkpoint ((sources base).take count)⟩) ∧
      Looping entered name base (sources base) position
        (lastKey walk.checkpoint (remaining walk.checkpoint ((sources base).take count))) middle later walk := by
    rcases Nat.lt_or_ge (sources base).length count with beyond | within
    · have whole : (sources base).take count = sources base := List.take_of_length_le (Nat.le_of_lt beyond)
      rw [whole] at front ⊢
      obtain ⟨later, processed, calls, ran, after⟩ := loop_exhausted (sources_named named) (sources_ordered base)
        ready.looping beyond (beyond_start _ _) front fun _ _ => rfl
      exact ⟨later, _, _, ⟨ran, rfl⟩, after⟩
    · obtain ⟨later, processed, ran, after, _⟩ := loop_running (sources_named named) (sources_ordered base) count
        ready.looping (by rwa [Nat.zero_add]) (beyond_start _ _) front fun _ _ => rfl
      exact ⟨later, _, _, ⟨ran, rfl⟩, after⟩
  have left := @Ready.attempted _ _ _ _ _ _ _ _ _ ready _ (some count) _ _ ran.1
  rw [left, ran.2]
  obtain ⟨durability, found⟩ := after.migration
  obtain ⟨processed, active, same⟩ := after.data
  have marked : Memory.migrating later.backend name = true := by
    rw [Memory.migrating, List.contains_iff_mem, List.mem_map]
    exact ⟨⟨walk.migration, ⟨name, durability⟩⟩, AList.mem_lookup_iff.mp found, rfl⟩
  have positive : 0 < later.backend.maxTransactions := by
    rw [after.surrounding.maxTransactions, ready.entry.maxTransactions]
    exact Nat.lt_of_le_of_lt (Nat.zero_le _) ready.room
  obtain ⟨other, reopened, opened, resting⟩ := restart_resting reopens pending same (fun _ => marked) positive
    fun zero => ready.entry.nextHandle (after.surrounding.nextHandle.symm.trans zero)
  exact ⟨rfl, middle, other, reopened, opened, resting, back⟩

end Outcomes

variable (resting : Resting store name base checkpoint staged runtime)
include resting

/-- The next attempt enters the loop when the checkpoint fits. -/
theorem Resting.enters (pending : Pending plan base)
    (planned : invalidPlan store plan = false) (fits : checkpoint.length ≤ checkpointStorage) :
    ∃ entered walk, Ready plan store name base checkpoint staged runtime entered walk := by
  obtain ⟨processed, same⟩ := resting.data
  have complete : ¬(plan.migrationId = "" ∨ plan.targetSchemaId = "" ∨ plan.targetSchemaVersion = 0) := by
    rw [invalidPlan] at planned
    simp only [Bool.or_eq_false_iff, beq_eq_false_iff_ne] at planned
    tauto
  have resumes : (runtime.backend.data name).resumes plan = true := by
    rw [same]
    exact pending.resumes
  have begun : Memory.beginMigration runtime.backend store plan (some checkpointStorage) =
      (.ok (runtime.backend.nextHandle, ⟨base.migrationSourceGeneration, processed, true⟩, checkpoint),
        Memory.addMigration (runtime.backend.update name Memory.activate) ⟨name, plan.durability⟩) := by
    rw [Memory.beginMigration, if_neg complete, resting.handle]
    dsimp only
    rw [if_neg (not_not.mpr rfl), resumes, if_pos rfl, Memory.enterMigration, same]
    dsimp only
    have fits : ¬Buffer.capacity (some checkpointStorage) < checkpoint.length := Nat.not_lt.mpr fits
    rw [pending.free, if_neg (by simp), if_pos pending.started, if_neg fits]
  have room := resting.room
  have entering := (enter_begun begun resting.valid (Nat.succ_ne_zero _) resting.handle).1 room
  obtain ⟨entry, looping⟩ := @looping_prepared plan name checkpoint runtime Memory.activate
    ⟨base.migrationSourceGeneration, processed, true⟩ rfl _ rfl (by rw [same]; rfl)
  refine ⟨_, _, resting.running, resting.valid, resting.handle, room, planned, entering, entry, ?_, rfl⟩
  have entries : Memory.scan (Memory.activate (runtime.backend.data name)).values [] = sources base := by
    rw [same]
    rfl
  rw [entries] at looping
  refine ⟨looping.surrounding, looping.migration, looping.cursor, looping.valid, ?_⟩
  obtain ⟨count, active, reached⟩ := looping.data
  refine ⟨count, active, ?_⟩
  rw [reached, same]
  rfl

/-- A checkpoint that does not fit makes every attempt fail. -/
theorem Resting.refuses (pending : Pending plan base)
    (large : checkpointStorage < checkpoint.length) (apply : Transform) (stop : Option Nat) :
    ∃ error, runtime.attempt store plan apply stop = ⟨some (.error error), runtime, []⟩ := by
  obtain ⟨processed, same⟩ := resting.data
  unfold attempt
  split
  · exact ⟨_, rfl⟩
  · rename_i planned
    have complete : ¬(plan.migrationId = "" ∨ plan.targetSchemaId = "" ∨ plan.targetSchemaVersion = 0) := by
      rw [invalidPlan] at planned
      simp only [Bool.or_eq_true, beq_iff_eq] at planned
      tauto
    have resumes : (runtime.backend.data name).resumes plan = true := by
      rw [same]
      exact pending.resumes
    have begun : Memory.beginMigration runtime.backend store plan (some checkpointStorage) =
        (.error ⟨.bufferTooSmall, [checkpoint.length]⟩, runtime.backend) := by
      rw [Memory.beginMigration, if_neg complete, resting.handle]
      dsimp only
      rw [if_neg (not_not.mpr rfl), resumes, if_pos rfl, Memory.enterMigration, same]
      dsimp only
      have large : Buffer.capacity (some checkpointStorage) < checkpoint.length := large
      rw [pending.free, if_neg (by simp), if_pos pending.started, if_pos large]
    rw [enter, begun]
    exact ⟨_, rfl⟩

end Attempts

end OpenVehicle.Per.Runtime
