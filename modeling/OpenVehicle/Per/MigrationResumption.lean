/-
This file proves that an interrupted migration ends as an uninterrupted one does, as long as every checkpoint
fits the storage of the runtime.
-/

import OpenVehicle.Per.MigrationAttempts

namespace OpenVehicle.Per.Runtime

open Memory (Backend StoreData)

section Resumption
variable {plan : MigrationDescriptor} {options : StoreDescriptor} {store : Handle} {name : String}
  {base : StoreData} {checkpoint : Bytes} {staged last : Values} {runtime entered : Runtime} {walk : Walk}
  {transform : Entries} {entries front back : List (Bytes × Bytes)}

/-- The keys that are due after an interruption are those that were due before and not yet applied. -/
theorem remaining_lastKey (ordered : entries.Pairwise fun first second => first.1 < second.1)
    (named : ∀ entry ∈ entries, entry.1 ≠ []) (split : remaining checkpoint entries = front ++ back) :
    remaining (lastKey checkpoint front) entries = back := by
  rcases List.eq_nil_or_concat front with rfl | ⟨init, final, rfl⟩
  · exact split
  · rw [List.concat_eq_append] at split ⊢
    have key : lastKey checkpoint (init ++ [final]) = final.1 := by rw [lastKey, List.foldl_append]; rfl
    have due : final ∈ remaining checkpoint entries := by simp [split]
    rw [remaining, List.mem_filter, Bool.not_eq_true', skips_eq_false] at due
    obtain ⟨listed, due⟩ := due
    have filled := named final listed
    have later : ∀ entry : Bytes × Bytes, (!skips final.1 entry.1) = decide (final.1 < entry.1) := by
      intro entry
      have present : (final.1 != []) = true := by simpa using filled
      rw [skips, present, Bool.true_and, Bool.not_not]
    have among : remaining final.1 entries =
        (remaining checkpoint entries).filter fun entry => decide (final.1 < entry.1) := by
      rw [remaining, remaining, List.filter_filter]
      refine List.filter_congr fun entry _ => ?_
      rw [later]
      by_cases below : final.1 < entry.1
      · have passed : skips checkpoint entry.1 = false :=
          skips_eq_false.mpr (due.imp_right fun earlier => lt_trans earlier below)
        rw [passed, Bool.not_false, Bool.and_true]
      · rw [decide_eq_false below, Bool.false_and]
    have sorted : (init ++ [final] ++ back).Pairwise fun first second => first.1 < second.1 := by
      rw [← split]
      exact ordered.filter _
    rw [key, among, split, List.filter_append]
    obtain ⟨before, _, across⟩ := List.pairwise_append.mp sorted
    have none : (init ++ [final]).filter (fun entry => decide (final.1 < entry.1)) = [] := by
      rw [List.filter_eq_nil_iff]
      intro entry inside
      rw [decide_eq_true_iff, not_lt]
      rcases List.mem_append.mp inside with early | same
      · exact le_of_lt ((List.pairwise_append.mp before).2.2 entry early final List.mem_cons_self)
      · rw [List.mem_singleton.mp same]
    have all : back.filter (fun entry => decide (final.1 < entry.1)) = back := by
      rw [List.filter_eq_self]
      intro entry inside
      rw [decide_eq_true_iff]
      exact across final (List.mem_append_right _ List.mem_cons_self) entry inside
    rw [none, all, List.nil_append]

/-- The checkpoint that an interrupted attempt leaves. An attempt may also complete. -/
def reached (entries : List (Bytes × Bytes)) (checkpoint : Bytes) : Interruption → Option Bytes
  | .transformFails calls _ =>
      if calls < (remaining checkpoint entries).length then
        some (lastKey checkpoint ((remaining checkpoint entries).take calls))
      else none
  | .processStops count => some (lastKey checkpoint (remaining checkpoint (entries.take count)))

/-- Every checkpoint that an interruption leaves fits the storage of the runtime. -/
def resumable (entries : List (Bytes × Bytes)) : Bytes → List Interruption → Bool
  | _, [] => true
  | checkpoint, interruption :: rest =>
      match reached entries checkpoint interruption with
      | none => true
      | some next => decide (next.length ≤ checkpointStorage) && resumable entries next rest

theorem invalidPlan_reopened {other : Handle} (planned : invalidPlan store plan = false) (valid : other ≠ 0) :
    invalidPlan other plan = false := by
  rw [invalidPlan] at planned ⊢
  simp only [Bool.or_eq_false_iff, beq_eq_false_iff_ne] at planned ⊢
  tauto

/-- A restart between two attempts leaves the store as it is. -/
theorem Resting.restarts (resting : Resting store name base checkpoint staged runtime)
    (reopens : Reopens options name base) (pending : Pending plan base) :
    ∃ other reopened, runtime.restart.openStore options = (.ok other, reopened) ∧
      Resting other name base checkpoint staged reopened := by
  obtain ⟨processed, same⟩ := resting.data
  exact restart_resting reopens pending same nofun (Nat.lt_of_le_of_lt (Nat.zero_le _) resting.room)
    resting.nextHandle

/-- The migration never completes after a checkpoint that does not fit. -/
theorem repeated_refused (reopens : Reopens options name base) (pending : Pending plan base)
    (large : checkpointStorage < checkpoint.length) (interruptions : List Interruption)
    (resting : Resting store name base checkpoint staged runtime) (info : MigrationInfo) :
    (repeated options plan transform interruptions runtime store).result ≠ some (.ok info) := by
  induction interruptions generalizing runtime store with
  | nil =>
      obtain ⟨error, refused⟩ := resting.refuses pending large (fun _ => transform) none
      rw [repeated, migrate, refused]
      intro same
      cases same
  | cons interruption rest ih =>
      cases interruption with
      | transformFails calls failure =>
          obtain ⟨error, refused⟩ := resting.refuses pending large (failing transform calls failure) none
          rw [repeated, migrate, refused]
          exact ih resting
      | processStops count =>
          obtain ⟨error, refused⟩ := resting.refuses pending large (fun _ => transform) (some count)
          obtain ⟨other, reopened, opened, again⟩ := resting.restarts reopens pending
          rw [repeated, refused]
          dsimp only
          rw [opened]
          exact ih again

/-- The repeated migration completes exactly when its checkpoints fit, and it applies the due entries once. -/
theorem repeated_ready (reopens : Reopens options name base) (pending : Pending plan base)
    (current : base.generation = base.migrationSourceGeneration) (named : Memory.Named base.values)
    (interruptions : List Interruption) (ready : Ready plan store name base checkpoint staged runtime entered walk)
    (stages : Stages base transform staged (remaining checkpoint (sources base)) last) :
    (resumable (sources base) checkpoint interruptions = true →
      (∃ info, (repeated options plan transform interruptions runtime store).result = some (.ok info)) ∧
      ((repeated options plan transform interruptions runtime store).runtime.backend.data name).contents =
        completed base last ∧ (repeated options plan transform interruptions runtime store).applied =
        remaining checkpoint (sources base)) ∧ (resumable (sources base) checkpoint interruptions = false →
      ∀ info, (repeated options plan transform interruptions runtime store).result ≠ some (.ok info)) := by
  induction interruptions generalizing runtime store checkpoint staged entered walk with
  | nil =>
      obtain ⟨info, completes⟩ := ready.completes named stages (fun _ => transform) current fun _ _ => rfl
      exact ⟨fun _ => ⟨⟨info, completes.1⟩, completes.2⟩, fun stuck => absurd stuck.symm Bool.false_ne_true⟩
  | cons interruption rest ih =>
      cases interruption with
      | transformFails calls failure =>
          rw [resumable, reached]
          split
          · rename_i next same
            rcases Nat.lt_or_ge calls (remaining checkpoint (sources base)).length with below | above
            · rw [if_pos below] at same
              cases same
            · obtain ⟨info, completes, contents, applied⟩ := ready.completes named stages
                (failing transform calls failure) current fun index small => by
                  funext source
                  rw [failing, if_neg (by omega)]
              rw [repeated, completes]
              exact ⟨fun _ => ⟨⟨info, completes⟩, contents, applied⟩,
                fun stuck => absurd stuck.symm Bool.false_ne_true⟩
          · rename_i next same
            rcases Nat.lt_or_ge calls (remaining checkpoint (sources base)).length with below | above
            · rw [if_pos below] at same
              cases same
              obtain ⟨failed, applied, middle, resting, back⟩ := ready.fails named stages failure below
              have due := remaining_lastKey (sources_ordered base) (sources_named named)
                (List.take_append_drop calls (remaining checkpoint (sources base))).symm
              rw [repeated, failed]
              dsimp only
              rcases Nat.lt_or_ge checkpointStorage
                (lastKey checkpoint ((remaining checkpoint (sources base)).take calls)).length with large | fits
              · rw [decide_eq_false (Nat.not_le.mpr large), Bool.false_and]
                exact ⟨fun done => absurd done Bool.false_ne_true, fun _ =>
                  repeated_refused reopens pending large rest resting⟩
              · rw [decide_eq_true fits, Bool.true_and]
                obtain ⟨entered, walk, again⟩ := resting.enters pending ready.planned fits
                obtain ⟨completes, refuses⟩ := ih again (by rwa [due])
                refine ⟨fun good => ?_, refuses⟩
                obtain ⟨info, contents, remainder⟩ := completes good
                refine ⟨info, contents, ?_⟩
                rw [applied, remainder, due, List.take_append_drop]
            · rw [if_neg (Nat.not_lt.mpr above)] at same
              cases same
      | processStops count =>
          rw [resumable, reached]
          dsimp only
          obtain ⟨applied, middle, other, reopened, opened, resting, back⟩ :=
            ready.stops named stages reopens pending count
          have both : remaining checkpoint (sources base) = remaining checkpoint ((sources base).take count) ++
              remaining checkpoint ((sources base).drop count) := by
            rw [remaining, remaining, remaining, ← List.filter_append, List.take_append_drop]
          have due := remaining_lastKey (sources_ordered base) (sources_named named) both
          rw [repeated]
          dsimp only
          rw [opened]
          dsimp only
          rcases Nat.lt_or_ge checkpointStorage
            (lastKey checkpoint (remaining checkpoint ((sources base).take count))).length with large | fits
          · rw [decide_eq_false (Nat.not_le.mpr large), Bool.false_and]
            exact ⟨fun done => absurd done Bool.false_ne_true, fun _ =>
              repeated_refused reopens pending large rest resting⟩
          · rw [decide_eq_true fits, Bool.true_and]
            obtain ⟨entered, walk, again⟩ := resting.enters pending
              (invalidPlan_reopened ready.planned resting.valid) fits
            obtain ⟨completes, refuses⟩ := ih again (by rwa [due])
            refine ⟨fun good => ?_, refuses⟩
            obtain ⟨info, contents, remainder⟩ := completes good
            refine ⟨info, contents, ?_⟩
            rw [applied, remainder, due, both]

/-- A store that is opened is compatible with its options. -/
theorem openStore_ok {before backend : Backend} (opened : Memory.openStore before options = (.ok store, backend)) :
    Memory.incompleteDescriptor options = false ∧ ¬options.minimumDurability.level > Durability.buffered.level ∧
      backend.storeHandles.lookup store = some ⟨options.logicalName, options.access⟩ ∧
      (backend.data options.logicalName).matches options = true := by
  unfold Memory.openStore at opened
  split at opened
  · cases opened
  rename_i complete
  split at opened
  · cases opened
  split at opened
  · cases opened
  rename_i durability
  have complete : Memory.incompleteDescriptor options = false := by simpa using complete
  split at opened
  · split at opened
    · cases opened
    · obtain ⟨handle, rfl⟩ := Prod.mk.inj opened
      obtain rfl := Except.ok.inj handle
      refine ⟨complete, durability, AList.lookup_insert _, ?_⟩
      have made : Backend.data (Memory.register { before with
          stores := before.stores.insert options.logicalName (Memory.newStore options) } options).2
          options.logicalName = Memory.newStore options := by
        change ((before.stores.insert options.logicalName (Memory.newStore options)).lookup
          options.logicalName).getD {} = _
        rw [AList.lookup_insert]
        rfl
      refine (congrArg (fun data => data.matches options) made).trans ?_
      simp [Memory.StoreData.matches, Memory.newStore]
  · rename_i data present
    split at opened
    · rename_i compatible
      obtain ⟨handle, rfl⟩ := Prod.mk.inj opened
      obtain rfl := Except.ok.inj handle
      refine ⟨complete, durability, AList.lookup_insert _, ?_⟩
      have known : (Memory.register before options).2.data options.logicalName = data := by
        change (before.stores.lookup options.logicalName).getD {} = data
        rw [present]
        rfl
      exact (congrArg (fun data => data.matches options) known).trans compatible
    · cases opened

/-- A migration that completes has entered its loop, reached the end and committed. -/
theorem migrate_ok {apply : Transform} {info : MigrationInfo}
    (completes : (runtime.migrate store plan apply).result = some (.ok info)) :
    invalidPlan store plan = false ∧ ∃ walk entered ended later applied,
      runtime.enter store plan = (.ok walk, entered) ∧
      loop apply (iterations entered walk) entered walk = (.exhausted ended later, applied) ∧
      (finish later ended).1 = .ok info := by
  unfold migrate attempt at completes
  split at completes
  · cases completes
  rename_i planned
  refine ⟨by simpa using planned, ?_⟩
  split at completes
  · cases completes
  · rename_i walk entered entering
    rw [Option.getD_none] at completes
    rcases ran : loop apply (iterations entered walk) entered walk with ⟨position, applied⟩
    rw [ran] at completes
    cases position with
    | running walk later => cases completes
    | failed error later => cases completes
    | exhausted ended later => exact ⟨walk, entered, ended, later, applied, entering, ran, Option.some.inj completes⟩

/-- A loop is entered with the data that the begin of the migration leaves. -/
theorem enter_ok (valid : store ≠ 0) (running : runtime.running = true) (planned : invalidPlan store plan = false)
    (entering : runtime.enter store plan = (.ok walk, entered)) :
    ∃ name base, runtime.backend.storeHandles.lookup store = some ⟨name, .readWrite⟩ ∧ Pending plan base ∧
      base.values = (runtime.backend.data name).values ∧
      walk.checkpoint = (if (runtime.backend.data name).migrationId = "" then []
        else (runtime.backend.data name).migrationCheckpoint) ∧
      (∀ options, base.matches options = (runtime.backend.data name).matches options) ∧
      Ready plan store name base walk.checkpoint base.migrationValues runtime entered walk := by
  rcases performed : Memory.beginMigration runtime.backend store plan (some checkpointStorage) with
    ⟨result, begun⟩
  cases result with
  | error failure =>
      rw [enter, performed] at entering
      cases entering
  | ok result =>
      obtain ⟨migration, status, checkpoint⟩ := result
      obtain ⟨name, change, handle, same, rfl, pending, values, active, last, initial, compatible⟩ :=
        beginMigration_ok performed
      have found : begun.storeHandles.lookup store = some ⟨name, .readWrite⟩ := by rw [same]; exact handle
      have positive : begun.nextHandle ≠ 0 := by rw [same]; exact Nat.succ_ne_zero _
      obtain ⟨enters, refuses⟩ := enter_begun performed valid positive found
      by_cases room : begun.transactions.entries.length < begun.maxTransactions
      · have entered := enters room
        rw [entering] at entered
        obtain ⟨walked, rfl⟩ := Prod.mk.inj entered
        obtain rfl := Except.ok.inj walked
        obtain ⟨entry, looping⟩ := looping_prepared active begun same last
        refine ⟨name, change (runtime.backend.data name), handle, pending, values, initial, compatible,
          running, valid, handle, ?_, planned, entering, entry, looping, rfl⟩
        rw [same] at room
        exact room
      · obtain ⟨error, later, refused⟩ := refuses room
        rw [entering] at refused
        cases refused

theorem sources_eq (base : StoreData) : sources base = OrderedMap.ascending base.values := by
  rw [sources, Memory.scan_eq]
  exact List.filter_eq_self.mpr fun _ _ => rfl

/-- The interrupted and repeated migration completes with the contents of an uninterrupted one, and it
applies every due entry once, exactly when each checkpoint that an interruption leaves fits the storage. -/
theorem migration_resumes (maxStores maxTransactions : Nat) (before backend : Backend)
    (reached : Memory.system.Reaches (fun _ _ => True) (Memory.create maxStores maxTransactions) before)
    (options : StoreDescriptor) (store : Handle)
    (opened : Memory.openStore before options = (.ok store, backend)) (plan : MigrationDescriptor)
    (transform : Entries) (interruptions : List Interruption) (info : MigrationInfo)
    (completes : ((Runtime.mk backend true).migrate store plan fun _ => transform).result = some (.ok info)) :
    let data := backend.data options.logicalName
    let start := if data.migrationId = "" then [] else data.migrationCheckpoint
    let entries := OrderedMap.ascending data.values
    let whole := (Runtime.mk backend true).migrate store plan fun _ => transform
    let final := repeated options plan transform interruptions (Runtime.mk backend true) store
    ((∃ info, final.result = some (.ok info)) ∧ (final.runtime.backend.data options.logicalName).contents =
        (whole.runtime.backend.data options.logicalName).contents ∧
      final.applied = remaining start entries) ↔ resumable entries start interruptions = true := by
  intro data start entries whole final
  have named : Memory.named.Holds before := by
    refine reached.invariant (Memory.named_create _ _) ?_
    intro state call later holds _ performed
    cases performed
    exact Memory.named_kept holds (Memory.perform_effect state call)
  have kept : Memory.named.Holds backend := by
    have holds := Memory.named_kept named (Memory.perform_effect before (.openStore options))
    rw [Memory.perform, opened] at holds
    exact holds
  obtain ⟨complete, durability, handle, compatible⟩ := openStore_ok opened
  obtain ⟨planned, walk, entered, ended, later, applied, entering, ran, committed⟩ := migrate_ok completes
  have valid : store ≠ 0 := by
    rintro rfl
    cases planned
  obtain ⟨name, base, known, pending, values, initial, limits, ready⟩ := enter_ok valid rfl planned entering
  obtain ⟨rfl, access⟩ : name = options.logicalName ∧ options.access = .readWrite := by
    rw [handle] at known
    injection known with same
    injection same with logical access
    exact ⟨logical.symm, access⟩
  have reopens : Reopens options options.logicalName base :=
    ⟨complete, durability, rfl, access, (limits options).trans compatible⟩
  have filled : Memory.Named base.values := by
    rw [values]
    exact (kept.stores options.logicalName).1
  have same : sources base = entries := by rw [sources_eq, values]
  rw [ready.iterations] at ran
  obtain ⟨last, stages⟩ := stages_of_exhausted (sources_named filled) (sources_ordered base) ready.looping
    (beyond_start _ _) ran
  rw [List.drop_zero] at stages
  have current : base.generation = base.migrationSourceGeneration := by
    obtain ⟨further, processed, calls, exhausted, after⟩ := loop_exhausted (sources_named filled)
      (sources_ordered base) ready.looping (Nat.lt_succ_self _) (beyond_start _ _) stages
      (fun index _ => rfl : ∀ index, index < _ → (fun _ => transform : Transform) index = transform)
    rw [ran] at exhausted
    obtain ⟨position, _⟩ := Prod.mk.inj exhausted
    obtain ⟨rfl, rfl⟩ := Position.exhausted.inj position
    by_contra moved
    obtain ⟨error, failed⟩ := (after.finished ready.entry rfl processed calls).2 moved
    rw [committed] at failed
    cases failed
  obtain ⟨finishes, refuses⟩ := repeated_ready reopens pending current filled interruptions ready stages
  obtain ⟨_, _, contents, _⟩ := ready.completes filled stages _ current (fun index _ => rfl :
    ∀ index, index < _ → (fun _ => transform : Transform) index = transform)
  rw [same, initial] at finishes refuses
  constructor
  · intro faithful
    obtain ⟨info, finished⟩ := faithful.1
    by_contra stuck
    exact refuses (by simpa using stuck) info finished
  · intro good
    obtain ⟨finished, left, list⟩ := finishes good
    exact ⟨finished, left.trans contents.symm, list⟩

end Resumption

def paths : StoreDescriptor where
  logicalName := "paths"
  access := .readWrite
  minimumDurability := .buffered
  capacityBytes := 10000
  maxEntries := 4
  maxKeySize := 5000
  maxValueSize := 8
  maxBlobSize := 8
  schemaId := "paths"
  schemaVersion := 1

def pathsUpgrade : MigrationDescriptor where
  migrationId := "upgrade"
  sourceSchemaId := "paths"
  sourceSchemaVersion := 1
  targetSchemaId := "paths"
  targetSchemaVersion := 2
  durability := .buffered
  allowDowngrade := false

/-- The transform extends every value. -/
def extend : Entries := fun entry => .ok (some (entry.1, entry.2 ++ [0]))

/-- The store gets two entries before the migration. -/
def filledRun (first second : Bytes) : List Call :=
  [.start, .openStore paths, .beginWrite 1 .buffered, .put 2 first [7], .put 2 second [8], .commit 2]

/-- The migration completes when it is not interrupted, and the repetition ends as expected. -/
def upgrades (expected : Handle → Backend → Bool) (before : Backend) : Bool :=
  match Memory.openStore before paths with
  | (.error _, _) => false
  | (.ok store, backend) =>
      (match ((Runtime.mk backend true).migrate store pathsUpgrade fun _ => extend).result with
        | some (.ok _) => true
        | _ => false) && expected store backend

theorem upgrades_ok {expected : Handle → Backend → Bool} {before : Backend}
    (holds : upgrades expected before = true) : ∃ store backend info,
      Memory.openStore before paths = (.ok store, backend) ∧
      ((Runtime.mk backend true).migrate store pathsUpgrade fun _ => extend).result = some (.ok info) ∧
      expected store backend = true := by
  unfold upgrades at holds
  split at holds
  · cases holds
  · rename_i store backend opened
    rw [Bool.and_eq_true] at holds
    obtain ⟨completes, ended⟩ := holds
    split at completes
    · rename_i info same
      exact ⟨store, backend, info, opened, same, ended⟩
    · cases completes

/-- A key of 4097 bytes does not fit the storage. -/
def longKey : Bytes := List.replicate 4097 1

/-- The process stops after the first entry, and the next attempt fails. -/
def strands (store : Handle) (backend : Backend) : Bool :=
  match (repeated paths pathsUpgrade extend [.processStops 1] (Runtime.mk backend true) store).result with
  | some (.error _) => true
  | _ => false

set_option maxRecDepth 20000 in
/-- The migration of the paths succeeds at once, and fails after a stop of the process. -/
theorem migration_strands : ∃ before store backend info error,
    Memory.system.Reaches (fun _ _ => True) (Memory.create 4 4) before ∧
      Memory.openStore before paths = (.ok store, backend) ∧
      ((Runtime.mk backend true).migrate store pathsUpgrade fun _ => extend).result = some (.ok info) ∧
      (repeated paths pathsUpgrade extend [.processStops 1] (Runtime.mk backend true) store).result =
        some (.error error) := by
  have executed : (Memory.system.run (fun _ _ => true) ((filledRun longKey [2]).map fun call _ => call)
      (Memory.create 4 4)).any (upgrades strands) = true := by decide +kernel
  obtain ⟨before, reached, holds⟩ := Concurrency.System.Reaches.exists_of_run _ (fun _ _ _ => trivial) _ _ executed
  obtain ⟨store, backend, info, opened, completes, stranded⟩ := upgrades_ok holds
  unfold strands at stranded
  split at stranded
  · rename_i error failed
    exact ⟨before, store, backend, info, error, reached, opened, completes, failed⟩
  · cases stranded

/-- The transform fails at the second entry, and the process stops in the next attempt. -/
def interruptions : List Interruption := [.transformFails 1 ⟨.backendFailure, "transform failed"⟩, .processStops 1]

def fits (_ : Handle) (backend : Backend) : Bool :=
  let data := backend.data paths.logicalName
  resumable (OrderedMap.ascending data.values)
    (if data.migrationId = "" then [] else data.migrationCheckpoint) interruptions

/-- The migration of the paths is interrupted and ends. -/
theorem migration_resumes_paths : ∃ before store backend,
    Memory.system.Reaches (fun _ _ => True) (Memory.create 4 4) before ∧
      Memory.openStore before paths = (.ok store, backend) ∧
      ∃ info, (repeated paths pathsUpgrade extend interruptions (Runtime.mk backend true) store).result =
        some (.ok info) := by
  have executed : (Memory.system.run (fun _ _ => true) ((filledRun [1] [2]).map fun call _ => call)
      (Memory.create 4 4)).any (upgrades fits) = true := by decide +kernel
  obtain ⟨before, reached, holds⟩ := Concurrency.System.Reaches.exists_of_run _ (fun _ _ _ => trivial) _ _ executed
  obtain ⟨store, backend, info, opened, completes, good⟩ := upgrades_ok holds
  exact ⟨before, store, backend, reached, opened, ((migration_resumes 4 4 before backend reached paths store opened
    pathsUpgrade extend interruptions info completes).mpr good).1⟩

end OpenVehicle.Per.Runtime
