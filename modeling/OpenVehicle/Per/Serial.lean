/-
This file proves that the memory provider is serializable. A recorded run keeps the inputs of the successful
calls, and the contents of a store are compared with the replay of its committed mutations.
-/

import OpenVehicle.Per.MemoryRuns

namespace OpenVehicle.Per.Memory

/-- The contents that clients see, and those that a rollback restores. -/
structure Contents where
  values : Values := ∅
  blobs : Values := ∅
  schemaId : String := ""
  schemaVersion : Nat := 0
  previous : Option (Values × Values × String × Nat) := none

def StoreData.contents (store : StoreData) : Contents :=
  { values := store.values
    blobs := store.blobs
    schemaId := store.schemaId
    schemaVersion := store.schemaVersion
    previous := if store.rollbackAvailable then
      some (store.rollbackValues, store.rollbackBlobs, store.rollbackSchemaId, store.rollbackSchemaVersion)
      else none }

inductive Edit where
  | put (key value : Bytes)
  | erase (key : Bytes)
  deriving DecidableEq, Repr

def Edit.apply (values : Values) : Edit → Values
  | .put key value => values.insert key value
  | .erase key => values.erase key

/-- A mutation is described by the inputs of the calls that made it. -/
inductive Mutation where
  | transaction (edits : List Edit)
  | blob (key : Bytes) (chunks : List Bytes)
  | reset (entries : List (Bytes × Bytes))
  | migration (targets : List (Option (Bytes × Bytes))) (schemaId : String) (schemaVersion : Nat)
  | rollback
  deriving DecidableEq, Repr

def Mutation.apply (contents : Contents) : Mutation → Contents
  | .transaction edits => { contents with values := edits.foldl Edit.apply contents.values }
  | .blob key chunks => { contents with blobs := contents.blobs.insert key chunks.flatten }
  | .reset entries =>
      { contents with
        values := entries.foldl (fun values entry => values.insert entry.1 entry.2) ∅
        blobs := ∅ }
  | .migration targets schemaId schemaVersion =>
      { contents with
        values := targets.foldl stage ∅
        schemaId := schemaId
        schemaVersion := schemaVersion
        previous := some (contents.values, contents.blobs, contents.schemaId, contents.schemaVersion) }
  | .rollback =>
      match contents.previous with
      | none => contents
      | some (values, blobs, schemaId, schemaVersion) => ⟨values, blobs, schemaId, schemaVersion, none⟩

/-- Each mutation applies to the contents that the previous one left. -/
def replay (origin : Contents) (mutations : List Mutation) : Contents := mutations.foldl Mutation.apply origin

/-- The record of a run. The log of a store lists its mutations in the order of their commits. -/
structure History where
  origin : String → Contents := fun _ => {}
  log : String → List Mutation := fun _ => []
  edits : Handle → List Edit := fun _ => []
  chunks : Handle → List Bytes := fun _ => []
  begun : Handle → Contents := fun _ => {}
  targets : String → List (Option (Bytes × Bytes)) := fun _ => []
  plan : String → String × Nat := fun _ => ("", 0)

def History.current (history : History) (name : String) : Contents := replay (history.origin name) (history.log name)

def History.append (history : History) (name : String) (mutation : Mutation) : History :=
  { history with log := Function.update history.log name (history.log name ++ [mutation]) }

/-- The record of one successful call. The provider tells which store a handle belongs to. -/
def History.observe (history : History) (backend : Backend) : Call → Reply → History
  | .openStore descriptor, _ =>
      if (backend.stores.lookup descriptor.logicalName).isSome then history
      else
        { history with
          origin := Function.update history.origin descriptor.logicalName
            { schemaId := descriptor.schemaId, schemaVersion := descriptor.schemaVersion } }
  | .beginRead store, .begun handle _ | .beginWrite store _, .begun handle _
  | .beginWriteAt store _ _, .begun handle _ =>
      match backend.storeHandles.lookup store with
      | none => history
      | some item =>
          { history with
            begun := Function.update history.begun handle (history.current item.store)
            edits := Function.update history.edits handle [] }
  | .put handle key value, _ =>
      { history with edits := Function.update history.edits handle (history.edits handle ++ [.put key value]) }
  | .erase handle key, _ =>
      { history with edits := Function.update history.edits handle (history.edits handle ++ [.erase key]) }
  | .commit handle, _ =>
      match backend.transactions.lookup handle with
      | none => history
      | some transaction => history.append transaction.store (.transaction (history.edits handle))
  | .beginBlobReplace _ _ _ _, .begun handle _ =>
      { history with chunks := Function.update history.chunks handle [] }
  | .writeBlob handle _ input, _ =>
      { history with chunks := Function.update history.chunks handle (history.chunks handle ++ [input]) }
  | .commitBlob handle, _ =>
      match backend.blobs.lookup handle with
      | none => history
      | some blob => history.append blob.store (.blob blob.key (history.chunks handle))
  | .resetStore store entries _, _ =>
      match backend.storeHandles.lookup store with
      | none => history
      | some item => history.append item.store (.reset entries)
  | .beginMigration store descriptor _, .migration _ status _ =>
      match backend.storeHandles.lookup store with
      | none => history
      | some item =>
          if status.resumed then history
          else
            { history with
              targets := Function.update history.targets item.store []
              plan := Function.update history.plan item.store
                (descriptor.targetSchemaId, descriptor.targetSchemaVersion) }
  | .applyMigration handle _ target, _ =>
      match backend.migrations.lookup handle with
      | none => history
      | some operation =>
          { history with
            targets := Function.update history.targets operation.store
              (history.targets operation.store ++ [target]) }
  | .commitMigration handle, _ =>
      match backend.migrations.lookup handle with
      | none => history
      | some operation =>
          let name := operation.store
          { history.append name (.migration (history.targets name) (history.plan name).1 (history.plan name).2) with
            targets := Function.update history.targets name [] }
  | .rollbackStore store _, _ =>
      match backend.storeHandles.lookup store with
      | none => history
      | some item => history.append item.store .rollback
  | _, _ => history

def record (backend : Backend) (history : History) (call : Call) : Except Failure Reply → History
  | .error _ => history
  | .ok reply => history.observe backend call reply

/-- The provider with its record. -/
def recorded : Concurrency.System (Backend × History) Call :=
  ⟨fun call state =>
    let outcome := perform state.1 call
    some (outcome.2, record state.1 state.2 call outcome.1)⟩

variable {operation : MigrationOperation} {blob : BlobOperation}

section Invariant
variable {backend later : Backend} {history : History} {handle : Handle}

/-- The contents of every store are the replay of its log. A reader keeps the contents at its begin, and a
current writer holds the contents of its store with its own edits. -/
def serial (history : History) : Local where
  store := fun name store => store.contents = history.current name ∧
    store.generation = (history.log name).length ∧
    store.migrationValues = (history.targets name).foldl stage ∅ ∧
    (store.migrationId ≠ "" → (store.migrationTargetSchemaId, store.migrationTargetSchemaVersion) = history.plan name)
  transaction := fun handle store transaction =>
    (transaction.write = false → transaction.values = (history.begun handle).values) ∧
    (transaction.writing = true → transaction.baseGeneration ≤ store.generation ∧
      (transaction.baseGeneration = store.generation →
        transaction.values = (history.edits handle).foldl Edit.apply store.values))
  blob := fun handle _ blob => blob.writing = true → blob.written ≤ blob.value.length ∧
    blob.value.take blob.written = (history.chunks handle).flatten
  migration := fun _ store _ => store.migrationId ≠ "" ∨ store.migrationSourceGeneration < store.generation

theorem current_append (name : String) (mutation : Mutation) :
    (history.append name mutation).current name = mutation.apply (history.current name) := by
  change replay _ (Function.update history.log name _ name) = _
  rw [Function.update_self, replay, List.foldl_append]
  rfl

theorem log_append (name : String) (mutation : Mutation) :
    ((history.append name mutation).log name).length = (history.log name).length + 1 := by
  change (Function.update history.log name _ name).length = _
  rw [Function.update_self, List.length_append]
  rfl

theorem log_append_other {name other : String} (different : other ≠ name) (mutation : Mutation) :
    (history.append name mutation).log other = history.log other := Function.update_of_ne different _ _

/-- A mutation of a store is appended to its log. -/
theorem serial_mutation (name : String) (change : StoreData → StoreData) (mutation : Mutation)
    (holds : (serial history).Holds backend)
    (advances : (change (backend.data name)).generation = (backend.data name).generation + 1)
    (applied : (change (backend.data name)).contents = mutation.apply (backend.data name).contents)
    (staged : (change (backend.data name)).migrationValues = (backend.data name).migrationValues)
    (pending : (change (backend.data name)).migrationId = (backend.data name).migrationId)
    (schema : (change (backend.data name)).migrationTargetSchemaId = (backend.data name).migrationTargetSchemaId)
    (version : (change (backend.data name)).migrationTargetSchemaVersion =
      (backend.data name).migrationTargetSchemaVersion)
    (source : (change (backend.data name)).migrationSourceGeneration = (backend.data name).migrationSourceGeneration) :
    (serial (history.append name mutation)).Holds (backend.update name change) := by
  refine holds.change ?_ rfl rfl rfl ?_ ?_ (fun _ _ _ _ known => known) ?_
  · intro other data different known
    refine ⟨known.1.trans ?_, known.2.1.trans ?_, known.2.2⟩
    · rw [History.current, History.current, log_append_other different]
      rfl
    · rw [log_append_other different]
  · rintro ⟨contents, generation, values, plan⟩
    refine ⟨?_, ?_, staged.trans values, ?_⟩
    · rw [applied, current_append, contents]
    · rw [advances, log_append, generation]
    · rw [pending, schema, version]
      exact plan
  · intro handle transaction _ _ known
    refine ⟨known.1, fun writing => ?_⟩
    have below := (known.2 writing).1
    exact ⟨by omega, fun same => by omega⟩
  · intro handle operation _ _ known
    change _ ∨ _ at known ⊢
    rw [pending, source, advances]
    exact known.imp_right (by omega)

/-- A change of marks and counters is not recorded. -/
theorem serial_marks {name : String} {change : StoreData → StoreData} (holds : (serial history).Holds backend)
    (contents : (change (backend.data name)).contents = (backend.data name).contents)
    (generation : (change (backend.data name)).generation = (backend.data name).generation)
    (staged : (change (backend.data name)).migrationValues = (backend.data name).migrationValues)
    (pending : (change (backend.data name)).migrationId = (backend.data name).migrationId)
    (schema : (change (backend.data name)).migrationTargetSchemaId = (backend.data name).migrationTargetSchemaId)
    (version : (change (backend.data name)).migrationTargetSchemaVersion =
      (backend.data name).migrationTargetSchemaVersion)
    (source : (change (backend.data name)).migrationSourceGeneration = (backend.data name).migrationSourceGeneration) :
    (serial history).Holds (backend.update name change) := by
  have values : (change (backend.data name)).values = (backend.data name).values := congrArg Contents.values contents
  refine holds.change (fun _ _ _ known => known) rfl rfl rfl ?_ ?_ (fun _ _ _ _ known => known) ?_
  · intro known
    change _ ∧ _ ∧ _ ∧ _ at known ⊢
    rw [contents, generation, staged, pending, schema, version]
    exact known
  · intro handle transaction _ _ known
    change _ ∧ _ at known ⊢
    rw [generation, values]
    exact known
  · intro handle operation _ _ known
    change _ ∨ _ at known ⊢
    rw [pending, source, generation]
    exact known

theorem serial_release (holds : (serial history).Holds backend) (writing : Bool) (name : String) :
    (serial history).Holds (backend.release writing name) := by
  rw [Backend.release]
  split
  · exact serial_marks holds rfl rfl rfl rfl rfl rfl rfl
  · exact holds

variable {result : Except Failure Reply} {call : Call}

theorem record_passive (passive : effective call = false ∨ ∃ failure, result = .error failure) :
    record backend history call result = history := by
  rcases passive with passive | ⟨failure, rfl⟩
  · cases result with
    | error failure => rfl
    | ok reply => cases call <;> first | rfl | cases passive
  · rfl

/-- The staged values and the plan of a store change together with their record. -/
theorem serial_staging (name : String) (change : StoreData → StoreData)
    (targets : List (Option (Bytes × Bytes))) (plan : String × Nat) (holds : (serial history).Holds backend)
    (contents : (change (backend.data name)).contents = (backend.data name).contents)
    (generation : (change (backend.data name)).generation = (backend.data name).generation)
    (staged : (change (backend.data name)).migrationValues = targets.foldl stage ∅)
    (planned : (change (backend.data name)).migrationId ≠ "" → ((change (backend.data name)).migrationTargetSchemaId,
        (change (backend.data name)).migrationTargetSchemaVersion) = plan)
    (migration : ((backend.data name).migrationId ≠ "" ∨
        (backend.data name).migrationSourceGeneration < (backend.data name).generation) →
      (change (backend.data name)).migrationId ≠ "" ∨
        (change (backend.data name)).migrationSourceGeneration < (change (backend.data name)).generation) :
    (serial { history with
      targets := Function.update history.targets name targets
      plan := Function.update history.plan name plan }).Holds (backend.update name change) := by
  have values : (change (backend.data name)).values = (backend.data name).values := congrArg Contents.values contents
  refine holds.change ?_ rfl rfl rfl ?_ ?_ (fun _ _ _ _ known => known) fun _ _ _ _ => migration
  · intro other data different known
    refine ⟨known.1, known.2.1, known.2.2.1.trans ?_, fun pending => (known.2.2.2 pending).trans ?_⟩
    · exact congrArg _ (Function.update_of_ne different _ _).symm
    · exact (Function.update_of_ne different _ _).symm
  · intro known
    refine ⟨contents.trans known.1, generation.trans known.2.1, staged.trans ?_, fun pending =>
      (planned pending).trans ?_⟩
    · change _ = (Function.update history.targets name targets name).foldl stage ∅
      rw [Function.update_self]
    · change _ = Function.update history.plan name plan name
      rw [Function.update_self]
  · intro handle transaction _ _ known
    change _ ∧ _ at known ⊢
    rw [generation, values]
    exact known

/-- The entries of a reset are the replayed ones. -/
theorem replacement_foldl {store : StoreData} {entries : List (Bytes × Bytes)} {start values : Values}
    (accepted : replacement store entries start = some values) :
    entries.foldl (fun values entry => values.insert entry.1 entry.2) start = values := by
  induction entries generalizing start with
  | nil => exact Option.some.inj accepted
  | cons entry entries ih =>
      rw [replacement] at accepted
      split at accepted
      · cases accepted
      · exact ih accepted

section
variable (holds : (serial history).Holds backend)
include holds

theorem serial_created {descriptor : StoreDescriptor}
    (absent : backend.stores.lookup descriptor.logicalName = none) : (serial { history with
      origin := Function.update history.origin descriptor.logicalName
        { schemaId := descriptor.schemaId, schemaVersion := descriptor.schemaVersion } }).Holds
      (backend.update descriptor.logicalName fun _ => newStore descriptor) := by
  have empty : backend.data descriptor.logicalName = {} := by
    rw [Backend.data, absent]
    rfl
  have known := holds.stores descriptor.logicalName
  rw [empty] at known
  obtain ⟨_, generation, staged, plan⟩ := known
  have unlogged : history.log descriptor.logicalName = [] := List.eq_nil_of_length_eq_zero generation.symm
  refine holds.change ?_ rfl rfl rfl (fun _ => ⟨?_, generation, staged, fun pending => absurd rfl pending⟩)
    ?_ (fun _ _ _ _ known => known) ?_
  · intro other data different known
    refine ⟨known.1.trans ?_, known.2⟩
    change replay _ _ = replay (Function.update history.origin _ _ other) _
    rw [Function.update_of_ne different]
  · change _ = replay (Function.update history.origin _ _ descriptor.logicalName)
      (history.log descriptor.logicalName)
    rw [Function.update_self, unlogged]
    rfl
  · intro handle transaction _ _ known
    rw [empty] at known
    exact known
  · intro handle operation _ _ known
    rw [empty] at known
    rcases known with pending | older
    · exact absurd rfl pending
    · exact absurd older (Nat.lt_irrefl _)

theorem serial_migrated (found : backend.migrations.lookup handle = some operation)
    (current : (backend.data operation.store).generation = (backend.data operation.store).migrationSourceGeneration) :
    (serial { history.append operation.store (.migration (history.targets operation.store)
        (history.plan operation.store).1 (history.plan operation.store).2) with
      targets := Function.update history.targets operation.store [] }).Holds
      (backend.update operation.store migrateData) := by
  have pending : (backend.data operation.store).migrationId ≠ "" := by
    rcases holds.migrations handle operation found with pending | older
    · exact pending
    · omega
  obtain ⟨contents, generation, staged, plan⟩ := holds.stores operation.store
  refine holds.change ?_ rfl rfl rfl (fun _ => ⟨?_, ?_, ?_, fun pending => absurd rfl pending⟩) ?_
    (fun _ _ _ _ known => known) ?_
  · intro other data different known
    refine ⟨known.1.trans ?_, known.2.1.trans ?_, known.2.2.1.trans ?_, known.2.2.2⟩
    · change replay _ _ = replay _ ((history.append _ _).log other)
      rw [log_append_other different]
      rfl
    · change _ = ((history.append _ _).log other).length
      rw [log_append_other different]
    · change _ = (Function.update history.targets operation.store [] other).foldl stage ∅
      rw [Function.update_of_ne different]
  · change _ = (history.append operation.store _).current operation.store
    rw [current_append, ← contents, Mutation.apply, ← staged, ← plan pending]
    rfl
  · change _ = ((history.append operation.store _).log operation.store).length
    rw [log_append, ← generation]
    rfl
  · change _ = (Function.update history.targets operation.store [] operation.store).foldl stage ∅
    rw [Function.update_self]
    rfl
  · intro handle transaction _ _ known
    refine ⟨known.1, fun writing => ?_⟩
    have below := (known.2 writing).1
    change _ ≤ _ + 1 ∧ (_ = _ + 1 → _)
    exact ⟨by omega, fun same => by omega⟩
  · intro handle operation _ _ known
    exact .inr (Nat.lt_succ_of_le current.ge)

/-- An unfinished transaction stays a writer after an edit. -/
theorem serial_edited {transaction : Transaction}
    (found : backend.transactions.lookup handle = some transaction) (writing : transaction.writing = true)
    (edit : Edit) : (serial { history with
      edits := Function.update history.edits handle (history.edits handle ++ [edit]) }).Holds
      (setTransaction backend handle { transaction with values := edit.apply transaction.values }) := by
  obtain ⟨_, known⟩ := holds.transactions handle transaction found
  obtain ⟨below, same⟩ := known writing
  refine holds.replaceTransaction rfl rfl rfl (fun key different => ?_) ⟨fun reads => ?_, fun _ =>
    ⟨below, fun current => ?_⟩⟩
  · funext store other
    change (_ ∧ (_ → _ ∧ (_ → _ = (Function.update history.edits handle _ key).foldl _ _))) = _
    rw [Function.update_of_ne different]
    rfl
  · rw [Transaction.writing, show transaction.write = false from reads] at writing
    cases writing
  · change _ = (Function.update history.edits handle _ handle).foldl Edit.apply _
    rw [Function.update_self, List.foldl_append, ← same current]
    rfl

/-- A new transaction holds the contents at its begin. -/
theorem serial_begun {transaction : Transaction} (values : transaction.values = (backend.data transaction.store).values)
    (base : transaction.baseGeneration = (backend.data transaction.store).generation) : (serial { history with
      begun := Function.update history.begun backend.nextHandle (history.current transaction.store)
      edits := Function.update history.edits backend.nextHandle [] }).Holds (addTransaction backend transaction) := by
  refine holds.beginTransaction rfl rfl rfl (fun key different => ?_)
    ⟨fun _ => ?_, fun _ => ⟨base.le, fun _ => ?_⟩⟩
  · funext store other
    change ((_ → _ = (Function.update history.begun backend.nextHandle _ key).values) ∧
      (_ → _ ∧ (_ → _ = (Function.update history.edits backend.nextHandle _ key).foldl _ _))) = _
    rw [Function.update_of_ne different, Function.update_of_ne different]
    rfl
  · change _ = (Function.update history.begun backend.nextHandle _ backend.nextHandle).values
    rw [Function.update_self, values, ← (holds.stores transaction.store).1]
    rfl
  · change _ = (Function.update history.edits backend.nextHandle [] backend.nextHandle).foldl _ _
    rw [Function.update_self, values]
    rfl

/-- A finished transaction is no writer. -/
theorem serial_finished {transaction : Transaction} (found : backend.transactions.lookup handle = some transaction) :
    (serial history).Holds (setTransaction backend handle { transaction with finished := true }) := by
  refine holds.setTransaction ⟨(holds.transactions handle transaction found).1, fun active => ?_⟩
  rw [Transaction.writing, Bool.not_true, Bool.and_false] at active
  cases active

theorem serial_finishedBlob (handle : Handle) (blob : BlobOperation) :
    (serial history).Holds (setBlob backend handle { blob with finished := true }) := by
  refine holds.setBlob fun active => ?_
  rw [BlobOperation.writing, Bool.not_true, Bool.and_false] at active
  cases active

end

theorem chunks_other {key : Handle} (different : key ≠ handle) (list : List Bytes) :
    (serial { history with chunks := Function.update history.chunks handle list }).blob key =
      (serial history).blob key := by
  funext store blob
  change (_ → _ ∧ _ = (Function.update history.chunks handle list key).flatten) = _
  rw [Function.update_of_ne different]
  rfl

/-- The written part of a blob is what its writer has received. -/
theorem serial_wrote (holds : (serial history).Holds backend) {input : Bytes}
    (found : backend.blobs.lookup handle = some blob) (writing : blob.writing = true) : (serial { history with
      chunks := Function.update history.chunks handle (history.chunks handle ++ [input]) }).Holds
      (setBlob backend handle
        { blob with
          value := blob.value.take blob.written ++ input ++ blob.value.drop (blob.written + input.length)
          written := blob.written + input.length }) := by
  obtain ⟨below, received⟩ := holds.blobs handle blob found writing
  have front : (blob.value.take blob.written ++ input).length = blob.written + input.length := by
    rw [List.length_append, List.length_take, Nat.min_eq_left below]
  refine holds.replaceBlob rfl rfl rfl (fun _ different => chunks_other different _) fun _ => ⟨?_, ?_⟩
  · change _ ≤ (_ ++ _ ++ _ : Bytes).length
    rw [List.length_append, front]
    exact Nat.le_add_right _ _
  · change (_ ++ _ ++ _ : Bytes).take _ = (Function.update history.chunks handle _ handle).flatten
    rw [Function.update_self, ← front, List.take_left, List.flatten_append, received]
    simp

section Calls
variable {item : StoreHandle} {result : CommitResult} {durability : Durability} {call : Call}

theorem serial_begunWrite (holds : (serial history).Holds backend)
    (asked : opensWrite call handle durability) (found : backend.storeHandles.lookup handle = some item) :
    (serial (record backend history call (.ok (.begun backend.nextHandle (backend.data item.store).generation)))).Holds
      (addTransaction (backend.update item.store occupy)
        { store := item.store, values := (backend.data item.store).values,
          baseGeneration := (backend.data item.store).generation, durability := durability, write := true }) := by
  have occupied : (serial history).Holds (backend.update item.store occupy) :=
    serial_marks holds rfl rfl rfl rfl rfl rfl rfl
  have same : (backend.update item.store occupy).data item.store = occupy (backend.data item.store) := by
    rw [Backend.data_update, if_pos rfl]
  have begun := @serial_begun _ _ occupied
    { store := item.store, values := (backend.data item.store).values,
      baseGeneration := (backend.data item.store).generation, durability := durability, write := true }
    (by rw [same]; rfl) (by rw [same]; rfl)
  rcases asked with rfl | ⟨expected, rfl⟩
  · rw [record, History.observe, found]
    exact begun
  · rw [record, History.observe, found]
    exact begun

theorem serial_committed (holds : (serial history).Holds backend) {transaction : Transaction}
    (found : backend.transactions.lookup handle = some transaction) (writing : transaction.writing = true)
    (current : (backend.data transaction.store).generation = transaction.baseGeneration) :
    (serial (record backend history (.commit handle) (.ok (.committed result)))).Holds
      (setTransaction (backend.update transaction.store (commitData transaction.values)) handle
        { transaction with finished := true }) := by
  obtain ⟨_, known⟩ := holds.transactions handle transaction found
  obtain ⟨_, same⟩ := known writing
  rw [record, History.observe, found]
  have mutated := serial_mutation transaction.store (commitData transaction.values)
    (.transaction (history.edits handle)) holds rfl
    (by rw [Mutation.apply, same current.symm]; rfl) rfl rfl rfl rfl rfl
  exact serial_finished mutated found

/-- An aborted or refused call is not recorded. -/
theorem record_ended {result : Except Failure Reply}
    (ended : (call = .abort handle ∨ call = .abortBlob handle) ∨ ∃ failure, result = .error failure) :
    record backend history call result = history := by
  rcases ended with (rfl | rfl) | ⟨failure, rfl⟩
  · cases result <;> rfl
  · cases result <;> rfl
  · rfl

theorem serial_begunReplace (holds : (serial history).Holds backend) {key : Bytes} {size : Nat} :
    (serial (record backend history (.beginBlobReplace handle key size durability)
      (.ok (.begun backend.nextHandle (backend.data item.store).generation)))).Holds
      (addBlob (backend.update item.store occupy)
        { store := item.store, key := key, value := List.replicate size 0,
          generation := (backend.data item.store).generation, written := 0, durability := durability,
          write := true }) := by
  have occupied : (serial history).Holds (backend.update item.store occupy) :=
    serial_marks holds rfl rfl rfl rfl rfl rfl rfl
  refine occupied.beginBlob rfl rfl rfl (fun _ different => chunks_other different _)
    fun _ => ⟨Nat.zero_le _, ?_⟩
  change _ = (Function.update history.chunks backend.nextHandle [] backend.nextHandle).flatten
  rw [Function.update_self, List.take_zero]
  rfl

theorem serial_committedBlob (holds : (serial history).Holds backend)
    (found : backend.blobs.lookup handle = some blob) (writing : blob.writing = true)
    (complete : blob.written = blob.value.length) :
    (serial (record backend history (.commitBlob handle) (.ok (.committed result)))).Holds
      (setBlob (backend.update blob.store (commitBlobData blob.key blob.value)) handle
        { blob with finished := true }) := by
  obtain ⟨_, received⟩ := holds.blobs handle blob found writing
  rw [complete, List.take_length] at received
  rw [record, History.observe, found]
  have mutated := serial_mutation blob.store (commitBlobData blob.key blob.value)
    (.blob blob.key (history.chunks handle)) holds rfl
    (by rw [Mutation.apply, ← received]; rfl) rfl rfl rfl rfl rfl
  exact serial_finishedBlob mutated handle blob

section Migrations
variable {descriptor : MigrationDescriptor} {checkpoint : Buffer} {status : MigrationStatus}

variable (holds : (serial history).Holds backend)
include holds

theorem serial_startedMigration
    (found : backend.storeHandles.lookup handle = some item) (named : descriptor.migrationId ≠ "")
    (fresh : status.resumed = false) : (serial (record backend history (.beginMigration handle descriptor checkpoint)
      (.ok (.migration backend.nextHandle status [])))).Holds
      (addMigration (backend.update item.store (activate ∘ startMigration descriptor))
        ⟨item.store, descriptor.durability⟩) := by
  have started := serial_staging item.store (activate ∘ startMigration descriptor)
    [] (descriptor.targetSchemaId, descriptor.targetSchemaVersion) holds rfl rfl rfl
    (fun _ => rfl) fun _ => .inl named
  rw [record, History.observe, found]
  dsimp only
  rw [fresh, if_neg Bool.false_ne_true]
  refine started.addMigration (.inl ?_)
  rw [Backend.data_update, if_pos rfl]
  exact named

theorem serial_resumedMigration {last : Bytes} (found : backend.storeHandles.lookup handle = some item)
    (pending : (backend.data item.store).migrationId ≠ "") (again : status.resumed = true) :
    (serial (record backend history (.beginMigration handle descriptor checkpoint)
      (.ok (.migration backend.nextHandle status last)))).Holds
      (addMigration (backend.update item.store activate) ⟨item.store, descriptor.durability⟩) := by
  rw [record, History.observe, found]
  dsimp only
  rw [again, if_pos rfl]
  refine Local.Holds.addMigration (serial_marks holds rfl rfl rfl rfl rfl rfl rfl) (.inl ?_)
  rw [Backend.data_update, if_pos rfl]
  exact pending

theorem serial_applied {source : Bytes}
    {target : Option (Bytes × Bytes)} (found : backend.migrations.lookup handle = some operation) :
    (serial (record backend history (.applyMigration handle source target) (.ok .done))).Holds
      (backend.update operation.store
        (applyData source (stage (backend.data operation.store).migrationValues target))) := by
  have staged := serial_staging operation.store
    (applyData source (stage (backend.data operation.store).migrationValues target))
    (history.targets operation.store ++ [target]) (history.plan operation.store)
    holds rfl rfl
    (by rw [List.foldl_append, ← (holds.stores operation.store).2.2.1]; rfl)
    (holds.stores operation.store).2.2.2 id
  rw [Function.update_eq_self] at staged
  rw [record, History.observe, found]
  exact staged

end Migrations

end Calls

/-- Every call keeps the record true. -/
theorem serial_kept (holds : (serial history).Holds backend)
    (effect : Effect backend call result later) : (serial (record backend history call result)).Holds later := by
  cases effect with
  | quiet same passive =>
      rw [record_passive passive]
      exact holds.quiet same
  | created descriptor absent =>
      have made := (serial_created holds absent).register descriptor
      rw [record, History.observe, absent]
      exact made
  | attached descriptor present =>
      rw [record, History.observe, if_pos present]
      exact holds.register descriptor
  | stopped => exact holds.stop fun _ _ _ known => known
  | rejected store =>
      rw [record]
      exact serial_marks holds rfl rfl rfl rfl rfl rfl rfl
  | @begunRead _ item found =>
      rw [record, History.observe, found]
      exact @serial_begun _ _ holds
        { store := item.store, values := (backend.data item.store).values,
          baseGeneration := (backend.data item.store).generation, durability := .buffered, write := false } rfl rfl
  | begunWrite asked found => exact serial_begunWrite holds asked found
  | put found writing => exact serial_edited holds found writing (.put _ _)
  | erased found writing => exact serial_edited holds found writing (.erase _)
  | committed found writing current => exact serial_committed holds found writing current
  | @finished _ handle _ _ found asked =>
      rw [@record_ended _ _ handle _ _ (asked.imp .inl And.right)]
      exact serial_finished (serial_release holds _ _) (by rwa [Backend.transactions_release])
  | closedTransaction found => exact (serial_release holds _ _).removeTransaction _
  | openedBlob passive reads =>
      rw [record_passive (.inl passive)]
      refine holds.addBlob fun active => ?_
      rw [BlobOperation.writing, reads] at active
      cases active
  | begunReplace => exact serial_begunReplace holds
  | wroteBlob found writing room => exact serial_wrote holds found writing
  | committedBlob found writing complete => exact serial_committedBlob holds found writing complete
  | @finishedBlob _ handle blob _ found asked =>
      rw [@record_ended _ _ handle _ _ (asked.imp .inr And.right)]
      exact serial_finishedBlob (serial_release holds _ _) handle blob
  | closedBlob found => exact (serial_release holds _ _).removeBlob _
  | @reset _ item entries _ values _ found free settled accepted few small =>
      rw [record, History.observe, found]
      exact serial_mutation _ _ (.reset entries) holds rfl
        (by rw [Mutation.apply, replacement_foldl accepted]; rfl) rfl rfl rfl rfl rfl
  | startedMigration found named _ _ _ fresh => exact serial_startedMigration holds found named fresh
  | resumedMigration found _ pending again => exact serial_resumedMigration holds found pending again
  | applied found => exact serial_applied holds found
  | migrated found current =>
      rw [record, History.observe, found]
      exact serial_migrated holds found current
  | deactivated found => exact serial_marks holds rfl rfl rfl rfl rfl rfl rfl
  | closedMigration found =>
      exact (serial_marks holds rfl rfl rfl rfl rfl rfl rfl).removeMigration _
  | rolledBack found available =>
      rw [record, History.observe, found]
      refine serial_mutation _ _ .rollback holds rfl ?_ rfl rfl rfl rfl rfl
      rw [Mutation.apply, StoreData.contents, StoreData.contents, available]
      rfl

theorem serial_create (maxStores maxTransactions : Nat) : (serial {}).Holds (create maxStores maxTransactions) where
  stores := fun _ => ⟨rfl, rfl, rfl, fun pending => absurd rfl pending⟩
  transactions := fun _ _ found => by cases found
  blobs := fun _ _ found => by cases found
  migrations := fun _ _ found => by cases found

theorem get_eq_ok {transaction : Transaction} {key value : Bytes}
    (found : backend.transactions.lookup handle = some transaction) (active : transaction.finished = false)
    (named : key ≠ []) : get backend handle key (some value.length) = .ok value ↔
      transaction.values.lookup key = some value := by
  rw [get, if_neg named, found]
  dsimp only
  rw [active, if_neg Bool.false_ne_true]
  cases stored : transaction.values.lookup key with
  | none =>
      constructor
      · intro read
        cases read
      · intro same
        cases same
  | some content =>
      dsimp only
      rw [Option.all_some]
      constructor
      · intro read
        split at read
        · cases read
        · rw [Except.ok.inj read]
      · intro same
        rw [Option.some.inj same, if_neg (by simp)]

/-- In every run the mark of a store tells of its one writer, the contents of a store are the replay of
its committed mutations, its generation counts them, and a reader sees the contents at its begin. -/
theorem serializable (maxStores maxTransactions : Nat) (backend : Backend) (history : History)
    (reached : recorded.Reaches (fun _ _ => True) (create maxStores maxTransactions, {}) (backend, history)) :
    (∀ name, ((backend.data name).writerActive = true ↔ writers backend name = 1) ∧ writers backend name ≤ 1 ∧
      (backend.data name).contents = replay (history.origin name) (history.log name) ∧
      (backend.data name).generation = (history.log name).length) ∧
    ∀ handle transaction, backend.transactions.lookup handle = some transaction → transaction.write = false →
      transaction.values = (history.begun handle).values ∧ (transaction.finished = false → ∀ key value, key ≠ [] →
        (get backend handle key (some value.length) = .ok value ↔
          (history.begun handle).values.lookup key = some value)) := by
  have holds : Coherent backend ∧ (serial history).Holds backend := by
    let sound : Backend × History → Prop := fun state => Coherent state.1 ∧ (serial state.2).Holds state.1
    change sound (backend, history)
    apply reached.invariant ⟨coherent_create _ _, serial_create _ _⟩
    rintro ⟨state, past⟩ call later ⟨coherent, serial⟩ _ performed
    cases performed
    have effect := perform_effect state call
    exact ⟨coherent.kept effect, serial_kept serial effect⟩
  obtain ⟨coherent, serial⟩ := holds
  constructor
  · intro name
    obtain ⟨contents, generation, _⟩ := serial.stores name
    have counted := coherent.writers name
    refine ⟨?_, ?_, contents, generation⟩
    · rw [counted]
      cases (backend.data name).writerActive <;> simp
    · rw [counted]
      exact Bool.toNat_le _
  · intro handle transaction found reads
    have same := (serial.transactions handle transaction found).1 reads
    refine ⟨same, fun active key value named => ?_⟩
    rw [← same]
    exact get_eq_ok found active named

end Invariant

def lamps : StoreDescriptor where
  logicalName := "lamps"
  access := .readWrite
  minimumDurability := .buffered
  capacityBytes := 64
  maxEntries := 4
  maxKeySize := 8
  maxValueSize := 8
  maxBlobSize := 8
  schemaId := "lamps"
  schemaVersion := 1

/-- A reader begins before a writer commits, and a second writer is open at the end. -/
def lampsRun : List Call :=
  [.start, .openStore lamps, .beginWrite 1 .buffered, .put 2 [1] [10], .commit 2, .beginRead 1,
    .beginWriteAt 1 .buffered 1, .put 4 [1] [11], .commit 4, .beginBlobReplace 1 [9] 2 .buffered]

/-- The reader with the third handle is open, and the store has moved on. -/
def lampsState (state : Backend × History) : Bool :=
  (state.1.data "lamps").generation == 2 && (state.1.data "lamps").writerActive &&
    (state.1.transactions.lookup 3).any fun transaction => !transaction.write && !transaction.finished

/-- The lamps are written and read back. -/
theorem serializable_lamps : ∃ backend history, recorded.Reaches (fun _ _ => True) (create 4 4, {}) (backend, history) ∧
    lampsState (backend, history) = true ∧ writers backend "lamps" = 1 ∧
    (backend.data "lamps").contents = replay (history.origin "lamps") (history.log "lamps") ∧
    (get backend 3 [1] (some 1) = .ok [10] ↔ (history.begun 3).values.lookup [1] = some [10]) := by
  have executed : (recorded.run (fun _ _ => true) (lampsRun.map fun call _ => call) (create 4 4, {})).any
      lampsState = true := by decide +kernel
  obtain ⟨⟨backend, history⟩, reached, ended⟩ :=
    Concurrency.System.Reaches.exists_of_run _ (fun _ _ _ => trivial) _ _ executed
  obtain ⟨stores, readers⟩ := serializable 4 4 backend history reached
  obtain ⟨marked, _, contents, _⟩ := stores "lamps"
  have facts := ended
  rw [lampsState, Bool.and_eq_true, Bool.and_eq_true] at facts
  obtain ⟨⟨_, active⟩, reader⟩ := facts
  obtain ⟨transaction, found, mode⟩ := (Option.any_eq_true _ _).mp reader
  rw [Bool.and_eq_true, Bool.not_eq_true', Bool.not_eq_true'] at mode
  have seen := (readers 3 transaction found mode.1).2 mode.2 [1] [10] (by decide)
  exact ⟨backend, history, reached, ended, marked.mp active, contents, seen⟩

end OpenVehicle.Per.Memory
