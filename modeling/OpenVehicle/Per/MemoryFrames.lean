/-
This file shows what the calls on the memory provider leave alone: the empty key, the tables of other
objects, and a provider that is stopped.
-/

import OpenVehicle.Per.Session

namespace OpenVehicle.Per

open OrderedMap (All all_empty all_insert all_erase ascending)

namespace Memory

section Keys
variable {backend later : Backend}

/-- No key is empty. -/
def Named (values : Values) : Prop := All (fun key _ => key ≠ []) values

def named : Local where
  store := fun _ store => Named store.values ∧ Named store.rollbackValues ∧ Named store.migrationValues
  transaction := fun _ _ transaction => Named transaction.values
  blob := fun _ _ _ => True

theorem replacement_named {store : StoreData} {entries : List (Bytes × Bytes)} {start values : Values}
    (known : Named start) (accepted : replacement store entries start = some values) : Named values := by
  induction entries generalizing start with
  | nil =>
      cases accepted
      exact known
  | cons entry entries ih =>
      rw [replacement] at accepted
      split at accepted
      · cases accepted
      · rename_i good
        exact ih (all_insert known (not_or.mp good).1) accepted

theorem named_update {name : String} {change : StoreData → StoreData} (holds : named.Holds backend)
    (store : named.store name (backend.data name) → named.store name (change (backend.data name))) :
    named.Holds (backend.update name change) :=
  holds.change (fun _ _ _ known => known) rfl rfl rfl store (fun _ _ _ _ known => known)
    (fun _ _ _ _ known => known) fun _ _ _ _ known => known

theorem named_release (holds : named.Holds backend) (writing : Bool) (name : String) :
    named.Holds (backend.release writing name) := by
  rw [Backend.release]
  split
  · exact named_update holds id
  · exact holds

/-- The calls refuse an empty key. -/
theorem named_kept (holds : named.Holds backend) {call : Call} {result : Except Failure Reply}
    (effect : Effect backend call result later) : named.Holds later := by
  cases effect with
  | quiet same _ => exact holds.quiet same
  | created descriptor absent =>
      have made : named.Holds (backend.update descriptor.logicalName fun _ => newStore descriptor) :=
        named_update holds fun _ => ⟨all_empty, all_empty, all_empty⟩
      exact made.register descriptor
  | attached descriptor _ => exact holds.register descriptor
  | stopped => exact holds.stop fun _ _ _ known => known
  | @begunRead _ item found => exact holds.addTransaction (holds.stores item.store).1
  | @begunWrite _ _ item _ asked found free settled =>
      have occupied : named.Holds (backend.update item.store occupy) := named_update holds id
      exact occupied.addTransaction (holds.stores item.store).1
  | put found writing filled =>
      exact holds.setTransaction (all_insert (holds.transactions _ _ found) filled)
  | erased found writing => exact holds.setTransaction (all_erase (holds.transactions _ _ found))
  | @committed handle transaction _ found writing current =>
      have values := holds.transactions handle transaction found
      have changed : named.Holds (backend.update transaction.store (commitData transaction.values)) :=
        named_update holds fun known => ⟨values, known.2⟩
      exact changed.setTransaction values
  | @finished _ handle transaction _ found asked =>
      exact (named_release holds _ _).setTransaction (holds.transactions handle transaction found)
  | closedTransaction found => exact (named_release holds _ _).removeTransaction _
  | openedBlob passive reads => exact holds.addBlob trivial
  | @begunReplace _ item =>
      have occupied : named.Holds (backend.update item.store occupy) := named_update holds id
      exact occupied.addBlob trivial
  | wroteBlob found writing room => exact holds.setBlob trivial
  | committedBlob found writing complete current => exact (named_update holds id).setBlob trivial
  | finishedBlob found asked => exact (named_release holds _ _).setBlob trivial
  | closedBlob found => exact (named_release holds _ _).removeBlob _
  | reset found free settled accepted few small =>
      exact named_update holds fun known => ⟨replacement_named all_empty accepted, known.2⟩
  | @startedMigration _ item descriptor =>
      have started : named.Holds (backend.update item.store (activate ∘ startMigration descriptor)) :=
        named_update holds fun known => ⟨known.1, known.2.1, all_empty⟩
      exact started.addMigration trivial
  | @resumedMigration _ item =>
      have active : named.Holds (backend.update item.store activate) := named_update holds id
      exact active.addMigration trivial
  | @applied handle operation source target found filled valid =>
      refine named_update holds fun known => ⟨known.1, known.2.1, ?_⟩
      cases target with
      | none => exact known.2.2
      | some entry => exact all_insert known.2.2 (valid entry rfl).1
  | migrated found current => exact named_update holds fun known => ⟨known.2.2, known.1, all_empty⟩
  | closedMigration found => exact (named_update holds id).removeMigration _
  | rolledBack found available => exact named_update holds fun known => ⟨known.2.1, all_empty, known.2.2⟩
  | rejected | deactivated => exact named_update holds id

theorem named_create (maxStores maxTransactions : Nat) : named.Holds (create maxStores maxTransactions) where
  stores := fun _ => ⟨all_empty, all_empty, all_empty⟩
  transactions := fun _ _ found => by cases found
  blobs := fun _ _ _ => trivial
  migrations := fun _ _ _ => trivial

end Keys

section Frame
variable {backend : Backend} {later : Backend} {handle : Handle}

theorem cursors_release (writing : Bool) (store : String) :
    (backend.release writing store).cursors = backend.cursors := by
  cases writing <;> rfl

variable {call : Call}

/-- The calls of the other objects keep the transactions and the cursors. -/
theorem otherCall_frame (other : Session.otherCall call = true) :
    (perform backend call).2.transactions = backend.transactions ∧
      (perform backend call).2.cursors = backend.cursors := by
  cases call with
  | openStore descriptor =>
      simp only [perform, answer, openStore]
      repeat' split
      all_goals exact ⟨rfl, rfl⟩
  | closeStore store =>
      simp only [perform, answer, closeStore]
      split <;> exact ⟨rfl, rfl⟩
  | openBlobRead store key =>
      simp only [perform, answer, openBlobRead]
      repeat' split
      all_goals exact ⟨rfl, rfl⟩
  | beginBlobReplace store key size durability =>
      simp only [perform, answer, beginBlobReplace]
      repeat' split
      all_goals exact ⟨rfl, rfl⟩
  | writeBlob blob offset input =>
      simp only [perform, answer, writeBlob]
      repeat' split
      all_goals exact ⟨rfl, rfl⟩
  | commitBlob blob =>
      simp only [perform, answer, commitBlob]
      repeat' split
      all_goals exact ⟨rfl, rfl⟩
  | abortBlob blob =>
      simp only [perform, answer, abortBlob]
      split
      · exact ⟨rfl, rfl⟩
      · exact ⟨Backend.transactions_release _ _ _, cursors_release _ _⟩
  | closeBlob blob =>
      simp only [perform, answer, closeBlob]
      split
      · exact ⟨rfl, rfl⟩
      · exact ⟨Backend.transactions_release _ _ _, cursors_release _ _⟩
  | resetStore store entries durability =>
      simp only [perform, answer, resetStore]
      repeat' split
      all_goals exact ⟨rfl, rfl⟩
  | beginMigration store descriptor checkpoint =>
      simp only [perform, answer, beginMigration, enterMigration]
      repeat' split
      all_goals exact ⟨rfl, rfl⟩
  | applyMigration migration source target =>
      simp only [perform, answer, applyMigration]
      repeat' split
      all_goals exact ⟨rfl, rfl⟩
  | commitMigration migration =>
      simp only [perform, answer, commitMigration]
      repeat' split
      all_goals exact ⟨rfl, rfl⟩
  | abortMigration migration =>
      simp only [perform, answer, abortMigration]
      split <;> exact ⟨rfl, rfl⟩
  | closeMigration migration =>
      simp only [perform, answer, closeMigration]
      split <;> exact ⟨rfl, rfl⟩
  | rollbackStore store durability =>
      simp only [perform, answer, rollbackStore]
      repeat' split
      all_goals exact ⟨rfl, rfl⟩
  | readBlob | storeStatus => exact ⟨rfl, rfl⟩
  | _ => cases other

/-- A provider that is stopped has no objects. -/
structure Stopped (backend : Backend) : Prop where
  running : backend.running = false
  storeHandles : backend.storeHandles = ∅
  transactions : backend.transactions = ∅
  cursors : backend.cursors = ∅

theorem stopped_release (stopped : Stopped backend) (writing : Bool) (store : String) :
    Stopped (backend.release writing store) := by
  cases writing
  · exact stopped
  · exact ⟨stopped.running, stopped.storeHandles, stopped.transactions, stopped.cursors⟩

/-- A provider that is stopped gives out no objects for stores, transactions and cursors. -/
theorem stopped_kept (stopped : Stopped backend) (idle : call ≠ .start) : Stopped (perform backend call).2 := by
  have unknownStore : ∀ handle, backend.storeHandles.lookup handle = none := fun handle => by
    rw [stopped.storeHandles]
    exact AList.lookup_empty handle
  have unknownTransaction : ∀ handle, backend.transactions.lookup handle = none := fun handle => by
    rw [stopped.transactions]
    exact AList.lookup_empty handle
  have unknownCursor : ∀ handle, backend.cursors.lookup handle = none := fun handle => by
    rw [stopped.cursors]
    exact AList.lookup_empty handle
  cases call with
  | start => exact absurd rfl idle
  | openStore descriptor =>
      simp only [perform, answer, openStore, stopped.running, Bool.not_false, if_true]
      split <;> exact stopped
  | commitBlob blob =>
      simp only [perform, answer, commitBlob]
      repeat' split
      all_goals exact ⟨stopped.running, stopped.storeHandles, stopped.transactions, stopped.cursors⟩
  | writeBlob blob offset input =>
      simp only [perform, answer, writeBlob]
      repeat' split
      all_goals exact ⟨stopped.running, stopped.storeHandles, stopped.transactions, stopped.cursors⟩
  | abortBlob blob =>
      simp only [perform, answer, abortBlob]
      split
      · exact stopped
      · have freed := stopped_release stopped
        exact ⟨(freed _ _).running, (freed _ _).storeHandles, (freed _ _).transactions, (freed _ _).cursors⟩
  | closeBlob blob =>
      simp only [perform, answer, closeBlob]
      split
      · exact stopped
      · have freed := stopped_release stopped
        exact ⟨(freed _ _).running, (freed _ _).storeHandles, (freed _ _).transactions, (freed _ _).cursors⟩
  | applyMigration migration source target =>
      simp only [perform, answer, applyMigration]
      repeat' split
      all_goals exact ⟨stopped.running, stopped.storeHandles, stopped.transactions, stopped.cursors⟩
  | commitMigration migration =>
      simp only [perform, answer, commitMigration]
      repeat' split
      all_goals exact ⟨stopped.running, stopped.storeHandles, stopped.transactions, stopped.cursors⟩
  | abortMigration migration =>
      simp only [perform, answer, abortMigration]
      split <;> exact ⟨stopped.running, stopped.storeHandles, stopped.transactions, stopped.cursors⟩
  | closeMigration migration =>
      simp only [perform, answer, closeMigration]
      split <;> exact ⟨stopped.running, stopped.storeHandles, stopped.transactions, stopped.cursors⟩
  | stop => exact ⟨rfl, rfl, rfl, rfl⟩
  | put transaction key value =>
      simp only [perform, answer, put, unknownTransaction]
      split <;> exact stopped
  | erase transaction key =>
      simp only [perform, answer, erase, unknownTransaction]
      split <;> exact stopped
  | openBlobRead store key =>
      simp only [perform, answer, openBlobRead, unknownStore]
      split <;> exact stopped
  | beginBlobReplace store key size durability =>
      simp only [perform, answer, beginBlobReplace, unknownStore]
      split <;> exact stopped
  | beginMigration store descriptor checkpoint =>
      simp only [perform, answer, beginMigration, unknownStore]
      split <;> exact stopped
  | closeStore store => simpa only [perform, answer, closeStore, unknownStore, Backend.refuse] using stopped
  | beginRead store => simpa only [perform, answer, beginRead, beginTransaction, unknownStore, Backend.refuse]
      using stopped
  | beginWrite store durability =>
      simpa only [perform, answer, beginWrite, beginTransaction, unknownStore, Backend.refuse] using stopped
  | beginWriteAt store durability expected =>
      simpa only [perform, answer, beginWriteAt, beginTransaction, unknownStore, Backend.refuse] using stopped
  | commit transaction => simpa only [perform, answer, commit, unknownTransaction, Backend.refuse] using stopped
  | abort transaction => simpa only [perform, answer, abort, unknownTransaction, Backend.refuse] using stopped
  | closeTransaction transaction =>
      simpa only [perform, answer, closeTransaction, unknownTransaction, Backend.refuse] using stopped
  | openCursor transaction start => simpa only [perform, answer, openCursor, unknownTransaction, Backend.refuse]
      using stopped
  | nextCursor cursor key value => simpa only [perform, answer, nextCursor, unknownCursor, Backend.refuse] using stopped
  | closeCursor cursor => simpa only [perform, answer, closeCursor, unknownCursor, Backend.refuse] using stopped
  | resetStore store entries durability => simpa only [perform, answer, resetStore, unknownStore, Backend.refuse]
      using stopped
  | rollbackStore store durability => simpa only [perform, answer, rollbackStore, unknownStore, Backend.refuse]
      using stopped
  | incomplete | get | readBlob | storeStatus => exact stopped

/-- A call that fails at its checks keeps the tables of the objects. -/
def Idle (backend later : Backend) : Prop := later.transactions = backend.transactions ∧ later.cursors = backend.cursors

theorem beginTransaction_spec (store : Handle) (durability : Durability) (write : Bool) (expected : Option Nat)
    {result : Except Failure (Handle × Nat)}
    (begun : beginTransaction backend store durability write expected = (result, later)) :
    match result with
    | .error _ => Idle backend later
    | .ok (handle, _) => later.cursors = backend.cursors ∧ ∃ item transaction,
        backend.storeHandles.lookup store = some item ∧ transaction.write = write ∧
        transaction.values = (backend.data item.store).values ∧ transaction.finished = false ∧
        later.transactions = backend.transactions.insert handle transaction := by
  unfold beginTransaction at begun
  dsimp only at begun
  repeat' split at begun
  all_goals obtain ⟨rfl, rfl⟩ := Prod.mk.inj begun
  case h_2.isFalse.isFalse.isFalse.isFalse.isFalse.isFalse.isTrue => exact ⟨rfl, _, _, ‹_›, rfl, rfl, rfl, rfl⟩
  case h_2.isFalse.isFalse.isFalse.isFalse.isFalse.isFalse.isFalse => exact ⟨rfl, _, _, ‹_›, rfl, rfl, rfl, rfl⟩
  all_goals exact ⟨rfl, rfl⟩

/-- A call on one transaction keeps the others and the cursors. -/
def Only (handle : Handle) (backend later : Backend) : Prop :=
  later.cursors = backend.cursors ∧
    ∀ other, other ≠ handle → later.transactions.lookup other = backend.transactions.lookup other

variable {changed : Backend}

theorem only_set (handle : Handle) (transaction : Transaction) (idle : Idle backend changed) :
    Only handle backend (setTransaction changed handle transaction) := by
  refine ⟨idle.2, fun other different => ?_⟩
  change (changed.transactions.insert handle transaction).lookup other = _
  rw [AList.lookup_insert_ne different, idle.1]

theorem idle_release (writing : Bool) (store : String) : Idle backend (backend.release writing store) :=
  ⟨Backend.transactions_release _ _ _, cursors_release _ _⟩

theorem only_remove (handle : Handle) (idle : Idle backend changed) :
    Only handle backend (removeTransaction changed handle) := by
  refine ⟨idle.2, fun other different => ?_⟩
  change (changed.transactions.erase handle).lookup other = _
  rw [AList.lookup_erase_ne different, idle.1]

theorem Only.trans {between : Backend} (first : Only handle backend between) (second : Only handle between later) :
    Only handle backend later :=
  ⟨second.1.trans first.1, fun other different => (second.2 other different).trans (first.2 other different)⟩

theorem only_refl (handle : Handle) : Only handle backend backend := ⟨rfl, fun _ _ => rfl⟩

theorem put_spec {key value : Bytes} {result : Except Failure Unit}
    (performed : put backend handle key value = (result, later)) :
    match result with
    | .error _ => Idle backend later
    | .ok _ => ∃ transaction, backend.transactions.lookup handle = some transaction ∧
        later = setTransaction backend handle { transaction with values := transaction.values.insert key value } := by
  unfold put at performed
  dsimp only at performed
  repeat' split at performed
  all_goals obtain ⟨rfl, rfl⟩ := Prod.mk.inj performed
  case h_2.isFalse.isFalse.isFalse => exact ⟨_, ‹_›, rfl⟩
  all_goals exact ⟨rfl, rfl⟩

theorem erase_spec {key : Bytes} {result : Except Failure Bool}
    (performed : erase backend handle key = (result, later)) :
    match result with
    | .error _ => Idle backend later
    | .ok _ => ∃ transaction, backend.transactions.lookup handle = some transaction ∧
        later = setTransaction backend handle { transaction with values := transaction.values.erase key } := by
  unfold erase at performed
  repeat' split at performed
  all_goals obtain ⟨rfl, rfl⟩ := Prod.mk.inj performed
  case h_2.isFalse => exact ⟨_, ‹_›, rfl⟩
  all_goals exact ⟨rfl, rfl⟩

variable {transaction : Transaction}

/-- A commit of an active writer ends it, also when it fails. -/
theorem commit_spec (found : backend.transactions.lookup handle = some transaction)
    (write : transaction.write = true) {result : Except Failure CommitResult}
    (performed : commit backend handle = (result, later)) :
    later.transactions.lookup handle = some { transaction with finished := true } := by
  unfold commit at performed
  rw [found] at performed
  dsimp only at performed
  split at performed
  · rename_i idle
    obtain ⟨rfl, rfl⟩ := Prod.mk.inj performed
    have finished : transaction.finished = true := by
      rw [Transaction.writing, write, Bool.true_and, Bool.not_not] at idle
      exact idle
    have same : ({ transaction with finished := true } : Transaction) = transaction := by
      rw [← finished]
    rw [same]
    exact found
  · split at performed
    all_goals
      obtain ⟨rfl, rfl⟩ := Prod.mk.inj performed
      exact AList.lookup_insert _

theorem commit_only (handle : Handle) : Only handle backend (commit backend handle).2 := by
  unfold commit
  split
  · exact only_refl handle
  · dsimp only
    repeat' split
    · exact only_refl handle
    · exact only_set _ _ (idle_release _ _)
    · exact only_set _ _ ⟨rfl, rfl⟩

theorem abort_only (handle : Handle) : Only handle backend (abort backend handle).2 := by
  unfold abort
  split
  · exact only_refl handle
  · exact only_set _ _ (idle_release _ _)

theorem closeTransaction_only (handle : Handle) : Only handle backend (closeTransaction backend handle).2 := by
  unfold closeTransaction
  split
  · exact only_refl handle
  · exact only_remove _ (idle_release _ _)

theorem scan_eq (values : Values) (start : Bytes) : scan values start =
    (ascending values).filter fun entry => start.isPrefixOf entry.1 := by
  have found := @OrderedMap.scan_eq_filter _ _ _ start _ (OrderedMap.pairwise_ascending values)
  rw [scan]
  convert found

variable {start : Bytes}

theorem mem_scan {values : Values} {entry : Bytes × Bytes} (listed : entry ∈ scan values start) :
    values.lookup entry.1 = some entry.2 := by
  rw [scan_eq, List.mem_filter] at listed
  convert (OrderedMap.mem_ascending values entry).mp listed.1

theorem openCursor_spec (found : backend.transactions.lookup handle = some transaction) {result : Except Failure Handle}
    (performed : openCursor backend handle start = (result, later)) : later.transactions = backend.transactions ∧
    match result with
    | .error _ => later.cursors = backend.cursors
    | .ok cursor => later.cursors = backend.cursors.insert cursor { entries := scan transaction.values start } := by
  unfold openCursor at performed
  rw [found] at performed
  dsimp only at performed
  split at performed
  all_goals
    obtain ⟨rfl, rfl⟩ := Prod.mk.inj performed
    exact ⟨rfl, rfl⟩

theorem openCursor_missing (start : Bytes) (missing : backend.transactions.lookup handle = none) :
    openCursor backend handle start = (.error ⟨.invalidState, []⟩, backend) := by
  rw [openCursor, missing]
  rfl

theorem closeCursor_spec (handle : Handle) :
    (closeCursor backend handle).2.transactions = backend.transactions ∧ ∀ other, other ≠ handle →
      (closeCursor backend handle).2.cursors.lookup other = backend.cursors.lookup other := by
  unfold closeCursor
  split
  · exact ⟨rfl, fun _ _ => rfl⟩
  · exact ⟨rfl, fun _ different => AList.lookup_erase_ne different⟩

end Frame

end Memory

end OpenVehicle.Per
