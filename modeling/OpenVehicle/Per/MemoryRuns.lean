/-
This file gives the rules for the invariants of the memory provider. An invariant speaks about each store
and about each open operation together with its store.
-/

import OpenVehicle.Per.MemoryEffects

namespace OpenVehicle.Per.Memory

open FiniteMap (tally tally_found tally_added tally_replaced)

variable {A : Type}

section Stopping
variable (backend : Backend) (name : String)

theorem data_releaseAll (writing : A → Bool) (store : A → String) (list : List A) :
    (backend.releaseAll writing store list).data name =
      Backend.freed (list.any fun item => writing item && store item == name) (backend.data name) := by
  induction list generalizing backend with
  | nil => rfl
  | cons item list ih =>
      change ((backend.release (writing item) (store item)).releaseAll writing store list).data name = _
      rw [ih, Backend.data_release, List.any_cons]
      by_cases same : name = store item
      · rw [if_pos same, same]
        simp [Backend.freed, Bool.and_assoc, Bool.and_left_comm]
      · have other : (store item == name) = false := by simpa using Ne.symm same
        rw [if_neg same, other, Bool.and_false, Bool.false_or]

/-- A field that no update of a store changes. -/
def Unaffected {B : Type} (field : Backend → B) : Prop :=
  ∀ backend store change, field (Backend.update backend store change) = field backend

theorem Unaffected.releaseAll {A B : Type} {field : Backend → B} (kept : Unaffected field) (writing : A → Bool)
    (store : A → String) (list : List A) : field (backend.releaseAll writing store list) = field backend := by
  induction list generalizing backend with
  | nil => rfl
  | cons item list ih =>
      change field ((backend.release (writing item) (store item)).releaseAll writing store list) = _
      rw [ih, Backend.release]
      split
      · exact kept _ _ _
      · rfl

theorem data_deactivateAll (list : List String) : (backend.deactivateAll list).data name = { backend.data name with
      migrationHandleActive := !list.contains name && (backend.data name).migrationHandleActive } := by
  induction list generalizing backend with
  | nil => rfl
  | cons store list ih =>
      change ((backend.update store deactivate).deactivateAll list).data name = _
      rw [ih, Backend.data_update, List.contains_cons]
      by_cases same : name = store
      · rw [if_pos same, same]
        simp [deactivate]
      · have other : (name == store) = false := by simpa using same
        rw [if_neg same, other, Bool.false_or]

theorem Unaffected.deactivateAll {B : Type} {field : Backend → B} (kept : Unaffected field)
    (list : List String) : field (backend.deactivateAll list) = field backend := by
  induction list generalizing backend with
  | nil => rfl
  | cons store list ih => exact (ih _).trans (kept _ _ _)

/-- The unfinished writers of a store are counted over both kinds. -/
def writers : Nat :=
  tally (fun _ transaction => transaction.writing && transaction.store == name) backend.transactions +
    tally (fun _ blob => blob.writing && blob.store == name) backend.blobs

/-- A migration handle of the store is open. -/
def migrating : Bool := (backend.migrations.entries.map (·.2.store)).contains name

theorem any_eq_decide_tally {Key Value : Type} (test : Key → Value → Bool) (map : FiniteMap.Map Key Value) :
    (map.entries.any fun entry => test entry.1 entry.2) = decide (0 < tally test map) := by
  rw [Bool.eq_iff_iff, List.any_eq_true, decide_eq_true_iff]
  exact List.countP_pos_iff.symm

/-- A stop clears the marks of the operations that it gives up. -/
theorem data_stop : (stop backend).data name = { backend.data name with
      writerActive := decide (writers backend name = 0) && (backend.data name).writerActive
      migrationHandleActive := !migrating backend name && (backend.data name).migrationHandleActive } := by
  change (((backend.releaseAll _ _ backend.transactions.entries).releaseAll _ _
    backend.blobs.entries).deactivateAll _).data name = _
  rw [data_deactivateAll, data_releaseAll, data_releaseAll]
  have first := any_eq_decide_tally (fun (_ : Handle) (transaction : Transaction) =>
    transaction.writing && transaction.store == name) backend.transactions
  have second := any_eq_decide_tally (fun (_ : Handle) (blob : BlobOperation) =>
    blob.writing && blob.store == name) backend.blobs
  have idle : decide (writers backend name = 0) =
      ((!backend.blobs.entries.any fun entry => entry.2.writing && entry.2.store == name) &&
        !backend.transactions.entries.any fun entry => entry.2.writing && entry.2.store == name) := by
    rw [first, second, Bool.eq_iff_iff]
    simp [writers, Nat.add_eq_zero_iff, and_comm]
  rw [idle, Bool.and_assoc]
  rfl

theorem nextHandle_stop : (stop backend).nextHandle = backend.nextHandle := by
  have kept : Unaffected Backend.nextHandle := fun _ _ _ => rfl
  exact (kept.deactivateAll _ _).trans ((kept.releaseAll _ _ _ _).trans (kept.releaseAll _ _ _ _))

theorem maxTransactions_stop : (stop backend).maxTransactions = backend.maxTransactions := by
  have kept : Unaffected Backend.maxTransactions := fun _ _ _ => rfl
  exact (kept.deactivateAll _ _).trans ((kept.releaseAll _ _ _ _).trans (kept.releaseAll _ _ _ _))

end Stopping

variable {item other : A}

section Fresh
variable {map : FiniteMap.Map Nat A} {next key : Nat}

/-- The map has no entry at or above the next handle. -/
def Fresh (next : Nat) (map : FiniteMap.Map Nat A) : Prop := ∀ handle, next ≤ handle → map.lookup handle = none

section
variable (fresh : Fresh next map)
include fresh

theorem Fresh.mono {later : Nat} (grown : next ≤ later) : Fresh later map :=
  fun handle above => fresh handle (Nat.le_trans grown above)

theorem Fresh.insert : Fresh (next + 1) (map.insert next item) := by
  intro handle above
  have different : handle ≠ next := by omega
  rw [AList.lookup_insert_ne different]
  exact fresh handle (by omega)

theorem Fresh.replace (found : map.lookup key = some other) : Fresh next (map.insert key item) := by
  intro handle above
  have different : handle ≠ key := by
    intro same
    rw [← same, fresh handle above] at found
    cases found
  rw [AList.lookup_insert_ne different]
  exact fresh handle above

theorem Fresh.erase : Fresh next (map.erase key) := by
  intro handle above
  by_cases same : handle = key
  · rw [same, AList.lookup_erase]
  · rw [AList.lookup_erase_ne same]
    exact fresh handle above

end

theorem fresh_empty : Fresh next (∅ : FiniteMap.Map Nat A) := fun handle _ => AList.lookup_empty handle

end Fresh

variable {backend later : Backend} {result : Except Failure Reply} {call : Call}

/-- No handle is given out twice. -/
theorem Effect.nextHandle_le (effect : Effect backend call result later) : backend.nextHandle ≤ later.nextHandle := by
  cases effect with
  | quiet same _ => exact same.nextHandle
  | stopped => exact Nat.le_of_eq (nextHandle_stop backend).symm
  | finished | closedTransaction | finishedBlob | closedBlob => exact (Backend.nextHandle_release _ _ _).ge
  | created | attached | begunRead | begunWrite | openedBlob | begunReplace | startedMigration | resumedMigration =>
      exact Nat.le_succ _
  | _ => exact Nat.le_refl _

variable {transaction : Transaction} {blob : BlobOperation} {handle : Handle} {name : String}

section Coherence
variable {writing : Bool}

/-- The handles are given out in ascending order, and the mark of a store tells of its one writer. -/
structure Coherent (backend : Backend) : Prop where
  transactions : Fresh backend.nextHandle backend.transactions
  blobs : Fresh backend.nextHandle backend.blobs
  migrations : Fresh backend.nextHandle backend.migrations
  writers : ∀ name, writers backend name = (backend.data name).writerActive.toNat

theorem Same.data (same : Same backend later) (name : String) : later.data name = backend.data name := by
  rw [Backend.data, Backend.data, same.stores]

/-- The contribution of an operation to the number of writers. -/
def share (writing : Bool) (store name : String) : Nat := if writing && store == name then 1 else 0

theorem share_self (store : String) : share true store store = 1 := by
  rw [share, beq_self_eq_true, Bool.and_self, if_pos rfl]

variable {store : String}

theorem share_other (different : name ≠ store) : share writing store name = 0 := by
  have other : (store == name) = false := by simpa using Ne.symm different
  rw [share, other, Bool.and_false, if_neg Bool.false_ne_true]

theorem share_idle (idle : ¬writing = true) : share writing store name = 0 := by
  rw [share, Bool.eq_false_iff.mpr idle, Bool.false_and, if_neg Bool.false_ne_true]

section Counting
variable (name : String)

theorem writers_addTransaction (absent : backend.transactions.lookup backend.nextHandle = none) :
    writers (addTransaction backend transaction) name =
      writers backend name + share transaction.writing transaction.store name := by
  change tally _ (backend.transactions.insert backend.nextHandle transaction) + tally _ backend.blobs = _
  rw [tally_added _ _ absent, writers, share]
  omega

theorem writers_setTransaction (other : Transaction) (found : backend.transactions.lookup handle = some transaction) :
    writers (setTransaction backend handle other) name + share transaction.writing transaction.store name =
      writers backend name + share other.writing other.store name := by
  have counted := tally_replaced (fun (_ : Handle) (transaction : Transaction) =>
    transaction.writing && transaction.store == name) backend.transactions other found
  change tally _ (backend.transactions.insert handle other) + tally _ backend.blobs + _ =
    tally _ backend.transactions + tally _ backend.blobs + _
  rw [share, share]
  omega

theorem writers_editTransaction {other : Transaction} (found : backend.transactions.lookup handle = some transaction)
    (sameMark : other.writing = transaction.writing) (sameStore : other.store = transaction.store) :
    writers (setTransaction backend handle other) name = writers backend name := by
  have counted := writers_setTransaction name other found
  rw [sameMark, sameStore] at counted
  exact Nat.add_right_cancel counted

theorem writers_removeTransaction (found : backend.transactions.lookup handle = some transaction) :
    writers (removeTransaction backend handle) name + share transaction.writing transaction.store name =
      writers backend name := by
  change tally _ (backend.transactions.erase handle) + tally _ backend.blobs + _ = _
  rw [writers, tally_found _ backend.transactions found, share]
  omega

theorem writers_addBlob (absent : backend.blobs.lookup backend.nextHandle = none) :
    writers (addBlob backend blob) name = writers backend name + share blob.writing blob.store name := by
  change _ + tally _ (backend.blobs.insert backend.nextHandle blob) = _
  rw [tally_added _ _ absent, writers, share]
  exact (Nat.add_assoc _ _ _).symm

theorem writers_setBlob (other : BlobOperation) (found : backend.blobs.lookup handle = some blob) :
    writers (setBlob backend handle other) name + share blob.writing blob.store name =
      writers backend name + share other.writing other.store name := by
  have counted := tally_replaced (fun (_ : Handle) (blob : BlobOperation) =>
    blob.writing && blob.store == name) backend.blobs other found
  change tally _ backend.transactions + tally _ (backend.blobs.insert handle other) + _ =
    tally _ backend.transactions + tally _ backend.blobs + _
  rw [share, share]
  omega

theorem writers_editBlob {other : BlobOperation} (found : backend.blobs.lookup handle = some blob)
    (sameMark : other.writing = blob.writing) (sameStore : other.store = blob.store) :
    writers (setBlob backend handle other) name = writers backend name := by
  have counted := writers_setBlob name other found
  rw [sameMark, sameStore] at counted
  exact Nat.add_right_cancel counted

theorem writers_removeBlob (found : backend.blobs.lookup handle = some blob) :
    writers (removeBlob backend handle) name + share blob.writing blob.store name = writers backend name := by
  change tally _ backend.transactions + tally _ (backend.blobs.erase handle) + _ = _
  rw [writers, tally_found _ backend.blobs found, share]
  omega

end Counting

section
variable (coherent : Coherent backend)
include coherent

/-- The data of a store may change when its mark is kept. -/
theorem Coherent.update (change : StoreData → StoreData)
    (kept : (change (backend.data name)).writerActive = (backend.data name).writerActive) :
    Coherent (backend.update name change) where
  transactions := coherent.transactions
  blobs := coherent.blobs
  migrations := coherent.migrations
  writers := by
    intro other
    refine (coherent.writers other).trans ?_
    rw [Backend.data_update]
    by_cases same : other = name
    · rw [if_pos same, kept, same]
    · rw [if_neg same]

/-- A writing operation ends and frees its store. -/
theorem Coherent.ended
    (transactions : Fresh later.nextHandle later.transactions) (blobs : Fresh later.nextHandle later.blobs)
    (migrations : Fresh later.nextHandle later.migrations)
    (counted : ∀ name, Memory.writers later name + share true store name = Memory.writers backend name)
    (marked : ∀ name, (later.data name).writerActive = if name = store then false
      else (backend.data name).writerActive) : Coherent later where
  transactions := transactions
  blobs := blobs
  migrations := migrations
  writers := by
    intro name
    have before := coherent.writers name
    have less := counted name
    rw [marked name]
    by_cases same : name = store
    · subst same
      rw [if_pos rfl]
      rw [share_self] at less
      have bound := Bool.toNat_le (backend.data name).writerActive
      change Memory.writers later name = 0
      omega
    · rw [share_other same] at less
      rw [if_neg same, ← before]
      exact less

/-- A writer begins on a free store. -/
theorem Coherent.begun
    (transactions : Fresh later.nextHandle later.transactions) (blobs : Fresh later.nextHandle later.blobs)
    (migrations : Fresh later.nextHandle later.migrations) (free : (backend.data store).writerActive = false)
    (counted : ∀ name, Memory.writers later name = Memory.writers backend name + share true store name)
    (marked : ∀ name, (later.data name).writerActive =
      if name = store then true else (backend.data name).writerActive) : Coherent later where
  transactions := transactions
  blobs := blobs
  migrations := migrations
  writers := by
    intro name
    rw [counted name, marked name, coherent.writers name]
    by_cases same : name = store
    · subst same
      rw [if_pos rfl, share_self, free]
      rfl
    · rw [if_neg same, share_other same, Nat.add_zero]

/-- The numbers of writers and the marks do not change. -/
theorem Coherent.same
    (transactions : Fresh later.nextHandle later.transactions) (blobs : Fresh later.nextHandle later.blobs)
    (migrations : Fresh later.nextHandle later.migrations)
    (counted : ∀ name, Memory.writers later name = Memory.writers backend name)
    (marked : ∀ name, (later.data name).writerActive = (backend.data name).writerActive) : Coherent later where
  transactions := transactions
  blobs := blobs
  migrations := migrations
  writers := fun name => by rw [counted, marked, coherent.writers]

end

theorem share_finished (transaction : Transaction) (name : String) :
    share { transaction with finished := true }.writing transaction.store name = 0 := by
  rw [share, Transaction.writing, Bool.not_true, Bool.and_false, Bool.false_and, if_neg Bool.false_ne_true]

theorem share_finishedBlob (blob : BlobOperation) (name : String) :
    share { blob with finished := true }.writing blob.store name = 0 := by
  rw [share, BlobOperation.writing, Bool.not_true, Bool.and_false, Bool.false_and, if_neg Bool.false_ne_true]

/-- A store is updated while one of its operations ends. -/
theorem marked_update {change : StoreData → StoreData}
    (cleared : (change (backend.data store)).writerActive = false) (name : String) :
    ((backend.update store change).data name).writerActive = if name = store then false
      else (backend.data name).writerActive := by
  rw [Backend.data_update]
  split
  · exact cleared
  · rfl

theorem marked_occupy (name : String) : ((backend.update store occupy).data name).writerActive =
      if name = store then true else (backend.data name).writerActive := by
  rw [Backend.data_update]
  split <;> rfl

/-- An operation ends, and it frees its store when it was writing. -/
theorem Coherent.released (coherent : Coherent backend) (close : Backend → Backend) {writing : Bool} {store : String}
    (frees : close (backend.update store vacate) = (close backend).update store vacate)
    (transactions : Fresh (close backend).nextHandle (close backend).transactions)
    (blobs : Fresh (close backend).nextHandle (close backend).blobs)
    (migrations : Fresh (close backend).nextHandle (close backend).migrations)
    (counted : ∀ name, Memory.writers (close backend) name + share writing store name = Memory.writers backend name)
    (data : ∀ name, (close backend).data name = backend.data name) :
    Coherent (close (backend.release writing store)) := by
  rw [Backend.release]
  split
  · rename_i active
    rw [active] at counted
    rw [frees]
    refine coherent.ended transactions blobs migrations counted fun name => ?_
    rw [← data name]
    exact marked_update rfl name
  · rename_i idle
    refine coherent.same transactions blobs migrations (fun name => ?_) fun name => by rw [data]
    rw [← counted, share_idle idle, Nat.add_zero]

/-- Every call keeps the handles and the marks coherent. -/
theorem Coherent.kept (coherent : Coherent backend) (effect : Effect backend call result later) : Coherent later := by
  obtain ⟨transactions, blobs, migrations, writers⟩ := coherent
  have coherent : Coherent backend := ⟨transactions, blobs, migrations, writers⟩
  have grown := Nat.le_succ backend.nextHandle
  cases effect with
  | quiet same _ =>
      refine coherent.same ?_ ?_ ?_ (fun name => ?_) fun name => by rw [same.data]
      · exact same.transactions ▸ transactions.mono same.nextHandle
      · exact same.blobs ▸ blobs.mono same.nextHandle
      · exact same.migrations ▸ migrations.mono same.nextHandle
      · rw [Memory.writers, same.transactions, same.blobs, Memory.writers]
  | created descriptor absent =>
      have fresh : (backend.data descriptor.logicalName).writerActive = false := by
        rw [Backend.data, absent]
        rfl
      have updated := coherent.update (fun _ => newStore descriptor) fresh.symm
      exact updated.same (transactions.mono grown) (blobs.mono grown) (migrations.mono grown)
        (fun _ => rfl) fun _ => rfl
  | attached descriptor _ =>
      exact coherent.same (transactions.mono grown) (blobs.mono grown) (migrations.mono grown)
        (fun _ => rfl) fun _ => rfl
  | stopped =>
      refine ⟨fresh_empty, fresh_empty, fresh_empty, fun name => ?_⟩
      change 0 = _
      rw [data_stop, writers name]
      cases (backend.data name).writerActive <;> rfl
  | begunRead found =>
      exact coherent.same transactions.insert (blobs.mono grown) (migrations.mono grown)
        (fun name => writers_addTransaction name (transactions _ (Nat.le_refl _))) fun _ => rfl
  | begunWrite asked found free settled =>
      exact coherent.begun transactions.insert (blobs.mono grown) (migrations.mono grown) free
        (fun name => writers_addTransaction name (transactions _ (Nat.le_refl _))) marked_occupy
  | put found =>
      exact coherent.same (transactions.replace found) blobs migrations
        (fun name => writers_editTransaction name found rfl rfl) fun _ => rfl
  | erased found =>
      exact coherent.same (transactions.replace found) blobs migrations
        (fun name => writers_editTransaction name found rfl rfl) fun _ => rfl
  | @committed _ transaction _ found writing =>
      refine coherent.ended (transactions.replace found) blobs migrations (fun name => ?_) (marked_update rfl)
      have counted := writers_setTransaction name { transaction with finished := true } found
      rwa [share_finished, writing] at counted
  | @finished _ handle transaction _ found =>
      refine coherent.released (setTransaction · handle { transaction with finished := true }) rfl
        (transactions.replace found) blobs migrations (fun name => ?_) fun _ => rfl
      have counted := writers_setTransaction name { transaction with finished := true } found
      rwa [share_finished] at counted
  | @closedTransaction handle transaction found =>
      exact coherent.released (removeTransaction · handle) rfl transactions.erase blobs migrations
        (fun name => writers_removeTransaction name found) fun _ => rfl
  | @openedBlob _ _ blob _ reads =>
      refine coherent.same (transactions.mono grown) blobs.insert (migrations.mono grown)
        (fun name => ?_) fun _ => rfl
      have idle : ¬blob.writing = true := by rw [BlobOperation.writing, reads]; exact Bool.false_ne_true
      rw [writers_addBlob name (blobs _ (Nat.le_refl _)), share_idle idle, Nat.add_zero]
  | begunReplace found named free settled =>
      exact coherent.begun (transactions.mono grown) blobs.insert (migrations.mono grown) free
        (fun name => writers_addBlob name (blobs _ (Nat.le_refl _))) marked_occupy
  | wroteBlob found writing room =>
      exact coherent.same transactions (blobs.replace found) migrations
        (fun name => writers_editBlob name found rfl rfl) fun _ => rfl
  | @committedBlob _ blob _ found writing =>
      refine coherent.ended transactions (blobs.replace found) migrations (fun name => ?_) (marked_update rfl)
      have counted := writers_setBlob name { blob with finished := true } found
      rwa [share_finishedBlob, writing] at counted
  | @finishedBlob _ handle blob _ found =>
      refine coherent.released (setBlob · handle { blob with finished := true }) rfl
        transactions (blobs.replace found) migrations (fun name => ?_) fun _ => rfl
      have counted := writers_setBlob name { blob with finished := true } found
      rwa [share_finishedBlob] at counted
  | @closedBlob handle blob found =>
      exact coherent.released (removeBlob · handle) rfl transactions blobs.erase migrations
        (fun name => writers_removeBlob name found) fun _ => rfl
  | startedMigration =>
      exact (coherent.update _ rfl).same (transactions.mono grown) (blobs.mono grown) migrations.insert
        (fun _ => rfl) fun _ => rfl
  | resumedMigration =>
      exact (coherent.update _ rfl).same (transactions.mono grown) (blobs.mono grown) migrations.insert
        (fun _ => rfl) fun _ => rfl
  | closedMigration =>
      exact (coherent.update _ rfl).same transactions blobs migrations.erase (fun _ => rfl) fun _ => rfl
  | rejected | reset | applied | migrated | deactivated | rolledBack => exact coherent.update _ rfl

theorem coherent_create (maxStores maxTransactions : Nat) : Coherent (create maxStores maxTransactions) :=
  ⟨fresh_empty, fresh_empty, fresh_empty, fun _ => rfl⟩

end Coherence

section LocalInvariants

/-- A local invariant speaks about each store, and about each open operation with the data of its
store. -/
structure Local where
  store : String → StoreData → Prop
  transaction : Handle → StoreData → Transaction → Prop
  blob : Handle → StoreData → BlobOperation → Prop
  migration : Handle → StoreData → MigrationOperation → Prop := fun _ _ _ => True

structure Local.Holds (law : Local) (backend : Backend) : Prop where
  stores : ∀ name, law.store name (backend.data name)
  transactions : ∀ handle transaction, backend.transactions.lookup handle = some transaction →
    law.transaction handle (backend.data transaction.store) transaction
  blobs : ∀ handle blob, backend.blobs.lookup handle = some blob →
    law.blob handle (backend.data blob.store) blob
  migrations : ∀ handle operation, backend.migrations.lookup handle = some operation →
    law.migration handle (backend.data operation.store) operation

variable {key handle : Handle}

theorem lookup_erase {map : FiniteMap.Map Handle A} {other : A}
    (found : (map.erase key).lookup handle = some other) : handle ≠ key ∧ map.lookup handle = some other := by
  by_cases same : handle = key
  · subst same
    rw [AList.lookup_erase] at found
    cases found
  · rw [AList.lookup_erase_ne same] at found
    exact ⟨same, found⟩

variable {law next : Local}

namespace Local.Holds

variable (holds : law.Holds backend)
include holds

/-- One store changes, and the law of this store may change with it. -/
theorem change {change : StoreData → StoreData}
    (others : ∀ other data, other ≠ name → law.store other data → next.store other data)
    (transactions : next.transaction = law.transaction) (blobs : next.blob = law.blob)
    (migrations : next.migration = law.migration)
    (store : law.store name (backend.data name) → next.store name (change (backend.data name)))
    (transaction : ∀ handle item, backend.transactions.lookup handle = some item → item.store = name →
      law.transaction handle (backend.data name) item → law.transaction handle (change (backend.data name)) item)
    (blob : ∀ handle item, backend.blobs.lookup handle = some item → item.store = name →
      law.blob handle (backend.data name) item → law.blob handle (change (backend.data name)) item)
    (migration : ∀ handle item, backend.migrations.lookup handle = some item → item.store = name →
      law.migration handle (backend.data name) item → law.migration handle (change (backend.data name)) item) :
    next.Holds (backend.update name change) where
  stores := by
    intro other
    rw [Backend.data_update]
    split
    · rename_i same
      rw [same]
      exact store (holds.stores name)
    · rename_i different
      exact others other _ different (holds.stores other)
  transactions := by
    intro handle item found
    have known := holds.transactions handle item found
    rw [Backend.data_update, transactions]
    split
    · rename_i same
      exact transaction handle item found same (same ▸ known)
    · exact known
  blobs := by
    intro handle item found
    have known := holds.blobs handle item found
    rw [Backend.data_update, blobs]
    split
    · rename_i same
      exact blob handle item found same (same ▸ known)
    · exact known
  migrations := by
    intro handle item found
    have known := holds.migrations handle item found
    rw [Backend.data_update, migrations]
    split
    · rename_i same
      exact migration handle item found same (same ▸ known)
    · exact known

/-- The tables of operations may shrink. -/
theorem shrink (data : ∀ name, later.data name = backend.data name)
    (transactions : ∀ handle item, later.transactions.lookup handle = some item →
      backend.transactions.lookup handle = some item)
    (blobs : ∀ handle item, later.blobs.lookup handle = some item → backend.blobs.lookup handle = some item)
    (migrations : ∀ handle item, later.migrations.lookup handle = some item →
      backend.migrations.lookup handle = some item) : law.Holds later where
  stores := fun name => data name ▸ holds.stores name
  transactions := fun handle item found =>
    data item.store ▸ holds.transactions handle item (transactions handle item found)
  blobs := fun handle item found => data item.store ▸ holds.blobs handle item (blobs handle item found)
  migrations := fun handle item found =>
    data item.store ▸ holds.migrations handle item (migrations handle item found)

/-- A table gets an entry, and the law of its handle may change with it. -/
theorem replaceTransaction (stores : next.store = law.store)
    (blobs : next.blob = law.blob) (migrations : next.migration = law.migration)
    (others : ∀ key, key ≠ handle → next.transaction key = law.transaction key)
    (good : next.transaction handle (backend.data transaction.store) transaction) :
    next.Holds (Memory.setTransaction backend handle transaction) where
  stores := fun name => stores ▸ holds.stores name
  transactions := by
    intro key other found
    rcases FiniteMap.lookup_insert_cases found with ⟨rfl, rfl⟩ | ⟨different, found⟩
    · exact good
    · exact others key different ▸ holds.transactions key other found
  blobs := fun key other found => blobs ▸ holds.blobs key other found
  migrations := fun key other found => migrations ▸ holds.migrations key other found

theorem setTransaction (good : law.transaction handle (backend.data transaction.store) transaction) :
    law.Holds (Memory.setTransaction backend handle transaction) :=
  holds.replaceTransaction rfl rfl rfl (fun _ _ => rfl) good

theorem beginTransaction (stores : next.store = law.store) (blobs : next.blob = law.blob)
    (migrations : next.migration = law.migration)
    (others : ∀ key, key ≠ backend.nextHandle → next.transaction key = law.transaction key)
    (good : next.transaction backend.nextHandle (backend.data transaction.store) transaction) :
    next.Holds (Memory.addTransaction backend transaction) :=
  (holds.replaceTransaction stores blobs migrations others good).shrink (fun _ => rfl) (fun _ _ found => found)
    (fun _ _ found => found) fun _ _ found => found

theorem addTransaction (good : law.transaction backend.nextHandle (backend.data transaction.store) transaction) :
    law.Holds (Memory.addTransaction backend transaction) := holds.beginTransaction rfl rfl rfl (fun _ _ => rfl) good

theorem removeTransaction (handle : Handle) : law.Holds (Memory.removeTransaction backend handle) :=
  holds.shrink (fun _ => rfl) (fun _ _ found => (lookup_erase found).2) (fun _ _ found => found)
    fun _ _ found => found

theorem replaceBlob (stores : next.store = law.store)
    (transactions : next.transaction = law.transaction) (migrations : next.migration = law.migration)
    (others : ∀ key, key ≠ handle → next.blob key = law.blob key)
    (good : next.blob handle (backend.data blob.store) blob) : next.Holds (Memory.setBlob backend handle blob) where
  stores := fun name => stores ▸ holds.stores name
  transactions := fun key other found => transactions ▸ holds.transactions key other found
  blobs := by
    intro key other found
    rcases FiniteMap.lookup_insert_cases found with ⟨rfl, rfl⟩ | ⟨different, found⟩
    · exact good
    · exact others key different ▸ holds.blobs key other found
  migrations := fun key other found => migrations ▸ holds.migrations key other found

theorem setBlob (good : law.blob handle (backend.data blob.store) blob) :
    law.Holds (Memory.setBlob backend handle blob) := holds.replaceBlob rfl rfl rfl (fun _ _ => rfl) good

theorem beginBlob (stores : next.store = law.store)
    (transactions : next.transaction = law.transaction) (migrations : next.migration = law.migration)
    (others : ∀ key, key ≠ backend.nextHandle → next.blob key = law.blob key)
    (good : next.blob backend.nextHandle (backend.data blob.store) blob) : next.Holds (Memory.addBlob backend blob) :=
  (holds.replaceBlob stores transactions migrations others good).shrink (fun _ => rfl) (fun _ _ found => found)
    (fun _ _ found => found) fun _ _ found => found

theorem addBlob (good : law.blob backend.nextHandle (backend.data blob.store) blob) :
    law.Holds (Memory.addBlob backend blob) := holds.beginBlob rfl rfl rfl (fun _ _ => rfl) good

theorem removeBlob (handle : Handle) : law.Holds (Memory.removeBlob backend handle) :=
  holds.shrink (fun _ => rfl) (fun _ _ found => found) (fun _ _ found => (lookup_erase found).2)
    fun _ _ found => found

theorem addMigration {operation : MigrationOperation}
    (good : law.migration backend.nextHandle (backend.data operation.store) operation) :
    law.Holds (Memory.addMigration backend operation) where
  stores := holds.stores
  transactions := holds.transactions
  blobs := holds.blobs
  migrations := by
    intro key other found
    rcases FiniteMap.lookup_insert_cases found with ⟨rfl, rfl⟩ | ⟨_, found⟩
    · exact good
    · exact holds.migrations key other found

theorem removeMigration (handle : Handle) : law.Holds (Memory.removeMigration backend handle) :=
  holds.shrink (fun _ => rfl) (fun _ _ found => found) (fun _ _ found => found)
    fun _ _ found => (lookup_erase found).2

theorem register (descriptor : StoreDescriptor) : law.Holds (Memory.register backend descriptor).2 :=
  holds.shrink (fun _ => rfl) (fun _ _ found => found) (fun _ _ found => found) fun _ _ found => found

theorem quiet (same : Same backend later) : law.Holds later :=
  holds.shrink same.data (fun _ _ found => same.transactions ▸ found) (fun _ _ found => same.blobs ▸ found)
    fun _ _ found => same.migrations ▸ found

/-- A stop keeps the law of the stores, and it leaves no operation. -/
theorem stop (marks : ∀ name writing migrating, law.store name (backend.data name) → law.store name
      { backend.data name with writerActive := writing, migrationHandleActive := migrating }) :
    law.Holds (Memory.stop backend) where
  stores := fun name => by
    rw [data_stop]
    exact marks name _ _ (holds.stores name)
  transactions := fun handle _ found =>
    absurd (found.symm.trans (AList.lookup_empty handle)) (Option.some_ne_none _)
  blobs := fun handle _ found =>
    absurd (found.symm.trans (AList.lookup_empty handle)) (Option.some_ne_none _)
  migrations := fun handle _ found =>
    absurd (found.symm.trans (AList.lookup_empty handle)) (Option.some_ne_none _)

end Local.Holds

end LocalInvariants

end OpenVehicle.Per.Memory
