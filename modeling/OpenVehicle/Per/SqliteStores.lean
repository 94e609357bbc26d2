/-
This file models how the SQLite provider registers its stores and decides when it refuses one for the limit on
their number. The results of the database are parameters of the calls.
-/

import OpenVehicle.Concurrency.System
import OpenVehicle.Per.Memory

namespace OpenVehicle.Per.Sqlite

open FiniteMap (Map)

section Model

/-- The result codes of the database that the provider tells apart. -/
inductive Code where
  | ok | done | row | busy | locked | full | tooBig | corrupt | notADatabase | readOnly | permission | noMemory
  | ioError | cannotOpen | other
  deriving DecidableEq, Repr

/-- A successful code has no status. -/
def sqliteStatus : Code → Option Status
  | .ok | .done | .row => none
  | .busy | .locked => some .busy
  | .full | .tooBig => some .quotaExceeded
  | .corrupt | .notADatabase => some .corrupted
  | .readOnly | .permission => some .permissionDenied
  | .noMemory => some .resourceExhausted
  | .ioError | .cannotOpen => some .ioError
  | .other => some .backendError

/-- A store object stays in memory while something holds it. -/
abbrev Object := Nat

structure StoreData where
  path : String
  journalMode : String
  capacity : Nat
  maxEntries : Nat
  maxKeySize : Nat
  maxValueSize : Nat
  maxBlobSize : Nat
  schemaId : String
  schemaVersion : Nat
  minimumDurability : Durability
  openRecoveryState : RecoveryState := .clean
  deriving DecidableEq

structure StoreHandle where
  store : Object
  access : Access

/-- What the database answers while a store is opened: the code of its initialization with the text of an error,
whether its metadata match, and the code of the record of a recovery. -/
structure Database where
  hotJournal : Bool := false
  initialized : Code := .ok
  metadata : Bool := true
  recorded : Code := .ok
  message : Option String := none

/-- The registry keeps a weak reference to each store that was opened. -/
structure Backend where
  root : String
  journalMode : String
  maxStores : Nat
  running : Bool := false
  stores : Map String Object := ∅
  objects : Map Object StoreData := ∅
  nextObject : Object := 0
  storeHandles : Map Handle StoreHandle := ∅
  transactions : Map Handle Object := ∅
  blobs : Map Handle Object := ∅
  migrations : Map Handle Object := ∅
  nextHandle : Handle := 1
  error : String := ""

namespace Backend
variable (backend : Backend)

/-- The store objects behind the handles and the operations. -/
def held : List Object :=
  backend.storeHandles.entries.map (·.2.store) ++ backend.transactions.entries.map (·.2) ++
    backend.blobs.entries.map (·.2) ++ backend.migrations.entries.map (·.2)

/-- A weak reference leads to an object that something holds. -/
def lock (name : String) : Option Object := (backend.stores.lookup name).filter (· ∈ backend.held)

def openStores : List Object := backend.held.dedup

def setError (text : String) : Backend := { backend with error := text }

def fail (code : Code) (message : Option String) (context : String) : Except Status Handle × Backend :=
  (.error ((sqliteStatus code).getD .backendError),
    backend.setError (message.elim context fun text => context ++ (": " ++ text)))

end Backend

/-- A byte is shown by two hexadecimal digits. -/
def hex (value : String) : String :=
  String.join (value.toUTF8.toList.map fun byte => String.ofList ((Nat.toDigits 16 byte.toNat).leftpad 2 '0'))

def incompleteDescriptor (descriptor : StoreDescriptor) : Bool :=
  Memory.incompleteDescriptor descriptor || decide (descriptor.logicalName.utf8ByteSize > 256)

variable (backend : Backend)

def newStore (descriptor : StoreDescriptor) (database : Database) : StoreData where
  path := backend.root ++ "/" ++ hex descriptor.logicalName ++ ".db"
  journalMode := backend.journalMode
  capacity := descriptor.capacityBytes
  maxEntries := descriptor.maxEntries
  maxKeySize := descriptor.maxKeySize
  maxValueSize := descriptor.maxValueSize
  maxBlobSize := descriptor.maxBlobSize
  schemaId := descriptor.schemaId
  schemaVersion := descriptor.schemaVersion
  minimumDurability := descriptor.minimumDurability
  openRecoveryState := if database.hotJournal then .journalReplayed else .clean

def StoreData.matches (store : StoreData) (descriptor : StoreDescriptor) : Bool :=
  store.capacity == descriptor.capacityBytes && store.maxEntries == descriptor.maxEntries &&
    store.maxKeySize == descriptor.maxKeySize && store.maxValueSize == descriptor.maxValueSize &&
    store.maxBlobSize == descriptor.maxBlobSize && store.schemaId == descriptor.schemaId &&
    store.schemaVersion == descriptor.schemaVersion && store.minimumDurability == descriptor.minimumDurability

def register (object : Object) (access : Access) : Except Status Handle × Backend :=
  (.ok backend.nextHandle,
    { backend with
      storeHandles := backend.storeHandles.insert backend.nextHandle ⟨object, access⟩
      nextHandle := backend.nextHandle + 1 })

/-- The store is entered into the registry after the database has accepted it. -/
def enter (descriptor : StoreDescriptor) (database : Database) : Backend :=
  { backend with
    stores := backend.stores.insert descriptor.logicalName backend.nextObject
    objects := backend.objects.insert backend.nextObject (newStore backend descriptor database)
    nextObject := backend.nextObject + 1 }

def openStore (descriptor : StoreDescriptor) (database : Database) :
    Except Status Handle × Backend :=
  if incompleteDescriptor descriptor then (.error .invalidArgument, backend)
  else if !backend.running then (.error .shuttingDown, backend)
  else
    match backend.lock descriptor.logicalName with
    | none =>
        if backend.stores.keys.length ≥ backend.maxStores then
          (.error .resourceExhausted, backend.setError "store limit reached")
        else if (sqliteStatus database.initialized).isSome then
          backend.fail database.initialized database.message "cannot initialize SQLite store"
        else if !database.metadata then
          (.error .invalidArgument, backend.setError "SQLite store metadata does not match deployment")
        else if database.hotJournal ∧ (sqliteStatus database.recorded).isSome then
          backend.fail database.recorded database.message "cannot record SQLite journal recovery"
        else register (enter backend descriptor database) backend.nextObject descriptor.access
    | some object =>
        if (backend.objects.lookup object).any (·.matches descriptor) then register backend object descriptor.access
        else
          (.error .invalidArgument, backend.setError "SQLite store was reopened with incompatible deployment")

def closeStore (handle : Handle) : Backend :=
  { backend with storeHandles := backend.storeHandles.erase handle }

/-- An operation that begins on a store holds it until it is closed. -/
inductive Holder where
  | transaction | blob | migration
  deriving DecidableEq

/-- The operations of a store begin when the database lets them. -/
def begin (holder : Holder) (handle : Handle) (granted : Bool) : Backend :=
  match backend.storeHandles.lookup handle with
  | none => backend
  | some item =>
      if !granted then backend
      else
        match holder with
        | .transaction =>
            { backend with
              transactions := backend.transactions.insert backend.nextHandle item.store
              nextHandle := backend.nextHandle + 1 }
        | .blob =>
            { backend with
              blobs := backend.blobs.insert backend.nextHandle item.store
              nextHandle := backend.nextHandle + 1 }
        | .migration =>
            { backend with
              migrations := backend.migrations.insert backend.nextHandle item.store
              nextHandle := backend.nextHandle + 1 }

def close (holder : Holder) (handle : Handle) : Backend :=
  match holder with
  | .transaction => { backend with transactions := backend.transactions.erase handle }
  | .blob => { backend with blobs := backend.blobs.erase handle }
  | .migration => { backend with migrations := backend.migrations.erase handle }

/-- A migration and a rollback change the schema of a store. -/
def setSchema (object : Object) (schemaId : String) (schemaVersion : Nat) : Backend :=
  match backend.objects.lookup object with
  | none => backend
  | some store =>
      { backend with
        objects := backend.objects.insert object { store with schemaId := schemaId, schemaVersion := schemaVersion } }

def start (created : Bool) : Backend :=
  if created then { backend with running := true } else backend.setError "cannot create SQLite provider root"

/-- A stop releases everything but the registry. -/
def stop : Backend :=
  { backend with running := false, storeHandles := ∅, transactions := ∅, blobs := ∅, migrations := ∅ }

def create (root journalMode : String) (maxStores : Nat) : Backend :=
  { root := root, journalMode := journalMode, maxStores := maxStores }

inductive Call where
  | start (created : Bool)
  | stop
  | openStore (descriptor : StoreDescriptor) (database : Database)
  | closeStore (handle : Handle)
  | begin (holder : Holder) (store : Handle) (granted : Bool)
  | close (holder : Holder) (handle : Handle)
  | migrated (migration : Handle) (schemaId : String) (schemaVersion : Nat)
  | rolledBack (store : Handle) (schemaId : String) (schemaVersion : Nat)

def perform : Call → Backend → Backend
  | .start created, backend => start backend created
  | .stop, backend => stop backend
  | .openStore descriptor database, backend => (openStore backend descriptor database).2
  | .closeStore handle, backend => closeStore backend handle
  | .begin holder store granted, backend => begin backend holder store granted
  | .close holder handle, backend => close backend holder handle
  | .migrated migration schemaId schemaVersion, backend =>
      match backend.migrations.lookup migration with
      | none => backend
      | some object => setSchema backend object schemaId schemaVersion
  | .rolledBack store schemaId schemaVersion, backend =>
      match backend.storeHandles.lookup store with
      | none => backend
      | some item => setSchema backend item.store schemaId schemaVersion

def system : Concurrency.System Backend Call := ⟨fun call backend => some (perform call backend)⟩

end Model

section Contract
variable (backend : Backend) (descriptor : StoreDescriptor) (database : Database)

/-- The provider refuses a store for the limit. -/
def Refused : Prop :=
  (openStore backend descriptor database).1 = .error .resourceExhausted ∧
    (openStore backend descriptor database).2.error = "store limit reached"

instance : Decidable (Refused backend descriptor database) := inferInstanceAs (Decidable (_ ∧ _))

/-- A store is refused for the limit only while that many stores are open. -/
def Honest : Prop := Refused backend descriptor database → backend.maxStores ≤ backend.openStores.length

/-- The call does not reach the limit, or every store that was ever entered is still open. -/
def Admits : Prop :=
  incompleteDescriptor descriptor = true ∨ backend.running = false ∨
    (backend.lock descriptor.logicalName).isSome = true ∨ backend.stores.keys.length < backend.maxStores ∨
    ∀ name object, backend.stores.lookup name = some object → object ∈ backend.held

end Contract

variable {descriptor : StoreDescriptor} {database : Database} {backend : Backend}

/-- A failure of the database has a text of its own. -/
theorem fail_error {code : Code} {message : Option String} {context : String}
    (first : context.toList.head? = some 'c') :
    (backend.fail code message context).2.error ≠ "store limit reached" := by
  intro same
  have begins : (backend.fail code message context).2.error.toList.head? = some 'c' := by
    cases message with
    | none => exact first
    | some text =>
        change (context ++ (": " ++ text)).toList.head? = some 'c'
        rw [String.toList_append, List.head?_append, first]
        rfl
  rw [same] at begins
  exact absurd begins (by decide)

theorem refused_iff : Refused backend descriptor database ↔
    incompleteDescriptor descriptor = false ∧ backend.running = true ∧
      backend.lock descriptor.logicalName = none ∧ backend.maxStores ≤ backend.stores.keys.length := by
  unfold Refused openStore
  cases incompleteDescriptor descriptor with
  | true => simp
  | false =>
      cases backend.running with
      | false => simp
      | true =>
          cases backend.lock descriptor.logicalName with
          | some object =>
              simp only [Bool.false_eq_true, if_false, Bool.not_true]
              split <;> simp [register]
          | none =>
              simp only [Bool.false_eq_true, if_false, Bool.not_true]
              by_cases full : backend.stores.keys.length ≥ backend.maxStores
              · simp [full, Backend.setError]
              · rw [if_neg full]
                refine iff_of_false (fun refused => ?_) fun facts => full facts.2.2.2
                split at refused
                · exact fail_error (by decide) refused.2
                · split at refused
                  · cases refused.1
                  · split at refused
                    · exact fail_error (by decide) refused.2
                    · cases refused.1

variable {handle : Handle}

section Invariant
variable {call : Call}

/-- Every object that is held is the one that the registry has under its name. -/
structure Registered (backend : Backend) : Prop where
  few : backend.stores.keys.length ≤ backend.maxStores
  issued : ∀ name object, backend.stores.lookup name = some object → object < backend.nextObject
  named : ∀ first second object, backend.stores.lookup first = some object →
    backend.stores.lookup second = some object → first = second
  entered : ∀ object ∈ backend.held, ∃ name, backend.stores.lookup name = some object

/-- The registry stays as it is, and nothing new is held. -/
theorem Registered.frame (registered : Registered backend) {later : Backend} (stores : later.stores = backend.stores)
    (maxStores : later.maxStores = backend.maxStores) (nextObject : later.nextObject = backend.nextObject)
    (held : ∀ object ∈ later.held, object ∈ backend.held) : Registered later where
  few := by rw [stores, maxStores]; exact registered.few
  issued := by rw [stores, nextObject]; exact registered.issued
  named := by rw [stores]; exact registered.named
  entered := by rw [stores]; exact fun object listed => registered.entered object (held object listed)

section Tables
variable {Value : Type} {map : Map Handle Value} {value : Value} (test : Value → Prop)

theorem values_insert (values : ∀ entry ∈ map.entries, test entry.2) (own : test value) :
    ∀ entry ∈ (map.insert handle value).entries, test entry.2 := by
  intro entry listed
  rw [AList.entries_insert, List.mem_cons] at listed
  rcases listed with rfl | kept
  · exact own
  · exact values entry ((List.kerase_sublist _ _).subset kept)

theorem values_erase (values : ∀ entry ∈ map.entries, test entry.2) :
    ∀ entry ∈ (map.erase handle).entries, test entry.2 :=
  fun entry listed => values entry ((List.kerase_sublist _ _).subset listed)

end Tables

/-- The objects of all tables pass a test. -/
structure Holds (test : Object → Prop) (backend : Backend) : Prop where
  storeHandles : ∀ entry ∈ backend.storeHandles.entries, test entry.2.store
  transactions : ∀ entry ∈ backend.transactions.entries, test entry.2
  blobs : ∀ entry ∈ backend.blobs.entries, test entry.2
  migrations : ∀ entry ∈ backend.migrations.entries, test entry.2

theorem holds_iff (test : Object → Prop) : Holds test backend ↔ ∀ object ∈ backend.held, test object := by
  have listed : (∀ object ∈ backend.held, test object) ↔
      (∀ entry ∈ backend.storeHandles.entries, test entry.2.store) ∧
        (∀ entry ∈ backend.transactions.entries, test entry.2) ∧
        (∀ entry ∈ backend.blobs.entries, test entry.2) ∧ ∀ entry ∈ backend.migrations.entries, test entry.2 := by
    simp only [Backend.held, List.mem_append, List.mem_map, or_imp, forall_and, forall_exists_index, and_imp,
      forall_apply_eq_imp_iff₂, and_assoc]
  rw [listed]
  exact ⟨fun holds => ⟨holds.storeHandles, holds.transactions, holds.blobs, holds.migrations⟩,
    fun facts => ⟨facts.1, facts.2.1, facts.2.2.1, facts.2.2.2⟩⟩

theorem holds_held : Holds (· ∈ backend.held) backend := (holds_iff _).mpr fun _ listed => listed

/-- A store that has a handle is held. -/
theorem held_of_handle {item : StoreHandle} (found : backend.storeHandles.lookup handle = some item) :
    item.store ∈ backend.held := holds_held.storeHandles ⟨handle, item⟩ (AList.mem_lookup_iff.mp found)

section
variable (registered : Registered backend)
include registered

theorem Registered.register {object : Object} {name : String}
    (entered : backend.stores.lookup name = some object) (access : Access) :
    Registered (Sqlite.register backend object access).2 where
  few := registered.few
  issued := registered.issued
  named := registered.named
  entered := by
    have holds := (holds_iff fun object => ∃ name, backend.stores.lookup name = some object).mpr registered.entered
    refine (holds_iff fun object => ∃ name, backend.stores.lookup name = some object).mp ?_
    exact ⟨values_insert (fun item : StoreHandle => ∃ name, backend.stores.lookup name = some item.store)
      holds.storeHandles ⟨name, entered⟩, holds.transactions, holds.blobs, holds.migrations⟩

/-- A new store takes the place of one that nothing holds. -/
theorem Registered.enter
    (unheld : backend.lock descriptor.logicalName = none) (room : backend.stores.keys.length < backend.maxStores) :
    Registered (Sqlite.enter backend descriptor database) := by
  have stale : ∀ object ∈ backend.held, backend.stores.lookup descriptor.logicalName ≠ some object := by
    intro object listed found
    rw [Backend.lock, found, Option.filter_some, if_pos (decide_eq_true listed)] at unheld
    cases unheld
  refine ⟨?_, fun name object found => ?_, fun first second object one other => ?_, fun object listed => ?_⟩
  · change (backend.stores.insert descriptor.logicalName backend.nextObject).keys.length ≤ backend.maxStores
    rw [AList.keys_insert, List.length_cons]
    exact Nat.lt_of_le_of_lt (List.erase_sublist).length_le room
  · change (backend.stores.insert descriptor.logicalName backend.nextObject).lookup name = some object at found
    rcases FiniteMap.lookup_insert_cases found with ⟨rfl, rfl⟩ | ⟨_, found⟩
    · exact Nat.lt_succ_self _
    · exact Nat.lt_succ_of_lt (registered.issued name object found)
  · change (backend.stores.insert descriptor.logicalName backend.nextObject).lookup first = some object at one
    change (backend.stores.insert descriptor.logicalName backend.nextObject).lookup second = some object at other
    rcases FiniteMap.lookup_insert_cases one with ⟨rfl, rfl⟩ | ⟨_, one⟩ <;>
      rcases FiniteMap.lookup_insert_cases other with ⟨rfl, also⟩ | ⟨_, other⟩
    · rfl
    · exact absurd (registered.issued second _ other) (Nat.lt_irrefl _)
    · exact absurd (registered.issued first object one) (also ▸ Nat.lt_irrefl _)
    · exact registered.named first second object one other
  · obtain ⟨name, found⟩ := registered.entered object listed
    refine ⟨name, ?_⟩
    change (backend.stores.insert descriptor.logicalName backend.nextObject).lookup name = some object
    rw [AList.lookup_insert_ne, found]
    exact fun same => stale object listed (same ▸ found)

theorem Registered.openStore (descriptor : StoreDescriptor) (database : Database) :
    Registered (Sqlite.openStore backend descriptor database).2 := by
  have same (text : String) : Registered (backend.setError text) := registered.frame rfl rfl rfl fun _ listed => listed
  unfold Sqlite.openStore
  split
  · exact registered
  split
  · exact registered
  cases held : backend.lock descriptor.logicalName with
  | some object =>
      dsimp only
      split
      · exact registered.register (Option.filter_eq_some_iff.mp held).1 descriptor.access
      · exact same _
  | none =>
      dsimp only
      split
      · exact same _
      rename_i room
      split
      · exact same _
      split
      · exact same _
      split
      · exact same _
      · have entered : Registered (Sqlite.enter backend descriptor database) :=
          registered.enter held (Nat.lt_of_not_le room)
        exact entered.register (AList.lookup_insert _) descriptor.access

/-- Every call keeps the registry in order. -/
theorem Registered.perform : Registered (Sqlite.perform call backend) := by
  have known := @holds_held backend
  cases call with
  | start created =>
      rw [Sqlite.perform, start]
      split <;> exact registered.frame rfl rfl rfl fun _ listed => listed
  | stop => exact registered.frame rfl rfl rfl nofun
  | openStore descriptor database => exact registered.openStore descriptor database
  | closeStore handle =>
      refine registered.frame rfl rfl rfl ((holds_iff _).mp ?_)
      exact ⟨values_erase (fun item : StoreHandle => item.store ∈ backend.held) known.storeHandles, known.transactions,
        known.blobs, known.migrations⟩
  | begin holder handle granted =>
      simp only [Sqlite.perform, begin]
      split
      · exact registered
      · rename_i item found
        have owner := held_of_handle found
        split
        · exact registered
        · cases holder with
          | transaction =>
              refine registered.frame rfl rfl rfl ((holds_iff _).mp ?_)
              exact ⟨known.storeHandles, values_insert (· ∈ backend.held) known.transactions owner, known.blobs,
                known.migrations⟩
          | blob =>
              refine registered.frame rfl rfl rfl ((holds_iff _).mp ?_)
              exact ⟨known.storeHandles, known.transactions, values_insert (· ∈ backend.held) known.blobs owner,
                known.migrations⟩
          | migration =>
              refine registered.frame rfl rfl rfl ((holds_iff _).mp ?_)
              exact ⟨known.storeHandles, known.transactions, known.blobs,
                values_insert (· ∈ backend.held) known.migrations owner⟩
  | close holder handle =>
      cases holder with
      | transaction =>
          refine registered.frame rfl rfl rfl ((holds_iff _).mp ?_)
          exact ⟨known.storeHandles, values_erase (· ∈ backend.held) known.transactions, known.blobs, known.migrations⟩
      | blob =>
          refine registered.frame rfl rfl rfl ((holds_iff _).mp ?_)
          exact ⟨known.storeHandles, known.transactions, values_erase (· ∈ backend.held) known.blobs, known.migrations⟩
      | migration =>
          refine registered.frame rfl rfl rfl ((holds_iff _).mp ?_)
          exact ⟨known.storeHandles, known.transactions, known.blobs, values_erase (· ∈ backend.held) known.migrations⟩
  | migrated migration schemaId schemaVersion =>
      rw [Sqlite.perform]
      split
      · exact registered
      · rw [setSchema]
        split <;> exact registered.frame rfl rfl rfl fun _ listed => listed
  | rolledBack store schemaId schemaVersion =>
      rw [Sqlite.perform]
      split
      · exact registered
      · rw [setSchema]
        split <;> exact registered.frame rfl rfl rfl fun _ listed => listed

end

theorem registered_create (root journalMode : String) (maxStores : Nat) :
    Registered (create root journalMode maxStores) where
  few := Nat.zero_le _
  issued := nofun
  named := nofun
  entered := nofun

/-- The open stores are the entries of the registry that something holds. -/
theorem Registered.perm_open (registered : Registered backend) :
    ((backend.stores.entries.filter fun entry => decide (entry.2 ∈ backend.held)).map (·.2)).Perm
      backend.openStores := by
  have nodup : ((backend.stores.entries.filter fun entry => decide (entry.2 ∈ backend.held)).map (·.2)).Nodup := by
    refine List.Nodup.map_on (fun first one second other same => ?_) (backend.stores.nodupKeys.nodup.filter _)
    have before := AList.mem_lookup_iff.mpr (List.mem_filter.mp one).1
    have after := AList.mem_lookup_iff.mpr (List.mem_filter.mp other).1
    exact Sigma.ext (registered.named first.1 second.1 first.2 before (same ▸ after)) (heq_of_eq same)
  refine (List.perm_ext_iff_of_nodup nodup (List.nodup_dedup _)).mpr fun object => ?_
  rw [List.mem_map, List.mem_dedup]
  constructor
  · rintro ⟨entry, listed, rfl⟩
    exact of_decide_eq_true (List.mem_filter.mp listed).2
  · intro held
    obtain ⟨name, found⟩ := registered.entered object held
    exact ⟨⟨name, object⟩, List.mem_filter.mpr ⟨AList.mem_lookup_iff.mp found, decide_eq_true held⟩, rfl⟩

/-- As many stores are open as are registered exactly when every registered store is held. -/
theorem Registered.full_iff (registered : Registered backend) : backend.stores.keys.length ≤ backend.openStores.length ↔
      ∀ name object, backend.stores.lookup name = some object → object ∈ backend.held := by
  have size : backend.stores.keys.length = backend.stores.entries.length := List.length_map _
  have count := registered.perm_open.length_eq
  rw [List.length_map] at count
  rw [size, ← count]
  constructor
  · intro all name object found
    have same := List.filter_sublist.length_le.antisymm all
    have every := List.length_filter_eq_length_iff.mp same
    exact of_decide_eq_true (every ⟨name, object⟩ (AList.mem_lookup_iff.mp found))
  · intro all
    refine (congrArg List.length (List.filter_eq_self.mpr fun entry listed => ?_)).ge
    exact decide_eq_true (all entry.1 entry.2 (AList.mem_lookup_iff.mpr listed))

end Invariant

/-- In every run a store is refused for the limit dishonestly exactly when the registry is full, a store that it
has registered is closed, and the store to open is not open. -/
theorem open_honest (root journalMode : String) (maxStores : Nat) (backend : Backend)
    (reached : system.Reaches (fun _ _ => True) (create root journalMode maxStores) backend)
    (descriptor : StoreDescriptor) (database : Database) :
    Honest backend descriptor database ↔ Admits backend descriptor := by
  have registered : Registered backend := by
    refine reached.invariant (registered_create root journalMode maxStores) ?_
    intro _ _ _ registered _ performed
    cases performed
    exact registered.perform
  unfold Honest Admits
  rw [refused_iff]
  constructor
  · intro honest
    by_cases complete : incompleteDescriptor descriptor = true
    · exact .inl complete
    by_cases runs : backend.running = true
    · cases locked : backend.lock descriptor.logicalName with
      | some object => exact .inr (.inr (.inl rfl))
      | none =>
          by_cases room : backend.stores.keys.length < backend.maxStores
          · exact .inr (.inr (.inr (.inl room)))
          · have full := honest ⟨Bool.not_eq_true _ ▸ complete, runs, locked, Nat.le_of_not_lt room⟩
            exact .inr (.inr (.inr (.inr (registered.full_iff.mp (Nat.le_trans registered.few full)))))
    · exact .inr (.inl (Bool.not_eq_true _ ▸ runs))
  · rintro admits ⟨complete, runs, locked, full⟩
    rcases admits with incomplete | stopped | held | room | all
    · rw [complete] at incomplete
      cases incomplete
    · rw [runs] at stopped
      cases stopped
    · rw [locked] at held
      cases held
    · exact absurd room (Nat.not_lt_of_le full)
    · exact Nat.le_trans full (registered.full_iff.mpr all)

/-- A store of one table. -/
def trips : StoreDescriptor where
  logicalName := "trips"
  access := .readWrite
  minimumDurability := .buffered
  capacityBytes := 64
  maxEntries := 2
  maxKeySize := 8
  maxValueSize := 8
  maxBlobSize := 8
  schemaId := "trips"
  schemaVersion := 1

/-- The provider has room for one store, which is opened and closed. -/
def closedRun : List Call := [.start true, .openStore trips {}, .closeStore 1]

/-- A store is closed and opened again. -/
theorem open_honest_reopened : ∃ backend,
    system.Reaches (fun _ _ => True) (create "/var" "persist" 2) backend ∧ backend.openStores = [] ∧
      (Honest backend trips {} ↔ Admits backend trips) := by
  have executed : (system.run (fun _ _ => true) (closedRun.map fun call _ => call) (create "/var" "persist" 2)).any
      (fun backend => decide (backend.openStores = [])) = true := by decide +kernel
  obtain ⟨backend, reached, closed⟩ := Concurrency.System.Reaches.exists_of_run _ (fun _ _ _ => trivial) _ _ executed
  exact ⟨backend, reached, of_decide_eq_true closed, open_honest _ _ _ backend reached trips {}⟩

/-- No store is open, and the store that was closed is refused for the limit. -/
theorem closed_store_refused : ∃ backend, system.Reaches (fun _ _ => True) (create "/var" "persist" 1) backend ∧
      (backend.stores.lookup "trips").isSome = true ∧ backend.openStores = [] ∧ Refused backend trips {} ∧
      ¬Honest backend trips {} := by
  have executed : (system.run (fun _ _ => true) (closedRun.map fun call _ => call) (create "/var" "persist" 1)).any
      (fun backend => decide ((backend.stores.lookup "trips").isSome = true ∧ backend.openStores = [] ∧
        Refused backend trips {} ∧ backend.maxStores = 1)) = true := by decide +kernel
  obtain ⟨backend, reached, facts⟩ := Concurrency.System.Reaches.exists_of_run _ (fun _ _ _ => trivial) _ _ executed
  obtain ⟨entered, closed, refused, limit⟩ := of_decide_eq_true facts
  refine ⟨backend, reached, entered, closed, refused, fun honest => ?_⟩
  have full := honest refused
  rw [closed, limit] at full
  cases full

end OpenVehicle.Per.Sqlite
