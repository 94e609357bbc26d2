/-
This file proves that the bytes a writer of a blob has accepted are the bytes that readers find after its
commit, in every run of a program with many objects.
-/

import OpenVehicle.Per.BlobPositions
import OpenVehicle.Per.Quotas

namespace OpenVehicle.Per

open Memory (Backend BlobOperation OnlyBlob unmarked)

variable {session later : BlobSession} {object : WriterObject} {id : Handle} {call : Backend → Backend}
variable {operation : BlobSession.Operation} {reader : BlobReader} {runtime : Runtime} {backend : Backend}
variable {key value : Bytes} {handle store : Handle} {name : String}

namespace BlobSession

section Invariant
variable {session : BlobSession}

/-- Writers and readers have handles of their own. -/
structure Orderly (session : BlobSession) : Prop where
  positive : 0 < session.runtime.backend.nextHandle
  stopped : session.runtime.running = false → Memory.Stopped session.runtime.backend
  writers : ∀ id object, session.writers.lookup id = some object → 0 < id ∧
    id < session.runtime.backend.nextHandle ∧ (object.writer.handle = 0 ∨ Tracks session.runtime id object)
  readers : ∀ id reader, session.readers.lookup id = some reader → 0 < id ∧
    id < session.runtime.backend.nextHandle ∧ (reader.handle = 0 ∨ reader.handle = id) ∧
    session.writers.lookup id = none

/-- The runtime moves on and keeps the operations of all handles but one. -/
structure Moves (session : BlobSession) (runtime : Runtime) (free : Handle → Prop) : Prop where
  grown : session.runtime.backend.nextHandle ≤ runtime.backend.nextHandle
  running : runtime.running = session.runtime.running
  stopped : Memory.Stopped session.runtime.backend → Memory.Stopped runtime.backend
  others : ∀ id, ¬free id → id < session.runtime.backend.nextHandle →
    runtime.backend.blobs.lookup id = session.runtime.backend.blobs.lookup id

variable {free : Handle → Prop}

section
variable (orderly : Orderly session)
include orderly

/-- The other writers keep their places. -/
theorem Orderly.tracks (moves : Moves session runtime free)
    (found : session.writers.lookup id = some object) (other : ¬free id) : 0 < id ∧
      id < runtime.backend.nextHandle ∧ (object.writer.handle = 0 ∨ Tracks runtime id object) := by
  obtain ⟨positive, issued, closed | tracks⟩ := orderly.writers id object found
  · exact ⟨positive, Nat.lt_of_lt_of_le issued moves.grown, .inl closed⟩
  · exact ⟨positive, Nat.lt_of_lt_of_le issued moves.grown,
      .inr (tracks.frame (moves.others id other issued) moves.running)⟩

theorem Orderly.ready (moves : Moves session runtime free) (found : session.readers.lookup id = some reader) : 0 < id ∧
      id < runtime.backend.nextHandle ∧ (reader.handle = 0 ∨ reader.handle = id) ∧
        session.writers.lookup id = none := by
  obtain ⟨positive, issued, handle, apart⟩ := orderly.readers id reader found
  exact ⟨positive, Nat.lt_of_lt_of_le issued moves.grown, handle, apart⟩

theorem Orderly.moved (moves : Moves session runtime fun _ => False) : Orderly { session with runtime := runtime } where
  positive := Nat.lt_of_lt_of_le orderly.positive moves.grown
  stopped := fun ended => moves.stopped (orderly.stopped (moves.running.symm.trans ended))
  writers := fun _ _ found => orderly.tracks moves found id
  readers := fun _ _ found => orderly.ready moves found

/-- A call on one writer changes this writer. -/
theorem Orderly.edited {object changed : WriterObject}
    (found : session.writers.lookup id = some object) (moves : Moves session runtime (· = id))
    (own : changed.writer.handle = 0 ∨ Tracks runtime id changed) :
    Orderly { session with runtime := runtime, writers := session.writers.insert id changed } where
  positive := Nat.lt_of_lt_of_le orderly.positive moves.grown
  stopped := fun ended => moves.stopped (orderly.stopped (moves.running.symm.trans ended))
  writers := fun other kept known => by
    change (session.writers.insert id changed).lookup other = some kept at known
    rcases FiniteMap.lookup_insert_cases known with ⟨rfl, rfl⟩ | ⟨same, known⟩
    · obtain ⟨positive, issued, _⟩ := orderly.writers other object found
      exact ⟨positive, Nat.lt_of_lt_of_le issued moves.grown, own⟩
    · exact orderly.tracks moves known same
  readers := fun other reader known => by
    obtain ⟨positive, issued, handle, apart⟩ := orderly.ready moves known
    refine ⟨positive, issued, handle, ?_⟩
    change (session.writers.insert id changed).lookup other = none
    rw [AList.lookup_insert_ne, apart]
    intro same
    rw [same, found] at apart
    cases apart

/-- A reader that is closed gives up its operation. -/
theorem Orderly.closed {changed : BlobReader}
    (found : session.readers.lookup id = some reader) (moves : Moves session runtime (· = id))
    (gone : changed.handle = 0) :
    Orderly { session with runtime := runtime, readers := session.readers.insert id changed } where
  positive := Nat.lt_of_lt_of_le orderly.positive moves.grown
  stopped := fun ended => moves.stopped (orderly.stopped (moves.running.symm.trans ended))
  writers := fun other object known => by
    refine orderly.tracks moves known fun same => ?_
    rw [same, (orderly.readers id reader found).2.2.2] at known
    cases known
  readers := fun other kept known => by
    change (session.readers.insert id changed).lookup other = some kept at known
    rcases FiniteMap.lookup_insert_cases known with ⟨rfl, rfl⟩ | ⟨_, known⟩
    · obtain ⟨positive, issued, _, apart⟩ := orderly.ready moves found
      exact ⟨positive, issued, .inl gone, apart⟩
    · exact orderly.ready moves known

end

variable {blob : BlobOperation}

/-- A reader that is opened gets the next handle. -/
theorem Orderly.opened (orderly : Orderly session) (handle : reader.handle = session.runtime.backend.nextHandle) :
    Orderly { session with
      runtime.backend := Memory.addBlob session.runtime.backend blob
      readers := session.readers.insert reader.handle reader } := by
  have moves : Moves session { session.runtime with backend := Memory.addBlob session.runtime.backend blob }
      fun _ => False :=
    ⟨Nat.le_succ _, rfl, fun stopped => ⟨stopped.running, stopped.storeHandles, stopped.transactions, stopped.cursors⟩,
      fun other _ issued => AList.lookup_insert_ne (Nat.ne_of_lt issued)⟩
  refine ⟨Nat.succ_pos _, fun ended => moves.stopped (orderly.stopped ended),
    fun other object known => orderly.tracks moves known id, fun other kept known => ?_⟩
  change (session.readers.insert reader.handle reader).lookup other = some kept at known
  rcases FiniteMap.lookup_insert_cases known with ⟨rfl, rfl⟩ | ⟨_, known⟩
  · refine ⟨handle ▸ orderly.positive, handle ▸ Nat.lt_succ_self _, .inr rfl, ?_⟩
    cases present : session.writers.lookup kept.handle with
    | none => rfl
    | some object => exact absurd (orderly.writers _ object present).2.1 (handle ▸ Nat.lt_irrefl _)
  · exact orderly.ready moves known

/-- A writer that is begun gets the next handle. -/
theorem Orderly.begun (orderly : Orderly session) (object : WriterObject)
    (handle : object.writer.handle = session.runtime.backend.nextHandle)
    (nextHandle : backend.nextHandle = session.runtime.backend.nextHandle)
    (blobs : backend.blobs = session.runtime.backend.blobs)
    (stopped : Memory.Stopped session.runtime.backend → Memory.Stopped backend)
    (own : Tracks { session.runtime with backend := Memory.addBlob backend blob } object.writer.handle object) :
    Orderly { session with
      runtime.backend := Memory.addBlob backend blob
      writers := session.writers.insert object.writer.handle object } := by
  have moves : Moves session { session.runtime with backend := Memory.addBlob backend blob } fun _ => False := by
    refine ⟨nextHandle ▸ Nat.le_succ _, rfl, fun idle => ?_, fun other _ issued => ?_⟩
    · exact ⟨(stopped idle).running, (stopped idle).storeHandles, (stopped idle).transactions, (stopped idle).cursors⟩
    change (backend.blobs.insert backend.nextHandle blob).lookup other = _
    rw [AList.lookup_insert_ne (nextHandle ▸ Nat.ne_of_lt issued), blobs]
  have issued : session.runtime.backend.nextHandle < (Memory.addBlob backend blob).nextHandle :=
    nextHandle ▸ Nat.lt_succ_self _
  refine ⟨Nat.succ_pos _, fun ended => moves.stopped (orderly.stopped ended), fun other kept known => ?_,
    fun other reader known => ?_⟩
  · change (session.writers.insert object.writer.handle object).lookup other = some kept at known
    rcases FiniteMap.lookup_insert_cases known with ⟨rfl, rfl⟩ | ⟨_, known⟩
    · exact ⟨handle ▸ orderly.positive, handle ▸ issued, .inr own⟩
    · exact orderly.tracks moves known id
  · obtain ⟨positive, below, closed, apart⟩ := orderly.ready moves known
    refine ⟨positive, below, closed, ?_⟩
    change (session.writers.insert object.writer.handle object).lookup other = none
    rw [AList.lookup_insert_ne, apart]
    rw [handle]
    exact Nat.ne_of_lt (orderly.readers other reader known).2.1

end Invariant

theorem moves_of_only (only : OnlyBlob id session.runtime.backend backend) :
    Moves session { session.runtime with backend := backend } (· = id) :=
  ⟨only.nextHandle.ge, rfl, only.stopped, fun other different _ => only.others other different⟩

theorem moves_refl : Moves session session.runtime (· = id) :=
  ⟨Nat.le_refl _, rfl, fun stopped => stopped, fun _ _ _ => rfl⟩

theorem Orderly.write (orderly : Orderly session) {input : Bytes} {result : Result Nat}
    (performed : session.write id input = some (result, later)) : Orderly later := by
  obtain ⟨object, found, performed⟩ := Option.map_eq_some_iff.mp performed
  obtain ⟨positive, _, closed | tracks⟩ := orderly.writers id object found
  · have refused : object.writer.write session.runtime input =
        (.error ⟨.invalidArgument, "blob write exceeds its declared size"⟩, object.writer, session.runtime) := by
      rw [BlobWriter.write, if_pos (.inl (by rw [BlobWriter.valid, closed]; rfl))]
    rw [refused] at performed
    obtain ⟨_, rfl⟩ := Prod.mk.inj performed
    exact orderly.edited found moves_refl (.inl closed)
  · rcases tracks.write_cases positive input with ⟨fits, rfl, written⟩ | ⟨fits, _, live, blob, present, written⟩ |
      ⟨_, error, written⟩
    all_goals
      rw [written] at performed
      obtain ⟨_, rfl⟩ := Prod.mk.inj performed
    · refine orderly.edited found moves_refl (.inr (tracks.rechunked ?_))
      rw [List.flatten_append, List.flatten_singleton, List.append_nil, WriterObject.written]
    · exact orderly.edited found (moves_of_only (Memory.only_setBlob rfl rfl fun stopped => stopped))
        (.inr (tracks.wrote fits present))
    · exact orderly.edited found moves_refl (.inr tracks)

theorem Orderly.commit (orderly : Orderly session) {result : Result CommitResult}
    (performed : session.commit id = some (result, later)) : Orderly later := by
  obtain ⟨object, found, performed⟩ := Option.map_eq_some_iff.mp performed
  obtain ⟨positive, _, closed | tracks⟩ := orderly.writers id object found
  · have refused : object.writer.commit session.runtime =
        (.error ⟨.invalidState, "blob replacement is incomplete"⟩, object.writer, session.runtime) := by
      rw [BlobWriter.commit, if_pos (.inl (by rw [BlobWriter.valid, closed]; rfl))]
    rw [refused] at performed
    obtain ⟨_, rfl⟩ := Prod.mk.inj performed
    exact orderly.edited found moves_refl (.inl closed)
  · rcases tracks.commit_cases positive with ⟨dead, error, committed⟩ |
      ⟨complete, live, _, error, blob, present, committed⟩ | ⟨complete, live, _, outcome, blob, present, committed⟩
    all_goals
      rw [committed] at performed
      obtain ⟨_, rfl⟩ := Prod.mk.inj performed
    · refine orderly.edited found moves_refl (.inr ?_)
      rw [tracks.counted]
      by_cases complete : object.written.length = object.writer.size
      · rw [beq_iff_eq.mpr complete, Bool.or_true]
        exact tracks.refused complete fun live => dead ⟨complete, live⟩
      · rw [beq_eq_false_iff_ne.mpr complete, Bool.or_false]
        exact tracks
    · refine orderly.edited found (moves_of_only (Memory.only_setBlob ?_ ?_ ?_)) (.inr ?_)
      · exact Backend.nextHandle_release _ _ _
      · exact Backend.blobs_release _ _ _
      · exact fun stopped => Memory.stopped_release stopped _ _
      · rw [tracks.counted, beq_iff_eq.mpr complete, Bool.or_true]
        exact tracks.conflicted present
    · have only : OnlyBlob id session.runtime.backend (Memory.setBlob (session.runtime.backend.update object.store
          (Memory.commitBlobData object.key object.written)) id (ended blob)) :=
        Memory.only_setBlob rfl rfl fun stopped => Memory.stopped_update stopped _ _
      exact orderly.edited found (moves_of_only (only.trans Memory.only_closeBlob)) (.inl rfl)

/-- An open object that is given up may call the provider. -/
theorem moves_giveUp (only : handle ≠ 0 → OnlyBlob id session.runtime.backend (call session.runtime.backend)) :
    Moves session (session.runtime.giveUp handle call) (· = id) := by
  unfold Runtime.giveUp
  split
  · exact moves_refl
  · rename_i active
    exact moves_of_only (only (not_or.mp active).1)

theorem Orderly.abort (orderly : Orderly session) (performed : session.abort id = some later) : Orderly later := by
  obtain ⟨object, found, rfl⟩ := Option.map_eq_some_iff.mp performed
  have moves : Moves session (object.writer.abort session.runtime).2 (· = id) := by
    unfold BlobWriter.abort
    dsimp only
    refine moves_giveUp fun active => ?_
    obtain ⟨_, _, closed | tracks⟩ := orderly.writers id object found
    · exact absurd closed active
    · rw [tracks.handle]
      exact Memory.only_abortBlob.trans Memory.only_closeBlob
  exact orderly.edited found moves (.inl rfl)

theorem Orderly.close (orderly : Orderly session) (performed : session.close id = some later) : Orderly later := by
  obtain ⟨reader, found, rfl⟩ := Option.map_eq_some_iff.mp performed
  have moves : Moves session (reader.close session.runtime).2 (· = id) := by
    unfold BlobReader.close
    dsimp only
    refine moves_giveUp fun active => ?_
    rw [(orderly.readers id reader found).2.2.1.resolve_left active]
    exact Memory.only_closeBlob
  exact orderly.closed found moves rfl

/-- A blob that a store has can be opened for reading. -/
theorem openBlob_found (valid : store ≠ 0) (named : key ≠ [])
    (opened : session.storeOf store = some name) (found : (session.data name).blobs.lookup key = some value) :
    ∃ blob reader, session.openBlob store key = (.ok reader, { session with
        runtime.backend := Memory.addBlob session.runtime.backend blob
        readers := session.readers.insert reader.handle reader }) ∧
      reader.handle = session.runtime.backend.nextHandle ∧ reader.size = value.length ∧
      blob.write = false ∧ blob.finished = false ∧ blob.value = value := by
  obtain ⟨item, known, rfl⟩ := Option.map_eq_some_iff.mp opened
  change (session.runtime.backend.data item.store).blobs.lookup key = some value at found
  refine ⟨⟨item.store, key, value, (session.runtime.backend.data item.store).generation, value.length, .buffered,
    false, false⟩, ⟨session.runtime.backend.nextHandle, value.length,
    (session.runtime.backend.data item.store).generation⟩, ?_, rfl, rfl, rfl, rfl, rfl⟩
  simp only [openBlob, Runtime.openBlob, if_neg (not_or.mpr ⟨valid, named⟩), Runtime.relay, Memory.openBlobRead,
    if_neg named, known, found]

theorem openBlob_cases (session : BlobSession) (store : Handle) (key : Bytes) :
    (∃ error, session.openBlob store key = (.error error, session)) ∨
      ∃ blob reader, session.openBlob store key = (.ok reader, { session with
          runtime.backend := Memory.addBlob session.runtime.backend blob
          readers := session.readers.insert reader.handle reader }) ∧
        reader.handle = session.runtime.backend.nextHandle := by
  by_cases invalid : store = 0 ∨ key = []
  · exact .inl ⟨_, by simp only [BlobSession.openBlob, Runtime.openBlob, if_pos invalid]; rfl⟩
  · obtain ⟨valid, named⟩ := not_or.mp invalid
    cases opened : session.storeOf store with
    | none =>
        have unknown := Option.map_eq_none_iff.mp opened
        refine .inl ⟨session.runtime.makeError .notFound, ?_⟩
        simp only [BlobSession.openBlob, Runtime.openBlob, if_neg invalid, Runtime.relay, Memory.openBlobRead,
          if_neg named, unknown]
        rfl
    | some name =>
        cases found : (session.data name).blobs.lookup key with
        | none =>
            obtain ⟨item, known, rfl⟩ := Option.map_eq_some_iff.mp opened
            change (session.runtime.backend.data item.store).blobs.lookup key = none at found
            refine .inl ⟨session.runtime.makeError .notFound, ?_⟩
            simp only [BlobSession.openBlob, Runtime.openBlob, if_neg invalid, Runtime.relay, Memory.openBlobRead,
              if_neg named, known, found]
            rfl
        | some value =>
            obtain ⟨blob, reader, performed, handle, _⟩ := openBlob_found valid named opened found
            exact .inr ⟨blob, reader, performed, handle⟩

theorem Orderly.openBlob (orderly : Orderly session) (store : Handle) (key : Bytes) :
    Orderly (session.openBlob store key).2 := by
  rcases openBlob_cases session store key with ⟨error, refused⟩ | ⟨blob, reader, opened, handle⟩
  · rw [refused]
    exact orderly
  · rw [opened]
    exact orderly.opened handle

/-- The object of a writer that has just begun. -/
def beginning (handle : Handle) (store : String) (key : Bytes) (size generation : Nat) : WriterObject :=
  { writer := ⟨handle, size, 0⟩, store := store, key := key, generation := generation }

theorem beginBlobReplace_cases (session : BlobSession) (store : Handle) (key : Bytes) (size : Nat)
    (durability : Durability) :
    (∃ error, session.beginBlobReplace store key size durability = (.error error, session)) ∨
      key ≠ [] ∧ ∃ item, session.runtime.backend.storeHandles.lookup store = some item ∧
        session.beginBlobReplace store key size durability =
          (.ok ⟨session.runtime.backend.nextHandle, size, 0⟩, { session with
            runtime.backend := Memory.addBlob (session.runtime.backend.update item.store Memory.occupy)
              (Memory.replacing item.store key size (session.data item.store).generation durability)
            writers := session.writers.insert session.runtime.backend.nextHandle
              (beginning session.runtime.backend.nextHandle item.store key size
                (session.data item.store).generation) }) := by
  by_cases invalid : store = 0 ∨ key = []
  · exact .inl ⟨_, by simp only [BlobSession.beginBlobReplace, Runtime.beginBlobReplace, if_pos invalid]; rfl⟩
  · rcases Memory.beginBlobReplace_cases session.runtime.backend store key size durability with
      ⟨failure, refused⟩ | ⟨item, found, begun⟩
    · refine .inl ⟨session.runtime.makeError failure.status, ?_⟩
      simp only [BlobSession.beginBlobReplace, Runtime.beginBlobReplace, if_neg invalid, Runtime.relay, refused]
    · refine .inr ⟨(not_or.mp invalid).2, item, found, ?_⟩
      have name : (session.storeOf store).getD "" = item.store := by rw [storeOf, found]; rfl
      simp only [BlobSession.beginBlobReplace, Runtime.beginBlobReplace, if_neg invalid, Runtime.relay, begun, name]
      rfl

theorem Orderly.beginBlobReplace (orderly : Orderly session) (store : Handle) (key : Bytes) (size : Nat)
    (durability : Durability) : Orderly (session.beginBlobReplace store key size durability).2 := by
  rcases beginBlobReplace_cases session store key size durability with ⟨error, refused⟩ | ⟨named, item, found, begun⟩
  · rw [refused]
    exact orderly
  · rw [begun]
    refine orderly.begun (beginning session.runtime.backend.nextHandle item.store key size
      (session.data item.store).generation) rfl rfl rfl (fun stopped => Memory.stopped_update stopped _ _) ?_
    have lookup : (Memory.addBlob (session.runtime.backend.update item.store Memory.occupy)
        (Memory.replacing item.store key size (session.data item.store).generation
          durability)).blobs.lookup session.runtime.backend.nextHandle = some _ := AList.lookup_insert _
    refine ⟨rfl, named, rfl, Nat.zero_le _, ?_, fun blob known => ?_⟩
    · refine (congrArg Option.isSome lookup).trans ?_
      cases runs : session.runtime.running with
      | true => rfl
      | false =>
          rw [(orderly.stopped runs).storeHandles] at found
          cases found
    · obtain rfl := Option.some.inj (lookup.symm.trans known)
      exact ⟨rfl, rfl, rfl, rfl, rfl, List.length_replicate, rfl, List.take_zero⟩

theorem Orderly.stop (orderly : Orderly session) : Orderly session.stop := by
  unfold BlobSession.stop Runtime.stop
  split
  · have grown : (Memory.stop session.runtime.backend).nextHandle = session.runtime.backend.nextHandle :=
      Memory.nextHandle_stop _
    refine ⟨grown ▸ orderly.positive, fun _ => ⟨rfl, rfl, rfl, rfl⟩, fun other object known => ?_,
      fun other reader known => ?_⟩
    · obtain ⟨positive, issued, closed | tracks⟩ := orderly.writers other object known
      · exact ⟨positive, grown ▸ issued, .inl closed⟩
      · exact ⟨positive, grown ▸ issued, .inr ⟨tracks.handle, tracks.named, tracks.counted, tracks.bounded, rfl,
          fun _ present => nomatch present⟩⟩
    · obtain ⟨positive, issued, handle, apart⟩ := orderly.readers other reader known
      exact ⟨positive, grown ▸ issued, handle, apart⟩
  · exact orderly

theorem moves_otherCall {call : Call} (elsewhere : otherCall call = true) :
    Moves session { session.runtime with backend := (Memory.perform session.runtime.backend call).2 }
      fun _ => False where
  grown := (Memory.perform_effect session.runtime.backend call).nextHandle_le
  running := rfl
  stopped := fun stopped => Memory.stopped_kept stopped fun same => by rw [same] at elsewhere; cases elsewhere
  others := fun _ _ _ => by rw [Memory.blobs_otherCall elsewhere]

/-- Every step keeps the handles and the positions in order. -/
theorem Orderly.perform (orderly : Orderly session)
    (performed : BlobSession.perform operation session = some later) : Orderly later := by
  cases operation with
  | openBlob store key =>
      cases performed
      exact orderly.openBlob store key
  | beginBlobReplace store key size durability =>
      cases performed
      exact orderly.beginBlobReplace store key size durability
  | read reader offset length =>
      obtain ⟨_, _, rfl⟩ := Option.map_eq_some_iff.mp performed
      exact orderly
  | close reader => exact orderly.close performed
  | write writer input =>
      obtain ⟨_, written, rfl⟩ := Option.map_eq_some_iff.mp performed
      exact orderly.write written
  | commit writer =>
      obtain ⟨_, committed, rfl⟩ := Option.map_eq_some_iff.mp performed
      exact orderly.commit committed
  | abort writer => exact orderly.abort performed
  | stop =>
      cases performed
      exact orderly.stop
  | other call =>
      rw [BlobSession.perform] at performed
      split at performed
      · rename_i elsewhere
        cases performed
        exact orderly.moved (moves_otherCall elsewhere)
      · cases performed

theorem orderly_start (maxStores maxTransactions : Nat) : Orderly (start maxStores maxTransactions) where
  positive := Nat.one_pos
  stopped := nofun
  writers := nofun
  readers := nofun

section Readers
variable {value : Bytes}

/-- An open reader serves a value. -/
def Serves (session : BlobSession) (id : Handle) (value : Bytes) : Prop :=
  ∃ reader, session.readers.lookup id = some reader ∧ Holds session.runtime id reader value

theorem Serves.frame (serves : Serves session id value) (readers : later.readers.lookup id = session.readers.lookup id)
    (blobs : later.runtime.backend.blobs.lookup id = session.runtime.backend.blobs.lookup id) :
    Serves later id value := by
  obtain ⟨reader, found, handle, size, present⟩ := serves
  exact ⟨reader, readers ▸ found, handle, size, blobs ▸ present⟩

/-- A writer has another handle than a reader. -/
theorem Orderly.apart (orderly : Orderly session) (known : session.readers.lookup id = some reader)
    {writer : Handle} (found : session.writers.lookup writer = some object) : id ≠ object.writer.handle := by
  obtain ⟨positive, _, _, apart⟩ := orderly.readers id reader known
  obtain ⟨_, _, closed | tracks⟩ := orderly.writers writer object found
  · exact fun same => absurd positive (same ▸ closed ▸ Nat.lt_irrefl _)
  · rw [tracks.handle]
    intro same
    rw [same, found] at apart
    cases apart

/-- Only its own close and the stop of the runtime end a reader. -/
theorem Serves.perform (serves : Serves session id value) (orderly : Orderly session)
    (performed : BlobSession.perform operation session = some later)
    (kept : operation ≠ .close id ∧ operation ≠ .stop) : Serves later id value := by
  have held := serves
  obtain ⟨reader, known, _⟩ := held
  have issued := (orderly.readers id reader known).2.1
  cases operation with
  | openBlob store key =>
      cases performed
      rcases openBlob_cases session store key with ⟨error, refused⟩ | ⟨blob, other, opened, handle⟩
      · rw [refused]
        exact serves
      · rw [opened]
        have different : id ≠ session.runtime.backend.nextHandle := Nat.ne_of_lt issued
        exact serves.frame (AList.lookup_insert_ne (handle ▸ different)) (AList.lookup_insert_ne different)
  | beginBlobReplace store key size durability =>
      cases performed
      rcases beginBlobReplace_cases session store key size durability with ⟨error, refused⟩ | ⟨_, item, found, begun⟩
      · rw [refused]
        exact serves
      · rw [begun]
        exact serves.frame rfl (AList.lookup_insert_ne (Nat.ne_of_lt issued))
  | read other offset length =>
      obtain ⟨_, _, rfl⟩ := Option.map_eq_some_iff.mp performed
      exact serves
  | close other =>
      have different : id ≠ other := fun same => kept.1 (congrArg Operation.close same.symm)
      obtain ⟨object, found, rfl⟩ := Option.map_eq_some_iff.mp performed
      obtain ⟨_, _, handle, _⟩ := orderly.readers other object found
      have apart : id ≠ object.handle := by
        rcases handle with closed | own
        · exact closed ▸ Nat.ne_of_gt (orderly.readers id reader known).1
        · exact own ▸ different
      exact serves.frame (AList.lookup_insert_ne different) ((giveUp_only Memory.only_closeBlob).others id apart)
  | write writer input =>
      obtain ⟨_, written, rfl⟩ := Option.map_eq_some_iff.mp performed
      obtain ⟨object, found, written⟩ := Option.map_eq_some_iff.mp written
      have only := (@write_only session.runtime object.writer input).others id (orderly.apart known found)
      rcases outcome : object.writer.write session.runtime input with ⟨_ | _, changed, later⟩
      all_goals
        rw [outcome] at written only
        obtain rfl := written
        exact serves.frame rfl only
  | commit writer =>
      obtain ⟨_, committed, rfl⟩ := Option.map_eq_some_iff.mp performed
      obtain ⟨object, found, committed⟩ := Option.map_eq_some_iff.mp committed
      have only := (@commit_only session.runtime object.writer).others id (orderly.apart known found)
      rcases outcome : object.writer.commit session.runtime with ⟨_ | _, changed, later⟩
      all_goals
        rw [outcome] at committed only
        obtain rfl := committed
        exact serves.frame rfl only
  | abort writer =>
      obtain ⟨object, found, rfl⟩ := Option.map_eq_some_iff.mp performed
      refine serves.frame rfl ((giveUp_only ?_).others id (orderly.apart known found))
      exact Memory.only_abortBlob.trans Memory.only_closeBlob
  | stop => exact absurd rfl kept.2
  | other call =>
      rw [BlobSession.perform] at performed
      split at performed
      · rename_i elsewhere
        cases performed
        refine serves.frame rfl ?_
        change (Memory.perform session.runtime.backend call).2.blobs.lookup id = _
        rw [Memory.blobs_otherCall elsewhere]
      · cases performed

end Readers

/-- A reader returns the slices of a value and refuses what lies outside. -/
def Reads (session : BlobSession) (reader : Handle) (value : Bytes) : Prop :=
  ∀ offset length, session.read reader offset length = some
    (if offset ≤ value.length ∧ length ≤ value.length - offset then .ok ((value.drop offset).take length)
      else .error ⟨.invalidArgument, "blob read is outside its declared size"⟩)

/-- A writer accepts the chunks that fit, commits what it has accepted when this has the declared size, and
changes no store otherwise. -/
structure Streams (session : BlobSession) (writer : Handle) (object : WriterObject) : Prop where
  accepted : ∀ input, (∃ count later, session.write writer input = some (.ok count, later)) ↔
    object.written.length + input.length ≤ object.writer.size ∧ (input = [] ∨ Live session.runtime object)
  counted : ∀ input count later, session.write writer input = some (.ok count, later) →
    count = input.length ∧ ∃ changed, later.writers.lookup writer = some changed ∧
      changed.written = object.written ++ input
  untouched : ∀ input result later, session.write writer input = some (result, later) →
    ∀ store, later.data store = session.data store
  abandoned : ∀ later, session.abort writer = some later →
    ∀ store, unmarked (later.data store) = unmarked (session.data store)
  commits : (∃ result later, session.commit writer = some (.ok result, later)) ↔
    object.written.length = object.writer.size ∧ Live session.runtime object ∧
      (session.data object.store).generation = object.generation
  committed : ∀ result later, session.commit writer = some (.ok result, later) → ∀ store, later.data store =
    if store = object.store then Memory.commitBlobData object.key object.written (session.data store)
    else session.data store
  refused : ∀ error later, session.commit writer = some (.error error, later) →
    ∀ store, unmarked (later.data store) = unmarked (session.data store)

/-- A write is accepted, or it leaves everything as it is. -/
theorem write_spec (found : session.writers.lookup id = some object) (positive : 0 < id)
    (tracks : Tracks session.runtime id object) (input : Bytes) :
    ((object.written.length + input.length ≤ object.writer.size ∧ (input = [] ∨ Live session.runtime object)) ∧
      ∃ later changed, session.write id input = some (.ok input.length, later) ∧
        later.writers.lookup id = some changed ∧ changed.written = object.written ++ input ∧
        ∀ store, later.data store = session.data store) ∨
    (¬(object.written.length + input.length ≤ object.writer.size ∧ (input = [] ∨ Live session.runtime object)) ∧
      ∃ error later, session.write id input = some (.error error, later) ∧
        ∀ store, later.data store = session.data store) := by
  have written : (object.chunks ++ [input]).flatten = object.written ++ input := by
    rw [List.flatten_append, List.flatten_singleton, WriterObject.written]
  have known : session.write id input =
      some (session.wrote id object input (object.writer.write session.runtime input)) := congrArg (Option.map _) found
  rcases tracks.write_cases positive input with ⟨fits, rfl, performed⟩ | ⟨fits, _, live, blob, _, performed⟩ |
    ⟨refused, error, performed⟩
  all_goals rw [performed] at known
  · exact .inl ⟨⟨fits, .inl rfl⟩, _, _, known, AList.lookup_insert _, written, fun _ => rfl⟩
  · exact .inl ⟨⟨fits, .inr live⟩, _, _, known, AList.lookup_insert _, written, fun _ => rfl⟩
  · exact .inr ⟨refused, error, _, known, fun _ => rfl⟩

/-- A commit stores the accepted bytes, or it changes no content. -/
theorem commit_spec (found : session.writers.lookup id = some object) (positive : 0 < id)
    (tracks : Tracks session.runtime id object) :
    ((object.written.length = object.writer.size ∧ Live session.runtime object ∧
      (session.data object.store).generation = object.generation) ∧
      ∃ result later, session.commit id = some (.ok result, later) ∧ ∀ store, later.data store =
        if store = object.store then Memory.commitBlobData object.key object.written (session.data store)
        else session.data store) ∨ (¬(object.written.length = object.writer.size ∧ Live session.runtime object ∧
      (session.data object.store).generation = object.generation) ∧
      ∃ error later, session.commit id = some (.error error, later) ∧
        ∀ store, unmarked (later.data store) = unmarked (session.data store)) := by
  have known : session.commit id = some (session.committed id object (object.writer.commit session.runtime)) :=
    congrArg (Option.map _) found
  rcases tracks.commit_cases positive with ⟨dead, error, performed⟩ |
    ⟨_, _, moved, error, blob, _, performed⟩ | ⟨complete, live, current, result, blob, _, performed⟩
  all_goals rw [performed] at known
  · exact .inr ⟨fun both => dead ⟨both.1, both.2.1⟩, error, _, known, fun _ => rfl⟩
  · exact .inr ⟨fun both => moved both.2.2, error, _, known, fun store => Memory.unmarked_release _ _ _⟩
  · refine .inl ⟨⟨complete, live, current⟩, result, _, known, fun store => ?_⟩
    have idle : (ended blob).writing = false := by rw [ended, BlobOperation.writing, Bool.not_true, Bool.and_false]
    refine (Memory.data_closeBlob (AList.lookup_insert _) idle store).trans ?_
    change (session.runtime.backend.update object.store _).data store = _
    rw [Backend.data_update]
    split
    · rename_i same
      rw [same]
      rfl
    · rfl

theorem unmarked_giveUp
    (kept : ∀ store, unmarked ((call runtime.backend).data store) = unmarked (runtime.backend.data store))
    (store : String) : unmarked ((runtime.giveUp handle call).backend.data store) =
      unmarked (runtime.backend.data store) := by
  unfold Runtime.giveUp
  split
  · rfl
  · exact kept store

theorem Orderly.streams (orderly : Orderly session) (found : session.writers.lookup id = some object)
    (valid : object.writer.valid = true) : Streams session id object := by
  obtain ⟨positive, _, closed | tracks⟩ := orderly.writers id object found
  · rw [BlobWriter.valid, closed] at valid
    cases valid
  refine ⟨fun input => ?_, fun input count later performed => ?_, fun input result later performed => ?_,
    fun later performed => ?_, ?_, fun result later performed => ?_, fun error later performed => ?_⟩
  · rcases write_spec found positive tracks input with ⟨fits, later, _, performed, _⟩ |
      ⟨misfit, error, later, performed, _⟩
    · exact iff_of_true ⟨_, later, performed⟩ fits
    · refine iff_of_false ?_ misfit
      rintro ⟨_, _, other⟩
      rw [performed] at other
      cases other
  · rcases write_spec found positive tracks input with ⟨_, _, changed, written, known, bytes, _⟩ | ⟨_, _, _, written, _⟩
    · rw [written] at performed
      cases performed
      exact ⟨rfl, changed, known, bytes⟩
    · rw [written] at performed
      cases performed
  · rcases write_spec found positive tracks input with ⟨_, _, _, written, _, _, same⟩ | ⟨_, _, _, written, same⟩
    · rw [written] at performed
      cases performed
      exact same
    · rw [written] at performed
      cases performed
      exact same
  · obtain ⟨_, known, rfl⟩ := Option.map_eq_some_iff.mp performed
    exact unmarked_giveUp fun store =>
      (Memory.unmarked_closeBlob store).trans (Memory.unmarked_abortBlob store)
  · rcases commit_spec found positive tracks with ⟨ready, result, later, performed, _⟩ |
      ⟨unready, error, later, performed, _⟩
    · exact iff_of_true ⟨result, later, performed⟩ ready
    · refine iff_of_false ?_ unready
      rintro ⟨_, _, other⟩
      rw [performed] at other
      cases other
  · rcases commit_spec found positive tracks with ⟨_, _, _, committed, data⟩ | ⟨_, _, _, committed, _⟩
    · rw [committed] at performed
      cases performed
      exact data
    · rw [committed] at performed
      cases performed
  · rcases commit_spec found positive tracks with ⟨_, _, _, committed, _⟩ | ⟨_, _, _, committed, data⟩
    · rw [committed] at performed
      cases performed
    · rw [committed] at performed
      cases performed
      exact data

/-- A blob that is opened serves its bytes in every run that keeps its reader. -/
theorem Orderly.serves (orderly : Orderly session)
    (valid : store ≠ 0) (named : key ≠ []) (opened : session.storeOf store = some name)
    (found : (session.data name).blobs.lookup key = some value) :
    ∃ reader opened, session.openBlob store key = (.ok reader, opened) ∧ reader.size = value.length ∧
      ∀ later, system.Reaches (fun _ operation => operation ≠ .close reader.handle ∧ operation ≠ .stop) opened later →
        Reads later reader.handle value := by
  obtain ⟨blob, reader, performed, handle, size, reads, unfinished, rfl⟩ := openBlob_found valid named opened found
  refine ⟨reader, _, performed, size, fun later reached => ?_⟩
  have start : Orderly (session.openBlob store key).2 := orderly.openBlob store key
  rw [performed] at start
  have serves : Serves { session with
      runtime.backend := Memory.addBlob session.runtime.backend blob
      readers := session.readers.insert reader.handle reader } reader.handle blob.value := by
    refine ⟨reader, AList.lookup_insert _, rfl, size, blob, ?_, reads, unfinished, rfl⟩
    rw [handle]
    exact AList.lookup_insert _
  have kept : Orderly later ∧ Serves later reader.handle blob.value := by
    apply reached.invariant ⟨start, serves⟩
    intro _ _ _ both kept moved
    exact ⟨both.1.perform moved, both.2.perform both.1 moved kept⟩
  obtain ⟨orderly, other, known, holds⟩ := kept
  intro offset length
  have positive := (orderly.readers _ other known).1
  rw [read, known, Option.map_some, holds.read_eq (Nat.ne_of_gt positive)]

/-- In every reached state an open writer streams its chunks. The blob it commits is read back as the slices of
their concatenation while it stays in place. -/
theorem blob_round_trip (maxStores maxTransactions : Nat) (session : BlobSession)
    (reached : system.Reaches (fun _ _ => True) (start maxStores maxTransactions) session)
    (writer : Handle) (object : WriterObject) (found : session.writers.lookup writer = some object)
    (valid : object.writer.valid = true) : Streams session writer object ∧
      ∀ result committed, session.commit writer = some (.ok result, committed) →
        ∀ kept, system.Reaches (fun _ _ => True) committed kept → (kept.data object.store).blobs.lookup object.key =
            (committed.data object.store).blobs.lookup object.key →
          ∀ store, store ≠ 0 → kept.storeOf store = some object.store →
            ∃ reader opened, kept.openBlob store object.key = (.ok reader, opened) ∧
              reader.size = object.chunks.flatten.length ∧ ∀ later,
                system.Reaches (fun _ operation => operation ≠ .close reader.handle ∧ operation ≠ .stop) opened later →
                  Reads later reader.handle object.chunks.flatten := by
  have orderly : Orderly session :=
    reached.invariant (orderly_start _ _) fun _ _ _ orderly _ performed => orderly.perform performed
  have streams := orderly.streams found valid
  refine ⟨streams, fun result committed performed kept run same store usable known => ?_⟩
  have later : Orderly kept :=
    run.invariant (orderly.commit performed) fun _ _ _ orderly _ performed => orderly.perform performed
  have named : object.key ≠ [] := by
    obtain ⟨_, _, closed | tracks⟩ := orderly.writers writer object found
    · rw [BlobWriter.valid, closed] at valid
      cases valid
    · exact tracks.named
  refine later.serves usable named known ?_
  rw [same, streams.committed result committed performed, if_pos rfl]
  exact Finmap.lookup_insert _

/-- A blob of three bytes is written in two chunks with an empty one between them. -/
def chunkedRun : List Operation :=
  [.other (.openStore Memory.cabin), .beginBlobReplace 1 [9] 3 .buffered, .write 2 [1, 2], .write 2 [], .write 2 [3]]

/-- A blob is written in three chunks, one of them empty. -/
theorem blob_round_trip_chunked : ∃ session object,
    system.Reaches (fun _ _ => True) (start 4 4) session ∧ session.writers.lookup 2 = some object ∧
      object.chunks = [[1, 2], [], [3]] ∧ Streams session 2 object ∧
      ∀ result committed, session.commit 2 = some (.ok result, committed) →
        ∀ kept, system.Reaches (fun _ _ => True) committed kept → (kept.data object.store).blobs.lookup object.key =
            (committed.data object.store).blobs.lookup object.key →
          ∀ store, store ≠ 0 → kept.storeOf store = some object.store →
            ∃ reader opened, kept.openBlob store object.key = (.ok reader, opened) ∧
              reader.size = object.chunks.flatten.length ∧ ∀ later,
                system.Reaches (fun _ operation => operation ≠ .close reader.handle ∧ operation ≠ .stop) opened later →
                  Reads later reader.handle object.chunks.flatten := by
  have executed : (system.run (fun _ _ => true) (chunkedRun.map fun operation _ => operation) (start 4 4)).any
      (fun session => (session.writers.lookup 2).any fun object =>
        object.writer.valid && decide (object.chunks = [[1, 2], [], [3]])) = true := by decide +kernel
  obtain ⟨session, reached, facts⟩ := Concurrency.System.Reaches.exists_of_run _ (fun _ _ _ => trivial) _ _ executed
  obtain ⟨object, found, facts⟩ := (Option.any_eq_true _ _).mp facts
  obtain ⟨valid, chunks⟩ := Bool.and_eq_true_iff.mp facts
  exact ⟨session, object, reached, found, of_decide_eq_true chunks,
    blob_round_trip 4 4 session reached 2 object found valid⟩

end BlobSession

end OpenVehicle.Per
