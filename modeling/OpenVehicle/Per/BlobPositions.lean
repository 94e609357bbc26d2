/-
This file shows that a reader or a writer of a blob and the operation of the provider behind it stay in step,
for every chunk and every slice.
-/

import OpenVehicle.Per.BlobObjects
import OpenVehicle.Per.MemoryFrames

namespace OpenVehicle.Per

variable {blob : Memory.BlobOperation}

namespace Memory

/-- The data of a store without the mark of its writer. -/
def unmarked (data : StoreData) : StoreData := { data with writerActive := false }

section Frames
variable {backend : Backend} {handle other : Handle}

theorem unmarked_release (writing : Bool) (store name : String) :
    unmarked ((backend.release writing store).data name) = unmarked (backend.data name) := by
  rw [Backend.data_release]
  split
  · rename_i same
    rw [same]
    rfl
  · rfl

/-- The calls on one blob keep the handles of the provider and the other blobs. -/
structure OnlyBlob (handle : Handle) (backend later : Backend) : Prop where
  nextHandle : later.nextHandle = backend.nextHandle
  stopped : Stopped backend → Stopped later
  others : ∀ other, other ≠ handle → later.blobs.lookup other = backend.blobs.lookup other

theorem OnlyBlob.refl : OnlyBlob handle backend backend := ⟨rfl, id, fun _ _ => rfl⟩

theorem OnlyBlob.trans {between later : Backend} (first : OnlyBlob handle backend between)
    (second : OnlyBlob handle between later) : OnlyBlob handle backend later :=
  ⟨second.nextHandle.trans first.nextHandle, fun stopped => second.stopped (first.stopped stopped),
    fun other different => (second.others other different).trans (first.others other different)⟩

/-- The store of a call that ends may be marked and released. -/
theorem stopped_update (stopped : Stopped backend) (store : String) (change : StoreData → StoreData) :
    Stopped (backend.update store change) :=
  ⟨stopped.running, stopped.storeHandles, stopped.transactions, stopped.cursors⟩

theorem only_setBlob {changed : Backend} (nextHandle : changed.nextHandle = backend.nextHandle)
    (blobs : changed.blobs = backend.blobs) (stopped : Stopped backend → Stopped changed) :
    OnlyBlob handle backend (setBlob changed handle blob) := by
  refine ⟨nextHandle, fun idle => ?_, fun other different => ?_⟩
  · exact ⟨(stopped idle).running, (stopped idle).storeHandles, (stopped idle).transactions, (stopped idle).cursors⟩
  · change (changed.blobs.insert handle blob).lookup other = _
    rw [AList.lookup_insert_ne different, blobs]

theorem only_writeBlob (offset : Nat) (input : Bytes) :
    OnlyBlob handle backend (writeBlob backend handle offset input).2 := by
  unfold writeBlob
  repeat' split
  · exact .refl
  · exact .refl
  · exact only_setBlob rfl rfl id

theorem only_commitBlob : OnlyBlob handle backend (commitBlob backend handle).2 := by
  unfold commitBlob
  dsimp only
  repeat' split
  · exact .refl
  · exact .refl
  · exact only_setBlob rfl rfl fun stopped => stopped_release stopped _ _
  · exact only_setBlob rfl rfl fun stopped => stopped_update stopped _ _

theorem only_abortBlob : OnlyBlob handle backend (abortBlob backend handle).2 := by
  unfold abortBlob
  split
  · exact .refl
  · exact only_setBlob (Backend.nextHandle_release _ _ _) (Backend.blobs_release _ _ _)
      fun stopped => stopped_release stopped _ _

theorem only_closeBlob : OnlyBlob handle backend (closeBlob backend handle).2 := by
  unfold closeBlob
  split
  · exact .refl
  · refine ⟨Backend.nextHandle_release _ _ _, fun stopped => ?_, fun other different => ?_⟩
    · have freed := stopped_release stopped
      exact ⟨(freed _ _).running, (freed _ _).storeHandles, (freed _ _).transactions, (freed _ _).cursors⟩
    change ((Backend.release _ _ _).blobs.erase handle).lookup other = _
    rw [AList.lookup_erase_ne different, Backend.blobs_release]

theorem unmarked_abortBlob (name : String) :
    unmarked ((abortBlob backend handle).2.data name) = unmarked (backend.data name) := by
  unfold abortBlob
  split
  · rfl
  · exact unmarked_release _ _ _

theorem unmarked_closeBlob (name : String) :
    unmarked ((closeBlob backend handle).2.data name) = unmarked (backend.data name) := by
  unfold closeBlob
  split
  · rfl
  · exact unmarked_release _ _ _

/-- The close of an operation that has ended touches no store. -/
theorem data_closeBlob (found : backend.blobs.lookup handle = some blob)
    (idle : blob.writing = false) (name : String) : (closeBlob backend handle).2.data name = backend.data name := by
  simp only [closeBlob, found, idle]
  rfl

/-- The calls of other objects keep the blobs that are open. -/
theorem blobs_otherCall {call : Call} (elsewhere : BlobSession.otherCall call = true) :
    (perform backend call).2.blobs = backend.blobs := by
  cases call with
  | openStore descriptor =>
      simp only [perform, answer, openStore]
      repeat' split
      all_goals rfl
  | closeStore store =>
      simp only [perform, answer, closeStore]
      split <;> rfl
  | beginRead store | beginWrite store durability | beginWriteAt store durability expected =>
      simp only [perform, answer, beginRead, beginWrite, beginWriteAt, beginTransaction]
      repeat' split
      all_goals rfl
  | put transaction key value =>
      simp only [perform, answer, put]
      repeat' split
      all_goals rfl
  | erase transaction key =>
      simp only [perform, answer, erase]
      repeat' split
      all_goals rfl
  | commit transaction =>
      simp only [perform, answer, commit]
      repeat' split
      all_goals rfl
  | abort transaction =>
      simp only [perform, answer, abort]
      split
      · rfl
      · exact Backend.blobs_release _ _ _
  | closeTransaction transaction =>
      simp only [perform, answer, closeTransaction]
      split
      · rfl
      · exact Backend.blobs_release _ _ _
  | openCursor transaction start =>
      simp only [perform, answer, openCursor]
      repeat' split
      all_goals rfl
  | nextCursor cursor key value =>
      simp only [perform, answer, nextCursor]
      repeat' split
      all_goals rfl
  | closeCursor cursor =>
      simp only [perform, answer, closeCursor]
      split <;> rfl
  | resetStore store entries durability =>
      simp only [perform, answer, resetStore]
      repeat' split
      all_goals rfl
  | beginMigration store descriptor checkpoint =>
      simp only [perform, answer, beginMigration, enterMigration]
      repeat' split
      all_goals rfl
  | applyMigration migration source target =>
      simp only [perform, answer, applyMigration]
      repeat' split
      all_goals rfl
  | commitMigration migration =>
      simp only [perform, answer, commitMigration]
      repeat' split
      all_goals rfl
  | abortMigration migration =>
      simp only [perform, answer, abortMigration]
      split <;> rfl
  | closeMigration migration =>
      simp only [perform, answer, closeMigration]
      split <;> rfl
  | rollbackStore store durability =>
      simp only [perform, answer, rollbackStore]
      repeat' split
      all_goals rfl
  | incomplete | get | storeStatus => rfl
  | _ => cases elsewhere

/-- The operation that a replacement starts with. -/
def replacing (store : String) (key : Bytes) (size generation : Nat) (durability : Durability) : BlobOperation :=
  { store := store, key := key, value := List.replicate size 0, generation := generation, written := 0,
    durability := durability, write := true }

theorem beginBlobReplace_cases (backend : Backend) (handle : Handle) (key : Bytes) (size : Nat)
    (durability : Durability) :
    (∃ failure, beginBlobReplace backend handle key size durability = (.error failure, backend)) ∨
      ∃ item, backend.storeHandles.lookup handle = some item ∧ beginBlobReplace backend handle key size durability =
        (.ok (backend.nextHandle, (backend.data item.store).generation), addBlob (backend.update item.store occupy)
            (replacing item.store key size (backend.data item.store).generation durability)) := by
  unfold beginBlobReplace
  dsimp only
  repeat' split
  case h_2.isFalse.isFalse.isFalse.isFalse.isFalse.isFalse => exact .inr ⟨_, ‹_›, rfl⟩
  all_goals exact .inl ⟨_, rfl⟩

end Frames

end Memory

open Memory (Backend BlobOperation OnlyBlob unmarked)

section Objects
variable {runtime later : Runtime} {id : Handle} {object : WriterObject} {reader : BlobReader}

/-- The operation of the provider stands where the writer stands. -/
structure Follows (blob : BlobOperation) (object : WriterObject) : Prop where
  write : blob.write = true
  finished : blob.finished = object.failed
  store : blob.store = object.store
  key : blob.key = object.key
  generation : blob.generation = object.generation
  size : blob.value.length = object.writer.size
  written : blob.written = object.written.length
  value : blob.value.take object.written.length = object.written

/-- An open writer has counted its chunks, and the provider has them while the runtime runs. -/
structure Tracks (runtime : Runtime) (id : Handle) (object : WriterObject) : Prop where
  handle : object.writer.handle = id
  named : object.key ≠ []
  counted : object.writer.position = object.written.length
  bounded : object.written.length ≤ object.writer.size
  present : (runtime.backend.blobs.lookup id).isSome = runtime.running
  follows : ∀ blob, runtime.backend.blobs.lookup id = some blob → Follows blob object

theorem Tracks.frame (tracks : Tracks runtime id object)
    (blobs : later.backend.blobs.lookup id = runtime.backend.blobs.lookup id)
    (running : later.running = runtime.running) : Tracks later id object where
  handle := tracks.handle
  named := tracks.named
  counted := tracks.counted
  bounded := tracks.bounded
  present := by rw [blobs, running, tracks.present]
  follows := fun blob found => tracks.follows blob (blobs ▸ found)

/-- A reader has the size of a value, and the provider has its bytes. -/
structure Holds (runtime : Runtime) (id : Handle) (reader : BlobReader) (value : Bytes) : Prop where
  handle : reader.handle = id
  size : reader.size = value.length
  present : ∃ blob, runtime.backend.blobs.lookup id = some blob ∧ blob.write = false ∧ blob.finished = false ∧
    blob.value = value

/-- An open reader returns the slices of its value. -/
theorem Holds.read_eq {value : Bytes} (holds : Holds runtime id reader value) (valid : id ≠ 0) (offset length : Nat) :
    reader.read runtime offset length =
      if offset ≤ value.length ∧ length ≤ value.length - offset then .ok ((value.drop offset).take length)
      else .error ⟨.invalidArgument, "blob read is outside its declared size"⟩ := by
  obtain ⟨blob, found, reads, unfinished, rfl⟩ := holds.present
  have usable : reader.valid = true := by
    rw [BlobReader.valid, holds.handle]
    exact bne_iff_ne.mpr valid
  rw [BlobReader.read, usable, holds.size, holds.handle]
  by_cases inside : offset ≤ blob.value.length ∧ length ≤ blob.value.length - offset
  · rw [if_pos inside, if_neg (by simp; omega)]
    split
    · rename_i empty
      rw [empty, List.take_zero]
    · rw [Memory.readBlob, found]
      dsimp only
      rw [if_neg (by simp [reads, unfinished]; omega)]
  · rw [if_neg inside, if_pos (by simp; omega)]

/-- The provider still takes the chunks of the writer. -/
def Live (runtime : Runtime) (object : WriterObject) : Prop := runtime.running = true ∧ object.failed = false

instance : Decidable (Live runtime object) := inferInstanceAs (Decidable (_ ∧ _))

theorem Tracks.open (tracks : Tracks runtime id object) (valid : 0 < id) : object.writer.valid = true := by
  rw [BlobWriter.valid, tracks.handle]
  exact bne_iff_ne.mpr (Nat.ne_of_gt valid)

theorem Tracks.operation (tracks : Tracks runtime id object) (runs : runtime.running = true) :
    ∃ blob, runtime.backend.blobs.lookup id = some blob ∧ Follows blob object := by
  obtain ⟨blob, found⟩ := Option.isSome_iff_exists.mp (tracks.present.trans runs)
  exact ⟨blob, found, tracks.follows blob found⟩

/-- A writer whose provider has ended its operation writes and commits nothing. -/
theorem Tracks.idle (tracks : Tracks runtime id object) (dead : ¬Live runtime object)
    (found : runtime.backend.blobs.lookup id = some blob) : blob.writing = false := by
  have runs : runtime.running = true := by rw [← tracks.present, found]; rfl
  have follows := tracks.follows blob found
  cases failed : object.failed with
  | true => rw [BlobOperation.writing, follows.finished, failed, Bool.not_true, Bool.and_false]
  | false => exact absurd ⟨runs, failed⟩ dead

theorem Follows.writing (follows : Follows blob object) (live : Live runtime object) : blob.writing = true := by
  rw [BlobOperation.writing, follows.write, follows.finished, live.2]
  rfl

/-- The operation of the provider after a chunk and after its end. -/
def extended (blob : BlobOperation) (input : Bytes) : BlobOperation :=
  { blob with
    value := blob.value.take blob.written ++ input ++ blob.value.drop (blob.written + input.length)
    written := blob.written + input.length }

def ended (blob : BlobOperation) : BlobOperation := { blob with finished := true }

section
variable (tracks : Tracks runtime id object)
include tracks

/-- A chunk is accepted when it fits into the declared size. -/
theorem Tracks.write_cases (valid : 0 < id) (input : Bytes) :
    (object.written.length + input.length ≤ object.writer.size ∧ input = [] ∧
      object.writer.write runtime input = (.ok 0, object.writer, runtime)) ∨
    (object.written.length + input.length ≤ object.writer.size ∧ input ≠ [] ∧ Live runtime object ∧ ∃ blob,
      runtime.backend.blobs.lookup id = some blob ∧ object.writer.write runtime input =
        (.ok input.length, { object.writer with position := object.writer.position + input.length },
          { runtime with backend := Memory.setBlob runtime.backend id (extended blob input) })) ∨
    (¬(object.written.length + input.length ≤ object.writer.size ∧ (input = [] ∨ Live runtime object)) ∧ ∃ error,
      object.writer.write runtime input = (.error error, object.writer, runtime)) := by
  have bounded := tracks.bounded
  rw [BlobWriter.write, tracks.open valid, tracks.counted, tracks.handle]
  by_cases fits : object.written.length + input.length ≤ object.writer.size
  · rw [if_neg (by simp; omega)]
    by_cases empty : input = []
    · exact .inl ⟨fits, empty, if_pos empty⟩
    · rw [if_neg empty]
      by_cases live : Live runtime object
      · obtain ⟨blob, found, follows⟩ := tracks.operation live.1
        refine .inr (.inl ⟨fits, empty, live, blob, found, ?_⟩)
        have room : ¬((!blob.writing) = true ∨ object.written.length ≠ blob.written ∨
            input.length > blob.value.length - object.written.length) := by
          rw [follows.writing live, follows.written, follows.size]
          simp
          omega
        have performed : Memory.writeBlob runtime.backend id object.written.length input =
            (.ok (), Memory.setBlob runtime.backend id (extended blob input)) := by
          rw [Memory.writeBlob, found]
          dsimp only
          rw [if_neg room, ← follows.written]
          rfl
        rw [performed, ← tracks.handle]
        rfl
      · refine .inr (.inr ⟨fun both => both.2.elim empty live, ?_⟩)
        cases found : runtime.backend.blobs.lookup id with
        | none =>
            simp only [Runtime.relay, Memory.writeBlob, found]
            exact ⟨_, rfl⟩
        | some blob =>
            have refused : (!blob.writing) = true ∨ object.written.length ≠ blob.written ∨
                input.length > blob.value.length - object.written.length := by
              rw [tracks.idle live found]
              exact .inl rfl
            simp only [Runtime.relay, Memory.writeBlob, found, if_pos refused]
            exact ⟨_, rfl⟩
  · rw [if_pos (by simp; omega)]
    exact .inr (.inr ⟨fun both => fits both.1, _, rfl⟩)

/-- The accepted chunk stands behind the chunks before it. -/
theorem Tracks.wrote {input : Bytes} (fits : object.written.length + input.length ≤ object.writer.size)
    (found : runtime.backend.blobs.lookup id = some blob) :
    Tracks { runtime with backend := Memory.setBlob runtime.backend id (extended blob input) } id
      { object with
        writer := { object.writer with position := object.writer.position + input.length }
        chunks := object.chunks ++ [input] } := by
  have follows := tracks.follows blob found
  have written : (object.chunks ++ [input]).flatten = object.written ++ input := by
    rw [List.flatten_append, List.flatten_singleton, WriterObject.written]
  have lookup : (Memory.setBlob runtime.backend id (extended blob input)).blobs.lookup id =
      some (extended blob input) := AList.lookup_insert _
  have counted : ((object.chunks ++ [input]).flatten).length = object.written.length + input.length := by
    rw [written, List.length_append]
  refine ⟨tracks.handle, tracks.named, ?_, ?_, ?_, fun other known => ?_⟩
  · change object.writer.position + input.length = _
    rw [tracks.counted]
    exact counted.symm
  · change ((object.chunks ++ [input]).flatten).length ≤ _
    rw [counted]
    exact fits
  · change ((Memory.setBlob runtime.backend id _).blobs.lookup id).isSome = runtime.running
    rw [lookup, ← tracks.present, found]
    rfl
  · obtain rfl := Option.some.inj (lookup.symm.trans known)
    refine ⟨follows.write, follows.finished, follows.store, follows.key, follows.generation, ?_, ?_, ?_⟩
    · have size := follows.size
      have position := follows.written
      change (blob.value.take blob.written ++ input ++ blob.value.drop (blob.written + input.length)).length =
        object.writer.size
      simp only [List.length_append, List.length_take, List.length_drop]
      omega
    · change blob.written + input.length = ((object.chunks ++ [input]).flatten).length
      rw [counted, follows.written]
    · change (blob.value.take blob.written ++ input ++ _).take ((object.chunks ++ [input]).flatten).length =
        (object.chunks ++ [input]).flatten
      rw [written, follows.written, follows.value, List.take_left]

/-- A commit needs the declared size, and it fails when the store has moved on. -/
theorem Tracks.commit_cases (valid : 0 < id) :
    (¬(object.written.length = object.writer.size ∧ Live runtime object) ∧ ∃ error,
      object.writer.commit runtime = (.error error, object.writer, runtime)) ∨
    (object.written.length = object.writer.size ∧ Live runtime object ∧
      (runtime.backend.data object.store).generation ≠ object.generation ∧ ∃ error blob,
      runtime.backend.blobs.lookup id = some blob ∧ object.writer.commit runtime = (.error error, object.writer,
          { runtime with backend := Memory.setBlob (runtime.backend.release true object.store) id (ended blob) })) ∨
    (object.written.length = object.writer.size ∧ Live runtime object ∧
      (runtime.backend.data object.store).generation = object.generation ∧ ∃ result blob,
      runtime.backend.blobs.lookup id = some blob ∧ object.writer.commit runtime =
        (.ok result, { object.writer with handle := 0 },
          { runtime with backend := (Memory.closeBlob (Memory.setBlob (runtime.backend.update object.store
            (Memory.commitBlobData object.key object.written)) id (ended blob)) id).2 })) := by
  rw [BlobWriter.commit, tracks.open valid, tracks.handle]
  by_cases complete : object.written.length = object.writer.size
  · rw [if_neg (by simp [complete, tracks.counted])]
    by_cases live : Live runtime object
    · obtain ⟨blob, found, follows⟩ := tracks.operation live.1
      have ready : ¬((!blob.writing) = true ∨ blob.written ≠ blob.value.length) := by
        rw [follows.writing live, follows.written, follows.size]
        simp [complete]
      have value : blob.value = object.written := by
        have all := follows.value
        rwa [complete, ← follows.size, List.take_length] at all
      by_cases current : (runtime.backend.data object.store).generation = object.generation
      · have performed : Memory.commitBlob runtime.backend id =
            (.ok ⟨(runtime.backend.data object.store).generation + 1, blob.durability⟩,
              Memory.setBlob (runtime.backend.update object.store
                (Memory.commitBlobData object.key object.written)) id (ended blob)) := by
          rw [Memory.commitBlob, found]
          dsimp only
          rw [← follows.store, ← follows.generation] at current
          rw [if_neg ready, if_neg (not_not_intro current), ← follows.store, ← follows.key, ← value]
          rfl
        rw [performed]
        exact .inr (.inr ⟨complete, live, current, _, blob, found, rfl⟩)
      · have performed : Memory.commitBlob runtime.backend id = (.error ⟨.conflict, []⟩,
            Memory.setBlob (runtime.backend.release true object.store) id (ended blob)) := by
          rw [Memory.commitBlob, found]
          dsimp only
          rw [← follows.store, ← follows.generation] at current
          rw [if_neg ready, if_pos current, ← follows.store]
          rfl
        rw [performed]
        exact .inr (.inl ⟨complete, live, current, _, blob, found, rfl⟩)
    · refine .inl ⟨fun both => live both.2, ?_⟩
      cases found : runtime.backend.blobs.lookup id with
      | none =>
          simp only [Runtime.relay, Memory.commitBlob, found]
          exact ⟨_, rfl⟩
      | some blob =>
          have refused : (!blob.writing) = true ∨ blob.written ≠ blob.value.length := by
            rw [tracks.idle live found]
            exact .inl rfl
          simp only [Runtime.relay, Memory.commitBlob, found, if_pos refused]
          exact ⟨_, rfl⟩
  · rw [if_pos (by simp [complete, tracks.counted])]
    exact .inl ⟨fun both => complete both.1, _, rfl⟩

/-- Only the bytes of the chunks count. -/
theorem Tracks.rechunked {chunks : List Bytes}
    (same : chunks.flatten = object.written) : Tracks runtime id { object with chunks := chunks } where
  handle := tracks.handle
  named := tracks.named
  counted := tracks.counted.trans (congrArg List.length same.symm)
  bounded := (congrArg List.length same).trans_le tracks.bounded
  present := tracks.present
  follows := fun blob found => by
    have follows := tracks.follows blob found
    refine ⟨follows.write, follows.finished, follows.store, follows.key, follows.generation, follows.size, ?_, ?_⟩
    · exact follows.written.trans (congrArg List.length same.symm)
    · change blob.value.take chunks.flatten.length = chunks.flatten
      rw [same]
      exact follows.value

/-- A commit that fails leaves the writer open and its operation ended. -/
theorem Tracks.refused (complete : object.written.length = object.writer.size)
    (dead : ¬Live runtime object) : Tracks runtime id { object with failed := true } where
  handle := tracks.handle
  named := tracks.named
  counted := tracks.counted
  bounded := tracks.bounded
  present := tracks.present
  follows := fun blob found => by
    have runs : runtime.running = true := by rw [← tracks.present, found]; rfl
    have failed : object.failed = true := by
      rw [← Bool.not_eq_false]
      exact fun intact => dead ⟨runs, intact⟩
    have same : { object with failed := true } = object := by
      cases object
      cases failed
      rfl
    rw [same]
    exact tracks.follows blob found

theorem Tracks.conflicted (found : runtime.backend.blobs.lookup id = some blob) :
    Tracks { runtime with backend := Memory.setBlob (runtime.backend.release true object.store) id (ended blob) } id
      { object with failed := true } where
  handle := tracks.handle
  named := tracks.named
  counted := tracks.counted
  bounded := tracks.bounded
  present := by
    have there := tracks.present
    rw [found] at there
    exact (congrArg Option.isSome (AList.lookup_insert _)).trans there
  follows := fun other known => by
    obtain rfl := Option.some.inj ((AList.lookup_insert _).symm.trans known)
    have follows := tracks.follows blob found
    exact ⟨follows.write, rfl, follows.store, follows.key, follows.generation, follows.size, follows.written,
      follows.value⟩

end

/-- The methods of a writer concern the operation behind its handle. -/
theorem write_only (writer : BlobWriter) (input : Bytes) :
    OnlyBlob writer.handle runtime.backend (writer.write runtime input).2.2.backend := by
  unfold BlobWriter.write Runtime.relay
  split
  · exact .refl
  · split
    · exact .refl
    · have only := @Memory.only_writeBlob runtime.backend writer.handle writer.position input
      rcases performed : Memory.writeBlob runtime.backend writer.handle writer.position input with ⟨_ | _, backend⟩
      · rwa [performed] at only
      · rwa [performed] at only

theorem commit_only (writer : BlobWriter) :
    OnlyBlob writer.handle runtime.backend (writer.commit runtime).2.2.backend := by
  unfold BlobWriter.commit Runtime.relay
  split
  · exact .refl
  · have only := @Memory.only_commitBlob runtime.backend writer.handle
    rcases performed : Memory.commitBlob runtime.backend writer.handle with ⟨_ | _, backend⟩
    · rwa [performed] at only
    · rw [performed] at only
      exact only.trans Memory.only_closeBlob

theorem giveUp_only {handle : Handle} {call : Backend → Backend}
    (only : OnlyBlob handle runtime.backend (call runtime.backend)) :
    OnlyBlob handle runtime.backend (runtime.giveUp handle call).backend := by
  unfold Runtime.giveUp
  split
  · exact .refl
  · exact only

end Objects

end OpenVehicle.Per
