/-
This file proves what a cursor of the memory provider delivers, whatever calls come between those on the
cursor.
-/

import OpenVehicle.Data.Reader
import OpenVehicle.Per.MemoryFrames
import OpenVehicle.Per.Quotas

namespace OpenVehicle.Per.Memory

open OrderedMap (ascending)
open Reader (Answer read received)

section Contract
variable (cursor : Handle)

/-- A pair of buffers holds an entry when neither of them is too small. -/
def holds (buffers : Buffer × Buffer) (entry : Bytes × Bytes) : Bool :=
  !(lacks buffers.1 entry.1 || lacks buffers.2 entry.2)

/-- The provider returns an entry, the sizes that the buffers lack, or the end. -/
def replyOf : Answer (Bytes × Bytes) → Except Failure Reply
  | .delivered entry => .ok (.entry entry.1 entry.2)
  | .tooSmall entry => .error ⟨.bufferTooSmall, [entry.1.length, entry.2.length]⟩
  | .finished => .error ⟨.notFound, []⟩

/-- The buffers of a call on the cursor. -/
def buffersOf : Call → Option (Buffer × Buffer)
  | .nextCursor other key value => if other = cursor then some (key, value) else none
  | _ => none

/-- The replies to the calls on the cursor in a list of calls. -/
def replies (backend : Backend) : List Call → List (Except Failure Reply)
  | [] => []
  | call :: calls =>
      (buffersOf cursor call).toList.map (fun _ => (perform backend call).1) ++
        replies (perform backend call).2 calls

/-- These calls end the cursor. -/
def closes (call : Call) : Prop := call = .stop ∨ call = .closeCursor cursor

def entryOf : Except Failure Reply → Option (Bytes × Bytes)
  | .ok (.entry key value) => some (key, value)
  | _ => none

end Contract

/-- The replies deliver each entry once and in order, and the end follows the last entry. A reply that a
buffer is too small tells the sizes of the entry that the next reply starts from. -/
structure Scans (entries : List (Bytes × Bytes)) (buffers : List (Buffer × Buffer))
    (replies : List (Except Failure Reply)) : Prop where
  exact : replies = (read holds entries buffers).map replyOf
  once : replies.filterMap entryOf <+: entries
  complete : .error ⟨.notFound, []⟩ ∈ replies → replies.filterMap entryOf = entries
  prompt : (∀ pair ∈ buffers, ∀ entry ∈ entries, holds pair entry = true) →
    replies.filterMap entryOf = entries.take buffers.length

section Replies
variable {entries : List (Bytes × Bytes)} {buffers : List (Buffer × Buffer)}

theorem entryOf_replyOf (answer : Answer (Bytes × Bytes)) : entryOf (replyOf answer) = answer.entry := by
  cases answer <;> rfl

theorem entries_replies (answers : List (Answer (Bytes × Bytes))) :
    (answers.map replyOf).filterMap entryOf = received answers := by
  rw [List.filterMap_map, received]
  exact congrArg (List.filterMap · answers) (funext entryOf_replyOf)

/-- Only the end is reported as missing. -/
theorem finished_of_mem {answers : List (Answer (Bytes × Bytes))}
    (missing : .error ⟨.notFound, []⟩ ∈ answers.map replyOf) : .finished ∈ answers := by
  obtain ⟨answer, listed, same⟩ := List.mem_map.mp missing
  cases answer with
  | finished => exact listed
  | delivered entry => cases same
  | tooSmall entry => cases same

theorem scans_read : Scans entries buffers ((read holds entries buffers).map replyOf) where
  exact := rfl
  once := by
    rw [entries_replies]
    exact Reader.received_begins holds entries buffers
  complete := fun missing => by
    rw [entries_replies]
    exact Reader.received_of_finished holds entries buffers (finished_of_mem missing)
  prompt := fun room => by
    rw [entries_replies]
    exact Reader.received_of_fits holds entries buffers room

end Replies

section Runs
variable {backend : Backend} {cursor : Handle} {rest : List (Bytes × Bytes)} {call : Call}

/-- The cursor has some entries left, and no other cursor gets its handle. -/
structure Reading (backend : Backend) (cursor : Handle) (rest : List (Bytes × Bytes)) : Prop where
  issued : cursor < backend.nextHandle
  left : ∃ item, backend.cursors.lookup cursor = some item ∧ rest = item.entries.drop item.position

/-- The other calls leave the cursor where it is. -/
theorem cursor_kept (issued : cursor < backend.nextHandle) (other : buffersOf cursor call = none)
    (alive : ¬closes cursor call) : (perform backend call).2.cursors.lookup cursor = backend.cursors.lookup cursor := by
  by_cases elsewhere : Session.otherCall call = true
  · rw [(otherCall_frame elsewhere).2]
  · cases call with
    | stop => exact absurd (.inl rfl) alive
    | openCursor handle start =>
        simp only [perform, answer, openCursor]
        repeat' split
        · rfl
        · rfl
        · exact AList.lookup_insert_ne (Nat.ne_of_lt issued)
    | nextCursor handle key value =>
        have different : cursor ≠ handle := by
          intro same
          rw [buffersOf, if_pos same.symm] at other
          cases other
        simp only [perform, answer, nextCursor]
        repeat' split
        · rfl
        · rfl
        · rfl
        · exact AList.lookup_insert_ne different
    | closeCursor handle =>
        exact (closeCursor_spec handle).2 cursor fun same => alive (.inr (congrArg Call.closeCursor same.symm))
    | incomplete | start | get => rfl
    | beginRead store | beginWrite store durability | beginWriteAt store durability expected =>
        simp only [perform, answer, beginRead, beginWrite, beginWriteAt, beginTransaction]
        repeat' split
        all_goals rfl
    | put transaction key value =>
        simp only [perform, answer, put]
        repeat' split
        all_goals rfl
    | erase transaction key =>
        simp only [perform, answer, erase]
        repeat' split
        all_goals rfl
    | commit transaction =>
        simp only [perform, answer, commit]
        repeat' split
        all_goals rfl
    | abort transaction =>
        simp only [perform, answer, abort]
        split
        · rfl
        · exact congrArg (AList.lookup cursor) (cursors_release _ _)
    | closeTransaction transaction =>
        simp only [perform, answer, closeTransaction]
        split
        · rfl
        · exact congrArg (AList.lookup cursor) (cursors_release _ _)
    | _ => exact absurd rfl elsewhere

theorem Reading.kept (reading : Reading backend cursor rest) (other : buffersOf cursor call = none)
    (alive : ¬closes cursor call) : Reading (perform backend call).2 cursor rest := by
  refine ⟨Nat.lt_of_lt_of_le reading.issued (perform_effect backend call).nextHandle_le, ?_⟩
  rw [cursor_kept reading.issued other alive]
  exact reading.left

/-- A call on the cursor takes one step of the reader. -/
theorem Reading.next (reading : Reading backend cursor rest) (key value : Buffer) :
    (perform backend (.nextCursor cursor key value)).1 = replyOf (Reader.step holds (key, value) rest).1 ∧
      Reading (perform backend (.nextCursor cursor key value)).2 cursor (Reader.step holds (key, value) rest).2 := by
  have grown := (perform_effect backend (.nextCursor cursor key value)).nextHandle_le
  have issued := Nat.lt_of_lt_of_le reading.issued grown
  obtain ⟨item, found, rfl⟩ := reading.left
  cases here : item.entries[item.position]? with
  | none =>
      have ended : item.entries.drop item.position = [] := List.drop_eq_nil_of_le (List.getElem?_eq_none_iff.mp here)
      rw [ended]
      simp only [perform, answer, nextCursor, found, here] at issued ⊢
      exact ⟨rfl, issued, item, found, ended.symm⟩
  | some entry =>
      obtain ⟨below, rfl⟩ := List.getElem?_eq_some_iff.mp here
      rw [List.drop_eq_getElem_cons below, Reader.step, holds]
      simp only [perform, answer, nextCursor, found, here] at issued ⊢
      cases small : lacks key item.entries[item.position].1 || lacks value item.entries[item.position].2 with
      | true =>
          rw [small] at issued
          exact ⟨rfl, issued, item, found, (List.drop_eq_getElem_cons below).symm⟩
      | false =>
          rw [small] at issued
          exact ⟨rfl, issued, _, AList.lookup_insert _, rfl⟩

theorem buffersOf_eq_some {pair : Buffer × Buffer} (found : buffersOf cursor call = some pair) :
    call = .nextCursor cursor pair.1 pair.2 := by
  cases call with
  | nextCursor handle key value =>
      rw [buffersOf] at found
      split at found
      · rename_i same
        cases found
        rw [same]
      · cases found
  | _ => cases found

/-- The replies to the calls on an open cursor are those of a reader. -/
theorem Reading.replies_eq (reading : Reading backend cursor rest) {calls : List Call}
    (alive : ∀ call ∈ calls, ¬closes cursor call) :
    replies cursor backend calls = (read holds rest (calls.filterMap (buffersOf cursor))).map replyOf := by
  induction calls generalizing backend rest with
  | nil => rfl
  | cons call calls ih =>
      have others : ∀ other ∈ calls, ¬closes cursor other := fun other listed =>
        alive other (List.mem_cons_of_mem _ listed)
      rw [replies, List.filterMap_cons]
      cases found : buffersOf cursor call with
      | none => exact ih (reading.kept found (alive call List.mem_cons_self)) others
      | some pair =>
          obtain rfl := buffersOf_eq_some found
          obtain ⟨reply, left⟩ := reading.next pair.1 pair.2
          exact congrArg₂ List.cons reply (ih left others)

/-- A transaction that is open for reading opens a cursor over its view. -/
theorem openCursor_reading {handle : Handle} {start : Bytes} {later : Backend}
    (opened : perform backend (.openCursor handle start) = (.ok (.opened cursor), later)) :
    ∃ transaction, backend.transactions.lookup handle = some transaction ∧
      Reading later cursor (scan transaction.values start) := by
  simp only [perform, answer, openCursor] at opened
  split at opened
  · cases opened
  · rename_i transaction found
    split at opened
    · cases opened
    · obtain ⟨same, rfl⟩ := Prod.mk.inj opened
      obtain rfl : backend.nextHandle = cursor := by simpa [Except.map] using same
      exact ⟨transaction, found, Nat.lt_succ_self _, _, AList.lookup_insert _, rfl⟩

theorem pairwise_scan (values : Values) (start : Bytes) :
    (scan values start).Pairwise fun first second => first.1 < second.1 := by
  rw [scan_eq]
  exact (OrderedMap.pairwise_ascending values).filter _

theorem mem_scan_iff (values : Values) (start : Bytes) (entry : Bytes × Bytes) :
    entry ∈ scan values start ↔ values.lookup entry.1 = some entry.2 ∧ start <+: entry.1 := by
  rw [scan_eq, List.mem_filter, List.isPrefixOf_iff_prefix]
  refine and_congr_left' ?_
  convert OrderedMap.mem_ascending values entry

/-- A cursor delivers the entries of its transaction that continue the given start, in the order of their keys,
each once and then the end. -/
theorem cursor_scan (backend later : Backend) (handle cursor : Handle) (start : Bytes)
    (opened : perform backend (.openCursor handle start) = (.ok (.opened cursor), later)) :
    ∃ transaction entries, backend.transactions.lookup handle = some transaction ∧
      (entries.Pairwise fun first second => first.1 < second.1) ∧
      (∀ entry, entry ∈ entries ↔ transaction.values.lookup entry.1 = some entry.2 ∧ start <+: entry.1) ∧
      ∀ calls, (∀ call ∈ calls, ¬closes cursor call) →
        Scans entries (calls.filterMap (buffersOf cursor)) (replies cursor later calls) := by
  obtain ⟨transaction, found, reading⟩ := openCursor_reading opened
  refine ⟨transaction, scan transaction.values start, found, pairwise_scan _ _, mem_scan_iff _ _, ?_⟩
  intro calls alive
  rw [reading.replies_eq alive]
  exact scans_read

end Runs

/-- A store of three entries, one of them with a large byte, and a transaction that reads it. -/
def stocked : Backend :=
  ([.start, .openStore { cabin with maxEntries := 4 }, .beginWrite 1 .buffered, .put 2 [1, 200] [7], .put 2 [1] [8],
    .put 2 [2] [9], .commit 2, .beginRead 1] : List Call).foldl (fun backend call => (perform backend call).2)
    (create 4 4)

/-- A cursor reads the stock by a prefix. -/
theorem cursor_scan_stocked : (perform stocked (.openCursor 3 [1])).1 = .ok (.opened 4) ∧
      ∃ transaction entries, stocked.transactions.lookup 3 = some transaction ∧
        (entries.Pairwise fun first second => first.1 < second.1) ∧
        (∀ entry, entry ∈ entries ↔ transaction.values.lookup entry.1 = some entry.2 ∧ [1] <+: entry.1) ∧
        ∀ calls, (∀ call ∈ calls, ¬closes 4 call) → Scans entries (calls.filterMap (buffersOf 4))
          (replies 4 (perform stocked (.openCursor 3 [1])).2 calls) := by
  have opened : (perform stocked (.openCursor 3 [1])).1 = .ok (.opened 4) := by decide +kernel
  exact ⟨opened, cursor_scan stocked _ 3 4 [1] (Prod.ext opened rfl)⟩

/-- The entries come in the order of their keys, and a small buffer does not move the cursor. -/
example : replies 4 (perform stocked (.openCursor 3 [1])).2
    [.nextCursor 4 (some 8) (some 8), .nextCursor 4 (some 1) (some 8), .nextCursor 4 (some 2) (some 1),
      .nextCursor 4 none none] =
    [.ok (.entry [1] [8]), .error ⟨.bufferTooSmall, [2, 1]⟩, .ok (.entry [1, 200] [7]), .error ⟨.notFound, []⟩] := by
  decide +kernel

end OpenVehicle.Per.Memory
