/-
This file follows a file journal over the calls of one or more processes. A failed append leaves bytes
behind, and the next append writes behind these bytes.
-/

import OpenVehicle.Concurrency.System
import OpenVehicle.Exec.FileJournal

namespace OpenVehicle.Exec.FileJournal

open Codec
open Concurrency (System)

/-- The file, the events of the successful appends, and the number of bytes that failed appends left
behind since the last replay. -/
structure Session where
  file : List Byte := []
  recorded : List StoredEvent := []
  left : Nat := 0

inductive JournalCall where
  | append (event : StoredEvent) (calls : AppendCalls)
  | replay

section Session
variable (options : Options)

variable (session : Session)

def Session.perform : JournalCall → Session
  | .append event calls =>
      match append options calls event session.file with
      | (some (.ok ()), after) => { session with file := after, recorded := session.recorded ++ [event] }
      | (_, after) => { session with file := after, left := session.left + (after.length - session.file.length) }
  | .replay => { session with file := (replay options {} session.file).2, left := 0 }

/-- No append follows the bytes of a failed one before the next replay, and a failing append leaves
less than its frame. -/
def Session.Careful : JournalCall → Prop
  | .append event calls => session.left = 0 ∧ ∀ payload, encode event options.maximumRecordSize = .ok payload →
      (append options calls event session.file).1 ≠ some (.ok ()) →
        (append options calls event session.file).2.length < session.file.length + (frame payload).length
  | .replay => True

def system : System Session JournalCall where
  perform call session := some (session.perform options call)

/-- The sessions that careful calls reach. -/
abbrev Session.Reached : Prop := (system options).Reaches (Session.Careful options) {} session

/-- The file consists of the recorded events and of what the last failed append left. -/
def Session.Sound : Prop :=
  ∃ records, Represents options records session.recorded ∧
    (session.left = 0 ∧ session.file = records ∨ ∃ event payload, encode event options.maximumRecordSize = .ok payload ∧
        session.left < (frame payload).length ∧ session.file = records ++ (frame payload).take session.left)

end Session

variable {options : Options} {session : Session}

theorem Session.Sound.replay (sound : session.Sound options) : FileJournal.replay options {} session.file =
        (.ok (session.recorded.map StoredEvent.carried), (session.perform options .replay).file) ∧
      Represents options (session.perform options .replay).file session.recorded := by
  obtain ⟨records, represents, ⟨_, whole⟩ | ⟨event, payload, encoded, torn, rest⟩⟩ := sound
  · have replayed := represents.replay
    rw [← whole] at replayed represents
    simp only [Session.perform, replayed]
    exact ⟨trivial, represents⟩
  · have replayed := represents.replay_torn encoded torn
    rw [← rest] at replayed
    simp only [Session.perform, replayed]
    exact ⟨trivial, represents⟩

/-- A careful call keeps the file sound. -/
theorem Session.Sound.perform (sound : session.Sound options) {call : JournalCall}
    (careful : session.Careful options call) : (session.perform options call).Sound options := by
  cases call with
  | replay => exact ⟨_, sound.replay.2, .inl ⟨rfl, rfl⟩⟩
  | append event calls =>
      obtain ⟨clean, short⟩ := careful
      have represents : Represents options session.file session.recorded := by
        obtain ⟨records, represents, ⟨_, rfl⟩ | ⟨_, _, _, _, rest⟩⟩ := sound
        · exact represents
        · rw [rest, clean, List.take_zero, List.append_nil]
          exact represents
      simp only [Session.perform]
      split
      · rename_i after appended
        exact ⟨after, represents.append appended, .inl ⟨clean, rfl⟩⟩
      · rename_i reply after failed appended
        refine ⟨session.file, represents, ?_⟩
        rcases append_cases appended with ⟨_, _, _, rfl⟩ | ⟨payload, encoded, length, within, rfl, _⟩
        · exact .inl ⟨by rw [clean, Nat.sub_self], rfl⟩
        · rw [appended] at short
          have torn := short payload encoded failed
          have size : ((frame payload).take length).length = length := by
            rw [List.length_take]
            omega
          rw [List.length_append, size] at torn
          refine .inr ⟨event, payload, encoded, ?_⟩
          simp only [List.length_append, size, clean, Nat.zero_add, Nat.add_sub_cancel_left]
          exact ⟨by omega, trivial⟩

variable {length : Nat}

section Misaligned
variable {file first second : List Byte} {events : List StoredEvent}

theorem frame_magic (payload : List Byte) :
    ∃ rest, frame payload = [0x4F, 0x56, 0x46, 0x4A] ++ rest := by
  refine ⟨littleEndian 2 formatVersion ++ littleEndian 2 0 ++ littleEndian 4 payload.length ++
    littleEndian 4 (crc32 payload).toNat ++ payload, ?_⟩
  simp only [frame, header, List.append_assoc]
  rfl

/-- The magic number is not found behind a few of its own bytes. -/
theorem magic_misaligned {front back : List Byte} (positive : 0 < length) (few : length < 4) :
    fieldAt (((([0x4F, 0x56, 0x46, 0x4A] ++ front).take length ++ ([0x4F, 0x56, 0x46, 0x4A] ++ back)).take
      headerSize)) 0 4 ≠ magicNumber := by
  rw [fieldAt, List.drop_zero, List.take_take]
  interval_cases length
  · show littleEndianValue [0x4F, 0x4F, 0x56, 0x46] ≠ magicNumber
    decide
  · show littleEndianValue [0x4F, 0x56, 0x4F, 0x56] ≠ magicNumber
    decide
  · show littleEndianValue [0x4F, 0x56, 0x46, 0x4F] ≠ magicNumber
    decide

/-- A frame that stands behind a few bytes of another frame makes the journal unreadable. -/
theorem replay_misaligned (represents : Represents options file events) (positive : 0 < length) (few : length < 4) :
    replay options {} (file ++ (frame first).take length ++ frame second) =
      (.error (makeError .persistenceError "journal frame header is invalid"),
        file ++ (frame first).take length ++ frame second) := by
  have behind : (file ++ (frame first).take length ++ frame second).drop file.length =
      (frame first).take length ++ frame second := by
    rw [List.append_assoc, List.drop_left]
  have size : (((frame first).take length ++ frame second).take headerSize).length = headerSize := by
    rw [List.length_take, List.length_append, length_frame second]
    omega
  have magic : fieldAt (((frame first).take length ++ frame second).take headerSize) 0 4 ≠ magicNumber := by
    obtain ⟨front, leading⟩ := frame_magic first
    obtain ⟨back, trailing⟩ := frame_magic second
    rw [leading, trailing]
    exact magic_misaligned positive few
  have invalid : headerInvalid options (((frame first).take length ++ frame second).take headerSize) = true := by
    simp [headerInvalid, magic]
  rw [List.append_assoc, represents.replay_append, ← List.append_assoc, scan_succeeding, behind]
  simp only [size, invalid]
  rw [if_neg (by decide), if_neg (by simp), if_pos trivial]

end Misaligned

/-- After careful calls a replay returns the events of the successful appends. -/
theorem replay_recorded {options : Options} {session : Session} (reached : session.Reached options) :
    (replay options {} session.file).1 = .ok (session.recorded.map StoredEvent.carried) := by
  have sound : session.Sound options := by
    apply reached.invariant ⟨[], represents_nil, .inl ⟨rfl, rfl⟩⟩
    rintro before call _ sound careful ⟨⟩
    exact sound.perform careful
  rw [sound.replay.1]

section Steps
variable {event : StoredEvent} {payload : List Byte}

theorem Session.Reached.next (call : JournalCall) (reached : session.Reached options)
    (careful : session.Careful options call) : (session.perform options call).Reached options :=
  .step reached careful rfl

/-- A successful append is careful behind complete records. -/
theorem Session.Reached.whole (reached : session.Reached options) (clean : session.left = 0)
    (encoded : encode event options.maximumRecordSize = .ok payload) (positive : 0 < payload.length) :
    Reached options { session with file := session.file ++ frame payload,
                                   recorded := session.recorded ++ [event] } := by
  have appended := append_whole encoded positive session.file
  have step := Session.Reached.next (.append event { write := [.wrote headerSize, .wrote payload.length] }) reached
    ⟨clean, fun _ _ failed => (failed (by rw [appended])).elim⟩
  simp only [Session.perform, appended] at step
  exact step

/-- A write that fails in the header is careful behind complete records. -/
theorem Session.Reached.short (reached : session.Reached options) (clean : session.left = 0)
    (encoded : encode event options.maximumRecordSize = .ok payload) (short : length + 1 < headerSize) :
    Reached options { session with file := session.file ++ (frame payload).take (length + 1),
                                   left := length + 1 } := by
  have appended := append_short encoded short 28 session.file
  have size : ((frame payload).take (length + 1)).length = length + 1 := by
    rw [List.length_take, length_frame]
    omega
  have step := Session.Reached.next (.append event { write := [.wrote (length + 1), .failed 28] }) reached
    ⟨clean, fun other known _ => by
      obtain rfl := Except.ok.inj (encoded.symm.trans known)
      rw [appended, List.length_append, size, length_frame]
      omega⟩
  simp only [Session.perform, appended, clean, List.length_append, size, Nat.zero_add, Nat.add_sub_cancel_left] at step
  exact step

end Steps

/-- A write fails after three bytes, a replay cuts them, and the next append succeeds. -/
theorem replay_recorded_repaired : ∃ session : Session, session.Reached smallRecords ∧
    session.recorded = [failedStart, failedStart] ∧
      (replay smallRecords {} session.file).1 = .ok [failedStart.carried, failedStart.carried] := by
  obtain ⟨payload, size, encoded⟩ := smallRecords_failedStart
  have positive : 0 < payload.length := by omega
  have first := Session.Reached.whole .refl rfl encoded positive
  have second := first.short rfl encoded (show 2 + 1 < headerSize by decide)
  have third := Session.Reached.next .replay second trivial
  have fourth := third.whole rfl encoded positive
  exact ⟨_, fourth, rfl, replay_recorded fourth⟩

/-- A write fails after one byte, the next append succeeds, and the journal is unreadable. -/
theorem replay_unreadable : ∃ torn after, append smallRecords { write := [.wrote 1, .failed 28] } failedStart [] =
        (some (.error (cannotAppend 28)), torn) ∧ torn.length = 1 ∧
      append smallRecords { write := [.wrote 16, .wrote 224] } failedStart torn = (some (.ok ()), after) ∧
      replay smallRecords {} after =
        (.error (makeError .persistenceError "journal frame header is invalid"), after) := by
  obtain ⟨payload, size, encoded⟩ := smallRecords_failedStart
  have total : (frame payload).length = 240 := by rw [length_frame, size, headerSize]
  have failed := append_short encoded (show 0 + 1 < headerSize by decide) 28 []
  have whole := append_whole encoded (by omega) ([] ++ (frame payload).take 1)
  rw [size] at whole
  refine ⟨_, _, failed, ?_, whole, replay_misaligned represents_nil (by decide) (by decide)⟩
  rw [List.nil_append, List.length_take]
  omega

end OpenVehicle.Exec.FileJournal
