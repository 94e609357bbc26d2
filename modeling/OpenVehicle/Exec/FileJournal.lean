/-
This file translates the file journal: the frames of its records, the loop that writes them and the
scan that replays them. The system calls that may fail are inputs of the two operations. A read
returns the bytes that the file holds.
-/

import OpenVehicle.Exec.JournalCodec

namespace OpenVehicle.Exec.FileJournal

open Codec

def magicNumber : Nat := 0x4A46564F

def minimumFormatVersion : Nat := 1

def formatVersion : Nat := 2

def headerSize : Nat := 16

/-- Opening a journal refuses the other options. -/
structure Options where
  maximumRecordSize : Nat
  synchronize : Bool
  minimum : 4096 ≤ maximumRecordSize
  maximum : maximumRecordSize ≤ UInt32.size - 1

/-- One step of the checksum shifts out one bit. -/
def crcBit (crc : UInt32) : UInt32 := (crc >>> 1) ^^^ (0xEDB88320 &&& (0 - (crc &&& 1)))

def crc32 (bytes : List Byte) : UInt32 := ~~~bytes.foldl (fun crc byte => crcBit^[8] (crc ^^^ byte.toUInt32)) 0xFFFFFFFF

def header (payload : List Byte) : List Byte :=
  littleEndian 4 magicNumber ++ littleEndian 2 formatVersion ++ littleEndian 2 0 ++
    littleEndian 4 payload.length ++ littleEndian 4 (crc32 payload).toNat

def frame (payload : List Byte) : List Byte := header payload ++ payload

/-- The kernel writes some bytes, interrupts the call or fails it. -/
inductive WriteAnswer where
  | wrote (count : Nat)
  | interrupted
  | failed (errno : Nat)
  deriving DecidableEq

/-- The loop ends, fails or never returns because the process dies. -/
inductive WriteEnd where
  | complete (answers : List WriteAnswer)
  | failed (errno : Nat)
  | died
  deriving DecidableEq

/-- This loop returns the bytes that reach the file. -/
def writeAll : List WriteAnswer → List Byte → List Byte × WriteEnd
  | answers, [] => ([], .complete answers)
  | [], _ :: _ => ([], .died)
  | .interrupted :: answers, bytes => writeAll answers bytes
  | .failed errno :: _, _ :: _ => ([], .failed errno)
  | .wrote 0 :: _, _ :: _ => ([], .failed 0)
  | .wrote (count + 1) :: answers, bytes =>
      let (reached, outcome) := writeAll answers (bytes.drop (count + 1))
      (bytes.take (count + 1) ++ reached, outcome)

/-- The answers to the system calls of one append. A failing call has an error number. -/
structure AppendCalls where
  seek : Option Nat := none
  write : List WriteAnswer
  sync : Option Nat := none
  deriving DecidableEq

def cannotAppend (errno : Nat) : Error := makeError .persistenceError "cannot append transition journal" errno

/-- A call without a result never returns. -/
def append (options : Options) (calls : AppendCalls) (event : StoredEvent) (file : List Byte) :
    Option (Result Unit) × List Byte :=
  match encode event options.maximumRecordSize with
  | .error cause => (some (.error cause), file)
  | .ok payload =>
      match calls.seek with
      | some errno => (some (.error (cannotAppend errno)), file)
      | none =>
          match writeAll calls.write (header payload) with
          | (reached, .died) => (none, file ++ reached)
          | (reached, .failed errno) => (some (.error (cannotAppend errno)), file ++ reached)
          | (reached, .complete answers) =>
              match writeAll answers payload with
              | (body, .died) => (none, file ++ reached ++ body)
              | (body, .failed errno) => (some (.error (cannotAppend errno)), file ++ reached ++ body)
              | (body, .complete _) =>
                  match options.synchronize, calls.sync with
                  | true, some errno =>
                      (some (.error (makeError .persistenceError "cannot synchronize transition journal" errno)),
                        file ++ reached ++ body)
                  | _, _ => (some (.ok ()), file ++ reached ++ body)

/-- The failing system calls of one replay. The calls inside the loop are known by their offset. -/
structure ReplayCalls where
  seek : Option Nat := none
  locate : Nat → Option Nat := fun _ => none
  read : Nat → Option Nat := fun _ => none
  truncate : Option Nat := none
  sync : Option Nat := none

def fieldAt (header : List Byte) (offset size : Nat) : Nat := littleEndianValue ((header.drop offset).take size)

/-- This test refuses a header. -/
def headerInvalid (options : Options) (header : List Byte) : Bool :=
  fieldAt header 0 4 ≠ magicNumber || fieldAt header 4 2 < minimumFormatVersion ||
    fieldAt header 4 2 > formatVersion || fieldAt header 6 2 ≠ 0 ||
    fieldAt header 8 4 > options.maximumRecordSize

/-- An incomplete frame is cut from the file. -/
def repair (options : Options) (calls : ReplayCalls) (message : String) (file : List Byte)
    (frameStart : Nat) (events : List StoredEvent) : Result (List StoredEvent) × List Byte :=
  match calls.truncate with
  | some errno => (.error (makeError .persistenceError message errno), file)
  | none =>
      match options.synchronize, calls.sync with
      | true, some errno => (.error (makeError .persistenceError message errno), file.take frameStart)
      | _, _ => (.ok events, file.take frameStart)

def readAt (calls : ReplayCalls) (file : List Byte) (offset size : Nat) : Result (List Byte) :=
  match size, calls.read offset with
  | 0, _ => .ok []
  | _ + 1, some errno => .error (makeError .persistenceError "cannot read transition journal" errno)
  | _ + 1, none => .ok ((file.drop offset).take size)

theorem length_readAt {calls : ReplayCalls} {file bytes : List Byte} {offset size : Nat}
    (reading : readAt calls file offset size = .ok bytes) : bytes.length ≤ file.length - offset := by
  unfold readAt at reading
  split at reading
  · cases reading
    exact Nat.zero_le _
  · cases reading
  · cases reading
    rw [List.length_take, List.length_drop]
    exact Nat.min_le_right _ _

/-- This loop returns the result of the replay and the file that it leaves. -/
def scan (options : Options) (calls : ReplayCalls) (file : List Byte) (frameStart : Nat)
    (events : List StoredEvent) : Result (List StoredEvent) × List Byte :=
  match calls.locate frameStart with
  | some errno => (.error (makeError .persistenceError "cannot locate journal frame" errno), file)
  | none =>
      match _reading : readAt calls file frameStart headerSize with
      | .error cause => (.error cause, file)
      | .ok header =>
          if header.length = 0 then (.ok events, file)
          else if _complete : header.length ≠ headerSize then
            repair options calls "cannot repair incomplete journal header" file frameStart events
          else if headerInvalid options header then
            (.error (makeError .persistenceError "journal frame header is invalid"), file)
          else
            let size := fieldAt header 8 4
            match readAt calls file (frameStart + headerSize) size with
            | .error cause => (.error cause, file)
            | .ok payload =>
                if payload.length ≠ size then
                  repair options calls "cannot repair incomplete journal record" file frameStart events
                else if (crc32 payload).toNat ≠ fieldAt header 12 4 then
                  (.error (makeError .persistenceError "journal frame checksum mismatch"), file)
                else
                  match decode payload (UInt16.ofNat (fieldAt header 4 2)) with
                  | .error cause => (.error cause, file)
                  | .ok event =>
                      scan options calls file (frameStart + headerSize + size) (events ++ [event])
  termination_by file.length - frameStart
  decreasing_by
    have enough := length_readAt _reading
    rw [not_not.mp _complete] at enough
    omega

def replay (options : Options) (calls : ReplayCalls) (file : List Byte) :
    Result (List StoredEvent) × List Byte :=
  match calls.seek with
  | some errno => (.error (makeError .persistenceError "cannot seek transition journal" errno), file)
  | none => scan options calls file 0 []

variable {options : Options} {payload : List Byte} {before after : List Byte}

theorem length_header (payload : List Byte) : (header payload).length = headerSize := by
  simp [header, headerSize]

theorem length_frame (payload : List Byte) : (frame payload).length = headerSize + payload.length := by
  rw [frame, List.length_append, length_header]

/-- A field of the header is read where it was written. -/
theorem fieldAt_littleEndian {offset size value : Nat} (place : before.length = offset) (small : value < 256 ^ size) :
    fieldAt (before ++ littleEndian size value ++ after) offset size = value := by
  rw [fieldAt, List.append_assoc, List.drop_left' place, List.take_left' (length_littleEndian ..)]
  exact littleEndianValue_littleEndian size value small

theorem magic_header : fieldAt (header payload) 0 4 = magicNumber := by
  simp only [header, List.append_assoc]
  rw [← List.nil_append (littleEndian 4 magicNumber ++ _), ← List.append_assoc]
  exact fieldAt_littleEndian rfl (by decide)

theorem version_header : fieldAt (header payload) 4 2 = formatVersion := by
  simp only [header, List.append_assoc]
  rw [← List.append_assoc]
  exact fieldAt_littleEndian (length_littleEndian ..) (by decide)

theorem reserved_header : fieldAt (header payload) 6 2 = 0 := by
  unfold header
  rw [List.append_assoc]
  exact fieldAt_littleEndian (by simp) (by decide)

theorem size_header (small : payload.length ≤ UInt32.size - 1) : fieldAt (header payload) 8 4 = payload.length := by
  exact fieldAt_littleEndian (by simp) (Nat.lt_of_le_sub_one (by decide) small)

theorem checksum_header : fieldAt (header payload) 12 4 = (crc32 payload).toNat := by
  rw [header, ← List.append_nil (_ ++ littleEndian 4 (crc32 payload).toNat)]
  exact fieldAt_littleEndian (by simp) (crc32 payload).toNat_lt

theorem header_valid (small : payload.length ≤ options.maximumRecordSize) :
    headerInvalid options (header payload) = false := by
  have limit := options.maximum
  rw [headerInvalid, magic_header, version_header, reserved_header, size_header (by omega)]
  simp only [Bool.or_eq_false_iff, decide_eq_false_iff_not, not_lt, not_not]
  exact ⟨⟨⟨⟨trivial, by decide⟩, by decide⟩, trivial⟩, small⟩

variable {length : Nat} {file payload : List Byte}

section Scan
variable {events : List StoredEvent}

theorem readAt_succeeding (file : List Byte) (offset size : Nat) :
    readAt {} file offset size = .ok ((file.drop offset).take size) := by
  cases size with
  | zero => rfl
  | succ size => rfl

theorem repair_succeeding (options : Options) (message : String) (file : List Byte) (frameStart : Nat)
    (events : List StoredEvent) :
    repair options {} message file frameStart events = (.ok events, file.take frameStart) := by
  unfold repair
  cases options.synchronize with
  | false => rfl
  | true => rfl

/-- The scan when every system call succeeds. -/
theorem scan_succeeding (file : List Byte) (frameStart : Nat) (events : List StoredEvent) :
    scan options {} file frameStart events =
      let header := (file.drop frameStart).take headerSize
      let size := fieldAt header 8 4
      let payload := (file.drop (frameStart + headerSize)).take size
      if header.length = 0 then (.ok events, file)
      else if header.length ≠ headerSize then (.ok events, file.take frameStart)
      else if headerInvalid options header then
        (.error (makeError .persistenceError "journal frame header is invalid"), file)
      else if payload.length ≠ size then (.ok events, file.take frameStart)
      else if (crc32 payload).toNat ≠ fieldAt header 12 4 then
        (.error (makeError .persistenceError "journal frame checksum mismatch"), file)
      else
        match decode payload (UInt16.ofNat (fieldAt header 4 2)) with
        | .error cause => (.error cause, file)
        | .ok event => scan options {} file (frameStart + headerSize + size) (events ++ [event]) := by
  rw [scan]
  simp only [readAt_succeeding, repair_succeeding]
  rfl

theorem scan_end (file : List Byte) (events : List StoredEvent) :
    scan options {} file file.length events = (.ok events, file) := by
  rw [scan_succeeding]
  simp

/-- A complete frame adds its event. -/
theorem scan_frame {done rest : List Byte} {event : StoredEvent}
    (small : payload.length ≤ options.maximumRecordSize) (decoded : decode payload 2 = .ok event) :
    scan options {} (done ++ frame payload ++ rest) done.length events =
      scan options {} (done ++ frame payload ++ rest) (done ++ frame payload).length (events ++ [event]) := by
  have limit := options.maximum
  have first : ((done ++ frame payload ++ rest).drop done.length).take headerSize = header payload := by
    rw [List.append_assoc, List.drop_left, frame, List.append_assoc, List.take_left' (length_header payload)]
  have second : ((done ++ frame payload ++ rest).drop (done.length + headerSize)).take payload.length =
      payload := by
    have place : (done ++ header payload).length = done.length + headerSize := by
      rw [List.length_append, length_header]
    rw [frame, ← List.append_assoc, List.append_assoc _ payload rest, List.drop_left' place, List.take_left]
  have final : (done ++ frame payload).length = done.length + headerSize + payload.length := by
    rw [List.length_append, length_frame, add_assoc]
  have width : fieldAt (header payload) 8 4 = payload.length := size_header (by omega)
  rw [scan_succeeding, first, final]
  simp only [width, second, length_header, header_valid small, version_header, checksum_header]
  rw [if_neg (by decide), if_neg (by simp), if_neg (by simp), if_neg (by simp), if_neg (by simp)]
  show (match decode payload 2 with
    | .error cause => _
    | .ok event => _) = _
  rw [decoded]

/-- A torn frame is cut from the file. -/
theorem scan_torn {done : List Byte}
    (small : payload.length ≤ options.maximumRecordSize) (torn : length < (frame payload).length) :
    scan options {} (done ++ (frame payload).take length) done.length events = (.ok events, done) := by
  have limit := options.maximum
  have left : (done ++ (frame payload).take length).drop done.length = (frame payload).take length := List.drop_left
  have cut : (done ++ (frame payload).take length).take done.length = done := List.take_left
  have size : ((frame payload).take length).length = length := by
    rw [List.length_take]
    omega
  rw [scan_succeeding, left, cut]
  by_cases short : length < headerSize
  · have fits : ((frame payload).take length).take headerSize = (frame payload).take length :=
      List.take_of_length_le (by omega)
    simp only [fits, size]
    by_cases empty : length = 0
    · rw [if_pos empty, empty, List.take_zero, List.append_nil]
    · rw [if_neg empty, if_pos (by omega)]
  · have first : ((frame payload).take length).take headerSize = header payload := by
      rw [List.take_take, Nat.min_eq_left (by omega), frame, List.take_left' (length_header payload)]
    rw [length_frame] at torn
    simp only [first, length_header, header_valid small, size_header (show payload.length ≤ _ by omega)]
    rw [if_neg (by decide), if_neg (by simp), if_neg (by simp), if_pos]
    rw [List.length_take, ← List.drop_drop, left, List.length_drop, size]
    omega

end Scan

variable {calls : AppendCalls}

section Written
variable {event : StoredEvent}

/-- A front of the bytes reaches the file, and all of them when the loop ends. -/
theorem writeAll_front (answers : List WriteAnswer) (bytes : List Byte) :
    ∃ length ≤ bytes.length, (writeAll answers bytes).1 = bytes.take length ∧
      ∀ rest, (writeAll answers bytes).2 = .complete rest → length = bytes.length := by
  fun_induction writeAll answers bytes with
  | case1 answers => exact ⟨0, le_rfl, rfl, fun _ _ => rfl⟩
  | case2 byte bytes => exact ⟨0, Nat.zero_le _, rfl, fun _ ended => nomatch ended⟩
  | case3 answers bytes _ ih => exact ih
  | case4 errno answers byte bytes => exact ⟨0, Nat.zero_le _, rfl, fun _ ended => nomatch ended⟩
  | case5 answers byte bytes => exact ⟨0, Nat.zero_le _, rfl, fun _ ended => nomatch ended⟩
  | case6 count answers bytes _ reached outcome equation ih =>
      rw [equation] at ih
      obtain ⟨length, small, rfl, whole⟩ := ih
      rw [List.length_drop] at small whole
      by_cases covers : bytes.length ≤ count + 1
      · refine ⟨bytes.length, le_rfl, ?_, fun _ _ => rfl⟩
        rw [List.take_of_length_le covers, List.drop_eq_nil_of_le covers, List.take_nil, List.append_nil,
          List.take_length]
      · refine ⟨count + 1 + length, by omega, ?_, fun rest ended => ?_⟩
        · exact List.take_add.symm
        · have same := whole rest ended
          omega

/-- An append writes a front of the frame, and the whole frame when it succeeds. -/
theorem append_cases {file after : List Byte} {reply : Option (Result Unit)}
    (appended : append options calls event file = (reply, after)) :
    (∃ cause, encode event options.maximumRecordSize = .error cause ∧ reply = some (.error cause) ∧ after = file) ∨
    ∃ payload, encode event options.maximumRecordSize = .ok payload ∧
      ∃ length ≤ (frame payload).length, after = file ++ (frame payload).take length ∧
        (reply = some (.ok ()) → length = (frame payload).length) := by
  unfold append at appended
  split at appended
  · rename_i cause failed
    cases appended
    exact .inl ⟨cause, failed, rfl, rfl⟩
  · rename_i payload encoded
    refine .inr ⟨payload, encoded, ?_⟩
    split at appended
    · cases appended
      exact ⟨0, Nat.zero_le _, by simp, fun same => nomatch same⟩
    · obtain ⟨first, within, reachedFirst, wholeFirst⟩ := writeAll_front calls.write (header payload)
      have inside : first ≤ (frame payload).length := by
        rw [length_header] at within
        rw [length_frame]
        omega
      have front : (header payload).take first = (frame payload).take first := by
        rw [frame, List.take_append_of_le_length within]
      split at appended
      · rename_i reached equation
        rw [equation] at reachedFirst
        cases appended
        exact ⟨first, inside, by rw [← front, ← reachedFirst], fun same => nomatch same⟩
      · rename_i reached errno equation
        rw [equation] at reachedFirst
        cases appended
        exact ⟨first, inside, by rw [← front, ← reachedFirst], fun same => nomatch same⟩
      · rename_i reached answers equation
        rw [equation] at reachedFirst wholeFirst
        obtain rfl : reached = header payload := by
          rw [show reached = (header payload).take first from reachedFirst, wholeFirst answers rfl, List.take_length]
        obtain ⟨second, small, reachedSecond, wholeSecond⟩ := writeAll_front answers payload
        have both : (frame payload).take (headerSize + second) = header payload ++ payload.take second := by
          rw [frame, ← length_header payload, List.take_length_add_append]
        have total : headerSize + second ≤ (frame payload).length := by
          rw [length_frame]
          omega
        split at appended
        · rename_i body equation
          rw [equation] at reachedSecond
          cases appended
          exact ⟨_, total, by rw [both, ← reachedSecond, List.append_assoc], fun same => nomatch same⟩
        · rename_i body errno equation
          rw [equation] at reachedSecond
          cases appended
          exact ⟨_, total, by rw [both, ← reachedSecond, List.append_assoc], fun same => nomatch same⟩
        · rename_i body rest equation
          rw [equation] at reachedSecond wholeSecond
          have all := wholeSecond rest rfl
          split at appended
          · cases appended
            exact ⟨_, total, by rw [both, ← reachedSecond, List.append_assoc], fun same => nomatch same⟩
          · cases appended
            exact ⟨_, total, by rw [both, ← reachedSecond, List.append_assoc],
              fun _ => by rw [length_frame, all]⟩

theorem writeAll_wrote {bytes : List Byte} (positive : 0 < bytes.length) (count : Nat) (answers : List WriteAnswer) :
    writeAll (.wrote (count + 1) :: answers) bytes =
      (bytes.take (count + 1) ++ (writeAll answers (bytes.drop (count + 1))).1,
        (writeAll answers (bytes.drop (count + 1))).2) := by
  cases bytes with
  | nil => cases positive
  | cons byte bytes => rfl

theorem writeAll_whole {bytes : List Byte} (positive : 0 < bytes.length) (answers : List WriteAnswer) :
    writeAll (.wrote bytes.length :: answers) bytes = (bytes, .complete answers) := by
  obtain ⟨length, size⟩ := Nat.exists_eq_add_one.mpr positive
  have ended : writeAll answers [] = ([], .complete answers) := by
    unfold writeAll
    rfl
  rw [size, writeAll_wrote positive, ← size, List.drop_length, List.take_length, ended, List.append_nil]

/-- The kernel may write the header and the record at once. -/
theorem append_whole (encoded : encode event options.maximumRecordSize = .ok payload)
    (positive : 0 < payload.length) (file : List Byte) :
    append options { write := [.wrote headerSize, .wrote payload.length] } event file =
      (some (.ok ()), file ++ frame payload) := by
  have first : writeAll [.wrote headerSize, .wrote payload.length] (header payload) =
      (header payload, .complete [.wrote payload.length]) := by
    rw [← length_header payload]
    exact writeAll_whole (by rw [length_header]; decide) _
  simp only [append, encoded, first, writeAll_whole positive, frame, List.append_assoc]
  cases options.synchronize with
  | false => rfl
  | true => rfl

/-- The kernel may fail a write after a front of the header. -/
theorem append_short (encoded : encode event options.maximumRecordSize = .ok payload)
    (short : length + 1 < headerSize) (errno : Nat) (file : List Byte) :
    append options { write := [.wrote (length + 1), .failed errno] } event file =
      (some (.error (cannotAppend errno)), file ++ (frame payload).take (length + 1)) := by
  have size := length_header payload
  have first : writeAll [.wrote (length + 1), .failed errno] (header payload) =
      ((header payload).take (length + 1), .failed errno) := by
    have stopped : writeAll [.failed errno] ((header payload).drop (length + 1)) = ([], .failed errno) := by
      cases rest : (header payload).drop (length + 1) with
      | nil =>
          have none := List.drop_eq_nil_iff.mp rest
          omega
      | cons byte bytes => rw [writeAll]
    rw [writeAll_wrote (by omega), stopped, List.append_nil]
  simp only [append, encoded, first, frame]
  rw [List.take_append_of_le_length (by omega)]

end Written

section Representation
variable {events : List StoredEvent} {event : StoredEvent}

/-- A file represents the events whose frames it consists of. -/
def Represents (options : Options) (file : List Byte) (events : List StoredEvent) : Prop :=
  ∃ payloads, file = (payloads.map frame).flatten ∧
    List.Forall₂ (fun payload event => encode event options.maximumRecordSize = .ok payload) payloads events

theorem represents_nil : Represents options [] [] := ⟨[], rfl, .nil⟩

section
variable (represents : Represents options file events)
include represents

theorem Represents.snoc (encoded : encode event options.maximumRecordSize = .ok payload) :
    Represents options (file ++ frame payload) (events ++ [event]) := by
  obtain ⟨payloads, rfl, each⟩ := represents
  refine ⟨payloads ++ [payload], by simp, ?_⟩
  exact List.rel_append each (.cons encoded .nil)

/-- The scan reads all frames of a file that represents some events. -/
theorem Represents.scan (done rest : List Byte)
    (before : List StoredEvent) : scan options {} (done ++ file ++ rest) done.length before =
      scan options {} (done ++ file ++ rest) (done ++ file).length (before ++ events.map StoredEvent.carried) := by
  obtain ⟨payloads, rfl, each⟩ := represents
  induction each generalizing done before with
  | nil => simp
  | @cons payload event payloads events encoded _ ih =>
      have again := ih (done ++ frame payload) (before ++ [event.carried])
      have step := @scan_frame options payload before done ((payloads.map frame).flatten ++ rest) _
        (encode_eq_ok.mp encoded).2 (decode_encode encoded)
      simp only [List.map_cons, List.flatten_cons, List.append_assoc, List.singleton_append] at again step ⊢
      rw [step, again]

theorem Represents.replay_append (rest : List Byte) : replay options {} (file ++ rest) =
      FileJournal.scan options {} (file ++ rest) file.length (events.map StoredEvent.carried) :=
  represents.scan [] rest []

theorem Represents.replay : replay options {} file = (.ok (events.map StoredEvent.carried), file) := by
  have scanned := represents.replay_append []
  rw [List.append_nil, scan_end] at scanned
  exact scanned

theorem Represents.replay_torn (encoded : encode event options.maximumRecordSize = .ok payload)
    (torn : length < (frame payload).length) : FileJournal.replay options {} (file ++ (frame payload).take length) =
      (.ok (events.map StoredEvent.carried), file) := by
  rw [represents.replay_append]
  exact scan_torn (encode_eq_ok.mp encoded).2 torn

/-- A successful append adds its event. -/
theorem Represents.append {after : List Byte} (appended : append options calls event file = (some (.ok ()), after)) :
    Represents options after (events ++ [event]) := by
  rcases append_cases appended with ⟨cause, _, impossible, _⟩ | ⟨payload, encoded, length, _, rfl, whole⟩
  · cases impossible
  · rw [whole rfl, List.take_length]
    exact represents.snoc encoded

end

/-- The successful appends of some events turn one file into another. -/
inductive Appended (options : Options) (before : List Byte) : List StoredEvent → List Byte → Prop
  | none : Appended options before [] before
  | snoc {events : List StoredEvent} {middle after : List Byte} {calls : AppendCalls} {event : StoredEvent}
      (earlier : Appended options before events middle)
      (last : FileJournal.append options calls event middle = (some (.ok ()), after)) :
      Appended options before (events ++ [event]) after

theorem Appended.represents {earlier later : List StoredEvent}
    (appended : Appended options before later after) (represents : Represents options before earlier) :
    Represents options after (earlier ++ later) := by
  induction appended with
  | none =>
      rw [List.append_nil]
      exact represents
  | snoc _ last ih =>
      rw [← List.append_assoc]
      exact ih.append last

/-- A replay after a crash returns the complete records and cuts the torn one. Later appends continue
behind the complete records. -/
theorem replay_after_crash (written : Appended options [] events file)
    (encoded : encode event options.maximumRecordSize = .ok payload) {length : Nat}
    (torn : length < (frame payload).length) :
    replay options {} (file ++ (frame payload).take length) = (.ok (events.map StoredEvent.carried), file) ∧
      ∀ later after, Appended options file later after →
        replay options {} after = (.ok ((events ++ later).map StoredEvent.carried), after) := by
  have represents : Represents options file events := written.represents represents_nil
  exact ⟨represents.replay_torn encoded torn, fun later after appended =>
    (appended.represents represents).replay⟩

/-- The smallest records that a journal may be opened with. -/
def smallRecords : Options := ⟨4096, true, by decide, by decide⟩

theorem smallRecords_failedStart : ∃ payload, payload.length = 224 ∧
    encode failedStart smallRecords.maximumRecordSize = .ok payload := failedStart_encoded

/-- A crash tears the second record, and a later one follows the first. -/
theorem replay_after_crash_failedStart : ∃ file torn after,
    Appended smallRecords [] [failedStart] file ∧ torn.length = 20 ∧
      replay smallRecords {} (file ++ torn) = (.ok [failedStart.carried], file) ∧
      Appended smallRecords file [failedStart] after ∧
      replay smallRecords {} after = (.ok [failedStart.carried, failedStart.carried], after) := by
  obtain ⟨payload, size, encoded⟩ := smallRecords_failedStart
  have total : (frame payload).length = 240 := by rw [length_frame, size, headerSize]
  have positive : 0 < payload.length := by omega
  have first : Appended smallRecords [] ([] ++ [failedStart]) ([] ++ frame payload) :=
    .snoc .none (append_whole encoded positive [])
  have second : Appended smallRecords (frame payload) ([] ++ [failedStart]) (frame payload ++ frame payload) :=
    .snoc .none (append_whole encoded positive (frame payload))
  have torn : 20 < (frame payload).length := by omega
  obtain ⟨repaired, continued⟩ := replay_after_crash first encoded torn
  refine ⟨_, (frame payload).take 20, _, first, ?_, repaired, second, continued _ _ second⟩
  rw [List.length_take]
  omega

end Representation

end OpenVehicle.Exec.FileJournal
