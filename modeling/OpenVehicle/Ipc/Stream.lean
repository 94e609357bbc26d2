/-
This file translates the transport of one coordinator message. A message is one line, and the system
moves its bytes in pieces of any size.
-/

import OpenVehicle.Ipc.Dispatch

namespace OpenVehicle.Ipc

open Exec

def newline : UInt8 := 10

/-- The result of one send call. -/
inductive Sending where
  | interrupted | failed
  | moved (count : Nat)

/-- The result of one receive call. -/
inductive Receipt where
  | interrupted | ended
  | bytes (chunk : Text)

/-- The bytes that have left and the result. A call without a result blocks, and one that moves no byte fails. -/
def writeAll : Text → List Sending → Text × Option Bool
  | [], _ => ([], some true)
  | _, [] => ([], none)
  | content, .interrupted :: later => writeAll content later
  | _, .failed :: _ | _, .moved 0 :: _ => ([], some false)
  | content, .moved count :: later =>
      (content.take count ++ (writeAll (content.drop count) later).1, (writeAll (content.drop count) later).2)

def closedError : Error := makeError .communicationError "coordinator connection closed before a complete message"

def limitError : Error := makeError .resourceExhausted "coordinator message exceeds limit"

def readLine (maximum : Nat) (content : Text) : List Receipt → Option (Result Text)
  | [] => none
  | .interrupted :: later => readLine maximum content later
  | .ended :: _ => some (.error closedError)
  | .bytes chunk :: later =>
      let appended := chunk.takeWhile (· != newline)
      if maximum - content.length < appended.length then some (.error limitError)
      else if chunk.contains newline then some (.ok (content ++ appended))
      else readLine maximum (content ++ appended) later

/-- The bytes that arrive before the connection ends. -/
def arrived : List Receipt → Text
  | [] => []
  | .interrupted :: later => arrived later
  | .ended :: _ => []
  | .bytes chunk :: later => chunk ++ arrived later

/-- The connection as one piece of bytes. -/
def whole (receipts : List Receipt) : List Receipt :=
  .bytes (arrived receipts) :: if receipts.any (· matches .ended) then [.ended] else []

section Pieces
variable {content line : Text} {maximum : Nat} {receipts : List Receipt}

theorem takeWhile_clean (clean : newline ∉ content) (rest : Text) :
    (content ++ rest).takeWhile (· != newline) = content ++ rest.takeWhile (· != newline) := by
  apply List.takeWhile_append_of_pos
  intro byte known
  exact bne_iff_ne.mpr (ne_of_mem_of_not_mem known clean)

theorem takeWhile_self (clean : newline ∉ content) : content.takeWhile (· != newline) = content := by
  simpa using takeWhile_clean clean []

theorem takeWhile_line (clean : newline ∉ line) (rest : Text) :
    (line ++ newline :: rest).takeWhile (· != newline) = line := by
  rw [takeWhile_clean clean, List.takeWhile_cons_of_neg (by simp), List.append_nil]

theorem readLine_append (fits : content.length ≤ maximum) (first second : Text) (later : List Receipt) :
    readLine maximum content (.bytes (first ++ second) :: later) =
      readLine maximum content (.bytes first :: .bytes second :: later) := by
  by_cases found : newline ∈ first
  · obtain ⟨line, rest, rfl, clean⟩ := List.eq_append_cons_of_mem found
    simp [readLine, takeWhile_line clean]
  · simp only [readLine, takeWhile_clean found, takeWhile_self found, List.length_append]
    by_cases excess : maximum - content.length < first.length
    · rw [if_pos excess, if_pos (by omega)]
    · have same : maximum - content.length < first.length + (second.takeWhile (· != newline)).length ↔
          maximum - (content.length + first.length) < (second.takeWhile (· != newline)).length := by omega
      simp [excess, found, same]

theorem readLine_continues (fits : content.length ≤ maximum) :
    readLine maximum content receipts = readLine maximum content (whole receipts) := by
  induction receipts generalizing content with
  | nil => simp [readLine, whole, arrived]
  | cons receipt later ih =>
      cases receipt with
      | interrupted => exact ih fits
      | ended => simp [readLine, whole, arrived]
      | bytes chunk =>
          have merged := readLine_append fits chunk (arrived later)
            (if later.any (· matches .ended) then [.ended] else [])
          have fitting (fits : ¬maximum - content.length < (chunk.takeWhile (· != newline)).length) :
              (content ++ chunk.takeWhile (· != newline)).length ≤ maximum := by
            rw [List.length_append]
            omega
          refine Eq.trans ?_ merged.symm
          rw [readLine, readLine]
          split
          · rfl
          · rename_i small
            rw [ih (fitting small)]
            rfl

theorem readLine_whole (clean : newline ∉ line) (all : arrived receipts = line ++ [newline]) :
    readLine maximum [] receipts = some (if line.length ≤ maximum then .ok line else .error limitError) := by
  rw [readLine_continues (Nat.zero_le _), whole, all]
  simp only [readLine, takeWhile_line clean]
  by_cases fits : line.length ≤ maximum
  · simp [fits, Nat.not_lt.mpr fits]
  · simp [fits, Nat.lt_of_not_le fits]

/-- The result of a reader depends on the bytes of its connection and not on their pieces. -/
theorem readLine_pieces (maximum : Nat) (receipts : List Receipt) :
    readLine maximum [] receipts = readLine maximum [] (whole receipts) := readLine_continues (Nat.zero_le _)

theorem writeAll_sent (content : Text) (sendings : List Sending) : (writeAll content sendings).1 <+: content ∧
      ((writeAll content sendings).2 = some true ↔ (writeAll content sendings).1 = content) := by
  fun_induction writeAll content sendings with
  | case1 => simp
  | case2 => simp_all
  | case3 _ _ _ ih => exact ih
  | case4 | case5 => simp_all
  | case6 content count later nonempty moved ih =>
      constructor
      · have whole := (List.prefix_append_right_inj (content.take count)).mpr ih.1
        rwa [List.take_append_drop] at whole
      · rw [ih.2, ← List.append_right_inj (content.take count), List.take_append_drop]

/-- A reader returns the written line once its last byte has arrived, and nothing before. -/
theorem message_whole (clean : newline ∉ line) {sendings : List Sending}
    (carried : arrived receipts <+: (writeAll (line ++ [newline]) sendings).1) (read : Text) :
    readLine maximum [] receipts = some (.ok read) ↔
      (writeAll (line ++ [newline]) sendings).2 = some true ∧ arrived receipts = line ++ [newline] ∧
        line.length ≤ maximum ∧ read = line := by
  obtain ⟨sent, complete⟩ := writeAll_sent (line ++ [newline]) sendings
  rcases List.prefix_concat_iff.mp (carried.trans sent) with all | torn
  · have complete : (writeAll (line ++ [newline]) sendings).2 = some true := by
      rw [complete]
      exact sent.eq_of_length_le (all ▸ carried.length_le)
    rw [readLine_whole clean all]
    by_cases fits : line.length ≤ maximum <;> simp [fits, all, complete, eq_comm]
  · have absent : newline ∉ arrived receipts := fun found => clean (torn.subset found)
    have short : arrived receipts ≠ line ++ [newline] := fun same => absent (by simp [same])
    have without : (arrived receipts).contains newline = false := by simpa using absent
    rw [readLine_continues (Nat.zero_le _), whole]
    simp only [readLine, takeWhile_self absent, without, List.length_nil, Nat.sub_zero]
    by_cases excess : maximum < (arrived receipts).length
    · simp [excess, short]
    · cases receipts.any (· matches .ended) <;> simp [excess, short, readLine]

/-- A message of two bytes arrives in two pieces. -/
theorem message_whole_divided : readLine 2 [] [.bytes [104], .interrupted, .bytes [105, 10]] = some (.ok [104, 105]) :=
  (@message_whole [104, 105] _ _ (by decide) [.moved 1, .moved 2] (by decide) _).mpr (by decide)

end Pieces

end OpenVehicle.Ipc
