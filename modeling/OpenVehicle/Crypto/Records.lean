/-
This file proves what a decrypting stream returns for the records of an encrypting stream.
-/

import OpenVehicle.Crypto.RecordStream

namespace OpenVehicle.Crypto

/-- Two numbers with the same bytes are equal. -/
theorem eq_of_bytes (count : Nat) {first second : Nat} (small : first < 256 ^ count) (small' : second < 256 ^ count)
    (same : ∀ index < count, first / 256 ^ index % 256 = second / 256 ^ index % 256) : first = second := by
  induction count generalizing first second with
  | zero => omega
  | succ count ih =>
      have last := same 0 (Nat.succ_pos count)
      rw [Nat.pow_zero, Nat.div_one, Nat.div_one] at last
      rw [Nat.pow_succ] at small small'
      have rest : first / 256 = second / 256 := by
        apply ih (Nat.div_lt_of_lt_mul (by omega)) (Nat.div_lt_of_lt_mul (by omega))
        intro index inside
        have next := same (index + 1) (by omega)
        rw [Nat.pow_succ, Nat.mul_comm, ← Nat.div_div_eq_div_mul, ← Nat.div_div_eq_div_mul] at next
        exact next
      omega

variable {botan : Botan}

section Nonces
variable {state : AeadRecordState} {first second : UInt64}

/-- Each of the last eight bytes of a nonce contains one byte of the sequence. -/
theorem byte_of_nonce (length : state.baseNonce.length = 12)
    (same : { state with sequence := first }.nonce = { state with sequence := second }.nonce) {index : Nat}
    (inside : index < 8) : (first >>> (8 * index).toUInt64).toUInt8 = (second >>> (8 * index).toUInt64).toUInt8 := by
  have here := congrArg (·[11 - index]?) same
  simp only [AeadRecordState.nonce, List.getElem?_mapIdx] at here
  have placed : 11 - index < state.baseNonce.length := by omega
  rw [List.getElem?_eq_getElem placed, length] at here
  have position : 12 - 1 - (11 - index) = index := by omega
  simp only [Option.map_some, Option.some.injEq, position, if_pos inside] at here
  exact (UInt8.xor_right_inj _).mp here

theorem nonce_injective (length : state.baseNonce.length = 12)
    (same : { state with sequence := first }.nonce = { state with sequence := second }.nonce) : first = second := by
  apply UInt64.toNat_inj.mp
  apply eq_of_bytes 8 first.toNat_lt second.toNat_lt
  intro index inside
  have bytes := congrArg UInt8.toNat (byte_of_nonce length same inside)
  simp only [UInt64.toNat_toUInt8, UInt64.toNat_shiftRight, Nat.shiftRight_eq_div_pow, Nat.toUInt64_eq,
    UInt64.toNat_ofNat'] at bytes
  have small : 8 * index % 2 ^ 64 % 64 = 8 * index := by omega
  rw [small, Nat.pow_mul] at bytes
  exact bytes

/-- The nonce that a call gives to the cipher. -/
def usedNonce (input : BytesView) (output : Option Buffer) (stream : RecordStream) : Option (List Byte) :=
  match stream, acceptable input, output with
  | some state, some input, some buffer => if (state.refusal input buffer).isNone then some state.nonce else none
  | _, _, _ => none

/-- The nonces of a sequence of calls. -/
def nonces (botan : Botan) : List (BytesView × Option Buffer) → RecordStream → List (List Byte)
  | [], _ => []
  | call :: calls, stream =>
      (usedNonce call.1 call.2 stream).toList ++ nonces botan calls (processCall botan call.1 call.2 stream).2

theorem process_state (input : List Byte) (output : Buffer) (fresh : state.refusal input output = none) :
    (state.process botan input output).state = none ∨ (state.process botan input output).state = state.advance := by
  unfold AeadRecordState.process
  rw [fresh]
  simp only
  split
  · exact .inl rfl
  · exact .inl rfl
  · split
    · exact .inl rfl
    · exact .inr rfl

/-- A call uses no nonce and keeps the stream, or it uses the nonce of the stream and advances or closes it. -/
theorem processCall_cases (input : BytesView) (output : Option Buffer) :
    usedNonce input output (some state) = none ∧ (processCall botan input output (some state)).2 = some state ∨
      usedNonce input output (some state) = some state.nonce ∧ ((processCall botan input output (some state)).2 = none ∨
          (processCall botan input output (some state)).2 = state.advance) := by
  unfold usedNonce processCall
  cases acceptable input with
  | none => exact .inl ⟨rfl, rfl⟩
  | some record =>
      cases output with
      | none => exact .inl ⟨rfl, rfl⟩
      | some buffer =>
          simp only
          cases refused : state.refusal record buffer with
          | none => exact .inr ⟨rfl, process_state record buffer refused⟩
          | some step =>
              refine .inl ⟨rfl, ?_⟩
              unfold AeadRecordState.process
              rw [refused]
              exact (AeadRecordState.refusal_state refused).1

theorem nonces_none (calls : List (BytesView × Option Buffer)) : nonces botan calls none = [] := by
  induction calls with
  | nil => rfl
  | cons call calls ih => exact ih

theorem advance_eq_some {later : AeadRecordState} (advanced : state.advance = some later) :
    later = { state with sequence := state.sequence + 1 } ∧ (state.sequence + 1).toNat = state.sequence.toNat + 1 := by
  unfold AeadRecordState.advance at advanced
  split at advanced
  · cases advanced
  · rename_i more
    refine ⟨(Option.some.inj advanced).symm, ?_⟩
    rw [UInt64.toNat_add]
    have bounded := state.sequence.toNat_lt
    have below : state.sequence.toNat ≠ 2 ^ 64 - 1 := by
      intro last
      apply more
      rw [← last, UInt64.ofNat_toNat]
    have one : (1 : UInt64).toNat = 1 := rfl
    rw [one]
    omega

/-- Later nonces have a sequence number that is at least that of the stream. -/
theorem mem_nonces {calls : List (BytesView × Option Buffer)} {nonce : List Byte}
    (member : nonce ∈ nonces botan calls (some state)) :
    ∃ sequence : UInt64, state.sequence.toNat ≤ sequence.toNat ∧ nonce = { state with sequence := sequence }.nonce := by
  induction calls generalizing state with
  | nil => exact absurd member List.not_mem_nil
  | cons call calls ih =>
      unfold nonces at member
      rcases @processCall_cases botan state call.1 call.2 with ⟨unused, kept⟩ | ⟨used, moved⟩
      · rw [unused, kept] at member
        exact ih member
      · rw [used] at member
        rcases List.mem_cons.mp member with rfl | rest
        · exact ⟨state.sequence, Nat.le_refl _, rfl⟩
        · rcases moved with closed | advanced
          · rw [closed] at rest
            rw [nonces_none] at rest
            exact absurd rest List.not_mem_nil
          · rw [advanced] at rest
            cases next : state.advance with
            | none =>
                rw [next, nonces_none] at rest
                exact absurd rest List.not_mem_nil
            | some later =>
                rw [next] at rest
                obtain ⟨rfl, counted⟩ := advance_eq_some next
                obtain ⟨sequence, above, same⟩ := ih rest
                refine ⟨sequence, ?_, same⟩
                simp only at above
                omega

/-- The nonces of one stream are pairwise distinct. -/
theorem nodup_nonces (length : state.baseNonce.length = 12) (calls : List (BytesView × Option Buffer)) :
    (nonces botan calls (some state)).Nodup := by
  induction calls generalizing state with
  | nil => exact List.nodup_nil
  | cons call calls ih =>
      unfold nonces
      rcases @processCall_cases botan state call.1 call.2 with ⟨unused, kept⟩ | ⟨used, moved⟩
      · rw [unused, kept]
        exact ih length
      · have closes : (state.nonce :: nonces botan calls none).Nodup := by
          rw [nonces_none]
          exact List.nodup_cons.mpr ⟨List.not_mem_nil, List.nodup_nil⟩
        rw [used]
        change (state.nonce :: nonces botan calls _).Nodup
        rcases moved with closed | advanced
        · rw [closed]
          exact closes
        · rw [advanced]
          cases next : state.advance with
          | none => exact closes
          | some later =>
              obtain ⟨rfl, counted⟩ := advance_eq_some next
              refine List.nodup_cons.mpr ⟨fun member => ?_, ih length⟩
              obtain ⟨sequence, above, same⟩ := mem_nonces member
              have equal : state.sequence = sequence := nonce_injective length same
              simp only [← equal] at above
              omega

/-- A call whose buffer is too small keeps the stream. -/
theorem processCall_tooSmall {input : BytesView} {output : Option Buffer} {stream : RecordStream}
    (short : (processCall botan input output stream).1.status = .bufferTooSmall) :
    (processCall botan input output stream).2 = stream := by
  cases stream with
  | none => rfl
  | some state =>
      unfold processCall at short ⊢
      cases accepted : acceptable input with
      | none => rfl
      | some record =>
          cases output with
          | none => rfl
          | some buffer =>
              rw [accepted] at short
              simp only at short ⊢
              unfold AeadRecordState.process at short ⊢
              cases refused : state.refusal record buffer with
              | some step => exact (AeadRecordState.refusal_state refused).1
              | none =>
                  rw [refused] at short
                  simp only [AeadRecordState.refuse] at short
                  split at short
                  · cases short
                  · cases short
                  · split at short <;> cases short

end Nonces

section Process
variable {state : AeadRecordState} {record : List Byte}

/-- The result of a record that reaches the cipher. -/
def AeadRecordState.outcome (botan : Botan) (record : List Byte) (state : AeadRecordState) :
    Except Status (List Byte) × RecordStream :=
  match state.transform botan record with
  | .error (.integrityFailure _) => (.error .authenticationFailed, none)
  | .error _ => (.error .backendError, none)
  | .ok bytes =>
      if bytes.length ≠ state.requiredSize record then (.error .backendError, none) else (.ok bytes, state.advance)

theorem processCall_present (accepted : acceptable (some record) = some record) {size : Nat}
    (long : state.encrypt = false → tagSize ≤ record.length) :
    processCall botan (some record) (some ⟨false, size⟩) (some state) =
      ({ status := .bufferTooSmall, output := .required (state.requiredSize record) }, some state) := by
  have whole : (!state.encrypt && decide (record.length < tagSize)) = false := by
    cases encrypts : state.encrypt with
    | true => rfl
    | false => simpa using long encrypts
  unfold processCall
  rw [accepted]
  simp [AeadRecordState.process, AeadRecordState.refusal, whole]

theorem refusal_none {size : Nat} (long : state.encrypt = false → tagSize ≤ record.length)
    (enough : state.requiredSize record ≤ size) : state.refusal record ⟨true, size⟩ = none := by
  have whole : (!state.encrypt && decide (record.length < tagSize)) = false := by
    cases encrypts : state.encrypt with
    | true => rfl
    | false => simpa using long encrypts
  simp [AeadRecordState.refusal, whole, Nat.not_lt.mpr enough]

theorem acceptable_eq (filled : record ≠ []) (small : record.length ≤ maximumRecordSize + tagSize) :
    acceptable (some record) = some record := by
  simp [acceptable, Option.filter, filled, small]

/-- A record of an allowed size reaches the cipher in the second call of the runtime. -/
theorem process_sized (filled : record ≠ []) (long : state.encrypt = false → tagSize < record.length)
    (small : record.length ≤ maximumRecordSize + tagSize) :
    RecordStream.process botan record (some state) = state.outcome botan record := by
  have accepted := acceptable_eq filled small
  have required : state.requiredSize record ≠ 0 ∧ state.requiredSize record ≤ maximumOutputSize := by
    have positive := List.length_pos_iff.mpr filled
    unfold AeadRecordState.requiredSize AeadRecordState.plaintextSize
    cases encrypts : state.encrypt with
    | true =>
        simp only [maximumRecordSize, tagSize, maximumOutputSize, if_true] at small ⊢
        omega
    | false =>
        have longer := long encrypts
        simp only [maximumRecordSize, tagSize, maximumOutputSize, Bool.false_eq_true, if_false] at small longer ⊢
        omega
  have first := @processCall_present botan state record accepted 0 fun encrypts => Nat.le_of_lt (long encrypts)
  have fresh := @refusal_none state record (state.requiredSize record)
    (fun encrypts => Nat.le_of_lt (long encrypts)) (Nat.le_refl _)
  have nonempty : record.isEmpty = false := by simpa using filled
  have present : (state.requiredSize record != 0) = true := bne_iff_ne.mpr required.1
  unfold RecordStream.process
  rw [nonempty, if_neg Bool.false_ne_true, variableOutput_eq first required.2, present]
  unfold processCall AeadRecordState.process AeadRecordState.outcome
  rw [accepted]
  simp only [fresh]
  cases state.transform botan record with
  | error exception =>
      cases exception <;> rfl
  | ok bytes =>
      simp only
      split
      · rfl
      · rename_i sized
        simp [written, not_not.mp sized]

/-- A record of a size that a decrypting stream gives to the cipher. -/
def Sized (record : List Byte) : Prop := tagSize < record.length ∧ record.length ≤ maximumRecordSize + tagSize

/-- A record of another size is refused and does not close a decrypting stream. -/
theorem process_unsized (decrypts : state.encrypt = false) (unsized : ¬Sized record) :
    ∃ status, RecordStream.process botan record (some state) = (.error status, some state) := by
  unfold Sized at unsized
  unfold RecordStream.process
  split
  · exact ⟨_, rfl⟩
  · rename_i filled
    by_cases small : record.length ≤ maximumRecordSize + tagSize
    · have accepted := acceptable_eq (by simpa using filled) small
      by_cases whole : record.length < tagSize
      · refine ⟨.invalidArgument, ?_⟩
        apply @variableOutput_refused RecordStream _ _ (some state) { status := .invalidArgument }
        · unfold processCall
          rw [accepted]
          simp [AeadRecordState.process, AeadRecordState.refusal, decrypts, whole, AeadRecordState.refuse]
        · decide
        · decide
      · have none : state.requiredSize record = 0 := by
          simp only [AeadRecordState.requiredSize, AeadRecordState.plaintextSize, decrypts, Bool.false_eq_true,
            if_false]
          omega
        have first := @processCall_present botan state record accepted 0 fun _ => Nat.not_lt.mp whole
        refine ⟨.bufferTooSmall, ?_⟩
        rw [variableOutput_eq first (none ▸ Nat.zero_le _), none]
        have again := @processCall_present botan state record accepted 0 fun _ => Nat.not_lt.mp whole
        change written 0 (processCall botan (some record) (some ⟨false, 0⟩) (some state)) = _
        rw [again]
        rfl
    · refine ⟨.invalidArgument, ?_⟩
      apply @variableOutput_refused RecordStream _ _ (some state) { status := .invalidArgument }
      · have refused : acceptable (some record) = Option.none := by
          simp [acceptable, Option.filter, small]
        unfold processCall
        rw [refused]
      · decide
      · decide

theorem process_closed : ∃ status, RecordStream.process botan record none = (.error status, none) := by
  unfold RecordStream.process
  split
  · exact ⟨_, rfl⟩
  · exact ⟨.invalidArgument, rfl⟩

end Process

section Streams
variable {record : List Byte}

/-- A record that was encrypted under a nonce with associated data. -/
@[ext]
structure Sealed where
  nonce : List Byte
  associatedData : List Byte
  plaintext : List Byte
  ciphertext : List Byte

/-- The cipher decrypts exactly what was produced under the same nonce and associated data. -/
structure Ideal (botan : Botan) (name : String) (key : List Byte) (produced : Sealed → Prop) : Prop where
  opens : ∀ nonce associatedData plaintext ciphertext,
    botan.cipher name false key associatedData nonce ciphertext = .ok plaintext ↔
      produced ⟨nonce, associatedData, plaintext, ciphertext⟩
  rejects : ∀ nonce associatedData ciphertext, (∀ plaintext, ¬produced ⟨nonce, associatedData, plaintext, ciphertext⟩) →
    ∃ what, botan.cipher name false key associatedData nonce ciphertext = .error (.integrityFailure what)

/-- The two streams are opened with the same key, nonce and associated data. -/
def AeadRecordState.direction (encrypt : Bool) (base : AeadRecordState) : AeadRecordState :=
  { base with sequence := 0, encrypt }

/-- The stream after a number of records. It is closed after the last sequence number. -/
def AeadRecordState.after (encrypt : Bool) (base : AeadRecordState) (count : Nat) : RecordStream :=
  if count < 2 ^ 64 then some { base with sequence := UInt64.ofNat count, encrypt } else none

/-- A plaintext with the ciphertext that the encrypting stream returned. -/
abbrev Pair := List Byte × List Byte

/-- What the encrypting stream has produced with one of its records. -/
def AeadRecordState.sealing (base : AeadRecordState) (count : Nat) (pair : Pair) : Sealed :=
  let state := { base with sequence := UInt64.ofNat count }
  ⟨state.nonce, state.recordData pair.1.length, pair.1, pair.2⟩

/-- The key is used by the encrypting stream, and elsewhere only under other nonces. -/
structure Setting (botan : Botan) (base : AeadRecordState) (pairs : List Pair) (foreign : Sealed → Prop) : Prop where
  nonceSize : base.baseNonce.length = 12
  accepted : (RecordStream.feed botan (pairs.map Prod.fst) (some (base.direction true))).1 =
    pairs.map fun pair => .ok pair.2
  ideal : Ideal botan ((cipherName base.algorithm).getD "") base.key fun sealed =>
    (∃ count pair, pairs[count]? = some pair ∧ sealed = base.sealing count pair) ∨ foreign sealed
  elsewhere : ∀ sealed, foreign sealed → ∀ sequence, sealed.nonce ≠ { base with sequence := sequence }.nonce

/-- A record is rejected and closes the stream. -/
def Rejects (botan : Botan) (record : List Byte) (stream : RecordStream) : Prop :=
  (∃ status, (RecordStream.process botan record stream).1 = .error status) ∧
    (RecordStream.process botan record stream).2 = none

/-- A record is refused. It closes the stream if it reaches the cipher, and else the stream stays as it is. -/
structure Refuses (botan : Botan) (record : List Byte) (stream : RecordStream) : Prop where
  error : ∃ status, (RecordStream.process botan record stream).1 = .error status
  closes : Sized record → (RecordStream.process botan record stream).2 = none
  keeps : ¬Sized record → (RecordStream.process botan record stream).2 = stream

/-- An open stream returns the plaintext of the next record and refuses every other record. -/
def Delivers (botan : Botan) : List Pair → List (List Byte) → RecordStream → Prop
  | _, [], _ => True
  | pair :: pairs, record :: records, some state =>
      let answer := RecordStream.process botan record (some state)
      if record = pair.2 then
        pair.1.length ≤ maximumRecordSize → answer.1 = .ok pair.1 ∧ Delivers botan pairs records answer.2
      else Refuses botan record (some state) ∧ Delivers botan (pair :: pairs) records answer.2
  | _, record :: records, stream =>
      Refuses botan record stream ∧ Delivers botan [] records (RecordStream.process botan record stream).2

variable {base : AeadRecordState} {pairs : List Pair} {foreign : Sealed → Prop} {count : Nat}

theorem advance_after (encrypt : Bool) (inside : count < 2 ^ 64) :
    { base with sequence := UInt64.ofNat count, encrypt := encrypt }.advance = base.after encrypt (count + 1) := by
  unfold AeadRecordState.advance AeadRecordState.after
  have same : UInt64.ofNat count = UInt64.ofNat (2 ^ 64 - 1) ↔ count = 2 ^ 64 - 1 := by
    rw [← UInt64.toNat_inj, UInt64.toNat_ofNat', UInt64.toNat_ofNat', Nat.mod_eq_of_lt inside]
    rfl
  by_cases last : count = 2 ^ 64 - 1
  · rw [if_pos (same.mpr last), if_neg (by omega)]
  · rw [if_neg (mt same.mp last), if_pos (by omega), UInt64.ofNat_add]
    rfl

variable {state : AeadRecordState}

theorem outcome_ok {bytes : List Byte} (returned : (state.outcome botan record).1 = .ok bytes) :
    bytes.length = state.requiredSize record ∧ (state.outcome botan record).2 = state.advance := by
  unfold AeadRecordState.outcome at returned ⊢
  split at returned
  · cases returned
  · cases returned
  · split at returned
    · cases returned
    · rename_i sized
      cases returned
      rw [if_neg sized]
      exact ⟨not_not.mp sized, rfl⟩

/-- What an accepted record of the encrypting stream says. -/
theorem accepted_record {plaintext ciphertext : List Byte} (encrypts : state.encrypt = true)
    (accepted : (RecordStream.process botan plaintext (some state)).1 = .ok ciphertext) :
    plaintext ≠ [] ∧ plaintext.length ≤ maximumRecordSize + tagSize ∧ ciphertext.length = plaintext.length + tagSize ∧
      (RecordStream.process botan plaintext (some state)).2 = state.advance := by
  have filled : plaintext ≠ [] := by
    intro empty
    rw [empty] at accepted
    cases accepted
  by_cases small : plaintext.length ≤ maximumRecordSize + tagSize
  · have sized := @process_sized botan state plaintext filled (by simp [encrypts]) small
    rw [sized] at accepted ⊢
    obtain ⟨length, advanced⟩ := outcome_ok accepted
    simp only [AeadRecordState.requiredSize, encrypts, if_true] at length
    exact ⟨filled, small, length, advanced⟩
  · have refused : acceptable (some plaintext) = Option.none := by
      simp [acceptable, Option.filter, small]
    have nonempty : plaintext.isEmpty = false := by simpa using filled
    have answer := @variableOutput_refused RecordStream
      (fun buffer => processCall botan (some plaintext) (some buffer)) (some state) (some state)
      { status := .invalidArgument } (by simp only [processCall, refused]) nofun nofun
    unfold RecordStream.process at accepted
    rw [nonempty, if_neg Bool.false_ne_true, answer] at accepted
    cases accepted

theorem process_after_none {bytes : List Byte} (accepted : (RecordStream.process botan record none).1 = .ok bytes) :
    False := by
  obtain ⟨status, refused⟩ := @process_closed botan record
  rw [refused] at accepted
  cases accepted

variable {pair : Pair}

/-- The accepted records have a sequence number each, and a ciphertext with a tag. -/
theorem accepted_records (start : Nat)
    (accepted : (RecordStream.feed botan (pairs.map Prod.fst) (base.after true start)).1 =
      pairs.map fun pair => .ok pair.2) (found : pairs[count]? = some pair) :
    start + count < 2 ^ 64 ∧ pair.1 ≠ [] ∧ pair.2.length = pair.1.length + tagSize := by
  induction pairs generalizing start count with
  | nil => simp at found
  | cons first pairs ih =>
      simp only [List.map_cons, RecordStream.feed, List.cons.injEq] at accepted
      obtain ⟨answered, rest⟩ := accepted
      by_cases inside : start < 2 ^ 64
      · rw [AeadRecordState.after, if_pos inside] at answered rest
        obtain ⟨filled, small, length, advanced⟩ := accepted_record rfl answered
        cases count with
        | zero =>
            cases found
            exact ⟨inside, filled, length⟩
        | succ count =>
            rw [advanced, advance_after true inside] at rest
            have later := ih _ rest found
            exact ⟨by omega, later.2⟩
      · rw [AeadRecordState.after, if_neg inside] at answered
        exact (process_after_none answered).elim

/-- The decrypting stream opens the ciphertext of its own record. -/
theorem opens_next (setting : Setting botan base pairs foreign) (found : pairs[count]? = some pair) :
    { base with sequence := UInt64.ofNat count, encrypt := false }.transform botan pair.2 = .ok pair.1 := by
  have length := (accepted_records 0 setting.accepted found).2.2
  apply (setting.ideal.opens _ _ _ _).mpr
  refine .inl ⟨count, pair, found, ?_⟩
  have size : pair.2.length - tagSize = pair.1.length := by omega
  simp only [AeadRecordState.sealing, AeadRecordState.plaintextSize, AeadRecordState.recordData,
    AeadRecordState.nonce, Bool.false_eq_true, if_false, size]

/-- The decrypting stream does not open any other record. -/
theorem rejects_other (setting : Setting botan base pairs foreign) (inside : count < 2 ^ 64)
    (other : ∀ pair, pairs[count]? = some pair → record ≠ pair.2) :
    ∃ what, { base with sequence := UInt64.ofNat count, encrypt := false }.transform botan record =
      .error (.integrityFailure what) := by
  apply setting.ideal.rejects
  rintro plaintext (⟨position, pair, found, same⟩ | strange)
  · injection same with nonces data plain cipher
    have placed := (accepted_records 0 setting.accepted found).1
    have equal : UInt64.ofNat count = UInt64.ofNat position := nonce_injective setting.nonceSize nonces
    have numbers := congrArg UInt64.toNat equal
    rw [UInt64.toNat_ofNat', UInt64.toNat_ofNat', Nat.mod_eq_of_lt inside, Nat.mod_eq_of_lt (by omega)] at numbers
    exact other pair (numbers ▸ found) cipher
  · exact setting.elsewhere _ strange _ rfl

theorem refuses_closed (record : List Byte) : Refuses botan record none := by
  obtain ⟨status, closed⟩ := @process_closed botan record
  constructor
  · exact ⟨status, by rw [closed]⟩
  · intro _
    rw [closed]
  · intro _
    rw [closed]

theorem delivers_closed (pairs : List Pair) (received : List (List Byte)) : Delivers botan pairs received none := by
  induction received generalizing pairs with
  | nil => cases pairs <;> trivial
  | cons record received ih =>
      obtain ⟨status, closed⟩ := @process_closed botan record
      rw [Delivers, closed]
      · exact ⟨refuses_closed record, ih []⟩
      · nofun

section
variable (setting : Setting botan base pairs foreign)
include setting

/-- A record that is not the next one is refused. -/
theorem refuses_other (inside : count < 2 ^ 64)
    (other : ∀ pair, pairs[count]? = some pair → record ≠ pair.2) : Refuses botan record (base.after false count) := by
  rw [AeadRecordState.after, if_pos inside]
  by_cases sized : Sized record
  · obtain ⟨what, refused⟩ := rejects_other setting inside other
    have filled : record ≠ [] := List.ne_nil_of_length_pos (Nat.zero_lt_of_lt sized.1)
    have answer := @process_sized botan { base with sequence := UInt64.ofNat count, encrypt := false } record filled
      (fun _ => sized.1) sized.2
    rw [AeadRecordState.outcome, refused] at answer
    constructor
    · exact ⟨.authenticationFailed, by rw [answer]⟩
    · intro _
      rw [answer]
    · intro unsized
      exact absurd sized unsized
  · obtain ⟨status, kept⟩ := @process_unsized botan
      { base with sequence := UInt64.ofNat count, encrypt := false } record rfl sized
    constructor
    · exact ⟨status, by rw [kept]⟩
    · intro size
      exact absurd size sized
    · intro _
      rw [kept]

/-- The next record returns its plaintext and moves the stream to the next sequence number. -/
theorem process_next (found : pairs[count]? = some pair) (small : pair.1.length ≤ maximumRecordSize) :
    RecordStream.process botan pair.2 (base.after false count) = (.ok pair.1, base.after false (count + 1)) := by
  obtain ⟨placed, filled, length⟩ := accepted_records 0 setting.accepted found
  have inside : count < 2 ^ 64 := by omega
  have positive := List.length_pos_iff.mpr filled
  have size : pair.2.length - tagSize = pair.1.length := by omega
  rw [AeadRecordState.after, if_pos inside, process_sized (List.ne_nil_of_length_pos (by omega)) (fun _ => by omega)
    (by omega), AeadRecordState.outcome, opens_next setting found]
  simp only [AeadRecordState.requiredSize, AeadRecordState.plaintextSize, Bool.false_eq_true, if_false, size,
    ne_eq, not_true_eq_false, advance_after false inside]

/-- The records that arrive are returned in order, and every other record is refused. -/
theorem delivers_after (received : List (List Byte)) (count : Nat) :
    Delivers botan (pairs.drop count) received (base.after false count) := by
  induction received generalizing count with
  | nil => cases pairs.drop count <;> trivial
  | cons record received ih =>
      by_cases inside : count < 2 ^ 64
      · have refused (other : ∀ pair, pairs[count]? = some pair → record ≠ pair.2) :
            Refuses botan record (base.after false count) ∧
              Delivers botan (pairs.drop count) received
                (RecordStream.process botan record (base.after false count)).2 := by
          have refuses := refuses_other setting inside other
          refine ⟨refuses, ?_⟩
          by_cases sized : Sized record
          · rw [refuses.closes sized]
            exact delivers_closed _ _
          · rw [refuses.keeps sized]
            exact ih count
        have opened : base.after false count = some { base with sequence := UInt64.ofNat count, encrypt := false } :=
          if_pos inside
        cases remaining : pairs.drop count with
        | nil =>
            rw [remaining, opened] at refused
            rw [opened, Delivers]
            apply refused
            intro pair found
            rw [List.getElem?_eq_none (List.drop_eq_nil_iff.mp remaining)] at found
            cases found
            nofun
        | cons pair rest =>
            have found : pairs[count]? = some pair := by
              rw [← List.head?_drop, remaining]
              rfl
            have later : rest = pairs.drop (count + 1) := by
              rw [← List.drop_drop, remaining]
              rfl
            rw [remaining, opened] at refused
            rw [opened, Delivers]
            by_cases next : record = pair.2
            · rw [if_pos next]
              intro small
              rw [← opened, next, process_next setting found small, later]
              exact ⟨rfl, ih (count + 1)⟩
            · rw [if_neg next]
              apply refused
              intro other known
              rw [known] at found
              cases found
              exact next
      · rw [AeadRecordState.after, if_neg inside]
        exact delivers_closed _ _

end

/-- What two streams promise for a list of received records. -/
structure StreamsAgree (botan : Botan) (base : AeadRecordState) (pairs : List Pair) (received : List (List Byte)) :
    Prop where
  delivered : Delivers botan pairs received (some (base.direction false))
  distinct : ∀ encrypt calls, (nonces botan calls (some (base.direction encrypt))).Nodup
  steady : ∀ input output stream, (processCall botan input output stream).1.status = .bufferTooSmall →
    (processCall botan input output stream).2 = stream

/-- The decrypting stream stays in step with the encrypting one, whatever it receives. -/
theorem recordStreams_agree (setting : Setting botan base pairs foreign) (received : List (List Byte)) :
    StreamsAgree botan base pairs received where
  delivered := delivers_after setting received 0
  distinct := fun encrypt calls => @nodup_nonces botan (base.direction encrypt) setting.nonceSize calls
  steady := fun _ _ _ short => processCall_tooSmall short

end Streams

section Examples

/-- A library that adds an empty tag, and that opens the given records. -/
def echo (known : List Sealed) : Botan :=
  { sample with
    cipher := fun _ encrypt _ associatedData nonce input =>
      if encrypt then .ok (input ++ List.replicate tagSize 0)
      else
        match known.find? fun record =>
            record.nonce = nonce ∧ record.associatedData = associatedData ∧ record.ciphertext = input with
        | some record => .ok record.plaintext
        | none => .error (.integrityFailure "tag check failed") }

def shared : AeadRecordState where
  algorithm := .aes256Gcm
  key := List.replicate 32 7
  baseNonce := List.replicate 12 9
  associatedData := [1]
  encrypt := true

/-- A plaintext with its tag. -/
def tagged (plaintext : List Byte) : Pair := (plaintext, plaintext ++ List.replicate tagSize 0)

/-- The records of a stream, each under its own nonce. -/
def recorded (plaintexts : List (List Byte)) : List Sealed :=
  (plaintexts.map tagged).zipIdx.map fun record => shared.sealing record.2 record.1

variable {plaintexts : List (List Byte)}

theorem mem_recorded {record : Sealed} : record ∈ recorded plaintexts ↔
    ∃ count pair, (plaintexts.map tagged)[count]? = some pair ∧ record = shared.sealing count pair := by
  simp only [recorded, List.mem_map, List.mem_zipIdx_iff_getElem?]
  constructor
  · rintro ⟨⟨pair, count⟩, found, rfl⟩
    exact ⟨count, pair, found, rfl⟩
  · rintro ⟨count, pair, found, rfl⟩
    exact ⟨(pair, count), found, rfl⟩

/-- A ciphertext has one plaintext, so that the first record found is the one that was produced. -/
theorem echo_ideal (plaintexts : List (List Byte)) (name : String) (key : List Byte) :
    Ideal (echo (recorded plaintexts)) name key (· ∈ recorded plaintexts) := by
  have tags {record : Sealed} : record ∈ recorded plaintexts → record.ciphertext = (tagged record.plaintext).2 := by
    intro produced
    obtain ⟨count, pair, found, rfl⟩ := mem_recorded.mp produced
    obtain ⟨plaintext, _, rfl⟩ := List.mem_map.mp (List.mem_of_getElem? found)
    rfl
  have of_found {nonce associatedData input : List Byte} {record : Sealed}
      (found : (recorded plaintexts).find? (fun record => decide (record.nonce = nonce ∧
        record.associatedData = associatedData ∧ record.ciphertext = input)) = some record) :
      record ∈ recorded plaintexts ∧ record.nonce = nonce ∧ record.associatedData = associatedData ∧
        record.ciphertext = input := by
    have same := List.find?_some found
    exact ⟨List.mem_of_find?_eq_some found, of_decide_eq_true same⟩
  constructor
  · intro nonce associatedData plaintext ciphertext
    simp only [echo, Bool.false_eq_true, if_false]
    split
    · rename_i record found
      obtain ⟨produced, rfl, rfl, rfl⟩ := of_found found
      constructor
      · intro opened
        cases opened
        exact produced
      · intro other
        have same : (tagged record.plaintext).2 = (tagged plaintext).2 := (tags produced).symm.trans (tags other)
        rw [List.append_cancel_right same]
    · rename_i missing
      simp only [reduceCtorEq, false_iff]
      intro produced
      simpa using List.find?_eq_none.mp missing _ produced
  · intro nonce associatedData ciphertext strange
    refine ⟨"tag check failed", ?_⟩
    simp only [echo, Bool.false_eq_true, if_false]
    split
    · rename_i record found
      obtain ⟨produced, rfl, rfl, rfl⟩ := of_found found
      exact absurd produced (strange record.plaintext)
    · rfl

theorem feed_echo (known : List Sealed) (plaintexts : List (List Byte)) (start : Nat)
    (filled : ∀ plaintext ∈ plaintexts, plaintext ≠ [] ∧ plaintext.length ≤ maximumRecordSize + tagSize)
    (inside : start + plaintexts.length ≤ 2 ^ 64) :
    (RecordStream.feed (echo known) plaintexts (shared.after true start)).1 =
      (plaintexts.map tagged).map fun pair => .ok pair.2 := by
  induction plaintexts generalizing start with
  | nil => rfl
  | cons plaintext plaintexts ih =>
      rw [List.length_cons] at inside
      obtain ⟨nonempty, small⟩ := filled plaintext List.mem_cons_self
      have answered : RecordStream.process (echo known) plaintext (shared.after true start) =
          (.ok (tagged plaintext).2, shared.after true (start + 1)) := by
        rw [← advance_after true (by omega), AeadRecordState.after, if_pos (by omega),
          process_sized nonempty (by simp) small]
        simp [AeadRecordState.outcome, AeadRecordState.transform, echo, AeadRecordState.requiredSize, tagged]
      simp only [RecordStream.feed, answered, List.map_cons]
      rw [ih (start + 1) (fun other listed => filled other (List.mem_cons_of_mem _ listed)) (by omega)]

theorem echo_setting
    (filled : ∀ plaintext ∈ plaintexts, plaintext ≠ [] ∧ plaintext.length ≤ maximumRecordSize + tagSize)
    (inside : plaintexts.length ≤ 2 ^ 64) :
    Setting (echo (recorded plaintexts)) shared (plaintexts.map tagged) fun _ => False where
  nonceSize := rfl
  accepted := by
    rw [List.map_map, show Prod.fst ∘ tagged = id from rfl, List.map_id]
    exact feed_echo (recorded plaintexts) plaintexts 0 filled (by omega)
  ideal := by
    simp only [or_false, ← mem_recorded]
    exact echo_ideal plaintexts _ _
  elsewhere := fun _ strange => strange.elim

/-- The first record is truncated and then arrives whole, the second arrives, and the first is repeated at last. -/
theorem recordStreams_agree_echo :
    StreamsAgree (echo (recorded [[1, 2, 3], [4, 5]])) shared [tagged [1, 2, 3], tagged [4, 5]]
      [[1, 2, 3], (tagged [1, 2, 3]).2, (tagged [4, 5]).2, (tagged [1, 2, 3]).2] :=
  recordStreams_agree (@echo_setting [[1, 2, 3], [4, 5]] (by decide) (by decide)) _

/-- A truncated record is refused, and the decrypting stream is still open. -/
theorem truncated_record_keeps_stream : ¬∀ botan base pairs foreign, Setting botan base pairs foreign →
    ∀ record, (∀ pair ∈ pairs.head?, record ≠ pair.2) → Rejects botan record (some (base.direction false)) := by
  intro claimed
  have rejected := claimed _ shared _ _ (@echo_setting [[1, 2, 3]] (by decide) (by decide)) [1, 2, 3] (by decide)
  obtain ⟨status, kept⟩ := @process_unsized (echo (recorded [[1, 2, 3]])) (shared.direction false) [1, 2, 3] rfl
    fun sized => absurd sized.1 (by decide)
  rw [Rejects, kept] at rejected
  cases rejected.2

end Examples

end OpenVehicle.Crypto
