/-
This file proves when the runtime may report that a key is absent or that a cursor is finished.
-/

import OpenVehicle.Per.MemoryFrames

namespace OpenVehicle.Per

open OrderedMap (ascending)

variable {runtime : Runtime} {handle : Handle}

namespace Runtime

theorem next_missing (valid : handle ≠ 0) (missing : runtime.backend.cursors.lookup handle = none) :
    runtime.next handle = (.ok none, runtime) := by
  rw [next, if_neg valid, Memory.nextCursor, missing]
  rfl

/-- The two calls of the method deliver the entry at the position of the cursor. -/
theorem next_found {cursor : Memory.Cursor} (valid : handle ≠ 0)
    (found : runtime.backend.cursors.lookup handle = some cursor) (filled : ∀ entry ∈ cursor.entries, entry.1 ≠ []) :
    runtime.next handle = match cursor.entries[cursor.position]? with
      | none => (.ok none, runtime)
      | some entry => (.ok (some entry), { runtime with
          backend.cursors := runtime.backend.cursors.insert handle
            { cursor with position := cursor.position + 1 } }) := by
  rw [next, if_neg valid]
  cases here : cursor.entries[cursor.position]? with
  | none =>
      rw [Memory.nextCursor, found]
      dsimp only
      rw [here]
      rfl
  | some entry =>
      have named : entry.1 ≠ [] := filled entry (List.mem_of_getElem? here)
      have asked : (Memory.lacks none entry.1 || Memory.lacks none entry.2) = true := by
        simp [Memory.lacks, named]
      have served : (Memory.lacks (some entry.1.length) entry.1 ||
          Memory.lacks (some entry.2.length) entry.2) = false := by simp [Memory.lacks]
      have refused : Memory.nextCursor runtime.backend handle none none =
          (.error ⟨.bufferTooSmall, [entry.1.length, entry.2.length]⟩, runtime.backend) := by
        rw [Memory.nextCursor, found]
        dsimp only
        rw [here]
        dsimp only
        rw [asked, if_pos rfl]
      rw [refused]
      dsimp only
      rw [if_neg (by decide), if_neg (by decide)]
      have delivered : Memory.nextCursor runtime.backend handle (some entry.1.length) (some entry.2.length) =
          (.ok entry,
            { runtime.backend with
              cursors := runtime.backend.cursors.insert handle
                { cursor with position := cursor.position + 1 } }) := by
        rw [Memory.nextCursor, found]
        dsimp only
        rw [here]
        dsimp only
        rw [served, if_neg Bool.false_ne_true]
      change Runtime.relay _ some (Memory.nextCursor _ _ (some entry.1.length) (some entry.2.length)) = _
      rw [delivered]
      rfl

end Runtime

variable {session : Session}

namespace Session

open Memory (Backend Idle Only named_kept perform_effect)

section Invariant
variable {cursor : Handle}

/-- The provider keeps what a transaction object has to show. A failed commit has finished it. -/
def Shows (backend : Backend) (handle : Handle) (object : TransactionObject) : Prop :=
  ∃ transaction, backend.transactions.lookup handle = some transaction ∧
    transaction.write = object.write ∧ transaction.finished = object.commitFailed ∧
    transaction.values = object.view

def Delivers (backend : Backend) (handle : Handle) (object : CursorObject) : Prop :=
  ∃ cursor, backend.cursors.lookup handle = some cursor ∧ cursor.entries = object.matching ∧
    object.delivered = cursor.entries.take cursor.position ∧ ∀ entry ∈ cursor.entries, entry.1 ≠ []

/-- A runtime that is stopped has stopped its provider. -/
structure Good (runtime : Runtime) : Prop where
  named : Memory.named.Holds runtime.backend
  stopped : runtime.running = false → Memory.Stopped runtime.backend

structure Sound (session : Session) : Prop where
  good : Good session.runtime
  transactions : session.runtime.running = true → ∀ handle object,
    session.transactions.lookup handle = some object → handle ≠ 0 → object.closed = false →
      Shows session.runtime.backend handle object
  cursors : session.runtime.running = true → ∀ handle object,
    session.cursors.lookup handle = some object → handle ≠ 0 → object.closed = false →
      Delivers session.runtime.backend handle object

theorem Good.perform (good : Good runtime) (call : Call) (other : call ≠ .start) :
    Good { runtime with backend := (Memory.perform runtime.backend call).2 } :=
  ⟨named_kept good.named (perform_effect runtime.backend call), fun ended =>
    Memory.stopped_kept (good.stopped ended) other⟩

/-- The state of the runtime changes without an effect on the objects. -/
theorem Sound.idle (sound : Sound session) (good : Good runtime) (running : runtime.running = session.runtime.running)
    (idle : Idle session.runtime.backend runtime.backend) : Sound { session with runtime := runtime } where
  good := good
  transactions := fun runs handle object found valid active => by
    obtain ⟨transaction, known, facts⟩ := sound.transactions (running ▸ runs) handle object found valid active
    exact ⟨transaction, by rw [idle.1, known], facts⟩
  cursors := fun runs handle object found valid active => by
    obtain ⟨cursor, known, facts⟩ := sound.cursors (running ▸ runs) handle object found valid active
    exact ⟨cursor, by rw [idle.2, known], facts⟩

/-- One transaction object changes with its transaction. -/
theorem Sound.changed (sound : Sound session) {change : TransactionObject → TransactionObject}
    (good : Good runtime) (running : runtime.running = session.runtime.running)
    (only : Only handle session.runtime.backend runtime.backend)
    (own : runtime.running = true → ∀ object, session.transactions.lookup handle = some object →
      handle ≠ 0 → (object.closed = false → Shows session.runtime.backend handle object) →
      (change object).closed = false → Shows runtime.backend handle (change object)) :
    Sound (session.changed runtime handle change) := by
  have others : ∀ other object, other ≠ handle → Shows session.runtime.backend other object →
      Shows runtime.backend other object := by
    intro other object different shown
    obtain ⟨transaction, known, facts⟩ := shown
    exact ⟨transaction, by rw [only.2 other different, known], facts⟩
  have cursors : runtime.running = true → ∀ handle object, session.cursors.lookup handle = some object →
      handle ≠ 0 → object.closed = false → Delivers runtime.backend handle object := by
    intro runs other object found valid active
    obtain ⟨cursor, known, facts⟩ := sound.cursors (running ▸ runs) other object found valid active
    exact ⟨cursor, by rw [only.1, known], facts⟩
  unfold Session.changed
  split
  · rename_i missing
    refine ⟨good, fun runs other object found valid active => ?_, cursors⟩
    have different : other ≠ handle := by
      intro same
      rw [same, missing] at found
      cases found
    exact others other object different (sound.transactions (running ▸ runs) other object found valid active)
  · rename_i object present
    refine ⟨good, fun runs other changed found valid active => ?_, cursors⟩
    rcases FiniteMap.lookup_insert_cases found with ⟨rfl, rfl⟩ | ⟨different, found⟩
    · exact own runs object present valid (sound.transactions (running ▸ runs) other object present valid) active
    · exact others other changed different (sound.transactions (running ▸ runs) other changed found valid active)

/-- One cursor object changes with its cursor. -/
theorem Sound.changedCursor (sound : Sound session) {change : CursorObject → CursorObject}
    (good : Good runtime) (running : runtime.running = session.runtime.running)
    (same : runtime.backend.transactions = session.runtime.backend.transactions) (only : ∀ other, other ≠ handle →
      runtime.backend.cursors.lookup other = session.runtime.backend.cursors.lookup other)
    (own : runtime.running = true → ∀ object, session.cursors.lookup handle = some object →
      handle ≠ 0 → (object.closed = false → Delivers session.runtime.backend handle object) →
      (change object).closed = false → Delivers runtime.backend handle (change object)) :
    Sound (session.changedCursor runtime handle change) := by
  have others : ∀ other object, other ≠ handle → Delivers session.runtime.backend other object →
      Delivers runtime.backend other object := by
    intro other object different delivers
    obtain ⟨cursor, known, facts⟩ := delivers
    exact ⟨cursor, by rw [only other different, known], facts⟩
  have transactions : runtime.running = true → ∀ handle object,
      session.transactions.lookup handle = some object → handle ≠ 0 → object.closed = false →
      Shows runtime.backend handle object := by
    intro runs other object found valid active
    obtain ⟨transaction, known, facts⟩ := sound.transactions (running ▸ runs) other object found valid active
    exact ⟨transaction, by rw [same, known], facts⟩
  unfold Session.changedCursor
  split
  · rename_i missing
    refine ⟨good, transactions, fun runs other object found valid active => ?_⟩
    have different : other ≠ handle := by
      intro same
      rw [same, missing] at found
      cases found
    exact others other object different (sound.cursors (running ▸ runs) other object found valid active)
  · rename_i object present
    refine ⟨good, transactions, fun runs other changed found valid active => ?_⟩
    rcases FiniteMap.lookup_insert_cases found with ⟨rfl, rfl⟩ | ⟨different, found⟩
    · exact own runs object present valid (sound.cursors (running ▸ runs) other object present valid) active
    · exact others other changed different (sound.cursors (running ▸ runs) other changed found valid active)

theorem Sound.begun (sound : Sound session) {write : Bool} {store : Handle} {durability : Durability}
    {expected : Option Nat}
    (good : Good { session.runtime with
      backend := (Memory.beginTransaction session.runtime.backend store durability write expected).2 }) :
    Sound (session.begun write store (session.runtime.onStore store id
      (Memory.beginTransaction · store durability write expected))) := by
  unfold Runtime.onStore
  split
  · exact sound
  dsimp only
  rcases performed : Memory.beginTransaction session.runtime.backend store durability write expected with
    ⟨result, later⟩
  rw [performed] at good
  have facts := Memory.beginTransaction_spec _ _ _ _ performed
  cases result with
  | error failure => exact sound.idle good rfl facts
  | ok begun =>
      obtain ⟨cursors, item, transaction, found, writing, values, unfinished, inserted⟩ := facts
      refine ⟨good, fun runs other object present valid active => ?_, fun runs other object present valid active => ?_⟩
      · rcases FiniteMap.lookup_insert_cases present with ⟨rfl, rfl⟩ | ⟨different, present⟩
        · refine ⟨transaction, ?_, writing, unfinished, ?_⟩
          · change later.transactions.lookup begun.1 = _
            rw [inserted, AList.lookup_insert]
          · rw [values, Session.contents, found]
        · obtain ⟨old, known, shown⟩ := sound.transactions runs other object present valid active
          refine ⟨old, ?_, shown⟩
          change later.transactions.lookup other = _
          rw [inserted, AList.lookup_insert_ne different, known]
      · obtain ⟨cursor, known, facts⟩ := sound.cursors runs other object present valid active
        refine ⟨cursor, ?_, facts⟩
        change later.cursors.lookup other = _
        rw [cursors, known]

theorem handle_eq_zero_or (session : Session) (transaction : Handle) : session.handle transaction = 0 ∨
    session.handle transaction = transaction := by
  unfold Session.handle
  split
  · exact .inl rfl
  · split
    · exact .inl rfl
    · exact .inr rfl

variable {transaction : Handle}

/-- An object with a handle is present and open. -/
theorem object_of_handle (valid : session.handle transaction ≠ 0) : session.handle transaction = transaction ∧ ∃ object,
      session.transactions.lookup transaction = some object ∧ object.closed = false := by
  refine ⟨(handle_eq_zero_or session transaction).resolve_left valid, ?_⟩
  rw [Session.handle] at valid
  split at valid
  · exact absurd rfl valid
  · rename_i object present
    split at valid
    · exact absurd rfl valid
    · rename_i active
      exact ⟨object, present, by simpa using active⟩

section
variable (sound : Sound session)
include sound

/-- An edit changes the view of its transaction in the same way. -/
theorem Sound.edited {edit : Values → Values}
    {outcome : Runtime.Outcome Bool} (good : Good outcome.2) (running : outcome.2.running = session.runtime.running)
    (failed : ∀ error, outcome.1 = .error error → Idle session.runtime.backend outcome.2.backend)
    (done : ∀ value, outcome.1 = .ok value → ∃ item,
      session.runtime.backend.transactions.lookup transaction = some item ∧
      outcome.2.backend = Memory.setTransaction session.runtime.backend transaction
        { item with values := edit item.values }) :
    Sound (session.edited transaction edit outcome) := by
  rcases outcome with ⟨result, later⟩
  cases result with
  | error error => exact sound.idle good running (failed error rfl)
  | ok value =>
      obtain ⟨item, found, same⟩ := done value rfl
      dsimp only at same
      refine sound.changed good running ?_ fun runs object present _ shown active => ?_
      · rw [same]
        exact Memory.only_set _ _ ⟨rfl, rfl⟩
      · obtain ⟨other, known, writing, unfinished, values⟩ := shown active
        obtain rfl : item = other := Option.some.inj (found.symm.trans known)
        refine ⟨{ item with values := edit item.values }, ?_, writing, unfinished, congrArg edit values⟩
        rw [same]
        exact AList.lookup_insert _

theorem Sound.put (transaction : Handle) (key value : Bytes) : Sound (session.edited transaction (·.insert key value)
      (session.runtime.put (session.handle transaction) key value)) := by
  unfold Runtime.put
  split
  · exact sound.edited sound.good rfl (fun _ _ => ⟨rfl, rfl⟩) fun _ done => by cases done
  · rename_i valid
    have same : session.handle transaction = transaction :=
      (handle_eq_zero_or session transaction).resolve_left (not_or.mp valid).1
    rw [same]
    have good := sound.good.perform (.put transaction key value) nofun
    rcases performed : Memory.put session.runtime.backend transaction key value with ⟨result, later⟩
    have facts := Memory.put_spec performed
    rw [Memory.perform, Memory.answer, performed] at good
    cases result with
    | error failure => exact sound.edited good rfl (fun _ _ => facts) fun _ done => by cases done
    | ok result =>
        exact sound.edited good rfl (fun _ failed => by cases failed) fun _ _ => facts

theorem Sound.erase (transaction : Handle) (key : Bytes) :
    Sound (session.edited transaction (·.erase key) (session.runtime.erase (session.handle transaction) key)) := by
  unfold Runtime.erase
  split
  · exact sound.edited sound.good rfl (fun _ _ => ⟨rfl, rfl⟩) fun _ done => by cases done
  · rename_i valid
    have same : session.handle transaction = transaction :=
      (handle_eq_zero_or session transaction).resolve_left (not_or.mp valid).1
    rw [same]
    have good := sound.good.perform (.erase transaction key) nofun
    rcases performed : Memory.erase session.runtime.backend transaction key with ⟨result, later⟩
    have facts := Memory.erase_spec performed
    rw [Memory.perform, Memory.answer, performed] at good
    cases result with
    | error failure => exact sound.edited good rfl (fun _ _ => facts) fun _ done => by cases done
    | ok result =>
        exact sound.edited good rfl (fun _ failed => by cases failed) fun _ _ => facts

theorem Sound.committed (writes : session.writes transaction = true) :
    Sound (session.committed transaction (session.runtime.commit (session.handle transaction))) := by
  obtain ⟨object, present, write⟩ := (Option.any_eq_true _ _).mp writes
  unfold Runtime.commit
  split
  · rename_i invalid
    refine sound.changed sound.good rfl (Memory.only_refl _) fun runs other found valid _ active => ?_
    obtain rfl : object = other := Option.some.inj (present.symm.trans found)
    rw [Session.handle, present] at invalid
    dsimp only at invalid active
    rw [active, if_neg Bool.false_ne_true] at invalid
    exact absurd invalid valid
  · rename_i valid
    have same : session.handle transaction = transaction := (handle_eq_zero_or session transaction).resolve_left valid
    rw [same]
    have good := sound.good.perform (.commit transaction) nofun
    have closing := good.perform (.closeTransaction transaction) nofun
    rw [Memory.perform, Memory.answer] at good closing
    rw [Memory.perform, Memory.answer] at closing
    rcases performed : Memory.commit session.runtime.backend transaction with ⟨result, later⟩
    have only : Only transaction session.runtime.backend later := by
      have frame := @Memory.commit_only session.runtime.backend transaction
      rwa [performed] at frame
    rw [performed] at good closing
    cases result with
    | error failure =>
        refine sound.changed good rfl only fun runs other found _ shown active => ?_
        obtain rfl : object = other := Option.some.inj (present.symm.trans found)
        obtain ⟨item, known, writing, _, values⟩ := shown active
        have ended := Memory.commit_spec known (writing.trans write) performed
        exact ⟨_, ended, writing, rfl, values⟩
    | ok result =>
        refine sound.changed closing rfl (only.trans (Memory.closeTransaction_only transaction))
          fun runs other found _ shown active => ?_
        cases active

/-- A closed transaction object shows nothing. -/
theorem Sound.gaveUp {call : Backend → Backend}
    (good : Good { session.runtime with backend := call session.runtime.backend })
    (only : session.handle transaction = transaction →
      Only transaction session.runtime.backend (call session.runtime.backend)) :
    Sound (session.changed (session.runtime.giveUp (session.handle transaction) call) transaction
      fun object => { object with closed := true }) := by
  unfold Runtime.giveUp
  split
  · exact sound.changed sound.good rfl (Memory.only_refl _) fun _ _ _ _ _ active => by cases active
  · rename_i valid
    have same := (handle_eq_zero_or session transaction).resolve_left (not_or.mp valid).1
    exact sound.changed good rfl (only same) fun _ _ _ _ _ active => by cases active

theorem Sound.iterated (start : Bytes) :
    Sound (session.iterated transaction start (session.runtime.iterate (session.handle transaction) start)) := by
  unfold Runtime.iterate
  split
  · exact sound
  · rename_i valid
    obtain ⟨same, object, present, active⟩ := object_of_handle valid
    rw [same] at valid ⊢
    have good := sound.good.perform (.openCursor transaction start) nofun
    rw [Memory.perform, Memory.answer] at good
    rcases performed : Memory.openCursor session.runtime.backend transaction start with ⟨result, later⟩
    rw [performed] at good
    cases known : session.runtime.backend.transactions.lookup transaction with
    | none =>
        rw [Memory.openCursor_missing start known] at performed
        obtain ⟨rfl, rfl⟩ := Prod.mk.inj performed
        exact sound
    | some item =>
        obtain ⟨transactions, opened⟩ := Memory.openCursor_spec known performed
        cases result with
        | error failure => exact sound.idle good rfl ⟨transactions, opened⟩
        | ok cursor =>
            refine ⟨good, fun runs other changed found positive unclosed => ?_,
              fun runs other changed found positive unclosed => ?_⟩
            · obtain ⟨old, seen, facts⟩ := sound.transactions runs other changed found positive unclosed
              exact ⟨old, (congrArg (AList.lookup other) transactions).trans seen, facts⟩
            · change (session.cursors.insert cursor _).lookup other = _ at found
              rcases FiniteMap.lookup_insert_cases found with ⟨rfl, rfl⟩ | ⟨different, found⟩
              · obtain ⟨old, seen, _, _, values⟩ := sound.transactions runs transaction object present valid active
                obtain rfl : item = old := Option.some.inj (known.symm.trans seen)
                refine ⟨{ entries := Memory.scan item.values start }, ?_, ?_, rfl, fun entry listed => ?_⟩
                · change later.cursors.lookup _ = _
                  rw [opened, AList.lookup_insert]
                · rw [Memory.scan_eq, values, present]
                  rfl
                · exact sound.good.named.transactions transaction item known entry.1 entry.2 (Memory.mem_scan listed)
              · obtain ⟨old, seen, facts⟩ := sound.cursors runs other changed found positive unclosed
                refine ⟨old, ?_, facts⟩
                change later.cursors.lookup other = _
                rw [opened, AList.lookup_insert_ne different, seen]

end

theorem cursorHandle_eq_zero_or (session : Session) (cursor : Handle) :
    session.cursorHandle cursor = 0 ∨ session.cursorHandle cursor = cursor := by
  unfold Session.cursorHandle
  split
  · exact .inl rfl
  · split
    · exact .inl rfl
    · exact .inr rfl

theorem object_of_cursorHandle (valid : session.cursorHandle cursor ≠ 0) :
    session.cursorHandle cursor = cursor ∧ ∃ object,
      session.cursors.lookup cursor = some object ∧ object.closed = false := by
  refine ⟨(cursorHandle_eq_zero_or session cursor).resolve_left valid, ?_⟩
  rw [Session.cursorHandle] at valid
  split at valid
  · exact absurd rfl valid
  · rename_i object present
    split at valid
    · exact absurd rfl valid
    · rename_i active
      exact ⟨object, present, by simpa using active⟩

section
variable (sound : Sound session)
include sound

/-- The methods of cursors find nothing after a stop. -/
theorem Sound.next_stopped (valid : session.cursorHandle cursor ≠ 0)
    (ended : session.runtime.running = false) : session.next cursor = (.ok none, session.runtime) := by
  refine Runtime.next_missing valid ?_
  rw [(sound.good.stopped ended).cursors]
  exact AList.lookup_empty _

theorem Sound.next_running (valid : session.cursorHandle cursor ≠ 0)
    (runs : session.runtime.running = true) : ∃ object found, session.cursors.lookup cursor = some object ∧
      session.runtime.backend.cursors.lookup cursor = some found ∧ found.entries = object.matching ∧
      object.delivered = found.entries.take found.position ∧ (∀ entry ∈ found.entries, entry.1 ≠ []) ∧
      session.next cursor = match found.entries[found.position]? with
        | none => (.ok none, session.runtime)
        | some entry => (.ok (some entry), { session.runtime with
            backend.cursors := session.runtime.backend.cursors.insert cursor
              { found with position := found.position + 1 } }) := by
  obtain ⟨same, object, present, active⟩ := object_of_cursorHandle valid
  rw [same] at valid
  obtain ⟨found, known, entries, delivered, filled⟩ := sound.cursors runs cursor object present valid active
  refine ⟨object, found, present, known, entries, delivered, filled, ?_⟩
  rw [Session.next, same]
  exact Runtime.next_found valid known filled

theorem Sound.advanced (cursor : Handle) : Sound (session.advanced cursor (session.next cursor)) := by
  by_cases valid : session.cursorHandle cursor = 0
  · rw [Session.next, Runtime.next, if_pos valid]
    exact sound
  cases runs : session.runtime.running with
  | false =>
      rw [sound.next_stopped valid runs]
      exact sound
  | true =>
      obtain ⟨object, found, present, known, entries, delivered, filled, moved⟩ := sound.next_running valid runs
      rw [moved]
      cases here : found.entries[found.position]? with
      | none => exact sound
      | some entry =>
          have good : Good { session.runtime with
              backend.cursors := session.runtime.backend.cursors.insert cursor
                { found with position := found.position + 1 } } := by
            refine ⟨?_, fun ended => ?_⟩
            · exact sound.good.named.shrink (fun _ => rfl) (fun _ _ seen => seen) (fun _ _ seen => seen)
                fun _ _ seen => seen
            · exact absurd (runs.symm.trans ended) (by decide)
          refine sound.changedCursor good rfl rfl (fun other different => AList.lookup_insert_ne different)
            fun _ other seen _ _ _ => ?_
          obtain rfl : object = other := Option.some.inj (present.symm.trans seen)
          refine ⟨{ found with position := found.position + 1 }, AList.lookup_insert _, entries, ?_, filled⟩
          change object.delivered ++ [entry] = found.entries.take (found.position + 1)
          rw [List.take_add_one, here, delivered]
          rfl

theorem Sound.closedCursor (cursor : Handle) :
    Sound (session.changedCursor (session.runtime.closeCursor (session.cursorHandle cursor)) cursor
      fun object => { object with closed := true }) := by
  unfold Runtime.closeCursor Runtime.giveUp
  split
  · exact sound.changedCursor sound.good rfl rfl (fun _ _ => rfl) fun _ _ _ _ _ active => by cases active
  · rename_i valid
    have same : session.cursorHandle cursor = cursor :=
      (cursorHandle_eq_zero_or session cursor).resolve_left (not_or.mp valid).1
    rw [same]
    have good := sound.good.perform (.closeCursor cursor) nofun
    obtain ⟨transactions, only⟩ := @Memory.closeCursor_spec session.runtime.backend cursor
    exact sound.changedCursor good rfl transactions only fun _ _ _ _ _ active => by cases active

theorem Sound.stopped : Sound { session with runtime := session.runtime.stop } := by
  unfold Runtime.stop
  split
  · refine ⟨⟨named_kept sound.good.named (perform_effect session.runtime.backend .stop),
      fun _ => ⟨rfl, rfl, rfl, rfl⟩⟩, fun runs => ?_, fun runs => ?_⟩
    all_goals cases runs
  · exact sound

/-- Every method keeps the objects and the provider in agreement. -/
theorem Sound.kept {operation : Operation} {later : Session}
    (performed : perform operation session = some later) : Sound later := by
  cases operation with
  | beginRead store =>
      cases performed
      exact sound.begun (sound.good.perform (.beginRead store) nofun)
  | beginWrite store durability =>
      cases performed
      exact sound.begun (sound.good.perform (.beginWrite store durability) nofun)
  | beginWriteAt store expectedGeneration durability =>
      cases performed
      exact sound.begun (sound.good.perform (.beginWriteAt store durability expectedGeneration) nofun)
  | get transaction key =>
      cases performed
      exact sound
  | put transaction key value =>
      obtain ⟨_, ⟨⟩⟩ := Option.ite_none_right_eq_some.mp performed
      exact sound.put transaction key value
  | erase transaction key =>
      obtain ⟨_, ⟨⟩⟩ := Option.ite_none_right_eq_some.mp performed
      exact sound.erase transaction key
  | commit transaction =>
      obtain ⟨writes, ⟨⟩⟩ := Option.ite_none_right_eq_some.mp performed
      exact sound.committed writes
  | abort transaction =>
      obtain ⟨_, ⟨⟩⟩ := Option.ite_none_right_eq_some.mp performed
      have good := (sound.good.perform (.abort (session.handle transaction)) nofun).perform
        (.closeTransaction (session.handle transaction)) nofun
      refine sound.gaveUp good fun same => ?_
      rw [same]
      exact (Memory.abort_only transaction).trans (Memory.closeTransaction_only transaction)
  | close transaction =>
      obtain ⟨_, ⟨⟩⟩ := Option.ite_none_right_eq_some.mp performed
      refine sound.gaveUp (sound.good.perform (.closeTransaction (session.handle transaction)) nofun) fun same => ?_
      rw [same]
      exact Memory.closeTransaction_only transaction
  | iterate transaction start =>
      obtain ⟨_, ⟨⟩⟩ := Option.ite_none_right_eq_some.mp performed
      exact sound.iterated start
  | next cursor =>
      cases performed
      exact sound.advanced cursor
  | closeCursor cursor =>
      cases performed
      exact sound.closedCursor cursor
  | stop =>
      cases performed
      exact sound.stopped
  | other call =>
      obtain ⟨other, ⟨⟩⟩ := Option.ite_none_right_eq_some.mp performed
      have different : call ≠ .start := by
        rintro rfl
        cases other
      exact sound.idle (sound.good.perform call different) rfl (Memory.otherCall_frame other)

end

theorem sound_start (maxStores maxTransactions : Nat) : Sound (start maxStores maxTransactions) where
  good := ⟨(Memory.named_create maxStores maxTransactions).shrink (fun _ => rfl) (fun _ _ found => found)
    (fun _ _ found => found) fun _ _ found => found, nofun⟩
  transactions := fun _ handle object found => by cases found
  cursors := fun _ handle object found => by cases found

end Invariant

section Answers
variable {key : Bytes}

/-- The object is closed, or its commit has failed, or the runtime has stopped. -/
def invalidated (session : Session) (transaction : Handle) : Bool :=
  !session.runtime.running || session.handle transaction == 0 ||
    (session.transactions.lookup transaction).any (·.commitFailed)

def cursorInvalidated (session : Session) (cursor : Handle) : Bool :=
  !session.runtime.running || session.cursorHandle cursor == 0

/-- The answer tells that the key is absent only when it is absent from the view, and an invalid object
answers with an error. -/
def GetTruthful (session : Session) (transaction : Handle) (key : Bytes) : Prop :=
  (session.get transaction key = .ok none → ∃ object,
    session.transactions.lookup transaction = some object ∧ key ∉ object.view) ∧
  (session.invalidated transaction = true → ∃ error, session.get transaction key = .error error)

/-- The answer tells of the end only when all entries that match have been delivered. -/
def NextTruthful (session : Session) (cursor : Handle) : Prop :=
  ((session.next cursor).1 = .ok none → ∃ object,
    session.cursors.lookup cursor = some object ∧ object.delivered = object.matching) ∧
  (session.cursorInvalidated cursor = true → ∃ error, (session.next cursor).1 = .error error)

/-- The method is not called on an open object after its commit has failed. -/
def supportsGet (session : Session) (transaction : Handle) (key : Bytes) : Bool :=
  !(session.runtime.running && session.handle transaction != 0 && key != [] &&
    (session.transactions.lookup transaction).any (·.commitFailed))

/-- The method is not called on an open cursor after the runtime has stopped. -/
def supportsNext (session : Session) (cursor : Handle) : Bool :=
  session.runtime.running || session.cursorHandle cursor == 0

variable {transaction : Memory.Transaction}

theorem get_found (named : key ≠ [])
    (found : runtime.backend.transactions.lookup handle = some transaction) (output : Option Nat) :
    Memory.get runtime.backend handle key output = if transaction.finished then .error ⟨.notFound, []⟩
      else match transaction.values.lookup key with
        | none => .error ⟨.notFound, []⟩
        | some value =>
            if output.all (· < value.length) then .error ⟨.bufferTooSmall, [value.length]⟩ else .ok value := by
  rewrite [Memory.get, if_neg named, found]
  rfl

theorem getValue_found (valid : handle ≠ 0) (named : key ≠ []) (runs : runtime.running = true)
    (found : runtime.backend.transactions.lookup handle = some transaction) : runtime.getValue handle key =
      .ok (if transaction.finished then none else transaction.values.lookup key) := by
  have asked := get_found named found
  rw [Runtime.getValue, if_neg (not_or.mpr ⟨valid, named⟩), runs]
  cases finished : transaction.finished with
  | true =>
      have refused : Memory.get runtime.backend handle key none = .error ⟨.notFound, []⟩ := by
        rw [asked, finished, if_pos rfl]
      rw [refused]
      rfl
  | false =>
      cases stored : transaction.values.lookup key with
      | none =>
          have refused : Memory.get runtime.backend handle key none = .error ⟨.notFound, []⟩ := by
            rw [asked, finished, if_neg Bool.false_ne_true, stored]
          rw [refused]
          rfl
      | some value =>
          have small : Memory.get runtime.backend handle key none = .error ⟨.bufferTooSmall, [value.length]⟩ := by
            rw [asked, finished, if_neg Bool.false_ne_true, stored]
            rfl
          have read : Memory.get runtime.backend handle key (some value.length) = .ok value := by
            rw [asked, finished, if_neg Bool.false_ne_true, stored]
            simp
          rw [small]
          simp only [Bool.not_true, Bool.false_eq_true, if_false, List.headD_cons, read]
          rw [if_neg (by decide), if_neg (by decide)]
          split
          · rename_i empty
            rw [List.eq_nil_of_length_eq_zero empty]
          · rfl

theorem Sound.get_open (sound : Sound session) {transaction : Handle} (valid : session.handle transaction ≠ 0)
    (named : key ≠ []) (runs : session.runtime.running = true) :
    ∃ object, session.transactions.lookup transaction = some object ∧ session.get transaction key =
      .ok (if object.commitFailed then none else object.view.lookup key) := by
  obtain ⟨same, object, present, active⟩ := object_of_handle valid
  rw [same] at valid
  obtain ⟨item, found, _, finished, values⟩ := sound.transactions runs transaction object present valid active
  refine ⟨object, present, ?_⟩
  rw [Session.get, same, getValue_found valid named runs found, finished, values]

theorem Sound.get_truthful (sound : Sound session) (transaction : Handle) (key : Bytes) :
    GetTruthful session transaction key ↔ session.supportsGet transaction key = true := by
  by_cases asked : session.handle transaction = 0 ∨ key = []
  · have refused : ∃ error, session.get transaction key = .error error := by
      rw [Session.get, Runtime.getValue, if_pos asked]
      exact ⟨_, rfl⟩
    obtain ⟨error, refused⟩ := refused
    have supported : session.supportsGet transaction key = true := by
      rcases asked with zero | empty
      · simp [supportsGet, zero]
      · simp [supportsGet, empty]
    rw [supported]
    refine ⟨fun _ => rfl, fun _ => ⟨fun absent => ?_, fun _ => ⟨error, refused⟩⟩⟩
    cases refused.symm.trans absent
  rw [not_or] at asked
  obtain ⟨valid, named⟩ := asked
  cases runs : session.runtime.running with
  | false =>
      have refused : session.get transaction key =
          .error ⟨.shuttingDown, "persistency runtime is stopped"⟩ := by
        rw [Session.get, Runtime.getValue, if_neg (not_or.mpr ⟨valid, named⟩), runs]
        rfl
      have supported : session.supportsGet transaction key = true := by simp [supportsGet, runs]
      rw [supported]
      refine ⟨fun _ => rfl, fun _ => ⟨fun absent => ?_, fun _ => ⟨_, refused⟩⟩⟩
      cases refused.symm.trans absent
  | true =>
      obtain ⟨object, present, answered⟩ := sound.get_open valid named runs
      have supported : session.supportsGet transaction key = !object.commitFailed := by
        simp [supportsGet, runs, valid, named, present]
      have invalid : session.invalidated transaction = object.commitFailed := by
        simp [invalidated, runs, valid, present]
      rw [supported, GetTruthful, invalid, answered]
      cases object.commitFailed with
      | true =>
          refine ⟨fun truthful => ?_, nofun⟩
          obtain ⟨error, failed⟩ := truthful.2 rfl
          cases failed
      | false =>
          refine ⟨fun _ => rfl, fun _ => ⟨fun absent => ⟨object, present, ?_⟩, nofun⟩⟩
          rw [← Finmap.lookup_eq_none]
          exact Except.ok.inj absent

theorem Sound.next_truthful (sound : Sound session) (cursor : Handle) :
    NextTruthful session cursor ↔ session.supportsNext cursor = true := by
  by_cases valid : session.cursorHandle cursor = 0
  · have refused : (session.next cursor).1 = .error ⟨.invalidState, "cursor is not open"⟩ := by
      rw [Session.next, Runtime.next, if_pos valid]
    have supported : session.supportsNext cursor = true := by simp [supportsNext, valid]
    rw [supported]
    refine ⟨fun _ => rfl, fun _ => ⟨fun ended => ?_, fun _ => ⟨_, refused⟩⟩⟩
    cases refused.symm.trans ended
  cases runs : session.runtime.running with
  | false =>
      have supported : session.supportsNext cursor = false := by simp [supportsNext, runs, valid]
      rw [supported, NextTruthful, sound.next_stopped valid runs]
      refine ⟨fun truthful => ?_, nofun⟩
      obtain ⟨error, failed⟩ := truthful.2 (by simp [cursorInvalidated, runs])
      cases failed
  | true =>
      obtain ⟨object, found, present, _, entries, delivered, _, moved⟩ := sound.next_running valid runs
      have supported : session.supportsNext cursor = true := by simp [supportsNext, runs]
      have intact : session.cursorInvalidated cursor = false := by simp [cursorInvalidated, runs, valid]
      rw [supported, NextTruthful, intact, moved]
      refine ⟨fun _ => rfl, fun _ => ⟨fun ended => ⟨object, present, ?_⟩, nofun⟩⟩
      cases here : found.entries[found.position]? with
      | none =>
          rw [delivered, List.take_of_length_le (List.getElem?_eq_none_iff.mp here), entries]
      | some entry =>
          rw [here] at ended
          cases ended

/-- In every run the answers are truthful exactly when `Get` is not called on an open transaction after its
commit has failed and `Next` is not called on an open cursor after the stop. -/
theorem absence_truthful (maxStores maxTransactions : Nat) (session : Session)
    (reached : system.Reaches (fun _ _ => True) (start maxStores maxTransactions) session) :
    (∀ transaction key, GetTruthful session transaction key ↔ session.supportsGet transaction key = true) ∧
      ∀ cursor, NextTruthful session cursor ↔ session.supportsNext cursor = true := by
  have sound : Sound session := by
    refine reached.invariant (sound_start maxStores maxTransactions) ?_
    intro before operation later sound _ performed
    exact sound.kept performed
  exact ⟨sound.get_truthful, sound.next_truthful⟩

end Answers

def seats : StoreDescriptor where
  logicalName := "seats"
  access := .readWrite
  minimumDurability := .buffered
  capacityBytes := 64
  maxEntries := 4
  maxKeySize := 8
  maxValueSize := 8
  maxBlobSize := 8
  schemaId := "seats"
  schemaVersion := 1

def seatsUpgrade : MigrationDescriptor where
  migrationId := "upgrade"
  sourceSchemaId := "seats"
  sourceSchemaVersion := 1
  targetSchemaId := "seats"
  targetSchemaVersion := 2
  durability := .buffered
  allowDowngrade := false

/-- The store is migrated, and the migration is rolled back while a write transaction is open. -/
def rolledBackRun : List Operation :=
  [.other (.openStore seats), .other (.beginMigration 1 seatsUpgrade (some 4096)), .other (.commitMigration 2),
    .other (.closeMigration 2), .beginWrite 1 .buffered, .put 3 [1] [10],
    .other (.rollbackStore 1 .buffered), .commit 3]

/-- The runtime stops while a cursor has entries to deliver. -/
def stoppedRun : List Operation :=
  [.other (.openStore seats), .beginWrite 1 .buffered, .put 2 [1] [10], .commit 2, .beginRead 1, .iterate 3 [], .stop]

/-- The transaction holds the key, and its answer tells that the key is absent. -/
def hidesKey (session : Session) : Bool :=
  (match session.get 3 [1] with | .ok none => true | _ => false) &&
    (session.transactions.lookup 3).any fun object => !object.closed && object.view.lookup [1] == some [10]

/-- The cursor has delivered nothing, and its answer tells of the end. -/
def hidesEntry (session : Session) : Bool :=
  (match (session.next 4).1 with | .ok none => true | _ => false) &&
    (session.cursors.lookup 4).any fun object => object.delivered == [] && object.matching == [([1], [10])]

/-- A key that is there is reported absent, and a cursor ends too early. -/
theorem absence_untruthful :
    (∃ session, system.Reaches (fun _ _ => True) (start 4 4) session ∧ ¬GetTruthful session 3 [1]) ∧
      ∃ session, system.Reaches (fun _ _ => True) (start 4 4) session ∧ ¬NextTruthful session 4 := by
  constructor
  · have executed : (system.run (fun _ _ => true) (rolledBackRun.map fun operation _ => operation)
        (start 4 4)).any hidesKey = true := by decide +kernel
    obtain ⟨session, reached, hidden⟩ := Concurrency.System.Reaches.exists_of_run _ (fun _ _ _ => trivial) _ _ executed
    refine ⟨session, reached, fun truthful => ?_⟩
    rw [hidesKey, Bool.and_eq_true] at hidden
    obtain ⟨object, present, holds⟩ := (Option.any_eq_true _ _).mp hidden.2
    rw [Bool.and_eq_true, beq_iff_eq] at holds
    have reported : session.get 3 [1] = .ok none := by
      have absent := hidden.1
      split at absent
      · assumption
      · cases absent
    obtain ⟨other, same, missing⟩ := truthful.1 reported
    obtain rfl : object = other := Option.some.inj (present.symm.trans same)
    exact missing (Finmap.mem_of_lookup_eq_some holds.2)
  · have executed : (system.run (fun _ _ => true) (stoppedRun.map fun operation _ => operation)
        (start 4 4)).any hidesEntry = true := by decide +kernel
    obtain ⟨session, reached, hidden⟩ := Concurrency.System.Reaches.exists_of_run _ (fun _ _ _ => trivial) _ _ executed
    refine ⟨session, reached, fun truthful => ?_⟩
    rw [hidesEntry, Bool.and_eq_true] at hidden
    obtain ⟨object, present, holds⟩ := (Option.any_eq_true _ _).mp hidden.2
    rw [Bool.and_eq_true, beq_iff_eq, beq_iff_eq] at holds
    have reported : (session.next 4).1 = .ok none := by
      have ended := hidden.1
      split at ended
      · assumption
      · cases ended
    obtain ⟨other, same, complete⟩ := truthful.1 reported
    obtain rfl : object = other := Option.some.inj (present.symm.trans same)
    rw [holds.1, holds.2] at complete
    cases complete

/-- A reader iterates over one entry and asks for the next. -/
def iteratedRun : List Operation :=
  [.other (.openStore seats), .beginWrite 1 .buffered, .put 2 [1] [10], .commit 2, .beginRead 1, .iterate 3 [], .next 4]

def atEnd (session : Session) : Bool :=
  session.supportsGet 3 [2] && session.supportsNext 4 &&
    match (session.next 4).1 with | .ok none => true | _ => false

/-- A cursor reaches its end. -/
theorem absence_truthful_iterated : ∃ session, system.Reaches (fun _ _ => True) (start 4 4) session ∧
    atEnd session = true ∧ GetTruthful session 3 [2] ∧ NextTruthful session 4 := by
  have executed : (system.run (fun _ _ => true) (iteratedRun.map fun operation _ => operation) (start 4 4)).any
      atEnd = true := by decide +kernel
  obtain ⟨session, reached, ended⟩ := Concurrency.System.Reaches.exists_of_run _ (fun _ _ _ => trivial) _ _ executed
  have truthful := absence_truthful 4 4 session reached
  have facts := ended
  rw [atEnd, Bool.and_eq_true, Bool.and_eq_true] at facts
  exact ⟨session, reached, ended, (truthful.1 3 [2]).mpr facts.1.1, (truthful.2 4).mpr facts.1.2⟩

end Session

end OpenVehicle.Per
