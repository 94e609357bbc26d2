/-
This file translates the client of the coordinator and one connection of its server. The library that
writes and reads the texts of the messages is a parameter.
-/

import OpenVehicle.Ipc.Readers
import OpenVehicle.Ipc.Stream

namespace OpenVehicle.Ipc

open Data Exec
open Json (Alike)

structure JsonLibrary where
  write : Json → Text
  parse : Text → Option Json

variable (json : JsonLibrary)

/-- The text of a message has no line break and reads as the message. -/
def JsonLibrary.Carries (value : Json) : Prop :=
  newline ∉ json.write value ∧ ∃ received, json.parse (json.write value) = some received ∧ Alike received value

def encode (value : Json) : Text := json.write value ++ [newline]

def decode (content : Text) : Result Json :=
  match (json.parse content).filter (·.isObject) with
  | some value => .ok value
  | none => .error (makeError .communicationError "coordinator message is invalid")

section Worker
variable (options : ServerOptions) (answers : CoordinatorAnswers) (uid : UInt32)

def reply (line : Result Text) : Option Json :=
  match line >>= decode json with
  | .error error => some (failure error)
  | .ok request => dispatch options answers request uid

/-- A worker answers one connection. -/
def worker (maximum : Nat) (receipts : List Receipt) : Option Text := do
  let line ← readLine maximum [] receipts
  let response ← reply json options answers uid line
  pure (encode json response)

end Worker

/-- A client returns the errors of the server with messages of arbitrary bytes. -/
abbrev Reply (A : Type) := Except ErrorReport A

def report (error : Error) : ErrorReport := ⟨error.code, text error.message, UInt64.ofNat error.supportData⟩

/-- A reader that throws has no reply. -/
def replied {A : Type} : Reader A → Option (Reply A)
  | .ok value => some (.ok value)
  | .error (.returned error) => some (.error (report error))
  | .error .thrown => none

/-- The results of the system calls of one connection of a client. -/
structure Connection where
  connected : Result Unit
  sendings : List Sending
  errno : Nat
  receipts : List Receipt

def clientMaximumMessageSize : Nat := 16 * 1024 * 1024

def unwrap (response : Json) : Reply Json :=
  if !(response.get "ok").isBool then
    .error (report (makeError .communicationError "coordinator returned an invalid response"))
  else if !(response.get "ok").asBool then .error (decodeError (response.get "error"))
  else .ok (response.get "value")

def versioned (request : Json) : Json := request.set "version" (Json.uint protocolVersion)

def call (request : Json) (connection : Connection) : Option (Reply Json) :=
  match connection.connected with
  | .error error => some (.error (report error))
  | .ok () =>
      match (writeAll (encode json (versioned request)) connection.sendings).2 with
      | none => none
      | some false => some (.error (report
          (makeError .communicationError "cannot send coordinator request" connection.errno)))
      | some true => do
          let line ← readLine clientMaximumMessageSize [] connection.receipts
          match line >>= decode json with
          | .error error => some (.error (report error))
          | .ok response => some (unwrap response)

/-- The functions of the client, with the results that they return.
A wait has a number of nanoseconds until its deadline. -/
inductive Command : Type → Type where
  | snapshot : Command SystemSnapshot
  | domain (domain : UInt64) : Command ExecutionDomain
  | mode (domain mode : UInt64) : Command ExecutionMode
  | request (domain mode : UInt64) (timeout : Int64) : Command UInt64
  | cancel (transition : UInt64) : Command Unit
  | transition (transition : UInt64) : Command TransitionReport
  | wait (transition : UInt64) (remaining : Int64) : Command TransitionReport

variable {options : ServerOptions} {A : Type} {command : Command A}

section Commands
open Json

def operation (name : String) : Json := null.set "operation" (string (text name))

def Command.message {A : Type} : Command A → Json
  | .snapshot => operation "snapshot"
  | .domain id => (operation "domain").set "domain" (uint id)
  | .mode id target => ((operation "mode").set "domain" (uint id)).set "mode" (uint target)
  | .request id target timeout =>
      (((operation "request").set "domain" (uint id)).set "mode" (uint target)).set "timeoutMs" (int timeout)
  | .cancel id => (operation "cancel").set "transition" (uint id)
  | .transition id => (operation "transition").set "transition" (uint id)
  | .wait id remaining =>
      ((operation "wait").set "transition" (uint id)).set "timeoutMs" (int (remaining / 1000000))

def decodeMode (value : Json) : Reader ExecutionMode :=
  if value.readable then do
    require (isUnsignedInteger (value.get "domain") && isUnsignedInteger (value.get "id") &&
      (value.get "name").isString) "coordinator returned an invalid mode"
    pure ⟨unsigned (value.get "domain"), unsigned (value.get "id"), (value.get "name").asString⟩
  else throw .thrown

def Command.read {A : Type} : Command A → Json → Option (Reply A)
  | .snapshot, value => some ((decodeSnapshot value).mapError report)
  | .domain _, value => replied (decodeDomain value)
  | .mode _ _, value => replied (decodeMode value)
  | .request _ _ _, value => replied do
      require (isUnsignedInteger value) "coordinator returned an invalid transition id"
      pure (unsigned value)
  | .cancel _, _ => some (.ok ())
  | .transition _, value | .wait _ _, value => replied (decodeTransition value)

/-- A wait whose deadline has passed sends nothing. -/
def Command.isExpired {A : Type} : Command A → Bool
  | .wait _ remaining => remaining ≤ 0
  | _ => false

def Command.perform {A : Type} (command : Command A) (connection : Connection) : Option (Reply A) :=
  if command.isExpired then
    some (.error (report (makeError .deadlineExceeded "transition wait deadline expired")))
  else do
    match ← call json command.message connection with
    | .error error => some (.error error)
    | .ok value => command.read value

/-- What a snapshot says about one transition. -/
def state (id : UInt64) : Result SystemSnapshot → Result TransitionReport
  | .error error => .error error
  | .ok snapshot =>
      match snapshot.transitions.find? fun transition => transition.id == id with
      | none => .error (makeError .notFound "transition is not known")
      | some found => .ok found

/-- A wait ends with an error or with a terminal transition. -/
def settles : Result TransitionReport → Bool
  | .ok report => report.phase.isTerminal
  | .error _ => true

def awaited (id : UInt64) (current : Result SystemSnapshot) : List (Result SystemSnapshot) → Result TransitionReport
  | [] => if settles (state id current) then state id current
      else .error (makeError .deadlineExceeded "transition wait deadline expired")
  | next :: later => if settles (state id current) then state id current else awaited id next later

/-- The answer of the coordinator itself. A timeout under one millisecond counts as none. -/
def Command.answer (answers : CoordinatorAnswers) {A : Type} : Command A → Result A
  | .snapshot => answers.snapshot
  | .domain id => answers.domain id
  | .mode id target => answers.mode id target
  | .request id target timeout =>
      if timeout ≤ 0 then .error (makeError .invalidArgument "transition timeout must be positive")
      else answers.request id target timeout
  | .cancel id => answers.cancel id
  | .transition id => state id answers.snapshot
  | .wait id remaining =>
      if remaining / 1000000 ≤ 0 then
        .error (makeError .invalidArgument "valid transition id and timeout are required")
      else awaited id answers.snapshot (answers.firstPoll :: answers.laterPolls)

def Command.isMutation {A : Type} : Command A → Bool
  | .request _ _ _ | .cancel _ => true
  | _ => false

/-- The answer that the server gives to one user. -/
def Command.observed (options : ServerOptions) (answers : CoordinatorAnswers) (uid : UInt32) {A : Type}
    (command : Command A) : Result A :=
  if authorized options uid command.isMutation then command.answer answers
  else .error (makeError .permissionDenied (if command.isMutation then "coordinator mutation is not authorized"
    else "coordinator observation is not authorized"))

/-- The value of a successful answer. -/
def Command.value {A : Type} : Command A → A → Json
  | .snapshot => snapshotValue
  | .domain _ => domainValue
  | .mode _ _ => modeValue
  | .request _ _ _ => uint
  | .cancel _ => fun _ => null
  | .transition _ | .wait _ _ => transitionValue

/-- The reader accepts the evidence of an answer. -/
def Command.Readable {A : Type} : Command A → A → Prop
  | .snapshot, answer => SystemSnapshot.Readable answer
  | .transition _, answer | .wait _ _, answer => ∀ failure ∈ TransitionReport.failure answer, failure.Readable
  | _, _ => True

section Server
variable {answers : CoordinatorAnswers} {uid : UInt32}

theorem answerFrom_eq (id : UInt64) (wait : Bool) (snapshot : Result SystemSnapshot) : answerFrom id wait snapshot =
      if !wait || settles (state id snapshot) then some (response (state id snapshot) transitionValue) else none := by
  cases snapshot with
  | error error => cases wait <;> rfl
  | ok snapshot =>
      cases found : snapshot.transitions.find? fun transition => transition.id == id with
      | none => cases wait <;> simp [answerFrom, state, found, settles, response]
      | some report => simp [answerFrom, state, found, settles, response]

theorem waitLoop_eq (id : UInt64) (current : Result SystemSnapshot) (later : List (Result SystemSnapshot)) :
    waitLoop id current later = response (awaited id current later) transitionValue := by
  induction later generalizing current with
  | nil =>
      rw [waitLoop, awaited, answerFrom_eq]
      cases settles (state id current) <;> rfl
  | cons next later ih =>
      rw [waitLoop, awaited, answerFrom_eq, ih]
      cases settles (state id current) <;> rfl

theorem text_inj {first second : String} : text first = text second ↔ first = second := by
  simp [text, Array.toList_inj, ByteArray.ext_iff, ← String.toByteArray_inj]

theorem dispatch_message (command : Command A) : dispatch options answers (versioned command.message) uid =
      some (response (command.observed options answers uid) command.value) := by
  have mutation : isMutation ((versioned command.message).get "operation").asString = command.isMutation := by
    cases command <;> simp [versioned, Command.message, operation, get_set, asString, isMutation, text_inj,
      Command.isMutation]
  have named : ((versioned command.message).get "operation").isString = true := by cases command <;> rfl
  have version : (versioned command.message).get "version" = uint protocolVersion := by cases command <;> rfl
  simp only [dispatch, version, asUInt64_uint, named, isIntegral, Bool.not_true, Bool.false_eq_true,
    if_false, Option.bind_eq_bind, Option.bind_some, ne_eq, not_true, decide_false, Bool.or_false, mutation,
    Command.observed]
  cases allowed : authorized options uid command.isMutation with
  | false => cases command <;> rfl
  | true =>
      cases command <;> simp [versioned, Command.message, operation, get_set, asString, text_inj,
        dispatchOperation, domainOperation, modeOperation, requestOperation, cancelOperation,
        transitionOperation, findTransition, answerFrom_eq, waitLoop_eq, awaited, isUnsignedInteger_uint,
        asUInt64_uint, asInt64_int, isSignedInteger, isIntegral, Command.answer, Command.value]
      case request => split <;> rfl
      case wait id remaining =>
        split
        · rfl
        · cases settles (state id answers.snapshot) <;> rfl

end Server

section Replies
variable {received : Json}

theorem read_value {answer : A} (alike : Alike received (command.value answer))
    (readable : command.Readable answer) : command.read received = some (.ok answer) := by
  cases command with
  | snapshot =>
      rw [Command.read, decodeSnapshot_alike alike]
      exact congrArg (fun result => some (result.mapError report)) (decodeSnapshot_snapshotValue readable)
  | domain =>
      rw [Command.read, decodeDomain_alike alike]
      exact congrArg replied (decodeDomain_domainValue answer)
  | mode =>
      simp only [Command.read, decodeMode, alike_value alike, alike_value (alike.get _)]
      simp [Command.value, modeValue, get_set, isUnsignedInteger_uint, unsigned_uint, isString, asString, require]
      rfl
  | request =>
      simp only [Command.read, alike_value alike, Command.value, isUnsignedInteger_uint, unsigned_uint]
      rfl
  | cancel => rfl
  | transition | wait =>
      rw [Command.read, decodeTransition_alike alike]
      exact congrArg replied (decodeTransition_transitionValue readable)

theorem unwrap_response {result : Result A} {encode : A → Json} (alike : Alike received (response result encode)) :
    match result with
    | .error error => unwrap received = .error (report error)
    | .ok value => ∃ found, unwrap received = .ok found ∧ Alike found (encode value) := by
  simp only [unwrap, alike_value (alike.get _), decodeError_alike (alike.get _)]
  cases result with
  | error error => exact congrArg Except.error (decodeError_errorValue (report error))
  | ok value => exact ⟨_, rfl, alike.get "value"⟩

theorem decode_write {value : Json} (carried : json.Carries value) (object : value.isObject = true) :
    ∃ received, decode json (json.write value) = .ok received ∧ Alike received value := by
  obtain ⟨_, received, parsed, alike⟩ := carried
  refine ⟨received, ?_, alike⟩
  rw [decode, parsed, Option.filter_some, alike.kind.1, object]
  rfl

end Replies

section Conversation
variable {answers : CoordinatorAnswers} {uid : UInt32} {maximum : Nat}
variable {client : Connection} {server : List Receipt}

theorem reply_message (carried : json.Carries (versioned command.message)) :
    reply json options answers uid (.ok (json.write (versioned command.message))) =
      some (response (command.observed options answers uid) command.value) := by
  obtain ⟨received, decoded, alike⟩ := decode_write json carried rfl
  simp only [reply, bind, Except.bind, decoded]
  exact (dispatch_alike alike).trans (dispatch_message command)

variable (options answers uid maximum command) in
/-- A request that is too long is refused. -/
def Command.served : Result A :=
  if (json.write (versioned command.message)).length ≤ maximum then command.observed options answers uid
  else .error limitError

/-- A function of the client returns the answer of the server, in whatever pieces the messages travel. -/
theorem client_transparent {served : Result A} (same : command.served json options answers uid maximum = served)
    (live : command.isExpired = false) (connected : client.connected = .ok ())
    (request : json.Carries (versioned command.message)) (answer : json.Carries (response served command.value))
    (readable : ∀ value, served = .ok value → command.Readable value)
    (sent : (writeAll (encode json (versioned command.message)) client.sendings).2 = some true)
    (requested : arrived server = (writeAll (encode json (versioned command.message)) client.sendings).1)
    (returned : some (arrived client.receipts) = worker json options answers uid maximum server) :
    command.perform json client = some
      (if (json.write (response served command.value)).length ≤ clientMaximumMessageSize then
        served.mapError report else .error (report limitError)) := by
  have delivered : arrived server = encode json (versioned command.message) :=
    requested.trans ((writeAll_sent _ _).2.mp sent)
  have replied : reply json options answers uid
      (if (json.write (versioned command.message)).length ≤ maximum then
        .ok (json.write (versioned command.message)) else .error limitError) =
      some (response served command.value) := by
    rw [← same, Command.served]
    split
    · exact reply_message json request
    · rfl
  rw [worker, readLine_whole request.1 delivered, Option.bind_eq_bind, Option.bind_some, replied] at returned
  have line : readLine clientMaximumMessageSize [] client.receipts = _ :=
    readLine_whole answer.1 (Option.some.inj returned)
  have object : (response served command.value).isObject = true := by cases served <;> rfl
  obtain ⟨received, decoded, alike⟩ := decode_write json answer object
  rw [Command.perform, live, if_neg Bool.false_ne_true, call, connected]
  simp only [sent, line]
  split
  · have unwrapped := unwrap_response alike
    simp only [bind, Option.bind, Except.bind, decoded]
    cases served with
    | error error =>
        rw [unwrapped]
        rfl
    | ok value =>
        obtain ⟨found, same, alike⟩ := unwrapped
        rw [same]
        exact read_value alike (readable value rfl)
  · rfl

/-- The transition that switches the lamp on has succeeded. -/
def switchedReport : TransitionReport := ⟨7, 1, 1, 2, .succeeded, 5, none⟩

def requestText : Text := text "\x7b\"operation\":\"transition\",\"transition\":7,\"version\":1\x7d"

/-- The texts of one request and of its response. A read number is signed. -/
def transitionLibrary : JsonLibrary where
  write value :=
    if value.isMember "ok" then
      text "\x7b\"ok\":true,\"value\":\x7b\"domain\":1,\"id\":7,\"phase\":7,\"sourceMode\":1," ++
        text "\"targetMode\":2,\"updatedNs\":5\x7d\x7d"
    else requestText
  parse content :=
    if content = requestText then some (((operation "transition").set "transition" (int 7)).set "version" (int 1))
    else some (success ((((((null.set "id" (int 7)).set "domain" (int 1)).set "sourceMode" (int 1)).set
      "targetMode" (int 2)).set "phase" (int 7)).set "updatedNs" (int 5)))

/-- A transition is read in two pieces. -/
theorem client_transparent_transition :
    (Command.transition 7).perform transitionLibrary ⟨.ok (), [.moved 30, .interrupted, .moved 30], 0,
      [.bytes (encode transitionLibrary (success (transitionValue switchedReport)))]⟩ = some (.ok switchedReport) := by
  have request : transitionLibrary.Carries (versioned (Command.transition 7).message) :=
    ⟨by decide, _, rfl,
      ((Alike.refl (operation "transition")).set "transition" (.unsigned rfl)).set "version" (.unsigned rfl)⟩
  have answer : transitionLibrary.Carries (success (transitionValue switchedReport)) := by
    refine ⟨by decide, _, rfl, (Alike.refl _).set "value" (Alike.set ?_ "updatedNs" (.refl _))⟩
    exact (((((Alike.refl null).set "id" (.unsigned rfl)).set "domain" (.unsigned rfl)).set
      "sourceMode" (.unsigned rfl)).set "targetMode" (.unsigned rfl)).set "phase" (.unsigned rfl)
  have served : (Command.transition 7).served transitionLibrary ⟨[5], []⟩
      { refusing with snapshot := .ok ⟨1, 3, false, [], [], [], [switchedReport]⟩ } 5 4096 = .ok switchedReport := by
    have short : (transitionLibrary.write (versioned (Command.transition 7).message)).length ≤ 4096 := by decide +kernel
    rw [Command.served, if_pos short]
    rfl
  have fits : (transitionLibrary.write (success (transitionValue switchedReport))).length ≤
      clientMaximumMessageSize := by decide +kernel
  have readable (value : TransitionReport) (same : (.ok switchedReport : Result TransitionReport) = .ok value) :
      (Command.transition 7).Readable value := by
    obtain rfl := Except.ok.inj same
    exact fun failure held => absurd held (Option.not_mem_none failure)
  have transparent := @client_transparent transitionLibrary _ _ _ _ _ _
    ⟨.ok (), [.moved 30, .interrupted, .moved 30], 0,
      [.bytes (encode transitionLibrary (success (transitionValue switchedReport)))]⟩
    [.bytes (encode transitionLibrary (versioned (Command.transition 7).message))] _ served rfl rfl
    request answer readable (by decide +kernel) (by decide +kernel) (by decide +kernel)
  exact transparent.trans (congrArg some (if_pos fits))

end Conversation

end Commands

end OpenVehicle.Ipc
