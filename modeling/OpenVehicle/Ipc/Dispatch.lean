/-
This file translates the request dispatcher of the coordinator server. A dispatch has no response
where a numeric conversion throws, and nothing above the dispatcher catches the exception.
-/

import OpenVehicle.Ipc.Snapshot

namespace OpenVehicle.Ipc

open Data Exec

inductive CoordinatorEventKind where
  | transitionChanged | configurationChanged | recoveryChanged
  deriving DecidableEq

structure CoordinatorEvent where
  kind : CoordinatorEventKind
  revision : UInt64
  transition : Option UInt64
  domain : Option UInt64
  deriving DecidableEq

structure ExecutionMode where
  domain : UInt64
  id : UInt64
  name : Text
  deriving DecidableEq

structure ServerOptions where
  observationUids : List UInt32
  mutationUids : List UInt32

/-- The answers of the coordinator to one dispatch. The clock reaches the deadline of a wait after
the last poll. -/
structure CoordinatorAnswers where
  snapshot : Result SystemSnapshot
  firstPoll : Result SystemSnapshot
  laterPolls : List (Result SystemSnapshot)
  domain : UInt64 → Result ExecutionDomain
  mode : UInt64 → UInt64 → Result ExecutionMode
  request : UInt64 → UInt64 → Int64 → Result UInt64
  cancel : UInt64 → Result Unit
  events : List CoordinatorEvent

section Responses
open Json

def text (value : String) : Text := value.toUTF8.data.toList

def protocolVersion : UInt64 := 1

def success (value : Json) : Json := (null.set "ok" (bool true)).set "value" value

def failure (error : Error) : Json :=
  (null.set "ok" (bool false)).set "error"
    (errorValue ⟨error.code, text error.message, UInt64.ofNat error.supportData⟩)

def response {A : Type} (result : Result A) (encode : A → Json) : Json :=
  match result with
  | .ok value => success (encode value)
  | .error error => failure error

def modeValue (mode : ExecutionMode) : Json :=
  ((null.set "domain" (uint mode.domain)).set "id" (uint mode.id)).set "name" (string mode.name)

def kindNumber : CoordinatorEventKind → Nat
  | .transitionChanged => 0
  | .configurationChanged => 1
  | .recoveryChanged => 2

def eventValue (event : CoordinatorEvent) : Json :=
  (((null.set "kind" (natural (kindNumber event.kind))).set "revision" (uint event.revision)).setOption
    "transition" (event.transition.map uint)).setOption "domain" (event.domain.map uint)

end Responses

section Operations
open Json

variable (options : ServerOptions) (answers : CoordinatorAnswers) (request : Json)

def authorized (uid : UInt32) (mutation : Bool) : Bool :=
  if mutation then options.mutationUids.contains uid else options.observationUids.contains uid

def incompatible : Json := failure (makeError .communicationError "coordinator protocol version is incompatible")

def helloOperation (uid : UInt32) : Json :=
  success ((null.set "protocol" (uint protocolVersion)).set "mutation" (bool (authorized options uid true)))

def domainOperation : Option Json :=
  if !isUnsignedInteger (request.get "domain") then
    some (failure (makeError .invalidArgument "domain id is required"))
  else do
    let domain ← (request.get "domain").asUInt64
    some (response (answers.domain domain) domainValue)

def modeOperation : Option Json :=
  if !isUnsignedInteger (request.get "domain") || !isUnsignedInteger (request.get "mode") then
    some (failure (makeError .invalidArgument "domain and mode ids are required"))
  else do
    let domain ← (request.get "domain").asUInt64
    let mode ← (request.get "mode").asUInt64
    some (response (answers.mode domain mode) modeValue)

def requestOperation : Option Json :=
  if !isUnsignedInteger (request.get "domain") || !isUnsignedInteger (request.get "mode") then
    some (failure (makeError .invalidArgument "domain and mode ids are required"))
  else if !isSignedInteger (request.get "timeoutMs") then
    some (failure (makeError .invalidArgument "transition timeout must be positive"))
  else do
    let timeout ← (request.get "timeoutMs").asInt64
    if timeout ≤ 0 then
      some (failure (makeError .invalidArgument "transition timeout must be positive"))
    else do
      let domain ← (request.get "domain").asUInt64
      let mode ← (request.get "mode").asUInt64
      some (response (answers.request domain mode timeout) uint)

def cancelOperation : Option Json :=
  if !isUnsignedInteger (request.get "transition") then
    some (failure (makeError .invalidArgument "transition id is required"))
  else do
    let transition ← (request.get "transition").asUInt64
    some (response (answers.cancel transition) fun _ => null)

/-- A snapshot answers a request for one transition, or the wait goes on. -/
def answerFrom (id : UInt64) (wait : Bool) (snapshot : Result SystemSnapshot) : Option Json :=
  match snapshot with
  | .error error => some (failure error)
  | .ok snapshot =>
      match snapshot.transitions.find? fun transition => transition.id == id with
      | none => some (failure (makeError .notFound "transition is not known"))
      | some found =>
          if !wait || found.phase.isTerminal then some (success (transitionValue found)) else none

def waitLoop (id : UInt64) (current : Result SystemSnapshot) : List (Result SystemSnapshot) → Json
  | [] => (answerFrom id true current).getD
      (failure (makeError .deadlineExceeded "transition wait deadline expired"))
  | next :: later =>
      match answerFrom id true current with
      | some answer => answer
      | none => waitLoop id next later

def invalidWait : Json := failure (makeError .invalidArgument "valid transition id and timeout are required")

/-- The first snapshot answers the request, or the wait begins. -/
def findTransition (wait : Bool) : Option Json := do
  let id ← (request.get "transition").asUInt64
  match answerFrom id wait answers.snapshot with
  | some answer => some answer
  | none => some (waitLoop id answers.firstPoll answers.laterPolls)

def transitionOperation (wait : Bool) : Option Json :=
  if !isUnsignedInteger (request.get "transition") then some invalidWait
  else if !wait then findTransition answers request wait
  else if !isSignedInteger (request.get "timeoutMs") then some invalidWait
  else do
    let timeout ← (request.get "timeoutMs").asInt64
    if timeout ≤ 0 then some invalidWait else findTransition answers request wait

def eventsOperation : Option Json :=
  if !isUnsignedInteger (request.get "afterRevision") then
    some (failure (makeError .invalidArgument "event revision is required"))
  else do
    let revision ← (request.get "afterRevision").asUInt64
    if answers.events.head?.any fun first => revision + 1 < first.revision then
      some (failure (makeError .resourceExhausted "coordinator event history was overrun"))
    else
      some (success (array ((answers.events.filter fun event => revision < event.revision).map eventValue)))

def dispatchOperation (operation : Text) (uid : UInt32) : Option Json :=
  if operation = text "hello" then some (helloOperation options uid)
  else if operation = text "snapshot" then some (response answers.snapshot snapshotValue)
  else if operation = text "domain" then domainOperation answers request
  else if operation = text "mode" then modeOperation answers request
  else if operation = text "request" then requestOperation answers request
  else if operation = text "cancel" then cancelOperation answers request
  else if operation = text "transition" then transitionOperation answers request false
  else if operation = text "wait" then transitionOperation answers request true
  else if operation = text "events" then eventsOperation answers request
  else some (failure (makeError .unsupported "unknown coordinator operation"))

/-- The two operations that change the system. -/
def isMutation (operation : Text) : Bool := operation = text "request" || operation = text "cancel"

def dispatch (uid : UInt32) : Option Json :=
  if !(request.get "version").isIntegral then some incompatible
  else do
    let version ← (request.get "version").asUInt64
    if version ≠ protocolVersion || !(request.get "operation").isString then some incompatible
    else
      let operation := (request.get "operation").asString
      if !authorized options uid (isMutation operation) then
        some (failure (makeError .permissionDenied
          (if isMutation operation then "coordinator mutation is not authorized"
          else "coordinator observation is not authorized")))
      else dispatchOperation options answers request operation uid

end Operations

section Answers
open Json

/-- The dispatcher returns a response object. -/
def Answered (result : Option Json) : Prop := ∃ response, result = some response ∧ response.isObject = true

theorem answered_failure (error : Error) : Answered (some (failure error)) := ⟨_, rfl, rfl⟩

theorem answered_success (value : Json) : Answered (some (success value)) := ⟨_, rfl, rfl⟩

variable {A : Type}

theorem answered_response (result : Result A) (encode : A → Json) : Answered (some (response result encode)) := by
  cases result with
  | error error => exact answered_failure error
  | ok value => exact answered_success _

theorem not_answered_none : ¬Answered none := by
  rintro ⟨_, impossible, _⟩
  cases impossible

theorem answered_bind {value : Option A} {next : A → Option Json} (present : value.isSome = true)
    (each : ∀ a, Answered (next a)) : Answered (value >>= next) := by
  obtain ⟨a, rfl⟩ := Option.isSome_iff_exists.mp present
  exact each a

variable {value : Json}

/-- A value that passes the unsigned test converts. -/
theorem asUInt64_of_isUnsignedInteger (unsigned : isUnsignedInteger value = true) : value.asUInt64.isSome = true := by
  rw [isUnsignedInteger, Bool.and_eq_true] at unsigned
  obtain ⟨integral, positive⟩ := unsigned
  obtain ⟨number, known, above, below, narrow⟩ := integral_number integral
  rw [asUInt64_isSome known below]
  by_cases small : number < 2 ^ 63
  · rw [narrow.mpr small, asInt64, convert_of_number number known above (by omega)] at positive
    simp only [Bool.not_true, Bool.false_or, Option.map_some, Option.getD_some, decide_eq_true_eq] at positive
    rwa [Int64.toInt_ofInt_of_le above small] at positive
  · omega

variable {options : ServerOptions} {answers : CoordinatorAnswers} {request : Json} {uid : UInt32}

theorem answered_answerFrom {id : UInt64} {wait : Bool} {snapshot : Result SystemSnapshot} {answer : Json}
    (found : answerFrom id wait snapshot = some answer) : Answered (some answer) := by
  unfold answerFrom at found
  split at found
  · exact found ▸ answered_failure _
  · split at found
    · exact found ▸ answered_failure _
    · split at found
      · exact found ▸ answered_success _
      · cases found

theorem answered_waitLoop (id : UInt64) (current : Result SystemSnapshot)
    (later : List (Result SystemSnapshot)) : Answered (some (waitLoop id current later)) := by
  induction later generalizing current with
  | nil =>
      rw [waitLoop]
      cases found : answerFrom id true current with
      | none => exact answered_failure _
      | some answer => exact answered_answerFrom found
  | cons next later ih =>
      rw [waitLoop]
      cases found : answerFrom id true current with
      | none => exact ih next
      | some answer => exact answered_answerFrom found

theorem answered_findTransition (wait : Bool) (unsigned : isUnsignedInteger (request.get "transition") = true) :
    Answered (findTransition answers request wait) := by
  refine answered_bind (asUInt64_of_isUnsignedInteger unsigned) fun id => ?_
  cases found : answerFrom id wait answers.snapshot with
  | none => exact answered_waitLoop ..
  | some answer => exact answered_answerFrom found

theorem answered_domainOperation : Answered (domainOperation answers request) := by
  unfold domainOperation
  split
  · exact answered_failure _
  · rename_i unsigned
    rw [Bool.not_eq_true, Bool.not_eq_false'] at unsigned
    exact answered_bind (asUInt64_of_isUnsignedInteger unsigned) fun domain => answered_response ..

theorem answered_modeOperation : Answered (modeOperation answers request) := by
  unfold modeOperation
  split
  · exact answered_failure _
  · rename_i unsigned
    simp only [Bool.or_eq_true, Bool.not_eq_true', not_or, Bool.not_eq_false] at unsigned
    refine answered_bind (asUInt64_of_isUnsignedInteger unsigned.1) fun domain => ?_
    exact answered_bind (asUInt64_of_isUnsignedInteger unsigned.2) fun mode => answered_response ..

theorem answered_cancelOperation : Answered (cancelOperation answers request) := by
  unfold cancelOperation
  split
  · exact answered_failure _
  · rename_i unsigned
    rw [Bool.not_eq_true, Bool.not_eq_false'] at unsigned
    exact answered_bind (asUInt64_of_isUnsignedInteger unsigned) fun transition => answered_response ..

theorem answered_eventsOperation : Answered (eventsOperation answers request) := by
  unfold eventsOperation
  split
  · exact answered_failure _
  · rename_i unsigned
    rw [Bool.not_eq_true, Bool.not_eq_false'] at unsigned
    refine answered_bind (asUInt64_of_isUnsignedInteger unsigned) fun revision => ?_
    split
    · exact answered_failure _
    · exact answered_success _

/-- An integral value below zero. -/
def Negative (value : Json) : Prop := value.isIntegral = true ∧ ∃ number ∈ value.number, number < 0

/-- An integral value above the signed 64-bit range. -/
def Excessive (value : Json) : Prop := value.isIntegral = true ∧ ∃ number ∈ value.number, 2 ^ 63 - 1 < number

theorem asUInt64_iff (integral : value.isIntegral = true) : value.asUInt64.isSome = true ↔ ¬Negative value := by
  obtain ⟨number, known, above, below, _⟩ := integral_number integral
  rw [asUInt64_isSome known below, Negative, known]
  simp only [integral, true_and, Option.mem_some_iff, exists_eq_left', Int.cast_lt_zero, not_lt]

theorem asInt64_iff (integral : value.isIntegral = true) : value.asInt64.isSome = true ↔ ¬Excessive value := by
  obtain ⟨number, known, above, below, _⟩ := integral_number integral
  have same : (2 ^ 63 - 1 : ℚ) < number ↔ 2 ^ 63 - 1 < number := by exact_mod_cast Iff.rfl
  rw [asInt64_isSome known above, Excessive, known]
  simp only [integral, true_and, Option.mem_some_iff, exists_eq_left', same, not_lt]
  omega

theorem answered_bind_iff {value : Option A} {next : A → Option Json}
    (each : ∀ a, Answered (next a)) : Answered (value >>= next) ↔ value.isSome = true := by
  refine ⟨fun answered => ?_, fun present => answered_bind present each⟩
  cases value with
  | none => exact (not_answered_none answered).elim
  | some a => rfl

theorem answered_requestOperation : Answered (requestOperation answers request) ↔
    (isUnsignedInteger (request.get "domain") = true → isUnsignedInteger (request.get "mode") = true →
      ¬Excessive (request.get "timeoutMs")) := by
  unfold requestOperation
  split
  · rename_i refused
    refine iff_of_true (answered_failure _) fun domain mode => ?_
    rw [domain, mode] at refused
    cases refused
  · rename_i unsigned
    simp only [Bool.or_eq_true, Bool.not_eq_true', not_or, Bool.not_eq_false] at unsigned
    split
    · rename_i fractional
      refine iff_of_true (answered_failure _) fun _ _ excessive => ?_
      rw [isSignedInteger, excessive.1] at fractional
      cases fractional
    · rename_i integral
      rw [Bool.not_eq_true, Bool.not_eq_false'] at integral
      rw [answered_bind_iff, asInt64_iff integral]
      · exact ⟨fun small _ _ => small, fun small => small unsigned.1 unsigned.2⟩
      · intro timeout
        split
        · exact answered_failure _
        · refine answered_bind (asUInt64_of_isUnsignedInteger unsigned.1) fun domain => ?_
          exact answered_bind (asUInt64_of_isUnsignedInteger unsigned.2) fun mode => answered_response ..

theorem answered_transitionOperation : Answered (transitionOperation answers request false) := by
  unfold transitionOperation
  split
  · exact answered_failure _
  · rename_i unsigned
    rw [Bool.not_eq_true, Bool.not_eq_false'] at unsigned
    exact answered_findTransition false unsigned

theorem answered_waitOperation : Answered (transitionOperation answers request true) ↔
    (isUnsignedInteger (request.get "transition") = true → ¬Excessive (request.get "timeoutMs")) := by
  unfold transitionOperation
  split
  · rename_i refused
    refine iff_of_true (answered_failure _) fun unsigned => ?_
    rw [unsigned] at refused
    cases refused
  · rename_i unsigned
    rw [Bool.not_eq_true, Bool.not_eq_false'] at unsigned
    rw [if_neg (by decide)]
    split
    · rename_i fractional
      refine iff_of_true (answered_failure _) fun _ excessive => ?_
      rw [isSignedInteger, excessive.1] at fractional
      cases fractional
    · rename_i integral
      rw [Bool.not_eq_true, Bool.not_eq_false'] at integral
      rw [answered_bind_iff, asInt64_iff integral]
      · exact ⟨fun small _ => small, fun small => small unsigned⟩
      · intro timeout
        split
        · exact answered_failure _
        · exact answered_findTransition true unsigned

/-- The request reaches the code of one operation. -/
structure Dispatched (options : ServerOptions) (request : Json) (uid : UInt32) (operation : String) : Prop where
  version : (request.get "version").isIntegral = true ∧
    (request.get "version").asUInt64 = some protocolVersion
  named : (request.get "operation").isString = true ∧ (request.get "operation").asString = text operation
  permitted : authorized options uid (isMutation (text operation)) = true

/-- The version is not negative, and the timeout of an accepted operation fits in 64 signed bits. -/
structure Answerable (options : ServerOptions) (request : Json) (uid : UInt32) : Prop where
  version : ¬Negative (request.get "version")
  requested : Dispatched options request uid "request" → isUnsignedInteger (request.get "domain") = true →
    isUnsignedInteger (request.get "mode") = true → ¬Excessive (request.get "timeoutMs")
  waited : Dispatched options request uid "wait" → isUnsignedInteger (request.get "transition") = true →
    ¬Excessive (request.get "timeoutMs")

/-- The two operations with a timeout may throw. -/
theorem answered_dispatchOperation {operation : Text} :
    Answered (dispatchOperation options answers request operation uid) ↔
      (operation = text "request" → isUnsignedInteger (request.get "domain") = true →
        isUnsignedInteger (request.get "mode") = true → ¬Excessive (request.get "timeoutMs")) ∧
      (operation = text "wait" → isUnsignedInteger (request.get "transition") = true →
        ¬Excessive (request.get "timeoutMs")) := by
  have other {name : String} (first : text name ≠ text "request") (second : text name ≠ text "wait")
      (same : operation = text name) {answer : Option Json} (answered : Answered answer) :
      Answered answer ↔
        (operation = text "request" → isUnsignedInteger (request.get "domain") = true →
          isUnsignedInteger (request.get "mode") = true → ¬Excessive (request.get "timeoutMs")) ∧
        (operation = text "wait" → isUnsignedInteger (request.get "transition") = true →
          ¬Excessive (request.get "timeoutMs")) := by
    subst same
    exact iff_of_true answered ⟨fun same => (first same).elim, fun same => (second same).elim⟩
  unfold dispatchOperation
  split
  · rename_i same
    exact other (by decide) (by decide) same (answered_success _)
  split
  · rename_i same
    exact other (by decide) (by decide) same (answered_response ..)
  split
  · rename_i same
    exact other (by decide) (by decide) same answered_domainOperation
  split
  · rename_i same
    exact other (by decide) (by decide) same answered_modeOperation
  split
  · rename_i same
    subst same
    rw [answered_requestOperation]
    exact ⟨fun small => ⟨fun _ => small, fun same => nomatch (by decide : text "request" ≠ text "wait") same⟩,
      fun both => both.1 rfl⟩
  rename_i notRequest
  split
  · rename_i same
    exact other (by decide) (by decide) same answered_cancelOperation
  split
  · rename_i same
    exact other (by decide) (by decide) same answered_transitionOperation
  split
  · rename_i same
    subst same
    rw [answered_waitOperation]
    exact ⟨fun small => ⟨fun same => (notRequest same).elim, fun _ => small⟩, fun both => both.2 rfl⟩
  rename_i notWait
  have free : (operation = text "request" → isUnsignedInteger (request.get "domain") = true →
        isUnsignedInteger (request.get "mode") = true → ¬Excessive (request.get "timeoutMs")) ∧
      (operation = text "wait" → isUnsignedInteger (request.get "transition") = true →
        ¬Excessive (request.get "timeoutMs")) := ⟨fun same => (notRequest same).elim, fun same => (notWait same).elim⟩
  split
  · exact iff_of_true answered_eventsOperation free
  · exact iff_of_true (answered_failure _) free

end Answers

/-- A request object is answered exactly when it is answerable. -/
theorem dispatch_answered_iff (options : ServerOptions) (answers : CoordinatorAnswers)
    (fields : List (String × Json)) (uid : UInt32) :
    Answered (dispatch options answers (.object fields) uid) ↔ Answerable options (.object fields) uid := by
  generalize Json.object fields = request
  have reached {operation : String} (dispatched : Dispatched options request uid operation) :
      (request.get "version").isIntegral = true := dispatched.version.1
  unfold dispatch
  split
  · rename_i fractional
    rw [Bool.not_eq_true'] at fractional
    refine iff_of_true (answered_failure _) ⟨fun negative => ?_, fun dispatched => ?_, fun dispatched => ?_⟩
    · rw [negative.1] at fractional
      cases fractional
    · rw [reached dispatched] at fractional
      cases fractional
    · rw [reached dispatched] at fractional
      cases fractional
  · rename_i integral
    rw [Bool.not_eq_true, Bool.not_eq_false'] at integral
    have converts := asUInt64_iff integral
    cases version : (request.get "version").asUInt64 with
    | none =>
        rw [version] at converts
        refine iff_of_false not_answered_none fun answerable => ?_
        cases converts.mpr answerable.version
    | some number =>
        rw [version] at converts
        have positive : ¬Negative (request.get "version") := converts.mp rfl
        rw [Option.bind_eq_bind, Option.bind_some]
        split
        · rename_i refused
          have strange {operation : String} (dispatched : Dispatched options request uid operation) : False := by
            have same := Option.some.inj (version.symm.trans dispatched.version.2)
            rw [same, dispatched.named.1] at refused
            simp at refused
          exact iff_of_true (answered_failure _)
            ⟨positive, fun dispatched => (strange dispatched).elim, fun dispatched => (strange dispatched).elim⟩
        · rename_i accepted
          simp only [ne_eq, decide_not, Bool.or_eq_true, Bool.not_eq_true', decide_eq_false_iff_not, not_or,
            not_not, Bool.not_eq_false] at accepted
          obtain ⟨rfl, named⟩ := accepted
          dsimp only
          split
          · rename_i denied
            have strange {operation : String} (dispatched : Dispatched options request uid operation) :
                False := by
              rw [dispatched.named.2, dispatched.permitted] at denied
              cases denied
            exact iff_of_true (answered_failure _)
              ⟨positive, fun dispatched => (strange dispatched).elim,
                fun dispatched => (strange dispatched).elim⟩
          · rename_i permitted
            rw [Bool.not_eq_true, Bool.not_eq_false'] at permitted
            have dispatched {operation : String}
                (same : (request.get "operation").asString = text operation) :
                Dispatched options request uid operation :=
              ⟨⟨integral, version⟩, ⟨named, same⟩, by rw [← same]; exact permitted⟩
            rw [answered_dispatchOperation]
            constructor
            · rintro ⟨requested, waited⟩
              exact ⟨positive, fun reached => requested reached.named.2, fun reached => waited reached.named.2⟩
            · intro answerable
              exact ⟨fun same => answerable.requested (dispatched same),
                fun same => answerable.waited (dispatched same)⟩

/-- A coordinator that refuses every call. -/
def refusing : CoordinatorAnswers where
  snapshot := .error (makeError .permissionDenied "coordinator observation is not authorized")
  firstPoll := .error (makeError .permissionDenied "coordinator observation is not authorized")
  laterPolls := []
  domain _ := .error (makeError .permissionDenied "coordinator observation is not authorized")
  mode _ _ := .error (makeError .permissionDenied "coordinator observation is not authorized")
  request _ _ _ := .error (makeError .permissionDenied "coordinator mutation is not authorized")
  cancel _ := .error (makeError .permissionDenied "coordinator mutation is not authorized")
  events := []

/-- A request with a negative version throws before the peer is authorized. -/
theorem dispatch_throws : dispatch ⟨[], []⟩ refusing (.object [("version", .int (-1))]) 0 = none := by
  have known : (Json.int (-1)).number = some ((-1 : Int) : ℚ) := rfl
  have negative : (Json.int (-1)).asUInt64 = none := by
    rw [Json.asUInt64, Json.convert_number known]
    rfl
  unfold dispatch
  show (if _ then _ else (Json.int (-1)).asUInt64 >>= _) = none
  rw [negative]
  rfl

end OpenVehicle.Ipc
