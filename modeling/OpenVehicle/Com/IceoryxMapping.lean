/-
This file models the native mappings of the shared-memory transport, which a deployment states as texts. A character of
a text stands for a byte.
-/

import OpenVehicle.Data.KeyValue

namespace OpenVehicle.Com.Iceoryx.Native

open Data.KeyValue (Text Decoder unsigned digits)

inductive Pattern where
  | publishSubscribe | requestResponse
  deriving DecidableEq, Repr

structure Mapping where
  pattern : Pattern := .publishSubscribe
  service : Text := []
  typeName : Text := []
  payloadSize : UInt64 := 0
  payloadAlignment : UInt64 := 0
  historyDepth : UInt64 := 0
  subscriberBuffer : UInt64 := 0
  maxPublishers : UInt64 := 0
  maxSubscribers : UInt64 := 0
  maxLoanedSamples : UInt64 := 0
  maxBorrowedSamples : UInt64 := 0
  safeOverflow : Bool := false
  requestType : Text := []
  responseType : Text := []
  requestPayloadSize : UInt64 := 0
  responsePayloadSize : UInt64 := 0
  requestBuffer : UInt64 := 0
  responseBuffer : UInt64 := 0
  maxClients : UInt64 := 0
  maxServers : UInt64 := 0
  maxLoanedRequests : UInt64 := 0
  maxBorrowedResponses : UInt64 := 0
  maxLoanedResponses : UInt64 := 0
  deriving DecidableEq, Repr

/-- A value of an entry that is not valid has no change. -/
abbrev Accept := Text → Option (Mapping → Mapping)

def number (value : Text) : Option UInt64 := (unsigned 0xffffffffffffffff value).map UInt64.ofNat

def numeric (valid : UInt64 → Bool) (assign : UInt64 → Mapping → Mapping) : Accept := fun value =>
  match number value with
  | none => none
  | some number => if valid number then some (assign number) else none

def text (assign : Text → Mapping → Mapping) : Accept := fun value =>
  if value.length ≤ 255 then some (assign value) else none

def choice {Item : Type} (names : List (Text × Item)) (assign : Item → Mapping → Mapping) : Accept := fun value =>
  (names.lookup value).map assign

def positive (value : UInt64) : Bool := value != 0

def powerOfTwo (value : UInt64) : Bool := value != 0 && value &&& (value - 1) == 0

def patterns : List (Text × Pattern) :=
  [("pubsub".toList, .publishSubscribe), ("requestResponse".toList, .requestResponse)]

def switches : List (Text × Bool) := [("true".toList, true), ("false".toList, false)]

/-- Every key has its bit and its check. -/
def keys : List (Text × Nat × Accept) :=
  [("pattern".toList, 0, choice patterns fun value mapping => { mapping with pattern := value }),
    ("service".toList, 1, text fun value mapping => { mapping with service := value }),
    ("type".toList, 2, text fun value mapping => { mapping with typeName := value }),
    ("payloadSize".toList, 3, numeric positive fun value mapping => { mapping with payloadSize := value }),
    ("alignment".toList, 4, numeric powerOfTwo fun value mapping => { mapping with payloadAlignment := value }),
    ("history".toList, 5, numeric (fun _ => true) fun value mapping => { mapping with historyDepth := value }),
    ("subscriberBuffer".toList, 6, numeric positive fun value mapping => { mapping with subscriberBuffer := value }),
    ("maxPublishers".toList, 7, numeric positive fun value mapping => { mapping with maxPublishers := value }),
    ("maxSubscribers".toList, 8, numeric positive fun value mapping => { mapping with maxSubscribers := value }),
    ("safeOverflow".toList, 9, choice switches fun value mapping => { mapping with safeOverflow := value }),
    ("maxLoanedSamples".toList, 18, numeric positive fun value mapping => { mapping with maxLoanedSamples := value }),
    ("maxBorrowedSamples".toList, 19,
      numeric positive fun value mapping => { mapping with maxBorrowedSamples := value }),
    ("maxLoanedRequests".toList, 20, numeric positive fun value mapping => { mapping with maxLoanedRequests := value }),
    ("maxBorrowedResponses".toList, 21,
      numeric positive fun value mapping => { mapping with maxBorrowedResponses := value }),
    ("maxLoanedResponses".toList, 22,
      numeric positive fun value mapping => { mapping with maxLoanedResponses := value }),
    ("requestType".toList, 10, text fun value mapping => { mapping with requestType := value }),
    ("responseType".toList, 11, text fun value mapping => { mapping with responseType := value }),
    ("requestPayloadSize".toList, 12,
      numeric positive fun value mapping => { mapping with requestPayloadSize := value }),
    ("responsePayloadSize".toList, 13,
      numeric positive fun value mapping => { mapping with responsePayloadSize := value }),
    ("requestBuffer".toList, 14, numeric positive fun value mapping => { mapping with requestBuffer := value }),
    ("responseBuffer".toList, 15, numeric positive fun value mapping => { mapping with responseBuffer := value }),
    ("maxClients".toList, 16, numeric positive fun value mapping => { mapping with maxClients := value }),
    ("maxServers".toList, 17, numeric positive fun value mapping => { mapping with maxServers := value })]

def decode : Decoder Nat Mapping := fun key value =>
  match keys.lookup key with
  | none => .error "unknown mapping key"
  | some (bit, accept) =>
      match accept value with
      | none => .error ("invalid " ++ String.ofList key)
      | some change => .ok (bit, change)

def mask (bits : List Nat) : Nat := bits.foldr (fun bit seen => 1 <<< bit ||| seen) 0

def commonKeys : List Nat := [0, 1, 4, 9]

def pubsubKeys : List Nat := commonKeys ++ [2, 3, 5, 6, 7, 8, 18, 19]

def requestResponseKeys : List Nat := commonKeys ++ [10, 11, 12, 13, 14, 15, 16, 17, 20, 21, 22]

/-- Each pattern has its own keys. -/
def Pattern.expected : Pattern → List Nat
  | .publishSubscribe => pubsubKeys
  | .requestResponse => requestResponseKeys

/-- A call returns its result, the mapping and the error. The last two are arguments that it may overwrite. -/
def parseMapping (text : Text) (out : Mapping) (_error : String) : Bool × Mapping × String :=
  match Data.KeyValue.parse decode {} text with
  | .error message => (false, out, message)
  | .ok (parsed, seen) =>
      if mask seen ≠ mask parsed.pattern.expected then (false, out, "mapping is incomplete") else (true, parsed, "")

def switch (value : Bool) : Text := if value then "true".toList else "false".toList

def formatMapping (value : Mapping) : Text :=
  if value.pattern = .requestResponse then
    "pattern=requestResponse;service=".toList ++ value.service ++
      ";requestType=".toList ++ value.requestType ++
      ";responseType=".toList ++ value.responseType ++
      ";requestPayloadSize=".toList ++ digits value.requestPayloadSize.toNat ++
      ";responsePayloadSize=".toList ++ digits value.responsePayloadSize.toNat ++
      ";alignment=".toList ++ digits value.payloadAlignment.toNat ++
      ";requestBuffer=".toList ++ digits value.requestBuffer.toNat ++
      ";responseBuffer=".toList ++ digits value.responseBuffer.toNat ++
      ";maxClients=".toList ++ digits value.maxClients.toNat ++
      ";maxServers=".toList ++ digits value.maxServers.toNat ++
      ";maxLoanedRequests=".toList ++ digits value.maxLoanedRequests.toNat ++
      ";maxBorrowedResponses=".toList ++ digits value.maxBorrowedResponses.toNat ++
      ";maxLoanedResponses=".toList ++ digits value.maxLoanedResponses.toNat ++
      ";safeOverflow=".toList ++ switch value.safeOverflow
  else
    "pattern=pubsub;service=".toList ++ value.service ++
      ";type=".toList ++ value.typeName ++
      ";payloadSize=".toList ++ digits value.payloadSize.toNat ++
      ";alignment=".toList ++ digits value.payloadAlignment.toNat ++
      ";history=".toList ++ digits value.historyDepth.toNat ++
      ";subscriberBuffer=".toList ++ digits value.subscriberBuffer.toNat ++
      ";maxPublishers=".toList ++ digits value.maxPublishers.toNat ++
      ";maxSubscribers=".toList ++ digits value.maxSubscribers.toNat ++
      ";maxLoanedSamples=".toList ++ digits value.maxLoanedSamples.toNat ++
      ";maxBorrowedSamples=".toList ++ digits value.maxBorrowedSamples.toNat ++
      ";safeOverflow=".toList ++ switch value.safeOverflow

/-- A text of a mapping is not empty, it is not too long, and it does not end its entry. -/
def ValidText (value : Text) : Prop := value ≠ [] ∧ value.length ≤ 255 ∧ ';' ∉ value

namespace Mapping

/-- The members that the other pattern needs are not part of a mapping. -/
def relevant (mapping : Mapping) : Mapping :=
  match mapping.pattern with
  | .publishSubscribe =>
      { pattern := .publishSubscribe
        service := mapping.service
        typeName := mapping.typeName
        payloadSize := mapping.payloadSize
        payloadAlignment := mapping.payloadAlignment
        historyDepth := mapping.historyDepth
        subscriberBuffer := mapping.subscriberBuffer
        maxPublishers := mapping.maxPublishers
        maxSubscribers := mapping.maxSubscribers
        maxLoanedSamples := mapping.maxLoanedSamples
        maxBorrowedSamples := mapping.maxBorrowedSamples
        safeOverflow := mapping.safeOverflow }
  | .requestResponse =>
      { pattern := .requestResponse
        service := mapping.service
        requestType := mapping.requestType
        responseType := mapping.responseType
        requestPayloadSize := mapping.requestPayloadSize
        responsePayloadSize := mapping.responsePayloadSize
        payloadAlignment := mapping.payloadAlignment
        requestBuffer := mapping.requestBuffer
        responseBuffer := mapping.responseBuffer
        maxClients := mapping.maxClients
        maxServers := mapping.maxServers
        maxLoanedRequests := mapping.maxLoanedRequests
        maxBorrowedResponses := mapping.maxBorrowedResponses
        maxLoanedResponses := mapping.maxLoanedResponses
        safeOverflow := mapping.safeOverflow }

def texts (mapping : Mapping) : List Text :=
  match mapping.pattern with
  | .publishSubscribe => [mapping.service, mapping.typeName]
  | .requestResponse => [mapping.service, mapping.requestType, mapping.responseType]

/-- The sizes and the limits of a mapping are positive, but the history may be empty. -/
def counts (mapping : Mapping) : List UInt64 :=
  match mapping.pattern with
  | .publishSubscribe =>
      [mapping.payloadSize, mapping.subscriberBuffer, mapping.maxPublishers, mapping.maxSubscribers,
        mapping.maxLoanedSamples, mapping.maxBorrowedSamples]
  | .requestResponse =>
      [mapping.requestPayloadSize, mapping.responsePayloadSize, mapping.requestBuffer, mapping.responseBuffer,
        mapping.maxClients, mapping.maxServers, mapping.maxLoanedRequests, mapping.maxBorrowedResponses,
        mapping.maxLoanedResponses]

structure Valid (mapping : Mapping) : Prop where
  texts : ∀ value ∈ mapping.texts, ValidText value
  counts : ∀ value ∈ mapping.counts, positive value = true
  alignment : powerOfTwo mapping.payloadAlignment = true
  relevant : mapping.relevant = mapping

end Mapping

end OpenVehicle.Com.Iceoryx.Native
