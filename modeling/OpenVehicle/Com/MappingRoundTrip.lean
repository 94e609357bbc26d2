/-
This file proves that the text of a native mapping is parsed to the mapping again. The parser of the SOME/IP transport
also needs an empty error from its caller.
-/

import OpenVehicle.Com.VsomeipMapping
import OpenVehicle.Com.IceoryxMapping

namespace OpenVehicle.Com

open Data.KeyValue

variable {key value : Text}

theorem clean_text (named : key ≠ []) (plain : '=' ∉ key ∧ ';' ∉ key) (filled : value ≠ [])
    (apart : ';' ∉ value) : Clean (key, value) where
  named := named
  filled := filled
  key := plain.1
  apart := by simp [entry, plain.2, apart]

namespace Vsomeip

variable {mapping : Mapping}

/-- A mapping is valid when it names a service and an instance, and exactly the notifications have an event group. -/
structure Mapping.Valid (mapping : Mapping) : Prop where
  service : mapping.service ≠ 0
  instanceId : mapping.instanceId ≠ 0xffff
  eventGroup : mapping.notification = (mapping.eventGroup != 0)

def Mapping.fields (mapping : Mapping) : List (Text × Text) :=
  [("service".toList, digits mapping.service.toNat), ("instance".toList, digits mapping.instanceId.toNat),
    ("element".toList, digits mapping.element.toNat), ("eventGroup".toList, digits mapping.eventGroup.toNat),
    ("major".toList, digits mapping.majorVersion.toNat), ("minor".toList, digits mapping.minorVersion.toNat),
    ("kind".toList, mapping.kind.name), ("reliable".toList, if mapping.reliable then "true".toList else "false".toList)]

set_option maxRecDepth 2000 in
theorem formatMapping_eq_render (mapping : Mapping) : formatMapping mapping = render mapping.fields := by
  unfold formatMapping Mapping.fields
  simp only [render, entry, String.reduceToList, List.append_assoc, List.cons_append, List.nil_append]

theorem clean_fields (mapping : Mapping) : ∀ field ∈ mapping.fields, Clean field := by
  have kind : Clean ("kind".toList, mapping.kind.name) := by
    cases mapping.kind <;> exact clean_text (by decide) (by decide) (by decide) (by decide)
  have reliable : Clean ("reliable".toList, if mapping.reliable then "true".toList else "false".toList) := by
    cases mapping.reliable <;> exact clean_text (by decide) (by decide) (by decide) (by decide)
  simp only [Mapping.fields, List.forall_mem_cons, kind, reliable, true_and]
  refine ⟨?_, ?_, ?_, ?_, ?_, ?_, by simp⟩ <;> exact clean_digits (by decide) (by decide) _

theorem number_digits {bit limit : Nat} {valid : Nat → Bool} {error : String} {assign : Nat → Mapping → Mapping}
    {value : Nat} (small : value ≤ limit) (accepted : valid value = true) :
    number bit limit valid error assign (digits value) = .ok (bit, assign value) := by
  simp only [number, unsigned_digits, if_pos small, if_pos accepted]

/-- The fields of a valid mapping are decoded one by one. -/
theorem decode_fields (valid : mapping.Valid) : ∃ changes,
    List.Forall₂ (fun field change => decode field.1 field.2 = .ok change) mapping.fields changes ∧
      changes.map Prod.fst = List.range 8 ∧ apply changes {} = mapping := by
  have service : (mapping.service.toNat != 0) = true := by
    simpa [← UInt16.toNat_inj] using valid.service
  have instanceId : (mapping.instanceId.toNat != 0xffff) = true := by
    simpa [← UInt16.toNat_inj] using valid.instanceId
  have kind : decode "kind".toList mapping.kind.name =
      .ok (6, fun changed => { changed with kind := mapping.kind }) := by
    cases mapping.kind <;> rfl
  have reliable : decode "reliable".toList (if mapping.reliable then "true".toList else "false".toList) =
      .ok (7, fun changed => { changed with reliable := mapping.reliable }) := by
    cases mapping.reliable <;> rfl
  refine ⟨_, .cons (number_digits (Nat.le_of_lt_succ mapping.service.toNat_lt) service) <|
    .cons (number_digits (Nat.le_of_lt_succ mapping.instanceId.toNat_lt) instanceId) <|
    .cons (number_digits (Nat.le_of_lt_succ mapping.element.toNat_lt) rfl) <|
    .cons (number_digits (Nat.le_of_lt_succ mapping.eventGroup.toNat_lt) rfl) <|
    .cons (number_digits (Nat.le_of_lt_succ mapping.majorVersion.toNat_lt) rfl) <|
    .cons (number_digits (Nat.le_of_lt_succ mapping.minorVersion.toNat_lt) rfl) <|
    .cons kind <| .cons reliable .nil, rfl, ?_⟩
  simp [apply]

theorem parseMapping_formatMapping (valid : mapping.Valid) : parseMapping (formatMapping mapping) = .ok mapping := by
  obtain ⟨changes, decoded, bits, result⟩ := decode_fields valid
  have parsed := parse_render {} (clean_fields mapping) decoded (by rw [bits]; exact List.nodup_range)
  rw [parseMapping, formatMapping_eq_render, parsed, bits, result]
  simp [valid.eventGroup]

/-- The first entry is refused with the error of the caller. -/
theorem parseMappingInto_formatMapping {mapping out : Mapping} {error : String} (valid : mapping.Valid)
    (stale : error ≠ "") : parseMappingInto (formatMapping mapping) out error = (false, out, error) := by
  have accepted : decode "service".toList (digits mapping.service.toNat) =
      .ok (0, fun changed => { changed with service := .ofNat mapping.service.toNat }) :=
    number_digits (Nat.le_of_lt_succ mapping.service.toNat_lt) (by simpa [← UInt16.toNat_inj] using valid.service)
  have refused : step (decodeAfter error) ({}, []) (entry ("service".toList, digits mapping.service.toNat)) =
      .error error := by
    simp only [step, (clean_fields mapping _ List.mem_cons_self).keyValue, decodeAfter, accepted, if_neg stale]
  have parsed : Data.KeyValue.parse (decodeAfter error) {} (render mapping.fields) = .error error := by
    rw [Data.KeyValue.parse, items_render_clean fun field found => (clean_fields mapping field found).apart]
    rw [Mapping.fields, List.map_cons, List.foldlM_cons, refused]
    rfl
  rw [parseMappingInto, formatMapping_eq_render, parsed]

end Vsomeip

namespace Iceoryx.Native

variable {mapping : Mapping}

def Mapping.fields (mapping : Mapping) : List (Text × Text) :=
  match mapping.pattern with
  | .publishSubscribe =>
      [("pattern".toList, "pubsub".toList), ("service".toList, mapping.service), ("type".toList, mapping.typeName),
        ("payloadSize".toList, digits mapping.payloadSize.toNat),
        ("alignment".toList, digits mapping.payloadAlignment.toNat),
        ("history".toList, digits mapping.historyDepth.toNat),
        ("subscriberBuffer".toList, digits mapping.subscriberBuffer.toNat),
        ("maxPublishers".toList, digits mapping.maxPublishers.toNat),
        ("maxSubscribers".toList, digits mapping.maxSubscribers.toNat),
        ("maxLoanedSamples".toList, digits mapping.maxLoanedSamples.toNat),
        ("maxBorrowedSamples".toList, digits mapping.maxBorrowedSamples.toNat),
        ("safeOverflow".toList, switch mapping.safeOverflow)]
  | .requestResponse =>
      [("pattern".toList, "requestResponse".toList), ("service".toList, mapping.service),
        ("requestType".toList, mapping.requestType), ("responseType".toList, mapping.responseType),
        ("requestPayloadSize".toList, digits mapping.requestPayloadSize.toNat),
        ("responsePayloadSize".toList, digits mapping.responsePayloadSize.toNat),
        ("alignment".toList, digits mapping.payloadAlignment.toNat),
        ("requestBuffer".toList, digits mapping.requestBuffer.toNat),
        ("responseBuffer".toList, digits mapping.responseBuffer.toNat),
        ("maxClients".toList, digits mapping.maxClients.toNat), ("maxServers".toList, digits mapping.maxServers.toNat),
        ("maxLoanedRequests".toList, digits mapping.maxLoanedRequests.toNat),
        ("maxBorrowedResponses".toList, digits mapping.maxBorrowedResponses.toNat),
        ("maxLoanedResponses".toList, digits mapping.maxLoanedResponses.toNat),
        ("safeOverflow".toList, switch mapping.safeOverflow)]

set_option maxRecDepth 4000 in
theorem formatMapping_eq_render (mapping : Mapping) : formatMapping mapping = render mapping.fields := by
  unfold formatMapping Mapping.fields
  cases mapping.pattern with
  | publishSubscribe =>
      rw [if_neg (by decide)]
      simp only [render, entry, String.reduceToList, List.append_assoc, List.cons_append, List.nil_append]
  | requestResponse =>
      rw [if_pos rfl]
      simp only [render, entry, String.reduceToList, List.append_assoc, List.cons_append, List.nil_append]

theorem decode_eq_ok {bit : Nat} {accept : Accept} {change : Mapping → Mapping}
    (known : keys.lookup key = some (bit, accept)) (accepted : accept value = some change) :
    decode key value = .ok (bit, change) := by
  simp only [decode, known, accepted]

theorem numeric_digits {valid : UInt64 → Bool} {assign : UInt64 → Mapping → Mapping} {value : UInt64}
    (accepted : valid value = true) : numeric valid assign (digits value.toNat) = some (assign value) := by
  have small : value.toNat ≤ 0xffffffffffffffff := Nat.le_of_lt_succ value.toNat_lt
  simp [numeric, number, unsigned_digits, small, accepted]

theorem text_valid {assign : Text → Mapping → Mapping} {value : Text} (valid : ValidText value) :
    text assign value = some (assign value) := if_pos valid.2.1

theorem choice_switch {assign : Bool → Mapping → Mapping} (value : Bool) :
    choice switches assign (switch value) = some (assign value) := by
  cases value <;> rfl

theorem relevant_pattern (mapping : Mapping) : mapping.relevant.pattern = mapping.pattern := by
  unfold Mapping.relevant
  split
  · rename_i pattern
    exact pattern.symm
  · rename_i pattern
    exact pattern.symm

theorem clean_switch {key : Text} (named : key ≠ []) (plain : '=' ∉ key ∧ ';' ∉ key) (value : Bool) :
    Clean (key, switch value) := by
  cases value
  · exact clean_text named plain (by decide) (by decide)
  · exact clean_text named plain (by decide) (by decide)

section Valid
variable (texts : ∀ value ∈ mapping.texts, ValidText value)
include texts

theorem clean_fields : ∀ field ∈ mapping.fields, Clean field := by
  have safeOverflow : Clean ("safeOverflow".toList, switch mapping.safeOverflow) :=
    clean_switch (by decide) (by decide) _
  unfold Mapping.fields
  revert texts
  unfold Mapping.texts
  cases mapping.pattern with
  | publishSubscribe =>
      intro texts
      simp only [List.forall_mem_cons] at texts ⊢
      obtain ⟨service, typeName, -⟩ := texts
      refine ⟨clean_text (by decide) (by decide) (by decide) (by decide),
        clean_text (by decide) (by decide) service.1 service.2.2,
        clean_text (by decide) (by decide) typeName.1 typeName.2.2,
        ?_, ?_, ?_, ?_, ?_, ?_, ?_, ?_, safeOverflow, by simp⟩
      all_goals exact clean_digits (by decide) (by decide) _
  | requestResponse =>
      intro texts
      simp only [List.forall_mem_cons] at texts ⊢
      obtain ⟨service, requestType, responseType, -⟩ := texts
      refine ⟨clean_text (by decide) (by decide) (by decide) (by decide),
        clean_text (by decide) (by decide) service.1 service.2.2,
        clean_text (by decide) (by decide) requestType.1 requestType.2.2,
        clean_text (by decide) (by decide) responseType.1 responseType.2.2,
        ?_, ?_, ?_, ?_, ?_, ?_, ?_, ?_, ?_, ?_, safeOverflow, by simp⟩
      all_goals exact clean_digits (by decide) (by decide) _

variable (counts : ∀ value ∈ mapping.counts, positive value = true)
  (alignment : powerOfTwo mapping.payloadAlignment = true)
include counts alignment

/-- The fields of a mapping are decoded one by one, and they are the keys that its pattern needs. -/
theorem decode_fields : ∃ changes,
    List.Forall₂ (fun field change => decode field.1 field.2 = .ok change) mapping.fields changes ∧
      (changes.map Prod.fst).Nodup ∧ mask (changes.map Prod.fst).reverse = mask mapping.pattern.expected ∧
        apply changes {} = mapping.relevant := by
  unfold Mapping.fields Mapping.relevant
  revert texts counts
  unfold Mapping.texts Mapping.counts
  cases mapping.pattern with
  | publishSubscribe =>
      intro texts counts
      simp only [List.forall_mem_cons] at texts counts
      obtain ⟨service, typeName, -⟩ := texts
      obtain ⟨payloadSize, subscriberBuffer, maxPublishers, maxSubscribers, maxLoanedSamples, maxBorrowedSamples, -⟩ :=
        counts
      refine ⟨_, .cons (decode_eq_ok rfl rfl) <| .cons (decode_eq_ok rfl (text_valid service)) <|
        .cons (decode_eq_ok rfl (text_valid typeName)) <| .cons (decode_eq_ok rfl (numeric_digits payloadSize)) <|
        .cons (decode_eq_ok rfl (numeric_digits alignment)) <| .cons (decode_eq_ok rfl (numeric_digits rfl)) <|
        .cons (decode_eq_ok rfl (numeric_digits subscriberBuffer)) <|
        .cons (decode_eq_ok rfl (numeric_digits maxPublishers)) <|
        .cons (decode_eq_ok rfl (numeric_digits maxSubscribers)) <|
        .cons (decode_eq_ok rfl (numeric_digits maxLoanedSamples)) <|
        .cons (decode_eq_ok rfl (numeric_digits maxBorrowedSamples)) <|
        .cons (decode_eq_ok rfl (choice_switch _)) .nil, ?_, ?_, rfl⟩
      · simp only [List.map_cons, List.map_nil]
        decide
      · simp only [List.map_cons, List.map_nil]
        decide
  | requestResponse =>
      intro texts counts
      simp only [List.forall_mem_cons] at texts counts
      obtain ⟨service, requestType, responseType, -⟩ := texts
      obtain ⟨requestPayloadSize, responsePayloadSize, requestBuffer, responseBuffer, maxClients, maxServers,
        maxLoanedRequests, maxBorrowedResponses, maxLoanedResponses, -⟩ := counts
      refine ⟨_, .cons (decode_eq_ok rfl rfl) <| .cons (decode_eq_ok rfl (text_valid service)) <|
        .cons (decode_eq_ok rfl (text_valid requestType)) <| .cons (decode_eq_ok rfl (text_valid responseType)) <|
        .cons (decode_eq_ok rfl (numeric_digits requestPayloadSize)) <|
        .cons (decode_eq_ok rfl (numeric_digits responsePayloadSize)) <|
        .cons (decode_eq_ok rfl (numeric_digits alignment)) <|
        .cons (decode_eq_ok rfl (numeric_digits requestBuffer)) <|
        .cons (decode_eq_ok rfl (numeric_digits responseBuffer)) <|
        .cons (decode_eq_ok rfl (numeric_digits maxClients)) <| .cons (decode_eq_ok rfl (numeric_digits maxServers)) <|
        .cons (decode_eq_ok rfl (numeric_digits maxLoanedRequests)) <|
        .cons (decode_eq_ok rfl (numeric_digits maxBorrowedResponses)) <|
        .cons (decode_eq_ok rfl (numeric_digits maxLoanedResponses)) <|
        .cons (decode_eq_ok rfl (choice_switch _)) .nil, ?_, ?_, rfl⟩
      · simp only [List.map_cons, List.map_nil]
        decide
      · simp only [List.map_cons, List.map_nil]
        decide

/-- A text has no members of the other pattern, so the parser returns their defaults. -/
theorem parseMapping_formatMapping (out : Mapping) (error : String) :
    parseMapping (formatMapping mapping) out error = (true, mapping.relevant, "") := by
  obtain ⟨changes, decoded, distinct, complete, result⟩ := decode_fields texts counts alignment
  have parsed := parse_render {} (clean_fields texts) decoded distinct
  rw [parseMapping, formatMapping_eq_render, parsed, result]
  simp [relevant_pattern, complete]

end Valid

end Iceoryx.Native

/-- A valid mapping comes back from its text, whatever the caller has passed, but the parser of the SOME/IP transport
refuses it after an error. -/
theorem mapping_texts_round_trip (error : String) : (∀ mapping out : Vsomeip.Mapping, mapping.Valid →
      ((∃ message, Vsomeip.parseMappingInto (Vsomeip.formatMapping mapping) out error = (true, mapping, message)) ↔
        error = "")) ∧
    ∀ mapping out : Iceoryx.Native.Mapping, mapping.Valid →
      ∃ message, Iceoryx.Native.parseMapping (Iceoryx.Native.formatMapping mapping) out error =
        (true, mapping, message) := by
  constructor
  · intro mapping out valid
    constructor
    · rintro ⟨message, restored⟩
      by_contra stale
      rw [Vsomeip.parseMappingInto_formatMapping valid stale] at restored
      cases restored
    · intro empty
      refine ⟨"", ?_⟩
      rw [empty, Vsomeip.parseMappingInto_empty, Vsomeip.parseMapping_formatMapping valid]
  · intro mapping out valid
    refine ⟨"", ?_⟩
    rw [Iceoryx.Native.parseMapping_formatMapping valid.texts valid.counts valid.alignment, valid.relevant]

def radarEvent : Vsomeip.Mapping where
  service := 4660
  instanceId := 1
  element := 32769
  eventGroup := 1
  majorVersion := 1
  kind := .event
  reliable := true

theorem radarEvent_valid : radarEvent.Valid where
  service := by decide
  instanceId := by decide
  eventGroup := rfl

def radarTopic : Iceoryx.Native.Mapping where
  service := "vehicle/radar/front/objects".toList
  typeName := "RadarObjects".toList
  payloadSize := 64
  payloadAlignment := 8
  historyDepth := 1
  subscriberBuffer := 8
  maxPublishers := 2
  maxSubscribers := 8
  maxLoanedSamples := 2
  maxBorrowedSamples := 2

theorem radarTopic_valid : radarTopic.Valid where
  texts := by
    simp only [Iceoryx.Native.Mapping.texts, radarTopic, List.forall_mem_cons, Iceoryx.Native.ValidText]
    decide +kernel
  counts := by simp [Iceoryx.Native.Mapping.counts, radarTopic, Iceoryx.Native.positive]
  alignment := by decide
  relevant := rfl

/-- The mappings of a radar are read back. -/
theorem mapping_texts_of_radar :
    (∃ message, Vsomeip.parseMappingInto (Vsomeip.formatMapping radarEvent) {} "" = (true, radarEvent, message)) ∧
    ∃ message, Iceoryx.Native.parseMapping (Iceoryx.Native.formatMapping radarTopic) {} "mapping is incomplete" =
      (true, radarTopic, message) :=
  ⟨((mapping_texts_round_trip "").1 radarEvent {} radarEvent_valid).mpr rfl,
    (mapping_texts_round_trip "mapping is incomplete").2 radarTopic {} radarTopic_valid⟩

/-- The first call leaves its error to the second call, which refuses a valid mapping. -/
theorem mapping_text_refused_after_error : radarEvent.Valid ∧
    ∃ error, Vsomeip.parseMappingInto [] {} "" = (false, {}, error) ∧
      ¬ ∃ message, Vsomeip.parseMappingInto (Vsomeip.formatMapping radarEvent) {} error =
        (true, radarEvent, message) := by
  refine ⟨radarEvent_valid, "mapping is incomplete", rfl, ?_⟩
  rintro ⟨message, restored⟩
  rw [Vsomeip.parseMappingInto_formatMapping radarEvent_valid (by decide)] at restored
  cases restored

end OpenVehicle.Com
