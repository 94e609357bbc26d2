/-
This file compares contracts with equal fingerprints: the types, the elements and the application errors that
their generated proxies and skeletons exchange.
-/

import OpenVehicle.Com.Evolution
import OpenVehicle.Com.Transport
import OpenVehicle.Data.Sorting

namespace OpenVehicle.Com.Contract

open Data (sortBy)

variable {A K : Type}

def normalizedType (shape : TypeDefinition) : TypeDefinition :=
  match shape.kind with
  | .struct members => { shape with kind := .struct (sortBy (·.tag) members) }
  | _ => shape

def normalizedMethod (method : Method) : Method := { method with errors := sortBy id method.errors }

def normalizedService (service : Service) : Service :=
  { service with
    events := sortBy (·.tag) service.events
    methods := (sortBy (·.tag) service.methods).map normalizedMethod
    fields := sortBy (·.tag) service.fields }

/-- The fingerprint of a contract is the hash of its normalized form. -/
def normalized (model : Contract) : Contract :=
  { model with
    types := (sortBy (·.name) model.types).map normalizedType
    services := (sortBy (·.id) model.services).map normalizedService }

@[simp] theorem name_normalizedType (shape : TypeDefinition) : (normalizedType shape).name = shape.name := by
  unfold normalizedType
  split <;> rfl

/-- The normalization of a type is idempotent. -/
theorem normalizedType_normalizedType (shape : TypeDefinition) :
    normalizedType (normalizedType shape) = normalizedType shape := by
  obtain ⟨name, kind⟩ := shape
  cases kind with
  | struct members =>
      simp only [normalizedType, Data.sortBy_sortBy]
  | _ => rfl

theorem normalizedMethod_normalizedMethod (method : Method) :
    normalizedMethod (normalizedMethod method) = normalizedMethod method := by
  simp only [normalizedMethod, Data.sortBy_sortBy]

/-- The sorting of a normalized list changes nothing. -/
theorem normalize_twice [LinearOrder K] (key : A → K) (f : A → A) (kept : ∀ a, key (f a) = key a)
    (twice : ∀ a, f (f a) = f a) (list : List A) :
    (sortBy key ((sortBy key list).map f)).map f = (sortBy key list).map f := by
  rw [← Data.map_sortBy kept, Data.sortBy_sortBy, List.map_map]
  apply List.map_congr_left
  intro a _
  exact twice a

theorem normalizedService_normalizedService (service : Service) :
    normalizedService (normalizedService service) = normalizedService service := by
  unfold normalizedService
  simp only [Data.sortBy_sortBy]
  congr 1
  exact normalize_twice (·.tag) normalizedMethod (fun _ => rfl) normalizedMethod_normalizedMethod service.methods

theorem normalized_normalized (model : Contract) : normalized (normalized model) = normalized model := by
  unfold normalized
  simp only
  congr 1
  · exact normalize_twice (·.name) normalizedType name_normalizedType normalizedType_normalizedType model.types
  · exact normalize_twice (·.id) normalizedService (fun _ => rfl) normalizedService_normalizedService model.services

variable {types : List TypeDefinition} {model : Contract}

section Validity
variable {services : List Service} {ids : List String}

/-- The elements of a service have fresh and distinct identifiers. -/
theorem checkElements_ids {location : String} {list : List (String × String × Int)}
    (clean : (checkElements location list ids).1 = []) : (list.map (·.1)).Nodup ∧ (∀ element ∈ list, element.1 ∉ ids) ∧
      ∀ id ∈ ids, id ∈ (checkElements location list ids).2 := by
  induction list generalizing ids with
  | nil => exact ⟨List.nodup_nil, fun _ listed => absurd listed List.not_mem_nil, fun _ known => known⟩
  | cons element list ih =>
      obtain ⟨id, name, tag⟩ := element
      simp only [checkElements, List.append_eq_nil_iff, errorIf_eq_nil] at clean
      obtain ⟨⟨⟨_, new⟩, _⟩, rest⟩ := clean
      obtain ⟨distinct, fresh, grows⟩ := ih rest
      refine ⟨?_, ?_, fun other known => grows other (List.mem_cons_of_mem _ known)⟩
      · apply List.nodup_cons.mpr
        refine ⟨fun later => ?_, distinct⟩
        obtain ⟨other, listed, same⟩ := List.mem_map.mp later
        exact fresh other listed (same ▸ List.mem_cons_self)
      · intro other listed
        rcases List.mem_cons.mp listed with rfl | listed
        · simpa using new
        · exact fun known => fresh other listed (List.mem_cons_of_mem _ known)

/-- The identifiers and tags of the services of a valid contract are distinct. -/
structure ValidService (service : Service) : Prop where
  tags : ((elements service).map (·.2.2)).Nodup
  ids : ((elements service).map (·.1)).Nodup

theorem services_of_check (clean : checkServices types services ids = []) :
    (services.map (·.id)).Nodup ∧ ∀ service ∈ services, service.id ∉ ids ∧ ValidService service := by
  induction services generalizing ids with
  | nil => exact ⟨List.nodup_nil, fun _ listed => absurd listed List.not_mem_nil⟩
  | cons service services ih =>
      simp only [checkServices, List.append_eq_nil_iff, errorIf_eq_nil] at clean
      obtain ⟨⟨⟨⟨⟨⟨⟨_, new⟩, tags⟩, elements⟩, _⟩, _⟩, _⟩, rest⟩ := clean
      obtain ⟨distinct, fresh, grows⟩ := checkElements_ids elements
      obtain ⟨later, valid⟩ := ih rest
      refine ⟨?_, ?_⟩
      · apply List.nodup_cons.mpr
        refine ⟨fun repeated => ?_, later⟩
        obtain ⟨other, listed, same⟩ := List.mem_map.mp repeated
        exact (valid other listed).1 (grows _ (same ▸ List.mem_cons_self))
      · intro other listed
        rcases List.mem_cons.mp listed with rfl | listed
        · exact ⟨by simpa using new, by simpa using tags, distinct⟩
        · obtain ⟨unknown, proper⟩ := valid other listed
          exact ⟨fun known => unknown (grows _ (List.mem_cons_of_mem _ known)), proper⟩

theorem services_of_validate (clean : validate model = []) :
    (model.services.map (·.id)).Nodup ∧ ∀ service ∈ model.services, ValidService service := by
  rw [validate] at clean
  simp only [List.append_eq_nil_iff] at clean
  obtain ⟨distinct, valid⟩ := services_of_check clean.2
  exact ⟨distinct, fun service listed => (valid service listed).2⟩

end Validity

variable {service : Service}

section Rearrangement

/-- Two lists list related entries in any order. -/
def RearrangedBy {A : Type} (related : A → A → Prop) (list other : List A) : Prop :=
  ∃ middle, List.Forall₂ related list middle ∧ middle.Perm other

inductive TypeRearranged : TypeDefinition → TypeDefinition → Prop
  | same (shape : TypeDefinition) : TypeRearranged shape shape
  | struct {name : String} {members others : List MemberDefinition} (perm : members.Perm others) :
      TypeRearranged ⟨name, .struct members⟩ ⟨name, .struct others⟩

structure MethodRearranged (method other : Method) : Prop where
  same : other = { method with errors := other.errors }
  errors : method.errors.Perm other.errors

variable {method other : Method}

theorem MethodRearranged.id (rearranged : MethodRearranged method other) : other.id = method.id := by
  rw [rearranged.same]

structure ServiceRearranged (service other : Service) : Prop where
  same : other = { service with events := other.events, methods := other.methods, fields := other.fields }
  events : service.events.Perm other.events
  methods : RearrangedBy MethodRearranged service.methods other.methods
  fields : service.fields.Perm other.fields

/-- A contract may list its types, members, services, elements and errors in another order. -/
structure Rearranged (model other : Contract) : Prop where
  same : other = { model with types := other.types, services := other.services }
  types : RearrangedBy TypeRearranged model.types other.types
  services : RearrangedBy ServiceRearranged model.services other.services

/-- A rearranged list has the same normalized form when related entries have. -/
theorem normalize_rearranged [LinearOrder K] (key : A → K) (f : A → A) {related : A → A → Prop}
    {list other : List A} (kept : ∀ a, key (f a) = key a) (distinct : (list.map key).Nodup)
    (alike : ∀ a ∈ list, ∀ b, related a b → f a = f b) (rearranged : RearrangedBy related list other) :
    (sortBy key list).map f = (sortBy key other).map f := by
  obtain ⟨middle, pairs, perm⟩ := rearranged
  have same : list.map f = middle.map f := by
    clear perm distinct
    induction pairs with
    | nil => rfl
    | cons pair pairs ih =>
        rw [List.map_cons, List.map_cons, alike _ List.mem_cons_self _ pair,
          ih fun a listed => alike a (List.mem_cons_of_mem _ listed)]
  rw [Data.map_sortBy kept, Data.map_sortBy kept]
  apply Data.sortBy_eq_of_nodup
  · rw [List.map_map]
    have keys : list.map (key ∘ f) = list.map key := List.map_congr_left fun a _ => kept a
    rw [keys]
    exact distinct
  · rw [same]
    exact perm.map f

theorem normalizedType_eq_of_rearranged {shape other : TypeDefinition}
    (clean : checkType types shape = []) (rearranged : TypeRearranged shape other) :
    normalizedType shape = normalizedType other := by
  cases rearranged with
  | same => rfl
  | struct perm =>
      simp only [normalizedType]
      rw [Data.sortBy_eq_of_nodup (tags_of_struct clean).1 perm]

theorem normalizedMethod_eq_of_rearranged (rearranged : MethodRearranged method other) :
    normalizedMethod method = normalizedMethod other := by
  rw [rearranged.same]
  simp only [normalizedMethod]
  rw [Data.sortBy_id_eq_iff.mpr rearranged.errors]

/-- The tags of a valid service tell the elements of one kind apart. -/
theorem ValidService.kinds (valid : ValidService service) :
    (service.events.map (·.tag)).Nodup ∧ (service.methods.map (·.tag)).Nodup ∧ (service.fields.map (·.tag)).Nodup := by
  have tags := valid.tags
  simp only [elements, List.map_append, List.map_map] at tags
  obtain ⟨front, fields, _⟩ := List.nodup_append.mp tags
  obtain ⟨events, methods, _⟩ := List.nodup_append.mp front
  exact ⟨events, methods, fields⟩

theorem normalizedService_eq_of_rearranged {service other : Service} (valid : ValidService service)
    (rearranged : ServiceRearranged service other) : normalizedService service = normalizedService other := by
  obtain ⟨events, methods, fields⟩ := valid.kinds
  rw [rearranged.same]
  simp only [normalizedService]
  congr 1
  · exact Data.sortBy_eq_of_nodup events rearranged.events
  · exact normalize_rearranged (·.tag) normalizedMethod (fun _ => rfl) methods (fun _ _ _ =>
      normalizedMethod_eq_of_rearranged)
      rearranged.methods
  · exact Data.sortBy_eq_of_nodup fields rearranged.fields

/-- The normalized form of a valid contract does not depend on the order of its lists. -/
theorem normalized_eq_of_rearranged {model other : Contract} (clean : validate model = [])
    (rearranged : Rearranged model other) : normalized other = normalized model := by
  have valid := valid_of_validate clean
  obtain ⟨ids, proper⟩ := services_of_validate clean
  rw [rearranged.same]
  simp only [normalized]
  congr 1
  · exact (normalize_rearranged (·.name) normalizedType name_normalizedType valid.names
      (fun shape listed _ => normalizedType_eq_of_rearranged (valid.types shape listed)) rearranged.types).symm
  · exact (normalize_rearranged (·.id) normalizedService (fun _ => rfl) ids
      (fun service listed _ => normalizedService_eq_of_rearranged (proper service listed)) rearranged.services).symm

end Rearrangement

section Generation
variable {types others : List TypeDefinition}

def Visits.normalized (state : Visits) : Visits := { state with ordered := state.ordered.map normalizedType }

theorem references_normalizedType (shape : TypeDefinition) : references (normalizedType shape) = references shape := by
  obtain ⟨name, kind⟩ := shape
  cases kind with
  | struct members =>
      change sortBy id ((sortBy (·.tag) members).map MemberDefinition.type) =
        sortBy id (members.map MemberDefinition.type)
      exact Data.sortBy_id_eq_iff.mpr ((Data.sortBy_perm _ members).map _)
  | _ => rfl

theorem declare_normalizedType (declared : Environment) (shape : TypeDefinition) :
    declare declared (normalizedType shape).kind = declare declared shape.kind := by
  obtain ⟨name, kind⟩ := shape
  cases kind with
  | struct members =>
      change ((sortedMembers (sortBy (·.tag) members)).mapM (declareMember declared)).map Ty.struct = _
      have sorted : sortedMembers (sortBy (·.tag) members) = sortedMembers members :=
        Data.sortBy_sortBy MemberDefinition.tag members
      rw [sorted]
      rfl
  | _ => rfl

/-- A fold commutes with the normalization of its state when its step does. -/
theorem foldlM_normalized (step later : Visits → String → Except String Visits)
    (commutes : ∀ state name, later state.normalized name = (step state name).map Visits.normalized)
    (names : List String) (state : Visits) :
    names.foldlM later state.normalized = (names.foldlM step state).map Visits.normalized := by
  induction names generalizing state with
  | nil => rfl
  | cons name names ih =>
      rw [List.foldlM_cons, List.foldlM_cons, commutes]
      cases step state name with
      | error message => rfl
      | ok next => exact ih next

/-- The search meets the normalized types in the same order. -/
theorem visit_normalized (known : ∀ name, lastBy (·.name) others name = (lastBy (·.name) types name).map normalizedType)
    (fuel : Nat) (state : Visits) (name : String) :
    visit others fuel name state.normalized = (visit types fuel name state).map Visits.normalized := by
  induction fuel generalizing state name with
  | zero => rfl
  | succ fuel ih =>
      rw [visit, visit]
      change (if state.visited.contains name then _ else _) = _
      split
      · rfl
      · rw [known]
        cases lastBy (·.name) types name with
        | none => rfl
        | some shape =>
            simp only [Option.map_some, references_normalizedType]
            change (if state.visiting.contains name then _ else _) = _
            split
            · rfl
            · have folded := foldlM_normalized (fun state name => visit types fuel name state)
                (fun state name => visit others fuel name state) ih (references shape)
                { state with visiting := name :: state.visiting }
              change ((references shape).foldlM (fun state reference => visit others fuel reference state)
                (Visits.normalized { state with visiting := name :: state.visiting })).bind _ = _
              rw [folded]
              cases (references shape).foldlM (fun state reference => visit types fuel reference state)
                  { state with visiting := name :: state.visiting } with
              | error message => rfl
              | ok inner =>
                  simp [Except.map, Except.bind, bind, Visits.normalized]

theorem lastBy_normalized (distinct : (types.map (·.name)).Nodup) (name : String) :
    lastBy (·.name) ((sortBy (·.name) types).map normalizedType) name =
      (lastBy (·.name) types name).map normalizedType := by
  have names : ((sortBy (·.name) types).map normalizedType).map (·.name) = (sortBy (·.name) types).map (·.name) := by
    rw [List.map_map]
    exact List.map_congr_left fun shape _ => name_normalizedType shape
  have unique : (((sortBy (·.name) types).map normalizedType).map (·.name)).Nodup := by
    rw [names]
    exact ((Data.sortBy_perm _ types).map _).nodup_iff.mpr distinct
  ext shape
  rw [lastBy_eq_some unique, Option.map_eq_some_iff]
  constructor
  · rintro ⟨listed, named⟩
    obtain ⟨source, member, rfl⟩ := List.mem_map.mp listed
    rw [name_normalizedType] at named
    exact ⟨source, (lastBy_eq_some distinct).mpr ⟨Data.mem_sortBy.mp member, named⟩, rfl⟩
  · rintro ⟨source, found, rfl⟩
    obtain ⟨listed, named⟩ := (lastBy_eq_some distinct).mp found
    exact ⟨List.mem_map_of_mem (Data.mem_sortBy.mpr listed), by rw [name_normalizedType]; exact named⟩

theorem orderedTypes_eq (types : List TypeDefinition) : orderedTypes types =
    ((sortBy id (types.map (·.name))).foldlM (fun state name => visit types (types.length + 1) name state)
      {}).map Visits.ordered := by
  change Except.bind ((sortBy id (types.map (·.name))).foldlM
    (fun state name => visit types (types.length + 1) name state) {}) _ = _
  cases (sortBy id (types.map (·.name))).foldlM
    (fun state name => visit types (types.length + 1) name state) {} <;> rfl

theorem orderedTypes_normalized (distinct : (types.map (·.name)).Nodup) :
    orderedTypes ((sortBy (·.name) types).map normalizedType) = (orderedTypes types).map (List.map normalizedType) := by
  have names : sortBy id (((sortBy (·.name) types).map normalizedType).map (·.name)) =
      sortBy id (types.map (·.name)) := by
    apply Data.sortBy_id_eq_iff.mpr
    rw [List.map_map]
    exact (((Data.sortBy_perm (·.name) types).map _).trans
      (List.Perm.of_eq (List.map_congr_left fun shape _ => name_normalizedType shape)))
  have length : ((sortBy (·.name) types).map normalizedType).length = types.length := by
    rw [List.length_map, (Data.sortBy_perm (·.name) types).length_eq]
  have folded := foldlM_normalized (fun state name => visit types (types.length + 1) name state)
    (fun state name => visit ((sortBy (·.name) types).map normalizedType) (types.length + 1) name state)
    (visit_normalized (lastBy_normalized distinct) (types.length + 1)) (sortBy id (types.map (·.name))) {}
  rw [orderedTypes_eq, orderedTypes_eq, names, length]
  change Except.map _ (List.foldlM _ (Visits.normalized {}) _) = _
  rw [folded]
  cases (sortBy id (types.map (·.name))).foldlM
    (fun state name => visit types (types.length + 1) name state) {} <;> rfl

theorem declareAll_normalized (shapes : List TypeDefinition) (declared : Environment) :
    declareAll (shapes.map normalizedType) declared = declareAll shapes declared := by
  induction shapes generalizing declared with
  | nil => rfl
  | cons shape shapes ih =>
      rw [List.map_cons, declareAll, declareAll, declare_normalizedType, name_normalizedType]
      cases declare declared shape.kind with
      | none => rfl
      | some ty => exact ih _

/-- The generated types depend on the normalized contract only. -/
theorem generate_normalized (distinct : (model.types.map (·.name)).Nodup) :
    generate (normalized model) = generate model := by
  unfold generate normalized
  rw [orderedTypes_normalized distinct]
  cases orderedTypes model.types with
  | error message => rfl
  | ok ordered => exact declareAll_normalized ordered []

end Generation

section Agreement

/-- A channel of a service has a descriptor, the types that travel in both directions and the application errors
in the declared order. -/
structure Channel where
  id : String
  tag : Int
  name : String
  operation : ElementOperation
  request : Option String
  response : Option String
  errors : List String := []
  deriving DecidableEq, Repr

def Event.channel (event : Event) : Channel where
  id := event.id
  tag := event.tag
  name := event.name
  operation := .event
  request := none
  response := some event.payload

def Method.channel (method : Method) : Channel where
  id := method.id
  tag := method.tag
  name := method.name
  operation := .method
  request := some method.input
  response := some method.output
  errors := method.errors

def Field.channels (field : Field) : List Channel :=
  (if field.readable then
    [⟨field.id, field.tag, field.name ++ ".get", .fieldGet, none, some field.value, []⟩] else []) ++
  (if field.writable then
    [⟨field.id, field.tag, field.name ++ ".set", .fieldSet, some field.value, none, []⟩] else []) ++
  (if field.notifiable then
    [⟨field.id, field.tag, field.name ++ ".notify", .fieldNotify, none, some field.value, []⟩] else [])

def channels (service : Service) : List Channel :=
  service.events.map Event.channel ++ service.methods.map Method.channel ++
    service.fields.flatMap Field.channels

/-- The proxy reads the application error that the skeleton sends: the same position and the same type. -/
def SelectsAlike (proxy skeleton : List String) : Prop :=
  ∀ index name, skeleton[index]? = some name →
    (UInt8.ofNat index).toNat = index ∧ proxy[(UInt8.ofNat index).toNat]? = some name

/-- A proxy and a skeleton agree on every message of a channel. -/
structure Channel.Agrees (proxyTypes skeletonTypes : Environment) (proxy skeleton : Channel) : Prop where
  id : skeleton.id = proxy.id
  tag : skeleton.tag = proxy.tag
  name : skeleton.name = proxy.name
  operation : skeleton.operation = proxy.operation
  request : proxy.request.map (resolve proxyTypes) = skeleton.request.map (resolve skeletonTypes)
  response : proxy.response.map (resolve proxyTypes) = skeleton.response.map (resolve skeletonTypes)
  selection : SelectsAlike proxy.errors skeleton.errors
  errors : ∀ error ∈ skeleton.errors, resolve proxyTypes error = resolve skeletonTypes error

/-- Every channel of a proxy of one contract has a channel of a skeleton of the other that agrees with it. -/
def Agree (proxyTypes skeletonTypes : Environment) (model other : Contract) : Prop :=
  ∀ service ∈ model.services, ∃ peer ∈ other.services, peer.id = service.id ∧ peer.version = service.version ∧
    ∀ proxy ∈ channels service, ∃ skeleton ∈ channels peer, proxy.Agrees proxyTypes skeletonTypes skeleton

/-- Corresponding methods declare the same errors in the same order, and a byte counts them. -/
def SameErrors (model other : Contract) : Prop :=
  ∀ service ∈ model.services, ∀ peer ∈ other.services, peer.id = service.id →
    ∀ method ∈ service.methods, ∀ partner ∈ peer.methods, partner.id = method.id →
      partner.errors = method.errors ∧ method.errors.length ≤ 256

theorem selectsAlike_iff {proxy skeleton : List String} (perm : proxy.Perm skeleton) :
    SelectsAlike proxy skeleton ↔ skeleton = proxy ∧ proxy.length ≤ 256 := by
  constructor
  · intro alike
    have small : ∀ index < skeleton.length, (UInt8.ofNat index).toNat = index := fun index inside =>
      (alike index _ (List.getElem?_eq_getElem inside)).1
    refine ⟨?_, ?_⟩
    · apply List.ext_getElem?
      intro index
      by_cases inside : index < skeleton.length
      · have selected := (alike index _ (List.getElem?_eq_getElem inside)).2
        rw [small index inside] at selected
        rw [selected, List.getElem?_eq_getElem inside]
      · rw [List.getElem?_eq_none (by omega), List.getElem?_eq_none (by rw [perm.length_eq]; omega)]
    · by_contra large
      have wrapped := small 256 (by rw [← perm.length_eq]; omega)
      exact absurd wrapped (by decide)
  · rintro ⟨rfl, small⟩ index name found
    have inside := (List.getElem?_eq_some_iff.mp found).1
    have exact : (UInt8.ofNat index).toNat = index := by
      rw [UInt8.toNat_ofNat']
      omega
    rw [exact]
    exact ⟨rfl, found⟩

variable {channel : Channel}

theorem mem_channels : channel ∈ channels service ↔
    (∃ event ∈ service.events, event.channel = channel) ∨ (∃ method ∈ service.methods, method.channel = channel) ∨
        ∃ field ∈ service.fields, channel ∈ field.channels := by
  rw [channels, List.mem_append, List.mem_append, List.mem_map, List.mem_map, List.mem_flatMap, or_assoc]

/-- A channel of a field is no method and has no application errors. -/
theorem plain_fieldChannel {field : Field} (listed : channel ∈ field.channels) :
    channel.operation ≠ .method ∧ channel.errors = [] := by
  unfold Field.channels at listed
  simp only [List.mem_append, List.mem_ite_nil_right, List.mem_singleton] at listed
  rcases listed with (⟨-, rfl⟩ | ⟨-, rfl⟩) | ⟨-, rfl⟩ <;> exact ⟨ElementOperation.noConfusion, rfl⟩

/-- A channel of a method belongs to a method. -/
theorem method_of_channel (listed : channel ∈ channels service)
    (operation : channel.operation = .method) : ∃ method ∈ service.methods, method.channel = channel := by
  rcases mem_channels.mp listed with ⟨event, _, rfl⟩ | method | ⟨field, _, member⟩
  · cases operation
  · exact method
  · exact absurd operation (plain_fieldChannel member).1

/-- A channel agrees with itself when a byte counts its errors. -/
theorem Channel.agrees_self (types : Environment) (small : channel.errors.length ≤ 256) :
    channel.Agrees types types channel where
  id := rfl
  tag := rfl
  name := rfl
  operation := rfl
  request := rfl
  response := rfl
  selection := (selectsAlike_iff (List.Perm.refl _)).mpr ⟨rfl, small⟩
  errors _ _ := rfl

theorem ValidService.methodIds (valid : ValidService service) : (service.methods.map (·.id)).Nodup := by
  have ids := valid.ids
  simp only [elements, List.map_append, List.map_map] at ids
  exact (List.nodup_append.mp (List.nodup_append.mp ids).1).2.1

/-- Methods with the same normalized form differ in the order of their errors only. -/
theorem methodRearranged_of_normalized {method partner : Method}
    (same : normalizedMethod partner = normalizedMethod method) : MethodRearranged method partner := by
  obtain ⟨id, name, tag, input, output, errors, idempotent⟩ := method
  obtain ⟨id', name', tag', input', output', errors', idempotent'⟩ := partner
  simp only [normalizedMethod, Method.mk.injEq] at same
  obtain ⟨rfl, rfl, rfl, rfl, rfl, sorted, rfl⟩ := same
  exact ⟨rfl, (Data.sortBy_id_eq_iff.mp sorted).symm⟩

/-- Services with the same normalized form have the same events and fields and corresponding methods. -/
structure Corresponds (service peer : Service) : Prop where
  id : peer.id = service.id
  version : peer.version = service.version
  events : ∀ event ∈ service.events, event ∈ peer.events
  methods : ∀ method ∈ service.methods, ∃ partner ∈ peer.methods, MethodRearranged method partner
  fields : ∀ field ∈ service.fields, field ∈ peer.fields

theorem exists_of_normalized [LinearOrder K] {key : A → K} {f : A → A} {list other : List A}
    (same : (sortBy key list).map f = (sortBy key other).map f) {a : A} (listed : a ∈ list) :
    ∃ b ∈ other, f b = f a := by
  have mapped : f a ∈ (sortBy key other).map f := same ▸ List.mem_map_of_mem (Data.mem_sortBy.mpr listed)
  obtain ⟨b, member, equal⟩ := List.mem_map.mp mapped
  exact ⟨b, Data.mem_sortBy.mp member, equal⟩

theorem corresponds_of_normalized {peer : Service} (same : normalizedService peer = normalizedService service) :
    Corresponds service peer where
  id := show (normalizedService peer).id = (normalizedService service).id by rw [same]
  version := show (normalizedService peer).version = (normalizedService service).version by rw [same]
  events event listed := by
    have sorted : sortBy (·.tag) peer.events = sortBy (·.tag) service.events := congrArg Service.events same
    exact (Data.perm_of_sortBy_eq sorted).mem_iff.mpr listed
  methods method listed := by
    have sorted := congrArg Service.methods same
    obtain ⟨partner, member, equal⟩ := exists_of_normalized sorted.symm listed
    exact ⟨partner, member, methodRearranged_of_normalized equal⟩
  fields field listed := by
    have sorted : sortBy (·.tag) peer.fields = sortBy (·.tag) service.fields := congrArg Service.fields same
    exact (Data.perm_of_sortBy_eq sorted).mem_iff.mpr listed

section Contracts
variable {model other : Contract}

theorem exists_corresponds (same : normalized model = normalized other)
    (listed : service ∈ model.services) : ∃ peer ∈ other.services, Corresponds service peer := by
  have sorted := congrArg Contract.services same
  obtain ⟨peer, member, equal⟩ := exists_of_normalized sorted listed
  exact ⟨peer, member, corresponds_of_normalized equal⟩

variable {types : Environment}

/-- Agreeing channels of methods select their errors alike. -/
theorem sameErrors_of_agree (clean : validate other = [])
    (same : normalized model = normalized other) (agree : Agree types types model other) : SameErrors model other := by
  intro service listed peer member paired method declared partner answers matched
  obtain ⟨ids, proper⟩ := services_of_validate clean
  obtain ⟨found, inside, identified, _, channels⟩ := agree service listed
  obtain rfl : found = peer := List.inj_on_of_nodup_map ids inside member (identified.trans paired.symm)
  have methodIds := (proper found member).methodIds
  have shown : method.channel ∈ Contract.channels service := mem_channels.mpr (.inr (.inl ⟨method, declared, rfl⟩))
  obtain ⟨skeleton, offered, agrees⟩ := channels _ shown
  obtain ⟨owner, owned, rfl⟩ := method_of_channel offered agrees.operation
  obtain rfl : owner = partner := List.inj_on_of_nodup_map methodIds owned answers (agrees.id.trans matched.symm)
  obtain ⟨twin, present, corresponds⟩ := exists_corresponds same listed
  obtain rfl : twin = found := List.inj_on_of_nodup_map ids present member (corresponds.id.trans identified.symm)
  obtain ⟨image, answering, rearranged⟩ := corresponds.methods method declared
  obtain rfl : image = owner := List.inj_on_of_nodup_map methodIds answering answers (rearranged.id.trans matched.symm)
  exact (selectsAlike_iff rearranged.errors).mp agrees.selection

/-- Contracts with equal normalized forms agree on every channel when their errors stand in the same order. -/
theorem agree_of_sameErrors (same : normalized model = normalized other)
    (errors : SameErrors model other) : Agree types types model other := by
  intro service listed
  obtain ⟨peer, member, corresponds⟩ := exists_corresponds same listed
  refine ⟨peer, member, corresponds.id, corresponds.version, fun proxy shown => ?_⟩
  rcases mem_channels.mp shown with ⟨event, declared, rfl⟩ | ⟨method, declared, rfl⟩ | ⟨field, declared, channel⟩
  · refine ⟨event.channel, mem_channels.mpr (.inl ⟨event, corresponds.events event declared, rfl⟩), ?_⟩
    exact Channel.agrees_self types (Nat.zero_le _)
  · obtain ⟨partner, answers, rearranged⟩ := corresponds.methods method declared
    obtain ⟨ordered, small⟩ :=
      errors service listed peer member corresponds.id method declared partner answers rearranged.id
    have equal : partner = method := by
      rw [rearranged.same, ordered]
    rw [equal] at answers
    exact ⟨method.channel, mem_channels.mpr (.inr (.inl ⟨method, answers, rfl⟩)), Channel.agrees_self types small⟩
  · refine ⟨proxy, mem_channels.mpr (.inr (.inr ⟨field, corresponds.fields field declared, channel⟩)), ?_⟩
    apply Channel.agrees_self types
    rw [(plain_fieldChannel channel).2]
    exact Nat.zero_le _

/-- Valid contracts with equal normalized forms generate the same types. -/
theorem generate_eq_of_normalized (valid : validate model = []) (clean : validate other = [])
    (same : normalized model = normalized other) : generate model = generate other := by
  rw [← generate_normalized (valid_of_validate valid).names, same, generate_normalized (valid_of_validate clean).names]

end Contracts

end Agreement

/-- The normalization is idempotent and does not depend on the order of a valid contract. Valid contracts with
equal normalized forms agree on every message exactly when their methods declare their errors in the same
order, at most as many as a byte counts. -/
theorem fingerprint_agreement (model : Contract) : normalized (normalized model) = normalized model ∧
    (validate model = [] → (∀ other, Rearranged model other → normalized other = normalized model) ∧
      ∀ other proxyTypes skeletonTypes, validate other = [] → generate model = .ok proxyTypes →
        generate other = .ok skeletonTypes → normalized model = normalized other →
          (Agree proxyTypes skeletonTypes model other ↔ SameErrors model other)) := by
  refine ⟨normalized_normalized model, fun valid => ⟨fun other => normalized_eq_of_rearranged valid, ?_⟩⟩
  intro other proxyTypes skeletonTypes clean generated peer same
  have equal := generate_eq_of_normalized valid clean same
  rw [generated, peer] at equal
  cases equal
  exact ⟨sameErrors_of_agree clean same, agree_of_sameErrors same⟩

def doorMethod (errors : List String) : Method where
  id := "00000000-0000-4000-8000-000000000002"
  name := "Open"
  tag := 1
  input := "Angle"
  output := "Angle"
  errors := errors
  idempotent := false

/-- The errors of the method stand in the given order. -/
def doors (types : List TypeDefinition) (errors : List String) : Contract where
  irVersion := 1
  wireFormat := "ovf-tagged-le-v1"
  types := types
  services := [⟨"00000000-0000-4000-8000-000000000001", "Doors", "1.0", [], [doorMethod errors], []⟩]

def angleType : TypeDefinition := ⟨"Angle", .integer 8 false⟩

def lockType : TypeDefinition := ⟨"Locked", .integer 16 false⟩

def doorTypes : Environment := [("Locked", .integer false 2), ("Angle", .integer false 1)]

/-- Two orders of the types do not change the agreement. -/
theorem fingerprint_agreement_doors : Agree doorTypes doorTypes
    (doors [angleType, lockType] ["Angle", "Locked"]) (doors [lockType, angleType] ["Angle", "Locked"]) := by
  apply (((fingerprint_agreement (doors [angleType, lockType] ["Angle", "Locked"])).2 (by decide +kernel)).2
    (doors [lockType, angleType] ["Angle", "Locked"]) doorTypes doorTypes (by decide +kernel) rfl rfl
    (by decide +kernel)).mpr
  intro service listed peer member _ method declared partner answers _
  obtain rfl := List.mem_singleton.mp listed
  obtain rfl := List.mem_singleton.mp member
  obtain rfl := List.mem_singleton.mp declared
  obtain rfl := List.mem_singleton.mp answers
  exact ⟨rfl, by decide⟩

/-- Two orders of the errors have one fingerprint, but the first error of one contract is the second of the
other. -/
theorem fingerprint_hides_order : ∃ model other types, validate model = [] ∧ validate other = [] ∧
    generate model = .ok types ∧ generate other = .ok types ∧ normalized model = normalized other ∧
    ¬Agree types types model other := by
  refine ⟨doors [angleType, lockType] ["Angle", "Locked"], doors [angleType, lockType] ["Locked", "Angle"], doorTypes,
    by decide +kernel, by decide +kernel, rfl, rfl, by decide +kernel, fun agree => ?_⟩
  have errors := sameErrors_of_agree (by decide +kernel) (by decide +kernel) agree _ (List.mem_singleton.mpr rfl) _
    (List.mem_singleton.mpr rfl) rfl _ (List.mem_singleton.mpr rfl) _ (List.mem_singleton.mpr rfl) rfl
  exact absurd errors.1 (by decide)

end OpenVehicle.Com.Contract
