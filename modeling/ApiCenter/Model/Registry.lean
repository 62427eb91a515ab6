import ApiCenter.Model.Kafka
import ApiCenter.Model.Manifest
import ApiCenter.Model.Redis

namespace ApiCenter
open Library

/-- What a value is that the chain of prototypes has under a name: one of the prototypes itself, a
built-in function, or a text or boolean assigned to a prototype. -/
inductive MemberKind where
  | object
  | function
  | primitive (type text : String)
  deriving DecidableEq, Repr

/-- What `services` inherits under a name. `own` is what was assigned to it, and `behind` what was
assigned to `Object.prototype`, at the end of its own chain. -/
structure InheritedMember where
  kind : MemberKind
  own : Changes := {}
  behind : Changes := {}
  deriving DecidableEq, Repr

/-- What its properties are read as. -/
def InheritedMember.seen (m : InheritedMember) : Changes := m.own.inFrontOf m.behind

/-- What `this.services[id]` can be when it is not `undefined`. -/
inductive Found where
  | entry (e : ServiceRegistryEntry)
  | member (m : InheritedMember)
  deriving DecidableEq, Repr

/-- A property that is there when it was assigned to. -/
def assignedValue (o : Option α) : Optional α := (o.map .value).getD .undefined

@[simp] theorem assignedValue_eq_value {o : Option α} {a : α} :
    assignedValue o = .value a ↔ o = some a := by
  cases o <;> simp [assignedValue]

namespace Found

def status : Found → Optional ServiceLifecycleStatus
  | .entry e => .value e.status
  | .member m => assignedValue m.seen.status

def version : Found → Optional String
  | .entry e => e.version
  | .member _ => .undefined

def registeredAt : Found → Optional String
  | .entry e => .value e.registeredAt
  | .member _ => .undefined

/-- No health check is sent for `__proto__`, so the flag is never one of `Object.prototype`. -/
def healthy : Found → Optional Bool
  | .entry e => e.healthy
  | .member m => assignedValue m.own.healthy

def updatedAt : Found → Optional String
  | .entry e => .value e.updatedAt
  | .member m => assignedValue m.seen.updatedAt

def sunsetDate : Found → Optional String
  | .entry e => e.sunsetDate
  | .member m => m.seen.sunsetDate.getD .undefined

def replacementService : Found → Optional String
  | .entry e => e.replacementService
  | .member m => m.seen.replacementService.getD .undefined

/-- `JSON.stringify`. A function has no text, and the empty one is stored for it; a text or boolean
takes no assignment and is never stored. -/
def stringify : Found → RedisValue
  | .entry e => .entry e
  | .member ⟨.object, own, _⟩ => .object own.written
  | .member _ => .malformed

end Found

def Changes.applyTo (c : Changes) (e : ServiceRegistryEntry) : ServiceRegistryEntry :=
  { e with
    status := c.status.getD e.status
    updatedAt := c.updatedAt.getD e.updatedAt
    sunsetDate := c.sunsetDate.getD e.sunsetDate
    replacementService := c.replacementService.getD e.replacementService
    healthy := (c.healthy.map .value).getD e.healthy
    lastHealthCheckAt := (c.lastHealthCheckAt.map .value).getD e.lastHealthCheckAt }

def Changes.applyToMember (c : Changes) (m : InheritedMember) : InheritedMember :=
  { m with own := c.inFrontOf m.own }

/-- The property a call assigns to first. -/
def Changes.first (c : Changes) : String :=
  if c.status.isSome then "status"
  else if c.healthy.isSome then "healthy"
  else "lastHealthCheckAt"

/-- Modules are strict code, where a property of a text or boolean cannot be assigned to. -/
def Found.assign : Found → Changes → Except Thrown Found
  | .entry e, c => .ok (.entry (c.applyTo e))
  | .member m, c =>
    match m.kind with
    | .object | .function => .ok (.member (c.applyToMember m))
    | .primitive type text =>
      .error (.typeError s!"Cannot create property '{c.first}' on {type} '{text}'")

@[simp] theorem Found.assign_entry (e : ServiceRegistryEntry) (c : Changes) :
    (Found.entry e).assign c = .ok (.entry (c.applyTo e)) := rfl

/-- Only what was assigned to is stored, and nothing that was not registered is stored as an
entry. -/
theorem Found.stringify_member_ne (m : InheritedMember) (e : ServiceRegistryEntry) :
    (Found.member m).stringify ≠ .entry e := by
  unfold Found.stringify
  split <;> simp_all

theorem InheritedMember.seen_applyToMember (c : Changes) (m : InheritedMember) :
    (c.applyToMember m).seen = c.inFrontOf m.seen := by
  simp [InheritedMember.seen, Changes.applyToMember, Changes.inFrontOf, Option.or_assoc]

def statusText : Optional ServiceLifecycleStatus → String
  | .value .proposed => "proposed"
  | .value .active => "active"
  | .value .deprecated => "deprecated"
  | .value .retired => "retired"
  | .null => "null"
  | .undefined => "undefined"

/-- The value of the property `key`, if it counts as one. -/
def Changes.property (c : Changes) (key : String) : Option MemberKind :=
  let text (o : Optional String) : Option MemberKind := o.text?.map (.primitive "string")
  match key with
  | "status" => c.status.map fun s => .primitive "string" (statusText (.value s))
  | "updatedAt" => text (assignedValue c.updatedAt)
  | "sunsetDate" => text (c.sunsetDate.getD .undefined)
  | "replacementService" => text (c.replacementService.getD .undefined)
  | "healthy" => if c.healthy = some true then some (.primitive "boolean" "true") else none
  | "lastHealthCheckAt" => text (assignedValue c.lastHealthCheckAt)
  | _ => none

theorem Changes.property_primitive {c : Changes} {key : String} {kind : MemberKind}
    (h : c.property key = some kind) : ∃ type text, kind = .primitive type text := by
  have htext : ∀ o : Optional String, o.text?.map (MemberKind.primitive "string") = some kind →
      ∃ type text, kind = .primitive type text := by
    intro o ho
    obtain ⟨text, -, rfl⟩ := Option.map_eq_some_iff.mp ho
    exact ⟨"string", text, rfl⟩
  unfold Changes.property at h
  split at h
  · obtain ⟨s, -, rfl⟩ := Option.map_eq_some_iff.mp h
    exact ⟨_, _, rfl⟩
  · exact htext _ h
  · exact htext _ h
  · exact htext _ h
  · split at h
    · cases h
      exact ⟨_, _, rfl⟩
    · cases h
  · exact htext _ h
  · cases h

/-- One instance's registry. `redis` says whether the connection is there;
`registryServicesTotal` is the gauge of the metrics service. `inherited` has what was assigned to
the members of `Object.prototype`, with its own properties under `__proto__`; after a reload has
assigned to `services['__proto__']`, `replaced` has those of the object that is the prototype
since. -/
structure RegistryService where
  services : ServiceRegistryMap := .empty
  inherited : Table String Changes := ∅
  replaced : Option Changes := none
  redis : Bool := false
  registryServicesTotal : Nat := 0
  published : List KafkaMessage := []

/-- What a call leaves behind: the registry, the write it sent to Redis, the id
the cache invalidation listeners were told, and what the caller gets. -/
structure Outcome (α : Type) where
  registry : RegistryService
  command : Option RedisCommand := none
  notified : Option String := none
  result : Except Thrown α

/-- How a strict Redis write ends for the caller. -/
inductive Write where
  | acknowledged
  | failed (message : String)
  deriving DecidableEq, Repr

namespace RegistryService

/-- What was assigned to `Object.prototype`, and so is seen through every object without a property
of that name. -/
def assigned (r : RegistryService) : Changes := (r.inherited.lookup "__proto__").getD {}

/-- `this.services['__proto__']` -/
def prototype (r : RegistryService) : InheritedMember :=
  match r.replaced with
  | none => { kind := .object, own := r.assigned }
  | some own => { kind := .object, own := own, behind := r.assigned }

/-- What `services` inherits under the name `id`. -/
def inheritedMember (r : RegistryService) (id : String) : Option InheritedMember :=
  if id = "__proto__" then some r.prototype
  else if id ∈ objectPrototype then
    some { kind := .function, own := (r.inherited.lookup id).getD {}, behind := r.assigned }
  else (r.prototype.seen.property id).map fun kind => { kind := kind, behind := r.assigned }

/-- `this.services[id]` -/
def find (r : RegistryService) (id : String) : Option Found :=
  match r.services.get? id with
  | some e => some (.entry e)
  | none => (r.inheritedMember id).map .member

/-- Keep the assignments made to `this.services[id]`. -/
def store (r : RegistryService) (id : String) : Found → RegistryService
  | .entry e => { r with services := r.services.set id e }
  | .member m =>
    if id = "__proto__" ∧ r.replaced.isSome then { r with replaced := some m.own }
    else { r with inherited := r.inherited.insert id m.own }

def publish (r : RegistryService) (messages : List KafkaMessage) : RegistryService :=
  { r with published := r.published ++ messages }

def countsAsActive (e : ServiceRegistryEntry) : Bool :=
  e.status = .active || e.status = .deprecated

def activeCount (r : RegistryService) : Nat := (r.services.values.filter countsAsActive).length

def syncMetricsGauge (r : RegistryService) : RegistryService :=
  { r with registryServicesTotal := r.activeCount }

def putAndSync (r : RegistryService) (id : String) (e : ServiceRegistryEntry) : RegistryService :=
  { r with services := r.services.set id e }.syncMetricsGauge

def deleteAndSync (r : RegistryService) (id : String) : RegistryService :=
  { r with services := r.services.delete id }.syncMetricsGauge

def persistToRedis (r : RegistryService) (id : String) (found : Found) : Option RedisCommand :=
  if r.redis then some (.hset id found.stringify) else none

def removeFromRedis (r : RegistryService) (id : String) : Option RedisCommand :=
  if r.redis then some (.hdel id) else none

theorem persistToRedis_connected {r : RegistryService} (h : r.redis = true) (id : String)
    (found : Found) : r.persistToRedis id found = some (.hset id found.stringify) := if_pos h

theorem removeFromRedis_connected {r : RegistryService} (h : r.redis = true) (id : String) :
    r.removeFromRedis id = some (.hdel id) := if_pos h

/-- Without a connection no write is sent. -/
theorem persistToRedis_cases (r : RegistryService) (id : String) (found : Found) :
    r.persistToRedis id found = none ∨
      r.persistToRedis id found = some (.hset id found.stringify) := by
  unfold persistToRedis
  split
  · exact .inr rfl
  · exact .inl rfl

theorem removeFromRedis_cases (r : RegistryService) (id : String) :
    r.removeFromRedis id = none ∨ r.removeFromRedis id = some (.hdel id) := by
  unfold removeFromRedis
  split
  · exact .inr rfl
  · exact .inl rfl

@[simp] theorem publish_services (r : RegistryService) (ms : List KafkaMessage) :
    (r.publish ms).services = r.services := rfl

@[simp] theorem publish_inherited (r : RegistryService) (ms : List KafkaMessage) :
    (r.publish ms).inherited = r.inherited := rfl

@[simp] theorem publish_replaced (r : RegistryService) (ms : List KafkaMessage) :
    (r.publish ms).replaced = r.replaced := rfl

@[simp] theorem publish_redis (r : RegistryService) (ms : List KafkaMessage) :
    (r.publish ms).redis = r.redis := rfl

@[simp] theorem publish_gauge (r : RegistryService) (ms : List KafkaMessage) :
    (r.publish ms).registryServicesTotal = r.registryServicesTotal := rfl

@[simp] theorem publish_published (r : RegistryService) (ms : List KafkaMessage) :
    (r.publish ms).published = r.published ++ ms := rfl

@[simp] theorem syncMetricsGauge_services (r : RegistryService) :
    r.syncMetricsGauge.services = r.services := rfl

@[simp] theorem syncMetricsGauge_inherited (r : RegistryService) :
    r.syncMetricsGauge.inherited = r.inherited := rfl

@[simp] theorem syncMetricsGauge_replaced (r : RegistryService) :
    r.syncMetricsGauge.replaced = r.replaced := rfl

@[simp] theorem syncMetricsGauge_redis (r : RegistryService) :
    r.syncMetricsGauge.redis = r.redis := rfl

@[simp] theorem syncMetricsGauge_published (r : RegistryService) :
    r.syncMetricsGauge.published = r.published := rfl

@[simp] theorem putAndSync_services (r : RegistryService) (id : String)
    (e : ServiceRegistryEntry) : (r.putAndSync id e).services = r.services.set id e := rfl

@[simp] theorem putAndSync_redis (r : RegistryService) (id : String)
    (e : ServiceRegistryEntry) : (r.putAndSync id e).redis = r.redis := rfl

@[simp] theorem putAndSync_published (r : RegistryService) (id : String)
    (e : ServiceRegistryEntry) : (r.putAndSync id e).published = r.published := rfl

@[simp] theorem deleteAndSync_services (r : RegistryService) (id : String) :
    (r.deleteAndSync id).services = r.services.delete id := rfl

@[simp] theorem deleteAndSync_redis (r : RegistryService) (id : String) :
    (r.deleteAndSync id).redis = r.redis := rfl

@[simp] theorem deleteAndSync_published (r : RegistryService) (id : String) :
    (r.deleteAndSync id).published = r.published := rfl

/-- What the lookups read besides the entries. -/
theorem inheritedMember_congr {r r' : RegistryService} (hi : r'.inherited = r.inherited)
    (hr : r'.replaced = r.replaced) (id : String) :
    r'.inheritedMember id = r.inheritedMember id := by
  simp only [inheritedMember, prototype, assigned, hi, hr]

theorem find_congr {r r' : RegistryService} (hs : r'.services = r.services)
    (hi : r'.inherited = r.inherited) (hr : r'.replaced = r.replaced) (id : String) :
    r'.find id = r.find id := by
  simp only [find, hs, inheritedMember_congr hi hr]

theorem store_member_cases (r : RegistryService) (id : String) (m : InheritedMember) :
    (id = "__proto__" ∧ r.store id (.member m) = { r with replaced := some m.own }) ∨
      r.store id (.member m) = { r with inherited := r.inherited.insert id m.own } := by
  simp only [store]
  split
  · rename_i h
    exact .inl ⟨h.1, rfl⟩
  · exact .inr rfl

@[simp] theorem store_member_services (r : RegistryService) (id : String) (m : InheritedMember) :
    (r.store id (.member m)).services = r.services := by
  rcases r.store_member_cases id m with ⟨-, h⟩ | h <;> rw [h]

@[simp] theorem store_redis (r : RegistryService) (id : String) (found : Found) :
    (r.store id found).redis = r.redis := by
  cases found with
  | entry e => rfl
  | member m => rcases r.store_member_cases id m with ⟨-, h⟩ | h <;> rw [h]

@[simp] theorem store_published (r : RegistryService) (id : String) (found : Found) :
    (r.store id found).published = r.published := by
  cases found with
  | entry e => rfl
  | member m => rcases r.store_member_cases id m with ⟨-, h⟩ | h <;> rw [h]

@[simp] theorem store_gauge (r : RegistryService) (id : String) (found : Found) :
    (r.store id found).registryServicesTotal = r.registryServicesTotal := by
  cases found with
  | entry e => rfl
  | member m => rcases r.store_member_cases id m with ⟨-, h⟩ | h <;> rw [h]

theorem assigned_congr {r r' : RegistryService} (h : r'.inherited = r.inherited) :
    r'.assigned = r.assigned := by
  rw [assigned, h, ← assigned]

theorem assigned_store_member {r : RegistryService} (h : r.replaced = none) (id : String)
    (m : InheritedMember) :
    (r.store id (.member m)).assigned = if id = "__proto__" then m.own else r.assigned := by
  have hstore : r.store id (.member m) = { r with inherited := r.inherited.insert id m.own } := by
    simp [store, h]
  rw [hstore]
  split
  · rename_i hid
    simp [assigned, hid]
  · rename_i hid
    simp [assigned, Ne.symm hid]

theorem replaced_store {r : RegistryService} (h : r.replaced = none) (id : String) (found : Found) :
    (r.store id found).replaced = none := by
  cases found with
  | entry e => exact h
  | member m => simp [store, h]

/-- `services['__proto__']`, while that is `Object.prototype`. -/
theorem find_proto {r : RegistryService} (h : r.replaced = none) :
    r.find "__proto__" = some (.member { kind := .object, own := r.assigned }) := by
  simp [find, inheritedMember, prototype, h]

theorem assign_member_ok {m : InheritedMember} {c : Changes} {found : Found}
    (h : (Found.member m).assign c = .ok found) :
    found = .member (c.applyToMember m) ∧ ∀ type text, m.kind ≠ .primitive type text := by
  unfold Found.assign at h
  cases hk : m.kind with
  | object | function =>
    simp only [hk] at h
    cases h
    exact ⟨rfl, by simp⟩
  | primitive type text =>
    simp only [hk] at h
    cases h

theorem find_entry_iff (r : RegistryService) (id : String) (e : ServiceRegistryEntry) :
    r.find id = some (.entry e) ↔ r.services.get? id = some e := by
  unfold find
  cases h : r.services.get? id with
  | some e' => simp
  | none => simp

theorem find_of_get? {r : RegistryService} {id : String} {e : ServiceRegistryEntry}
    (h : r.services.get? id = some e) : r.find id = some (.entry e) :=
  (find_entry_iff r id e).mpr h

theorem find_member_iff (r : RegistryService) (id : String) (m : InheritedMember) :
    r.find id = some (.member m) ↔
      r.services.get? id = none ∧ r.inheritedMember id = some m := by
  unfold find
  cases h : r.services.get? id with
  | some e => simp
  | none => simp

theorem find_none_iff (r : RegistryService) (id : String) :
    r.find id = none ↔ r.services.get? id = none ∧ r.inheritedMember id = none := by
  unfold find
  cases h : r.services.get? id with
  | some e => simp
  | none => simp

/-- What was assigned is found again. -/
theorem find_store_member {r : RegistryService} {id : String} {m : InheritedMember} (c : Changes)
    (hf : r.find id = some (.member m)) (hk : ∀ type text, m.kind ≠ .primitive type text) :
    (r.store id (.member (c.applyToMember m))).find id = some (.member (c.applyToMember m)) := by
  obtain ⟨hnone, hm⟩ := (r.find_member_iff id m).mp hf
  refine (find_member_iff _ _ _).mpr ⟨by rw [store_member_services, hnone], ?_⟩
  unfold inheritedMember at hm ⊢
  split at hm
  · rename_i hid
    subst hid
    cases hr : r.replaced with
    | none =>
      simp only [prototype, hr, assigned, Option.some.injEq] at hm
      simp [store, prototype, hr, assigned, ← hm, Changes.applyToMember]
    | some own =>
      simp only [prototype, hr, Option.some.injEq] at hm
      simp [store, prototype, hr, assigned, ← hm, Changes.applyToMember]
  · rename_i hid
    split at hm
    · rename_i hp
      simp only [Option.some.injEq] at hm
      simp [store, hid, hp, assigned, ← hm, Changes.applyToMember, Ne.symm hid]
    · obtain ⟨kind, hproperty, rfl⟩ := Option.map_eq_some_iff.mp hm
      obtain ⟨type, text, rfl⟩ := Changes.property_primitive hproperty
      exact absurd rfl (hk type text)

/-- While `Object.prototype` is the prototype of `services`, they inherit its built-in members and
what was assigned to it. -/
theorem inheritedMember_eq_none_iff {r : RegistryService} (h : r.replaced = none) (id : String) :
    r.inheritedMember id = none ↔ id ∉ objectPrototype ∧ r.assigned.property id = none := by
  have hseen : r.prototype.seen = r.assigned := by
    simp [prototype, h, InheritedMember.seen]
  unfold inheritedMember
  split
  · rename_i hid
    simp [hid, objectPrototype]
  · split <;> simp_all

/-- Nothing was assigned to `Object.prototype`, and it is the prototype of `services`. -/
structure Pristine (r : RegistryService) : Prop where
  assigned : r.assigned = {}
  replaced : r.replaced = none

/-- The names `services` then inherits are the built-in ones. -/
theorem Pristine.inheritedMember_eq_none_iff {r : RegistryService} (h : r.Pristine) (id : String) :
    r.inheritedMember id = none ↔ id ∉ objectPrototype := by
  have hproperty : Changes.property {} id = none := by
    unfold Changes.property
    split <;> rfl
  rw [RegistryService.inheritedMember_eq_none_iff h.replaced, h.assigned]
  exact and_iff_left hproperty

theorem Pristine.mem_of_find_member {r : RegistryService} (h : r.Pristine) {id : String}
    {m : InheritedMember} (hf : r.find id = some (.member m)) : id ∈ objectPrototype := by
  by_contra hid
  have hm := ((r.find_member_iff id m).mp hf).2
  rw [(h.inheritedMember_eq_none_iff id).mpr hid] at hm
  cases hm

theorem Pristine.find_own {r : RegistryService} (h : r.Pristine) {id : String}
    (hid : id ∉ objectPrototype) : r.find id = (r.services.get? id).map .entry := by
  unfold find
  rw [(h.inheritedMember_eq_none_iff id).mpr hid]
  cases r.services.get? id <;> rfl

end RegistryService

end ApiCenter
