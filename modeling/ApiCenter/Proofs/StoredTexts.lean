import ApiCenter.Library.Runs
import ApiCenter.Model.RedisTexts
import ApiCenter.Proofs.Calls
import ApiCenter.Proofs.JsonRoundTrip

namespace ApiCenter.Proofs.StoredTexts
open Library Json JsonRoundTrip

theorem lookup_object {payload : Payload} (h : (payload.map Prod.fst).Nodup) (key : String) :
    payload.object.get? key = (payload.lookup key).join := by
  have hlookup := Fields.lookup_keep id h key
  cases hp : payload.lookup key with
  | none => simpa [Payload.object, get?, hp] using hlookup
  | some value => simpa [Payload.object, get?, hp] using hlookup

/-- A property whose value, if it has one, can be written. -/
def Writable (o : Option Json) : Prop := ∀ value, o = some value → value.Proper

theorem writable_some {value : Json} (h : value.Proper) : Writable (some value) := by
  intro v hv
  cases hv
  exact h

theorem writable_optional (write : α → Json) (h : ∀ a, (write a).Proper) (o : Optional α) :
    Writable (o.json write) := by
  cases o with
  | undefined => nofun
  | null => exact writable_some trivial
  | value a => exact writable_some (h a)

theorem proper_object {payload : Payload} (h : (payload.map Prod.fst).Nodup)
    (hw : ∀ field ∈ payload, Writable field.2) : payload.object.Proper := by
  refine proper_object_iff.mpr ⟨Fields.nodup_keep id h, ?_⟩
  intro field hf
  obtain ⟨value, hmem, hval⟩ := Fields.mem_keep.mp (show (field.1, field.2) ∈ _ from hf)
  exact hw _ hmem _ hval

theorem proper_strings (texts : List String) : (strings texts).Proper := by
  refine itemsProper_iff.mpr ?_
  intro item hi
  obtain ⟨s, -, rfl⟩ := List.mem_map.mp hi
  trivial

theorem writable_properties (e : ServiceRegistryEntry) :
    ∀ field ∈ e.properties, Writable field.2 := by
  have text : ∀ s, Writable (some (.string s)) := fun _ => writable_some trivial
  have texts : ∀ ss, Writable (some (strings ss)) := fun ss => writable_some (proper_strings ss)
  have text? : ∀ o, Writable (Optional.json Json.string o) :=
    writable_optional Json.string fun _ => trivial
  simp only [ServiceRegistryEntry.properties, List.forall_mem_cons]
  refine ⟨text _, text _, text _, texts _, texts _, texts _, ?_, text? _, text? _, text? _, ?_,
    text? _, text? _, ?_, text? _, text? _, text? _, text _, text _, ?_, text? _, ?_, text? _,
    nofun⟩
  · exact writable_optional ServiceType.json (fun t => by cases t <;> trivial) _
  · exact writable_optional strings proper_strings _
  · exact writable_optional ServiceTier.json (fun t => by cases t <;> trivial) _
  · exact writable_some (by cases e.status <;> trivial)
  · exact writable_optional Json.bool (fun _ => trivial) _

def propertyKeys : List String :=
  ["serviceId", "name", "baseUrl", "requiredScopes", "exposes", "consumes", "serviceType",
    "healthCheck", "version", "description", "tags", "ownerTeam", "contact", "serviceTier",
    "costCenter", "sunsetDate", "replacementService", "registeredAt", "updatedAt", "status",
    "previousVersion", "healthy", "lastHealthCheckAt"]

theorem properties_keys (e : ServiceRegistryEntry) : e.properties.map Prod.fst = propertyKeys := rfl

theorem nodup_properties (e : ServiceRegistryEntry) : (e.properties.map Prod.fst).Nodup := by
  rw [properties_keys]
  decide

theorem asStringArray_strings (texts : List String) :
    (strings texts).asStringArray = some texts := by
  induction texts with
  | nil => rfl
  | cons s texts ih =>
    simp only [strings, asStringArray, List.map_cons, List.mapM_cons, asString] at ih ⊢
    simp [ih]

/-- A property of some type that is written one way and read back. -/
def ReadsAs (write : α → Json) (read : Json → Option α) : Prop :=
  ∀ a, read (write a) = some a ∧ write a ≠ .null

theorem readsAs_string : ReadsAs Json.string asString := fun _ => ⟨rfl, nofun⟩

theorem readsAs_boolean : ReadsAs Json.bool asBoolean := fun _ => ⟨rfl, nofun⟩

theorem readsAs_strings : ReadsAs strings asStringArray :=
  fun texts => ⟨asStringArray_strings texts, nofun⟩

theorem readsAs_serviceType : ReadsAs ServiceType.json asServiceType := by
  intro t
  cases t <;> exact ⟨rfl, nofun⟩

theorem readsAs_serviceTier : ReadsAs ServiceTier.json asServiceTier := by
  intro t
  cases t <;> exact ⟨rfl, nofun⟩

theorem readsAs_status : ReadsAs ServiceLifecycleStatus.json asStatus := by
  intro status
  cases status <;> exact ⟨rfl, nofun⟩

theorem required_of_get? {write : α → Json} {read : Json → Option α} (h : ReadsAs write read)
    {j : Json} {key : String} {a : α} (hj : j.get? key = some (write a)) :
    j.required read key = some a := by
  unfold Json.required
  rw [hj]
  exact (h a).1

theorem optional_of_ne_null {read : Json → Option α} {j value : Json} {key : String}
    (hj : j.get? key = some value) (hn : value ≠ .null) :
    j.optional read key = (read value).map .value := by
  unfold Json.optional
  rw [hj]
  cases value with
  | null => exact absurd rfl hn
  | bool | number | string | array | object => rfl

theorem optional_of_get? {write : α → Json} {read : Json → Option α} (h : ReadsAs write read)
    {j : Json} {key : String} {o : Optional α} (hj : j.get? key = o.json write) :
    j.optional read key = some o := by
  cases o with
  | undefined =>
    unfold Json.optional
    rw [hj]
    rfl
  | null =>
    unfold Json.optional
    rw [hj]
    rfl
  | value a =>
    obtain ⟨hread, hnull⟩ := h a
    rw [optional_of_ne_null hj hnull, hread]
    rfl

/-- The properties of an entry give the entry back in whatever order they are listed. -/
theorem asEntry_object {e : ServiceRegistryEntry} {payload : Payload}
    (h : payload.Perm e.properties) : payload.object.asEntry = some e := by
  have hnodup : (payload.map Prod.fst).Nodup :=
    (h.map Prod.fst).nodup_iff.mpr (nodup_properties e)
  have hget : ∀ key, payload.object.get? key = (e.properties.lookup key).join := by
    intro key
    rw [lookup_object hnodup, Fields.lookup_perm h hnodup]
  have text : ∀ key s, (e.properties.lookup key).join = some (.string s) →
      payload.object.required asString key = some s := fun key s hk =>
    required_of_get? readsAs_string ((hget key).trans hk)
  have texts : ∀ key ss, (e.properties.lookup key).join = some (strings ss) →
      payload.object.required asStringArray key = some ss := fun key ss hk =>
    required_of_get? readsAs_strings ((hget key).trans hk)
  have text? : ∀ key o, (e.properties.lookup key).join = Optional.json Json.string o →
      payload.object.optional asString key = some o := fun key o hk =>
    optional_of_get? readsAs_string ((hget key).trans hk)
  have texts? : payload.object.optional asStringArray "tags" = some e.tags :=
    optional_of_get? readsAs_strings (hget "tags")
  have type? : payload.object.optional asServiceType "serviceType" = some e.serviceType :=
    optional_of_get? readsAs_serviceType (hget "serviceType")
  have tier? : payload.object.optional asServiceTier "serviceTier" = some e.serviceTier :=
    optional_of_get? readsAs_serviceTier (hget "serviceTier")
  have status : payload.object.required asStatus "status" = some e.status :=
    required_of_get? readsAs_status (hget "status")
  have healthy? : payload.object.optional asBoolean "healthy" = some e.healthy :=
    optional_of_get? readsAs_boolean (hget "healthy")
  simp only [asEntry, text "serviceId" _ rfl, text "name" _ rfl, text "baseUrl" _ rfl,
    texts "requiredScopes" _ rfl, texts "exposes" _ rfl, texts "consumes" _ rfl, type?,
    text? "healthCheck" _ rfl, text? "version" _ rfl, text? "description" _ rfl, texts?,
    text? "ownerTeam" _ rfl, text? "contact" _ rfl, tier?, text? "costCenter" _ rfl,
    text? "sunsetDate" _ rfl, text? "replacementService" _ rfl, text "registeredAt" _ rfl,
    text "updatedAt" _ rfl, status, text? "previousVersion" _ rfl, healthy?,
    text? "lastHealthCheckAt" _ rfl]
  rfl

variable {rendering : Rendering} {ι : Type} [DecidableEq ι]

/-- A value that `JSON.stringify` can have written: it drops what is `undefined`. -/
def Stored : RedisValue → Prop
  | .object own => own.written = own
  | .entry _ | .malformed => True

theorem written_idem (c : Changes) : c.written.written = c.written := by
  simp [Changes.written, Option.filter_filter]

theorem stored_stringify (found : Found) : Stored found.stringify := by
  unfold Found.stringify
  split
  · trivial
  · exact written_idem _
  · trivial

theorem nodup_changes (c : Changes) : (c.properties.map Prod.fst).Nodup := by
  change ["status", "updatedAt", "sunsetDate", "replacementService", "healthy",
    "lastHealthCheckAt"].Nodup
  decide

theorem writable_map (write : α → Json) (h : ∀ a, (write a).Proper) (o : Option α) :
    Writable (o.map write) := by
  intro value hv
  obtain ⟨a, -, rfl⟩ := Option.map_eq_some_iff.mp hv
  exact h a

theorem writable_changes (c : Changes) : ∀ field ∈ c.properties, Writable field.2 := by
  have nullable : ∀ o : Option (Optional String),
      Writable (o.bind (Optional.json Json.string)) := by
    intro o value hv
    obtain ⟨property, -, hp⟩ := Option.bind_eq_some_iff.mp hv
    exact writable_optional Json.string (fun _ => trivial) property value hp
  simp only [Changes.properties, List.forall_mem_cons]
  refine ⟨writable_map _ (fun status => by cases status <;> trivial) _,
    writable_map Json.string (fun _ => trivial) _, nullable _, nullable _,
    writable_map Json.bool (fun _ => trivial) _, writable_map Json.string (fun _ => trivial) _,
    nofun⟩

/-- What was assigned to an object that is no entry is not read as one. -/
theorem asEntry_changes {c : Changes} {payload : Payload} (h : payload.Perm c.properties) :
    payload.object.asEntry = none := by
  have hnodup : (payload.map Prod.fst).Nodup := (h.map Prod.fst).nodup_iff.mpr (nodup_changes c)
  have hget : payload.object.get? "serviceId" = none := by
    rw [lookup_object hnodup, Fields.lookup_perm h hnodup]
    rfl
  have hid : payload.object.required asString "serviceId" = none := by
    unfold Json.required
    rw [hget]
    rfl
  unfold asEntry
  rw [hid]
  rfl

theorem assigned_of_get? {write : α → Json} {read : Json → Option α} (h : ReadsAs write read)
    {j : Json} {key : String} {o : Option α} (hj : j.get? key = o.map write) :
    j.assigned read key = some o := by
  unfold Json.assigned
  rw [hj]
  cases o with
  | none => rfl
  | some a => simp only [Option.map_some, (h a).1]

theorem assigned_of_nullable {j : Json} {key : String} {o : Option (Optional String)}
    (hj : j.get? key = o.bind (Optional.json .string)) (hw : o.filter (· ≠ .undefined) = o) :
    j.assigned asNullableString key = some o := by
  unfold Json.assigned
  rw [hj]
  cases o with
  | none => rfl
  | some property =>
    cases property with
    | undefined => cases hw
    | null | value s => rfl

/-- The properties of an object that is no entry are read in whatever order they are listed. -/
theorem asChanges_object {c : Changes} (hw : c.written = c) {payload : Payload}
    (h : payload.Perm c.properties) : payload.object.asChanges = some c := by
  have hnodup : (payload.map Prod.fst).Nodup := (h.map Prod.fst).nodup_iff.mpr (nodup_changes c)
  have hget : ∀ key, payload.object.get? key = (c.properties.lookup key).join := by
    intro key
    rw [lookup_object hnodup, Fields.lookup_perm h hnodup]
  have status := assigned_of_get? readsAs_status (hget "status")
  have updatedAt := assigned_of_get? readsAs_string (hget "updatedAt")
  have sunsetDate := assigned_of_nullable (hget "sunsetDate") (congrArg Changes.sunsetDate hw)
  have replacementService :=
    assigned_of_nullable (hget "replacementService") (congrArg Changes.replacementService hw)
  have healthy := assigned_of_get? readsAs_boolean (hget "healthy")
  have lastHealthCheckAt := assigned_of_get? readsAs_string (hget "lastHealthCheckAt")
  unfold Payload.object at *
  simp only [asChanges, status, updatedAt, sunsetDate, replacementService, healthy,
    lastHealthCheckAt]
  rfl

/-- What a value is written as is read as that value. -/
theorem readRedisValue_text (rendering : Rendering) {value : RedisValue} (h : Stored value) :
    readRedisValue (rendering.text value) = value := by
  cases value with
  | malformed => rfl
  | entry e =>
    have hperm := rendering.perm e
    have hnodup : ((rendering.properties e).map Prod.fst).Nodup :=
      (hperm.map Prod.fst).nodup_iff.mpr (nodup_properties e)
    have hproper : (rendering.properties e).object.Proper :=
      proper_object hnodup fun field hf => writable_properties e field (hperm.mem_iff.mp hf)
    simp only [readRedisValue, Rendering.text, parse_stringify hproper, asEntry_object hperm]
  | object own =>
    have hperm := rendering.permOwn own
    have hnodup : ((rendering.own own).map Prod.fst).Nodup :=
      (hperm.map Prod.fst).nodup_iff.mpr (nodup_changes own)
    have hproper : (rendering.own own).object.Proper :=
      proper_object hnodup fun field hf => writable_changes own field (hperm.mem_iff.mp hf)
    simp only [readRedisValue, Rendering.text, parse_stringify hproper, asEntry_changes hperm,
      asChanges_object h hperm, Option.map_some, Option.getD_some]

/-- The hash with every text read. -/
abbrev valuesOf (texts : RedisTexts) : RedisHash := Table.mapValues readRedisValue texts

theorem lookup_valuesOf (texts : RedisTexts) (id : String) :
    (valuesOf texts).lookup id = (texts.lookup id).map readRedisValue :=
  Table.lookup_mapValues readRedisValue texts id

/-- The values a command can write. -/
def Sendable (command : Option RedisCommand) : Prop :=
  ∀ field value, command = some (.hset field value) → Stored value

theorem sendable_none : Sendable none := by
  intro field value h
  cases h

theorem sendable_persist (r : RegistryService) (id : String) (found : Found) :
    Sendable (r.persistToRedis id found) := by
  intro field value h
  rcases r.persistToRedis_cases id found with hp | hp
  · rw [hp] at h
    cases h
  · rw [hp] at h
    cases h
    exact stored_stringify found

theorem sendable_effect {r : RegistryService} {now : String} {write : Write} {c : RegistryCall}
    {services : ServiceRegistryMap} {command : Option RedisCommand}
    (h : Calls.Effect r now write c services command) : Sendable command := by
  cases h with
  | kept => exact sendable_none
  | registered ha hw => exact sendable_persist r _ _
  | rolledBack ha hr hw => exact sendable_persist r _ _
  | @deregistered found id hf =>
    intro field value h
    rcases r.removeFromRedis_cases id with hp | hp <;> rw [hp] at h <;> cases h
  | moved he hm => exact sendable_persist r _ _
  | touched he => exact sendable_none
  | movedMember hf hm hk => exact sendable_persist r _ _

theorem sendable_call (r : RegistryService) (c : RegistryCall) (now : String) (write : Write) :
    Sendable (r.call c now write).command := sendable_effect (Calls.call_effect r c now write)

theorem valuesOf_execute (rendering : Rendering) {command : Option RedisCommand}
    (h : Sendable command) (texts : RedisTexts) :
    valuesOf (RedisTexts.execute rendering command texts) = execute command (valuesOf texts) := by
  cases command with
  | none => rfl
  | some c =>
    cases c with
    | hset field value =>
      refine (Table.mapValues_insert readRedisValue texts field _).trans ?_
      rw [readRedisValue_text rendering (h field value rfl)]
      rfl
    | hdel field => exact Table.mapValues_erase readRedisValue texts field

theorem assignAll_valuesOf (services : ServiceRegistryMap) (texts : RedisTexts) :
    services.assignAll readEntry texts = services.assignAll RedisValue.parse (valuesOf texts) := by
  simp only [PlainObject.assignAll, valuesOf, Table.mapValues, List.foldl_map]
  rfl

theorem loadEntries_valuesOf (r : RegistryService) (texts : RedisTexts) :
    RedisTexts.loadEntries r texts = r.loadEntries (valuesOf texts) := by
  unfold RedisTexts.loadEntries RegistryService.loadEntries
  rewrite [assignAll_valuesOf, lookup_valuesOf]
  rcases (texts.lookup "__proto__").map readRedisValue with _ | _ | _ | _ <;> rfl

theorem loadFromRedis_valuesOf (r : RegistryService) (texts : RedisTexts) :
    RedisTexts.loadFromRedis r texts = r.loadFromRedis (valuesOf texts) := by
  unfold RedisTexts.loadFromRedis RegistryService.loadFromRedis
  rw [loadEntries_valuesOf]

theorem reconcile_valuesOf (r : RegistryService) (texts : RedisTexts) :
    RedisTexts.reconcile r texts = r.reconcile (valuesOf texts) (valuesOf texts) := by
  unfold RedisTexts.reconcile RegistryService.reconcile
  rw [loadEntries_valuesOf]
  unfold RedisTexts.getRedisEntries RegistryService.getRedisEntries
  rw [assignAll_valuesOf]

/-- A deployment with every text of its hash read. -/
def read (s : Deployment ι String) : Deployment ι RedisValue :=
  { instances := s.instances, hash := valuesOf s.hash }

/-- Reading the texts before an operation or after it makes no difference. -/
theorem read_step (s : Deployment ι String) (a : DeploymentAction ι) :
    read (s.step a) = (read s).abstractStep a := by
  obtain ⟨i, action, rendering⟩ := a
  cases action with
  | call c now write applied =>
    cases applied with
    | false => rfl
    | true =>
      simp only [Deployment.step, Deployment.abstractStep, read, Node.step, if_true,
        valuesOf_execute rendering (sendable_call (s.instances i) c now write)]
  | loadFromRedis =>
    simp only [Deployment.step, Deployment.abstractStep, read, Node.step, loadFromRedis_valuesOf]
  | handleRedisDriftReconciliation =>
    simp only [Deployment.step, Deployment.abstractStep, read, Node.step, reconcile_valuesOf]
  | restart =>
    simp only [Deployment.step, Deployment.abstractStep, read, Node.step, RedisTexts.boot,
      RegistryService.boot, loadFromRedis_valuesOf]

theorem read_run (s : Deployment ι String) (as : List (DeploymentAction ι)) :
    read (Runs.final Deployment.step s as) = Runs.final Deployment.abstractStep (read s) as := by
  induction as generalizing s with
  | nil => rfl
  | cons a as ih => rw [Runs.final_cons, Runs.final_cons, ih, read_step]

/-- Every text of the hash was written by a gateway. -/
def Written (texts : RedisTexts) : Prop :=
  ∀ id json, texts.lookup id = some json →
    ∃ (rendering : Rendering) (value : RedisValue), Stored value ∧ json = rendering.text value

theorem written_execute {texts : RedisTexts} (h : Written texts) (rendering : Rendering)
    {command : Option RedisCommand} (hc : Sendable command) :
    Written (RedisTexts.execute rendering command texts) := by
  intro id json hjson
  cases command with
  | none => exact h id json hjson
  | some c =>
    cases c with
    | hset field value =>
      change (texts.insert field (rendering.text value)).lookup id = some json at hjson
      rw [Table.lookup_insert_if] at hjson
      split at hjson
      · exact ⟨rendering, value, hc field value rfl, (Option.some.inj hjson).symm⟩
      · exact h id json hjson
    | hdel field =>
      change (texts.erase field).lookup id = some json at hjson
      rw [Table.lookup_erase_if] at hjson
      split at hjson
      · cases hjson
      · exact h id json hjson

theorem written_step {s : Deployment ι String} (h : Written s.hash) (a : DeploymentAction ι) :
    Written (s.step a).hash := by
  obtain ⟨i, action, rendering⟩ := a
  cases action with
  | call c now write applied =>
    cases applied with
    | false => exact h
    | true => exact written_execute h rendering (sendable_call (s.instances i) c now write)
  | loadFromRedis => exact h
  | handleRedisDriftReconciliation => exact h
  | restart => exact h

/-- A record holds an entry exactly when its text is one that entry is written as. -/
theorem lookup_entry_iff {texts : RedisTexts} (h : Written texts) (id : String)
    (e : ServiceRegistryEntry) : (valuesOf texts).lookup id = some (.entry e) ↔
      ∃ rendering : Rendering, texts.lookup id = some (rendering.text (.entry e)) := by
  rw [lookup_valuesOf, Option.map_eq_some_iff]
  constructor
  · intro hv
    obtain ⟨json, hjson, hval⟩ := hv
    obtain ⟨rendering, value, hstored, rfl⟩ := h id json hjson
    rw [readRedisValue_text rendering hstored] at hval
    subst hval
    exact ⟨rendering, hjson⟩
  · intro hr
    obtain ⟨rendering, hjson⟩ := hr
    exact ⟨_, hjson, @readRedisValue_text rendering (.entry e) trivial⟩

/-- In a run, the texts of the hash do as well as the entries they stand for. -/
structure Transparent (s : Deployment ι String) (as : List (DeploymentAction ι)) : Prop where
  registries : (Runs.final Deployment.step s as).instances =
    (Runs.final Deployment.abstractStep (read s) as).instances
  records : ∀ id e,
    (Runs.final Deployment.abstractStep (read s) as).hash.lookup id = some (.entry e) ↔
      ∃ rendering : Rendering,
        (Runs.final Deployment.step s as).hash.lookup id = some (rendering.text (.entry e))

/-- Instances that share the texts of a hash come to the registries they would have if the hash
held entries, and its records are these entries in writing. -/
theorem texts_transparent (s : Deployment ι String) (as : List (DeploymentAction ι))
    (h : Written s.hash) : Transparent s as := by
  have hrun := read_run s as
  have hwritten : Written (Runs.final Deployment.step s as).hash :=
    Runs.invariant_reached (I := fun s : Deployment ι String => Written s.hash)
      (fun _ a hw => written_step hw a) h as
  constructor
  · rw [← hrun]
    rfl
  · rw [← hrun]
    exact lookup_entry_iff hwritten

/-- The order of the type. -/
def inTypeOrder : Rendering where
  properties := ServiceRegistryEntry.properties
  perm _ := .refl _
  own := Changes.properties
  permOwn _ := .refl _

/-- Every property listed the other way round. -/
def reversed : Rendering where
  properties e := e.properties.reverse
  perm e := List.reverse_perm e.properties
  own c := c.properties.reverse
  permOwn c := List.reverse_perm c.properties

/-- Two instances; the first registers `orders`, the second comes up later and deprecates it. -/
def twoGateways : List (DeploymentAction Bool) :=
  [⟨true, .call (.register (Calls.manifestOf "orders" "http://orders:1" "1.0.0")) "t0"
      .acknowledged true, inTypeOrder⟩,
    ⟨false, .restart, inTypeOrder⟩,
    ⟨false, .call (.lifecycle (.deprecateService "orders" (.value "2027") .undefined)) "t1"
      .acknowledged true, reversed⟩]

theorem texts_transparent_orders :
    Transparent ⟨fun _ => { redis := true }, ∅⟩ twoGateways :=
  texts_transparent ⟨fun _ => { redis := true }, ∅⟩ twoGateways fun id json h => by simp at h

end ApiCenter.Proofs.StoredTexts
