import ApiCenter.Model.Access
import ApiCenter.Model.Node
import ApiCenter.Proofs.Reload

namespace ApiCenter.Proofs.Restart
open Library Calls Reload

/-- Memory and the hash hold the same up to `lastHealthCheckAt`, and no built-in member has been
assigned to. -/
structure Persisted (s : Node) : Prop where
  redis : s.registry.redis = true
  inherited : s.registry.inherited = ∅
  replaced : s.registry.replaced = none
  same : records s.hash = inMemory s.registry.services

/-- A call whose command Redis executes. -/
def applied (p : RegistryCall × String) : NodeAction := .call p.1 p.2 .acknowledged true

/-- What the two registries give to a caller. -/
structure Alike (r r' : RegistryService) : Prop where
  ids : ∀ id, id ∈ r.services.keys ↔ id ∈ r'.services.keys
  entries : ∀ id, (r.services.get? id).map (·.unchecked) = (r'.services.get? id).map (·.unchecked)
  isRoutable : ∀ id, r.isRoutable id = r'.isRoutable id
  canConsume : ∀ source target, r.canConsume source target = r'.canConsume source target
  getRequiredScopes : ∀ id, r.getRequiredScopes id = r'.getRequiredScopes id
  resolveUpstream : ∀ id path, r.resolveUpstream id path = r'.resolveUpstream id path
  getByType : ∀ type e, e ∈ (r.getByType type).map (·.unchecked) ↔
    e ∈ (r'.getByType type).map (·.unchecked)
  count : r.count = r'.count

variable {r r' : RegistryService} {hash : RedisHash} {s : Node}

theorem map_unchecked_congr (h : inMemory r.services = inMemory r'.services) (id : String) :
    (r.services.get? id).map (·.unchecked) = (r'.services.get? id).map (·.unchecked) := by
  have hentry : Function.Injective RedisValue.entry := by
    intro e e' he
    cases he
    rfl
  apply Option.map_injective hentry
  rw [Option.map_map, Option.map_map]
  exact congrFun h id

theorem Persisted.pristine (h : Persisted s) : s.registry.Pristine :=
  ⟨by simp [RegistryService.assigned, h.inherited], h.replaced⟩

/-- Both find nothing, the same inherited member, or entries equal up to `lastHealthCheckAt`. -/
theorem find_cases (h : inMemory r.services = inMemory r'.services)
    (hi : r.inherited = r'.inherited) (hr : r.replaced = r'.replaced) (id : String) :
    r.find id = r'.find id ∨
      ∃ e e', r.find id = some (.entry e) ∧ r'.find id = some (.entry e') ∧
        e.unchecked = e'.unchecked := by
  have hid := map_unchecked_congr h id
  unfold RegistryService.find
  cases hs : r.services.get? id with
  | none =>
    cases hs' : r'.services.get? id with
    | none => exact .inl (by rw [RegistryService.inheritedMember_congr hi hr])
    | some e' => simp [hs, hs'] at hid
  | some e =>
    cases hs' : r'.services.get? id with
    | none => simp [hs, hs'] at hid
    | some e' =>
      rw [hs, hs', Option.map_some, Option.map_some, Option.some.injEq] at hid
      exact .inr ⟨e, e', rfl, rfl, hid⟩

/-- Nothing a caller asks for reads `lastHealthCheckAt`. -/
theorem unchecked_fields {e e' : ServiceRegistryEntry} (h : e.unchecked = e'.unchecked) :
    e.status = e'.status ∧ e.healthy = e'.healthy ∧ e.consumes = e'.consumes ∧
      e.requiredScopes = e'.requiredScopes ∧ e.baseUrl = e'.baseUrl ∧
      e.serviceType = e'.serviceType :=
  ⟨congrArg (·.status) h, congrArg (·.healthy) h, congrArg (·.consumes) h,
    congrArg (·.requiredScopes) h, congrArg (·.baseUrl) h, congrArg (·.serviceType) h⟩

theorem getByType_subset (h : inMemory r.services = inMemory r'.services) (type : ServiceType)
    (e : ServiceRegistryEntry) (he : e ∈ (r.getByType type).map (·.unchecked)) :
    e ∈ (r'.getByType type).map (·.unchecked) := by
  obtain ⟨svc, hsvc, rfl⟩ := List.mem_map.mp he
  obtain ⟨hval, htype⟩ := List.mem_filter.mp hsvc
  obtain ⟨id, hid⟩ := (PlainObject.mem_values_iff _ _).mp hval
  have hsame := map_unchecked_congr h id
  rw [hid, Option.map_some] at hsame
  obtain ⟨svc', hid', hun⟩ := Option.map_eq_some_iff.mp hsame.symm
  obtain ⟨-, -, -, -, -, hst⟩ := unchecked_fields hun
  refine List.mem_map.mpr ⟨svc', List.mem_filter.mpr ⟨?_, ?_⟩, hun⟩
  · exact (PlainObject.mem_values_iff _ _).mpr ⟨id, hid'⟩
  · rwa [hst]

theorem alike_of_same (h : inMemory r.services = inMemory r'.services)
    (hi : r.inherited = r'.inherited) (hr : r.replaced = r'.replaced) : Alike r r' := by
  have hentries := map_unchecked_congr h
  have hsome : ∀ id, (r.services.get? id).isSome = (r'.services.get? id).isSome := by
    intro id
    rw [← Option.isSome_map (f := (·.unchecked)), hentries, Option.isSome_map]
  refine ⟨?_, hentries, ?_, ?_, ?_, ?_, ?_, PlainObject.keys_length_congr hsome⟩
  · intro id
    rw [PlainObject.mem_keys_iff, PlainObject.mem_keys_iff, hsome]
  · intro id
    rcases find_cases h hi hr id with hf | ⟨e, e', hf, hf', hun⟩
    · simp [RegistryService.isRoutable, hf]
    · obtain ⟨hst, hh, -⟩ := unchecked_fields hun
      simp [RegistryService.isRoutable, hf, hf', Found.status, Found.healthy, hst, hh]
  · intro source target
    rcases find_cases h hi hr source with hf | ⟨e, e', hf, hf', hun⟩
    · simp [RegistryService.canConsume, hf]
    · obtain ⟨-, -, hc, -⟩ := unchecked_fields hun
      simp [RegistryService.canConsume, hf, hf', hc]
  · intro id
    rcases find_cases h hi hr id with hf | ⟨e, e', hf, hf', hun⟩
    · simp [RegistryService.getRequiredScopes, hf]
    · obtain ⟨-, -, -, hs, -⟩ := unchecked_fields hun
      simp [RegistryService.getRequiredScopes, hf, hf', hs]
  · intro id path
    rcases find_cases h hi hr id with hf | ⟨e, e', hf, hf', hun⟩
    · simp [RegistryService.resolveUpstream, hf]
    · obtain ⟨-, -, -, -, hb, -⟩ := unchecked_fields hun
      simp [RegistryService.resolveUpstream, hf, hf', hb]
  · exact fun type e => ⟨getByType_subset h type e, getByType_subset h.symm type e⟩

theorem persisted_step (p : RegistryCall × String) (h : Persisted s)
    (hid : p.1.id ∉ objectPrototype) : Persisted (s.step (applied p)) := by
  obtain ⟨c, now⟩ := p
  have hown : Assigns s.registry now c → OnOwnEntry s.registry c := by
    intro ha
    cases c with
    | register m =>
      intro hproto
      exact hid (by simp [RegistryCall.id, hproto, objectPrototype])
    | deregister id => trivial
    | lifecycle c =>
      obtain ⟨found, changes, hf, -, -⟩ := ha
      cases found with
      | entry e => exact ⟨e, (s.registry.find_entry_iff c.id e).mp hf⟩
      | member m => exact absurd (h.pristine.mem_of_find_member hf) hid
  obtain ⟨hi, hrep⟩ := call_inherits_same h.pristine c hid now .acknowledged
  refine ⟨(call_redis s.registry c now .acknowledged).trans h.redis, hi.trans h.inherited,
    hrep.trans h.replaced, ?_⟩
  · simp only [Node.step, applied, if_true]
    rcases call_writes h.redis hown with ⟨hmem, hnone⟩ | ⟨-, command, v, hsome, hop, hmem⟩
    · rw [hnone, hmem]
      exact h.same
    · rw [hsome, hmem, ← h.same, execute_some]
      exact (records_apply (.write command .persistToRedis) s.hash).trans
        (by simp [sentOperation, hop, WriteBehind.Operation.apply])

/-- Hydrating from records that memory agrees with gives the same entries. -/
theorem inMemory_boot (h : records hash = inMemory r.services) :
    inMemory (RegistryService.boot hash).services = inMemory r.services := by
  funext id
  have hid := congrFun h id
  simp only [RegistryService.boot, RegistryService.loadFromRedis, if_true, inMemory,
    RegistryService.get?_loadEntries, RegistryService.get?_getRedisEntries]
  unfold records inMemory at hid
  cases hm : r.services.get? id with
  | none =>
    rw [hm, Option.map_none, Option.map_eq_none_iff] at hid
    simp [hid]
  | some e =>
    rw [hm, Option.map_some] at hid
    obtain ⟨v, hv, hun⟩ := Option.map_eq_some_iff.mp hid
    cases v with
    | object | malformed => cases hun
    | entry e' =>
      simpa [hv, PlainObject.assignable, PlainObject.ne_proto_of_get? hm, RedisValue.parse,
        unchecked] using hun

/-- A hash that agrees with the entries in memory has no field `__proto__`. -/
theorem boot_inherits (h : records hash = inMemory r.services) :
    (RegistryService.boot hash).inherited = ∅ ∧ (RegistryService.boot hash).replaced = none := by
  have hproto : hash.lookup "__proto__" = none := by
    have hid := congrFun h "__proto__"
    simpa [records, inMemory] using hid
  simp [RegistryService.boot, RegistryService.loadFromRedis, RegistryService.loadEntries, hproto]

/-- A gateway started from the hash of a running one answers as the running one does. -/
theorem restart_transparent (run : List (RegistryCall × String))
    (hrun : ∀ p ∈ run, p.1.id ∉ objectPrototype) :
    Alike (Runs.final Node.step ⟨{ redis := true }, ∅⟩ (run.map applied)).registry
      (.boot (Runs.final Node.step ⟨{ redis := true }, ∅⟩ (run.map applied)).hash) := by
  have hstart : Persisted ⟨{ redis := true }, ∅⟩ :=
    ⟨rfl, rfl, rfl, funext fun id => by simp [records, inMemory]⟩
  have hend : Persisted (Runs.final Node.step ⟨{ redis := true }, ∅⟩ (run.map applied)) := by
    refine Runs.invariant_final (fun s a h hg => ?_) hstart
      (Runs.always_of_forall (p := fun a => ∃ p, a = applied p ∧ p.1.id ∉ objectPrototype) _ ?_)
    · obtain ⟨p, rfl, hp⟩ := hg
      exact persisted_step p h hp
    · intro a ha
      obtain ⟨p, hp, rfl⟩ := List.mem_map.mp ha
      exact ⟨p, rfl, hrun p hp⟩
  obtain ⟨hi, hr⟩ := boot_inherits hend.same
  exact alike_of_same (inMemory_boot hend.same).symm (hend.inherited.trans hi.symm)
    (hend.replaced.trans hr.symm)

/-- `orders` is registered, checked and retired, and `billing` asked for in vain. -/
def ordersRetired : List (RegistryCall × String) :=
  [(.register (manifestOf "orders" "http://orders:1" "1.0.0"), "t0"),
    (.lifecycle (.touchHealthCheck "orders"), "t1"), (.lifecycle (.retire "orders"), "t2"),
    (.deregister "billing", "t3")]

theorem restart_transparent_orders :
    Alike (Runs.final Node.step ⟨{ redis := true }, ∅⟩ (ordersRetired.map applied)).registry
      (.boot (Runs.final Node.step ⟨{ redis := true }, ∅⟩ (ordersRetired.map applied)).hash) :=
  restart_transparent ordersRetired (by decide)

end ApiCenter.Proofs.Restart
