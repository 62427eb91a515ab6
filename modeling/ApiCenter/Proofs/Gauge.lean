import Mathlib.Data.Finset.Card
import ApiCenter.Library.Runs
import ApiCenter.Proofs.HealthResults
import ApiCenter.Proofs.Messages

namespace ApiCenter

/-- The keys of the properties that meet `p`. -/
def PlainObject.keysWhere (o : PlainObject ν) (p : ν → Bool) : Finset String :=
  o.keys.toFinset.filter fun k => (o.get? k).any p

namespace Proofs.Gauge
open Library ApiCenter.Library.Runs Calls Messages

/-- The gauge shows the number of services that are active or deprecated. -/
def GaugeExact (r : RegistryService) : Prop := r.registryServicesTotal = r.activeCount

/-- The services a reload brings into the count. -/
def gained (r : RegistryService) (hash : RedisHash) : Finset String :=
  (RegistryService.getRedisEntries hash).keysWhere RegistryService.countsAsActive \
    r.services.keysWhere RegistryService.countsAsActive

/-- The services a reload takes out of the count. -/
def lost (r : RegistryService) (hash : RedisHash) : Finset String :=
  r.services.keysWhere RegistryService.countsAsActive ∩
    (RegistryService.getRedisEntries hash).keysWhere fun e => !RegistryService.countsAsActive e

/-- No proposed service is deprecated, and a reload takes as many services out of the count as it
brings into it. -/
def KeepsCount : RegistryService → RegistryOperation → Prop :=
  RegistryService.Meets
    (fun r c _ => ∀ id sunset replacement, c = .deprecateService id sunset replacement →
      ∀ e, r.services.get? id = some e → e.status ≠ .proposed)
    fun r hash => (gained r hash).card = (lost r hash).card

variable {r : RegistryService} {id now : String} {write : Write} {op : RegistryOperation}
  {m : ServiceManifest} {services : ServiceRegistryMap}

section

variable {ν : Type} {o : PlainObject ν} {p : ν → Bool} {k : String} {v w : ν}

theorem mem_keysWhere : k ∈ o.keysWhere p ↔ ∃ v, o.get? k = some v ∧ p v = true := by
  simp only [PlainObject.keysWhere, Finset.mem_filter, List.mem_toFinset,
    PlainObject.mem_keys_iff]
  cases o.get? k <;> simp

theorem mem_keysWhere_of_some (h : o.get? k = some v) : k ∈ o.keysWhere p ↔ p v = true := by
  rw [mem_keysWhere, h]
  simp

/-- Counting the values that meet `p` is counting their keys. -/
theorem length_filter_values (o : PlainObject ν) (p : ν → Bool) :
    (o.values.filter p).length = (o.keysWhere p).card := by
  have hnodup : ((o.own.entries.filter fun f => p f.2).map Sigma.fst).Nodup :=
    o.own.nodupKeys.sublist List.filter_sublist
  have hset : ((o.own.entries.filter fun f => p f.2).map Sigma.fst).toFinset = o.keysWhere p := by
    ext k
    rw [List.mem_toFinset, mem_keysWhere, List.mem_map]
    constructor
    · intro h
      obtain ⟨f, hf, rfl⟩ := h
      obtain ⟨hmem, hp⟩ := List.mem_filter.mp hf
      exact ⟨f.2, List.mem_dlookup o.own.nodupKeys hmem, hp⟩
    · intro h
      obtain ⟨v, hv, hp⟩ := h
      exact ⟨⟨k, v⟩, List.mem_filter.mpr ⟨List.of_mem_dlookup hv, hp⟩, rfl⟩
  rw [← hset, List.toFinset_card_of_nodup hnodup, PlainObject.values, List.filter_map,
    List.length_map, List.length_map]
  rfl

/-- A property that changes without leaving or entering `p`. -/
theorem keysWhere_set_same (h : o.get? k = some w) (hp : p v = p w) :
    (o.set k v).keysWhere p = o.keysWhere p := by
  ext j
  rw [mem_keysWhere, mem_keysWhere, PlainObject.get?_set_of_some h]
  by_cases hj : j = k
  · subst hj
    simp [h, hp]
  · simp [hj]

theorem keysWhere_set_in (h : o.get? k = some w) (hp : p v = true) :
    (o.set k v).keysWhere p = insert k (o.keysWhere p) := by
  ext j
  rw [Finset.mem_insert, mem_keysWhere, mem_keysWhere, PlainObject.get?_set_of_some h]
  by_cases hj : j = k
  · simp [hj, hp]
  · simp [hj]

end

theorem activeCount_eq (r : RegistryService) :
    r.activeCount = (r.services.keysWhere RegistryService.countsAsActive).card :=
  length_filter_values r.services RegistryService.countsAsActive

/-- A step that leaves the gauge alone keeps it exact exactly if it keeps the count. -/
theorem exact_iff_count (h : GaugeExact r)
    (hg : r'.registryServicesTotal = r.registryServicesTotal) :
    GaugeExact r' ↔ r'.activeCount = r.activeCount := by
  unfold GaugeExact at h ⊢
  rw [hg, h]
  exact eq_comm

theorem exact_of_services (h : GaugeExact r)
    (hg : r'.registryServicesTotal = r.registryServicesTotal) (hs : r'.services = r.services) :
    GaugeExact r' := by
  rw [exact_iff_count h hg, RegistryService.activeCount, RegistryService.activeCount, hs]

theorem exact_sync (r : RegistryService) : GaugeExact r.syncMetricsGauge := rfl

theorem register_exact (h : GaugeExact r) (m : ServiceManifest) (now : String) (write : Write) :
    GaugeExact (r.register m now write).registry := by
  cases ha : registerChecks (r.find m.serviceId) m with
  | error t => rwa [register_refused now write ha]
  | ok previousVersion =>
    rcases write_cases r write with hw | ⟨hr, message, hw⟩
    · rw [register_registry now write ha hw]
      exact exact_sync _
    · rw [(register_rolledBack now ha hr hw).1]
      exact exact_sync _

theorem deregister_exact (h : GaugeExact r) (id now : String) :
    GaugeExact (r.deregister id now).registry := by
  unfold RegistryService.deregister RegistryService.beginDeregister
  cases r.find id with
  | none => exact h
  | some found => exact exact_sync _

theorem amend_exact (h : GaugeExact r) (id : String) (choose : Found → Except Thrown Changes)
    (events : Found → List KafkaMessage) :
    GaugeExact (r.amend id choose true events).registry := by
  unfold RegistryService.amend
  cases r.find id with
  | none => exact h
  | some found =>
    cases hc : choose found >>= found.assign with
    | error t => simpa only [hc] using h
    | ok assigned =>
      simp only [hc]
      exact exact_sync _

/-- Deprecating an entry that is not retired changes the count exactly if it was proposed. -/
theorem count_deprecated_iff {e e' : ServiceRegistryEntry} (he : services.get? id = some e)
    (hret : e.status ≠ .retired) (hd : e'.status = .deprecated) :
    ((services.set id e').keysWhere RegistryService.countsAsActive).card =
        (services.keysWhere RegistryService.countsAsActive).card ↔ e.status ≠ .proposed := by
  have hcounts : RegistryService.countsAsActive e' = true := by
    simp [RegistryService.countsAsActive, hd]
  have hmem : id ∈ services.keysWhere RegistryService.countsAsActive ↔ e.status ≠ .proposed := by
    rw [mem_keysWhere_of_some he]
    cases hs : e.status with
    | proposed | active | deprecated => simp [RegistryService.countsAsActive, hs]
    | retired => exact absurd hs hret
  rw [keysWhere_set_in he hcounts, Finset.card_insert_eq_ite, ← hmem]
  split <;> simpa

/-- `deprecate` leaves the gauge alone, so it has to leave the count alone. -/
theorem deprecateService_exact_iff (h : GaugeExact r) (id : String)
    (sunset replacement : Optional String) (now : String) :
    GaugeExact (r.deprecateService id sunset replacement now).registry ↔
      ∀ e, r.services.get? id = some e → e.status ≠ .proposed := by
  unfold RegistryService.deprecateService RegistryService.amend
  cases hf : r.find id with
  | none =>
    refine iff_of_true h fun e he => ?_
    cases hf.symm.trans (RegistryService.find_of_get? he)
  | some found =>
    by_cases hret : found.status = .value .retired
    · simp only [hret, if_true]
      refine iff_of_true h fun e he => ?_
      cases hf.symm.trans (RegistryService.find_of_get? he)
      rw [Optional.value.inj hret]
      decide
    · simp only [hret, if_false]
      cases found with
      | member built =>
        refine iff_of_true ?_ fun e he => by cases hf.symm.trans (RegistryService.find_of_get? he)
        cases ha : (Except.ok (RegistryService.deprecateChanges sunset replacement now)) >>=
            (Found.member built).assign with
        | error t => exact h
        | ok assigned =>
          obtain ⟨changes, -, hassigned⟩ := bind_ok ha
          obtain ⟨rfl, -⟩ := RegistryService.assign_member_ok hassigned
          exact exact_of_services h (by simp) (RegistryService.store_member_services ..)
      | entry e =>
        have he := (r.find_entry_iff id e).mp hf
        have hret' : e.status ≠ .retired := fun heq => hret (congrArg Optional.value heq)
        refine (exact_iff_count h ?_).trans ?_
        · rfl
        · rw [activeCount_eq, activeCount_eq]
          refine (count_deprecated_iff he hret' rfl).trans ?_
          simp [he]

theorem endHealthCheck_exact (h : GaugeExact r) (id : String) (response : HealthResponse)
    (now : String) : GaugeExact (r.endHealthCheck id response now).registry := by
  cases hf : r.find id with
  | none => rwa [endHealthCheck_unknown hf]
  | some found =>
    have hg : (r.endHealthCheck id response now).registry.registryServicesTotal =
        r.registryServicesTotal := by
      have hchecked := endHealthCheck_checked hf response now
      generalize (r.endHealthCheck id response now).registry = r' at hchecked ⊢
      cases hchecked with
      | refused => rfl
      | touched | flipped => simp
    rw [exact_iff_count h hg, activeCount_eq, activeCount_eq]
    cases he : r.services.get? id with
    | none => rw [endHealthCheck_missing he]
    | some e =>
      rw [endHealthCheck_stored he, keysWhere_set_same he]
      split <;> rfl

/-- What the reload counts is what memory counted, with what it gains and without what it loses. -/
theorem keysWhere_loadEntries (r : RegistryService) (hash : RedisHash) :
    (r.loadEntries hash).services.keysWhere RegistryService.countsAsActive =
      (r.services.keysWhere RegistryService.countsAsActive \ lost r hash) ∪ gained r hash := by
  ext k
  simp only [gained, lost, Finset.mem_union, Finset.mem_sdiff, Finset.mem_inter, mem_keysWhere,
    RegistryService.get?_loadEntries]
  cases hread : (RegistryService.getRedisEntries hash).get? k with
  | none => simp
  | some e =>
    cases hc : RegistryService.countsAsActive e with
    | true => simpa [hc] using em (∃ v, r.services.get? k = some v ∧
        RegistryService.countsAsActive v = true)
    | false => simp [hc]

theorem load_exact_iff (h : GaugeExact r) (hash : RedisHash) :
    GaugeExact (r.loadEntries hash) ↔ (gained r hash).card = (lost r hash).card := by
  have hsub : lost r hash ⊆ r.services.keysWhere RegistryService.countsAsActive :=
    Finset.inter_subset_left
  have hdisj : Disjoint (r.services.keysWhere RegistryService.countsAsActive \ lost r hash)
      (gained r hash) :=
    Finset.disjoint_of_subset_left Finset.sdiff_subset Finset.disjoint_sdiff
  have hcard := Finset.card_sdiff_add_card_eq_card hsub
  have hg : (r.loadEntries hash).registryServicesTotal = r.registryServicesTotal := rfl
  rw [exact_iff_count h hg, activeCount_eq, activeCount_eq, keysWhere_loadEntries,
    Finset.card_union_of_disjoint hdisj]
  omega

/-- Every call but `deprecate` ends with the gauge set anew, or has changed nothing. -/
theorem call_exact (h : GaugeExact r) (c : ClientCall) (now : String) (write : Write)
    (hc : ∀ id sunset replacement, c ≠ .deprecateService id sunset replacement) :
    GaugeExact (r.call c.call now write).registry := by
  cases c with
  | register m => exact register_exact h m now write
  | deregister id => exact deregister_exact h id now
  | deprecateService id sunset replacement => exact absurd rfl (hc id sunset replacement)
  | retire id => exact amend_exact h id _ _
  | activate id => exact amend_exact h id _ _

theorem call_exact_iff (h : GaugeExact r) (c : ClientCall) (now : String) (write : Write) :
    GaugeExact (r.call c.call now write).registry ↔
      ∀ id sunset replacement, c = .deprecateService id sunset replacement →
        ∀ e, r.services.get? id = some e → e.status ≠ .proposed := by
  by_cases hc : ∃ id sunset replacement, c = .deprecateService id sunset replacement
  · obtain ⟨id, sunset, replacement, rfl⟩ := hc
    refine (deprecateService_exact_iff h id sunset replacement now).trans ?_
    constructor
    · intro hk id' sunset' replacement' heq e he
      cases heq
      exact hk e he
    · exact fun hk => hk id sunset replacement rfl
  · have hno : ∀ id sunset replacement, c ≠ .deprecateService id sunset replacement :=
      fun id sunset replacement heq => hc ⟨id, sunset, replacement, heq⟩
    exact iff_of_true (call_exact h c now write hno)
      fun id sunset replacement heq => absurd heq (hno id sunset replacement)

theorem operate_exact_iff (h : GaugeExact r) (op : RegistryOperation) :
    GaugeExact (r.operate op) ↔ KeepsCount r op :=
  RegistryService.operate_iff h (fun c now write _ => call_exact_iff h c now write)
    (fun _ id response now h => endHealthCheck_exact h id response now) (load_exact_iff h)

/-- The gauge is exact after every operation of a run exactly if no operation changes the count
without setting the gauge. -/
theorem gauge_exact_iff (redis : Bool) (as : List RegistryOperation) :
    Always RegistryService.operate (fun r op => GaugeExact (r.operate op)) { redis := redis } as ↔
      Always RegistryService.operate KeepsCount { redis := redis } as := by
  have hstart : GaugeExact { redis := redis } := rfl
  exact always_iff_of_kept (I := GaugeExact) (fun _ op h => operate_exact_iff h op)
    (fun _ _ _ hp => hp) hstart as

/-- The hash a booting instance reads, with `orders` registered by another instance. -/
def ordersHash : RedisHash :=
  execute (some (.hset "orders" (.entry (buildEntry none
    (manifestOf "orders" "http://orders:1" "1.0.0") none "t0")))) ∅

/-- Hydration at boot leaves the gauge at nought with a service in memory. -/
theorem hydration_not_counted :
    ¬ ∀ (redis : Bool) (as : List RegistryOperation),
      Always RegistryService.operate (fun r op => GaugeExact (r.operate op))
        { redis := redis } as := by
  intro h
  have hboot := (h true [.loadFromRedis ordersHash]).1
  exact absurd hboot (by unfold GaugeExact; decide)

end Proofs.Gauge

end ApiCenter
