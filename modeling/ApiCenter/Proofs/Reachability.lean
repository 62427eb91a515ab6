import ApiCenter.Model.Reconciliation
import ApiCenter.Proofs.Calls

namespace ApiCenter.Proofs.Reachability
open Library Calls

/-- A call whose manifest, if it has one, came through the DTO. -/
inductive Validated (v : Validators) : RegistryCall → Prop
  | register (dto : ServiceManifestDto v) : Validated v (.register dto.toManifest)
  | deregister (id : String) : Validated v (.deregister id)
  | lifecycle (c : LifecycleCall) : Validated v (.lifecycle c)

/-- A call as the controllers make it, where both bodies come through their DTOs. -/
inductive Accepted (v : Validators) : RegistryCall → Prop
  | register (dto : ServiceManifestDto v) : Accepted v (.register dto.toManifest)
  | deregister (id : String) : Accepted v (.deregister id)
  | deprecateService (id : String) (dto : DeprecateServiceDto v) :
      Accepted v (.lifecycle (.deprecateService id dto.sunsetDate dto.replacementService))
  | retire (id : String) : Accepted v (.lifecycle (.retire id))
  | activate (id : String) : Accepted v (.lifecycle (.activate id))
  | setHealthStatus (id : String) (healthy : Bool) :
      Accepted v (.lifecycle (.setHealthStatus id healthy))
  | touchHealthCheck (id : String) : Accepted v (.lifecycle (.touchHealthCheck id))

/-- The registries that calls of some kind can lead to. A registration is also taken apart at its
Redis write, and a hash may be loaded when each of its records was written by such a registry. -/
inductive ReachableBy (V : RegistryCall → Prop) : RegistryService → Prop
  | fresh (redis : Bool) : ReachableBy V { redis := redis }
  | call (h : ReachableBy V r) (hc : V c) (now : String) (write : Write) :
      ReachableBy V (r.call c now write).registry
  | begun (h : ReachableBy V r) (hm : V (.register m))
      (hb : r.beginRegister m now = .ok (written, pending)) : ReachableBy V written
  | resumed (h : ReachableBy V r) (pending : PendingRegister) (write : Write) :
      ReachableBy V (pending.resume r write).registry
  | load (h : ReachableBy V r) (hash : RedisHash) (writer : String → RegistryService)
      (hw : ∀ id, ReachableBy V (writer id))
      (hash_written : ∀ id value, hash.lookup id = some value → ∃ c now write, V c ∧
        ((writer id).call c now write).command = some (.hset id value)) :
      ReachableBy V (r.loadFromRedis hash)

/-- The registries a gateway can come to. -/
abbrev Reachable (v : Validators) (r : RegistryService) : Prop := ReachableBy (Validated v) r

/-- Every entry is as `P` says for its key. -/
def Entries (P : String → ServiceRegistryEntry → Prop) (services : ServiceRegistryMap) : Prop :=
  ∀ id e, services.get? id = some e → P id e

/-- Every key is the `serviceId` of its entry, and one the DTO accepts. -/
abbrev Keyed (services : ServiceRegistryMap) : Prop :=
  Entries (fun id e => e.serviceId = id ∧ matchesServiceId id = true) services

variable {v : Validators} {r : RegistryService} {services : ServiceRegistryMap} {id : String}

/-- An id the DTO accepts, so one that can be the key of an entry. -/
theorem validated_ne_proto {m : ServiceManifest} (h : Validated v (.register m)) :
    m.serviceId ≠ "__proto__" := by
  cases h with
  | register dto => exact dto.serviceId_ne_proto

theorem Keyed.ne_empty (h : Keyed services) (he : services.get? id = some e) : id ≠ "" := by
  intro heq
  subst heq
  exact absurd (h "" e he).2 (by decide)

section

variable {V : RegistryCall → Prop} {P : String → ServiceRegistryEntry → Prop}

theorem Entries.set (h : Entries P services) {e : ServiceRegistryEntry} (he : P id e) :
    Entries P (services.set id e) := by
  intro j e' hj
  rw [PlainObject.get?_set] at hj
  split at hj
  · rename_i hcond
    cases hj
    rw [hcond.1]
    exact he
  · exact h j e' hj

theorem Entries.delete (h : Entries P services) (id : String) : Entries P (services.delete id) := by
  intro j e hj
  rw [PlainObject.get?_delete] at hj
  split at hj
  · cases hj
  · exact h j e hj

/-- The entry that persisting an entry writes is that entry. -/
theorem entries_persist {e e' : ServiceRegistryEntry} {key : String} (he : P key e)
    (h : r.persistToRedis key (.entry e) = some (.hset id (.entry e'))) : P id e' := by
  rcases r.persistToRedis_cases key (.entry e) with hp | hp
  · cases hp.symm.trans h
  · cases hp.symm.trans h
    exact he

/-- What is written of something inherited is no entry. -/
theorem persist_member_ne (key : String) (m : InheritedMember) :
    r.persistToRedis key (.member m) ≠ some (.hset id (.entry e)) := by
  intro h
  rcases r.persistToRedis_cases key (.member m) with hp | hp
  · cases hp.symm.trans h
  · have hset := hp.symm.trans h
    simp only [Option.some.injEq, RedisCommand.hset.injEq] at hset
    exact Found.stringify_member_ne m e hset.2

/-- Calls of a kind keep what holds of every entry: it holds of what they build, and of what they
assign to. -/
structure Kept (V : RegistryCall → Prop) (P : String → ServiceRegistryEntry → Prop) : Prop where
  built : ∀ m, V (.register m) → ∀ existing previousVersion now,
    P m.serviceId (buildEntry existing m previousVersion now)
  moved : ∀ c e now changes, V (.lifecycle c) → P c.id e → Moves now c (.entry e) changes →
    P c.id (changes.applyTo e)
  touched : ∀ id e now, P id e → P id { e with lastHealthCheckAt := .value now }

/-- In the map, and in what is written. -/
theorem Kept.call (hk : Kept V P) {c : RegistryCall} (h : Entries P r.services) (hc : V c)
    (now : String) (write : Write) :
    Entries P (r.call c now write).registry.services ∧
      ∀ id e, (r.call c now write).command = some (.hset id (.entry e)) → P id e := by
  have heff := call_effect r c now write
  generalize (r.call c now write).registry.services = services at heff ⊢
  generalize (r.call c now write).command = command at heff ⊢
  cases heff with
  | kept => exact ⟨h, fun id e hcmd => by cases hcmd⟩
  | registered ha hw =>
    have hbuilt := hk.built _ hc
    exact ⟨h.set (hbuilt _ _ now), fun id e hcmd => entries_persist (hbuilt _ _ now) hcmd⟩
  | rolledBack ha hr hw =>
    have hbuilt := hk.built _ hc
    exact ⟨(h.set (hbuilt _ _ now)).delete _,
      fun id e hcmd => entries_persist (hbuilt _ _ now) hcmd⟩
  | deregistered hf =>
    refine ⟨h.delete _, fun id e hcmd => ?_⟩
    rcases r.removeFromRedis_cases _ with hp | hp <;> cases hp.symm.trans hcmd
  | moved he hm =>
    have hmoved := hk.moved _ _ now _ hc (h _ _ he) hm
    exact ⟨h.set hmoved, fun id e hcmd => entries_persist hmoved hcmd⟩
  | touched he =>
    exact ⟨h.set (hk.touched _ _ now (h _ _ he)), fun id e hcmd => by cases hcmd⟩
  | movedMember hf hm hk => exact ⟨h, fun id e hcmd => absurd hcmd (persist_member_ne _ _)⟩

theorem Kept.reachable (hk : Kept V P) (h : ReachableBy V r) : Entries P r.services := by
  induction h with
  | fresh redis =>
    intro id e he
    rw [PlainObject.get?_empty] at he
    cases he
  | call h hc now write ih => exact (hk.call ih hc now write).1
  | begun h hm hb ih =>
    obtain ⟨previousVersion, -, hput⟩ := bind_ok hb
    cases hput
    exact ih.set (hk.built _ hm _ _ _)
  | @resumed r h pending write ih =>
    unfold PendingRegister.resume
    split
    · exact ih.delete _
    · exact ih
  | @load r h hash writer hw hwritten ih ihw =>
    unfold RegistryService.loadFromRedis
    split
    · intro id e he
      rw [RegistryService.get?_loadEntries] at he
      rcases Option.or_eq_some_iff.mp he with hread | ⟨-, hold⟩
      · obtain ⟨-, hrec⟩ := RegistryService.get?_getRedisEntries_iff.mp hread
        obtain ⟨c, now, write, hc, hcmd⟩ := hwritten id _ hrec
        exact (hk.call (ihw id) hc now write).2 id e hcmd
      · exact ih id e hold
    · exact ih

theorem ReachableBy.mono {W : RegistryCall → Prop} (hsub : ∀ c, V c → W c)
    (h : ReachableBy V r) : ReachableBy W r := by
  induction h with
  | fresh redis => exact .fresh redis
  | call h hc now write ih => exact .call ih (hsub _ hc) now write
  | begun h hm hb ih => exact .begun ih (hsub _ hm) hb
  | resumed h pending write ih => exact .resumed ih pending write
  | load h hash writer hw hwritten ih ihw =>
    refine .load ih hash writer ihw fun id value hlookup => ?_
    obtain ⟨c, now, write, hc, hcmd⟩ := hwritten id value hlookup
    exact ⟨c, now, write, hsub c hc, hcmd⟩

end

theorem Accepted.validated {c : RegistryCall} (h : Accepted v c) : Validated v c := by
  cases h with
  | register dto => exact .register dto
  | deregister id => exact .deregister id
  | deprecateService | retire | activate | setHealthStatus | touchHealthCheck => exact .lifecycle _

theorem keyed_kept :
    Kept (Validated v) fun id e => e.serviceId = id ∧ matchesServiceId id = true where
  built m hc existing previousVersion now := by
    cases hc with
    | register dto => exact ⟨rfl, dto.serviceId_matches⟩
  moved c e now changes hc he hm := he
  touched id e now he := he

/-- A call with a validated manifest keeps the keys right, in the map and in what it writes. -/
theorem call_keyed {c : RegistryCall} (h : Keyed r.services) (hc : Validated v c) (now : String)
    (write : Write) :
    Keyed (r.call c now write).registry.services ∧
      ∀ id e, (r.call c now write).command = some (.hset id (.entry e)) →
        e.serviceId = id ∧ matchesServiceId id = true :=
  keyed_kept.call h hc now write

/-- No listed service is called `__proto__`. -/
theorem Keyed.serviceId_ne_proto (h : Keyed services) {svc : ServiceRegistryEntry}
    (hsvc : svc ∈ services.values) : svc.serviceId ≠ "__proto__" := by
  obtain ⟨id, he⟩ := (PlainObject.mem_values_iff _ _).mp hsvc
  rw [(h id svc he).1]
  exact PlainObject.ne_proto_of_get? he

theorem reachable_keyed (h : Reachable v r) : Keyed r.services := keyed_kept.reachable h

/-- A replacement that is named is one that could be registered. -/
theorem replacement_kept :
    Kept (Accepted v) fun _ e => e.replacementService.passes matchesServiceId = true where
  built m hc existing previousVersion now := by
    cases hc with
    | register dto => exact dto.replacementService_passes
  moved c e now changes hc he hm := by
    cases hm with
    | deprecateService h =>
      cases hc with
      | deprecateService id dto =>
        have hdto := dto.replacementService_passes
        cases ht : dto.replacementService.text? with
        | none => simpa [Changes.applyTo, RegistryService.deprecateChanges, ht] using he
        | some replacement =>
          rw [(Optional.text?_eq_some.mp ht).1] at hdto
          simpa [Changes.applyTo, RegistryService.deprecateChanges, ht] using hdto
    | retire => exact he
    | activate h => rfl
    | setHealthStatus h => exact he
  touched id e now he := he

end ApiCenter.Proofs.Reachability
