import ApiCenter.Library.Runs
import ApiCenter.Library.Versions
import ApiCenter.Model.Cluster
import ApiCenter.Proofs.Convergence

namespace ApiCenter
open Library

/-- The time a call is made at, which is the `updatedAt` of what it writes. -/
def ClusterAction.stamp {ι : Type} : ClusterAction ι → Option String
  | .call _ _ now => some now
  | .reconcile _ => none

/-- No deregistration, and no call on the name of a built-in member. -/
def ClusterAction.Keeps {ι : Type} : ClusterAction ι → Prop
  | .call _ c _ => c.id ∉ objectPrototype ∧ ∀ id, c ≠ .deregister id
  | .reconcile _ => True

/-- Connected instances that have just booted, and an empty hash. -/
def Cluster.start (ι : Type) : Cluster ι where
  instances _ := { redis := true }
  hash := ∅

namespace Proofs.ClusterAgreement
open Calls Convergence Library.Versions

variable {ι : Type} [DecidableEq ι] {s : Cluster ι} {i j : ι} {id : String}

/-- An instance or the hash holds the entry under `id`. -/
def Copy (s : Cluster ι) (id : String) (e : ServiceRegistryEntry) : Prop :=
  (∃ i, (s.instances i).services.get? id = some e) ∨ s.hash.lookup id = some (.entry e)

/-- Everything an instance holds has been written to the hash. -/
structure Backed (s : Cluster ι) : Prop where
  connected : ∀ i, (s.instances i).redis = true
  pristine : ∀ i, (s.instances i).Pristine
  parses : Parses s.hash
  covered : ∀ i, Covered (s.instances i) s.hash

/-- An instance and the hash have the same ids, last written at the same times. -/
def InStep (r : RegistryService) (hash : RedisHash) : Prop :=
  ∀ id, (r.services.get? id).map (·.updatedAt) =
    ((RegistryService.getRedisEntries hash).get? id).map (·.updatedAt)

/-- What such a call leaves in memory and sends to Redis. -/
inductive Writes (r : RegistryService) (now : String) :
    ServiceRegistryMap → Option RedisCommand → Prop
  | kept : Writes r now r.services none
  | stored {id : String} (hid : id ≠ "__proto__") (hu : e.updatedAt = now) :
      Writes r now (r.services.set id e) (some (.hset id (.entry e)))
  | touched {id : String} (he : r.services.get? id = some e)
      (hu : e'.updatedAt = e.updatedAt ∧ e'.unchecked = e.unchecked) :
      Writes r now (r.services.set id e') none

theorem moves_updatedAt {now : String} {found : Found} {changes : Changes} {l : LifecycleCall}
    (h : Moves now l found changes) (e : ServiceRegistryEntry) :
    (changes.applyTo e).updatedAt = now := by
  cases h <;> rfl

theorem call_writes {r : RegistryService} (hr : r.redis = true) (hp : r.Pristine)
    {c : RegistryCall} (hc : c.id ∉ objectPrototype) (hd : ∀ id, c ≠ .deregister id)
    (now : String) : Writes r now (r.call c now .acknowledged).registry.services
      (r.call c now .acknowledged).command := by
  have heff := call_effect r c now .acknowledged
  generalize (r.call c now .acknowledged).registry.services = services at heff ⊢
  generalize (r.call c now .acknowledged).command = command at heff ⊢
  have hproto : c.id ≠ "__proto__" := by
    intro heq
    exact hc (heq ▸ by decide)
  cases heff with
  | kept => exact .kept
  | registered ha hw =>
    rw [RegistryService.persistToRedis_connected hr]
    exact .stored hproto rfl
  | rolledBack ha hr hw => cases hw
  | deregistered hf => exact absurd rfl (hd _)
  | moved he hm =>
    rw [RegistryService.persistToRedis_connected hr]
    exact .stored hproto (moves_updatedAt hm _)
  | touched he => exact .touched he ⟨rfl, rfl⟩
  | movedMember hf hm hk => exact absurd (hp.mem_of_find_member hf) hc

theorem parses_hset {hash : RedisHash} (h : Parses hash) (id : String) (e : ServiceRegistryEntry) :
    Parses ((RedisCommand.hset id (.entry e)).apply hash) := by
  intro j v hv
  rw [lookup_hset] at hv
  split at hv
  · cases hv
    exact ⟨e, rfl⟩
  · exact h j v hv

/-- A write adds its field for every instance. -/
theorem covered_hset {r : RegistryService} {hash : RedisHash} (h : Covered r hash)
    (hid : id ≠ "__proto__") (value : RedisValue) :
    Covered r ((RedisCommand.hset id value).apply hash) := by
  constructor
  · intro j hj
    rw [lookup_hset]
    split
    · rfl
    · exact h.memory j hj
  · rw [lookup_hset, if_neg (Ne.symm hid)]
    exact h.noProto

theorem covered_of_services {r r' : RegistryService} {hash : RedisHash} (h : Covered r hash)
    (hs : ∀ id, (r'.services.get? id).isSome → (r.services.get? id).isSome ∨
      (hash.lookup id).isSome) : Covered r' hash := by
  refine ⟨fun id hid => ?_, h.noProto⟩
  rcases hs id hid with hmem | hhash
  · exact h.memory id hmem
  · exact hhash

/-- The instance that made a call is backed by what it wrote. -/
theorem covered_writes {r r' : RegistryService} {now : String} {command : Option RedisCommand}
    {hash : RedisHash} (h : Covered r hash) (hw : Writes r now r'.services command) :
    Covered r' (execute command hash) := by
  generalize hservices : r'.services = services at hw
  cases hw with
  | kept =>
    refine covered_of_services h fun id hid => ?_
    rw [hservices] at hid
    exact .inl hid
  | @stored e key hkey hu =>
    refine covered_of_services (covered_hset h hkey (.entry e)) fun id hid => ?_
    rw [hservices, PlainObject.get?_set] at hid
    rw [execute_some, lookup_hset]
    by_cases hid' : id = key
    · exact .inr (by rw [if_pos hid']; rfl)
    · simp only [hid', false_and, if_false] at hid
      exact .inl hid
  | @touched e e' key he hu =>
    refine covered_of_services h fun id hid => ?_
    rw [hservices, PlainObject.isSome_get?_set_of_some he] at hid
    exact .inl hid

theorem writes_parses {r : RegistryService} {now : String} {services : ServiceRegistryMap}
    {command : Option RedisCommand} {hash : RedisHash} (h : Parses hash)
    (hw : Writes r now services command) : Parses (execute command hash) := by
  cases hw with
  | kept | touched => exact h
  | stored hkey hu => exact parses_hset h _ _

theorem reconcile_redis (r : RegistryService) (hash : RedisHash) :
    (r.reconcile hash hash).redis = r.redis := by
  unfold RegistryService.reconcile
  split <;> rfl

theorem reconcile_pristine {r : RegistryService} {hash : RedisHash} (hp : r.Pristine)
    (h : Covered r hash) : (r.reconcile hash hash).Pristine := by
  unfold RegistryService.reconcile
  split
  · exact ⟨hp.assigned, by simp [RegistryService.loadEntries, h.noProto, hp.replaced]⟩
  · exact hp

theorem reconcile_covered {r : RegistryService} {hash : RedisHash} (hr : r.redis = true)
    (hp : Parses hash) (h : Covered r hash) : Covered (r.reconcile hash hash) hash := by
  refine ⟨fun id hid => ?_, h.noProto⟩
  exact ((converges_of_covered hr hp h).keys id).mp hid

/-- A write leaves the other instances backed. -/
theorem covered_execute {r r' : RegistryService} {now : String} {services : ServiceRegistryMap}
    {command : Option RedisCommand} {hash : RedisHash} (h : Covered r' hash)
    (hw : Writes r now services command) : Covered r' (execute command hash) := by
  cases hw with
  | kept | touched => exact h
  | stored hkey hu => exact covered_hset h hkey _

theorem Backed.step (h : Backed s) (a : ClusterAction ι) (ha : a.Keeps) : Backed (s.step a) := by
  cases a with
  | call i c now =>
    obtain ⟨hc, hd⟩ := ha
    have hw := call_writes (h.connected i) (h.pristine i) hc hd now
    refine ⟨?_, ?_, writes_parses h.parses hw, ?_⟩
    · apply (Function.forall_update_iff s.instances fun _ r => r.redis = true).mpr
      exact ⟨(call_redis ..).trans (h.connected i), fun j _ => h.connected j⟩
    · apply (Function.forall_update_iff s.instances fun _ r => r.Pristine).mpr
      exact ⟨call_pristine (h.pristine i) c hc now _, fun j _ => h.pristine j⟩
    · apply (Function.forall_update_iff s.instances fun _ r => Covered r _).mpr
      exact ⟨covered_writes (h.covered i) hw, fun j _ => covered_execute (h.covered j) hw⟩
  | reconcile i =>
    refine ⟨?_, ?_, h.parses, ?_⟩
    · apply (Function.forall_update_iff s.instances fun _ r => r.redis = true).mpr
      exact ⟨(reconcile_redis ..).trans (h.connected i), fun j _ => h.connected j⟩
    · apply (Function.forall_update_iff s.instances fun _ r => r.Pristine).mpr
      exact ⟨reconcile_pristine (h.pristine i) (h.covered i), fun j _ => h.pristine j⟩
    · apply (Function.forall_update_iff s.instances fun _ r => Covered r _).mpr
      exact ⟨reconcile_covered (h.connected i) h.parses (h.covered i), fun j _ => h.covered j⟩

/-- Two entries with the same time are the same, but for the time of their last health check. -/
abbrev OneVersion (s : Cluster ι) (used : String → Prop) : Prop :=
  Stamped (Copy s) (·.updatedAt) (·.unchecked) used

theorem copy_of_update {instances : ι → RegistryService} {hash : RedisHash} {r : RegistryService}
    {e : ServiceRegistryEntry}
    (h : Copy { instances := Function.update instances i r, hash := hash } id e) :
    r.services.get? id = some e ∨ Copy { instances := instances, hash := hash } id e := by
  rcases h with ⟨j, hj⟩ | hhash
  · by_cases hij : j = i
    · subst hij
      simp only [Function.update_self] at hj
      exact .inl hj
    · simp only [Function.update_of_ne hij] at hj
      exact .inr (.inl ⟨j, hj⟩)
  · exact .inr (.inr hhash)

theorem OneVersion.call {used : String → Prop} (h : OneVersion s used) {c : RegistryCall}
    {now : String} (hr : (s.instances i).redis = true) (hp : (s.instances i).Pristine)
    (hc : (ClusterAction.call i c now).Keeps) (hfresh : ¬ used now) :
    OneVersion (s.step (.call i c now)) (fun t => used t ∨ t = now) := by
  have hw := call_writes hr hp hc.1 hc.2 now
  unfold OneVersion Cluster.step
  dsimp only
  generalize ((s.instances i).call c now .acknowledged).command = command at hw ⊢
  generalize hregistry : ((s.instances i).call c now .acknowledged).registry = r at hw ⊢
  generalize hservices : r.services = services at hw
  cases hw with
  | kept =>
    refine (h.of_copies fun id b hb => ?_).mono fun t ht => .inl ht
    rcases copy_of_update hb with hmem | hold
    · rw [hservices] at hmem
      exact ⟨b, .inl ⟨i, hmem⟩, rfl, rfl⟩
    · exact ⟨b, hold, rfl, rfl⟩
  | @stored e key hkey hu =>
    subst hu
    apply Stamped.step h hfresh
    intro id b hb
    rcases copy_of_update hb with hmem | hmem | hhash
    · rw [hservices, PlainObject.get?_set] at hmem
      split at hmem
      · rename_i hid
        exact .inr ⟨hid.1, (Option.some.inj hmem).symm⟩
      · exact .inl ⟨b, .inl ⟨i, hmem⟩, rfl, rfl⟩
    · exact .inl ⟨b, .inl hmem, rfl, rfl⟩
    · rw [execute_some, lookup_hset] at hhash
      split at hhash
      · rename_i hid
        cases hhash
        exact .inr ⟨hid, rfl⟩
      · exact .inl ⟨b, .inr hhash, rfl, rfl⟩
  | @touched e e' key he hu =>
    refine (h.of_copies fun id b hb => ?_).mono fun t ht => .inl ht
    rcases copy_of_update hb with hmem | hold
    · rw [hservices, PlainObject.get?_set_of_some he] at hmem
      split at hmem
      · rename_i hid
        cases hmem
        exact ⟨e, .inl ⟨i, hid ▸ he⟩, hu.1.symm, hu.2.symm⟩
      · exact ⟨b, .inl ⟨i, hmem⟩, rfl, rfl⟩
    · exact ⟨b, hold, rfl, rfl⟩

theorem OneVersion.reconcile {used : String → Prop} (h : OneVersion s used) :
    OneVersion (s.step (.reconcile i)) used := by
  refine h.of_copies fun id b hb => ⟨b, ?_, rfl, rfl⟩
  rcases copy_of_update hb with hmem | hold
  · unfold RegistryService.reconcile at hmem
    split at hmem
    · rw [RegistryService.get?_loadEntries, Option.or_eq_some_iff] at hmem
      rcases hmem with hread | ⟨-, hkept⟩
      · exact .inr (RegistryService.get?_getRedisEntries_iff.mp hread).2
      · exact .inl ⟨i, hkept⟩
    · exact .inl ⟨i, hmem⟩
  · exact hold

/-- The invariant carried through a run: what is used grows by the time of each call. -/
theorem run_oneVersion {as : List (ClusterAction ι)} {used : String → Prop} (hb : Backed s)
    (h : OneVersion s used) (ha : ∀ a ∈ as, a.Keeps)
    (hfresh : ∀ t ∈ as.filterMap ClusterAction.stamp, ¬ used t)
    (hclock : (as.filterMap ClusterAction.stamp).Nodup) :
    ∃ used', OneVersion (Runs.final Cluster.step s as) used' := by
  induction as generalizing s used with
  | nil => exact ⟨used, h⟩
  | cons a as ih =>
    have hrest := fun b hb => ha b (List.mem_cons_of_mem a hb)
    have hstep := hb.step a (ha a List.mem_cons_self)
    cases a with
    | call i c now =>
      rw [List.filterMap_cons_some (show (ClusterAction.call i c now).stamp = some now from rfl)]
        at hfresh hclock
      have hnow := (List.nodup_cons.mp hclock).1
      have hcall := h.call (hb.connected i) (hb.pristine i) (ha _ List.mem_cons_self)
        (hfresh now List.mem_cons_self)
      refine ih hstep hcall hrest ?_ (List.nodup_cons.mp hclock).2
      intro t ht hused
      rcases hused with hused | rfl
      · exact hfresh t (List.mem_cons_of_mem now ht) hused
      · exact hnow ht
    | reconcile i =>
      rw [List.filterMap_cons_none (show (ClusterAction.reconcile i).stamp = none from rfl)]
        at hfresh hclock
      exact ih hstep h.reconcile hrest hfresh hclock

omit [DecidableEq ι] in
theorem backed_start : Backed (Cluster.start ι) := by
  refine ⟨fun _ => rfl, fun _ => ⟨rfl, rfl⟩, fun id v hv => ?_, fun i => ⟨fun id hid => ?_, rfl⟩⟩
  · cases hv
  · cases hid

theorem backed_run (as : List (ClusterAction ι)) (ha : ∀ a ∈ as, a.Keeps) (hb : Backed s) :
    Backed (Runs.final Cluster.step s as) :=
  Runs.invariant_final (G := fun _ a => a.Keeps) (fun _ a h hk => h.step a hk) hb
    (Runs.always_of_forall s ha)

theorem reconcile_inStep (hb : Backed s) (i : ι) :
    InStep ((s.step (.reconcile i)).instances i) s.hash := by
  intro id
  simp only [Cluster.step, Function.update_self]
  have hsettled := (converges_of_covered (hb.connected i) hb.parses (hb.covered i)).settled
  exact ((hasDrift_eq_false_iff _ _).mp hsettled id).symm

/-- Once an instance is in step with the hash, it stays so while instances only reconcile. -/
theorem reconciles_inStep (hb : Backed s) (js : List ι)
    (hi : i ∈ js ∨ InStep (s.instances i) s.hash) :
    (Runs.final Cluster.step s (js.map .reconcile)).hash = s.hash ∧
      InStep ((Runs.final Cluster.step s (js.map .reconcile)).instances i) s.hash := by
  induction js generalizing s with
  | nil =>
    rcases hi with hi | hi
    · cases hi
    · exact ⟨rfl, hi⟩
  | cons j js ih =>
    have hstep := hb.step (.reconcile j) trivial
    rw [List.map_cons, Runs.final_cons]
    by_cases hij : i = j
    · subst hij
      exact ih hstep (.inr (reconcile_inStep hb i))
    · have hsame : (s.step (.reconcile j)).instances i = s.instances i :=
        Function.update_of_ne hij _ _
      refine ih hstep ?_
      rcases hi with hi | hi
      · exact .inl ((List.mem_cons.mp hi).resolve_left hij)
      · rw [hsame]
        exact .inr hi

omit [DecidableEq ι] in
/-- With one version a time, being in step is holding the same entries. -/
theorem OneVersion.entries {used : String → Prop} (h : OneVersion s used)
    (hi : InStep (s.instances i) s.hash) (id : String) :
    ((s.instances i).services.get? id).map (·.unchecked) =
      ((RegistryService.getRedisEntries s.hash).get? id).map (·.unchecked) := by
  have hid := hi id
  cases hm : (s.instances i).services.get? id with
  | none =>
    rw [hm, Option.map_none, eq_comm, Option.map_eq_none_iff] at hid
    rw [hid]
  | some e =>
    rw [hm, Option.map_some, eq_comm, Option.map_eq_some_iff] at hid
    obtain ⟨e', he', hstamp⟩ := hid
    rw [he', Option.map_some, Option.map_some]
    have hcopy : Copy s id e' := .inr (RegistryService.get?_getRedisEntries_iff.mp he').2
    exact congrArg some (h.same id e e' (.inl ⟨i, hm⟩) hcopy hstamp.symm)

/-- After any run of calls and reconciliations on the instances, once nothing else is called, every
instance that reconciles has exactly the ids of the hash with the same times; and if no two calls
were made at the same time, it has the same entries. -/
theorem cluster_agrees (as : List (ClusterAction ι)) (js : List ι) (ha : ∀ a ∈ as, a.Keeps)
    (hi : i ∈ js) :
    InStep ((Runs.final Cluster.step (.start ι) (as ++ js.map .reconcile)).instances i)
        (Runs.final Cluster.step (.start ι) as).hash ∧
      ((as.filterMap ClusterAction.stamp).Nodup → ∀ id,
        (((Runs.final Cluster.step (.start ι) (as ++ js.map .reconcile)).instances
          i).services.get? id).map (·.unchecked) =
        ((RegistryService.getRedisEntries
          (Runs.final Cluster.step (.start ι) as).hash).get? id).map (·.unchecked)) := by
  have hb : Backed (Runs.final Cluster.step (.start ι) as) := backed_run as ha backed_start
  obtain ⟨hhash, hstep⟩ := reconciles_inStep hb js (.inl hi)
  rw [← Runs.final_append] at hhash hstep
  refine ⟨hstep, fun hclock id => ?_⟩
  have hempty : OneVersion (Cluster.start ι) fun _ => False := by
    constructor
    · intro id e he
      rcases he with ⟨j, hj⟩ | hj
      · cases hj
      · cases hj
    · intro id e e' he
      rcases he with ⟨j, hj⟩ | hj
      · cases hj
      · cases hj
  have hkeeps : ∀ a ∈ as ++ js.map ClusterAction.reconcile, a.Keeps := by
    intro a hmem
    rcases List.mem_append.mp hmem with hmem | hmem
    · exact ha a hmem
    · obtain ⟨j, -, rfl⟩ := List.mem_map.mp hmem
      trivial
  have hstamps : (as ++ js.map ClusterAction.reconcile).filterMap ClusterAction.stamp =
      as.filterMap ClusterAction.stamp := by
    rw [List.filterMap_append, List.filterMap_map]
    simp [ClusterAction.stamp, Function.comp_def]
  obtain ⟨used, hone⟩ := run_oneVersion backed_start hempty hkeeps (fun _ _ h => h)
    (by rwa [hstamps])
  rw [← hhash] at hstep ⊢
  exact hone.entries hstep id

/-- One of two instances registers `orders`, the other takes it over and retires it. -/
def retiredElsewhere : List (ClusterAction Bool) :=
  [.call false (.register (manifestOf "orders" "http://orders:1" "1.0.0")) "t0", .reconcile true,
    .call true (.lifecycle (.retire "orders")) "t1"]

theorem cluster_agrees_orders :
    retiredElsewhere.filterMap ClusterAction.stamp = ["t0", "t1"] ∧
      InStep ((Runs.final Cluster.step (.start Bool) (retiredElsewhere ++
        [false].map .reconcile)).instances false)
        (Runs.final Cluster.step (.start Bool) retiredElsewhere).hash := by
  refine ⟨rfl, (cluster_agrees retiredElsewhere [false] ?_ (List.mem_singleton.mpr rfl)).1⟩
  intro a ha
  simp only [retiredElsewhere, List.mem_cons, List.not_mem_nil, or_false] at ha
  rcases ha with rfl | rfl | rfl
  · exact ⟨by decide, fun id h => by cases h⟩
  · trivial
  · exact ⟨by decide, fun id h => by cases h⟩

end Proofs.ClusterAgreement

end ApiCenter
