import ApiCenter.Library.Runs
import ApiCenter.Model.Cluster
import ApiCenter.Proofs.Calls

namespace ApiCenter.Proofs.Retirement
open Library Calls

/-- The instance holds its own entry of `id`, and it is retired. -/
def SeesRetired (id : String) (r : RegistryService) : Prop :=
  ∃ e, r.services.get? id = some e ∧ e.status = .retired

/-- The call would write `id` back to Redis from a copy that is not retired. -/
def Republishes (id : String) (r : RegistryService) : RegistryCall → Prop
  | .register m =>
    m.serviceId = id ∧ ∃ previousVersion, registerChecks (r.find id) m = .ok previousVersion
  | .deregister _ => False
  | .lifecycle (.deprecateService other _ _) =>
    other = id ∧ ∃ found, r.find id = some found ∧ Assignable found ∧
      found.status ≠ .value .retired
  | .lifecycle (.retire other) =>
    other = id ∧ ∃ m, r.find id = some (.member m) ∧ Assignable (.member m)
  | .lifecycle (.activate other) =>
    other = id ∧ ∃ found, r.find id = some found ∧ Assignable found ∧
      (found.status = .value .proposed ∨ found.status = .value .deprecated)
  | .lifecycle (.setHealthStatus other healthy) =>
    other = id ∧ ¬ SeesRetired id r ∧ ∃ found, r.find id = some found ∧ Assignable found ∧
      found.healthy.getD true ≠ healthy
  | .lifecycle (.touchHealthCheck _) => False

variable {ι : Type} [DecidableEq ι] {id now : String} {s : Cluster ι} {r : RegistryService}
  {hash : RedisHash}

/-- No instance deregisters `id` or republishes a stale copy of it. -/
def Respects (id : String) (s : Cluster ι) : ClusterAction ι → Prop
  | .call i c _ => c ≠ .deregister id ∧ ¬ Republishes id (s.instances i) c
  | .reconcile _ => True

/-- The Redis record of `id` is a retired entry. -/
def RecordRetired (id : String) (s : Cluster ι) : Prop :=
  ∃ e, s.hash.lookup id = some (.entry e) ∧ e.status = .retired

/-- The instance already sees `id` retired, or its next drift check fires. -/
def Notices (id : String) (s : Cluster ι) (j : ι) : Prop :=
  SeesRetired id (s.instances j) ∨
  RegistryService.hasDrift (RegistryService.getRedisEntries s.hash) (s.instances j).services = true

/-- Unless it republishes a stale copy, a lifecycle call that assigns to the
entry of `id` leaves it retired. -/
theorem moves_retired (he : r.services.get? id = some e) (hid : c.id = id)
    (hm : Moves now c (.entry e) changes) (hn : ¬ Republishes id r (.lifecycle c)) :
    (changes.applyTo e).status = .retired := by
  have hf := RegistryService.find_of_get? he
  cases hm with
  | deprecateService h => exact absurd ⟨hid, _, hf, assignable_entry e, h⟩ hn
  | retire => rfl
  | activate h => exact absurd ⟨hid, _, hf, assignable_entry e, h⟩ hn
  | setHealthStatus h =>
    by_contra hs
    refine hn ⟨hid, ?_, _, hf, assignable_entry e, h⟩
    intro hex
    obtain ⟨e', he', hs'⟩ := hex
    rw [he] at he'
    cases he'
    exact hs hs'

/-- A lifecycle call that assigns to something inherited under `id` republishes it. -/
theorem member_republishes (hf : r.find c.id = some (.member m))
    (hm : Moves now c (.member m) changes) (ha : Assignable (.member m)) :
    Republishes c.id r (.lifecycle c) := by
  cases hm with
  | deprecateService h => exact ⟨rfl, _, hf, ha, h⟩
  | retire => exact ⟨rfl, m, hf, ha⟩
  | activate h => exact ⟨rfl, _, hf, ha, h⟩
  | setHealthStatus h =>
    refine ⟨rfl, ?_, _, hf, ha, h⟩
    intro hex
    obtain ⟨e, he, -⟩ := hex
    rw [((r.find_member_iff _ m).mp hf).1] at he
    cases he

/-- An admitted registration that does not republish `id` is one of another id. -/
theorem admitted_ne (ha : registerChecks (r.find m.serviceId) m = .ok previousVersion)
    (hn : ¬ Republishes id r (.register m)) : id ≠ m.serviceId := by
  intro heq
  subst heq
  exact hn ⟨rfl, previousVersion, ha⟩

/-- A call that respects the retirement of `id` leaves its record retired. -/
theorem call_record {c : RegistryCall} (hr : r.redis = true) (hd : c ≠ .deregister id)
    (hn : ¬ Republishes id r c) {hash : RedisHash}
    (hrec : ∃ e, hash.lookup id = some (.entry e) ∧ e.status = .retired) :
    ∃ e, (execute (r.call c now .acknowledged).command hash).lookup id = some (.entry e) ∧
      e.status = .retired := by
  have heff := call_effect r c now .acknowledged
  generalize (r.call c now .acknowledged).registry.services = services at heff
  generalize (r.call c now .acknowledged).command = command at heff ⊢
  cases heff with
  | kept => exact hrec
  | touched he => exact hrec
  | rolledBack ha hr hw => cases hw
  | @registered previousVersion m ha hw =>
    have hne := admitted_ne ha hn
    rwa [lookup_persist_ne r hash hne]
  | @deregistered found other hf =>
    have hne : id ≠ other := fun heq => hd (by rw [heq])
    rw [RegistryService.removeFromRedis_connected hr, execute_some]
    rwa [lookup_apply_ne _ hash hne]
  | @moved e c changes he hm =>
    by_cases hid : c.id = id
    · subst hid
      exact ⟨_, lookup_persist hr hash _ _, moves_retired he rfl hm hn⟩
    · rwa [lookup_persist_ne r hash (Ne.symm hid)]
  | @movedMember m c changes hf hm hk =>
    have hne : id ≠ c.id := by
      intro heq
      subst heq
      exact hn (member_republishes hf hm (assignable_member hk))
    rwa [lookup_persist_ne r hash hne]

theorem sees_set_same (h : SeesRetired id r) (hold : r.services.get? key = some old)
    (hk : key = id → new.status = .retired) :
    ∃ e, (r.services.set key new).get? id = some e ∧ e.status = .retired := by
  by_cases hid : key = id
  · subst hid
    exact ⟨new, by rw [PlainObject.get?_set_of_some hold, if_pos rfl], hk rfl⟩
  · obtain ⟨e, he, hs⟩ := h
    exact ⟨e, by rw [PlainObject.get?_set_ne r.services (Ne.symm hid), he], hs⟩

/-- The same for an instance's own copy. -/
theorem call_sees {c : RegistryCall} (hd : c ≠ .deregister id) (hn : ¬ Republishes id r c)
    (hsees : SeesRetired id r) : SeesRetired id (r.call c now .acknowledged).registry := by
  unfold SeesRetired
  have heff := call_effect r c now .acknowledged
  generalize (r.call c now .acknowledged).registry.services = services at heff ⊢
  generalize (r.call c now .acknowledged).command = command at heff
  obtain ⟨e, he, hs⟩ := hsees
  cases heff with
  | kept => exact ⟨e, he, hs⟩
  | movedMember hf hm hk => exact ⟨e, he, hs⟩
  | rolledBack ha hr hw => cases hw
  | @registered previousVersion m ha hw =>
    have hne := admitted_ne ha hn
    exact ⟨e, by rw [PlainObject.get?_set_ne r.services hne, he], hs⟩
  | @deregistered found other hf =>
    have hne : id ≠ other := fun heq => hd (by rw [heq])
    exact ⟨e, by rw [PlainObject.get?_delete, if_neg hne, he], hs⟩
  | moved he' hm =>
    refine sees_set_same ⟨e, he, hs⟩ he' fun hid => ?_
    subst hid
    exact moves_retired he' rfl hm hn
  | touched he' =>
    refine sees_set_same ⟨e, he, hs⟩ he' fun hid => ?_
    subst hid
    rw [he] at he'
    cases he'
    exact hs

/-- A reload takes the retired record over. -/
theorem load_learns (hne : id ≠ "__proto__")
    (hrec : ∃ e, hash.lookup id = some (.entry e) ∧ e.status = .retired) :
    SeesRetired id (r.loadEntries hash) := by
  obtain ⟨e, hl, hs⟩ := hrec
  refine ⟨e, ?_, hs⟩
  simp [RegistryService.loadEntries, PlainObject.get?_assignAll, hl, PlainObject.assignable, hne,
    RedisValue.parse]

theorem reconcile_redis (r : RegistryService) (compared loaded : RedisHash) :
    (r.reconcile compared loaded).redis = r.redis := by
  unfold RegistryService.reconcile
  split <;> rfl

def Connected (s : Cluster ι) : Prop := ∀ i, (s.instances i).redis = true

theorem step_connected (a : ClusterAction ι) (h : Connected s) : Connected (s.step a) := by
  intro j
  cases a with
  | call i c now =>
    by_cases hj : j = i
    · subst hj
      simpa [Cluster.step] using (call_redis _ c now _).trans (h j)
    · simpa [Cluster.step, Function.update_of_ne hj] using h j
  | reconcile i =>
    by_cases hj : j = i
    · subst hj
      simpa [Cluster.step] using (reconcile_redis _ _ _).trans (h j)
    · simpa [Cluster.step, Function.update_of_ne hj] using h j

theorem step_record (a : ClusterAction ι) (hc : Connected s) (hrec : RecordRetired id s)
    (hg : Respects id s a) : RecordRetired id (s.step a) := by
  cases a with
  | call i c now => exact call_record (hc i) hg.1 hg.2 hrec
  | reconcile i => exact hrec

theorem step_sees (a : ClusterAction ι) (hrec : RecordRetired id s) (hg : Respects id s a)
    (hsees : SeesRetired id (s.instances j)) : SeesRetired id ((s.step a).instances j) := by
  cases a with
  | call i c now =>
    by_cases hj : j = i
    · subst hj
      simpa [Cluster.step] using call_sees hg.1 hg.2 hsees
    · simpa [Cluster.step, Function.update_of_ne hj] using hsees
  | reconcile i =>
    by_cases hj : j = i
    · subst hj
      simp only [Cluster.step, Function.update_self, RegistryService.reconcile]
      split
      · obtain ⟨e, he, -⟩ := hsees
        exact load_learns (PlainObject.ne_proto_of_get? he) hrec
      · exact hsees
    · simpa [Cluster.step, Function.update_of_ne hj] using hsees

/-- A reconciliation that notices the retirement makes the instance see it. -/
theorem reconcile_sees (hc : Connected s) (hrec : RecordRetired id s) (hne : id ≠ "__proto__")
    (hn : Notices id s j) : SeesRetired id ((s.step (.reconcile j)).instances j) := by
  rcases hn with hsees | hdrift
  · exact step_sees (.reconcile j) hrec trivial hsees
  · simp only [Cluster.step, Function.update_self, RegistryService.reconcile, hc j, hdrift,
      Bool.and_self, ↓reduceIte]
    exact load_learns hne hrec

theorem sees_not_routable (h : SeesRetired id r) : r.isRoutable id = false := by
  obtain ⟨e, he, hs⟩ := h
  simp [RegistryService.isRoutable, RegistryService.find_of_get? he, Found.status, hs]

theorem sees_rejects (h : SeesRetired m.serviceId r) (now : String) (write : Write) :
    ∃ t, (r.register m now write).result = .error t := by
  obtain ⟨e, he, hs⟩ := h
  have hf := RegistryService.find_of_get? he
  obtain ⟨t, ha⟩ := registerChecks_retired (r.find m.serviceId) m (by simp [hf, Found.status, hs])
  exact ⟨t, by rw [register_refused _ _ ha]⟩

theorem retire_record (hr : r.redis = true) (he : r.services.get? id = some e) (now : String)
    (write : Write) (hash : RedisHash) :
    (execute (r.call (.lifecycle (.retire id)) now write).command hash).lookup id =
      some (.entry ((RegistryService.retireChanges now).applyTo e)) := by
  have hcmd : (r.call (.lifecycle (.retire id)) now write).command =
      r.persistToRedis id (.entry ((RegistryService.retireChanges now).applyTo e)) := by
    simp [RegistryService.call, RegistryService.lifecycle, RegistryService.retire,
      RegistryService.amend, RegistryService.find_of_get? he, Outcome.discard, bind, Except.bind]
  rw [hcmd, lookup_persist hr]
  rfl

def retireOn (i : ι) (id now : String) : ClusterAction ι := .call i (.lifecycle (.retire id)) now

/-- Once an instance has retired its own entry of `id`, and as long as every
later call on `id` runs where the retirement is already seen, the record stays
retired, and an instance whose reconciliation noticed it no longer routes to
`id` or registers it. -/
theorem retirement_holds (s : Cluster ι) (hc : Connected s) (i : ι)
    (hown : (s.instances i).services.get? id = some e) (now : String)
    (run : List (ClusterAction ι))
    (hrun : Runs.Always Cluster.step (Respects id) (s.step (retireOn i id now)) run) :
    RecordRetired id (Runs.final Cluster.step (s.step (retireOn i id now)) run) ∧
    ∀ before after j, run = before ++ .reconcile j :: after →
      Notices id (Runs.final Cluster.step (s.step (retireOn i id now)) before) j →
      ((Runs.final Cluster.step (s.step (retireOn i id now)) run).instances j).isRoutable id =
        false ∧
      ∀ m now' write, m.serviceId = id →
        ∃ t, (((Runs.final Cluster.step (s.step (retireOn i id now)) run).instances j).register
          m now' write).result = .error t := by
  have hstart : Connected (s.step (retireOn i id now)) ∧
      RecordRetired id (s.step (retireOn i id now)) :=
    ⟨step_connected _ hc, _, retire_record (hc i) hown now .acknowledged s.hash, rfl⟩
  have hkeep : ∀ (t : Cluster ι) a, Connected t ∧ RecordRetired id t → Respects id t a →
      Connected (t.step a) ∧ RecordRetired id (t.step a) :=
    fun t a h hg => ⟨step_connected a h.1, step_record a h.1 h.2 hg⟩
  refine ⟨(Runs.invariant_final hkeep hstart hrun).2, ?_⟩
  intro before after j heq hn
  subst heq
  obtain ⟨hbefore, hafter⟩ := (Runs.always_append _ _ _).mp hrun
  have hmid := Runs.invariant_final hkeep hstart hbefore
  have hlearn := reconcile_sees hmid.1 hmid.2 (PlainObject.ne_proto_of_get? hown) hn
  have hsees := Runs.invariant_final
    (I := fun t => (Connected t ∧ RecordRetired id t) ∧ SeesRetired id (t.instances j))
    (fun t a h hg => ⟨hkeep t a h.1 hg, step_sees a h.1.2 hg h.2⟩)
    ⟨hkeep _ _ hmid hafter.1, hlearn⟩ hafter.2
  rw [Runs.final_append]
  refine ⟨sees_not_routable hsees.2, ?_⟩
  intro m now' write heq
  subst heq
  exact sees_rejects hsees.2 now' write

/-- Two instances on one hash; `true` is the one that registers and retires. -/
def pair : Cluster Bool := ⟨fun _ => { redis := true }, ∅⟩

def registerThenSync : List (ClusterAction Bool) :=
  [.call true (.register (manifestOf "orders" "http://orders:1" "1.0.0")) "t0", .reconcile false]

def synced : Cluster Bool := Runs.final Cluster.step pair registerThenSync

def staleDeprecation : ClusterAction Bool :=
  .call false (.lifecycle (.deprecateService "orders" .undefined .undefined)) "t2"

/-- The other instance deprecates its stale copy: the record is live again, and
the instance that retired the service routes to it after its next reconciliation. -/
theorem stale_deprecation_revives :
    ¬ RecordRetired "orders" (Runs.final Cluster.step (synced.step (retireOn true "orders" "t1"))
      [staleDeprecation]) ∧
    ((Runs.final Cluster.step (synced.step (retireOn true "orders" "t1"))
      [staleDeprecation, .reconcile true]).instances true).isRoutable "orders" = true := by
  refine ⟨?_, by decide⟩
  intro hex
  obtain ⟨e, he, hs⟩ := hex
  have hrecord : ((Runs.final Cluster.step (synced.step (retireOn true "orders" "t1"))
      [staleDeprecation]).hash.lookup "orders").map RedisValue.parse =
        some (some { manifestOf "orders" "http://orders:1" "1.0.0" with
          registeredAt := "t0", updatedAt := "t2", status := .deprecated }) := by decide
  rw [he] at hrecord
  cases hrecord
  cases hs

def freshHealthFlip : ClusterAction Bool :=
  .call false (.lifecycle (.setHealthStatus "orders" false)) "t2"

/-- The other instance reconciles first, and may then flip the health of its copy. -/
theorem retirement_holds_pair :
    RecordRetired "orders" (Runs.final Cluster.step (synced.step (retireOn true "orders" "t1"))
      [.reconcile false, freshHealthFlip]) ∧
    ((Runs.final Cluster.step (synced.step (retireOn true "orders" "t1"))
      [.reconcile false, freshHealthFlip]).instances false).isRoutable "orders" = false := by
  have hconnected : Connected synced := by
    intro i
    cases i <;> decide
  have hown : (synced.instances true).services.get? "orders" =
      some { manifestOf "orders" "http://orders:1" "1.0.0" with
        registeredAt := "t0", updatedAt := "t0", status := .active } := by decide
  have hrun : Runs.Always Cluster.step (Respects "orders")
      (synced.step (retireOn true "orders" "t1")) [.reconcile false, freshHealthFlip] := by
    refine ⟨trivial, ⟨nofun, ?_⟩, trivial⟩
    intro hex
    obtain ⟨-, hsees, -⟩ := hex
    exact hsees ⟨{ manifestOf "orders" "http://orders:1" "1.0.0" with
      registeredAt := "t0", updatedAt := "t1", status := .retired }, by decide, rfl⟩
  have h := retirement_holds synced hconnected true hown "t1" _ hrun
  exact ⟨h.1, (h.2 [] [freshHealthFlip] false rfl (Or.inr (by decide))).1⟩

end ApiCenter.Proofs.Retirement
