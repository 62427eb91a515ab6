import ApiCenter.Library.Runs
import ApiCenter.Model.HealthMonitor
import ApiCenter.Model.Reconciliation

namespace ApiCenter
open Library

/-- The calls the controllers make on the registry. -/
inductive ClientCall where
  | register (manifest : ServiceManifest)
  | deregister (id : String)
  | deprecateService (id : String) (sunsetDate replacementService : Optional String)
  | retire (id : String)
  | activate (id : String)

def ClientCall.call : ClientCall → RegistryCall
  | .register manifest => .register manifest
  | .deregister id => .deregister id
  | .deprecateService id sunsetDate replacementService =>
    .lifecycle (.deprecateService id sunsetDate replacementService)
  | .retire id => .lifecycle (.retire id)
  | .activate id => .lifecycle (.activate id)

/-- The end of the `i`-th of the health checks still on their way. -/
structure HealthAnswer where
  i : Nat
  response : HealthResponse
  now : String

/-- The operations on a registry, each run to its end before the next one. A sweep comes with its
answers in the order they arrive, a reload with the hash it reads. -/
inductive RegistryOperation where
  | call (c : ClientCall) (now : String) (write : Write)
  | handleHealthChecks (answers : List HealthAnswer)
  | loadFromRedis (hash : RedisHash)
  | handleRedisDriftReconciliation (compared loaded : RedisHash)

namespace RegistryService

/-- `handleHealthChecks` with nothing in between but its own answers. -/
def sweep (r : RegistryService) (answers : List HealthAnswer) : RegistryService :=
  (Runs.final HealthMonitor.step { registry := r }
    (.handleHealthChecks :: answers.map fun a => .respond a.i a.response a.now)).registry

def operate (r : RegistryService) : RegistryOperation → RegistryService
  | .call c now write => (r.call c.call now write).registry
  | .handleHealthChecks answers => r.sweep answers
  | .loadFromRedis hash => r.loadFromRedis hash
  | .handleRedisDriftReconciliation compared loaded => r.reconcile compared loaded

/-- What the end of every health check of a listed service keeps, a sweep keeps. -/
theorem sweep_induction_listed {I : RegistryService → Prop} {P : String → Prop}
    (keep : ∀ r id response now, P id → I r → I (r.endHealthCheck id response now).registry)
    {r : RegistryService} (hp : ∀ svc ∈ r.services.values, P svc.serviceId) (hr : I r)
    (answers : List HealthAnswer) : I (r.sweep answers) := by
  have hstart : I (HealthMonitor.step { registry := r } .handleHealthChecks).registry := hr
  have hprobes : ∀ p ∈ (HealthMonitor.step { registry := r } .handleHealthChecks).probes,
      P p.svc.serviceId := by
    intro p hmem
    obtain ⟨svc, hsvc, rfl⟩ := List.mem_map.mp hmem
    exact hp svc (List.mem_of_mem_filter hsvc)
  unfold sweep
  rw [Runs.final_cons]
  generalize HealthMonitor.step { registry := r } .handleHealthChecks = s at hstart hprobes ⊢
  induction answers generalizing s with
  | nil => exact hstart
  | cons a answers ih =>
    refine ih _ ?_ ?_ <;> simp only [HealthMonitor.step, HealthMonitor.respond] <;> split
    · exact hstart
    · rename_i p hp
      exact keep _ _ _ _ (hprobes p (List.mem_of_getElem? hp)) hstart
    · exact hprobes
    · exact fun q hq => hprobes q (List.mem_of_mem_eraseIdx hq)

theorem sweep_induction {I : RegistryService → Prop}
    (keep : ∀ r id response now, I r → I (r.endHealthCheck id response now).registry)
    {r : RegistryService} (hr : I r) (answers : List HealthAnswer) : I (r.sweep answers) :=
  sweep_induction_listed (P := fun _ => True) (fun r id response now _ => keep r id response now)
    (fun _ _ => trivial) hr answers

/-- A condition on the calls, and on the hashes whose entries are taken over. -/
def Meets (call : RegistryService → ClientCall → Write → Prop)
    (load : RegistryService → RedisHash → Prop) (r : RegistryService) : RegistryOperation → Prop
  | .call c _ write => call r c write
  | .handleHealthChecks _ => True
  | .loadFromRedis hash => r.redis = true → load r hash
  | .handleRedisDriftReconciliation compared loaded =>
    (r.redis && hasDrift (getRedisEntries compared) r.services) = true → load r loaded

/-- What health checks keep, an operation keeps exactly if its call or its reload does. -/
theorem operate_iff {I : RegistryService → Prop} {r : RegistryService}
    {call : RegistryService → ClientCall → Write → Prop}
    {load : RegistryService → RedisHash → Prop} {op : RegistryOperation} (h : I r)
    (hcall : ∀ c now write, op = .call c now write →
      (I (r.call c.call now write).registry ↔ call r c write))
    (hhealth : ∀ r id response now, I r → I (r.endHealthCheck id response now).registry)
    (hload : ∀ hash, I (r.loadEntries hash) ↔ load r hash) :
    I (r.operate op) ↔ Meets call load r op := by
  cases op with
  | call c now write => exact hcall c now write rfl
  | handleHealthChecks answers => exact iff_of_true (sweep_induction hhealth h answers) trivial
  | loadFromRedis hash =>
    simp only [operate, loadFromRedis, Meets]
    by_cases hr : r.redis = true
    · rw [if_pos hr, hload, forall_prop_of_true hr]
    · rw [if_neg hr]
      exact iff_of_true h fun hr' => absurd hr' hr
  | handleRedisDriftReconciliation compared loaded =>
    simp only [operate, reconcile, Meets]
    by_cases hd : (r.redis && hasDrift (getRedisEntries compared) r.services) = true
    · rw [if_pos hd, hload, forall_prop_of_true hd]
    · rw [if_neg hd]
      exact iff_of_true h fun hd' => absurd hd' hd

end RegistryService

end ApiCenter
