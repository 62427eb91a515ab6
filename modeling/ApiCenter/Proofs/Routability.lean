import ApiCenter.Proofs.HealthResults
import ApiCenter.Proofs.Mediation

namespace ApiCenter

/-- What the last word on a service is: the status it was read with and not been given another one
since, and what the health monitor last reported. -/
structure LastWord where
  proposed : Bool := false
  unhealthy : Bool := false
  deriving DecidableEq, Repr

def ServiceRegistryEntry.lastWord (e : ServiceRegistryEntry) : LastWord where
  proposed := e.status = .proposed
  unhealthy := !e.healthy.getD true

namespace LastWord

/-- After a call on the service. A registration that is accepted starts it afresh. -/
def called (s : LastWord) (r : RegistryService) : RegistryCall → LastWord
  | .register m => if (registerChecks (r.find m.serviceId) m).toBool then {} else s
  | .deregister _ => s
  | .lifecycle (.deprecateService ..) | .lifecycle (.retire _) | .lifecycle (.activate _) =>
    { s with proposed := false }
  | .lifecycle (.setHealthStatus _ healthy) => { s with unhealthy := !healthy }
  | .lifecycle (.touchHealthCheck _) => s

/-- After a reload. -/
def read (s : LastWord) (id : String) (hash : RedisHash) : LastWord :=
  match hash.lookup id with
  | some (.entry e) => e.lastWord
  | _ => s

def after (s : LastWord) (r : RegistryService) (id : String) : GatewayAction → LastWord
  | .call c _ _ => if c.id = id then s.called r c else s
  | .loadFromRedis hash => if r.redis then s.read id hash else s
  | .reconcile compared loaded =>
    if r.redis &&
        RegistryService.hasDrift (RegistryService.getRedisEntries compared) r.services then
      s.read id loaded
    else s
  | .proxyRequest .. | .proxyRes .. | .proxyError .. | .finish .. => s

end LastWord

/-- A gateway beside what its calls and reloads have last said of each service. -/
structure Watched where
  gateway : Gateway
  lastWord : String → LastWord

namespace Watched

/-- With nothing said yet, the last word on a service is what its entry says. -/
def start (g : Gateway) : Watched where
  gateway := g
  lastWord id := ((g.registry.services.get? id).map (·.lastWord)).getD {}

def step (w : Watched) (a : GatewayAction) : Watched where
  gateway := w.gateway.step a
  lastWord id := (w.lastWord id).after w.gateway.registry id a

end Watched

namespace Proofs.Routability
open Library Mediation Calls

variable {g : Gateway} {w : Watched} {a : GatewayAction} {r : RegistryService}
  {id now : String} {e : ServiceRegistryEntry}

/-- What the action forwards goes to a service that is routable at that moment. -/
def RoutesOnly (g : Gateway) (a : GatewayAction) : Prop :=
  ∀ target proxy, g.forwards a = some (target, proxy) → g.registry.isRoutable target = true

/-- No request gets through to a service last said to be unhealthy or proposed. -/
def SparesUnroutable (w : Watched) : GatewayAction → Prop
  | .proxyRequest ns target req now _ =>
    Passes (w.gateway.handler ns) w.gateway.registry target req →
      BreakerAdmits (w.gateway.handler ns) target now → w.lastWord target = {}
  | .call .. | .loadFromRedis _ | .reconcile .. | .proxyRes .. | .proxyError .. | .finish .. => True

/-- Every entry is as was last said. -/
def Tracks (w : Watched) : Prop :=
  ∀ id e, w.gateway.registry.services.get? id = some e → w.lastWord id = e.lastWord

theorem lastWord_eq_empty_iff (e : ServiceRegistryEntry) :
    e.lastWord = {} ↔ e.healthy ≠ .value false ∧ e.status ≠ .proposed := by
  have hhealthy : e.healthy.getD true = true ↔ e.healthy ≠ .value false := by
    cases e.healthy with
    | undefined | null => simp
    | value b => cases b <;> simp
  simp [ServiceRegistryEntry.lastWord, hhealthy, and_comm]

/-- `isRoutable` asks for more than the lifecycle gate of the proxy does. -/
theorem isRoutable_iff (he : r.services.get? id = some e) (hs : e.status ≠ .retired) :
    r.isRoutable id = true ↔ e.lastWord = {} := by
  rw [lastWord_eq_empty_iff]
  simp only [RegistryService.isRoutable, RegistryService.find_of_get? he, Found.healthy,
    Found.status]
  have hcases : e.status = .proposed ∨ e.status = .active ∨ e.status = .deprecated := by
    cases hst : e.status with
    | proposed => exact Or.inl rfl
    | active => exact Or.inr (Or.inl rfl)
    | deprecated => exact Or.inr (Or.inr rfl)
    | retired => exact absurd hst hs
  by_cases hh : e.healthy = .value false
  · simp [hh]
  · rcases hcases with hst | hst | hst <;> simp [hh, hst]

/-- As long as the entries are as was last said, one action goes wrong only on a service last said
to be unhealthy or proposed. -/
theorem routesOnly_iff (h : Tracks w) : RoutesOnly w.gateway a ↔ SparesUnroutable w a := by
  cases a with
  | proxyRequest ns target req now throws =>
    constructor
    · intro hroutes hp hb
      obtain ⟨e, he, -, -, hs, -⟩ := id hp.1
      obtain ⟨⟨target', proxy⟩, hf⟩ := Option.isSome_iff_exists.mp
        ((forwards_isSome_iff throws).mpr ⟨hp, hb⟩)
      have hrout := hroutes target' proxy hf
      rw [forwards_target hf] at hrout
      rw [h target e he]
      exact (isRoutable_iff he hs).mp hrout
    · intro hspares target' proxy hf
      obtain ⟨hp, hb⟩ := (forwards_isSome_iff throws).mp (Option.isSome_iff_exists.mpr ⟨_, hf⟩)
      rw [forwards_target hf]
      obtain ⟨e, he, -, -, hs, -⟩ := id hp.1
      refine (isRoutable_iff he hs).mpr ?_
      rw [← h target e he]
      exact hspares hp hb
  | call | loadFromRedis | reconcile | proxyRes | proxyError | finish =>
    simp [RoutesOnly, SparesUnroutable, Gateway.forwards]

/-- What a lifecycle call makes of an entry. -/
theorem amend_get? (he : r.services.get? id = some e) (choose : Found → Except Thrown Changes)
    (sync : Bool) (events : Found → List KafkaMessage) :
    (r.amend id choose sync events).registry.services.get? id =
      some (((choose (.entry e)).toOption.map (·.applyTo e)).getD e) := by
  unfold RegistryService.amend
  rw [RegistryService.find_of_get? he]
  cases hc : choose (.entry e) with
  | error t =>
    simp only [hc]
    exact he
  | ok changes =>
    simp only [hc]
    have hset := PlainObject.get?_set_self r.services (PlainObject.ne_proto_of_get? he)
      (changes.applyTo e)
    cases sync <;> exact hset

/-- Each lifecycle call leaves an entry as the call says. -/
theorem lifecycle_lastWord (he : r.services.get? id = some e) (c : LifecycleCall) (hc : c.id = id)
    {e' : ServiceRegistryEntry}
    (he' : (r.lifecycle c now).registry.services.get? id = some e') :
    e'.lastWord = e.lastWord.called r (.lifecycle c) := by
  cases c with
  | deprecateService key sunset replacement =>
    obtain rfl : key = id := hc
    have hout := (amend_get? he _ _ _).symm.trans he'
    simp only [Found.status, Optional.value.injEq] at hout
    by_cases hs : e.status = .retired
    · simp only [hs, if_true] at hout
      cases hout
      simp [LastWord.called, ServiceRegistryEntry.lastWord, hs, Except.toOption]
    · simp only [hs, if_false] at hout
      cases hout
      simp [LastWord.called, ServiceRegistryEntry.lastWord, Except.toOption,
        RegistryService.deprecateChanges, Changes.applyTo]
  | retire key =>
    obtain rfl : key = id := hc
    have hout := (amend_get? he _ _ _).symm.trans he'
    cases hout
    simp [LastWord.called, ServiceRegistryEntry.lastWord, Except.toOption,
      RegistryService.retireChanges, Changes.applyTo]
  | activate key =>
    obtain rfl : key = id := hc
    have hout := (amend_get? he _ _ _).symm.trans he'
    simp only [Found.status, ne_eq, Optional.value.injEq] at hout
    by_cases hs : ¬ e.status = .proposed ∧ ¬ e.status = .deprecated
    · simp only [hs, not_false_eq_true, and_self, if_true] at hout
      cases hout
      simp [LastWord.called, ServiceRegistryEntry.lastWord, hs, Except.toOption]
    · simp only [hs, if_false] at hout
      cases hout
      simp [LastWord.called, ServiceRegistryEntry.lastWord, Except.toOption,
        RegistryService.activateChanges, Changes.applyTo]
  | setHealthStatus key healthy =>
    obtain rfl : key = id := hc
    simp only [RegistryService.lifecycle, Outcome.discard, RegistryService.setHealthStatus,
      RegistryService.find_of_get? he, Found.healthy] at he'
    by_cases hh : e.healthy.getD true = healthy
    · simp only [hh, if_true] at he'
      obtain rfl := Option.some.inj (he.symm.trans he')
      simp [LastWord.called, ServiceRegistryEntry.lastWord, hh]
    · simp only [hh, if_false, Found.assign_entry] at he'
      have hset := PlainObject.get?_set_self r.services (PlainObject.ne_proto_of_get? he)
        ((RegistryService.healthChanges healthy now).applyTo e)
      obtain rfl := Option.some.inj (hset.symm.trans he')
      simp only [LastWord.called, ServiceRegistryEntry.lastWord, RegistryService.healthChanges,
        Changes.applyTo, Option.map_some, Option.getD_some, Option.getD_none, Optional.getD_value]
      rfl
  | touchHealthCheck key =>
    obtain rfl : key = id := hc
    simp only [RegistryService.lifecycle, RegistryService.touchHealthCheck,
      RegistryService.find_of_get? he, Found.assign_entry] at he'
    have hset := PlainObject.get?_set_self r.services (PlainObject.ne_proto_of_get? he)
      (Changes.applyTo { lastHealthCheckAt := some now } e)
    obtain rfl := Option.some.inj (hset.symm.trans he')
    rfl

/-- A call on the service leaves its entry, if there is one, as the call says. -/
theorem call_lastWord {s : LastWord} (h : ∀ e, r.services.get? c.id = some e → s = e.lastWord)
    (write : Write) {e' : ServiceRegistryEntry}
    (he' : (r.call c now write).registry.services.get? c.id = some e') :
    s.called r c = e'.lastWord := by
  cases c with
  | register m =>
    change (r.register m now write).registry.services.get? m.serviceId = some e' at he'
    cases ha : registerChecks (r.find m.serviceId) m with
    | error t =>
      rw [register_refused now write ha] at he'
      simp only [LastWord.called, ha, Except.toBool]
      exact h e' he'
    | ok previousVersion =>
      have hnew : ({} : LastWord) =
          (buildEntry (r.find m.serviceId) m previousVersion now).lastWord := by
        simp only [ServiceRegistryEntry.lastWord, buildEntry]
        split <;> rfl
      simp only [LastWord.called, ha, Except.toBool, if_true]
      rcases write_cases r write with hw | ⟨hr, message, hw⟩
      · rw [(register_stored now write ha hw).1, PlainObject.get?_set] at he'
        split at he'
        · cases he'
          exact hnew
        · rename_i hkey
          have hproto : m.serviceId = "__proto__" := by tauto
          rw [hproto, PlainObject.get?_proto] at he'
          cases he'
      · rw [(register_rolledBack now ha hr hw).1] at he'
        simp [PlainObject.get?_delete] at he'
  | deregister id =>
    have hsub : (r.deregister id now).registry.services.get? id = none ∨
        (r.deregister id now).registry.services = r.services := by
      simp only [RegistryService.deregister, RegistryService.beginDeregister]
      cases r.find id with
      | none => exact .inr rfl
      | some found =>
        exact .inl (by simp [RegistryService.completeDeregister, PlainObject.get?_delete])
    change (r.deregister id now).registry.services.get? id = some e' at he'
    rcases hsub with hnone | hsame
    · cases hnone.symm.trans he'
    · rw [hsame] at he'
      exact h e' he'
  | lifecycle c =>
    cases he : r.services.get? c.id with
    | none =>
      change (r.lifecycle c now).registry.services.get? c.id = some e' at he'
      rw [lifecycle_missing c he] at he'
      cases he.symm.trans he'
    | some e =>
      rw [lifecycle_lastWord he c rfl he', h e he]

/-- A reload takes over what its records say. -/
theorem load_lastWord {s : LastWord} (h : ∀ e, r.services.get? id = some e → s = e.lastWord)
    (hash : RedisHash) {e' : ServiceRegistryEntry}
    (he' : (r.loadEntries hash).services.get? id = some e') : s.read id hash = e'.lastWord := by
  rw [RegistryService.get?_loadEntries] at he'
  rcases Option.or_eq_some_iff.mp he' with hread | ⟨hnone, hold⟩
  · obtain ⟨-, hrecord⟩ := RegistryService.get?_getRedisEntries_iff.mp hread
    simp only [LastWord.read, hrecord]
  · have hne : id ≠ "__proto__" := PlainObject.ne_proto_of_get? hold
    have hrecord : ∀ e, hash.lookup id ≠ some (.entry e) := by
      intro e heq
      rw [RegistryService.get?_getRedisEntries_iff.mpr ⟨hne, heq⟩] at hnone
      cases hnone
    unfold LastWord.read
    split
    · rename_i e heq
      exact absurd heq (hrecord e)
    · exact h e' hold

/-- The step lemma: what was last said of a service keeps up with its entry. -/
theorem tracks_step (h : Tracks w) (a : GatewayAction) : Tracks (w.step a) := by
  intro id e' he'
  have hid := h id
  simp only [Watched.step, Gateway.step_registry] at he' ⊢
  cases a with
  | call c now write =>
    simp only [LastWord.after]
    by_cases hc : c.id = id
    · subst hc
      rw [if_pos rfl]
      exact call_lastWord hid write he'
    · rw [if_neg hc]
      rw [call_services_ne _ _ _ _ (Ne.symm hc)] at he'
      exact hid e' he'
  | loadFromRedis hash =>
    simp only [LastWord.after, RegistryService.loadFromRedis] at he' ⊢
    by_cases hr : w.gateway.registry.redis = true
    · rw [if_pos hr] at he' ⊢
      exact load_lastWord hid hash he'
    · rw [if_neg hr] at he' ⊢
      exact hid e' he'
  | reconcile compared loaded =>
    simp only [LastWord.after, RegistryService.reconcile] at he' ⊢
    by_cases hd : (w.gateway.registry.redis && RegistryService.hasDrift
        (RegistryService.getRedisEntries compared) w.gateway.registry.services) = true
    · rw [if_pos hd] at he' ⊢
      exact load_lastWord hid loaded he'
    · rw [if_neg hd] at he' ⊢
      exact hid e' he'
  | proxyRequest | proxyRes | proxyError | finish => exact hid e' he'

theorem tracks_start (g : Gateway) : Tracks (.start g) := by
  intro id e he
  simp only [Watched.start] at he ⊢
  rw [he]
  rfl

/-- Over every run of a gateway: proxied traffic goes to routable services only, exactly when no
request of the run gets through to a service that the calls and reloads before it have last said to
be unhealthy or proposed. -/
theorem routes_only_iff (g : Gateway) (run : List GatewayAction) :
    Runs.Always Gateway.step RoutesOnly g run ↔
      Runs.Always Watched.step SparesUnroutable (.start g) run := by
  have hmap : Runs.Always Watched.step (fun w => RoutesOnly w.gateway) (Watched.start g) run ↔
      Runs.Always Gateway.step RoutesOnly g run :=
    Runs.always_map Watched.gateway (fun _ _ => rfl) (Watched.start g) run
  rw [← hmap]
  refine Runs.always_iff_of_kept (I := Tracks) ?_ ?_ (tracks_start g) run
  · intro w a h
    exact routesOnly_iff h
  · intro w a h _
    exact tracks_step h a

def markUnhealthy : GatewayAction :=
  .call (.lifecycle (.setHealthStatus "billing" false)) "t2" .acknowledged

/-- The health monitor has marked `billing` unhealthy, and requests still reach it. -/
theorem unhealthy_is_forwarded : ¬ Runs.Always Gateway.step RoutesOnly {}
    [.call (.register orders) "t0" .acknowledged, .call (.register billing) "t1" .acknowledged,
      markUnhealthy, .proxyRequest .tribe "billing" fromOrders 0 false] := by
  intro hex
  obtain ⟨-, -, -, h, -⟩ := hex
  have hrout := h "billing" (ready.tribes.createProxy "billing" "http://billing:1") (by decide)
  revert hrout
  decide

end Proofs.Routability

end ApiCenter
