import ApiCenter.Proofs.FailFast
import ApiCenter.Proofs.Isolation
import ApiCenter.Proofs.Mediation

namespace ApiCenter
open Library

/-- The reading of the clock an action comes with. -/
def GatewayAction.clock : GatewayAction → Option Nat
  | .proxyRequest _ _ _ now _ => some now
  | .proxyRes _ _ _ now => some now
  | .proxyError _ _ now => some now
  | .finish _ _ now => some now
  | .call .. | .loadFromRedis _ | .reconcile .. => none

/-- The breaker in front of an upstream. -/
def Gateway.breaker (g : Gateway) (ns : ServiceType) (target : String) : CircuitBreaker :=
  (g.handler ns).getOrCreateCircuitBreaker target

namespace Proofs.OpenUpstreams
open Isolation Mediation

/-- Nothing goes to the upstream before `limit`; a request that gets past the other gates is
answered with a 503. -/
def TurnsAway (ns : ServiceType) (target : String) (limit : Nat) (g : Gateway) (a : GatewayAction) :
    Prop :=
  ∀ req now throws, a = .proxyRequest ns target req now throws → now < limit →
    g.forwards a = none ∧
      (Passes (g.handler ns) g.registry target req →
        (g.proxied ns target req now throws).result = .error (.serviceUnavailableError
          s!"Upstream '{target}' is temporarily unavailable (circuit breaker open)"))

variable {g : Gateway} {ns : ServiceType} {target other : String} {h : ProxyHandler}

theorem breaker_insert (b : CircuitBreaker) :
    ProxyHandler.getOrCreateCircuitBreaker
      { h with circuitBreakers := h.circuitBreakers.insert target b } target = b := by
  simp [ProxyHandler.getOrCreateCircuitBreaker]

/-- What a step of the gateway is for one breaker: one of its calls at the same time, or nothing. -/
inductive Passed (a : GatewayAction) (b b' : CircuitBreaker) : Prop
  | unnoticed (h : b' = b)
  | acted (act : BreakerAction) (hr : act ≠ .reset)
      (hc : ∀ now, act.clock = some now → a.clock = some now) (h : b' = b.step act)

theorem proxyRequest_passed (h : ProxyHandler) (r : RegistryService) (req : AuthenticatedRequest)
    (now : Nat) (throws : Bool) :
    Passed (.proxyRequest ns target req now throws) (h.getOrCreateCircuitBreaker target)
      ((h.proxyRequest r target req now throws).handler.getOrCreateCircuitBreaker target) := by
  by_cases hp : Passes h r target req
  · obtain ⟨e, headers, -, hout⟩ := proxyRequest_passes hp
    rw [hout, forward_handler]
    refine .acted (.tryAcquire now) (by simp) (fun now hn => hn) ?_
    simp [ProxyHandler.getOrCreateCircuitBreaker, CircuitBreaker.step]
  · obtain ⟨headers, t, hout⟩ := proxyRequest_blocked now throws hp
    rw [hout]
    exact .unnoticed rfl

theorem proxyRes_passed (h : ProxyHandler) (status now : Nat) :
    Passed (.proxyRes ns target status now) (h.getOrCreateCircuitBreaker target)
      ((h.proxyRes target status now).getOrCreateCircuitBreaker target) := by
  unfold ProxyHandler.proxyRes
  cases hl : h.circuitBreakers.lookup target with
  | none => exact .unnoticed rfl
  | some cb =>
    have hb : h.getOrCreateCircuitBreaker target = cb := by
      simp [ProxyHandler.getOrCreateCircuitBreaker, hl]
    dsimp only
    rw [breaker_insert, hb]
    split
    · exact .acted (.recordFailure now) (by simp) (fun now hn => hn) rfl
    · exact .acted .recordSuccess (by simp) (fun now hn => by cases hn) rfl

theorem proxyError_passed (h : ProxyHandler) (now : Nat) :
    Passed (.proxyError ns target now) (h.getOrCreateCircuitBreaker target)
      ((h.proxyError target now).getOrCreateCircuitBreaker target) := by
  unfold ProxyHandler.proxyError
  cases hl : h.circuitBreakers.lookup target with
  | none => exact .unnoticed rfl
  | some cb =>
    have hb : h.getOrCreateCircuitBreaker target = cb := by
      simp [ProxyHandler.getOrCreateCircuitBreaker, hl]
    dsimp only
    rw [breaker_insert, hb]
    exact .acted (.recordFailure now) (by simp) (fun now hn => hn) rfl

/-- No call on the registry touches a breaker, and no traffic but that of its own upstream. -/
theorem step_passed (g : Gateway) (ns : ServiceType) (target : String) (a : GatewayAction) :
    Passed a (g.breaker ns target) ((g.step a).breaker ns target) := by
  cases hc : a.concerns ns target with
  | false =>
    have hagree := GatewaysAgree.skip hc (⟨rfl, .refl _⟩ : GatewaysAgree ns target g g)
    exact .unnoticed hagree.handler.breaker_eq
  | true =>
    unfold Gateway.breaker
    rw [step_handler]
    cases a with
    | call c now write =>
      dsimp only
      cases (g.registry.call c now write).notified <;> exact .unnoticed rfl
    | loadFromRedis | reconcile | finish => exact .unnoticed rfl
    | proxyRequest ns' target' req now throws =>
      obtain ⟨rfl, rfl⟩ : ns' = ns ∧ target' = target := by
        simpa [GatewayAction.concerns, GatewayAction.upstream] using hc
      simp only [if_true]
      exact proxyRequest_passed _ _ req now throws
    | proxyRes ns' target' status now =>
      obtain ⟨rfl, rfl⟩ : ns' = ns ∧ target' = target := by
        simpa [GatewayAction.concerns, GatewayAction.upstream] using hc
      simp only [if_true]
      exact proxyRes_passed _ status now
    | proxyError ns' target' now =>
      obtain ⟨rfl, rfl⟩ : ns' = ns ∧ target' = target := by
        simpa [GatewayAction.concerns, GatewayAction.upstream] using hc
      simp only [if_true]
      exact proxyError_passed _ now

theorem breaker_timeout (g : Gateway) (as : List GatewayAction) :
    ((Runs.final Gateway.step g as).breaker ns target).resetTimeoutMs =
      (g.breaker ns target).resetTimeoutMs := by
  have hstep : ∀ (g : Gateway) (a : GatewayAction),
      ((g.step a).breaker ns target).resetTimeoutMs = (g.breaker ns target).resetTimeoutMs := by
    intro g a
    cases step_passed g ns target a with
    | unnoticed h => rw [h]
    | acted act hr hc h => rw [h, (CircuitBreaker.step_options _ act).2.1]
  exact Runs.final_eq_of_step (f := fun g => (g.breaker ns target).resetTimeoutMs) hstep g as

/-- Only a recorded failure opens a breaker, so the step that does has a clock. -/
theorem opens_openSince {a : GatewayAction} {t : Nat} (ha : a.clock = some t)
    (hbefore : (g.breaker ns target).state ≠ .OPEN)
    (hopen : ((g.step a).breaker ns target).state = .OPEN) :
    CircuitBreaker.OpenSince t (g.breaker ns target).resetTimeoutMs
      ((g.step a).breaker ns target) := by
  cases step_passed g ns target a with
  | unnoticed h =>
    rw [h] at hopen
    exact absurd hopen hbefore
  | acted act hr hc h =>
    rw [h] at hopen ⊢
    have hclock : act.clock = some t := by
      cases act with
      | tryAcquire now | execute now | recordFailure now => exact (hc now rfl).symm.trans ha
      | recordSuccess =>
        simp only [CircuitBreaker.step, CircuitBreaker.recordSuccess] at hopen
        split_ifs at hopen with hhalf
        · cases hopen.symm.trans hhalf
        · exact absurd hopen hbefore
      | reset => exact absurd rfl hr
    exact CircuitBreaker.openSince_of_opens hbefore hclock hopen

/-- Whatever the gateway does before the window is over, the breaker stays open. -/
theorem step_openSince {a : GatewayAction} {t timeout : Nat}
    (h : CircuitBreaker.OpenSince t timeout (g.breaker ns target))
    (hc : ∀ now, a.clock = some now → t ≤ now) :
    CircuitBreaker.OpenSince t timeout ((g.step a).breaker ns target) ∨
      ∃ now, a.clock = some now ∧ t + timeout ≤ now := by
  cases step_passed g ns target a with
  | unnoticed hb => exact .inl (by rw [hb]; exact h)
  | acted act hr hclock hb =>
    rw [hb]
    rcases h.step hr (fun now hn => hc now (hclock now hn)) with hopen | ⟨now, hn, hlate⟩
    · exact .inl hopen
    · exact .inr ⟨now, hclock now hn, hlate⟩

theorem openSince_turnsAway {t timeout : Nat}
    (h : CircuitBreaker.OpenSince t timeout (g.breaker ns target)) (a : GatewayAction) :
    TurnsAway ns target (t + timeout) g a := by
  intro req now throws ha hn
  subst ha
  have hb : ¬ BreakerAdmits (g.handler ns) target now := by
    have hrejects := (h.rejects (.tryAcquire now)).acquire now hn rfl
    unfold BreakerAdmits
    rw [show (g.handler ns).getOrCreateCircuitBreaker target = g.breaker ns target from rfl,
      hrejects]
    exact Bool.false_ne_true
  constructor
  · rw [← Option.not_isSome_iff_eq_none]
    intro hsome
    exact hb ((forwards_isSome_iff throws).mp hsome).2
  · intro hp
    obtain ⟨e, headers, -, hout⟩ := proxyRequest_passes hp
    unfold Gateway.proxied
    rw [hout]
    unfold BreakerAdmits at hb
    simp [ProxyHandler.forward, hb]

/-- The window holds over a run of the gateway, as `clock_head` has it for one breaker. -/
theorem turnsAway_run {t timeout : Nat} {as : List GatewayAction}
    (h : CircuitBreaker.OpenSince t timeout (g.breaker ns target) ∨
      ∀ now ∈ as.filterMap GatewayAction.clock, t + timeout ≤ now)
    (ht : ∀ now ∈ as.filterMap GatewayAction.clock, t ≤ now)
    (hp : (as.filterMap GatewayAction.clock).Pairwise (· ≤ ·)) :
    Runs.Always Gateway.step (TurnsAway ns target (t + timeout)) g as := by
  induction as generalizing g with
  | nil => trivial
  | cons a as ih =>
    have htail : as.filterMap GatewayAction.clock <:+ (a :: as).filterMap GatewayAction.clock :=
      (List.suffix_cons a as).filterMap _
    have hlater : ∀ now, a.clock = some now → now ∈ (a :: as).filterMap GatewayAction.clock ∧
        ∀ later ∈ as.filterMap GatewayAction.clock, now ≤ later := by
      intro now hc
      rw [List.filterMap_cons_some hc] at hp ⊢
      exact ⟨List.mem_cons_self, (List.pairwise_cons.mp hp).1⟩
    have hrest : ∀ g : Gateway, (CircuitBreaker.OpenSince t timeout (g.breaker ns target) ∨
        ∀ now ∈ as.filterMap GatewayAction.clock, t + timeout ≤ now) →
        Runs.Always Gateway.step (TurnsAway ns target (t + timeout)) g as := by
      intro g hg
      exact ih hg (fun now hn => ht now (htail.mem hn)) (hp.sublist htail.sublist)
    rcases h with h | h
    · refine ⟨openSince_turnsAway h a, hrest _ ?_⟩
      rcases step_openSince h (fun now hc => ht now (hlater now hc).1) with hopen | ⟨now, hc, hlate⟩
      · exact .inl hopen
      · exact .inr fun later hl => Nat.le_trans hlate ((hlater now hc).2 later hl)
    · refine ⟨?_, hrest _ (.inr fun now hn => h now (htail.mem hn))⟩
      intro req now throws ha hn
      subst ha
      have hlate := h now (hlater now rfl).1
      omega

/-- From the moment `t` the breaker of an upstream opens, the gateway sends it nothing for 30
seconds, whatever else comes: answers that are late, other traffic, calls on the registry. -/
theorem open_upstream_spared (as bs : List GatewayAction) (a : GatewayAction) (ns : ServiceType)
    (target : String) (t : Nat)
    (hclock : ((as ++ a :: bs).filterMap GatewayAction.clock).Pairwise (· ≤ ·))
    (ha : a.clock = some t)
    (hbefore : ((Runs.final Gateway.step {} as).breaker ns target).state ≠ .OPEN)
    (hopen : ((Runs.final Gateway.step {} (as ++ [a])).breaker ns target).state = .OPEN) :
    Runs.Always Gateway.step (TurnsAway ns target (t + 30000))
      (Runs.final Gateway.step {} (as ++ [a])) bs := by
  rw [List.filterMap_append, List.pairwise_append] at hclock
  obtain ⟨-, hp, -⟩ := hclock
  rw [List.filterMap_cons_some ha, List.pairwise_cons] at hp
  have hfresh : ((Runs.final Gateway.step {} as).breaker ns target).resetTimeoutMs = 30000 := by
    rw [breaker_timeout]
    cases ns <;> rfl
  rw [Runs.final_append, Runs.final_cons, Runs.final_nil] at hopen ⊢
  have hsince := opens_openSince ha hbefore hopen
  rw [hfresh] at hsince
  exact turnsAway_run (.inl hsince) hp.1 hp.2

/-- Five answers of `billing` that count as failures, after the two registrations. -/
def failing : List GatewayAction :=
  [.call (.register orders) "t0" .acknowledged, .call (.register billing) "t1" .acknowledged,
    .proxyRequest .tribe "billing" fromOrders 1000 false] ++
  List.replicate 4 (.proxyRes .tribe "billing" 503 1000)

theorem open_upstream_spared_billing :
    Runs.Always Gateway.step (TurnsAway .tribe "billing" 32000)
      (Runs.final Gateway.step {} (failing ++ [.proxyError .tribe "billing" 2000]))
      [.call (.register billing) "t2" .acknowledged, .proxyRes .tribe "billing" 200 3000,
        .proxyRequest .tribe "billing" fromOrders 31999 false] :=
  open_upstream_spared failing
    [.call (.register billing) "t2" .acknowledged, .proxyRes .tribe "billing" 200 3000,
      .proxyRequest .tribe "billing" fromOrders 31999 false]
    (.proxyError .tribe "billing" 2000) .tribe "billing" 2000 (by decide) rfl (by decide)
    (by decide)

end Proofs.OpenUpstreams

end ApiCenter
