import ApiCenter.Library.Runs
import ApiCenter.Model.CircuitBreaker

namespace ApiCenter.CircuitBreaker

open ApiCenter.Library.Runs

/-- A call made before `limit` is turned away. -/
structure Rejects (limit : Nat) (b : CircuitBreaker) (a : BreakerAction) : Prop where
  acquire : ∀ now < limit, a = .tryAcquire now → (b.tryAcquire now).2 = false
  execute : ∀ now < limit, a = .execute now → ∃ message, (b.beginExecute now).2 = .error message

/-- The breaker is open and its last failure is no earlier than `t`. -/
structure OpenSince (t timeout : Nat) (b : CircuitBreaker) : Prop where
  state : b.state = .OPEN
  failed : t ≤ b.lastFailureTime
  timeout : b.resetTimeoutMs = timeout

theorem OpenSince.coolingDown {t timeout now : Nat} {b : CircuitBreaker}
    (h : OpenSince t timeout b) (hn : now < t + timeout) : b.coolingDown now = true := by
  have hf := h.failed
  have ht := h.timeout
  simp only [CircuitBreaker.coolingDown, decide_eq_true_eq]
  omega

theorem OpenSince.rejects {t timeout : Nat} {b : CircuitBreaker} (h : OpenSince t timeout b)
    (a : BreakerAction) : Rejects (t + timeout) b a where
  acquire now hn _ := by simp [tryAcquire, h.state, h.coolingDown hn]
  execute now hn _ := ⟨_, by rw [beginExecute_rejected h.state (h.coolingDown hn)]⟩

/-- Only a call that comes after the window ends it: whatever late outcomes arrive, the last
failure only moves forward. -/
theorem OpenSince.step {t timeout : Nat} {b : CircuitBreaker} {a : BreakerAction}
    (h : OpenSince t timeout b) (hr : a ≠ .reset) (hc : ∀ now, a.clock = some now → t ≤ now) :
    OpenSince t timeout (b.step a) ∨ ∃ now, a.clock = some now ∧ t + timeout ≤ now := by
  have hs := h.state
  by_cases hlate : ∃ now, a.clock = some now ∧ t + timeout ≤ now
  · exact .inr hlate
  · left
    have hcool : ∀ now, a.clock = some now → b.coolingDown now = true := by
      intro now hn
      exact h.coolingDown (Nat.not_le.mp fun hle => hlate ⟨now, hn, hle⟩)
    cases a with
    | tryAcquire now =>
      have hb := hcool now rfl
      simpa [CircuitBreaker.step, tryAcquire, hs, hb] using h
    | execute now =>
      have hb := hcool now rfl
      simpa [CircuitBreaker.step, beginExecute, hs, hb] using h
    | recordSuccess =>
      simp only [CircuitBreaker.step, recordSuccess, hs, reduceCtorEq, if_false]
      exact ⟨rfl, h.failed, h.timeout⟩
    | recordFailure now =>
      simp only [CircuitBreaker.step, recordFailure, hs, reduceCtorEq, if_false]
      split_ifs
      · exact ⟨rfl, hc now rfl, h.timeout⟩
      · exact ⟨rfl, hc now rfl, h.timeout⟩
    | reset => exact absurd rfl hr

/-- The reading of the first action is one of the run, and no later one is below it. -/
theorem clock_head {a : BreakerAction} {as : List BreakerAction} {now : Nat}
    (hc : a.clock = some now) (hp : ((a :: as).filterMap BreakerAction.clock).Pairwise (· ≤ ·)) :
    now ∈ (a :: as).filterMap BreakerAction.clock ∧
      ∀ later ∈ as.filterMap BreakerAction.clock, now ≤ later := by
  rw [List.filterMap_cons_some hc] at hp ⊢
  exact ⟨List.mem_cons_self, (List.pairwise_cons.mp hp).1⟩

theorem clock_tail (a : BreakerAction) (as : List BreakerAction) :
    as.filterMap BreakerAction.clock <:+ (a :: as).filterMap BreakerAction.clock :=
  (List.suffix_cons a as).filterMap _

/-- The window holds over a run: either the breaker is still open, or every later reading is past
the window. -/
theorem rejects_run {t timeout : Nat} {b : CircuitBreaker} {as : List BreakerAction}
    (h : OpenSince t timeout b ∨ ∀ now ∈ as.filterMap BreakerAction.clock, t + timeout ≤ now)
    (ht : ∀ now ∈ as.filterMap BreakerAction.clock, t ≤ now)
    (hp : (as.filterMap BreakerAction.clock).Pairwise (· ≤ ·)) (hr : .reset ∉ as) :
    Always step (Rejects (t + timeout)) b as := by
  induction as generalizing b with
  | nil => trivial
  | cons a as ih =>
    have htail := clock_tail a as
    have hra : a ≠ .reset := fun h => hr (h ▸ List.mem_cons_self)
    have hrest : ∀ s, (OpenSince t timeout s ∨
        ∀ now ∈ as.filterMap BreakerAction.clock, t + timeout ≤ now) →
        Always step (Rejects (t + timeout)) s as := by
      intro s hs
      exact ih hs (fun now hn => ht now (htail.mem hn)) (hp.sublist htail.sublist)
        (fun hm => hr (List.mem_cons_of_mem a hm))
    rcases h with h | h
    · refine ⟨h.rejects a, hrest _ ?_⟩
      have hnow : ∀ now, a.clock = some now → t ≤ now :=
        fun now hc => ht now (clock_head hc hp).1
      rcases h.step hra hnow with h | ⟨now, hc, hlate⟩
      · exact .inl h
      · exact .inr fun later hl => Nat.le_trans hlate ((clock_head hc hp).2 later hl)
    · refine ⟨⟨?_, ?_⟩, hrest _ (.inr fun now hn => h now (htail.mem hn))⟩
      · intro now hn ha
        subst ha
        have hlate := h now (clock_head rfl hp).1
        omega
      · intro now hn ha
        subst ha
        have hlate := h now (clock_head rfl hp).1
        omega

/-- Only a failure opens the breaker, and its time is the one the breaker keeps. -/
theorem openSince_of_opens {b : CircuitBreaker} {a : BreakerAction} {t : Nat}
    (hb : b.state ≠ .OPEN) (ha : a.clock = some t) (ho : (b.step a).state = .OPEN) :
    OpenSince t b.resetTimeoutMs (b.step a) := by
  refine ⟨ho, ?_, (step_options b a).2.1⟩
  cases a with
  | tryAcquire now => simp [CircuitBreaker.step, tryAcquire, hb] at ho
  | execute now => simp [CircuitBreaker.step, beginExecute, hb] at ho
  | recordSuccess => simp [BreakerAction.clock] at ha
  | recordFailure now =>
    have hnow : now = t := Option.some.inj ha
    subst hnow
    simp only [CircuitBreaker.step, recordFailure]
    split_ifs <;> exact Nat.le_refl now
  | reset => simp [BreakerAction.clock] at ha

/-- From the moment `t` the breaker opens, no call is let through for `resetTimeoutMs`. -/
theorem rejects_after_opening (b : CircuitBreaker) (as bs : List BreakerAction)
    (a : BreakerAction) (t : Nat)
    (hclock : ((as ++ a :: bs).filterMap BreakerAction.clock).Pairwise (· ≤ ·))
    (hreset : .reset ∉ as ++ a :: bs) (ha : a.clock = some t)
    (hbefore : (final step b as).state ≠ .OPEN)
    (hopen : (final step b (as ++ [a])).state = .OPEN) :
    Always step (Rejects (t + b.resetTimeoutMs)) (final step b (as ++ [a])) bs := by
  have hsame : (final step b as).resetTimeoutMs = b.resetTimeoutMs :=
    final_eq_of_step (fun b a => (step_options b a).2.1) b as
  rw [List.filterMap_append, List.pairwise_append] at hclock
  obtain ⟨-, hp, -⟩ := hclock
  simp only [final_append, final_cons, final_nil] at hopen ⊢
  have hsince := openSince_of_opens hbefore ha hopen
  rw [hsame] at hsince
  refine rejects_run (.inl hsince) (clock_head ha hp).2 (hp.sublist (clock_tail a bs).sublist) ?_
  intro hm
  exact hreset (List.mem_append_right as (List.mem_cons_of_mem a hm))

/-- Two late outcomes and a refused call within the window. -/
theorem rejects_after_fifth_failure :
    Always step (Rejects 32000)
      (final step (create "billing" {}) (List.replicate 4 (.recordFailure 1000) ++
        [.recordFailure 2000]))
      [.recordSuccess, .recordFailure 3000, .tryAcquire 31999, .execute 33000] :=
  rejects_after_opening (create "billing" {}) (List.replicate 4 (.recordFailure 1000))
    [.recordSuccess, .recordFailure 3000, .tryAcquire 31999, .execute 33000]
    (.recordFailure 2000) 2000 (by decide) (by decide) rfl (by decide) (by decide)

end ApiCenter.CircuitBreaker
