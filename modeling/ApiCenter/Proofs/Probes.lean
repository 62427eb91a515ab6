import ApiCenter.Library.Runs
import ApiCenter.Model.Traffic

namespace ApiCenter.Traffic

open ApiCenter.Library.Runs

/-- A breaker that is half open after the action has one probe out at most, and while a probe is
out who comes is turned away. -/
structure OneProbe (t : Traffic) (a : TrafficAction) : Prop where
  atMostOne : (t.step a).breaker.state = .HALF_OPEN → (t.step a).freshCount .outstanding ≤ 1
  rejects : ∀ via now, a = .arrive via now → t.breaker.state = .HALF_OPEN →
    0 < t.freshCount .outstanding → via.admits t.breaker now = false

/-- A request comes while a probe is out. -/
def JoinsProbe (t : Traffic) : TrafficAction → Prop
  | .arrive _ _ => t.breaker.state = .HALF_OPEN ∧ 0 < t.freshCount .outstanding
  | .settle .. | .lateError _ | .reset => False

/-- A success of a request from before the breaker went half open is told to the half-open
breaker. -/
def StaleSuccess (t : Traffic) : TrafficAction → Prop
  | .settle i (.ok _) _ => t.breaker.state = .HALF_OPEN ∧ ∃ a, t.pending i = some a ∧ ¬ t.Fresh a
  | .settle _ (.error _) _ | .arrive .. | .lateError _ | .reset => False

/-- Only requests let through since the breaker went half open close it, as many as its threshold
says, and the success of an older one changes nothing. -/
structure FreshCloses (t : Traffic) (a : TrafficAction) : Prop where
  enough : t.breaker.state = .HALF_OPEN → (t.step a).breaker.state = .CLOSED → a ≠ .reset →
    t.breaker.successThreshold ≤ (t.step a).freshCount .succeeded
  ignored : t.StaleSuccess a → (t.step a).breaker = t.breaker

/-- What a half-open breaker has counted. -/
structure Probed (t : Traffic) : Prop where
  periods : ∀ a ∈ t.attempts, a.period ≤ t.periods
  counted : t.breaker.state = .HALF_OPEN → t.breaker.successCount = t.freshCount .succeeded

theorem probed_new (b : CircuitBreaker) (hb : b.state ≠ .HALF_OPEN) :
    Probed { breaker := b } := ⟨by simp, fun h => absurd h hb⟩

section

variable {t : Traffic}

theorem recordSuccess_halfOpen {b : CircuitBreaker} (h : b.recordSuccess.state = .HALF_OPEN) :
    b.state = .HALF_OPEN ∧ b.recordSuccess.successCount = b.successCount + 1 := by
  simp only [CircuitBreaker.recordSuccess] at h ⊢
  split_ifs at h ⊢ with hs
  · exact ⟨hs, rfl⟩
  · contradiction

theorem recordFailure_halfOpen (b : CircuitBreaker) (now : Nat) :
    (b.recordFailure now).state ≠ .HALF_OPEN := by
  simp only [CircuitBreaker.recordFailure]
  split_ifs with hs <;> simp [hs]

/-- An arrival that opens a period leaves one fresh request, and any other arrival only adds
one to the list. -/
theorem arrive_cases (h : ∀ a ∈ t.attempts, a.period ≤ t.periods) (via : Interface) (now : Nat) :
    ((t.arrive via now).breaker.state = .HALF_OPEN ∧
      (t.arrive via now).breaker.successCount = 0 ∧
      (t.arrive via now).freshCount .outstanding = 1 ∧
      (t.arrive via now).freshCount .succeeded = 0) ∨
    ((t.arrive via now).breaker = t.breaker ∧
      (t.arrive via now).freshCount .outstanding =
        t.freshCount .outstanding + (if via.admits t.breaker now then 1 else 0) ∧
      (t.arrive via now).freshCount .succeeded = t.freshCount .succeeded) := by
  have hadmits := via.admits_iff t.breaker now
  have hstep := via.step_arrival t.breaker now
  by_cases ho : t.breaker.state = .OPEN ∧ t.breaker.coolingDown now = false
  · left
    rw [if_pos ho] at hstep
    have hin : via.admits t.breaker now = true := hadmits.mpr fun _ => ho.2
    have hold : ∀ s,
        (t.attempts.countP fun a => a.period = t.periods + 1 ∧ a.standing = s) = 0 := by
      intro s
      rw [List.countP_eq_zero]
      intro a ha
      have hle := h a ha
      simp only [decide_eq_true_eq]
      omega
    have hperiods : t.periodsAfter (t.breaker.step (via.arrival now)) = t.periods + 1 := by
      simp [periodsAfter, hstep, ho.1]
    simp only [freshCount_eq, arrive, hperiods, List.countP_append, hold, hin]
    simp [hstep]
  · right
    rw [if_neg ho] at hstep
    have hperiods : t.periodsAfter (t.breaker.step (via.arrival now)) = t.periods := by
      rw [hstep, periodsAfter, if_neg]
      rintro ⟨ho, hh⟩
      rw [ho] at hh
      cases hh
    simp only [freshCount_eq, arrive, hperiods, List.countP_append]
    cases via.admits t.breaker now <;> simp [hstep]

/-- Settling a request moves it from the outstanding ones to those that stand as it was settled. -/
theorem settle_counts {i : Nat} {a : Attempt} (ha : t.pending i = some a)
    (settled : Except String Unit) (now : Nat) :
    (t.settle i settled now).freshCount .outstanding =
        t.freshCount .outstanding - (if t.Fresh a then 1 else 0) ∧
      (t.settle i settled now).freshCount .succeeded =
        t.freshCount .succeeded +
          (if t.Fresh a ∧ Standing.ofSettled settled = .succeeded then 1 else 0) := by
  obtain ⟨hget, hout⟩ := pending_eq_some.mp ha
  obtain ⟨hlt, hi⟩ := List.getElem?_eq_some_iff.mp hget
  simp only [settle, ha, freshCount_eq, List.countP_set hlt, hi, hout]
  by_cases hf : t.Fresh a
  · have hp : a.period = t.periods := hf
    cases settled <;> simp [Standing.ofSettled, hf, hp]
  · have hp : ¬ a.period = t.periods := hf
    cases settled <;> simp [Standing.ofSettled, hf, hp]

theorem settle_breaker {i : Nat} {a : Attempt} (ha : t.pending i = some a)
    (settled : Except String Unit) (now : Nat) :
    (t.settle i settled now).breaker = t.breaker.step (CircuitBreaker.recording settled now) := by
  simp only [settle, ha, Interface.settle_eq_step]

/-- No action ever brings in a request of a later period than the breaker has reached. -/
theorem periods_step (h : ∀ a ∈ t.attempts, a.period ≤ t.periods) (action : TrafficAction) :
    ∀ a ∈ (t.step action).attempts, a.period ≤ (t.step action).periods := by
  cases action with
  | arrive via now =>
    intro a ha
    have hle : t.periods ≤ t.periodsAfter (t.breaker.step (via.arrival now)) := by
      rw [periodsAfter]
      split_ifs <;> omega
    rcases List.mem_append.mp ha with ha | ha
    · exact Nat.le_trans (h a ha) hle
    · rw [List.mem_singleton.mp ha]
      exact Nat.le_refl _
  | settle i settled now =>
    cases hp : t.pending i with
    | none => simpa [step, settle, hp] using h
    | some b =>
      intro a ha
      simp only [step, settle, hp] at ha ⊢
      rcases List.mem_or_eq_of_mem_set ha with ha | ha
      · exact h a ha
      · rw [ha]
        exact h b (List.mem_of_getElem? (pending_eq_some.mp hp).1)
  | lateError now => exact h
  | reset => exact h

theorem Probed.step (h : Probed t) {a : TrafficAction} (hs : ¬ t.StaleSuccess a) :
    Probed (t.step a) := by
  refine ⟨periods_step h.periods a, ?_⟩
  intro hhalf
  cases a with
  | arrive via now =>
    rcases arrive_cases h.periods via now with ⟨-, hzero, -, hnone⟩ | ⟨hsame, -, hcount⟩
    · exact hzero.trans hnone.symm
    · simp only [Traffic.step, hsame, hcount] at hhalf ⊢
      exact h.counted hhalf
  | settle i settled now =>
    cases hp : t.pending i with
    | none =>
      simp only [Traffic.step, settle, hp] at hhalf ⊢
      exact h.counted hhalf
    | some b =>
      simp only [Traffic.step, settle_breaker hp, (settle_counts hp settled now).2] at hhalf ⊢
      cases settled with
      | ok _ =>
        obtain ⟨hwas, hcount⟩ := recordSuccess_halfOpen hhalf
        have hfresh : t.Fresh b := by
          by_contra hb
          exact hs ⟨hwas, b, hp, hb⟩
        rw [if_pos ⟨hfresh, rfl⟩, ← h.counted hwas]
        exact hcount
      | error _ => exact absurd hhalf (recordFailure_halfOpen _ now)
  | lateError now => exact absurd hhalf (recordFailure_halfOpen _ now)
  | reset => cases hhalf

/-- A half-open breaker is never left as it was by a success. -/
theorem recordSuccess_ne {b : CircuitBreaker} (hb : b.state = .HALF_OPEN) :
    b.recordSuccess ≠ b := by
  intro h
  simp only [CircuitBreaker.recordSuccess, hb, if_true] at h
  split_ifs at h
  · have hstate := congrArg CircuitBreaker.state h
    rw [hb] at hstate
    cases hstate
  · have hcount := congrArg CircuitBreaker.successCount h
    simp at hcount

theorem recordSuccess_closes {b : CircuitBreaker} (hb : b.state = .HALF_OPEN)
    (hc : b.recordSuccess.state = .CLOSED) : b.successThreshold ≤ b.successCount + 1 := by
  by_contra hlow
  simp [CircuitBreaker.recordSuccess, hb, hlow] at hc

theorem recordFailure_opens {b : CircuitBreaker} (hb : b.state = .HALF_OPEN) (now : Nat) :
    (b.recordFailure now).state = .OPEN := by
  simp [CircuitBreaker.recordFailure, hb]

/-- Unless an old success is counted, the breaker closes on enough fresh ones. -/
theorem fresh_closing (h : Probed t) {a : TrafficAction} (hs : ¬ t.StaleSuccess a)
    (hhalf : t.breaker.state = .HALF_OPEN) (hclosed : (t.step a).breaker.state = .CLOSED)
    (hr : a ≠ .reset) : t.breaker.successThreshold ≤ (t.step a).freshCount .succeeded := by
  cases a with
  | arrive via now =>
    rcases arrive_cases h.periods via now with ⟨hstate, -⟩ | ⟨hsame, -⟩
    · simp only [Traffic.step, hstate] at hclosed
      cases hclosed
    · simp only [Traffic.step, hsame, hhalf] at hclosed
      cases hclosed
  | settle i settled now =>
    cases hp : t.pending i with
    | none =>
      simp only [Traffic.step, settle, hp, hhalf] at hclosed
      cases hclosed
    | some b =>
      simp only [Traffic.step, settle_breaker hp, (settle_counts hp settled now).2] at hclosed ⊢
      cases settled with
      | ok _ =>
        have hfresh : t.Fresh b := by
          by_contra hb
          exact hs ⟨hhalf, b, hp, hb⟩
        rw [if_pos ⟨hfresh, rfl⟩, ← h.counted hhalf]
        exact recordSuccess_closes hhalf hclosed
      | error _ => cases (recordFailure_opens hhalf now).symm.trans hclosed
  | lateError now => cases (recordFailure_opens hhalf now).symm.trans hclosed
  | reset => exact absurd rfl hr

theorem freshCloses_iff (h : Probed t) (a : TrafficAction) :
    FreshCloses t a ↔ ¬ t.StaleSuccess a := by
  constructor
  · intro hf hs
    have hsame := hf.ignored hs
    cases a with
    | settle i settled now =>
      cases settled with
      | ok _ =>
        obtain ⟨hhalf, b, hp, -⟩ := hs
        simp only [Traffic.step, settle_breaker hp] at hsame
        exact recordSuccess_ne hhalf hsame
      | error _ => exact hs
    | arrive | lateError | reset => exact hs
  · intro hs
    exact ⟨fresh_closing h hs, fun hstale => absurd hstale hs⟩

/-- While the breaker is half open, one probe is out at most. -/
structure Single (t : Traffic) : Prop where
  periods : ∀ a ∈ t.attempts, a.period ≤ t.periods
  atMostOne : t.breaker.state = .HALF_OPEN → t.freshCount .outstanding ≤ 1

theorem Single.step (h : Single t) {a : TrafficAction} (hj : ¬ t.JoinsProbe a) :
    Single (t.step a) := by
  refine ⟨periods_step h.periods a, ?_⟩
  intro hhalf
  cases a with
  | arrive via now =>
    rcases arrive_cases h.periods via now with ⟨-, -, hone, -⟩ | ⟨hsame, hcount, -⟩
    · exact Nat.le_of_eq hone
    · simp only [Traffic.step, hsame, hcount] at hhalf ⊢
      have hnone : t.freshCount .outstanding = 0 := by
        by_contra hn
        exact hj ⟨hhalf, Nat.pos_of_ne_zero hn⟩
      split_ifs <;> omega
  | settle i settled now =>
    cases hp : t.pending i with
    | none =>
      simp only [Traffic.step, settle, hp] at hhalf ⊢
      exact h.atMostOne hhalf
    | some b =>
      simp only [Traffic.step, settle_breaker hp, (settle_counts hp settled now).1] at hhalf ⊢
      cases settled with
      | ok _ =>
        have hone := h.atMostOne (recordSuccess_halfOpen hhalf).1
        omega
      | error _ => exact absurd hhalf (recordFailure_halfOpen _ now)
  | lateError now => exact absurd hhalf (recordFailure_halfOpen _ now)
  | reset => cases hhalf

theorem oneProbe_iff (h : Single t) (a : TrafficAction) : OneProbe t a ↔ ¬ t.JoinsProbe a := by
  constructor
  · intro ho hj
    cases a with
    | arrive via now =>
      obtain ⟨hhalf, hout⟩ := hj
      have hin : via.admits t.breaker now = true := by
        rw [via.admits_iff, hhalf]
        intro ho
        cases ho
      rw [ho.rejects via now rfl hhalf hout] at hin
      cases hin
    | settle | lateError | reset => exact hj
  · intro hj
    refine ⟨(h.step hj).atMostOne, ?_⟩
    intro via now ha hhalf hout
    subst ha
    exact absurd ⟨hhalf, hout⟩ hj

end

/-- The breaker tests with one request at a time exactly as long as nobody else comes while the
test is out. -/
theorem one_probe_iff (name : String) (options : CircuitBreakerOptions)
    (as : List TrafficAction) :
    Always step OneProbe { breaker := .create name options } as ↔
      Always step (fun t a => ¬ t.JoinsProbe a) { breaker := .create name options } as := by
  have hstart : Single { breaker := .create name options } := ⟨by simp, fun h => by cases h⟩
  refine always_iff_of_kept (I := Single) (fun t a h => oneProbe_iff h a) ?_ hstart as
  intro t a h hone
  exact h.step ((oneProbe_iff h a).mp hone)

/-- Two requests come right after the cooldown, and both are sent upstream. -/
theorem burst_after_cooldown :
    ¬ Always step OneProbe { breaker := .create "proxy:orders" {} }
      (((List.range 5).flatMap fun i =>
          [.arrive .tryAcquire 2000, .settle i (.error "ECONNREFUSED") 2000]) ++
        [.arrive .tryAcquire 32000, .arrive .tryAcquire 32000]) := by
  intro h
  obtain ⟨-, -, hsecond, -⟩ := (always_append _ _ _).mp h
  exact absurd (hsecond.atMostOne (by decide)) (by decide)

/-- Only fresh requests close the breaker exactly as long as no older one succeeds while it is
half open. -/
theorem fresh_closes_iff (name : String) (options : CircuitBreakerOptions)
    (as : List TrafficAction) :
    Always step FreshCloses { breaker := .create name options } as ↔
      Always step (fun t a => ¬ t.StaleSuccess a) { breaker := .create name options } as := by
  have hstart := probed_new (.create name options) (by simp [CircuitBreaker.create])
  refine always_iff_of_kept (I := Probed) (fun t a h => freshCloses_iff h a) ?_ hstart as
  intro t a h hfresh
  exact h.step ((freshCloses_iff h a).mp hfresh)

/-- Two requests from before the failures answer while the probe is out, and close the breaker. -/
theorem late_answers_close :
    ¬ Always step FreshCloses { breaker := .create "billing" { resetTimeoutMs := some 1000 } }
      ([.arrive .execute 1000, .arrive .execute 1000] ++
        ((List.range 5).flatMap fun i =>
          [.arrive .execute 2000, .settle (i + 2) (.error "timeout") 2000]) ++
        [.arrive .execute 3000, .settle 0 (.ok ()) 3001, .settle 1 (.ok ()) 3002]) := by
  intro h
  obtain ⟨-, -, -, hthird, -⟩ := (always_append _ _ _).mp h
  exact absurd (hthird.enough (by decide) (by decide) (by simp)) (by decide)

end ApiCenter.Traffic
