import Mathlib.Tactic.Linarith
import Mathlib.Tactic.Positivity
import ApiCenter.Model.TribeClient

namespace ApiCenter

/-- The attempt failed in a way that is worth another one. -/
def AttemptOutcome.Retries : AttemptOutcome → Prop
  | .axiosError err => isRetryable err = true
  | .success _ | .otherError _ => False

/-- How a call ends whose last attempt ended so. -/
def AttemptOutcome.settles : AttemptOutcome → Settled
  | .success data => .resolved data
  | .axiosError err => .rejected (wrapAxiosError err)
  | .otherError message => .rethrown message

namespace TribeClient
open Library ApiCenter.Library.Retries

/-- The base delay, doubled after every attempt. -/
def backoff (c : TribeClient) (attempt : Nat) : Rat := c.retryBaseDelayMs * 2 ^ attempt

/-- A call waits for `x` in whole milliseconds, and for one where that would be none. -/
def WaitsFor (x : Rat) (ms : Int) : Prop := |(ms : Rat) - x| ≤ 1 / 2 ∨ x < 1 / 2 ∧ ms = 1

/-- The delay after `attempt` is a quarter off the doubled delay at most, but for its rounding. -/
structure BacksOff (c : TribeClient) (attempt : Nat) (ms : Int) : Prop where
  nonneg : 0 ≤ ms
  rounded : ∃ x : Rat, 3 / 4 * c.backoff attempt ≤ x ∧ x ≤ 5 / 4 * c.backoff attempt ∧
    WaitsFor x ms

/-- `k` retries, with the outcome after the last of them as the result. -/
structure FollowsPolicy (c : TribeClient) (outcome : Nat → AttemptOutcome) (ex : Exchange)
    (k : Nat) (delays : Nat → Int) : Prop where
  last : (k : ℕ∞) = min (firstFinal AttemptOutcome.Retries outcome) c.maxRetries
  attempts : ex.steps.countP Step.isAttempt = k + 1
  steps : ex.steps = spaced delays 0 k
  settled : ex.settled = (outcome k).settles
  delays : ∀ a < k, c.BacksOff a (delays a)

/-- The timer takes every delay that may come after `attempt` for what it is. -/
structure Honoured (c : TribeClient) (attempt : Nat) : Prop where
  short : 5 / 4 * c.backoff attempt + 1 / 2 < 2147483648
  finite : attempt < 1024 ∨ c.backoff attempt ≤ 2

variable {c : TribeClient} {outcome : Nat → AttemptOutcome} {random : Nat → Rat}

theorem round_nonneg {x : Rat} (h : 0 ≤ x) : 0 ≤ round x := by
  unfold round
  rw [Int.floor_nonneg]
  linarith

/-- Rounding is off by half a millisecond at most. -/
theorem round_near (x : Rat) : |(round x : Rat) - x| ≤ 1 / 2 := by
  have hle : (round x : Rat) ≤ x + 1 / 2 := Int.floor_le _
  have hlt : x + 1 / 2 < (round x : Rat) + 1 := Int.lt_floor_add_one _
  rw [abs_le]
  constructor
  · linarith
  · linarith

theorem backoff_nonneg (hb : 0 ≤ c.retryBaseDelayMs) (attempt : Nat) : 0 ≤ c.backoff attempt := by
  unfold backoff
  positivity

/-- The doubled delay with its jitter. -/
def jittered (c : TribeClient) (attempt : Nat) (random : Rat) : Rat :=
  c.backoff attempt + c.backoff attempt * 0.25 * (random * 2 - 1)

theorem jittered_low (hb : 0 ≤ c.retryBaseDelayMs) (attempt : Nat) {random : Rat}
    (h0 : 0 ≤ random) : 3 / 4 * c.backoff attempt ≤ c.jittered attempt random := by
  unfold jittered
  nlinarith [mul_nonneg (backoff_nonneg hb attempt) h0]

theorem jittered_high (hb : 0 ≤ c.retryBaseDelayMs) (attempt : Nat) {random : Rat}
    (h1 : random ≤ 1) : c.jittered attempt random ≤ 5 / 4 * c.backoff attempt := by
  unfold jittered
  nlinarith [mul_nonneg (backoff_nonneg hb attempt) (sub_nonneg.mpr h1)]

/-- What the timer is asked for, as long as it is a number. -/
theorem delay_finite (hb : 0 ≤ c.retryBaseDelayMs) {attempt : Nat} (hfinite : attempt < 1024)
    {random : Rat} (h0 : 0 ≤ random) :
    c.delay attempt random = some (round (c.jittered attempt random)) := by
  have hbase := backoff_nonneg hb attempt
  have hlow := jittered_low hb attempt h0
  rw [delay, if_neg (Nat.not_le.mpr hfinite)]
  exact congrArg some (max_eq_right (round_nonneg (le_trans (by positivity) hlow)))

/-- A timer that is asked for less than 2^31 milliseconds waits for them. -/
theorem sleep_waitsFor {x : Rat} (h0 : 0 ≤ x) (h : x + 1 / 2 < 2147483648) :
    WaitsFor x (sleep (some (round x))) := by
  have hnonneg := round_nonneg h0
  have hle : round x ≤ 2147483647 := by
    have hlt : round x < 2147483648 := by
      unfold round
      rw [Int.floor_lt]
      exact_mod_cast h
    omega
  by_cases hone : 1 ≤ round x
  · rw [sleep, if_pos ⟨hone, hle⟩]
    exact .inl (round_near x)
  · rw [sleep, if_neg fun hr => hone hr.1]
    have hzero : round x < 1 := by omega
    unfold round at hzero
    rw [Int.floor_lt] at hzero
    refine .inr ⟨?_, rfl⟩
    push_cast at hzero
    linarith

theorem sleep_nonneg (ms : Option Int) : 0 ≤ sleep ms := by
  unfold sleep
  split
  · split
    · omega
    · decide
  · decide

/-- A delay the timer takes for what it is backs off, whatever the jitter. -/
theorem Honoured.backsOff (hb : 0 ≤ c.retryBaseDelayMs) {attempt : Nat} (h : c.Honoured attempt)
    {random : Rat} (h0 : 0 ≤ random) (h1 : random ≤ 1) :
    c.BacksOff attempt (sleep (c.delay attempt random)) := by
  have hbase := backoff_nonneg hb attempt
  refine ⟨sleep_nonneg _, ?_⟩
  by_cases hfinite : attempt < 1024
  · have hlow := jittered_low hb attempt h0
    have hhigh := jittered_high hb attempt h1
    rw [delay_finite hb hfinite h0]
    exact ⟨_, hlow, hhigh, sleep_waitsFor (by linarith) (by linarith [h.short])⟩
  · have hsmall := h.finite.resolve_left hfinite
    rw [delay, if_pos (Nat.not_lt.mp hfinite)]
    refine ⟨3 / 4 * c.backoff attempt, le_rfl, by linarith, ?_⟩
    by_cases hhalf : 3 / 4 * c.backoff attempt < 1 / 2
    · exact .inr ⟨hhalf, rfl⟩
    · refine .inl ?_
      rw [sleep, Int.cast_one, abs_le]
      constructor
      · linarith
      · linarith

/-- One millisecond is the delay of small bases only. -/
theorem BacksOff.one {attempt : Nat} (h : c.BacksOff attempt 1) : c.backoff attempt ≤ 2 := by
  obtain ⟨x, hlow, -, hwaits | ⟨hhalf, -⟩⟩ := h.rounded
  · rw [Int.cast_one, abs_le] at hwaits
    linarith
  · linarith

/-- The timer has to take the longest of the delays for what it is. -/
theorem honoured_of_backsOff (hb : 0 ≤ c.retryBaseDelayMs) {attempt : Nat}
    (h : c.BacksOff attempt (sleep (c.delay attempt 1))) : c.Honoured attempt := by
  by_cases hfinite : attempt < 1024
  · refine ⟨?_, .inl hfinite⟩
    by_contra hlong
    have hlong := not_lt.mp hlong
    have hlongest : c.jittered attempt 1 = 5 / 4 * c.backoff attempt := by
      unfold jittered
      ring
    have hround : 2147483648 ≤ round (c.jittered attempt 1) := by
      unfold round
      rw [hlongest, Int.le_floor]
      exact_mod_cast hlong
    rw [delay_finite hb hfinite zero_le_one, sleep, if_neg (by omega)] at h
    have hone := h.one
    linarith
  · rw [delay, if_pos (Nat.not_lt.mp hfinite)] at h
    have hone : c.backoff attempt ≤ 2 := BacksOff.one h
    exact ⟨by linarith, .inr hone⟩

/-- The loop ends with an outcome that is final, or with the last attempt allowed. -/
theorem requestLoop_ends {attempt : Nat} (h : attempt ≤ c.maxRetries)
    (hend : attempt = c.maxRetries ∨ ¬ (outcome attempt).Retries)
    (lastError : Option AxiosError) :
    requestLoop c outcome random attempt lastError =
      { steps := [.attempt], settled := (outcome attempt).settles } := by
  rw [requestLoop.eq_def, if_pos h]
  cases ho : outcome attempt with
  | success data => rfl
  | otherError message => rfl
  | axiosError err =>
    have hstop : (!isRetryable err || decide (attempt = c.maxRetries)) = true := by
      rcases hend with hmax | hfinal
      · simp [hmax]
      · rw [ho, AttemptOutcome.Retries] at hfinal
        simp [hfinal]
    exact if_pos hstop

theorem requestLoop_again (random : Nat → Rat) {attempt : Nat} (h : attempt < c.maxRetries)
    (hagain : (outcome attempt).Retries) (lastError : Option AxiosError) :
    ∃ err, requestLoop c outcome random attempt lastError =
      { steps := .attempt :: .pause (sleep (c.delay attempt (random attempt))) ::
          (requestLoop c outcome random (attempt + 1) (some err)).steps
        settled := (requestLoop c outcome random (attempt + 1) (some err)).settled } := by
  cases ho : outcome attempt with
  | success data =>
    rw [ho] at hagain
    cases hagain
  | otherError message =>
    rw [ho] at hagain
    cases hagain
  | axiosError err =>
    rw [ho, AttemptOutcome.Retries] at hagain
    refine ⟨err, ?_⟩
    rw [requestLoop.eq_def c outcome random attempt lastError, if_pos h.le, ho]
    exact if_neg (by simp [hagain, h.ne])

/-- What the loop does from an attempt on with `left` retries to go. -/
theorem requestLoop_spec (c : TribeClient) (outcome : Nat → AttemptOutcome)
    (random : Nat → Rat) (left attempt : Nat) (hleft : attempt + left = c.maxRetries)
    (lastError : Option AxiosError) :
    ∃ n, IsLast AttemptOutcome.Retries (fun a => outcome (attempt + a)) left n ∧
      requestLoop c outcome random attempt lastError =
        { steps := spaced (fun a => sleep (c.delay a (random a))) attempt n
          settled := (outcome (attempt + n)).settles } := by
  induction left generalizing attempt lastError with
  | zero =>
    refine ⟨0, isLast_zero (.inl rfl), ?_⟩
    exact requestLoop_ends hleft.le (.inl hleft) lastError
  | succ left ih =>
    have hlt : attempt < c.maxRetries := by omega
    by_cases hagain : (outcome attempt).Retries
    · obtain ⟨err, hloop⟩ := requestLoop_again random hlt hagain lastError
      obtain ⟨n, hlast, hrest⟩ := ih (attempt + 1) (by omega) (some err)
      have hshift : (fun a => outcome (attempt + 1 + a)) =
          fun a => outcome (attempt + (a + 1)) := by
        funext a
        rw [Nat.add_right_comm, Nat.add_assoc]
      rw [hshift] at hlast
      refine ⟨n + 1, hlast.succ hagain, ?_⟩
      rw [hloop, hrest, Nat.add_right_comm, Nat.add_assoc]
      rfl
    · refine ⟨0, isLast_zero (.inr hagain), ?_⟩
      exact requestLoop_ends hlt.le (.inr hagain) lastError

/-- The calls of a client follow the retry policy, whatever the jitter, exactly when the timer takes
the delays between their attempts for what they are. -/
theorem requestWithRetry_followsPolicy_iff (c : TribeClient) (outcome : Nat → AttemptOutcome)
    (hb : 0 ≤ c.retryBaseDelayMs) :
    (∀ random : Nat → Rat, (∀ a, 0 ≤ random a ∧ random a ≤ 1) →
      ∃ k, FollowsPolicy c outcome (c.requestWithRetry outcome random) k
        fun a => sleep (c.delay a (random a))) ↔
      ∀ a : Nat, (a : ℕ∞) < min (firstFinal AttemptOutcome.Retries outcome) c.maxRetries →
        c.Honoured a := by
  constructor
  · intro h a ha
    obtain ⟨k, hk⟩ := h (fun _ => 1) fun _ => ⟨zero_le_one, le_rfl⟩
    rw [← hk.last, Nat.cast_lt] at ha
    exact honoured_of_backsOff hb (hk.delays a ha)
  · intro h random hr
    obtain ⟨n, hlast, hloop⟩ :=
      requestLoop_spec c outcome random c.maxRetries 0 (Nat.zero_add _) none
    simp only [Nat.zero_add] at hlast hloop
    refine ⟨n, hlast.eq_min, ?_, ?_, ?_, fun a ha => ?_⟩
    · rw [requestWithRetry, hloop]
      exact count_attempts _ 0 n
    · rw [requestWithRetry, hloop]
    · rw [requestWithRetry, hloop]
    · refine (h a ?_).backsOff hb (hr a).1 (hr a).2
      rw [← hlast.eq_min, Nat.cast_lt]
      exact ha

/-- A gateway that is not available but for its second answer. -/
def recovers : Nat → AttemptOutcome
  | 1 => .success (.string "ok")
  | _ => .axiosError { message := "Request failed with status code 503"
                       response := some { status := 503 } }

theorem requestWithRetry_recovers :
    ∃ k, FollowsPolicy {} recovers (requestWithRetry {} recovers fun _ => 0) k
      fun a => sleep (delay {} a 0) := by
  refine (requestWithRetry_followsPolicy_iff {} recovers (by decide)).mpr (fun a ha => ?_)
    (fun _ => 0) fun _ => by decide
  have hlt : a < 3 := Nat.cast_lt.mp (lt_of_lt_of_le ha (min_le_right _ _))
  constructor
  · have hpow : (2 : Rat) ^ a ≤ 2 ^ 2 := pow_le_pow_right₀ one_le_two (Nat.le_of_lt_succ hlt)
    unfold backoff
    linarith
  · exact .inl (by omega)

/-- The answer of a gateway that is not available. -/
def unavailable (_ : Nat) : AttemptOutcome :=
  .axiosError { message := "Request failed with status code 503"
                response := some { status := 503 } }

theorem late_retries_do_not_back_off :
    ¬ ∀ (c : TribeClient) (outcome : Nat → AttemptOutcome) (random : Nat → Rat),
      0 ≤ c.retryBaseDelayMs → (∀ a, 0 ≤ random a ∧ random a ≤ 1) →
      ∃ k, FollowsPolicy c outcome (c.requestWithRetry outcome random) k
        fun a => sleep (c.delay a (random a)) := by
  intro h
  obtain ⟨k, hk⟩ := h { maxRetries := 30 } unavailable (fun _ => 0) (by decide) fun _ => by decide
  have hfinal : firstFinal AttemptOutcome.Retries unavailable = ⊤ :=
    dif_neg fun ⟨_, hi⟩ => hi rfl
  have hlast := hk.last
  rw [hfinal, min_eq_right le_top, Nat.cast_inj] at hlast
  have hsleep : sleep (delay { maxRetries := 30 } 23 0) = 1 := by decide +kernel
  have hone := hk.delays 23 (by rw [hlast]; decide)
  rw [hsleep] at hone
  have := hone.one
  norm_num [backoff] at this

end TribeClient

end ApiCenter
