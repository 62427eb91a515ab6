import ApiCenter.Library.Runs
import ApiCenter.Model.RedisThrottler

namespace ApiCenter

open ApiCenter.Library.Runs

namespace Stage

/-- The commands a call sends from a stage on, up to the first one that fails. -/
def sent (send : RateCommand → Except Thrown Int) (c : Increment) (s : Stage) :
    List RateCommand :=
  s.command c ::
    match send (s.command c) with
    | .error _ => []
    | .ok reply =>
      match _h : s.resume c reply with
      | .inl s' => sent send c s'
      | .inr _ => []
termination_by s.remaining
decreasing_by exact remaining_resume _h

/-- A call comes to its end exactly if none of the commands it sends fails. -/
theorem drive_ok_iff (send : RateCommand → Except Thrown Int) (c : Increment) (s : Stage) :
    (∃ r, drive send c s = .ok r) ↔
      ∀ command ∈ sent send c s, ∃ reply, send command = .ok reply := by
  induction hn : s.remaining using Nat.strong_induction_on generalizing s with
  | h n ih =>
    rw [drive_step, sent]
    cases hs : send (s.command c) with
    | error e => simp [hs, bind, Except.bind]
    | ok reply =>
      simp only [List.forall_mem_cons, hs, Except.ok.injEq, exists_eq', true_and]
      split
      · rename_i s' h
        have hlt : s'.remaining < n := hn ▸ remaining_resume h
        rw [← ih _ hlt s' rfl]
        simp [bind, Except.bind, h]
      · rename_i r h
        simp [bind, Except.bind, h, pure, Except.pure]

end Stage

/-- A call of `increment` and what becomes of the commands it sends to Redis. -/
structure ServedCall where
  arrival : Arrival
  send : RateCommand → Except Thrown Int

/-- Redis answers every command the call sends. -/
def ServedCall.Answered (x : ServedCall) : Prop :=
  ∀ command ∈ Stage.sent x.send x.arrival.call .blockTtl, ∃ reply, x.send command = .ok reply

namespace RedisThrottlerStorage

def step (s : RedisThrottlerStorage) (x : ServedCall) : RedisThrottlerStorage :=
  (s.increment x.send x.arrival).1

/-- The call resolves, with the result of the Redis path or with that of the in-memory one. -/
def Transparent (s : RedisThrottlerStorage) (x : ServedCall) : Prop :=
  ∃ r, (s.increment x.send x.arrival).2 = .ok r ∧
    (redisIncrement x.send x.arrival.call = .ok r ∨ r = s.memoryStore.answer x.arrival)

theorem transparent_call_iff (s : RedisThrottlerStorage) (x : ServedCall) :
    s.Transparent x ↔ s.redis = false ∨ x.Answered := by
  rw [ServedCall.Answered, ← Stage.drive_ok_iff, Stage.drive_eq, Transparent, increment]
  cases hs : s.redis with
  | false =>
    simp only [Bool.false_eq_true, if_false, true_or, iff_true]
    exact ⟨_, rfl, .inr rfl⟩
  | true =>
    simp only [if_true, Bool.true_eq_false, false_or]
    constructor
    · intro h
      obtain ⟨r, hr, -⟩ := h
      exact ⟨r, hr⟩
    · intro h
      obtain ⟨r, hr⟩ := h
      exact ⟨r, hr, .inl hr⟩

theorem step_redis (s : RedisThrottlerStorage) (x : ServedCall) : (s.step x).redis = s.redis := by
  simp only [step, increment]
  split_ifs <;> rfl

theorem transparent_run (s : RedisThrottlerStorage) (xs : List ServedCall) :
    Always step Transparent s xs ↔ s.redis = false ∨ ∀ x ∈ xs, x.Answered := by
  induction xs generalizing s with
  | nil => simp
  | cons x xs ih =>
    rw [always_cons, transparent_call_iff, ih, step_redis, ← or_and_left, List.forall_mem_cons]

/-- After a failed connection the fallback serves every call; after a successful one it serves
none, and a call resolves exactly if Redis answers all its commands. -/
theorem transparent_iff (connected : Except Thrown Unit) (xs : List ServedCall) :
    Always step Transparent (onModuleInit {} connected) xs ↔
      (∃ e, connected = .error e) ∨ ∀ x ∈ xs, x.Answered := by
  rw [transparent_run]
  cases connected with
  | error e => simp [onModuleInit]
  | ok _ => simp [onModuleInit]

/-- Redis goes away after a successful start, and the next call rejects. -/
theorem outage_after_start :
    ¬ Always step Transparent (onModuleInit {} (.ok ()))
      [⟨⟨⟨"orders", 60000, 100, 60000⟩, 1000⟩,
        fun _ => .error (.error
          "Stream isn't writeable and enableOfflineQueue options is false")⟩] := by
  intro h
  obtain ⟨r, hr, -⟩ := h.1
  cases hr

end RedisThrottlerStorage

end ApiCenter
