import ApiCenter.Model.ThrottlerStorage

namespace ApiCenter
open Library

/-- The commands `redisIncrement` sends. -/
inductive RateCommand where
  | ttl (key : String)
  | incr (key : String)
  | expire (key : String) (seconds : Nat)
  | setex (key : String) (seconds : Nat) (value : String)
  deriving DecidableEq, Repr

def hitsKey (key : String) : String := s!"throttle:{key}:hits"

def blockKey (key : String) : String := s!"throttle:{key}:block"

/-- `Math.ceil` of milliseconds in seconds. -/
def ceilSec (ms : Nat) : Nat := (ms + 999) / 1000

/-- `redisIncrement`, over any way of sending a command and awaiting its reply. -/
def redisIncrement {m : Type → Type} [Monad m] (send : RateCommand → m Int) (c : Increment) :
    m ThrottlerStorageRecord := do
  let blockTtl ← send (.ttl (blockKey c.key))
  if 0 < blockTtl then
    return {
      totalHits := c.limit + 1
      timeToExpire := blockTtl * 1000
      isBlocked := true
      timeToBlockExpire := blockTtl * 1000 }
  let hits ← send (.incr (hitsKey c.key))
  if hits = 1 then
    let _ ← send (.expire (hitsKey c.key) (ceilSec c.ttl))
  let remainingTtl ← send (.ttl (hitsKey c.key))
  if c.limit < hits ∧ 0 < c.blockDuration then
    let _ ← send (.setex (blockKey c.key) (ceilSec c.blockDuration) "1")
    return {
      totalHits := hits
      timeToExpire := remainingTtl * 1000
      isBlocked := true
      timeToBlockExpire := c.blockDuration }
  return {
    totalHits := hits
    timeToExpire := remainingTtl * 1000
    isBlocked := false
    timeToBlockExpire := 0 }

structure RedisThrottlerStorage where
  redis : Bool := false
  memoryStore : MemoryStore := ∅

namespace RedisThrottlerStorage

/-- `onModuleInit`: without a connection `redis` stays `null`. -/
def onModuleInit (s : RedisThrottlerStorage) (connected : Except Thrown Unit) :
    RedisThrottlerStorage :=
  match connected with
  | .ok _ => { s with redis := true }
  | .error _ => { s with redis := false }

/-- `increment` at `now`. `send` says what becomes of each command; one call sends no command
twice. -/
def increment (s : RedisThrottlerStorage) (send : RateCommand → Except Thrown Int) (a : Arrival) :
    RedisThrottlerStorage × Except Thrown ThrottlerStorageRecord :=
  if s.redis then (s, redisIncrement send a.call)
  else
    ({ s with memoryStore := (memoryIncrement s.memoryStore a.call a.now).1 },
      .ok (memoryIncrement s.memoryStore a.call a.now).2)

end RedisThrottlerStorage

/-- Where a `redisIncrement` call is waiting: for the reply to which command. -/
inductive Stage where
  | blockTtl
  | incr
  | expire (hits : Int)
  | hitsTtl (hits : Int)
  | setex (hits remainingTtl : Int)
  deriving DecidableEq, Repr

namespace Stage

/-- The command that is awaited. -/
def command (c : Increment) : Stage → RateCommand
  | .blockTtl => .ttl (blockKey c.key)
  | .incr => .incr (hitsKey c.key)
  | .expire _ => .expire (hitsKey c.key) (ceilSec c.ttl)
  | .hitsTtl _ => .ttl (hitsKey c.key)
  | .setex _ _ => .setex (blockKey c.key) (ceilSec c.blockDuration) "1"

/-- What a call does with a reply: wait for the next one, or resolve. -/
def resume (c : Increment) : Stage → Int → Stage ⊕ ThrottlerStorageRecord
  | .blockTtl, seconds =>
    if 0 < seconds then .inr ⟨c.limit + 1, seconds * 1000, true, seconds * 1000⟩
    else .inl .incr
  | .incr, hits => .inl (if hits = 1 then .expire hits else .hitsTtl hits)
  | .expire hits, _ => .inl (.hitsTtl hits)
  | .hitsTtl hits, remainingTtl =>
    if c.limit < hits ∧ 0 < c.blockDuration then .inl (.setex hits remainingTtl)
    else .inr ⟨hits, remainingTtl * 1000, false, 0⟩
  | .setex hits remainingTtl, _ => .inr ⟨hits, remainingTtl * 1000, true, c.blockDuration⟩

/-- The number of replies a call can still wait for. -/
def remaining : Stage → Nat
  | .blockTtl => 5
  | .incr => 4
  | .expire _ => 3
  | .hitsTtl _ => 2
  | .setex _ _ => 1

theorem remaining_resume {c : Increment} {s s' : Stage} {reply : Int}
    (h : s.resume c reply = .inl s') : s'.remaining < s.remaining := by
  cases s with
  | blockTtl =>
    simp only [resume] at h
    split_ifs at h
    cases h
    exact Nat.lt_succ_self 4
  | incr =>
    obtain rfl := Sum.inl.inj h
    split_ifs
    · exact Nat.lt_succ_self 3
    · exact Nat.lt_succ_of_lt (Nat.lt_succ_self 2)
  | expire hits =>
    cases h
    exact Nat.lt_succ_self 2
  | hitsTtl hits =>
    simp only [resume] at h
    split_ifs at h
    cases h
    exact Nat.lt_succ_self 1
  | setex hits remainingTtl => cases h

/-- The rest of a call, one command after the other. -/
def drive {m : Type → Type} [Monad m] (send : RateCommand → m Int) (c : Increment) (s : Stage) :
    m ThrottlerStorageRecord := do
  let reply ← send (s.command c)
  match _h : s.resume c reply with
  | .inl s' => drive send c s'
  | .inr r => return r
termination_by s.remaining
decreasing_by exact remaining_resume _h

section

variable {m : Type → Type} [Monad m]

theorem drive_step [LawfulMonad m] (send : RateCommand → m Int) (c : Increment) (s : Stage) :
    drive send c s =
      send (s.command c) >>= fun reply => (s.resume c reply).elim (drive send c) pure := by
  rw [drive]
  refine bind_congr fun reply => ?_
  split
  · rename_i s' h
    rw [h, Sum.elim_inl]
  · rename_i r h
    rw [h, Sum.elim_inr]

/-- The stages are those of the code. -/
theorem drive_eq [LawfulMonad m] (send : RateCommand → m Int) (c : Increment) :
    drive send c .blockTtl = redisIncrement send c := by
  have hsetex : ∀ hits remainingTtl, drive send c (.setex hits remainingTtl) =
      send (.setex (blockKey c.key) (ceilSec c.blockDuration) "1") >>= fun _ =>
        pure ⟨hits, remainingTtl * 1000, true, c.blockDuration⟩ :=
    fun hits remainingTtl => drive_step send c _
  have hhitsTtl : ∀ hits, drive send c (.hitsTtl hits) =
      send (.ttl (hitsKey c.key)) >>= fun remainingTtl =>
        if c.limit < hits ∧ 0 < c.blockDuration then drive send c (.setex hits remainingTtl)
        else pure ⟨hits, remainingTtl * 1000, false, 0⟩ := by
    intro hits
    rw [drive_step]
    refine bind_congr fun remainingTtl => ?_
    simp only [resume]
    split_ifs <;> rfl
  have hexpire : ∀ hits, drive send c (.expire hits) =
      send (.expire (hitsKey c.key) (ceilSec c.ttl)) >>= fun _ => drive send c (.hitsTtl hits) :=
    fun hits => drive_step send c _
  have hincr : drive send c .incr =
      send (.incr (hitsKey c.key)) >>= fun hits =>
        if hits = 1 then drive send c (.expire hits) else drive send c (.hitsTtl hits) := by
    rw [drive_step]
    refine bind_congr fun hits => ?_
    simp only [resume, Sum.elim_inl]
    split_ifs <;> rfl
  rw [drive_step, redisIncrement]
  refine bind_congr fun seconds => ?_
  simp only [resume]
  split_ifs with hb
  · rfl
  · rw [Sum.elim_inl, hincr]
    refine bind_congr fun hits => ?_
    by_cases hone : hits = 1
    · simp [hone, hexpire, hhitsTtl, hsetex]
    · simp [hone, hhitsTtl, hsetex]

end

end Stage

end ApiCenter
