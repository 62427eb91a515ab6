import ApiCenter.Model.RedisThrottler

namespace ApiCenter
open Library

/-- A counter or flag in Redis, and the time in milliseconds it expires at, if it has one. -/
structure Volatile where
  value : Int
  expiresAt : Option Nat
  deriving DecidableEq, Repr

/-- The rate-limit database, at a time of its own clock. -/
structure RateRedis where
  now : Nat := 0
  entries : Table String Volatile := ∅

namespace RateRedis

/-- What is stored under a key. An expired key is gone. -/
def find (r : RateRedis) (key : String) : Option Volatile :=
  (r.entries.lookup key).filter fun v => v.expiresAt.all (r.now < ·)

/-- The reply to `TTL`, in seconds, rounded. -/
def ttlReply (r : RateRedis) (key : String) : Int :=
  match r.find key with
  | none => -2
  | some v =>
    match v.expiresAt with
    | none => -1
    | some t => ((t - r.now + 500) / 1000 : Nat)

/-- The effect of one command. -/
def exec (r : RateRedis) : RateCommand → RateRedis
  | .ttl _ => r
  | .incr key =>
    let v := (r.find key).getD ⟨0, none⟩
    { r with entries := r.entries.insert key { v with value := v.value + 1 } }
  | .expire key seconds =>
    match r.find key with
    | none => r
    | some v =>
      if seconds = 0 then { r with entries := r.entries.erase key }
      else { r with
        entries := r.entries.insert key { v with expiresAt := some (r.now + seconds * 1000) } }
  | .setex key seconds _ =>
    if seconds = 0 then r
    else { r with entries := r.entries.insert key ⟨1, some (r.now + seconds * 1000)⟩ }

/-- The reply to one command. That of `SETEX` is `OK`, which nobody reads. -/
def reply (r : RateRedis) : RateCommand → Except Thrown Int
  | .ttl key => .ok (r.ttlReply key)
  | .incr key => .ok (((r.find key).getD ⟨0, none⟩).value + 1)
  | .expire key _ => .ok (if (r.find key).isSome then 1 else 0)
  | .setex _ seconds _ =>
    if seconds = 0 then .error (.error "ERR invalid expire time in 'setex' command") else .ok 0

def advance (r : RateRedis) (ms : Nat) : RateRedis := { r with now := r.now + ms }

theorem find_insert (r : RateRedis) (k : String) (v : Volatile)
    (hv : ∀ t, v.expiresAt = some t → r.now < t) (j : String) :
    ({ r with entries := r.entries.insert k v } : RateRedis).find j =
      if j = k then some v else r.find j := by
  simp only [find, Table.lookup_insert_if]
  split_ifs
  · rw [Option.filter_eq_some_iff]
    refine ⟨rfl, ?_⟩
    cases hx : v.expiresAt with
    | none => rfl
    | some t => simpa using hv t hx
  · rfl

theorem find_erase (r : RateRedis) (k j : String) :
    ({ r with entries := r.entries.erase k } : RateRedis).find j =
      if j = k then none else r.find j := by
  simp only [find, Table.lookup_erase_if]
  split_ifs <;> rfl

/-- What is found has not expired. -/
theorem find_alive {r : RateRedis} {k : String} {v : Volatile} (h : r.find k = some v) (t : Nat)
    (ht : v.expiresAt = some t) : r.now < t := by
  obtain ⟨-, halive⟩ := Option.filter_eq_some_iff.mp h
  simpa [ht] using halive

theorem find_incr (r : RateRedis) (key j : String) :
    (r.exec (.incr key)).find j =
      if j = key then
        some { (r.find key).getD ⟨0, none⟩ with value := ((r.find key).getD ⟨0, none⟩).value + 1 }
      else r.find j := by
  simp only [exec]
  rw [find_insert]
  intro t ht
  cases hf : r.find key with
  | none => simp [hf] at ht
  | some v =>
    rw [hf] at ht
    exact find_alive hf t ht

theorem find_expire (r : RateRedis) (key : String) (seconds : Nat) (j : String) :
    (r.exec (.expire key seconds)).find j =
      if j = key then
        (r.find key).bind fun v =>
          if seconds = 0 then none else some { v with expiresAt := some (r.now + seconds * 1000) }
      else r.find j := by
  simp only [exec]
  cases hf : r.find key with
  | none =>
    by_cases hj : j = key
    · rw [if_pos hj, hj]
      exact hf
    · rw [if_neg hj]
  | some v =>
    by_cases hz : seconds = 0
    · simp only [hz, if_true, Option.bind_some]
      exact find_erase r key j
    · simp only [hz, if_false, Option.bind_some]
      rw [find_insert]
      intro t ht
      obtain rfl := Option.some.inj ht
      omega

theorem find_setex_ne (r : RateRedis) {key j : String} (hj : j ≠ key) (seconds : Nat)
    (value : String) : (r.exec (.setex key seconds value)).find j = r.find j := by
  simp only [exec]
  split_ifs with hz
  · rfl
  · rw [find_insert, if_neg hj]
    intro t ht
    obtain rfl := Option.some.inj ht
    omega

/-- Time brings no key back. -/
theorem find_advance {r : RateRedis} {ms : Nat} {k : String} {v : Volatile}
    (h : (r.advance ms).find k = some v) : r.find k = some v := by
  obtain ⟨hget, halive⟩ := Option.filter_eq_some_iff.mp h
  refine Option.filter_eq_some_iff.mpr ⟨hget, ?_⟩
  cases hx : v.expiresAt with
  | none => rfl
  | some t =>
    rw [hx] at halive
    have hlater : r.now + ms < t := of_decide_eq_true halive
    exact decide_eq_true (Nat.lt_of_le_of_lt (Nat.le_add_right _ _) hlater)

end RateRedis

theorem hitsKey_eq (key : String) : hitsKey key = "throttle:" ++ key ++ ":hits" := rfl

theorem blockKey_eq (key : String) : blockKey key = "throttle:" ++ key ++ ":block" := rfl

theorem hitsKey_inj {a b : String} : hitsKey a = hitsKey b ↔ a = b := by
  constructor
  · intro h
    have hl := congrArg String.toList h
    simp only [hitsKey_eq, String.toList_append, List.append_cancel_right_eq,
      List.append_cancel_left_eq] at hl
    exact String.toList_inj.mp hl
  · exact congrArg hitsKey

theorem hitsKey_ne_blockKey (a b : String) : hitsKey a ≠ blockKey b := by
  intro h
  have hl := congrArg (fun s => s.toList.reverse.head?) h
  simp [hitsKey_eq, blockKey_eq] at hl

/-- What the command of a stage does to the hits key of its call. -/
def Stage.onHits (c : Increment) (now : Nat) (stage : Stage) (v : Option Volatile) :
    Option Volatile :=
  match stage with
  | .incr => some { v.getD ⟨0, none⟩ with value := (v.getD ⟨0, none⟩).value + 1 }
  | .expire _ =>
    v.bind fun v =>
      if ceilSec c.ttl = 0 then none
      else some { v with expiresAt := some (now + ceilSec c.ttl * 1000) }
  | .blockTtl | .hitsTtl _ | .setex .. => v

/-- The commands of a call touch no other hits key. -/
theorem find_hitsKey (r : RateRedis) (c : Increment) (stage : Stage) (k : String) :
    (r.exec (stage.command c)).find (hitsKey k) =
      if k = c.key then stage.onHits c r.now (r.find (hitsKey k)) else r.find (hitsKey k) := by
  cases stage with
  | blockTtl => simp [Stage.command, RateRedis.exec, Stage.onHits]
  | hitsTtl hits => simp [Stage.command, RateRedis.exec, Stage.onHits]
  | incr =>
    rw [Stage.command, RateRedis.find_incr]
    by_cases hk : k = c.key
    · rw [if_pos hk, hk, if_pos rfl]
      rfl
    · rw [if_neg hk, if_neg (hitsKey_inj.not.mpr hk)]
  | expire hits =>
    rw [Stage.command, RateRedis.find_expire]
    by_cases hk : k = c.key
    · rw [if_pos hk, hk, if_pos rfl]
      rfl
    · rw [if_neg hk, if_neg (hitsKey_inj.not.mpr hk)]
  | setex hits remainingTtl =>
    rw [Stage.command, RateRedis.find_setex_ne _ (hitsKey_ne_blockKey k c.key)]
    exact (ite_self _).symm

/-- How far a `redisIncrement` call has come. A stopped one belongs to an instance that is gone. -/
inductive Progress where
  | running (stage : Stage)
  | resolved (record : ThrottlerStorageRecord)
  | rejected (error : Thrown)
  | stopped
  deriving DecidableEq, Repr

/-- The stage a call waits in, if it is waiting. -/
def Progress.stage? : Progress → Option Stage
  | .running stage => some stage
  | .resolved _ | .rejected _ | .stopped => none

theorem Progress.stage?_eq_some {p : Progress} {stage : Stage} :
    p.stage? = some stage ↔ p = .running stage := by
  cases p <;> simp [stage?]

/-- A call of some instance. `counted` is what its `INCR` was: in which lifetime of the hits key,
and with which reply. -/
structure RateCall where
  call : Increment
  progress : Progress := .running .blockTtl
  counted : Option (Nat × Int) := none
  deriving DecidableEq, Repr

/-- A call that has received a reply. `births` is the lifetime of its hits key. -/
def RateCall.answered (x : RateCall) (stage : Stage) (births : Nat) (reply : Except Thrown Int) :
    RateCall :=
  match reply with
  | .error e => { x with progress := .rejected e }
  | .ok n =>
    { x with
      progress := (stage.resume x.call n).elim .running .resolved
      counted := if stage = .incr then some (births, n) else x.counted }

/-- Any number of instances on one Redis: the calls of all of them, in the order they began, and how
often each hits key has been created. -/
structure ThrottlerCluster where
  redis : RateRedis := {}
  calls : List RateCall := []
  births : String → Nat := fun _ => 0

/-- What can happen next. `cut` ends a call that is waiting, with an error or with its instance,
before or after Redis has executed the command. -/
inductive RateEvent where
  | start (call : Increment)
  | execute (i : Nat)
  | cut (i : Nat) (executed : Bool) (error : Option Thrown)
  | advance (ms : Nat)

namespace ThrottlerCluster

/-- The call `i` and the stage it waits in, if it is waiting. -/
def waiting (s : ThrottlerCluster) (i : Nat) : Option (RateCall × Stage) :=
  s.calls[i]?.bind fun x => x.progress.stage?.map fun stage => (x, stage)

/-- How often the hits keys have been created once `command` has been executed. -/
def birthsAfter (s : ThrottlerCluster) (c : Increment) (stage : Stage) : String → Nat :=
  if stage = .incr ∧ s.redis.find (hitsKey c.key) = none then
    Function.update s.births c.key (s.births c.key + 1)
  else s.births

/-- The command of a call is executed. -/
def executed (s : ThrottlerCluster) (c : Increment) (stage : Stage) : ThrottlerCluster :=
  { s with redis := s.redis.exec (stage.command c), births := s.birthsAfter c stage }

/-- The call `i` gets its command executed and goes on to the next one. What it does with the reply
reads and writes nothing that is shared. -/
def execute (s : ThrottlerCluster) (i : Nat) : ThrottlerCluster :=
  match s.waiting i with
  | none => s
  | some (x, stage) =>
    let after := s.executed x.call stage
    { after with
      calls := s.calls.set i
        (x.answered stage (after.births x.call.key) (s.redis.reply (stage.command x.call))) }

def cut (s : ThrottlerCluster) (i : Nat) (executed : Bool) (error : Option Thrown) :
    ThrottlerCluster :=
  match s.waiting i with
  | none => s
  | some (x, stage) =>
    let after := if executed then s.executed x.call stage else s
    { after with
      calls := s.calls.set i
        { x with progress := error.elim .stopped .rejected } }

def step (s : ThrottlerCluster) : RateEvent → ThrottlerCluster
  | .start call => { s with calls := s.calls ++ [{ call := call }] }
  | .execute i => s.execute i
  | .cut i executed error => s.cut i executed error
  | .advance ms => { s with redis := s.redis.advance ms }

theorem waiting_eq_some {s : ThrottlerCluster} {i : Nat} {x : RateCall} {stage : Stage} :
    s.waiting i = some (x, stage) ↔ s.calls[i]? = some x ∧ x.progress = .running stage := by
  rw [waiting, Option.bind_eq_some_iff]
  constructor
  · intro h
    obtain ⟨y, hy, hs⟩ := h
    obtain ⟨stage', hs', he⟩ := Option.map_eq_some_iff.mp hs
    cases he
    exact ⟨hy, Progress.stage?_eq_some.mp hs'⟩
  · intro h
    exact ⟨x, h.1, Option.map_eq_some_iff.mpr ⟨stage, Progress.stage?_eq_some.mpr h.2, rfl⟩⟩

theorem birthsAfter_apply (s : ThrottlerCluster) (c : Increment) (stage : Stage) (k : String) :
    s.birthsAfter c stage k =
      if k = c.key ∧ stage = .incr ∧ s.redis.find (hitsKey c.key) = none then s.births k + 1
      else s.births k := by
  simp only [birthsAfter]
  by_cases hb : stage = .incr ∧ s.redis.find (hitsKey c.key) = none
  · by_cases hk : k = c.key
    · simp [hb, hk]
    · simp [hb, hk]
  · rw [if_neg hb, if_neg fun h => hb h.2]

/-- No increment is in progress. -/
def Idle (s : ThrottlerCluster) : Prop := ∀ x ∈ s.calls, x.progress.stage? = none

instance (s : ThrottlerCluster) : Decidable s.Idle := inferInstanceAs (Decidable (∀ x ∈ s.calls, _))

end ThrottlerCluster

end ApiCenter
