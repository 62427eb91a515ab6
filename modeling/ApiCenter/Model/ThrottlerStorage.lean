import ApiCenter.Library.Tables
import ApiCenter.Model.Errors

namespace ApiCenter
open Library

/-- What `increment` answers. The times are milliseconds; a reading of Redis can be negative. -/
structure ThrottlerStorageRecord where
  totalHits : Int
  timeToExpire : Int
  isBlocked : Bool
  timeToBlockExpire : Int
  deriving DecidableEq, Repr

/-- A record of the in-memory fallback. -/
structure MemoryRecord where
  hits : Nat
  expiresAt : Nat
  blockedUntil : Nat
  deriving DecidableEq, Repr

abbrev MemoryStore := Table String MemoryRecord

/-- The arguments of `increment`. -/
structure Increment where
  key : String
  ttl : Nat
  limit : Nat
  blockDuration : Nat
  deriving DecidableEq, Repr

/-- `memoryIncrement` at `now`. -/
def memoryIncrement (memoryStore : MemoryStore) (c : Increment) (now : Nat) :
    MemoryStore × ThrottlerStorageRecord :=
  let existing := memoryStore.lookup c.key
  let cleaned :=
    if existing.any (·.expiresAt ≤ now) then memoryStore.erase c.key else memoryStore
  -- The block is looked for in `existing`, also when its record has just been deleted.
  match existing.filter (now < ·.blockedUntil) with
  | some e =>
    (cleaned,
      { totalHits := c.limit + 1
        timeToExpire := e.blockedUntil - now
        isBlocked := true
        timeToBlockExpire := e.blockedUntil - now })
  | none =>
    let entry := (cleaned.lookup c.key).getD ⟨0, now + c.ttl, 0⟩
    let counted := { entry with hits := entry.hits + 1 }
    if c.limit < counted.hits ∧ 0 < c.blockDuration then
      (cleaned.insert c.key { counted with blockedUntil := now + c.blockDuration },
        { totalHits := counted.hits
          timeToExpire := counted.expiresAt - now
          isBlocked := true
          timeToBlockExpire := c.blockDuration })
    else
      (cleaned.insert c.key counted,
        { totalHits := counted.hits
          timeToExpire := counted.expiresAt - now
          isBlocked := false
          timeToBlockExpire := 0 })

/-- A call of `increment` and the time it is made. -/
structure Arrival where
  call : Increment
  now : Nat
  deriving DecidableEq, Repr

namespace MemoryStore

def answer (s : MemoryStore) (a : Arrival) : ThrottlerStorageRecord :=
  (memoryIncrement s a.call a.now).2

def step (s : MemoryStore) (a : Arrival) : MemoryStore :=
  (memoryIncrement s a.call a.now).1

/-- The record an unblocked call counts in: the one there while its window lasts, or a new one. -/
def current (s : MemoryStore) (a : Arrival) : MemoryRecord :=
  ((s.lookup a.call.key).filter (a.now < ·.expiresAt)).getD ⟨0, a.now + a.call.ttl, 0⟩

/-- What is left of the record of a call's key after a call that finds the key blocked. -/
def kept (e : MemoryRecord) (now : Nat) : Option MemoryRecord :=
  if e.expiresAt ≤ now then none else some e

theorem cleaned_lookup (s : MemoryStore) (k : String) (now : Nat) :
    (if (s.lookup k).any (·.expiresAt ≤ now) then s.erase k else s).lookup k =
      (s.lookup k).filter (now < ·.expiresAt) := by
  cases hs : s.lookup k with
  | none => simp [hs]
  | some e =>
    by_cases he : e.expiresAt ≤ now
    · simp [he, Option.filter, Nat.not_lt.mpr he]
    · simp [he, Option.filter, hs, Nat.not_le.mp he]

theorem current_live {s : MemoryStore} {a : Arrival} {e : MemoryRecord}
    (he : s.lookup a.call.key = some e) (hx : a.now < e.expiresAt) : s.current a = e := by
  simp [current, he, Option.filter, hx]

theorem current_new {s : MemoryStore} {a : Arrival}
    (hx : ∀ e, s.lookup a.call.key = some e → e.expiresAt ≤ a.now) :
    s.current a = ⟨0, a.now + a.call.ttl, 0⟩ := by
  have hnone : (s.lookup a.call.key).filter (a.now < ·.expiresAt) = none := by
    rw [Option.filter_eq_none_iff]
    intro e he
    simpa using hx e he
  rw [current, hnone, Option.getD_none]

theorem blocked_or (s : MemoryStore) (a : Arrival) :
    (∃ e, s.lookup a.call.key = some e ∧ a.now < e.blockedUntil) ∨
      ∀ e, s.lookup a.call.key = some e → e.blockedUntil ≤ a.now := by
  by_cases hb : ∃ e, s.lookup a.call.key = some e ∧ a.now < e.blockedUntil
  · exact .inl hb
  · right
    intro e he
    exact Nat.not_lt.mp fun h => hb ⟨e, he, h⟩

theorem answer_blocked {s : MemoryStore} {a : Arrival} {e : MemoryRecord}
    (he : s.lookup a.call.key = some e) (hb : a.now < e.blockedUntil) :
    s.answer a = ⟨a.call.limit + 1, e.blockedUntil - a.now, true, e.blockedUntil - a.now⟩ := by
  simp [answer, memoryIncrement, he, Option.filter, hb]

theorem lookup_step_blocked {s : MemoryStore} {a : Arrival} {e : MemoryRecord}
    (he : s.lookup a.call.key = some e) (hb : a.now < e.blockedUntil) :
    (s.step a).lookup a.call.key = kept e a.now := by
  have hclean := cleaned_lookup s a.call.key a.now
  have hstep : s.step a =
      if (s.lookup a.call.key).any (·.expiresAt ≤ a.now) then s.erase a.call.key else s := by
    simp [step, memoryIncrement, he, Option.filter, hb]
  rw [hstep, hclean, he]
  by_cases h : e.expiresAt ≤ a.now
  · simp [kept, Option.filter, h, Nat.not_lt.mpr h]
  · simp [kept, Option.filter, h, Nat.not_le.mp h]

section

variable {s : MemoryStore} {a : Arrival}
  (hb : ∀ e, s.lookup a.call.key = some e → e.blockedUntil ≤ a.now)

include hb

theorem filter_blocked : (s.lookup a.call.key).filter (a.now < ·.blockedUntil) = none := by
  rw [Option.filter_eq_none_iff]
  intro e he
  simpa using hb e he

/-- A call over the limit is counted, and starts a block. -/
theorem increment_over (hl : a.call.limit < (s.current a).hits + 1)
    (hd : 0 < a.call.blockDuration) :
    (s.step a).lookup a.call.key =
        some ⟨(s.current a).hits + 1, (s.current a).expiresAt, a.now + a.call.blockDuration⟩ ∧
      s.answer a = ⟨(s.current a).hits + 1, (s.current a).expiresAt - a.now, true,
        a.call.blockDuration⟩ := by
  have hf := filter_blocked hb
  have hc := cleaned_lookup s a.call.key a.now
  simp only [step, answer, memoryIncrement, hf, hc]
  have hcur : ((s.lookup a.call.key).filter (a.now < ·.expiresAt)).getD
      ⟨0, a.now + a.call.ttl, 0⟩ = s.current a := rfl
  rw [hcur, if_pos ⟨hl, hd⟩]
  simp

/-- Any other call that is not blocked is counted and let through. -/
theorem increment_within
    (hl : ¬ (a.call.limit < (s.current a).hits + 1 ∧ 0 < a.call.blockDuration)) :
    (s.step a).lookup a.call.key =
        some ⟨(s.current a).hits + 1, (s.current a).expiresAt, (s.current a).blockedUntil⟩ ∧
      s.answer a = ⟨(s.current a).hits + 1, (s.current a).expiresAt - a.now, false, 0⟩ := by
  have hf := filter_blocked hb
  have hc := cleaned_lookup s a.call.key a.now
  simp only [step, answer, memoryIncrement, hf, hc]
  have hcur : ((s.lookup a.call.key).filter (a.now < ·.expiresAt)).getD
      ⟨0, a.now + a.call.ttl, 0⟩ = s.current a := rfl
  rw [hcur, if_neg hl]
  simp

end

/-- A call leaves the records of other keys as they are. -/
theorem lookup_step_ne (s : MemoryStore) (a : Arrival) {k : String} (hk : k ≠ a.call.key) :
    (s.step a).lookup k = s.lookup k := by
  simp only [step, memoryIncrement]
  split <;> split_ifs <;> simp [hk]

end MemoryStore

end ApiCenter
