import ApiCenter.Library.Histories
import ApiCenter.Library.Shares
import ApiCenter.Model.ThrottlerCluster

namespace ApiCenter

open Library ApiCenter.Library.Runs ApiCenter.Library.Histories ApiCenter.Library.Shares

/-- The key a command is about. -/
def RateCommand.key : RateCommand → String
  | .ttl key | .incr key | .expire key _ | .setex key _ _ => key

theorem blockKey_inj {a b : String} : blockKey a = blockKey b ↔ a = b := by
  constructor
  · intro h
    have hl := congrArg String.toList h
    simp only [blockKey_eq, String.toList_append, List.append_cancel_right_eq,
      List.append_cancel_left_eq] at hl
    exact String.toList_inj.mp hl
  · exact congrArg blockKey

namespace RateRedis

variable {r r' : RateRedis} {k : String}

/-- Two databases that hold the same under a key. -/
structure SameAt (k : String) (r r' : RateRedis) : Prop where
  now : r.now = r'.now
  stored : r.entries.lookup k = r'.entries.lookup k

theorem SameAt.find (h : SameAt k r r') : r.find k = r'.find k := by
  simp only [RateRedis.find, h.now, h.stored]

theorem exec_now (r : RateRedis) (command : RateCommand) : (r.exec command).now = r.now := by
  cases command with
  | ttl key => rfl
  | incr key => rfl
  | expire key seconds =>
    simp only [exec]
    cases r.find key with
    | none => rfl
    | some v => split_ifs <;> rfl
  | setex key seconds value =>
    simp only [exec]
    split_ifs <;> rfl

/-- A command touches no key but its own. -/
theorem lookup_exec (r : RateRedis) {command : RateCommand} (hk : k ≠ command.key) :
    (r.exec command).entries.lookup k = r.entries.lookup k := by
  cases command with
  | ttl key => rfl
  | incr key =>
    have hne : k ≠ key := hk
    simp [exec, hne]
  | expire key seconds =>
    have hne : k ≠ key := hk
    simp only [exec]
    cases r.find key with
    | none => rfl
    | some v => split_ifs <;> simp [hne]
  | setex key seconds value =>
    have hne : k ≠ key := hk
    simp only [exec]
    split_ifs <;> simp [hne]

/-- A command does the same wherever its key holds the same. -/
theorem SameAt.exec_key {command : RateCommand} (h : SameAt command.key r r') :
    SameAt command.key (r.exec command) (r'.exec command) := by
  refine ⟨by rw [exec_now, exec_now, h.now], ?_⟩
  have hfind := h.find
  cases command with
  | ttl key => exact h.stored
  | incr key =>
    simp only [RateCommand.key] at hfind ⊢
    simp [exec, hfind]
  | expire key seconds =>
    simp only [RateCommand.key] at hfind ⊢
    simp only [exec, hfind, h.now]
    cases r'.find key with
    | none => exact h.stored
    | some v => split_ifs <;> simp
  | setex key seconds value =>
    simp only [exec, h.now, RateCommand.key]
    split_ifs
    · exact h.stored
    · simp

theorem SameAt.exec (h : SameAt k r r') {command : RateCommand}
    (hc : SameAt command.key r r') : SameAt k (r.exec command) (r'.exec command) := by
  by_cases hk : k = command.key
  · rw [hk]
    exact hc.exec_key
  · refine ⟨by rw [exec_now, exec_now, h.now], ?_⟩
    rw [lookup_exec r hk, lookup_exec r' hk, h.stored]

theorem SameAt.exec_other (h : SameAt k r r') {command : RateCommand} (hk : k ≠ command.key) :
    SameAt k (r.exec command) r' :=
  ⟨by rw [exec_now, h.now], by rw [lookup_exec r hk, h.stored]⟩

theorem SameAt.reply {command : RateCommand} (h : SameAt command.key r r') :
    r.reply command = r'.reply command := by
  have hfind := h.find
  cases command with
  | ttl key =>
    simp only [RateCommand.key] at hfind
    simp only [RateRedis.reply, ttlReply, hfind, h.now]
  | incr key =>
    simp only [RateCommand.key] at hfind
    simp only [RateRedis.reply, hfind]
  | expire key seconds =>
    simp only [RateCommand.key] at hfind
    simp only [RateRedis.reply, hfind]
  | setex key seconds value => rfl

end RateRedis

/-- A call sends its commands for its own two keys. -/
theorem Stage.command_key (c : Increment) (stage : Stage) :
    (stage.command c).key = hitsKey c.key ∨ (stage.command c).key = blockKey c.key := by
  cases stage with
  | blockTtl => exact .inr rfl
  | incr => exact .inl rfl
  | expire hits => exact .inl rfl
  | hitsTtl hits => exact .inl rfl
  | setex hits remainingTtl => exact .inr rfl

theorem Stage.command_other {c : Increment} {stage : Stage} {k : String} (h : c.key ≠ k) :
    hitsKey k ≠ (stage.command c).key ∧ blockKey k ≠ (stage.command c).key := by
  rcases stage.command_key c with hk | hk
  · rw [hk]
    exact ⟨hitsKey_inj.not.mpr (Ne.symm h), (hitsKey_ne_blockKey c.key k).symm⟩
  · rw [hk]
    exact ⟨hitsKey_ne_blockKey k c.key, blockKey_inj.not.mpr (Ne.symm h)⟩

namespace ThrottlerCluster

variable {k : String} {s t : ThrottlerCluster} {i : Nat} {x y : RateCall}

/-- The call counts in the bucket. -/
def inBucket (k : String) (x : RateCall) : Bool := x.call.key = k

/-- The calls of one bucket. -/
def callsOf (s : ThrottlerCluster) (k : String) : List RateCall := s.calls.filter (inBucket k)

/-- The place of the call `i` among those of a bucket, if it is one of them. -/
def placeOf (s : ThrottlerCluster) (k : String) (i : Nat) : Option Nat :=
  (s.calls[i]?.filter (inBucket k)).map fun _ => place (inBucket k) s.calls i

/-- What is left of an event when only one bucket is in use. -/
def shareOf (k : String) (s : ThrottlerCluster) : RateEvent → List RateEvent
  | .start call => if call.key = k then [.start call] else []
  | .execute i => (s.placeOf k i).toList.map .execute
  | .cut i executed error => (s.placeOf k i).toList.map fun j => .cut j executed error
  | .advance ms => [.advance ms]

theorem placeOf_mine (hx : s.calls[i]? = some x) (hk : x.call.key = k) :
    s.placeOf k i = some (place (inBucket k) s.calls i) := by
  simp [placeOf, hx, Option.filter, inBucket, hk]

theorem placeOf_other (hx : s.calls[i]? = some x) (hk : x.call.key ≠ k) :
    s.placeOf k i = none := by
  simp [placeOf, hx, Option.filter, inBucket, hk]

theorem placeOf_missing (hx : s.calls[i]? = none) : s.placeOf k i = none := by
  simp [placeOf, hx]

/-- `t` is what `s` is for a bucket. -/
structure Alike (k : String) (s t : ThrottlerCluster) : Prop where
  calls : t.calls = s.callsOf k
  hits : RateRedis.SameAt (hitsKey k) s.redis t.redis
  block : RateRedis.SameAt (blockKey k) s.redis t.redis
  births : s.births k = t.births k

namespace Alike

theorem at_command (h : Alike k s t) {c : Increment} (hk : c.key = k) (stage : Stage) :
    RateRedis.SameAt (stage.command c).key s.redis t.redis := by
  rcases stage.command_key c with hc | hc
  · rw [hc, hk]
    exact h.hits
  · rw [hc, hk]
    exact h.block

/-- A command of the bucket, executed on both sides. -/
theorem executed (h : Alike k s t) {c : Increment} (hk : c.key = k) (stage : Stage) :
    Alike k (s.executed c stage) (t.executed c stage) where
  calls := h.calls
  hits := h.hits.exec (h.at_command hk stage)
  block := h.block.exec (h.at_command hk stage)
  births := by
    have hs : (s.executed c stage).births k = _ := s.birthsAfter_apply c stage k
    have ht : (t.executed c stage).births k = _ := t.birthsAfter_apply c stage k
    rw [hs, ht, hk, h.births, h.hits.find]

/-- A command of another bucket, executed on the one side only. -/
theorem executed_other (h : Alike k s t) {c : Increment} (hk : c.key ≠ k) (stage : Stage) :
    Alike k (s.executed c stage) t where
  calls := h.calls
  hits := h.hits.exec_other (Stage.command_other hk).1
  block := h.block.exec_other (Stage.command_other hk).2
  births := by
    have hs : (s.executed c stage).births k = _ := s.birthsAfter_apply c stage k
    rw [hs, if_neg fun hp => hk hp.1.symm, h.births]

/-- A call of the bucket goes on, in both lists. -/
theorem set_mine (h : Alike k s t) (hx : s.calls[i]? = some x) (hk : x.call.key = k)
    (hy : y.call = x.call) :
    Alike k { s with calls := s.calls.set i y }
      { t with calls := t.calls.set (place (inBucket k) s.calls i) y } where
  calls := by
    have hx' : inBucket k x = true := decide_eq_true hk
    have hy' : inBucket k y = true := by rw [inBucket, hy]; exact hx'
    rw [h.calls]
    exact (filter_set_place (inBucket k) hx hx' hy').symm
  hits := h.hits
  block := h.block
  births := h.births

/-- A call of another bucket goes on. -/
theorem set_other (h : Alike k s t) (hx : s.calls[i]? = some x) (hk : x.call.key ≠ k)
    (hy : y.call = x.call) : Alike k { s with calls := s.calls.set i y } t where
  calls := by
    have hx' : inBucket k x = false := decide_eq_false hk
    have hy' : inBucket k y = false := by rw [inBucket, hy]; exact hx'
    rw [h.calls]
    exact (filter_set_other (inBucket k) hx hx' hy').symm
  hits := h.hits
  block := h.block
  births := h.births

theorem waiting (h : Alike k s t) (hx : s.calls[i]? = some x) (hk : x.call.key = k) :
    t.waiting (place (inBucket k) s.calls i) = s.waiting i := by
  have hplace : t.calls[place (inBucket k) s.calls i]? = some x := by
    rw [h.calls]
    exact getElem?_place (inBucket k) hx (decide_eq_true hk)
  rw [ThrottlerCluster.waiting, ThrottlerCluster.waiting, hplace, hx]

theorem execute_mine (h : Alike k s t) (hx : s.calls[i]? = some x) (hk : x.call.key = k) :
    Alike k (s.execute i) (t.execute (place (inBucket k) s.calls i)) := by
  have hwaiting := h.waiting hx hk
  unfold ThrottlerCluster.execute
  rw [hwaiting]
  cases hw : s.waiting i with
  | none => exact h
  | some w =>
    obtain ⟨y, stage⟩ := w
    obtain rfl : x = y := Option.some.inj (hx.symm.trans (waiting_eq_some.mp hw).1)
    have hafter := h.executed hk stage
    have hbirths : (s.executed x.call stage).births x.call.key =
        (t.executed x.call stage).births x.call.key := by
      rw [hk]
      exact hafter.births
    simp only [hbirths, (h.at_command hk stage).reply]
    refine hafter.set_mine (i := i) (x := x) hx hk ?_
    unfold RateCall.answered
    split <;> rfl

theorem execute_other (h : Alike k s t) (hx : s.calls[i]? = some x) (hk : x.call.key ≠ k) :
    Alike k (s.execute i) t := by
  unfold ThrottlerCluster.execute
  cases hw : s.waiting i with
  | none => exact h
  | some w =>
    obtain ⟨y, stage⟩ := w
    obtain rfl : x = y := Option.some.inj (hx.symm.trans (waiting_eq_some.mp hw).1)
    refine (h.executed_other hk stage).set_other (i := i) (x := x) hx hk ?_
    unfold RateCall.answered
    split <;> rfl

theorem cut_mine (h : Alike k s t) (hx : s.calls[i]? = some x) (hk : x.call.key = k)
    (executed : Bool) (error : Option Thrown) :
    Alike k (s.cut i executed error)
      (t.cut (place (inBucket k) s.calls i) executed error) := by
  have hwaiting := h.waiting hx hk
  unfold ThrottlerCluster.cut
  rw [hwaiting]
  cases hw : s.waiting i with
  | none => exact h
  | some w =>
    obtain ⟨y, stage⟩ := w
    obtain rfl : x = y := Option.some.inj (hx.symm.trans (waiting_eq_some.mp hw).1)
    cases executed with
    | false => exact h.set_mine hx hk rfl
    | true => exact (h.executed hk stage).set_mine (i := i) (x := x) hx hk rfl

theorem cut_other (h : Alike k s t) (hx : s.calls[i]? = some x) (hk : x.call.key ≠ k)
    (executed : Bool) (error : Option Thrown) : Alike k (s.cut i executed error) t := by
  unfold ThrottlerCluster.cut
  cases hw : s.waiting i with
  | none => exact h
  | some w =>
    obtain ⟨y, stage⟩ := w
    obtain rfl : x = y := Option.some.inj (hx.symm.trans (waiting_eq_some.mp hw).1)
    cases executed with
    | false => exact h.set_other hx hk rfl
    | true => exact (h.executed_other hk stage).set_other (i := i) (x := x) hx hk rfl

theorem start (h : Alike k s t) (call : Increment) :
    Alike k (s.step (.start call)) (final step t (shareOf k s (.start call))) := by
  by_cases hk : call.key = k
  · simp only [shareOf, if_pos hk, final_cons, final_nil, step]
    refine ⟨?_, h.hits, h.block, h.births⟩
    simp [h.calls, callsOf, inBucket, hk]
  · simp only [shareOf, if_neg hk, final_nil, step]
    refine ⟨?_, h.hits, h.block, h.births⟩
    simp [h.calls, callsOf, inBucket, hk]

theorem step (h : Alike k s t) (e : RateEvent) :
    Alike k (s.step e) (final ThrottlerCluster.step t (shareOf k s e)) := by
  cases e with
  | start call => exact h.start call
  | execute i =>
    cases hx : s.calls[i]? with
    | none =>
      have hw : s.waiting i = none := by simp [ThrottlerCluster.waiting, hx]
      simpa [shareOf, placeOf_missing hx, ThrottlerCluster.step, ThrottlerCluster.execute, hw]
        using h
    | some x =>
      by_cases hk : x.call.key = k
      · rw [shareOf, placeOf_mine hx hk]
        exact h.execute_mine hx hk
      · rw [shareOf, placeOf_other hx hk]
        exact h.execute_other hx hk
  | cut i executed error =>
    cases hx : s.calls[i]? with
    | none =>
      have hw : s.waiting i = none := by simp [ThrottlerCluster.waiting, hx]
      simpa [shareOf, placeOf_missing hx, ThrottlerCluster.step, ThrottlerCluster.cut, hw] using h
    | some x =>
      by_cases hk : x.call.key = k
      · rw [shareOf, placeOf_mine hx hk]
        exact h.cut_mine hx hk executed error
      · rw [shareOf, placeOf_other hx hk]
        exact h.cut_other hx hk executed error
  | advance ms =>
    have hnow : (s.redis.advance ms).now = (t.redis.advance ms).now :=
      congrArg (· + ms) h.hits.now
    exact ⟨h.calls, ⟨hnow, h.hits.stored⟩, ⟨hnow, h.block.stored⟩, h.births⟩

end Alike

end ThrottlerCluster

namespace MemoryStore

variable {s t : MemoryStore} {a : Arrival}

/-- The calls of a run with their answers. -/
def answered (s : MemoryStore) (a : Arrival) : List (Arrival × ThrottlerStorageRecord) :=
  [(a, s.answer a)]

theorem increment_congr (h : s.lookup a.call.key = t.lookup a.call.key) :
    s.answer a = t.answer a ∧
      (s.step a).lookup a.call.key = (t.step a).lookup a.call.key := by
  have hs := cleaned_lookup s a.call.key a.now
  have ht := cleaned_lookup t a.call.key a.now
  rw [← h] at ht
  simp only [answer, step, memoryIncrement, ← h]
  split
  · exact ⟨rfl, hs.trans ht.symm⟩
  · rw [hs, ht]
    split_ifs <;> simp

/-- The answers to the calls of a bucket are those of a store that sees only these. -/
theorem answers_filter (k : String) (h : s.lookup k = t.lookup k) (run : List Arrival) :
    (emitted step answered s run).filter (·.1.call.key = k) =
      emitted step answered t (run.filter (·.call.key = k)) := by
  induction run generalizing s t with
  | nil => rfl
  | cons a run ih =>
    by_cases hk : a.call.key = k
    · have hkey : s.lookup a.call.key = t.lookup a.call.key := by
        rw [hk]
        exact h
      obtain ⟨hanswer, hstep⟩ := increment_congr hkey
      rw [hk] at hstep
      rw [List.filter_cons_of_pos (by simpa using hk)]
      simp only [emitted, answered, List.singleton_append]
      rw [List.filter_cons_of_pos (by simpa using hk), hanswer]
      exact congrArg _ (ih hstep)
    · have hstep : (s.step a).lookup k = t.lookup k := by
        rw [lookup_step_ne s a (Ne.symm hk)]
        exact h
      rw [List.filter_cons_of_neg (by simpa using hk)]
      simp only [emitted, answered, List.singleton_append]
      rw [List.filter_cons_of_neg (by simpa using hk)]
      exact ih hstep

end MemoryStore

namespace Proofs.NoisyNeighbours

/-- No bucket feels the traffic of the others. On Redis, however the commands of all calls of all
instances interleave, fail or are cut off, the calls of a bucket have come to what they come to
when there are no others; so have the answers of the in-memory fallback. -/
theorem neighbours_isolated (k : String) (run : List RateEvent) (arrivals : List Arrival) :
    (final ThrottlerCluster.step {} run).callsOf k =
        (final ThrottlerCluster.step {}
          (emitted ThrottlerCluster.step (ThrottlerCluster.shareOf k) {} run)).calls ∧
      (emitted MemoryStore.step MemoryStore.answered ∅ arrivals).filter (·.1.call.key = k) =
        emitted MemoryStore.step MemoryStore.answered ∅
          (arrivals.filter (·.call.key = k)) := by
  have hstart : ThrottlerCluster.Alike k {} {} :=
    ⟨rfl, ⟨rfl, rfl⟩, ⟨rfl, rfl⟩, rfl⟩
  have hstep : ∀ (s t : ThrottlerCluster) (e : RateEvent), ThrottlerCluster.Alike k s t →
      ThrottlerCluster.Alike k (s.step e)
        (final ThrottlerCluster.step t (ThrottlerCluster.shareOf k s e)) :=
    fun _ _ e h => h.step e
  have hend := final_emitted hstep hstart run
  exact ⟨hend.calls.symm, MemoryStore.answers_filter k rfl arrivals⟩

end Proofs.NoisyNeighbours

end ApiCenter
