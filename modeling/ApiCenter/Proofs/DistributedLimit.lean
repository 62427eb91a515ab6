import ApiCenter.Library.Runs
import ApiCenter.Model.ThrottlerCluster

namespace ApiCenter

open ApiCenter.Library.Runs

/-- The hits a call reports, whether its request is let through or not. -/
def RateCall.reported (x : RateCall) : Option Int :=
  match x.progress with
  | .resolved r => some r.totalHits
  | .running _ | .rejected _ | .stopped => none

/-- The hits a call reports that lets its request through. -/
def RateCall.through (x : RateCall) : Option Int :=
  match x.progress with
  | .resolved r => if r.isBlocked then none else some r.totalHits
  | .running _ | .rejected _ | .stopped => none

/-- A call goes on with the hits its `INCR` returned, and reports them. -/
def RateCall.Told (x : RateCall) : Prop :=
  match x.progress with
  | .running .blockTtl | .running .incr => x.counted = none
  | .running (.expire hits) | .running (.hitsTtl hits) | .running (.setex hits _) =>
    ∃ n, x.counted = some (n, hits)
  | .resolved r => (∀ p, x.counted = some p → p.2 = r.totalHits) ∧
    (r.isBlocked = false → 0 < x.call.blockDuration → r.totalHits ≤ x.call.limit)
  | .rejected _ | .stopped => True

namespace ThrottlerCluster

/-- The calls for `k` whose `INCR` fell in the lifetime `n` of the hits key. -/
def countedIn (s : ThrottlerCluster) (k : String) (n : Nat) : List RateCall :=
  s.calls.filter fun x => x.call.key = k ∧ x.counted.map (·.1) = some n

/-- Those that have resolved. -/
def resolved (s : ThrottlerCluster) (k : String) (n : Nat) : List RateCall :=
  (s.countedIn k n).filter fun x => x.reported.isSome

/-- Those that are let through. -/
def passed (s : ThrottlerCluster) (k : String) (n : Nat) : List RateCall :=
  (s.countedIn k n).filter fun x => x.through.isSome

/-- In one lifetime of a hits key, no two calls report the same hits, and no more of them are let
through than the limit. -/
structure DistributedLimit (s : ThrottlerCluster) (k : String) (n : Nat) : Prop where
  distinct : ((s.resolved k n).map RateCall.reported).Nodup
  atMost : ∀ L : Nat, ((s.passed k n).filter fun x =>
    x.call.limit ≤ L ∧ 0 < x.call.blockDuration).length ≤ L

/-- The hits of a lifetime that may still be going on are below its counter. -/
def Below (s : ThrottlerCluster) (k : String) (p : Nat × Int) : Prop :=
  1 ≤ p.2 ∧ p.1 ≤ s.births k ∧
    (p.1 = s.births k → ∀ v, s.redis.find (hitsKey k) = some v → p.2 ≤ v.value)

/-- The hits calls have been told, against the counters they come from. -/
structure Accounted (s : ThrottlerCluster) : Prop where
  positive : ∀ k v, s.redis.find (hitsKey k) = some v → 1 ≤ v.value
  below : ∀ x ∈ s.calls, ∀ p, x.counted = some p → s.Below x.call.key p
  distinct : ∀ (i j : Nat) x y p, s.calls[i]? = some x → s.calls[j]? = some y →
    x.call.key = y.call.key → x.counted = some p → y.counted = some p → i = j
  told : ∀ x ∈ s.calls, x.Told

section

variable {s : ThrottlerCluster} {c : Increment} {stage : Stage}

/-- After a command a hits key holds at least what it held before, or it has just been created. -/
theorem found_executed {k : String} {v : Volatile}
    (hv : (s.executed c stage).redis.find (hitsKey k) = some v) :
    (∃ w, s.redis.find (hitsKey k) = some w ∧ w.value ≤ v.value) ∨
      (k = c.key ∧ stage = .incr ∧ s.redis.find (hitsKey c.key) = none ∧ v.value = 1) := by
  simp only [ThrottlerCluster.executed, find_hitsKey] at hv
  split_ifs at hv with hk
  · subst hk
    cases hw : s.redis.find (hitsKey c.key) with
    | none =>
      rw [hw] at hv
      cases stage with
      | incr =>
        cases hv
        exact .inr ⟨rfl, rfl, rfl, rfl⟩
      | blockTtl | expire | hitsTtl | setex => cases hv
    | some w =>
      rw [hw] at hv
      refine .inl ⟨w, rfl, ?_⟩
      cases stage with
      | incr =>
        cases hv
        exact Int.le_add_one (Int.le_refl _)
      | expire hits =>
        simp only [Stage.onHits, Option.bind_some] at hv
        split_ifs at hv
        cases hv
        exact Int.le_refl _
      | blockTtl | hitsTtl | setex =>
        cases hv
        exact Int.le_refl _
  · exact .inl ⟨v, hv, Int.le_refl _⟩

/-- The command of a call leaves every account right: a counter only grows within a lifetime. -/
theorem Below.executed {k : String} {p : Nat × Int} (h : s.Below k p) :
    (s.executed c stage).Below k p := by
  obtain ⟨hone, hle, hcur⟩ := h
  have hb : (s.executed c stage).births k = _ := s.birthsAfter_apply c stage k
  refine ⟨hone, ?_, ?_⟩
  · rw [hb]
    split_ifs <;> omega
  · intro hnow v hv
    rw [hb] at hnow
    rcases found_executed hv with ⟨w, hw, hwv⟩ | ⟨hk, hi, hnone, -⟩
    · split_ifs at hnow with hborn
      · omega
      · exact Int.le_trans (hcur hnow w hw) hwv
    · rw [if_pos ⟨hk, hi, hnone⟩] at hnow
      omega

/-- An `INCR` leaves the number it returns. -/
theorem incr_found {n : Int} (hn : s.redis.reply (.incr (hitsKey c.key)) = .ok n) {v : Volatile}
    (hv : (s.executed c .incr).redis.find (hitsKey c.key) = some v) : v.value = n := by
  have hf : (s.executed c .incr).redis.find (hitsKey c.key) = _ :=
    find_hitsKey s.redis c .incr c.key
  rw [if_pos rfl] at hf
  simp only [RateRedis.reply, Except.ok.injEq] at hn
  rw [hf] at hv
  cases hw : s.redis.find (hitsKey c.key) with
  | none =>
    rw [hw] at hv hn
    cases hv
    exact hn
  | some w =>
    rw [hw] at hv hn
    cases hv
    exact hn

/-- The pair an `INCR` returns is within its account, and nobody has it yet. -/
theorem incr_new (hpos : ∀ k v, s.redis.find (hitsKey k) = some v → 1 ≤ v.value) {n : Int}
    (hn : s.redis.reply (.incr (hitsKey c.key)) = .ok n) :
    (s.executed c .incr).Below c.key ((s.executed c .incr).births c.key, n) ∧
      ∀ p, s.Below c.key p → p ≠ ((s.executed c .incr).births c.key, n) := by
  have hb : (s.executed c .incr).births c.key = _ := s.birthsAfter_apply c .incr c.key
  have hstored : ∀ v, (s.executed c .incr).redis.find (hitsKey c.key) = some v → n ≤ v.value :=
    fun v hv => Int.le_of_eq (incr_found hn hv).symm
  simp only [RateRedis.reply, Except.ok.injEq] at hn
  cases hw : s.redis.find (hitsKey c.key) with
  | none =>
    rw [hw] at hn
    rw [if_pos ⟨rfl, rfl, hw⟩] at hb
    simp only [Option.getD_none] at hn
    refine ⟨⟨by omega, Nat.le_refl _, fun _ => hstored⟩, ?_⟩
    intro p hp he
    have hle := hp.2.1
    rw [he, hb] at hle
    simp only at hle
    omega
  | some w =>
    have hone := hpos _ w hw
    rw [hw] at hn
    rw [if_neg fun h => by rw [hw] at h; cases h.2.2] at hb
    simp only [Option.getD_some] at hn
    refine ⟨⟨by simp only; omega, Nat.le_refl _, fun _ => hstored⟩, ?_⟩
    intro p hp he
    have hle := hp.2.2 (by rw [he, hb]) w hw
    rw [he] at hle
    simp only at hle
    omega

theorem Accounted.executed (h : Accounted s) : Accounted (s.executed c stage) where
  positive k v hv := by
    rcases found_executed hv with ⟨w, hw, hwv⟩ | ⟨-, -, -, hone⟩
    · exact Int.le_trans (h.positive k w hw) hwv
    · exact Int.le_of_eq hone.symm
  below x hx p hp := (h.below x hx p hp).executed
  distinct := h.distinct
  told := h.told

/-- One call is replaced, with the account it had or with a new one. -/
theorem Accounted.set (h : Accounted s) {i : Nat} {x x' : RateCall} (hx : s.calls[i]? = some x)
    (hcall : x'.call = x.call) (htold : x'.Told)
    (hcount : ∀ p, x'.counted = some p → x.counted = some p ∨
      (s.Below x.call.key p ∧ ∀ y ∈ s.calls, y.call.key = x.call.key → y.counted ≠ some p)) :
    Accounted { s with calls := s.calls.set i x' } where
  positive := h.positive
  below y hy p hp := by
    rcases List.mem_or_eq_of_mem_set hy with hy | rfl
    · exact h.below y hy p hp
    · rw [hcall]
      rcases hcount p hp with hold | ⟨hnew, -⟩
      · exact h.below x (List.mem_of_getElem? hx) p hold
      · exact hnew
  distinct j l y z p hy hz hk hyp hzp := by
    simp only [List.getElem?_set] at hy hz
    split_ifs at hy hz with hij hlt hil
    · omega
    · cases hy
      rw [hcall] at hk
      rcases hcount p hyp with hold | ⟨-, hnew⟩
      · exact hij ▸ h.distinct i l x z p hx hz hk hold hzp
      · exact absurd hzp (hnew z (List.mem_of_getElem? hz) hk.symm)
    · cases hz
      rw [hcall] at hk
      rcases hcount p hzp with hold | ⟨-, hnew⟩
      · have hil : i = l := by assumption
        exact hil ▸ h.distinct j i y x p hy hx hk hyp hold
      · exact absurd hyp (hnew y (List.mem_of_getElem? hy) hk)
    · exact h.distinct j l y z p hy hz hk hyp hzp
  told y hy := by
    rcases List.mem_or_eq_of_mem_set hy with hy | rfl
    · exact h.told y hy
    · exact htold

/-- A call that goes on with a reply still knows the hits its `INCR` returned. -/
theorem told_answered {x : RateCall} (ht : x.Told) (hp : x.progress = .running stage)
    (births : Nat) (reply : Except Thrown Int) : (x.answered stage births reply).Told := by
  cases reply with
  | error e => trivial
  | ok n =>
    simp only [RateCall.Told, hp] at ht
    cases stage with
    | blockTtl =>
      simp only [RateCall.answered, Stage.resume, reduceCtorEq, if_false]
      split_ifs
      · refine ⟨fun p hc => ?_, fun hb => by cases hb⟩
        cases ht.symm.trans hc
      · exact ht
    | incr =>
      simp only [RateCall.answered, Stage.resume, Sum.elim_inl, if_true]
      split_ifs with hone
      · exact ⟨births, rfl⟩
      · exact ⟨births, rfl⟩
    | expire hits => exact ht
    | hitsTtl hits =>
      simp only [RateCall.answered, Stage.resume, reduceCtorEq, if_false]
      split_ifs with hover
      · exact ht
      · refine ⟨fun p hc => ?_, fun _ hd => Int.not_lt.mp fun hl => hover ⟨hl, hd⟩⟩
        obtain ⟨births', hcounted⟩ := ht
        cases hcounted.symm.trans hc
        rfl
    | setex hits remainingTtl =>
      refine ⟨fun p hc => ?_, fun hb => by cases hb⟩
      obtain ⟨births', hcounted⟩ := ht
      cases hcounted.symm.trans hc
      rfl

theorem Accounted.execute (h : Accounted s) (i : Nat) : Accounted (s.execute i) := by
  simp only [ThrottlerCluster.execute]
  cases hw : s.waiting i with
  | none => exact h
  | some w =>
    obtain ⟨x, stage⟩ := w
    obtain ⟨hx, hp⟩ := waiting_eq_some.mp hw
    have hmem := List.mem_of_getElem? hx
    have hafter : Accounted (s.executed x.call stage) := h.executed
    refine hafter.set hx ?_ (told_answered (h.told x hmem) hp _ _) ?_
    · cases s.redis.reply (stage.command x.call) <;> rfl
    · intro p hcounted
      cases hr : s.redis.reply (stage.command x.call) with
      | error e =>
        rw [hr] at hcounted
        exact .inl hcounted
      | ok n =>
        rw [hr] at hcounted
        by_cases hs : stage = .incr
        · subst hs
          right
          obtain ⟨hbelow, hnew⟩ := incr_new h.positive hr
          obtain rfl := Option.some.inj hcounted
          refine ⟨hbelow, fun y hy hk hyp => ?_⟩
          have hby := h.below y hy _ hyp
          rw [hk] at hby
          exact hnew _ hby rfl
        · simp only [RateCall.answered, if_neg hs] at hcounted
          exact .inl hcounted

theorem Accounted.cut (h : Accounted s) (i : Nat) (executed : Bool) (error : Option Thrown) :
    Accounted (s.cut i executed error) := by
  simp only [ThrottlerCluster.cut]
  cases hw : s.waiting i with
  | none => exact h
  | some w =>
    obtain ⟨x, stage⟩ := w
    obtain ⟨hx, hp⟩ := waiting_eq_some.mp hw
    cases executed with
    | true =>
      have hafter : Accounted (s.executed x.call stage) := h.executed
      refine hafter.set hx rfl ?_ fun p hc => .inl hc
      cases error <;> trivial
    | false =>
      refine h.set hx rfl ?_ fun p hc => .inl hc
      cases error <;> trivial

theorem Accounted.start (h : Accounted s) (call : Increment) :
    Accounted { s with calls := s.calls ++ [{ call := call }] } where
  positive := h.positive
  below x hx p hp := by
    rcases List.mem_append.mp hx with hx | hx
    · exact h.below x hx p hp
    · rw [List.mem_singleton.mp hx] at hp
      cases hp
  distinct i j x y p hx hy hk hxp hyp := by
    have hold : ∀ (l : Nat) z, (s.calls ++ [{ call := call }])[l]? = some z → z.counted = some p →
        s.calls[l]? = some z := by
      intro l z hz hzp
      rw [List.getElem?_append] at hz
      split_ifs at hz
      · exact hz
      · rw [List.mem_singleton.mp (List.mem_of_getElem? hz)] at hzp
        cases hzp
    exact h.distinct i j x y p (hold i x hx hxp) (hold j y hy hyp) hk hxp hyp
  told x hx := by
    rcases List.mem_append.mp hx with hx | hx
    · exact h.told x hx
    · rw [List.mem_singleton.mp hx]
      rfl

theorem Accounted.advance (h : Accounted s) (ms : Nat) :
    Accounted { s with redis := s.redis.advance ms } where
  positive k v hv := h.positive k v (RateRedis.find_advance hv)
  below x hx p hp := by
    obtain ⟨hone, hle, hcur⟩ := h.below x hx p hp
    exact ⟨hone, hle, fun hn v hv => hcur hn v (RateRedis.find_advance hv)⟩
  distinct := h.distinct
  told := h.told

theorem Accounted.step (h : Accounted s) (e : RateEvent) : Accounted (s.step e) := by
  cases e with
  | start call => exact h.start call
  | execute i => exact h.execute i
  | cut i executed error => exact h.cut i executed error
  | advance ms => exact h.advance ms

theorem accounted_empty : Accounted {} where
  positive k v hv := by simp [RateRedis.find] at hv
  below x hx := by cases hx
  distinct i j x y p hx := by simp at hx
  told x hx := by cases hx

theorem mem_countedIn {k : String} {n : Nat} {x : RateCall} :
    x ∈ s.countedIn k n ↔ x ∈ s.calls ∧ x.call.key = k ∧ ∃ hits, x.counted = some (n, hits) := by
  simp [countedIn, Option.map_eq_some_iff]

/-- What a counted call reports is what its `INCR` returned. -/
theorem Accounted.of_reported (h : Accounted s) {x : RateCall} (hx : x ∈ s.calls) {n : Nat}
    {count hits : Int} (hn : x.counted = some (n, count)) (hr : x.reported = some hits) :
    count = hits := by
  have htold := h.told x hx
  simp only [RateCall.reported] at hr
  simp only [RateCall.Told] at htold
  cases hp : x.progress with
  | resolved r =>
    rw [hp] at hr htold
    obtain rfl := Option.some.inj hr
    exact htold.1 _ hn
  | running stage | rejected error | stopped =>
    rw [hp] at hr
    cases hr

theorem reported_of_through {x : RateCall} {hits : Int} (ht : x.through = some hits) :
    x.reported = some hits := by
  unfold RateCall.through at ht
  unfold RateCall.reported
  split at ht
  · rename_i r hp
    split_ifs at ht
    simpa only [hp] using ht
  · cases ht
  · cases ht
  · cases ht

/-- A call that is let through reports no more than the limit. -/
theorem Accounted.le_limit (h : Accounted s) {x : RateCall} (hx : x ∈ s.calls) {hits : Int}
    (ht : x.through = some hits) (hd : 0 < x.call.blockDuration) : hits ≤ x.call.limit := by
  have htold := h.told x hx
  simp only [RateCall.through] at ht
  simp only [RateCall.Told] at htold
  cases hp : x.progress with
  | resolved r =>
    rw [hp] at ht htold
    simp only at ht htold
    split_ifs at ht with hb
    obtain rfl := Option.some.inj ht
    exact htold.2 (Bool.eq_false_iff.mpr hb) hd
  | running stage | rejected error | stopped =>
    rw [hp] at ht
    cases ht

/-- As no two calls have been counted alike, no two report the same hits. -/
theorem Accounted.distinct_reported (h : Accounted s) (k : String) (n : Nat) :
    ((s.resolved k n).map RateCall.reported).Nodup := by
  rw [List.Nodup, List.pairwise_map, resolved, countedIn, List.pairwise_filter,
    List.pairwise_filter, List.pairwise_iff_getElem]
  intro i j hi hj hlt hx hy hxr hyr he
  simp only [decide_eq_true_eq, Option.map_eq_some_iff, Option.isSome_iff_exists] at hx hy hxr hyr
  obtain ⟨hxk, ⟨n', count⟩, hxc, rfl⟩ := hx
  obtain ⟨hyk, ⟨n', count'⟩, hyc, rfl⟩ := hy
  obtain ⟨hits, hxr⟩ := hxr
  obtain rfl := h.of_reported (List.getElem_mem hi) hxc hxr
  obtain rfl := h.of_reported (List.getElem_mem hj) hyc (he ▸ hxr)
  have hij := h.distinct i j _ _ _ (List.getElem?_eq_getElem hi) (List.getElem?_eq_getElem hj)
    (hxk.trans hyk.symm) hxc hyc
  omega

theorem Accounted.distinct_through (h : Accounted s) (k : String) (n : Nat) :
    ((s.passed k n).map RateCall.through).Nodup := by
  have hsome : ∀ x : RateCall, x.through.isSome = true → x.reported.isSome = true := by
    intro x hx
    obtain ⟨hits, ht⟩ := Option.isSome_iff_exists.mp hx
    rw [reported_of_through ht]
    rfl
  have hsub : (s.passed k n).Sublist (s.resolved k n) :=
    List.monotone_filter_right _ hsome
  have hsame : (s.passed k n).map RateCall.through = (s.passed k n).map RateCall.reported := by
    refine List.map_congr_left fun x hx => ?_
    obtain ⟨hits, ht⟩ := Option.isSome_iff_exists.mp (List.mem_filter.mp hx).2
    rw [ht, reported_of_through ht]
  rw [hsame]
  exact (h.distinct_reported k n).sublist (hsub.map _)

/-- Distinct hits between one and the limit are no more than the limit. -/
theorem Accounted.at_most (h : Accounted s) (k : String) (n L : Nat) :
    ((s.passed k n).filter fun x => x.call.limit ≤ L ∧ 0 < x.call.blockDuration).length ≤ L := by
  have hnodup := (h.distinct_through k n).sublist
    ((List.filter_sublist (p := fun x : RateCall =>
      x.call.limit ≤ L ∧ 0 < x.call.blockDuration)).map RateCall.through)
  have hsub : ((s.passed k n).filter fun x => x.call.limit ≤ L ∧ 0 < x.call.blockDuration).map
      RateCall.through ⊆ (List.range' 1 L).map fun m : Nat => some (m : Int) := by
    intro o ho
    obtain ⟨x, hx, rfl⟩ := List.mem_map.mp ho
    simp only [passed, List.mem_filter, decide_eq_true_eq, Option.isSome_iff_exists,
      mem_countedIn] at hx
    obtain ⟨⟨⟨hmem, -, count, hn⟩, hits, ht⟩, hl, hd⟩ := hx
    obtain rfl := h.of_reported hmem hn (reported_of_through ht)
    have hone := (h.below x hmem _ hn).1
    have hlimit := h.le_limit hmem ht hd
    rw [ht, List.mem_map]
    refine ⟨count.toNat, ?_, ?_⟩
    · rw [List.mem_range'_1]
      omega
    · rw [Int.toNat_of_nonneg (by omega)]
  have hlen := hnodup.length_le_of_subset hsub
  simpa using hlen

end

/-- However the commands of any number of calls of any number of instances interleave, and
wherever calls are cut off, the limit holds in every lifetime of every hits key. -/
theorem distributed_limit (es : List RateEvent) (k : String) (n : Nat) :
    DistributedLimit (final step {} es) k n := by
  have h : Accounted (final step {} es) :=
    invariant_reached (fun _ e hi => hi.step e) accounted_empty es
  exact ⟨h.distinct_reported k n, h.at_most k n⟩

end ThrottlerCluster

end ApiCenter
