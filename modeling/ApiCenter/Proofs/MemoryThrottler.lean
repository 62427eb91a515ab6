import ApiCenter.Library.Histories
import ApiCenter.Model.ThrottlerStorage

namespace ApiCenter.MemoryStore

open ApiCenter.Library.Runs ApiCenter.Library.Histories

/-- The calls for the key of `c` all pass the arguments `c`, and no call is made earlier than the
one before it. -/
structure Steady (c : Increment) (run : List Arrival) : Prop where
  same : ∀ a ∈ run, a.call.key = c.key → a.call = c
  ordered : run.Pairwise (·.now ≤ ·.now)

/-- Calls for `k` made before `t` are blocked. -/
def BlockedBefore (k : String) (t : Int) (s : MemoryStore) (b : Arrival) : Prop :=
  b.call.key = k → (b.now : Int) < t → (s.answer b).isBlocked = true

/-- Every block that a call of the run announces holds for as long as it announces. -/
def BlocksLast (k : String) (s : MemoryStore) (run : List Arrival) : Prop :=
  ∀ pre a rest, run = pre ++ a :: rest → a.call.key = k →
    ((final step s pre).answer a).isBlocked = true →
    Always step (BlockedBefore k (a.now + ((final step s pre).answer a).timeToBlockExpire))
      (final step s (pre ++ [a])) rest

/-- Once a call has found the window of a record over and its block still on, no call comes before
the block is over. -/
def NoneAfterForgotten (k : String) (s : MemoryStore) (run : List Arrival) : Prop :=
  ∀ pre a rest e, run = pre ++ a :: rest → a.call.key = k →
    (final step s pre).lookup k = some e → e.expiresAt ≤ a.now → a.now < e.blockedUntil →
    ∀ b ∈ rest, b.call.key = k → e.blockedUntil ≤ b.now

theorem Steady.tail {c : Increment} {a : Arrival} {run : List Arrival} (h : Steady c (a :: run)) :
    Steady c run :=
  ⟨fun b hb => h.same b (List.mem_cons_of_mem a hb), (List.pairwise_cons.mp h.ordered).2⟩

theorem Steady.head_le {c : Increment} {a : Arrival} {run : List Arrival}
    (h : Steady c (a :: run)) : ∀ b ∈ run, a.now ≤ b.now :=
  (List.pairwise_cons.mp h.ordered).1

theorem Steady.split {c : Increment} {pre rest : List Arrival} {a : Arrival}
    (h : Steady c (pre ++ a :: rest)) : Steady c (a :: rest) :=
  ⟨fun b hb => h.same b (List.mem_append_right pre hb), (List.pairwise_append.mp h.ordered).2.1⟩

theorem NoneAfterForgotten.split {k : String} {s : MemoryStore} (pre : List Arrival)
    {rest : List Arrival} (h : NoneAfterForgotten k s (pre ++ rest)) :
    NoneAfterForgotten k (final step s pre) rest := by
  intro pre' a rest' e hrest ha he
  rw [← final_append] at he
  exact h (pre ++ pre') a rest' e (by rw [hrest, List.append_assoc]) ha he

/-- A block that ends with the calls left is trivially kept. -/
theorem blockedBefore_of_late {k : String} {t : Int} (s : MemoryStore) {run : List Arrival}
    (h : ∀ b ∈ run, b.call.key = k → t ≤ b.now) : Always step (BlockedBefore k t) s run := by
  have hlate : ∀ b ∈ run, b.call.key = k → ¬ (b.now : Int) < t := by
    intro b hb hk hlt
    have hle := h b hb hk
    omega
  exact (always_of_forall s hlate).mono fun s b hb hk hlt => absurd hlt (hb hk)

section

variable {c : Increment} {s : MemoryStore} {run : List Arrival}

/-- As long as the record of a block is kept, the block holds. -/
theorem blockedBefore_of_record (hr : Steady c run) (hn : NoneAfterForgotten c.key s run)
    {e : MemoryRecord} (he : s.lookup c.key = some e) {t : Int} (ht : t ≤ e.blockedUntil) :
    Always step (BlockedBefore c.key t) s run := by
  induction run generalizing s with
  | nil => trivial
  | cons b run ih =>
    have hrest : NoneAfterForgotten c.key (s.step b) run := hn.split [b]
    by_cases hk : b.call.key = c.key
    · rw [← hk] at he
      by_cases hb : b.now < e.blockedUntil
      · refine ⟨fun _ _ => by rw [answer_blocked he hb], ?_⟩
        have hkept := lookup_step_blocked he hb
        rw [hk] at he hkept
        by_cases hx : e.expiresAt ≤ b.now
        · refine blockedBefore_of_late _ fun b' hb' hk' => ?_
          have hlate := hn [] b run e rfl hk he hx hb b' hb' hk'
          omega
        · exact ih hr.tail hrest (by rw [hkept, kept, if_neg hx])
      · refine blockedBefore_of_late _ fun b' hb' hk' => ?_
        rcases List.mem_cons.mp hb' with rfl | hb'
        · omega
        · have hle := hr.head_le b' hb'
          omega
    · refine ⟨fun h => absurd h hk, ih hr.tail hrest ?_⟩
      rw [lookup_step_ne s b (Ne.symm hk), he]

/-- With no record left, the next call is let through, unless the limit lets nobody through. -/
theorem late_of_blockedBefore (hr : Steady c run) (hl : c.limit ≠ 0)
    (hs : s.lookup c.key = none) {t : Int} (h : Always step (BlockedBefore c.key t) s run) :
    ∀ b ∈ run, b.call.key = c.key → t ≤ b.now := by
  induction run generalizing s with
  | nil => simp
  | cons b run ih =>
    obtain ⟨hb, hrest⟩ := h
    by_cases hk : b.call.key = c.key
    · have hcall : b.call = c := hr.same b List.mem_cons_self hk
      have hnone : ∀ e, s.lookup b.call.key = some e → e.blockedUntil ≤ b.now := by
        rw [hk, hs]
        intro e he
        cases he
      have hnew : s.current b = ⟨0, b.now + b.call.ttl, 0⟩ := by
        refine current_new ?_
        rw [hk, hs]
        intro e he
        cases he
      have hthrough := (increment_within hnone (by rw [hnew, hcall]; simp only; omega)).2
      have hle : t ≤ b.now := by
        by_contra hlt
        have hblocked := hb hk (Int.not_le.mp hlt)
        rw [hthrough] at hblocked
        cases hblocked
      intro b' hb' _
      rcases List.mem_cons.mp hb' with rfl | hb'
      · exact hle
      · have hmore := hr.head_le b' hb'
        omega
    · intro b' hb' hk'
      rcases List.mem_cons.mp hb' with rfl | hb'
      · exact absurd hk' hk
      · exact ih hr.tail (by rw [lookup_step_ne s b (Ne.symm hk), hs]) hrest b' hb' hk'

theorem blocked_of_limit_zero {a : Arrival} (hl : a.call.limit = 0)
    (hd : 0 < a.call.blockDuration) : (s.answer a).isBlocked = true := by
  rcases blocked_or s a with ⟨e, he, hb⟩ | hnone
  · rw [answer_blocked he hb]
  · rw [(increment_over hnone (by omega) hd).2]

/-- The block a call announces holds as long as its record is not deleted with a call to come. -/
theorem block_holds {a : Arrival} (hr : Steady c (a :: run))
    (hn : NoneAfterForgotten c.key s (a :: run)) (hk : a.call.key = c.key)
    (hblocked : (s.answer a).isBlocked = true) :
    Always step (BlockedBefore c.key (a.now + (s.answer a).timeToBlockExpire)) (s.step a) run := by
  have hrest : NoneAfterForgotten c.key (s.step a) run := hn.split [a]
  rcases blocked_or s a with ⟨e, he, hb⟩ | hnone
  · have hkept := lookup_step_blocked he hb
    rw [answer_blocked he hb]
    rw [hk] at he hkept
    by_cases hx : e.expiresAt ≤ a.now
    · refine blockedBefore_of_late _ fun b hb' hkb => ?_
      have hlate := hn [] a run e rfl hk he hx hb b hb' hkb
      simp only
      omega
    · rw [kept, if_neg hx] at hkept
      exact blockedBefore_of_record hr.tail hrest hkept (by simp only; omega)
  · by_cases hl : a.call.limit < (s.current a).hits + 1 ∧ 0 < a.call.blockDuration
    · obtain ⟨hstep, hans⟩ := increment_over hnone hl.1 hl.2
      rw [hk] at hstep
      rw [hans]
      exact blockedBefore_of_record hr.tail hrest hstep (by simp only; omega)
    · rw [(increment_within hnone hl).2] at hblocked
      cases hblocked

end

/-- Blocks last as announced exactly when none of their records is deleted with a call still to
come. -/
theorem blocks_last_iff (c : Increment) (hd : 0 < c.blockDuration) (s : MemoryStore)
    (run : List Arrival) (hr : Steady c run) :
    BlocksLast c.key s run ↔ c.limit = 0 ∨ NoneAfterForgotten c.key s run := by
  constructor
  · intro h
    by_cases hl : c.limit = 0
    · exact .inl hl
    · right
      intro pre a rest e hrun hk he hx hb
      subst hrun
      rw [← hk] at he
      have hans := answer_blocked he hb
      have hlasts := h pre a rest rfl hk (by rw [hans])
      have hgone : (final step s (pre ++ [a])).lookup c.key = none := by
        rw [final_append, final_cons, final_nil, ← hk, lookup_step_blocked he hb, kept, if_pos hx]
      rw [hans] at hlasts
      intro b hb' hkb
      have hle := late_of_blockedBefore hr.split.tail hl hgone hlasts b hb' hkb
      simp only at hle
      omega
  · intro h pre a rest hrun hk hblocked
    subst hrun
    have hcall : a.call = c := hr.same a (by simp) hk
    rcases h with hl | h
    · refine (always_of_forall _ fun b hb => hr.split.tail.same b hb).mono ?_
      intro s' b hb hkb _
      exact blocked_of_limit_zero (by rw [hb hkb, hl]) (by rw [hb hkb]; exact hd)
    · rw [final_append]
      exact block_holds hr.split (h.split pre) hk hblocked

/-- The third call is made when the window is over, and the fourth one goes through 800 ms before
the announced end of the block. -/
theorem block_is_forgotten :
    ¬ BlocksLast "orders" ∅
      [⟨⟨"orders", 1000, 1, 1000⟩, 0⟩, ⟨⟨"orders", 1000, 1, 1000⟩, 900⟩,
        ⟨⟨"orders", 1000, 1, 1000⟩, 1000⟩, ⟨⟨"orders", 1000, 1, 1000⟩, 1100⟩] := by
  intro h
  obtain ⟨-, hfourth, -⟩ := h [_] _ [_, _] rfl rfl (by decide)
  exact absurd (hfourth rfl (by decide)) (by decide)

/-- A run in which the key is left alone until the block is over. -/
theorem blocks_last_left_alone :
    BlocksLast "orders" ∅
        [⟨⟨"orders", 1000, 1, 1000⟩, 0⟩, ⟨⟨"orders", 1000, 1, 1000⟩, 900⟩,
          ⟨⟨"billing", 1000, 1, 1000⟩, 1100⟩, ⟨⟨"orders", 1000, 1, 1000⟩, 1900⟩] ↔
      (⟨"orders", 1000, 1, 1000⟩ : Increment).limit = 0 ∨ NoneAfterForgotten "orders" ∅
        [⟨⟨"orders", 1000, 1, 1000⟩, 0⟩, ⟨⟨"orders", 1000, 1, 1000⟩, 900⟩,
          ⟨⟨"billing", 1000, 1, 1000⟩, 1100⟩, ⟨⟨"orders", 1000, 1, 1000⟩, 1900⟩] :=
  blocks_last_iff ⟨"orders", 1000, 1, 1000⟩ (by decide) ∅ _ ⟨by decide, by decide⟩

/-- The times of the calls for `k` that get through, each with the hits it is told. -/
def passed (k : String) : MemoryStore → List Arrival → List (Nat × Int) :=
  emitted step fun s a =>
    if a.call.key = k ∧ (s.answer a).isBlocked = false then [(a.now, (s.answer a).totalHits)]
    else []

/-- The call finds no record to count in, and creates `e`. -/
structure Opens (s : MemoryStore) (a : Arrival) (e : MemoryRecord) : Prop where
  ended : ∀ o, s.lookup a.call.key = some o → o.expiresAt ≤ a.now ∧ o.blockedUntil ≤ a.now
  created : (s.step a).lookup a.call.key = some e

/-- What the limit of `c` means for the calls of a run that get through. -/
structure WithinLimit (c : Increment) (s : MemoryStore) (run : List Arrival) : Prop where
  interval : ∀ x : Int,
    (passed c.key s run).countP (fun p => x ≤ p.1 ∧ p.1 < x + c.ttl) ≤ 2 * c.limit
  window : ∀ pre a rest e, run = pre ++ a :: rest → a.call.key = c.key →
    Opens (final step s pre) a e →
    ∃ n ≤ c.limit,
      ((passed c.key (final step s pre) (a :: rest)).filter (·.1 < e.expiresAt)).map (·.2) =
        (List.range' 1 n).map Int.ofNat

section

variable {c : Increment} {s : MemoryStore} {run : List Arrival}

theorem passed_cons (k : String) (s : MemoryStore) (b : Arrival) (run : List Arrival) :
    passed k s (b :: run) =
      (if b.call.key = k ∧ (s.answer b).isBlocked = false then [(b.now, (s.answer b).totalHits)]
        else []) ++ passed k (s.step b) run := rfl

theorem passed_time {k : String} {p : Nat × Int} (hp : p ∈ passed k s run) :
    ∃ b ∈ run, p.1 = b.now := by
  induction run generalizing s with
  | nil => cases hp
  | cons b run ih =>
    rw [passed_cons] at hp
    rcases List.mem_append.mp hp with hp | hp
    · split_ifs at hp
      · rw [List.mem_singleton.mp hp]
        exact ⟨b, List.mem_cons_self, rfl⟩
      · cases hp
    · obtain ⟨b', hb', he⟩ := ih hp
      exact ⟨b', List.mem_cons_of_mem b hb', he⟩

theorem passed_late (k : String) {t : Nat} (h : ∀ b ∈ run, t ≤ b.now) :
    (passed k s run).filter (·.1 < t) = [] := by
  rw [List.filter_eq_nil_iff]
  intro p hp
  obtain ⟨b, hb, he⟩ := passed_time hp
  have hle := h b hb
  simp only [decide_eq_true_eq]
  omega

/-- What a call does to the record of its key in the window of the record: it is blocked, and then
the record keeps its hits or has gone past the limit, or it gets through as the next hit. -/
theorem window_arrival (hd : 0 < c.blockDuration) {b : Arrival} (hcall : b.call = c)
    {e : MemoryRecord} (he : s.lookup c.key = some e) (hx : b.now < e.expiresAt) :
    ∃ e', (s.step b).lookup c.key = some e' ∧ e'.expiresAt = e.expiresAt ∧
      ((s.answer b).isBlocked = true ∧ (e'.hits = e.hits ∨ c.limit - e'.hits = 0) ∨
        (s.answer b).isBlocked = false ∧ (s.answer b).totalHits = Int.ofNat (e.hits + 1) ∧
          e'.hits = e.hits + 1 ∧ e.hits + 1 ≤ c.limit) := by
  subst hcall
  rcases blocked_or s b with ⟨e', he', hb⟩ | hnone
  · obtain rfl : e = e' := Option.some.inj (he.symm.trans he')
    have hkept := lookup_step_blocked he hb
    rw [kept, if_neg (Nat.not_le.mpr hx)] at hkept
    exact ⟨e, hkept, rfl, .inl ⟨by rw [answer_blocked he hb], .inl rfl⟩⟩
  · have hlive := current_live he hx
    by_cases hl : b.call.limit < e.hits + 1
    · obtain ⟨hstep, hans⟩ := increment_over hnone (by rwa [hlive]) hd
      rw [hlive] at hstep
      exact ⟨_, hstep, rfl, .inl ⟨by rw [hans], .inr (by simp only; omega)⟩⟩
    · obtain ⟨hstep, hans⟩ := increment_within hnone (by rw [hlive]; omega)
      rw [hlive] at hstep hans
      refine ⟨_, hstep, rfl, .inr ⟨by rw [hans], ?_, rfl, by omega⟩⟩
      rw [hans]
      rfl

/-- While the window of a record lasts, the calls that get through count on from its hits, up to
the limit. -/
theorem passed_window (hd : 0 < c.blockDuration) (hr : Steady c run) {e : MemoryRecord}
    (he : s.lookup c.key = some e) :
    ∃ n ≤ c.limit - e.hits, ((passed c.key s run).filter (·.1 < e.expiresAt)).map (·.2) =
      (List.range' (e.hits + 1) n).map Int.ofNat := by
  induction run generalizing s e with
  | nil => exact ⟨0, Nat.zero_le _, rfl⟩
  | cons b run ih =>
    by_cases hx : e.expiresAt ≤ b.now
    · refine ⟨0, Nat.zero_le _, ?_⟩
      rw [passed_late c.key fun b' hb' => ?_]
      · rfl
      · rcases List.mem_cons.mp hb' with rfl | hb'
        · exact hx
        · exact Nat.le_trans hx (hr.head_le b' hb')
    · rw [passed_cons]
      by_cases hk : b.call.key = c.key
      · have hcall : b.call = c := hr.same b List.mem_cons_self hk
        obtain ⟨e', hstep, hwindow, harrival⟩ :=
          window_arrival hd hcall he (Nat.not_le.mp hx)
        obtain ⟨n, hn, hnext⟩ := ih hr.tail hstep
        rw [hwindow] at hnext
        rcases harrival with ⟨hblocked, hhits⟩ | ⟨hpass, htotal, hhits, hlimit⟩
        · rw [if_neg fun h => absurd h.2 (by simp [hblocked]), List.nil_append, hnext]
          rcases hhits with hhits | hover
          · exact ⟨n, hhits ▸ hn, by rw [hhits]⟩
          · obtain rfl : n = 0 := by omega
            exact ⟨0, Nat.zero_le _, rfl⟩
        · refine ⟨n + 1, by omega, ?_⟩
          rw [if_pos ⟨hk, hpass⟩, List.filter_append, List.map_append, hnext, htotal, hhits]
          simp [List.range'_succ, Nat.not_le.mp hx]
      · rw [if_neg fun h => hk h.1, List.nil_append]
        exact ih hr.tail (by rw [lookup_step_ne s b (Ne.symm hk), he])

theorem counted_record {a : Arrival}
    (hnone : ∀ o, s.lookup a.call.key = some o → o.blockedUntil ≤ a.now) :
    ∃ e, (s.step a).lookup a.call.key = some e := by
  by_cases hl : a.call.limit < (s.current a).hits + 1 ∧ 0 < a.call.blockDuration
  · exact ⟨_, (increment_over hnone hl.1 hl.2).1⟩
  · exact ⟨_, (increment_within hnone hl).1⟩

/-- The record a call creates, and its answer. -/
theorem Opens.cases {a : Arrival} {e : MemoryRecord} (h : Opens s a e) :
    e.hits = 1 ∧ e.expiresAt = a.now + a.call.ttl ∧ (s.answer a).totalHits = 1 ∧
      ((s.answer a).isBlocked = true ↔ a.call.limit = 0 ∧ 0 < a.call.blockDuration) := by
  have hnone : ∀ o, s.lookup a.call.key = some o → o.blockedUntil ≤ a.now :=
    fun o ho => (h.ended o ho).2
  have hnew := current_new fun o ho => (h.ended o ho).1
  by_cases hl : a.call.limit < (s.current a).hits + 1 ∧ 0 < a.call.blockDuration
  · obtain ⟨hstep, hans⟩ := increment_over hnone hl.1 hl.2
    obtain rfl := Option.some.inj (hstep.symm.trans h.created)
    rw [hnew] at hl
    rw [hans, hnew]
    exact ⟨rfl, rfl, rfl, iff_of_true rfl ⟨by simp only at hl; omega, hl.2⟩⟩
  · obtain ⟨hstep, hans⟩ := increment_within hnone hl
    obtain rfl := Option.some.inj (hstep.symm.trans h.created)
    rw [hnew] at hl
    rw [hans, hnew]
    exact ⟨rfl, rfl, rfl, iff_of_false Bool.false_ne_true fun h => hl ⟨by simp [h.1], h.2⟩⟩

/-- The calls that get through in the window of a new record are numbered from one. -/
theorem Opens.numbered {a : Arrival} {e : MemoryRecord} (h : Opens s a e)
    (hk : a.call.key = c.key) (ht : 0 < c.ttl) (hd : 0 < c.blockDuration)
    (hr : Steady c (a :: run)) :
    ∃ n ≤ c.limit, ((passed c.key s (a :: run)).filter (·.1 < e.expiresAt)).map (·.2) =
      (List.range' 1 n).map Int.ofNat := by
  have hcall : a.call = c := hr.same a List.mem_cons_self hk
  obtain ⟨hhits, hends, htotal, hblocked⟩ := h.cases
  have hcreated := h.created
  rw [hk] at hcreated
  obtain ⟨n, hn, hnext⟩ := passed_window hd hr.tail hcreated
  rw [hcall] at hends hblocked
  rw [passed_cons]
  by_cases hl : c.limit = 0
  · refine ⟨0, Nat.zero_le _, ?_⟩
    obtain rfl : n = 0 := by omega
    have hb := hblocked.mpr ⟨hl, hd⟩
    simpa [hb] using hnext
  · refine ⟨n + 1, by omega, ?_⟩
    have hb : (s.answer a).isBlocked = false := by
      rw [Bool.eq_false_iff]
      exact fun hb => hl (hblocked.mp hb).1
    rw [hhits] at hnext
    rw [if_pos ⟨hk, hb⟩, List.filter_append, List.map_append, hnext, htotal]
    simp [List.range'_succ, hends, ht]

/-- How many calls may still get through in the window of a record. -/
def left (c : Increment) (record : Option MemoryRecord) : Nat :=
  (record.map fun e => c.limit - e.hits).getD 0

/-- At most the limit of a record's window is left for an interval within it. -/
theorem interval_of_record (hd : 0 < c.blockDuration) (hr : Steady c run) {e : MemoryRecord}
    (he : s.lookup c.key = some e) {x : Int} (hx : x + c.ttl ≤ e.expiresAt) :
    (passed c.key s run).countP (fun p => x ≤ p.1 ∧ p.1 < x + c.ttl) ≤ c.limit - e.hits := by
  obtain ⟨n, hn, hwindow⟩ := passed_window hd hr he
  have hlength := congrArg List.length hwindow
  simp only [List.length_map, List.length_range'] at hlength
  rw [← List.countP_eq_length_filter] at hlength
  have hmono : (passed c.key s run).countP (fun p => x ≤ p.1 ∧ p.1 < x + c.ttl) ≤
      (passed c.key s run).countP (fun p => p.1 < e.expiresAt) := by
    refine List.countP_mono_left fun p _ hp => ?_
    simp only [decide_eq_true_eq] at hp ⊢
    omega
  omega

/-- A call adds one to what has got through, if it gets through. -/
theorem countP_passed_cons (k : String) (s : MemoryStore) (b : Arrival) (run : List Arrival)
    (p : Nat × Int → Bool) :
    (passed k s (b :: run)).countP p ≤
      (if b.call.key = k ∧ (s.answer b).isBlocked = false then 1 else 0) +
        (passed k (s.step b) run).countP p := by
  rw [passed_cons, List.countP_append]
  refine Nat.add_le_add_right ?_ _
  split_ifs
  · exact List.countP_le_length
  · exact Nat.le_refl 0

/-- A call that finds a block, or a record to count in, takes what it lets through from what is
left. -/
theorem left_step (hd : 0 < c.blockDuration) {b : Arrival} (hcall : b.call = c) {e : MemoryRecord}
    (he : s.lookup c.key = some e) (hold : b.now < e.blockedUntil ∨ b.now < e.expiresAt) :
    (if (s.answer b).isBlocked = false then 1 else 0) + left c ((s.step b).lookup c.key) ≤
      left c (some e) := by
  subst hcall
  rcases blocked_or s b with ⟨e', he', hb⟩ | hnone
  · obtain rfl : e = e' := Option.some.inj (he.symm.trans he')
    rw [answer_blocked he hb, lookup_step_blocked he hb, kept]
    simp only [Bool.true_eq_false, if_false, Nat.zero_add]
    split_ifs
    · exact Nat.zero_le _
    · exact Nat.le_refl _
  · have hlt : b.now < e.expiresAt := hold.resolve_left (Nat.not_lt.mpr (hnone e he))
    have hcur := current_live he hlt
    by_cases hl : b.call.limit < e.hits + 1
    · obtain ⟨hstep, hans⟩ := increment_over hnone (by rwa [hcur]) hd
      rw [hstep, hans, hcur]
      simp only [left, Option.map_some, Option.getD_some, Bool.true_eq_false, if_false]
      omega
    · obtain ⟨hstep, hans⟩ := increment_within hnone (by rw [hcur]; omega)
      rw [hstep, hans, hcur]
      simp only [left, Option.map_some, Option.getD_some, if_true]
      omega

/-- The first call of a new window and those that get through after it are within the limit. -/
theorem Opens.interval (hd : 0 < c.blockDuration) {b : Arrival} {e : MemoryRecord}
    (h : Opens s b e) (hr : Steady c (b :: run)) (hcall : b.call = c) {x : Int}
    (hx : x ≤ b.now) :
    (if (s.answer b).isBlocked = false then 1 else 0) +
      (passed c.key (s.step b) run).countP (fun p => x ≤ p.1 ∧ p.1 < x + c.ttl) ≤ c.limit := by
  obtain ⟨hhits, hends, -, hblocked⟩ := h.cases
  have hcreated := h.created
  rw [hcall] at hcreated hends hblocked
  have hfirst := interval_of_record hd hr.tail hcreated (x := x) (by rw [hends]; omega)
  by_cases hl : c.limit = 0
  · rw [hblocked.mpr ⟨hl, hd⟩]
    simp only [Bool.true_eq_false, if_false]
    omega
  · have hpass : (s.answer b).isBlocked = false := by
      rw [Bool.eq_false_iff]
      exact fun hb => hl (hblocked.mp hb).1
    rw [if_pos hpass]
    omega

/-- From the start of an interval on, what is left of one window and the whole of the next one is
all that gets through. -/
theorem interval_from_start (hd : 0 < c.blockDuration) (hr : Steady c run) {x : Int}
    (hx : ∀ b ∈ run, x ≤ b.now) :
    (passed c.key s run).countP (fun p => x ≤ p.1 ∧ p.1 < x + c.ttl) ≤
      left c (s.lookup c.key) + c.limit := by
  induction run generalizing s with
  | nil => exact Nat.zero_le _
  | cons b run ih =>
    have hlater : ∀ b' ∈ run, x ≤ b'.now := fun b' hb' => hx b' (List.mem_cons_of_mem b hb')
    have hnext := @ih (s.step b) hr.tail hlater
    refine Nat.le_trans (countP_passed_cons c.key s b run _) ?_
    by_cases hk : b.call.key = c.key
    · have hcall : b.call = c := hr.same b List.mem_cons_self hk
      simp only [hk, true_and]
      by_cases hold : ∃ e, s.lookup c.key = some e ∧
          (b.now < e.blockedUntil ∨ b.now < e.expiresAt)
      · obtain ⟨e, he, hold⟩ := hold
        have hstep := left_step hd hcall he hold
        rw [he]
        omega
      · have hended : ∀ o, s.lookup b.call.key = some o →
            o.expiresAt ≤ b.now ∧ o.blockedUntil ≤ b.now := by
          intro o ho
          rw [hk] at ho
          exact ⟨Nat.not_lt.mp fun h => hold ⟨o, ho, .inr h⟩,
            Nat.not_lt.mp fun h => hold ⟨o, ho, .inl h⟩⟩
        obtain ⟨e, he⟩ := counted_record fun o ho => (hended o ho).2
        have hopens := Opens.interval hd ⟨hended, he⟩ hr hcall (hx b List.mem_cons_self)
        omega
    · rw [if_neg fun h => hk h.1, Nat.zero_add]
      rwa [lookup_step_ne s b (Ne.symm hk)] at hnext

theorem interval_bound (hd : 0 < c.blockDuration) (hr : Steady c run) (x : Int) :
    (passed c.key s run).countP (fun p => x ≤ p.1 ∧ p.1 < x + c.ttl) ≤ 2 * c.limit := by
  induction run generalizing s with
  | nil => exact Nat.zero_le _
  | cons b run ih =>
    by_cases hx : x ≤ b.now
    · have hfrom := interval_from_start (s := s) hd hr (x := x) fun b' hb' => by
        rcases List.mem_cons.mp hb' with rfl | hb'
        · exact hx
        · exact Int.le_trans hx (Int.ofNat_le.mpr (hr.head_le b' hb'))
      have hleft : left c (s.lookup c.key) ≤ c.limit := by
        cases hs : s.lookup c.key with
        | none => exact Nat.zero_le _
        | some e => exact Nat.sub_le _ _
      omega
    · rw [passed_cons, List.countP_append]
      have hout : ∀ l : List (Nat × Int), (∀ p ∈ l, p.1 = b.now) →
          l.countP (fun p => x ≤ p.1 ∧ p.1 < x + c.ttl) = 0 := by
        intro l hl
        rw [List.countP_eq_zero]
        intro p hp
        have hnow := hl p hp
        simp only [decide_eq_true_eq]
        omega
      rw [hout _ ?_, Nat.zero_add]
      · exact ih hr.tail
      · intro p hp
        split_ifs at hp
        · rw [List.mem_singleton.mp hp]
        · cases hp

end

/-- Two windows' worth in any interval as long as a window, and in each window the calls that get
through numbered up to the limit. -/
theorem within_limit (c : Increment) (ht : 0 < c.ttl) (hd : 0 < c.blockDuration)
    (s : MemoryStore) (run : List Arrival) (hr : Steady c run) : WithinLimit c s run where
  interval x := interval_bound hd hr x
  window pre a rest e hrun hk ho := by
    subst hrun
    exact ho.numbered hk ht hd hr.split

/-- Two calls get through at the end of one window and two at the start of the next. -/
theorem within_limit_twice :
    WithinLimit ⟨"orders", 1000, 2, 1000⟩ ∅
      [⟨⟨"orders", 1000, 2, 1000⟩, 0⟩, ⟨⟨"orders", 1000, 2, 1000⟩, 900⟩,
        ⟨⟨"billing", 1000, 2, 1000⟩, 950⟩, ⟨⟨"orders", 1000, 2, 1000⟩, 1000⟩,
        ⟨⟨"orders", 1000, 2, 1000⟩, 1100⟩, ⟨⟨"orders", 1000, 2, 1000⟩, 1200⟩] :=
  within_limit ⟨"orders", 1000, 2, 1000⟩ (by decide) (by decide) ∅ _ ⟨by decide, by decide⟩

end ApiCenter.MemoryStore
