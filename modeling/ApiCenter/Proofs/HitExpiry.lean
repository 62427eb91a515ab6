import ApiCenter.Library.Runs
import ApiCenter.Model.ThrottlerCluster

namespace ApiCenter

open ApiCenter.Library.Runs

/-- The call is about to send the `EXPIRE` of the key it has created. -/
def RateCall.Expires (x : RateCall) : Prop := ∃ hits, x.progress = .running (.expire hits)

/-- The times a call has read, or reports, are not negative. -/
def RateCall.Timely (x : RateCall) : Prop :=
  match x.progress with
  | .running (.setex _ remainingTtl) => 0 ≤ remainingTtl
  | .resolved r => 0 ≤ r.timeToExpire
  | .running .blockTtl | .running .incr | .running (.expire _) | .running (.hitsTtl _)
  | .rejected _ | .stopped => True

namespace ThrottlerCluster

/-- Whenever nobody is at work every hits key has an expiry, and nobody is told a negative time. -/
structure HitsExpire (s : ThrottlerCluster) : Prop where
  expiry : s.Idle → ∀ k v, s.redis.find (hitsKey k) = some v → v.expiresAt ≠ none
  nonneg : ∀ x ∈ s.calls, ∀ r, x.progress = .resolved r → 0 ≤ r.timeToExpire

/-- The event does not cut off a call between the creation of a hits key and its `EXPIRE`, and has
the time to live of a hits key read only while there is one. -/
def keepsExpiry (s : ThrottlerCluster) : RateEvent → Bool
  | .cut i executed _ =>
    match s.waiting i with
    | some (x, .incr) => !executed || (s.redis.find (hitsKey x.call.key)).isSome
    | some (_, .expire _) => executed
    | _ => true
  | .execute i =>
    match s.waiting i with
    | some (x, .hitsTtl _) => (s.redis.find (hitsKey x.call.key)).any (·.expiresAt.isSome)
    | _ => true
  | .start _ | .advance _ => true

/-- A hits key without expiry has a call at work that will set it. -/
structure Owned (s : ThrottlerCluster) : Prop where
  owner : ∀ k v, s.redis.find (hitsKey k) = some v → v.expiresAt = none →
    ∃ x ∈ s.calls, x.call.key = k ∧ x.Expires
  timely : ∀ x ∈ s.calls, x.Timely

section

variable {s : ThrottlerCluster} {c : Increment} {stage : Stage}

theorem Owned.hitsExpire (h : Owned s) : HitsExpire s where
  expiry hidle k v hv hnone := by
    obtain ⟨x, hx, -, hits, hp⟩ := h.owner k v hv hnone
    have hnow := hidle x hx
    rw [hp] at hnow
    cases hnow
  nonneg x hx r hp := by
    have htimely := h.timely x hx
    simpa only [RateCall.Timely, hp] using htimely

theorem mem_set_of_ne {i : Nat} {x x' y : RateCall} (hx : s.calls[i]? = some x)
    (hy : y ∈ s.calls) (hne : y ≠ x) : y ∈ s.calls.set i x' := by
  obtain ⟨j, hj⟩ := List.getElem?_of_mem hy
  have hij : i ≠ j := by
    rintro rfl
    exact hne (Option.some.inj (hj.symm.trans hx))
  exact List.mem_of_getElem? (by rw [List.getElem?_set_ne hij, hj])

/-- A hits key found without expiry after a command was so before, or has just been created; the
`EXPIRE` of its own call leaves none. -/
theorem unset_executed {k : String} {v : Volatile}
    (hv : (s.executed c stage).redis.find (hitsKey k) = some v) (hnone : v.expiresAt = none) :
    (∃ w, s.redis.find (hitsKey k) = some w ∧ w.expiresAt = none ∧
        (k = c.key → ∀ hits, stage ≠ .expire hits)) ∨
      (k = c.key ∧ stage = .incr ∧ s.redis.find (hitsKey c.key) = none) := by
  simp only [executed, find_hitsKey] at hv
  split_ifs at hv with hk
  · subst hk
    cases hw : s.redis.find (hitsKey c.key) with
    | none =>
      rw [hw] at hv
      cases stage with
      | incr => exact .inr ⟨rfl, rfl, rfl⟩
      | blockTtl | expire | hitsTtl | setex => cases hv
    | some w =>
      rw [hw] at hv
      cases stage with
      | incr =>
        cases hv
        exact .inl ⟨w, rfl, hnone, by simp⟩
      | expire hits =>
        simp only [Stage.onHits, Option.bind_some] at hv
        split_ifs at hv
        cases hv
        cases hnone
      | blockTtl | hitsTtl | setex =>
        cases hv
        exact .inl ⟨_, rfl, hnone, by simp⟩
  · exact .inl ⟨v, hv, hnone, fun h => absurd h hk⟩

/-- The command of a call is executed and the call becomes `x'`: its key has a keeper, if the call
does not leave it behind. -/
theorem Owned.executed (h : Owned s) {i : Nat} {x x' : RateCall}
    (hx : s.calls[i]? = some x) (hp : x.progress = .running stage) (htimely : x'.Timely)
    (hborn : stage = .incr → s.redis.find (hitsKey x.call.key) = none →
      x'.call = x.call ∧ x'.Expires) :
    Owned { s.executed x.call stage with calls := s.calls.set i x' } where
  owner k v hv hnone := by
    rcases unset_executed hv hnone with ⟨w, hw, hwnone, hkeep⟩ | ⟨hk, hs, hnew⟩
    · obtain ⟨y, hy, hyk, hye⟩ := h.owner k w hw hwnone
      refine ⟨y, mem_set_of_ne hx hy ?_, hyk, hye⟩
      rintro rfl
      obtain ⟨hits, hye⟩ := hye
      rw [hp] at hye
      cases hye
      exact hkeep hyk.symm hits rfl
    · obtain ⟨hcall, he⟩ := hborn hs hnew
      obtain ⟨hlt, -⟩ := List.getElem?_eq_some_iff.mp hx
      exact ⟨x', List.mem_set hlt x', by rw [hcall, hk], he⟩
  timely y hy := by
    rcases List.mem_or_eq_of_mem_set hy with hy | rfl
    · exact h.timely y hy
    · exact htimely

/-- The times in a reply are not negative, once the hits key has an expiry when it is asked for. -/
theorem timely_answered {x : RateCall} (ht : x.Timely) (hp : x.progress = .running stage)
    (hread : ∀ hits, stage = .hitsTtl hits →
      (s.redis.find (hitsKey x.call.key)).any (·.expiresAt.isSome) = true)
    (births : Nat) :
    (x.answered stage births (s.redis.reply (stage.command x.call))).Timely := by
  simp only [RateCall.Timely, hp] at ht
  cases stage with
  | blockTtl =>
    simp only [RateCall.answered, RateRedis.reply, Stage.command, Stage.resume, reduceCtorEq,
      if_false]
    split_ifs with hb
    · exact Int.mul_nonneg (Int.le_of_lt hb) (by decide)
    · trivial
  | incr =>
    simp only [RateCall.answered, RateRedis.reply, Stage.command, Stage.resume, Sum.elim_inl]
    split_ifs <;> trivial
  | expire hits => trivial
  | hitsTtl hits =>
    obtain ⟨v, hv, hset⟩ := Option.any_eq_true _ _ |>.mp (hread hits rfl)
    obtain ⟨t, hvt⟩ := Option.isSome_iff_exists.mp hset
    have hreply : 0 ≤ s.redis.ttlReply (hitsKey x.call.key) := by
      simp only [RateRedis.ttlReply, hv, hvt]
      exact Int.natCast_nonneg _
    simp only [RateCall.answered, RateRedis.reply, Stage.command, Stage.resume, reduceCtorEq,
      if_false]
    split_ifs
    · exact hreply
    · exact Int.mul_nonneg hreply (by decide)
  | setex hits remainingTtl =>
    simp only [RateRedis.reply, Stage.command]
    split_ifs
    · trivial
    · exact Int.mul_nonneg ht (by decide)

theorem Owned.execute (h : Owned s) {i : Nat} (hk : s.keepsExpiry (.execute i) = true) :
    Owned (s.execute i) := by
  simp only [ThrottlerCluster.execute]
  cases hw : s.waiting i with
  | none => exact h
  | some w =>
    obtain ⟨x, stage⟩ := w
    obtain ⟨hx, hp⟩ := waiting_eq_some.mp hw
    refine h.executed hx hp (timely_answered (h.timely x (List.mem_of_getElem? hx)) hp ?_ _) ?_
    · rintro hits rfl
      simpa only [keepsExpiry, hw] using hk
    · rintro rfl hnew
      simp only [RateCall.answered, RateRedis.reply, Stage.command, hnew, Option.getD_none,
        Stage.resume]
      exact ⟨trivial, _, rfl⟩

theorem Owned.cut (h : Owned s) {i : Nat} {executed : Bool} {error : Option Thrown}
    (hk : s.keepsExpiry (.cut i executed error) = true) : Owned (s.cut i executed error) := by
  simp only [ThrottlerCluster.cut]
  cases hw : s.waiting i with
  | none => exact h
  | some w =>
    obtain ⟨x, stage⟩ := w
    obtain ⟨hx, hp⟩ := waiting_eq_some.mp hw
    simp only [keepsExpiry, hw] at hk
    have htimely : ({ x with progress := error.elim .stopped .rejected } : RateCall).Timely := by
      cases error <;> trivial
    cases executed with
    | true =>
      refine h.executed hx hp htimely fun hs hnew => ?_
      subst hs
      simp [hnew] at hk
    | false =>
      refine ⟨fun k v hv hnone => ?_, fun y hy => ?_⟩
      · obtain ⟨y, hy, hyk, hye⟩ := h.owner k v hv hnone
        refine ⟨y, mem_set_of_ne hx hy ?_, hyk, hye⟩
        rintro rfl
        obtain ⟨hits, hye⟩ := hye
        rw [hp] at hye
        cases hye
        cases hk
      · rcases List.mem_or_eq_of_mem_set hy with hy | rfl
        · exact h.timely y hy
        · exact htimely

theorem Owned.step (h : Owned s) {e : RateEvent} (hk : s.keepsExpiry e = true) :
    Owned (s.step e) := by
  cases e with
  | start call =>
    refine ⟨fun k v hv hnone => ?_, fun x hx => ?_⟩
    · obtain ⟨y, hy, hyk, hye⟩ := h.owner k v hv hnone
      exact ⟨y, List.mem_append_left _ hy, hyk, hye⟩
    · rcases List.mem_append.mp hx with hx | hx
      · exact h.timely x hx
      · rw [List.mem_singleton.mp hx]
        trivial
  | execute i => exact h.execute hk
  | cut i executed error => exact h.cut hk
  | advance ms => exact ⟨fun k v hv => h.owner k v (RateRedis.find_advance hv), h.timely⟩

theorem owned_empty : Owned {} where
  owner k v hv := by simp [RateRedis.find] at hv
  timely x hx := by cases hx

end

/-- In a run that keeps the creation of a key and its `EXPIRE` together, no counter is left without
expiry. -/
theorem hits_expire (es : List RateEvent)
    (h : Always step (fun s e => s.keepsExpiry e = true) {} es) :
    Always step (fun s e => HitsExpire (s.step e)) {} es :=
  always_of_invariant (I := Owned) (fun _ _ hi hk => hi.step hk)
    (fun _ _ hi hk => (hi.step hk).hitsExpire) owned_empty h

/-- Two calls one after the other, the second one over the limit. -/
theorem hits_expire_two_calls :
    Always step (fun s e => HitsExpire (s.step e)) {}
      ([.start ⟨"orders", 60000, 1, 60000⟩, .execute 0, .execute 0, .execute 0, .execute 0] ++
        [.start ⟨"orders", 60000, 1, 60000⟩, .execute 1, .execute 1, .execute 1, .execute 1]) :=
  hits_expire _ ⟨by decide, by decide, by decide, by decide, by decide, by decide, by decide,
    by decide, by decide, by decide, trivial⟩

/-- The `EXPIRE` fails, the call rejects, and the counter stays for good. -/
theorem failed_expire :
    ¬ Always step (fun s e => HitsExpire (s.step e)) {}
      [.start ⟨"orders", 60000, 100, 60000⟩, .execute 0, .execute 0,
        .cut 0 false (some (.error "Connection is closed."))] := by
  intro h
  obtain ⟨-, -, -, hcut, -⟩ := h
  exact hcut.expiry (by decide) "orders" ⟨1, none⟩ (by decide) rfl

end ThrottlerCluster

end ApiCenter
