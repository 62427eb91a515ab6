import ApiCenter.Library.Runs
import ApiCenter.Model.Node
import ApiCenter.Model.Overlap
import ApiCenter.Proofs.Calls

namespace ApiCenter
open Library

/-- The call an event begins, as one operation of a node. -/
def OverlapEvent.call? : OverlapEvent → Option NodeAction
  | .begin manifest now => some (.call (.register manifest) now .acknowledged true)
  | .execute | .reject _ | .settle _ => none

namespace Overlap

def unsettled (answers : List Answer) : List Answer := answers.filter fun a => !a.settled

/-- The events the calls under way have still to publish. -/
def awaited (s : Overlap) : List KafkaMessage :=
  (unsettled s.answers).flatMap (fun a => a.pending.events) ++
    s.requests.flatMap fun p => p.events

end Overlap

namespace Proofs.SerialRegistration
open Calls Overlap

/-- The hash once the writes `ps` have been executed. -/
def written (ps : List PendingRegister) (hash : RedisHash) : RedisHash :=
  ps.foldl (fun h p => (RedisCommand.hset p.manifest.serviceId (.entry p.entry)).apply h) hash

theorem written_append (ps : List PendingRegister) (p : PendingRegister) (hash : RedisHash) :
    written (ps ++ [p]) hash =
      (RedisCommand.hset p.manifest.serviceId (.entry p.entry)).apply (written ps hash) := by
  simp [written, List.foldl_append]

/-- Overlapping calls beside the same calls made one after the other, each when it begins. -/
structure Serial (s : Overlap) (q : Node) : Prop where
  services : s.registry.services = q.registry.services
  inherited : s.registry.inherited = q.registry.inherited
  replaced : s.registry.replaced = q.registry.replaced
  redis : s.registry.redis = q.registry.redis
  gauge : s.registry.registryServicesTotal = q.registry.registryServicesTotal
  acknowledged : ∀ a ∈ s.answers, a.write = .acknowledged
  hash : written s.requests s.hash = q.hash
  published : (s.registry.published ++ s.awaited).Perm q.registry.published

variable {s : Overlap} {q : Node}

theorem Serial.find (h : Serial s q) (id : String) : s.registry.find id = q.registry.find id :=
  RegistryService.find_congr h.services h.inherited h.replaced id

theorem resume_acknowledged (p : PendingRegister) (r : RegistryService) :
    (p.resume r .acknowledged).registry = r.publish p.events := by
  unfold PendingRegister.resume
  cases r.redis <;> rfl

/-- What is published of the calls that go on. -/
theorem unsettled_set {answers : List Answer} {i : Nat} {a : Answer} (ha : answers[i]? = some a)
    (hs : a.settled = false) : (unsettled answers).Perm
      (a :: unsettled (answers.set i { a with settled := true })) := by
  induction answers generalizing i with
  | nil => simp at ha
  | cons b answers ih =>
    cases i with
    | zero =>
      obtain rfl : b = a := by simpa using ha
      simp [unsettled, hs]
    | succ i =>
      have hi := ih (i := i) (by simpa using ha)
      cases hb : b.settled with
      | true => simpa [unsettled, hb] using hi
      | false =>
        have hcons : (b :: unsettled answers).Perm
            (a :: b :: unsettled (answers.set i { a with settled := true })) :=
          (hi.cons b).trans (List.Perm.swap _ _ _)
        simpa [unsettled, hb] using hcons

theorem Serial.execute (h : Serial s q) : Serial s.execute q := by
  unfold Overlap.execute
  cases hr : s.requests with
  | nil => exact h
  | cons p rest =>
    have hhash := h.hash
    have hpublished := h.published
    rw [hr] at hhash
    unfold awaited at hpublished
    rw [hr, List.flatMap_cons] at hpublished
    refine ⟨h.services, h.inherited, h.replaced, h.redis, h.gauge, ?_, hhash, ?_⟩
    · intro a ha
      rcases List.mem_append.mp ha with hold | hnew
      · exact h.acknowledged a hold
      · rw [List.mem_singleton.mp hnew]
    · unfold awaited
      simpa [unsettled] using hpublished

theorem Serial.settle (h : Serial s q) (i : Nat) : Serial (s.settle i) q := by
  unfold Overlap.settle
  cases ha : s.answers[i]? with
  | none => exact h
  | some a =>
    dsimp only
    cases hs : a.settled with
    | true => simpa using h
    | false =>
      have hmem := List.mem_of_getElem? ha
      rw [h.acknowledged a hmem]
      simp only [Bool.false_eq_true, if_false]
      rw [resume_acknowledged]
      refine ⟨h.services, h.inherited, h.replaced, h.redis, h.gauge, ?_, h.hash, ?_⟩
      · intro b hb
        rcases List.mem_or_eq_of_mem_set hb with hold | hnew
        · exact h.acknowledged b hold
        · subst hnew
          rfl
      · have hpublished := h.published
        have hcalls := (unsettled_set ha hs).flatMap_right fun b => b.pending.events
        rw [h.acknowledged a hmem] at hcalls
        unfold awaited at hpublished
        have hall := ((hcalls.append_right (s.requests.flatMap fun p => p.events)).append_left
          s.registry.published).symm.trans hpublished
        simpa [awaited, List.append_assoc] using hall

/-- A registration of a node that is admitted, in one step. -/
theorem step_admitted {m : ServiceManifest} {p : PendingRegister} (now : String)
    (hc : registerChecks (q.registry.find m.serviceId) m = .ok previousVersion)
    (hp : p = ⟨m, buildEntry (q.registry.find m.serviceId) m previousVersion now,
      (q.registry.find m.serviceId).isSome, previousVersion⟩) :
    q.step (.call (.register m) now .acknowledged true) =
      { registry := (q.registry.putAndSync m.serviceId p.entry).publish p.events
        hash := ApiCenter.execute (q.registry.persistToRedis m.serviceId (.entry p.entry))
          q.hash } := by
  subst hp
  simp only [Node.step, RegistryService.call, Outcome.discard, register_admitted now _ hc,
    resume_acknowledged, if_true]

theorem Serial.putAndSync (h : Serial s q) (id : String) (e : ServiceRegistryEntry) :
    (s.registry.putAndSync id e).services = (q.registry.putAndSync id e).services ∧
      (s.registry.putAndSync id e).registryServicesTotal =
        (q.registry.putAndSync id e).registryServicesTotal := by
  simp only [RegistryService.putAndSync, RegistryService.syncMetricsGauge,
    RegistryService.activeCount, h.services, and_self]

theorem Serial.begin (h : Serial s q) (m : ServiceManifest) (now : String) :
    Serial (s.begin m now) (q.step (.call (.register m) now .acknowledged true)) := by
  have hfind := h.find m.serviceId
  unfold Overlap.begin
  cases hc : registerChecks (s.registry.find m.serviceId) m with
  | error e =>
    rw [beginRegister_refused now hc]
    have hq : q.step (.call (.register m) now .acknowledged true) = q := by
      rw [hfind] at hc
      simp [Node.step, RegistryService.call, Outcome.discard, register_refused now _ hc]
    rw [hq]
    exact h
  | ok previousVersion =>
    rw [beginRegister_admitted now hc]
    rw [hfind] at hc ⊢
    generalize hp : (⟨m, buildEntry (q.registry.find m.serviceId) m previousVersion now,
      (q.registry.find m.serviceId).isSome, previousVersion⟩ : PendingRegister) = p
    rw [step_admitted now hc hp.symm]
    obtain ⟨hservices, hgauge⟩ := h.putAndSync m.serviceId p.entry
    have hentry : buildEntry (q.registry.find m.serviceId) m previousVersion now = p.entry := by
      rw [← hp]
    have hmanifest : p.manifest = m := by rw [← hp]
    have hqredis : q.registry.redis = s.registry.redis := h.redis.symm
    rw [hentry]
    cases hr : s.registry.redis with
    | false =>
      simp only [RegistryService.persistToRedis, RegistryService.putAndSync_redis, hr, hqredis,
        Bool.false_eq_true, if_false, resume_acknowledged, execute_none]
      refine ⟨hservices, h.inherited, h.replaced, by simpa [hr] using hqredis, hgauge,
        h.acknowledged, h.hash, ?_⟩
      have hswap : (s.registry.published ++ p.events ++ s.awaited).Perm
          (s.registry.published ++ s.awaited ++ p.events) := by
        rw [List.append_assoc, List.append_assoc]
        exact List.perm_append_comm.append_left _
      exact hswap.trans (h.published.append_right p.events)
    | true =>
      simp only [RegistryService.persistToRedis, RegistryService.putAndSync_redis, hr, hqredis,
        if_true, execute_some]
      refine ⟨hservices, h.inherited, h.replaced, by simpa [hr] using hqredis, hgauge,
        h.acknowledged, ?_, ?_⟩
      · rw [written_append, h.hash, hmanifest]
        rfl
      · have hawaited : awaited { s with
            registry := s.registry.putAndSync m.serviceId p.entry
            requests := s.requests ++ [p] } = s.awaited ++ p.events := by
          simp [awaited]
        rw [hawaited]
        have hall := h.published.append_right p.events
        rwa [List.append_assoc] at hall

theorem Serial.step (h : Serial s q) (event : OverlapEvent)
    (hevent : ∀ message, event ≠ .reject message) :
    Serial (s.step event) (match event.call? with
      | some call => q.step call
      | none => q) := by
  cases event with
  | begin m now => exact h.begin m now
  | execute => exact h.execute
  | reject message => exact absurd rfl (hevent message)
  | settle i => exact h.settle i

theorem Serial.run (h : Serial s q) (run : List OverlapEvent)
    (hrun : ∀ event ∈ run, ∀ message, event ≠ .reject message) :
    Serial (Runs.final Overlap.step s run)
      (Runs.final Node.step q (run.filterMap OverlapEvent.call?)) := by
  induction run generalizing s q with
  | nil => exact h
  | cons event run ih =>
    have hstep := h.step event (hrun event List.mem_cons_self)
    have hrest := fun e he => hrun e (List.mem_cons_of_mem event he)
    rw [Runs.final_cons]
    cases hc : event.call? with
    | none =>
      rw [List.filterMap_cons_none hc]
      rw [hc] at hstep
      exact ih hstep hrest
    | some call =>
      rw [List.filterMap_cons_some hc, Runs.final_cons]
      rw [hc] at hstep
      exact ih hstep hrest

/-- When every write is acknowledged, overlapping registrations come to what they come to one after
the other, in the order they began; only their events may be published in another order. -/
theorem overlapping_registers_serial (r : RegistryService) (hash : RedisHash)
    (run : List OverlapEvent) (hrun : ∀ event ∈ run, ∀ message, event ≠ .reject message)
    (hf : (Runs.final Overlap.step ⟨r, hash, [], []⟩ run).Finished) :
    (Runs.final Overlap.step ⟨r, hash, [], []⟩ run).registry.services =
        (Runs.final Node.step ⟨r, hash⟩ (run.filterMap OverlapEvent.call?)).registry.services ∧
      (Runs.final Overlap.step ⟨r, hash, [], []⟩ run).registry.registryServicesTotal =
        (Runs.final Node.step ⟨r, hash⟩
          (run.filterMap OverlapEvent.call?)).registry.registryServicesTotal ∧
      (Runs.final Overlap.step ⟨r, hash, [], []⟩ run).hash =
        (Runs.final Node.step ⟨r, hash⟩ (run.filterMap OverlapEvent.call?)).hash ∧
      (Runs.final Overlap.step ⟨r, hash, [], []⟩ run).registry.published.Perm
        (Runs.final Node.step ⟨r, hash⟩
          (run.filterMap OverlapEvent.call?)).registry.published := by
  have hstart : Serial ⟨r, hash, [], []⟩ ⟨r, hash⟩ :=
    ⟨rfl, rfl, rfl, rfl, rfl, by simp, rfl, by simp [awaited, unsettled]⟩
  have h := hstart.run run hrun
  generalize Runs.final Overlap.step ⟨r, hash, [], []⟩ run = s at h hf ⊢
  obtain ⟨hrequests, hsettled⟩ := hf
  have hhash := h.hash
  have hpublished := h.published
  rw [hrequests] at hhash
  have hawaited : s.awaited = [] := by
    have hnone : unsettled s.answers = [] := by
      apply List.filter_eq_nil_iff.mpr
      intro a ha
      simp [hsettled a ha]
    simp [awaited, hnone, hrequests]
  rw [hawaited, List.append_nil] at hpublished
  exact ⟨h.services, h.gauge, hhash, hpublished⟩

/-- Two registrations of `orders` and one of `billing`; the second call goes on first. -/
def overlapping : List OverlapEvent :=
  [.begin (manifestOf "orders" "http://orders:1" "1.0.0") "t0",
    .begin (manifestOf "orders" "http://orders:2" "1.1.0") "t1", .execute, .execute, .settle 1,
    .begin (manifestOf "billing" "http://billing:1" "1.0.0") "t2", .execute, .settle 2, .settle 0]

theorem overlapping_registers_serial_orders :
    (Runs.final Overlap.step ⟨{ redis := true }, ∅, [], []⟩ overlapping).registry.services =
      (Runs.final Node.step ⟨{ redis := true }, ∅⟩
        (overlapping.filterMap OverlapEvent.call?)).registry.services := by
  refine (overlapping_registers_serial { redis := true } ∅ overlapping ?_ ⟨rfl, by decide⟩).1
  intro event he message
  simp only [overlapping, List.mem_cons, List.not_mem_nil, or_false] at he
  rcases he with rfl | rfl | rfl | rfl | rfl | rfl | rfl | rfl | rfl <;> simp

end Proofs.SerialRegistration

end ApiCenter
