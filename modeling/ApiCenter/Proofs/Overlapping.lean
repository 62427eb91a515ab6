import Mathlib.Data.List.Induction
import ApiCenter.Library.Histories
import ApiCenter.Model.Overlap
import ApiCenter.Proofs.Calls

namespace ApiCenter.Proofs.Overlapping
open Library Calls

/-- Memory and the Redis record of `id` are those of the last call that resolved, in the order of
the writes, or `id` is absent from both when none did. -/
def LastResolvedStands (id : String) (s : Overlap) : Prop :=
  s.registry.services.get? id = s.resolved.getLast?.map (·.pending.entry) ∧
  s.hash.lookup id = s.resolved.getLast?.map (.entry ·.pending.entry)

/-- A call gets as far as its write, or fails. -/
inductive Turn where
  | begins
  | fails
  deriving DecidableEq, Repr

def turns (s : Overlap) : OverlapEvent → List Turn
  | .begin manifest now =>
    match s.registry.beginRegister manifest now with
    | .error _ => []
    | .ok _ => [.begins]
  | .settle i =>
    match s.answers[i]? with
    | none => []
    | some a => if a.settled ∨ a.write = .acknowledged then [] else [.fails]
  | .execute | .reject _ => []

/-- The event is about a call for `id`. -/
def Concerns (id : String) : OverlapEvent → Prop
  | .begin manifest _ => manifest.serviceId = id
  | .execute | .reject _ | .settle _ => True

/-- The answers so far, whether or not the calls have gone on. -/
def outcomes (s : Overlap) : List (PendingRegister × Write) :=
  s.answers.map fun a => (a.pending, a.write)

/-- The calls that have sent their write, in that order. -/
def calls (s : Overlap) : List PendingRegister := (outcomes s).map Prod.fst ++ s.requests

/-- The entries Redis has taken, in the order of the writes. -/
def taken (outcomes : List (PendingRegister × Write)) : List ServiceRegistryEntry :=
  (outcomes.filter (·.2 = .acknowledged)).map (·.1.entry)

/-- What a state says about the turns `ts` that led to it from one without `id`. -/
structure Tracked (id : String) (s : Overlap) (ts : List Turn) : Prop where
  redis : s.registry.redis = true
  ids : ∀ p ∈ calls s, p.manifest.serviceId = id
  memory : s.registry.services.get? id =
    if id ≠ "__proto__" ∧ ts.getLast? = some .begins then (calls s).getLast?.map (·.entry)
    else none
  record : s.hash.lookup id = (taken (outcomes s)).getLast?.map .entry
  last : s.requests = [] → ts.getLast? = some .begins → ∀ a, s.answers.getLast? = some a →
    a.settled = true → a.write = .acknowledged
  started : ts.getLast? = none → calls s = []

variable {id : String} {s : Overlap} {ts : List Turn}

theorem taken_outcomes (s : Overlap) :
    taken (outcomes s) = s.resolved.map (·.pending.entry) := by
  simp [taken, outcomes, Overlap.resolved, List.filter_map, Function.comp_def]

/-- A call that gets as far as its write puts its entry in memory. -/
theorem tracked_begin (h : Tracked id s ts) (m : ServiceManifest) (now : String)
    (hm : m.serviceId = id) : Tracked id (s.begin m now) (ts ++ turns s (.begin m now)) := by
  unfold Overlap.begin turns
  cases hb : s.registry.beginRegister m now with
  | error e =>
    simp only [hb, List.append_nil]
    exact h
  | ok begun =>
    obtain ⟨written, pending⟩ := begun
    obtain ⟨hw, hp, -⟩ := beginRegister_ok hb
    have hredis : written.redis = true := by
      rw [hw]
      exact h.redis
    simp only [hb, RegistryService.persistToRedis_connected hredis]
    have hcalls : calls { s with registry := written, requests := s.requests ++ [pending] } =
        calls s ++ [pending] := by simp [calls, outcomes]
    refine ⟨hredis, ?_, ?_, h.record, ?_, ?_⟩
    · intro p hmem
      rw [hcalls, List.mem_append, List.mem_singleton] at hmem
      rcases hmem with hmem | rfl
      · exact h.ids p hmem
      · rw [hp, hm]
    · rw [hcalls, hw, hm, RegistryService.putAndSync_services, PlainObject.get?_set]
      by_cases hid : id = "__proto__"
      · simp [hid]
      · simp [hid]
    · simp
    · simp

/-- The oldest write gets its answer. -/
theorem tracked_answer (h : Tracked id s ts) {p : PendingRegister} {rest : List PendingRegister}
    (hreq : s.requests = p :: rest) (write : Write) (hash : RedisHash)
    (hhash : hash.lookup id =
      if write = .acknowledged then some (.entry p.entry) else s.hash.lookup id) :
    Tracked id { s with
      hash := hash
      requests := rest
      answers := s.answers ++ [{ pending := p, write := write }] } ts := by
  have hcalls : calls { s with
      hash := hash
      requests := rest
      answers := s.answers ++ [{ pending := p, write := write }] } = calls s := by
    simp [calls, outcomes, hreq]
  refine ⟨h.redis, ?_, ?_, ?_, ?_, ?_⟩
  · rw [hcalls]
    exact h.ids
  · rw [hcalls]
    exact h.memory
  · have htaken : taken (outcomes s ++ [(p, write)]) =
        taken (outcomes s) ++ if write = .acknowledged then [p.entry] else [] := by
      by_cases hw : write = .acknowledged <;> simp [taken, hw]
    simp only [outcomes, List.map_append, List.map_cons, List.map_nil]
    change hash.lookup id = (taken (outcomes s ++ [(p, write)])).getLast?.map .entry
    rw [htaken, hhash]
    by_cases hw : write = .acknowledged
    · simp [hw]
    · simpa [hw] using h.record
  · intro _ _ a ha hset
    simp only [List.getLast?_concat, Option.some.injEq] at ha
    subst ha
    cases hset
  · rw [hcalls]
    exact h.started

/-- Whether a call has gone on is no part of how its write ended. -/
theorem outcomes_settle {answers : List Answer} {i : Nat} {a : Answer}
    (ha : answers[i]? = some a) :
    (answers.set i { a with settled := true }).map (fun a => (a.pending, a.write)) =
      answers.map fun a => (a.pending, a.write) := by
  apply List.ext_getElem?
  intro j
  rw [List.getElem?_map, List.getElem?_map, List.getElem?_set]
  by_cases hij : i = j
  · subst hij
    obtain ⟨hlt, -⟩ := List.getElem?_eq_some_iff.mp ha
    rw [if_pos rfl, if_pos hlt, ha]
    rfl
  · rw [if_neg hij]

/-- The last answer after one call has gone on. -/
theorem last_settle {answers : List Answer} {i : Nat} {a b : Answer} (ha : answers[i]? = some a)
    (hb : (answers.set i { a with settled := true }).getLast? = some b) :
    b.write = a.write ∨ answers.getLast? = some b := by
  rw [List.getLast?_eq_getElem?, List.length_set, List.getElem?_set] at hb
  rw [List.getLast?_eq_getElem?]
  by_cases hi : i = answers.length - 1
  · obtain ⟨hlt, -⟩ := List.getElem?_eq_some_iff.mp ha
    rw [if_pos hi, if_pos hlt] at hb
    cases hb
    exact .inl rfl
  · rw [if_neg hi] at hb
    exact .inr hb

/-- A call whose write was acknowledged only publishes its events. -/
theorem tracked_resolve (h : Tracked id s ts) {i : Nat} {a : Answer} (ha : s.answers[i]? = some a)
    (hw : a.write = .acknowledged) : Tracked id { s with
      registry := (a.pending.resume s.registry a.write).registry
      answers := s.answers.set i { a with settled := true } } ts := by
  have hreg : (a.pending.resume s.registry a.write).registry =
      s.registry.publish a.pending.events := by
    simp [PendingRegister.resume, hw, h.redis]
  have hout := outcomes_settle ha
  constructor
  · rw [hreg]
    exact h.redis
  · simp only [calls, outcomes, hout]
    exact h.ids
  · simp only [calls, outcomes, hout, hreg]
    exact h.memory
  · simp only [outcomes, hout]
    exact h.record
  · intro hreq hlast b hb hset
    rcases last_settle ha hb with hsame | hold
    · exact hsame.trans hw
    · exact h.last hreq hlast b hold hset
  · simp only [calls, outcomes, hout]
    exact h.started

/-- A call whose write failed takes `id` out of memory, whoever put it there. -/
theorem tracked_fail (h : Tracked id s ts) {i : Nat} {a : Answer} (ha : s.answers[i]? = some a)
    (hw : a.write = .failed message) : Tracked id { s with
      registry := (a.pending.resume s.registry a.write).registry
      answers := s.answers.set i { a with settled := true } } (ts ++ [.fails]) := by
  have hreg : (a.pending.resume s.registry a.write).registry =
      s.registry.deleteAndSync a.pending.manifest.serviceId := by
    simp [PendingRegister.resume, hw, h.redis]
  have hout := outcomes_settle ha
  have hid : a.pending.manifest.serviceId = id := by
    apply h.ids
    simp only [calls, outcomes, List.map_map]
    exact List.mem_append_left _ (List.mem_map.mpr ⟨a, List.mem_of_getElem? ha, rfl⟩)
  constructor
  · rw [hreg]
    exact h.redis
  · simp only [calls, outcomes, hout]
    exact h.ids
  · simp [hreg, hid, PlainObject.get?_delete]
  · simp only [outcomes, hout]
    exact h.record
  · simp
  · simp

theorem tracked_settle (h : Tracked id s ts) (i : Nat) :
    Tracked id (s.settle i) (ts ++ turns s (.settle i)) := by
  unfold Overlap.settle turns
  cases ha : s.answers[i]? with
  | none => simpa [ha] using h
  | some a =>
    cases hset : a.settled with
    | true => simpa [ha, hset] using h
    | false =>
      simp only [ha, hset, Bool.false_eq_true, if_false, false_or]
      cases hw : a.write with
      | acknowledged => simpa [hw] using tracked_resolve h ha hw
      | failed message => simpa [hw] using tracked_fail h ha hw

theorem tracked_step (h : Tracked id s ts) (event : OverlapEvent) (hc : Concerns id event) :
    Tracked id (s.step event) (ts ++ turns s event) := by
  cases event with
  | begin m now => exact tracked_begin h m now hc
  | execute =>
    simp only [Overlap.step, Overlap.execute, turns, List.append_nil]
    cases hreq : s.requests with
    | nil => simpa [hreq] using h
    | cons p rest =>
      have hp : p.manifest.serviceId = id := h.ids p (by simp [calls, hreq])
      exact tracked_answer h hreq .acknowledged _ (by simp [lookup_hset, hp])
  | reject message =>
    simp only [Overlap.step, Overlap.reject, turns, List.append_nil]
    cases hreq : s.requests with
    | nil => simpa [hreq] using h
    | cons p rest => exact tracked_answer h hreq (.failed message) s.hash (by simp)
  | settle i => exact tracked_settle h i

theorem tracked_run {start : Overlap} (h : Tracked id start []) {run : List OverlapEvent}
    (hrun : ∀ event ∈ run, Concerns id event) :
    Tracked id (Runs.final Overlap.step start run)
      (Histories.emitted Overlap.step turns start run) := by
  induction run using List.reverseRecOn with
  | nil => exact h
  | append_singleton run event ih =>
    rw [Runs.final_append, Histories.emitted_concat]
    exact tracked_step (ih fun e he => hrun e (List.mem_append_left _ he)) event
      (hrun event (by simp))

/-- With every call settled and the last turn a begin, the last call is one that resolved. -/
theorem last_call_resolved (h : Tracked id s ts) (hf : s.Finished)
    (hb : ts.getLast? = some .begins) :
    (calls s).getLast?.map (·.entry) = (taken (outcomes s)).getLast? := by
  obtain ⟨hreq, hset⟩ := hf
  simp only [calls, hreq, List.append_nil, outcomes, List.map_map, List.getLast?_map,
    Option.map_map]
  cases hl : s.answers.getLast? with
  | none => simp [List.getLast?_eq_none_iff.mp hl, taken]
  | some a =>
    have hw := h.last hreq hb a hl (hset a (List.mem_of_getLast? hl))
    obtain ⟨before, hanswers⟩ := List.getLast?_eq_some_iff.mp hl
    simp [hanswers, taken, hw]

/-- What is left in memory is the last entry Redis has taken, under the condition. -/
theorem memory_iff (h : Tracked id s ts) (hf : s.Finished) :
    s.registry.services.get? id = (taken (outcomes s)).getLast? ↔
      s.resolved = [] ∨ id ≠ "__proto__" ∧ ts.getLast? ≠ some .fails := by
  have hnone : none = (taken (outcomes s)).getLast? ↔ s.resolved = [] := by
    rw [eq_comm, List.getLast?_eq_none_iff, taken_outcomes, List.map_eq_nil_iff]
  rw [h.memory]
  cases hl : ts.getLast? with
  | none =>
    have hcalls := h.started hl
    have hempty : s.resolved = [] := by
      simp only [calls, outcomes, List.append_eq_nil_iff, List.map_eq_nil_iff] at hcalls
      simp [Overlap.resolved, hcalls.1]
    simp [hnone, hempty]
  | some turn =>
    cases turn with
    | fails => simp [hnone]
    | begins =>
      by_cases hid : id = "__proto__"
      · simp [hid, hnone]
      · simp [hid, last_call_resolved h hf hl]

/-- Once all overlapping calls have settled, the last one that resolved stands exactly when none
resolved or no call failed after the last one began. -/
theorem last_resolved_stands_iff (r : RegistryService) (hash : RedisHash) (id : String)
    (hr : r.redis = true) (hm : r.services.get? id = none) (hh : hash.lookup id = none)
    (run : List OverlapEvent) (hrun : ∀ event ∈ run, Concerns id event)
    (hf : (Runs.final Overlap.step ⟨r, hash, [], []⟩ run).Finished) :
    LastResolvedStands id (Runs.final Overlap.step ⟨r, hash, [], []⟩ run) ↔
      (Runs.final Overlap.step ⟨r, hash, [], []⟩ run).resolved = [] ∨
      id ≠ "__proto__" ∧
        (Histories.emitted Overlap.step turns ⟨r, hash, [], []⟩ run).getLast? ≠ some .fails := by
  have hstart : Tracked id ⟨r, hash, [], []⟩ [] :=
    ⟨hr, by simp [calls, outcomes], by simpa using hm, by simpa [taken, outcomes] using hh,
      by simp, by simp [calls, outcomes]⟩
  have h := tracked_run hstart hrun
  generalize Runs.final Overlap.step ⟨r, hash, [], []⟩ run = s at h hf ⊢
  generalize Histories.emitted Overlap.step turns ⟨r, hash, [], []⟩ run = ts at h ⊢
  have hlast : s.resolved.getLast?.map (·.pending.entry) = (taken (outcomes s)).getLast? := by
    rw [taken_outcomes, List.getLast?_map]
  rw [← memory_iff h hf, LastResolvedStands, hlast]
  constructor
  · exact And.left
  · intro hmem
    refine ⟨hmem, ?_⟩
    rw [h.record, ← hlast, Option.map_map]
    rfl

def start : Overlap := ⟨{ redis := true }, ∅, [], []⟩

def first : ServiceManifest := manifestOf "orders" "http://orders:1" "1.0.0"

def second : ServiceManifest := manifestOf "orders" "http://orders:2" "1.0.0"

/-- Two registrations of `orders` overlap. The write of the first is rejected and that of the
second executed; then both calls go on. -/
def overlapping : List OverlapEvent :=
  [.begin first "t0", .begin second "t1", .reject "READONLY", .execute, .settle 0, .settle 1]

/-- The first call has erased what the second one registered. -/
theorem failed_call_erases :
    (∀ event ∈ overlapping, Concerns "orders" event) ∧
    (Runs.final Overlap.step start overlapping).Finished ∧
    ¬ LastResolvedStands "orders" (Runs.final Overlap.step start overlapping) := by
  refine ⟨?_, ⟨rfl, by decide⟩, ?_⟩
  · simp [overlapping, Concerns, first, second, manifestOf]
  · intro h
    have hmem := h.1
    revert hmem
    decide

/-- The second registration begins after the first one has failed. -/
def successive : List OverlapEvent :=
  [.begin first "t0", .reject "READONLY", .settle 0, .begin second "t1", .execute, .settle 1]

theorem successive_call_stands :
    LastResolvedStands "orders" (Runs.final Overlap.step start successive) :=
  (last_resolved_stands_iff { redis := true } ∅ "orders" rfl rfl rfl successive
    (by simp [successive, Concerns, first, second, manifestOf]) ⟨rfl, by decide⟩).mpr
    (.inr ⟨by decide, by decide⟩)

end ApiCenter.Proofs.Overlapping
