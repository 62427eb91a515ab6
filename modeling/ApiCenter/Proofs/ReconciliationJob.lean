import ApiCenter.Library.Runs
import ApiCenter.Model.Instance

namespace ApiCenter
open Library ApiCenter.Library.Runs

/-- An HGETALL, which only the reconciliation job sends. -/
def Sent.isRead : Sent → Bool
  | .write .. => false
  | .getRedisEntries | .loadFromRedis => true

def Answered.isRead : Answered → Bool
  | .written _ => false
  | .getRedisEntries _ | .loadFromRedis _ => true

/-- The HGETALL of the comparison, which a reload can follow. -/
def Sent.compares : Sent → Bool
  | .write .. | .loadFromRedis => false
  | .getRedisEntries => true

def Answered.compares : Answered → Bool
  | .written _ | .loadFromRedis _ => false
  | .getRedisEntries _ => true

theorem Sent.isRead_answer (q : Sent) (hash : RedisHash) : (q.answer hash).isRead = q.isRead := by
  cases q <;> rfl

theorem Sent.compares_answer (q : Sent) (hash : RedisHash) :
    (q.answer hash).compares = q.compares := by cases q <;> rfl

namespace Instance

variable {s : Instance}

/-- The reads on their way, to Redis or back. -/
def reads (s : Instance) : Nat :=
  s.requests.countP Sent.isRead + s.answers.countP Answered.isRead

/-- How much is left to execute and to deliver. -/
def work (s : Instance) : Nat :=
  2 * s.requests.length + s.answers.length +
    2 * (s.requests.countP Sent.compares + s.answers.countP Answered.compares)

/-- Redis executes a command, or an answer arrives. -/
inductive Advances (s : Instance) : InstanceAction → Prop
  | execute (h : s.requests ≠ []) : Advances s .execute
  | deliver (now : String) (h : s.answers ≠ []) : Advances s (.deliver now)

/-- The job has one read on its way as long as it runs. -/
def OneRead (s : Instance) : Prop := s.reads = if s.reconciliationRunning then 1 else 0

theorem oneRead_send (h : OneRead s) (r : RegistryService) (command : RedisCommand)
    (waiting : Waiting) : OneRead ({ s with registry := r }.send command waiting) := by
  have hread : (Sent.write command waiting).isRead = false := rfl
  have hreads : ({ s with registry := r }.send command waiting).reads = s.reads := by
    simp [reads, send, List.countP_append, hread]
  unfold OneRead
  rw [hreads]
  exact h

theorem oneRead_registry (h : OneRead s) (r : RegistryService) :
    OneRead { s with registry := r } := h

theorem OneRead.call (h : OneRead s) (now : String) (c : RegistryCall) :
    OneRead (s.call now c) := by
  cases c with
  | register manifest =>
    simp only [Instance.call]
    split
    · exact h
    · split
      · exact oneRead_send h _ _ _
      · exact oneRead_registry h _
  | deregister id =>
    simp only [Instance.call]
    split
    · exact h
    · split
      · exact oneRead_send h _ _ _
      · exact oneRead_registry h _
  | lifecycle c =>
    simp only [Instance.call]
    split
    · exact oneRead_send h _ _ _
    · exact oneRead_registry h _

theorem OneRead.reconcile (h : OneRead s) : OneRead s.handleRedisDriftReconciliation := by
  unfold handleRedisDriftReconciliation
  split
  · exact h
  · rename_i hidle
    split
    · simp only [OneRead, reads, if_neg hidle] at h
      simp only [OneRead, reads, List.countP_append, List.countP_cons, List.countP_nil,
        Sent.isRead, if_true]
      omega
    · exact h

theorem OneRead.execute (h : OneRead s) : OneRead s.execute := by
  unfold Instance.execute
  cases hq : s.requests with
  | nil => exact h
  | cons q qs =>
    simp only [OneRead, reads, hq, List.countP_cons] at h
    simp only [OneRead, reads, List.countP_append, List.countP_cons, List.countP_nil,
      Sent.isRead_answer]
    omega

theorem resume_jobs (s : Instance) (now : String) (waiting : Waiting) :
    (s.resume now waiting).requests = s.requests ∧ (s.resume now waiting).answers = s.answers ∧
      (s.resume now waiting).reconciliationRunning = s.reconciliationRunning := by
  cases waiting <;> exact ⟨rfl, rfl, rfl⟩

theorem OneRead.deliver (h : OneRead s) (now : String) : OneRead (s.deliver now) := by
  unfold Instance.deliver
  cases ha : s.answers with
  | nil => exact h
  | cons a rest =>
    simp only [OneRead, reads, ha, List.countP_cons] at h
    cases a with
    | written waiting =>
      obtain ⟨hq, hrest, hrunning⟩ := resume_jobs { s with answers := rest } now waiting
      simp only [OneRead, reads, hq, hrest, hrunning]
      simpa [Answered.isRead] using h
    | getRedisEntries hash =>
      have hrunning : s.reconciliationRunning = true := by
        by_contra hidle
        simp [hidle, Answered.isRead] at h
      simp only [hrunning, if_true, Answered.isRead] at h
      dsimp only
      split
      · simp only [OneRead, reads, hrunning, if_true, List.countP_append, List.countP_cons,
          List.countP_nil, Sent.isRead]
        omega
      · simp only [OneRead, reads, Bool.false_eq_true, if_false]
        omega
    | loadFromRedis hash =>
      have hrunning : s.reconciliationRunning = true := by
        by_contra hidle
        simp [hidle, Answered.isRead] at h
      simp only [hrunning, if_true, Answered.isRead] at h
      simp only [OneRead, reads, Bool.false_eq_true, if_false]
      omega

theorem OneRead.step (h : OneRead s) (a : InstanceAction) : OneRead (s.step a) := by
  cases a with
  | call c now => exact h.call now c
  | handleRedisDriftReconciliation => exact h.reconcile
  | execute => exact h.execute
  | deliver now => exact h.deliver now

/-- Whatever makes progress leaves less to do. -/
theorem work_step {a : InstanceAction} (h : Advances s a) : (s.step a).work < s.work := by
  cases h with
  | execute hq =>
    obtain ⟨q, qs, hqs⟩ := List.exists_cons_of_ne_nil hq
    simp only [Instance.step, Instance.execute, hqs, work, List.length_append, List.length_cons,
      List.length_nil, List.countP_append, List.countP_cons, List.countP_nil,
      Sent.compares_answer]
    omega
  | deliver now ha =>
    obtain ⟨a, rest, has⟩ := List.exists_cons_of_ne_nil ha
    simp only [Instance.step, Instance.deliver, has]
    cases a with
    | written waiting =>
      obtain ⟨hq, hrest, -⟩ := resume_jobs { s with answers := rest } now waiting
      simp only [work, hq, hrest, has, List.length_cons, List.countP_cons, Answered.compares]
      omega
    | getRedisEntries hash =>
      dsimp only
      split
      · simp only [work, has, List.length_append, List.length_cons, List.length_nil,
          List.countP_append, List.countP_cons, List.countP_nil, Answered.compares, Sent.compares]
        simp only [if_true, Bool.false_eq_true, if_false]
        omega
      · simp only [work, has, List.length_cons, List.countP_cons, Answered.compares]
        omega
    | loadFromRedis hash =>
      simp only [work, has, List.length_cons, List.countP_cons, Answered.compares]
      omega

theorem work_le (s : Instance) :
    s.work ≤ 2 * s.requests.length + s.answers.length + 2 * s.reads := by
  have hrequests : s.requests.countP Sent.compares ≤ s.requests.countP Sent.isRead := by
    apply List.countP_mono_left
    intro q _ hq
    cases q <;> first | rfl | cases hq
  have hanswers : s.answers.countP Answered.compares ≤ s.answers.countP Answered.isRead := by
    apply List.countP_mono_left
    intro a _ ha
    cases a <;> first | rfl | cases ha
  simp only [work, reads]
  omega

theorem finished_of_stuck (h : ∀ a, ¬ Advances s a) : s.Finished := by
  constructor
  · by_contra hq
    exact h .execute (.execute hq)
  · by_contra ha
    exact h (.deliver "") (.deliver "" ha)

end Instance

namespace Proofs.ReconciliationJob

open Instance

/-- Drift reconciliation does not overlap itself and is never locked out. In every run it has one
HGETALL on its way while it runs and none otherwise; and once nothing else is called, whatever
order Redis executes and answers in, a bounded number of steps is left, after which the job can run
again. -/
theorem reconciliation_released (r : RegistryService) (hash : RedisHash)
    (run : List InstanceAction) :
    OneRead (final step ⟨r, hash, [], [], false⟩ run) ∧
    ∀ rest, Always step Advances (final step ⟨r, hash, [], [], false⟩ run) rest →
      rest.length ≤ 2 * (final step ⟨r, hash, [], [], false⟩ run).requests.length +
        (final step ⟨r, hash, [], [], false⟩ run).answers.length + 2 ∧
      ((∀ a, ¬ Advances (final step ⟨r, hash, [], [], false⟩ (run ++ rest)) a) →
        (final step ⟨r, hash, [], [], false⟩ (run ++ rest)).Finished ∧
        (final step ⟨r, hash, [], [], false⟩ (run ++ rest)).reconciliationRunning = false) := by
  have hstart : OneRead ⟨r, hash, [], [], false⟩ := rfl
  have hone : ∀ as, OneRead (final step ⟨r, hash, [], [], false⟩ as) :=
    invariant_reached (fun _ a h => h.step a) hstart
  refine ⟨hone run, ?_⟩
  intro rest hprogress
  constructor
  · have hwork := length_add_le (fun _ _ h => work_step h) hprogress
    have hbound := work_le (final step ⟨r, hash, [], [], false⟩ run)
    have hread : (final step ⟨r, hash, [], [], false⟩ run).reads ≤ 1 := by
      rw [hone run]
      split <;> omega
    omega
  · intro hstuck
    have hfinished := finished_of_stuck hstuck
    refine ⟨hfinished, ?_⟩
    have hreads := hone (run ++ rest)
    obtain ⟨hrequests, hanswers⟩ := hfinished
    by_contra hrunning
    simp [OneRead, reads, hrequests, hanswers, hrunning] at hreads

end Proofs.ReconciliationJob

end ApiCenter
