import ApiCenter.Library.Runs
import ApiCenter.Library.WriteBehind
import ApiCenter.Model.Instance
import ApiCenter.Proofs.Calls

namespace ApiCenter.Proofs.Reload
open Library Calls WriteBehind

def unchecked : RedisValue → RedisValue
  | .entry e => .entry e.unchecked
  | .object own => .object own
  | .malformed => .malformed

/-- The in-memory entries, up to `lastHealthCheckAt`. -/
def inMemory (services : ServiceRegistryMap) (id : String) : Option RedisValue :=
  (services.get? id).map fun e => .entry e.unchecked

/-- The Redis records, up to `lastHealthCheckAt`. -/
def records (hash : RedisHash) (id : String) : Option RedisValue :=
  (hash.lookup id).map unchecked

/-- Memory and Redis hold the same for `id`: nothing, or the same entry up to
`lastHealthCheckAt`. -/
def Agree (s : Instance) (id : String) : Prop :=
  inMemory s.registry.services id = records s.hash id

/-- The call gets past its checks and assigns something. -/
def Assigns (r : RegistryService) (now : String) : RegistryCall → Prop
  | .register m => ∃ previousVersion, registerChecks (r.find m.serviceId) m = .ok previousVersion
  | .deregister id => ∃ found, r.find id = some found
  | .lifecycle c => ∃ found changes, r.find c.id = some found ∧ Assignable found ∧
    Moves now c found changes

/-- What the call assigns to is an entry of the map, not something it inherits. -/
def OnOwnEntry (r : RegistryService) : RegistryCall → Prop
  | .register m => m.serviceId ≠ "__proto__"
  | .deregister _ => True
  | .lifecycle c => ∃ e, r.services.get? c.id = some e

/-- The answers to the commands on their way. -/
def answersTo : RedisHash → List Sent → List Answered
  | _, [] => []
  | hash, q :: qs => q.answer hash :: answersTo (q.apply hash) qs

def reloaded? : Answered → Option RedisHash
  | .loadFromRedis hash => some hash
  | _ => none

/-- The snapshots `loadFromRedis` is waiting for, executed or not. -/
def reloads (s : Instance) : List RedisHash :=
  (s.answers ++ answersTo s.hash s.requests).filterMap reloaded?

/-- No call changes an id that the snapshot of a reload under way holds, and
none assigns to something inherited. -/
def Undisturbed (s : Instance) : InstanceAction → Prop
  | .call c now => Assigns s.registry now c →
      OnOwnEntry s.registry c ∧ ∀ hash ∈ reloads s, hash.lookup c.id = none
  | _ => True

/-- An answer that arrives leaves the in-memory entries alone. -/
def UndoesNothing (s : Instance) (a : InstanceAction) : Prop :=
  ∀ now, a = .deliver now → inMemory (s.step a).registry.services = inMemory s.registry.services

def operation : RedisCommand → Operation String RedisValue
  | .hset field value => .write field (some (unchecked value))
  | .hdel field => .write field none

def sentOperation : Sent → Operation String RedisValue
  | .write command _ => operation command
  | .getRedisEntries => .read false
  | .loadFromRedis => .read true

def reply : Answered → Reply String RedisValue
  | .written _ => .done
  | .getRedisEntries hash => .contents false (records hash)
  | .loadFromRedis hash => .contents true (records hash)

/-- The instance as a store that writes behind. -/
def view (s : Instance) : Store String RedisValue where
  memory := inMemory s.registry.services
  backing := records s.hash
  requests := s.requests.map sentOperation
  replies := s.answers.map reply

variable {s : Instance} {r : RegistryService} {c : RegistryCall} {now : String}

theorem records_apply (q : Sent) (hash : RedisHash) :
    records (q.apply hash) = (sentOperation q).apply (records hash) := by
  cases q with
  | write command waiting =>
    funext id
    cases command with
    | hset field value =>
      by_cases hid : id = field <;>
        simp [records, Sent.apply, sentOperation, operation, Operation.apply, lookup_hset, hid]
    | hdel field =>
      by_cases hid : id = field <;>
        simp [records, Sent.apply, sentOperation, operation, Operation.apply, lookup_hdel, hid]
  | getRedisEntries => rfl
  | loadFromRedis => rfl

theorem reply_answer (q : Sent) (hash : RedisHash) :
    reply (q.answer hash) = (sentOperation q).reply (records hash) := by
  cases q with
  | write command waiting => cases command <;> rfl
  | getRedisEntries => rfl
  | loadFromRedis => rfl

theorem map_answersTo (hash : RedisHash) (qs : List Sent) :
    (answersTo hash qs).map reply = answers (records hash) (qs.map sentOperation) := by
  induction qs generalizing hash with
  | nil => rfl
  | cons q qs ih =>
    simp only [answersTo, List.map_cons, answers, reply_answer, ih, records_apply]

theorem loaded_reply (a : Answered) : (reply a).loaded? = (reloaded? a).map records := by
  cases a <;> rfl

/-- The snapshots the view is still going to load are those of the reloads. -/
theorem loads_view (s : Instance) : (view s).loads = (reloads s).map records := by
  have hout : (view s).outstanding = (s.answers ++ answersTo s.hash s.requests).map reply := by
    rw [List.map_append, map_answersTo]
    rfl
  rw [Store.loads, hout, reloads, List.filterMap_map, List.map_filterMap]
  exact List.filterMap_congr fun a _ => loaded_reply a

theorem inMemory_set {services : ServiceRegistryMap} {id : String} (hid : id ≠ "__proto__")
    (e : ServiceRegistryEntry) : inMemory (services.set id e) =
      Function.update (inMemory services) id (some (.entry e.unchecked)) := by
  funext j
  by_cases hj : j = id <;> simp [inMemory, PlainObject.get?_set, hj, hid]

theorem inMemory_delete (services : ServiceRegistryMap) (id : String) :
    inMemory (services.delete id) = Function.update (inMemory services) id none := by
  funext j
  by_cases hj : j = id <;> simp [inMemory, PlainObject.get?_delete, hj]

/-- A call either changes nothing but `lastHealthCheckAt` and sends nothing, or
makes one change and sends the same one to Redis. -/
theorem call_writes (hr : r.redis = true) (ho : Assigns r now c → OnOwnEntry r c) :
    (inMemory (r.call c now .acknowledged).registry.services = inMemory r.services ∧
      (r.call c now .acknowledged).command = none) ∨
    (Assigns r now c ∧ ∃ command v, (r.call c now .acknowledged).command = some command ∧
      operation command = .write c.id v ∧
      inMemory (r.call c now .acknowledged).registry.services =
        Function.update (inMemory r.services) c.id v) := by
  have heff := call_effect r c now .acknowledged
  generalize (r.call c now .acknowledged).registry.services = services at heff ⊢
  generalize (r.call c now .acknowledged).command = command at heff ⊢
  cases heff with
  | kept => exact Or.inl ⟨rfl, rfl⟩
  | @touched e id he =>
    refine Or.inl ⟨?_, rfl⟩
    funext j
    unfold inMemory
    exact PlainObject.map_get?_set_of_some _ he (by rfl) j
  | rolledBack ha hredis hw => cases hw
  | @registered previousVersion m ha hw =>
    have hne : m.serviceId ≠ "__proto__" := ho ⟨previousVersion, ha⟩
    exact Or.inr ⟨⟨previousVersion, ha⟩, _, _, RegistryService.persistToRedis_connected hr _ _,
      rfl, inMemory_set hne _⟩
  | @deregistered found id hf =>
    exact Or.inr ⟨⟨found, hf⟩, _, _, RegistryService.removeFromRedis_connected hr _, rfl,
      inMemory_delete _ _⟩
  | @moved e c changes he hm =>
    exact Or.inr ⟨⟨_, changes, RegistryService.find_of_get? he, assignable_entry e, hm⟩, _, _,
      RegistryService.persistToRedis_connected hr _ _, rfl,
      inMemory_set (PlainObject.ne_proto_of_get? he) _⟩
  | @movedMember c built changes hf hm hk =>
    obtain ⟨e, he⟩ := ho ⟨_, changes, hf, assignable_member hk, hm⟩
    rw [((r.find_member_iff _ _).mp hf).1] at he
    cases he

/-- `begun` and `waiting` split the call in two at its Redis write. -/
structure Suspended (s : Instance) (out : Outcome Unit) (now : String) (begun : RegistryService)
    (waiting : Waiting) : Prop where
  services : begun.services = out.registry.services
  redis : begun.redis = s.registry.redis
  resumed : ∀ t : Instance, t.registry = begun →
    t.resume now waiting = { t with registry := out.registry }

/-- A call that sends nothing is over at once; one that sends a command has
already done to the map what the whole call does. -/
def Suspends (s : Instance) (c : RegistryCall) (now : String) : Prop :=
  ((s.registry.call c now .acknowledged).command = none ∧
    s.call now c = { s with registry := (s.registry.call c now .acknowledged).registry }) ∨
  ∃ command begun waiting, (s.registry.call c now .acknowledged).command = some command ∧
    s.call now c = { s with registry := begun }.send command waiting ∧
    Suspended s (s.registry.call c now .acknowledged) now begun waiting

theorem register_suspends (s : Instance) (m : ServiceManifest) (now : String) :
    Suspends s (.register m) now := by
  unfold Suspends
  simp only [RegistryService.call, Outcome.discard]
  cases ha : registerChecks (s.registry.find m.serviceId) m with
  | error e =>
    left
    rw [register_refused _ _ ha]
    rw [Instance.call, beginRegister_refused now ha]
    exact ⟨rfl, rfl⟩
  | ok previousVersion =>
    rw [register_admitted _ _ ha]
    cases hr : s.registry.redis with
    | false =>
      left
      simp [Instance.call, beginRegister_admitted now ha, RegistryService.persistToRedis, hr]
    | true =>
      refine Or.inr ⟨_, _, _, RegistryService.persistToRedis_connected hr _ _,
        by simp [Instance.call, beginRegister_admitted now ha,
          RegistryService.persistToRedis_connected hr]; rfl, ?_⟩
      constructor
      · simp [PendingRegister.resume, hr]
      · simp
      · intro t ht
        simp [Instance.resume, ht]

theorem deregister_suspends (s : Instance) (id now : String) :
    Suspends s (.deregister id) now := by
  unfold Suspends
  simp only [RegistryService.call, RegistryService.deregister]
  cases hf : s.registry.find id with
  | none => exact Or.inl (by simp [Instance.call, RegistryService.beginDeregister, hf])
  | some found =>
    have hbegin : s.registry.beginDeregister id = .ok (s.registry.deleteAndSync id) := by
      simp [RegistryService.beginDeregister, hf]
    rw [hbegin]
    cases hr : s.registry.redis with
    | false =>
      left
      simp [Instance.call, hbegin, RegistryService.removeFromRedis, hr]
    | true =>
      refine Or.inr ⟨.hdel id, s.registry.deleteAndSync id, .deregister id,
        RegistryService.removeFromRedis_connected hr id,
        by simp [Instance.call, hbegin, RegistryService.removeFromRedis_connected hr], ?_⟩
      exact ⟨rfl, rfl, fun t ht => by simp [Instance.resume, ht]⟩

theorem call_suspends (s : Instance) (c : RegistryCall) (now : String) : Suspends s c now := by
  cases c with
  | register m => exact register_suspends s m now
  | deregister id => exact deregister_suspends s id now
  | lifecycle c =>
    unfold Suspends
    simp only [RegistryService.call]
    cases hc : (s.registry.lifecycle c now).command with
    | none => exact Or.inl ⟨rfl, by simp [Instance.call, hc]⟩
    | some command =>
      refine Or.inr ⟨command, (s.registry.lifecycle c now).registry, .persistToRedis, rfl,
        by simp [Instance.call, hc], rfl, lifecycle_redis c, ?_⟩
      intro t ht
      cases t
      cases ht
      rfl

theorem view_call (s : Instance) (c : RegistryCall) (now : String) (hr : s.registry.redis = true)
    (ho : Assigns s.registry now c → OnOwnEntry s.registry c) :
    view (s.call now c) = view s ∨
      Assigns s.registry now c ∧ ∃ v, view (s.call now c) = (view s).put c.id v := by
  rcases call_writes hr ho with ⟨hmem, hnone⟩ | ⟨ha, command, v, hsome, hop, hmem⟩
  · left
    rcases call_suspends s c now with ⟨-, hcall⟩ | ⟨command, _, _, hcommand, -, -⟩
    · simp [view, hcall, hmem]
    · cases hnone.symm.trans hcommand
  · right
    rcases call_suspends s c now with ⟨hcommand, -⟩ | ⟨_, begun, waiting, hcommand, hcall, hsplit⟩
    · cases hsome.symm.trans hcommand
    · cases hsome.symm.trans hcommand
      refine ⟨ha, v, ?_⟩
      simp [view, Store.put, hcall, Instance.send, hsplit.services, hmem, sentOperation, hop]

theorem view_execute (s : Instance) : view s.execute = (view s).execute := by
  unfold Instance.execute Store.execute
  cases hq : s.requests with
  | nil => simp [view, hq]
  | cons q qs => simp [view, hq, records_apply, reply_answer]

/-- Loading a snapshot that memory already holds is overlaying it. -/
theorem inMemory_loadEntries {hash : RedisHash}
    (h : Within (records hash) (inMemory r.services)) :
    inMemory (r.loadEntries hash).services = overlay (inMemory r.services) (records hash) := by
  rw [overlay_of_within h]
  funext id
  unfold inMemory
  rw [RegistryService.get?_loadEntries, RegistryService.get?_getRedisEntries]
  cases hl : hash.lookup id with
  | none => rfl
  | some v =>
    have hv : records hash id = some (unchecked v) := by simp [records, hl]
    have hmem := h id _ hv
    obtain ⟨e, he, hev⟩ := Option.map_eq_some_iff.mp hmem
    have hid := PlainObject.ne_proto_of_get? he
    cases v with
    | object | malformed => cases hev
    | entry e' => simp [PlainObject.assignable, hid, RedisValue.parse, he, hev, unchecked]

theorem resume_services (s : Instance) (now : String) (waiting : Waiting) :
    (s.resume now waiting).registry.services = s.registry.services ∧
    (s.resume now waiting).registry.redis = s.registry.redis ∧
    (s.resume now waiting).hash = s.hash ∧ (s.resume now waiting).requests = s.requests ∧
    (s.resume now waiting).answers = s.answers := by
  cases waiting with
  | register pending =>
    cases hr : s.registry.redis <;> simp [Instance.resume, PendingRegister.resume, hr]
  | deregister id => simp [Instance.resume, RegistryService.completeDeregister]
  | persistToRedis => simp [Instance.resume]

/-- A delivery is one of the store, and after a comparison maybe the next request. -/
theorem view_deliver (s : Instance) (now : String) (hi : (view s).Coherent) :
    view (s.deliver now) = (view s).deliver ∨
      view (s.deliver now) = (view s).deliver.ask true := by
  unfold Instance.deliver
  cases ha : s.answers with
  | nil => exact Or.inl (by simp [view, Store.deliver, ha])
  | cons a rest =>
    cases a with
    | written waiting =>
      obtain ⟨hservices, -, hhash, hrequests, hanswers⟩ :=
        resume_services { s with answers := rest } now waiting
      exact Or.inl (by simp [view, Store.deliver, ha, reply, Reply.deliver, hservices, hhash,
        hrequests, hanswers])
    | getRedisEntries hash =>
      simp only
      split
      · exact Or.inr (by simp [view, Store.deliver, Store.ask, ha, reply, Reply.deliver,
          sentOperation])
      · exact Or.inl (by simp [view, Store.deliver, ha, reply, Reply.deliver])
    | loadFromRedis hash =>
      have hload : hash ∈ reloads s := by simp [reloads, ha, reloaded?]
      have hwithin : Within (records hash) (inMemory s.registry.services) := by
        apply hi.loads_within
        rw [loads_view]
        exact List.mem_map_of_mem hload
      exact Or.inl (by simp [view, Store.deliver, ha, reply, Reply.deliver,
        inMemory_loadEntries hwithin])

/-- A call whose command is executed and answered at once is the call run to completion. -/
theorem call_alone (r : RegistryService) (hash : RedisHash) (c : RegistryCall) (now : String) :
    Runs.final Instance.step { registry := r, hash := hash }
      [.call c now, .execute, .deliver now] =
    { registry := (r.call c now .acknowledged).registry
      hash := execute (r.call c now .acknowledged).command hash } := by
  simp only [Runs.final_cons, Runs.final_nil, Instance.step]
  rcases call_suspends { registry := r, hash := hash } c now with
    ⟨hcommand, hcall⟩ | ⟨command, begun, waiting, hcommand, hcall, hsplit⟩
  · rw [hcall, hcommand]
    rfl
  · rw [hcall, hcommand]
    exact hsplit.resumed _ rfl

/-- A reconciliation with nothing in between. -/
theorem reconcile_alone (hash : RedisHash) (now : String) (hr : r.redis = true) :
    Runs.final Instance.step { registry := r, hash := hash }
      [.handleRedisDriftReconciliation, .execute, .deliver now, .execute, .deliver now] =
    { registry := r.reconcile hash hash, hash := hash } := by
  cases hd : RegistryService.hasDrift (RegistryService.getRedisEntries hash) r.services <;>
    simp [Instance.step, Instance.handleRedisDriftReconciliation, hr, Instance.execute, Sent.apply,
      Sent.answer, Instance.deliver, hd, RegistryService.reconcile]

/-- Redis is there, and the instance is coherent as a store that writes behind. -/
def InStep (s : Instance) : Prop := s.registry.redis = true ∧ (view s).Coherent

theorem step_redis (s : Instance) (a : InstanceAction) :
    (s.step a).registry.redis = s.registry.redis := by
  cases a with
  | call c now =>
    simp only [Instance.step]
    rcases call_suspends s c now with ⟨-, hcall⟩ | ⟨_, begun, waiting, -, hcall, hsplit⟩
    · rw [hcall]
      exact call_redis s.registry c now .acknowledged
    · rw [hcall]
      exact hsplit.redis
  | handleRedisDriftReconciliation =>
    simp only [Instance.step, Instance.handleRedisDriftReconciliation]
    split
    · rfl
    · split <;> rfl
  | execute =>
    simp only [Instance.step, Instance.execute]
    split <;> rfl
  | deliver now =>
    simp only [Instance.step, Instance.deliver]
    split
    · rfl
    · exact (resume_services _ now _).2.1
    · split <;> rfl
    · rfl

theorem step_inStep (s : Instance) (a : InstanceAction) (hi : InStep s) (hu : Undisturbed s a) :
    InStep (s.step a) := by
  obtain ⟨hr, hc⟩ := hi
  refine ⟨(step_redis s a).trans hr, ?_⟩
  cases a with
  | call c now =>
    rcases view_call s c now hr (fun ha => (hu ha).1) with hview | ⟨ha, v, hview⟩
    · exact hview ▸ hc
    · have hput : ((view s).put c.id v).Coherent := by
        apply hc.put
        intro snapshot hs
        rw [loads_view] at hs
        obtain ⟨hash, hh, rfl⟩ := List.mem_map.mp hs
        simp [records, (hu ha).2 hash hh]
      exact hview ▸ hput
  | handleRedisDriftReconciliation =>
    simp only [Instance.step, Instance.handleRedisDriftReconciliation]
    split
    · exact hc
    · have hask : view { s with
          reconciliationRunning := true, requests := s.requests ++ [.getRedisEntries] } =
          (view s).ask false := by simp [view, Store.ask, sentOperation]
      rw [hask]
      exact hc.ask false
  | execute =>
    simp only [Instance.step, view_execute]
    exact hc.execute
  | deliver now =>
    rcases view_deliver s now hc with hview | hview
    · exact hview ▸ hc.deliver
    · exact hview ▸ hc.deliver.ask true

theorem inStep_undoesNothing (s : Instance) (a : InstanceAction) (hi : InStep s) :
    UndoesNothing s a := by
  intro now heq
  subst heq
  have hmem := hi.2.deliver_memory
  rcases view_deliver s now hi.2 with hview | hview
  · exact (congrArg Store.memory hview).trans hmem
  · exact (congrArg Store.memory hview).trans hmem

theorem inStep_finished (hi : InStep s) (hf : s.Finished) (id : String) : Agree s id := by
  have hq : (view s).requests = [] := by simp [view, hf.1]
  exact congrFun (hi.2.agree hq) id

/-- From memory and Redis in agreement, over every undisturbed interleaving of
calls and reconciliations: no answer undoes anything in memory, and once
everything has finished memory and Redis agree again. -/
theorem reconciliation_loses_nothing (r : RegistryService) (hash : RedisHash)
    (run : List InstanceAction) (hr : r.redis = true)
    (hagree : ∀ id, Agree { registry := r, hash := hash } id)
    (hu : Runs.Always Instance.step Undisturbed { registry := r, hash := hash } run) :
    Runs.Always Instance.step UndoesNothing { registry := r, hash := hash } run ∧
    ((Runs.final Instance.step { registry := r, hash := hash } run).Finished →
      ∀ id, Agree (Runs.final Instance.step { registry := r, hash := hash } run) id) := by
  have hstart : InStep { registry := r, hash := hash } :=
    ⟨hr, Store.coherent_quiet (funext hagree)⟩
  have hend := Runs.invariant_final step_inStep hstart hu
  exact ⟨Runs.always_of_invariant step_inStep (fun s a hi _ => inStep_undoesNothing s a hi)
    hstart hu, inStep_finished hend⟩

def orders : ServiceManifest := manifestOf "orders" "http://orders:1" "1.0.0"

def billing : ServiceManifest := manifestOf "billing" "http://billing:1" "1.0.0"

/-- An instance before its first registration. -/
def empty : Instance := { registry := { redis := true }, hash := ∅ }

/-- `billing` is registered while the job compares, which makes it reload. -/
def registeredMeanwhile : List InstanceAction :=
  [.call (.register orders) "t0", .execute, .deliver "t0",
    .handleRedisDriftReconciliation, .execute, .call (.register billing) "t1", .deliver "t1",
    .execute, .deliver "t1", .execute]

theorem reconciliation_loses_nothing_registered :
    Agree (Runs.final Instance.step empty (registeredMeanwhile ++ [.deliver "t1"])) "orders" ∧
    Agree (Runs.final Instance.step empty (registeredMeanwhile ++ [.deliver "t1"])) "billing" := by
  have hstart : ∀ id, Agree empty id := fun id => by simp [Agree, inMemory, records, empty]
  have horders : "orders" ≠ "__proto__" := by decide
  have hbilling : "billing" ≠ "__proto__" := by decide
  have hu : Runs.Always Instance.step Undisturbed empty
      (registeredMeanwhile ++ [.deliver "t1"]) :=
    ⟨fun _ => ⟨horders, by decide⟩, trivial, trivial, trivial, trivial,
      fun _ => ⟨hbilling, by decide⟩, trivial, trivial, trivial, trivial, trivial, trivial⟩
  have hagree := (reconciliation_loses_nothing { redis := true } ∅ _ rfl hstart hu).2 ⟨rfl, rfl⟩
  exact ⟨hagree "orders", hagree "billing"⟩

/-- `orders` is retired while the snapshot that holds it active is on its way. -/
def retiredMeanwhile : List InstanceAction :=
  registeredMeanwhile ++
    [.call (.lifecycle (.retire "orders")) "t2", .deliver "t2", .execute, .deliver "t2"]

/-- In the end memory has `orders` active again, and Redis has it retired. -/
theorem retirement_undone : (∀ id, Agree empty id) ∧
    ¬ ((Runs.final Instance.step empty retiredMeanwhile).Finished →
      ∀ id, Agree (Runs.final Instance.step empty retiredMeanwhile) id) := by
  constructor
  · exact fun id => by simp [Agree, inMemory, records, empty]
  · intro h
    have hagree := h ⟨rfl, rfl⟩ "orders"
    revert hagree
    unfold Agree
    decide

end ApiCenter.Proofs.Reload
