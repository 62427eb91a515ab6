import Mathlib.Logic.Function.Basic

namespace ApiCenter.Library.WriteBehind

variable {κ ν : Type*}

/-- What a store asks its backing for: one write, or all of its contents, with
whether they are to be loaded. -/
inductive Operation (κ ν : Type*) where
  | write (k : κ) (v : Option ν)
  | read (load : Bool)

inductive Reply (κ ν : Type*) where
  | done
  | contents (load : Bool) (snapshot : κ → Option ν)

/-- A store that answers from memory. Its writes go to the backing behind its
back: requests are executed, and their replies delivered, in the order issued. -/
structure Store (κ ν : Type*) where
  memory : κ → Option ν
  backing : κ → Option ν
  requests : List (Operation κ ν)
  replies : List (Reply κ ν)

def overlay (memory snapshot : κ → Option ν) (k : κ) : Option ν := (snapshot k).or (memory k)

/-- `small` holds nothing that `big` does not hold. -/
def Within (small big : κ → Option ν) : Prop := ∀ k v, small k = some v → big k = some v

theorem within_refl (m : κ → Option ν) : Within m m := fun _ _ h => h

theorem overlay_of_within {memory snapshot : κ → Option ν} (h : Within snapshot memory) :
    overlay memory snapshot = memory := by
  funext k
  unfold overlay
  cases hs : snapshot k with
  | none => rfl
  | some v => exact (h k v hs).symm

def Reply.deliver (memory : κ → Option ν) : Reply κ ν → κ → Option ν
  | .contents true snapshot => overlay memory snapshot
  | _ => memory

/-- The snapshot a reply is about to load. -/
def Reply.loaded? : Reply κ ν → Option (κ → Option ν)
  | .contents true snapshot => some snapshot
  | _ => none

section
variable [DecidableEq κ]

def Operation.apply (backing : κ → Option ν) : Operation κ ν → κ → Option ν
  | .write k v => Function.update backing k v
  | .read _ => backing

def Operation.reply (backing : κ → Option ν) : Operation κ ν → Reply κ ν
  | .write _ _ => .done
  | .read load => .contents load backing

/-- The backing once all requests are executed. -/
def settle (backing : κ → Option ν) (qs : List (Operation κ ν)) : κ → Option ν :=
  qs.foldl Operation.apply backing

/-- The replies the requests are going to get. -/
def answers : (κ → Option ν) → List (Operation κ ν) → List (Reply κ ν)
  | _, [] => []
  | backing, q :: qs => q.reply backing :: answers (q.apply backing) qs

theorem settle_append (backing : κ → Option ν) (ps qs : List (Operation κ ν)) :
    settle backing (ps ++ qs) = settle (settle backing ps) qs := List.foldl_append

theorem answers_append (backing : κ → Option ν) (ps qs : List (Operation κ ν)) :
    answers backing (ps ++ qs) = answers backing ps ++ answers (settle backing ps) qs := by
  induction ps generalizing backing with
  | nil => rfl
  | cons p ps ih => exact congrArg _ (ih _)

namespace Store

def put (s : Store κ ν) (k : κ) (v : Option ν) : Store κ ν :=
  { s with memory := Function.update s.memory k v, requests := s.requests ++ [.write k v] }

def ask (s : Store κ ν) (load : Bool) : Store κ ν :=
  { s with requests := s.requests ++ [.read load] }

/-- The backing executes the oldest request. -/
def execute (s : Store κ ν) : Store κ ν :=
  match s.requests with
  | [] => s
  | q :: qs =>
    { s with
      backing := q.apply s.backing
      requests := qs
      replies := s.replies ++ [q.reply s.backing] }

/-- The oldest reply arrives. -/
def deliver (s : Store κ ν) : Store κ ν :=
  match s.replies with
  | [] => s
  | a :: as => { s with memory := a.deliver s.memory, replies := as }

/-- Everything the store is still going to hear, oldest first. -/
def outstanding (s : Store κ ν) : List (Reply κ ν) := s.replies ++ answers s.backing s.requests

/-- The snapshots the store is still going to load. -/
def loads (s : Store κ ν) : List (κ → Option ν) := s.outstanding.filterMap Reply.loaded?

/-- Memory is the backing with the pending writes, and no snapshot still to be
loaded holds anything else. -/
structure Coherent (s : Store κ ν) : Prop where
  memory_eq : s.memory = settle s.backing s.requests
  loads_within : ∀ snapshot ∈ s.loads, Within snapshot s.memory

variable {s : Store κ ν} {k : κ} {v : Option ν}

theorem outstanding_put : (s.put k v).outstanding = s.outstanding ++ [.done] := by
  unfold outstanding put
  rw [answers_append, ← List.append_assoc]
  rfl

theorem outstanding_ask {load : Bool} : (s.ask load).outstanding =
    s.outstanding ++ [.contents load (settle s.backing s.requests)] := by
  unfold outstanding ask
  rw [answers_append, ← List.append_assoc]
  rfl

theorem outstanding_execute (s : Store κ ν) : s.execute.outstanding = s.outstanding := by
  unfold outstanding execute
  cases hq : s.requests with
  | nil => simp [hq]
  | cons q qs => simp [answers]

theorem settle_execute (s : Store κ ν) :
    settle s.execute.backing s.execute.requests = settle s.backing s.requests := by
  unfold execute
  cases hq : s.requests with
  | nil => simp [hq]
  | cons q qs => rfl

theorem execute_memory (s : Store κ ν) : s.execute.memory = s.memory := by
  unfold execute
  split <;> rfl

theorem loads_put : (s.put k v).loads = s.loads := by
  rw [loads, outstanding_put, List.filterMap_append]
  exact List.append_nil _

theorem loads_execute (s : Store κ ν) : s.execute.loads = s.loads := by
  rw [loads, outstanding_execute, loads]

theorem mem_loads_ask {load : Bool} {snapshot : κ → Option ν}
    (h : snapshot ∈ (s.ask load).loads) :
    snapshot ∈ s.loads ∨ snapshot = settle s.backing s.requests := by
  rw [loads, outstanding_ask, List.filterMap_append, List.mem_append] at h
  rcases h with h | h
  · exact Or.inl h
  · cases load with
    | false => simp [Reply.loaded?] at h
    | true => exact Or.inr (by simpa [Reply.loaded?] using h)

/-- A write is safe when no snapshot still to be loaded holds its key. -/
theorem Coherent.put (h : s.Coherent) (hk : ∀ snapshot ∈ s.loads, snapshot k = none)
    (v : Option ν) : (s.put k v).Coherent where
  memory_eq := by
    change Function.update s.memory k v = settle s.backing (s.requests ++ [.write k v])
    rw [settle_append, ← h.memory_eq]
    rfl
  loads_within := by
    rw [loads_put]
    intro snapshot hs j w hw
    have hne : j ≠ k := by
      intro heq
      subst heq
      rw [hk snapshot hs] at hw
      cases hw
    exact (Function.update_of_ne hne v s.memory).trans (h.loads_within snapshot hs j w hw)

theorem Coherent.ask (h : s.Coherent) (load : Bool) : (s.ask load).Coherent where
  memory_eq := by
    change s.memory = settle s.backing (s.requests ++ [.read load])
    rw [settle_append, ← h.memory_eq]
    rfl
  loads_within := by
    intro snapshot hs
    change Within snapshot s.memory
    rcases mem_loads_ask hs with hold | rfl
    · exact h.loads_within snapshot hold
    · rw [← h.memory_eq]
      exact within_refl s.memory

theorem Coherent.execute (h : s.Coherent) : s.execute.Coherent where
  memory_eq := by rw [execute_memory, settle_execute, h.memory_eq]
  loads_within := by
    rw [loads_execute, execute_memory]
    exact h.loads_within

/-- In a coherent store no delivery changes the memory. -/
theorem Coherent.deliver_memory (h : s.Coherent) : s.deliver.memory = s.memory := by
  unfold Store.deliver
  cases hr : s.replies with
  | nil => rfl
  | cons a as =>
    cases a with
    | done => rfl
    | contents load snapshot =>
      cases load with
      | false => rfl
      | true =>
        have hs : snapshot ∈ s.loads := by simp [loads, outstanding, hr, Reply.loaded?]
        exact overlay_of_within (h.loads_within snapshot hs)

theorem mem_loads_deliver {snapshot : κ → Option ν} (h : snapshot ∈ s.deliver.loads) :
    snapshot ∈ s.loads := by
  unfold Store.deliver at h
  cases hr : s.replies with
  | nil => simpa [hr] using h
  | cons a as =>
    simp only [hr] at h
    obtain ⟨a', ha', he⟩ := List.mem_filterMap.mp h
    apply List.mem_filterMap.mpr
    exact ⟨a', by simpa [outstanding, hr] using Or.inr (List.mem_append.mp ha'), he⟩

theorem Coherent.deliver (h : s.Coherent) : s.deliver.Coherent where
  memory_eq := by
    rw [h.deliver_memory, h.memory_eq]
    unfold Store.deliver
    split <;> rfl
  loads_within := by
    rw [h.deliver_memory]
    exact fun snapshot hs => h.loads_within snapshot (mem_loads_deliver hs)

/-- A store with nothing under way is coherent when memory and backing agree. -/
theorem coherent_quiet {m b : κ → Option ν} (h : m = b) : (Store.mk m b [] []).Coherent where
  memory_eq := h
  loads_within := by simp [loads, outstanding, answers]

/-- Once every write is executed, memory and backing agree. -/
theorem Coherent.agree (h : s.Coherent) (hq : s.requests = []) : s.memory = s.backing := by
  rw [h.memory_eq, hq]
  rfl

end Store
end
end ApiCenter.Library.WriteBehind
