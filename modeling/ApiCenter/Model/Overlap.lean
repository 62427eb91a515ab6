import ApiCenter.Model.Registration

namespace ApiCenter

/-- The answer to the HSET of a `register` call. -/
structure Answer where
  pending : PendingRegister
  write : Write
  settled : Bool := false

/-- One instance with `register` calls under way: the writes not executed yet, oldest first, and
the answers to the others, in the order of the writes. -/
structure Overlap where
  registry : RegistryService
  hash : RedisHash
  requests : List PendingRegister := []
  answers : List Answer := []

inductive OverlapEvent where
  | begin (manifest : ServiceManifest) (now : String)
  | execute
  | reject (message : String)
  | settle (i : Nat)

namespace Overlap

/-- `register` up to its Redis write, or to its end when there is no Redis. -/
def begin (s : Overlap) (manifest : ServiceManifest) (now : String) : Overlap :=
  match s.registry.beginRegister manifest now with
  | .error _ => s
  | .ok (written, pending) =>
    match written.persistToRedis manifest.serviceId (.entry pending.entry) with
    | some _ => { s with registry := written, requests := s.requests ++ [pending] }
    | none => { s with registry := (pending.resume written .acknowledged).registry }

/-- Redis executes the oldest write. -/
def execute (s : Overlap) : Overlap :=
  match s.requests with
  | [] => s
  | p :: rest =>
    { s with
      hash := (RedisCommand.hset p.manifest.serviceId (.entry p.entry)).apply s.hash
      requests := rest
      answers := s.answers ++ [{ pending := p, write := .acknowledged }] }

/-- Redis rejects the oldest write, which has no effect. -/
def reject (s : Overlap) (message : String) : Overlap :=
  match s.requests with
  | [] => s
  | p :: rest =>
    { s with
      requests := rest
      answers := s.answers ++ [{ pending := p, write := .failed message }] }

/-- The call whose write was answered `i`-th goes on. -/
def settle (s : Overlap) (i : Nat) : Overlap :=
  match s.answers[i]? with
  | none => s
  | some a =>
    if a.settled then s
    else
      { s with
        registry := (a.pending.resume s.registry a.write).registry
        answers := s.answers.set i { a with settled := true } }

def step (s : Overlap) : OverlapEvent → Overlap
  | .begin manifest now => s.begin manifest now
  | .execute => s.execute
  | .reject message => s.reject message
  | .settle i => s.settle i

/-- Every call has settled. -/
def Finished (s : Overlap) : Prop := s.requests = [] ∧ ∀ a ∈ s.answers, a.settled = true

/-- The calls that resolve, in the order of their writes. -/
def resolved (s : Overlap) : List Answer := s.answers.filter (·.write = .acknowledged)

end Overlap

end ApiCenter
