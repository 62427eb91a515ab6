import ApiCenter.Model.Lifecycle
import ApiCenter.Model.Reconciliation

namespace ApiCenter

/-- The code that waits for the answer to a write; a `persistToRedis` has
nothing left to do. -/
inductive Waiting where
  | register (pending : PendingRegister)
  | deregister (id : String)
  | persistToRedis

/-- A Redis command on its way. The two HGETALLs are those of `getRedisEntries`
and `loadFromRedis`. -/
inductive Sent where
  | write (command : RedisCommand) (waiting : Waiting)
  | getRedisEntries
  | loadFromRedis

/-- The answer to a command, on its way back. -/
inductive Answered where
  | written (waiting : Waiting)
  | getRedisEntries (hash : RedisHash)
  | loadFromRedis (hash : RedisHash)

namespace Sent

def apply : Sent → RedisHash → RedisHash
  | .write command _, hash => command.apply hash
  | _, hash => hash

def answer : Sent → RedisHash → Answered
  | .write _ waiting, _ => .written waiting
  | .getRedisEntries, hash => .getRedisEntries hash
  | .loadFromRedis, hash => .loadFromRedis hash

end Sent

/-- One instance and its Redis hash, with the commands not executed yet and the
answers not delivered yet, oldest first. -/
structure Instance where
  registry : RegistryService
  hash : RedisHash
  requests : List Sent := []
  answers : List Answered := []
  reconciliationRunning : Bool := false

inductive InstanceAction where
  | call (c : RegistryCall) (now : String)
  | handleRedisDriftReconciliation
  | execute
  | deliver (now : String)

namespace Instance

def send (s : Instance) (command : RedisCommand) (waiting : Waiting) : Instance :=
  { s with requests := s.requests ++ [.write command waiting] }

/-- A call up to its first suspension. -/
def call (s : Instance) (now : String) : RegistryCall → Instance
  | .register manifest =>
    match s.registry.beginRegister manifest now with
    | .error _ => s
    | .ok (written, pending) =>
      match s.registry.persistToRedis manifest.serviceId (.entry pending.entry) with
      | some command => { s with registry := written }.send command (.register pending)
      | none => { s with registry := (pending.resume written .acknowledged).registry }
  | .deregister id =>
    match s.registry.beginDeregister id with
    | .error _ => s
    | .ok removed =>
      match s.registry.removeFromRedis id with
      | some command => { s with registry := removed }.send command (.deregister id)
      | none => { s with registry := removed.completeDeregister id now }
  | .lifecycle c =>
    let out := s.registry.lifecycle c now
    match out.command with
    | some command => { s with registry := out.registry }.send command .persistToRedis
    | none => { s with registry := out.registry }

/-- The job up to its first suspension; it does not run twice at a time. -/
def handleRedisDriftReconciliation (s : Instance) : Instance :=
  if s.reconciliationRunning then s
  else if s.registry.redis then
    { s with reconciliationRunning := true, requests := s.requests ++ [.getRedisEntries] }
  else s

/-- Redis executes the oldest command. -/
def execute (s : Instance) : Instance :=
  match s.requests with
  | [] => s
  | q :: qs =>
    { s with
      hash := q.apply s.hash
      requests := qs
      answers := s.answers ++ [q.answer s.hash] }

/-- What the code waiting for a successful write does next. -/
def resume (s : Instance) (now : String) : Waiting → Instance
  | .register pending =>
    { s with registry := (pending.resume s.registry .acknowledged).registry }
  | .deregister id => { s with registry := s.registry.completeDeregister id now }
  | .persistToRedis => s

/-- The oldest answer arrives, and the code that waits for it goes on. -/
def deliver (s : Instance) (now : String) : Instance :=
  match s.answers with
  | [] => s
  | .written waiting :: rest => { s with answers := rest }.resume now waiting
  | .getRedisEntries hash :: rest =>
    if RegistryService.hasDrift (RegistryService.getRedisEntries hash) s.registry.services then
      { s with answers := rest, requests := s.requests ++ [.loadFromRedis] }
    else { s with answers := rest, reconciliationRunning := false }
  | .loadFromRedis hash :: rest =>
    { s with
      answers := rest
      registry := s.registry.loadEntries hash
      reconciliationRunning := false }

def step (s : Instance) : InstanceAction → Instance
  | .call c now => s.call now c
  | .handleRedisDriftReconciliation => s.handleRedisDriftReconciliation
  | .execute => s.execute
  | .deliver now => s.deliver now

/-- Nothing is on its way any more. -/
def Finished (s : Instance) : Prop := s.requests = [] ∧ s.answers = []

end Instance

end ApiCenter
