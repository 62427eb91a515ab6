import ApiCenter.Model.Reconciliation

namespace ApiCenter

/-- `onModuleInit` of a new instance when Redis can be reached. -/
def RegistryService.boot (hash : RedisHash) : RegistryService :=
  ({ redis := true } : RegistryService).loadFromRedis hash

/-- One instance and its Redis hash, with one operation at a time. -/
structure Node where
  registry : RegistryService
  hash : RedisHash

/-- A call comes with how its strict write ends for it and whether its command
takes effect in the hash. -/
inductive NodeAction where
  | call (c : RegistryCall) (now : String) (write : Write) (applied : Bool)
  | loadFromRedis
  | handleRedisDriftReconciliation
  | restart

namespace Node

def step (s : Node) : NodeAction → Node
  | .call c now write applied =>
    let out := s.registry.call c now write
    { registry := out.registry, hash := if applied then execute out.command s.hash else s.hash }
  | .loadFromRedis => { s with registry := s.registry.loadFromRedis s.hash }
  | .handleRedisDriftReconciliation =>
    { s with registry := s.registry.reconcile s.hash s.hash }
  | .restart => { s with registry := .boot s.hash }

end Node

end ApiCenter
