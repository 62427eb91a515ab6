import Mathlib.Logic.Function.Basic
import ApiCenter.Model.EntryText

namespace ApiCenter
open Library

/-- The hash at `api-center:registry:services` as Redis holds it. -/
abbrev RedisTexts := Table String String

/-- `JSON.parse` of a hash value. -/
def readRedisValue (json : String) : RedisValue :=
  match Json.parse json with
  | none => .malformed
  | some j =>
    match j.asEntry with
    | some e => .entry e
    | none => (j.asChanges.map .object).getD .malformed

/-- The entry in a hash value. -/
def readEntry (json : String) : Option ServiceRegistryEntry := (readRedisValue json).parse

/-- How `JSON.stringify` comes out: an object lists its properties in the order they were
assigned. -/
structure Rendering where
  properties : ServiceRegistryEntry → Payload
  perm : ∀ e, (properties e).Perm e.properties
  own : Changes → Payload
  permOwn : ∀ c, (own c).Perm c.properties

/-- The value of an HSET. `JSON.stringify` of a function is `undefined`, and the client sends the
empty text for it. -/
def Rendering.text (rendering : Rendering) : RedisValue → String
  | .entry e => (rendering.properties e).object.stringify
  | .object own => (rendering.own own).object.stringify
  | .malformed => ""

/-- The write of a registry, carried out on the texts. -/
def Rendering.apply (rendering : Rendering) : RedisCommand → RedisTexts → RedisTexts
  | .hset field value, texts => texts.insert field (rendering.text value)
  | .hdel field, texts => texts.erase field

namespace RedisTexts

def execute (rendering : Rendering) (command : Option RedisCommand) (texts : RedisTexts) :
    RedisTexts :=
  match command with
  | some c => rendering.apply c texts
  | none => texts

def loadEntries (r : RegistryService) (texts : RedisTexts) : RegistryService :=
  { r with
    services := r.services.assignAll readEntry texts
    replaced :=
      match (texts.lookup "__proto__").map readRedisValue with
      | some (.object own) => some own
      | _ => r.replaced }

def loadFromRedis (r : RegistryService) (texts : RedisTexts) : RegistryService :=
  if r.redis then loadEntries r texts else r

def getRedisEntries (texts : RedisTexts) : ServiceRegistryMap :=
  PlainObject.empty.assignAll readEntry texts

def reconcile (r : RegistryService) (texts : RedisTexts) : RegistryService :=
  if r.redis && RegistryService.hasDrift (getRedisEntries texts) r.services then
    loadEntries r texts
  else r

def boot (texts : RedisTexts) : RegistryService := loadFromRedis { redis := true } texts

end RedisTexts

/-- Gateway instances and the hash they share, with values of some kind. -/
structure Deployment (ι β : Type) where
  instances : ι → RegistryService
  hash : Table String β

/-- An operation of one instance. -/
structure DeploymentAction (ι : Type) where
  i : ι
  action : NodeAction
  rendering : Rendering

namespace Deployment

variable {ι : Type} [DecidableEq ι]

/-- One operation, with the hash as Redis holds it. -/
def step (s : Deployment ι String) (a : DeploymentAction ι) : Deployment ι String :=
  match a.action with
  | .call c now write applied =>
    let out := (s.instances a.i).call c now write
    { instances := Function.update s.instances a.i out.registry
      hash := if applied then RedisTexts.execute a.rendering out.command s.hash else s.hash }
  | .loadFromRedis =>
    { s with instances :=
        Function.update s.instances a.i (RedisTexts.loadFromRedis (s.instances a.i) s.hash) }
  | .handleRedisDriftReconciliation =>
    { s with instances :=
        Function.update s.instances a.i (RedisTexts.reconcile (s.instances a.i) s.hash) }
  | .restart => { s with instances := Function.update s.instances a.i (RedisTexts.boot s.hash) }

/-- The same operation with entries in place of their texts. -/
def abstractStep (s : Deployment ι RedisValue) (a : DeploymentAction ι) :
    Deployment ι RedisValue :=
  let node := Node.step ⟨s.instances a.i, s.hash⟩ a.action
  { instances := Function.update s.instances a.i node.registry, hash := node.hash }

end Deployment

end ApiCenter
