import ApiCenter.Model.Access

namespace ApiCenter
namespace RegistryService

/-- What `loadFromRedis` does with the hash it read. The field `__proto__` becomes the prototype. -/
def loadEntries (r : RegistryService) (hash : RedisHash) : RegistryService :=
  { r with
    services := r.services.assignAll RedisValue.parse hash
    replaced :=
      match hash.lookup "__proto__" with
      | some (.object own) => some own
      | _ => r.replaced }

def loadFromRedis (r : RegistryService) (hash : RedisHash) : RegistryService :=
  if r.redis then r.loadEntries hash else r

/-- What `getRedisEntries` makes of the hash it read. -/
def getRedisEntries (hash : RedisHash) : ServiceRegistryMap :=
  PlainObject.empty.assignAll RedisValue.parse hash

/-- The drift check: a key only one side has, or another `updatedAt`. -/
def hasDrift (redisEntries memoryEntries : ServiceRegistryMap) : Bool :=
  redisEntries.keys.any (fun k => !(memoryEntries.get? k).isSome) ||
  memoryEntries.keys.any (fun k => !(redisEntries.get? k).isSome) ||
  redisEntries.keys.any fun k =>
    match memoryEntries.get? k, redisEntries.get? k with
    | some mine, some theirs => theirs.updatedAt != mine.updatedAt
    | _, _ => false

/-- `handleRedisDriftReconciliation` with nothing in between: `compared` and
`loaded` are the hashes its two HGETALLs read. -/
def reconcile (r : RegistryService) (compared loaded : RedisHash) : RegistryService :=
  if r.redis && hasDrift (getRedisEntries compared) r.services then r.loadEntries loaded else r

/-- A reload takes every readable record over and forgets nothing. -/
theorem get?_loadEntries (r : RegistryService) (hash : RedisHash) (id : String) :
    (r.loadEntries hash).services.get? id =
      ((getRedisEntries hash).get? id).or (r.services.get? id) := by
  simp [loadEntries, getRedisEntries, PlainObject.get?_assignAll]

theorem get?_getRedisEntries (hash : RedisHash) (id : String) :
    (getRedisEntries hash).get? id =
      (hash.lookup id).bind (PlainObject.assignable RedisValue.parse id) := by
  simp [getRedisEntries, PlainObject.get?_assignAll]

theorem get?_getRedisEntries_iff {hash : RedisHash} {id : String} {e : ServiceRegistryEntry} :
    (getRedisEntries hash).get? id = some e ↔
      id ≠ "__proto__" ∧ hash.lookup id = some (.entry e) := by
  rw [get?_getRedisEntries]
  by_cases hid : id = "__proto__"
  · cases hash.lookup id <;> simp [PlainObject.assignable, hid]
  · cases hash.lookup id with
    | none => simp
    | some v => cases v <;> simp [PlainObject.assignable, hid, RedisValue.parse]

end RegistryService
end ApiCenter
