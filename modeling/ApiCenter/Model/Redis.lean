import ApiCenter.Model.Types

namespace ApiCenter
open Library

/-- A value of the registry hash: the JSON text of an entry, that of the properties assigned to
`services['__proto__']`, or a text `JSON.parse` rejects. -/
inductive RedisValue where
  | entry (e : ServiceRegistryEntry)
  | object (own : Changes)
  | malformed
  deriving DecidableEq, Repr

/-- The entry in a hash value. An object with assigned properties only stands under `__proto__`. -/
def RedisValue.parse : RedisValue → Option ServiceRegistryEntry
  | .entry e => some e
  | .object _ => none
  | .malformed => none

/-- The hash at `api-center:registry:services`. -/
abbrev RedisHash := Table String RedisValue

/-- The writes the registry sends. -/
inductive RedisCommand where
  | hset (field : String) (value : RedisValue)
  | hdel (field : String)
  deriving DecidableEq, Repr

def RedisCommand.field : RedisCommand → String
  | .hset field _ => field
  | .hdel field => field

def RedisCommand.apply : RedisCommand → RedisHash → RedisHash
  | .hset field value, hash => hash.insert field value
  | .hdel field, hash => hash.erase field

/-- Execute what a call sent, if it sent anything. -/
def execute (command : Option RedisCommand) (hash : RedisHash) : RedisHash :=
  match command with
  | some c => c.apply hash
  | none => hash

@[simp] theorem execute_none (hash : RedisHash) : execute none hash = hash := rfl

@[simp] theorem execute_some (c : RedisCommand) (hash : RedisHash) :
    execute (some c) hash = c.apply hash := rfl

/-- A command changes only its own field. -/
theorem lookup_apply_ne (c : RedisCommand) (hash : RedisHash) {id : String} (h : id ≠ c.field) :
    (c.apply hash).lookup id = hash.lookup id := by
  cases c with
  | hset field value => exact AList.lookup_insert_ne h
  | hdel field => exact AList.lookup_erase_ne h

theorem lookup_hset (field : String) (value : RedisValue) (hash : RedisHash) (id : String) :
    ((RedisCommand.hset field value).apply hash).lookup id =
      if id = field then some value else hash.lookup id :=
  Table.lookup_insert_if hash field value id

theorem lookup_hdel (field : String) (hash : RedisHash) (id : String) :
    ((RedisCommand.hdel field).apply hash).lookup id =
      if id = field then none else hash.lookup id :=
  Table.lookup_erase_if hash field id

end ApiCenter
