import ApiCenter.Model.Lifecycle

namespace ApiCenter
namespace RegistryService

def get (r : RegistryService) (id : String) : Option Found := r.find id

def getByType (r : RegistryService) (type : ServiceType) : List ServiceRegistryEntry :=
  r.services.values.filter fun svc => svc.serviceType.getD .tribe = type

def count (r : RegistryService) : Nat := r.services.keys.length

def getConsumers (r : RegistryService) (id : String) : List String :=
  (r.services.values.filter fun svc => svc.consumes.contains id).map (·.serviceId)

/-- A built-in member has no `consumes` to search. -/
def canConsume (r : RegistryService) (source target : String) : Except Thrown Bool :=
  match r.find source with
  | none => .ok false
  | some (.entry e) => .ok (e.consumes.contains target)
  | some (.member _) =>
    .error (.typeError "Cannot read properties of undefined (reading 'includes')")

/-- `none` is the `undefined` a built-in member gives. -/
def getRequiredScopes (r : RegistryService) (target : String) : Option (List String) :=
  match r.find target with
  | none => some []
  | some (.entry e) => some e.requiredScopes
  | some (.member _) => none

def resolveUpstream (r : RegistryService) (id path : String) : Option String :=
  match r.find id with
  | none => none
  | some (.entry e) => some s!"{e.baseUrl}{path}"
  | some (.member _) => some s!"undefined{path}"

end RegistryService
end ApiCenter
