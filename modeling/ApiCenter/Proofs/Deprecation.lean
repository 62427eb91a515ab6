import ApiCenter.Proofs.Mediation
import ApiCenter.Proofs.Statuses

namespace ApiCenter.Proofs.Deprecation
open Library Calls Mediation

/-- The action ends no deprecation of `id` and starts none, and its manifest, if it registers `id`,
says nothing about a sunset or a replacement. -/
def Leaves (id : String) : GatewayAction → Prop
  | .call (.register m) _ _ =>
    m.serviceId = id → m.sunsetDate.text? = none ∧ m.replacementService.text? = none
  | .call (.deregister other) _ _ => other ≠ id
  | .call (.lifecycle (.deprecateService other _ _)) _ _ => other ≠ id
  | .call (.lifecycle (.retire other)) _ _ => other ≠ id
  | .call (.lifecycle (.activate other)) _ _ => other ≠ id
  | .call (.lifecycle (.setHealthStatus ..)) _ _ | .call (.lifecycle (.touchHealthCheck _)) _ _
  | .loadFromRedis _ | .reconcile .. | .proxyRequest .. | .proxyRes .. | .proxyError ..
  | .finish .. => True

/-- The entry `e` right after a `deprecate` that was not refused. -/
def deprecated (e : ServiceRegistryEntry) (sunsetDate replacementService : Optional String)
    (now : String) : ServiceRegistryEntry :=
  (RegistryService.deprecateChanges sunsetDate replacementService now).applyTo e

variable {r : RegistryService} {g : Gateway} {id now : String} {write : Write}
  {w e : ServiceRegistryEntry}

end ApiCenter.Proofs.Deprecation
