import Mathlib.Logic.Function.Basic
import ApiCenter.Model.Reconciliation

namespace ApiCenter

/-- Gateway instances sharing one Redis hash. -/
structure Cluster (ι : Type) where
  instances : ι → RegistryService
  hash : RedisHash

inductive ClusterAction (ι : Type) where
  | call (i : ι) (c : RegistryCall) (now : String)
  | reconcile (i : ι)

namespace Cluster

variable {ι : Type} [DecidableEq ι]

/-- One operation of one instance; its Redis commands succeed before the next
operation starts. -/
def step (s : Cluster ι) : ClusterAction ι → Cluster ι
  | .call i c now =>
    let out := (s.instances i).call c now .acknowledged
    { instances := Function.update s.instances i out.registry
      hash := execute out.command s.hash }
  | .reconcile i =>
    { s with instances :=
        Function.update s.instances i ((s.instances i).reconcile s.hash s.hash) }

end Cluster

end ApiCenter
