import NodeFeatureOperator.Convergence

/-!
# Components

A deployment consists of components, which a pass brings to their desired states in a fixed order.
Every component has its resources; some only exist on clusters with security context constraints.
-/

namespace NodeFeatureOperator

/-- A part of a deployment. -/
inductive Component where
  | securityPolicy
  | master
  | worker
  | topologyUpdater
  | garbageCollector
  /-- The report on all others. -/
  | status
deriving DecidableEq, Repr, Inhabited

namespace Component

/-- Every component, in the order of a pass. -/
def chain : List Component :=
  [securityPolicy, master, worker, topologyUpdater, garbageCollector, status]

/-- The name of a component. -/
def toText : Component → String
  | securityPolicy => "SecurityPolicy"
  | master => "Master"
  | worker => "Worker"
  | topologyUpdater => "TopologyUpdater"
  | garbageCollector => "GarbageCollector"
  | status => "Status"

/-- The component of a name. -/
def ofText? (text : String) : Option Component := chain.find? fun c => c.toText = text

/-- What a component consists of. -/
def resources : Component → List Resource
  | securityPolicy => [⟨.securityContextConstraints, "nfd-worker"⟩]
  | master => [
    ⟨.serviceAccount, "nfd-master"⟩,
    ⟨.clusterRole, "nfd-master"⟩,
    ⟨.clusterRoleBinding, "nfd-master"⟩,
    ⟨.roleBinding, "nfd-master"⟩,
    ⟨.deployment, "nfd-master"⟩,
    ⟨.service, "nfd-master"⟩]
  | worker => [
    ⟨.serviceAccount, "nfd-worker"⟩,
    ⟨.role, "nfd-worker"⟩,
    ⟨.roleBinding, "nfd-worker"⟩,
    ⟨.configMap, "nfd-worker"⟩,
    ⟨.daemonSet, "nfd-worker"⟩]
  | topologyUpdater => [
    ⟨.serviceAccount, "nfd-topology-updater"⟩,
    ⟨.clusterRole, "nfd-topology-updater"⟩,
    ⟨.clusterRoleBinding, "nfd-topology-updater"⟩,
    ⟨.securityContextConstraints, "nfd-topology-updater"⟩,
    ⟨.daemonSet, "nfd-topology-updater"⟩]
  | garbageCollector => [
    ⟨.serviceAccount, "nfd-gc"⟩,
    ⟨.clusterRole, "nfd-gc"⟩,
    ⟨.clusterRoleBinding, "nfd-gc"⟩,
    ⟨.deployment, "nfd-gc"⟩]
  | status => []

end Component

namespace Pass

/-- Whether objects of a kind are managed on this cluster. -/
def manages (p : Pass) (k : Kind) : Bool :=
  k ≠ .securityContextConstraints || p.settings.manageSecurityPolicies

/-- Whether a component is part of the deployment. -/
def enables (p : Pass) : Component → Bool
  | .securityPolicy => p.settings.manageSecurityPolicies
  | .topologyUpdater => p.subject.spec.topologyUpdater
  | _ => true

/-- The resources of a component that are managed on this cluster. -/
def managed (p : Pass) (c : Component) : List Resource := c.resources.filter fun r => p.manages r.kind

/-- The components of the deployment, in order. -/
def components (p : Pass) : List Component := Component.chain.filter p.enables

/-- The resources of the deployment, in order. -/
def deployed (p : Pass) : List Resource := p.components.flatMap p.managed

end Pass

end NodeFeatureOperator
