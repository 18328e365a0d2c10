set_option autoImplicit false
set_option relaxedAutoImplicit false

/-!
The kinds of objects that a cluster can be asked for.
-/

namespace Stencil.Cluster

inductive Scope
  | namespaced
  | cluster
deriving DecidableEq, Repr

inductive Kind
  | pods
  | services
  | replicationControllers
  | events
  | endpoints
  | configMaps
  | limitRanges
  | persistentVolumeClaims
  | podTemplates
  | resourceQuotas
  | secrets
  | serviceAccounts
  | nodes
  | namespaces
  | componentStatuses
  | persistentVolumes
deriving DecidableEq, Repr

/-- All kinds, in the order in which they are listed. -/
def Kind.all : List Kind := [
  .pods, .services, .replicationControllers, .events, .endpoints, .configMaps, .limitRanges,
  .persistentVolumeClaims, .podTemplates, .resourceQuotas, .secrets, .serviceAccounts, .nodes,
  .namespaces, .componentStatuses, .persistentVolumes]

/-- The name of a kind, which is also the name of the template function that lists its objects. -/
def Kind.name : Kind → String
  | .pods => "pods"
  | .services => "services"
  | .replicationControllers => "replicationcontrollers"
  | .events => "events"
  | .endpoints => "endpoints"
  | .configMaps => "configmaps"
  | .limitRanges => "limitranges"
  | .persistentVolumeClaims => "persistentvolumeclaims"
  | .podTemplates => "podtemplates"
  | .resourceQuotas => "resourcequotas"
  | .secrets => "secrets"
  | .serviceAccounts => "serviceaccounts"
  | .nodes => "nodes"
  | .namespaces => "namespaces"
  | .componentStatuses => "componentstatuses"
  | .persistentVolumes => "persistentvolumes"

/-- The name that one object of a kind gives to its kind. -/
def Kind.objectName : Kind → String
  | .pods => "Pod"
  | .services => "Service"
  | .replicationControllers => "ReplicationController"
  | .events => "Event"
  | .endpoints => "Endpoints"
  | .configMaps => "ConfigMap"
  | .limitRanges => "LimitRange"
  | .persistentVolumeClaims => "PersistentVolumeClaim"
  | .podTemplates => "PodTemplate"
  | .resourceQuotas => "ResourceQuota"
  | .secrets => "Secret"
  | .serviceAccounts => "ServiceAccount"
  | .nodes => "Node"
  | .namespaces => "Namespace"
  | .componentStatuses => "ComponentStatus"
  | .persistentVolumes => "PersistentVolume"

/-- Nodes, namespaces, component statuses and persistent volumes belong to the cluster as a whole. -/
def Kind.scope : Kind → Scope
  | .nodes | .namespaces | .componentStatuses | .persistentVolumes => .cluster
  | _ => .namespaced

def Kind.ofName? (name : String) : Option Kind := Kind.all.find? (·.name == name)

theorem Kind.ofName?_name (k : Kind) : Kind.ofName? k.name = some k := by cases k <;> decide

end Stencil.Cluster
