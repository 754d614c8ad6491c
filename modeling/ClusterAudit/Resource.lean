import ClusterAudit.Document.Json
import ClusterAudit.Registry
import ClusterAudit.Resource.Access
import ClusterAudit.Resource.Network
import ClusterAudit.Resource.Workload

/-!
# Resources

A `Resource` is an object of one of the builtin sorts, or a custom object that names its kind
itself. Its kind says which table it belongs in; `as…` gives back the record of a sort.
-/

namespace ClusterAudit

/-- A namespace; it carries nothing but metadata. -/
structure NamespaceRecord where
  metadata : ObjectMeta
  deriving DecidableEq

instance : Inhabited NamespaceRecord := ⟨⟨default⟩⟩

/-- An object of a kind without record type of its own. -/
structure CustomResource where
  kind : Kind
  metadata : ObjectMeta
  /-- A document in canonical form. -/
  spec : { j : Json // j.isCanonical = true }
  deriving DecidableEq

/-- An object of the cluster. -/
inductive Resource where
  | pod (r : Pod)
  | service (r : Service)
  | deployment (r : Deployment)
  | replicaSet (r : ReplicaSet)
  | networkPolicy (r : NetworkPolicy)
  | clusterNamespace (r : NamespaceRecord)
  | serviceAccount (r : ServiceAccount)
  | roleBinding (r : RoleBinding)
  | clusterRoleBinding (r : RoleBinding)
  | custom (r : CustomResource)
  deriving DecidableEq

namespace Resource

/-- The kind whose table the object belongs in. -/
def kind : Resource → Kind
  | pod _ => .pods
  | service _ => .services
  | deployment _ => .deployments
  | replicaSet _ => .replicaSets
  | networkPolicy _ => .networkPolicies
  | clusterNamespace _ => .namespaces
  | serviceAccount _ => .serviceAccounts
  | roleBinding _ => .roleBindings
  | clusterRoleBinding _ => .clusterRoleBindings
  | custom r => r.kind

/-- The metadata. -/
def metadata : Resource → ObjectMeta
  | pod r => r.metadata
  | service r => r.metadata
  | deployment r => r.metadata
  | replicaSet r => r.metadata
  | networkPolicy r => r.metadata
  | clusterNamespace r => r.metadata
  | serviceAccount r => r.metadata
  | roleBinding r => r.metadata
  | clusterRoleBinding r => r.metadata
  | custom r => r.metadata

/-- The fully qualified name. -/
def fqn (r : Resource) : Fqn := r.metadata.fqn

/-- The namespace. -/
def space (r : Resource) : String := r.metadata.space

/-- The name. -/
def name (r : Resource) : String := r.metadata.name

/-- The labels. -/
def labels (r : Resource) : Labels := r.metadata.labels

/-- The annotations. -/
def annotations (r : Resource) : Labels := r.metadata.annotations

/-- The names of its containers; none for objects without pods. -/
def containerNames : Resource → List String
  | pod r => r.containerNames
  | deployment r => r.template.containers.map (·.name)
  | _ => []

/-! ## Records by sort -/

/-- The record of a pod. -/
def asPod : Resource → Option Pod
  | pod r => some r
  | _ => none

/-- The record of a service. -/
def asService : Resource → Option Service
  | service r => some r
  | _ => none

/-- The record of a deployment. -/
def asDeployment : Resource → Option Deployment
  | deployment r => some r
  | _ => none

/-- The record of a replica set. -/
def asReplicaSet : Resource → Option ReplicaSet
  | replicaSet r => some r
  | _ => none

/-- The record of a network policy. -/
def asNetworkPolicy : Resource → Option NetworkPolicy
  | networkPolicy r => some r
  | _ => none

/-- The record of a namespace. -/
def asNamespace : Resource → Option NamespaceRecord
  | clusterNamespace r => some r
  | _ => none

/-- The record of an account. -/
def asServiceAccount : Resource → Option ServiceAccount
  | serviceAccount r => some r
  | _ => none

/-- The record of a binding, within a namespace or across the cluster. -/
def asRoleBinding : Resource → Option RoleBinding
  | roleBinding r => some r
  | clusterRoleBinding r => some r
  | _ => none

/-- The record of a custom object. -/
def asCustom : Resource → Option CustomResource
  | custom r => some r
  | _ => none

end Resource

end ClusterAudit
