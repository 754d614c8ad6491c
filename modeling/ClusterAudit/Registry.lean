import ClusterAudit.Dict
import ClusterAudit.Name

/-!
# Registered kinds

A `Registry` says which kinds have a table, and which kind the owner of an object belongs to when a
reference calls it by the name its author uses.
-/

namespace ClusterAudit

namespace Kind

/-- The kind of pods. -/
def pods : Kind := ⟨"pods"⟩

/-- The kind of services. -/
def services : Kind := ⟨"services"⟩

/-- The kind of deployments. -/
def deployments : Kind := ⟨"deployments"⟩

/-- The kind of replica sets. -/
def replicaSets : Kind := ⟨"replicasets"⟩

/-- The kind of network policies. -/
def networkPolicies : Kind := ⟨"networkpolicies"⟩

/-- The kind of namespaces. -/
def namespaces : Kind := ⟨"namespaces"⟩

/-- The kind of accounts. -/
def serviceAccounts : Kind := ⟨"serviceaccounts"⟩

/-- The kind of bindings within a namespace. -/
def roleBindings : Kind := ⟨"rolebindings"⟩

/-- The kind of bindings across the cluster. -/
def clusterRoleBindings : Kind := ⟨"clusterrolebindings"⟩

/-- The kinds that have a record type of their own. -/
def builtin : List Kind :=
  [pods, services, deployments, replicaSets, networkPolicies, namespaces, serviceAccounts,
   roleBindings, clusterRoleBindings]

end Kind

/-- The kinds that have a table, and the names by which owners are called. -/
structure Registry where
  kinds : Dict Kind Unit
  aliases : Dict String Kind
  deriving DecidableEq

namespace Registry

/-- A registry without kinds. -/
def empty : Registry := ⟨∅, ∅⟩

/-- The registry with one more kind. -/
def withKind (r : Registry) (kind : Kind) : Registry := { r with kinds := r.kinds.insert kind () }

/-- The registry with a name for the owners of a kind; an older meaning of the name is replaced. -/
def withAlias (r : Registry) (owner : String) (kind : Kind) : Registry :=
  { r with aliases := r.aliases.insert owner kind }

/-- The builtin kinds, with names for the controllers of pods. -/
def builtin : Registry :=
  (((Kind.builtin.foldl withKind empty).withAlias "Pod" .pods).withAlias "ReplicaSet" .replicaSets)
    |>.withAlias "Deployment" .deployments

instance : Inhabited Registry := ⟨builtin⟩

/-- Whether a kind is registered. -/
def contains (r : Registry) (kind : Kind) : Bool := r.kinds.contains kind

/-- The registered kinds in name order. -/
def list (r : Registry) : List Kind := r.kinds.keys

/-- The number of registered kinds. -/
def size (r : Registry) : Nat := r.kinds.size

/-- Whether no kind is registered. -/
def isEmpty (r : Registry) : Bool := r.kinds.isEmpty

/-- The kind of owners called so, if that kind is registered. -/
def kindForOwner (r : Registry) (owner : String) : Option Kind :=
  (r.aliases.get? owner).filter r.contains

end Registry

end ClusterAudit
