import ClusterAudit.Address.Cidr
import ClusterAudit.Resource.Meta

/-!
# Services and network policies
-/

namespace ClusterAudit

/-- A service. -/
structure Service where
  metadata : ObjectMeta
  serviceType : String
  /-- The labels its pods carry. -/
  selector : Labels
  clusterIp : String
  deriving DecidableEq

namespace Service

/-- A service with metadata only. -/
def ofMeta (m : ObjectMeta) : Service := ⟨m, "", ∅, ""⟩

instance : Inhabited Service := ⟨ofMeta default⟩

/-- The service with one more label that its pods carry. -/
def withSelector (s : Service) (key value : String) : Service :=
  { s with selector := s.selector.insert key value }

/-- Whether the service stands for a name outside the cluster. -/
def isExternalName (s : Service) : Bool := s.serviceType == "ExternalName"

end Service

/-- One side of the traffic that a policy allows. -/
structure PolicyPeer where
  podSelector : Option Selector
  namespaceSelector : Option Selector
  ipBlock : Option IpBlock
  deriving DecidableEq

instance : Inhabited PolicyPeer := ⟨⟨none, none, none⟩⟩

/-- A rule of a policy. -/
structure PolicyRule where
  peers : List PolicyPeer
  deriving DecidableEq

instance : Inhabited PolicyRule := ⟨⟨[]⟩⟩

/-- A network policy. -/
structure NetworkPolicy where
  metadata : ObjectMeta
  podSelector : Selector
  ingress : List PolicyRule
  egress : List PolicyRule
  deriving DecidableEq

namespace NetworkPolicy

/-- A policy with metadata only. -/
def ofMeta (m : ObjectMeta) : NetworkPolicy := ⟨m, default, [], []⟩

instance : Inhabited NetworkPolicy := ⟨ofMeta default⟩

end NetworkPolicy

end ClusterAudit
