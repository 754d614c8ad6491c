import ClusterAudit.Image
import ClusterAudit.Resource.Meta

/-!
# Workloads

Pods with their containers, and the controllers that make pods.
-/

namespace ClusterAudit

/-- How the state of a container is asked for. -/
structure Probe where
  initialDelaySeconds : UInt32
  periodSeconds : UInt32
  deriving DecidableEq

instance : Inhabited Probe := ⟨⟨0, 0⟩⟩

/-- Quantities by resource: what a container asks for and what it may use. -/
structure ResourceRequirements where
  requests : Labels
  limits : Labels
  deriving DecidableEq

instance : Inhabited ResourceRequirements := ⟨⟨∅, ∅⟩⟩

/-- A container. -/
structure Container where
  name : String
  image : String
  resources : ResourceRequirements
  livenessProbe : Option Probe
  readinessProbe : Option Probe
  deriving DecidableEq

namespace Container

/-- A container with a name and an image only. -/
def named (name image : String) : Container := ⟨name, image, default, none, none⟩

instance : Inhabited Container := ⟨named "" ""⟩

/-- The container with both probes, at their defaults. -/
def withProbes (c : Container) : Container :=
  { c with livenessProbe := some default, readinessProbe := some default }

/-- The container with a request; an older one for the resource is replaced. -/
def withRequest (c : Container) (resource quantity : String) : Container :=
  { c with resources :=
    { c.resources with requests := c.resources.requests.insert resource quantity } }

/-- The container with a limit; an older one for the resource is replaced. -/
def withLimit (c : Container) (resource quantity : String) : Container :=
  { c with resources :=
    { c.resources with limits := c.resources.limits.insert resource quantity } }

end Container

/-- A pod. -/
structure Pod where
  metadata : ObjectMeta
  serviceAccountName : String
  nodeName : String
  podIp : String
  containers : List Container
  initContainers : List Container
  deriving DecidableEq

namespace Pod

/-- A pod with metadata only. -/
def ofMeta (m : ObjectMeta) : Pod := ⟨m, "", "", "", [], []⟩

instance : Inhabited Pod := ⟨ofMeta default⟩

/-- The pod with one more container. -/
def withContainer (p : Pod) (c : Container) : Pod := { p with containers := p.containers ++ [c] }

/-- The names of its containers, those that run first in front. -/
def containerNames (p : Pod) : List String := (p.initContainers ++ p.containers).map (·.name)

end Pod

/-- What a controller makes pods from. -/
structure PodTemplate where
  metadata : ObjectMeta
  containers : List Container
  deriving DecidableEq

instance : Inhabited PodTemplate := ⟨⟨default, []⟩⟩

/-- A deployment. -/
structure Deployment where
  metadata : ObjectMeta
  replicas : UInt32
  selector : Selector
  template : PodTemplate
  deriving DecidableEq

instance : Inhabited Deployment := ⟨⟨default, 0, default, default⟩⟩

/-- A replica set. -/
structure ReplicaSet where
  metadata : ObjectMeta
  replicas : UInt32
  selector : Selector
  deriving DecidableEq

instance : Inhabited ReplicaSet := ⟨⟨default, 0, default⟩⟩

end ClusterAudit
