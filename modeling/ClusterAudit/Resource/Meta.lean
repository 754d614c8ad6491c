import ClusterAudit.Name
import ClusterAudit.Selector

/-!
# Metadata of objects

What every object carries: its name, its namespace, labels, annotations and the objects that own it.
-/

namespace ClusterAudit

/-- A reference to the owner of an object; the owner lives in the object's namespace. -/
structure OwnerReference where
  /-- The sort of the owner as its author calls it, such as `ReplicaSet`. -/
  kind : String
  name : String
  controller : Bool
  deriving DecidableEq

/-- The metadata of an object. -/
structure ObjectMeta where
  name : String
  /-- Empty for an object outside all namespaces. -/
  space : String
  labels : Labels
  annotations : Labels
  owners : List OwnerReference
  deriving DecidableEq

namespace ObjectMeta

/-- Metadata with a namespace and a name only. -/
def named (space name : String) : ObjectMeta := ⟨name, space, ∅, ∅, []⟩

instance : Inhabited ObjectMeta := ⟨named "" ""⟩

/-- The metadata with a label; an older value of the key is replaced. -/
def withLabel (m : ObjectMeta) (key value : String) : ObjectMeta :=
  { m with labels := m.labels.insert key value }

/-- The metadata with an annotation; an older value of the key is replaced. -/
def withAnnotation (m : ObjectMeta) (key value : String) : ObjectMeta :=
  { m with annotations := m.annotations.insert key value }

/-- The metadata with one more owner. -/
def withOwner (m : ObjectMeta) (owner : OwnerReference) : ObjectMeta :=
  { m with owners := m.owners ++ [owner] }

/-- The fully qualified name. -/
def fqn (m : ObjectMeta) : Fqn := .join m.space m.name

end ObjectMeta

end ClusterAudit
