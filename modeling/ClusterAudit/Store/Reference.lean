import ClusterAudit.Store.Snapshot

/-!
# References between objects

Two questions about a selector look alike: which records does it select, and which does it cover?
They differ on the selector that asks for nothing, which selects no record and covers all of them.

A reference to an owner is followed through the names that the registry knows. An owner is missing
only where its table has been loaded; otherwise nothing is known about it.
-/

namespace ClusterAudit

namespace Snapshot

/-- The records of a kind in a namespace that a selector selects. -/
def findSelected (s : Snapshot) (kind : Kind) (space : String) (selector : Selector) :
    Except StoreError (List Resource) :=
  (s.scanNamespace kind space).map (·.filter fun r => selector.selects r.labels)

/-- The records of a kind in a namespace that a selector covers. -/
def findCovered (s : Snapshot) (kind : Kind) (space : String) (selector : Selector) :
    Except StoreError (List Resource) :=
  (s.scanNamespace kind space).map (·.filter fun r => selector.covers r.labels)

/-- The namespaces whose labels a selector covers. -/
def findNamespaces (s : Snapshot) (kind : Kind) (selector : Selector) :
    Except StoreError (List Resource) :=
  (s.scan kind).map (·.filter fun r => selector.covers r.labels)

end Snapshot

/-- Where a reference to an owner leads. -/
inductive OwnerLookup where
  | found (r : Resource)
  /-- The kind is loaded and has no such object. -/
  | missing
  /-- The kind has no table, or its table was never loaded. -/
  | untracked
  deriving DecidableEq

namespace Snapshot

/-- The owner of an object in a namespace. -/
def resolveOwner (s : Snapshot) (space : String) (owner : OwnerReference) :
    Except StoreError OwnerLookup :=
  match s.registry.kindForOwner owner.kind with
  | none => .ok .untracked
  | some kind => do
    if ← s.isLoaded kind then
      match ← s.get? kind (.join space owner.name) with
      | some r => .ok (.found r)
      | none => .ok .missing
    else .ok .untracked

end Snapshot

end ClusterAudit
