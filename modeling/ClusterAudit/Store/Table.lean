import ClusterAudit.Resource

/-!
# Tables

The records of one kind, found by name and by namespace. Listing is in name order.
-/

namespace ClusterAudit

/-- The records of one kind. -/
structure Table where
  records : Dict Fqn Resource
  /-- The names of the records by namespace. -/
  index : Dict String (Dict Fqn Unit)
  /-- Whether the kind has been loaded. -/
  loaded : Bool
  deriving DecidableEq

namespace Table

/-- A table without records that has not been loaded. -/
def empty : Table := ⟨∅, ∅, false⟩

instance : Inhabited Table := ⟨empty⟩

/-- The table with a record stored under its name, in place of an older one. -/
def insert (t : Table) (r : Resource) : Table where
  records := t.records.insert r.fqn r
  index := t.index.alter r.space fun names => some ((names.getD ∅).insert r.fqn ())
  loaded := t.loaded

/-- The record of a name. -/
def get? (t : Table) (fqn : Fqn) : Option Resource := t.records.get? fqn

/-- The records in name order. -/
def scan (t : Table) : List Resource := t.records.values

/-- The records that the index lists for a namespace, in name order. -/
def scanNamespace (t : Table) (space : String) : List Resource :=
  ((t.index.get? space).getD ∅).keys.filterMap t.records.get?

/-- The namespaces that the index lists, in order. -/
def namespaces (t : Table) : List String := t.index.keys

/-- The number of records. -/
def size (t : Table) : Nat := t.records.size

/-- The table as a loaded one. -/
def markLoaded (t : Table) : Table := { t with loaded := true }

end Table

end ClusterAudit
