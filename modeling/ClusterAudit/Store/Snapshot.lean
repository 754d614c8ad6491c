import ClusterAudit.Store.Table

/-!
# Snapshots

A `Snapshot` is what a reader sees: one table per registered kind, and the number of commits that
made it. Nothing that happens later changes it. Asking for a kind without table is an error; asking
for a name that a table lacks is not.
-/

namespace ClusterAudit

/-- Misuse of the store. -/
inductive StoreError where
  /-- The kind has no table. -/
  | unknownKind (kind : Kind)
  /-- A record of another kind was offered to a table. -/
  | kindMismatch (table record : Kind)
  deriving DecidableEq

namespace StoreError

/-- The wording of the error. -/
def message : StoreError → String
  | unknownKind kind => "Unknown resource kind: " ++ kind.text
  | kindMismatch table record =>
    "Record of kind " ++ record.text ++ " cannot be stored in table " ++ table.text

end StoreError

/-- The tables of all kinds. -/
abbrev Tables := Dict Kind Table

namespace Tables

/-- An empty table for every registered kind. -/
def ofRegistry (r : Registry) : Tables := r.kinds.map fun _ => Table.empty

/-- The table of a kind. -/
def table (ts : Tables) (kind : Kind) : Except StoreError Table :=
  match Dict.get? ts kind with
  | some t => .ok t
  | none => .error (.unknownKind kind)

end Tables

/-- The state of the store after some number of commits. -/
structure Snapshot where
  registry : Registry
  tables : Tables
  /-- The number of commits before it. -/
  version : Nat
  deriving DecidableEq

namespace Snapshot

/-- The state before the first commit. -/
def initial (r : Registry) : Snapshot := ⟨r, .ofRegistry r, 0⟩

instance : Inhabited Snapshot := ⟨initial default⟩

/-- The table of a kind. -/
def table (s : Snapshot) (kind : Kind) : Except StoreError Table := s.tables.table kind

/-- The records of a kind, in name order. -/
def scan (s : Snapshot) (kind : Kind) : Except StoreError (List Resource) :=
  (s.table kind).map (·.scan)

/-- The records of a kind in a namespace, in name order. -/
def scanNamespace (s : Snapshot) (kind : Kind) (space : String) :
    Except StoreError (List Resource) :=
  (s.table kind).map (·.scanNamespace space)

/-- The record of a kind with a name. -/
def get? (s : Snapshot) (kind : Kind) (fqn : Fqn) : Except StoreError (Option Resource) :=
  (s.table kind).map (·.get? fqn)

/-- The records of a kind that are of a sort. -/
def scanAs {α : Type} (s : Snapshot) (as : Resource → Option α) (kind : Kind) :
    Except StoreError (List α) :=
  (s.scan kind).map (·.filterMap as)

/-- The records of a kind in a namespace that are of a sort. -/
def scanNamespaceAs {α : Type} (s : Snapshot) (as : Resource → Option α) (kind : Kind)
    (space : String) : Except StoreError (List α) :=
  (s.scanNamespace kind space).map (·.filterMap as)

/-- The record of a kind with a name, if it is of a sort. -/
def getAs? {α : Type} (s : Snapshot) (as : Resource → Option α) (kind : Kind) (fqn : Fqn) :
    Except StoreError (Option α) :=
  (s.get? kind fqn).map (·.bind as)

/-- The number of records of a kind. -/
def count (s : Snapshot) (kind : Kind) : Except StoreError Nat := (s.table kind).map (·.size)

/-- Whether a kind has been loaded. -/
def isLoaded (s : Snapshot) (kind : Kind) : Except StoreError Bool := (s.table kind).map (·.loaded)

/-- The namespaces that hold records of a kind, in order. -/
def namespaces (s : Snapshot) (kind : Kind) : Except StoreError (List String) :=
  (s.table kind).map (·.namespaces)

/-- The kinds that have a table, in order. -/
def kinds (s : Snapshot) : List Kind := s.tables.keys

end Snapshot

end ClusterAudit
