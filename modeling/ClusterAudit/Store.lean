import ClusterAudit.Store.Snapshot

/-!
# The store

The store publishes one snapshot at a time. A `Transaction` works on a copy of the tables it began
with; committing it publishes the copy under the next version, and forgetting it leaves no trace.
`Store.load` fills the table of a kind in one transaction, once: a kind that is loaded already is
left alone, and a batch with a record of another kind is refused as a whole.
-/

namespace ClusterAudit

/-- Changes on top of a snapshot, not yet published. -/
structure Transaction where
  tables : Tables
  /-- The version of the snapshot it began with. -/
  base : Nat
  deriving DecidableEq

namespace Transaction

/-- A transaction without changes. -/
def begin (s : Snapshot) : Transaction := ⟨s.tables, s.version⟩

/-- The transaction with the table of a kind changed. -/
def modifyTable (t : Transaction) (kind : Kind) (f : Table → Table) :
    Except StoreError Transaction :=
  (t.tables.table kind).map fun table => { t with tables := Dict.insert t.tables kind (f table) }

/-- The transaction with a record stored in the table of its kind, and whether the record took the
place of another. -/
def insert (t : Transaction) (r : Resource) : Except StoreError (Transaction × Bool) := do
  let table ← t.tables.table r.kind
  let t ← t.modifyTable r.kind (·.insert r)
  .ok (t, (table.get? r.fqn).isSome)

/-- Like `insert`, but a record of another kind than the given one is refused. -/
def insertInto (t : Transaction) (kind : Kind) (r : Resource) :
    Except StoreError (Transaction × Bool) :=
  if r.kind = kind then t.insert r else .error (.kindMismatch kind r.kind)

/-- The record of a kind with a name, changes included. -/
def get? (t : Transaction) (kind : Kind) (fqn : Fqn) : Except StoreError (Option Resource) :=
  (t.tables.table kind).map (·.get? fqn)

/-- Whether a kind has been loaded, changes included. -/
def isLoaded (t : Transaction) (kind : Kind) : Except StoreError Bool :=
  (t.tables.table kind).map (·.loaded)

/-- The transaction with a kind marked as loaded. -/
def markLoaded (t : Transaction) (kind : Kind) : Except StoreError Transaction :=
  t.modifyTable kind (·.markLoaded)

/-- The transaction with records stored in the table of a kind, one after the other. -/
def insertAllInto (t : Transaction) (kind : Kind) :
    List Resource → Except StoreError Transaction
  | [] => .ok t
  | r :: rest => do
    let (t, _) ← t.insertInto kind r
    t.insertAllInto kind rest

/-- The transaction with records stored in the tables of their kinds, one after the other. -/
def insertAll (t : Transaction) : List Resource → Except StoreError Transaction
  | [] => .ok t
  | r :: rest => do
    let (t, _) ← t.insert r
    t.insertAll rest

end Transaction

/-- The store: the kinds it has tables for, and the snapshot it publishes. -/
structure Store where
  registry : Registry
  published : Snapshot
  deriving DecidableEq

namespace Store

/-- A store with an empty table for every registered kind. -/
def create (r : Registry) : Store := ⟨r, .initial r⟩

instance : Inhabited Store := ⟨create default⟩

/-- The snapshot that a reader gets now. -/
def beginRead (s : Store) : Snapshot := s.published

/-- A transaction on the published snapshot. -/
def beginWrite (s : Store) : Transaction := .begin s.published

/-- The store with the changes of a transaction published. -/
def commit (s : Store) (t : Transaction) : Store :=
  { s with published := ⟨s.registry, t.tables, t.base + 1⟩ }

/-- The store with the records of a kind loaded, and whether that was done: a kind is loaded only
once. -/
def load (s : Store) (kind : Kind) (records : List Resource) :
    Except StoreError (Store × Bool) := do
  let t := s.beginWrite
  if ← t.isLoaded kind then .ok (s, false)
  else do
    let t ← t.insertAllInto kind records
    let t ← t.markLoaded kind
    .ok (s.commit t, true)

/-- A short description of the store. -/
def describe (s : Store) : String :=
  "Store \x7b kinds: " ++ toString s.registry.size ++ ", version: " ++
    toString s.published.version ++ " \x7d"

end Store

end ClusterAudit
