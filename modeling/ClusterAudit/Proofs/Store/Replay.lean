import ClusterAudit.Proofs.Dict
import ClusterAudit.Proofs.Result
import ClusterAudit.Store

/-!
# Changes and their replay

A `Change` is what a transaction can do to the table of one kind: store a record, or mark the kind
as loaded. `Snapshot.replay` is the snapshot that a log of transactions amounts to: the changes of
each of them, in full and in order, on the empty tables of a registry, with one version for each.

Every operation of a `Transaction` that succeeds applies one change to its tables and keeps its base
(`Transaction.eq_of_insert`, `Transaction.eq_of_insertInto`, `Transaction.eq_of_markLoaded`).
-/

namespace ClusterAudit

/-- What a transaction can do to the table of one kind. -/
inductive Change where
  /-- Store a record in the table of its kind. -/
  | insert (r : Resource)
  /-- Mark a kind as loaded. -/
  | markLoaded (kind : Kind)
  deriving DecidableEq

namespace Change

/-- The kind whose table changes. -/
def kind : Change → Kind
  | insert r => r.kind
  | markLoaded kind => kind

/-- What becomes of that table. -/
def onTable : Change → Table → Table
  | insert r, t => t.insert r
  | markLoaded _, t => t.markLoaded

/-- The tables with the change made; without a table of the kind nothing changes. -/
def apply (c : Change) (ts : Tables) : Tables := Dict.modify ts c.kind c.onTable

/-- The tables with changes made one after the other. -/
def applyAll (ts : Tables) (changes : List Change) : Tables :=
  changes.foldl (fun ts c => c.apply ts) ts

/-- The changes of a load: every record, then the mark. -/
def ofLoad (kind : Kind) (records : List Resource) : List Change :=
  records.map insert ++ [markLoaded kind]

@[simp] theorem applyAll_cons (ts : Tables) (c : Change) (cs : List Change) :
    applyAll ts (c :: cs) = applyAll (c.apply ts) cs := rfl

theorem applyAll_append (ts : Tables) (cs ds : List Change) :
    applyAll ts (cs ++ ds) = applyAll (applyAll ts cs) ds :=
  List.foldl_append

/-- The changed kind has the changed table. -/
@[simp] theorem get?_apply_self (c : Change) (ts : Tables) :
    Dict.get? (c.apply ts) c.kind = (Dict.get? ts c.kind).map c.onTable :=
  Dict.get?_modify_self ts c.kind c.onTable

/-- Every other kind keeps its table. -/
theorem get?_apply_of_ne {c : Change} {kind : Kind} (h : kind ≠ c.kind) (ts : Tables) :
    Dict.get? (c.apply ts) kind = Dict.get? ts kind :=
  Dict.get?_modify_of_ne h c.onTable

/-- Changes neither add nor remove a table. -/
theorem isSome_get?_applyAll (ts : Tables) (changes : List Change) (kind : Kind) :
    (Dict.get? (applyAll ts changes) kind).isSome = (Dict.get? ts kind).isSome := by
  induction changes generalizing ts with
  | nil => rfl
  | cons c rest ih =>
    rw [applyAll_cons, ih]
    by_cases h : kind = c.kind
    · subst h
      rw [get?_apply_self, Option.isSome_map]
    · rw [get?_apply_of_ne h]

end Change

/-- The tables after changes on the empty tables of a registry. -/
def Tables.replay (r : Registry) (changes : List Change) : Tables :=
  Change.applyAll (.ofRegistry r) changes

/-- The snapshot that a log of transactions amounts to, each being the changes it made. -/
def Snapshot.replay (r : Registry) (log : List (List Change)) : Snapshot :=
  ⟨r, Tables.replay r log.flatten, log.length⟩

theorem Tables.replay_append (r : Registry) (cs ds : List Change) :
    replay r (cs ++ ds) = Change.applyAll (replay r cs) ds :=
  Change.applyAll_append _ _ _

/-- One more transaction makes its changes after those of the log and has the next version. -/
theorem Snapshot.replay_concat (r : Registry) (log : List (List Change)) (changes : List Change) :
    replay r (log ++ [changes]) =
      ⟨r, Tables.replay r (log.flatten ++ changes), log.length + 1⟩ := by
  rw [replay, List.flatten_append, List.flatten_singleton, List.length_append]
  rfl

/-- A replay has a table for every registered kind and no other. -/
theorem Tables.isSome_get?_replay (r : Registry) (changes : List Change) (kind : Kind) :
    (Dict.get? (replay r changes) kind).isSome = r.contains kind := by
  rw [replay, Change.isSome_get?_applyAll, ofRegistry, Dict.get?_map, Option.isSome_map]
  rfl

/-! ## The operations of a transaction -/

/-- Asking for a table succeeds with the one that is bound to the kind. -/
theorem Tables.table_eq_ok_iff {ts : Tables} {kind : Kind} {t : Table} :
    ts.table kind = .ok t ↔ Dict.get? ts kind = some t := by
  rw [Tables.table]
  split <;> simp_all

namespace Transaction

/-- The transaction with a change made to its tables. -/
def apply (t : Transaction) (c : Change) : Transaction := { t with tables := c.apply t.tables }

/-- A table that is there can be changed. -/
theorem modifyTable_of_isSome {t : Transaction} {kind : Kind} (f : Table → Table)
    (h : (Dict.get? t.tables kind).isSome) :
    ∃ t', t.modifyTable kind f = .ok t' := by
  obtain ⟨table, ht⟩ := Option.isSome_iff_exists.1 h
  rw [modifyTable, Tables.table_eq_ok_iff.2 ht]
  exact ⟨_, rfl⟩

/-- A table that is changed is changed in place. -/
theorem eq_of_modifyTable {t t' : Transaction} {kind : Kind} {f : Table → Table}
    (h : t.modifyTable kind f = .ok t') :
    t' = { t with tables := Dict.modify t.tables kind f } := by
  obtain ⟨table, ht, rfl⟩ := map_eq_ok_iff.1 h
  rw [Dict.modify, Dict.insert, Dict.alter_congr]
  simp [Tables.table_eq_ok_iff.1 ht]

/-- A record is stored wherever there is a table of its kind. -/
theorem insert_eq_map (t : Transaction) (r : Resource) :
    t.insert r = (t.tables.table r.kind).map fun table =>
      ({ t with tables := Dict.insert t.tables r.kind (table.insert r) },
        (table.get? r.fqn).isSome) := by
  rw [insert, modifyTable]
  cases t.tables.table r.kind with
  | error e => rfl
  | ok table => rfl

/-- A record that is stored makes one change. -/
theorem eq_of_insert {t t' : Transaction} {r : Resource} {replaced : Bool}
    (h : t.insert r = .ok (t', replaced)) : t' = t.apply (.insert r) := by
  obtain ⟨table, _, h⟩ := bind_eq_ok_iff.1 h
  obtain ⟨u, hu, h⟩ := bind_eq_ok_iff.1 h
  cases h
  exact eq_of_modifyTable hu

/-- A record that is stored in the table of a given kind is of that kind and makes one change. -/
theorem eq_of_insertInto {t t' : Transaction} {kind : Kind} {r : Resource} {replaced : Bool}
    (h : t.insertInto kind r = .ok (t', replaced)) : t' = t.apply (.insert r) := by
  rw [insertInto] at h
  split at h
  · exact eq_of_insert h
  · cases h

/-- A kind that is marked as loaded makes one change. -/
theorem eq_of_markLoaded {t t' : Transaction} {kind : Kind} (h : t.markLoaded kind = .ok t') :
    t' = t.apply (.markLoaded kind) :=
  eq_of_modifyTable h

/-- A record of a kind that has a table can be stored. -/
theorem insert_of_isSome {t : Transaction} {r : Resource}
    (h : (Dict.get? t.tables r.kind).isSome) :
    ∃ replaced, t.insert r = .ok (t.apply (.insert r), replaced) := by
  obtain ⟨table, ht⟩ := Option.isSome_iff_exists.1 h
  obtain ⟨t', ht'⟩ := modifyTable_of_isSome (·.insert r) h
  have hinsert : t.insert r = .ok (t', (table.get? r.fqn).isSome) := by
    rw [insert, Tables.table_eq_ok_iff.2 ht]
    show (t.modifyTable r.kind (·.insert r) >>= fun t => _) = _
    rw [ht']
    rfl
  exact ⟨_, eq_of_insert hinsert ▸ hinsert⟩

/-- A kind that has a table can be marked as loaded. -/
theorem markLoaded_of_isSome {t : Transaction} {kind : Kind}
    (h : (Dict.get? t.tables kind).isSome) :
    t.markLoaded kind = .ok (t.apply (.markLoaded kind)) := by
  obtain ⟨t', ht'⟩ := modifyTable_of_isSome (·.markLoaded) h
  have hmark : t.markLoaded kind = .ok t' := ht'
  rw [hmark, eq_of_markLoaded hmark]

end Transaction

end ClusterAudit
