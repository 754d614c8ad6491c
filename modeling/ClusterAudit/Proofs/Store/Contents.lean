import ClusterAudit.Proofs.Store.Replay

/-!
# What a replay stores

After a replay the table of a kind is the one that the inserted records of the kind leave, taken in
order (`get?_applyAll`). It binds every name to the last record of that name (`get?_insertAll`), and
it indexes the name of every record under the namespace of that record, also of those that were
replaced since (`indexes_insertAll`).
-/

namespace ClusterAudit

namespace Change

/-- The record that a change stores in the table of a kind. -/
def record? (kind : Kind) : Change → Option Resource
  | insert r => if r.kind = kind then some r else none
  | markLoaded _ => none

/-- The records that changes store in the table of a kind, in order. -/
def inserted (kind : Kind) (changes : List Change) : List Resource :=
  changes.filterMap (record? kind)

end Change

/-- The last record of a name. -/
def latest? (fqn : Fqn) (records : List Resource) : Option Resource :=
  records.reverse.find? (·.fqn = fqn)

section latest
variable {fqn : Fqn} {r : Resource} {records : List Resource}

theorem latest?_cons (fqn : Fqn) (r : Resource) (records : List Resource) :
    latest? fqn (r :: records) =
      (latest? fqn records).or (if r.fqn = fqn then some r else none) := by
  rw [latest?, List.reverse_cons, List.find?_append]
  by_cases h : r.fqn = fqn <;> simp [latest?, h]

/-- The last record of a name has that name. -/
theorem fqn_of_latest? (h : latest? fqn records = some r) : r.fqn = fqn := by
  simpa using List.find?_some h

/-- The last record of a name is one of the records. -/
theorem mem_of_latest? (h : latest? fqn records = some r) : r ∈ records :=
  List.mem_reverse.1 (List.mem_of_find?_eq_some h)

/-- Every record's name has a last record. -/
theorem exists_latest? (h : r ∈ records) : ∃ l, latest? r.fqn records = some l := by
  rw [← Option.isSome_iff_exists, latest?, List.find?_isSome]
  exact ⟨r, List.mem_reverse.2 h, by simp⟩

end latest

namespace Table

/-- The table with records stored one after the other. -/
def insertAll (t : Table) (records : List Resource) : Table := records.foldl insert t

/-- The index lists a name under a namespace. -/
def Indexes (t : Table) (space : String) (fqn : Fqn) : Prop :=
  fqn ∈ ((t.index.get? space).getD ∅).keys

/-- Storing a record binds its name. -/
theorem get?_insert (t : Table) (r : Resource) (fqn : Fqn) :
    (t.insert r).get? fqn = if r.fqn = fqn then some r else t.get? fqn := by
  by_cases h : r.fqn = fqn
  · rw [if_pos h, ← h]
    exact Dict.get?_insert_self _ _ _
  · rw [if_neg h]
    exact Dict.get?_insert_of_ne (Ne.symm h) _

/-- Storing a record adds its name to the index of its namespace and removes nothing. -/
theorem indexes_insert (t : Table) (r : Resource) (space : String) (fqn : Fqn) :
    (t.insert r).Indexes space fqn ↔ t.Indexes space fqn ∨ r.space = space ∧ r.fqn = fqn := by
  rw [Indexes, Indexes, Dict.mem_keys_iff, Dict.mem_keys_iff, insert]
  by_cases hs : r.space = space
  · subst hs
    rw [Dict.get?_alter_self, Option.getD_some]
    by_cases hf : r.fqn = fqn
    · subst hf
      simp
    · rw [Dict.get?_insert_of_ne (Ne.symm hf)]
      simp [hf]
  · rw [Dict.get?_alter_of_ne (Ne.symm hs)]
    simp [hs]

/-- Storing a record adds its namespace to those of the index and removes none. -/
theorem mem_namespaces_insert (t : Table) (r : Resource) (space : String) :
    space ∈ (t.insert r).namespaces ↔ space ∈ t.namespaces ∨ r.space = space := by
  rw [namespaces, namespaces, Dict.mem_keys_iff, Dict.mem_keys_iff, insert]
  by_cases hs : r.space = space
  · subst hs
    simp
  · rw [Dict.get?_alter_of_ne (Ne.symm hs)]
    simp [hs]

/-- A name is bound to its last record. -/
theorem get?_insertAll (t : Table) (records : List Resource) (fqn : Fqn) :
    (t.insertAll records).get? fqn = (latest? fqn records).or (t.get? fqn) := by
  induction records generalizing t with
  | nil => rfl
  | cons r rest ih =>
    rw [insertAll, List.foldl_cons, ← insertAll, ih, get?_insert, latest?_cons, Option.or_assoc]
    by_cases h : r.fqn = fqn <;> simp [h]

/-- The index lists the name of every record that was stored under the namespace of the record. -/
theorem indexes_insertAll (t : Table) (records : List Resource) (space : String) (fqn : Fqn) :
    (t.insertAll records).Indexes space fqn ↔
      t.Indexes space fqn ∨ ∃ r ∈ records, r.space = space ∧ r.fqn = fqn := by
  induction records generalizing t with
  | nil => simp [insertAll]
  | cons r rest ih =>
    rw [insertAll, List.foldl_cons, ← insertAll, ih, indexes_insert]
    simp [or_assoc]

/-- The index lists the namespace of every record that was stored. -/
theorem mem_namespaces_insertAll (t : Table) (records : List Resource) (space : String) :
    space ∈ (t.insertAll records).namespaces ↔
      space ∈ t.namespaces ∨ ∃ r ∈ records, r.space = space := by
  induction records generalizing t with
  | nil => simp [insertAll]
  | cons r rest ih =>
    rw [insertAll, List.foldl_cons, ← insertAll, ih, mem_namespaces_insert]
    simp [or_assoc]

/-- It does not matter when a table is marked as loaded. -/
theorem insertAll_markLoaded (t : Table) (records : List Resource) :
    t.markLoaded.insertAll records = (t.insertAll records).markLoaded := by
  induction records generalizing t with
  | nil => rfl
  | cons r rest ih => exact ih (t.insert r)

/-- Records do not change whether a table is loaded. -/
theorem loaded_insertAll (t : Table) (records : List Resource) :
    (t.insertAll records).loaded = t.loaded := by
  induction records generalizing t with
  | nil => rfl
  | cons r rest ih => exact ih (t.insert r)

/-- Records are listed in the order of the names they are bound to. -/
theorem mem_scan_iff (t : Table) (r : Resource) : r ∈ t.scan ↔ ∃ fqn, t.get? fqn = some r :=
  Dict.mem_values_iff

/-- The table that records leave, taken in order. -/
def ofRecords (records : List Resource) : Table := empty.insertAll records

section ofRecords
variable {records : List Resource} {r : Resource}

/-- Every record is bound to its own name. -/
theorem get?_ofRecords (fqn : Fqn) : (ofRecords records).get? fqn = latest? fqn records := by
  rw [ofRecords, get?_insertAll]
  exact Option.or_none

/-- The records of the table are the last ones of their names. -/
theorem mem_scan_ofRecords : r ∈ (ofRecords records).scan ↔ latest? r.fqn records = some r := by
  rw [mem_scan_iff]
  constructor
  · rintro ⟨fqn, h⟩
    rw [get?_ofRecords] at h
    rwa [fqn_of_latest? h]
  · intro h
    exact ⟨r.fqn, by rw [get?_ofRecords, h]⟩

end ofRecords

end Table

/-! ## Tables of a replay -/

namespace Change

/-- A record is inserted in the table of its own kind. -/
theorem inserted_insert (r : Resource) (rest : List Change) :
    inserted r.kind (insert r :: rest) = r :: inserted r.kind rest :=
  List.filterMap_cons_some (if_pos rfl)

/-- A mark inserts nothing. -/
theorem inserted_markLoaded (kind other : Kind) (rest : List Change) :
    inserted kind (markLoaded other :: rest) = inserted kind rest :=
  List.filterMap_cons_none rfl

/-- A change to another kind inserts nothing. -/
theorem inserted_of_ne {c : Change} {kind : Kind} (h : kind ≠ c.kind) (rest : List Change) :
    inserted kind (c :: rest) = inserted kind rest := by
  cases c with
  | insert r => exact List.filterMap_cons_none (if_neg (Ne.symm h))
  | markLoaded other => exact inserted_markLoaded kind other rest

/-- The effect of changes on the table of a kind: the records of that kind are stored in order, and
the table is loaded if one of the changes says so. -/
theorem get?_applyAll (ts : Tables) (changes : List Change) (kind : Kind) :
    Dict.get? (applyAll ts changes) kind = (Dict.get? ts kind).map fun t =>
      if .markLoaded kind ∈ changes then (t.insertAll (inserted kind changes)).markLoaded
      else t.insertAll (inserted kind changes) := by
  induction changes generalizing ts with
  | nil => simp [applyAll, inserted, Table.insertAll]
  | cons c rest ih =>
    rw [applyAll_cons, ih]
    by_cases h : kind = c.kind
    · subst h
      rw [get?_apply_self, Option.map_map]
      congr 1
      funext t
      cases c with
      | insert r =>
        simp only [Function.comp_apply, onTable, Change.kind, List.mem_cons, reduceCtorEq, false_or,
          inserted_insert, Table.insertAll, List.foldl_cons]
        congr
      | markLoaded kind =>
        simp only [Function.comp_apply, onTable, Change.kind, List.mem_cons, true_or, if_true,
          inserted_markLoaded, Table.insertAll_markLoaded]
        split <;> rfl
    · have hne : markLoaded kind ≠ c := fun hc => h (hc ▸ rfl)
      simp only [get?_apply_of_ne h, List.mem_cons, hne, false_or, inserted_of_ne h]

end Change

/-- The records of a kind that a log of transactions inserts, in order. -/
def recordsOf (kind : Kind) (log : List (List Change)) : List Resource :=
  Change.inserted kind log.flatten

/-- After a replay a registered kind has the table of its inserted records, loaded or not, and no
other kind has any. -/
theorem Snapshot.table_replay (r : Registry) (log : List (List Change)) (kind : Kind) :
    (replay r log).table kind =
      if r.contains kind then .ok (if .markLoaded kind ∈ log.flatten
        then (Table.ofRecords (recordsOf kind log)).markLoaded
        else Table.ofRecords (recordsOf kind log))
      else .error (.unknownKind kind) := by
  rw [replay, table, Tables.table, Tables.replay, Change.get?_applyAll, Tables.ofRegistry,
    Dict.get?_map, Registry.contains, Dict.contains]
  cases r.kinds.get? kind with
  | none => rfl
  | some u => rfl

/-- What a replay answers from the table of a kind, unless the answer tells whether the kind is
loaded. -/
theorem Snapshot.map_table_replay {α : Type} (r : Registry) (log : List (List Change)) (kind : Kind)
    {f : Table → α} (hf : ∀ t, f t.markLoaded = f t) :
    ((replay r log).table kind).map f =
      if r.contains kind then .ok (f (Table.ofRecords (recordsOf kind log)))
      else .error (.unknownKind kind) := by
  rw [table_replay]
  split
  · split
    · exact congrArg Except.ok (hf _)
    · rfl
  · rfl

namespace Snapshot

variable (r : Registry) (log : List (List Change)) (kind : Kind)

/-- The records that a replay lists. -/
theorem scan_replay : (replay r log).scan kind =
    if r.contains kind then .ok (Table.ofRecords (recordsOf kind log)).scan
    else .error (.unknownKind kind) :=
  map_table_replay r log kind fun _ => rfl

/-- The records that a replay lists for a namespace. -/
theorem scanNamespace_replay (space : String) : (replay r log).scanNamespace kind space =
    if r.contains kind then .ok ((Table.ofRecords (recordsOf kind log)).scanNamespace space)
    else .error (.unknownKind kind) :=
  map_table_replay r log kind fun _ => rfl

/-- The record that a replay has of a name. -/
theorem get?_replay (fqn : Fqn) : (replay r log).get? kind fqn =
    if r.contains kind then .ok (latest? fqn (recordsOf kind log))
    else .error (.unknownKind kind) := by
  rw [← Table.get?_ofRecords]
  exact map_table_replay r log kind (f := (·.get? fqn)) fun _ => rfl

/-- The namespaces that a replay lists. -/
theorem namespaces_replay : (replay r log).namespaces kind =
    if r.contains kind then .ok (Table.ofRecords (recordsOf kind log)).namespaces
    else .error (.unknownKind kind) :=
  map_table_replay r log kind fun _ => rfl

end Snapshot

end ClusterAudit
