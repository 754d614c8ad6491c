import ClusterAudit.Proofs.Store.Index
import ClusterAudit.Proofs.Text.Order
import Mathlib.Data.Finset.Card

/-!
# What transactions keep of a history

A history is the list of records that were inserted, of all kinds and in order. A snapshot keeps of
it, for each kind, the last record of every name, and lists these by the octets of their names
(`Snapshot.Keeps`); an open transaction sees the same of the history that its own insertions are
added to, and an insertion tells whether it replaces a record (`Transaction.Keeps`).
`Schedule.keeps_inserted` says so of every run.
-/

namespace ClusterAudit

/-- There is a last record of a name if there is a record of that name. -/
theorem isSome_latest?_iff {fqn : Fqn} {records : List Resource} :
    (latest? fqn records).isSome ↔ fqn ∈ records.map Resource.fqn := by
  rw [List.mem_map, Option.isSome_iff_exists]
  constructor
  · rintro ⟨x, hx⟩
    exact ⟨x, mem_of_latest? hx, fqn_of_latest? hx⟩
  · rintro ⟨x, hx, rfl⟩
    exact exists_latest? hx

/-- A snapshot keeps of a kind the last one of the inserted records of each name. -/
structure Snapshot.Keeps (s : Snapshot) (kind : Kind) (inserted : List Resource) : Prop where
  get? : ∀ fqn, s.get? kind fqn = .ok (latest? fqn inserted)
  /-- It lists them by the octets of their names, each once. -/
  scan : ∃ records, s.scan kind = .ok records ∧
    records.Pairwise (fun a b => Text.octets a.fqn.text < Text.octets b.fqn.text) ∧
    ∀ fqn x, s.get? kind fqn = .ok (some x) ↔ x ∈ records ∧ x.fqn = fqn
  count : s.count kind = .ok (inserted.map Resource.fqn).toFinset.card

/-- A transaction keeps of a kind the last one of the inserted records of each name, and tells of
one more record whether there is one of its name. -/
structure Transaction.Keeps (t : Transaction) (kind : Kind) (inserted : List Resource) : Prop where
  get? : ∀ fqn, t.get? kind fqn = .ok (latest? fqn inserted)
  insert : ∀ x : Resource, x.kind = kind →
    (t.insert x).map (·.2) = .ok (decide (x.fqn ∈ inserted.map Resource.fqn))

/-! ## One table -/

namespace Table

variable {records : List Resource}

/-- The table has one record for each of the names. -/
theorem size_ofRecords :
    (ofRecords records).size = (records.map Resource.fqn).toFinset.card := by
  have hnodup : (ofRecords records).records.keys.Nodup :=
    (Dict.ascending_keys _).imp fun {f g} hlt heq => by simp [heq] at hlt
  have hkeys : (ofRecords records).records.keys.toFinset =
      (records.map Resource.fqn).toFinset := by
    ext fqn
    rw [List.mem_toFinset, List.mem_toFinset, Dict.mem_keys_iff, ← isSome_latest?_iff,
      ← get?_ofRecords]
    rfl
  rw [← hkeys, List.toFinset_card_of_nodup hnodup]
  exact (List.length_map _).symm

/-- The table lists its records by the octets of their names. -/
theorem octets_scan_ofRecords : (ofRecords records).scan.Pairwise fun a b =>
    Text.octets a.fqn.text < Text.octets b.fqn.text :=
  ascending_scan_ofRecords.imp fun hlt => (Text.compare_eq_lt_iff _ _).1 hlt

end Table

/-- An insertion tells whether there was a record of the name. -/
theorem Transaction.map_insert (t : Transaction) (x : Resource) :
    (t.insert x).map (·.2) = (t.get? x.kind x.fqn).map Option.isSome := by
  rw [insert_eq_map, get?]
  cases t.tables.table x.kind with
  | error e => rfl
  | ok table => rfl

/-! ## Replays -/

section replay
variable {r : Registry} {kind : Kind} (hkind : r.contains kind)
include hkind

/-- A replay keeps of a registered kind what its log inserts. -/
theorem Snapshot.keeps_replay (log : List (List Change)) :
    (replay r log).Keeps kind (recordsOf kind log) where
  get? fqn := (get?_replay r log kind fqn).trans (if_pos hkind)
  scan := by
    refine ⟨_, (scan_replay r log kind).trans (if_pos hkind), Table.octets_scan_ofRecords,
      fun fqn x => ?_⟩
    rw [get?_replay, if_pos hkind, Except.ok.injEq, Table.mem_scan_ofRecords]
    constructor
    · intro h
      obtain rfl := fqn_of_latest? h
      exact ⟨h, rfl⟩
    · rintro ⟨h, rfl⟩
      exact h
  count := by
    rw [← Table.size_ofRecords]
    exact (map_table_replay r log kind (f := (·.size)) fun _ => rfl).trans (if_pos hkind)

/-- A transaction whose tables are a replay keeps of a registered kind what its log inserts. -/
theorem Transaction.keeps_of_replay {t : Transaction} {log : List (List Change)}
    (h : t.tables = Tables.replay r log.flatten) : t.Keeps kind (recordsOf kind log) := by
  have hget : ∀ fqn, t.get? kind fqn = .ok (latest? fqn (recordsOf kind log)) := fun fqn => by
    rw [Transaction.get?, h]
    exact (Snapshot.keeps_replay hkind log).get? fqn
  refine ⟨hget, ?_⟩
  rintro x rfl
  rw [map_insert, hget]
  exact congrArg Except.ok (Bool.eq_iff_iff.2 (isSome_latest?_iff.trans decide_eq_true_iff.symm))

end replay

/-! ## Runs -/

/-- After every schedule of the clients' requests: the published snapshot and every snapshot that
was opened for reading keep of each registered kind what the transactions inserted that were
committed by its version; and an open transaction keeps what all committed ones and, after these,
itself inserted. -/
theorem Schedule.keeps_inserted (r : Registry) (schedule : Schedule) :
    let s := reach r schedule
    let log := committed r schedule
    (∀ q ∈ s.store.published :: s.readers, ∀ kind, r.contains kind →
      q.Keeps kind (recordsOf kind (log.take q.version))) ∧
    ∀ c t, s.writer = some ⟨c, t, none⟩ → ∀ kind, r.contains kind →
      t.Keeps kind (recordsOf kind (log ++ [(run r schedule).2.pending])) := by
  intro s log
  have h : s.Follows r (run r schedule).2 := follows_run r schedule
  refine ⟨fun q hq kind hkind => ?_, fun c t hw kind hkind => ?_⟩
  · have hreplay : q = .replay r (log.take q.version) := h.eq_replay hq
    have hkeeps := Snapshot.keeps_replay hkind (log.take q.version)
    rwa [← hreplay] at hkeeps
  · refine Transaction.keeps_of_replay hkind ?_
    rw [List.flatten_append, List.flatten_singleton]
    exact h.tables _ hw

end ClusterAudit
