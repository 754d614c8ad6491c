import ClusterAudit.Proofs.Name
import ClusterAudit.Proofs.Store.Contents
import ClusterAudit.Proofs.Store.Isolation

/-!
# The namespace index

A table keeps an index from namespaces to names beside its records, and storing a record in place of
another adds to the index without taking anything away. That is sound as long as two records of one
name are of one namespace. `Schedule.indexAgrees_iff` says that nothing else is needed, and
`FixesSpace.of_slashFree` that it holds where namespaces are free of slashes: a name is the
namespace and the bare name joined by a slash, so `a/b/c` can come from two namespaces.
-/

namespace ClusterAudit

/-- Records of one name are of one namespace. -/
def FixesSpace (records : List Resource) : Prop :=
  ∀ a ∈ records, ∀ b ∈ records, a.fqn = b.fqn → a.space = b.space

/-- The names of records within slash-free namespaces tell the namespace, if the names of those
outside all namespaces are free of slashes as well. -/
theorem FixesSpace.of_slashFree {records : List Resource}
    (hspace : ∀ r ∈ records, '/' ∉ r.space.toList)
    (hname : ∀ r ∈ records, r.space = "" → '/' ∉ r.name.toList) : FixesSpace records := by
  intro a ha b hb hab
  have hparts : (Fqn.join a.space a.name).parts = (Fqn.join b.space b.name).parts :=
    congrArg Fqn.parts hab
  rw [Fqn.parts_join (hspace a ha) (hname a ha), Fqn.parts_join (hspace b hb) (hname b hb)]
    at hparts
  exact congrArg Prod.fst hparts

/-- Records of one name do not leave a namespace: where one is of the namespace, the last one is. -/
def StaysIn (space : String) (records : List Resource) : Prop :=
  ∀ a ∈ records, a.space = space → ∀ b, latest? a.fqn records = some b → b.space = space

/-- Records of one name are of one namespace if they leave none. -/
theorem fixesSpace_iff {records : List Resource} :
    FixesSpace records ↔ ∀ space, StaysIn space records := by
  constructor
  · rintro h space a ha rfl b hb
    exact h b (mem_of_latest? hb) a ha (fqn_of_latest? hb)
  · intro h a ha b hb hab
    obtain ⟨l, hl⟩ := exists_latest? ha
    rw [← h _ a ha rfl l hl, h _ b hb rfl l (hab ▸ hl)]

/-- If the last records of their names tell their parts, none leaves a namespace that can be told.
-/
theorem StaysIn.of_plain {records : List Resource} {space : String}
    (hplain : ∀ b, latest? b.fqn records = some b → Fqn.Plain b.space b.name)
    (hspace : '/' ∉ space.toList) (hne : space ≠ "") : StaysIn space records := by
  rintro a - rfl b hb
  have hfqn : b.fqn = a.fqn := fqn_of_latest? hb
  have hparts := (hplain b (hfqn ▸ hb)).eq_of_join ⟨hspace, fun h => absurd h hne⟩ hfqn
  exact congrArg Prod.fst hparts

/-! ## One table -/

namespace Table

/-- The index of a table agrees with its records: it lists the records of every namespace in name
order, and in order those namespaces that have records. -/
structure IndexAgrees (t : Table) : Prop where
  scanNamespace : ∀ space, t.scanNamespace space = t.scan.filter (·.space = space)
  ascending : t.namespaces.Pairwise fun a b => compare a b = .lt
  mem_namespaces : ∀ space, space ∈ t.namespaces ↔ ∃ r ∈ t.scan, r.space = space

section ofRecords
variable {records : List Resource} {r : Resource} {space : String}

/-- The index lists a record for the namespaces of all records of its name. -/
theorem mem_scanNamespace_ofRecords : r ∈ (ofRecords records).scanNamespace space ↔
    latest? r.fqn records = some r ∧ ∃ a ∈ records, a.space = space ∧ a.fqn = r.fqn := by
  rw [Table.scanNamespace, List.mem_filterMap]
  constructor
  · rintro ⟨fqn, hfqn, h⟩
    have h : latest? fqn records = some r := by rwa [← get?_ofRecords]
    obtain rfl := fqn_of_latest? h
    rcases (indexes_insertAll _ _ _ _).1 hfqn with he | ha
    · simp [Indexes, empty, Dict.mem_keys_iff] at he
    · exact ⟨h, ha⟩
  · rintro ⟨h, ha⟩
    refine ⟨r.fqn, (indexes_insertAll _ _ _ _).2 (.inr ha), ?_⟩
    exact (get?_ofRecords r.fqn).trans h

/-- The records of the table ascend in their names. -/
theorem ascending_scan_ofRecords : (ofRecords records).scan.Pairwise fun a b =>
    compare a.fqn b.fqn = .lt := by
  have hkey : ∀ e ∈ (ofRecords records).records.entries, e.2.fqn = e.1 := fun e he =>
    fqn_of_latest? ((get?_ofRecords e.1).symm.trans (Dict.mem_entries_iff.1 he))
  refine List.pairwise_map.2 (List.Pairwise.imp_of_mem (fun {e o} he ho hlt => ?_)
    (ofRecords records).records.ascending)
  rwa [hkey e he, hkey o ho]

/-- What the index lists ascends in its names. -/
theorem ascending_scanNamespace_ofRecords :
    ((ofRecords records).scanNamespace space).Pairwise fun a b => compare a.fqn b.fqn = .lt := by
  refine List.pairwise_filterMap.2 ((Dict.ascending_keys _).imp fun {f g} hlt a ha b hb => ?_)
  rw [fqn_of_latest? ((get?_ofRecords f).symm.trans ha),
    fqn_of_latest? ((get?_ofRecords g).symm.trans hb)]
  exact hlt

/-- The index lists the records of a namespace exactly if no record leaves it. -/
theorem scanNamespace_ofRecords_iff : (ofRecords records).scanNamespace space =
    (ofRecords records).scan.filter (·.space = space) ↔ StaysIn space records := by
  constructor
  · rintro h a ha rfl b hb
    have hfqn := fqn_of_latest? hb
    have hmem : b ∈ (ofRecords records).scanNamespace a.space :=
      mem_scanNamespace_ofRecords.2 ⟨by rw [hfqn, hb], a, ha, rfl, hfqn.symm⟩
    rw [h] at hmem
    simpa using (List.mem_filter.1 hmem).2
  · intro h
    refine eq_of_ascending Resource.fqn ascending_scanNamespace_ofRecords
      (ascending_scan_ofRecords.filter _) fun r => ?_
    rw [mem_scanNamespace_ofRecords, List.mem_filter, mem_scan_ofRecords, decide_eq_true_iff]
    refine and_congr_right fun hr => ?_
    constructor
    · rintro ⟨a, ha, hspace, hfqn⟩
      exact h a ha hspace r (hfqn ▸ hr)
    · intro hspace
      exact ⟨r, mem_of_latest? hr, hspace, rfl⟩

/-- The index of a table agrees with its records exactly if the records that were stored, also those
that were replaced since, are of one namespace where they are of one name. -/
theorem indexAgrees_ofRecords_iff : (ofRecords records).IndexAgrees ↔ FixesSpace records := by
  rw [fixesSpace_iff]
  constructor
  · exact fun h space => scanNamespace_ofRecords_iff.1 (h.scanNamespace space)
  · intro h
    refine ⟨fun space => scanNamespace_ofRecords_iff.2 (h space), Dict.ascending_keys _,
      fun space => ?_⟩
    rw [ofRecords, mem_namespaces_insertAll, ← ofRecords]
    constructor
    · rintro (he | ⟨a, ha, hspace⟩)
      · exact absurd he List.not_mem_nil
      · obtain ⟨l, hl⟩ := exists_latest? ha
        refine ⟨l, mem_scan_ofRecords.2 (by rw [fqn_of_latest? hl, hl]), ?_⟩
        exact h space a ha hspace l hl
    · rintro ⟨r, hr, hspace⟩
      exact .inr ⟨r, mem_of_latest? (mem_scan_ofRecords.1 hr), hspace⟩

end ofRecords

end Table

/-! ## Any store -/

/-- The index of a kind agrees with its records: for every namespace it lists the records of that
namespace in the order in which the kind lists them, and it lists in order, each once, the
namespaces of its records. -/
structure Snapshot.IndexAgrees (s : Snapshot) (kind : Kind) : Prop where
  scanNamespace : ∀ space,
    s.scanNamespace kind space = (s.scan kind).map (·.filter (·.space = space))
  namespaces : ∀ records spaces, s.scan kind = .ok records → s.namespaces kind = .ok spaces →
    spaces.Pairwise (compare · · = .lt) ∧ ∀ space, space ∈ spaces ↔ ∃ r ∈ records, r.space = space

/-- After a replay the index of a registered kind agrees with its records if that of the table of
its inserted records does. -/
theorem Snapshot.indexAgrees_replay (r : Registry) (log : List (List Change)) (kind : Kind) :
    (replay r log).IndexAgrees kind ↔
      (r.contains kind → (Table.ofRecords (recordsOf kind log)).IndexAgrees) := by
  cases hr : r.contains kind with
  | false =>
    have hscan : (replay r log).scan kind = .error (.unknownKind kind) := by
      rw [scan_replay, hr]
      rfl
    refine iff_of_true ⟨fun space => ?_, fun records spaces hrecords => ?_⟩ nofun
    · rw [hscan, scanNamespace_replay, hr]
      rfl
    · cases hscan.symm.trans hrecords
  | true =>
    have hscan : (replay r log).scan kind = .ok (Table.ofRecords (recordsOf kind log)).scan := by
      rw [scan_replay, hr, if_pos rfl]
    have hnames : (replay r log).namespaces kind =
        .ok (Table.ofRecords (recordsOf kind log)).namespaces := by
      rw [namespaces_replay, hr, if_pos rfl]
    rw [forall_prop_of_true rfl]
    constructor
    · intro h
      obtain ⟨hascending, hmem⟩ := h.namespaces _ _ hscan hnames
      refine ⟨fun space => ?_, hascending, hmem⟩
      have heq := h.scanNamespace space
      rw [hscan, scanNamespace_replay, hr, if_pos rfl] at heq
      exact Except.ok.inj heq
    · intro h
      refine ⟨fun space => ?_, fun records spaces hrecords hspaces => ?_⟩
      · rw [hscan, scanNamespace_replay, hr, if_pos rfl, h.scanNamespace]
        rfl
      · cases hscan.symm.trans hrecords
        cases hnames.symm.trans hspaces
        exact ⟨h.ascending, h.mem_namespaces⟩

namespace Schedule

/-- After every schedule the index of a kind agrees with its records exactly if the committed
records of the kind, also those that were replaced since, are of one namespace where they are of one
name. -/
theorem indexAgrees_iff (r : Registry) (schedule : Schedule) (kind : Kind) :
    (reach r schedule).store.published.IndexAgrees kind ↔
      (r.contains kind → FixesSpace (recordsOf kind (committed r schedule))) := by
  rw [(follows_run r schedule).published, Snapshot.indexAgrees_replay]
  exact forall_congr' fun _ => Table.indexAgrees_ofRecords_iff

/-- A client stores one pod over another whose namespace and name are joined to the same text. -/
def slashedPods : Schedule :=
  [(0, .beginWrite), (0, .insert (.pod (.ofMeta (.named "a" "b/c")))),
   (0, .insert (.pod (.ofMeta (.named "a/b" "c")))), (0, .commit)]

/-- The namespace of the pod that was replaced still lists the name. -/
theorem not_indexAgrees_slashedPods :
    ¬ (reach .builtin slashedPods).store.published.IndexAgrees .pods :=
  fun h => absurd (congrArg Except.toOption (h.scanNamespace "a")) (by decide)

end Schedule

end ClusterAudit
