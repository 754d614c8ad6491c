import ClusterAudit.Proofs.Tally.Merging

/-!
# Compaction

Compaction drops what counts nothing and changes no count (`CodeTally.get_compact`,
`NamespaceTally.count_compact`, `KindTally.count_compact`), and tallies with the same counts are
compacted to the same tally. So it need not be done twice; sums over a tally do not see it; and
tallies that were compacted early merge, once that is compacted, to what they had merged to before:
`compact_laws`.
-/

namespace ClusterAudit

/-- A count that is passed over if it is zero is seen as it is. -/
theorem Count.getD_ite (n : Count) : (if n = 0 then none else some n).getD 0 = n := by
  split
  · rename_i hzero
    exact hzero.symm
  · rfl

namespace CodeTally

/-- Compaction changes no count. -/
@[simp] theorem get_compact (t : CodeTally) (code : Code) : t.compact.get code = t.get code := by
  rw [get, get?_compact, Count.getD_ite]

/-- Compaction leaves the sum of all counts. -/
theorem total_compact (t : CodeTally) : t.compact.total = t.total := by
  have htotal : ∀ t : CodeTally, t.total = 0 + Count.total (fun _ n => n) t.counts :=
    fun t => Count.foldl_total id _ (fun _ _ _ => rfl) t.counts 0
  rw [htotal, htotal]
  refine congrArg (0 + ·) (Count.total_filterMap
    (f := fun n : Count => if n.toNat = 0 then none else some n) (fun _ n => ?_) t.counts)
  split
  · rename_i hzero
    exact (Count.toNat_eq_zero_iff.1 hzero).symm
  · rfl

/-- Compaction leaves the counts by severity. -/
theorem rollup_compact (t : CodeTally) (g : Glossary) : t.compact.rollup g = t.rollup g :=
  SeverityTally.ext_get fun s => t.get_rollup_compact g s

theorem compact_compact (t : CodeTally) : t.compact.compact = t.compact :=
  compact_eq_of_get t.get_compact

theorem compact_merge (t other : CodeTally) :
    (t.merge other).compact = (t.compact.merge other.compact).compact :=
  compact_eq_of_get fun code => by rw [get_merge, get_merge, get_compact, get_compact]

end CodeTally

namespace NamespaceTally

/-- Compaction changes no count. -/
@[simp] theorem count_compact (t : NamespaceTally) (space : String) (code : Code) :
    t.compact.count space code = t.count space code := by
  rw [count_eq_getD, count?_compact, Count.getD_ite]

/-- The counts of all namespaces are added up code by code. -/
theorem get_codes (t : NamespaceTally) (code : Code) :
    t.codes.get code = Count.total (fun _ tally => tally.get code) t.spaces := by
  have hfold := Count.foldl_total (·.get code) _
    (fun all (_ : String) tally => CodeTally.get_merge all tally code) t.spaces ∅
  rwa [CodeTally.get_empty, Count.zero_add] at hfold

/-- Compaction changes no count of all namespaces. -/
theorem get_codes_compact (t : NamespaceTally) (code : Code) :
    t.compact.codes.get code = t.codes.get code := by
  rw [get_codes, get_codes]
  refine Count.total_filterMap (f := fun tally : CodeTally =>
    if tally.compact.isEmpty then none else some tally.compact) (fun _ tally => ?_) t.spaces
  split
  · rename_i hempty
    exact (tally.isEmpty_compact.1 hempty code).symm
  · exact tally.get_compact code

/-- Compaction leaves the counts by severity. -/
theorem rollup_compact (t : NamespaceTally) (g : Glossary) : t.compact.rollup g = t.rollup g :=
  SeverityTally.ext_get fun s => t.get_rollup_compact g s

theorem compact_compact (t : NamespaceTally) : t.compact.compact = t.compact :=
  compact_eq_of_count t.count_compact

theorem compact_merge (t other : NamespaceTally) :
    (t.merge other).compact = (t.compact.merge other.compact).compact :=
  compact_eq_of_count fun space code => by
    rw [count_merge, count_merge, count_compact, count_compact]

end NamespaceTally

namespace KindTally

/-- Compaction changes no count. -/
@[simp] theorem count_compact (t : KindTally) (kind : Kind) (space : String) (code : Code) :
    t.compact.count kind space code = t.count kind space code := by
  rw [count_eq_getD, count?_compact, Count.getD_ite]

/-- Compaction leaves the counts by severity. -/
theorem rollup_compact (t : KindTally) (g : Glossary) : t.compact.rollup g = t.rollup g :=
  SeverityTally.ext_get fun s => t.get_rollup_compact g s

theorem compact_compact (t : KindTally) : t.compact.compact = t.compact :=
  compact_eq_of_count t.count_compact

theorem compact_merge (t other : KindTally) :
    (t.merge other).compact = (t.compact.merge other.compact).compact :=
  compact_eq_of_count fun kind space code => by
    rw [count_merge, count_merge, count_compact, count_compact]

end KindTally

/-- At every level compaction leaves an entry for each path whose count is not zero, with that count,
and no other; and a branch for each namespace and kind that has such a path, and no other. A second
compaction changes nothing; the sums over a tally, by code and by severity, stay as they are; and
merged tallies are compacted to the same tally if they were compacted before. -/
theorem compact_laws :
    (∀ t : CodeTally,
      (∀ code, t.compact.counts.get? code = if t.get code = 0 then none else some (t.get code)) ∧
      t.compact.compact = t.compact ∧ t.compact.total = t.total ∧
      (∀ g, t.compact.rollup g = t.rollup g) ∧
      ∀ other, (t.merge other).compact = (t.compact.merge other.compact).compact) ∧
    (∀ t : NamespaceTally,
      (∀ space code, t.compact.count? space code =
        if t.count space code = 0 then none else some (t.count space code)) ∧
      (∀ space, (t.compact.get? space).isSome ↔ ∃ code, t.count space code ≠ 0) ∧
      t.compact.compact = t.compact ∧ (∀ code, t.compact.codes.get code = t.codes.get code) ∧
      (∀ g, t.compact.rollup g = t.rollup g) ∧
      ∀ other, (t.merge other).compact = (t.compact.merge other.compact).compact) ∧
    (∀ t : KindTally,
      (∀ kind space code, t.compact.count? kind space code =
        if t.count kind space code = 0 then none else some (t.count kind space code)) ∧
      (∀ kind space, (t.compact.space? kind space).isSome ↔
        ∃ code, t.count kind space code ≠ 0) ∧
      (∀ kind, (t.compact.get? kind).isSome ↔ ∃ space code, t.count kind space code ≠ 0) ∧
      t.compact.compact = t.compact ∧ (∀ g, t.compact.rollup g = t.rollup g) ∧
      ∀ other, (t.merge other).compact = (t.compact.merge other.compact).compact) := by
  refine ⟨fun t => ⟨t.get?_compact, t.compact_compact, t.total_compact, t.rollup_compact,
      t.compact_merge⟩,
    fun t => ⟨t.count?_compact, fun space => ?_, t.compact_compact, t.get_codes_compact,
      t.rollup_compact, t.compact_merge⟩,
    fun t => ⟨t.count?_compact, fun kind space => ?_, fun kind => ?_, t.compact_compact,
      t.rollup_compact, t.compact_merge⟩⟩
  · rw [Option.isSome_iff_ne_none, ne_eq, t.get?_compact_eq_none_iff space]
    simp only [Classical.not_forall, ne_eq]
  · rw [Option.isSome_iff_ne_none, ne_eq, t.space?_compact_eq_none_iff kind space]
    simp only [Classical.not_forall, ne_eq]
  · rw [Option.isSome_iff_ne_none, ne_eq, t.get?_compact_eq_none_iff kind]
    simp only [Classical.not_forall, ne_eq]

end ClusterAudit
