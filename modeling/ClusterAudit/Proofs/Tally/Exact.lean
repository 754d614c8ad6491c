import ClusterAudit.Proofs.Tally.Merging

/-!
# Rollups and exact sums

A rollup counts in three stages, codes over the namespaces, severities over the codes and severities
over the kinds, and each stage may stop at the largest count. The stages come to the same as adding
all counts of a severity up exactly and stopping once (`KindTally.get_rollup_eq`), because a sum of
numbers that were cut off at the largest count is cut off where the exact one is (`Count.total_ofNat`).
A rollup of merged tallies merges theirs, and the codes of merged tallies merge theirs, entry by
entry: a fold over a union takes one dictionary after the other (`rollup_adds_up`).
-/

namespace ClusterAudit

/-- A total of numbers that stop at the largest count is the exact sum, stopped once. -/
theorem Count.total_ofNat {κ β : Type} [Ord κ] (weight : κ → β → Nat) (d : Dict κ β) :
    total (fun k v => ofNat (weight k v)) d = ofNat (d.sum weight) := by
  have aux : ∀ l : List (κ × β), ofNat (l.map fun e => (ofNat (weight e.1 e.2)).toNat).sum =
      ofNat (l.map fun e => weight e.1 e.2).sum := by
    intro l
    induction l with
    | nil => rfl
    | cons e rest ih =>
      rw [List.map_cons, List.sum_cons, ofNat_add, ofNat_toNat, ih, List.map_cons, List.sum_cons,
        ofNat_add]
  exact aux d.entries

section rollup
variable (g : Glossary) (s : Severity)

namespace CodeTally

/-- The exact sum of the counts of all codes of a severity. -/
def exact (t : CodeTally) : Nat :=
  t.counts.sum fun code n => if g.severity? code = some s then n.toNat else 0

/-- A rollup counts as many as the exact sum, or the largest count. -/
theorem get_rollup_eq (t : CodeTally) : (t.rollup g).get s = .ofNat (t.exact g s) := by
  rw [get_rollup, exact, ← Count.total_ofNat]
  congr
  funext code n
  rw [Glossary.share]
  split
  · exact n.ofNat_toNat.symm
  · rfl

/-- The rollup of merged tallies merges theirs. -/
theorem rollup_merge (t other : CodeTally) :
    (t.merge other).rollup g = (t.rollup g).merge (other.rollup g) :=
  SeverityTally.ext_get fun s => by rw [get_rollup_merge, SeverityTally.get_merge]

end CodeTally

namespace NamespaceTally

/-- The exact sum of the counts at all paths to a code of a severity. -/
def exact (t : NamespaceTally) : Nat := t.spaces.sum fun _ tally => tally.exact g s

/-- A rollup counts as many as the exact sum, or the largest count. -/
theorem get_rollup_eq (t : NamespaceTally) : (t.rollup g).get s = .ofNat (t.exact g s) := by
  simp only [get_rollup, CodeTally.get_rollup_eq]
  exact Count.total_ofNat _ t.spaces

/-- The rollup of merged tallies merges theirs. -/
theorem rollup_merge (t other : NamespaceTally) :
    (t.merge other).rollup g = (t.rollup g).merge (other.rollup g) :=
  SeverityTally.ext_get fun s => by rw [get_rollup_merge, SeverityTally.get_merge]

/-- The codes of merged tallies merge theirs. -/
theorem codes_merge (t other : NamespaceTally) :
    (t.merge other).codes = t.codes.merge other.codes := by
  rw [codes, spaces_merge]
  exact Dict.fold_unionWith (fun _ _ _ => rfl) t.spaces other.spaces

end NamespaceTally

namespace KindTally

/-- The exact sum of the counts at all paths to a code of a severity. -/
def exact (t : KindTally) : Nat := t.kinds.sum fun _ tally => tally.exact g s

/-- A rollup counts as many as the exact sum, or the largest count. -/
theorem get_rollup_eq (t : KindTally) : (t.rollup g).get s = .ofNat (t.exact g s) := by
  simp only [get_rollup, NamespaceTally.get_rollup_eq]
  exact Count.total_ofNat _ t.kinds

/-- The rollup of merged tallies merges theirs. -/
theorem rollup_merge (t other : KindTally) :
    (t.merge other).rollup g = (t.rollup g).merge (other.rollup g) := by
  rw [rollup, kinds_merge]
  exact Dict.fold_unionWith (fun _ u v => u.rollup_merge g v) t.kinds other.kinds

end KindTally

end rollup

/-- At every level the rollup of merged tallies merges theirs, and so do the codes of merged tallies.
A rollup counts of every severity the exact sum of the counts at all paths whose code has the
severity, or the largest count if the sum is larger, wherever the sums on the way stop; a code that
the glossary lacks has no severity. -/
theorem rollup_adds_up (g : Glossary) :
    (∀ a b : CodeTally, (a.merge b).rollup g = (a.rollup g).merge (b.rollup g)) ∧
    (∀ a b : NamespaceTally, (a.merge b).rollup g = (a.rollup g).merge (b.rollup g) ∧
      (a.merge b).codes = a.codes.merge b.codes) ∧
    (∀ a b : KindTally, (a.merge b).rollup g = (a.rollup g).merge (b.rollup g)) ∧
    ∀ (t : KindTally) s, ((t.rollup g).get s).toNat = min (t.exact g s) Count.largest := by
  refine ⟨CodeTally.rollup_merge g, fun a b => ⟨a.rollup_merge g b, a.codes_merge b⟩,
    KindTally.rollup_merge g, fun t s => ?_⟩
  rw [KindTally.get_rollup_eq, Count.toNat_ofNat]

end ClusterAudit
