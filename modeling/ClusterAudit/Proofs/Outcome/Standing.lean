import ClusterAudit.Proofs.Outcome
import ClusterAudit.Proofs.Rollup

/-!
# Objects by their most serious finding

The most serious of some severities is their join, from `ok` up (`Severity.worst_cons`), so it can be
taken in any order. An object stands at its most serious finding, and at `ok` if it has none; the
rollup of an outcome counts of every severity the objects that stand there
(`Outcome.get_severityRollup`).
-/

namespace ClusterAudit

namespace Severity

instance : Std.Commutative max where
  comm a b := by cases a <;> cases b <;> rfl

instance : Std.Associative max where
  assoc a b c := by cases a <;> cases b <;> cases c <;> rfl

instance : Std.LawfulIdentity max ok where
  left_id a := by cases a <;> rfl
  right_id a := by cases a <;> rfl

/-- A severity is no milder than the more serious of two if it is no milder than either. -/
theorem max_le_iff {a b s : Severity} : a.max b ≤ s ↔ a ≤ s ∧ b ≤ s := by
  cases a <;> cases b <;> cases s <;> decide

/-- The most serious of a list is the more serious of its head and the most serious of the rest. -/
theorem worst_cons (a : Severity) (l : List Severity) : worst (a :: l) = a.max (worst l) := by
  have hstart : ok.max a = a.max ok := Std.Commutative.comm _ _
  rw [worst, List.foldl_cons, hstart, List.foldl_assoc, worst]

end Severity

/-- The most serious of some findings is the first or the most serious of the rest. -/
theorem Finding.worst_cons (f : Finding) (fs : List Finding) :
    worst (f :: fs) = f.severity.max (worst fs) :=
  Severity.worst_cons f.severity (fs.map Finding.severity)

/-- Of each element that satisfies a test one is added up, so they are counted. -/
theorem sum_ite_eq_countP {α : Type} (p : α → Bool) (l : List α) :
    (l.map fun a => if p a then 1 else 0).sum = l.countP p := by
  induction l with
  | nil => rfl
  | cons a rest ih => rw [List.map_cons, List.sum_cons, List.countP_cons, ih, Nat.add_comm]

namespace Outcome

/-- How many registered objects have findings of a sort. -/
def countObjects (p : List Finding → Bool) (o : Outcome) : Nat := o.objects.values.countP p

/-- The rollup counts of every severity the objects that stand there. -/
theorem get_severityRollup (o : Outcome) (s : Severity) :
    o.severityRollup.get s = .ofNat (o.countObjects fun fs => Finding.worst fs = s) := by
  have hadd : ∀ (t : SeverityTally) (e : Fqn × List Finding),
      (t.add (Finding.worst e.2) 1).get s =
        t.get s + .ofNat (if Finding.worst e.2 = s then 1 else 0) := by
    intro t e
    rw [SeverityTally.get_add]
    split
    · rfl
    · exact (Count.add_zero _).symm
  have h := Count.see_foldl (SeverityTally.get · s) _ hadd o.objects.entries ∅
  rw [SeverityTally.get_empty, Count.zero_add] at h
  refine h.trans (congrArg Count.ofNat ?_)
  rw [countObjects, Dict.values, List.countP_map, ← sum_ite_eq_countP]
  simp only [Function.comp_apply, decide_eq_true_eq]

end Outcome

end ClusterAudit
