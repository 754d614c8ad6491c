import ClusterAudit.Proofs.Outcome
import ClusterAudit.Proofs.Tally.Exact

/-!
# Two ways to tally an outcome

The findings of an outcome are counted by code alone, and by namespace and code. To count one more
finding is to merge a tally that counts it alone, so either way merges one tally for each object
(`Outcome.codeTally_eq`, `Outcome.namespaceTally_eq`), and the codes of an object's tally by
namespace are its tally by code. As merging passes through `NamespaceTally.codes` and through a union
of objects, the two ways agree, and the tallies of merged outcomes merge theirs:
`Outcome.tallies_agree_and_merge`.
-/

namespace ClusterAudit

/-- A fold of which every step joins to what there is what it makes of nothing joins what it makes of
nothing as a whole. -/
theorem foldl_eq_op {σ α : Type} {op : σ → σ → σ} {none : σ} [Std.Associative op]
    [Std.LawfulIdentity op none] {step : σ → α → σ} (h : ∀ s a, step s a = op s (step none a))
    (l : List α) (s : σ) : l.foldl step s = op s (l.foldl step none) := by
  induction l generalizing s with
  | nil => exact (Std.LawfulRightIdentity.right_id s).symm
  | cons a rest ih =>
    calc rest.foldl step (step s a)
      _ = op (op s (step none a)) (rest.foldl step none) := by rw [ih, h]
      _ = op s (op (step none a) (rest.foldl step none)) := Std.Associative.assoc _ _ _
      _ = op s (rest.foldl step (step none a)) := by rw [← ih]

/-! ## Tallies of lists of codes -/

namespace CodeTally

/-- The tally of some codes. -/
def ofCodes (l : List Code) : CodeTally := l.foldl incr ∅

/-- One more of a code is a tally of it merged. -/
theorem incr_eq_merge (t : CodeTally) (code : Code) :
    t.incr code = t.merge ((∅ : CodeTally).incr code) := by
  show t.add code 1 = t.add code (0 + 1)
  rw [Count.zero_add]

/-- Counting codes merges their tally. -/
theorem foldl_incr (t : CodeTally) (l : List Code) : l.foldl incr t = t.merge (ofCodes l) :=
  foldl_eq_op incr_eq_merge l t

/-- The tally of codes and more codes merges the tallies of both. -/
theorem ofCodes_append (l m : List Code) : ofCodes (l ++ m) = (ofCodes l).merge (ofCodes m) := by
  rw [ofCodes, List.foldl_append]
  exact foldl_incr (ofCodes l) m

end CodeTally

namespace NamespaceTally

/-- The tally of some codes, all in one namespace. -/
def ofCodes (space : String) (l : List Code) : NamespaceTally :=
  l.foldl (fun t code => t.record space code) ∅

/-- One more of a code in a namespace is a tally of it merged. -/
theorem record_eq_merge (space : String) (t : NamespaceTally) (code : Code) :
    t.record space code = t.merge ((∅ : NamespaceTally).record space code) := by
  refine congrArg mk (congrArg (t.spaces.alter space) (funext fun old => ?_))
  exact congrArg some ((old.getD ∅).incr_eq_merge code)

/-- Counting codes in a namespace merges their tally. -/
theorem foldl_record (space : String) (t : NamespaceTally) (l : List Code) :
    l.foldl (fun t code => t.record space code) t = t.merge (ofCodes space l) :=
  foldl_eq_op (record_eq_merge space) l t

/-- The tally of codes and more codes merges the tallies of both. -/
theorem ofCodes_append (space : String) (l m : List Code) :
    ofCodes space (l ++ m) = (ofCodes space l).merge (ofCodes space m) := by
  rw [ofCodes, List.foldl_append]
  exact foldl_record space (ofCodes space l) m

/-- Whatever namespace they are in, codes are counted as codes. -/
theorem codes_ofCodes (space : String) (l : List Code) :
    (ofCodes space l).codes = CodeTally.ofCodes l := by
  refine (List.foldl_hom codes fun t code => ?_).symm
  rw [record_eq_merge, codes_merge, CodeTally.incr_eq_merge]
  have hone : (∅ : CodeTally).merge ((∅ : CodeTally).incr code) = (∅ : CodeTally).incr code :=
    Std.LawfulLeftIdentity.left_id _
  exact congrArg t.codes.merge hone.symm

end NamespaceTally

/-! ## Tallies of outcomes -/

namespace Outcome

/-- The tally by code merges one tally for each object. -/
theorem codeTally_eq (o : Outcome) : o.codeTally =
    o.objects.foldl (fun t _ fs => t.merge (.ofCodes (fs.filterMap (·.code)))) ∅ := by
  rw [codeTally, List.filterMap_flatten, List.foldl_flatten, Dict.values, List.map_map,
    List.foldl_map]
  exact congrArg (o.objects.entries.foldl · ∅) (funext fun t => funext fun e => t.foldl_incr _)

/-- The tally by namespace merges one tally for each object. -/
theorem namespaceTally_eq (o : Outcome) : o.namespaceTally =
    o.objects.foldl (fun t fqn fs => t.merge (.ofCodes fqn.space (fs.filterMap (·.code)))) ∅ :=
  congrArg (o.objects.foldl · ∅)
    (funext fun t => funext fun fqn => funext fun _ => t.foldl_record fqn.space _)

/-- Both tallies count the same codes. -/
theorem codes_namespaceTally (o : Outcome) : o.namespaceTally.codes = o.codeTally := by
  rw [namespaceTally_eq, codeTally_eq]
  refine (List.foldl_hom NamespaceTally.codes fun t e => ?_).symm
  rw [NamespaceTally.codes_merge, NamespaceTally.codes_ofCodes]

/-- The tally by code of merged outcomes merges theirs. -/
theorem codeTally_merge (o other : Outcome) :
    (o.merge other).codeTally = o.codeTally.merge other.codeTally := by
  rw [codeTally_eq, codeTally_eq, codeTally_eq, objects_merge]
  refine Dict.fold_unionWith (fun _ fs fs' => ?_) o.objects other.objects
  rw [List.filterMap_append, CodeTally.ofCodes_append]

/-- The tally by namespace of merged outcomes merges theirs. -/
theorem namespaceTally_merge (o other : Outcome) :
    (o.merge other).namespaceTally = o.namespaceTally.merge other.namespaceTally := by
  rw [namespaceTally_eq, namespaceTally_eq, namespaceTally_eq, objects_merge]
  refine Dict.fold_unionWith (fun _ fs fs' => ?_) o.objects other.objects
  rw [List.filterMap_append, NamespaceTally.ofCodes_append]

/-- Over all namespaces the tally by namespace is the tally by code. Merging outcomes merges their
tallies of both sorts, entry by entry, and adds their numbers of findings; it registers the objects
that either registers, and lists the findings of an object that the first has, then those that the
second has. -/
theorem tallies_agree_and_merge :
    (∀ o : Outcome, o.namespaceTally.codes = o.codeTally) ∧
    ∀ o other : Outcome,
      (o.merge other).codeTally = o.codeTally.merge other.codeTally ∧
      (o.merge other).namespaceTally = o.namespaceTally.merge other.namespaceTally ∧
      (o.merge other).findingCount = o.findingCount + other.findingCount ∧
      ∀ fqn, ((o.merge other).contains fqn ↔ o.contains fqn ∨ other.contains fqn) ∧
        (o.merge other).findings fqn = o.findings fqn ++ other.findings fqn :=
  ⟨codes_namespaceTally, fun o other => ⟨o.codeTally_merge other, o.namespaceTally_merge other,
    o.findingCount_merge other, fun fqn => ⟨o.contains_merge other fqn,
      o.findings_merge other fqn⟩⟩⟩

end Outcome

end ClusterAudit
