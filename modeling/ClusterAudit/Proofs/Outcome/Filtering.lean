import ClusterAudit.Proofs.Outcome.Standing

/-!
# Findings of at least a severity

Filtering an outcome keeps its objects and of their findings those that are serious enough. It can be
done in two steps or before merging (`Outcome.filter_filter`, `Outcome.filter_merge`), and an object
that loses its most serious finding loses them all, so it then stands at `ok`
(`Finding.worst_filter`). So the objects that stand at an admitted severity still do, and all others
are counted as clean: `Outcome.filter_laws`.
-/

namespace ClusterAudit

namespace Severity

/-- What is left of a severity where milder ones than the least are passed over. -/
def cut (least s : Severity) : Severity := if least ≤ s then s else ok

/-- It does not matter whether milder ones are passed over before or after the more serious of two is
taken. -/
theorem cut_max (least a b : Severity) : least.cut (a.max b) = (least.cut a).max (least.cut b) := by
  cases least <;> cases a <;> cases b <;> rfl

/-- Nothing is left of a severity that is `ok` or too mild. -/
theorem cut_eq_ok_iff {least s : Severity} :
    least.cut s = ok ↔ ¬ (least ≤ s ∧ s ≠ ok) := by
  rw [cut]
  split <;> simp_all

/-- A severity above `ok` is what is left of itself if it is admitted, and of no other. -/
theorem cut_eq_iff {least s t : Severity} (h : t ≠ ok) : least.cut s = t ↔ least ≤ t ∧ s = t := by
  rw [cut]
  constructor
  · split
    · rintro rfl
      exact ⟨‹_›, rfl⟩
    · rintro rfl
      exact absurd rfl h
  · rintro ⟨hle, rfl⟩
    exact if_pos hle

end Severity

/-- The most serious of the findings that are left is the most serious one, if it is left. -/
theorem Finding.worst_filter (least : Severity) (fs : List Finding) :
    worst (fs.filter fun f => least ≤ f.severity) = least.cut (worst fs) := by
  induction fs with
  | nil => cases least <;> rfl
  | cons f rest ih =>
    rw [worst_cons, Severity.cut_max, ← ih, List.filter_cons]
    by_cases hf : least ≤ f.severity
    · rw [if_pos (decide_eq_true hf), worst_cons, Severity.cut, if_pos hf]
    · rw [if_neg (by simpa using hf), Severity.cut, if_neg hf]
      exact (Std.LawfulLeftIdentity.left_id _).symm

namespace Outcome

variable (o other : Outcome) (least : Severity)

/-- Of every object the findings that are serious enough are left, in their order. -/
theorem get?_filter (fqn : Fqn) : (o.filter least).get? fqn =
    (o.get? fqn).map (List.filter fun f => least ≤ f.severity) :=
  Dict.get?_map _ o.objects fqn

/-- All objects stay registered. -/
theorem contains_filter (fqn : Fqn) : (o.filter least).contains fqn = o.contains fqn := by
  rw [contains_eq, contains_eq, get?_filter, Option.isSome_map]

/-- Filtering twice asks for the more serious of two severities. -/
theorem filter_filter (more : Severity) :
    (o.filter least).filter more = o.filter (least.max more) := by
  refine congrArg mk (Dict.ext_get? fun fqn => ?_)
  rw [Dict.get?_map, filter, Dict.get?_map, Dict.get?_map, Option.map_map]
  congr 1
  funext fs
  rw [Function.comp_apply, List.filter_filter]
  simp only [Severity.max_le_iff, Bool.decide_and, Bool.and_comm]

/-- What is left of merged outcomes is what is left of each, merged. -/
theorem filter_merge :
    (o.merge other).filter least = (o.filter least).merge (other.filter least) := by
  have hobjects : ((o.merge other).filter least).objects =
      ((o.filter least).merge (other.filter least)).objects := by
    rw [objects_merge, filter, objects_merge]
    exact Dict.map_unionWith (fun _ _ => List.filter_append ..) o.objects other.objects
  exact congrArg mk hobjects

/-- An object stands where it did, if that is serious enough, and at `ok` otherwise. -/
theorem maxSeverity?_filter (fqn : Fqn) :
    (o.filter least).maxSeverity? fqn = (o.maxSeverity? fqn).map least.cut := by
  rw [maxSeverity?, get?_filter, maxSeverity?, Option.map_map, Option.map_map]
  exact congrArg (Option.map · (o.get? fqn)) (funext (Finding.worst_filter least))

/-- Objects are counted after filtering as they stand then. -/
theorem get_severityRollup_filter (s : Severity) : (o.filter least).severityRollup.get s =
    .ofNat (o.countObjects fun fs => least.cut (Finding.worst fs) = s) := by
  rw [get_severityRollup, countObjects, filter, Dict.values_map, List.countP_map, countObjects]
  refine congrArg (fun p => Count.ofNat (o.objects.values.countP p)) (funext fun fs => ?_)
  rw [Function.comp_apply, Finding.worst_filter]

/-- Filtering keeps all objects, and of each the findings that are at least of the given severity, in
their order; so an object stands where it did if that is admitted, and at `ok` otherwise. Filtering
twice is filtering by the more serious of the two severities, and it passes through merging. As many
objects as before stand at each admitted severity above `ok`, none at one that is not admitted, and
all the others at `ok`. -/
theorem filter_laws :
    (∀ fqn, (o.filter least).contains fqn = o.contains fqn ∧
      (o.filter least).get? fqn = (o.get? fqn).map (List.filter fun f => least ≤ f.severity) ∧
      (o.filter least).maxSeverity? fqn =
        (o.maxSeverity? fqn).map fun s => if least ≤ s then s else .ok) ∧
    (∀ more, (o.filter least).filter more = o.filter (least.max more)) ∧
    (∀ other, (o.merge other).filter least = (o.filter least).merge (other.filter least)) ∧
    ∀ s, (o.filter least).severityRollup.get s =
      if s = .ok then
        .ofNat (o.countObjects fun fs => ¬ (least ≤ Finding.worst fs ∧ Finding.worst fs ≠ .ok))
      else if least ≤ s then o.severityRollup.get s else 0 := by
  refine ⟨fun fqn => ⟨o.contains_filter least fqn, o.get?_filter least fqn,
    o.maxSeverity?_filter least fqn⟩, o.filter_filter least, fun other => o.filter_merge other least,
    fun s => ?_⟩
  rw [get_severityRollup_filter, get_severityRollup]
  by_cases hs : s = .ok
  · subst hs
    simp only [Severity.cut_eq_ok_iff, if_true]
  · simp only [Severity.cut_eq_iff hs, if_neg hs]
    by_cases hle : least ≤ s
    · simp only [hle, true_and, if_true]
    · simp only [hle, false_and, if_false]
      exact congrArg Count.ofNat (List.countP_eq_zero.2 fun _ _ => by simp)

end Outcome

end ClusterAudit
