import ClusterAudit.Finding
import ClusterAudit.Proofs.Dict.Union

/-!
# Outcomes object by object

What registering an object, adding a finding and merging two outcomes do to the findings of each
object (`Outcome.get?_init`, `Outcome.get?_push`, `Outcome.get?_merge`), to the objects that are
registered, and to the number of findings.
-/

namespace ClusterAudit.Outcome

/-- Registering an object gives it no findings and leaves those of all objects. -/
theorem get?_init (o : Outcome) (fqn f : Fqn) :
    (o.init fqn).get? f = if f = fqn then some ((o.get? f).getD []) else o.get? f := by
  rw [get?, get?, init]
  split
  · rename_i h
    subst h
    exact Dict.get?_alter_self o.objects f _
  · rename_i h
    exact Dict.get?_alter_of_ne h _

/-- A finding is added to the end of those of its object. -/
theorem get?_push (o : Outcome) (fqn : Fqn) (x : Finding) (f : Fqn) :
    (o.push fqn x).get? f = if f = fqn then (o.get? f).map (· ++ [x]) else o.get? f := by
  rw [get?, get?, push]
  split
  · rename_i h
    subst h
    exact Dict.get?_modify_self o.objects f _
  · rename_i h
    exact Dict.get?_modify_of_ne h _

/-- Merging joins the findings of every object. -/
theorem objects_merge (o other : Outcome) :
    (o.merge other).objects = Dict.unionWith (· ++ ·) o.objects other.objects := by
  refine Dict.view_foldl (fun o fqn fs => ?_) o other.objects
  exact congrArg (o.objects.alter fqn) (funext fun old => by cases old <;> rfl)

/-- Merging appends the findings of every object of the other outcome. -/
theorem get?_merge (o other : Outcome) (f : Fqn) :
    (o.merge other).get? f = match other.get? f with
      | none => o.get? f
      | some fs => some ((o.get? f).getD [] ++ fs) := by
  rw [get?, objects_merge, Dict.get?_unionWith, get?, get?]
  cases o.objects.get? f <;> cases other.objects.get? f <;> rfl

/-- An object is registered if it has a list of findings. -/
theorem contains_eq (o : Outcome) (f : Fqn) : o.contains f = (o.get? f).isSome := rfl

/-- The findings of an object; none if it is not registered. -/
def findings (o : Outcome) (f : Fqn) : List Finding := (o.get? f).getD []

/-- Merging appends findings, be there any or not. -/
theorem findings_merge (o other : Outcome) (f : Fqn) :
    (o.merge other).findings f = o.findings f ++ other.findings f := by
  rw [findings, get?_merge, findings, findings]
  cases other.get? f with
  | none => exact (List.append_nil _).symm
  | some fs => rfl

/-- Merged outcomes register the objects of both. -/
theorem contains_merge (o other : Outcome) (f : Fqn) :
    (o.merge other).contains f ↔ o.contains f ∨ other.contains f := by
  rw [contains_eq, contains_eq, contains_eq, get?_merge]
  cases other.get? f <;> simp

/-- A weight that the findings of an object have together is had by those of merged outcomes. -/
theorem sum_merge {weight : Fqn → List Finding → Nat}
    (h : ∀ fqn fs fs', weight fqn (fs ++ fs') = weight fqn fs + weight fqn fs')
    (o other : Outcome) :
    (o.merge other).objects.sum weight = o.objects.sum weight + other.objects.sum weight := by
  rw [objects_merge]
  exact Dict.sum_unionWith h o.objects other.objects

/-- The number of findings is the sum over the objects. -/
theorem findingCount_eq_sum (o : Outcome) :
    o.findingCount = o.objects.sum fun _ fs => fs.length := by
  rw [findingCount, Dict.foldl, Dict.sum, List.sum_eq_foldl, List.foldl_map]

/-- Registering an object adds no finding. -/
theorem findingCount_init (o : Outcome) (fqn : Fqn) :
    (o.init fqn).findingCount = o.findingCount := by
  rw [findingCount_eq_sum, findingCount_eq_sum]
  exact Dict.sum_alter (n := 0) rfl (fun _ => rfl) o.objects

/-- Adding a finding to a registered object adds one. -/
theorem findingCount_push {o : Outcome} {fqn : Fqn} (h : o.contains fqn) (f : Finding) :
    (o.push fqn f).findingCount = o.findingCount + 1 := by
  obtain ⟨fs, hfs⟩ := Option.isSome_iff_exists.1 h
  have halter : o.objects.modify fqn (· ++ [f]) =
      o.objects.alter fqn fun old => some (old.getD [] ++ [f]) :=
    Dict.alter_congr (by rw [hfs]; rfl)
  rw [findingCount_eq_sum, findingCount_eq_sum, push, halter]
  exact Dict.sum_alter (n := 1) rfl (fun fs => List.length_append) o.objects

/-- Merged outcomes have the findings of both. -/
theorem findingCount_merge (o other : Outcome) :
    (o.merge other).findingCount = o.findingCount + other.findingCount := by
  rw [findingCount_eq_sum, findingCount_eq_sum, findingCount_eq_sum]
  exact sum_merge (fun _ _ _ => List.length_append) o other

/-- Registering an object registers it and no other. -/
theorem contains_init (o : Outcome) (fqn f : Fqn) :
    (o.init fqn).contains f ↔ o.contains f ∨ fqn = f := by
  rw [contains_eq, contains_eq, get?_init]
  split
  · rename_i h
    simp [h]
  · rename_i h
    simp [Ne.symm h]

/-- Adding a finding registers nothing. -/
theorem contains_push (o : Outcome) (fqn : Fqn) (x : Finding) (f : Fqn) :
    (o.push fqn x).contains f = o.contains f := by
  rw [contains_eq, contains_eq, get?_push]
  split
  · exact Option.isSome_map
  · rfl

end ClusterAudit.Outcome
