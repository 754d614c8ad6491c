import ClusterAudit.Proofs.Dict.Union
import ClusterAudit.Proofs.Rollup
import Mathlib.Algebra.Group.Basic

/-!
# Merging tallies

Merging is the union of dictionaries, level by level: counts of a code are added, tallies of a
namespace or a kind are merged (`CodeTally.counts_merge`, `NamespaceTally.spaces_merge`,
`KindTally.kinds_merge`). So at every level it is commutative and associative with the empty tally as
its identity, up to entries without a count, since adding counts that stop at the largest is. The
entries of merged tallies are those of both, with the counts of both added: `merge_adds_up`.
-/

namespace ClusterAudit

/-- What is found in joined values is joined where it is in what is found in each of them. -/
theorem bind_merge {β γ : Type} {f : β → β → β} {g : γ → γ → γ} {look : β → Option γ}
    (h : ∀ u v, look (f u v) = Option.merge g (look u) (look v)) (a b : Option β) :
    (Option.merge f a b).bind look = Option.merge g (a.bind look) (b.bind look) := by
  cases a with
  | none => rw [Option.merge_none_left, Option.bind_none, Option.merge_none_left]
  | some u =>
    cases b with
    | none => rw [Option.merge_none_right, Option.bind_none, Option.merge_none_right]
    | some v => exact h u v

/-- Two counts that may be missing are added as zeros where they are. -/
theorem Count.getD_merge (a b : Option Count) :
    (Option.merge (· + ·) a b).getD 0 = a.getD 0 + b.getD 0 := by
  cases a with
  | none => rw [Option.merge_none_left, Option.getD_none, Count.zero_add]
  | some m =>
    cases b with
    | none => rw [Option.merge_none_right, Option.getD_none, Count.add_zero]
    | some n => rfl

namespace SeverityTally

variable {t other : SeverityTally}

/-- Tallies with the same counts are the same. -/
theorem ext_get (h : ∀ s, t.get s = other.get s) : t = other := by
  cases t
  cases other
  rw [mk.injEq]
  exact ⟨h .ok, h .info, h .warn, h .error⟩

instance : Std.Commutative merge where
  comm a b := ext_get fun s => by rw [get_merge, get_merge, Count.add_comm]

instance : Std.Associative merge where
  assoc a b c := ext_get fun s => by simp only [get_merge, add_assoc]

instance : Std.LawfulIdentity merge ∅ where
  left_id a := ext_get fun s => by rw [get_merge, get_empty, Count.zero_add]
  right_id a := ext_get fun s => by rw [get_merge, get_empty, Count.add_zero]

end SeverityTally

namespace CodeTally

/-- Merging joins the counts of every code. -/
theorem counts_merge (t other : CodeTally) :
    (t.merge other).counts = Dict.unionWith (· + ·) t.counts other.counts := by
  refine Dict.view_foldl (fun t code n => ?_) t other.counts
  exact congrArg (t.counts.alter code) (funext fun old => by cases old <;> simp [Dict.joined])

theorem counts_injective : Function.Injective counts := fun _ _ h => congrArg mk h

instance : Std.Commutative merge := Dict.commutative_of_view counts_injective counts_merge

instance : Std.Associative merge := Dict.associative_of_view counts_injective counts_merge

instance : Std.LawfulIdentity merge ∅ :=
  Dict.lawfulIdentity_of_view counts_injective counts_merge rfl

/-- A code has an entry in merged tallies if it has one in either; two counts are added. -/
theorem get?_merge (t other : CodeTally) (code : Code) : (t.merge other).counts.get? code =
    Option.merge (· + ·) (t.counts.get? code) (other.counts.get? code) := by
  rw [counts_merge, Dict.get?_unionWith]

end CodeTally

namespace NamespaceTally

/-- Merging merges the tallies of every namespace. -/
theorem spaces_merge (t other : NamespaceTally) :
    (t.merge other).spaces = Dict.unionWith CodeTally.merge t.spaces other.spaces := by
  refine Dict.view_foldl (fun t space tally => ?_) t other.spaces
  refine congrArg (t.spaces.alter space) (funext fun old => ?_)
  cases old with
  | none => exact congrArg some (Std.LawfulLeftIdentity.left_id tally)
  | some old => rfl

theorem spaces_injective : Function.Injective spaces := fun _ _ h => congrArg mk h

instance : Std.Commutative merge := Dict.commutative_of_view spaces_injective spaces_merge

instance : Std.Associative merge := Dict.associative_of_view spaces_injective spaces_merge

instance : Std.LawfulIdentity merge ∅ :=
  Dict.lawfulIdentity_of_view spaces_injective spaces_merge rfl

/-- A namespace has an entry in merged tallies if it has one in either; two tallies are merged. -/
theorem get?_merge (t other : NamespaceTally) (space : String) : (t.merge other).get? space =
    Option.merge CodeTally.merge (t.get? space) (other.get? space) := by
  rw [get?, spaces_merge, Dict.get?_unionWith, get?, get?]

/-- A path has an entry in merged tallies if it has one in either; two counts are added. -/
theorem count?_merge (t other : NamespaceTally) (space : String) (code : Code) :
    (t.merge other).count? space code =
      Option.merge (· + ·) (t.count? space code) (other.count? space code) := by
  rw [count?, get?_merge]
  exact bind_merge (fun u v => u.get?_merge v code) _ _

end NamespaceTally

namespace KindTally

/-- Merging merges the tallies of every kind. -/
theorem kinds_merge (t other : KindTally) :
    (t.merge other).kinds = Dict.unionWith NamespaceTally.merge t.kinds other.kinds := by
  refine Dict.view_foldl (fun t kind tally => ?_) t other.kinds
  refine congrArg (t.kinds.alter kind) (funext fun old => ?_)
  cases old with
  | none => exact congrArg some (Std.LawfulLeftIdentity.left_id tally)
  | some old => rfl

theorem kinds_injective : Function.Injective kinds := fun _ _ h => congrArg mk h

instance : Std.Commutative merge := Dict.commutative_of_view kinds_injective kinds_merge

instance : Std.Associative merge := Dict.associative_of_view kinds_injective kinds_merge

instance : Std.LawfulIdentity merge ∅ :=
  Dict.lawfulIdentity_of_view kinds_injective kinds_merge rfl

/-- A kind has an entry in merged tallies if it has one in either; two tallies are merged. -/
theorem get?_merge (t other : KindTally) (kind : Kind) : (t.merge other).get? kind =
    Option.merge NamespaceTally.merge (t.get? kind) (other.get? kind) := by
  rw [get?, kinds_merge, Dict.get?_unionWith, get?, get?]

/-- A namespace of a kind has an entry in merged tallies if it has one in either; two tallies are
merged. -/
theorem space?_merge (t other : KindTally) (kind : Kind) (space : String) :
    (t.merge other).space? kind space =
      Option.merge CodeTally.merge (t.space? kind space) (other.space? kind space) := by
  rw [space?, get?_merge]
  exact bind_merge (fun u v => u.get?_merge v space) _ _

/-- A path has an entry in merged tallies if it has one in either; two counts are added. -/
theorem count?_merge (t other : KindTally) (kind : Kind) (space : String) (code : Code) :
    (t.merge other).count? kind space code =
      Option.merge (· + ·) (t.count? kind space code) (other.count? kind space code) := by
  rw [count?, get?_merge]
  exact bind_merge (fun u v => u.count?_merge v space code) _ _

/-- Merging adds the counts of every path. -/
theorem count_merge (t other : KindTally) (kind : Kind) (space : String) (code : Code) :
    (t.merge other).count kind space code =
      t.count kind space code + other.count kind space code := by
  simp only [count_eq_getD, count?_merge, Count.getD_merge]

end KindTally

/-- At every level merging is commutative and associative, and the empty tally is its identity. Every
count of merged tallies is the sum of the two counts, or the largest count if the sum is larger; and a
code, a namespace or a kind has an entry, be it a zero count or an empty branch, exactly if it has
one in either tally. -/
theorem merge_adds_up :
    (Std.Commutative SeverityTally.merge ∧ Std.Associative SeverityTally.merge ∧
      Std.LawfulIdentity SeverityTally.merge ∅ ∧
      ∀ (a b : SeverityTally) s,
      ((a.merge b).get s).toNat = min ((a.get s).toNat + (b.get s).toNat) Count.largest) ∧
    (Std.Commutative CodeTally.merge ∧ Std.Associative CodeTally.merge ∧
      Std.LawfulIdentity CodeTally.merge ∅ ∧ ∀ (a b : CodeTally) code,
      ((a.merge b).get code).toNat = min ((a.get code).toNat + (b.get code).toNat) Count.largest ∧
      (((a.merge b).counts.get? code).isSome ↔
        (a.counts.get? code).isSome ∨ (b.counts.get? code).isSome)) ∧
    (Std.Commutative NamespaceTally.merge ∧ Std.Associative NamespaceTally.merge ∧
      Std.LawfulIdentity NamespaceTally.merge ∅ ∧ ∀ (a b : NamespaceTally) space,
      (((a.merge b).get? space).isSome ↔ (a.get? space).isSome ∨ (b.get? space).isSome) ∧ ∀ code,
      ((a.merge b).count space code).toNat =
        min ((a.count space code).toNat + (b.count space code).toNat) Count.largest ∧
      (((a.merge b).count? space code).isSome ↔
        (a.count? space code).isSome ∨ (b.count? space code).isSome)) ∧
    (Std.Commutative KindTally.merge ∧ Std.Associative KindTally.merge ∧
      Std.LawfulIdentity KindTally.merge ∅ ∧ ∀ (a b : KindTally) kind,
      (((a.merge b).get? kind).isSome ↔ (a.get? kind).isSome ∨ (b.get? kind).isSome) ∧ ∀ space,
      (((a.merge b).space? kind space).isSome ↔
        (a.space? kind space).isSome ∨ (b.space? kind space).isSome) ∧ ∀ code,
      ((a.merge b).count kind space code).toNat =
        min ((a.count kind space code).toNat + (b.count kind space code).toNat) Count.largest ∧
      (((a.merge b).count? kind space code).isSome ↔
        (a.count? kind space code).isSome ∨ (b.count? kind space code).isSome)) := by
  refine ⟨⟨inferInstance, inferInstance, inferInstance, fun a b s => ?_⟩,
    ⟨inferInstance, inferInstance, inferInstance, fun a b code => ⟨?_, ?_⟩⟩,
    ⟨inferInstance, inferInstance, inferInstance, fun a b space => ⟨?_, fun code => ⟨?_, ?_⟩⟩⟩,
    ⟨inferInstance, inferInstance, inferInstance,
      fun a b kind => ⟨?_, fun space => ⟨?_, fun code => ⟨?_, ?_⟩⟩⟩⟩⟩
  · rw [SeverityTally.get_merge, Count.toNat_add]
  · rw [CodeTally.get_merge, Count.toNat_add]
  · rw [CodeTally.get?_merge, Option.isSome_merge, Bool.or_eq_true]
  · rw [NamespaceTally.get?_merge, Option.isSome_merge, Bool.or_eq_true]
  · rw [NamespaceTally.count_merge, Count.toNat_add]
  · rw [NamespaceTally.count?_merge, Option.isSome_merge, Bool.or_eq_true]
  · rw [KindTally.get?_merge, Option.isSome_merge, Bool.or_eq_true]
  · rw [KindTally.space?_merge, Option.isSome_merge, Bool.or_eq_true]
  · rw [KindTally.count_merge, Count.toNat_add]
  · rw [KindTally.count?_merge, Option.isSome_merge, Bool.or_eq_true]

end ClusterAudit
