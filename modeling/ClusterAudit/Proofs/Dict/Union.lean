import ClusterAudit.Proofs.Dict
import Mathlib.Logic.Function.Basic

/-!
# Unions of dictionaries

A union binds the keys of both dictionaries, and joins the values of a key that both bind
(`Dict.get?_unionWith`). So it inherits the laws of the operation that joins them, whether that is
commutative or associative, and the empty dictionary is neutral; and so does an operation on a type
of which the dictionary is a view (`Dict.commutative_of_view` and those after it). A fold over a
union takes one dictionary after the other (`Dict.foldl_unionWith`), so what is added up over a union
is the sum of what is added up over each dictionary (`Dict.fold_unionWith`).
-/

namespace ClusterAudit.Dict

variable {κ β γ σ τ : Type} [Ord κ] [Std.TransOrd κ] [Std.LawfulEqOrd κ] {f : β → β → β}

/-- What a union makes of the value of a key, given the one to join it with. -/
def joined (f : β → β → β) (v : β) (old : Option β) : β := (old.map (f · v)).getD v

/-- A union alters one key after the other. -/
theorem unionWith_eq (f : β → β → β) (a b : Dict κ β) :
    unionWith f a b = b.foldl (fun d k v => d.alter k fun old => some (joined f v old)) a := by
  refine congrArg (b.foldl · a) (funext fun d => funext fun k => funext fun v => ?_)
  exact congrArg (d.alter k) (funext fun old => by cases old <;> rfl)

/-- A key has a value in a union if it has one in either dictionary; two values are joined. -/
@[simp] theorem get?_unionWith (f : β → β → β) (a b : Dict κ β) (k : κ) :
    (unionWith f a b).get? k = Option.merge f (a.get? k) (b.get? k) := by
  rw [unionWith_eq]
  refine (see_foldl k (·.get? k) (fun old v => some (joined f v old)) ?_ ?_ a b).trans ?_
  · exact fun d v => get?_alter_self d k _
  · exact fun d k' v h => get?_alter_of_ne h _
  · cases a.get? k <;> cases b.get? k <;> rfl

/-- A change of values that passes through their join passes through the union. -/
theorem map_unionWith {change : β → γ} {g : γ → γ → γ}
    (h : ∀ u v, change (f u v) = g (change u) (change v)) (a b : Dict κ β) :
    (unionWith f a b).map change = unionWith g (a.map change) (b.map change) := by
  refine ext_get? fun k => ?_
  rw [get?_map, get?_unionWith, get?_unionWith, get?_map, get?_map]
  cases a.get? k with
  | none => cases b.get? k <;> rfl
  | some u =>
    cases b.get? k with
    | none => rfl
    | some v => exact congrArg some (h u v)

instance [Std.Commutative f] : Std.Commutative (unionWith f : Dict κ β → Dict κ β → Dict κ β) where
  comm a b := ext_get? fun k => by
    rw [get?_unionWith, get?_unionWith]
    exact Std.Commutative.comm _ _

instance [Std.Associative f] : Std.Associative (unionWith f : Dict κ β → Dict κ β → Dict κ β) where
  assoc a b c := ext_get? fun k => by
    simp only [get?_unionWith]
    exact Std.Associative.assoc _ _ _

instance : Std.LawfulIdentity (unionWith f : Dict κ β → Dict κ β → Dict κ β) ∅ where
  left_id a := ext_get? fun k => by rw [get?_unionWith, get?_empty, Option.merge_none_left]
  right_id _ := rfl

/-! ## Views -/

section view
variable {view : τ → Dict κ β} {merge : τ → τ → τ}

/-- Adding one value after the other is a union as seen in a view. -/
theorem view_foldl {step : τ → κ → β → τ}
    (h : ∀ t k v, view (step t k v) = (view t).alter k fun old => some (joined f v old)) (t : τ)
    (d : Dict κ β) : view (d.foldl step t) = unionWith f (view t) d := by
  rw [unionWith_eq]
  exact (List.foldl_hom view fun t e => (h t e.1 e.2).symm).symm

variable (hview : Function.Injective view)
  (hmerge : ∀ a b, view (merge a b) = unionWith f (view a) (view b))
include hview hmerge

theorem commutative_of_view [Std.Commutative f] : Std.Commutative merge where
  comm a b := hview (by
    rw [hmerge, hmerge]
    exact Std.Commutative.comm _ _)

theorem associative_of_view [Std.Associative f] : Std.Associative merge where
  assoc a b c := hview (by
    simp only [hmerge]
    exact Std.Associative.assoc _ _ _)

theorem lawfulIdentity_of_view {none : τ} (hnone : view none = ∅) :
    Std.LawfulIdentity merge none where
  left_id a := hview (by
    rw [hmerge, hnone]
    exact Std.LawfulLeftIdentity.left_id _)
  right_id a := hview (by
    rw [hmerge, hnone]
    exact Std.LawfulRightIdentity.right_id _)

end view

/-! ## Folds -/

/-- If steps can be exchanged, and a step with joined values is one with each of them, then a fold
takes the dictionaries of a union one after the other. -/
theorem foldl_unionWith {step : σ → κ → β → σ}
    (hjoin : ∀ s k u v, step s k (f u v) = step (step s k u) k v)
    (hcomm : ∀ s k u k' v, step (step s k u) k' v = step (step s k' v) k u) (a b : Dict κ β)
    (s : σ) : (unionWith f a b).foldl step s = b.foldl step (a.foldl step s) := by
  rw [unionWith_eq]
  refine (List.foldl_hom (fun d : Dict κ β => d.foldl step s) fun d e => ?_).symm
  exact (foldl_alter (g := fun s => step s e.1 e.2) (fun _ => rfl)
    (fun s u => hjoin s e.1 u e.2) (fun s k' u => hcomm s e.1 e.2 k' u) d s).symm

/-- Adding up what the values come to takes the union of two dictionaries to the sum of what each of
them comes to, if joined values come to the sum of what each does. -/
theorem fold_unionWith {op : σ → σ → σ} {start : σ} [Std.Commutative op] [Std.Associative op]
    [Std.LawfulIdentity op start] {value : κ → β → σ}
    (hvalue : ∀ k u v, value k (f u v) = op (value k u) (value k v)) (a b : Dict κ β) :
    (unionWith f a b).foldl (fun s k v => op s (value k v)) start =
      op (a.foldl (fun s k v => op s (value k v)) start)
        (b.foldl (fun s k v => op s (value k v)) start) := by
  have hassoc : ∀ x y z, op (op x y) z = op x (op y z) := Std.Associative.assoc
  have hneutral : ∀ x, op x start = x := Std.LawfulRightIdentity.right_id
  -- what the first dictionary comes to is taken out of the fold over the second
  have hstart : ∀ s, b.foldl (fun s k v => op s (value k v)) (op s start) =
      op s (b.foldl (fun s k v => op s (value k v)) start) :=
    fun s => List.foldl_hom (op s) fun _ _ => hassoc _ _ _
  rw [← hstart, hneutral]
  refine foldl_unionWith (fun s k u v => ?_) (fun s k u k' v => ?_) a b start
  · rw [hvalue, hassoc]
  · rw [hassoc, hassoc]
    exact congrArg (op s) (Std.Commutative.comm _ _)

/-- The sum over a union is that of the sums over both dictionaries, if joined values weigh as much as
both. -/
theorem sum_unionWith {weight : κ → β → Nat}
    (h : ∀ k u v, weight k (f u v) = weight k u + weight k v) (a b : Dict κ β) :
    (unionWith f a b).sum weight = a.sum weight + b.sum weight := by
  have hsum : ∀ d : Dict κ β, d.sum weight = d.foldl (fun m k v => m + weight k v) 0 :=
    fun d => apply_sum (φ := id) (fun _ _ => rfl) weight d
  rw [hsum, hsum, hsum]
  exact fold_unionWith h a b

end ClusterAudit.Dict
