import ClusterAudit.Proofs.Dict
import ClusterAudit.Proofs.Reference

/-!
# When verdicts fail

A verdict fails if one of its parts does (`Verdict.Fails`). What the builtin checks look up is there
to be looked up, so one thing only can keep them from saying all they have to say about an object: a
quantity of a container that is compared with another and cannot be read (`Resource.isUnreadable`).
-/

namespace ClusterAudit

/-- Whether a container has a quantity of a resource both among its requests and among its limits,
and one of the two cannot be read. -/
def Container.isUnreadable (c : Container) (resource : String)
    (read : String → Except QuantityError Nat) : Bool :=
  match c.resources.requests.get? resource, c.resources.limits.get? resource with
  | some request, some limit => !((read request).isOk && (read limit).isOk)
  | _, _ => false

/-- Whether some container of a pod has unreadable quantities of CPU or of memory. -/
def Pod.isUnreadable (p : Pod) : Bool :=
  (p.initContainers ++ p.containers).any fun c =>
    c.isUnreadable "cpu" Quantity.cpuMillis || c.isUnreadable "memory" Quantity.memoryBytes

/-- Whether an object is a pod with unreadable quantities. -/
def Resource.isUnreadable : Resource → Bool
  | pod p => p.isUnreadable
  | _ => false

namespace Verdict

/-- A verdict on an object fails if a condition holds, and then over the shape of the object. -/
structure Fails (t : Target) (p : Bool) (v : Verdict) : Prop where
  isSome_eq : v.failure.isSome = p
  shape : ∀ e, v.failure = some e → ∃ text, e = .unexpectedShape t.fqn.text text

variable {t : Target} {a b v : Verdict} {p q : Bool}

/-- One verdict after the other fails like the first, or if that does not fail like the second. -/
theorem failure_append (a b : Verdict) : (a ++ b).failure = a.failure.or b.failure := by
  show (a.append b).failure = _
  rw [append]
  cases ha : a.failure with
  | none => rfl
  | some e => exact ha

/-- A verdict without failure does not fail. -/
theorem fails_of_none (h : v.failure = none) : v.Fails t false := ⟨by rw [h]; rfl, by rw [h]; nofun⟩

/-- One verdict after the other fails if one of them does. -/
theorem Fails.append (ha : a.Fails t p) (hb : b.Fails t q) : (a ++ b).Fails t (p || q) := by
  refine ⟨by rw [failure_append, Option.isSome_or, ha.isSome_eq, hb.isSome_eq], fun e he => ?_⟩
  rw [failure_append] at he
  rcases Option.or_eq_some_iff.1 he with he | ⟨-, he⟩
  · exact ha.shape e he
  · exact hb.shape e he

/-- Verdicts one after the other fail if one of them does. -/
theorem fails_concat {α : Type} {f : α → Verdict} {p : α → Bool} (h : ∀ x, (f x).Fails t (p x))
    (l : List α) : (concat (l.map f)).Fails t (l.any p) := by
  induction l with
  | nil => exact fails_of_none rfl
  | cons x rest ih => exact (h x).append ih

end Verdict

open Verdict

namespace PodCheck

variable (t : Target) (c : Container)

theorem fails_onImage : (onImage t c).Fails t false := by
  refine fails_of_none ?_
  rw [onImage]
  split
  · rfl
  · split <;> rfl

theorem fails_onProbes : (onProbes t c).Fails t false := by
  refine fails_of_none ?_
  rw [onProbes]
  split <;> rfl

/-- A quantity that cannot be read is a failure. -/
theorem fails_onResult {resource : String} {read : String → Except QuantityError Nat} {raw : String}
    {f : Nat → Verdict} {p : Bool} (h : ∀ n, read raw = .ok n → (f n).Fails t p) :
    (onResult (quantity t c resource read raw) f).Fails t (!(read raw).isOk || p) := by
  rw [quantity]
  cases hraw : read raw with
  | ok n => exact h n hraw
  | error e => exact ⟨rfl, fun _ he => ⟨_, (Option.some.inj he).symm⟩⟩

/-- The comparison of two quantities fails if they are both there and one cannot be read. -/
theorem fails_onRatio (resource : String) (read : String → Except QuantityError Nat)
    (code : Code) : (onRatio t c resource read code).Fails t (c.isUnreadable resource read) := by
  rw [onRatio, Container.isUnreadable]
  cases c.resources.requests.get? resource with
  | none => exact fails_of_none rfl
  | some request =>
    cases c.resources.limits.get? resource with
    | none => exact fails_of_none rfl
    | some limit =>
      dsimp only
      rw [Bool.not_and]
      refine fails_onResult t c fun requested _ => ?_
      rw [← Bool.or_false (!(read limit).isOk)]
      refine fails_onResult t c fun limited _ => fails_of_none ?_
      split <;> rfl

/-- Without limits there is nothing to read. -/
theorem isUnreadable_of_limits {c : Container} (h : c.resources.limits.isEmpty) (resource : String)
    (read : String → Except QuantityError Nat) : c.isUnreadable resource read = false := by
  rw [Container.isUnreadable, Dict.isEmpty_iff.1 h resource]
  cases c.resources.requests.get? resource <;> rfl

/-- What is said of a container fails if it has unreadable quantities. -/
theorem fails_onResources : (onResources t c).Fails t
    (c.isUnreadable "cpu" Quantity.cpuMillis || c.isUnreadable "memory" Quantity.memoryBytes) := by
  rw [onResources]
  split
  · rename_i hlimits
    rw [isUnreadable_of_limits hlimits, isUnreadable_of_limits hlimits]
    exact fails_of_none rfl
  · exact (fails_onRatio t c "cpu" _ 109).append (fails_onRatio t c "memory" _ 110)

/-- The verdict on a pod fails if the pod has unreadable quantities. -/
theorem fails_verdict {s : Snapshot} (h : s.HasTables) {loaded : Bool}
    (hloaded : s.isLoaded .serviceAccounts = .ok loaded) (p : Pod) :
    (verdict s loaded t p).Fails t p.isUnreadable := by
  have hlabels : (onLabels t p).Fails t false := by
    refine fails_of_none ?_
    rw [onLabels]
    split <;> rfl
  have howners : (concat (p.metadata.owners.map (onOwner s t p))).Fails t false :=
    fails_of_none (tells_concat fun o _ => tells_onOwner h t p o).failure
  have haccount : (onAccount s loaded t p).Fails t false :=
    fails_of_none (tells_onAccount h t hloaded p).failure
  have hinit := fails_concat (fun c => (fails_onImage t c).append (fails_onResources t c))
    p.initContainers
  have hcontainers := fails_concat (fun c => ((fails_onImage t c).append (fails_onProbes t c)).append
    (fails_onResources t c)) p.containers
  have hall := (((hlabels.append howners).append haccount).append hinit).append hcontainers
  simp only [Bool.false_or] at hall
  rw [Pod.isUnreadable, List.any_append]
  exact hall

end PodCheck

end ClusterAudit
