/-!
# Results that may be errors

When a computation in several steps succeeds, each step did (`bind_eq_ok_iff`, `map_eq_ok_iff`); when
it fails, one did after successes of those before it (`bind_eq_error_iff`). A loop that changes one
part of its state is a loop on that part (`foldlM_part`). `Alike` compares two results: both are the
same error, or both are values that are related. A computation that takes a list up to the first
fault in it `Scans` the list.
-/

namespace ClusterAudit

variable {ε α β : Type}

/-- A mapped result is a success of something that maps to it. -/
theorem map_eq_ok_iff {x : Except ε α} {f : α → β} {b : β} :
    x.map f = .ok b ↔ ∃ a, x = .ok a ∧ f a = b := by
  cases x with
  | error e => simp [Except.map]
  | ok a => simp [Except.map]

/-- A computation in two steps succeeds when both do. -/
theorem bind_eq_ok_iff {x : Except ε α} {f : α → Except ε β} {b : β} :
    x >>= f = .ok b ↔ ∃ a, x = .ok a ∧ f a = .ok b := by
  cases x with
  | error e => simp [bind, Except.bind]
  | ok a => simp [bind, Except.bind]

/-- A computation in two steps fails in the first, or in the second after a success of the first. -/
theorem bind_eq_error_iff {x : Except ε α} {f : α → Except ε β} {e : ε} :
    x >>= f = .error e ↔ x = .error e ∨ ∃ a, x = .ok a ∧ f a = .error e := by
  cases x with
  | error e => simp [bind, Except.bind]
  | ok a => simp [bind, Except.bind]

/-- The value of a result is there if the result is a success. -/
theorem toOption_eq_some_iff {x : Except ε α} {a : α} : x.toOption = some a ↔ x = .ok a := by
  cases x with
  | error e => simp [Except.toOption]
  | ok b => simp [Except.toOption]

/-- The error of a result, if it is one. -/
def error? : Except ε α → Option ε
  | .ok _ => none
  | .error e => some e

/-- The error of a result is there if the result is that error. -/
theorem error?_eq_some_iff {x : Except ε α} {e : ε} : error? x = some e ↔ x = .error e := by
  cases x <;> simp [error?]

/-- A result that has no error is a success. -/
theorem error?_eq_none_iff {x : Except ε α} : error? x = none ↔ ∃ a, x = .ok a := by
  cases x <;> simp [error?]

/-- A loop whose steps see and change one part of the state changes that part as the loop on the
part alone does. -/
theorem foldlM_part {σ : Type} {part : σ → β} {change : σ → β → σ}
    (hpart : ∀ s b, part (change s b) = b) (hchange : ∀ s b, change (change s b) = change s)
    (hsame : ∀ s, change s (part s) = s) (f : β → α → Except ε β) (l : List α) (s : σ) :
    l.foldlM (fun s a => (f (part s) a).map (change s)) s =
      (l.foldlM f (part s)).map (change s) := by
  induction l generalizing s with
  | nil => exact congrArg Except.ok (hsame s).symm
  | cons a rest ih =>
    rw [List.foldlM_cons, List.foldlM_cons]
    cases f (part s) a with
    | error e => rfl
    | ok b =>
      have hrest := ih (change s b)
      rw [hpart, hchange] at hrest
      exact hrest

/-- Two results fail with the same error, or succeed with values that are related. -/
def Alike (R : α → β → Prop) : Except ε α → Except ε β → Prop
  | .ok a, .ok b => R a b
  | .error e, .error e' => e = e'
  | _, _ => False

/-- What is made of results that are alike is alike. -/
theorem Alike.map {γ δ : Type} {R : α → β → Prop} {Q : γ → δ → Prop} {f : α → γ} {f' : β → δ}
    {x : Except ε α} {y : Except ε β} (h : Alike R x y) (hf : ∀ a b, R a b → Q (f a) (f' b)) :
    Alike Q (x.map f) (y.map f') := by
  cases x with
  | error e =>
    cases y with
    | error e' => exact h
    | ok b => exact h
  | ok a =>
    cases y with
    | error e' => exact h
    | ok b => exact hf a b h

/-- Computations that go on alike from results that are alike are alike. -/
theorem Alike.bind {γ δ : Type} {R : α → β → Prop} {Q : γ → δ → Prop} {f : α → Except ε γ}
    {f' : β → Except ε δ} {x : Except ε α} {y : Except ε β} (h : Alike R x y)
    (hf : ∀ a b, R a b → Alike Q (f a) (f' b)) : Alike Q (x >>= f) (y >>= f') := by
  cases x with
  | error e =>
    cases y with
    | error e' => exact h
    | ok b => exact False.elim h
  | ok a =>
    cases y with
    | error e' => exact False.elim h
    | ok b => exact hf a b h

/-- A result is like itself. -/
theorem Alike.refl {R : α → α → Prop} (hR : ∀ a, R a a) (x : Except ε α) : Alike R x x := by
  cases x with
  | error e => exact rfl
  | ok a => exact hR a

/-! ## Stopping at the first fault -/

section scans
variable {τ : Type} {check : τ → Option ε} {l m : List τ}

/-- A computation scans a list if its error, if any, is the first that a check finds in the list. -/
def Scans (check : τ → Option ε) (l : List τ) (x : Except ε α) : Prop :=
  error? x = l.findSome? check

namespace Scans

/-- A success scans the empty list. -/
theorem ok (check : τ → Option ε) (a : α) : Scans check [] (.ok a : Except ε α) := rfl

/-- Computations one after the other scan their lists one after the other. -/
theorem bind {x : Except ε α} {f : α → Except ε β} (hx : Scans check l x)
    (hf : ∀ a, Scans check m (f a)) : Scans check (l ++ m) (x >>= f) := by
  rw [Scans, List.findSome?_append, ← hx]
  cases x with
  | error e => rfl
  | ok a => exact hf a

/-- What is made of the value of a computation does not matter. -/
theorem bind_ok {x : Except ε α} (hx : Scans check l x) (f : α → β) :
    Scans check l (x >>= fun a => .ok (f a)) := by
  have h := hx.bind fun a => Scans.ok check (f a)
  rwa [List.append_nil] at h

/-- A loop scans the lists of its steps one after the other. -/
theorem foldlM {σ : Type} {texts : α → List τ} {f : σ → α → Except ε σ} {as : List α}
    (hf : ∀ s a, Scans check (texts a) (f s a)) (s : σ) :
    Scans check (as.flatMap texts) (as.foldlM f s) := by
  induction as generalizing s with
  | nil => exact .ok check s
  | cons a rest ih =>
    rw [List.flatMap_cons, List.foldlM_cons]
    exact (hf s a).bind ih

/-- A computation that scans a list fails if something in the list is found, and reports what is
found first. -/
theorem eq_error_iff {x : Except ε α} (hx : Scans check l x) {e : ε} :
    x = .error e ↔ ∃ before t after, l = before ++ t :: after ∧ check t = some e ∧
      ∀ u ∈ before, check u = none := by
  rw [← error?_eq_some_iff, hx, List.findSome?_eq_some_iff]

/-- A computation that scans a list fails if something is found in the list. -/
theorem exists_eq_error_iff {x : Except ε α} (hx : Scans check l x) :
    (∃ e, x = .error e) ↔ ∃ t ∈ l, ∃ e, check t = some e := by
  simp only [← error?_eq_some_iff, ← Option.isSome_iff_exists]
  rw [hx, List.findSome?_isSome_iff]

/-- A computation that scans a list succeeds if nothing is found in the list. -/
theorem exists_eq_ok_iff {x : Except ε α} (hx : Scans check l x) :
    (∃ a, x = .ok a) ↔ ∀ t ∈ l, check t = none := by
  rw [← error?_eq_none_iff, hx, List.findSome?_eq_none_iff]

end Scans

end scans

end ClusterAudit
