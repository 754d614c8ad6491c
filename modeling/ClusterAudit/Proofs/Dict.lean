import ClusterAudit.Dict
import Mathlib.Algebra.Ring.Nat
import Mathlib.Data.List.Nodup

/-!
# Dictionaries as functions of their keys

A dictionary is determined by what it binds each key to (`Dict.ext_get?`), so an update is described
by the bindings it leaves: `get?_alter_self` and `get?_alter_of_ne`, from which the lemmas on
`insert` and `modify` follow. Listing agrees with looking up (`mem_entries_iff`, `mem_keys_iff`),
and a list that ascends strictly in some key is determined by its members (`eq_of_ascending`). A
dictionary is built again from its bindings, in whatever order they come (`ofList_eq_of_perm`).

A fold takes every key once, so what it does to a key is what its step does there (`see_foldl`), and
a step that an alteration adds to its key can be taken last if steps can be exchanged
(`foldl_alter`). `sum` adds up a weight of the bindings, and an alteration adds what it adds to its
key (`sum_alter`).
-/

namespace ClusterAudit

/-- Two lists that ascend strictly in the same key and have the same members are equal. -/
theorem eq_of_ascending {α κ : Type} [Ord κ] [Std.TransOrd κ] (key : α → κ) {l m : List α}
    (hl : l.Pairwise fun a b => compare (key a) (key b) = .lt)
    (hm : m.Pairwise fun a b => compare (key a) (key b) = .lt)
    (h : ∀ a, a ∈ l ↔ a ∈ m) : l = m := by
  have nodup : ∀ {n : List α},
      n.Pairwise (fun a b => compare (key a) (key b) = .lt) → n.Nodup := by
    refine fun hn => hn.imp fun {a b} hab heq => ?_
    subst heq
    simp at hab
  refine List.Perm.eq_of_pairwise (fun a b _ _ hab hba => ?_) hl hm
    ((List.perm_ext_iff_of_nodup (nodup hl) (nodup hm)).2 h)
  exact absurd hba (Std.OrientedCmp.not_lt_of_lt hab)

namespace Dict

variable {κ β γ : Type} [Ord κ]

/-- Dictionaries that list the same bindings are the same. -/
theorem ext_entries {a b : Dict κ β} (h : a.entries = b.entries) : a = b := by
  cases a
  cases b
  simpa using h

/-! ## Bindings of an ascending list -/

/-- A key below every key of a list has no binding there. -/
theorem findList_eq_none_of_lt {k : κ} {l : List (κ × β)}
    (h : ∀ e ∈ l, compare k e.1 = .lt) : findList k l = none := by
  induction l with
  | nil => rfl
  | cons o rest ih =>
    have ho := h o List.mem_cons_self
    rw [findList, if_neg (by simp [ho])]
    exact ih fun e he => h e (List.mem_cons_of_mem _ he)

section lookup
variable [Std.LawfulEqOrd κ]

/-- In an ascending list the altered key has the altered binding. -/
theorem findList_alterList_self [Std.TransOrd κ] (k : κ) (f : Option β → Option β)
    {l : List (κ × β)} (h : l.Pairwise fun a b => compare a.1 b.1 = .lt) :
    findList k (alterList k f l) = f (findList k l) := by
  induction l with
  | nil =>
    rw [alterList, findList]
    split <;> simp_all [findList]
  | cons o rest ih =>
    obtain ⟨k', b'⟩ := o
    obtain ⟨hhead, htail⟩ := List.pairwise_cons.1 h
    have hlt : compare k k' = .lt → findList k ((k', b') :: rest) = none := by
      intro hk
      refine findList_eq_none_of_lt fun e he => ?_
      rcases List.mem_cons.1 he with rfl | he
      · exact hk
      · exact Std.TransCmp.lt_trans hk (hhead e he)
    rw [alterList]
    split
    · rename_i hk
      rw [hlt hk]
      split
      · rename_i hf
        rw [hlt hk, hf]
      · rename_i hf
        simp [findList, hf]
    · rename_i hk
      obtain rfl : k = k' := Std.LawfulEqOrd.eq_of_compare hk
      have hrest : findList k rest = none := findList_eq_none_of_lt hhead
      split <;> rename_i hf <;> simp [findList, hf, hrest]
    · rename_i hk
      simp only [findList, hk, reduceCtorEq, if_false]
      exact ih htail

/-- Every other key of an ascending list keeps its binding. -/
theorem findList_alterList_of_ne {k k' : κ} (hne : k' ≠ k) (f : Option β → Option β)
    (l : List (κ × β)) : findList k' (alterList k f l) = findList k' l := by
  have hcmp : compare k' k ≠ .eq := fun h => hne (Std.LawfulEqOrd.eq_of_compare h)
  induction l with
  | nil =>
    rw [alterList]
    split <;> simp [findList, hcmp]
  | cons o rest ih =>
    obtain ⟨k₁, b₁⟩ := o
    rw [alterList]
    split
    · split <;> simp [findList, hcmp]
    · rename_i hk
      obtain rfl : k = k₁ := Std.LawfulEqOrd.eq_of_compare hk
      split <;> simp [findList, hcmp]
    · simp only [findList, ih]

/-- In an ascending list the pairs are the bindings. -/
theorem mem_iff_findList {k : κ} {b : β} {l : List (κ × β)}
    (h : l.Pairwise fun a b => compare a.1 b.1 = .lt) : (k, b) ∈ l ↔ findList k l = some b := by
  induction l with
  | nil => simp [findList]
  | cons o rest ih =>
    obtain ⟨k', b'⟩ := o
    obtain ⟨hhead, htail⟩ := List.pairwise_cons.1 h
    rw [findList, List.mem_cons, ih htail]
    by_cases hk : k = k'
    · subst hk
      have hrest : findList k rest = none := findList_eq_none_of_lt hhead
      simp [hrest, eq_comm]
    · simp [hk]

/-- In an ascending list the pairs that a function keeps are the kept bindings. -/
theorem findList_filterMap (f : β → Option γ) (k : κ) {l : List (κ × β)}
    (h : l.Pairwise fun a b => compare a.1 b.1 = .lt) :
    findList k (l.filterMap fun e => (f e.2).map (e.1, ·)) = (findList k l).bind f := by
  induction l with
  | nil => rfl
  | cons o rest ih =>
    obtain ⟨k', b⟩ := o
    obtain ⟨hhead, htail⟩ := List.pairwise_cons.1 h
    have ih := ih htail
    by_cases hk : k = k'
    · subst hk
      -- the key of the head is bound nowhere else, so nothing is left of it if the head is dropped
      rw [findList_eq_none_of_lt hhead] at ih
      cases hb : f b with
      | none => simpa [findList, hb] using ih
      | some c => simp [findList, hb]
    · cases hb : f b with
      | none => simpa [findList, hb, hk] using ih
      | some c => simpa [findList, hb, hk] using ih

/-- If the step of a fold at a key changes what is seen of that key alone, then the fold over an
ascending list makes of it what the step with its binding does. -/
theorem foldl_findList {σ ω : Type} {step : σ → κ → β → σ} (k : κ) (see : σ → ω)
    (change : ω → β → ω) (hself : ∀ s b, see (step s k b) = change (see s) b)
    (hother : ∀ s k' b, k ≠ k' → see (step s k' b) = see s) {l : List (κ × β)}
    (h : l.Pairwise fun a b => compare a.1 b.1 = .lt) (s : σ) :
    see (l.foldl (fun s e => step s e.1 e.2) s) =
      ((findList k l).map (change (see s))).getD (see s) := by
  induction l generalizing s with
  | nil => rfl
  | cons o rest ih =>
    obtain ⟨k', b⟩ := o
    obtain ⟨hhead, htail⟩ := List.pairwise_cons.1 h
    rw [List.foldl_cons, ih htail]
    by_cases hk : k = k'
    · subst hk
      simp [findList, findList_eq_none_of_lt hhead, hself]
    · simp [findList, hk, hother s k' b hk]

end lookup

/-! ## Looking up -/

/-- The empty dictionary binds nothing. -/
@[simp] theorem get?_empty (k : κ) : (∅ : Dict κ β).get? k = none := rfl

/-- A changed value is bound to the key of the old one. -/
@[simp] theorem get?_map (f : β → γ) (d : Dict κ β) (k : κ) :
    (d.map f).get? k = (d.get? k).map f := by
  have aux : ∀ l : List (κ × β),
      findList k (l.map fun e => (e.1, f e.2)) = (findList k l).map f := by
    intro l
    induction l with
    | nil => rfl
    | cons o rest ih =>
      rw [List.map_cons, findList, findList, ih]
      split <;> rfl
  exact aux d.entries

/-- The changed values are listed in the order of the old ones. -/
theorem values_map (f : β → γ) (d : Dict κ β) : (d.map f).values = d.values.map f := by
  rw [values, values, List.map_map]
  exact List.map_map

/-- A fold over changed values makes the change on the way. -/
theorem foldl_map {σ : Type} (f : β → γ) (step : σ → κ → γ → σ) (s : σ) (d : Dict κ β) :
    (d.map f).foldl step s = d.foldl (fun s k v => step s k (f v)) s :=
  List.foldl_map

/-- The keys ascend strictly. -/
theorem ascending_keys (d : Dict κ β) : d.keys.Pairwise fun a b => compare a b = .lt :=
  List.Pairwise.map _ (fun _ _ h => h) d.ascending

section listing
variable [Std.LawfulEqOrd κ] {d : Dict κ β} {k : κ}

/-- The listed pairs are the bindings. -/
theorem mem_entries_iff {v : β} : (k, v) ∈ d.entries ↔ d.get? k = some v :=
  mem_iff_findList d.ascending

/-- The listed keys are the bound ones. -/
theorem mem_keys_iff : k ∈ d.keys ↔ (d.get? k).isSome := by
  rw [keys, List.mem_map, Option.isSome_iff_exists]
  constructor
  · rintro ⟨⟨k', v⟩, he, rfl⟩
    exact ⟨v, mem_entries_iff.1 he⟩
  · rintro ⟨v, hv⟩
    exact ⟨(k, v), mem_entries_iff.2 hv, rfl⟩

/-- The listed values are those bound to some key. -/
theorem mem_values_iff {v : β} : v ∈ d.values ↔ ∃ k, d.get? k = some v := by
  rw [values, List.mem_map]
  constructor
  · rintro ⟨⟨k', w⟩, he, rfl⟩
    exact ⟨k', mem_entries_iff.1 he⟩
  · rintro ⟨k', hv⟩
    exact ⟨(k', v), mem_entries_iff.2 hv, rfl⟩

/-- No key is listed twice. -/
theorem nodup_keys (d : Dict κ β) : (d.entries.map (·.1)).Nodup :=
  d.ascending_keys.imp fun {a b} hab heq => by
    subst heq
    simp at hab

/-- The values are what the keys are bound to. -/
theorem values_eq_filterMap (d : Dict κ β) : d.values = d.keys.filterMap d.get? := by
  have aux : ∀ l : List (κ × β), (∀ e ∈ l, e ∈ d.entries) →
      l.map (·.2) = (l.map (·.1)).filterMap d.get? := by
    intro l hl
    induction l with
    | nil => rfl
    | cons e rest ih =>
      have he : d.get? e.1 = some e.2 := mem_entries_iff.1 (hl e List.mem_cons_self)
      rw [List.map_cons, List.map_cons, List.filterMap_cons_some he,
        ih fun o ho => hl o (List.mem_cons_of_mem _ ho)]
  exact aux d.entries fun _ he => he

/-- What is left of a binding of which a function keeps something. -/
@[simp] theorem get?_filterMap (f : β → Option γ) (d : Dict κ β) (k : κ) :
    (d.filterMap f).get? k = (d.get? k).bind f :=
  findList_filterMap f k d.ascending

/-- If the step of a fold at a key changes what is seen of that key alone, then the fold makes of it
what the step with its binding does. -/
theorem see_foldl {σ ω : Type} {step : σ → κ → β → σ} (k : κ) (see : σ → ω) (change : ω → β → ω)
    (hself : ∀ s b, see (step s k b) = change (see s) b)
    (hother : ∀ s k' b, k ≠ k' → see (step s k' b) = see s) (s : σ) (d : Dict κ β) :
    see (d.foldl step s) = ((d.get? k).map (change (see s))).getD (see s) :=
  foldl_findList k see change hself hother d.ascending s

/-- A dictionary is empty if it binds no key. -/
theorem isEmpty_iff : d.isEmpty ↔ ∀ k, d.get? k = none := by
  rw [isEmpty, List.isEmpty_iff]
  constructor
  · intro h k
    rw [get?, h]
    rfl
  · intro h
    refine List.eq_nil_iff_forall_not_mem.2 fun e he => ?_
    have hget := mem_entries_iff.1 (show (e.1, e.2) ∈ d.entries from he)
    simp [h] at hget

/-- A dictionary that binds some key is not empty. -/
theorem isEmpty_eq_false {v : β} (h : d.get? k = some v) : d.isEmpty = false := by
  refine Bool.eq_false_iff.2 fun hempty => ?_
  rw [isEmpty_iff.1 hempty k] at h
  cases h

end listing

section update
variable [Std.TransOrd κ] [Std.LawfulEqOrd κ] {a b d : Dict κ β} {k k' : κ}

/-- The altered key has the altered binding. -/
@[simp] theorem get?_alter_self (d : Dict κ β) (k : κ) (f : Option β → Option β) :
    (d.alter k f).get? k = f (d.get? k) :=
  findList_alterList_self k f d.ascending

/-- Every other key keeps its binding. -/
theorem get?_alter_of_ne (h : k' ≠ k) (f : Option β → Option β) :
    (d.alter k f).get? k' = d.get? k' :=
  findList_alterList_of_ne h f d.entries

/-- An inserted key has the inserted binding. -/
@[simp] theorem get?_insert_self (d : Dict κ β) (k : κ) (v : β) : (d.insert k v).get? k = some v :=
  get?_alter_self d k _

/-- An insertion keeps the binding of every other key. -/
theorem get?_insert_of_ne (h : k' ≠ k) (v : β) : (d.insert k v).get? k' = d.get? k' :=
  get?_alter_of_ne h _

/-- A modified key has the modified binding, if it had one. -/
@[simp] theorem get?_modify_self (d : Dict κ β) (k : κ) (f : β → β) :
    (d.modify k f).get? k = (d.get? k).map f :=
  get?_alter_self d k _

/-- A modification keeps the binding of every other key. -/
theorem get?_modify_of_ne (h : k' ≠ k) (f : β → β) : (d.modify k f).get? k' = d.get? k' :=
  get?_alter_of_ne h _

/-- Dictionaries with the same bindings are the same. -/
theorem ext_get? (h : ∀ k, a.get? k = b.get? k) : a = b := by
  refine ext_entries (eq_of_ascending (·.1) a.ascending b.ascending fun e => ?_)
  rw [show e = (e.1, e.2) from rfl, mem_entries_iff, mem_entries_iff, h]

/-- Dictionaries that bind the same keys list the same keys. -/
theorem keys_eq_of_isSome {c : Dict κ γ} (h : ∀ k, (a.get? k).isSome = (c.get? k).isSome) :
    a.keys = c.keys :=
  eq_of_ascending id a.ascending_keys c.ascending_keys fun k => by
    rw [mem_keys_iff, mem_keys_iff, h]

/-- Dictionaries with related values are the same if a change of the values does not tell related
ones apart. -/
theorem map_eq_of_rel {R : β → β → Prop} {f : β → γ} (h : ∀ k, Option.Rel R (a.get? k) (b.get? k))
    (hf : ∀ v w, R v w → f v = f w) : a.map f = b.map f := by
  refine ext_get? fun k => ?_
  have hk := h k
  rw [get?_map, get?_map]
  generalize a.get? k = x, b.get? k = y at hk ⊢
  cases hk with
  | none => rfl
  | some hvw => exact congrArg some (hf _ _ hvw)

/-- Alterations that agree on the binding of a key are the same. -/
theorem alter_congr {f g : Option β → Option β} (h : f (d.get? k) = g (d.get? k)) :
    d.alter k f = d.alter k g := by
  refine ext_get? fun k' => ?_
  by_cases hk : k' = k
  · subst hk
    rw [get?_alter_self, get?_alter_self, h]
  · rw [get?_alter_of_ne hk, get?_alter_of_ne hk]

/-- If an alteration adds a last step to the step of its key, and the other steps can be exchanged
with that one, then a fold takes it last. -/
theorem foldl_alter {σ : Type} {step : σ → κ → β → σ} {g : σ → σ} {k : κ} {f : Option β → β}
    (hnew : ∀ s, step s k (f none) = g s) (hold : ∀ s b, step s k (f (some b)) = g (step s k b))
    (hcomm : ∀ s k' b, step (g s) k' b = g (step s k' b)) (d : Dict κ β) (s : σ) :
    (d.alter k fun old => some (f old)).foldl step s = g (d.foldl step s) := by
  have hlast : ∀ (l : List (κ × β)) (s : σ), l.foldl (fun s e => step s e.1 e.2) (g s) =
      g (l.foldl (fun s e => step s e.1 e.2) s) :=
    fun l s => List.foldl_hom g fun s e => hcomm s e.1 e.2
  have aux : ∀ (l : List (κ × β)) (s : σ),
      (alterList k (fun old => some (f old)) l).foldl (fun s e => step s e.1 e.2) s =
        g (l.foldl (fun s e => step s e.1 e.2) s) := by
    intro l
    induction l with
    | nil => exact hnew
    | cons o rest ih =>
      obtain ⟨k', b⟩ := o
      intro s
      rw [alterList]
      split
      · rw [List.foldl_cons, hnew, hlast]
      · rename_i hk
        obtain rfl : k = k' := Std.LawfulEqOrd.eq_of_compare hk
        rw [List.foldl_cons, hold, hlast, List.foldl_cons]
      · rw [List.foldl_cons, ih, List.foldl_cons]
  exact aux d.entries s

end update

/-! ## Building from lists -/

section building
variable [Std.TransOrd κ] [Std.LawfulEqOrd κ] {l : List (κ × β)} {d : Dict κ β} {k : κ} {b : β}

/-- Insertions of other keys keep the binding of a key. -/
theorem get?_foldl_insert_of_not_mem (h : k ∉ l.map (·.1)) (d : Dict κ β) :
    (l.foldl (fun d e => d.insert e.1 e.2) d).get? k = d.get? k := by
  induction l generalizing d with
  | nil => rfl
  | cons e rest ih =>
    rw [List.map_cons, List.mem_cons, not_or] at h
    rw [List.foldl_cons, ih h.2, get?_insert_of_ne h.1]

/-- Of a list without repeated keys every pair becomes a binding. -/
theorem get?_ofList (hkeys : (l.map (·.1)).Nodup) (h : (k, b) ∈ l) :
    (ofList l).get? k = some b := by
  have aux : ∀ d : Dict κ β, (l.foldl (fun d e => d.insert e.1 e.2) d).get? k = some b := by
    induction l with
    | nil => cases h
    | cons e rest ih =>
      intro d
      obtain ⟨hhead, htail⟩ := List.nodup_cons.1 hkeys
      rcases List.mem_cons.1 h with rfl | h
      · rw [List.foldl_cons, get?_foldl_insert_of_not_mem hhead, get?_insert_self]
      · exact ih htail h _
  exact aux ∅

/-- A list without repeated keys holds the bindings of the dictionary built from it. -/
theorem mem_ofList_iff (hkeys : (l.map (·.1)).Nodup) {e : κ × β} :
    e ∈ (ofList l).entries ↔ e ∈ l :=
  ⟨mem_of_mem_ofList, fun h => mem_entries_iff.2 (get?_ofList hkeys h)⟩

/-- A dictionary is built from its bindings in any order. -/
theorem ofList_eq_of_perm (h : l.Perm d.entries) : ofList l = d := by
  have hkeys : (l.map (·.1)).Nodup := (h.map _).nodup_iff.2 d.nodup_keys
  refine ext_get? fun k => Option.ext fun b => ?_
  rw [← mem_entries_iff, ← mem_entries_iff, mem_ofList_iff hkeys, h.mem_iff]

/-- A list without repeated keys is listed again, in key order. -/
theorem perm_entries_ofList (hkeys : (l.map (·.1)).Nodup) : (ofList l).entries.Perm l :=
  (List.perm_ext_iff_of_nodup (List.Nodup.of_map _ (ofList l).nodup_keys)
    (List.Nodup.of_map _ hkeys)).2 fun _ => mem_ofList_iff hkeys

/-- A dictionary is built from changed values by changing the values of one built from the old. -/
theorem ofList_map (f : β → γ) (hkeys : (l.map (·.1)).Nodup) :
    ofList (l.map fun e => (e.1, f e.2)) = (ofList l).map f :=
  ofList_eq_of_perm ((perm_entries_ofList hkeys).symm.map fun e => (e.1, f e.2))

end building

/-! ## Sums over the bindings -/

/-- The sum of the weights of all bindings. -/
def sum (weight : κ → β → Nat) (d : Dict κ β) : Nat := (d.entries.map fun e => weight e.1 e.2).sum

/-- The sum over changed values is that of the changed weights. -/
theorem sum_map (weight : κ → γ → Nat) (f : β → γ) (d : Dict κ β) :
    (d.map f).sum weight = d.sum fun k v => weight k (f v) := by
  rw [sum, sum, map, mapWithKey, List.map_map]
  rfl

/-- What is seen of a sum through an additive function is folded up from the weights. -/
theorem apply_sum {M : Type} [AddCommSemigroup M] {φ : Nat → M}
    (hφ : ∀ m n, φ (m + n) = φ m + φ n) (weight : κ → β → Nat) (d : Dict κ β) :
    φ (d.sum weight) = d.foldl (fun m k v => m + φ (weight k v)) (φ 0) := by
  have aux : ∀ (l : List (κ × β)) (n : Nat), φ (n + (l.map fun e => weight e.1 e.2).sum) =
      l.foldl (fun m e => m + φ (weight e.1 e.2)) (φ n) := by
    intro l
    induction l with
    | nil => exact fun _ => rfl
    | cons e rest ih =>
      intro n
      rw [List.map_cons, List.sum_cons, ← Nat.add_assoc, ih, hφ, List.foldl_cons]
  have h := aux d.entries 0
  rwa [Nat.zero_add] at h

/-- If what an alteration adds to the weight of a key is seen through an additive function, then the
same is seen to be added to the sum. -/
theorem apply_sum_alter {M : Type} [AddCommSemigroup M] {φ : Nat → M}
    (hφ : ∀ m n, φ (m + n) = φ m + φ n) [Std.TransOrd κ] [Std.LawfulEqOrd κ] {weight : κ → β → Nat}
    {k : κ} {f : Option β → β} {n : M} (hnew : φ (weight k (f none)) = n)
    (hold : ∀ b, φ (weight k (f (some b))) = φ (weight k b) + n) (d : Dict κ β) :
    φ ((d.alter k fun old => some (f old)).sum weight) = φ (d.sum weight) + n := by
  rw [apply_sum hφ, apply_sum hφ]
  refine foldl_alter (g := (· + n)) (fun m => ?_) (fun m b => ?_) (fun m k' b => ?_) d (φ 0)
  · exact congrArg (m + ·) hnew
  · exact (congrArg (m + ·) (hold b)).trans (add_assoc m _ n).symm
  · show m + n + φ (weight k' b) = m + φ (weight k' b) + n
    rw [add_assoc, add_comm n, add_assoc]

/-- An alteration that adds to the weight of a key adds as much to the sum. -/
theorem sum_alter [Std.TransOrd κ] [Std.LawfulEqOrd κ] {weight : κ → β → Nat} {k : κ}
    {f : Option β → β} {n : Nat} (hnew : weight k (f none) = n)
    (hold : ∀ b, weight k (f (some b)) = weight k b + n) (d : Dict κ β) :
    (d.alter k fun old => some (f old)).sum weight = d.sum weight + n :=
  apply_sum_alter (φ := id) (fun _ _ => rfl) hnew hold d

/-- The sum over the values that a function keeps. -/
theorem sum_filterMap (weight : κ → γ → Nat) (f : β → Option γ) (d : Dict κ β) :
    (d.filterMap f).sum weight = d.sum fun k v => ((f v).map (weight k)).getD 0 := by
  have aux : ∀ l : List (κ × β),
      ((l.filterMap fun e => (f e.2).map (e.1, ·)).map fun e => weight e.1 e.2).sum =
        (l.map fun e => ((f e.2).map (weight e.1)).getD 0).sum := by
    intro l
    induction l with
    | nil => rfl
    | cons e rest ih =>
      rw [List.map_cons, List.sum_cons, ← ih]
      cases hf : f e.2 with
      | none => rw [List.filterMap_cons_none (by rw [hf]; rfl)]; exact (Nat.zero_add _).symm
      | some v => rw [List.filterMap_cons_some (by rw [hf]; rfl)]; rfl
  exact aux d.entries

/-- Sums of weights that are the same for all bindings are the same. -/
theorem sum_congr {weight weight' : κ → β → Nat} {d : Dict κ β}
    (h : ∀ e ∈ d.entries, weight e.1 e.2 = weight' e.1 e.2) : d.sum weight = d.sum weight' :=
  congrArg List.sum (List.map_congr_left h)

end Dict

end ClusterAudit
