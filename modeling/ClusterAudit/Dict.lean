/-!
# Dictionaries in key order

A `Dict κ β` is a finite map whose entries are kept in strictly ascending key order. The order is a
field of the type, so two dictionaries with the same bindings are the same value: equality of
dictionaries is equality of what they hold, and listing one always lists it in key order.

Every update goes through `alterList`, which changes one binding and leaves the rest in place.
-/

namespace ClusterAudit

/-- A finite map from `κ` to `β`, listed in ascending key order without repetition. -/
structure Dict (κ β : Type) [Ord κ] where
  /-- The bindings, in key order. -/
  entries : List (κ × β)
  /-- Keys strictly ascend, so each key is bound at most once. -/
  ascending : entries.Pairwise (fun a b => compare a.1 b.1 = .lt)
  deriving DecidableEq

namespace Dict

variable {κ β γ : Type} [Ord κ]

/-! ## One-binding updates on an ascending list -/

/-- The list with the binding of `k` replaced by what `f` makes of it. -/
def alterList (k : κ) (f : Option β → Option β) : List (κ × β) → List (κ × β)
  | [] => match f none with
    | none => []
    | some b => [(k, b)]
  | (k', b') :: rest =>
    match compare k k' with
    | .lt => match f none with
      | none => (k', b') :: rest
      | some b => (k, b) :: (k', b') :: rest
    | .eq => match f (some b') with
      | none => rest
      | some b => (k', b) :: rest
    | .gt => (k', b') :: alterList k f rest

/-- A key of the altered list is the altered key or an old one. -/
theorem key_of_mem_alterList {k : κ} {f : Option β → Option β} {e : κ × β} {l : List (κ × β)}
    (h : e ∈ alterList k f l) : e.1 = k ∨ ∃ o ∈ l, o.1 = e.1 := by
  induction l with
  | nil =>
    rw [alterList] at h
    split at h
    · simp at h
    · simp_all
  | cons o rest ih =>
    obtain ⟨k', b'⟩ := o
    rw [alterList] at h
    split at h
    · split at h
      · exact .inr ⟨e, h, rfl⟩
      · rcases List.mem_cons.1 h with rfl | h
        · exact .inl rfl
        · exact .inr ⟨e, h, rfl⟩
    · split at h
      · exact .inr ⟨e, List.mem_cons_of_mem _ h, rfl⟩
      · rcases List.mem_cons.1 h with rfl | h
        · exact .inr ⟨(k', b'), List.mem_cons_self, rfl⟩
        · exact .inr ⟨e, List.mem_cons_of_mem _ h, rfl⟩
    · rcases List.mem_cons.1 h with rfl | h
      · exact .inr ⟨(k', b'), List.mem_cons_self, rfl⟩
      · rcases ih h with h | ⟨o, ho, hk⟩
        · exact .inl h
        · exact .inr ⟨o, List.mem_cons_of_mem _ ho, hk⟩

/-- Altering one binding keeps the keys ascending. -/
theorem ascending_alterList [Std.TransOrd κ] [Std.LawfulEqOrd κ] (k : κ)
    (f : Option β → Option β) {l : List (κ × β)}
    (h : l.Pairwise (fun a b => compare a.1 b.1 = .lt)) :
    (alterList k f l).Pairwise (fun a b => compare a.1 b.1 = .lt) := by
  induction l with
  | nil =>
    rw [alterList]
    split <;> simp
  | cons o rest ih =>
    obtain ⟨k', b'⟩ := o
    have ⟨hhead, htail⟩ := List.pairwise_cons.1 h
    rw [alterList]
    split
    · rename_i hlt
      split
      · exact h
      · refine List.pairwise_cons.2 ⟨fun e he => ?_, h⟩
        rcases List.mem_cons.1 he with rfl | he
        · exact hlt
        · exact Std.TransCmp.lt_trans hlt (hhead e he)
    · split
      · exact htail
      · exact List.pairwise_cons.2 ⟨hhead, htail⟩
    · rename_i hgt
      refine List.pairwise_cons.2 ⟨fun e he => ?_, ih htail⟩
      rcases key_of_mem_alterList he with he | ⟨o, ho, hk⟩
      · rw [he]
        exact Std.OrientedCmp.lt_of_gt hgt
      · simpa [hk] using hhead o ho

/-! ## Building and reading -/

/-- The dictionary that binds nothing. -/
def empty : Dict κ β := ⟨[], .nil⟩

instance : EmptyCollection (Dict κ β) := ⟨empty⟩

instance : Inhabited (Dict κ β) := ⟨empty⟩

/-- The binding of `k` in an ascending list. -/
def findList (k : κ) : List (κ × β) → Option β
  | [] => none
  | (k', b) :: rest => if compare k k' = .eq then some b else findList k rest

/-- What `k` is bound to. -/
def get? (d : Dict κ β) (k : κ) : Option β := findList k d.entries

/-- Whether `k` is bound. -/
def contains (d : Dict κ β) (k : κ) : Bool := (d.get? k).isSome

/-- The keys, ascending. -/
def keys (d : Dict κ β) : List κ := d.entries.map (·.1)

/-- The values, in key order. -/
def values (d : Dict κ β) : List β := d.entries.map (·.2)

/-- The number of bindings. -/
def size (d : Dict κ β) : Nat := d.entries.length

/-- Whether nothing is bound. -/
def isEmpty (d : Dict κ β) : Bool := d.entries.isEmpty

/-- Every value changed by `f`, which also sees the key. -/
def mapWithKey (f : κ → β → γ) (d : Dict κ β) : Dict κ γ :=
  ⟨d.entries.map fun e => (e.1, f e.1 e.2), List.Pairwise.map _ (fun _ _ h => h) d.ascending⟩

/-- Every value changed by `f`. -/
def map (f : β → γ) (d : Dict κ β) : Dict κ γ := d.mapWithKey fun _ => f

/-- The values `f` keeps, each changed by it; the other bindings are dropped. -/
def filterMap (f : β → Option γ) (d : Dict κ β) : Dict κ γ :=
  ⟨d.entries.filterMap fun e => (f e.2).map (e.1, ·), by
    refine List.Pairwise.filterMap _ ?_ d.ascending
    intro a b hab x hx y hy
    obtain ⟨v, _, rfl⟩ := Option.map_eq_some_iff.1 hx
    obtain ⟨w, _, rfl⟩ := Option.map_eq_some_iff.1 hy
    exact hab⟩

/-- The bindings that satisfy `p`. -/
def filter (p : κ → β → Bool) (d : Dict κ β) : Dict κ β :=
  ⟨d.entries.filter fun e => p e.1 e.2, d.ascending.filter _⟩

/-- A fold over the bindings in key order. -/
def foldl {σ : Type} (f : σ → κ → β → σ) (s : σ) (d : Dict κ β) : σ :=
  d.entries.foldl (fun s e => f s e.1 e.2) s

/-- Whether some binding satisfies `p`. -/
def any (p : κ → β → Bool) (d : Dict κ β) : Bool := d.entries.any fun e => p e.1 e.2

/-- Whether every binding satisfies `p`. -/
def all (p : κ → β → Bool) (d : Dict κ β) : Bool := d.entries.all fun e => p e.1 e.2

section update
variable [Std.TransOrd κ] [Std.LawfulEqOrd κ]

/-- The dictionary with the binding of `k` replaced by what `f` makes of it. -/
def alter (d : Dict κ β) (k : κ) (f : Option β → Option β) : Dict κ β :=
  ⟨alterList k f d.entries, ascending_alterList k f d.ascending⟩

/-- The dictionary with `k` bound to `b`; an older binding of `k` is replaced. -/
def insert (d : Dict κ β) (k : κ) (b : β) : Dict κ β := d.alter k fun _ => some b

/-- The dictionary with the value of `k` changed by `f`, if `k` is bound. -/
def modify (d : Dict κ β) (k : κ) (f : β → β) : Dict κ β := d.alter k (Option.map f)

/-- The dictionary without a binding of `k`. -/
def erase (d : Dict κ β) (k : κ) : Dict κ β := d.alter k fun _ => none

/-- The bindings of the list; of two for one key the later one holds. -/
def ofList (l : List (κ × β)) : Dict κ β := l.foldl (fun d e => d.insert e.1 e.2) ∅

/-- A binding after an insertion is the new one or an old one. -/
theorem mem_insert {d : Dict κ β} {k : κ} {b : β} {e : κ × β}
    (h : e ∈ (d.insert k b).entries) : e = (k, b) ∨ e ∈ d.entries := by
  have aux : ∀ l : List (κ × β), e ∈ alterList k (fun _ => some b) l → e = (k, b) ∨ e ∈ l := by
    intro l
    induction l with
    | nil => intro h; simpa [alterList] using h
    | cons o rest ih =>
      obtain ⟨k', b'⟩ := o
      intro h
      rw [alterList] at h
      split at h
      · simpa using h
      · rename_i heq
        obtain rfl : k = k' := Std.LawfulEqOrd.eq_of_compare heq
        rcases List.mem_cons.1 h with rfl | h
        · exact .inl rfl
        · exact .inr (List.mem_cons_of_mem _ h)
      · rcases List.mem_cons.1 h with rfl | h
        · exact .inr List.mem_cons_self
        · exact (ih h).imp_right (List.mem_cons_of_mem _)
  exact aux d.entries h

/-- A dictionary built from a list binds only what the list holds. -/
theorem mem_of_mem_ofList {l : List (κ × β)} {e : κ × β} (h : e ∈ (ofList l).entries) : e ∈ l := by
  have aux : ∀ (l : List (κ × β)) (d : Dict κ β),
      e ∈ (l.foldl (fun d e => d.insert e.1 e.2) d).entries → e ∈ d.entries ∨ e ∈ l := by
    intro l
    induction l with
    | nil => intro d h; exact .inl h
    | cons o rest ih =>
      intro d h
      rcases ih _ h with h | h
      · rcases mem_insert h with rfl | h
        · exact .inr List.mem_cons_self
        · exact .inl h
      · exact .inr (List.mem_cons_of_mem _ h)
  rcases aux l ∅ h with h | h
  · exact absurd h List.not_mem_nil
  · exact h

/-- The union of two dictionaries; where both bind a key, `f` joins the left and right value. -/
def unionWith (f : β → β → β) (a b : Dict κ β) : Dict κ β :=
  b.foldl (fun d k v => d.alter k fun
    | none => some v
    | some u => some (f u v)) a

end update

end Dict

end ClusterAudit
