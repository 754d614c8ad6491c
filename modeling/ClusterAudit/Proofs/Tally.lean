import ClusterAudit.Proofs.Dict
import ClusterAudit.Tally

/-!
# Counts along a path

A tally counts along a path: of a code, of a code in a namespace, of a code in a namespace of a
kind. A path that is not there counts as zero. Merging adds the counts of every path
(`CodeTally.get_merge`, `NamespaceTally.count_merge`), whatever entries the merged tallies have.
After compaction a path is there exactly if its count is not zero, and has that count
(`KindTally.count?_compact`); a branch is there exactly if it has such a path
(`KindTally.space?_compact_eq_none_iff`, `KindTally.get?_compact_eq_none_iff`).
-/

namespace ClusterAudit

namespace Count

/-- A count is zero if its number is. -/
theorem toNat_eq_zero_iff {a : Count} : a.toNat = 0 ↔ a = 0 := by
  constructor
  · intro h
    exact ext h
  · rintro rfl
    rfl

/-- A count of a number is zero if the number is. -/
theorem ofNat_eq_zero_iff {n : Nat} : ofNat n = 0 ↔ n = 0 := by
  have hlargest := largest_pos
  rw [← toNat_eq_zero_iff, toNat_ofNat]
  omega

/-- Adding nothing changes no count, the largest one included. -/
@[simp] theorem add_zero (a : Count) : a + 0 = a := by
  apply ext
  rw [toNat_add, toNat_zero, Nat.add_zero, Nat.min_eq_left a.toNat_le]

/-- Counts can be added in either order. -/
theorem add_comm (a b : Count) : a + b = b + a := by
  apply ext
  rw [toNat_add, toNat_add, Nat.add_comm]

/-- Adding to nothing gives what is added. -/
@[simp] theorem zero_add (a : Count) : 0 + a = a := by
  rw [add_comm, add_zero]

/-- The count of a sum is the sum of the counts, wherever it stops. -/
theorem ofNat_add (m n : Nat) : ofNat (m + n) = ofNat m + ofNat n := by
  apply ext
  simp only [toNat_ofNat, toNat_add]
  omega

/-- A fold of which every step adds to a count adds the sum of what the steps add. -/
theorem see_foldl {σ α : Type} {step : σ → α → σ} (see : σ → Count) (weight : α → Nat)
    (h : ∀ s a, see (step s a) = see s + ofNat (weight a)) (l : List α) (s : σ) :
    see (l.foldl step s) = see s + ofNat (l.map weight).sum := by
  have hassoc : ∀ (a : Count) (m n : Nat), a + ofNat m + ofNat n = a + ofNat (m + n) := by
    intro a m n
    apply ext
    simp only [toNat_add, toNat_ofNat]
    omega
  induction l generalizing s with
  | nil => exact (add_zero _).symm
  | cons a rest ih => rw [List.foldl_cons, ih, h, hassoc, List.map_cons, List.sum_cons]

end Count

/-! ## Codes -/

namespace CodeTally

variable {t other : CodeTally} {code : Code}

/-- Nothing is counted at first. -/
@[simp] theorem get_empty (code : Code) : (∅ : CodeTally).get code = 0 := rfl

/-- What is added to a code is added to its count. -/
theorem get_add_self (t : CodeTally) (code : Code) (n : Count) :
    (t.add code n).get code = t.get code + n := by
  rw [get, get, add, Dict.get?_alter_self, Option.getD_some]

/-- What is added to a code leaves every other count. -/
theorem get_add_of_ne {c : Code} (h : c ≠ code) (n : Count) : (t.add code n).get c = t.get c := by
  rw [get, get, add, Dict.get?_alter_of_ne h]

/-- Merging adds the counts of every code. -/
theorem get_merge (t other : CodeTally) (code : Code) :
    (t.merge other).get code = t.get code + other.get code := by
  refine (Dict.see_foldl code (get · code) (· + ·) ?_ ?_ t other.counts).trans ?_
  · exact fun t n => get_add_self t code n
  · exact fun t c n h => get_add_of_ne h n
  · rw [get, get]
    cases other.counts.get? code with
    | none => exact (Count.add_zero _).symm
    | some n => rfl

/-- After compaction a code is there if its count is not zero, with that count. -/
theorem get?_compact (t : CodeTally) (code : Code) :
    t.compact.counts.get? code = if t.get code = 0 then none else some (t.get code) := by
  rw [compact, Dict.get?_filterMap, get]
  cases t.counts.get? code with
  | none => rfl
  | some n => simp [Count.toNat_eq_zero_iff]

/-- Compaction leaves nothing of a tally without other counts than zero. -/
theorem isEmpty_compact (t : CodeTally) : t.compact.isEmpty ↔ ∀ code, t.get code = 0 := by
  rw [isEmpty, Dict.isEmpty_iff]
  exact forall_congr' fun code => by rw [get?_compact]; simp

/-- Compaction leaves nothing but the counts. -/
theorem compact_eq_of_get (h : ∀ code, t.get code = other.get code) :
    t.compact = other.compact := by
  refine congrArg mk (Dict.ext_get? (a := t.compact.counts) (b := other.compact.counts) ?_)
  intro code
  rw [get?_compact, get?_compact, h]

end CodeTally

/-! ## Namespaces -/

namespace NamespaceTally

variable {t other : NamespaceTally} {space : String} {code : Code}

/-- The count of a code in a namespace; zero without such a path. -/
def count (t : NamespaceTally) (space : String) (code : Code) : Count :=
  ((t.get? space).getD ∅).get code

/-- The entry of a code in a namespace. -/
def count? (t : NamespaceTally) (space : String) (code : Code) : Option Count :=
  (t.get? space).bind (·.counts.get? code)

/-- A path without an entry counts as zero. -/
theorem count_eq_getD (t : NamespaceTally) (space : String) (code : Code) :
    t.count space code = (t.count? space code).getD 0 := by
  rw [count, count?]
  cases t.get? space <;> rfl

/-- Nothing is counted at first. -/
@[simp] theorem count_empty (space : String) (code : Code) :
    (∅ : NamespaceTally).count space code = 0 := rfl

/-- A tally that is added in a namespace is added to the counts there. -/
theorem count_insert_self (t : NamespaceTally) (space : String) (tally : CodeTally) (code : Code) :
    (t.insert space tally).count space code = t.count space code + tally.get code := by
  rw [count, count, get?, get?, insert, Dict.get?_alter_self, Option.getD_some,
    CodeTally.get_merge]

/-- A tally that is added in a namespace leaves the counts of every other one. -/
theorem count_insert_of_ne {s : String} (h : s ≠ space) (tally : CodeTally) (code : Code) :
    (t.insert space tally).count s code = t.count s code := by
  rw [count, count, get?, get?, insert, Dict.get?_alter_of_ne h]

/-- A finding is counted where it is recorded and nowhere else. -/
theorem count_record (t : NamespaceTally) (space s : String) (code c : Code) :
    (t.record space code).count s c =
      t.count s c + .ofNat (if space = s ∧ code = c then 1 else 0) := by
  by_cases hs : s = space
  · subst hs
    rw [count, count, get?, get?, record, Dict.get?_alter_self, Option.getD_some, CodeTally.incr]
    by_cases hc : c = code
    · subst hc
      rw [CodeTally.get_add_self, if_pos ⟨rfl, rfl⟩]
      rfl
    · rw [CodeTally.get_add_of_ne hc, if_neg fun h => hc h.2.symm]
      exact (Count.add_zero _).symm
  · rw [count, count, get?, get?, record, Dict.get?_alter_of_ne hs,
      if_neg fun h => hs h.1.symm]
    exact (Count.add_zero _).symm

/-- Merging adds the counts of every path. -/
theorem count_merge (t other : NamespaceTally) (space : String) (code : Code) :
    (t.merge other).count space code = t.count space code + other.count space code := by
  refine (Dict.see_foldl space (count · space code) (fun n tally => n + tally.get code) ?_ ?_ t
    other.spaces).trans ?_
  · exact fun t tally => count_insert_self t space tally code
  · exact fun t s tally h => count_insert_of_ne h tally code
  · rw [count, count, get?, get?]
    cases other.spaces.get? space with
    | none => exact (Count.add_zero _).symm
    | some tally => rfl

/-- What compaction leaves of a namespace. -/
theorem get?_compact (t : NamespaceTally) (space : String) : t.compact.get? space =
    (t.get? space).bind fun tally => if tally.compact.isEmpty then none else some tally.compact :=
  Dict.get?_filterMap _ _ _

/-- After compaction a path is there if its count is not zero, with that count. -/
theorem count?_compact (t : NamespaceTally) (space : String) (code : Code) :
    t.compact.count? space code =
      if t.count space code = 0 then none else some (t.count space code) := by
  rw [count?, get?_compact, count]
  cases t.get? space with
  | none => rfl
  | some tally =>
    rw [Option.bind_some, Option.getD_some, ← CodeTally.get?_compact]
    split
    · rename_i hempty
      exact (Dict.isEmpty_iff.1 hempty code).symm
    · rfl

/-- Compaction leaves a namespace out if nothing is counted in it. -/
theorem get?_compact_eq_none_iff (t : NamespaceTally) (space : String) :
    t.compact.get? space = none ↔ ∀ code, t.count space code = 0 := by
  simp only [get?_compact, count]
  cases t.get? space with
  | none => simp
  | some tally =>
    rw [Option.bind_some, Option.getD_some, ← CodeTally.isEmpty_compact]
    simp

/-- Compaction leaves nothing of a tally without other counts than zero. -/
theorem isEmpty_compact (t : NamespaceTally) :
    t.compact.isEmpty ↔ ∀ space code, t.count space code = 0 := by
  rw [isEmpty, Dict.isEmpty_iff]
  exact forall_congr' fun space => get?_compact_eq_none_iff t space

/-- What compaction leaves of a namespace is what it leaves of the counts there. -/
theorem get?_compact_eq_of_count {space : String}
    (h : ∀ code, t.count space code = other.count space code) :
    t.compact.get? space = other.compact.get? space := by
  have hcompact := CodeTally.compact_eq_of_get h
  have hempty : (∅ : CodeTally).compact.isEmpty = true := rfl
  rw [get?_compact, get?_compact]
  cases ht : t.get? space <;> cases ho : other.get? space <;> simp_all

/-- Compaction leaves nothing but the counts. -/
theorem compact_eq_of_count (h : ∀ space code, t.count space code = other.count space code) :
    t.compact = other.compact :=
  congrArg mk (Dict.ext_get? (a := t.compact.spaces) (b := other.compact.spaces)
    fun space => get?_compact_eq_of_count (h space))

end NamespaceTally

/-! ## Kinds -/

namespace KindTally

variable {t other : KindTally} {kind : Kind}

/-- The count of a code in a namespace of a kind; zero without such a path. -/
def count (t : KindTally) (kind : Kind) (space : String) (code : Code) : Count :=
  ((t.get? kind).getD ∅).count space code

/-- The entry of a namespace of a kind. -/
def space? (t : KindTally) (kind : Kind) (space : String) : Option CodeTally :=
  (t.get? kind).bind (·.get? space)

/-- The entry of a code in a namespace of a kind. -/
def count? (t : KindTally) (kind : Kind) (space : String) (code : Code) : Option Count :=
  (t.get? kind).bind (·.count? space code)

/-- A path without an entry counts as zero. -/
theorem count_eq_getD (t : KindTally) (kind : Kind) (space : String) (code : Code) :
    t.count kind space code = (t.count? kind space code).getD 0 := by
  rw [count, count?]
  cases t.get? kind with
  | none => rfl
  | some tally => exact tally.count_eq_getD space code

/-- A tally that is added for a kind is added to the counts of that kind. -/
theorem count_insert_self (t : KindTally) (kind : Kind) (tally : NamespaceTally) (space : String)
    (code : Code) :
    (t.insert kind tally).count kind space code =
      t.count kind space code + tally.count space code := by
  rw [count, count, get?, get?, insert, Dict.get?_alter_self, Option.getD_some,
    NamespaceTally.count_merge]

/-- A tally that is added for a kind leaves the counts of every other one. -/
theorem count_insert_of_ne {k : Kind} (h : k ≠ kind) (tally : NamespaceTally) (space : String)
    (code : Code) : (t.insert kind tally).count k space code = t.count k space code := by
  rw [count, count, get?, get?, insert, Dict.get?_alter_of_ne h]

/-- What compaction leaves of a kind. -/
theorem get?_compact (t : KindTally) (kind : Kind) : t.compact.get? kind =
    (t.get? kind).bind fun tally => if tally.compact.isEmpty then none else some tally.compact :=
  Dict.get?_filterMap _ _ _

/-- After compaction a path is there if its count is not zero, with that count. -/
theorem count?_compact (t : KindTally) (kind : Kind) (space : String) (code : Code) :
    t.compact.count? kind space code =
      if t.count kind space code = 0 then none else some (t.count kind space code) := by
  rw [count?, get?_compact, count]
  cases t.get? kind with
  | none => rfl
  | some tally =>
    rw [Option.bind_some, Option.getD_some, ← NamespaceTally.count?_compact]
    split
    · rename_i hempty
      rw [NamespaceTally.count?_compact, if_pos (tally.isEmpty_compact.1 hempty space code)]
      rfl
    · rfl

/-- Compaction leaves a namespace of a kind out if nothing is counted in it. -/
theorem space?_compact_eq_none_iff (t : KindTally) (kind : Kind) (space : String) :
    t.compact.space? kind space = none ↔ ∀ code, t.count kind space code = 0 := by
  simp only [space?, get?_compact, count]
  cases t.get? kind with
  | none => simp
  | some tally =>
    rw [Option.bind_some, Option.getD_some, ← NamespaceTally.get?_compact_eq_none_iff]
    split
    · rename_i hempty
      exact iff_of_true rfl (Dict.isEmpty_iff.1 hempty space)
    · rfl

/-- Compaction leaves a kind out if nothing is counted in it. -/
theorem get?_compact_eq_none_iff (t : KindTally) (kind : Kind) :
    t.compact.get? kind = none ↔ ∀ space code, t.count kind space code = 0 := by
  simp only [get?_compact, count]
  cases t.get? kind with
  | none => simp
  | some tally =>
    rw [Option.bind_some, Option.getD_some, ← NamespaceTally.isEmpty_compact]
    simp

/-- What compaction leaves of a kind is what it leaves of the counts there. -/
theorem get?_compact_eq_of_count
    (h : ∀ space code, t.count kind space code = other.count kind space code) :
    t.compact.get? kind = other.compact.get? kind := by
  have hcompact := NamespaceTally.compact_eq_of_count h
  have hempty : (∅ : NamespaceTally).compact.isEmpty = true := rfl
  rw [get?_compact, get?_compact]
  cases ht : t.get? kind <;> cases ho : other.get? kind <;> simp_all

/-- Compaction leaves nothing but the counts. -/
theorem compact_eq_of_count
    (h : ∀ kind space code, t.count kind space code = other.count kind space code) :
    t.compact = other.compact :=
  congrArg mk (Dict.ext_get? (a := t.compact.kinds) (b := other.compact.kinds)
    fun kind => get?_compact_eq_of_count (h kind))

end KindTally

end ClusterAudit
