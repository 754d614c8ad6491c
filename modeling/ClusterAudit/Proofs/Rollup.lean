import ClusterAudit.Proofs.Tally

/-!
# Rollups add up

A rollup counts by severity what a tally counts by code. `Count.total` adds up what is seen of the
values of a dictionary, and the rollup of a tally is the total of the rollups one level below
(`CodeTally.get_rollup`, `NamespaceTally.get_rollup`, `KindTally.get_rollup`). So what is added to a
tally is added to its rollup, at every level and wherever a count stops on the way, and compaction,
which drops nothing but zeros, leaves the rollup as it is (`KindTally.get_rollup_compact`).
-/

namespace ClusterAudit

/-! ## Totals -/

namespace Count

instance : AddCommSemigroup Count where
  add_assoc a b c := by
    apply ext
    simp only [toNat_add]
    omega
  add_comm := add_comm

/-- A count is the count of its number. -/
@[simp] theorem ofNat_toNat (a : Count) : ofNat a.toNat = a := by
  apply ext
  rw [toNat_ofNat]
  exact Nat.min_eq_left a.toNat_le

variable {κ β γ : Type} [Ord κ]

/-- The sum of what is seen of the values of a dictionary. -/
def total (see : κ → β → Count) (d : Dict κ β) : Count := ofNat (d.sum fun k v => (see k v).toNat)

/-- A fold of which every step adds to a count what is seen of the value adds the total. -/
theorem foldl_total {σ : Type} {step : σ → κ → β → σ} (look : σ → Count) (see : κ → β → Count)
    (h : ∀ s k v, look (step s k v) = look s + see k v) (d : Dict κ β) (s : σ) :
    look (d.foldl step s) = look s + total see d :=
  see_foldl look _ (fun s e => by rw [h, ofNat_toNat]) d.entries s

/-- An alteration that adds to what is seen of its key adds as much to the total. -/
theorem total_alter [Std.TransOrd κ] [Std.LawfulEqOrd κ] {see : κ → β → Count} {k : κ}
    {f : Option β → β} {n : Count} (hnew : see k (f none) = n)
    (hold : ∀ b, see k (f (some b)) = see k b + n) (d : Dict κ β) :
    total see (d.alter k fun old => some (f old)) = total see d + n :=
  Dict.apply_sum_alter ofNat_add (by rw [ofNat_toNat, hnew])
    (fun b => by rw [ofNat_toNat, ofNat_toNat, hold]) d

/-- Values of which nothing is seen may be dropped, and others changed to ones of which the same is
seen. -/
theorem total_filterMap {see : κ → β → Count} {see' : κ → γ → Count} {f : β → Option γ}
    (h : ∀ k v, ((f v).map (see' k)).getD 0 = see k v) (d : Dict κ β) :
    total see' (d.filterMap f) = total see d := by
  rw [total, Dict.sum_filterMap, total]
  congr
  funext k v
  rw [← h]
  cases f v <;> rfl

end Count

namespace SeverityTally

variable (t other : SeverityTally) (s : Severity)

/-- Nothing is counted at first. -/
@[simp] theorem get_empty : (∅ : SeverityTally).get s = 0 := by cases s <;> rfl

/-- What is added to a severity is added to its count and to no other. -/
theorem get_add (severity : Severity) (n : Count) :
    (t.add severity n).get s = if severity = s then t.get s + n else t.get s := by
  cases severity <;> cases s <;> rfl

/-- Merging adds the counts of every severity. -/
theorem get_merge : (t.merge other).get s = t.get s + other.get s := by cases s <;> rfl

end SeverityTally

/-! ## Codes -/

/-- As much of a count of a code as is of a severity: all or nothing. -/
def Glossary.share (g : Glossary) (s : Severity) (code : Code) (n : Count) : Count :=
  if g.severity? code = some s then n else 0

section rollup
variable (g : Glossary) (s : Severity)

namespace CodeTally

/-- A code tally is rolled up code by code. -/
theorem get_rollup (t : CodeTally) : (t.rollup g).get s = Count.total (g.share s) t.counts := by
  rw [rollup]
  refine (Count.foldl_total (fun r : SeverityTally => r.get s) (g.share s) (fun r code n => ?_)
    t.counts ∅).trans ?_
  · rw [Glossary.share]
    cases g.severity? code with
    | none => simp
    | some severity =>
      rw [SeverityTally.get_add]
      by_cases hs : severity = s
      · simp [hs]
      · simp [hs]
  · rw [SeverityTally.get_empty, Count.zero_add]

/-- What is added to a code is added to its severity. -/
theorem get_rollup_add (t : CodeTally) (code : Code) (n : Count) :
    ((t.add code n).rollup g).get s = (t.rollup g).get s + g.share s code n := by
  rw [get_rollup, get_rollup, add]
  refine Count.total_alter (f := fun old => old.getD 0 + n) ?_ (fun b => ?_) t.counts
  · rw [Option.getD_none, Count.zero_add]
  · rw [Option.getD_some, Glossary.share, Glossary.share, Glossary.share]
    split
    · rfl
    · rfl

/-- The rollup of merged tallies adds theirs. -/
theorem get_rollup_merge (t other : CodeTally) :
    ((t.merge other).rollup g).get s = (t.rollup g).get s + (other.rollup g).get s := by
  rw [get_rollup g s other]
  exact Count.foldl_total (fun t : CodeTally => (t.rollup g).get s) _
    (fun t code n => t.get_rollup_add g s code n) other.counts t

/-- Compaction leaves the rollup. -/
theorem get_rollup_compact (t : CodeTally) :
    (t.compact.rollup g).get s = (t.rollup g).get s := by
  rw [get_rollup, get_rollup]
  refine Count.total_filterMap (fun code n => ?_) t.counts
  by_cases hn : n.toNat = 0
  · rw [Count.toNat_eq_zero_iff.1 hn, Glossary.share, ite_self]
    rfl
  · rw [if_neg hn]
    rfl

/-- A tally without entries has nothing to roll up. -/
theorem get_rollup_of_isEmpty {t : CodeTally} (h : t.isEmpty) : (t.rollup g).get s = 0 := by
  have hentries : t.counts.entries = [] := List.isEmpty_iff.1 h
  rw [get_rollup, Count.total, Dict.sum, hentries]
  rfl

end CodeTally

/-! ## Namespaces -/

namespace NamespaceTally

/-- A namespace tally is rolled up namespace by namespace. -/
theorem get_rollup (t : NamespaceTally) : (t.rollup g).get s =
    Count.total (fun _ tally => (tally.rollup g).get s) t.spaces := by
  have hfold := Count.foldl_total (fun all : CodeTally => (all.rollup g).get s) _
    (fun all (_ : String) tally => all.get_rollup_merge g s tally) t.spaces ∅
  have hempty : ((∅ : CodeTally).rollup g).get s = 0 := SeverityTally.get_empty s
  rwa [hempty, Count.zero_add] at hfold

/-- What is added in a namespace is added to the rollup. -/
theorem get_rollup_alter {f : CodeTally → CodeTally} {n : Count}
    (h : ∀ tally, ((f tally).rollup g).get s = (tally.rollup g).get s + n) (t : NamespaceTally)
    (space : String) :
    ((⟨t.spaces.alter space fun old => some (f (old.getD ∅))⟩ : NamespaceTally).rollup g).get s =
      (t.rollup g).get s + n := by
  rw [get_rollup, get_rollup]
  refine Count.total_alter (f := fun old => f (old.getD ∅)) ?_ (fun b => h b) t.spaces
  rw [h, Option.getD_none, show ((∅ : CodeTally).rollup g).get s = 0 from SeverityTally.get_empty s,
    Count.zero_add]

/-- One more of a code is one more of its severity. -/
theorem get_rollup_record (t : NamespaceTally) (space : String) (code : Code) :
    ((t.record space code).rollup g).get s = (t.rollup g).get s + g.share s code 1 :=
  t.get_rollup_alter g s (fun tally => tally.get_rollup_add g s code 1) space

/-- The rollup of merged tallies adds theirs. -/
theorem get_rollup_merge (t other : NamespaceTally) :
    ((t.merge other).rollup g).get s = (t.rollup g).get s + (other.rollup g).get s := by
  rw [get_rollup g s other]
  exact Count.foldl_total (fun t : NamespaceTally => (t.rollup g).get s) _
    (fun t space tally => t.get_rollup_alter g s (fun old => old.get_rollup_merge g s tally) space)
    other.spaces t

/-- Compaction leaves the rollup. -/
theorem get_rollup_compact (t : NamespaceTally) :
    (t.compact.rollup g).get s = (t.rollup g).get s := by
  rw [get_rollup, get_rollup]
  refine Count.total_filterMap (f := fun tally : CodeTally =>
    if tally.compact.isEmpty then none else some tally.compact) (fun _ tally => ?_) t.spaces
  rw [← tally.get_rollup_compact]
  split
  · rename_i hempty
    exact (CodeTally.get_rollup_of_isEmpty g s hempty).symm
  · rfl

/-- A tally without entries has nothing to roll up. -/
theorem get_rollup_of_isEmpty {t : NamespaceTally} (h : t.isEmpty) : (t.rollup g).get s = 0 := by
  have hentries : t.spaces.entries = [] := List.isEmpty_iff.1 h
  rw [get_rollup, Count.total, Dict.sum, hentries]
  rfl

end NamespaceTally

/-! ## Kinds -/

namespace KindTally

/-- A kind tally is rolled up kind by kind. -/
theorem get_rollup (t : KindTally) : (t.rollup g).get s =
    Count.total (fun _ tally => (tally.rollup g).get s) t.kinds := by
  have hfold := Count.foldl_total (fun r : SeverityTally => r.get s) _
    (fun r (_ : Kind) (tally : NamespaceTally) => r.get_merge (tally.rollup g) s) t.kinds ∅
  rwa [SeverityTally.get_empty, Count.zero_add] at hfold

/-- What is added to a kind is added to the rollup. -/
theorem get_rollup_insert (t : KindTally) (kind : Kind) (tally : NamespaceTally) :
    ((t.insert kind tally).rollup g).get s = (t.rollup g).get s + (tally.rollup g).get s := by
  rw [get_rollup, get_rollup, insert]
  refine Count.total_alter (f := fun old => (old.getD ∅).merge tally) ?_ (fun b => ?_) t.kinds
  · rw [NamespaceTally.get_rollup_merge, Option.getD_none,
      show ((∅ : NamespaceTally).rollup g).get s = 0 from SeverityTally.get_empty s,
      Count.zero_add]
  · exact b.get_rollup_merge g s tally

/-- Compaction leaves the rollup. -/
theorem get_rollup_compact (t : KindTally) : (t.compact.rollup g).get s = (t.rollup g).get s := by
  rw [get_rollup, get_rollup]
  refine Count.total_filterMap (f := fun tally : NamespaceTally =>
    if tally.compact.isEmpty then none else some tally.compact) (fun _ tally => ?_) t.kinds
  rw [← tally.get_rollup_compact]
  split
  · rename_i hempty
    exact (NamespaceTally.get_rollup_of_isEmpty g s hempty).symm
  · rfl

end KindTally

end rollup

end ClusterAudit
