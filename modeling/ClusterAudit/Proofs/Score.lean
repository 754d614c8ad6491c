import ClusterAudit.Proofs.Tally

/-!
# Scores and shares

The share of health in a tally is a quotient of two sums over all its findings, and at most 100
(`SeverityTally.share_le`). The score divides by a total that stops at the largest count instead. So
it is the share as long as the findings are no more than that; beyond it divides by too little, and
`SeverityTally.score_eq_share_iff` says when that shows. The quotient stays below 256 all the same
(`SeverityTally.points_lt`), so what stands in for a larger one is never used.
-/

namespace ClusterAudit.SeverityTally

/-- The number of findings, however large. -/
def sum (t : SeverityTally) : Nat :=
  t.ok.toNat + t.info.toNat + t.warn.toNat + t.error.toNat

/-- What the findings count, in hundredths of one that counts fully. -/
def points (t : SeverityTally) : Nat :=
  100 * t.ok.toNat + 100 * t.info.toNat + 50 * t.warn.toNat

/-- The share of health in hundredths, rounded down; without findings there is nothing amiss. -/
def share (t : SeverityTally) : Nat := if t.sum = 0 then 100 else t.points / t.sum

/-- The total is the number of findings, or the largest count if there are more. -/
theorem toNat_total (t : SeverityTally) : t.total.toNat = min t.sum Count.largest := by
  simp only [total, Severity.all, List.foldl_cons, List.foldl_nil, get, Count.toNat_add,
    Count.toNat_zero, sum]
  omega

/-- A finding counts fully at most. -/
theorem points_le (t : SeverityTally) : t.points ≤ 100 * t.sum := by
  rw [points, sum]
  omega

/-- The share is at most 100. -/
theorem share_le (t : SeverityTally) : t.share ≤ 100 := by
  rw [share]
  split
  · exact Nat.le_refl 100
  · exact Nat.div_le_of_le_mul (Nat.mul_comm 100 _ ▸ t.points_le)

/-- However far the total falls short, the points stay below 256 times it: two counts of findings
that count fully and one of those that count half are no more than that. -/
theorem points_lt {t : SeverityTally} (h : t.sum ≠ 0) :
    t.points < 256 * min t.sum Count.largest := by
  have hok := t.ok.toNat_le
  have hinfo := t.info.toNat_le
  have hwarn := t.warn.toNat_le
  have hlargest := Count.largest_pos
  have hpoints := t.points_le
  rcases Nat.le_total t.sum Count.largest with hsum | hsum
  · rw [Nat.min_eq_left hsum]
    omega
  · rw [Nat.min_eq_right hsum, points]
    omega

/-- The score is the quotient of the points by the total. -/
theorem score_eq (t : SeverityTally) :
    t.score = if t.sum = 0 then 100 else t.points / min t.sum Count.largest := by
  have hlargest := Count.largest_pos
  have hzero : min t.sum Count.largest = 0 ↔ t.sum = 0 := by omega
  have hpoints : (t.ok.toNat + t.info.toNat) * 100 + t.warn.toNat * 50 = t.points := by
    rw [points]
    omega
  simp only [score, toNat_total, hzero, hpoints]
  split
  · rfl
  · rename_i hsum
    exact if_pos (Nat.div_lt_of_lt_mul (Nat.mul_comm 256 _ ▸ points_lt hsum))

/-- The score is the share as long as the total does not stop. -/
theorem score_eq_share {t : SeverityTally} (h : t.sum ≤ Count.largest) : t.score = t.share := by
  rw [score_eq, share, Nat.min_eq_left h]

/-- What the total falls short of the number of findings makes up for the remainder exactly if the
quotient by the total is the larger one. -/
theorem div_eq_div_iff_of_le {n s d : Nat} (hd : 0 < d) (h : d ≤ s) :
    n / d = n / s ↔ n / s * (s - d) + n % s < d := by
  obtain ⟨k, rfl⟩ := Nat.exists_eq_add_of_le h
  have hn : (d + k) * (n / (d + k)) + n % (d + k) = n := Nat.div_add_mod n (d + k)
  rw [Nat.add_sub_cancel_left, Nat.div_eq_iff hd]
  generalize n / (d + k) = q at hn ⊢
  generalize n % (d + k) = r at hn ⊢
  subst hn
  rw [Nat.add_mul, Nat.mul_comm d q, Nat.mul_comm k q]
  omega

/-- The score is the points by the number of findings or by the largest count, whichever is less.
The share is at most 100, and the score is the share exactly if what the total falls short of the
number of findings, times the share, leaves room for the remainder below the largest count; the
score is at most 100 exactly if the total does not stop or the points are fewer than 101 of it. -/
theorem score_eq_share_iff (t : SeverityTally) :
    t.score = (if t.sum = 0 then 100 else t.points / min t.sum Count.largest) ∧ t.share ≤ 100 ∧
    (t.score = t.share ↔
      t.share * (t.sum - Count.largest) + t.points % t.sum < Count.largest) ∧
    (t.score ≤ 100 ↔ t.sum ≤ Count.largest ∨ t.points < 101 * Count.largest) := by
  have hlargest := Count.largest_pos
  refine ⟨t.score_eq, t.share_le, ?_⟩
  rcases Nat.le_total t.sum Count.largest with hsum | hsum
  · -- nothing is lost, and a remainder is less than what it is divided by
    have hremainder : t.points % t.sum < Count.largest := by
      have hpoints := t.points_le
      rcases Nat.eq_zero_or_pos t.sum with hzero | hpos
      · rw [hzero, Nat.mod_zero]
        omega
      · exact Nat.lt_of_lt_of_le (Nat.mod_lt _ hpos) hsum
    rw [score_eq_share hsum, Nat.sub_eq_zero_of_le hsum, Nat.mul_zero, Nat.zero_add]
    exact ⟨iff_of_true rfl hremainder, iff_of_true t.share_le (.inl hsum)⟩
  · have hpos : t.sum ≠ 0 := by omega
    rw [score_eq, if_neg hpos, Nat.min_eq_right hsum, share, if_neg hpos]
    refine ⟨div_eq_div_iff_of_le hlargest hsum, ?_⟩
    rw [← Nat.lt_succ_iff, Nat.div_lt_iff_lt_mul hlargest]
    constructor
    · exact .inr
    · rintro (hle | hlt)
      · -- then the total is the number of findings
        have heq : t.sum = Count.largest := Nat.le_antisymm hle hsum
        have hpoints := t.points_le
        omega
      · exact hlt

/-- As many findings as can be counted that are fine, and as many that only inform. -/
def brimful : SeverityTally := ⟨.ofNat Count.largest, .ofNat Count.largest, 0, 0⟩

/-- Nothing is wrong there, and the score is 200. -/
theorem score_brimful_ne_share : brimful.score ≠ brimful.share ∧ ¬ brimful.score ≤ 100 := by
  decide

end ClusterAudit.SeverityTally
