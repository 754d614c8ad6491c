import ClusterAudit.Proofs.Score

/-!
# Scores that rise and fall

A finding is worth as many points as its severity counts (`Severity.worth`), and at most 100. What is
added to a counter adds to the findings and to the points, up to where the counter stops
(`SeverityTally.exists_gain`). Findings that count fully are worth no less than those that are there
on average, so they never lower the score, whether the total has stopped, stops now or goes on
(`div_min_le_div_min`); errors only make the total larger; and a finding that is rated milder leaves
the total and is worth no less (`SeverityTally.score_le_move`).
-/

namespace ClusterAudit

/-! ## Grades -/

/-- A higher score has no worse grade. -/
theorem Grade.rank_ofScore_le {a b : Nat} (h : a ≤ b) : (ofScore b).rank ≤ (ofScore a).rank := by
  have hrank : ∀ score, (ofScore score).rank = if 90 ≤ score then 0 else if 80 ≤ score then 1
      else if 70 ≤ score then 2 else if 60 ≤ score then 3 else if 50 ≤ score then 4 else 5 := by
    intro score
    rw [ofScore]
    split_ifs <;> rfl
  rw [hrank, hrank]
  split_ifs <;> omega

/-! ## What a finding is worth -/

/-- How much a finding counts, in hundredths of one that counts fully. -/
def Severity.worth : Severity → Nat
  | .ok => 100
  | .info => 100
  | .warn => 50
  | .error => 0

/-- A milder finding is worth no less. -/
theorem Severity.worth_le_worth {a b : Severity} (h : b ≤ a) : a.worth ≤ b.worth := by
  revert h
  cases a <;> cases b <;> decide

/-- If what is there is worth at most 100 each, then more that is worth 100 each does not lower the
quotient, wherever the divisor stops. -/
theorem div_min_le_div_min {points sum largest : Nat} (hsum : sum ≠ 0) (hlargest : 0 < largest)
    (h : points ≤ 100 * sum) (more : Nat) :
    points / min sum largest ≤ (points + 100 * more) / min (sum + more) largest := by
  rcases Nat.le_total largest sum with hstopped | hsum'
  · -- both divisors have stopped
    rw [Nat.min_eq_right hstopped, Nat.min_eq_right (Nat.le_add_right_of_le hstopped)]
    exact Nat.div_le_div_right (Nat.le_add_right _ _)
  · rw [Nat.min_eq_left hsum', Nat.le_div_iff_mul_le (by omega)]
    have hshare : points / sum ≤ 100 := Nat.div_le_of_le_mul (Nat.mul_comm 100 sum ▸ h)
    calc points / sum * min (sum + more) largest
      _ ≤ points / sum * (sum + more) := Nat.mul_le_mul_left _ (Nat.min_le_left _ _)
      _ = points / sum * sum + points / sum * more := Nat.mul_add ..
      _ ≤ points + 100 * more :=
        Nat.add_le_add (Nat.div_mul_le_self points sum) (Nat.mul_le_mul_right more hshare)

namespace SeverityTally

variable (t : SeverityTally)

/-- Adding to a counter adds findings of its severity, as many as there is room for. -/
theorem exists_gain (s : Severity) (n : Count) : ∃ gain,
    ((t.get s).toNat + n.toNat ≤ Count.largest → gain = n.toNat) ∧
    (t.add s n).sum = t.sum + gain ∧ (t.add s n).points = t.points + s.worth * gain := by
  have hs := (t.get s).toNat_le
  refine ⟨min n.toNat (Count.largest - (t.get s).toNat), fun h => by omega, ?_⟩
  cases s with
  | ok | info | warn | error =>
    simp only [get] at hs
    simp only [add, sum, points, Severity.worth, get, Count.toNat_add]
    omega

/-- More that counts fully does not lower the score. -/
theorem score_le_add {s : Severity} (hs : s.worth = 100) (n : Count) :
    t.score ≤ (t.add s n).score := by
  obtain ⟨gain, -, hsum, hpoints⟩ := t.exists_gain s n
  have hlargest := Count.largest_pos
  have hle := t.points_le
  rw [score_eq, score_eq, hsum, hpoints, hs]
  by_cases hzero : t.sum = 0
  · rw [if_pos hzero, hzero, Nat.zero_add]
    split
    · exact Nat.le_refl 100
    · -- only findings that count fully are there
      rw [Nat.le_div_iff_mul_le (by omega)]
      omega
  · rw [if_neg hzero, if_neg (by omega)]
    exact div_min_le_div_min hzero hlargest hle gain

/-- More errors do not raise the score. -/
theorem score_add_error_le (n : Count) : (t.add .error n).score ≤ t.score := by
  obtain ⟨gain, -, hsum, hpoints⟩ := t.exists_gain .error n
  have hlargest := Count.largest_pos
  have hle := t.points_le
  rw [score_eq, score_eq, hsum, hpoints, Severity.worth, Nat.zero_mul, Nat.add_zero]
  by_cases hzero : t.sum = 0
  · rw [if_pos hzero, hzero, Nat.zero_add]
    split
    · exact Nat.le_refl 100
    · rw [show t.points = 0 by omega, Nat.zero_div]
      exact Nat.zero_le 100
  · rw [if_neg hzero, if_neg (by omega)]
    exact Nat.div_le_div_left (by omega) (by omega)

/-! ## Findings that are rated otherwise -/

/-- The tally with one finding of a severity less, if it has one. -/
def remove (t : SeverityTally) : Severity → SeverityTally
  | .ok => { t with ok := .ofNat (t.ok.toNat - 1) }
  | .info => { t with info := .ofNat (t.info.toNat - 1) }
  | .warn => { t with warn := .ofNat (t.warn.toNat - 1) }
  | .error => { t with error := .ofNat (t.error.toNat - 1) }

/-- The tally with a finding of one severity rated with another. -/
def move (t : SeverityTally) (old new : Severity) : SeverityTally := (t.remove old).add new 1

/-- A finding that is removed takes away what it is worth. -/
theorem sum_points_remove {s : Severity} (h : 0 < (t.get s).toNat) :
    (t.remove s).sum + 1 = t.sum ∧ (t.remove s).points + s.worth = t.points := by
  have hs := (t.get s).toNat_le
  cases s with
  | ok | info | warn | error =>
    simp only [get] at h hs
    simp only [remove, sum, points, Severity.worth, Count.toNat_ofNat]
    omega

/-- The counter of its severity is one less, and no other is changed. -/
theorem get_remove (s s' : Severity) : (t.remove s).get s' =
    if s = s' then .ofNat ((t.get s').toNat - 1) else t.get s' := by
  cases s <;> cases s' <;> rfl

/-- Of tallies with as many findings the one with more points has no lower score. -/
theorem score_le_of_points_le {t u : SeverityTally} (hsum : t.sum = u.sum)
    (h : t.points ≤ u.points) : t.score ≤ u.score := by
  rw [score_eq, score_eq, hsum]
  split
  · exact Nat.le_refl 100
  · exact Nat.div_le_div_right h

/-- A finding that is rated milder does not lower the score, if there is room for it. -/
theorem score_le_move {old new : Severity} (hmilder : new ≤ old) (hold : 0 < (t.get old).toNat)
    (hnew : (t.get new).toNat < Count.largest) : t.score ≤ (t.move old new).score := by
  obtain ⟨hsum, hpoints⟩ := t.sum_points_remove hold
  obtain ⟨gain, hgain, hsum', hpoints'⟩ := (t.remove old).exists_gain new 1
  have hroom : ((t.remove old).get new).toNat < Count.largest := by
    rw [get_remove]
    split
    · exact Nat.lt_of_le_of_lt (Nat.min_le_left _ _) (Nat.sub_lt_of_lt hnew)
    · exact hnew
  obtain rfl : gain = 1 := hgain hroom
  have hworth := Severity.worth_le_worth hmilder
  rw [Nat.mul_one] at hpoints'
  refine score_le_of_points_le ?_ ?_
  · rw [move, hsum', hsum]
  · rw [move, hpoints']
    omega

/-- More findings that are fine or only inform do not lower the score nor worsen the grade, and more
errors do not raise it, however many there are and whatever counter stops. A finding that is rated
milder does not lower it, as long as there is room where it is counted then. -/
theorem score_monotone :
    (∀ n, t.score ≤ (t.add .ok n).score ∧ (t.add .ok n).grade.rank ≤ t.grade.rank) ∧
    (∀ n, t.score ≤ (t.add .info n).score ∧ (t.add .info n).grade.rank ≤ t.grade.rank) ∧
    (∀ n, (t.add .error n).score ≤ t.score) ∧
    ∀ old new : Severity, new ≤ old → 0 < (t.get old).toNat →
      (t.get new).toNat < Count.largest → t.score ≤ (t.move old new).score := by
  have hok := fun n => t.score_le_add (s := .ok) rfl n
  have hinfo := fun n => t.score_le_add (s := .info) rfl n
  exact ⟨fun n => ⟨hok n, Grade.rank_ofScore_le (hok n)⟩,
    fun n => ⟨hinfo n, Grade.rank_ofScore_le (hinfo n)⟩, t.score_add_error_le,
    fun old new => t.score_le_move⟩

/-- A tally of which one counter is about to stop and the total has stopped. -/
def nearlyBrimful : SeverityTally := ⟨.ofNat (Count.largest - 1), 1, 1, 1⟩

/-- There is room for one more of each severity; two more stop the counter. -/
theorem score_monotone_nearlyBrimful :
    let t := nearlyBrimful
    t.sum = Count.largest + 2 ∧ (t.add .ok 2).ok.toNat = Count.largest ∧
    t.score ≤ (t.add .ok 2).score ∧ (t.add .error 2).score ≤ t.score ∧
    Severity.warn ≤ .error ∧ 0 < t.error.toNat ∧ t.warn.toNat < Count.largest ∧
    t.score ≤ (t.move .error .warn).score ∧
    Severity.info ≤ .warn ∧ 0 < t.warn.toNat ∧ t.info.toNat < Count.largest ∧
    t.score ≤ (t.move .warn .info).score ∧
    Severity.ok ≤ .info ∧ 0 < t.info.toNat ∧ t.ok.toNat < Count.largest ∧
    t.score ≤ (t.move .info .ok).score := by
  intro t
  obtain ⟨hok, -, herror, hmove⟩ := score_monotone nearlyBrimful
  exact ⟨by decide, by decide, (hok 2).1, herror 2,
    by decide, by decide, by decide, hmove .error .warn (by decide) (by decide) (by decide),
    by decide, by decide, by decide, hmove .warn .info (by decide) (by decide) (by decide),
    by decide, by decide, by decide, hmove .info .ok (by decide) (by decide) (by decide)⟩

/-- Without room a finding is lost, and the score can fall with it. -/
example :
    let t : SeverityTally := ⟨.ofNat Count.largest, .ofNat (Count.largest / 100 + 1), 0, 0⟩
    t.score = 101 ∧ (t.move .info .ok).score = 100 := by decide

end SeverityTally

end ClusterAudit
