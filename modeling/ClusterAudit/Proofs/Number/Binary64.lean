import ClusterAudit.Number.Binary64
import ClusterAudit.Proofs.Number.Decimal
import Mathlib.Algebra.Order.Field.Power
import Mathlib.Tactic.Linarith
import Mathlib.Tactic.Ring

/-!
# How far doubles are off

A double has room for 53 binary places, and the last of them stands for a power of two
(`lastPlace`). What is kept of a number is the nearest multiple of that power (`nearest_eq_some`),
so it is off by half of it at most, and that is no more than a part in `2 ^ 53` of the number and of
one (`nearest_near`). Of a whole number with no more places nothing is lost (`nearest_natCast`).
Decimals are kept as well as that, those included that are not expanded (`ofDecimal_near`).

All this is said of numbers below `2 ^ 100`, far from the largest double.
-/

namespace ClusterAudit.Binary64

/-! ## Powers of two -/

variable {num den : ℕ} {j k : ℤ}

theorem two_zpow_pos (k : ℤ) : (0 : ℚ) < 2 ^ k := zpow_pos (by norm_num) k

theorem two_zpow_add (j k : ℤ) : (2 : ℚ) ^ (j + k) = 2 ^ j * 2 ^ k := zpow_add₀ (by norm_num) j k

theorem two_zpow_le (h : j ≤ k) : (2 : ℚ) ^ j ≤ 2 ^ k := zpow_le_zpow_right₀ (by norm_num) h

theorem lt_of_two_zpow_lt (h : (2 : ℚ) ^ j < 2 ^ k) : j < k :=
  (zpow_lt_zpow_iff_right₀ (by norm_num)).1 h

theorem two_pow_toNat (h : 0 ≤ k) : (2 : ℚ) ^ k.toNat = 2 ^ k := by
  rw [← zpow_natCast, Int.toNat_of_nonneg h]

/-! ## Shifts -/

/-- A shifted denominator stays positive. -/
theorem scaled_snd_pos (num : ℕ) (hden : 0 < den) (k : ℤ) : 0 < (scaled num den k).2 := by
  rw [scaled]
  split
  · exact hden
  · rw [Nat.shiftLeft_eq]
    positivity

/-- A shifted quotient is multiplied by a power of two. -/
theorem scaled_eq (num den : ℕ) (k : ℤ) :
    ((scaled num den k).1 : ℚ) / (scaled num den k).2 = num / den * 2 ^ k := by
  rw [scaled]
  split
  · rename_i h
    rw [← two_pow_toNat h, Nat.shiftLeft_eq]
    push_cast
    ring
  · rename_i h
    have hneg : 0 ≤ -k := by omega
    rw [← neg_neg k, zpow_neg, ← two_pow_toNat hneg, neg_neg, Nat.shiftLeft_eq]
    push_cast
    field_simp

/-- A shifted number is multiplied by a power of two. -/
theorem dyadic_eq (n : ℕ) (k : ℤ) : dyadic n k = n * 2 ^ k := by
  have h := scaled_eq n 1 k
  rw [Nat.cast_one, div_one] at h
  rw [← h, dyadic, scaled]
  split <;> exact Rat.mkRat_eq_div _ _

/-- Its numerator is no larger than the number with the places that it is shifted up. -/
theorem num_dyadic_le (n : ℕ) (k : ℤ) : (dyadic n k).num.toNat ≤ n * 2 ^ k.toNat := by
  have hnum : ∀ m d : ℕ, (mkRat m d).num.toNat ≤ m := by
    intro m d
    rw [Rat.num_mkRat]
    split
    · exact Nat.zero_le m
    · rw [← Int.natCast_ediv, Int.toNat_natCast]
      exact Nat.div_le_self _ _
  rw [dyadic]
  split
  · rw [← Nat.shiftLeft_eq]
    exact hnum _ _
  · exact (hnum _ _).trans (Nat.le_mul_of_pos_right n (by positivity))

/-! ## Logarithms -/

/-- A number is at least the power of two that its logarithm names, and less than the next. -/
theorem log2_bounds {n : ℕ} (h : n ≠ 0) :
    (2 : ℚ) ^ (n.log2 : ℤ) ≤ n ∧ (n : ℚ) < 2 ^ (n.log2 + 1 : ℤ) := by
  constructor
  · exact_mod_cast Nat.log2_self_le h
  · exact_mod_cast Nat.lt_log2_self (n := n)

/-- So is a quotient. -/
theorem logTwo_bounds (hnum : num ≠ 0) (hden : den ≠ 0) :
    (2 : ℚ) ^ logTwo num den ≤ num / den ∧ (num : ℚ) / den < 2 ^ (logTwo num den + 1) := by
  have hpos : (0 : ℚ) < den := Nat.cast_pos.2 (Nat.pos_of_ne_zero hden)
  obtain ⟨hnum_le, hnum_lt⟩ := log2_bounds hnum
  obtain ⟨hden_le, hden_lt⟩ := log2_bounds hden
  let k : ℤ := num.log2 - den.log2
  -- the difference of the logarithms is right, or one too much
  have hlow : (2 : ℚ) ^ (k - 1) ≤ num / den := by
    rw [le_div_iff₀ hpos]
    calc (2 : ℚ) ^ (k - 1) * den
      _ ≤ 2 ^ (k - 1) * 2 ^ (den.log2 + 1 : ℤ) :=
        mul_le_mul_of_nonneg_left hden_lt.le (two_zpow_pos _).le
      _ = 2 ^ (num.log2 : ℤ) := by rw [← two_zpow_add]; congr 1; omega
      _ ≤ num := hnum_le
  have hhigh : (num : ℚ) / den < 2 ^ (k + 1) := by
    rw [div_lt_iff₀ hpos]
    calc (num : ℚ) < 2 ^ (num.log2 + 1 : ℤ) := hnum_lt
      _ = 2 ^ (k + 1) * 2 ^ (den.log2 : ℤ) := by rw [← two_zpow_add]; congr 1; omega
      _ ≤ 2 ^ (k + 1) * den := mul_le_mul_of_nonneg_left hden_le (two_zpow_pos _).le
  have hsnd : (0 : ℚ) < (scaled num den (-k)).2 :=
    Nat.cast_pos.2 (scaled_snd_pos num (Nat.pos_of_ne_zero hden) _)
  have hlt : (scaled num den (-k)).1 < (scaled num den (-k)).2 ↔ (num : ℚ) / den < 2 ^ k := by
    rw [← Nat.cast_lt (α := ℚ), ← div_lt_one hsnd, scaled_eq, zpow_neg, ← div_eq_mul_inv,
      div_lt_one (two_zpow_pos k)]
  have hlog : logTwo num den =
      if (scaled num den (-k)).1 < (scaled num den (-k)).2 then k - 1 else k := rfl
  rw [hlog]
  split
  · rename_i h
    exact ⟨hlow, by rw [sub_add_cancel]; exact hlt.1 h⟩
  · rename_i h
    exact ⟨not_lt.1 (mt hlt.2 h), hhigh⟩

/-! ## Rounding -/

/-- The nearest integer is no more than a half away, said without fractions. -/
theorem roundToEven_bounds (num : ℕ) (hden : 0 < den) :
    2 * (den * roundToEven num den) ≤ 2 * num + den ∧
      2 * num ≤ 2 * (den * roundToEven num den) + den := by
  have hdiv := Nat.div_add_mod num den
  have hmod := Nat.mod_lt num hden
  have hsucc : den * (num / den + 1) = den * (num / den) + den := Nat.mul_succ _ _
  rw [roundToEven]
  split
  · omega
  · split
    · rw [hsucc]
      omega
    · split
      · omega
      · rw [hsucc]
        omega

/-- The nearest integer is no more than a half away. -/
theorem abs_roundToEven_sub_le (hden : 0 < den) :
    |(roundToEven num den : ℚ) - num / den| ≤ 1 / 2 := by
  have hpos : (0 : ℚ) < den := Nat.cast_pos.2 hden
  obtain ⟨hle, hge⟩ := roundToEven_bounds num hden
  have hle' : (2 * (den * roundToEven num den) : ℚ) ≤ 2 * num + den := by exact_mod_cast hle
  have hge' : (2 * num : ℚ) ≤ 2 * (den * roundToEven num den) + den := by exact_mod_cast hge
  have hdiv : (num : ℚ) = num / den * den := (div_mul_cancel₀ _ hpos.ne').symm
  rw [hdiv] at hle' hge'
  rw [abs_le]
  constructor <;> nlinarith only [hle', hge', hpos]

/-- An integer is the nearest to itself. -/
theorem roundToEven_one (n : ℕ) : roundToEven n 1 = n := by
  simp [roundToEven, Nat.mod_one]

/-! ## Doubles -/

/-- The exponent of the last binary place that a double has room for. -/
def lastPlace (q : ℚ) : ℤ := max (logTwo q.num.toNat q.den - 52) (-1074)

/-- How many units of the last place there are in a number, to the nearest one. -/
def units (q : ℚ) : ℕ :=
  let (n, d) := scaled q.num.toNat q.den (-lastPlace q)
  roundToEven n d

variable {q : ℚ}

/-- A number that is not negative is a quotient of naturals. -/
theorem toNat_num_div_den (h : 0 ≤ q) : (q.num.toNat : ℚ) / q.den = q := by
  have hnum : ((q.num.toNat : ℤ) : ℚ) = q.num :=
    congrArg Int.cast (Int.toNat_of_nonneg (Rat.num_nonneg.2 h))
  rw [← Int.cast_natCast, hnum, Rat.num_div_den]

section positive
variable (hq : 0 < q)
include hq

theorem toNat_num_ne_zero : q.num.toNat ≠ 0 := by
  have h : 0 < q.num := Rat.num_pos.2 hq
  omega

/-- A number is at least the power of two that its logarithm names. -/
theorem two_zpow_logTwo_le : 2 ^ logTwo q.num.toNat q.den ≤ q := by
  have h := (logTwo_bounds (toNat_num_ne_zero hq) q.den_nz).1
  rwa [toNat_num_div_den hq.le] at h

/-- It has no place before the first that a double has room for. -/
theorem lt_two_zpow_lastPlace : q < 2 ^ (lastPlace q + 53) := by
  have h := (logTwo_bounds (toNat_num_ne_zero hq) q.den_nz).2
  rw [toNat_num_div_den hq.le] at h
  refine h.trans_le (two_zpow_le ?_)
  rw [lastPlace]
  omega

/-- Half a unit is lost or gained at most. -/
theorem abs_units_sub_le : |(units q : ℚ) - q * 2 ^ (-lastPlace q)| ≤ 1 / 2 := by
  rw [← toNat_num_div_den hq.le, ← scaled_eq, toNat_num_div_den hq.le]
  exact abs_roundToEven_sub_le (scaled_snd_pos _ q.den_pos _)

/-- There are no more units than 53 places count. -/
theorem units_le : units q ≤ 2 ^ 53 := by
  have hlt : q * 2 ^ (-lastPlace q) < 2 ^ 53 := by
    have h := lt_two_zpow_lastPlace hq
    rw [add_comm, two_zpow_add] at h
    rw [zpow_neg, ← div_eq_mul_inv, div_lt_iff₀ (two_zpow_pos _)]
    exact_mod_cast h
  have hunits := (abs_le.1 (abs_units_sub_le hq)).2
  have hcast : (units q : ℚ) < (2 ^ 53 + 1 : ℕ) := by
    push_cast
    linarith
  exact Nat.lt_succ_iff.1 (Nat.cast_lt.1 hcast)

/-- What is kept of a number is the units of its last place. -/
theorem nearest_eq_some (hlt : q < 2 ^ 100) :
    nearest q = some ((units q : ℚ) * 2 ^ lastPlace q) := by
  have hlog : logTwo q.num.toNat q.den < 100 := by
    refine lt_of_two_zpow_lt ((two_zpow_logTwo_le hq).trans_lt ?_)
    exact_mod_cast hlt
  have hplace : (lastPlace q).toNat ≤ 47 := by
    rw [lastPlace]
    omega
  have hsmall : (dyadic (units q) (lastPlace q)).num.toNat < limit := by
    calc (dyadic (units q) (lastPlace q)).num.toNat
      _ ≤ units q * 2 ^ (lastPlace q).toNat := num_dyadic_le _ _
      _ ≤ 2 ^ 53 * 2 ^ 47 :=
        Nat.mul_le_mul (units_le hq) (Nat.pow_le_pow_right (by decide) hplace)
      _ = 2 ^ 100 := (pow_add 2 53 47).symm
      _ < 2 ^ 1024 := Nat.pow_lt_pow_right (by decide) (by decide)
      _ = limit := (Nat.one_shiftLeft 1024).symm
  have hnearest : nearest q = if q.num.toNat = 0 then some 0
      else if limit ≤ (dyadic (units q) (lastPlace q)).num.toNat then none
      else some (dyadic (units q) (lastPlace q)) := rfl
  rw [hnearest, if_neg (toNat_num_ne_zero hq), if_neg (not_le.2 hsmall), dyadic_eq]

/-- A unit of the last place is a part in `2 ^ 52` of the number, or the least that there is. -/
theorem two_zpow_lastPlace_le : (2 : ℚ) ^ lastPlace q ≤ (q + 1) / 2 ^ 52 := by
  have hpart : (2 : ℚ) ^ (-52 : ℤ) = 1 / 2 ^ 52 := by norm_num
  rw [lastPlace]
  rcases max_choice (logTwo q.num.toNat q.den - 52) (-1074) with hmax | hmax
  · rw [hmax, sub_eq_add_neg, two_zpow_add, hpart]
    linarith [two_zpow_logTwo_le hq]
  · have hleast : (2 : ℚ) ^ (-1074 : ℤ) ≤ 2 ^ (-52 : ℤ) := two_zpow_le (by decide)
    rw [hmax]
    refine hleast.trans ?_
    rw [hpart]
    gcongr
    linarith

end positive

/-- A whole number with no more than 53 places is kept as it is. -/
theorem nearest_natCast {n : ℕ} (h : n < 2 ^ 53) : nearest n = some (n : ℚ) := by
  rcases Nat.eq_zero_or_pos n with rfl | hn
  · rfl
  · have hq : (0 : ℚ) < n := Nat.cast_pos.2 hn
    have hlt : (n : ℚ) < 2 ^ 53 := by exact_mod_cast h
    have hlog : logTwo (n : ℚ).num.toNat (n : ℚ).den < 53 := by
      refine lt_of_two_zpow_lt ((two_zpow_logTwo_le hq).trans_lt ?_)
      exact_mod_cast hlt
    have hplace : 0 ≤ -lastPlace (n : ℚ) := by
      rw [lastPlace]
      omega
    have hunits : (units (n : ℚ) : ℚ) = n * 2 ^ (-lastPlace (n : ℚ)) := by
      rw [units, scaled, if_pos hplace, Rat.den_natCast, Rat.num_natCast, Int.toNat_natCast]
      show (roundToEven (n <<< (-lastPlace (n : ℚ)).toNat) 1 : ℚ) = _
      rw [roundToEven_one, Nat.shiftLeft_eq, ← two_pow_toNat hplace]
      push_cast
      rfl
    rw [nearest_eq_some hq (hlt.trans (by norm_num)), hunits, mul_assoc, ← two_zpow_add,
      neg_add_cancel, zpow_zero, mul_one]

/-- Whether a number can stand for another one: it is off by no more than a part in `2 ^ 53` of that
and of one. -/
def Near (r q : ℚ) : Prop := 0 ≤ r ∧ |r - q| ≤ (q + 1) / 2 ^ 53

/-- What is kept of a number can stand for it. -/
theorem nearest_near (h0 : 0 ≤ q) (h : q < 2 ^ 100) :
    ∃ r, nearest q = some r ∧ Near r q := by
  rcases h0.eq_or_lt with rfl | hq
  · exact ⟨0, rfl, le_rfl, by norm_num⟩
  · have hpos := two_zpow_pos (lastPlace q)
    refine ⟨_, nearest_eq_some hq h, by positivity, ?_⟩
    calc |(units q : ℚ) * 2 ^ lastPlace q - q|
      _ = |(units q : ℚ) - q * 2 ^ (-lastPlace q)| * 2 ^ lastPlace q := by
        rw [← abs_of_pos hpos, ← abs_mul, abs_of_pos hpos, sub_mul, mul_assoc, ← two_zpow_add,
          neg_add_cancel, zpow_zero, mul_one]
      _ ≤ 1 / 2 * ((q + 1) / 2 ^ 52) :=
        mul_le_mul (abs_units_sub_le hq) (two_zpow_lastPlace_le hq) hpos.le (by norm_num)
      _ = (q + 1) / 2 ^ 53 := by ring

/-! ## Decimals -/

/-- A number has as many decimal places as it takes to write it. -/
theorem digitCount_bounds {n : ℕ} (h : n ≠ 0) :
    (10 : ℚ) ^ (digitCount n - 1 : ℤ) ≤ n ∧ (n : ℚ) < 10 ^ (digitCount n : ℤ) := by
  have hcount : digitCount n = (Nat.toDigits 10 n).length := by
    rw [digitCount, ← String.length_toList, Nat.toString_eq_repr, Nat.toList_repr]
  have hpos : 0 < digitCount n := hcount ▸ List.length_pos_iff.2 Nat.toDigits_ne_nil
  constructor
  · have hle : 10 ^ (digitCount n - 1) ≤ n := by
      rcases Nat.eq_zero_or_pos (digitCount n - 1) with hzero | hpred
      · rw [hzero]
        exact Nat.one_le_iff_ne_zero.2 h
      · refine not_lt.1 fun hlt => ?_
        have hfewer := (Nat.length_toDigits_le_iff (by decide) hpred).2 hlt
        omega
    rw [← Nat.cast_pred hpos, zpow_natCast]
    exact_mod_cast hle
  · rw [zpow_natCast]
    exact_mod_cast (Nat.length_toDigits_le_iff (by decide) hpos).1 hcount.ge

/-- What is kept of a decimal can stand for it. -/
theorem ofDecimal_near {d : Decimal} (h : d.magnitude < 2 ^ 100) :
    ∃ r, ofDecimal d.mantissa d.exponent = some r ∧ Near r d.magnitude := by
  have hdecimal : ofDecimal d.mantissa d.exponent =
      if d.mantissa = 0 then some 0
      else if digitCount d.mantissa + d.exponent > 310 then none
      else if digitCount d.mantissa + d.exponent < -330 then some 0
      else nearest d.magnitude := by
    rw [ofDecimal, Decimal.magnitude, apply_ite nearest]
  rw [Decimal.magnitude_eq] at hdecimal h ⊢
  rw [hdecimal]
  split
  · rename_i hzero
    rw [hzero, Nat.cast_zero, zero_mul]
    exact ⟨0, rfl, le_rfl, by norm_num⟩
  · rename_i hmantissa
    obtain ⟨hle, hlt⟩ := digitCount_bounds hmantissa
    have hpos : (0 : ℚ) < 10 ^ d.exponent := zpow_pos (by norm_num) _
    split
    · -- there are too many places for that
      rename_i hmany
      refine absurd h (not_lt.2 ?_)
      calc (2 : ℚ) ^ 100 ≤ 10 ^ (31 : ℤ) := by norm_num
        _ ≤ 10 ^ (digitCount d.mantissa - 1 + d.exponent : ℤ) :=
          zpow_le_zpow_right₀ (by norm_num) (by omega)
        _ = 10 ^ (digitCount d.mantissa - 1 : ℤ) * 10 ^ d.exponent := zpow_add₀ (by norm_num) _ _
        _ ≤ d.mantissa * 10 ^ d.exponent := mul_le_mul_of_nonneg_right hle hpos.le
    · split
      · -- there are so few that nothing can stand for it
        rename_i hfew
        have hsmall : (d.mantissa : ℚ) * 10 ^ d.exponent ≤ 1 / 2 ^ 53 := by
          calc (d.mantissa : ℚ) * 10 ^ d.exponent
            _ ≤ 10 ^ (digitCount d.mantissa : ℤ) * 10 ^ d.exponent :=
              mul_le_mul_of_nonneg_right hlt.le hpos.le
            _ = 10 ^ (digitCount d.mantissa + d.exponent : ℤ) := (zpow_add₀ (by norm_num) _ _).symm
            _ ≤ 10 ^ (-16 : ℤ) := zpow_le_zpow_right₀ (by norm_num) (by omega)
            _ ≤ 1 / 2 ^ 53 := by norm_num
        have hnonneg : (0 : ℚ) ≤ d.mantissa * 10 ^ d.exponent := by positivity
        refine ⟨0, rfl, le_rfl, ?_⟩
        rw [zero_sub, abs_neg, abs_of_nonneg hnonneg]
        refine hsmall.trans ?_
        gcongr
        linarith
      · exact nearest_near (by positivity) h

end ClusterAudit.Binary64
