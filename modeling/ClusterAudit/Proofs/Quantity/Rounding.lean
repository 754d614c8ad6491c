import ClusterAudit.Proofs.Number.Binary64
import ClusterAudit.Quantity
import Mathlib.Algebra.Order.Floor.Semifield
import Mathlib.Data.Rat.Floor

/-!
# Rounding to thousandths and then up

A number of thousandths of a core is rounded to thousandths of these and then up. What comes of it
(`Quantity.counted`) is the number rounded up, but for a fraction of less than half a thousandth,
which is dropped (`Quantity.counted_eq`).

Rounded arithmetic keeps what is near the exact results (`Arithmetic.Faithful`), as doubles do
(`Arithmetic.faithful_doubles`). What is counted does not depend on it, if the number is not too
large and its thousandths do not come near a half, where a little less or more decides
(`Quantity.wholeMillis_of_near`).
-/

namespace ClusterAudit

namespace Quantity

/-! ## Exact rounding -/

variable {v : ℚ}

/-- The nearest integer is the greatest that is not more than a half above. -/
theorem round_eq (h : 0 ≤ v) : round v = ⌊v + 1 / 2⌋₊ := by
  have hden : (v.den : ℚ) ≠ 0 := Nat.cast_ne_zero.2 v.den_nz
  have hquotient : ((2 * v.num.toNat + v.den : ℕ) : ℚ) / (2 * v.den : ℕ) = v + 1 / 2 := by
    calc ((2 * v.num.toNat + v.den : ℕ) : ℚ) / (2 * v.den : ℕ)
      _ = v.num.toNat / v.den + 1 / 2 := by
        push_cast
        field_simp
      _ = v + 1 / 2 := by rw [Binary64.toNat_num_div_den h]
  rw [round, Binary64.roundHalfUp, ← Nat.floor_div_eq_div (K := ℚ), hquotient]

/-- The least integer that is not below. -/
theorem ceil_eq (v : ℚ) : ceil v = ⌈v⌉₊ := by
  have hceil : v.ceil = ⌈v⌉ := eq_of_forall_ge_iff fun z => by rw [Rat.ceil_le_iff, Int.ceil_le]
  rw [ceil, hceil, Int.ceil_toNat]

/-- A number is what it is rounded down to and its fraction. -/
theorem floor_add_fract (h : 0 ≤ v) : (⌊v⌋₊ : ℚ) + Int.fract v = v := by
  rw [natCast_floor_eq_intCast_floor h, Int.floor_add_fract]

/-- The integer that a number is counted as: it is rounded to thousandths and then up. -/
def counted (v : ℚ) : ℕ := ⌈(round (v * 1000) : ℚ) / 1000⌉₊

/-- A number is counted as no more than what it exceeds by less than half a thousandth. -/
theorem counted_le_iff (h : 0 ≤ v) {n : ℕ} : counted v ≤ n ↔ v < n + 1 / 2000 := by
  have hv : 0 ≤ v * 1000 := by positivity
  calc counted v ≤ n
    _ ↔ (round (v * 1000) : ℚ) ≤ (n * 1000 : ℕ) := by
      rw [counted, Nat.ceil_le, div_le_iff₀ (by norm_num)]
      push_cast
      rfl
    _ ↔ v * 1000 + 1 / 2 < (n * 1000 : ℕ) + 1 := by
      rw [Nat.cast_le, round_eq hv, ← Nat.lt_succ_iff, Nat.floor_lt (by positivity)]
      push_cast
      rfl
    _ ↔ v < n + 1 / 2000 := by
      push_cast
      constructor <;> intro <;> linarith

/-- A fraction of less than half a thousandth is dropped, and all else is rounded up. -/
theorem counted_eq (h : 0 ≤ v) :
    counted v = if Int.fract v < 1 / 2000 then ⌊v⌋₊ else ⌈v⌉₊ := by
  have hsplit := floor_add_fract h
  have hone := Int.fract_lt_one v
  refine eq_of_forall_ge_iff fun n => ?_
  rw [counted_le_iff h]
  split
  · rename_i hfract
    constructor
    · refine fun hlt => not_lt.1 fun hn => ?_
      have hsucc : (n + 1 : ℚ) ≤ ⌊v⌋₊ := by exact_mod_cast hn
      linarith [Int.fract_nonneg v]
    · intro hle
      have hcast : (⌊v⌋₊ : ℚ) ≤ n := Nat.cast_le.2 hle
      linarith
  · rename_i hfract
    rw [Nat.ceil_le]
    constructor
    · intro hlt
      have hn : (⌊v⌋₊ : ℚ) < n := by linarith
      have hsucc : (⌊v⌋₊ + 1 : ℚ) ≤ n := by exact_mod_cast Nat.cast_lt.1 hn
      linarith
    · intro hle
      linarith

/-- So a number is rounded up if there is no such fraction. -/
theorem counted_eq_ceil_iff (h : 0 ≤ v) :
    counted v = ⌈v⌉₊ ↔ Int.fract v = 0 ∨ 1 / 2000 ≤ Int.fract v := by
  have hsplit := floor_add_fract h
  rw [counted_eq h]
  split
  · rename_i hfract
    rw [or_iff_left (not_le.2 hfract)]
    constructor
    · intro heq
      have hle : v ≤ ⌊v⌋₊ := heq ▸ Nat.le_ceil v
      linarith [Int.fract_nonneg v]
    · intro hzero
      rw [hzero, add_zero] at hsplit
      rw [← hsplit, Nat.floor_natCast, Nat.ceil_natCast]
  · rename_i hfract
    exact iff_of_true rfl (.inr (not_lt.1 hfract))

/-- Only less than half a thousandth is counted as nothing. -/
theorem counted_eq_zero_iff (h : 0 ≤ v) : counted v = 0 ↔ v < 1 / 2000 := by
  rw [← Nat.le_zero, counted_le_iff h, Nat.cast_zero, zero_add]

/-- Without rounding on the way, what is read is what is counted, up to the largest result. -/
theorem wholeMillis_exact (v : ℚ) : wholeMillis .exact v = min (counted v) largest := by
  show min (ceil (mkRat (round (v * 1000) : ℕ) 1000)) largest = _
  rw [ceil_eq, Rat.mkRat_eq_div, counted]
  rfl

/-- The largest result is far beyond the whole numbers that doubles keep. -/
theorem two_pow_le_largest : (2 : ℚ) ^ 53 ≤ largest := by
  exact_mod_cast (by decide : 2 ^ 53 ≤ largest)

end Quantity

/-! ## Rounded arithmetic -/

open Binary64 (Near)

/-- Whether what is kept of results that are not too large can stand for them, and whole ones are
kept as they are. -/
structure Arithmetic.Faithful (a : Arithmetic) : Prop where
  read_near : ∀ d : Decimal, d.magnitude < 2 ^ 100 → ∃ r, a.read d = some r ∧ Near r d.magnitude
  keep_near : ∀ q, 0 ≤ q → q < 2 ^ 100 → ∃ r, a.keep q = some r ∧ Near r q
  keep_natCast : ∀ n : ℕ, n < 2 ^ 53 → a.keep n = some (n : ℚ)

theorem Arithmetic.faithful_doubles : Arithmetic.doubles.Faithful where
  read_near _ := Binary64.ofDecimal_near
  keep_near _ := Binary64.nearest_near
  keep_natCast _ := Binary64.nearest_natCast

namespace Quantity

/-- Numbers near each other are rounded to one integer, if they are not near a half. -/
theorem round_eq_of_near {s t : ℚ} (hs : 0 ≤ s) (ht : 0 ≤ t) (hnear : |s - t| < 1 / 1000)
    (hhalf : 1 / 1000 ≤ |Int.fract t - 1 / 2|) : round s = round t := by
  have hsplit := floor_add_fract ht
  have hone := Int.fract_lt_one t
  have hzero := Int.fract_nonneg t
  have hround : ∀ u : ℚ, 0 ≤ u → |u - t| < 1 / 1000 →
      round u = if Int.fract t < 1 / 2 then ⌊t⌋₊ else ⌊t⌋₊ + 1 := by
    intro u hu hnear
    obtain ⟨hlow, hhigh⟩ := abs_lt.1 hnear
    rw [round_eq hu]
    split
    · rename_i hfract
      rw [abs_of_nonpos (by linarith)] at hhalf
      rw [Nat.floor_eq_iff (by linarith)]
      constructor <;> linarith
    · rename_i hfract
      rw [abs_of_nonneg (by linarith)] at hhalf
      rw [Nat.floor_eq_iff (by linarith)]
      push_cast
      constructor <;> linarith
  rw [hround s hs hnear, hround t ht (by rw [sub_self, abs_zero]; norm_num)]

/-- What is near a number of thousandths is rounded up as that, if it is no integer. -/
theorem ceil_eq_of_near {n : ℕ} {c : ℚ} (hn : ¬ 1000 ∣ n) (hnear : |c - n / 1000| < 1 / 1000) :
    ⌈c⌉₊ = ⌈(n : ℚ) / 1000⌉₊ := by
  have hdiv : (n : ℚ) = 1000 * (n / 1000 : ℕ) + (n % 1000 : ℕ) := by
    exact_mod_cast (Nat.div_add_mod n 1000).symm
  have hpos : (1 : ℚ) ≤ (n % 1000 : ℕ) := by
    exact_mod_cast Nat.pos_of_ne_zero (mt Nat.dvd_of_mod_eq_zero hn)
  have hlt : ((n % 1000 : ℕ) + 1 : ℚ) ≤ 1000 := by
    exact_mod_cast Nat.mod_lt n (by decide : 0 < 1000)
  have hceil : ∀ u : ℚ, |u - n / 1000| < 1 / 1000 → ⌈u⌉₊ = n / 1000 + 1 := by
    intro u hu
    obtain ⟨hlow, hhigh⟩ := abs_lt.1 hu
    rw [Nat.ceil_eq_iff (Nat.succ_ne_zero _), Nat.succ_sub_one]
    push_cast
    constructor <;> linarith
  rw [hceil c hnear, hceil (n / 1000) (by rw [sub_self, abs_zero]; norm_num)]

section faithful
variable {a : Arithmetic} (ha : a.Faithful)
include ha

/-- What is kept of a number of thousandths is rounded up as that. -/
theorem exists_keep_thousandths {n : ℕ} (h : n < 2 ^ 43) :
    ∃ c, a.keep (mkRat n 1000) = some c ∧ ⌈c⌉₊ = ⌈(n : ℚ) / 1000⌉₊ := by
  have hcast : (n : ℚ) < 2 ^ 43 := by exact_mod_cast h
  rw [Rat.mkRat_eq_div]
  by_cases hdvd : 1000 ∣ n
  · obtain ⟨k, rfl⟩ := hdvd
    have hquotient : ((1000 * k : ℕ) : ℚ) / 1000 = k := by
      push_cast
      ring
    refine ⟨k, ?_, by rw [hquotient]⟩
    show a.keep (((1000 * k : ℕ) : ℚ) / 1000) = some (k : ℚ)
    rw [hquotient]
    exact ha.keep_natCast k (by omega)
  · obtain ⟨c, hkeep, -, hnear⟩ := ha.keep_near ((n : ℚ) / 1000) (by positivity) (by linarith)
    exact ⟨c, hkeep, ceil_eq_of_near hdvd (hnear.trans_lt (by linarith))⟩

/-- What is near a number of thousandths of a core is read as that number is counted. -/
theorem wholeMillis_of_near {m : ℚ} (hm : 0 ≤ m) (hv : 0 ≤ v) (hnear : |m - v| ≤ 1 / 2 ^ 21)
    (hlt : v < 2 ^ 30) (hhalf : 1 / 1000 ≤ |Int.fract (v * 1000) - 1 / 2|) :
    wholeMillis a m = counted v := by
  obtain ⟨hlow, hhigh⟩ := abs_le.1 hnear
  obtain ⟨b, hkeep, hb, hbnear⟩ := ha.keep_near (m * 1000) (by positivity) (by linarith)
  have hround : round b = round (v * 1000) := by
    refine round_eq_of_near hb (by positivity) ?_ hhalf
    obtain ⟨hblow, hbhigh⟩ := abs_le.1 hbnear
    rw [abs_lt]
    constructor <;> linarith
  have hsmall : round (v * 1000) < 2 ^ 43 := by
    rw [round_eq (by positivity), Nat.floor_lt (by positivity)]
    push_cast
    linarith
  obtain ⟨c, hkeep', hceil⟩ := exists_keep_thousandths ha hsmall
  have hlargest : counted v ≤ largest := by
    rw [counted_le_iff hv]
    linarith [two_pow_le_largest]
  simp only [wholeMillis, hkeep, hround]
  rw [hkeep']
  show min (ceil c) largest = counted v
  rw [ceil_eq, hceil, ← counted, Nat.min_eq_left hlargest]

end faithful

end Quantity

end ClusterAudit
