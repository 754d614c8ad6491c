import ClusterAudit.Number.Decimal
import ClusterAudit.Proofs.Text.Numeral
import Mathlib.Algebra.Order.Field.Rat
import Mathlib.Data.List.TakeWhile
import Mathlib.Tactic.FieldSimp
import Mathlib.Tactic.Positivity

/-!
# Decimals in plain digits

A numeral without sign and exponent is read digit by digit (`Decimal.parse?_digits`); those behind a
point count tenths, hundredths and so on (`Decimal.parse?_point`).

A decimal in plain digits is such a numeral (`PlainDecimal`). It denotes what the digits in front of
the point spell, and a part of what those behind it spell. It is read as the number that it denotes
(`PlainDecimal.exists_parse?`).
-/

namespace ClusterAudit

namespace Decimal

/-- No sign is read in front of digits and points. -/
theorem readSign_of_digits {s : List Char} (h : ∀ c ∈ s, c.isDigit ∨ c = '.') :
    readSign s = (false, s) := by
  unfold readSign
  split
  · exact absurd (h '-' List.mem_cons_self) (by decide)
  · exact absurd (h '+' List.mem_cons_self) (by decide)
  · rfl

section digits
variable {whole fraction : List Char} (hwhole : ∀ c ∈ whole, c.isDigit)
include hwhole

/-- Digits are read to what they spell. -/
theorem parse?_digits (hne : whole ≠ []) :
    parse? whole = some ⟨false, Nat.ofDigitChars 10 whole 0, 0⟩ := by
  have hsign := readSign_of_digits fun c hc => .inl (hwhole c hc)
  have htake : whole.takeWhile Char.isDigit = whole := List.takeWhile_eq_self_iff.2 hwhole
  have hdrop : whole.dropWhile Char.isDigit = [] := List.dropWhile_eq_nil_iff.2 hwhole
  have hnumber := Text.number?_eq_some_iff.2 ⟨hne, hwhole, rfl⟩
  simp [parse?, hsign, htake, hdrop, hnumber, exponent?]

/-- Those behind a point count tenths, hundredths and so on. -/
theorem parse?_point (hfraction : ∀ c ∈ fraction, c.isDigit) (hne : whole ++ fraction ≠ []) :
    parse? (whole ++ '.' :: fraction) =
      some ⟨false, Nat.ofDigitChars 10 (whole ++ fraction) 0, -fraction.length⟩ := by
  have hdigits : ∀ c ∈ whole ++ fraction, c.isDigit := fun c hc =>
    (List.mem_append.1 hc).elim (hwhole c) (hfraction c)
  have hsign : readSign (whole ++ '.' :: fraction) = (false, whole ++ '.' :: fraction) := by
    refine readSign_of_digits fun c hc => ?_
    rcases List.mem_append.1 hc with hc | hc
    · exact .inl (hwhole c hc)
    · exact (List.mem_cons.1 hc).symm.imp_left (hfraction c)
  have htake : (whole ++ '.' :: fraction).takeWhile Char.isDigit = whole := by
    rw [List.takeWhile_append_of_pos hwhole]
    simp
  have hdrop : (whole ++ '.' :: fraction).dropWhile Char.isDigit = '.' :: fraction := by
    rw [List.dropWhile_append_of_pos hwhole]
    simp
  have hnumber := Text.number?_eq_some_iff.2 ⟨hne, hdigits, rfl⟩
  have htake' : fraction.takeWhile Char.isDigit = fraction := List.takeWhile_eq_self_iff.2 hfraction
  have hdrop' : fraction.dropWhile Char.isDigit = [] := List.dropWhile_eq_nil_iff.2 hfraction
  simp [parse?, hsign, htake, hdrop, htake', hdrop', hnumber, exponent?]

end digits

/-- The exponent is one of ten. -/
theorem magnitude_eq (d : Decimal) : d.magnitude = d.mantissa * (10 : ℚ) ^ d.exponent := by
  rw [magnitude]
  split
  · rename_i h
    nth_rewrite 2 [← Int.toNat_of_nonneg h]
    rw [zpow_natCast, Rat.mkRat_one, Nat.pow_eq]
    push_cast
    rfl
  · rename_i h
    have hexponent : d.exponent = -((-d.exponent).toNat : ℤ) := by omega
    nth_rewrite 2 [hexponent]
    rw [zpow_neg, zpow_natCast, Rat.mkRat_eq_div, div_eq_mul_inv, Nat.pow_eq]
    push_cast
    rfl

end Decimal

/-- A decimal in plain digits, of which there is one at least, with a point among or around them or
without one. -/
structure PlainDecimal where
  whole : String
  fraction : Option String
  whole_digits : whole.toList.all Char.isDigit := by decide
  fraction_digits : fraction.all (·.toList.all Char.isDigit) := by decide
  has_digit : whole.toList ++ (fraction.elim [] String.toList) ≠ [] := by decide

namespace PlainDecimal

/-- The written decimal. -/
def text (d : PlainDecimal) : String := d.whole ++ d.fraction.elim "" ("." ++ ·)

/-- The number that digits spell. -/
def spelled (digits : String) : ℕ := Nat.ofDigitChars 10 digits.toList 0

/-- The number that it denotes. -/
def value (d : PlainDecimal) : ℚ :=
  spelled d.whole + d.fraction.elim 0 fun f => (spelled f : ℚ) / 10 ^ f.length

variable (d : PlainDecimal)

/-- There are digits in front of the point. -/
theorem isDigit_of_mem_whole {c : Char} (h : c ∈ d.whole.toList) : c.isDigit :=
  List.all_eq_true.1 d.whole_digits c h

/-- There are digits behind it. -/
theorem isDigit_of_mem_fraction {f : String} (hf : d.fraction = some f) {c : Char}
    (h : c ∈ f.toList) : c.isDigit := by
  have hdigits := d.fraction_digits
  rw [hf, Option.all_some] at hdigits
  exact List.all_eq_true.1 hdigits c h

/-- There is nothing but digits and a point in it. -/
theorem isDigit_or_eq_point {c : Char} (h : c ∈ d.text.toList) : c.isDigit ∨ c = '.' := by
  rw [text, String.toList_append, List.mem_append] at h
  rcases h with h | h
  · exact .inl (d.isDigit_of_mem_whole h)
  · cases hf : d.fraction with
    | none =>
      rw [hf] at h
      cases h
    | some f =>
      rw [hf, Option.elim_some, String.toList_append, List.mem_append] at h
      exact h.symm.imp (d.isDigit_of_mem_fraction hf) List.mem_singleton.1

/-- It denotes no negative number. -/
theorem value_nonneg : 0 ≤ d.value := by
  rw [value]
  cases d.fraction with
  | none => exact add_nonneg (Nat.cast_nonneg _) le_rfl
  | some f => exact add_nonneg (Nat.cast_nonneg _) (by rw [Option.elim_some]; positivity)

/-- It is read without a sign, to the number that it denotes. -/
theorem exists_parse? : ∃ numeral, Decimal.parse? d.text.toList = some numeral ∧
    numeral.negative = false ∧ numeral.magnitude = d.value := by
  have hdigit := d.has_digit
  simp only [Decimal.magnitude_eq]
  rw [text, value]
  cases hf : d.fraction with
  | none =>
    rw [hf, Option.elim_none, List.append_nil] at hdigit
    refine ⟨⟨false, spelled d.whole, 0⟩, ?_, rfl, by simp⟩
    rw [Option.elim_none, String.append_empty]
    exact Decimal.parse?_digits (fun c => d.isDigit_of_mem_whole) hdigit
  | some f =>
    rw [hf, Option.elim_some] at hdigit
    refine ⟨⟨false, Nat.ofDigitChars 10 (d.whole.toList ++ f.toList) 0, -f.length⟩, ?_, rfl, ?_⟩
    · have htext : (d.whole ++ ("." ++ f)).toList = d.whole.toList ++ '.' :: f.toList := by simp
      rw [Option.elim_some, htext, ← String.length_toList]
      exact Decimal.parse?_point (fun c => d.isDigit_of_mem_whole)
        (fun c => d.isDigit_of_mem_fraction hf) hdigit
    · -- each digit behind the point makes the number that is read tenfold
      rw [Option.elim_some, Nat.ofDigitChars_append, Nat.ofDigitChars_eq_ofDigitChars_zero,
        String.length_toList, ← spelled, ← spelled, zpow_neg, zpow_natCast]
      push_cast
      field_simp

end PlainDecimal

end ClusterAudit
