import ClusterAudit.Text.Numeral

/-!
# Digits of numbers

A text is read as a number exactly if decimal digits in it spell the number
(`number?_eq_some_iff`). A number is written as its decimal digits, and those spell it again
(`number?_toString`): different numbers are written differently.
-/

namespace ClusterAudit.Text

/-- A number is written in decimal digits. -/
theorem isDigit_of_mem_toString {n : Nat} {d : Char} (h : d ∈ (toString n).toList) : d.isDigit := by
  rw [Nat.toString_eq_repr, Nat.toList_repr] at h
  exact Nat.isDigit_of_mem_toDigits (by decide) (by decide) h

/-- A decimal digit stands for its distance from the zero. -/
theorem hexDigit?_of_isDigit {d : Char} (h : d.isDigit) :
    hexDigit? d = some (d.toNat - '0'.toNat) ∧ d.toNat - '0'.toNat < 10 := by
  rw [hexDigit?, if_pos h]
  rw [Char.isDigit, Bool.and_eq_true, decide_eq_true_iff, decide_eq_true_iff] at h
  have hnine : d.toNat ≤ 57 := h.2
  have hzero : '0'.toNat = 48 := rfl
  exact ⟨rfl, by omega⟩

/-- What stands for a number below ten is a decimal digit. -/
theorem isDigit_of_hexDigit? {c : Char} {d : Nat} (h : hexDigit? c = some d) (hlt : d < 10) :
    c.isDigit := by
  rw [hexDigit?] at h
  split at h
  · assumption
  · split at h
    · cases h
      omega
    · split at h
      · cases h
        omega
      · cases h

/-- Decimal digits are read to the number that they spell. -/
theorem readDigits_of_isDigit {digits : List Char} (h : ∀ d ∈ digits, d.isDigit) (acc : Nat) :
    readDigits 10 hexDigit? acc digits = some (Nat.ofDigitChars 10 digits acc) := by
  induction digits generalizing acc with
  | nil => rfl
  | cons d rest ih =>
    obtain ⟨hvalue, hlt⟩ := hexDigit?_of_isDigit (h d List.mem_cons_self)
    rw [readDigits, hvalue, Nat.ofDigitChars_cons, Nat.mul_comm 10]
    exact (if_pos hlt).trans (ih (fun e he => h e (List.mem_cons_of_mem _ he)) _)

/-- What is read in base ten is decimal digits. -/
theorem isDigit_of_readDigits {s : List Char} {acc n : Nat}
    (h : readDigits 10 hexDigit? acc s = some n) : ∀ c ∈ s, c.isDigit := by
  induction s generalizing acc with
  | nil => exact List.forall_mem_nil _
  | cons c rest ih =>
    rw [readDigits] at h
    split at h
    · rename_i d hd
      split at h
      · exact List.forall_mem_cons.2 ⟨isDigit_of_hexDigit? hd ‹_›, ih h⟩
      · cases h
    · cases h

/-- A text spells a number if it is made of decimal digits, of which there is one, and these have
the number's value. -/
theorem number?_eq_some_iff {s : List Char} {n : Nat} : number? 10 s = some n ↔
    s ≠ [] ∧ (∀ c ∈ s, c.isDigit) ∧ Nat.ofDigitChars 10 s 0 = n := by
  rw [number?]
  split
  · rename_i hempty
    simp [List.isEmpty_iff.1 hempty]
  · rename_i hempty
    rw [List.isEmpty_iff] at hempty
    constructor
    · intro h
      have hdigits := isDigit_of_readDigits h
      rw [readDigits_of_isDigit hdigits] at h
      exact ⟨hempty, hdigits, Option.some.inj h⟩
    · rintro ⟨-, hdigits, rfl⟩
      exact readDigits_of_isDigit hdigits 0

/-- A bounded numeral is a number below the bound, spelled after a plus sign or without one. -/
theorem natural?_eq_some_iff {bound n : Nat} {s : List Char} : natural? bound s = some n ↔
    n < bound ∧ ∃ sign digits, s = sign ++ digits ∧ (sign = [] ∨ sign = ['+']) ∧
      digits ≠ [] ∧ (∀ d ∈ digits, d.isDigit) ∧ Nat.ofDigitChars 10 digits 0 = n := by
  unfold natural?
  rw [Option.filter_eq_some_iff, decide_eq_true_iff, number?_eq_some_iff, and_comm]
  refine and_congr_right fun _ => ⟨?_, ?_⟩
  · split
    · exact fun h => ⟨['+'], _, rfl, .inr rfl, h⟩
    · exact fun h => ⟨[], s, rfl, .inl rfl, h⟩
  · rintro ⟨sign, digits, rfl, rfl | rfl, hne, hdigits, hvalue⟩
    · -- no digit is taken for the sign
      rw [List.nil_append]
      split
      · exact absurd (hdigits '+' List.mem_cons_self) (by decide)
      · exact ⟨hne, hdigits, hvalue⟩
    · exact ⟨hne, hdigits, hvalue⟩

/-- The digits of a number spell it. -/
theorem number?_toString (n : Nat) : number? 10 (toString n).toList = some n := by
  have hlist : (toString n).toList = Nat.toDigits 10 n := by
    rw [Nat.toString_eq_repr, Nat.toList_repr]
  refine number?_eq_some_iff.2 ⟨?_, fun d => isDigit_of_mem_toString, ?_⟩
  · rw [hlist]
    exact Nat.toDigits_ne_nil
  · rw [hlist, Nat.ofDigitChars_ten_toDigits]

/-- Numbers with the same digits are the same. -/
theorem toString_inj {m n : Nat} : toString m = toString n ↔ m = n := by
  constructor
  · intro h
    have hm := number?_toString m
    rw [h, number?_toString] at hm
    exact (Option.some.inj hm).symm
  · rintro rfl
    rfl

end ClusterAudit.Text
