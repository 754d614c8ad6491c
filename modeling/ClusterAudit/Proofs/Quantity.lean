import ClusterAudit.Proofs.Quantity.Rounding

/-!
# CPU quantities rounded up

A CPU quantity in plain digits is a number of cores, or of thousandths of a core (`CpuNumeral`).
Without rounding on the way it is read as the thousandths that it denotes are counted
(`Quantity.cpuMillisWith_exact`), which is rounded up but for a fraction of less than half a
thousandth of a thousandth. So a quantity that is small enough is read as nothing:
`Quantity.cpuMillisWith_exact_eq_ceil_iff`.

With doubles the result is the same for quantities of up to a million cores
(`Quantity.cpuMillisWith_of_faithful`), unless the quantity comes near a number of thousandths of
thousandths and a half.
-/

namespace ClusterAudit

/-! ## Quantities in plain digits -/

/-- A CPU quantity in plain digits: a number of cores, or of thousandths of a core. -/
inductive CpuNumeral where
  | cores (d : PlainDecimal)
  | thousandths (d : PlainDecimal)

namespace CpuNumeral

/-- The written quantity. -/
def text : CpuNumeral → String
  | cores d => d.text
  | thousandths d => d.text ++ "m"

/-- The thousandths of a core that it denotes. -/
def millis : CpuNumeral → ℚ
  | cores d => d.value * 1000
  | thousandths d => d.value

variable (q : CpuNumeral)

/-- There are no negative quantities among them. -/
theorem millis_nonneg : 0 ≤ q.millis := by
  cases q with
  | cores d => exact mul_nonneg d.value_nonneg (by norm_num)
  | thousandths d => exact d.value_nonneg

/-- There are no blanks in it. -/
theorem trimList_text : Text.trimList q.text.toList = q.text.toList := by
  have hdecimal : ∀ (d : PlainDecimal), ∀ c ∈ d.text.toList, ¬ Text.isBlank c := by
    intro d c hc
    rcases d.isDigit_or_eq_point hc with hdigit | rfl
    · exact Text.not_isBlank_of_isDigit hdigit
    · decide
  have hcore : ∀ c ∈ q.text.toList, ¬ Text.isBlank c := by
    cases q with
    | cores d => exact hdecimal d
    | thousandths d =>
      intro c hc
      rw [text, String.toList_append, List.mem_append] at hc
      rcases hc with hc | hc
      · exact hdecimal d c hc
      · rw [List.mem_singleton.1 hc]
        decide
  simpa using Text.trimList_append (List.forall_mem_nil _) hcore (List.forall_mem_nil _)

end CpuNumeral

namespace Quantity

/-! ## Reading them -/

section reading
variable {a : Arithmetic} {d : PlainDecimal} {v w : ℚ}

/-- A decimal is read without a sign. -/
theorem exists_nonNegative? (a : Arithmetic) (d : PlainDecimal) : ∃ numeral : Decimal,
    numeral.magnitude = d.value ∧ nonNegative? a d.text.toList = a.read numeral := by
  obtain ⟨numeral, hparse, hnegative, hvalue⟩ := d.exists_parse?
  refine ⟨numeral, hvalue, ?_⟩
  rw [nonNegative?, hparse]
  simp [hnegative]

/-- A core is a thousand thousandths. -/
theorem millis?_cores (hread : nonNegative? a d.text.toList = some v)
    (hkeep : a.keep (v * 1000) = some w) :
    millis? a (CpuNumeral.cores d).text.toList = some (wholeMillis a w) := by
  have hsuffix : 'm' ∉ d.text.toList := fun h => absurd (d.isDigit_or_eq_point h) (by decide)
  rw [CpuNumeral.text, millis?, Text.dropEnd?_eq_none hsuffix, hread]
  simp [hkeep]

/-- Thousandths are read as they are. -/
theorem millis?_thousandths (hread : nonNegative? a d.text.toList = some v) :
    millis? a (CpuNumeral.thousandths d).text.toList = some (wholeMillis a v) := by
  have htext : (d.text ++ "m").toList = d.text.toList ++ ['m'] := String.toList_append
  rw [CpuNumeral.text, millis?, htext, Text.dropEnd?_append]
  simp [hread]

/-- What is read of a written quantity is the result. -/
theorem cpuMillisWith_text {q : CpuNumeral} {n : ℕ} (h : millis? a q.text.toList = some n) :
    cpuMillisWith a q.text = .ok n := by
  rw [cpuMillisWith, orInvalid, q.trimList_text, h]

end reading

/-- Without rounding on the way a quantity is read as its thousandths are counted. -/
theorem cpuMillisWith_exact (q : CpuNumeral) :
    cpuMillisWith .exact q.text = .ok (min (counted q.millis) largest) := by
  have hread : ∀ d : PlainDecimal, nonNegative? .exact d.text.toList = some d.value := by
    intro d
    obtain ⟨numeral, hvalue, hread⟩ := exists_nonNegative? .exact d
    rw [hread, ← hvalue]
    rfl
  rw [← wholeMillis_exact]
  cases q with
  | cores d => exact cpuMillisWith_text (millis?_cores (hread d) rfl)
  | thousandths d => exact cpuMillisWith_text (millis?_thousandths (hread d))

section faithful
variable {a : Arithmetic} (ha : a.Faithful) {q : CpuNumeral} (hlt : q.millis < 2 ^ 30)
include ha hlt

/-- With rounding it is read as something near is. -/
theorem exists_cpuMillisWith_near : ∃ m, 0 ≤ m ∧ |m - q.millis| ≤ 1 / 2 ^ 21 ∧
    cpuMillisWith a q.text = .ok (wholeMillis a m) := by
  have hread : ∀ d : PlainDecimal, d.value < 2 ^ 30 → ∃ r,
      nonNegative? a d.text.toList = some r ∧ Binary64.Near r d.value := by
    intro d hd
    obtain ⟨numeral, hvalue, hread⟩ := exists_nonNegative? a d
    rw [hread, ← hvalue]
    exact ha.read_near numeral (by linarith)
  cases q with
  | cores d =>
    rw [CpuNumeral.millis] at hlt ⊢
    have hvalue := d.value_nonneg
    obtain ⟨r, hr, hr0, hrnear⟩ := hread d (by linarith)
    obtain ⟨hrlow, hrhigh⟩ := abs_le.1 hrnear
    obtain ⟨m, hkeep, hm0, hmnear⟩ := ha.keep_near (r * 1000) (by positivity) (by linarith)
    obtain ⟨hmlow, hmhigh⟩ := abs_le.1 hmnear
    refine ⟨m, hm0, abs_le.2 ?_, cpuMillisWith_text (millis?_cores hr hkeep)⟩
    constructor <;> linarith
  | thousandths d =>
    rw [CpuNumeral.millis] at hlt ⊢
    obtain ⟨r, hr, hr0, hrnear⟩ := hread d hlt
    exact ⟨r, hr0, hrnear.trans (by linarith), cpuMillisWith_text (millis?_thousandths hr)⟩

/-- Rounding on the way does not show in the result, unless the thousandths of what is read come
near a half. -/
theorem cpuMillisWith_of_faithful (hhalf : 1 / 1000 ≤ |Int.fract (q.millis * 1000) - 1 / 2|) :
    cpuMillisWith a q.text = .ok (counted q.millis) := by
  obtain ⟨m, hm, hnear, hread⟩ := exists_cpuMillisWith_near ha hlt
  rw [hread, wholeMillis_of_near ha hm q.millis_nonneg hnear hlt hhalf]

end faithful

/-! ## When it is rounded up -/

/-- A quantity is read as its thousandths of a core, rounded down if their fraction is less than
half a thousandth and up otherwise. So the result is the thousandths rounded up exactly if there is
no such fraction or none at all, and it is nothing exactly if there is less than half a thousandth
of a thousandth, however little. With doubles it is the same for less than `2 ^ 30` thousandths,
unless their thousandths come within a thousandth of a half. -/
theorem cpuMillisWith_exact_eq_ceil_iff (q : CpuNumeral) (h : q.millis ≤ largest) :
    cpuMillisWith .exact q.text =
      .ok (if Int.fract q.millis < 1 / 2000 then ⌊q.millis⌋₊ else ⌈q.millis⌉₊) ∧
    (cpuMillisWith .exact q.text = .ok ⌈q.millis⌉₊ ↔
      Int.fract q.millis = 0 ∨ 1 / 2000 ≤ Int.fract q.millis) ∧
    (cpuMillisWith .exact q.text = .ok 0 ↔ q.millis < 1 / 2000) ∧
    (q.millis < 2 ^ 30 → 1 / 1000 ≤ |Int.fract (q.millis * 1000) - 1 / 2| →
      cpuMillis q.text = cpuMillisWith .exact q.text) := by
  have hnonneg := q.millis_nonneg
  have hcounted : counted q.millis ≤ largest := by
    rw [counted_le_iff hnonneg]
    linarith
  have hok : ∀ {m n : ℕ}, (Except.ok m : Except QuantityError ℕ) = .ok n ↔ m = n :=
    ⟨Except.ok.inj, congrArg _⟩
  rw [cpuMillisWith_exact, Nat.min_eq_left hcounted, hok, hok, hok]
  exact ⟨counted_eq hnonneg, counted_eq_ceil_iff hnonneg, counted_eq_zero_iff hnonneg,
    cpuMillisWith_of_faithful Arithmetic.faithful_doubles⟩

/-- One and a half thousandths of a core. -/
def oneAndHalf : CpuNumeral := .thousandths { whole := "1", fraction := some "5" }

/-- They are read as two, with doubles and without rounding on the way. -/
theorem cpuMillisWith_exact_eq_ceil_oneAndHalf :
    oneAndHalf.text = "1.5m" ∧ oneAndHalf.millis ≤ largest ∧
    1 / 2000 ≤ Int.fract oneAndHalf.millis ∧ ⌈oneAndHalf.millis⌉₊ = 2 ∧
    cpuMillisWith .exact oneAndHalf.text = .ok ⌈oneAndHalf.millis⌉₊ ∧
    oneAndHalf.millis < 2 ^ 30 ∧ 1 / 1000 ≤ |Int.fract (oneAndHalf.millis * 1000) - 1 / 2| ∧
    cpuMillis oneAndHalf.text = cpuMillisWith .exact oneAndHalf.text := by
  have hmillis : oneAndHalf.millis = 3 / 2 := by decide +kernel
  have hlargest : oneAndHalf.millis ≤ largest := by
    rw [hmillis]
    linarith [two_pow_le_largest]
  have hfract : 1 / 2000 ≤ Int.fract oneAndHalf.millis := by
    rw [hmillis]
    norm_num
  have hceil : ⌈oneAndHalf.millis⌉₊ = 2 := by
    rw [hmillis, Nat.ceil_eq_iff two_ne_zero]
    norm_num
  have hlt : oneAndHalf.millis < 2 ^ 30 := by
    rw [hmillis]
    norm_num
  have hhalf : 1 / 1000 ≤ |Int.fract (oneAndHalf.millis * 1000) - 1 / 2| := by
    rw [hmillis]
    norm_num
  obtain ⟨-, hup, -, hdoubles⟩ := cpuMillisWith_exact_eq_ceil_iff oneAndHalf hlargest
  exact ⟨by decide, hlargest, hfract, hceil, hup.2 (.inr hfract), hlt, hhalf, hdoubles hlt hhalf⟩

/-- A ten-thousandth of a thousandth of a core. -/
def speck : CpuNumeral := .thousandths { whole := "0", fraction := some "0001" }

/-- It is more than nothing, and it is read as nothing, with doubles and without rounding on the way.
-/
theorem cpuMillis_speck_ne_ceil :
    speck.text = "0.0001m" ∧ speck.millis = 1 / 10000 ∧ ⌈speck.millis⌉₊ = 1 ∧
    cpuMillisWith .exact speck.text = .ok 0 ∧ cpuMillis speck.text = .ok 0 ∧
    cpuMillisWith .exact speck.text ≠ .ok ⌈speck.millis⌉₊ := by
  have hmillis : speck.millis = 1 / 10000 := by decide +kernel
  have hceil : ⌈speck.millis⌉₊ = 1 := by
    rw [hmillis, Nat.ceil_eq_iff one_ne_zero]
    norm_num
  have hexact : cpuMillisWith .exact speck.text = .ok 0 := by decide +kernel
  refine ⟨by decide, hmillis, hceil, hexact, by decide +kernel, ?_⟩
  rw [hexact, hceil]
  exact nofun

end Quantity

end ClusterAudit
