import ClusterAudit.Number.Binary64
import ClusterAudit.Number.Decimal
import ClusterAudit.Text.Blank
import ClusterAudit.Text.Split

/-!
# Resource quantities

A CPU quantity is a decimal number of cores, or of thousandths of a core with the suffix `m`; it is
read in whole thousandths, rounded up. A memory quantity is a decimal number of bytes with an
optional factor suffix; it is read in whole bytes, rounded to nearest. Results stop at `2 ^ 64 - 1`.

The arithmetic is a parameter: each intermediate result passes through `Arithmetic.keep`. The
quantities of a pod are read with doubles (`Arithmetic.doubles`), whose rounding shows in the last
digits of large quantities; `Arithmetic.exact` is the rule without rounding.
-/

namespace ClusterAudit

/-- A way to carry intermediate results. -/
structure Arithmetic where
  /-- The number kept for `mantissa · 10 ^ exponent`; nothing beyond the range. -/
  read : Decimal → Option Rat
  /-- The number kept for an exact result; nothing beyond the range. -/
  keep : Rat → Option Rat

namespace Arithmetic

/-- Every result is kept as it is. -/
def exact : Arithmetic := ⟨fun d => some d.magnitude, some⟩

/-- Every result is rounded to the nearest double. -/
def doubles : Arithmetic :=
  ⟨fun d => Binary64.ofDecimal d.mantissa d.exponent, Binary64.nearest⟩

end Arithmetic

/-- A text that is no quantity. -/
structure QuantityError where
  /-- The text without the blanks around it. -/
  text : String
  deriving DecidableEq

namespace QuantityError

/-- The wording of the error. -/
def message (e : QuantityError) : String := "Invalid quantity '" ++ e.text ++ "'"

end QuantityError

namespace Quantity

/-- The largest result. -/
def largest : Nat := UInt64.size - 1

/-- The integer nearest to a non-negative rational; halfway goes up. -/
def round (q : Rat) : Nat := Binary64.roundHalfUp q.num.toNat q.den

/-- The least integer not below a non-negative rational. -/
def ceil (q : Rat) : Nat := q.ceil.toNat

/-- The non-negative number a numeral spells; minus zero is zero. -/
def nonNegative? (a : Arithmetic) (s : List Char) : Option Rat := do
  let d ← Decimal.parse? s
  let v ← a.read d
  if d.negative && v ≠ 0 then none else some v

/-- A number of thousandths, rounded to thousandths of them and then up to a whole one. -/
def wholeMillis (a : Arithmetic) (millis : Rat) : Nat :=
  match a.keep (millis * 1000) with
  | none => largest
  | some scaled =>
    match a.keep (mkRat (round scaled : Nat) 1000) with
    | none => largest
    | some kept => min (ceil kept) largest

/-- The thousandths of a core that a trimmed text denotes. -/
def millis? (a : Arithmetic) (s : List Char) : Option Nat := do
  let millis ← match Text.dropEnd? ['m'] s with
    | some number => nonNegative? a number
    | none => do a.keep ((← nonNegative? a s) * 1000)
  some (wholeMillis a millis)

/-- The factor suffixes, in the order in which they are tried. -/
def factors : List (String × Nat) :=
  [("Ki", 1 <<< 10), ("Mi", 1 <<< 20), ("Gi", 1 <<< 30), ("Ti", 1 <<< 40), ("Pi", 1 <<< 50),
   ("Ei", 1 <<< 60), ("k", .pow 10 3), ("M", .pow 10 6), ("G", .pow 10 9), ("T", .pow 10 12),
   ("P", .pow 10 15), ("E", .pow 10 18)]

/-- The text without its factor suffix, and the factor; without a suffix the factor is one. -/
def splitFactor (s : List Char) : List Char × Nat :=
  (factors.findSome? fun (suffix, factor) =>
    (Text.dropEnd? suffix.toList s).map (·, factor)).getD (s, 1)

/-- The bytes that a trimmed text denotes. -/
def bytes? (a : Arithmetic) (s : List Char) : Option Nat := do
  let (number, factor) := splitFactor s
  let v ← nonNegative? a number
  match a.keep (v * mkRat factor 1) with
  | none => some largest
  | some scaled => some (min (round scaled) largest)

/-- A reading of the trimmed text, or the error that names it. -/
def orInvalid (read : List Char → Option Nat) (raw : String) : Except QuantityError Nat :=
  let trimmed := Text.trimList raw.toList
  match read trimmed with
  | some n => .ok n
  | none => .error ⟨String.ofList trimmed⟩

/-- A CPU quantity in thousandths of a core, read with the given arithmetic. -/
def cpuMillisWith (a : Arithmetic) (raw : String) : Except QuantityError Nat :=
  orInvalid (millis? a) raw

/-- A CPU quantity in thousandths of a core. -/
def cpuMillis (raw : String) : Except QuantityError Nat := cpuMillisWith .doubles raw

/-- A memory quantity in bytes, read with the given arithmetic. -/
def memoryBytesWith (a : Arithmetic) (raw : String) : Except QuantityError Nat :=
  orInvalid (bytes? a) raw

/-- A memory quantity in bytes. -/
def memoryBytes (raw : String) : Except QuantityError Nat := memoryBytesWith .doubles raw

end Quantity

end ClusterAudit
