import ClusterAudit.Text.Numeral

/-!
# Decimal numerals with point and exponent

A decimal numeral is an optional sign, digits with an optional point among or around them, and an
optional exponent. `Decimal.value` is the rational it denotes.
-/

namespace ClusterAudit

/-- What a decimal numeral spells: `± mantissa · 10 ^ exponent`. -/
structure Decimal where
  negative : Bool
  mantissa : Nat
  exponent : Int
  deriving DecidableEq

namespace Decimal

/-- The rational `mantissa · 10 ^ exponent`, without the sign. -/
def magnitude (d : Decimal) : Rat :=
  if 0 ≤ d.exponent then mkRat (d.mantissa * Nat.pow 10 d.exponent.toNat : Nat) 1
  else mkRat d.mantissa (.pow 10 (-d.exponent).toNat)

/-- A sign in front, and the rest. -/
def readSign : List Char → Bool × List Char
  | '-' :: rest => (true, rest)
  | '+' :: rest => (false, rest)
  | s => (false, s)

/-- The exponent that follows the digits; an absent one is zero. -/
def exponent? : List Char → Option Int
  | [] => some 0
  | c :: rest =>
    if c = 'e' || c = 'E' then
      let (negative, digits) := readSign rest
      (Text.number? 10 digits).map fun n => if negative then -(n : Int) else n
    else none

/-- The numeral a text spells. -/
def parse? (s : List Char) : Option Decimal := do
  let (negative, s) := readSign s
  let whole := s.takeWhile Char.isDigit
  let s := s.dropWhile Char.isDigit
  let (fraction, s) := match s with
    | '.' :: rest => (rest.takeWhile Char.isDigit, rest.dropWhile Char.isDigit)
    | s => ([], s)
  let mantissa ← Text.number? 10 (whole ++ fraction)
  let exponent ← exponent? s
  some ⟨negative, mantissa, exponent - fraction.length⟩

end Decimal

end ClusterAudit
