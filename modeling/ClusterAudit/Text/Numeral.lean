/-!
# Decimal numerals

Reading a bounded natural number: ASCII digits after an optional plus sign, leading zeros allowed,
no blank and no separator.
-/

namespace ClusterAudit.Text

/-- The value of an ASCII digit. -/
def digit? (c : Char) : Option Nat :=
  if c.isDigit then some (c.toNat - '0'.toNat) else none

/-- The value of an ASCII digit of base sixteen, in either case. -/
def hexDigit? (c : Char) : Option Nat :=
  if c.isDigit then some (c.toNat - '0'.toNat)
  else if 'a' ≤ c ∧ c ≤ 'f' then some (c.toNat - 'a'.toNat + 10)
  else if 'A' ≤ c ∧ c ≤ 'F' then some (c.toNat - 'A'.toNat + 10)
  else none

/-- The number that digits of a base spell after the digits read so far. -/
def readDigits (base : Nat) (digit : Char → Option Nat) (acc : Nat) : List Char → Option Nat
  | [] => some acc
  | c :: rest => match digit c with
    | some d => if d < base then readDigits base digit (acc * base + d) rest else none
    | none => none

/-- The number that a non-empty list of digits spells in a base up to sixteen. -/
def number? (base : Nat) (s : List Char) : Option Nat :=
  if s.isEmpty then none else readDigits base hexDigit? 0 s

/-- The number a decimal numeral below `bound` denotes; a leading plus sign is allowed. -/
def natural? (bound : Nat) (s : List Char) : Option Nat :=
  let digits := match s with
    | '+' :: rest => rest
    | s => s
  (number? 10 digits).filter (· < bound)

end ClusterAudit.Text
