/-!
# Characters from sixteen-bit units

A character beyond the basic plane is written as two units: a leading one and a trailing one. A unit
of either sort that stands alone denotes no character.
-/

namespace ClusterAudit.Text

/-- The character of a code point, unless the number is a surrogate or too large. -/
def charOf? (n : Nat) : Option Char :=
  if h : n.isValidChar then some (Char.ofNatAux n h) else none

/-- Whether a unit opens a pair. -/
def isLeading (n : Nat) : Bool := 0xD800 ≤ n && n < 0xDC00

/-- Whether a unit closes a pair. -/
def isTrailing (n : Nat) : Bool := 0xDC00 ≤ n && n < 0xE000

/-- The character of a pair of units. -/
def ofPair? (lead trail : Nat) : Option Char :=
  if isLeading lead && isTrailing trail
  then charOf? (0x10000 + (lead - 0xD800) * 0x400 + (trail - 0xDC00)) else none

end ClusterAudit.Text
