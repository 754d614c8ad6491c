import ClusterAudit.Pattern.CharSet

/-!
# Intervals of characters as octets

In UTF-8 an interval of characters is a union of rows: a row gives for each octet of the encoding
the least and the greatest value, and every choice between them encodes a character of the interval.
`Interval.rows` parts an interval into such rows, in ascending order.
-/

namespace ClusterAudit.Pattern

/-- The octets from `first` to `last`. -/
structure OctetRange where
  first : UInt8
  last : UInt8
  deriving DecidableEq, Inhabited

namespace Interval

/-- The code point before which an interval has to be parted, if it is not a row. Encodings change
their length at the first three bounds. Among characters of one length, the trailing octets must run
over all their values or the octets before them be fixed. -/
def cut? (i : Interval) : Option Nat :=
  match [0x80, 0x800, 0x10000].find? fun bound => i.first < bound && bound ≤ i.last with
  | some bound => some bound
  | none =>
    if i.last < 0x80 then none
    else [64, 64 * 64, 64 * 64 * 64].findSome? fun block =>
      if i.first / block = i.last / block then none
      else if i.first % block ≠ 0 then some ((i.first / block + 1) * block)
      else if i.last % block ≠ block - 1 then some (i.last / block * block)
      else none

/-- The row of the octets of two encodings. -/
def row (i : Interval) : List OctetRange :=
  List.zipWith OctetRange.mk (String.utf8EncodeChar (Char.ofNat i.first))
    (String.utf8EncodeChar (Char.ofNat i.last))

/-- The rows of an interval without surrogates. -/
def rowsOf (i : Interval) : List (List OctetRange) :=
  match i.cut? with
  | some cut =>
    if _h : i.first < cut ∧ cut ≤ i.last then rowsOf ⟨i.first, cut - 1⟩ ++ rowsOf ⟨cut, i.last⟩
    else [i.row]
  | none => [i.row]
termination_by i.last - i.first

/-- The rows of an interval. -/
def rows (i : Interval) : List (List OctetRange) :=
  if i.first < 0xE000 ∧ 0xD7FF < i.last then rowsOf ⟨i.first, 0xD7FF⟩ ++ rowsOf ⟨0xE000, i.last⟩
  else i.rowsOf

end Interval

/-- The rows of all members of a set. -/
def CharSet.rows (s : CharSet) : List (List OctetRange) := s.intervals.flatMap Interval.rows

end ClusterAudit.Pattern
