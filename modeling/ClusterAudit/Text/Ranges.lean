import ClusterAudit.Text.Numeral
import ClusterAudit.Text.Split

/-!
# Tables of code point ranges

A `Ranges α` lists ranges of code points in ascending order, each with a value. Ranges are read from
tokens in base sixteen: `41` is one code point and `41-5A` a range.
-/

namespace ClusterAudit.Text

/-- Ranges of code points in ascending order: first, last and value. -/
abbrev Ranges (α : Type) := Array (Nat × Nat × α)

namespace Ranges

/-- The value of the range with `n` among the ranges from index `lo` up to, not including, `hi`. -/
def search {α : Type} (ranges : Ranges α) (n lo hi : Nat) : Option α :=
  if lo < hi then
    match ranges[(lo + hi) / 2]? with
    | some (first, last, value) =>
      if n < first then search ranges n lo ((lo + hi) / 2)
      else if last < n then search ranges n ((lo + hi) / 2 + 1) hi
      else some value
    | none => none
  else none
termination_by hi - lo

/-- The value of the range with `n`. -/
def find? {α : Type} (ranges : Ranges α) (n : Nat) : Option α := search ranges n 0 ranges.size

/-- Whether some range has the character. -/
def contains (ranges : Ranges Unit) (c : Char) : Bool := (ranges.find? c.toNat).isSome

/-- The range a token spells. -/
def ofToken? (token : List Char) : Option (Nat × Nat × Unit) :=
  match cut '-' token with
  | some (first, last) => do some (← number? 16 first, ← number? 16 last, ())
  | none => do
    let n ← number? 16 token
    some (n, n, ())

/-- The ranges spelled by lines of tokens. -/
def ofLines (lines : List String) : Ranges Unit :=
  (lines.flatMap fun line => (pieces ' ' line.toList).filterMap ofToken?).toArray

end Ranges

end ClusterAudit.Text
