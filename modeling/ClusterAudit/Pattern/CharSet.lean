import ClusterAudit.Text.Case

/-!
# Sets of characters

A `CharSet` is a list of intervals of code points, in ascending order and with a gap after each. The
code points of surrogates belong to no character: they may lie inside an interval but never bound
one, and two intervals on either side of them stay apart.

`CharSet.complement` takes each gap between two neighbours as an interval, its ends in either order.
-/

namespace ClusterAudit.Pattern

/-- The code points from `first` to `last`. -/
structure Interval where
  first : Nat
  last : Nat
  deriving DecidableEq, Inhabited

namespace Interval

/-- The interval between two ends, given in either order. -/
def between (a b : Nat) : Interval := ⟨min a b, max a b⟩

/-- The interval of one code point. -/
def single (n : Nat) : Interval := ⟨n, n⟩

/-- Whether a code point lies in the interval. -/
def contains (i : Interval) (n : Nat) : Bool := i.first ≤ n && n ≤ i.last

end Interval

/-- The last code point. -/
def lastCode : Nat := 0x10FFFF

/-- The code point of the next character. -/
def codeAfter (n : Nat) : Nat := if n = 0xD7FF then 0xE000 else n + 1

/-- The code point of the character before. -/
def codeBefore (n : Nat) : Nat := if n = 0xE000 then 0xD7FF else n - 1

/-- A set of characters. -/
structure CharSet where
  intervals : List Interval
  deriving DecidableEq

namespace CharSet

/-- The set without members. -/
def empty : CharSet := ⟨[]⟩

instance : Inhabited CharSet := ⟨empty⟩

/-- The set of all characters. -/
def all : CharSet := ⟨[⟨0, lastCode⟩]⟩

/-- Whether a character is in the set. -/
def contains (s : CharSet) (c : Char) : Bool := s.intervals.any (·.contains c.toNat)

/-! ## Making sets -/

/-- Joins neighbours without a gap between them; the intervals begin in ascending order. -/
def joined : List Interval → List Interval
  | a :: b :: rest =>
    if b.first ≤ a.last + 1 then joined (⟨a.first, max a.last b.last⟩ :: rest)
    else a :: joined (b :: rest)
  | l => l
termination_by l => l.length

/-- The set of what lies in one of the intervals. -/
def ofIntervals (l : List Interval) : CharSet := ⟨joined (l.mergeSort fun a b => a.first ≤ b.first)⟩

/-- The set of some code points. -/
def ofCodes (l : List Nat) : CharSet := ofIntervals (l.map .single)

/-- The set of what lies in one of the ranges. -/
def ofRanges (r : Text.Ranges Unit) : CharSet := ofIntervals (r.toList.map fun e => ⟨e.1, e.2.1⟩)

/-- The characters below a code point that satisfy `p`. -/
def below (bound : Nat) (p : Char → Bool) : CharSet :=
  ofCodes ((List.range bound).filter fun n => p (Char.ofNat n))

/-- The characters from `first` to `last`. -/
def range (first last : Char) : CharSet := ⟨[⟨first.toNat, last.toNat⟩]⟩

/-! ## Algebra -/

/-- What is in one of the sets. -/
def unions (l : List CharSet) : CharSet := ofIntervals (l.flatMap (·.intervals))

/-- What is in one of two sets. -/
def union (s t : CharSet) : CharSet := unions [s, t]

/-- What two lists of intervals have in common. -/
def common : List Interval → List Interval → List Interval
  | a :: as, b :: bs =>
    let here : Interval := ⟨max a.first b.first, min a.last b.last⟩
    let rest := if a.last < b.last then common as (b :: bs) else common (a :: as) bs
    if here.first ≤ here.last then here :: rest else rest
  | _, _ => []
termination_by as bs => as.length + bs.length

/-- What is in both sets. -/
def inter (s t : CharSet) : CharSet := ⟨common s.intervals t.intervals⟩

/-- The first list of intervals without what lies in the second. -/
def without : List Interval → List Interval → List Interval
  | a :: as, b :: bs =>
    if b.last < a.first then without (a :: as) bs
    else if a.last < b.first then a :: without as (b :: bs)
    else
      let left : List Interval := if a.first < b.first then [⟨a.first, codeBefore b.first⟩] else []
      left ++ if b.last < a.last then without (⟨codeAfter b.last, a.last⟩ :: as) bs
        else without as (b :: bs)
  | as, _ => as
termination_by as bs => as.length + bs.length

/-- What is in the first set and not in the second. -/
def diff (s t : CharSet) : CharSet := ⟨without s.intervals t.intervals⟩

/-- What is in one of the sets and not in both. -/
def symmDiff (s t : CharSet) : CharSet := (s.union t).diff (s.inter t)

/-- The gaps after a code point that belongs to a set. -/
def gapsAfter (last : Nat) : List Interval → List Interval
  | [] => if last < lastCode then [⟨codeAfter last, lastCode⟩] else []
  | i :: rest => .between (codeAfter last) (codeBefore i.first) :: gapsAfter i.last rest

/-- What is not in the set. -/
def complement (s : CharSet) : CharSet :=
  match s.intervals with
  | [] => all
  | i :: rest =>
    let start : List Interval := if 0 < i.first then [⟨0, codeBefore i.first⟩] else []
    ⟨start ++ gapsAfter i.last rest⟩

/-- What is not in the set, if `negated`; else the set. -/
def negatedIf (negated : Bool) (s : CharSet) : CharSet := if negated then s.complement else s

/-- The set with every case variant of its members. -/
def folded (s : CharSet) : CharSet :=
  let added := Text.variantTable.toList.filter fun e => s.intervals.any (·.contains e.1)
  s.union (ofCodes (added.flatMap (·.2.2)))

/-- Whether all members are ASCII characters. -/
def isAscii (s : CharSet) : Bool := s.intervals.all (·.last < 0x80)

/-- The only member of a set that has one. -/
def only? (s : CharSet) : Option Char :=
  match s.intervals with
  | [i] => if i.first = i.last then some (Char.ofNat i.first) else none
  | _ => none

end CharSet

end ClusterAudit.Pattern
