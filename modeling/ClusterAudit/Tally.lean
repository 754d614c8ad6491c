import ClusterAudit.Count
import ClusterAudit.Glossary

/-!
# Tallies

Findings are counted per code, per namespace and per kind; each level is a dictionary of the level
below. Merging adds counts path by path and keeps every entry, zero counts and empty branches
included; `compact` drops those. A rollup adds the counts of all codes of one severity.
-/

namespace ClusterAudit

/-! ## Severities -/

/-- Counts by severity. -/
structure SeverityTally where
  ok : Count
  info : Count
  warn : Count
  error : Count
  deriving DecidableEq

/-- A letter for a score, from best to worst. -/
inductive Grade where
  | A
  | B
  | C
  | D
  | E
  | F
  deriving DecidableEq

namespace Grade

/-- The grade of a score. -/
def ofScore (score : Nat) : Grade :=
  if 90 ≤ score then A
  else if 80 ≤ score then B
  else if 70 ≤ score then C
  else if 60 ≤ score then D
  else if 50 ≤ score then E
  else F

/-- The letter. -/
def text : Grade → String
  | A => "A"
  | B => "B"
  | C => "C"
  | D => "D"
  | E => "E"
  | F => "F"

/-- The place from best to worst, from zero. -/
def rank : Grade → Nat
  | A => 0
  | B => 1
  | C => 2
  | D => 3
  | E => 4
  | F => 5

end Grade

namespace SeverityTally

/-- Nothing counted. -/
def empty : SeverityTally := ⟨0, 0, 0, 0⟩

instance : EmptyCollection SeverityTally := ⟨empty⟩

instance : Inhabited SeverityTally := ⟨empty⟩

/-- The count of a severity. -/
def get (t : SeverityTally) : Severity → Count
  | .ok => t.ok
  | .info => t.info
  | .warn => t.warn
  | .error => t.error

/-- The tally with a count added to a severity. -/
def add (t : SeverityTally) (severity : Severity) (count : Count) : SeverityTally :=
  match severity with
  | .ok => { t with ok := t.ok + count }
  | .info => { t with info := t.info + count }
  | .warn => { t with warn := t.warn + count }
  | .error => { t with error := t.error + count }

/-- The tally with the counts of another added. -/
def merge (t other : SeverityTally) : SeverityTally :=
  Severity.all.foldl (fun t s => t.add s (other.get s)) t

/-- The sum of all counts. -/
def total (t : SeverityTally) : Count :=
  Severity.all.foldl (fun n s => n + t.get s) 0

/-- The health score: ok and info count fully, warnings half, errors nothing, in hundredths of the
total, rounded down. A quotient beyond 255 counts as 100, and so does an empty tally. -/
def score (t : SeverityTally) : Nat :=
  let total := t.total.toNat
  if total = 0 then 100
  else
    let points := (t.ok.toNat + t.info.toNat) * 100 + t.warn.toNat * 50
    let quotient := points / total
    if quotient < 256 then quotient else 100

/-- The grade of the score. -/
def grade (t : SeverityTally) : Grade := .ofScore t.score

end SeverityTally

/-! ## Codes -/

/-- Counts by code. -/
structure CodeTally where
  counts : Dict Code Count
  deriving DecidableEq

namespace CodeTally

/-- Nothing counted. -/
def empty : CodeTally := ⟨∅⟩

instance : EmptyCollection CodeTally := ⟨empty⟩

instance : Inhabited CodeTally := ⟨empty⟩

/-- The tally with a count added to a code; the code gets an entry even if the count is zero. -/
def add (t : CodeTally) (code : Code) (count : Count) : CodeTally :=
  ⟨t.counts.alter code fun old => some (old.getD 0 + count)⟩

/-- The tally with one more of a code. -/
def incr (t : CodeTally) (code : Code) : CodeTally := t.add code 1

/-- The count of a code; zero without entry. -/
def get (t : CodeTally) (code : Code) : Count := (t.counts.get? code).getD 0

/-- Whether there is no entry. -/
def isEmpty (t : CodeTally) : Bool := t.counts.isEmpty

/-- The sum of all counts. -/
def total (t : CodeTally) : Count := t.counts.foldl (fun n _ count => n + count) 0

/-- The tally with the counts of another added. -/
def merge (t other : CodeTally) : CodeTally :=
  other.counts.foldl (fun t code count => t.add code count) t

/-- The tally without zero counts. -/
def compact (t : CodeTally) : CodeTally :=
  ⟨t.counts.filterMap fun count => if count.toNat = 0 then none else some count⟩

/-- The tally of a list of counts, those of one code added up. -/
def ofList (l : List (Code × Count)) : CodeTally :=
  l.foldl (fun t e => t.add e.1 e.2) ∅

/-- The counts by severity; a code that the glossary lacks is passed over. -/
def rollup (t : CodeTally) (g : Glossary) : SeverityTally :=
  t.counts.foldl (fun r code count =>
    match g.severity? code with
    | some severity => r.add severity count
    | none => r) ∅

end CodeTally

/-! ## Namespaces -/

/-- Code tallies by namespace; objects outside all namespaces count under the empty name. -/
structure NamespaceTally where
  spaces : Dict String CodeTally
  deriving DecidableEq

namespace NamespaceTally

/-- Nothing counted. -/
def empty : NamespaceTally := ⟨∅⟩

instance : EmptyCollection NamespaceTally := ⟨empty⟩

instance : Inhabited NamespaceTally := ⟨empty⟩

/-- The tally with one more of a code in a namespace. -/
def record (t : NamespaceTally) (space : String) (code : Code) : NamespaceTally :=
  ⟨t.spaces.alter space fun old => some ((old.getD ∅).incr code)⟩

/-- The tally with a code tally added in a namespace. -/
def insert (t : NamespaceTally) (space : String) (tally : CodeTally) : NamespaceTally :=
  ⟨t.spaces.alter space fun old => some ((old.getD ∅).merge tally)⟩

/-- The code tally of a namespace. -/
def get? (t : NamespaceTally) (space : String) : Option CodeTally := t.spaces.get? space

/-- Whether there is no namespace. -/
def isEmpty (t : NamespaceTally) : Bool := t.spaces.isEmpty

/-- The tally with the counts of another added. -/
def merge (t other : NamespaceTally) : NamespaceTally :=
  other.spaces.foldl (fun t space tally => t.insert space tally) t

/-- The tally without zero counts and without namespaces that have no other. -/
def compact (t : NamespaceTally) : NamespaceTally :=
  ⟨t.spaces.filterMap fun tally =>
    if tally.compact.isEmpty then none else some tally.compact⟩

/-- The counts of all namespaces by code. -/
def codes (t : NamespaceTally) : CodeTally :=
  t.spaces.foldl (fun all _ tally => all.merge tally) ∅

/-- The counts of all namespaces by severity. -/
def rollup (t : NamespaceTally) (g : Glossary) : SeverityTally := t.codes.rollup g

end NamespaceTally

/-! ## Kinds -/

/-- Namespace tallies by kind. -/
structure KindTally where
  kinds : Dict Kind NamespaceTally
  deriving DecidableEq

namespace KindTally

/-- Nothing counted. -/
def empty : KindTally := ⟨∅⟩

instance : EmptyCollection KindTally := ⟨empty⟩

instance : Inhabited KindTally := ⟨empty⟩

/-- The tally with one more of a code in a namespace of a kind. -/
def record (t : KindTally) (kind : Kind) (space : String) (code : Code) : KindTally :=
  ⟨t.kinds.alter kind fun old => some ((old.getD ∅).record space code)⟩

/-- The tally with a namespace tally added for a kind. -/
def insert (t : KindTally) (kind : Kind) (tally : NamespaceTally) : KindTally :=
  ⟨t.kinds.alter kind fun old => some ((old.getD ∅).merge tally)⟩

/-- The namespace tally of a kind. -/
def get? (t : KindTally) (kind : Kind) : Option NamespaceTally := t.kinds.get? kind

/-- Whether there is no kind. -/
def isEmpty (t : KindTally) : Bool := t.kinds.isEmpty

/-- The tally with the counts of another added. -/
def merge (t other : KindTally) : KindTally :=
  other.kinds.foldl (fun t kind tally => t.insert kind tally) t

/-- The tally without zero counts and without branches that have no other. -/
def compact (t : KindTally) : KindTally :=
  ⟨t.kinds.filterMap fun tally =>
    if tally.compact.isEmpty then none else some tally.compact⟩

/-- The counts of all kinds by severity. -/
def rollup (t : KindTally) (g : Glossary) : SeverityTally :=
  t.kinds.foldl (fun r _ tally => r.merge (tally.rollup g)) ∅

end KindTally

end ClusterAudit
