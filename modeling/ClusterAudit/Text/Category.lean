import ClusterAudit.Text.Category.Table
import ClusterAudit.Text.Ranges

/-!
# Classes of characters

The general category of a character and the classes built from it: letters, numbers, and characters
that have case.
-/

namespace ClusterAudit.Text

/-- A general category: a capital for its group and a small letter within it. -/
structure Category where
  group : Char
  kind : Char
  deriving DecidableEq

namespace Category

/-- The runs of the table with their first and last code points. -/
def ofRuns : Nat → List (List Char) → List (Nat × Nat × Category)
  | _, [] => []
  | start, (group :: kind :: digits) :: rest =>
    let count := (number? 10 digits).getD 1
    (start, start + count - 1, ⟨group, kind⟩) :: ofRuns (start + count) rest
  | start, _ :: rest => ofRuns start rest

/-- All code points by category. -/
def table : Ranges Category :=
  (ofRuns 0 (categoryRuns.flatMap fun line => pieces ' ' line.toList)).toArray

/-- The category of code points that stand for no character. -/
def unassigned : Category := ⟨'C', 'n'⟩

/-- The general category of a character. -/
def of (c : Char) : Category := (table.find? c.toNat).getD unassigned

end Category

/-- The ranges of `otherAlphabetic`. -/
def otherAlphabeticRanges : Ranges Unit := .ofLines otherAlphabetic

/-- The ranges of `otherLowercase`. -/
def otherLowercaseRanges : Ranges Unit := .ofLines otherLowercase

/-- The ranges of `otherUppercase`. -/
def otherUppercaseRanges : Ranges Unit := .ofLines otherUppercase

/-- The ranges of `recentlyAssigned`. -/
def recentRanges : Ranges Unit := .ofLines recentlyAssigned

/-- Whether a character has the property `Alphabetic`. -/
def isAlphabetic (c : Char) : Bool :=
  let g := Category.of c
  g.group = 'L' || g = ⟨'N', 'l'⟩ || otherAlphabeticRanges.contains c

/-- Whether a character has the property `Lowercase`. -/
def isLowercase (c : Char) : Bool := Category.of c = ⟨'L', 'l'⟩ || otherLowercaseRanges.contains c

/-- Whether a character has the property `Uppercase`. -/
def isUppercase (c : Char) : Bool := Category.of c = ⟨'L', 'u'⟩ || otherUppercaseRanges.contains c

/-- Whether a character is a number of any sort. -/
def isNumeric (c : Char) : Bool := (Category.of c).group = 'N'

end ClusterAudit.Text
