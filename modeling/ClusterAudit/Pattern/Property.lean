import ClusterAudit.Pattern.CharSet
import ClusterAudit.Pattern.Syntax
import ClusterAudit.Text.Blank

/-!
# Properties of characters as sets

The sets behind the short classes and the classes written `[:name:]`. Patterns know the characters
of version 16 of the standard: to them those that came later are unassigned
(`CharSet.ofCategories`).
-/

namespace ClusterAudit.Pattern

open Text

namespace CharSet

/-- The code points assigned too late for patterns to know them. -/
def recent : CharSet := ofRanges recentRanges

/-- The characters whose category satisfies `p`, as patterns know them. -/
def ofCategories (p : Category → Bool) : CharSet :=
  let runs := Category.table.toList.filter fun e => p e.2.2
  let s := ofIntervals (runs.map fun e => ⟨e.1, e.2.1⟩)
  if p .unassigned then s.union recent else s.diff recent

/-- The characters with the property `Alphabetic`. -/
def alphabetic : CharSet :=
  let letters := ofCategories fun g => g.group = 'L' || g = ⟨'N', 'l'⟩
  letters.union ((ofRanges otherAlphabeticRanges).diff recent)

/-- The characters with the property `Lowercase`. -/
def lowercase : CharSet :=
  (ofCategories (· = ⟨'L', 'l'⟩)).union ((ofRanges otherLowercaseRanges).diff recent)

/-- The characters with the property `Uppercase`. -/
def uppercase : CharSet :=
  (ofCategories (· = ⟨'L', 'u'⟩)).union ((ofRanges otherUppercaseRanges).diff recent)

/-- The blanks, of which none lies beyond the ideographic one. -/
def blank : CharSet := below 0x3001 isBlank

/-- The decimal digits of all scripts. -/
def decimalDigit : CharSet := ofCategories (· = ⟨'N', 'd'⟩)

/-- The characters of words: letters, marks, digits, connectors and joiners. -/
def word : CharSet :=
  unions [alphabetic, ofCategories fun g => g.group = 'M' || g = ⟨'N', 'd'⟩ || g = ⟨'P', 'c'⟩,
    ofCodes [0x200C, 0x200D]]

/-- The ASCII characters that satisfy `p`. -/
def ascii (p : Char → Bool) : CharSet := below 0x80 p

end CharSet

/-- The classes written `[:name:]`; they hold ASCII characters only. -/
def asciiClass (name : String) : CharSet :=
  .ascii fun c => match name with
    | "alnum" => c.isAlphanum
    | "alpha" => c.isAlpha
    | "ascii" => true
    | "blank" => c = ' ' || c = '\t'
    | "cntrl" => c.toNat < 0x20 || c.toNat = 0x7F
    | "digit" => c.isDigit
    | "graph" => '!' ≤ c && c ≤ '~'
    | "lower" => c.isLower
    | "print" => ' ' ≤ c && c ≤ '~'
    | "punct" => '!' ≤ c && c ≤ '~' && !c.isAlphanum
    | "space" => c = ' ' || (9 ≤ c.toNat && c.toNat ≤ 13)
    | "upper" => c.isUpper
    | "word" => c.isAlphanum || c = '_'
    | "xdigit" => (hexDigit? c).isSome
    | _ => false

/-- The short classes. -/
def shortClass (unicode : Bool) : ShortClass → CharSet
  | .digit => if unicode then .decimalDigit else asciiClass "digit"
  | .space => if unicode then .blank else asciiClass "space"
  | .word => if unicode then .word else asciiClass "word"

end ClusterAudit.Pattern
