/-!
# Patterns as written

The syntax tree of a pattern: what its author wrote, before flags are applied and classes are given
their members. `Syntax.depth` bounds how deep a pattern may nest.
-/

namespace ClusterAudit.Pattern

/-- A short class: `\d`, `\s`, `\w`. -/
inductive ShortClass where
  | digit
  | space
  | word
  deriving DecidableEq

/-- How two classes are joined inside brackets. -/
inductive ClassOp where
  /-- `&&` -/
  | intersection
  /-- `--` -/
  | difference
  /-- `~~` -/
  | symmetricDifference
  deriving DecidableEq

/-- A class as written. -/
inductive ClassSyntax where
  | char (c : Char)
  | range (first last : Char)
  /-- `[:name:]` -/
  | ascii (negated : Bool) (name : String)
  | short (negated : Bool) (kind : ShortClass)
  /-- A property by name, or by name and value. -/
  | property (negated : Bool) (name : String) (value : Option String)
  /-- A class in brackets. -/
  | bracket (negated : Bool) (body : ClassSyntax)
  | union (items : List ClassSyntax)
  | op (kind : ClassOp) (left right : ClassSyntax)
  deriving Inhabited

/-- A condition on a position. -/
inductive Anchor where
  /-- `^` -/
  | startLine
  /-- `$` -/
  | endLine
  /-- `\A` -/
  | startText
  /-- `\z` -/
  | endText
  /-- `\b` -/
  | boundary
  /-- `\B` -/
  | notBoundary
  /-- `\b{start}` and `\<` -/
  | wordStart
  /-- `\b{end}` and `\>` -/
  | wordEnd
  /-- `\b{start-half}` -/
  | wordStartHalf
  /-- `\b{end-half}` -/
  | wordEndHalf
  deriving DecidableEq

/-- The flags that a pattern may set and clear. -/
inductive Flag where
  /-- `i`: case is ignored. -/
  | caseless
  /-- `m`: line anchors match at every line. -/
  | multiLine
  /-- `s`: the dot matches line ends too. -/
  | dotAll
  /-- `U`: greedy and lazy repetition change places. -/
  | swapGreed
  /-- `u`: classes range over all characters. -/
  | unicode
  /-- `R`: a carriage return ends a line too. -/
  | crlf
  /-- `x`: blanks in the pattern are left out. -/
  | extended
  deriving DecidableEq

/-- Flags with the value each is given. -/
abbrev FlagChanges := List (Flag × Bool)

/-- A pattern as written. -/
inductive Syntax where
  | empty
  | flags (changes : FlagChanges)
  | char (c : Char)
  /-- A character by two digits of base sixteen, which is an octet where there are no characters. -/
  | octet (c : Char)
  | dot
  | anchor (a : Anchor)
  | set (s : ClassSyntax)
  /-- At least `least` and at most `most` times the body; without `most`, any number of times. -/
  | repetition (least : Nat) (most : Option Nat) (greedy : Bool) (body : Syntax)
  | group (captures : Bool) (changes : FlagChanges) (body : Syntax)
  | alternation (branches : List Syntax)
  | concat (parts : List Syntax)
  deriving Inhabited

mutual

/-- How deep a class nests. -/
def ClassSyntax.depth : ClassSyntax → Nat
  | .bracket _ body => body.depth + 1
  | .union items => ClassSyntax.depthItems items + 1
  | .op _ left right => max left.depth right.depth + 1
  | _ => 0

/-- The depth of the deepest class. -/
def ClassSyntax.depthItems : List ClassSyntax → Nat
  | [] => 0
  | item :: rest => max item.depth (ClassSyntax.depthItems rest)

end

mutual

/-- How deep a pattern nests. -/
def Syntax.depth : Syntax → Nat
  | .set s => s.depth
  | .repetition _ _ _ body => body.depth + 1
  | .group _ _ body => body.depth + 1
  | .alternation branches => Syntax.depthParts branches + 1
  | .concat parts => Syntax.depthParts parts + 1
  | _ => 0

/-- The depth of the deepest part. -/
def Syntax.depthParts : List Syntax → Nat
  | [] => 0
  | part :: rest => max part.depth (Syntax.depthParts rest)

end

/-- The depth beyond which a pattern is refused. -/
def depthLimit : Nat := 250

namespace Syntax

/-- The parts in a row; one part stands for itself. -/
def ofParts : List Syntax → Syntax
  | [] => empty
  | [part] => part
  | parts => concat parts

/-- The branches as a choice; one branch stands for itself. -/
def ofBranches : List Syntax → Syntax
  | [] => empty
  | [branch] => branch
  | branches => alternation branches

end Syntax

namespace ClassSyntax

/-- The items together; one item stands for itself. -/
def ofItems : List ClassSyntax → ClassSyntax
  | [item] => item
  | items => union items

end ClassSyntax

end ClusterAudit.Pattern
