import ClusterAudit.Pattern.Extent.Automaton
import ClusterAudit.Pattern.Flags
import ClusterAudit.Pattern.Overlay
import ClusterAudit.Pattern.Parser

/-!
# Patterns

A `Pattern` is the text of a regular expression together with the tree that it denotes. A text is a
pattern if it is well formed and its automata are small (`Pattern.tree?`). `Pattern.isMatch` asks
whether some part of a text matches.
-/

namespace ClusterAudit

/-- The tree of a pattern text, if the text is a pattern and not too large. -/
def Pattern.tree? (source : String) : Option Pattern.Tree := do
  let (tree, _) ← (← parseSyntax source).tree? {}
  if tree.isSmall then some tree else none

/-- A pattern: its text, and the tree that it denotes. -/
structure Pattern where
  source : String
  tree : Pattern.Tree
  /-- The tree is the one of the text. -/
  denotes : Pattern.tree? source = some tree

namespace Pattern

/-- The pattern of a text, if the text is one. -/
def compile? (source : String) : Option Pattern :=
  match h : tree? source with
  | some tree => some ⟨source, tree, h⟩
  | none => none

/-- Patterns of one text are equal. -/
theorem ext_source {p q : Pattern} (h : p.source = q.source) : p = q := by
  obtain ⟨s, a, ha⟩ := p
  obtain ⟨t, b, hb⟩ := q
  obtain rfl : s = t := h
  obtain rfl : a = b := Option.some.inj (ha.symm.trans hb)
  rfl

instance : DecidableEq Pattern := fun p q =>
  decidable_of_iff (p.source = q.source) ⟨ext_source, fun h => h ▸ rfl⟩

/-- Whether some part of the text matches. -/
def isMatch (p : Pattern) (text : String) : Bool := p.tree.isMatch text

end Pattern

end ClusterAudit
