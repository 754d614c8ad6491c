import ClusterAudit.Suppression.Rule

/-!
# Suppression of findings

The global rule is asked first: any of its categories silences a finding. Then the rules of the
finding's kind are asked: one instance all of whose categories match, or one of the kind's codes,
silences it.
-/

namespace ClusterAudit

/-- The suppressions of one kind: codes silenced for all its objects, and rules. -/
structure KindRules where
  codes : Expressions
  instances : List Rule
  deriving DecidableEq

namespace KindRules

instance : Inhabited KindRules := ⟨⟨[], []⟩⟩

/-- Whether there is nothing to match. -/
def isEmpty (k : KindRules) : Bool := k.codes.isEmpty && k.instances.all Rule.isEmpty

/-- Whether an instance or the codes match a subject. -/
def holds (k : KindRules) (s : Subject) : Bool :=
  if s.isEmpty then false
  else k.instances.any (·.matchesAll s)
    || (s.code.map fun code => k.codes.holds code.text).getD false

/-- The suppressions that raw codes and rules make. -/
def build (codes : List String) (instances : List Rule) : Except ExpressionError KindRules := do
  .ok ⟨← Expressions.parse codes, instances⟩

end KindRules

/-- All suppressions: a global rule, and rules by kind. -/
structure Exclusions where
  global : Rule
  kinds : Dict Kind KindRules
  deriving DecidableEq

namespace Exclusions

/-- No suppression at all. -/
def none : Exclusions := ⟨.empty, ∅⟩

instance : Inhabited Exclusions := ⟨none⟩

/-- The rules of a kind. -/
def rulesOf (e : Exclusions) (kind : Kind) : Option KindRules := e.kinds.get? kind

/-- Whether there is nothing to match. -/
def isEmpty (e : Exclusions) : Bool := e.global.isEmpty && e.kinds.all fun _ k => k.isEmpty

/-- Whether a finding with this subject is silenced. -/
def isExcluded (e : Exclusions) (s : Subject) : Bool :=
  if s.isEmpty then false
  else if e.global.matchesAny s then true
  else ((e.rulesOf s.kind).map (·.holds s)).getD false

end Exclusions

end ClusterAudit
