import ClusterAudit.Name
import ClusterAudit.Selector
import ClusterAudit.Suppression.Expression

/-!
# Suppression rules

A `Subject` is what a rule may look at: the object that a finding is about and the finding's code. A
`Rule` constrains some categories of it; a category without expressions takes no part. A rule can be
asked whether any of its categories matches (`matchesAny`) or whether all of them do
(`matchesAll`). A rule without categories matches nothing, and a subject without content is matched
by nothing.
-/

namespace ClusterAudit

/-- What a suppression rule looks at. -/
structure Subject where
  kind : Kind
  fqn : Fqn
  labels : Labels
  annotations : Labels
  containers : List String
  code : Option Code
  deriving DecidableEq

namespace Subject

/-- Whether there is nothing but the kind to look at. -/
def isEmpty (s : Subject) : Bool :=
  s.fqn.isEmpty && s.labels.isEmpty && s.annotations.isEmpty && s.containers.isEmpty
    && s.code.isNone

end Subject

/-- A suppression rule. -/
structure Rule where
  fqns : Expressions
  labels : Dict String Expressions
  annotations : Dict String Expressions
  containers : Expressions
  codes : Expressions
  deriving DecidableEq

namespace Rule

/-- The rule without categories. -/
def empty : Rule := ⟨[], ∅, ∅, [], []⟩

instance : Inhabited Rule := ⟨empty⟩

/-- Whether the rule has no category. -/
def isEmpty (r : Rule) : Bool :=
  r.fqns.isEmpty && r.labels.isEmpty && r.annotations.isEmpty && r.containers.isEmpty
    && r.codes.isEmpty

/-- Whether the name of the object matches; an empty name never does. -/
def matchesFqn (r : Rule) (s : Subject) : Bool := !s.fqn.isEmpty && r.fqns.holds s.fqn.text

/-- Whether a key of the rule is present with a value its expressions accept. -/
def matchesPairs (asked : Dict String Expressions) (present : Labels) : Bool :=
  asked.any fun key es => ((present.get? key).map es.holds).getD false

/-- Whether the name of a container matches. -/
def matchesContainers (r : Rule) (s : Subject) : Bool := r.containers.holdsAny s.containers

/-- Whether the digits of the code match. -/
def matchesCode (r : Rule) (s : Subject) : Bool :=
  (s.code.map fun code => r.codes.holds code.text).getD false

/-- Whether any category of the rule matches. -/
def matchesAny (r : Rule) (s : Subject) : Bool :=
  if r.isEmpty || s.isEmpty then false
  else (!r.fqns.isEmpty && r.matchesFqn s)
    || (!r.labels.isEmpty && matchesPairs r.labels s.labels)
    || (!r.annotations.isEmpty && matchesPairs r.annotations s.annotations)
    || (!r.containers.isEmpty && r.matchesContainers s)
    || (!r.codes.isEmpty && r.matchesCode s)

/-- Whether every category of the rule matches. -/
def matchesAll (r : Rule) (s : Subject) : Bool :=
  if r.isEmpty || s.isEmpty then false
  else (r.fqns.isEmpty || r.matchesFqn s)
    && (r.labels.isEmpty || matchesPairs r.labels s.labels)
    && (r.annotations.isEmpty || matchesPairs r.annotations s.annotations)
    && (r.containers.isEmpty || r.matchesContainers s)
    && (r.codes.isEmpty || r.matchesCode s)

/-- The rule with the expressions of raw texts for names. -/
def withFqns (r : Rule) (raw : List String) : Except ExpressionError Rule := do
  .ok { r with fqns := ← Expressions.parse raw }

/-- The rule with the expressions of raw texts for containers. -/
def withContainers (r : Rule) (raw : List String) : Except ExpressionError Rule := do
  .ok { r with containers := ← Expressions.parse raw }

/-- The rule with the expressions of raw texts for codes. -/
def withCodes (r : Rule) (raw : List String) : Except ExpressionError Rule := do
  .ok { r with codes := ← Expressions.parse raw }

/-- The rule with the expressions of raw texts for a label; an older entry of the key is replaced.
-/
def withLabels (r : Rule) (key : String) (raw : List String) : Except ExpressionError Rule := do
  let es ← Expressions.parse raw
  .ok { r with labels := r.labels.insert key es }

/-- The rule with the expressions of raw texts for an annotation; an older entry of the key is
replaced. -/
def withAnnotations (r : Rule) (key : String) (raw : List String) :
    Except ExpressionError Rule := do
  let es ← Expressions.parse raw
  .ok { r with annotations := r.annotations.insert key es }

/-- The rule that raw texts spell, read in this order: names, containers, codes, labels by key,
annotations by key. -/
def build (fqns containers codes : List String) (labels annotations : Dict String (List String)) :
    Except ExpressionError Rule := do
  let r ← Rule.empty.withFqns fqns
  let r ← r.withContainers containers
  let r ← r.withCodes codes
  let r ← labels.entries.foldlM (fun r e => r.withLabels e.1 e.2) r
  annotations.entries.foldlM (fun r e => r.withAnnotations e.1 e.2) r

end Rule

end ClusterAudit
