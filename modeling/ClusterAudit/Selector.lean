import ClusterAudit.Dict

/-!
# Label selectors

A selector asks for labels by equality and for further requirements. An object is *selected* when it
carries every asked label, of which there must be one, or meets some requirement: requirements
are alternatives, both to each other and to the labels. An object is *covered* when it is selected
or the selector asks for nothing. The two differ on the empty selector only.
-/

namespace ClusterAudit

/-- The labels, or annotations, of an object. -/
abbrev Labels := Dict String String

/-- How a requirement looks at the value of its key. -/
inductive Operator where
  /-- The value is one of those listed. -/
  | isIn
  /-- There is no value, or it is none of those listed. -/
  | notIn
  /-- There is a value. -/
  | present
  /-- There is no value. -/
  | absent
  deriving DecidableEq

/-- A requirement on the value of one label. -/
structure Requirement where
  key : String
  operator : Operator
  values : List String
  deriving DecidableEq

namespace Requirement

/-- Whether labels meet the requirement. -/
def holds (r : Requirement) (labels : Labels) : Bool :=
  let value := labels.get? r.key
  match r.operator with
  | .isIn => (value.map r.values.contains).getD false
  | .notIn => (value.map fun v => !r.values.contains v).getD true
  | .present => value.isSome
  | .absent => value.isNone

end Requirement

/-- A label selector. -/
structure Selector where
  matchLabels : Labels
  matchExpressions : List Requirement
  deriving DecidableEq

/-- Whether labels hold every pair that is asked for; asking for nothing selects nothing. -/
def labelsMatch (labels asked : Labels) : Bool :=
  !asked.isEmpty && asked.all fun key value => labels.get? key == some value

namespace Selector

/-- The selector that asks for nothing. -/
def empty : Selector := ⟨∅, []⟩

instance : Inhabited Selector := ⟨empty⟩

/-- Whether the selector asks for nothing. -/
def isEmpty (s : Selector) : Bool := s.matchLabels.isEmpty && s.matchExpressions.isEmpty

/-- Whether the selector selects an object with these labels. -/
def selects (s : Selector) (labels : Labels) : Bool :=
  labelsMatch labels s.matchLabels || s.matchExpressions.any (·.holds labels)

/-- Whether the selector selects the object or asks for nothing. -/
def covers (s : Selector) (labels : Labels) : Bool := s.isEmpty || s.selects labels

/-- The selector with one more label asked for; an older value of the key is replaced. -/
def withLabel (s : Selector) (key value : String) : Selector :=
  { s with matchLabels := s.matchLabels.insert key value }

/-- The selector with one more requirement. -/
def withExpression (s : Selector) (r : Requirement) : Selector :=
  { s with matchExpressions := s.matchExpressions ++ [r] }

end Selector

end ClusterAudit
