import ClusterAudit.Tally

/-!
# Findings and outcomes

A `Finding` is one issue with one object. An `Outcome` holds the findings of the objects of one
kind, object by object in the order in which they were reported; an object is registered before
anything is reported about it, and stays registered when it is clean.
-/

namespace ClusterAudit

/-- The group of findings about an object as a whole. -/
def rootGroup : String := "__root__"

/-- One issue with one object. -/
structure Finding where
  /-- The part of the object that the finding is about. -/
  group : String
  severity : Severity
  message : String
  code : Option Code
  deriving DecidableEq

namespace Finding

/-- Whether the finding is about the object as a whole. -/
def isRoot (f : Finding) : Bool := f.group == rootGroup

/-- The most serious severity of some findings; `ok` without findings. -/
def worst (fs : List Finding) : Severity := .worst (fs.map (·.severity))

end Finding

/-- The findings of registered objects. -/
structure Outcome where
  objects : Dict Fqn (List Finding)
  deriving DecidableEq

namespace Outcome

/-- No object is registered. -/
def empty : Outcome := ⟨∅⟩

instance : EmptyCollection Outcome := ⟨empty⟩

instance : Inhabited Outcome := ⟨empty⟩

/-- The outcome with an object registered; findings it has already are kept. -/
def init (o : Outcome) (fqn : Fqn) : Outcome :=
  ⟨o.objects.alter fqn fun old => some (old.getD [])⟩

/-- Whether an object is registered. -/
def contains (o : Outcome) (fqn : Fqn) : Bool := o.objects.contains fqn

/-- The outcome with a finding added to a registered object; an object that is not registered gets
none. -/
def push (o : Outcome) (fqn : Fqn) (f : Finding) : Outcome :=
  ⟨o.objects.modify fqn (· ++ [f])⟩

/-- The outcome with the objects of another registered and their findings appended. -/
def merge (o other : Outcome) : Outcome :=
  other.objects.foldl (fun o fqn fs =>
    ⟨o.objects.alter fqn fun old => some (old.getD [] ++ fs)⟩) o

/-- The findings of an object, if it is registered. -/
def get? (o : Outcome) (fqn : Fqn) : Option (List Finding) := o.objects.get? fqn

/-- The number of registered objects. -/
def size (o : Outcome) : Nat := o.objects.size

/-- Whether no object is registered. -/
def isEmpty (o : Outcome) : Bool := o.objects.isEmpty

/-- The number of findings. -/
def findingCount (o : Outcome) : Nat := o.objects.foldl (fun n _ fs => n + fs.length) 0

/-- The most serious severity of an object: `ok` if it is clean, nothing if it is not registered. -/
def maxSeverity? (o : Outcome) (fqn : Fqn) : Option Severity := (o.get? fqn).map Finding.worst

/-- The outcome with the findings of at least a severity; every object stays registered. -/
def filter (o : Outcome) (least : Severity) : Outcome :=
  ⟨o.objects.map fun fs => fs.filter fun f => decide (least ≤ f.severity)⟩

/-- The findings by code; those without code are passed over. -/
def codeTally (o : Outcome) : CodeTally :=
  (o.objects.values.flatten.filterMap (·.code)).foldl (fun t code => t.incr code) ∅

/-- The findings by namespace and code; those without code are passed over. -/
def namespaceTally (o : Outcome) : NamespaceTally :=
  o.objects.foldl (fun t fqn fs =>
    (fs.filterMap (·.code)).foldl (fun t code => t.record fqn.space code) t) ∅

/-- The objects by their most serious finding. -/
def severityRollup (o : Outcome) : SeverityTally :=
  o.objects.foldl (fun t _ fs => t.add (Finding.worst fs) 1) ∅

end Outcome

end ClusterAudit
