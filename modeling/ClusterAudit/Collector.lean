import ClusterAudit.Finding
import ClusterAudit.Resource
import ClusterAudit.Suppression

/-!
# Collecting findings

A `Collector` takes the findings of one check. A finding needs a registered object and a known code,
and is dropped when a suppression rule silences it. Failures inside a check are recorded under the
internal code; they are never silenced and register their object themselves.
-/

namespace ClusterAudit

/-- The object that a finding is about. -/
structure Target where
  kind : Kind
  fqn : Fqn
  labels : Labels
  annotations : Labels
  containers : List String
  deriving DecidableEq

namespace Target

/-- An object of a kind with its metadata, without containers. -/
def ofMeta (kind : Kind) (m : ObjectMeta) : Target := ⟨kind, m.fqn, m.labels, m.annotations, []⟩

/-- A stored object with its containers. -/
def ofResource (r : Resource) : Target :=
  { ofMeta r.kind r.metadata with containers := r.containerNames }

/-- What suppression rules see of a finding about the object. -/
def subject (t : Target) (code : Code) : Subject :=
  ⟨t.kind, t.fqn, t.labels, t.annotations, t.containers, some code⟩

end Target

/-- A mistake in a check. -/
inductive IssueError where
  /-- The object was never registered. -/
  | unregistered (kind : Kind) (fqn : Fqn)
  /-- The glossary lacks the code. -/
  | unknownCode (code : Code)
  deriving DecidableEq

namespace IssueError

/-- The wording of the error. -/
def message : IssueError → String
  | unregistered kind fqn =>
    "Finding reported for unregistered object " ++ kind.text ++ "/" ++ fqn.text
  | unknownCode code => "Unknown finding code: " ++ code.text

end IssueError

/-- The findings of one check so far, and what decides about new ones. -/
structure Collector where
  kind : Kind
  glossary : Glossary
  exclusions : Exclusions
  outcome : Outcome
  deriving DecidableEq

namespace Collector

/-- A collector without findings. -/
def create (kind : Kind) (glossary : Glossary) (exclusions : Exclusions) : Collector :=
  ⟨kind, glossary, exclusions, ∅⟩

/-- The collector with an object registered. -/
def init (c : Collector) (fqn : Fqn) : Collector := { c with outcome := c.outcome.init fqn }

/-- The collector with a finding recorded, unless it is silenced, and whether it was recorded. -/
def record (c : Collector) (t : Target) (code : Code) (group : String) (subject : Subject)
    (args : List String) : Except IssueError (Collector × Bool) :=
  if !c.outcome.contains t.fqn then .error (.unregistered t.kind t.fqn)
  else match c.glossary.severity? code with
    | none => .error (.unknownCode code)
    | some severity =>
      if c.exclusions.isExcluded subject then .ok (c, false)
      else match c.glossary.render code args with
        | none => .error (.unknownCode code)
        | some message =>
          .ok ({ c with outcome := c.outcome.push t.fqn ⟨group, severity, message, some code⟩ },
            true)

/-- The collector with a finding about the object as a whole. -/
def addCode (c : Collector) (t : Target) (code : Code) (args : List String) :
    Except IssueError (Collector × Bool) :=
  c.record t code rootGroup (t.subject code) args

/-- The collector with a finding about a part of the object. Suppression sees that part as the only
container. -/
def addSubCode (c : Collector) (t : Target) (code : Code) (group : String) (args : List String) :
    Except IssueError (Collector × Bool) :=
  c.record t code group { t.subject code with containers := [group] } args

/-- The collector with a failure recorded about the object. -/
def addError (c : Collector) (t : Target) (text : String) : Collector :=
  let message := (c.glossary.render Glossary.internalError [text]).getD text
  let finding : Finding := ⟨rootGroup, .error, message, some Glossary.internalError⟩
  { c with outcome := (c.outcome.init t.fqn).push t.fqn finding }

end Collector

end ClusterAudit
