import ClusterAudit.Check
import ClusterAudit.Check.NetworkPolicy
import ClusterAudit.Check.Pod
import ClusterAudit.Check.RoleBinding
import ClusterAudit.Check.Service
import ClusterAudit.Text.Quoted

/-!
# Running checks

A `Runner` runs checks over one snapshot and folds what they find into a `Report`. A check that
cannot run is listed as a failure and adds nothing else; a check whose kind was never loaded is
passed over. Outcomes of checks over one kind are merged, and every finding is counted.
-/

namespace ClusterAudit

/-- A check that could not run. -/
structure CheckFailure where
  check : String
  kind : Kind
  error : AuditError
  deriving DecidableEq

/-- What a run has found. -/
structure Report where
  outcomes : Dict Kind Outcome
  tally : KindTally
  failures : List CheckFailure
  deriving DecidableEq

namespace Report

/-- Nothing has been found. -/
def empty : Report := ⟨∅, ∅, []⟩

instance : Inhabited Report := ⟨empty⟩

/-- The report with the outcome of a check over a kind added. -/
def absorb (r : Report) (kind : Kind) (o : Outcome) : Report :=
  { r with
    tally := r.tally.insert kind o.namespaceTally
    outcomes := r.outcomes.alter kind fun old => some ((old.getD ∅).merge o) }

/-- The objects of a kind by their most serious finding. -/
def severityRollup (r : Report) (kind : Kind) : SeverityTally :=
  ((r.outcomes.get? kind).map Outcome.severityRollup).getD ∅

/-- The objects of all kinds by their most serious finding. -/
def totalRollup (r : Report) : SeverityTally :=
  r.outcomes.foldl (fun total _ o => total.merge o.severityRollup) ∅

/-- Whether every check ran and none found anything. -/
def isClean (r : Report) : Bool :=
  r.failures.isEmpty && r.outcomes.all fun _ o => o.findingCount == 0

end Report

/-- Checks, with what decides about their findings. -/
structure Runner where
  checks : List Check
  glossary : Glossary
  exclusions : Exclusions

namespace Runner

/-- The checks that come with the library. -/
def builtinChecks : List Check :=
  [.pods, .services, .networkPolicies, .bindings .roleBindings, .bindings .clusterRoleBindings]

/-- The report with what a check makes of a snapshot. -/
def step (r : Runner) (s : Snapshot) (report : Report) (c : Check) : Report :=
  match c.run r.glossary r.exclusions s with
  | .ok (some o) => report.absorb c.kind o
  | .ok none => report
  | .error e => { report with failures := report.failures ++ [⟨c.name, c.kind, e⟩] }

/-- The report of all checks over a snapshot. -/
def run (r : Runner) (s : Snapshot) : Report :=
  let report := r.checks.foldl (r.step s) .empty
  { report with tally := report.tally.compact }

/-- A short description of the runner: the names of its checks. -/
def describe (r : Runner) : String :=
  "Runner \x7b checks: [" ++ ", ".intercalate (r.checks.map fun c => Text.quoted c.name) ++
    "], .. \x7d"

end Runner

end ClusterAudit
