import ClusterAudit.Finding.Codec
import ClusterAudit.Runner

/-!
# Reports as JSON
-/

namespace ClusterAudit

open Json

/-- A failure as JSON. -/
def CheckFailure.toJson (f : CheckFailure) : Json :=
  .record [("check", .text f.check), ("kind", .text f.kind.text), ("error", .text f.error.message)]

/-- A report as JSON. -/
def Report.toJson (r : Report) : Json :=
  .record [("outcomes", .record (r.outcomes.entries.map fun e => (e.1.text, e.2.toJson))),
    ("tally", r.tally.toJson), ("failures", .ofList CheckFailure.toJson r.failures)]

end ClusterAudit
