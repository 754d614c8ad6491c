import ClusterAudit.Config
import ClusterAudit.Document.Json.View

/-!
# Configuration as JSON
-/

namespace ClusterAudit

open Json

/-- A rule as it is written, as JSON. -/
def RuleDraft.toJson (r : RuleDraft) : Json :=
  .record [("fqns", .ofList ofWritten r.fqns), ("labels", .ofDict (.ofList ofWritten) r.labels),
    ("annotations", .ofDict (.ofList ofWritten) r.annotations),
    ("containers", .ofList ofWritten r.containers), ("codes", .ofList ofWritten r.codes)]

/-- The suppressions of a kind as they are written, as JSON. -/
def KindDraft.toJson (k : KindDraft) : Json :=
  .record
    [("codes", .ofList ofWritten k.codes), ("instances", .ofList RuleDraft.toJson k.instances)]

/-- All suppressions as they are written, as JSON. -/
def ExclusionsDraft.toJson (e : ExclusionsDraft) : Json :=
  .record [("global", e.global.toJson), ("linters", .ofDict KindDraft.toJson e.kinds)]

/-- A configuration as JSON. -/
def Config.toJson (c : Config) : Json :=
  .record [("excludes", c.excludes.toJson),
    ("codes", .ofDict (fun s => .record [("severity", .text s.name)]) c.severities)]

/-- All suppressions as they are written. -/
def ExclusionsDraft.ofJson? (j : Json) : Option ExclusionsDraft := ExclusionsDraft.read Json.view j

/-- A configuration. -/
def Config.ofJson? (j : Json) : Option Config := Config.read Json.view j

end ClusterAudit
