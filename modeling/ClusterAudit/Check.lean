import ClusterAudit.Check.Verdict

/-!
# Checks

A check looks at the records of one kind in a snapshot and gives a verdict on each object, in the
order in which it looks at them; or it cannot look at all. Verdicts never depend on what a collector
does with them.
-/

namespace ClusterAudit

/-- A check over the records of one kind. -/
structure Check where
  /-- The kind whose table it looks at. -/
  kind : Kind
  name : String
  /-- The objects it looks at in a snapshot, each with its verdict. -/
  look : Snapshot → Except AuditError (List (Target × Verdict))

namespace Check

/-- The verdicts on the records of a sort that the table of a kind holds. -/
def onRecords {α : Type} (s : Snapshot) (kind : Kind) (as : Resource → Option α)
    (target : α → Target) (verdict : Target → α → Verdict) :
    Except AuditError (List (Target × Verdict)) := do
  let records ← AuditError.ofStore (s.scanAs as kind)
  .ok (records.map fun r => (target r, verdict (target r) r))

/-- What a collector makes of the verdicts on objects. -/
def collect (kind : Kind) (g : Glossary) (e : Exclusions) (verdicts : List (Target × Verdict)) :
    Outcome :=
  (verdicts.foldl (fun c v => c.visit v.1 v.2) (Collector.create kind g e)).outcome

/-- The outcome of a check; nothing if its kind was never loaded. -/
def run (c : Check) (g : Glossary) (e : Exclusions) (s : Snapshot) :
    Except AuditError (Option Outcome) := do
  if ← AuditError.ofStore (s.isLoaded c.kind) then
    .ok (some (collect c.kind g e (← c.look s)))
  else .ok none

end Check

end ClusterAudit
