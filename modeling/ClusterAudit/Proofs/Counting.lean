import ClusterAudit.Proofs.Outcome
import ClusterAudit.Proofs.Tally
import ClusterAudit.Runner

/-!
# The tally of a report counts its outcomes

A report adds every outcome twice: to the outcomes of its kind, and, counted, to its tally. The two
stay in step because counting an outcome is additive (`Outcome.count_namespaceTally`,
`Outcome.occurrences_merge`); the invariant of the fold over the checks is `Report.Counted`. At the
end the tally is compacted, and `Runner.tally_counts_outcomes` says what it holds then: a count for
exactly the codes that occur, as often as they occur in the outcomes.
-/

namespace ClusterAudit

/-! ## Outcomes -/

namespace Outcome

/-- How many findings of a code there are over the objects in a namespace. -/
def occurrences (o : Outcome) (space : String) (code : Code) : Nat :=
  o.objects.sum fun fqn fs => if fqn.space = space then fs.countP (·.code = some code) else 0

/-- Recording the findings of an object, each under its code, adds to what is seen of a tally as many
as have a code of which one more is seen. -/
theorem see_record_findings (see : NamespaceTally → Count) {space : String} (p : Code → Bool)
    (h : ∀ t code, see (t.record space code) = see t + .ofNat (if p code then 1 else 0))
    (t : NamespaceTally) (fs : List Finding) :
    see ((fs.filterMap (·.code)).foldl (fun t code => t.record space code) t) =
      see t + .ofNat (fs.countP fun f => f.code.any p) := by
  refine (Count.see_foldl see _ h _ t).trans ?_
  congr
  induction fs with
  | nil => rfl
  | cons f rest ih =>
    rw [List.filterMap_cons, List.countP_cons]
    cases hf : f.code with
    | none => simpa [hf] using ih
    | some code => simp [ih, Nat.add_comm]

/-- The findings of one object are counted in its namespace, each under its code. -/
theorem count_record_findings (t : NamespaceTally) (fqn : Fqn) (fs : List Finding) (space : String)
    (code : Code) :
    ((fs.filterMap (·.code)).foldl (fun t code => t.record fqn.space code) t).count space code =
      t.count space code +
        .ofNat (if fqn.space = space then fs.countP (·.code = some code) else 0) := by
  refine (see_record_findings (·.count space code) (fun c => fqn.space = space ∧ c = code)
    (fun t c => ?_) t fs).trans ?_
  · simp only [t.count_record fqn.space space c code, decide_eq_true_eq]
  · congr
    split
    · rename_i hspace
      refine List.countP_congr fun f _ => ?_
      cases f.code <;> simp [hspace]
    · rename_i hspace
      refine List.countP_eq_zero.2 fun f _ => ?_
      cases f.code <;> simp [hspace]

/-- The tally of an outcome counts in every namespace how often every code occurs. -/
theorem count_namespaceTally (o : Outcome) (space : String) (code : Code) :
    o.namespaceTally.count space code = .ofNat (o.occurrences space code) := by
  have h := Count.see_foldl (·.count space code) _
    (fun (t : NamespaceTally) (e : Fqn × List Finding) =>
      count_record_findings t e.1 e.2 space code) o.objects.entries ∅
  rwa [NamespaceTally.count_empty, Count.zero_add] at h

/-- In merged outcomes every code occurs as often as in both together. -/
theorem occurrences_merge (o other : Outcome) (space : String) (code : Code) :
    (o.merge other).occurrences space code =
      o.occurrences space code + other.occurrences space code := by
  refine sum_merge (fun fqn fs fs' => ?_) o other
  split
  · exact List.countP_append
  · rfl

end Outcome

/-! ## Reports -/

namespace Runner

variable {p : Report → Prop} (r : Runner) (s : Snapshot) {report : Report}

/-- What a check makes of a snapshot is absorbed, or its failure is listed; what both preserve, a
check preserves. -/
theorem step_preserves (habsorb : ∀ report kind o, p report → p (report.absorb kind o))
    (hfail : ∀ report failure, p report →
      p { report with failures := report.failures ++ [failure] })
    (h : p report) (c : Check) : p (r.step s report c) := by
  rw [step]
  split
  · exact habsorb report c.kind _ h
  · exact h
  · exact hfail report _ h

/-- All checks preserve it, one after the other. -/
theorem foldl_step_preserves (habsorb : ∀ report kind o, p report → p (report.absorb kind o))
    (hfail : ∀ report failure, p report →
      p { report with failures := report.failures ++ [failure] })
    (h : p report) (checks : List Check) : p (checks.foldl (r.step s) report) := by
  induction checks generalizing report with
  | nil => exact h
  | cons c rest ih => exact ih (r.step_preserves s habsorb hfail h c)

end Runner

namespace Report

/-- How many findings of a code a report has over the objects of a kind in a namespace. -/
def occurrences (r : Report) (kind : Kind) (space : String) (code : Code) : Nat :=
  ((r.outcomes.get? kind).getD ∅).occurrences space code

/-- The tally counts what occurs in the outcomes, entries without any count aside. -/
def Counted (r : Report) : Prop :=
  ∀ kind space code, r.tally.count kind space code = .ofNat (r.occurrences kind space code)

/-- Nothing is counted at first. -/
theorem counted_empty : empty.Counted := fun _ _ _ => rfl

/-- One more outcome is counted where it is added. -/
theorem Counted.absorb {r : Report} (h : r.Counted) (kind : Kind) (o : Outcome) :
    (r.absorb kind o).Counted := by
  intro k space code
  rw [Report.absorb, occurrences]
  by_cases hk : k = kind
  · subst hk
    rw [KindTally.count_insert_self, h k, Outcome.count_namespaceTally, ← Count.ofNat_add,
      Dict.get?_alter_self, Option.getD_some, Outcome.occurrences_merge, occurrences]
  · rw [KindTally.count_insert_of_ne hk, h k, Dict.get?_alter_of_ne hk, occurrences]

/-- All checks are counted, one after the other. -/
theorem Counted.steps {r : Report} (h : r.Counted) (runner : Runner) (s : Snapshot)
    (checks : List Check) : (checks.foldl (runner.step s) r).Counted :=
  runner.foldl_step_preserves s (fun _ kind o h => h.absorb kind o) (fun _ _ h => h) h checks

end Report

/-! ## Runs -/

namespace Runner

/-- Checks that fail add nothing to outcomes and tally. -/
theorem foldl_filter_isOk (r : Runner) (s : Snapshot) (checks : List Check) {a b : Report}
    (houtcomes : a.outcomes = b.outcomes) (htally : a.tally = b.tally) :
    let ran := checks.filter fun c => (c.run r.glossary r.exclusions s).isOk
    (ran.foldl (r.step s) a).outcomes = (checks.foldl (r.step s) b).outcomes ∧
      (ran.foldl (r.step s) a).tally = (checks.foldl (r.step s) b).tally := by
  induction checks generalizing a b with
  | nil => exact ⟨houtcomes, htally⟩
  | cons c rest ih =>
    rw [List.filter_cons, List.foldl_cons]
    cases hrun : c.run r.glossary r.exclusions s with
    | error e =>
      simp only [Except.isOk, Except.toBool, Bool.false_eq_true, if_false]
      exact ih (by rw [step, hrun]; exact houtcomes) (by rw [step, hrun]; exact htally)
    | ok observed =>
      simp only [Except.isOk, Except.toBool, if_true, List.foldl_cons]
      cases observed with
      | none => exact ih (by simp [step, hrun, houtcomes]) (by simp [step, hrun, htally])
      | some o =>
        exact ih (by simp [step, hrun, Report.absorb, houtcomes])
          (by simp [step, hrun, Report.absorb, htally])

/-- The tally of a run counts its outcomes: a code has an entry in a namespace of a kind exactly if
the outcome of that kind has a finding of the code about an object in the namespace, and the entry
is the number of these findings, or the largest count; a namespace or a kind has an entry exactly if
some code occurs in it. Outcomes and tally are those of the checks that did not fail. -/
theorem tally_counts_outcomes (checks : List Check) (g : Glossary) (e : Exclusions)
    (s : Snapshot) :
    let report := run ⟨checks, g, e⟩ s
    (∀ kind space code, report.tally.count? kind space code =
      if report.occurrences kind space code = 0 then none
      else some (.ofNat (report.occurrences kind space code))) ∧
    (∀ kind space, (report.tally.space? kind space).isSome ↔
      ∃ code, report.occurrences kind space code ≠ 0) ∧
    (∀ kind, (report.tally.get? kind).isSome ↔
      ∃ space code, report.occurrences kind space code ≠ 0) ∧
    let ran := run ⟨checks.filter fun c => (c.run g e s).isOk, g, e⟩ s
    ran.outcomes = report.outcomes ∧ ran.tally = report.tally := by
  intro report
  let full := checks.foldl (step ⟨checks, g, e⟩ s) .empty
  have hfull : full.Counted := Report.counted_empty.steps _ s checks
  have hzero : ∀ kind space code, full.tally.count kind space code = 0 ↔
      report.occurrences kind space code = 0 := by
    intro kind space code
    rw [hfull, Count.ofNat_eq_zero_iff]
    rfl
  refine ⟨fun kind space code => ?_, fun kind space => ?_, fun kind => ?_, ?_⟩
  · rw [show report.tally = full.tally.compact from rfl, KindTally.count?_compact]
    simp only [hzero]
    rw [hfull]
    rfl
  · rw [show report.tally = full.tally.compact from rfl, Option.isSome_iff_ne_none, ne_eq,
      KindTally.space?_compact_eq_none_iff, Classical.not_forall]
    simp only [hzero, ne_eq]
  · rw [show report.tally = full.tally.compact from rfl, Option.isSome_iff_ne_none, ne_eq,
      KindTally.get?_compact_eq_none_iff, Classical.not_forall]
    simp only [Classical.not_forall, hzero, ne_eq]
  · obtain ⟨houtcomes, htally⟩ := foldl_filter_isOk ⟨checks, g, e⟩ s checks
      (rfl : Report.empty.outcomes = Report.empty.outcomes) rfl
    exact ⟨houtcomes, congrArg KindTally.compact htally⟩

end Runner

end ClusterAudit
