import ClusterAudit.Config.Effect
import ClusterAudit.Proofs.Containment
import ClusterAudit.Proofs.Counting
import ClusterAudit.Proofs.Rollup

/-!
# The severities of findings and of their codes

A finding has a severity of its own, and the glossary has one for its code. The rollup of a tally
goes by the codes, so it counts the findings of a report by what the glossary says of them
(`Report.RolledUp`). Of the findings of a run that is the severity they have, but for failures
inside a check: these are errors, whatever the glossary says of their code (`Finding.Rated`). The two
agree in all runs exactly if the glossary takes failures for errors too: `Runner.rollup_tally_run`.
-/

namespace ClusterAudit

/-! ## Counting findings -/

/-- The severity that a glossary has for the code of a finding. -/
def Finding.codeSeverity? (g : Glossary) (f : Finding) : Option Severity := f.code.bind g.severity?

namespace Outcome

/-- How many findings of a sort there are over all objects. -/
def countFindings (p : Finding → Bool) (o : Outcome) : Nat := o.objects.sum fun _ fs => fs.countP p

/-- In merged outcomes there are as many as in both together. -/
theorem countFindings_merge (p : Finding → Bool) (o other : Outcome) :
    (o.merge other).countFindings p = o.countFindings p + other.countFindings p :=
  sum_merge (fun _ _ _ => List.countP_append) o other

/-- The tally of an outcome is rolled up to how many findings have a code of each severity. -/
theorem get_rollup_namespaceTally (o : Outcome) (g : Glossary) (s : Severity) :
    (o.namespaceTally.rollup g).get s =
      .ofNat (o.countFindings fun f => f.codeSeverity? g = some s) := by
  have hrecord : ∀ (t : NamespaceTally) (fqn : Fqn) (fs : List Finding),
      (((fs.filterMap (·.code)).foldl (fun t code => t.record fqn.space code) t).rollup g).get s =
        (t.rollup g).get s + .ofNat (fs.countP fun f => f.codeSeverity? g = some s) := by
    intro t fqn fs
    refine (see_record_findings (fun t => (t.rollup g).get s) (fun code => g.severity? code = some s)
      (fun t code => ?_) t fs).trans ?_
    · rw [t.get_rollup_record, Glossary.share]
      by_cases hs : g.severity? code = some s
      · simp only [hs]; rfl
      · simp only [hs]; rfl
    · congr
      funext f
      rw [Finding.codeSeverity?]
      cases f.code <;> simp
  have h := Count.see_foldl (fun t : NamespaceTally => (t.rollup g).get s) _
    (fun t (e : Fqn × List Finding) => hrecord t e.1 e.2) o.objects.entries ∅
  have hempty : ((∅ : NamespaceTally).rollup g).get s = 0 := SeverityTally.get_empty s
  rwa [hempty, Count.zero_add] at h

end Outcome

namespace Report

/-- How many findings of a sort there are over all kinds. -/
def countFindings (p : Finding → Bool) (r : Report) : Nat :=
  r.outcomes.sum fun _ o => o.countFindings p

/-- The tally is rolled up to how many findings have a code of each severity. -/
def RolledUp (g : Glossary) (r : Report) : Prop :=
  ∀ s, (r.tally.rollup g).get s = .ofNat (r.countFindings fun f => f.codeSeverity? g = some s)

namespace RolledUp

variable {g : Glossary} {r : Report}

/-- Nothing is counted at first. -/
theorem empty : RolledUp g .empty := SeverityTally.get_empty

/-- One more outcome is counted by the severities of its codes. -/
theorem absorb (h : r.RolledUp g) (kind : Kind) (o : Outcome) : (r.absorb kind o).RolledUp g := by
  intro s
  let p : Finding → Bool := fun f => f.codeSeverity? g = some s
  have hsum : (r.absorb kind o).countFindings p = r.countFindings p + o.countFindings p := by
    refine Dict.sum_alter (f := fun old => (old.getD ∅).merge o) ?_ (fun old => ?_) r.outcomes
    · exact (Outcome.countFindings_merge p ∅ o).trans (Nat.zero_add _)
    · exact Outcome.countFindings_merge p old o
  show ((r.tally.insert kind o.namespaceTally).rollup g).get s = _
  rw [KindTally.get_rollup_insert, h s, o.get_rollup_namespaceTally, hsum, Count.ofNat_add]

/-- All checks are counted, one after the other. -/
theorem steps (h : r.RolledUp g) (runner : Runner) (s : Snapshot) (checks : List Check) :
    (checks.foldl (runner.step s) r).RolledUp g :=
  runner.foldl_step_preserves s (fun _ kind o h => h.absorb kind o) (fun _ _ h => h) h checks

end RolledUp

/-- Sorts that hold of the same findings of a report count the same. -/
theorem countFindings_congr {r : Report} {p q : Finding → Bool}
    (h : ∀ kind fqn, ∀ f ∈ r.findings kind fqn, p f = q f) :
    r.countFindings p = r.countFindings q := by
  refine Dict.sum_congr fun e he => Dict.sum_congr fun e' he' => List.countP_congr fun f hf => ?_
  rw [h e.1 e'.1 f (by rwa [findings_of_mem he he'])]

end Report

/-! ## The severities of a run -/

namespace Finding

/-- How a glossary rates a finding: a failure inside a check by the severity of its code, any other
finding by its own. -/
def rating (g : Glossary) (f : Finding) : Option Severity :=
  if f.code = some Glossary.internalError then g.severity? Glossary.internalError
  else some f.severity

/-- A finding has the severity of its code, or it is a failure inside a check, and an error. -/
def Rated (g : Glossary) (f : Finding) : Prop :=
  f.codeSeverity? g = some f.severity ∨
    f.code = some Glossary.internalError ∧ f.severity = .error

variable {g : Glossary} {f : Finding}

/-- Such a finding is rated by its code. -/
theorem Rated.rating_eq (h : f.Rated g) : f.rating g = f.codeSeverity? g := by
  rw [rating]
  split
  · rename_i hcode
    rw [codeSeverity?, hcode]
    rfl
  · rename_i hcode
    exact (h.resolve_right fun hfailure => hcode hfailure.1).symm

/-- It is rated as it is where failures are errors. -/
theorem Rated.rating_eq_severity (h : f.Rated g)
    (hg : g.severity? Glossary.internalError = some .error) : f.rating g = some f.severity := by
  rw [rating]
  split
  · rename_i hcode
    rcases h with h | ⟨-, h⟩
    · rw [← h, codeSeverity?, hcode]
      rfl
    · rw [h, hg]
  · rfl

end Finding

/-- What a remark reports has the severity of its code. -/
theorem Remark.rated_of_issue {g : Glossary} {registered : List Fqn} {r : Remark} {i : Issue}
    (h : r.issue g registered = .ok i) : i.finding.Rated g := by
  rw [issue] at h
  split at h
  · cases h
  · split at h
    · rename_i severity message hs hm
      cases h
      exact .inl hs
    · cases h

/-- So does all that verdicts report, failures aside. -/
theorem Verdict.rated_of_mem_issuesOfAll {g : Glossary} {registered : List Fqn}
    {l : List (Target × Verdict)} {i : Issue} (h : i ∈ issuesOfAll g registered l) :
    i.finding.Rated g := by
  obtain ⟨v, -, others, -, hi⟩ := exists_of_mem_issuesOfAll h
  rcases mem_issues hi with ⟨r, -, hi⟩ | ⟨text, rfl⟩
  · exact Remark.rated_of_issue hi
  · exact .inr ⟨rfl, rfl⟩

namespace Runner

variable (checks : List Check) (g : Glossary) (e : Exclusions) (s : Snapshot)

/-- The findings of a run have the severities of their codes, failures aside. -/
theorem rated_run {kind : Kind} {fqn : Fqn} {f : Finding}
    (h : f ∈ (run ⟨checks, g, e⟩ s).findings kind fqn) : f.Rated g := by
  rw [(follows_run checks g e s).findings_eq, Issue.kept] at h
  obtain ⟨i, hi, rfl⟩ := List.mem_map.1 h
  obtain ⟨o, -, hi⟩ := List.mem_flatMap.1 (List.mem_filter.1 hi).1
  exact Verdict.rated_of_mem_issuesOfAll hi

/-- The tally of a run is rolled up to how many findings the glossary rates so. -/
theorem get_rollup_run (severity : Severity) :
    ((run ⟨checks, g, e⟩ s).tally.rollup g).get severity =
      .ofNat ((run ⟨checks, g, e⟩ s).countFindings fun f => f.rating g = some severity) := by
  let full := checks.foldl (step ⟨checks, g, e⟩ s) .empty
  have hfull : full.RolledUp g := Report.RolledUp.empty.steps _ s checks
  show (full.tally.compact.rollup g).get severity = _
  rw [KindTally.get_rollup_compact, hfull severity]
  refine congrArg Count.ofNat (Report.countFindings_congr fun kind fqn f hf => ?_)
  have hrated : f.Rated g := rated_run checks g e s hf
  rw [hrated.rating_eq]

end Runner

/-! ## Where both agree -/

/-- The tally is rolled up to how many findings there are of each severity. -/
def Report.SeveritiesAgree (g : Glossary) (r : Report) : Prop :=
  ∀ s, (r.tally.rollup g).get s = .ofNat (r.countFindings fun f => f.severity = s)

/-- A pod with nothing to remark on, but a request that cannot be read. -/
def Pod.failing : Pod :=
  { Pod.ofMeta ((ObjectMeta.named "a" "x").withLabel "app" "x") with
    serviceAccountName := "builder"
    containers :=
      [(((Container.named "c" "i@d").withProbes.withRequest "cpu" "one").withLimit "cpu" "1")] }

/-- The pod is loaded and nothing else. -/
def Snapshot.failingPod : Snapshot := .replay .builtin [Change.ofLoad .pods [.pod .failing]]

namespace Runner

/-- The pod has one finding, whatever the glossary is: the failure. -/
theorem countFindings_failingPod (g : Glossary) (p : Finding → Bool) :
    (run ⟨[.pods], g, .none⟩ .failingPod).countFindings p =
      [(Issue.failure g ⟨"a/x"⟩ (AuditError.unexpectedShape "a/x"
        "container c: cpu Invalid quantity 'one'").message).finding].countP p := by
  have hlook : Check.pods.look .failingPod = .ok [(PodCheck.target .failing,
      .fail (.unexpectedShape "a/x" "container c: cpu Invalid quantity 'one'"))] := by
    decide
  have hrun : Check.pods.run g .none .failingPod = .ok (some (Check.collect .pods g .none
      [(PodCheck.target .failing,
        .fail (.unexpectedShape "a/x" "container c: cpu Invalid quantity 'one'"))])) := by
    rw [Check.run, hlook]
    rfl
  rw [run, List.foldl_cons, step, hrun]
  rfl

/-- The findings of a run have the severities that its glossary rates them with, if failures are
errors to the glossary or the run has none. -/
theorem severitiesAgree_run (checks : List Check) (g : Glossary) (e : Exclusions) (s : Snapshot)
    (h : g.severity? Glossary.internalError = some .error ∨ ∀ kind fqn,
      ∀ f ∈ (run ⟨checks, g, e⟩ s).findings kind fqn, f.code ≠ some Glossary.internalError) :
    (run ⟨checks, g, e⟩ s).SeveritiesAgree g := by
  intro severity
  rw [get_rollup_run]
  refine congrArg Count.ofNat (Report.countFindings_congr fun kind fqn f hf => ?_)
  have hrating : f.rating g = some f.severity := by
    rcases h with h | h
    · exact (rated_run checks g e s hf).rating_eq_severity h
    · exact if_neg (h kind fqn f hf)
  exact decide_eq_decide.2 (by rw [hrating, Option.some.injEq])

/-- The tally of a run is rolled up to how many findings the glossary rates with each severity: a
failure inside a check by the severity of its code, any other finding by its own. That is how many
findings of each severity there are, if failures are errors to the glossary or the run has none; and
only for such glossaries it is so in all runs of the builtin checks. -/
theorem rollup_tally_run (g : Glossary) :
    (∀ checks e s severity,
      let report := run ⟨checks, g, e⟩ s
      (report.tally.rollup g).get severity =
        .ofNat (report.countFindings fun f => f.rating g = some severity)) ∧
    (∀ checks e s,
      let report := run ⟨checks, g, e⟩ s
      (g.severity? Glossary.internalError = some .error ∨ ∀ kind fqn,
        ∀ f ∈ report.findings kind fqn, f.code ≠ some Glossary.internalError) →
      report.SeveritiesAgree g) ∧
    ((∀ checks ⊆ builtinChecks, ∀ e s, (run ⟨checks, g, e⟩ s).SeveritiesAgree g) ↔
      g.severity? Glossary.internalError = some .error) := by
  refine ⟨fun checks e s => get_rollup_run checks g e s,
    fun checks e s => severitiesAgree_run checks g e s, fun h => ?_,
    fun hg checks _ e s => severitiesAgree_run checks g e s (.inl hg)⟩
  by_contra hg
  have hagree := h [.pods] (by simp [builtinChecks]) .none .failingPod .error
  -- an error by its own severity, and none by that of its code
  rw [get_rollup_run, countFindings_failingPod, countFindings_failingPod, List.countP_singleton,
    List.countP_singleton, if_neg (by simpa [Finding.rating, Issue.failure] using hg)] at hagree
  exact absurd hagree (show Count.ofNat 0 ≠ Count.ofNat 1 by decide)

/-- The severity of failures can be overridden; then the tally has one warning and the outcomes have
one error. -/
theorem not_severitiesAgree_failingPod :
    let g := (Glossary.builtin.overrideSeverity Glossary.internalError .warn).1
    Config.glossary ⟨.empty, .ofList [("666", .warn)]⟩ = .ok g ∧ [Check.pods] ⊆ builtinChecks ∧
      ¬ (run ⟨[.pods], g, .none⟩ .failingPod).SeveritiesAgree g := by
  intro g
  exact ⟨by decide, by simp [builtinChecks], fun h => absurd (h .error) (by decide)⟩

end Runner

end ClusterAudit
