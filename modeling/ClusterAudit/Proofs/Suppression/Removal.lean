import ClusterAudit.Proofs.Result
import ClusterAudit.Proofs.Suppression.Collecting

/-!
# Suppression only removes findings

What checks observe in a snapshot depends on no suppression rule (`Check.observe`), and so do the
issues of what they observe. A run under some rules lists the objects and failures that a run
without rules lists, and of every object the same findings in the same order with exactly the
silenced ones left out: `Runner.run_eq_unsuppressed`. The invariant of the fold over the checks is
`Report.Follows`.
-/

namespace ClusterAudit

/-! ## Observations -/

/-- The verdicts of a check on the objects of a snapshot; nothing if its kind was never loaded. -/
def Check.observe (c : Check) (s : Snapshot) :
    Except AuditError (Option (List (Target × Verdict))) := do
  if ← AuditError.ofStore (s.isLoaded c.kind) then .ok (some (← c.look s)) else .ok none

/-- What a check observes is what it looks at. -/
theorem Check.look_of_observe {c : Check} {s : Snapshot} {l : List (Target × Verdict)}
    (h : c.observe s = .ok (some l)) : c.look s = .ok l := by
  obtain ⟨loaded, -, h⟩ := bind_eq_ok_iff.1 h
  cases loaded with
  | false => cases h
  | true =>
    obtain ⟨l', hl, h⟩ := bind_eq_ok_iff.1 h
    cases h
    exact hl

/-- A check runs by collecting what it observes. -/
theorem Check.run_eq (c : Check) (g : Glossary) (e : Exclusions) (s : Snapshot) :
    c.run g e s = (c.observe s).map (·.map (collect c.kind g e)) := by
  rw [run, observe]
  cases AuditError.ofStore (s.isLoaded c.kind) with
  | error error => rfl
  | ok loaded =>
    cases loaded with
    | false => rfl
    | true => cases c.look s <;> rfl

/-- The verdicts of one check on the objects of a kind. -/
abbrev Observation := Kind × List (Target × Verdict)

namespace Observation

/-- What checks observe, in their order. -/
def ofChecks (checks : List Check) (s : Snapshot) : List Observation :=
  checks.filterMap fun c => match c.observe s with
    | .ok (some verdicts) => some (c.kind, verdicts)
    | _ => none

/-- What is observed is observed by one of the checks. -/
theorem mem_ofChecks_iff {checks : List Check} {s : Snapshot} {o : Observation} :
    o ∈ ofChecks checks s ↔ ∃ c ∈ checks, c.kind = o.1 ∧ c.observe s = .ok (some o.2) := by
  rw [ofChecks, List.mem_filterMap]
  refine exists_congr fun c => and_congr_right fun _ => ?_
  obtain ⟨kind, l⟩ := o
  cases c.observe s with
  | error error => simp
  | ok observed => cases observed <;> simp

/-- The checks that cannot observe anything, in their order. -/
def failures (checks : List Check) (s : Snapshot) : List CheckFailure :=
  checks.filterMap fun c => match c.observe s with
    | .error e => some ⟨c.name, c.kind, e⟩
    | .ok _ => none

/-- The objects of a kind that are observed. -/
def registered (kind : Kind) (l : List Observation) : List Fqn :=
  (l.filter (·.1 = kind)).flatMap fun o => o.2.map (·.1.fqn)

/-- The issues that are reported about objects of a kind, check by check. -/
def issues (g : Glossary) (kind : Kind) (l : List Observation) : List Issue :=
  (l.filter (·.1 = kind)).flatMap fun o => Verdict.issuesOfAll g [] o.2

end Observation

/-! ## Reports -/

/-- A report lists failures, one outcome for every kind that was observed, and in it the issues of
that kind with the silenced ones left out. -/
structure Report.Follows (g : Glossary) (e : Exclusions) (report : Report)
    (failed : List CheckFailure) (seen : List Observation) : Prop where
  failures : report.failures = failed
  kinds : ∀ kind, (report.outcomes.get? kind).isSome ↔ kind ∈ seen.map (·.1)
  outcomes : ∀ kind, Reports e ((report.outcomes.get? kind).getD ∅)
    (Observation.registered kind seen) (Observation.issues g kind seen)

namespace Report.Follows

variable {g : Glossary} {e : Exclusions} {report : Report} {failed : List CheckFailure}
  {seen : List Observation}

/-- At first nothing was observed. -/
theorem empty : Follows g e .empty [] [] := ⟨rfl, by simp [Report.empty], fun _ => .empty⟩

/-- The outcome of one more observation is added to that of its kind. -/
theorem absorb (h : Follows g e report failed seen) (kind : Kind)
    (verdicts : List (Target × Verdict)) :
    Follows g e (report.absorb kind (Check.collect kind g e verdicts)) failed
      (seen ++ [(kind, verdicts)]) := by
  refine ⟨h.failures, fun other => ?_, fun other => ?_⟩
  all_goals
    rw [Report.absorb]
    by_cases hk : other = kind
  · subst hk
    simp
  · rw [Dict.get?_alter_of_ne hk, h.kinds]
    simp [hk]
  · subst hk
    rw [Dict.get?_alter_self, Option.getD_some]
    simpa [Observation.registered, Observation.issues] using
      (h.outcomes other).merge (Check.reports_collect other g e verdicts)
  · rw [Dict.get?_alter_of_ne hk]
    simpa [Observation.registered, Observation.issues, Ne.symm hk] using h.outcomes other

/-- A check adds what it observes, or that it cannot, whatever the rules are. -/
theorem step (h : Follows g e report failed seen) (checks : List Check) (s : Snapshot) (c : Check) :
    Follows g e (Runner.step ⟨checks, g, e⟩ s report c)
      (failed ++ Observation.failures [c] s) (seen ++ Observation.ofChecks [c] s) := by
  rw [Runner.step, Check.run_eq]
  cases ho : c.observe s with
  | error error =>
    refine ⟨?_, ?_, ?_⟩
    · simp [Except.map, Observation.failures, ho, h.failures]
    · simpa [Except.map, Observation.ofChecks, ho] using h.kinds
    · simpa [Except.map, Observation.ofChecks, ho] using h.outcomes
  | ok observed =>
    cases observed with
    | none => simpa [Except.map, Observation.failures, Observation.ofChecks, ho] using h
    | some verdicts =>
      simpa [Except.map, Observation.failures, Observation.ofChecks, ho] using
        h.absorb c.kind verdicts

/-- All checks add what they observe, one after the other. -/
theorem steps (h : Follows g e report failed seen) (all checks : List Check) (s : Snapshot) :
    Follows g e (checks.foldl (Runner.step ⟨all, g, e⟩ s) report)
      (failed ++ Observation.failures checks s) (seen ++ Observation.ofChecks checks s) := by
  induction checks generalizing report failed seen with
  | nil => simpa [Observation.failures, Observation.ofChecks] using h
  | cons c rest ih =>
    rw [← List.singleton_append, List.foldl_append, Observation.failures, Observation.ofChecks,
      List.filterMap_append, List.filterMap_append, ← List.append_assoc, ← List.append_assoc]
    exact ih (h.step all s c)

end Report.Follows

/-! ## Runs -/

/-- The findings of an object of a kind in a report. -/
def Report.findings (r : Report) (kind : Kind) (fqn : Fqn) : List Finding :=
  (((r.outcomes.get? kind).getD ∅).get? fqn).getD []

/-- The findings of an object are what the outcome of its kind lists with it. -/
theorem Report.findings_of_mem {r : Report} {e : Kind × Outcome} (he : e ∈ r.outcomes.entries)
    {e' : Fqn × List Finding} (he' : e' ∈ e.2.objects.entries) : r.findings e.1 e'.1 = e'.2 := by
  have hkind : r.outcomes.get? e.1 = some e.2 := Dict.mem_entries_iff.1 he
  have hfqn : e.2.get? e'.1 = some e'.2 := Dict.mem_entries_iff.1 he'
  rw [findings, hkind, Option.getD_some, hfqn, Option.getD_some]

/-- The objects of every kind that a report lists. -/
def Report.objects (r : Report) : Dict Kind (List Fqn) := r.outcomes.map (·.objects.keys)

/-- Where nothing is suppressed no issue is silenced. -/
theorem Issue.silenced_none (i : Issue) : i.silenced .none = false := by
  have hexcluded : ∀ s : Subject, Exclusions.none.isExcluded s = false := by
    intro s
    rw [Exclusions.isExcluded]
    split
    · rfl
    · rfl
  cases hs : i.subject with
  | none => rw [silenced, hs]; rfl
  | some s => rw [silenced, hs]; exact hexcluded s

/-- A report that follows observations has the issues of an object that are left. -/
theorem Report.Follows.findings_eq {g : Glossary} {e : Exclusions} {report : Report}
    {failed : List CheckFailure} {seen : List Observation} (h : report.Follows g e failed seen)
    (kind : Kind) (fqn : Fqn) :
    report.findings kind fqn = Issue.kept e (Observation.issues g kind seen) fqn := by
  rw [Report.findings, (h.outcomes kind).get?]
  split
  · rfl
  · rename_i hfqn
    exact ((h.outcomes kind).kept_eq_nil hfqn).symm

/-- Reports that follow the same observations list the same objects, whatever the rules are. -/
theorem Report.Follows.objects_eq {g : Glossary} {e e' : Exclusions} {report report' : Report}
    {failed : List CheckFailure} {seen : List Observation} (h : report.Follows g e failed seen)
    (h' : report'.Follows g e' failed seen) : report.objects = report'.objects := by
  refine Dict.ext_get? fun kind => ?_
  rw [Report.objects, Report.objects, Dict.get?_map, Dict.get?_map]
  have hkind : (report.outcomes.get? kind).isSome ↔ (report'.outcomes.get? kind).isSome :=
    (h.kinds kind).trans (h'.kinds kind).symm
  have hreports := h.outcomes kind
  have hreports' := h'.outcomes kind
  cases ho : report.outcomes.get? kind with
  | none =>
    cases ho' : report'.outcomes.get? kind with
    | none => rfl
    | some o' => simp [ho, ho'] at hkind
  | some o =>
    cases ho' : report'.outcomes.get? kind with
    | none => simp [ho, ho'] at hkind
    | some o' =>
      rw [ho] at hreports
      rw [ho'] at hreports'
      refine congrArg some (Dict.keys_eq_of_isSome fun fqn => Bool.eq_iff_iff.2 ?_)
      exact (hreports.contains_iff fqn).trans (hreports'.contains_iff fqn).symm

namespace Runner

/-- A run reports what the checks observe. -/
theorem follows_run (checks : List Check) (g : Glossary) (e : Exclusions) (s : Snapshot) :
    Report.Follows g e (run ⟨checks, g, e⟩ s) (Observation.failures checks s)
      (Observation.ofChecks checks s) := by
  have h := (Report.Follows.empty (g := g) (e := e)).steps checks checks s
  exact ⟨h.failures, h.kinds, h.outcomes⟩

/-- A run under suppression rules and one without rules have the same failures, the same kinds, and
of each kind the same objects. Without rules the findings of an object are those of all its issues;
under the rules they are those of its issues that the rules do not silence, in the same order, the
failures inside a check among them. -/
theorem run_eq_unsuppressed (checks : List Check) (g : Glossary) (e : Exclusions) (s : Snapshot) :
    let plain := run ⟨checks, g, .none⟩ s
    let suppressed := run ⟨checks, g, e⟩ s
    suppressed.failures = plain.failures ∧ suppressed.objects = plain.objects ∧
    ∀ kind fqn,
      let issues := (Observation.issues g kind (Observation.ofChecks checks s)).filter (·.fqn = fqn)
      plain.findings kind fqn = issues.map (·.finding) ∧
      suppressed.findings kind fqn = (issues.filter fun i => !i.silenced e).map (·.finding) ∧
      ∀ i ∈ issues, i.subject = none → i.finding ∈ suppressed.findings kind fqn := by
  intro plain suppressed
  have hplain := follows_run checks g .none s
  have hsuppressed := follows_run checks g e s
  refine ⟨hsuppressed.failures.trans hplain.failures.symm, hsuppressed.objects_eq hplain,
    fun kind fqn => ?_⟩
  intro issues
  have hkept : suppressed.findings kind fqn =
      (issues.filter fun i => !i.silenced e).map (·.finding) := by
    rw [hsuppressed.findings_eq, Issue.kept, List.filter_filter]
    simp [Bool.and_comm]
  refine ⟨?_, hkept, fun i hi hfailure => ?_⟩
  · rw [hplain.findings_eq, Issue.kept]
    simp [issues, Issue.silenced_none]
  · rw [hkept]
    refine List.mem_map_of_mem (List.mem_filter.2 ⟨hi, ?_⟩)
    rw [Issue.silenced, hfailure]
    rfl

end Runner

end ClusterAudit
