import ClusterAudit.Proofs.Suppression.Issues

/-!
# What a collector leaves out

A collector that takes verdicts reports their issues and leaves out the silenced ones, nothing else:
`Check.reports_collect`. Registration and refusals are decided before a suppression rule is asked,
so no rule has a say in them.
-/

namespace ClusterAudit

/-- A code is rendered if it has a severity. -/
theorem Glossary.render_eq_none_iff {g : Glossary} {code : Code} {args : List String} :
    g.render code args = none ↔ g.severity? code = none := by
  rw [render, severity?, Option.map_eq_none_iff, Option.map_eq_none_iff]

/-- A code with a severity is rendered. -/
theorem Glossary.exists_render {g : Glossary} {code : Code} (h : (g.severity? code).isSome)
    (args : List String) : ∃ message, g.render code args = some message := by
  rw [← Option.isSome_iff_exists, Option.isSome_iff_ne_none, ne_eq, render_eq_none_iff]
  exact Option.isSome_iff_ne_none.1 h

namespace Collector

/-- A collector with a glossary and suppression rules that reports issues. -/
structure Reporting (g : Glossary) (e : Exclusions) (c : Collector) (registered : List Fqn)
    (issues : List Issue) : Prop where
  glossary : c.glossary = g
  exclusions : c.exclusions = e
  reports : Reports e c.outcome registered issues

variable {g : Glossary} {e : Exclusions} {c : Collector} {registered : List Fqn}
  {issues : List Issue}

/-- A remark is recorded in its group, or that of the object as a whole. -/
theorem take_eq (c : Collector) (r : Remark) : c.take r =
    (c.record r.target r.code (r.group.getD rootGroup) r.subject r.args).map (·.1) := by
  obtain ⟨t, code, group, args⟩ := r
  cases group <;> rfl

/-- A remark is refused whatever the rules are, or recorded as its issue, or left out if that is
silenced. -/
theorem Reporting.take (h : Reporting g e c registered issues) (r : Remark) :
    match r.issue g registered with
    | .error refused => c.take r = .error refused
    | .ok i => ∃ c', c.take r = .ok c' ∧ Reporting g e c' registered (issues ++ [i]) := by
  rw [take_eq, record, h.glossary, h.exclusions, Remark.issue]
  have hcontains := h.reports.contains_iff r.target.fqn
  by_cases hmem : r.target.fqn ∈ registered
  · rw [if_neg (not_not_intro hmem), if_neg (by simp [hcontains.2 hmem])]
    cases hs : g.severity? r.code with
    | none => rfl
    | some severity =>
      obtain ⟨message, hm⟩ := g.exists_render (by rw [hs]; rfl) r.args
      rw [hm]
      dsimp only
      let i : Issue := ⟨r.target.fqn, some r.subject,
        ⟨r.group.getD rootGroup, severity, message, some r.code⟩⟩
      cases hsilenced : e.isExcluded r.subject with
      | true => exact ⟨c, rfl, h.glossary, h.exclusions, h.reports.skip (i := i) hmem hsilenced⟩
      | false => exact ⟨_, rfl, rfl, rfl, h.reports.push (i := i) hmem hsilenced⟩
  · rw [if_pos hmem, if_pos (by simpa using mt hcontains.1 hmem)]
    rfl

/-- Remarks are taken up to the first that is refused, whatever the rules are. -/
theorem Reporting.takeAll (h : Reporting g e c registered issues) (remarks : List Remark) :
    (c.takeAll remarks).2 = (Remark.issues g registered remarks).2 ∧
      Reporting g e (c.takeAll remarks).1 registered
        (issues ++ (Remark.issues g registered remarks).1) := by
  induction remarks generalizing c issues with
  | nil => exact ⟨rfl, by simpa [Collector.takeAll, Remark.issues] using h⟩
  | cons r rest ih =>
    have hr := h.take r
    rw [Collector.takeAll, Remark.issues]
    cases hi : r.issue g registered with
    | error refused =>
      rw [hi] at hr
      rw [hr]
      exact ⟨rfl, by simpa using h⟩
    | ok i =>
      rw [hi] at hr
      obtain ⟨c', hc', h'⟩ := hr
      rw [hc']
      simpa using ih h'

/-- A failure is recorded and registers its object, whatever the rules are. -/
theorem Reporting.addError (h : Reporting g e c registered issues) (t : Target) (text : String) :
    Reporting g e (c.addError t text) (registered ++ [t.fqn])
      (issues ++ [.failure g t.fqn text]) := by
  refine ⟨h.glossary, h.exclusions, ?_⟩
  rw [← h.glossary]
  exact (h.reports.init t.fqn).push (i := .failure c.glossary t.fqn text)
    (List.mem_append_right _ List.mem_cons_self) rfl

/-- Registering an object once more changes nothing. -/
theorem Reporting.of_registered_twice {fqn : Fqn}
    (h : Reporting g e c (registered ++ [fqn] ++ [fqn]) issues) :
    Reporting g e c (registered ++ [fqn]) issues := by
  have hmem : ∀ f, f ∈ registered ++ [fqn] ++ [fqn] ↔ f ∈ registered ++ [fqn] := by simp
  exact ⟨h.glossary, h.exclusions, fun i hi => (hmem i.fqn).1 (h.reports.registered_of_mem i hi),
    fun f => by simpa only [hmem] using h.reports.get? f⟩

/-- A visit registers the object and reports the issues of the verdict on it. -/
theorem Reporting.visit (h : Reporting g e c registered issues) (t : Target) (v : Verdict) :
    Reporting g e (c.visit t v) (registered ++ [t.fqn])
      (issues ++ v.issues g (registered ++ [t.fqn]) t) := by
  have hinit : Reporting g e (c.init t.fqn) (registered ++ [t.fqn]) issues :=
    ⟨h.glossary, h.exclusions, h.reports.init t.fqn⟩
  obtain ⟨hrefused, htaken⟩ := hinit.takeAll v.remarks
  rw [Collector.visit, Verdict.issues]
  generalize (c.init t.fqn).takeAll v.remarks = taken at hrefused htaken ⊢
  generalize Remark.issues g (registered ++ [t.fqn]) v.remarks = reported at hrefused htaken ⊢
  obtain ⟨c', refused⟩ := taken
  obtain ⟨more, refused'⟩ := reported
  obtain rfl : refused = refused' := hrefused
  cases refused with
  | some error =>
    simpa using (htaken.addError t (AuditError.issue error).message).of_registered_twice
  | none =>
    cases v.failure with
    | none => simpa using htaken
    | some error => simpa using (htaken.addError t error.message).of_registered_twice

/-- Visits register their objects and report the issues of the verdicts. -/
theorem Reporting.visitAll (h : Reporting g e c registered issues)
    (verdicts : List (Target × Verdict)) :
    Reporting g e (verdicts.foldl (fun c v => c.visit v.1 v.2) c)
      (registered ++ verdicts.map (·.1.fqn))
      (issues ++ Verdict.issuesOfAll g registered verdicts) := by
  induction verdicts generalizing c registered issues with
  | nil => simpa [Verdict.issuesOfAll] using h
  | cons v rest ih => simpa [Verdict.issuesOfAll] using ih (h.visit v.1 v.2)

end Collector

/-- The outcome of a check registers the objects it gave a verdict on and holds their issues, in
order, with exactly the silenced ones left out. -/
theorem Check.reports_collect (kind : Kind) (g : Glossary) (e : Exclusions)
    (verdicts : List (Target × Verdict)) :
    Reports e (collect kind g e verdicts) (verdicts.map (·.1.fqn))
      (Verdict.issuesOfAll g [] verdicts) := by
  have h : Collector.Reporting g e (.create kind g e) [] [] := ⟨rfl, rfl, .empty⟩
  rw [collect]
  simpa using (h.visitAll verdicts).reports

end ClusterAudit
