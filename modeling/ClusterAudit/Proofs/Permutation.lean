import ClusterAudit.Check.Scripted
import ClusterAudit.Proofs.Counting
import ClusterAudit.Proofs.Outcome.Standing
import ClusterAudit.Proofs.Store.Replay
import ClusterAudit.Proofs.Suppression.Removal
import Mathlib.Data.List.Perm.Basic

/-!
# Checks in another order

A run reports what its checks observe, so the order of the checks shows in the order of failures and
in the order of the findings of an object, and nowhere else: `Runner.run_perm`. Reports of the same
observations in two orders are `Report.Rearranged`; what is counted or rolled up does not tell such
reports apart, since the most serious of some findings does not depend on their order.
-/

namespace ClusterAudit

/-! ## Rearranged outcomes -/

/-- The most serious severity of some findings does not depend on their order. -/
theorem Finding.worst_perm {l l' : List Finding} (h : l.Perm l') : worst l = worst l' :=
  (h.map _).foldl_op_eq

/-- Two outcomes register the same objects and have the same findings of each, in some order. -/
def Outcome.Rearranged (o o' : Outcome) : Prop :=
  ∀ fqn, Option.Rel List.Perm (o.get? fqn) (o'.get? fqn)

namespace Outcome.Rearranged

variable {o o' : Outcome}

/-- The same objects are registered. -/
theorem keys_eq (h : o.Rearranged o') : o.objects.keys = o'.objects.keys := by
  refine Dict.keys_eq_of_isSome fun fqn => ?_
  have hfqn := h fqn
  rw [get?, get?] at hfqn
  generalize o.objects.get? fqn = x, o'.objects.get? fqn = y at hfqn ⊢
  cases hfqn with
  | none => rfl
  | some _ => rfl

/-- What does not depend on the order of findings is the same of every object. -/
theorem map_eq {α : Type} {f : List Finding → α} (h : o.Rearranged o')
    (hf : ∀ l l', l.Perm l' → f l = f l') : o.objects.map f = o'.objects.map f :=
  Dict.map_eq_of_rel h hf

/-- As many objects have a most serious finding of each severity. -/
theorem severityRollup_eq (h : o.Rearranged o') : o.severityRollup = o'.severityRollup := by
  have hrollup : ∀ o : Outcome, o.severityRollup =
      (o.objects.map Finding.worst).foldl (fun t _ severity => t.add severity 1) ∅ :=
    fun o => by rw [Dict.foldl_map, severityRollup]
  rw [hrollup, hrollup, h.map_eq fun _ _ => Finding.worst_perm]

/-- Every code occurs as often. -/
theorem occurrences_eq (h : o.Rearranged o') (space : String) (code : Code) :
    o.occurrences space code = o'.occurrences space code := by
  have hoccurrences : ∀ o : Outcome, o.occurrences space code =
      (o.objects.map fun fs => fs.countP (·.code = some code)).sum fun fqn n =>
        if fqn.space = space then n else 0 :=
    fun o => by rw [Dict.sum_map, occurrences]
  rw [hoccurrences, hoccurrences, h.map_eq fun _ _ hl => hl.countP_eq _]

end Outcome.Rearranged

/-! ## Rearranged reports -/

/-- Two reports list the same kinds and for each of them the same objects with the same findings, in
some order. -/
def Report.Rearranged (r r' : Report) : Prop :=
  ∀ kind, Option.Rel Outcome.Rearranged (r.outcomes.get? kind) (r'.outcomes.get? kind)

namespace Report.Rearranged

variable {r r' : Report}

/-- The outcomes of a kind, empty ones if there are none, are rearranged. -/
theorem outcome (h : r.Rearranged r') (kind : Kind) :
    ((r.outcomes.get? kind).getD ∅).Rearranged ((r'.outcomes.get? kind).getD ∅) := by
  have hkind := h kind
  generalize r.outcomes.get? kind = x, r'.outcomes.get? kind = y at hkind ⊢
  cases hkind with
  | none => exact fun _ => .none
  | some ho => exact ho

/-- The findings of an object are the same in some order. -/
theorem findings_perm (h : r.Rearranged r') (kind : Kind) (fqn : Fqn) :
    (r.findings kind fqn).Perm (r'.findings kind fqn) := by
  have hfqn := h.outcome kind fqn
  rw [findings, findings]
  generalize ((r.outcomes.get? kind).getD ∅).get? fqn = x,
    ((r'.outcomes.get? kind).getD ∅).get? fqn = y at hfqn ⊢
  cases hfqn with
  | none => exact .nil
  | some hl => exact hl

/-- The same objects are listed. -/
theorem objects_eq (h : r.Rearranged r') : r.objects = r'.objects :=
  Dict.map_eq_of_rel h fun _ _ => Outcome.Rearranged.keys_eq

/-- The objects of a kind are rolled up alike. -/
theorem severityRollup_eq (h : r.Rearranged r') (kind : Kind) :
    r.severityRollup kind = r'.severityRollup kind := by
  have hmap := Dict.map_eq_of_rel h fun _ _ => Outcome.Rearranged.severityRollup_eq
  rw [severityRollup, severityRollup, ← Dict.get?_map, ← Dict.get?_map, hmap]

/-- All objects are rolled up alike. -/
theorem totalRollup_eq (h : r.Rearranged r') : r.totalRollup = r'.totalRollup := by
  have hrollup : ∀ r : Report, r.totalRollup =
      (r.outcomes.map Outcome.severityRollup).foldl (fun total _ t => total.merge t) ∅ :=
    fun r => by rw [Dict.foldl_map, totalRollup]
  rw [hrollup, hrollup, Dict.map_eq_of_rel h fun _ _ => Outcome.Rearranged.severityRollup_eq]

/-- Every code occurs as often. -/
theorem occurrences_eq (h : r.Rearranged r') (kind : Kind) (space : String) (code : Code) :
    r.occurrences kind space code = r'.occurrences kind space code :=
  (h.outcome kind).occurrences_eq space code

/-- If both count what occurs, their tallies are the same once they are compacted. -/
theorem compact_eq (h : r.Rearranged r') (hr : r.Counted) (hr' : r'.Counted) :
    r.tally.compact = r'.tally.compact :=
  KindTally.compact_eq_of_count fun kind space code => by
    rw [hr, hr', h.occurrences_eq]

end Report.Rearranged

/-! ## Observations in another order -/

section observations
variable {g : Glossary} {e : Exclusions} {seen seen' : List Observation} {kind : Kind}

/-- The same objects are observed, in some order. -/
theorem Observation.registered_perm (h : seen.Perm seen') (kind : Kind) :
    (registered kind seen).Perm (registered kind seen') :=
  (h.filter _).flatMap_right _

/-- The same issues are reported, in some order. -/
theorem Observation.issues_perm (g : Glossary) (h : seen.Perm seen') (kind : Kind) :
    (issues g kind seen).Perm (issues g kind seen') :=
  (h.filter _).flatMap_right _

/-- Of issues in some order the same ones are left. -/
theorem Issue.kept_perm {l l' : List Issue} (h : l.Perm l') (e : Exclusions) (fqn : Fqn) :
    (kept e l fqn).Perm (kept e l' fqn) :=
  (h.filter _).map _

/-- Reports that follow the same observations in two orders are rearranged. -/
theorem Report.Follows.rearranged {r r' : Report} {failed failed' : List CheckFailure}
    (h : r.Follows g e failed seen) (h' : r'.Follows g e failed' seen') (hseen : seen.Perm seen') :
    r.Rearranged r' := by
  intro kind
  have hkinds : (r.outcomes.get? kind).isSome ↔ (r'.outcomes.get? kind).isSome := by
    rw [h.kinds, h'.kinds, (hseen.map _).mem_iff]
  have hreports := h.outcomes kind
  have hreports' := h'.outcomes kind
  cases ho : r.outcomes.get? kind with
  | none =>
    cases ho' : r'.outcomes.get? kind with
    | none => exact .none
    | some o' => simp [ho, ho'] at hkinds
  | some o =>
    cases ho' : r'.outcomes.get? kind with
    | none => simp [ho, ho'] at hkinds
    | some o' =>
      rw [ho] at hreports
      rw [ho'] at hreports'
      refine .some fun fqn => ?_
      have hmem := (Observation.registered_perm hseen kind).mem_iff (a := fqn)
      have hget := hreports.get? fqn
      have hget' := hreports'.get? fqn
      rw [Option.getD_some] at hget hget'
      rw [hget, hget']
      by_cases hfqn : fqn ∈ Observation.registered kind seen
      · rw [if_pos hfqn, if_pos (hmem.1 hfqn)]
        exact .some (Issue.kept_perm (Observation.issues_perm g hseen kind) e fqn)
      · rw [if_neg hfqn, if_neg (mt hmem.2 hfqn)]
        exact .none

end observations

/-! ## Runs -/

/-- Whether a run adds an outcome of the check. -/
def Check.isAbsorbed (c : Check) (g : Glossary) (e : Exclusions) (s : Snapshot) : Bool :=
  match c.run g e s with
  | .ok (some _) => true
  | _ => false

namespace Runner

/-- The checks whose outcomes a run adds to that of a kind, in their order. -/
def absorbed (r : Runner) (s : Snapshot) (kind : Kind) : List Check :=
  r.checks.filter fun c => c.kind = kind && c.isAbsorbed r.glossary r.exclusions s

/-- What is observed of a kind is what the absorbed checks observe. -/
theorem filter_ofChecks (r : Runner) (s : Snapshot) (kind : Kind) :
    (Observation.ofChecks r.checks s).filter (·.1 = kind) =
      Observation.ofChecks (r.absorbed s kind) s := by
  obtain ⟨checks, g, e⟩ := r
  show (Observation.ofChecks checks s).filter (·.1 = kind) =
    Observation.ofChecks (checks.filter fun c => c.kind = kind && c.isAbsorbed g e s) s
  rw [Observation.ofChecks, Observation.ofChecks, List.filter_filterMap, List.filterMap_filter]
  refine List.filterMap_congr fun c _ => ?_
  rw [Check.isAbsorbed, Check.run_eq]
  cases c.observe s with
  | error error => simp [Except.map]
  | ok observed =>
    cases observed with
    | none => simp [Except.map]
    | some verdicts => by_cases hk : c.kind = kind <;> simp [Except.map, hk, Option.filter]

/-- If two runs absorb the same checks of a kind in the same order, the objects of that kind have the
same findings in the same order. -/
theorem findings_eq_of_absorbed {checks checks' : List Check} {g : Glossary} {e : Exclusions}
    {s : Snapshot} {kind : Kind}
    (h : absorbed ⟨checks, g, e⟩ s kind = absorbed ⟨checks', g, e⟩ s kind) (fqn : Fqn) :
    (run ⟨checks, g, e⟩ s).findings kind fqn = (run ⟨checks', g, e⟩ s).findings kind fqn := by
  have hissues : ∀ checks, Observation.issues g kind (Observation.ofChecks checks s) =
      (Observation.ofChecks (absorbed ⟨checks, g, e⟩ s kind) s).flatMap fun o =>
        Verdict.issuesOfAll g [] o.2 :=
    fun checks => congrArg _ (filter_ofChecks ⟨checks, g, e⟩ s kind)
  rw [(follows_run checks g e s).findings_eq, (follows_run checks' g e s).findings_eq, hissues,
    hissues, h]

/-- Runs of the same checks in two orders have the same tally, the same kinds, of each kind the same
objects, and roll them up alike. Every object has the same findings in some order, and in the same
order if the absorbed checks of its kind are; the same checks failed, in some order. -/
theorem run_perm {checks checks' : List Check} (h : checks.Perm checks') (g : Glossary)
    (e : Exclusions) (s : Snapshot) :
    let a := run ⟨checks, g, e⟩ s
    let b := run ⟨checks', g, e⟩ s
    a.tally = b.tally ∧ a.objects = b.objects ∧
    (∀ kind, a.severityRollup kind = b.severityRollup kind) ∧ a.totalRollup = b.totalRollup ∧
    (∀ kind fqn, (a.findings kind fqn).Perm (b.findings kind fqn)) ∧
    (∀ kind, absorbed ⟨checks, g, e⟩ s kind = absorbed ⟨checks', g, e⟩ s kind →
      ∀ fqn, a.findings kind fqn = b.findings kind fqn) ∧
    a.failures.Perm b.failures := by
  intro a b
  have ha := follows_run checks g e s
  have hb := follows_run checks' g e s
  have hseen : (Observation.ofChecks checks s).Perm (Observation.ofChecks checks' s) :=
    h.filterMap _
  have hrearranged : a.Rearranged b := ha.rearranged hb hseen
  -- before compaction the reports have the same outcomes
  let full := checks.foldl (step ⟨checks, g, e⟩ s) .empty
  let full' := checks'.foldl (step ⟨checks', g, e⟩ s) .empty
  have hfull : full.Rearranged full' := hrearranged
  have htally : a.tally = b.tally :=
    hfull.compact_eq (Report.counted_empty.steps _ s checks)
      (Report.counted_empty.steps _ s checks')
  refine ⟨htally, hrearranged.objects_eq, hrearranged.severityRollup_eq,
    hrearranged.totalRollup_eq, hrearranged.findings_perm,
    fun kind => findings_eq_of_absorbed, ?_⟩
  rw [ha.failures, hb.failures]
  exact h.filterMap _

/-- A check that remarks on every pod under a code, if it can run: the kinds it needs must be
registered. -/
def remarking (name : String) (code : Code) (requires : List Kind) : Check :=
  Script.check ⟨.pods, name, .empty, code, [], none, [], none, requires⟩

/-- Two checks that remark on pods and two that cannot run. -/
def remarkingChecks : List Check :=
  [remarking "a" 100 [], remarking "b" 101 [], remarking "c" 100 [⟨"nodes"⟩],
   remarking "d" 100 [⟨"nodes"⟩]]

/-- In reverse these checks find and fail in another order, and count and roll up the same. -/
theorem run_perm_reverse :
    let s := Snapshot.replay .builtin [Change.ofLoad .pods [.pod (.ofMeta (.named "a" "x"))]]
    let a := run ⟨remarkingChecks, .builtin, .none⟩ s
    let b := run ⟨remarkingChecks.reverse, .builtin, .none⟩ s
    remarkingChecks.Perm remarkingChecks.reverse ∧
    (a.findings .pods ⟨"a/x"⟩).length = 2 ∧
    a.findings .pods ⟨"a/x"⟩ ≠ b.findings .pods ⟨"a/x"⟩ ∧ a.failures ≠ b.failures ∧
    a.tally = b.tally ∧ a.objects = b.objects ∧
    (∀ kind, a.severityRollup kind = b.severityRollup kind) ∧ a.totalRollup = b.totalRollup ∧
    (∀ kind fqn, (a.findings kind fqn).Perm (b.findings kind fqn)) ∧
    (∀ kind, absorbed ⟨remarkingChecks, .builtin, .none⟩ s kind =
        absorbed ⟨remarkingChecks.reverse, .builtin, .none⟩ s kind →
      ∀ fqn, a.findings kind fqn = b.findings kind fqn) ∧
    a.failures.Perm b.failures := by
  intro s a b
  have hperm : remarkingChecks.Perm remarkingChecks.reverse := (List.reverse_perm _).symm
  exact ⟨hperm, by decide, by decide, by decide, run_perm hperm .builtin .none s⟩

end Runner

end ClusterAudit
