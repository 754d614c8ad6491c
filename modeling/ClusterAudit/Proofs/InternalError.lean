import ClusterAudit.Proofs.Absence
import ClusterAudit.Proofs.Failure
import ClusterAudit.Proofs.Fate

/-!
# Failures inside checks

Where all builtin kinds are registered and the glossary has all builtin codes, every table that a
builtin check asks for is there, and a collector takes each of its remarks. What is left to fail are
the verdicts on pods with unreadable quantities (`Resource.isUnreadable`), and such a failure is the
last finding that the check has of the pod: `Runner.internalErrors_run`.
-/

namespace ClusterAudit

/-- The codes under which builtin checks remark. -/
def Glossary.remarkCodes : List Code :=
  (builtinCodes.map (·.1)).filter (· ≠ internalError)

/-- The glossary has all builtin codes. -/
def Glossary.CoversBuiltin (g : Glossary) : Prop :=
  ∀ code ∈ builtinCodes.map (·.1), (g.severity? code).isSome

/-- The glossary has some codes. -/
def Glossary.Knows (g : Glossary) (codes : List Code) : Prop :=
  ∀ code ∈ codes, (g.severity? code).isSome

instance (g : Glossary) : Decidable g.CoversBuiltin :=
  inferInstanceAs (Decidable (∀ code ∈ Glossary.builtinCodes.map (·.1), (g.severity? code).isSome))

instance (g : Glossary) (codes : List Code) : Decidable (g.Knows codes) :=
  inferInstanceAs (Decidable (∀ code ∈ codes, (g.severity? code).isSome))

/-- A glossary with all builtin codes has those under which checks remark. -/
theorem Glossary.CoversBuiltin.knows {g : Glossary} (hg : g.CoversBuiltin) : g.Knows remarkCodes :=
  fun code hcode => hg code (List.mem_filter.1 hcode).1

/-- The builtin glossary has all builtin codes. -/
theorem Glossary.coversBuiltin_builtin : builtin.CoversBuiltin := by
  rw [CoversBuiltin]
  decide

/-- Of some findings the last is a failure inside a check if a condition holds, and no other is. -/
def Finding.EndInFailure (p : Bool) (fs : List Finding) : Prop :=
  ∃ rest, (∀ f ∈ rest, f.code ≠ some Glossary.internalError) ∧
    if p then ∃ last, last.code = some Glossary.internalError ∧ fs = rest ++ [last] else fs = rest

/-- A failure among them means that the condition holds. -/
theorem Finding.EndInFailure.eq_true {p : Bool} {fs : List Finding} (h : EndInFailure p fs)
    {f : Finding} (hf : f ∈ fs) (hcode : f.code = some Glossary.internalError) : p = true := by
  obtain ⟨rest, hrest, hp⟩ := h
  cases p with
  | true => rfl
  | false => exact absurd hcode (hrest f (hp ▸ hf))

/-! ## Taking remarks -/

namespace Collector

/-- A remark about a registered object under a known code is taken, and no object is registered or
forgotten with it. -/
theorem exists_take {c : Collector} {r : Remark} (hfqn : c.outcome.contains r.target.fqn)
    (hcode : (c.glossary.severity? r.code).isSome) :
    ∃ c', c.take r = .ok c' ∧ c'.glossary = c.glossary ∧
      ∀ fqn, c'.outcome.contains fqn = c.outcome.contains fqn := by
  obtain ⟨severity, hs⟩ := Option.isSome_iff_exists.1 hcode
  obtain ⟨message, hm⟩ := c.glossary.exists_render hcode r.args
  rw [take_eq, record, if_neg (by simp [hfqn]), hs, hm]
  dsimp only
  split
  · exact ⟨c, rfl, rfl, fun _ => rfl⟩
  · exact ⟨_, rfl, rfl, fun fqn => Outcome.contains_push _ _ _ fqn⟩

/-- Remarks about registered objects under known codes are all taken. -/
theorem refused_takeAll_eq_none {c : Collector} {remarks : List Remark}
    (h : ∀ r ∈ remarks, c.outcome.contains r.target.fqn ∧ (c.glossary.severity? r.code).isSome) :
    (c.takeAll remarks).2 = none := by
  induction remarks generalizing c with
  | nil => rfl
  | cons r rest ih =>
    obtain ⟨hfqn, hcode⟩ := h r List.mem_cons_self
    obtain ⟨c', htake, hglossary, hcontains⟩ := exists_take hfqn hcode
    rw [takeAll, htake]
    refine ih fun r' hr' => ?_
    rw [hcontains, hglossary]
    exact h r' (List.mem_cons_of_mem _ hr')

end Collector

/-- If each remark has an issue, none of them is refused. -/
theorem Remark.refused_issues_eq_none {g : Glossary} {registered : List Fqn} {l : List Remark}
    (h : ∀ r ∈ l, ∃ i, r.issue g registered = .ok i) : (issues g registered l).2 = none := by
  induction l with
  | nil => rfl
  | cons r rest ih =>
    obtain ⟨i, hi⟩ := h r List.mem_cons_self
    rw [issues, hi]
    exact ih fun r' hr' => h r' (List.mem_cons_of_mem _ hr')

namespace Verdict

section known
variable {g : Glossary} {t : Target} {v : Verdict} {codes : List Code} (hspeaks : v.Says t codes)
  (hg : g.Knows codes)
include hspeaks hg

/-- Remarks under known codes have a severity. -/
theorem Says.isSome_severity {r : Remark} (hr : r ∈ v.remarks) : (g.severity? r.code).isSome :=
  hg r.code (hspeaks r hr).2

/-- The verdict on a registered object reports its remarks, if their codes are known, and then its
failure. -/
theorem Says.issues_eq {registered : List Fqn} (ht : t.fqn ∈ registered) :
    v.issues g registered t = (Remark.issues g registered v.remarks).1 ++
      (v.failure.map fun e => .failure g t.fqn e.message).toList := by
  have hrefused : (Remark.issues g registered v.remarks).2 = none := by
    refine Remark.refused_issues_eq_none fun r hr => ?_
    obtain ⟨f, hf⟩ := Remark.exists_finding (hspeaks.isSome_severity hg hr)
    exact ⟨_, Remark.issue_eq ((hspeaks r hr).1 ▸ ht) hf⟩
  rw [issues]
  generalize Remark.issues g registered v.remarks = reported at hrefused ⊢
  obtain ⟨l, refused⟩ := reported
  cases hrefused
  rfl

end known

variable {g : Glossary} (hg : g.CoversBuiltin) {t : Target} {v : Verdict} {p : Bool}
  (hspeaks : v.Says t Glossary.remarkCodes)
include hg hspeaks

/-- A collector that visits the object takes all remarks of a builtin check. -/
theorem Says.refused_eq_none {c : Collector} (hc : c.glossary = g) :
    ((c.init t.fqn).takeAll v.remarks).2 = none := by
  refine Collector.refused_takeAll_eq_none fun r hr => ⟨?_, ?_⟩
  · rw [(hspeaks r hr).1]
    exact (Outcome.contains_init _ _ _).2 (.inr rfl)
  · show (c.glossary.severity? r.code).isSome
    rw [hc]
    exact hspeaks.isSome_severity hg.knows hr

/-- What it leaves of that object ends in a failure if the verdict fails. -/
theorem Says.endInFailure (hfails : v.Fails t p) (e : Exclusions) {registered : List Fqn}
    (ht : t.fqn ∈ registered) :
    Finding.EndInFailure p (Issue.kept e (v.issues g registered t) t.fqn) := by
  refine ⟨Issue.kept e (Remark.issues g registered v.remarks).1 t.fqn, fun f hf => ?_, ?_⟩
  · obtain ⟨i, hi, rfl⟩ := List.mem_map.1 hf
    obtain ⟨r, hr, hissue⟩ := Remark.exists_of_mem_issues (List.mem_filter.1 hi).1
    rw [Remark.code_of_finding (Remark.finding?_of_issue hissue)]
    have hcode := (List.mem_filter.1 (hspeaks r hr).2).2
    simpa using hcode
  · rw [hspeaks.issues_eq hg.knows ht, Reports.kept_append, ← hfails.isSome_eq]
    cases v.failure with
    | none => simp [Issue.kept]
    | some error =>
      refine ⟨(Issue.failure g t.fqn error.message).finding, rfl, ?_⟩
      simp [Issue.kept, Issue.failure, Issue.silenced]

end Verdict

/-! ## What builtin checks look at -/

/-- A verdict on an object of a name remarks on it under builtin codes, and fails exactly if the
object has unreadable quantities. -/
structure Verdict.Sound (x : Resource) (t : Target) (v : Verdict) : Prop where
  fqn : t.fqn = x.fqn
  remarks : v.Says t Glossary.remarkCodes
  fails : v.Fails t x.isUnreadable

/-- If a sound verdict reports a failure then its object has unreadable quantities. -/
theorem Verdict.Sound.isUnreadable {x : Resource} {t : Target} {v : Verdict} (h : v.Sound x t)
    {g : Glossary} (hg : g.CoversBuiltin) {registered : List Fqn} (ht : t.fqn ∈ registered)
    {i : Issue} (hi : i ∈ v.issues g registered t)
    (hcode : i.finding.code = some Glossary.internalError) : x.isUnreadable := by
  have hkept : i.finding ∈ Issue.kept .none (v.issues g registered t) t.fqn :=
    List.mem_map_of_mem (List.mem_filter.2
      ⟨hi, by simp [h.remarks.fqn_of_mem_issues hi, Issue.silenced_none]⟩)
  exact (h.remarks.endInFailure hg h.fails .none ht).eq_true hkept hcode

section checks
variable {s : Snapshot} (h : s.HasTables)
include h

/-- Sound verdicts on the records of a sort are on listed objects. -/
theorem Check.sound_onRecords (kind : Kind) (hkind : kind ∈ Kind.builtin) {α : Type}
    {as : Resource → Option α} {target : α → Target} {verdict : Target → α → Verdict}
    (hsound : ∀ x a, as x = some a → (verdict (target a) a).Sound x (target a)) :
    ∃ records l, s.scan kind = .ok records ∧ onRecords s kind as target verdict = .ok l ∧
      ∀ v ∈ l, ∃ x ∈ records, v.2.Sound x v.1 := by
  obtain ⟨table, ht⟩ := h.table_of_mem hkind
  have hscan : s.scan kind = .ok table.scan := map_eq_ok_iff.2 ⟨table, ht, rfl⟩
  refine ⟨table.scan, (table.scan.filterMap as).map fun a => (target a, verdict (target a) a), hscan,
    ?_, fun v hv => ?_⟩
  · rw [onRecords, Snapshot.scanAs, hscan]
    rfl
  · obtain ⟨a, ha, rfl⟩ := List.mem_map.1 hv
    obtain ⟨x, hx, has⟩ := List.mem_filterMap.1 ha
    exact ⟨x, hx, hsound x a has⟩

/-- The check of bindings gives sound verdicts. -/
theorem Check.sound_bindings {kind : Kind} (hkind : kind ∈ Kind.builtin) :
    ∃ records l, s.scan kind = .ok records ∧ (Check.bindings kind).look s = .ok l ∧
      ∀ v ∈ l, ∃ x ∈ records, v.2.Sound x v.1 := by
  obtain ⟨loaded, hloaded⟩ := h.isLoaded (by decide : Kind.serviceAccounts ∈ Kind.builtin)
  rw [look_bindings, hloaded]
  refine sound_onRecords h kind hkind fun x b hb => ⟨Resource.fqn_of_asRoleBinding hb,
    (RoleBindingCheck.says_verdict s loaded _ b).mono (by decide), ?_⟩
  have hreadable : x.isUnreadable = false := by cases x <;> cases hb <;> rfl
  rw [hreadable]
  exact Verdict.fails_of_none (RoleBindingCheck.tells_verdict h _ hloaded b).failure

/-- Every builtin check gives sound verdicts. -/
theorem Check.exists_sound {c : Check} (hc : c ∈ Runner.builtinChecks) :
    ∃ records l, s.scan c.kind = .ok records ∧ c.look s = .ok l ∧
      ∀ v ∈ l, ∃ x ∈ records, v.2.Sound x v.1 := by
  simp only [Runner.builtinChecks, List.mem_cons, List.not_mem_nil, or_false] at hc
  rcases hc with rfl | rfl | rfl | rfl | rfl
  · obtain ⟨loaded, hloaded⟩ := h.isLoaded (by decide : Kind.serviceAccounts ∈ Kind.builtin)
    rw [look_pods, hloaded]
    refine sound_onRecords h .pods (by decide) fun x p hp => ⟨Resource.fqn_of_asPod hp,
      (PodCheck.says_verdict s loaded _ p).mono (by decide), ?_⟩
    obtain rfl : x = .pod p := by cases x <;> cases hp; rfl
    exact PodCheck.fails_verdict _ h hloaded p
  · refine sound_onRecords h .services (by decide) fun x r hr =>
      ⟨Resource.fqn_of_asService hr, (ServiceCheck.says_verdict s _ r).mono (by decide), ?_⟩
    obtain rfl : x = .service r := by cases x <;> cases hr; rfl
    exact Verdict.fails_of_none (ServiceCheck.tells_verdict h _ r).failure
  · refine sound_onRecords h .networkPolicies (by decide) fun x p hp =>
      ⟨Resource.fqn_of_asNetworkPolicy hp,
        (NetworkPolicyCheck.says_verdict s _ p).mono (by decide), ?_⟩
    obtain rfl : x = .networkPolicy p := by cases x <;> cases hp; rfl
    exact Verdict.fails_of_none (NetworkPolicyCheck.tells_verdict h _ p).failure
  · exact sound_bindings h (by decide)
  · exact sound_bindings h (by decide)

end checks

/-! ## Runs -/

/-- Of an object that is looked at once all that is left is what the verdict on it leaves. -/
theorem Verdict.kept_issuesOfAll {l : List (Target × Verdict)}
    (hl : l.Pairwise fun v w => v.1.fqn ≠ w.1.fqn) (hspeaks : ∀ v ∈ l, ∃ codes, v.2.Says v.1 codes)
    {v : Target × Verdict} (hv : v ∈ l) (g : Glossary) (e : Exclusions) (registered : List Fqn) :
    ∃ others, v.1.fqn ∈ others ∧ Issue.kept e (issuesOfAll g registered l) v.1.fqn =
      Issue.kept e (v.2.issues g others v.1) v.1.fqn := by
  induction l generalizing registered with
  | nil => cases hv
  | cons w rest ih =>
    obtain ⟨hw, hrest⟩ := List.pairwise_cons.1 hl
    rw [issuesOfAll, Reports.kept_append]
    rcases List.mem_cons.1 hv with rfl | hv
    · have hnone : Issue.kept e (issuesOfAll g (registered ++ [v.1.fqn]) rest) v.1.fqn = [] := by
        rw [Issue.kept, List.map_eq_nil_iff, List.filter_eq_nil_iff]
        intro i hi
        obtain ⟨w, hmem, others, -, hi⟩ := exists_of_mem_issuesOfAll hi
        obtain ⟨codes, hw'⟩ := hspeaks w (List.mem_cons_of_mem _ hmem)
        simp [hw'.fqn_of_mem_issues hi, (hw w hmem).symm]
      rw [hnone, List.append_nil]
      exact ⟨_, List.mem_append_right _ List.mem_cons_self, rfl⟩
    · obtain ⟨codes, hw'⟩ := hspeaks w List.mem_cons_self
      rw [hw'.kept_eq_nil (hw v hv).symm, List.nil_append]
      exact ih hrest (fun v hv => hspeaks v (List.mem_cons_of_mem _ hv)) hv _

/-- What a collector has of an object that is looked at once is what the verdict on it leaves. -/
theorem Check.get?_collect_of_mem {l : List (Target × Verdict)}
    (hl : l.Pairwise fun v w => v.1.fqn ≠ w.1.fqn) (hspeaks : ∀ v ∈ l, ∃ codes, v.2.Says v.1 codes)
    {v : Target × Verdict} (hv : v ∈ l) (kind : Kind) (g : Glossary) (e : Exclusions) :
    ∃ registered, v.1.fqn ∈ registered ∧ (collect kind g e l).get? v.1.fqn =
      some (Issue.kept e (v.2.issues g registered v.1) v.1.fqn) := by
  obtain ⟨registered, hmem, hkept⟩ := Verdict.kept_issuesOfAll hl hspeaks hv g e []
  refine ⟨registered, hmem, ?_⟩
  rw [(reports_collect kind g e l).get?, if_pos (List.mem_map_of_mem hv), hkept]

/-- The listed objects are those that are found under their names. -/
theorem Snapshot.mem_scan_iff_get? {r : Registry} {log : List (List Change)} {s : Snapshot}
    (hs : s = .replay r log) {kind : Kind} {records : List Resource}
    (hscan : s.scan kind = .ok records) {x : Resource} :
    x ∈ records ↔ s.get? kind x.fqn = .ok (some x) := by
  rw [hs, scan_replay] at hscan
  rw [hs, get?_replay]
  split at hscan
  · rename_i hkind
    cases hscan
    rw [if_pos hkind, Table.mem_scan_ofRecords, Except.ok.injEq]
  · cases hscan

namespace Check

variable {r : Registry} {log : List (List Change)} {s : Snapshot} {c : Check} {g : Glossary}
  {e : Exclusions}

/-- A builtin check does not fail if the builtin kinds are registered. -/
theorem failure?_eq_none (hs : s = .replay r log) (hr : ∀ kind ∈ Kind.builtin, r.contains kind)
    (hc : c ∈ Runner.builtinChecks) : c.failure? s = none := by
  obtain ⟨b, hb⟩ := exists_builtin hc
  have hown : r.contains c.kind := hr _ (by rw [hb]; cases b <;> decide)
  have haccounts : r.contains .serviceAccounts := hr _ (by decide)
  have hregistry : s.registry = r := hs ▸ rfl
  rw [failure?, fate, hregistry, hown, haccounts]
  by_cases hloaded : s.isLoaded c.kind = .ok true <;> simp [hloaded]

/-- A builtin check registers the objects of its sort. -/
theorem exists_get?_run (hs : s = .replay r log) (hc : c ∈ Runner.builtinChecks) {b : Builtin}
    (hb : c.kind = b.kind) {o : Outcome} (ho : c.run g e s = .ok (some o)) {x : Resource}
    (hx : s.get? b.kind x.fqn = .ok (some x)) (hread : (b.read x).isSome) :
    ∃ fs, o.get? x.fqn = some fs := by
  have hrun := run_of_fate hs hc g e
  have hfate : c.fate s = .absorbed := by
    cases hfate : c.fate s <;> rw [hfate, ho] at hrun
    case failed => cases hrun
    case skipped => cases hrun
  rw [hfate] at hrun
  obtain ⟨b', o', hb', ho', hkeys⟩ := hrun
  obtain rfl : b' = b := Builtin.eq_of_kind (hb'.symm.trans hb)
  cases ho.symm.trans ho'
  have hscan : ∃ records, s.scan b'.kind = .ok records := by
    obtain ⟨table, ht, -⟩ := map_eq_ok_iff.1 hx
    exact ⟨table.scan, map_eq_ok_iff.2 ⟨table, ht, rfl⟩⟩
  obtain ⟨records, hscan⟩ := hscan
  have hmem : x ∈ records := (Snapshot.mem_scan_iff_get? hs hscan).2 hx
  rw [← Option.isSome_iff_exists, Outcome.get?, ← Dict.mem_keys_iff, hkeys, Snapshot.names, hscan]
  exact List.mem_map_of_mem (List.mem_filter.2 ⟨hmem, hread⟩)

/-- The findings that a builtin check has of an object end in a failure if the object has unreadable
quantities. -/
theorem endInFailure_run (hs : s = .replay r log) (h : s.HasTables) (hg : g.CoversBuiltin)
    (hc : c ∈ Runner.builtinChecks) {o : Outcome} (ho : c.run g e s = .ok (some o)) {x : Resource}
    (hx : s.get? c.kind x.fqn = .ok (some x)) {fs : List Finding} (hfs : o.get? x.fqn = some fs) :
    Finding.EndInFailure x.isUnreadable fs := by
  obtain ⟨b, hb⟩ := exists_builtin hc
  obtain ⟨records, l, hscan, hlook, hsound⟩ := exists_sound h hc
  -- every object is looked at once
  have hdistinct : l.Pairwise fun v w => v.1.fqn ≠ w.1.fqn := by
    obtain ⟨l', hlook', hnames⟩ := exists_look hc hb (hb ▸ hscan) fun _ => h.isLoaded (by decide)
    obtain rfl : l = l' := Except.ok.inj (hlook.symm.trans hlook')
    have hascending := ascending_names hs b
    rw [← hnames, List.pairwise_map] at hascending
    exact hascending.imp fun hlt heq => by simp [heq] at hlt
  obtain rfl : collect c.kind g e l = o := by
    rw [run_eq] at ho
    obtain ⟨observed, hobserve, ho⟩ := map_eq_ok_iff.1 ho
    obtain ⟨l', rfl, hl⟩ := Option.map_eq_some_iff.1 ho
    obtain rfl : l = l' := Except.ok.inj (hlook.symm.trans (look_of_observe hobserve))
    exact hl
  have hmem : x.fqn ∈ l.map (·.1.fqn) := by
    rw [← (reports_collect c.kind g e l).contains_iff, Outcome.contains_eq, hfs]
    rfl
  obtain ⟨v, hv, hfqn⟩ := List.mem_map.1 hmem
  obtain ⟨y, hy, hsound'⟩ := hsound v hv
  obtain rfl : y = x := by
    have hget := (Snapshot.mem_scan_iff_get? hs hscan).1 hy
    rw [← hsound'.fqn, hfqn, hx] at hget
    cases hget
    rfl
  obtain ⟨others, hothers, hget⟩ := get?_collect_of_mem hdistinct
    (fun w hw => (hsound w hw).elim fun _ hw => ⟨_, hw.2.remarks⟩) hv c.kind g e
  rw [hfqn, hfs] at hget
  rw [Option.some.inj hget, ← hfqn]
  exact hsound'.remarks.endInFailure hg hsound'.fails e hothers

end Check

namespace Runner

/-- A failure among the findings of a run is that of a pod with unreadable quantities. -/
theorem exists_pod_of_failure {r : Registry} {log : List (List Change)} {s : Snapshot}
    (hs : s = .replay r log) (htables : s.HasTables) (hkinds : s.KeepsKinds) {g : Glossary}
    (hg : g.CoversBuiltin) {e : Exclusions} {checks : List Check} (h : checks ⊆ builtinChecks)
    {kind : Kind} {fqn : Fqn} {f : Finding} (hf : f ∈ (run ⟨checks, g, e⟩ s).findings kind fqn)
    (hcode : f.code = some Glossary.internalError) :
    kind = .pods ∧ ∃ p, s.get? .pods fqn = .ok (some (.pod p)) ∧ p.isUnreadable := by
  rw [(follows_run checks g e s).findings_eq, Issue.kept] at hf
  obtain ⟨i, hi, rfl⟩ := List.mem_map.1 hf
  obtain ⟨hi, hkept⟩ := List.mem_filter.1 hi
  obtain ⟨o, ho, hi⟩ := List.mem_flatMap.1 hi
  obtain ⟨ho, hkind⟩ := List.mem_filter.1 ho
  obtain ⟨c, hc, hc', hobserve⟩ := Observation.mem_ofChecks_iff.1 ho
  obtain ⟨records, l, hscan, hlook, hsound⟩ := Check.exists_sound htables (h hc)
  obtain rfl : l = o.2 := Except.ok.inj (hlook.symm.trans (Check.look_of_observe hobserve))
  obtain ⟨v, hv, others, hothers, hi⟩ := Verdict.exists_of_mem_issuesOfAll hi
  obtain ⟨x, hx, hsound⟩ := hsound v hv
  have hunreadable : x.isUnreadable := hsound.isUnreadable hg hothers hi hcode
  obtain ⟨p, rfl⟩ : ∃ p, x = .pod p := by
    cases x with
    | pod p => exact ⟨p, rfl⟩
    | _ => cases hunreadable
  have hname : p.metadata.fqn = fqn := by
    rw [hsound.remarks.fqn_of_mem_issues hi, Bool.and_eq_true, decide_eq_true_eq] at hkept
    exact hsound.fqn.symm.trans hkept.1
  have hpods : c.kind = .pods := (hkinds c.kind records hscan (.pod p) hx).symm
  refine ⟨((hc'.trans (of_decide_eq_true hkind)).symm).trans hpods, p, ?_, hunreadable⟩
  have hget := (Snapshot.mem_scan_iff_get? hs hscan).1 hx
  rwa [hpods, show (Resource.pod p).fqn = fqn from hname] at hget

/-- Where the builtin kinds are registered and the glossary has the builtin codes, after every
schedule no builtin check of a run fails, collectors take all of its remarks, and nothing but the
shape of an object makes it fail on that object. The run has failures of pods with unreadable
quantities only, and each run of the check of pods has one of every such pod, as its last finding. -/
theorem internalErrors_run {r : Registry} (hr : ∀ kind ∈ Kind.builtin, r.contains kind)
    (schedule : Schedule) {g : Glossary} (hg : g.CoversBuiltin) (e : Exclusions)
    {checks : List Check} (h : checks ⊆ builtinChecks) :
    let s := (Schedule.reach r schedule).store.published
    let report := run ⟨checks, g, e⟩ s
    report.failures = [] ∧
    (∀ c ∈ checks, ∃ l, c.look s = .ok l ∧ ∀ v ∈ l,
      (∀ k : Collector, k.glossary = g → ((k.init v.1.fqn).takeAll v.2.remarks).2 = none) ∧
      ∀ error, v.2.failure = some error → ∃ text, error = .unexpectedShape v.1.fqn.text text) ∧
    (∀ kind fqn, ∀ f ∈ report.findings kind fqn, f.code = some Glossary.internalError →
      kind = .pods ∧ ∃ p, s.get? .pods fqn = .ok (some (.pod p)) ∧ p.isUnreadable) ∧
    ∀ p o, s.get? .pods p.metadata.fqn = .ok (some (.pod p)) →
      Check.pods.run g e s = .ok (some o) →
      ∃ fs, o.get? p.metadata.fqn = some fs ∧ Finding.EndInFailure p.isUnreadable fs := by
  intro s report
  have hs : s = .replay r (Schedule.committed r schedule) :=
    (Schedule.follows_run r schedule).published
  have htables : s.HasTables := hs ▸ Snapshot.hasTables_of_contains _ hr
  have hkinds : s.KeepsKinds := hs ▸ Snapshot.keepsKinds_replay _ r
  have hfollows := follows_run checks g e s
  refine ⟨?_, fun c hc => ?_, fun kind fqn f hf hcode => ?_, fun p o hp ho => ?_⟩
  · rw [hfollows.failures, Check.failures_eq hs h, List.filterMap_eq_nil_iff]
    exact fun c hc => Check.failure?_eq_none hs hr (h hc)
  · obtain ⟨records, l, -, hlook, hsound⟩ := Check.exists_sound htables (h hc)
    refine ⟨l, hlook, fun v hv => ?_⟩
    obtain ⟨x, -, hx⟩ := hsound v hv
    exact ⟨fun k hk => hx.remarks.refused_eq_none hg hk, hx.fails.shape⟩
  · exact exists_pod_of_failure hs htables hkinds hg h hf hcode
  · obtain ⟨fs, hfs⟩ := Check.exists_get?_run (b := .pods) hs (by simp [builtinChecks]) rfl ho
      (x := .pod p) hp rfl
    exact ⟨fs, hfs, Check.endInFailure_run hs htables hg (by simp [builtinChecks]) ho
      (x := .pod p) hp hfs⟩

/-- A client loads two pods, one of them with unreadable quantities. -/
def loadsUnreadable : Schedule :=
  [(0, .load .pods [.pod .unreadable, .pod (.ofMeta (.named "a" "y"))]), (0, .proceed),
   (0, .proceed), (0, .proceed)]

/-- The check of pods fails on the one and not on the other. -/
theorem internalErrors_run_unreadable :
    let s := (Schedule.reach .builtin loadsUnreadable).store.published
    (∀ kind ∈ Kind.builtin, Registry.builtin.contains kind) ∧ Glossary.builtin.CoversBuiltin ∧
    (run ⟨builtinChecks, .builtin, .none⟩ s).failures = [] ∧
    ∃ o, Check.pods.run .builtin .none s = .ok (some o) ∧
      (∃ fs, o.get? ⟨"a/x"⟩ = some fs ∧ Finding.EndInFailure true fs) ∧
      ∃ fs, o.get? ⟨"a/y"⟩ = some fs ∧ Finding.EndInFailure false fs := by
  intro s
  have hregistry : ∀ kind ∈ Kind.builtin, Registry.builtin.contains kind := by decide
  have hglossary := Glossary.coversBuiltin_builtin
  obtain ⟨hfailures, -, -, hpods⟩ := internalErrors_run hregistry loadsUnreadable hglossary .none
    (List.Subset.refl builtinChecks)
  obtain ⟨o, hrun⟩ : ∃ o, Check.pods.run .builtin .none s = .ok (some o) := ⟨_, rfl⟩
  have hunreadable := hpods .unreadable o (by decide) hrun
  have hreadable := hpods (.ofMeta (.named "a" "y")) o (by decide) hrun
  exact ⟨hregistry, hglossary, hfailures, o, hrun, hunreadable, hreadable⟩

end Runner

end ClusterAudit
