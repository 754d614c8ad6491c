import ClusterAudit.Proofs.Containment
import ClusterAudit.Proofs.Reference

/-!
# Unloaded tables are not empty ones

A table that was not loaded says nothing of what there is. A check respects that for a kind
(`Check.SparesUnknown`) if every finding that nothing is there is that of a reference which does not
point into the table of the kind, unless the table is loaded. The builtin checks do so for every
kind but pods: services and policies, and the peers of policies, are said to have no pods also where
pods were never loaded (`Schedule.sparesUnknown_iff`).
-/

namespace ClusterAudit

/-! ## Findings of absence -/

/-- Whether the finding is that nothing is there. -/
def Finding.isAbsence (x : Finding) : Bool := x.code.any (· ∈ Reference.codes)

/-- The finding that is made of a remark; none under a code without severity or wording. -/
def Remark.finding? (g : Glossary) (r : Remark) : Option Finding :=
  match g.severity? r.code, g.render r.code r.args with
  | some severity, some message => some ⟨r.group.getD rootGroup, severity, message, some r.code⟩
  | _, _ => none

namespace Reference

/-- The finding that nothing is there. -/
def finding? (g : Glossary) (s : Snapshot) (ref : Reference) : Option Finding :=
  match g.severity? ref.code, g.render ref.code (ref.args s) with
  | some severity, some message => some ⟨rootGroup, severity, message, some ref.code⟩
  | _, _ => none

/-- Whether the reference does not depend on a kind that is not loaded. -/
def spares (s : Snapshot) (kind : Kind) (ref : Reference) : Bool :=
  kind ∉ ref.kinds s.registry || (s.isLoaded kind).toOption == some true

end Reference

/-- The references of the objects of a kind under a name. -/
def Snapshot.references (s : Snapshot) (kind : Kind) (fqn : Fqn) : List Reference :=
  (((s.scan kind).toOption.getD []).filter (·.fqn = fqn)).flatMap Resource.references

/-- Whatever the glossary and the suppression rules are, the findings of an object that nothing is
there are those of some of its references, in order and each of a reference of its own, and none of
these points into the table of a kind if that table is not loaded. -/
def Check.SparesUnknown (c : Check) (kind : Kind) (s : Snapshot) : Prop :=
  ∀ g e o, (c.look s).map (collect c.kind g e) = .ok o → ∀ fqn,
    (((o.get? fqn).getD []).filter (·.isAbsence)).Sublist
      (((s.references c.kind fqn).filter (·.spares s kind)).filterMap (·.finding? g s))

section issues
variable {g : Glossary} {e : Exclusions} {registered : List Fqn} {t : Target} {v : Verdict}
  {r : Remark} {i : Issue}

/-- The issue of a remark has the finding that is made of the remark. -/
theorem Remark.finding?_of_issue (h : r.issue g registered = .ok i) :
    r.finding? g = some i.finding := by
  rw [issue] at h
  rw [finding?]
  split at h
  · cases h
  · split at h
    · cases h
      simp_all
    · cases h

/-- The finding that is made of a remark has its code. -/
theorem Remark.code_of_finding {f : Finding} (h : r.finding? g = some f) :
    f.code = some r.code := by
  rw [finding?] at h
  split at h
  · rw [← Option.some.inj h]
  · cases h

/-- A remark of absence leads to a finding of absence. -/
theorem Remark.isAbsence_of_finding {f : Finding} (h : r.finding? g = some f) :
    f.isAbsence = decide (r.code ∈ Reference.codes) := by
  rw [Finding.isAbsence, code_of_finding h]
  rfl

/-- Remarks lead to no other findings of absence than those of remarks of absence. -/
theorem Remark.filter_issues_sublist (l : List Remark) :
    (((issues g registered l).1.map (·.finding)).filter (·.isAbsence)).Sublist
      ((l.filter (·.code ∈ Reference.codes)).filterMap (·.finding? g)) := by
  induction l with
  | nil => exact .slnil
  | cons r rest ih =>
    rw [issues]
    cases hr : r.issue g registered with
    | error refused => exact List.nil_sublist _
    | ok i =>
      have hfinding := finding?_of_issue hr
      have habsence := isAbsence_of_finding hfinding
      by_cases hcode : r.code ∈ Reference.codes
      · rw [List.filter_cons_of_pos (by simpa using hcode), List.filterMap_cons_some hfinding]
        simpa [habsence, hcode] using ih
      · rw [List.filter_cons_of_neg (by simpa using hcode)]
        simpa [habsence, hcode] using ih

/-- A verdict leads to no other findings of absence than those of its remarks of absence. -/
theorem Verdict.filter_kept_sublist (g : Glossary) (e : Exclusions) (registered : List Fqn)
    (t : Target) (v : Verdict) (fqn : Fqn) :
    ((Issue.kept e (v.issues g registered t) fqn).filter (·.isAbsence)).Sublist
      (v.absences.filterMap (·.finding? g)) := by
  have hkept : (Issue.kept e (v.issues g registered t) fqn).Sublist
      ((v.issues g registered t).map (·.finding)) := List.filter_sublist.map _
  have hissues : ((v.issues g registered t).map (·.finding)).filter (·.isAbsence) =
      ((Remark.issues g registered v.remarks).1.map (·.finding)).filter (·.isAbsence) := by
    have hfailure : ∀ text, (Issue.failure g t.fqn text).finding.isAbsence = false := fun _ => rfl
    rw [issues]
    generalize Remark.issues g registered v.remarks = reported
    obtain ⟨l, refused⟩ := reported
    cases refused with
    | some error => simp [hfailure]
    | none => cases v.failure <;> simp [hfailure]
  have h := hkept.filter Finding.isAbsence
  rw [hissues] at h
  exact h.trans (Remark.filter_issues_sublist _)

/-- If no remark is refused, each of them is reported. -/
theorem Remark.mem_issues {l : List Remark} (h : ∀ r ∈ l, ∃ i, r.issue g registered = .ok i)
    (hr : r ∈ l) (hi : r.issue g registered = .ok i) : i ∈ (issues g registered l).1 := by
  induction l with
  | nil => cases hr
  | cons r' rest ih =>
    obtain ⟨i', hi'⟩ := h r' List.mem_cons_self
    rw [issues, hi']
    rcases List.mem_cons.1 hr with rfl | hr
    · rw [hi] at hi'
      cases hi'
      exact List.mem_cons_self
    · exact List.mem_cons_of_mem _ (ih (fun r hr => h r (List.mem_cons_of_mem _ hr)) hr)

/-- What the remarks of a verdict report is reported by the verdict. -/
theorem Verdict.mem_issues_of_remarks (h : i ∈ (Remark.issues g registered v.remarks).1) :
    i ∈ v.issues g registered t := by
  rw [issues]
  generalize Remark.issues g registered v.remarks = reported at h ⊢
  obtain ⟨l, refused⟩ := reported
  cases refused with
  | some error => exact List.mem_append_left _ h
  | none => exact List.mem_append_left _ h

/-- What a verdict reports about an object that is registered is reported by all verdicts. -/
theorem Verdict.mem_issuesOfAll {l : List (Target × Verdict)} (hv : (t, v) ∈ l)
    (hi : ∀ registered, t.fqn ∈ registered → i ∈ v.issues g registered t) :
    i ∈ issuesOfAll g registered l := by
  induction l generalizing registered with
  | nil => cases hv
  | cons w rest ih =>
    rw [issuesOfAll]
    rcases List.mem_cons.1 hv with rfl | hv
    · exact List.mem_append_left _ (hi _ (List.mem_append_right _ List.mem_cons_self))
    · exact List.mem_append_right _ (ih hv)

end issues

/-! ## Verdicts on stored objects -/

/-- A verdict on a stored object speaks of it alone, under builtin codes, and says of exactly the
missing ones of its references that nothing is there. -/
structure Verdict.Judges (s : Snapshot) (x : Resource) (t : Target) (v : Verdict) : Prop where
  fqn : t.fqn = x.fqn
  absences : v.absences = (x.references.filter (·.missing s)).map (·.remark s t)
  known : ∃ codes, v.Says t codes ∧ ∀ code ∈ codes, (Glossary.builtin.severity? code).isSome

/-- A check looks at some of the listed objects of its kind, and judges these; the others have no
references. -/
structure Check.Judging (c : Check) (s : Snapshot) (records : List Resource)
    (view : Resource → Option (Target × Verdict)) : Prop where
  scan : s.scan c.kind = .ok records
  look : c.look s = .ok (records.filterMap view)
  ignored : ∀ x ∈ records, view x = none → x.references = []
  judged : ∀ x ∈ records, ∀ t v, view x = some (t, v) → v.Judges s x t

/-- The tables of a snapshot list objects of their kinds only. -/
def Snapshot.KeepsKinds (s : Snapshot) : Prop :=
  ∀ kind records, s.scan kind = .ok records → ∀ x ∈ records, x.kind = kind

/-- An object of a builtin kind that cannot be read as a record of it has no references. -/
theorem Builtin.references_eq_nil {b : Builtin} {x : Resource} (hkind : x.kind = b.kind)
    (hread : b.read x = none) : x.references = [] := by
  rcases sort_of_kind hkind with hsort | ⟨c, rfl⟩
  · have hsome := isSome_read_of_sort hsort
    rw [hread] at hsome
    cases hsome
  · rfl

section judging
variable {s : Snapshot} (h : s.HasTables) (hkinds : s.KeepsKinds)
include h hkinds

/-- Verdicts on the records of a sort judge the objects of the kind. -/
theorem Check.judging_onRecords {c : Check} (hc : c.kind ∈ Kind.builtin) {α : Type}
    {as : Resource → Option α} {target : α → Target} {verdict : Target → α → Verdict}
    (hlook : c.look s = onRecords s c.kind as target verdict)
    (has : ∀ x, x.kind = c.kind → as x = none → x.references = [])
    (hjudges : ∀ x a, as x = some a → (verdict (target a) a).Judges s x (target a)) :
    ∃ records view, c.Judging s records view := by
  obtain ⟨table, ht⟩ := h.table_of_mem hc
  have hscan : s.scan c.kind = .ok table.scan := map_eq_ok_iff.2 ⟨table, ht, rfl⟩
  refine ⟨table.scan, fun x => (as x).map fun a => (target a, verdict (target a) a), hscan, ?_,
    fun x hx hnone => ?_, fun x hx t v hv => ?_⟩
  · rw [hlook, onRecords, Snapshot.scanAs, hscan]
    exact congrArg Except.ok (List.map_filterMap ..)
  · exact has x (hkinds c.kind _ hscan x hx) (Option.map_eq_none_iff.1 hnone)
  · obtain ⟨a, ha, heq⟩ := Option.map_eq_some_iff.1 hv
    cases heq
    exact hjudges x a ha

/-- The check of bindings judges those of a kind of bindings. -/
theorem Check.judging_bindings {kind : Kind} (hkind : kind ∈ Kind.builtin)
    (has : ∀ x : Resource, x.kind = kind → x.asRoleBinding = none → x.references = []) :
    ∃ records view, (Check.bindings kind).Judging s records view := by
  obtain ⟨loaded, hloaded⟩ := h.isLoaded (by decide : Kind.serviceAccounts ∈ Kind.builtin)
  have hlook : (Check.bindings kind).look s = onRecords s kind Resource.asRoleBinding
      (RoleBindingCheck.target kind) (RoleBindingCheck.verdict s loaded) := by
    rw [look_bindings, hloaded]
    rfl
  refine judging_onRecords h hkinds hkind hlook has fun x b hb =>
    ⟨Resource.fqn_of_asRoleBinding hb, ?_, _, RoleBindingCheck.says_verdict s loaded _ b, by decide⟩
  have hreferences : x.references = RoleBindingCheck.references b := by
    cases x <;> cases hb <;> rfl
  rw [hreferences]
  exact (RoleBindingCheck.tells_verdict h _ hloaded b).absences

/-- Every builtin check judges the objects of its kind. -/
theorem Check.exists_judging {c : Check} (hc : c ∈ Runner.builtinChecks) :
    ∃ records view, c.Judging s records view := by
  simp only [Runner.builtinChecks, List.mem_cons, List.not_mem_nil, or_false] at hc
  rcases hc with rfl | rfl | rfl | rfl | rfl
  · obtain ⟨loaded, hloaded⟩ := h.isLoaded (by decide : Kind.serviceAccounts ∈ Kind.builtin)
    have hlook : Check.pods.look s = onRecords s .pods Resource.asPod PodCheck.target
        (PodCheck.verdict s loaded) := by
      rw [look_pods, hloaded]
      rfl
    refine judging_onRecords h hkinds (by decide) hlook
      (fun _ => Builtin.references_eq_nil (b := .pods)) fun x p hp =>
      ⟨Resource.fqn_of_asPod hp, ?_, _, PodCheck.says_verdict s loaded _ p, by decide⟩
    obtain rfl : x = .pod p := by cases x <;> cases hp; rfl
    exact PodCheck.absences_verdict h _ hloaded p
  · refine judging_onRecords h hkinds (c := .services) (by decide) rfl
      (fun _ => Builtin.references_eq_nil (b := .services)) fun x r hr =>
      ⟨Resource.fqn_of_asService hr, ?_, _, ServiceCheck.says_verdict s _ r, by decide⟩
    obtain rfl : x = .service r := by cases x <;> cases hr; rfl
    exact (ServiceCheck.tells_verdict h _ r).absences
  · refine judging_onRecords h hkinds (c := .networkPolicies) (by decide) rfl
      (fun _ => Builtin.references_eq_nil (b := .networkPolicies)) fun x p hp =>
      ⟨Resource.fqn_of_asNetworkPolicy hp, ?_, _, NetworkPolicyCheck.says_verdict s _ p, by decide⟩
    obtain rfl : x = .networkPolicy p := by cases x <;> cases hp; rfl
    exact (NetworkPolicyCheck.tells_verdict h _ p).absences
  · exact judging_bindings h hkinds (by decide)
      fun _ => Builtin.references_eq_nil (b := .roleBindings)
  · exact judging_bindings h hkinds (by decide)
      fun _ => Builtin.references_eq_nil (b := .clusterRoleBindings)

end judging

/-! ## The law and where it fails -/

/-- The findings that a check leaves of an object are those that are left of its issues. -/
theorem Check.get?_collect (kind : Kind) (g : Glossary) (e : Exclusions)
    (l : List (Target × Verdict)) (fqn : Fqn) :
    ((collect kind g e l).get? fqn).getD [] = Issue.kept e (Verdict.issuesOfAll g [] l) fqn := by
  have hreports := reports_collect kind g e l
  rw [hreports.get?]
  split
  · rfl
  · rename_i hfqn
    exact (hreports.kept_eq_nil hfqn).symm

/-- A remark under a known code has a finding. -/
theorem Remark.exists_finding {g : Glossary} {r : Remark} (h : (g.severity? r.code).isSome) :
    ∃ f, r.finding? g = some f := by
  obtain ⟨severity, hs⟩ := Option.isSome_iff_exists.1 h
  obtain ⟨message, hm⟩ := g.exists_render h r.args
  exact ⟨_, by rw [finding?, hs, hm]⟩

/-- A remark about a registered object under a known code is reported. -/
theorem Remark.issue_eq {g : Glossary} {registered : List Fqn} {r : Remark} {f : Finding}
    (hfqn : r.target.fqn ∈ registered) (hf : r.finding? g = some f) :
    r.issue g registered = .ok ⟨r.target.fqn, some r.subject, f⟩ := by
  rw [issue, if_neg (not_not_intro hfqn)]
  rw [finding?] at hf
  cases hs : g.severity? r.code with
  | none => simp [hs] at hf
  | some severity =>
    cases hm : g.render r.code r.args with
    | none => simp [hs, hm] at hf
    | some message =>
      simp only [hs, hm, Option.some.injEq] at hf
      rw [← hf]

section law
variable {s : Snapshot} {c : Check} {records : List Resource}
  {view : Resource → Option (Target × Verdict)} {kind : Kind}

/-- A verdict leads to no findings of absence but those of missing references of its object. -/
theorem Verdict.Judges.filter_kept_sublist {x : Resource} {t : Target} {v : Verdict}
    (h : v.Judges s x t) (g : Glossary) (e : Exclusions) (registered : List Fqn) (fqn : Fqn) :
    ((Issue.kept e (v.issues g registered t) fqn).filter (·.isAbsence)).Sublist
      ((([x].filter (·.fqn = fqn)).flatMap Resource.references |>.filter (·.missing s)).filterMap
        (·.finding? g s)) := by
  by_cases hx : x.fqn = fqn
  · have hsub := Verdict.filter_kept_sublist g e registered t v fqn
    have hfinding : Remark.finding? g ∘ Reference.remark s t = Reference.finding? g s := rfl
    rw [h.absences, List.filterMap_map, hfinding] at hsub
    simpa [hx] using hsub
  · obtain ⟨codes, hspeaks, -⟩ := h.known
    rw [hspeaks.kept_eq_nil (h.fqn ▸ Ne.symm hx)]
    exact List.nil_sublist _

/-- A check leads to no findings of absence but those of missing references of its objects. -/
theorem Check.Judging.filter_kept_sublist (h : c.Judging s records view) (g : Glossary)
    (e : Exclusions) (fqn : Fqn) :
    ((Issue.kept e (Verdict.issuesOfAll g [] (records.filterMap view)) fqn).filter
      (·.isAbsence)).Sublist
      (((records.filter (·.fqn = fqn)).flatMap Resource.references |>.filter
        (·.missing s)).filterMap (·.finding? g s)) := by
  have hjudged := h.judged
  clear h
  generalize ([] : List Fqn) = registered
  induction records generalizing registered with
  | nil => exact .slnil
  | cons x rest ih =>
    have ih := ih fun y hy => hjudged y (List.mem_cons_of_mem _ hy)
    rw [← List.singleton_append, List.filter_append, List.flatMap_append, List.filter_append,
      List.filterMap_append, List.filterMap_append]
    cases hv : view x with
    | none =>
      rw [List.filterMap_cons_none hv]
      exact (ih registered).trans (List.sublist_append_right _ _)
    | some w =>
      obtain ⟨t, v⟩ := w
      rw [List.filterMap_cons_some hv]
      show ((Issue.kept e (v.issues g _ t ++ _) fqn).filter _).Sublist _
      rw [Reports.kept_append, List.filter_append]
      exact ((hjudged x List.mem_cons_self t v hv).filter_kept_sublist g e _ fqn).append (ih _)

/-- A check respects the law if it finds nothing missing in a table that is not loaded. -/
theorem Check.Judging.sparesUnknown (h : c.Judging s records view)
    (hspares : ∀ fqn, ∀ ref ∈ s.references c.kind fqn, ref.missing s → ref.spares s kind) :
    c.SparesUnknown kind s := by
  intro g e o ho fqn
  rw [h.look] at ho
  cases ho
  have hreferences : s.references c.kind fqn =
      (records.filter (·.fqn = fqn)).flatMap Resource.references := by
    rw [Snapshot.references, h.scan]
    rfl
  have hmissing : (s.references c.kind fqn).filter (·.missing s) =
      ((s.references c.kind fqn).filter (·.spares s kind)).filter (·.missing s) := by
    rw [List.filter_filter]
    refine List.filter_congr fun ref href => ?_
    have := hspares fqn ref href
    cases hm : ref.missing s <;> simp_all
  rw [get?_collect]
  refine (h.filter_kept_sublist g e fqn).trans ?_
  rw [← hreferences, hmissing]
  exact List.filter_sublist.filterMap _

/-- Of a missing reference a check makes a finding, if nothing is suppressed. -/
theorem Check.Judging.exists_finding (h : c.Judging s records view) {fqn : Fqn} {ref : Reference}
    (href : ref ∈ s.references c.kind fqn) (hmissing : ref.missing s) :
    ∃ f ∈ ((collect c.kind .builtin .none (records.filterMap view)).get? fqn).getD [],
      f.isAbsence ∧ f.code = some ref.code := by
  rw [Snapshot.references, h.scan] at href
  obtain ⟨x, hx, href⟩ := List.mem_flatMap.1 href
  obtain ⟨hx, hname⟩ := List.mem_filter.1 hx
  cases hv : view x with
  | none =>
    rw [h.ignored x hx hv] at href
    cases href
  | some w =>
    obtain ⟨t, v⟩ := w
    have hjudges := h.judged x hx t v hv
    obtain ⟨codes, hspeaks, hknown⟩ := hjudges.known
    have habsence : ref.remark s t ∈ v.absences := by
      rw [hjudges.absences]
      exact List.mem_map_of_mem (List.mem_filter.2 ⟨href, hmissing⟩)
    obtain ⟨hremark, hcode⟩ := List.mem_filter.1 habsence
    have hfound : ∀ r ∈ v.remarks, ∃ f, r.finding? .builtin = some f := fun r hr =>
      Remark.exists_finding (hknown r.code (hspeaks r hr).2)
    obtain ⟨f, hf⟩ := hfound _ hremark
    let i : Issue := ⟨t.fqn, some (ref.remark s t).subject, f⟩
    have hissue : ∀ registered, t.fqn ∈ registered → i ∈ v.issues .builtin registered t := by
      intro registered hregistered
      refine Verdict.mem_issues_of_remarks (Remark.mem_issues (fun r hr => ?_) hremark
        (Remark.issue_eq hregistered hf))
      obtain ⟨f, hf⟩ := hfound r hr
      exact ⟨_, Remark.issue_eq ((hspeaks r hr).1 ▸ hregistered) hf⟩
    refine ⟨f, ?_, ?_, ?_⟩
    · rw [get?_collect]
      refine List.mem_map.2 ⟨i, List.mem_filter.2 ⟨Verdict.mem_issuesOfAll
        (List.mem_filterMap.2 ⟨x, hx, hv⟩) hissue, ?_⟩, rfl⟩
      have hfqn : t.fqn = fqn := hjudges.fqn.trans (of_decide_eq_true hname)
      simp [i, hfqn, Issue.silenced_none]
    · rw [Remark.isAbsence_of_finding hf]
      exact hcode
    · exact Remark.code_of_finding hf

end law

namespace Reference

/-- The codes under which it is said that there are no pods. -/
def podCodes : List Code := [1100, 1200, 1203]

/-- References with those codes point into the table of pods. -/
theorem pods_mem_kinds {registry : Registry} {ref : Reference} (h : ref.code ∈ podCodes) :
    Kind.pods ∈ ref.kinds registry := by
  cases ref with
  | owner => exact absurd (show (208 : Code) ∈ podCodes from h) (by decide)
  | account => exact absurd (show (1300 : Code) ∈ podCodes from h) (by decide)
  | selected | covered | peer => simp [kinds]

theorem spares_iff {s : Snapshot} {kind : Kind} {ref : Reference} :
    ref.spares s kind ↔ kind ∉ ref.kinds s.registry ∨ s.isLoaded kind = .ok true := by
  rw [spares, Bool.or_eq_true, decide_eq_true_iff, beq_iff_eq]
  cases s.isLoaded kind <;> simp [Except.toOption]

/-- The finding that nothing is there has the code of the reference. -/
theorem code_of_finding {g : Glossary} {s : Snapshot} {ref : Reference} {f : Finding}
    (h : ref.finding? g s = some f) : f.code = some ref.code := by
  rw [finding?] at h
  split at h
  · rw [← Option.some.inj h]
  · cases h

/-- What is missing is missing in a table that is loaded, or in that of pods under one of those
codes. -/
theorem isLoaded_of_missing {s : Snapshot} {ref : Reference} {kind : Kind} (h : ref.missing s)
    (hkind : kind ∈ ref.kinds s.registry) :
    s.isLoaded kind = .ok true ∨ kind = .pods ∧ ref.code ∈ podCodes := by
  cases ref with
  | owner space o =>
    refine .inl ?_
    rw [kinds, Option.mem_toList] at hkind
    rw [missing, Snapshot.resolveOwner, hkind] at h
    cases hloaded : s.isLoaded kind with
    | error error => simp [hloaded, bind, Except.bind, Except.toOption] at h
    | ok loaded =>
      cases loaded with
      | true => rfl
      | false => simp [hloaded, bind, Except.bind, Except.toOption] at h
  | account fqn =>
    obtain rfl := List.mem_singleton.1 hkind
    refine .inl ?_
    have hloaded := (Bool.and_eq_true_iff.1 h).1
    cases hl : s.isLoaded .serviceAccounts with
    | error error => simp [hl, Except.toOption] at hloaded
    | ok loaded => simpa [hl, Except.toOption] using hloaded
  | selected => exact .inr ⟨List.mem_singleton.1 hkind, by simp [code, podCodes]⟩
  | covered => exact .inr ⟨List.mem_singleton.1 hkind, by simp [code, podCodes]⟩
  | peer direction p q selector =>
    rcases List.mem_append.1 hkind with hkind | hkind
    · refine .inl ?_
      obtain ⟨selector', hselector, rfl⟩ := Option.map_eq_some_iff.1 (Option.mem_toList.1 hkind)
      rw [missing, spaces?, NetworkPolicyCheck.spacesOf, hselector] at h
      cases hloaded : s.isLoaded .namespaces with
      | error error => simp [hloaded, bind, Except.bind, Except.toOption] at h
      | ok loaded =>
        cases loaded with
        | true => rfl
        | false => simp [hloaded, bind, Except.bind, Except.toOption] at h
    · exact .inr ⟨List.mem_singleton.1 hkind, by simp [code, podCodes]⟩

end Reference

/-- The builtin checks respect the law for a kind exactly if it is not the kind of pods, or pods are
loaded, or every reference to pods, as far as it is followed, finds one. -/
theorem Snapshot.builtinChecks_spare_iff {s : Snapshot} (h : s.HasTables) (hkinds : s.KeepsKinds)
    (kind : Kind) : (∀ c ∈ Runner.builtinChecks, c.SparesUnknown kind s) ↔
      (kind = .pods → s.isLoaded .pods = .ok true ∨
        ∀ c ∈ Runner.builtinChecks, ∀ fqn, ∀ ref ∈ s.references c.kind fqn,
          .pods ∈ ref.kinds s.registry → ref.missing s = false) := by
  constructor
  · rintro hlaw rfl
    refine or_iff_not_imp_left.2 fun hpods c hc fqn ref href hkind => ?_
    by_contra hmissing
    rw [Bool.not_eq_false] at hmissing
    obtain ⟨records, view, hj⟩ := Check.exists_judging h hkinds hc
    obtain ⟨f, hf, habsence, hcode⟩ := hj.exists_finding href hmissing
    have hsub := hlaw c hc .builtin .none _ (by rw [hj.look]; rfl) fqn
    obtain ⟨ref', href', hf'⟩ := List.mem_filterMap.1
      (hsub.subset (List.mem_filter.2 ⟨hf, habsence⟩))
    obtain ⟨-, hspares⟩ := List.mem_filter.1 href'
    -- the finding is under a code that only references into the table of pods have
    have hcodes : ref.code ∈ Reference.podCodes :=
      ((Reference.isLoaded_of_missing hmissing hkind).resolve_left hpods).2
    have hcode' : ref'.code = ref.code :=
      Option.some.inj ((Reference.code_of_finding hf').symm.trans hcode)
    rcases (Reference.spares_iff).1 hspares with hnot | hloaded
    · exact hnot (Reference.pods_mem_kinds (hcode' ▸ hcodes))
    · exact hpods hloaded
  · intro hpods c hc
    obtain ⟨records, view, hj⟩ := Check.exists_judging h hkinds hc
    refine hj.sparesUnknown fun fqn ref href hmissing => Reference.spares_iff.2 ?_
    refine or_iff_not_imp_left.2 fun hkind => ?_
    rcases Reference.isLoaded_of_missing hmissing (not_not.1 hkind) with hloaded | ⟨rfl, -⟩
    · exact hloaded
    · refine (hpods rfl).resolve_right fun hnone => ?_
      rw [hnone c hc fqn ref href (not_not.1 hkind)] at hmissing
      cases hmissing

section replay
variable (log : List (List Change))

/-- A replay on a registry of the builtin kinds and others has a table for every kind it knows. -/
theorem Snapshot.hasTables_of_contains {r : Registry} (h : ∀ kind ∈ Kind.builtin, r.contains kind) :
    (replay r log).HasTables where
  table kind hkind := ⟨_, (table_replay r log kind).trans (if_pos hkind)⟩
  builtin := h

/-- So does a replay on the builtin registry. -/
theorem Snapshot.hasTables_replay : (replay .builtin log).HasTables :=
  hasTables_of_contains log (by decide)

/-- The tables of a replay list objects of their kinds. -/
theorem Snapshot.keepsKinds_replay (r : Registry) : (replay r log).KeepsKinds := by
  intro kind records h x hx
  rw [scan_replay] at h
  split at h
  · cases h
    exact kind_of_mem_recordsOf (mem_of_mem_scan_ofRecords hx)
  · cases h

end replay

namespace Schedule

/-- After every schedule on the builtin registry the builtin checks take the table of a kind for an
empty one only if it is loaded, exactly if the kind is not that of pods, or pods are loaded, or
every reference of the stored objects to pods, as far as it is followed, finds one. -/
theorem sparesUnknown_iff (schedule : Schedule) (kind : Kind) :
    let s := (reach .builtin schedule).store.published
    (∀ c ∈ Runner.builtinChecks, c.SparesUnknown kind s) ↔
      (kind = .pods → s.isLoaded .pods = .ok true ∨
        ∀ c ∈ Runner.builtinChecks, ∀ fqn, ∀ ref ∈ s.references c.kind fqn,
          .pods ∈ ref.kinds s.registry → ref.missing s = false) := by
  intro s
  have h : s = .replay .builtin (committed .builtin schedule) :=
    (follows_run .builtin schedule).published
  rw [h]
  exact Snapshot.builtinChecks_spare_iff (Snapshot.hasTables_replay _)
    (Snapshot.keepsKinds_replay _ _) kind

/-- A service that stands for the pods with a label. -/
def labelledService : Service := (Service.ofMeta (.named "a" "s")).withSelector "app" "x"

/-- A client loads the service and nothing else. -/
def loadsService : Schedule :=
  [(0, .load .services [.service labelledService]), (0, .proceed), (0, .proceed)]

/-- The service is said to have no pods, although nothing is known about pods. -/
theorem not_sparesUnknown_loadsService : ¬ ∀ c ∈ Runner.builtinChecks,
    c.SparesUnknown .pods (reach .builtin loadsService).store.published := by
  intro h
  have hsub := h .services (by simp [Runner.builtinChecks]) .builtin .none _ rfl ⟨"a/s"⟩
  exact absurd hsub.length_le (by decide)

end Schedule

end ClusterAudit
