import ClusterAudit.Proofs.Store.Sorts
import ClusterAudit.Proofs.Suppression.Removal
import ClusterAudit.Proofs.Verdict
import Mathlib.Data.List.Forall2

/-!
# What is wrong with one object stays with it

Two snapshots that differ in one record of the table a check looks at (`Snapshot.DifferAt`) give the
check the same objects to look at, and of all but one the same verdict, since no verdict on one
object depends on what another one is like, only on whether it is there. A verdict is about its own
object, a failure included, so the findings of all other objects are the same:
`Check.agreeBut_of_differAt`.
-/

namespace ClusterAudit

/-! ## Issues of one object -/

/-- A remark reports about its own object. -/
theorem Remark.fqn_of_issue {g : Glossary} {registered : List Fqn} {r : Remark} {i : Issue}
    (h : r.issue g registered = .ok i) : i.fqn = r.target.fqn := by
  rw [issue] at h
  split at h
  · cases h
  · split at h
    · cases h
      rfl
    · cases h

/-- What remarks report is reported by one of them. -/
theorem Remark.exists_of_mem_issues {g : Glossary} {registered : List Fqn} {l : List Remark}
    {i : Issue} (h : i ∈ (issues g registered l).1) : ∃ r ∈ l, r.issue g registered = .ok i := by
  induction l with
  | nil => cases h
  | cons r rest ih =>
    rw [issues] at h
    cases hr : r.issue g registered with
    | error e =>
      rw [hr] at h
      cases h
    | ok j =>
      rw [hr] at h
      rcases List.mem_cons.1 h with rfl | h
      · exact ⟨r, List.mem_cons_self, hr⟩
      · obtain ⟨r', hr', hi⟩ := ih h
        exact ⟨r', List.mem_cons_of_mem _ hr', hi⟩

/-- What a verdict reports is reported by one of its remarks or is the failure. -/
theorem Verdict.mem_issues {g : Glossary} {registered : List Fqn} {t : Target} {v : Verdict}
    {i : Issue} (h : i ∈ v.issues g registered t) :
    (∃ r ∈ v.remarks, r.issue g registered = .ok i) ∨ ∃ text, i = .failure g t.fqn text := by
  have hremarks := @Remark.exists_of_mem_issues g registered v.remarks i
  rw [issues] at h
  generalize Remark.issues g registered v.remarks = reported at h hremarks
  obtain ⟨issues, refused⟩ := reported
  cases refused with
  | some e =>
    rcases List.mem_append.1 h with h | h
    · exact .inl (hremarks h)
    · exact .inr ⟨_, List.mem_singleton.1 h⟩
  | none =>
    rcases List.mem_append.1 h with h | h
    · exact .inl (hremarks h)
    · obtain ⟨e, -, rfl⟩ := Option.map_eq_some_iff.1 (Option.mem_toList.1 h)
      exact .inr ⟨_, rfl⟩

/-- What verdicts report is reported by one of them, whose object is registered then. -/
theorem Verdict.exists_of_mem_issuesOfAll {g : Glossary} {registered : List Fqn}
    {l : List (Target × Verdict)} {i : Issue} (h : i ∈ issuesOfAll g registered l) :
    ∃ v ∈ l, ∃ others, v.1.fqn ∈ others ∧ i ∈ v.2.issues g others v.1 := by
  induction l generalizing registered with
  | nil => cases h
  | cons v rest ih =>
    rcases List.mem_append.1 h with h | h
    · exact ⟨v, List.mem_cons_self, _, List.mem_append_right _ List.mem_cons_self, h⟩
    · obtain ⟨w, hw, hi⟩ := ih h
      exact ⟨w, List.mem_cons_of_mem _ hw, hi⟩

/-- A verdict that speaks of one object reports about that object. -/
theorem Verdict.Says.fqn_of_mem_issues {g : Glossary} {registered : List Fqn} {t : Target}
    {codes : List Code} {v : Verdict} (h : v.Says t codes) {i : Issue}
    (hi : i ∈ v.issues g registered t) : i.fqn = t.fqn := by
  rcases Verdict.mem_issues hi with ⟨r, hr, hi⟩ | ⟨text, rfl⟩
  · rw [Remark.fqn_of_issue hi, (h r hr).1]
  · rfl

/-- It leaves no findings of any other object. -/
theorem Verdict.Says.kept_eq_nil {g : Glossary} {e : Exclusions} {registered : List Fqn}
    {t : Target} {codes : List Code} {v : Verdict} (h : v.Says t codes) {f : Fqn} (hf : f ≠ t.fqn) :
    Issue.kept e (v.issues g registered t) f = [] := by
  rw [Issue.kept, List.map_eq_nil_iff, List.filter_eq_nil_iff]
  intro i hi
  have hne : i.fqn ≠ f := by
    rw [h.fqn_of_mem_issues hi]
    exact hf.symm
  simp [hne]

/-! ## Outcomes that agree but for one object -/

/-- Two outcomes register the same objects and have the same findings of all but one. -/
structure Outcome.AgreeBut (fqn : Fqn) (o o' : Outcome) : Prop where
  registered : o'.objects.keys = o.objects.keys
  findings : ∀ f, f ≠ fqn → o'.get? f = o.get? f

/-- Two objects with the verdicts on them are the same, or both are the object of a name and each
verdict speaks of it alone. -/
def SameBut (fqn : Fqn) (a b : Target × Verdict) : Prop :=
  a = b ∨ ∀ x ∈ [a, b], x.1.fqn = fqn ∧ ∃ codes, x.2.Says x.1 codes

namespace SameBut

variable {fqn : Fqn} {a b : Target × Verdict} {l l' : List (Target × Verdict)}

/-- They have the same name. -/
theorem fqn_eq (h : SameBut fqn a b) : a.1.fqn = b.1.fqn := by
  rcases h with rfl | h
  · rfl
  · rw [(h a (by simp)).1, (h b (by simp)).1]

/-- The verdicts leave the same findings of every other object. -/
theorem kept_issues_eq (h : SameBut fqn a b) {f : Fqn} (hf : f ≠ fqn) (g : Glossary)
    (e : Exclusions) (registered : List Fqn) :
    Issue.kept e (a.2.issues g registered a.1) f =
      Issue.kept e (b.2.issues g registered b.1) f := by
  rcases h with rfl | h
  · rfl
  · have hnone : ∀ x ∈ [a, b], Issue.kept e (x.2.issues g registered x.1) f = [] := by
      intro x hx
      obtain ⟨hfqn, codes, hspeaks⟩ := h x hx
      exact hspeaks.kept_eq_nil (hfqn ▸ hf)
    rw [hnone a (by simp), hnone b (by simp)]

/-- So do the verdicts on one object after the other. -/
theorem kept_issuesOfAll_eq (h : List.Forall₂ (SameBut fqn) l l') {f : Fqn} (hf : f ≠ fqn)
    (g : Glossary) (e : Exclusions) (registered : List Fqn) :
    Issue.kept e (Verdict.issuesOfAll g registered l) f =
      Issue.kept e (Verdict.issuesOfAll g registered l') f := by
  induction h generalizing registered with
  | nil => rfl
  | @cons a b rest rest' hab _ ih =>
    rw [Verdict.issuesOfAll, Verdict.issuesOfAll, Reports.kept_append, Reports.kept_append,
      hab.fqn_eq, ih, hab.kept_issues_eq hf]

/-- Both lists are about objects of the same names. -/
theorem map_fqn_eq (h : List.Forall₂ (SameBut fqn) l l') :
    l.map (·.1.fqn) = l'.map (·.1.fqn) := by
  induction h with
  | nil => rfl
  | cons hab _ ih => rw [List.map_cons, List.map_cons, hab.fqn_eq, ih]

/-- The outcomes of both agree but for the object of the name. -/
theorem agreeBut_collect (h : List.Forall₂ (SameBut fqn) l l') (kind : Kind) (g : Glossary)
    (e : Exclusions) : (Check.collect kind g e l).AgreeBut fqn (Check.collect kind g e l') := by
  have hreports := Check.reports_collect kind g e l
  have hreports' := Check.reports_collect kind g e l'
  rw [← map_fqn_eq h] at hreports'
  refine ⟨Dict.keys_eq_of_isSome fun f => Bool.eq_iff_iff.2 ?_, fun f hf => ?_⟩
  · exact (hreports'.contains_iff f).trans (hreports.contains_iff f).symm
  · rw [hreports.get?, hreports'.get?, kept_issuesOfAll_eq h hf]

end SameBut

/-! ## Snapshots that differ in one record -/

namespace Resource

variable {r : Resource}

theorem fqn_of_asPod {p : Pod} (h : r.asPod = some p) : p.metadata.fqn = r.fqn := by
  cases r <;> cases h
  rfl

theorem fqn_of_asService {p : Service} (h : r.asService = some p) : p.metadata.fqn = r.fqn := by
  cases r <;> cases h
  rfl

theorem fqn_of_asNetworkPolicy {p : NetworkPolicy} (h : r.asNetworkPolicy = some p) :
    p.metadata.fqn = r.fqn := by
  cases r <;> cases h
  rfl

theorem fqn_of_asRoleBinding {p : RoleBinding} (h : r.asRoleBinding = some p) :
    p.metadata.fqn = r.fqn := by
  cases r <;> cases h <;> rfl

end Resource

/-- A record that a builtin kind can be read at is stored under its own name. -/
def Table.Stores (t : Table) (b : Builtin) (fqn : Fqn) : Prop :=
  ∃ r, t.get? fqn = some r ∧ r.fqn = fqn ∧ (b.read r).isSome

/-- Two tables differ in one record at most, and both have one of the kind's sort there. -/
structure Table.DifferAt (b : Builtin) (fqn : Fqn) (t t' : Table) : Prop where
  loaded : t'.loaded = t.loaded
  others : ∀ f, f ≠ fqn → t'.get? f = t.get? f
  stores : t.Stores b fqn
  stores' : t'.Stores b fqn

/-- Two snapshots differ in one record of the table of a builtin kind at most. -/
structure Snapshot.DifferAt (b : Builtin) (fqn : Fqn) (s s' : Snapshot) : Prop where
  registry : s'.registry = s.registry
  others : ∀ kind, kind ≠ b.kind → s'.table kind = s.table kind
  own : ∃ t t', s.table b.kind = .ok t ∧ s'.table b.kind = .ok t' ∧ t.DifferAt b fqn t'

namespace Table.DifferAt

variable {b : Builtin} {fqn : Fqn} {t t' : Table}

/-- The tables bind the same names. -/
theorem isSome_get? (h : t.DifferAt b fqn t') (f : Fqn) :
    (t'.get? f).isSome = (t.get? f).isSome := by
  by_cases hf : f = fqn
  · subst hf
    obtain ⟨r, hr, -⟩ := h.stores
    obtain ⟨r', hr', -⟩ := h.stores'
    rw [hr, hr']
    rfl
  · rw [h.others f hf]

/-- The verdicts on the records of both tables are the same, but for those on the one record. -/
theorem forall₂_verdicts (h : t.DifferAt b fqn t') {α : Type} {as : Resource → Option α}
    {target : α → Target} {verdict : Target → α → Verdict}
    (has : ∀ r, (b.read r).isSome → (as r).isSome)
    (hfqn : ∀ r a, as r = some a → (target a).fqn = r.fqn)
    (hspeaks : ∀ u a, ∃ codes, (verdict u a).Says u codes) :
    List.Forall₂ (SameBut fqn)
      ((t.scan.filterMap as).map fun a => (target a, verdict (target a) a))
      ((t'.scan.filterMap as).map fun a => (target a, verdict (target a) a)) := by
  let see (t : Table) (f : Fqn) : Option (Target × Verdict) :=
    ((t.get? f).bind as).map fun a => (target a, verdict (target a) a)
  have hscan : ∀ t : Table, (t.scan.filterMap as).map (fun a => (target a, verdict (target a) a)) =
      t.records.keys.filterMap (see t) := by
    intro t
    rw [scan, Dict.values_eq_filterMap, List.filterMap_filterMap, List.map_filterMap]
    rfl
  have hstored : ∀ t : Table, t.Stores b fqn → ∃ x, see t fqn = some x ∧ x.1.fqn = fqn ∧
      ∃ codes, x.2.Says x.1 codes := by
    rintro t ⟨r, hr, hname, hread⟩
    obtain ⟨a, ha⟩ := Option.isSome_iff_exists.1 (has r hread)
    exact ⟨(target a, verdict (target a) a), by simp [see, hr, ha], (hfqn r a ha).trans hname,
      hspeaks _ a⟩
  rw [hscan, hscan, Dict.keys_eq_of_isSome (a := t'.records) h.isSome_get?]
  refine List.rel_filterMap (R := Eq) (fun f f' hff => ?_) (List.forall₂_refl _)
  obtain rfl : f = f' := hff
  by_cases hf : f = fqn
  · subst hf
    obtain ⟨x, hx, hsame⟩ := hstored t h.stores
    obtain ⟨x', hx', hsame'⟩ := hstored t' h.stores'
    rw [hx, hx']
    exact .some (.inr (by simpa using ⟨hsame, hsame'⟩))
  · rw [show see t' f = see t f by simp only [see, h.others f hf]]
    cases see t f with
    | none => exact .none
    | some x => exact .some (.inl rfl)

end Table.DifferAt

namespace Snapshot.DifferAt

variable {b : Builtin} {fqn : Fqn} {s s' : Snapshot}

/-- The same kinds are loaded. -/
theorem isLoaded_eq (h : s.DifferAt b fqn s') (kind : Kind) :
    s'.isLoaded kind = s.isLoaded kind := by
  rw [isLoaded, isLoaded]
  by_cases hk : kind = b.kind
  · subst hk
    obtain ⟨t, t', ht, ht', hdiffer⟩ := h.own
    rw [ht, ht']
    exact congrArg Except.ok hdiffer.loaded
  · rw [h.others kind hk]

/-- The same names are bound. -/
theorem alike_get? (h : s.DifferAt b fqn s') (kind : Kind) (f : Fqn) :
    Alike (fun r r' => r'.isSome = r.isSome) (s.get? kind f) (s'.get? kind f) := by
  rw [get?, get?]
  by_cases hk : kind = b.kind
  · subst hk
    obtain ⟨t, t', ht, ht', hdiffer⟩ := h.own
    rw [ht, ht']
    exact hdiffer.isSome_get? f
  · rw [h.others kind hk]
    refine Alike.refl (fun r => ?_) _
    rfl

/-- An owner is missing from both or from neither. -/
theorem alike_resolveOwner (h : s.DifferAt b fqn s') (space : String) (owner : OwnerReference) :
    Alike (fun l l' => l' = .missing ↔ l = .missing) (s.resolveOwner space owner)
      (s'.resolveOwner space owner) := by
  rw [resolveOwner, resolveOwner, h.registry]
  cases s.registry.kindForOwner owner.kind with
  | none => exact .rfl
  | some kind =>
    dsimp only
    rw [h.isLoaded_eq]
    refine .bind (.refl (fun _ => rfl) _) fun loaded loaded' (hloaded : loaded = loaded') => ?_
    subst hloaded
    split
    · refine .bind (h.alike_get? kind _) fun r r' hr => ?_
      cases r <;> cases r' <;> simp_all [Alike]
    · exact .rfl

end Snapshot.DifferAt

/-- Storing a record in place of another one of its sort makes a difference in that record only. -/
theorem Snapshot.differAt_insert {b : Builtin} {s : Snapshot} {t : Table} {r : Resource}
    (ht : s.table b.kind = .ok t) (hold : t.Stores b r.fqn) (hkind : r.kind = b.kind)
    (hr : (b.read r).isSome) :
    s.DifferAt b r.fqn { s with tables := (Change.insert r).apply s.tables } where
  registry := rfl
  others kind hk := by
    rw [table, table, Tables.table, Tables.table, Change.get?_apply_of_ne]
    rwa [Change.kind, hkind]
  own := by
    refine ⟨t, t.insert r, ht, ?_, rfl, fun f hf => ?_, hold, r, ?_, rfl, hr⟩
    · refine Tables.table_eq_ok_iff.2 ?_
      rw [← hkind] at ht ⊢
      exact (Change.get?_apply_self (.insert r) s.tables).trans
        (congrArg (Option.map _) (Tables.table_eq_ok_iff.1 ht))
    · rw [Table.get?_insert, if_neg hf.symm]
    · rw [Table.get?_insert, if_pos rfl]

/-- Results that are alike have the same verdict if it does not tell them apart. -/
theorem Verdict.onResult_eq {α : Type} {R : α → α → Prop} {x y : Except StoreError α}
    {f : α → Verdict} (h : Alike R x y) (hf : ∀ a a', R a a' → f a' = f a) :
    onResult (AuditError.ofStore y) f = onResult (AuditError.ofStore x) f := by
  cases x with
  | error e =>
    cases y with
    | error e' => rw [show e = e' from h]
    | ok a' => exact False.elim h
  | ok a =>
    cases y with
    | error e' => exact False.elim h
    | ok a' => exact hf a a' h

namespace Snapshot.DifferAt

variable {b : Builtin} {fqn : Fqn} {s s' : Snapshot}

/-- A pod has the same verdict in both. -/
theorem podCheck_verdict_eq (h : s.DifferAt b fqn s') (loaded : Bool) (t : Target) (p : Pod) :
    PodCheck.verdict s' loaded t p = PodCheck.verdict s loaded t p := by
  have howner : PodCheck.onOwner s' t p = PodCheck.onOwner s t p := by
    funext owner
    refine Verdict.onResult_eq (h.alike_resolveOwner _ owner) fun l l' hl => ?_
    cases l <;> cases l' <;> simp_all
  have haccount : PodCheck.onAccount s' loaded t p = PodCheck.onAccount s loaded t p := by
    unfold PodCheck.onAccount
    extract_lets name account
    rw [Verdict.onResult_eq (h.alike_get? .serviceAccounts account) fun r r' hr => ?_]
    cases r <;> cases r' <;> simp_all
  rw [PodCheck.verdict, PodCheck.verdict, howner, haccount]

/-- A service has the same verdict in both, unless they differ in a pod. -/
theorem serviceCheck_verdict_eq (h : s.DifferAt b fqn s') (hb : b ≠ .pods) (t : Target)
    (r : Service) : ServiceCheck.verdict s' t r = ServiceCheck.verdict s t r := by
  have hpods := h.others .pods fun hk => hb (Builtin.eq_of_kind (a := b) (b := .pods) hk.symm)
  simp only [ServiceCheck.verdict, findSelected, scanNamespace, hpods]

/-- A policy has the same verdict in both, unless they differ in a pod or a namespace. -/
theorem networkPolicyCheck_verdict_eq (h : s.DifferAt b fqn s') (hb : b ≠ .pods)
    (hb' : b ≠ .namespaces) (t : Target) (p : NetworkPolicy) :
    NetworkPolicyCheck.verdict s' t p = NetworkPolicyCheck.verdict s t p := by
  have hpods := h.others .pods fun hk => hb (Builtin.eq_of_kind (a := b) (b := .pods) hk.symm)
  have hnames := h.others .namespaces fun hk =>
    hb' (Builtin.eq_of_kind (a := b) (b := .namespaces) hk.symm)
  have hcovered : s'.findCovered .pods = s.findCovered .pods := by
    funext space selector
    rw [findCovered, findCovered, scanNamespace, scanNamespace, hpods]
  have hspaces : NetworkPolicyCheck.spacesOf s' p = NetworkPolicyCheck.spacesOf s p := by
    funext peer
    simp only [NetworkPolicyCheck.spacesOf, isLoaded, findNamespaces, scan, hnames]
  have hcovers : ∀ selector spaces, NetworkPolicyCheck.coversIn s' selector spaces =
      NetworkPolicyCheck.coversIn s selector spaces := by
    intro selector spaces
    induction spaces with
    | nil => rfl
    | cons space rest ih => simp only [NetworkPolicyCheck.coversIn, hcovered, ih]
  have hpeer : ∀ direction, NetworkPolicyCheck.onPeer s' direction t p =
      NetworkPolicyCheck.onPeer s direction t p := by
    intro direction
    funext peer
    simp only [NetworkPolicyCheck.onPeer, NetworkPolicyCheck.onPods, hspaces, hcovers]
  simp only [NetworkPolicyCheck.verdict, NetworkPolicyCheck.onSelector, NetworkPolicyCheck.onRules,
    hcovered, hpeer]

/-- A binding has the same verdict in both. -/
theorem roleBindingCheck_verdict_eq (h : s.DifferAt b fqn s') (loaded : Bool) (t : Target)
    (r : RoleBinding) :
    RoleBindingCheck.verdict s' loaded t r = RoleBindingCheck.verdict s loaded t r := by
  have hsubject : RoleBindingCheck.onSubject s' t r = RoleBindingCheck.onSubject s t r := by
    funext subject
    refine Verdict.onResult_eq (h.alike_get? .serviceAccounts _) fun x x' hx => ?_
    cases x <;> cases x' <;> simp_all
  rw [RoleBindingCheck.verdict, RoleBindingCheck.verdict, hsubject]

/-- Verdicts on the records of the builtin kind that do not depend on the one record are the same,
but for those on it. -/
theorem alike_onRecords (h : s.DifferAt b fqn s') {α : Type} {as : Resource → Option α}
    {target : α → Target} {verdict verdict' : Target → α → Verdict}
    (has : ∀ r, (b.read r).isSome → (as r).isSome)
    (hfqn : ∀ r a, as r = some a → (target a).fqn = r.fqn)
    (hspeaks : ∀ u a, ∃ codes, (verdict u a).Says u codes)
    (hverdict : ∀ u a, verdict' u a = verdict u a) :
    Alike (List.Forall₂ (SameBut fqn)) (Check.onRecords s b.kind as target verdict)
      (Check.onRecords s' b.kind as target verdict') := by
  obtain rfl : verdict' = verdict := funext fun u => funext (hverdict u)
  obtain ⟨t, t', ht, ht', hdiffer⟩ := h.own
  rw [Check.onRecords, Check.onRecords, scanAs, scanAs, scan, scan, ht, ht']
  exact hdiffer.forall₂_verdicts has hfqn hspeaks

/-- The check of bindings looks at the same objects in both, and says the same of all but one. -/
theorem alike_look_bindings (h : s.DifferAt b fqn s')
    (has : ∀ r, (b.read r).isSome → (Resource.asRoleBinding r).isSome) :
    Alike (List.Forall₂ (SameBut fqn)) ((Check.bindings b.kind).look s)
      ((Check.bindings b.kind).look s') := by
  rw [Check.bindings]
  dsimp only
  rw [h.isLoaded_eq]
  refine .bind (.refl (fun _ => rfl) _) fun loaded loaded' (hloaded : loaded = loaded') => ?_
  subst hloaded
  exact h.alike_onRecords has (fun _ _ => Resource.fqn_of_asRoleBinding)
    (fun u a => ⟨_, RoleBindingCheck.says_verdict s loaded u a⟩)
    (h.roleBindingCheck_verdict_eq loaded)

/-- A builtin check looks at the same objects in both, and says the same of all but one. -/
theorem alike_look (h : s.DifferAt b fqn s') {c : Check} (hc : c ∈ Runner.builtinChecks)
    (hb : c.kind = b.kind) : Alike (List.Forall₂ (SameBut fqn)) (c.look s) (c.look s') := by
  simp only [Runner.builtinChecks, List.mem_cons, List.not_mem_nil, or_false] at hc
  rcases hc with rfl | rfl | rfl | rfl | rfl
  · obtain rfl : Builtin.pods = b := Builtin.eq_of_kind hb
    rw [Check.pods]
    dsimp only
    rw [h.isLoaded_eq]
    refine .bind (.refl (fun _ => rfl) _) fun loaded loaded' (hloaded : loaded = loaded') => ?_
    subst hloaded
    exact h.alike_onRecords (fun _ => id) (fun _ _ => Resource.fqn_of_asPod)
      (fun u a => ⟨_, PodCheck.says_verdict s loaded u a⟩) (h.podCheck_verdict_eq loaded)
  · obtain rfl : Builtin.services = b := Builtin.eq_of_kind hb
    exact h.alike_onRecords (fun _ => id) (fun _ _ => Resource.fqn_of_asService)
      (fun u a => ⟨_, ServiceCheck.says_verdict s u a⟩) (h.serviceCheck_verdict_eq (by decide))
  · obtain rfl : Builtin.networkPolicies = b := Builtin.eq_of_kind hb
    exact h.alike_onRecords (fun _ => id) (fun _ _ => Resource.fqn_of_asNetworkPolicy)
      (fun u a => ⟨_, NetworkPolicyCheck.says_verdict s u a⟩)
      (h.networkPolicyCheck_verdict_eq (by decide) (by decide))
  · obtain rfl : Builtin.roleBindings = b := Builtin.eq_of_kind hb
    exact h.alike_look_bindings fun _ => id
  · obtain rfl : Builtin.clusterRoleBindings = b := Builtin.eq_of_kind hb
    exact h.alike_look_bindings fun _ => id

end Snapshot.DifferAt

/-- If two snapshots differ only in what is stored under one name in the table of a builtin kind,
both times a record of the kind's sort, then the builtin checks of that kind fail alike on both, and
if they succeed they register the same objects and have the same findings of all but that one. So do
their runs, which pass over the kind in both snapshots or in neither. -/
theorem Check.agreeBut_of_differAt {c : Check} (hc : c ∈ Runner.builtinChecks) {b : Builtin}
    (hb : c.kind = b.kind) {fqn : Fqn} {s s' : Snapshot} (h : s.DifferAt b fqn s') (g : Glossary)
    (e : Exclusions) :
    Alike (Outcome.AgreeBut fqn) ((c.look s).map (collect c.kind g e))
      ((c.look s').map (collect c.kind g e)) ∧
    Alike (Option.Rel (Outcome.AgreeBut fqn)) (c.run g e s) (c.run g e s') := by
  have hlook := h.alike_look hc hb
  have hcollect : ∀ l l', List.Forall₂ (SameBut fqn) l l' →
      (collect c.kind g e l).AgreeBut fqn (collect c.kind g e l') :=
    fun _ _ hl => SameBut.agreeBut_collect hl c.kind g e
  refine ⟨hlook.map hcollect, ?_⟩
  rw [run, run, h.isLoaded_eq]
  refine .bind (.refl (fun _ => rfl) _) fun loaded loaded' (hloaded : loaded = loaded') => ?_
  subst hloaded
  split
  · exact .bind hlook fun l l' hl => .some (hcollect l l' hl)
  · exact Option.Rel.none

/-- A pod without containers. -/
def Pod.readable : Pod := .ofMeta (.named "a" "x")

/-- The same pod with a container of which a request is unreadable. -/
def Pod.unreadable : Pod :=
  .withContainer .readable (((Container.named "c" "i").withRequest "cpu" "one").withLimit "cpu" "1")

/-- Both pods of a namespace are loaded, and the second one names the first as its owner. -/
def Snapshot.ownedPods : Snapshot :=
  .replay .builtin [Change.ofLoad .pods
    [.pod .readable, .pod (.ofMeta ((ObjectMeta.named "a" "y").withOwner ⟨"Pod", "x", false⟩))]]

/-- The owner of a pod becomes unreadable; the check fails on the owner only. -/
theorem Check.agreeBut_of_unreadable :
    let s := Snapshot.ownedPods
    let s' := { s with tables := (Change.insert (.pod .unreadable)).apply s.tables }
    let fqn := Pod.unreadable.metadata.fqn
    Check.pods ∈ Runner.builtinChecks ∧ Check.pods.kind = Builtin.pods.kind ∧
    s.DifferAt .pods fqn s' ∧
    (PodCheck.verdict s' false (PodCheck.target .unreadable) .unreadable).failure.isSome ∧
    Alike (Outcome.AgreeBut fqn) ((Check.pods.look s).map (collect .pods default default))
      ((Check.pods.look s').map (collect .pods default default)) ∧
    Alike (Option.Rel (Outcome.AgreeBut fqn)) (Check.pods.run default default s)
      (Check.pods.run default default s') := by
  intro s s' fqn
  have hdiffer : s.DifferAt .pods fqn s' :=
    Snapshot.differAt_insert (b := .pods) (r := .pod .unreadable) (Snapshot.table_replay _ _ _)
      ⟨.pod .readable, by decide, rfl, rfl⟩ rfl rfl
  exact ⟨List.mem_cons_self, rfl, hdiffer, by decide,
    agreeBut_of_differAt List.mem_cons_self (b := .pods) rfl hdiffer default default⟩

end ClusterAudit
