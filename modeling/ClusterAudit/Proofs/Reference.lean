import ClusterAudit.Proofs.Result
import ClusterAudit.Proofs.Verdict

/-!
# References and what is said of them

Objects refer to others: pods to their owners and to an account, bindings to accounts, services and
policies to pods. A `Reference` points into the tables of some kinds (`Reference.kinds`), and where
a check finds nothing there (`Reference.missing`) it says so under a code of the reference's own.
The verdicts of the builtin checks hold these remarks in the order of the references, and no others
under such codes (`Verdict.Tells`).
-/

namespace ClusterAudit

/-- A reference of an object to others. -/
inductive Reference where
  /-- To an owner in a namespace. -/
  | owner (space : String) (o : OwnerReference)
  /-- To an account. -/
  | account (fqn : Fqn)
  /-- Of a service in a namespace to the pods it stands for. -/
  | selected (space : String) (selector : Selector)
  /-- Of a policy in a namespace to the pods it is about. -/
  | covered (space : String) (selector : Selector)
  /-- Of a policy to the pods of a peer. -/
  | peer (direction : String) (policy : NetworkPolicy) (peer : PolicyPeer) (selector : Selector)

namespace Reference

/-- The code under which a check says that nothing is there. -/
def code : Reference → Code
  | owner .. => 208
  | account .. => 1300
  | selected .. => 1100
  | covered .. => 1200
  | peer .. => 1203

/-- The codes under which checks say that nothing is there. -/
def codes : List Code := [208, 1300, 1100, 1200, 1203]

/-- The kinds into whose tables the reference points. -/
def kinds (registry : Registry) : Reference → List Kind
  | owner _ o => (registry.kindForOwner o.kind).toList
  | account _ => [.serviceAccounts]
  | selected .. | covered .. => [.pods]
  | peer _ _ q _ => (q.namespaceSelector.map fun _ => .namespaces).toList ++ [.pods]

/-- The namespaces in which the pods of a peer are looked for, as far as they are known. -/
def spaces? (s : Snapshot) (p : NetworkPolicy) (q : PolicyPeer) : Option (List String) :=
  (NetworkPolicyCheck.spacesOf s p q).toOption.join

/-- What is named when a check says that nothing is there. -/
def args (s : Snapshot) : Reference → List String
  | owner space o => [o.kind, (Fqn.join space o.name).text]
  | account fqn => [fqn.text]
  | selected .. | covered .. => []
  | peer direction p q _ => [direction, NetworkPolicyCheck.showSpaces ((spaces? s p q).getD [])]

/-- Whether a check finds nothing there. -/
def missing (s : Snapshot) : Reference → Bool
  | owner space o => (s.resolveOwner space o).toOption == some .missing
  | account fqn => (s.isLoaded .serviceAccounts).toOption == some true &&
      (s.get? .serviceAccounts fqn).toOption == some none
  | selected space selector => (s.findSelected .pods space selector).toOption == some []
  | covered space selector => (s.findCovered .pods space selector).toOption == some []
  | peer _ p q selector => (spaces? s p q).any fun spaces =>
      (NetworkPolicyCheck.coversIn s selector spaces).toOption == some false

/-- What is remarked about an object for the reference. -/
def remark (s : Snapshot) (t : Target) (ref : Reference) : Remark :=
  ⟨t, ref.code, none, ref.args s⟩

end Reference

/-! ## The references of objects -/

/-- A pod refers to its owners, and to an account of its own. -/
def PodCheck.references (p : Pod) : List Reference :=
  p.metadata.owners.map (.owner p.metadata.space) ++
    if p.serviceAccountName.isEmpty || p.serviceAccountName = defaultAccount then []
    else [.account (.join p.metadata.space p.serviceAccountName)]

/-- A service inside the cluster refers to the pods of its selector. -/
def ServiceCheck.references (r : Service) : List Reference :=
  if r.isExternalName || r.selector.isEmpty then []
  else [.selected r.metadata.space ⟨r.selector, []⟩]

namespace NetworkPolicyCheck

/-- The rules of one direction refer to the pods of their peers. -/
def peerReferences (direction : String) (p : NetworkPolicy) (rules : List PolicyRule) :
    List Reference :=
  (rules.flatMap (·.peers)).flatMap fun q => (q.podSelector.map (.peer direction p q)).toList

/-- A policy refers to its pods and to those of its peers. -/
def references (p : NetworkPolicy) : List Reference :=
  .covered p.metadata.space p.podSelector ::
    (peerReferences "ingress" p p.ingress ++ peerReferences "egress" p p.egress)

end NetworkPolicyCheck

/-- A binding refers to those of its subjects that are accounts. -/
def RoleBindingCheck.references (b : RoleBinding) : List Reference :=
  (b.subjects.filter (·.isServiceAccount)).map fun subject => .account (accountOf b subject)

/-- The references of an object. -/
def Resource.references : Resource → List Reference
  | pod p => PodCheck.references p
  | service r => ServiceCheck.references r
  | networkPolicy p => NetworkPolicyCheck.references p
  | roleBinding b | clusterRoleBinding b => RoleBindingCheck.references b
  | _ => []

/-! ## What verdicts tell of references -/

namespace Verdict

/-- The remarks that nothing is there. -/
def absences (v : Verdict) : List Remark := v.remarks.filter (·.code ∈ Reference.codes)

/-- A verdict on an object does not fail, and says of exactly the missing ones among some references
that nothing is there. -/
structure Tells (s : Snapshot) (t : Target) (refs : List Reference) (v : Verdict) : Prop where
  failure : v.failure = none
  absences : v.absences = (refs.filter (·.missing s)).map (·.remark s t)

variable {s : Snapshot} {t : Target} {refs more : List Reference} {a b : Verdict} {code : Code}
  {args : List String} {codes : List Code}

/-- A verdict under other codes says of no reference that nothing is there. -/
theorem Says.absences_eq_nil (h : a.Says t codes)
    (hcodes : ∀ code ∈ codes, code ∉ Reference.codes) : a.absences = [] := by
  refine List.filter_eq_nil_iff.2 fun r hr => ?_
  simpa using hcodes r.code (h r hr).2

/-- Nothing is left out after a verdict that does not fail. -/
theorem absences_append (ha : a.failure = none) : (a ++ b).absences = a.absences ++ b.absences := by
  rw [absences, remarks_append, ha]
  exact List.filter_append _ _

/-- A verdict that says of no reference that nothing is there adds nothing to one that may have
failed. -/
theorem absences_append_of_nil (hb : b.absences = []) : (a ++ b).absences = a.absences := by
  rw [absences, remarks_append, List.filter_append]
  split
  · exact List.append_nil _
  · exact (congrArg _ hb).trans (List.append_nil _)

theorem tells_clean : Tells s t [] clean := ⟨rfl, rfl⟩

theorem tells_note (h : code ∉ Reference.codes) : Tells s t [] (note t code args) :=
  ⟨rfl, (says_note (List.mem_singleton.2 rfl)).absences_eq_nil (by simpa using h)⟩

/-- A reference is remarked on if nothing is there. -/
theorem tells_ite (ref : Reference) :
    Tells s t [ref] (if ref.missing s then note t ref.code (ref.args s) else clean) := by
  have hcode : ref.code ∈ Reference.codes := by
    cases ref <;> simp [Reference.code, Reference.codes]
  cases hm : ref.missing s with
  | false => exact ⟨rfl, by simp [hm, absences, clean]⟩
  | true => exact ⟨rfl, by simp [hm, absences, note, hcode, Reference.remark]⟩

/-- One verdict after the other tells of the references of both. -/
theorem Tells.append (ha : a.Tells s t refs) (hb : b.Tells s t more) :
    (a ++ b).Tells s t (refs ++ more) := by
  refine ⟨?_, ?_⟩
  · show (Verdict.append a b).failure = none
    rw [Verdict.append, ha.failure]
    exact hb.failure
  · rw [absences_append ha.failure, ha.absences, hb.absences, List.filter_append, List.map_append]

/-- Verdicts one after the other tell of the references of each. -/
theorem tells_concat {α : Type} {l : List α} {f : α → Verdict} {g : α → List Reference}
    (h : ∀ x ∈ l, (f x).Tells s t (g x)) : (concat (l.map f)).Tells s t (l.flatMap g) := by
  induction l with
  | nil => exact tells_clean
  | cons x rest ih =>
    exact (h x List.mem_cons_self).append (ih fun y hy => h y (List.mem_cons_of_mem _ hy))

end Verdict

/-! ## The builtin checks -/

/-- A snapshot has a table for every kind it knows, and knows the builtin ones. -/
structure Snapshot.HasTables (s : Snapshot) : Prop where
  table : ∀ kind, s.registry.contains kind → ∃ t, s.table kind = .ok t
  builtin : ∀ kind ∈ Kind.builtin, s.registry.contains kind

section checks
open Verdict
variable {s : Snapshot} (h : s.HasTables) (t : Target)
include h

namespace Snapshot.HasTables

/-- A builtin kind has a table. -/
theorem table_of_mem {kind : Kind} (hkind : kind ∈ Kind.builtin) : ∃ t, s.table kind = .ok t :=
  h.table kind (h.builtin kind hkind)

/-- Whether a builtin kind is loaded is known. -/
theorem isLoaded {kind : Kind} (hkind : kind ∈ Kind.builtin) : ∃ b, s.isLoaded kind = .ok b := by
  obtain ⟨table, ht⟩ := h.table_of_mem hkind
  exact ⟨table.loaded, map_eq_ok_iff.2 ⟨table, ht, rfl⟩⟩

/-- A name of a builtin kind can be looked up. -/
theorem get? {kind : Kind} (hkind : kind ∈ Kind.builtin) (fqn : Fqn) :
    ∃ r, s.get? kind fqn = .ok r := by
  obtain ⟨table, ht⟩ := h.table_of_mem hkind
  exact ⟨table.get? fqn, map_eq_ok_iff.2 ⟨table, ht, rfl⟩⟩

/-- The records of a builtin kind in a namespace can be listed. -/
theorem scanNamespace {kind : Kind} (hkind : kind ∈ Kind.builtin) (space : String) :
    ∃ l, s.scanNamespace kind space = .ok l := by
  obtain ⟨table, ht⟩ := h.table_of_mem hkind
  exact ⟨table.scanNamespace space, map_eq_ok_iff.2 ⟨table, ht, rfl⟩⟩

/-- Every owner can be resolved. -/
theorem resolveOwner (space : String) (o : OwnerReference) :
    ∃ l, s.resolveOwner space o = .ok l := by
  rw [Snapshot.resolveOwner]
  cases hk : s.registry.kindForOwner o.kind with
  | none => exact ⟨_, rfl⟩
  | some kind =>
    obtain ⟨table, ht⟩ := h.table kind (Option.mem_filter_iff.1 hk).2
    simp only [Snapshot.isLoaded, Snapshot.get?, ht, Except.map, bind, Except.bind]
    split
    · cases table.get? (.join space o.name) with
      | none => exact ⟨_, rfl⟩
      | some r => exact ⟨_, rfl⟩
    · exact ⟨_, rfl⟩

end Snapshot.HasTables

/-- The account of a pod or a subject is remarked on if it is loaded that there is none. -/
theorem tells_account {fqn : Fqn} {loaded : Bool}
    (hloaded : s.isLoaded .serviceAccounts = .ok loaded) :
    (if loaded then onResult (AuditError.ofStore (s.get? .serviceAccounts fqn)) fun
      | none => note t 1300 [fqn.text]
      | some _ => clean
    else clean).Tells s t [.account fqn] := by
  obtain ⟨r, hr⟩ := h.get? (by decide : Kind.serviceAccounts ∈ Kind.builtin) fqn
  have hmissing : (Reference.account fqn).missing s = (loaded && r.isNone) := by
    rw [Reference.missing, hloaded, hr]
    cases loaded <;> cases r <;> rfl
  have htells := tells_ite (s := s) (t := t) (.account fqn)
  rw [hmissing] at htells
  rw [hr]
  cases loaded <;> cases r <;> exact htells

namespace PodCheck

theorem tells_onOwner (p : Pod) (o : OwnerReference) :
    (onOwner s t p o).Tells s t [.owner p.metadata.space o] := by
  obtain ⟨l, hl⟩ := h.resolveOwner p.metadata.space o
  have hmissing : (Reference.owner p.metadata.space o).missing s = (l == .missing) := by
    rw [Reference.missing, hl]
    rfl
  have htells := tells_ite (s := s) (t := t) (.owner p.metadata.space o)
  rw [hmissing] at htells
  rw [onOwner, hl]
  cases l <;> exact htells

theorem tells_onAccount {loaded : Bool} (hloaded : s.isLoaded .serviceAccounts = .ok loaded)
    (p : Pod) : (onAccount s loaded t p).Tells s t
      (if p.serviceAccountName.isEmpty || p.serviceAccountName = defaultAccount then []
        else [.account (.join p.metadata.space p.serviceAccountName)]) := by
  unfold onAccount
  extract_lets name account
  have hname : name = defaultAccount ↔
      (p.serviceAccountName.isEmpty || p.serviceAccountName = defaultAccount) = true := by
    simp only [name]
    split <;> simp_all
  by_cases hdefault : name = defaultAccount
  · rw [if_pos hdefault, if_pos (hname.1 hdefault)]
    exact tells_note (by decide)
  · have hset : name = p.serviceAccountName := by
      rw [hname] at hdefault
      exact if_neg (by simp_all)
    have haccount : account = .join p.metadata.space p.serviceAccountName :=
      congrArg (Fqn.join p.metadata.space) hset
    rw [if_neg hdefault, if_neg (mt hname.2 hdefault), haccount]
    exact tells_account h t hloaded

/-- Of a pod the check says which of its owners and whether its account are missing. -/
theorem absences_verdict {loaded : Bool} (hloaded : s.isLoaded .serviceAccounts = .ok loaded)
    (p : Pod) : (verdict s loaded t p).absences =
      ((references p).filter (·.missing s)).map (·.remark s t) := by
  have hlabels : (onLabels t p).Tells s t [] := by
    rw [onLabels]
    split
    · exact tells_note (by decide)
    · exact tells_clean
  have howners : (concat (p.metadata.owners.map (onOwner s t p))).Tells s t
      (p.metadata.owners.flatMap fun o => [.owner p.metadata.space o]) :=
    tells_concat fun o _ => tells_onOwner h t p o
  have hinit : (concat (p.initContainers.map (onInitContainer t))).Says t containerCodes := by
    refine says_concat fun v hv => ?_
    obtain ⟨c, -, rfl⟩ := List.mem_map.1 hv
    exact says_onInitContainer t c
  have hcontainers : (concat (p.containers.map (onContainer t))).Says t containerCodes := by
    refine says_concat fun v hv => ?_
    obtain ⟨c, -, rfl⟩ := List.mem_map.1 hv
    exact says_onContainer t c
  rw [verdict, absences_append_of_nil (hcontainers.absences_eq_nil (by decide)),
    absences_append_of_nil (hinit.absences_eq_nil (by decide))]
  have htells := (hlabels.append howners).append (tells_onAccount h t hloaded p)
  rw [htells.absences, ← List.map_eq_flatMap]
  rfl

end PodCheck

/-- Of a service the check says if there are no pods it stands for. -/
theorem ServiceCheck.tells_verdict (r : Service) :
    (verdict s t r).Tells s t (references r) := by
  rw [verdict, references]
  cases r.isExternalName with
  | true => exact tells_clean
  | false =>
    cases r.selector.isEmpty with
    | true => exact tells_note (by decide)
    | false =>
      obtain ⟨l, hl⟩ := h.scanNamespace (by decide : Kind.pods ∈ Kind.builtin) r.metadata.space
      let pods := l.filter fun x => Selector.selects ⟨r.selector, []⟩ x.labels
      have hpods : s.findSelected .pods r.metadata.space ⟨r.selector, []⟩ = .ok pods :=
        map_eq_ok_iff.2 ⟨l, hl, rfl⟩
      have hmissing : (Reference.selected r.metadata.space ⟨r.selector, []⟩).missing s =
          pods.isEmpty := by
        rw [Reference.missing, hpods]
        cases pods <;> rfl
      have htells := tells_ite (s := s) (t := t) (.selected r.metadata.space ⟨r.selector, []⟩)
      rw [hmissing] at htells
      rw [hpods]
      exact htells

namespace NetworkPolicyCheck

theorem tells_onSelector (p : NetworkPolicy) :
    (onSelector s t p).Tells s t [.covered p.metadata.space p.podSelector] := by
  obtain ⟨l, hl⟩ := h.scanNamespace (by decide : Kind.pods ∈ Kind.builtin) p.metadata.space
  let pods := l.filter fun x => p.podSelector.covers x.labels
  have hpods : s.findCovered .pods p.metadata.space p.podSelector = .ok pods :=
    map_eq_ok_iff.2 ⟨l, hl, rfl⟩
  have hmissing : (Reference.covered p.metadata.space p.podSelector).missing s = pods.isEmpty := by
    rw [Reference.missing, hpods]
    cases pods <;> rfl
  have htells := tells_ite (s := s) (t := t) (.covered p.metadata.space p.podSelector)
  rw [hmissing] at htells
  rw [onSelector, hpods]
  exact htells

omit t in
/-- The namespaces that are looked in are found, unless they are not known. -/
theorem exists_spacesOf (p : NetworkPolicy) (q : PolicyPeer) :
    ∃ spaces, spacesOf s p q = .ok spaces := by
  rw [spacesOf]
  cases q.namespaceSelector with
  | none => exact ⟨_, rfl⟩
  | some selector =>
    obtain ⟨table, ht⟩ := h.table_of_mem (by decide : Kind.namespaces ∈ Kind.builtin)
    simp only [Snapshot.isLoaded, Snapshot.findNamespaces, Snapshot.scan, ht, Except.map, bind,
      Except.bind]
    split
    · exact ⟨_, rfl⟩
    · exact ⟨_, rfl⟩

omit h t in
/-- Pods can be looked for in any namespaces if they can be listed in each. -/
theorem exists_coversIn (hpods : ∀ space, ∃ l, s.scanNamespace .pods space = .ok l)
    (selector : Selector) (spaces : List String) : ∃ b, coversIn s selector spaces = .ok b := by
  induction spaces with
  | nil => exact ⟨_, rfl⟩
  | cons space rest ih =>
    obtain ⟨l, hl⟩ := hpods space
    simp only [coversIn, Snapshot.findCovered, hl, Except.map, bind, Except.bind]
    split
    · exact ih
    · exact ⟨_, rfl⟩

theorem tells_onPods (direction : String) (p : NetworkPolicy) (q : PolicyPeer) :
    (onPods s direction t p q).Tells s t (q.podSelector.map (.peer direction p q)).toList := by
  rw [onPods]
  cases q.podSelector with
  | none => exact tells_clean
  | some selector =>
    obtain ⟨known, hknown⟩ := exists_spacesOf h p q
    have hspaces : Reference.spaces? s p q = known := by
      rw [Reference.spaces?, hknown]
      rfl
    have htells := tells_ite (s := s) (t := t) (.peer direction p q selector)
    rw [Reference.missing, Reference.args, hspaces] at htells
    simp only [hknown]
    cases known with
    | none => exact htells
    | some spaces =>
      obtain ⟨covered, hcovered⟩ := exists_coversIn (h.scanNamespace (by decide)) selector spaces
      rw [Option.any_some, hcovered] at htells
      show (onResult (AuditError.ofStore (coversIn s selector spaces)) _).Tells s t _
      rw [hcovered]
      cases covered <;> exact htells

theorem tells_onRules (direction : String) (p : NetworkPolicy) (rules : List PolicyRule) :
    (onRules s direction t p rules).Tells s t (peerReferences direction p rules) := by
  refine tells_concat fun q _ => ?_
  have hpods := tells_onPods h t direction p q
  rw [onPeer]
  cases q.ipBlock with
  | none => exact tells_clean.append hpods
  | some b =>
    have hblock : (onBlock t b).Tells s t [] := by
      rw [onBlock]
      split
      · exact tells_clean
      · exact tells_note (by decide)
      · exact tells_note (by decide)
    exact hblock.append hpods

/-- Of a policy the check says if there are no pods it is about, and none of which of its peers. -/
theorem tells_verdict (p : NetworkPolicy) : (verdict s t p).Tells s t (references p) :=
  ((tells_onSelector h t p).append (tells_onRules h t "ingress" p p.ingress)).append
    (tells_onRules h t "egress" p p.egress)

end NetworkPolicyCheck

/-- Of a binding the check says which of the accounts among its subjects are missing. -/
theorem RoleBindingCheck.tells_verdict {loaded : Bool}
    (hloaded : s.isLoaded .serviceAccounts = .ok loaded) (b : RoleBinding) :
    (verdict s loaded t b).Tells s t (references b) := by
  rw [verdict, references]
  split
  · rename_i hempty
    rw [List.isEmpty_iff.1 hempty]
    exact tells_note (by decide)
  · cases loaded with
    | false =>
      have hnone : ((b.subjects.filter (·.isServiceAccount)).map fun subject =>
          Reference.account (accountOf b subject)).filter (·.missing s) = [] := by
        refine List.filter_eq_nil_iff.2 fun ref href => ?_
        obtain ⟨subject, -, rfl⟩ := List.mem_map.1 href
        rw [Reference.missing, hloaded]
        exact Bool.false_ne_true
      exact ⟨rfl, (congrArg (List.map _) hnone).symm⟩
    | true =>
      rw [if_pos rfl, List.map_eq_flatMap]
      exact tells_concat fun subject _ => tells_account h t hloaded

end checks

end ClusterAudit
