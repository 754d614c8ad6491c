import ClusterAudit.Proofs.Collector
import ClusterAudit.Proofs.InternalError
import ClusterAudit.Proofs.Store.Schema

/-!
# What the checks of pods and bindings find missing

Checks look an owner or an account up under the name that its namespace and its own name are joined
to. Where namespaces are free of slashes (`Snapshot.SlashFree`) that finds the record of just that
namespace and that name (`Snapshot.get?_join_eq_none_iff`), so the checks report exactly what is not
there: of a pod every owner and the account (`PodCheck.TellsMissing`), of a binding every account
among its subjects (`RoleBindingCheck.TellsMissing`). `Schedule.tellsMissing_checks` says so of
every run without suppression rules.
-/

namespace ClusterAudit

/-! ## What is not there and should be told -/

/-- The namespace in which the account of a subject lies. -/
def RoleBindingCheck.spaceOf (b : RoleBinding) (subject : BindingSubject) : String :=
  if subject.space.isEmpty then b.metadata.space else subject.space

/-- The names that an object uses, each within its namespace: its own and those of the owners and
accounts that it refers to. -/
def Resource.names (x : Resource) : List (String × String) :=
  (x.space, x.name) :: match x with
    | pod p => (p.metadata.space, p.serviceAccountName) ::
        p.metadata.owners.map fun o => (p.metadata.space, o.name)
    | roleBinding b | clusterRoleBinding b =>
      (b.subjects.filter (·.isServiceAccount)).map fun subject =>
        (RoleBindingCheck.spaceOf b subject, subject.name)
    | _ => []

namespace Snapshot

/-- The records of all kinds. -/
def records (s : Snapshot) : List Resource := s.tables.values.flatMap Table.scan

/-- No namespace has a slash, and no name that is used outside all namespaces has one. -/
def SlashFree (s : Snapshot) : Prop :=
  ∀ x ∈ s.records, ∀ n ∈ x.names, Fqn.Plain n.1 n.2

instance (s : Snapshot) : Decidable s.SlashFree :=
  inferInstanceAs (Decidable (∀ x ∈ s.records, ∀ n ∈ x.names, Fqn.Plain n.1 n.2))

/-- Whether a kind is loaded and has no record of a namespace and a name. -/
def lacks (s : Snapshot) (kind : Kind) (space name : String) : Bool :=
  match s.isLoaded kind, s.scan kind with
  | .ok true, .ok records => records.all fun x => (x.space, x.name) ≠ (space, name)
  | _, _ => false

/-- Whether an owner of an object in a namespace is called by a name that stands for such a kind. -/
def lacksOwner (s : Snapshot) (space : String) (o : OwnerReference) : Bool :=
  (s.registry.aliases.get? o.kind).any fun kind => s.lacks kind space o.name

end Snapshot

/-- The findings of a pod tell what it lacks: one for every owner that is not there, in order, and
one for its account if that is another than the default one and not there. -/
structure PodCheck.TellsMissing (g : Glossary) (s : Snapshot) (p : Pod) (fs : List Finding) :
    Prop where
  owners : List.Forall₂
    (fun o f => f.Of g rootGroup 208 [o.kind, (Fqn.join p.metadata.space o.name).text])
    (p.metadata.owners.filter (s.lacksOwner p.metadata.space)) (fs.filter (·.code = some 208))
  account : if p.serviceAccountName ∉ ["", defaultAccount] ∧
      s.lacks .serviceAccounts p.metadata.space p.serviceAccountName
    then ∃ f, fs.filter (·.code = some 1300) = [f] ∧
      f.Of g rootGroup 1300 [(Fqn.join p.metadata.space p.serviceAccountName).text]
    else fs.filter (·.code = some 1300) = []

/-- The findings of a binding tell what it lacks and nothing else: that it has no subjects, or one
for every account among them that is not there, in order. -/
def RoleBindingCheck.TellsMissing (g : Glossary) (s : Snapshot) (b : RoleBinding)
    (fs : List Finding) : Prop :=
  if b.subjects = [] then ∃ f, fs = [f] ∧ f.Of g rootGroup 1301 []
  else List.Forall₂ (fun subject f => f.Of g rootGroup 1300 [(accountOf b subject).text])
    (b.subjects.filter fun subject => subject.isServiceAccount &&
      s.lacks .serviceAccounts (spaceOf b subject) subject.name) fs

/-! ## Looking up joined names -/

namespace Snapshot

/-- What is found is one of the records. -/
theorem mem_records_of_get? {s : Snapshot} {kind : Kind} {fqn : Fqn} {x : Resource}
    (h : s.get? kind fqn = .ok (some x)) : x ∈ s.records := by
  obtain ⟨table, ht, hx⟩ := map_eq_ok_iff.1 h
  exact List.mem_flatMap.2 ⟨table, Dict.mem_values_iff.2 ⟨kind, Tables.table_eq_ok_iff.1 ht⟩,
    (table.mem_scan_iff x).2 ⟨fqn, hx⟩⟩

section names
variable {s : Snapshot} (h : s.SlashFree) {kind : Kind} {fqn : Fqn} {x : Resource}
include h

/-- The name of a stored object tells its parts. -/
theorem SlashFree.plain (hx : s.get? kind fqn = .ok (some x)) : Fqn.Plain x.space x.name :=
  h x (mem_records_of_get? hx) _ List.mem_cons_self

/-- So does that of the account of a stored pod. -/
theorem SlashFree.plain_account {p : Pod} (hp : s.get? kind fqn = .ok (some (.pod p))) :
    Fqn.Plain p.metadata.space p.serviceAccountName :=
  h _ (mem_records_of_get? hp) _ (List.mem_cons_of_mem _ List.mem_cons_self)

/-- So do those of its owners. -/
theorem SlashFree.plain_owner {p : Pod} (hp : s.get? kind fqn = .ok (some (.pod p)))
    {o : OwnerReference} (ho : o ∈ p.metadata.owners) : Fqn.Plain p.metadata.space o.name :=
  h _ (mem_records_of_get? hp) _
    (List.mem_cons_of_mem _ (List.mem_cons_of_mem _ (List.mem_map_of_mem ho)))

/-- So do those of the accounts among the subjects of a stored binding. -/
theorem SlashFree.plain_subject (hx : s.get? kind fqn = .ok (some x)) {b : RoleBinding}
    (hb : x.asRoleBinding = some b) {subject : BindingSubject} (hsubject : subject ∈ b.subjects)
    (haccount : subject.isServiceAccount) :
    Fqn.Plain (RoleBindingCheck.spaceOf b subject) subject.name := by
  have hnames := h x (mem_records_of_get? hx)
  have hmem := List.mem_filter.2 ⟨hsubject, haccount⟩
  cases x <;> cases hb <;> exact hnames _ (List.mem_cons_of_mem _ (List.mem_map_of_mem hmem))

end names

section replay
variable {r : Registry} {log : List (List Change)} {s : Snapshot} (hs : s = .replay r log)
  {kind : Kind} {records : List Resource} {space name : String}
include hs

/-- A record is found under its name. -/
theorem fqn_of_get? {fqn : Fqn} {x : Resource} (h : s.get? kind fqn = .ok (some x)) :
    x.fqn = fqn := by
  rw [hs, get?_replay] at h
  split at h
  · exact fqn_of_latest? (Except.ok.inj h)
  · cases h

/-- Looking a joined name up finds nothing exactly if there is no record of its parts. -/
theorem get?_join_eq_none_iff (hscan : s.scan kind = .ok records)
    (hrecords : ∀ x ∈ records, Fqn.Plain x.space x.name) (h : Fqn.Plain space name) :
    s.get? kind (.join space name) = .ok none ↔
      ∀ x ∈ records, (x.space, x.name) ≠ (space, name) := by
  obtain ⟨table, ht, -⟩ := map_eq_ok_iff.1 hscan
  have hget : s.get? kind (.join space name) = .ok (table.get? (.join space name)) :=
    map_eq_ok_iff.2 ⟨table, ht, rfl⟩
  rw [hget]
  cases hfound : table.get? (.join space name) with
  | none =>
    refine iff_of_true rfl fun x hx heq => ?_
    obtain ⟨rfl, rfl⟩ := Prod.mk.inj heq
    have hx : s.get? kind (.join x.space x.name) = .ok (some x) :=
      (mem_scan_iff_get? hs hscan).1 hx
    rw [hget, hfound] at hx
    cases hx
  | some x =>
    rw [hfound] at hget
    -- what is found has the joined name, and plain names tell their parts
    have hfqn : x.fqn = .join space name := fqn_of_get? hs hget
    have hx : x ∈ records := (mem_scan_iff_get? hs hscan).2 (hfqn ▸ hget)
    exact iff_of_false nofun fun hnot => hnot x hx ((hrecords x hx).eq_of_join h hfqn)

/-- Where namespaces are free of slashes a kind lacks a record exactly if it is loaded and nothing
is found under the joined name. -/
theorem lacks_iff (hfree : s.SlashFree) (h : Fqn.Plain space name) :
    s.lacks kind space name ↔
      s.isLoaded kind = .ok true ∧ s.get? kind (.join space name) = .ok none := by
  cases ht : s.table kind with
  | error error =>
    have hloaded : s.isLoaded kind = .error error := by
      rw [isLoaded, ht]
      rfl
    simp [lacks, hloaded]
  | ok table =>
    have hscan : s.scan kind = .ok table.scan := map_eq_ok_iff.2 ⟨table, ht, rfl⟩
    have hloaded : s.isLoaded kind = .ok table.loaded := map_eq_ok_iff.2 ⟨table, ht, rfl⟩
    have hrecords : ∀ x ∈ table.scan, Fqn.Plain x.space x.name := fun x hx =>
      hfree.plain ((mem_scan_iff_get? hs hscan).1 hx)
    rw [get?_join_eq_none_iff hs hscan hrecords h, lacks, hscan, hloaded]
    cases table.loaded with
    | false => simp
    | true => simp only [List.all_eq_true, decide_eq_true_iff, true_and]

end replay

end Snapshot

/-! ## References -/

namespace Reference

section replay
variable {r : Registry} {log : List (List Change)} {s : Snapshot} (hs : s = .replay r log)
  (hfree : s.SlashFree) {space : String}
include hs hfree

/-- An account is missing exactly if the kind of accounts lacks it. -/
theorem missing_account {name : String} (h : Fqn.Plain space name) :
    (account (.join space name)).missing s = s.lacks .serviceAccounts space name := by
  rw [Bool.eq_iff_iff, Snapshot.lacks_iff hs hfree h, missing, Bool.and_eq_true, beq_iff_eq,
    beq_iff_eq, toOption_eq_some_iff, toOption_eq_some_iff]

/-- An owner is missing exactly if the kind lacks it that its name for owners stands for. -/
theorem missing_owner {o : OwnerReference} (h : Fqn.Plain space o.name) :
    (owner space o).missing s = s.lacksOwner space o := by
  have hcovers : s.tables.Covers r := hs ▸ Tables.covers_replay r _
  have hregistry : s.registry = r := hs ▸ rfl
  obtain ⟨lookup, hlookup, hresolves⟩ := Snapshot.exists_resolves hregistry hcovers space o
  rw [Bool.eq_iff_iff, missing, hlookup, beq_iff_eq, toOption_eq_some_iff, Except.ok.injEq,
    hresolves.missing, Snapshot.lacksOwner, hregistry, Option.any_eq_true]
  refine exists_congr fun kind => ?_
  rw [Snapshot.Tracks, and_assoc, and_assoc, Snapshot.lacks_iff hs hfree h]
  -- the two sides differ in that the kind is registered, and a loaded one is
  refine and_congr_right fun _ => and_iff_right_of_imp fun hfound => ?_
  have hanswers := (Snapshot.answers_of_covers hcovers kind).isLoaded
  by_contra hkind
  rw [Registry.Answers, if_neg hkind, hfound.1] at hanswers
  cases hanswers

end replay

end Reference

/-! ## What is told -/

/-- The finding tells what a remark says. -/
def Remark.Told (g : Glossary) (r : Remark) (f : Finding) : Prop :=
  f.Of g (r.group.getD rootGroup) r.code r.args

section told
variable {g : Glossary} {t : Target} {v : Verdict} {registered : List Fqn}

theorem Remark.told_of_finding {r : Remark} {f : Finding} (h : r.finding? g = some f) :
    r.Told g f := by
  rw [finding?] at h
  split at h
  · rename_i hs hm
    cases h
    exact ⟨rfl, rfl, hs, hm⟩
  · cases h

/-- A single remark is told by a single finding. -/
theorem Remark.exists_told_singleton {r : Remark} {told : List Finding}
    (h : List.Forall₂ (Remark.Told g) [r] told) : ∃ f, told = [f] ∧ r.Told g f := by
  obtain ⟨f, rest, hf, hrest, rfl⟩ := List.forall₂_cons_left_iff.1 h
  obtain rfl := List.forall₂_nil_left_iff.1 hrest
  exact ⟨f, rfl, hf⟩

/-- Where nothing is suppressed, what is left of remarks about a registered object tells them. -/
theorem Remark.told_kept_issues {fqn : Fqn} (hfqn : fqn ∈ registered) {l : List Remark}
    (h : ∀ r ∈ l, r.target.fqn = fqn ∧ (g.severity? r.code).isSome) :
    List.Forall₂ (Remark.Told g) l (Issue.kept .none (issues g registered l).1 fqn) := by
  induction l with
  | nil => exact .nil
  | cons r rest ih =>
    obtain ⟨hr, hcode⟩ := h r List.mem_cons_self
    obtain ⟨f, hf⟩ := exists_finding hcode
    let i : Issue := ⟨r.target.fqn, some r.subject, f⟩
    have hkept : Issue.kept .none (i :: (issues g registered rest).1) fqn =
        f :: Issue.kept .none (issues g registered rest).1 fqn := by
      simp [i, Issue.kept, hr, Issue.silenced_none]
    rw [issues, issue_eq (hr ▸ hfqn) hf]
    show List.Forall₂ _ _ (Issue.kept .none (i :: (issues g registered rest).1) fqn)
    rw [hkept]
    exact .cons (told_of_finding hf) (ih fun r' hr' => h r' (List.mem_cons_of_mem _ hr'))

/-- Where nothing is suppressed, what is left of a verdict tells its remarks, if their codes are
known, and then comes its failure. -/
theorem Verdict.Says.exists_told {codes : List Code} (hspeaks : v.Says t codes) (hg : g.Knows codes)
    (ht : t.fqn ∈ registered) : ∃ told, List.Forall₂ (Remark.Told g) v.remarks told ∧
      Issue.kept .none (v.issues g registered t) t.fqn = told ++
        (v.failure.map fun e => (Issue.failure g t.fqn e.message).finding).toList := by
  refine ⟨_, Remark.told_kept_issues ht fun r hr =>
    ⟨congrArg Target.fqn (hspeaks r hr).1, hspeaks.isSome_severity hg hr⟩, ?_⟩
  rw [hspeaks.issues_eq hg ht, Reports.kept_append]
  cases v.failure with
  | none => rfl
  | some e => simp [Issue.kept, Issue.failure, Issue.silenced]

/-- Among findings that end in a failure those of a code tell the remarks of that code. -/
theorem Remark.told_filter {remarks : List Remark} {told failed : List Finding}
    (h : List.Forall₂ (Remark.Told g) remarks told)
    (hfailed : ∀ f ∈ failed, f.code = some Glossary.internalError) {code : Code}
    (hcode : code ≠ Glossary.internalError) : List.Forall₂ (Remark.Told g)
      (remarks.filter (·.code = code)) ((told ++ failed).filter (·.code = some code)) := by
  have hnone : failed.filter (·.code = some code) = [] := by
    refine List.filter_eq_nil_iff.2 fun f hf => ?_
    simpa [hfailed f hf] using Ne.symm hcode
  rw [List.filter_append, hnone, List.append_nil]
  refine List.rel_filter (fun r f hf => ?_) h
  simp [hf.code_eq]

end told

section onRecords
variable {r : Registry} {log : List (List Change)} {s : Snapshot} (hs : s = .replay r log)
  {kind : Kind} (hkind : r.contains kind) {g : Glossary} {α : Type} {as : Resource → Option α}
  {target : α → Target} {verdict : Target → α → Verdict}
include hs hkind

/-- Where nothing is suppressed, a check that looks at the records of a sort, and remarks on them
under known codes, has findings of each that tell the remarks on it and then the failure. -/
theorem Check.exists_told_of_knows {codes : List Code} (hg : g.Knows codes)
    (hfqn : ∀ x a, as x = some a → (target a).fqn = x.fqn)
    (hspeaks : ∀ a, (verdict (target a) a).Says (target a) codes) :
    ∃ l, onRecords s kind as target verdict = .ok l ∧
      ∀ x a, as x = some a → s.get? kind x.fqn = .ok (some x) →
        ∃ told, List.Forall₂ (Remark.Told g) (verdict (target a) a).remarks told ∧
          (collect kind g .none l).get? x.fqn = some (told ++ ((verdict (target a) a).failure.map
            fun e => (Issue.failure g x.fqn e.message).finding).toList) := by
  have hscan : s.scan kind = .ok (Table.ofRecords (recordsOf kind log)).scan := by
    rw [hs, Snapshot.scan_replay, if_pos hkind]
  generalize hrecords : (Table.ofRecords (recordsOf kind log)).scan = records at hscan
  let l := (records.filterMap as).map fun a => (target a, verdict (target a) a)
  have hlook : onRecords s kind as target verdict = .ok l := by
    rw [onRecords, Snapshot.scanAs, hscan]
    rfl
  -- listed names ascend, so every object is looked at once
  have hdistinct : l.Pairwise fun v w => v.1.fqn ≠ w.1.fqn := by
    rw [List.pairwise_map, List.pairwise_filterMap, ← hrecords]
    refine Table.ascending_scan_ofRecords.imp fun {x y} hlt a ha b hb heq => ?_
    rw [hfqn x a ha, hfqn y b hb] at heq
    simp [heq] at hlt
  refine ⟨l, hlook, fun x a ha hx => ?_⟩
  have hv : (target a, verdict (target a) a) ∈ l := List.mem_map_of_mem
    (List.mem_filterMap.2 ⟨x, (Snapshot.mem_scan_iff_get? hs hscan).2 hx, ha⟩)
  have hall : ∀ v ∈ l, ∃ codes, v.2.Says v.1 codes := fun v hv => by
    obtain ⟨b, -, rfl⟩ := List.mem_map.1 hv
    exact ⟨_, hspeaks b⟩
  obtain ⟨registered, hregistered, hget⟩ := get?_collect_of_mem hdistinct hall hv kind g .none
  obtain ⟨told, htold, hkept⟩ := (hspeaks a).exists_told hg hregistered
  refine ⟨told, htold, ?_⟩
  rw [← hfqn x a ha, hget, hkept]

/-- So has a builtin check under a glossary that has all builtin codes. -/
theorem Check.exists_told_onRecords (hg : g.CoversBuiltin)
    (hfqn : ∀ x a, as x = some a → (target a).fqn = x.fqn)
    (hspeaks : ∀ a, (verdict (target a) a).Says (target a) Glossary.remarkCodes) :
    ∃ l, onRecords s kind as target verdict = .ok l ∧
      ∀ x a, as x = some a → s.get? kind x.fqn = .ok (some x) →
        ∃ told, List.Forall₂ (Remark.Told g) (verdict (target a) a).remarks told ∧
          (collect kind g .none l).get? x.fqn = some (told ++ ((verdict (target a) a).failure.map
            fun e => (Issue.failure g x.fqn e.message).finding).toList) :=
  exists_told_of_knows hs hkind hg.knows hfqn hspeaks

end onRecords

/-! ## The remarks of verdicts -/

namespace Verdict

/-- The remarks under a code for missing references are those for the missing references of the
code. -/
theorem filter_remarks_of_absences {s : Snapshot} {t : Target} {refs : List Reference} {v : Verdict}
    (h : v.absences = (refs.filter (·.missing s)).map (·.remark s t)) {code : Code}
    (hcode : code ∈ Reference.codes) : v.remarks.filter (·.code = code) =
      ((refs.filter (·.code = code)).filter (·.missing s)).map (·.remark s t) := by
  have habsences : v.remarks.filter (·.code = code) = v.absences.filter (·.code = code) := by
    rw [absences, List.filter_filter]
    refine List.filter_congr fun r _ => ?_
    by_cases hr : r.code = code <;> simp [hr, hcode]
  rw [habsences, h, List.filter_map, List.filter_filter, List.filter_filter]
  congr 2
  funext ref
  exact Bool.and_comm _ _

end Verdict

section checks
variable {s : Snapshot} (h : s.HasTables) (t : Target) {loaded : Bool}
  (hloaded : s.isLoaded .serviceAccounts = .ok loaded)
include h hloaded

namespace PodCheck

/-- The check of pods remarks on the missing owners. -/
theorem filter_remarks_owners (p : Pod) : (verdict s loaded t p).remarks.filter (·.code = 208) =
    (p.metadata.owners.filter fun o => (Reference.owner p.metadata.space o).missing s).map fun o =>
      (Reference.owner p.metadata.space o).remark s t := by
  have howners : (references p).filter (·.code = 208) =
      p.metadata.owners.map (.owner p.metadata.space) := by
    have hne : (1300 : Code) ≠ 208 := by decide
    rw [references, List.filter_append, List.filter_eq_self.2 (by simp [Reference.code])]
    split <;> simp [Reference.code, hne]
  rw [Verdict.filter_remarks_of_absences (absences_verdict h t hloaded p) (by decide), howners,
    List.filter_map, List.map_map]
  rfl

/-- The check of pods remarks on the account if that is missing. -/
theorem filter_remarks_account (p : Pod) :
    let account : Reference := .account (.join p.metadata.space p.serviceAccountName)
    (verdict s loaded t p).remarks.filter (·.code = 1300) =
      if p.serviceAccountName ∉ ["", defaultAccount] ∧ account.missing s then [account.remark s t]
      else [] := by
  intro account
  have haccounts : (references p).filter (·.code = 1300) =
      if p.serviceAccountName ∉ ["", defaultAccount] then [account] else [] := by
    have hne : (208 : Code) ≠ 1300 := by decide
    rw [references, List.filter_append, List.filter_eq_nil_iff.2 (by simp [Reference.code, hne]),
      List.nil_append]
    by_cases hempty : p.serviceAccountName = "" <;>
      by_cases hdefault : p.serviceAccountName = defaultAccount <;>
        simp [hempty, hdefault, Reference.code, account]
  rw [Verdict.filter_remarks_of_absences (absences_verdict h t hloaded p) (by decide), haccounts]
  by_cases hname : p.serviceAccountName ∈ ["", defaultAccount]
  · rw [if_neg (not_not_intro hname), if_neg fun hn => hn.1 hname]
    rfl
  · rw [if_pos hname]
    cases hm : account.missing s <;> simp [hm, hname]

end PodCheck

/-- The check of bindings remarks that there are no subjects, or on the missing accounts among
them. -/
theorem RoleBindingCheck.remarks_verdict (b : RoleBinding) : (verdict s loaded t b).remarks =
    if b.subjects = [] then [⟨t, 1301, none, []⟩]
    else (b.subjects.filter fun subject => subject.isServiceAccount &&
      (Reference.account (accountOf b subject)).missing s).map fun subject =>
        (Reference.account (accountOf b subject)).remark s t := by
  by_cases hempty : b.subjects = []
  · rw [if_pos hempty, verdict, hempty]
    rfl
  · have hspeaks : (verdict s loaded t b).Says t [1300] := by
      rw [verdict, if_neg (by simpa using hempty)]
      split
      · refine Verdict.says_concat fun v hv => ?_
        obtain ⟨subject, -, rfl⟩ := List.mem_map.1 hv
        exact says_onSubject s t b subject
      · exact Verdict.says_clean
    have hall : (verdict s loaded t b).absences = (verdict s loaded t b).remarks := by
      refine List.filter_eq_self.2 fun r hr => ?_
      rw [List.mem_singleton.1 (hspeaks r hr).2]
      rfl
    rw [if_neg hempty, ← hall, (tells_verdict h t hloaded b).absences, references, List.filter_map,
      List.map_map, List.filter_filter]
    congr 2
    funext subject
    exact Bool.and_comm _ _

end checks

/-! ## Stored objects -/

section replay
variable {r : Registry} {log : List (List Change)} {s : Snapshot} (hs : s = .replay r log)
  (hfree : s.SlashFree) (h : s.HasTables) {loaded : Bool}
  (hloaded : s.isLoaded .serviceAccounts = .ok loaded) {g : Glossary} {t : Target}
include hs hfree h hloaded

/-- Findings that tell the remarks on a stored pod and then a failure tell what it lacks. -/
theorem PodCheck.tellsMissing {p : Pod}
    (hp : s.get? .pods p.metadata.fqn = .ok (some (.pod p))) {told failed : List Finding}
    (htold : List.Forall₂ (Remark.Told g) (verdict s loaded t p).remarks told)
    (hfailed : ∀ f ∈ failed, f.code = some Glossary.internalError) :
    TellsMissing g s p (told ++ failed) := by
  constructor
  · have howners := Remark.told_filter htold hfailed (by decide : (208 : Code) ≠ _)
    rw [filter_remarks_owners h t hloaded, List.forall₂_map_left_iff] at howners
    have hmissing : p.metadata.owners.filter (s.lacksOwner p.metadata.space) =
        p.metadata.owners.filter fun o => (Reference.owner p.metadata.space o).missing s :=
      List.filter_congr fun o ho =>
        (Reference.missing_owner hs hfree (hfree.plain_owner hp ho)).symm
    rw [hmissing]
    exact howners
  · have haccount := Remark.told_filter htold hfailed (by decide : (1300 : Code) ≠ _)
    rw [filter_remarks_account h t hloaded,
      Reference.missing_account hs hfree (hfree.plain_account hp)] at haccount
    split
    · rename_i hlacks
      rw [if_pos hlacks] at haccount
      exact Remark.exists_told_singleton haccount
    · rename_i hlacks
      rw [if_neg hlacks] at haccount
      exact List.forall₂_nil_left_iff.1 haccount

/-- Findings that tell the remarks on a stored binding tell what it lacks. -/
theorem RoleBindingCheck.tellsMissing {kind : Kind} {x : Resource} {b : RoleBinding}
    (hb : x.asRoleBinding = some b) (hx : s.get? kind x.fqn = .ok (some x)) {told : List Finding}
    (htold : List.Forall₂ (Remark.Told g) (verdict s loaded t b).remarks told) :
    TellsMissing g s b told := by
  rw [remarks_verdict h t hloaded] at htold
  rw [TellsMissing]
  split
  · rename_i hempty
    rw [if_pos hempty] at htold
    exact Remark.exists_told_singleton htold
  · rename_i hempty
    rw [if_neg hempty, List.forall₂_map_left_iff] at htold
    have hmissing : (b.subjects.filter fun subject => subject.isServiceAccount &&
        s.lacks .serviceAccounts (spaceOf b subject) subject.name) =
        b.subjects.filter fun subject => subject.isServiceAccount &&
          (Reference.account (accountOf b subject)).missing s := by
      refine List.filter_congr fun subject hsubject => ?_
      cases haccount : subject.isServiceAccount with
      | false => rfl
      | true =>
        rw [← Reference.missing_account hs hfree (hfree.plain_subject hx hb hsubject haccount)]
        rfl
    rw [hmissing]
    exact htold

end replay

namespace Schedule

/-- After every schedule on the builtin registry, in the published snapshot and in every one that
was opened for reading, if namespaces are free of slashes there: under a glossary that has all
builtin codes, and where nothing is suppressed, the check of pods has findings of every pod that
tell what the pod lacks, and the check of the bindings of a registered kind has findings of every
binding that tell what the binding lacks. -/
theorem tellsMissing_checks (schedule : Schedule) {g : Glossary} (hg : g.CoversBuiltin)
    {s : Snapshot} (hs : s ∈ (reach .builtin schedule).store.published ::
      (reach .builtin schedule).readers) (hfree : s.SlashFree) :
    (∃ o, (Check.pods.look s).map (Check.collect .pods g .none) = .ok o ∧
      ∀ p, s.get? .pods p.metadata.fqn = .ok (some (.pod p)) →
        ∃ fs, o.get? p.metadata.fqn = some fs ∧ PodCheck.TellsMissing g s p fs) ∧
    ∀ kind, Registry.builtin.contains kind →
      ∃ o, ((Check.bindings kind).look s).map (Check.collect kind g .none) = .ok o ∧
        ∀ x b, x.asRoleBinding = some b → s.get? kind x.fqn = .ok (some x) →
          ∃ fs, o.get? x.fqn = some fs ∧ RoleBindingCheck.TellsMissing g s b fs := by
  have hreplay := (follows_run .builtin schedule).eq_replay hs
  have htables : s.HasTables := hreplay ▸ Snapshot.hasTables_replay _
  obtain ⟨loaded, hloaded⟩ := htables.isLoaded (by decide : Kind.serviceAccounts ∈ Kind.builtin)
  refine ⟨?_, fun kind hkind => ?_⟩
  · obtain ⟨l, hl, htold⟩ := Check.exists_told_onRecords hreplay
      (by decide : Registry.builtin.contains .pods) hg
      (fun _ _ => Resource.fqn_of_asPod)
      (fun p => (PodCheck.says_verdict s loaded (PodCheck.target p) p).mono (by decide))
    refine ⟨Check.collect .pods g .none l, ?_, fun p hp => ?_⟩
    · rw [Check.look_pods, hloaded]
      exact congrArg (Except.map _) hl
    · obtain ⟨told, htold, hget⟩ := htold (.pod p) p rfl hp
      refine ⟨_, hget, PodCheck.tellsMissing hreplay hfree htables hloaded hp htold fun f hf => ?_⟩
      obtain ⟨e, -, rfl⟩ := Option.map_eq_some_iff.1 (Option.mem_toList.1 hf)
      rfl
  · obtain ⟨l, hl, htold⟩ := Check.exists_told_onRecords hreplay hkind hg
      (fun _ _ => Resource.fqn_of_asRoleBinding)
      (fun b => (RoleBindingCheck.says_verdict s loaded (RoleBindingCheck.target kind b) b).mono
        (by decide))
    refine ⟨Check.collect kind g .none l, ?_, fun x b hb hx => ?_⟩
    · rw [Check.look_bindings, hloaded]
      exact congrArg (Except.map _) hl
    · obtain ⟨told, htold, hget⟩ := htold x b hb hx
      rw [(RoleBindingCheck.tells_verdict htables _ hloaded b).failure] at hget
      refine ⟨told, by simpa using hget, ?_⟩
      exact RoleBindingCheck.tellsMissing hreplay hfree htables hloaded hb hx htold

/-- A pod whose owner and whose account are nowhere. -/
def orphan : Pod :=
  { Pod.ofMeta ((ObjectMeta.named "a" "x").withOwner ⟨"ReplicaSet", "r", true⟩) with
    serviceAccountName := "builder" }

/-- A binding of that account. -/
def orphanBinding : RoleBinding :=
  (RoleBinding.ofMeta (.named "a" "b")).withSubject (.serviceAccount "" "builder")

/-- A client loads accounts and replica sets, of which there are none, and then the pod and the
binding. -/
def loadsOrphan : Schedule :=
  [(0, .load .serviceAccounts []), (0, .proceed), (0, .load .replicaSets []), (0, .proceed),
   (0, .load .pods [.pod orphan]), (0, .proceed), (0, .proceed),
   (0, .load .roleBindings [.roleBinding orphanBinding]), (0, .proceed), (0, .proceed)]

/-- The owner and the account of the pod and the account of the binding are all found missing. -/
theorem tellsMissing_checks_orphan :
    let s := (reach .builtin loadsOrphan).store.published
    Glossary.builtin.CoversBuiltin ∧ s.SlashFree ∧
    s.lacksOwner "a" ⟨"ReplicaSet", "r", true⟩ ∧ s.lacks .serviceAccounts "a" "builder" ∧
    (∃ o fs, (Check.pods.look s).map (Check.collect .pods .builtin .none) = .ok o ∧
      o.get? ⟨"a/x"⟩ = some fs ∧ PodCheck.TellsMissing .builtin s orphan fs) ∧
    ∃ o fs, ((Check.bindings .roleBindings).look s).map
      (Check.collect .roleBindings .builtin .none) = .ok o ∧ o.get? ⟨"a/b"⟩ = some fs ∧
      RoleBindingCheck.TellsMissing .builtin s orphanBinding fs := by
  intro s
  have hglossary := Glossary.coversBuiltin_builtin
  have hfree : s.SlashFree := by decide
  obtain ⟨⟨o, ho, hpods⟩, hbindings⟩ :=
    tellsMissing_checks loadsOrphan hglossary List.mem_cons_self hfree
  obtain ⟨fs, hfs, htells⟩ := hpods orphan (by decide)
  obtain ⟨o', ho', hbinding⟩ := hbindings .roleBindings (by decide)
  obtain ⟨fs', hfs', htells'⟩ := hbinding (.roleBinding orphanBinding) orphanBinding rfl (by decide)
  exact ⟨hglossary, hfree, by decide, by decide, ⟨o, fs, ho, hfs, htells⟩,
    o', fs', ho', hfs', htells'⟩

end Schedule

end ClusterAudit
