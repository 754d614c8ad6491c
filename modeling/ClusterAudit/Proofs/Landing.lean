import ClusterAudit.Proofs.Missing
import ClusterAudit.Proofs.Store.Lookup

/-!
# Whether selectors land on pods

Services and policies ask whether a selector covers a pod in some namespaces. A check answers by
looking up namespace by namespace (`Snapshot.findsPod`), and never overlooks a pod that a listing
shows (`anyCovered`). The answers are the same wherever looking up agrees with listing
(`Snapshot.Sees`), and what the check of services has to say of a service is right exactly if
they are (`ServiceCheck.tellsPods_iff`). `Schedule.looksUp_and_tellsPods` says when that is so.
-/

namespace ClusterAudit

/-! ## Two answers -/

/-- Whether one of some pods is in one of some namespaces and covered by a selector. -/
def anyCovered (pods : List Resource) (spaces : List String) (selector : Selector) : Bool :=
  pods.any fun x => x.space ∈ spaces && selector.covers x.labels

namespace Snapshot

/-- Whether looking pods up in one namespace after the other finds one that a selector covers. -/
def findsPod (s : Snapshot) (spaces : List String) (selector : Selector) : Bool :=
  (NetworkPolicyCheck.coversIn s selector spaces).toOption == some true

/-- Looking up answers a question as a listing of pods does. -/
def Sees (s : Snapshot) (pods : List Resource) (question : List String × Selector) : Prop :=
  s.findsPod question.1 question.2 = anyCovered pods question.1 question.2

variable {s : Snapshot} {pods : List Resource} {spaces : List String} {space : String}
  {selector : Selector}

section listing
variable (hpods : s.scan .pods = .ok pods)
include hpods

/-- The records of pods that the index lists for a namespace. -/
theorem exists_scanNamespace (space : String) :
    ∃ listed, s.scanNamespace .pods space = .ok listed := by
  obtain ⟨table, htable, -⟩ := map_eq_ok_iff.1 hpods
  exact ⟨_, map_eq_ok_iff.2 ⟨table, htable, rfl⟩⟩

/-- Looking up in namespaces does not fail. -/
theorem coversIn_eq (selector : Selector) (spaces : List String) :
    NetworkPolicyCheck.coversIn s selector spaces = .ok (s.findsPod spaces selector) := by
  obtain ⟨b, hb⟩ :=
    NetworkPolicyCheck.exists_coversIn (exists_scanNamespace hpods) selector spaces
  rw [findsPod, hb]
  cases b <;> rfl

/-- A pod is found if it is found in the first namespace or in one of the others. -/
theorem exists_findsPod_cons (space : String) (spaces : List String) (selector : Selector) :
    ∃ found, s.findCovered .pods space selector = .ok found ∧
      s.findsPod (space :: spaces) selector = (!found.isEmpty || s.findsPod spaces selector) := by
  obtain ⟨listed, hlisted⟩ := exists_scanNamespace hpods space
  refine ⟨listed.filter fun x => selector.covers x.labels, map_eq_ok_iff.2 ⟨_, hlisted, rfl⟩, ?_⟩
  rw [findsPod, NetworkPolicyCheck.coversIn, coversIn_eq hpods, findCovered, hlisted]
  cases hfound : listed.filter fun x => selector.covers x.labels with
  | nil => simp [Except.map, bind, Except.bind, Except.toOption, hfound]
  | cons x l => simp [Except.map, bind, Except.bind, Except.toOption, hfound]

/-- In a single namespace a pod is found if the lookup is not empty. -/
theorem exists_findsPod_singleton (space : String) (selector : Selector) :
    ∃ found, s.findCovered .pods space selector = .ok found ∧
      s.findsPod [space] selector = !found.isEmpty := by
  obtain ⟨found, hfound, hfinds⟩ := exists_findsPod_cons hpods space [] selector
  exact ⟨found, hfound, hfinds.trans (Bool.or_false _)⟩

/-- A pod is found if the index lists one for one of the namespaces. -/
theorem findsPod_iff : s.findsPod spaces selector ↔ ∃ space ∈ spaces, ∃ listed,
    s.scanNamespace .pods space = .ok listed ∧ ∃ x ∈ listed, selector.covers x.labels := by
  induction spaces with
  | nil => simp [findsPod, NetworkPolicyCheck.coversIn, Except.toOption]
  | cons space rest ih =>
    obtain ⟨found, hfound, hfinds⟩ := exists_findsPod_cons hpods space rest selector
    obtain ⟨listed, hlisted, rfl⟩ := map_eq_ok_iff.1 hfound
    rw [hfinds, Bool.or_eq_true, ih, List.exists_mem_cons_iff]
    refine or_congr_left ?_
    simp [hlisted]

end listing

section replay
variable {r : Registry} {log : List (List Change)} (hs : s = .replay r log)
  (hpods : s.scan .pods = .ok pods)
include hs hpods

/-- No pod that a listing shows is overlooked. -/
theorem findsPod_of_anyCovered (h : anyCovered pods spaces selector) :
    s.findsPod spaces selector := by
  obtain ⟨x, hx, hcovered⟩ := List.any_eq_true.1 h
  obtain ⟨hspace, hcovers⟩ := (Bool.and_eq_true_iff).1 hcovered
  obtain ⟨listed, hlisted, hmem⟩ := mem_scanNamespace hs hpods hx
  exact (findsPod_iff hpods).2
    ⟨x.space, of_decide_eq_true hspace, listed, hlisted, x, hmem, hcovers⟩

/-- Looking up answers as the listing does if it agrees with it in all namespaces asked for. -/
theorem sees_of_findsIn (h : ∀ space ∈ spaces, s.FindsIn .pods pods space) (selector : Selector) :
    s.Sees pods (spaces, selector) := by
  refine Bool.eq_iff_iff.2 ⟨fun hfinds => ?_, findsPod_of_anyCovered hs hpods⟩
  obtain ⟨space, hspace, listed, hlisted, x, hx, hcovers⟩ := (findsPod_iff hpods).1 hfinds
  cases hlisted.symm.trans (findsIn_iff_scanNamespace.1 (h space hspace))
  obtain ⟨hmem, hin⟩ := List.mem_filter.1 hx
  refine List.any_eq_true.2 ⟨x, hmem, ?_⟩
  rw [of_decide_eq_true hin, hcovers, Bool.and_true]
  exact decide_eq_true hspace

end replay

end Snapshot

/-! ## Services -/

namespace ServiceCheck

/-- Some pod of the namespace of a service carries every label of its selector. -/
def Lands (pods : List Resource) (r : Service) : Prop :=
  ∃ x ∈ pods, x.space = r.metadata.space ∧
    ∀ key value, r.selector.get? key = some value → x.labels.get? key = some value

/-- The findings of a service tell where its selector lands: nothing if it stands for a name outside
the cluster or lands on a pod, and otherwise one, that it has no selector or that it lands on none.
-/
structure TellsPods (g : Glossary) (pods : List Resource) (r : Service) (fs : List Finding) : Prop
    where
  external : r.isExternalName → fs = []
  unselective : r.isExternalName = false → r.selector.isEmpty →
    ∃ f, fs = [f] ∧ f.Of g rootGroup 1101 []
  lands : r.isExternalName = false → r.selector.isEmpty = false → Lands pods r → fs = []
  strays : r.isExternalName = false → r.selector.isEmpty = false → ¬ Lands pods r →
    ∃ f, fs = [f] ∧ f.Of g rootGroup 1100 []

/-- What the check asks of pods about a service: nothing if it stands for a name outside the cluster
or has no selector. -/
def questions (r : Service) : List (List String × Selector) :=
  if r.isExternalName || r.selector.isEmpty then [] else [([r.metadata.space], ⟨r.selector, []⟩)]

variable {s : Snapshot} {pods : List Resource} {r : Service} {g : Glossary} {fs : List Finding}

/-- A service with a selector lands on a pod if its selector covers one of its namespace. -/
theorem lands_iff (h : r.selector.isEmpty = false) :
    Lands pods r ↔ anyCovered pods [r.metadata.space] ⟨r.selector, []⟩ := by
  simp only [Lands, anyCovered, List.any_eq_true, Bool.and_eq_true, decide_eq_true_iff,
    List.mem_singleton, Selector.covers_labels_iff h]

/-- The check has to say of a service that it has no selector, or that looking up finds no pod. -/
theorem verdict_eq (hpods : s.scan .pods = .ok pods) (t : Target) (r : Service) :
    verdict s t r = if r.isExternalName then .clean
      else if r.selector.isEmpty then .note t 1101 []
      else if s.findsPod [r.metadata.space] ⟨r.selector, []⟩ then .clean else .note t 1100 [] := by
  rw [verdict]
  cases r.isExternalName with
  | true => rfl
  | false =>
    cases hempty : r.selector.isEmpty with
    | true => rfl
    | false =>
      have hasks : Selector.isEmpty ⟨r.selector, []⟩ = false := by simp [Selector.isEmpty, hempty]
      obtain ⟨found, hfound, hfinds⟩ :=
        Snapshot.exists_findsPod_singleton hpods r.metadata.space ⟨r.selector, []⟩
      rw [hfinds, Snapshot.findSelected_eq hasks, hfound]
      cases found <;> rfl

/-- The check does not fail on a service. -/
theorem failure_verdict (hpods : s.scan .pods = .ok pods) (t : Target) (r : Service) :
    (verdict s t r).failure = none := by
  rw [verdict_eq hpods]
  split_ifs <;> rfl

/-- If looking up finds a pod for a service with a selector, to find nothing wrong is right exactly
if the service lands on a pod. -/
theorem tellsPods_nil_iff (hexternal : r.isExternalName = false)
    (hempty : r.selector.isEmpty = false) : TellsPods g pods r [] ↔ Lands pods r := by
  constructor
  · intro h
    by_contra hstrays
    obtain ⟨f, hf, -⟩ := h.strays hexternal hempty hstrays
    cases hf
  · intro h
    constructor <;> simp [hexternal, hempty, h]

/-- Findings that tell what the check has to say tell where the selector lands exactly if looking up
answers as a listing does. -/
theorem tellsPods_iff {log : List (List Change)} {registry : Registry}
    (hs : s = .replay registry log) (hpods : s.scan .pods = .ok pods) {t : Target}
    (htold : List.Forall₂ (Remark.Told g) (verdict s t r).remarks fs) :
    TellsPods g pods r fs ↔ ∀ q ∈ questions r, s.Sees pods q := by
  rw [verdict_eq hpods] at htold
  cases hexternal : r.isExternalName with
  | true =>
    obtain rfl : fs = [] := by simpa [hexternal, Verdict.clean] using htold
    have htells : TellsPods g pods r [] := by constructor <;> simp [hexternal]
    exact iff_of_true htells (by simp [questions, hexternal])
  | false =>
    cases hempty : r.selector.isEmpty with
    | true =>
      simp only [hexternal, hempty, Bool.false_eq_true, if_false, if_true] at htold
      have hone : ∃ f, fs = [f] ∧ f.Of g rootGroup 1101 [] := Remark.exists_told_singleton htold
      have htells : TellsPods g pods r fs := by constructor <;> simp [hexternal, hempty, hone]
      exact iff_of_true htells (by simp [questions, hempty])
    | false =>
      have hasks : questions r = [([r.metadata.space], ⟨r.selector, []⟩)] := by
        simp [questions, hexternal, hempty]
      simp only [hexternal, hempty, Bool.false_eq_true, if_false] at htold
      rw [hasks, List.forall_mem_singleton, Snapshot.Sees]
      cases hfinds : s.findsPod [r.metadata.space] ⟨r.selector, []⟩ with
      | true =>
        obtain rfl : fs = [] := by simpa [hfinds, Verdict.clean] using htold
        rw [tellsPods_nil_iff hexternal hempty, lands_iff hempty, eq_comm]
      | false =>
        -- where looking up finds nothing a listing shows nothing either
        have hnone : anyCovered pods [r.metadata.space] ⟨r.selector, []⟩ = false := by
          by_contra hany
          have hfound :=
            Snapshot.findsPod_of_anyCovered hs hpods (Bool.eq_true_of_not_eq_false hany)
          rw [hfinds] at hfound
          cases hfound
        have hstrays : ¬ Lands pods r := by simp [lands_iff hempty, hnone]
        simp only [hfinds, Bool.false_eq_true, if_false] at htold
        have hone : ∃ f, fs = [f] ∧ f.Of g rootGroup 1100 [] := Remark.exists_told_singleton htold
        have htells : TellsPods g pods r fs := by
          constructor <;> simp [hexternal, hempty, hstrays, hone]
        exact iff_of_true htells hnone.symm

end ServiceCheck

namespace Schedule

/-- After every schedule on any registry, in the published snapshot and in every one that was opened
for reading, looking up in the table of a registered kind agrees with listing as far as its records
stay in their namespaces. Under a glossary that has the codes 1100 and 1101, and where nothing is
suppressed, what the check of services finds tells where the selector of a service lands exactly if
looking up answers as the listing of pods does, and so where it agrees with listing in the namespace
of the service. -/
theorem looksUp_and_tellsPods (r : Registry) (schedule : Schedule) {s : Snapshot}
    (hs : s ∈ (reach r schedule).store.published :: (reach r schedule).readers) :
    let log := (committed r schedule).take s.version
    (∀ kind, r.contains kind → ∃ records, s.LooksUp kind records (recordsOf kind log)) ∧
    ∀ g : Glossary, g.Knows [1100, 1101] → ∀ pods, s.scan .pods = .ok pods →
      r.contains .services →
      ∃ o, (Check.services.look s).map (Check.collect .services g .none) = .ok o ∧
        ∀ x : Service, s.get? .services x.metadata.fqn = .ok (some (.service x)) →
          ∃ fs, o.get? x.metadata.fqn = some fs ∧
            (ServiceCheck.TellsPods g pods x fs ↔
              ∀ q ∈ ServiceCheck.questions x, s.Sees pods q) ∧
            (s.FindsIn .pods pods x.metadata.space → ServiceCheck.TellsPods g pods x fs) := by
  intro log
  have hreplay : s = .replay r log := (follows_run r schedule).eq_replay hs
  refine ⟨fun kind hkind => ⟨_, Snapshot.looksUp_replay hreplay hkind⟩,
    fun g hg pods hpods hservices => ?_⟩
  obtain ⟨l, hl, htold⟩ := Check.exists_told_of_knows hreplay hservices hg
    (fun _ _ => Resource.fqn_of_asService)
    fun x => ServiceCheck.says_verdict s (ServiceCheck.target x) x
  refine ⟨Check.collect .services g .none l, congrArg (Except.map _) hl, fun x hx => ?_⟩
  obtain ⟨told, htold, hget⟩ := htold (.service x) x rfl hx
  rw [ServiceCheck.failure_verdict hpods, Option.map_none, Option.toList_none,
    List.append_nil] at hget
  have htells := ServiceCheck.tellsPods_iff hreplay hpods htold
  refine ⟨told, hget, htells, fun hfinds => htells.2 fun q hq => ?_⟩
  obtain rfl : q = ([x.metadata.space], ⟨x.selector, []⟩) := by
    rw [ServiceCheck.questions] at hq
    split at hq
    · cases hq
    · exact List.mem_singleton.1 hq
  refine Snapshot.sees_of_findsIn hreplay hpods (fun space hspace => ?_) _
  exact List.mem_singleton.1 hspace ▸ hfinds

/-- A client loads a pod of a namespace, and a service there that asks for another one. -/
def loadsStray : Schedule :=
  [(0, .load .pods [.pod (.ofMeta ((ObjectMeta.named "a" "x").withLabel "app" "x"))]),
   (0, .proceed), (0, .proceed),
   (0, .load .services [.service ((Service.ofMeta (.named "a" "s")).withSelector "app" "y")]),
   (0, .proceed), (0, .proceed)]

/-- Looking up in the namespace agrees with listing, and the check finds that the service lands on
no pod. -/
theorem looksUp_and_tellsPods_stray :
    let s := (reach .builtin loadsStray).store.published
    let x := (Service.ofMeta (.named "a" "s")).withSelector "app" "y"
    Registry.builtin.contains .services ∧ Glossary.builtin.Knows [1100, 1101] ∧
    ∃ pods o fs f, s.scan .pods = .ok pods ∧ s.FindsIn .pods pods "a" ∧
      s.get? .services ⟨"a/s"⟩ = .ok (some (.service x)) ∧
      (Check.services.look s).map (Check.collect .services .builtin .none) = .ok o ∧
      o.get? ⟨"a/s"⟩ = some fs ∧ ServiceCheck.TellsPods .builtin pods x fs ∧
      fs = [f] ∧ f.Of .builtin rootGroup 1100 [] := by
  intro s x
  have hknows : Glossary.builtin.Knows [1100, 1101] := by decide
  obtain ⟨hkinds, hservices⟩ := looksUp_and_tellsPods .builtin loadsStray List.mem_cons_self
  obtain ⟨pods, hlooks⟩ := hkinds .pods (by decide)
  obtain rfl : pods = _ := (Except.ok.inj hlooks.scan).symm
  have hfinds := hlooks.findsIn_of_listed (by decide) "a" (by decide) (by decide)
  obtain ⟨o, ho, htells⟩ := hservices .builtin hknows _ hlooks.scan (by decide)
  obtain ⟨fs, hfs, -, htells⟩ := htells x (by decide)
  obtain ⟨f, hone, hf⟩ := (htells hfinds).strays (by decide) (by decide) (by
    rw [ServiceCheck.lands_iff (by decide)]
    decide)
  exact ⟨by decide, hknows, _, o, fs, f, hlooks.scan, hfinds, by decide, ho, hfs, htells hfinds,
    hone, hf⟩

/-- A client stores a pod outside all namespaces, another of a namespace over it, and a service with
a selector outside all namespaces. -/
def movesPod : Schedule :=
  [(0, .beginWrite),
   (0, .insert (.pod (.ofMeta ((ObjectMeta.named "" "a/x").withLabel "app" "x")))),
   (0, .insert (.pod (.ofMeta ((ObjectMeta.named "a" "x").withLabel "app" "x")))),
   (0, .insert (.service ((Service.ofMeta (.named "" "s")).withSelector "app" "x"))), (0, .commit)]

/-- The names of all records tell their parts, and still the pod is looked up outside all
namespaces, so the check has nothing to say of a service that lands on none. -/
theorem not_findsIn_movesPod :
    let s := (reach .builtin movesPod).store.published
    let x := (Service.ofMeta (.named "" "s")).withSelector "app" "x"
    (∀ y ∈ s.records, Fqn.Plain y.space y.name) ∧ Registry.builtin.contains .pods ∧
    ∃ pods, s.scan .pods = .ok pods ∧ ¬ s.FindsIn .pods pods "" ∧
      s.get? .services ⟨"s"⟩ = .ok (some (.service x)) ∧
      ∃ o fs, (Check.services.look s).map (Check.collect .services .builtin .none) = .ok o ∧
        o.get? ⟨"s"⟩ = some fs ∧ ¬ ServiceCheck.TellsPods .builtin pods x fs := by
  intro s x
  refine ⟨by decide, by decide, _, rfl, fun h => ?_, by decide, _, [], rfl, by decide, fun h => ?_⟩
  · have hcovered := congrArg Except.toOption (h.covered .empty)
    revert hcovered
    decide
  · obtain ⟨f, hf, -⟩ := h.strays (by decide) (by decide) (by
      rw [ServiceCheck.lands_iff (by decide)]
      decide)
    cases hf

end Schedule

end ClusterAudit
