import ClusterAudit.Proofs.Containment
import ClusterAudit.Proofs.Counting
import ClusterAudit.Proofs.Store.Index
import ClusterAudit.Proofs.Store.Loading

/-!
# What becomes of a check

A builtin check asks for the kinds it needs before it looks at any object. If one is not registered
the check as a whole fails; if its own kind was never loaded it is skipped; otherwise it gives a
verdict on every record of its sort, and nothing that goes wrong then keeps it from doing so.
`Check.fate` says which of these it comes to, from the registered and the loaded kinds alone, and
`Runner.fate_run` that a run of builtin checks comes to just that.
-/

namespace ClusterAudit

/-- What becomes of a check. -/
inductive Fate where
  /-- A kind that it needs is not registered. -/
  | failed (missing : Kind)
  /-- Its kind was never loaded. -/
  | skipped
  /-- Its outcome is added to that of its kind. -/
  | absorbed
  deriving DecidableEq

namespace Check

/-- Whether a builtin check asks for accounts: those of pods and of bindings do. -/
def asksAccounts (c : Check) : Bool := c.kind ∈ [.pods, .roleBindings, .clusterRoleBindings]

/-- What becomes of a builtin check. -/
def fate (c : Check) (s : Snapshot) : Fate :=
  if !s.registry.contains c.kind then .failed c.kind
  else if s.isLoaded c.kind ≠ .ok true then .skipped
  else if c.asksAccounts && !s.registry.contains .serviceAccounts then .failed .serviceAccounts
  else .absorbed

/-- The failure of a builtin check, if it fails. -/
def failure? (c : Check) (s : Snapshot) : Option CheckFailure :=
  match c.fate s with
  | .failed missing => some ⟨c.name, c.kind, .store (.unknownKind missing)⟩
  | .skipped | .absorbed => none

end Check

/-- The names of the records of a builtin kind that are of its sort. -/
def Snapshot.names (s : Snapshot) (b : Builtin) : List Fqn :=
  (((s.scan b.kind).toOption.getD []).filter fun x => (b.read x).isSome).map (·.fqn)

/-! ## What builtin checks look at -/

namespace Check

section look
variable {s : Snapshot} {b : Builtin} {records : List Resource} {c : Check}

/-- A check that looks at the records of a sort gives a verdict on each of them. -/
theorem exists_onRecords (hscan : s.scan b.kind = .ok records) {α : Type}
    {as : Resource → Option α} (has : ∀ x, (as x).isSome = (b.read x).isSome)
    {target : α → Target} (hfqn : ∀ x a, as x = some a → (target a).fqn = x.fqn)
    (verdict : Target → α → Verdict) :
    ∃ l, onRecords s b.kind as target verdict = .ok l ∧ l.map (·.1.fqn) = s.names b := by
  refine ⟨(records.filterMap as).map fun a => (target a, verdict (target a) a), ?_, ?_⟩
  · rw [onRecords, Snapshot.scanAs, hscan]
    rfl
  · rw [Snapshot.names, hscan, List.map_map]
    show (records.filterMap as).map (fun a => (target a).fqn) =
      (records.filter fun x => (b.read x).isSome).map (·.fqn)
    simp only [← has]
    clear hscan
    induction records with
    | nil => rfl
    | cons x rest ih =>
      cases hx : as x with
      | none => rw [List.filterMap_cons_none hx, List.filter_cons_of_neg (by simp [hx]), ih]
      | some a =>
        rw [List.filterMap_cons_some hx, List.filter_cons_of_pos (by simp [hx]), List.map_cons,
          List.map_cons, ih, hfqn x a hx]

/-- The check of bindings gives a verdict on every binding, if it knows whether accounts are
loaded. -/
theorem exists_look_bindings (has : ∀ x : Resource, x.asRoleBinding.isSome = (b.read x).isSome)
    (hscan : s.scan b.kind = .ok records)
    (haccounts : ∃ loaded, s.isLoaded .serviceAccounts = .ok loaded) :
    ∃ l, (bindings b.kind).look s = .ok l ∧ l.map (·.1.fqn) = s.names b := by
  obtain ⟨loaded, hloaded⟩ := haccounts
  rw [look_bindings, hloaded]
  exact exists_onRecords hscan has (fun x r hr => Resource.fqn_of_asRoleBinding hr) _

/-- A builtin check gives a verdict on every record of its sort, if it knows whether accounts are
loaded where it asks for them. -/
theorem exists_look (hc : c ∈ Runner.builtinChecks) (hb : c.kind = b.kind)
    (hscan : s.scan b.kind = .ok records)
    (haccounts : c.asksAccounts → ∃ loaded, s.isLoaded .serviceAccounts = .ok loaded) :
    ∃ l, c.look s = .ok l ∧ l.map (·.1.fqn) = s.names b := by
  simp only [Runner.builtinChecks, List.mem_cons, List.not_mem_nil, or_false] at hc
  rcases hc with rfl | rfl | rfl | rfl | rfl
  · obtain rfl : b = .pods := Builtin.eq_of_kind hb.symm
    obtain ⟨loaded, hloaded⟩ := haccounts (by decide)
    rw [look_pods, hloaded]
    exact exists_onRecords hscan (fun _ => rfl) (fun x p hp => Resource.fqn_of_asPod hp) _
  · obtain rfl : b = .services := Builtin.eq_of_kind hb.symm
    exact exists_onRecords hscan (fun _ => rfl) (fun x r hr => Resource.fqn_of_asService hr) _
  · obtain rfl : b = .networkPolicies := Builtin.eq_of_kind hb.symm
    exact exists_onRecords hscan (fun _ => rfl) (fun x p hp => Resource.fqn_of_asNetworkPolicy hp) _
  · obtain rfl : b = .roleBindings := Builtin.eq_of_kind hb.symm
    exact exists_look_bindings (b := .roleBindings) (fun _ => rfl) hscan (haccounts (by decide))
  · obtain rfl : b = .clusterRoleBindings := Builtin.eq_of_kind hb.symm
    exact exists_look_bindings (b := .clusterRoleBindings) (fun _ => rfl) hscan
      (haccounts (by decide))

/-- A builtin check that asks for accounts fails if they are not known. -/
theorem look_eq_error (hc : c ∈ Runner.builtinChecks) (hasks : c.asksAccounts) {e : StoreError}
    (h : s.isLoaded .serviceAccounts = .error e) : c.look s = .error (.store e) := by
  simp only [Runner.builtinChecks, List.mem_cons, List.not_mem_nil, or_false] at hc
  rcases hc with rfl | rfl | rfl | rfl | rfl
  · rw [look_pods, h]
    rfl
  · exact absurd hasks (by decide)
  · exact absurd hasks (by decide)
  · rw [look_bindings, h]
    rfl
  · rw [look_bindings, h]
    rfl

end look

/-! ## What builtin checks come to -/

section replay
variable {r : Registry} {log : List (List Change)} {s : Snapshot} {c : Check} {b : Builtin}

/-- A builtin check fails, is skipped or gives a verdict on every record of its sort, according to
its fate. -/
theorem observe_of_fate (hs : s = .replay r log) (hc : c ∈ Runner.builtinChecks)
    (hb : c.kind = b.kind) :
    match c.fate s with
    | .failed missing => c.observe s = .error (.store (.unknownKind missing))
    | .skipped => c.observe s = .ok none
    | .absorbed => ∃ l, c.observe s = .ok (some l) ∧ l.map (·.1.fqn) = s.names b := by
  have hown := Snapshot.isLoaded_replay r log c.kind
  have haccounts := Snapshot.isLoaded_replay r log .serviceAccounts
  have hregistry : s.registry = r := hs ▸ rfl
  rw [← hs] at hown haccounts
  by_cases hkind : r.contains c.kind
  · rw [if_pos hkind] at hown
    by_cases hmark : .markLoaded c.kind ∈ log.flatten
    · rw [decide_eq_true hmark] at hown
      have hobserve : c.observe s = (c.look s).map some := by
        rw [observe, hown]
        cases c.look s <;> rfl
      by_cases hasks : c.asksAccounts ∧ ¬ r.contains .serviceAccounts
      · have hfate : c.fate s = .failed .serviceAccounts := by
          simp [fate, hregistry, hkind, hown, hasks]
        rw [if_neg hasks.2] at haccounts
        rw [hfate, hobserve, look_eq_error hc hasks.1 haccounts]
        rfl
      · have hfate : c.fate s = .absorbed := by
          simpa [fate, hregistry, hkind, hown] using hasks
        have hscan : s.scan b.kind = .ok (Table.ofRecords (recordsOf b.kind log)).scan := by
          rw [hs, Snapshot.scan_replay, if_pos (hb ▸ hkind)]
        obtain ⟨l, hl, hnames⟩ := exists_look hc hb hscan fun h =>
          ⟨_, haccounts.trans (if_pos (by_contra fun hnot => hasks ⟨h, hnot⟩))⟩
        rw [hfate, hobserve, hl]
        exact ⟨l, rfl, hnames⟩
    · rw [decide_eq_false hmark] at hown
      have hfate : c.fate s = .skipped := by simp [fate, hregistry, hkind, hown]
      rw [hfate, observe, hown]
      rfl
  · rw [if_neg hkind] at hown
    have hfate : c.fate s = .failed c.kind := by simp [fate, hregistry, hkind]
    rw [hfate, observe, hown]
    rfl

/-- The names of the records of a builtin kind ascend. -/
theorem ascending_names (hs : s = .replay r log) (b : Builtin) :
    (s.names b).Pairwise fun a b => compare a b = .lt := by
  rw [hs, Snapshot.names, Snapshot.scan_replay]
  refine List.pairwise_map.2 (List.Pairwise.filter _ ?_)
  split
  · exact Table.ascending_scan_ofRecords
  · exact .nil

/-- An outcome that registers the records of a builtin kind lists their names. -/
theorem keys_eq_names (hs : s = .replay r log) {e : Exclusions} {o : Outcome}
    {registered : List Fqn} {issues : List Issue} (h : Reports e o registered issues)
    (hmem : ∀ fqn, fqn ∈ registered ↔ fqn ∈ s.names b) : o.objects.keys = s.names b := by
  refine eq_of_ascending id o.objects.ascending_keys (ascending_names hs b) fun fqn => ?_
  rw [← hmem, ← h.contains_iff, Outcome.contains_eq, Dict.mem_keys_iff]
  rfl

/-- A builtin check looks at the table of a builtin kind. -/
theorem exists_builtin (hc : c ∈ Runner.builtinChecks) : ∃ b : Builtin, c.kind = b.kind := by
  simp only [Runner.builtinChecks, List.mem_cons, List.not_mem_nil, or_false] at hc
  rcases hc with rfl | rfl | rfl | rfl | rfl
  exacts [⟨.pods, rfl⟩, ⟨.services, rfl⟩, ⟨.networkPolicies, rfl⟩, ⟨.roleBindings, rfl⟩,
    ⟨.clusterRoleBindings, rfl⟩]

/-- A builtin check comes to its fate. -/
theorem run_of_fate (hs : s = .replay r log) (hc : c ∈ Runner.builtinChecks) (g : Glossary)
    (e : Exclusions) :
    match c.fate s with
    | .failed missing => c.run g e s = .error (.store (.unknownKind missing))
    | .skipped => c.run g e s = .ok none
    | .absorbed => ∃ b o, c.kind = Builtin.kind b ∧ c.run g e s = .ok (some o) ∧
        o.objects.keys = s.names b := by
  obtain ⟨b, hb⟩ := exists_builtin hc
  have hobserve := observe_of_fate hs hc hb
  simp only [run_eq]
  split <;> rename_i hfate <;> rw [hfate] at hobserve
  · rw [hobserve]
    rfl
  · rw [hobserve]
    rfl
  · obtain ⟨l, hl, hnames⟩ := hobserve
    rw [hl]
    exact ⟨b, _, hb, rfl, keys_eq_names hs (reports_collect c.kind g e l) fun _ => hnames ▸ .rfl⟩

/-- A builtin check runs if it does not come to fail. -/
theorem isOk_run (hs : s = .replay r log) (hc : c ∈ Runner.builtinChecks) (g : Glossary)
    (e : Exclusions) : (c.run g e s).isOk = (c.failure? s).isNone := by
  have hrun := run_of_fate hs hc g e
  rw [failure?]
  cases hfate : c.fate s <;> rw [hfate] at hrun
  case failed =>
    rw [hrun]
    rfl
  case skipped =>
    rw [hrun]
    rfl
  case absorbed =>
    obtain ⟨b, o, -, ho, -⟩ := hrun
    rw [ho]
    rfl

/-- The failures of builtin checks are those of their fates. -/
theorem failures_eq (hs : s = .replay r log) {checks : List Check}
    (h : checks ⊆ Runner.builtinChecks) :
    Observation.failures checks s = checks.filterMap (·.failure? s) := by
  refine List.filterMap_congr fun c hc => ?_
  obtain ⟨b, hb⟩ := exists_builtin (h hc)
  have hobserve := observe_of_fate hs (h hc) hb
  rw [failure?]
  cases hfate : c.fate s <;> rw [hfate] at hobserve
  case failed => rw [hobserve]
  case skipped => rw [hobserve]
  case absorbed =>
    obtain ⟨l, hl, -⟩ := hobserve
    rw [hl]

/-- Builtin checks that observe anything are those that are absorbed. -/
theorem exists_observe_iff (hs : s = .replay r log) (hc : c ∈ Runner.builtinChecks) :
    (∃ l, c.observe s = .ok (some l)) ↔ c.fate s = .absorbed := by
  obtain ⟨b, hb⟩ := exists_builtin hc
  have hobserve := observe_of_fate hs hc hb
  cases hfate : c.fate s <;> rw [hfate] at hobserve
  case failed => simp [hobserve]
  case skipped => simp [hobserve]
  case absorbed =>
    obtain ⟨l, hl, -⟩ := hobserve
    simp [hl]

section checks
variable {checks : List Check}

/-- Something is observed of the kinds of the absorbed checks. -/
theorem kind_mem_ofChecks_iff (hs : s = .replay r log) (h : checks ⊆ Runner.builtinChecks)
    {kind : Kind} : kind ∈ (Observation.ofChecks checks s).map (·.1) ↔
      ∃ c ∈ checks, c.kind = kind ∧ c.fate s = .absorbed := by
  rw [List.mem_map]
  constructor
  · rintro ⟨o, ho, rfl⟩
    obtain ⟨c, hc, hkind, hobserve⟩ := Observation.mem_ofChecks_iff.1 ho
    exact ⟨c, hc, hkind, (exists_observe_iff hs (h hc)).1 ⟨_, hobserve⟩⟩
  · rintro ⟨c, hc, rfl, hfate⟩
    obtain ⟨l, hl⟩ := (exists_observe_iff hs (h hc)).2 hfate
    exact ⟨(c.kind, l), Observation.mem_ofChecks_iff.2 ⟨c, hc, rfl, hl⟩, rfl⟩

/-- Of a kind that is observed at all the records of its sort are observed. -/
theorem mem_registered_iff (hs : s = .replay r log) (h : checks ⊆ Runner.builtinChecks)
    (hkind : b.kind ∈ (Observation.ofChecks checks s).map (·.1)) (fqn : Fqn) :
    fqn ∈ Observation.registered b.kind (Observation.ofChecks checks s) ↔ fqn ∈ s.names b := by
  have hnames : ∀ o ∈ Observation.ofChecks checks s, o.1 = b.kind →
      o.2.map (·.1.fqn) = s.names b := by
    intro o ho hb
    obtain ⟨c, hc, hkind, hobserve⟩ := Observation.mem_ofChecks_iff.1 ho
    have hfate := observe_of_fate hs (h hc) (hkind.trans hb)
    rw [(exists_observe_iff hs (h hc)).1 ⟨_, hobserve⟩] at hfate
    obtain ⟨l, hl, hnames⟩ := hfate
    rw [hobserve] at hl
    cases hl
    exact hnames
  rw [Observation.registered, List.mem_flatMap]
  constructor
  · rintro ⟨o, ho, hfqn⟩
    obtain ⟨ho, hb⟩ := List.mem_filter.1 ho
    exact hnames o ho (of_decide_eq_true hb) ▸ hfqn
  · intro hfqn
    obtain ⟨o, ho, hb⟩ := List.mem_map.1 hkind
    exact ⟨o, List.mem_filter.2 ⟨ho, decide_eq_true hb⟩, hnames o ho hb ▸ hfqn⟩

end checks

end replay

end Check

/-! ## Runs -/

namespace Runner

/-- After every schedule each builtin check of a run comes to its fate: it fails if its kind is not
registered, is skipped if its kind is not loaded, fails if it asks for accounts and these are not
registered, and otherwise registers exactly the records of its sort. The run lists the failing
checks in their order and has outcomes for the kinds of the absorbed ones; the failing checks left
out, it has the same outcomes and the same tally. -/
theorem fate_run (r : Registry) (schedule : Schedule) {checks : List Check}
    (h : checks ⊆ builtinChecks) (g : Glossary) (e : Exclusions) :
    let s := (Schedule.reach r schedule).store.published
    let report := run ⟨checks, g, e⟩ s
    (∀ c ∈ checks, match c.fate s with
      | .failed missing => c.run g e s = .error (.store (.unknownKind missing))
      | .skipped => c.run g e s = .ok none
      | .absorbed => ∃ b o, c.kind = Builtin.kind b ∧ c.run g e s = .ok (some o) ∧
          o.objects.keys = s.names b) ∧
    report.failures = checks.filterMap (·.failure? s) ∧
    (∀ kind, (report.outcomes.get? kind).isSome ↔
      ∃ c ∈ checks, c.kind = kind ∧ c.fate s = .absorbed) ∧
    (∀ b o, report.outcomes.get? (Builtin.kind b) = some o → o.objects.keys = s.names b) ∧
    let ran := run ⟨checks.filter fun c => (c.failure? s).isNone, g, e⟩ s
    ran.outcomes = report.outcomes ∧ ran.tally = report.tally := by
  intro s report
  have hs : s = .replay r (Schedule.committed r schedule) :=
    (Schedule.follows_run r schedule).published
  have hfollows := follows_run checks g e s
  refine ⟨fun c hc => Check.run_of_fate hs (h hc) g e, ?_, fun kind => ?_, fun b o ho => ?_, ?_⟩
  · exact hfollows.failures.trans (Check.failures_eq hs h)
  · exact (hfollows.kinds kind).trans (Check.kind_mem_ofChecks_iff hs h)
  · have hkind := (hfollows.kinds b.kind).1 (by rw [ho]; rfl)
    have hreports := hfollows.outcomes b.kind
    rw [ho] at hreports
    exact Check.keys_eq_names hs hreports (Check.mem_registered_iff hs h hkind)
  · have hfilter : (checks.filter fun c => (c.failure? s).isNone) =
        checks.filter fun c => (c.run g e s).isOk :=
      List.filter_congr fun c hc => (Check.isOk_run hs (h hc) g e).symm
    obtain ⟨houtcomes, htally⟩ := foldl_filter_isOk ⟨checks, g, e⟩ s checks
      (rfl : Report.empty.outcomes = Report.empty.outcomes) rfl
    rw [hfilter]
    exact ⟨houtcomes, congrArg KindTally.compact htally⟩

/-- A registry with pods, services and bindings, but without accounts. -/
def accountless : Registry := [.pods, .services, .roleBindings].foldl Registry.withKind .empty

/-- A client loads a pod and a service. -/
def loadsPodAndService : Schedule :=
  [(0, .load .pods [.pod (.ofMeta (.named "a" "x"))]), (0, .proceed), (0, .proceed),
   (0, .load .services [.service (.ofMeta (.named "a" "s"))]), (0, .proceed), (0, .proceed)]

/-- Without accounts pods cannot be checked, without policies these cannot, bindings are not loaded,
and the service is checked twice. -/
theorem fate_run_accountless :
    let s := (Schedule.reach accountless loadsPodAndService).store.published
    let checks := [.services, .pods, .networkPolicies, .bindings .roleBindings, .services]
    let report := run ⟨checks, .builtin, .none⟩ s
    checks ⊆ builtinChecks ∧
    checks.map (·.fate s) = [.absorbed, .failed .serviceAccounts, .failed .networkPolicies, .skipped,
      .absorbed] ∧
    report.failures = [⟨"pod", .pods, .store (.unknownKind .serviceAccounts)⟩,
      ⟨"networkpolicy", .networkPolicies, .store (.unknownKind .networkPolicies)⟩] ∧
    (report.outcomes.get? .services).isSome ∧ ¬ (report.outcomes.get? .pods).isSome ∧
    ∀ o, report.outcomes.get? .services = some o → o.objects.keys = [⟨"a/s"⟩] := by
  intro s checks report
  have hchecks : checks ⊆ builtinChecks := by simp [checks, builtinChecks]
  have hfates : checks.map (·.fate s) = [.absorbed, .failed .serviceAccounts,
      .failed .networkPolicies, .skipped, .absorbed] := by decide
  obtain ⟨-, hfailures, hkinds, hnames, -⟩ :=
    fate_run accountless loadsPodAndService hchecks .builtin .none
  have hlisted := hfailures.trans (show _ = [⟨"pod", .pods, .store (.unknownKind .serviceAccounts)⟩,
    ⟨"networkpolicy", .networkPolicies, .store (.unknownKind .networkPolicies)⟩] by decide)
  have hservices := (hkinds .services).2 (by decide)
  have hpods := mt (hkinds .pods).1 (by decide)
  exact ⟨hchecks, hfates, hlisted, hservices, hpods,
    fun o ho => (hnames .services o ho).trans (by decide)⟩

end Runner

end ClusterAudit
