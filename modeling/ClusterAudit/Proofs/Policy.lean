import ClusterAudit.Proofs.Address.Block
import ClusterAudit.Proofs.Landing

/-!
# What is due to a policy

A list of findings is due to a policy, told from what is listed alone (`NetworkPolicyCheck.due`):
one if its selector covers no pod of its namespace, and for every peer, in order, one for the first
fault of its address block (`IpBlock.Fault`) and one if its selector covers no pod in the namespaces
that it is about, as far as these are known (`NetworkPolicyCheck.scope`).

The check of policies makes the same list of what it finds by looking up (`verdict_eq`). It never
overlooks a pod, so each finding too few shortens the list, and the list is the one that is due
exactly if every question about pods is answered as a listing answers it
(`NetworkPolicyCheck.says_due_iff`).
-/

namespace ClusterAudit

/-! ## What is due -/

/-- The records of a kind, if it is loaded. -/
def Snapshot.known (s : Snapshot) (kind : Kind) : Option (List Resource) :=
  match s.isLoaded kind, s.scan kind with
  | .ok true, .ok records => some records
  | _, _ => none

/-- Findings about an object as a whole, one for each code with arguments. -/
def Finding.Say (g : Glossary) (due : List (Code × List String)) (fs : List Finding) : Prop :=
  List.Forall₂ (fun d f => f.Of g rootGroup d.1 d.2) due fs

namespace NetworkPolicyCheck

section due
variable (namespaces : Option (List Resource)) (has : List String → Selector → Bool)
  (p : NetworkPolicy)

/-- The namespaces that a peer is about: that of the policy, or those that a selector covers, if
namespaces are known. -/
def scope (q : PolicyPeer) : Option (List String) :=
  match q.namespaceSelector with
  | none => some [p.metadata.space]
  | some selector =>
    namespaces.map fun l => (l.filter fun x => selector.covers x.labels).map (·.name)

/-- What is asked of pods about a peer: whether one in some namespaces is covered by its selector.
-/
def question? (q : PolicyPeer) : Option (List String × Selector) :=
  q.podSelector.bind fun selector => (scope namespaces p q).map (·, selector)

/-- What is due to an address block. -/
def dueBlock (b : IpBlock) : List (Code × List String) :=
  match b.validate with
  | .ok () => []
  | .error (.exceptOutsideBlock except cidr) => [(1201, [except, cidr])]
  | .error e => [(1202, [e.message])]

/-- What is due to a peer in a direction. -/
def duePeer (direction : String) (q : PolicyPeer) : List (Code × List String) :=
  (q.ipBlock.map dueBlock).getD [] ++
    match question? namespaces p q with
    | some (spaces, selector) =>
      if has spaces selector then [] else [(1203, [direction, showSpaces spaces])]
    | none => []

/-- The peers of a policy in order, each with its direction. -/
def peers : List (String × PolicyPeer) :=
  (p.ingress.flatMap (·.peers)).map ("ingress", ·) ++
    (p.egress.flatMap (·.peers)).map ("egress", ·)

/-- What is due to a policy, if `has` tells whether a selector covers a pod in some namespaces. -/
def due : List (Code × List String) :=
  (if has [p.metadata.space] p.podSelector then [] else [(1200, [])]) ++
    (peers p).flatMap fun q => duePeer namespaces has p q.1 q.2

/-- What is asked of pods about a policy. -/
def questions : List (List String × Selector) :=
  ([p.metadata.space], p.podSelector) :: (peers p).filterMap fun q => question? namespaces p q.2

end due

end NetworkPolicyCheck

/-! ## What the check finds -/

namespace Verdict

/-- The verdict that makes remarks about an object as a whole, each under its code. -/
def notes (t : Target) (due : List (Code × List String)) : Verdict :=
  ⟨due.map fun d => ⟨t, d.1, none, d.2⟩, none⟩

variable {t : Target}

theorem notes_append (a b : List (Code × List String)) :
    notes t a ++ notes t b = notes t (a ++ b) := by
  rw [notes, notes, notes, List.map_append]
  rfl

theorem concat_notes {α : Type} (l : List α) (f : α → List (Code × List String)) :
    concat (l.map fun x => notes t (f x)) = notes t (l.flatMap f) := by
  induction l with
  | nil => rfl
  | cons x rest ih =>
    rw [List.flatMap_cons, ← notes_append, ← ih]
    rfl

end Verdict

namespace NetworkPolicyCheck

variable {s : Snapshot} {pods namespaces : List Resource} {t : Target} {p : NetworkPolicy}

theorem onBlock_eq (t : Target) (b : IpBlock) : onBlock t b = .notes t (dueBlock b) := by
  rw [onBlock, dueBlock]
  cases b.validate with
  | ok u => rfl
  | error e => cases e <;> rfl

section lookups
variable (hpods : s.scan .pods = .ok pods) (hnamespaces : s.scan .namespaces = .ok namespaces)
include hpods

theorem onSelector_eq (t : Target) (p : NetworkPolicy) : onSelector s t p = .notes t
    (if s.findsPod [p.metadata.space] p.podSelector then [] else [(1200, [])]) := by
  obtain ⟨found, hfound, hfinds⟩ :=
    Snapshot.exists_findsPod_singleton hpods p.metadata.space p.podSelector
  rw [onSelector, hfound, hfinds]
  cases found <;> rfl

include hnamespaces

omit hpods in
/-- The namespaces that are looked in are those that the peer is about. -/
theorem spacesOf_eq (p : NetworkPolicy) (q : PolicyPeer) :
    spacesOf s p q = .ok (scope (s.known .namespaces) p q) := by
  obtain ⟨table, htable, -⟩ := map_eq_ok_iff.1 hnamespaces
  have hloaded : s.isLoaded .namespaces = .ok table.loaded := map_eq_ok_iff.2 ⟨table, htable, rfl⟩
  rw [spacesOf, scope, Snapshot.known, hnamespaces, hloaded]
  cases q.namespaceSelector with
  | none => rfl
  | some selector =>
    simp only [Snapshot.findNamespaces, hnamespaces, bind, Except.bind, Except.map]
    cases table.loaded <;> rfl

theorem onPods_eq (direction : String) (t : Target) (p : NetworkPolicy) (q : PolicyPeer) :
    onPods s direction t p q = .notes t (match question? (s.known .namespaces) p q with
      | some (spaces, selector) =>
        if s.findsPod spaces selector then [] else [(1203, [direction, showSpaces spaces])]
      | none => []) := by
  rw [onPods, question?]
  cases q.podSelector with
  | none => rfl
  | some selector =>
    simp only [spacesOf_eq hnamespaces]
    cases scope (s.known .namespaces) p q with
    | none => rfl
    | some spaces =>
      show Verdict.onResult (AuditError.ofStore (coversIn s selector spaces)) _ = .notes t
        (if s.findsPod spaces selector then [] else [(1203, [direction, showSpaces spaces])])
      rw [Snapshot.coversIn_eq hpods]
      cases s.findsPod spaces selector <;> rfl

theorem onPeer_eq (direction : String) (t : Target) (p : NetworkPolicy) (q : PolicyPeer) :
    onPeer s direction t p q =
      .notes t (duePeer (s.known .namespaces) s.findsPod p direction q) := by
  rw [onPeer, onPods_eq hpods hnamespaces, duePeer, ← Verdict.notes_append]
  cases q.ipBlock with
  | none => rfl
  | some b => exact congrArg (· ++ _) (onBlock_eq t b)

/-- The check finds what is due, as far as looking up tells. -/
theorem verdict_eq (t : Target) (p : NetworkPolicy) :
    verdict s t p = .notes t (due (s.known .namespaces) s.findsPod p) := by
  have hrules : ∀ direction (rules : List PolicyRule), onRules s direction t p rules = .notes t
      ((rules.flatMap (·.peers)).flatMap
        (duePeer (s.known .namespaces) s.findsPod p direction)) := by
    intro direction rules
    rw [onRules, ← Verdict.concat_notes]
    exact congrArg Verdict.concat
      (List.map_congr_left fun q _ => onPeer_eq hpods hnamespaces direction t p q)
  rw [verdict, onSelector_eq hpods, hrules, hrules, Verdict.notes_append, Verdict.notes_append, due,
    peers, List.flatMap_append, List.flatMap_map, List.flatMap_map, List.append_assoc]

end lookups

/-! ## When that is what is due -/

/-- Where one condition implies another and as many of a list meet both, they agree on the list. -/
theorem eq_of_countP_eq {α : Type} {a b : α → Bool} {l : List α} (h : ∀ x, a x → b x)
    (hcount : l.countP a = l.countP b) : ∀ x ∈ l, a x = b x := by
  have hfilter : l.filter a = l.filter b := by
    refine (List.monotone_filter_right l h).eq_of_length ?_
    rw [← List.countP_eq_length_filter, ← List.countP_eq_length_filter, hcount]
  intro x hx
  refine Bool.eq_iff_iff.2 ⟨h x, fun hb => ?_⟩
  exact (List.mem_filter.1 (hfilter ▸ List.mem_filter.2 ⟨hx, hb⟩ : x ∈ l.filter a)).2

section answers
variable {has has' : List String → Selector → Bool} {known : Option (List Resource)}

/-- What is due depends on the answers to what is asked alone. -/
theorem due_congr (h : ∀ q ∈ questions known p, has q.1 q.2 = has' q.1 q.2) :
    due known has p = due known has' p := by
  obtain ⟨hown, hpeers⟩ := List.forall_mem_cons.1 h
  rw [due, due, hown]
  refine congrArg _ (List.flatMap_congr fun q hq => ?_)
  rw [duePeer, duePeer]
  cases hquestion : question? known p q.2 with
  | none => rfl
  | some question => simp only [hpeers question (List.mem_filterMap.2 ⟨q, hq, hquestion⟩)]

/-- What is due are as many findings as questions are answered in the negative, and those that are due
to address blocks. -/
theorem length_due : (due known has p).length =
    (questions known p).countP (fun q => !has q.1 q.2) +
      ((peers p).map fun q => ((q.2.ipBlock.map dueBlock).getD []).length).sum := by
  have hpeers : ∀ l : List (String × PolicyPeer),
      (l.flatMap fun q => duePeer known has p q.1 q.2).length =
        (l.filterMap fun q => question? known p q.2).countP (fun q => !has q.1 q.2) +
          (l.map fun q => ((q.2.ipBlock.map dueBlock).getD []).length).sum := by
    intro l
    induction l with
    | nil => rfl
    | cons q rest ih =>
      rw [List.flatMap_cons, List.length_append, ih, duePeer, List.map_cons, List.sum_cons,
        List.length_append, List.filterMap_cons]
      cases question? known p q.2 with
      | none => simp only [List.length_nil]; omega
      | some question =>
        simp only [List.countP_cons]
        cases has question.1 question.2 <;> simp <;> omega
  rw [due, questions, List.length_append, hpeers, List.countP_cons]
  cases has [p.metadata.space] p.podSelector <;> simp
  omega

end answers

/-- Findings that tell what the check has to say are those that are due exactly if looking up
answers every question as a listing does. -/
theorem says_due_iff {r : Registry} {log : List (List Change)} (hs : s = .replay r log)
    (hpods : s.scan .pods = .ok pods) (hnamespaces : s.scan .namespaces = .ok namespaces)
    {g : Glossary} {fs : List Finding}
    (htold : List.Forall₂ (Remark.Told g) (verdict s t p).remarks fs) :
    Finding.Say g (due (s.known .namespaces) (anyCovered pods) p) fs ↔
      ∀ q ∈ questions (s.known .namespaces) p, s.Sees pods q := by
  have hsays : Finding.Say g (due (s.known .namespaces) s.findsPod p) fs := by
    rw [verdict_eq hpods hnamespaces] at htold
    exact List.forall₂_map_left_iff.1 htold
  constructor
  · intro h q hq
    have hlength := hsays.length_eq.trans h.length_eq.symm
    rw [length_due, length_due, Nat.add_right_cancel_iff] at hlength
    have hnot := eq_of_countP_eq (fun q hq => ?_) hlength q hq
    · exact Bool.not_inj hnot
    · -- no pod is overlooked, so what is not found is not there
      rw [Bool.not_eq_true', Bool.eq_false_iff] at hq ⊢
      exact mt (Snapshot.findsPod_of_anyCovered hs hpods) hq
  · intro h
    rwa [← due_congr h]

end NetworkPolicyCheck

namespace Schedule

open NetworkPolicyCheck

/-- After every schedule on a registry with pods and namespaces, in the published snapshot and in
every one that was opened for reading: looking pods up agrees with listing them as far as they stay
in their namespaces. Under a glossary that has all builtin codes, and where nothing is suppressed,
the check of policies finds of every policy what is due to it exactly if looking up answers every
question about it as the listing does, and so where it agrees with listing in all namespaces asked
for. Address blocks are refused for their first fault. -/
theorem says_due (r : Registry) (hpods : r.contains .pods) (hnamespaces : r.contains .namespaces)
    (schedule : Schedule) {g : Glossary} (hg : g.CoversBuiltin) {s : Snapshot}
    (hs : s ∈ (reach r schedule).store.published :: (reach r schedule).readers) :
    let log := (committed r schedule).take s.version
    (∃ pods, s.LooksUp .pods pods (recordsOf .pods log) ∧
      (r.contains .networkPolicies →
        ∃ o, (Check.networkPolicies.look s).map (Check.collect .networkPolicies g .none) = .ok o ∧
          ∀ p : NetworkPolicy,
            s.get? .networkPolicies p.metadata.fqn = .ok (some (.networkPolicy p)) →
            ∃ fs, o.get? p.metadata.fqn = some fs ∧
              (Finding.Say g (due (s.known .namespaces) (anyCovered pods) p) fs ↔
                ∀ q ∈ questions (s.known .namespaces) p, s.Sees pods q) ∧
              ((∀ q ∈ questions (s.known .namespaces) p, ∀ space ∈ q.1,
                  s.FindsIn .pods pods space) →
                Finding.Say g (due (s.known .namespaces) (anyCovered pods) p) fs))) ∧
    ∀ (b : IpBlock) (e : AddressError), b.validate = .error e ↔ b.Fault e := by
  intro log
  have hreplay : s = .replay r log := (follows_run r schedule).eq_replay hs
  have hlooks := Snapshot.looksUp_replay hreplay hpods
  obtain ⟨namespaces, hscan⟩ : ∃ namespaces, s.scan .namespaces = .ok namespaces :=
    ⟨_, (Snapshot.looksUp_replay hreplay hnamespaces).scan⟩
  refine ⟨⟨_, hlooks, fun hpolicies => ?_⟩, fun b e => IpBlock.validate_eq_error_iff⟩
  obtain ⟨l, hl, htold⟩ := Check.exists_told_onRecords hreplay hpolicies hg
    (fun _ _ => Resource.fqn_of_asNetworkPolicy)
    fun p => (says_verdict s (target p) p).mono (by decide)
  refine ⟨Check.collect .networkPolicies g .none l, congrArg (Except.map _) hl, fun p hp => ?_⟩
  obtain ⟨told, htold, hget⟩ := htold (.networkPolicy p) p rfl hp
  have hfailure : (verdict s (target p) p).failure = none := by
    rw [verdict_eq hlooks.scan hscan]
    rfl
  rw [hfailure, Option.map_none, Option.toList_none, List.append_nil] at hget
  have hsays := says_due_iff hreplay hlooks.scan hscan htold
  refine ⟨told, hget, hsays, fun hfinds => hsays.2 fun q hq => ?_⟩
  exact Snapshot.sees_of_findsIn hreplay hlooks.scan (hfinds q hq) q.2

/-- A policy about pods that there are none of, with a peer whose address block has an exception
outside and one that is about other namespaces. -/
def strictPolicy : NetworkPolicy :=
  { NetworkPolicy.ofMeta (.named "a" "p") with
    podSelector := Selector.empty.withLabel "app" "y"
    ingress := [⟨[⟨some (Selector.empty.withLabel "app" "x"), none,
      some ⟨"10.0.0.0/8", ["10.1.0.0/16", "192.168.0.0/16"]⟩⟩]⟩]
    egress := [⟨[⟨some .empty, some (Selector.empty.withLabel "team" "b"), none⟩]⟩] }

/-- A client loads a pod, two namespaces, and the policy. -/
def loadsPolicy : Schedule :=
  [(0, .load .pods [.pod (.ofMeta ((ObjectMeta.named "a" "x").withLabel "app" "x"))]),
   (0, .proceed), (0, .proceed),
   (0, .load .namespaces [.clusterNamespace ⟨.named "" "a"⟩,
     .clusterNamespace ⟨(ObjectMeta.named "" "b").withLabel "team" "b"⟩]),
   (0, .proceed), (0, .proceed), (0, .proceed),
   (0, .load .networkPolicies [.networkPolicy strictPolicy]), (0, .proceed), (0, .proceed)]

/-- The three faults of the policy are found. -/
theorem says_due_strictPolicy :
    let s := (reach .builtin loadsPolicy).store.published
    Registry.builtin.contains .pods ∧ Registry.builtin.contains .namespaces ∧
    Glossary.builtin.CoversBuiltin ∧
    ∃ pods o fs, s.scan .pods = .ok pods ∧
      (Check.networkPolicies.look s).map (Check.collect .networkPolicies .builtin .none) = .ok o ∧
      o.get? ⟨"a/p"⟩ = some fs ∧
      due (s.known .namespaces) (anyCovered pods) strictPolicy =
        [(1200, []), (1201, ["192.168.0.0/16", "10.0.0.0/8"]), (1203, ["egress", "b"])] ∧
      Finding.Say .builtin (due (s.known .namespaces) (anyCovered pods) strictPolicy) fs := by
  intro s
  have hglossary := Glossary.coversBuiltin_builtin
  obtain ⟨⟨pods, hlooks, hpolicies⟩, -⟩ :=
    says_due .builtin (by decide) (by decide) loadsPolicy hglossary List.mem_cons_self
  obtain rfl : pods = _ := (Except.ok.inj hlooks.scan).symm
  obtain ⟨o, ho, hsays⟩ := hpolicies (by decide)
  obtain ⟨fs, hfs, -, hsays⟩ := hsays strictPolicy (by decide)
  have hspaces : ∀ q ∈ questions (s.known .namespaces) strictPolicy, ∀ space ∈ q.1,
      '/' ∉ space.toList ∧ space ≠ "" := by decide
  have hplain := hlooks.findsIn_of_listed (by decide)
  exact ⟨by decide, by decide, hglossary, _, o, fs, hlooks.scan, ho, hfs, by decide,
    hsays fun q hq space hspace =>
      hplain space (hspaces q hq space hspace).1 (hspaces q hq space hspace).2⟩

/-- A client loads a pod outside all namespaces and another of a namespace over it, and a policy
outside all namespaces about every pod there. -/
def movesPodOfPolicy : Schedule :=
  [(0, .load .pods [.pod (.ofMeta (.named "" "a/x")), .pod (.ofMeta (.named "a" "x"))]),
   (0, .proceed), (0, .proceed), (0, .proceed),
   (0, .load .networkPolicies [.networkPolicy (.ofMeta (.named "" "p"))]),
   (0, .proceed), (0, .proceed)]

/-- The names of all records tell their parts and there is no pod outside all namespaces, which is a
fault of the policy, but the check does not find it. -/
theorem not_says_due_movesPodOfPolicy :
    let s := (reach .builtin movesPodOfPolicy).store.published
    let p := NetworkPolicy.ofMeta (.named "" "p")
    (∀ x ∈ s.records, Fqn.Plain x.space x.name) ∧
    Registry.builtin.contains .pods ∧ Registry.builtin.contains .namespaces ∧
    Glossary.builtin.CoversBuiltin ∧
    ∃ pods o fs, s.scan .pods = .ok pods ∧
      s.get? .networkPolicies ⟨"p"⟩ = .ok (some (.networkPolicy p)) ∧
      (Check.networkPolicies.look s).map (Check.collect .networkPolicies .builtin .none) = .ok o ∧
      o.get? ⟨"p"⟩ = some fs ∧ due (s.known .namespaces) (anyCovered pods) p = [(1200, [])] ∧
      ¬ Finding.Say .builtin (due (s.known .namespaces) (anyCovered pods) p) fs := by
  intro s p
  have hglossary := Glossary.coversBuiltin_builtin
  have hdue : ∃ pods, s.scan .pods = .ok pods ∧
      due (s.known .namespaces) (anyCovered pods) p = [(1200, [])] := ⟨_, rfl, by decide⟩
  obtain ⟨pods, hpods, hdue⟩ := hdue
  refine ⟨by decide, by decide, by decide, hglossary, pods, _, [], hpods, by decide, rfl, by decide,
    hdue, fun hsays => ?_⟩
  have hlength := hsays.length_eq
  rw [hdue] at hlength
  cases hlength

end Schedule

end ClusterAudit
