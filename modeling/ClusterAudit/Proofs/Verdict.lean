import ClusterAudit.Check.NetworkPolicy
import ClusterAudit.Check.Pod
import ClusterAudit.Check.RoleBinding
import ClusterAudit.Check.Service

/-!
# What the checks have to say

A verdict is put together by `++`, `concat` and `onResult`, and so is what it says: `Verdict.Says`
bounds the objects and the codes of its remarks. Every builtin check speaks of the object it looks
at alone, and each of its parts under a few codes only (`PodCheck.says_verdict`,
`ServiceCheck.says_verdict`, `NetworkPolicyCheck.says_verdict`, `RoleBindingCheck.says_verdict`).
-/

namespace ClusterAudit

namespace Verdict

/-- The remarks of a verdict are about one object and under some codes. -/
def Says (t : Target) (codes : List Code) (v : Verdict) : Prop :=
  ∀ r ∈ v.remarks, r.target = t ∧ r.code ∈ codes

/-- Of two verdicts the second is left out if the first failed. -/
theorem remarks_append (a b : Verdict) :
    (a ++ b).remarks = a.remarks ++ if a.failure.isSome then [] else b.remarks := by
  show (a.append b).remarks = _
  rw [append]
  cases ha : a.failure with
  | none => rfl
  | some e => exact (List.append_nil _).symm

@[simp] theorem clean_append (a : Verdict) : clean ++ a = a := rfl

@[simp] theorem append_clean (a : Verdict) : a ++ clean = a := by
  obtain ⟨remarks, failure⟩ := a
  cases failure with
  | none => exact congrArg (Verdict.mk · none) (List.append_nil remarks)
  | some e => rfl

/-- It does not matter which of three verdicts are put together first. -/
theorem append_assoc (a b c : Verdict) : a ++ b ++ c = a ++ (b ++ c) := by
  obtain ⟨remarks, failure⟩ := a
  obtain ⟨remarks', failure'⟩ := b
  cases failure with
  | some e => rfl
  | none =>
    cases failure' with
    | some e => rfl
    | none => exact congrArg (Verdict.mk · c.failure) (List.append_assoc remarks remarks' c.remarks)

/-- Verdicts one after the other, and then more of them. -/
theorem concat_append (l m : List Verdict) : concat (l ++ m) = concat l ++ concat m := by
  induction l with
  | nil => rfl
  | cons v rest ih =>
    show v ++ concat (rest ++ m) = v ++ concat rest ++ concat m
    rw [ih, append_assoc]

section closure
variable {a b : Verdict} {t : Target} {group : String} {code : Code} {args : List String}
  {codes more : List Code}

theorem says_clean : Says t codes clean := nofun

theorem says_fail (e : AuditError) : Says t codes (fail e) := nofun

theorem says_note (h : code ∈ codes) : Says t codes (note t code args) := by
  intro r hr
  obtain rfl := List.mem_singleton.1 hr
  exact ⟨rfl, h⟩

theorem says_noteIn (h : code ∈ codes) : Says t codes (noteIn t group code args) := by
  intro r hr
  obtain rfl := List.mem_singleton.1 hr
  exact ⟨rfl, h⟩

theorem Says.mono (h : Says t codes a) (hcodes : codes ⊆ more) : Says t more a :=
  fun r hr => ⟨(h r hr).1, hcodes (h r hr).2⟩

/-- Two verdicts together say what each of them says. -/
theorem Says.append (ha : Says t codes a) (hb : Says t more b) :
    Says t (codes ++ more) (a ++ b) := by
  intro r hr
  rw [remarks_append] at hr
  rcases List.mem_append.1 hr with hr | hr
  · exact ⟨(ha r hr).1, List.mem_append_left _ (ha r hr).2⟩
  · split at hr
    · cases hr
    · exact ⟨(hb r hr).1, List.mem_append_right _ (hb r hr).2⟩

theorem says_concat {l : List Verdict} (h : ∀ v ∈ l, Says t codes v) : Says t codes (concat l) := by
  induction l with
  | nil => exact says_clean
  | cons v rest ih =>
    have hrest := ih fun w hw => h w (List.mem_cons_of_mem _ hw)
    refine ((h v List.mem_cons_self).append hrest).mono ?_
    exact List.append_subset.2 ⟨fun _ h => h, fun _ h => h⟩

theorem says_onResult {α : Type} {r : Except AuditError α} {f : α → Verdict}
    (h : ∀ a, Says t codes (f a)) : Says t codes (onResult r f) := by
  cases r with
  | ok a => exact h a
  | error e => exact says_fail e

end closure

end Verdict

open Verdict

/-! ## Pods -/

namespace PodCheck

theorem says_onLabels (t : Target) (p : Pod) : (onLabels t p).Says t [200] := by
  rw [onLabels]
  split
  · exact says_note (by decide)
  · exact says_clean

theorem says_onOwner (s : Snapshot) (t : Target) (p : Pod) (owner : OwnerReference) :
    (onOwner s t p owner).Says t [208] := by
  refine says_onResult fun lookup => ?_
  cases lookup with
  | missing => exact says_note (by decide)
  | found r => exact says_clean
  | untracked => exact says_clean

theorem says_onAccount (s : Snapshot) (loaded : Bool) (t : Target) (p : Pod) :
    (onAccount s loaded t p).Says t [300, 1300] := by
  unfold onAccount
  extract_lets name
  split
  · exact says_note (by decide)
  · split
    · refine says_onResult fun account => ?_
      cases account with
      | none => exact says_note (by decide)
      | some r => exact says_clean
    · exact says_clean

/-- The codes under which a container is remarked on. -/
def containerCodes : List Code := [100, 101, 102, 103, 104, 106, 107, 109, 110]

theorem says_onImage (t : Target) (c : Container) : (onImage t c).Says t [100, 101] := by
  rw [onImage]
  split
  · exact says_clean
  · split
    · exact says_noteIn (by decide)
    · exact says_noteIn (by decide)
    · exact says_clean

theorem says_onProbes (t : Target) (c : Container) : (onProbes t c).Says t [102, 103, 104] := by
  rw [onProbes]
  split
  · exact says_noteIn (by decide)
  · exact says_noteIn (by decide)
  · exact says_noteIn (by decide)
  · exact says_clean

theorem says_onRatio (t : Target) (c : Container) (resource : String)
    (read : String → Except QuantityError Nat) (code : Code) :
    (onRatio t c resource read code).Says t [code] := by
  rw [onRatio]
  split
  · refine says_onResult fun requested => says_onResult fun limited => ?_
    split
    · exact says_noteIn List.mem_cons_self
    · exact says_clean
  · exact says_clean

theorem says_onResources (t : Target) (c : Container) :
    (onResources t c).Says t [106, 107, 109, 110] := by
  rw [onResources]
  split
  · split
    · exact says_noteIn (by decide)
    · exact says_noteIn (by decide)
  · exact ((says_onRatio t c "cpu" _ 109).append (says_onRatio t c "memory" _ 110)).mono
      (by decide)

theorem says_onContainer (t : Target) (c : Container) : (onContainer t c).Says t containerCodes :=
  (says_onImage t c).append (says_onProbes t c) |>.append (says_onResources t c)

theorem says_onInitContainer (t : Target) (c : Container) :
    (onInitContainer t c).Says t containerCodes :=
  ((says_onImage t c).append (says_onResources t c)).mono (by decide)

/-- The check of pods speaks of the pod it looks at, under its own codes. -/
theorem says_verdict (s : Snapshot) (loaded : Bool) (t : Target) (p : Pod) :
    (verdict s loaded t p).Says t
      ([200] ++ [208] ++ [300, 1300] ++ containerCodes ++ containerCodes) := by
  refine (((says_onLabels t p).append ?_).append (says_onAccount s loaded t p)).append ?_
    |>.append ?_
  · refine says_concat fun v hv => ?_
    obtain ⟨owner, -, rfl⟩ := List.mem_map.1 hv
    exact says_onOwner s t p owner
  · refine says_concat fun v hv => ?_
    obtain ⟨c, -, rfl⟩ := List.mem_map.1 hv
    exact says_onInitContainer t c
  · refine says_concat fun v hv => ?_
    obtain ⟨c, -, rfl⟩ := List.mem_map.1 hv
    exact says_onContainer t c

end PodCheck

/-! ## Services -/

/-- The check of services speaks of the service it looks at, under its own codes. -/
theorem ServiceCheck.says_verdict (s : Snapshot) (t : Target) (r : Service) :
    (verdict s t r).Says t [1100, 1101] := by
  rw [verdict]
  split
  · exact says_clean
  · split
    · exact says_note (by decide)
    · refine says_onResult fun pods => ?_
      split
      · exact says_note (by decide)
      · exact says_clean

/-! ## Policies -/

namespace NetworkPolicyCheck

theorem says_onSelector (s : Snapshot) (t : Target) (p : NetworkPolicy) :
    (onSelector s t p).Says t [1200] := by
  refine says_onResult fun pods => ?_
  split
  · exact says_note (by decide)
  · exact says_clean

theorem says_onBlock (t : Target) (b : IpBlock) : (onBlock t b).Says t [1201, 1202] := by
  rw [onBlock]
  split
  · exact says_clean
  · exact says_note (by decide)
  · exact says_note (by decide)

theorem says_onPods (s : Snapshot) (direction : String) (t : Target) (p : NetworkPolicy)
    (peer : PolicyPeer) : (onPods s direction t p peer).Says t [1203] := by
  rw [onPods]
  split
  · exact says_clean
  · refine says_onResult fun spaces => ?_
    cases spaces with
    | none => exact says_clean
    | some spaces =>
      refine says_onResult fun covered => ?_
      split
      · exact says_clean
      · exact says_note (by decide)

theorem says_onPeer (s : Snapshot) (direction : String) (t : Target) (p : NetworkPolicy)
    (peer : PolicyPeer) : (onPeer s direction t p peer).Says t [1201, 1202, 1203] := by
  have hpods := says_onPods s direction t p peer
  rw [onPeer]
  cases peer.ipBlock with
  | none => exact ((says_clean : Says t [] clean).append hpods).mono (by decide)
  | some b => exact (says_onBlock t b).append hpods

theorem says_onRules (s : Snapshot) (direction : String) (t : Target) (p : NetworkPolicy)
    (rules : List PolicyRule) : (onRules s direction t p rules).Says t [1201, 1202, 1203] := by
  refine says_concat fun v hv => ?_
  obtain ⟨peer, -, rfl⟩ := List.mem_map.1 hv
  exact says_onPeer s direction t p peer

/-- The check of policies speaks of the policy it looks at, under its own codes. -/
theorem says_verdict (s : Snapshot) (t : Target) (p : NetworkPolicy) :
    (verdict s t p).Says t [1200, 1201, 1202, 1203] :=
  ((says_onSelector s t p).append (says_onRules s "ingress" t p p.ingress)
    |>.append (says_onRules s "egress" t p p.egress)).mono (by decide)

end NetworkPolicyCheck

/-! ## Bindings -/

namespace RoleBindingCheck

theorem says_onSubject (s : Snapshot) (t : Target) (b : RoleBinding) (subject : BindingSubject) :
    (onSubject s t b subject).Says t [1300] := by
  refine says_onResult fun account => ?_
  cases account with
  | none => exact says_note (by decide)
  | some r => exact says_clean

/-- The check of bindings speaks of the binding it looks at, under its own codes. -/
theorem says_verdict (s : Snapshot) (loaded : Bool) (t : Target) (b : RoleBinding) :
    (verdict s loaded t b).Says t [1300, 1301] := by
  rw [verdict]
  split
  · exact says_note (by decide)
  · split
    · refine says_concat fun v hv => ?_
      obtain ⟨subject, -, rfl⟩ := List.mem_map.1 hv
      exact (says_onSubject s t b subject).mono (by decide)
    · exact says_clean

end RoleBindingCheck

/-! ## What the checks look at -/

namespace Check

/-- The check of pods asks first if accounts are loaded. -/
theorem look_pods (s : Snapshot) : pods.look s =
    (AuditError.ofStore (s.isLoaded .serviceAccounts)).bind fun loaded =>
      onRecords s .pods Resource.asPod PodCheck.target (PodCheck.verdict s loaded) := rfl

/-- So does the check of bindings. -/
theorem look_bindings (kind : Kind) (s : Snapshot) : (bindings kind).look s =
    (AuditError.ofStore (s.isLoaded .serviceAccounts)).bind fun loaded =>
      onRecords s kind Resource.asRoleBinding (RoleBindingCheck.target kind)
        (RoleBindingCheck.verdict s loaded) := rfl

end Check

end ClusterAudit
