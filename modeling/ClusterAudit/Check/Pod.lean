import ClusterAudit.Check
import ClusterAudit.Quantity
import ClusterAudit.Store.Reference

/-!
# The check of pods

A pod should carry labels, have owners that exist, run under an account of its own that exists, and
have well-formed containers: tagged or pinned images, probes, and resource limits not below what is
requested. Containers that run before the others need no probes.
-/

namespace ClusterAudit

namespace PodCheck

/-- The account of pods that name none. -/
def defaultAccount : String := "default"

/-- Whether the pod carries labels. -/
def onLabels (t : Target) (p : Pod) : Verdict :=
  if p.metadata.labels.isEmpty then .note t 200 [] else .clean

/-- Whether an owner exists. -/
def onOwner (s : Snapshot) (t : Target) (p : Pod) (owner : OwnerReference) : Verdict :=
  .onResult (AuditError.ofStore (s.resolveOwner p.metadata.space owner)) fun
    | .missing => .note t 208 [owner.kind, (Fqn.join p.metadata.space owner.name).text]
    | .found _ | .untracked => .clean

/-- Whether the pod names an account other than the default one, and whether it exists. -/
def onAccount (s : Snapshot) (accountsLoaded : Bool) (t : Target) (p : Pod) : Verdict :=
  let name := if p.serviceAccountName.isEmpty then defaultAccount else p.serviceAccountName
  if name = defaultAccount then .note t 300 []
  else if accountsLoaded then
    let account := Fqn.join p.metadata.space name
    .onResult (AuditError.ofStore (s.get? .serviceAccounts account)) fun
      | none => .note t 1300 [account.text]
      | some _ => .clean
  else .clean

/-! ## Containers -/

/-- Whether the image is pinned, or has a tag that is not the moving one. -/
def onImage (t : Target) (c : Container) : Verdict :=
  if Image.isPinned c.image then .clean
  else match Image.tag? c.image with
    | none => .noteIn t c.name 100 []
    | some "latest" => .noteIn t c.name 101 []
    | some _ => .clean

/-- Whether the container has both probes. -/
def onProbes (t : Target) (c : Container) : Verdict :=
  match c.livenessProbe, c.readinessProbe with
  | none, none => .noteIn t c.name 102 []
  | none, some _ => .noteIn t c.name 103 []
  | some _, none => .noteIn t c.name 104 []
  | some _, some _ => .clean

/-- A quantity of a resource, or the failure of a container without a readable one. -/
def quantity (t : Target) (c : Container) (resource : String)
    (read : String → Except QuantityError Nat) (raw : String) : Except AuditError Nat :=
  (read raw).mapError fun e =>
    .unexpectedShape t.fqn.text ("container " ++ c.name ++ ": " ++ resource ++ " " ++ e.message)

/-- Whether the request for a resource stays within its limit, where both are given. -/
def onRatio (t : Target) (c : Container) (resource : String)
    (read : String → Except QuantityError Nat) (code : Code) : Verdict :=
  match c.resources.requests.get? resource, c.resources.limits.get? resource with
  | some request, some limit =>
    .onResult (quantity t c resource read request) fun requested =>
      .onResult (quantity t c resource read limit) fun limited =>
        if limited < requested then .noteIn t c.name code [request, limit] else .clean
  | _, _ => .clean

/-- Whether the container has resource limits, and requests within them. -/
def onResources (t : Target) (c : Container) : Verdict :=
  if c.resources.limits.isEmpty then
    .noteIn t c.name (if c.resources.requests.isEmpty then 106 else 107) []
  else
    onRatio t c "cpu" Quantity.cpuMillis 109 ++ onRatio t c "memory" Quantity.memoryBytes 110

/-- The verdict on a container that runs before the others. -/
def onInitContainer (t : Target) (c : Container) : Verdict := onImage t c ++ onResources t c

/-- The verdict on a container that keeps running. -/
def onContainer (t : Target) (c : Container) : Verdict :=
  onImage t c ++ onProbes t c ++ onResources t c

/-! ## Pods -/

/-- The verdict on a pod. -/
def verdict (s : Snapshot) (accountsLoaded : Bool) (t : Target) (p : Pod) : Verdict :=
  onLabels t p ++ .concat (p.metadata.owners.map (onOwner s t p)) ++ onAccount s accountsLoaded t p
    ++ .concat (p.initContainers.map (onInitContainer t))
    ++ .concat (p.containers.map (onContainer t))

/-- A pod as the target of findings. -/
def target (p : Pod) : Target :=
  { Target.ofMeta .pods p.metadata with containers := p.containerNames }

end PodCheck

/-- The check of pods. -/
def Check.pods : Check where
  kind := .pods
  name := "pod"
  look s := do
    let accountsLoaded ← AuditError.ofStore (s.isLoaded .serviceAccounts)
    onRecords s .pods Resource.asPod PodCheck.target (PodCheck.verdict s accountsLoaded)

end ClusterAudit
