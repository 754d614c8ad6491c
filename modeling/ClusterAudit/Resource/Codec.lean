import ClusterAudit.Document.Json.Decode
import ClusterAudit.Resource

/-!
# Resources as JSON

The JSON form of every record: a field left out takes its default, and writing writes every field.
A resource is a record with one field, whose name says the sort.
-/

namespace ClusterAudit

open Json

/-! ## Metadata and selectors -/

namespace Operator

/-- The written name. -/
def name : Operator → String
  | isIn => "In"
  | notIn => "NotIn"
  | present => "Exists"
  | absent => "DoesNotExist"

/-- The operator of a written name. -/
def ofName? : String → Option Operator
  | "In" => some isIn
  | "NotIn" => some notIn
  | "Exists" => some present
  | "DoesNotExist" => some absent
  | _ => none

end Operator

/-- A requirement; its key and operator must be given. -/
def Requirement.ofJson? (j : Json) : Option Requirement := do
  let f ← fields? ["key", "operator", "values"] j
  some {
    key := ← (← f "key").text?
    operator := ← Operator.ofName? (← (← f "operator").variant?)
    values := ← orElse [] (listOf text?) (f "values") }

/-- A requirement as JSON. -/
def Requirement.toJson (r : Requirement) : Json :=
  .record [("key", .text r.key), ("operator", .text r.operator.name),
    ("values", .ofList .text r.values)]

/-- A selector. -/
def Selector.ofJson? (j : Json) : Option Selector := do
  let f ← fields? ["matchLabels", "matchExpressions"] j
  some {
    matchLabels := ← orElse ∅ labels? (f "matchLabels")
    matchExpressions := ← orElse [] (listOf Requirement.ofJson?) (f "matchExpressions") }

/-- A selector as JSON. -/
def Selector.toJson (s : Selector) : Json :=
  .record [("matchLabels", .ofLabels s.matchLabels),
    ("matchExpressions", .ofList Requirement.toJson s.matchExpressions)]

/-- A reference to an owner. -/
def OwnerReference.ofJson? (j : Json) : Option OwnerReference := do
  let f ← fields? ["kind", "name", "controller"] j
  some {
    kind := ← orElse "" text? (f "kind")
    name := ← orElse "" text? (f "name")
    controller := ← orElse false bool? (f "controller") }

/-- A reference to an owner as JSON. -/
def OwnerReference.toJson (o : OwnerReference) : Json :=
  .record [("kind", .text o.kind), ("name", .text o.name), ("controller", .bool o.controller)]

/-- Metadata. -/
def ObjectMeta.ofJson? (j : Json) : Option ObjectMeta := do
  let f ← fields? ["name", "namespace", "labels", "annotations", "ownerReferences"] j
  some {
    name := ← orElse "" text? (f "name")
    space := ← orElse "" text? (f "namespace")
    labels := ← orElse ∅ labels? (f "labels")
    annotations := ← orElse ∅ labels? (f "annotations")
    owners := ← orElse [] (listOf OwnerReference.ofJson?) (f "ownerReferences") }

/-- Metadata as JSON. -/
def ObjectMeta.toJson (m : ObjectMeta) : Json :=
  .record [("name", .text m.name), ("namespace", .text m.space), ("labels", .ofLabels m.labels),
    ("annotations", .ofLabels m.annotations),
    ("ownerReferences", .ofList OwnerReference.toJson m.owners)]

/-! ## Workloads -/

/-- A probe. -/
def Probe.ofJson? (j : Json) : Option Probe := do
  let f ← fields? ["initialDelaySeconds", "periodSeconds"] j
  some {
    initialDelaySeconds := ← orElse 0 uint32? (f "initialDelaySeconds")
    periodSeconds := ← orElse 0 uint32? (f "periodSeconds") }

/-- A probe as JSON. -/
def Probe.toJson (p : Probe) : Json :=
  .record [("initialDelaySeconds", .ofNat p.initialDelaySeconds.toNat),
    ("periodSeconds", .ofNat p.periodSeconds.toNat)]

/-- Quantities by resource. -/
def ResourceRequirements.ofJson? (j : Json) : Option ResourceRequirements := do
  let f ← fields? ["requests", "limits"] j
  some {
    requests := ← orElse ∅ labels? (f "requests")
    limits := ← orElse ∅ labels? (f "limits") }

/-- Quantities by resource as JSON. -/
def ResourceRequirements.toJson (r : ResourceRequirements) : Json :=
  .record [("requests", .ofLabels r.requests), ("limits", .ofLabels r.limits)]

/-- A container. -/
def Container.ofJson? (j : Json) : Option Container := do
  let f ← fields? ["name", "image", "resources", "livenessProbe", "readinessProbe"] j
  some {
    name := ← orElse "" text? (f "name")
    image := ← orElse "" text? (f "image")
    resources := ← orElse default ResourceRequirements.ofJson? (f "resources")
    livenessProbe := ← optional Probe.ofJson? (f "livenessProbe")
    readinessProbe := ← optional Probe.ofJson? (f "readinessProbe") }

/-- A container as JSON. -/
def Container.toJson (c : Container) : Json :=
  .record [("name", .text c.name), ("image", .text c.image), ("resources", c.resources.toJson),
    ("livenessProbe", .ofOption Probe.toJson c.livenessProbe),
    ("readinessProbe", .ofOption Probe.toJson c.readinessProbe)]

/-- A pod. -/
def Pod.ofJson? (j : Json) : Option Pod := do
  let f ← fields? ["metadata", "serviceAccountName", "nodeName", "podIp", "containers",
    "initContainers"] j
  some {
    metadata := ← orElse default ObjectMeta.ofJson? (f "metadata")
    serviceAccountName := ← orElse "" text? (f "serviceAccountName")
    nodeName := ← orElse "" text? (f "nodeName")
    podIp := ← orElse "" text? (f "podIp")
    containers := ← orElse [] (listOf Container.ofJson?) (f "containers")
    initContainers := ← orElse [] (listOf Container.ofJson?) (f "initContainers") }

/-- A pod as JSON. -/
def Pod.toJson (p : Pod) : Json :=
  .record [("metadata", p.metadata.toJson), ("serviceAccountName", .text p.serviceAccountName),
    ("nodeName", .text p.nodeName), ("podIp", .text p.podIp),
    ("containers", .ofList Container.toJson p.containers),
    ("initContainers", .ofList Container.toJson p.initContainers)]

/-- What a controller makes pods from. -/
def PodTemplate.ofJson? (j : Json) : Option PodTemplate := do
  let f ← fields? ["metadata", "containers"] j
  some {
    metadata := ← orElse default ObjectMeta.ofJson? (f "metadata")
    containers := ← orElse [] (listOf Container.ofJson?) (f "containers") }

/-- What a controller makes pods from, as JSON. -/
def PodTemplate.toJson (t : PodTemplate) : Json :=
  .record [("metadata", t.metadata.toJson), ("containers", .ofList Container.toJson t.containers)]

/-- A deployment. -/
def Deployment.ofJson? (j : Json) : Option Deployment := do
  let f ← fields? ["metadata", "replicas", "selector", "template"] j
  some {
    metadata := ← orElse default ObjectMeta.ofJson? (f "metadata")
    replicas := ← orElse 0 uint32? (f "replicas")
    selector := ← orElse default Selector.ofJson? (f "selector")
    template := ← orElse default PodTemplate.ofJson? (f "template") }

/-- A deployment as JSON. -/
def Deployment.toJson (d : Deployment) : Json :=
  .record [("metadata", d.metadata.toJson), ("replicas", .ofNat d.replicas.toNat),
    ("selector", d.selector.toJson), ("template", d.template.toJson)]

/-- A replica set. -/
def ReplicaSet.ofJson? (j : Json) : Option ReplicaSet := do
  let f ← fields? ["metadata", "replicas", "selector"] j
  some {
    metadata := ← orElse default ObjectMeta.ofJson? (f "metadata")
    replicas := ← orElse 0 uint32? (f "replicas")
    selector := ← orElse default Selector.ofJson? (f "selector") }

/-- A replica set as JSON. -/
def ReplicaSet.toJson (r : ReplicaSet) : Json :=
  .record [("metadata", r.metadata.toJson), ("replicas", .ofNat r.replicas.toNat),
    ("selector", r.selector.toJson)]

/-! ## Network -/

/-- A service. -/
def Service.ofJson? (j : Json) : Option Service := do
  let f ← fields? ["metadata", "type", "selector", "clusterIp"] j
  some {
    metadata := ← orElse default ObjectMeta.ofJson? (f "metadata")
    serviceType := ← orElse "" text? (f "type")
    selector := ← orElse ∅ labels? (f "selector")
    clusterIp := ← orElse "" text? (f "clusterIp") }

/-- A service as JSON. -/
def Service.toJson (s : Service) : Json :=
  .record [("metadata", s.metadata.toJson), ("type", .text s.serviceType),
    ("selector", .ofLabels s.selector), ("clusterIp", .text s.clusterIp)]

/-- An address block with exceptions. -/
def IpBlock.ofJson? (j : Json) : Option IpBlock := do
  let f ← fields? ["cidr", "except"] j
  some {
    cidr := ← orElse "" text? (f "cidr")
    except := ← orElse [] (listOf text?) (f "except") }

/-- An address block with exceptions as JSON. -/
def IpBlock.toJson (b : IpBlock) : Json :=
  .record [("cidr", .text b.cidr), ("except", .ofList .text b.except)]

/-- One side of allowed traffic. -/
def PolicyPeer.ofJson? (j : Json) : Option PolicyPeer := do
  let f ← fields? ["podSelector", "namespaceSelector", "ipBlock"] j
  some {
    podSelector := ← optional Selector.ofJson? (f "podSelector")
    namespaceSelector := ← optional Selector.ofJson? (f "namespaceSelector")
    ipBlock := ← optional IpBlock.ofJson? (f "ipBlock") }

/-- One side of allowed traffic as JSON. -/
def PolicyPeer.toJson (p : PolicyPeer) : Json :=
  .record [("podSelector", .ofOption Selector.toJson p.podSelector),
    ("namespaceSelector", .ofOption Selector.toJson p.namespaceSelector),
    ("ipBlock", .ofOption IpBlock.toJson p.ipBlock)]

/-- A rule of a policy. -/
def PolicyRule.ofJson? (j : Json) : Option PolicyRule := do
  let f ← fields? ["peers"] j
  some { peers := ← orElse [] (listOf PolicyPeer.ofJson?) (f "peers") }

/-- A rule of a policy as JSON. -/
def PolicyRule.toJson (r : PolicyRule) : Json :=
  .record [("peers", .ofList PolicyPeer.toJson r.peers)]

/-- A network policy. -/
def NetworkPolicy.ofJson? (j : Json) : Option NetworkPolicy := do
  let f ← fields? ["metadata", "podSelector", "ingress", "egress"] j
  some {
    metadata := ← orElse default ObjectMeta.ofJson? (f "metadata")
    podSelector := ← orElse default Selector.ofJson? (f "podSelector")
    ingress := ← orElse [] (listOf PolicyRule.ofJson?) (f "ingress")
    egress := ← orElse [] (listOf PolicyRule.ofJson?) (f "egress") }

/-- A network policy as JSON. -/
def NetworkPolicy.toJson (p : NetworkPolicy) : Json :=
  .record [("metadata", p.metadata.toJson), ("podSelector", p.podSelector.toJson),
    ("ingress", .ofList PolicyRule.toJson p.ingress),
    ("egress", .ofList PolicyRule.toJson p.egress)]

/-! ## Accounts, bindings, namespaces -/

/-- An account. -/
def ServiceAccount.ofJson? (j : Json) : Option ServiceAccount := do
  let f ← fields? ["metadata", "automountServiceAccountToken"] j
  some {
    metadata := ← orElse default ObjectMeta.ofJson? (f "metadata")
    automountServiceAccountToken := ← optional bool? (f "automountServiceAccountToken") }

/-- An account as JSON. -/
def ServiceAccount.toJson (a : ServiceAccount) : Json :=
  .record [("metadata", a.metadata.toJson),
    ("automountServiceAccountToken", .ofOption .bool a.automountServiceAccountToken)]

/-- The role that a binding grants. -/
def RoleRef.ofJson? (j : Json) : Option RoleRef := do
  let f ← fields? ["kind", "name"] j
  some { kind := ← orElse "" text? (f "kind"), name := ← orElse "" text? (f "name") }

/-- The role that a binding grants, as JSON. -/
def RoleRef.toJson (r : RoleRef) : Json :=
  .record [("kind", .text r.kind), ("name", .text r.name)]

/-- Who is granted a role. -/
def BindingSubject.ofJson? (j : Json) : Option BindingSubject := do
  let f ← fields? ["kind", "name", "namespace"] j
  some {
    kind := ← orElse "" text? (f "kind")
    name := ← orElse "" text? (f "name")
    space := ← orElse "" text? (f "namespace") }

/-- Who is granted a role, as JSON. -/
def BindingSubject.toJson (s : BindingSubject) : Json :=
  .record [("kind", .text s.kind), ("name", .text s.name), ("namespace", .text s.space)]

/-- A binding. -/
def RoleBinding.ofJson? (j : Json) : Option RoleBinding := do
  let f ← fields? ["metadata", "roleRef", "subjects"] j
  some {
    metadata := ← orElse default ObjectMeta.ofJson? (f "metadata")
    roleRef := ← orElse default RoleRef.ofJson? (f "roleRef")
    subjects := ← orElse [] (listOf BindingSubject.ofJson?) (f "subjects") }

/-- A binding as JSON. -/
def RoleBinding.toJson (b : RoleBinding) : Json :=
  .record [("metadata", b.metadata.toJson), ("roleRef", b.roleRef.toJson),
    ("subjects", .ofList BindingSubject.toJson b.subjects)]

/-- A namespace. -/
def NamespaceRecord.ofJson? (j : Json) : Option NamespaceRecord := do
  let f ← fields? ["metadata"] j
  some { metadata := ← orElse default ObjectMeta.ofJson? (f "metadata") }

/-- A namespace as JSON. -/
def NamespaceRecord.toJson (n : NamespaceRecord) : Json :=
  .record [("metadata", n.metadata.toJson)]

/-- A document in canonical form, if every literal in it denotes something. -/
def canonicalSpec? (j : Json) : Option { j : Json // j.isCanonical = true } :=
  if h : j.readable then some ⟨j.canonical, isCanonical_canonical h⟩ else none

/-- A custom object; its kind and metadata must be given. -/
def CustomResource.ofJson? (j : Json) : Option CustomResource := do
  let f ← fields? ["kind", "metadata", "spec"] j
  some {
    kind := ⟨← (← f "kind").text?⟩
    metadata := ← ObjectMeta.ofJson? (← f "metadata")
    spec := ← orElse ⟨.null, rfl⟩ canonicalSpec? (f "spec") }

/-- A custom object as JSON. -/
def CustomResource.toJson (r : CustomResource) : Json :=
  .record [("kind", .text r.kind.text), ("metadata", r.metadata.toJson), ("spec", r.spec.1)]

/-! ## Resources -/

namespace Resource

/-- A resource. -/
def ofJson? : Json → Option Resource
  | .record [(sort, j)] =>
    match sort with
    | "pod" => (Pod.ofJson? j).map pod
    | "service" => (Service.ofJson? j).map service
    | "deployment" => (Deployment.ofJson? j).map deployment
    | "replicaSet" => (ReplicaSet.ofJson? j).map replicaSet
    | "networkPolicy" => (NetworkPolicy.ofJson? j).map networkPolicy
    | "namespace" => (NamespaceRecord.ofJson? j).map clusterNamespace
    | "serviceAccount" => (ServiceAccount.ofJson? j).map serviceAccount
    | "roleBinding" => (RoleBinding.ofJson? j).map roleBinding
    | "clusterRoleBinding" => (RoleBinding.ofJson? j).map clusterRoleBinding
    | "custom" => (CustomResource.ofJson? j).map custom
    | _ => none
  | _ => none

/-- The record of a resource as JSON. -/
def recordJson : Resource → Json
  | pod r => r.toJson
  | service r => r.toJson
  | deployment r => r.toJson
  | replicaSet r => r.toJson
  | networkPolicy r => r.toJson
  | clusterNamespace r => r.toJson
  | serviceAccount r => r.toJson
  | roleBinding r => r.toJson
  | clusterRoleBinding r => r.toJson
  | custom r => r.toJson

/-- The written name of the sort. -/
def sort : Resource → String
  | pod _ => "pod"
  | service _ => "service"
  | deployment _ => "deployment"
  | replicaSet _ => "replicaSet"
  | networkPolicy _ => "networkPolicy"
  | clusterNamespace _ => "namespace"
  | serviceAccount _ => "serviceAccount"
  | roleBinding _ => "roleBinding"
  | clusterRoleBinding _ => "clusterRoleBinding"
  | custom _ => "custom"

/-- A resource as JSON. -/
def toJson (r : Resource) : Json := .record [(r.sort, r.recordJson)]

/-- How deep the free part of a custom object may nest in a text. -/
def depthLimit : Nat := 125

/-- The resource that a JSON text spells, once it is read as a document. The free part of a custom
object may not nest too deep. -/
def ofDocument? (j : Json) : Option Resource := do
  let r ← ofJson? j
  match r with
  | custom c => if c.spec.1.depth ≤ depthLimit then some r else none
  | _ => some r

end Resource

end ClusterAudit
