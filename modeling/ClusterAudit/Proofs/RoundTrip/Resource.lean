import ClusterAudit.Proofs.RoundTrip.Document
import ClusterAudit.Resource.Codec

/-!
# Reading resources back

One lemma for every record: what is written under the name of a field is read from there, whatever
the order of the fields (`Rearranges.fields?_record`). `Resource.undoes` chooses among them by the
written name of the sort.
-/

namespace ClusterAudit

open Json

variable {c : Json → Json} (h : Rearranges c)
include h

/-! ## Metadata and selectors -/

/-- A requirement is read back. -/
theorem Requirement.undoes : Undoes c Requirement.ofJson? Requirement.toJson := by
  intro r
  have hname : Operator.ofName? r.operator.name = some r.operator := by cases r.operator <;> rfl
  rw [ofJson?, toJson, h.fields?_record (by rfl) (by decide)]
  simp [orElse, h.undoes_text _, h.undoes_variant _, hname, h.undoes_text.listOf h _]

/-- A selector is read back. -/
theorem Selector.undoes : Undoes c Selector.ofJson? Selector.toJson := by
  intro r
  rw [ofJson?, toJson, h.fields?_record (by rfl) (by decide)]
  simp [orElse, h.undoes_labels _, (Requirement.undoes h).listOf h _]

/-- A reference to an owner is read back. -/
theorem OwnerReference.undoes : Undoes c OwnerReference.ofJson? OwnerReference.toJson := by
  intro r
  rw [ofJson?, toJson, h.fields?_record (by rfl) (by decide)]
  simp [orElse, h.undoes_text _, h.undoes_bool _]

/-- Metadata are read back. -/
theorem ObjectMeta.undoes : Undoes c ObjectMeta.ofJson? ObjectMeta.toJson := by
  intro r
  rw [ofJson?, toJson, h.fields?_record (by rfl) (by decide)]
  simp [orElse, h.undoes_text _, h.undoes_labels _, (OwnerReference.undoes h).listOf h _]

/-! ## Workloads -/

/-- A probe is read back. -/
theorem Probe.undoes : Undoes c Probe.ofJson? Probe.toJson := by
  intro r
  rw [ofJson?, toJson, h.fields?_record (by rfl) (by decide)]
  simp [orElse, h.undoes_uint32 _]

/-- Quantities by resource are read back. -/
theorem ResourceRequirements.undoes :
    Undoes c ResourceRequirements.ofJson? ResourceRequirements.toJson := by
  intro r
  rw [ofJson?, toJson, h.fields?_record (by rfl) (by decide)]
  simp [orElse, h.undoes_labels _]

/-- A container is read back. -/
theorem Container.undoes : Undoes c Container.ofJson? Container.toJson := by
  intro r
  rw [ofJson?, toJson, h.fields?_record (by rfl) (by decide)]
  simp [orElse, h.undoes_text _, ResourceRequirements.undoes h _,
    (Probe.undoes h).optional h rfl _]

/-- A pod is read back. -/
theorem Pod.undoes : Undoes c Pod.ofJson? Pod.toJson := by
  intro r
  rw [ofJson?, toJson, h.fields?_record (by rfl) (by decide)]
  simp [orElse, h.undoes_text _, ObjectMeta.undoes h _, (Container.undoes h).listOf h _]

/-- What a controller makes pods from is read back. -/
theorem PodTemplate.undoes : Undoes c PodTemplate.ofJson? PodTemplate.toJson := by
  intro r
  rw [ofJson?, toJson, h.fields?_record (by rfl) (by decide)]
  simp [orElse, ObjectMeta.undoes h _, (Container.undoes h).listOf h _]

/-- A deployment is read back. -/
theorem Deployment.undoes : Undoes c Deployment.ofJson? Deployment.toJson := by
  intro r
  rw [ofJson?, toJson, h.fields?_record (by rfl) (by decide)]
  simp [orElse, ObjectMeta.undoes h _, h.undoes_uint32 _, Selector.undoes h _,
    PodTemplate.undoes h _]

/-- A replica set is read back. -/
theorem ReplicaSet.undoes : Undoes c ReplicaSet.ofJson? ReplicaSet.toJson := by
  intro r
  rw [ofJson?, toJson, h.fields?_record (by rfl) (by decide)]
  simp [orElse, ObjectMeta.undoes h _, h.undoes_uint32 _, Selector.undoes h _]

/-! ## Network -/

/-- A service is read back. -/
theorem Service.undoes : Undoes c Service.ofJson? Service.toJson := by
  intro r
  rw [ofJson?, toJson, h.fields?_record (by rfl) (by decide)]
  simp [orElse, ObjectMeta.undoes h _, h.undoes_text _, h.undoes_labels _]

/-- An address block with exceptions is read back. -/
theorem IpBlock.undoes : Undoes c IpBlock.ofJson? IpBlock.toJson := by
  intro r
  rw [ofJson?, toJson, h.fields?_record (by rfl) (by decide)]
  simp [orElse, h.undoes_text _, h.undoes_text.listOf h _]

/-- One side of allowed traffic is read back. -/
theorem PolicyPeer.undoes : Undoes c PolicyPeer.ofJson? PolicyPeer.toJson := by
  intro r
  rw [ofJson?, toJson, h.fields?_record (by rfl) (by decide)]
  simp [(Selector.undoes h).optional h rfl _, (IpBlock.undoes h).optional h rfl _]

/-- A rule of a policy is read back. -/
theorem PolicyRule.undoes : Undoes c PolicyRule.ofJson? PolicyRule.toJson := by
  intro r
  rw [ofJson?, toJson, h.fields?_record (by rfl) (by decide)]
  simp [orElse, (PolicyPeer.undoes h).listOf h _]

/-- A network policy is read back. -/
theorem NetworkPolicy.undoes : Undoes c NetworkPolicy.ofJson? NetworkPolicy.toJson := by
  intro r
  rw [ofJson?, toJson, h.fields?_record (by rfl) (by decide)]
  simp [orElse, ObjectMeta.undoes h _, Selector.undoes h _, (PolicyRule.undoes h).listOf h _]

/-! ## Accounts, bindings, namespaces -/

/-- An account is read back. -/
theorem ServiceAccount.undoes : Undoes c ServiceAccount.ofJson? ServiceAccount.toJson := by
  intro r
  rw [ofJson?, toJson, h.fields?_record (by rfl) (by decide)]
  simp [orElse, ObjectMeta.undoes h _, h.undoes_bool.optional h rfl _]

/-- The role that a binding grants is read back. -/
theorem RoleRef.undoes : Undoes c RoleRef.ofJson? RoleRef.toJson := by
  intro r
  rw [ofJson?, toJson, h.fields?_record (by rfl) (by decide)]
  simp [orElse, h.undoes_text _]

/-- Who is granted a role is read back. -/
theorem BindingSubject.undoes : Undoes c BindingSubject.ofJson? BindingSubject.toJson := by
  intro r
  rw [ofJson?, toJson, h.fields?_record (by rfl) (by decide)]
  simp [orElse, h.undoes_text _]

/-- A binding is read back. -/
theorem RoleBinding.undoes : Undoes c RoleBinding.ofJson? RoleBinding.toJson := by
  intro r
  rw [ofJson?, toJson, h.fields?_record (by rfl) (by decide)]
  simp [orElse, ObjectMeta.undoes h _, RoleRef.undoes h _, (BindingSubject.undoes h).listOf h _]

/-- A namespace is read back. -/
theorem NamespaceRecord.undoes : Undoes c NamespaceRecord.ofJson? NamespaceRecord.toJson := by
  intro r
  rw [ofJson?, toJson, h.fields?_record (by rfl) (by decide)]
  simp [orElse, ObjectMeta.undoes h _]

/-- The free part of a custom object is read back: it is canonical, so it denotes itself. -/
theorem canonicalSpec?_eq (spec : { j : Json // j.isCanonical = true }) :
    canonicalSpec? (c spec.1) = some spec := by
  obtain ⟨hreadable, heq⟩ := h.canonical spec.2
  rw [canonicalSpec?, dif_pos hreadable]
  exact congrArg some (Subtype.ext heq)

/-- A custom object is read back. -/
theorem CustomResource.undoes : Undoes c CustomResource.ofJson? CustomResource.toJson := by
  intro r
  rw [ofJson?, toJson, h.fields?_record (by rfl) (by decide)]
  simp [orElse, h.undoes_text _, ObjectMeta.undoes h _, canonicalSpec?_eq h]

/-! ## Resources -/

/-- A resource is read back. -/
theorem Resource.undoes : Undoes c Resource.ofJson? Resource.toJson := by
  intro r
  rw [toJson, h.record_singleton]
  cases r with
  | pod r => exact congrArg (Option.map pod) (Pod.undoes h r)
  | service r => exact congrArg (Option.map service) (Service.undoes h r)
  | deployment r => exact congrArg (Option.map deployment) (Deployment.undoes h r)
  | replicaSet r => exact congrArg (Option.map replicaSet) (ReplicaSet.undoes h r)
  | networkPolicy r => exact congrArg (Option.map networkPolicy) (NetworkPolicy.undoes h r)
  | clusterNamespace r => exact congrArg (Option.map clusterNamespace) (NamespaceRecord.undoes h r)
  | serviceAccount r => exact congrArg (Option.map serviceAccount) (ServiceAccount.undoes h r)
  | roleBinding r => exact congrArg (Option.map roleBinding) (RoleBinding.undoes h r)
  | clusterRoleBinding r => exact congrArg (Option.map clusterRoleBinding) (RoleBinding.undoes h r)
  | custom r => exact congrArg (Option.map custom) (CustomResource.undoes h r)

end ClusterAudit
