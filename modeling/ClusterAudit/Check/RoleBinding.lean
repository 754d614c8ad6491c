import ClusterAudit.Check
import ClusterAudit.Store.Reference

/-!
# The check of bindings

A binding should have subjects, and those that are accounts should exist. The same check serves
bindings within a namespace and across the cluster; it is named for the kind it looks at.
-/

namespace ClusterAudit

namespace RoleBindingCheck

/-- The account that a subject names; without a namespace of its own it lies in the binding's. -/
def accountOf (b : RoleBinding) (subject : BindingSubject) : Fqn :=
  .join (if subject.space.isEmpty then b.metadata.space else subject.space) subject.name

/-- Whether the account of a subject exists. -/
def onSubject (s : Snapshot) (t : Target) (b : RoleBinding) (subject : BindingSubject) : Verdict :=
  let account := accountOf b subject
  .onResult (AuditError.ofStore (s.get? .serviceAccounts account)) fun
    | none => .note t 1300 [account.text]
    | some _ => .clean

/-- The verdict on a binding. -/
def verdict (s : Snapshot) (accountsLoaded : Bool) (t : Target) (b : RoleBinding) : Verdict :=
  if b.subjects.isEmpty then .note t 1301 []
  else if accountsLoaded then
    .concat ((b.subjects.filter (·.isServiceAccount)).map (onSubject s t b))
  else .clean

/-- A binding in the table of a kind as the target of findings. -/
def target (kind : Kind) (b : RoleBinding) : Target := .ofMeta kind b.metadata

end RoleBindingCheck

/-- The check of the bindings in the table of a kind. -/
def Check.bindings (kind : Kind) : Check where
  kind := kind
  name := kind.text
  look s := do
    let accountsLoaded ← AuditError.ofStore (s.isLoaded .serviceAccounts)
    onRecords s kind Resource.asRoleBinding (RoleBindingCheck.target kind)
      (RoleBindingCheck.verdict s accountsLoaded)

end ClusterAudit
