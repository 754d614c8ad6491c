import ClusterAudit.Resource.Meta

/-!
# Accounts and bindings
-/

namespace ClusterAudit

/-- An account that pods run under. -/
structure ServiceAccount where
  metadata : ObjectMeta
  automountServiceAccountToken : Option Bool
  deriving DecidableEq

instance : Inhabited ServiceAccount := ⟨⟨default, none⟩⟩

/-- The role that a binding grants. -/
structure RoleRef where
  kind : String
  name : String
  deriving DecidableEq

instance : Inhabited RoleRef := ⟨⟨"", ""⟩⟩

/-- Who is granted a role. -/
structure BindingSubject where
  kind : String
  name : String
  space : String
  deriving DecidableEq

namespace BindingSubject

instance : Inhabited BindingSubject := ⟨⟨"", "", ""⟩⟩

/-- An account as a subject. -/
def serviceAccount (space name : String) : BindingSubject := ⟨"ServiceAccount", name, space⟩

/-- Whether the subject is an account. -/
def isServiceAccount (s : BindingSubject) : Bool := s.kind == "ServiceAccount"

end BindingSubject

/-- A binding of subjects to a role, within a namespace or across the cluster. -/
structure RoleBinding where
  metadata : ObjectMeta
  roleRef : RoleRef
  subjects : List BindingSubject
  deriving DecidableEq

namespace RoleBinding

/-- A binding with metadata only. -/
def ofMeta (m : ObjectMeta) : RoleBinding := ⟨m, default, []⟩

instance : Inhabited RoleBinding := ⟨ofMeta default⟩

/-- The binding with one more subject. -/
def withSubject (b : RoleBinding) (s : BindingSubject) : RoleBinding :=
  { b with subjects := b.subjects ++ [s] }

end RoleBinding

end ClusterAudit
