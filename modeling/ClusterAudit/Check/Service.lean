import ClusterAudit.Check
import ClusterAudit.Store.Reference

/-!
# The check of services

A service that stands for something inside the cluster should have a selector, and the selector
should land on a pod of its namespace.
-/

namespace ClusterAudit

namespace ServiceCheck

/-- The verdict on a service. -/
def verdict (s : Snapshot) (t : Target) (r : Service) : Verdict :=
  if r.isExternalName then .clean
  else if r.selector.isEmpty then .note t 1101 []
  else
    let selected := s.findSelected .pods r.metadata.space ⟨r.selector, []⟩
    .onResult (AuditError.ofStore selected) fun pods =>
      if pods.isEmpty then .note t 1100 [] else .clean

/-- A service as the target of findings. -/
def target (r : Service) : Target := .ofMeta .services r.metadata

end ServiceCheck

/-- The check of services. -/
def Check.services : Check where
  kind := .services
  name := "service"
  look s := onRecords s .services Resource.asService ServiceCheck.target (ServiceCheck.verdict s)

end ClusterAudit
