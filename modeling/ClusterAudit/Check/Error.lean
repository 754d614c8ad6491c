import ClusterAudit.Address.Cidr
import ClusterAudit.Collector
import ClusterAudit.Config.Error
import ClusterAudit.Store.Snapshot

/-!
# What can go wrong in a check

Every layer has errors of its own; an `AuditError` is one of them, with the layer it comes from.
-/

namespace ClusterAudit

/-- A failure inside a check. -/
inductive AuditError where
  | store (e : StoreError)
  | address (e : AddressError)
  | expression (e : ExpressionError)
  | config (e : ConfigError)
  | issue (e : IssueError)
  /-- A record is not what a check expects of it. -/
  | unexpectedShape (fqn text : String)
  deriving DecidableEq

namespace AuditError

/-- The wording of the error. -/
def message : AuditError → String
  | store e => "Store error: " ++ e.message
  | address e => "Selector error: " ++ e.message
  | expression e => "Exclusion error: " ++ e.message
  | config e => "Configuration error: " ++ e.message
  | issue e => "Issue error: " ++ e.message
  | unexpectedShape fqn text => "Unexpected record shape for " ++ fqn ++ ": " ++ text

/-- A result of the store, its error as one of a check. -/
def ofStore {α : Type} (r : Except StoreError α) : Except AuditError α := r.mapError store

end AuditError

end ClusterAudit
