/-!
# Severities

How serious a finding is, from harmless to failing.
-/

namespace ClusterAudit

/-- The seriousness of a finding. -/
inductive Severity where
  | ok
  | info
  | warn
  | error
  deriving DecidableEq

namespace Severity

instance : Inhabited Severity := ⟨ok⟩

/-- The place in the order, from zero. -/
def rank : Severity → Nat
  | ok => 0
  | info => 1
  | warn => 2
  | error => 3

instance : LE Severity := ⟨fun a b => a.rank ≤ b.rank⟩

instance (a b : Severity) : Decidable (a ≤ b) := inferInstanceAs (Decidable (a.rank ≤ b.rank))

/-- The more serious of two. -/
def max (a b : Severity) : Severity := if a ≤ b then b else a

/-- All severities, ascending. -/
def all : List Severity := [ok, info, warn, error]

/-- The written name. -/
def name : Severity → String
  | ok => "ok"
  | info => "info"
  | warn => "warn"
  | error => "error"

/-- The name as it is shown to people. -/
def display : Severity → String
  | ok => "OK"
  | info => "INFO"
  | warn => "WARN"
  | error => "ERROR"

/-- The severity a written name denotes; `warning` is another name of `warn`. -/
def ofName? : String → Option Severity
  | "ok" => some ok
  | "info" => some info
  | "warn" => some warn
  | "warning" => some warn
  | "error" => some error
  | _ => none

/-- The most serious of a list; `ok` for the empty list. -/
def worst (l : List Severity) : Severity := l.foldl max ok

end Severity

end ClusterAudit
