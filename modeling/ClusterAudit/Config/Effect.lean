import ClusterAudit.Config
import ClusterAudit.Config.Error
import ClusterAudit.Glossary
import ClusterAudit.Suppression
import ClusterAudit.Text.Blank
import ClusterAudit.Text.Numeral

/-!
# What a configuration does

Compiling a configuration makes its suppressions; the first expression that does not compile is the
error, under the scope it stands in. Overriding changes the severities of a glossary, key by key in
text order. An override that fails stops there, and what was done before it stays done.
-/

namespace ClusterAudit

/-- A result under a scope. -/
def ConfigError.inScope {α : Type} (scope : String) :
    Except ExpressionError α → Except ConfigError α
  | .ok a => .ok a
  | .error cause => .error (.invalidRule scope cause)

/-! ## Suppressions -/

/-- The compiled rule. -/
def RuleDraft.compile (r : RuleDraft) : Except ExpressionError Rule :=
  let raw (l : List Written) := l.map Written.raw
  Rule.build
    (raw r.fqns) (raw r.containers) (raw r.codes) (r.labels.map raw) (r.annotations.map raw)

/-- The compiled rules; a rule's scope ends in its place, counted from `i`. -/
def RuleDraft.compileEach (scope : String) (i : Nat) :
    List RuleDraft → Except ConfigError (List Rule)
  | [] => .ok []
  | r :: rest => do
    let rule ← ConfigError.inScope (scope ++ "[" ++ toString i ++ "]") r.compile
    .ok (rule :: (← compileEach scope (i + 1) rest))

/-- The compiled suppressions of a kind. -/
def KindDraft.compile (k : KindDraft) (kind : String) : Except ConfigError KindRules := do
  let scope := "linters." ++ kind
  let codes ← ConfigError.inScope (scope ++ ".codes") (Expressions.parse (k.codes.map Written.raw))
  .ok ⟨codes, ← RuleDraft.compileEach (scope ++ ".instances") 0 k.instances⟩

/-- All compiled suppressions: the global rule first, then the kinds in text order. -/
def ExclusionsDraft.compile (e : ExclusionsDraft) : Except ConfigError Exclusions := do
  let global ← ConfigError.inScope "global" e.global.compile
  let kinds ← e.kinds.entries.foldlM
    (fun (ks : Dict Kind KindRules) k => do .ok (ks.insert ⟨k.1⟩ (← k.2.compile k.1))) ∅
  .ok ⟨global, kinds⟩

namespace Config

/-- The suppressions of a configuration. -/
def exclusions (c : Config) : Except ConfigError Exclusions := c.excludes.compile

/-! ## Severities -/

/-- The code that a key denotes: digits below `2 ^ 32` after an optional plus sign, with blanks
around them. -/
def codeOfKey? (raw : String) : Option Code :=
  (Text.natural? UInt32.size (Text.trimList raw.toList)).bind Code.ofNat?

/-- The glossary after overrides in order, and what stopped them, if anything did. -/
def overrideEach (g : Glossary) : List (String × Severity) → Glossary × Option ConfigError
  | [] => (g, none)
  | (raw, severity) :: rest =>
    match codeOfKey? raw with
    | none => (g, some (.invalidCode raw))
    | some code =>
      match g.overrideSeverity code severity with
      | (g, true) => overrideEach g rest
      | (g, false) => (g, some (.unknownCode code))

/-- The glossary with the severities of the configuration, as far as they apply, and what stopped
them, if anything did. -/
def applyOverrides (c : Config) (g : Glossary) : Glossary × Option ConfigError :=
  overrideEach g c.severities.entries

/-- The builtin glossary with the severities of the configuration. -/
def glossary (c : Config) : Except ConfigError Glossary :=
  match c.applyOverrides .builtin with
  | (g, none) => .ok g
  | (_, some e) => .error e

end Config

end ClusterAudit
