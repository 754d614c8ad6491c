import ClusterAudit.Check
import ClusterAudit.Config.Effect

/-!
# Scripted checks

A check that follows a script rather than a policy: it remarks on every record that a selector does
not select, and can be told to fail on some of them in any of the ways in which checks fail. It
serves to exercise whatever runs checks.
-/

namespace ClusterAudit

/-- Something that a check may do and that may fail. -/
inductive Attempt where
  /-- Read an address block. -/
  | cidr (raw : String)
  /-- Read an address. -/
  | ip (raw : String)
  /-- Validate an address block with exceptions. -/
  | block (b : IpBlock)
  /-- List the records of a kind. -/
  | scan (kind : Kind)
  /-- Parse an expression. -/
  | expression (raw : String)
  /-- Make a glossary. -/
  | config (c : Config)
  /-- Remark on an object of a name. -/
  | remark (fqn : String)
  /-- Find a record misshapen. -/
  | shape (fqn text : String)
  deriving DecidableEq

/-- What a scripted check does. -/
structure Script where
  kind : Kind
  name : String
  /-- Objects that it selects are passed over. -/
  selector : Selector
  code : Code
  args : List String
  /-- The part of an object that is remarked on; nothing for the object as a whole. -/
  group : Option String
  /-- The objects on which something is attempted. -/
  failOn : List String
  attempt : Option Attempt
  /-- Kinds that must be registered. -/
  requires : List Kind
  deriving DecidableEq

namespace Script

/-- The verdict on a result that matters only if it is an error. -/
def onError {ε α : Type} (wrap : ε → AuditError) : Except ε α → Verdict
  | .ok _ => .clean
  | .error e => .fail (wrap e)

/-- The verdict of an attempt. -/
def attempted (p : Script) (s : Snapshot) : Attempt → Verdict
  | .cidr raw => onError .address (Cidr.parse raw)
  | .ip raw => onError .address (matchesCidr raw "0.0.0.0/0")
  | .block b => onError .address b.validate
  | .scan kind => onError .store (s.scan kind)
  | .expression raw => onError .expression (Expression.parse raw)
  | .config c => onError .config c.glossary
  | .remark fqn => .note ⟨p.kind, ⟨fqn⟩, ∅, ∅, []⟩ p.code []
  | .shape fqn text => .fail (.unexpectedShape fqn text)

/-- The remark on an object that the selector does not select. -/
def remarked (p : Script) (t : Target) : Verdict :=
  if p.selector.selects t.labels then .clean
  else match p.group with
    | none => .note t p.code p.args
    | some group => .noteIn t group p.code p.args

/-- The verdict on a record. -/
def verdict (p : Script) (s : Snapshot) (t : Target) : Verdict :=
  (match p.attempt with
    | some a => if p.failOn.contains t.fqn.text then p.attempted s a else .clean
    | none => .clean)
    ++ p.remarked t

/-- The check that follows the script. -/
def check (p : Script) : Check where
  kind := p.kind
  name := p.name
  look s := do
    match p.requires.find? fun kind => !s.registry.contains kind with
    | some kind => .error (.store (.unknownKind kind))
    | none =>
      let records ← AuditError.ofStore (s.scan p.kind)
      .ok (records.map fun r => (Target.ofResource r, p.verdict s (Target.ofResource r)))

end Script

end ClusterAudit
