import ClusterAudit.Check.Error

/-!
# Verdicts

What a check says about one object is a `Verdict`: remarks in order, and possibly a failure that
keeps it from saying more. Verdicts are put together with `++`; nothing is said after a failure.

A collector takes a verdict remark by remark (`Collector.visit`). A failure, of the verdict or in
taking a remark, is recorded about the object and ends with that object.
-/

namespace ClusterAudit

/-- One thing that a check has to say. -/
structure Remark where
  target : Target
  code : Code
  /-- The part of the object that is meant; nothing for the object as a whole. -/
  group : Option String
  args : List String
  deriving DecidableEq

/-- What a check says about one object. -/
structure Verdict where
  remarks : List Remark
  failure : Option AuditError
  deriving DecidableEq

namespace Verdict

/-- There is nothing to say. -/
def clean : Verdict := ⟨[], none⟩

instance : Inhabited Verdict := ⟨clean⟩

/-- The check failed. -/
def fail (e : AuditError) : Verdict := ⟨[], some e⟩

/-- A remark about an object as a whole. -/
def note (t : Target) (code : Code) (args : List String) : Verdict :=
  ⟨[⟨t, code, none, args⟩], none⟩

/-- A remark about a part of an object. -/
def noteIn (t : Target) (group : String) (code : Code) (args : List String) : Verdict :=
  ⟨[⟨t, code, some group, args⟩], none⟩

/-- One verdict and then another, unless the first failed. -/
def append (a b : Verdict) : Verdict :=
  match a.failure with
  | some _ => a
  | none => ⟨a.remarks ++ b.remarks, b.failure⟩

instance : Append Verdict := ⟨append⟩

/-- Verdicts one after the other. -/
def concat (l : List Verdict) : Verdict := l.foldr append clean

/-- The verdict on a result, or the failure to get one. -/
def onResult {α : Type} (r : Except AuditError α) (f : α → Verdict) : Verdict :=
  match r with
  | .ok a => f a
  | .error e => fail e

end Verdict

namespace Collector

/-- The collector with a remark recorded, unless it is silenced. -/
def take (c : Collector) (r : Remark) : Except IssueError Collector :=
  match r.group with
  | none => (c.addCode r.target r.code r.args).map (·.1)
  | some group => (c.addSubCode r.target r.code group r.args).map (·.1)

/-- The collector with remarks recorded up to the first that is refused, and why that one is. -/
def takeAll (c : Collector) : List Remark → Collector × Option IssueError
  | [] => (c, none)
  | r :: rest => match c.take r with
    | .ok c => c.takeAll rest
    | .error e => (c, some e)

/-- The collector with an object registered and the verdict on it recorded. -/
def visit (c : Collector) (t : Target) (v : Verdict) : Collector :=
  match (c.init t.fqn).takeAll v.remarks with
  | (c, some e) => c.addError t (AuditError.issue e).message
  | (c, none) => match v.failure with
    | some e => c.addError t e.message
    | none => c

end Collector

end ClusterAudit
