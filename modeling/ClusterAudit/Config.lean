import ClusterAudit.Dict
import ClusterAudit.Document.View
import ClusterAudit.Severity

/-!
# Configuration as it is written

A `Config` holds suppression rules and severities as their author wrote them; nothing is compiled or
looked up yet. `Config.read` reads it through a view of any kind of document. What is left out is
empty, and names that are not known are passed over.
-/

namespace ClusterAudit

/-- A suppression rule as it is written. -/
structure RuleDraft where
  fqns : List Written
  labels : Dict String (List Written)
  annotations : Dict String (List Written)
  containers : List Written
  codes : List Written
  deriving DecidableEq

/-- The suppressions of one kind as they are written. -/
structure KindDraft where
  codes : List Written
  instances : List RuleDraft
  deriving DecidableEq

/-- All suppressions as they are written. -/
structure ExclusionsDraft where
  global : RuleDraft
  kinds : Dict String KindDraft
  deriving DecidableEq

/-- A configuration as it is written. -/
structure Config where
  excludes : ExclusionsDraft
  /-- Severities by what is written for a code. -/
  severities : Dict String Severity
  deriving DecidableEq

/-- The rule without categories. -/
def RuleDraft.empty : RuleDraft := ⟨[], ∅, ∅, [], []⟩

instance : Inhabited RuleDraft := ⟨.empty⟩

/-- No suppressions for a kind. -/
def KindDraft.empty : KindDraft := ⟨[], []⟩

instance : Inhabited KindDraft := ⟨.empty⟩

/-- No suppressions at all. -/
def ExclusionsDraft.empty : ExclusionsDraft := ⟨.empty, ∅⟩

instance : Inhabited ExclusionsDraft := ⟨.empty⟩

/-- The configuration that changes nothing. -/
def Config.empty : Config := ⟨.empty, ∅⟩

instance : Inhabited Config := ⟨.empty⟩

/-! ## Reading -/

section
variable {m : Type → Type} [Monad m] {δ : Type}

namespace View

/-- Each value read, with its name. -/
def readValues {α : Type} (read : δ → m α) : List (String × δ) → m (List (String × α))
  | [] => pure []
  | (name, d) :: rest => do pure ((name, ← read d) :: (← readValues read rest))

/-- A dictionary whose values are read; of a repeated key the last value counts. -/
def dict {α : Type} (v : View m δ) (read : δ → m α) (d : δ) : m (Dict String α) := do
  pure (.ofList (← readValues read (← v.entries? d)))

end View

open View

/-- A suppression rule. -/
def RuleDraft.read (v : View m δ) (d : δ) : m RuleDraft := do
  let f ← v.fields? ["fqns", "labels", "annotations", "containers", "codes"] d
  pure {
    fqns := ← field f "fqns" [] v.expressions
    labels := ← field f "labels" ∅ (v.dict v.expressions)
    annotations := ← field f "annotations" ∅ (v.dict v.expressions)
    containers := ← field f "containers" [] v.expressions
    codes := ← field f "codes" [] v.expressions }

/-- The suppressions of a kind. -/
def KindDraft.read (v : View m δ) (d : δ) : m KindDraft := do
  let f ← v.fields? ["codes", "instances"] d
  pure {
    codes := ← field f "codes" [] v.expressions
    instances := ← field f "instances" [] (v.list (RuleDraft.read v)) }

/-- All suppressions. -/
def ExclusionsDraft.read (v : View m δ) (d : δ) : m ExclusionsDraft := do
  let f ← v.fields? ["global", "linters"] d
  pure {
    global := ← field f "global" .empty (RuleDraft.read v)
    kinds := ← field f "linters" ∅ (v.dict (KindDraft.read v)) }

/-- The severity under a code, which must be given. -/
def Severity.readOverride [MonadLiftT Option m] (v : View m δ) (d : δ) : m Severity := do
  let f ← v.fields? ["severity"] d
  Severity.ofName? (← v.name? (← f "severity"))

/-- A configuration. -/
def Config.read [MonadLiftT Option m] (v : View m δ) (d : δ) : m Config := do
  let f ← v.fields? ["excludes", "codes"] d
  pure {
    excludes := ← field f "excludes" .empty (ExclusionsDraft.read v)
    severities := ← field f "codes" ∅ (v.dict (Severity.readOverride v)) }

end

end ClusterAudit
