/-!
# Reading values from any kind of document

Settings are written in several formats, and each format has its own idea of what counts as a
record, a list or a number. A `View` is that idea: how values of a kind of document are looked at.
What is read through a view is the same for all formats.
-/

namespace ClusterAudit

/-- An expression as it is written: codes are often written as plain numbers. -/
inductive Written where
  | number (n : UInt64)
  | text (s : String)
  deriving DecidableEq

namespace Written

/-- The text that is meant. -/
def raw : Written → String
  | number n => toString n.toNat
  | text s => s

/-- The number, if it is one of 64 bits without sign. -/
def ofInt? (n : Int) : Option Written :=
  if 0 ≤ n ∧ n < UInt64.size then some (number (UInt64.ofNat n.toNat)) else none

end Written

/-- How values are looked at in a kind of document. Looking may have an effect `m`, at least that of
failing: a document that refers to its own parts counts how often that is followed. -/
structure View (m : Type → Type) (δ : Type) where
  /-- The fields of a record that may have the given names, by name. -/
  fields? : List String → δ → m (String → Option δ)
  /-- The items of a list. -/
  items? : δ → m (List δ)
  /-- The entries of a dictionary as they are written. -/
  entries? : δ → m (List (String × δ))
  /-- A name that stands for one of several values. -/
  name? : δ → m String
  /-- An expression. -/
  written? : δ → m Written

namespace View

variable {m : Type → Type} [Monad m] {δ α : Type}

/-- Each item read. -/
def readEach (read : δ → m α) : List δ → m (List α)
  | [] => pure []
  | d :: rest => do pure ((← read d) :: (← readEach read rest))

/-- A list whose items are read. -/
def list (v : View m δ) (read : δ → m α) (d : δ) : m (List α) := do
  readEach read (← v.items? d)

/-- A list of expressions. -/
def expressions (v : View m δ) : δ → m (List Written) := v.list v.written?

/-- The field of a name read, or what stands for an absent one. -/
def field (fields : String → Option δ) (name : String) (absent : α) (read : δ → m α) : m α :=
  match fields name with
  | none => pure absent
  | some d => read d

end View

end ClusterAudit
