import ClusterAudit.Pattern
import ClusterAudit.Text.Split

/-!
# Expressions of suppression rules

An expression is a literal, which matches the texts equal to it, or a pattern behind the marker
`rx:`, which matches the texts that hold a match of it. `Expression.raw` gives back what was parsed.
A group of expressions matches what one of them matches.
-/

namespace ClusterAudit

/-- What is wrong with an expression. -/
inductive ExpressionError where
  /-- Nothing follows the marker. -/
  | emptyPattern
  /-- What follows the marker is no pattern. -/
  | invalidPattern (pattern : String)
  deriving DecidableEq

/-- The marker that makes an expression a pattern. -/
def patternMarker : String := "rx:"

namespace ExpressionError

/-- The wording of the error. -/
def message : ExpressionError → String
  | emptyPattern => "Empty regex pattern after '" ++ patternMarker ++ "' marker"
  | invalidPattern pattern => "Invalid regex pattern '" ++ pattern ++ "'"

end ExpressionError

/-- A literal or a pattern. -/
inductive Expression where
  | literal (text : String)
  | pattern (p : Pattern)
  deriving DecidableEq

namespace Expression

/-- The expression that a raw text spells. -/
def parse (raw : String) : Except ExpressionError Expression :=
  match Text.dropStart? patternMarker.toList raw.toList with
  | none => .ok (.literal raw)
  | some [] => .error .emptyPattern
  | some source =>
    match Pattern.compile? (String.ofList source) with
    | some p => .ok (.pattern p)
    | none => .error (.invalidPattern (String.ofList source))

/-- Whether a text matches. -/
def isMatch (e : Expression) (value : String) : Bool :=
  match e with
  | literal text => text == value
  | pattern p => p.isMatch value

/-- Whether the expression is a pattern. -/
def isPattern : Expression → Bool
  | literal _ => false
  | pattern _ => true

/-- The expression as it is written, marker included. -/
def raw : Expression → String
  | literal text => text
  | pattern p => patternMarker ++ p.source

end Expression

/-- Expressions of which one must match. -/
abbrev Expressions := List Expression

namespace Expressions

/-- The expressions that raw texts spell, or the error of the first text that spells none. -/
def parse : List String → Except ExpressionError Expressions
  | [] => .ok []
  | raw :: rest => do
    let e ← Expression.parse raw
    let es ← parse rest
    .ok (e :: es)

/-- Whether one of the expressions matches a text. -/
def holds (es : Expressions) (value : String) : Bool := es.any (·.isMatch value)

/-- Whether one of the expressions matches one of the texts. -/
def holdsAny (es : Expressions) (values : List String) : Bool := values.any es.holds

end Expressions

end ClusterAudit
