import ClusterAudit.Document.Yaml.Node
import ClusterAudit.Number.Binary64
import ClusterAudit.Number.Decimal

/-!
# What scalars of YAML denote

A plain scalar without a tag may denote nothing, a truth value, an integer or a number with a
fraction; any other scalar is text (`Value.ofPlain`). The core tags ask for a kind of value whatever
the style (`Value.ofScalar?`).
-/

namespace ClusterAudit.Yaml

/-- What a scalar denotes. -/
inductive Value where
  | null
  | bool (b : Bool)
  | int (n : Int)
  /-- A finite number with a fraction or exponent, or beyond the integers; or an infinity or no
  number, spelled with a leading point. -/
  | float
  | text (s : String)
  deriving DecidableEq

namespace Value

/-- Whether a text spells the absence of a value. -/
def isNull (s : String) : Bool := ["null", "Null", "NULL", "~"].contains s

/-- The truth value that a text spells. -/
def bool? (s : String) : Option Bool :=
  if ["true", "True", "TRUE"].contains s then some true
  else if ["false", "False", "FALSE"].contains s then some false
  else none

/-- Whether digits with a leading zero stand there, which are text and no number. -/
def isPadded (s : List Char) : Bool :=
  match s with
  | '-' :: '0' :: d :: rest => (d :: rest).all Char.isDigit
  | '+' :: '0' :: d :: rest => (d :: rest).all Char.isDigit
  | '0' :: d :: rest => (d :: rest).all Char.isDigit
  | _ => false

/-- The number that digits after a sign of their base spell. -/
def based? : List Char → Option Nat
  | '0' :: 'x' :: digits => Text.number? 16 digits
  | '0' :: 'o' :: digits => Text.number? 8 digits
  | '0' :: 'b' :: digits => Text.number? 2 digits
  | _ => none

/-- The size of an integer without its sign. -/
def magnitude? (s : List Char) : Option Nat :=
  match based? s with
  | some n => some n
  | none => if isPadded s then none else Text.number? 10 s

/-- The integer of 128 bits that a text spells. -/
def int? (s : List Char) : Option Int :=
  match s with
  | '-' :: digits => ((magnitude? digits).filter (· ≤ 1 <<< 127)).map fun n => -(n : Int)
  | '+' :: digits => ((magnitude? digits).filter (· < 1 <<< 128)).map fun n => (n : Int)
  | digits => ((magnitude? digits).filter (· < 1 <<< 128)).map fun n => (n : Int)

/-- Whether a text spells an infinity or no number. -/
def isSpecial (s : String) : Bool :=
  [".inf", ".Inf", ".INF", "+.inf", "+.Inf", "+.INF", "-.inf", "-.Inf", "-.INF",
    ".nan", ".NaN", ".NAN"].contains s

/-- Whether a text spells a finite number. -/
def isFinite (s : List Char) : Bool :=
  let unsigned := match s with
    | '+' :: '+' :: _ | '+' :: '-' :: _ => []
    | '+' :: rest => rest
    | s => s
  match Decimal.parse? unsigned with
  | some d => (Binary64.ofDecimal d.mantissa d.exponent).isSome
  | none => false

/-- Whether a text spells a number that is not an integer. -/
def isFloat (s : String) : Bool := isSpecial s || isFinite s.toList

/-- What a plain scalar without a tag denotes. -/
def ofPlain (s : String) : Value :=
  if s.isEmpty || isNull s then null
  else match bool? s with
    | some b => bool b
    | none => match int? s.toList with
      | some n => int n
      | none => if !isPadded s.toList && isFloat s then float else text s

/-- The start of the core tags. -/
def coreTag (name : String) : String := "tag:yaml.org,2002:" ++ name

/-- Whether a tag is local to the document. -/
def isLocalTag (tag : String) : Bool := tag.startsWith "!"

/-- What a scalar denotes, if it is what its tag asks for; a local tag asks for nothing known. -/
def ofScalar? (tag : Option String) (style : Style) (s : String) : Option Value :=
  match tag with
  | none => some (if style = .plain then ofPlain s else text s)
  | some tag =>
    if isLocalTag tag then none
    else if tag = coreTag "bool" then (bool? s).map bool
    else if tag = coreTag "int" then (int? s.toList).map int
    else if tag = coreTag "float" then if isFloat s then some float else none
    else if tag = coreTag "null" then if isNull s then some null else none
    else some (text s)

end Value

end ClusterAudit.Yaml
