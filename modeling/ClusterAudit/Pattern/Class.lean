import ClusterAudit.Pattern.Property.Name

/-!
# The members of a class

A class as written denotes a set of characters. Where case is ignored, a class is folded before it
is negated. Without Unicode a class must not reach beyond ASCII.
-/

namespace ClusterAudit.Pattern

/-- What class membership depends on. -/
structure ClassMode where
  caseless : Bool
  unicode : Bool

namespace ClassMode

/-- The set folded if case is ignored; outside Unicode only ASCII letters have variants. -/
def fold (m : ClassMode) (s : CharSet) : CharSet :=
  if !m.caseless then s
  else if m.unicode then s.folded
  else s.union (.ascii fun c => s.contains c.toLower || s.contains c.toUpper)

/-- The set, unless it reaches beyond ASCII in a mode that has no characters there. -/
def check (m : ClassMode) (s : CharSet) : Option CharSet :=
  if m.unicode || s.isAscii then some s else none

/-- The set of one character, folded if case is ignored. -/
def ofChar (m : ClassMode) (c : Char) : CharSet :=
  let s := CharSet.range c c
  if m.caseless && m.unicode then s.union (.ofCodes (Text.variants c.toNat)) else m.fold s

end ClassMode

mutual

/-- The members of a class, if its properties exist. -/
def ClassSyntax.members? (m : ClassMode) : ClassSyntax → Option CharSet
  | .char c => m.check (.range c c)
  | .range first last => m.check (.range first last)
  | .ascii negated name => m.check (.negatedIf negated (m.fold (asciiClass name)))
  | .short negated kind => m.check (.negatedIf negated (shortClass m.unicode kind))
  | .property negated name value =>
    if !m.unicode then none
    else (propertySet? name value).map fun s => .negatedIf negated (m.fold s)
  | .bracket negated body => do
    m.check (.negatedIf negated (m.fold (← ClassSyntax.members? m body)))
  | .union items => do some (.unions (← ClassSyntax.membersOfEach? m items))
  | .op kind left right => do
    let left := m.fold (← ClassSyntax.members? m left)
    let right := m.fold (← ClassSyntax.members? m right)
    some (match kind with
      | .intersection => left.inter right
      | .difference => left.diff right
      | .symmetricDifference => left.symmDiff right)

/-- The members of each of some classes. -/
def ClassSyntax.membersOfEach? (m : ClassMode) : List ClassSyntax → Option (List CharSet)
  | [] => some []
  | item :: rest => do
    some ((← ClassSyntax.members? m item) :: (← ClassSyntax.membersOfEach? m rest))

end

end ClusterAudit.Pattern
