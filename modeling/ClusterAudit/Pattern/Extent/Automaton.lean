import ClusterAudit.Pattern.Extent.Sets
import ClusterAudit.Pattern.Extent.Trie

/-!
# Automata of patterns

`Tree.isSmall` says whether a pattern is small enough for use: its automaton, which remembers
captures, and the automaton that reads the text backwards, which does not, both keep within the
limit. Counted repetition writes the body out as often as it is counted.
-/

namespace ClusterAudit.Pattern

namespace Build

/-- A part that may be left out. -/
def optional (part : Build End) : Build End := do
  take 1 0
  let e ← part
  take 1 0
  link 2
  lead e
  pure .plain

/-- A part any number of times. A part that is known to take something leads back to the fork before
it; any other part is repeated at least once behind a fork that may leave it out. -/
def star (consumes : Bool) (part : Build End) : Build End := do
  if consumes then
    take 1 0
    let e ← part
    link 1
    lead e
    pure .fork
  else
    let e ← part
    take 3 0
    lead e
    link 4
    pure .plain

/-- A part at least `count + 1` times. -/
def atLeast (part : Build End) : Nat → Build End
  | 0 => do
    let e ← part
    take 1 0
    lead e
    link 1
    pure .fork
  | count + 1 => do
    let before ← copies part (count + 1)
    let e ← part
    take 1 0
    lead before
    lead e
    link 1
    pure .fork

/-- A part repeated. -/
def repetition (least : Nat) (most : Option Nat) (consumes : Bool) (part : Build End) : Build End :=
  match least, most with
  | 0, some 1 => optional part
  | 0, none => star consumes part
  | count + 1, none => atLeast part count
  | least, some most =>
    if most ≤ least then copies part least
    else do
      let e ← copies part least
      take 1 0
      lead (← optionals part e (most - least))
      pure .plain

/-- Branches behind a fork after its first one. -/
def branches : List (Build End) → Build Unit
  | [] => pure ()
  | branch :: rest => do
    let e ← branch
    link 1
    lead e
    branches rest

/-- Branches to choose from: a fork leads to each, and each to the end. -/
def choice : List (Build End) → Build End
  | [] => do
    take 1 0
    pure .plain
  | [branch] => branch
  | first :: second :: rest => do
    let e ← first
    let e' ← second
    take 2 0
    link 2
    lead e
    lead e'
    branches rest
    pure .plain

/-- A part between the states that remember where it begins and ends. -/
def capture (part : Build End) : Build End := do
  take 1 0
  let e ← part
  take 1 0
  lead e
  pure .plain

end Build

mutual

/-- The part of an automaton that recognises a pattern, forwards or backwards. -/
def Tree.build (backward : Bool) : Tree → Build End
  | .empty => Build.plain
  | .literal text => do
    Build.take (Tree.octetsOf text) 0
    pure .plain
  | .set s => Build.set backward s
  | .look _ => Build.plain
  | .repetition least most _ body =>
    Build.repetition least most body.consumes (Tree.build backward body)
  | .capture body =>
    if backward then Tree.build backward body else Build.capture (Tree.build backward body)
  | .concat parts =>
    let parts := Tree.buildEach backward parts
    Build.chain (if backward then parts.reverse else parts)
  | .choice branches =>
    match branches.mapM Tree.literal? with
    | some texts => Build.literals backward texts
    | none => Build.choice (Tree.buildEach backward branches)

/-- The parts for each of some patterns. -/
def Tree.buildEach (backward : Bool) : List Tree → List (Build End)
  | [] => []
  | t :: rest => Tree.build backward t :: Tree.buildEach backward rest

end

namespace Tree

/-- The whole automaton of a pattern. Unless a match can begin in one place only, it first passes
any number of octets. -/
def automaton (backward : Bool) (t : Tree) : Build Unit := do
  let anchored := if backward then t.endsText else t.startsText
  if anchored then Build.take 1 0 else Build.take 3 16
  let e ← (capture t).build backward
  Build.take 1 0
  Build.lead e

/-- Whether both automata of a pattern keep within the limit. -/
def isSmall (t : Tree) : Bool :=
  ((t.automaton false).run .zero).isSome && ((t.automaton true).run .zero).isSome

end Tree

end ClusterAudit.Pattern
