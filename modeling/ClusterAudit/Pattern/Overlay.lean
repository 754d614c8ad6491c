import ClusterAudit.Pattern.Property
import ClusterAudit.Pattern.Tree
import Std.Data.HashMap

/-!
# Patterns laid over a text

Matching works on sets of positions, kept as the bits of a number: bit `i` stands for the position
before the character `i`, and one more bit for the end of the text. A `Terrain` tells where in a
text each character stands. An `Overlay` is a pattern that knows of each of its sets and conditions
where in a text it holds; `Overlay.advance` takes the positions where a match may begin to the
positions where it may end. Repetition is a search that stops when no new position turns up, so no
pattern makes matching explode.
-/

namespace ClusterAudit.Pattern

/-- What is in the first set of positions and not in the second. -/
def minus (a b : Nat) : Nat := a ^^^ (a &&& b)

/-- A text, as the positions of each of its characters. -/
structure Terrain where
  size : Nat
  places : @Std.HashMap Char Nat _ instHashableChar

namespace Terrain

/-- The terrain of characters from a position on, added to what is known. -/
def extend (t : Terrain) : List Char → Terrain
  | [] => t
  | c :: rest =>
    extend ⟨t.size + 1, t.places.alter c fun known => some (known.getD 0 ||| 1 <<< t.size)⟩ rest

/-- The terrain of a text. -/
def ofText (s : String) : Terrain := extend ⟨0, ∅⟩ s.toList

/-- All positions, the end of the text included. -/
def all (t : Terrain) : Nat := 1 <<< (t.size + 1) - 1

/-- The position at the end. -/
def stop (t : Terrain) : Nat := 1 <<< t.size

/-- The positions before a character. -/
def ofChar (t : Terrain) (c : Char) : Nat := t.places.getD c 0

/-- The positions before the members of a set. -/
def ofSet (t : Terrain) (s : CharSet) : Nat :=
  t.places.fold (fun found c places => if s.contains c then found ||| places else found) 0

end Terrain

/-- The positions between characters of which is known before and after which of them word
characters stand. -/
def WordEdge.places (e : WordEdge) (all before after : Nat) : Nat :=
  match e with
  | either => before ^^^ after
  | neither => minus all (before ^^^ after)
  | start => minus after before
  | stop => minus before after
  | startHalf => minus all before
  | stopHalf => minus all after

/-- The positions where a condition holds. The two characters of a line end are not parted. -/
def Look.places (t : Terrain) : Look → Nat
  | textStart => 1
  | textEnd => t.stop
  | lineStart crlf =>
    1 ||| t.ofChar '\n' <<< 1 ||| (if crlf then minus (t.ofChar '\r' <<< 1) (t.ofChar '\n') else 0)
  | lineEnd crlf =>
    t.stop ||| if crlf then t.ofChar '\r' ||| minus (t.ofChar '\n') (t.ofChar '\r' <<< 1)
      else t.ofChar '\n'
  | word unicode edge =>
    let words := t.ofSet (shortClass unicode .word)
    edge.places t.all (words <<< 1) words

/-! ## Overlays -/

/-- A pattern with the positions where its sets and conditions hold. -/
inductive Overlay where
  /-- Every position leads to itself. -/
  | stay
  /-- The positions of the set lead to themselves. -/
  | keep (places : Nat)
  /-- The positions of the set lead to the next ones. -/
  | step (places : Nat)
  | both (first second : Overlay)
  | either (left right : Overlay)
  | loop (least : Nat) (most : Option Nat) (body : Overlay)

mutual

/-- The pattern laid over a text. -/
def Tree.over (t : Terrain) : Tree → Overlay
  | .empty => .stay
  | .literal text => text.foldr (fun c rest => .both (.step (t.ofChar c)) rest) .stay
  | .set s => .step (t.ofSet s)
  | .look l => .keep (l.places t)
  | .repetition least most _ body => .loop least most (Tree.over t body)
  | .capture body => Tree.over t body
  | .concat parts => Tree.partsOver t parts
  | .choice branches => Tree.branchesOver t branches

/-- Patterns in a row laid over a text. -/
def Tree.partsOver (t : Terrain) : List Tree → Overlay
  | [] => .stay
  | part :: rest => .both (Tree.over t part) (Tree.partsOver t rest)

/-- Branches to choose from laid over a text; without branches no position leads anywhere. -/
def Tree.branchesOver (t : Terrain) : List Tree → Overlay
  | [] => .keep 0
  | branch :: rest => .either (Tree.over t branch) (Tree.branchesOver t rest)

end

namespace Overlay

/-- The set reached by `count` steps; steps that change nothing end it early. -/
def steps (step : Nat → Nat) : Nat → Nat → Nat
  | 0, s => s
  | count + 1, s =>
    let next := step s
    if next = s then s else steps step count next

/-- The set reached by up to `count` steps; `front` holds the positions reached last. -/
def spread (step : Nat → Nat) : Nat → Nat → Nat → Nat
  | 0, seen, _ => seen
  | count + 1, seen, front =>
    let fresh := minus (step front) seen
    if fresh = 0 then seen else spread step count (seen ||| fresh) fresh

/-- The positions where a pattern may stop that starts from a position of the set. A repetition need
not be followed further than there are positions. -/
def advance (positions : Nat) : Overlay → Nat → Nat
  | stay, s => s
  | keep places, s => s &&& places
  | step places, s => (s &&& places) <<< 1
  | both first second, s => second.advance positions (first.advance positions s)
  | either left right, s => left.advance positions s ||| right.advance positions s
  | loop least most body, s =>
    let start := steps (body.advance positions) (min least positions) s
    let more := (most.map fun most => min (most - least) positions).getD positions
    spread (body.advance positions) more start start

end Overlay

namespace Tree

/-- Whether the pattern matches some part of a text. -/
def isMatch (tree : Tree) (text : String) : Bool :=
  let t := Terrain.ofText text
  (tree.over t).advance (t.size + 1) t.all != 0

end Tree

end ClusterAudit.Pattern
