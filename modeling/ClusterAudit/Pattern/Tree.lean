import ClusterAudit.Pattern.CharSet

/-!
# Patterns with their meaning fixed

A `Tree` is a pattern whose flags have been applied. Trees are made by functions that bring them
into a normal form (`Tree.ofSet`, `Tree.repeated`, `Tree.ofParts`, `Tree.ofBranches`): neighbouring
literals are one literal, a choice of characters is a set, and branches that begin alike share their
beginning.

The lengths of a tree (`Tree.least?`, `Tree.most?`) bound the octets of what it matches.
-/

namespace ClusterAudit.Pattern

/-- Where a position stands among words. -/
inductive WordEdge where
  | either
  | neither
  | start
  | stop
  | startHalf
  | stopHalf
  deriving DecidableEq

/-- A condition on a position. -/
inductive Look where
  | textStart
  | textEnd
  | lineStart (crlf : Bool)
  | lineEnd (crlf : Bool)
  | word (unicode : Bool) (edge : WordEdge)
  deriving DecidableEq

/-- A pattern in normal form. -/
inductive Tree where
  | empty
  /-- Characters in a row. -/
  | literal (text : List Char)
  | set (s : CharSet)
  | look (l : Look)
  /-- At least `least` and at most `most` times the body; without `most`, any number of times. -/
  | repetition (least : Nat) (most : Option Nat) (greedy : Bool) (body : Tree)
  /-- The body, with its place remembered. -/
  | capture (body : Tree)
  | concat (parts : List Tree)
  | choice (branches : List Tree)

namespace Tree

instance : Inhabited Tree := ⟨empty⟩

/-- The pattern that matches nothing. -/
def fail : Tree := set .empty

/-! ## Lengths -/

/-- How many octets some characters are encoded in. -/
def octetsOf (text : List Char) : Nat := text.foldl (fun n c => n + c.utf8Size) 0

mutual

/-- The least number of octets of a match; none if a part of the pattern never matches. -/
def least? : Tree → Option Nat
  | empty | look _ => some 0
  | literal text => some (octetsOf text)
  | set s => s.intervals.head?.map fun i => (Char.ofNat i.first).utf8Size
  | repetition least _ _ body => body.least?.map (least * ·)
  | capture body => body.least?
  | concat parts => leastOfParts? parts
  | choice branches => leastOfBranches? branches

/-- The least length of parts in a row. -/
def leastOfParts? : List Tree → Option Nat
  | [] => some 0
  | part :: rest => do some ((← part.least?) + (← leastOfParts? rest))

/-- The least length of one of the branches. -/
def leastOfBranches? : List Tree → Option Nat
  | [] => none
  | [branch] => branch.least?
  | branch :: rest => do some (min (← branch.least?) (← leastOfBranches? rest))

end

mutual

/-- The greatest number of octets of a match; none if there is no bound or a part never matches. -/
def most? : Tree → Option Nat
  | empty | look _ => some 0
  | literal text => some (octetsOf text)
  | set s => s.intervals.getLast?.map fun i => (Char.ofNat i.last).utf8Size
  | repetition _ most _ body => do some ((← most) * (← body.most?))
  | capture body => body.most?
  | concat parts => mostOfParts? parts
  | choice branches => mostOfBranches? branches

/-- The greatest length of parts in a row. -/
def mostOfParts? : List Tree → Option Nat
  | [] => some 0
  | part :: rest => do some ((← part.most?) + (← mostOfParts? rest))

/-- The greatest length of one of the branches. -/
def mostOfBranches? : List Tree → Option Nat
  | [] => none
  | [branch] => branch.most?
  | branch :: rest => do some (max (← branch.most?) (← mostOfBranches? rest))

end

/-- Whether every match is known to take an octet. -/
def consumes (t : Tree) : Bool := (t.least?.map (decide <| 0 < ·)).getD false

/-- Whether no match takes an octet. -/
def isSilent (t : Tree) : Bool := t.most? = some 0

mutual

/-- Whether a match can begin at the start of the text only. -/
def startsText : Tree → Bool
  | look l => l = .textStart
  | repetition least _ _ body => 0 < least && body.startsText
  | capture body => body.startsText
  | concat parts => startsTextParts parts
  | choice branches => startsTextBranches branches
  | _ => false

/-- Whether one of the parts before the first that may take something begins at the start only. -/
def startsTextParts : List Tree → Bool
  | [] => false
  | part :: rest => part.startsText || (part.isSilent && startsTextParts rest)

/-- Whether each branch begins at the start only. -/
def startsTextBranches : List Tree → Bool
  | [] => true
  | branch :: rest => branch.startsText && startsTextBranches rest

end

mutual

/-- Whether a match can end at the end of the text only. -/
def endsText : Tree → Bool
  | look l => l = .textEnd
  | repetition least _ _ body => 0 < least && body.endsText
  | capture body => body.endsText
  | concat parts => endsTextParts parts
  | choice branches => endsTextBranches branches
  | _ => false

/-- Whether one of the parts after the last that may take something ends at the end only. -/
def endsTextParts : List Tree → Bool
  | [] => false
  | part :: rest => endsTextParts rest || (rest.all isSilent && part.endsText)

/-- Whether each branch ends at the end only. -/
def endsTextBranches : List Tree → Bool
  | [] => true
  | branch :: rest => branch.endsText && endsTextBranches rest

end

/-! ## Sameness -/

mutual

/-- Whether two patterns are the same; a capture is the same as no other one. -/
def same : Tree → Tree → Bool
  | empty, empty => true
  | literal a, literal b => a = b
  | set a, set b => a = b
  | look a, look b => a = b
  | repetition least most greedy a, repetition least' most' greedy' b =>
    least = least' && most = most' && greedy = greedy' && same a b
  | concat as, concat bs => sameParts as bs
  | choice as, choice bs => sameParts as bs
  | _, _ => false

/-- Whether two lists of patterns are the same. -/
def sameParts : List Tree → List Tree → Bool
  | [], [] => true
  | a :: as, b :: bs => same a b && sameParts as bs
  | _, _ => false

end

mutual

/-- How many nodes a tree has. -/
def nodes : Tree → Nat
  | repetition _ _ _ body => body.nodes + 1
  | capture body => body.nodes + 1
  | concat parts => nodesOfEach parts + 1
  | choice branches => nodesOfEach branches + 1
  | _ => 1

/-- How many nodes some trees have. -/
def nodesOfEach : List Tree → Nat
  | [] => 0
  | t :: rest => t.nodes + nodesOfEach rest

end

/-! ## Making trees -/

/-- The pattern of one character from a set. -/
def ofSet (s : CharSet) : Tree :=
  match s.only? with
  | some c => literal [c]
  | none => set s

/-- The body repeated. What takes nothing is repeated once at most, as more would add nothing. -/
def repeated (least : Nat) (most : Option Nat) (greedy : Bool) (body : Tree) : Tree :=
  let (least, most) :=
    if body.isSilent then (min least 1, some (min (most.getD 1) 1)) else (least, most)
  if most = some 0 then empty
  else if least = 1 && most = some 1 then body
  else repetition least most greedy body

/-- The parts of a pattern that stand in a row. -/
def parts : Tree → List Tree
  | empty => []
  | concat parts => parts
  | t => [t]

/-- Patterns in a row with neighbouring literals made one. -/
def joinLiterals : List Tree → List Tree
  | [] => []
  | t :: rest =>
    match t, joinLiterals rest with
    | literal a, literal b :: more => literal (a ++ b) :: more
    | t, more => t :: more

/-- The pattern of patterns in a row. -/
def ofParts (l : List Tree) : Tree :=
  match joinLiterals (l.flatMap parts) with
  | [] => empty
  | [t] => t
  | parts => concat parts

/-- The branches of a pattern. -/
def branches : Tree → List Tree
  | choice branches => branches
  | t => [t]

/-- The only character of a pattern that is one. -/
def char? : Tree → Option Char
  | literal [c] => some c
  | _ => none

/-- The set of a pattern that is one. -/
def set? : Tree → Option CharSet
  | set s => some s
  | _ => none

/-- The parts of a pattern with several of them. -/
def parts? : Tree → Option (List Tree)
  | concat parts => some parts
  | _ => none

/-- What two lists of patterns begin with alike. -/
def sharedStart : List Tree → List Tree → List Tree
  | a :: as, b :: bs => if same a b then a :: sharedStart as bs else []
  | _, _ => []

/-- The parts that all branches begin with, and the parts of each branch after them. -/
def splitStart (branches : List Tree) : Option (List Tree × List (List Tree)) :=
  match branches.mapM parts? with
  | some (first :: rest) =>
    let start := rest.foldl sharedStart first
    if start.isEmpty then none else some (start, (first :: rest).map (·.drop start.length))
  | _ => none

/-- The pattern of some branches, in at most `fuel` steps that take out a common beginning. -/
def ofBranchesWithin (fuel : Nat) (l : List Tree) : Tree :=
  match l.flatMap branches with
  | [] => fail
  | [t] => t
  | branches =>
    match branches.mapM char?, branches.mapM set?, fuel, splitStart branches with
    | some chars, _, _, _ => ofSet (.ofCodes (chars.map Char.toNat))
    | none, some sets, _, _ => ofSet (.unions sets)
    | none, none, fuel + 1, some (start, ends) =>
      ofParts (start ++ [ofBranchesWithin fuel (ends.map ofParts)])
    | _, _, _, _ => choice branches

/-- The pattern of some branches to choose from. A step that takes out a common beginning takes out
a node, so there are no more steps than nodes. -/
def ofBranches (l : List Tree) : Tree := ofBranchesWithin (nodesOfEach l) l

end Tree

end ClusterAudit.Pattern
