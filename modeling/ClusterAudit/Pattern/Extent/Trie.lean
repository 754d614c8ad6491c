import ClusterAudit.Pattern.Extent
import ClusterAudit.Pattern.Tree

/-!
# The extent of choices between literals

Literals to choose from are recognised by their trie, octet by octet. The order of the literals
counts: a literal that ends at a node parts the literals before it from those after it. So the links
of a node come in chunks, and a literal ends between each chunk and the next.
-/

namespace ClusterAudit.Pattern

/-- A trie of octets. -/
inductive Trie where
  /-- A node with its links: the chunks that are closed, the last one first, and the open one. -/
  | node (closed : List (List (UInt8 × Trie))) (links : List (UInt8 × Trie))

namespace Trie

/-- The trie without literals. -/
def empty : Trie := node [] []

instance : Inhabited Trie := ⟨empty⟩

/-- The trie in which a literal ends at the root. -/
def close : Trie → Trie
  | node closed links =>
    if links.isEmpty && !closed.isEmpty && closed.all List.isEmpty then node closed links
    else node (links :: closed) []

/-- The open links with the one of an octet changed, or made from the empty trie. -/
def update (octet : UInt8) (change : Trie → Trie) : List (UInt8 × Trie) → List (UInt8 × Trie)
  | [] => [(octet, change empty)]
  | (o, t) :: rest =>
    if o = octet then (o, change t) :: rest else (o, t) :: update octet change rest

/-- The trie with one more literal. -/
def insert : List UInt8 → Trie → Trie
  | [], t => t.close
  | octet :: rest, node closed links => node closed (update octet (insert rest) links)

/-- How many states and links the chunks of a node take, what lies below them apart: a state for
each chunk with links, and for the links of a chunk with several. -/
def chunkExtent (links : List (UInt8 × Trie)) : Extent :=
  match links with
  | [] => .zero
  | [_] => ⟨1, 0⟩
  | links => ⟨1, 8 * links.length⟩

/-- How many links a fork has to the chunks of a node and, between them, to the end of all. -/
def forkLinks (closed : List (List (UInt8 × Trie))) (links : List (UInt8 × Trie)) : Nat :=
  closed.length + ((links :: closed).filter (!·.isEmpty)).length

mutual

/-- What a trie takes from a node on; leaves take nothing, as the end of all stands for them. -/
def extent : Trie → Extent
  | node closed links =>
    if links.isEmpty && closed.all List.isEmpty then .zero
    else ⟨1, 4 * forkLinks closed links⟩ + extentOfChunks closed + extentOfLinks links
      + chunkExtent links

/-- What closed chunks take. -/
def extentOfChunks : List (List (UInt8 × Trie)) → Extent
  | [] => .zero
  | links :: rest => chunkExtent links + extentOfLinks links + extentOfChunks rest

/-- What lies below the links of a chunk. -/
def extentOfLinks : List (UInt8 × Trie) → Extent
  | [] => .zero
  | (_, t) :: rest => t.extent + extentOfLinks rest

end

/-- The trie of some literals, forwards or backwards. -/
def ofLiterals (backward : Bool) (literals : List (List Char)) : Trie :=
  literals.foldl (fun t literal =>
    let octets := literal.flatMap String.utf8EncodeChar
    t.insert (if backward then octets.reverse else octets)) empty

end Trie

/-- The literal that a pattern is. -/
def Tree.literal? : Tree → Option (List Char)
  | .literal text => some text
  | _ => none

namespace Build

/-- A choice between literals. -/
def literals (backward : Bool) (l : List (List Char)) : Build End := do
  let e := (Trie.ofLiterals backward l).extent
  take (e.states + 1) e.links
  pure .plain

end Build

end ClusterAudit.Pattern
