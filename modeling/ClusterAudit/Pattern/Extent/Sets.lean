import ClusterAudit.Pattern.Extent
import ClusterAudit.Pattern.Octets

/-!
# The extent of sets of characters

A set of ASCII characters takes two states. Any other set is recognised octet by octet. Forwards,
its rows form a tree: rows that begin alike share their beginnings, and equal nodes are used again
where the cache still has them. Backwards, each row is a chain of its own that shares its end with
others, as far as the cache knows it.
-/

namespace ClusterAudit.Pattern

/-- The links of a node of the tree: ranges of octets, each with the state after it. -/
abbrev Node := List (OctetRange × Nat)

namespace Build

/-- How many nodes of a tree of rows are cached. -/
def nodeSlots : UInt64 := 10000

/-- How many links of chains are cached. -/
def chainSlots : UInt64 := 1000

/-- A hash mixed with a range of octets. -/
def mixRange (hash : UInt64) (r : OctetRange) : UInt64 :=
  Cache.mix (Cache.mix hash r.first.toUInt64) r.last.toUInt64

/-- The hash of a node. -/
def hashOf (links : Node) : UInt64 :=
  links.foldl (fun h l => Cache.mix (mixRange h l.1) (UInt64.ofNat l.2)) Cache.noHash

/-- The state of a node. -/
def node (links : Node) : StateT (Cache Node) Build Nat :=
  Cache.find nodeSlots (hashOf links) links (state (8 * links.length))

/-- Rows by their first ranges, each first range with what follows it in its rows. -/
def byFirst : List (List OctetRange) → List (OctetRange × List (List OctetRange))
  | [] => []
  | [] :: rest => byFirst rest
  | (r :: row) :: rest =>
    match byFirst rest with
    | (s, rows) :: more =>
      if r = s then (r, row :: rows) :: more else (r, [row]) :: (s, rows) :: more
    | [] => [(r, [row])]

/-- The tree of rows of at most `length` ranges, of which all lead to the target. -/
def rowTree (target : Nat) : Nat → List (List OctetRange) → StateT (Cache Node) Build Nat
  | 0, _ => pure target
  | length + 1, rows => do
    let links ← (byFirst rows).mapM fun (r, rest) => do
      let next ← if rest.all List.isEmpty then pure target else rowTree target length rest
      pure (r, next)
    node links

/-- A set recognised forwards. -/
def rowsForward (s : CharSet) : Build End := do
  let target ← state 0
  let _ ← (rowTree target 4 s.rows).run' ∅
  pure .plain

/-- The state from which the octets of a row lead to a state, the last octet first. -/
def rowChain (next : Nat) : List OctetRange → StateT (Cache (Nat × OctetRange)) Build Nat
  | [] => pure next
  | r :: rest => do
    let hash := mixRange (Cache.mix Cache.noHash (UInt64.ofNat next)) r
    let first ← Cache.find chainSlots hash (next, r) (state 0)
    rowChain first rest

/-- The chains of rows that lead to a state, each behind a link of the fork before them. -/
def rowChains (next : Nat) : List (List OctetRange) → StateT (Cache (Nat × OctetRange)) Build Unit
  | [] => pure ()
  | row :: rest => do
    let _ ← rowChain next row
    link 1
    rowChains next rest

/-- A set recognised backwards. -/
def rowsBackward (s : CharSet) : Build End := do
  take 1 0
  let next ← state 0
  (rowChains next s.rows).run' ∅
  pure .plain

/-- A set recognised forwards or backwards. -/
def set (backward : Bool) (s : CharSet) : Build End := do
  if s.isAscii then
    take 2 (8 * s.intervals.length)
    pure .plain
  else if backward then rowsBackward s
  else rowsForward s

end Build

end ClusterAudit.Pattern
