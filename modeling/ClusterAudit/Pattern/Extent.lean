import Std.Data.HashMap

/-!
# The extent of automata

A pattern is good for use only if the automata that recognise it are small. An `Extent` counts what
an automaton takes while it is built: each state takes 32 octets, and so much more as its links
need. A `Build` ends without result when the extent passes the limit; as nothing is ever given back,
that is so exactly when the whole automaton is too large.

States are numbered as they come. A `Cache` finds states that can be used again. It has a fixed
number of slots, and a state that comes to a slot takes the place of the one before.
-/

namespace ClusterAudit.Pattern

/-- What an automaton takes. -/
structure Extent where
  states : Nat
  /-- The octets of the links that do not fit into their states. -/
  links : Nat

namespace Extent

/-- The automaton without states. -/
def zero : Extent := ⟨0, 0⟩

instance : Add Extent := ⟨fun a b => ⟨a.states + b.states, a.links + b.links⟩⟩

/-- All octets of an automaton. -/
def octets (e : Extent) : Nat := 32 * e.states + e.links

/-- The greatest extent of an automaton, ten mebibytes. -/
def limit : Nat := 10 <<< 20

end Extent

/-- A step that builds a part of an automaton. -/
abbrev Build := StateT Extent Option

/-- How a part of an automaton ends: in a state that leads to one other, or in a fork, which leads
to any number. -/
inductive End where
  | plain
  | fork

namespace Build

/-- Takes more states and links. -/
def take (states links : Nat) : Build Unit := fun e =>
  let e : Extent := ⟨e.states + states, e.links + links⟩
  if e.octets ≤ Extent.limit then some ((), e) else none

/-- One more state, with as many octets of links; its number. -/
def state (links : Nat) : Build Nat := do
  let e ← get
  take 1 links
  pure e.states

/-- One more state without links of its own. -/
def plain : Build End := do
  take 1 0
  pure .plain

/-- Links a fork to as many states. -/
def link (count : Nat) : Build Unit := take 0 (4 * count)

/-- Leads the end of a part to another state. -/
def lead : End → Build Unit
  | .plain => pure ()
  | .fork => link 1

/-- Parts in a row after a part with the given end. -/
def chainAfter (e : End) : List (Build End) → Build End
  | [] => pure e
  | part :: rest => do
    let next ← part
    lead e
    chainAfter next rest

/-- Parts in a row. -/
def chain : List (Build End) → Build End
  | [] => plain
  | part :: rest => do chainAfter (← part) rest

/-- As many copies of a part after one with the given end. -/
def copiesAfter (part : Build End) (e : End) : Nat → Build End
  | 0 => pure e
  | count + 1 => do
    let next ← part
    lead e
    copiesAfter part next count

/-- As many copies of a part in a row. -/
def copies (part : Build End) : Nat → Build End
  | 0 => plain
  | count + 1 => do copiesAfter part (← part) count

/-- As many parts in a row, each behind a fork that also leads to the end of all. -/
def optionals (part : Build End) (e : End) : Nat → Build End
  | 0 => pure e
  | count + 1 => do
    take 1 0
    let next ← part
    lead e
    link 2
    optionals part next count

end Build

/-! ## Caches -/

/-- States by what they are used for: each slot holds a use and the number of a state. -/
abbrev Cache (κ : Type) := Std.HashMap Nat (κ × Nat)

namespace Cache

/-- The hash of nothing. -/
def noHash : UInt64 := 14695981039346656037

/-- A hash mixed with one more number. -/
def mix (hash n : UInt64) : UInt64 := (hash ^^^ n) * 1099511628211

/-- The state for a use with a hash: the cached one, or a new one, which is cached. -/
def find {κ : Type} [DecidableEq κ] (slots : UInt64) (hash : UInt64) (use : κ) (new : Build Nat) :
    StateT (Cache κ) Build Nat := do
  let slot := (hash % slots).toNat
  match ((← get).get? slot).filter (·.1 = use) with
  | some (_, number) => pure number
  | none =>
    let number ← new
    modify (·.insert slot (use, number))
    pure number

end Cache

end ClusterAudit.Pattern
