import ClusterAudit.Document.Yaml.Schema
import ClusterAudit.Document.View

/-!
# Settings in YAML

An absent value reads as an empty record, list or dictionary. Where a text is asked for, any scalar
is text. A name may be the text of a scalar, or a local tag in front of nothing.

Aliases of aliases can make a short document long. So there is a limit on how often aliases are
followed, in proportion to what is written (`Document.followLimit`).
-/

namespace ClusterAudit.Yaml

namespace Node

/-- Whether nothing is written. -/
def isAbsent : Node → Bool
  | scalar _ .plain "" => true
  | _ => false

/-- The name that a scalar gives. -/
def name? : Node → Option String
  | scalar (some tag) style s =>
    if Value.isLocalTag tag then
      if style = .plain && (s.isEmpty || Value.isNull s) then some (tag.drop 1).toString else none
    else some s
  | scalar none _ s => some s
  | _ => none

/-- The expression that a scalar gives. -/
def written? : Node → Option Written
  | scalar tag style s =>
    match Value.ofScalar? tag style s with
    | some (.int n) => Written.ofInt? n
    | some (.text s) => some (.text s)
    | _ => none
  | _ => none

mutual

/-- How many steps a node takes to write down, aliases not followed: one for a scalar or an alias,
and for a collection one for its start, one for its end and those of its parts. -/
def events : Node → Nat
  | .scalar .. => 1
  | .alias _ => 1
  | .sequence items => eventsOfItems items + 2
  | .mapping entries => eventsOfEntries entries + 2

/-- The steps of nodes in a row. -/
def eventsOfItems : List Node → Nat
  | [] => 0
  | item :: rest => item.events + eventsOfItems rest

/-- The steps of keys and values in a row. -/
def eventsOfEntries : List (Node × Node) → Nat
  | [] => 0
  | (key, value) :: rest => key.events + value.events + eventsOfEntries rest

end

end Node

/-- Looking at a document, with the number of times that an alias may still be followed. -/
abbrev Look := StateT Nat Option

namespace Document

/-- The node that a node stands for; an alias is followed if that is still allowed. -/
def follow (d : Document) (n : Node) : Look Node := fun left =>
  match n with
  | .alias _ => if left = 0 then none else some (d.target n, left - 1)
  | n => some (n, left)

/-- The text of a scalar. -/
def text? (d : Document) (n : Node) : Look String := do
  match ← d.follow n with
  | .scalar _ _ s => pure s
  | _ => none

/-- Entries with their keys read as texts. -/
def readKeys (d : Document) : List (Node × Node) → Look (List (String × Node))
  | [] => pure []
  | (key, value) :: rest => do pure ((← d.text? key, value) :: (← readKeys d rest))

/-- The entries of a mapping by text; an absent value has none. -/
def entries? (d : Document) (n : Node) : Look (List (String × Node)) := do
  match ← d.follow n with
  | .mapping entries => d.readKeys entries
  | n => if n.isAbsent then pure [] else none

/-- The items of a sequence; an absent value has none. -/
def items? (d : Document) (n : Node) : Look (List Node) := do
  match ← d.follow n with
  | .sequence items => pure items
  | n => if n.isAbsent then pure [] else none

/-- How settings are looked at in a YAML document. -/
def view (d : Document) : View Look Node where
  fields? names n := do
    let entries ← d.entries? n
    let count (name : String) := (entries.filter (·.1 = name)).length
    if names.all (count · ≤ 1) then pure fun name => findKey name entries else none
  items? := d.items?
  entries? := d.entries?
  name? n := do (← d.follow n).name?
  written? n := do (← d.follow n).written?

/-- How often aliases may be followed when a document is looked at. -/
def followLimit (d : Document) : Nat := 100 * d.root.events

/-- What a reader finds at the root. -/
def look {α : Type} (d : Document) (read : View Look Node → Node → Look α) : Option α :=
  (read d.view d.root).run' d.followLimit

end Document

end ClusterAudit.Yaml
