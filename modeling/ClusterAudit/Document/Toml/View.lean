import ClusterAudit.Document.Toml
import ClusterAudit.Document.View

/-!
# Settings in TOML

Records may also be given as arrays that begin with their fields in order. A date or time looks like
a record without known fields. A name may stand alone, or as the only key of a table with nothing
under it.
-/

namespace ClusterAudit.Toml

/-- The value at the place of a name. -/
def findPlace (name : String) : List String → List Toml → Option Toml
  | n :: names, v :: values => if n = name then some v else findPlace name names values
  | _, _ => none

/-- Whether a table or array has nothing in it. -/
def isHollow : Toml → Bool
  | list items => items.isEmpty
  | tables items => items.isEmpty
  | table _ entries => entries.isEmpty
  | _ => false

/-- The items of an array of either kind. -/
def items? : Toml → Option (List Toml)
  | list items => some items
  | tables items => some items
  | _ => none

/-- How settings are looked at in TOML. -/
def view : View Option Toml where
  fields? names
    | table _ entries => some fun name => find name entries
    | list items => some fun name => findPlace name names items
    | tables items => some fun name => findPlace name names items
    | moment => some fun _ => none
    | _ => none
  items? := items?
  entries?
    | table _ entries => some entries
    | _ => none
  name?
    | text s => some s
    | table _ [(s, v)] => if v.isHollow then some s else none
    | _ => none
  written?
    | int n => Written.ofInt? n
    | text s => some (.text s)
    | _ => none

end ClusterAudit.Toml
