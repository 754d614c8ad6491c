import ClusterAudit.Document.Json.Decode
import ClusterAudit.Document.View

/-!
# Settings in JSON

Records may also be given as lists of their fields in order. Only integers without sign are numbers
that an expression may be written as.
-/

namespace ClusterAudit.Json

/-- How settings are looked at in JSON. -/
def view : View Option Json where
  fields? := fields?
  items? := items?
  entries?
    | record fields => some fields
    | _ => none
  name? := variant?
  written?
    | int n => Written.ofInt? n
    | text s => some (.text s)
    | _ => none

/-- An expression as JSON. -/
def ofWritten : Written → Json
  | .number n => int n.toNat
  | .text s => text s

end ClusterAudit.Json
