import ClusterAudit.Document.Json
import ClusterAudit.Selector

/-!
# Reading values from JSON documents

A record is read from named fields, or from a list that gives the fields in their order. Names that
are not known are passed over; a known name must not stand twice. A dictionary may repeat a key, and
the last value counts.
-/

namespace ClusterAudit.Json

/-- The value of the first field with a name. -/
def lookup (name : String) : List (String × Json) → Option Json
  | [] => none
  | (n, v) :: rest => if n = name then some v else lookup name rest

/-- The value that stands at the place of a name. -/
def lookupPlace (name : String) : List String → List Json → Option Json
  | n :: names, v :: values => if n = name then some v else lookupPlace name names values
  | _, _ => none

/-- How often a name stands among the fields. -/
def occurrences (name : String) (fields : List (String × Json)) : Nat :=
  (fields.filter fun f => f.1 == name).length

/-- The fields of a record that has the given names, by name. -/
def fields? (names : List String) : Json → Option (String → Option Json)
  | record fields =>
    if names.all fun n => occurrences n fields ≤ 1 then some fun n => lookup n fields else none
  | list items =>
    if items.length ≤ names.length then some fun n => lookupPlace n names items else none
  | _ => none

/-- A field that may be left out. -/
def orElse {α : Type} (absent : α) (decode : Json → Option α) : Option Json → Option α
  | none => some absent
  | some v => decode v

/-- A field that may be left out or null. -/
def optional {α : Type} (decode : Json → Option α) : Option Json → Option (Option α)
  | none => some none
  | some null => some none
  | some v => (decode v).map some

/-- Each item decoded. -/
def decodeItems {α : Type} (decode : Json → Option α) : List Json → Option (List α)
  | [] => some []
  | v :: rest => do some ((← decode v) :: (← decodeItems decode rest))

/-- A list whose items are decoded. -/
def listOf {α : Type} (decode : Json → Option α) : Json → Option (List α)
  | list items => decodeItems decode items
  | _ => none

/-- Each value decoded, with its name. -/
def decodeFields {α : Type} (decode : Json → Option α) :
    List (String × Json) → Option (List (String × α))
  | [] => some []
  | (n, v) :: rest => do some ((n, ← decode v) :: (← decodeFields decode rest))

/-- A dictionary whose values are decoded. -/
def dictOf {α : Type} (decode : Json → Option α) : Json → Option (Dict String α)
  | record fields => (decodeFields decode fields).map Dict.ofList
  | _ => none

/-- A dictionary of texts. -/
def labels? : Json → Option Labels := dictOf text?

/-- A name that stands for a value without content, alone or as the only name of a record. -/
def variant? : Json → Option String
  | text s => some s
  | record [(s, null)] => some s
  | _ => none

/-- An unsigned integer of 32 bits. -/
def uint32? (j : Json) : Option UInt32 := (j.nat? UInt32.size).map UInt32.ofNat

/-! ## Writing -/

/-- The items encoded. -/
def ofList {α : Type} (encode : α → Json) (l : List α) : Json := list (l.map encode)

/-- The entries of a dictionary encoded under their keys. -/
def ofDict {α : Type} (encode : α → Json) (d : Dict String α) : Json :=
  record (d.entries.map fun e => (e.1, encode e.2))

/-- The value encoded, or null. -/
def ofOption {α : Type} (encode : α → Json) : Option α → Json
  | none => null
  | some a => encode a

/-- A natural number. -/
def ofNat (n : Nat) : Json := int n

/-- A dictionary of texts. -/
def ofLabels : Labels → Json := ofDict text

end ClusterAudit.Json
