import ClusterAudit.Document.Json

/-!
# Writing JSON text

`Json.print` writes a document without blanks. Inside a string only the quote, the backslash and
control characters are escaped; everything else stands for itself.
-/

namespace ClusterAudit.Json

/-- The digits of a number below sixteen-to-the-fourth, padded to four. -/
def hex4 (n : Nat) : String :=
  let digits := Nat.toDigits 16 n
  String.ofList (List.replicate (4 - digits.length) '0' ++ digits)

/-- A character as it is written inside a string. -/
def escape (c : Char) : String :=
  if c = '"' then "\\\"" else if c = '\\' then "\\\\"
  else if c = '\n' then "\\n" else if c = '\r' then "\\r" else if c = '\t' then "\\t"
  else if c.toNat < 0x20 then "\\u" ++ hex4 c.toNat
  else c.toString

/-- A text as a string literal. -/
def quote (s : String) : String :=
  s.foldl (fun out c => out ++ escape c) "\"" ++ "\""

mutual

/-- The text of a document. -/
def print : Json → String
  | null => "null"
  | bool true => "true"
  | bool false => "false"
  | int n => toString n
  | decimal m e => toString m ++ "e" ++ toString e
  | text s => quote s
  | list items => "[" ++ printItems items ++ "]"
  | record fields => "\x7b" ++ printFields fields ++ "\x7d"
  | unreadable => "null"

/-- The items, separated by commas. -/
def printItems : List Json → String
  | [] => ""
  | [item] => print item
  | item :: rest => print item ++ "," ++ printItems rest

/-- The fields, separated by commas. -/
def printFields : List (String × Json) → String
  | [] => ""
  | [(name, value)] => quote name ++ ":" ++ print value
  | (name, value) :: rest => quote name ++ ":" ++ print value ++ "," ++ printFields rest

end

end ClusterAudit.Json
