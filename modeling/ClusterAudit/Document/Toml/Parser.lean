import ClusterAudit.Document.Toml.Scalar

/-!
# Reading TOML documents

`Toml.parse` reads a document line by line: a header opens a table, and the lines after it add
values to that table. Arrays and tables in braces nest fewer than eighty deep, and keys have fewer
than eighty names.
-/

namespace ClusterAudit.Toml

/-- One more than the greatest nesting of values and the greatest number of names in a key. -/
def nestingLimit : Nat := 80

/-! ## Keys -/

/-- Whether a character may stand in a key without quotes. -/
def isBareChar (c : Char) : Bool := c.isAlphanum || c = '-' || c = '_'

/-- One name of a key. -/
def readName : Read String := fun s =>
  match s with
  | '"' :: _ | '\'' :: _ => readQuoted s
  | _ =>
    let name := s.takeWhile isBareChar
    if name.isEmpty then none else some (String.ofList name, s.drop name.length)

/-- The names of a key with points between them; blanks may surround each. -/
def readNames : Nat → Read (List String)
  | 0, _ => none
  | fuel + 1, s => do
    let (name, s) ← readName (s.dropWhile isBlank)
    match s.dropWhile isBlank with
    | '.' :: rest =>
      let (names, rest) ← readNames fuel rest
      some (name :: names, rest)
    | rest => some ([name], rest)

/-- A key. -/
def readKey : Read (List String) := readNames (nestingLimit - 1)

/-! ## Values -/

/-- The rest after a comment; line ends are left. -/
def skipComment : List Char → List Char
  | '#' :: rest => rest.dropWhile isPrintable
  | s => s

/-- The rest after blanks, comments and line ends. -/
def skipBlankLines : Nat → List Char → List Char
  | 0, s => s
  | fuel + 1, s =>
    let s := s.dropWhile isBlank
    match s with
    | '#' :: _ => match newline? (skipComment s) with
      | some rest => skipBlankLines fuel rest
      | none => s
    | _ => match newline? s with
      | some rest => skipBlankLines fuel rest
      | none => s

/-- The rest after what may stand between the items of an array. -/
def skipGap (s : List Char) : List Char := skipBlankLines (s.length + 1) s

mutual

/-- A value; `depth` more brackets and braces may be opened. -/
def readValue (depth : Nat) : Nat → Read Toml
  | 0, _ => none
  | fuel + 1, s => match s with
    | '"' :: _ | '\'' :: _ => (readString s).map fun (t, rest) => (.text t, rest)
    | '[' :: rest =>
      if depth = 0 then none
      else (readItems (depth - 1) fuel (skipGap rest)).map fun (items, rest) => (.list items, rest)
    | '\x7b' :: rest =>
      if depth = 0 then none
      else match rest.dropWhile isBlank with
        | '\x7d' :: rest => some (.table .inline [], rest)
        | _ => (readPairs (depth - 1) [] fuel rest).map fun (entries, rest) =>
          (.table .inline entries, rest)
    | 't' :: 'r' :: 'u' :: 'e' :: rest => some (.bool true, rest)
    | 'f' :: 'a' :: 'l' :: 's' :: 'e' :: rest => some (.bool false, rest)
    | _ => readNumber s

/-- The items of an array and its closing bracket; a comma may follow the last one. -/
def readItems (depth : Nat) : Nat → Read (List Toml)
  | 0, _ => none
  | _ + 1, ']' :: rest => some ([], rest)
  | fuel + 1, s => do
    let (item, s) ← readValue depth fuel s
    match skipGap s with
    | ',' :: rest =>
      let (items, rest) ← readItems depth fuel (skipGap rest)
      some (item :: items, rest)
    | ']' :: rest => some ([item], rest)
    | _ => none

/-- The entries of a table in braces, added to those before them, and its closing brace. -/
def readPairs (depth : Nat) (entries : Entries) : Nat → Read Entries
  | 0, _ => none
  | fuel + 1, s => do
    let (key, s) ← readKey s
    let (_, s) ← readMark '=' s
    let (v, s) ← readValue depth fuel (s.dropWhile isBlank)
    let entries ← addKey key v .inline entries
    match s.dropWhile isBlank with
    | ',' :: rest => readPairs depth entries fuel rest
    | '\x7d' :: rest => some (entries, rest)
    | _ => none

end

/-! ## Documents -/

/-- The rest after blanks, a comment and the end of the line or text. -/
def finishLine? (s : List Char) : Option (List Char) :=
  match skipComment (s.dropWhile isBlank) with
  | [] => some []
  | s => newline? s

/-- What has been read of a document: the header that the next lines belong to, and all entries. -/
structure Draft where
  header : List String
  entries : Entries

namespace Draft

/-- The draft with a table opened by a header. -/
def enter (d : Draft) (f : String → Origin → Entries → Option Entries) (path : List String) :
    Option Draft := do
  some ⟨path, ← grow .implied (f (← path.getLast?)) path.dropLast .header d.entries⟩

/-- The draft with a value added to its open table. -/
def add (d : Draft) (key : List String) (v : Toml) : Option Draft := do
  some { d with entries := ← grow .implied (addKey key v) d.header .header d.entries }

/-- The draft after the line in front, and the rest. -/
def readLine (d : Draft) : Read Draft := fun s =>
  match s with
  | '#' :: _ => (finishLine? s).map (d, ·)
  | '[' :: '[' :: rest => do
    let (path, rest) ← readKey rest
    let (_, rest) ← readMark ']' rest
    let (_, rest) ← readMark ']' rest
    some (← d.enter openItem path, ← finishLine? rest)
  | '[' :: rest => do
    let (path, rest) ← readKey rest
    let (_, rest) ← readMark ']' rest
    some (← d.enter openTable path, ← finishLine? rest)
  | _ =>
    match newline? s with
    | some rest => some (d, rest)
    | none => do
      let (key, s) ← readKey s
      let (_, s) ← readMark '=' s
      let (v, s) ← readValue (nestingLimit - 1) (s.length + 1) (s.dropWhile isBlank)
      some (← d.add key v, ← finishLine? s)

/-- The draft after all lines. -/
def readAll : Nat → Draft → List Char → Option Draft
  | 0, _, _ => none
  | fuel + 1, d, s => do
    match s.dropWhile isBlank with
    | [] => some d
    | s =>
      let (d, rest) ← d.readLine s
      readAll fuel d rest

end Draft

/-- The table that a document holds; a byte order mark in front is passed over. -/
def parse (s : String) : Option Toml := do
  let chars := match s.toList with
    | '\ufeff' :: rest => rest
    | chars => chars
  let d ← Draft.readAll (chars.length + 1) ⟨[], []⟩ chars
  some (.table .header d.entries)

end ClusterAudit.Toml
