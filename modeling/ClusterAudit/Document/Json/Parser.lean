import ClusterAudit.Document.Json
import ClusterAudit.Text.Numeral
import ClusterAudit.Text.Surrogate
import ClusterAudit.Number.Binary64

/-!
# Reading JSON text

`Json.parse` reads one document and nothing after it but blanks. The grammar is the strict one: no
comment, no trailing comma, no byte order mark, no control character inside a string.

A record with a name that is no text, for want of half of a surrogate pair, is unreadable; so are a
text of that kind and a number beyond the doubles. What is unreadable does no harm where nobody
reads it.

Nesting is bounded by fuel, of which the length of the text is enough: every level consumes a
bracket.
-/

namespace ClusterAudit.Json

open Text

/-- Whether a character may stand between tokens. -/
def isSpace (c : Char) : Bool := c = ' ' || c = '\n' || c = '\t' || c = '\r'

/-- The text after leading blanks. -/
def skipSpace (s : List Char) : List Char := s.dropWhile isSpace

/-! ## Strings -/

/-- The number spelled by the next four digits of base sixteen. -/
def readUnit? : List Char → Option (Nat × List Char)
  | a :: b :: c :: d :: rest => do
    let n ← number? 16 [a, b, c, d]
    some (n, rest)
  | _ => none

/-- The character that a one-letter escape denotes. -/
def simpleEscape? : Char → Option Char
  | '"' => some '"'
  | '\\' => some '\\'
  | '/' => some '/'
  | 'b' => some '\x08'
  | 'f' => some '\x0c'
  | 'n' => some '\n'
  | 'r' => some '\r'
  | 't' => some '\t'
  | _ => none

/-- What follows an opening quote: the characters up to the closing one, reversed, and the rest. The
characters are `none` if an escape names half of a surrogate pair. -/
def readString (fuel : Nat) (acc : Option (List Char)) (s : List Char) :
    Option (Option (List Char) × List Char) :=
  match fuel, s with
  | _, [] => none
  | 0, _ => none
  | _ + 1, '"' :: rest => some (acc, rest)
  | fuel + 1, '\\' :: 'u' :: rest => do
    let (n, rest) ← readUnit? rest
    if isLeading n then
      match rest with
      | '\\' :: 'u' :: more =>
        let (m, after) ← readUnit? more
        match ofPair? n m with
        | some c => readString fuel (acc.map (c :: ·)) after
        | none => readString fuel none rest
      | _ => readString fuel none rest
    else match charOf? n with
      | some c => readString fuel (acc.map (c :: ·)) rest
      | none => readString fuel none rest
  | fuel + 1, '\\' :: e :: rest => do
    let c ← simpleEscape? e
    readString fuel (acc.map (c :: ·)) rest
  | fuel + 1, c :: rest =>
    if c.toNat < 0x20 || c = '\\' then none else readString fuel (acc.map (c :: ·)) rest

/-- The string after an opening quote, and the rest. -/
def readText (s : List Char) : Option (Option String × List Char) := do
  let (chars, rest) ← readString s.length (some []) s
  some (chars.map fun cs => String.ofList cs.reverse, rest)

/-! ## Numbers -/

/-- The digits at the front, and the rest; at least one digit is needed. -/
def readDigits? (s : List Char) : Option (List Char × List Char) :=
  let digits := s.takeWhile Char.isDigit
  if digits.isEmpty then none else some (digits, s.dropWhile Char.isDigit)

/-- The digits after a point, if one stands in front. -/
def readFraction? : List Char → Option (List Char × List Char)
  | '.' :: rest => readDigits? rest
  | s => some ([], s)

/-- The exponent, if one stands in front. -/
def readExponent? : List Char → Option (Option Int × List Char)
  | c :: rest =>
    if c = 'e' || c = 'E' then do
      let (negative, rest) := match rest with
        | '-' :: rest => (true, rest)
        | '+' :: rest => (false, rest)
        | rest => (false, rest)
      let (digits, rest) ← readDigits? rest
      let n ← number? 10 digits
      some (some (if negative then -n else n), rest)
    else some (none, c :: rest)
  | [] => some (none, [])

/-- The number at the front: an integer of 64 bits, another number, or one beyond the doubles. -/
def readNumber? (s : List Char) : Option (Json × List Char) := do
  let (negative, s) := match s with
    | '-' :: rest => (true, rest)
    | s => (false, s)
  let (whole, s) ← readDigits? s
  if whole.length > 1 && whole.head? = some '0' then none
  let (fraction, s) ← readFraction? s
  let (exponent, s) ← readExponent? s
  let magnitude ← number? 10 (whole ++ fraction)
  let mantissa : Int := if negative then -magnitude else magnitude
  if fraction.isEmpty && exponent.isNone && !(negative && magnitude = 0)
      && decide (Int64.minValue.toInt ≤ mantissa) && decide (mantissa < UInt64.size) then
    some (int mantissa, s)
  else
    let scale := exponent.getD 0 - fraction.length
    if (Binary64.ofDecimal magnitude scale).isNone then some (unreadable, s)
    else some (decimal mantissa scale, s)

/-! ## Documents -/

/-- The rest of the text after a literal word. -/
def dropWord? (word : String) (s : List Char) : Option (List Char) :=
  if word.toList.isPrefixOf s then some (s.drop word.length) else none

mutual

/-- The document at the front, after blanks. -/
def readValue (fuel : Nat) (s : List Char) : Option (Json × List Char) :=
  match fuel with
  | 0 => none
  | fuel + 1 =>
    match skipSpace s with
    | '"' :: rest => do
      let (t, rest) ← readText rest
      some (match t with | some t => text t | none => unreadable, rest)
    | '[' :: rest =>
      match skipSpace rest with
      | ']' :: rest => some (list [], rest)
      | rest => do
        let (items, rest) ← readItems fuel [] rest
        some (list items, rest)
    | '{' :: rest =>
      match skipSpace rest with
      | '}' :: rest => some (record [], rest)
      | rest => do
        let (fields, rest) ← readFields fuel (some []) rest
        some ((fields.map record).getD unreadable, rest)
    | 't' :: rest => do some (bool true, ← dropWord? "rue" rest)
    | 'f' :: rest => do some (bool false, ← dropWord? "alse" rest)
    | 'n' :: rest => do some (null, ← dropWord? "ull" rest)
    | s => readNumber? s

/-- The items of a list up to its closing bracket; at least one is needed. -/
def readItems (fuel : Nat) (acc : List Json) (s : List Char) :
    Option (List Json × List Char) :=
  match fuel with
  | 0 => none
  | fuel + 1 => do
    let (item, rest) ← readValue fuel s
    match skipSpace rest with
    | ',' :: rest => readItems fuel (item :: acc) rest
    | ']' :: rest => some ((item :: acc).reverse, rest)
    | _ => none

/-- The fields of a record up to its closing brace; at least one is needed. They are `none` if a
name is no text. -/
def readFields (fuel : Nat) (acc : Option (List (String × Json))) (s : List Char) :
    Option (Option (List (String × Json)) × List Char) :=
  match fuel with
  | 0 => none
  | fuel + 1 =>
    match skipSpace s with
    | '"' :: rest => do
      let (name, rest) ← readText rest
      match skipSpace rest with
      | ':' :: rest =>
        let (value, rest) ← readValue fuel rest
        let acc := acc.bind fun fields => name.map fun name => (name, value) :: fields
        match skipSpace rest with
        | ',' :: rest => readFields fuel acc rest
        | '}' :: rest => some (acc.map List.reverse, rest)
        | _ => none
      | _ => none
    | _ => none

end

/-- The document a text spells, blanks around it allowed. -/
def parse (s : String) : Option Json :=
  let chars := s.toList
  match readValue (2 * chars.length + 2) chars with
  | some (value, rest) => if (skipSpace rest).isEmpty then some value else none
  | none => none

end ClusterAudit.Json
