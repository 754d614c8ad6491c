import ClusterAudit.Document.Toml
import ClusterAudit.Number.Binary64
import ClusterAudit.Number.Decimal
import ClusterAudit.Text.Numeral

/-!
# Scalars of TOML

Reading strings, numbers, dates and times from the front of a list of characters. Each reader gives
the value and the rest, or nothing.
-/

namespace ClusterAudit.Toml

/-- A reader of values of a type. -/
abbrev Read (α : Type) := List Char → Option (α × List Char)

/-- The rest after a line end. -/
def newline? : List Char → Option (List Char)
  | '\n' :: rest => some rest
  | '\r' :: '\n' :: rest => some rest
  | _ => none

/-- Whether a character is a space or a tab. -/
def isBlank (c : Char) : Bool := c = ' ' || c = '\t'

/-- Whether a character may stand in a comment or, but for quotes and backslashes, in a string. -/
def isPrintable (c : Char) : Bool := c = '\t' || (0x20 ≤ c.toNat && c.toNat ≠ 0x7F)

/-! ## Strings -/

/-- The character of a number of digits of base sixteen. -/
def readCode (count : Nat) : Read Char := fun s => do
  let digits := s.take count
  if digits.length < count then none
  let n ← Text.number? 16 digits
  if n < 0xD800 || (0xDFFF < n && n < 0x110000) then some (Char.ofNat n, s.drop count) else none

/-- The character of an escape, after its backslash. -/
def readEscape : Read Char
  | 'b' :: rest => some ('\x08', rest)
  | 't' :: rest => some ('\t', rest)
  | 'n' :: rest => some ('\n', rest)
  | 'f' :: rest => some ('\x0c', rest)
  | 'r' :: rest => some ('\r', rest)
  | '"' :: rest => some ('"', rest)
  | '\\' :: rest => some ('\\', rest)
  | 'u' :: rest => readCode 4 rest
  | 'U' :: rest => readCode 8 rest
  | _ => none

/-- The rest after blanks and line ends. -/
def skipLines : Nat → List Char → List Char
  | 0, s => s
  | fuel + 1, s =>
    let s := s.dropWhile isBlank
    match newline? s with
    | some rest => skipLines fuel rest
    | none => s

/-- The rest after an escaped line end and what is passed over with it. -/
def skipEscapedLine? (s : List Char) : Option (List Char) := do
  let rest ← newline? (s.dropWhile isBlank)
  some (skipLines (rest.length + 1) rest)

/-- The characters of a string on one line up to its quote, reversed, after the opening quote;
escapes are read only between double quotes. -/
def readLine (quote : Char) : Nat → List Char → Read (List Char)
  | 0, _, _ => none
  | _ + 1, _, [] => none
  | fuel + 1, acc, c :: rest =>
    if c = quote then some (acc, rest)
    else if c = '\\' && quote = '"' then do
      let (d, rest) ← readEscape rest
      readLine quote fuel (d :: acc) rest
    else if isPrintable c then readLine quote fuel (c :: acc) rest
    else none

/-- The characters of a string over several lines up to its three quotes, reversed, after the
opening ones. Of a longer run of quotes at the end, up to two belong to the string. -/
def readLines (quote : Char) : Nat → List Char → Read (List Char)
  | 0, _, _ => none
  | _ + 1, _, [] => none
  | fuel + 1, acc, c :: rest =>
    if c = quote then
      let count := ((c :: rest).takeWhile (· = quote)).length
      if 3 ≤ count then
        let kept := min (count - 3) 2
        some (List.replicate kept quote ++ acc, (c :: rest).drop (kept + 3))
      else readLines quote fuel (c :: acc) rest
    else if c = '\\' && quote = '"' then
      match skipEscapedLine? rest with
      | some rest => readLines quote fuel acc rest
      | none => do
        let (d, rest) ← readEscape rest
        readLines quote fuel (d :: acc) rest
    else match newline? (c :: rest) with
      | some rest => readLines quote fuel ('\n' :: acc) rest
      | none => if isPrintable c then readLines quote fuel (c :: acc) rest else none

/-- A string on one line, with its quotes. -/
def readQuoted : Read String
  | [] => none
  | quote :: rest => do
    if quote ≠ '"' && quote ≠ '\'' then none
    let (acc, rest) ← readLine quote (rest.length + 1) [] rest
    some (String.ofList acc.reverse, rest)

/-- A string of any form; a line end right after three opening quotes is passed over. -/
def readString : Read String
  | a :: b :: c :: rest =>
    if a = b && b = c && (a = '"' || a = '\'') then do
      let rest := (newline? rest).getD rest
      let (acc, rest) ← readLines a (rest.length + 1) [] rest
      some (String.ofList acc.reverse, rest)
    else readQuoted (a :: b :: c :: rest)
  | s => readQuoted s

/-! ## Numbers -/

/-- Digits with single underscores between them, without the underscores. -/
def readDigits (isDigit : Char → Bool) : Nat → List Char → Read (List Char)
  | 0, _, _ => none
  | fuel + 1, acc, s => match s with
    | '_' :: d :: rest =>
      if acc.isEmpty || !isDigit d then none else readDigits isDigit fuel (d :: acc) rest
    | d :: rest =>
      if isDigit d then readDigits isDigit fuel (d :: acc) rest
      else if acc.isEmpty || d = '_' then none else some (acc.reverse, s)
    | [] => if acc.isEmpty then none else some (acc.reverse, [])

/-- One or more decimal digits. -/
def readDecimals : Read (List Char) := fun s => readDigits Char.isDigit (s.length + 1) [] s

/-- An integer's sign and digits; a leading zero stands alone. -/
def readWhole : Read (Bool × List Char) := fun s => do
  let (negative, s) := Decimal.readSign s
  match s with
  | '0' :: rest => some ((negative, ['0']), rest)
  | _ =>
    let (digits, rest) ← readDecimals s
    some ((negative, digits), rest)

/-- An integer of a base with a sign of its own. -/
def readBased (base : Nat) : Read Int := fun s => do
  let isDigit (c : Char) := ((Text.hexDigit? c).map (decide <| · < base)).getD false
  let (digits, rest) ← readDigits isDigit (s.length + 1) [] s
  some ((← Text.number? base digits : Nat), rest)

/-- An integer of 64 bits. -/
def readInt : Read Int := fun s => do
  let (n, rest) ← match s with
    | '0' :: 'x' :: rest => readBased 16 rest
    | '0' :: 'o' :: rest => readBased 8 rest
    | '0' :: 'b' :: rest => readBased 2 rest
    | _ => do
      let ((negative, digits), rest) ← readWhole s
      let n : Int := (← Text.number? 10 digits : Nat)
      some (if negative then -n else n, rest)
  if Int64.minValue.toInt ≤ n && n ≤ Int64.maxValue.toInt then some (n, rest) else none

/-- An exponent after its letter. -/
def readExponent : Read (Option Int)
  | c :: s =>
    if c = 'e' || c = 'E' then do
      let (negative, s) := Decimal.readSign s
      let (digits, rest) ← readDecimals s
      let n : Int := (← Text.number? 10 digits : Nat)
      some (some (if negative then -n else n), rest)
    else some (none, c :: s)
  | [] => some (none, [])

/-- A number with a fraction or an exponent; a positive one must be finite. -/
def readFloat : Read Unit := fun s => do
  let ((negative, whole), rest) ← readWhole s
  let (fraction, rest) ← match rest with
    | '.' :: rest => readDecimals rest
    | _ => some ([], rest)
  let (exponent, rest) ← readExponent rest
  if fraction.isEmpty && exponent.isNone then none
  let mantissa ← Text.number? 10 (whole ++ fraction)
  let finite := (Binary64.ofDecimal mantissa (exponent.getD 0 - fraction.length)).isSome
  if negative || finite then some ((), rest) else none

/-- An infinity or no number, with or without a sign. -/
def readSpecial : Read Unit := fun s =>
  match (Decimal.readSign s).2 with
  | 'i' :: 'n' :: 'f' :: rest => some ((), rest)
  | 'n' :: 'a' :: 'n' :: rest => some ((), rest)
  | _ => none

/-! ## Dates and times -/

/-- A number of `count` digits between two bounds. -/
def readField (count low high : Nat) : Read Nat := fun s => do
  let digits := s.take count
  if digits.length < count || !digits.all Char.isDigit then none
  let n ← Text.number? 10 digits
  if low ≤ n && n ≤ high then some (n, s.drop count) else none

/-- The rest after a mark. -/
def readMark (mark : Char) : Read Unit
  | c :: rest => if c = mark then some ((), rest) else none
  | [] => none

/-- The number of days in a month. -/
def daysIn (year month : Nat) : Nat :=
  let leap := (year % 4 = 0 && year % 100 ≠ 0) || year % 400 = 0
  if month = 2 then if leap then 29 else 28
  else if [4, 6, 9, 11].contains month then 30 else 31

/-- A date. -/
def readDate : Read Unit := fun s => do
  let (year, s) ← readField 4 0 9999 s
  let (_, s) ← readMark '-' s
  let (month, s) ← readField 2 1 12 s
  let (_, s) ← readMark '-' s
  let (_, s) ← readField 2 1 (daysIn year month) s
  some ((), s)

/-- A time, with a fraction of seconds or without. -/
def readTime : Read Unit := fun s => do
  let (_, s) ← readField 2 0 23 s
  let (_, s) ← readMark ':' s
  let (_, s) ← readField 2 0 59 s
  let (_, s) ← readMark ':' s
  let (_, s) ← readField 2 0 60 s
  match s with
  | '.' :: d :: rest => if d.isDigit then some ((), rest.dropWhile Char.isDigit) else some ((), s)
  | _ => some ((), s)

/-- The distance from universal time. -/
def readOffset : Read Unit
  | c :: s =>
    if c = 'Z' || c = 'z' then some ((), s)
    else if c = '+' || c = '-' then do
      let (_, s) ← readField 2 0 23 s
      let (_, s) ← readMark ':' s
      let (_, s) ← readField 2 0 59 s
      some ((), s)
    else none
  | [] => none

/-- What a reader leaves, or all of it. -/
def optionally (read : Read Unit) (s : List Char) : List Char := ((read s).map (·.2)).getD s

/-- A time after a date, with the letter or space between them. -/
def readTimeAfter : Read Unit
  | c :: s =>
    if c = 'T' || c = 't' || c = ' ' then do
      let (_, s) ← readTime s
      some ((), optionally readOffset s)
    else none
  | [] => none

/-- A date, a time, or both. -/
def readMoment : Read Unit := fun s =>
  match readDate s with
  | some (_, rest) => some ((), optionally readTimeAfter rest)
  | none => readTime s

/-- A number, a date or a time. -/
def readNumber : Read Toml := fun s =>
  match readMoment s with
  | some (_, rest) => some (.moment, rest)
  | none => match readFloat s <|> readSpecial s with
    | some (_, rest) => some (.float, rest)
    | none => (readInt s).map fun (n, rest) => (.int n, rest)

end ClusterAudit.Toml
