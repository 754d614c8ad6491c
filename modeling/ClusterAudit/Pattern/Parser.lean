import ClusterAudit.Pattern.Syntax
import ClusterAudit.Text.Blank
import ClusterAudit.Text.Case
import ClusterAudit.Text.Surrogate

/-!
# Reading patterns

`Pattern.parseSyntax` reads the text of a pattern: literals, classes, groups, alternation,
repetition and flags. There is no look-around and no back-reference, and a repetition needs
something to repeat.

Every function consumes text or ends, so the fuel, a multiple of the text's length, never runs out.
-/

namespace ClusterAudit.Pattern

open Text

/-! ## Characters of the notation -/

/-- Whether a character has a meaning of its own in patterns. -/
def isMeta (c : Char) : Bool := "\\.+*?()|[]\x7b\x7d^$#&-~".toList.contains c

/-- Whether a backslash before the character yields the character itself. -/
def isEscapable (c : Char) : Bool :=
  isMeta c || (c.toNat < 0x80 && !c.isAlphanum && c ≠ '<' && c ≠ '>')

/-- The rest after a comment's line. -/
def skipLine (s : List Char) : List Char := (s.dropWhile (· ≠ '\n')).drop 1

/-- With the flag `x`, the text after leading blanks and comments; without it, the text. -/
def skipBlanks (extended : Bool) (s : List Char) : List Char :=
  if extended then go s.length s else s
where
  /-- Skips one blank or comment at a time. -/
  go : Nat → List Char → List Char
    | fuel + 1, c :: rest =>
      if isBlank c then go fuel rest
      else if c = '#' then go fuel (skipLine rest)
      else c :: rest
    | _, s => s

/-! ## Escapes -/

/-- What a backslash and what follows it denote. -/
inductive Escape where
  | char (c : Char)
  | octet (c : Char)
  | set (s : ClassSyntax)
  | anchor (a : Anchor)

/-- The character that an escape stands for. -/
def Escape.char? : Escape → Option Char
  | char c | octet c => some c
  | _ => none

/-- The digits of base sixteen for a code point: `count` digits in a row. -/
def readHexDigits (x : Bool) : Nat → List Char → List Char → Option (List Char × List Char)
  | 0, acc, s => some (acc.reverse, s)
  | count + 1, acc, s => match s with
    | c :: rest => if (hexDigit? c).isSome then readHexDigits x count (c :: acc) (skipBlanks x rest)
      else none
    | [] => none

/-- The digits of base sixteen up to a closing brace. -/
def readHexBraces (x : Bool) : Nat → List Char → List Char → Option (List Char × List Char)
  | 0, _, _ => none
  | fuel + 1, acc, s => match s with
    | '\x7d' :: rest => some (acc.reverse, skipBlanks x rest)
    | c :: rest =>
      if (hexDigit? c).isSome then readHexBraces x fuel (c :: acc) (skipBlanks x rest) else none
    | [] => none

/-- A code point in base sixteen after `\x`, `\u` or `\U`. -/
def readHex (x : Bool) (count : Nat) (s : List Char) : Option (Escape × List Char) := do
  match skipBlanks x s with
  | '\x7b' :: rest =>
    let (digits, rest) ← readHexBraces x (s.length + 1) [] (skipBlanks x rest)
    some (.char (← charOf? (← number? 16 digits)), rest)
  | s =>
    let (digits, rest) ← readHexDigits x count [] s
    let c ← charOf? (← number? 16 digits)
    some (if count = 2 then .octet c else .char c, rest)

/-- The list before and after the first `!=`. -/
def cutUnequal : List Char → Option (List Char × List Char)
  | '!' :: '=' :: rest => some ([], rest)
  | c :: rest => (cutUnequal rest).map fun (before, after) => (c :: before, after)
  | [] => none

/-- The property that the text between braces names. -/
def propertyOf (negated : Bool) (body : List Char) : ClassSyntax :=
  let name (s : List Char) := String.ofList s
  match cutUnequal body with
  | some (n, v) => .property (!negated) (name n) (some (name v))
  | none => match cut ':' body with
    | some (n, v) => .property negated (name n) (some (name v))
    | none => match cut '=' body with
      | some (n, v) => .property negated (name n) (some (name v))
      | none => .property negated (name body) none

/-- The characters up to a closing brace. -/
def readBraces (x : Bool) : Nat → List Char → List Char → Option (List Char × List Char)
  | 0, _, _ => none
  | fuel + 1, acc, s => match s with
    | '\x7d' :: rest => some (acc.reverse, rest)
    | c :: rest => readBraces x fuel (c :: acc) (skipBlanks x rest)
    | [] => none

/-- A property after `\p` or `\P`. -/
def readProperty (x : Bool) (negated : Bool) (s : List Char) : Option (Escape × List Char) :=
  match skipBlanks x s with
  | '\x7b' :: rest => do
    let (body, rest) ← readBraces x (s.length + 1) [] (skipBlanks x rest)
    some (.set (propertyOf negated body), rest)
  | '\\' :: _ => none
  | c :: rest => some (.set (.property negated c.toString none), skipBlanks x rest)
  | [] => none

/-- The letters and dashes of a named boundary. -/
def readBoundaryName (x : Bool) : Nat → List Char → List Char → List Char × List Char
  | 0, acc, s => (acc.reverse, s)
  | fuel + 1, acc, s => match s with
    | c :: rest =>
      if c.isAlpha || c = '-' then readBoundaryName x fuel (c :: acc) (skipBlanks x rest)
      else (acc.reverse, s)
    | [] => (acc.reverse, [])

/-- What follows `\b`: a named boundary in braces, or nothing of its own. -/
def readBoundary (x : Bool) (s : List Char) : Option (Escape × List Char) :=
  match s with
  | '\x7b' :: rest =>
    match skipBlanks x rest with
    | [] => none
    | c :: more =>
      if !(c.isAlpha || c = '-') then some (.anchor .boundary, s)
      else
        match readBoundaryName x (more.length + 1) [] (c :: more) with
        | (name, '\x7d' :: rest) =>
          match String.ofList name with
          | "start" => some (.anchor .wordStart, rest)
          | "end" => some (.anchor .wordEnd, rest)
          | "start-half" => some (.anchor .wordStartHalf, rest)
          | "end-half" => some (.anchor .wordEndHalf, rest)
          | _ => none
        | _ => none
  | s => some (.anchor .boundary, s)

/-- What follows a backslash. -/
def readEscape (x : Bool) : List Char → Option (Escape × List Char)
  | [] => none
  | c :: rest =>
    match c with
    | 'x' => readHex x 2 rest
    | 'u' => readHex x 4 rest
    | 'U' => readHex x 8 rest
    | 'p' => readProperty x false rest
    | 'P' => readProperty x true rest
    | 'd' => some (.set (.short false .digit), rest)
    | 'D' => some (.set (.short true .digit), rest)
    | 's' => some (.set (.short false .space), rest)
    | 'S' => some (.set (.short true .space), rest)
    | 'w' => some (.set (.short false .word), rest)
    | 'W' => some (.set (.short true .word), rest)
    | 'a' => some (.char '\x07', rest)
    | 'f' => some (.char '\x0c', rest)
    | 't' => some (.char '\t', rest)
    | 'n' => some (.char '\n', rest)
    | 'r' => some (.char '\r', rest)
    | 'v' => some (.char '\x0b', rest)
    | 'A' => some (.anchor .startText, rest)
    | 'z' => some (.anchor .endText, rest)
    | 'b' => readBoundary x rest
    | 'B' => some (.anchor .notBoundary, rest)
    | '<' => some (.anchor .wordStart, rest)
    | '>' => some (.anchor .wordEnd, rest)
    | c => if isEscapable c then some (.char c, rest) else none

/-! ## Classes in brackets -/

/-- The names of the classes written `[:name:]`. -/
def asciiClassNames : List String :=
  ["alnum", "alpha", "ascii", "blank", "cntrl", "digit", "graph", "lower", "print", "punct",
   "space", "upper", "word", "xdigit"]

/-- A class `[:name:]` after its opening bracket, if what follows is one. -/
def readAsciiClass? (s : List Char) : Option (ClassSyntax × List Char) :=
  match s with
  | ':' :: rest =>
    let (negated, rest) := match rest with
      | '^' :: rest => (true, rest)
      | rest => (false, rest)
    match cut ':' rest with
    | some (name, ']' :: rest) =>
      let name := String.ofList name
      if asciiClassNames.contains name then some (.ascii negated name, rest) else none
    | _ => none
  | _ => none

/-- One item that may bound a range: a character or an escape. -/
def readClassItem (x : Bool) : List Char → Option (Escape × List Char)
  | '\\' :: rest => readEscape x rest
  | c :: rest => some (.char c, rest)
  | [] => none

/-- The character that decides whether a dash in front of the text makes a range: the first one that
is neither a blank nor, with the flag `x`, the sign of a comment. Comments are not passed over as a
whole: the first character inside one decides. -/
def decisive (x : Bool) (s : List Char) : Option Char :=
  if x then (go false s).or s.head? else s.head?
where
  /-- The first character that is no blank and not the first sign of a comment. -/
  go (signSeen : Bool) : List Char → Option Char
    | [] => none
    | c :: rest =>
      if isBlank c then go signSeen rest
      else if c = '#' && !signSeen then go true rest
      else some c

/-- A character, a range or an escape inside brackets. -/
def readClassRange (x : Bool) (s : List Char) : Option (ClassSyntax × List Char) := do
  let (first, rest) ← readClassItem x s
  let rest := skipBlanks x rest
  let single : Option (ClassSyntax × List Char) := match first with
    | .char c | .octet c => some (.char c, rest)
    | .set s => some (s, rest)
    | .anchor _ => none
  match rest with
  | [] => none
  | '-' :: more =>
    if decisive x more = some ']' || decisive x more = some '-' then single
    else do
      let (last, rest) ← readClassItem x (skipBlanks x more)
      let a ← first.char?
      let b ← last.char?
      if a ≤ b then some (.range a b, rest) else none
  | _ => single

/-- What follows an opening bracket before the items proper: a caret, dashes, a closing bracket that
stands for itself. -/
def openClass (x : Bool) (s : List Char) : Option (Bool × List ClassSyntax × List Char) := do
  let s := skipBlanks x s
  let (negated, s) := match s with
    | '^' :: rest => (true, skipBlanks x rest)
    | s => (false, s)
  let (dashes, s) := takeDashes s.length [] s
  match s with
  | [] => none
  | ']' :: rest =>
    if dashes.isEmpty then
      let rest := skipBlanks x rest
      if rest.isEmpty then none else some (negated, [.char ']'], rest)
    else some (negated, dashes, s)
  | s => some (negated, dashes, s)
where
  /-- Leading dashes, each a character. -/
  takeDashes : Nat → List ClassSyntax → List Char → List ClassSyntax × List Char
    | fuel + 1, acc, '-' :: rest => takeDashes fuel (.char '-' :: acc) (skipBlanks x rest)
    | _, acc, s => (acc, s)

/-- A class waiting for its right operand. -/
abbrev Pending := Option (ClassOp × ClassSyntax)

/-- The waiting class joined with a right operand. -/
def Pending.join (pending : Pending) (right : ClassSyntax) : ClassSyntax :=
  match pending with
  | some (kind, left) => .op kind left right
  | none => right

/-- The items of a class up to its closing bracket. -/
def readClassBody (x : Bool) (fuel : Nat) (pending : Pending) (items : List ClassSyntax)
    (s : List Char) : Option (ClassSyntax × List Char) :=
  match fuel with
  | 0 => none
  | fuel + 1 =>
    let closed := pending.join (.ofItems items.reverse)
    match skipBlanks x s with
    | [] => none
    | ']' :: rest => some (closed, rest)
    | '[' :: rest =>
      match readAsciiClass? rest with
      | some (item, rest) => readClassBody x fuel pending (item :: items) rest
      | none => do
        let (negated, first, rest) ← openClass x rest
        let (body, rest) ← readClassBody x fuel none first rest
        readClassBody x fuel pending (.bracket negated body :: items) rest
    | '&' :: '&' :: rest => readClassBody x fuel (some (.intersection, closed)) [] rest
    | '-' :: '-' :: rest => readClassBody x fuel (some (.difference, closed)) [] rest
    | '~' :: '~' :: rest => readClassBody x fuel (some (.symmetricDifference, closed)) [] rest
    | s => do
      let (item, rest) ← readClassRange x s
      readClassBody x fuel pending (item :: items) rest

/-- A class after its opening bracket. -/
def readClass (x : Bool) (s : List Char) : Option (ClassSyntax × List Char) := do
  let (negated, first, rest) ← openClass x s
  let (body, rest) ← readClassBody x (2 * s.length + 2) none first rest
  some (.bracket negated body, rest)

/-! ## Groups and flags -/

/-- The flag a letter stands for. -/
def flagOf? : Char → Option Flag
  | 'i' => some .caseless
  | 'm' => some .multiLine
  | 's' => some .dotAll
  | 'U' => some .swapGreed
  | 'u' => some .unicode
  | 'R' => some .crlf
  | 'x' => some .extended
  | _ => none

/-- Flag letters up to a colon or closing parenthesis, which stays in the rest. No letter and no
dash may repeat, and a dash needs a letter after it. -/
def readFlags (changes : FlagChanges) (negated : Bool) (dangling : Bool) :
    List Char → Option (FlagChanges × List Char)
  | [] => none
  | ':' :: rest => if dangling then none else some (changes, ':' :: rest)
  | ')' :: rest => if dangling then none else some (changes, ')' :: rest)
  | '-' :: rest => if negated then none else readFlags changes true true rest
  | c :: rest => do
    let flag ← flagOf? c
    if changes.any (·.1 == flag) then none
    else readFlags (changes ++ [(flag, !negated)]) negated false rest

/-- Whether a character may stand in the name of a group; the first one is a letter or underscore.
-/
def isNameChar (first : Bool) (c : Char) : Bool :=
  if first then c = '_' || isAlphabetic c
  else c = '_' || c = '.' || c = '[' || c = ']' || isAlphabetic c || isNumeric c

/-- The name of a group up to its closing angle bracket. -/
def readGroupName (s : List Char) : Option (List Char × List Char) := do
  let (name, rest) ← cut '>' s
  match name with
  | [] => none
  | c :: more =>
    if isNameChar true c && more.all (isNameChar false) then some (name, rest) else none

/-- What an opening parenthesis begins. -/
inductive Opening where
  /-- Flags for the rest of the group around. -/
  | flags (changes : FlagChanges)
  /-- A group that captures, perhaps under a name. -/
  | capture (name : Option (List Char))
  /-- A group with flags, which does not capture. -/
  | group (changes : FlagChanges)

/-- What follows an opening parenthesis. -/
def readOpening (x : Bool) (s : List Char) : Option (Opening × List Char) :=
  match skipBlanks x s with
  | '?' :: '=' :: _ | '?' :: '!' :: _ | '?' :: '<' :: '=' :: _ | '?' :: '<' :: '!' :: _ => none
  | '?' :: 'P' :: '<' :: rest | '?' :: '<' :: rest => do
    let (name, rest) ← readGroupName rest
    some (.capture (some name), rest)
  | '?' :: rest => do
    let (changes, rest) ← readFlags [] false false rest
    match rest with
    | ')' :: rest => if changes.isEmpty then none else some (.flags changes, rest)
    | ':' :: rest => some (.group changes, rest)
    | _ => none
  | rest => some (.capture none, rest)

/-- Whether the flag `x` holds after the changes. -/
def extendedAfter (x : Bool) (changes : FlagChanges) : Bool := (changes.lookup .extended).getD x

/-! ## Repetition -/

/-- A bounded decimal number, blanks around it allowed. -/
def readCount (x : Bool) (s : List Char) : Option (Option Nat × List Char) :=
  let s := s.dropWhile isBlank
  let (digits, s) := takeDigits s.length [] s
  let s := skipBlanks x (s.dropWhile isBlank)
  if digits.isEmpty then some (none, s)
  else do
    let n ← number? 10 digits
    if n < UInt32.size then some (some n, s) else none
where
  /-- Leading digits. -/
  takeDigits : Nat → List Char → List Char → List Char × List Char
    | fuel + 1, acc, c :: rest =>
      if c.isDigit then takeDigits fuel (c :: acc) (skipBlanks x rest) else (acc.reverse, c :: rest)
    | _, acc, s => (acc.reverse, s)

/-- The bounds of a counted repetition after its opening brace. -/
def readBounds (x : Bool) (s : List Char) : Option ((Nat × Option Nat) × List Char) := do
  let (least, s) ← readCount x (skipBlanks x s)
  let (bounds, s) ← match s with
    | ',' :: rest =>
      match skipBlanks x rest with
      | '\x7d' :: rest => do some ((← least, none), '\x7d' :: rest)
      | rest => do
        let least ← least
        let (most, rest) ← readCount x rest
        some ((least, some (← most)), rest)
    | s => do
      let n ← least
      some ((n, some n), s)
  match s with
  | '\x7d' :: rest =>
    if (bounds.2.map (decide <| bounds.1 ≤ ·)).getD true then some (bounds, skipBlanks x rest)
    else none
  | _ => none

/-- The parts read so far, the newest first, with the newest one repeated, and the text after a
question mark that makes the repetition lazy. Flags cannot be repeated. -/
def repeatLast (least : Nat) (most : Option Nat) (parts : List Syntax) (s : List Char) :
    Option (List Syntax × List Char) :=
  let (greedy, s) := match s with
    | '?' :: rest => (false, rest)
    | s => (true, s)
  match parts with
  | [] | .empty :: _ | .flags _ :: _ => none
  | part :: parts => some (.repetition least most greedy part :: parts, s)

/-! ## Patterns -/

/-- What has been read of a group. -/
structure Progress where
  /-- The finished branches, the newest first. -/
  branches : List Syntax
  /-- The parts of the open branch, the newest first. -/
  parts : List Syntax
  /-- The names given to groups. -/
  names : List (List Char)

/-- The group read so far as one pattern. -/
def Progress.close (p : Progress) : Syntax :=
  .ofBranches (Syntax.ofParts p.parts.reverse :: p.branches).reverse

/-- The progress with one more part. -/
def Progress.push (p : Progress) (part : Syntax) : Progress := { p with parts := part :: p.parts }

/-- The text after a closing parenthesis, which must stand in front. -/
def dropClosing : List Char → Option (List Char)
  | ')' :: rest => some rest
  | _ => none

/-- A pattern up to the end of its group, which stays in the rest. -/
def readGroup (fuel : Nat) (x : Bool) (p : Progress) (s : List Char) :
    Option (Progress × List Char) :=
  match fuel with
  | 0 => none
  | fuel + 1 =>
    match skipBlanks x s with
    | [] => some (p, [])
    | ')' :: rest => some (p, ')' :: rest)
    | '(' :: rest => do
      let (opening, rest) ← readOpening x rest
      match opening with
      | .flags changes => readGroup fuel (extendedAfter x changes) (p.push (.flags changes)) rest
      | .capture name =>
        if name.any p.names.contains then none
        let (inner, rest) ← readGroup fuel x ⟨[], [], name.toList ++ p.names⟩ rest
        let rest ← dropClosing rest
        readGroup fuel x { p.push (.group true [] inner.close) with names := inner.names } rest
      | .group changes =>
        let (inner, rest) ← readGroup fuel (extendedAfter x changes) ⟨[], [], p.names⟩ rest
        let rest ← dropClosing rest
        let p := { p.push (.group false changes inner.close) with names := inner.names }
        readGroup fuel x p rest
    | '|' :: rest =>
      readGroup fuel x
        { p with branches := Syntax.ofParts p.parts.reverse :: p.branches, parts := [] } rest
    | '[' :: rest => do
      let (s, rest) ← readClass x rest
      readGroup fuel x (p.push (.set s)) rest
    | '?' :: rest => do
      let (parts, rest) ← repeatLast 0 (some 1) p.parts rest
      readGroup fuel x { p with parts } rest
    | '*' :: rest => do
      let (parts, rest) ← repeatLast 0 none p.parts rest
      readGroup fuel x { p with parts } rest
    | '+' :: rest => do
      let (parts, rest) ← repeatLast 1 none p.parts rest
      readGroup fuel x { p with parts } rest
    | '\x7b' :: rest => do
      let ((least, most), rest) ← readBounds x rest
      let (parts, rest) ← repeatLast least most p.parts rest
      readGroup fuel x { p with parts } rest
    | '\\' :: rest => do
      let (escape, rest) ← readEscape x rest
      let part : Syntax := match escape with
        | .char c => .char c
        | .octet c => .octet c
        | .set s => .set s
        | .anchor a => .anchor a
      readGroup fuel x (p.push part) rest
    | '.' :: rest => readGroup fuel x (p.push .dot) rest
    | '^' :: rest => readGroup fuel x (p.push (.anchor .startLine)) rest
    | '$' :: rest => readGroup fuel x (p.push (.anchor .endLine)) rest
    | c :: rest => readGroup fuel x (p.push (.char c)) rest

/-- The syntax tree of a pattern, if the text is one. -/
def parseSyntax (text : String) : Option Syntax := do
  let s := text.toList
  let (p, rest) ← readGroup (2 * s.length + 2) false ⟨[], [], []⟩ s
  if !rest.isEmpty then none
  let tree := p.close
  if depthLimit < tree.depth then none else some tree

end ClusterAudit.Pattern
