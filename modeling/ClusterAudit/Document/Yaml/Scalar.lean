import ClusterAudit.Document.Yaml.Cursor

/-!
# Scalars of YAML

The text that a scalar denotes: quoted scalars with their escapes, plain scalars, and block scalars
with their indentation and chomping. Inside flow and plain scalars a single line end is read as a
space and further ones as themselves (`Pending`).
-/

namespace ClusterAudit.Yaml

/-- How a scalar is written. -/
inductive Style where
  | plain
  | quoted
  | block
  deriving DecidableEq

/-- Blanks and line ends that have been passed but not yet read as text. -/
structure Pending where
  /-- Blanks on the line, reversed. -/
  blanks : List Char
  /-- The first line end, once there is one. -/
  leading : Option (List Char)
  /-- The line ends after it, reversed. -/
  trailing : List Char

namespace Pending

/-- Nothing has been passed. -/
def none : Pending := ⟨[], Option.none, []⟩

/-- What has been passed, read as text and reversed. -/
def flush (p : Pending) : List Char :=
  match p.leading with
  | Option.none => p.blanks
  | some ['\n'] => if p.trailing.isEmpty then [' '] else p.trailing
  | some leading => p.trailing ++ leading.reverse

end Pending

/-- Passes blanks and line ends. Nothing is kept of blanks once a line has ended; with an
indentation, no tab may stand before it. -/
def passBlanks (indent : Option Int) : Nat → Pending → Cursor → Option (Pending × Cursor)
  | 0, p, c => some (p, c)
  | fuel + 1, p, c => match c.rest with
    | d :: _ =>
      if isBlank d then
        match p.leading with
        | Option.none => passBlanks indent fuel { p with blanks := d :: p.blanks } (c.skip 1)
        | some _ =>
          if d = '\t' && (indent.map (decide <| (c.column : Int) < ·)).getD false then none
          else passBlanks indent fuel p (c.skip 1)
      else if isBreak d then
        let (text, c) := c.readBreak
        match p.leading with
        | Option.none => passBlanks indent fuel ⟨[], some text, []⟩ c
        | some _ => passBlanks indent fuel { p with trailing := text.reverse ++ p.trailing } c
      else some (p, c)
    | [] => some (p, c)

/-! ## Quoted scalars -/

/-- The character that a one-letter escape denotes. -/
def escapeOf? : Char → Option Char
  | '0' => some '\x00'
  | 'a' => some '\x07'
  | 'b' => some '\x08'
  | 't' => some '\t'
  | '\t' => some '\t'
  | 'n' => some '\n'
  | 'v' => some '\x0b'
  | 'f' => some '\x0c'
  | 'r' => some '\r'
  | 'e' => some '\x1b'
  | ' ' => some ' '
  | '"' => some '"'
  | '/' => some '/'
  | '\\' => some '\\'
  | 'N' => some '\u0085'
  | '_' => some '\u00a0'
  | 'L' => some '\u2028'
  | 'P' => some '\u2029'
  | _ => none

/-- The number of digits after an escape that names a code point. -/
def escapeDigits : Char → Nat
  | 'x' => 2
  | 'u' => 4
  | 'U' => 8
  | _ => 0

/-- The character of the escape in front, after its backslash. -/
def readEscape? (c : Cursor) : Option (Char × Cursor) :=
  match c.rest with
  | [] => none
  | e :: rest =>
    match escapeOf? e with
    | some d => some (d, c.skip 1)
    | none => do
      let count := escapeDigits e
      let digits := rest.take count
      if count = 0 || digits.length < count then none
      let d ← Text.charOf? (← Text.number? 16 digits)
      some (d, c.skip (1 + count))

/-- The text of a quoted scalar up to its closing quote, reversed, after its opening quote. -/
def readQuoted (single : Bool) : Nat → List Char → Cursor → Option (List Char × Cursor)
  | 0, _, _ => none
  | fuel + 1, acc, c =>
    if c.atMarker then none
    else match c.rest with
      | [] => none
      | '\'' :: '\'' :: _ =>
        if single then readQuoted single fuel ('\'' :: acc) (c.skip 2)
        else readQuoted single fuel ('\'' :: acc) (c.skip 1)
      | d :: rest =>
        if d = (if single then '\'' else '"') then some (acc, c.skip 1)
        else if isBlank d || isBreak d then do
          let (p, c) ← passBlanks none (c.left + 1) .none c
          readQuoted single fuel (p.flush ++ acc) c
        else if d = '\\' && !single then
          if (rest.head?.map isBreak).getD false then do
            let c := (c.skip 1).readBreak.2
            let (p, c) ← passBlanks none (c.left + 1) ⟨[], some [], []⟩ c
            readQuoted single fuel (p.flush ++ acc) c
          else do
            let (e, c) ← readEscape? (c.skip 1)
            readQuoted single fuel (e :: acc) c
        else readQuoted single fuel (d :: acc) (c.skip 1)

/-! ## Plain scalars -/

/-- Whether a character ends a plain scalar inside brackets. -/
def isFlowMark (c : Char) : Bool := c = ',' || c = '[' || c = ']' || c = '\x7b' || c = '\x7d'

/-- Whether a plain scalar ends in front of the text. -/
def endsPlain (flow : Bool) : List Char → Bool
  | ':' :: rest => atBlankOrEnd rest
  | d :: _ => flow && isFlowMark d
  | [] => true

/-- Whether a colon stands where a plain scalar inside brackets may not have one. -/
def misplacedColon (flow : Bool) : List Char → Bool
  | ':' :: d :: _ => flow && (isFlowMark d || d = '?')
  | _ => false

/-- The characters of a plain scalar up to a blank or an end, reversed onto `acc`. -/
def readWord (flow : Bool) : Nat → List Char → Cursor → Option (List Char × Cursor)
  | 0, acc, c => some (acc, c)
  | fuel + 1, acc, c =>
    if atBlankOrEnd c.rest then some (acc, c)
    else if misplacedColon flow c.rest then none
    else if endsPlain flow c.rest then some (acc, c)
    else match c.rest with
      | d :: _ => readWord flow fuel (d :: acc) (c.skip 1)
      | [] => some (acc, c)

/-- The text of a plain scalar, reversed; what was passed before its end; the cursor there. -/
def readPlain (flow : Bool) (indent : Int) :
    Nat → List Char → Pending → Cursor → Option (List Char × Pending × Cursor)
  | 0, acc, p, c => some (acc, p, c)
  | fuel + 1, acc, p, c =>
    if c.atMarker then some (acc, p, c)
    else if c.rest.head? = some '#' then some (acc, p, c)
    else do
      let before := c.octets
      let (word, c) ← readWord flow (c.left + 1) [] c
      let (acc, p) := if c.octets = before then (acc, p) else (word ++ p.flush ++ acc, Pending.none)
      match c.rest with
      | [] => some (acc, p, c)
      | d :: _ =>
        if !(isBlank d || isBreak d) then some (acc, p, c)
        else
          let (p, c) ← passBlanks (some indent) (c.left + 1) p c
          if !flow && decide ((c.column : Int) < indent) then some (acc, p, c)
          else readPlain flow indent fuel acc p c

/-! ## Block scalars -/

/-- What is kept of the line ends after a block scalar. -/
inductive Chomping where
  | clip
  | strip
  | keep
  deriving DecidableEq

/-- The chomping sign in front, if there is one. -/
def readChomping (c : Cursor) : Option (Chomping × Cursor) :=
  match c.rest with
  | '+' :: _ => some (.keep, c.skip 1)
  | '-' :: _ => some (.strip, c.skip 1)
  | _ => none

/-- The indentation digit in front, if there is one; zero is refused. -/
def readIndentDigit (c : Cursor) : Option (Option Nat × Cursor) :=
  match c.rest with
  | d :: _ =>
    if d.isDigit then
      if d = '0' then none else some (Text.digit? d, c.skip 1)
    else some (none, c)
  | [] => some (none, c)

/-- The header of a block scalar: chomping and indentation in either order. -/
def readBlockHeader (c : Cursor) : Option (Chomping × Option Nat × Cursor) :=
  match readChomping c with
  | some (chomping, c) => do
    let (indent, c) ← readIndentDigit c
    some (chomping, indent, c)
  | none => do
    let (indent, c) ← readIndentDigit c
    match indent, readChomping c with
    | some _, some (chomping, c) => some (chomping, indent, c)
    | _, _ => some (.clip, indent, c)

/-- Passes indentation and empty lines of a block scalar. The indentation, zero while it is not
known, is the column of the deepest blank reached, but at least `least`. -/
def passIndent (least : Nat) : Nat → Nat → Nat → List Char → Cursor →
    Option (Nat × List Char × Cursor)
  | 0, _, _, _, _ => none
  | fuel + 1, indent, deepest, breaks, c =>
    let spaces := (c.rest.takeWhile (· = ' ')).length
    let c := c.skip (if indent = 0 then spaces else min spaces (indent - c.column))
    let deepest := max deepest c.column
    if (indent = 0 || c.column < indent) && c.rest.head? = some '\t' then none
    else if (c.rest.head?.map isBreak).getD false then
      let (text, c) := c.readBreak
      passIndent least fuel indent deepest (text.reverse ++ breaks) c
    else some (if indent = 0 then max deepest least else indent, breaks, c)

/-- The lines of a block scalar, reversed; the last line end; the line ends after it, reversed. -/
def readBlockLines (literal : Bool) (indent : Nat) :
    Nat → List Char → List Char → List Char → Bool → Cursor →
    Option (List Char × List Char × List Char × Cursor)
  | 0, acc, leading, trailing, _, c => some (acc, leading, trailing, c)
  | fuel + 1, acc, leading, trailing, afterBlank, c =>
    if c.column ≠ indent || c.rest.isEmpty then some (acc, leading, trailing, c)
    else do
      let blank := (c.rest.head?.map isBlank).getD false
      let joined :=
        if !literal && leading = ['\n'] && !afterBlank && !blank then
          if trailing.isEmpty then ' ' :: acc else acc
        else leading ++ acc
      let (line, c) := c.span fun _ => true
      let acc := line.reverse ++ (trailing ++ joined)
      let (leading, c) := c.readBreak
      let (_, trailing, c) ← passIndent 0 (c.left + 1) indent 0 [] c
      readBlockLines literal indent fuel acc leading trailing blank c

/-- The text of a block scalar after its indicator; `parent` is the indentation around it. -/
def readBlock (literal : Bool) (parent : Int) (c : Cursor) : Option (List Char × Cursor) := do
  let (chomping, digit, c) ← readBlockHeader c
  let c ← c.finishLine?
  let given := match digit with
    | some n => (if 0 ≤ parent then parent + n else n).toNat
    | none => 0
  let least := (max (parent + 1) 1).toNat
  let (indent, trailing, c) ← passIndent least (c.left + 1) given 0 [] c
  let (acc, leading, trailing, c) ←
    readBlockLines literal indent (c.left + 1) [] [] trailing false c
  let acc := if chomping = .strip then acc else leading ++ acc
  let acc := if chomping = .keep then trailing ++ acc else acc
  some (acc.reverse, c)

end ClusterAudit.Yaml
