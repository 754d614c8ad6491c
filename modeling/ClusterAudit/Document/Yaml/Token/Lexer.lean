import ClusterAudit.Document.Yaml.Token

/-!
# Reading the tokens of a YAML stream

`Token.ofText?` reads a whole stream. Indentation opens and closes blocks (`unroll`, `roll`). A key
without a question mark shows itself only by the colon after it: each place where one may begin is
kept (`KeyPlace`), one per level of brackets, and the key's token is put there when the colon is
met. Such a key ends on its line and within 1024 octets.
-/

namespace ClusterAudit.Yaml

/-- A place where a key may have begun. -/
structure KeyPlace where
  /-- How many tokens stand before it. -/
  number : Nat
  /-- Whether nothing but a key can stand there. -/
  required : Bool
  octets : Nat
  line : Nat
  column : Nat

/-- What has been read of a stream. -/
structure Lexer where
  cursor : Cursor
  tokens : Array Token
  /-- The column of the innermost block; none is open at −1. -/
  indent : Int
  /-- The columns of the blocks around it. -/
  outer : List Int
  /-- Whether a key may begin here. -/
  keyAllowed : Bool
  /-- Where a key may have begun at this level of brackets. -/
  place : Option KeyPlace
  /-- The same for the levels around it; empty outside all brackets. -/
  outerPlaces : List (Option KeyPlace)

namespace Lexer

/-- The start of a stream. -/
def start (s : List Char) : Lexer := ⟨.start s, #[], -1, [], true, none, []⟩

/-- Whether brackets are open. -/
def inFlow (l : Lexer) : Bool := !l.outerPlaces.isEmpty

/-- The lexer with one more token. -/
def push (l : Lexer) (t : Token) : Lexer := { l with tokens := l.tokens.push t }

/-- The lexer with a token put before the one of a number. -/
def insertAt (l : Lexer) (number : Nat) (t : Token) : Lexer :=
  { l with tokens := l.tokens.insertIdxIfInBounds number t }

/-- The lexer after a token of `n` characters. -/
def take (l : Lexer) (n : Nat) (t : Token) : Lexer :=
  { l.push t with cursor := l.cursor.skip n }

/-! ## Blocks -/

/-- Closes the blocks that are indented deeper than a column. -/
def closeBlocks (column : Int) (tokens : Array Token) :
    Int → List Int → Array Token × Int × List Int
  | indent, [] => (tokens, indent, [])
  | indent, next :: outer =>
    if column < indent then closeBlocks column (tokens.push .blockEnd) next outer
    else (tokens, indent, next :: outer)

/-- Closes blocks at a new column; inside brackets columns do not count. -/
def unroll (l : Lexer) (column : Int) : Lexer :=
  if l.inFlow then l
  else
    let (tokens, indent, outer) := closeBlocks column l.tokens l.indent l.outer
    { l with tokens := tokens, indent := indent, outer := outer }

/-- Opens a block at a column that is deeper, before the token of a number. -/
def roll (l : Lexer) (column : Nat) (number : Nat) (t : Token) : Lexer :=
  if l.inFlow || (column : Int) ≤ l.indent then l
  else { l.insertAt number t with indent := column, outer := l.indent :: l.outer }

/-! ## Places of keys -/

/-- Gives up the place of a key, unless only a key can stand there. -/
def dropPlace (l : Lexer) : Option Lexer :=
  if (l.place.map (·.required)).getD false then none else some { l with place := none }

/-- Keeps the cursor as a place where a key may begin. -/
def savePlace (l : Lexer) : Option Lexer :=
  if l.keyAllowed then do
    let c := l.cursor
    let required := !l.inFlow && l.indent = c.column
    some { ← l.dropPlace with place := some ⟨l.tokens.size, required, c.octets, c.line, c.column⟩ }
  else some l

/-- Whether the cursor is too far from a place for a key that began there. -/
def isStale (c : Cursor) (p : KeyPlace) : Bool := p.line < c.line || p.octets + 1024 < c.octets

/-- The place unless it is stale; a stale one must not be required. -/
def freshPlace (c : Cursor) : Option KeyPlace → Option (Option KeyPlace)
  | none => some none
  | some p => if isStale c p then if p.required then none else some none else some (some p)

/-- Gives up all stale places. -/
def dropStale (l : Lexer) : Option Lexer := do
  let place ← freshPlace l.cursor l.place
  let outerPlaces ← l.outerPlaces.mapM (freshPlace l.cursor)
  some { l with place := place, outerPlaces := outerPlaces }

/-! ## Tokens -/

/-- Passes blanks, comments and line ends, and a byte order mark that begins a line. A tab counts as
a blank only where no key may begin. -/
def passBlank : Nat → Lexer → Lexer
  | 0, l => l
  | fuel + 1, l =>
    let c := l.cursor
    let c := if c.column = 0 && c.rest.head? = some '\ufeff' then c.skip 1 else c
    let c := (c.span fun d => d = ' ' || (d = '\t' && (l.inFlow || !l.keyAllowed))).2
    let c := c.skipComment
    match c.rest with
    | d :: _ =>
      if isBreak d then
        passBlank fuel { l with cursor := c.readBreak.2, keyAllowed := l.keyAllowed || !l.inFlow }
      else { l with cursor := c }
    | [] => { l with cursor := c }

/-- Closes all blocks; no key may begin after it. -/
def closeAll (l : Lexer) : Option Lexer := do
  some { ← (l.unroll (-1)).dropPlace with keyAllowed := false }

/-- The end of the stream, which ends its last line too. -/
def finish (l : Lexer) : Option Lexer := do some ((← l.closeAll).push .streamEnd)

/-- A directive. -/
def readDirective (l : Lexer) : Option Lexer := do
  let l ← l.closeAll
  let (token, c) ← Token.readDirective l.cursor
  some { l.push token with cursor := c }

/-- The marker of a document's start or end. -/
def readMarker (l : Lexer) (t : Token) : Option Lexer := do some ((← l.closeAll).take 3 t)

/-- An opening bracket. -/
def openFlow (l : Lexer) (t : Token) : Option Lexer := do
  let l ← l.savePlace
  some { l.take 1 t with
    keyAllowed := true, place := none, outerPlaces := l.place :: l.outerPlaces }

/-- A closing bracket. -/
def closeFlow (l : Lexer) (t : Token) : Option Lexer := do
  let l ← l.dropPlace
  let l := { l.take 1 t with keyAllowed := false }
  match l.outerPlaces with
  | place :: outerPlaces => some { l with place := place, outerPlaces := outerPlaces }
  | [] => some l

/-- A comma between entries. -/
def readFlowEntry (l : Lexer) : Option Lexer := do
  some { (← l.dropPlace).take 1 .flowEntry with keyAllowed := true }

/-- Opens a block at the cursor, where one may begin only if a key may. -/
def openBlock (l : Lexer) (t : Token) : Option Lexer :=
  if l.inFlow then some l
  else if l.keyAllowed then some (l.roll l.cursor.column l.tokens.size t)
  else none

/-- The dash of a block entry. -/
def readBlockEntry (l : Lexer) : Option Lexer := do
  let l ← (← l.openBlock .blockSequence).dropPlace
  some { l.take 1 .blockEntry with keyAllowed := true }

/-- The question mark of a key. -/
def readKey (l : Lexer) : Option Lexer := do
  let l ← (← l.openBlock .blockMapping).dropPlace
  some { l.take 1 .key with keyAllowed := !l.inFlow }

/-- The colon of a value, which may show that a key has begun before. -/
def readValue (l : Lexer) : Option Lexer :=
  match l.place with
  | some p =>
    let l := (l.insertAt p.number .key).roll p.column p.number .blockMapping
    some { l.take 1 .value with place := none, keyAllowed := false }
  | none => do
    let l ← l.openBlock .blockMapping
    some { l.take 1 .value with keyAllowed := !l.inFlow }

/-- An anchor or an alias. -/
def readAnchor (l : Lexer) (t : List Char → Token) : Option Lexer := do
  let l ← l.savePlace
  let (name, c) ← Token.readAnchor l.cursor
  some { l.push (t name) with keyAllowed := false, cursor := c }

/-- A tag. -/
def readTag (l : Lexer) : Option Lexer := do
  let l ← l.savePlace
  let (token, c) ← Token.readTag l.inFlow l.cursor
  some { l.push token with keyAllowed := false, cursor := c }

/-- A block scalar; a key may begin after it. -/
def readBlock (l : Lexer) (literal : Bool) : Option Lexer := do
  let l ← l.dropPlace
  let (text, c) ← Yaml.readBlock literal l.indent (l.cursor.skip 1)
  some { l.push (.scalar .block text) with keyAllowed := true, cursor := c }

/-- A quoted scalar. -/
def readQuoted (l : Lexer) (single : Bool) : Option Lexer := do
  let l ← l.savePlace
  let c := l.cursor.skip 1
  let (text, c) ← Yaml.readQuoted single (c.left + 1) [] c
  some { l.push (.scalar .quoted text.reverse) with keyAllowed := false, cursor := c }

/-- A plain scalar; if it ends after its line, a key may begin there. -/
def readPlain (l : Lexer) : Option Lexer := do
  let l ← l.savePlace
  let (text, passed, c) ←
    Yaml.readPlain l.inFlow (l.indent + 1) (l.cursor.left + 1) [] .none l.cursor
  some { l.push (.scalar .plain text.reverse) with
    keyAllowed := passed.leading.isSome, cursor := c }

/-- Whether a character has a meaning of its own at the start of a token. -/
def isIndicator (d : Char) : Bool := "-?:,[]\x7b\x7d#&*!|>'\"%@`".toList.contains d

/-- Whether a plain scalar may start in front of the text. -/
def startsPlain (flow : Bool) : List Char → Bool
  | [] => false
  | d :: rest =>
    !(isBlank d || isBreak d || isIndicator d)
      || (d = '-' && !(rest.head?.map isBlank).getD false)
      || (!flow && (d = '?' || d = ':') && !atBlankOrEnd rest)

/-- The token in front, where nothing is left to pass over. -/
def readToken (l : Lexer) : Option Lexer :=
  let c := l.cursor
  match c.rest with
  | [] => l.finish
  | d :: rest =>
    let alone := l.inFlow || atBlankOrEnd rest
    if c.column = 0 && d = '%' then l.readDirective
    else if c.atMarker then l.readMarker (if d = '-' then .documentStart else .documentEnd)
    else if d = '[' then l.openFlow .flowSequence
    else if d = '\x7b' then l.openFlow .flowMapping
    else if d = ']' then l.closeFlow .flowSequenceEnd
    else if d = '\x7d' then l.closeFlow .flowMappingEnd
    else if d = ',' then l.readFlowEntry
    else if d = '-' && atBlankOrEnd rest then l.readBlockEntry
    else if d = '?' && alone then l.readKey
    else if d = ':' && alone then l.readValue
    else if d = '*' then l.readAnchor .alias
    else if d = '&' then l.readAnchor .anchor
    else if d = '!' then l.readTag
    else if d = '|' && !l.inFlow then l.readBlock true
    else if d = '>' && !l.inFlow then l.readBlock false
    else if d = '\'' then l.readQuoted true
    else if d = '"' then l.readQuoted false
    else if startsPlain l.inFlow c.rest then l.readPlain
    else none

/-- The next token after what is passed over. -/
def step (l : Lexer) : Option Lexer := do
  let l := l.passBlank (l.cursor.left + 1)
  let l ← l.dropStale
  (l.unroll l.cursor.column).readToken

/-- All tokens of the rest, the end of the stream included. -/
def run : Nat → Lexer → Option (List Token)
  | 0, _ => none
  | fuel + 1, l => do
    let l ← l.step
    if l.tokens.back? = some .streamEnd then some l.tokens.toList else run fuel l

end Lexer

/-- The tokens of a text, if it is well formed. -/
def Token.ofText? (s : String) : Option (List Token) :=
  let chars := s.toList
  if chars.all isAllowed then (Lexer.start chars).run (chars.length + 2) else none

end ClusterAudit.Yaml
