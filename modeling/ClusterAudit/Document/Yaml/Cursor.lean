import ClusterAudit.Text.Numeral
import ClusterAudit.Text.Surrogate

/-!
# Positions in a YAML text

A `Cursor` is the rest of a text with the place it stands at. Lines end at a line feed, a carriage
return, both together, a next-line character, or a line or paragraph separator; all but the
separators are read as a line feed.
-/

namespace ClusterAudit.Yaml

/-- The rest of a text and its place. -/
structure Cursor where
  rest : List Char
  /-- How many characters are left. -/
  left : Nat
  /-- How many octets of the encoded text stand before it. -/
  octets : Nat
  line : Nat
  column : Nat
  left_eq : left = rest.length

/-- Whether a character is a space or a tab. -/
def isBlank (c : Char) : Bool := c = ' ' || c = '\t'

/-- Whether a character ends a line. -/
def isBreak (c : Char) : Bool :=
  c = '\n' || c = '\r' || c = '\u0085' || c = '\u2028' || c = '\u2029'

/-- Whether the text ends or a blank or line end stands in front. -/
def atBlankOrEnd : List Char → Bool
  | [] => true
  | c :: _ => isBlank c || isBreak c

/-- Whether the text or the line ends. -/
def atLineEnd : List Char → Bool
  | [] => true
  | c :: _ => isBreak c

/-- Whether a character may stand in the name of an anchor or a directive. -/
def isNameChar (c : Char) : Bool := c.isAlphanum || c = '_' || c = '-'

/-- Whether a character may stand in a YAML text at all. -/
def isAllowed (c : Char) : Bool :=
  let n := c.toNat
  n = 0x09 || n = 0x0A || n = 0x0D || (0x20 ≤ n && n ≤ 0x7E) || n = 0x85
    || (0xA0 ≤ n && n ≤ 0xD7FF) || (0xE000 ≤ n && n ≤ 0xFFFD) || 0x10000 ≤ n

namespace Cursor

/-- The start of a text. -/
def start (s : List Char) : Cursor := ⟨s, s.length, 0, 0, 0, rfl⟩

/-- How many octets some characters are encoded in. -/
def octetsOf (s : List Char) : Nat := s.foldl (fun n c => n + c.utf8Size) 0

/-- The cursor after `n` characters of its line. -/
def skip (c : Cursor) (n : Nat) : Cursor :=
  { c with
    rest := c.rest.drop n
    left := c.left - n
    octets := c.octets + octetsOf (c.rest.take n)
    column := c.column + n
    left_eq := by rw [List.length_drop, c.left_eq] }

/-- The characters in front that satisfy `p`, none of them a line end, and the cursor after them. -/
def span (c : Cursor) (p : Char → Bool) : List Char × Cursor :=
  let taken := c.rest.takeWhile fun d => p d && !isBreak d
  (taken, c.skip taken.length)

/-- The line end in front, as it is read, and the cursor after it. -/
def readBreak (c : Cursor) : List Char × Cursor :=
  let after (n : Nat) : Cursor := { c.skip n with line := c.line + 1, column := 0 }
  match c.rest with
  | '\r' :: '\n' :: _ => (['\n'], after 2)
  | '\u2028' :: _ => (['\u2028'], after 1)
  | '\u2029' :: _ => (['\u2029'], after 1)
  | d :: _ => if isBreak d then (['\n'], after 1) else ([], c)
  | [] => ([], c)

/-- The cursor after blanks. -/
def skipBlanks (c : Cursor) : Cursor := (c.span isBlank).2

/-- The cursor after a comment, if one stands in front. -/
def skipComment (c : Cursor) : Cursor :=
  match c.rest with
  | '#' :: _ => (c.span fun _ => true).2
  | _ => c

/-- Whether a document marker, three characters alone, stands at the start of a line. -/
def atMarker (c : Cursor) : Bool :=
  c.column = 0 && match c.rest with
    | '-' :: '-' :: '-' :: rest => atBlankOrEnd rest
    | '.' :: '.' :: '.' :: rest => atBlankOrEnd rest
    | _ => false

/-- The cursor after blanks, a comment and the line end; nothing else may stand on the line. -/
def finishLine? (c : Cursor) : Option Cursor :=
  let c := c.skipBlanks.skipComment
  if atLineEnd c.rest then some c.readBreak.2 else none

end Cursor

end ClusterAudit.Yaml
