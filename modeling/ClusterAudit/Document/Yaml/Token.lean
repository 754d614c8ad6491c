import ClusterAudit.Document.Yaml.Scalar

/-!
# Tokens of YAML

The tokens of a stream, and how those are read that stand alone on their characters: anchors,
aliases, tags and directives. A tag is a handle and a suffix; a verbatim tag has an empty handle.
-/

namespace ClusterAudit.Yaml

/-- A token of a YAML stream. -/
inductive Token where
  /-- A version directive. -/
  | version (major minor : Nat)
  /-- A directive that lets a handle stand for the start of a tag. -/
  | tagHandle (name stem : List Char)
  | documentStart
  | documentEnd
  | blockSequence
  | blockMapping
  | blockEnd
  | flowSequence
  | flowSequenceEnd
  | flowMapping
  | flowMappingEnd
  | blockEntry
  | flowEntry
  | key
  | value
  | alias (name : List Char)
  | anchor (name : List Char)
  | tag (handle suffix : List Char)
  | scalar (style : Style) (text : List Char)
  | streamEnd
  deriving DecidableEq

namespace Token

/-- Whether a character may follow the name of an anchor. -/
def mayFollowAnchor : List Char → Bool
  | d :: rest => "?:,]\x7d%@`".toList.contains d || atBlankOrEnd (d :: rest)
  | [] => true

/-- The name after the sign of an anchor or alias. -/
def readAnchor (c : Cursor) : Option (List Char × Cursor) :=
  let (name, c) := (c.skip 1).span isNameChar
  if name.isEmpty || !mayFollowAnchor c.rest then none else some (name, c)

/-! ## Tags -/

/-- The octet that two digits of base sixteen spell. -/
def readOctet : List Char → Option Nat
  | a :: b :: _ => do some ((← Text.hexDigit? a) * 16 + (← Text.hexDigit? b))
  | _ => none

/-- How many octets follow the first octet of a character. -/
def octetsAfter (first : Nat) : Option Nat :=
  if first < 0x80 then some 0
  else if 0xC0 ≤ first && first < 0xE0 then some 1
  else if 0xE0 ≤ first && first < 0xF0 then some 2
  else if 0xF0 ≤ first && first < 0xF8 then some 3
  else none

/-- The escaped octets that continue a character, reversed onto `acc`. -/
def readOctets : Nat → List Char → Cursor → Option (List Char × Cursor)
  | 0, acc, c => some (acc, c)
  | n + 1, acc, c => match c.rest with
    | '%' :: rest => do
      let octet ← readOctet rest
      if 0x80 ≤ octet && octet < 0xC0 then
        readOctets n (Char.ofNat octet :: acc) (c.skip 3)
      else none
    | _ => none

/-- Whether a character may stand in a tag; brackets and commas only in a verbatim one. -/
def isTagChar (verbatim : Bool) (d : Char) : Bool :=
  isNameChar d || ";/?:@&=+$.!~*'()".toList.contains d || (verbatim && ",[]".toList.contains d)

/-- The characters of a tag, reversed onto `acc`; escaped octets stand for themselves. -/
def readTagChars (verbatim : Bool) : Nat → List Char → Cursor → Option (List Char × Cursor)
  | 0, acc, c => some (acc, c)
  | fuel + 1, acc, c => match c.rest with
    | '%' :: rest => do
      let first ← readOctet rest
      let (acc, c) ← readOctets (← octetsAfter first) (Char.ofNat first :: acc) (c.skip 3)
      readTagChars verbatim fuel acc c
    | d :: _ =>
      if isTagChar verbatim d then readTagChars verbatim fuel (d :: acc) (c.skip 1)
      else some (acc, c)
    | [] => some (acc, c)

/-- The text of a tag after what has been read of it; the whole must not be empty. -/
def readTagText (verbatim : Bool) (read : List Char) (c : Cursor) :
    Option (List Char × Cursor) := do
  let (acc, next) ← readTagChars verbatim (c.left + 1) [] c
  if read.isEmpty && acc.isEmpty then none else some (read.drop 1 ++ acc.reverse, next)

/-- A handle: an exclamation mark, and a name with a second one if they stand there. -/
def readHandle (c : Cursor) : Option (List Char × Cursor) :=
  match c.rest with
  | '!' :: _ =>
    let (name, c) := (c.skip 1).span isNameChar
    match c.rest with
    | '!' :: _ => some ('!' :: name ++ ['!'], c.skip 1)
    | _ => some ('!' :: name, c)
  | _ => none

/-- Whether the characters are a handle that is closed by a second exclamation mark. -/
def isClosedHandle (handle : List Char) : Bool :=
  2 ≤ handle.length && handle.getLast? = some '!'

/-- The handle and suffix of the tag in front. -/
def readTagParts (c : Cursor) : Option (List Char × List Char × Cursor) :=
  match c.rest with
  | '!' :: '<' :: _ => do
    let (suffix, c) ← readTagText true [] (c.skip 2)
    if c.rest.head? = some '>' then some ([], suffix, c.skip 1) else none
  | _ => do
    let (handle, c) ← readHandle c
    if isClosedHandle handle then
      let (suffix, c) ← readTagText false [] c
      some (handle, suffix, c)
    else
      let (suffix, c) ← readTagText false handle c
      if suffix.isEmpty then some ([], ['!'], c) else some (['!'], suffix, c)

/-- The tag in front; a blank, a line end or, inside brackets, a comma must follow it. -/
def readTag (flow : Bool) (c : Cursor) : Option (Token × Cursor) := do
  let (handle, suffix, c) ← readTagParts c
  if (flow && c.rest.head? = some ',') || atBlankOrEnd c.rest then
    some (.tag handle suffix, c)
  else none

/-! ## Directives -/

/-- A number of a version, of at most nine digits. -/
def readVersionNumber (c : Cursor) : Option (Nat × Cursor) := do
  let (digits, c) := c.span Char.isDigit
  if digits.length ≤ 9 then some (← Text.number? 10 digits, c) else none

/-- The rest of a version directive after its name. -/
def readVersion (c : Cursor) : Option (Token × Cursor) := do
  let (major, c) ← readVersionNumber c.skipBlanks
  if c.rest.head? = some '.' then
    let (minor, c) ← readVersionNumber (c.skip 1)
    some (.version major minor, c)
  else none

/-- The rest of a handle directive after its name. -/
def readHandleDirective (c : Cursor) : Option (Token × Cursor) := do
  let (name, c) ← readHandle c.skipBlanks
  if name.length ≠ 1 && !isClosedHandle name then none
  if !(c.rest.head?.map isBlank).getD false then none
  let (stem, c) ← readTagText true [] c.skipBlanks
  if atBlankOrEnd c.rest then some (.tagHandle name stem, c) else none

/-- The directive in front, up to the end of its line. -/
def readDirective (c : Cursor) : Option (Token × Cursor) := do
  let (name, c) := (c.skip 1).span isNameChar
  if !atBlankOrEnd c.rest then none
  let (token, c) ← match String.ofList name with
    | "YAML" => readVersion c
    | "TAG" => readHandleDirective c
    | _ => none
  some (token, ← c.finishLine?)

end Token

end ClusterAudit.Yaml
