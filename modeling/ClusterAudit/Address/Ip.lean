import ClusterAudit.Text.Blank
import ClusterAudit.Text.Numeral
import ClusterAudit.Text.Split

/-!
# IP addresses

An address is a word of 32 or 128 bits. `Ip.parse?` reads the dotted form (four decimal numbers
without leading zeros) and the colon form (eight groups of up to four digits in base sixteen, one
run of zero groups left out as `::`, the last two groups perhaps dotted). `Ip.text` writes the
shortest form: the longest run of zero groups left out, the first one of equally long runs.
-/

namespace ClusterAudit

/-- An IP address of either family. -/
inductive Ip where
  | v4 (bits : BitVec 32)
  | v6 (bits : BitVec 128)
  deriving DecidableEq

namespace Ip

/-! ## Reading -/

/-- Leading digits of a base, at most `most`, and the rest. -/
def readNumber (base most : Nat) (zeroPadded : Bool) (s : List Char) :
    Option (Nat × List Char) :=
  let isDigit (c : Char) : Bool := ((Text.hexDigit? c).map (decide <| · < base)).getD false
  let digits := s.takeWhile isDigit
  if digits.length > most || (!zeroPadded && digits.length > 1 && digits.head? = some '0') then none
  else (Text.number? base digits).map (·, s.dropWhile isDigit)

/-- A number of a dotted address: at most 255, no leading zero. -/
def readOctet (s : List Char) : Option (Nat × List Char) :=
  (readNumber 10 3 false s).filter (·.1 < 256)

/-- The rest after a given character. -/
def dropChar (c : Char) : List Char → Option (List Char)
  | d :: rest => if d = c then some rest else none
  | [] => none

/-- Four numbers with dots between them. -/
def readDotted (s : List Char) : Option (BitVec 32 × List Char) := do
  let (a, s) ← readOctet s
  let (b, s) ← readOctet (← dropChar '.' s)
  let (c, s) ← readOctet (← dropChar '.' s)
  let (d, s) ← readOctet (← dropChar '.' s)
  some (BitVec.ofNat 32 (((a * 256 + b) * 256 + c) * 256 + d), s)

/-- The two groups a dotted address makes. -/
def groupsOfDotted (a : BitVec 32) : List Nat := [a.toNat / 65536, a.toNat % 65536]

/-- What stands after the colon that separates groups; the first group needs none. -/
def dropSeparator (first : Bool) (s : List Char) : Option (List Char) :=
  if first then some s else dropChar ':' s

/-- Up to `limit` groups with colons between them; whether a dotted address ended them; the rest. -/
def readGroups : Nat → Bool → List Char → List Nat × Bool × List Char
  | 0, _, s => ([], false, s)
  | limit + 1, first, s =>
    let dotted := if limit = 0 then none else (dropSeparator first s).bind readDotted
    match dotted with
    | some (a, rest) => (groupsOfDotted a, true, rest)
    | none =>
      match (dropSeparator first s).bind (readNumber 16 4 true) with
      | some (g, rest) =>
        let (gs, ended, rest) := readGroups limit false rest
        (g :: gs, ended, rest)
      | none => ([], false, s)

/-- The word that eight groups make. -/
def ofGroups (groups : List Nat) : BitVec 128 :=
  BitVec.ofNat 128 (groups.foldl (fun n g => n * 65536 + g) 0)

/-- A colon form and the rest. -/
def readColons (s : List Char) : Option (BitVec 128 × List Char) := do
  let (head, dotted, s) := readGroups 8 true s
  if head.length = 8 then some (ofGroups head, s)
  else if dotted then none
  else
    let s ← dropChar ':' (← dropChar ':' s)
    let (tail, _, s) := readGroups (7 - head.length) true s
    some (ofGroups (head ++ List.replicate (8 - head.length - tail.length) 0 ++ tail), s)

/-- The address that a list of characters spells in full. -/
def parseList? (s : List Char) : Option Ip :=
  let (ip, rest) := match readDotted s with
    | some (a, rest) => (some (v4 a), rest)
    | none => match readColons s with
      | some (a, rest) => (some (v6 a), rest)
      | none => (none, s)
  if rest.isEmpty then ip else none

/-- The address a text spells; blanks are not allowed. -/
def parse? (s : String) : Option Ip := parseList? s.toList

/-! ## Writing -/

/-- The dotted form. -/
def dottedText (a : BitVec 32) : String :=
  let n := a.toNat
  ".".intercalate [toString (n >>> 24), toString (n >>> 16 % 256), toString (n >>> 8 % 256),
    toString (n % 256)]

/-- The eight groups of a word. -/
def groups (a : BitVec 128) : List Nat :=
  (List.range 8).map fun i => a.toNat >>> (16 * (7 - i)) % 65536

/-- The start and length of the longest run of zeros, the first one of equally long runs. -/
def longestZeros (groups : List Nat) : Nat × Nat :=
  let runAt (i : Nat) : Nat := ((groups.drop i).takeWhile (· = 0)).length
  (List.range groups.length).foldl
    (fun best i => if best.2 < runAt i then (i, runAt i) else best) (0, 0)

/-- Groups in base sixteen with colons between them. -/
def groupsText (groups : List Nat) : String :=
  ":".intercalate (groups.map fun g => String.ofList (Nat.toDigits 16 g))

/-- The text of an address; an embedded dotted address is written with dots after `::ffff:`. -/
def text : Ip → String
  | v4 a => dottedText a
  | v6 a =>
    let gs := groups a
    if a.toNat >>> 32 = 0xFFFF then "::ffff:" ++ dottedText (BitVec.ofNat 32 a.toNat)
    else
      let (start, length) := longestZeros gs
      if 1 < length then
        groupsText (gs.take start) ++ "::" ++ groupsText (gs.drop (start + length))
      else groupsText gs

end Ip

end ClusterAudit
