import ClusterAudit.Pattern.Property.Derived
import ClusterAudit.Text.Age
import ClusterAudit.Text.Script

/-!
# Sets of characters by name

The properties as patterns name them: `propertySet?` finds the set a name denotes, or a name and a
value. Names are compared loosely, without regard to case and separators (`looseName`).
-/

namespace ClusterAudit.Pattern

open Text

/-- A name as it is looked up: lower case, without separators and a leading `is`. The short name
`isc` keeps its `is`, as it would be the one of another property without. -/
def looseName (name : String) : String :=
  let chars := name.toList
  let (isLed, chars) := match chars with
    | a :: b :: rest => if a.toLower = 'i' && b.toLower = 's' then (true, rest) else (false, chars)
    | _ => (false, chars)
  let kept := String.ofList ((chars.filter fun c =>
    c.toNat < 0x80 && c ≠ ' ' && c ≠ '_' && c ≠ '-').map Char.toLower)
  if isLed && kept = "c" then "isc" else kept

/-- The names of general categories, each with its group and, for a single category, its kind. -/
def categoryNames : List (List String × Char × Option Char) :=
  [(["l", "letter"], 'L', none), (["lu", "uppercaseletter"], 'L', some 'u'),
   (["ll", "lowercaseletter"], 'L', some 'l'), (["lt", "titlecaseletter"], 'L', some 't'),
   (["lm", "modifierletter"], 'L', some 'm'), (["lo", "otherletter"], 'L', some 'o'),
   (["m", "mark", "combiningmark"], 'M', none), (["mn", "nonspacingmark"], 'M', some 'n'),
   (["mc", "spacingmark"], 'M', some 'c'), (["me", "enclosingmark"], 'M', some 'e'),
   (["n", "number"], 'N', none), (["nd", "decimalnumber", "digit"], 'N', some 'd'),
   (["nl", "letternumber"], 'N', some 'l'), (["no", "othernumber"], 'N', some 'o'),
   (["p", "punctuation", "punct"], 'P', none), (["pc", "connectorpunctuation"], 'P', some 'c'),
   (["pd", "dashpunctuation"], 'P', some 'd'), (["ps", "openpunctuation"], 'P', some 's'),
   (["pe", "closepunctuation"], 'P', some 'e'), (["pi", "initialpunctuation"], 'P', some 'i'),
   (["pf", "finalpunctuation"], 'P', some 'f'), (["po", "otherpunctuation"], 'P', some 'o'),
   (["s", "symbol"], 'S', none), (["sm", "mathsymbol"], 'S', some 'm'),
   (["sc", "currencysymbol"], 'S', some 'c'), (["sk", "modifiersymbol"], 'S', some 'k'),
   (["so", "othersymbol"], 'S', some 'o'), (["z", "separator"], 'Z', none),
   (["zs", "spaceseparator"], 'Z', some 's'), (["zl", "lineseparator"], 'Z', some 'l'),
   (["zp", "paragraphseparator"], 'Z', some 'p'), (["c", "other"], 'C', none),
   (["cc", "control", "cntrl"], 'C', some 'c'), (["cf", "format"], 'C', some 'f'),
   (["co", "privateuse"], 'C', some 'o'), (["cn", "unassigned"], 'C', some 'n')]

/-- The general category a loose name denotes. -/
def categorySet? (name : String) : Option CharSet :=
  match name with
  | "any" => some .all
  | "ascii" => some (.ascii fun _ => true)
  | "assigned" => some (CharSet.ofCategories (· = .unassigned)).complement
  | "lc" | "casedletter" =>
    some (.ofCategories fun g => g.group = 'L' && ['u', 'l', 't'].contains g.kind)
  | name =>
    (categoryNames.find? (·.1.contains name)).map fun (_, group, kind) =>
      .ofCategories fun g => g.group = group && (kind.map (· == g.kind)).getD true

/-- The script a loose name denotes. -/
def scriptSet? (name : String) : Option CharSet :=
  (scriptRanges.find? (·.1.contains name)).map fun e => .ofTokens e.2

/-- The characters that are used in the script a loose name denotes. -/
def scriptUseSet? (name : String) : Option CharSet :=
  (scriptRanges.find? (·.1.contains name)).map fun (names, lines) =>
    let shared : List (Bool × CharSet) := sharedRanges.map fun (users, lines) =>
      (users.any names.contains, .ofTokens lines)
    let own := (CharSet.ofTokens lines).diff (.unions (shared.map (·.2)))
    own.union (.unions ((shared.filter (·.1)).map (·.2)))

/-- The characters that the standard had at the version a loose name denotes. -/
def ageSet? (name : String) : Option CharSet :=
  let isNamed (version : String) : Bool := version = name || "v" ++ version.replace "." "" = name
  if ageRanges.any (isNamed ·.1) then
    let older := (ageRanges.takeWhile fun e => !isNamed e.1) ++ ageRanges.filter (isNamed ·.1)
    some (.unions (older.map fun e => .ofTokens e.2))
  else none

/-- The property without values that a loose name denotes. -/
def derivedSet? (name : String) : Option CharSet :=
  match name with
  | "alphabetic" | "alpha" => some .alphabetic
  | "lowercase" | "lower" => some .lowercase
  | "uppercase" | "upper" => some .uppercase
  | "whitespace" | "wspace" | "space" => some .blank
  | "asciihexdigit" | "ahex" => some .asciiHexDigit
  | "cased" => some .cased
  | "caseignorable" | "ci" => some .caseIgnorable
  | "changeswhenlowercased" | "cwl" => some .changesWhenLowercased
  | "changeswhenuppercased" | "cwu" => some .changesWhenUppercased
  | "changeswhentitlecased" | "cwt" => some .changesWhenTitlecased
  | "changeswhencasemapped" | "cwcm" => some .changesWhenCasemapped
  | "changeswhencasefolded" | "cwcf" => some .changesWhenCasefolded
  | "graphemeextend" | "grext" => some .graphemeExtend
  | "graphemebase" | "grbase" => some .graphemeBase
  | "idstart" | "ids" => some .idStart
  | "idcontinue" | "idc" => some .idContinue
  | "xidstart" | "xids" => some .stableIdStart
  | "xidcontinue" | "xidc" => some .stableIdContinue
  | "math" => some .math
  | _ => none

/-- The set a loose name denotes by itself: a property, else a general category, else a script. -/
def namedSet? (name : String) : Option CharSet :=
  derivedSet? name <|> CharSet.ofTable? name <|> categorySet? name <|> scriptSet? name

/-- The set a property denotes, by its name alone or by a name and a value. -/
def propertySet? (name : String) (value : Option String) : Option CharSet :=
  match value with
  | none => namedSet? (looseName name)
  | some value =>
    let value := looseName value
    match looseName name with
    | "generalcategory" | "gc" => categorySet? value
    | "script" | "sc" => scriptSet? value
    | "scriptextensions" | "scx" => scriptUseSet? value
    | "age" => ageSet? value
    | _ => none

end ClusterAudit.Pattern
