import ClusterAudit.Pattern.Property
import ClusterAudit.Text.Case
import ClusterAudit.Text.Property.Table
import ClusterAudit.Text.Quoted

/-!
# Derived properties

The properties that follow from general categories, from case mappings and from a few exceptions:
what case mappings change, what extends the character before it, and what identifiers are made of.
-/

namespace ClusterAudit.Pattern

open Text

namespace CharSet

/-- The code points that tokens spell. -/
def ofTokens (lines : List String) : CharSet := ofRanges (.ofLines lines)

/-- The property of the table with a loose name. -/
def ofTable? (name : String) : Option CharSet :=
  (propertyRanges.find? (·.1.contains name)).map fun e => ofTokens e.2

/-! ## Case -/

/-- The characters that have case. -/
def cased : CharSet := unions [lowercase, uppercase, ofCategories (· = ⟨'L', 't'⟩)]

/-- The characters that are passed over when the end of a word is looked for. -/
def caseIgnorable : CharSet :=
  (ofCategories Category.isCaseIgnorable).union (ofCodes (innerPunctuation.map Char.toNat))

/-- The characters that lowercasing changes. -/
def changesWhenLowercased : CharSet :=
  ((ofCodes ((pairsOfRuns lowerRuns).map (·.1))).union (ofCodes [0x130])).diff recent

/-- The characters that uppercasing changes: what capitals are lowercased to, and those that share
their capital with such a letter or become several capitals. -/
def changesWhenUppercased : CharSet :=
  ((ofCodes ((pairsOfRuns lowerRuns).map (·.2))).union <| ofTokens
    ["B5 DF 131 149 17F 1C5 1C8 1CB 1F0 1F2 345 390 3B0 3C2 3D0-3D1 3D5-3D6 3F0-3F1 3F5 587",
     "1C80-1C88 1E96-1E9B 1F50 1F52 1F54 1F56 1F80-1FAF 1FB2-1FB4 1FB6-1FB7 1FBC 1FBE 1FC2-1FC4",
     "1FC6-1FC7 1FCC 1FD2-1FD3 1FD6-1FD7 1FE2-1FE4 1FE6-1FE7 1FF2-1FF4 1FF6-1FF7 1FFC FB00-FB06",
     "FB13-FB17"]).diff (recent.union (ofTokens ["A7D3 A7D5"]))

/-- The characters that a change to title case changes: of those that uppercasing changes, all but
the ones in title case and the Georgian letters; and the capital digraphs. -/
def changesWhenTitlecased : CharSet :=
  (changesWhenUppercased.diff <| ofTokens
    ["1C5 1C8 1CB 1F2 10D0-10FA 10FD-10FF 1F88-1F8F 1F98-1F9F 1FA8-1FAF 1FBC 1FCC 1FFC"]).union
    (ofTokens ["1C4 1C7 1CA 1F1"])

/-- The characters that some case mapping changes. -/
def changesWhenCasemapped : CharSet :=
  unions [changesWhenLowercased, changesWhenUppercased, changesWhenTitlecased]

/-- The characters that case folding changes, those with a folding of several characters included.
-/
def changesWhenCasefolded : CharSet :=
  (((ofCodes ((pairsOfRuns foldRuns).map (·.1))).diff (ofTokens ["1FD3 1FE3"])).union <| ofTokens
    ["DF 130 149 587 1E9A 1F80-1F87 1F90-1F97 1FA0-1FA7 1FB2-1FB4 1FB7 1FC2-1FC4 1FC7 1FF2-1FF4",
     "1FF7 FB00-FB04 FB06 FB13-FB17"]).diff recent

/-! ## Graphemes -/

/-- The characters that extend the character before them. -/
def graphemeExtend : CharSet :=
  unions [ofCategories fun g => g = ⟨'M', 'n'⟩ || g = ⟨'M', 'e'⟩,
    ofRanges spacingExtenderRanges, ofTokens ["200C FF9E-FF9F E0020-E007F"]]

/-- The characters that stand on their own. -/
def graphemeBase : CharSet :=
  let other := ofCategories fun g => g.group = 'C' || g = ⟨'Z', 'l'⟩ || g = ⟨'Z', 'p'⟩
  (other.union graphemeExtend).complement

/-! ## Identifiers -/

/-- The characters that begin identifiers. -/
def idStart : CharSet :=
  ((ofCategories fun g => g.group = 'L' || g = ⟨'N', 'l'⟩).union
    (ofTokens ["1885-1886 2118 212E 309B-309C"])).diff (ofTokens ["2E2F"])

/-- The characters that go on with identifiers. -/
def idContinue : CharSet :=
  unions [idStart,
    ofCategories fun g => [⟨'M', 'n'⟩, ⟨'M', 'c'⟩, ⟨'N', 'd'⟩, ⟨'P', 'c'⟩].contains g,
    ofTokens ["B7 387 1369-1371 19DA 200C-200D 30FB FF65"]]

/-- The characters whose compatibility forms begin with a space or a mark. -/
def unstable : CharSet :=
  ofTokens ["37A 309B-309C FC5E-FC63 FDFA-FDFB FE70 FE72 FE74 FE76 FE78 FE7A FE7C FE7E"]

/-- The characters that begin identifiers whatever the normal form. -/
def stableIdStart : CharSet :=
  idStart.diff (unstable.union (ofTokens ["E33 EB3 FF9E-FF9F"]))

/-- The characters that go on with identifiers whatever the normal form. -/
def stableIdContinue : CharSet := idContinue.diff unstable

/-! ## Symbols -/

/-- The characters of mathematics. -/
def math : CharSet :=
  (ofCategories (· = ⟨'S', 'm'⟩)).union ((ofTable? "othermath").getD empty)

/-- The hexadecimal digits within ASCII. -/
def asciiHexDigit : CharSet := ascii fun c => (hexDigit? c).isSome

end CharSet

end ClusterAudit.Pattern
