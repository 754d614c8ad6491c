import ClusterAudit.Text.Case.Table
import ClusterAudit.Text.Category

/-!
# Case

Two code points are case variants when their simple case foldings agree (`variants`). Lowercasing a
text maps each character on its own, except that a capital dotted I gains a combining dot and a
capital sigma at the end of a word becomes the final small sigma.
-/

namespace ClusterAudit.Text

/-- The code points a run maps, each with what it is mapped to. -/
def pairsOfRun (token : List Char) : List (Nat × Nat) :=
  match pieces ':' token with
  | [first, count, step, shift] =>
    match number? 16 first, number? 10 count, number? 10 step with
    | some first, some count, some step =>
      let distance : Int := match shift with
        | '-' :: digits => -((number? 10 digits).getD 0 : Nat)
        | digits => ((number? 10 digits).getD 0 : Nat)
      (List.range count).map fun i =>
        (first + i * step, ((first + i * step : Nat) + distance).toNat)
    | _, _, _ => []
  | _ => []

/-- The pairs of a table of runs, by ascending code point. -/
def pairsOfRuns (lines : List String) : List (Nat × Nat) :=
  lines.flatMap fun line => (pieces ' ' line.toList).flatMap pairsOfRun

/-- The pairs of a list by their second parts: each second part with the first parts beside it. The
pairs are in the order of their second parts. -/
def gather : List (Nat × Nat) → List (Nat × List Nat)
  | [] => []
  | (n, target) :: rest =>
    match gather rest with
    | (t, ns) :: more =>
      if t = target then (t, n :: ns) :: more else (target, [n]) :: (t, ns) :: more
    | [] => [(target, [n])]

/-- The code points that have case variants, each with its variants. -/
def variantTable : Ranges (List Nat) :=
  let byTarget := (pairsOfRuns foldRuns).mergeSort fun a b => a.2 ≤ b.2
  let kinds := (gather byTarget).map fun k => k.1 :: k.2
  let entries := kinds.flatMap fun kind => kind.map fun n => (n, n, kind.filter (· ≠ n))
  (entries.mergeSort fun a b => a.1 ≤ b.1).toArray

/-- The case variants of a code point. -/
def variants (n : Nat) : List Nat := (variantTable.find? n).getD []

/-- What code points are lowercased to. -/
def lowerTable : Ranges Nat := ((pairsOfRuns lowerRuns).map fun (c, l) => (c, c, l)).toArray

/-- Whether all characters of a category are passed over when the end of a word is looked for. -/
def Category.isCaseIgnorable (g : Category) : Bool :=
  g = ⟨'M', 'n'⟩ || g = ⟨'M', 'e'⟩ || g = ⟨'C', 'f'⟩ || g = ⟨'L', 'm'⟩ || g = ⟨'S', 'k'⟩

/-- The punctuation within words, which is passed over too. -/
def innerPunctuation : List Char :=
  ['\'', '.', ':', '\u00b7', '\u0387', '\u055f', '\u05f4', '\u2018', '\u2019', '\u2024', '\u2027',
    '\ufe13', '\ufe52', '\ufe55', '\uff07', '\uff0e', '\uff1a']

/-- Whether a character is passed over when the end of a word is looked for. -/
def isCaseIgnorable (c : Char) : Bool :=
  (Category.of c).isCaseIgnorable || innerPunctuation.contains c

/-- Whether a character has case. -/
def isCased (c : Char) : Bool := isLowercase c || isUppercase c || Category.of c = ⟨'L', 't'⟩

/-- Whether the nearest character that is not passed over has case. -/
def touchesCased (s : List Char) : Bool :=
  match s.dropWhile isCaseIgnorable with
  | c :: _ => isCased c
  | [] => false

/-- The lowercase form of a list of characters; `before` holds what precedes it, reversed. -/
def lowerList (before : List Char) : List Char → List Char
  | [] => []
  | c :: rest =>
    let here :=
      if c = 'Σ' then
        [if touchesCased before && !touchesCased rest then 'ς' else 'σ']
      else if c = 'İ' then ['i', '\u0307']
      else [Char.ofNat ((lowerTable.find? c.toNat).getD c.toNat)]
    here ++ lowerList (c :: before) rest

/-- The lowercase form of a text. -/
def lower (s : String) : String := String.ofList (lowerList [] s.toList)

end ClusterAudit.Text
