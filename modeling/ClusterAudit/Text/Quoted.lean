import ClusterAudit.Text.Category

/-!
# Quoted text

A text in double quotes that shows every character: quotes and backslashes are escaped, and so is
what has no appearance of its own or changes the appearance of its neighbour.
-/

namespace ClusterAudit.Text

/-- Characters with a width of their own that still belong to the character before them. -/
def spacingExtenders : List String :=
  ["9BE 9D7 B3E B57 BBE BD7 CC0 CC2 CC7-CC8 CCA-CCB CD5-CD6 D3E D57 DCF DDF 1715 1734 1B35 1B3B",
   "1B3D 1B43-1B44 1BAA 1BF2-1BF3 302E-302F A953 A9C0 111C0 11235 1133E 1134D 11357 113B8 113C2",
   "113C5 113C7-113C9 113CF 114B0 114BD 115AF 116B6 11930 1193D 11F41 16FF0-16FF1 1D165-1D166",
   "1D16D-1D172"]

/-- Letters that fill a place and are not seen. -/
def fillers : List String := ["115F-1160 3164 FFA0"]

/-- The ranges of `spacingExtenders`. -/
def spacingExtenderRanges : Ranges Unit := .ofLines spacingExtenders

/-- The ranges of `fillers`. -/
def fillerRanges : Ranges Unit := .ofLines fillers

/-- Whether a character can be shown as it is. -/
def isShowable (c : Char) : Bool :=
  let g := Category.of c
  c = ' ' || !(g.group = 'C' || g.group = 'Z' || g = ⟨'M', 'n'⟩ || g = ⟨'M', 'e'⟩
    || spacingExtenderRanges.contains c || fillerRanges.contains c)

/-- A character as it is shown between double quotes. -/
def showChar (c : Char) : List Char :=
  match c with
  | '\x00' => ['\\', '0']
  | '\t' => ['\\', 't']
  | '\r' => ['\\', 'r']
  | '\n' => ['\\', 'n']
  | '"' => ['\\', '"']
  | '\\' => ['\\', '\\']
  | c =>
    if isShowable c then [c]
    else ['\\', 'u', '\x7b'] ++ Nat.toDigits 16 c.toNat ++ ['\x7d']

/-- A text in double quotes. -/
def quoted (s : String) : String := String.ofList ('"' :: s.toList.flatMap showChar ++ ['"'])

end ClusterAudit.Text
