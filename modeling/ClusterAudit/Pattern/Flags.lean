import ClusterAudit.Pattern.Class
import ClusterAudit.Pattern.Tree

/-!
# Applying flags

`Syntax.tree?` gives what was written its meaning: classes get their members and anchors their
conditions. A flag set inside a group holds up to the end of that group, across its branches.
-/

namespace ClusterAudit.Pattern

/-- The flags in force. -/
structure Flags where
  caseless : Bool := false
  multiLine : Bool := false
  dotAll : Bool := false
  swapGreed : Bool := false
  unicode : Bool := true
  crlf : Bool := false

namespace Flags

/-- The flags after one change. -/
def set (f : Flags) : Flag × Bool → Flags
  | (.caseless, b) => { f with caseless := b }
  | (.multiLine, b) => { f with multiLine := b }
  | (.dotAll, b) => { f with dotAll := b }
  | (.swapGreed, b) => { f with swapGreed := b }
  | (.unicode, b) => { f with unicode := b }
  | (.crlf, b) => { f with crlf := b }
  | (.extended, _) => f

/-- The flags after some changes. -/
def apply (f : Flags) (changes : FlagChanges) : Flags := changes.foldl set f

/-- What classes depend on. -/
def classMode (f : Flags) : ClassMode := ⟨f.caseless, f.unicode⟩

/-- The characters that end a line. -/
def lineEnds (f : Flags) : CharSet := .ofCodes (if f.crlf then [0x0A, 0x0D] else [0x0A])

/-- The characters that a dot matches. -/
def dotSet (f : Flags) : CharSet := if f.dotAll then .all else f.lineEnds.complement

/-- The condition of an anchor. -/
def look (f : Flags) : Anchor → Look
  | .startLine => if f.multiLine then .lineStart f.crlf else .textStart
  | .endLine => if f.multiLine then .lineEnd f.crlf else .textEnd
  | .startText => .textStart
  | .endText => .textEnd
  | .boundary => .word f.unicode .either
  | .notBoundary => .word f.unicode .neither
  | .wordStart => .word f.unicode .start
  | .wordEnd => .word f.unicode .stop
  | .wordStartHalf => .word f.unicode .startHalf
  | .wordEndHalf => .word f.unicode .stopHalf

end Flags

mutual

/-- The meaning of a pattern and the flags in force after it. -/
def Syntax.tree? (f : Flags) : Syntax → Option (Tree × Flags)
  | .empty => some (.empty, f)
  | .flags changes => some (.empty, f.apply changes)
  | .char c => some (.ofSet (f.classMode.ofChar c), f)
  | .octet c =>
    if f.unicode || c.toNat < 0x80 then some (.ofSet (f.classMode.ofChar c), f) else none
  | .dot => if f.unicode then some (.ofSet f.dotSet, f) else none
  | .anchor a => some (.look (f.look a), f)
  | .set s => do some (.ofSet (← s.members? f.classMode), f)
  | .repetition least most greedy body => do
    let (tree, f) ← Syntax.tree? f body
    some (.repeated least most (greedy != f.swapGreed) tree, f)
  | .group captures changes body => do
    let (tree, _) ← Syntax.tree? (f.apply changes) body
    some (if captures then .capture tree else tree, f)
  | .alternation branches => do
    let (trees, f) ← Syntax.trees? f branches
    some (.ofBranches trees, f)
  | .concat parts => do
    let (trees, f) ← Syntax.trees? f parts
    some (.ofParts trees, f)

/-- The meanings of patterns one after the other. -/
def Syntax.trees? (f : Flags) : List Syntax → Option (List Tree × Flags)
  | [] => some ([], f)
  | s :: rest => do
    let (tree, f) ← Syntax.tree? f s
    let (trees, f) ← Syntax.trees? f rest
    some (tree :: trees, f)

end

end ClusterAudit.Pattern
