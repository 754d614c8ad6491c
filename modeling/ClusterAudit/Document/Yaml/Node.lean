import ClusterAudit.Document.Yaml.Token.Lexer

/-!
# The tree of a YAML document

`Document.parse` reads a stream that holds at most one document. Aliases stay in the tree: a
document keeps the nodes that have anchors beside its root, so a node may lie inside itself and the
tree is finite all the same (`Document.target`).

Anchors are numbered by how many different names were known before. A name that is given again takes
a new number, which the next new name then shares; an alias stands for the node that began last
under its number.
-/

namespace ClusterAudit.Yaml

/-- A node of a document. -/
inductive Node where
  | scalar (tag : Option String) (style : Style) (text : String)
  | sequence (items : List Node)
  | mapping (entries : List (Node × Node))
  /-- The node that began last under the number of an anchor. -/
  | alias (number : Nat)

namespace Node

/-- What an absent node is read as. -/
def absent (tag : Option String) : Node := .scalar tag .plain ""

instance : Inhabited Node := ⟨absent none⟩

end Node

/-- What has been read of a document. -/
structure Reading where
  tokens : List Token
  /-- What each handle of a tag stands for. -/
  handles : List (List Char × List Char)
  /-- The number of each anchor by its name. -/
  numbers : List (List Char × Nat)
  /-- The place in the order of beginning that each number has, the last one first. -/
  places : List (Nat × Nat)
  /-- How many nodes with anchors have begun. -/
  begun : Nat
  /-- The finished nodes with anchors, by place. -/
  nodes : List (Nat × Node)

/-- The value that stands first under a key. -/
def findKey {κ β : Type} [DecidableEq κ] (k : κ) (l : List (κ × β)) : Option β :=
  (l.find? fun e => e.1 = k).map (·.2)

namespace Reading

/-- A step that reads tokens. -/
abbrev Step := StateT Reading Option

/-- Refuses the stream. -/
def refuse {α : Type} : Step α := StateT.lift none

/-- The token in front. -/
def peek : Step Token := do
  match (← get).tokens with
  | t :: _ => pure t
  | [] => refuse

/-- Passes the token in front. -/
def skip : Step Unit := modify fun r => { r with tokens := r.tokens.drop 1 }

/-- Passes the token in front if it is the given one. -/
def accept (t : Token) : Step Bool := do
  if (← peek) = t then
    skip
    pure true
  else pure false

/-- Passes the given token, which must stand in front. -/
def expect (t : Token) : Step Unit := do
  if !(← accept t) then refuse

/-! ## Anchors and tags -/

/-- Numbers the node that begins with an anchor; its place. -/
def begin (name : List Char) : Step Nat := do
  let r ← get
  let number := r.numbers.length
  set { r with
    numbers := (name, number) :: r.numbers.filter (·.1 ≠ name)
    places := (number, r.begun) :: r.places
    begun := r.begun + 1 }
  pure r.begun

/-- Keeps a finished node that has an anchor. -/
def finish (place : Option Nat) (n : Node) : Step Node := do
  match place with
  | some p => modify fun r => { r with nodes := (p, n) :: r.nodes }
  | none => pure ()
  pure n

/-- The whole tag that a handle and a suffix stand for. -/
def resolveTag (handle suffix : List Char) : Step String := do
  if handle.isEmpty then pure (String.ofList suffix)
  else match findKey handle (← get).handles with
    | some stem => pure (String.ofList (stem ++ suffix))
    | none => refuse

/-- The anchor in front, if there is one. -/
def readAnchor : Step (Option (List Char)) := do
  match ← peek with
  | .anchor name =>
    skip
    pure (some name)
  | _ => pure none

/-- The tag in front, if there is one. -/
def readTag : Step (Option (List Char × List Char)) := do
  match ← peek with
  | .tag handle suffix =>
    skip
    pure (some (handle, suffix))
  | _ => pure none

/-- The anchor and the tag in front, in either order. -/
def readProperties : Step (Option (List Char) × Option String) := do
  let anchor ← readAnchor
  let tag ← readTag
  let anchor ← if anchor.isNone && tag.isSome then readAnchor else pure anchor
  match tag with
  | some (handle, suffix) => pure (anchor, some (← resolveTag handle suffix))
  | none => pure (anchor, none)

/-! ## Nodes -/

/-- Whether a token ends an entry of a block collection. -/
def endsBlockEntry (t : Token) : Bool := t = .key || t = .value || t = .blockEnd

mutual

/-- The node in front; `block` admits block collections, `indentless` the entries of a sequence that
is not indented. -/
def node (block indentless : Bool) : Nat → Step Node
  | 0 => refuse
  | fuel + 1 => do
    match ← peek with
    | .alias name =>
      skip
      match findKey name (← get).numbers with
      | some number => pure (.alias number)
      | none => refuse
    | _ =>
      let (anchor, tag) ← readProperties
      let place ← anchor.mapM begin
      finish place (← content block indentless (anchor.isSome || tag.isSome) tag fuel)

/-- The node in front without its anchor and tag; only where one of them stood may it be absent. -/
def content (block indentless mayBeAbsent : Bool) (tag : Option String) : Nat → Step Node
  | 0 => refuse
  | fuel + 1 => do
    let t ← peek
    if indentless && t = .blockEntry then .sequence <$> indentlessEntries fuel
    else match t with
      | .scalar style text =>
        skip
        pure (.scalar tag style (String.ofList text))
      | .flowSequence =>
        skip
        .sequence <$> flowEntries true fuel
      | .flowMapping =>
        skip
        .mapping <$> flowPairs true fuel
      | _ =>
        if block && t = .blockSequence then
          skip
          .sequence <$> blockEntries fuel
        else if block && t = .blockMapping then
          skip
          .mapping <$> blockPairs fuel
        else if mayBeAbsent then pure (.absent tag)
        else refuse

/-- The entries of a block sequence and its end. -/
def blockEntries : Nat → Step (List Node)
  | 0 => refuse
  | fuel + 1 => do
    if ← accept .blockEntry then
      let t ← peek
      let item ←
        if t = .blockEntry || t = .blockEnd then pure (.absent none) else node true false fuel
      pure (item :: (← blockEntries fuel))
    else
      expect .blockEnd
      pure []

/-- The entries of a sequence that is not indented. -/
def indentlessEntries : Nat → Step (List Node)
  | 0 => refuse
  | fuel + 1 => do
    if ← accept .blockEntry then
      let t ← peek
      let item ←
        if t = .blockEntry || endsBlockEntry t then pure (.absent none) else node true false fuel
      pure (item :: (← indentlessEntries fuel))
    else pure []

/-- A key or value of a block mapping after its sign. -/
def blockPart : Nat → Step Node
  | 0 => refuse
  | fuel + 1 => do if endsBlockEntry (← peek) then pure (.absent none) else node true true fuel

/-- The entries of a block mapping and its end. -/
def blockPairs : Nat → Step (List (Node × Node))
  | 0 => refuse
  | fuel + 1 => do
    if ← accept .key then
      let key ← blockPart fuel
      let value ← if ← accept .value then blockPart fuel else pure (.absent none)
      pure ((key, value) :: (← blockPairs fuel))
    else
      expect .blockEnd
      pure []

/-- The value of an entry inside brackets, absent in front of a comma or the closing bracket. -/
def flowValue (close : Token) : Nat → Step Node
  | 0 => refuse
  | fuel + 1 => do
    if ← accept .value then
      let t ← peek
      if t = .flowEntry || t = close then pure (.absent none) else node false false fuel
    else pure (.absent none)

/-- The items of a sequence in brackets and its end; before each but the first stands a comma. -/
def flowEntries (first : Bool) : Nat → Step (List Node)
  | 0 => refuse
  | fuel + 1 => do
    if ← accept .flowSequenceEnd then pure []
    else
      if !first then expect .flowEntry
      if ← accept .flowSequenceEnd then pure []
      else if ← accept .key then
        let t ← peek
        let key ←
          if t = .value || t = .flowEntry || t = .flowSequenceEnd then
            skip
            pure (.absent none)
          else node false false fuel
        let value ← flowValue .flowSequenceEnd fuel
        pure (.mapping [(key, value)] :: (← flowEntries false fuel))
      else
        let item ← node false false fuel
        pure (item :: (← flowEntries false fuel))

/-- The entries of a mapping in braces and its end; before each but the first stands a comma. -/
def flowPairs (first : Bool) : Nat → Step (List (Node × Node))
  | 0 => refuse
  | fuel + 1 => do
    if ← accept .flowMappingEnd then pure []
    else
      if !first then expect .flowEntry
      if ← accept .flowMappingEnd then pure []
      else if ← accept .key then
        let t ← peek
        let key ←
          if t = .value || t = .flowEntry || t = .flowMappingEnd then pure (.absent none)
          else node false false fuel
        let value ← flowValue .flowMappingEnd fuel
        pure ((key, value) :: (← flowPairs false fuel))
      else
        let key ← node false false fuel
        pure ((key, .absent none) :: (← flowPairs false fuel))

end

/-! ## Documents -/

/-- The handles that need no directive. -/
def standardHandles : List (List Char × List Char) :=
  [("!".toList, "!".toList), ("!!".toList, "tag:yaml.org,2002:".toList)]

/-- The directives in front: one version at most, which must be 1.1 or 1.2, and each handle once. -/
def directives (versioned : Bool) (handles : List (List Char × List Char)) :
    List Token → Option (List (List Char × List Char) × List Token)
  | .version major minor :: rest =>
    if !versioned && major = 1 && (minor = 1 || minor = 2) then directives true handles rest
    else none
  | .tagHandle name stem :: rest =>
    if (findKey name handles).isNone then directives versioned ((name, stem) :: handles) rest
    else none
  | rest => some (handles ++ standardHandles, rest)

/-- The root of the document, with what has been read after it. -/
def root (handles : List (List Char × List Char)) (tokens : List Token) : Option (Node × Reading) :=
  (node true false (3 * tokens.length + 3)).run ⟨tokens, handles, [], [], 0, []⟩

/-- Whether a token ends a document that has no content. -/
def endsDocument : Token → Bool
  | .version _ _ | .tagHandle _ _ | .documentStart | .documentEnd | .streamEnd => true
  | _ => false

end Reading

/-- A document: its root, and the nodes that aliases stand for. -/
structure Document where
  root : Node
  /-- The nodes by the number of their anchor. -/
  anchored : List (Nat × Node)

namespace Document

/-- The document without content. -/
def empty : Document := ⟨.absent none, []⟩

/-- The document that has been read. -/
def ofReading (root : Node) (r : Reading) : Document :=
  ⟨root, r.places.filterMap fun (number, place) =>
    (findKey place r.nodes).map fun n => (number, n)⟩

/-- Whether nothing but ends of documents stands before the end of the stream. -/
def atStreamEnd : List Token → Bool
  | .documentEnd :: rest => atStreamEnd rest
  | t :: _ => t = .streamEnd
  | [] => false

/-- The content of a document after its start and directives. -/
def contentOf? (handles : List (List Char × List Char)) (tokens : List Token) :
    Option Document := do
  let (n, r) ← Reading.root handles tokens
  if atStreamEnd r.tokens then some (ofReading n r) else none

/-- The one document of a stream; a stream without a document reads as one without content. -/
def ofTokens? : List Token → Option Document
  | [.streamEnd] => some empty
  | tokens => do
    match ← Reading.directives false [] tokens with
    | (handles, .documentStart :: rest) =>
      if (rest.head?.map Reading.endsDocument).getD true then
        if atStreamEnd rest then some empty else none
      else contentOf? handles rest
    | (handles, rest) => if rest.length = tokens.length then contentOf? handles rest else none

/-- The document that a text holds, if the text is well formed and holds no second one. -/
def parse (s : String) : Option Document := (Token.ofText? s).bind ofTokens?

/-- The node that a node stands for. -/
def target (d : Document) : Node → Node
  | .alias number => (findKey number d.anchored).getD (.absent none)
  | n => n

end Document

end ClusterAudit.Yaml
