import ClusterAudit.Config.Error
import ClusterAudit.Dict
import ClusterAudit.Text.Split

/-!
# Files

A `Files` is the content of a working directory: files by their relative path, and the directories
that lie on the way to them. A path is followed name by name from the working directory; nothing is
known of what lies outside it.
-/

namespace ClusterAudit

/-- What stands under a path. -/
inductive FileContent where
  | text (s : String)
  | bytes (b : List UInt8)
  | directory
  deriving DecidableEq

/-- Files and directories by the names that lead to them. -/
structure Files where
  entries : List (List String × FileContent)

namespace Files

/-- The names of a path between its slashes, the empty ones and single points left out. -/
def namesOf (path : String) : List String :=
  ((Text.pieces '/' path.toList).map String.ofList).filter fun n => n ≠ "" && n ≠ "."

/-- The files of given paths. -/
def ofList (l : List (String × FileContent)) : Files := ⟨l.map fun (path, c) => (namesOf path, c)⟩

/-- What stands at the end of a list of names; all that leads to an entry is a directory. -/
def at? (f : Files) (names : List String) : Option FileContent :=
  match f.entries.find? (·.1 = names) with
  | some (_, c) => some c
  | none =>
    if names.isEmpty || f.entries.any (fun e => names.isPrefixOf e.1) then some .directory else none

/-- Whether a name between slashes stays in a directory or leads up: nothing, one point or two. -/
def isStep (name : String) : Bool := name = "" || name = "." || name = ".."

/-- What names lead to from outside the working directory: its directories, and nothing known. -/
def followOutside (names : List String) : Except ReadFault FileContent :=
  if names.all isStep then .ok .directory else .error .missing

/-- What a path leads to, from the directory at `here`; a single point or nothing stays where it is,
and two points lead up. -/
def follow (f : Files) : List String → List String → Except ReadFault FileContent
  | here, [] => match f.at? here with
    | some c => .ok c
    | none => .error .missing
  | here, name :: rest => match f.at? here with
    | none => .error .missing
    | some .directory =>
      if name = "" || name = "." then f.follow here rest
      else if name = ".." then
        if here.isEmpty then followOutside rest else f.follow here.dropLast rest
      else f.follow (here ++ [name]) rest
    | some _ => .error .notDirectory

/-- What stands under a path of the working directory. -/
def find (f : Files) (path : String) : Except ReadFault FileContent :=
  match (Text.pieces '/' path.toList).map String.ofList with
  | [""] => .error .missing
  | "" :: rest => followOutside rest
  | names => f.follow [] names

/-- Whether a file stands under a path. -/
def isFile (f : Files) (path : String) : Bool :=
  match f.find path with
  | .ok .directory => false
  | .ok _ => true
  | .error _ => false

/-- The text of the file under a path. -/
def readText (f : Files) (path : String) : Except ReadFault String := do
  match ← f.find path with
  | .directory => .error .isDirectory
  | .text s => .ok s
  | .bytes b => match String.fromUTF8? ⟨b.toArray⟩ with
    | some s => .ok s
    | none => .error .notText

end Files

end ClusterAudit
