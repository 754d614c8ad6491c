import ClusterAudit.Config
import ClusterAudit.Config.Files
import ClusterAudit.Document.Json.Parser
import ClusterAudit.Document.Json.View
import ClusterAudit.Document.Toml.Parser
import ClusterAudit.Document.Toml.View
import ClusterAudit.Document.Yaml.View
import ClusterAudit.Text.Case

/-!
# Loading configurations

The extension of a file decides its format. In a directory the file of the first known name is the
configuration; a file that is there but malformed is an error, not a reason to look further.
-/

namespace ClusterAudit

namespace Format

/-- The configuration that a text holds. -/
def readConfig? (format : Format) (text : String) : Option Config :=
  match format with
  | yaml => do (← Yaml.Document.parse text).look Config.read
  | json => do Config.read Json.view (← Json.parse text)
  | toml => do Config.read Toml.view (← Toml.parse text)

end Format

namespace Config

/-- The extension of a path: what follows the last point of its last name, unless that point is the
first character. -/
def extensionOf (path : String) : String :=
  let name := Text.afterLast '/' path
  let tail := Text.afterLast '.' name
  if tail.length + 1 < name.length then tail else ""

/-- The configuration in a text of a format; errors name the path. -/
def ofText (format : Format) (path text : String) : Except ConfigError Config :=
  match format.readConfig? text with
  | some c => .ok c
  | none => .error (.malformed format path)

/-- The configuration in a YAML text that belongs to no file. -/
def ofYaml (text : String) : Except ConfigError Config := ofText .yaml "<inline>" text

/-- The configuration in a file. -/
def ofFile (files : Files) (path : String) : Except ConfigError Config :=
  match files.readText path with
  | .error fault => .error (.unreadable path fault)
  | .ok text =>
    let extension := Text.lower (extensionOf path)
    match Format.ofExtension? extension with
    | some format => ofText format path text
    | none => .error (.unsupported path extension)

/-- The names that a configuration may have in its directory, in the order they are looked for. -/
def fileNames : List String :=
  [".kube-sanity.yaml", ".kube-sanity.yml", ".kube-sanity.json", ".kube-sanity.toml"]

/-- The path of a name in a directory. -/
def pathIn (directory name : String) : String :=
  if directory.isEmpty || directory.endsWith "/" then directory ++ name
  else directory ++ "/" ++ name

/-- The path of the configuration of a directory, if it has one. -/
def find? (files : Files) (directory : String) : Option String :=
  (fileNames.map (pathIn directory)).find? files.isFile

/-- The configuration of a directory, if it has one. -/
def discover (files : Files) (directory : String) : Except ConfigError (Option Config) :=
  match find? files directory with
  | none => .ok none
  | some path => (ofFile files path).map some

end Config

end ClusterAudit
