import ClusterAudit.Name
import ClusterAudit.Suppression.Expression

/-!
# What can be wrong with a configuration

A file may be unreadable, of no known format or malformed; its rules may hold expressions that do
not compile; its severities may be given for texts that are no codes, or for codes that do not
exist.
-/

namespace ClusterAudit

/-- A format that configurations are written in. -/
inductive Format where
  | yaml
  | json
  | toml
  deriving DecidableEq

namespace Format

/-- The name of the format. -/
def name : Format → String
  | yaml => "YAML"
  | json => "JSON"
  | toml => "TOML"

/-- The format of files with an extension, which must be in lower case. -/
def ofExtension? : String → Option Format
  | "yaml" => some yaml
  | "yml" => some yaml
  | "json" => some json
  | "toml" => some toml
  | _ => none

end Format

/-- Why a file cannot be read as text. -/
inductive ReadFault where
  | missing
  | isDirectory
  /-- A part of the path that should be a directory is none. -/
  | notDirectory
  | notText
  deriving DecidableEq

namespace ReadFault

/-- The wording of the fault. -/
def message : ReadFault → String
  | missing => "No such file or directory (os error 2)"
  | isDirectory => "Is a directory (os error 21)"
  | notDirectory => "Not a directory (os error 20)"
  | notText => "stream did not contain valid UTF-8"

end ReadFault

/-- Something wrong with a configuration. -/
inductive ConfigError where
  | unreadable (path : String) (fault : ReadFault)
  /-- The extension, in lower case, is that of no known format. -/
  | unsupported (path extension : String)
  | malformed (format : Format) (path : String)
  /-- An expression of the rules in a scope does not compile. -/
  | invalidRule (scope : String) (cause : ExpressionError)
  /-- A severity is given for a text that is no code. -/
  | invalidCode (raw : String)
  /-- A severity is given for a code that the glossary lacks. -/
  | unknownCode (code : Code)
  deriving DecidableEq

namespace ConfigError

/-- The wording of the error. -/
def message : ConfigError → String
  | unreadable path fault => "Failed to read config file " ++ path ++ ": " ++ fault.message
  | unsupported path extension =>
    "Unsupported config format for " ++ path ++ ": ." ++ extension
  | malformed format path => "Failed to parse " ++ format.name ++ " config " ++ path
  | invalidRule scope cause => "Invalid exclusion in " ++ scope ++ ": " ++ cause.message
  | invalidCode raw => "Invalid finding code '" ++ raw ++ "'"
  | unknownCode code => "Severity override for unknown code " ++ code.text

end ConfigError

end ClusterAudit
