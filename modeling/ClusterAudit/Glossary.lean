import ClusterAudit.Name
import ClusterAudit.Severity
import ClusterAudit.Dict

/-!
# The glossary of finding codes

Every code has a severity and a template. A message is the glossary's label and the code in
brackets, then the template with its placeholders filled from left to right (`Template.fill`).
Arguments are never themselves searched for placeholders.
-/

namespace ClusterAudit

/-! ## Templates -/

namespace Template

/-- The pieces of a template between its placeholders, two braces each, found from the left. -/
def pieces : List Char → List (List Char)
  | [] => [[]]
  | '\x7b' :: '\x7d' :: rest => [] :: pieces rest
  | c :: rest => match pieces rest with
    | [] => [[c]]
    | p :: ps => (c :: p) :: ps

/-- A placeholder. -/
def hole : List Char := ['\x7b', '\x7d']

/-- The pieces with arguments between them; a placeholder without argument stays, an argument
without placeholder is left out. -/
def join : List (List Char) → List String → List Char
  | [], _ => []
  | [p], _ => p
  | p :: ps, [] => p ++ hole ++ join ps []
  | p :: ps, a :: args => p ++ a.toList ++ join ps args

/-- The template with its placeholders filled. -/
def fill (template : String) (args : List String) : String :=
  String.ofList (join (pieces template.toList) args)

end Template

/-! ## Glossaries -/

/-- What the glossary says about a code. -/
structure CodeSpec where
  template : String
  severity : Severity
  deriving DecidableEq

/-- A glossary: the label of its messages and its codes. -/
structure Glossary where
  label : String
  codes : Dict Code CodeSpec
  deriving DecidableEq

namespace Glossary

/-- The label used unless another is chosen. -/
def defaultLabel : String := "POP"

/-- The code of failures inside a check. -/
def internalError : Code := 666

/-- The codes of the checks that come with the library. -/
def builtinCodes : List (Code × Severity × String) :=
  [(100, .error, "Untagged docker image in use"),
   (101, .warn, "Image tagged \"latest\" in use"),
   (102, .info, "No probes defined"),
   (103, .warn, "No liveness probe"),
   (104, .warn, "No readiness probe"),
   (106, .warn, "No resources requests/limits defined"),
   (107, .warn, "No resource limits defined"),
   (109, .error, "CPU request (\x7b\x7d) exceeds limit (\x7b\x7d)"),
   (110, .error, "Memory request (\x7b\x7d) exceeds limit (\x7b\x7d)"),
   (200, .info, "Pod has no labels"),
   (208, .error, "Owner \x7b\x7d \x7b\x7d is not present in the cluster"),
   (300, .warn, "Uses \"default\" ServiceAccount"),
   (666, .error, "\x7b\x7d"),
   (1100, .error, "No pods match service selector"),
   (1101, .info, "Service has no selector"),
   (1200, .warn, "No pods match pod selector"),
   (1201, .error, "Except CIDR \x7b\x7d is not contained in block \x7b\x7d"),
   (1202, .error, "Invalid IP block: \x7b\x7d"),
   (1203, .warn, "No pods match \x7b\x7d pod selector in namespace \x7b\x7d"),
   (1300, .error, "ServiceAccount \x7b\x7d is not present in the cluster"),
   (1301, .warn, "Binding has no subjects")]

/-- A glossary without codes. -/
def empty : Glossary := ⟨defaultLabel, ∅⟩

/-- The glossary with a code added or replaced. -/
def insert (g : Glossary) (code : Code) (spec : CodeSpec) : Glossary :=
  { g with codes := g.codes.insert code spec }

/-- The glossary of the codes that come with the library. -/
def builtin : Glossary :=
  builtinCodes.foldl (fun g (code, severity, template) => g.insert code ⟨template, severity⟩) empty

instance : Inhabited Glossary := ⟨builtin⟩

/-- What is said about a code. -/
def get? (g : Glossary) (code : Code) : Option CodeSpec := g.codes.get? code

/-- The severity of a code. -/
def severity? (g : Glossary) (code : Code) : Option Severity :=
  (g.get? code).map (·.severity)

/-- The glossary with another severity for a code, and whether the code is known. -/
def overrideSeverity (g : Glossary) (code : Code) (severity : Severity) : Glossary × Bool :=
  if g.codes.contains code then
    ({ g with codes := g.codes.modify code fun spec => { spec with severity } }, true)
  else (g, false)

/-- The codes of a glossary that have another severity in a changed one, with that severity. -/
def changes (g changed : Glossary) : List (Code × Severity) :=
  g.codes.entries.filterMap fun e =>
    ((changed.severity? e.1).filter (· ≠ e.2.severity)).map (e.1, ·)

/-- The message of a code with arguments. -/
def render (g : Glossary) (code : Code) (args : List String) : Option String :=
  (g.get? code).map fun spec =>
    "[" ++ g.label ++ "-" ++ code.text ++ "] " ++ Template.fill spec.template args

end Glossary

end ClusterAudit
