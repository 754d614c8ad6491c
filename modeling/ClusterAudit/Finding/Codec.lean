import ClusterAudit.Document.Json.Decode
import ClusterAudit.Finding
import ClusterAudit.Suppression
import ClusterAudit.Text.Numeral

/-!
# Findings, outcomes and tallies as JSON

Counts by code are written under the decimal digits of the code, without sign or leading zero.
-/

namespace ClusterAudit

open Json

/-- A severity by name. -/
def Severity.ofJson? (j : Json) : Option Severity := do Severity.ofName? (← j.variant?)

/-- A severity as JSON. -/
def Severity.toJson (s : Severity) : Json := .text s.name

/-- A code. -/
def Code.ofJson? (j : Json) : Option Code := (uint32? j).map Code.mk

/-- A code as JSON. -/
def Code.toJson (code : Code) : Json := .ofNat code.number.toNat

/-- The code that plain decimal digits spell. -/
def Code.ofDigits? (s : String) : Option Code := do
  let n ← Text.number? 10 s.toList
  let code ← Code.ofNat? n
  if code.text = s then some code else none

/-- A count. -/
def Count.ofJson? (j : Json) : Option Count := do Count.ofNat? (← j.nat? UInt64.size)

/-- A count as JSON. -/
def Count.toJson (c : Count) : Json := .ofNat c.toNat

/-- What a glossary says about a code. -/
def CodeSpec.ofJson? (j : Json) : Option CodeSpec := do
  let f ← fields? ["message", "severity"] j
  some { template := ← (← f "message").text?, severity := ← Severity.ofJson? (← f "severity") }

/-- What a glossary says about a code, as JSON. -/
def CodeSpec.toJson (s : CodeSpec) : Json :=
  .record [("message", .text s.template), ("severity", s.severity.toJson)]

/-- A finding. -/
def Finding.ofJson? (j : Json) : Option Finding := do
  let f ← fields? ["group", "severity", "message", "code"] j
  some {
    group := ← (← f "group").text?
    severity := ← Severity.ofJson? (← f "severity")
    message := ← (← f "message").text?
    code := ← optional Code.ofJson? (f "code") }

/-- A finding as JSON; an absent code is left out. -/
def Finding.toJson (f : Finding) : Json :=
  .record ([("group", .text f.group), ("severity", f.severity.toJson), ("message", .text f.message)]
    ++ f.code.toList.map fun code => ("code", code.toJson))

/-- An outcome. -/
def Outcome.ofJson? : Json → Option Outcome
  | .record fields => do
    let objects ← decodeFields (listOf Finding.ofJson?) fields
    some ⟨.ofList (objects.map fun e => (⟨e.1⟩, e.2))⟩
  | _ => none

/-- An outcome as JSON. -/
def Outcome.toJson (o : Outcome) : Json :=
  .record (o.objects.entries.map fun e => (e.1.text, .ofList Finding.toJson e.2))

/-- Each name read as a code. -/
def decodeCodes : List (String × Count) → Option (List (Code × Count))
  | [] => some []
  | (digits, count) :: rest => do
    some ((← Code.ofDigits? digits, count) :: (← decodeCodes rest))

/-- A code tally. -/
def CodeTally.ofJson? : Json → Option CodeTally
  | .record fields => do
    let counts ← decodeFields Count.ofJson? fields
    some ⟨.ofList (← decodeCodes counts)⟩
  | _ => none

/-- A code tally as JSON. -/
def CodeTally.toJson (t : CodeTally) : Json :=
  .record (t.counts.entries.map fun e => (e.1.text, e.2.toJson))

/-- A namespace tally. -/
def NamespaceTally.ofJson? (j : Json) : Option NamespaceTally :=
  (dictOf CodeTally.ofJson? j).map NamespaceTally.mk

/-- A namespace tally as JSON. -/
def NamespaceTally.toJson (t : NamespaceTally) : Json := .ofDict CodeTally.toJson t.spaces

/-- A kind tally. -/
def KindTally.ofJson? : Json → Option KindTally
  | .record fields => do
    let kinds ← decodeFields NamespaceTally.ofJson? fields
    some ⟨.ofList (kinds.map fun e => (⟨e.1⟩, e.2))⟩
  | _ => none

/-- A kind tally as JSON. -/
def KindTally.toJson (t : KindTally) : Json :=
  .record (t.kinds.entries.map fun e => (e.1.text, e.2.toJson))

/-- A severity tally; all counts must be given. -/
def SeverityTally.ofJson? (j : Json) : Option SeverityTally := do
  let f ← fields? ["ok", "info", "warn", "error"] j
  some {
    ok := ← Count.ofJson? (← f "ok")
    info := ← Count.ofJson? (← f "info")
    warn := ← Count.ofJson? (← f "warn")
    error := ← Count.ofJson? (← f "error") }

/-- A severity tally as JSON. -/
def SeverityTally.toJson (t : SeverityTally) : Json :=
  .record [("ok", t.ok.toJson), ("info", t.info.toJson), ("warn", t.warn.toJson),
    ("error", t.error.toJson)]

/-! ## Suppressions -/

/-- Expressions as JSON, each as it is written. -/
def Expressions.toJson (es : Expressions) : Json := .ofList (fun e => .text e.raw) es

/-- A rule as JSON. -/
def Rule.toJson (r : Rule) : Json :=
  .record [("fqns", Expressions.toJson r.fqns), ("labels", .ofDict Expressions.toJson r.labels),
    ("annotations", .ofDict Expressions.toJson r.annotations),
    ("containers", Expressions.toJson r.containers), ("codes", Expressions.toJson r.codes)]

/-- The rules of a kind as JSON. -/
def KindRules.toJson (k : KindRules) : Json :=
  .record [("codes", Expressions.toJson k.codes), ("instances", .ofList Rule.toJson k.instances)]

/-- All suppressions as JSON. -/
def Exclusions.toJson (e : Exclusions) : Json :=
  .record [("global", e.global.toJson),
    ("linters", .record (e.kinds.entries.map fun k => (k.1.text, k.2.toJson)))]

end ClusterAudit
