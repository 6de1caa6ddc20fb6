import PhpAudit.Value.Reading

/-!
Findings: single reported rule failures. A draft carries loose values for the fields; making a
finding of it normalises them, so that the line is at least 1 and severity, category, tags and
metadata have their types. Findings can be exported to mappings and imported again.
-/

namespace PhpAudit

structure Finding where
  file : String
  line : Int
  message : Value
  badCode : Value
  suggestedFix : Value
  severity : Severity
  category : String
  rule : Value
  tags : List Value
  metadata : Mapping String Value

namespace Finding

/-- What a field says that was not given. -/
def notAvailable : Value := .text "N/A"

/-- A finding with fields as they were given. -/
structure Draft where
  file : Value
  line : Value
  message : Value
  badCode : Value := notAvailable
  suggestedFix : Value := notAvailable
  severity : Value := .severity .warning
  category : Value := .text "general"
  rule : Value := .text ""
  tags : Value := .tuple []
  metadata : Value := .map []

/-- Lines that are no number, or below 1, become the first line. -/
def normalLine (line : Value) : Int :=
  match line.toInt? with
  | some n => if 1 ≤ n then n else 1
  | none => 1

/-- The name of a category, or of a severity given in its place; the text of any other value. -/
def categoryText : Value → Except Failure String
  | .category c => .ok c.name
  | .severity s => .ok s.name
  | v => v.written

def Draft.finish (d : Draft) : Except Failure Finding := do
  let file ← d.file.written
  let severity ← d.severity.toSeverity
  let category ← categoryText d.category
  let tags ← d.tags.elements
  let metadata ← d.metadata.entries
  return {
    file := file
    line := normalLine d.line
    message := d.message
    badCode := d.badCode
    suggestedFix := d.suggestedFix
    severity := severity
    category := category
    rule := d.rule
    tags := tags
    metadata := metadata }

/-- Keys with a meaning of their own, two of them under an older name as well. -/
def knownKeys : List String :=
  ["file", "line", "message", "bad_code", "bad", "suggested_fix", "good", "severity", "category",
    "rule", "tags", "metadata"]

/-- Imports a finding. The message must not be empty; `path` stands in for a missing file; keys
without a meaning are kept as metadata. -/
def ofMapping (data : Mapping String Value) (path : String) : Except Failure Finding := do
  let get (key : String) (fallback : Value) : Value := (Mapping.get? data key).getD fallback
  let message := get "message" .null
  if message.isEmpty then throw (.wrongValue "Violation must have a message field")
  let stated ← ((get "metadata" .null).orElse (.map [])).entries
  let metadata := Mapping.overlay stated (data.filter fun e => !knownKeys.contains e.1)
  let said ← message.written
  let badCode ← (get "bad_code" (get "bad" notAvailable)).written
  let suggestedFix ← (get "suggested_fix" (get "good" notAvailable)).written
  let rule ← (get "rule" (.text "")).written
  let tags ← ((get "tags" .null).orElse (.tuple [])).elements
  Draft.finish {
    file := (get "file" .null).orElse (.text path)
    line := get "line" .null
    message := .text said
    badCode := .text badCode
    suggestedFix := .text suggestedFix
    severity := get "severity" (.severity .warning)
    category := get "category" (.text "general")
    rule := .text rule
    tags := .tuple tags
    metadata := .map metadata }

/-- Imports a finding from a value, which has to be a mapping. -/
def ofValue (data : Value) (path : String) : Except Failure Finding :=
  match data with
  | .map entries => ofMapping entries path
  | v => .error (.noAttribute ("'" ++ v.kindName ++ "' object has no attribute 'get'"))

def toMapping (f : Finding) : Mapping String Value :=
  [("file", .text f.file), ("line", .int f.line), ("message", f.message), ("bad_code", f.badCode),
    ("suggested_fix", f.suggestedFix), ("severity", .text f.severity.name),
    ("category", .text f.category), ("rule", f.rule), ("tags", .list f.tags),
    ("metadata", .map f.metadata)]

/-- One line for display. -/
def summary (f : Finding) : Except Failure String := do
  let line ← (Value.int f.line).written
  return f.file ++ ":" ++ line ++ ": [" ++ f.severity.label ++ "] " ++ (← f.message.written)

/-- Whether two findings agree in every field. -/
def same (f g : Finding) : Bool :=
  f.file == g.file && f.line == g.line && f.message.identical g.message &&
    f.badCode.identical g.badCode && f.suggestedFix.identical g.suggestedFix &&
    f.severity == g.severity && f.category == g.category && f.rule.identical g.rule &&
    Value.identicalAll f.tags g.tags && (Value.map f.metadata).identical (.map g.metadata)

/-- Fields a draft may be given, the first three of which it must be given. -/
def fieldNames : List String :=
  ["file", "line", "message", "bad_code", "suggested_fix", "severity", "category", "rule", "tags",
    "metadata"]

/-- Names in quotes, the last two joined by "and". -/
def listed (names : List String) : String :=
  match names.map fun name => "'" ++ name ++ "'" with
  | [] => ""
  | [a] => a
  | [a, b] => a ++ " and " ++ b
  | quoted => String.intercalate ", " quoted.dropLast ++ ", and " ++ quoted.getLastD ""

/-- A finding from named fields. -/
def ofFields (data : Mapping String Value) : Except Failure Finding := do
  match data.find? fun e => !fieldNames.contains e.1 with
  | some e => throw (.wrongType
      ("Violation.__init__() got an unexpected keyword argument '" ++ e.1 ++ "'"))
  | none => pure ()
  let missing := ["file", "line", "message"].filter fun name => !Mapping.has data name
  if !missing.isEmpty then
    throw (.wrongType ("Violation.__init__() missing " ++ toString missing.length ++
      " required positional argument" ++ (if missing.length = 1 then "" else "s") ++ ": " ++
      listed missing))
  let get (key : String) (fallback : Value) : Value := (Mapping.get? data key).getD fallback
  Draft.finish {
    file := get "file" .null
    line := get "line" .null
    message := get "message" .null
    badCode := get "bad_code" notAvailable
    suggestedFix := get "suggested_fix" notAvailable
    severity := get "severity" (.severity .warning)
    category := get "category" (.text "general")
    rule := get "rule" (.text "")
    tags := get "tags" (.tuple [])
    metadata := get "metadata" (.map []) }

end Finding

end PhpAudit
