import PhpAudit.Finding
import PhpAudit.Settings.Coercion
import PhpAudit.Syntax.Node

/-!
Rules: a description, declared options with the values chosen for them, and a body that checks a
file. The body of a tree rule sees the parsed file, that of a direct rule only its path. Either is
a script of steps: time passes, findings or other values are emitted, and a failure ends it.
-/

namespace PhpAudit

/-- What a rule emits: a finding, or some other value that is yet to be judged. -/
inductive Item where
  | finding (f : Finding)
  | value (v : Value)

inductive Step where
  | wait (seconds : Float)
  | emit (item : Item)
  | fail (f : Failure)

/-- How a script answers: with the list of what it emitted, with a stream that is still to be run,
with another sequence that runs as it is read, or with a fixed value. -/
inductive Reply where
  | collected
  | streamed
  | lazy
  | fixed (v : Value)

structure Script where
  steps : List Step
  reply : Reply := .collected

/-- What a check hands back. -/
inductive Answer where
  | items (xs : List Item)
  | stream (steps : List Step)
  | value (v : Value)

namespace Answer

def kindName : Answer → String
  | .items _ => "list"
  | .stream _ => "generator"
  | .value v => v.kindName

end Answer

inductive RuleBody where
  | tree (perform : SyntaxTree → String → Script)
  | direct (check : String → Script)

/-- A declared option. -/
structure OptionSpec where
  type : String
  default : Value
  description : String := ""

structure Rule where
  /-- Names the rule in findings, samples and incidents. -/
  typeName : String
  classPath : String
  name : String
  description : String
  category : Value
  severity : Value
  tags : Value
  enabledByDefault : Value
  version : String
  author : Value
  declared : Mapping String OptionSpec
  /-- Options given by the user, those that are declared brought to their type. -/
  chosen : Mapping String Value
  appliesTo : String → Except Failure Bool
  body : RuleBody

/-- The description of a rule once its severity and tags have been checked. -/
structure RuleProfile where
  category : Value
  severity : Severity
  /-- Without repetition. -/
  tags : List Value
  enabledByDefault : Value
  author : Value

namespace Rule

def defaultDescription : String := "No description provided for this rule."

def defaultVersion : String := "1.0.0"

def defaultAuthor : String := "Review System"

/-- A type name without the ending `Rule`. -/
def withoutEnding (cs : List Char) : List Char :=
  if "Rule".toList.isSuffixOf cs then cs.take (cs.length - 4) else cs

/-- A blank before every capital but the first character. -/
def spaced : List Char → List Char
  | [] => []
  | c :: rest => c :: rest.flatMap fun d => if d.isUpper then [' ', d] else [d]

/-- A readable name made from the type name. -/
def defaultName (typeName : String) : String :=
  Text.trim (String.ofList (spaced (withoutEnding typeName.toList)))

/-- Keeps the first of equal values; one that cannot be a key is refused. -/
def distinctFrom (seen : List Value) : List Value → Except Failure (List Value)
  | [] => .ok []
  | v :: rest =>
      match v.unkeyable? with
      | some bad => .error (.unkeyable bad)
      | none =>
          if seen.any (·.equals v) then distinctFrom seen rest
          else (v :: ·) <$> distinctFrom (v :: seen) rest

def distinct (values : List Value) : Except Failure (List Value) := distinctFrom [] values

def profile (rule : Rule) : Except Failure RuleProfile := do
  let severity ← rule.severity.toSeverity
  let tags ← distinct (← rule.tags.elements)
  return ⟨rule.category, severity, tags, rule.enabledByDefault, rule.author⟩

/-- Everything that is known about a rule. -/
def metadata (rule : Rule) : Except Failure (Mapping String Value) := do
  let p ← rule.profile
  return [("name", .text rule.name), ("description", .text rule.description),
    ("category", p.category), ("severity", .text p.severity.name), ("tags", .list p.tags),
    ("enabled_by_default", p.enabledByDefault),
    ("configuration_options", .map (rule.declared.map fun e => (e.1,
      .map [("type", .text e.2.type), ("default", e.2.default),
        ("description", .text e.2.description)]))),
    ("version", .text rule.version), ("author", p.author), ("class", .text rule.classPath)]

/-- Type name and category, for display. -/
def summary (rule : Rule) : Except Failure String := do
  return "<" ++ rule.typeName ++ " " ++ (← rule.category.written) ++ ">"

/-- Defaults overlaid with the chosen options. -/
def options (rule : Rule) : Mapping String Value :=
  Mapping.overlay (rule.declared.map fun e => (e.1, e.2.default)) rule.chosen

/-- Brings declared options to their types, in the order of declaration; the first that does not
fit is reported. Undeclared options pass unchanged. -/
def coerceOptions (typeName : String) (given : Mapping String Value) :
    Mapping String OptionSpec → Mapping String Value → Except Failure (Mapping String Value)
  | [], acc => .ok acc
  | (key, spec) :: rest, acc =>
      match Mapping.get? given key with
      | none => coerceOptions typeName given rest acc
      | some v =>
          let type := OptionType.ofName spec.type
          match type.coerce v with
          | .ok w => coerceOptions typeName given rest (Mapping.put acc key w)
          | .error kind => .error (.configuration ("Invalid option '" ++ key ++ "' for " ++
              typeName ++ ": " ++ Fault.report type.title [⟨[], kind⟩]))

/-- The options of a new rule. -/
def chooseOptions (typeName : String) (declared : Mapping String OptionSpec) (options : Value) :
    Except Failure (Mapping String Value) := do
  let given ← (options.orElse (.map [])).entries
  coerceOptions typeName given declared given

/-- Fields of a finding that a rule may set instead of its own. -/
structure Overrides where
  badCode : Value := Finding.notAvailable
  suggestedFix : Value := Finding.notAvailable
  severity : Value := .null
  category : Value := .null
  tags : Value := .null
  metadata : Mapping String Value := []

/-- A finding with the rule's own severity, category and tags where none are given. -/
def finding (rule : Rule) (path : String) (line message : Value) (o : Overrides) :
    Except Failure Finding := do
  let tags ←
    match o.tags with
    | .null => (·.tags) <$> rule.profile
    | v => v.elements
  Finding.Draft.finish {
    file := .text path
    line := line
    message := message
    badCode := o.badCode
    suggestedFix := o.suggestedFix
    severity := match o.severity with
      | .null => rule.severity
      | v => v
    category := match o.category with
      | .null => rule.category
      | v => v
    rule := .text rule.typeName
    tags := .tuple tags
    metadata := .map o.metadata }

end Rule

end PhpAudit
