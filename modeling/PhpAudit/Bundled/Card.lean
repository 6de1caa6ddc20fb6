import PhpAudit.Rule.Basic

/-!
The fixed part of a bundled rule, and the findings and rules made with it.
-/

namespace PhpAudit

structure RuleCard where
  /-- The stable name of the rule in a catalogue. -/
  identifier : String
  typeName : String
  classPath : String
  name : String
  description : String
  category : Category
  tags : List String
  declared : Mapping String OptionSpec

namespace RuleCard

/-- A finding of the rule, with its own tags. -/
def finding (card : RuleCard) (path : String) (line : Nat) (message badCode fix : String)
    (severity : Severity) (category : String) (metadata : Mapping String Value) : Finding where
  file := path
  line := if 1 ≤ line then line else 1
  message := .text message
  badCode := .text badCode
  suggestedFix := .text fix
  severity := severity
  category := category
  rule := .text card.typeName
  tags := card.tags.map .text
  metadata := metadata

/-- Emits the findings, or fails. -/
def script : Except Failure (List Finding) → Script
  | .ok findings => ⟨findings.map fun f => .emit (.finding f), .collected⟩
  | .error f => ⟨[.fail f], .collected⟩

/-- The rule with the given options and body. -/
def rule (card : RuleCard) (chosen : Mapping String Value)
    (appliesTo : String → Except Failure Bool)
    (perform : SyntaxTree → String → Except Failure (List Finding)) : Rule where
  typeName := card.typeName
  classPath := card.classPath
  name := card.name
  description := card.description
  category := .text card.category.name
  severity := .severity .warning
  tags := .tuple (card.tags.map .text)
  enabledByDefault := .bool true
  version := Rule.defaultVersion
  author := .text Rule.defaultAuthor
  declared := card.declared
  chosen := chosen
  appliesTo := appliesTo
  body := .tree fun tree path => script (perform tree path)

/-- Builds the rule: its options are chosen, and what it does depends on them. -/
def build (card : RuleCard) (appliesTo : Mapping String Value → String → Except Failure Bool)
    (perform : Mapping String Value → SyntaxTree → String → Except Failure (List Finding))
    (options : Value) : Except Failure Rule := do
  let chosen ← Rule.chooseOptions card.typeName card.declared options
  return card.rule chosen (appliesTo chosen) (perform chosen)

/-- Value of a declared option. -/
def option (card : RuleCard) (chosen : Mapping String Value) (key : String) : Value :=
  match Mapping.get? chosen key with
  | some v => v
  | none => ((Mapping.get? card.declared key).map (·.default)).getD .null

/-- Value of a declared integer option, which may turn out to be a word. -/
def integerOption (card : RuleCard) (chosen : Mapping String Value) (key : String) :
    Except Failure Int :=
  let v := card.option chosen key
  match v.toInt? with
  | some n => .ok n
  | none => .error (.wrongValue ("invalid literal for int() with base 10: " ++ v.inspect))

/-- Items of a declared array option. -/
def arrayOption (card : RuleCard) (chosen : Mapping String Value) (key : String) : List Value :=
  ((card.option chosen key).elements?).getD []

end RuleCard

end PhpAudit
