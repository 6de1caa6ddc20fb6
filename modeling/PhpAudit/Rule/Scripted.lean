import PhpAudit.Rule.Basic
import PhpAudit.Syntax.Traversal

/-!
Rules given by data: a type name, the parts of the description that differ from the defaults, and
for each file a list of actions.
-/

namespace PhpAudit

inductive Action where
  | advance (seconds : Float)
  | raise (f : Failure)
  | raw (v : Value)
  /-- A finding of the rule at a line. -/
  | report (line message : Value) (overrides : Rule.Overrides)
  /-- A finding for every node of the kinds; direct rules see no nodes. -/
  | nodes (kinds : List String)
  /-- As the last action: this value is the answer. -/
  | answer (v : Value)

/-- A rule given by data. -/
structure RuleScript where
  className : String
  /-- Whether the rule sees only the path. -/
  direct : Bool := false
  name : Option String := none
  description : Option String := none
  category : Option Value := none
  severity : Option Value := none
  version : Option String := none
  author : Option Value := none
  tags : Option Value := none
  enabled : Option Value := none
  declared : Mapping String OptionSpec := []
  /-- Parts of paths of which one must occur; without them every file is checked. -/
  applies : Option (List String) := none
  actions : List Action := []
  actionsFor : Mapping String (List Action) := []
  streamed : Bool := false

namespace RuleScript

def emitOrFail : Except Failure Finding → Step
  | .ok f => .emit (.finding f)
  | .error f => .fail f

/-- The steps of one action on a file. -/
def stepsOf (rule : Rule) (tree : Option SyntaxTree) (path : String) : Action → List Step
  | .advance seconds => [.wait seconds]
  | .raise f => [.fail f]
  | .raw v => [.emit (.value v)]
  | .report line message overrides => [emitOrFail (rule.finding path line message overrides)]
  | .nodes kinds =>
      match tree with
      | none => []
      | some tree =>
          (tree.root.findKind kinds).map fun node =>
            emitOrFail (rule.finding path (.int node.startLine) (.text node.kind)
              { badCode := .text (node.text tree.source) })
  | .answer _ => []

/-- In a stream the signal that nothing is left cannot be raised by hand: it comes out as a failure
of the stream. -/
def streamStep : Step → Step
  | .fail f => .fail <|
      if f.name = "StopIteration" then .plain "RuntimeError" "generator raised StopIteration" else f
  | step => step

/-- The script that actions make up on a file. -/
def scriptOf (rule : Rule) (streamed : Bool) (tree : Option SyntaxTree) (path : String)
    (actions : List Action) : Script :=
  let steps := actions.flatMap (stepsOf rule tree path)
  match actions.getLast? with
  | some (.answer v) => ⟨steps, .fixed v⟩
  | _ => if streamed then ⟨steps.map streamStep, .streamed⟩ else ⟨steps, .collected⟩

def actionsOn (r : RuleScript) (path : String) : List Action :=
  (Mapping.get? r.actionsFor path).getD r.actions

/-- The rule without a body of its own, as the findings it reports see it. -/
def frame (r : RuleScript) (chosen : Mapping String Value) : Rule where
  typeName := r.className
  classPath := "custom.rules." ++ r.className
  name := r.name.getD (Rule.defaultName r.className)
  description := r.description.getD Rule.defaultDescription
  category := r.category.getD (.text Category.general.name)
  severity := r.severity.getD (.severity .warning)
  tags := r.tags.getD (.tuple [])
  enabledByDefault := r.enabled.getD (.bool true)
  version := r.version.getD Rule.defaultVersion
  author := r.author.getD (.text Rule.defaultAuthor)
  declared := r.declared
  chosen := chosen
  appliesTo := fun path => .ok <| match r.applies with
    | none => true
    | some parts => parts.any (Text.contains path)
  body := .direct fun _ => ⟨[], .collected⟩

/-- The rule with options. -/
def build (r : RuleScript) (options : Value) : Except Failure Rule := do
  let chosen ← Rule.chooseOptions r.className r.declared options
  let rule := r.frame chosen
  let script (tree : Option SyntaxTree) (path : String) : Script :=
    scriptOf rule r.streamed tree path (r.actionsOn path)
  return { rule with
    body := if r.direct then .direct (script none) else .tree fun tree => script (some tree) }

end RuleScript

end PhpAudit
