import PhpAudit.Rule.Basic
import PhpAudit.Session

/-!
Checking a file with a rule. Whatever a rule hands back is normalised to findings; items that are
none are dropped with a warning. A tree rule's failures end up among the incidents, and each phase
is timed.
-/

namespace PhpAudit

namespace Rule

/-- Runs a script to its end; what it emitted, or the failure that ended it. -/
def runSteps : List Step → Session → Except Failure (List Item) × Session
  | [], s => (.ok [], s)
  | .wait seconds :: rest, s => runSteps rest (s.wait seconds)
  | .fail f :: _, s => (.error f, s)
  | .emit item :: rest, s =>
      let next := runSteps rest s
      ((item :: ·) <$> next.1, next.2)

/-- Runs as much of a script as its way of answering asks for. -/
def runScript (script : Script) (s : Session) : Except Failure Answer × Session :=
  match script.reply with
  | .streamed | .lazy => (.ok (.stream script.steps), s)
  | .collected =>
      let next := runSteps script.steps s
      (.items <$> next.1, next.2)
  | .fixed v =>
      let next := runSteps script.steps s
      ((fun _ => .value v) <$> next.1, next.2)

/-- Why an item is dropped. -/
abbrev Rejection := String

/-- A finding as it is, a mapping as the finding it describes with the rule's own fields as
defaults. The outer failure is not the item's: the rule's own description cannot be read, or it
cannot be told what is wrong with the item. -/
def normaliseItem (rule : Rule) (path : String) :
    Item → Except Failure (Except Rejection Finding)
  | .finding f => .ok (.ok f)
  | .value (.map entries) => do
      let p ← rule.profile
      let data := Mapping.overlay
        [("category", rule.category), ("severity", rule.severity), ("rule", .text rule.typeName),
          ("tags", .tuple p.tags)] entries
      match Finding.ofMapping data path with
      | .ok finding => return .ok finding
      | .error f => return .error ("Invalid violation mapping: " ++ (← f.text))
  | .value v => .ok (.error ("Expected a Violation, got " ++ v.kindName))

/-- Files what was dropped as a warning. -/
def warn (rule : Rule) (path : String) (reason : Rejection) (s : Session) : Session :=
  s.file (Report.validationOf (.text path) (Failure.described "ViolationValidationError" reason)
    (.text rule.typeName) s.clock)

/-- The findings a script emits, in order; rejected items are filed as warnings when they come. -/
def normaliseSteps (rule : Rule) (path : String) :
    List Step → Session → Except Failure (List Finding) × Session
  | [], s => (.ok [], s)
  | .wait seconds :: rest, s => normaliseSteps rule path rest (s.wait seconds)
  | .fail f :: _, s => (.error f, s)
  | .emit item :: rest, s =>
      match rule.normaliseItem path item with
      | .error f => (.error f, s)
      | .ok (.ok finding) =>
          let next := normaliseSteps rule path rest s
          ((finding :: ·) <$> next.1, next.2)
      | .ok (.error rejection) => normaliseSteps rule path rest (rule.warn path rejection s)

/-- The items of a value that stands for a list of findings. -/
def itemsOf? : Value → Option (List Value)
  | .list items => some items
  | .tuple items => some items
  | _ => none

/-- The findings in whatever a rule handed back. -/
def normalise (rule : Rule) (path : String) (answer : Answer) (s : Session) :
    Except Failure (List Finding) × Session :=
  match answer with
  | .items xs => rule.normaliseSteps path (xs.map .emit) s
  | .stream steps => rule.normaliseSteps path steps s
  | .value .null => (.ok [], s)
  | .value v =>
      match itemsOf? v with
      | some items => rule.normaliseSteps path (items.map fun item => .emit (.value item)) s
      | none => (.ok [], rule.warn path ("Expected a list of violations, got " ++ v.kindName) s)

/-- Runs the body of a tree rule on a tree. A stream is run to its end first; any other sequence runs
while its items are normalised. -/
def perform (rule : Rule) (path : String) (script : Script) (s : Session) :
    Except Failure (List Finding) × Session :=
  let eager := match script.reply with
    | .streamed => { script with reply := .collected }
    | _ => script
  match runScript eager s with
  | (.error f, s) => (.error f, s)
  | (.ok answer, s) => rule.normalise path answer s

/-- Files a warning if a check took longer than allowed. -/
def warnIfSlow (rule : Rule) (path : String) (seconds : Float) (s : Session) : Session :=
  let threshold := s.settings.limits.slowCheckSeconds
  if threshold < seconds then
    s.file (Report.performanceOf (.text path)
      (rule.typeName ++ " took " ++ Number.fixedText 3 seconds ++ "s to check " ++ Text.baseName path)
      (Number.generalText threshold) (.text rule.typeName) s.clock)
  else s

/-- Inspects a parsed file. What the rule fails with is filed, unless it cannot be told. -/
def inspectTree (rule : Rule) (path : String) (script : Script) (s : Session) :
    Except Failure (List Finding) × Session :=
  let start := s.clock
  match rule.perform path script s with
  | (.error f, s) =>
      let (result, s) :=
        s.submit (Report.ofFailure (.text path) f "" (.text rule.typeName) s.clock) []
      (result, s.time rule.typeName .check (s.clock - start))
  | (.ok findings, s) =>
      let seconds := s.clock - start
      (.ok findings, rule.warnIfSlow path seconds (s.time rule.typeName .check seconds))

/-- Reads, parses and inspects a file. -/
def checkFile (ws : Workspace) (rule : Rule) (script : SyntaxTree → String → Script) (path : String)
    (s : Session) : Except Failure (List Finding) × Session :=
  match ws.files.read path with
  | .error f => s.submit (Report.fileAccess (.text path) f (.text rule.typeName) s.clock) []
  | .ok (content, mtime) =>
      let start := s.clock
      match s.fetch ws.grammar path content (.int mtime) with
      | (.error f, s) =>
          let (result, s) :=
            s.submit (Report.parsing (.text path) f (.text rule.typeName) s.clock) []
          (result, s.time rule.typeName .parse (s.clock - start))
      | (.ok tree, s) =>
          rule.inspectTree path (script tree path) (s.time rule.typeName .parse (s.clock - start))

def foundLine (rule : Rule) (path : String) (findings : List Finding) : LogLine :=
  ⟨.rules, .debug, rule.typeName ++ " found " ++ toString findings.length ++ " violation(s) in " ++
    path⟩

/-- Checks a file with a tree rule. Files that the rule does not apply to, and paths that are no
readable file, are passed over. -/
def checkTree (ws : Workspace) (rule : Rule) (script : SyntaxTree → String → Script) (path : String)
    (s : Session) : Except Failure (List Finding) × Session :=
  match rule.appliesTo path with
  | .error f => (.error f, s)
  | .ok applies =>
      if applies && ws.files.isReadable path then
        let start := s.clock
        match rule.checkFile ws script path s with
        | (.error f, s) => (.error f, s.time rule.typeName .total (s.clock - start))
        | (.ok findings, s) =>
            (.ok findings,
              (s.time rule.typeName .total (s.clock - start)).log (rule.foundLine path findings))
      else (.ok [], s)

/-- Checks a file. -/
def check (ws : Workspace) (rule : Rule) (path : String) (s : Session) :
    Except Failure Answer × Session :=
  match rule.body with
  | .direct script => runScript (script path) s
  | .tree script =>
      let (result, s) := rule.checkTree ws script path s
      ((fun findings => .items (findings.map .finding)) <$> result, s)

end Rule

end PhpAudit
