import PhpAudit.Rule.Basic
import PhpAudit.Selection.Pattern.Matching
import PhpAudit.Selection.Pattern.Reader
import PhpAudit.Settings.Basic

/-!
Criteria that select rules by their description. Empty criteria accept every rule; otherwise a rule
has to meet all of them. A draft carries loose values for the criteria; checking it normalises
them, and changing one criterion checks all of them again.
-/

namespace PhpAudit

/-- Ranks of categories go from this one, the most urgent, to `Criteria.lastPriority`. -/
def Criteria.firstPriority : Int := 1

def Criteria.lastPriority : Int := 10

/-- A pattern searched for in the class path of a rule. A pattern for byte strings is well formed,
yet fits no class path. -/
inductive ClassPattern where
  | ofText (source : String) (pattern : Pattern)
  | ofBytes (source : Bytes)
  deriving DecidableEq, Repr

namespace ClassPattern

def source : ClassPattern → Value
  | .ofText source _ => .text source
  | .ofBytes source => .bytes source

def occursIn (classPath : String) : ClassPattern → Except Failure Bool
  | .ofText _ pattern => .ok (pattern.occurs classPath.toList)
  | .ofBytes _ => .error (.wrongType "cannot use a bytes pattern on a string-like object")

/-- Why a pattern is refused; its faults of form are faults of the criteria. -/
def refusal (source : Value) (report : String) (fault : PatternFault) : Failure :=
  match fault.valueFailure? with
  | some name => .plain name fault.message
  | none => .configuration ("Invalid class pattern '" ++ source.display ++ "': " ++ report)

def ofText? (source : String) : Except Failure ClassPattern :=
  match Pattern.parse true source.toList with
  | .ok pattern => .ok (.ofText source pattern)
  | .error e => .error (refusal (.text source) (e.text source.toList) e.fault)

/-- Each byte stands for the character of its number, which reports write in ASCII. -/
def ofBytes? (source : Bytes) : Except Failure ClassPattern :=
  let chars := source.map fun b => Char.ofNat b.toNat
  match Pattern.parse false chars with
  | .ok _ => .ok (.ofBytes source)
  | .error e => .error (refusal (.bytes source) (Text.inAscii (e.text chars)) e.fault)

end ClassPattern

structure Criteria where
  /-- Names of accepted categories. -/
  categories : List String := []
  severities : List Severity := []
  /-- A rule needs one of these. -/
  tags : List String := []
  /-- What a rule's being enabled by default has to equal; null accepts both. -/
  enabled : Value := .null
  authors : List String := []
  classPattern : Option ClassPattern := none
  /-- Numbers between which the priority of the rule's category lies. -/
  minPriority : Value := .int Criteria.firstPriority
  maxPriority : Value := .int Criteria.lastPriority

namespace Criteria

/-- Criteria as they were given. -/
structure Draft where
  categories : Value := .tuple []
  severities : Value := .tuple []
  tags : Value := .tuple []
  enabled : Value := .null
  authors : Value := .tuple []
  classPattern : Value := .null
  minPriority : Value := .int Criteria.firstPriority
  maxPriority : Value := .int Criteria.lastPriority

/-- A text, severity or category stands for the sequence of itself. -/
def sequenceOf : Value → Except Failure (List Value)
  | .text s => .ok [.text s]
  | .severity s => .ok [.severity s]
  | .category c => .ok [.category c]
  | v => v.elements

def categoryText : Value → Except Failure String
  | .category c => .ok c.name
  | v => v.written

def checkCategories (v : Value) : Except Failure (List String) := do
  let names ← (← sequenceOf v).mapM categoryText
  match names.filter fun name => (Category.ofName? name).isNone with
  | [] => return names
  | unknown => throw (.configuration
      ("Unknown rule categories: " ++ String.intercalate ", " unknown))

def checkSeverities (v : Value) : Except Failure (List Severity) := do
  let values ← sequenceOf v
  match values.mapM Value.toSeverity with
  | .ok severities => return severities
  | .error f => throw (.configuration ("Unknown rule severity: " ++ (← f.text)))

def checkClassPattern : Value → Except Failure (Option ClassPattern)
  | .null => .ok none
  | .text source => some <$> ClassPattern.ofText? source
  | .bytes source => some <$> ClassPattern.ofBytes? source
  | v =>
      match v.unkeyable? with
      | some bad => .error (.unkeyable bad)
      | none => .error (.wrongType "first argument must be string or compiled pattern")

/-- Whether a number is at most another; other values have no order. -/
def atMost (a b : Value) : Except Failure Bool :=
  match a.num?, b.num? with
  | some x, some y => .ok (x.le y)
  | _, _ => .error (.unordered "<=" a b)

/-- Whether a number lies between two others. -/
def within (low v high : Value) : Except Failure Bool := do
  if ← atMost low v then atMost v high else return false

def checkPriorities (low high : Value) : Except Failure Unit := do
  let ordered ←
    if ← within (.int firstPriority) low high then atMost high (.int lastPriority) else pure false
  if ordered then return ()
  else throw (.configuration ("Priority range must lie within " ++ toString firstPriority ++ "-" ++
    toString lastPriority ++ ", got " ++ (← low.written) ++ "-" ++ (← high.written)))

def texts (v : Value) : Except Failure (List String) := do (← sequenceOf v).mapM Value.written

/-- The criteria of a draft; the first that is not valid is reported. -/
def Draft.check (d : Draft) : Except Failure Criteria := do
  let categories ← checkCategories d.categories
  let severities ← checkSeverities d.severities
  let classPattern ← checkClassPattern d.classPattern
  checkPriorities d.minPriority d.maxPriority
  let tags ← texts d.tags
  let authors ← texts d.authors
  return {
    categories := categories
    severities := severities
    tags := tags
    enabled := d.enabled
    authors := authors
    classPattern := classPattern
    minPriority := d.minPriority
    maxPriority := d.maxPriority }

def draft (c : Criteria) : Draft where
  categories := .tuple (c.categories.map .text)
  severities := .tuple (c.severities.map .severity)
  tags := .tuple (c.tags.map .text)
  enabled := c.enabled
  authors := .tuple (c.authors.map .text)
  classPattern := .ofOption ClassPattern.source c.classPattern
  minPriority := c.minPriority
  maxPriority := c.maxPriority

def byCategory (c : Criteria) (values : List Value) : Except Failure Criteria :=
  Draft.check { c.draft with categories := .tuple values }

def bySeverity (c : Criteria) (values : List Value) : Except Failure Criteria :=
  Draft.check { c.draft with severities := .tuple values }

def byTags (c : Criteria) (values : List Value) : Except Failure Criteria :=
  Draft.check { c.draft with tags := .tuple values }

def byEnabled (c : Criteria) (enabled : Value) : Except Failure Criteria :=
  Draft.check { c.draft with enabled := enabled }

def byAuthor (c : Criteria) (values : List Value) : Except Failure Criteria :=
  Draft.check { c.draft with authors := .tuple values }

def byClassName (c : Criteria) (pattern : Value) : Except Failure Criteria :=
  Draft.check { c.draft with classPattern := pattern }

def byPriority (c : Criteria) (low high : Value) : Except Failure Criteria :=
  Draft.check { c.draft with minPriority := low, maxPriority := high }

def highPriority (c : Criteria) : Except Failure Criteria := c.byPriority (.int 1) (.int 3)

def mediumPriority (c : Criteria) : Except Failure Criteria := c.byPriority (.int 4) (.int 6)

def lowPriority (c : Criteria) : Except Failure Criteria := c.byPriority (.int 7) (.int 10)

def ofSettings (s : FilterSettings) : Except Failure Criteria :=
  Draft.check {
    categories := .texts s.categories
    severities := .texts s.severities
    tags := .texts s.tags
    enabled := .ofOption .bool s.enabled
    authors := .texts s.authors
    classPattern := .ofOption .text s.classPattern
    minPriority := .int s.minPriority
    maxPriority := .int s.maxPriority }

def fieldNames : List String :=
  ["categories", "severities", "tags", "enabled", "authors", "class_pattern", "min_priority",
    "max_priority"]

/-- Criteria from named fields. -/
def ofFields (data : Mapping String Value) : Except Failure Criteria := do
  match data.find? fun e => !fieldNames.contains e.1 with
  | some e => throw (.wrongType
      ("RuleFilter.__init__() got an unexpected keyword argument '" ++ e.1 ++ "'"))
  | none => pure ()
  let get (key : String) (fallback : Value) : Value := (Mapping.get? data key).getD fallback
  Draft.check {
    categories := get "categories" (.tuple [])
    severities := get "severities" (.tuple [])
    tags := get "tags" (.tuple [])
    enabled := get "enabled" .null
    authors := get "authors" (.tuple [])
    classPattern := get "class_pattern" .null
    minPriority := get "min_priority" (.int firstPriority)
    maxPriority := get "max_priority" (.int lastPriority) }

/-- Whether nothing is asked of a rule. -/
def isEmpty (c : Criteria) : Bool :=
  c.categories.isEmpty && c.severities.isEmpty && c.tags.isEmpty && c.enabled.equals .null &&
    c.authors.isEmpty && c.classPattern.isNone && c.minPriority.equals (.int firstPriority) &&
    c.maxPriority.equals (.int lastPriority)

end Criteria

namespace Rule

/-- The standard category of a rule; any other category ranks as general. -/
def standardCategory (rule : Rule) : Except Failure Category := do
  if ← rule.category.namesCategory then
    match rule.category with
    | .text name => return (Category.ofName? name).getD .general
    | _ => return .general
  else return .general

def priority (rule : Rule) : Except Failure Nat := (·.priority) <$> rule.standardCategory

end Rule

namespace Criteria

/-- Whether a description meets the criteria on its own fields. -/
def meetsProfile (c : Criteria) (p : RuleProfile) : Bool :=
  (c.categories.isEmpty || c.categories.any fun name => (Value.text name).equals p.category) &&
    (c.severities.isEmpty || c.severities.contains p.severity) &&
    (c.tags.isEmpty || c.tags.any fun tag => p.tags.any (Value.text tag).equals) &&
    (c.enabled.equals .null || c.enabled.equals p.enabledByDefault) &&
    (c.authors.isEmpty || c.authors.any fun author => (Value.text author).equals p.author)

def meetsClassPattern (c : Criteria) (classPath : String) : Except Failure Bool :=
  match c.classPattern with
  | none => .ok true
  | some p => p.occursIn classPath

/-- Whether a rule meets every criterion. -/
def accepts (c : Criteria) (rule : Rule) : Except Failure Bool := do
  let p ← rule.profile
  if !c.meetsProfile p then return false
  if !(← c.meetsClassPattern rule.classPath) then return false
  within c.minPriority (.int (← rule.priority)) c.maxPriority

/-- The rules that meet the criteria, in order. -/
def select (c : Criteria) : List Rule → Except Failure (List Rule)
  | [] => .ok []
  | rule :: rest => do
      let accepted ← c.accepts rule
      let others ← c.select rest
      return if accepted then rule :: others else others

def toMapping (c : Criteria) : Mapping String Value :=
  [("categories", .texts c.categories), ("severities", .texts (c.severities.map (·.name))),
    ("tags", .texts c.tags), ("enabled", c.enabled), ("authors", .texts c.authors),
    ("class_pattern", .ofOption ClassPattern.source c.classPattern),
    ("min_priority", c.minPriority), ("max_priority", c.maxPriority), ("is_empty", .bool c.isEmpty)]

end Criteria

end PhpAudit
