import PhpAudit.Bundled.Card
import PhpAudit.Php.Declaration
import PhpAudit.Php.Import
import PhpAudit.Session

/-!
Raw MongoDB access in controllers. Every place where a controller touches the driver is a usage:
imports, creations, static calls, calls on objects that look like driver handles, and the old
functions. Names count as the driver's when they start with one of the configured patterns.
-/

namespace PhpAudit

namespace MongoAccess

def defaultTargets : List String := ["app/Http/Controllers/"]

def defaultPatterns : List String :=
  ["MongoDB\\", "Mongo\\", "MongoDB\\Client", "MongoDB\\Collection", "MongoDB\\Database",
    "MongoDB\\Cursor", "MongoDB\\BSON\\"]

def card : RuleCard where
  identifier := "architecture.no_mongo_in_controller"
  typeName := "NoMongoInControllerRule"
  classPath := "php_review.rules.architecture.no_mongo_in_controller.NoMongoInControllerRule"
  name := "No MongoDB in Controllers"
  description := "Detects raw MongoDB access inside Laravel controllers and suggests using a " ++
    "Repository layer for better separation of concerns and maintainability."
  category := .architecture
  tags := ["laravel", "mongodb", "architecture", "repository-pattern", "separation-of-concerns"]
  declared :=
    [("target_paths", ⟨"array", .list (defaultTargets.map .text), "Paths to scan for MongoDB usage"⟩),
      ("mongo_patterns",
        ⟨"array", .list (defaultPatterns.map .text), "MongoDB namespace patterns to detect"⟩),
      ("suggested_fix",
        ⟨"string", .text "Use a Repository layer to abstract MongoDB queries.",
          "Suggested fix for MongoDB usage"⟩)]

def message : String := "Avoid raw MongoDB access inside controllers."

/-- Receivers that are almost always a driver handle. -/
def receivers : List String := ["collection", "client", "db", "mongo", "mongodb"]

inductive UsageKind where
  | import
  | creation
  | staticCall
  | methodCall
  | functionCall
  deriving DecidableEq, Repr

def UsageKind.name : UsageKind → String
  | .import => "use"
  | .creation => "new"
  | .staticCall => "static_call"
  | .methodCall => "method_call"
  | .functionCall => "function_call"

structure Usage where
  kind : UsageKind
  line : Nat
  code : String
  deriving DecidableEq, Repr

def Usage.toMapping (u : Usage) : Mapping String Value :=
  [("type", .text u.kind.name), ("line", .int u.line), ("code", .text u.code)]

/-- Whether one of the target paths occurs in a path. A target that is no text is an error, if the
search reaches it. -/
def targets (path : List Char) : List Value → Except Failure Bool
  | [] => .ok false
  | .text target :: rest =>
      if Text.occursIn target.toList path then .ok true else targets path rest
  | v :: _ => .error (.wrongType
      ("'in <string>' requires string as left operand, not " ++ v.kindName))

/-- A pattern as it is compared: trimmed, and without leading separators. Empty values stand for
the empty text. -/
def patternChars (v : Value) : Except Failure (List Char) :=
  if v.isEmpty then .ok []
  else match v with
    | .text s => .ok (Name.normalizeChars s.toList)
    | .bytes _ => .error (.wrongType "a bytes-like object is required, not 'str'")
    | v => .error (.noAttribute ("'" ++ v.kindName ++ "' object has no attribute 'strip'"))

/-- Whether a name starts with one of the patterns. -/
def matchesPattern (name : List Char) : List Value → Except Failure Bool
  | [] => .ok false
  | v :: rest => do
      let pattern ← patternChars v
      if pattern.isPrefixOf name then return true else matchesPattern name rest

def isDriverName (patterns : List Value) (name : String) : Except Failure Bool :=
  matchesPattern (Name.normalizeChars name.toList) patterns

/-- A text unless it is empty. -/
def nonEmpty (text : Option String) (fallback : String) : String :=
  match text with
  | some s => if s.isEmpty then fallback else s
  | none => fallback

/-- A usage of a class name, if it is the driver's. -/
def classUsage? (patterns : List Value) (name : String) (usage : Usage) :
    Except Failure (Option Usage) := do
  if ← isDriverName patterns name then return some usage else return none

/-- The usage a node is, if it is one. -/
def classify (patterns : List Value) (aliases : Name.Aliases) (source : Bytes) (node : Node) :
    Except Failure (Option Usage) :=
  if node.isKind [Kind.objectCreation] then
    match Php.classReference? node with
    | none => .ok none
    | some reference =>
        let name := Name.resolve aliases (reference.text source)
        classUsage? patterns name ⟨.creation, node.startLine, "new " ++ name ++ "()"⟩
  else if node.isKind [Kind.scopedCall] then
    let scope := nonEmpty (node.fieldText? source "scope") ""
    if scope.isEmpty then .ok none
    else
      let name := Name.resolve aliases scope
      let method := nonEmpty (node.fieldText? source "name") "method"
      classUsage? patterns name ⟨.staticCall, node.startLine, name ++ "::" ++ method ++ "()"⟩
  else if node.isKind [Kind.memberCall, Kind.nullsafeMemberCall] then
    let receiver := nonEmpty (Php.receiver? source node) ""
    if !receiver.isEmpty && receivers.contains (Text.lower receiver) then
      let method := nonEmpty (node.fieldText? source "name") "method"
      .ok (some ⟨.methodCall, node.startLine, "$" ++ receiver ++ "->" ++ method ++ "()"⟩)
    else .ok none
  else if node.isKind [Kind.functionCall] then
    let function := Name.short (nonEmpty (node.fieldText? source "function") "")
    if "mongodb_".toList.isPrefixOf (Text.lower function).toList then
      .ok (some ⟨.functionCall, node.startLine, function ++ "()"⟩)
    else .ok none
  else .ok none

/-- The imports that are usages. -/
def importUsages (patterns : List Value) : List Import → Except Failure (List Usage)
  | [] => .ok []
  | i :: rest => do
      let flagged ← if i.kind = "class" then isDriverName patterns i.name else pure false
      let others ← importUsages patterns rest
      return if flagged then ⟨.import, i.line, i.statement⟩ :: others else others

/-- The nodes that are usages. -/
def nodeUsages (patterns : List Value) (aliases : Name.Aliases) (source : Bytes) :
    List Node → Except Failure (List Usage)
  | [] => .ok []
  | node :: rest => do
      let usage ← classify patterns aliases source node
      let others ← nodeUsages patterns aliases source rest
      return usage.toList ++ others

/-- All usages by line; on one line imports come first, then nodes in source order. -/
def usages (patterns : List Value) (tree : SyntaxTree) : Except Failure (List Usage) := do
  let imports := Import.ofTree tree
  let first ← importUsages patterns imports
  let second ← nodeUsages patterns (Import.aliases imports) tree.source tree.root.walk
  return (first ++ second).mergeSort fun a b => decide (a.line ≤ b.line)

def patternsOf (chosen : Mapping String Value) : List Value := card.arrayOption chosen "mongo_patterns"

def appliesTo (chosen : Mapping String Value) (path : String) : Except Failure Bool :=
  targets (path.toList.map fun c => if c = '\\' then '/' else c)
    (card.arrayOption chosen "target_paths")

def perform (chosen : Mapping String Value) (tree : SyntaxTree) (path : String) :
    Except Failure (List Finding) := do
  let found ← usages (patternsOf chosen) tree
  return found.map fun u =>
    card.finding path u.line message u.code (card.option chosen "suggested_fix").display .warning
      card.category.name [("usage", .text u.kind.name)]

def build : Value → Except Failure Rule := card.build appliesTo perform

/-- Lists the usages of one file. Files outside the target paths, and those that cannot be read or
parsed, have none; the reason is filed. A text that is no path cannot be asked for. -/
def usageDetails (ws : Workspace) (rule : Rule) (path : String) (s : Session) :
    Except Failure (List Usage) × Session :=
  match rule.appliesTo path with
  | .error f => (.error f, s)
  | .ok false => (.ok [], s)
  | .ok true =>
      if !Files.isPath path then (.error .notPath, s)
      else
        match ws.files.read path with
        | .error f => s.submit (Report.fileAccess (.text path) f (.text rule.typeName) s.clock) []
        | .ok (content, mtime) =>
            match s.fetch ws.grammar path content (.int mtime) with
            | (.error f, s) =>
                s.submit (Report.parsing (.text path) f (.text rule.typeName) s.clock) []
            | (.ok tree, s) => (usages (patternsOf rule.chosen) tree, s)

end MongoAccess

end PhpAudit
