import PhpAudit.Bundled.Card
import PhpAudit.Php.Declaration
import PhpAudit.Php.Name

/-!
Laravel practices: controller methods validate their input, code is neither evaluated from text nor
queries written raw, loops run no queries, and methods stay short.
-/

namespace PhpAudit

namespace LaravelPractices

def card : RuleCard where
  identifier := "best_practice.laravel"
  typeName := "LaravelBestPracticesRule"
  classPath := "php_review.rules.best_practices.laravel.LaravelBestPracticesRule"
  name := "Laravel Best Practices"
  description := "Enforces Laravel best practices including validation, security, " ++
    "and common anti-patterns."
  category := .bestPractice
  tags := ["laravel", "best-practices", "validation", "security", "performance"]
  declared :=
    [("max_method_lines",
      ⟨"integer", .int 50, "Methods longer than this many lines are reported"⟩)]

/-- Texts that show that a method validates its input. -/
def validationMarkers : List String := ["validate", "Validator::make", "FormRequest"]

/-- Calls that reach the database. -/
def queryMethods : List String := ["find", "get", "first", "where", "select"]

/-- Whether a method takes input from outside and does not validate it. -/
def isUnvalidated (source : Bytes) (method : Node) : Bool :=
  Php.visibility source method == "public" && !Php.isStatic method &&
    !(Php.parameters method).isEmpty &&
    !validationMarkers.any (Text.contains (method.text source))

def unvalidatedMethods (tree : SyntaxTree) : List Node :=
  ((tree.root.findKind [Kind.classDeclaration]).filter fun cls =>
      Text.contains (Php.declaredName tree.source cls) "Controller").flatMap fun cls =>
    (cls.findKind [Kind.methodDeclaration]).filter (isUnvalidated tree.source)

def checkValidation (tree : SyntaxTree) (path : String) : List Finding :=
  (unvalidatedMethods tree).map fun method =>
    card.finding path method.startLine
      "Public controller method should include validation for user input."
      (Php.declaredName tree.source method ++ "() method")
      "Add Form Request validation or use Validator facade." .warning "validation" []

def isEvaluation (source : Bytes) (call : Node) : Bool :=
  Text.lower (Name.short ((call.fieldText? source "function").getD "")) == "eval"

def isRawQuery (source : Bytes) (call : Node) : Bool :=
  Name.short ((call.fieldText? source "scope").getD "") == "DB" &&
    Text.lower ((call.fieldText? source "name").getD "") == "raw"

def checkSecurity (tree : SyntaxTree) (path : String) : List Finding :=
  ((tree.root.findKind [Kind.functionCall]).filter (isEvaluation tree.source)).map
      (fun call => card.finding path call.startLine "Avoid using eval() as it poses security risks."
        "eval($code);" "Use safe alternatives like json_decode() or custom parsers." .error
        Category.security.name []) ++
    ((tree.root.findKind [Kind.scopedCall]).filter (isRawQuery tree.source)).map
      (fun call => card.finding path call.startLine
        "Avoid raw SQL queries. Use Eloquent ORM or Query Builder." "DB::raw($sql);"
        "Use Eloquent models or Query Builder methods." .warning Category.security.name [])

def isQuery (source : Bytes) (node : Node) : Bool :=
  node.isKind [Kind.memberCall, Kind.nullsafeMemberCall, Kind.scopedCall] &&
    queryMethods.contains (Text.lower ((node.fieldText? source "name").getD ""))

/-- What a loop repeats: its body, or else its last part. -/
def loopBody? (loop : Node) : Option Node :=
  match loop.childByField? "body" with
  | some body => some body
  | none => loop.children.getLast?

def runsQuery (source : Bytes) (loop : Node) : Bool :=
  (loopBody? loop).any fun body => body.walk.any (isQuery source)

def checkLoops (tree : SyntaxTree) (path : String) : List Finding :=
  ((tree.root.findKind [Kind.foreachStatement]).filter (runsQuery tree.source)).map fun loop =>
    card.finding path loop.startLine "Potential N+1 query issue detected in foreach loop."
      "foreach($items as $item) \x7b $item->relation; \x7d"
      "Use eager loading: Model::with('relation')->get()" .warning Category.performance.name []

def checkLength (limit : Int) (tree : SyntaxTree) (path : String) : List Finding :=
  ((tree.root.findKind [Kind.methodDeclaration]).filter fun method =>
      decide (limit < method.lineCount)).map fun method =>
    card.finding path method.startLine
      ("Method " ++ Php.declaredName tree.source method ++ "() is too large (" ++
        toString method.lineCount ++ " lines).")
      "Large method with many responsibilities"
      "Extract logic into service classes or smaller methods." .warning Category.architecture.name
      [("line_count", .int method.lineCount)]

def perform (chosen : Mapping String Value) (tree : SyntaxTree) (path : String) :
    Except Failure (List Finding) := do
  let limit ← card.integerOption chosen "max_method_lines"
  return checkValidation tree path ++ checkSecurity tree path ++ checkLoops tree path ++
    checkLength limit tree path

def build : Value → Except Failure Rule := card.build (fun _ _ => .ok true) perform

end LaravelPractices

end PhpAudit
