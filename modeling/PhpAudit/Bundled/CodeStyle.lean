import PhpAudit.Bundled.Card
import PhpAudit.Php.Declaration
import PhpAudit.Php.Import
import PhpAudit.Php.IntLiteral

/-!
Code style: how things are named, whether a file has a namespace and uses what it imports, numbers
without a name, long lines, and the endings of controller and model names.
-/

namespace PhpAudit

namespace CodeStyle

def card : RuleCard where
  identifier := "style.code_style"
  typeName := "CodeStyleRule"
  classPath := "php_review.rules.style.code_style.CodeStyleRule"
  name := "Code Style Standards"
  description := "Enforces comprehensive code style standards including naming conventions, " ++
    "structure, and readability."
  category := .style
  tags := ["style", "naming", "structure", "readability", "conventions"]
  declared :=
    [("max_line_length",
      ⟨"integer", .int 120, "Lines longer than this many characters are reported"⟩)]

/-- A capital, then letters and digits, all ASCII. -/
def isPascalCase : List Char → Bool
  | [] => false
  | c :: rest => c.isUpper && rest.all Char.isAlphanum

/-- A small letter, then letters and digits, all ASCII. -/
def isCamelCase : List Char → Bool
  | [] => false
  | c :: rest => c.isLower && rest.all Char.isAlphanum

/-- Whether a character separates the words of a name. -/
def isSeparator (c : Char) : Bool := c == '_' || !Text.isWordChar c

/-- The words of a name: its longest pieces without separators. -/
def wordsFrom (current : List Char) : List Char → List (List Char)
  | [] => if current.isEmpty then [] else [current]
  | c :: rest =>
      if isSeparator c then
        if current.isEmpty then wordsFrom [] rest else current :: wordsFrom [] rest
      else wordsFrom (current ++ [c]) rest

def capitalize : List Char → List Char
  | [] => []
  | c :: rest => Text.upperChars [c] ++ rest

def uncapitalize : List Char → List Char
  | [] => []
  | c :: rest => Text.lowerChars [c] ++ rest

/-- Every word capitalised and joined; a name without words stays as it is. -/
def pascalCase (name : List Char) : List Char :=
  match wordsFrom [] name with
  | [] => name
  | words => words.flatMap capitalize

def camelCase (name : List Char) : List Char := uncapitalize (pascalCase name)

def shortestClassName : Nat := 3

/-- Beginnings that methods with a truth value have. -/
def booleanBeginnings : List String := ["is", "has", "can"]

def namingFinding (path : String) (node : Node) (message badCode fix : String)
    (severity : Severity) : Finding :=
  card.finding path node.startLine message badCode fix severity "naming" []

def checkClassName (path : String) (cls : Node) (name : String) : List Finding :=
  if name.isEmpty then []
  else
    (if isPascalCase name.toList then []
      else [namingFinding path cls ("Class name should use PascalCase: " ++ name) ("class " ++ name)
        ("class " ++ String.ofList (pascalCase name.toList)) .warning]) ++
    (if shortestClassName ≤ name.length then []
      else [namingFinding path cls ("Class name should be descriptive: " ++ name)
        ("class " ++ name) "Use a more descriptive name" .info])

/-- The name of a method with a truth value, made to begin as it should. -/
def booleanName (name : List Char) : List Char := 'i' :: 's' :: capitalize name

def beginsBoolean (name : List Char) : Bool :=
  booleanBeginnings.any fun beginning => beginning.toList.isPrefixOf name

def checkMethodName (path : String) (method : Node) (name : String) (returns : Option String) :
    List Finding :=
  if name.isEmpty || "__".toList.isPrefixOf name.toList then []
  else
    (if isCamelCase name.toList then []
      else [namingFinding path method ("Method name should use camelCase: " ++ name)
        ("function " ++ name) ("function " ++ String.ofList (camelCase name.toList)) .warning]) ++
    (if returns.any (fun type => Text.lower type == "bool") && !beginsBoolean name.toList then
      [namingFinding path method ("Boolean method should start with is/has/can: " ++ name)
        ("function " ++ name) ("function " ++ String.ofList (booleanName name.toList)) .info]
      else [])

def checkNaming (tree : SyntaxTree) (path : String) : List Finding :=
  ((tree.root.findKind [Kind.classDeclaration]).flatMap fun cls =>
      checkClassName path cls (Php.declaredName tree.source cls)) ++
    (tree.root.findKind [Kind.methodDeclaration]).flatMap fun method =>
      checkMethodName path method (Php.declaredName tree.source method)
        (Php.returnType? tree.source method)

/-- Names that a file refers to, in lower case, and its comments. -/
structure References where
  names : List String := []
  comments : List String := []

/-- The nodes below a node that are searched for references, last first. Imports and variables
refer to nothing; neither does the name of a namespace where it is defined. -/
def searched (node : Node) : List Node :=
  if node.isKind [Kind.useDeclaration, Kind.variableName, Kind.comment, Kind.qualifiedName, Kind.name]
  then []
  else if node.isKind [Kind.namespaceDefinition] then
    (node.children.filter fun child => !child.isKind [Kind.namespaceName]).reverse
  else node.children.reverse

/-- Adds what a node itself says: a comment, or the first part of a name. -/
def References.note (source : Bytes) (r : References) (node : Node) : References :=
  if node.isKind [Kind.comment] then { r with comments := r.comments ++ [node.text source] }
  else if node.isKind [Kind.qualifiedName] then
    let first := (Text.cutAt '\\' (Name.normalizeChars (node.text source).toList)).1
    { r with names := String.ofList (Text.lowerChars first) :: r.names }
  else if node.isKind [Kind.name] then
    { r with names := Text.lower (Text.trim (node.text source)) :: r.names }
  else r

theorem sizeAll_filter_le (p : Node → Bool) (nodes : List Node) :
    Node.sizeAll (nodes.filter p) ≤ Node.sizeAll nodes := by
  induction nodes with
  | nil => simp
  | cons n rest ih =>
      by_cases h : p n
      · rw [List.filter_cons_of_pos h, Node.sizeAll, Node.sizeAll]; omega
      · rw [List.filter_cons_of_neg h, Node.sizeAll]; omega

theorem sizeAll_reverse (nodes : List Node) : Node.sizeAll nodes.reverse = Node.sizeAll nodes := by
  induction nodes with
  | nil => rfl
  | cons n rest ih =>
      rw [List.reverse_cons, Node.sizeAll_append, ih, Node.sizeAll, Node.sizeAll, Node.sizeAll]
      omega

theorem sizeAll_searched_lt (node : Node) : Node.sizeAll (searched node) < node.size := by
  rw [Node.size_eq, searched]
  split
  · rw [Node.sizeAll]; omega
  · split
    · have := sizeAll_filter_le (fun child => !child.isKind [Kind.namespaceName]) node.children
      rw [sizeAll_reverse]; omega
    · rw [sizeAll_reverse]; omega

/-- Collects the references of the nodes on the list, later children before earlier ones. -/
def referencesFrom (source : Bytes) (r : References) : List Node → References
  | [] => r
  | node :: rest => referencesFrom source (r.note source node) (searched node ++ rest)
  termination_by pending => Node.sizeAll pending
  decreasing_by
    have := sizeAll_searched_lt node
    simp only [Node.sizeAll, Node.sizeAll_append]; omega

def references (tree : SyntaxTree) : References := referencesFrom tree.source {} [tree.root]

/-- Whether a text has the name as a word of its own, not behind a separator. `before` is the
character in front of the text. -/
def mentionsFrom (name : List Char) (before : Option Char) : List Char → Bool
  | [] => mentionsHere name before []
  | c :: rest => mentionsHere name before (c :: rest) || mentionsFrom name (some c) rest
where
  mentionsHere (name : List Char) (before : Option Char) (cs : List Char) : Bool :=
    !before.any (fun c => Text.isWordChar c || c == '\\') && name.isPrefixOf cs &&
      Text.isWordBoundary (if name.isEmpty then before else name.getLast?)
        (cs.drop name.length).head?

def mentions (name text : String) : Bool := mentionsFrom name.toList none text.toList

/-- Comments joined by newlines, in the order they were met. -/
def References.commentText (r : References) : String := String.intercalate "\n" r.comments

def isUsed (r : References) (i : Import) : Bool :=
  r.names.contains (Text.lower i.localName) || mentions i.localName r.commentText

def unusedImports (tree : SyntaxTree) : List Import :=
  let r := references tree
  (Import.ofTree tree).filter fun i => !isUsed r i

def checkStructure (tree : SyntaxTree) (path : String) : List Finding :=
  (if (tree.root.findKind [Kind.namespaceDefinition]).isEmpty then
    [card.finding path 1 "File should use proper namespace declaration." "No namespace declared"
      "namespace App\\YourNamespace;" .warning "structure" []] else []) ++
  (unusedImports tree).map fun i =>
    card.finding path i.line ("Unused import: " ++ i.name) i.statement "Remove unused import" .warning
      "structure" []

/-- Integers up to this one, and a thousand, need no name. -/
def magicThreshold : Int := 10

def isMagic (value : Int) : Bool := decide (magicThreshold < value) && value != 1000

/-- The integer literals worth naming, outside constant declarations, in source order. -/
def magicNumbers (tree : SyntaxTree) : List Node :=
  tree.root.visit
    (fun found node =>
      if node.isKind [Kind.constDeclaration] then (found, false)
      else if node.isKind [Kind.integer] &&
          (IntLiteral.value? (node.text tree.source)).any isMagic then (found ++ [node], true)
      else (found, true))
    []

def magicFinding (tree : SyntaxTree) (path : String) (node : Node) : Except Failure Finding := do
  let text := node.text tree.source
  let shown ← match IntLiteral.value? text with
    | some value => (Value.int value).written
    | none => .ok "None"
  return card.finding path node.startLine ("Magic number detected: " ++ shown) (Text.trim text)
    "Define as a named constant" .info "readability" []

def magicFindings (tree : SyntaxTree) (path : String) : List Node → Except Failure (List Finding)
  | [] => .ok []
  | node :: rest => do
      let first ← magicFinding tree path node
      let others ← magicFindings tree path rest
      return first :: others

/-- The rows that are too long, from row `number` on. -/
def longLinesFrom (limit : Int) (path : String) (number : Nat) : List (List Char) → List Finding
  | [] => []
  | row :: rest =>
      if (row.length : Int) ≤ limit then longLinesFrom limit path (number + 1) rest
      else
        card.finding path number ("Line is too long (" ++ toString row.length ++ " characters)")
          (String.ofList (Text.trimChars row)) "Break into multiple lines" .warning "readability" [] ::
        longLinesFrom limit path (number + 1) rest

def checkReadability (chosen : Mapping String Value) (tree : SyntaxTree) (path : String) :
    Except Failure (List Finding) := do
  let numbers ← magicFindings tree path (magicNumbers tree)
  let limit ← card.integerOption chosen "max_line_length"
  return numbers ++ longLinesFrom limit path 1 tree.lines

def conventionEndings : List String := ["Controller", "Model"]

/-- Whether a name has the ending somewhere but not at its end. -/
def misplaces (ending name : List Char) : Bool :=
  Text.occursIn ending name && !ending.isSuffixOf name

/-- The name with the ending moved to its end. -/
def withEnding (ending name : List Char) : List Char := Text.removeAll ending name ++ ending

def checkConventions (tree : SyntaxTree) (path : String) : List Finding :=
  (tree.root.findKind [Kind.classDeclaration]).flatMap fun cls =>
    let name := Php.declaredName tree.source cls
    (conventionEndings.filter fun ending => misplaces ending.toList name.toList).map fun ending =>
      card.finding path cls.startLine (ending ++ " class should end with \"" ++ ending ++ "\": " ++ name)
        ("class " ++ name) ("class " ++ String.ofList (withEnding ending.toList name.toList)) .warning
        "conventions" []

def perform (chosen : Mapping String Value) (tree : SyntaxTree) (path : String) :
    Except Failure (List Finding) := do
  let readability ← checkReadability chosen tree path
  return checkNaming tree path ++ checkStructure tree path ++ readability ++
    checkConventions tree path

def build : Value → Except Failure Rule := card.build (fun _ _ => .ok true) perform

end CodeStyle

end PhpAudit
