import PhpAudit.Php.Kind
import PhpAudit.Php.Name
import PhpAudit.Syntax.Traversal
import PhpAudit.Text.Word

/-!
Names that a file imports by `use` declarations: plain, aliased and grouped, of classes, functions
and constants.
-/

namespace PhpAudit

structure Import where
  /-- Full name without leading separator. -/
  name : String
  /-- What the file calls it. -/
  localName : String
  /-- `class`, `function` or `const`. -/
  kind : String
  line : Nat
  declaration : Node

namespace Import

/-- The import written as a statement of its own. -/
def statement (i : Import) : String :=
  let kind := if i.kind = "class" then "" else i.kind ++ " "
  if i.localName ≠ Name.short i.name then "use " ++ kind ++ i.name ++ " as " ++ i.localName ++ ";"
  else "use " ++ kind ++ i.name ++ ";"

/-- A lower-case ASCII letter in either case; the long s stands for an s, and the dotless and the
dotted capital i for an i. -/
def spells (letter c : Char) : Bool :=
  c.toLower == letter || (letter == 's' && c.toNat == 0x17F) ||
    (letter == 'i' && (c.toNat == 0x130 || c.toNat == 0x131))

/-- Splits a word off the front, in any case. -/
def takeWord? : List Char → List Char → Option (List Char × List Char)
  | [], cs => some ([], cs)
  | _ :: _, [] => none
  | letter :: word, c :: cs =>
      if spells letter c then (takeWord? word cs).map fun found => (c :: found.1, found.2) else none

/-- A word that does not go on. -/
def takeWholeWord? (word cs : List Char) : Option (List Char) :=
  match takeWord? word cs with
  | some (found, rest) =>
      if Text.isWordBoundary found.getLast? rest.head? then some found else none
  | none => none

/-- What a declaration imports, told from its text: functions, constants or else classes. -/
def kindOf (text : List Char) : String :=
  match takeWord? "use".toList (text.dropWhile Text.isBlank) with
  | some (_, rest) =>
      let body := rest.dropWhile Text.isBlank
      if body.length = rest.length then "class"
      else
        match takeWholeWord? "function".toList body, takeWholeWord? "const".toList body with
        | some word, _ => String.ofList (Text.lowerChars word)
        | none, some word => String.ofList (Text.lowerChars word)
        | none, none => "class"
  | none => "class"

/-- Name and alias of one clause, below the common name of its group if there is one. -/
def ofClause? (source : Bytes) (group : String) (clause : Node) : Option (String × String) :=
  match clause.childrenOfKind [Kind.qualifiedName, Kind.namespaceName, Kind.name] with
  | [] => none
  | first :: others =>
      let path := Name.normalize (first.text source)
      let name := if group.isEmpty then path else group ++ "\\" ++ path
      let aliasNode : Option Node :=
        match clause.childByField? "alias" with
        | some node => some node
        | none =>
            match (clause.firstChildOfKind? [Kind.aliasingClause]).bind
                (·.firstChildOfKind? [Kind.name]) with
            | some node => some node
            | none => others.getLast?
      some (name, match aliasNode with
        | some node => Text.trim (node.text source)
        | none => Name.short name)

/-- The common name of a grouped declaration; empty for the other forms. -/
def groupName (source : Bytes) (declaration : Node) : String :=
  match declaration.firstChildOfKind? [Kind.namespaceName, Kind.qualifiedName] with
  | some node => Name.normalize (node.text source)
  | none => ""

/-- The imports of one declaration. -/
def ofDeclaration (source : Bytes) (declaration : Node) : List Import :=
  let kind := kindOf (declaration.text source).toList
  let imports (group : String) (clauses : List Node) : List Import :=
    clauses.filterMap fun clause =>
      match ofClause? source group clause with
      | some (name, localName) => some ⟨name, localName, kind, clause.startLine, declaration⟩
      | none => none
  match declaration.firstChildOfKind? [Kind.useGroup] with
  | some node =>
      imports (groupName source declaration) (node.childrenOfKind [Kind.useClause, Kind.useGroupClause])
  | none => imports "" (declaration.childrenOfKind [Kind.useClause])

/-- All imports of a file in source order. -/
def ofTree (tree : SyntaxTree) : List Import :=
  (tree.root.findKind [Kind.useDeclaration]).flatMap (ofDeclaration tree.source)

/-- Class imports by lower-cased alias; of two with one alias the later counts. -/
def aliases (imports : List Import) : Name.Aliases :=
  (imports.filter (·.kind == "class")).foldl
    (fun acc i => Mapping.put acc (Text.lower i.localName) i.name) []

end Import

end PhpAudit
