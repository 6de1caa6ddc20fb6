import PhpAudit.Php.Kind
import PhpAudit.Syntax.Traversal
import PhpAudit.Text.Blank
import PhpAudit.Text.Case

/-!
Parts of class, method and function declarations and of calls.
-/

namespace PhpAudit

namespace Php

/-- Name of a class, method or function; empty where there is none. -/
def declaredName (source : Bytes) (node : Node) : String :=
  Text.trim ((node.fieldText? source "name").getD "")

/-- Visibility keyword of a method, `public` where none is written. -/
def visibility (source : Bytes) (method : Node) : String :=
  match method.firstChildOfKind? [Kind.visibilityModifier] with
  | some modifier => Text.lower (Text.trim (modifier.text source))
  | none => "public"

def isStatic (method : Node) : Bool := (method.firstChildOfKind? [Kind.staticModifier]).isSome

/-- Parameters without the comments between them. -/
def parameters (function : Node) : List Node :=
  let list :=
    match function.childByField? "parameters" with
    | some node => some node
    | none => function.firstChildOfKind? [Kind.formalParameters]
  match list with
  | some node => node.children.filter fun child => !child.isKind [Kind.comment]
  | none => []

def returnType? (source : Bytes) (function : Node) : Option String :=
  (function.childByField? "return_type").map fun node => Text.trim (node.text source)

/-- The class named by a `new` expression; none where it is computed. -/
def classReference? (creation : Node) : Option Node :=
  creation.firstChildOfKind? [Kind.name, Kind.qualifiedName]

/-- Name of the variable or property that a method is called on. -/
def receiver? (source : Bytes) (call : Node) : Option String :=
  match call.childByField? "object" with
  | none => none
  | some target =>
      if target.isKind [Kind.variableName] then
        some (String.ofList ((target.text source).toList.dropWhile (· == '$')))
      else if target.isKind [Kind.memberAccess] then target.fieldText? source "name"
      else none

end Php

end PhpAudit
