import PhpAudit.Number.Format
import PhpAudit.Text.Quoted
import PhpAudit.Value.Basic

/-!
How values are written: on their own a text stands for itself, inside another value it is quoted.
-/

namespace PhpAudit

namespace Value

def joined (left : String) (parts : List String) (right : String) : String :=
  left ++ String.intercalate ", " parts ++ right

mutual

/-- A value as part of another one. -/
def inspect : Value → String
  | .null => "None"
  | .bool b => if b then "True" else "False"
  | .int n => toString n
  | .float x => Number.shortestText x
  | .text s => Text.quoted s
  | .bytes b => Text.quotedBytes b
  | .list items => joined "[" (inspectAll items) "]"
  | .tuple [item] => "(" ++ inspect item ++ ",)"
  | .tuple items => joined "(" (inspectAll items) ")"
  | .map entries => joined "\x7b" (inspectEntries entries) "\x7d"
  | .severity s => "<Severity." ++ s.label ++ ": " ++ Text.quoted s.name ++ ">"
  | .category c => "<RuleCategory." ++ c.label ++ ": " ++ Text.quoted c.name ++ ">"
  | .object thing => thing.quoted.toOption.getD ""

def inspectAll : List Value → List String
  | [] => []
  | v :: rest => inspect v :: inspectAll rest

def inspectEntries : List (String × Value) → List String
  | [] => []
  | (k, v) :: rest => (Text.quoted k ++ ": " ++ inspect v) :: inspectEntries rest

end

/-- A value on its own. -/
def display : Value → String
  | .text s => s
  | .severity s => "Severity." ++ s.label
  | .category c => "RuleCategory." ++ c.label
  | .object thing => thing.text.toOption.getD ""
  | v => inspect v

end Value

end PhpAudit
