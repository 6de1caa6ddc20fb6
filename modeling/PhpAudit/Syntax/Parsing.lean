import PhpAudit.Failure
import PhpAudit.Syntax.Grammar
import PhpAudit.Syntax.Traversal
import PhpAudit.Text.Blank

/-!
Parsing as callers see it: a clean tree or a located fault. The fault is told from the first node,
in source order of the kept tree, that is missing or stands for an error.
-/

namespace PhpAudit

inductive ParseFault where
  | unlocated
  | missing (kind : String) (line : Nat)
  | unterminatedComment (line : Nat)
  | unterminatedString (line : Nat)
  | unexpected (snippet : String) (line : Nat)
  deriving DecidableEq, Repr

namespace ParseFault

/-- Longest snippet that is quoted whole. -/
def snippetLength : Nat := 30

def line : ParseFault → Nat
  | .unlocated => 1
  | .missing _ line | .unterminatedComment line | .unterminatedString line | .unexpected _ line => line

def message : ParseFault → String
  | .unlocated => "Syntax error"
  | .missing kind line => "Syntax error, missing '" ++ kind ++ "' on line " ++ toString line
  | .unterminatedComment line =>
      "Syntax error, unterminated comment starting on line " ++ toString line
  | .unterminatedString line =>
      "Syntax error, unterminated string starting on line " ++ toString line
  | .unexpected snippet line =>
      "Syntax error, unexpected '" ++ snippet ++ "' on line " ++ toString line

def toFailure (fault : ParseFault) : Failure := .parsing fault.message fault.line

/-- A line as it is quoted; what is too long is cut and has dots behind it. -/
def shorten (line : List Char) : List Char :=
  if snippetLength < line.length then line.take snippetLength ++ "...".toList else line

/-- What is quoted of a trimmed text: its first line, if it has one, and the end of the file for an
empty text. -/
def snippet? (trimmed : List Char) : Option (List Char) :=
  (if trimmed.isEmpty then some "end of file".toList else (Text.splitLines trimmed).head?).map shorten

/-- Whether nothing but blanks follows the node. -/
def runsToEnd (source : Bytes) (node : Node) : Bool :=
  decide ((Text.trimEndBytes source).length ≤ node.endByte)

def opensComment (cs : List Char) : Bool := "/*".toList.isPrefixOf cs

def opensString (cs : List Char) : Bool :=
  cs.head?.any (fun c => c == '\'' || c == '"' || c == Char.ofNat 0x60) || "<<<".toList.isPrefixOf cs

/-- The fault an error or missing node stands for. -/
def ofNode (source : Bytes) (node : Node) : ParseFault :=
  if node.isMissing then .missing node.kind node.startLine
  else
    let trimmed := Text.trimChars (node.text source).toList
    if runsToEnd source node && opensComment trimmed then .unterminatedComment node.startLine
    else if runsToEnd source node && opensString trimmed then .unterminatedString node.startLine
    -- A trimmed text always has a snippet, so the default is never taken.
    else .unexpected (String.ofList ((snippet? trimmed).getD [])) node.startLine

def ofTree (source : Bytes) (root : Node) : ParseFault :=
  match root.findFirst? fun node => node.isMissing || node.isError with
  | none => .unlocated
  | some node => ofNode source node

end ParseFault

/-- The tree of a source text, or the first fault if the grammar reported one. -/
def Reading.parse (reading : Reading) (source : Bytes) : Except ParseFault SyntaxTree :=
  let root := reading.root.convert
  if reading.hasError then .error (ParseFault.ofTree source root) else .ok ⟨root, source⟩

end PhpAudit
