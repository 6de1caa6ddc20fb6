import PhpAudit.Number.Numeral
import PhpAudit.Value.Text

/-!
Failures: what goes wrong while a rule is built or run. A failure has the name reports show, the
families it belongs to, which decide how it is filed, and a text. A value cannot be written if it
holds an integer of very many digits or an object whose text fails.
-/

namespace PhpAudit

/-- What went wrong. -/
structure Failure where
  name : String
  /-- Several if its class has several parents, none for a failure of no particular kind. -/
  families : List FailureFamily
  /-- Made when it is asked for, which may fail in turn. -/
  text : Except Failure String
  /-- The line it says it is about; a failure that says nothing is about the first one. -/
  line : Value

namespace Failure

/-- The failure a computation ends in, if it does. -/
def of? {α : Type} : Except Failure α → Option Failure
  | .error f => some f
  | .ok _ => none

def isA (f : Failure) (family : FailureFamily) : Bool := f.families.contains family

/-- Name and text, or the name alone. -/
def described (name text : String) : String := if text.isEmpty then name else name ++ ": " ++ text

def describe (f : Failure) : Except Failure String := described f.name <$> f.text

/-- A failure of no particular kind. -/
def plain (name text : String) : Failure := ⟨name, [], .ok text, .int 1⟩

def wrongType (text : String) : Failure := ⟨"TypeError", [.types], .ok text, .int 1⟩

def noAttribute (text : String) : Failure := ⟨"AttributeError", [.types], .ok text, .int 1⟩

def wrongValue (text : String) : Failure := plain "ValueError" text

def parsing (text : String) (line : Int) : Failure :=
  ⟨"ParseError", [.parsing], .ok text, .int line⟩

def configuration (text : String) : Failure :=
  ⟨"ConfigurationError", [.configuration], .ok text, .int 1⟩

def invalidFinding (text : String) : Failure :=
  ⟨"ViolationValidationError", [.types], .ok text, .int 1⟩

def resourceLimit (text : String) : Failure :=
  ⟨"ResourceLimitExceeded", [.resources], .ok text, .int 1⟩

def timeLimit (text : String) : Failure := ⟨"TimeLimitExceeded", [.time], .ok text, .int 1⟩

def unknownRuleText (identifier : String) : String :=
  "Rule '" ++ identifier ++ "' not found. Check the identifier against the registered rules."

def unknownRule (identifier : String) : Failure :=
  ⟨"UnknownRuleError", [.configuration], .ok (unknownRuleText identifier), .int 1⟩

def notIterable (v : Value) : Failure := wrongType ("'" ++ v.kindName ++ "' object is not iterable")

def unkeyable (v : Value) : Failure := wrongType ("unhashable type: '" ++ v.kindName ++ "'")

/-- A comparison of values that have no order. -/
def unordered (sign : String) (a b : Value) : Failure :=
  wrongType ("'" ++ sign ++ "' not supported between instances of '" ++ a.kindName ++ "' and '" ++
    b.kindName ++ "'")

/-- An integer that cannot be written. -/
def tooManyDigits : Failure :=
  wrongValue ("Exceeds the limit (4300 digits) for integer string conversion; " ++
    "use sys.set_int_max_str_digits() to increase the limit")

/-- A failure of the operating system about a file. -/
def onFile (name : String) (code : Nat) (text path : String) : Failure :=
  ⟨name, [.access], .ok ("[Errno " ++ toString code ++ "] " ++ text ++ ": " ++ Text.quoted path),
    .int 1⟩

def missingFile (path : String) : Failure :=
  onFile "FileNotFoundError" 2 "No such file or directory" path

def isDirectory (path : String) : Failure := onFile "IsADirectoryError" 21 "Is a directory" path

def notDirectory (path : String) : Failure := onFile "NotADirectoryError" 20 "Not a directory" path

def nameTooLong (path : String) : Failure := onFile "OSError" 36 "File name too long" path

/-- A text that cannot be a path. -/
def notPath : Failure := wrongValue "embedded null byte"

def permissionDenied (path : String) : Failure := onFile "PermissionError" 13 "Permission denied" path

/-- A failure that is about no line in particular. -/
def ofComplaint (c : Complaint) : Failure := ⟨c.name, c.families, .ok c.text, .int 1⟩

/-- The failure that the making of a text ends in, if it does. -/
def ofText? : Except Complaint String → Option Failure
  | .error c => some (ofComplaint c)
  | .ok _ => none

end Failure

namespace Value

mutual

/-- Why a value cannot be written as part of another one, if it cannot be. -/
def unquotable? : Value → Option Failure
  | .int n =>
      if (Nat.toDigits 10 n.natAbs).length ≤ Numeral.maxDecimalDigits then none
      else some .tooManyDigits
  | .list items => unquotableIn? items
  | .tuple items => unquotableIn? items
  | .map entries => unquotableAt? entries
  | .object thing => Failure.ofText? thing.quoted
  | _ => none

def unquotableIn? : List Value → Option Failure
  | [] => none
  | v :: rest => (unquotable? v).or (unquotableIn? rest)

def unquotableAt? : List (String × Value) → Option Failure
  | [] => none
  | (_, v) :: rest => (unquotable? v).or (unquotableAt? rest)

end

/-- Why a value cannot be written on its own, if it cannot be. -/
def unwritable? : Value → Option Failure
  | .object thing => Failure.ofText? thing.text
  | v => unquotable? v

/-- The text of a value on its own. -/
def written (v : Value) : Except Failure String :=
  match v.unwritable? with
  | some f => .error f
  | none => .ok v.display

/-- The text of a value as part of another one. -/
def inspected (v : Value) : Except Failure String :=
  match v.unquotable? with
  | some f => .error f
  | none => .ok v.inspect

/-- A line as it is recorded: numbers from 1 on stay as they are, what is empty or less becomes 1. -/
def lineNumber (v : Value) : Except Failure Value :=
  if v.isEmpty then .ok (.int 1)
  else
    match v.num? with
    | some n => .ok (if Num.le (.int 1) n then v else .int 1)
    | none => .error (.unordered ">=" v (.int 1))

end Value

end PhpAudit
