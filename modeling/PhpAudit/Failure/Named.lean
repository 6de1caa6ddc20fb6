import PhpAudit.Failure

/-!
Failures given by class name and arguments, as a scripted rule raises them. The text follows from
the arguments: none is empty, one is that value, several are shown as a tuple; failures of the
operating system, of text decoding and of look-ups by key have forms of their own.
-/

namespace PhpAudit

namespace Failure

/-- Error numbers of the operating system and the class they belong to. -/
def systemClasses : List (Nat × String) :=
  [(1, "PermissionError"), (2, "FileNotFoundError"), (3, "ProcessLookupError"),
    (4, "InterruptedError"), (10, "ChildProcessError"), (11, "BlockingIOError"),
    (13, "PermissionError"), (17, "FileExistsError"), (20, "NotADirectoryError"),
    (21, "IsADirectoryError"), (32, "BrokenPipeError"), (103, "ConnectionAbortedError"),
    (104, "ConnectionResetError"), (108, "BrokenPipeError"), (110, "TimeoutError"),
    (111, "ConnectionRefusedError"), (114, "BlockingIOError"), (115, "BlockingIOError")]

/-- Classes of operating system failures, the general one first. -/
def systemNames : List String :=
  ["OSError", "IOError", "EnvironmentError", "ConnectionError"] ++ systemClasses.map (·.2)

def isSystemName (name : String) : Bool := systemNames.contains name

/-- The families of a class, of which no named one has more than one. -/
def familiesOf (name : String) : List FailureFamily :=
  if name = "ParseError" then [.parsing]
  else if name = "MemoryError" ∨ name = "ResourceLimitExceeded" then [.resources]
  else if name = "TimeLimitExceeded" then [.time]
  else if name = "ConfigurationError" ∨ name = "UnknownRuleError" then [.configuration]
  else if isSystemName name ∨ name = "UnicodeDecodeError" then [.access]
  else if ["TypeError", "AttributeError", "KeyError", "IndexError",
      "ViolationValidationError"].contains name then [.types]
  else []

/-- The general class becomes the one its error number belongs to. -/
def systemClass (name : String) (args : List Value) : String :=
  let general := ["OSError", "IOError", "EnvironmentError"].contains name
  match general, args with
  | true, .int code :: _ :: _ =>
      if code < 0 then "OSError" else (systemClasses.lookup code.toNat).getD "OSError"
  | true, _ => "OSError"
  | false, _ => name

def plainText : List Value → Except Failure String
  | [] => .ok ""
  | [v] => v.written
  | args => (Value.tuple args).written

def systemText : List Value → Except Failure String
  | code :: text :: rest => do
      let head := "[Errno " ++ (← code.written) ++ "] " ++ (← text.written)
      match rest with
      | [] | .null :: _ => return head
      | file :: _ => return head ++ ": " ++ (← file.inspected)
  | args => plainText args

def escapedCode (c : Char) : String :=
  if c.toNat ≤ 0xFF then "\\x" ++ String.ofList (Text.hexCode 2 c.toNat)
  else if c.toNat ≤ 0xFFFF then "\\u" ++ String.ofList (Text.hexCode 4 c.toNat)
  else "\\U" ++ String.ofList (Text.hexCode 8 c.toNat)

/-- A text that was made although something went wrong on the way. -/
def brokenText : Failure :=
  plain "SystemError" "<class 'str'> returned a result with an exception set"

/-- The position of what could not be converted: one place that the input has, or a span. -/
def position (one : Nat → Option String) (many : String) (start stop : Int) : String :=
  let place := if stop = start + 1 then one start.toNat else none
  match place with
  | some shown => shown ++ " in position " ++ toString start
  | none => many ++ " in position " ++ toString start ++ "-" ++ toString (stop - 1)

/-- A single place before the beginning of a text is looked up all the same. -/
def conversionText : List Value → Except Failure String
  | [encoding, .bytes b, .int start, .int stop, reason] => do
      let shown (i : Nat) := (b[i]?).map fun x => "byte 0x" ++ String.ofList (Text.hexCode 2 x.toNat)
      return "'" ++ (← encoding.written) ++ "' codec can't decode " ++
        position shown "bytes" start stop ++ ": " ++ (← reason.written)
  | [encoding, .text s, .int start, .int stop, reason] => do
      let shown (i : Nat) := (s.toList[i]?).map fun c => "character '" ++ escapedCode c ++ "'"
      if start < 0 ∧ stop = start + 1 then throw brokenText
      return "'" ++ (← encoding.written) ++ "' codec can't encode " ++
        position shown "characters" start stop ++ ": " ++ (← reason.written)
  | args => plainText args

/-- The line a parsing failure is given. -/
def givenLine : List Value → Value
  | _ :: line :: _ => line
  | _ => .int 1

/-- The failure of a class with arguments. Making one may fail, and then that is the failure. -/
def ofClass (name : String) (args : List Value) : Failure :=
  let families := familiesOf name
  if name = "ParseError" then
    match (givenLine args).lineNumber with
    | .ok line => ⟨name, families, plainText (args.take 1), line⟩
    | .error f => f
  else if name = "UnknownRuleError" then
    match plainText (args.take 1) with
    | .ok identifier => unknownRule identifier
    | .error f => f
  else if isSystemName name then ⟨systemClass name args, families, systemText args, .int 1⟩
  else if name = "UnicodeDecodeError" ∨ name = "UnicodeEncodeError" then
    ⟨name, families, conversionText args, .int 1⟩
  else if name = "KeyError" then
    ⟨name, families, match args with
      | [v] => v.inspected
      | _ => plainText args, .int 1⟩
  else ⟨name, families, plainText args, .int 1⟩

end Failure

end PhpAudit
