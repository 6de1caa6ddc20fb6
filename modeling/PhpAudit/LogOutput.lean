import PhpAudit.Journal
import PhpAudit.Failure

/-!
Where log lines go. Nothing is written until an output is attached; attaching one replaces the
former. Lines below the threshold are dropped; a threshold of zero leaves the decision to the
default.
-/

namespace PhpAudit

/-- What a format can show of a line. -/
inductive LogField where
  | channel
  | levelName
  | levelNumber
  | message
  deriving DecidableEq, Repr

inductive FormatPart where
  | char (c : Char)
  | field (f : LogField)
  deriving DecidableEq, Repr

abbrev LogFormat := List FormatPart

namespace LogFormat

def spellings : List (List Char × LogField) :=
  [("%(name)s".toList, .channel), ("%(levelname)s".toList, .levelName),
    ("%(levelno)s".toList, .levelNumber), ("%(levelno)d".toList, .levelNumber),
    ("%(message)s".toList, .message)]

/-- Reads a format: fields, doubled percent signs and plain characters. -/
def parse : List Char → Option LogFormat
  | [] => some []
  | c :: rest =>
      if c ≠ '%' then (FormatPart.char c :: ·) <$> parse rest
      else
        match spellings.find? fun e => e.1.isPrefixOf (c :: rest) with
        | some e => (FormatPart.field e.2 :: ·) <$> parse (rest.drop (e.1.length - 1))
        | none =>
            if rest.head? = some '%' then (FormatPart.char '%' :: ·) <$> parse (rest.drop 1) else none
  termination_by cs => cs.length
  decreasing_by
    · exact Nat.lt_succ_self _
    · simp only [List.length_drop, List.length_cons]; omega
    · simp only [List.length_drop, List.length_cons]; omega

def isField : FormatPart → Bool
  | .field _ => true
  | .char _ => false

/-- Whether a format shows nothing of the line. -/
def showsNothing (format : List Char) : Bool :=
  match parse format with
  | some parts => !parts.any isField
  | none => false

end LogFormat

/-- Names of levels; the second ones stand for the same number as those before them. -/
def levelNumbers : List (String × Int) :=
  [("CRITICAL", 50), ("FATAL", 50), ("ERROR", 40), ("WARNING", 30), ("WARN", 30), ("INFO", 20),
    ("DEBUG", 10), ("NOTSET", 0)]

def levelName (number : Int) : String :=
  match levelNumbers.find? fun e => e.2 == number with
  | some e => e.1
  | none => "Level " ++ toString number

/-- The number of a level given by number or name. -/
def levelNumber : Value → Except Failure Int
  | .int n => .ok n
  | .bool b => .ok (if b then 1 else 0)
  | .text name =>
      match levelNumbers.lookup name with
      | some n => .ok n
      | none => .error (.wrongValue ("Unknown level: " ++ Text.quoted name))
  | v => .error (.wrongType ("Level not an integer or a valid string: " ++ v.inspect))

structure LogOutput where
  threshold : Int := 0
  /-- The format of the attached output. -/
  format : Option (List Char) := none

namespace LogOutput

/-- Lines from this level on pass where no threshold is set. -/
def defaultThreshold : Int := 30

/-- The format that stands for an empty one. -/
def plainFormat : List Char := "%(message)s".toList

/-- Attaches an output and sets the threshold. A useless format is refused before the output is
attached, an unknown level after. -/
def configure (o : LogOutput) (level : Value) (format : String) : Except Failure Unit × LogOutput :=
  let chosen := if format.isEmpty then plainFormat else format.toList
  if LogFormat.showsNothing chosen then
    (.error (.wrongValue ("Invalid format '" ++ String.ofList chosen ++ "' for '%' style")),
      { o with format := none })
  else
    match levelNumber level with
    | .ok n => (.ok (), { threshold := n, format := some chosen })
    | .error f => (.error f, { o with format := some chosen })

/-- Outputs that know of the channel: a silent one that is always there, and the attached one. -/
def handlerCount (o : LogOutput) : Nat := if o.format.isSome then 2 else 1

def effectiveThreshold (o : LogOutput) : Int :=
  if o.threshold = 0 then defaultThreshold else o.threshold

/-- The full name of a channel; the empty name is that of the root. -/
def channelName (name : String) : String :=
  if name.isEmpty then rootChannelName else rootChannelName ++ "." ++ name

def render (channel message : String) (level : Int) : FormatPart → String
  | .char c => String.singleton c
  | .field .channel => channel
  | .field .levelName => levelName level
  | .field .levelNumber => toString level
  | .field .message => message

/-- What is written for a line. -/
def write (o : LogOutput) (channel : String) (level : Int) (message : String) : String :=
  if level < o.effectiveThreshold then ""
  else
    match o.format.bind LogFormat.parse with
    | none => ""
    | some parts => String.join (parts.map (render channel message level)) ++ "\n"

end LogOutput

end PhpAudit
