import PhpAudit.Finding
import PhpAudit.Journal
import PhpAudit.Text.Search

/-!
Incidents: failures that were filed while files were checked. Each is filed under one topic, which
settles its severity and thereby the log it goes to; filing gives an incident, a finding of the
same shape as a rule's, and a log line. What cannot be told is not filed: a failure without a text,
a file that cannot be written, a line that is no number.
-/

namespace PhpAudit

/-- What an incident is about. -/
inductive Topic where
  | parsing
  | validation
  | fileAccess
  | memory
  | performance
  | configuration
  | ruleProcessing
  deriving DecidableEq, Repr

namespace Topic

def all : List Topic :=
  [.parsing, .validation, .fileAccess, .memory, .performance, .configuration, .ruleProcessing]

def name : Topic → String
  | .parsing => "PARSING"
  | .validation => "VALIDATION"
  | .fileAccess => "FILE_ACCESS"
  | .memory => "MEMORY"
  | .performance => "PERFORMANCE"
  | .configuration => "CONFIGURATION"
  | .ruleProcessing => "RULE_PROCESSING"

/-- The category of the findings it gives. -/
def category : Topic → String
  | .parsing => "parsing"
  | .validation => "validation"
  | .fileAccess => "file_access"
  | .memory => "memory"
  | .performance => "performance"
  | .configuration => "configuration"
  | .ruleProcessing => "rule_processing"

def description : Topic → String
  | .parsing => "PHP parsing errors"
  | .validation => "Data validation errors"
  | .fileAccess => "File access issues"
  | .memory => "Memory-related issues"
  | .performance => "Performance warnings"
  | .configuration => "Configuration issues"
  | .ruleProcessing => "Rule processing errors"

def severity : Topic → Severity
  | .validation | .performance => .warning
  | _ => .error

/-- Whether going on is expected to be of use. -/
def recoverable : Topic → Bool
  | .validation | .memory | .performance | .configuration => true
  | _ => false

def badCode : Topic → String
  | .parsing => "Invalid PHP syntax"
  | .validation => "Nullable type access"
  | .fileAccess => "File access denied"
  | .memory => "Large file processing"
  | .performance => "Slow processing detected"
  | .configuration => "Invalid rule configuration"
  | .ruleProcessing => "Rule processing failure"

/-- The topic a failure belongs to; of several families the first one here decides. -/
def ofFailure (f : Failure) : Topic :=
  if f.isA .parsing then .parsing
  else if f.isA .resources then .memory
  else if f.isA .time then .performance
  else if f.isA .configuration then .configuration
  else if f.isA .access then .fileAccess
  else if f.isA .types then .validation
  else .ruleProcessing

end Topic

structure Incident where
  topic : Topic
  file : String
  /-- A number from 1 on, of any kind. -/
  line : Value
  message : String
  suggestedFix : String
  /-- The rule that was running, or whatever was named in its place. -/
  rule : Value
  timestamp : Float

namespace Incident

def severity (i : Incident) : Severity := i.topic.severity

def toMapping (i : Incident) : Mapping String Value :=
  [("type", .text i.topic.name), ("file", .text i.file), ("line", i.line),
    ("message", .text i.message), ("bad_code", .text i.topic.badCode),
    ("severity", .text i.severity.name), ("suggested_fix", .text i.suggestedFix),
    ("recoverable", .bool i.topic.recoverable), ("rule", i.rule), ("timestamp", .float i.timestamp)]

end Incident

/-- What filing one failure gives. -/
structure Report where
  incident : Incident
  finding : Finding
  logLine : LogLine

namespace Report

/-- Message and topic, then the file and the rule as far as they are known. -/
def logText (topic : Topic) (file : Value) (message : String) (rule : Value) : String :=
  message ++ " [" ++ topic.name ++ "]" ++
    (if file.isEmpty then "" else " file=" ++ file.display) ++
    (if rule.isEmpty then "" else " rule=" ++ rule.display)

def make (topic : Topic) (file : Value) (rule : Value) (line : Value) (now : Float)
    (message fix shownMessage shownFix : String) : Report where
  incident := ⟨topic, file.display, line, message, fix, rule, now⟩
  finding := {
    file := file.display
    line := Finding.normalLine line
    message := .text shownMessage
    badCode := .text topic.badCode
    suggestedFix := .text shownFix
    severity := topic.severity
    category := topic.category
    rule := rule
    tags := []
    metadata := [("recoverable", .bool topic.recoverable)] }
  logLine := {
    channel := .incidents
    level := if topic.severity = .warning then .warning else .error
    text := logText topic file message rule }

/-- A report, if its file can be written. -/
def about (file : Value) (r : Report) : Except Failure Report := (fun _ => r) <$> file.written

/-- Hints by what the parser's message mentions; the first that fits is given. -/
def parsingHints : List (String × String) :=
  [("unterminated", "Check for unclosed strings or comments"),
    ("unexpected", "Check for syntax errors around the reported line"),
    ("missing", "Check for missing semicolons, brackets, or quotes")]

def parsingHint (message : String) : String :=
  let lowered := Text.lower message
  match parsingHints.find? fun hint => Text.contains lowered hint.1 with
  | some hint => hint.2
  | none => "Review PHP syntax near the reported line"

def parsing (file : Value) (f : Failure) (rule : Value) (now : Float) : Except Failure Report := do
  let text ← f.text
  let _ ← file.written
  let line ← (f.line.orElse (.int 1)).lineNumber
  let message := "PHP parsing error: " ++ text
  let hint := parsingHint text
  return make .parsing file rule line now message hint message hint

/-- A report on what a failure of types is described as. -/
def validationOf (file : Value) (described : String) (rule : Value) (now : Float) : Report :=
  make .validation file rule (.int 1) now ("Type handling error: " ++ described)
    "Update rule to handle missing or nullable AST nodes" "Type handling issue detected"
    "Update rule implementation to handle nullable types"

def validation (file : Value) (f : Failure) (rule : Value) (now : Float) : Except Failure Report := do
  about file (validationOf file (← f.describe) rule now)

def fileAccess (file : Value) (f : Failure) (rule : Value) (now : Float) : Except Failure Report := do
  let described ← f.describe
  about file (make .fileAccess file rule (.int 1) now ("File access error: " ++ described)
    "Check file permissions and existence" ("Cannot access file: " ++ Text.baseName file.display)
    "Check file permissions and ensure file exists")

def memoryOf (file : Value) (described : String) (rule : Value) (now : Float) : Report :=
  make .memory file rule (.int 1) now ("Memory limit exceeded: " ++ described)
    "Raise the size ceiling or process the file in chunks"
    "Memory limit exceeded while processing file"
    "Raise the file size ceiling or use chunked processing"

def memory (file : Value) (f : Failure) (rule : Value) (now : Float) : Except Failure Report := do
  about file (memoryOf file (← f.describe) rule now)

/-- The threshold is given as it is printed. -/
def performanceOf (file : Value) (message threshold : String) (rule : Value) (now : Float) : Report :=
  make .performance file rule (.int 1) now
    ("Performance warning: " ++ message ++ " (threshold " ++ threshold ++ "s)")
    "Consider optimizing rule implementation or using caching"
    ("Performance issue detected: " ++ message) "Optimize rule implementation or enable caching"

def performance (file : Value) (message : String) (threshold rule : Value) (now : Float) :
    Except Failure Report := do
  about file (performanceOf file message (← threshold.generalText) rule now)

def configuration (identifier : Value) (f : Failure) (file : Value) (now : Float) :
    Except Failure Report := do
  let name ← identifier.written
  let described ← f.describe
  about file (make .configuration file identifier (.int 1) now
    ("Configuration error for '" ++ name ++ "': " ++ described)
    "Check the rule identifier and its options" ("Rule '" ++ name ++ "' could not be loaded")
    "Check the rule identifier and its options")

def ruleProcessing (file : Value) (f : Failure) (rule : Value) (message : String) (now : Float) :
    Except Failure Report := do
  let text ← if message.isEmpty then f.describe else .ok message
  about file (make .ruleProcessing file rule (.int 1) now ("Rule processing error: " ++ text)
    "Check the rule implementation for bugs or compatibility issues"
    ("Rule '" ++ (rule.orElse (.text "unknown")).display ++ "' failed on this file")
    "Check the rule implementation for bugs or compatibility issues")

/-- The threshold of a warning that names none. -/
def defaultThreshold : Value := .float 1

/-- Files a failure under its topic. A message given with it replaces the text of a time or rule
failure; a configuration failure is named after the rule or else after the file. -/
def ofFailure (file : Value) (f : Failure) (message : String) (rule : Value) (now : Float) :
    Except Failure Report :=
  match Topic.ofFailure f with
  | .parsing => parsing file f rule now
  | .validation => validation file f rule now
  | .fileAccess => fileAccess file f rule now
  | .memory => memory file f rule now
  | .performance => do
      let text ← if message.isEmpty then f.text else .ok message
      performance file text defaultThreshold rule now
  | .configuration => configuration (rule.orElse file) f file now
  | .ruleProcessing => ruleProcessing file f rule message now

/-- The finding that comes back once the incident has been filed. By then the log line has named the
rule, which may not be possible. -/
def answer (r : Report) : Except Failure Finding :=
  if r.incident.rule.isEmpty then .ok r.finding else (fun _ => r.finding) <$> r.incident.rule.written

end Report

/-- The incidents of a run, in the order they were filed. -/
structure IncidentLog where
  errors : List Incident := []
  warnings : List Incident := []

namespace IncidentLog

def add (log : IncidentLog) (i : Incident) : IncidentLog :=
  if i.severity = .warning then { log with warnings := log.warnings ++ [i] }
  else { log with errors := log.errors ++ [i] }

def all (log : IncidentLog) : List Incident := log.errors ++ log.warnings

def count (log : IncidentLog) (topic : Topic) : Nat := log.all.countP (·.topic == topic)

def hasRecoverable (log : IncidentLog) : Bool := log.errors.any (·.topic.recoverable)

def stats (log : IncidentLog) : Mapping String Value :=
  [("total_errors", .int log.errors.length), ("total_warnings", .int log.warnings.length),
    ("categories", .map (Topic.all.map fun topic => (topic.name,
      .map [("description", .text topic.description), ("count", .int (log.count topic))])))]

/-- Warnings about time before caching is advised. -/
def cacheAdviceThreshold : Nat := 2

def suggestions (log : IncidentLog) : List String :=
  (if 0 < log.count .parsing then
    ["Consider adding syntax validation before rule processing"] else []) ++
  (if 0 < log.count .memory then ["Implement chunked processing for large files"] else []) ++
  (if cacheAdviceThreshold ≤ log.count .performance then
    ["Enable AST caching and tune its size and TTL for this workload"] else [])

def report (log : IncidentLog) : Mapping String Value :=
  [("summary", .map log.stats),
    ("errors", .list (log.errors.map fun i => .map i.toMapping)),
    ("warnings", .list (log.warnings.map fun i => .map i.toMapping)),
    ("has_recoverable_errors", .bool log.hasRecoverable),
    ("suggestions", .list (log.suggestions.map .text))]

end IncidentLog

/-- The ways to file something: a failure under the topic it belongs to, or under a given topic. -/
inductive Filing where
  | failure (file : Value) (f : Failure) (message : String) (rule : Value)
  | parsing (file : Value) (f : Failure) (rule : Value)
  | validation (file : Value) (f : Failure) (rule : Value)
  | fileAccess (file : Value) (f : Failure) (rule : Value)
  | memory (file : Value) (f : Failure) (rule : Value)
  | performance (file : Value) (message : String) (threshold rule : Value)
  | configuration (identifier : Value) (f : Failure) (file : Value)
  | ruleProcessing (file : Value) (f : Failure) (rule : Value) (message : String)

/-- What is filed at a given time. -/
def Filing.report (now : Float) : Filing → Except Failure Report
  | .failure file f message rule => Report.ofFailure file f message rule now
  | .parsing file f rule => Report.parsing file f rule now
  | .validation file f rule => Report.validation file f rule now
  | .fileAccess file f rule => Report.fileAccess file f rule now
  | .memory file f rule => Report.memory file f rule now
  | .performance file message threshold rule => Report.performance file message threshold rule now
  | .configuration identifier f file => Report.configuration identifier f file now
  | .ruleProcessing file f rule message => Report.ruleProcessing file f rule message now

/-- A call to the keeper of the logs. -/
inductive HandlerCall where
  | file (filing : Filing) (now : Float)
  | clear

namespace IncidentLog

/-- What a call comes to: the finding of what was filed, if anything was, and the logs. -/
def take (log : IncidentLog) : HandlerCall → Except Failure (Option Finding) × IncidentLog
  | .file filing now =>
      match filing.report now with
      | .error f => (.error f, log)
      | .ok r => (some <$> r.answer, log.add r.incident)
  | .clear => (.ok none, {})

/-- The logs after the given calls, empty at first. -/
def replay (calls : List HandlerCall) : IncidentLog := calls.foldl (fun log call => (log.take call).2) {}

end IncidentLog

end PhpAudit
