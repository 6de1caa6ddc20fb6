import PhpAudit.Audit.Load
import PhpAudit.Rule.Check

/-!
Checking one file with the loaded rules, in the order they were loaded. A file that is too large is
skipped; when a file takes too long, its remaining rules are. Every pair of a file and a rule counts
as one unit, whether it was checked or skipped, and a listener hears of each. What rules and
listeners fail with is told, in an incident or in the log, and the run goes on. A failure that cannot
be told ends the run, and so does a text that is no path where the size of the file is asked for.
-/

namespace PhpAudit

/-- What a listener hears after each unit. -/
structure Progress where
  completed : Nat
  total : Nat
  message : String
  deriving DecidableEq, Repr

/-- A listener may fail. -/
abbrev Listener := Progress → Option Failure

/-- A run under way. -/
structure Run where
  session : Session
  completed : Nat := 0
  total : Nat
  /-- What the listener has heard. -/
  heard : List Progress := []

namespace Run

def listenerLine (text : String) : LogLine :=
  ⟨.audit, .warning, "Progress callback failed: " ++ text⟩

/-- Counts a unit and tells the listener. What the listener fails with is noted in the log. -/
def advance (listener : Option Listener) (message : String) (run : Run) :
    Except Failure Unit × Run :=
  let completed := run.completed + 1
  match listener with
  | none => (.ok (), { run with completed := completed })
  | some listen =>
      let progress : Progress := ⟨completed, run.total, message⟩
      let run := { run with completed := completed, heard := run.heard ++ [progress] }
      match (listen progress).map Failure.text with
      | none => (.ok (), run)
      | some (.ok text) => (.ok (), { run with session := run.session.log (listenerLine text) })
      | some (.error f) => (.error f, run)

def skippedMessage (path : String) (rule : Rule) : String :=
  "Skipped " ++ rule.typeName ++ " on " ++ path

def checkedMessage (path : String) (rule : Rule) : String :=
  "Checked " ++ path ++ " with " ++ rule.typeName

/-- Counts the units of rules that are not run on a file. -/
def skip (listener : Option Listener) (path : String) :
    List Rule → Run → Except Failure Unit × Run
  | [], run => (.ok (), run)
  | rule :: rest, run =>
      match run.advance listener (skippedMessage path rule) with
      | (.error f, run) => (.error f, run)
      | (.ok (), run) => run.skip listener path rest

/-- Files a report that belongs to no rule. -/
def file (r : Report) (run : Run) : Run := { run with session := run.session.file r }

end Run

namespace Audit

/-- Checks a file with a rule. Whatever the rule fails with is filed, unless it cannot be told. -/
def runRule (ws : Workspace) (rule : Rule) (path : String) (s : Session) :
    Except Failure (List Finding) × Session :=
  let outcome : Except Failure (List Finding) × Session :=
    match rule.check ws path s with
    | (.error f, s) => (.error f, s)
    | (.ok answer, s) => rule.normalise path answer s
  match outcome with
  | (.ok findings, s) => (.ok findings, s)
  | (.error f, s) =>
      s.submit (Report.ruleProcessing (.text path) f (.text rule.typeName) "" s.clock) []

/-- Checks a file with a rule and counts the unit. -/
def runUnit (ws : Workspace) (listener : Option Listener) (path : String) (rule : Rule) (run : Run) :
    Except Failure (List Finding) × Run :=
  match runRule ws rule path run.session with
  | (.error f, session) => (.error f, { run with session := session })
  | (.ok found, session) =>
      let (told, run) :=
        Run.advance listener (Run.checkedMessage path rule) { run with session := session }
      ((fun _ => found) <$> told, run)

/-- Whether a file has used up its time. -/
def isOverdue (limits : LimitSettings) (elapsed : Float) : Bool :=
  limits.maxFileSeconds.any fun most => decide (most < elapsed)

def overdueText (path : String) (elapsed : Float) (remaining : Nat) : String :=
  path ++ " took " ++ Number.fixedText 3 elapsed ++ "s, skipping " ++ toString remaining ++
    " remaining rule(s)"

/-- What is filed of a file that has used up its time. -/
def overdueReport (path : String) (elapsed : Float) (remaining : Nat) (now : Float) : Report :=
  Report.performanceOf (.text path) (overdueText path elapsed remaining) (Number.generalText 1)
    (.text "") now

/-- Runs rules on a file that was begun at `start`. The first rule is always run; before each later
one the time is tested. -/
def runRules (ws : Workspace) (listener : Option Listener) (path : String) (start : Float)
    (isFirst : Bool) : List Rule → Run → Except Failure (List Finding) × Run
  | [], run => (.ok [], run)
  | rule :: rest, run =>
      let elapsed := run.session.clock - start
      if !isFirst && isOverdue run.session.settings.limits elapsed then
        let run := run.file (overdueReport path elapsed (rest.length + 1) run.session.clock)
        let (told, run) := run.skip listener path (rule :: rest)
        ((fun _ => []) <$> told, run)
      else
        match runUnit ws listener path rule run with
        | (.error f, run) => (.error f, run)
        | (.ok found, run) =>
            let (others, run) := runRules ws listener path start false rest run
            ((found ++ ·) <$> others, run)

/-- The ceiling that a size exceeds, if it exceeds one. -/
def exceededCeiling? (limits : LimitSettings) (size : Nat) : Option Int :=
  limits.maxFileBytes.filter fun most => decide (most < size)

def oversizeText (size : Nat) (ceiling : Int) : String :=
  toString size ++ " bytes exceeds limit of " ++ toString ceiling

/-- What is filed of a file that is too large. -/
def oversizeReport (path : String) (size : Nat) (ceiling : Int) (now : Float) : Report :=
  Report.memoryOf (.text path) (Failure.described "ResourceLimitExceeded" (oversizeText size ceiling))
    (.text "") now

/-- Whether the size of something that is no path would be asked for. -/
def isUnsizable (limits : LimitSettings) (path : String) : Bool :=
  limits.maxFileBytes.isSome && !Files.isPath path

/-- What checking one file gives. -/
structure FileResult where
  findings : List Finding
  skipped : Bool

/-- Checks one file with all rules. -/
def processFile (ws : Workspace) (listener : Option Listener) (rules : List Rule) (path : String)
    (run : Run) : Except Failure FileResult × Run :=
  let limits := run.session.settings.limits
  if isUnsizable limits path then (.error .notPath, run)
  else
    let size := ws.files.size path
    match exceededCeiling? limits size with
    | some ceiling =>
        let run := run.file (oversizeReport path size ceiling run.session.clock)
        let (told, run) := run.skip listener path rules
        ((fun _ => ⟨[], true⟩) <$> told, run)
    | none =>
        let (found, run) := runRules ws listener path run.session.clock true rules run
        ((⟨·, false⟩) <$> found, run)

end Audit

end PhpAudit
