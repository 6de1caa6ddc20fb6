import PhpAudit.Audit.Pool

/-!
Running an audit: every file is checked with every loaded rule. Files come in the order given,
without repetition. With more than one worker files are checked side by side, as a schedule says;
their results are put together in the order of the files all the same.
-/

namespace PhpAudit

namespace Audit

/-- The time each rule has taken in all, by its type name. -/
def ruleTimes (timings : Timings) (rules : List Rule) : Mapping String Value :=
  rules.foldl
    (fun acc rule =>
      Mapping.put acc rule.typeName (Timings.sum (timings.samples rule.typeName Phase.total.name)))
    []

def checkedLine (r : RunRecord) : LogLine :=
  ⟨.audit, .info, "Checked " ++ toString r.filesScanned ++ " file(s) with " ++
    toString r.loaded.rules.length ++ " rule(s): " ++ toString r.totalFindings ++
    " violation(s) in " ++ Number.fixedText 3 r.totalTime ++ "s"⟩

/-- What a run gives: its findings in order and what the listener heard. -/
structure Outcome where
  findings : List Finding
  heard : List Progress

/-- Whether files are checked side by side. -/
def isParallel (settings : EngineSettings) (paths : List String) : Bool :=
  decide (1 < settings.maxWorkers) && decide (1 < paths.length)

/-- The results of all files. Without workers to spare a file is begun when the one before it has
come to its end. -/
def processFiles (ws : Workspace) (listener : Option Listener) (rules : List Rule)
    (schedule : List Nat) (paths : List String) (run : Run) :
    Except Failure (List FileResult) × Run :=
  let pool := Pool.start paths run
  let pool :=
    if isParallel run.session.settings paths then pool.follow ws listener rules schedule else pool
  FileTask.completeAll ws listener rules pool.tasks pool.run

/-- Checks paths with rules that have been loaded. -/
def scan (ws : Workspace) (listener : Option Listener) (schedule : List Nat) (a : Audit)
    (loaded : LoadedRules) (paths : List String) (s : Session) :
    Except Failure Outcome × Audit × Session :=
  let total := paths.length * loaded.rules.length
  match processFiles ws listener loaded.rules schedule paths { session := s, total := total } with
  | (.error f, run) => (.error f, { a with state := .scanning }, run.session)
  | (.ok results, run) =>
      let findings := results.flatMap (·.findings)
      let record : RunRecord := {
        filesScanned := paths.length
        filesSkipped := results.countP (·.skipped)
        loaded := loaded
        unitsProcessed := run.completed
        totalFindings := findings.length
        scanPaths := a.scanPaths
        totalTime := run.session.clock - s.clock
        ruleTimes := ruleTimes run.session.timings loaded.rules }
      (.ok ⟨findings, run.heard⟩, { a with state := .done, lastRun := some record },
        run.session.log (checkedLine record))

/-- The paths of a run: those given, or else those of the audit. -/
def pathsOf (a : Audit) : Value → Except Failure (List Value)
  | .null => .ok a.scanPaths
  | .list items => .ok items
  | .tuple items => .ok items
  | v => .error (.configuration ("Files must be a list of paths, got " ++ v.kindName))

/-- Runs the audit on files, loading its rules first if need be. -/
def run (ws : Workspace) (listener : Option Listener) (schedule : List Nat) (a : Audit)
    (files : Value) (s : Session) : Except Failure Outcome × Audit × Session :=
  match a.pathsOf files with
  | .error f => (.error f, a, s)
  | .ok values =>
      match a.ensureLoaded s with
      | (.error f, a, s) => (.error f, a, s)
      | (.ok loaded, a, s) =>
          match values.mapM Value.written with
          | .error f => (.error f, a, s)
          | .ok texts => a.scan ws listener schedule loaded (firstOccurrences texts) s

end Audit

end PhpAudit
