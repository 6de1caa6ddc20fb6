import PhpAudit.Catalogue
import PhpAudit.Session
import PhpAudit.Settings.Load

/-!
An audit: rules to be loaded, by name or ready made, and files to be checked with them. Its state
tells how far it has come, and after a run it remembers the figures of that run.
-/

namespace PhpAudit

inductive AuditState where
  | idle
  | loading
  | scanning
  | done
  deriving DecidableEq, Repr

def AuditState.name : AuditState → String
  | .idle => "idle"
  | .loading => "loading"
  | .scanning => "scanning"
  | .done => "done"

/-- What stands in the list of rules: a name, a rule, or something else by mistake. -/
inductive Entry where
  | name (s : String)
  | rule (r : Rule)
  | other (v : Value)

namespace Entry

def ofValue : Value → Entry
  | .text s => .name s
  | v => .other v

/-- How reports call the entry. -/
def title : Entry → Except Failure String
  | .name s => .ok s
  | .rule r => r.summary
  | .other v => v.written

end Entry

/-- The outcome of loading. -/
structure LoadedRules where
  rules : List Rule
  failed : Nat
  filtered : Nat

/-- The figures of a run. -/
structure RunRecord where
  filesScanned : Nat
  filesSkipped : Nat
  loaded : LoadedRules
  unitsProcessed : Nat
  totalFindings : Nat
  scanPaths : List Value
  totalTime : Float
  /-- Time spent by each rule so far. -/
  ruleTimes : Mapping String Value

structure Audit where
  entries : List Entry := []
  ruleOptions : Mapping String (Mapping String Value) := []
  catalogue : Catalogue := Catalogue.bundled
  /-- Files of a run that is given none. -/
  scanPaths : List Value := []
  criteria : Option Criteria := none
  state : AuditState := .idle
  loaded : Option LoadedRules := none
  lastRun : Option RunRecord := none

namespace Audit

/-- Options by rule name, each a mapping. -/
def readRuleOptions (v : Value) : Except Failure (Mapping String (Mapping String Value)) :=
  match v.orElse (.map []) with
  | .map entries => entries.mapM fun e => (e.1, ·) <$> e.2.entries
  | v => .error (.noAttribute ("'" ++ v.kindName ++ "' object has no attribute 'items'"))

/-- A new audit. An empty catalogue is replaced by the bundled one. -/
def create (entries : List Entry) (ruleOptions : Value) (catalogue : Catalogue) (scanPaths : Value)
    (criteria : Option Criteria) : Except Failure Audit := do
  let options ← readRuleOptions ruleOptions
  let paths ← (scanPaths.orElse (.list [])).elements
  return {
    entries := entries
    ruleOptions := options
    catalogue := if catalogue.size = 0 then Catalogue.bundled else catalogue
    scanPaths := paths
    criteria := criteria }

/-- A new audit by the settings of a run. -/
def ofSettings (settings : RunSettings) (catalogue : Catalogue) : Except Failure Audit := do
  let criteria ← match settings.filter with
    | some filter => some <$> Criteria.ofSettings filter
    | none => pure none
  create (settings.rules.map .name) (.map (settings.ruleOptions.map fun e => (e.1, .map e.2)))
    catalogue (.texts settings.scanPaths) criteria

/-- A new audit and the session it runs in, by a configuration. -/
def configure (config : Value) (catalogue : Catalogue) (clock : Float) :
    Except Failure (Audit × Session) := do
  let settings ← Settings.load config
  let audit ← ofSettings settings catalogue
  let session ← Session.create settings.engine clock
  return (audit, session)

/-- The figures of the last run; none before the first. -/
def statistics (a : Audit) : Mapping String Value :=
  match a.lastRun with
  | none => []
  | some r =>
      [("files_scanned", .int r.filesScanned), ("files_skipped", .int r.filesSkipped),
        ("rules_loaded", .int r.loaded.rules.length), ("rules_failed", .int r.loaded.failed),
        ("rules_filtered", .int r.loaded.filtered), ("units_processed", .int r.unitsProcessed),
        ("total_violations", .int r.totalFindings), ("scan_paths", .list r.scanPaths)]

def performance (a : Audit) : Mapping String Value :=
  match a.lastRun with
  | none => [("total_time", .float 0.0), ("rules", .map [])]
  | some r => [("total_time", .float r.totalTime), ("rules", .map r.ruleTimes)]

/-- State, figures, cache and incidents together. -/
def report (a : Audit) (s : Session) : Mapping String Value :=
  [("state", .text a.state.name), ("statistics", .map a.statistics),
    ("performance", .map a.performance), ("cache", .map s.cache.stats),
    ("errors", .map s.incidents.report)]

end Audit

end PhpAudit
