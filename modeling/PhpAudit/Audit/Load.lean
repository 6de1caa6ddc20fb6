import PhpAudit.Audit.Basic

/-!
Loading the rules of an audit. Each entry gives a rule or is counted as failed and filed as an
incident; then the criteria, if there are any, drop some of the rules.
-/

namespace PhpAudit

namespace Audit

/-- The options for a name: those under the name itself or else under its identifier. -/
def optionsFor (a : Audit) (name : String) : Except Failure (Mapping String Value) :=
  match Mapping.get? a.ruleOptions name with
  | some options => .ok options
  | none => do
      let identifier ← a.catalogue.resolve name
      return (Mapping.get? a.ruleOptions identifier).getD []

/-- The rule of an entry. -/
def buildEntry (a : Audit) : Entry → Except Failure Rule
  | .rule r => .ok r
  | .name name => do
      let options ← a.optionsFor name
      a.catalogue.create name (.map options)
  | .other v => .error (.configuration
      ("Rule entries must be identifiers or rules, got " ++ v.kindName))

/-- Files that an entry has failed. Only failures about configuration are filed, and only if they can
be told; any other ends the loading. -/
def entryReport (entry : Entry) (f : Failure) (now : Float) : Except Failure Report := do
  if f.isA .configuration then Report.configuration (.text (← entry.title)) f (.text "") now
  else throw f

/-- The rules of the entries, and how many of them failed. -/
def buildEntries (a : Audit) : List Entry → Session → Except Failure (List Rule × Nat) × Session
  | [], s => (.ok ([], 0), s)
  | entry :: rest, s =>
      match a.buildEntry entry with
      | .ok rule =>
          let (others, s) := a.buildEntries rest s
          ((fun others => (rule :: others.1, others.2)) <$> others, s)
      | .error f =>
          match s.submit (entryReport entry f s.clock) () with
          | (.error g, s) => (.error g, s)
          | (.ok (), s) =>
              let (others, s) := a.buildEntries rest s
              ((fun others => (others.1, others.2 + 1)) <$> others, s)

/-- The entries to be loaded: those given, or else all rules enabled by default. -/
def effectiveEntries (a : Audit) : Except Failure (List Entry) × List LogLine :=
  if a.entries.isEmpty then
    let (names, lines) := a.catalogue.defaults
    (List.map .name <$> names, lines)
  else (.ok a.entries, [])

def loadedLine (l : LoadedRules) : LogLine :=
  ⟨.audit, .info, "Loaded " ++ toString l.rules.length ++ " rule(s), " ++ toString l.failed ++
    " failed, " ++ toString l.filtered ++ " filtered out"⟩

/-- The rules that are kept of those built, and the number of the others. -/
def applyCriteria (a : Audit) (rules : List Rule) : Except Failure (List Rule × Nat) :=
  match a.criteria with
  | none => .ok (rules, 0)
  | some c => (fun kept => (kept, rules.length - kept.length)) <$> c.select rules

/-- The rules that are built and kept, with the numbers of those that are not. -/
def gather (a : Audit) (entries : List Entry) (s : Session) : Except Failure LoadedRules × Session :=
  let (built, s) := a.buildEntries entries s
  (do
    let (rules, failed) ← built
    let (kept, filtered) ← a.applyCriteria rules
    return ⟨kept, failed, filtered⟩, s)

/-- Loads the rules. If this fails, nothing is loaded. -/
def load (a : Audit) (s : Session) : Except Failure LoadedRules × Audit × Session :=
  let a := { a with state := .loading }
  let (entries, lines) := a.effectiveEntries
  let s := s.logAll lines
  match entries with
  | .error f => (.error f, a, s)
  | .ok entries =>
      match a.gather entries s with
      | (.error f, s) => (.error f, a, s)
      | (.ok loaded, s) => (.ok loaded, { a with loaded := some loaded }, s.log (loadedLine loaded))

/-- The rules that were loaded; they are loaded now if they were not. -/
def ensureLoaded (a : Audit) (s : Session) : Except Failure LoadedRules × Audit × Session :=
  match a.loaded with
  | some loaded => (.ok loaded, a, s)
  | none => a.load s

end Audit

end PhpAudit
