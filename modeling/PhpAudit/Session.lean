import PhpAudit.Incident
import PhpAudit.Settings.Basic
import PhpAudit.Timings
import PhpAudit.TreeCache
import PhpAudit.Workspace

/-!
The state that all checks of a run share: the clock, the tree cache, timing samples, incidents and
log lines. Everything a check does to the outside it does to this state.
-/

namespace PhpAudit

structure Session where
  clock : Float
  settings : EngineSettings
  cache : TreeCache
  timings : Timings := []
  incidents : IncidentLog := {}
  journal : List LogLine := []

namespace Session

/-- A fresh session; the settings give the cache its size and the lifetime of its entries. -/
def create (settings : EngineSettings) (clock : Float) : Except Failure Session := do
  let cache ← TreeCache.create settings.cache.maxSize (.float settings.cache.ttlSeconds)
  return { clock := clock, settings := settings, cache := cache }

def wait (s : Session) (seconds : Float) : Session := { s with clock := s.clock + seconds }

def log (s : Session) (line : LogLine) : Session := { s with journal := s.journal ++ [line] }

def logAll (s : Session) (lines : List LogLine) : Session := { s with journal := s.journal ++ lines }

/-- Files a report. -/
def file (s : Session) (r : Report) : Session :=
  { s with incidents := s.incidents.add r.incident, journal := s.journal ++ [r.logLine] }

/-- Files a report if it can be made, and gives a value in its place. -/
def submit {α : Type} (report : Except Failure Report) (value : α) (s : Session) :
    Except Failure α × Session :=
  match report with
  | .error f => (.error f, s)
  | .ok r => (.ok value, s.file r)

def time (s : Session) (rule : String) (phase : Phase) (seconds : Float) : Session :=
  { s with timings := s.timings.record rule phase seconds }

/-- Drops trees, samples and incidents. -/
def reset (s : Session) : Session :=
  { s with cache := s.cache.clear.2, timings := [], incidents := {} }

/-- Parses after a miss, and stores the tree. -/
def parseAndStore (g : Grammar) (path key : String) (content : Bytes) (s : Session) :
    Except Failure SyntaxTree × Session :=
  let s := s.wait (g.seconds content)
  match (g.read content).parse content with
  | .error fault => (.error fault.toFailure, s)
  | .ok tree =>
      let s := s.log (TreeCache.parsedLine path tree.source.length)
      let lines := s.cache.evictionLines key
      (.ok tree, { s.logAll lines with cache := s.cache.store key tree s.clock })

/-- The tree of a content: from the cache, or parsed and stored. Between the two phases of a miss
`meanwhile` happens, which may fail the fetch. -/
def fetchWith (g : Grammar) (path : String) (content : Bytes) (mtime : Value)
    (meanwhile : Session → Except Failure Unit × Session) (s : Session) :
    Except Failure SyntaxTree × Session :=
  let key := TreeCache.fingerprint content mtime
  match s.cache.lookup key s.clock with
  | (some tree, cache) => (.ok tree, { s with cache := cache })
  | (none, cache) =>
      match meanwhile { s with cache := cache } with
      | (.error f, s) => (.error f, s)
      | (.ok (), s) => parseAndStore g path key content s

def fetch (g : Grammar) (path : String) (content : Bytes) (mtime : Value) (s : Session) :
    Except Failure SyntaxTree × Session :=
  fetchWith g path content mtime (fun s => (.ok (), s)) s

/-- A fetch during whose parse another fetch of the same content runs from start to end. -/
def fetchRacing (g : Grammar) (path : String) (content : Bytes) (mtime : Value) (s : Session) :
    Except Failure SyntaxTree × Session :=
  fetchWith g path content mtime
    (fun s =>
      match fetch g path content mtime s with
      | (.ok _, s) => (.ok (), s)
      | (.error f, s) => (.error f, s))
    s

end Session

end PhpAudit
