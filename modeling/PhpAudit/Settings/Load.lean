import PhpAudit.Settings.Basic
import PhpAudit.Settings.Coercion

/-!
Loading settings from a value. All faults are collected: fields in the order they are declared,
each before what lies inside the next, and keys without a meaning last.
-/

namespace PhpAudit

/-- A setting, or the faults found while reading it. -/
abbrev Checked (α : Type) := Except (List Fault) α

namespace Checked

variable {α β : Type}

def single (result : Except FaultKind α) : Checked α :=
  result.mapError fun kind => [⟨[], kind⟩]

def under (step : Place) (result : Checked α) : Checked α :=
  result.mapError (·.map (Fault.under step))

def faults : Checked α → List Fault
  | .ok _ => []
  | .error fs => fs

/-- Both results, or the faults of both. -/
def both (a : Checked α) (b : Checked β) : Checked (α × β) :=
  match a, b with
  | .ok x, .ok y => .ok (x, y)
  | a, b => .error (faults a ++ faults b)

/-- Requires `ok`, which is tested once the setting has been read. -/
def ensure (ok : α → Bool) (kind : FaultKind) (result : Checked α) : Checked α :=
  result.bind fun x => if ok x then .ok x else .error [⟨[], kind⟩]

/-- Null stands for an absent setting. -/
def optional (read : Value → Checked α) : Value → Checked (Option α)
  | .null => .ok none
  | v => some <$> read v

/-- All items read, or the faults of all of them. -/
def itemsFrom (read : Value → Checked α) (index : Nat) : List Value → Checked (List α)
  | [] => .ok []
  | v :: rest =>
      (fun e => e.1 :: e.2) <$> both (under (.index index) (read v)) (itemsFrom read (index + 1) rest)

def entriesOf (read : Value → Checked α) : Mapping String Value → Checked (Mapping String α)
  | [] => .ok []
  | (key, v) :: rest =>
      (fun e => (key, e.1) :: e.2) <$> both (under (.key key) (read v)) (entriesOf read rest)

end Checked

namespace Settings

open Checked

/-- An integer that is to be compared with bounds. -/
def boundedInteger (v : Value) : Except FaultKind Int :=
  if (Coercion.constantName? v).isSome then .error .unordered else Coercion.integer v

def integerFrom (low : Int) (v : Value) : Checked Int :=
  ensure (fun n => decide (low ≤ n)) (.below low) (single (boundedInteger v))

def integerWithin (low high : Int) (v : Value) : Checked Int :=
  ensure (fun n => decide (n ≤ high)) (.above high) (integerFrom low v)

def positiveNumber (v : Value) : Checked Float :=
  ensure (fun x => decide (0.0 < x)) (.notAbove 0) (single (Coercion.number v))

def text (v : Value) : Checked String := single (Coercion.text v)

def truth (v : Value) : Checked Bool := single (Coercion.truth v)

def texts (v : Value) : Checked (List String) :=
  (single (Coercion.list v)).bind (itemsFrom text 0)

def anyMapping (v : Value) : Checked (Mapping String Value) := single (Coercion.mapping v)

/-- A field that keeps its default where the mapping has no such key. -/
def field {α : Type} (m : Mapping String Value) (name : String) (read : Value → Checked α)
    (default : α) : Checked α :=
  match Mapping.get? m name with
  | some v => under (.key name) (read v)
  | none => .ok default

/-- One fault for each key outside `names`. -/
def onlyKeys (m : Mapping String Value) (names : List String) : Checked Unit :=
  match (m.filter fun e => !names.contains e.1).map fun e => (⟨[.key e.1], .unexpectedKey⟩ : Fault) with
  | [] => .ok ()
  | faults => .error faults

/-- A group of settings has to be a mapping. -/
def group (title : String) (v : Value) : Checked (Mapping String Value) :=
  match v with
  | .map entries => .ok entries
  | _ => .error [⟨[], .notModel title⟩]

def cache (v : Value) : Checked CacheSettings :=
  (group "CacheConfig" v).bind fun m =>
    (fun e => ⟨e.1.1, e.1.2⟩) <$>
      both (both (field m "max_size" (integerFrom 1) 100)
          (field m "ttl_seconds" positiveNumber 300.0))
        (onlyKeys m ["max_size", "ttl_seconds"])

def limits (v : Value) : Checked LimitSettings :=
  (group "PerformanceConfig" v).bind fun m =>
    (fun e => ⟨e.1.1.1, e.1.1.2, e.1.2⟩) <$>
      both (both (both (field m "slow_check_seconds" positiveNumber 1.0)
            (field m "max_file_seconds" (optional positiveNumber) none))
          (field m "max_file_bytes" (optional (integerFrom 1)) (some 5242880)))
        (onlyKeys m ["slow_check_seconds", "max_file_seconds", "max_file_bytes"])

def engine (v : Value) : Checked EngineSettings :=
  (group "EngineConfig" v).bind fun m =>
    (fun e => ⟨e.1.1.1, e.1.1.2, e.1.2⟩) <$>
      both (both (both (field m "cache" cache {}) (field m "performance" limits {}))
          (field m "max_workers" (integerFrom 1) 1))
        (onlyKeys m ["cache", "performance", "max_workers"])

def filter (v : Value) : Checked FilterSettings :=
  (group "RuleFilterConfig" v).bind fun m =>
    let lists :=
      both (both (field m "categories" texts []) (field m "severities" texts []))
        (field m "tags" texts [])
    let people :=
      both (both (field m "enabled" (optional truth) none) (field m "authors" texts []))
        (field m "class_pattern" (optional text) none)
    let range :=
      both (field m "min_priority" (integerWithin 1 10) 1)
        (field m "max_priority" (integerWithin 1 10) 10)
    let keys :=
      onlyKeys m ["categories", "severities", "tags", "enabled", "authors", "class_pattern",
        "min_priority", "max_priority"]
    (fun e =>
      let ((((categories, severities), tags), ((enabled, authors), classPattern)), (low, high)) := e.1
      { categories, severities, tags, enabled, authors, classPattern,
        minPriority := low, maxPriority := high }) <$>
      both (both (both lists people) range) keys

def runKeys : List String := ["scan_paths", "rules", "rule_options", "engine", "filter"]

def run (m : Mapping String Value) : Checked RunSettings :=
  let ruleOptions (v : Value) : Checked (Mapping String (Mapping String Value)) :=
    (single (Coercion.mapping v)).bind (entriesOf anyMapping)
  (fun e =>
    let ((((scanPaths, rules), ruleOptions), engine), filter) := e
    { scanPaths, rules, ruleOptions, engine, filter,
      extra := m.filter fun entry => !runKeys.contains entry.1 }) <$>
    both (both (both (both (field m "scan_paths" texts []) (field m "rules" texts []))
          (field m "rule_options" ruleOptions []))
        (field m "engine" engine {}))
      (field m "filter" (optional filter) none)

/-- The failure that faults amount to. A comparison that cannot be made ends the reading at once and
is reported alone. -/
def failure (report : List Fault → Failure) (faults : List Fault) : Failure :=
  if faults.any (·.kind == .unordered) then .wrongType FaultKind.unordered.message else report faults

/-- Settings of a run; every fault makes one configuration failure together with the others. -/
def load (v : Value) : Except Failure RunSettings :=
  match v with
  | .map entries =>
      (run entries).mapError <| failure fun faults =>
        .configuration ("Invalid run configuration: " ++ Fault.report "RunConfig" faults)
  | v => .error (.configuration ("Run configuration must be a mapping, got " ++ v.kindName))

/-- A failed check of settings given on their own. -/
def invalid (title : String) (faults : List Fault) : Failure :=
  .plain "ValidationError" (Fault.report title faults)

def loadEngine (v : Value) : Except Failure EngineSettings :=
  (engine v).mapError (failure (invalid "EngineConfig"))

def loadFilter (v : Value) : Except Failure FilterSettings :=
  (filter v).mapError (failure (invalid "RuleFilterConfig"))

end Settings

end PhpAudit
